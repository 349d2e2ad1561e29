import Leasehold.Text.Ranges

/-!
# Percent-encoding

A byte is written as `%` and two hexadecimal digits where its character may not stand for itself.
Each place of a URL has its own set of characters that are written so; the bytes of characters
beyond ASCII always are.

* `percentEncode` writes a text.
* `percentDecode` reads the bytes of one.
* `formEncode` is the encoding of names and values in a query.
-/

namespace Leasehold.Url

/-- The bytes of a text. -/
def utf8 (cs : List Char) : List UInt8 := cs.flatMap String.utf8EncodeChar

/-- The ASCII characters that are written by number in some place. -/
abbrev EncodeSet := Char → Bool

namespace EncodeSet

/-- The control characters. -/
def control : EncodeSet := fun c => c.toNat < 0x20 || c.toNat == 0x7F

/-- In a fragment. -/
def fragment : EncodeSet := fun c =>
  control c || c == ' ' || c == '"' || c == '<' || c == '>' || c == '`'

/-- In a query. -/
def query : EncodeSet := fun c =>
  control c || c == ' ' || c == '"' || c == '#' || c == '<' || c == '>'

/-- In the query of a scheme with a default port. -/
def specialQuery : EncodeSet := fun c => query c || c == '\''

/-- In a path. -/
def path : EncodeSet := fun c =>
  fragment c || c == '#' || c == '?' || c == '^' || c == '\x7b' || c == '\x7d'

/-- In a user's name or password. -/
def user : EncodeSet := fun c =>
  path c || c == '/' || c == ':' || c == ';' || c == '=' || c == '@' || c == '[' || c == '\\' ||
    c == ']' || c == '|'

/-- In a form: all but letters, digits and four marks. -/
def form : EncodeSet := fun c =>
  !(c.isAlphanum || c == '*' || c == '-' || c == '.' || c == '_')

end EncodeSet

/-- The uppercase hexadecimal digit of a value below sixteen. -/
def hexDigit (n : Nat) : Char :=
  if n < 10 then Char.ofNat ('0'.toNat + n) else Char.ofNat ('A'.toNat + (n - 10))

/-- A byte by number. -/
def encodeByte (b : UInt8) : List Char := ['%', hexDigit (b.toNat / 16), hexDigit (b.toNat % 16)]

/-- A character as it stands where the characters of a set are written by number. -/
def encodeChar (set : EncodeSet) (c : Char) : List Char :=
  if c.toNat < 128 && !set c then [c] else (String.utf8EncodeChar c).flatMap encodeByte

/-- A text where the characters of a set are written by number. -/
def percentEncode (set : EncodeSet) (cs : List Char) : List Char := cs.flatMap (encodeChar set)

/-- The value of a byte that is a hexadecimal digit. -/
def hexByte? (b : UInt8) : Option Nat := Text.hexValue? (Char.ofNat b.toNat)

/-- The value of two bytes that are hexadecimal digits. -/
def hexPair? (h l : UInt8) : Option UInt8 :=
  match hexByte? h, hexByte? l with
  | some m, some n => some (UInt8.ofNat (m * 16 + n))
  | _, _ => none

/-- Bytes with those written by number put in their places. -/
def percentDecode : List UInt8 → List UInt8
  | b :: h :: l :: rest =>
    if b = 37 then
      match hexPair? h l with
      | some d => d :: percentDecode rest
      | none => b :: percentDecode (h :: l :: rest)
    else b :: percentDecode (h :: l :: rest)
  | bs => bs

/-- The text of bytes, if they are one. -/
def textOf? (bs : List UInt8) : Option (List Char) :=
  (String.fromUTF8? ⟨bs.toArray⟩).map String.toList

/-- A name or value in a query. -/
def formEncode (cs : List Char) : List Char :=
  cs.flatMap fun c => if c == ' ' then ['+'] else encodeChar EncodeSet.form c

theorem percentEncode_eq_self {set : EncodeSet} {cs : List Char}
    (h : ∀ c ∈ cs, c.toNat < 128 ∧ set c = false) : percentEncode set cs = cs := by
  induction cs with
  | nil => rfl
  | cons c rest ih =>
    have hc := h c (by simp)
    have hr := ih fun d hd => h d (by simp [hd])
    simp [percentEncode, encodeChar, hc.1, hc.2] at hr ⊢
    exact hr

end Leasehold.Url
