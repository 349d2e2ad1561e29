/-!
# Labels beyond ASCII in ASCII

A label with characters beyond ASCII is written as its ASCII characters, a hyphen, and digits to the
base 36 for where the other characters go, smallest first.

* `Punycode.encode` writes a label.
* `Punycode.decode?` reads one.
-/

namespace Leasehold.Punycode

/-- The digit of a value below 36. -/
def digitChar (d : Nat) : Char :=
  if d < 26 then Char.ofNat ('a'.toNat + d) else Char.ofNat ('0'.toNat + (d - 26))

/-- The value of a digit, in either case. -/
def digitValue? (c : Char) : Option Nat :=
  if 'a' ≤ c ∧ c ≤ 'z' then some (c.toNat - 'a'.toNat)
  else if 'A' ≤ c ∧ c ≤ 'Z' then some (c.toNat - 'A'.toNat)
  else if '0' ≤ c ∧ c ≤ '9' then some (c.toNat - '0'.toNat + 26)
  else none

/-- The value from which on a digit at place `k` is followed by another one. -/
def threshold (k bias : Nat) : Nat :=
  if k ≤ bias + 1 then 1 else if bias + 26 ≤ k then 26 else k - bias

theorem threshold_pos (k bias : Nat) : 1 ≤ threshold k bias := by
  unfold threshold
  split
  · omega
  · split <;> omega

/-- Divides until the rest is small, counting places from `k`. -/
def settle (delta k : Nat) : Nat :=
  if 455 < delta then settle (delta / 35) (k + 36) else k + 36 * delta / (delta + 38)
termination_by delta
decreasing_by exact Nat.div_lt_self (by omega) (by omega)

/-- The bias after a number `delta`, `length` characters being placed. -/
def adapt (delta length : Nat) (isFirst : Bool) : Nat :=
  let scaled := if isFirst then delta / 700 else delta / 2
  settle (scaled + scaled / length) 0

/-- A number in digits, from place `k` on. -/
def digits (bias k q : Nat) : List Char :=
  let t := threshold k bias
  if q < t then [digitChar q]
  else digitChar (t + (q - t) % (36 - t)) :: digits bias (k + 36) ((q - t) / (36 - t))
termination_by q
decreasing_by
  have := threshold_pos k bias
  calc (q - threshold k bias) / (36 - threshold k bias)
      ≤ q - threshold k bias := Nat.div_le_self _ _
    _ < q := by omega

/-- A label in the middle of being written: the digits so far, the number under way, the bias and
how many characters have been placed. -/
structure Encoding where
  out : List Char
  delta : Nat
  bias : Nat
  placed : Nat

/-- Passes one character of the label while the characters `m` are placed. -/
def Encoding.pass (first m : Nat) (s : Encoding) (c : Char) : Encoding :=
  if c.toNat < m then { s with delta := s.delta + 1 }
  else if c.toNat = m then
    { out := s.out ++ digits s.bias 36 s.delta
      delta := 0
      bias := adapt s.delta (s.placed + 1) (s.placed == first)
      placed := s.placed + 1 }
  else s

/-- Places the characters of the list `points`, the last one placed being below `n`. -/
def Encoding.place (label : List Char) (first : Nat) : List Nat → Nat → Encoding → Encoding
  | [], _, s => s
  | m :: rest, n, s =>
    let s := { s with delta := s.delta + (m - n) * (s.placed + 1) }
    let s := label.foldl (Encoding.pass first m) s
    Encoding.place label first rest (m + 1) { s with delta := s.delta + 1 }

/-- The code points of a label beyond ASCII, each once, smallest first. -/
def points (label : List Char) : List Nat :=
  (((label.map Char.toNat).filter (128 ≤ ·)).mergeSort (· ≤ ·)).eraseDups

/-- A label in ASCII. -/
def encode (label : List Char) : List Char :=
  let ascii := label.filter fun c => c.toNat < 128
  let start : Encoding := ⟨[], 0, 72, ascii.length⟩
  ascii ++ (if ascii.isEmpty then [] else ['-']) ++
    (Encoding.place label ascii.length (points label) 128 start).out

/-- A label in the middle of being read: its characters so far, the next code point and place, the
place at which the number under way began, its weight and digit place, and the bias. -/
structure Decoding where
  text : List Char
  point : Nat
  place : Nat
  start : Nat
  weight : Nat
  k : Nat
  bias : Nat

/-- Reads one digit. -/
def Decoding.read? (s : Decoding) (c : Char) : Option Decoding := do
  let d ← digitValue? c
  let place := s.place + d * s.weight
  let t := threshold s.k s.bias
  if t ≤ d then
    pure { s with place := place, weight := s.weight * (36 - t), k := s.k + 36 }
  else
    let length := s.text.length + 1
    let point := s.point + place / length
    let position := place % length
    if point.isValidChar then
      pure {
        text := s.text.insertIdx position (Char.ofNat point)
        point := point
        place := position + 1
        start := position + 1
        weight := 1
        k := 36
        bias := adapt (place - s.start) length (s.start == 0) }
    else none

/-- The ASCII characters before the last hyphen, and the digits after it. -/
def cut (cs : List Char) : List Char × List Char :=
  let after := (cs.reverse.takeWhile (· ≠ '-')).reverse
  let before := cs.take (cs.length - after.length - 1)
  if before.isEmpty then ([], cs) else (before, after)

/-- The label that a text in ASCII stands for. -/
def decode? (cs : List Char) : Option (List Char) := do
  let (ascii, code) := cut cs
  let s ← code.foldlM Decoding.read? ⟨ascii, 128, 0, 0, 1, 36, 72⟩
  if s.k = 36 then some s.text else none

end Leasehold.Punycode
