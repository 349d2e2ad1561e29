import Leasehold.Error

/-!
# Identifiers of 128 bits

`Uuid.parse?` reads the accepted spellings: 32 hexadecimal digits, the same in five groups joined
by hyphens, the latter in braces or after `urn:uuid:`.  `Uuid.text` writes the lowercase groups.
-/

namespace Leasehold

/-- A 128-bit identifier as its 32 hexadecimal digits. -/
structure Uuid where
  digits : List Nat
  deriving DecidableEq, Repr

namespace Uuid

/-- The lengths of the five groups. -/
def groups : List Nat := [8, 4, 4, 4, 12]

/-- The values of hexadecimal digits. -/
def readDigits? (cs : List Char) : Option (List Nat) := cs.mapM Text.hexValue?

/-- The digits of groups of the given lengths joined by hyphens. -/
def readGroups? : List Nat → List Char → Option (List Nat)
  | [], [] => some []
  | [n], cs => if cs.length = n then readDigits? cs else none
  | n :: lengths, cs =>
    match cs.drop n with
    | '-' :: rest => do
      let first ← readDigits? (cs.take n)
      let others ← readGroups? lengths rest
      pure (first ++ others)
    | _ => none
  | [], _ :: _ => none

/-- An identifier in one of its spellings. -/
def parse? (s : String) : Option Uuid :=
  let cs := s.toList
  let urn := "urn:uuid:".toList
  let hyphenated := (readGroups? groups cs).map Uuid.mk
  if cs.length = 32 then (readDigits? cs).map Uuid.mk
  else if cs.length = 36 then hyphenated
  else if cs.length = 38 then
    if cs.head? = some '\x7b' ∧ cs.getLast? = some '\x7d' then
      (readGroups? groups ((cs.drop 1).take 36)).map Uuid.mk
    else none
  else if cs.length = 45 ∧ cs.take 9 = urn then (readGroups? groups (cs.drop 9)).map Uuid.mk
  else none

/-- The digits in groups of the given lengths, with hyphens between them. -/
def writeGroups : List Nat → List Char → List Char
  | [], _ => []
  | [n], cs => cs.take n
  | n :: lengths, cs => cs.take n ++ '-' :: writeGroups lengths (cs.drop n)

/-- The five lowercase groups joined by hyphens. -/
def text (u : Uuid) : String :=
  String.ofList (writeGroups groups (u.digits.flatMap fun d => Text.toHex d))

/-- The identifier as what signs lease calls. -/
def leaseId (u : Uuid) : LeaseId := ⟨u.text⟩

end Uuid

end Leasehold
