/-!
# Sets and maps of characters

A set of characters is kept as rows of hexadecimal ranges: `"300-36f 483"` holds the characters
from `U+0300` to `U+036F` and `U+0483`.  A map is kept as rows of ranges with the image of the first
character: `"391-3a1/3b1"` maps `U+0391` to `U+03B1` and so on, and a third number is the distance
from one mapped character to the next.
-/

namespace Leasehold.Text

/-- The value of a hexadecimal digit. -/
def hexValue? (c : Char) : Option Nat :=
  if '0' ≤ c ∧ c ≤ '9' then some (c.toNat - '0'.toNat)
  else if 'a' ≤ c ∧ c ≤ 'f' then some (c.toNat - 'a'.toNat + 10)
  else if 'A' ≤ c ∧ c ≤ 'F' then some (c.toNat - 'A'.toNat + 10)
  else none

/-- The number that hexadecimal digits write; other characters are passed over. -/
def ofHex (s : String) : Nat :=
  s.toList.foldl (fun n c => match hexValue? c with
    | some d => n * 16 + d
    | none => n) 0

/-- A number in hexadecimal digits, at least one. -/
def toHex (n : Nat) : List Char := Nat.toDigits 16 n

/-- A set of characters as ranges of code points. -/
structure Ranges where
  rows : Array (Nat × Nat)

namespace Ranges

/-- One written range, or a single character. -/
def ofEntry (entry : String) : Nat × Nat :=
  match entry.splitOn "-" with
  | [first, last] => (ofHex first, ofHex last)
  | _ => (ofHex entry, ofHex entry)

/-- The set that written rows describe. -/
def ofRows (rows : List String) : Ranges :=
  ⟨(rows.flatMap fun row => (row.splitOn " ").map ofEntry).toArray⟩

/-- Whether a character belongs to the set. -/
def contains (r : Ranges) (c : Char) : Bool :=
  r.rows.any fun (first, last) => first ≤ c.toNat && c.toNat ≤ last

end Ranges

/-- Characters whose images lie at a constant distance. -/
structure Shift where
  first : Nat
  last : Nat
  image : Nat
  step : Nat

namespace Shift

/-- One written row of a map; a row that is not well written maps nothing. -/
def ofEntry (entry : String) : Shift :=
  match entry.splitOn "/" with
  | [range, image] => ⟨(Ranges.ofEntry range).1, (Ranges.ofEntry range).2, ofHex image, 1⟩
  | [range, image, step] =>
    ⟨(Ranges.ofEntry range).1, (Ranges.ofEntry range).2, ofHex image, ofHex step⟩
  | _ => ⟨1, 0, 0, 1⟩

/-- The image of a character of the row. -/
def imageOf? (r : Shift) (c : Char) : Option Char :=
  let n := c.toNat
  if r.first ≤ n ∧ n ≤ r.last ∧ (n - r.first) % r.step = 0 then
    some (Char.ofNat (r.image + (n - r.first)))
  else none

end Shift

/-- A map of characters as shifted ranges. -/
structure Shifts where
  rows : Array Shift

namespace Shifts

/-- The map that written rows describe. -/
def ofRows (rows : List String) : Shifts :=
  ⟨(rows.flatMap fun row => (row.splitOn " ").map Shift.ofEntry).toArray⟩

/-- The image of a character, if it has one. -/
def imageOf? (m : Shifts) (c : Char) : Option Char := m.rows.findSome? (·.imageOf? c)

end Shifts

end Leasehold.Text
