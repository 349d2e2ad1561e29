import Leasehold.Text.CaseTable

/-!
# Lowercase text

`lowercase` maps every character to its lowercase form.  Two characters are special: a capital I
with a dot becomes two characters, and a capital sigma at the end of a word becomes a final sigma.
ASCII letters need no table.
-/

namespace Leasehold.Text

/-- The lowercase mapping beyond ASCII. -/
def lowercaseTable : Shifts := .ofRows lowercaseRows

/-- The letters beyond ASCII that have case. -/
def casedTable : Ranges := .ofRows casedRows

/-- The characters that case looks past. -/
def caseIgnorableTable : Ranges := .ofRows caseIgnorableRows

/-- Whether a character has case. -/
def isCased (c : Char) : Bool :=
  if c.toNat < 128 then c.isAlpha else casedTable.contains c

/-- Whether case looks past a character. -/
def isCaseIgnorable (c : Char) : Bool := caseIgnorableTable.contains c

/-- The lowercase form of a character that stands alone. -/
def lowerChar (c : Char) : List Char :=
  if c.toNat < 128 then [c.toLower]
  else if c.toNat = 0x130 then ['i', Char.ofNat 0x307]
  else [(lowercaseTable.imageOf? c).getD c]

/-- Whether the next character that case does not look past has case. -/
def meetsCased (cs : List Char) : Bool :=
  match cs.dropWhile isCaseIgnorable with
  | [] => false
  | c :: _ => isCased c

/-- The form of a capital sigma between the characters `before`, nearest first, and `after`. -/
def lowerSigma (before after : List Char) : Char :=
  if meetsCased before && !meetsCased after then 'ς' else 'σ'

/-- The lowercase form of characters that follow `before`, nearest first. -/
def lowerAfter (before : List Char) : List Char → List Char
  | [] => []
  | c :: rest =>
    (if c.toNat = 0x3A3 then [lowerSigma before rest] else lowerChar c) ++
      lowerAfter (c :: before) rest

/-- The lowercase form of a text. -/
def lowercase (s : String) : String := String.ofList (lowerAfter [] s.toList)

end Leasehold.Text
