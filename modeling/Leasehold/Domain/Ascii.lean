import Leasehold.Domain.Direction
import Leasehold.Domain.Joining
import Leasehold.Domain.MappingTable
import Leasehold.Domain.Punycode
import Leasehold.Text.Parts

/-!
# Domain names in ASCII

`toAscii?` is the form of a domain name that is looked up: lowercase, with every label beyond ASCII
spelled in ASCII behind `xn--`.  It refuses names with characters that no domain name may hold and
labels that break the rules of their script.
-/

namespace Leasehold.Domain

open Leasehold.Text

/-- The characters that stand for another one. -/
def mappedTable : Shifts := .ofRows mappedRows

/-- The characters that stand for several. -/
def spelledTable : Array (Nat × List Char) :=
  (spelledRows.flatMap fun row => (row.splitOn " ").map fun entry =>
    match entry.splitOn "/" with
    | [c, image] => (ofHex c, (image.splitOn ".").map fun n => Char.ofNat (ofHex n))
    | _ => (0, [])).toArray

/-- The characters that stand for none. -/
def ignoredTable : Ranges := .ofRows ignoredRows

/-- The characters that no domain name may hold. -/
def rejectedTable : Ranges := .ofRows rejectedRows

/-- What a character of a domain name stands for. -/
def meaning? (c : Char) : Option (List Char) :=
  if c.toNat < 128 then some [c.toLower]
  else if rejectedTable.contains c then none
  else if ignoredTable.contains c then some []
  else match mappedTable.imageOf? c with
    | some d => some [d]
    | none =>
      match spelledTable.find? fun row => row.1 == c.toNat with
      | some (_, image) => some image
      | none => some [c]

/-- The ASCII characters that may not stand in a domain name. -/
def isDenied (c : Char) : Bool :=
  c.toNat ≤ 0x20 || c.toNat == 0x7F || "%#/:<>?@[\\]^|".toList.contains c

/-- What every label beyond ASCII begins with. -/
def punycodeStart : List Char := ['x', 'n', '-', '-']

/-- Whether all characters are ASCII. -/
def isAscii (cs : List Char) : Bool := cs.all fun c => c.toNat < 128

/-- A label as it is read and as it is looked up. -/
structure Label where
  text : List Char
  ascii : List Char

namespace Label

/-- Whether every character stands for itself, and nothing is left to compose. -/
def isStable (cs : List Char) : Bool :=
  cs.all (fun c => meaning? c == some [c]) && composed cs == cs

/-- The label that a part of a name gives: a spelled one is read, any other one beyond ASCII is
spelled. -/
def ofPart? (part : List Char) : Option Label :=
  if part.take 4 = punycodeStart then
    if part.getLast? = some '-' || !isAscii part then none
    else match Punycode.decode? (part.drop 4) with
      | none => none
      | some text => if isStable text then some ⟨text, part⟩ else none
  else if isAscii part then some ⟨part, part⟩
  else some ⟨part, punycodeStart ++ Punycode.encode part⟩

/-- Whether a label keeps the rules for its characters, apart from those of direction. -/
def isSound (l : Label) : Bool :=
  !l.text.any (fun c => isDenied c || c == '.') && !(l.text.head?.map isMark).getD false &&
    joinersFit [] l.text

end Label

/-- The form of a domain name that is looked up. -/
def toAscii? (name : List Char) : Option (List Char) := do
  let meant ← name.mapM meaning?
  let labels ← (parts (· == '.') (composed meant.flatten)).mapM Label.ofPart?
  if labels.all Label.isSound &&
      (!labels.any (fun l => hasRightward l.text) || labels.all fun l => isOneWay l.text) then
    some (['.'].intercalate (labels.map Label.ascii))
  else none

end Leasehold.Domain
