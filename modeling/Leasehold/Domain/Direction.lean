import Leasehold.Domain.DirectionTable
import Leasehold.Text.Ranges

/-!
# Labels in two directions

A name with letters from right to left can be read in two ways unless each of its labels has one
direction.  `isOneWay` is the rule for a label: it begins with a letter, whose direction is that of
the label, it ends with a letter of that direction or a digit, and what stands between fits in.
-/

namespace Leasehold.Domain

open Leasehold.Text

/-- The direction class of a character. -/
inductive Direction
  | leftToRight
  | rightToLeft
  | arabicLetter
  | arabicNumber
  | europeanNumber
  | sign
  | separator
  | terminator
  | neutral
  | boundary
  | mark
  deriving DecidableEq

namespace Direction

/-- The characters of every class but `leftToRight`. -/
def tables : List (Ranges × Direction) := [
  (.ofRows europeanNumberRows, europeanNumber),
  (.ofRows signRows, sign),
  (.ofRows separatorRows, separator),
  (.ofRows terminatorRows, terminator),
  (.ofRows neutralRows, neutral),
  (.ofRows boundaryRows, boundary),
  (.ofRows markDirectionRows, mark),
  (.ofRows rightToLeftRows, rightToLeft),
  (.ofRows arabicLetterRows, arabicLetter),
  (.ofRows arabicNumberRows, arabicNumber)]

/-- The class of a character. -/
def ofChar (c : Char) : Direction :=
  ((tables.find? fun t => t.1.contains c).map (·.2)).getD leftToRight

/-- Whether the class makes a name one in two directions. -/
def isRightward (d : Direction) : Bool :=
  d == rightToLeft || d == arabicLetter || d == arabicNumber

/-- Whether the class is one of those that every label may hold. -/
def isCommon (d : Direction) : Bool :=
  d == europeanNumber || d == sign || d == separator || d == terminator || d == neutral ||
    d == boundary || d == mark

end Direction

/-- The classes of a label without the marks at its end. -/
def withoutLastMarks (ds : List Direction) : List Direction :=
  (ds.reverse.dropWhile (· == .mark)).reverse

/-- Whether the classes after the first one fit a label from left to right. -/
def fitsLeftToRight (ds : List Direction) : Bool :=
  match (withoutLastMarks ds).reverse with
  | [] => true
  | last :: before =>
    (last == .leftToRight || last == .europeanNumber) &&
      before.all fun d => d == .leftToRight || d.isCommon

/-- Whether the classes after the first one fit a label from right to left, which may not hold
digits of both kinds. -/
def fitsRightToLeft (ds : List Direction) : Bool :=
  let body := withoutLastMarks ds
  match body.reverse with
  | [] => true
  | last :: before =>
    (last == .rightToLeft || last == .arabicLetter || last == .europeanNumber ||
        last == .arabicNumber) &&
      before.all (fun d => d.isRightward || d.isCommon) &&
      !(body.contains .europeanNumber && body.contains .arabicNumber)

/-- Whether a label has one direction. -/
def isOneWay (label : List Char) : Bool :=
  match label.map Direction.ofChar with
  | [] => true
  | .leftToRight :: rest => fitsLeftToRight rest
  | .rightToLeft :: rest | .arabicLetter :: rest => fitsRightToLeft rest
  | _ => false

/-- Whether a label holds a letter or digit written from right to left. -/
def hasRightward (label : List Char) : Bool := label.any fun c => (Direction.ofChar c).isRightward

end Leasehold.Domain
