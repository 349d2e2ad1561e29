import Leasehold.Domain.Composition
import Leasehold.Domain.JoiningTable

/-!
# Invisible joiners

Two invisible characters control whether letters are joined.  A label may hold them only where they
change what is seen: after a mark that silences a vowel, and, for the one that separates, between
letters that would otherwise be joined.
-/

namespace Leasehold.Domain

open Leasehold.Text

/-- The character that separates letters. -/
def separatingJoiner : Char := Char.ofNat 0x200C

/-- The character that joins letters. -/
def joiningJoiner : Char := Char.ofNat 0x200D

/-- The class of the marks that silence a vowel. -/
def silencingClass : Nat := 9

/-- Letters that join the one after them. -/
def joinsLeftTable : Ranges := .ofRows joinsLeftRows

/-- Letters that join the one before them. -/
def joinsRightTable : Ranges := .ofRows joinsRightRows

/-- Letters that join on both sides. -/
def joinsBothTable : Ranges := .ofRows joinsBothRows

/-- Characters that joining looks past. -/
def joinsThroughTable : Ranges := .ofRows joinsThroughRows

/-- Whether the first character that joining does not look past is in a set, or joins on both
sides. -/
def meetsJoining (side : Ranges) (cs : List Char) : Bool :=
  match cs.dropWhile fun c => joinsThroughTable.contains c && !joinsBothTable.contains c with
  | [] => false
  | c :: _ => side.contains c || joinsBothTable.contains c

/-- Whether the joiners in what follows the characters `before`, nearest first, are in place. -/
def joinersFit (before : List Char) : List Char → Bool
  | [] => true
  | c :: rest =>
    let afterSilence := (before.head?.map fun d => combiningClass d == silencingClass).getD false
    let fits :=
      if c = joiningJoiner then afterSilence
      else if c = separatingJoiner then
        afterSilence || (meetsJoining joinsLeftTable before && meetsJoining joinsRightTable rest)
      else true
    fits && joinersFit (c :: before) rest

end Leasehold.Domain
