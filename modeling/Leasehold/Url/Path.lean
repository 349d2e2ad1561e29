import Leasehold.Text.Parts
import Leasehold.Url.Percent

/-!
# Paths of URLs

A path is a list of segments behind slashes.  The segments `.` and `..`, also with dots written by
number, are followed and do not appear in it; a drive letter is never left.
-/

namespace Leasehold.Url

/-- One segment of a path. -/
abbrev Segment := List Char

namespace Segment

/-- A segment with its dots written by number put in their places. -/
def dotted : Segment → Segment
  | '%' :: '2' :: 'e' :: rest | '%' :: '2' :: 'E' :: rest => '.' :: dotted rest
  | c :: rest => c :: dotted rest
  | [] => []

/-- Whether a segment means the directory that holds it. -/
def isSame (s : Segment) : Bool := dotted s == ['.']

/-- Whether a segment means the directory above. -/
def isParent (s : Segment) : Bool := dotted s == ['.', '.']

/-- Whether a segment is a drive letter. -/
def isDrive : Segment → Bool
  | [a, b] => a.isAlpha && (b == ':' || b == '|')
  | _ => false

end Segment

/-- The segments before the last one, last first, after going to the directory above. -/
def leaveSegment : List Segment → List Segment
  | [] => []
  | s :: past => if s.isDrive then s :: past else past

/-- Follows segments behind those of `past`, last first. -/
def followFrom (past : List Segment) : List Segment → List Segment
  | [] => past.reverse
  | [last] =>
    if last.isParent then (leaveSegment past).reverse ++ [[]]
    else if last.isSame then past.reverse ++ [[]]
    else past.reverse ++ [last]
  | s :: rest =>
    if s.isParent then followFrom (leaveSegment past) rest
    else if s.isSame then followFrom past rest
    else followFrom (s :: past) rest

/-- Whether a character ends a segment; in schemes with a default port and for files a backslash
does, too. -/
def isSlash (special : Bool) (c : Char) : Bool := c == '/' || (special && c == '\\')

/-- Segments as a path. -/
def pathText (segments : List Segment) : List Char := segments.flatMap ('/' :: ·)

/-- The segments of a path behind its first slash, which may be missing. -/
def segments (special : Bool) (cs : List Char) : List Segment :=
  let behind := match cs with
    | c :: rest => if isSlash special c then rest else cs
    | [] => []
  followFrom [] ((Text.parts (isSlash special) behind).map (percentEncode EncodeSet.path))

/-- The path that a text writes. -/
def pathOf (special : Bool) (cs : List Char) : List Char := pathText (segments special cs)

end Leasehold.Url
