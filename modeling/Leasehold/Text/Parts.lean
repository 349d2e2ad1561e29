/-!
# Parts of a text

`parts` cuts a text at every character of a class; the borders themselves are in no part.
-/

namespace Leasehold.Text

/-- The parts of a text between the characters of a class. -/
def parts (isBorder : Char → Bool) : List Char → List (List Char)
  | [] => [[]]
  | c :: rest =>
    if isBorder c then [] :: parts isBorder rest
    else
      match parts isBorder rest with
      | part :: more => (c :: part) :: more
      | [] => [[c]]

end Leasehold.Text
