import Leasehold.Text.Lowercase
import Leasehold.Text.Quoted

/-!
# Lock names

A lock name is a lowercase text of 3 to 58 bytes: groups of `a`–`z` and `0`–`9` joined by single
hyphens.

* `LockName.parse` lowers a text and checks it; the first broken rule of `LockName.check` is the
  error.
* `LockName.backingName` is the name of the stored object whose lease backs the lock.
-/

namespace Leasehold

/-- The rule that a text breaks, with the lowercase text. -/
inductive NameFailure
  | tooShort (name : String)
  | tooLong (name : String)
  | foreignCharacter (name : String) (char : Char) (index : Nat)
  | leadingHyphen (name : String)
  | trailingHyphen (name : String)
  | doubleHyphen (name : String)
  deriving DecidableEq, Repr

namespace LockName

/-- The fewest bytes of a name. -/
def minLength : Nat := 3

/-- The most bytes of a name. -/
def maxLength : Nat := 58

/-- What the name of every lock's object begins with. -/
def objectStem : String := "azlk-"

end LockName

namespace NameFailure

/-- The error in words. -/
def message : NameFailure → String
  | tooShort n =>
    "lock name " ++ n ++ " must be at least " ++ toString LockName.minLength ++ " characters long"
  | tooLong n =>
    "lock name " ++ n ++ " must be at most " ++ toString LockName.maxLength ++ " characters long"
  | foreignCharacter n c i =>
    "lock name " ++ n ++ " contains " ++ Text.quotedChar c ++ " at " ++ toString i ++
      ", only a-z, 0-9 and '-' are allowed"
  | leadingHyphen n => "lock name " ++ n ++ " must not start with '-'"
  | trailingHyphen n => "lock name " ++ n ++ " must not end with '-'"
  | doubleHyphen n => "lock name " ++ n ++ " must not contain consecutive '-'"

end NameFailure

/-- The characters of lock names. -/
def isNameChar (c : Char) : Bool :=
  ('a' ≤ c && c ≤ 'z') || ('0' ≤ c && c ≤ '9') || c == '-'

/-- The first character outside lock names and its offset in bytes, counted from `at`. -/
def firstForeign? (offset : Nat) : List Char → Option (Char × Nat)
  | [] => none
  | c :: rest => if isNameChar c then firstForeign? (offset + c.utf8Size) rest else some (c, offset)

/-- Whether two hyphens stand side by side. -/
def hasDoubleHyphen : List Char → Bool
  | '-' :: '-' :: _ => true
  | _ :: rest => hasDoubleHyphen rest
  | [] => false

/-- The first rule that a lowercase text breaks. -/
def LockName.check (name : String) : Except NameFailure Unit :=
  let cs := name.toList
  if name.utf8ByteSize < minLength then .error (.tooShort name)
  else if maxLength < name.utf8ByteSize then .error (.tooLong name)
  else match firstForeign? 0 cs with
    | some (c, i) => .error (.foreignCharacter name c i)
    | none =>
      if cs.head? = some '-' then .error (.leadingHyphen name)
      else if cs.getLast? = some '-' then .error (.trailingHyphen name)
      else if hasDoubleHyphen cs then .error (.doubleHyphen name)
      else .ok ()

/-- A lowercase text that breaks no rule of names. -/
structure LockName where
  text : String
  check_text : LockName.check text = .ok ()
  deriving DecidableEq, Repr

namespace LockName

/-- The lock name that a text gives in lowercase. -/
def parse (s : String) : Except NameFailure LockName :=
  match h : check (Text.lowercase s) with
  | .error e => .error e
  | .ok () => .ok ⟨Text.lowercase s, h⟩

/-- Whether a text can be used as a lock name. -/
def verify (s : String) : Except NameFailure Unit := check (Text.lowercase s)

/-- The name with its type. -/
def debug (n : LockName) : String := "LockName(" ++ Text.quoted n.text ++ ")"

/-- The name of the object whose lease backs the lock. -/
def backingName (n : LockName) : String := objectStem ++ n.text

end LockName

end Leasehold
