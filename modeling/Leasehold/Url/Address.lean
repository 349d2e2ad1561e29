import Leasehold.Text.Parts
import Leasehold.Text.Ranges

/-!
# Numerical host addresses

* `ipv4?` reads an address of four bytes: one to four numbers, the last of which fills the bytes
  that are left, each decimal, octal after `0` or hexadecimal after `0x`.
* `ipv6?` reads an address of eight groups, of which one run of zeros may be left out and the last
  two may be written as four decimal bytes.
* `ipv4Text` and `ipv6Text` write them in their shortest usual form.
-/

namespace Leasehold.Url

/-- The number that digits to a base write, if all of them are. -/
def number? (base : Nat) (cs : List Char) : Option Nat :=
  cs.foldlM (fun n c => match Text.hexValue? c with
    | some d => if d < base then some (n * base + d) else none
    | none => none) 0

/-- A number in one of the notations of an address. -/
def addressNumber? (cs : List Char) : Option Nat :=
  match cs with
  | [] => none
  | '0' :: 'x' :: rest | '0' :: 'X' :: rest => number? 16 rest
  | '0' :: d :: rest => number? 8 (d :: rest)
  | _ => number? 10 cs

/-- The parts of a name between dots, without the empty one after a dot at its end. -/
def nameParts (cs : List Char) : List (List Char) :=
  let parts := Text.parts (· == '.') cs
  if 1 < parts.length ∧ parts.getLast? = some [] then parts.dropLast else parts

/-- Whether a host name can only be meant as an address: its last part is a number. -/
def endsInNumber (cs : List Char) : Bool :=
  match (nameParts cs).getLast? with
  | none => false
  | some last => (!last.isEmpty && last.all Char.isDigit) || (addressNumber? last).isSome

/-- The number of values of a byte. -/
def byteValues : Nat := 256

/-- The number of values of some bytes. -/
def valuesOf (bytes : Nat) : Nat := Nat.pow byteValues bytes

/-- The number that bytes write, the first one the most significant. -/
def bigEndian (bytes : List Nat) : Nat := bytes.foldl (fun n b => n * byteValues + b) 0

/-- An address of four bytes, as a number below `2 ^ 32`. -/
def ipv4? (cs : List Char) : Option Nat := do
  let numbers ← (nameParts cs).mapM addressNumber?
  let bytes := numbers.dropLast
  let last ← numbers.getLast?
  let left := 4 - bytes.length
  if bytes.length < 4 && bytes.all (· < byteValues) && last < valuesOf left then
    some (bigEndian bytes * valuesOf left + last)
  else none

/-- Four decimal bytes with dots between them. -/
def ipv4Text (n : Nat) : String :=
  let byte (i : Nat) := toString (n / valuesOf i % byteValues)
  byte 3 ++ "." ++ byte 2 ++ "." ++ byte 1 ++ "." ++ byte 0

/-- One decimal byte without a leading zero. -/
def decimalByte? (cs : List Char) : Option Nat :=
  match cs with
  | [] => none
  | '0' :: _ :: _ => none
  | _ => (number? 10 cs).bind fun n => if n < byteValues then some n else none

/-- The two groups of four decimal bytes. -/
def decimalGroups? (cs : List Char) : Option (List Nat) :=
  match (Text.parts (· == '.') cs).mapM decimalByte? with
  | some [a, b, c, d] => some [a * byteValues + b, c * byteValues + d]
  | _ => none

/-- One group of one to four hexadecimal digits. -/
def group? (cs : List Char) : Option Nat :=
  if 1 ≤ cs.length ∧ cs.length ≤ 4 then number? 16 cs else none

/-- The groups of a part of an address; at the end of the address the last two may be decimal. -/
def groups? (atEnd : Bool) (cs : List Char) : Option (List Nat) :=
  if cs.isEmpty then some []
  else
    let parts := Text.parts (· == ':') cs
    match parts.getLast? with
    | none => none
    | some last =>
      if atEnd && last.contains '.' then do
        let first ← parts.dropLast.mapM group?
        let more ← decimalGroups? last
        some (first ++ more)
      else parts.mapM group?

/-- The text before and after the first double colon. -/
def gap? : List Char → Option (List Char × List Char)
  | ':' :: ':' :: rest => some ([], rest)
  | c :: rest => (gap? rest).map fun x => (c :: x.1, x.2)
  | [] => none

/-- The number of groups of an address. -/
def groupCount : Nat := 8

/-- An address of eight groups. -/
def ipv6? (cs : List Char) : Option (List Nat) :=
  match gap? cs with
  | some (before, after) => do
    let head ← groups? false before
    let tail ← groups? true after
    if head.length + tail.length < groupCount then
      some (head ++ List.replicate (groupCount - (head.length + tail.length)) 0 ++ tail)
    else none
  | none => do
    let all ← if cs.isEmpty then none else groups? true cs
    if all.length = groupCount then some all else none

/-- The length of the run of zeros at the start of a list. -/
def zeroRun (groups : List Nat) : Nat := (groups.takeWhile (· == 0)).length

/-- The place and length of the first longest run of zeros. -/
def longestRun (groups : List Nat) : Nat × Nat :=
  (List.range groups.length).foldl (fun best i =>
    let run := zeroRun (groups.drop i)
    if best.2 < run then (i, run) else best) (0, 0)

/-- Groups in hexadecimal with colons between them. -/
def groupsText (groups : List Nat) : String :=
  ":".intercalate (groups.map fun g => String.ofList (Text.toHex g))

/-- Eight groups, of which the first longest run of two or more zeros is left out. -/
def ipv6Text (groups : List Nat) : String :=
  let (place, run) := longestRun groups
  if run < 2 then groupsText groups
  else groupsText (groups.take place) ++ "::" ++ groupsText (groups.drop (place + run))

end Leasehold.Url
