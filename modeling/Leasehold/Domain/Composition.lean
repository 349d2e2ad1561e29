import Leasehold.Domain.CompositionTable
import Leasehold.Text.Ranges

/-!
# Composed characters

An accented letter can be one character or a letter followed by marks.  `composed` writes a text
with as few characters as the table of compositions allows.

* `decomposed` takes every character apart.
* `ordered` puts the marks after a letter into the order of their classes.
* `composeFrom` joins each letter with the marks that nothing blocks.
-/

namespace Leasehold.Domain

open Leasehold.Text

/-- A character and the two that compose it. -/
structure Composition where
  whole : Nat
  first : Nat
  second : Nat

/-- A composition written as `composed/first/second`. -/
def Composition.ofEntry (entry : String) : Composition :=
  match entry.splitOn "/" with
  | [whole, first, second] => ⟨ofHex whole, ofHex first, ofHex second⟩
  | _ => ⟨0, 0, 0⟩

/-- All compositions but those of Korean syllables. -/
def compositionTable : Array Composition :=
  (composedRows.flatMap fun row => (row.splitOn " ").map Composition.ofEntry).toArray

/-- The combining classes that are not zero. -/
def classTable : Array (Ranges × Nat) :=
  (classRows.flatMap fun row => (row.splitOn " ").map fun entry =>
    match entry.splitOn "/" with
    | [range, value] => ((⟨#[Ranges.ofEntry range]⟩ : Ranges), ofHex value)
    | _ => (⟨#[]⟩, 0)).toArray

/-- The combining characters. -/
def markTable : Ranges := .ofRows markRows

/-- Whether a character is a combining one. -/
def isMark (c : Char) : Bool := 128 ≤ c.toNat && markTable.contains c

/-- The class that orders a mark; zero for a character that starts a new group. -/
def combiningClass (c : Char) : Nat :=
  if c.toNat < 0x300 then 0
  else ((classTable.find? fun row => row.1.contains c).map (·.2)).getD 0

/-- The two characters that a character is composed of. -/
def parts? (c : Char) : Option (Char × Char) :=
  if c.toNat < 0xC0 then none
  else (compositionTable.find? fun x => x.whole == c.toNat).map fun x =>
    (Char.ofNat x.first, Char.ofNat x.second)

/-- A character taken apart, at most `depth` times. -/
def takeApart : Nat → Char → List Char
  | 0, c => [c]
  | depth + 1, c =>
    match parts? c with
    | some (a, b) => takeApart depth a ++ [b]
    | none => [c]

/-- More than the number of marks that one character is composed of. -/
def deepest : Nat := 8

/-- Every character taken apart. -/
def decomposed (cs : List Char) : List Char := cs.flatMap (takeApart deepest)

/-- Puts a character behind a text written backwards, before the marks of higher classes. -/
def insertMark (c : Char) : List Char → List Char
  | [] => [c]
  | d :: rest =>
    if combiningClass c ≠ 0 ∧ combiningClass c < combiningClass d then d :: insertMark c rest
    else c :: d :: rest

/-- The marks after each letter in the order of their classes. -/
def ordered (cs : List Char) : List Char :=
  (cs.foldl (fun past c => insertMark c past) []).reverse

/-- The syllable of a leading consonant and a vowel, or of a syllable and a final consonant. -/
def syllable? (a b : Nat) : Option Nat :=
  if 0x1100 ≤ a ∧ a ≤ 0x1112 ∧ 0x1161 ≤ b ∧ b ≤ 0x1175 then
    some (0xAC00 + ((a - 0x1100) * 21 + (b - 0x1161)) * 28)
  else if 0xAC00 ≤ a ∧ a ≤ 0xD7A3 ∧ (a - 0xAC00) % 28 = 0 ∧ 0x11A8 ≤ b ∧ b ≤ 0x11C2 then
    some (a + (b - 0x11A7))
  else none

/-- The character that two others compose. -/
def pair? (a b : Char) : Option Char :=
  if b.toNat < 128 then none
  else match syllable? a.toNat b.toNat with
    | some n => some (Char.ofNat n)
    | none =>
      (compositionTable.find? fun x => x.first == a.toNat && x.second == b.toNat).map fun x =>
        Char.ofNat x.whole

/-- Whether a mark can reach the letter before the marks `pending`, last first. -/
def reaches (pending : List Char) (c : Char) : Bool :=
  match pending with
  | [] => true
  | d :: _ => combiningClass d < combiningClass c

/-- Joins a letter, and the marks `pending` after it, with what follows. -/
def composeFrom (letter : Char) (pending : List Char) : List Char → List Char
  | [] => letter :: pending.reverse
  | c :: rest =>
    match if reaches pending c then pair? letter c else none with
    | some whole => composeFrom whole pending rest
    | none =>
      if combiningClass c = 0 then letter :: pending.reverse ++ composeFrom c [] rest
      else composeFrom letter (c :: pending) rest

/-- A text in as few characters as compositions allow. -/
def composed (cs : List Char) : List Char :=
  if cs.all fun c => c.toNat < 0xC0 then cs
  else
    match ordered (decomposed cs) with
    | [] => []
    | c :: rest => composeFrom c [] rest

end Leasehold.Domain
