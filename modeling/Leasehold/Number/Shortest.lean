import Leasehold.Number.Binary64

/-!
# The shortest decimal of a double

Of all decimals that round to a given double, `Shortest.decimal?` takes one with the fewest digits
and of those the nearest, the larger of two that are equally near.  `Shortest.text` writes it
without an exponent.
-/

namespace Leasehold.Shortest

/-- A decimal number: `digits · 10 ^ exponent`. -/
structure Decimal where
  digits : Nat
  exponent : Int

/-- The power of ten with a whole exponent. -/
def tenPow (e : Int) : Rat := Rat.zpow 10 e

/-- The rational number that a decimal stands for. -/
def Decimal.value (d : Decimal) : Rat := (d.digits : Rat) * tenPow d.exponent

/-- The largest `e` with `10 ^ e ≤ q` for a positive `q`, searched upwards from `e`. -/
def exponentFrom (q : Rat) : Nat → Int → Int
  | 0, e => e
  | fuel + 1, e => if tenPow (e + 1) ≤ q then exponentFrom q fuel (e + 1) else e

/-- The largest `e` with `10 ^ e ≤ q` for a positive `q`.  The number of binary digits gives it up
to a few units. -/
def exponent (q : Rat) : Int :=
  let e := Binary64.exponent q * 3 / 10 - 1
  let start := if tenPow e ≤ q then e else e - 30
  exponentFrom q 400 start

/-- The neighbours of `q` among the decimals whose last digit stands at `10 ^ e`, as far as they
round to the same double. -/
def neighbours (q : Rat) (e : Int) : List Decimal :=
  let low := (q / tenPow e).floor.toNat
  [⟨low, e⟩, ⟨low + 1, e⟩].filter fun d => Binary64.round d.value = .finite q

/-- The nearer of two decimals, the second one on a tie. -/
def nearer (q : Rat) (a b : Decimal) : Decimal :=
  if Binary64.magnitude (q - b.value) ≤ Binary64.magnitude (q - a.value) then b else a

/-- The first hit with at least `n` digits, `fuel` lengths being tried. -/
def search (q : Rat) (top : Int) : Nat → Nat → Option Decimal
  | 0, _ => none
  | fuel + 1, n =>
    match neighbours q (top - (n : Int) + 1) with
    | [] => search q top fuel (n + 1)
    | d :: rest => some (rest.foldl (nearer q) d)

/-- The shortest decimal of a positive double; seventeen digits are always enough. -/
def decimal? (q : Rat) : Option Decimal := search q (exponent q) 17 1

/-- A decimal without an exponent and without trailing zeros after the point. -/
def Decimal.text (d : Decimal) : String :=
  if 0 ≤ d.exponent then toString (d.digits * Nat.pow 10 d.exponent.toNat)
  else
    let places := (-d.exponent).toNat
    let digits := toString d.digits
    let padded := String.ofList (List.replicate (places + 1 - digits.length) '0') ++ digits
    let cs := padded.toList
    let whole := cs.take (cs.length - places)
    let fraction := ((cs.drop (cs.length - places)).reverse.dropWhile (· == '0')).reverse
    if fraction.isEmpty then String.ofList whole
    else String.ofList whole ++ "." ++ String.ofList fraction

/-- The text of a double that is not negative: its shortest decimal, without an exponent. -/
def text : Binary64 → String
  | .nan => "NaN"
  | .infinite negative => if negative then "-inf" else "inf"
  | .finite q =>
    if q = 0 then "0"
    else
      let written := ((decimal? (Binary64.magnitude q)).map Decimal.text).getD "0"
      if q < 0 then "-" ++ written else written

end Leasehold.Shortest
