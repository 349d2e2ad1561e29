/-!
# Binary floating point with 64 bits

A `Binary64` is the value of a double: not a number, an infinity, or the rational number it stands
for.  An operation takes the exact rational result and rounds it once.

* `nearestEven` rounds a rational number to a whole one, a half to the even neighbour.
* `Binary64.round` rounds to 53 binary digits, no digit below `2 ^ (-1074)`, and to an infinity
  from `2 ^ 1024` on.
* `Binary64.ofScientific` reads a decimal.

The sign of a zero is not kept: no operation here tells the two zeros apart.
-/

namespace Leasehold

/-- The nearest whole number, the even one if two are equally near. -/
def nearestEven (q : Rat) : Int :=
  let low := q.floor
  let rest := q - low
  if rest < 1 / 2 then low
  else if 1 / 2 < rest then low + 1
  else if low % 2 = 0 then low else low + 1

/-- The power of two with a whole exponent. -/
def twoPow (e : Int) : Rat := Rat.zpow 2 e

/-- The value of a double. -/
inductive Binary64
  | nan
  | infinite (negative : Bool)
  | finite (value : Rat)
  deriving DecidableEq

namespace Binary64

/-- The largest `e` with `2 ^ e ≤ q`, for a positive `q`. -/
def exponent (q : Rat) : Int :=
  let e : Int := (q.num.natAbs.log2 : Int) - (q.den.log2 : Int)
  if twoPow e ≤ q then e else e - 1

/-- The distance between neighbouring doubles at a positive `q`. -/
def grain (q : Rat) : Rat := twoPow (max (exponent q - 52) (-1074))

/-- The absolute value of a rational number. -/
def magnitude (q : Rat) : Rat := if q < 0 then -q else q

/-- The nearest double, the one with an even last digit if two are equally near. -/
def round (q : Rat) : Binary64 :=
  if q = 0 then .finite 0
  else
    let a := magnitude q
    let g := grain a
    let v := (nearestEven (a / g) : Rat) * g
    if twoPow 1024 ≤ v then .infinite (q < 0)
    else .finite (if q < 0 then -v else v)

/-- The nearest double of a whole number. -/
def ofNat (n : Nat) : Binary64 := round (n : Rat)

/-- The nearest double of `mantissa · 10 ^ (-places)`, or of its negative. -/
def ofScientific (negative : Bool) (mantissa places : Nat) : Binary64 :=
  let q := mkRat mantissa (Nat.pow 10 places)
  round (if negative then -q else q)

/-- The sum; opposite infinities have none. -/
def add : Binary64 → Binary64 → Binary64
  | .finite x, .finite y => round (x + y)
  | .infinite a, .infinite b => if a = b then .infinite a else .nan
  | .infinite a, .finite _ => .infinite a
  | .finite _, .infinite b => .infinite b
  | _, _ => .nan

/-- The negative. -/
def neg : Binary64 → Binary64
  | .finite x => .finite (-x)
  | .infinite a => .infinite (!a)
  | .nan => .nan

/-- The difference. -/
def sub (x y : Binary64) : Binary64 := add x (neg y)

/-- The product; zero times an infinity has none. -/
def mul : Binary64 → Binary64 → Binary64
  | .finite x, .finite y => round (x * y)
  | .infinite a, .infinite b => .infinite (a != b)
  | .infinite a, .finite y | .finite y, .infinite a =>
    if y = 0 then .nan else .infinite (a != decide (y < 0))
  | _, _ => .nan

/-- Division by a positive finite number. -/
def divBy (x : Binary64) (d : Rat) : Binary64 :=
  match x with
  | .finite q => round (q / d)
  | other => other

/-- The order of doubles; nothing is below or above what is not a number. -/
def le : Binary64 → Binary64 → Bool
  | .finite x, .finite y => x ≤ y
  | .nan, _ | _, .nan => false
  | .infinite true, _ => true
  | _, .infinite false => true
  | _, _ => false

/-- The larger of a double and zero; zero if it is not a number. -/
def atLeastZero : Binary64 → Binary64
  | .finite x => if x < 0 then .finite 0 else .finite x
  | .infinite false => .infinite false
  | _ => .finite 0

end Binary64

end Leasehold
