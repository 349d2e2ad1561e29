/-!
# Spans of time

A span is a whole number of nanoseconds.  An instant is the span since the clock started, so one
type serves both.

* `Span.longest` is the longest span that a caller can hand in: all seconds below `2 ^ 64`.
* `Span.add?` is addition that refuses a longer result.
* `Span.ceilMillis` counts the milliseconds of an instant, a part of one as a whole: clocks and
  timers go by whole milliseconds.
* `Span.text` writes a span in the largest unit of which it holds at least one.
-/

namespace Leasehold

/-- A span of time in whole nanoseconds. -/
structure Span where
  nanos : Nat
  deriving DecidableEq, Repr, Inhabited

namespace Span

/-- The nanoseconds in a second. -/
def perSecond : Nat := 1000000000

/-- The nanoseconds in a millisecond. -/
def perMilli : Nat := 1000000

/-- No time at all. -/
def zero : Span := ⟨0⟩

/-- A whole number of seconds. -/
def ofSeconds (s : Nat) : Span := ⟨s * perSecond⟩

/-- A whole number of milliseconds. -/
def ofMillis (ms : Nat) : Span := ⟨ms * perMilli⟩

/-- Whole seconds and the nanoseconds beyond them. -/
def ofParts (seconds nanos : Nat) : Span := ⟨seconds * perSecond + nanos⟩

/-- The whole seconds of a span. -/
def seconds (d : Span) : Nat := d.nanos / perSecond

/-- The nanoseconds beyond the whole seconds. -/
def subNanos (d : Span) : Nat := d.nanos % perSecond

/-- The longest span: one nanosecond short of `2 ^ 64` seconds. -/
def longest : Span := ⟨Nat.pow 2 64 * perSecond - 1⟩

instance : Add Span := ⟨fun a b => ⟨a.nanos + b.nanos⟩⟩

/-- The time from `b` to `a`, none if `a` is the earlier one. -/
instance : Sub Span := ⟨fun a b => ⟨a.nanos - b.nanos⟩⟩

instance : LE Span := ⟨fun a b => a.nanos ≤ b.nanos⟩

instance : LT Span := ⟨fun a b => a.nanos < b.nanos⟩

instance (a b : Span) : Decidable (a ≤ b) := inferInstanceAs (Decidable (a.nanos ≤ b.nanos))

instance (a b : Span) : Decidable (a < b) := inferInstanceAs (Decidable (a.nanos < b.nanos))

theorem le_def {a b : Span} : a ≤ b ↔ a.nanos ≤ b.nanos := Iff.rfl

theorem lt_def {a b : Span} : a < b ↔ a.nanos < b.nanos := Iff.rfl

@[simp] theorem nanos_add (a b : Span) : (a + b).nanos = a.nanos + b.nanos := rfl

@[simp] theorem nanos_sub (a b : Span) : (a - b).nanos = a.nanos - b.nanos := rfl

/-- A whole multiple of a span. -/
def times (d : Span) (n : Nat) : Span := ⟨d.nanos * n⟩

/-- Half of a span, less the odd nanosecond. -/
def half (d : Span) : Span := ⟨d.nanos / 2⟩

/-- The sum, unless it is longer than any span. -/
def add? (a b : Span) : Option Span :=
  if a + b ≤ longest then some (a + b) else none

/-- The first whole millisecond that is not before the instant. -/
def ceilMillis (d : Span) : Nat :=
  d.nanos / perMilli + if d.nanos % perMilli = 0 then 0 else 1

/-- The whole milliseconds of a span. -/
def millis (d : Span) : Nat := d.nanos / perMilli

theorem ceilMillis_eq (d : Span) : d.ceilMillis = (d.nanos + (perMilli - 1)) / perMilli := by
  unfold ceilMillis
  split <;> simp only [perMilli] at * <;> omega

/-- Rounding up never goes back in time. -/
theorem le_ceilMillis (d : Span) : d ≤ ofMillis d.ceilMillis := by
  simp only [le_def, ofMillis, ceilMillis_eq, perMilli]
  omega

/-- Rounding up adds less than a millisecond. -/
theorem ceilMillis_lt (d : Span) : (ofMillis d.ceilMillis).nanos < d.nanos + perMilli := by
  simp only [ofMillis, ceilMillis_eq, perMilli]
  omega

/-- An instant is over by a whole millisecond when it is rounded up to one that is. -/
theorem ceilMillis_le_iff (d : Span) (ms : Nat) : d.ceilMillis ≤ ms ↔ d ≤ ofMillis ms := by
  simp only [le_def, ofMillis, ceilMillis_eq, perMilli]
  omega

/-! ### Written form -/

/-- Decimal digits of `n`, padded with zeros on the left to `width`. -/
def padded (width n : Nat) : String :=
  let digits := toString n
  String.ofList (List.replicate (width - digits.length) '0') ++ digits

/-- A whole part and a fraction of `width` digits, without the fraction's trailing zeros. -/
def decimal (whole fraction width : Nat) : String :=
  let digits := ((padded width fraction).toList.reverse.dropWhile (· == '0')).reverse
  if digits.isEmpty then toString whole else toString whole ++ "." ++ String.ofList digits

/-- The span in seconds, milliseconds, microseconds or nanoseconds: the largest unit of which it
holds at least one, with as many decimals as it needs. -/
def text (d : Span) : String :=
  if perSecond ≤ d.nanos then decimal d.seconds d.subNanos 9 ++ "s"
  else if perMilli ≤ d.nanos then decimal (d.nanos / perMilli) (d.nanos % perMilli) 6 ++ "ms"
  else if 1000 ≤ d.nanos then decimal (d.nanos / 1000) (d.nanos % 1000) 3 ++ "µs"
  else toString d.nanos ++ "ns"

end Span

end Leasehold
