import Leasehold.Number.Binary64
import Leasehold.Number.Shortest
import Leasehold.Time.Span

/-!
# Spans as a number of seconds

* `Span.toSeconds` is the span in seconds as a double.
* `Span.ofSeconds?` is the span of a number of seconds, to the nearest nanosecond, a half to the
  even one.  Negative numbers and those beyond `2 ^ 64` seconds have none.
-/

namespace Leasehold

/-- Why a number of seconds is no span. -/
inductive SecondsError
  | negative
  | tooLarge
  deriving DecidableEq, Repr

namespace Span

/-- The span in seconds: the whole seconds plus the fraction, each rounded to a double. -/
def toSeconds (d : Span) : Binary64 :=
  Binary64.add (Binary64.ofNat d.seconds) (Binary64.divBy (Binary64.ofNat d.subNanos) perSecond)

/-- The span of a number of seconds, to the nearest nanosecond. -/
def ofSeconds? : Binary64 → Except SecondsError Span
  | .nan => .error .tooLarge
  | .infinite negative => .error (if negative then .negative else .tooLarge)
  | .finite q =>
    if q < 0 then .error .negative
    else
      let d : Span := ⟨(nearestEven (q * perSecond)).toNat⟩
      if d ≤ longest then .ok d else .error .tooLarge

end Span

end Leasehold
