import Leasehold.Time.Span

/-!
# Terms

A term is how long the service grants a lease: 15 to 60 seconds, both included.  The service counts
whole seconds, and a lease is renewed after half its term.
-/

namespace Leasehold

/-- The shortest lease that the service grants. -/
def shortestTerm : Span := .ofSeconds 15

/-- The longest lease that the service grants. -/
def longestTerm : Span := .ofSeconds 60

/-- A lease duration that the service grants. -/
structure Term where
  span : Span
  min_le : shortestTerm ≤ span
  le_max : span ≤ longestTerm
  deriving DecidableEq

namespace Term

/-- The term of a span within the bounds. -/
def ofSpan? (d : Span) : Option Term :=
  if h : shortestTerm ≤ d ∧ d ≤ longestTerm then some ⟨d, h.1, h.2⟩ else none

/-- The whole seconds of the lease, as the service counts them. -/
def wholeSeconds (t : Term) : Nat := t.span.seconds

/-- The time between two renewals. -/
def renewalPeriod (t : Term) : Span := t.span.half

/-- The term with its type. -/
def debug (t : Term) : String := "LockTtl(" ++ t.span.text ++ ")"

end Term

end Leasehold
