import Leasehold.Time.Seconds

/-!
# Growing delays within a budget

A `Backoff` hands out delays that grow by a factor up to a ceiling.  Each delay is drawn around
the present interval, and none is handed out that would overrun the budget counted from the last
restart.

* `Backoff.next` hands out the next delay for a given draw; a failed conversion leaves the state
  as it was.
* `Backoff.request` is the same step by step, on a state that outlives a failure.
* `Backoff.restart` starts again from the initial interval with a fresh budget.
* `Backoff.drain` sleeps through the delays until there are no more.

Intervals grow in doubles of seconds, so the rounding of doubles is part of the rule.
-/

namespace Leasehold

/-- Why a delay could not be computed. -/
inductive BackoffFault
  | seconds (error : SecondsError)
  | overflow
  | emptyRange
  | unboundedRange
  deriving DecidableEq, Repr

namespace BackoffFault

/-- The fault in words. -/
def message : BackoffFault → String
  | seconds .negative => "cannot convert float seconds to Duration: value is negative"
  | seconds .tooLarge => "cannot convert float seconds to Duration: value is either too big or NaN"
  | overflow => "overflow when adding durations"
  | emptyRange => "cannot sample empty range"
  | unboundedRange => "UniformSampler::sample_single: range overflow"

end BackoffFault

/-- A place between the two ends of a range: the fraction of the way from the lower end. -/
structure Draw where
  fraction : Rat
  nonneg : 0 ≤ fraction
  le_one : fraction ≤ 1

namespace Draw

/-- The middle of a range. -/
def middle : Draw := ⟨mkRat 1 2, by decide, by decide⟩

instance : Inhabited Draw := ⟨middle⟩

end Draw

/-- The settings of a growing delay, with its present interval and the instant since which its
budget counts. -/
structure Backoff where
  initial : Span
  growth : Binary64
  spread : Binary64
  ceiling : Span
  budget : Option Span
  interval : Span
  since : Span

namespace Backoff

/-- The default settings: half a second, growing by one and a half, drawn from half to one and a
half times the interval, at most a minute, fifteen minutes in all. -/
def standard (now : Span) : Backoff where
  initial := .ofMillis 500
  growth := .finite (mkRat 3 2)
  spread := .finite (mkRat 1 2)
  ceiling := .ofSeconds 60
  budget := some (.ofSeconds (15 * 60))
  interval := .ofMillis 500
  since := now

/-- The default settings with another first delay and budget. -/
def new (initial : Span) (budget : Option Span) (now : Span) : Backoff :=
  { standard now with initial := initial, budget := budget, interval := initial }

/-- The default settings with another budget. -/
def withBudget (budget : Span) (now : Span) : Backoff :=
  { standard now with budget := some budget }

/-- Starts again from the initial interval with a fresh budget. -/
def restart (b : Backoff) (now : Span) : Backoff :=
  { b with interval := b.initial, since := now }

/-- The time since the last restart. -/
def elapsed (b : Backoff) (now : Span) : Span := now - b.since

/-- A double between two doubles. -/
def sample (low high : Binary64) (draw : Draw) : Except BackoffFault Binary64 :=
  match low, high with
  | .finite a, .finite b =>
    if a ≤ b then .ok (Binary64.round (a + draw.fraction * (b - a))) else .error .emptyRange
  | .finite _, .infinite false => .error .unboundedRange
  | _, _ => .error .emptyRange

/-- A span drawn around an interval, within `factor` of it on either side; the interval itself if
the factor is not positive. -/
def jitter (interval : Span) (factor : Binary64) (draw : Draw) : Except BackoffFault Span :=
  if Binary64.le factor (.finite 0) then .ok interval
  else
    let secs := interval.toSeconds
    let delta := Binary64.mul factor secs
    let low := Binary64.atLeastZero (Binary64.sub secs delta)
    let high := Binary64.add secs delta
    match sample low high draw with
    | .error e => .error e
    | .ok x =>
      match Span.ofSeconds? x with
      | .ok d => .ok d
      | .error e => .error (.seconds e)

/-- The interval after this one: grown by the factor, at most the ceiling. -/
def grow (b : Backoff) : Except BackoffFault Span :=
  let grown := Binary64.mul b.interval.toSeconds b.growth
  if Binary64.le b.ceiling.toSeconds grown then .ok b.ceiling
  else
    match Span.ofSeconds? grown with
    | .ok d => .ok d
    | .error e => .error (.seconds e)

/-- Whether sleeping `delay` from now on stays within the budget. -/
def affords (b : Backoff) (now delay : Span) : Except BackoffFault Bool :=
  match b.budget with
  | none => .ok true
  | some limit =>
    match Span.add? (b.elapsed now) delay with
    | none => .error .overflow
    | some total => .ok (decide (total ≤ limit))

/-- The next delay, or none once it would overrun the budget. -/
def next (b : Backoff) (now : Span) (draw : Draw) : Except BackoffFault (Option Span × Backoff) :=
  match jitter b.interval b.spread draw with
  | .error e => .error e
  | .ok delay =>
    match b.affords now delay with
    | .error e => .error e
    | .ok false => .ok (none, b)
    | .ok true =>
      match b.grow with
      | .error e => .error e
      | .ok interval => .ok (some delay, { b with interval := interval })

/-- Asks for the next delay.  Each step may fail, and a failure leaves behind what the steps before
it have written.  Only the last step writes: the interval, when it has been computed. -/
def request (now : Span) (draw : Draw) : EStateM BackoffFault Backoff (Option Span) := do
  let b ← get
  let delay ← liftExcept (jitter b.interval b.spread draw)
  if ← liftExcept (b.affords now delay) then
    let interval ← liftExcept b.grow
    modify fun b => { b with interval := interval }
    return some delay
  else
    return none

/-- Sleeps that followed each other: how many, their sum, the instant after the last one and the
state then, and the fault that ended them, if there was one. -/
structure Drained where
  count : Nat
  slept : Span
  now : Span
  backoff : Backoff
  fault : Option BackoffFault

/-- Takes and sleeps at most `limit` delays, until there are no more. -/
def drain (b : Backoff) (now : Span) (draws : Nat → Draw) : Nat → Drained
  | 0 => ⟨0, .zero, now, b, none⟩
  | limit + 1 =>
    match b.next now (draws limit) with
    | .error e => ⟨0, .zero, now, b, some e⟩
    | .ok (none, b) => ⟨0, .zero, now, b, none⟩
    | .ok (some delay, b) =>
      let rest := drain b (now + delay) draws limit
      { rest with count := rest.count + 1, slept := delay + rest.slept }

end Backoff

end Leasehold
