import Leasehold.Proofs.Backoff.Ceiling

/-!
# The budget of growing delays

An owner who sleeps through every delay before it asks for the next one is never handed more than
the budget, whatever the settings are, whatever is drawn and however long it waits besides.

* `Backoff.request_cases`: what a request can come to, and the state that it leaves behind.
* `Backoff.Usage`: a backoff with the delays that were handed out since the last restart.
  `Usage.Patient` holds of those whose owner sleeps through every delay.
* `Usage.Afforded`: what has been handed out has been slept, up to the instant at which the owner
  wakes, and is within the budget.  Every act of a patient owner keeps it.
* `Backoff.delays_within_budget` reads off what a budget bounds, `Backoff.slept_drain_le` what the
  loop sleeps that takes all delays.
-/

namespace Leasehold

namespace Span

/-- The sum of spans. -/
def total (ds : List Span) : Span := ds.foldr (· + ·) zero

@[simp] theorem nanos_total_nil : (total []).nanos = 0 := rfl

@[simp] theorem nanos_total_cons (d : Span) (ds : List Span) :
    (total (d :: ds)).nanos = d.nanos + (total ds).nanos := rfl

end Span

namespace Backoff

variable {b b' : Backoff} {now d limit : Span} {draw : Draw}

/-! ### Requests -/

/-- An answer and the state after it, in which a failure leaves the state as it was. -/
def settle (b : Backoff) : Except BackoffFault (Option Span × Backoff) →
    EStateM.Result BackoffFault Backoff (Option Span)
  | .ok (delay, b') => .ok delay b'
  | .error e => .error e b

/-- A request, step by step, comes to what the next delay is, and no failure leaves it half done. -/
theorem request_eq (b : Backoff) (now : Span) (draw : Draw) :
    request now draw b = b.settle (b.next now draw) := by
  unfold request next
  show EStateM.bind (liftExcept (jitter b.interval b.spread draw)) _ b = _
  cases jitter b.interval b.spread draw with
  | error e => rfl
  | ok d =>
    -- a delay is drawn, and the state is as it was
    show EStateM.bind (liftExcept (b.affords now d)) _ b = _
    dsimp only
    cases b.affords now d with
    | error e => rfl
    | ok afforded =>
      cases afforded with
      | false => rfl
      | true =>
        cases b.grow with
        | error e => rfl
        | ok interval => rfl

/-- What a request can come to, and the state that it leaves behind. -/
theorem request_cases (b : Backoff) (now : Span) (draw : Draw) :
    (∃ e, request now draw b = .error e b) ∨ request now draw b = .ok none b ∨
      ∃ d interval, b.affords now d = .ok true ∧
        request now draw b = .ok (some d) { b with interval := interval } := by
  rw [request_eq]
  rcases b.next_cases now draw with ⟨e, he⟩ | hn | ⟨d, interval, -, haffords, -, hn⟩
  · rw [he]
    exact .inl ⟨e, rfl⟩
  · rw [hn]
    exact .inr (.inl rfl)
  · rw [hn]
    exact .inr (.inr ⟨d, interval, haffords, rfl⟩)

/-- A delay is handed out only if the budget affords it. -/
theorem affords_of_handed (h : request now draw b = .ok (some d) b') :
    b.affords now d = .ok true := by
  rcases b.request_cases now draw with ⟨e, he⟩ | he | ⟨d', interval, haffords, he⟩
  · cases h.symm.trans he
  · cases h.symm.trans he
  · cases h.symm.trans he
    exact haffords

theorem eq_of_refused (h : request now draw b = .ok none b') : b' = b := by
  rcases b.request_cases now draw with ⟨e, he⟩ | he | ⟨d, interval, -, he⟩
  · cases h.symm.trans he
  · cases h.symm.trans he
    rfl
  · cases h.symm.trans he

theorem eq_of_failed {e : BackoffFault} (h : request now draw b = .error e b') : b' = b := by
  rcases b.request_cases now draw with ⟨e', he⟩ | he | ⟨d, interval, -, he⟩
  · cases h.symm.trans he
    rfl
  · cases h.symm.trans he
  · cases h.symm.trans he

/-- A delay that the budget affords ends within it. -/
theorem elapsed_add_le (hb : b.budget = some limit) (h : b.affords now d = .ok true) :
    b.elapsed now + d ≤ limit := by
  unfold affords Span.add? at h
  rw [hb] at h
  dsimp only at h
  split at h
  · next hsum =>
    split at hsum
    · cases hsum
    · cases h
  · next sum hsum =>
    split at hsum
    · cases hsum
      exact of_decide_eq_true (Except.ok.inj h)
    · cases hsum

/-! ### Usages -/

/-- A backoff in the hands of its owner: the instant of the last act, the instant at which the owner
has slept through the last delay, and the delays that were handed out since the last restart, the
latest first. -/
structure Usage where
  backoff : Backoff
  clock : Span
  wake : Span
  delays : List Span

namespace Usage

variable {u : Usage}

/-- Nothing has been handed out yet. -/
def start (b : Backoff) (now : Span) : Usage := ⟨b, now, now, []⟩

/-- The owner asks for a delay, and goes to sleep if one is handed out. -/
def ask (u : Usage) (now : Span) (draw : Draw) : Usage :=
  match request now draw u.backoff with
  | .ok (some d) b => ⟨b, now, now + d, d :: u.delays⟩
  | .ok none b | .error _ b => ⟨b, now, now, u.delays⟩

/-- The owner starts again with a fresh budget. -/
def restart (u : Usage) (now : Span) : Usage := start (u.backoff.restart now) now

/-- The owner replaces all settings but the budget. -/
def tune (u : Usage) (initial : Span) (growth spread : Binary64) (ceiling : Span) : Usage :=
  { u with backoff := { u.backoff with
      initial := initial, growth := growth, spread := spread, ceiling := ceiling } }

/-- The usages of a backoff by an owner who sleeps through every delay before it asks for another
one.  It may sleep longer, and it may start again in the middle of a delay. -/
inductive Patient (limit : Span) : Usage → Prop
  | start {b : Backoff} {now : Span} (hb : b.budget = some limit) (hnow : b.since ≤ now) :
      Patient limit (start b now)
  | ask {u : Usage} {now : Span} (h : Patient limit u) (hnow : u.wake ≤ now) (draw : Draw) :
      Patient limit (u.ask now draw)
  | restart {u : Usage} {now : Span} (h : Patient limit u) (hnow : u.clock ≤ now) :
      Patient limit (u.restart now)
  | tune {u : Usage} (h : Patient limit u) (initial : Span) (growth spread : Binary64)
      (ceiling : Span) : Patient limit (u.tune initial growth spread ceiling)

theorem ask_of_handed (h : request now draw u.backoff = .ok (some d) b') :
    u.ask now draw = ⟨b', now, now + d, d :: u.delays⟩ := by
  unfold ask
  rw [h]

/-- What becomes of a usage when its owner asks: nothing but that time has passed, or a delay is
handed out that the budget affords. -/
theorem ask_cases (u : Usage) (now : Span) (draw : Draw) :
    u.ask now draw = { u with clock := now, wake := now } ∨
      ∃ d interval, u.backoff.affords now d = .ok true ∧
        u.ask now draw =
          ⟨{ u.backoff with interval := interval }, now, now + d, d :: u.delays⟩ := by
  rcases request_cases u.backoff now draw with ⟨e, h⟩ | h | ⟨d, interval, haffords, h⟩
  · left
    unfold ask
    rw [h]
  · left
    unfold ask
    rw [h]
  · exact .inr ⟨d, interval, haffords, ask_of_handed h⟩

/-- What has been handed out has been slept when the owner wakes, and is within the budget. -/
structure Afforded (limit : Span) (u : Usage) : Prop where
  budget : u.backoff.budget = some limit
  started : u.backoff.since ≤ u.clock
  awake : u.clock ≤ u.wake
  slept : Span.total u.delays ≤ u.backoff.elapsed u.wake
  bounded : Span.total u.delays ≤ limit

theorem afforded_start (hb : b.budget = some limit) (hnow : b.since ≤ now) :
    Afforded limit (start b now) where
  budget := hb
  started := hnow
  awake := Nat.le_refl _
  slept := Nat.zero_le _
  bounded := Nat.zero_le _

/-- At the next request, the time elapsed stands for all delays that were handed out. -/
theorem Afforded.total_le_elapsed (h : Afforded limit u) (hnow : u.wake ≤ now) :
    Span.total u.delays ≤ u.backoff.elapsed now :=
  Nat.le_trans h.slept (Nat.sub_le_sub_right hnow _)

theorem Afforded.ask (h : Afforded limit u) (hnow : u.wake ≤ now) (draw : Draw) :
    Afforded limit (u.ask now draw) := by
  have hpast := h.total_le_elapsed hnow
  have hstarted : u.backoff.since ≤ now := Nat.le_trans h.started (Nat.le_trans h.awake hnow)
  rcases u.ask_cases now draw with he | ⟨d, interval, haffords, he⟩
  · rw [he]
    exact ⟨h.budget, hstarted, Nat.le_refl _, hpast, h.bounded⟩
  · rw [he]
    refine ⟨h.budget, hstarted, Nat.le_add_right _ _, ?_, ?_⟩
    · -- the owner wakes from the new delay when that has passed, too
      simp only [Span.le_def, elapsed, Span.nanos_sub, Span.nanos_add, Span.nanos_total_cons]
        at hpast hstarted ⊢
      omega
    · calc (Span.total (d :: u.delays)).nanos
          = (Span.total u.delays).nanos + d.nanos := Nat.add_comm _ _
        _ ≤ (u.backoff.elapsed now).nanos + d.nanos := Nat.add_le_add_right hpast _
        _ ≤ limit.nanos := elapsed_add_le h.budget haffords

theorem Afforded.restart (h : Afforded limit u) (now : Span) : Afforded limit (u.restart now) :=
  afforded_start (b := u.backoff.restart now) h.budget (Nat.le_refl _)

theorem Afforded.tune (h : Afforded limit u) (initial : Span) (growth spread : Binary64)
    (ceiling : Span) : Afforded limit (u.tune initial growth spread ceiling) :=
  ⟨h.budget, h.started, h.awake, h.slept, h.bounded⟩

/-- A patient owner is never handed more than the budget. -/
theorem Patient.afforded (h : u.Patient limit) : Afforded limit u := by
  induction h with
  | start hb hnow => exact afforded_start hb hnow
  | ask _ hnow draw ih => exact ih.ask hnow draw
  | restart _ _ ih => exact ih.restart _
  | tune _ initial growth spread ceiling ih => exact ih.tune initial growth spread ceiling

end Usage

/-! ### The budget -/

/-- Whatever the settings are and whatever is drawn, a patient owner is handed no delay that ends
after the budget, and all delays since the last restart together are no longer than the budget.  A
request that hands out nothing, because the budget is spent or a number has no span, leaves the
interval and the start of the budget as they were. -/
theorem delays_within_budget {u : Usage} (h : u.Patient limit) :
    (∀ now draw d b', request now draw u.backoff = .ok (some d) b' →
      u.backoff.elapsed now + d ≤ limit) ∧
    Span.total u.delays ≤ limit ∧
    ∀ now draw b', request now draw u.backoff = .ok none b' ∨
        (∃ e, request now draw u.backoff = .error e b') →
      b'.interval = u.backoff.interval ∧ b'.since = u.backoff.since := by
  have hafforded := h.afforded
  refine ⟨fun now draw d b' hd => ?_, hafforded.bounded, fun now draw b' hnone => ?_⟩
  · exact elapsed_add_le hafforded.budget (affords_of_handed hd)
  · have hsame : b' = u.backoff := by
      rcases hnone with hrefused | ⟨e, hfailed⟩
      · exact eq_of_refused hrefused
      · exact eq_of_failed hfailed
    rw [hsame]
    exact ⟨rfl, rfl⟩

/-- A backoff whose delays shrink, drawn from no time at all up to three times the interval. -/
def shrinking : Backoff :=
  { withBudget (.ofSeconds 2) .zero with growth := .finite (mkRat 1 2), spread := .finite 2 }

/-- Its owner has taken the first delay, and then sets a growth that is not a number. -/
def Usage.spoilt : Usage :=
  ((Usage.start shrinking .zero).ask .zero .middle).tune (.ofMillis 500) .nan (.finite 2)
    (.ofSeconds 60)

/-- `delays_within_budget` for a first delay, and for a request that fails when the interval cannot
grow, after the delay has been found affordable. -/
theorem delays_within_budget_spoilt :
    Usage.spoilt.Patient (.ofSeconds 2) ∧
    shrinking.elapsed .zero + .ofMillis 750 ≤ .ofSeconds 2 ∧
    Usage.spoilt.delays = [.ofMillis 750] ∧
    Span.total Usage.spoilt.delays ≤ .ofSeconds 2 ∧
    ∃ b', request (.ofMillis 1500) .middle Usage.spoilt.backoff = .error (.seconds .tooLarge) b' ∧
      b'.interval = .ofMillis 250 ∧ b'.since = .zero := by
  have hfresh : (Usage.start shrinking .zero).Patient (.ofSeconds 2) := .start rfl (Nat.le_refl _)
  have hspoilt : Usage.spoilt.Patient (.ofSeconds 2) :=
    .tune (.ask hfresh (Nat.le_refl _) .middle) _ _ _ _
  have hfirst : request .zero .middle shrinking =
      .ok (some (.ofMillis 750)) { shrinking with interval := .ofMillis 250 } := by
    have hgrow : shrinking.grow = .ok (.ofMillis 250) := by decide +kernel
    rw [request_eq, next_of_affords (d := .ofMillis 750) (by decide +kernel) (by decide +kernel),
      hgrow]
    rfl
  have hinterval : Usage.spoilt.backoff.interval = .ofMillis 250 := by decide +kernel
  have hfails : request (.ofMillis 1500) .middle Usage.spoilt.backoff =
      .error (.seconds .tooLarge) Usage.spoilt.backoff := by
    have hgrow : Usage.spoilt.backoff.grow = .error (.seconds .tooLarge) := by decide +kernel
    rw [request_eq, next_of_affords (d := .ofMillis 375) (by decide +kernel) (by decide +kernel),
      hgrow]
    rfl
  obtain ⟨hfits, -, -⟩ := delays_within_budget hfresh
  obtain ⟨-, hsum, hkept⟩ := delays_within_budget hspoilt
  have hsame := hkept _ _ _ (.inr ⟨_, hfails⟩)
  have hsince : Usage.spoilt.backoff.since = .zero := by decide +kernel
  exact ⟨hspoilt, hfits _ _ _ _ hfirst, by decide +kernel, hsum, _, hfails,
    hsame.1.trans hinterval, hsame.2.trans hsince⟩

/-! ### Sleeping through all delays -/

/-- The loop that sleeps through all delays is that of a patient owner. -/
theorem Usage.Patient.drain {u : Usage} (h : u.Patient limit) (hnow : u.wake ≤ now)
    (draws : ℕ → Draw) (n : ℕ) :
    ∃ v : Usage, v.Patient limit ∧
      (Span.total v.delays).nanos =
        (Span.total u.delays).nanos + (u.backoff.drain now draws n).slept.nanos := by
  induction n generalizing u now with
  | zero => exact ⟨u, h, rfl⟩
  | succ n ih =>
    unfold Backoff.drain
    rcases u.backoff.next_cases now (draws n) with ⟨e, hn⟩ | hn | ⟨d, interval, -, -, -, hn⟩
    · rw [hn]
      exact ⟨u, h, rfl⟩
    · rw [hn]
      exact ⟨u, h, rfl⟩
    · have hhanded : request now (draws n) u.backoff =
          .ok (some d) { u.backoff with interval := interval } := by
        rw [request_eq, hn]
        rfl
      have hnext := h.ask hnow (draws n)
      rw [Usage.ask_of_handed hhanded] at hnext
      obtain ⟨v, hv, hsum⟩ := ih hnext (Nat.le_refl _)
      rw [hn]
      refine ⟨v, hv, hsum.trans ?_⟩
      simp only [Span.nanos_total_cons, Span.nanos_add]
      omega

/-- What the loop sleeps that takes all delays is within the budget. -/
theorem slept_drain_le (hb : b.budget = some limit) (hnow : b.since ≤ now) (draws : ℕ → Draw)
    (n : ℕ) : (b.drain now draws n).slept ≤ limit := by
  have hstart : (Usage.start b now).Patient limit := .start hb hnow
  obtain ⟨v, hv, hsum⟩ := hstart.drain (Nat.le_refl _) draws n
  calc (b.drain now draws n).slept.nanos
      = (Span.total v.delays).nanos := (hsum.trans (Nat.zero_add _)).symm
    _ ≤ limit.nanos := hv.afforded.bounded

end Backoff

end Leasehold
