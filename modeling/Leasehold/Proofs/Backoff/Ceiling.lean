import Mathlib.Data.List.Induction
import Leasehold.Proofs.Backoff.Delays

/-!
# The ceiling of a growing delay

Growing never leads beyond the ceiling, whatever the settings are.  The initial interval is not
capped, so that the first delay after a start can be drawn around a longer one.

* `Span.toSeconds_le`: no double lies between a span and its number of seconds.
* `Backoff.grow_le`: growing ends at the ceiling.
* `Backoff.after`, `Backoff.Underway`: delays and restarts that follow each other.
* `Backoff.interval_after`, `Backoff.interval_le_ceiling`: the intervals that delays are drawn from.
-/

namespace Leasehold

open Binary64

namespace Span

variable {d : Span}

/-- The whole seconds of a span as a double. -/
theorem ofNat_seconds (hd : d ≤ longest) :
    ∃ s, ofNat d.seconds = .finite s ∧ Fits s ∧ 0 ≤ s ∧ s ≤ 2 ^ (64 : ℤ) ∧
      (∀ a, Fits a → a ≤ d.seconds → a ≤ s) ∧ ∀ a, Fits a → d.seconds ≤ a → s ≤ a := by
  have hsecs0 : (0 : ℚ) ≤ d.seconds := Nat.cast_nonneg _
  have hsecs : (d.seconds : ℚ) ≤ 2 ^ (64 : ℤ) := by
    have h : d.seconds ≤ 2 ^ 64 := by
      simp only [le_def, longest, perSecond, seconds, Nat.pow_eq] at hd ⊢
      omega
    exact_mod_cast h
  obtain ⟨s, hs, hfit, hmax, hmin⟩ := round_of_nonneg hsecs0
    (hsecs.trans (two_zpow_le (by norm_num)))
  have hs0 : 0 ≤ s := hmax 0 fits_zero hsecs0
  exact ⟨s, hs, hfit, hs0, hmin _ (fits_zpow (by norm_num)) hsecs, hmax, hmin⟩

/-- No double lies between a span and its number of seconds. -/
theorem toSeconds_le (hd : d ≤ longest) :
    ∃ x, d.toSeconds = .finite x ∧ Fits x ∧ 0 ≤ x ∧
      ∀ p, Fits p → (d.nanos : ℚ) < p * 1000000000 → x ≤ p := by
  obtain ⟨f, hf, hf0, hf1, -, hfmin⟩ := divBy_subNanos d
  obtain ⟨s, hs, hsfit, hs0, hs64, hsmax, hsmin⟩ := ofNat_seconds hd
  have hparts : (d.nanos : ℚ) = d.seconds * 1000000000 + d.subNanos := by
    rw [nanos_eq, ← cast_perSecond]
    push_cast
    rfl
  have hsum : s + f ≤ 2 ^ (65 : ℤ) := by
    norm_num at hs64 ⊢
    linarith
  obtain ⟨x, hx, hxfit, hxmax, hxmin⟩ := round_of_nonneg (add_nonneg hs0 hf0)
    (hsum.trans (two_zpow_le (by norm_num)))
  refine ⟨x, ?_, hxfit, ?_, fun p hp hlt => ?_⟩
  · unfold toSeconds
    rw [hs, hf]
    exact hx
  · exact hxmax 0 fits_zero (add_nonneg hs0 hf0)
  have hbeyond : d.seconds + (d.subNanos : ℚ) / 1000000000 < p := by
    have hdiv := div_mul_cancel₀ (d.subNanos : ℚ) (by norm_num : (1000000000 : ℚ) ≠ 0)
    linarith
  have hfrac : (0 : ℚ) ≤ d.subNanos / 1000000000 := by positivity
  rcases lt_or_ge d.seconds (2 ^ 53) with hsmall | hlarge
  · -- the whole seconds are a double, and so is what the other double has beyond them
    unfold ofNat at hs
    rw [round_natCast hsmall] at hs
    cases hs
    refine hxmin p hp ?_
    rcases hp.sub_natCast (n := d.seconds) (by linarith) with hfit | hone
    · have hle := hfmin _ hfit (by linarith)
      linarith
    · linarith
  · -- the fraction is too small to tell
    have hs53 : 2 ^ (53 : ℤ) ≤ s := hsmax _ (fits_zpow (by norm_num)) (by exact_mod_cast hlarge)
    have hnear := near_add_le hsfit hs53 hf0 hf1
    have hlt : near (s + f) < 2 ^ (1024 : ℤ) :=
      (hnear.trans hs64).trans_lt (zpow_lt_zpow_right₀ (by norm_num) (by norm_num))
    rw [round_of_pos (by linarith [two_zpow_pos 53]) hlt] at hx
    cases hx
    exact hnear.trans (hsmin p hp (by linarith))

/-- What is the span of a number of seconds. -/
theorem ofSeconds?_eq_ok {x : Binary64} (h : ofSeconds? x = .ok d) :
    ∃ q, x = .finite q ∧ 0 ≤ q ∧ d.nanos = (nearestEven (q * 1000000000)).toNat ∧ d ≤ longest := by
  cases x with
  | nan | infinite negative => cases h
  | finite q =>
    unfold ofSeconds? at h
    dsimp only at h
    rw [cast_perSecond] at h
    split at h
    · cases h
    next hneg =>
    split at h
    · next hlong =>
      cases h
      exact ⟨q, rfl, not_lt.1 hneg, rfl, hlong⟩
    · cases h

/-- A double below the number of seconds of a span is the number of seconds of no longer one. -/
theorem ofSeconds?_le {c : Span} {x : Binary64} (h : ofSeconds? x = .ok d)
    (hfits : ∀ q, x = .finite q → 0 < q → Fits q) (hbelow : Binary64.le c.toSeconds x = false) :
    d ≤ c := by
  obtain ⟨q, rfl, hq0, hd, hlong⟩ := ofSeconds?_eq_ok h
  by_contra hlt
  have hc : c.nanos < d.nanos := Nat.lt_of_not_le hlt
  obtain ⟨x, hx, -, -, hmin⟩ := toSeconds_le (d := c) (Nat.le_trans hc.le hlong)
  rw [hx] at hbelow
  have hqx : q < x := not_le.1 (of_decide_eq_false hbelow)
  have hnot : ¬(c.nanos : ℚ) < q * 1000000000 := fun hcq => by
    have hpos : 0 < q := by
      have hc0 : (0 : ℚ) ≤ c.nanos := Nat.cast_nonneg _
      linarith
    exact absurd (hmin q (hfits q rfl hpos) hcq) (not_le.2 hqx)
  have hround : nearestEven (q * 1000000000) ≤ (c.nanos : ℤ) :=
    nearestEven_le_of_le (by exact_mod_cast not_lt.1 hnot)
  omega

end Span

namespace Backoff

variable {b b' : Backoff} {acts : List Act} {now : Span} {draw : Draw} {d : Span}

/-! ### Growing -/

/-- Growing never leads beyond the ceiling, whatever the interval, the factor and the ceiling. -/
theorem grow_le (h : b.grow = .ok d) : d ≤ b.ceiling := by
  unfold grow at h
  dsimp only at h
  split at h
  · cases h
    exact Nat.le_refl _
  next hbelow =>
  split at h
  · next d' hd =>
    cases h
    exact Span.ofSeconds?_le hd (fun q hq => fits_of_mul hq) (Bool.eq_false_iff.2 hbelow)
  · cases h

/-- All that the next delay can be, and the state then. -/
theorem next_cases (b : Backoff) (now : Span) (draw : Draw) :
    (∃ e, b.next now draw = .error e) ∨ b.next now draw = .ok (none, b) ∨
      ∃ d interval, jitter b.interval b.spread draw = .ok d ∧ b.affords now d = .ok true ∧
        b.grow = .ok interval ∧
        b.next now draw = .ok (some d, { b with interval := interval }) := by
  unfold next
  split
  · exact .inl ⟨_, rfl⟩
  next d hd =>
  split
  · exact .inl ⟨_, rfl⟩
  · exact .inr (.inl rfl)
  · next haffords =>
    split
    · exact .inl ⟨_, rfl⟩
    · next interval hgrow => exact .inr (.inr ⟨d, interval, hd, haffords, hgrow, rfl⟩)

/-- A delay that is drawn and affordable is handed out if the interval can grow. -/
theorem next_of_affords (hd : jitter b.interval b.spread draw = .ok d)
    (ha : b.affords now d = .ok true) :
    b.next now draw = b.grow.map fun interval => (some d, { b with interval := interval }) := by
  unfold next
  rw [hd]
  dsimp only
  rw [ha]
  dsimp only
  cases b.grow with
  | error e => rfl
  | ok interval => rfl

/-! ### Delays and restarts -/

/-- A delay is asked for, or the backoff is restarted. -/
inductive Act
  | next (now : Span) (draw : Draw)
  | restart (now : Span)

/-- What becomes of a backoff by an act.  A delay that could not be computed leaves it as it was. -/
def act (b : Backoff) : Act → Backoff
  | .next now draw =>
    match b.next now draw with
    | .ok (_, b') => b'
    | .error _ => b
  | .restart now => b.restart now

theorem act_of_ok {delay : Option Span} (h : b.next now draw = .ok (delay, b')) :
    b.act (.next now draw) = b' := by
  unfold act
  dsimp only
  rw [h]

theorem act_of_error {e : BackoffFault} (h : b.next now draw = .error e) :
    b.act (.next now draw) = b := by
  unfold act
  dsimp only
  rw [h]

/-- What becomes of a backoff by acts that follow each other. -/
def after (b : Backoff) (acts : List Act) : Backoff := acts.foldl act b

@[simp] theorem after_concat (b : Backoff) (acts : List Act) (a : Act) :
    b.after (acts ++ [a]) = (b.after acts).act a := List.foldl_append ..

/-- A delay has been handed out since the last restart. -/
def Underway (b : Backoff) (acts : List Act) : Prop :=
  ∃ before now draw d b' rest, acts = before ++ .next now draw :: rest ∧
    (b.after before).next now draw = .ok (some d, b') ∧ ∀ now', .restart now' ∉ rest

theorem not_underway_nil : ¬b.Underway [] := by
  rintro ⟨before, now, draw, d, b', rest, he, -⟩
  simp at he

theorem not_underway_restart : ¬b.Underway (acts ++ [.restart now]) := by
  rintro ⟨before, now', draw, d, b', rest, he, -, hrest⟩
  rcases List.eq_nil_or_concat rest with rfl | ⟨rest, a, rfl⟩
  · cases List.singleton_inj.1 (List.append_inj_right' he rfl)
  · rw [List.concat_eq_append, ← List.cons_append, ← List.append_assoc] at he
    have ha : .restart now = a := List.singleton_inj.1 (List.append_inj_right' he rfl)
    exact hrest now (by rw [ha]; simp)

theorem underway_next_iff : b.Underway (acts ++ [.next now draw]) ↔
    (∃ d b', (b.after acts).next now draw = .ok (some d, b')) ∨ b.Underway acts := by
  constructor
  · rintro ⟨before, now', draw', d, b', rest, he, hn, hrest⟩
    rcases List.eq_nil_or_concat rest with rfl | ⟨rest, a, rfl⟩
    · obtain rfl := List.append_inj_left' he rfl
      cases List.singleton_inj.1 (List.append_inj_right' he rfl)
      exact .inl ⟨d, b', hn⟩
    · rw [List.concat_eq_append, ← List.cons_append, ← List.append_assoc] at he
      exact .inr ⟨before, now', draw', d, b', rest, List.append_inj_left' he rfl, hn,
        fun t ht => hrest t (by simp [ht])⟩
  · rintro (⟨d, b', hn⟩ | ⟨before, now', draw', d, b', rest, rfl, hn, hrest⟩)
    · exact ⟨acts, now, draw, d, b', [], rfl, hn, by simp⟩
    · exact ⟨before, now', draw', d, b', rest ++ [.next now draw], by simp, hn,
        by simpa using hrest⟩

/-- Acts change the interval and the start of the budget only. -/
theorem act_eq (b : Backoff) (a : Act) :
    ∃ interval since, b.act a = { b with interval := interval, since := since } := by
  cases a with
  | next now draw =>
    rcases b.next_cases now draw with ⟨e, he⟩ | he | ⟨d, interval, -, -, -, he⟩
    · exact ⟨b.interval, b.since, act_of_error he⟩
    · exact ⟨b.interval, b.since, act_of_ok he⟩
    · exact ⟨interval, b.since, act_of_ok he⟩
  | restart now => exact ⟨b.initial, now, rfl⟩

theorem after_eq (b : Backoff) (acts : List Act) :
    ∃ interval since, b.after acts = { b with interval := interval, since := since } := by
  induction acts using List.reverseRecOn with
  | nil => exact ⟨b.interval, b.since, rfl⟩
  | append_singleton acts a ih =>
    obtain ⟨interval, since, h⟩ := ih
    obtain ⟨interval', since', h'⟩ := act_eq (b.after acts) a
    exact ⟨interval', since', by rw [after_concat, h', h]⟩

/-- The intervals that follow each other: the initial one until a delay has been handed out, and
from then on none beyond the ceiling. -/
theorem interval_after (hb : b.interval = b.initial) (acts : List Act) :
    (b.Underway acts → (b.after acts).interval ≤ b.ceiling) ∧
      (¬b.Underway acts → (b.after acts).interval = b.initial) := by
  induction acts using List.reverseRecOn with
  | nil => exact ⟨fun h => absurd h not_underway_nil, fun _ => hb⟩
  | append_singleton acts a ih =>
    obtain ⟨interval, since, hsettings⟩ := b.after_eq acts
    rw [after_concat]
    cases a with
    | restart now =>
      refine ⟨fun h => absurd h not_underway_restart, fun _ => ?_⟩
      show (b.after acts).initial = b.initial
      rw [hsettings]
    | next now draw =>
      rw [underway_next_iff]
      rcases (b.after acts).next_cases now draw with ⟨e, he⟩ | he | ⟨d, grown, -, -, hgrow, he⟩
      · rw [act_of_error he]
        simpa [he] using ih
      · rw [act_of_ok he]
        simpa [he] using ih
      · rw [act_of_ok he]
        refine ⟨fun _ => ?_, fun h => absurd (.inl ⟨d, _, he⟩) h⟩
        have hle := grow_le hgrow
        rw [hsettings] at hle
        exact hle

/-! ### The ceiling -/

/-- A backoff as it is made, with the settings that its owner may replace before its use. -/
inductive Built : Backoff → Prop
  | standard (now : Span) : Built (standard now)
  | new (initial : Span) (budget : Option Span) (now : Span) : Built (new initial budget now)
  | withBudget (budget now : Span) : Built (withBudget budget now)
  | tuned {b : Backoff} (growth spread : Binary64) (ceiling : Span) (budget : Option Span)
      (h : Built b) : Built
        { b with growth := growth, spread := spread, ceiling := ceiling, budget := budget }

theorem Built.interval_eq (h : b.Built) : b.interval = b.initial := by
  induction h with
  | standard now | new initial budget now | withBudget budget now => rfl
  | tuned growth spread ceiling budget h ih => exact ih

/-- The interval from which a delay is drawn is at most the ceiling, and so is the delay itself if
it is not randomized, once a delay has been handed out since the last restart, and from the first
one on if the initial interval is at most the ceiling.  The first delay after a start is drawn
around the initial interval, which is not capped. -/
theorem interval_le_ceiling (hb : b.Built) (acts : List Act)
    (hn : (b.after acts).next now draw = .ok (some d, b')) :
    jitter (b.after acts).interval b.spread draw = .ok d ∧
    (b.initial ≤ b.ceiling ∨ b.Underway acts →
      (b.after acts).interval ≤ b.ceiling ∧
        (Binary64.le b.spread (.finite 0) = true → d ≤ b.ceiling)) ∧
    (¬b.Underway acts → (b.after acts).interval = b.initial ∧
      (Binary64.le b.spread (.finite 0) = true → d = b.initial)) := by
  obtain ⟨hcapped, hfirst⟩ := interval_after hb.interval_eq acts
  have hdrawn : jitter (b.after acts).interval b.spread draw = .ok d := by
    obtain ⟨interval, since, hsettings⟩ := b.after_eq acts
    have hspread : (b.after acts).spread = b.spread := by rw [hsettings]
    rw [← hspread]
    rcases (b.after acts).next_cases now draw with ⟨e, he⟩ | he | ⟨d', grown, hd, -, -, he⟩
    · cases he.symm.trans hn
    · cases he.symm.trans hn
    · cases he.symm.trans hn
      exact hd
  have hplain (h : Binary64.le b.spread (.finite 0) = true) : d = (b.after acts).interval := by
    unfold jitter at hdrawn
    rw [if_pos h] at hdrawn
    cases hdrawn
    rfl
  refine ⟨hdrawn, fun h => ?_, fun h => ⟨hfirst h, fun hs => (hplain hs).trans (hfirst h)⟩⟩
  have hle : (b.after acts).interval ≤ b.ceiling := by
    by_cases hu : b.Underway acts
    · exact hcapped hu
    · rw [hfirst hu]
      exact h.resolve_right hu
  exact ⟨hle, fun hs => hplain hs ▸ hle⟩

/-- A backoff without randomization that starts above the ceiling. -/
def tall : Backoff := { new (.ofSeconds 120) none .zero with spread := .finite 0 }

theorem built_tall : tall.Built := .tuned _ (.finite 0) _ _ (.new (.ofSeconds 120) none .zero)

/-- Without randomization and budget the interval itself is handed out. -/
theorem next_plain {interval : Span} (hs : Binary64.le b.spread (.finite 0) = true)
    (hb : b.budget = none) (hg : b.grow = .ok interval) :
    b.next now draw = .ok (some b.interval, { b with interval := interval }) := by
  have hdrawn : jitter b.interval b.spread draw = .ok b.interval := if_pos hs
  have haffords : b.affords now b.interval = .ok true := by
    unfold affords
    rw [hb]
  rw [next_of_affords hdrawn haffords, hg]
  rfl

theorem next_tall : tall.next .zero .middle =
    .ok (some (.ofSeconds 120), { tall with interval := .ofSeconds 60 }) :=
  next_plain (by decide +kernel) rfl (by decide +kernel)

/-- `interval_le_ceiling` for the first delay, which is above the ceiling, and for the second. -/
theorem interval_le_ceiling_tall :
    Span.ofSeconds 120 = tall.initial ∧
    (tall.after [.next .zero .middle]).interval ≤ tall.ceiling ∧
    Span.ofSeconds 60 ≤ tall.ceiling := by
  have hplain : Binary64.le tall.spread (.finite 0) = true := by decide +kernel
  have hunder : tall.Underway [.next .zero .middle] :=
    ⟨[], .zero, .middle, _, _, [], rfl, next_tall, by simp⟩
  have hstate : tall.after [.next .zero .middle] = { tall with interval := .ofSeconds 60 } :=
    act_of_ok next_tall
  have hsecond : (tall.after [.next .zero .middle]).next .zero .middle =
      .ok (some (.ofSeconds 60), { tall with interval := .ofSeconds 60 }) := by
    rw [hstate]
    exact next_plain hplain rfl (by decide +kernel)
  obtain ⟨-, -, hfirst⟩ := interval_le_ceiling built_tall [] next_tall
  obtain ⟨-, hlater, -⟩ := interval_le_ceiling built_tall _ hsecond
  exact ⟨(hfirst not_underway_nil).2 hplain, (hlater (.inr hunder)).1,
    (hlater (.inr hunder)).2 hplain⟩

/-- A delay can be above the ceiling, even if it is not randomized. -/
theorem delay_above_ceiling :
    tall.Built ∧ Binary64.le tall.spread (.finite 0) = true ∧
    tall.next .zero .middle =
      .ok (some (.ofSeconds 120), { tall with interval := .ofSeconds 60 }) ∧
    ¬tall.interval ≤ tall.ceiling ∧ ¬Span.ofSeconds 120 ≤ tall.ceiling :=
  ⟨built_tall, by decide +kernel, next_tall, by decide +kernel, by decide +kernel⟩

end Backoff

end Leasehold
