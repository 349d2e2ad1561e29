import Mathlib.Tactic.FieldSimp
import Leasehold.Backoff
import Leasehold.Proofs.Number.Rounding

/-!
# Delays with the default settings

Whatever is drawn, a delay of the default settings is neither short nor long, and none of the
conversions on the way to it fails.

* `Span.toSeconds_between`: a span of half a second to a minute as a double.
* `Backoff.Steady`: the default settings with some budget, the interval somewhere between half a
  second and a minute.
* `Backoff.next_steady`: what the next delay can be.
-/

namespace Leasehold

open Binary64

namespace Span

variable {d : Span}

theorem cast_perSecond : ((perSecond : ℕ) : ℚ) = 1000000000 := by norm_num [perSecond]

theorem nanos_eq (d : Span) : d.nanos = d.seconds * perSecond + d.subNanos := by
  unfold seconds subNanos
  rw [Nat.mul_comm, Nat.div_add_mod]

/-- The fraction of a second beyond the whole ones as a double: below one, and on the same side of
all doubles. -/
theorem divBy_subNanos (d : Span) :
    ∃ f, divBy (ofNat d.subNanos) perSecond = .finite f ∧ 0 ≤ f ∧ f < 1 ∧
      (∀ a, Fits a → a ≤ (d.subNanos : ℚ) / 1000000000 → a ≤ f) ∧
      ∀ a, Fits a → (d.subNanos : ℚ) / 1000000000 ≤ a → f ≤ a := by
  have hlt : d.subNanos < perSecond := Nat.mod_lt _ (by decide)
  have hle : (d.subNanos : ℚ) ≤ 999999999 := by
    have hle : d.subNanos ≤ 999999999 := Nat.le_of_lt_succ hlt
    exact_mod_cast hle
  have hq : (0 : ℚ) ≤ d.subNanos / 1000000000 := by positivity
  -- a double below one is a bound, so that the fraction is not rounded to one
  have hbelow : Fits ((2 ^ 30 - 1 : ℕ) * 2 ^ (-30 : ℤ)) := ⟨_, _, by norm_num, by norm_num, rfl⟩
  have hbound : (d.subNanos : ℚ) / 1000000000 ≤ (2 ^ 30 - 1 : ℕ) * 2 ^ (-30 : ℤ) := by
    norm_num
    linarith
  have hone : ((2 ^ 30 - 1 : ℕ) : ℚ) * 2 ^ (-30 : ℤ) < 2 ^ (0 : ℤ) := by norm_num
  obtain ⟨f, hf, -, hmax, hmin⟩ := round_of_nonneg hq
    (hbound.trans (hone.le.trans (two_zpow_le (by norm_num))))
  have hf0 : 0 ≤ f := hmax 0 fits_zero hq
  refine ⟨f, ?_, hf0, (hmin _ hbelow hbound).trans_lt (by norm_num), hmax, hmin⟩
  unfold ofNat
  rw [round_natCast (hlt.trans (by decide)), ← hf, ← cast_perSecond]
  rfl

/-- A span of half a second to a minute is a double between a half and sixty. -/
theorem toSeconds_between (hlow : ofMillis 500 ≤ d) (hhigh : d ≤ ofSeconds 60) :
    ∃ s, d.toSeconds = .finite s ∧ Fits s ∧ 1 / 2 ≤ s ∧ s ≤ 60 := by
  obtain ⟨f, hf, hf0, hf1, hmax, hmin⟩ := divBy_subNanos d
  have hparts := d.nanos_eq
  have hsub : d.subNanos < perSecond := Nat.mod_lt _ (by decide)
  simp only [le_def, ofMillis, ofSeconds, perMilli, perSecond] at hlow hhigh hparts hsub
  have hsecs : d.seconds ≤ 60 := by omega
  unfold toSeconds Binary64.ofNat at *
  rw [round_natCast (n := d.seconds) (by omega)]
  have hsum : (1 : ℚ) / 2 ≤ d.seconds + f := by
    rcases Nat.eq_zero_or_pos d.seconds with h0 | hpos
    · have hhalf : 500000000 ≤ d.subNanos := by omega
      have hhalf' : (500000000 : ℚ) ≤ d.subNanos := by exact_mod_cast hhalf
      have hle : (1 : ℚ) / 2 ≤ d.subNanos / 1000000000 := by
        rw [le_div_iff₀ (by norm_num)]
        linarith
      have hlow := hmax _ fits_half hle
      rw [h0]
      push_cast
      linarith
    · have : (1 : ℚ) ≤ d.seconds := by exact_mod_cast hpos
      linarith
  have hle : (d.seconds : ℚ) + f ≤ ((60 : ℕ) : ℚ) := by
    rcases Nat.lt_or_eq_of_le hsecs with hlt | heq
    · have : (d.seconds : ℚ) + 1 ≤ (60 : ℕ) := by exact_mod_cast hlt
      linarith
    · have hnone : d.subNanos = 0 := by omega
      have hzero := hmin 0 fits_zero (by simp [hnone])
      rw [heq]
      push_cast
      linarith
  obtain ⟨s, hs, hfit, hsl, hsh⟩ := round_between (q := d.seconds + f) (by linarith) fits_half
    (fits_natCast (by norm_num)) hsum hle (lt_two_zpow_1024 (by norm_num))
  refine ⟨s, ?_, hfit, hsl, by push_cast at hsh; exact hsh⟩
  rw [hf]
  exact hs

theorem toSeconds_minute : (ofSeconds 60).toSeconds = .finite 60 := by
  have hsecs : (ofSeconds 60).seconds = 60 := by decide
  have hsub : (ofSeconds 60).subNanos = 0 := by decide
  have hsixty : Binary64.round ((60 : ℕ) : ℚ) = .finite ((60 : ℕ) : ℚ) :=
    round_natCast (by norm_num)
  have hzero : Binary64.round ((0 : ℕ) : ℚ) = .finite ((0 : ℕ) : ℚ) := round_natCast (by norm_num)
  unfold toSeconds Binary64.ofNat
  rw [hsecs, hsub, hsixty, hzero]
  simp only [Binary64.divBy, Nat.cast_zero, zero_div]
  rw [← Nat.cast_zero, hzero]
  simp only [Binary64.add, Nat.cast_zero, add_zero]
  rw [hsixty]
  norm_num

/-- The span of a number of seconds that is between whole nanoseconds. -/
theorem ofSeconds?_between {x : ℚ} {a b : ℕ} (ha : (a : ℚ) ≤ x * 1000000000)
    (hb : x * 1000000000 ≤ b) (hmax : (⟨b⟩ : Span) ≤ longest) :
    ∃ d : Span, ofSeconds? (.finite x) = .ok d ∧ a ≤ d.nanos ∧ d.nanos ≤ b := by
  have hx : 0 ≤ x := by
    have : (0 : ℚ) ≤ a := Nat.cast_nonneg a
    linarith
  have hlow : (a : ℤ) ≤ nearestEven (x * 1000000000) := le_nearestEven_of_le (by exact_mod_cast ha)
  have hhigh : nearestEven (x * 1000000000) ≤ (b : ℤ) := nearestEven_le_of_le (by exact_mod_cast hb)
  unfold ofSeconds?
  dsimp only
  rw [if_neg (not_lt.2 hx), cast_perSecond]
  refine ⟨⟨(nearestEven (x * 1000000000)).toNat⟩, if_pos ?_, ?_, ?_⟩
  · exact le_trans (b := b) (by dsimp only; omega) hmax
  · dsimp only
    omega
  · dsimp only
    omega

end Span

namespace Backoff

variable {b : Backoff} {budget since now : Span} {draw : Draw}

/-- The default settings with a budget since an instant, and an interval that they can come to. -/
structure Steady (b : Backoff) (budget since : Span) : Prop where
  growth : b.growth = .finite (3 / 2)
  spread : b.spread = .finite (1 / 2)
  ceiling : b.ceiling = .ofSeconds 60
  budget : b.budget = some budget
  since : b.since = since
  low : .ofMillis 500 ≤ b.interval
  high : b.interval ≤ .ofSeconds 60

theorem steady_withBudget (budget now : Span) :
    ((withBudget budget now).restart now).Steady budget now where
  growth := by
    show Binary64.finite (mkRat 3 2) = _
    norm_num [Rat.mkRat_eq_div]
  spread := by
    show Binary64.finite (mkRat 1 2) = _
    norm_num [Rat.mkRat_eq_div]
  ceiling := rfl
  budget := rfl
  since := rfl
  low := Nat.le_refl _
  high := by
    show Span.ofMillis 500 ≤ .ofSeconds 60
    decide

/-- The shortest delay with the default settings. -/
def shortest : Span := .ofMillis 250

/-- A delay that none with the default settings exceeds. -/
def farthest : Span := .ofSeconds 90

/-- A double drawn from a range of doubles is in it. -/
theorem sample_between {low high : ℚ} (h0 : 0 ≤ low) (hlow : Fits low) (hhigh : Fits high)
    (h : low ≤ high) (hmax : high ≤ 2 ^ (1023 : ℤ)) (draw : Draw) :
    ∃ x, sample (.finite low) (.finite high) draw = .ok (.finite x) ∧ low ≤ x ∧ x ≤ high := by
  have hwidth : 0 ≤ draw.fraction * (high - low) := mul_nonneg draw.nonneg (by linarith)
  have hwidth' : draw.fraction * (high - low) ≤ high - low :=
    mul_le_of_le_one_left (by linarith) draw.le_one
  obtain ⟨x, hx, -, hxl, hxh⟩ := round_of_nonneg (q := low + draw.fraction * (high - low))
    (by linarith) (by linarith)
  refine ⟨x, ?_, hxl low hlow (by linarith), hxh high hhigh (by linarith)⟩
  unfold sample
  dsimp only
  rw [if_pos h, hx]

/-- A delay around an interval of `s` seconds is drawn from `s - δ` to `s + δ`, where `δ` is half of
the interval as a double.  It is within all doubles around that range which are spans. -/
theorem jitter_of_half {d : Span} {s δ low high : ℚ} {a b : ℕ} (hs : d.toSeconds = .finite s)
    (hfit : Fits s) (hdelta : Binary64.mul (.finite (1 / 2)) (.finite s) = .finite δ)
    (h0 : 0 ≤ δ) (hlow0 : 0 ≤ low) (hlow : Fits low) (hhigh : Fits high) (hle : low ≤ s - δ)
    (hge : s + δ ≤ high) (ha : (a : ℚ) ≤ low * 1000000000) (hb : high * 1000000000 ≤ b)
    (hmax : (⟨b⟩ : Span) ≤ Span.longest) (draw : Draw) :
    ∃ delay, jitter d (.finite (1 / 2)) draw = .ok delay ∧ ⟨a⟩ ≤ delay ∧ delay ≤ ⟨b⟩ := by
  have hlarge : high ≤ 2 ^ (1023 : ℤ) := by
    have hb64 : (b : ℚ) ≤ 2 ^ 64 * 1000000000 := by
      simp only [Span.le_def, Span.longest, Span.perSecond, Nat.pow_eq] at hmax
      exact_mod_cast hmax.trans (Nat.sub_le _ _)
    have hhigh64 : high ≤ 2 ^ (64 : ℤ) := by
      norm_num
      linarith
    exact hhigh64.trans (two_zpow_le (by norm_num))
  -- The lower end is rounded to at most the interval, and the upper end to at least that.
  obtain ⟨x, hx, hxfit, hxlow, hxs⟩ := round_of_nonneg (q := s + -δ) (by linarith) (by linarith)
  obtain ⟨y, hy, hyfit, hys, hyhigh⟩ := round_of_nonneg (q := s + δ) (by linarith) (by linarith)
  have hx0 : low ≤ x := hxlow low hlow (by linarith)
  have hxy : x ≤ y := (hxs s hfit (by linarith)).trans (hys s hfit (by linarith))
  have hyhigh : y ≤ high := hyhigh high hhigh hge
  have hbottom : Binary64.atLeastZero (Binary64.sub (.finite s) (.finite δ)) = .finite x := by
    show Binary64.atLeastZero (Binary64.round (s + -δ)) = _
    rw [hx]
    exact if_neg (not_lt.2 (hlow0.trans hx0))
  have htop : Binary64.add (.finite s) (.finite δ) = .finite y := hy
  obtain ⟨z, hz, hxz, hzy⟩ := sample_between (hlow0.trans hx0) hxfit hyfit hxy
    (hyhigh.trans hlarge) draw
  obtain ⟨delay, hdelay, hl, hh⟩ := Span.ofSeconds?_between (x := z) (a := a) (b := b)
    (by linarith) (by linarith) hmax
  have hpositive : Binary64.le (.finite (1 / 2)) (.finite 0) = false :=
    decide_eq_false (by norm_num)
  refine ⟨delay, ?_, hl, hh⟩
  unfold jitter
  rw [hpositive, hs]
  simp only [Bool.false_eq_true, if_false, hdelta, hbottom, htop, hz, hdelay]

/-- One and a half times a number of seconds up to a minute. -/
theorem round_grown {s : ℚ} (hsl : 1 / 2 ≤ s) (hsh : s ≤ 60) (hfit : Fits s) :
    ∃ v, Binary64.round (s + s / 2) = .finite v ∧ Fits v ∧ s ≤ v ∧ v ≤ 90 := by
  have hninety : ((90 : ℕ) : ℚ) = 90 := by norm_num
  obtain ⟨v, hv, hvf, hvl, hvh⟩ := round_between (q := s + s / 2) (by linarith) hfit
    (fits_natCast (n := 90) (by norm_num)) (by linarith) (by rw [hninety]; linarith)
    (lt_two_zpow_1024 (by norm_num))
  exact ⟨v, hv, hvf, hvl, hninety ▸ hvh⟩

/-- Any draw around an interval between half a second and a minute is a delay between a quarter of a
second and a minute and a half. -/
theorem jitter_between {d : Span} (hlow : .ofMillis 500 ≤ d) (hhigh : d ≤ .ofSeconds 60)
    (draw : Draw) :
    ∃ delay, jitter d (.finite (1 / 2)) draw = .ok delay ∧ shortest ≤ delay ∧ delay ≤ farthest := by
  obtain ⟨s, hs, hfit, hsl, hsh⟩ := Span.toSeconds_between hlow hhigh
  -- Half of the interval is a double.
  have hhalf : Fits (s / 2) := hfit.half hsl
  have hmax : s / 2 < 2 ^ (1024 : ℤ) :=
    lt_of_le_of_lt (by push_cast; linarith) (lt_two_zpow_1024 (n := 60) (by norm_num))
  have hdelta : Binary64.mul (.finite (1 / 2)) (.finite s) = .finite (s / 2) := by
    show Binary64.round (1 / 2 * s) = _
    rw [show 1 / 2 * s = s / 2 by ring]
    exact round_of_fits (by linarith) hhalf hmax
  have hquarter : Fits (1 / 4) := ⟨1, -2, by norm_num, by norm_num, by norm_num⟩
  have hninety : Fits ((90 : ℕ) : ℚ) := fits_natCast (by norm_num)
  exact jitter_of_half (a := shortest.nanos) (b := farthest.nanos) hs hfit hdelta (by linarith)
    (by norm_num) hquarter hninety (by linarith) (by push_cast; linarith)
    (by norm_num [shortest, Span.ofMillis, Span.perMilli])
    (by norm_num [farthest, Span.ofSeconds, Span.perSecond]) (by decide) draw

/-- The interval after one that grows to `v` seconds is no longer than the ceiling, and no shorter
than any span that fits below both. -/
theorem grow_of_mul {s v : ℚ} {a : ℕ} (hs : b.interval.toSeconds = .finite s)
    (hgrowth : b.growth = .finite (3 / 2)) (hceiling : b.ceiling = .ofSeconds 60)
    (hv : Binary64.mul (.finite s) (.finite (3 / 2)) = .finite v) (ha : (a : ℚ) ≤ v * 1000000000)
    (hminute : (⟨a⟩ : Span) ≤ .ofSeconds 60) :
    ∃ d, b.grow = .ok d ∧ ⟨a⟩ ≤ d ∧ d ≤ .ofSeconds 60 := by
  unfold grow
  dsimp only
  rw [hs, hgrowth, hceiling, hv, Span.toSeconds_minute]
  by_cases hmax : (60 : ℚ) ≤ v
  · have hle : Binary64.le (.finite 60) (.finite v) = true := decide_eq_true hmax
    rw [if_pos hle]
    exact ⟨_, rfl, hminute, Nat.le_refl _⟩
  · have hle : Binary64.le (.finite 60) (.finite v) = false := decide_eq_false hmax
    rw [hle]
    obtain ⟨d, hd, hlow, hhigh⟩ := Span.ofSeconds?_between (x := v)
      (b := (Span.ofSeconds 60).nanos) ha
      (by norm_num [Span.ofSeconds, Span.perSecond]; linarith) (by decide)
    rw [hd]
    exact ⟨d, rfl, hlow, hhigh⟩

/-- The interval grows within its bounds. -/
theorem grow_between (h : b.Steady budget since) :
    ∃ d, b.grow = .ok d ∧ .ofMillis 500 ≤ d ∧ d ≤ .ofSeconds 60 := by
  obtain ⟨s, hs, hfit, hsl, hsh⟩ := Span.toSeconds_between h.low h.high
  obtain ⟨v, hv, -, hvl, -⟩ := round_grown hsl hsh hfit
  have hgrown : Binary64.mul (.finite s) (.finite (3 / 2)) = .finite v := by
    rw [← hv]
    show Binary64.round (s * (3 / 2)) = _
    rw [show s * (3 / 2) = s + s / 2 by ring]
  exact grow_of_mul (a := (Span.ofMillis 500).nanos) hs h.growth h.ceiling hgrown
    (by norm_num [Span.ofMillis, Span.perMilli]; linarith) (by decide)

theorem affords_steady (h : b.Steady budget since) (now delay : Span) :
    b.affords now delay =
      if now - since + delay ≤ Span.longest then .ok (decide (now - since + delay ≤ budget))
      else .error .overflow := by
  unfold affords Span.add? elapsed
  rw [h.budget, h.since]
  dsimp only
  by_cases hsum : now - since + delay ≤ Span.longest
  · rw [if_pos hsum, if_pos hsum]
  · rw [if_neg hsum, if_neg hsum]

/-- What comes of a request for a delay. -/
inductive Handed (b : Backoff) (budget since now : Span) :
    Except BackoffFault (Option Span × Backoff) → Prop
  /-- A delay that is neither short nor long, and the budget allows it. -/
  | delay {delay : Span} {b' : Backoff} : shortest ≤ delay → delay ≤ farthest →
      (now - since) + delay ≤ budget → b'.Steady budget since →
      Handed b budget since now (.ok (some delay, b'))
  /-- A delay would overrun the budget. -/
  | exhausted : budget.nanos < (now - since).nanos + farthest.nanos →
      Handed b budget since now (.ok (none, b))
  /-- More time has passed than spans can tell. -/
  | overflow : Span.longest.nanos < (now - since).nanos + farthest.nanos →
      Handed b budget since now (.error .overflow)

/-- The next delay, whatever is drawn. -/
theorem next_steady (h : b.Steady budget since) (now : Span) (draw : Draw) :
    Handed b budget since now (b.next now draw) := by
  obtain ⟨delay, hdelay, hshort, hfar⟩ := jitter_between h.low h.high draw
  obtain ⟨d, hd, hlow, hhigh⟩ := grow_between h
  have hsteady : Steady { b with interval := d } budget since :=
    ⟨h.growth, h.spread, h.ceiling, h.budget, h.since, hlow, hhigh⟩
  rw [← h.spread] at hdelay
  unfold next
  rw [hdelay]
  dsimp only
  rw [affords_steady h]
  -- The budget is looked at only if the sum is a span.
  by_cases hsum : now - since + delay ≤ Span.longest
  · rw [if_pos hsum]
    by_cases hfit : now - since + delay ≤ budget
    · rw [decide_eq_true hfit, hd]
      exact .delay hshort hfar hfit hsteady
    · rw [decide_eq_false hfit]
      exact .exhausted (Nat.lt_of_lt_of_le (Nat.lt_of_not_le hfit) (Nat.add_le_add_left hfar _))
  · rw [if_neg hsum]
    exact .overflow (Nat.lt_of_lt_of_le (Nat.lt_of_not_le hsum) (Nat.add_le_add_left hfar _))

end Backoff

end Leasehold
