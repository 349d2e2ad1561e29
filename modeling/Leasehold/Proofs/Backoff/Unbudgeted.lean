import Leasehold.Proofs.Backoff.Ceiling

/-!
# Delays without a budget

With the default growth and spread and no budget, only the first delay can be beyond all spans: from
the second one on, the interval is at most the ceiling.

* `Backoff.jitter_of_lt`: a delay around an interval below `2 ^ 63` seconds can be computed.
* `Backoff.Unbudgeted`: the default settings without a budget, whatever the intervals are.
* `Backoff.next_unbudgeted`, `Backoff.next_of_lt`: what the next delay can be.
-/

namespace Leasehold

open Binary64

namespace Span

/-- An interval from which on a delay can be longer than all spans. -/
def immense : Span := ofSeconds (Nat.pow 2 63)

/-- A shorter span is a double up to `2 ^ 63`. -/
theorem toSeconds_of_lt {d : Span} (h : d < immense) :
    ∃ s, d.toSeconds = .finite s ∧ Fits s ∧ 0 ≤ s ∧ s ≤ 2 ^ (63 : ℤ) := by
  simp only [lt_def, immense, ofSeconds, perSecond, Nat.pow_eq] at h
  obtain ⟨s, hs, hfit, hs0, hmin⟩ := toSeconds_le (d := d) (by
    simp only [le_def, longest, perSecond, Nat.pow_eq]
    omega)
  refine ⟨s, hs, hfit, hs0, hmin _ (fits_zpow (by norm_num)) ?_⟩
  have hnanos : (d.nanos : ℚ) < 2 ^ 63 * 1000000000 := by exact_mod_cast h
  exact_mod_cast hnanos

end Span

namespace Backoff

variable {b b' : Backoff} {now d : Span} {draw : Draw}

/-- Half of a number of seconds is between nothing and all of it. -/
theorem round_halved {s : ℚ} (hfit : Fits s) (h0 : 0 ≤ s) (h : s ≤ 2 ^ (63 : ℤ)) :
    ∃ v, Binary64.mul (.finite (1 / 2)) (.finite s) = .finite v ∧ 0 ≤ v ∧ v ≤ s ∧
      v ≤ 2 ^ (62 : ℤ) := by
  have hhalf : 1 / 2 * s ≤ 2 ^ (62 : ℤ) := by
    norm_num at h ⊢
    linarith
  obtain ⟨v, hv, -, hmax, hmin⟩ := round_of_nonneg (q := 1 / 2 * s) (by linarith)
    (hhalf.trans (two_zpow_le (by norm_num)))
  exact ⟨v, hv, hmax 0 fits_zero (by linarith), hmin s hfit (by linarith),
    hmin _ (fits_zpow (by norm_num)) hhalf⟩

/-- A delay around an interval below `2 ^ 63` seconds can be computed, whatever is drawn. -/
theorem jitter_of_lt (h : d < Span.immense) (draw : Draw) :
    ∃ delay, jitter d (.finite (1 / 2)) draw = .ok delay := by
  obtain ⟨s, hs, hfit, hs0, hs63⟩ := Span.toSeconds_of_lt h
  obtain ⟨v, hv, hv0, hvs, hv62⟩ := round_halved hfit hs0 hs63
  have hend : Fits (3 * 2 ^ (62 : ℤ)) := ⟨3, 62, by norm_num, by norm_num, by norm_num⟩
  have hsum : s + v ≤ 3 * 2 ^ (62 : ℤ) := by
    norm_num at hs63 hv62 ⊢
    linarith
  obtain ⟨delay, hdelay, -⟩ := jitter_of_half (a := 0) (b := 3 * 2 ^ 62 * 1000000000) hs hfit hv hv0
    le_rfl fits_zero hend (by linarith) hsum (by norm_num) (by norm_num) (by decide) draw
  exact ⟨delay, hdelay⟩

/-- The default settings without a budget, around any interval. -/
structure Unbudgeted (b : Backoff) : Prop where
  growth : b.growth = .finite (3 / 2)
  spread : b.spread = .finite (1 / 2)
  ceiling : b.ceiling = .ofSeconds 60
  budget : b.budget = none

theorem unbudgeted_new (initial now : Span) : (new initial none now).Unbudgeted where
  growth := (steady_withBudget .zero now).growth
  spread := (steady_withBudget .zero now).spread
  ceiling := rfl
  budget := rfl

theorem Unbudgeted.affords (h : b.Unbudgeted) (now delay : Span) :
    b.affords now delay = .ok true := by
  unfold Backoff.affords
  rw [h.budget]

/-- The interval grows from any below `2 ^ 63` seconds. -/
theorem grow_of_lt (h : b.Unbudgeted) (hlt : b.interval < Span.immense) :
    ∃ interval, b.grow = .ok interval := by
  obtain ⟨s, hs, -, hs0, hs63⟩ := Span.toSeconds_of_lt hlt
  have hlarge : s * (3 / 2) ≤ 2 ^ (1023 : ℤ) := by
    refine le_trans ?_ (two_zpow_le (show (64 : ℤ) ≤ 1023 by norm_num))
    norm_num at hs63 ⊢
    linarith
  obtain ⟨v, hv, -, hmax, -⟩ := round_of_nonneg (q := s * (3 / 2)) (by linarith) hlarge
  have hv0 : 0 ≤ v := hmax 0 fits_zero (by linarith)
  obtain ⟨d, hd, -⟩ := grow_of_mul (a := 0) hs h.growth h.ceiling hv (by push_cast; linarith)
    (by decide)
  exact ⟨d, hd⟩

/-- A delay is handed out unless it cannot be computed; the interval is at most the ceiling then. -/
theorem next_unbudgeted (h : b.Unbudgeted) (now : Span) (draw : Draw) :
    (∃ e, b.next now draw = .error e) ∨ ∃ delay b', b.next now draw = .ok (some delay, b') ∧
      b'.Unbudgeted ∧ b'.interval ≤ .ofSeconds 60 := by
  rcases b.next_cases now draw with herror | hnone | ⟨d, interval, hd, ha, hgrow, hnext⟩
  · exact .inl herror
  · unfold next at hnone
    split at hnone
    · cases hnone
    next d hd =>
    rw [h.affords] at hnone
    dsimp only at hnone
    split at hnone <;> cases hnone
  · exact .inr ⟨d, _, hnext, ⟨h.growth, h.spread, h.ceiling, h.budget⟩,
      (grow_le hgrow).trans (Nat.le_of_eq (congrArg Span.nanos h.ceiling))⟩

/-- A delay around an interval below `2 ^ 63` seconds is handed out. -/
theorem next_of_lt (h : b.Unbudgeted) (hlt : b.interval < Span.immense) (now : Span)
    (draw : Draw) : ∃ delay b', b.next now draw = .ok (some delay, b') := by
  obtain ⟨delay, hdelay⟩ := jitter_of_lt hlt draw
  rw [← h.spread] at hdelay
  obtain ⟨interval, hgrow⟩ := grow_of_lt h hlt
  rw [next_of_affords hdelay (h.affords now delay), hgrow]
  exact ⟨delay, _, rfl⟩

/-- The longest span is too long an interval: its delay cannot be computed if the upper end of the
range is drawn. -/
example : jitter Span.longest (.finite (mkRat 1 2)) ⟨1, by decide, by decide⟩ =
    .error (.seconds .tooLarge) := by
  decide +kernel

end Backoff

end Leasehold
