import Leasehold.Proofs.World.Visit

/-!
# The turns of watchers

Every turn of a watcher is a stretch of moves.

* `takeTick_stretch`, `afterLook_stretch`, `endRound_stretch`: the parts of a round of the renewal
  loop.
* `World.Fits`, `fits_resumeWatcher`: what the phase of a watcher says of its lock.
* `resumeWatcher_stretch`: the turn of any watcher; only a renewal loop raises a loss.
-/

namespace Leasehold

/-- The watcher is a renewal loop. -/
def Watcher.Loops : Watcher → Prop
  | renewalStart | renewalTick .. | renewalLook .. | renewalCall .. => True
  | _ => False

namespace World

variable {A : Step → Prop} {D : Deed → Prop} {t : TaskId} {w w' : World} {c : Option Engagement}
  {l : LockId}

/-! ### Phases -/

/-- What the phase of a watcher says of its lock, and of its visit to the critical section. -/
def Fits (w : World) (l : LockId) : Watcher → Prop
  | .renewalLook _ e => e.call? = none
  | .renewalCall _ e => e.call? = some .renew ∧ w.Begun l
  | .guardRelease e => e.call? = some .release ∧ w.isCancelled l = true
  | .alarmRelease _ loss e => e.call? = some .release ∧ w.lossOf l = some loss
  | _ => True

theorem Fits.outlives {v : Watcher} (h : w.Fits l v) (ho : w.Outlives w') : w'.Fits l v := by
  cases v with
  | renewalLook tick e => exact h
  | renewalCall tick e => exact ⟨h.1, h.2.outlives ho⟩
  | guardRelease e => exact ⟨h.1, ho.isCancelled h.2⟩
  | alarmRelease action loss e => exact ⟨h.1, ho.lossOf h.2⟩
  | _ => trivial

/-- The watcher that a turn leaves waiting is in a phase that fits. -/
def Fitting (w : World) (l : LockId) (p : Poll Watcher Unit) : Prop :=
  ∀ v, p = .waiting v → w.Fits l v

theorem fitting_done (w : World) (l : LockId) : w.Fitting l (.done ()) := by
  intro v hv
  cases hv

theorem fitting_waiting {v : Watcher} (h : w.Fits l v) : w.Fitting l (.waiting v) := by
  intro v' hv
  cases hv
  exact h

theorem outlives_visit (errand : Errand) : w.Outlives (w.visit t l errand).1 :=
  (visit_stretch (A := fun _ => True) (D := fun _ => True) errand).moves.outlives

theorem outlives_resumeEntry (e : Entry) : w.Outlives (w.resumeEntry t l e).1 :=
  (resumeEntry_stretch (A := fun _ => True) (D := fun _ => True) e).moves.outlives

/-- The engagement in which a round of the renewal loop ends. -/
def Round.engagement (l : LockId) : Round → Option Engagement
  | halted p => p.engagement (Watcher.engagement l)
  | next _ => none

/-! ### The renewal loop -/

theorem holdTick_stretch (tick : Span) :
    Stretch A D t w none (w.holdTick l tick).1
      ((w.holdTick l tick).2.engagement (Watcher.engagement l)) := by
  unfold holdTick
  split
  · exact .refl A t w
  · exact .quiet ((quiet_takeTicket w).trans (quiet_takeTicket _))

theorem afterRenewal_stretch (hD : D (.lose l)) (hb : w.Begun l) (tick : Span) (r : Reply) :
    Stretch A D t w none (w.afterRenewal l tick r).1
      ((w.afterRenewal l tick r).2.engagement l) := by
  cases r with
  | ok s => exact .refl A t w
  | error e =>
    unfold afterRenewal
    dsimp only
    by_cases hc : w.isCancelled l = true
    · rw [if_pos hc]
      exact .refl A t w
    · rw [if_neg hc]
      exact .of_move (.lose l _ hD (Bool.eq_false_iff.2 hc) hb)

theorem afterLook_stretch (hD : D (.lose l)) {r : Reply} (hr : ∀ s, r = .ok s → w.AtStage l s)
    (tick : Span) :
    Stretch A D t w none (w.afterLook t l tick r).1 ((w.afterLook t l tick r).2.engagement l) := by
  unfold afterLook
  split
  · have hb := (hr .acquired rfl).begun (by decide)
    have h := visit_stretch (A := A) (D := D) (t := t) (w := w) (l := l) .renew
    rcases hy : w.visit t l .renew with ⟨w', e | r⟩ <;> rw [hy] at h
    · exact h
    · exact h.trans (afterRenewal_stretch hD (hb.outlives h.moves.outlives) tick r)
  · exact .refl A t w
  · exact .refl A t w

theorem takeTick_stretch (hD : D (.lose l)) (tick period : Span) :
    Stretch A D t w none (w.takeTick t l tick period).1
      ((w.takeTick t l tick period).2.engagement l) := by
  unfold takeTick
  have h := visit_stretch (A := A) (D := D) (t := t) (w := w) (l := l) .observe
  have hs := served_visit (t := t) (w := w) (l := l) .observe
  rcases hy : w.visit t l .observe with ⟨w', e | r⟩ <;> rw [hy] at h hs
  · exact h
  · exact h.trans (afterLook_stretch hD (fun s hr => hs.observed s rfl (congrArg Poll.done hr)) _)

theorem endRound_stretch (hD : D (.lose l)) (period : Span) {r : Round}
    (h : Stretch A D t w c w' (r.engagement l)) :
    Stretch A D t w c (w'.endRound t l period r).1
      ((w'.endRound t l period r).2.engagement (Watcher.engagement l)) := by
  cases r with
  | halted p => exact h
  | next tick =>
    unfold endRound
    dsimp only
    split
    · exact h
    · split
      · have ht := h.trans (takeTick_stretch hD tick period)
        rcases hy : w'.takeTick t l tick period with ⟨w'', p | later⟩ <;> rw [hy] at ht
        · exact ht
        · exact ht.trans (holdTick_stretch later)
      · exact h.trans (holdTick_stretch tick)

/-! ### The other watchers -/

theorem startGuardRelease_stretch (grace : Span) :
    Stretch A D t w none (w.startGuardRelease t l grace).1
      ((w.startGuardRelease t l grace).2.engagement (Watcher.engagement l)) := by
  unfold startGuardRelease
  have h := visit_stretch (A := A) (D := D) (t := t) (w := w) (l := l) (.release grace)
  rcases hy : w.visit t l (.release grace) with ⟨w', e | r⟩ <;> rw [hy] at h <;> exact h

theorem lookGuard_stretch (grace : Span) (k k' : Nat) :
    Stretch A D t w none (w.lookGuard t l grace k k').1
      ((w.lookGuard t l grace k k').2.engagement (Watcher.engagement l)) := by
  unfold lookGuard
  split
  · exact .refl A t w
  · split
    · exact startGuardRelease_stretch grace
    · exact .refl A t w

theorem startAlarmRelease_stretch (grace : Span) (action : FatalAction) (loss : Loss) :
    Stretch A D t w none (w.startAlarmRelease t l grace action loss).1
      ((w.startAlarmRelease t l grace action loss).2.engagement (Watcher.engagement l)) := by
  unfold startAlarmRelease
  have h := visit_stretch (A := A) (D := D) (t := t) (w := w) (l := l) (.release grace)
  rcases hy : w.visit t l (.release grace) with ⟨w', e | r⟩ <;> rw [hy] at h
  · exact h
  · exact h.trans (.quiet (quiet_actOnLoss w' action loss))

theorem lookAlarm_stretch (grace : Span) (action : FatalAction) (k k' : Nat) :
    Stretch A D t w none (w.lookAlarm t l grace action k k').1
      ((w.lookAlarm t l grace action k k').2.engagement (Watcher.engagement l)) := by
  unfold lookAlarm
  split
  · exact startAlarmRelease_stretch grace action _
  · split <;> exact .refl A t w

theorem lookProbe_stretch (tag : String) (k : Nat) :
    Stretch A D t w none (w.lookProbe l tag k).1
      ((w.lookProbe l tag k).2.engagement (Watcher.engagement l)) := by
  unfold lookProbe
  split
  · exact .quiet (quiet_note w _)
  · exact .refl A t w

/-! ### Turns -/

/-- A watcher is engaged with its own lock only. -/
theorem lock?_of_watcher_engagement {v : Watcher} {e : Engagement} (h : v.engagement l = some e) :
    e.lock? = some l := by
  cases v with
  | renewalLook tick e | renewalCall tick e | guardRelease e | alarmRelease action loss e =>
    cases h
    cases e <;> rfl
  | renewalStart | renewalTick | guardStart | guardWait | alarmStart | alarmWait | probeStart
  | probeWait => cases h

/-- Every engagement with a lock that is not there comes to nothing. -/
theorem stretch_of_missing (hk : w.locks[l]? = none) (hc : ∀ e, c = some e → e.lock? = some l) :
    Stretch A D t w c w none := by
  cases c with
  | none => exact .refl A t w
  | some e =>
    have hm : Move A D t w (some e) (w.leave t l) none :=
      .abandon l e (hc e rfl) fun _ hs => by rw [hk] at hs; cases hs
    rw [leave_eq_self hk] at hm
    exact .of_moves (.single hm) (by intro _ _ h; cases h)

/-- A watcher has its turn. -/
theorem resumeWatcher_stretch {v : Watcher} (hv : w.Fits l v) (hD : v.Loops → D (.lose l)) :
    Stretch A D t w (v.engagement l) (w.resumeWatcher t l v).1
      ((w.resumeWatcher t l v).2.engagement (Watcher.engagement l)) := by
  unfold resumeWatcher
  cases hk : w.locks[l]? with
  | none => exact stretch_of_missing hk fun e he => lock?_of_watcher_engagement he
  | some k =>
    cases v with
    | renewalStart => exact holdTick_stretch _
    | renewalTick tick timer n =>
      dsimp only
      split
      · exact .refl A t w
      · split
        · exact endRound_stretch (hD trivial) _ (takeTick_stretch (hD trivial) tick _)
        · exact .refl A t w
    | renewalLook tick e =>
      dsimp only
      have h := resumeEntry_stretch (A := A) (D := D) (t := t) (w := w) (l := l) e
      have hs := served_resumeEntry (t := t) (w := w) (l := l) e
      rw [show e.call? = none from hv] at hs
      rcases hy : w.resumeEntry t l e with ⟨w', e' | r⟩ <;> rw [hy] at h hs
      · exact h
      · exact endRound_stretch (hD trivial) _ (h.trans (afterLook_stretch (hD trivial)
          (fun s hr => hs.observed s rfl (congrArg Poll.done hr)) tick))
    | renewalCall tick e =>
      dsimp only
      have h := resumeEntry_stretch (A := A) (D := D) (t := t) (w := w) (l := l) e
      rcases hy : w.resumeEntry t l e with ⟨w', e' | r⟩ <;> rw [hy] at h
      · exact h
      · exact endRound_stretch (hD trivial) _ (h.trans (afterRenewal_stretch (hD trivial)
          (hv.2.outlives h.moves.outlives) tick r))
    | guardStart grace =>
      exact (Stretch.quiet ((quiet_takeTicket w).trans (quiet_takeTicket _))).trans
        (lookGuard_stretch grace _ _)
    | guardWait grace n n' => exact lookGuard_stretch grace n n'
    | guardRelease e =>
      dsimp only
      have h := resumeEntry_stretch (A := A) (D := D) (t := t) (w := w) (l := l) e
      rcases hy : w.resumeEntry t l e with ⟨w', e' | r⟩ <;> rw [hy] at h <;> exact h
    | alarmStart grace action =>
      exact (Stretch.quiet ((quiet_takeTicket w).trans (quiet_takeTicket _))).trans
        (lookAlarm_stretch grace action _ _)
    | alarmWait grace action n n' => exact lookAlarm_stretch grace action n n'
    | alarmRelease action loss e =>
      dsimp only
      have h := resumeEntry_stretch (A := A) (D := D) (t := t) (w := w) (l := l) e
      rcases hy : w.resumeEntry t l e with ⟨w', e' | r⟩ <;> rw [hy] at h
      · exact h
      · exact h.trans (.quiet (quiet_actOnLoss w' action loss))
    | probeStart tag =>
      exact (Stretch.quiet ((quiet_note w _).trans (quiet_takeTicket _))).trans
        (lookProbe_stretch tag _)
    | probeWait tag n => exact lookProbe_stretch tag n

/-! ### Phases after a turn -/

theorem fitting_holdTick (tick : Span) : (w.holdTick l tick).1.Fitting l (w.holdTick l tick).2 := by
  unfold holdTick
  split
  · exact fitting_done w l
  · exact fitting_waiting trivial

theorem fitting_afterRenewal {p : Poll Watcher Unit} {tick : Span} {r : Reply}
    (h : (w.afterRenewal l tick r).2 = .halted p) : (w.afterRenewal l tick r).1.Fitting l p := by
  obtain rfl : p = .done () := by
    unfold afterRenewal at h
    split at h
    · cases h
    · split at h <;> cases h <;> rfl
  exact fitting_done _ l

theorem fitting_afterLook {p : Poll Watcher Unit} {tick : Span} {r : Reply}
    (hr : ∀ s, r = .ok s → w.AtStage l s) (h : (w.afterLook t l tick r).2 = .halted p) :
    (w.afterLook t l tick r).1.Fitting l p := by
  unfold afterLook at h ⊢
  split at h
  · have hs := served_visit (t := t) (w := w) (l := l) .renew
    have ho := outlives_visit (t := t) (w := w) (l := l) .renew
    rcases hy : w.visit t l .renew with ⟨w', e | r⟩ <;> rw [hy] at h hs ho
    · cases h
      have hb := (hr .acquired rfl).begun (by decide)
      exact fitting_waiting ⟨hs.same e rfl, hb.outlives ho⟩
    · exact fitting_afterRenewal h
  · cases h
  · cases h
    exact fitting_done w l

theorem fitting_takeTick {tick period : Span} (p : Poll Watcher Unit)
    (h : (w.takeTick t l tick period).2 = .halted p) :
    (w.takeTick t l tick period).1.Fitting l p := by
  have hs := served_visit (t := t) (w := w) (l := l) .observe
  unfold takeTick at h ⊢
  dsimp only at h ⊢
  rcases hy : w.visit t l .observe with ⟨w', e | r⟩ <;> rw [hy] at h hs
  · cases h
    exact fitting_waiting (hs.same e rfl)
  · exact fitting_afterLook (fun s hr => hs.observed s rfl (congrArg Poll.done hr)) h

theorem fitting_endRound {period : Span} {r : Round} (h : ∀ p, r = .halted p → w.Fitting l p) :
    (w.endRound t l period r).1.Fitting l (w.endRound t l period r).2 := by
  cases r with
  | halted p => exact h p rfl
  | next tick =>
    unfold endRound
    dsimp only
    split
    · exact fitting_done w l
    · split
      · rcases hy : w.takeTick t l tick period with ⟨w', p | later⟩
        · have ht := fitting_takeTick (t := t) (w := w) (l := l) p (congrArg Prod.snd hy)
          rwa [hy] at ht
        · exact fitting_holdTick later
      · exact fitting_holdTick tick

theorem fitting_lookGuard (grace : Span) (k k' : Nat) :
    (w.lookGuard t l grace k k').1.Fitting l (w.lookGuard t l grace k k').2 := by
  unfold lookGuard
  split
  · exact fitting_done w l
  · split
    · next hc =>
      have hs := served_visit (t := t) (w := w) (l := l) (.release grace)
      have ho := outlives_visit (t := t) (w := w) (l := l) (.release grace)
      unfold startGuardRelease
      rcases hy : w.visit t l (.release grace) with ⟨w', e | r⟩ <;> rw [hy] at hs ho
      · exact fitting_waiting ⟨hs.same e rfl, ho.isCancelled hc⟩
      · exact fitting_done w' l
    · exact fitting_waiting trivial

theorem fitting_lookAlarm (grace : Span) (action : FatalAction) (k k' : Nat) :
    (w.lookAlarm t l grace action k k').1.Fitting l (w.lookAlarm t l grace action k k').2 := by
  unfold lookAlarm
  cases hl : w.lossOf l with
  | some loss =>
    have hs := served_visit (t := t) (w := w) (l := l) (.release grace)
    have ho := outlives_visit (t := t) (w := w) (l := l) (.release grace)
    dsimp only
    unfold startAlarmRelease
    rcases hy : w.visit t l (.release grace) with ⟨w', e | r⟩ <;> rw [hy] at hs ho
    · exact fitting_waiting ⟨hs.same e rfl, ho.lossOf hl⟩
    · exact fitting_done _ l
  | none =>
    dsimp only
    split
    · exact fitting_done w l
    · exact fitting_waiting trivial

theorem fitting_lookProbe (tag : String) (k : Nat) :
    (w.lookProbe l tag k).1.Fitting l (w.lookProbe l tag k).2 := by
  unfold lookProbe
  split
  · exact fitting_done _ l
  · exact fitting_waiting trivial

/-- After its turn a watcher is in a phase that fits, if it was so before. -/
theorem fits_resumeWatcher {v : Watcher} (h : w.Fits l v) :
    (w.resumeWatcher t l v).1.Fitting l (w.resumeWatcher t l v).2 := by
  unfold resumeWatcher
  cases hk : w.locks[l]? with
  | none => exact fitting_done w l
  | some k =>
    cases v with
    | renewalStart => exact fitting_holdTick _
    | renewalTick tick timer n =>
      dsimp only
      split
      · exact fitting_done w l
      · split
        · exact fitting_endRound fitting_takeTick
        · exact fitting_waiting trivial
    | renewalLook tick e =>
      have hs := served_resumeEntry (t := t) (w := w) (l := l) e
      rw [show e.call? = none from h] at hs
      dsimp only
      rcases hy : w.resumeEntry t l e with ⟨w', e' | r⟩ <;> rw [hy] at hs
      · exact fitting_waiting (hs.same e' rfl)
      · exact fitting_endRound fun p => fitting_afterLook fun s hr =>
          hs.observed s rfl (congrArg Poll.done hr)
    | renewalCall tick e =>
      have hs := served_resumeEntry (t := t) (w := w) (l := l) e
      have ho := outlives_resumeEntry (t := t) (w := w) (l := l) e
      dsimp only
      rcases hy : w.resumeEntry t l e with ⟨w', e' | r⟩ <;> rw [hy] at hs ho
      · exact fitting_waiting ⟨(hs.same e' rfl).trans h.1, h.2.outlives ho⟩
      · exact fitting_endRound fun p => fitting_afterRenewal
    | guardRelease e =>
      have hs := served_resumeEntry (t := t) (w := w) (l := l) e
      have ho := outlives_resumeEntry (t := t) (w := w) (l := l) e
      dsimp only
      rcases hy : w.resumeEntry t l e with ⟨w', e' | r⟩ <;> rw [hy] at hs ho
      · exact fitting_waiting ⟨(hs.same e' rfl).trans h.1, ho.isCancelled h.2⟩
      · exact fitting_done w' l
    | alarmRelease action loss e =>
      have hs := served_resumeEntry (t := t) (w := w) (l := l) e
      have ho := outlives_resumeEntry (t := t) (w := w) (l := l) e
      dsimp only
      rcases hy : w.resumeEntry t l e with ⟨w', e' | r⟩ <;> rw [hy] at hs ho
      · exact fitting_waiting ⟨(hs.same e' rfl).trans h.1, ho.lossOf h.2⟩
      · exact fitting_done _ l
    | guardStart grace => exact fitting_lookGuard grace _ _
    | guardWait grace n n' => exact fitting_lookGuard grace n n'
    | alarmStart grace action => exact fitting_lookAlarm grace action _ _
    | alarmWait grace action n n' => exact fitting_lookAlarm grace action n n'
    | probeStart tag => exact fitting_lookProbe tag _
    | probeWait tag n => exact fitting_lookProbe tag n

end World

end Leasehold
