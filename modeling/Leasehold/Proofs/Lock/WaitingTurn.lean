import Leasehold.Proofs.Lock.WaitingVisit

/-!
# What a turn leaves its task waiting for

After a turn in which a watcher or a script goes on, what its task waits for has not come yet.

* `rested_resumeWatcher`: the turns of watchers.
* `rested_resumeStep`: the turns of scripts.
-/

namespace Leasehold.World

variable {A : Step → Prop} {t : TaskId} {w w' w'' : World} {l : LockId} {R : Prop} {k : Lock}

/-! ### Watchers -/

/-- What is known of a watcher of the lock that waits. -/
def WatcherRests (A : Step → Prop) (l : LockId) (w : World) (v : Watcher) : Prop :=
  w.Poised A False (.watching l v)

section Watchers

variable {v : Watcher} {tick period : Span}

theorem watcherRests_of_rests (h : w.Rests A False (v.waits l) (v.entry?.map (l, ·)))
    (hg : ∀ d, v.grace? = some d → w.Allows A l d) (hs : ¬ v.Starts) : WatcherRests A l w v where
  rests := h
  joins l' hl := by cases hl
  grace l' v' d hv := by cases hv; exact hg d
  awake l' v' hv := by cases hv; exact hs

/-- A watcher that waits for the cancellation of its lock. -/
theorem watcherRests_of_live (hk : w.locks[l]? = some k) (hc : ¬ w.isCancelled l = true)
    (hv : v.entry? = none) (hg : ∀ d, v.grace? = some d → w.Allows A l d) (hs : ¬ v.Starts) :
    WatcherRests A l w v := by
  have hl : w.Live False l := ⟨k, hk, .inl (live_of_isCancelled hk hc)⟩
  refine watcherRests_of_rests ?_ hg hs
  rw [hv]
  exact rests_of_live hl fun _ _ => Watcher.lock_of_waits

/-- A watcher that waits in the middle of a visit. -/
theorem watcherRests_of_entry {e : Entry} (hv : v.entry? = some e) (h : EntryRests A l w e) :
    WatcherRests A l w v := by
  have hw : v.waits l = e.waits l ∧ v.grace? = none ∧ ¬ v.Starts := by
    cases v <;> cases hv <;> exact ⟨rfl, rfl, id⟩
  refine watcherRests_of_rests ?_ (fun d hd => ?_) hw.2.2
  · rw [hw.1, hv]
    exact h
  · rw [hw.2.1] at hd
    cases hd

/-- What a round of the renewal loop has come to that began at `w`. -/
structure RoundRests (A : Step → Prop) (l : LockId) (w : World) (y : World × Round) : Prop extends
    Follows A w y.1 where
  rests : ∀ v, y.2 = .halted (.waiting v) → WatcherRests A l y.1 v

theorem roundRests_next (h : Follows A w w') (tick : Span) :
    RoundRests A l w (w', .next tick) :=
  ⟨h, fun v hv => by cases hv⟩

theorem roundRests_done (h : Follows A w w') : RoundRests A l w (w', .halted (.done ())) :=
  ⟨h, fun v hv => by cases hv⟩

theorem roundRests_waiting (h : Follows A w w') (hv : WatcherRests A l w' v) :
    RoundRests A l w (w', .halted (.waiting v)) :=
  ⟨h, fun v' hv' => by cases hv'; exact hv⟩

theorem roundRests_afterRenewal (h : Follows A w w') (tick : Span) (r : Reply) :
    RoundRests A l w (w'.afterRenewal l tick r) := by
  cases r with
  | ok s => exact roundRests_next h tick
  | error e =>
    unfold afterRenewal
    dsimp only
    split
    · exact roundRests_done h
    · refine roundRests_done (h.trans (.of_labels ⟨?_, outlives_raiseLoss _⟩ (by simp)))
      exact (quiet_raiseLoss w' l _).clock

theorem roundRests_afterLook (h : Follows A w w') (tick : Span) (r : Reply) :
    RoundRests A l w (w'.afterLook t l tick r) := by
  unfold afterLook
  split
  · have hi := instantly_visit (t := t) (w := w') (l := l) .renew
    have he := rested_visit (A := A) (t := t) (w := w') (l := l) (e := .renew)
      fun k d _ hd => by cases hd
    rcases hy : w'.visit t l .renew with ⟨w'', e | r⟩ <;> rw [hy] at he
    · exact roundRests_waiting (h.trans he.toFollows)
        (watcherRests_of_entry rfl (he.rests e rfl))
    · exact roundRests_afterRenewal (h.trans he.toFollows) tick r
  · exact roundRests_next h tick
  · exact roundRests_done h

theorem roundRests_takeTick (h : Follows A w w') (tick period : Span) :
    RoundRests A l w (w'.takeTick t l tick period) := by
  have he := rested_visit (A := A) (t := t) (w := w') (l := l) (e := .observe)
    fun k d _ hd => by cases hd
  unfold takeTick
  dsimp only
  rcases hy : w'.visit t l .observe with ⟨w'', e | r⟩ <;> rw [hy] at he
  · exact roundRests_waiting (h.trans he.toFollows)
      (watcherRests_of_entry rfl (he.rests e rfl))
  · exact roundRests_afterLook (h.trans he.toFollows) _ r

theorem rested_holdTick (h : Follows A w w') (hk : w'.locks[l]? = some k) (tick : Span) :
    Rested A w (WatcherRests A l) (w'.holdTick l tick) := by
  unfold holdTick
  split
  · exact rested_done h _
  · next hc =>
    have ht := (h.trans (.quiet (quiet_takeTicket w') rfl)).trans
      (.quiet (quiet_takeTicket w'.takeTicket.1) rfl)
    exact rested_waiting ht (watcherRests_of_live (w := w'.takeTicket.1.takeTicket.1) hk hc rfl
      (fun d hd => by cases hd) id)

theorem rested_endRound (hk : w.locks[l]? = some k) {y : World × Round} (h : RoundRests A l w y)
    (period : Span) : Rested A w (WatcherRests A l) (y.1.endRound t l period y.2) := by
  obtain ⟨w', p | tick⟩ := y
  · exact ⟨h.toFollows, fun v hv => h.rests v (congrArg Round.halted hv)⟩
  · obtain ⟨k', hk', -⟩ := h.outlives l k hk
    unfold endRound
    dsimp only
    split
    · exact rested_done h.toFollows _
    · split
      · have ht := roundRests_takeTick (t := t) (l := l) h.toFollows tick period
        rcases hy : w'.takeTick t l tick period with ⟨w'', p | later⟩ <;> rw [hy] at ht
        · exact ⟨ht.toFollows, fun v hv => ht.rests v (congrArg Round.halted hv)⟩
        · obtain ⟨k'', hk'', -⟩ := ht.outlives l k hk
          exact rested_holdTick ht.toFollows hk'' later
      · exact rested_holdTick h.toFollows hk' tick

theorem rested_lookGuard (hk : w.locks[l]? = some k) {grace : Span} (hd : w.Allows A l grace)
    (n n' : Nat) : Rested A w (WatcherRests A l) (w.lookGuard t l grace n n') := by
  unfold lookGuard
  split
  · exact rested_done (.refl A w) _
  · split
    · have hi := instantly_visit (t := t) (w := w) (l := l) (.release grace)
      have he := rested_visit (t := t) (permits_of_allows hd)
      unfold startGuardRelease
      rcases hy : w.visit t l (.release grace) with ⟨w', e | r⟩ <;> rw [hy] at he
      · exact rested_waiting he.toFollows
          (watcherRests_of_entry rfl (he.rests e rfl))
      · exact rested_done he.toFollows _
    · next hc =>
      exact rested_waiting (.refl A w)
        (watcherRests_of_live hk hc rfl (fun d h => by cases h; exact hd) id)

theorem rested_lookAlarm (hk : w.locks[l]? = some k) {grace : Span} (hd : w.Allows A l grace)
    (action : FatalAction) (n n' : Nat) :
    Rested A w (WatcherRests A l) (w.lookAlarm t l grace action n n') := by
  unfold lookAlarm
  split
  · next loss _ =>
    have he := rested_visit (t := t) (permits_of_allows hd)
    unfold startAlarmRelease
    rcases hy : w.visit t l (.release grace) with ⟨w', e | r⟩ <;> rw [hy] at he
    · exact rested_waiting he.toFollows
        (watcherRests_of_entry rfl (he.rests e rfl))
    · exact rested_done (he.toFollows.trans
        (.quiet (quiet_actOnLoss w' action loss) (labels_actOnLoss w' action loss))) _
  · split
    · exact rested_done (.refl A w) _
    · next hc =>
      exact rested_waiting (.refl A w)
        (watcherRests_of_live hk hc rfl (fun d h => by cases h; exact hd) id)

theorem rested_lookProbe (hk : w.locks[l]? = some k) (tag : String) (n : Nat) :
    Rested A w (WatcherRests A l) (w.lookProbe l tag n) := by
  unfold lookProbe
  split
  · exact rested_done (.quiet (quiet_note w _) rfl) _
  · next hc =>
    exact rested_waiting (.refl A w)
      (watcherRests_of_live hk hc rfl (fun d h => by cases h) id)

/-- After a turn in which it goes on a watcher has looked at what it waits for. -/
theorem rested_resumeWatcher (h : w.Poised A R (.watching l v)) :
    Rested A w (WatcherRests A l) (w.resumeWatcher t l v) := by
  have hg : ∀ d, v.grace? = some d → w.Allows A l d := fun d hd => h.grace l v d rfl hd
  have tickets : Follows A w w.takeTicket.1.takeTicket.1 :=
    .quiet ((quiet_takeTicket w).trans (quiet_takeTicket _)) rfl
  have visit : ∀ {e : Entry}, v.entry? = some e →
      Rested A w (EntryRests A l) (w.resumeEntry t l e) := by
    intro e he
    refine rested_resumeEntry (R := R) ?_
    have hw : v.waits l = e.waits l := by cases v <;> cases he <;> rfl
    have hr := h.rests
    rw [Activity.visit?, he] at hr
    exact hw ▸ hr
  unfold resumeWatcher
  cases hk : w.locks[l]? with
  | none => exact rested_done (.refl A w) _
  | some k =>
    cases v with
    | renewalStart => exact rested_holdTick (.refl A w) hk _
    | renewalTick tick timer n =>
      dsimp only
      split
      · exact rested_done (.refl A w) _
      · next hc =>
        split
        · exact rested_endRound hk (roundRests_takeTick (.refl A w) tick _) _
        · exact rested_waiting (.refl A w)
            (watcherRests_of_live hk hc rfl (fun d h => by cases h) id)
    | renewalLook tick e =>
      have he := visit rfl
      dsimp only
      rcases hy : w.resumeEntry t l e with ⟨w', e' | r⟩ <;> rw [hy] at he
      · exact rested_waiting he.toFollows
          (watcherRests_of_entry rfl (he.rests e' rfl))
      · exact rested_endRound hk (roundRests_afterLook he.toFollows tick r) _
    | renewalCall tick e =>
      have he := visit rfl
      dsimp only
      rcases hy : w.resumeEntry t l e with ⟨w', e' | r⟩ <;> rw [hy] at he
      · exact rested_waiting he.toFollows
          (watcherRests_of_entry rfl (he.rests e' rfl))
      · exact rested_endRound hk (roundRests_afterRenewal he.toFollows tick r) _
    | guardStart grace =>
      exact (rested_lookGuard (w := w.takeTicket.1.takeTicket.1) hk (hg grace rfl) _ _).after
        tickets
    | guardWait grace n n' => exact rested_lookGuard hk (hg grace rfl) n n'
    | guardRelease e =>
      have he := visit rfl
      dsimp only
      rcases hy : w.resumeEntry t l e with ⟨w', e' | r⟩ <;> rw [hy] at he
      · exact rested_waiting he.toFollows
          (watcherRests_of_entry rfl (he.rests e' rfl))
      · exact rested_done he.toFollows _
    | alarmStart grace action =>
      exact (rested_lookAlarm (w := w.takeTicket.1.takeTicket.1) hk (hg grace rfl) action _ _).after
        tickets
    | alarmWait grace action n n' => exact rested_lookAlarm hk (hg grace rfl) action n n'
    | alarmRelease action loss e =>
      have he := visit rfl
      dsimp only
      rcases hy : w.resumeEntry t l e with ⟨w', e' | r⟩ <;> rw [hy] at he
      · exact rested_waiting he.toFollows
          (watcherRests_of_entry rfl (he.rests e' rfl))
      · exact rested_done (he.toFollows.trans
          (.quiet (quiet_actOnLoss w' action loss) (labels_actOnLoss w' action loss))) _
    | probeStart tag =>
      refine (rested_lookProbe (w := (w.note ("start " ++ tag)).takeTicket.1) hk tag _).after ?_
      exact .quiet ((quiet_note w _).trans (quiet_takeTicket _)) rfl
    | probeWait tag n => exact rested_lookProbe hk tag n

end Watchers

/-! ### Parts of steps -/

/-- What is known of a step that waits. -/
def StepRests (A : Step → Prop) (w : World) (p : Progress) : Prop := w.Poised A False (.calling p)

section Scripts

variable {p : Progress}

theorem stepRests_joining (h : w.Rests A False (p.waits w.watchersOf) p.visit?)
    (hj : ∀ l, p.joins? = some l → w.Unfinished l) : StepRests A w p where
  rests := h
  joins l hl := .inl (hj l hl)
  grace l v d hv := by cases hv
  awake l v hv := by cases hv

theorem stepRests_of_rests (h : w.Rests A False (p.waits w.watchersOf) p.visit?)
    (hj : p.joins? = none) : StepRests A w p :=
  stepRests_joining h fun l hl => by rw [hj] at hl; cases hl

theorem rests_idle {waits : List (Wait × Nat)} (hw : ∀ l n, (.scope l, n) ∉ waits) :
    w.Rests A R waits none where
  live l n hx := absurd hx (hw l n)
  there l e h := by cases h
  errand l d h := by cases h
  limit l f limit h := by cases h

/-- A step that waits neither at a critical section nor for a cancellation. -/
theorem stepRests_idle (hw : ∀ l n, (.scope l, n) ∉ p.waits w.watchersOf) (hv : p.visit? = none)
    (hj : p.joins? = none) : StepRests A w p :=
  stepRests_of_rests (hv ▸ rests_idle hw) hj

theorem StepRests.working (h : StepRests A w p) (l : LockId) (n : Nat) :
    StepRests A w (.working l n p) where
  rests := by
    refine ⟨fun l' m hx => ?_, h.rests.there, h.rests.errand, h.rests.limit⟩
    exact h.rests.live l' m ((List.mem_cons.1 hx).resolve_left fun he => by cases he)
  joins := h.joins
  grace l' v d hv := by cases hv
  awake l' v hv := by cases hv

theorem StepRests.listing (h : StepRests A w p) (past : List Outcome) (rest : List Step) :
    StepRests A w (.listing past p rest) where
  rests := h.rests
  joins := h.joins
  grace l' v d hv := by cases hv
  awake l' v hv := by cases hv

theorem Poised.of_working {n : Nat} (h : w.Poised A R (.calling (.working l n p))) :
    w.Poised A R (.calling p) where
  rests := ⟨fun l' m hx => h.rests.live l' m (List.mem_cons_of_mem _ hx), h.rests.there,
    h.rests.errand, h.rests.limit⟩
  joins := h.joins
  grace l' v d hv := by cases hv
  awake l' v hv := by cases hv

theorem Poised.of_listing {past : List Outcome} {rest : List Step}
    (h : w.Poised A R (.calling (.listing past p rest))) : w.Poised A R (.calling p) where
  rests := h.rests
  joins := h.joins
  grace l' v d hv := by cases hv
  awake l' v hv := by cases hv

/-- A new lock goes by its label. -/
theorem follows_build {cr : Creation} (hc : cr.From A) : Follows A w (w.build cr).1 := by
  have hf := founding_built w cr
  obtain ⟨s, ws, hl⟩ := hf.locks
  have ho : w.Outlives (w.built cr) :=
    Move.outlives (D := fun _ => True) (t := 0) (.build cr hc)
  have hb : Follows A w
      { w.built cr with labels := (cr.label, w.locks.length) :: (w.built cr).labels } := by
    refine ⟨⟨hf.clock, ho⟩, fun hA label l hm => ?_⟩
    rcases List.mem_cons.1 hm with he | hm
    · cases he
      obtain ⟨name, term, hcr⟩ := hc
      refine ⟨{ w.newLock cr with strategy := s, watchers := ws }, ?_, name, term, _, _, hcr⟩
      show (w.built cr).locks[w.locks.length]? = _
      rw [hl, List.getElem?_concat_length]
    · exact hA.of_eq (labels_built w cr) ho label l hm
  unfold build
  dsimp only
  split
  · exact hb.trans follows_dropLock
  · exact hb

/-! ### Construction -/

theorem follows_issue (r : Request) : Follows A w (w.issue r).1 :=
  .of_labels ⟨clock_issue w r, outlives_of_locks (locks_issue w r)⟩ (labels_issue w r)

theorem stepRests_provisioning (cr : Creation) (f : Flight) (n : Nat) :
    StepRests A w (.provisioning cr f n) :=
  stepRests_idle (fun l m hx => by simp [Progress.waits, Flight.waits] at hx) rfl rfl

theorem rested_provisionObject {cr : Creation} (hc : cr.From A) :
    Rested A w (StepRests A) (w.provisionObject cr) := by
  unfold provisionObject
  split
  · exact rested_done (.refl A w) _
  · have h := follows_issue (A := A) (w := w) (.createObject cr.name.backing)
    rcases hy : w.issue (.createObject cr.name.backing) with ⟨w', f | a⟩ <;> rw [hy] at h
    · exact rested_waiting (h.trans (.quiet (quiet_takeTicket w') rfl))
        (stepRests_provisioning cr f _)
    · dsimp only
      split
      · exact rested_done h _
      · exact rested_done (h.trans (follows_build hc)) _

theorem rested_provisionContainer {cr : Creation} (hc : cr.From A) :
    Rested A w (StepRests A) (w.provisionContainer cr) := by
  unfold provisionContainer
  split
  · exact rested_done (.refl A w) _
  · have h := follows_issue (A := A) (w := w) (.createContainer sharedContainer)
    rcases hy : w.issue (.createContainer sharedContainer) with ⟨w', f | a⟩ <;> rw [hy] at h
    · exact rested_waiting (h.trans (.quiet (quiet_takeTicket w') rfl))
        (stepRests_provisioning cr f _)
    · dsimp only
      split
      · exact rested_done h _
      · exact (rested_provisionObject hc).after h

theorem rested_resumeProvisioning {cr : Creation} (hc : cr.From A) (f : Flight) (n : Nat) :
    Rested A w (StepRests A) (w.resumeProvisioning cr f n) := by
  have h : Follows A w (w.fly f).1 :=
    .of_labels ⟨clock_fly w f, outlives_of_locks (locks_fly w f)⟩ (labels_fly w f)
  unfold resumeProvisioning
  rcases hy : w.fly f with ⟨w', f' | a⟩ <;> rw [hy] at h
  · dsimp only
    split
    · exact rested_done h _
    · exact rested_waiting h (stepRests_provisioning cr f' n)
  · dsimp only
    split
    · exact rested_done h _
    · split
      · exact (rested_provisionObject hc).after h
      · exact rested_done (h.trans (follows_build hc)) _

/-! ### Parts of steps -/

theorem rested_afterVisit (h : Follows A w w') (owned : Bool) (r : Reply) :
    Rested (α := Progress) A w (StepRests A)
      ((w'.afterVisit l owned r).1, .done (w'.afterVisit l owned r).2) := by
  refine rested_done ?_ _
  unfold afterVisit
  dsimp only
  split
  · exact h.trans follows_unshare
  · exact h

theorem rested_afterClosing (h : Follows A w w') (r : Reply) :
    Rested A w (StepRests A) (w'.afterClosing l r) := by
  have hc := h.trans (follows_cancelScope (l := l))
  unfold afterClosing
  dsimp only
  split
  · exact rested_done (hc.trans follows_unshare) _
  · next hn =>
    refine rested_waiting (hc.trans (.quiet (quiet_takeTicket _) rfl))
      (stepRests_joining (rests_idle fun l' m hx => ?_) fun l' hl => ?_)
    · simp [Progress.waits] at hx
    · cases hl
      exact unfinished_of_watchersEnded (Bool.eq_false_iff.2 hn)

theorem rested_startVisit {errand : Errand} (owned : Bool) (hd : w.Permits A l errand) :
    Rested A w (StepRests A) (w.startVisit t l owned errand) := by
  unfold startVisit
  have hs : Follows A w (if owned then w.share l else w) ∧
      (if owned then w.share l else w).Permits A l errand := by
    split
    · exact ⟨follows_share, hd.share⟩
    · exact ⟨.refl A w, hd⟩
  generalize (if owned then w.share l else w) = w' at hs
  obtain ⟨hs, hd⟩ := hs
  have he := rested_visit (t := t) hd
  dsimp only
  rcases hy : w'.visit t l errand with ⟨w'', e | r⟩ <;> rw [hy] at he
  · exact rested_waiting (hs.trans he.toFollows)
      (stepRests_of_rests (he.rests e rfl) rfl)
  · exact rested_afterVisit (hs.trans he.toFollows) owned r

theorem rested_startEnding (h : Follows A w w') (o : Except Loss Outcome) :
    Rested A w (StepRests A) (w'.startEnding t l o) := by
  unfold startEnding
  have he := rested_visit (A := A) (t := t) (w := w') (l := l) permits_unlockErrand
  rcases hy : w'.visit t l (w'.unlockErrand l) with ⟨w'', e | r⟩ <;> rw [hy] at he
  · exact rested_waiting (h.trans he.toFollows)
      (stepRests_of_rests (he.rests e rfl) rfl)
  · exact rested_done ((h.trans he.toFollows).trans follows_unshare) _

theorem rested_startWork (h : Follows A w w') (hL : w.Labelled A)
    {begin : World → World × Poll Progress Outcome}
    (hb : ∀ x, x.Labelled A → Rested A x (StepRests A) (begin x)) :
    Rested A w (StepRests A) (w'.startWork t l begin) := by
  have ht : Follows A w w'.takeTicket.1 := h.trans (.quiet (quiet_takeTicket w') rfl)
  unfold startWork
  dsimp only
  split
  · exact rested_startEnding ht _
  · have h := (hb w'.takeTicket.1 (ht.labelled hL)).after ht
    rcases hy : begin w'.takeTicket.1 with ⟨w'', p | o⟩ <;> rw [hy] at h
    · exact rested_waiting h.toFollows ((h.rests p rfl).working l _)
    · exact rested_startEnding h.toFollows _

theorem rested_startSleep (d : Span) : Rested A w (StepRests A) (w.startSleep d) := by
  have h : Follows A w (w.timer d).1 := .quiet (quiet_timer w d) rfl
  unfold startSleep
  dsimp only
  split
  · exact rested_done h _
  · exact rested_waiting h
      (stepRests_idle (fun l n hx => by simp [Progress.waits] at hx) rfl rfl)

theorem rested_lookLoss (n : Nat) (timer : Timer) :
    Rested A w (StepRests A) (w.lookLoss l n timer) := by
  unfold lookLoss
  split
  · exact rested_done (.refl A w) _
  · split
    · exact rested_done (.refl A w) _
    · exact rested_waiting (.refl A w)
        (stepRests_idle (fun l n hx => by simp [Progress.waits] at hx) rfl rfl)

theorem rested_lookTask (target : TaskId) (n : Nat) :
    Rested A w (StepRests A) (w.lookTask target n) := by
  unfold lookTask
  split
  · exact rested_done (.refl A w) _
  · exact rested_waiting (.refl A w)
      (stepRests_idle (fun l n hx => by simp [Progress.waits] at hx) rfl rfl)

theorem rested_answer (o : Outcome) : Rested A w (StepRests A) (w.answer o) :=
  rested_done (.refl A w) o

theorem rested_onHandle {f : LockId → World × Poll Progress Outcome} {label : String}
    (hf : ∀ l, w.handle? label = some l → Rested A w (StepRests A) (f l)) :
    Rested A w (StepRests A) (w.onHandle label f) := by
  unfold onHandle
  split
  · next l hl => exact hf l hl
  · exact rested_answer _

theorem rested_onOwned {f : LockId → World × Poll Progress Outcome} (label : String)
    (hf : ∀ l, Rested A w (StepRests A) (f l)) :
    Rested A w (StepRests A) (w.onOwned label f) := by
  unfold onOwned
  split
  · exact hf _
  · exact rested_answer _

theorem rested_settle (h : Follows A w w') (past : List Outcome) (rest : List Step) :
    Rested A w (StepRests A) (w'.settle t past rest) :=
  rested_waiting (h.trans (.quiet (quiet_yield w' t) rfl))
    (stepRests_idle (fun l n hx => by simp [Progress.waits] at hx) rfl rfl)

/-! ### Steps -/

mutual

/-- A step begins. -/
theorem rested_startStep (w : World) (hL : w.Labelled A) :
    ∀ s : Step, s.Within A → Rested A w (StepRests A) (w.startStep t s)
  -- The steps that only look.
  | .holder _, _ | .remaining _, _ | .calls _, _ | .allCalls, _ | .callLog _, _ | .events _, _
  | .now, _ | .nowIn .., _ | .callsIn .., _ | .value _, _ => by
    rw [startStep]
    exact rested_answer _
  | .isCancelled label, _ | .isLost label, _ | .loss label, _ => by
    rw [startStep]
    exact rested_onHandle fun l _ => rested_answer _
  | .create label name term behaviors parent id, hA => by
    rw [startStep]
    split
    · exact rested_answer _
    · split
      · exact rested_answer _
      · exact rested_provisionContainer ⟨name, term, hA⟩
  | .lock label, _ => by
    rw [startStep]
    refine rested_onOwned label fun l => ?_
    have h := (rested_startLocking (A := A) (t := t) (w := w.share l) (l := l)).after follows_share
    rcases hy : (w.share l).startLocking t l with ⟨w', a | r⟩ <;> rw [hy] at h
    · exact rested_waiting h.toFollows (stepRests_of_rests (h.rests a rfl) rfl)
    · exact rested_done (h.toFollows.trans follows_unshare) _
  | .renew label, _ => by
    rw [startStep]
    exact rested_onOwned label fun l => rested_startVisit true fun k d _ hd => by cases hd
  | .unlock label, _ => by
    rw [startStep]
    exact rested_onOwned label fun l => rested_startVisit true permits_unlockErrand
  | .shutdown label, _ => by
    rw [startStep]
    refine rested_onOwned label fun l => ?_
    generalize hw : (w.updateLock l fun lock => { lock with listed := false }) = w'
    have hs : Follows A w w' := hw ▸ follows_unlist
    have he := rested_visit (A := A) (t := t) (w := w') (l := l) permits_unlockErrand
    dsimp only
    rcases hy : w'.visit t l (w'.unlockErrand l) with ⟨w'', e | r⟩ <;> rw [hy] at he
    · exact rested_waiting (hs.trans he.toFollows)
        (stepRests_of_rests (he.rests e rfl) rfl)
    · exact rested_afterClosing (hs.trans he.toFollows) r
  | .drop label, _ => by
    rw [startStep]
    exact rested_onHandle fun l _ => rested_done follows_dropLock _
  | .exclusive label work, hA => by
    rw [startStep]
    refine rested_onOwned label fun l => ?_
    have h := (rested_startLocking (A := A) (t := t) (w := w.share l) (l := l)).after follows_share
    rcases hy : (w.share l).startLocking t l with ⟨w', a | e | s⟩ <;> rw [hy] at h
    · exact rested_waiting h.toFollows (stepRests_of_rests (h.rests a rfl) rfl)
    · exact rested_done (h.toFollows.trans follows_unshare) _
    · exact rested_startWork h.toFollows hL fun x hx => rested_startSteps x hx work hA.2
  | .acquireOnce label, _ => by
    rw [startStep]
    exact rested_onHandle fun l _ => rested_startVisit false fun k d _ hd => by cases hd
  | .handleRenew label, _ => by
    rw [startStep]
    exact rested_onHandle fun l _ => rested_startVisit false fun k d _ hd => by cases hd
  | .handleUnlock label, _ => by
    rw [startStep]
    exact rested_onHandle fun l _ => rested_startVisit false permits_unlockErrand
  | .unlockWithin label deadline, hA => by
    rw [startStep]
    exact rested_onHandle fun l hl =>
      rested_startVisit false (permits_of_allows (hL.allows hl hA))
  | .stage label, _ => by
    rw [startStep]
    refine rested_onHandle fun l _ => ?_
    have he := rested_visit (A := A) (t := t) (w := w) (l := l) (e := .observe)
      fun k d _ hd => by cases hd
    rcases hy : w.visit t l .observe with ⟨w', e | r⟩ <;> rw [hy] at he
    · exact rested_waiting he.toFollows (stepRests_of_rests (he.rests e rfl) rfl)
    · exact rested_done he.toFollows _
  | .cancel label, _ => by
    rw [startStep]
    exact rested_onHandle fun l _ => rested_done follows_cancelScope _
  | .waitLoss label limit, _ => by
    rw [startStep]
    refine rested_onHandle fun l _ => ?_
    exact (rested_lookLoss _ _).after
      (.quiet ((quiet_takeTicket w).trans (quiet_timer _ limit)) rfl)
  | .cancelParent p, _ => by
    rw [startStep]
    exact rested_done (.of_stretch (t := t) (cancelParent_stretch p) (labels_cancelParent w p)) _
  | .foreign r, _ | .revoke o, _ | .inject op n, _ | .plan op p n, _ => by
    rw [startStep]
    exact ⟨.of_labels ⟨rfl, outlives_of_locks rfl⟩ rfl, fun p hp => by cases hp⟩
  | .sleep d, _ => by
    rw [startStep]
    exact rested_startSleep d
  | .sleepUntil i, _ => by
    rw [startStep]
    exact rested_startSleep _
  | .pending, _ => by
    rw [startStep]
    exact rested_waiting (.refl A w)
      (stepRests_idle (fun l n hx => by simp [Progress.waits] at hx) rfl rfl)
  | .steps list, hA => by
    rw [startStep]
    exact rested_startSteps w hL list hA.2
  | .spawn name step, hA => by
    rw [startStep]
    exact ⟨.of_labels ⟨rfl, outlives_of_locks rfl⟩ rfl, fun p hp => by cases hp⟩
  | .join name, _ => by
    rw [startStep]
    split
    · exact rested_answer _
    · exact (rested_lookTask _ _).after (.quiet (quiet_takeTicket w) rfl)
  | .isFinished name, _ => by
    rw [startStep]
    split <;> exact rested_answer _
  | .abort name, _ => by
    rw [startStep]
    split
    · exact rested_answer _
    · exact rested_done (.quiet (quiet_abortTask w _) (labels_abortTask w _)) _

/-- A list of steps begins. -/
theorem rested_startSteps (w : World) (hL : w.Labelled A) :
    ∀ l : List Step, Step.AllWithin A l → Rested A w (StepRests A) (w.startSteps t l)
  | [], _ => by
    rw [startSteps]
    exact rested_done (.refl A w) _
  | s :: rest, hA => by
    rw [startSteps]
    have h := rested_startStep w hL s hA.1
    rcases hy : w.startStep t s with ⟨w', p | o⟩ <;> rw [hy] at h
    · exact rested_waiting h.toFollows ((h.rests p rfl).listing _ _)
    · exact rested_settle h.toFollows _ _

end

theorem rested_nextStep (hL : w.Labelled A) {rest : List Step} (hA : Step.AllWithin A rest)
    (past : List Outcome) : Rested A w (StepRests A) (w.nextStep t past rest) := by
  unfold nextStep
  split
  · exact rested_done (.refl A w) _
  · next s rest =>
    have h := rested_startStep (t := t) w hL s hA.1
    rcases hy : w.startStep t s with ⟨w', p | o⟩ <;> rw [hy] at h
    · exact rested_waiting h.toFollows ((h.rests p rfl).listing _ _)
    · exact rested_settle h.toFollows _ _

/-- After a turn in which it goes on a step has looked at what it waits for. -/
theorem rested_resumeStep (p : Progress) :
    ∀ w : World, w.Labelled A → p.Proper A → w.Poised A R (.calling p) →
      Rested A w (StepRests A) (w.resumeStep t p) := by
  induction p with
  | unstarted s => exact fun w hL hA _ => rested_startStep w hL s hA
  | provisioning cr f n => exact fun w _ hA _ => rested_resumeProvisioning hA f n
  | acquiring l a =>
    intro w hL _ hp
    have h := rested_resumeAttempt (t := t) (a := a) hp.rests
    unfold resumeStep
    rcases hy : w.resumeAttempt t l a with ⟨w', a' | r⟩ <;> rw [hy] at h
    · exact rested_waiting h.toFollows (stepRests_of_rests (h.rests a' rfl) rfl)
    · exact rested_done (h.toFollows.trans follows_unshare) _
  | visiting l owned e =>
    intro w _ _ hp
    have h := rested_resumeEntry (t := t) hp.rests
    unfold resumeStep
    rcases hy : w.resumeEntry t l e with ⟨w', e' | r⟩ <;> rw [hy] at h
    · exact rested_waiting h.toFollows (stepRests_of_rests (h.rests e' rfl) rfl)
    · exact rested_afterVisit h.toFollows owned r
  | observing l e =>
    intro w _ _ hp
    have h := rested_resumeEntry (t := t) hp.rests
    unfold resumeStep
    rcases hy : w.resumeEntry t l e with ⟨w', e' | r⟩ <;> rw [hy] at h
    · exact rested_waiting h.toFollows (stepRests_of_rests (h.rests e' rfl) rfl)
    · exact rested_done h.toFollows _
  | closing l e =>
    intro w _ _ hp
    have h := rested_resumeEntry (t := t) hp.rests
    unfold resumeStep
    rcases hy : w.resumeEntry t l e with ⟨w', e' | r⟩ <;> rw [hy] at h
    · exact rested_waiting h.toFollows (stepRests_of_rests (h.rests e' rfl) rfl)
    · exact rested_afterClosing h.toFollows r
  | joining l r n =>
    intro w _ _ _
    unfold resumeStep
    split
    · exact rested_done follows_unshare _
    · next hn =>
      refine rested_waiting (.refl A w) (stepRests_joining (rests_idle fun l' m hx => ?_)
        fun l' hl => ?_)
      · simp [Progress.waits] at hx
      · cases hl
        exact unfinished_of_watchersEnded (Bool.eq_false_iff.2 hn)
  | opening l work a =>
    intro w hL hA hp
    have h := rested_resumeAttempt (t := t) (a := a) hp.rests
    unfold resumeStep
    rcases hy : w.resumeAttempt t l a with ⟨w', a' | e | s⟩ <;> rw [hy] at h
    · exact rested_waiting h.toFollows (stepRests_of_rests (h.rests a' rfl) rfl)
    · exact rested_done (h.toFollows.trans follows_unshare) _
    · exact rested_startWork h.toFollows hL fun x hx => rested_startSteps x hx work hA.2
  | working l n p ih =>
    intro w hL hA hp
    unfold resumeStep
    cases w.lossOf l with
    | some loss => exact rested_startEnding (follows_abandonStep p) _
    | none =>
      have h := ih w hL hA hp.of_working
      dsimp only
      rcases hy : w.resumeStep t p with ⟨w', p' | o⟩ <;> rw [hy] at h
      · exact rested_waiting h.toFollows ((h.rests p' rfl).working l n)
      · exact rested_startEnding h.toFollows _
  | ending l o e =>
    intro w _ _ hp
    have h := rested_resumeEntry (t := t) hp.rests
    unfold resumeStep
    rcases hy : w.resumeEntry t l e with ⟨w', e' | r⟩ <;> rw [hy] at h
    · exact rested_waiting h.toFollows (stepRests_of_rests (h.rests e' rfl) rfl)
    · exact rested_done (h.toFollows.trans follows_unshare) _
  | sleeping timer =>
    intro w _ _ _
    unfold resumeStep
    split
    · exact rested_answer _
    · exact rested_waiting (.refl A w)
        (stepRests_idle (fun l n hx => by simp [Progress.waits] at hx) rfl rfl)
  | listening l n timer => exact fun w _ _ _ => rested_lookLoss n timer
  | awaiting target n => exact fun w _ _ _ => rested_lookTask target n
  | forever =>
    exact fun w _ _ _ => rested_waiting (.refl A w)
      (stepRests_idle (fun l n hx => by simp [Progress.waits] at hx) rfl rfl)
  | listing past p rest ih =>
    intro w hL hA hp
    unfold resumeStep
    have h := ih w hL hA.1 hp.of_listing
    rcases hy : w.resumeStep t p with ⟨w', p' | o⟩ <;> rw [hy] at h
    · exact rested_waiting h.toFollows ((h.rests p' rfl).listing past rest)
    · exact rested_settle h.toFollows _ _
  | settling past rest =>
    intro w hL hA _
    unfold resumeStep
    split
    · exact rested_nextStep hL hA past
    · exact rested_settle (.refl A w) past rest

end Scripts

end Leasehold.World
