import Leasehold.Proofs.World.Watching

/-!
# The turns of scripts

Every turn of a script is a stretch of moves, and it keeps the script within its bounds.

* `Progress.Proper`: all that a step under way will still do satisfies `A`.
* `Progress.sections`: the locks whose exclusive sections the step is in.
* `Progress.Drops`: whose release call the step's next turn drops, when a loss ends the section that
  the call is made in.
* `World.Turned`: what a turn leaves behind; `turned_startStep`, `turned_resumeStep` and
  `abandonStep_stretch` say it of steps that begin, go on and are given up.
-/

namespace Leasehold

/-- All that a step under way will still do satisfies `A`, and its acquisitions are for the
lease. -/
def Progress.Proper (A : Step → Prop) : Progress → Prop
  | unstarted step => step.Within A
  | provisioning c _ _ => c.From A
  | acquiring _ a => a.Acquires
  | opening _ work a => a.Acquires ∧ Step.AllWithin A work
  | working _ _ p => p.Proper A
  | listing _ p rest => p.Proper A ∧ Step.AllWithin A rest
  | settling _ rest => Step.AllWithin A rest
  | _ => True

/-- The locks whose exclusive sections the step is in. -/
def Progress.sections : Progress → List LockId
  | working l _ p => l :: p.sections
  | listing _ p _ => p.sections
  | _ => []

/-- A release call of the lock is on its way in the step. -/
def Progress.Releases (l : LockId) (p : Progress) : Prop :=
  ∃ e, p.engagement = some e ∧ e.Releases l

/-- The next turn of the step drops a release call of the lock: the call is made in an exclusive
section whose lock is lost. -/
def Progress.Drops (losses : LockId → Option Loss) (l : LockId) : Progress → Prop
  | working l' _ p => if (losses l').isSome then p.Releases l else p.Drops losses l
  | listing _ p _ => p.Drops losses l
  | _ => False

namespace World

variable {A : Step → Prop} {D : Deed → Prop} {t : TaskId} {w w' : World}
  {c c' : Option Engagement} {l : LockId}

/-- What a turn leaves behind that began at `w`. -/
structure Turned (A : Step → Prop) (D : Deed → Prop) (t : TaskId) (w : World)
    (c : Option Engagement) (y : World × Poll Progress Outcome) : Prop where
  stretch : Stretch A D t w c y.1 (y.2.engagement Progress.engagement)
  proper : ∀ p, y.2 = .waiting p → p.Proper A
  sections : ∀ p, y.2 = .waiting p → ∀ l ∈ p.sections, y.1.Begun l

theorem turned_done (h : Stretch A D t w c w' none) (o : Outcome) :
    Turned A D t w c (w', .done o) where
  stretch := h
  proper p hp := by cases hp
  sections p hp := by cases hp

theorem turned_waiting {p : Progress} (h : Stretch A D t w c w' p.engagement) (hp : p.Proper A)
    (hs : ∀ l ∈ p.sections, w'.Begun l) : Turned A D t w c (w', .waiting p) where
  stretch := h
  proper p' hp' := by cases hp'; exact hp
  sections p' hp' := by cases hp'; exact hs

/-- A wait outside all exclusive sections. -/
theorem turned_outside {p : Progress} (h : Stretch A D t w c w' p.engagement) (hp : p.Proper A)
    (hs : p.sections = []) : Turned A D t w c (w', .waiting p) :=
  turned_waiting h hp (by rw [hs]; intro l hl; cases hl)

theorem Turned.after {y : World × Poll Progress Outcome} (h : Turned A D t w' none y)
    (hs : Stretch A D t w c w' none) : Turned A D t w c y :=
  ⟨hs.trans h.stretch, h.proper, h.sections⟩

/-! ### Owners and scopes -/

theorem share_stretch : Stretch A D t w none (w.share l) none :=
  .of_move (.own l (fun k => k.shares + 1) fun k => k.listed)

theorem unlist_stretch :
    Stretch A D t w none (w.updateLock l fun k => { k with listed := false }) none :=
  .of_move (.own l (fun k => k.shares) fun _ => false)

theorem cancelScope_stretch : Stretch A D t w none (w.cancelScope l) none :=
  .of_move (.cancel l)

theorem unshare_stretch : Stretch A D t w none (w.unshare l) none := by
  have h : Stretch A D t w none (w.updateLock l fun k => { k with shares := k.shares - 1 }) none :=
    .of_move (.own l (fun k => k.shares - 1) fun k => k.listed)
  unfold unshare
  dsimp only
  split
  · split
    · exact h.trans cancelScope_stretch
    · exact h
  · exact h

theorem dropLock_stretch : Stretch A D t w none (w.dropLock l).1 none := by
  unfold dropLock
  split
  · split
    · exact unlist_stretch.trans unshare_stretch
    · exact .refl A t w
  · exact .refl A t w

theorem foldl_cancelScope_stretch (ls : List LockId) :
    ∀ w : World, Stretch A D t w none (ls.foldl cancelScope w) none := by
  induction ls with
  | nil => exact fun w => .refl A t w
  | cons l ls ih => exact fun w => cancelScope_stretch.trans (ih (w.cancelScope l))

theorem cancelParent_stretch (p : String) : Stretch A D t w none (w.cancelParent p) none := by
  unfold cancelParent
  split
  · exact .refl A t w
  · refine Stretch.trans ?_ (.quiet (quiet_wakeAll _ _))
    exact (Stretch.of_move (.parent p)).trans (foldl_cancelScope_stretch _ _)

/-! ### Construction -/

theorem build_stretch {cr : Creation} (hc : cr.From A) :
    Stretch A D t w none (w.build cr).1 none := by
  have hb : Stretch A D t w none (w.built cr) none := .of_move (.build cr hc)
  have hl : (w.built cr).Quiet
      { w.built cr with labels := (cr.label, w.locks.length) :: (w.built cr).labels } :=
    ⟨rfl, rfl, rfl, rfl, rfl, rfl, rfl, fun _ h => h⟩
  have h := hb.then_quiet hl
  unfold build
  dsimp only
  split
  · exact h.trans dropLock_stretch
  · exact h

/-- A creating call. -/
def Creates (r : Request) : Prop := r = .createContainer sharedContainer ∨ ∃ o, r = .createObject o

theorem carried_ask {r : Request} (hr : Creates r) {y : World × Poll Flight Answer}
    (hy : w.issue r = y) : Carried A D t .provisioning (w, none) y :=
  hy ▸ carried_issue carries_provisioning (.single (.ask r hr))

/-- The answer to a creating call is received. -/
theorem Carried.told {x : World × Option Engagement} {a : Answer}
    (h : Carried A D t .provisioning x (w, .done a)) : Moves A D t x (w, none) := by
  obtain ⟨w', r, n, rfl, hm⟩ := h.of_done
  exact hm.then (.told r n a)

/-- A creating call is answered at once. -/
theorem issue_stretch_done {r : Request} (hr : Creates r) {a : Answer}
    (hy : w.issue r = (w', .done a)) : Stretch A D t w none w' none := by
  refine .of_moves_none (carried_ask hr hy).told (by intro _ _ h; cases h) fun hp => ⟨rfl, ?_⟩
  obtain ⟨w'', a', hi, hl, hp'⟩ := issue_of_plans_nil hp.1 r
  obtain rfl : w' = w'' := congrArg Prod.fst (hy.symm.trans hi)
  exact hp.congr (hp'.trans hp.1.symm) (queues_of_locks hl)

/-- A creating call is waited for. -/
theorem issue_stretch_waiting {r : Request} (hr : Creates r) {f : Flight}
    (hy : w.issue r = (w', .waiting f)) :
    Stretch A D t w none w' (some (.provisioning f.request f.record f.leg.course)) := by
  refine .of_moves_none (carried_ask hr hy).of_waiting (by intro _ _ h; cases h) fun hp => ?_
  obtain ⟨w'', a, hi, -, -⟩ := issue_of_plans_nil hp.1 r
  cases congrArg Prod.snd (hy.symm.trans hi)

theorem turned_provisionObject {cr : Creation} (hc : cr.From A) :
    Turned A D t w none (w.provisionObject cr) := by
  unfold provisionObject
  split
  · exact turned_done (.refl A t w) _
  · have hr : Creates (.createObject cr.name.backing) := .inr ⟨_, rfl⟩
    rcases hy : w.issue (.createObject cr.name.backing) with ⟨w', f | a⟩
    · exact turned_outside ((issue_stretch_waiting hr hy).then_quiet (quiet_takeTicket w')) hc rfl
    · have h := issue_stretch_done (A := A) (D := D) (t := t) hr hy
      dsimp only
      split
      · exact turned_done h _
      · exact turned_done (h.trans (build_stretch hc)) _

theorem turned_provisionContainer {cr : Creation} (hc : cr.From A) :
    Turned A D t w none (w.provisionContainer cr) := by
  unfold provisionContainer
  split
  · exact turned_done (.refl A t w) _
  · have hr : Creates (.createContainer sharedContainer) := .inl rfl
    rcases hy : w.issue (.createContainer sharedContainer) with ⟨w', f | a⟩
    · exact turned_outside ((issue_stretch_waiting hr hy).then_quiet (quiet_takeTicket w')) hc rfl
    · have h := issue_stretch_done (A := A) (D := D) (t := t) hr hy
      dsimp only
      split
      · exact turned_done h _
      · exact (turned_provisionObject hc).after h

theorem turned_resumeProvisioning {cr : Creation} (hc : cr.From A) (f : Flight) (n : Nat) :
    Turned A D t w (some (.provisioning f.request f.record f.leg.course))
      (w.resumeProvisioning cr f n) := by
  have hi : Carried A D t .provisioning
      (w, some (.provisioning f.request f.record f.leg.course)) (w.fly f) :=
    carried_fly carries_provisioning .refl
  unfold resumeProvisioning
  rcases hy : w.fly f with ⟨w', f' | a⟩ <;> rw [hy] at hi
  · dsimp only
    split
    · exact turned_done (.of_moves (hi.of_waiting.then (.forget _ _ _)) (by intro _ _ h; cases h)) _
    · exact turned_outside (.of_moves hi.of_waiting (by intro _ _ h; cases h)) hc rfl
  · have h : Stretch A D t w (some (.provisioning f.request f.record f.leg.course)) w' none :=
      .of_moves hi.told (by intro _ _ h; cases h)
    dsimp only
    split
    · exact turned_done h _
    · split
      · exact (turned_provisionObject hc).after h
      · exact turned_done (h.trans (build_stretch hc)) _

/-! ### Parts of steps -/

theorem turned_afterVisit (h : Stretch A D t w c w' none) (owned : Bool) (r : Reply) :
    Turned A D t w c ((w'.afterVisit l owned r).1, .done (w'.afterVisit l owned r).2) := by
  refine turned_done ?_ _
  unfold afterVisit
  dsimp only
  split
  · exact h.trans unshare_stretch
  · exact h

theorem turned_afterAcquiring (h : Stretch A D t w c w' none) (r : Reply) :
    Turned A D t w c ((w'.afterAcquiring l r).1, .done (w'.afterAcquiring l r).2) :=
  turned_done (h.trans unshare_stretch) _

theorem turned_afterEnding (h : Stretch A D t w c w' none) (o : Except Loss Outcome) (r : Reply) :
    Turned A D t w c ((w'.afterEnding l o r).1, .done (w'.afterEnding l o r).2) :=
  turned_done (h.trans unshare_stretch) _

theorem turned_endShutdown (h : Stretch A D t w c w' none) (r : Except LockFailure Unit) :
    Turned A D t w c (w'.endShutdown l r) :=
  turned_done (h.trans unshare_stretch) _

theorem turned_afterClosing (h : Stretch A D t w c w' none) (r : Reply) :
    Turned A D t w c (w'.afterClosing l r) := by
  have hc := h.trans (cancelScope_stretch (l := l))
  unfold afterClosing
  dsimp only
  split
  · exact turned_endShutdown hc _
  · exact turned_outside (hc.trans (.quiet (quiet_takeTicket _))) trivial rfl

theorem turned_startVisit (owned : Bool) (errand : Errand) :
    Turned A D t w none (w.startVisit t l owned errand) := by
  unfold startVisit
  have hs : Stretch A D t w none (if owned then w.share l else w) none := by
    split
    · exact share_stretch
    · exact .refl A t w
  generalize (if owned then w.share l else w) = w' at hs
  have h := hs.trans (visit_stretch (A := A) (D := D) (t := t) (l := l) errand)
  dsimp only
  rcases hy : w'.visit t l errand with ⟨w'', e | r⟩ <;> rw [hy] at h
  · exact turned_outside h trivial rfl
  · exact turned_afterVisit h owned r

theorem turned_startEnding (o : Except Loss Outcome) :
    Turned A D t w none (w.startEnding t l o) := by
  unfold startEnding
  have h := visit_stretch (A := A) (D := D) (t := t) (w := w) (l := l) (w.unlockErrand l)
  rcases hy : w.visit t l (w.unlockErrand l) with ⟨w', e | r⟩ <;> rw [hy] at h
  · exact turned_outside h trivial rfl
  · exact turned_afterEnding h o r

/-- The work of an exclusive section begins, with the lock just acquired. -/
theorem turned_startWork {begin : World → World × Poll Progress Outcome}
    (hb : ∀ w', Turned A D t w' none (begin w')) (hl : w.Begun l) :
    Turned A D t w none (w.startWork t l begin) := by
  have hq := Stretch.quiet (A := A) (D := D) (t := t) (quiet_takeTicket w)
  unfold startWork
  dsimp only
  split
  · exact (turned_startEnding _).after hq
  · have h := (hb w.takeTicket.1).after hq
    rcases hy : begin w.takeTicket.1 with ⟨w', p | o⟩ <;> rw [hy] at h
    · refine turned_waiting h.stretch (h.proper p rfl) fun l' hl' => ?_
      rcases List.mem_cons.1 hl' with rfl | hl'
      · exact hl.outlives h.stretch.moves.outlives
      · exact h.sections p rfl l' hl'
    · exact (turned_startEnding _).after h.stretch

theorem turned_startSleep (d : Span) : Turned A D t w none (w.startSleep d) := by
  have h := Stretch.quiet (A := A) (D := D) (t := t) (quiet_timer w d)
  unfold startSleep
  dsimp only
  split
  · exact turned_done h _
  · exact turned_outside h trivial rfl

theorem turned_lookLoss (n : Nat) (timer : Timer) : Turned A D t w none (w.lookLoss l n timer) := by
  unfold lookLoss
  split
  · exact turned_done (.refl A t w) _
  · split
    · exact turned_done (.refl A t w) _
    · exact turned_outside (.refl A t w) trivial rfl

theorem turned_lookTask (target : TaskId) (n : Nat) :
    Turned A D t w none (w.lookTask target n) := by
  unfold lookTask
  split
  · exact turned_done (.refl A t w) _
  · exact turned_outside (.refl A t w) trivial rfl

theorem turned_answer (o : Outcome) : Turned A D t w none (w.answer o) :=
  turned_done (.refl A t w) o

theorem turned_onHandle {f : LockId → World × Poll Progress Outcome}
    (hf : ∀ l, Turned A D t w none (f l)) (label : String) :
    Turned A D t w none (w.onHandle label f) := by
  unfold onHandle
  split
  · exact hf _
  · exact turned_answer _

theorem turned_onOwned {f : LockId → World × Poll Progress Outcome}
    (hf : ∀ l, Turned A D t w none (f l)) (label : String) :
    Turned A D t w none (w.onOwned label f) := by
  unfold onOwned
  split
  · exact hf _
  · exact turned_answer _

theorem turned_settle (h : Stretch A D t w c w' none) {rest : List Step}
    (hr : Step.AllWithin A rest) (past : List Outcome) :
    Turned A D t w c (w'.settle t past rest) :=
  turned_outside (h.trans (.quiet (quiet_yield w' t))) hr rfl

/-! ### Steps -/

/-- The owner's acquisition begins, with a share of its own. -/
theorem attempted_owned : Attempted A D t l w none ((w.share l).startLocking t l) :=
  have h := attempted_startLocking (A := A) (D := D) (t := t) (w := w.share l) (l := l)
  ⟨share_stretch.trans h.stretch, h.acquires, h.granted⟩

mutual

/-- A step begins. -/
theorem turned_startStep (w : World) :
    ∀ s : Step, s.Within A → Turned A D t w none (w.startStep t s)
  -- The steps that only look.
  | .holder _, _ | .remaining _, _ | .calls _, _ | .allCalls, _ | .callLog _, _ | .events _, _
  | .now, _ | .nowIn .., _ | .callsIn .., _ | .value _, _ => by
    rw [startStep]
    exact turned_answer _
  | .isCancelled label, _ | .isLost label, _ | .loss label, _ => by
    rw [startStep]
    exact turned_onHandle (fun l => turned_answer _) label
  | .create label name term behaviors parent id, hA => by
    rw [startStep]
    split
    · exact turned_answer _
    · split
      · exact turned_answer _
      · exact turned_provisionContainer ⟨name, term, hA⟩
  | .lock label, _ => by
    rw [startStep]
    refine turned_onOwned (fun l => ?_) label
    have h := attempted_owned (A := A) (D := D) (t := t) (w := w) (l := l)
    rcases hy : (w.share l).startLocking t l with ⟨w', a | r⟩ <;> rw [hy] at h
    · exact turned_outside h.stretch (h.acquires a rfl) rfl
    · exact turned_afterAcquiring h.stretch r
  | .renew label, _ => by
    rw [startStep]
    exact turned_onOwned (fun l => turned_startVisit true .renew) label
  | .unlock label, _ => by
    rw [startStep]
    exact turned_onOwned (fun l => turned_startVisit true _) label
  | .shutdown label, _ => by
    rw [startStep]
    refine turned_onOwned (fun l => ?_) label
    generalize hw : (w.updateLock l fun lock => { lock with listed := false }) = w'
    have hs : Stretch A D t w none w' none := hw ▸ unlist_stretch
    have h := hs.trans (visit_stretch (l := l) (w'.unlockErrand l))
    dsimp only
    rcases hy : w'.visit t l (w'.unlockErrand l) with ⟨w'', e | r⟩ <;> rw [hy] at h
    · exact turned_outside h trivial rfl
    · exact turned_afterClosing h r
  | .drop label, _ => by
    rw [startStep]
    exact turned_onHandle (fun l => turned_done dropLock_stretch _) label
  | .exclusive label work, hA => by
    rw [startStep]
    refine turned_onOwned (fun l => ?_) label
    have h := attempted_owned (A := A) (D := D) (t := t) (w := w) (l := l)
    rcases hy : (w.share l).startLocking t l with ⟨w', a | e | s⟩ <;> rw [hy] at h
    · exact turned_outside h.stretch ⟨h.acquires a rfl, hA.2⟩ rfl
    · exact turned_afterAcquiring h.stretch _
    · refine
      (turned_startWork (fun w'' => ?_) ((h.granted s rfl).begun (by decide))).after h.stretch
      exact turned_startSteps w'' work hA.2
  | .acquireOnce label, _ => by
    rw [startStep]
    exact turned_onHandle (fun l => turned_startVisit false .acquire) label
  | .handleRenew label, _ => by
    rw [startStep]
    exact turned_onHandle (fun l => turned_startVisit false .renew) label
  | .handleUnlock label, _ => by
    rw [startStep]
    exact turned_onHandle (fun l => turned_startVisit false _) label
  | .unlockWithin label deadline, _ => by
    rw [startStep]
    exact turned_onHandle (fun l => turned_startVisit false (.release deadline)) label
  | .stage label, _ => by
    rw [startStep]
    refine turned_onHandle (fun l => ?_) label
    have h := visit_stretch (A := A) (D := D) (t := t) (w := w) (l := l) .observe
    rcases hy : w.visit t l .observe with ⟨w', e | r⟩ <;> rw [hy] at h
    · exact turned_outside h trivial rfl
    · exact turned_done h _
  | .cancel label, _ => by
    rw [startStep]
    exact turned_onHandle (fun l => turned_done cancelScope_stretch _) label
  | .waitLoss label limit, _ => by
    rw [startStep]
    refine turned_onHandle (fun l => ?_) label
    exact (turned_lookLoss _ _).after
      ((Stretch.quiet (quiet_takeTicket w)).trans (.quiet (quiet_timer _ limit)))
  | .cancelParent p, _ => by
    rw [startStep]
    exact turned_done (cancelParent_stretch p) _
  -- What is done to the service past the locks is a move of its own, if the script may do it.
  | .foreign r, hA => by
    rw [startStep]
    have ha : A (.foreign r) := hA
    exact turned_done (.of_move (.foreign r ha)) _
  | .revoke o, hA => by
    rw [startStep]
    have ha : A (.revoke o) := hA
    exact turned_done (.of_move (.revoke o ha)) _
  | .inject op n, hA => by
    rw [startStep]
    have ha : A (.inject op n) := hA
    exact turned_done (.of_move (.inject op n ha)) _
  | .plan op p n, hA => by
    rw [startStep]
    have ha : A (.plan op p n) := hA
    exact turned_done (.of_move (.plan op p n ha)) _
  | .sleep d, _ => by
    rw [startStep]
    exact turned_startSleep d
  | .sleepUntil i, _ => by
    rw [startStep]
    exact turned_startSleep _
  | .pending, _ => by
    rw [startStep]
    exact turned_outside (.refl A t w) trivial rfl
  | .steps list, hA => by
    rw [startStep]
    exact turned_startSteps w list hA.2
  | .spawn name step, hA => by
    rw [startStep]
    refine turned_done (Stretch.then_quiet (.of_move (.spawn step hA.2)) ?_) _
    exact ⟨rfl, rfl, rfl, rfl, rfl, rfl, rfl, fun _ h => h⟩
  | .join name, _ => by
    rw [startStep]
    split
    · exact turned_answer _
    · exact (turned_lookTask _ _).after (.quiet (quiet_takeTicket w))
  | .isFinished name, _ => by
    rw [startStep]
    split <;> exact turned_answer _
  | .abort name, _ => by
    rw [startStep]
    split
    · exact turned_answer _
    · exact turned_done (.quiet (quiet_abortTask w _)) _

/-- A list of steps begins. -/
theorem turned_startSteps (w : World) :
    ∀ l : List Step, Step.AllWithin A l → Turned A D t w none (w.startSteps t l)
  | [], _ => by
    rw [startSteps]
    exact turned_done (.refl A t w) _
  | s :: rest, hA => by
    rw [startSteps]
    have h := turned_startStep w s hA.1
    rcases hy : w.startStep t s with ⟨w', p | o⟩ <;> rw [hy] at h
    · exact turned_waiting h.stretch ⟨h.proper p rfl, hA.2⟩ (h.sections p rfl)
    · exact turned_settle h.stretch hA.2 _

end

theorem turned_nextStep {rest : List Step} (hA : Step.AllWithin A rest) (past : List Outcome) :
    Turned A D t w none (w.nextStep t past rest) := by
  unfold nextStep
  split
  · exact turned_done (.refl A t w) _
  · next s rest =>
    have h := turned_startStep (D := D) (t := t) w s hA.1
    rcases hy : w.startStep t s with ⟨w', p | o⟩ <;> rw [hy] at h
    · exact turned_waiting h.stretch ⟨h.proper p rfl, hA.2⟩ (h.sections p rfl)
    · exact turned_settle h.stretch hA.2 _

/-- A step is given up in the middle. -/
theorem abandonStep_stretch (p : Progress) (hD : ∀ l, p.Releases l → D (.drop l)) :
    ∀ w : World, Stretch A D t w p.engagement (w.abandonStep t p) none := by
  induction p with
  | acquiring l a | opening l work a =>
    exact fun w => (abandonAttempt_stretch a fun e he hr => hD l ⟨e, he, hr⟩).trans unshare_stretch
  | visiting l owned e =>
    intro w
    have h := abandonEntry_stretch (A := A) (t := t) (w := w) e fun hr => hD l ⟨_, rfl, hr⟩
    show Stretch A D t w _ (if owned then (w.abandonEntry t l e).unshare l
      else w.abandonEntry t l e) none
    split
    · exact h.trans unshare_stretch
    · exact h
  | observing l e => exact fun w => abandonEntry_stretch e fun hr => hD l ⟨_, rfl, hr⟩
  | closing l e | ending l o e =>
    exact fun w => (abandonEntry_stretch e fun hr => hD l ⟨_, rfl, hr⟩).trans unshare_stretch
  | joining l r n => exact fun w => unshare_stretch
  | working l n p ih => exact fun w => (ih hD w).trans unshare_stretch
  | listing past p rest ih => exact ih hD
  | provisioning cr f n =>
    intro w
    exact .of_moves (.single (.forget _ _ _)) (by intro _ _ h; cases h)
  | unstarted | sleeping | listening | awaiting | forever | settling =>
    exact fun w => .refl A t w

/-- A step goes on after a wait. -/
theorem turned_resumeStep (p : Progress) :
    ∀ w : World, p.Proper A → (∀ l ∈ p.sections, w.Begun l) →
      (∀ l, p.Drops w.lossOf l → D (.drop l)) →
      Turned A D t w p.engagement (w.resumeStep t p) := by
  induction p with
  | unstarted s => exact fun w hA _ _ => turned_startStep w s hA
  | provisioning cr f n => exact fun w hA _ _ => turned_resumeProvisioning hA f n
  | acquiring l a =>
    intro w hA _ _
    unfold resumeStep
    have h := attempted_resume (A := A) (D := D) (t := t) (w := w) (l := l) hA
    rcases hy : w.resumeAttempt t l a with ⟨w', a' | r⟩ <;> rw [hy] at h
    · exact turned_outside h.stretch (h.acquires a' rfl) rfl
    · exact turned_afterAcquiring h.stretch r
  | visiting l owned e =>
    intro w _ _ _
    unfold resumeStep
    have h := resumeEntry_stretch (A := A) (D := D) (t := t) (w := w) (l := l) e
    rcases hy : w.resumeEntry t l e with ⟨w', e' | r⟩ <;> rw [hy] at h
    · exact turned_outside h trivial rfl
    · exact turned_afterVisit h owned r
  | observing l e =>
    intro w _ _ _
    unfold resumeStep
    have h := resumeEntry_stretch (A := A) (D := D) (t := t) (w := w) (l := l) e
    rcases hy : w.resumeEntry t l e with ⟨w', e' | r⟩ <;> rw [hy] at h
    · exact turned_outside h trivial rfl
    · exact turned_done h _
  | closing l e =>
    intro w _ _ _
    unfold resumeStep
    have h := resumeEntry_stretch (A := A) (D := D) (t := t) (w := w) (l := l) e
    rcases hy : w.resumeEntry t l e with ⟨w', e' | r⟩ <;> rw [hy] at h
    · exact turned_outside h trivial rfl
    · exact turned_afterClosing h r
  | joining l r n =>
    intro w _ _ _
    unfold resumeStep
    split
    · exact turned_endShutdown (.refl A t w) r
    · exact turned_outside (.refl A t w) trivial rfl
  | opening l work a =>
    intro w hA _ _
    unfold resumeStep
    have h := attempted_resume (A := A) (D := D) (t := t) (w := w) (l := l) hA.1
    rcases hy : w.resumeAttempt t l a with ⟨w', a' | e | s⟩ <;> rw [hy] at h
    · exact turned_outside h.stretch ⟨h.acquires a' rfl, hA.2⟩ rfl
    · exact turned_afterAcquiring h.stretch _
    · refine
      (turned_startWork (fun w'' => ?_) ((h.granted s rfl).begun (by decide))).after h.stretch
      exact turned_startSteps w'' work hA.2
  | working l n p ih =>
    intro w hA hs hD
    unfold resumeStep
    -- The loss is looked at first: the work is polled only if there is none, else it is given up.
    cases hl : w.lossOf l with
    | some loss =>
      refine (turned_startEnding _).after (abandonStep_stretch p (fun l' hr => hD l' ?_) w)
      rw [Progress.Drops, hl]
      exact hr
    | none =>
      have h := ih w hA (fun l' hl' => hs l' (List.mem_cons_of_mem l hl')) fun l' hd => hD l' (by
        rw [Progress.Drops, hl]
        exact hd)
      dsimp only
      rcases hy : w.resumeStep t p with ⟨w', p' | o⟩ <;> rw [hy] at h
      · refine turned_waiting h.stretch (h.proper p' rfl) fun l' hl' => ?_
        rcases List.mem_cons.1 hl' with rfl | hl'
        · exact (hs _ List.mem_cons_self).outlives h.stretch.moves.outlives
        · exact h.sections p' rfl l' hl'
      · exact (turned_startEnding _).after h.stretch
  | ending l o e =>
    intro w _ _ _
    unfold resumeStep
    have h := resumeEntry_stretch (A := A) (D := D) (t := t) (w := w) (l := l) e
    rcases hy : w.resumeEntry t l e with ⟨w', e' | r⟩ <;> rw [hy] at h
    · exact turned_outside h trivial rfl
    · exact turned_afterEnding h o r
  | sleeping timer =>
    intro w _ _ _
    unfold resumeStep
    split
    · exact turned_answer _
    · exact turned_outside (.refl A t w) trivial rfl
  | listening l n timer => exact fun w _ _ _ => turned_lookLoss n timer
  | awaiting target n => exact fun w _ _ _ => turned_lookTask target n
  | forever => exact fun w _ _ _ => turned_outside (.refl A t w) trivial rfl
  | listing past p rest ih =>
    intro w hA hs hD
    unfold resumeStep
    have h := ih w hA.1 hs hD
    rcases hy : w.resumeStep t p with ⟨w', p' | o⟩ <;> rw [hy] at h
    · exact turned_waiting h.stretch ⟨h.proper p' rfl, hA.2⟩ (h.sections p' rfl)
    · exact turned_settle h.stretch hA.2 _
  | settling past rest =>
    intro w hA _ _
    unfold resumeStep
    split
    · exact turned_nextStep hA past
    · exact turned_settle (.refl A t w) hA past

end World

end Leasehold
