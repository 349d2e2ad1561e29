import Leasehold.Proofs.World.Reachable

/-!
# Where a turn of a script comes to

A turn of a script goes on with the innermost of the steps that are under way, and may begin the
first step of a list or of an exclusive section.

* `World.Descends`: the steps that a turn comes to, with the worlds in which it does.
* `Descends.moves`, `Descends.rest`: what is before such a step in the turn, and what is after it.
* `Progress.shutdown?`: the shutdown that a step is in the middle of.
* `exists_descends`: a turn that ends in the middle of a shutdown has come to it.
-/

namespace Leasehold

/-- The shutdown that a step is in the middle of, with its lock. -/
def Progress.shutdown? : Progress → Option (LockId × Progress)
  | closing l e => some (l, closing l e)
  | joining l r n => some (l, joining l r n)
  | working _ _ p | listing _ p _ => p.shutdown?
  | _ => none

theorem Progress.engagement_of_shutdown {l : LockId} {p q : Progress}
    (h : p.shutdown? = some (l, q)) : p.engagement = q.engagement := by
  induction p with
  | closing | joining => cases h; rfl
  | working l' n p ih => exact ih h
  | listing past p rest ih => exact ih h
  | _ => cases h

namespace World

variable {A : Step → Prop} {D : Deed → Prop} {t : TaskId} {w w' w₁ w₂ : World} {l : LockId}
  {p p' q q' : Progress} {o : Outcome}

/-- The turn of the task that goes on with `p` at `w` comes to going on with `q` at `w₁`. -/
inductive Descends (t : TaskId) : World → Progress → World → Progress → Prop
  | here (w : World) (p : Progress) : Descends t w p w p
  | listing {w w₁ : World} {p q : Progress} (past : List Outcome) (rest : List Step) :
      Descends t w p w₁ q → Descends t w (.listing past p rest) w₁ q
  | working {w w₁ : World} {p q : Progress} (l : LockId) (n : Nat) :
      w.lossOf l = none → Descends t w p w₁ q → Descends t w (.working l n p) w₁ q
  | settling {w w₁ : World} {q : Progress} (past : List Outcome) (s : Step) (rest : List Step) :
      w.ready.isEmpty = true → Descends t w (.unstarted s) w₁ q →
      Descends t w (.settling past (s :: rest)) w₁ q
  | steps {w w₁ : World} {q : Progress} (s : Step) (rest : List Step) :
      Descends t w (.unstarted s) w₁ q → Descends t w (.unstarted (.steps (s :: rest))) w₁ q
  | exclusive {w w' w₁ : World} {q : Progress} {l : LockId} {g : Stage} (label : String) (s : Step)
      (rest : List Step) : w.owned? label = some l →
      (w.share l).startLocking t l = (w', .done (.ok g)) → w'.takeTicket.1.lossOf l = none →
      Descends t w'.takeTicket.1 (.unstarted s) w₁ q →
      Descends t w (.unstarted (.exclusive label (s :: rest))) w₁ q
  | opening {w w' w₁ : World} {q : Progress} {g : Stage} (l : LockId) (s : Step)
      (rest : List Step) (a : Attempt) :
      w.resumeAttempt t l a = (w', .done (.ok g)) → w'.takeTicket.1.lossOf l = none →
      Descends t w'.takeTicket.1 (.unstarted s) w₁ q →
      Descends t w (.opening l (s :: rest) a) w₁ q

theorem engagements_of_task (ht : w.tasks[t]? = some ⟨.calling p, false⟩) :
    w.engagements t = p.engagement := by
  rw [engagements, ht]
  rfl

theorem orderly_of_task (h : Reachable A w) (ht : w.tasks[t]? = some ⟨.calling p, false⟩) :
    w.Orderly A (.calling p) :=
  h.tame t (.calling p) (by rw [activity?, ht]; rfl)

/-! ### Before a step and after it -/

/-- What the turn has done when it comes to the step. -/
theorem Descends.moves (h : Descends t w p w₁ q) (hp : p.Proper A) :
    Moves A D t (w, p.engagement) (w₁, q.engagement) := by
  have ticket : ∀ w : World, Moves A D t (w, none) (w.takeTicket.1, none) :=
    fun w => .single (.quiet (quiet_takeTicket w))
  induction h with
  | here w p => exact .refl
  | listing past rest _ ih => exact ih hp.1
  | working l n _ _ ih => exact ih hp
  | settling past s rest _ _ ih => exact ih hp.1
  | steps s rest _ ih => exact ih hp.2.1
  | @exclusive w w' w₁ q l g label s rest _ hy _ _ ih =>
    -- the section has acquired its lock before it comes to its work
    have hs := (attempted_owned (A := A) (D := D) (t := t) (w := w) (l := l)).stretch.moves
    rw [hy] at hs
    exact (hs.trans (ticket w')).trans (ih hp.2.1)
  | @opening w w' w₁ q g l s rest a hy _ _ ih =>
    have hs := (attempted_resume (A := A) (D := D) (t := t) (w := w) (l := l) hp.1).stretch.moves
    rw [hy] at hs
    exact (hs.trans (ticket w')).trans (ih hp.2.1)

/-- What the turn has still done by its end at `y` when all steps within it are over at `w`. -/
def Rest (A : Step → Prop) (D : Deed → Prop) (t : TaskId) (w : World)
    (y : World × Poll Progress Outcome) : Prop :=
  Moves A D t (w, none) (y.1, y.2.engagement Progress.engagement)

theorem Rest.settle (h : Moves A D t (w, none) (w', none)) (past : List Outcome)
    (rest : List Step) : Rest A D t w (w'.settle t past rest) :=
  h.tail (.quiet (quiet_yield w' t))

theorem Rest.nextStep {s : Step} (h : Rest A D t w (w'.startStep t s)) (past : List Outcome)
    (rest : List Step) : Rest A D t w (w'.nextStep t past (s :: rest)) := by
  unfold World.nextStep
  dsimp only
  rcases hy : w'.startStep t s with ⟨w'', p | o⟩ <;> rw [hy] at h
  · exact h
  · exact Rest.settle h _ rest

theorem Rest.startSteps {s : Step} (h : Rest A D t w (w'.startStep t s)) (rest : List Step) :
    Rest A D t w (w'.startSteps t (s :: rest)) := by
  rw [World.startSteps]
  rcases hy : w'.startStep t s with ⟨w'', p | o⟩ <;> rw [hy] at h
  · exact h
  · exact Rest.settle h _ rest

theorem Rest.startEnding (h : Moves A D t (w, none) (w', none)) (o : Except Loss Outcome) :
    Rest A D t w (w'.startEnding t l o) :=
  h.trans (turned_startEnding o).stretch.moves

theorem Rest.startWork {begin : World → World × Poll Progress Outcome}
    (hl : w'.takeTicket.1.lossOf l = none) (h : Rest A D t w (begin w'.takeTicket.1)) :
    Rest A D t w (w'.startWork t l begin) := by
  unfold World.startWork
  dsimp only
  rw [hl]
  dsimp only
  rcases hy : begin w'.takeTicket.1 with ⟨w'', p | o⟩ <;> rw [hy] at h
  · exact h
  · exact Rest.startEnding h _

/-- What the turn still does when the step is over. -/
theorem Descends.rest (h : Descends t w p w₁ q) (hq : w₁.resumeStep t q = (w₂, .done o)) :
    Rest A D t w₂ (w.resumeStep t p) := by
  induction h with
  | here w p =>
    rw [hq]
    exact .refl
  | @listing w w₁ p q past rest _ ih =>
    have h := ih hq
    unfold resumeStep
    rcases hy : w.resumeStep t p with ⟨w', p' | o'⟩ <;> rw [hy] at h
    · exact h
    · exact Rest.settle h _ rest
  | @working w w₁ p q l n hl _ ih =>
    have h := ih hq
    unfold resumeStep
    rw [hl]
    dsimp only
    rcases hy : w.resumeStep t p with ⟨w', p' | o'⟩ <;> rw [hy] at h
    · exact h
    · exact Rest.startEnding h _
  | settling past s rest hr _ ih =>
    unfold resumeStep
    rw [if_pos hr]
    exact (ih hq).nextStep past rest
  | steps s rest _ ih =>
    show Rest A D t w₂ (World.startStep _ t (.steps (s :: rest)))
    rw [startStep]
    exact (ih hq).startSteps rest
  | exclusive label s rest ho hy hl _ ih =>
    show Rest A D t w₂ (World.startStep _ t (.exclusive label (s :: rest)))
    rw [startStep, onOwned, ho]
    dsimp only
    rw [hy]
    exact Rest.startWork hl ((ih hq).startSteps rest)
  | opening l s rest a hy hl _ ih =>
    unfold resumeStep
    rw [hy]
    exact Rest.startWork hl ((ih hq).startSteps rest)

/-! ### Shutdowns -/

/-- The step is a shutdown of the lock, under way or about to begin. -/
def Shuts (w : World) (l : LockId) (q : Progress) : Prop :=
  (∃ label, q = .unstarted (.shutdown label) ∧ w.owned? label = some l) ∨
    (∃ e, q = .closing l e) ∨ ∃ r n, q = .joining l r n

/-- The turn that goes on with `p` at `w` has ended in `y`, and if that is in the middle of a
shutdown it has come to it. -/
def Led (t : TaskId) (w : World) (p : Progress) (y : World × Poll Progress Outcome) : Prop :=
  ∀ p' l q', y.2 = .waiting p' → p'.shutdown? = some (l, q') →
    ∃ w₁ q, Descends t w p w₁ q ∧ w₁.Shuts l q ∧ w₁.resumeStep t q = (y.1, .waiting q')

theorem led_done (o : Outcome) : Led t w p (w', .done o) := by
  intro p' l q' h
  cases h

theorem led_waiting (hp : p'.shutdown? = none) : Led t w p (w', .waiting p') := by
  intro p'' l q' h hs
  cases h
  cases hp.symm.trans hs

section Steps

variable {cr : Creation} {errand : Errand}

theorem led_provisionObject : Led t w p (w'.provisionObject cr) := by
  unfold provisionObject
  split
  · exact led_done _
  · split
    · exact led_waiting rfl
    · split <;> exact led_done _

theorem led_provisionContainer : Led t w p (w'.provisionContainer cr) := by
  unfold provisionContainer
  split
  · exact led_done _
  · split
    · exact led_waiting rfl
    · split
      · exact led_done _
      · exact led_provisionObject

theorem led_resumeProvisioning (f : Flight) (n : Nat) :
    Led t w p (w'.resumeProvisioning cr f n) := by
  unfold resumeProvisioning
  split
  · split
    · exact led_done _
    · exact led_waiting rfl
  · split
    · exact led_done _
    · split
      · exact led_provisionObject
      · exact led_done _

theorem led_startVisit (owned : Bool) : Led t w p (w'.startVisit t l owned errand) := by
  unfold startVisit
  dsimp only
  split
  · exact led_waiting rfl
  · exact led_done _

theorem led_startEnding (o : Except Loss Outcome) : Led t w p (w'.startEnding t l o) := by
  unfold startEnding
  split
  · exact led_waiting rfl
  · exact led_done _

theorem led_startSleep (d : Span) : Led t w p (w'.startSleep d) := by
  unfold startSleep
  dsimp only
  split
  · exact led_done _
  · exact led_waiting rfl

theorem led_lookLoss (n : Nat) (timer : Timer) : Led t w p (w'.lookLoss l n timer) := by
  unfold lookLoss
  split
  · exact led_done _
  · split
    · exact led_done _
    · exact led_waiting rfl

theorem led_lookTask (target : TaskId) (n : Nat) : Led t w p (w'.lookTask target n) := by
  unfold lookTask
  split
  · exact led_done _
  · exact led_waiting rfl

theorem led_onHandle {f : LockId → World × Poll Progress Outcome} {label : String}
    (hf : ∀ l, Led t w p (f l)) : Led t w p (w'.onHandle label f) := by
  unfold onHandle
  split
  · exact hf _
  · exact led_done _

theorem led_onOwned {f : LockId → World × Poll Progress Outcome} {label : String}
    (hf : ∀ l, w'.owned? label = some l → Led t w p (f l)) : Led t w p (w'.onOwned label f) := by
  unfold onOwned
  split
  · next l hl => exact hf l hl
  · exact led_done _

end Steps

/-- A shutdown goes on or begins. -/
theorem led_here (hq : ∀ p' l q', (w.resumeStep t p).2 = .waiting p' →
    p'.shutdown? = some (l, q') → w.Shuts l p ∧ q' = p') : Led t w p (w.resumeStep t p) := by
  intro p' l q' hp hs
  obtain ⟨hshut, rfl⟩ := hq p' l q' hp hs
  exact ⟨w, p, .here w p, hshut, by rw [← hp]⟩

/-- What the steps within a step have come to is what the step has come to. -/
theorem Led.mono {y : World × Poll Progress Outcome} (h : Led t w p y)
    (hd : ∀ w₁ q, Descends t w p w₁ q → Descends t w' p' w₁ q) : Led t w' p' y := by
  intro p'' l q' hp hs
  obtain ⟨w₁, q, hd', hshut, hy⟩ := h p'' l q' hp hs
  exact ⟨w₁, q, hd _ _ hd', hshut, hy⟩

theorem led_settle (past : List Outcome) (rest : List Step) :
    Led t w p (w'.settle t past rest) := led_waiting rfl

theorem Led.nextStep {s : Step} (h : Led t w p (w'.startStep t s)) (past : List Outcome)
    (rest : List Step) : Led t w p (w'.nextStep t past (s :: rest)) := by
  unfold World.nextStep
  dsimp only
  rcases hy : w'.startStep t s with ⟨w'', p'' | o⟩ <;> rw [hy] at h
  · intro p₁ l q' hp hs
    cases hp
    exact h p'' l q' rfl hs
  · exact led_settle _ rest

theorem Led.startSteps {s : Step} (h : Led t w p (w'.startStep t s)) (rest : List Step) :
    Led t w p (w'.startSteps t (s :: rest)) := by
  rw [World.startSteps]
  rcases hy : w'.startStep t s with ⟨w'', p'' | o⟩ <;> rw [hy] at h
  · intro p₁ l q' hp hs
    cases hp
    exact h p'' l q' rfl hs
  · exact led_settle _ rest

theorem led_startWork {begin : World → World × Poll Progress Outcome}
    (h : w'.takeTicket.1.lossOf l = none → Led t w p (begin w'.takeTicket.1)) :
    Led t w p (w'.startWork t l begin) := by
  unfold startWork
  dsimp only
  split
  · exact led_startEnding _
  · next hl =>
    have h := h hl
    rcases hy : begin w'.takeTicket.1 with ⟨w'', p'' | o⟩ <;> rw [hy] at h
    · intro p₁ l q' hp hs
      cases hp
      exact h p'' l q' rfl hs
    · exact led_startEnding _

theorem led_afterClosing (r : Reply) {l : LockId} :
    ∀ p' l' q', (w.afterClosing l r).2 = .waiting p' → p'.shutdown? = some (l', q') →
      l' = l ∧ q' = p' := by
  intro p' l' q' hp hs
  unfold afterClosing at hp
  dsimp only at hp
  split at hp
  · cases hp
  · cases hp
    cases hs
    exact ⟨rfl, rfl⟩

/-- A step begins. -/
theorem led_startStep (w : World) : ∀ s : Step, Led t w (.unstarted s) (w.startStep t s)
  | .holder _ | .remaining _ | .calls _ | .allCalls | .callLog _ | .events _ | .now | .nowIn ..
  | .callsIn .. | .value _ | .foreign _ | .revoke _ | .inject .. | .plan .. | .cancelParent _
  | .spawn .. => by
    rw [startStep]
    exact led_done _
  | .isCancelled label | .isLost label | .loss label | .cancel label | .drop label => by
    rw [startStep]
    exact led_onHandle fun l => led_done _
  | .create label name term behaviors parent id => by
    rw [startStep]
    split
    · exact led_done _
    · split
      · exact led_done _
      · exact led_provisionContainer
  | .lock label => by
    rw [startStep]
    refine led_onOwned fun l _ => ?_
    split
    · exact led_waiting rfl
    · exact led_done _
  | .renew label | .unlock label => by
    rw [startStep]
    exact led_onOwned fun l _ => led_startVisit true
  | .shutdown label => by
    refine led_here fun p' l q' hp hs => ?_
    have hp : (w.startStep t (.shutdown label)).2 = .waiting p' := hp
    rw [startStep, onOwned] at hp
    split at hp
    · next l' hl =>
      generalize (w.updateLock l' fun lock => { lock with listed := false }) = w' at hp
      dsimp only at hp
      rcases hy : w'.visit t l' (w'.unlockErrand l') with ⟨w'', e | r⟩ <;> rw [hy] at hp
      · cases hp
        cases hs
        exact ⟨.inl ⟨label, rfl, hl⟩, rfl⟩
      · obtain ⟨rfl, rfl⟩ := led_afterClosing r p' l q' hp hs
        exact ⟨.inl ⟨label, rfl, hl⟩, rfl⟩
    · cases hp
  | .exclusive label [] => by
    rw [startStep]
    refine led_onOwned fun l _ => ?_
    split
    · exact led_waiting rfl
    · exact led_done _
    · exact led_startWork fun _ => by rw [startSteps]; exact led_done _
  | .exclusive label (s :: rest) => by
    rw [startStep]
    refine led_onOwned fun l hl => ?_
    split
    · exact led_waiting rfl
    · exact led_done _
    · next w' g hy =>
      refine led_startWork fun hn => Led.startSteps (Led.mono (led_startStep _ s) ?_) rest
      exact fun _ _ hd => .exclusive label s rest hl hy hn hd
  | .acquireOnce label | .handleRenew label | .handleUnlock label | .unlockWithin label _ => by
    rw [startStep]
    exact led_onHandle fun l => led_startVisit false
  | .stage label => by
    rw [startStep]
    refine led_onHandle fun l => ?_
    split
    · exact led_waiting rfl
    · exact led_done _
  | .waitLoss label limit => by
    rw [startStep]
    exact led_onHandle fun l => led_lookLoss _ _
  | .sleep _ | .sleepUntil _ => by
    rw [startStep]
    exact led_startSleep _
  | .pending => by
    rw [startStep]
    exact led_waiting rfl
  | .steps [] => by
    rw [startStep, startSteps]
    exact led_done _
  | .steps (s :: rest) => by
    rw [startStep]
    exact ((led_startStep w s).mono fun _ _ hd => .steps s rest hd).startSteps rest
  | .join name => by
    rw [startStep]
    split
    · exact led_done _
    · exact led_lookTask _ _
  | .isFinished name | .abort name => by
    rw [startStep]
    split <;> exact led_done _

/-- A step goes on after a wait. -/
theorem led_resumeStep (p : Progress) : ∀ w : World, Led t w p (w.resumeStep t p) := by
  induction p with
  | unstarted s => exact fun w => led_startStep w s
  | provisioning cr f n => exact fun w => led_resumeProvisioning f n
  | acquiring l a | visiting l owned e | observing l e | ending l o e =>
    intro w
    unfold resumeStep
    split
    · exact led_waiting rfl
    · exact led_done _
  | closing l e =>
    refine fun w => led_here fun p' l' q' hp hs => ?_
    unfold resumeStep at hp
    rcases hy : w.resumeEntry t l e with ⟨w', e' | r⟩ <;> rw [hy] at hp
    · cases hp
      cases hs
      exact ⟨.inr (.inl ⟨e, rfl⟩), rfl⟩
    · obtain ⟨rfl, rfl⟩ := led_afterClosing r p' l' q' hp hs
      exact ⟨.inr (.inl ⟨e, rfl⟩), rfl⟩
  | joining l r n =>
    refine fun w => led_here fun p' l' q' hp hs => ?_
    unfold resumeStep at hp
    split at hp
    · cases hp
    · cases hp
      cases hs
      exact ⟨.inr (.inr ⟨r, n, rfl⟩), rfl⟩
  | opening l work a =>
    intro w
    unfold resumeStep
    split
    · exact led_waiting rfl
    · exact led_done _
    · next w' g hy =>
      cases work with
      | nil => exact led_startWork fun _ => by rw [startSteps]; exact led_done _
      | cons s rest =>
        refine led_startWork fun hn => Led.startSteps (Led.mono (led_startStep _ s) ?_) rest
        exact fun _ _ hd => .opening l s rest a hy hn hd
  | working l n p ih =>
    intro w
    unfold resumeStep
    split
    · exact led_startEnding _
    · next hl =>
      have h := (ih w).mono fun _ _ hd => Descends.working l n hl hd
      rcases hy : w.resumeStep t p with ⟨w', p' | o⟩ <;> rw [hy] at h
      · intro p₁ l q' hp hs
        cases hp
        exact h p' l q' rfl hs
      · exact led_startEnding _
  | sleeping timer =>
    intro w
    unfold resumeStep
    split
    · exact led_done _
    · exact led_waiting rfl
  | listening l n timer => exact fun w => led_lookLoss n timer
  | awaiting target n => exact fun w => led_lookTask target n
  | forever => exact fun w => led_waiting rfl
  | listing past p rest ih =>
    intro w
    unfold resumeStep
    have h := (ih w).mono fun _ _ hd => Descends.listing past rest hd
    rcases hy : w.resumeStep t p with ⟨w', p' | o⟩ <;> rw [hy] at h
    · intro p₁ l q' hp hs
      cases hp
      exact h p' l q' rfl hs
    · exact led_settle _ rest
  | settling past rest =>
    intro w
    unfold resumeStep
    split
    · next hr =>
      cases rest with
      | nil => exact led_done _
      | cons s rest =>
        exact ((led_startStep w s).mono fun _ _ hd => .settling past s rest hr hd).nextStep
          past rest
    · exact led_settle past rest

/-- A turn that ends in the middle of a shutdown has come to it. -/
theorem exists_descends (hp : (w.resumeStep t p).2 = .waiting p')
    (hs : p'.shutdown? = some (l, q')) : ∃ w₁ q, Descends t w p w₁ q ∧ w₁.Shuts l q ∧
      w₁.resumeStep t q = ((w.resumeStep t p).1, .waiting q') :=
  led_resumeStep p w p' l q' hp hs

/-- A step that begins comes only to steps that begin. -/
theorem Descends.of_unstarted {s : Step} (h : Descends t w (.unstarted s) w₁ q) :
    ∃ s', q = .unstarted s' := by
  generalize hp : Progress.unstarted s = p at h
  induction h generalizing s with
  | here w p => exact ⟨s, hp.symm⟩
  | steps s rest _ ih => exact ih rfl
  | exclusive label s rest _ _ _ _ ih => exact ih rfl
  | listing | working | settling | opening => cases hp

/-- A turn comes to a shutdown under way only if the step is in the middle of it. -/
theorem Descends.shutdown (h : Descends t w p w₁ q) (hq : q.shutdown? = some (l, q)) :
    w₁ = w ∧ p.shutdown? = some (l, q) := by
  induction h with
  | here w p => exact ⟨rfl, hq⟩
  | listing past rest _ ih => exact ih hq
  | working l n _ _ ih => exact ih hq
  | settling past s rest _ h _ | steps s rest h _ | exclusive label s rest _ _ _ h _
  | opening l s rest a _ _ h _ =>
    obtain ⟨s', rfl⟩ := h.of_unstarted
    cases hq

end World

end Leasehold
