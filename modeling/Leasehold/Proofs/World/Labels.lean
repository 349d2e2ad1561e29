import Leasehold.Proofs.World.Founding

/-!
# Labels

Scripts call locks by labels.  Only the construction of a lock changes what a label means.
-/

namespace Leasehold.World

variable (w : World)

@[simp] theorem labels_wake (t : TaskId) : (w.wake t).labels = w.labels := by
  unfold wake
  split <;> rfl

@[simp] theorem labels_wakeAll (concerns : Wait → Bool) :
    (w.wakeAll concerns).labels = w.labels := by
  unfold wakeAll
  generalize w.concerned concerns = ts
  induction ts generalizing w with
  | nil => rfl
  | cons x ts ih => exact (ih (w.wake x.2)).trans (labels_wake w x.2)

@[simp] theorem labels_cancelScope (l : LockId) : (w.cancelScope l).labels = w.labels := by
  unfold cancelScope
  split
  · rfl
  · exact labels_wakeAll _ _

@[simp] theorem labels_leave (t : TaskId) (l : LockId) : (w.leave t l).labels = w.labels := by
  unfold leave
  split
  · rfl
  · dsimp only
    split
    · split
      · exact labels_wake _ _
      · rfl
    · rfl

@[simp] theorem labels_raiseLoss (l : LockId) (reason : String) :
    (w.raiseLoss l reason).labels = w.labels := by
  unfold raiseLoss
  split
  · rfl
  · dsimp only
    rw [labels_cancelScope]
    split
    · exact labels_wakeAll _ _
    · rfl

@[simp] theorem labels_settleCall (r : Request) (p : Plan) :
    (w.settleCall r p).1.labels = w.labels := by
  unfold settleCall
  split <;> rfl

@[simp] theorem labels_arrive (n : Nat) (r : Request) (p : Plan) :
    (w.arrive n r p).1.labels = w.labels := by
  unfold arrive
  dsimp only
  split <;> exact labels_settleCall w r p

@[simp] theorem labels_issue (r : Request) : (w.issue r).1.labels = w.labels := by
  have hp : (w.takePlan r.operation).1.labels = w.labels := by
    unfold takePlan
    split <;> rfl
  unfold issue
  dsimp only
  split
  · exact (labels_arrive _ _ _ _).trans hp
  · exact hp

@[simp] theorem labels_fly (f : Flight) : (w.fly f).1.labels = w.labels := by
  unfold fly
  split
  · split
    · exact labels_arrive _ _ _ _
    · rfl
  · rfl

@[simp] theorem labels_noteOutcome (tag : String) (r : Reply) :
    (w.noteOutcome tag r).labels = w.labels := by
  cases r <;> rfl

@[simp] theorem labels_unshare (l : LockId) : (w.unshare l).labels = w.labels := by
  unfold unshare
  dsimp only
  split
  · split
    · exact labels_cancelScope _ _
    · rfl
  · rfl

@[simp] theorem labels_dropLock (l : LockId) : (w.dropLock l).1.labels = w.labels := by
  unfold dropLock
  split
  · split
    · exact labels_unshare _ _
    · rfl
  · rfl

@[simp] theorem labels_cancelParent (p : String) : (w.cancelParent p).labels = w.labels := by
  have hfold : ∀ (ls : List LockId) (x : World), (ls.foldl cancelScope x).labels = x.labels := by
    intro ls
    induction ls with
    | nil => exact fun x => rfl
    | cons l ls ih => exact fun x => (ih (x.cancelScope l)).trans (labels_cancelScope x l)
  unfold cancelParent
  split
  · rfl
  · exact (labels_wakeAll _ _).trans (hfold _ _)

@[simp] theorem labels_abortTask (t : TaskId) : (w.abortTask t).labels = w.labels := by
  unfold abortTask
  split
  · split
    · rfl
    · exact labels_wake _ _
  · rfl

@[simp] theorem labels_actOnLoss (action : FatalAction) (loss : Loss) :
    (w.actOnLoss action loss).labels = w.labels := by
  cases action <;> rfl

@[simp] theorem labels_abandonAttempt (t : TaskId) (l : LockId) (a : Attempt) :
    (w.abandonAttempt t l a).labels = w.labels := by
  induction a with
  | entering e => exact labels_leave w t l
  | retrying inner b a ih | wrapping tag a ih => exact ih
  | pausing => rfl

theorem labels_abandonStep (t : TaskId) (p : Progress) :
    (w.abandonStep t p).labels = w.labels := by
  induction p with
  | acquiring | opening => exact (labels_unshare _ _).trans (labels_abandonAttempt _ _ _ _)
  | visiting l owned e =>
    unfold abandonStep
    dsimp only
    split
    · exact (labels_unshare _ _).trans (labels_leave _ _ _)
    · exact labels_leave _ _ _
  | observing => exact labels_leave _ _ _
  | closing | ending => exact (labels_unshare _ _).trans (labels_leave _ _ _)
  | joining => exact labels_unshare _ _
  | working l n p ih => exact (labels_unshare _ _).trans ih
  | listing past p rest ih => exact ih
  | _ => rfl

theorem labels_applyBehavior (l : LockId) (k : Lock) (b : Behavior) :
    (w.applyBehavior l k b).labels = w.labels := by
  cases b <;> rfl

theorem labels_built (cr : Creation) : (w.built cr).labels = w.labels := by
  have hfold : ∀ (bs : List Behavior) (x : World),
      (bs.foldl (fun w' b => w'.applyBehavior w.locks.length (w.newLock cr) b) x).labels =
        x.labels := by
    intro bs
    induction bs with
    | nil => exact fun x => rfl
    | cons b bs ih => exact fun x => (ih _).trans (labels_applyBehavior _ _ _ b)
  exact hfold cr.behaviors _

end Leasehold.World
