import Leasehold.World.Schedule

/-!
# Changes that no lock and no call can notice

Much of what a turn does only keeps the books of the simulation: it wakes tasks, takes tickets and
draws, and writes the journal.  `World.Quiet w w'` says that `w'` differs from `w` in such things
only: clock, store, plans, calls, locks and the activities of the tasks are the same, and no task
that could run has been forgotten.

* `quiet_wakeAll`, `quiet_timer`, … : the elementary quiet changes.
* `runnable_wakeAll`: a task that an event concerns can run after `World.wakeAll`.
* `quiet_leave`, `quiet_cancelScope`, `quiet_raiseLoss`: up to quiet changes, these change one lock.
-/

namespace Leasehold

/-- The loss of a lock with its cancellation. -/
def Lock.lose (k : Lock) (reason : String) : Lock :=
  { k with lossCell := (k.lossCell.raise ⟨k.name.text, k.id, reason⟩).1, cancelled := true }

/-- Only the first loss of a lock counts. -/
theorem Lock.loss_lose (k : Lock) (reason : String) (loss : Loss)
    (h : k.lossCell.loss = some loss) : (k.lose reason).lossCell.loss = some loss := by
  show (k.lossCell.raise _).1.loss = some loss
  rw [LossCell.raise, h]
  exact h

namespace World

/-- A task can have its turn before time passes. -/
def Runnable (w : World) (t : TaskId) : Prop := t ∈ w.ready ∨ t ∈ w.yielded

/-- Only the books of the simulation differ. -/
structure Quiet (w w' : World) : Prop where
  clock : w'.clock = w.clock
  store : w'.store = w.store
  plans : w'.plans = w.plans
  log : w'.log = w.log
  locks : w'.locks = w.locks
  parents : w'.cancelledParents = w.cancelledParents
  activities : w'.tasks.map (·.activity) = w.tasks.map (·.activity)
  runnable : ∀ t, w.Runnable t → w'.Runnable t

namespace Quiet

theorem refl (w : World) : w.Quiet w := ⟨rfl, rfl, rfl, rfl, rfl, rfl, rfl, fun _ h => h⟩

theorem trans {w w' w'' : World} (h : w.Quiet w') (h' : w'.Quiet w'') : w.Quiet w'' where
  clock := h'.clock.trans h.clock
  store := h'.store.trans h.store
  plans := h'.plans.trans h.plans
  log := h'.log.trans h.log
  locks := h'.locks.trans h.locks
  parents := h'.parents.trans h.parents
  activities := h'.activities.trans h.activities
  runnable t ht := h'.runnable t (h.runnable t ht)

end Quiet

variable (w : World)

/-! ### Waking -/

theorem runnable_wake_self (t : TaskId) : (w.wake t).Runnable t := by
  unfold wake Runnable
  split
  · next h => exact Or.inl (by simpa using h)
  · simp

theorem runnable_wake {t : TaskId} (h : w.Runnable t) (t' : TaskId) : (w.wake t').Runnable t := by
  by_cases htt : t = t'
  · subst htt
    exact runnable_wake_self w t
  · unfold wake Runnable
    split
    · exact h
    · rcases h with h | h
      · exact Or.inl (List.mem_append_left _ h)
      · exact Or.inr ((List.mem_erase_of_ne htt).2 h)

theorem quiet_wake (t : TaskId) : w.Quiet (w.wake t) := by
  refine ⟨?_, ?_, ?_, ?_, ?_, ?_, ?_, fun t' h => runnable_wake w h t⟩ <;>
    (unfold wake; split <;> rfl)

theorem quiet_foldl_wake (l : List (Nat × TaskId)) :
    w.Quiet (l.foldl (fun w x => w.wake x.2) w) := by
  induction l generalizing w with
  | nil => exact .refl w
  | cons x l ih => exact (quiet_wake w x.2).trans (ih (w.wake x.2))

theorem quiet_wakeAll (concerns : Wait → Bool) : w.Quiet (w.wakeAll concerns) :=
  quiet_foldl_wake w _

theorem runnable_foldl_wake {x : Nat × TaskId} {l : List (Nat × TaskId)} (hx : x ∈ l) :
    (l.foldl (fun w x => w.wake x.2) w).Runnable x.2 := by
  induction l generalizing w with
  | nil => cases hx
  | cons y l ih =>
    rcases List.mem_cons.1 hx with rfl | hx
    · exact (quiet_foldl_wake _ l).runnable _ (runnable_wake_self w _)
    · exact ih (w.wake y.2) hx

/-- A minimum over a list that starts with a number is a number. -/
theorem foldl_min_isSome (l : List (Wait × Nat)) (k : Nat) :
    (l.foldl (fun best x => some (match best with
      | none => x.2
      | some k => min k x.2)) (some k)).isSome := by
  induction l generalizing k with
  | nil => rfl
  | cons x l ih => exact ih (min k x.2)

/-- A task has a ticket as soon as it waits for one of the events. -/
theorem ticketFor?_isSome {concerns : Wait → Bool} {task : Task} {x : Wait × Nat}
    (hx : x ∈ task.activity.waits w.watchersOf) (hc : concerns x.1 = true) :
    (w.ticketFor? concerns task).isSome := by
  unfold ticketFor?
  have hmem : x ∈ (task.activity.waits w.watchersOf).filter fun x => concerns x.1 :=
    List.mem_filter.2 ⟨hx, hc⟩
  cases hl : (task.activity.waits w.watchersOf).filter fun x => concerns x.1 with
  | nil => rw [hl] at hmem; cases hmem
  | cons y l => exact foldl_min_isSome l y.2

/-- Every task that an event concerns can run once the event has woken its tasks. -/
theorem runnable_wakeAll {concerns : Wait → Bool} {t : TaskId} {task : Task} {x : Wait × Nat}
    (ht : w.tasks[t]? = some task) (hx : x ∈ task.activity.waits w.watchersOf)
    (hc : concerns x.1 = true) : (w.wakeAll concerns).Runnable t := by
  obtain ⟨k, hk⟩ := Option.isSome_iff_exists.1 (ticketFor?_isSome w hx hc)
  have hmem : (k, t) ∈ w.concerned concerns := by
    unfold concerned
    rw [List.mem_mergeSort, List.mem_filterMap]
    exact ⟨(task, t), List.mk_mem_zipIdx_iff_getElem?.2 ht, by simp [hk]⟩
  exact runnable_foldl_wake w hmem

/-! ### Books -/

theorem quiet_takeTicket : w.Quiet w.takeTicket.1 :=
  ⟨rfl, rfl, rfl, rfl, rfl, rfl, rfl, fun _ h => h⟩

theorem quiet_timer (d : Span) : w.Quiet (w.timer d).1 := quiet_takeTicket w

theorem quiet_takeDraw : w.Quiet w.takeDraw.1 := by
  unfold takeDraw
  split
  · exact .refl w
  · exact ⟨rfl, rfl, rfl, rfl, rfl, rfl, rfl, fun _ h => h⟩

theorem quiet_note (event : String) : w.Quiet (w.note event) :=
  ⟨rfl, rfl, rfl, rfl, rfl, rfl, rfl, fun _ h => h⟩

theorem quiet_noteOutcome (tag : String) (r : Reply) : w.Quiet (w.noteOutcome tag r) := by
  cases r with
  | ok s => exact quiet_note w _
  | error e => exact quiet_note w _

theorem quiet_actOnLoss (action : FatalAction) (loss : Loss) :
    w.Quiet (w.actOnLoss action loss) := by
  cases action with
  | exit => exact ⟨rfl, rfl, rfl, rfl, rfl, rfl, rfl, fun _ h => h⟩
  | record => exact quiet_note w _

theorem quiet_yield (t : TaskId) : w.Quiet { w with yielded := w.yielded ++ [t] } :=
  ⟨rfl, rfl, rfl, rfl, rfl, rfl, rfl, fun _ h => h.imp_right (List.mem_append_left _)⟩

theorem quiet_abortTask (t : TaskId) : w.Quiet (w.abortTask t) := by
  unfold abortTask
  split
  · split
    · exact .refl w
    · refine Quiet.trans ?_ (quiet_wake _ t)
      refine ⟨rfl, rfl, rfl, rfl, rfl, rfl, ?_, fun _ h => h⟩
      apply List.ext_getElem?
      intro i
      rw [List.getElem?_map, List.getElem?_map, List.getElem?_modify]
      cases w.tasks[i]? with
      | none => rfl
      | some task => simp only [Option.map_eq_map, Option.map_some]; split <;> rfl
  · exact .refl w

/-! ### Changes of one lock -/

theorem getElem?_updateLock (l l' : LockId) (f : Lock → Lock) :
    (w.updateLock l f).locks[l']? = if l = l' then w.locks[l']?.map f else w.locks[l']? := by
  show (w.locks.modify l f)[l']? = _
  rw [List.getElem?_modify]
  split <;> simp

theorem updateLock_eq_self {l : LockId} {f : Lock → Lock}
    (h : ∀ k, w.locks[l]? = some k → f k = k) : w.updateLock l f = w := by
  have hl : w.locks.modify l f = w.locks := by
    apply List.ext_getElem?
    intro i
    have := getElem?_updateLock w l i f
    rw [show (w.updateLock l f).locks = w.locks.modify l f from rfl] at this
    rw [this]
    split
    · next hi =>
      subst hi
      cases hk : w.locks[l]? with
      | none => rfl
      | some k => rw [Option.map_some, h k hk]
    · rfl
  rw [updateLock, hl]

theorem updateLock_congr {l : LockId} {f g : Lock → Lock}
    (h : ∀ k, w.locks[l]? = some k → f k = g k) : w.updateLock l f = w.updateLock l g := by
  have hl : w.locks.modify l f = w.locks.modify l g := by
    apply List.ext_getElem?
    intro i
    rw [List.getElem?_modify, List.getElem?_modify]
    by_cases hi : l = i
    · subst hi
      cases hk : w.locks[l]? with
      | none => rfl
      | some k => simp [h k hk]
    · simp [hi]
  rw [updateLock, updateLock, hl]

theorem updateLock_updateLock (l : LockId) (f g : Lock → Lock) :
    (w.updateLock l f).updateLock l g = w.updateLock l fun k => g (f k) := by
  simp only [updateLock, List.modify_modify_eq]
  rfl

theorem setStage_eq_self {l : LockId} {k : Lock} {s : Stage} (hk : w.locks[l]? = some k)
    (hs : k.stage = s) : w.setStage l s = w := by
  refine updateLock_eq_self w fun k' hk' => ?_
  rw [hk] at hk'
  cases hk'
  subst hs
  rfl

/-- A task leaves a critical section or its queue. -/
theorem quiet_leave (t : TaskId) (l : LockId) :
    (w.updateLock l fun k => { k with queue := k.queue.erase t }).Quiet (w.leave t l) := by
  unfold leave
  cases hk : w.locks[l]? with
  | none =>
    rw [updateLock_eq_self w (by simp [hk])]
    exact .refl w
  | some k =>
    have he : (w.updateLock l fun k => { k with queue := k.queue.erase t }) =
        w.updateLock l fun k' => { k' with queue := k.queue.erase t } :=
      updateLock_congr w fun k' hk' => by rw [hk] at hk'; cases hk'; rfl
    rw [he]
    dsimp only
    split
    · split
      · exact quiet_wake _ _
      · exact .refl _
    · exact .refl _

/-- The scope of a lock is cancelled. -/
theorem quiet_cancelScope (l : LockId) :
    (w.updateLock l fun k => { k with cancelled := true }).Quiet (w.cancelScope l) := by
  unfold cancelScope
  split
  · next hc =>
    rw [updateLock_eq_self w fun k hk => ?_]
    · exact .refl w
    · rw [isCancelled, hk] at hc
      cases k
      cases hc
      rfl
  · exact quiet_wakeAll _ _

theorem Quiet.updateLock {w w' : World} (h : w.Quiet w') (l : LockId) (f : Lock → Lock) :
    (w.updateLock l f).Quiet (w'.updateLock l f) :=
  { h with locks := congrArg (fun ks => List.modify ks l f) h.locks }

/-- A lock is lost. -/
theorem quiet_raiseLoss (l : LockId) (reason : String) :
    (w.updateLock l fun k => k.lose reason).Quiet (w.raiseLoss l reason) := by
  unfold raiseLoss
  cases hk : w.locks[l]? with
  | none =>
    rw [updateLock_eq_self w (by simp [hk])]
    exact .refl w
  | some k =>
    let cell := k.lossCell.raise ⟨k.name.text, k.id, reason⟩
    let w' := w.updateLock l fun k' => { k' with lossCell := cell.1 }
    -- the loss wakes its tasks first, so that they can tell it from an ordinary end
    have hw : w'.Quiet (if cell.2 then w'.wakeAll (· == .loss l) else w') := by
      split
      · exact quiet_wakeAll w' _
      · exact .refl w'
    have he : (w'.updateLock l fun k => { k with cancelled := true }) =
        w.updateLock l fun k => k.lose reason := by
      rw [updateLock_updateLock]
      exact updateLock_congr w fun k' hk' => by rw [hk] at hk'; cases hk'; rfl
    exact he ▸ (hw.updateLock l _).trans (quiet_cancelScope _ l)

end World

end Leasehold
