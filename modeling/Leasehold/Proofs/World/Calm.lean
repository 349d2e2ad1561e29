import Mathlib.Data.List.Nodup
import Mathlib.Tactic.Common
import Leasehold.Proofs.Lease.Faults
import Leasehold.Proofs.World.Reachable

/-!
# Worlds in which every call is answered at once

A world is `Calm` if no call is planned to take time or to fail, nobody is at a critical section and
nobody has stood back for others.  What the parts of a turn come to can then be said in one line.

* `wakeAll_eq`: who is woken, exactly.
* `World.called`, `issue_eq`: a call is sent and answered.
* `World.visitAtOnce`, `visit_eq`: a visit to a critical section.
* `cancelParent_eq`: the end of a parent scope.
-/

namespace Leasehold

namespace Store

variable {s s' : Store} {now : Span} {o : ObjectPath} {r : Request}

theorem slot?_setLease_congr (h : s.slot? o = s'.slot? o) (l : Option Lease) :
    (s.setLease o l).slot? o = (s'.setLease o l).slot? o := by
  rw [slot?_setLease, slot?_setLease, h]

theorem slot?_createObject_congr (h : s.slot? o = s'.slot? o) :
    ({ s with objects := s.objects ++ [(o, none)] } : Store).slot? o =
      ({ s' with objects := s'.objects ++ [(o, none)] } : Store).slot? o := by
  unfold slot? at h ⊢
  rw [List.lookup_append, List.lookup_append, h]

/-- What a call about an object does and answers depends on the record of the object only, but for
the container that a new object needs. -/
theorem perform_congr (hr : r.object? = some o) (hs : s.slot? o = s'.slot? o)
    (hc : r = .createObject o →
      s.containers.contains o.container = s'.containers.contains o.container) :
    (s.perform now r).2 = (s'.perform now r).2 ∧
      (s.perform now r).1.slot? o = (s'.perform now r).1.slot? o := by
  cases r with
  | createContainer c => cases hr
  | createObject o' =>
    cases hr
    unfold perform
    dsimp only
    rw [hc rfl, hs]
    split
    · split
      · exact ⟨rfl, hs⟩
      · exact ⟨rfl, hs⟩
      · exact ⟨rfl, slot?_createObject_congr hs⟩
    · exact ⟨rfl, hs⟩
  | acquire o' id secs =>
    cases hr
    unfold perform
    dsimp only
    rw [hs]
    split
    · exact ⟨rfl, hs⟩
    · exact ⟨rfl, slot?_setLease_congr hs _⟩
    · split
      · exact ⟨rfl, hs⟩
      · exact ⟨rfl, slot?_setLease_congr hs _⟩
  | renew o' id | release o' id =>
    cases hr
    unfold perform
    dsimp only
    rw [hs]
    split
    · exact ⟨rfl, hs⟩
    · exact ⟨rfl, hs⟩
    · split
      · exact ⟨rfl, slot?_setLease_congr hs _⟩
      · exact ⟨rfl, hs⟩

end Store

namespace World

variable {w : World} {t : TaskId} {l : LockId} {k : Lock}

/-- Every call is answered at once, and nobody is in the middle of a visit. -/
structure Calm (w : World) : Prop where
  prompt : w.Prompt
  faultless : w.store.faults = .const 0
  unyielding : w.yielded = []
  nodup : w.ready.Nodup
  bounded : ∀ t ∈ w.ready, t < w.tasks.length

theorem calm_start : start.Calm where
  prompt := ⟨rfl, by intro k hk; cases hk⟩
  faultless := rfl
  unyielding := rfl
  nodup := .nil
  bounded := by intro t ht; cases ht

/-! ### Who is woken -/

/-- The task waits for one of some events. -/
def Heeds (w : World) (concerns : Wait → Bool) (t : TaskId) : Prop :=
  ∃ task, w.tasks[t]? = some task ∧
    ∃ x ∈ task.activity.waits w.watchersOf, concerns x.1 = true

theorem ticketFor?_isSome_iff {concerns : Wait → Bool} {task : Task} :
    (w.ticketFor? concerns task).isSome ↔
      ∃ x ∈ task.activity.waits w.watchersOf, concerns x.1 = true := by
  constructor
  · intro h
    by_contra hn
    have hnil : ((task.activity.waits w.watchersOf).filter fun x => concerns x.1) = [] :=
      List.filter_eq_nil_iff.2 fun x hx hc => hn ⟨x, hx, hc⟩
    rw [ticketFor?, hnil] at h
    cases h
  · rintro ⟨x, hx, hc⟩
    exact ticketFor?_isSome w hx hc

theorem exists_concerned_iff {concerns : Wait → Bool} :
    (∃ x ∈ w.concerned concerns, x.2 = t) ↔ w.Heeds concerns t := by
  unfold concerned Heeds
  constructor
  · rintro ⟨x, hx, rfl⟩
    obtain ⟨⟨task, t⟩, hm, hk⟩ := List.mem_filterMap.1 (List.mem_mergeSort.1 hx)
    obtain ⟨k, hk', rfl⟩ := Option.map_eq_some_iff.1 hk
    exact ⟨task, List.mk_mem_zipIdx_iff_getElem?.1 hm,
      ticketFor?_isSome_iff.1 (Option.isSome_iff_exists.2 ⟨k, hk'⟩)⟩
  · rintro ⟨task, ht, hx⟩
    obtain ⟨k, hk⟩ := Option.isSome_iff_exists.1 (ticketFor?_isSome_iff.2 hx)
    refine ⟨(k, t), List.mem_mergeSort.2 (List.mem_filterMap.2 ⟨(task, t), ?_, ?_⟩), rfl⟩
    · exact List.mk_mem_zipIdx_iff_getElem?.2 ht
    · dsimp only
      rw [hk]
      rfl

theorem nodup_concat_of_not_mem {α : Type} {xs : List α} {x : α} (hxs : xs.Nodup) (hx : x ∉ xs) :
    (xs ++ [x]).Nodup := by
  rw [← List.concat_eq_append]
  exact hxs.concat hx

/-- Waking is a change of the ready list if nobody has stood back. -/
theorem wake_eq (hy : w.yielded = []) (t : TaskId) :
    ∃ r, w.wake t = { w with ready := r } ∧ (w.ready.Nodup → r.Nodup) ∧
      ∀ t', t' ∈ r ↔ t' ∈ w.ready ∨ t' = t := by
  unfold wake
  split
  · next ht =>
    have ht : t ∈ w.ready := List.contains_iff_mem.1 ht
    refine ⟨w.ready, rfl, id, fun t' => ⟨.inl, ?_⟩⟩
    rintro (ht' | rfl)
    · exact ht'
    · exact ht
  · next ht =>
    refine ⟨w.ready ++ [t], by rw [hy, List.erase_nil, ← hy], fun h => ?_, fun t' => ?_⟩
    · exact nodup_concat_of_not_mem h fun ht' => ht (List.contains_iff_mem.2 ht')
    · rw [List.mem_append, List.mem_singleton]

theorem Calm.wake (h : w.Calm) {task : Task} (ht : w.tasks[t]? = some task) :
    (w.wake t).Calm ∧ ∃ r, w.wake t = { w with ready := r } ∧
      ∀ t', t' ∈ r ↔ t' ∈ w.ready ∨ t' = t := by
  obtain ⟨r, hr, hn, hm⟩ := wake_eq h.unyielding t
  refine ⟨?_, r, hr, hm⟩
  rw [hr]
  refine { h with nodup := hn h.nodup, bounded := fun t' ht' => ?_ }
  rcases (hm t').1 ht' with ht' | rfl
  · exact h.bounded t' ht'
  · exact (List.getElem?_eq_some_iff.1 ht).1

theorem foldl_wake_eq (xs : List (Nat × TaskId)) (hy : w.yielded = []) :
    ∃ r, xs.foldl (fun w x => w.wake x.2) w = { w with ready := r } ∧
      (w.ready.Nodup → r.Nodup) ∧ ∀ t, t ∈ r ↔ t ∈ w.ready ∨ ∃ x ∈ xs, x.2 = t := by
  induction xs generalizing w with
  | nil => exact ⟨w.ready, rfl, id, by simp⟩
  | cons x xs ih =>
    obtain ⟨r, hr, hn, hm⟩ := wake_eq hy x.2
    rw [List.foldl_cons, hr]
    obtain ⟨r', hr', hn', hm'⟩ := ih (w := { w with ready := r }) hy
    refine ⟨r', hr', fun h => hn' (hn h), fun t => ?_⟩
    rw [hm', hm, or_assoc, List.exists_mem_cons_iff, eq_comm (a := t)]

/-- Waking those whom an event concerns changes the ready list only. -/
theorem wakeAll_eq (hy : w.yielded = []) (concerns : Wait → Bool) :
    ∃ r, w.wakeAll concerns = { w with ready := r } ∧ (w.ready.Nodup → r.Nodup) ∧
      ∀ t, t ∈ r ↔ t ∈ w.ready ∨ w.Heeds concerns t := by
  obtain ⟨r, hr, hn, hm⟩ := foldl_wake_eq (w.concerned concerns) hy
  exact ⟨r, hr, hn, fun t => by rw [hm, exists_concerned_iff]⟩

theorem draws_wakeAll (hy : w.yielded = []) (concerns : Wait → Bool) :
    (w.wakeAll concerns).draws = w.draws := by
  obtain ⟨r, hr, -⟩ := wakeAll_eq hy concerns
  rw [hr]

theorem Calm.wakeAll (h : w.Calm) (concerns : Wait → Bool) : (w.wakeAll concerns).Calm := by
  obtain ⟨r, hr, hn, hm⟩ := wakeAll_eq h.unyielding concerns
  rw [hr]
  refine { h with nodup := hn h.nodup, bounded := fun t ht => ?_ }
  rcases (hm t).1 ht with ht | ⟨task, ht, -⟩
  · exact h.bounded t ht
  · exact (List.getElem?_eq_some_iff.1 ht).1

theorem draws_abortTask (w : World) (t : TaskId) : (w.abortTask t).draws = w.draws := by
  unfold abortTask wake
  repeat' split
  all_goals rfl

/-! ### Changes of a lock -/

/-- A change of a lock that keeps its watchers. -/
theorem watchersOf_updateLock (w : World) (l : LockId) {f : Lock → Lock}
    (hf : ∀ k, (f k).watchers = k.watchers) : (w.updateLock l f).watchersOf = w.watchersOf := by
  funext m
  unfold watchersOf
  rw [getElem?_updateLock]
  by_cases hm : l = m
  · rw [if_pos hm]
    cases w.locks[m]? with
    | none => rfl
    | some k => exact hf k
  · rw [if_neg hm]

theorem Calm.updateLock (h : w.Calm) {f : Lock → Lock} (hf : ∀ k, (f k).queue = k.queue) :
    (w.updateLock l f).Calm :=
  { h with prompt := h.prompt.updateLock hf }

theorem Calm.queue (h : w.Calm) (hk : w.locks[l]? = some k) : k.queue = [] :=
  h.prompt.2 k (List.mem_of_getElem? hk)

theorem Calm.cancelScope (h : w.Calm) (l : LockId) : (w.cancelScope l).Calm := by
  unfold World.cancelScope
  split
  · exact h
  · exact (h.updateLock (f := fun k => { k with cancelled := true }) fun _ => rfl).wakeAll _

theorem Calm.spawn (h : w.Calm) (a : Activity) : (w.spawn a).1.Calm := by
  refine { h with nodup := ?_, bounded := fun t ht => ?_ }
  · exact nodup_concat_of_not_mem h.nodup fun ht => Nat.lt_irrefl _ (h.bounded _ ht)
  · change t ∈ w.ready ++ [w.tasks.length] at ht
    show t < (w.tasks ++ [_]).length
    rw [List.length_append, List.length_singleton]
    rcases List.mem_append.1 ht with ht | ht
    · exact Nat.lt_succ_of_lt (h.bounded t ht)
    · rw [List.mem_singleton.1 ht]
      exact Nat.lt_succ_self _

theorem Calm.found (h : w.Calm) {k : Lock} (hk : k.queue = []) :
    Calm { w with locks := w.locks ++ [k] } := by
  refine { h with prompt := ⟨h.prompt.1, fun k' hk' => ?_⟩ }
  rcases List.mem_append.1 hk' with hk' | hk'
  · exact h.prompt.2 k' hk'
  · rw [List.mem_singleton.1 hk']
    exact hk

theorem Calm.modifyTask (h : w.Calm) (f : Task → Task) :
    Calm { w with tasks := w.tasks.modify t f } :=
  { h with
    bounded := fun t ht => Nat.lt_of_lt_of_eq (h.bounded t ht) (List.length_modify _ _ _).symm }

theorem Calm.dismiss (h : w.Calm) (t : TaskId) : (w.dismiss t).Calm := by
  refine { h with
    unyielding := ?_
    nodup := h.nodup.erase t
    bounded := fun t' ht' => h.bounded t' (List.mem_of_mem_erase ht') }
  show w.yielded.erase t = []
  rw [h.unyielding]
  rfl

/-! ### Calls -/

/-- A call has been sent and answered by the store. -/
def called (w : World) (r : Request) : World :=
  { w with
    store := (w.store.serve w.now r).1
    log := w.log ++ [⟨w.now, r, some (w.store.serve w.now r).2⟩] }

/-- A call without a plan of its own is answered at once. -/
theorem issue_of_takePlan {r : Request} (hp : w.takePlan r.operation = (w, .immediate)) :
    w.issue r = (w.called r, .done (w.store.serve w.now r).2) := by
  have hlog := modify_concat_length w.log ⟨w.now, r, none⟩ fun rec =>
    { rec with answer := some (w.store.serve w.now r).2 }
  unfold called
  rw [issue_eq_arrive hp, arrive_immediate, ← hlog]
  rfl

theorem issue_eq (hp : w.plans = []) (r : Request) :
    w.issue r = (w.called r, .done (w.store.serve w.now r).2) :=
  issue_of_takePlan (plans_takePlan _ hp)

theorem Calm.called (h : w.Calm) (r : Request) : (w.called r).Calm := by
  refine { h with faultless := ?_ }
  show (w.store.serve w.now r).1.faults = _
  rw [Store.serve_eq h.faultless, Store.faults_perform]
  exact h.faultless

/-! ### Visits -/

/-- A visit to the critical section of a lock that takes no time: what it does to the world, and
its reply. -/
def visitAtOnce (w : World) (l : LockId) (k : Lock) (errand : Errand) : World × Reply :=
  match errand.leaseCall? with
  | none => (w, .ok k.stage)
  | some call =>
    match k.refusal call with
    | some e => (w, .error e)
    | none =>
      let w := w.setStage l call.during
      let a := (w.store.serve w.now (k.request call)).2
      ((w.called (k.request call)).concluded l call a, k.replyTo call a)

/-- The tasks at the critical section of a lock. -/
def withQueue (w : World) (l : LockId) (q : List TaskId) : World :=
  w.updateLock l fun k => { k with queue := q }

theorem withQueue_self (hk : w.locks[l]? = some k) : w.withQueue l k.queue = w :=
  updateLock_eq_self w fun k' hk' => by
    rw [hk] at hk'
    cases hk'
    rfl

theorem withQueue_withQueue (q q' : List TaskId) :
    (w.withQueue l q).withQueue l q' = w.withQueue l q' :=
  updateLock_updateLock w l _ _

/-- Who is woken does not depend on who is at a critical section. -/
theorem wakeAll_withQueue (q : List TaskId) (concerns : Wait → Bool) :
    (w.withQueue l q).wakeAll concerns = (w.wakeAll concerns).withQueue l q := by
  have hws : (w.withQueue l q).watchersOf = w.watchersOf := watchersOf_updateLock w l fun _ => rfl
  have hfold (xs : List (Nat × TaskId)) (w : World) :
      xs.foldl (fun w x => w.wake x.2) (w.withQueue l q) =
        (xs.foldl (fun w x => w.wake x.2) w).withQueue l q := by
    induction xs generalizing w with
    | nil => rfl
    | cons x xs ih =>
      have hx : (w.withQueue l q).wake x.2 = (w.wake x.2).withQueue l q := by
        unfold wake
        split <;> rename_i h
        · rw [if_pos (by exact h)]
        · rw [if_neg (by exact h)]
          rfl
      rw [List.foldl_cons, hx, ih]
      rfl
  have hc : (w.withQueue l q).concerned concerns = w.concerned concerns := by
    unfold concerned ticketFor?
    rw [hws]
    rfl
  unfold wakeAll
  rw [hc, hfold]

theorem cancelScope_withQueue (q : List TaskId) :
    (w.withQueue l q).cancelScope l = (w.cancelScope l).withQueue l q := by
  have hc : (w.withQueue l q).isCancelled l = w.isCancelled l := by
    unfold isCancelled
    rw [withQueue, getElem?_updateLock, if_pos rfl]
    cases w.locks[l]? <;> rfl
  have hu : (w.withQueue l q).updateLock l (fun k => { k with cancelled := true }) =
      (w.updateLock l fun k => { k with cancelled := true }).withQueue l q := by
    unfold withQueue
    rw [updateLock_updateLock, updateLock_updateLock]
  unfold cancelScope
  rw [hc]
  split
  · rfl
  · rw [hu, wakeAll_withQueue]

/-- The only task at a critical section leaves it. -/
theorem leave_withQueue (hk : w.locks[l]? = some k) :
    (w.withQueue l [t]).leave t l = w.withQueue l [] := by
  have hk' : (w.withQueue l [t]).locks[l]? = some { k with queue := [t] } := by
    rw [withQueue, getElem?_updateLock, if_pos rfl, hk]
    rfl
  unfold leave
  rw [hk']
  simp only [List.erase_cons_head, List.head?_cons, List.head?_nil, if_true]
  exact withQueue_withQueue _ _

/-- The only task at a critical section answers and leaves it. -/
theorem reply_withQueue (hk : w.locks[l]? = some k) (hq : k.queue = []) (r : Reply) :
    (w.withQueue l [t]).reply t l r = (w, .done r) := by
  unfold reply
  rw [leave_withQueue hk, ← hq, withQueue_self hk]

theorem setStage_withQueue (s : Stage) (q : List TaskId) :
    (w.withQueue l q).setStage l s = (w.setStage l s).withQueue l q := by
  unfold setStage withQueue
  rw [updateLock_updateLock, updateLock_updateLock]

theorem exists_cancelScope (hk : w.locks[l]? = some k) (m : LockId) :
    ∃ k', (w.cancelScope m).locks[l]? = some k' ∧ k'.queue = k.queue := by
  rw [(quiet_cancelScope w m).locks, getElem?_updateLock, hk]
  split
  · exact ⟨_, rfl, rfl⟩
  · exact ⟨k, rfl, rfl⟩

/-- The only task at a critical section leaves it with the answer to its call. -/
theorem takeAnswer_withQueue (hk : w.locks[l]? = some k) (hq : k.queue = []) (k' : Lock)
    (call : LeaseCall) (a : Answer) : (w.withQueue l [t]).takeAnswer t l k' call a =
      (w.concluded l call a, .done (k'.replyTo call a)) := by
  cases call with
  | acquire =>
    cases a with
    | ok u =>
      have hk' : (w.setStage l .acquired).locks[l]? = some { k with stage := .acquired } := by
        rw [setStage, getElem?_updateLock, if_pos rfl, hk]
        rfl
      unfold takeAnswer concluded
      dsimp only
      rw [setStage_withQueue]
      exact reply_withQueue hk' hq _
    | error e => exact reply_withQueue hk hq _
  | renew => exact reply_withQueue hk hq _
  | release =>
    obtain ⟨k₁, hk₁, hq₁⟩ := exists_cancelScope hk l
    unfold takeAnswer concluded
    dsimp only
    rw [cancelScope_withQueue]
    exact reply_withQueue hk₁ (hq₁.trans hq) _

theorem issue_withQueue (hp : w.plans = []) (q : List TaskId) (r : Request) :
    (w.withQueue l q).issue r =
      ((w.called r).withQueue l q, .done (w.store.serve w.now r).2) :=
  issue_eq (w := w.withQueue l q) hp r

/-- In a calm world a visit is over at once. -/
theorem visit_eq (h : w.Calm) (hk : w.locks[l]? = some k) (t : TaskId) (errand : Errand) :
    w.visit t l errand =
      ((w.visitAtOnce l k errand).1, .done (w.visitAtOnce l k errand).2) := by
  have hq := h.queue hk
  have hin : w.updateLock l (fun k => { k with queue := k.queue ++ [t] }) = w.withQueue l [t] :=
    updateLock_congr w fun k' hk' => by
      rw [hk] at hk'
      cases hk'
      rw [hq]
      rfl
  have hk' : (w.withQueue l [t]).locks[l]? = some { k with queue := [t] } := by
    rw [withQueue, getElem?_updateLock, if_pos rfl, hk]
    rfl
  have hv : w.visit t l errand = (w.withQueue l [t]).enter t l errand := by
    rcases visit_cases (t := t) hk errand with ⟨-, hv⟩ | ⟨hn, -⟩
    · rw [hv, hin]
    · exact absurd hq hn
  have hrefuse (call : LeaseCall) :
      ({ k with queue := [t] } : Lock).refusal call = k.refusal call := by
    cases call <;> rfl
  -- a call that goes out is answered
  have hsends {call y}
      (hs : (w.withQueue l [t]).Sends l { k with queue := [t] } errand call y) :
      y = (((w.setStage l call.during).called (k.request call)).withQueue l [t],
        .done ((w.setStage l call.during).store.serve w.now (k.request call)).2) := by
    have hi := hs.issued
    rw [setStage_withQueue, issue_withQueue (by exact h.prompt.1)] at hi
    exact hi.symm
  have he := letIn_enter (t := t) hk' errand
  rw [hv]
  unfold visitAtOnce
  generalize (w.withQueue l [t]).enter t l errand = y at he ⊢
  cases he with
  | observed he =>
    rw [he]
    exact reply_withQueue hk hq _
  | refused call he hr =>
    rw [hrefuse] at hr
    rw [he]
    dsimp only
    rw [hr]
    exact reply_withQueue hk hq _
  | @answered call _ _ hs =>
    have hr := hs.granted
    rw [hrefuse] at hr
    rw [hs.errand]
    dsimp only
    rw [hr]
    cases hsends hs
    have hk₁ : (w.setStage l call.during).locks[l]? = some { k with stage := call.during } := by
      rw [setStage, getElem?_updateLock, if_pos rfl, hk]
      rfl
    exact takeAnswer_withQueue (w := (w.setStage l call.during).called _) hk₁ hq k call _
  | waiting hs | releasing _ hs | timeout _ hs => cases hsends hs

/-! ### The end of a parent scope -/

/-- Changes of other fields than tasks and watchers do not change what tasks wait for. -/
theorem heeds_congr (w w' : World) (ht : w'.tasks = w.tasks) (hw : w'.watchersOf = w.watchersOf)
    (concerns : Wait → Bool) (t : TaskId) : w'.Heeds concerns t ↔ w.Heeds concerns t := by
  unfold Heeds
  rw [ht, hw]

theorem cancelScope_eq (h : w.Calm) (l : LockId) :
    ∃ r, w.cancelScope l =
        { w.updateLock l fun k => { k with cancelled := true } with ready := r } ∧
      ∀ t, t ∈ r ↔ t ∈ w.ready ∨ w.isCancelled l = false ∧ w.Heeds (· == .scope l) t := by
  unfold cancelScope
  cases hc : w.isCancelled l with
  | true =>
    refine ⟨w.ready, ?_, by simp⟩
    rw [updateLock_eq_self w fun k hk => ?_]
    · rfl
    · rw [isCancelled, hk] at hc
      cases k
      cases hc
      rfl
  | false =>
    let w' := w.updateLock l fun k => { k with cancelled := true }
    have hwatchers : w'.watchersOf = w.watchersOf := watchersOf_updateLock w l fun _ => rfl
    obtain ⟨r, hr, -, hm⟩ := wakeAll_eq (w := w') h.unyielding (· == .scope l)
    refine ⟨r, hr, fun t => ?_⟩
    rw [hm, heeds_congr w w' rfl hwatchers]
    exact or_congr_right (and_iff_right rfl).symm

theorem Calm.heeds_cancelScope (h : w.Calm) (l : LockId) (concerns : Wait → Bool) (t : TaskId) :
    (w.cancelScope l).Heeds concerns t ↔ w.Heeds concerns t := by
  obtain ⟨r, hr, -⟩ := cancelScope_eq h l
  let w' := w.updateLock l fun k => { k with cancelled := true }
  have hwatchers : w'.watchersOf = w.watchersOf := watchersOf_updateLock w l fun _ => rfl
  rw [hr]
  exact heeds_congr w { w' with ready := r } rfl hwatchers concerns t

theorem Calm.heeds_foldl_cancelScope (h : w.Calm) (ls : List LockId) (concerns : Wait → Bool)
    (t : TaskId) : (ls.foldl World.cancelScope w).Heeds concerns t ↔ w.Heeds concerns t := by
  induction ls generalizing w with
  | nil => rfl
  | cons l ls ih => exact (ih (h.cancelScope l)).trans (h.heeds_cancelScope l concerns t)

theorem isCancelled_cancelScope_ne {m : LockId} (hm : m ≠ l) :
    (w.cancelScope l).isCancelled m = w.isCancelled m := by
  unfold isCancelled
  rw [(quiet_cancelScope w l).locks, getElem?_updateLock, if_neg hm.symm]

theorem isCancelled_of_cancelScope {m : LockId} (hc : (w.cancelScope l).isCancelled m = false) :
    w.isCancelled m = false := by
  by_cases hm : m = l
  · subst hm
    by_contra hn
    rw [cancelScope, if_pos (Bool.of_not_eq_false hn)] at hc
    exact hn hc
  · rwa [isCancelled_cancelScope_ne hm] at hc

/-- Whoever waits for one of some locks that was not cancelled can run after their cancellation. -/
theorem mem_ready_foldl_cancelScope (h : w.Calm) (ls : List LockId) (t : TaskId) :
    t ∈ (ls.foldl cancelScope w).ready ↔ t ∈ w.ready ∨
      ∃ m ∈ ls, w.isCancelled m = false ∧ w.Heeds (· == .scope m) t := by
  induction ls generalizing w with
  | nil => simp
  | cons l ls ih =>
    obtain ⟨r, hr, hm⟩ := cancelScope_eq h l
    have hready : t ∈ (w.cancelScope l).ready ↔
        t ∈ w.ready ∨ w.isCancelled l = false ∧ w.Heeds (· == .scope l) t := by
      rw [hr]
      exact hm t
    rw [List.foldl_cons, ih (h.cancelScope l), hready, or_assoc]
    refine or_congr_right ⟨?_, ?_⟩
    · rintro (⟨hc, ht⟩ | ⟨m, hm, hc, ht⟩)
      · exact ⟨l, List.mem_cons_self, hc, ht⟩
      · exact ⟨m, List.mem_cons_of_mem _ hm, isCancelled_of_cancelScope hc,
          (h.heeds_cancelScope l _ t).1 ht⟩
    · rintro ⟨m, hm, hc, ht⟩
      by_cases hl : m = l
      · subst hl
        exact .inl ⟨hc, ht⟩
      · refine .inr ⟨m, (List.mem_cons.1 hm).resolve_left hl, ?_, (h.heeds_cancelScope l _ t).2 ht⟩
        rw [isCancelled_cancelScope_ne hl]
        exact hc

/-- Besides, the cancellation of some locks changes these locks only. -/
theorem foldl_cancelScope_eq (h : w.Calm) (ls : List LockId) :
    (ls.foldl cancelScope w).Calm ∧ ∃ r, ls.foldl cancelScope w =
      { w with
        locks := w.locks.mapIdx fun m k => { k with cancelled := k.cancelled || decide (m ∈ ls) }
        ready := r } := by
  induction ls generalizing w with
  | nil =>
    have hlocks : w.locks = w.locks.mapIdx fun m k =>
        { k with cancelled := k.cancelled || decide (m ∈ ([] : List LockId)) } :=
      List.ext_getElem? fun m => by
        rw [List.getElem?_mapIdx]
        cases w.locks[m]? <;> simp
    exact ⟨h, w.ready, by rw [← hlocks]; rfl⟩
  | cons l ls ih =>
    obtain ⟨r, hr, -⟩ := cancelScope_eq h l
    obtain ⟨hcalm, r', he⟩ := ih (h.cancelScope l)
    refine ⟨hcalm, r', ?_⟩
    have hlocks : ((w.cancelScope l).locks.mapIdx fun m k =>
          { k with cancelled := k.cancelled || decide (m ∈ ls) }) =
        w.locks.mapIdx fun m k =>
          { k with cancelled := k.cancelled || decide (m ∈ l :: ls) } := by
      apply List.ext_getElem?
      intro m
      rw [List.getElem?_mapIdx, List.getElem?_mapIdx, (quiet_cancelScope w l).locks,
        getElem?_updateLock]
      split
      · next hl =>
        subst hl
        simp [Function.comp_def]
      · next hl => simp [Ne.symm hl]
    rw [List.foldl_cons, he, hlocks, hr]
    rfl

/-- The locks under a parent scope. -/
def children (w : World) (p : String) : List LockId :=
  (w.locks.zipIdx.filter fun (lock, _) => lock.parent == p).map (·.2)

theorem mem_children {p : String} {m : LockId} :
    m ∈ w.children p ↔ ∃ k, w.locks[m]? = some k ∧ k.parent = p := by
  unfold children
  simp only [List.mem_map, List.mem_filter, Prod.exists, List.mk_mem_zipIdx_iff_getElem?,
    beq_iff_eq, exists_eq_right]

/-- What wakes a task at the end of a parent scope. -/
def endsWith (w : World) (p : String) : Wait → Bool
  | .scope m => decide (m ∈ w.children p) && !w.isCancelled m
  | .parent q => q == p
  | _ => false

theorem heeds_endsWith {p : String} : w.Heeds (w.endsWith p) t ↔
    (∃ m ∈ w.children p, w.isCancelled m = false ∧ w.Heeds (· == .scope m) t) ∨
      w.Heeds (· == .parent p) t := by
  constructor
  · rintro ⟨task, ht, x, hx, hc⟩
    cases hw : x.1 with
    | scope m =>
      rw [hw, endsWith, Bool.and_eq_true, decide_eq_true_eq, Bool.not_eq_true'] at hc
      exact .inl ⟨m, hc.1, hc.2, task, ht, x, hx, by simp [hw]⟩
    | parent q =>
      rw [hw] at hc
      exact .inr ⟨task, ht, x, hx, by rw [hw]; simpa [endsWith] using hc⟩
    | time | loss | finish =>
      rw [hw] at hc
      cases hc
  · rintro (⟨m, hm, hc, task, ht, x, hx, hw⟩ | ⟨task, ht, x, hx, hw⟩)
    · refine ⟨task, ht, x, hx, ?_⟩
      rw [beq_iff_eq.1 hw, endsWith, hc, decide_eq_true hm]
      rfl
    · refine ⟨task, ht, x, hx, ?_⟩
      rw [beq_iff_eq.1 hw]
      exact beq_self_eq_true p

/-- The end of a parent scope cancels its locks and wakes those who waited for that. -/
theorem cancelParent_eq (h : w.Calm) {p : String} (hp : p ∉ w.cancelledParents) :
    (w.cancelParent p).Calm ∧ ∃ r, w.cancelParent p =
        { w with
          cancelledParents := p :: w.cancelledParents
          locks := w.locks.mapIdx fun m k =>
            { k with cancelled := k.cancelled || decide (m ∈ w.children p) }
          ready := r } ∧
      ∀ t, t ∈ r ↔ t ∈ w.ready ∨ w.Heeds (w.endsWith p) t := by
  let w' : World := { w with cancelledParents := p :: w.cancelledParents }
  have h' : w'.Calm := { h with }
  obtain ⟨hcalm, r, he⟩ := foldl_cancelScope_eq h' (w.children p).reverse
  obtain ⟨r', hr', -, hm⟩ := wakeAll_eq hcalm.unyielding (· == .parent p)
  have hw : w.cancelParent p =
      ((w.children p).reverse.foldl cancelScope w').wakeAll (· == .parent p) := by
    unfold cancelParent
    rw [if_neg (by simpa using hp)]
    rfl
  rw [hw]
  refine ⟨hcalm.wakeAll _, r', ?_, fun t => ?_⟩
  · rw [hr', he]
    simp only [List.mem_reverse]
    rfl
  · rw [hm, mem_ready_foldl_cancelScope h', h'.heeds_foldl_cancelScope, heeds_endsWith, or_assoc]
    simp only [List.mem_reverse]
    rfl

theorem Calm.cancelParent (h : w.Calm) (p : String) :
    (w.cancelParent p).Calm ∧ (w.cancelParent p).draws = w.draws := by
  by_cases hp : p ∈ w.cancelledParents
  · unfold World.cancelParent
    rw [if_pos (by simpa using hp)]
    exact ⟨h, rfl⟩
  · obtain ⟨hcalm, r, hr, -⟩ := cancelParent_eq h hp
    exact ⟨hcalm, by rw [hr]⟩

/-! ### The passage of time -/

theorem Calm.advanceTo (h : w.Calm) (n : Nat) :
    (w.advanceTo n).Calm ∧ (w.advanceTo n).draws = w.draws := by
  have hcalm : Calm { w with clock := n } := { h with }
  exact ⟨hcalm.wakeAll _, draws_wakeAll hcalm.unyielding _⟩

/-! ### Containers -/

/-- In a calm world the call for the container is as good as a success, whether or not the container
was there, and it is there afterwards. -/
theorem Calm.container (h : w.Calm) (name : String) :
    creationResult (w.store.serve w.now (.createContainer name)).2 = .ok () ∧
      (w.called (.createContainer name)).store.containers.contains name = true := by
  show _ ∧ (w.store.serve w.now (.createContainer name)).1.containers.contains name = true
  rw [Store.serve_eq h.faultless]
  unfold Store.perform
  dsimp only
  split
  · next hc => exact ⟨rfl, hc⟩
  · exact ⟨rfl, by simp⟩

end World

end Leasehold
