import Leasehold.Proofs.Lock.Ledger

/-!
# Nobody is forgotten at a critical section

Whoever leaves a critical section lets the next one in, so between two turns the first task at every
critical section is either about to have its turn or waits for the answer to a call.

* `World.Flowing`: this property.
* `flowing_reachable`: it holds in every reachable world.
-/

namespace Leasehold.World

variable {A : Step → Prop} {D : Deed → Prop} {t t' : TaskId} {w w' w'' : World}
  {c c' : Option Engagement} {l l' : LockId} {E : TaskId → Option Engagement}

/-- The task is the first at the critical section of the lock. -/
def First (w : World) (l : LockId) (t : TaskId) : Prop :=
  ∃ q, w.queues[l]? = some q ∧ q.head? = some t

theorem first_iff : w.First l t ↔ ∃ k, w.locks[l]? = some k ∧ k.queue.head? = some t := by
  unfold First queues
  rw [List.getElem?_map]
  constructor
  · rintro ⟨q, hq, ht⟩
    obtain ⟨k, hk, rfl⟩ := Option.map_eq_some_iff.1 hq
    exact ⟨k, hk, ht⟩
  · rintro ⟨k, hk, ht⟩
    exact ⟨k.queue, by rw [hk]; rfl, ht⟩

theorem first_congr (h : w'.queues = w.queues) : w'.First l t ↔ w.First l t := by
  rw [First, First, h]

/-- A task that has become the first at a critical section can run. -/
def Admits (t : TaskId) (w w' : World) : Prop :=
  ∀ l t', t' ≠ t → w'.First l t' → w.First l t' ∨ w'.Runnable t'

theorem admits_of_queues (h : w'.queues = w.queues) : Admits t w w' :=
  fun _ _ _ hf => .inl ((first_congr h).1 hf)

theorem admits_of_locks (h : w'.locks = w.locks) : Admits t w w' :=
  admits_of_queues (queues_of_locks h)

theorem Admits.trans (h : Admits t w w') (h' : Admits t w' w'')
    (hr : ∀ t, w'.Runnable t → w''.Runnable t) : Admits t w w'' := by
  intro l t' ht hf
  rcases h' l t' ht hf with hf | hn
  · exact (h l t' ht hf).imp_right (hr t')
  · exact .inr hn

/-- A task that leaves a critical section lets the next one in. -/
theorem admits_leave (t : TaskId) : Admits t w (w.leave t l) := by
  intro l' t' ht hf
  obtain ⟨k', hk', hq'⟩ := first_iff.1 hf
  rw [(quiet_leave w t l).locks, getElem?_updateLock] at hk'
  split at hk'
  · next hl =>
    subst hl
    obtain ⟨k, hk, rfl⟩ := Option.map_eq_some_iff.1 hk'
    by_cases hh : k.queue.head? = some t
    · -- the task was inside, and the next one is woken
      refine .inr ?_
      have hq : (k.queue.erase t).head? = some t' := hq'
      unfold leave
      rw [hk]
      dsimp only
      rw [if_pos hh, hq]
      exact runnable_wake_self _ t'
    · refine .inl (first_iff.2 ⟨k, hk, ?_⟩)
      cases hq : k.queue with
      | nil =>
        rw [hq] at hq'
        cases hq'
      | cons a q =>
        rw [hq] at hh hq'
        have ha : a ≠ t := fun ha => hh (congrArg some ha)
        rwa [List.erase_cons_tail (by simpa using ha)] at hq'
  · exact .inl (first_iff.2 ⟨k', hk', hq'⟩)

theorem admits_push (t : TaskId) :
    Admits t w (w.updateLock l fun k => { k with queue := k.queue ++ [t] }) := by
  intro l' t' ht hf
  obtain ⟨k', hk', hq'⟩ := first_iff.1 hf
  rw [getElem?_updateLock] at hk'
  split at hk'
  · obtain ⟨k, hk, rfl⟩ := Option.map_eq_some_iff.1 hk'
    refine .inl (first_iff.2 ⟨k, hk, ?_⟩)
    have hq : (k.queue ++ [t]).head? = some t' := hq'
    cases hk₀ : k.queue with
    | nil =>
      rw [hk₀] at hq
      exact absurd (Option.some.inj hq).symm ht
    | cons a q =>
      rw [hk₀] at hq
      exact hq
  · exact .inl (first_iff.2 ⟨k', hk', hq'⟩)

/-- Every move lets in whoever has become the first. -/
theorem Move.admits (h : Move A D t w c w' c') : Admits t w w' := by
  cases h with
  | quiet h => exact admits_of_locks h.locks
  | own l f g => exact admits_of_queues (queues_updateLock fun _ => rfl)
  | cancel l => exact admits_of_queues queues_cancelScope
  | lose l reason _ _ _ =>
    exact admits_of_queues ((quiet_raiseLoss w l reason).queues.trans
      (queues_updateLock fun _ => rfl))
  | parent | foreign | revoke | inject | plan | spawn | told | forget => exact admits_of_locks rfl
  | build cr _ =>
    intro l t' _ hf
    obtain ⟨s, ws, hl⟩ := (founding_built w cr).locks
    obtain ⟨k, hk, hq⟩ := first_iff.1 hf
    rw [hl] at hk
    rcases getElem?_concat_cases hk with hk | ⟨-, rfl⟩
    · exact .inl (first_iff.2 ⟨k, hk, hq⟩)
    · cases hq
  | enqueue l errand _ => exact admits_push t
  | leave l e _ _ => exact admits_leave t
  | abandon l e _ _ => exact admits_leave t
  | send l k errand call _ _ _ _ _ =>
    exact admits_of_queues ((queues_of_locks (locks_sent _)).trans (queues_setStage _))
  | arrive l call r n p => exact admits_of_locks (locks_settleCall w r p)
  | receive l call r n a =>
    have hq : ((w.answered n a).concluded l call a).queues = w.queues := by
      cases call with
      | acquire =>
        cases a with
        | ok u => exact queues_setStage _
        | error e => rfl
      | renew => rfl
      | release => exact queues_cancelScope
    exact (admits_of_queues hq).trans (admits_leave t) (frame_leave (A := A) t).runnable
  | ask r _ => exact admits_of_locks (locks_sent r)
  | provision r n p => exact admits_of_locks (locks_settleCall w r p)

/-- The engagement of a task that waits for the answer to a lease call of the lock. -/
def Awaits (E : TaskId → Option Engagement) (l : LockId) (t : TaskId) : Prop :=
  ∃ call r n co, E t = some (.calling l call r n co)

/-- The task waits for the answer to a lease call of the lock. -/
def InFlight (w : World) (l : LockId) (t : TaskId) : Prop := Awaits w.engagements l t

/-- The first task at every critical section, unless it is the given one, is about to have its turn
or waits for the answer to a call. -/
def FlowsBut (t : TaskId) (w : World) (E : TaskId → Option Engagement) : Prop :=
  ∀ l t', t' ≠ t → w.First l t' → w.Runnable t' ∨ Awaits E l t'

/-- The first task at every critical section is about to have its turn or waits for the answer to a
call. -/
def Flowing (w : World) : Prop :=
  ∀ l t, w.First l t → w.Runnable t ∨ w.InFlight l t

theorem FlowsBut.move (h : FlowsBut t w E) (hm : Move A D t w (E t) w' c') :
    FlowsBut t w' (Function.update E t c') := by
  intro l t' ht hf
  rcases hm.admits l t' ht hf with hf | hr
  · refine (h l t' ht hf).imp (hm.frame.runnable t') fun ha => ?_
    unfold Awaits
    rw [Function.update_of_ne ht]
    exact ha
  · exact .inl hr

theorem runnable_dismiss (ht : t' ≠ t) (h : w.Runnable t') : (w.dismiss t).Runnable t' :=
  h.imp (List.mem_erase_of_ne ht).2 (List.mem_erase_of_ne ht).2

/-- Whoever is the first at a critical section has come to it. -/
theorem engaged_of_first (hA : w.ledger.Attended w.engagements) (hf : w.First l t) :
    (w.engagements t).bind Engagement.lock? = some l := by
  obtain ⟨k, hk, hh⟩ := first_iff.1 hf
  rw [← hA.mem_iff, Ledger.queue_eq (core?_ledger hk)]
  exact List.mem_of_mem_head? hh

/-- A turn leaves nobody behind. -/
theorem Flowing.turn (h : w.Flowing) {a a' : Activity} (ht : Turn A t w w' a a')
    (hq : (w'.setActivity t a').Quiet w'') (hA : w''.ledger.Attended w''.engagements) :
    w''.Flowing := by
  have h₀ : FlowsBut t (w.atTurn t) (Function.update w.engagements t a.engagement) := by
    intro l t' hne hf
    refine (h l t' hf).imp (runnable_dismiss hne) fun ha => ?_
    unfold Awaits
    rw [Function.update_of_ne hne]
    exact ha
  have h₁ := Moves.keep ht.stretch.moves (J := FlowsBut t) (fun _ _ _ _ hf hm => hf.move hm) h₀
  have hl : w''.locks = w'.locks := hq.locks
  intro l t' hf
  by_cases hne : t' = t
  · -- the task itself is in the middle of a call, for it is not the first one that waits
    subst hne
    obtain ⟨k, hk, hh⟩ := first_iff.1 hf
    have hE := engaged_of_first hA hf
    rw [ht.engagements hq, Function.update_self] at hE
    obtain ⟨e, he, hle⟩ := Option.bind_eq_some_iff.1 hE
    cases e with
    | queued l' errand =>
      cases hle
      have hn := hA.nodup l
      rw [Ledger.queue_eq (core?_ledger hk)] at hn
      exact absurd hh (ht.stretch.behind l errand k he (hl ▸ hk) hn)
    | calling l' call r n co =>
      cases hle
      refine .inr ⟨call, r, n, co, ?_⟩
      rw [ht.engagements hq, Function.update_self]
      exact he
    | provisioning r n co => cases hle
  · rcases h₁ l t' hne ((first_congr (queues_of_locks hl)).1 hf) with hr | ha
    · exact .inl (hq.runnable t' hr)
    · refine .inr ?_
      rw [InFlight, ht.engagements hq]
      exact ha

/-- In every reachable world the first task at every critical section is about to have its turn or
waits for the answer to a call. -/
theorem flowing_reachable (h : Reachable A w) : w.Flowing := by
  induction h with
  | refl =>
    intro l t hf
    obtain ⟨q, hq, -⟩ := hf
    cases hq
  | @tail w w' hr hn ih =>
    have hA : w'.ledger.Attended w'.engagements := attended_reachable (hr.tail hn)
    cases hn with
    | spawn s hs =>
      intro l t hf
      refine (ih l t hf).imp ((frame_spawn hs).runnable t) fun ha => ?_
      rw [InFlight, (frame_spawn hs).engagements]
      exact ha
    | poll t =>
      cases poll_cases (Reachable.tame hr) t with
      | absent _ he => rw [he]; exact ih
      | ended a ha hna he =>
        rw [he]
        intro l t' hf
        by_cases hne : t' = t
        · -- a task that has ended is at no critical section
          subst hne
          have hE := engaged_of_first (attended_reachable hr) hf
          rw [engagements_eq, ha, Option.bind_some, hna] at hE
          cases hE
        · exact (ih l t' hf).imp_left (runnable_dismiss hne)
      | turn w' a a' ht hq => exact ih.turn ht hq hA
    | draw ds => exact ih
    | advance hready hyield =>
      -- time moves only when nobody can run, so whoever is the first waits for an answer
      have hl := later_advance w
      intro l t hf
      rcases ih l t ((first_congr hl.quiet.queues).1 hf) with hr | ha
      · rcases hr with hr | hr
        · rw [hready] at hr
          cases hr
        · rw [hyield] at hr
          cases hr
      · refine .inr ?_
        rw [InFlight, hl.engagements]
        exact ha

/-- Somebody is at the critical section of a lock that a task has come to. -/
theorem exists_first (h : Reachable A w) (hk : w.locks[l]? = some k)
    (he : (w.engagements t).bind Engagement.lock? = some l) : ∃ t', w.First l t' := by
  have hm := ((attended_reachable h).mem_iff t l).2 he
  rw [Ledger.queue_eq (core?_ledger hk)] at hm
  obtain ⟨t', ht'⟩ := Option.isSome_iff_exists.1 (List.isSome_head?.2 (List.ne_nil_of_mem hm))
  exact ⟨t', first_iff.2 ⟨k, hk, ht'⟩⟩

end Leasehold.World
