import Leasehold.Proofs.World.Reachable

/-!
# The passage of time

Time passes only when no task can run, and only up to the next instant that a task waits for.

* `clock_advance_le`: time does not pass over an instant that a task waits for.
* `runnable_advance`: when the instant has come, the task can run.
-/

namespace Leasehold.World

variable {t : TaskId} {w : World}

theorem mem_dues {due n : Nat} {a : Activity} (ha : w.activity? t = some a)
    (hx : (Wait.time due, n) ∈ a.waits w.watchersOf) : due ∈ w.dues := by
  obtain ⟨b, ht⟩ := exists_task ha
  exact List.mem_flatMap.2 ⟨_, List.mem_of_getElem? ht, List.mem_filterMap.2 ⟨_, hx, rfl⟩⟩

/-- Time does not pass over an instant that a task waits for. -/
theorem clock_advance_le {due : Nat} (hd : due ∈ w.dues) (hc : w.clock ≤ due) :
    w.advance.clock ≤ due := by
  unfold advance nextDue?
  cases hm : w.dues.min? with
  | none =>
    rw [List.min?_eq_none_iff.1 hm] at hd
    cases hd
  | some m =>
    have hle : m ≤ due := (List.min?_eq_some_iff.1 hm).2 due hd
    show (w.advanceTo (max w.clock m)).clock ≤ due
    rw [clock_advanceTo]
    exact Nat.max_le.2 ⟨hc, hle⟩

/-- When the instant has come that a task waits for, the task can run. -/
theorem runnable_advance {due n : Nat} {a : Activity} (ha : w.activity? t = some a)
    (hx : (Wait.time due, n) ∈ a.waits w.watchersOf) (hc : due ≤ w.advance.clock) :
    w.advance.Runnable t := by
  obtain ⟨b, ht⟩ := exists_task ha
  have hd := mem_dues ha hx
  unfold advance nextDue? at hc ⊢
  cases hm : w.dues.min? with
  | none =>
    rw [List.min?_eq_none_iff.1 hm] at hd
    cases hd
  | some m =>
    rw [hm] at hc
    change due ≤ (w.advanceTo (max w.clock m)).clock at hc
    rw [clock_advanceTo] at hc
    exact runnable_wakeAll _ ht hx (decide_eq_true hc)

end Leasehold.World
