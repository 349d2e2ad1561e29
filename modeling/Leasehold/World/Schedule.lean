import Leasehold.World.Script

/-!
# Running a world

* `World.poll` gives one task its turn.
* `World.advance` moves the clock to the next timer.
* `World.turn` is one move of the scheduler: the first task that is ready has its turn; without one,
  the first that has yielded; and only if no task can run does time pass.
* `World.run` makes moves until the first task has ended or the process exits.
-/

namespace Leasehold.World

/-- A task ends with an outcome, and those who wait for it are woken. -/
def finish (w : World) (t : TaskId) (o : Outcome) : World :=
  (w.setActivity t (.finished o)).wakeAll (· == .finish t)

/-- Gives a task its turn, if there is one and it has not ended. -/
def poll (w : World) (t : TaskId) : World :=
  match w.tasks[t]? with
  | none => w
  | some task =>
    let w := { w with ready := w.ready.erase t, yielded := w.yielded.erase t }
    match task.activity with
    | .running | .finished _ => w
    | .watching l watcher =>
      match (w.setActivity t .running).resumeWatcher t l watcher with
      | (w, .waiting v) => w.setActivity t (.watching l v)
      | (w, .done ()) => w.finish t .nothing
    | .calling p =>
      let w := w.setActivity t .running
      if task.aborting then (w.abandonStep t p).finish t .aborted
      else
        match w.resumeStep t p with
        | (w, .waiting p) => w.setActivity t (.calling p)
        | (w, .done o) => w.finish t o

/-- The milliseconds for which tasks wait. -/
def dues (w : World) : List Nat :=
  w.tasks.flatMap fun task => (task.activity.waits w.watchersOf).filterMap fun x =>
    match x.1 with
    | .time due => some due
    | _ => none

/-- The millisecond of the next timer. -/
def nextDue? (w : World) : Option Nat := w.dues.min?

/-- The clock moves to a millisecond, and the tasks whose timers have fired are woken. -/
def advanceTo (w : World) (millis : Nat) : World :=
  { w with clock := millis }.wakeAll fun wait =>
    match wait with
    | .time due => due ≤ millis
    | _ => false

/-- The clock moves to the next timer; it never goes back. -/
def advance (w : World) : World :=
  match w.nextDue? with
  | none => w
  | some due => w.advanceTo (max w.clock due)

/-- One move of the scheduler. -/
def turn (w : World) : World :=
  match w.ready with
  | t :: _ => w.poll t
  | [] =>
    match w.yielded with
    | t :: _ => w.poll t
    | [] => w.advance

/-- The outcome of a task that has ended. -/
def outcome? (w : World) (t : TaskId) : Option Outcome :=
  match w.tasks[t]? with
  | some ⟨.finished o, _⟩ => some o
  | _ => none

/-- How a run came to its end. -/
inductive Ending
  | answered (o : Outcome)
  | exited (status : Nat)
  | unfinished

/-- Moves until the first task has ended or the process exits, at most `fuel` times. -/
def run : Nat → World → Ending
  | 0, _ => .unfinished
  | fuel + 1, w =>
    match w.exited with
    | some status => .exited status
    | none =>
      match w.outcome? 0 with
      | some o => .answered o
      | none => run fuel w.turn

/-- The world in which a script is about to run as the first task. -/
def ofScript (steps : List Step) : World :=
  (start.spawn (.calling (.unstarted (.steps steps)))).1

/-- Runs a script from the start. -/
def runScript (fuel : Nat) (steps : List Step) : Ending := run fuel (ofScript steps)

end Leasehold.World
