import Leasehold.World.Activity

/-!
# The world in which locks run

A `World` is the state of one simulation: the clock, the lease store with the plans for coming
calls and the log of past ones, the locks, and the tasks with the order in which they are to run.
This module has the elementary changes; the others compose them.

* `World.wake` puts a task at the end of the ready list.
* `World.wakeAll` wakes every task that an event concerns, the first registered first.
* `World.cancelScope`, `World.cancelParent`, `World.raiseLoss` end locks.
* `World.issue` and `World.fly` send a call on its way and follow it.
-/

namespace Leasehold

/-- One lock instance. -/
structure Lock where
  name : LockName
  term : Term
  id : LeaseId
  parent : String
  stage : Stage
  /-- The tasks at the critical section, the one inside first. -/
  queue : List TaskId
  cancelled : Bool
  lossCell : LossCell
  strategy : Strategy
  watchers : List TaskId
  /-- How many parties still own the lock; the last one to go cancels it. -/
  shares : Nat
  /-- Whether the owner can still hand it out. -/
  listed : Bool

/-- The state of a simulation. -/
structure World where
  /-- The milliseconds since the start. -/
  clock : Nat
  /-- The next ticket of registration. -/
  ticket : Nat
  store : Store
  plans : List (Operation × Plan)
  log : List CallRecord
  journal : List (Span × String)
  cancelledParents : List String
  locks : List Lock
  labels : List (String × LockId)
  tasks : List Task
  taskNames : List (String × TaskId)
  /-- The tasks that can run, first woken first. -/
  ready : List TaskId
  /-- The tasks that let all others run first. -/
  yielded : List TaskId
  draws : List Draw
  exited : Option Nat

namespace World

/-- The world at the start. -/
def start : World where
  clock := 0
  ticket := 0
  store := .empty
  plans := []
  log := []
  journal := []
  cancelledParents := []
  locks := []
  labels := []
  tasks := []
  taskNames := []
  ready := []
  yielded := []
  draws := []
  exited := none

/-- The present instant. -/
def now (w : World) : Span := .ofMillis w.clock

/-! ### Tasks -/

/-- Puts a task at the end of the ready list, unless it is there or has its turn. -/
def wake (w : World) (t : TaskId) : World :=
  if w.ready.contains t then w
  else { w with ready := w.ready ++ [t], yielded := w.yielded.erase t }

/-- The watchers of a lock. -/
def watchersOf (w : World) (l : LockId) : List TaskId :=
  match w.locks[l]? with
  | some lock => lock.watchers
  | none => []

/-- The first ticket with which a task waits for one of some events. -/
def ticketFor? (w : World) (concerns : Wait → Bool) (task : Task) : Option Nat :=
  ((task.activity.waits w.watchersOf).filter fun x => concerns x.1).foldl
    (fun best x => some (match best with
      | none => x.2
      | some k => min k x.2)) none

/-- The tasks that some events concern, with their tickets, in order of registration. -/
def concerned (w : World) (concerns : Wait → Bool) : List (Nat × TaskId) :=
  (w.tasks.zipIdx.filterMap fun (task, t) => (w.ticketFor? concerns task).map fun k => (k, t))
    |>.mergeSort fun a b => a.1 ≤ b.1

/-- Wakes every task that some events concern, the first registered first. -/
def wakeAll (w : World) (concerns : Wait → Bool) : World :=
  (w.concerned concerns).foldl (fun w x => w.wake x.2) w

/-- A new task at the end of the ready list. -/
def spawn (w : World) (a : Activity) : World × TaskId :=
  let t := w.tasks.length
  ({ w with tasks := w.tasks ++ [⟨a, false⟩], ready := w.ready ++ [t] }, t)

/-- Replaces what a task is doing. -/
def setActivity (w : World) (t : TaskId) (a : Activity) : World :=
  { w with tasks := w.tasks.modify t fun task => { task with activity := a } }

/-- A ticket of registration. -/
def takeTicket (w : World) : World × Nat :=
  ({ w with ticket := w.ticket + 1 }, w.ticket)

/-- A timer that fires after a span, at a whole millisecond. -/
def timer (w : World) (d : Span) : World × Timer :=
  let (w', k) := w.takeTicket
  (w', ⟨(w.now + d).ceilMillis, k⟩)

/-- Whether a timer has fired. -/
def hasFired (w : World) (t : Timer) : Bool := t.due ≤ w.clock

/-- The next draw of a random delay. -/
def takeDraw (w : World) : World × Draw :=
  match w.draws with
  | [] => (w, .middle)
  | d :: rest => ({ w with draws := rest }, d)

/-- Writes an event into the journal. -/
def note (w : World) (event : String) : World :=
  { w with journal := w.journal ++ [(w.now, event)] }

/-! ### Locks -/

/-- Changes one lock. -/
def updateLock (w : World) (l : LockId) (f : Lock → Lock) : World :=
  { w with locks := w.locks.modify l f }

/-- Whether a lock's scope is cancelled. -/
def isCancelled (w : World) (l : LockId) : Bool :=
  match w.locks[l]? with
  | some lock => lock.cancelled
  | none => false

/-- The loss of a lock, if it was lost. -/
def lossOf (w : World) (l : LockId) : Option Loss :=
  match w.locks[l]? with
  | some lock => lock.lossCell.loss
  | none => none

/-- Cancels a lock's scope, unless it is cancelled, and wakes those who wait for it. -/
def cancelScope (w : World) (l : LockId) : World :=
  if w.isCancelled l then w
  else (w.updateLock l fun lock => { lock with cancelled := true }).wakeAll (· == .scope l)

/-- Cancels a parent scope: its locks, the latest first, and then those who wait for the parent
itself. -/
def cancelParent (w : World) (p : String) : World :=
  if w.cancelledParents.contains p then w
  else
    let children := (w.locks.zipIdx.filter fun (lock, _) => lock.parent == p).map (·.2)
    let w' := { w with cancelledParents := p :: w.cancelledParents }
    (children.reverse.foldl cancelScope w').wakeAll (· == .parent p)

/-- Raises the loss of a lock, unless it is lost already, and then cancels its scope.  Who wakes by
the cancellation can tell a loss from an ordinary end. -/
def raiseLoss (w : World) (l : LockId) (reason : String) : World :=
  match w.locks[l]? with
  | none => w
  | some lock =>
    let loss : Loss := ⟨lock.name.text, lock.id, reason⟩
    let (lossCell, first) := lock.lossCell.raise loss
    let w' := w.updateLock l fun lock => { lock with lossCell := lossCell }
    let w'' := if first then w'.wakeAll (· == .loss l) else w'
    w''.cancelScope l

/-- One more party owns the lock. -/
def share (w : World) (l : LockId) : World :=
  w.updateLock l fun lock => { lock with shares := lock.shares + 1 }

/-- One party less owns the lock; the last one to go cancels it. -/
def unshare (w : World) (l : LockId) : World :=
  let w' := w.updateLock l fun lock => { lock with shares := lock.shares - 1 }
  match w'.locks[l]? with
  | some lock => if lock.shares = 0 then w'.cancelScope l else w'
  | none => w'

/-- The owner drops a lock; whether it still had it. -/
def dropLock (w : World) (l : LockId) : World × Bool :=
  match w.locks[l]? with
  | some lock =>
    if lock.listed then
      ((w.updateLock l fun lock => { lock with listed := false }).unshare l, true)
    else (w, false)
  | none => (w, false)

/-! ### Calls -/

/-- Takes the plan of the next call of an operation. -/
def takePlan (w : World) (op : Operation) : World × Plan :=
  match w.plans.find? (·.1 == op) with
  | some (_, p) => ({ w with plans := w.plans.eraseP (·.1 == op) }, p)
  | none => (w, .immediate)

/-- Writes the answer of a call into its record. -/
def answered (w : World) (record : Nat) (a : Answer) : World :=
  { w with log := w.log.modify record fun r => { r with answer := some a } }

/-- The store answers a call that has arrived. -/
def serve (w : World) (r : Request) : World × Answer :=
  let (store, a) := w.store.serve w.now r
  ({ w with store := store }, a)

/-- What a call that has arrived is answered: the refusal of its plan, or else by the store. -/
def settleCall (w : World) (r : Request) (p : Plan) : World × Answer :=
  match p.refusal with
  | some a => (w, a)
  | none => w.serve r

/-- A call has arrived, and its answer goes back. -/
def arrive (w : World) (record : Nat) (r : Request) (p : Plan) : World × Poll Flight Answer :=
  let (w, real) := w.settleCall r p
  let a := p.replacement.getD real
  if (w.now + p.after).ceilMillis ≤ w.clock then (w.answered record a, .done a)
  else
    let (w, t) := w.timer p.after
    (w, .waiting ⟨record, r, .inbound t a⟩)

/-- Sends a call on its way. -/
def issue (w : World) (r : Request) : World × Poll Flight Answer :=
  let (w, p) := w.takePlan r.operation
  let record := w.log.length
  let entry : CallRecord := ⟨w.now, r, none⟩
  let w := { w with log := w.log ++ [entry] }
  if (w.now + p.before).ceilMillis ≤ w.clock then w.arrive record r p
  else
    let (w, t) := w.timer p.before
    (w, .waiting ⟨record, r, .outbound t p⟩)

/-- Follows a call on its way. -/
def fly (w : World) (f : Flight) : World × Poll Flight Answer :=
  if w.hasFired f.timer then
    match f.leg with
    | .outbound _ p => w.arrive f.record f.request p
    | .inbound _ a => (w.answered f.record a, .done a)
  else (w, .waiting f)

end World

end Leasehold
