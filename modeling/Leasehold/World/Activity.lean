import Leasehold.Backoff
import Leasehold.Behavior
import Leasehold.Lease.Store
import Leasehold.Loss

/-!
# What tasks are doing

A task runs until it has to wait.  What it waits in the middle of is a value of one of these types,
one for each kind of activity:

* `Flight`: a call on its way to the store or back;
* `Entry`: a visit to a lock's critical section;
* `Attempt`: an acquisition, with the strategies wrapped around it;
* `Watcher`: a lock's own task;
* `Progress`: a step of a script, itself described by `Step`.

`waits` lists what can wake a task, each with the ticket of its registration: of the tasks that one
event wakes, the first registered runs first.
-/

namespace Leasehold

/-- The number of a task, in order of creation. -/
abbrev TaskId := Nat

/-- The number of a lock, in order of creation. -/
abbrev LockId := Nat

/-- Where a lock is in its life. -/
inductive Stage
  | idle
  | acquired
  | released
  deriving DecidableEq, Repr

/-- The result of a unit of work: it has to wait, or it is done. -/
inductive Poll (α β : Type)
  | waiting (a : α)
  | done (b : β)

namespace Poll

/-- Puts the activity that has to wait into a larger one. -/
def within {α α' β : Type} (f : α → α') : Poll α β → Poll α' β
  | waiting a => waiting (f a)
  | done b => done b

end Poll

/-- A timer: the millisecond at which it fires and its place in the order of registration. -/
structure Timer where
  due : Nat
  ticket : Nat
  deriving DecidableEq, Repr

/-- Something that can wake a task. -/
inductive Wait
  | time (due : Nat)
  | scope (lock : LockId)
  | parent (name : String)
  | loss (lock : LockId)
  | finish (task : TaskId)
  deriving DecidableEq, Repr

/-! ### Calls -/

/-- What the way to the store does to a call: the delay before it arrives, an answer given without
asking the store, the delay of the answer, and what the answer is replaced by on its way back. -/
structure Plan where
  before : Span
  refusal : Option Answer
  after : Span
  replacement : Option Answer

namespace Plan

/-- The call arrives and is answered at once. -/
def immediate : Plan := ⟨.zero, none, .zero, none⟩

end Plan

/-- Where a call is. -/
inductive Leg
  | outbound (timer : Timer) (plan : Plan)
  | inbound (timer : Timer) (answer : Answer)

/-- A call on its way, with the number of its record. -/
structure Flight where
  record : Nat
  request : Request
  leg : Leg

namespace Flight

/-- The timer that a call on its way waits for. -/
def timer (f : Flight) : Timer :=
  match f.leg with
  | .outbound t _ => t
  | .inbound t _ => t

/-- What can wake a task that waits for a call. -/
def waits (f : Flight) : List (Wait × Nat) := [(.time f.timer.due, f.timer.ticket)]

end Flight

/-! ### The critical section -/

/-- What a visit to the critical section is for. -/
inductive Errand
  | acquire
  | renew
  | release (deadline : Span)
  | observe
  deriving DecidableEq, Repr

/-- What a visit to the critical section gives: the stage after it, or an error. -/
abbrev Reply := Except LockFailure Stage

/-- A visit to the critical section: in the queue, or inside with a call on its way. -/
inductive Entry
  | queued (errand : Errand)
  | acquiring (flight : Flight) (ticket : Nat)
  | renewing (flight : Flight) (ticket : Nat)
  | releasing (flight : Flight) (deadline : Timer)

namespace Entry

/-- What can wake a task in the critical section of a lock.  A task in the queue is woken by the
one before it. -/
def waits (l : LockId) : Entry → List (Wait × Nat)
  | queued _ => []
  | acquiring f k | renewing f k => f.waits ++ [(.scope l, k)]
  | releasing f t => f.waits ++ [(.time t.due, t.ticket)]

end Entry

/-! ### Acquisition -/

/-- How a lock is acquired. -/
inductive Strategy
  | direct
  | retry (budget : Span) (inner : Strategy)
  | wrap (tag : String) (refuses : Bool) (inner : Strategy)

/-- An acquisition under way. -/
inductive Attempt
  | entering (entry : Entry)
  | retrying (inner : Strategy) (backoff : Backoff) (attempt : Attempt)
  | pausing (inner : Strategy) (backoff : Backoff) (timer : Timer) (ticket : Nat)
  | wrapping (tag : String) (attempt : Attempt)

namespace Attempt

/-- What can wake a task that acquires a lock. -/
def waits (l : LockId) : Attempt → List (Wait × Nat)
  | entering e => e.waits l
  | retrying _ _ a => a.waits l
  | pausing _ _ t k => [(.time t.due, t.ticket), (.scope l, k)]
  | wrapping _ a => a.waits l

end Attempt

/-! ### Watchers -/

/-- A lock's own task. -/
inductive Watcher
  /-- The renewal loop before its first turn. -/
  | renewalStart
  /-- Waiting for the tick at `tick`. -/
  | renewalTick (tick : Span) (timer : Timer) (ticket : Nat)
  /-- Reading the lock's stage after a tick; the next tick is at `tick`. -/
  | renewalLook (tick : Span) (entry : Entry)
  /-- Renewing the lease; the next tick is at `tick`. -/
  | renewalCall (tick : Span) (entry : Entry)
  /-- The release on cancellation before its first turn. -/
  | guardStart (grace : Span)
  /-- Waiting for the loss or the cancellation of the lock. -/
  | guardWait (grace : Span) (lossTicket scopeTicket : Nat)
  /-- Releasing the lease of a cancelled lock. -/
  | guardRelease (entry : Entry)
  /-- The watcher for a fatal loss before its first turn. -/
  | alarmStart (grace : Span) (action : FatalAction)
  /-- Waiting for the loss or the cancellation of the lock. -/
  | alarmWait (grace : Span) (action : FatalAction) (lossTicket scopeTicket : Nat)
  /-- Releasing the lease of a lost lock. -/
  | alarmRelease (action : FatalAction) (loss : Loss) (entry : Entry)
  /-- A probe before its first turn. -/
  | probeStart (tag : String)
  /-- A probe waiting for the cancellation of the lock. -/
  | probeWait (tag : String) (ticket : Nat)

namespace Watcher

/-- What can wake a watcher of a lock. -/
def waits (l : LockId) : Watcher → List (Wait × Nat)
  | renewalTick _ t k => [(.time t.due, t.ticket), (.scope l, k)]
  | renewalLook _ e | renewalCall _ e | guardRelease e | alarmRelease _ _ e => e.waits l
  | guardWait _ k k' | alarmWait _ _ k k' => [(.loss l, k), (.scope l, k')]
  | probeWait _ k => [(.scope l, k)]
  | renewalStart | guardStart _ | alarmStart _ _ | probeStart _ => []

end Watcher

/-! ### Scripts -/

/-- One record of a call: when it started, what it asked for, and its answer once there is one. -/
structure CallRecord where
  time : Span
  request : Request
  answer : Option Answer

/-- One step of a script.  Locks, tasks and parent scopes go by labels. -/
inductive Step
  /-- Builds a lock with an id of its own. -/
  | create (lock name : String) (term : Span) (behaviors : List Behavior) (parent : String)
      (id : LeaseId)
  | lock (lock : String)
  | renew (lock : String)
  | unlock (lock : String)
  | shutdown (lock : String)
  | drop (lock : String)
  | exclusive (lock : String) (work : List Step)
  | acquireOnce (lock : String)
  | handleRenew (lock : String)
  | handleUnlock (lock : String)
  | unlockWithin (lock : String) (deadline : Span)
  | stage (lock : String)
  | cancel (lock : String)
  | isCancelled (lock : String)
  | isLost (lock : String)
  | loss (lock : String)
  | waitLoss (lock : String) (limit : Span)
  | cancelParent (parent : String)
  /-- A call from outside, straight to the store. -/
  | foreign (request : Request)
  | holder (object : ObjectPath)
  | remaining (object : ObjectPath)
  | revoke (object : ObjectPath)
  | inject (operation : Operation) (count : Nat)
  | calls (operation : Operation)
  | allCalls
  | plan (operation : Operation) (plan : Plan) (times : Nat)
  | callLog (timed : Bool)
  | events (timed : Bool)
  | now
  | nowIn (low high : Nat)
  | callsIn (operation : Operation) (low high : Nat)
  | sleep (length : Span)
  | sleepUntil (instant : Span)
  | pending
  | value (text : String)
  | steps (list : List Step)
  | spawn (task : String) (step : Step)
  | join (task : String)
  | isFinished (task : String)
  | abort (task : String)

/-- What a lock shows of itself when it is built. -/
structure Introduction where
  name : LockName
  object : ObjectPath
  term : Term
  id : LeaseId
  watchers : Nat

namespace Introduction

/-- The lock in one line. -/
def debug (i : Introduction) : String :=
  "Lock \x7b name: " ++ Text.quoted i.name.text ++ ", id: " ++ i.id.text ++ ", ttl: " ++
    i.term.span.text ++ ", .. \x7d"

end Introduction

/-- What a step answers. -/
inductive Outcome
  | nothing
  | flag (b : Bool)
  | number (n : Nat)
  | span (d : Option Span)
  | holder (id : Option LeaseId)
  | result (r : Except LockFailure Unit)
  | answer (a : Answer)
  | created (lock : Introduction)
  | noLock
  | stage (s : Stage)
  | loss (l : Option Loss)
  | received (l : Loss)
  | pending
  | calls (timed : Bool) (log : List CallRecord)
  | events (timed : Bool) (log : List (Span × String))
  | list (outcomes : List Outcome)
  | exclusive (outcome : Outcome)
  | aborted
  | value (text : String)

/-- The input of a lock's construction after its checks. -/
structure Creation where
  label : String
  name : LockName
  term : Term
  behaviors : List Behavior
  parent : String
  id : LeaseId

/-- A step under way. -/
inductive Progress
  /-- A step whose task has not had its first turn. -/
  | unstarted (step : Step)
  /-- Building a lock: the call that creates the container, or then the object. -/
  | provisioning (creation : Creation) (flight : Flight) (ticket : Nat)
  /-- The owner's acquisition. -/
  | acquiring (lock : LockId) (attempt : Attempt)
  /-- A visit to the critical section, by the owner or through a handle. -/
  | visiting (lock : LockId) (owned : Bool) (entry : Entry)
  /-- Reading the stage. -/
  | observing (lock : LockId) (entry : Entry)
  /-- The release of a shutdown. -/
  | closing (lock : LockId) (entry : Entry)
  /-- A shutdown's wait for the watchers. -/
  | joining (lock : LockId) (result : Except LockFailure Unit) (ticket : Nat)
  /-- The acquisition of an exclusive section. -/
  | opening (lock : LockId) (work : List Step) (attempt : Attempt)
  /-- The work of an exclusive section. -/
  | working (lock : LockId) (ticket : Nat) (work : Progress)
  /-- The release of an exclusive section. -/
  | ending (lock : LockId) (outcome : Except Loss Outcome) (entry : Entry)
  | sleeping (timer : Timer)
  /-- Waiting for the loss of a lock, for a limited time. -/
  | listening (lock : LockId) (ticket : Nat) (timer : Timer)
  | awaiting (task : TaskId) (ticket : Nat)
  | forever
  /-- A list of steps in the middle of one. -/
  | listing (past : List Outcome) (current : Progress) (rest : List Step)
  /-- A list of steps between two: it goes on when all other tasks wait. -/
  | settling (past : List Outcome) (rest : List Step)

namespace Progress

/-- What can wake a task in the middle of a step.  A shutdown waits for its lock's watchers, which
are numbered in `watchers`. -/
def waits (watchers : LockId → List TaskId) : Progress → List (Wait × Nat)
  | unstarted _ | forever | settling _ _ => []
  | provisioning c f k => f.waits ++ [(.parent c.parent, k)]
  | acquiring l a | opening l _ a => a.waits l
  | visiting l _ e | observing l e | closing l e | ending l _ e => e.waits l
  | joining l _ k => (watchers l).map fun t => (.finish t, k)
  | working l k p => (.loss l, k) :: waits watchers p
  | sleeping t => [(.time t.due, t.ticket)]
  | listening l k t => [(.loss l, k), (.time t.due, t.ticket)]
  | awaiting t k => [(.finish t, k)]
  | listing _ p _ => waits watchers p

end Progress

/-- What a task is doing. -/
inductive Activity
  /-- It has its turn just now. -/
  | running
  | watching (lock : LockId) (watcher : Watcher)
  | calling (progress : Progress)
  | finished (outcome : Outcome)

namespace Activity

/-- What can wake a task. -/
def waits (watchers : LockId → List TaskId) : Activity → List (Wait × Nat)
  | running | finished _ => []
  | watching l v => v.waits l
  | calling p => p.waits watchers

/-- Whether the task has ended. -/
def isFinished : Activity → Bool
  | finished _ => true
  | _ => false

end Activity

/-- A task, and whether it was told to give up. -/
structure Task where
  activity : Activity
  aborting : Bool

end Leasehold
