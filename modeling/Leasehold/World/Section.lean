import Leasehold.World.State

/-!
# The critical section of a lock

All that changes a lock's stage or calls the store in its name happens inside its critical section,
which admits one task at a time in the order of arrival.

* `World.visit` begins a visit: the task queues, or goes in at once.
* `World.enter` is what happens inside: the stage is checked and the call goes out.
* `World.resumeEntry` goes on with a visit after a wait.
* `World.abandonEntry` gives a visit up.

An acquisition and a renewal are interrupted by the cancellation of the lock, a release only by its
own deadline.  Once a release has passed the check the lock is released for good, and its scope is
cancelled whatever the store answers.
-/

namespace Leasehold.World

/-- A task leaves the critical section of a lock, or its queue, and the next one is let in. -/
def leave (w : World) (t : TaskId) (l : LockId) : World :=
  match w.locks[l]? with
  | none => w
  | some lock =>
    let queue := lock.queue.erase t
    let w := w.updateLock l fun lock => { lock with queue := queue }
    if lock.queue.head? = some t then
      match queue.head? with
      | some next => w.wake next
      | none => w
    else w

/-- Leaves the critical section with a reply. -/
def reply (w : World) (t : TaskId) (l : LockId) (r : Reply) : World × Poll Entry Reply :=
  (w.leave t l, .done r)

/-- The error that a failed call means for a lock: a lease in other hands is contention. -/
def failureFor (lock : Lock) : CallFailure → LockFailure
  | .heldByOther => .contended lock.name.text
  | e => .call e

/-- Sets the stage of a lock. -/
def setStage (w : World) (l : LockId) (s : Stage) : World :=
  w.updateLock l fun lock => { lock with stage := s }

/-- The answer to an acquisition has come. -/
def acquired (w : World) (t : TaskId) (l : LockId) (lock : Lock) (a : Answer) :
    World × Poll Entry Reply :=
  match a with
  | .ok () => (w.setStage l .acquired).reply t l (.ok .acquired)
  | .error e => w.reply t l (.error (failureFor lock e))

/-- The answer to a renewal has come. -/
def renewed (w : World) (t : TaskId) (l : LockId) (lock : Lock) (a : Answer) :
    World × Poll Entry Reply :=
  match a with
  | .ok () => w.reply t l (.ok .acquired)
  | .error e => w.reply t l (.error (failureFor lock e))

/-- The answer to a release has come, or its deadline has passed. -/
def released (w : World) (t : TaskId) (l : LockId) (lock : Lock) (a : Answer) :
    World × Poll Entry Reply :=
  match a with
  | .ok () => (w.cancelScope l).reply t l (.ok .released)
  | .error e => (w.cancelScope l).reply t l (.error (failureFor lock e))

/-- Why a lock's stage forbids a renewal or a release. -/
def notHeld : Stage → Option Misuse
  | .idle => some .notAcquired
  | .acquired => none
  | .released => some .released

/-- Why a lock's stage forbids an acquisition. -/
def notFree : Stage → Option Misuse
  | .idle => none
  | .acquired => some .alreadyAcquired
  | .released => some .released

/-- The call of an acquisition has been sent: its answer is here, or it is waited for. -/
def awaitAcquired (t : TaskId) (l : LockId) (lock : Lock) :
    World × Poll Flight Answer → World × Poll Entry Reply
  | (w, .done a) => w.acquired t l lock a
  | (w, .waiting f) =>
    let (w, k) := w.takeTicket
    (w, .waiting (.acquiring f k))

/-- The call of a renewal has been sent: its answer is here, or it is waited for. -/
def awaitRenewed (t : TaskId) (l : LockId) (lock : Lock) :
    World × Poll Flight Answer → World × Poll Entry Reply
  | (w, .done a) => w.renewed t l lock a
  | (w, .waiting f) =>
    let (w, k) := w.takeTicket
    (w, .waiting (.renewing f k))

/-- The call of a release has been sent: its answer is here, or it is waited for until the
deadline. -/
def awaitReleased (t : TaskId) (l : LockId) (lock : Lock) (deadline : Span) :
    World × Poll Flight Answer → World × Poll Entry Reply
  | (w, .done a) => w.released t l lock a
  | (w, .waiting f) =>
    let (w, limit) := w.timer deadline
    if w.hasFired limit then w.released t l lock (.error .timeout)
    else (w, .waiting (.releasing f limit))

/-- The visit of a task that has the critical section for itself. -/
def enter (w : World) (t : TaskId) (l : LockId) (errand : Errand) : World × Poll Entry Reply :=
  match w.locks[l]? with
  | none => (w, .done (.error .cancelled))
  | some lock =>
    match errand with
    | .observe => w.reply t l (.ok lock.stage)
    | .acquire =>
      match notFree lock.stage with
      | some m => w.reply t l (.error (.misuse m))
      | none =>
        if lock.cancelled then w.reply t l (.error .cancelled)
        else awaitAcquired t l lock
          (w.issue (.acquire lock.name.backing lock.id lock.term.wholeSeconds))
    | .renew =>
      match notHeld lock.stage with
      | some m => w.reply t l (.error (.misuse m))
      | none =>
        if lock.cancelled then w.reply t l (.error .cancelled)
        else awaitRenewed t l lock (w.issue (.renew lock.name.backing lock.id))
    | .release deadline =>
      match notHeld lock.stage with
      | some m => w.reply t l (.error (.misuse m))
      | none =>
        awaitReleased t l lock deadline
          ((w.setStage l .released).issue (.release lock.name.backing lock.id))

/-- Begins a visit to the critical section. -/
def visit (w : World) (t : TaskId) (l : LockId) (errand : Errand) : World × Poll Entry Reply :=
  match w.locks[l]? with
  | none => (w, .done (.error .cancelled))
  | some lock =>
    let w := w.updateLock l fun lock => { lock with queue := lock.queue ++ [t] }
    if lock.queue.isEmpty then w.enter t l errand else (w, .waiting (.queued errand))

/-- Whether a task is the one that the critical section admits. -/
def isAdmitted (w : World) (t : TaskId) (l : LockId) : Bool :=
  match w.locks[l]? with
  | some lock => lock.queue.head? == some t
  | none => false

/-- Goes on with a visit after a wait.  A call that has come back counts even if the lock was
cancelled in the meantime. -/
def resumeEntry (w : World) (t : TaskId) (l : LockId) (entry : Entry) : World × Poll Entry Reply :=
  match w.locks[l]? with
  | none => (w, .done (.error .cancelled))
  | some lock =>
    match entry with
    | .queued errand => if w.isAdmitted t l then w.enter t l errand else (w, .waiting entry)
    | .acquiring f k =>
      match w.fly f with
      | (w, .done a) => w.acquired t l lock a
      | (w, .waiting f) =>
        if w.isCancelled l then w.reply t l (.error .cancelled)
        else (w, .waiting (.acquiring f k))
    | .renewing f k =>
      match w.fly f with
      | (w, .done a) => w.renewed t l lock a
      | (w, .waiting f) =>
        if w.isCancelled l then w.reply t l (.error .cancelled)
        else (w, .waiting (.renewing f k))
    | .releasing f limit =>
      match w.fly f with
      | (w, .done a) => w.released t l lock a
      | (w, .waiting f) =>
        if w.hasFired limit then w.released t l lock (.error .timeout)
        else (w, .waiting (.releasing f limit))

/-- Gives a visit up.  A call on its way is never answered. -/
def abandonEntry (w : World) (t : TaskId) (l : LockId) (_ : Entry) : World := w.leave t l

end Leasehold.World
