import Leasehold.World.Section

/-!
# Acquiring a lock

An acquisition follows the lock's strategy: one visit to the critical section, with layers around
it that repeat it while others hold the lease, or record it.

* `World.startAttempt` begins an acquisition.
* `World.resumeAttempt` goes on with it after a wait.
-/

namespace Leasehold.World

/-- What a recording layer writes after the acquisition inside it. -/
def noteOutcome (w : World) (tag : String) (r : Reply) : World :=
  match r with
  | .ok _ => w.note ("after " ++ tag ++ " ok")
  | .error _ => w.note ("after " ++ tag ++ " failed")

/-- The acquisition inside a retrying layer has ended: its result stands, or it is repeated after
the next delay. -/
def retryAfter (w : World) (l : LockId) (inner : Strategy) (b : Backoff) (r : Reply) :
    World × Poll Attempt Reply :=
  match r with
  | .ok s => (w, .done (.ok s))
  | .error e =>
    if e.isRetryable then
      let (w, draw) := w.takeDraw
      match b.next w.now draw with
      | .ok (some delay, b) =>
        let (w, t) := w.timer delay
        let (w, k) := w.takeTicket
        if w.isCancelled l then (w, .done (.error .cancelled))
        else (w, .waiting (.pausing inner b t k))
      | _ => (w, .done (.error e))
    else (w, .done (.error e))

/-- Begins an acquisition. -/
def startAttempt (w : World) (t : TaskId) (l : LockId) : Strategy → World × Poll Attempt Reply
  | .direct =>
    let (w, p) := w.visit t l .acquire
    (w, p.within .entering)
  | .retry budget inner =>
    let b := (Backoff.withBudget budget w.now).restart w.now
    match w.startAttempt t l inner with
    | (w, .waiting a) => (w, .waiting (.retrying inner b a))
    | (w, .done r) => w.retryAfter l inner b r
  | .wrap tag refuses inner =>
    let w := w.note ("before " ++ tag)
    if refuses then (w.noteOutcome tag (.error .cancelled), .done (.error .cancelled))
    else
      match w.startAttempt t l inner with
      | (w, .waiting a) => (w, .waiting (.wrapping tag a))
      | (w, .done r) => (w.noteOutcome tag r, .done r)

/-- Goes on with an acquisition after a wait. -/
def resumeAttempt (w : World) (t : TaskId) (l : LockId) : Attempt → World × Poll Attempt Reply
  | .entering e =>
    let (w, p) := w.resumeEntry t l e
    (w, p.within .entering)
  | .retrying inner b a =>
    match w.resumeAttempt t l a with
    | (w, .waiting a) => (w, .waiting (.retrying inner b a))
    | (w, .done r) => w.retryAfter l inner b r
  | .pausing inner b timer k =>
    if w.hasFired timer then
      match w.startAttempt t l inner with
      | (w, .waiting a) => (w, .waiting (.retrying inner b a))
      | (w, .done r) => w.retryAfter l inner b r
    else if w.isCancelled l then (w, .done (.error .cancelled))
    else (w, .waiting (.pausing inner b timer k))
  | .wrapping tag a =>
    match w.resumeAttempt t l a with
    | (w, .waiting a) => (w, .waiting (.wrapping tag a))
    | (w, .done r) => (w.noteOutcome tag r, .done r)

/-- Gives an acquisition up. -/
def abandonAttempt (w : World) (t : TaskId) (l : LockId) : Attempt → World
  | .entering e => w.abandonEntry t l e
  | .retrying _ _ a | .wrapping _ a => w.abandonAttempt t l a
  | .pausing .. => w

/-- Begins an acquisition by the lock's own strategy. -/
def startLocking (w : World) (t : TaskId) (l : LockId) : World × Poll Attempt Reply :=
  match w.locks[l]? with
  | some lock => w.startAttempt t l lock.strategy
  | none => (w, .done (.error .cancelled))

end Leasehold.World
