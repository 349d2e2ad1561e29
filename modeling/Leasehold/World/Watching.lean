import Leasehold.World.Acquisition

/-!
# The watchers of a lock

* The *renewal loop* ticks every half term, counted from its start.  While the lock is acquired each
  tick renews the lease; the first failure outside a teardown is the loss of the lock.
* The *guard* releases the lease when the lock is cancelled without being lost.
* The *alarm* releases the lease of a lost lock and then takes its fatal action.
* The *probe* only records its start and the cancellation.

Every wait looks at the events in a fixed order, so that of two events at once the first in that
order counts.
-/

namespace Leasehold.World

/-- How late a tick may be without moving the later ones. -/
def tickTolerance : Span := .ofMillis 5

/-- The tick after one that was due at `tick` and is taken now: a period later, counted from now if
the tick is late. -/
def nextTick (w : World) (tick period : Span) : Span :=
  if tick + tickTolerance < w.now then w.now + period else tick + period

/-- What a round of the renewal loop has come to. -/
inductive Round
  /-- The loop waits in the middle of the round, or has ended. -/
  | halted (p : Poll Watcher Unit)
  /-- The round is over and the next one begins with the tick at `tick`. -/
  | next (tick : Span)

/-- The renewal loop waits for a tick to come. -/
def holdTick (w : World) (l : LockId) (tick : Span) : World × Poll Watcher Unit :=
  if w.isCancelled l then (w, .done ())
  else
    let (w, k) := w.takeTicket
    let (w, k') := w.takeTicket
    (w, .waiting (.renewalTick tick ⟨tick.ceilMillis, k'⟩ k))

/-- The renewal of a round has ended. -/
def afterRenewal (w : World) (l : LockId) (tick : Span) (r : Reply) : World × Round :=
  match r with
  | .ok _ => (w, .next tick)
  | .error e =>
    if w.isCancelled l then (w, .halted (.done ()))
    else (w.raiseLoss l e.message, .halted (.done ()))

/-- The renewal loop has read the lock's stage. -/
def afterLook (w : World) (t : TaskId) (l : LockId) (tick : Span) (r : Reply) : World × Round :=
  match r with
  | .ok .acquired =>
    match w.visit t l .renew with
    | (w, .waiting e) => (w, .halted (.waiting (.renewalCall tick e)))
    | (w, .done r) => w.afterRenewal l tick r
  | .ok .idle => (w, .next tick)
  | _ => (w, .halted (.done ()))

/-- The renewal loop takes the tick that was due at `tick`. -/
def takeTick (w : World) (t : TaskId) (l : LockId) (tick period : Span) : World × Round :=
  let next := w.nextTick tick period
  match w.visit t l .observe with
  | (w, .waiting e) => (w, .halted (.waiting (.renewalLook next e)))
  | (w, .done r) => w.afterLook t l next r

/-- Ends a round.  A tick that is due by now is taken at once; the one after it lies ahead. -/
def endRound (w : World) (t : TaskId) (l : LockId) (period : Span) : Round →
    World × Poll Watcher Unit
  | .halted p => (w, p)
  | .next tick =>
    if w.isCancelled l then (w, .done ())
    else if tick.ceilMillis ≤ w.clock then
      match w.takeTick t l tick period with
      | (w, .halted p) => (w, p)
      | (w, .next later) => w.holdTick l later
    else w.holdTick l tick

/-- The guard begins its release. -/
def startGuardRelease (w : World) (t : TaskId) (l : LockId) (grace : Span) :
    World × Poll Watcher Unit :=
  match w.visit t l (.release grace) with
  | (w, .waiting e) => (w, .waiting (.guardRelease e))
  | (w, .done _) => (w, .done ())

/-- The guard looks at the loss and then at the cancellation. -/
def lookGuard (w : World) (t : TaskId) (l : LockId) (grace : Span) (k k' : Nat) :
    World × Poll Watcher Unit :=
  if (w.lossOf l).isSome then (w, .done ())
  else if w.isCancelled l then w.startGuardRelease t l grace
  else (w, .waiting (.guardWait grace k k'))

/-- The fatal action on a lost lock. -/
def actOnLoss (w : World) (action : FatalAction) (loss : Loss) : World :=
  match action with
  | .exit => { w with exited := some Behavior.lostExitStatus }
  | .record =>
    w.note ("fatal " ++ loss.name ++ " " ++ loss.id.text ++ " after " ++
      toString (w.store.callsOf .release) ++ " releases: " ++ loss.reason)

/-- The alarm begins its release. -/
def startAlarmRelease (w : World) (t : TaskId) (l : LockId) (grace : Span) (action : FatalAction)
    (loss : Loss) : World × Poll Watcher Unit :=
  match w.visit t l (.release grace) with
  | (w, .waiting e) => (w, .waiting (.alarmRelease action loss e))
  | (w, .done _) => (w.actOnLoss action loss, .done ())

/-- The alarm looks at the loss and then at the cancellation. -/
def lookAlarm (w : World) (t : TaskId) (l : LockId) (grace : Span) (action : FatalAction)
    (k k' : Nat) : World × Poll Watcher Unit :=
  match w.lossOf l with
  | some loss => w.startAlarmRelease t l grace action loss
  | none =>
    if w.isCancelled l then (w, .done ()) else (w, .waiting (.alarmWait grace action k k'))

/-- The probe looks at the cancellation. -/
def lookProbe (w : World) (l : LockId) (tag : String) (k : Nat) : World × Poll Watcher Unit :=
  if w.isCancelled l then (w.note ("stop " ++ tag), .done ()) else (w, .waiting (.probeWait tag k))

/-- Gives a watcher its turn. -/
def resumeWatcher (w : World) (t : TaskId) (l : LockId) (watcher : Watcher) :
    World × Poll Watcher Unit :=
  match w.locks[l]? with
  | none => (w, .done ())
  | some lock =>
    let period := lock.term.renewalPeriod
    match watcher with
    | .renewalStart => w.holdTick l (w.now + period)
    | .renewalTick tick timer k =>
      if w.isCancelled l then (w, .done ())
      else if w.hasFired timer then
        let (w, round) := w.takeTick t l tick period
        w.endRound t l period round
      else (w, .waiting (.renewalTick tick timer k))
    | .renewalLook tick e =>
      match w.resumeEntry t l e with
      | (w, .waiting e) => (w, .waiting (.renewalLook tick e))
      | (w, .done r) =>
        let (w, round) := w.afterLook t l tick r
        w.endRound t l period round
    | .renewalCall tick e =>
      match w.resumeEntry t l e with
      | (w, .waiting e) => (w, .waiting (.renewalCall tick e))
      | (w, .done r) =>
        let (w, round) := w.afterRenewal l tick r
        w.endRound t l period round
    | .guardStart grace =>
      let (w, k) := w.takeTicket
      let (w, k') := w.takeTicket
      w.lookGuard t l grace k k'
    | .guardWait grace k k' => w.lookGuard t l grace k k'
    | .guardRelease e =>
      match w.resumeEntry t l e with
      | (w, .waiting e) => (w, .waiting (.guardRelease e))
      | (w, .done _) => (w, .done ())
    | .alarmStart grace action =>
      let (w, k) := w.takeTicket
      let (w, k') := w.takeTicket
      w.lookAlarm t l grace action k k'
    | .alarmWait grace action k k' => w.lookAlarm t l grace action k k'
    | .alarmRelease action loss e =>
      match w.resumeEntry t l e with
      | (w, .waiting e) => (w, .waiting (.alarmRelease action loss e))
      | (w, .done _) => (w.actOnLoss action loss, .done ())
    | .probeStart tag =>
      let (w, k) := (w.note ("start " ++ tag)).takeTicket
      w.lookProbe l tag k
    | .probeWait tag k => w.lookProbe l tag k

end Leasehold.World
