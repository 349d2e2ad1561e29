import Leasehold.World.Construction

/-!
# Scripts

A script is a list of steps that one task takes in order.  After each step it lets every other task
run until all of them wait.

* `World.startStep` begins a step, `World.resumeStep` goes on with it after a wait and
  `World.abandonStep` gives it up in the middle.
* A step on a lock as its owner holds a share of it, so that a dropped lock lives until its last
  operation has ended.
-/

namespace Leasehold.World

/-- The lock of a label. -/
def handle? (w : World) (label : String) : Option LockId := w.labels.lookup label

/-- The lock of a label, while its owner has it. -/
def owned? (w : World) (label : String) : Option LockId :=
  match w.handle? label with
  | none => none
  | some l =>
    match w.locks[l]? with
    | some lock => if lock.listed then some l else none
    | none => none

/-- The result of an operation without its stage. -/
def resultOf (r : Reply) : Except LockFailure Unit :=
  match r with
  | .ok _ => .ok ()
  | .error e => .error e

/-- A visit to the critical section has ended. -/
def afterVisit (w : World) (l : LockId) (owned : Bool) (r : Reply) : World × Outcome :=
  (if owned then w.unshare l else w, .result (resultOf r))

/-- Begins a visit to the critical section on behalf of a step. -/
def startVisit (w : World) (t : TaskId) (l : LockId) (owned : Bool) (errand : Errand) :
    World × Poll Progress Outcome :=
  let w := if owned then w.share l else w
  match w.visit t l errand with
  | (w, .waiting e) => (w, .waiting (.visiting l owned e))
  | (w, .done r) =>
    let (w, o) := w.afterVisit l owned r
    (w, .done o)

/-- What reading the stage answers. -/
def stageOutcome : Reply → Outcome
  | .ok s => .stage s
  | .error e => .result (.error e)

/-- The longest time that a release by the owner takes. -/
def unlockErrand (w : World) (l : LockId) : Errand :=
  match w.locks[l]? with
  | some lock => .release lock.term.span
  | none => .release .zero

/-- Whether every watcher of a lock has ended. -/
def watchersEnded (w : World) (l : LockId) : Bool :=
  (w.watchersOf l).all fun t =>
    match w.tasks[t]? with
    | some task => task.activity.isFinished
    | none => true

/-- A shutdown has ended. -/
def endShutdown (w : World) (l : LockId) (r : Except LockFailure Unit) :
    World × Poll Progress Outcome :=
  (w.unshare l, .done (.result r))

/-- What a shutdown answers after its release: nothing held is as good as released. -/
def shutdownResult (r : Reply) : Except LockFailure Unit :=
  match r with
  | .ok _ | .error (.misuse .notAcquired) | .error (.misuse .released) => .ok ()
  | .error e => .error e

/-- The release of a shutdown has ended: the lock is cancelled and its watchers are waited for. -/
def afterClosing (w : World) (l : LockId) (r : Reply) : World × Poll Progress Outcome :=
  let w := w.cancelScope l
  if w.watchersEnded l then w.endShutdown l (shutdownResult r)
  else
    let (w, k) := w.takeTicket
    (w, .waiting (.joining l (shutdownResult r) k))

/-- The owner's acquisition has ended. -/
def afterAcquiring (w : World) (l : LockId) (r : Reply) : World × Outcome :=
  (w.unshare l, .result (resultOf r))

/-- The release of an exclusive section has ended. -/
def afterEnding (w : World) (l : LockId) (outcome : Except Loss Outcome) (r : Reply) :
    World × Outcome :=
  (w.unshare l,
    match outcome, r with
    | .error loss, _ => .result (.error (.lost loss))
    | .ok o, .ok _ => .exclusive o
    | .ok _, .error e => .result (.error e))

/-- The work of an exclusive section has ended, or the lock was lost: the lock is released. -/
def startEnding (w : World) (t : TaskId) (l : LockId) (outcome : Except Loss Outcome) :
    World × Poll Progress Outcome :=
  match w.visit t l (w.unlockErrand l) with
  | (w, .waiting e) => (w, .waiting (.ending l outcome e))
  | (w, .done r) =>
    let (w, o) := w.afterEnding l outcome r
    (w, .done o)

/-- The work of an exclusive section begins, unless the lock is lost. -/
def startWork (w : World) (t : TaskId) (l : LockId)
    (begin : World → World × Poll Progress Outcome) : World × Poll Progress Outcome :=
  let (w, k) := w.takeTicket
  match w.lossOf l with
  | some loss => w.startEnding t l (.error loss)
  | none =>
    match begin w with
    | (w, .waiting p) => (w, .waiting (.working l k p))
    | (w, .done o) => w.startEnding t l (.ok o)

/-- Waits until an instant. -/
def startSleep (w : World) (d : Span) : World × Poll Progress Outcome :=
  let (w, t) := w.timer d
  if w.hasFired t then (w, .done .nothing) else (w, .waiting (.sleeping t))

/-- What waiting for a loss has come to. -/
def lookLoss (w : World) (l : LockId) (k : Nat) (t : Timer) : World × Poll Progress Outcome :=
  match w.lossOf l with
  | some loss => (w, .done (.received loss))
  | none => if w.hasFired t then (w, .done .pending) else (w, .waiting (.listening l k t))

/-- What waiting for a task has come to. -/
def lookTask (w : World) (target : TaskId) (k : Nat) : World × Poll Progress Outcome :=
  match w.tasks[target]? with
  | some ⟨.finished o, _⟩ => (w, .done o)
  | _ => (w, .waiting (.awaiting target k))

/-- Tells a task to give up. -/
def abortTask (w : World) (t : TaskId) : World :=
  match w.tasks[t]? with
  | some task =>
    if task.activity.isFinished then w
    else ({ w with tasks := w.tasks.modify t fun task => { task with aborting := true } }).wake t
  | none => w

/-- The calls of an operation so far. -/
def callsOf (w : World) (op : Operation) : Nat := w.store.callsOf op

/-- The answer of a step that does not wait. -/
def answer (w : World) (o : Outcome) : World × Poll Progress Outcome := (w, .done o)

/-- The answer of a step on the lock of a label. -/
def onHandle (w : World) (label : String) (f : LockId → World × Poll Progress Outcome) :
    World × Poll Progress Outcome :=
  match w.handle? label with
  | some l => f l
  | none => w.answer .noLock

/-- The answer of a step on the lock of a label, while its owner has it. -/
def onOwned (w : World) (label : String) (f : LockId → World × Poll Progress Outcome) :
    World × Poll Progress Outcome :=
  match w.owned? label with
  | some l => f l
  | none => w.answer .noLock

/-- A list of steps after one of them: it lets all other tasks run first. -/
def settle (w : World) (t : TaskId) (past : List Outcome) (rest : List Step) :
    World × Poll Progress Outcome :=
  ({ w with yielded := w.yielded ++ [t] }, .waiting (.settling past rest))

mutual

/-- Begins a step. -/
def startStep (w : World) (t : TaskId) : Step → World × Poll Progress Outcome
  | .create label name term behaviors parent id =>
    match Term.check term with
    | .error e => w.answer (.result (.error (.setup e)))
    | .ok term =>
      match LockName.parse name with
      | .error e => w.answer (.result (.error (.setup (.badName e))))
      | .ok name => w.provisionContainer ⟨label, name, term, behaviors, parent, id⟩
  | .lock label => w.onOwned label fun l =>
    match (w.share l).startLocking t l with
    | (w, .waiting a) => (w, .waiting (.acquiring l a))
    | (w, .done r) =>
      let (w, o) := w.afterAcquiring l r
      (w, .done o)
  | .renew label => w.onOwned label fun l => w.startVisit t l true .renew
  | .unlock label => w.onOwned label fun l => w.startVisit t l true (w.unlockErrand l)
  | .shutdown label => w.onOwned label fun l =>
    let w := w.updateLock l fun lock => { lock with listed := false }
    match w.visit t l (w.unlockErrand l) with
    | (w, .waiting e) => (w, .waiting (.closing l e))
    | (w, .done r) => w.afterClosing l r
  | .drop label => w.onHandle label fun l =>
    let (w, had) := w.dropLock l
    w.answer (.flag had)
  | .exclusive label work => w.onOwned label fun l =>
    match (w.share l).startLocking t l with
    | (w, .waiting a) => (w, .waiting (.opening l work a))
    | (w, .done (.error e)) =>
      let (w, o) := w.afterAcquiring l (.error e)
      (w, .done o)
    | (w, .done (.ok _)) => w.startWork t l fun w => w.startSteps t work
  | .acquireOnce label => w.onHandle label fun l => w.startVisit t l false .acquire
  | .handleRenew label => w.onHandle label fun l => w.startVisit t l false .renew
  | .handleUnlock label => w.onHandle label fun l => w.startVisit t l false (w.unlockErrand l)
  | .unlockWithin label deadline => w.onHandle label fun l =>
    w.startVisit t l false (.release deadline)
  | .stage label => w.onHandle label fun l =>
    match w.visit t l .observe with
    | (w, .waiting e) => (w, .waiting (.observing l e))
    | (w, .done r) => w.answer (stageOutcome r)
  | .cancel label => w.onHandle label fun l => (w.cancelScope l).answer .nothing
  | .isCancelled label => w.onHandle label fun l => w.answer (.flag (w.isCancelled l))
  | .isLost label => w.onHandle label fun l => w.answer (.flag (w.lossOf l).isSome)
  | .loss label => w.onHandle label fun l => w.answer (.loss (w.lossOf l))
  | .waitLoss label limit => w.onHandle label fun l =>
    let (w, k) := w.takeTicket
    let (w, timer) := w.timer limit
    w.lookLoss l k timer
  | .cancelParent p => (w.cancelParent p).answer .nothing
  | .foreign r =>
    let (w, a) := w.serve r
    w.answer (.answer a)
  | .holder o => w.answer (.holder (w.store.holder w.now o))
  | .remaining o => w.answer (.span (w.store.remaining w.now o))
  | .revoke o => ({ w with store := w.store.revoke o }).answer .nothing
  | .inject op n => ({ w with store := w.store.inject op n }).answer .nothing
  | .calls op => w.answer (.number (w.callsOf op))
  | .allCalls => w.answer (.number w.store.allCalls)
  | .plan op p n =>
    ({ w with plans := w.plans ++ List.replicate n (op, p) }).answer .nothing
  | .callLog timed => w.answer (.calls timed w.log)
  | .events timed => w.answer (.events timed w.journal)
  | .now => w.answer (.number w.clock)
  | .nowIn low high => w.answer (.flag (low ≤ w.clock && w.clock ≤ high))
  | .callsIn op low high => w.answer (.flag (low ≤ w.callsOf op && w.callsOf op ≤ high))
  | .sleep d => w.startSleep d
  | .sleepUntil i => w.startSleep (i - w.now)
  | .pending => (w, .waiting .forever)
  | .value text => w.answer (.value text)
  | .steps list => w.startSteps t list
  | .spawn name step =>
    let (w, t') := w.spawn (.calling (.unstarted step))
    ({ w with taskNames := (name, t') :: w.taskNames }).answer .nothing
  | .join name =>
    match w.taskNames.lookup name with
    | none => w.answer .nothing
    | some t' =>
      let (w, k) := w.takeTicket
      w.lookTask t' k
  | .isFinished name =>
    match w.taskNames.lookup name with
    | none => w.answer .nothing
    | some t' => w.answer (.flag (match w.tasks[t']? with
      | some task => task.activity.isFinished
      | none => true))
  | .abort name =>
    match w.taskNames.lookup name with
    | none => w.answer .nothing
    | some t' => (w.abortTask t').answer .nothing

/-- Begins a list of steps. -/
def startSteps (w : World) (t : TaskId) : List Step → World × Poll Progress Outcome
  | [] => (w, .done (.list []))
  | s :: rest =>
    match w.startStep t s with
    | (w, .waiting p) => (w, .waiting (.listing [] p rest))
    | (w, .done o) => w.settle t [o] rest

end

/-- Goes on with a list of steps after the last one has settled. -/
def nextStep (w : World) (t : TaskId) (past : List Outcome) : List Step →
    World × Poll Progress Outcome
  | [] => (w, .done (.list past))
  | s :: rest =>
    match w.startStep t s with
    | (w, .waiting p) => (w, .waiting (.listing past p rest))
    | (w, .done o) => w.settle t (past ++ [o]) rest

/-- Gives a step up in the middle. -/
def abandonStep (w : World) (t : TaskId) : Progress → World
  | .acquiring l a | .opening l _ a => (w.abandonAttempt t l a).unshare l
  | .visiting l owned e =>
    let w := w.abandonEntry t l e
    if owned then w.unshare l else w
  | .observing l e => w.abandonEntry t l e
  | .closing l e | .ending l _ e => (w.abandonEntry t l e).unshare l
  | .joining l _ _ => w.unshare l
  | .working l _ p => (w.abandonStep t p).unshare l
  | .listing _ p _ => w.abandonStep t p
  | .unstarted _ | .provisioning .. | .sleeping _ | .listening .. | .awaiting .. | .forever
  | .settling .. => w

/-- Goes on with a step after a wait. -/
def resumeStep (w : World) (t : TaskId) : Progress → World × Poll Progress Outcome
  | .unstarted s => w.startStep t s
  | .provisioning c f k => w.resumeProvisioning c f k
  | .acquiring l a =>
    match w.resumeAttempt t l a with
    | (w, .waiting a) => (w, .waiting (.acquiring l a))
    | (w, .done r) =>
      let (w, o) := w.afterAcquiring l r
      (w, .done o)
  | .visiting l owned e =>
    match w.resumeEntry t l e with
    | (w, .waiting e) => (w, .waiting (.visiting l owned e))
    | (w, .done r) =>
      let (w, o) := w.afterVisit l owned r
      (w, .done o)
  | .observing l e =>
    match w.resumeEntry t l e with
    | (w, .waiting e) => (w, .waiting (.observing l e))
    | (w, .done r) => w.answer (stageOutcome r)
  | .closing l e =>
    match w.resumeEntry t l e with
    | (w, .waiting e) => (w, .waiting (.closing l e))
    | (w, .done r) => w.afterClosing l r
  | .joining l r k =>
    if w.watchersEnded l then w.endShutdown l r else (w, .waiting (.joining l r k))
  | .opening l work a =>
    match w.resumeAttempt t l a with
    | (w, .waiting a) => (w, .waiting (.opening l work a))
    | (w, .done (.error e)) =>
      let (w, o) := w.afterAcquiring l (.error e)
      (w, .done o)
    | (w, .done (.ok _)) => w.startWork t l fun w => w.startSteps t work
  | .working l k p =>
    match w.lossOf l with
    | some loss => (w.abandonStep t p).startEnding t l (.error loss)
    | none =>
      match w.resumeStep t p with
      | (w, .waiting p) => (w, .waiting (.working l k p))
      | (w, .done o) => w.startEnding t l (.ok o)
  | .ending l outcome e =>
    match w.resumeEntry t l e with
    | (w, .waiting e) => (w, .waiting (.ending l outcome e))
    | (w, .done r) =>
      let (w, o) := w.afterEnding l outcome r
      (w, .done o)
  | .sleeping timer =>
    if w.hasFired timer then w.answer .nothing else (w, .waiting (.sleeping timer))
  | .listening l k timer => w.lookLoss l k timer
  | .awaiting target k => w.lookTask target k
  | .forever => (w, .waiting .forever)
  | .listing past p rest =>
    match w.resumeStep t p with
    | (w, .waiting p) => (w, .waiting (.listing past p rest))
    | (w, .done o) => w.settle t (past ++ [o]) rest
  | .settling past rest =>
    if w.ready.isEmpty then w.nextStep t past rest
    else ({ w with yielded := w.yielded ++ [t] }, .waiting (.settling past rest))

end Leasehold.World
