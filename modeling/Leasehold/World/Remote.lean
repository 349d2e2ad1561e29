import Leasehold.Blob.Client
import Leasehold.World.Schedule

/-!
# Locks over the blob service

* `Remote.perform` takes one step of a lock whose calls are made by a blob client.
* `Opening` is what a caller hands in for a lock at a storage account.  `Opening.check` checks all
  of it in a fixed order before anything is built, and `Opening.run` builds the lock.

A step makes its calls one after the other, so the answers that the client gets can be found out
before the step: those to calls that the step does not make after all are forgotten.
-/

namespace Leasehold

namespace World

/-- Moves until a task has ended, at most `fuel` times, and its outcome.  A task whose last call is
the one of a given number breaks off during that call, without an outcome. -/
def await (t : TaskId) (last : Option Nat) : Nat → World → World × Option Outcome
  | 0, w => (w, none)
  | fuel + 1, w =>
    match w.outcome? t with
    | some o => (w, some o)
    | none =>
      if last.any (· ≤ w.log.length) then ((w.abortTask t).poll t, none)
      else await t last fuel w.turn

/-- The lock of a label. -/
def lockAt? (w : World) (label : String) : Option Lock :=
  (w.handle? label).bind fun l => w.locks[l]?

/-- The calls that a step makes as long as they succeed. -/
def callsOfStep (w : World) : Step → List Request
  | .create _ name _ _ _ _ =>
    match LockName.parse name with
    | .ok n => [.createContainer sharedContainer, .createObject n.backing]
    | .error _ => []
  | .lock label =>
    (w.lockAt? label).toList.map fun k => .acquire k.name.backing k.id k.term.wholeSeconds
  | .renew label => (w.lockAt? label).toList.map fun k => .renew k.name.backing k.id
  | .unlock label => (w.lockAt? label).toList.map fun k => .release k.name.backing k.id
  | .exclusive label _ =>
    (w.lockAt? label).toList.flatMap fun k =>
      [.acquire k.name.backing k.id k.term.wholeSeconds, .release k.name.backing k.id]
  | _ => []

end World

/-- Locks whose calls a blob client makes. -/
structure Remote where
  client : Blob.Client
  script : Blob.Script
  world : World

namespace Remote

/-- The results of calls one after the other, up to the first that a fault ends, each with the
service after it. -/
def results (c : Blob.Client) :
    List Request → Blob.Script → List (Operation × Except BackoffFault Answer × Blob.Script)
  | [], _ => []
  | r :: rest, s =>
    let e := c.call Blob.Script.service r s
    (r.operation, e.result, e.state) :: if e.result.isOk then results c rest e.state else []

/-- The plan of a call that is answered at once.  A call that a fault ends does not come back. -/
def planned (x : Operation × Except BackoffFault Answer × Blob.Script) : Operation × Plan :=
  match x.2.1 with
  | .ok a => (x.1, ⟨.zero, some a, .zero, none⟩)
  | .error _ => (x.1, ⟨.longest, none, .zero, none⟩)

/-- Takes one step.  With a call that a fault ends, the step breaks off. -/
def perform (fuel : Nat) (r : Remote) (step : Step) : Remote × Option Outcome :=
  let found := results r.client (r.world.callsOfStep step) r.script
  let last :=
    if found.all fun x => x.2.1.isOk then none else some (r.world.log.length + found.length)
  let (w, t) := { r.world with plans := found.map planned }.spawn (.calling (.unstarted step))
  let (w, outcome) := w.await t last fuel
  let made := w.log.length - r.world.log.length
  let script := ((found.take made).getLast?.map fun x => x.2.2).getD r.script
  ({ r with script := script, world := { w with plans := [] } }, outcome)

end Remote

/-- What a caller hands in for a lock at a storage account. -/
structure Opening where
  endpoint : String
  accessKey : String
  name : String
  term : Span
  behaviors : Option (List Behavior)
  parent : String
  id : LeaseId

namespace Opening

/-- What has passed all checks. -/
structure Checked where
  term : Term
  name : LockName
  account : Account

/-- The first thing that is wrong: a missing key, the term, the name, and then the account. -/
def check (o : Opening) : Except SetupFailure Checked :=
  if o.accessKey.isEmpty then .error .noKey
  else
    match Term.check o.term with
    | .error e => .error e
    | .ok term =>
      match LockName.parse o.name with
      | .error e => .error (.badName e)
      | .ok name =>
        match Account.read o.endpoint o.accessKey with
        | .error e => .error e
        | .ok account => .ok ⟨term, name, account⟩

/-- The label of the lock that an opening builds. -/
def label : String := "lock"

/-- The step that builds the lock; the standard behaviors are those for which no others are given.
-/
def step (o : Opening) : Step :=
  .create label o.name o.term (o.behaviors.getD Behavior.standard) o.parent o.id

/-- Checks everything and then builds the lock with a client of the account.  Nothing is built
unless all checks pass. -/
def run (fuel : Nat) (o : Opening) (cancelled : Bool) (script : Blob.Script) :
    Option Remote × Option Outcome :=
  match o.check with
  | .error e => (none, some (.result (.error (.setup e))))
  | .ok checked =>
    let client := Blob.Client.ofAccount checked.account .standard
    let world := if cancelled then World.start.cancelParent o.parent else World.start
    let (remote, outcome) := Remote.perform fuel ⟨client, script, world⟩ o.step
    (some remote, outcome)

end Opening

end Leasehold
