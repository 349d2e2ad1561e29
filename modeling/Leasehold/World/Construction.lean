import Leasehold.World.Watching

/-!
# Building a lock

A lock needs the shared container and its own object in the store.  Both are created unless they
are there; either call is interrupted by the cancellation of the parent scope.  Then the instance
is built and its behaviors are applied in order.
-/

namespace Leasehold.World

/-- Whether a parent scope is cancelled. -/
def isParentCancelled (w : World) (p : String) : Bool := w.cancelledParents.contains p

/-- What the answer to a creating call means: a container or an object that is there is as good as
a new one. -/
def creationResult : Answer → Except LockFailure Unit
  | .ok () | .error .present | .error .leased => .ok ()
  | .error e => .error (.call e)

/-- Applies one behavior to a new lock. -/
def applyBehavior (w : World) (l : LockId) (lock : Lock) (b : Behavior) : World :=
  let watch (w : World) (v : Watcher) : World :=
    let (w, t) := w.spawn (.watching l v)
    w.updateLock l fun lock => { lock with watchers := lock.watchers ++ [t] }
  let wrap (s : Strategy → Strategy) : World :=
    w.updateLock l fun lock => { lock with strategy := s lock.strategy }
  match b with
  | .renewal => watch w .renewalStart
  | .guard grace => watch w (.guardStart grace)
  | .alarm grace action => watch w (.alarmStart grace action)
  | .retry n => wrap (.retry (lock.term.span.times n))
  | .probe tag _ =>
    let count := (w.watchersOf l).length
    watch (w.note ("apply " ++ tag ++ " after " ++ toString count ++ " watchers"))
      (.probeStart tag)
  | .wrap tag refuses => wrap (.wrap tag refuses)

/-- The instance that a construction builds. -/
def newLock (w : World) (c : Creation) : Lock where
  name := c.name
  term := c.term
  id := c.id
  parent := c.parent
  stage := .idle
  queue := []
  cancelled := w.isParentCancelled c.parent
  lossCell := .new
  strategy := .direct
  watchers := []
  shares := 1
  listed := true

/-- Builds the instance and hands it to the owner, who drops an older lock of the same label. -/
def build (w : World) (c : Creation) : World × Outcome :=
  let l := w.locks.length
  let lock := w.newLock c
  let w := { w with locks := w.locks ++ [lock] }
  let w := c.behaviors.foldl (fun w b => w.applyBehavior l lock b) w
  let older := w.labels.lookup c.label
  let w := { w with labels := (c.label, l) :: w.labels }
  let w := match older with
    | some l' => (w.dropLock l').1
    | none => w
  (w, .created ⟨c.name, c.name.backing, c.term, c.id, (w.watchersOf l).length⟩)

/-- The construction fails, and no instance is built. -/
def failCreation (w : World) (e : LockFailure) : World × Poll Progress Outcome :=
  (w, .done (.result (.error e)))

/-- Sends a creating call, unless the parent is cancelled.  The call for the container is followed
by the one for the object. -/
def provisionObject (w : World) (c : Creation) : World × Poll Progress Outcome :=
  if w.isParentCancelled c.parent then w.failCreation .cancelled
  else
    match w.issue (.createObject c.name.backing) with
    | (w, .waiting f) =>
      let (w, k) := w.takeTicket
      (w, .waiting (.provisioning c f k))
    | (w, .done a) =>
      match creationResult a with
      | .error e => w.failCreation e
      | .ok () =>
        let (w, o) := w.build c
        (w, .done o)

/-- Begins a construction with the call for the container. -/
def provisionContainer (w : World) (c : Creation) : World × Poll Progress Outcome :=
  if w.isParentCancelled c.parent then w.failCreation .cancelled
  else
    match w.issue (.createContainer sharedContainer) with
    | (w, .waiting f) =>
      let (w, k) := w.takeTicket
      (w, .waiting (.provisioning c f k))
    | (w, .done a) =>
      match creationResult a with
      | .error e => w.failCreation e
      | .ok () => w.provisionObject c

/-- Goes on with a construction after a wait. -/
def resumeProvisioning (w : World) (c : Creation) (f : Flight) (k : Nat) :
    World × Poll Progress Outcome :=
  match w.fly f with
  | (w, .waiting f) =>
    if w.isParentCancelled c.parent then w.failCreation .cancelled
    else (w, .waiting (.provisioning c f k))
  | (w, .done a) =>
    match creationResult a with
    | .error e => w.failCreation e
    | .ok () =>
      match f.request with
      | .createContainer _ => w.provisionObject c
      | _ =>
        let (w, o) := w.build c
        (w, .done o)

end Leasehold.World
