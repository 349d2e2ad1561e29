import Leasehold.Lease.Request

/-!
# The lease store

A store holds containers, the objects in them and at most one lease record per object.  A record
names its holder; it is *active* until it expires.  An expired record stays: its holder can renew
it until somebody else acquires the object.

* `Store.serve` answers one call at an instant: it counts the call, lets an injected fault fail
  it, and otherwise does what `Store.perform` says.
* `Store.holder` and `Store.remaining` show the active lease of an object.
-/

namespace Leasehold

/-- A lease record: its holder, the length it was taken for and the instant it expires. -/
structure Lease where
  holder : LeaseId
  length : Span
  expires : Span
  deriving DecidableEq, Repr

namespace Lease

/-- Whether the lease has not expired. -/
def isActive (l : Lease) (now : Span) : Bool := now < l.expires

end Lease

/-- The state of the lease service. -/
structure Store where
  containers : List String
  objects : List (ObjectPath × Option Lease)
  faults : PerOperation Nat
  calls : PerOperation Nat

namespace Store

/-- A store without containers that has never been called. -/
def empty : Store := ⟨[], [], .const 0, .const 0⟩

instance : Inhabited Store := ⟨empty⟩

/-- The slot of an object: none if there is no such object, otherwise its lease record. -/
def slot? (s : Store) (o : ObjectPath) : Option (Option Lease) := s.objects.lookup o

/-- Replaces the lease record of an object. -/
def setLease (s : Store) (o : ObjectPath) (l : Option Lease) : Store :=
  { s with objects := s.objects.map fun (o', l') => if o' = o then (o', l) else (o', l') }

/-- The lease of an object, while it is active. -/
def activeLease? (s : Store) (now : Span) (o : ObjectPath) : Option Lease :=
  match s.slot? o with
  | some (some l) => if l.isActive now then some l else none
  | _ => none

/-- The holder of the active lease. -/
def holder (s : Store) (now : Span) (o : ObjectPath) : Option LeaseId :=
  (s.activeLease? now o).map (·.holder)

/-- How long the active lease still lasts. -/
def remaining (s : Store) (now : Span) (o : ObjectPath) : Option Span :=
  (s.activeLease? now o).map fun l => l.expires - now

/-- Removes the lease of an object, whoever holds it. -/
def revoke (s : Store) (o : ObjectPath) : Store := s.setLease o none

/-- Lets the next `count` calls of an operation fail; an earlier count is forgotten. -/
def inject (s : Store) (op : Operation) (count : Nat) : Store :=
  { s with faults := s.faults.set op count }

/-- Calls of an operation so far, failed ones included. -/
def callsOf (s : Store) (op : Operation) : Nat := s.calls.get op

/-- Calls of all operations so far. -/
def allCalls (s : Store) : Nat :=
  s.callsOf .createContainer + s.callsOf .createObject + s.callsOf .acquire + s.callsOf .renew +
    s.callsOf .release

/-- What an injected fault answers. -/
def injectedFailure : CallFailure := .status 500 (some "InternalError")

/-- The answer for a container or an object that is not there. -/
def missing (code : String) : CallFailure := .status 404 (some code)

/-- Does what a call asks for, unless the rules of the lease service forbid it. -/
def perform (s : Store) (now : Span) : Request → Store × Answer
  | .createContainer c =>
    if s.containers.contains c then (s, .error .present)
    else ({ s with containers := s.containers ++ [c] }, .ok ())
  | .createObject o =>
    if s.containers.contains o.container then
      match s.slot? o with
      | some (some l) => (s, .error (if l.isActive now then .leased else .present))
      | some none => (s, .error .present)
      | none => ({ s with objects := s.objects ++ [(o, none)] }, .ok ())
    else (s, .error (missing "ContainerNotFound"))
  | .acquire o id secs =>
    let length := Span.ofSeconds secs
    let taken := (s.setLease o (some ⟨id, length, now + length⟩), Except.ok ())
    match s.slot? o with
    | none => (s, .error (missing "BlobNotFound"))
    | some none => taken
    | some (some l) => if l.isActive now ∧ l.holder ≠ id then (s, .error .heldByOther) else taken
  | .renew o id =>
    match s.slot? o with
    | none => (s, .error (missing "BlobNotFound"))
    | some none => (s, .error .notHolder)
    | some (some l) =>
      if l.holder = id then (s.setLease o (some { l with expires := now + l.length }), .ok ())
      else (s, .error .notHolder)
  | .release o id =>
    match s.slot? o with
    | none => (s, .error (missing "BlobNotFound"))
    | some none => (s, .error .notHolder)
    | some (some l) =>
      if l.holder = id then (s.setLease o none, .ok ()) else (s, .error .notHolder)

/-- Counts a call of an operation. -/
def count (s : Store) (op : Operation) : Store :=
  { s with calls := s.calls.set op (s.calls.get op + 1) }

/-- Answers a call at an instant. -/
def serve (s : Store) (now : Span) (r : Request) : Store × Answer :=
  let op := r.operation
  let counted := s.count op
  match s.faults.get op with
  | 0 => counted.perform now r
  | left + 1 => ({ counted with faults := counted.faults.set op left }, .error injectedFailure)

end Store

end Leasehold
