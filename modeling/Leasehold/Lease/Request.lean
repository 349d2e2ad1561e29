import Leasehold.Error

/-!
# Calls to the lease service

The service knows five operations on containers and on the objects in them.  A `Request` is one
call with its arguments; an `Answer` is success or the reason of a failure.
-/

namespace Leasehold

/-- The five operations of the lease service. -/
inductive Operation
  | createContainer
  | createObject
  | acquire
  | renew
  | release
  deriving DecidableEq, Repr

/-- The place of an object that can carry a lease. -/
structure ObjectPath where
  container : String
  name : String
  deriving DecidableEq, Repr

namespace ObjectPath

/-- The container and the name with a slash between them. -/
def text (o : ObjectPath) : String := o.container ++ "/" ++ o.name

end ObjectPath

/-- The container that all locks of a storage account share. -/
def sharedContainer : String := "azlockcontainer"

/-- The object whose lease backs the lock of a name. -/
def LockName.backing (n : LockName) : ObjectPath := ⟨sharedContainer, n.backingName⟩

/-- One call to the lease service. -/
inductive Request
  | createContainer (container : String)
  | createObject (object : ObjectPath)
  | acquire (object : ObjectPath) (id : LeaseId) (seconds : Nat)
  | renew (object : ObjectPath) (id : LeaseId)
  | release (object : ObjectPath) (id : LeaseId)
  deriving DecidableEq, Repr

namespace Request

/-- The operation that a call asks for. -/
def operation : Request → Operation
  | createContainer _ => .createContainer
  | createObject _ => .createObject
  | acquire .. => .acquire
  | renew .. => .renew
  | release .. => .release

/-- What the call is about: a container or an object in it. -/
def target : Request → String
  | createContainer c => c
  | createObject o | acquire o _ _ | renew o _ | release o _ => o.text

end Request

/-- What the service answers: success, or why the call failed. -/
abbrev Answer := Except CallFailure Unit

/-- One value for each operation. -/
structure PerOperation (α : Type) where
  createContainer : α
  createObject : α
  acquire : α
  renew : α
  release : α

namespace PerOperation

variable {α : Type}

/-- The same value for all operations. -/
def const (a : α) : PerOperation α := ⟨a, a, a, a, a⟩

/-- The value of an operation. -/
def get (p : PerOperation α) : Operation → α
  | .createContainer => p.createContainer
  | .createObject => p.createObject
  | .acquire => p.acquire
  | .renew => p.renew
  | .release => p.release

/-- The values with the one of an operation replaced. -/
def set (p : PerOperation α) (op : Operation) (a : α) : PerOperation α :=
  match op with
  | .createContainer => { p with createContainer := a }
  | .createObject => { p with createObject := a }
  | .acquire => { p with acquire := a }
  | .renew => { p with renew := a }
  | .release => { p with release := a }

theorem get_set (p : PerOperation α) (op op' : Operation) (a : α) :
    (p.set op a).get op' = if op' = op then a else p.get op' := by
  cases op <;> cases op' <;> simp [set, get]

@[simp] theorem get_const (a : α) (op : Operation) : (const a).get op = a := by
  cases op <;> rfl

end PerOperation

end Leasehold
