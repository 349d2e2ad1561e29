import Mathlib.Logic.Relation
import Mathlib.Tactic.Common
import Leasehold.Proofs.World.Quiet

/-!
# The moves of a turn

A turn of a task is a sequence of *moves*.  Each move changes the world in one respect, and what the
task is in the middle of towards the locks and the store: its `Engagement`.

* `Engagement`: in the queue of a critical section, inside with a lease call on its way, or with a
  call on its way that creates a container or an object.
* `Deed`: the two moves that not every task makes, the drop of a release call and a loss.
* `World.Move A D t`: one move of task `t`, where `A` says which steps scripts may take and `D`
  which deeds the task may do.
* `World.Stretch A D t`: a sequence of moves, with what is known of the state that it ends in.

All that is said about locks, calls and the store in the course of a run is read off these moves.
-/

namespace Leasehold

/-! ### Engagements -/

/-- Where a call is, without its timers. -/
inductive Course
  | outbound (plan : Plan)
  | inbound (answer : Answer)

/-- Where a call is, without its timers. -/
def Leg.course : Leg → Course
  | .outbound _ p => .outbound p
  | .inbound _ a => .inbound a

/-- The three calls that a lock makes in its critical section. -/
inductive LeaseCall
  | acquire
  | renew
  | release
  deriving DecidableEq

namespace LeaseCall

/-- The stage in which a lock may make the call. -/
def allowed : LeaseCall → Stage
  | acquire => .idle
  | renew | release => .acquired

/-- The stage while the call is on its way. -/
def during : LeaseCall → Stage
  | acquire => .idle
  | renew => .acquired
  | release => .released

end LeaseCall

/-- The lease call that a visit to the critical section makes. -/
def Errand.leaseCall? : Errand → Option LeaseCall
  | .acquire => some .acquire
  | .renew => some .renew
  | .release _ => some .release
  | .observe => none

/-- The request of a lock's lease call. -/
def Lock.request (k : Lock) : LeaseCall → Request
  | .acquire => .acquire k.name.backing k.id k.term.wholeSeconds
  | .renew => .renew k.name.backing k.id
  | .release => .release k.name.backing k.id

/-- What a task is in the middle of towards the locks and the store. -/
inductive Engagement
  | queued (lock : LockId) (errand : Errand)
  | calling (lock : LockId) (call : LeaseCall) (request : Request) (record : Nat) (course : Course)
  | provisioning (request : Request) (record : Nat) (course : Course)

/-- The lock whose critical section the task has come to. -/
def Engagement.lock? : Engagement → Option LockId
  | queued l _ | calling l .. => some l
  | provisioning .. => none

/-- The record of the call that is on its way. -/
def Engagement.record? : Engagement → Option Nat
  | queued .. => none
  | calling _ _ _ n _ | provisioning _ n _ => some n

/-- A release call of the lock is on its way. -/
def Engagement.Releases (l : LockId) (e : Engagement) : Prop :=
  ∃ r n c, e = .calling l .release r n c

/-- The engagement of a visit to the critical section of a lock. -/
def Entry.engagement (l : LockId) : Entry → Engagement
  | queued errand => .queued l errand
  | acquiring f _ => .calling l .acquire f.request f.record f.leg.course
  | renewing f _ => .calling l .renew f.request f.record f.leg.course
  | releasing f _ => .calling l .release f.request f.record f.leg.course

/-- The engagement of an acquisition. -/
def Attempt.engagement (l : LockId) : Attempt → Option Engagement
  | entering e => some (e.engagement l)
  | retrying _ _ a | wrapping _ a => a.engagement l
  | pausing .. => none

/-- The engagement of a watcher. -/
def Watcher.engagement (l : LockId) : Watcher → Option Engagement
  | renewalLook _ e | renewalCall _ e | guardRelease e | alarmRelease _ _ e => some (e.engagement l)
  | _ => none

/-- The engagement of a step. -/
def Progress.engagement : Progress → Option Engagement
  | provisioning _ f _ => some (.provisioning f.request f.record f.leg.course)
  | acquiring l a | opening l _ a => a.engagement l
  | visiting l _ e | observing l e | closing l e | ending l _ e => some (e.engagement l)
  | working _ _ p | listing _ p _ => p.engagement
  | _ => none

/-- The engagement of a task. -/
def Activity.engagement : Activity → Option Engagement
  | watching l v => v.engagement l
  | calling p => p.engagement
  | running | finished _ => none

/-- What only some tasks do. -/
inductive Deed
  /-- To drop a release call that is on its way. -/
  | drop (lock : LockId)
  /-- To raise the loss of a lock. -/
  | lose (lock : LockId)

/-- The engagement that a unit of work ends in. -/
def Poll.engagement {α β : Type} (f : α → Option Engagement) : Poll α β → Option Engagement
  | waiting a => f a
  | done _ => none

/-! ### Scripts within bounds -/

mutual

/-- The step and all steps in it satisfy `A`. -/
def Step.Within (A : Step → Prop) : Step → Prop
  | .exclusive label work => A (.exclusive label work) ∧ Step.AllWithin A work
  | .steps list => A (.steps list) ∧ Step.AllWithin A list
  | .spawn task step => A (.spawn task step) ∧ step.Within A
  | step => A step

/-- All steps and all steps in them satisfy `A`. -/
def Step.AllWithin (A : Step → Prop) : List Step → Prop
  | [] => True
  | step :: rest => step.Within A ∧ Step.AllWithin A rest

end

/-- The construction comes from a step that satisfies `A`. -/
def Creation.From (A : Step → Prop) (c : Creation) : Prop :=
  ∃ name term, A (.create c.label name term c.behaviors c.parent c.id)

namespace World

/-- What each task is in the middle of. -/
def engagements (w : World) (t : TaskId) : Option Engagement :=
  w.tasks[t]?.bind fun task => task.activity.engagement

/-- A request has been sent and is in the log. -/
def sent (w : World) (r : Request) : World :=
  let w' := (w.takePlan r.operation).1
  { w' with log := w'.log ++ [⟨w'.now, r, none⟩] }

/-- The way on which a request is sent. -/
def courseOf (w : World) (r : Request) : Course := .outbound (w.takePlan r.operation).2

/-- What the answer to a lease call does to the lock. -/
def concluded (w : World) (l : LockId) : LeaseCall → Answer → World
  | .acquire, .ok _ => w.setStage l .acquired
  | .release, _ => w.cancelScope l
  | _, _ => w

/-- The instance of a construction with its behaviors. -/
def built (w : World) (c : Creation) : World :=
  c.behaviors.foldl (fun w' b => w'.applyBehavior w.locks.length (w.newLock c) b)
    { w with locks := w.locks ++ [w.newLock c] }

/-- The lock has left the stage in which it begins. -/
def Begun (w : World) (l : LockId) : Prop := ∃ k, w.locks[l]? = some k ∧ k.stage ≠ .idle

/-- One move of task `t`, in scripts whose steps satisfy `A`, if its deeds satisfy `D`. -/
inductive Move (A : Step → Prop) (D : Deed → Prop) (t : TaskId) :
    World → Option Engagement → World → Option Engagement → Prop
  /-- Only the books of the simulation change. -/
  | quiet {w w' c} : w.Quiet w' → Move A D t w c w' c
  /-- A lock's owners change. -/
  | own {w c} (l : LockId) (f : Lock → Nat) (g : Lock → Bool) :
      Move A D t w c (w.updateLock l fun k => { k with shares := f k, listed := g k }) c
  | cancel {w c} (l : LockId) : Move A D t w c (w.cancelScope l) c
  | lose {w c} (l : LockId) (reason : String) :
      D (.lose l) → w.isCancelled l = false → w.Begun l →
      Move A D t w c (w.raiseLoss l reason) c
  | parent {w c} (p : String) :
      Move A D t w c { w with cancelledParents := p :: w.cancelledParents } c
  /-- A call from outside goes straight to the store. -/
  | foreign {w c} (r : Request) : A (.foreign r) → Move A D t w c (w.serve r).1 c
  | revoke {w c} (o : ObjectPath) :
      A (.revoke o) → Move A D t w c { w with store := w.store.revoke o } c
  | inject {w c} (op : Operation) (n : Nat) :
      A (.inject op n) → Move A D t w c { w with store := w.store.inject op n } c
  | plan {w c} (op : Operation) (p : Plan) (n : Nat) :
      A (.plan op p n) → Move A D t w c { w with plans := w.plans ++ List.replicate n (op, p) } c
  | spawn {w c} (s : Step) :
      s.Within A → Move A D t w c (w.spawn (.calling (.unstarted s))).1 c
  | build {w} (cr : Creation) : cr.From A → Move A D t w none (w.built cr) none
  /-- The task comes to a critical section. -/
  | enqueue {w} (l : LockId) (errand : Errand) : l < w.locks.length →
      Move A D t w none (w.updateLock l fun k => { k with queue := k.queue ++ [t] })
        (some (.queued l errand))
  /-- The task leaves a critical section or its queue; after a release call the scope is
  cancelled. -/
  | leave {w} (l : LockId) (e : Engagement) : e.lock? = some l →
      (e.Releases l → w.isCancelled l = true) →
      Move A D t w (some e) (w.leave t l) none
  /-- The visit is dropped in the middle. -/
  | abandon {w} (l : LockId) (e : Engagement) : e.lock? = some l →
      (∀ k, w.locks[l]? = some k → e.Releases l → D (.drop l)) →
      Move A D t w (some e) (w.leave t l) none
  /-- The task inside a critical section makes the lease call of its errand. -/
  | send {w} (l : LockId) (k : Lock) (errand : Errand) (call : LeaseCall) :
      w.locks[l]? = some k → k.queue.head? = some t → errand.leaseCall? = some call →
      k.stage = call.allowed → (call ≠ .release → k.cancelled = false) →
      Move A D t w (some (.queued l errand)) ((w.setStage l call.during).sent (k.request call))
        (some (.calling l call (k.request call) w.log.length (w.courseOf (k.request call))))
  /-- A lease call arrives at the store. -/
  | arrive {w} (l : LockId) (call : LeaseCall) (r : Request) (n : Nat) (p : Plan) :
      Move A D t w (some (.calling l call r n (.outbound p))) (w.settleCall r p).1
        (some (.calling l call r n (.inbound (p.replacement.getD (w.settleCall r p).2))))
  /-- The answer to a lease call is received, and the task leaves the critical section. -/
  | receive {w} (l : LockId) (call : LeaseCall) (r : Request) (n : Nat) (a : Answer) :
      Move A D t w (some (.calling l call r n (.inbound a)))
        (((w.answered n a).concluded l call a).leave t l) none
  /-- A creating call is sent. -/
  | ask {w} (r : Request) : (r = .createContainer sharedContainer ∨ ∃ o, r = .createObject o) →
      Move A D t w none (w.sent r) (some (.provisioning r w.log.length (w.courseOf r)))
  /-- A creating call arrives at the store. -/
  | provision {w} (r : Request) (n : Nat) (p : Plan) :
      Move A D t w (some (.provisioning r n (.outbound p))) (w.settleCall r p).1
        (some (.provisioning r n (.inbound (p.replacement.getD (w.settleCall r p).2))))
  /-- The answer to a creating call is received. -/
  | told {w} (r : Request) (n : Nat) (a : Answer) :
      Move A D t w (some (.provisioning r n (.inbound a))) (w.answered n a) none
  /-- A creating call is dropped in the middle. -/
  | forget {w} (r : Request) (n : Nat) (c : Course) :
      Move A D t w (some (.provisioning r n c)) w none

/-- A sequence of moves. -/
def Moves (A : Step → Prop) (D : Deed → Prop) (t : TaskId) (x y : World × Option Engagement) :
    Prop :=
  Relation.ReflTransGen (fun x y => Move A D t x.1 x.2 y.1 y.2) x y

/-- Nothing delays or alters calls, and nobody is at a critical section. -/
def Prompt (w : World) : Prop := w.plans = [] ∧ ∀ k ∈ w.locks, k.queue = []

/-- A sequence of moves from `w` to `w'` by which the task's engagement goes from `c` to `c'`, and
what is known at its end. -/
structure Stretch (A : Step → Prop) (D : Deed → Prop) (t : TaskId) (w : World)
    (c : Option Engagement) (w' : World) (c' : Option Engagement) : Prop where
  moves : Moves A D t (w, c) (w', c')
  /-- A task stays in the queue only while another one is inside. -/
  behind : ∀ l errand k, c' = some (.queued l errand) → w'.locks[l]? = some k → k.queue.Nodup →
    k.queue.head? ≠ some t
  /-- Without delays every visit and every call ends in the turn in which it begins. -/
  prompt : (∀ op p n, ¬ A (.plan op p n)) → c = none → w.Prompt → c' = none ∧ w'.Prompt

end World

end Leasehold
