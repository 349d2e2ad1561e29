import Leasehold.Text.Quoted
import Leasehold.Time.Span

/-!
# Behaviors of a lock

A behavior is applied once, when a lock is built.  It starts a watcher or wraps the way in which
the lock is acquired.  Four behaviors belong to every lock unless others are asked for; two more
only record what happens, so that the order of events can be observed.
-/

namespace Leasehold

/-- What is done about a lost lock after it was released. -/
inductive FatalAction
  | exit
  | record
  deriving DecidableEq, Repr

/-- What a lock does besides its operations. -/
inductive Behavior
  /-- Renews the lease after every half term. -/
  | renewal
  /-- Releases the lease within `grace` when the lock is cancelled. -/
  | guard (grace : Span)
  /-- When the lock is lost, releases the lease within `grace` and then acts. -/
  | alarm (grace : Span) (action : FatalAction)
  /-- Repeats a failed acquisition within `multiplier` times the term. -/
  | retry (multiplier : Nat)
  /-- Records when it starts and when the lock is cancelled. -/
  | probe (tag : String) (panics : Bool)
  /-- Records every acquisition, and refuses it if asked to. -/
  | wrap (tag : String) (refuses : Bool)
  deriving DecidableEq, Repr

namespace Behavior

/-- The time that a release after cancellation or loss may take by default. -/
def defaultGrace : Span := .ofSeconds 5

/-- The default budget of repeated acquisition, in terms. -/
def defaultMultiplier : Nat := 10

/-- The exit status after a lost lock. -/
def lostExitStatus : Nat := 2

/-- The name of a behavior. -/
def name : Behavior → String
  | renewal => "auto-renew"
  | guard _ => "unlock-on-cancel"
  | alarm _ _ => "panic-on-lost-lock"
  | retry _ => "retry-on-contention"
  | probe _ _ => "watch"
  | wrap _ _ => "wrap"

/-- The settings of a behavior. -/
def debug : Behavior → String
  | renewal => "AutoRenew"
  | guard grace => "UnlockOnCancel \x7b grace: " ++ grace.text ++ " \x7d"
  | alarm grace _ => "PanicOnLostLock \x7b grace: " ++ grace.text ++ ", .. \x7d"
  | retry n => "RetryOnContention \x7b budget_multiplier: " ++ toString n ++ " \x7d"
  | probe tag _ => "Probe(" ++ Text.quoted tag ++ ")"
  | wrap tag _ => "Wrap(" ++ Text.quoted tag ++ ")"

/-- The behaviors of a lock for which no others are given, in the order of application. -/
def standard : List Behavior :=
  [renewal, alarm defaultGrace .exit, guard defaultGrace, retry defaultMultiplier]

/-- The names of behaviors, each quoted, as one list. -/
def listText (bs : List Behavior) : String :=
  "[" ++ ", ".intercalate (bs.map fun b => Text.quoted b.name) ++ "]"

end Behavior

end Leasehold
