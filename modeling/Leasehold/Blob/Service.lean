import Leasehold.Backoff
import Leasehold.Lease.Request
import Leasehold.Text.Blank

/-!
# The service at the other end

A `Message` is a request as it goes out; a `Reply` is what comes back, if anything does.

* `Reply.answer` says what a reply means for the call.
* A `Service` is all that a client meets: replies and how long they take, a clock, what happens
  between two messages, and the draws of its delays.
* `Script` is a service that gives prepared replies and keeps the messages that have reached it.

An answer sends the client nowhere else: one that names another place to ask is not among the
replies.
-/

namespace Leasehold.Blob

/-- Whether a character does not count at the ends of a header's value. -/
def isHeaderBlank (c : Char) : Bool := c == ' ' || c == '\t'

/-- A request as it goes out, with the headers that the client writes, and behind them one more for
the user whom the URL of the service names. -/
structure Message where
  method : String
  target : String
  headers : List (String × String)
  credentials : Option String
  deriving DecidableEq, Repr

namespace Message

/-- A message as it is read at the other end: blanks around the value of a header do not count. -/
def asRead (m : Message) : Message :=
  let read (value : String) := String.ofList (Text.stripped isHeaderBlank value.toList)
  { m with headers := m.headers.map fun h => (h.1, read h.2) }

end Message

/-- What comes back: an answer with its status and error code, or nothing because the connection is
closed, because nobody answers in time, or because there is no way to the service. -/
inductive Reply
  | answered (status : Nat) (code : Option String)
  | dropped
  | silent
  | unreachable
  deriving DecidableEq, Repr

/-- The failure that an answer's status and error code stand for. -/
def failureOf (status : Nat) (code : Option String) : CallFailure :=
  match code with
  | some "ContainerAlreadyExists" | some "BlobAlreadyExists" => .present
  | some "LeaseIdMissing" => .leased
  | some "LeaseAlreadyPresent" | some "LeaseIsBreakingAndCannotBeAcquired" => .heldByOther
  | some "LeaseIdMismatchWithLeaseOperation" | some "LeaseNotPresentWithLeaseOperation"
  | some "LeaseIsBrokenAndCannotBeRenewed" | some "LeaseLost" => .notHolder
  | _ => .status status code

/-- Whether a character can stand in a header that is read as text. -/
def isHeaderText (c : Char) : Bool := c == '\t' || (0x20 ≤ c.toNat && c.toNat < 0x7F)

/-- An error code as it is read from its header: without blanks at its ends, and only if it is plain
text. -/
def readCode (code : String) : Option String :=
  let cs := Text.stripped isHeaderBlank code.toList
  if cs.all isHeaderText then some (String.ofList cs) else none

namespace Reply

/-- What a reply means for the call. -/
def answer : Reply → Answer
  | answered status code =>
    if 200 ≤ status ∧ status < 300 then .ok () else .error (failureOf status (code.bind readCode))
  | dropped | unreachable => .error (.http .connection)
  | silent => .error (.http .timedOut)

/-- A reply as it is noticed by a client that does not wait any longer than it has patience. -/
def noticed (patience lag : Span) (r : Reply) : Reply := if patience < lag then .silent else r

end Reply

/-- A service with states `σ`, and what else a client meets: the reply to a message and how long it
takes, the clock in seconds, what becomes of a state while the client waits, and its next draw. -/
structure Service (σ : Type) where
  reply : σ → Message → σ × Reply
  lag : σ → Message → Span
  clock : σ → Nat
  wait : σ → Span → σ
  draw : σ → Draw

/-- A service with prepared replies: those that come next, the one for all messages after them, the
messages that have reached it, and the time. -/
structure Script where
  replies : List Reply
  afterwards : Reply
  received : List Message
  time : Nat

namespace Script

/-- The next reply. -/
def next (s : Script) : Reply × List Reply :=
  match s.replies with
  | [] => (s.afterwards, [])
  | r :: rest => (r, rest)

/-- Takes a message.  One that finds no way has not reached the service. -/
def take (s : Script) (m : Message) : Script × Reply :=
  let (r, rest) := s.next
  let received := if r = .unreachable then s.received else s.received ++ [m.asRead]
  ({ s with replies := rest, received := received }, r)

/-- Lets time pass, of which the clock shows the whole seconds. -/
def wait (s : Script) (d : Span) : Script := { s with time := s.time + d.seconds }

/-- The service that follows its script: it replies at once, and all draws are in the middle. -/
def service : Service Script where
  reply := take
  lag _ _ := .zero
  clock := time
  wait := wait
  draw _ := .middle

end Script

end Leasehold.Blob
