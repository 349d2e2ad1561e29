import Leasehold.Account
import Leasehold.Backoff
import Leasehold.Blob.Settings
import Leasehold.Blob.Put
import Leasehold.Blob.Service
import Leasehold.Time.Calendar
import Leasehold.Url.Sending

/-!
# The blob client

The client makes a signed request of a call, sends it until an answer is final or the tries are used
up, and says what the answer means.  Between two tries it waits, and the delays grow; a delay that
cannot be computed ends the call without a result.

* `Client.compose` is the message for a request at an instant.
* `Client.send` sends a request; `Exchange` tells what was sent and how it ended.
* `Client.call` makes a call.  A release that is answered with a lost lease after the first try has
  succeeded: an earlier try may have released the lease and lost its answer.
-/

namespace Leasehold.Blob

/-- A client of one account. -/
structure Client where
  endpoint : Url
  account : String
  key : List UInt8
  settings : Settings

/-- The messages of a call, its answer or the fault that has ended it without one, and the service's
state after it. -/
structure Exchange (σ : Type) where
  sent : List Message
  result : Except BackoffFault Answer
  state : σ

namespace Client

/-- The client of a storage account. -/
def ofAccount (a : Account) (settings : Settings) : Client := ⟨a.endpoint, a.name, a.key, settings⟩

/-- The method of all requests. -/
def method : String := "PUT"

/-- The service's own headers of a request at an instant. -/
def headers (c : Client) (p : Put) (now : Nat) : Fields :=
  Fields.insert "x-ms-version" c.settings.version
    (Fields.insert "x-ms-date" (Calendar.headerDate now) p.headers)

/-- What is signed of a request. -/
def signedText (c : Client) (p : Put) (now : Nat) : String :=
  signingText method p.condition (c.headers p now) (resourceText c.account p.path p.query)

/-- The header with the signature. -/
def authorization (c : Client) (p : Put) (now : Nat) : String :=
  "SharedKey " ++ c.account ++ ":" ++ sign c.key (c.signedText p now)

/-- The URL of a request. -/
def url (c : Client) (p : Put) : Url := (c.endpoint.withPath p.path).addQuery p.query

/-- Where a request goes. -/
def target (c : Client) (p : Put) : String := (c.url p).location

/-- Whether a header's value can be sent: no control character but the tab. -/
def isSendable (value : String) : Bool :=
  value.toList.all fun c => c == '\t' || !Url.EncodeSet.control c

/-- The schemes that requests can be sent by. -/
def schemes : List String := ["http", "https"]

/-- The message for a request at an instant.  It cannot be sent by another scheme, to a host that
cannot stand in an address, to a URL that is too long, or with a value that no header can have. -/
def compose (c : Client) (p : Put) (now : Nat) : Except HttpFailure Message :=
  let own := c.headers p now
  let condition := (p.condition.map fun v => ("if-none-match", v)).toList
  let all := ("authorization", c.authorization p now) :: condition ++ own
  let u := c.url p
  if schemes.contains u.scheme && u.hasPlainHost && u.isShort &&
      all.all (fun h => isSendable h.2) then
    .ok ⟨method, c.target p, all, u.credentials?⟩
  else .error .unsendable

variable {σ : Type}

/-- Sends a message and waits for what comes back. -/
def ask (c : Client) (service : Service σ) (m : Message) (s : σ) : σ × Answer :=
  let (s', r) := service.reply s m
  (s', (r.noticed c.settings.patience (service.lag s m)).answer)

/-- Waits for the next delay, or for the ceiling if there is none. -/
def pause (service : Service σ) (b : Backoff) (s : σ) : Except BackoffFault (Backoff × σ) :=
  match b.next (.ofSeconds (service.clock s)) (service.draw s) with
  | .ok (delay, b) => .ok (b, service.wait s (delay.getD b.ceiling))
  | .error fault => .error fault

/-- Sends a request, and sends it again up to `more` times as long as the failure may pass. -/
def sendUpTo (c : Client) (service : Service σ) (p : Put) : Nat → Backoff → σ → Exchange σ
  | more, b, s =>
    match c.compose p (service.clock s) with
    | .error f => ⟨[], .ok (.error (.http f)), s⟩
    | .ok m =>
      let (s, answer) := c.ask service m s
      match more, answer with
      | _, .ok () => ⟨[m], .ok answer, s⟩
      | 0, .error _ => ⟨[m], .ok answer, s⟩
      | more + 1, .error e =>
        if e.isTransient then
          match pause service b s with
          | .error fault => ⟨[m], .error fault, s⟩
          | .ok (b, s) =>
            let rest := sendUpTo c service p more b s
            { rest with sent := m :: rest.sent }
        else ⟨[m], .ok answer, s⟩

/-- The delays of a call that begins at an instant.  No budget limits them, so that it makes no
difference how late it is. -/
def delays (c : Client) (now : Span) : Backoff := .new c.settings.retryDelay none now

/-- Sends a request as often as the settings allow, at least once. -/
def send (c : Client) (service : Service σ) (p : Put) (s : σ) : Exchange σ :=
  c.sendUpTo service p (c.settings.tries - 1) (c.delays (.ofSeconds (service.clock s))) s

/-- Makes a call. -/
def call (c : Client) (service : Service σ) (r : Request) (s : σ) : Exchange σ :=
  let e := c.send service (.ofRequest r) s
  match r, e.result with
  | .release _ _, .ok (.error .notHolder) =>
    if 1 < e.sent.length then { e with result := .ok (.ok ()) } else e
  | _, _ => e

end Client

end Leasehold.Blob
