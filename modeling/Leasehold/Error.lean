import Leasehold.Name
import Leasehold.Term
import Leasehold.Time.Seconds

/-!
# What can go wrong

One type per layer: `CallFailure` for a call to the storage service, `SetupFailure` for rejected
construction input, `Misuse` for an operation at the wrong stage, `Loss` for a lease that can
no longer be renewed, and `LockFailure` for all that a lock operation answers.  Each has its wording
in `message` and its structure in `debug`.
-/

namespace Leasehold

/-- A failure below the storage service's own answers. -/
inductive HttpFailure
  | connection
  | timedOut
  | unsendable
  deriving DecidableEq, Repr

namespace HttpFailure

/-- The failure in words. -/
def message : HttpFailure → String
  | connection => "error sending request"
  | timedOut => "operation timed out"
  | unsendable => "builder error"

/-- Whether the same request may succeed when it is sent again. -/
def isTransient : HttpFailure → Bool
  | unsendable => false
  | _ => true

end HttpFailure

/-- Why a call to the storage service failed. -/
inductive CallFailure
  | present
  | leased
  | heldByOther
  | notHolder
  | status (status : Nat) (code : Option String)
  | http (failure : HttpFailure)
  | timeout
  deriving DecidableEq, Repr

namespace CallFailure

/-- The error in words. -/
def message : CallFailure → String
  | present => "Resource already exists"
  | leased => "Object exists with an active lease"
  | heldByOther => "Lease is held by another owner"
  | notHolder => "Lease is not held under the given id"
  | status n code =>
    "Storage request failed with status " ++ toString n ++ ": " ++ code.getD "no error code"
  | http f => "HTTP error: " ++ f.message
  | timeout => "Storage request timed out"

/-- The error's structure. -/
def debug : CallFailure → String
  | present => "AlreadyExists"
  | leased => "LeaseMissing"
  | heldByOther => "LeaseHeld"
  | notHolder => "LeaseLost"
  | status n code =>
    let written := match code with
      | none => "None"
      | some c => "Some(" ++ Text.quoted c ++ ")"
    "Status \x7b status: " ++ toString n ++ ", code: " ++ written ++ " \x7d"
  | http f => "Http(" ++ f.message ++ ")"
  | timeout => "Timeout"

/-- Whether the same request is worth sending again. -/
def isTransient : CallFailure → Bool
  | timeout => true
  | http f => f.isTransient
  | status n _ => 500 ≤ n || n == 408 || n == 429
  | _ => false

end CallFailure

/-- Rejected construction input. -/
inductive SetupFailure
  | noKey
  | termOutOfRange (term : Span)
  | badName (error : NameFailure)
  | notUrl (url reason : String)
  | insecure (url : String)
  | notRoot (url : String)
  | badKey
  | noAccountName (url : String)
  deriving DecidableEq, Repr

namespace NameFailure

/-- The error's structure. -/
def debug : NameFailure → String
  | tooShort n => "TooShort \x7b name: " ++ Text.quoted n ++ " \x7d"
  | tooLong n => "TooLong \x7b name: " ++ Text.quoted n ++ " \x7d"
  | foreignCharacter n c i =>
    "InvalidCharacter \x7b name: " ++ Text.quoted n ++ ", ch: " ++ Text.quotedChar c ++
      ", index: " ++ toString i ++ " \x7d"
  | leadingHyphen n => "LeadingHyphen \x7b name: " ++ Text.quoted n ++ " \x7d"
  | trailingHyphen n => "TrailingHyphen \x7b name: " ++ Text.quoted n ++ " \x7d"
  | doubleHyphen n => "ConsecutiveHyphens \x7b name: " ++ Text.quoted n ++ " \x7d"

end NameFailure

namespace SetupFailure

/-- The endpoint that error texts give as an example. -/
def sampleEndpoint : String := "'https://myaccount.blob.core.windows.net'"

/-- The error in words. -/
def message : SetupFailure → String
  | noKey => "Empty access key is invalid"
  | termOutOfRange d =>
    "Lock TTL of " ++ Shortest.text d.toSeconds ++ "s is outside the allowed range of 15-60s"
  | badName e => "Invalid lock name: " ++ e.message
  | notUrl url reason => "Failed to parse storage endpoint " ++ url ++ ": " ++ reason
  | insecure url =>
    "Storage endpoint must use https, expected " ++ sampleEndpoint ++ ", got: " ++ url
  | notRoot url =>
    "Storage endpoint must address the account root, expected " ++ sampleEndpoint ++ ", got: " ++
      url
  | badKey => "Access key must be valid base64"
  | noAccountName url => "Couldn't extract an account name from: " ++ url

/-- The error's structure. -/
def debug : SetupFailure → String
  | noKey => "EmptyAccessKey"
  | termOutOfRange d => "TtlOutOfRange(" ++ d.text ++ ")"
  | badName e => "InvalidName(" ++ e.debug ++ ")"
  | notUrl url reason =>
    "InvalidEndpoint \x7b url: " ++ Text.quoted url ++ ", reason: " ++ Text.quoted reason ++ " \x7d"
  | insecure url => "InsecureEndpoint(" ++ Text.quoted url ++ ")"
  | notRoot url => "EndpointHasPath(" ++ Text.quoted url ++ ")"
  | badKey => "InvalidAccessKey"
  | noAccountName url => "MissingAccountName(" ++ Text.quoted url ++ ")"

/-- The words of the causes below this error. -/
def causes : SetupFailure → List String
  | badName e => [e.message]
  | _ => []

end SetupFailure

namespace Term

/-- The term of a span, or the error that it is out of range. -/
def check (d : Span) : Except SetupFailure Term :=
  match ofSpan? d with
  | some t => .ok t
  | none => .error (.termOutOfRange d)

end Term

/-- An operation called at a stage that does not allow it. -/
inductive Misuse
  | alreadyAcquired
  | notAcquired
  | released
  deriving DecidableEq, Repr

namespace Misuse

/-- The error in words. -/
def message : Misuse → String
  | alreadyAcquired => "lock already acquired, call renew to extend it"
  | notAcquired => "lock not acquired"
  | released => "lock instance already released and cannot be reused"

/-- The error's structure. -/
def debug : Misuse → String
  | alreadyAcquired => "AlreadyAcquired"
  | notAcquired => "NotAcquired"
  | released => "Released"

end Misuse

/-- What one lock instance signs its lease calls with. -/
structure LeaseId where
  text : String
  deriving DecidableEq, Repr

/-- The news that a held lease could not be renewed. -/
structure Loss where
  name : String
  id : LeaseId
  reason : String
  deriving DecidableEq, Repr

namespace Loss

/-- The loss in words. -/
def message (l : Loss) : String :=
  "Lock " ++ l.name ++ " (" ++ l.id.text ++ ") lost: " ++ l.reason

/-- The loss's structure. -/
def debug (l : Loss) : String :=
  "LockLost \x7b name: " ++ Text.quoted l.name ++ ", id: " ++ l.id.text ++ ", reason: " ++
    Text.quoted l.reason ++ " \x7d"

end Loss

/-- What a lock operation answers when it fails. -/
inductive LockFailure
  | setup (error : SetupFailure)
  | contended (name : String)
  | call (error : CallFailure)
  | misuse (misuse : Misuse)
  | lost (loss : Loss)
  | cancelled
  deriving DecidableEq, Repr

namespace LockFailure

/-- The error in words. -/
def message : LockFailure → String
  | setup e => "Invalid lock configuration: " ++ e.message
  | contended n => "Lock " ++ n ++ " is held by another owner"
  | call e => "Lease transport error: " ++ e.message
  | misuse m => "Invalid lock operation: " ++ m.message
  | lost l => l.message
  | cancelled => "Lock operation cancelled"

/-- The error's structure. -/
def debug : LockFailure → String
  | setup e => "Config(" ++ e.debug ++ ")"
  | contended n => "Contention \x7b name: " ++ Text.quoted n ++ " \x7d"
  | call e => "Transport(" ++ e.debug ++ ")"
  | misuse m => "Misuse(" ++ m.debug ++ ")"
  | lost l => "Lost(" ++ l.debug ++ ")"
  | cancelled => "Cancelled"

/-- The words of the causes below this error, nearest first. -/
def causes : LockFailure → List String
  | setup e => e.message :: e.causes
  | misuse m => [m.message]
  | _ => []

/-- Whether the same operation may succeed later: contention and failed calls only. -/
def isRetryable : LockFailure → Bool
  | contended _ | call _ => true
  | _ => false

end LockFailure

end Leasehold
