import Leasehold.Encoding.Base64
import Leasehold.Error
import Leasehold.Url.Reading

/-!
# Storage accounts

An account is the service it lives at and the key that signs its requests.  Its name is the first
label of the service's host.

* `Account.read` reads an endpoint and a key and gives the first thing that is wrong with them.
-/

namespace Leasehold

/-- A storage account. -/
structure Account where
  name : String
  endpoint : Url
  key : List UInt8
  deriving DecidableEq, Repr

namespace Account

/-- The scheme that an endpoint must have. -/
def secureScheme : String := "https"

/-- Whether a URL is the root of its host. -/
def isRoot (u : Url) : Bool := u.path == "/" && u.query.isNone && u.fragment.isNone

/-- The text before the first dot of a host. -/
def firstLabel (host : String) : String := String.ofList (host.toList.takeWhile (· ≠ '.'))

/-- The account's name in a URL, unless it is empty. -/
def nameIn? (u : Url) : Option String :=
  match u.hostName? with
  | none => none
  | some host => if (firstLabel host).isEmpty then none else some (firstLabel host)

/-- The account at an endpoint, whose requests a key in base64 signs. -/
def read (endpoint accessKey : String) : Except SetupFailure Account :=
  if accessKey.isEmpty then .error .noKey
  else
    match Url.parse endpoint with
    | .error e => .error (.notUrl endpoint e.message)
    | .ok url =>
      if url.scheme ≠ secureScheme then .error (.insecure endpoint)
      else if !isRoot url then .error (.notRoot endpoint)
      else
        match Base64.decode? accessKey.toList with
        | none => .error .badKey
        | some key =>
          match nameIn? url with
          | none => .error (.noAccountName endpoint)
          | some name => .ok ⟨name, url, key⟩

/-- The account without its key. -/
def debug (a : Account) : String :=
  "StorageAccount \x7b name: " ++ Text.quoted a.name ++ ", endpoint: " ++
    Text.quoted a.endpoint.text ++ ", .. \x7d"

end Account

end Leasehold
