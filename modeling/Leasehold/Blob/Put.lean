import Leasehold.Blob.Signing
import Leasehold.Lease.Request

/-!
# The five calls as requests

Every call to the lease service is a `PUT` without a body.  `Put.ofRequest` says which path, which
parameters, which of the service's headers and which condition a call has.
-/

namespace Leasehold.Blob

/-- What is particular to one request. -/
structure Put where
  path : String
  query : List (String × String)
  headers : Fields
  condition : Option String
  deriving DecidableEq, Repr

namespace Put

/-- A request on a lease, with the headers of the action. -/
def lease (o : ObjectPath) (action : String) (headers : Fields) : Put where
  path := "/" ++ o.container ++ "/" ++ o.name
  query := [("comp", "lease")]
  headers := Fields.insert "x-ms-lease-action" action headers
  condition := none

/-- The request of a call. -/
def ofRequest : Request → Put
  | .createContainer c => ⟨"/" ++ c, [("restype", "container")], [], none⟩
  | .createObject o =>
    ⟨"/" ++ o.container ++ "/" ++ o.name, [], [("x-ms-blob-type", "BlockBlob")], some "*"⟩
  | .acquire o id secs =>
    lease o "acquire"
      (.ofList [("x-ms-lease-duration", toString secs), ("x-ms-proposed-lease-id", id.text)])
  | .renew o id => lease o "renew" [("x-ms-lease-id", id.text)]
  | .release o id => lease o "release" [("x-ms-lease-id", id.text)]

end Put

end Leasehold.Blob
