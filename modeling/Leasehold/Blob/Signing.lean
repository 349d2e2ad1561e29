import Leasehold.Digest.Hmac
import Leasehold.Encoding.Base64
import Leasehold.Text.Blank
import Leasehold.Text.Lowercase
import Leasehold.Url.Percent

/-!
# Signed requests

The service recognises its clients by a signature over the parts of a request that matter.

* `Fields` is a list of named values in the order of their names.
* `resourceText` names what a request is about and `signingText` the whole request.
* `sign` is the signature of a text under the account's key.
-/

namespace Leasehold.Blob

/-- Named values, each name once, in the order of the names. -/
abbrev Fields := List (String × String)

namespace Fields

/-- Puts a value in its place; it takes the place of an older one of the same name. -/
def insert (name value : String) : Fields → Fields
  | [] => [(name, value)]
  | (n, v) :: rest =>
    if n = name then (name, value) :: rest
    else if name < n then (name, value) :: (n, v) :: rest
    else (n, v) :: insert name value rest

/-- Named values put in their places, the last one of each name. -/
def ofList (pairs : List (String × String)) : Fields :=
  pairs.foldl (fun fields pair => insert pair.1 pair.2 fields) []

end Fields

/-- What a request is about: the account and the path, and a line for each parameter in the order of
their lowercase names. -/
def resourceText (account path : String) (query : List (String × String)) : String :=
  let parameters := Fields.ofList (query.map fun pair => (Text.lowercase pair.1, pair.2))
  parameters.foldl (fun text pair => text ++ "\n" ++ pair.1 ++ ":" ++ pair.2)
    ("/" ++ account ++ path)

/-- A line for each of the service's own headers: the lowercase name and the value without the white
space around it. -/
def headerText (headers : Fields) : String :=
  headers.foldl (fun text pair =>
    text ++ Text.lowercase pair.1 ++ ":" ++ Text.trimmed pair.2 ++ "\n") ""

/-- A request as one text: the method, the standard headers, of which only the condition is ever
set, the service's own headers, and what the request is about.  The length of an empty body counts
as nothing. -/
def signingText (method : String) (condition : Option String) (headers : Fields)
    (resource : String) : String :=
  method ++ "\n\n\n\n\n\n\n\n\n" ++ condition.getD "" ++ "\n\n\n" ++ headerText headers ++
    resource

/-- The signature of a text. -/
def sign (key : List UInt8) (text : String) : String :=
  String.ofList (Base64.encode (Hmac.sign key (Url.utf8 text.toList)))

end Leasehold.Blob
