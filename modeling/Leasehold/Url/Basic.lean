import Leasehold.Url.Host
import Leasehold.Url.Path

/-!
# URLs

A URL in its normal form: every part is encoded as it stands in the text, a default port is left
out, and the path of a scheme with hosts is followed to its end.

* `Url.text` writes a URL; `Url.location` leaves out the user and the fragment.
* `Url.withPath` and `Url.addQuery` make the URL of a resource from that of a service.
-/

namespace Leasehold

/-- A URL in normal form. -/
structure Url where
  scheme : String
  user : String
  password : String
  host : Option Url.Host
  port : Option Nat
  path : String
  query : Option String
  fragment : Option String
  deriving DecidableEq, Repr

namespace Url

/-- The default port of a scheme. -/
def defaultPort? (scheme : String) : Option Nat :=
  match scheme with
  | "http" | "ws" => some 80
  | "https" | "wss" => some 443
  | "ftp" => some 21
  | _ => none

/-- Whether URLs of a scheme have the rules for hosts and paths that all known schemes share. -/
def isSpecial (scheme : String) : Bool := (defaultPort? scheme).isSome || scheme == "file"

/-- Whether the path has no segments: it belongs to no host and does not begin with a slash. -/
def isRigid (u : Url) : Bool := u.host.isNone && !u.path.startsWith "/"

/-- The user and the password as they stand before the host. -/
def userText (u : Url) : String :=
  if u.user.isEmpty && u.password.isEmpty then ""
  else u.user ++ (if u.password.isEmpty then "" else ":" ++ u.password) ++ "@"

/-- The host and the port. -/
def hostText (u : Url) : String :=
  ((u.host.map Host.text).getD "") ++ ((u.port.map fun n => ":" ++ toString n).getD "")

/-- What stands between the scheme and the path. -/
def authority (u : Url) (user : String) : String :=
  match u.host with
  | some _ => "//" ++ user ++ u.hostText
  | none => if u.path.startsWith "//" then "/." else ""

/-- The query with its mark. -/
def queryText (u : Url) : String := (u.query.map fun q => "?" ++ q).getD ""

/-- The URL as a text. -/
def text (u : Url) : String :=
  u.scheme ++ ":" ++ u.authority u.userText ++ u.path ++ u.queryText ++
    ((u.fragment.map fun f => "#" ++ f).getD "")

/-- The URL as its host is asked for it: without the user, who is named in another place, and
without the fragment. -/
def location (u : Url) : String :=
  u.scheme ++ ":" ++ u.authority "" ++ u.path ++ u.queryText

/-- The host as a text, if there is one. -/
def hostName? (u : Url) : Option String :=
  match u.host with
  | some (.raw "") | none => none
  | some h => some h.text

/-- Whether a character is passed over wherever it stands in a URL. -/
def isPassedOver (c : Char) : Bool := c == '\t' || c == '\n' || c == '\r'

/-- The URL with another path, which is encoded. -/
def withPath (u : Url) (path : String) : Url :=
  let cs := path.toList.filter (!isPassedOver ·)
  let encoded :=
    if u.isRigid then
      match cs with
      | '/' :: rest => '%' :: '2' :: 'F' :: percentEncode EncodeSet.control rest
      | _ => percentEncode EncodeSet.control cs
    else pathOf (isSpecial u.scheme) cs
  { u with path := String.ofList encoded }

/-- A name and a value as they stand in a query. -/
def pairText (pair : String × String) : String :=
  String.ofList (formEncode pair.1.toList ++ '=' :: formEncode pair.2.toList)

/-- The URL with pairs added to its query. -/
def addQuery (u : Url) (pairs : List (String × String)) : Url :=
  match pairs with
  | [] => u
  | _ =>
    let added := "&".intercalate (pairs.map pairText)
    let query := match u.query with
      | none | some "" => added
      | some q => q ++ "&" ++ added
    { u with query := some query }

end Url

end Leasehold
