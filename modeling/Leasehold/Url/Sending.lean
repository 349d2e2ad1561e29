import Leasehold.Encoding.Base64
import Leasehold.Url.Basic

/-!
# URLs that requests are sent to

A host can hold characters that cannot stand in the address of a request, and the address has a
greatest length.

* `Url.hasPlainHost` and `Url.isShort`: what a request can be addressed with.
* `Url.credentials?`: a user in a URL is no part of the address; the request names the user instead.
-/

namespace Leasehold.Url

/-- A user's name or password without its encoding, if that is a text. -/
def decoded? (s : String) : Option String :=
  (textOf? (percentDecode (utf8 s.toList))).map String.ofList

/-- The name and the password of the user, unless both are missing or the name cannot be read. -/
def userInfo? (u : Url) : Option (String × Option String) :=
  match decoded? u.user with
  | none => none
  | some name =>
    let password := if u.password.isEmpty then none else decoded? u.password
    if name.isEmpty && password.isNone then none else some (name, password)

/-- The header by which a request names the user of its URL. -/
def credentials? (u : Url) : Option String :=
  u.userInfo?.map fun (name, password) =>
    "Basic " ++ String.ofList (Base64.encode (utf8 (name ++ ":" ++ password.getD "").toList))

/-- The address of a request.  A user who cannot be named in the request stays in it. -/
def address (u : Url) : Url :=
  if u.userInfo?.isSome then { u with user := "", password := "" } else u

/-- Whether a host can hold a character, but not the address of a request. -/
def isBarred (c : Char) : Bool := "\"`\x7b\x7d".toList.contains c

/-- Whether a URL has a host that can stand in the address of a request. -/
def hasPlainHost (u : Url) : Bool :=
  u.host.isSome && u.hostText.toList.all (!isBarred ·)

/-- The greatest number of bytes of an address. -/
def longestAddress : Nat := 65534

/-- Whether the address of a request is not too long; the fragment counts, though it is not sent. -/
def isShort (u : Url) : Bool := u.address.text.utf8ByteSize ≤ longestAddress

end Leasehold.Url
