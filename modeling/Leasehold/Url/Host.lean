import Leasehold.Domain.Ascii
import Leasehold.Url.Address
import Leasehold.Url.Percent

/-!
# Hosts of URLs

A host is a domain name, a numerical address, or, in schemes without rules of their own, any text
without delimiters.

* `Host.ofText?` reads the host of a scheme that has a default port, or of a file.
* `Host.ofRawText?` reads the host of any other scheme.
-/

namespace Leasehold

/-- Why a text is no URL. -/
inductive UrlError
  | relative
  | emptyHost
  | port
  | ipv4
  | ipv6
  | domainName
  | hostCharacter
  deriving DecidableEq, Repr

namespace UrlError

/-- The error in words. -/
def message : UrlError → String
  | relative => "relative URL without a base"
  | emptyHost => "empty host"
  | port => "invalid port number"
  | ipv4 => "invalid IPv4 address"
  | ipv6 => "invalid IPv6 address"
  | domainName => "invalid international domain name"
  | hostCharacter => "invalid domain character"

end UrlError

namespace Url

/-- The host of a URL. -/
inductive Host
  | domain (name : String)
  | ipv4 (address : Nat)
  | ipv6 (groups : List Nat)
  | raw (text : String)
  deriving DecidableEq, Repr

namespace Host

/-- The host as it stands in a URL. -/
def text : Host → String
  | domain name => name
  | ipv4 address => ipv4Text address
  | ipv6 groups => "[" ++ ipv6Text groups ++ "]"
  | raw text => text

/-- An address between brackets. -/
def bracketed? (cs : List Char) : Except UrlError Host :=
  if cs.getLast? = some ']' then
    match ipv6? (cs.drop 1).dropLast with
    | some groups => .ok (.ipv6 groups)
    | none => .error .ipv6
  else .error .ipv6

/-- The host that a domain name is: an address if it ends in a number. -/
def ofDomain? (name : List Char) : Except UrlError Host :=
  if name.isEmpty then .error .emptyHost
  else if endsInNumber name then
    match ipv4? name with
    | some address => .ok (.ipv4 address)
    | none => .error .ipv4
  else .ok (.domain (String.ofList name))

/-- The host that a text names where names are looked up. -/
def ofText? (cs : List Char) : Except UrlError Host :=
  if cs.head? = some '[' then bracketed? cs
  else
    match (textOf? (percentDecode (utf8 cs))).bind Domain.toAscii? with
    | none => .error .domainName
    | some name => ofDomain? name

/-- The characters that no host may hold. -/
def isDelimiter (c : Char) : Bool := "\x00\t\n\r #/:<>?@[\\]^|".toList.contains c

/-- The host that a text names where names mean nothing. -/
def ofRawText? (cs : List Char) : Except UrlError Host :=
  if cs.head? = some '[' then bracketed? cs
  else if cs.any isDelimiter then .error .hostCharacter
  else .ok (.raw (String.ofList (percentEncode EncodeSet.control cs)))

end Host

end Url

end Leasehold
