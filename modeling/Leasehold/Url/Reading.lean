import Leasehold.Url.Basic

/-!
# Reading URLs

`Url.parse` reads a text as an absolute URL, the way a browser does: blanks around it are passed
over, backslashes count as slashes in known schemes, and what cannot stand as it is gets encoded.

A fragment begins at the first `#` and a query at the first `?` before it, so both are cut off
first.  What is left after the scheme is the authority and the path.
-/

namespace Leasehold.Url

/-- Whether a character is passed over around a URL. -/
def isSurrounding (c : Char) : Bool := c.toNat ≤ 0x20

/-- The text of a URL without the characters that do not count. -/
def cleaned (s : String) : List Char :=
  let inner := ((s.toList.dropWhile isSurrounding).reverse.dropWhile isSurrounding).reverse
  inner.filter (!isPassedOver ·)

/-- Whether a character can stand in a scheme. -/
def isSchemeChar (c : Char) : Bool := c.isAlphanum || c == '+' || c == '-' || c == '.'

/-- The scheme in lowercase and what follows its colon. -/
def scheme? (cs : List Char) : Option (String × List Char) :=
  match cs with
  | [] => none
  | c :: _ =>
    let name := cs.takeWhile isSchemeChar
    match c.isAlpha, cs.drop name.length with
    | true, ':' :: rest => some (String.ofList (name.map Char.toLower), rest)
    | _, _ => none

/-- A text up to the first mark, and what follows the mark. -/
def cutAt (mark : Char) (cs : List Char) : List Char × Option (List Char) :=
  match cs.dropWhile (· ≠ mark) with
  | [] => (cs, none)
  | _ :: rest => (cs.takeWhile (· ≠ mark), some rest)

/-- The text before the last occurrence of a mark, if there is one, and the text after it. -/
def cutAtLast (mark : Char) (cs : List Char) : Option (List Char) × List Char :=
  match cutAt mark cs.reverse with
  | (after, some before) => (some before.reverse, after.reverse)
  | (_, none) => (none, cs)

/-- The encoded name and password before the `@` of an authority. -/
def userOf (cs : List Char) : String × String :=
  let (name, password) := cutAt ':' cs
  (String.ofList (percentEncode EncodeSet.user name),
    String.ofList (percentEncode EncodeSet.user (password.getD [])))

/-- The host's text before the first colon outside brackets, and what follows. -/
def cutHost (inBrackets : Bool) : List Char → List Char × List Char
  | [] => ([], [])
  | c :: rest =>
    if c = ':' ∧ ¬inBrackets then ([], c :: rest)
    else
      let inside := if c = '[' then true else if c = ']' then false else inBrackets
      let (host, more) := cutHost inside rest
      (c :: host, more)

/-- One more than the largest port. -/
def portLimit : Nat := 65536

/-- The port that digits write; none if there are no digits. -/
def port? (digits : List Char) : Except UrlError (Option Nat) :=
  if digits.isEmpty then .ok none
  else match number? 10 digits with
    | some n => if n < portLimit then .ok (some n) else .error .port
    | none => .error .port

/-- A host and a port, and the rest of the authority, which belongs to the path. -/
structure HostAndPort where
  host : Host
  port : Option Nat
  rest : List Char

/-- Reads a host and a port.  The default port is left out. -/
def hostAndPort? (scheme : String) (cs : List Char) : Except UrlError HostAndPort := do
  let special := isSpecial scheme
  let (name, more) := cutHost false cs
  if name.isEmpty && (special || !more.isEmpty) then throw .emptyHost
  let host ← if special then Host.ofText? name else Host.ofRawText? name
  let digits := (more.drop 1).takeWhile (· ≠ '\\')
  let port ← port? digits
  pure ⟨host, if port = defaultPort? scheme then none else port, (more.drop 1).drop digits.length⟩

/-- The encoded query of a scheme. -/
def queryOf (special : Bool) (cs : List Char) : String :=
  String.ofList
    (percentEncode (if special then EncodeSet.specialQuery else EncodeSet.query) cs)

/-- The encoded fragment. -/
def fragmentOf (cs : List Char) : String := String.ofList (percentEncode EncodeSet.fragment cs)

/-- The path behind a host.  Only schemes without rules of their own have empty ones. -/
def pathBehindHost (special : Bool) (cs : List Char) : List Char :=
  if special || !cs.isEmpty then pathOf special cs else []

/-- The parts of a URL before its query; `more` says whether a query or a fragment follows. -/
def withAuthority? (scheme : String) (cs : List Char) (more : Bool) : Except UrlError Url := do
  let special := isSpecial scheme
  let authority := cs.takeWhile (!isSlash special ·)
  let path := cs.drop authority.length
  let (user, place) := cutAtLast '@' authority
  if user = some [] && place.isEmpty && (more || !path.isEmpty) then throw .emptyHost
  let (name, password) := userOf (user.getD [])
  let found ← hostAndPort? scheme place
  if found.host = .raw "" && !(name.isEmpty && password.isEmpty) then throw .emptyHost
  let path := pathBehindHost special (found.rest ++ path)
  pure ⟨scheme, name, password, some found.host, found.port, String.ofList path, none, none⟩

/-- The path of a file: no empty segments at its start, and a colon after a drive letter. -/
def filePath (cs : List Char) : List Segment :=
  let found := segments true cs
  let body := found.dropWhile List.isEmpty
  match body with
  | [] => [[]]
  | s :: rest => if Segment.isDrive s then (s.take 1 ++ [':']) :: rest else s :: rest

/-- The parts of a file's URL before its query.  A drive letter is never a host, and a path that
begins with one has no host. -/
def withFile? (cs : List Char) : Except UrlError Url := do
  let slash := isSlash true
  let build (host : Host) (path : List Char) : Url :=
    let found := filePath path
    let host := if (found.head?.map Segment.isDrive).getD false then .raw "" else host
    ⟨"file", "", "", some host, none, String.ofList (pathText found), none, none⟩
  match cs with
  | a :: b :: rest =>
    if slash a && slash b then
      let name := rest.takeWhile (!slash ·)
      if name.isEmpty || Segment.isDrive name then pure (build (.raw "") rest)
      else do
        let host ← Host.ofText? name
        let host := if host = .domain "localhost" then .raw "" else host
        pure (build host (rest.drop name.length))
    else pure (build (.raw "") cs)
  | _ => pure (build (.raw "") cs)

/-- The parts of a URL before its query. -/
def withScheme? (scheme : String) (cs : List Char) (more : Bool) : Except UrlError Url :=
  if scheme = "file" then withFile? cs
  else if isSpecial scheme then withAuthority? scheme (cs.dropWhile (isSlash true)) more
  else
    match cs with
    | '/' :: '/' :: rest => withAuthority? scheme rest more
    | '/' :: _ => .ok ⟨scheme, "", "", none, none, String.ofList (pathOf false cs), none, none⟩
    | _ =>
      let path := String.ofList (percentEncode EncodeSet.control cs)
      .ok ⟨scheme, "", "", none, none, path, none, none⟩

/-- Reads an absolute URL. -/
def parse (s : String) : Except UrlError Url :=
  match scheme? (cleaned s) with
  | none => .error .relative
  | some (scheme, rest) => do
    let (main, fragment) := cutAt '#' rest
    let (main, query) := cutAt '?' main
    let u ← withScheme? scheme main (query.isSome || fragment.isSome)
    pure { u with
      query := query.map (queryOf (isSpecial scheme))
      fragment := fragment.map fragmentOf }

end Leasehold.Url
