import LiveQuery.Endpoint.Authority
import LiveQuery.Endpoint.Path

/-!
# URLs of web sockets

A URL of the scheme `ws` or `wss`, read by the rules of the web: blanks and control characters at
both ends and line breaks and tabs anywhere do not count, any number of slashes may follow the
scheme, a backslash is as good as a slash, and every part is brought into its canonical form.
`Url.write` gives the canonical text. A URL of any other scheme is refused, but a malformed
one is reported as malformed first.
-/

namespace LiveQuery

/-- A URL of a web socket. -/
structure Url where
  /-- Is the scheme `wss`? -/
  secure : Bool
  authority : Authority
  path : Path
  /-- Percent-encoded. -/
  query : Option String
  /-- Percent-encoded. -/
  fragment : Option String
deriving DecidableEq, Repr, Inhabited

/-- Why a text is not the URL of an endpoint. -/
inductive EndpointError where
  /-- It is no URL. -/
  | invalidUrl (text : String) (cause : UrlError)
  /-- Its scheme is not one of web sockets. -/
  | otherScheme (text scheme : String)
deriving DecidableEq, Repr, Inhabited

/-- The wording of an endpoint error. -/
def EndpointError.message : EndpointError → String
  | .invalidUrl text cause => text ++ " is an invalid url: " ++ cause.message
  | .otherScheme text scheme =>
    "the url " ++ text ++ " has invalid schema " ++ scheme ++ ", only ws or wss is ok"

namespace Url

/-! ## Scheme -/

/-- The text without what does not count. -/
def strip (cs : List Char) : List Char :=
  let blank (c : Char) : Bool := c ≤ ' '
  let trimmed := ((cs.dropWhile blank).reverse.dropWhile blank).reverse
  trimmed.filter fun c => c != '\t' && c != '\n' && c != '\r'

/-- May the character stand in a scheme, after the first letter? -/
def isSchemeChar (c : Char) : Bool :=
  c.isAlphanum || c = '+' || c = '-' || c = '.'

/-- The scheme, in lower case, and what follows its colon. -/
def splitScheme? (cs : List Char) : Option (List Char × List Char) :=
  let scheme := cs.takeWhile isSchemeChar
  match cs.head?, cs.drop scheme.length with
  | some c, ':' :: rest => if c.isAlpha then some (scheme.map Char.toLower, rest) else none
  | _, _ => none

/-- The default port of a scheme that the web defines, other than that of files. -/
def defaultPort? (scheme : String) : Option Nat :=
  match scheme with
  | "ws" | "http" => some 80
  | "wss" | "https" => some 443
  | "ftp" => some 21
  | _ => none

/-! ## Parts -/

/-- Does the character end an authority? -/
def endsAuthority (web : Bool) (c : Char) : Bool :=
  c = '/' || c = '?' || c = '#' || (web && c = '\\')

/-- Fragment and query are split off at the first hash sign and the first question mark before
it. -/
def splitTail (cs : List Char) : List Char × Option (List Char) × Option (List Char) :=
  let front := cs.takeWhile (· != '#')
  let fragment := if front.length = cs.length then none else some (cs.drop (front.length + 1))
  let path := front.takeWhile (· != '?')
  let query := if path.length = front.length then none else some (front.drop (path.length + 1))
  (path, query, fragment)

/-- The URL of a web socket, after the colon of its scheme. -/
def parseRest (secure : Bool) (defaultPort : Nat) (cs : List Char) : Except UrlError Url := do
  -- any number of slashes, none included, leads to the authority
  let cs := cs.dropWhile Path.isSlash
  let authority := cs.takeWhile fun c => !endsAuthority true c
  let (path, query, fragment) := splitTail (cs.drop authority.length)
  let authority ← Authority.parse defaultPort authority
  return {
    secure
    authority
    path := Path.parse path
    query := query.map fun q => String.ofList (Percent.encode Percent.inQuery q)
    fragment := fragment.map fun f => String.ofList (Percent.encode Percent.inFragment f) }

/-- Checks the host of a file, after the colon of the scheme. -/
def checkFile (cs : List Char) : Except UrlError Unit :=
  match cs with
  | a :: b :: rest =>
    if Path.isSlash a && Path.isSlash b then
      let host := rest.takeWhile fun c => !endsAuthority true c
      if host.isEmpty || Path.isDriveLetter host then .ok ()
      else (Host.parse host).map fun _ => ()
    else .ok ()
  | _ => .ok ()

/-- Checks a URL of a scheme that the web does not define, after its colon. -/
def checkOther (cs : List Char) : Except UrlError Unit :=
  match cs with
  | '/' :: '/' :: rest =>
    let authority := rest.takeWhile fun c => !endsAuthority false c
    Authority.checkOpaque (authority.length < rest.length) authority
  | _ => .ok ()

/-- Checks a URL of any scheme but those of web sockets. -/
def check (scheme : String) (cs : List Char) : Except UrlError Unit :=
  match defaultPort? scheme with
  | some port => (parseRest false port cs).map fun _ => ()
  | none => if scheme = "file" then checkFile cs else checkOther cs

/-- The URL of a web socket that a text writes. -/
def parse (text : String) : Except EndpointError Url :=
  let invalid {α : Type} : Except UrlError α → Except EndpointError α
    | .ok a => .ok a
    | .error e => .error (.invalidUrl text e)
  match splitScheme? (strip text.toList) with
  | none => .error (.invalidUrl text .noScheme)
  | some (scheme, rest) =>
    match String.ofList scheme with
    | "ws" => invalid (parseRest false 80 rest)
    | "wss" => invalid (parseRest true 443 rest)
    | scheme => do
      -- a malformed URL is reported as such, whatever its scheme
      invalid (check scheme rest)
      .error (.otherScheme text scheme)

/-! ## Text -/

/-- The scheme of a URL. -/
def scheme (u : Url) : String := if u.secure then "wss" else "ws"

/-- The port to connect to. -/
def port (u : Url) : Nat := u.authority.port.getD (if u.secure then 443 else 80)

/-- A part behind its mark, if it is there. -/
def writePart (mark : Char) : Option String → List Char
  | none => []
  | some part => mark :: part.toList

/-- The canonical text of a URL. -/
def write (u : Url) : List Char :=
  u.scheme.toList ++ ':' :: '/' :: '/' :: u.authority.write ++ u.path.write ++
    writePart '?' u.query ++ writePart '#' u.fragment

/-- The canonical text of a URL as a string. -/
def text (u : Url) : String := String.ofList u.write

end Url

end LiveQuery
