import LiveQuery.Endpoint.Host

/-!
# Authorities

The part of a URL that says whom to ask: `user:password@host:port`. What stands before the last
at sign is the user's, and the first colon in it starts the password; both are kept
percent-encoded. The port follows the first colon of the rest that is not in brackets.
-/

namespace LiveQuery

/-- The authority of a web URL. -/
structure Authority where
  /-- Percent-encoded. -/
  username : String
  /-- Percent-encoded. -/
  password : String
  host : Host
  /-- The port, if it is not the default one. -/
  port : Option Nat
deriving DecidableEq, Repr, Inhabited

namespace Authority

/-- What stands before and after the last at sign. -/
def splitUser (cs : List Char) : Option (List Char) × List Char :=
  if cs.contains '@' then
    let host := (cs.reverse.takeWhile (· != '@')).reverse
    (some (cs.take (cs.length - host.length - 1)), host)
  else (none, cs)

/-- User name and password, percent-encoded. -/
def credentials (cs : List Char) : String × String :=
  let name := cs.takeWhile (· != ':')
  let encode (part : List Char) : String := String.ofList (Percent.encode Percent.inUserinfo part)
  (encode name, encode (cs.drop (name.length + 1)))

/-- What stands before the colon of the port, and what from it on. -/
def splitHost : Bool → List Char → List Char × List Char
  | _, [] => ([], [])
  | bracketed, c :: cs =>
    if c = ':' ∧ ¬ bracketed then ([], c :: cs)
    else
      let (host, port) := splitHost (c = '[' || (bracketed && c != ']')) cs
      (c :: host, port)

/-- The greatest port. -/
def maxPort : Nat := 65535

/-- The port that digits write: none if there are none. A backslash ends them. -/
def parsePort (cs : List Char) : Except UrlError (Option Nat) :=
  let digits := cs.takeWhile Char.isDigit
  let rest := cs.drop digits.length
  match Hex.number? 10 digits with
  | some n =>
    if maxPort < n ∨ ¬ (rest = [] ∨ rest.head? = some '\\') then .error .badPort
    else .ok (if digits.isEmpty then none else some n)
  | none => .error .badPort

/-- The authority of a web URL, where a port equal to the default one is left out. -/
def parse (defaultPort : Nat) (cs : List Char) : Except UrlError Authority := do
  let (user, rest) := splitUser cs
  let (username, password) := credentials (user.getD [])
  let (host, port) := splitHost false rest
  -- a missing host is reported before a bad port
  if host.isEmpty then throw .emptyHost
  let host ← Host.parse host
  let port ← parsePort (port.drop 1)
  return { username, password, host, port := port.filter (· ≠ defaultPort) }

/-- Checks the authority of any other URL. `followed` says whether something comes after it. An
empty host may have neither a user nor a port. -/
def checkOpaque (followed : Bool) (cs : List Char) : Except UrlError Unit := do
  let (user, rest) := splitUser cs
  if user = some [] ∧ rest = [] ∧ followed then throw .emptyHost
  let (host, port) := splitHost false rest
  Host.checkOpaque host
  if host.isEmpty then
    if !port.isEmpty || credentials (user.getD []) != ("", "") then throw .emptyHost
  let _ ← parsePort (port.drop 1)

/-- User name and password in front of a host. -/
def writeCredentials (a : Authority) : List Char :=
  if a.username.isEmpty && a.password.isEmpty then []
  else if a.password.isEmpty then a.username.toList ++ ['@']
  else a.username.toList ++ ':' :: a.password.toList ++ ['@']

/-- The text of an authority without its user. -/
def writeHost (a : Authority) : List Char :=
  match a.port with
  | none => a.host.write
  | some n => a.host.write ++ ':' :: Nat.toDigits 10 n

/-- The text of an authority. -/
def write (a : Authority) : List Char := a.writeCredentials ++ a.writeHost

end Authority

end LiveQuery
