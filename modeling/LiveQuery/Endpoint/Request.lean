import LiveQuery.Endpoint.Header
import LiveQuery.Endpoint.Url
import LiveQuery.Transport.Frame

/-!
# The request of the opening handshake

An endpoint is a URL with the headers of the caller. Its request carries the headers of the
websocket handshake and the name of the sub-protocol, and then the caller's, each of which
replaces an earlier one of its name. The first bad header fails the request.
-/

namespace LiveQuery

/-- The sub-protocol that the handshake asks for. -/
def subprotocol : String := "graphql-transport-ws"

/-- Where to connect, and with which headers. -/
structure Endpoint where
  url : Url
  /-- The headers of the caller, in the order in which they were added. -/
  headers : List (String × String) := []
deriving DecidableEq, Repr, Inhabited

/-- The request of an opening handshake. -/
structure Request where
  uri : String
  headers : Headers
deriving DecidableEq, Repr, Inhabited

namespace Request

/-- The greatest length of a URI in a request, in bytes. -/
def maxUriLength : Nat := 65534

/-- The characters that a domain name may hold but the URI of a request may not. -/
def isUnfit (c : Char) : Bool := c ∈ ['"', '\x60', '\x7b', '\x7d']

/-- What the request says if its URI does not fit. -/
def building : String := "build websocket request failed"

/-- The URI of a request: the URL without its fragment, which counts for the length all the same.
The text is ASCII, so that characters are bytes. -/
def uriOf (url : Url) : Except TransportError String :=
  if maxUriLength < url.write.length then .error ⟨building, "HTTP format error: uri too long"⟩
  else if url.authority.writeHost.any isUnfit then
    .error ⟨building, "HTTP format error: invalid uri character"⟩
  else .ok { url with fragment := none }.text

/-- The headers of every handshake, for a random key. -/
def handshake (key : String) (url : Url) : Headers :=
  [("host", String.ofList url.authority.writeHost), ("connection", "Upgrade"),
    ("upgrade", "websocket"), ("sec-websocket-version", "13"), ("sec-websocket-key", key)]

/-- The name of the header that names the sub-protocol. -/
def subprotocolName : String := "sec-websocket-protocol"

/-- The request without headers of the caller. -/
def plain (key : String) (url : Url) : Except TransportError Request := do
  let uri ← uriOf url
  return ⟨uri, Headers.set subprotocolName subprotocol (handshake key url)⟩

/-- Adds a header of the caller. -/
def withHeader (r : Request) (header : String × String) : Except TransportError Request :=
  let (name, value) := header
  if !Headers.isName name then
    .error ⟨"invalid header name " ++ name, "invalid HTTP header name"⟩
  else if !Headers.isValue value then
    .error ⟨"invalid header value for " ++ Headers.fold name, "failed to parse header value"⟩
  else .ok { r with headers := r.headers.set (Headers.fold name) value }

/-- The request to an endpoint, for a random key. -/
def build (key : String) (endpoint : Endpoint) : Except TransportError Request := do
  let r ← plain key endpoint.url
  endpoint.headers.foldlM withHeader r

end Request

namespace Endpoint

/-- The endpoint of a URL. -/
def parse (text : String) : Except EndpointError Endpoint :=
  (Url.parse text).map fun url => { url }

/-- Adds a header to the request of the handshake. -/
def withHeader (e : Endpoint) (name value : String) : Endpoint :=
  { e with headers := e.headers ++ [(name, value)] }

/-- The endpoint cannot be reached. -/
def unreachable (e : Endpoint) (reason : String) : TransportError :=
  ⟨"connect " ++ e.url.text ++ " failed", reason⟩

/-- What the opening of a socket fails with where no connection succeeds, for a random key and
the reason of the network. -/
def openFailure (e : Endpoint) (key reason : String) : TransportError :=
  match Request.build key e with
  | .error e => e
  | .ok _ => e.unreachable reason

end Endpoint

end LiveQuery
