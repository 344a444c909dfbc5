/-!
# Close codes

The number that a closing endpoint gives as its reason, and what the client does after it.
`CloseCode.disposition` sorts the codes: a short list asks for a new connection, the protocol's
own codes and every other code from 1000 to 1999 end the session, and the rest says nothing.
-/

namespace LiveQuery

/-- What the client does after a socket closed. -/
inductive Disposition where
  /-- The reason was transient: connect again. -/
  | recoverable
  /-- The reason is final: never connect again. -/
  | fatal
  /-- The code is on no list: connect again, as the retry policy sees fit. -/
  | unknown
deriving DecidableEq, Repr, Inhabited

/-- The code of a close frame. -/
structure CloseCode where
  value : UInt16
deriving DecidableEq, Repr, Inhabited

namespace CloseCode

/-- The socket served its purpose. -/
def normalClosure : CloseCode := ⟨1000⟩
/-- The endpoint goes away. -/
def goingAway : CloseCode := ⟨1001⟩
/-- The socket closed without a code. -/
def noStatus : CloseCode := ⟨1005⟩
/-- The socket dropped without a close frame. -/
def abnormalClosure : CloseCode := ⟨1006⟩
/-- The server restarts. -/
def serviceRestart : CloseCode := ⟨1012⟩
/-- The server asks to try again later. -/
def tryAgainLater : CloseCode := ⟨1013⟩
/-- The client met an internal error. -/
def internalClientError : CloseCode := ⟨4005⟩
/-- The server received an invalid message. -/
def badRequest : CloseCode := ⟨4400⟩
/-- The client subscribed before the acknowledgment. -/
def unauthorized : CloseCode := ⟨4401⟩
/-- The server rejected the connection. -/
def forbidden : CloseCode := ⟨4403⟩
/-- The client received an invalid message. -/
def badResponse : CloseCode := ⟨4404⟩
/-- The sub-protocol was not accepted. -/
def subprotocolNotAcceptable : CloseCode := ⟨4406⟩
/-- The server waited too long for `connection_init`. -/
def connectionInitTimeout : CloseCode := ⟨4408⟩
/-- The subscription id is in use. -/
def subscriberAlreadyExists : CloseCode := ⟨4409⟩
/-- The client sent `connection_init` more than once. -/
def tooManyInitialisationRequests : CloseCode := ⟨4429⟩
/-- The server met an internal error. -/
def internalServerError : CloseCode := ⟨4500⟩
/-- The client waited too long for `connection_ack`. -/
def connectionAckTimeout : CloseCode := ⟨4504⟩

/-- The codes after which the client connects again. -/
def recoverable : List CloseCode :=
  [normalClosure, goingAway, noStatus, abnormalClosure, serviceRestart, tryAgainLater]

/-- The codes of the protocol that end a session. -/
def ending : List CloseCode :=
  [internalServerError, internalClientError, badRequest, badResponse, unauthorized, forbidden,
    subprotocolNotAcceptable, connectionInitTimeout, connectionAckTimeout,
    subscriberAlreadyExists, tooManyInitialisationRequests]

/-- Does the code stand for an error of the socket layer itself? -/
def isInternal (code : CloseCode) : Bool := 1000 ≤ code.value && code.value ≤ 1999

/-- What the client does after this code. -/
def disposition (code : CloseCode) : Disposition :=
  if code ∈ recoverable then .recoverable
  else if code ∈ ending ∨ code.isInternal then .fatal
  else .unknown

/-- Must the client not connect again after this code? -/
def isFatal (code : CloseCode) : Bool := code.disposition = .fatal

/-- The digits of the code. -/
def text (code : CloseCode) : String := toString code.value.toNat

/-- How codes compare: as numbers. -/
def order (a b : CloseCode) : Ordering := compare a.value.toNat b.value.toNat

/-- The text of a code in a field of at least `width` characters. -/
def padLeft (width : Nat) (fill : Char) (code : CloseCode) : String :=
  String.ofList (List.replicate (width - code.text.length) fill) ++ code.text

/-- The text of a code at the left of a field of at least `width` characters. -/
def padRight (width : Nat) (code : CloseCode) : String :=
  code.text ++ String.ofList (List.replicate (width - code.text.length) ' ')

/-- The codes from one number to another in runs of one disposition, by descent on the count. -/
def runsFrom (first : Nat) : Nat → List (Nat × Nat × Disposition)
  | 0 => []
  | count + 1 =>
    let here := (CloseCode.mk (UInt16.ofNat first)).disposition
    match runsFrom (first + 1) count with
    | (a, b, d) :: rest =>
      if d = here then (first, b, d) :: rest else (first, first, here) :: (a, b, d) :: rest
    | [] => [(first, first, here)]

/-- The longest runs of one disposition among the codes from `first` to `last`. -/
def runs (first last : Nat) : List (Nat × Nat × Disposition) :=
  runsFrom first (last + 1 - first)

end CloseCode

end LiveQuery
