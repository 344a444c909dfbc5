import LiveQuery.Transport.MessageFrame

/-!
# What goes wrong in a session

Three layers of errors: a session that cannot start, a connection that ends, and a subscription
that ends. Every error has a wording, and the texts of its causes from the nearest on.
-/

namespace LiveQuery

/-- Why a session does not start. -/
inductive StartError where
  /-- It has started already. -/
  | alreadyStarted
  /-- The connection parameters cannot be written as JSON. -/
  | paramsUnencodable (cause : Json.Error)
  /-- The connection parameters are JSON of a kind that is not allowed. -/
  | paramsNotObject (found : String)
deriving Repr, Inhabited

namespace StartError

/-- The wording of a start error. -/
def message : StartError → String
  | .alreadyStarted => "session already started"
  | .paramsUnencodable cause => "encode connection params failed: " ++ cause.message
  | .paramsNotObject found => "connection params must be an object, got " ++ found

/-- The texts of the causes. -/
def causes : StartError → List String
  | .paramsUnencodable cause => [cause.message]
  | _ => []

end StartError

/-- Why a connection, or the whole session, ended. -/
inductive ConnectionError where
  /-- No socket could be opened. -/
  | openFailed (cause : TransportError)
  /-- The opening message could not be sent. -/
  | initFailed (cause : StreamError)
  /-- A ping or pong could not be sent. -/
  | sendFailed (kind : String) (cause : StreamError)
  /-- The socket failed to deliver. -/
  | receiveFailed (cause : TransportError)
  /-- The socket ended with no close frame. -/
  | endOfStream
  /-- The server closed the socket. -/
  | closed (code : CloseCode) (reason : String)
  /-- No acknowledgment came in time. -/
  | ackTimeout
  /-- Nothing came in time after a ping. -/
  | pongTimeout
  /-- The server sent something undecodable that no subscription can take. -/
  | badResponse (cause : DecodeError)
  /-- The server sent a message that has no place here. -/
  | unexpectedMessage (kind : String)
  /-- A loss found the retry budget used up. -/
  | retriesExhausted (attempts : Nat) (cause : ConnectionError)
  /-- The caller stopped the session. -/
  | stopped
deriving Repr, Inhabited

namespace ConnectionError

/-- The wording of a connection error. -/
def message : ConnectionError → String
  | .openFailed cause => "open socket failed: " ++ cause.message
  | .initFailed cause => "send connection_init failed: " ++ cause.message
  | .sendFailed kind cause => "send " ++ kind ++ " message failed: " ++ cause.message
  | .receiveFailed cause => "receive from socket failed: " ++ cause.message
  | .endOfStream => "socket ended without close frame"
  | .closed code reason => "socket closed with code " ++ code.text ++ ": " ++ reason
  | .ackTimeout => "timeout when wait connection_ack"
  | .pongTimeout => "timeout when wait pong"
  | .badResponse cause => "invalid message from server: " ++ cause.message
  | .unexpectedMessage kind => "unexpected " ++ kind ++ " message from server"
  | .retriesExhausted attempts cause =>
    "give up after " ++ toString attempts ++ " reconnect attempts: " ++ cause.message
  | .stopped => "session stopped"

/-- The texts of the causes, nearest first. -/
def causes : ConnectionError → List String
  | .openFailed cause => cause.message :: cause.causes
  | .initFailed cause => cause.message :: cause.causes
  | .sendFailed _ cause => cause.message :: cause.causes
  | .receiveFailed cause => cause.message :: cause.causes
  | .badResponse cause => cause.message :: cause.causes
  | .retriesExhausted _ cause => cause.message :: causes cause
  | _ => []

/-- The code that the server closed with, if the session ended by that. -/
def closeCode? : ConnectionError → Option CloseCode
  | .closed code _ => some code
  | .retriesExhausted _ cause => closeCode? cause
  | _ => none

end ConnectionError

/-- Why a subscription ended; always its last item. -/
inductive SubscribeError where
  /-- The session has not started and does not start by itself. -/
  | notStarted
  /-- The session could not be started for it. -/
  | startFailed (cause : StartError)
  /-- Its message could not be written. -/
  | encodeFailed (cause : EncodeError)
  /-- Its message could not be sent. -/
  | sendFailed (cause : TransportError)
  /-- The server sent it something undecodable. -/
  | decodeFailed (cause : DecodeError)
  /-- The server ended it with errors. -/
  | server (errors : List GraphQLError)
  /-- The session ended. -/
  | connection (cause : ConnectionError)
deriving Repr, Inhabited

namespace SubscribeError

/-- The wording of a subscription's error. -/
def message : SubscribeError → String
  | .notStarted => "session not started and auto connect is disabled"
  | .startFailed cause => "auto connect failed: " ++ cause.message
  | .encodeFailed cause => "encode subscribe message failed: " ++ cause.message
  | .sendFailed cause => "send subscribe message failed: " ++ cause.message
  | .decodeFailed cause => "decode message failed: " ++ cause.message
  | .server errors =>
    let first := match errors with
      | [] => "<none>"
      | e :: _ => e.message
    "server reported " ++ toString errors.length ++ " error(s), first: " ++ first
  | .connection cause => "connection failed: " ++ cause.message

/-- The texts of the causes, nearest first. -/
def causes : SubscribeError → List String
  | .startFailed cause => cause.message :: cause.causes
  | .encodeFailed cause => cause.message :: cause.causes
  | .sendFailed cause => cause.message :: cause.causes
  | .decodeFailed cause => cause.message :: cause.causes
  | .connection cause => cause.message :: cause.causes
  | _ => []

end SubscribeError

end LiveQuery
