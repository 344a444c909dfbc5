import LiveQuery.Message.Decode
import LiveQuery.Transport.Frame

/-!
# Messages over frames

Every frame that arrives yields one item: the message it holds, the close frame, or an error
after which reading goes on. A text frame and a binary frame with the same bytes yield the same
item. Every message that leaves is one text frame.
-/

namespace LiveQuery

/-- Why a stream of messages failed. -/
inductive StreamError where
  | transport (cause : TransportError)
  | undecodable (cause : DecodeError)
  | unencodable (cause : EncodeError)
deriving Repr, Inhabited

namespace StreamError

/-- The wording of a stream error. -/
def message : StreamError → String
  | .transport cause => "underlying socket broken: " ++ cause.message
  | .undecodable cause => "parse frame to message failed: " ++ cause.message
  | .unencodable cause => "encode message to frame failed: " ++ cause.message

/-- The texts of the causes, nearest first. -/
def causes : StreamError → List String
  | .transport cause => cause.message :: cause.causes
  | .undecodable cause => cause.message :: cause.causes
  | .unencodable cause => cause.message :: cause.causes

/-- Does the error end the stream? -/
def isFatal : StreamError → Bool
  | .transport _ => true
  | _ => false

end StreamError

/-- An item that is sent: a message or the close frame. -/
inductive Outgoing where
  | message (message : Message)
  | close (frame : CloseFrame)
deriving Repr, Inhabited

/-- The frame that carries an item. -/
def Outgoing.frame : Outgoing → Frame
  | .message m => .text m.encode
  | .close c => .close c

/-- An item that was received: a message or the close frame. -/
inductive Incoming where
  | message (message : Message)
  | closed (frame : CloseFrame)
deriving Repr, Inhabited

/-- The item that a frame holds. -/
def Incoming.ofFrame : Frame → Except DecodeError Incoming
  | .text s => (Message.decode (Utf8.ofString s)).map .message
  | .binary data => (Message.decode data).map .message
  | .close c => .ok (.closed c)

end LiveQuery
