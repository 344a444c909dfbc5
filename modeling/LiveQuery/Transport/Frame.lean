import LiveQuery.CloseCode
import LiveQuery.Text.Utf8

/-!
# Frames

What travels over a socket: text, binary data, and the close frame that ends it. A transport
that fails says what it was doing and why that failed.
-/

namespace LiveQuery

/-- What a transport was doing when it failed, and the reason. -/
structure TransportError where
  doing : String
  reason : String
deriving DecidableEq, Repr, Inhabited

/-- The wording of a transport error. -/
def TransportError.message (e : TransportError) : String := e.doing ++ ": " ++ e.reason

/-- The texts of the causes. -/
def TransportError.causes (e : TransportError) : List String := [e.reason]

/-- The content of a close frame. -/
structure CloseFrame where
  code : CloseCode
  reason : String
deriving DecidableEq, Repr, Inhabited

/-- A frame as the session sees it. -/
inductive Frame where
  | text (content : String)
  | binary (content : Bytes)
  | close (frame : CloseFrame)
deriving DecidableEq, Repr, Inhabited

namespace Frame

/-- Is it a text frame? -/
def isText : Frame → Bool
  | .text _ => true
  | _ => false

/-- Is it a binary frame? -/
def isBinary : Frame → Bool
  | .binary _ => true
  | _ => false

/-- Is it a close frame? -/
def isClose : Frame → Bool
  | .close _ => true
  | _ => false

end Frame

/-- The answer of a source that is asked without waiting: an item, the end of all items, or
nothing yet. -/
inductive Polled (α : Type) where
  | ready (item : α)
  | ended
  | pending
deriving Repr

end LiveQuery
