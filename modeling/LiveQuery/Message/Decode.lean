import LiveQuery.Json.Reader
import LiveQuery.Message.Basic

/-!
# Decoding frames

The bytes of a frame as a message. The text must be JSON, an object, and carry a known type; a
message that belongs to a subscription must carry an id that is not empty; only then is the
typed message read out of the object. A `DecodeError` names the subscription it was meant for
only if that last step failed.
-/

namespace LiveQuery

open Json (Value Members)

/-- Why a frame is no message. -/
inductive DecodeError where
  | notJson (cause : Json.Error)
  | notObject (text : String)
  | noType (text : String)
  | typeNotString (text : String)
  | unknownType (name : String)
  | missingId (kind : String)
  | emptyId (kind : String)
  | badShape (kind : String) (id : Option String) (cause : Json.Error)
deriving Repr, Inhabited

namespace DecodeError

/-- The wording of a decode error. -/
def message : DecodeError → String
  | .notJson cause => "parse json failed: " ++ cause.message
  | .notObject text => "parsed message is not object: " ++ text
  | .noType text => "message has no type field: " ++ text
  | .typeNotString text => "message has non-string type field: " ++ text
  | .unknownType name => "message has unknown type " ++ name
  | .missingId kind => kind ++ " message has no id"
  | .emptyId kind => kind ++ " message has empty id"
  | .badShape kind _ cause => "parse to " ++ kind ++ " message failed: " ++ cause.message

/-- The subscription that the undecodable message was addressed to. -/
def id? : DecodeError → Option String
  | .badShape _ id _ => id
  | _ => none

/-- The texts of the causes, nearest first. -/
def causes : DecodeError → List String
  | .notJson cause | .badShape _ _ cause => [cause.message]
  | _ => []

end DecodeError

/-- Why a message could not be written. -/
structure EncodeError where
  kind : String
  cause : Json.Error
deriving Repr, Inhabited

namespace EncodeError

/-- The wording of an encode error. -/
def message (e : EncodeError) : String :=
  "encode " ++ e.kind ++ " message failed: " ++ e.cause.message

/-- The texts of the causes. -/
def causes (e : EncodeError) : List String := [e.cause.message]

end EncodeError

namespace Message

/-- The id member of an object, if it is a string. -/
def idMember? (ms : Members) : Option String :=
  match Members.find? "id" ms with
  | some (.string id) => some id
  | _ => none

/-- The checks of the envelope around a message: a known type, and an id where the type asks
for one. `text` is the frame as diagnostics quote it. -/
def checkEnvelope (text : String) (ms : Members) : Except DecodeError MessageKind := do
  let tag ← match Members.find? "type" ms with
    | none => .error (.noType text)
    | some (.string tag) => .ok tag
    | some _ => .error (.typeNotString text)
  let kind ← match MessageKind.ofName? tag with
    | none => .error (.unknownType tag)
    | some kind => .ok kind
  if kind.isScoped then
    match idMember? ms with
    | none => .error (.missingId kind.name)
    | some id => if id = "" then .error (.emptyId kind.name) else .ok kind
  else .ok kind

/-- Reads a message out of a value that a frame held. -/
def ofFrameValue (text : String) : Value → Except DecodeError Message
  | .object ms => do
    let kind ← checkEnvelope text ms
    match ofValue (.object ms) with
    | .ok m => .ok m
    -- the id is named even for kinds that need none
    | .error e => .error (.badShape kind.name (idMember? ms) (.shape e))
  | _ => .error (.notObject text)

/-- Reads the bytes of a frame. -/
def decode (frame : Bytes) : Except DecodeError Message :=
  match Value.parse frame with
  | .error e => .error (.notJson (.syntaxError e))
  | .ok v => ofFrameValue (Utf8.lossy frame) v

end Message

end LiveQuery
