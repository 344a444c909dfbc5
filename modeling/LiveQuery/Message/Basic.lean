import LiveQuery.Message.Payload

/-!
# Protocol messages

The eight messages of the protocol. Four belong to the session and may carry a loose payload,
four belong to one subscription and carry its id. A message is written as an object whose first
member is its type (`Message.toValue`, `Message.encode`); `Message.ofValue` reads a message out
of any value by its type alone, with no check of the id.
-/

namespace LiveQuery

open Json (Value Members ShapeError Surplus)

/-- The kinds of messages. -/
inductive MessageKind where
  | connectionInit
  | connectionAck
  | ping
  | pong
  | subscribe
  | next
  | error
  | complete
deriving DecidableEq, Repr, Inhabited

namespace MessageKind

/-- The type name on the wire. -/
def name : MessageKind → String
  | .connectionInit => "connection_init"
  | .connectionAck => "connection_ack"
  | .ping => "ping"
  | .pong => "pong"
  | .subscribe => "subscribe"
  | .next => "next"
  | .error => "error"
  | .complete => "complete"

/-- All kinds, in the order in which diagnostics list them. -/
def all : List MessageKind :=
  [.connectionInit, .connectionAck, .ping, .pong, .subscribe, .next, .error, .complete]

/-- The kind with a type name. -/
def ofName? (name : String) : Option MessageKind := all.find? (·.name == name)

/-- Does a message of this kind belong to one subscription? -/
def isScoped : MessageKind → Bool
  | .subscribe | .next | .error | .complete => true
  | _ => false

end MessageKind

/-- A protocol message. -/
inductive Message where
  /-- The client opens the session. -/
  | connectionInit (payload : Option Members)
  /-- The server accepts the session. -/
  | connectionAck (payload : Option Members)
  /-- Either side asks for a sign of life. -/
  | ping (payload : Option Members)
  /-- Either side gives a sign of life. -/
  | pong (payload : Option Members)
  /-- The client asks for an operation. -/
  | subscribe (id : String) (operation : Operation)
  /-- The server sends a result. -/
  | next (id : String) (result : ExecutionResult)
  /-- The server ends an operation with errors. -/
  | error (id : String) (errors : List GraphQLError)
  /-- Either side ends an operation. -/
  | complete (id : String)
deriving Repr, Inhabited

namespace Message

/-- The kind of a message. -/
def kind : Message → MessageKind
  | .connectionInit _ => .connectionInit
  | .connectionAck _ => .connectionAck
  | .ping _ => .ping
  | .pong _ => .pong
  | .subscribe .. => .subscribe
  | .next .. => .next
  | .error .. => .error
  | .complete _ => .complete

/-- The subscription that a message belongs to. -/
def id? : Message → Option String
  | .subscribe id _ | .next id _ | .error id _ | .complete id => some id
  | _ => none

/-! ## Writing -/

/-- The members after the type. -/
def body : Message → List (String × Value)
  | .connectionInit p | .connectionAck p | .ping p | .pong p =>
    optionalMember "payload" (p.map Value.object)
  | .subscribe id operation => [("id", .string id), ("payload", operation.toValue)]
  | .next id result => [("id", .string id), ("payload", result.toValue)]
  | .error id errors => [("id", .string id), ("payload", errorsValue errors)]
  | .complete id => [("id", .string id)]

/-- A message as an object with its type first. -/
def toValue (m : Message) : Value := .object (("type", .string m.kind.name) :: m.body)

/-- The text of a message. -/
def encode (m : Message) : String := m.toValue.text

/-- Equality of messages, doubles compared as numbers. -/
def agrees (a b : Message) : Bool := a.toValue.agrees b.toValue

/-! ## Reading -/

/-- Reads the kind out of a type member. -/
def kindOfValue : Value → Except ShapeError MessageKind
  | .string s =>
    match MessageKind.ofName? s with
    | some kind => .ok kind
    | none => .error (.unknownVariant s (MessageKind.all.map MessageKind.name))
  | v => .error (.wrongType v.found "variant identifier")

/-- Reads the id and the payload of a message that belongs to a subscription. -/
def addressedMembers {α : Type} (ms : Members) (make : String → α → Message)
    (part : Value → Except ShapeError α) : Except ShapeError Message := do
  let id ← Members.field ms "id" Value.asString
  let payload ← Members.field ms "payload" part
  let id ← Json.required "id" id
  let payload ← Json.required "payload" payload
  return make id payload

/-- Reads the payload of a session message. -/
def sessionMembers (ms : Members) (make : Option Members → Message) :
    Except ShapeError Message :=
  return make (← Members.optionalField ms "payload" Value.asMembers)

/-- Reads the members of a message of a known kind. -/
def ofMembers (ms : Members) : MessageKind → Except ShapeError Message
  | .connectionInit => sessionMembers ms .connectionInit
  | .connectionAck => sessionMembers ms .connectionAck
  | .ping => sessionMembers ms .ping
  | .pong => sessionMembers ms .pong
  | .subscribe => addressedMembers ms .subscribe (Operation.ofValue .enveloped)
  | .next => addressedMembers ms .next (ExecutionResult.ofValue .enveloped)
  | .error => addressedMembers ms .error (errorsOfValue .enveloped)
  | .complete => do
    let id ← Members.field ms "id" Value.asString
    return .complete (← Json.required "id" id)

/-- Reads the id and the payload of a message that belongs to a subscription, by place. -/
def addressedItems {α : Type} (items : List Value) (record : String)
    (make : String → α → Message) (part : Value → Except ShapeError α) :
    Except ShapeError Message := do
  let (id, rest) ← Json.element record 0 Value.asString items
  let (payload, rest) ← Json.element record 1 part rest
  Surplus.enveloped.check 2 rest
  return make id payload

/-- Reads the payload of a session message by place; it may be absent. -/
def sessionItems (items : List Value) (make : Option Members → Message) :
    Except ShapeError Message := do
  let payload ← Value.asOption Value.asMembers (items.head?.getD .null)
  Surplus.enveloped.check 1 items.tail
  return make payload

/-- Reads the items after the type in a message written as an array. -/
def ofItems (items : List Value) : MessageKind → Except ShapeError Message
  | .connectionInit => sessionItems items .connectionInit
  | .connectionAck => sessionItems items .connectionAck
  | .ping => sessionItems items .ping
  | .pong => sessionItems items .pong
  | .subscribe =>
    addressedItems items "struct variant Message::Subscribe with 2 elements" .subscribe
      (Operation.ofValue .enveloped)
  | .next =>
    addressedItems items "struct variant Message::Next with 2 elements" .next
      (ExecutionResult.ofValue .enveloped)
  | .error =>
    addressedItems items "struct variant Message::Error with 2 elements" .error
      (errorsOfValue .enveloped)
  | .complete => do
    let (id, rest) ←
      Json.element "struct variant Message::Complete with 1 element" 0 Value.asString items
    Surplus.enveloped.check 1 rest
    return .complete id

/-- Reads a message out of a value: an object with a type member, or an array that starts with
the type. -/
def ofValue : Value → Except ShapeError Message
  | .object ms => do
    match Members.find? "type" ms with
    | none => .error (.missingField "type")
    | some tag => ofMembers ms (← kindOfValue tag)
  | .array [] => .error (.missingField "type")
  | .array (tag :: items) => do ofItems items (← kindOfValue tag)
  | v => .error (.wrongType v.found "internally tagged enum Message")

end Message

end LiveQuery
