import LiveQuery.Json.Shape

/-!
# What messages carry

The operation that a client asks for, and the results and errors that a server answers with.
Each type is written as a JSON object with its fields in a fixed order, absent optional fields
left out (`toValue`), and read from an object by name or from an array by place (`ofValue`). In
an object the fields are read in the order of their keys, and missing ones are reported
afterwards.
-/

namespace LiveQuery

open Json (Value Members ShapeError Surplus)

/-- A place in an operation document. -/
structure Location where
  line : Nat
  column : Nat
deriving DecidableEq, Repr, Inhabited

/-- A step of a response path: a field of an object or an index of a list. -/
inductive PathSegment where
  | field (name : String)
  | index (place : Nat)
deriving DecidableEq, Repr, Inhabited

/-- An error that a server reports. -/
structure GraphQLError where
  message : String
  locations : Option (List Location)
  path : Option (List PathSegment)
  extensions : Option Members
deriving Repr, Inhabited

/-- One result of an operation. -/
structure ExecutionResult where
  data : Value
  errors : Option (List GraphQLError)
  extensions : Option Members
deriving Repr, Inhabited

/-- An operation to subscribe to. -/
structure Operation where
  query : String
  operationName : Option String := none
  bindings : Option Members := none
  extensions : Option Members := none
deriving Repr, Inhabited

namespace Operation

/-- The operation with a name chosen among those of its document. -/
def named (operation : Operation) (name : String) : Operation :=
  { operation with operationName := some name }

/-- The operation with variables. -/
def withVariables (operation : Operation) (bindings : Members) : Operation :=
  { operation with bindings := some bindings }

/-- The operation with extensions. -/
def withExtensions (operation : Operation) (extensions : Members) : Operation :=
  { operation with extensions := some extensions }

end Operation

/-! ## Writing -/

/-- A field that is written only if it is there. -/
def optionalMember (name : String) (value : Option Value) : List (String × Value) :=
  match value with
  | none => []
  | some v => [(name, v)]

/-- A natural number as a value. -/
def natValue (n : Nat) : Value := .number (.int n)

/-- A place as an object. -/
def Location.toValue (l : Location) : Value :=
  .object [("line", natValue l.line), ("column", natValue l.column)]

/-- A path step as a string or a number. -/
def PathSegment.toValue : PathSegment → Value
  | .field name => .string name
  | .index place => natValue place

/-- A server's error as an object. -/
def GraphQLError.toValue (e : GraphQLError) : Value :=
  .object <| ("message", .string e.message) ::
    (optionalMember "locations" (e.locations.map fun ls => .array (ls.map Location.toValue)) ++
      optionalMember "path" (e.path.map fun ss => .array (ss.map PathSegment.toValue)) ++
      optionalMember "extensions" (e.extensions.map Value.object))

/-- Errors as an array. -/
def errorsValue (errors : List GraphQLError) : Value :=
  .array (errors.map GraphQLError.toValue)

/-- A result as an object; its data is always written. -/
def ExecutionResult.toValue (r : ExecutionResult) : Value :=
  .object <| ("data", r.data) ::
    (optionalMember "errors" (r.errors.map errorsValue) ++
      optionalMember "extensions" (r.extensions.map Value.object))

/-- An operation as an object. -/
def Operation.toValue (o : Operation) : Value :=
  .object <| ("query", .string o.query) ::
    (optionalMember "operationName" (o.operationName.map Value.string) ++
      optionalMember "variables" (o.bindings.map Value.object) ++
      optionalMember "extensions" (o.extensions.map Value.object))

/-! ## Reading -/

/-- Reads a place. -/
def Location.ofValue (surplus : Surplus) : Value → Except ShapeError Location
  | .object ms => do
    let column ← Members.field ms "column" Value.asNatural
    let line ← Members.field ms "line" Value.asNatural
    let line ← Json.required "line" line
    let column ← Json.required "column" column
    return ⟨line, column⟩
  | .array items => do
    let record := "struct Location with 2 elements"
    let (line, items) ← Json.element record 0 Value.asNatural items
    let (column, items) ← Json.element record 1 Value.asNatural items
    surplus.check 2 items
    return ⟨line, column⟩
  | v => .error (.wrongType v.found "struct Location")

/-- Reads a path step: any string, or a natural number. -/
def PathSegment.ofValue (v : Value) : Except ShapeError PathSegment :=
  match v.asString, v.asNatural with
  | .ok name, _ => .ok (.field name)
  | .error _, .ok place => .ok (.index place)
  | .error _, .error _ => .error (.noVariant "PathSegment")

/-- Reads the places of an error. -/
def locationsOfValue (surplus : Surplus) : Value → Except ShapeError (List Location) :=
  Value.asList (Location.ofValue surplus)

/-- Reads a response path. -/
def pathOfValue : Value → Except ShapeError (List PathSegment) :=
  Value.asList PathSegment.ofValue

/-- Reads a server's error. -/
def GraphQLError.ofValue (surplus : Surplus) : Value → Except ShapeError GraphQLError
  | .object ms => do
    let extensions ← Members.optionalField ms "extensions" Value.asMembers
    let locations ← Members.optionalField ms "locations" (locationsOfValue surplus)
    let message ← Members.field ms "message" Value.asString
    let path ← Members.optionalField ms "path" pathOfValue
    let message ← Json.required "message" message
    return ⟨message, locations, path, extensions⟩
  | .array items => do
    let record := "struct GraphQLError with 4 elements"
    let (message, items) ← Json.element record 0 Value.asString items
    let (locations, items) ←
      Json.element record 1 (Value.asOption (locationsOfValue surplus)) items
    let (path, items) ← Json.element record 2 (Value.asOption pathOfValue) items
    let (extensions, items) ← Json.element record 3 (Value.asOption Value.asMembers) items
    surplus.check 4 items
    return ⟨message, locations, path, extensions⟩
  | v => .error (.wrongType v.found "struct GraphQLError")

/-- Reads a list of errors. -/
def errorsOfValue (surplus : Surplus) : Value → Except ShapeError (List GraphQLError) :=
  Value.asList (GraphQLError.ofValue surplus)

/-- Reads a result; absent data is null. -/
def ExecutionResult.ofValue (surplus : Surplus) : Value → Except ShapeError ExecutionResult
  | .object ms => do
    let errors ← Members.optionalField ms "errors" (errorsOfValue surplus)
    let extensions ← Members.optionalField ms "extensions" Value.asMembers
    return ⟨(Members.find? "data" ms).getD .null, errors, extensions⟩
  | .array items => do
    let record := "struct ExecutionResult with 3 elements"
    let data := items.head?.getD .null
    let (errors, items) ←
      Json.element record 1 (Value.asOption (errorsOfValue surplus)) items.tail
    let (extensions, items) ← Json.element record 2 (Value.asOption Value.asMembers) items
    surplus.check 3 items
    return ⟨data, errors, extensions⟩
  | v => .error (.wrongType v.found "struct ExecutionResult")

/-- Reads an operation. -/
def Operation.ofValue (surplus : Surplus) : Value → Except ShapeError Operation
  | .object ms => do
    let extensions ← Members.optionalField ms "extensions" Value.asMembers
    let operationName ← Members.optionalField ms "operationName" Value.asString
    let query ← Members.field ms "query" Value.asString
    let bindings ← Members.optionalField ms "variables" Value.asMembers
    let query ← Json.required "query" query
    return ⟨query, operationName, bindings, extensions⟩
  | .array items => do
    let record := "struct SubscribePayload with 4 elements"
    let (query, items) ← Json.element record 0 Value.asString items
    let (operationName, items) ← Json.element record 1 (Value.asOption Value.asString) items
    let (bindings, items) ← Json.element record 2 (Value.asOption Value.asMembers) items
    let (extensions, items) ← Json.element record 3 (Value.asOption Value.asMembers) items
    surplus.check 4 items
    return ⟨query, operationName, bindings, extensions⟩
  | v => .error (.wrongType v.found "struct SubscribePayload")

end LiveQuery
