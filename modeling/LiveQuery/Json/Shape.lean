import LiveQuery.Json.Printer
import LiveQuery.Json.SyntaxError
import LiveQuery.Text.Printable

/-!
# Reading typed data out of JSON values

A value may have the wrong shape for what is read from it; `ShapeError` says how. The readers
here are the parts from which record readers are put together: scalars, lists, optional parts,
and the two forms of a record, by name from an object (`Members.field`) or by place from an
array (`element`).
-/

namespace LiveQuery.Json

/-- What stands where something else was expected. -/
inductive Found where
  | null
  | boolean (value : Bool)
  | number (value : Number)
  | string (value : String)
  | sequence
  | map
deriving DecidableEq, Repr, Inhabited

/-- What a value is, for a diagnostic. -/
def Value.found : Value → Found
  | .null => .null
  | .bool b => .boolean b
  | .number n => .number n
  | .string s => .string s
  | .array _ => .sequence
  | .object _ => .map

/-- The wording of what was found. -/
def Found.message : Found → String
  | .null => "null"
  | .boolean b => "boolean `" ++ (if b then "true" else "false") ++ "`"
  | .number (.int i) => "integer `" ++ String.ofList (intChars i) ++ "`"
  | .number (.double x) => "floating point `" ++ String.ofList (x.write doubleLayout) ++ "`"
  | .string s => "string " ++ Quoted.quote s
  | .sequence => "sequence"
  | .map => "map"

/-- How a value fails to have a shape. -/
inductive ShapeError where
  | wrongType (found : Found) (expected : String)
  | wrongValue (found : Found) (expected : String)
  | wrongLength (length : Nat) (expected : String)
  | missingField (name : String)
  | unknownVariant (name : String) (known : List String)
  | noVariant (type : String)
deriving DecidableEq, Repr, Inhabited

/-- The wording of a shape error. -/
def ShapeError.message : ShapeError → String
  | .wrongType found expected => "invalid type: " ++ found.message ++ ", expected " ++ expected
  | .wrongValue found expected => "invalid value: " ++ found.message ++ ", expected " ++ expected
  | .wrongLength length expected =>
    "invalid length " ++ toString length ++ ", expected " ++ expected
  | .missingField name => "missing field `" ++ name ++ "`"
  | .unknownVariant name known =>
    "unknown variant `" ++ name ++ "`, expected one of " ++
      ", ".intercalate (known.map fun k => "`" ++ k ++ "`")
  | .noVariant type => "data did not match any variant of untagged enum " ++ type

/-! ## Scalars and lists -/

/-- A string. -/
def Value.asString : Value → Except ShapeError String
  | .string s => .ok s
  | v => .error (.wrongType v.found "a string")

/-- A natural number of 64 bits. -/
def Value.asNatural : Value → Except ShapeError Nat
  | .number (.int i) =>
    if 0 ≤ i then .ok i.toNat else .error (.wrongValue (.number (.int i)) "u64")
  | v => .error (.wrongType v.found "u64")

/-- The members of an object. -/
def Value.asMembers : Value → Except ShapeError Members
  | .object members => .ok members
  | v => .error (.wrongType v.found "a map")

/-- Reads every item of an array. -/
def Value.asList (item : Value → Except ShapeError α) : Value → Except ShapeError (List α)
  | .array items => items.mapM item
  | v => .error (.wrongType v.found "a sequence")

/-- Reads a part that may be null. -/
def Value.asOption (part : Value → Except ShapeError α) : Value → Except ShapeError (Option α)
  | .null => .ok none
  | v => (part v).map some

/-! ## Records by name -/

/-- Reads the member under a name, if there is one. -/
def Members.field (members : Members) (name : String) (part : Value → Except ShapeError α) :
    Except ShapeError (Option α) :=
  match find? name members with
  | none => .ok none
  | some v => (part v).map some

/-- Reads the optional member under a name; an absent one is none. -/
def Members.optionalField (members : Members) (name : String)
    (part : Value → Except ShapeError α) : Except ShapeError (Option α) :=
  return (← field members name (Value.asOption part)).join

/-- A member that must be there. -/
def required (name : String) : Option α → Except ShapeError α
  | some a => .ok a
  | none => .error (.missingField name)

/-! ## Records by place -/

/-- How an array that is too long for its record is reported: at the top of a reading by its
length alone, and inside an envelope by the length that was expected. -/
inductive Surplus where
  | plain
  | enveloped
deriving DecidableEq, Repr

/-- The wording of the length that a record takes. -/
def Surplus.expected : Surplus → Nat → String
  | .plain, _ => "fewer elements in array"
  | .enveloped, 1 => "1 element in sequence"
  | .enveloped, count => toString count ++ " elements in sequence"

/-- Reads the item at a place of the record; `record` names the record should it be missing. -/
def element (record : String) (place : Nat) (part : Value → Except ShapeError α) :
    List Value → Except ShapeError (α × List Value)
  | [] => .error (.wrongLength place record)
  | v :: rest => do
    let a ← part v
    return (a, rest)

/-- Checks that no item is left after the `count` items of a record. -/
def Surplus.check (surplus : Surplus) (count : Nat) (rest : List Value) : Except ShapeError Unit :=
  if rest.isEmpty then .ok ()
  else .error (.wrongLength (count + rest.length) (surplus.expected count))

/-! ## Errors of JSON input -/

/-- Why JSON input was refused: its syntax, its shape, or the word of whoever produced it. -/
inductive Error where
  | syntaxError (error : SyntaxError)
  | shape (error : ShapeError)
  | custom (text : String)
deriving Repr, Inhabited

/-- The wording of an error of JSON input. -/
def Error.message : Error → String
  | .syntaxError e => e.message
  | .shape e => e.message
  | .custom text => text

end LiveQuery.Json
