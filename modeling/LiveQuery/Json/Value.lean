import LiveQuery.Decimal.Double

/-!
# JSON values

Values as the protocol exchanges them. An integer that fits 64 bits stays an integer, every
other number is a double. Members of an object stand in the order of their keys, each key once,
in every value that was read (`Value.Canonical`); `Members.put` keeps that order.
-/

namespace LiveQuery.Json

/-- A number: an integer of at most 64 bits, or a double. -/
inductive Number where
  | int (value : Int)
  | double (value : Double)
deriving DecidableEq, Repr, Inhabited

/-- Numeric equality within each kind; an integer never equals a double. -/
def Number.agrees : Number → Number → Bool
  | .int a, .int b => a == b
  | .double a, .double b => a.sameNumber b
  | _, _ => false

/-- A JSON value. -/
inductive Value where
  | null
  | bool (value : Bool)
  | number (value : Number)
  | string (value : String)
  | array (items : List Value)
  | object (members : List (String × Value))
deriving Repr, Inhabited

/-- The members of an object. -/
abbrev Members := List (String × Value)

namespace Members

/-- The value under a key. -/
def find? (name : String) : Members → Option Value
  | [] => none
  | (key, value) :: rest => if key = name then some value else find? name rest

/-- Writes a member at its place in key order; a key that is present gets the new value. -/
def put (name : String) (value : Value) : Members → Members
  | [] => [(name, value)]
  | (key, old) :: rest =>
    if name = key then (name, value) :: rest
    else if name < key then (name, value) :: (key, old) :: rest
    else (key, old) :: put name value rest

/-- The members of pairs written one after another: the last value of a key counts. -/
def ofPairs (pairs : List (String × Value)) : Members :=
  pairs.foldl (fun members pair => put pair.1 pair.2 members) []

/-- The keys stand in strictly increasing order. -/
def Sorted (members : Members) : Prop := members.Pairwise fun a b => a.1 < b.1

end Members

mutual

/-- Equality of values, doubles compared as numbers. -/
def Value.agrees : Value → Value → Bool
  | .null, .null => true
  | .bool a, .bool b => a == b
  | .number a, .number b => a.agrees b
  | .string a, .string b => a == b
  | .array a, .array b => Value.itemsAgree a b
  | .object a, .object b => Value.membersAgree a b
  | _, _ => false

/-- Equality of items one by one. -/
def Value.itemsAgree : List Value → List Value → Bool
  | [], [] => true
  | a :: as, b :: bs => a.agrees b && Value.itemsAgree as bs
  | _, _ => false

/-- Equality of members one by one. -/
def Value.membersAgree : List (String × Value) → List (String × Value) → Bool
  | [], [] => true
  | (k, a) :: as, (l, b) :: bs => k == l && a.agrees b && Value.membersAgree as bs
  | _, _ => false

end

mutual

/-- How deep arrays and objects nest; a scalar has depth zero. -/
def Value.depth : Value → Nat
  | .array items => Value.itemsDepth items + 1
  | .object members => Value.membersDepth members + 1
  | _ => 0

/-- The greatest depth among items. -/
def Value.itemsDepth : List Value → Nat
  | [] => 0
  | v :: rest => max v.depth (Value.itemsDepth rest)

/-- The greatest depth among members. -/
def Value.membersDepth : List (String × Value) → Nat
  | [] => 0
  | (_, v) :: rest => max v.depth (Value.membersDepth rest)

end

mutual

/-- Every object in the value has its keys in order. -/
def Value.Canonical : Value → Prop
  | .array items => Value.ItemsCanonical items
  | .object members => Members.Sorted members ∧ Value.MembersCanonical members
  | _ => True

/-- Every item is canonical. -/
def Value.ItemsCanonical : List Value → Prop
  | [] => True
  | v :: rest => v.Canonical ∧ Value.ItemsCanonical rest

/-- Every member value is canonical. -/
def Value.MembersCanonical : List (String × Value) → Prop
  | [] => True
  | (_, v) :: rest => v.Canonical ∧ Value.MembersCanonical rest

end

end LiveQuery.Json
