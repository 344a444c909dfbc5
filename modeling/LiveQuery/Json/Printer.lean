import LiveQuery.Json.Value

/-!
# Writing JSON

The compact text of a value: no blanks, members in the order in which they stand, and only the
quote, the backslash and the control characters escaped.
-/

namespace LiveQuery.Json

/-- Doubles are written plainly while the first digit stands between the fifth place after the
point and the sixteenth before it. -/
def doubleLayout : Double.Layout := ⟨-5, 15⟩

/-- The digits of an integer, after its sign. -/
def intChars (i : Int) : List Char :=
  if i < 0 then '-' :: Nat.toDigits 10 i.natAbs else Nat.toDigits 10 i.natAbs

/-- The text of a number. -/
def Number.chars : Number → List Char
  | .int i => intChars i
  | .double x => x.write doubleLayout

/-- A character inside a quoted string. -/
def escapeChar (c : Char) : List Char :=
  if c = '"' then ['\\', '"']
  else if c = '\\' then ['\\', '\\']
  else if c = '\x08' then ['\\', 'b']
  else if c = '\t' then ['\\', 't']
  else if c = '\n' then ['\\', 'n']
  else if c = '\x0c' then ['\\', 'f']
  else if c = '\r' then ['\\', 'r']
  else if c.toNat < 0x20 then
    ['\\', 'u', '0', '0', Nat.digitChar (c.toNat / 16), Nat.digitChar (c.toNat % 16)]
  else [c]

/-- A quoted string. -/
def quote (s : String) : List Char := '"' :: s.toList.flatMap escapeChar ++ ['"']

mutual

/-- The text of a value. -/
def Value.chars : Value → List Char
  | .null => ['n', 'u', 'l', 'l']
  | .bool true => ['t', 'r', 'u', 'e']
  | .bool false => ['f', 'a', 'l', 's', 'e']
  | .number n => n.chars
  | .string s => quote s
  | .array items => '[' :: (Value.itemsChars items ++ [']'])
  | .object members => '{' :: (Value.membersChars members ++ ['}'])

/-- Items with commas between them. -/
def Value.itemsChars : List Value → List Char
  | [] => []
  | [v] => v.chars
  | v :: rest => v.chars ++ ',' :: Value.itemsChars rest

/-- Members with commas between them. -/
def Value.membersChars : List (String × Value) → List Char
  | [] => []
  | [(k, v)] => quote k ++ ':' :: v.chars
  | (k, v) :: rest => quote k ++ ':' :: (v.chars ++ ',' :: Value.membersChars rest)

end

/-- The text of a value as a string. -/
def Value.text (v : Value) : String := String.ofList v.chars

end LiveQuery.Json
