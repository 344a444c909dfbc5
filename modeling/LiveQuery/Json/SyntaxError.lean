import LiveQuery.Text.Utf8

/-!
# Syntax errors of JSON text

Why a text is not JSON, and where. A position is a line and a count of bytes on that line.
-/

namespace LiveQuery.Json

/-- What is wrong with a text. -/
inductive SyntaxError.Cause where
  | endInList
  | endInObject
  | endInString
  | endInValue
  | colonExpected
  | listCommaExpected
  | objectCommaExpected
  | literalExpected
  | valueExpected
  | invalidEscape
  | invalidNumber
  | numberTooLarge
  | invalidCodePoint
  | controlCharacter
  | keyNotString
  | loneSurrogate
  | trailingComma
  | trailingCharacters
  | escapeCutShort
  | tooDeep
deriving DecidableEq, Repr, Inhabited

/-- The wording of a cause. -/
def SyntaxError.Cause.message : SyntaxError.Cause → String
  | .endInList => "EOF while parsing a list"
  | .endInObject => "EOF while parsing an object"
  | .endInString => "EOF while parsing a string"
  | .endInValue => "EOF while parsing a value"
  | .colonExpected => "expected `:`"
  | .listCommaExpected => "expected `,` or `]`"
  | .objectCommaExpected => "expected `,` or `\x7d`"
  | .literalExpected => "expected ident"
  | .valueExpected => "expected value"
  | .invalidEscape => "invalid escape"
  | .invalidNumber => "invalid number"
  | .numberTooLarge => "number out of range"
  | .invalidCodePoint => "invalid unicode code point"
  | .controlCharacter => "control character (\\u0000-\\u001F) found while parsing a string"
  | .keyNotString => "key must be a string"
  | .loneSurrogate => "lone leading surrogate in hex escape"
  | .trailingComma => "trailing comma"
  | .trailingCharacters => "trailing characters"
  | .escapeCutShort => "unexpected end of hex escape"
  | .tooDeep => "recursion limit exceeded"

/-- A cause and the number of bytes after the place it is reported at. -/
structure Fault where
  cause : SyntaxError.Cause
  left : Nat
deriving DecidableEq, Repr, Inhabited

/-- A cause with its line, counted from one, and the bytes on that line up to it. -/
structure SyntaxError where
  cause : SyntaxError.Cause
  line : Nat
  column : Nat
deriving DecidableEq, Repr, Inhabited

/-- The line break. -/
def lineFeed : UInt8 := 10

/-- The position reached after reading these bytes. -/
def positionAfter (bytes : Bytes) : Nat × Nat :=
  (1 + bytes.count lineFeed, (bytes.reverse.takeWhile (· != lineFeed)).length)

/-- A fault placed in the text it was found in. -/
def Fault.locate (text : Bytes) (fault : Fault) : SyntaxError :=
  let (line, column) := positionAfter (text.take (text.length - fault.left))
  ⟨fault.cause, line, column⟩

/-- The wording of a syntax error. -/
def SyntaxError.message (e : SyntaxError) : String :=
  e.cause.message ++ " at line " ++ toString e.line ++ " column " ++ toString e.column

end LiveQuery.Json
