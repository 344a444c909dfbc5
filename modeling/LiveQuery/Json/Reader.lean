import LiveQuery.Json.SyntaxError
import LiveQuery.Json.Value
import LiveQuery.Text.Basic

/-!
# Reading JSON

A reader over bytes. Each reader takes the bytes before it and hands back those it left, or a
fault with the count of bytes behind the place of the fault. Arrays and objects nest at most
`maxDepth` deep: `value` recurses on the depth that is left, and the loops over items, members
and string characters on a fuel no smaller than the bytes before them.
-/

namespace LiveQuery.Json.Reader

open SyntaxError (Cause)

/-- Arrays and objects nest at most this deep. -/
def maxDepth : Nat := 127

/-- The byte of an ASCII character. -/
def byte (c : Char) : UInt8 := UInt8.ofNat c.toNat

/-- The four blank bytes. -/
def isBlank (b : UInt8) : Bool := b == 32 || b == 10 || b == 9 || b == 13

/-- The decimal digits. -/
def isDigit (b : UInt8) : Bool := 48 ≤ b && b ≤ 57

/-- The value of a digit. -/
def digitValue (b : UInt8) : Nat := b.toNat - 48

/-- Drops leading blanks. -/
def skipBlank (bytes : Bytes) : Bytes := bytes.dropWhile isBlank

/-- The rest of a literal word. -/
def literal (word : Bytes) (v : Value) (bytes : Bytes) : Except Fault (Value × Bytes) :=
  match word, bytes with
  | [], bytes => .ok (v, bytes)
  | _ :: _, [] => .error ⟨.endInValue, 0⟩
  | w :: word, b :: bytes =>
    if b = w then literal word v bytes else .error ⟨.literalExpected, bytes.length⟩

/-! ## Numbers -/

/-- The number that digits spell. -/
def digitsValue (digits : Bytes) : Nat := digits.foldl (fun n b => 10 * n + digitValue b) 0

/-- An integer of 64 bits is below this, and a negative one no further from zero than half of
it. -/
def intBound : Nat := Nat.pow 2 64

/-- The number that the leading digits spell, going on from another one, as long as it fits in 64
bits, and how many digits that leaves out. -/
def gather (n : Nat) : Bytes → Nat × Nat
  | [] => (n, 0)
  | b :: rest =>
    let next := 10 * n + digitValue b
    if next < intBound then gather next rest else (n, rest.length + 1)

/-- The leading digits of a whole and a fraction as a number of 64 bits, and the power of ten that
goes with it. Digits of the whole that are left out count for the power; digits of the fraction that
are left out do not count. -/
def significand (whole fraction : Bytes) : Nat × Int :=
  let (n, excess) := gather 0 whole
  let (n, ignored) := gather n fraction
  (n, (excess : Int) - (fraction.length - ignored : Nat))

/-- A number as a double: its significand scaled by its power of ten. -/
def decimal (negative : Bool) (whole fraction : Bytes) (power : Int) (rest : Bytes) :
    Except Fault (Value × Bytes) :=
  let (n, shift) := significand whole fraction
  match Double.ofScaled? negative n (shift + power) with
  | some x => .ok (.number (.double x), rest)
  | none => .error ⟨.numberTooLarge, rest.length⟩

/-- An integer literal: within 64 bits it is an integer, beyond them, and for a negative zero, a
double. -/
def integer (negative : Bool) (digits : Bytes) (rest : Bytes) : Except Fault (Value × Bytes) :=
  let n := digitsValue digits
  if !negative && n < intBound then .ok (.number (.int n), rest)
  else if negative && n ≠ 0 && 2 * n ≤ intBound then .ok (.number (.int (-n)), rest)
  else decimal negative digits [] 0 rest

/-- The greatest exponent that is counted. -/
def maxExponent : Nat := 2147483647

/-- The digits of an exponent. One beyond `maxExponent` is settled at the digit that passes it:
too large for a positive exponent of a number other than zero, and zero otherwise. -/
def exponentDigits (negative : Bool) (whole fraction : Bytes) (up : Bool) (power : Nat) :
    Bytes → Except Fault (Value × Bytes)
  | [] => decimal negative whole fraction (if up then (power : Int) else -power) []
  | b :: rest =>
    if isDigit b then
      let next := 10 * power + digitValue b
      if maxExponent < next then
        -- the digits after this one cannot matter any more
        if up && (significand whole fraction).1 ≠ 0 then .error ⟨.numberTooLarge, rest.length⟩
        else .ok (.number (.double (Double.zero negative)), rest.dropWhile isDigit)
      else exponentDigits negative whole fraction up next rest
    else decimal negative whole fraction (if up then (power : Int) else -power) (b :: rest)

/-- The first digit of an exponent, which must be there. -/
def exponentStart (negative : Bool) (whole fraction : Bytes) (up : Bool) :
    Bytes → Except Fault (Value × Bytes)
  | [] => .error ⟨.endInValue, 0⟩
  | b :: rest =>
    if isDigit b then exponentDigits negative whole fraction up (digitValue b) rest
    else .error ⟨.invalidNumber, rest.length⟩

/-- The part of an exponent after its mark. -/
def exponent (negative : Bool) (whole fraction : Bytes) : Bytes → Except Fault (Value × Bytes)
  | [] => exponentStart negative whole fraction true []
  | b :: rest =>
    if b = byte '+' then exponentStart negative whole fraction true rest
    else if b = byte '-' then exponentStart negative whole fraction false rest
    else exponentStart negative whole fraction true (b :: rest)

/-- Does an exponent mark start here? -/
def isExponentMark (b : UInt8) : Bool := b == byte 'e' || b == byte 'E'

/-- The part of a number after its point. -/
def fraction (negative : Bool) (whole bytes : Bytes) : Except Fault (Value × Bytes) :=
  let digits := bytes.takeWhile isDigit
  match digits, bytes.dropWhile isDigit with
  | [], [] => .error ⟨.endInValue, 0⟩
  | [], _ :: rest => .error ⟨.invalidNumber, rest.length⟩
  | _ :: _, [] => decimal negative whole digits 0 []
  | _ :: _, b :: rest =>
    if isExponentMark b then exponent negative whole digits rest
    else decimal negative whole digits 0 (b :: rest)

/-- The part of a number after its whole digits. -/
def afterWhole (negative : Bool) (whole : Bytes) : Bytes → Except Fault (Value × Bytes)
  | [] => integer negative whole []
  | b :: rest =>
    if b = byte '.' then fraction negative whole rest
    else if isExponentMark b then exponent negative whole [] rest
    else integer negative whole (b :: rest)

/-- A number after its sign. A leading zero stands alone. -/
def number (negative : Bool) : Bytes → Except Fault (Value × Bytes)
  | [] => .error ⟨.endInValue, 0⟩
  | b :: rest =>
    if b = byte '0' then
      match rest with
      | c :: rest' =>
        if isDigit c then .error ⟨.invalidNumber, rest'.length⟩
        else afterWhole negative [b] rest
      | [] => afterWhole negative [b] []
    else if isDigit b then
      afterWhole negative (b :: rest.takeWhile isDigit) (rest.dropWhile isDigit)
    else .error ⟨.invalidNumber, rest.length⟩

/-! ## Strings -/

/-- Four hexadecimal digits. -/
def hexQuad : Bytes → Except Fault (Nat × Bytes)
  | a :: b :: c :: d :: rest =>
    match Hex.value? a, Hex.value? b, Hex.value? c, Hex.value? d with
    | some a, some b, some c, some d => .ok (a * 4096 + b * 256 + c * 16 + d, rest)
    | _, _, _, _ => .error ⟨.invalidEscape, rest.length⟩
  | _ => .error ⟨.endInString, 0⟩

/-- The second half of a surrogate pair. -/
def lowSurrogate (high : Nat) : Bytes → Except Fault (Char × Bytes)
  | [] => .error ⟨.endInString, 0⟩
  | b :: rest =>
    if b = byte '\\' then
      match rest with
      | [] => .error ⟨.endInString, 0⟩
      | u :: rest =>
        if u = byte 'u' then do
          let (low, rest) ← hexQuad rest
          if 0xDC00 ≤ low ∧ low ≤ 0xDFFF then
            .ok (Char.ofNat ((high - 0xD800) * 0x400 + (low - 0xDC00) + 0x10000), rest)
          else .error ⟨.loneSurrogate, rest.length⟩
        else .error ⟨.escapeCutShort, rest.length⟩
    else .error ⟨.escapeCutShort, rest.length⟩

/-- A character given by its code, perhaps as a surrogate pair. -/
def codeEscape (bytes : Bytes) : Except Fault (Char × Bytes) := do
  let (code, rest) ← hexQuad bytes
  if 0xDC00 ≤ code ∧ code ≤ 0xDFFF then .error ⟨.loneSurrogate, rest.length⟩
  else if 0xD800 ≤ code ∧ code ≤ 0xDBFF then lowSurrogate code rest
  else .ok (Char.ofNat code, rest)

/-- The character that an escape stands for, after its backslash. -/
def escape : Bytes → Except Fault (Char × Bytes)
  | [] => .error ⟨.endInString, 0⟩
  | b :: rest =>
    if b = byte '"' then .ok ('"', rest)
    else if b = byte '\\' then .ok ('\\', rest)
    else if b = byte '/' then .ok ('/', rest)
    else if b = byte 'b' then .ok ('\x08', rest)
    else if b = byte 'f' then .ok ('\x0c', rest)
    else if b = byte 'n' then .ok ('\n', rest)
    else if b = byte 'r' then .ok ('\r', rest)
    else if b = byte 't' then .ok ('\t', rest)
    else if b = byte 'u' then codeEscape rest
    else .error ⟨.invalidEscape, rest.length⟩

/-- The content of a string up to its closing quote, escapes resolved. -/
def contentWith : Nat → Bytes → Except Fault (Bytes × Bytes)
  | 0, _ => .error ⟨.endInString, 0⟩
  | _ + 1, [] => .error ⟨.endInString, 0⟩
  | fuel + 1, b :: rest =>
    if b = byte '"' then .ok ([], rest)
    else if b = byte '\\' then do
      let (c, rest) ← escape rest
      let (more, rest) ← contentWith fuel rest
      .ok (String.utf8EncodeChar c ++ more, rest)
    else if b < 32 then .error ⟨.controlCharacter, rest.length⟩
    else do
      let (more, rest) ← contentWith fuel rest
      .ok (b :: more, rest)

/-- A string after its opening quote. Ill-formed bytes are found once the closing quote is. The
place they are reported at lies before the end of the string by the number of bytes that the
content has from the first ill-formed one on, escapes counted as what they stand for. -/
def string (bytes : Bytes) : Except Fault (String × Bytes) := do
  let (content, rest) ← contentWith (bytes.length + 1) bytes
  match Utf8.decode? content with
  | some s => .ok (s, rest)
  | none =>
    .error ⟨.invalidCodePoint, rest.length + (content.length - Utf8.wellFormedLength content)⟩

/-! ## Arrays and objects -/

/-- The items of an array after its bracket, or after an item. -/
def itemsWith (item : Bytes → Except Fault (Value × Bytes)) :
    Nat → Bool → Bytes → Except Fault (List Value × Bytes)
  | 0, _, _ => .error ⟨.endInList, 0⟩
  | fuel + 1, first, bytes =>
    match skipBlank bytes with
    | [] => .error ⟨.endInList, 0⟩
    | b :: rest =>
      if b = byte ']' then .ok ([], rest)
      else if first then do
        let (v, rest) ← item (b :: rest)
        let (vs, rest) ← itemsWith item fuel false rest
        .ok (v :: vs, rest)
      else if b = byte ',' then
        match skipBlank rest with
        | [] => .error ⟨.endInValue, 0⟩
        | c :: rest =>
          if c = byte ']' then .error ⟨.trailingComma, rest.length⟩
          else do
            let (v, rest) ← item (c :: rest)
            let (vs, rest) ← itemsWith item fuel false rest
            .ok (v :: vs, rest)
      else .error ⟨.listCommaExpected, rest.length⟩

/-- A member whose key starts with the byte `b`. -/
def member (item : Bytes → Except Fault (Value × Bytes)) (b : UInt8) (rest : Bytes) :
    Except Fault ((String × Value) × Bytes) :=
  if b = byte '"' then do
    let (key, rest) ← string rest
    match skipBlank rest with
    | [] => .error ⟨.endInObject, 0⟩
    | c :: rest =>
      if c = byte ':' then do
        let (v, rest) ← item rest
        .ok ((key, v), rest)
      else .error ⟨.colonExpected, rest.length⟩
  else .error ⟨.keyNotString, rest.length⟩

/-- The members of an object after its brace, or after a member. -/
def membersWith (item : Bytes → Except Fault (Value × Bytes)) :
    Nat → Bool → Bytes → Except Fault (List (String × Value) × Bytes)
  | 0, _, _ => .error ⟨.endInObject, 0⟩
  | fuel + 1, first, bytes =>
    match skipBlank bytes with
    | [] => .error ⟨.endInObject, 0⟩
    | b :: rest =>
      if b = byte '}' then .ok ([], rest)
      else if first then do
        let (m, rest) ← member item b rest
        let (ms, rest) ← membersWith item fuel false rest
        .ok (m :: ms, rest)
      else if b = byte ',' then
        match skipBlank rest with
        | [] => .error ⟨.endInValue, 0⟩
        | c :: rest =>
          if c = byte '}' then .error ⟨.trailingComma, rest.length⟩
          else do
            let (m, rest) ← member item c rest
            let (ms, rest) ← membersWith item fuel false rest
            .ok (m :: ms, rest)
      else .error ⟨.objectCommaExpected, rest.length⟩

/-! ## Values -/

/-- A value that holds neither array nor object. -/
def scalar (b : UInt8) (rest : Bytes) : Except Fault (Value × Bytes) :=
  if b = byte 'n' then literal [byte 'u', byte 'l', byte 'l'] .null rest
  else if b = byte 't' then literal [byte 'r', byte 'u', byte 'e'] (.bool true) rest
  else if b = byte 'f' then literal [byte 'a', byte 'l', byte 's', byte 'e'] (.bool false) rest
  else if b = byte '-' then number true rest
  else if isDigit b then number false (b :: rest)
  else if b = byte '"' then do
    let (s, rest) ← string rest
    .ok (.string s, rest)
  else .error ⟨.valueExpected, rest.length⟩

/-- An array after its bracket. -/
def array (item : Bytes → Except Fault (Value × Bytes)) (bytes : Bytes) :
    Except Fault (Value × Bytes) := do
  let (vs, rest) ← itemsWith item (bytes.length + 1) true bytes
  .ok (.array vs, rest)

/-- An object after its brace; the last value of a repeated key counts. -/
def object (item : Bytes → Except Fault (Value × Bytes)) (bytes : Bytes) :
    Except Fault (Value × Bytes) := do
  let (ms, rest) ← membersWith item (bytes.length + 1) true bytes
  .ok (.object (Members.ofPairs ms), rest)

/-- A value that nests at most `depth` deep. -/
def value : Nat → Bytes → Except Fault (Value × Bytes)
  | 0, bytes =>
    match skipBlank bytes with
    | [] => .error ⟨.endInValue, 0⟩
    | b :: rest =>
      if b = byte '[' ∨ b = byte '{' then .error ⟨.tooDeep, rest.length⟩ else scalar b rest
  | depth + 1, bytes =>
    match skipBlank bytes with
    | [] => .error ⟨.endInValue, 0⟩
    | b :: rest =>
      if b = byte '[' then array (value depth) rest
      else if b = byte '{' then object (value depth) rest
      else scalar b rest

/-- A whole text: one value with blanks around it. -/
def document (bytes : Bytes) : Except Fault Value := do
  let (v, rest) ← value maxDepth bytes
  match skipBlank rest with
  | [] => .ok v
  | _ :: rest => .error ⟨.trailingCharacters, rest.length⟩

end LiveQuery.Json.Reader

namespace LiveQuery.Json

/-- Reads a text as one value. -/
def Value.parse (text : Bytes) : Except SyntaxError Value :=
  match Reader.document text with
  | .ok v => .ok v
  | .error fault => .error (fault.locate text)

end LiveQuery.Json
