/-!
# UTF-8 text

Characters written as bytes and read back. `decodeChar?` reads the one character at the head
of a byte string and refuses overlong forms, surrogates and values above U+10FFFF; `split`
reads as many characters as it can and hands back the bytes it stopped at, so a byte string is
well formed exactly when nothing is handed back.
-/

namespace LiveQuery

/-- A byte string. -/
abbrev Bytes := List UInt8

namespace Utf8

/-- The bytes of a character sequence. -/
def encode (cs : List Char) : Bytes := cs.flatMap String.utf8EncodeChar

/-- The bytes of a string. -/
def ofString (s : String) : Bytes := encode s.toList

/-- The six payload bits of a continuation byte. -/
def continuation? (b : UInt8) : Option Nat :=
  if b.toNat / 64 = 2 then some (b.toNat % 64) else none

/-- The character at the head of a byte string, with the bytes after it. -/
def decodeChar? : Bytes → Option (Char × Bytes)
  | [] => none
  | a :: rest =>
    if a.toNat < 0x80 then some (Char.ofNat a.toNat, rest)
    else if a.toNat < 0xC2 then none
    else if a.toNat < 0xE0 then
      match rest with
      | b :: rest => do
        let y ← continuation? b
        some (Char.ofNat (a.toNat % 32 * 64 + y), rest)
      | _ => none
    else if a.toNat < 0xF0 then
      match rest with
      | b :: c :: rest => do
        let y ← continuation? b
        let z ← continuation? c
        let v := a.toNat % 16 * 4096 + y * 64 + z
        if v < 0x800 ∨ (0xD800 ≤ v ∧ v < 0xE000) then none else some (Char.ofNat v, rest)
      | _ => none
    else if a.toNat < 0xF5 then
      match rest with
      | b :: c :: d :: rest => do
        let y ← continuation? b
        let z ← continuation? c
        let w ← continuation? d
        let v := a.toNat % 8 * 262144 + y * 4096 + z * 64 + w
        if v < 0x10000 ∨ 0x110000 ≤ v then none else some (Char.ofNat v, rest)
      | _ => none
    else none

/-- Reads at most `fuel` characters. -/
def splitWith : Nat → Bytes → List Char × Bytes
  | 0, bytes => ([], bytes)
  | fuel + 1, bytes =>
    match decodeChar? bytes with
    | none => ([], bytes)
    | some (c, rest) =>
      let (cs, stop) := splitWith fuel rest
      (c :: cs, stop)

/-- The characters at the head of a byte string and the bytes from the first ill-formed one on.
A character takes at least one byte, so the length is fuel enough. -/
def split (bytes : Bytes) : List Char × Bytes := splitWith bytes.length bytes

/-- The string that the bytes spell, if they are well formed. -/
def decode? (bytes : Bytes) : Option String :=
  match split bytes with
  | (cs, []) => some (String.ofList cs)
  | _ => none

/-- The number of bytes before the first ill-formed one. -/
def wellFormedLength (bytes : Bytes) : Nat := bytes.length - (split bytes).2.length

/-- Reads every byte, each one that starts no character as U+FFFD. -/
def lossyWith : Nat → Bytes → List Char
  | 0, _ => []
  | _ + 1, [] => []
  | fuel + 1, b :: bytes =>
    match decodeChar? (b :: bytes) with
    | none => '\uFFFD' :: lossyWith fuel bytes
    | some (c, rest) => c :: lossyWith fuel rest

/-- The bytes as text for a diagnostic. -/
def lossy (bytes : Bytes) : String := String.ofList (lossyWith bytes.length bytes)

end Utf8

end LiveQuery
