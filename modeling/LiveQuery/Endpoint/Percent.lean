import LiveQuery.Text.Basic
import LiveQuery.Text.Utf8

/-!
# Percent-encoding

A character that may not stand for itself in a part of a URL is written as the bytes of its
UTF-8 form, each as a percent sign and two hexadecimal digits. Each part of a URL has its own
set of such characters; none of them may hold control characters or text beyond ASCII.
-/

namespace LiveQuery.Percent

/-- Is the character a control character? -/
def isControl (c : Char) : Bool := c.toNat < 0x20 || c.toNat = 0x7F

/-- The characters that are encoded in every part. -/
def always (c : Char) : Bool := isControl c || 0x7F < c.toNat

/-- What is encoded in a fragment. -/
def inFragment (c : Char) : Bool := always c || c ∈ [' ', '"', '<', '>', '\x60']

/-- What is encoded in a path. -/
def inPath (c : Char) : Bool := inFragment c || c ∈ ['#', '?', '\x7b', '\x7d']

/-- What is encoded in a user name or password. -/
def inUserinfo (c : Char) : Bool :=
  inPath c || c ∈ ['/', ':', ';', '=', '@', '[', '\\', ']', '^', '|']

/-- What is encoded in a query. -/
def inQuery (c : Char) : Bool := always c || c ∈ [' ', '"', '#', '<', '>', '\x27']

/-- An upper-case hexadecimal digit. -/
def digit (n : Nat) : Char := (Nat.digitChar n).toUpper

/-- A byte in encoded form. -/
def escapeByte (b : UInt8) : List Char := ['%', digit (b.toNat / 16), digit (b.toNat % 16)]

/-- Encodes the characters of a set. -/
def encode (escaped : Char → Bool) (cs : List Char) : List Char :=
  cs.flatMap fun c => if escaped c then (Utf8.encode [c]).flatMap escapeByte else [c]

/-- The byte that two digits stand for. -/
def byte? (a b : UInt8) : Option UInt8 := do
  let x ← Hex.value? a
  let y ← Hex.value? b
  some (UInt8.ofNat (16 * x + y))

/-- Decodes bytes. A percent sign with no two digits after it stands for itself. -/
def decode : Bytes → Bytes
  | 37 :: a :: b :: rest =>
    match byte? a b with
    | some x => x :: decode rest
    | none => 37 :: decode (a :: b :: rest)
  | b :: rest => b :: decode rest
  | [] => []

end LiveQuery.Percent
