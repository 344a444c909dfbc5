import LiveQuery.Text.Basic

/-!
# Addresses of version 6

An address is eight pieces of sixteen bits, written in hexadecimal with colons between them. One
`::` stands for a run of zeros, and the last two pieces may be written as an address of version 4.
The canonical text puts `::` in place of the first of the longest runs, if that has two zeros at
least.
-/

namespace LiveQuery.Ipv6

/-- The number of pieces. -/
def size : Nat := 8

/-- A piece in hexadecimal. -/
def piece? (cs : List Char) : Option Nat :=
  if 1 ≤ cs.length ∧ cs.length ≤ 4 then Hex.number? 16 cs else none

/-- A byte in decimal, with no needless zero. -/
def byte? (cs : List Char) : Option Nat :=
  if cs = [] ∨ (cs.head? = some '0' ∧ cs.length ≠ 1) then none
  else (Hex.number? 10 cs).filter (· ≤ 255)

/-- Two pieces written as an address of version 4. -/
def embedded? (cs : List Char) : Option (List Nat) :=
  match (fields '.' cs).mapM byte? with
  | some [a, b, c, d] => some [256 * a + b, 256 * c + d]
  | _ => none

/-- Pieces in hexadecimal with colons between them, none if the text is empty. -/
def hexPieces? (cs : List Char) : Option (List Nat) :=
  if cs.isEmpty then some [] else (fields ':' cs).mapM piece?

/-- The pieces in fields, of which the last one may be embedded. -/
def closing? : List (List Char) → Option (List Nat)
  | [] => some []
  | [last] => ((piece? last).map fun p => [p]) <|> embedded? last
  | f :: rest => do
    let p ← piece? f
    let ps ← closing? rest
    some (p :: ps)

/-- Pieces at the end of an address, none if the text is empty. -/
def pieces? (cs : List Char) : Option (List Nat) :=
  if cs.isEmpty then some [] else closing? (fields ':' cs)

/-- The texts before and after the first `::`. -/
def splitGap : List Char → Option (List Char × List Char)
  | ':' :: ':' :: rest => some ([], rest)
  | c :: rest => (splitGap rest).map fun (before, after) => (c :: before, after)
  | [] => none

/-- The pieces that an address stands for. -/
def parse? (cs : List Char) : Option (List Nat) :=
  match splitGap cs with
  | none => (pieces? cs).filter (·.length = size)
  | some (before, after) => do
    let left ← hexPieces? before
    let right ← pieces? after
    -- the gap stands for one zero at least
    if left.length + right.length < size then
      some (left ++ List.replicate (size - left.length - right.length) 0 ++ right)
    else none

/-- The zeros at the head of a list. -/
def zeros (pieces : List Nat) : Nat := (pieces.takeWhile (· = 0)).length

/-- Start and length of the first of the longest runs of zeros. -/
def longestRun (pieces : List Nat) : Nat × Nat :=
  (List.range pieces.length).foldl
    (fun best start =>
      let length := zeros (pieces.drop start)
      if best.2 < length then (start, length) else best)
    (0, 0)

/-- Pieces with colons between them. -/
def writePieces (pieces : List Nat) : List Char := joinFields ':' (pieces.map (Nat.toDigits 16))

/-- The canonical text of an address. -/
def write (pieces : List Nat) : List Char :=
  let (start, length) := longestRun pieces
  if length < 2 then writePieces pieces
  else writePieces (pieces.take start) ++ ':' :: ':' :: writePieces (pieces.drop (start + length))

end LiveQuery.Ipv6
