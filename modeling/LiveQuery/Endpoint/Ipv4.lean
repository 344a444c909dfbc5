import LiveQuery.Text.Basic

/-!
# Addresses of version 4

An address is one to four numbers with dots between them, each decimal, octal after a leading
zero, or hexadecimal after `0x`. Every number but the last stands for one byte, the last one for
all the bytes that are left. A host whose last label is such a number must be an address
(`endsInNumber`).
-/

namespace LiveQuery.Ipv4

/-- One number of an address. -/
def number? : List Char → Option Nat
  | [] => none
  | '0' :: 'x' :: digits => Hex.number? 16 digits
  | '0' :: 'X' :: digits => Hex.number? 16 digits
  | '0' :: digits => Hex.number? 8 digits
  | digits => Hex.number? 10 digits

/-- The labels of a host; one dot at the end does not count. -/
def labels (host : List Char) : List (List Char) :=
  let ls := fields '.' host
  if ls.getLast? = some [] then ls.dropLast else ls

/-- Is the last label a number? One of decimal digits alone counts, even where its leading zero
makes it a bad octal one. -/
def endsInNumber (host : List Char) : Bool :=
  match (labels host).getLast? with
  | none => false
  | some l => (!l.isEmpty && l.all Char.isDigit) || (number? l).isSome

/-- The numbers of so many bytes are below this. -/
def bytesBound (count : Nat) : Nat := Nat.pow 256 count

/-- The bytes in front, as a number whose last bytes are still zero. -/
def leading (numbers : List Nat) : Nat :=
  numbers.foldl (fun n b => 256 * n + b) 0 * bytesBound (4 - numbers.length)

/-- The address that a host stands for. -/
def parse? (host : List Char) : Option Nat := do
  let numbers ← (labels host).mapM number?
  let last ← numbers.getLast?
  let front := numbers.dropLast
  if front.length ≤ 3 ∧ (∀ b ∈ front, b ≤ 255) ∧ last < bytesBound (4 - front.length) then
    some (leading front + last)
  else none

/-- The four bytes of an address, in decimal. -/
def write (address : Nat) : List Char :=
  joinFields '.' ([3, 2, 1, 0].map fun i => Nat.toDigits 10 (address / bytesBound i % 256))

end LiveQuery.Ipv4
