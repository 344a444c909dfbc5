/-!
# Punycode

Text beyond ASCII spelled with letters, digits and hyphens. What stands before the last hyphen is
copied; the rest is a sequence of numbers, each of which says which character comes next in order
of code points and where it is inserted. `decode?` reads such a spelling and `encode` writes it.
-/

namespace LiveQuery.Punycode

/-- The value of a digit: letters first, then the decimal digits. -/
def digitValue? (c : Char) : Option Nat :=
  if c.isLower then some (c.toNat - 'a'.toNat)
  else if c.isDigit then some (c.toNat - '0'.toNat + 26)
  else none

/-- A digit below this ends a number. -/
def threshold (place bias : Nat) : Nat :=
  if place ≤ bias then 1 else if bias + 26 ≤ place then 26 else place - bias

/-- Divides until the number is small, adding up the places. -/
def scale : Nat → Nat → Nat → Nat
  | 0, delta, k => k + 36 * delta / (delta + 38)
  | fuel + 1, delta, k =>
    if 455 < delta then scale fuel (delta / 35) (k + 36) else k + 36 * delta / (delta + 38)

/-- The bias after a number: `count` is the length of the text by then. -/
def adapt (delta count : Nat) (first : Bool) : Nat :=
  let delta := if first then delta / 700 else delta / 2
  let delta := delta + delta / count
  scale delta delta 0

/-- Numbers take 32 bits at most. -/
def maxNumber : Nat := 4294967295

/-- A number at the head of the input, added to `sum`, with the rest. -/
def number? (bias : Nat) : (place weight sum : Nat) → List Char → Option (Nat × List Char)
  | _, _, _, [] => none
  | place, weight, sum, c :: rest => do
    let d ← digitValue? c
    let sum := sum + d * weight
    let t := threshold place bias
    if maxNumber < sum then none
    else if d < t then some (sum, rest)
    else if maxNumber < weight * (36 - t) then none
    else number? bias (place + 36) (weight * (36 - t)) sum rest

/-- Inserts the characters that the numbers stand for. A number takes at least one character, so
the length of the input is fuel enough. -/
def insertWith : Nat → (place code bias : Nat) → (text input : List Char) → Option (List Char)
  | _, _, _, _, text, [] => some text
  | 0, _, _, _, _, _ => none
  | fuel + 1, place, code, bias, text, input => do
    let (sum, rest) ← number? bias 36 1 place input
    let count := text.length + 1
    let code := code + sum / count
    let index := sum % count
    if code.isValidChar then
      insertWith fuel (index + 1) code (adapt (sum - place) count (place = 0))
        (text.take index ++ Char.ofNat code :: text.drop index) rest
    else none

/-- The text that an encoded label stands for. -/
def decode? (label : List Char) : Option (List Char) :=
  let numbers := (label.reverse.takeWhile (· != '-')).reverse
  let copied := label.take (label.length - numbers.length - 1)
  if label.head? = some '-' ∧ copied = [] then none
  else insertWith numbers.length 0 128 72 copied numbers

/-! ## Encoding -/

/-- The character of a digit. -/
def digitChar (d : Nat) : Char :=
  if d < 26 then Char.ofNat ('a'.toNat + d) else Char.ofNat ('0'.toNat + (d - 26))

theorem one_le_threshold (place bias : Nat) : 1 ≤ threshold place bias := by
  unfold threshold
  split
  · exact Nat.le_refl 1
  · split <;> omega

/-- The digits of a number. -/
def writeNumber (bias place n : Nat) : List Char :=
  let t := threshold place bias
  if n < t then [digitChar n]
  else digitChar (t + (n - t) % (36 - t)) :: writeNumber bias (place + 36) ((n - t) / (36 - t))
termination_by n
decreasing_by
  have := one_le_threshold place bias
  have := Nat.div_le_self (n - threshold place bias) (36 - threshold place bias)
  omega

/-- The places where the characters of one code go in among all characters of a smaller code.
`place` counts the characters of the smaller codes and of this one so far. -/
def placesOf (code : Nat) : (place : Nat) → List Char → List Nat
  | _, [] => []
  | place, c :: cs =>
    if c.toNat < code then placesOf code (place + 1) cs
    else if c.toNat = code then place :: placesOf code (place + 1) cs
    else placesOf code place cs

/-- The codes beyond ASCII of a text, in increasing order. -/
def codesOf (text : List Char) : List Nat :=
  ((text.map Char.toNat).filter (128 ≤ ·)).eraseDups.mergeSort

/-- The insertions that make up a text: the code of each character and its place. -/
def insertionsOf (text : List Char) : List (Nat × Nat) :=
  (codesOf text).flatMap fun code => (placesOf code 0 text).map (code, ·)

/-- Spells insertions, each by its distance from the last one. `count` is the length of the text
after the next insertion. -/
def writeInsertions : (place code bias count : Nat) → List (Nat × Nat) → List Char
  | _, _, _, _, [] => []
  | place, code, bias, count, (nextCode, index) :: rest =>
    let distance := (nextCode - code) * count + index - place
    writeNumber bias 36 distance ++
      writeInsertions (index + 1) nextCode (adapt distance count (place = 0)) (count + 1) rest

/-- The spelling of a text. -/
def encode (text : List Char) : List Char :=
  let copied := text.filter fun c => c.toNat < 128
  let numbers := writeInsertions 0 128 72 (copied.length + 1) (insertionsOf text)
  if copied.isEmpty then numbers else copied ++ '-' :: numbers

end LiveQuery.Punycode
