/-!
# Subscription ids

An id is 122 random bits written as 32 hexadecimal digits in five groups, of which one tells the
version and one the variant of the format. `SubscriptionId.isWritten` recognises such a text.
-/

namespace LiveQuery.SubscriptionId

/-- What stands at one place of an id. -/
inductive Place where
  | dash
  /-- Any hexadecimal digit: four bits. -/
  | digit
  /-- The digit of the version, which is always the same. -/
  | version
  /-- The digit of the variant, one of four: two bits. -/
  | variant
deriving DecidableEq, Repr, Inhabited

/-- The places of an id. -/
def layout : List Place :=
  List.replicate 8 .digit ++ .dash :: List.replicate 4 .digit ++
    .dash :: .version :: List.replicate 3 .digit ++
    .dash :: .variant :: List.replicate 3 .digit ++ .dash :: List.replicate 12 .digit

/-- Fills places with bits, the lowest first. -/
def fill : List Place → Nat → List Char
  | [], _ => []
  | .dash :: rest, bits => '-' :: fill rest bits
  | .digit :: rest, bits => Nat.digitChar (bits % 16) :: fill rest (bits / 16)
  | .version :: rest, bits => '4' :: fill rest bits
  | .variant :: rest, bits => Nat.digitChar (8 + bits % 4) :: fill rest (bits / 4)

/-- The id of random bits. -/
def ofBits (bits : Nat) : String := String.ofList (fill layout bits)

/-- Is the character a lower-case hexadecimal digit? -/
def isHexDigit (c : Char) : Bool := c.isDigit || ('a' ≤ c && c ≤ 'f')

/-- May the character stand at the place? -/
def Place.admits : Place → Char → Bool
  | .dash, c => c = '-'
  | .digit, c => isHexDigit c
  | .version, c => c = '4'
  | .variant, c => c ∈ ['8', '9', 'a', 'b']

/-- Do the characters fit the places? -/
def fits : List Place → List Char → Bool
  | [], cs => cs.isEmpty
  | _ :: _, [] => false
  | p :: places, c :: cs => p.admits c && fits places cs

/-- Is the text an id? -/
def isWritten (s : String) : Bool := fits layout s.toList

/-- The digits of a number below sixteen. -/
theorem isHexDigit_digitChar {n : Nat} (h : n < 16) : isHexDigit (Nat.digitChar n) = true := by
  have all : ∀ m ∈ List.range 16, isHexDigit (Nat.digitChar m) = true := by decide
  exact all n (List.mem_range.mpr h)

/-- What fills the places fits them. -/
theorem fits_fill (places : List Place) (bits : Nat) : fits places (fill places bits) = true := by
  induction places generalizing bits with
  | nil => rfl
  | cons p places ih =>
    cases p with
    | dash => simp [fill, fits, Place.admits, ih]
    | version => simp [fill, fits, Place.admits, ih]
    | digit =>
      simp [fill, fits, Place.admits, ih, isHexDigit_digitChar (Nat.mod_lt bits (by decide))]
    | variant =>
      have all : ∀ m ∈ List.range 4, Place.variant.admits (Nat.digitChar (8 + m)) = true := by
        decide
      simp [fill, fits, ih, all _ (List.mem_range.mpr (Nat.mod_lt bits (by decide)))]

/-- The id of random bits is an id. -/
theorem isWritten_ofBits (bits : Nat) : isWritten (ofBits bits) = true := by
  simp [isWritten, ofBits, fits_fill]

end LiveQuery.SubscriptionId
