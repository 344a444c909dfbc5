/-!
# Characters and fields

What the readers of text share: classes of characters as ranges of code points, hexadecimal digits
in either case, and text cut at a separator. There is always one field more than there are
separators, so that writing the fields with separators between them gives the text back
(`joinFields_fields`).
-/

namespace LiveQuery

/-! ## Ranges of characters -/

/-- The first and the last code point of each range, in increasing order. -/
abbrev Ranges := List (Nat × Nat)

/-- Does one of the ranges hold the character? -/
def Ranges.hold (ranges : Ranges) (c : Char) : Bool :=
  ranges.any fun range => range.1 ≤ c.toNat && c.toNat ≤ range.2

/-! ## Hexadecimal digits -/

namespace Hex

/-- The value of a hexadecimal digit given as a byte. -/
def value? (b : UInt8) : Option Nat :=
  if 48 ≤ b ∧ b ≤ 57 then some (b.toNat - 48)
  else if 97 ≤ b ∧ b ≤ 102 then some (b.toNat - 87)
  else if 65 ≤ b ∧ b ≤ 70 then some (b.toNat - 55)
  else none

/-- The value of a hexadecimal digit. -/
def charValue? (c : Char) : Option Nat :=
  if c.toNat < 128 then value? (UInt8.ofNat c.toNat) else none

/-- The number that the characters write in a radix of at most sixteen. -/
def number? (radix : Nat) (cs : List Char) : Option Nat :=
  cs.foldlM (fun n c => do
    let d ← charValue? c
    if d < radix then some (radix * n + d) else none) 0

end Hex

/-! ## Fields -/

/-- The fields of a text, between the separators. -/
def fields (separator : Char) : List Char → List (List Char)
  | [] => [[]]
  | c :: cs =>
    if c = separator then [] :: fields separator cs
    else
      match fields separator cs with
      | [] => [[c]]
      | f :: rest => (c :: f) :: rest

/-- The fields with separators between them. -/
def joinFields (separator : Char) : List (List Char) → List Char
  | [] => []
  | [f] => f
  | f :: rest => f ++ separator :: joinFields separator rest

/-- There is a field even where there is no separator. -/
theorem fields_ne_nil (separator : Char) (cs : List Char) : fields separator cs ≠ [] := by
  cases cs with
  | nil => simp [fields]
  | cons c cs =>
    simp only [fields]
    split
    · simp
    · split <;> simp

/-- Cutting a text and writing its fields gives it back. -/
theorem joinFields_fields (separator : Char) (cs : List Char) :
    joinFields separator (fields separator cs) = cs := by
  induction cs with
  | nil => rfl
  | cons c cs ih =>
    have hne := fields_ne_nil separator cs
    simp only [fields]
    split
    · rename_i h
      cases hf : fields separator cs with
      | nil => exact absurd hf hne
      | cons f rest => simp [joinFields, ← hf, ih, h]
    · cases hf : fields separator cs with
      | nil => exact absurd hf hne
      | cons f rest =>
        rw [hf] at ih
        cases rest <;> simp_all [joinFields]

end LiveQuery
