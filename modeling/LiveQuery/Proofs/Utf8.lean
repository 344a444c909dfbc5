import LiveQuery.Text.Utf8
import Mathlib.Data.List.Basic

/-!
# Text that was written as UTF-8

Every character is read back from the bytes that write it, whatever follows them
(`decodeChar?_encodeChar`), and so is every string (`decode?_ofString`). An ASCII character is
written as the one byte of its code; all bytes of another one lie above ASCII.
-/

namespace LiveQuery.Utf8

@[simp] theorem encode_nil : encode [] = [] := rfl

@[simp] theorem encode_cons (c : Char) (cs : List Char) :
    encode (c :: cs) = String.utf8EncodeChar c ++ encode cs := rfl

@[simp] theorem encode_append (cs ds : List Char) : encode (cs ++ ds) = encode cs ++ encode ds :=
  List.flatMap_append

/-- A byte made of six payload bits is a continuation byte. -/
theorem continuation?_ofNat (n : Nat) :
    continuation? (UInt8.ofNat (n % 64 + 128)) = some (n % 64) := by
  have hbyte : (UInt8.ofNat (n % 64 + 128)).toNat = n % 64 + 128 :=
    UInt8.toNat_ofNat_of_lt' (by simp only [UInt8.size]; omega)
  unfold continuation?
  rw [hbyte, if_pos (by omega)]
  congr 1
  omega

/-! ## Reading by the length of a character -/

section Lengths

variable {a b c d : UInt8} {y z w v : Nat} (rest : Bytes)

theorem decodeChar?_one (ha : a.toNat < 0x80) :
    decodeChar? (a :: rest) = some (Char.ofNat a.toNat, rest) := by
  unfold decodeChar?
  dsimp only
  rw [if_pos ha]

theorem decodeChar?_two (ha : 0xC2 ≤ a.toNat ∧ a.toNat < 0xE0) (hb : continuation? b = some y)
    (hv : a.toNat % 32 * 64 + y = v) :
    decodeChar? (a :: b :: rest) = some (Char.ofNat v, rest) := by
  unfold decodeChar?
  dsimp only
  rw [if_neg (by omega), if_neg (by omega), if_pos (by omega)]
  subst hv
  exact Option.bind_eq_some_iff.2 ⟨y, hb, rfl⟩

theorem decodeChar?_three (ha : 0xE0 ≤ a.toNat ∧ a.toNat < 0xF0) (hb : continuation? b = some y)
    (hc : continuation? c = some z) (hv : a.toNat % 16 * 4096 + y * 64 + z = v)
    (hrange : 0x800 ≤ v ∧ (v < 0xD800 ∨ 0xE000 ≤ v)) :
    decodeChar? (a :: b :: c :: rest) = some (Char.ofNat v, rest) := by
  unfold decodeChar?
  dsimp only
  rw [if_neg (by omega), if_neg (by omega), if_neg (by omega), if_pos (by omega)]
  -- the binds are opened by a lemma: unfolding them makes the kernel evaluate the code
  refine Option.bind_eq_some_iff.2 ⟨y, hb, Option.bind_eq_some_iff.2 ⟨z, hc, ?_⟩⟩
  subst hv
  exact if_neg (by omega)

theorem decodeChar?_four (ha : 0xF0 ≤ a.toNat ∧ a.toNat < 0xF5) (hb : continuation? b = some y)
    (hc : continuation? c = some z) (hd : continuation? d = some w)
    (hv : a.toNat % 8 * 262144 + y * 4096 + z * 64 + w = v)
    (hrange : 0x10000 ≤ v ∧ v < 0x110000) :
    decodeChar? (a :: b :: c :: d :: rest) = some (Char.ofNat v, rest) := by
  unfold decodeChar?
  dsimp only
  rw [if_neg (by omega), if_neg (by omega), if_neg (by omega), if_neg (by omega),
    if_pos (by omega)]
  refine Option.bind_eq_some_iff.2 ⟨y, hb, Option.bind_eq_some_iff.2 ⟨z, hc,
    Option.bind_eq_some_iff.2 ⟨w, hd, ?_⟩⟩⟩
  subst hv
  exact if_neg (by omega)

end Lengths

/-! ## Writing -/

/-- The code of a character is that of a Unicode scalar value. -/
theorem code_range (c : Char) : c.toNat < 0xD800 ∨ (0xDFFF < c.toNat ∧ c.toNat < 0x110000) :=
  c.valid

/-- The bytes of a character, by its code. -/
theorem encodeChar_eq (c : Char) : String.utf8EncodeChar c =
    if c.toNat ≤ 0x7F then [UInt8.ofNat c.toNat]
    else if c.toNat ≤ 0x7FF then
      [UInt8.ofNat (c.toNat / 64 % 32 + 192), UInt8.ofNat (c.toNat % 64 + 128)]
    else if c.toNat ≤ 0xFFFF then
      [UInt8.ofNat (c.toNat / 4096 % 16 + 224), UInt8.ofNat (c.toNat / 64 % 64 + 128),
        UInt8.ofNat (c.toNat % 64 + 128)]
    else
      [UInt8.ofNat (c.toNat / 262144 % 8 + 240), UInt8.ofNat (c.toNat / 4096 % 64 + 128),
        UInt8.ofNat (c.toNat / 64 % 64 + 128), UInt8.ofNat (c.toNat % 64 + 128)] := rfl

/-- The character at the head of what was written is the one that was written. -/
theorem decodeChar?_encodeChar (c : Char) (rest : Bytes) :
    decodeChar? (String.utf8EncodeChar c ++ rest) = some (c, rest) := by
  have hrange := code_range c
  have hcode : Char.ofNat c.toNat = c := Char.ofNat_toNat c
  have hlead (n : Nat) (h : n < 256) : (UInt8.ofNat n).toNat = n := UInt8.toNat_ofNat_of_lt' h
  rw [encodeChar_eq]
  -- the four lengths of a written character
  split
  · have ha := hlead c.toNat (by omega)
    have hread := decodeChar?_one (a := UInt8.ofNat c.toNat) rest (by omega)
    rwa [ha, hcode] at hread
  split
  · have ha := hlead (c.toNat / 64 % 32 + 192) (by omega)
    have hread := decodeChar?_two (a := UInt8.ofNat (c.toNat / 64 % 32 + 192)) (v := c.toNat) rest
      (by omega) (continuation?_ofNat c.toNat) (by omega)
    rwa [hcode] at hread
  split
  · have ha := hlead (c.toNat / 4096 % 16 + 224) (by omega)
    have hread := decodeChar?_three (a := UInt8.ofNat (c.toNat / 4096 % 16 + 224)) (v := c.toNat)
      rest (by omega) (continuation?_ofNat (c.toNat / 64)) (continuation?_ofNat c.toNat)
      (by omega) (by omega)
    rwa [hcode] at hread
  · have ha := hlead (c.toNat / 262144 % 8 + 240) (by omega)
    have hread := decodeChar?_four (a := UInt8.ofNat (c.toNat / 262144 % 8 + 240)) (v := c.toNat)
      rest (by omega) (continuation?_ofNat (c.toNat / 4096)) (continuation?_ofNat (c.toNat / 64))
      (continuation?_ofNat c.toNat) (by omega) (by omega)
    rwa [hcode] at hread

/-- An ASCII character is one byte. -/
theorem encodeChar_of_lt {c : Char} (h : c.toNat < 0x80) :
    String.utf8EncodeChar c = [UInt8.ofNat c.toNat] := by
  rw [encodeChar_eq, if_pos (by omega)]

/-- The bytes of any other character lie above ASCII. -/
theorem le_of_mem_encodeChar {c : Char} (h : 0x80 ≤ c.toNat) {b : UInt8}
    (hb : b ∈ String.utf8EncodeChar c) : 0x80 ≤ b.toNat := by
  have hbyte (n : Nat) (hlow : 0x80 ≤ n) (hhigh : n < 256) : 0x80 ≤ (UInt8.ofNat n).toNat := by
    rw [UInt8.toNat_ofNat_of_lt' (by simpa only [UInt8.size] using hhigh)]
    exact hlow
  have hrange := code_range c
  rw [encodeChar_eq, if_neg (by omega)] at hb
  split at hb
  · rcases List.mem_pair.1 hb with rfl | rfl <;> exact hbyte _ (by omega) (by omega)
  split at hb
  all_goals
    simp only [List.mem_cons, List.not_mem_nil, or_false] at hb
  · rcases hb with rfl | rfl | rfl <;> exact hbyte _ (by omega) (by omega)
  · rcases hb with rfl | rfl | rfl | rfl <;> exact hbyte _ (by omega) (by omega)

/-- A character takes at least one byte. -/
theorem encodeChar_ne_nil (c : Char) : String.utf8EncodeChar c ≠ [] := by
  unfold String.utf8EncodeChar
  dsimp only
  split
  · exact List.cons_ne_nil _ _
  split
  · exact List.cons_ne_nil _ _
  split <;> exact List.cons_ne_nil _ _

/-- Written characters are no fewer bytes than characters. -/
theorem length_le_encode (cs : List Char) : cs.length ≤ (encode cs).length := by
  induction cs with
  | nil => exact Nat.le_refl 0
  | cons c cs ih =>
    have hc := List.length_pos_iff.2 (encodeChar_ne_nil c)
    rw [encode_cons, List.length_append, List.length_cons]
    omega

/-- With fuel enough all characters that were written are read. -/
theorem splitWith_encode (cs : List Char) (fuel : Nat) (h : cs.length ≤ fuel) :
    splitWith fuel (encode cs) = (cs, []) := by
  induction cs generalizing fuel with
  | nil => cases fuel <;> rfl
  | cons c cs ih =>
    cases fuel with
    | zero => exact absurd h (Nat.not_succ_le_zero _)
    | succ fuel =>
      rw [splitWith, encode_cons, decodeChar?_encodeChar]
      simp only [ih fuel (Nat.le_of_succ_le_succ h)]

/-- A string is read back from its bytes. -/
theorem decode?_encode (cs : List Char) : decode? (encode cs) = some (String.ofList cs) := by
  rw [decode?, split, splitWith_encode cs _ (length_le_encode cs)]

end LiveQuery.Utf8
