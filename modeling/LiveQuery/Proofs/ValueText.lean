import LiveQuery.Json.Printer
import LiveQuery.Json.Reader
import LiveQuery.Proofs.Members
import LiveQuery.Proofs.Utf8
import Mathlib.Tactic.IntervalCases

/-!
# Values read back from their text

What the reader makes of the text of a value (`Value.parse_text`): the same value with the
members of each object in key order, the last one of each key (`Value.normal`). That holds of
every value whose numbers are integers of 64 bits (`Value.Numbers`, `Number.Integral`) and that
nests no deeper than the reader allows; a value in canonical form is read back unchanged
(`Value.normal_of_canonical`).

The induction is on the value. Its strings and numbers come first: each is read back in front of
any bytes that do not go on with it, so the statements speak of the text followed by a rest.
-/

namespace LiveQuery.Json

open Utf8 (encode encode_cons encode_append encodeChar_of_lt)

/-- An integer of 64 bits, with or without a sign. -/
def Number.Integral : Number → Prop
  | .int i => -2 ^ 63 ≤ i ∧ i < 2 ^ 64
  | .double _ => False

mutual

/-- Every number in the value satisfies the predicate. -/
def Value.Numbers (p : Number → Prop) : Value → Prop
  | .number n => p n
  | .array items => Value.ItemsNumbers p items
  | .object members => Value.MembersNumbers p members
  | _ => True

/-- Every number in the items satisfies the predicate. -/
def Value.ItemsNumbers (p : Number → Prop) : List Value → Prop
  | [] => True
  | v :: rest => v.Numbers p ∧ Value.ItemsNumbers p rest

/-- Every number in the member values satisfies the predicate. -/
def Value.MembersNumbers (p : Number → Prop) : List (String × Value) → Prop
  | [] => True
  | (_, v) :: rest => v.Numbers p ∧ Value.MembersNumbers p rest

end

mutual

/-- The value with the members of each object in key order, the last one of each key. -/
def Value.normal : Value → Value
  | .array items => .array (Value.itemsNormal items)
  | .object members => .object (Members.ofPairs (Value.membersNormal members))
  | v => v

/-- Every item in normal form. -/
def Value.itemsNormal : List Value → List Value
  | [] => []
  | v :: rest => v.normal :: Value.itemsNormal rest

/-- Every member value in normal form, the members where they stand. -/
def Value.membersNormal : List (String × Value) → List (String × Value)
  | [] => []
  | (k, v) :: rest => (k, v.normal) :: Value.membersNormal rest

end

namespace Reader

/-! ## Strings -/

/-- A byte that stands for itself inside a string. -/
def IsPlain (b : UInt8) : Prop := b ≠ byte '"' ∧ b ≠ byte '\\' ∧ ¬ b < 32

/-- With more fuel than `need` the content of a string is read from these bytes. -/
def ReadsContent (need : Nat) (bytes content rest : Bytes) : Prop :=
  ∀ fuel, need < fuel → contentWith fuel bytes = .ok (content, rest)

theorem readsContent_end (rest : Bytes) : ReadsContent 0 (byte '"' :: rest) [] rest := by
  intro fuel hfuel
  cases fuel with
  | zero => exact absurd hfuel (Nat.lt_irrefl 0)
  | succ fuel => exact if_pos rfl

theorem ReadsContent.plain {need : Nat} {bytes content rest : Bytes} {b : UInt8}
    (h : ReadsContent need bytes content rest) (hb : IsPlain b) :
    ReadsContent (need + 1) (b :: bytes) (b :: content) rest := by
  intro fuel hfuel
  cases fuel with
  | zero => exact absurd hfuel (Nat.not_lt_zero _)
  | succ fuel =>
    obtain ⟨hquote, hslash, hcontrol⟩ := hb
    rw [contentWith, if_neg hquote, if_neg hslash, if_neg hcontrol,
      h fuel (Nat.lt_of_succ_lt_succ hfuel)]
    rfl

theorem ReadsContent.plains {need : Nat} {bytes content rest : Bytes}
    (h : ReadsContent need bytes content rest) (bs : Bytes) (hbs : ∀ b ∈ bs, IsPlain b) :
    ReadsContent (need + bs.length) (bs ++ bytes) (bs ++ content) rest := by
  induction bs with
  | nil => exact h
  | cons b bs ih =>
    have htail := ih fun c hc => hbs c (List.mem_cons_of_mem b hc)
    exact htail.plain (hbs b List.mem_cons_self)

theorem ReadsContent.escaped {need : Nat} {after bytes content rest : Bytes} {c : Char}
    (h : ReadsContent need bytes content rest) (hescape : escape after = .ok (c, bytes)) :
    ReadsContent (need + 1) (byte '\\' :: after) (String.utf8EncodeChar c ++ content) rest := by
  intro fuel hfuel
  cases fuel with
  | zero => exact absurd hfuel (Nat.not_lt_zero _)
  | succ fuel =>
    have hslash : byte '\\' ≠ byte '"' := by decide
    rw [contentWith, if_neg hslash, if_pos rfl, hescape]
    simp only [bind, Except.bind, h fuel (Nat.lt_of_succ_lt_succ hfuel)]

theorem ReadsContent.mono {need more : Nat} {bytes content rest : Bytes}
    (h : ReadsContent need bytes content rest) (hle : need ≤ more) :
    ReadsContent more bytes content rest :=
  fun fuel hfuel => h fuel (Nat.lt_of_le_of_lt hle hfuel)

/-- The value of a hexadecimal digit that was written. -/
theorem value?_digitChar {d : Nat} (h : d < 16) :
    Hex.value? (byte (Nat.digitChar d)) = some d := by
  interval_cases d <;> rfl

/-- The escape of a control character by its code. -/
theorem escape_control {c : Char} (h : c.toNat < 32) (rest : Bytes) :
    escape (byte 'u' :: byte '0' :: byte '0' :: byte (Nat.digitChar (c.toNat / 16)) ::
      byte (Nat.digitChar (c.toNat % 16)) :: rest) = .ok (c, rest) := by
  have hzero : Hex.value? (byte '0') = some 0 := rfl
  have hcode : 0 * 4096 + 0 * 256 + c.toNat / 16 * 16 + c.toNat % 16 = c.toNat := by omega
  have hquad : hexQuad (byte '0' :: byte '0' :: byte (Nat.digitChar (c.toNat / 16)) ::
      byte (Nat.digitChar (c.toNat % 16)) :: rest) = .ok (c.toNat, rest) := by
    simp only [hexQuad, hzero, value?_digitChar (show c.toNat / 16 < 16 by omega),
      value?_digitChar (show c.toNat % 16 < 16 by omega), hcode]
  have hread : codeEscape (byte '0' :: byte '0' :: byte (Nat.digitChar (c.toNat / 16)) ::
      byte (Nat.digitChar (c.toNat % 16)) :: rest) = .ok (c, rest) := by
    unfold codeEscape
    rw [hquad]
    simp only [bind, Except.bind]
    rw [if_neg (by omega), if_neg (by omega), Char.ofNat_toNat]
  exact hread

/-- The bytes of a character that is not escaped stand for themselves. -/
theorem isPlain_of_mem_encodeChar {c : Char} (hquote : c ≠ '"') (hslash : c ≠ '\\')
    (hcontrol : ¬ c.toNat < 0x20) {b : UInt8} (hb : b ∈ String.utf8EncodeChar c) : IsPlain b := by
  have hcode : Char.ofNat c.toNat = c := Char.ofNat_toNat c
  rcases Nat.lt_or_ge c.toNat 0x80 with hascii | habove
  · rw [encodeChar_of_lt hascii, List.mem_singleton] at hb
    have hnat : b.toNat = c.toNat := by
      rw [hb]
      exact UInt8.toNat_ofNat_of_lt' (by simp only [UInt8.size]; omega)
    refine ⟨?_, ?_, ?_⟩
    · rintro rfl
      exact hquote (by rw [← hcode, ← hnat]; rfl)
    · rintro rfl
      exact hslash (by rw [← hcode, ← hnat]; rfl)
    · intro hlt
      have hlt : b.toNat < 32 := hlt
      omega
  · have hle := Utf8.le_of_mem_encodeChar habove hb
    refine ⟨?_, ?_, ?_⟩
    · rintro rfl
      exact absurd hle (by decide)
    · rintro rfl
      exact absurd hle (by decide)
    · intro hlt
      have hlt : b.toNat < 32 := hlt
      omega

/-- A character is read back as it was written, escaped or not. -/
theorem ReadsContent.char {need : Nat} {bytes content rest : Bytes}
    (h : ReadsContent need bytes content rest) (c : Char) :
    ReadsContent (need + (encode (escapeChar c)).length) (encode (escapeChar c) ++ bytes)
      (String.utf8EncodeChar c ++ content) rest := by
  -- a short escape: a backslash and one more byte
  have hshort {d : Char} (hd : escape (byte d :: bytes) = .ok (c, bytes)) (hlt : d.toNat < 0x80)
      (heq : escapeChar c = ['\\', d]) :
      ReadsContent (need + (encode (escapeChar c)).length) (encode (escapeChar c) ++ bytes)
        (String.utf8EncodeChar c ++ content) rest := by
    have hbytes : encode (escapeChar c) = [byte '\\', byte d] := by
      rw [heq, encode_cons, encode_cons, encodeChar_of_lt hlt]
      rfl
    rw [hbytes]
    exact (h.escaped hd).mono (by simp only [List.length_cons, List.length_nil]; omega)
  by_cases hquote : c = '"'
  · subst hquote
    exact hshort (d := '"') rfl (by decide) rfl
  by_cases hslash : c = '\\'
  · subst hslash
    exact hshort (d := '\\') rfl (by decide) rfl
  by_cases hback : c = '\x08'
  · subst hback
    exact hshort (d := 'b') rfl (by decide) rfl
  by_cases htab : c = '\t'
  · subst htab
    exact hshort (d := 't') rfl (by decide) rfl
  by_cases hline : c = '\n'
  · subst hline
    exact hshort (d := 'n') rfl (by decide) rfl
  by_cases hfeed : c = '\x0c'
  · subst hfeed
    exact hshort (d := 'f') rfl (by decide) rfl
  by_cases hreturn : c = '\r'
  · subst hreturn
    exact hshort (d := 'r') rfl (by decide) rfl
  by_cases hcontrol : c.toNat < 0x20
  · have heq : escapeChar c =
        ['\\', 'u', '0', '0', Nat.digitChar (c.toNat / 16), Nat.digitChar (c.toNat % 16)] := by
      unfold escapeChar
      rw [if_neg hquote, if_neg hslash, if_neg hback, if_neg htab, if_neg hline, if_neg hfeed,
        if_neg hreturn, if_pos hcontrol]
    have hdigit {n : Nat} (hn : n < 16) :
        String.utf8EncodeChar (Nat.digitChar n) = [byte (Nat.digitChar n)] :=
      encodeChar_of_lt (by interval_cases n <;> decide)
    have hbytes : encode (escapeChar c) = [byte '\\', byte 'u', byte '0', byte '0',
        byte (Nat.digitChar (c.toNat / 16)), byte (Nat.digitChar (c.toNat % 16))] := by
      rw [heq]
      simp only [encode_cons, hdigit (show c.toNat / 16 < 16 by omega),
        hdigit (show c.toNat % 16 < 16 by omega)]
      rfl
    rw [hbytes]
    exact (h.escaped (escape_control hcontrol bytes)).mono (by simp only [List.length_cons, List.length_nil]; omega)
  · have heq : escapeChar c = [c] := by
      unfold escapeChar
      rw [if_neg hquote, if_neg hslash, if_neg hback, if_neg htab, if_neg hline, if_neg hfeed,
        if_neg hreturn, if_neg hcontrol]
    have hbytes : encode (escapeChar c) = String.utf8EncodeChar c := by
      rw [heq]
      exact List.append_nil _
    rw [hbytes]
    exact h.plains _ fun b hb => isPlain_of_mem_encodeChar hquote hslash hcontrol hb

/-- The characters of a string are read back up to its closing quote. -/
theorem readsContent_escapeChars (cs : List Char) (rest : Bytes) :
    ReadsContent (encode (cs.flatMap escapeChar)).length
      (encode (cs.flatMap escapeChar) ++ byte '"' :: rest) (encode cs) rest := by
  induction cs with
  | nil => exact readsContent_end rest
  | cons c cs ih =>
    have hc := ih.char c
    rw [List.flatMap_cons, encode_append, encode_cons, List.append_assoc, List.length_append,
      Nat.add_comm]
    exact hc

/-- A quoted string without its opening quote. -/
theorem string_quoted (s : String) (rest : Bytes) :
    string (encode (s.toList.flatMap escapeChar) ++ byte '"' :: rest) = .ok (s, rest) := by
  have hcontent := readsContent_escapeChars s.toList rest
    ((encode (s.toList.flatMap escapeChar) ++ byte '"' :: rest).length + 1)
    (by rw [List.length_append]; omega)
  unfold string
  rw [hcontent]
  simp only [bind, Except.bind, Utf8.decode?_encode, String.ofList_toList]

/-! ## Numbers -/

/-- No digit, point or exponent mark follows: a number that stands here is over. -/
def EndsNumber (rest : Bytes) : Prop :=
  ∀ b ∈ rest.head?, isDigit b = false ∧ b ≠ byte '.' ∧ isExponentMark b = false

/-- The codes of the digits. -/
theorem range_of_isDigit {c : Char} (h : c.isDigit = true) : 48 ≤ c.toNat ∧ c.toNat ≤ 57 := by
  simpa [Char.isDigit, UInt32.le_iff_toNat_le] using h

/-- A digit is the byte of its code. -/
theorem toNat_byte {c : Char} (h : c.isDigit = true) : (byte c).toNat = c.toNat := by
  have hrange := range_of_isDigit h
  exact UInt8.toNat_ofNat_of_lt' (by simp only [UInt8.size]; omega)

theorem isDigit_byte {c : Char} (h : c.isDigit = true) : isDigit (byte c) = true := by
  obtain ⟨hlow, hhigh⟩ := range_of_isDigit h
  have hcode : Char.ofNat c.toNat = c := Char.ofNat_toNat c
  rw [← hcode]
  interval_cases c.toNat <;> rfl

/-- Digits are one byte each. -/
theorem encode_digits {cs : List Char} (h : ∀ c ∈ cs, c.isDigit = true) :
    encode cs = cs.map byte := by
  induction cs with
  | nil => rfl
  | cons c cs ih =>
    have hrange := range_of_isDigit (h c List.mem_cons_self)
    rw [encode_cons, encodeChar_of_lt (by omega), ih fun d hd => h d (List.mem_cons_of_mem c hd)]
    rfl

theorem isDigit_of_mem_toDigits {n : Nat} {c : Char} (h : c ∈ Nat.toDigits 10 n) :
    c.isDigit = true := Nat.isDigit_of_mem_toDigits (by decide) (by decide) h

/-- The digits of a number spell it. -/
theorem digitsValue_toDigits (n : Nat) : digitsValue ((Nat.toDigits 10 n).map byte) = n := by
  have hfold (cs : List Char) (h : ∀ c ∈ cs, c.isDigit = true) (start : Nat) :
      (cs.map byte).foldl (fun n b => 10 * n + digitValue b) start =
        Nat.ofDigitChars 10 cs start := by
    induction cs generalizing start with
    | nil => rfl
    | cons c cs ih =>
      have hvalue : digitValue (byte c) = c.toNat - '0'.toNat := by
        unfold digitValue
        rw [toNat_byte (h c List.mem_cons_self)]
        rfl
      rw [List.map_cons, List.foldl_cons, hvalue,
        ih (fun d hd => h d (List.mem_cons_of_mem c hd))]
      rfl
  exact (hfold _ (fun c hc => isDigit_of_mem_toDigits hc) 0).trans
    (Nat.ofDigitChars_toDigits (by decide) (by decide))

/-- The first digit of a positive number is not zero. -/
theorem head_toDigits_ne_zero (n : Nat) (hn : 0 < n) :
    ∀ c ∈ (Nat.toDigits 10 n).head?, c ≠ '0' := by
  induction n using Nat.strongRecOn with
  | ind n ih =>
    intro c hc
    rcases Nat.lt_or_ge n 10 with hlt | hge
    · rw [Nat.toDigits_of_lt_base hlt] at hc
      obtain rfl : Nat.digitChar n = c := Option.some.inj hc
      interval_cases n <;> decide
    · -- all digits but the last are those of the tenth part
      rw [Nat.toDigits_of_base_le (by decide) hge, List.head?_append_of_ne_nil _
        Nat.toDigits_ne_nil] at hc
      exact ih (n / 10) (by omega) (by omega) c hc

/-- An integer is over where no digit, point or exponent mark follows. -/
theorem afterWhole_of_ends (negative : Bool) (whole : Bytes) {rest : Bytes}
    (h : EndsNumber rest) : afterWhole negative whole rest = integer negative whole rest := by
  cases rest with
  | nil => rfl
  | cons b rest =>
    obtain ⟨-, hpoint, hmark⟩ := h b rfl
    rw [afterWhole, if_neg hpoint, hmark]
    rfl

/-- The digits of a number are all taken, and no more. -/
theorem number_toDigits (negative : Bool) (n : Nat) {rest : Bytes} (h : EndsNumber rest) :
    number negative (encode (Nat.toDigits 10 n) ++ rest) =
      integer negative ((Nat.toDigits 10 n).map byte) rest := by
  have hdigits : ∀ b ∈ (Nat.toDigits 10 n).map byte, isDigit b = true := by
    intro b hb
    obtain ⟨c, hc, rfl⟩ := List.mem_map.1 hb
    exact isDigit_byte (isDigit_of_mem_toDigits hc)
  rw [encode_digits fun c hc => isDigit_of_mem_toDigits hc]
  rcases Nat.eq_zero_or_pos n with rfl | hpos
  · -- a zero stands alone
    have hzero : (Nat.toDigits 10 0).map byte = [byte '0'] := rfl
    rw [hzero, ← afterWhole_of_ends negative [byte '0'] h]
    cases rest with
    | nil => rfl
    | cons b rest =>
      obtain ⟨hdigit, -, -⟩ := h b rfl
      rw [List.singleton_append, number, if_pos rfl]
      simp only [hdigit, Bool.false_eq_true, if_false]
  · cases hcs : Nat.toDigits 10 n with
    | nil => exact absurd hcs Nat.toDigits_ne_nil
    | cons c cs =>
      rw [hcs] at hdigits
      have hc : c.isDigit = true := isDigit_of_mem_toDigits (n := n) (hcs ▸ List.mem_cons_self)
      have hne : byte c ≠ byte '0' := by
        have hchar := head_toDigits_ne_zero n hpos c (by rw [hcs]; rfl)
        intro heq
        apply hchar
        have hcode : Char.ofNat c.toNat = c := Char.ofNat_toNat c
        rw [← hcode, ← toNat_byte hc, heq]
        rfl
      have hmore : ∀ b ∈ cs.map byte, isDigit b = true := fun b hb =>
        hdigits b (List.mem_cons_of_mem _ hb)
      have htake : rest.takeWhile isDigit = [] := by
        cases rest with
        | nil => rfl
        | cons b rest => exact List.takeWhile_cons_of_neg (by rw [(h b rfl).1]; decide)
      have hdrop : rest.dropWhile isDigit = rest := by
        cases rest with
        | nil => rfl
        | cons b rest => exact List.dropWhile_cons_of_neg (by rw [(h b rfl).1]; decide)
      rw [List.map_cons, List.cons_append, number.eq_def]
      dsimp only
      rw [if_neg hne, if_pos (isDigit_byte hc),
        List.takeWhile_append_of_pos hmore, List.dropWhile_append_of_pos hmore, htake, hdrop,
        List.append_nil, afterWhole_of_ends _ _ h]

/-- A natural number of 64 bits is read back. -/
theorem integer_of_nonneg {i : Int} (hnonneg : 0 ≤ i) (hlt : i < 2 ^ 64) (rest : Bytes) :
    integer false ((Nat.toDigits 10 i.natAbs).map byte) rest = .ok (.number (.int i), rest) := by
  have hbound : intBound = 2 ^ 64 := rfl
  have hsmall : (!false && decide (i.natAbs < intBound)) = true := by
    rw [Bool.not_false, Bool.true_and, decide_eq_true_eq, hbound]
    omega
  have hback : (i.natAbs : Int) = i := Int.natAbs_of_nonneg hnonneg
  unfold integer
  rw [digitsValue_toDigits]
  dsimp only
  rw [if_pos hsmall, hback]

/-- A negative integer of 64 bits is read back. -/
theorem integer_of_neg {i : Int} (hneg : i < 0) (hle : -2 ^ 63 ≤ i) (rest : Bytes) :
    integer true ((Nat.toDigits 10 i.natAbs).map byte) rest = .ok (.number (.int i), rest) := by
  have hbound : intBound = 2 ^ 64 := rfl
  have hsmall :
      (true && decide (i.natAbs ≠ 0) && decide (2 * i.natAbs ≤ intBound)) = true := by
    rw [Bool.true_and, Bool.and_eq_true, decide_eq_true_eq, decide_eq_true_eq, hbound]
    omega
  have hback : -(i.natAbs : Int) = i := by omega
  unfold integer
  rw [digitsValue_toDigits]
  dsimp only
  rw [if_neg (show ¬(!true && decide (i.natAbs < intBound)) = true from Bool.false_ne_true),
    if_pos hsmall, hback]

/-- An integer of 64 bits is read back. -/
theorem scalar_intChars {i : Int} (hi : (Number.int i).Integral) {rest : Bytes}
    (h : EndsNumber rest) : ∃ b bytes, encode (intChars i) = b :: bytes ∧
      (isDigit b = true ∨ b = byte '-') ∧
        scalar b (bytes ++ rest) = .ok (.number (.int i), rest) := by
  obtain ⟨hlow, hhigh⟩ := hi
  unfold intChars
  split
  · rename_i hneg
    refine ⟨byte '-', encode (Nat.toDigits 10 i.natAbs), rfl, .inr rfl, ?_⟩
    exact (number_toDigits true i.natAbs h).trans (integer_of_neg hneg hlow rest)
  · rename_i hneg
    have hread := (number_toDigits false i.natAbs h).trans
      (integer_of_nonneg (by omega) hhigh rest)
    rw [encode_digits fun c hc => isDigit_of_mem_toDigits hc] at hread ⊢
    cases hcs : Nat.toDigits 10 i.natAbs with
    | nil => exact absurd hcs Nat.toDigits_ne_nil
    | cons c cs =>
      rw [hcs] at hread
      have hc : isDigit (byte c) = true :=
        isDigit_byte (isDigit_of_mem_toDigits (n := i.natAbs) (hcs ▸ List.mem_cons_self))
      refine ⟨byte c, cs.map byte, rfl, .inl hc, ?_⟩
      have hne (d : Char) (hd : isDigit (byte d) = false) : byte c ≠ byte d := by
        intro heq
        rw [heq, hd] at hc
        exact absurd hc (by decide)
      unfold scalar
      rw [if_neg (hne 'n' rfl), if_neg (hne 't' rfl), if_neg (hne 'f' rfl), if_neg (hne '-' rfl),
        if_pos hc]
      exact hread

/-! ## Values -/

/-- The first byte of a value's text: it is no blank, and it closes no array and no object. -/
def StartsValue (b : UInt8) : Prop := isBlank b = false ∧ b ≠ byte ']' ∧ b ≠ byte '\x7d'

instance (b : UInt8) : Decidable (StartsValue b) :=
  inferInstanceAs (Decidable (isBlank b = false ∧ b ≠ byte ']' ∧ b ≠ byte '\x7d'))

theorem startsValue_of_digit {b : UInt8} (h : isDigit b = true ∨ b = byte '-') :
    StartsValue b ∧ b ≠ byte '[' ∧ b ≠ byte '\x7b' := by
  rcases h with hdigit | rfl
  · have hne (d : UInt8) (hd : isDigit d = false) : b ≠ d := by
      rintro rfl
      rw [hd] at hdigit
      exact absurd hdigit (by decide)
    refine ⟨⟨?_, hne _ rfl, hne _ rfl⟩, hne _ rfl, hne _ rfl⟩
    simp only [isBlank, Bool.or_eq_false_iff, beq_eq_false_iff_ne]
    exact ⟨⟨⟨hne _ rfl, hne _ rfl⟩, hne _ rfl⟩, hne _ rfl⟩
  · refine ⟨⟨?_, ?_, ?_⟩, ?_, ?_⟩ <;> decide

theorem skipBlank_of_starts {b : UInt8} (h : StartsValue b) (bytes : Bytes) :
    skipBlank (b :: bytes) = b :: bytes :=
  List.dropWhile_cons_of_neg (by rw [h.1]; decide)

/-- A byte that opens neither an array nor an object starts a scalar. -/
theorem value_eq_scalar {b : UInt8} (hstart : StartsValue b) (harray : b ≠ byte '[')
    (hobject : b ≠ byte '\x7b') (depth : Nat) (rest : Bytes) :
    value depth (b :: rest) = scalar b rest := by
  cases depth with
  | zero =>
    rw [value, skipBlank_of_starts hstart]
    dsimp only
    rw [if_neg (not_or.2 ⟨harray, hobject⟩)]
  | succ depth =>
    rw [value, skipBlank_of_starts hstart]
    dsimp only
    rw [if_neg harray, if_neg hobject]

/-- The text of the items after the first. -/
def moreItems (items : List Value) : List Char := items.flatMap fun v => ',' :: v.chars

/-- The text of the members after the first. -/
def moreMembers (members : List (String × Value)) : List Char :=
  members.flatMap fun m => ',' :: (quote m.1 ++ ':' :: m.2.chars)

theorem itemsChars_cons (v : Value) (items : List Value) :
    Value.itemsChars (v :: items) = v.chars ++ moreItems items := by
  induction items generalizing v with
  | nil => simp [Value.itemsChars, moreItems]
  | cons w items ih =>
    have hcons : Value.itemsChars (v :: w :: items) =
        v.chars ++ ',' :: Value.itemsChars (w :: items) := rfl
    rw [hcons, ih w]
    rfl

theorem membersChars_cons (m : String × Value) (members : List (String × Value)) :
    Value.membersChars (m :: members) =
      quote m.1 ++ ':' :: (m.2.chars ++ moreMembers members) := by
  induction members generalizing m with
  | nil => simp [Value.membersChars, moreMembers]
  | cons n members ih =>
    have hcons : Value.membersChars (m :: n :: members) =
        quote m.1 ++ ':' :: (m.2.chars ++ ',' :: Value.membersChars (n :: members)) := rfl
    rw [hcons, ih n]
    simp only [moreMembers, List.flatMap_cons, List.cons_append, List.append_assoc]

/-- The text of a value starts as values do. -/
theorem exists_encode_chars {v : Value} (h : v.Numbers Number.Integral) :
    ∃ b bytes, encode v.chars = b :: bytes ∧ StartsValue b := by
  cases v with
  | null => exact ⟨_, _, rfl, by decide⟩
  | bool b => cases b <;> exact ⟨_, _, rfl, by decide⟩
  | number n =>
    cases n with
    | int i =>
      have hend : EndsNumber [] := fun b hb => absurd hb (by simp)
      obtain ⟨b, bytes, heq, hfirst, -⟩ := scalar_intChars h hend
      exact ⟨b, bytes, heq, (startsValue_of_digit hfirst).1⟩
    | double x => exact absurd h id
  | string s => exact ⟨_, _, rfl, by decide⟩
  | array items => exact ⟨_, _, rfl, by decide⟩
  | object members => exact ⟨_, _, rfl, by decide⟩

theorem encode_quote (s : String) :
    encode (quote s) = byte '"' :: (encode (s.toList.flatMap escapeChar) ++ [byte '"']) := by
  rw [quote, encode_append]
  rfl

theorem endsNumber_cons {b : UInt8} (h : isDigit b = false ∧ b ≠ byte '.' ∧
    isExponentMark b = false) (rest : Bytes) : EndsNumber (b :: rest) := by
  intro c hc
  obtain rfl : b = c := Option.some.inj hc
  exact h

section Loops

variable {item : Bytes → Except Fault (Value × Bytes)} {fuel : Nat} {b : UInt8}
  {bytes middle rest : Bytes} {v : Value} {vs : List Value} {k : String}
  {ms : List (String × Value)}

/-- The first item of an array. -/
theorem itemsWith_first (hstart : StartsValue b) (hitem : item (b :: bytes) = .ok (v, middle))
    (hmore : itemsWith item fuel false middle = .ok (vs, rest)) :
    itemsWith item (fuel + 1) true (b :: bytes) = .ok (v :: vs, rest) := by
  rw [itemsWith, skipBlank_of_starts hstart]
  dsimp only
  rw [if_neg hstart.2.1, if_pos rfl, hitem]
  simp only [bind, Except.bind, hmore]

/-- An item after a comma. -/
theorem itemsWith_next (hstart : StartsValue b) (hitem : item (b :: bytes) = .ok (v, middle))
    (hmore : itemsWith item fuel false middle = .ok (vs, rest)) :
    itemsWith item (fuel + 1) false (byte ',' :: b :: bytes) = .ok (v :: vs, rest) := by
  have hcomma : skipBlank (byte ',' :: b :: bytes) = byte ',' :: b :: bytes := rfl
  rw [itemsWith, hcomma]
  dsimp only
  rw [if_neg (by decide), if_neg (by decide), if_pos rfl, skipBlank_of_starts hstart]
  dsimp only
  rw [if_neg hstart.2.1, hitem]
  simp only [bind, Except.bind, hmore]

/-- A member: its key, a colon and its value. -/
theorem member_quoted (hitem : item bytes = .ok (v, rest)) :
    member item (byte '"') (encode (k.toList.flatMap escapeChar) ++
      byte '"' :: byte ':' :: bytes) = .ok ((k, v), rest) := by
  have hcolon : skipBlank (byte ':' :: bytes) = byte ':' :: bytes := rfl
  rw [member, if_pos rfl, string_quoted]
  simp only [bind, Except.bind, hcolon, if_true, hitem]

/-- The first member of an object. -/
theorem membersWith_first (hmember : member item (byte '"') bytes = .ok ((k, v), middle))
    (hmore : membersWith item fuel false middle = .ok (ms, rest)) :
    membersWith item (fuel + 1) true (byte '"' :: bytes) = .ok ((k, v) :: ms, rest) := by
  have hquote : skipBlank (byte '"' :: bytes) = byte '"' :: bytes := rfl
  rw [membersWith, hquote]
  dsimp only
  rw [if_neg (by decide), if_pos rfl, hmember]
  simp only [bind, Except.bind, hmore]

/-- A member after a comma. -/
theorem membersWith_next (hmember : member item (byte '"') bytes = .ok ((k, v), middle))
    (hmore : membersWith item fuel false middle = .ok (ms, rest)) :
    membersWith item (fuel + 1) false (byte ',' :: byte '"' :: bytes) =
      .ok ((k, v) :: ms, rest) := by
  have hcomma : skipBlank (byte ',' :: byte '"' :: bytes) = byte ',' :: byte '"' :: bytes := rfl
  have hquote : skipBlank (byte '"' :: bytes) = byte '"' :: bytes := rfl
  rw [membersWith, hcomma]
  dsimp only
  rw [if_neg (by decide), if_neg (by decide), if_pos rfl, hquote]
  dsimp only
  rw [if_neg (by decide), hmember]
  simp only [bind, Except.bind, hmore]

end Loops

/-- What follows an item ends a number: a comma or the bracket. -/
theorem endsNumber_moreItems (items : List Value) (rest : Bytes) :
    EndsNumber (encode (moreItems items) ++ byte ']' :: rest) := by
  cases items with
  | nil => exact endsNumber_cons (by decide) rest
  | cons v items => exact endsNumber_cons (by decide) _

/-- What follows a member ends a number: a comma or the brace. -/
theorem endsNumber_moreMembers (members : List (String × Value)) (rest : Bytes) :
    EndsNumber (encode (moreMembers members) ++ byte '\x7d' :: rest) := by
  cases members with
  | nil => exact endsNumber_cons (by decide) rest
  | cons m members => exact endsNumber_cons (by decide) _

theorem encode_moreItems_cons (v : Value) (items : List Value) :
    encode (moreItems (v :: items)) = byte ',' :: (encode v.chars ++ encode (moreItems items)) := by
  rw [moreItems, List.flatMap_cons, encode_append]
  rfl

theorem encode_moreMembers_cons (k : String) (v : Value) (members : List (String × Value)) :
    encode (moreMembers ((k, v) :: members)) =
      byte ',' :: byte '"' :: (encode (k.toList.flatMap escapeChar) ++
        byte '"' :: byte ':' :: (encode v.chars ++ encode (moreMembers members))) := by
  rw [moreMembers, List.flatMap_cons, encode_append, encode_cons, encode_append, encode_quote]
  simp only [List.cons_append, List.append_assoc, encode_cons]
  rfl

/-! ### Values of each kind -/

section Kinds

variable {depth fuel : Nat} {rest : Bytes}

theorem value_int_chars {i : Int} (hnumbers : (Value.number (.int i)).Numbers Number.Integral)
    (depth : Nat) (hrest : EndsNumber rest) :
    value depth (encode (Value.number (.int i)).chars ++ rest) =
      .ok (.number (.int i), rest) := by
  obtain ⟨b, bytes, hbytes, hfirst, hread⟩ := scalar_intChars hnumbers hrest
  obtain ⟨hstart, harray, hobject⟩ := startsValue_of_digit hfirst
  have hchars : encode (Value.number (.int i)).chars = b :: bytes := hbytes
  rw [hchars]
  exact (value_eq_scalar hstart harray hobject depth _).trans hread

theorem value_string_chars (s : String) (depth : Nat) (rest : Bytes) :
    value depth (encode (Value.string s).chars ++ rest) = .ok (.string s, rest) := by
  have hchars : encode (Value.string s).chars ++ rest =
      byte '"' :: (encode (s.toList.flatMap escapeChar) ++ byte '"' :: rest) := by
    rw [Value.chars, encode_quote, List.cons_append, List.append_assoc]
    rfl
  have hscalar : scalar (byte '"')
      (encode (s.toList.flatMap escapeChar) ++ byte '"' :: rest) = .ok (.string s, rest) := by
    unfold scalar
    rw [if_neg (by decide), if_neg (by decide), if_neg (by decide), if_neg (by decide),
      if_neg (by decide), if_pos rfl, string_quoted]
    rfl
  rw [hchars]
  exact (value_eq_scalar (by decide) (by decide) (by decide) depth _).trans hscalar

/-- An array is read if its items are. -/
theorem value_array_chars {items : List Value}
    (hitems : itemsWith (value depth)
      ((encode (Value.itemsChars items) ++ byte ']' :: rest).length + 1) true
      (encode (Value.itemsChars items) ++ byte ']' :: rest) =
        .ok (Value.itemsNormal items, rest)) :
    value (depth + 1) (encode (Value.array items).chars ++ rest) =
      .ok ((Value.array items).normal, rest) := by
  have hchars : encode (Value.array items).chars ++ rest =
      byte '[' :: (encode (Value.itemsChars items) ++ byte ']' :: rest) := by
    rw [Value.chars, encode_cons, encode_append, List.append_assoc, List.append_assoc]
    rfl
  have hopen (bytes : Bytes) : value (depth + 1) (byte '[' :: bytes) =
      array (value depth) bytes := rfl
  rw [hchars, hopen, array, hitems]
  rfl

/-- An object is read if its members are. -/
theorem value_object_chars {members : List (String × Value)}
    (hmembers : membersWith (value depth)
      ((encode (Value.membersChars members) ++ byte '\x7d' :: rest).length + 1) true
      (encode (Value.membersChars members) ++ byte '\x7d' :: rest) =
        .ok (Value.membersNormal members, rest)) :
    value (depth + 1) (encode (Value.object members).chars ++ rest) =
      .ok ((Value.object members).normal, rest) := by
  have hchars : encode (Value.object members).chars ++ rest =
      byte '\x7b' :: (encode (Value.membersChars members) ++ byte '\x7d' :: rest) := by
    rw [Value.chars, encode_cons, encode_append, List.append_assoc, List.append_assoc]
    rfl
  have hopen (bytes : Bytes) : value (depth + 1) (byte '\x7b' :: bytes) =
      object (value depth) bytes := rfl
  rw [hchars, hopen, object, hmembers]
  rfl

/-- Items are read if the first one is, and those behind it are. -/
theorem items_chars {v : Value} {items : List Value} (hv : v.Numbers Number.Integral)
    (hread : value depth (encode v.chars ++ (encode (moreItems items) ++ byte ']' :: rest)) =
      .ok (v.normal, encode (moreItems items) ++ byte ']' :: rest))
    (hmore : itemsWith (value depth) fuel false (encode (moreItems items) ++ byte ']' :: rest) =
      .ok (Value.itemsNormal items, rest)) :
    itemsWith (value depth) (fuel + 1) true
      (encode (Value.itemsChars (v :: items)) ++ byte ']' :: rest) =
        .ok (Value.itemsNormal (v :: items), rest) := by
  obtain ⟨b, bytes, hbytes, hstart⟩ := exists_encode_chars hv
  rw [itemsChars_cons, encode_append, List.append_assoc, hbytes, List.cons_append]
  rw [hbytes, List.cons_append] at hread
  exact itemsWith_first hstart hread hmore

/-- Members are read if the value of the first one is, and those behind it are. -/
theorem members_chars {m : String × Value} {members : List (String × Value)}
    (hread : value depth (encode m.2.chars ++
        (encode (moreMembers members) ++ byte '\x7d' :: rest)) =
      .ok (m.2.normal, encode (moreMembers members) ++ byte '\x7d' :: rest))
    (hmore : membersWith (value depth) fuel false
      (encode (moreMembers members) ++ byte '\x7d' :: rest) =
        .ok (Value.membersNormal members, rest)) :
    membersWith (value depth) (fuel + 1) true
      (encode (Value.membersChars (m :: members)) ++ byte '\x7d' :: rest) =
        .ok (Value.membersNormal (m :: members), rest) := by
  have hbytes : encode (Value.membersChars (m :: members)) ++ byte '\x7d' :: rest =
      byte '"' :: (encode (m.1.toList.flatMap escapeChar) ++ byte '"' :: byte ':' ::
        (encode m.2.chars ++ (encode (moreMembers members) ++ byte '\x7d' :: rest))) := by
    rw [membersChars_cons, encode_append, encode_quote]
    simp only [encode_cons, encode_append, List.cons_append, List.append_assoc]
    rfl
  rw [hbytes]
  exact membersWith_first (member_quoted hread) hmore

end Kinds

mutual

/-- A value is read from its text, in normal form, in front of anything that ends a number. -/
theorem value_chars (v : Value) (depth : Nat) (rest : Bytes) (hnumbers : v.Numbers Number.Integral)
    (hdepth : v.depth ≤ depth) (hrest : EndsNumber rest) :
    value depth (encode v.chars ++ rest) = .ok (v.normal, rest) := by
  cases v with
  | null =>
    rw [show encode Value.null.chars ++ rest =
      byte 'n' :: byte 'u' :: byte 'l' :: byte 'l' :: rest from rfl]
    exact value_eq_scalar (by decide) (by decide) (by decide) depth _
  | bool b =>
    cases b with
    | true =>
      exact value_eq_scalar (b := byte 't') (by decide) (by decide) (by decide) depth _
    | false =>
      exact value_eq_scalar (b := byte 'f') (by decide) (by decide) (by decide) depth _
  | number n =>
    cases n with
    | int i => exact value_int_chars hnumbers depth hrest
    | double x => exact absurd hnumbers id
  | string s => exact value_string_chars s depth rest
  | array items =>
    cases depth with
    | zero => exact absurd hdepth (Nat.not_succ_le_zero _)
    | succ depth =>
      refine value_array_chars ?_
      cases items with
      | nil => rfl
      | cons v items =>
        obtain ⟨hv, hmore⟩ := hnumbers
        have hdepths := Nat.max_le.1 (Nat.le_of_succ_le_succ hdepth)
        have hread := value_chars v depth _ hv hdepths.1 (endsNumber_moreItems items rest)
        refine items_chars hv hread (moreItems_chars items depth _ rest hmore hdepths.2 ?_)
        rw [itemsChars_cons]
        simp only [encode_append, List.length_append, List.length_cons]
        omega
  | object members =>
    cases depth with
    | zero => exact absurd hdepth (Nat.not_succ_le_zero _)
    | succ depth =>
      refine value_object_chars ?_
      cases members with
      | nil => rfl
      | cons m members =>
        obtain ⟨hv, hmore⟩ := hnumbers
        have hdepths := Nat.max_le.1 (Nat.le_of_succ_le_succ hdepth)
        have hread := value_chars m.2 depth _ hv hdepths.1 (endsNumber_moreMembers members rest)
        refine members_chars hread (moreMembers_chars members depth _ rest hmore hdepths.2 ?_)
        rw [membersChars_cons]
        simp only [encode_append, encode_cons, List.length_append, List.length_cons]
        omega

/-- The items after the first are read up to the bracket. -/
theorem moreItems_chars (items : List Value) (depth fuel : Nat) (rest : Bytes)
    (hnumbers : Value.ItemsNumbers Number.Integral items)
    (hdepth : Value.itemsDepth items ≤ depth) (hfuel : (encode (moreItems items)).length < fuel) :
    itemsWith (value depth) fuel false (encode (moreItems items) ++ byte ']' :: rest) =
      .ok (Value.itemsNormal items, rest) := by
  cases fuel with
  | zero => exact absurd hfuel (Nat.not_lt_zero _)
  | succ fuel =>
    cases items with
    | nil => rfl
    | cons v items =>
      obtain ⟨hv, hmore⟩ := hnumbers
      have hdepths := Nat.max_le.1 hdepth
      rw [encode_moreItems_cons, List.length_cons, List.length_append] at hfuel
      have hread := value_chars v depth _ hv hdepths.1 (endsNumber_moreItems items rest)
      have htail := moreItems_chars items depth fuel rest hmore hdepths.2 (by omega)
      obtain ⟨b, bytes, hbytes, hstart⟩ := exists_encode_chars hv
      rw [encode_moreItems_cons, List.cons_append, List.append_assoc, hbytes, List.cons_append]
      rw [hbytes, List.cons_append] at hread
      exact itemsWith_next hstart hread htail

/-- The members after the first are read up to the brace. -/
theorem moreMembers_chars (members : List (String × Value)) (depth fuel : Nat) (rest : Bytes)
    (hnumbers : Value.MembersNumbers Number.Integral members)
    (hdepth : Value.membersDepth members ≤ depth)
    (hfuel : (encode (moreMembers members)).length < fuel) :
    membersWith (value depth) fuel false (encode (moreMembers members) ++ byte '\x7d' :: rest) =
      .ok (Value.membersNormal members, rest) := by
  cases fuel with
  | zero => exact absurd hfuel (Nat.not_lt_zero _)
  | succ fuel =>
    cases members with
    | nil => rfl
    | cons m members =>
      obtain ⟨hv, hmore⟩ := hnumbers
      have hdepths := Nat.max_le.1 hdepth
      rw [encode_moreMembers_cons] at hfuel
      simp only [List.length_cons, List.length_append] at hfuel
      have hread := value_chars m.2 depth _ hv hdepths.1 (endsNumber_moreMembers members rest)
      have htail := moreMembers_chars members depth fuel rest hmore hdepths.2 (by omega)
      rw [encode_moreMembers_cons]
      simp only [List.cons_append, List.append_assoc]
      exact membersWith_next (member_quoted hread) htail

end

end Reader

/-- The text of a value reads as the value in normal form. -/
theorem Value.parse_text (v : Value) (hnumbers : v.Numbers Number.Integral)
    (hdepth : v.depth ≤ Reader.maxDepth) :
    Value.parse (Utf8.ofString v.text) = .ok v.normal := by
  have hend : Reader.EndsNumber [] := fun b hb => nomatch hb
  have hread := Reader.value_chars v Reader.maxDepth [] hnumbers hdepth hend
  have hbytes : Utf8.ofString v.text = encode v.chars ++ [] := by
    rw [Utf8.ofString, Value.text, String.toList_ofList, List.append_nil]
  have hdocument : Reader.document (Utf8.ofString v.text) = .ok v.normal := by
    rw [Reader.document, hbytes, hread]
    rfl
  rw [Value.parse, hdocument]

/-! ## Normal form -/

theorem Value.membersNormal_keys (members : List (String × Value)) :
    (Value.membersNormal members).map Prod.fst = members.map Prod.fst := by
  induction members with
  | nil => rfl
  | cons m members ih => exact congrArg (m.1 :: ·) ih

theorem Value.find?_membersNormal (name : String) (members : List (String × Value)) :
    Members.find? name (Value.membersNormal members) =
      (Members.find? name members).map Value.normal := by
  induction members with
  | nil => rfl
  | cons m members ih =>
    obtain ⟨k, v⟩ := m
    rw [Value.membersNormal, Members.find?, Members.find?, ih]
    split <;> rfl

mutual

/-- A canonical value is in normal form. -/
theorem Value.normal_of_canonical (v : Value) (h : v.Canonical) : v.normal = v := by
  cases v with
  | array items => exact congrArg Value.array (Value.itemsNormal_of_canonical items h)
  | object members =>
    obtain ⟨hsorted, hmembers⟩ := h
    rw [Value.normal, Value.membersNormal_of_canonical members hmembers,
      Members.ofPairs_of_sorted hsorted]
  | _ => rfl

theorem Value.itemsNormal_of_canonical (items : List Value) (h : Value.ItemsCanonical items) :
    Value.itemsNormal items = items := by
  cases items with
  | nil => rfl
  | cons v items =>
    rw [Value.itemsNormal, Value.normal_of_canonical v h.1,
      Value.itemsNormal_of_canonical items h.2]

theorem Value.membersNormal_of_canonical (members : List (String × Value))
    (h : Value.MembersCanonical members) : Value.membersNormal members = members := by
  cases members with
  | nil => rfl
  | cons m members =>
    rw [Value.membersNormal, Value.normal_of_canonical m.2 h.1,
      Value.membersNormal_of_canonical members h.2]

end

end LiveQuery.Json
