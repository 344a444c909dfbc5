import LiveQuery.Proofs.ValueText

/-!
# What the reader yields

Every value that is read from a text is in canonical form, nests no deeper than the reader allows,
and holds no integer beyond 64 bits (`Value.wellRead_of_parse`). The induction is on the depth
that is left: the loops over items and members pass on what holds of every single item
(`Reader.mem_itemsWith`, `Reader.mem_membersWith`).
-/

namespace LiveQuery.Json

/-- An integer of a number is one of 64 bits. -/
def Number.Fits : Number → Prop
  | .int i => -2 ^ 63 ≤ i ∧ i < 2 ^ 64
  | .double _ => True

/-- The number is no double. -/
def Number.IsInt : Number → Prop
  | .int _ => True
  | .double _ => False

theorem Number.integral_iff {n : Number} : n.Integral ↔ n.Fits ∧ n.IsInt := by
  cases n with
  | int i => exact (and_true _).symm.to_iff
  | double x => exact (true_and _).symm.to_iff

namespace Value

variable {p q : Number → Prop}

theorem itemsNumbers_iff {items : List Value} :
    ItemsNumbers p items ↔ ∀ v ∈ items, v.Numbers p := by
  induction items with
  | nil => exact iff_of_true trivial (fun v hv => absurd hv List.not_mem_nil)
  | cons v items ih => rw [ItemsNumbers, ih, List.forall_mem_cons]

theorem membersNumbers_iff {members : List (String × Value)} :
    MembersNumbers p members ↔ ∀ m ∈ members, m.2.Numbers p := by
  induction members with
  | nil => exact iff_of_true trivial (fun v hv => absurd hv List.not_mem_nil)
  | cons m members ih => rw [MembersNumbers, ih, List.forall_mem_cons]

mutual

/-- Two properties of the numbers in a value are one. -/
theorem numbers_and (v : Value) (hp : v.Numbers p) (hq : v.Numbers q) :
    v.Numbers fun n => p n ∧ q n := by
  cases v with
  | number n => exact ⟨hp, hq⟩
  | array items => exact itemsNumbers_and items hp hq
  | object members => exact membersNumbers_and members hp hq
  | _ => trivial

theorem itemsNumbers_and (items : List Value) (hp : ItemsNumbers p items)
    (hq : ItemsNumbers q items) : ItemsNumbers (fun n => p n ∧ q n) items := by
  cases items with
  | nil => trivial
  | cons v items => exact ⟨numbers_and v hp.1 hq.1, itemsNumbers_and items hp.2 hq.2⟩

theorem membersNumbers_and (members : List (String × Value)) (hp : MembersNumbers p members)
    (hq : MembersNumbers q members) : MembersNumbers (fun n => p n ∧ q n) members := by
  cases members with
  | nil => trivial
  | cons m members => exact ⟨numbers_and m.2 hp.1 hq.1, membersNumbers_and members hp.2 hq.2⟩

end

/-- A value that nests no deeper than a bound and whose numbers satisfy a predicate. -/
structure Bounded (p : Number → Prop) (n : Nat) (v : Value) : Prop where
  depth : v.depth ≤ n
  numbers : v.Numbers p

/-- A value as it is read: bounded, and every object in it has its keys in order. -/
structure WellRead (p : Number → Prop) (n : Nat) (v : Value) : Prop extends Bounded p n v where
  canonical : v.Canonical

variable {n : Nat}

theorem bounded_array_iff {items : List Value} :
    (Value.array items).Bounded p (n + 1) ↔ ∀ v ∈ items, v.Bounded p n := by
  constructor
  · intro h v hv
    exact ⟨itemsDepth_le_iff.1 (Nat.le_of_succ_le_succ h.depth) v hv,
      itemsNumbers_iff.1 h.numbers v hv⟩
  · intro h
    exact ⟨Nat.succ_le_succ (itemsDepth_le_iff.2 fun v hv => (h v hv).depth),
      itemsNumbers_iff.2 fun v hv => (h v hv).numbers⟩

theorem bounded_object_iff {members : List (String × Value)} :
    (Value.object members).Bounded p (n + 1) ↔ ∀ m ∈ members, m.2.Bounded p n := by
  constructor
  · intro h m hm
    exact ⟨membersDepth_le_iff.1 (Nat.le_of_succ_le_succ h.depth) m hm,
      membersNumbers_iff.1 h.numbers m hm⟩
  · intro h
    exact ⟨Nat.succ_le_succ (membersDepth_le_iff.2 fun m hm => (h m hm).depth),
      membersNumbers_iff.2 fun m hm => (h m hm).numbers⟩

/-- The items of an array nest one less deep. -/
theorem WellRead.of_array {items : List Value} (h : (Value.array items).WellRead p n) :
    ∃ k, n = k + 1 ∧ ∀ v ∈ items, v.WellRead p k := by
  cases n with
  | zero => exact absurd h.depth (Nat.not_succ_le_zero _)
  | succ k =>
    exact ⟨k, rfl, fun v hv => ⟨bounded_array_iff.1 h.toBounded v hv,
      itemsCanonical_iff.1 h.canonical v hv⟩⟩

/-- The members of an object nest one less deep. -/
theorem WellRead.of_object {members : List (String × Value)}
    (h : (Value.object members).WellRead p n) :
    ∃ k, n = k + 1 ∧ ∀ m ∈ members, m.2.WellRead p k := by
  cases n with
  | zero => exact absurd h.depth (Nat.not_succ_le_zero _)
  | succ k =>
    exact ⟨k, rfl, fun m hm => ⟨bounded_object_iff.1 h.toBounded m hm,
      membersCanonical_iff.1 h.canonical.2 m hm⟩⟩

end Value

namespace Reader

/-- What a reader hands back if it reads anything. -/
def Yields (P : Value → Prop) (result : Except Fault (Value × Bytes)) : Prop :=
  ∀ v rest, result = .ok (v, rest) → P v

theorem yields_ok {P : Value → Prop} {v : Value} (h : P v) (rest : Bytes) :
    Yields P (.ok (v, rest)) := by
  intro w more heq
  cases heq
  exact h

theorem yields_error {P : Value → Prop} (fault : Fault) : Yields P (.error fault) :=
  fun _ _ heq => nomatch heq

/-! ## Scalars -/

/-- A number that fits its kind. -/
def IsNumber (v : Value) : Prop := ∃ n : Number, v = .number n ∧ n.Fits

theorem isNumber_double (x : Double) : IsNumber (.number (.double x)) := ⟨_, rfl, trivial⟩

theorem yields_decimal (negative : Bool) (whole fraction : Bytes) (power : Int) (rest : Bytes) :
    Yields IsNumber (decimal negative whole fraction power rest) := by
  unfold decimal
  dsimp only
  split
  · exact yields_ok (isNumber_double _) rest
  · exact yields_error _

theorem yields_integer (negative : Bool) (digits rest : Bytes) :
    Yields IsNumber (integer negative digits rest) := by
  have hbound : intBound = 2 ^ 64 := rfl
  unfold integer
  dsimp only
  split
  · rename_i hsmall
    simp only [Bool.and_eq_true, decide_eq_true_eq, hbound] at hsmall
    exact yields_ok ⟨_, rfl, by omega, by omega⟩ rest
  split
  · rename_i hsmall
    simp only [Bool.and_eq_true, decide_eq_true_eq, hbound] at hsmall
    exact yields_ok ⟨_, rfl, by omega, by omega⟩ rest
  · exact yields_decimal _ _ _ _ _

theorem yields_exponentDigits (negative : Bool) (whole fraction : Bytes) (up : Bool) (power : Nat)
    (bytes : Bytes) :
    Yields IsNumber (exponentDigits negative whole fraction up power bytes) := by
  induction bytes generalizing power with
  | nil => exact yields_decimal _ _ _ _ _
  | cons b rest ih =>
    rw [exponentDigits]
    split
    · dsimp only
      split
      · split
        · exact yields_error _
        · exact yields_ok (isNumber_double _) _
      · exact ih _
    · exact yields_decimal _ _ _ _ _

theorem yields_exponent (negative : Bool) (whole fraction bytes : Bytes) :
    Yields IsNumber (exponent negative whole fraction bytes) := by
  have hstart (up : Bool) (bytes : Bytes) :
      Yields IsNumber (exponentStart negative whole fraction up bytes) := by
    cases bytes with
    | nil => exact yields_error _
    | cons b rest =>
      rw [exponentStart]
      split
      · exact yields_exponentDigits _ _ _ _ _ _
      · exact yields_error _
  cases bytes with
  | nil => exact hstart true []
  | cons b rest =>
    rw [exponent]
    split
    · exact hstart _ _
    split
    · exact hstart _ _
    · exact hstart _ _

theorem yields_afterWhole (negative : Bool) (whole bytes : Bytes) :
    Yields IsNumber (afterWhole negative whole bytes) := by
  cases bytes with
  | nil => exact yields_integer _ _ _
  | cons b rest =>
    rw [afterWhole]
    split
    · unfold fraction
      dsimp only
      split
      · exact yields_error _
      · exact yields_error _
      · exact yields_decimal _ _ _ _ _
      · split
        · exact yields_exponent _ _ _ _
        · exact yields_decimal _ _ _ _ _
    split
    · exact yields_exponent _ _ _ _
    · exact yields_integer _ _ _

theorem yields_number (negative : Bool) (bytes : Bytes) :
    Yields IsNumber (number negative bytes) := by
  unfold number
  split
  · exact yields_error _
  split
  · split
    · split
      · exact yields_error _
      · exact yields_afterWhole _ _ _
    · exact yields_afterWhole _ _ _
  split
  · exact yields_afterWhole _ _ _
  · exact yields_error _

theorem yields_literal {P : Value → Prop} (word : Bytes) {v : Value} (h : P v) (bytes : Bytes) :
    Yields P (literal word v bytes) := by
  induction word generalizing bytes with
  | nil => exact yields_ok h bytes
  | cons w word ih =>
    cases bytes with
    | nil => exact yields_error _
    | cons b bytes =>
      rw [literal]
      split
      · exact ih bytes
      · exact yields_error _

/-- A scalar nests nothing. -/
theorem yields_scalar (n : Nat) (b : UInt8) (rest : Bytes) :
    Yields (Value.WellRead Number.Fits n) (scalar b rest) := by
  have hnumber {v : Value} (h : IsNumber v) : v.WellRead Number.Fits n := by
    obtain ⟨number, rfl, hfits⟩ := h
    exact ⟨⟨Nat.zero_le n, hfits⟩, trivial⟩
  unfold scalar
  split
  · exact yields_literal _ ⟨⟨Nat.zero_le n, trivial⟩, trivial⟩ _
  split
  · exact yields_literal _ ⟨⟨Nat.zero_le n, trivial⟩, trivial⟩ _
  split
  · exact yields_literal _ ⟨⟨Nat.zero_le n, trivial⟩, trivial⟩ _
  split
  · exact fun v more heq => hnumber (yields_number _ _ v more heq)
  split
  · exact fun v more heq => hnumber (yields_number _ _ v more heq)
  split
  · cases hstring : string rest with
    | error fault => exact yields_error fault
    | ok result => exact yields_ok ⟨⟨Nat.zero_le n, trivial⟩, trivial⟩ _
  · exact yields_error _

/-! ## Arrays and objects -/

variable {P : Value → Prop} {item : Bytes → Except Fault (Value × Bytes)}

/-- What holds of every item that is read holds of the items of an array. -/
theorem mem_itemsWith (hitem : ∀ bytes, Yields P (item bytes)) {fuel : Nat} {first : Bool}
    {bytes rest : Bytes} {vs : List Value} (h : itemsWith item fuel first bytes = .ok (vs, rest)) :
    ∀ v ∈ vs, P v := by
  induction fuel generalizing first bytes vs with
  | zero => cases h
  | succ fuel ih =>
    -- one item and then the others
    have hmore {bytes : Bytes} (hread : (item bytes).bind (fun result =>
        (itemsWith item fuel false result.2).bind fun results =>
          .ok (result.1 :: results.1, results.2)) = .ok (vs, rest)) : ∀ v ∈ vs, P v := by
      cases hv : item bytes with
      | error fault => rw [hv] at hread; cases hread
      | ok result =>
        cases hvs : itemsWith item fuel false result.2 with
        | error fault =>
          rw [hv] at hread
          simp only [Except.bind, hvs] at hread
          cases hread
        | ok results =>
          rw [hv] at hread
          simp only [Except.bind, hvs] at hread
          cases hread
          exact List.forall_mem_cons.2 ⟨hitem bytes _ _ hv, ih hvs⟩
    rw [itemsWith] at h
    split at h
    · cases h
    split at h
    · cases h
      exact fun v hv => absurd hv List.not_mem_nil
    split at h
    · exact hmore h
    split at h
    · split at h
      · cases h
      split at h
      · cases h
      · exact hmore h
    · cases h

/-- What holds of every item that is read holds of the member values of an object. -/
theorem mem_membersWith (hitem : ∀ bytes, Yields P (item bytes)) {fuel : Nat} {first : Bool}
    {bytes rest : Bytes} {ms : List (String × Value)}
    (h : membersWith item fuel first bytes = .ok (ms, rest)) : ∀ m ∈ ms, P m.2 := by
  have hmember {b : UInt8} {bytes : Bytes} {result : (String × Value) × Bytes}
      (hread : member item b bytes = .ok result) : P result.1.2 := by
    unfold member at hread
    split at hread
    · cases hkey : string bytes with
      | error fault => rw [hkey] at hread; cases hread
      | ok key =>
        rw [hkey] at hread
        simp only [bind, Except.bind] at hread
        split at hread
        · cases hread
        split at hread
        · split at hread
          · cases hread
          · rename_i hv
            cases hread
            exact hitem _ _ _ hv
        · cases hread
    · cases hread
  induction fuel generalizing first bytes ms with
  | zero => cases h
  | succ fuel ih =>
    have hmore {b : UInt8} {bytes : Bytes} (hread : (member item b bytes).bind (fun result =>
        (membersWith item fuel false result.2).bind fun results =>
          .ok (result.1 :: results.1, results.2)) = .ok (ms, rest)) : ∀ m ∈ ms, P m.2 := by
      cases hm : member item b bytes with
      | error fault => rw [hm] at hread; cases hread
      | ok result =>
        cases hms : membersWith item fuel false result.2 with
        | error fault =>
          rw [hm] at hread
          simp only [Except.bind, hms] at hread
          cases hread
        | ok results =>
          rw [hm] at hread
          simp only [Except.bind, hms] at hread
          cases hread
          exact List.forall_mem_cons.2 ⟨hmember hm, ih hms⟩
    rw [membersWith] at h
    split at h
    · cases h
    split at h
    · cases h
      exact fun m hm => absurd hm List.not_mem_nil
    split at h
    · exact hmore h
    split at h
    · split at h
      · cases h
      split at h
      · cases h
      · exact hmore h
    · cases h

/-- The depth that is left bounds what is read. -/
theorem yields_value (n : Nat) (bytes : Bytes) :
    Yields (Value.WellRead Number.Fits n) (value n bytes) := by
  induction n generalizing bytes with
  | zero =>
    rw [value]
    split
    · exact yields_error _
    split
    · exact yields_error _
    · exact yields_scalar 0 _ _
  | succ n ih =>
    rw [value]
    split
    · exact yields_error _
    split
    · unfold array
      intro v rest heq
      cases hitems : itemsWith (value n) (_ + 1) true _ with
      | error fault => rw [hitems] at heq; cases heq
      | ok result =>
        rw [hitems] at heq
        cases heq
        have hall := mem_itemsWith ih hitems
        exact ⟨Value.bounded_array_iff.2 fun w hw => (hall w hw).toBounded,
          Value.itemsCanonical_iff.2 fun w hw => (hall w hw).canonical⟩
    split
    · unfold object
      intro v rest heq
      cases hmembers : membersWith (value n) (_ + 1) true _ with
      | error fault => rw [hmembers] at heq; cases heq
      | ok result =>
        rw [hmembers] at heq
        cases heq
        have hall := mem_membersWith ih hmembers
        exact ⟨Value.bounded_object_iff.2 fun m hm => (hall m (Members.mem_ofPairs hm)).toBounded,
          Members.sorted_ofPairs _,
          Value.membersCanonical_iff.2 fun m hm => (hall m (Members.mem_ofPairs hm)).canonical⟩
    · exact yields_scalar (n + 1) _ _

end Reader

/-- Whatever text is read, the value is canonical, bounded in depth, and its integers fit. -/
theorem Value.wellRead_of_parse {text : Bytes} {v : Value} (h : Value.parse text = .ok v) :
    v.WellRead Number.Fits Reader.maxDepth := by
  unfold Value.parse Reader.document at h
  cases hvalue : Reader.value Reader.maxDepth text with
  | error fault =>
    rw [hvalue] at h
    cases h
  | ok result =>
    have hresult := Reader.yields_value _ _ _ _ hvalue
    rw [hvalue] at h
    simp only [bind, Except.bind] at h
    cases hskip : Reader.skipBlank result.2 with
    | nil =>
      rw [hskip] at h
      cases h
      exact hresult
    | cons b rest =>
      rw [hskip] at h
      cases h

end LiveQuery.Json
