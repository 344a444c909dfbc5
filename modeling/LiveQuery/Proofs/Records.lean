import LiveQuery.Message.Payload
import LiveQuery.Proofs.ValueShape

/-!
# Records there and back

The records that messages carry, written as values and read again. The loose parts of a record
(variables, data, extensions) are maps, so their members stand in key order (`LooseCanonical`);
the fields of the record itself are written in an order of their own, and after the normal form
of the value every field is found under its name (`field_readBack`, `optionalField_readBack`). So
each record is read back from what it was written as (`GraphQLError.ofValue_toValue` and its like).

The other way, a record may have been read by name or by place. Either form takes one level of
nesting, so what is read nests no deeper when it is written by name again (`Reads`).
-/

namespace LiveQuery

open Json (Value Members ShapeError Surplus)

/-! ## Canonical parts -/

/-- The members of a loose part stand in key order, and so do all below them. -/
def LooseCanonical (part : Option Members) : Prop := ∀ ms ∈ part, (Value.object ms).Canonical

/-- The loose parts of an operation are canonical. -/
structure Operation.Canonical (o : Operation) : Prop where
  bindings : LooseCanonical o.bindings
  extensions : LooseCanonical o.extensions

/-- The loose part of a server's error is canonical. -/
def GraphQLError.Canonical (e : GraphQLError) : Prop := LooseCanonical e.extensions

/-- The loose parts of a result are canonical. -/
structure ExecutionResult.Canonical (r : ExecutionResult) : Prop where
  data : r.data.Canonical
  errors : ∀ es ∈ r.errors, ∀ e ∈ es, e.Canonical
  extensions : LooseCanonical r.extensions

/-! ## Fields of a record that was written -/

section Fields

variable {α β : Type} {record : List (String × Value)} {name : String}
  {part : Value → Except ShapeError α}

theorem Json.Members.find?_append (name : String) (ms more : Members) :
    Members.find? name (ms ++ more) = (Members.find? name ms).or (Members.find? name more) := by
  induction ms with
  | nil => rfl
  | cons m ms ih =>
    obtain ⟨k, v⟩ := m
    rw [List.cons_append, Members.find?, Members.find?, ih]
    split <;> rfl

theorem find?_optionalMember (name field : String) (value : Option Value) :
    Members.find? name (optionalMember field value) = if field = name then value else none := by
  cases value with
  | none => simp [optionalMember, Members.find?]
  | some v => simp [optionalMember, Members.find?]

/-- An optional field adds at most its name. -/
theorem sublist_optionalMember (field : String) (value : Option Value) :
    ((optionalMember field value).map Prod.fst).Sublist [field] := by
  cases value with
  | none => exact List.nil_sublist _
  | some v => exact List.Sublist.refl _

/-- The members of a record as they are read back. -/
abbrev readBack (record : List (String × Value)) : Members :=
  Members.ofPairs (Value.membersNormal record)

theorem find?_readBack (hkeys : (record.map Prod.fst).Nodup) (name : String) :
    Members.find? name (readBack record) = (Members.find? name record).map Value.normal := by
  rw [Members.find?_ofPairs (by rwa [Value.membersNormal_keys]), Value.find?_membersNormal]

/-- A field that was written is read. -/
theorem field_readBack (name : String) (hkeys : (record.map Prod.fst).Nodup) {v : Value} {a : α}
    (hfind : Members.find? name record = some v) (hread : part v.normal = .ok a) :
    Members.field (readBack record) name part = .ok (some a) := by
  rw [Members.field, find?_readBack hkeys, hfind]
  simp only [Option.map_some, hread]
  rfl

/-- An optional field is read as it was written, or as absent. -/
theorem optionalField_readBack (name : String) (write : α → Value)
    (part : Value → Except ShapeError α) (field : Option α)
    (hkeys : (record.map Prod.fst).Nodup) (hfind : Members.find? name record = field.map write)
    (hread : ∀ a ∈ field, (write a).normal ≠ .null ∧ part (write a).normal = .ok a) :
    Members.optionalField (readBack record) name part = .ok field := by
  cases field with
  | none =>
    rw [Members.optionalField, Members.field, find?_readBack hkeys, hfind]
    rfl
  | some a =>
    obtain ⟨hnull, ha⟩ := hread a rfl
    have hoption : Value.asOption part (write a).normal = .ok (some a) := by
      unfold Value.asOption
      split
      · rename_i heq
        exact absurd heq hnull
      · rw [ha]
        rfl
    rw [Members.optionalField, field_readBack name hkeys hfind hoption]
    rfl

/-- A list is read item by item. -/
theorem asList_normal {write : α → Value} (items : List α)
    (hread : ∀ a ∈ items, part (write a).normal = .ok a) :
    Value.asList part (Value.array (items.map write)).normal = .ok items := by
  have hmap : Value.itemsNormal (items.map write) = items.map fun a => (write a).normal := by
    induction items with
    | nil => rfl
    | cons a items ih =>
      exact congrArg ((write a).normal :: ·) (ih fun b hb => hread b (List.mem_cons_of_mem a hb))
  rw [Value.normal, hmap, Value.asList]
  induction items with
  | nil => rfl
  | cons a items ih =>
    have htail := ih (fun b hb => hread b (List.mem_cons_of_mem a hb)) (List.cons.inj hmap).2
    rw [List.map_cons, List.mapM_cons, hread a List.mem_cons_self, htail]
    rfl

end Fields

theorem LooseCanonical.read {part : Option Members} (h : LooseCanonical part) :
    ∀ ms ∈ part, (Value.object ms).normal ≠ .null ∧
      Value.asMembers (Value.object ms).normal = .ok ms := by
  intro ms hms
  rw [Value.normal_of_canonical _ (h ms hms)]
  exact ⟨Value.noConfusion, rfl⟩

/-! ## Records are read back -/

theorem asNatural_natValue (n : Nat) : Value.asNatural (natValue n).normal = .ok n := by
  have hvalue : (natValue n).normal = .number (.int n) := rfl
  rw [hvalue, Value.asNatural, if_pos (Int.natCast_nonneg n), Int.toNat_natCast]

theorem Location.ofValue_toValue (surplus : Surplus) (l : Location) :
    Location.ofValue surplus l.toValue.normal = .ok l := by
  have hkeys : ([("line", natValue l.line), ("column", natValue l.column)].map Prod.fst).Nodup :=
    (by decide : ["line", "column"].Nodup)
  have hline := field_readBack "line" hkeys rfl (asNatural_natValue l.line)
  have hcolumn := field_readBack "column" hkeys rfl (asNatural_natValue l.column)
  rw [Location.toValue, Value.normal, Location.ofValue, hline, hcolumn]
  rfl

theorem PathSegment.ofValue_toValue (s : PathSegment) :
    PathSegment.ofValue s.toValue.normal = .ok s := by
  cases s with
  | field name => rfl
  | index place =>
    have hread := asNatural_natValue place
    unfold PathSegment.ofValue
    rw [PathSegment.toValue, hread]
    rfl

/-- The members of a server's error as they are written. -/
def GraphQLError.fields (e : GraphQLError) : List (String × Value) :=
  ("message", .string e.message) ::
    (optionalMember "locations" (e.locations.map fun ls => .array (ls.map Location.toValue)) ++
      optionalMember "path" (e.path.map fun ss => .array (ss.map PathSegment.toValue)) ++
      optionalMember "extensions" (e.extensions.map Value.object))

theorem GraphQLError.nodup_fields (e : GraphQLError) : (e.fields.map Prod.fst).Nodup := by
  have hnames : ["message", "locations", "path", "extensions"].Nodup := by decide
  refine hnames.sublist ?_
  simp only [fields, List.map_cons, List.map_append]
  exact (((sublist_optionalMember _ _).append (sublist_optionalMember _ _)).append
    (sublist_optionalMember _ _)).cons_cons _

theorem GraphQLError.ofValue_toValue (surplus : Surplus) (e : GraphQLError) (h : e.Canonical) :
    GraphQLError.ofValue surplus e.toValue.normal = .ok e := by
  have hkeys := e.nodup_fields
  have hmessage := field_readBack "message" hkeys rfl
    (show Value.asString (Value.string e.message).normal = .ok e.message from rfl)
  have hlocations := optionalField_readBack "locations"
    (fun ls : List Location => .array (ls.map Location.toValue)) (locationsOfValue surplus)
    e.locations hkeys
    (by simp [fields, Members.find?, Members.find?_append, find?_optionalMember])
    fun ls _ => ⟨Value.noConfusion, asList_normal ls fun l _ => l.ofValue_toValue surplus⟩
  have hpath := optionalField_readBack "path"
    (fun ss : List PathSegment => .array (ss.map PathSegment.toValue)) pathOfValue e.path hkeys
    (by simp [fields, Members.find?, Members.find?_append, find?_optionalMember])
    fun ss _ => ⟨Value.noConfusion, asList_normal ss fun s _ => s.ofValue_toValue⟩
  have hextensions := optionalField_readBack "extensions"
    Value.object Value.asMembers e.extensions hkeys
    (by simp [fields, Members.find?, Members.find?_append, find?_optionalMember]) h.read
  have hvalue : e.toValue.normal = .object (readBack e.fields) := rfl
  rw [hvalue, GraphQLError.ofValue, hextensions, hlocations, hmessage, hpath]
  rfl

theorem errorsOfValue_errorsValue (surplus : Surplus) (errors : List GraphQLError)
    (h : ∀ e ∈ errors, e.Canonical) :
    errorsOfValue surplus (errorsValue errors).normal = .ok errors :=
  asList_normal errors fun e he => e.ofValue_toValue surplus (h e he)

/-- The members of a result as they are written. -/
def ExecutionResult.fields (r : ExecutionResult) : List (String × Value) :=
  ("data", r.data) :: (optionalMember "errors" (r.errors.map errorsValue) ++
    optionalMember "extensions" (r.extensions.map Value.object))

theorem ExecutionResult.nodup_fields (r : ExecutionResult) : (r.fields.map Prod.fst).Nodup := by
  have hnames : ["data", "errors", "extensions"].Nodup := by decide
  refine hnames.sublist ?_
  simp only [fields, List.map_cons, List.map_append]
  exact ((sublist_optionalMember _ _).append (sublist_optionalMember _ _)).cons_cons _

theorem ExecutionResult.ofValue_toValue (surplus : Surplus) (r : ExecutionResult)
    (h : r.Canonical) : ExecutionResult.ofValue surplus r.toValue.normal = .ok r := by
  have hkeys := r.nodup_fields
  have hdata : Members.find? "data" (readBack r.fields) = some r.data := by
    rw [find?_readBack hkeys]
    exact congrArg some (Value.normal_of_canonical _ h.data)
  have herrors := optionalField_readBack "errors" errorsValue (errorsOfValue surplus) r.errors hkeys
    (by simp [fields, Members.find?, Members.find?_append, find?_optionalMember])
    fun es hes => ⟨Value.noConfusion, errorsOfValue_errorsValue surplus es (h.errors es hes)⟩
  have hextensions := optionalField_readBack "extensions"
    Value.object Value.asMembers r.extensions hkeys
    (by simp [fields, Members.find?, Members.find?_append, find?_optionalMember])
    h.extensions.read
  have hvalue : r.toValue.normal = .object (readBack r.fields) := rfl
  rw [hvalue, ExecutionResult.ofValue, herrors, hextensions, hdata]
  rfl

/-- The members of an operation as they are written. -/
def Operation.fields (o : Operation) : List (String × Value) :=
  ("query", .string o.query) ::
    (optionalMember "operationName" (o.operationName.map Value.string) ++
      optionalMember "variables" (o.bindings.map Value.object) ++
      optionalMember "extensions" (o.extensions.map Value.object))

theorem Operation.nodup_fields (o : Operation) : (o.fields.map Prod.fst).Nodup := by
  have hnames : ["query", "operationName", "variables", "extensions"].Nodup := by decide
  refine hnames.sublist ?_
  simp only [fields, List.map_cons, List.map_append]
  exact (((sublist_optionalMember _ _).append (sublist_optionalMember _ _)).append
    (sublist_optionalMember _ _)).cons_cons _

theorem Operation.ofValue_toValue (surplus : Surplus) (o : Operation) (h : o.Canonical) :
    Operation.ofValue surplus o.toValue.normal = .ok o := by
  have hkeys := o.nodup_fields
  have hquery := field_readBack "query" hkeys rfl
    (show Value.asString (Value.string o.query).normal = .ok o.query from rfl)
  have hname := optionalField_readBack "operationName"
    Value.string Value.asString o.operationName hkeys
    (by simp [fields, Members.find?, Members.find?_append, find?_optionalMember])
    fun name _ => ⟨Value.noConfusion, rfl⟩
  have hbindings := optionalField_readBack "variables" Value.object Value.asMembers o.bindings hkeys
    (by simp [fields, Members.find?, Members.find?_append, find?_optionalMember])
    h.bindings.read
  have hextensions := optionalField_readBack "extensions"
    Value.object Value.asMembers o.extensions hkeys
    (by simp [fields, Members.find?, Members.find?_append, find?_optionalMember])
    h.extensions.read
  have hvalue : o.toValue.normal = .object (readBack o.fields) := rfl
  rw [hvalue, Operation.ofValue, hextensions, hname, hquery, hbindings]
  rfl

/-! ## What was read can be written again -/

/-- A chain succeeds if its first part does and the rest does with its result. -/
theorem bind_eq_ok {ε α β : Type} {x : Except ε α} {f : α → Except ε β} {b : β} :
    (x >>= f) = .ok b ↔ ∃ a, x = .ok a ∧ f a = .ok b := by
  cases x with
  | error e =>
    constructor
    · intro h
      cases h
    · rintro ⟨a, h, -⟩
      cases h
  | ok a =>
    constructor
    · intro h
      exact ⟨a, rfl, h⟩
    · rintro ⟨a', h, hf⟩
      cases h
      exact hf

/-- What holds of every result holds of all of them. -/
theorem forall_of_mapM {ε α β : Type} {f : α → Except ε β} {P : α → Prop} {Q : β → Prop}
    (hf : ∀ a b, P a → f a = .ok b → Q b) {as : List α} {bs : List β} (h : as.mapM f = .ok bs)
    (hP : ∀ a ∈ as, P a) : ∀ b ∈ bs, Q b := by
  induction as generalizing bs with
  | nil =>
    cases h
    exact fun b hb => absurd hb List.not_mem_nil
  | cons a as ih =>
    rw [List.mapM_cons] at h
    obtain ⟨b, hb, h⟩ := bind_eq_ok.1 h
    obtain ⟨rest, hrest, h⟩ := bind_eq_ok.1 h
    cases h
    obtain ⟨ha, has⟩ := List.forall_mem_cons.1 hP
    exact List.forall_mem_cons.2 ⟨hf a b ha hb, ih hrest has⟩

section Reads

variable {α : Type} {p : Json.Number → Prop} {n : Nat} {v : Value} {ms : Members}
  {items : List Value} {part : Value → Except ShapeError α} {write : α → Value} {C : α → Prop}

/-- Whatever the part reads from a value that was read, it writes as a value no larger, and the
result satisfies a condition. -/
def Reads (p : Json.Number → Prop) (part : Value → Except ShapeError α) (write : α → Value)
    (C : α → Prop) : Prop :=
  ∀ ⦃n : Nat⦄ ⦃v : Value⦄ ⦃a : α⦄, v.WellRead p n → part v = .ok a → (write a).Bounded p n ∧ C a

theorem reads_string : Reads p Value.asString Value.string fun _ => True := by
  intro n v s hv h
  cases v with
  | string t =>
    cases h
    exact ⟨hv.toBounded, trivial⟩
  | _ => cases h

theorem reads_natural : Reads p Value.asNatural natValue fun _ => True := by
  intro n v k hv h
  cases v with
  | number number =>
    cases number with
    | int i =>
      rw [Value.asNatural] at h
      split at h
      · rename_i hnonneg
        cases h
        have hback : natValue i.toNat = .number (.int i) := by
          rw [natValue, Int.toNat_of_nonneg hnonneg]
        rw [hback]
        exact ⟨hv.toBounded, trivial⟩
      · cases h
    | double x => cases h
  | _ => cases h

theorem reads_members :
    Reads p Value.asMembers Value.object fun ms => (Value.object ms).Canonical := by
  intro n v ms hv h
  cases v with
  | object members =>
    cases h
    exact ⟨hv.toBounded, hv.canonical⟩
  | _ => cases h

theorem reads_list (hpart : Reads p part write C) :
    Reads p (Value.asList part) (fun as => .array (as.map write)) fun as => ∀ a ∈ as, C a := by
  intro n v as hv h
  cases v with
  | array items =>
    obtain ⟨k, rfl, hitems⟩ := hv.of_array
    have hall := forall_of_mapM (fun v a hv ha => hpart hv ha) h hitems
    refine ⟨Value.bounded_array_iff.2 fun w hw => ?_, fun a ha => (hall a ha).2⟩
    obtain ⟨a, ha, rfl⟩ := List.mem_map.1 hw
    exact (hall a ha).1
  | _ => cases h

/-- An optional part is absent or read. -/
theorem Reads.option (hpart : Reads p part write C) {o : Option α} (hv : v.WellRead p n)
    (h : Value.asOption part v = .ok o) : ∀ a ∈ o, (write a).Bounded p n ∧ C a := by
  unfold Value.asOption at h
  split at h
  · cases h
    exact fun a ha => nomatch ha
  · cases hread : part v with
    | error e =>
      rw [hread] at h
      cases h
    | ok a =>
      rw [hread] at h
      cases h
      intro a' ha'
      cases ha'
      exact hpart hv hread

/-- A field is absent or read from a member. -/
theorem exists_of_field {o : Option α} {name : String} (h : Members.field ms name part = .ok o) :
    ∀ a ∈ o, ∃ v, Members.find? name ms = some v ∧ part v = .ok a := by
  unfold Members.field at h
  split at h
  · cases h
    exact fun a ha => nomatch ha
  · rename_i v hfind
    cases hread : part v with
    | error e =>
      rw [hread] at h
      cases h
    | ok a =>
      rw [hread] at h
      cases h
      intro a' ha'
      cases ha'
      exact ⟨v, hfind, hread⟩

theorem Reads.field (hpart : Reads p part write C) {o : Option α} {name : String}
    (hms : ∀ m ∈ ms, m.2.WellRead p n) (h : Members.field ms name part = .ok o) :
    ∀ a ∈ o, (write a).Bounded p n ∧ C a := by
  intro a ha
  obtain ⟨v, hfind, hread⟩ := exists_of_field h a ha
  exact hpart (hms _ (Members.mem_of_find? hfind)) hread

theorem Reads.optionalField (hpart : Reads p part write C) {o : Option α} {name : String}
    (hms : ∀ m ∈ ms, m.2.WellRead p n) (h : Members.optionalField ms name part = .ok o) :
    ∀ a ∈ o, (write a).Bounded p n ∧ C a := by
  obtain ⟨found, hfield, h⟩ := bind_eq_ok.1 h
  cases h
  intro a ha
  cases found with
  | none => cases ha
  | some inner =>
    obtain ⟨v, hfind, hread⟩ := exists_of_field hfield inner rfl
    exact hpart.option (hms _ (Members.mem_of_find? hfind)) hread a ha

/-- The item at the head of an array is read, and the others are left. -/
theorem of_element {record : String} {place : Nat} {a : α} {rest : List Value}
    (h : Json.element record place part items = .ok (a, rest)) :
    ∃ v, items = v :: rest ∧ part v = .ok a := by
  cases items with
  | nil => cases h
  | cons v items =>
    obtain ⟨a', ha, h⟩ := bind_eq_ok.1 h
    cases h
    exact ⟨v, rfl, ha⟩

theorem of_required {o : Option α} {name : String} {a : α} (h : Json.required name o = .ok a) :
    o = some a := by
  cases o with
  | none => cases h
  | some a' =>
    cases h
    rfl

/-- An optional field is written as it was read, or left out. -/
theorem bounded_optionalMember {o : Option α} (name : String)
    (h : ∀ a ∈ o, (write a).Bounded p n) :
    ∀ m ∈ optionalMember name (o.map write), m.2.Bounded p n := by
  cases o with
  | none => exact fun m hm => absurd hm List.not_mem_nil
  | some a =>
    intro m hm
    obtain rfl := List.mem_singleton.1 hm
    exact h a rfl

theorem bounded_string (s : String) : (Value.string s).Bounded p n :=
  ⟨Nat.zero_le n, trivial⟩

end Reads

section Records

variable {p : Json.Number → Prop} {n : Nat}

theorem reads_location (surplus : Surplus) :
    Reads p (Location.ofValue surplus) Location.toValue fun _ => True := by
  have hwrite {n : Nat} {line column : Nat} (hline : (natValue line).Bounded p n)
      (hcolumn : (natValue column).Bounded p n) :
      (Location.toValue ⟨line, column⟩).Bounded p (n + 1) := by
    refine Value.bounded_object_iff.2 ?_
    exact List.forall_mem_cons.2 ⟨hline, List.forall_mem_singleton.2 hcolumn⟩
  intro n v l hv h
  cases v with
  | object ms =>
    obtain ⟨k, rfl, hms⟩ := hv.of_object
    obtain ⟨column, hcolumn, h⟩ := bind_eq_ok.1 h
    obtain ⟨line, hline, h⟩ := bind_eq_ok.1 h
    obtain ⟨line', hline', h⟩ := bind_eq_ok.1 h
    obtain ⟨column', hcolumn', h⟩ := bind_eq_ok.1 h
    cases h
    exact ⟨hwrite (reads_natural.field hms hline _ (of_required hline')).1
      (reads_natural.field hms hcolumn _ (of_required hcolumn')).1, trivial⟩
  | array items =>
    obtain ⟨k, rfl, hitems⟩ := hv.of_array
    obtain ⟨⟨line, rest⟩, lineItem, h⟩ := bind_eq_ok.1 h
    obtain ⟨⟨column, rest'⟩, columnItem, h⟩ := bind_eq_ok.1 h
    obtain ⟨-, -, h⟩ := bind_eq_ok.1 h
    cases h
    obtain ⟨v, rfl, hline⟩ := of_element lineItem
    obtain ⟨w, rfl, hcolumn⟩ := of_element columnItem
    obtain ⟨hv, hitems⟩ := List.forall_mem_cons.1 hitems
    obtain ⟨hw, -⟩ := List.forall_mem_cons.1 hitems
    exact ⟨hwrite (reads_natural hv hline).1 (reads_natural hw hcolumn).1, trivial⟩
  | _ => cases h

theorem reads_pathSegment : Reads p PathSegment.ofValue PathSegment.toValue fun _ => True := by
  intro n v s hv h
  unfold PathSegment.ofValue at h
  split at h
  · rename_i name hname
    cases h
    exact reads_string hv hname
  · rename_i place hplace
    cases h
    exact reads_natural hv hplace
  · cases h

theorem reads_graphQLError (surplus : Surplus) :
    Reads p (GraphQLError.ofValue surplus) GraphQLError.toValue GraphQLError.Canonical := by
  have hlocationsRead := reads_list (reads_location (p := p) surplus)
  have hpathRead := reads_list (reads_pathSegment (p := p))
  -- an error whose parts are bounded, in whichever form they were read
  have hwrite {n : Nat} {e : GraphQLError}
      (hlocations : ∀ ls ∈ e.locations, (Value.array (ls.map Location.toValue)).Bounded p n ∧
        ∀ l ∈ ls, True)
      (hpath : ∀ ss ∈ e.path, (Value.array (ss.map PathSegment.toValue)).Bounded p n ∧
        ∀ s ∈ ss, True)
      (hextensions : ∀ ms ∈ e.extensions, (Value.object ms).Bounded p n ∧
        (Value.object ms).Canonical) : e.toValue.Bounded p (n + 1) ∧ e.Canonical := by
    refine ⟨Value.bounded_object_iff.2 ?_, fun ms hms => (hextensions ms hms).2⟩
    refine List.forall_mem_cons.2 ⟨bounded_string _, List.forall_mem_append.2
      ⟨List.forall_mem_append.2 ⟨?_, ?_⟩, ?_⟩⟩
    · exact bounded_optionalMember _ fun ls hls => (hlocations ls hls).1
    · exact bounded_optionalMember _ fun ss hss => (hpath ss hss).1
    · exact bounded_optionalMember _ fun ms hms => (hextensions ms hms).1
  intro n v e hv h
  cases v with
  | object ms =>
    obtain ⟨k, rfl, hms⟩ := hv.of_object
    obtain ⟨extensions, hextensions, h⟩ := bind_eq_ok.1 h
    obtain ⟨locations, hlocations, h⟩ := bind_eq_ok.1 h
    obtain ⟨message, hmessage, h⟩ := bind_eq_ok.1 h
    obtain ⟨path, hpath, h⟩ := bind_eq_ok.1 h
    obtain ⟨message', hmessage', h⟩ := bind_eq_ok.1 h
    cases h
    exact hwrite (hlocationsRead.optionalField hms hlocations)
      (hpathRead.optionalField hms hpath) (reads_members.optionalField hms hextensions)
  | array items =>
    obtain ⟨k, rfl, hitems⟩ := hv.of_array
    obtain ⟨⟨message, rest⟩, messageItem, h⟩ := bind_eq_ok.1 h
    obtain ⟨⟨locations, rest₁⟩, locationsItem, h⟩ := bind_eq_ok.1 h
    obtain ⟨⟨path, rest₂⟩, pathItem, h⟩ := bind_eq_ok.1 h
    obtain ⟨⟨extensions, rest₃⟩, extensionsItem, h⟩ := bind_eq_ok.1 h
    obtain ⟨-, -, h⟩ := bind_eq_ok.1 h
    cases h
    obtain ⟨v, rfl, -⟩ := of_element messageItem
    obtain ⟨v₁, rfl, hlocations⟩ := of_element locationsItem
    obtain ⟨v₂, rfl, hpath⟩ := of_element pathItem
    obtain ⟨v₃, rfl, hextensions⟩ := of_element extensionsItem
    simp only [List.forall_mem_cons] at hitems
    obtain ⟨-, hv₁, hv₂, hv₃, -⟩ := hitems
    exact hwrite (hlocationsRead.option hv₁ hlocations) (hpathRead.option hv₂ hpath)
      (reads_members.option hv₃ hextensions)
  | _ => cases h

theorem reads_errors (surplus : Surplus) :
    Reads p (errorsOfValue surplus) errorsValue fun es => ∀ e ∈ es, e.Canonical :=
  reads_list (reads_graphQLError surplus)

theorem reads_executionResult (surplus : Surplus) :
    Reads p (ExecutionResult.ofValue surplus) ExecutionResult.toValue
      ExecutionResult.Canonical := by
  have hwrite {n : Nat} {r : ExecutionResult} (hdata : r.data.WellRead p n)
      (herrors : ∀ es ∈ r.errors, (errorsValue es).Bounded p n ∧ ∀ e ∈ es, e.Canonical)
      (hextensions : ∀ ms ∈ r.extensions, (Value.object ms).Bounded p n ∧
        (Value.object ms).Canonical) : r.toValue.Bounded p (n + 1) ∧ r.Canonical := by
    refine ⟨Value.bounded_object_iff.2 ?_, hdata.canonical, fun es hes => (herrors es hes).2,
      fun ms hms => (hextensions ms hms).2⟩
    refine List.forall_mem_cons.2 ⟨hdata.toBounded, List.forall_mem_append.2 ⟨?_, ?_⟩⟩
    · exact bounded_optionalMember _ fun es hes => (herrors es hes).1
    · exact bounded_optionalMember _ fun ms hms => (hextensions ms hms).1
  have hnull (n : Nat) : Value.null.WellRead p n := ⟨⟨Nat.zero_le n, trivial⟩, trivial⟩
  intro n v r hv h
  cases v with
  | object ms =>
    obtain ⟨k, rfl, hms⟩ := hv.of_object
    obtain ⟨errors, herrors, h⟩ := bind_eq_ok.1 h
    obtain ⟨extensions, hextensions, h⟩ := bind_eq_ok.1 h
    cases h
    refine hwrite ?_ ((reads_errors surplus).optionalField hms herrors)
      (reads_members.optionalField hms hextensions)
    cases hfind : Members.find? "data" ms with
    | none => exact hnull k
    | some v => exact hms _ (Members.mem_of_find? hfind)
  | array items =>
    obtain ⟨k, rfl, hitems⟩ := hv.of_array
    obtain ⟨⟨errors, rest⟩, errorsItem, h⟩ := bind_eq_ok.1 h
    obtain ⟨⟨extensions, rest₁⟩, extensionsItem, h⟩ := bind_eq_ok.1 h
    obtain ⟨-, -, h⟩ := bind_eq_ok.1 h
    cases h
    obtain ⟨v₁, htail, herrors⟩ := of_element errorsItem
    obtain ⟨v₂, rfl, hextensions⟩ := of_element extensionsItem
    cases items with
    | nil => cases htail
    | cons v items =>
      obtain rfl : items = v₁ :: v₂ :: rest₁ := htail
      simp only [List.forall_mem_cons] at hitems
      obtain ⟨hv, hv₁, hv₂, -⟩ := hitems
      exact hwrite hv ((reads_errors surplus).option hv₁ herrors)
        (reads_members.option hv₂ hextensions)
  | _ => cases h

theorem reads_operation (surplus : Surplus) :
    Reads p (Operation.ofValue surplus) Operation.toValue Operation.Canonical := by
  have hwrite {n : Nat} {o : Operation}
      (hname : ∀ name ∈ o.operationName, (Value.string name).Bounded p n ∧ True)
      (hbindings : ∀ ms ∈ o.bindings, (Value.object ms).Bounded p n ∧
        (Value.object ms).Canonical)
      (hextensions : ∀ ms ∈ o.extensions, (Value.object ms).Bounded p n ∧
        (Value.object ms).Canonical) : o.toValue.Bounded p (n + 1) ∧ o.Canonical := by
    refine ⟨Value.bounded_object_iff.2 ?_, fun ms hms => (hbindings ms hms).2,
      fun ms hms => (hextensions ms hms).2⟩
    refine List.forall_mem_cons.2 ⟨bounded_string _, List.forall_mem_append.2
      ⟨List.forall_mem_append.2 ⟨?_, ?_⟩, ?_⟩⟩
    · exact bounded_optionalMember _ fun name hn => (hname name hn).1
    · exact bounded_optionalMember _ fun ms hms => (hbindings ms hms).1
    · exact bounded_optionalMember _ fun ms hms => (hextensions ms hms).1
  intro n v o hv h
  cases v with
  | object ms =>
    obtain ⟨k, rfl, hms⟩ := hv.of_object
    obtain ⟨extensions, hextensions, h⟩ := bind_eq_ok.1 h
    obtain ⟨name, hname, h⟩ := bind_eq_ok.1 h
    obtain ⟨query, hquery, h⟩ := bind_eq_ok.1 h
    obtain ⟨bindings, hbindings, h⟩ := bind_eq_ok.1 h
    obtain ⟨query', hquery', h⟩ := bind_eq_ok.1 h
    cases h
    exact hwrite (reads_string.optionalField hms hname) (reads_members.optionalField hms hbindings)
      (reads_members.optionalField hms hextensions)
  | array items =>
    obtain ⟨k, rfl, hitems⟩ := hv.of_array
    obtain ⟨⟨query, rest⟩, queryItem, h⟩ := bind_eq_ok.1 h
    obtain ⟨⟨name, rest₁⟩, nameItem, h⟩ := bind_eq_ok.1 h
    obtain ⟨⟨bindings, rest₂⟩, bindingsItem, h⟩ := bind_eq_ok.1 h
    obtain ⟨⟨extensions, rest₃⟩, extensionsItem, h⟩ := bind_eq_ok.1 h
    obtain ⟨-, -, h⟩ := bind_eq_ok.1 h
    cases h
    obtain ⟨v, rfl, -⟩ := of_element queryItem
    obtain ⟨v₁, rfl, hname⟩ := of_element nameItem
    obtain ⟨v₂, rfl, hbindings⟩ := of_element bindingsItem
    obtain ⟨v₃, rfl, hextensions⟩ := of_element extensionsItem
    simp only [List.forall_mem_cons] at hitems
    obtain ⟨-, hv₁, hv₂, hv₃, -⟩ := hitems
    exact hwrite (reads_string.option hv₁ hname) (reads_members.option hv₂ hbindings)
      (reads_members.option hv₃ hextensions)
  | _ => cases h

end Records

end LiveQuery
