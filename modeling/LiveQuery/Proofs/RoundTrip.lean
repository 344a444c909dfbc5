import LiveQuery.Message.Decode
import LiveQuery.Proofs.Records

/-!
# Messages there and back

A message that is written is read back, and a message that was read can be written and read again
(`Message.decode_inverts_encode`). The conditions on a message that is written are those that
every message which was read meets (`Message.wellFormed_of_decode`): its maps are in key order
(`Message.Canonical`), its id is not empty, and it nests no deeper than the reader allows. Only
the doubles are left out: a number must be an integer of 64 bits.
-/

namespace LiveQuery

open Json (Value Members ShapeError Surplus)

/-- The loose parts of a message are canonical. -/
def Message.Canonical : Message → Prop
  | .connectionInit p | .connectionAck p | .ping p | .pong p => LooseCanonical p
  | .subscribe _ operation => operation.Canonical
  | .next _ result => result.Canonical
  | .error _ errors => ∀ e ∈ errors, e.Canonical
  | .complete _ => True

namespace Message

/-- The members of a message as they are written. -/
def fields (m : Message) : List (String × Value) := ("type", .string m.kind.name) :: m.body

theorem nodup_fields (m : Message) : (m.fields.map Prod.fst).Nodup := by
  have hscoped : ["type", "id", "payload"].Nodup := by decide
  have hsession (payload : Option Members) (tag : Value) : ((("type", tag) ::
      optionalMember "payload" (payload.map Value.object)).map Prod.fst).Nodup :=
    (by decide : ["type", "payload"].Nodup).sublist
      ((sublist_optionalMember _ _).cons_cons _)
  cases m with
  | connectionInit payload => exact hsession payload _
  | connectionAck payload => exact hsession payload _
  | ping payload => exact hsession payload _
  | pong payload => exact hsession payload _
  | subscribe id operation => exact hscoped
  | next id result => exact hscoped
  | error id errors => exact hscoped
  | complete id => exact (by decide : ["type", "id"].Nodup)

theorem ofName?_name (kind : MessageKind) : MessageKind.ofName? kind.name = some kind := by
  cases kind <;> decide

/-- The typed reader takes a message back from what was written. -/
theorem ofValue_toValue (m : Message) (h : m.Canonical) :
    ofValue m.toValue.normal = .ok m := by
  have hkeys := m.nodup_fields
  have htag : Members.find? "type" (readBack m.fields) = some (.string m.kind.name) := by
    rw [find?_readBack hkeys]
    rfl
  have hkind : kindOfValue (.string m.kind.name) = .ok m.kind := by
    rw [kindOfValue, ofName?_name]
  have hvalue : m.toValue.normal = .object (readBack m.fields) := rfl
  have hmembers : ofValue m.toValue.normal = ofMembers (readBack m.fields) m.kind := by
    rw [hvalue, ofValue, htag]
    simp only [hkind]
    rfl
  rw [hmembers]
  -- the payload of a session message, and the id and payload of a scoped one
  have hsession (make : Option Members → Message) (payload : Option Members)
      (hcanonical : LooseCanonical payload) (hfind : Members.find? "payload" m.fields =
        payload.map Value.object) : sessionMembers (readBack m.fields) make = .ok (make payload) := by
    rw [sessionMembers, optionalField_readBack "payload" .object _ payload hkeys hfind
      hcanonical.read]
    rfl
  have hscoped {α : Type} (make : String → α → Message) (part : Value → Except ShapeError α)
      (id : String) (v : Value) (a : α) (hid : Members.find? "id" m.fields = some (.string id))
      (hfind : Members.find? "payload" m.fields = some v) (hread : part v.normal = .ok a) :
      addressedMembers (readBack m.fields) make part = .ok (make id a) := by
    have hstring : Value.asString (Value.string id).normal = .ok id := rfl
    rw [addressedMembers, field_readBack "id" hkeys hid hstring,
      field_readBack "payload" hkeys hfind hread]
    rfl
  cases m with
  | connectionInit payload =>
    exact hsession .connectionInit payload h
      (by simp [fields, body, Members.find?, find?_optionalMember])
  | connectionAck payload =>
    exact hsession .connectionAck payload h
      (by simp [fields, body, Members.find?, find?_optionalMember])
  | ping payload =>
    exact hsession .ping payload h (by simp [fields, body, Members.find?, find?_optionalMember])
  | pong payload =>
    exact hsession .pong payload h (by simp [fields, body, Members.find?, find?_optionalMember])
  | subscribe id operation =>
    exact hscoped .subscribe _ id _ operation rfl rfl (operation.ofValue_toValue _ h)
  | next id result => exact hscoped .next _ id _ result rfl rfl (result.ofValue_toValue _ h)
  | error id errors =>
    exact hscoped .error _ id _ errors rfl rfl (errorsOfValue_errorsValue _ errors h)
  | complete id =>
    have hid := field_readBack "id" hkeys rfl
      (show Value.asString (Value.string id).normal = .ok id from rfl)
    show (do
      let id ← Members.field (readBack (fields (.complete id))) "id" Value.asString
      return .complete (← Json.required "id" id)) = Except.ok (Message.complete id)
    rw [hid]
    rfl

/-- The checks of the envelope pass for what was written. -/
theorem checkEnvelope_fields (text : String) (m : Message) (hid : m.id? ≠ some "") :
    checkEnvelope text (readBack m.fields) = .ok m.kind := by
  have hkeys := m.nodup_fields
  have htag : Members.find? "type" (readBack m.fields) = some (.string m.kind.name) := by
    rw [find?_readBack hkeys]
    rfl
  have hmember (id : String) (hfind : Members.find? "id" m.fields = some (.string id)) :
      idMember? (readBack m.fields) = some id := by
    rw [idMember?, find?_readBack hkeys, hfind]
    rfl
  unfold checkEnvelope
  rw [htag]
  simp only [bind, Except.bind, ofName?_name]
  cases m with
  | connectionInit payload => rfl
  | connectionAck payload => rfl
  | ping payload => rfl
  | pong payload => rfl
  | subscribe id operation =>
    rw [hmember id rfl]
    exact if_neg fun heq => hid (congrArg some heq)
  | next id result =>
    rw [hmember id rfl]
    exact if_neg fun heq => hid (congrArg some heq)
  | error id errors =>
    rw [hmember id rfl]
    exact if_neg fun heq => hid (congrArg some heq)
  | complete id =>
    rw [hmember id rfl]
    exact if_neg fun heq => hid (congrArg some heq)

/-- A message that was written is read. -/
theorem decode_encode (m : Message) (hcanonical : m.Canonical) (hid : m.id? ≠ some "")
    (hnumbers : m.toValue.Numbers Json.Number.Integral)
    (hdepth : m.toValue.depth ≤ Json.Reader.maxDepth) :
    decode (Utf8.ofString m.encode) = .ok m := by
  have hparse := Value.parse_text m.toValue hnumbers hdepth
  have hvalue : m.toValue.normal = .object (readBack m.fields) := rfl
  rw [encode, decode, hparse]
  dsimp only
  rw [hvalue, ofFrameValue, checkEnvelope_fields _ m hid, ← hvalue]
  simp only [bind, Except.bind, ofValue_toValue m hcanonical]

/-! ## What was read -/

/-- The id that a message is read with is the one in the object. -/
theorem id?_of_addressed {α : Type} {ms : Members} {make : String → α → Message}
    {part : Value → Except ShapeError α} {m : Message}
    (h : addressedMembers ms make part = .ok m) :
    ∃ id a, idMember? ms = some id ∧ Members.field ms "payload" part = .ok (some a) ∧
      m = make id a := by
  obtain ⟨id, hid, h⟩ := bind_eq_ok.1 h
  obtain ⟨payload, hpayload, h⟩ := bind_eq_ok.1 h
  obtain ⟨id', hid', h⟩ := bind_eq_ok.1 h
  obtain ⟨payload', hpayload', h⟩ := bind_eq_ok.1 h
  cases h
  obtain rfl := of_required hid'
  obtain rfl := of_required hpayload'
  obtain ⟨v, hfind, hread⟩ := exists_of_field hid id' rfl
  refine ⟨id', payload', ?_, hpayload, rfl⟩
  cases v with
  | string s =>
    cases hread
    rw [idMember?, hfind]
  | _ => cases hread

/-- What is read from members is written no larger, in canonical form, and under the id of the
members if its kind has one. -/
theorem reads_members_of_kind {p : Json.Number → Prop} {n : Nat} {ms : Members}
    (hms : ∀ m ∈ ms, m.2.WellRead p n) {kind : MessageKind} {m : Message}
    (h : ofMembers ms kind = .ok m) :
    m.toValue.Bounded p (n + 1) ∧ m.Canonical ∧
      m.id? = if kind.isScoped then idMember? ms else none := by
  -- a message is as large as its members after the type
  have hbounded {m : Message} (hbody : ∀ x ∈ m.body, x.2.Bounded p n) :
      m.toValue.Bounded p (n + 1) :=
    Value.bounded_object_iff.2 (List.forall_mem_cons.2 ⟨bounded_string _, hbody⟩)
  have hscoped {id : String} {v : Value} (hv : v.Bounded p n) :
      ∀ x ∈ [("id", Value.string id), ("payload", v)], x.2.Bounded p n :=
    List.forall_mem_cons.2 ⟨bounded_string _, List.forall_mem_singleton.2 hv⟩
  have hsession {payload : Option Members}
      (hread : Members.optionalField ms "payload" Value.asMembers = .ok payload) :
      (∀ x ∈ optionalMember "payload" (payload.map Value.object), x.2.Bounded p n) ∧
        LooseCanonical payload := by
    have hpayload := reads_members.optionalField hms hread
    exact ⟨bounded_optionalMember _ fun x hx => (hpayload x hx).1, fun x hx => (hpayload x hx).2⟩
  cases kind with
  | connectionInit =>
    obtain ⟨payload, hread, h⟩ := bind_eq_ok.1 h
    cases h
    exact ⟨hbounded (hsession hread).1, (hsession hread).2, rfl⟩
  | connectionAck =>
    obtain ⟨payload, hread, h⟩ := bind_eq_ok.1 h
    cases h
    exact ⟨hbounded (hsession hread).1, (hsession hread).2, rfl⟩
  | ping =>
    obtain ⟨payload, hread, h⟩ := bind_eq_ok.1 h
    cases h
    exact ⟨hbounded (hsession hread).1, (hsession hread).2, rfl⟩
  | pong =>
    obtain ⟨payload, hread, h⟩ := bind_eq_ok.1 h
    cases h
    exact ⟨hbounded (hsession hread).1, (hsession hread).2, rfl⟩
  | subscribe =>
    obtain ⟨id, operation, hid, hread, rfl⟩ := id?_of_addressed h
    have hpayload := (reads_operation .enveloped).field hms hread operation rfl
    exact ⟨hbounded (hscoped hpayload.1), hpayload.2, hid.symm⟩
  | next =>
    obtain ⟨id, result, hid, hread, rfl⟩ := id?_of_addressed h
    have hpayload := (reads_executionResult .enveloped).field hms hread result rfl
    exact ⟨hbounded (hscoped hpayload.1), hpayload.2, hid.symm⟩
  | error =>
    obtain ⟨id, errors, hid, hread, rfl⟩ := id?_of_addressed h
    have hpayload := (reads_errors .enveloped).field hms hread errors rfl
    exact ⟨hbounded (hscoped hpayload.1), hpayload.2, hid.symm⟩
  | complete =>
    obtain ⟨id, hid, h⟩ := bind_eq_ok.1 h
    obtain ⟨id', hid', h⟩ := bind_eq_ok.1 h
    cases h
    obtain rfl := of_required hid'
    obtain ⟨v, hfind, hread⟩ := exists_of_field hid id' rfl
    refine ⟨hbounded (List.forall_mem_singleton.2 (bounded_string _)), trivial, ?_⟩
    cases v with
    | string s =>
      cases hread
      show some id' = idMember? ms
      rw [idMember?, hfind]
    | _ => cases hread

/-- The checks of the envelope pass only for a known type, and for a scoped message only with an id
that is not empty. -/
theorem of_checkEnvelope {text : String} {ms : Members} {kind : MessageKind}
    (h : checkEnvelope text ms = .ok kind) :
    ∃ name, Members.find? "type" ms = some (.string name) ∧
      MessageKind.ofName? name = some kind ∧
      (kind.isScoped = true → ∃ id, idMember? ms = some id ∧ id ≠ "") := by
  unfold checkEnvelope at h
  cases htag : Members.find? "type" ms with
  | none =>
    rw [htag] at h
    cases h
  | some tag =>
    rw [htag] at h
    cases tag with
    | string name =>
      simp only [bind, Except.bind] at h
      cases hkind : MessageKind.ofName? name with
      | none =>
        rw [hkind] at h
        cases h
      | some kind' =>
        simp only [hkind] at h
        split at h
        · cases hid : idMember? ms with
          | none =>
            rw [hid] at h
            cases h
          | some id =>
            rw [hid] at h
            dsimp only at h
            split at h
            · cases h
            · rename_i hne
              cases h
              exact ⟨name, rfl, hkind, fun _ => ⟨id, rfl, hne⟩⟩
        · rename_i hscoped
          cases h
          exact ⟨name, rfl, hkind, fun h => absurd h hscoped⟩
    | _ => cases h

/-- The kind that the envelope names is the one that the typed reader goes by. -/
theorem ofMembers_of_checkEnvelope {text : String} {ms : Members} {kind : MessageKind}
    (h : checkEnvelope text ms = .ok kind) : ofValue (.object ms) = ofMembers ms kind := by
  obtain ⟨name, htag, hkind, -⟩ := of_checkEnvelope h
  rw [ofValue, htag]
  simp only [bind, Except.bind, kindOfValue, hkind]

/-- A message that was read is well formed, and its numbers are among those of the frame. -/
theorem wellFormed_of_decode {frame : Bytes} {m : Message} (h : decode frame = .ok m) :
    m.id? ≠ some "" ∧ m.toValue.depth ≤ Json.Reader.maxDepth ∧ m.Canonical ∧
      m.toValue.Numbers Json.Number.Fits ∧
      ∃ v, Value.parse frame = .ok v ∧ ∀ p, v.Numbers p → m.toValue.Numbers p := by
  unfold decode at h
  cases hparse : Value.parse frame with
  | error e =>
    rw [hparse] at h
    cases h
  | ok v =>
    have hread := Value.wellRead_of_parse hparse
    rw [hparse] at h
    cases v with
    | object ms =>
      obtain ⟨kind, hkind, h⟩ := bind_eq_ok.1 h
      rw [ofMembers_of_checkEnvelope hkind] at h
      cases hmembers : ofMembers ms kind with
      | error e =>
        rw [hmembers] at h
        cases h
      | ok m' =>
        rw [hmembers] at h
        cases h
        obtain ⟨n, hn, hms⟩ := hread.of_object
        obtain ⟨hbounded, hcanonical, hid⟩ := reads_members_of_kind hms hmembers
        refine ⟨?_, hn ▸ hbounded.depth, hcanonical, hbounded.numbers, _, rfl, ?_⟩
        · rw [hid]
          split
          · rename_i hscoped
            obtain ⟨name, -, -, hmember⟩ := of_checkEnvelope hkind
            obtain ⟨id, hid, hne⟩ := hmember hscoped
            rw [hid]
            exact fun heq => hne (Option.some.inj heq)
          · exact Option.some_ne_none "" ∘ Eq.symm
        · intro p hp
          have hwell : (Value.object ms).WellRead p Json.Reader.maxDepth :=
            ⟨⟨hread.depth, hp⟩, hread.canonical⟩
          obtain ⟨k, -, hms⟩ := hwell.of_object
          exact (reads_members_of_kind hms hmembers).1.numbers
    | _ => cases h

/-- Reading inverts writing. Every message with its maps in key order, an id that is not empty if
it has one, integers of 64 bits for numbers, and nesting of at most 127 levels is read back from
what it is written as. And every message that is read from the bytes of a frame has such an id,
maps and nesting, so that it is read back again if it, or the frame, holds no double. -/
theorem decode_inverts_encode :
    (∀ m : Message, m.Canonical → m.id? ≠ some "" → m.toValue.Numbers Json.Number.Integral →
      m.toValue.depth ≤ 127 → decode (Utf8.ofString m.encode) = .ok m) ∧
    ∀ (frame : Bytes) (m : Message), decode frame = .ok m →
      m.id? ≠ some "" ∧ m.Canonical ∧ m.toValue.depth ≤ 127 ∧
      ((m.toValue.Numbers Json.Number.IsInt ∨
          ∃ v, Value.parse frame = .ok v ∧ v.Numbers Json.Number.IsInt) →
        decode (Utf8.ofString m.encode) = .ok m) := by
  refine ⟨fun m hcanonical hid hnumbers hdepth => decode_encode m hcanonical hid hnumbers hdepth,
    fun frame m h => ?_⟩
  obtain ⟨hid, hdepth, hcanonical, hfits, v, hparse, hnumbers⟩ := wellFormed_of_decode h
  refine ⟨hid, hcanonical, hdepth, fun hints => ?_⟩
  have hint : m.toValue.Numbers Json.Number.IsInt := by
    rcases hints with hints | ⟨w, hw, hints⟩
    · exact hints
    · rw [hparse] at hw
      cases hw
      exact hnumbers _ hints
  have hintegral : m.toValue.Numbers Json.Number.Integral := by
    have hboth := Value.numbers_and _ hfits hint
    simpa only [← Json.Number.integral_iff] using hboth
  exact decode_encode m hcanonical hid hintegral hdepth

/-- A rejection with a place, a path and extensions. -/
def rejection : Message :=
  .error "1" [{
    message := "no \"π\"\n"
    locations := some [⟨1, 2⟩]
    path := some [.field "items", .index 0]
    extensions := some [("code", .number (.int (-7))), ("trace", .array [.null, .object []])] }]

/-- The rejection is read back from what it is written as, and again from what it is written as
then. -/
theorem rejection_read_back :
    (rejection.Canonical ∧ rejection.id? ≠ some "" ∧
      rejection.toValue.Numbers Json.Number.Integral ∧ rejection.toValue.depth ≤ 127) ∧
    decode (Utf8.ofString rejection.encode) = .ok rejection ∧
    rejection.toValue.Numbers Json.Number.IsInt ∧
    decode (Utf8.ofString rejection.encode) = .ok rejection := by
  have hcanonical : rejection.Canonical := by
    intro e he
    rw [List.mem_singleton.1 he]
    intro ms hms
    cases hms
    have hkeys : "code" < "trace" := by
      rw [String.lt_iff_toList_lt]
      decide
    exact ⟨List.pairwise_pair.2 hkeys, by
      simp [Value.Canonical, Members.Sorted, Value.MembersCanonical, Value.ItemsCanonical]⟩
  have hid : rejection.id? ≠ some "" := by decide
  have hintegral : rejection.toValue.Numbers Json.Number.Integral := by
    simp [rejection, toValue, body, errorsValue, GraphQLError.toValue, optionalMember,
      Location.toValue, PathSegment.toValue, natValue, Value.Numbers, Value.ItemsNumbers,
      Value.MembersNumbers, Json.Number.Integral]
  have hint : rejection.toValue.Numbers Json.Number.IsInt := by
    simp [rejection, toValue, body, errorsValue, GraphQLError.toValue, optionalMember,
      Location.toValue, PathSegment.toValue, natValue, Value.Numbers, Value.ItemsNumbers,
      Value.MembersNumbers, Json.Number.IsInt]
  have hdepth : rejection.toValue.depth ≤ 127 := by decide
  have hread := decode_inverts_encode.1 rejection hcanonical hid hintegral hdepth
  obtain ⟨-, -, -, hagain⟩ := decode_inverts_encode.2 _ rejection hread
  exact ⟨⟨hcanonical, hid, hintegral, hdepth⟩, hread, hint, hagain (.inl hint)⟩

end Message

end LiveQuery
