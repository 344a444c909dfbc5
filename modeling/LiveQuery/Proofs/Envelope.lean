import LiveQuery.Proofs.RoundTrip

/-!
# The envelope of a message and its typed reading

A frame is read twice: the envelope is checked by hand, and then the typed reader goes by the type
alone. The checks ask for a known type, and for an id that is not empty where the type belongs to a
subscription (`Message.Enveloped`). Both readings accept the same frames: a JSON object is decoded
to a message exactly if the typed reader reads that message out of it and the id is not empty where
the message belongs to a subscription. Behind the envelope only the type and the payload decide
whether the typed reader succeeds, and a decode error names the id of the object exactly if it
failed there (`Message.envelope_agrees`).
-/

namespace LiveQuery

open Json (Value Members ShapeError Surplus)

/-! ## Names of kinds -/

/-- Words run together, with a capital at the start of each but the first, as words in lower case
with underscores between them. -/
def snakeCase (words : String) : String :=
  String.ofList (words.toList.flatMap fun c => if c.isUpper then ['_', c.toLower] else [c])

namespace MessageKind

/-- The name of the constructor. -/
def constructorName : MessageKind → String
  | .connectionInit => "connectionInit"
  | .connectionAck => "connectionAck"
  | .ping => "ping"
  | .pong => "pong"
  | .subscribe => "subscribe"
  | .next => "next"
  | .error => "error"
  | .complete => "complete"

/-- The type on the wire is the constructor's name in snake case. -/
theorem name_eq_snakeCase (kind : MessageKind) : kind.name = snakeCase kind.constructorName := by
  cases kind <;> decide

theorem ofName?_eq_some_iff {name : String} {kind : MessageKind} :
    ofName? name = some kind ↔ name = kind.name := by
  constructor
  · intro h
    unfold ofName? at h
    have hname := List.find?_some h
    exact (beq_iff_eq.1 hname).symm
  · rintro rfl
    exact Message.ofName?_name kind

end MessageKind

namespace Message

/-! ## The checks of the envelope -/

/-- An object has the envelope of a message: the type is that of a kind, and if the kind belongs to
a subscription there is an id that is not empty. -/
structure Enveloped (ms : Members) (kind : MessageKind) : Prop where
  type : Members.find? "type" ms = some (.string kind.name)
  id : kind.isScoped = true → ∃ id, Members.find? "id" ms = some (.string id) ∧ id ≠ ""

variable {ms ms' : Members} {kind : MessageKind} {m : Message}

theorem idMember?_eq_some_iff {id : String} :
    idMember? ms = some id ↔ Members.find? "id" ms = some (.string id) := by
  unfold idMember?
  split
  · next id' hfind => rw [hfind]; simp
  · next hnone => exact iff_of_false nofun fun hfind => hnone id hfind

/-- The checks pass exactly for an object with the envelope of a message. -/
theorem checkEnvelope_eq_ok_iff {text : String} :
    checkEnvelope text ms = .ok kind ↔ Enveloped ms kind := by
  constructor
  · intro h
    obtain ⟨name, htype, hname, hid⟩ := of_checkEnvelope h
    obtain rfl := MessageKind.ofName?_eq_some_iff.1 hname
    refine ⟨htype, fun hscoped => ?_⟩
    obtain ⟨id, hmember, hne⟩ := hid hscoped
    exact ⟨id, idMember?_eq_some_iff.1 hmember, hne⟩
  · rintro ⟨htype, hid⟩
    unfold checkEnvelope
    rw [htype]
    simp only [bind, Except.bind, ofName?_name]
    split
    · next hscoped =>
      obtain ⟨id, hfind, hne⟩ := hid hscoped
      rw [idMember?_eq_some_iff.2 hfind]
      exact if_neg hne
    · rfl

/-- An envelope that fails its checks yields no id. -/
theorem id?_of_checkEnvelope {text : String} {e : DecodeError}
    (h : checkEnvelope text ms = .error e) : e.id? = none := by
  unfold checkEnvelope at h
  simp only [bind, Except.bind] at h
  cases htype : Members.find? "type" ms with
  | none =>
    rw [htype] at h
    cases h
    rfl
  | some tag =>
    rw [htype] at h
    cases tag with
    | string tag =>
      cases hkind : MessageKind.ofName? tag with
      | none =>
        simp only [hkind] at h
        cases h
        rfl
      | some kind =>
        simp only [hkind] at h
        split at h
        · split at h
          · cases h
            rfl
          · split at h
            · cases h
              rfl
            · cases h
        · cases h
    | _ =>
      cases h
      rfl

/-- The id that a decode error carries is the one in the object. -/
theorem idMember?_of_decode {data : Bytes} {e : DecodeError} {id : String}
    (h : decode data = .error e) (hid : e.id? = some id) :
    ∃ ms, Value.parse data = .ok (.object ms) ∧ idMember? ms = some id := by
  unfold decode at h
  cases hparse : Value.parse data with
  | error cause =>
    rw [hparse] at h
    cases h
    cases hid
  | ok v =>
    rw [hparse] at h
    cases v with
    | object ms =>
      refine ⟨ms, rfl, ?_⟩
      simp only [ofFrameValue, bind, Except.bind] at h
      cases hcheck : checkEnvelope (Utf8.lossy data) ms with
      | error cause =>
        rw [hcheck] at h
        cases h
        rw [id?_of_checkEnvelope hcheck] at hid
        cases hid
      | ok kind =>
        simp only [hcheck] at h
        split at h
        · cases h
        · cases h
          exact hid
    | _ =>
      cases h
      cases hid

/-! ## The typed reader -/

/-- The typed reader goes by the type, which is the name of a kind. -/
theorem of_ofValue (h : ofValue (.object ms) = .ok m) : ∃ kind : MessageKind,
    Members.find? "type" ms = some (.string kind.name) ∧ ofMembers ms kind = .ok m := by
  cases htype : Members.find? "type" ms with
  | none =>
    rw [ofValue, htype] at h
    cases h
  | some tag =>
    rw [ofValue, htype] at h
    obtain ⟨kind, hkind, h⟩ := bind_eq_ok.1 h
    refine ⟨kind, ?_, h⟩
    cases tag with
    | string name =>
      unfold kindOfValue at hkind
      dsimp only at hkind
      split at hkind
      · next kind' hname =>
        cases hkind
        rw [MessageKind.ofName?_eq_some_iff.1 hname]
      · cases hkind
    | _ => cases hkind

/-- A message that is read under a type is of the kind of the type, and a kind that belongs to a
subscription is read with the id of the object. -/
theorem of_ofMembers (h : ofMembers ms kind = .ok m) : m.kind = kind ∧
    (kind.isScoped = true → ∃ id, m.id? = some id ∧ Members.find? "id" ms = some (.string id)) := by
  have hscoped {α : Type} {make : String → α → Message} {part : Value → Except ShapeError α}
      (hkind : ∀ id a, (make id a).kind = kind) (hid : ∀ id a, (make id a).id? = some id)
      (h : addressedMembers ms make part = .ok m) : m.kind = kind ∧ (kind.isScoped = true →
        ∃ id, m.id? = some id ∧ Members.find? "id" ms = some (.string id)) := by
    obtain ⟨id, a, hmember, -, rfl⟩ := id?_of_addressed h
    exact ⟨hkind id a, fun _ => ⟨id, hid id a, idMember?_eq_some_iff.1 hmember⟩⟩
  cases kind with
  | connectionInit | connectionAck | ping | pong =>
    obtain ⟨payload, -, h⟩ := bind_eq_ok.1 h
    cases h
    exact ⟨rfl, nofun⟩
  | subscribe | next | error => exact hscoped (fun _ _ => rfl) (fun _ _ => rfl) h
  | complete =>
    obtain ⟨id, hid, h⟩ := bind_eq_ok.1 h
    obtain ⟨id', hid', h⟩ := bind_eq_ok.1 h
    cases h
    obtain rfl := of_required hid'
    obtain ⟨v, hfind, hread⟩ := exists_of_field hid id' rfl
    refine ⟨rfl, fun _ => ⟨id', rfl, ?_⟩⟩
    rw [hfind]
    cases v with
    | string s =>
      cases hread
      rfl
    | _ => cases hread

/-- A message for a subscription that is read has the id of the object. -/
theorem id?_of_ofValue (h : ofValue (.object ms) = .ok m) (hscoped : m.kind.isScoped = true) :
    ∃ id, m.id? = some id ∧ Members.find? "id" ms = some (.string id) := by
  obtain ⟨kind, -, h⟩ := of_ofValue h
  obtain ⟨rfl, hmember⟩ := of_ofMembers h
  exact hmember hscoped

/-- Behind the envelope the typed reader reads the members of the kind. -/
theorem Enveloped.ofValue_eq (h : Enveloped ms kind) : ofValue (.object ms) = ofMembers ms kind := by
  have hchecked : checkEnvelope "" ms = .ok kind := checkEnvelope_eq_ok_iff.2 h
  exact ofMembers_of_checkEnvelope hchecked

/-- What the typed reader reads has the envelope of its kind, if the id is not empty where the kind
belongs to a subscription. -/
theorem enveloped_of_ofValue (h : ofValue (.object ms) = .ok m)
    (hid : m.kind.isScoped = true → m.id? ≠ some "") : Enveloped ms m.kind := by
  obtain ⟨kind, htype, hmembers⟩ := of_ofValue h
  obtain ⟨rfl, -⟩ := of_ofMembers hmembers
  refine ⟨htype, fun hscoped => ?_⟩
  obtain ⟨id, hm, hfind⟩ := id?_of_ofValue h hscoped
  refine ⟨id, hfind, ?_⟩
  rintro rfl
  exact hid hscoped hm

/-- With an id a message for a subscription is read from its payload alone. -/
theorem addressedMembers_eq {α : Type} {id : String}
    (hid : Members.find? "id" ms = some (.string id)) (make : String → α → Message)
    (part : Value → Except ShapeError α) : addressedMembers ms make part =
      (Members.field ms "payload" part >>= Json.required "payload").map (make id) := by
  have hfield : Members.field ms "id" Value.asString = .ok (some id) := by
    unfold Members.field
    rw [hid]
    rfl
  unfold addressedMembers
  rw [hfield]
  cases Members.field ms "payload" part with
  | error cause => rfl
  | ok payload => cases payload <;> rfl

/-- Behind the envelope it depends on the payload alone whether the typed reader fails, and how. -/
theorem ofMembers_eq_error_iff (h : Enveloped ms kind) (h' : Enveloped ms' kind)
    (hpayload : Members.find? "payload" ms = Members.find? "payload" ms') (cause : ShapeError) :
    ofMembers ms kind = .error cause ↔ ofMembers ms' kind = .error cause := by
  have hfield {α : Type} (part : Value → Except ShapeError α) :
      Members.field ms "payload" part = Members.field ms' "payload" part := by
    unfold Members.field
    rw [hpayload]
  have hsession (make : Option Members → Message) :
      sessionMembers ms make = sessionMembers ms' make := by
    unfold sessionMembers Members.optionalField
    rw [hfield]
  have hmap {α : Type} (x : Except ShapeError α) (f g : α → Message) :
      x.map f = .error cause ↔ x.map g = .error cause := by
    cases x with
    | error e => exact Iff.rfl
    | ok a => exact iff_of_false nofun nofun
  have hscoped {α : Type} (make : String → α → Message) (part : Value → Except ShapeError α)
      (hkind : kind.isScoped = true) : addressedMembers ms make part = .error cause ↔
        addressedMembers ms' make part = .error cause := by
    obtain ⟨id, hid, -⟩ := h.id hkind
    obtain ⟨id', hid', -⟩ := h'.id hkind
    rw [addressedMembers_eq hid, addressedMembers_eq hid', hfield]
    exact hmap _ _ _
  cases kind with
  | connectionInit | connectionAck | ping | pong =>
    show sessionMembers ms _ = _ ↔ sessionMembers ms' _ = _
    rw [hsession]
  | subscribe | next | error => exact hscoped _ _ rfl
  | complete =>
    -- nothing but the id is read
    have hread {ms : Members} (h : Enveloped ms .complete) :
        ofMembers ms .complete ≠ .error cause := by
      obtain ⟨id, hid, -⟩ := h.id rfl
      unfold ofMembers Members.field
      rw [hid]
      nofun
    exact iff_of_false (hread h) (hread h')

/-! ## Both readings -/

variable {b : Bytes}

/-- Behind the envelope a frame is decoded by the typed reader, whose error names the id. -/
theorem decode_of_enveloped (hb : Value.parse b = .ok (.object ms)) (h : Enveloped ms kind) :
    decode b = match ofValue (.object ms) with
      | .ok m => .ok m
      | .error cause => .error (.badShape kind.name (idMember? ms) (.shape cause)) := by
  rw [decode, hb]
  dsimp only
  rw [ofFrameValue, checkEnvelope_eq_ok_iff.2 h]
  rfl

/-- Without the envelope a frame is not decoded, and the error names no id. -/
theorem decode_of_not_enveloped (hb : Value.parse b = .ok (.object ms))
    (h : ∀ kind, ¬ Enveloped ms kind) : ∃ e, decode b = .error e ∧ e.id? = none := by
  rw [decode, hb]
  dsimp only
  rw [ofFrameValue]
  cases hcheck : checkEnvelope (Utf8.lossy b) ms with
  | error e => exact ⟨e, rfl, id?_of_checkEnvelope hcheck⟩
  | ok kind => exact absurd (checkEnvelope_eq_ok_iff.1 hcheck) (h kind)

/-- Only objects are decoded. -/
theorem exists_object_of_decode (h : decode b = .ok m) :
    ∃ ms, Value.parse b = .ok (.object ms) := by
  cases hparse : Value.parse b with
  | error cause =>
    rw [decode, hparse] at h
    cases h
  | ok v =>
    rw [decode, hparse] at h
    cases v with
    | object ms => exact ⟨ms, rfl⟩
    | _ => cases h

/-- A frame is decoded exactly if its object has the envelope of a message that the typed reader
reads out of it. -/
theorem decode_eq_ok_iff (hb : Value.parse b = .ok (.object ms)) :
    decode b = .ok m ↔ Enveloped ms m.kind ∧ ofValue (.object ms) = .ok m := by
  constructor
  · intro h
    have henveloped : ∃ kind, Enveloped ms kind := by
      by_contra hnone
      obtain ⟨e, he, -⟩ := decode_of_not_enveloped hb (not_exists.1 hnone)
      rw [h] at he
      cases he
    obtain ⟨kind, henveloped⟩ := henveloped
    rw [decode_of_enveloped hb henveloped] at h
    cases hread : ofValue (.object ms) with
    | error cause =>
      rw [hread] at h
      cases h
    | ok m' =>
      rw [hread] at h
      cases h
      rw [henveloped.ofValue_eq] at hread
      obtain ⟨rfl, -⟩ := of_ofMembers hread
      exact ⟨henveloped, rfl⟩
  · rintro ⟨henveloped, hread⟩
    rw [decode_of_enveloped hb henveloped, hread]

/-- Two readings of the JSON object that the frame `b` holds agree. -/
structure EnvelopeAgrees (b : Bytes) (ms : Members) : Prop where
  /-- The frame is decoded to a message exactly if the typed reader reads that message, and its id
  is not empty where it belongs to a subscription. -/
  accepted : ∀ m, decode b = .ok m ↔ ofValue (.object ms) = .ok m ∧
    (m.kind.isScoped = true → ∃ id, m.id? = some id ∧ id ≠ "")
  /-- The type of the message, which is its constructor's name in snake case, is the type of the
  object; and the id, where the message belongs to a subscription, is the id of the object. -/
  named : ∀ m, decode b = .ok m → Members.find? "type" ms = some (.string m.kind.name) ∧
    m.kind.name = snakeCase m.kind.constructorName ∧
    (m.kind.isScoped = true → ∃ id, m.id? = some id ∧ Members.find? "id" ms = some (.string id))
  /-- Behind the envelope only the type and the payload decide whether the typed reader fails, and
  how: any other object with an envelope of the same type and with the same payload fares alike. -/
  typed : ∀ kind, Enveloped ms kind → ∀ ms', Enveloped ms' kind →
    Members.find? "payload" ms' = Members.find? "payload" ms →
      ((∃ m, ofValue (.object ms) = .ok m) ↔ ∃ m, ofValue (.object ms') = .ok m) ∧
        ∀ cause, ofValue (.object ms) = .error cause ↔ ofValue (.object ms') = .error cause
  /-- A decode error names an id exactly if the envelope passed its checks, the typed reader failed
  and the object has that id. -/
  carried : ∀ e, decode b = .error e → ∀ id, e.id? = some id ↔
    (∃ kind, checkEnvelope (Utf8.lossy b) ms = .ok kind) ∧
      (∃ cause, ofValue (.object ms) = .error cause) ∧
        Members.find? "id" ms = some (.string id)

/-- Behind the envelope only the type and the payload decide whether the typed reader fails. -/
theorem Enveloped.typed (h : Enveloped ms kind) (h' : Enveloped ms' kind)
    (hpayload : Members.find? "payload" ms' = Members.find? "payload" ms) :
    ((∃ m, ofValue (.object ms) = .ok m) ↔ ∃ m, ofValue (.object ms') = .ok m) ∧
      ∀ cause, ofValue (.object ms) = .error cause ↔ ofValue (.object ms') = .error cause := by
  rw [h.ofValue_eq, h'.ofValue_eq]
  have hfails := ofMembers_eq_error_iff h h' hpayload.symm
  refine ⟨?_, hfails⟩
  cases hread : ofMembers ms kind with
  | error cause =>
    rw [(hfails cause).1 hread]
  | ok m =>
    cases hread' : ofMembers ms' kind with
    | error cause =>
      rw [(hfails cause).2 hread'] at hread
      cases hread
    | ok m' => exact iff_of_true ⟨m, rfl⟩ ⟨m', rfl⟩

/-- A decode error of an object names an id exactly if the typed reader failed behind the envelope
of an object with that id. -/
theorem id?_eq_some_iff_of_decode {e : DecodeError} {id : String}
    (hb : Value.parse b = .ok (.object ms)) (he : decode b = .error e) : e.id? = some id ↔
      (∃ kind, checkEnvelope (Utf8.lossy b) ms = .ok kind) ∧
        (∃ cause, ofValue (.object ms) = .error cause) ∧
          Members.find? "id" ms = some (.string id) := by
  by_cases henveloped : ∃ kind, Enveloped ms kind
  · obtain ⟨kind, henveloped⟩ := henveloped
    have hchecked : checkEnvelope (Utf8.lossy b) ms = .ok kind :=
      checkEnvelope_eq_ok_iff.2 henveloped
    rw [decode_of_enveloped hb henveloped] at he
    cases hread : ofValue (.object ms) with
    | ok m =>
      rw [hread] at he
      cases he
    | error cause =>
      rw [hread] at he
      cases he
      constructor
      · exact fun hid => ⟨⟨kind, hchecked⟩, ⟨cause, rfl⟩, idMember?_eq_some_iff.1 hid⟩
      · rintro ⟨-, -, hid⟩
        exact idMember?_eq_some_iff.2 hid
  · obtain ⟨e', he', hnone⟩ := decode_of_not_enveloped hb (not_exists.1 henveloped)
    rw [he] at he'
    cases he'
    rw [hnone]
    refine iff_of_false nofun ?_
    rintro ⟨⟨kind, hchecked⟩, -⟩
    exact henveloped ⟨kind, checkEnvelope_eq_ok_iff.1 hchecked⟩

/-- The two readings of every frame that holds a JSON object agree, and the decode error of a frame
that holds none names no id. -/
theorem envelope_agrees (b : Bytes) :
    (∀ ms, Value.parse b = .ok (.object ms) → EnvelopeAgrees b ms) ∧
      ((∀ ms, Value.parse b ≠ .ok (.object ms)) →
        ∃ e, decode b = .error e ∧ e.id? = none) := by
  refine ⟨fun ms hb => ⟨fun m => ?_, fun m h => ?_, fun kind h ms' h' => h.typed h',
    fun e he id => id?_eq_some_iff_of_decode hb he⟩, fun hb => ?_⟩
  · rw [decode_eq_ok_iff hb]
    constructor
    · rintro ⟨henveloped, hread⟩
      refine ⟨hread, fun hscoped => ?_⟩
      obtain ⟨id, hfind, hne⟩ := henveloped.id hscoped
      obtain ⟨id', hm, hfind'⟩ := id?_of_ofValue hread hscoped
      rw [hfind] at hfind'
      cases hfind'
      exact ⟨id, hm, hne⟩
    · rintro ⟨hread, hid⟩
      refine ⟨enveloped_of_ofValue hread fun hscoped hempty => ?_, hread⟩
      obtain ⟨id, hm, hne⟩ := hid hscoped
      rw [hm] at hempty
      exact hne (Option.some.inj hempty)
  · obtain ⟨henveloped, hread⟩ := (decode_eq_ok_iff hb).1 h
    exact ⟨henveloped.type, m.kind.name_eq_snakeCase, id?_of_ofValue hread⟩
  · cases hparse : Value.parse b with
    | error cause =>
      rw [decode, hparse]
      exact ⟨_, rfl, rfl⟩
    | ok v =>
      rw [decode, hparse]
      cases v with
      | object ms => exact absurd hparse (hb ms)
      | _ => exact ⟨_, rfl, rfl⟩

/-- A result for the subscription `7` with a number for its payload and a member that no message
has. -/
def misshapenResult : Bytes :=
  Utf8.ofString "\x7b\"seq\":1,\"type\":\"next\",\"id\":\"7\",\"payload\":3\x7d"

/-- The members of the misshapen result. -/
def misshapenMembers : Members :=
  [("id", .string "7"), ("payload", .number (.int 3)), ("seq", .number (.int 1)),
    ("type", .string "next")]

/-- The envelope of the misshapen result passes its checks, and the error names the subscription. -/
theorem misshapenResult_agrees :
    Value.parse misshapenResult = .ok (.object misshapenMembers) ∧
      Enveloped misshapenMembers .next ∧
      ∃ e, decode misshapenResult = .error e ∧ e.id? = some "7" := by
  have hparse : Value.parse misshapenResult = .ok (.object misshapenMembers) := by
    rfl
  have henveloped : Enveloped misshapenMembers .next := ⟨rfl, fun _ => ⟨"7", rfl, by decide⟩⟩
  have hfails : ∃ cause, ofValue (.object misshapenMembers) = .error cause := ⟨_, rfl⟩
  have hagrees := (envelope_agrees misshapenResult).1 misshapenMembers hparse
  refine ⟨hparse, henveloped, ?_⟩
  cases hdecode : decode misshapenResult with
  | error e =>
    exact ⟨e, rfl, (hagrees.carried e hdecode "7").2
      ⟨⟨.next, checkEnvelope_eq_ok_iff.2 henveloped⟩, hfails, rfl⟩⟩
  | ok m =>
    obtain ⟨cause, hcause⟩ := hfails
    rw [((hagrees.accepted m).1 hdecode).1] at hcause
    cases hcause

end Message

end LiveQuery
