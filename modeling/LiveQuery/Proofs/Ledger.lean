import LiveQuery.Proofs.Journal

/-!
# The ledger of one socket

What client and server know of the operations of one socket: the ids that are registered, the
messages on the wire, the ids the server has ended since they were asked for, and whether a send
failed. The ledger is balanced (`Ledger.Balanced`) if every registered id was asked for once and
neither taken back nor ended, and if, as long as no send failed, every other id that was asked for
was taken back or ended. Three laws cover what can happen: ids leave (`Balanced.follow`), a new id
is asked for (`Balanced.ask`), and everything is asked for again (`balanced_replay`).
-/

namespace LiveQuery

/-- What client and server know of the operations of one socket. -/
structure Ledger where
  /-- The ids that are registered. -/
  ids : List String
  /-- The messages sent, followed by those in the outgoing queue. -/
  wire : List Message
  /-- Has the server ended an id since it was asked for? -/
  ended : String → Bool
  /-- Has a send failed? -/
  failed : Bool

/-- A message that belongs to no subscription asks for none. -/
theorem Message.asksFor_of_id?_eq_none {m : Message} (h : m.id? = none) (id : String) :
    m.asksFor id = false := by
  cases m with
  | subscribe i operation => cases h
  | _ => rfl

theorem countP_asksFor_eq_zero {ms : List Message} {id : String}
    (h : ∀ m ∈ ms, m.asksFor id = false) : ms.countP (Message.asksFor id) = 0 := by
  rw [List.countP_eq_zero]
  intro m hm
  rw [h m hm]
  nofun

namespace Ledger

/-- Is the operation of an id open, for all that is on the wire? -/
def IsOpen (l : Ledger) (id : String) : Prop :=
  (∃ operation, Message.subscribe id operation ∈ l.wire) ∧ Message.complete id ∉ l.wire ∧
    l.ended id = false

/-- Every registered id was asked for once and is open. As long as no send failed, nothing else
is open. Only ids that are known were ever named, to ask for them or to take them back. -/
structure Balanced (known : String → Prop) (l : Ledger) : Prop where
  asked : ∀ id ∈ l.ids, l.wire.countP (Message.asksFor id) = 1
  kept : ∀ id ∈ l.ids, Message.complete id ∉ l.wire
  unended : ∀ id ∈ l.ids, l.ended id = false
  closed : l.failed = false → ∀ id operation, id ∉ l.ids →
    Message.subscribe id operation ∈ l.wire → Message.complete id ∈ l.wire ∨ l.ended id = true
  named : ∀ m ∈ l.wire, ∀ id, m.id? = some id → known id
  plain : ∀ m ∈ l.wire, ∀ id, m.id? = some id → m.asksFor id = true ∨ m = .complete id

namespace Balanced

variable {known : String → Prop} {l l' : Ledger}

/-- A registered id was asked for. -/
theorem exists_request (h : l.Balanced known) {id : String} (hid : id ∈ l.ids) :
    ∃ operation, Message.subscribe id operation ∈ l.wire := by
  have hpos : 0 < l.wire.countP (Message.asksFor id) := by
    rw [h.asked id hid]
    exact Nat.one_pos
  obtain ⟨m, hm, hasks⟩ := List.countP_pos_iff.1 hpos
  obtain ⟨operation, rfl⟩ := Message.asksFor_iff.1 hasks
  exact ⟨operation, hm⟩

theorem known_of_mem (h : l.Balanced known) {id : String} (hid : id ∈ l.ids) : known id := by
  obtain ⟨operation, hm⟩ := h.exists_request hid
  exact h.named _ hm id rfl

/-- The open operations of a balanced ledger are the registered ids. -/
theorem isOpen_iff (h : l.Balanced known) (hf : l.failed = false) (id : String) :
    l.IsOpen id ↔ id ∈ l.ids := by
  constructor
  · rintro ⟨⟨operation, hasked⟩, hkept, hended⟩
    by_contra hid
    -- an id that is not registered was taken back or ended
    rcases h.closed hf id operation hid hasked with hcomplete | hover
    · exact hkept hcomplete
    · rw [hended] at hover
      cases hover
  · intro hid
    exact ⟨h.exists_request hid, h.kept id hid, h.unended id hid⟩

/-- Messages of no subscription are sent, and ids leave: they are taken back, or the server has
ended them, or a send has failed. -/
theorem follow (h : l.Balanced known) {sent queued quiet : List Message} {gone : List String}
    (hwire : l.wire = sent ++ queued)
    (hwire' : l'.wire = sent ++ quiet ++ (queued ++ gone.map Message.complete))
    (hquiet : ∀ m ∈ quiet, m.id? = none) (hids : ∀ id ∈ l'.ids, id ∈ l.ids)
    (hgone : ∀ id ∈ gone, known id ∧ id ∉ l'.ids)
    (hended : ∀ id ∈ l'.ids, l'.ended id = l.ended id)
    (hover : ∀ id, l.ended id = true → l'.ended id = true)
    (hfailed : l'.failed = false → l.failed = false)
    (hclosed : l'.failed = false → ∀ id ∈ l.ids, id ∉ l'.ids → id ∈ gone ∨ l'.ended id = true) :
    l'.Balanced known := by
  -- what is on the wire afterwards was there before, or belongs to nobody, or takes an id back
  have hmem {m : Message} (hm : m ∈ l'.wire) :
      m ∈ l.wire ∨ m.id? = none ∨ ∃ id ∈ gone, m = .complete id := by
    rw [hwire'] at hm
    rw [hwire]
    simp only [List.mem_append, List.mem_map] at hm ⊢
    rcases hm with (hm | hm) | hm | ⟨id, hid, rfl⟩
    · exact Or.inl (Or.inl hm)
    · exact Or.inr (Or.inl (hquiet m hm))
    · exact Or.inl (Or.inr hm)
    · exact Or.inr (Or.inr ⟨id, hid, rfl⟩)
  have hstays {m : Message} (hm : m ∈ l.wire) : m ∈ l'.wire := by
    rw [hwire] at hm
    rw [hwire']
    simp only [List.mem_append] at hm ⊢
    rcases hm with hm | hm
    · exact Or.inl (Or.inl hm)
    · exact Or.inr (Or.inl hm)
  constructor
  case asked =>
    intro id hid
    have hquiet0 : quiet.countP (Message.asksFor id) = 0 :=
      countP_asksFor_eq_zero fun m hm => Message.asksFor_of_id?_eq_none (hquiet m hm) id
    have hgone0 : (gone.map Message.complete).countP (Message.asksFor id) = 0 := by
      apply countP_asksFor_eq_zero
      intro m hm
      obtain ⟨i, -, rfl⟩ := List.mem_map.1 hm
      rfl
    have hold := h.asked id (hids id hid)
    rw [hwire, List.countP_append] at hold
    rw [hwire', List.countP_append, List.countP_append, List.countP_append, hquiet0, hgone0]
    exact hold
  case kept =>
    intro id hid hm
    rcases hmem hm with hm | hnone | ⟨i, hi, heq⟩
    · exact h.kept id (hids id hid) hm
    · cases hnone
    · cases heq
      exact (hgone id hi).2 hid
  case unended =>
    intro id hid
    rw [hended id hid]
    exact h.unended id (hids id hid)
  case closed =>
    intro hf id operation hid hm
    have hold : Message.subscribe id operation ∈ l.wire := by
      rcases hmem hm with hm | hnone | ⟨i, -, heq⟩
      · exact hm
      · cases hnone
      · cases heq
    by_cases hreg : id ∈ l.ids
    · rcases hclosed hf id hreg hid with hi | hi
      · left
        rw [hwire']
        simp [hi]
      · exact Or.inr hi
    · rcases h.closed (hfailed hf) id operation hreg hold with hc | hc
      · exact Or.inl (hstays hc)
      · exact Or.inr (hover id hc)
  case named =>
    intro m hm id hid
    rcases hmem hm with hm | hnone | ⟨i, hi, rfl⟩
    · exact h.named m hm id hid
    · rw [hnone] at hid
      cases hid
    · obtain rfl := Option.some.inj hid
      exact (hgone _ hi).1
  case plain =>
    intro m hm id hid
    rcases hmem hm with hm | hnone | ⟨i, hi, rfl⟩
    · exact h.plain m hm id hid
    · rw [hnone] at hid
      cases hid
    · obtain rfl := Option.some.inj hid
      exact Or.inr rfl

/-- Ids leave: they are taken back, or the server has ended them, or a send has failed. -/
theorem leave (h : l.Balanced known) {gone : List String}
    (hwire : l'.wire = l.wire ++ gone.map Message.complete) (hids : ∀ id ∈ l'.ids, id ∈ l.ids)
    (hgone : ∀ id ∈ gone, known id ∧ id ∉ l'.ids)
    (hended : ∀ id ∈ l'.ids, l'.ended id = l.ended id)
    (hover : ∀ id, l.ended id = true → l'.ended id = true)
    (hfailed : l'.failed = false → l.failed = false)
    (hclosed : l'.failed = false → ∀ id ∈ l.ids, id ∉ l'.ids → id ∈ gone ∨ l'.ended id = true) :
    l'.Balanced known :=
  h.follow (List.append_nil _).symm (by rw [hwire, List.append_nil, List.nil_append])
    (fun _ hm => absurd hm List.not_mem_nil) hids hgone hended hover hfailed hclosed

/-- Registered ids leave and are taken back. -/
theorem takeBack (h : l.Balanced known) {gone : List String} (hgone : ∀ id ∈ gone, id ∈ l.ids)
    (hids : ∀ id, id ∈ l'.ids ↔ id ∈ l.ids ∧ id ∉ gone)
    (hwire : l'.wire = l.wire ++ gone.map Message.complete)
    (hended : ∀ id, l'.ended id = l.ended id) (hfailed : l'.failed = l.failed) :
    l'.Balanced known := by
  refine h.leave hwire (fun id hid => ((hids id).1 hid).1) (fun id hid => ?_)
    (fun id _ => hended id) (fun id hid => (hended id).trans hid) (fun hf => hfailed ▸ hf)
    fun _ id hid hnot => Or.inl ?_
  · exact ⟨h.known_of_mem (hgone id hid), fun hin => ((hids id).1 hin).2 hid⟩
  · by_contra hstays
    exact hnot ((hids id).2 ⟨hid, hstays⟩)

/-- An id is taken back, if it was registered. -/
theorem takeBackOne (h : l.Balanced known) {id : String}
    (hids : ∀ i, i ∈ l'.ids ↔ i ∈ l.ids ∧ i ≠ id)
    (hwire : l'.wire = l.wire ++ (if id ∈ l.ids then [id] else []).map Message.complete)
    (hended : ∀ i, l'.ended i = l.ended i) (hfailed : l'.failed = l.failed) :
    l'.Balanced known := by
  have hgone {i : String} : i ∈ (if id ∈ l.ids then [id] else []) ↔ i = id ∧ i ∈ l.ids := by
    by_cases hreg : id ∈ l.ids
    · rw [if_pos hreg, List.mem_singleton]
      exact ⟨fun heq => ⟨heq, heq ▸ hreg⟩, And.left⟩
    · rw [if_neg hreg]
      exact iff_of_false List.not_mem_nil fun h => hreg (h.1 ▸ h.2)
  refine h.takeBack (fun i hi => (hgone.1 hi).2) (fun i => ?_) hwire hended hfailed
  rw [hids, hgone]
  exact and_congr_right fun hi => ⟨fun hne h => hne h.1, fun hnot heq => hnot ⟨heq, hi⟩⟩

/-- A new id is asked for. -/
theorem ask (h : l.Balanced known) {known' : String → Prop} {id : String} {operation : Operation}
    (hknown : ∀ i, known i → known' i) (hid : known' id) (hnew : ¬ known id)
    (hids : ∀ i, i ∈ l'.ids ↔ i = id ∨ i ∈ l.ids)
    (hwire : l'.wire = l.wire ++ [.subscribe id operation])
    (hended : ∀ i, l'.ended i = (!(id == i) && l.ended i)) (hfailed : l'.failed = l.failed) :
    l'.Balanced known' := by
  -- nothing on the wire names the new id
  have hunnamed {m : Message} (hm : m ∈ l.wire) : m.id? ≠ some id := fun heq =>
    hnew (h.named m hm id heq)
  constructor
  case asked =>
    intro i hi
    rw [hwire, List.countP_append, List.countP_singleton]
    by_cases hii : id = i
    · have hnone : l.wire.countP (Message.asksFor i) = 0 := by
        apply countP_asksFor_eq_zero
        intro m hm
        cases hasks : m.asksFor i with
        | false => rfl
        | true =>
          obtain ⟨op, rfl⟩ := Message.asksFor_iff.1 hasks
          exact absurd (by rw [hii]; rfl) (hunnamed hm)
      rw [hnone]
      simp [Message.asksFor, hii]
    · have hold : i ∈ l.ids := ((hids i).1 hi).resolve_left (Ne.symm hii)
      rw [h.asked i hold]
      simp [Message.asksFor, hii]
  case kept =>
    intro i hi hm
    rw [hwire, List.mem_append] at hm
    rcases hm with hm | hm
    · rcases (hids i).1 hi with rfl | hold
      · exact hunnamed hm rfl
      · exact h.kept i hold hm
    · cases List.mem_singleton.1 hm
  case unended =>
    intro i hi
    rw [hended]
    rcases (hids i).1 hi with rfl | hold
    · simp
    · rw [h.unended i hold, Bool.and_false]
  case closed =>
    intro hf i op hi hm
    have hne : i ≠ id := fun heq => hi ((hids i).2 (Or.inl heq))
    have hold : i ∉ l.ids := fun hmem => hi ((hids i).2 (Or.inr hmem))
    rw [hwire, List.mem_append] at hm
    rcases hm with hm | hm
    · rcases h.closed (hfailed ▸ hf) i op hold hm with hc | hc
      · left
        rw [hwire]
        exact List.mem_append_left _ hc
      · right
        rw [hended, hc]
        simpa using Ne.symm hne
    · cases List.mem_singleton.1 hm
      exact absurd rfl hne
  case named =>
    intro m hm i hi
    rw [hwire, List.mem_append] at hm
    rcases hm with hm | hm
    · exact hknown i (h.named m hm i hi)
    · rw [List.mem_singleton.1 hm] at hi
      cases hi
      exact hid
  case plain =>
    intro m hm i hi
    rw [hwire, List.mem_append] at hm
    rcases hm with hm | hm
    · exact h.plain m hm i hi
    · obtain rfl := List.mem_singleton.1 hm
      obtain rfl := Option.some.inj hi
      exact Or.inl (Message.asksFor_iff.2 ⟨operation, rfl⟩)

/-- A ledger whose ids are known by more. -/
theorem weaken (h : l.Balanced known) {known' : String → Prop}
    (hknown : ∀ i, known i → known' i) : l.Balanced known' :=
  ⟨h.asked, h.kept, h.unended, h.closed, fun m hm id hid => hknown id (h.named m hm id hid),
    h.plain⟩

/-- What waits behind the request for a registered id does not name the id. -/
theorem id?_ne (h : l.Balanced known) {sent queue : List Message} (hwire : l.wire = sent ++ queue)
    {id : String} (hid : id ∈ l.ids) (hsent : ∃ m ∈ sent, m.asksFor id = true) {m : Message}
    (hm : m ∈ queue) : m.id? ≠ some id := by
  intro heq
  have hmem : m ∈ l.wire := by
    rw [hwire]
    exact List.mem_append_right _ hm
  rcases h.plain m hmem id heq with hasks | rfl
  · have hone := h.asked id hid
    have hfirst : 0 < sent.countP (Message.asksFor id) := List.countP_pos_iff.2 hsent
    have hsecond : 0 < queue.countP (Message.asksFor id) := List.countP_pos_iff.2 ⟨m, hm, hasks⟩
    rw [hwire, List.countP_append] at hone
    omega
  · exact h.kept id hid hmem

end Balanced

/-! ## Everything is asked for again -/

/-- The messages that ask for ids, as far as their operations are known. -/
def requests (operation? : String → Option Operation) (ids : List String) : List Message :=
  ids.filterMap fun id => (operation? id).map (Message.subscribe id)

variable {operation? : String → Option Operation} {ids : List String}

theorem mem_requests {m : Message} : m ∈ requests operation? ids ↔
    ∃ id ∈ ids, ∃ operation, operation? id = some operation ∧ m = .subscribe id operation := by
  unfold requests
  rw [List.mem_filterMap]
  constructor
  · rintro ⟨id, hid, hm⟩
    obtain ⟨operation, hop, rfl⟩ := Option.map_eq_some_iff.1 hm
    exact ⟨id, hid, operation, hop, rfl⟩
  · rintro ⟨id, hid, operation, hop, rfl⟩
    exact ⟨id, hid, by rw [hop]; rfl⟩

/-- Every id is asked for as often as it is listed. -/
theorem countP_requests (hop : ∀ id ∈ ids, (operation? id).isSome = true) (id : String) :
    (requests operation? ids).countP (Message.asksFor id) = ids.count id := by
  induction ids with
  | nil => rfl
  | cons i rest ih =>
    obtain ⟨operation, hi⟩ := Option.isSome_iff_exists.1 (hop i (List.mem_cons_self ..))
    have hrest := ih fun j hj => hop j (List.mem_cons_of_mem _ hj)
    unfold requests at hrest ⊢
    rw [List.filterMap_cons_some (by rw [hi]; rfl), List.countP_cons, List.count_cons, hrest]
    rfl

/-- After messages of no subscription everything registered is asked for. -/
theorem balanced_replay {known : String → Prop} {l : Ledger} {sent : List Message}
    (hwire : l.wire = sent ++ requests operation? l.ids) (hsent : ∀ m ∈ sent, m.id? = none)
    (hnodup : l.ids.Nodup) (hop : ∀ id ∈ l.ids, (operation? id).isSome = true)
    (hended : ∀ id ∈ l.ids, l.ended id = false) (hknown : ∀ id ∈ l.ids, known id) :
    l.Balanced known := by
  have hmem {m : Message} (hm : m ∈ l.wire) :
      m.id? = none ∨ ∃ id ∈ l.ids, ∃ operation, m = .subscribe id operation := by
    rw [hwire, List.mem_append] at hm
    rcases hm with hm | hm
    · exact Or.inl (hsent m hm)
    · obtain ⟨id, hid, operation, -, rfl⟩ := mem_requests.1 hm
      exact Or.inr ⟨id, hid, operation, rfl⟩
  constructor
  case asked =>
    intro id hid
    have hsent0 : sent.countP (Message.asksFor id) = 0 :=
      countP_asksFor_eq_zero fun m hm => Message.asksFor_of_id?_eq_none (hsent m hm) id
    rw [hwire, List.countP_append, hsent0, countP_requests hop, Nat.zero_add]
    exact List.count_eq_one_of_mem hnodup hid
  case kept =>
    intro id hid hm
    rcases hmem hm with hnone | ⟨i, -, operation, heq⟩
    · cases hnone
    · cases heq
  case unended => exact hended
  case closed =>
    intro hf id operation hid hm
    rcases hmem hm with hnone | ⟨i, hi, op, heq⟩
    · cases hnone
    · cases heq
      exact absurd hi hid
  case named =>
    intro m hm id hid
    rcases hmem hm with hnone | ⟨i, hi, op, rfl⟩
    · rw [hnone] at hid
      cases hid
    · cases hid
      exact hknown _ hi
  case plain =>
    intro m hm id hid
    rcases hmem hm with hnone | ⟨i, hi, op, rfl⟩
    · rw [hnone] at hid
      cases hid
    · obtain rfl := Option.some.inj hid
      exact Or.inl (Message.asksFor_iff.2 ⟨op, rfl⟩)

end Ledger

end LiveQuery
