import LiveQuery.Proofs.Roster
import LiveQuery.Session.Basic

/-!
# What the operations of a session keep

A session is coherent if its fields fit its phase (`Session.Coherent`): nothing is registered
before the start, what is registered waits in order while the session connects, and there is an
outgoing queue exactly while it is acknowledged. Every operation keeps this. The equations beside
each operation say what it does to every field, so that no later proof opens its definition. An
id that is taken back was registered, is forgotten, and is taken back once (`Session.Trims`).
-/

namespace LiveQuery

/-! ## Items among effects -/

/-- The item that an effect has for a consumer. -/
def Effect.item? (consumer : Nat) : Effect → Option Item
  | .deliver c item => if c = consumer then some item else none
  | .resolve .. => none

/-- The items for a consumer among effects, in order. -/
def Effect.itemsFor (effects : List Effect) (consumer : Nat) : List Item :=
  effects.filterMap (Effect.item? consumer)

namespace Effect

@[simp] theorem itemsFor_nil (n : Nat) : itemsFor [] n = [] := rfl

@[simp] theorem itemsFor_append (as bs : List Effect) (n : Nat) :
    itemsFor (as ++ bs) n = itemsFor as n ++ itemsFor bs n := List.filterMap_append

theorem itemsFor_cons (a : Effect) (as : List Effect) (n : Nat) :
    itemsFor (a :: as) n = (a.item? n).toList ++ itemsFor as n := by
  unfold itemsFor
  cases h : a.item? n with
  | none => rw [List.filterMap_cons_none h]; rfl
  | some item => rw [List.filterMap_cons_some h]; rfl

@[simp] theorem itemsFor_resolve (handshakes : List Nat) (result : HandshakeOutcome) (n : Nat) :
    itemsFor (handshakes.map fun h => resolve h result) n = [] := by
  induction handshakes with
  | nil => rfl
  | cons h rest ih => rw [List.map_cons, itemsFor_cons, ih]; rfl

@[simp] theorem itemsFor_deliver (entries : List Roster.Entry) (item : Item) (n : Nat) :
    itemsFor (entries.map fun e => deliver e.consumer item) n =
      (entries.filter (·.consumer == n)).map fun _ => item := by
  induction entries with
  | nil => rfl
  | cons e rest ih =>
    rw [List.map_cons, itemsFor_cons, ih]
    by_cases h : e.consumer = n
    · simp [item?, h]
    · simp [item?, h]

end Effect

namespace Session

variable (s : Session) (listening : Nat → Bool)

/-! ## What each operation does to each field -/

@[simp] theorem moveTo_phase (p : Phase) : (s.moveTo p).phase = p := by
  unfold moveTo
  split
  · assumption
  · rfl

@[simp] theorem moveTo_epoch (p : Phase) : (s.moveTo p).epoch = s.epoch := by
  unfold moveTo; split <;> rfl

@[simp] theorem moveTo_pending (p : Phase) : (s.moveTo p).pending = s.pending := by
  unfold moveTo; split <;> rfl

@[simp] theorem moveTo_roster (p : Phase) : (s.moveTo p).roster = s.roster := by
  unfold moveTo; split <;> rfl

@[simp] theorem moveTo_outgoing (p : Phase) : (s.moveTo p).outgoing = s.outgoing := by
  unfold moveTo; split <;> rfl

@[simp] theorem moveTo_handshakes (p : Phase) : (s.moveTo p).handshakes = s.handshakes := by
  unfold moveTo; split <;> rfl

theorem sendAll_eq (ms : List Message) :
    s.sendAll ms = { s with outgoing := s.outgoing.map (· ++ ms) } := by
  induction ms generalizing s with
  | nil => cases h : s.outgoing <;> simp [sendAll] <;> rw [← h]
  | cons m rest ih =>
    have hcons : s.sendAll (m :: rest) = (s.send m).sendAll rest := rfl
    rw [hcons, ih]
    cases h : s.outgoing <;> simp [send, h]

/-- The ids that a pruning forgets, in the order of their subscriptions. -/
def forgotten : List String := (s.roster.prune listening).1

/-- What a pruning appends to the outgoing queue. -/
def farewells : List Message :=
  if s.phase = .acknowledged then (s.forgotten listening).map .complete else []

theorem prune_eq : s.prune listening =
    { s with
      roster := (s.roster.prune listening).2
      pending := s.pending.filter fun id => !(s.forgotten listening).contains id
      outgoing := s.outgoing.map (· ++ s.farewells listening) } := by
  unfold prune farewells
  simp only [forgotten]
  split
  · rw [sendAll_eq]
  · cases h : s.outgoing <;> simp

@[simp] theorem prune_phase : (s.prune listening).phase = s.phase := by rw [prune_eq]

@[simp] theorem prune_epoch : (s.prune listening).epoch = s.epoch := by rw [prune_eq]

@[simp] theorem prune_handshakes : (s.prune listening).handshakes = s.handshakes := by
  rw [prune_eq]

@[simp] theorem prune_roster : (s.prune listening).roster = (s.roster.prune listening).2 := by
  rw [prune_eq]

@[simp] theorem prune_outgoing : (s.prune listening).outgoing =
    s.outgoing.map (· ++ s.farewells listening) := by
  rw [prune_eq]

theorem prune_pending : (s.prune listening).pending =
    s.pending.filter fun id => !(s.forgotten listening).contains id := by
  rw [prune_eq]

section Start

variable (handshake : Nat)

@[simp] theorem start_phase : (s.start handshake).phase = .connecting := moveTo_phase _ _

@[simp] theorem start_epoch : (s.start handshake).epoch = s.epoch + 1 := moveTo_epoch _ _

@[simp] theorem start_pending : (s.start handshake).pending = s.pending := moveTo_pending _ _

@[simp] theorem start_roster : (s.start handshake).roster = s.roster := moveTo_roster _ _

@[simp] theorem start_outgoing : (s.start handshake).outgoing = s.outgoing := moveTo_outgoing _ _

end Start

section Subscribe

variable (id : String) (operation : Operation) (consumer : Nat)

theorem subscribe_eq : s.subscribe listening id operation consumer =
    { s with
      roster := (s.roster.prune listening).2.insert id operation consumer
      pending := if s.phase = .acknowledged then (s.prune listening).pending
        else (s.prune listening).pending ++ [id]
      outgoing := if s.phase = .acknowledged then
          s.outgoing.map (· ++ (s.farewells listening ++ [.subscribe id operation]))
        else s.outgoing.map (· ++ s.farewells listening) } := by
  unfold subscribe
  by_cases h : s.phase = .acknowledged
  · cases hq : s.outgoing <;> simp [h, hq, prune_eq, send]
  · simp [h, prune_eq]

@[simp] theorem subscribe_phase :
    (s.subscribe listening id operation consumer).phase = s.phase := by rw [subscribe_eq]

@[simp] theorem subscribe_epoch :
    (s.subscribe listening id operation consumer).epoch = s.epoch := by rw [subscribe_eq]

@[simp] theorem subscribe_handshakes :
    (s.subscribe listening id operation consumer).handshakes = s.handshakes := by
  rw [subscribe_eq]

@[simp] theorem subscribe_roster : (s.subscribe listening id operation consumer).roster =
    (s.roster.prune listening).2.insert id operation consumer := by
  rw [subscribe_eq]

theorem subscribe_pending : (s.subscribe listening id operation consumer).pending =
    if s.phase = .acknowledged then (s.prune listening).pending
    else (s.prune listening).pending ++ [id] := by
  rw [subscribe_eq]

theorem subscribe_outgoing : (s.subscribe listening id operation consumer).outgoing =
    if s.phase = .acknowledged then
      s.outgoing.map (· ++ (s.farewells listening ++ [.subscribe id operation]))
    else s.outgoing.map (· ++ s.farewells listening) := by
  rw [subscribe_eq]

variable {s listening id operation consumer}

/-- In an acknowledged session those whose consumer is gone are taken back before the new
subscription is asked for. -/
theorem subscribe_outgoing_of_acknowledged (h : s.phase = .acknowledged) :
    (s.subscribe listening id operation consumer).outgoing = s.outgoing.map
      (· ++ ((s.forgotten listening).map .complete ++ [.subscribe id operation])) := by
  rw [subscribe_outgoing, if_pos h, farewells, if_pos h]

theorem mem_ids_subscribe {other : String} :
    other ∈ (s.subscribe listening id operation consumer).roster.ids ↔
      other = id ∨ other ∈ (s.prune listening).roster.ids := by
  rw [subscribe_roster, prune_roster, Roster.mem_ids_insert]

end Subscribe

section Cancel

variable (id : String)

theorem cancel_of_unknown (h : s.roster.find? id = none) : s.cancel id = s := by
  unfold cancel
  rw [h]

theorem cancel_of_registered {e : Roster.Entry} (h : s.roster.find? id = some e) : s.cancel id =
    { s with
      roster := s.roster.erase id
      pending := if s.phase = .connecting then s.pending.filter (· != id) else s.pending
      outgoing := if s.phase = .acknowledged then s.outgoing.map (· ++ [.complete id])
        else s.outgoing } := by
  unfold cancel
  rw [h]
  cases hp : s.phase <;> simp [send]

@[simp] theorem cancel_phase : (s.cancel id).phase = s.phase := by
  cases h : s.roster.find? id with
  | none => rw [cancel_of_unknown s id h]
  | some e => rw [cancel_of_registered s id h]

@[simp] theorem cancel_epoch : (s.cancel id).epoch = s.epoch := by
  cases h : s.roster.find? id with
  | none => rw [cancel_of_unknown s id h]
  | some e => rw [cancel_of_registered s id h]

@[simp] theorem cancel_roster : (s.cancel id).roster = s.roster.erase id := by
  cases h : s.roster.find? id with
  | none => rw [cancel_of_unknown s id h, Roster.erase_of_find?_eq_none h]
  | some e => rw [cancel_of_registered s id h]

/-- The server is told only of an id that it knows of. -/
theorem cancel_outgoing : (s.cancel id).outgoing = s.outgoing.map
    (· ++ if id ∈ s.roster.ids ∧ s.phase = .acknowledged then [.complete id] else []) := by
  cases h : s.roster.find? id with
  | none =>
    rw [cancel_of_unknown s id h, if_neg fun hreg => Roster.find?_eq_none_iff.1 h hreg.1]
    simp
  | some e =>
    have hreg : id ∈ s.roster.ids := Roster.id_of_find? h ▸ Roster.ids_of_mem (Roster.mem_of_find? h)
    rw [cancel_of_registered s id h]
    by_cases hp : s.phase = .acknowledged
    · simp only [if_pos hp, if_pos (And.intro hreg hp)]
    · simp only [if_neg hp, if_neg fun h : id ∈ s.roster.ids ∧ _ => hp h.2]
      simp

theorem cancel_outgoing_of_acknowledged (h : s.phase = .acknowledged) :
    (s.cancel id).outgoing = s.outgoing.map
      (· ++ (if id ∈ s.roster.ids then [id] else []).map .complete) := by
  rw [cancel_outgoing]
  by_cases hreg : id ∈ s.roster.ids <;> simp [hreg, h]

end Cancel

section Terminate

variable (error : ConnectionError)

@[simp] theorem terminate_phase : (s.terminate error).1.phase = .notStarted := moveTo_phase _ _

@[simp] theorem terminate_epoch : (s.terminate error).1.epoch = s.epoch := moveTo_epoch _ _

@[simp] theorem terminate_pending : (s.terminate error).1.pending = [] := moveTo_pending _ _

@[simp] theorem terminate_roster :
    (s.terminate error).1.roster = { s.roster with entries := [] } := moveTo_roster _ _

@[simp] theorem terminate_outgoing : (s.terminate error).1.outgoing = none := moveTo_outgoing _ _

@[simp] theorem terminate_handshakes : (s.terminate error).1.handshakes = [] :=
  moveTo_handshakes _ _

/-- Every registered subscription gets the error. -/
theorem terminate_items (n : Nat) : Effect.itemsFor (s.terminate error).2 n =
    (s.roster.inOrder.filter (·.consumer == n)).map fun _ => .error (.connection error) := by
  simp only [terminate, Roster.takeAll, Effect.itemsFor_append, Effect.itemsFor_deliver,
    Effect.itemsFor_resolve, List.append_nil]

end Terminate

section Acknowledge

variable (payload : Option Json.Members)

@[simp] theorem acknowledge_phase :
    (s.acknowledge listening payload).1.phase = .acknowledged := by
  simp [acknowledge, sendAll_eq]

@[simp] theorem acknowledge_epoch : (s.acknowledge listening payload).1.epoch = s.epoch := by
  simp [acknowledge, sendAll_eq]

@[simp] theorem acknowledge_pending : (s.acknowledge listening payload).1.pending = [] := rfl

@[simp] theorem acknowledge_handshakes :
    (s.acknowledge listening payload).1.handshakes = [] := rfl

@[simp] theorem acknowledge_roster : (s.acknowledge listening payload).1.roster =
    (s.roster.prune listening).2 := by
  simp [acknowledge, sendAll_eq]

@[simp] theorem acknowledge_outgoing : (s.acknowledge listening payload).1.outgoing =
    some (s.prune listening).waitingMessages := by
  simp [acknowledge, sendAll_eq]

@[simp] theorem acknowledge_items (n : Nat) :
    Effect.itemsFor (s.acknowledge listening payload).2 n = [] := Effect.itemsFor_resolve _ _ n

end Acknowledge

@[simp] theorem suspend_phase : (s.suspend listening).phase = .connecting := by simp [suspend]

@[simp] theorem suspend_epoch : (s.suspend listening).epoch = s.epoch := by simp [suspend]

@[simp] theorem suspend_handshakes : (s.suspend listening).handshakes = s.handshakes := by
  simp [suspend]

@[simp] theorem suspend_roster :
    (s.suspend listening).roster = (s.roster.prune listening).2 := by
  simp [suspend]

@[simp] theorem suspend_pending :
    (s.suspend listening).pending = (s.roster.prune listening).2.ids := by
  simp [suspend]

@[simp] theorem suspend_outgoing : (s.suspend listening).outgoing = none := by simp [suspend]

section Route

variable (id : String) (item : Item)

/-- Does the session tell the server that nobody listens to an id any more? -/
def dismisses (item : Item) : Bool :=
  (s.roster.route listening id item.isLast).1 = .abandoned

theorem dismisses_iff : s.dismisses listening id item = true ↔
    ∃ e, s.roster.find? id = some e ∧ item.isLast = false ∧ listening e.consumer = false := by
  unfold dismisses Roster.route
  cases s.roster.find? id with
  | none => simp
  | some e => cases item.isLast <;> cases hl : listening e.consumer <;> simp [hl]

theorem route_eq : (s.route listening id item).1 =
    { s with
      roster := (s.roster.route listening id item.isLast).2
      outgoing := if s.dismisses listening id item then s.outgoing.map (· ++ [.complete id])
        else s.outgoing } := by
  unfold route dismisses
  simp only [decide_eq_true_eq]
  split <;> rfl

@[simp] theorem route_phase : (s.route listening id item).1.phase = s.phase := by rw [route_eq]

@[simp] theorem route_epoch : (s.route listening id item).1.epoch = s.epoch := by rw [route_eq]

@[simp] theorem route_handshakes : (s.route listening id item).1.handshakes = s.handshakes := by
  rw [route_eq]

@[simp] theorem route_pending : (s.route listening id item).1.pending = s.pending := by
  rw [route_eq]

/-- An id stays registered only if it takes the item and the item is not the last one. -/
theorem route_roster : (s.route listening id item).1.roster =
    if (s.roster.find? id).all (fun e => !item.isLast && listening e.consumer) then s.roster
    else s.roster.erase id := by
  rw [route_eq]
  simp only [Roster.route]
  cases s.roster.find? id with
  | none => rfl
  | some e => cases item.isLast <;> cases hl : listening e.consumer <;> simp [hl]

/-- An id leaves with its last item, or because nobody listens any more. -/
theorem mem_ids_route {i : String} : i ∈ (s.route listening id item).1.roster.ids ↔
    i ∈ s.roster.ids ∧
      (i = id → item.isLast = false ∧ s.dismisses listening id item = false) := by
  rw [route_roster]
  cases hf : s.roster.find? id with
  | none =>
    have hnot := Roster.find?_eq_none_iff.1 hf
    simp only [Option.all_none, if_true]
    exact ⟨fun hi => ⟨hi, fun heq => absurd (heq ▸ hi) hnot⟩, fun hi => hi.1⟩
  | some entry =>
    simp only [Option.all_some, dismisses, Roster.route, hf]
    cases hlast : item.isLast with
    | true => simp [Roster.ids_erase]
    | false =>
      by_cases hl : listening entry.consumer = true
      · simp [hl]
      · simp [hl, Roster.ids_erase]

@[simp] theorem route_outgoing : (s.route listening id item).1.outgoing =
    if s.dismisses listening id item then s.outgoing.map (· ++ [.complete id])
    else s.outgoing := by
  rw [route_eq]

theorem route_items (n : Nat) : Effect.itemsFor (s.route listening id item).2 n =
    ((s.roster.find? id).filter (·.consumer == n)).toList.map fun _ => item := by
  simp only [route]
  cases s.roster.find? id with
  | none => rfl
  | some e =>
    by_cases h : e.consumer = n <;> simp [Effect.itemsFor_cons, Effect.item?, h, Option.filter]

end Route

section EndOne

variable (id : String) (error : SubscribeError) (notify : Bool)

theorem endOne_of_unknown (h : s.roster.find? id = none) : s.endOne id error notify = (s, []) := by
  unfold endOne
  rw [h]

theorem endOne_of_registered {e : Roster.Entry} (h : s.roster.find? id = some e) :
    (s.endOne id error notify).1 =
      { s with
        roster := s.roster.erase id
        outgoing := if notify = true ∧ s.phase = .acknowledged then
            s.outgoing.map (· ++ [.complete id])
          else s.outgoing } := by
  unfold endOne
  rw [h]
  simp only [Bool.and_eq_true, decide_eq_true_eq]
  split <;> simp [send]

@[simp] theorem endOne_phase : (s.endOne id error notify).1.phase = s.phase := by
  cases h : s.roster.find? id with
  | none => rw [endOne_of_unknown s id error notify h]
  | some e => rw [endOne_of_registered s id error notify h]

@[simp] theorem endOne_epoch : (s.endOne id error notify).1.epoch = s.epoch := by
  cases h : s.roster.find? id with
  | none => rw [endOne_of_unknown s id error notify h]
  | some e => rw [endOne_of_registered s id error notify h]

@[simp] theorem endOne_handshakes : (s.endOne id error notify).1.handshakes = s.handshakes := by
  cases h : s.roster.find? id with
  | none => rw [endOne_of_unknown s id error notify h]
  | some e => rw [endOne_of_registered s id error notify h]

@[simp] theorem endOne_pending : (s.endOne id error notify).1.pending = s.pending := by
  cases h : s.roster.find? id with
  | none => rw [endOne_of_unknown s id error notify h]
  | some e => rw [endOne_of_registered s id error notify h]

@[simp] theorem endOne_roster : (s.endOne id error notify).1.roster = s.roster.erase id := by
  cases h : s.roster.find? id with
  | none => rw [endOne_of_unknown s id error notify h, Roster.erase_of_find?_eq_none h]
  | some e => rw [endOne_of_registered s id error notify h]

/-- The server is told, if it is told at all, of an id that it knows of. -/
theorem endOne_outgoing : (s.endOne id error notify).1.outgoing = s.outgoing.map
    (· ++ if id ∈ s.roster.ids ∧ notify = true ∧ s.phase = .acknowledged then [.complete id]
      else []) := by
  cases h : s.roster.find? id with
  | none =>
    rw [endOne_of_unknown s id error notify h,
      if_neg fun hreg => Roster.find?_eq_none_iff.1 h hreg.1]
    simp
  | some e =>
    have hreg : id ∈ s.roster.ids := Roster.id_of_find? h ▸ Roster.ids_of_mem (Roster.mem_of_find? h)
    rw [endOne_of_registered s id error notify h]
    by_cases hp : notify = true ∧ s.phase = .acknowledged
    · simp only [if_pos hp, if_pos (And.intro hreg hp)]
    · simp only [if_neg hp, if_neg fun h : id ∈ s.roster.ids ∧ _ => hp h.2]
      simp

theorem endOne_outgoing_of_acknowledged (h : s.phase = .acknowledged) :
    (s.endOne id error true).1.outgoing = s.outgoing.map
      (· ++ (if id ∈ s.roster.ids then [id] else []).map .complete) := by
  rw [endOne_outgoing]
  by_cases hreg : id ∈ s.roster.ids <;> simp [hreg, h]

/-- Without a word to the server nothing is queued. -/
theorem endOne_outgoing_silent : (s.endOne id error false).1.outgoing = s.outgoing := by
  simp [endOne_outgoing]

theorem endOne_items (n : Nat) : Effect.itemsFor (s.endOne id error notify).2 n =
    ((s.roster.find? id).filter (·.consumer == n)).toList.map fun _ => .error error := by
  unfold endOne
  cases s.roster.find? id with
  | none => rfl
  | some e =>
    by_cases h : e.consumer = n <;> simp [Effect.itemsFor_cons, Effect.item?, h, Option.filter]

end EndOne

/-- Taking the first message off the queue touches nothing else. -/
theorem nextOutgoing_eq_some {s s' : Session} {m : Message}
    (h : s.nextOutgoing = some (m, s')) :
    ∃ rest, s.outgoing = some (m :: rest) ∧ s' = { s with outgoing := some rest } := by
  unfold nextOutgoing at h
  split at h
  · rename_i m' rest hq
    simp only [Option.some.injEq, Prod.mk.injEq] at h
    obtain ⟨rfl, rfl⟩ := h
    exact ⟨rest, hq, rfl⟩
  · simp at h

theorem nextOutgoing_eq_none {s : Session} (h : s.nextOutgoing = none) :
    s.outgoing.getD [] = [] := by
  unfold nextOutgoing at h
  cases hq : s.outgoing with
  | none => rfl
  | some q =>
    cases q with
    | nil => rfl
    | cons m rest => simp [hq] at h

/-! ## Coherent sessions -/

/-- The fields of a session fit its phase. -/
structure Coherent : Prop where
  roster : s.roster.WellFormed
  idle : s.phase = .notStarted → s.roster.entries = [] ∧ s.pending = [] ∧ s.handshakes = []
  waiting : s.phase = .connecting → s.pending = s.roster.ids
  served : s.phase = .acknowledged → s.pending = [] ∧ s.handshakes = []
  queue : s.outgoing.isSome = true ↔ s.phase = .acknowledged

theorem coherent_empty : Coherent {} where
  roster := Roster.wellFormed_empty
  idle := fun _ => ⟨rfl, rfl, rfl⟩
  waiting := nofun
  served := nofun
  queue := ⟨nofun, nofun⟩

namespace Coherent

variable {s listening}

theorem outgoing_eq_none (h : s.Coherent) (hp : s.phase ≠ .acknowledged) : s.outgoing = none := by
  cases hq : s.outgoing with
  | none => rfl
  | some q => exact absurd (h.queue.1 (by rw [hq]; rfl)) hp

theorem start (h : s.Coherent) (hp : s.phase = .notStarted) (handshake : Nat) :
    (s.start handshake).Coherent where
  roster := by rw [start_roster]; exact h.roster
  idle := fun hp' => by simp at hp'
  waiting := fun _ => by
    obtain ⟨hentries, hpending, -⟩ := h.idle hp
    rw [start_pending, start_roster, hpending, Roster.ids_eq_nil_iff.2 hentries]
  served := fun hp' => by simp at hp'
  queue := by
    rw [start_outgoing, h.outgoing_eq_none (by rw [hp]; nofun)]
    simp

/-- A pruning takes the same ids out of the roster and out of what waits. -/
theorem prune (h : s.Coherent) (listening : Nat → Bool) : (s.prune listening).Coherent where
  roster := by rw [prune_roster]; exact h.roster.prune listening
  idle := fun hp => by
    obtain ⟨hentries, hpending, hhandshakes⟩ := h.idle (by simpa using hp)
    rw [prune_roster, prune_pending, prune_handshakes, Roster.prune, hentries, hpending]
    exact ⟨rfl, rfl, hhandshakes⟩
  waiting := fun hp => by
    rw [prune_pending, prune_roster, h.waiting (by simpa using hp), Roster.ids_prune h.roster]
    rfl
  served := fun hp => by
    obtain ⟨hpending, hhandshakes⟩ := h.served (by simpa using hp)
    rw [prune_pending, prune_handshakes, hpending]
    exact ⟨rfl, hhandshakes⟩
  queue := by
    rw [prune_outgoing, prune_phase, Option.isSome_map]
    exact h.queue

theorem subscribe (h : s.Coherent) (hp : s.phase ≠ .notStarted) (listening : Nat → Bool)
    {id : String} (hid : id ∉ s.roster.ids) (operation : Operation) (consumer : Nat) :
    (s.subscribe listening id operation consumer).Coherent where
  roster := by rw [subscribe_roster]; exact (h.roster.prune listening).insert ..
  idle := fun hp' => absurd (by simpa using hp') hp
  waiting := fun hp' => by
    have hphase : s.phase = .connecting := by simpa using hp'
    have hne : s.phase ≠ .acknowledged := by rw [hphase]; nofun
    have hpending := (h.prune listening).waiting (by simpa using hphase)
    have hkeep : (s.roster.prune listening).2.ids.filter (· != id) =
        (s.roster.prune listening).2.ids := by
      refine List.filter_eq_self.2 fun i hi => ?_
      rw [Roster.ids_prune h.roster] at hi
      have hne : i ≠ id := fun heq => hid (heq ▸ (List.mem_filter.1 hi).1)
      simpa using hne
    rw [subscribe_pending, if_neg hne, hpending, subscribe_roster,
      Roster.ids_insert (h.roster.prune listening), hkeep, prune_roster]
  served := fun hp' => by
    have hphase : s.phase = .acknowledged := by simpa using hp'
    rw [subscribe_pending, if_pos hphase, subscribe_handshakes]
    have hpruned := (h.prune listening).served (by simpa using hphase)
    rwa [prune_handshakes] at hpruned
  queue := by
    rw [subscribe_outgoing, subscribe_phase]
    refine Iff.trans ?_ h.queue
    split <;> rw [Option.isSome_map]

theorem cancel (h : s.Coherent) (id : String) : (s.cancel id).Coherent := by
  cases hf : s.roster.find? id with
  | none => rwa [cancel_of_unknown s id hf]
  | some e =>
    rw [cancel_of_registered s id hf]
    refine ⟨h.roster.erase id, fun hp => ?_, fun hp => ?_, fun hp => ?_, ?_⟩
    · have hnone := (h.idle hp).1
      exact absurd (Roster.mem_of_find? hf) (by rw [hnone]; exact List.not_mem_nil)
    · simp only at hp ⊢
      rw [if_pos hp, h.waiting hp, Roster.ids_erase]
    · obtain ⟨hpending, hhandshakes⟩ := h.served hp
      simp only at hp ⊢
      rw [if_neg (by rw [hp]; nofun), hpending]
      exact ⟨rfl, hhandshakes⟩
    · refine Iff.trans ?_ h.queue
      simp only
      split <;> simp

theorem terminate (s : Session) (hr : s.roster.WellFormed) (error : ConnectionError) :
    (s.terminate error).1.Coherent where
  roster := by rw [terminate_roster]; exact hr.sublist (List.nil_sublist _)
  idle := fun _ => by simp
  waiting := fun hp => by simp at hp
  served := fun hp => by simp at hp
  queue := by simp

theorem acknowledge (h : s.Coherent) (listening : Nat → Bool) (payload : Option Json.Members) :
    (s.acknowledge listening payload).1.Coherent where
  roster := by rw [acknowledge_roster]; exact h.roster.prune listening
  idle := fun hp => by simp at hp
  waiting := fun hp => by simp at hp
  served := fun _ => ⟨rfl, rfl⟩
  queue := by simp

theorem suspend (h : s.Coherent) (listening : Nat → Bool) : (s.suspend listening).Coherent where
  roster := by rw [suspend_roster]; exact h.roster.prune listening
  idle := fun hp => by simp at hp
  waiting := fun _ => by rw [suspend_pending, suspend_roster]
  served := fun hp => by simp at hp
  queue := by simp

/-- While the session is acknowledged nothing waits, so entries may leave the roster. -/
theorem of_acknowledged (h : s.Coherent) (hp : s.phase = .acknowledged) {s' : Session}
    (hr : s'.roster.WellFormed) (hphase : s'.phase = s.phase) (hpending : s'.pending = s.pending)
    (hhandshakes : s'.handshakes = s.handshakes)
    (hqueue : s'.outgoing.isSome = s.outgoing.isSome) : s'.Coherent where
  roster := hr
  idle := fun hp' => by rw [hphase, hp] at hp'; cases hp'
  waiting := fun hp' => by rw [hphase, hp] at hp'; cases hp'
  served := fun _ => by rw [hpending, hhandshakes]; exact h.served hp
  queue := by rw [hqueue, hphase]; exact h.queue

theorem route (h : s.Coherent) (hp : s.phase = .acknowledged) (listening : Nat → Bool)
    (id : String) (item : Item) : (s.route listening id item).1.Coherent := by
  refine h.of_acknowledged hp ?_ (by simp) (by simp) (by simp) ?_
  · rw [route_roster]
    split
    · exact h.roster
    · exact h.roster.erase id
  · rw [route_outgoing]
    split <;> simp

theorem endOne (h : s.Coherent) (hp : s.phase = .acknowledged) (id : String)
    (error : SubscribeError) (notify : Bool) : (s.endOne id error notify).1.Coherent := by
  cases hf : s.roster.find? id with
  | none => rwa [endOne_of_unknown s id error notify hf]
  | some e =>
    refine h.of_acknowledged hp ?_ (by simp) (by simp) (by simp) ?_
    · rw [endOne_roster]
      exact h.roster.erase id
    · rw [endOne_of_registered s id error notify hf]
      simp only
      split <;> simp

end Coherent

/-! ### Ids that are taken back -/

section Trims

/-- Some ids, each once, are no longer registered. -/
structure Dismisses (s s' : Session) (ids : List String) : Prop where
  nodup : ids.Nodup
  before : ∀ id ∈ ids, id ∈ s.roster.ids
  after : ∀ id ∈ ids, id ∉ s'.roster.ids

/-- Nothing new is registered, and exactly the ids that are dismissed are taken back. -/
structure Trims (s s' : Session) : Prop where
  ids : ∀ id ∈ s'.roster.ids, id ∈ s.roster.ids
  outgoing : ∃ ids, s.Dismisses s' ids ∧ s'.outgoing = s.outgoing.map (· ++ ids.map .complete)

variable {s s' : Session} {listening : Nat → Bool} {id : String}

theorem Dismisses.nil (s s' : Session) : s.Dismisses s' [] :=
  ⟨List.nodup_nil, fun _ h => absurd h List.not_mem_nil, fun _ h => absurd h List.not_mem_nil⟩

/-- Nothing is queued. -/
theorem Trims.of_outgoing (hids : ∀ id ∈ s'.roster.ids, id ∈ s.roster.ids)
    (hout : s'.outgoing = s.outgoing) : s.Trims s' :=
  ⟨hids, [], .nil s s', by simp [hout]⟩

theorem Trims.refl (s : Session) : s.Trims s := .of_outgoing (fun _ h => h) rfl

theorem mem_ids_erase {r : Roster} {other : String} :
    other ∈ (r.erase id).ids ↔ other ∈ r.ids ∧ other ≠ id := by
  rw [Roster.ids_erase, List.mem_filter, bne_iff_ne]

/-- A registered id is erased and taken back. -/
theorem Trims.of_erase (hid : id ∈ s.roster.ids) (hroster : s'.roster = s.roster.erase id)
    (hout : s'.outgoing = s.outgoing.map (· ++ [.complete id])) : s.Trims s' := by
  refine ⟨fun other hother => ?_, [id], ⟨List.nodup_singleton id, ?_, ?_⟩, hout⟩
  · rw [hroster] at hother
    exact (mem_ids_erase.1 hother).1
  · intro other hother
    rwa [List.mem_singleton.1 hother]
  · intro other hother hmem
    rw [hroster] at hmem
    exact (mem_ids_erase.1 hmem).2 (List.mem_singleton.1 hother)

/-- A registered id is erased, with a word to the server or without. -/
theorem Trims.of_erase_if {p : Prop} [Decidable p] (hid : id ∈ s.roster.ids)
    (hroster : s'.roster = s.roster.erase id)
    (hout : s'.outgoing = if p then s.outgoing.map (· ++ [.complete id]) else s.outgoing) :
    s.Trims s' := by
  by_cases hp : p
  · rw [if_pos hp] at hout
    exact .of_erase hid hroster hout
  · rw [if_neg hp] at hout
    refine .of_outgoing (fun other hother => ?_) hout
    rw [hroster] at hother
    exact (mem_ids_erase.1 hother).1

theorem mem_ids_of_find? {entry : Roster.Entry} (h : s.roster.find? id = some entry) :
    id ∈ s.roster.ids :=
  Roster.mem_ids.2 ⟨entry, Roster.mem_of_find? h, Roster.id_of_find? h⟩

theorem trims_cancel (s : Session) (id : String) : s.Trims (s.cancel id) := by
  cases h : s.roster.find? id with
  | none =>
    rw [cancel_of_unknown s id h]
    exact .refl s
  | some entry =>
    rw [cancel_of_registered s id h]
    exact .of_erase_if (mem_ids_of_find? h) rfl rfl

theorem trims_endOne (s : Session) (id : String) (error : SubscribeError) (notify : Bool) :
    s.Trims (s.endOne id error notify).1 := by
  cases h : s.roster.find? id with
  | none =>
    rw [endOne_of_unknown s id error notify h]
    exact .refl s
  | some entry =>
    rw [endOne_of_registered s id error notify h]
    exact .of_erase_if (mem_ids_of_find? h) rfl rfl

theorem trims_route (s : Session) (listening : Nat → Bool) (id : String) (item : Item) :
    s.Trims (s.route listening id item).1 := by
  cases hdismisses : s.dismisses listening id item with
  | true =>
    obtain ⟨entry, hentry, hlast, hgone⟩ := (s.dismisses_iff listening id item).1 hdismisses
    apply Trims.of_erase (mem_ids_of_find? hentry)
    · rw [route_roster, hentry, Option.all_some, hlast, hgone]
      rfl
    · rw [route_outgoing, hdismisses]
      rfl
  | false =>
    apply Trims.of_outgoing
    · intro other hother
      rw [route_roster] at hother
      split at hother
      · exact hother
      · exact (mem_ids_erase.1 hother).1
    · rw [route_outgoing, hdismisses]
      rfl

theorem mem_ids_prune {other : String} (h : other ∈ (s.roster.prune listening).2.ids) :
    other ∈ s.roster.ids := by
  obtain ⟨entry, hentry, hid⟩ := Roster.mem_ids.1 h
  exact Roster.mem_ids.2 ⟨entry, (Roster.mem_prune.1 hentry).1, hid⟩

/-- A pruning dismisses those whose consumers are gone. -/
theorem dismisses_prune (hs : s.Coherent) (listening : Nat → Bool) :
    s.Dismisses (s.prune listening) (s.forgotten listening) := by
  constructor
  case nodup =>
    have hgone : (s.roster.entries.filter fun e => !listening e.consumer).Sublist s.roster.entries :=
      List.filter_sublist
    exact (hs.roster.sublist hgone).nodup_ids
  case before =>
    intro other hother
    obtain ⟨entry, hentry, hid, -⟩ := Roster.mem_ids_prune.1 hother
    exact Roster.mem_ids.2 ⟨entry, hentry, hid⟩
  case after =>
    intro other hother hmem
    rw [prune_roster] at hmem
    exact ((Roster.mem_ids_pruned hs.roster).1 hmem).2 hother

/-- A subscription that is taken on dismisses those whose consumers are gone. -/
theorem dismisses_subscribe (hs : s.Coherent) (hnew : id ∉ s.roster.ids) (operation : Operation)
    (consumer : Nat) :
    s.Dismisses (s.subscribe listening id operation consumer) (s.forgotten listening) := by
  have hpruned := dismisses_prune hs listening
  refine ⟨hpruned.nodup, hpruned.before, fun other hother hmem => ?_⟩
  rcases mem_ids_subscribe.1 hmem with rfl | hmem
  · exact hnew (hpruned.before _ hother)
  · exact hpruned.after other hother hmem

end Trims

end Session

end LiveQuery
