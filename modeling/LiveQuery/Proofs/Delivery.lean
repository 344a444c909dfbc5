import LiveQuery.Proofs.Coherence

/-!
# What a turn delivers to one consumer

Every operation on the session delivers at most one item to a consumer, and only to one that the
roster feeds. The entry goes in the same step in which the last item is delivered, and it goes in
no other way while the consumer listens (`Roster.Delivers`). Every turn keeps to this, and delivers
a completion only after it read the server's own (`Agent.Move.delivery`). What an agent reads never
makes it report the loss of its socket.
-/

namespace LiveQuery

/-- Is a connection error the loss of a socket? What the server said, what it did not say in time
and what the caller wanted are none. -/
def ConnectionError.isLoss : ConnectionError → Bool
  | .closed code _ => code.disposition ≠ .fatal
  | .ackTimeout | .badResponse _ | .unexpectedMessage _ | .stopped => false
  | _ => true

/-- Does an item report the loss of a socket? Either the session ended with it, or a message over
the socket could not be sent. -/
def Item.isLoss : Item → Bool
  | .error (.sendFailed _) => true
  | .error (.connection cause) => cause.isLoss
  | _ => false

/-- The item in a message from the server reports no loss. -/
theorem Message.isLoss_of_item? {m : Message} {id : String} {item : Item}
    (h : m.item? = some (id, item)) : item.isLoss = false := by
  cases m with
  | next i result => cases h; rfl
  | error i errors => cases h; rfl
  | complete i => cases h; rfl
  | _ => cases h

namespace Roster

/-- What an operation delivers to a consumer fits what it does to the consumer's entry. -/
structure Delivers (r r' : Roster) (listening : Bool) (n : Nat) (items : List Item) : Prop where
  single : items.length ≤ 1
  fed : items ≠ [] → r.feeds n = true
  kept : r'.feeds n = true → r.feeds n = true
  last : r'.feeds n = true → ∀ item ∈ items, item.isLast = false
  silent : listening = true → r.feeds n = true → r'.feeds n = false →
    ∃ item ∈ items, item.isLast = true

/-- No two entries have one consumer. -/
def Distinct (r : Roster) : Prop :=
  ∀ e ∈ r.entries, ∀ f ∈ r.entries, e.consumer = f.consumer → e = f

variable {r : Roster} {n : Nat}

theorem Delivers.eq_singleton {r' : Roster} {listening : Bool} {items : List Item}
    (h : r.Delivers r' listening n items) (hne : items ≠ []) : ∃ item, items = [item] := by
  have hpos : 0 < items.length := List.length_pos_iff.2 hne
  exact List.length_eq_one_iff.1 (by have := h.single; omega)

theorem delivers_refl (r : Roster) (listening : Bool) (n : Nat) : r.Delivers r listening n [] where
  single := Nat.zero_le _
  fed := fun h => absurd rfl h
  kept := fun h => h
  last := fun _ _ h => absurd h List.not_mem_nil
  silent := fun _ h h' => by rw [h] at h'; cases h'

/-- Pruning forgets only those who do not listen. -/
theorem delivers_prune (r : Roster) (listening : Nat → Bool) (n : Nat) :
    r.Delivers (r.prune listening).2 (listening n) n [] where
  single := Nat.zero_le _
  fed := fun h => absurd rfl h
  kept := fun h => by
    obtain ⟨e, he, hen⟩ := feeds_iff.1 h
    exact feeds_iff.2 ⟨e, (mem_prune.1 he).1, hen⟩
  last := fun _ _ h => absurd h List.not_mem_nil
  silent := fun hl h h' => by
    obtain ⟨e, he, rfl⟩ := feeds_iff.1 h
    have hstill := feeds_iff.2 ⟨e, mem_prune.2 ⟨he, hl⟩, rfl⟩
    rw [h'] at hstill
    cases hstill

theorem feeds_erase (hr : r.WellFormed) (hd : r.Distinct) {e : Entry} {id : String}
    (hf : r.find? id = some e) :
    (r.erase id).feeds n = true ↔ r.feeds n = true ∧ e.consumer ≠ n := by
  obtain ⟨hmem, hid⟩ := (find?_eq_some_iff hr).1 hf
  rw [feeds_iff, feeds_iff]
  constructor
  · rintro ⟨f, hfm, rfl⟩
    obtain ⟨hfm, hne⟩ := mem_erase.1 hfm
    refine ⟨⟨f, hfm, rfl⟩, fun heq => hne ?_⟩
    rw [hd f hfm e hmem heq.symm, hid]
  · rintro ⟨⟨f, hfm, rfl⟩, hne⟩
    refine ⟨f, mem_erase.2 ⟨hfm, fun hfid => hne ?_⟩, rfl⟩
    rw [hr.eq_of_id hfm hmem (hfid.trans hid.symm)]

/-- The last item for the consumer of an id, and its entry goes. -/
theorem delivers_erase (hr : r.WellFormed) (hd : r.Distinct) {id : String} {item : Item}
    (hlast : item.isLast = true) (listening : Bool) :
    r.Delivers (r.erase id) listening n
      (((r.find? id).filter (·.consumer == n)).toList.map fun _ => item) := by
  cases hf : r.find? id with
  | none =>
    rw [erase_of_find?_eq_none hf]
    exact delivers_refl r listening n
  | some e =>
    have hmem := mem_of_find? hf
    by_cases hen : e.consumer = n
    · have hitems : (((some e).filter (·.consumer == n)).toList.map fun _ => item) = [item] := by
        simp [Option.filter, hen]
      rw [hitems]
      have hgone : (r.erase id).feeds n ≠ true := fun h => ((feeds_erase hr hd hf).1 h).2 hen
      exact ⟨le_refl _, fun _ => feeds_iff.2 ⟨e, hmem, hen⟩, fun h => absurd h hgone,
        fun h => absurd h hgone, fun _ _ _ => ⟨item, List.mem_singleton_self _, hlast⟩⟩
    · have hitems : (((some e).filter (·.consumer == n)).toList.map fun _ => item) = [] := by
        simp [Option.filter, hen]
      rw [hitems]
      refine ⟨Nat.zero_le _, fun h => absurd rfl h, fun h => ((feeds_erase hr hd hf).1 h).1,
        fun _ _ h => absurd h List.not_mem_nil, fun _ h h' => ?_⟩
      rw [(feeds_erase hr hd hf).2 ⟨h, hen⟩] at h'
      cases h'

/-- An item for the consumer of an id, which keeps its entry if it listens and more may come. -/
theorem delivers_route (hr : r.WellFormed) (hd : r.Distinct) (listening : Nat → Bool) (id : String)
    (item : Item) :
    r.Delivers
      (if (r.find? id).all (fun e => !item.isLast && listening e.consumer) then r
        else r.erase id)
      (listening n) n (((r.find? id).filter (·.consumer == n)).toList.map fun _ => item) := by
  cases hlast : item.isLast with
  | true =>
    have herase : (if (r.find? id).all (fun e => !true && listening e.consumer) then r
        else r.erase id) = r.erase id := by
      cases hf : r.find? id with
      | none => simp [erase_of_find?_eq_none hf]
      | some e => simp
    rw [herase]
    exact delivers_erase hr hd hlast _
  | false =>
    cases hf : r.find? id with
    | none => exact delivers_refl r _ n
    | some e =>
      have hmem := mem_of_find? hf
      have hfeeds : e.consumer = n → r.feeds n = true := fun hen => feeds_iff.2 ⟨e, hmem, hen⟩
      have hsingle : (((some e).filter (·.consumer == n)).toList.map fun _ => item).length ≤ 1 := by
        by_cases hen : e.consumer = n <;> simp [Option.filter, hen]
      have hfed : (((some e).filter (·.consumer == n)).toList.map fun _ => item) ≠ [] →
          r.feeds n = true := by
        intro h
        apply hfeeds
        by_contra hen
        exact h (by simp [Option.filter, hen])
      have hnolast : ∀ i ∈ (((some e).filter (·.consumer == n)).toList.map fun _ => item),
          i.isLast = false := by
        intro i hi
        obtain ⟨-, -, rfl⟩ := List.mem_map.1 hi
        exact hlast
      by_cases hl : listening e.consumer = true
      · rw [if_pos (by simp [hl])]
        refine ⟨hsingle, hfed, fun h => h, fun _ => hnolast, fun _ h h' => ?_⟩
        rw [h] at h'
        cases h'
      · rw [if_neg (by simp [hl])]
        refine ⟨hsingle, hfed, fun h => ((feeds_erase hr hd hf).1 h).1, fun _ => hnolast,
          fun hln h h' => ?_⟩
        -- the entry that goes is that of a consumer that does not listen
        have hen : e.consumer ≠ n := fun hen => hl (hen ▸ hln)
        rw [(feeds_erase hr hd hf).2 ⟨h, hen⟩] at h'
        cases h'

/-- A list without repetitions whose members are all equal has one member at most. -/
theorem length_le_one_of_nodup {l : List Entry} (h : l.Nodup)
    (hsame : ∀ e ∈ l, ∀ f ∈ l, e = f) : l.length ≤ 1 := by
  cases l with
  | nil => exact Nat.zero_le _
  | cons e rest =>
    cases rest with
    | nil => exact le_refl _
    | cons f rest =>
      have heq := hsame e (List.mem_cons_self ..) f (by simp)
      exact absurd (heq ▸ List.mem_cons_self ..) (List.nodup_cons.1 h).1

/-- The last item for everybody, and all entries go. -/
theorem delivers_clear (hr : r.WellFormed) (hd : r.Distinct) {item : Item}
    (hlast : item.isLast = true) (listening : Bool) :
    r.Delivers { r with entries := [] } listening n
      ((r.inOrder.filter (·.consumer == n)).map fun _ => item) := by
  have hgone : ({ r with entries := [] } : Roster).feeds n ≠ true := nofun
  have hmem {e : Entry} : e ∈ r.inOrder.filter (·.consumer == n) ↔
      e ∈ r.entries ∧ e.consumer = n := by
    rw [List.mem_filter, mem_inOrder, beq_iff_eq]
  have hnodup : (r.inOrder.filter (·.consumer == n)).Nodup := by
    refine List.Nodup.filter _ ((perm_sort r.entries).nodup_iff.2 ?_)
    exact List.Nodup.of_map _ hr.1
  have hsame : ∀ e ∈ r.inOrder.filter (·.consumer == n),
      ∀ f ∈ r.inOrder.filter (·.consumer == n), e = f := by
    intro e he f hf
    rw [hmem] at he hf
    exact hd e he.1 f hf.1 (he.2.trans hf.2.symm)
  refine ⟨?_, fun h => ?_, fun h => absurd h hgone, fun h => absurd h hgone, fun _ h _ => ?_⟩
  · rw [List.length_map]
    exact length_le_one_of_nodup hnodup hsame
  · have hne : r.inOrder.filter (·.consumer == n) ≠ [] := fun hnil => h (by rw [hnil, List.map_nil])
    obtain ⟨e, he⟩ := List.exists_mem_of_ne_nil _ hne
    exact feeds_iff.2 ⟨e, hmem.1 he⟩
  · obtain ⟨e, he, hen⟩ := feeds_iff.1 h
    exact ⟨item, List.mem_map.2 ⟨e, hmem.2 ⟨he, hen⟩, rfl⟩, hlast⟩

end Roster

namespace Switchboard

/-- Has an agent read the server's `complete` for an id? -/
def Completed (sb : Switchboard) (id : String) : Prop :=
  ∃ entry ∈ sb.journal, ∃ k, entry.notice = .received k (.ok (.message (.complete id)))

/-- What is delivered to a consumer between two states. -/
structure Delivery (sb sb' : Switchboard) (n : Nat) (items : List Item) : Prop where
  roster : sb.session.roster.Delivers sb'.session.roster (sb.listening n) n items
  consumers : sb'.consumers[n]? = sb.consumers[n]?.map (Consumer.feed items)
  channel : sb'.channel n = sb.channel n ++ if sb.listening n then items else []
  journal : ∀ entry ∈ sb.journal, entry ∈ sb'.journal
  completed : Item.complete ∈ items → ∀ x, sb.consumers[n]? = some x → sb'.Completed x.id

namespace Delivery

variable {sb sb' : Switchboard} {n : Nat} {items : List Item}

/-- Who is not fed gets nothing and is not fed afterwards. -/
theorem unfed (h : sb.Delivery sb' n items) (hunfed : sb.session.roster.feeds n = false) :
    sb'.session.roster.feeds n = false ∧ sb'.channel n = sb.channel n := by
  have hnil : items = [] := by
    by_contra hne
    rw [h.roster.fed hne] at hunfed
    cases hunfed
  constructor
  · refine Bool.eq_false_iff.2 fun hfed => ?_
    rw [h.roster.kept hfed] at hunfed
    cases hunfed
  · rw [h.channel, hnil, ite_self, List.append_nil]

end Delivery

/-- Nothing is delivered, and no entry comes or goes. -/
structure Undelivered (sb sb' : Switchboard) : Prop where
  roster : sb'.session.roster = sb.session.roster
  consumers : sb'.consumers = sb.consumers
  channel : ∀ n, sb'.channel n = sb.channel n
  journal : ∀ entry ∈ sb.journal, entry ∈ sb'.journal

namespace Undelivered

variable {sb sb' : Switchboard}

theorem refl (sb : Switchboard) : sb.Undelivered sb := ⟨rfl, rfl, fun _ => rfl, fun _ h => h⟩

theorem of_traffic {k : Nat} {news : List Notice} (h : sb.Traffic k news sb') :
    sb.Undelivered sb' := by
  refine ⟨by rw [h.session], h.consumers, h.channel, fun entry he => ?_⟩
  rw [h.journal]
  exact List.mem_append_right _ he

theorem of_parting {a : Agent} (h : a.Parting sb sb') : sb.Undelivered sb' := by
  rcases h.traffic with rfl | ⟨k, news, htraffic, -⟩
  · exact refl _
  · exact of_traffic htraffic

/-- The outgoing queue makes no difference. -/
theorem of_outgoing {outgoing : Option (List Message)}
    (h : Undelivered { sb with session := { sb.session with outgoing } } sb') :
    sb.Undelivered sb' := ⟨h.roster, h.consumers, h.channel, h.journal⟩

theorem listening (h : sb.Undelivered sb') (n : Nat) : sb'.listening n = sb.listening n := by
  rw [listening_congr h.consumers]

theorem delivery (h : sb.Undelivered sb') (n : Nat) : sb.Delivery sb' n [] where
  roster := by rw [h.roster]; exact Roster.delivers_refl _ _ n
  consumers := by rw [h.consumers, Agent.Advance.map_feed_nil]
  channel := by rw [h.channel, ite_self, List.append_nil]
  journal := h.journal
  completed := fun hitem => absurd hitem List.not_mem_nil

/-- Then the session changes and its effects are carried out. -/
theorem commit (h : sb.Undelivered sb') {result : Session × List Effect} {n : Nat}
    (hd : sb'.session.roster.Delivers result.1.roster (sb'.listening n) n
      (Effect.itemsFor result.2 n))
    (hcompleted : Item.complete ∈ Effect.itemsFor result.2 n →
      ∀ x, sb.consumers[n]? = some x → sb'.Completed x.id) :
    sb.Delivery (sb'.commit result) n (Effect.itemsFor result.2 n) := by
  have hjournal : ∀ entry ∈ sb'.journal, entry ∈ (sb'.commit result).journal := by
    intro entry he
    obtain ⟨news, hnews⟩ := sb'.commit_journal result
    rw [hnews]
    exact List.mem_append_right _ he
  refine ⟨?_, ?_, ?_, fun entry he => hjournal entry (h.journal entry he), fun hitem x hx => ?_⟩
  · rw [commit_session, ← h.roster, ← h.listening]
    exact hd
  · rw [commit_consumers, h.consumers]
  · rw [commit_channel, h.channel, h.listening]
  · obtain ⟨entry, he, k, hnotice⟩ := hcompleted hitem x hx
    exact ⟨entry, hjournal entry he, k, hnotice⟩

/-- The end of a session is the last item for everybody. -/
theorem terminate (h : sb.Undelivered sb') (hr : sb.session.roster.WellFormed)
    (hd : sb.session.roster.Distinct) {s : Session} (hs : s.roster = sb'.session.roster)
    (error : ConnectionError) (n : Nat) : sb.Delivery (sb'.commit (s.terminate error)) n
      (Effect.itemsFor (s.terminate error).2 n) := by
  refine h.commit ?_ fun hitem => ?_
  · rw [Session.terminate_roster, Session.terminate_items, hs, h.roster]
    exact Roster.delivers_clear hr hd rfl _
  · rw [Session.terminate_items] at hitem
    obtain ⟨-, -, heq⟩ := List.mem_map.1 hitem
    cases heq

/-- The error of one subscription is the last item for its consumer. -/
theorem endOne (h : sb.Undelivered sb') (hr : sb.session.roster.WellFormed)
    (hd : sb.session.roster.Distinct) (id : String) (error : SubscribeError) (notify : Bool)
    (n : Nat) : sb.Delivery (sb'.commit (sb'.session.endOne id error notify)) n
      (Effect.itemsFor (sb'.session.endOne id error notify).2 n) := by
  refine h.commit ?_ fun hitem => ?_
  · rw [Session.endOne_roster, Session.endOne_items, h.roster]
    exact Roster.delivers_erase hr hd rfl _
  · rw [Session.endOne_items] at hitem
    obtain ⟨-, -, heq⟩ := List.mem_map.1 hitem
    cases heq

end Undelivered

end Switchboard

namespace Client

variable {c c' : Client} {e : Event}

/-- Every consumer has one entry at most. -/
theorem Coherent.distinct (h : c.Coherent) : c.board.session.roster.Distinct := by
  intro e he f hf heq
  have hid := (h.id_of_entry he).1
  rw [heq, ← (h.id_of_entry hf).1] at hid
  exact h.session.roster.eq_of_id he hf hid

/-- The consumer of a number is fed exactly while its id is registered. -/
theorem Coherent.feeds_iff_registered (h : c.Coherent) {n : Nat} :
    c.board.session.roster.feeds n = true ↔ c.newId n ∈ c.board.session.roster.ids := by
  rw [Roster.feeds_iff, Roster.mem_ids]
  constructor
  · rintro ⟨entry, he, rfl⟩
    exact ⟨entry, he, (h.id_of_entry he).1⟩
  · rintro ⟨entry, he, hid⟩
    exact ⟨entry, he, h.fresh ((h.id_of_entry he).1.symm.trans hid)⟩

theorem undelivered_of_quiet (hq : Quiet e c c') : c.board.Undelivered c'.board := by
  refine ⟨by rw [hq.session], hq.consumers, fun n => ?_, fun entry he => ?_⟩
  · unfold Switchboard.channel
    rw [hq.journal]
  · rwa [hq.journal]

theorem undelivered_launch (params : Option Json.Members) (held : Bool) :
    c.board.Undelivered (c.launched params held).board := by
  refine ⟨?_, launched_consumers .., fun n => ?_, fun entry he => ?_⟩
  · rw [launched_session, Session.start_roster]
  · exact Switchboard.withSession_channel ..
  · exact Switchboard.mem_withSession { c.board with handshakes := _ } _ he

/-- A stop delivers the last item to everybody, and it reports no loss. -/
theorem delivery_halt (hc : c.Coherent) (hp : c.phase ≠ .notStarted) (n : Nat) :
    ∃ items, c.board.Delivery c.halted.board n items ∧ (∀ item ∈ items, item.isLoss = false) ∧
      c.halted.board.session.roster.feeds n = false := by
  rw [halted_board hp]
  have hroster : ({ c.board.session with epoch := c.board.session.epoch + 1 } : Session).roster =
      c.board.session.roster := rfl
  refine ⟨_, (Switchboard.Undelivered.refl c.board).terminate hc.session.roster hc.distinct hroster
    .stopped n, fun item hitem => ?_, ?_⟩
  · rw [Session.terminate_items] at hitem
    obtain ⟨-, -, rfl⟩ := List.mem_map.1 hitem
    rfl
  · rw [Switchboard.commit_session, Session.terminate_roster]
    rfl

end Client

namespace Agent

variable {c : Client} {a : Agent}

/-- A completion is delivered for the id that the server completed. -/
theorem completed_of_route (hc : c.Coherent) {link : Link} {m : Message} {id : String}
    {item : Item} (hitem : m.item? = some (id, item)) {sb : Switchboard}
    (h : c.board.Traffic link.socket [.received link.socket (.ok (.message m))] sb) {n : Nat}
    (hcomplete : Item.complete ∈
      Effect.itemsFor (sb.session.route sb.listening id item).2 n) {x : Consumer}
    (hx : c.board.consumers[n]? = some x) : sb.Completed x.id := by
  rw [Session.route_items] at hcomplete
  obtain ⟨e, he, rfl⟩ := List.mem_map.1 hcomplete
  rw [Option.mem_toList, Option.filter_eq_some_iff, h.session] at he
  obtain ⟨hf, hen⟩ := he
  obtain ⟨y, hy, hyid, -, -⟩ := hc.entries e (Roster.mem_of_find? hf)
  rw [beq_iff_eq.1 hen, hx] at hy
  obtain rfl := Option.some.inj hy
  have hm : m = .complete x.id := by
    rw [hyid, Roster.id_of_find? hf]
    cases m with
    | complete i => cases hitem; rfl
    | _ => cases hitem
  refine ⟨⟨c.board.now, .received link.socket (.ok (.message m))⟩, ?_, link.socket, by rw [hm]⟩
  rw [h.journal]
  exact List.mem_append_left _ (List.mem_singleton_self _)

/-- Every turn delivers as the roster says, by cases on the move. An agent that goes on and had
nothing to send delivers only what it read on an acknowledged socket. -/
theorem Move.delivery (hc : c.Coherent) {t : Turn} (hmove : a.Move c.board t) (n : Nat) :
    ∃ items, c.board.Delivery t.2 n items ∧
      (items ≠ [] → t.1 = none ∨ c.board.session.outgoing.getD [] ≠ [] ∨
        a.isAcknowledged = true ∧ ∀ item ∈ items, item.isLoss = false) := by
  have hr := hc.session.roster
  have hd := hc.distinct
  have hnothing {sb : Switchboard} (h : c.board.Undelivered sb) :
      ∃ items, c.board.Delivery sb n items ∧
        (items ≠ [] → t.1 = none ∨ c.board.session.outgoing.getD [] ≠ [] ∨
          a.isAcknowledged = true ∧ ∀ item ∈ items, item.isLoss = false) :=
    ⟨[], h.delivery n, fun hne => absurd rfl hne⟩
  cases hmove with
  | leave ht hs => exact hnothing (.refl _)
  | wake ht hs => exact hnothing (.refl _)
  | hangUp ht hs h => exact hnothing (.of_traffic h)
  | greet ht hs hsocket hack h hclient hquiet => exact hnothing (.of_traffic h.toTraffic)
  | idle ht hs hsocket hack h hquiet => exact hnothing (.of_traffic h.toTraffic)
  | ask ht hs =>
    exact hnothing ⟨rfl, rfl, fun _ => rfl, fun _ h => List.mem_cons_of_mem _ h⟩
  | deliver ht hs hout h =>
    exact hnothing (Switchboard.Undelivered.of_traffic h.toTraffic).of_outgoing
  | ended ht h error =>
    exact ⟨_, (Switchboard.Undelivered.of_parting h).terminate hr hd rfl error n,
      fun _ => Or.inl rfl⟩
  | retry ht h hbudget =>
    rename_i sb attempt due retries
    have hundelivered := Switchboard.Undelivered.of_parting h
    have hcommit : c.board.Delivery (sb.commit (sb.session.suspend sb.listening, [])) n [] := by
      refine hundelivered.commit ?_ fun hitem => absurd hitem List.not_mem_nil
      rw [Session.suspend_roster]
      exact Roster.delivers_prune _ _ n
    -- the note and the count of retries deliver nothing
    exact ⟨[], ⟨hcommit.roster, hcommit.consumers, hcommit.channel,
      fun entry he => List.mem_cons_of_mem _ (hcommit.journal entry he),
      fun hitem => absurd hitem List.not_mem_nil⟩, fun hne => absurd rfl hne⟩
  | undeliverable ht hs hout h error =>
    rename_i link m rest arrived sb
    have hundelivered : c.board.Undelivered sb :=
      (Switchboard.Undelivered.of_traffic h.toTraffic).of_outgoing
    have hqueue : c.board.session.outgoing.getD [] ≠ [] := by
      rw [hout]
      exact List.cons_ne_nil _ _
    rcases sb.abandon_cases m error with heq | ⟨id, -, heq⟩ <;> rw [heq]
    · exact hnothing hundelivered
    · exact ⟨_, hundelivered.endOne hr hd id _ _ n, fun _ => Or.inr (Or.inl hqueue)⟩
  | acknowledge ht hs hack hsocket hack' h =>
    have hundelivered := Switchboard.Undelivered.of_traffic h.toTraffic
    refine ⟨_, hundelivered.commit ?_ fun hitem => ?_,
      fun hne => absurd (Session.acknowledge_items ..) hne⟩
    · rw [Session.acknowledge_roster, Session.acknowledge_items]
      exact Roster.delivers_prune _ _ n
    · rw [Session.acknowledge_items] at hitem
      cases hitem
  | route ht hs hack hsocket hack' hitem h =>
    rename_i link link' m id item sb
    have hundelivered := Switchboard.Undelivered.of_traffic h.toTraffic
    refine ⟨_, hundelivered.commit ?_ fun hcomplete x hx =>
        completed_of_route hc hitem h.toTraffic hcomplete hx,
      fun _ => Or.inr (Or.inr ⟨(isAcknowledged_of_serving hs).trans hack, fun i hi => ?_⟩)⟩
    · rw [Session.route_roster, Session.route_items, hundelivered.roster]
      exact Roster.delivers_route hr hd _ id item
    · rw [Session.route_items] at hi
      obtain ⟨-, -, rfl⟩ := List.mem_map.1 hi
      exact Message.isLoss_of_item? hitem
  | endOne ht hs hack hsocket hack' hid h =>
    refine ⟨_, (Switchboard.Undelivered.of_traffic h.toTraffic).endOne hr hd _ _ _ n,
      fun _ => Or.inr (Or.inr ⟨(isAcknowledged_of_serving hs).trans hack, fun i hi => ?_⟩)⟩
    rw [Session.endOne_items] at hi
    obtain ⟨-, -, rfl⟩ := List.mem_map.1 hi
    rfl

end Agent

end LiveQuery
