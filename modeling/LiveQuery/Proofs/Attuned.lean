import LiveQuery.Proofs.Coherence
import LiveQuery.Proofs.Ledger

/-!
# An agent's socket agrees with the roster

What every move of an agent does to the ledger of its socket (`Agent.Attuned.move`). Before the
acknowledgment nothing that belongs to a subscription is on the wire. Afterwards every path that
takes an id out of the roster pairs the removal with a `complete` message, with the server's own
last word, or with a failed send, and so the ledger stays balanced.
-/

namespace LiveQuery

namespace Switchboard

variable (sb : Switchboard) (k : Nat)

/-- The ledger of a socket. -/
def ledger : Ledger := ⟨sb.session.roster.ids, sb.wire k, sb.endedOn k, sb.failedOn k⟩

/-- Is an id that of a subscription? -/
def Knows (id : String) : Prop := ∃ (n : Nat) (x : Consumer), sb.consumers[n]? = some x ∧ x.id = id

/-! ## The ledger after a change of the session -/

variable {sb}

theorem added_eq {session : Session} {ms : List Message}
    (hqueue : sb.session.outgoing.isSome = true)
    (hout : session.outgoing = sb.session.outgoing.map (· ++ ms)) : sb.added session = ms := by
  obtain ⟨q, hq⟩ := Option.isSome_iff_exists.1 hqueue
  unfold added newMessages
  rw [hout, hq]
  simp

theorem wire_append {session : Session} {ms : List Message}
    (hqueue : sb.session.outgoing.isSome = true)
    (hout : session.outgoing = sb.session.outgoing.map (· ++ ms)) :
    sb.messagesOn k ++ session.outgoing.getD [] = sb.wire k ++ ms := by
  obtain ⟨q, hq⟩ := Option.isSome_iff_exists.1 hqueue
  unfold wire
  rw [hout, hq]
  simp

/-- The ledger after messages were added to the outgoing queue. -/
theorem ledger_commit {result : Session × List Effect} {ms : List Message}
    (hqueue : sb.session.outgoing.isSome = true)
    (hout : result.1.outgoing = sb.session.outgoing.map (· ++ ms)) :
    (sb.commit result).ledger k = ⟨result.1.roster.ids, sb.wire k ++ ms,
      fun id => !ms.any (Message.asksFor id) && sb.endedOn k id, sb.failedOn k⟩ := by
  have hwire : (sb.commit result).wire k = sb.wire k ++ ms := by
    rw [← wire_append k hqueue hout]
    unfold wire
    rw [commit_messagesOn, commit_session]
  have hended : (sb.commit result).endedOn k =
      fun id => !ms.any (Message.asksFor id) && sb.endedOn k id := by
    funext id
    rw [commit_endedOn, added_eq hqueue hout]
  unfold ledger
  rw [hwire, hended, commit_session, commit_failedOn]

theorem ledger_withSession {session : Session} {ms : List Message}
    (hqueue : sb.session.outgoing.isSome = true)
    (hout : session.outgoing = sb.session.outgoing.map (· ++ ms)) :
    (sb.withSession session).ledger k = ⟨session.roster.ids, sb.wire k ++ ms,
      fun id => !ms.any (Message.asksFor id) && sb.endedOn k id, sb.failedOn k⟩ :=
  @ledger_commit sb k (session, []) ms hqueue hout

theorem any_asksFor_complete (ids : List String) (id : String) :
    (ids.map Message.complete).any (Message.asksFor id) = false := by
  rw [List.any_eq_false]
  intro m hm
  obtain ⟨i, -, rfl⟩ := List.mem_map.1 hm
  nofun

theorem knows_of_registered {c : Client} (h : c.Coherent) {id : String}
    (hid : id ∈ c.board.session.roster.ids) : c.board.Knows id := by
  obtain ⟨entry, he, rfl⟩ := Roster.mem_ids.1 hid
  obtain ⟨x, hx, hxid, -, -⟩ := h.entries entry he
  exact ⟨entry.consumer, x, hx, hxid⟩

/-- Feeding consumers makes no id unknown. -/
theorem Knows.of_feed {sb sb' : Switchboard}
    (h : ∀ n : Nat, ∃ items, sb'.consumers[n]? = sb.consumers[n]?.map (Consumer.feed items))
    {id : String} (hid : sb.Knows id) : sb'.Knows id := by
  obtain ⟨n, x, hx, rfl⟩ := hid
  obtain ⟨items, hitems⟩ := h n
  refine ⟨n, x.feed items, ?_, x.feed_id items⟩
  rw [hitems, hx]
  rfl

/-! ## The ledger after traffic -/

/-- What was sent quietly belongs to no subscription. -/
theorem id?_of_quiet {news : List Notice} (hquiet : ∀ notice ∈ news, notice.isQuiet = true)
    {k : Nat} {m : Message} (hm : m ∈ (news.filterMap (Notice.message? k)).reverse) :
    m.id? = none := by
  rw [List.mem_reverse, List.mem_filterMap] at hm
  obtain ⟨notice, hn, hm⟩ := hm
  exact Notice.id?_of_isQuiet (hquiet notice hn) hm

theorem Traffic.ledger {sb' : Switchboard} {news : List Notice} (h : sb.Traffic k news sb') :
    sb'.ledger k = ⟨sb.session.roster.ids,
      sb.messagesOn k ++ (news.filterMap (Notice.message? k)).reverse ++
        sb.session.outgoing.getD [],
      fun id => news.any (Notice.ends k id) || sb.endedOn k id,
      news.any (Notice.failsOn k) || sb.failedOn k⟩ := by
  have hended : sb'.endedOn k = fun id => news.any (Notice.ends k id) || sb.endedOn k id := by
    funext id
    exact h.endedOn k id
  unfold Switchboard.ledger Switchboard.wire
  rw [hended, h.messagesOn, h.failedOn, h.session]

/-- Quiet traffic keeps the ledger balanced. -/
theorem Traffic.balanced {sb' : Switchboard} {news : List Notice} {known : String → Prop}
    (h : sb.Traffic k news sb') (hquiet : ∀ notice ∈ news, notice.isQuiet = true)
    (hb : (sb.ledger k).Balanced known) : (sb'.ledger k).Balanced known := by
  have hended (id : String) : news.any (Notice.ends k id) = false := by
    rw [List.any_eq_false]
    intro notice hn
    exact Bool.eq_false_iff.1 (Notice.ends_of_isQuiet (hquiet notice hn) k id)
  have hfailed : news.any (Notice.failsOn k) = false := by
    rw [List.any_eq_false]
    intro notice hn
    exact Bool.eq_false_iff.1 (Notice.failsOn_of_isQuiet (hquiet notice hn) k)
  rw [h.ledger, hfailed]
  refine hb.follow rfl (by rw [List.map_nil, List.append_nil])
    (fun m hm => id?_of_quiet hquiet hm) (fun _ hid => hid)
    (fun _ hid => absurd hid List.not_mem_nil) (fun id _ => ?_) (fun id hid => ?_)
    (fun hf => hf) fun _ id hid hnot => absurd hid hnot
  · dsimp only
    rw [hended, Bool.false_or]
    rfl
  · dsimp only
    rw [hended, Bool.false_or]
    exact hid

/-- Sending a message of the outgoing queue leaves the wire as it is. -/
theorem ledger_sent {sb' : Switchboard} {m : Message} {rest : List Message} {arrived failed : Bool}
    (hout : sb.session.outgoing = some (m :: rest))
    (h : { sb with session := { sb.session with outgoing := some rest } }.Traffic k
      [.sent k (.message m) arrived failed] sb') :
    sb'.ledger k =
      ⟨sb.session.roster.ids, sb.wire k, sb.endedOn k, failed || sb.failedOn k⟩ := by
  have hmessage : ([.sent k (.message m) arrived failed] : List Notice).filterMap
      (Notice.message? k) = [m] := by
    simp [Notice.message?]
  have hwire : sb.wire k = sb.messagesOn k ++ [m] ++ rest := by
    unfold Switchboard.wire
    rw [hout]
    simp
  have hfails : ([.sent k (.message m) arrived failed] : List Notice).any
      (Notice.failsOn k) = failed := by
    simp [Notice.failsOn]
  rw [h.ledger, hmessage, hwire, hfails]
  rfl

/-- Reading an item and changing the session, which takes ids back. -/
theorem ledger_received {sb' : Switchboard} {item : Except DecodeError Incoming}
    {result : Session × List Effect} {gone : List String}
    (h : sb.Traffic k [.received k item] sb') (hqueue : sb.session.outgoing.isSome = true)
    (hout : result.1.outgoing = sb'.session.outgoing.map (· ++ gone.map Message.complete)) :
    (sb'.commit result).ledger k = ⟨result.1.roster.ids, sb.wire k ++ gone.map Message.complete,
      fun id => (Notice.received k item).ends k id || sb.endedOn k id, sb.failedOn k⟩ := by
  have hwire : sb'.wire k = sb.wire k := by
    unfold Switchboard.wire
    rw [h.messagesOn, h.session]
    simp [Notice.message?]
  have hended (id : String) :
      sb'.endedOn k id = ((Notice.received k item).ends k id || sb.endedOn k id) := by
    rw [h.endedOn, List.any_cons, List.any_nil, Bool.or_false]
  have hfailed : sb'.failedOn k = sb.failedOn k := by
    rw [h.failedOn]
    rfl
  rw [ledger_commit k (by rwa [h.session]) hout, hwire, hfailed]
  simp only [any_asksFor_complete, Bool.not_false, Bool.true_and, hended]

end Switchboard

/-- The last item for a subscription is the server's last word on it. -/
theorem Notice.ends_received {m : Message} {id : String} {item : Item}
    (h : m.item? = some (id, item)) (k : Nat) (i : String) :
    (Notice.received k (.ok (.message m))).ends k i = (item.isLast && id == i) := by
  cases m with
  | next => cases h; rfl
  | error => cases h; simp [Notice.ends, Item.isLast]
  | complete => cases h; simp [Notice.ends, Item.isLast]
  | _ => cases h

/-! ## What one turn does to the ledger -/

namespace Agent

variable {a : Agent} {sb sb' : Switchboard}

/-- The socket of an agent agrees with the roster: before the acknowledgment nothing of a
subscription was sent on it, and afterwards its ledger is balanced. -/
structure Attuned (a : Agent) (sb : Switchboard) : Prop where
  silent : ∀ link, a.stage = .serving link → link.acknowledged = false →
    ∀ m ∈ sb.messagesOn link.socket, m.id? = none
  balanced : ∀ link, a.stage = .serving link → link.acknowledged = true →
    (sb.ledger link.socket).Balanced sb.Knows

theorem attuned_of_idle (hs : ∀ link, a.stage ≠ .serving link) : a.Attuned sb :=
  ⟨fun link h => absurd h (hs link), fun link h => absurd h (hs link)⟩

theorem attuned_of_silent {link : Link} (hs : a.stage = .serving link)
    (hack : link.acknowledged = false) (h : ∀ m ∈ sb.messagesOn link.socket, m.id? = none) :
    a.Attuned sb := by
  constructor
  · intro l hl _
    rw [hs] at hl
    cases hl
    exact h
  · intro l hl hacked
    rw [hs] at hl
    cases hl
    rw [hack] at hacked
    cases hacked

theorem attuned_of_balanced {link : Link} (hs : a.stage = .serving link)
    (hack : link.acknowledged = true) (h : (sb.ledger link.socket).Balanced sb.Knows) :
    a.Attuned sb := by
  constructor
  · intro l hl hacked
    rw [hs] at hl
    cases hl
    rw [hack] at hacked
    cases hacked
  · intro l hl _
    rw [hs] at hl
    cases hl
    exact h

/-- An agent stays attuned if nothing happens to the session or on its socket. -/
theorem Attuned.congr (h : a.Attuned sb) (hsession : sb'.session = sb.session)
    (hmessages : ∀ k, a.socket? = some k → sb'.messagesOn k = sb.messagesOn k)
    (hended : ∀ k, a.socket? = some k → ∀ id, sb'.endedOn k id = sb.endedOn k id)
    (hfailed : ∀ k, a.socket? = some k → sb'.failedOn k = sb.failedOn k)
    (hknows : ∀ id, sb.Knows id → sb'.Knows id) : a.Attuned sb' := by
  constructor
  · intro link hs hack
    rw [hmessages _ (socket?_of_serving hs)]
    exact h.silent link hs hack
  · intro link hs hack
    have hk := socket?_of_serving hs
    have hsame : sb'.ledger link.socket = sb.ledger link.socket := by
      unfold Switchboard.ledger Switchboard.wire
      rw [hsession, hmessages _ hk, hfailed _ hk, funext (hended _ hk)]
    rw [hsame]
    exact (h.balanced link hs hack).weaken hknows

namespace Attuned

variable {c : Client} {link : Link}

/-- What a failed send does: the id that the message was for leaves. -/
theorem undeliverable (h : a.Attuned c.board) (hs : a.stage = .serving link)
    (hack : link.acknowledged = true) {m : Message} {rest : List Message} {arrived : Bool}
    {sb : Switchboard} (hout : c.board.session.outgoing = some (m :: rest))
    (hsent : { c.board with session := { c.board.session with outgoing := some rest } }.Traffic
      link.socket [.sent link.socket (.message m) arrived true] sb) (error : TransportError) :
    ((sb.abandon m error).ledger link.socket).Balanced c.board.Knows := by
  have hb := h.balanced link hs hack
  have hsame := Switchboard.ledger_sent link.socket hout hsent
  have hfailed : (sb.ledger link.socket).Balanced c.board.Knows := by
    rw [hsame]
    refine hb.leave (List.append_nil _).symm (fun _ hid => hid)
      (fun _ hid => absurd hid List.not_mem_nil) (fun _ _ => rfl) (fun _ hid => hid) nofun nofun
  rcases sb.abandon_cases m error with heq | ⟨id, -, heq⟩ <;> rw [heq]
  · exact hfailed
  · have hqueue : sb.session.outgoing.isSome = true := by
      rw [hsent.session]
      rfl
    have hout' : (sb.session.endOne id (.sendFailed error) false).1.outgoing =
        sb.session.outgoing.map (· ++ ([] : List String).map Message.complete) := by
      rw [Session.endOne_outgoing_silent]
      simp
    rw [Switchboard.ledger_commit link.socket hqueue hout']
    have hin : sb.failedOn link.socket = true := congrArg Ledger.failed hsame
    refine hfailed.leave rfl (fun i hi => ?_) (fun _ hid => absurd hid List.not_mem_nil)
      (fun _ _ => rfl) (fun _ hid => hid) (fun hf => ?_) fun hf => ?_
    · rw [Session.endOne_roster, Roster.ids_erase] at hi
      exact (List.mem_filter.1 hi).1
    · dsimp only at hf
      rw [hin] at hf
      cases hf
    · dsimp only at hf
      rw [hin] at hf
      cases hf

/-- The acknowledgment asks for everything that is registered, after messages of no
subscription. -/
theorem acknowledge (h : a.Attuned c.board) (hc : c.Coherent) (hs : a.stage = .serving link)
    (hack : link.acknowledged = false) (hphase : c.phase = .connecting)
    {payload : Option Json.Members} {sb : Switchboard}
    (hread : c.board.Traffic link.socket
      [.received link.socket (.ok (.message (.connectionAck payload)))] sb) :
    ((sb.commit (sb.session.acknowledge sb.listening payload)).ledger link.socket).Balanced
      c.board.Knows := by
  have hsession : sb.session = c.board.session := hread.session
  have hpruned := hc.session.prune sb.listening
  have hidle : c.board.session.outgoing = none :=
    hc.session.outgoing_eq_none (by rw [show c.board.session.phase = .connecting from hphase]; nofun)
  -- what waits is what is registered
  have hwaiting : (sb.session.prune sb.listening).waitingMessages =
      Ledger.requests (c.board.session.prune sb.listening).roster.operation?
        (c.board.session.prune sb.listening).roster.ids := by
    rw [hsession, ← hpruned.waiting (by rw [Session.prune_phase]; exact hphase)]
    rfl
  have hids : (sb.commit (sb.session.acknowledge sb.listening payload)).session.roster.ids =
      (c.board.session.prune sb.listening).roster.ids := by
    rw [Switchboard.commit_session, Session.acknowledge_roster, hsession, Session.prune_roster]
  have hadded : sb.added (sb.session.acknowledge sb.listening payload).1 =
      (sb.session.prune sb.listening).waitingMessages := by
    unfold Switchboard.added Switchboard.newMessages
    rw [Session.acknowledge_outgoing, hsession, hidle]
    rfl
  have hop : ∀ id ∈ (c.board.session.prune sb.listening).roster.ids,
      ((c.board.session.prune sb.listening).roster.operation? id).isSome = true := by
    intro id hid
    obtain ⟨entry, he, rfl⟩ := Roster.mem_ids.1 hid
    unfold Roster.operation?
    rw [Roster.find?_of_mem hpruned.roster he]
    rfl
  have hwire : (sb.commit (sb.session.acknowledge sb.listening payload)).wire link.socket =
      sb.messagesOn link.socket ++
        Ledger.requests (c.board.session.prune sb.listening).roster.operation?
          (c.board.session.prune sb.listening).roster.ids := by
    unfold Switchboard.wire
    rw [Switchboard.commit_messagesOn, Switchboard.commit_session, Session.acknowledge_outgoing,
      hwaiting]
    rfl
  have hsent : ∀ m ∈ sb.messagesOn link.socket, m.id? = none := by
    intro m hm
    rw [hread.messagesOn] at hm
    refine h.silent link hs hack m ?_
    simpa [Notice.message?] using hm
  unfold Switchboard.ledger
  rw [hids]
  refine Ledger.balanced_replay hwire hsent hpruned.roster.nodup_ids hop ?_ ?_
  · intro id hid
    have hasked : (sb.added (sb.session.acknowledge sb.listening payload).1).any
        (Message.asksFor id) = true := by
      rw [hadded, hwaiting, List.any_eq_true]
      obtain ⟨operation, hoperation⟩ := Option.isSome_iff_exists.1 (hop id hid)
      exact ⟨_, Ledger.mem_requests.2 ⟨id, hid, operation, hoperation, rfl⟩,
        Message.asksFor_iff.2 ⟨operation, rfl⟩⟩
    dsimp only
    rw [Switchboard.commit_endedOn, hasked]
    rfl
  · intro id hid
    rw [Session.prune_roster, Roster.ids_prune hc.session.roster] at hid
    exact Switchboard.knows_of_registered hc (List.mem_filter.1 hid).1

/-- An item for a subscription. Its id leaves with the last item, which is the server's last word,
or if nobody listens, and then it is taken back. -/
theorem route (h : a.Attuned c.board) (hc : c.Coherent) (hs : a.stage = .serving link)
    (hack : link.acknowledged = true) (hphase : c.phase = .acknowledged) {m : Message}
    {id : String} {item : Item} (hitem : m.item? = some (id, item)) {sb : Switchboard}
    (hread : c.board.Traffic link.socket [.received link.socket (.ok (.message m))] sb) :
    ((sb.commit (sb.session.route sb.listening id item)).ledger link.socket).Balanced
      c.board.Knows := by
  have hsession : sb.session = c.board.session := hread.session
  have hqueue : c.board.session.outgoing.isSome = true := hc.session.queue.2 hphase
  have hout : (sb.session.route sb.listening id item).1.outgoing = sb.session.outgoing.map
      (· ++ (if sb.session.dismisses sb.listening id item then [id] else []).map
        Message.complete) := by
    rw [Session.route_outgoing]
    split <;> simp
  have hleft (i : String) : i ∈ (sb.session.route sb.listening id item).1.roster.ids ↔
      i ∈ c.board.session.roster.ids ∧ (i = id → item.isLast = false ∧
        sb.session.dismisses sb.listening id item = false) := by
    rw [Session.mem_ids_route, hsession]
  rw [Switchboard.ledger_received link.socket hread hqueue hout]
  refine (h.balanced link hs hack).leave rfl (fun i hi => ((hleft i).1 hi).1) (fun i hi => ?_)
    (fun i hi => ?_) (fun i hi => ?_) (fun hf => hf) fun _ i hi hnot => ?_
  · split at hi
    · next hdismissed =>
      obtain rfl := List.mem_singleton.1 hi
      obtain ⟨entry, hf, -, -⟩ := (Session.dismisses_iff ..).1 hdismissed
      rw [hsession] at hf
      refine ⟨Switchboard.knows_of_registered hc ?_, fun hin => ?_⟩
      · rw [← Roster.id_of_find? hf]
        exact Roster.ids_of_mem (Roster.mem_of_find? hf)
      · rw [((hleft _).1 hin).2 rfl |>.2] at hdismissed
        cases hdismissed
    · cases hi
  · have hkeep := ((hleft i).1 hi).2
    have hno : (item.isLast && id == i) = false := by
      by_cases heq : i = id
      · rw [(hkeep heq).1, Bool.false_and]
      · have hne : (id == i) = false := beq_false_of_ne (Ne.symm heq)
        rw [hne, Bool.and_false]
    dsimp only
    rw [Notice.ends_received hitem, hno, Bool.false_or]
    rfl
  · dsimp only
    rw [show c.board.endedOn link.socket i = true from hi, Bool.or_true]
  · have hnot := fun hkeep => hnot ((hleft i).2 ⟨hi, hkeep⟩)
    by_cases heq : i = id
    · subst heq
      cases hlast : item.isLast with
      | true =>
        right
        dsimp only
        rw [Notice.ends_received hitem, hlast]
        simp
      | false =>
        left
        cases hd : sb.session.dismisses sb.listening i item with
        | true => simp
        | false => exact absurd (fun _ => ⟨hlast, hd⟩) hnot
    · exact absurd (fun h => absurd h heq) hnot

/-- Something undecodable for a subscription: its id is taken back. -/
theorem endOne (h : a.Attuned c.board) (hc : c.Coherent) (hs : a.stage = .serving link)
    (hack : link.acknowledged = true) (hphase : c.phase = .acknowledged) {id : String}
    {error : DecodeError} {sb : Switchboard}
    (hread : c.board.Traffic link.socket [.received link.socket (.error error)] sb) :
    ((sb.commit (sb.session.endOne id (.decodeFailed error) true)).ledger link.socket).Balanced
      c.board.Knows := by
  have hsession : sb.session = c.board.session := hread.session
  have hqueue : c.board.session.outgoing.isSome = true := hc.session.queue.2 hphase
  have hout : (sb.session.endOne id (.decodeFailed error) true).1.outgoing =
      sb.session.outgoing.map (· ++ (if id ∈ c.board.session.roster.ids then [id] else []).map
        Message.complete) := by
    rw [hsession]
    exact Session.endOne_outgoing_of_acknowledged _ _ _ hphase
  have hleft (i : String) :
      i ∈ (sb.session.endOne id (.decodeFailed error) true).1.roster.ids ↔
        i ∈ c.board.session.roster.ids ∧ i ≠ id := by
    rw [Session.endOne_roster, hsession, Session.mem_ids_erase]
  rw [Switchboard.ledger_received link.socket hread hqueue hout]
  exact (h.balanced link hs hack).takeBackOne hleft rfl (fun _ => rfl) rfl

/-- Traffic that concerns no subscription. -/
theorem idle (h : a.Attuned c.board) (hs : a.stage = .serving link) {link' : Link}
    (hsocket : link'.socket = link.socket) (hack : link'.acknowledged = link.acknowledged)
    {news : List Notice} {sb : Switchboard} (hread : c.board.Traffic link.socket news sb)
    (hquiet : ∀ notice ∈ news, notice.isQuiet = true)
    (hknows : ∀ id, c.board.Knows id → sb.Knows id) :
    ({ a with stage := .serving link' } : Agent).Attuned sb := by
  cases hlink : link.acknowledged with
  | false =>
    refine attuned_of_silent rfl (hack.trans hlink) fun m hm => ?_
    rw [hsocket, hread.messagesOn, List.mem_append] at hm
    rcases hm with hm | hm
    · exact h.silent link hs hlink m hm
    · exact Switchboard.id?_of_quiet hquiet hm
  | true =>
    refine attuned_of_balanced rfl (hack.trans hlink) ?_
    rw [hsocket]
    exact (hread.balanced link.socket hquiet (h.balanced link hs hlink)).weaken hknows

/-- What is sent leaves the queue and is on the wire as it was before. -/
theorem deliver (h : a.Attuned c.board) (hs : a.stage = .serving link)
    (hack : link.acknowledged = true) {m : Message} {rest : List Message} {arrived : Bool}
    {sb : Switchboard} (hout : c.board.session.outgoing = some (m :: rest))
    (hsent : { c.board with session := { c.board.session with outgoing := some rest } }.Traffic
      link.socket [.sent link.socket (.message m) arrived false] sb) :
    (sb.ledger link.socket).Balanced c.board.Knows := by
  have hsame := Switchboard.ledger_sent link.socket hout hsent
  rw [Bool.false_or] at hsame
  rw [hsame]
  exact h.balanced link hs hack

/-- Every move of an agent of the session leaves it attuned, by cases on the move. -/
theorem move (h : a.Attuned c.board) (hc : c.Coherent) (hfits : a.Fits c.board) {t : Turn}
    (hmove : a.Move c.board t) : ∀ a' ∈ t.1, a'.Attuned t.2 := by
  intro a' ha'
  have hknows : ∀ id, c.board.Knows id → t.2.Knows id := by
    intro id
    exact Switchboard.Knows.of_feed (hmove.outcome hfits hc.session).advance.consumers
  have hacked {link : Link} (ht : a.told = false) (hs : a.stage = .serving link)
      (hack : link.acknowledged = true) : c.phase = .acknowledged :=
    (hfits.acknowledged_of_serving ht hs).2 hack
  -- there is an outgoing queue only after the acknowledgment
  have hqueued {link : Link} (ht : a.told = false) (hs : a.stage = .serving link)
      {queue : List Message} (hout : c.board.session.outgoing = some queue) :
      link.acknowledged = true :=
    (hfits.acknowledged_of_serving ht hs).1 (hc.session.queue.1 (by rw [hout]; rfl))
  cases hmove with
  | leave ht hs => cases ha'
  | hangUp ht hs htraffic => cases ha'
  | ended ht hparting error => cases ha'
  | ask ht hs =>
    cases ha'
    exact attuned_of_idle nofun
  | wake ht hs =>
    cases ha'
    exact attuned_of_idle nofun
  | retry ht hparting hbudget =>
    cases ha'
    exact attuned_of_idle nofun
  | greet ht hs hsocket hack hread hclient hquiet =>
    cases ha'
    refine attuned_of_silent rfl hack fun m hm => ?_
    -- nothing was sent on a socket that just opened
    have hnone := hc.unopened _ (Nat.le_of_eq hsocket.symm)
    rw [hread.messagesOn, hnone, List.nil_append] at hm
    exact Switchboard.id?_of_quiet hquiet hm
  | idle ht hs hsocket hack hread hquiet =>
    cases ha'
    exact h.idle hs hsocket hack hread.toTraffic hquiet hknows
  | deliver ht hs hout hsent =>
    cases ha'
    have hack := hqueued ht hs hout
    exact attuned_of_balanced rfl hack ((h.deliver hs hack hout hsent.toTraffic).weaken hknows)
  | undeliverable ht hs hout hsent error =>
    cases ha'
    have hack := hqueued ht hs hout
    exact attuned_of_balanced rfl hack
      ((h.undeliverable hs hack hout hsent.toTraffic _).weaken hknows)
  | acknowledge ht hs hack hsocket hack' hread =>
    cases ha'
    refine attuned_of_balanced rfl hack' ?_
    rw [hsocket]
    exact (h.acknowledge hc hs hack (hfits.connecting_of_serving ht hs hack)
      hread.toTraffic).weaken hknows
  | route ht hs hack hsocket hack' hitem hread =>
    cases ha'
    refine attuned_of_balanced rfl hack' ?_
    rw [hsocket]
    exact (h.route hc hs hack (hacked ht hs hack) hitem hread.toTraffic).weaken hknows
  | endOne ht hs hack hsocket hack' hid hread =>
    cases ha'
    refine attuned_of_balanced rfl hack' ?_
    rw [hsocket]
    exact (h.endOne hc hs hack (hacked ht hs hack) hread.toTraffic).weaken hknows

end Attuned

end Agent

end LiveQuery
