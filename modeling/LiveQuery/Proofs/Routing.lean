import LiveQuery.Proofs.Reading

/-!
# Results go to the subscription they name

The results in the channel of a subscription are those that the agent of the session read for its
id on acknowledged sockets while it was registered and its consumer listened, in the order in
which they were read (`Client.results_of_run`). What is read for another id leaves the entry, the
channel and the consumer of the subscription alone, and so it leaves what waits.

The two halves of the argument: a read `next` is handed to its own id and nobody else
(`Client.ReadsIn.board_of_item`), and whatever else happens puts no result into any channel
(`Agent.Move.results`, `Client.results_step`). What a turn puts into channels at all is a short list
(`Agent.Puts`).
-/

namespace LiveQuery

/-- The result that an item carries. -/
def Item.result? : Item → Option ExecutionResult
  | .next result => some result
  | _ => none

/-- The result that an item read from a socket carries for an id. -/
def Incoming.resultFor? (id : String) : Except DecodeError Incoming → Option ExecutionResult
  | .ok (.message (.next i result)) => if i = id then some result else none
  | _ => none

namespace Roster

variable {r : Roster} {id other : String}

theorem find?_erase (h : other ≠ id) : (r.erase id).find? other = r.find? other := by
  unfold Roster.find? Roster.erase
  rw [List.find?_filter]
  congr 1
  funext e
  by_cases he : e.id = other
  · simp [he, h]
  · simp [he]

end Roster

namespace Switchboard

variable (sb : Switchboard)

/-- The results put into the channel of a consumer, in order. -/
def results (n : Nat) : List ExecutionResult := (sb.channel n).filterMap Item.result?

theorem results_congr {sb sb' : Switchboard} {n : Nat} (h : sb'.channel n = sb.channel n) :
    sb'.results n = sb.results n := by
  unfold results
  rw [h]

theorem results_commit (result : Session × List Effect) (n : Nat) :
    (sb.commit result).results n = sb.results n ++
      if sb.listening n then (Effect.itemsFor result.2 n).filterMap Item.result? else [] := by
  unfold results
  rw [commit_channel, List.filterMap_append]
  congr 1
  split <;> rfl

/-- What the effects of a change put into a channel is among the items that they carry. -/
theorem channel_commit {sb sb' : Switchboard} {result : Session × List Effect} {n : Nat}
    {P : Item → Prop} (h : sb'.channel n = sb.channel n)
    (hitems : ∀ item ∈ Effect.itemsFor result.2 n, P item) :
    ∃ items, (sb'.commit result).channel n = sb.channel n ++ items ∧ ∀ item ∈ items, P item := by
  refine ⟨if sb'.listening n then Effect.itemsFor result.2 n else [], ?_, ?_⟩
  · rw [commit_channel, h]
  · split
    · exact hitems
    · exact List.forall_mem_nil _

/-- Effects without results add none. -/
theorem results_commit_of_none {result : Session × List Effect} {n : Nat}
    (h : ∀ item ∈ Effect.itemsFor result.2 n, item.result? = none) :
    (sb.commit result).results n = sb.results n := by
  rw [results_commit, List.filterMap_eq_nil_iff.2 h, ite_self, List.append_nil]

end Switchboard

namespace Agent

variable {a : Agent} {sb : Switchboard} {link : Link}

/-- What is done with an item for a subscription on an acknowledged socket. -/
theorem receive_of_item (link : Link) (hcur : sb.isOutdated a.epoch = false)
    (hack : link.acknowledged = true)
    {m : Message} {id : String} {item : Item} (hitem : m.item? = some (id, item)) :
    (a.receive sb link m).2 = sb.commit (sb.session.route sb.listening id item) := by
  have hroute : (a.serveUnlessOutdated link (sb.route a.epoch id item)).2 =
      sb.commit (sb.session.route sb.listening id item) := by
    unfold Switchboard.route
    rw [hcur]
    rfl
  cases m with
  | next i result | error i errors | complete i =>
    cases hitem
    unfold receive
    dsimp only
    rw [if_pos hack]
    exact hroute
  | _ => cases hitem

/-- What an agent may put into channels in a turn: errors of its own, and what the server said in the
message that it read in this turn on an acknowledged socket. -/
inductive Puts (a : Agent) (sb sb' : Switchboard) : Item → Prop
  | connection (error : ConnectionError) : a.Puts sb sb' (.error (.connection error))
  | unsent (error : TransportError) : a.Puts sb sb' (.error (.sendFailed error))
  | undecodable (error : DecodeError) : a.Puts sb sb' (.error (.decodeFailed error))
  | said {link : Link} {m : Message} {id : String} {item : Item} (hs : a.stage = .serving link)
      (hack : link.acknowledged = true) (hitem : m.item? = some (id, item))
      (hread : sb'.readings = sb.readings ++ [(link.socket, .ok (.message m))]) :
      a.Puts sb sb' item

/-- Every turn adds such items to a channel, by cases on the move. -/
theorem Move.puts {t : Turn} (hmove : a.Move sb t) (n : Nat) :
    ∃ items, t.2.channel n = sb.channel n ++ items ∧ ∀ item ∈ items, a.Puts sb t.2 item := by
  have hnothing {sb' : Switchboard} (h : sb'.channel n = sb.channel n) :
      ∃ items, sb'.channel n = sb.channel n ++ items ∧ ∀ item ∈ items, a.Puts sb sb' item :=
    ⟨[], by rw [h, List.append_nil], List.forall_mem_nil _⟩
  cases hmove with
  | leave | wake | ask => exact hnothing rfl
  | hangUp _ _ h => exact hnothing (h.channel n)
  | greet _ _ _ _ h => exact hnothing (h.channel n)
  | idle _ _ _ _ h => exact hnothing (h.channel n)
  | deliver _ _ _ h => exact hnothing (h.channel n)
  | retry _ h => exact hnothing ((Switchboard.withSession_channel ..).trans (h.channel n))
  | ended _ h error =>
    refine Switchboard.channel_commit (h.channel n) fun item hitem => ?_
    rw [Session.terminate_items] at hitem
    obtain ⟨-, -, rfl⟩ := List.mem_map.1 hitem
    exact .connection error
  | undeliverable ht hs hout h error =>
    rename_i link m rest arrived sb'
    rcases sb'.abandon_cases m error with heq | ⟨id, -, heq⟩ <;> rw [heq]
    · exact hnothing (h.channel n)
    · refine Switchboard.channel_commit (h.channel n) fun item hitem => ?_
      rw [Session.endOne_items] at hitem
      obtain ⟨-, -, rfl⟩ := List.mem_map.1 hitem
      exact .unsent error
  | acknowledge _ _ _ _ _ h =>
    refine Switchboard.channel_commit (h.channel n) fun item hitem => ?_
    rw [Session.acknowledge_items] at hitem
    cases hitem
  | endOne _ _ _ _ _ _ h =>
    refine Switchboard.channel_commit (h.channel n) fun item hitem => ?_
    rw [Session.endOne_items] at hitem
    obtain ⟨-, -, rfl⟩ := List.mem_map.1 hitem
    exact .undecodable _
  | route _ hs hack _ _ hitem h =>
    refine Switchboard.channel_commit (h.channel n) fun i hi => ?_
    rw [Session.route_items] at hi
    obtain ⟨-, -, rfl⟩ := List.mem_map.1 hi
    refine .said hs hack hitem ?_
    rw [Switchboard.commit_readings, h.readings]
    rfl

/-- A turn puts a result into a channel only after it read a `next` on an acknowledged socket. -/
theorem Move.results {t : Turn} (hmove : a.Move sb t) (n : Nat) :
    t.2.results n = sb.results n ∨ ∃ link id result, a.stage = .serving link ∧
      link.acknowledged = true ∧
      t.2.readings = sb.readings ++ [(link.socket, .ok (.message (.next id result)))] := by
  obtain ⟨items, hchannel, hputs⟩ := hmove.puts n
  by_cases hnone : ∀ item ∈ items, item.result? = none
  · left
    rw [Switchboard.results, hchannel, List.filterMap_append, List.filterMap_eq_nil_iff.2 hnone,
      List.append_nil, Switchboard.results]
  · right
    obtain ⟨item, hitem, hresult⟩ : ∃ item ∈ items, item.result? ≠ none := by
      simpa using hnone
    cases hputs item hitem with
    | connection | unsent | undecodable => exact absurd rfl hresult
    | said hs hack hsaid hread =>
      rename_i link m id
      -- only a `next` carries a result
      cases m with
      | next i result => exact ⟨link, i, result, hs, hack, hread⟩
      | error | complete =>
        cases hsaid
        exact absurd rfl hresult
      | _ => cases hsaid

end Agent

namespace Client

variable {c c' : Client} {e : Event} {n : Nat}

/-! ## What one event puts into a channel -/

/-- The results read for a subscription in an event: by the agent of the session, from its
acknowledged socket, while the subscription is registered and its consumer listens. -/
def heard (c : Client) (n : Nat) (e : Event) : List ExecutionResult :=
  match c.currentLink? with
  | some link =>
    if link.acknowledged = true ∧ c.newId n ∈ c.board.session.roster.ids ∧
        c.board.listening n = true then
      (c.reads e).filterMap fun (k, item) =>
        if k = link.socket then Incoming.resultFor? (c.newId n) item else none
    else []
  | none => []

/-- The results read for a subscription along a run. -/
def hears (c : Client) (n : Nat) : List Event → List ExecutionResult
  | [] => []
  | e :: es => c.heard n e ++ (c.perform e).hears n es

/-- Calls and time put no result into any channel. -/
theorem results_step (hstep : Step e c c') (he : e.isTurn = false) (n : Nat) :
    c'.board.results n = c.board.results n := by
  cases hstep with
  | quiet hq =>
    unfold Switchboard.results Switchboard.channel
    rw [hq.journal]
  | touch ht => rfl
  | launch _ hp params held =>
    exact Switchboard.results_congr (Switchboard.withSession_channel ..)
  | enlist _ hp operation => exact Switchboard.results_congr (Switchboard.withSession_channel ..)
  | refuse _ error =>
    show (Switchboard.note _ _).results n = c.board.results n
    unfold Switchboard.results
    rw [Switchboard.note_channel, List.filterMap_append]
    refine (congrArg (_ ++ ·) (List.filterMap_eq_nil_iff.2 fun item hitem => ?_)).trans
      (List.append_nil _)
    -- the only item of a refused subscription is the reason
    rw [Option.mem_toList] at hitem
    unfold Notice.item? at hitem
    dsimp only at hitem
    split at hitem
    · cases hitem
      rfl
    · cases hitem
  | withdraw _ hx hcancelled =>
    rw [withdrawn_eq]
    exact Switchboard.results_congr (Switchboard.withSession_channel ..)
  | halt hp =>
    rw [halted_board hp]
    refine Switchboard.results_commit_of_none _ fun item hitem => ?_
    rw [Session.terminate_items] at hitem
    obtain ⟨-, -, rfl⟩ := List.mem_map.1 hitem
    rfl
  | turn hagents ht hturn =>
    rw [he] at hturn
    cases hturn
  | pass _ => rfl

theorem results_perform (he : e.isTurn = false) (n : Nat) :
    (c.perform e).board.results n = c.board.results n :=
  perform_induction (e := e) (P := fun c' => c'.board.results n = c.board.results n)
    (fun _ _ h hstep => (results_step hstep he n).trans h) rfl

namespace ReadsIn

variable {a : Agent} {link : Link} {frame : Frame} {rest : List Frame}

/-- It is the agent of the session that reads. -/
theorem currentLink? (h : c.ReadsIn e a link frame rest) (hc : c.Coherent) :
    c.currentLink? = some link := by
  unfold Client.currentLink?
  rw [hc.current?_eq_some h.agent h.reads.told, Option.bind_some, h.reads.stage]

/-- An item for a subscription is routed to the id in it. -/
theorem board_of_item (h : c.ReadsIn e a link frame rest) (hc : c.Coherent)
    (hack : link.acknowledged = true) {m : Message} {id : String} {item : Item}
    (hm : Incoming.ofFrame frame = .ok (.message m)) (hitem : m.item? = some (id, item)) :
    (c.perform e).board =
      (c.board.hear link.socket (.ok (.message m)) rest).commit
        (c.board.session.route c.board.listening id item) := by
  have hcur : (c.board.hear link.socket (.ok (.message m)) rest).isOutdated a.epoch = false :=
    (hc.agents a h.agent).isOutdated h.reads.told
  have hreceive := Agent.receive_of_item (link.heard c.board.now) hcur hack hitem
  rw [h.board, hm]
  rwa [Switchboard.hear_session, Switchboard.hear_listening] at hreceive

end ReadsIn

/-- An entry is the one of a subscription exactly if it has its id. -/
theorem Coherent.consumer_eq_iff (hc : c.Coherent) {id : String} {entry : Roster.Entry}
    (hf : c.board.session.roster.find? id = some entry) : entry.consumer = n ↔ id = c.newId n := by
  have hid := (hc.id_of_entry (Roster.mem_of_find? hf)).1
  rw [Roster.id_of_find? hf] at hid
  constructor
  · rintro rfl
    exact hid
  · intro heq
    exact hc.fresh (hid.symm.trans heq)

/-- What is routed to an id goes to the consumer of its number, and to nobody else. -/
theorem Coherent.itemsFor_route (hc : c.Coherent) (id : String) (item : Item) :
    Effect.itemsFor (c.board.session.route c.board.listening id item).2 n =
      if id = c.newId n ∧ c.newId n ∈ c.board.session.roster.ids then [item] else [] := by
  rw [Session.route_items]
  cases hf : c.board.session.roster.find? id with
  | none =>
    rw [if_neg]
    · rfl
    · rintro ⟨rfl, hreg⟩
      exact Roster.find?_eq_none_iff.1 hf hreg
  | some entry =>
    have hreg : id ∈ c.board.session.roster.ids :=
      Roster.mem_ids.2 ⟨entry, Roster.mem_of_find? hf, Roster.id_of_find? hf⟩
    by_cases hid : id = c.newId n
    · rw [if_pos ⟨hid, hid ▸ hreg⟩]
      simp [Option.filter, (hc.consumer_eq_iff hf).2 hid]
    · rw [if_neg fun h => hid h.1]
      have hne : entry.consumer ≠ n := fun heq => hid ((hc.consumer_eq_iff hf).1 heq)
      simp [Option.filter, hne]

theorem heard_of_silent (h : (c.perform e).board.readings = c.board.readings) (n : Nat) :
    c.heard n e = [] := by
  have hreads : c.reads e = [] := reads_of_readings (h.trans (List.append_nil _).symm)
  unfold heard
  split
  · rw [hreads, List.filterMap_nil, ite_self]
  · rfl

theorem ReadsIn.heard_eq {a : Agent} {link : Link} {frame : Frame} {rest : List Frame}
    (h : c.ReadsIn e a link frame rest) (hc : c.Coherent) (n : Nat) : c.heard n e =
      if link.acknowledged = true ∧ c.newId n ∈ c.board.session.roster.ids ∧
        c.board.listening n = true then
        (Incoming.resultFor? (c.newId n) (Incoming.ofFrame frame)).toList
      else [] := by
  unfold heard
  rw [h.currentLink? hc, reads_of_readings h.readings]
  dsimp only
  split
  · cases hresult : Incoming.resultFor? (c.newId n) (Incoming.ofFrame frame) <;> simp [hresult]
  · rfl

/-- An event without a reading puts no result into any channel. -/
theorem results_of_silent (hc : c.Coherent)
    (h : (c.perform e).board.readings = c.board.readings) (n : Nat) :
    (c.perform e).board.results n = c.board.results n := by
  cases he : e.isTurn with
  | false => exact results_perform he n
  | true =>
    rcases c.perform_cases he with heq | ⟨pre, a, post, o, board, hagents, ht, heq⟩
    · rw [heq]
    · rw [heq] at h ⊢
      have hmove := (hc.agents a (mem_of_split hagents)).move ht
      rcases hmove.results n with hsame | ⟨link, id, result, -, -, hread⟩
      · exact hsame
      · -- then something was read
        have hlength := congrArg List.length (h.symm.trans hread)
        simp at hlength

/-- What an event puts into a channel is what is read for it in the event. -/
theorem results_of_perform (hc : c.Coherent) (e : Event) (n : Nat) :
    (c.perform e).board.results n = c.board.results n ++ c.heard n e := by
  rcases c.reads_cases e with hsilent | ⟨a, link, frame, rest, h⟩
  · rw [heard_of_silent hsilent, List.append_nil]
    exact results_of_silent hc hsilent n
  · rw [h.heard_eq hc n]
    by_cases hnext : link.acknowledged = true ∧
        ∃ id result, Incoming.ofFrame frame = .ok (.message (.next id result))
    · obtain ⟨hack, id, result, hframe⟩ := hnext
      have hboard := h.board_of_item hc hack hframe rfl
      have hresults : (c.board.hear link.socket (.ok (.message (.next id result))) rest).results n =
          c.board.results n := Switchboard.results_congr (Switchboard.hear_channel ..)
      rw [hboard, Switchboard.results_commit, hc.itemsFor_route, hresults, hframe,
        Switchboard.hear_listening]
      simp only [Incoming.resultFor?, hack, true_and]
      by_cases hid : id = c.newId n <;> by_cases hreg : c.newId n ∈ c.board.session.roster.ids <;>
        cases c.board.listening n <;> simp [hid, hreg, Item.result?]
    · -- a turn that reads anything else
      have ht := Agent.turn_of_reads h.reads
      have hsame : (c.perform e).board.results n = c.board.results n := by
        rw [h.board]
        rcases ((hc.agents a h.agent).move ht).results n with
          hsame | ⟨link', id, result, hs, hack, hread⟩
        · exact hsame
        · rw [(Agent.background_attend ..).readings, Switchboard.hear_readings] at hread
          obtain ⟨hsocket, hframe⟩ := Prod.mk.inj (List.singleton_inj.1
            (List.append_cancel_left hread))
          obtain rfl : link = link' := Stage.serving.inj (h.reads.stage.symm.trans hs)
          exact absurd ⟨hack, id, result, hframe⟩ hnext
      have hnone : (if link.acknowledged = true ∧ c.newId n ∈ c.board.session.roster.ids ∧
          c.board.listening n = true then
          (Incoming.resultFor? (c.newId n) (Incoming.ofFrame frame)).toList else []) = [] := by
        split
        · next hready =>
          have hother : Incoming.resultFor? (c.newId n) (Incoming.ofFrame frame) = none := by
            unfold Incoming.resultFor?
            split
            · next id result hframe => exact absurd ⟨hready.1, id, result, hframe⟩ hnext
            · rfl
          rw [hother]
          rfl
        · rfl
      rw [hsame, hnone, List.append_nil]

/-- What a run puts into a channel is what is read for it along the run. -/
theorem results_of_hears (hc : c.Coherent) (es : List Event) (n : Nat) :
    (c.run es).board.results n = c.board.results n ++ c.hears n es := by
  induction es generalizing c with
  | nil => exact (List.append_nil _).symm
  | cons e es ih =>
    rw [run_cons, ih (hc.perform e), results_of_perform hc, hears, List.append_assoc]

/-- What an event reads for another id leaves the entry, the channel and the consumer of a
subscription alone, and so it leaves what waits. -/
theorem untouched_of_other (hc : c.Coherent) {link : Link} (hlink : c.currentLink? = some link)
    (hack : link.acknowledged = true) {m : Message} {id : String} {item : Item} {k : Nat}
    (hread : (k, .ok (.message m)) ∈ c.reads e) (hitem : m.item? = some (id, item))
    (hid : id ≠ c.newId n) :
    (c.perform e).board.session.roster.find? (c.newId n) =
        c.board.session.roster.find? (c.newId n) ∧
      (c.perform e).board.channel n = c.board.channel n ∧
      (c.perform e).board.consumers[n]? = c.board.consumers[n]? ∧
      (c.perform e).board.session.pending = c.board.session.pending := by
  obtain ⟨a, link', frame, rest, h, -, hframe⟩ := readsIn_of_mem hread
  obtain rfl : link' = link := Option.some.inj ((h.currentLink? hc).symm.trans hlink)
  have hitems : Effect.itemsFor (c.board.session.route c.board.listening id item).2 n = [] := by
    rw [hc.itemsFor_route, if_neg fun hboth => hid hboth.1]
  rw [h.board_of_item hc hack hframe hitem, Switchboard.commit_session,
    Switchboard.commit_channel, Switchboard.commit_consumers, hitems, ite_self,
    List.append_nil, Agent.Advance.map_feed_nil, Session.route_pending, Session.route_roster]
  refine ⟨?_, Switchboard.hear_channel .., rfl, rfl⟩
  split
  · rfl
  · exact Roster.find?_erase (Ne.symm hid)

/-- Demultiplexing loses, repeats, reorders and crosses nothing. After every run the results in the
channel of a subscription are those that were read for its id on acknowledged sockets of the
session while it was registered and its consumer listened, in the order in which they were read.
What is read there for any other id, registered or not, leaves the entry, the channel and the
consumer of the subscription and all that waits as they are. -/
theorem results_of_run (settings : Settings) (transport : Transport) {newId : Nat → String}
    (hid : Function.Injective newId) (es : List Event) (n : Nat) :
    let c := (create settings transport newId).run es
    c.board.results n = (create settings transport newId).hears n es ∧
    ∀ (e : Event) (link : Link) (m : Message) (id : String) (item : Item) (k : Nat),
      c.currentLink? = some link → link.acknowledged = true →
      (k, .ok (.message m)) ∈ c.reads e → m.item? = some (id, item) → id ≠ newId n →
      (c.perform e).board.session.roster.find? (newId n) =
          c.board.session.roster.find? (newId n) ∧
        (c.perform e).board.channel n = c.board.channel n ∧
        (c.perform e).board.consumers[n]? = c.board.consumers[n]? ∧
        (c.perform e).board.session.pending = c.board.session.pending := by
  intro c
  have hcreate := coherent_create settings transport hid
  have hnewId : c.newId = newId := newId_run _ es
  refine ⟨?_, fun e link m id item k hlink hack hread hitem hne => ?_⟩
  · exact (results_of_hears hcreate es n).trans (List.nil_append _)
  · rw [← hnewId] at hne ⊢
    exact untouched_of_other (hcreate.run es) hlink hack hread hitem hne

/-- Two subscriptions are taken on, acknowledged and sent. -/
def duet : List Event :=
  [.subscribe { query := "subscription { a }" }, .subscribe { query := "subscription { b }" },
    .turn 0, .turn 0, acknowledgment, .turn 0, .turn 0, .turn 0]

/-- The second subscription gets its result, and a completion of an unknown id leaves it alone. -/
theorem results_of_duet : Function.Injective tally ∧
    (((create untimed {} tally).run (duet ++ [.serverSend 0
      (.text (Message.next (tally 1) default).encode), .turn 0])).board.results 1).length = 1 ∧
    (((create untimed {} tally).run (duet ++
      [.serverSend 0 (.text (Message.complete (tally 2)).encode)])).perform
        (.turn 0)).board.session.roster.find? (tally 1) =
      ((create untimed {} tally).run (duet ++
        [.serverSend 0 (.text (Message.complete (tally 2)).encode)])).board.session.roster.find?
          (tally 1) := by
  refine ⟨tally_injective, ?_, ?_⟩
  · rw [(results_of_run untimed {} tally_injective _ 1).1]
    decide +kernel
  · obtain ⟨-, hothers⟩ := results_of_run untimed {} tally_injective (duet ++
      [.serverSend 0 (.text (Message.complete (tally 2)).encode)]) 1
    have hlink : (((create untimed {} tally).run (duet ++ [.serverSend 0
        (.text (Message.complete (tally 2)).encode)])).currentLink?.any (·.acknowledged)) =
        true := by
      decide +kernel
    have hread : ((create untimed {} tally).run (duet ++ [.serverSend 0
        (.text (Message.complete (tally 2)).encode)])).reads (.turn 0) =
          [(0, .ok (.message (.complete (tally 2))))] := rfl
    obtain ⟨link, hlink, hack⟩ := (Option.any_eq_true _ _).1 hlink
    exact (hothers (.turn 0) link (.complete (tally 2)) (tally 2) .complete 0 hlink hack
      (by rw [hread]; exact List.mem_singleton_self _) rfl (by decide +kernel)).1

end Client

end LiveQuery
