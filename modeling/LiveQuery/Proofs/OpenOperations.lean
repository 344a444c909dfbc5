import LiveQuery.Proofs.Attuned

/-!
# Client and server agree on the open operations

The ledger of the socket in use is balanced after every run (`Client.attuned_run`). So, unless a
send over it failed, the operations that are open on the wire are exactly the registered ones, and
each was asked for once (`Client.isOpen_iff_registered`).
-/

namespace LiveQuery

namespace Client

variable {c c' : Client} {e : Event}

/-- The agent of the session is attuned. -/
def Attuned (c : Client) : Prop := ∀ a ∈ c.agents, a.told = false → a.Attuned c.board

namespace Attuned

/-- Nothing happens to the session, to the agents, or on any socket. -/
theorem congr (h : c.Attuned) (hagents : c'.agents = c.agents)
    (hsession : c'.board.session = c.board.session) {news : List JournalEntry}
    (hjournal : c'.board.journal = news ++ c.board.journal)
    (hnews : ∀ entry ∈ news, ∃ n item, entry.notice = .delivered n item)
    (hknows : ∀ id, c.board.Knows id → c'.board.Knows id) : c'.Attuned := by
  intro a ha ht
  rw [hagents] at ha
  refine (h a ha ht).congr hsession (fun k _ => ?_) (fun k _ id => ?_) (fun k _ => ?_) hknows
  · have hnone : news.filterMap (fun entry => entry.notice.message? k) = [] := by
      rw [List.filterMap_eq_nil_iff]
      intro entry he
      obtain ⟨n, item, hn⟩ := hnews entry he
      rw [hn]
      rfl
    unfold Switchboard.messagesOn
    rw [hjournal, List.filterMap_append, hnone, List.nil_append]
  · unfold Switchboard.endedOn
    rw [hjournal]
    clear hjournal
    induction news with
    | nil => rfl
    | cons entry rest ih =>
      obtain ⟨n, item, hn⟩ := hnews entry (List.mem_cons_self ..)
      have hrest := ih fun e he => hnews e (List.mem_cons_of_mem _ he)
      simpa [endedSince, hn, Notice.ends, Notice.asksFor] using hrest
  · have hnone : news.any (fun entry => entry.notice.failsOn k) = false := by
      rw [List.any_eq_false]
      intro entry he
      obtain ⟨n, item, hn⟩ := hnews entry he
      rw [hn]
      exact Bool.false_ne_true
    unfold Switchboard.failedOn
    rw [hjournal, List.any_append, hnone, Bool.false_or]

theorem knows_modify (n : Nat) (f : Consumer → Consumer) (hf : ∀ x, (f x).id = x.id)
    {id : String} (h : c.board.Knows id) : (c.modifyConsumer n f).board.Knows id := by
  obtain ⟨i, x, hx, rfl⟩ := h
  have hget : (c.modifyConsumer n f).board.consumers[i]? =
      some (if n = i then f x else x) := by
    show (c.board.consumers.modify n f)[i]? = _
    rw [List.getElem?_modify, hx]
    rfl
  refine ⟨i, _, hget, ?_⟩
  split
  · exact hf x
  · rfl

theorem knows_append {new : Consumer} {id : String} (h : c.board.Knows id) :
    ({ c.board with consumers := c.board.consumers ++ [new] } : Switchboard).Knows id := by
  obtain ⟨n, x, hx, rfl⟩ := h
  refine ⟨n, x, ?_, rfl⟩
  have hlt := (List.getElem?_eq_some_iff.1 hx).1
  exact (List.getElem?_append_left hlt).trans hx

/-- The id of the next subscription is that of no other one. -/
theorem not_knows_next (hc : c.Coherent) : ¬ c.board.Knows (c.newId c.board.consumers.length) := by
  rintro ⟨n, x, hx, hid⟩
  have hname := hc.named n x hx
  have heq := hc.fresh (hname.symm.trans hid)
  have hlt := (List.getElem?_eq_some_iff.1 hx).1
  omega

/-- The caller changes the session: an agent stays attuned if the ledger of its acknowledged
socket stays balanced. -/
theorem of_withSession (h : c.Attuned) (hc : c.Coherent) {sb : Switchboard}
    (hsb : sb = { c.board with consumers := sb.consumers }) {session : Session}
    (hbalanced : ∀ k, c.phase = .acknowledged → (c.board.ledger k).Balanced c.board.Knows →
      ((sb.withSession session).ledger k).Balanced sb.Knows) :
    ({ c with board := sb.withSession session } : Client).Attuned := by
  have hknows : (sb.withSession session).Knows = sb.Knows := by
    unfold Switchboard.Knows
    rw [Switchboard.withSession_consumers]
  have hmessages (k : Nat) : (sb.withSession session).messagesOn k = c.board.messagesOn k := by
    rw [Switchboard.withSession_messagesOn, hsb]
    rfl
  intro a ha ht
  constructor
  · intro link hs hack m hm
    rw [hmessages] at hm
    exact (h a ha ht).silent link hs hack m hm
  · intro link hs hack
    have hphase : c.phase = .acknowledged :=
      ((hc.agents a ha).acknowledged_of_serving ht hs).2 hack
    rw [hknows]
    exact hbalanced _ hphase ((h a ha ht).balanced link hs hack)

/-- Those whose consumer is gone are taken back. -/
theorem balanced_pruned (hc : c.Coherent) {k : Nat}
    (h : (c.board.ledger k).Balanced c.board.Knows) (listening : Nat → Bool) :
    Ledger.Balanced c.board.Knows ⟨(c.board.session.prune listening).roster.ids,
      c.board.wire k ++ (c.board.session.forgotten listening).map Message.complete,
      c.board.endedOn k, c.board.failedOn k⟩ := by
  refine h.takeBack (Session.dismisses_prune hc.session listening).before (fun id => ?_) rfl
    (fun _ => rfl) rfl
  rw [Session.prune_roster]
  exact Roster.mem_ids_pruned hc.session.roster

/-- A new subscription is asked for, after those whose consumer is gone were taken back. -/
theorem enlist (h : c.Attuned) (hc : c.Coherent) (operation : Operation) :
    (c.enlisted operation).Attuned := by
  refine h.of_withSession hc rfl fun k hphase hb => ?_
  have hnew := not_knows_next hc
  generalize hid : c.newId c.board.consumers.length = id at hnew
  generalize hsb : ({ c.board with consumers := c.board.consumers ++ [({ id } : Consumer)] } :
    Switchboard) = sb
  have hsession : sb.session = c.board.session := by rw [← hsb]
  have hqueue : sb.session.outgoing.isSome = true := by
    rw [hsession]
    exact hc.session.queue.2 hphase
  have hp : sb.session.phase = .acknowledged := by
    rw [hsession]
    exact hphase
  have hout : (sb.session.subscribe sb.listening id operation c.board.consumers.length).outgoing =
      sb.session.outgoing.map (· ++ ((c.board.session.forgotten sb.listening).map
        Message.complete ++ [.subscribe id operation])) := by
    rw [Session.subscribe_outgoing_of_acknowledged hp, hsession]
  have hwire : sb.wire k = c.board.wire k := by rw [← hsb]; rfl
  have hended : sb.endedOn k = c.board.endedOn k := by rw [← hsb]; rfl
  have hfailed : sb.failedOn k = c.board.failedOn k := by rw [← hsb]; rfl
  rw [Switchboard.ledger_withSession k hqueue hout, hwire, hended, hfailed]
  refine (balanced_pruned hc hb sb.listening).ask (fun i hi => ?_) ?_ hnew (fun i => ?_)
    (List.append_assoc ..).symm (fun i => ?_) rfl
  · rw [← hsb]
    exact knows_append hi
  · rw [← hsb]
    exact ⟨c.board.consumers.length, _, List.getElem?_concat_length, rfl⟩
  · rw [Session.mem_ids_subscribe, hsession]
  · dsimp only
    rw [List.any_append, Switchboard.any_asksFor_complete, Bool.false_or, List.any_cons,
      List.any_nil, Bool.or_false]
    rfl

/-- A cancel takes the id back. -/
theorem withdraw (h : c.Attuned) (hc : c.Coherent) {n : Nat} {x : Consumer} :
    (c.withdrawn n x).Attuned := by
  have hmark {id : String} (hid : c.board.Knows id) :
      (c.modifyConsumer n Consumer.markCancelled).board.Knows id :=
    knows_modify n Consumer.markCancelled (fun _ => rfl) hid
  rw [withdrawn_eq]
  rcases c.board.session.withdraw_cases x with heq | heq
  · rw [heq]
    refine h.of_withSession hc rfl fun k hphase hb => ?_
    have hout := Session.cancel_outgoing_of_acknowledged c.board.session x.id hphase
    have hqueue : c.board.session.outgoing.isSome = true := hc.session.queue.2 hphase
    have hledger := @Switchboard.ledger_withSession
      (c.modifyConsumer n Consumer.markCancelled).board k _ _ hqueue hout
    change Ledger.Balanced _
      (((c.modifyConsumer n Consumer.markCancelled).board.withSession
        (c.board.session.cancel x.id)).ledger k)
    rw [hledger]
    refine (hb.weaken fun _ => hmark).takeBackOne (fun i => ?_) rfl (fun i => ?_) rfl
    · rw [Session.cancel_roster]
      exact Session.mem_ids_erase
    · dsimp only
      rw [Switchboard.any_asksFor_complete]
      rfl
  · -- the session stays as it is
    rw [heq, Switchboard.withSession_self { c.board with consumers := _ }]
    exact h.congr rfl rfl (List.nil_append _).symm
      (fun _ he => absurd he List.not_mem_nil) fun _ => hmark

theorem halt (hc : c.Coherent) : c.halted.Attuned := by
  intro b hb ht
  -- after a stop every agent was told
  obtain ⟨a, ha, rfl⟩ := List.mem_map.1 hb
  exfalso
  split at ht
  · cases ht
  · next hne => exact hne ((hc.agents a ha).current.1 ht)

theorem launch (hc : c.Coherent) (hp : c.phase = .notStarted) (params : Option Json.Members)
    (held : Bool) : (c.launched params held).Attuned := by
  intro a ha ht
  rcases List.mem_append.1 ha with ha | ha
  · exact absurd hp ((hc.agents a ha).started ht)
  · rw [List.mem_singleton.1 ha]
    exact Agent.attuned_of_idle nofun

theorem turn (h : c.Attuned) (hc : c.Coherent) {pre post : List Agent} {a : Agent}
    {o : Option Agent} {board : Switchboard} (hagents : c.agents = pre ++ a :: post)
    (hturn : a.turn c.board = some (o, board)) :
    ({ c with agents := pre ++ (o.toList ++ post), board } : Client).Attuned := by
  have hmem := mem_of_split hagents
  have hfits := hc.agents a hmem
  have hmove := hfits.move hturn
  have hout := hmove.outcome hfits hc.session
  intro b hb hbt
  cases hat : a.told with
  | false =>
    rcases mem_turned.1 hb with hb | rfl
    · have htold := hc.told_of_other hagents hat hb
      rw [hbt] at htold
      cases htold
    · exact (h a hmem hat).move hc hfits hmove b rfl
  | true =>
    obtain ⟨rfl, htraffic⟩ := hmove.of_told hat
    have hb : b ∈ pre ++ post := (mem_turned.1 hb).resolve_right nofun
    have hbattuned := h b (mem_of_other hagents hb) hbt
    have hknows : ∀ id, c.board.Knows id → board.Knows id := fun id =>
      Switchboard.Knows.of_feed hout.advance.consumers
    rcases htraffic with heq | ⟨link, news, hs, htraffic⟩
    · rw [show board = c.board from heq]
      exact hbattuned
    · have hne : ∀ k, b.socket? = some k → k ≠ link.socket := by
        rintro _ hbk rfl
        exact hc.socket_ne hagents hb hbk (Agent.socket?_of_serving hs)
      exact hbattuned.congr (hout.told hat).2
        (fun k hk => htraffic.messagesOn_elsewhere (hne k hk))
        (fun k hk id => htraffic.endedOn_elsewhere (hne k hk) id)
        (fun k hk => htraffic.failedOn_elsewhere (hne k hk)) hknows

/-- Every step keeps the agent of the session attuned. -/
theorem step (h : c.Attuned) (hc : c.Coherent) (hstep : Step e c c') : c'.Attuned := by
  cases hstep with
  | quiet hq =>
    refine h.congr hq.agents hq.session (hq.journal.trans (List.nil_append _).symm)
      (fun _ he => absurd he List.not_mem_nil) fun id hid => ?_
    obtain ⟨n, x, hx, rfl⟩ := hid
    exact ⟨n, x, by rwa [hq.consumers], rfl⟩
  | touch ht =>
    refine h.congr rfl rfl (List.nil_append _).symm
      (fun _ he => absurd he List.not_mem_nil) fun id hid => knows_modify _ _ (fun x => ?_) hid
    cases ht with
    | poll =>
      obtain ⟨unread, status, hpoll⟩ := x.poll_eq _
      dsimp only
      rw [hpoll]
    | drop => rfl
    | settle _ =>
      obtain ⟨status, hsettle⟩ := x.settleCancelled_eq
      rw [hsettle]
  | launch he hp params held => exact launch hc hp params held
  | enlist he hp operation => exact h.enlist hc operation
  | refuse he error =>
    refine h.congr rfl rfl (List.singleton_append).symm (fun entry hentry => ?_)
      fun id hid => knows_append hid
    rw [List.mem_singleton.1 hentry]
    exact ⟨_, _, rfl⟩
  | withdraw he hx hcancelled => exact h.withdraw hc
  | halt hp => exact halt hc
  | turn hagents ht => exact h.turn hc hagents ht
  | pass he =>
    exact h.congr rfl rfl (List.nil_append _).symm
      (fun _ he => absurd he List.not_mem_nil) fun _ hid => hid

end Attuned

/-- The agent of the session is attuned after every run. -/
theorem attuned_run (settings : Settings) (transport : Transport) {newId : Nat → String}
    (hid : Function.Injective newId) (es : List Event) :
    ((create settings transport newId).run es).Attuned := by
  have hboth := run_induction (P := fun c => c.Coherent ∧ c.Attuned)
    (fun e c c' h hstep => ⟨h.1.step hstep, h.2.step h.1 hstep⟩)
    ⟨coherent_create settings transport hid, fun _ ha => absurd ha List.not_mem_nil⟩ es
  exact hboth.2

/-- Client and server agree on the open operations. After every run that leaves the session
acknowledged a socket is in use, and unless a send over it failed, the ids whose operations are
open on its wire (asked for, not taken back, and not ended by the server since) are exactly the
registered ones, and each of these was asked for once. -/
theorem isOpen_iff_registered (settings : Settings) (transport : Transport)
    {newId : Nat → String} (hid : Function.Injective newId) (es : List Event)
    (hphase : ((create settings transport newId).run es).phase = .acknowledged) :
    ∃ link, ((create settings transport newId).run es).currentLink? = some link ∧
      let sb := ((create settings transport newId).run es).board
      (sb.failedOn link.socket = false → ∀ id,
        ((sb.ledger link.socket).IsOpen id ↔ id ∈ sb.session.roster.ids) ∧
        (id ∈ sb.session.roster.ids →
          (sb.wire link.socket).countP (Message.asksFor id) = 1)) := by
  have hc := coherent_run settings transport hid es
  have hattuned := attuned_run settings transport hid es
  generalize (create settings transport newId).run es = c at hphase hc hattuned
  obtain ⟨link, hlink, a, ha, ht, hs, hack⟩ := hc.currentLink?_of_acknowledged hphase
  have hb := (hattuned a ha ht).balanced link hs hack
  refine ⟨link, hlink, ?_⟩
  intro sb hfailed id
  exact ⟨hb.isOpen_iff hfailed id, hb.asked id⟩

/-- After the acknowledgment the subscription that waited is an open operation. -/
theorem isOpen_after_greeting : Function.Injective tally ∧
    ((create untimed {} tally).run
      (greeting ++ [acknowledgment, .turn 0, .turn 0])).phase = .acknowledged ∧
    ∃ link, ((create untimed {} tally).run
        (greeting ++ [acknowledgment, .turn 0, .turn 0])).currentLink? = some link ∧
      let sb := ((create untimed {} tally).run
        (greeting ++ [acknowledgment, .turn 0, .turn 0])).board
      sb.failedOn link.socket = false ∧ (sb.ledger link.socket).IsOpen (tally 0) := by
  have hphase : ((create untimed {} tally).run
      (greeting ++ [acknowledgment, .turn 0, .turn 0])).phase = .acknowledged := by
    decide +kernel
  have hregistered : tally 0 ∈ ((create untimed {} tally).run
      (greeting ++ [acknowledgment, .turn 0, .turn 0])).board.session.roster.ids := by
    decide +kernel
  have hsent : ((create untimed {} tally).run
      (greeting ++ [acknowledgment, .turn 0, .turn 0])).currentLink?.all (fun link =>
        !((create untimed {} tally).run
          (greeting ++ [acknowledgment, .turn 0, .turn 0])).board.failedOn link.socket) = true := by
    decide +kernel
  obtain ⟨link, hlink, hopen⟩ := isOpen_iff_registered _ _ tally_injective _ hphase
  rw [hlink, Option.all_some, Bool.not_eq_true'] at hsent
  exact ⟨tally_injective, hphase, link, hlink, hsent, (hopen hsent (tally 0)).1.2 hregistered⟩

end Client

end LiveQuery
