import LiveQuery.Proofs.Replay
import LiveQuery.Proofs.Spared

/-!
# What the loss of a socket costs

A socket whose server is gone still takes its agent's sends, every one of which fails and ends a
subscription. A subscription that is not sheltered (`Client.shelters`) is doomed: left to itself
the agent sends its request on the dead socket, and the failed send is its end
(`Client.Doomed.works_loss`). A sheltered one outlives the loss (`Client.Spared.run`), and the next
acknowledgment asks for it again (`Client.Chronicle.replayed`). Together these say which
subscriptions a close that the session recovers from ends (`Client.outlives_close_iff`).
-/

namespace LiveQuery

/-- A close frame is no acknowledgment. -/
theorem meetsAck_append_close (frames : List Frame) (frame : CloseFrame) :
    meetsAck (frames ++ [.close frame]) = meetsAck frames := by
  induction frames with
  | nil => rfl
  | cons f rest ih =>
    rw [List.cons_append, meetsAck, meetsAck]
    split
    · rfl
    · exact ih
    · rfl

/-- Who is fed has not lost anything yet, since the report of a loss is a last item. -/
theorem Switchboard.Accounts.unlost {sb : Switchboard} {n : Nat} {x : Consumer}
    {yields : List (Except SubscribeError ExecutionResult)} (h : sb.Accounts n x yields)
    (hfed : sb.session.roster.feeds n = true) :
    ∀ item ∈ sb.channel n, item.isLoss = false := by
  intro item hitem
  have hlast := h.fed hfed item hitem
  cases item with
  | error error => cases hlast
  | _ => rfl

/-- An agent that serves a socket and has to wait has nothing to send. -/
theorem Agent.outgoing_of_waits {a : Agent} {sb : Switchboard} {link : Link}
    (hs : a.stage = .serving link) (hcur : sb.isOutdated a.epoch = false)
    (hwaits : a.turn sb = none) : sb.session.outgoing.getD [] = [] := by
  rw [turn_of_serving hs] at hwaits
  obtain ⟨-, -, -, -, hnext, -⟩ := waits_of_serveTurn hwaits
  exact Switchboard.nextOutgoing_eq_none hcur hnext

namespace Client

variable {c c' : Client} {a : Agent} {link : Link} {n : Nat}

/-! ## Who is not sheltered -/

/-- What a consumer wants is in the outgoing queue if it was not sent. -/
theorem queued_of_unsent (h : c.Sound n) (ha : a ∈ c.agents) (hat : a.told = false)
    (hs : a.stage = .serving link) (hacked : link.acknowledged = true)
    (hfed : c.board.session.roster.feeds n = true)
    (hunsent : ∀ m ∈ c.board.messagesOn link.socket, m.asksFor (c.newId n) = false) :
    ∃ m ∈ c.board.session.outgoing.getD [], m.id? = some (c.newId n) := by
  have hasked := ((h.attuned a ha hat).balanced link hs hacked).asked (c.newId n)
    (h.coherent.feeds_iff_registered.1 hfed)
  obtain ⟨m, hm, hasks⟩ := List.countP_pos_iff.1 (hasked.symm ▸ Nat.one_pos)
  rcases List.mem_append.1 hm with hm | hm
  · rw [hunsent m hm] at hasks
    cases hasks
  · obtain ⟨operation, rfl⟩ := Message.asksFor_iff.1 hasks
    exact ⟨_, hm, rfl⟩

/-- A send that fails ends the subscription it is for. -/
theorem loss_of_abandon (hc : c.Coherent) {sb : Switchboard}
    (hroster : sb.session.roster = c.board.session.roster) (hlistening : sb.listening n = true)
    (hfed : c.board.session.roster.feeds n = true) {m : Message} (hm : m.id? = some (c.newId n))
    (error : TransportError) : Item.error (.sendFailed error) ∈ (sb.abandon m error).channel n := by
  obtain ⟨entry, hentry, rfl⟩ := Roster.feeds_iff.1 hfed
  have hfind : sb.session.roster.find? (c.newId entry.consumer) = some entry := by
    rw [hroster, ← (hc.id_of_entry hentry).1]
    exact Roster.find?_of_mem hc.session.roster hentry
  unfold Switchboard.abandon
  rw [hm]
  dsimp only
  rw [Switchboard.commit_channel, hlistening, if_pos rfl, Session.endOne_items, hfind,
    Option.filter_some, if_pos (beq_self_eq_true entry.consumer)]
  exact List.mem_append_right _ (List.mem_singleton_self _)

/-- Before the acknowledgment nothing that is read ends a consumer that listens. -/
theorem kept_of_unacknowledged (hc : c.Coherent) (ha : a ∈ c.agents)
    (hs : a.stage = .serving link) (hnot : link.acknowledged = false)
    (hout : c.board.session.outgoing.getD [] = []) {a' : Agent} {sb : Switchboard}
    (ht : a.turn c.board = some (some a', sb)) (hfed : c.board.session.roster.feeds n = true)
    (hlistening : c.board.listening n = true) :
    sb.session.roster.feeds n = true ∧ sb.listening n = true := by
  obtain ⟨items, hd, hcause⟩ := ((hc.agents a ha).move ht).delivery hc n
  have hnil : items = [] := by
    by_contra hne
    rcases hcause hne with hnone | hqueue | ⟨hacked, -⟩
    · cases hnone
    · exact hqueue hout
    · rw [Agent.isAcknowledged_of_serving hs, hnot] at hacked
      cases hacked
  constructor
  · by_contra hunfed
    obtain ⟨item, hitem, -⟩ := hd.roster.silent hlistening hfed (Bool.eq_false_iff.2 hunfed)
    rw [hnil] at hitem
    cases hitem
  · obtain ⟨x, hx, hl⟩ := c.board.listening_iff.1 hlistening
    refine sb.listening_iff.2 ⟨x.feed items, ?_, (x.feed_listening items).trans hl⟩
    exact hd.consumers.trans (by rw [hx]; rfl)

/-- What is in the outgoing queue for a registered subscription asks for it. -/
theorem asksFor_of_outgoing (h : c.Sound n) (ha : a ∈ c.agents) (hat : a.told = false)
    (hs : a.stage = .serving link) (hacked : link.acknowledged = true)
    (hfed : c.board.session.roster.feeds n = true) {m : Message}
    (hm : m ∈ c.board.session.outgoing.getD []) (hid : m.id? = some (c.newId n)) :
    m.asksFor (c.newId n) = true := by
  have hbalanced := (h.attuned a ha hat).balanced link hs hacked
  have hwire : m ∈ (c.board.ledger link.socket).wire := List.mem_append_right _ hm
  refine (hbalanced.plain m hwire _ hid).resolve_right ?_
  rintro rfl
  exact hbalanced.kept _ (h.coherent.feeds_iff_registered.1 hfed) hwire

/-- The request of a consumer was sent over a socket, and the send failed, which ended the
subscription. -/
structure Undone (c : Client) (n k : Nat) : Prop where
  asked : ∃ m ∈ c.board.messagesOn k, m.asksFor (c.newId n) = true
  ended : ∃ error, Item.error (.sendFailed error) ∈ c.board.channel n

/-- A stranded agent will send what a consumer wants: it is in the outgoing queue, or an
acknowledgment is left that puts it there. -/
structure Doomed (c : Client) (n : Nat) (a : Agent) (link : Link) : Prop where
  stranded : c.Stranded a link
  calm : link.isCalm c.board.now = true
  fed : c.board.session.roster.feeds n = true
  listening : c.board.listening n = true
  due : (link.acknowledged = true ∧
      ∃ m ∈ c.board.session.outgoing.getD [], m.id? = some (c.newId n)) ∨
    (link.acknowledged = false ∧ meetsAck (c.board.unread link.socket) = true)

/-- A subscription is adrift if the agent of its session is stranded, within the retry budget, and
its consumer listens and was told of no loss. -/
structure Adrift (c : Client) (n : Nat) (a : Agent) (link : Link) : Prop where
  sound : c.Sound n
  stranded : c.Stranded a link
  budget : (if link.acknowledged then 0 else a.attempt) < c.board.settings.maxReconnects
  fed : c.board.session.roster.feeds n = true
  listening : c.board.listening n = true
  clean : ∀ item ∈ c.board.channel n, item.isLoss = false

/-- A subscription adrift that is not sheltered is doomed. -/
theorem Adrift.doomed (h : c.Adrift n a link) (hexposed : c.shelters link n = false) :
    c.Doomed n a link := by
  unfold shelters at hexposed
  rw [Bool.or_eq_false_iff, Bool.not_eq_false'] at hexposed
  obtain ⟨hcalm, hexposed⟩ := hexposed
  refine ⟨h.stranded, hcalm, h.fed, h.listening, ?_⟩
  cases hacked : link.acknowledged with
  | true =>
    rw [hacked, if_pos rfl, List.any_eq_false] at hexposed
    refine Or.inl ⟨rfl, queued_of_unsent h.sound h.stranded.mem h.stranded.told h.stranded.serving
      hacked h.fed fun m hm => ?_⟩
    exact Bool.eq_false_iff.2 (hexposed m hm)
  | false =>
    rw [hacked, if_neg Bool.false_ne_true, Bool.not_eq_false'] at hexposed
    exact Or.inr ⟨rfl, hexposed⟩

namespace Doomed

/-- Without anything to send an acknowledgment is left. -/
theorem unmet_of_idle (h : c.Doomed n a link) (hout : c.board.session.outgoing.getD [] = []) :
    link.acknowledged = false ∧ meetsAck (c.board.unread link.socket) = true := by
  refine h.due.resolve_left ?_
  rintro ⟨-, m, hm, -⟩
  rw [hout] at hm
  cases hm

/-- Its agent is not stuck: it has something to send, or an acknowledgment to read. -/
theorem not_isStuck (h : c.Doomed n a link) : ¬ link.IsStuck c.board := by
  intro hstuck
  obtain ⟨hout, hmeets⟩ := hstuck h.calm
  obtain ⟨hnot, hmeet⟩ := h.unmet_of_idle hout
  rw [hmeets hnot] at hmeet
  cases hmeet

/-- If the first message of the queue is for another subscription, the one that will fail is behind
it. -/
theorem queued_behind (h : c.Doomed n a link) (hacked : link.acknowledged = true) {m : Message}
    {rest : List Message} (hout : c.board.session.outgoing = some (m :: rest))
    (hm : m.id? ≠ some (c.newId n)) : ∃ m' ∈ rest, m'.id? = some (c.newId n) := by
  rcases h.due with ⟨-, m', hm', hid⟩ | ⟨hnot, -⟩
  · rw [hout, Option.getD_some] at hm'
    rcases List.mem_cons.1 hm' with rfl | hm'
    · exact absurd hid hm
    · exact ⟨m', hm', hid⟩
  · rw [hacked] at hnot
    cases hnot

/-- A turn of its own brings a stranded agent closer to the send that fails. -/
theorem turn (h : c.Doomed n a link) (hsound : c.Sound n) {pre post : List Agent} {t : Turn}
    (hagents : c.agents = pre ++ a :: post) (ht : a.turn c.board = some t)
    (hc' : c' = { c with agents := pre ++ (t.1.toList ++ post), board := t.2 }) :
    c'.board.opens = c.board.opens ∧ (c'.Undone n link.socket ∨
      ∃ link', link'.socket = link.socket ∧ c'.Doomed n { a with stage := .serving link' } link' ∧
        ((c'.board.unread link'.socket).length < (c.board.unread link.socket).length ∨
          (c'.board.unread link'.socket).length = (c.board.unread link.socket).length ∧
            (c'.board.session.outgoing.getD []).length <
              (c.board.session.outgoing.getD []).length)) := by
  have hc := hsound.coherent
  have hnext : c'.Sound n := hsound.step (hc' ▸ .turn hagents ht rfl : Step (.turn 0) c c')
  subst hc'
  cases h.stranded.ebb hc ht with
  | ended hfate hstuck htraffic herror => exact absurd hstuck h.not_isStuck
  | lost hfate hstuck htraffic => exact absurd hstuck h.not_isStuck
  | drain hcalm hout hexchange hdead hunread =>
    rename_i m rest arrived sb' error
    refine ⟨(Switchboard.abandon_opens ..).trans hexchange.opens, ?_⟩
    have hroster : sb'.session.roster = c.board.session.roster := by rw [hexchange.session]
    have hlistening : sb'.listening n = true := (congrFun hexchange.listening n).trans h.listening
    have hacked := acknowledged_of_outgoing hc h.stranded.mem h.stranded.told
      h.stranded.serving (by rw [hout]; rfl)
    by_cases hm : m.id? = some (c.newId n)
    · left
      have hasks := asksFor_of_outgoing hsound h.stranded.mem h.stranded.told h.stranded.serving
        hacked h.fed (by rw [hout]; exact List.mem_cons_self ..) hm
      refine ⟨⟨m, ?_, hasks⟩, error, loss_of_abandon hc hroster hlistening h.fed hm error⟩
      dsimp only
      rw [Switchboard.abandon_messagesOn, hexchange.messagesOn]
      exact List.mem_append_right _ (by simp [Notice.message?])
    · right
      obtain ⟨-, hkept⟩ := abandon_of_other hc hroster hm error
      have hqueue : (sb'.abandon m error).session.outgoing.getD [] = rest := by
        rw [Switchboard.abandon_outgoing, hexchange.session]
        rfl
      have hunread' : (sb'.abandon m error).unread link.socket = c.board.unread link.socket :=
        (Switchboard.abandon_unread ..).trans hunread
      refine ⟨link, rfl, ⟨?_, ?_, ?_, ?_, Or.inl ⟨hacked, hqueue ▸ h.queued_behind hacked hout hm⟩⟩,
        Or.inr ⟨?_, ?_⟩⟩
      · exact ⟨mem_turned.2 (Or.inr rfl), h.stranded.told, rfl, hdead.abandon m error⟩
      · dsimp only
        rw [Switchboard.abandon_now, hexchange.now]
        exact h.calm
      · exact hkept (by rw [hroster]; exact h.fed)
      · exact (Switchboard.abandon_listening ..).trans hlistening
      · dsimp only
        rw [hunread']
      · dsimp only
        rw [hqueue, hout, Option.getD_some]
        exact Nat.lt_succ_self _
  | read hcalm hout hunread hsocket hcalm' hdead hunread' hmessages hkept hfate hstays hack =>
    rename_i f rest link' sb'
    obtain ⟨hnow, hopens, -⟩ := hkept
    refine ⟨hopens, Or.inr ⟨link', hsocket, ?_, Or.inl ?_⟩⟩
    · obtain ⟨hnot, hmeet⟩ := h.unmet_of_idle hout
      obtain ⟨hfed, hlistening⟩ := kept_of_unacknowledged hc h.stranded.mem h.stranded.serving hnot
        hout ht h.fed h.listening
      have hstranded : ({ c with
          agents := pre ++ ((some { a with stage := .serving link' } : Option Agent).toList ++ post)
          board := sb' } : Client).Stranded { a with stage := .serving link' } link' :=
        ⟨mem_turned.2 (Or.inr rfl), h.stranded.told, rfl, by rw [hsocket]; exact hdead⟩
      refine ⟨hstranded, ?_, hfed, hlistening, ?_⟩
      · dsimp only
        rw [hnow]
        exact hcalm'
      · cases hacked : link'.acknowledged with
        | true =>
          refine Or.inl ⟨rfl, queued_of_unsent hnext hstranded.mem hstranded.told
            hstranded.serving hacked hfed fun m hm => ?_⟩
          -- nothing of a subscription was sent before the acknowledgment
          dsimp only at hm
          rw [hsocket, hmessages] at hm
          exact Message.asksFor_of_id?_eq_none ((hsound.attuned a h.stranded.mem
            h.stranded.told).silent link h.stranded.serving hnot m hm) _
        | false =>
          rw [hunread, hack hnot, hacked, Bool.false_or] at hmeet
          exact Or.inr ⟨rfl, by dsimp only; rw [hsocket, hunread']; exact hmeet⟩
    · dsimp only
      rw [hsocket, hunread', hunread]
      exact Nat.lt_succ_self _

/-- Left to themselves the agents end a doomed subscription before they ask for another socket. -/
theorem works_loss {c : Client} {a : Agent} {link : Link} (h : c.Doomed n a link)
    (hsound : c.Sound n) :
    ∃ c', c.Works c' ∧ c'.board.opens = c.board.opens ∧ c'.Undone n link.socket := by
  obtain ⟨t, ht⟩ := Agent.turn_of_dead h.stranded.serving h.stranded.dead
  obtain ⟨pre, post, hagents⟩ := List.append_of_mem h.stranded.mem
  have hwork := works_turn hagents ht
  obtain ⟨hopens, hundone | ⟨link', hsocket, hdoomed, hshorter⟩⟩ := h.turn hsound hagents ht rfl
  · exact ⟨_, hwork, hopens, hundone⟩
  · have hsound' := hsound.step (.turn hagents ht rfl : Step (.turn 0) c _)
    obtain ⟨c', hworks, hopens', hundone⟩ := hdoomed.works_loss hsound'
    exact ⟨c', hwork.trans hworks, hopens'.trans hopens, hsocket ▸ hundone⟩
termination_by ((c.board.unread link.socket).length,
  (c.board.session.outgoing.getD []).length)
decreasing_by
  exact Prod.lex_def.2 hshorter

end Doomed

/-- No loss is reported to a subscription adrift before the client asks for another socket, if and
only if it is sheltered. -/
theorem Adrift.lossless_iff (h : c.Adrift n a link) :
    (∀ es, (∀ e ∈ es, e.isFault = false) → (c.run es).board.opens = c.board.opens →
        ∀ item ∈ (c.run es).board.channel n, item.isLoss = false) ↔
      c.shelters link n = true := by
  constructor
  · intro hnone
    by_contra hexposed
    have hdoomed := h.doomed (Bool.eq_false_iff.2 hexposed)
    obtain ⟨c', ⟨es, hes, rfl⟩, hopens, hundone⟩ := hdoomed.works_loss h.sound
    obtain ⟨error, hitem⟩ := hundone.ended
    cases hnone es (fun e he => (Event.quiet_of_isTurn (hes e he)).2) hopens _ hitem
  · intro hsheltered es hes hopens
    obtain ⟨hsent, hunmet⟩ := shelters_iff.1 hsheltered
    have hspared : c.Spared n := h.stranded.spared ⟨h.budget, hsent, hunmet⟩ h.clean
    exact ((hspared.run h.sound hes).resolve_left hopens.not_gt).clean

/-! ## The next acknowledgment -/

/-- Once the agents have settled everything that was queued for the socket in use was sent. -/
theorem Queued.sent_of_settled (h : c.Queued) (hc : c.Coherent) (hsettled : c.isSettled = true)
    (hlink : c.currentLink? = some link) {m : Message} (hm : m ∈ c.board.queuedFor link.socket) :
    m ∈ c.board.messagesOn link.socket := by
  obtain ⟨a, ha, hat, hs, -⟩ := current_of_currentLink? hlink
  have hholds : c.Holds link.socket link.acknowledged := .of_mem ha hat hs
  have hacked : link.acknowledged = true := by
    by_contra hnot
    rw [Bool.eq_false_iff.2 hnot] at hholds
    rw [h.unacknowledged _ hholds] at hm
    cases hm
  rw [hacked] at hholds
  have hout : c.board.session.outgoing.getD [] = [] :=
    Agent.outgoing_of_waits hs ((hc.agents a ha).isOutdated hat) (isSettled_iff.1 hsettled a ha)
  rw [h.left _ hholds, hout, List.append_nil] at hm
  exact (List.mem_filter.1 hm).1

/-- The first acknowledgment on a socket asks for a subscription that is registered and listened
to, and its request is sent. -/
theorem Chronicle.replayed {made : List Operation} {e : Event} (h : Chronicle made c) {k : Nat}
    {payload : Option Json.Members}
    (hread : (k, .ok (.message (.connectionAck payload))) ∈ c.reads e)
    (hfirst : ∀ p, (k, .ok (.message (.connectionAck p))) ∉ c.board.readings)
    {operation : Operation} (hmade : made[n]? = some operation)
    (hfed : c.board.session.roster.feeds n = true) (hlistening : c.board.listening n = true) :
    Message.subscribe (c.newId n) operation ∈ (c.perform e).board.queuedFor k ∧
      ∀ later : List Event, let c' := (c.perform e).run later
        c'.isSettled = true → c'.currentLink?.map Link.socket = some k →
          Message.subscribe (c.newId n) operation ∈ c'.board.messagesOn k := by
  obtain ⟨hafter, hanswered, -, hqueued, hconnecting⟩ := h.acknowledged hread hfirst
  have hasked : Message.subscribe (c.newId n) operation ∈ (c.perform e).board.queuedFor k := by
    rw [hqueued, h.waiting_eq hconnecting]
    exact mem_submissions.2 ⟨n, operation, hmade, by rw [hfed, hlistening]; rfl, rfl⟩
  refine ⟨hasked, fun later => ?_⟩
  intro c' hsettled hlink
  obtain ⟨hlater, more, hmore, -⟩ := hafter.run (le_refl _) (Or.inr hanswered)
    ⟨[], (List.append_nil _).symm, List.nil_sublist _⟩ later
  obtain ⟨link', hlink', rfl⟩ := Option.map_eq_some_iff.1 hlink
  refine hlater.queued.sent_of_settled hlater.coherent hsettled hlink' ?_
  rw [hmore]
  exact List.mem_append_left _ hasked

/-- What is asked for on a socket is the operation that the subscription was made with. -/
theorem operation_of_sent (settings : Settings) (transport : Transport) {newId : Nat → String}
    (hid : Function.Injective newId) (es : List Event) {k : Nat} {operation : Operation}
    (hsent : Message.subscribe (newId n) operation ∈
      ((create settings transport newId).run es).board.messagesOn k) :
    ((create settings transport newId).operations es)[n]? = some operation := by
  obtain ⟨hchronicle, more, hmore, hasked⟩ := chronicle_run settings transport hid es k
  have hqueued := (hchronicle.queued.sent k).subset (List.mem_filter.2 ⟨hsent, rfl⟩)
  rw [hmore, List.nil_append] at hqueued
  have hsubmitted := hasked.subset (List.mem_filter.2 ⟨hqueued, rfl⟩)
  obtain ⟨i, operation', hmade, -, heq⟩ := mem_submissions.1 hsubmitted
  obtain ⟨hi, rfl⟩ := Message.subscribe.inj heq
  rw [newId_run] at hi
  rwa [hid hi]

/-- Whenever in a run the first acknowledgment on a socket is read, a subscription that was not
cancelled, dropped or ended until then is asked for on that socket, and its request is sent once the
client is settled. -/
theorem asked_of_acknowledgment (settings : Settings) (transport : Transport)
    {newId : Nat → String} (hid : Function.Injective newId) (es : List Event)
    {operation : Operation}
    (hmade : ((create settings transport newId).operations es)[n]? = some operation) {e : Event}
    {k : Nat} {payload : Option Json.Members} {x : Consumer}
    (hread : (k, .ok (.message (.connectionAck payload))) ∈
      ((create settings transport newId).run es).reads e)
    (hfirst : ∀ p, (k, .ok (.message (.connectionAck p))) ∉
      ((create settings transport newId).run es).board.readings)
    (hx : ((create settings transport newId).run es).board.consumers[n]? = some x)
    (hcancelled : x.cancelled = false) (hlistening : x.listening = true)
    (hlast : ∀ item ∈ ((create settings transport newId).run es).board.channel n,
      item.isLast = false) :
    let c' := ((create settings transport newId).run es).perform e
    Message.subscribe (newId n) operation ∈ c'.board.queuedFor k ∧
      ∀ later : List Event, let c'' := c'.run later
        c''.isSettled = true → c''.currentLink?.map Link.socket = some k →
          Message.subscribe (newId n) operation ∈ c''.board.messagesOn k := by
  have hnewId : ((create settings transport newId).run es).newId = newId := newId_run _ es
  obtain ⟨hchronicle, -⟩ := chronicle_run settings transport hid es k
  have haccounted := accounted_run settings transport hid es n
  generalize (create settings transport newId).run es = c at *
  rw [← hnewId]
  exact hchronicle.replayed hread hfirst hmade
    ((haccounted.accounts x hx).listed hlistening hcancelled hlast)
    (c.board.listening_iff.2 ⟨x, hx, hlistening⟩)

/-! ## A close by the server -/

/-- A close by the server leaves a subscription adrift, as sheltered as it was. -/
theorem adrift_of_close (settings : Settings) (transport : Transport) {newId : Nat → String}
    (hid : Function.Injective newId) (es : List Event) {link : Link} (frame : CloseFrame)
    (hlink : ((create settings transport newId).run es).currentLink? = some link)
    (hserver :
      (((create settings transport newId).run es).board.line link.socket).pair.server = true)
    (hfaults :
      (((create settings transport newId).run es).board.line link.socket).recvFaults = [])
    (hbudget :
      (if link.acknowledged then 0 else ((create settings transport newId).run es).attempt) <
        ((create settings transport newId).run es).board.settings.maxReconnects)
    (hregistered : newId n ∈ ((create settings transport newId).run es).board.session.roster.ids)
    (hlistening : ((create settings transport newId).run es).board.listening n = true) :
    let c := (create settings transport newId).run es
    let closed := c.perform (.serverClose link.socket frame)
    (∃ a, closed.Adrift n a link) ∧ closed.board.opens = c.board.opens ∧
      closed.shelters link n = c.shelters link n := by
  intro c closed
  have hc : c.Coherent := coherent_run settings transport hid es
  have hnewId : c.newId = newId := newId_run _ es
  have hperform : closed =
      c.modifyLine link.socket fun l => { l with pair := l.pair.serverClose frame } :=
    if_pos hserver
  obtain ⟨a, hattempt, hstranded, hunread⟩ := stranded_of_close hc hlink hserver hfaults frame
  obtain ⟨x, hx, -⟩ := c.board.listening_iff.1 hlistening
  have hsound : c.Sound n :=
    ⟨hc, attuned_run settings transport hid es, (List.getElem?_eq_some_iff.1 hx).1⟩
  have hfed : c.board.session.roster.feeds n = true :=
    hc.feeds_iff_registered.2 (by rw [hnewId]; exact hregistered)
  refine ⟨⟨a, (hsound.perform _).1, hstranded, ?_, ?_, ?_, fun item hitem => ?_⟩, ?_, ?_⟩
  · rw [hattempt, hperform]
    exact hbudget
  · rw [hperform]
    exact hfed
  · rw [hperform]
    exact hlistening
  · -- who is registered has no last item
    rw [hperform] at hitem
    exact ((accounted_run settings transport hid es n).accounts x hx).unlost hfed item hitem
  · rw [hperform]
    rfl
  · unfold shelters
    rw [hunread, meetsAck_append_close, hperform]
    rfl

/-- What a close by the server ends. Suppose that after some run the server closes the socket in
use, with whatever code, and the budget allows another attempt. Whatever happens afterwards, a
subscription that is registered and listened to gets no error for the loss before the client asks
for another socket, if and only if it is sheltered: a timer is due first, or its request was sent
before, or the agent reads no acknowledgment in front of the close. One that is not sheltered is
asked for on the socket that is gone, if the agents are left to themselves, and the failed send is
its error. And whenever afterwards the first acknowledgment on a socket is read, a subscription that
was not cancelled, dropped or ended until then is asked for on that socket, and its request is sent
once the client is settled. -/
theorem outlives_close_iff (settings : Settings) (transport : Transport) {newId : Nat → String}
    (hid : Function.Injective newId) (es : List Event) {link : Link} (frame : CloseFrame) {n : Nat}
    {operation : Operation}
    (hlink : ((create settings transport newId).run es).currentLink? = some link)
    (hserver :
      (((create settings transport newId).run es).board.line link.socket).pair.server = true)
    (hfaults :
      (((create settings transport newId).run es).board.line link.socket).recvFaults = [])
    (hbudget :
      (if link.acknowledged then 0 else ((create settings transport newId).run es).attempt) <
        ((create settings transport newId).run es).board.settings.maxReconnects)
    (hmade : ((create settings transport newId).operations es)[n]? = some operation)
    (hregistered : newId n ∈ ((create settings transport newId).run es).board.session.roster.ids)
    (hlistening : ((create settings transport newId).run es).board.listening n = true) :
    let c := (create settings transport newId).run es
    let closed := c.perform (.serverClose link.socket frame)
    ((∀ es', (∀ e ∈ es', e.isFault = false) →
        (closed.run es').board.opens = c.board.opens →
        ∀ item ∈ (closed.run es').board.channel n, item.isLoss = false) ↔
      c.shelters link n = true) ∧
    (c.shelters link n = false → ∃ c', closed.Works c' ∧ c'.board.opens = c.board.opens ∧
      Message.subscribe (newId n) operation ∈ c'.board.messagesOn link.socket ∧
      ∃ error, Item.error (.sendFailed error) ∈ c'.board.channel n) ∧
    ∀ (es' : List Event) (e : Event) (k : Nat) (payload : Option Json.Members) (x : Consumer),
      let c' := closed.run es'
      (k, .ok (.message (.connectionAck payload))) ∈ c'.reads e →
      (∀ p, (k, .ok (.message (.connectionAck p))) ∉ c'.board.readings) →
      c'.board.consumers[n]? = some x → x.cancelled = false → x.listening = true →
      (∀ item ∈ c'.board.channel n, item.isLast = false) →
      Message.subscribe (newId n) operation ∈ (c'.perform e).board.queuedFor k ∧
        ∀ later : List Event, let c'' := (c'.perform e).run later
          c''.isSettled = true → c''.currentLink?.map Link.socket = some k →
            Message.subscribe (newId n) operation ∈ c''.board.messagesOn k := by
  intro c closed
  obtain ⟨⟨a, hadrift⟩, hopens, hshelters⟩ := adrift_of_close settings transport hid es frame hlink
    hserver hfaults hbudget hregistered hlistening
  -- what happens after the close happens in a run of its own
  have hrun (es' : List Event) : closed.run es' = (create settings transport newId).run
      (es ++ .serverClose link.socket frame :: es') := by
    rw [run_append, run_cons]
  have hmade' (es' : List Event) : ((create settings transport newId).operations
      (es ++ .serverClose link.socket frame :: es'))[n]? = some operation := by
    rw [operations_append, List.getElem?_append_left (List.getElem?_eq_some_iff.1 hmade).1]
    exact hmade
  refine ⟨?_, fun hexposed => ?_, fun es' e k payload x => ?_⟩
  · rw [← hshelters, ← hopens]
    exact hadrift.lossless_iff
  · obtain ⟨c', ⟨es', hes', rfl⟩, hsame, ⟨m, hm, hasks⟩, hended⟩ :=
      (hadrift.doomed (hshelters.trans hexposed)).works_loss hadrift.sound
    refine ⟨_, ⟨es', hes', rfl⟩, hsame.trans hopens, ?_, hended⟩
    obtain ⟨operation', rfl⟩ := Message.asksFor_iff.1 hasks
    rw [hrun, newId_run] at hm
    have hsent := operation_of_sent settings transport hid _ hm
    rw [hmade'] at hsent
    obtain rfl := Option.some.inj hsent
    rw [hrun]
    exact hm
  · intro c' hread hfirst hx hcancelled hlast hnone
    have hasked := @asked_of_acknowledgment n settings transport newId hid _ operation (hmade' es')
      e k payload x
    rw [← hrun] at hasked
    exact hasked hread hfirst hx hcancelled hlast hnone

/-- What an event adds to what was read, it reads. -/
theorem mem_reads {e : Event} {r : Nat × Except DecodeError Incoming}
    (h : r ∈ (c.perform e).board.readings) (hnew : r ∉ c.board.readings) : r ∈ c.reads e := by
  rcases c.reads_cases e with hsilent | ⟨a, link, frame, rest, hreads⟩
  · rw [hsilent] at h
    exact absurd h hnew
  · rw [hreads.readings, List.mem_append] at h
    rw [reads_of_readings hreads.readings]
    exact h.resolve_left hnew

/-- The agent learns of the loss, waits and connects again, and the server acknowledges. -/
def recovery : List Event :=
  List.replicate 4 (.turn 0) ++ List.replicate 10 .pass ++
    [.turn 0, .turn 0, .turn 0, .serverSend 1 (.text (Message.connectionAck none).encode)]

/-- A subscription whose request was sent outlives the loss, and is asked for on the next socket. -/
theorem outlives_close_when_sent : Function.Injective tally ∧
    let closed := ((create untimed {} tally).run
      (greeting ++ [acknowledgment, .turn 0, .turn 0])).perform
        (.serverClose 0 ⟨.abnormalClosure, "gone"⟩)
    (∀ es', (∀ e ∈ es', e.isFault = false) → (closed.run es').board.opens = 1 →
      ∀ item ∈ (closed.run es').board.channel 0, item.isLoss = false) ∧
    Message.subscribe (tally 0) { query := "subscription { a }" } ∈
      ((closed.run recovery).perform (.turn 0)).board.queuedFor 1 := by
  have hsome : ((create untimed {} tally).run
      (greeting ++ [acknowledgment, .turn 0, .turn 0])).currentLink?.isSome = true := by
    decide +kernel
  obtain ⟨link, hlink⟩ := Option.isSome_iff_exists.1 hsome
  have hholds : ((create untimed {} tally).run
      (greeting ++ [acknowledgment, .turn 0, .turn 0])).currentLink?.all (fun link =>
        let c := (create untimed {} tally).run (greeting ++ [acknowledgment, .turn 0, .turn 0])
        (c.board.line link.socket).pair.server && (c.board.line link.socket).recvFaults.isEmpty &&
          decide ((if link.acknowledged then 0 else c.attempt) < c.board.settings.maxReconnects) &&
          c.shelters link 0 && decide (link.socket = 0)) = true := by
    decide +kernel
  rw [hlink, Option.all_some] at hholds
  simp only [Bool.and_eq_true, decide_eq_true_eq] at hholds
  obtain ⟨⟨⟨⟨hserver, hfaults⟩, hbudget⟩, hshelters⟩, hsocket⟩ := hholds
  have hoperation : ((create untimed {} tally).operations
      (greeting ++ [acknowledgment, .turn 0, .turn 0]))[0]? =
        some { query := "subscription { a }" } := rfl
  obtain ⟨hspared, -, hreplayed⟩ := outlives_close_iff _ _ tally_injective _
    ⟨.abnormalClosure, "gone"⟩ hlink hserver (List.isEmpty_iff.1 hfaults) hbudget hoperation
    (by decide +kernel) (by decide +kernel)
  dsimp only at hspared hreplayed
  rw [hsocket] at hspared hreplayed
  refine ⟨tally_injective, ?_⟩
  dsimp only
  generalize hclosed : ((create untimed {} tally).run
    (greeting ++ [acknowledgment, .turn 0, .turn 0])).perform
      (.serverClose 0 ⟨.abnormalClosure, "gone"⟩) = closed at hspared hreplayed ⊢
  constructor
  · intro es' hes' hopens
    exact hspared.2 hshelters es' hes' (hopens.trans rfl)
  · -- everything read before was read on the first socket
    have hbefore : ((closed.run recovery).board.readings.all fun r => r.1 == 0) = true := by
      rw [← hclosed]
      decide +kernel
    have hnew (item : Except DecodeError Incoming) :
        (1, item) ∉ (closed.run recovery).board.readings := fun hitem => by
      cases List.all_eq_true.1 hbefore _ hitem
    have hacked : ((closed.run recovery).perform (.turn 0)).board.acknowledgedSocket? = some 1 := by
      rw [← hclosed]
      decide +kernel
    obtain ⟨payload, hack⟩ := acknowledgment_mem hacked
    have hkept : ((closed.run recovery).board.consumers[0]?.any fun x =>
        x.listening && !x.cancelled) = true := by
      rw [← hclosed]
      decide +kernel
    obtain ⟨x, hx, hkept⟩ := (Option.any_eq_true _ _).1 hkept
    rw [Bool.and_eq_true, Bool.not_eq_true'] at hkept
    have hunended : ∀ item ∈ (closed.run recovery).board.channel 0, item.isLast = false := by
      rw [← hclosed]
      decide +kernel
    exact (hreplayed recovery (.turn 0) 1 payload x (mem_reads hack (hnew _)) (fun _ => hnew _) hx
      hkept.2 hkept.1 hunended).1

/-- An acknowledgment that is read after the server closed ends the subscription whose request it
queues, and the next socket is not asked for it. -/
theorem lost_behind_acknowledgment :
    let c := (create untimed {} tally).run (greeting ++ [acknowledgment])
    let closed := c.perform (.serverClose 0 ⟨.abnormalClosure, "gone"⟩)
    let es' := recovery ++ [.turn 0, .turn 0]
    c.currentLink?.map Link.socket = some 0 ∧
      CloseCode.abnormalClosure.disposition = .recoverable ∧
      c.attempt < c.board.settings.maxReconnects ∧
      tally 0 ∈ c.board.session.roster.ids ∧ c.board.listening 0 = true ∧
      closed.OnTime es' ∧ (∀ e ∈ es', e.isFault = false ∧ e.cancels 0 = false) ∧
      (closed.run (List.replicate 4 (.turn 0))).board.opens = c.board.opens ∧
      (∃ item ∈ (closed.run (List.replicate 4 (.turn 0))).board.channel 0, item.isLoss = true) ∧
      (closed.run es').phase = .acknowledged ∧ (closed.run es').isSettled = true ∧
      ∀ m ∈ (closed.run es').board.messagesOn 1, m.asksFor (tally 0) = false := by
  decide +kernel

end Client

end LiveQuery
