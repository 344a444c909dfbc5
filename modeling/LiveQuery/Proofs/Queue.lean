import LiveQuery.Proofs.Attuned
import LiveQuery.Proofs.Reading

/-!
# What is queued for a socket

Every message that was queued is for the socket from which the last acknowledgment before it was
read (`Switchboard.queuedFor`). A step does one of four things to these queues
(`Client.Queueing`, `Client.queueing_step`): it leaves them alone, or it appends to the queue of
the acknowledged socket in use, or it sends the first message that was not sent yet, or it reads
the acknowledgment of the socket in use and queues everything that waits. So what was sent on a
socket for subscriptions is always the first part of what was queued for it
(`Client.Queued`, `Client.queued_run`).
-/

namespace LiveQuery

/-- Does a message ask the server for an operation? -/
def Message.asks : Message → Bool
  | .subscribe .. => true
  | _ => false

namespace Notice

/-- The socket from which a notice says an acknowledgment was read. -/
def acknowledged? : Notice → Option Nat
  | .received k (.ok (.message (.connectionAck _))) => some k
  | _ => none

/-- The message that a notice says was queued. -/
def queued? : Notice → Option Message
  | .queued m => some m
  | _ => none

variable {notice : Notice}

theorem acknowledged?_of_isBackground (h : notice.isBackground = true) :
    notice.acknowledged? = none := by
  cases notice with
  | received k item => cases h
  | _ => rfl

theorem queued?_of_isTraffic {k : Nat} (h : notice.isTraffic k = true) : notice.queued? = none := by
  cases notice with
  | queued m => cases h
  | _ => rfl

theorem acknowledged?_of_isTraffic {k s : Nat} (h : notice.isTraffic k = true)
    (hs : notice.acknowledged? = some s) : s = k := by
  unfold acknowledged? at hs
  split at hs
  · obtain rfl := Option.some.inj hs
    exact beq_iff_eq.1 h
  · cases hs

end Notice

/-! ## The views -/

/-- The socket from which the last acknowledgment was read. The journal runs backwards. -/
def lastAcknowledged (journal : List JournalEntry) : Option Nat :=
  journal.findSome? fun e => e.notice.acknowledged?

/-- The messages queued while the last acknowledgment was that of a socket, in order. -/
def queuedAfter (socket : Nat) : List JournalEntry → List Message
  | [] => []
  | e :: older => queuedAfter socket older ++
      if lastAcknowledged older = some socket then e.notice.queued?.toList else []

theorem lastAcknowledged_append {news older : List JournalEntry}
    (h : ∀ e ∈ news, e.notice.acknowledged? = none) :
    lastAcknowledged (news ++ older) = lastAcknowledged older := by
  unfold lastAcknowledged
  rw [List.findSome?_append, List.findSome?_eq_none_iff.2 h, Option.none_or]

theorem queuedAfter_append {news older : List JournalEntry} (k : Nat)
    (h : ∀ e ∈ news, e.notice.queued? = none) :
    queuedAfter k (news ++ older) = queuedAfter k older := by
  induction news with
  | nil => rfl
  | cons e rest ih =>
    rw [List.cons_append, queuedAfter, h e List.mem_cons_self, Option.toList_none, ite_self,
      List.append_nil, ih fun e he => h e (List.mem_cons_of_mem _ he)]

theorem queuedAfter_queued (k t : Nat) (ms : List Message) (older : List JournalEntry) :
    queuedAfter k ((ms.map fun m => (⟨t, .queued m⟩ : JournalEntry)).reverse ++ older) =
      queuedAfter k older ++ if lastAcknowledged older = some k then ms else [] := by
  induction ms generalizing older with
  | nil => rw [ite_self, List.append_nil]; rfl
  | cons m rest ih =>
    have hlast : lastAcknowledged (⟨t, .queued m⟩ :: older) = lastAcknowledged older := rfl
    rw [List.map_cons, List.reverse_cons, List.append_assoc, List.singleton_append, ih, hlast,
      queuedAfter, List.append_assoc]
    split <;> rfl

namespace Switchboard

variable (sb : Switchboard)

/-- The socket from which the last acknowledgment was read. -/
def acknowledgedSocket? : Option Nat := lastAcknowledged sb.journal

/-- The messages queued for a socket, in order: those queued since an acknowledgment from it and
before any from another one. -/
def queuedFor (k : Nat) : List Message := queuedAfter k sb.journal

/-- The messages sent over a socket for subscriptions, in order. -/
def operationsOn (k : Nat) : List Message := (sb.messagesOn k).filter (·.id?.isSome)

theorem note_queuedFor {notice : Notice} (h : notice.queued? = none) (k : Nat) :
    (sb.note notice).queuedFor k = sb.queuedFor k := by
  unfold queuedFor note
  rw [queuedAfter, h, Option.toList_none, ite_self, List.append_nil]

variable {sb} in
/-- What happens in the background acknowledges nothing. -/
theorem Background.acknowledgedSocket? {sb' : Switchboard} (h : sb.Background sb') :
    sb'.acknowledgedSocket? = sb.acknowledgedSocket? := by
  obtain ⟨news, hjournal, hnews⟩ := h
  unfold Switchboard.acknowledgedSocket?
  rw [hjournal]
  exact lastAcknowledged_append fun e he => Notice.acknowledged?_of_isBackground (hnews e he)

variable {sb} in
/-- What happens in the background sends nothing for a subscription. -/
theorem Background.operationsOn {sb' : Switchboard} (h : sb.Background sb') (k : Nat) :
    sb'.operationsOn k = sb.operationsOn k := by
  obtain ⟨news, hjournal, hnews⟩ := h
  have hnone : ((news.filterMap fun e => e.notice.message? k).reverse).filter
      (·.id?.isSome) = [] := by
    refine List.filter_eq_nil_iff.2 fun m hm => ?_
    obtain ⟨e, he, hm⟩ := List.mem_filterMap.1 (List.mem_reverse.1 hm)
    rw [Notice.id?_of_isBackground (hnews e he) hm]
    nofun
  unfold Switchboard.operationsOn Switchboard.messagesOn
  rw [hjournal, List.filterMap_append, List.reverse_append, List.filter_append, hnone,
    List.append_nil]

/-- Replacing the session queues what it adds for the socket that was acknowledged last. -/
theorem withSession_queuedFor (session : Session) (k : Nat) :
    (sb.withSession session).queuedFor k = sb.queuedFor k ++
      if sb.acknowledgedSocket? = some k then sb.added session else [] := by
  have hmoved : ∀ e ∈ (if sb.session.phase = session.phase then []
      else [⟨sb.now, .moved sb.session.phase session.phase⟩] : List JournalEntry),
      e.notice.queued? = none ∧ e.notice.acknowledged? = none := by
    intro e he
    split at he
    · cases he
    · rw [List.mem_singleton.1 he]
      exact ⟨rfl, rfl⟩
  unfold queuedFor acknowledgedSocket?
  rw [withSession_eq]
  unfold changes
  rw [List.append_assoc, queuedAfter_queued, queuedAfter_append k fun e he => (hmoved e he).1,
    lastAcknowledged_append fun e he => (hmoved e he).2]

theorem commit_queuedFor (result : Session × List Effect) (k : Nat) :
    (sb.commit result).queuedFor k = sb.queuedFor k ++
      if sb.acknowledgedSocket? = some k then sb.added result.1 else [] := by
  have happly (sb : Switchboard) (effect : Effect) :
      (sb.apply effect).queuedFor k = sb.queuedFor k := by
    cases effect with
    | deliver consumer item =>
      by_cases h : sb.listening consumer = true
      · rw [sb.apply_deliver h]
        exact note_queuedFor _ rfl k
      · rw [sb.apply_deliver_of_gone h]
    | resolve handshake result => exact note_queuedFor _ rfl k
  unfold commit
  rw [foldl_apply_view _ _ (·.queuedFor k) happly, withSession_queuedFor]

theorem commit_acknowledgedSocket? (result : Session × List Effect) :
    (sb.commit result).acknowledgedSocket? = sb.acknowledgedSocket? :=
  (sb.background_commit result).acknowledgedSocket?

theorem commit_operationsOn (result : Session × List Effect) (k : Nat) :
    (sb.commit result).operationsOn k = sb.operationsOn k :=
  (sb.background_commit result).operationsOn k

/-- A session without an outgoing queue adds nothing. -/
theorem added_of_none {session : Session} (h : session.outgoing = none) :
    sb.added session = [] := by
  unfold added newMessages
  rw [h]
  exact List.drop_nil

/-- A session with the same outgoing queue adds nothing. -/
theorem added_of_same {session : Session} (h : session.outgoing = sb.session.outgoing) :
    sb.added session = [] := by
  unfold added newMessages
  rw [h]
  exact List.drop_length

theorem abandon_background (m : Message) (error : TransportError) :
    sb.Background (sb.abandon m error) := by
  rcases sb.abandon_cases m error with h | ⟨id, -, h⟩ <;> rw [h]
  · exact .refl sb
  · exact sb.background_commit _

theorem abandon_queuedFor (m : Message) (error : TransportError) (k : Nat) :
    (sb.abandon m error).queuedFor k = sb.queuedFor k := by
  rcases sb.abandon_cases m error with h | ⟨id, -, h⟩ <;> rw [h]
  rw [commit_queuedFor, added_of_same _ (Session.endOne_outgoing_silent ..), ite_self,
    List.append_nil]

variable {sb} {sb' : Switchboard} {k : Nat} {news : List Notice}

theorem Traffic.queuedFor (h : sb.Traffic k news sb') (s : Nat) :
    sb'.queuedFor s = sb.queuedFor s := by
  unfold Switchboard.queuedFor
  rw [h.journal]
  refine queuedAfter_append s fun e he => ?_
  obtain ⟨notice, hn, rfl⟩ := List.mem_map.1 he
  exact Notice.queued?_of_isTraffic (h.own notice hn)

/-- On the socket that was acknowledged last no other one is acknowledged. -/
theorem Traffic.acknowledgedSocket? (h : sb.Traffic k news sb')
    (hk : sb.acknowledgedSocket? = some k) : sb'.acknowledgedSocket? = some k := by
  unfold Switchboard.acknowledgedSocket? lastAcknowledged at hk ⊢
  rw [h.journal, List.findSome?_append, hk]
  cases hnew : (news.map (⟨sb.now, ·⟩ : Notice → JournalEntry)).findSome?
      fun e => e.notice.acknowledged? with
  | none => rfl
  | some s =>
    obtain ⟨e, he, hs⟩ := List.exists_of_findSome?_eq_some hnew
    obtain ⟨notice, hn, rfl⟩ := List.mem_map.1 he
    rw [Notice.acknowledged?_of_isTraffic (h.own notice hn) hs]
    rfl

theorem Traffic.operationsOn (h : sb.Traffic k news sb') (s : Nat) : sb'.operationsOn s =
    sb.operationsOn s ++ ((news.filterMap (Notice.message? s)).reverse).filter (·.id?.isSome) := by
  unfold Switchboard.operationsOn
  rw [h.messagesOn, List.filter_append]

theorem Traffic.operationsOn_of_quiet (h : sb.Traffic k news sb')
    (hquiet : ∀ notice ∈ news, notice.isQuiet = true) (s : Nat) :
    sb'.operationsOn s = sb.operationsOn s := by
  rw [h.operationsOn, List.filter_eq_nil_iff.2, List.append_nil]
  intro m hm
  rw [id?_of_quiet hquiet hm]
  nofun

end Switchboard

namespace Agent

variable {a : Agent} {sb sb' : Switchboard}

theorem Parting.queuedFor (h : a.Parting sb sb') (k : Nat) : sb'.queuedFor k = sb.queuedFor k := by
  rcases h.traffic with rfl | ⟨s, news, htraffic, -⟩
  · rfl
  · exact htraffic.queuedFor k

/-- An agent that does not go on with a socket has sent nothing for a subscription. -/
theorem operationsOn_of_turn {t : Turn} (ht : a.turn sb = some t)
    (hgone : ∀ a' ∈ t.1, ∀ link, a'.stage ≠ .serving link) (k : Nat) :
    t.2.operationsOn k = sb.operationsOn k := by
  rcases turn_cases ht with hback | ⟨link, m, rest, hsends⟩ | ⟨link, frame, rest, hreads⟩
  · exact hback.operationsOn k
  · -- an agent that sends goes on with its socket
    obtain rfl := Option.some.inj ((turn_of_sends hsends).symm.trans ht)
    have hserves : ∃ a' ∈ (a.sendNext { sb with session := { sb.session with outgoing := some rest } }
        link m).1, a'.stage = .serving link := by
      unfold sendNext
      split
      · exact ⟨_, rfl, rfl⟩
      · split <;> exact ⟨_, rfl, rfl⟩
    obtain ⟨a', ha', hs⟩ := hserves
    exact absurd hs (hgone a' ha' link)
  · obtain rfl := Option.some.inj ((turn_of_reads hreads).symm.trans ht)
    refine ((a.background_attend _ link _).operationsOn k).trans ?_
    unfold Switchboard.operationsOn
    rw [Switchboard.hear_messagesOn]

end Agent

namespace Client

variable {c c' : Client} {e : Event} {k : Nat} {acknowledged : Bool}

/-! ## The socket in use -/

/-- The agent of the session serves a socket, which is acknowledged or not. -/
def Holds (c : Client) (k : Nat) (acknowledged : Bool) : Prop :=
  ∃ a ∈ c.agents, a.told = false ∧ ∃ link, a.stage = .serving link ∧
    link.socket = k ∧ link.acknowledged = acknowledged

theorem Holds.of_mem {a : Agent} (ha : a ∈ c.agents) (ht : a.told = false) {link : Link}
    (hs : a.stage = .serving link) : c.Holds link.socket link.acknowledged :=
  ⟨a, ha, ht, link, hs, rfl, rfl⟩

namespace Coherent

theorem currentLink?_of_holds (hc : c.Coherent) (h : c.Holds k acknowledged) :
    ∃ link, c.currentLink? = some link ∧ link.socket = k ∧ link.acknowledged = acknowledged := by
  obtain ⟨a, ha, ht, link, hs, hlink⟩ := h
  refine ⟨link, ?_, hlink⟩
  unfold currentLink?
  rw [hc.current?_eq_some ha ht, Option.bind_some, hs]

theorem holds_unique (hc : c.Coherent) {s : Nat} {other : Bool} (h : c.Holds k acknowledged)
    (h' : c.Holds s other) : s = k ∧ other = acknowledged := by
  obtain ⟨link, hlink, rfl, rfl⟩ := hc.currentLink?_of_holds h
  obtain ⟨link', hlink', rfl, rfl⟩ := hc.currentLink?_of_holds h'
  obtain rfl := Option.some.inj (hlink.symm.trans hlink')
  exact ⟨rfl, rfl⟩

theorem acknowledged_of_holds (hc : c.Coherent) (h : c.Holds k acknowledged) :
    c.phase = .acknowledged ↔ acknowledged = true := by
  obtain ⟨a, ha, ht, link, hs, -, rfl⟩ := h
  exact (hc.agents a ha).acknowledged_of_serving ht hs

theorem holds_of_acknowledged (hc : c.Coherent) (hp : c.phase = .acknowledged) :
    ∃ k, c.Holds k true := by
  obtain ⟨link, -, a, ha, ht, hs, hack⟩ := hc.currentLink?_of_acknowledged hp
  exact ⟨link.socket, a, ha, ht, link, hs, rfl, hack⟩

theorem connecting_of_holds (hc : c.Coherent) (h : c.Holds k false) : c.phase = .connecting := by
  obtain ⟨a, ha, ht, link, hs, -, hack⟩ := h
  exact (hc.agents a ha).connecting_of_serving ht hs hack

theorem bound_of_holds (hc : c.Coherent) (h : c.Holds k acknowledged) :
    k < c.board.lines.length := by
  obtain ⟨a, ha, -, link, hs, rfl, -⟩ := h
  exact (hc.agents a ha).bound link hs

theorem outgoing_of_holds (hc : c.Coherent) (h : c.Holds k acknowledged) :
    c.board.session.outgoing.isSome = acknowledged := by
  rw [Bool.eq_iff_iff, hc.session.queue]
  exact hc.acknowledged_of_holds h

/-- There is no queue before the acknowledgment. -/
theorem outgoing_eq_none_of_holds (hc : c.Coherent) (h : c.Holds k false) :
    c.board.session.outgoing = none := by
  rw [← Option.isNone_iff_eq_none, ← Option.not_isSome, hc.outgoing_of_holds h]
  rfl

end Coherent

section Turn

variable {pre post : List Agent} {a : Agent} {o : Option Agent} {board : Switchboard}

/-- After a turn of the agent of the session it alone may hold a socket. -/
theorem holds_of_turn (hc : c.Coherent) (hagents : c.agents = pre ++ a :: post)
    (ht : a.told = false)
    (h : ({ c with agents := pre ++ (o.toList ++ post), board } : Client).Holds k acknowledged) :
    ∃ a' link, o = some a' ∧ a'.stage = .serving link ∧ link.socket = k ∧
      link.acknowledged = acknowledged := by
  obtain ⟨b, hb, hbt, link, hs, hlink⟩ := h
  rcases mem_turned.1 hb with hb | rfl
  · rw [hc.told_of_other hagents ht hb] at hbt
    cases hbt
  · exact ⟨b, link, rfl, hs, hlink⟩

/-- An agent that was told to stop leaves the socket in use alone. -/
theorem holds_of_told (hagents : c.agents = pre ++ a :: post)
    (h : ({ c with agents := pre ++ ((none : Option Agent).toList ++ post), board } :
      Client).Holds k acknowledged) : c.Holds k acknowledged := by
  obtain ⟨b, hb, hrest⟩ := h
  exact ⟨b, mem_of_other hagents ((mem_turned.1 hb).resolve_right nofun), hrest⟩

end Turn

/-! ## What a step does to the queues -/

/-- The messages that wait once those whose consumer is gone were forgotten. -/
def waiting (c : Client) : List Message :=
  (c.board.session.prune c.board.listening).waitingMessages

/-- What a step appends to the queue of an acknowledged socket: ids are taken back, and a new
subscription is asked for. -/
inductive Appended (c : Client) (e : Event) : List Message → Prop
  | farewells (ids : List String) : Appended c e (ids.map .complete)
  | request (ids : List String) (operation : Operation) (he : e = .subscribe operation) :
      Appended c e (ids.map .complete ++ [.subscribe (c.newId c.board.consumers.length) operation])

/-- What a step does to the messages queued for sockets and to those sent. -/
inductive Queueing (e : Event) (c c' : Client) : Prop
  /-- Nothing; the socket in use may be lost, and another one may open. -/
  | still
      (hheld : ∀ k b, c'.Holds k b → c.Holds k b ∨ b = false ∧ k = c.board.lines.length)
      (hlast : ∀ k, c'.Holds k true → c'.board.acknowledgedSocket? = some k)
      (hqueued : ∀ s, c'.board.queuedFor s = c.board.queuedFor s)
      (hsent : ∀ s, c'.board.operationsOn s = c.board.operationsOn s)
      (hout : ∀ k, c'.Holds k true → c'.board.session.outgoing = c.board.session.outgoing)
  /-- Messages are queued for the acknowledged socket in use. -/
  | append {k : Nat} {new : List Message} (hk : c.Holds k true) (hk' : c'.Holds k true)
      (hlast : c'.board.acknowledgedSocket? = some k) (hnew : c.Appended e new)
      (hqueued : ∀ s, c'.board.queuedFor s = c.board.queuedFor s ++ if s = k then new else [])
      (hsent : ∀ s, c'.board.operationsOn s = c.board.operationsOn s)
      (hout : c'.board.session.outgoing = c.board.session.outgoing.map (· ++ new))
  /-- A message is sent on the acknowledged socket in use. -/
  | send {k : Nat} {m : Message} {rest : List Message} (hk : c.Holds k true)
      (hk' : c'.Holds k true) (hlast : c'.board.acknowledgedSocket? = some k)
      (hqueued : ∀ s, c'.board.queuedFor s = c.board.queuedFor s)
      (hsent : ∀ s, c'.board.operationsOn s =
        c.board.operationsOn s ++ if s = k then [m].filter (·.id?.isSome) else [])
      (hout : c.board.session.outgoing = some (m :: rest))
      (hout' : c'.board.session.outgoing = some rest)
  /-- The socket in use is acknowledged. -/
  | flush {k : Nat} (hk : c.Holds k false) (hk' : c'.Holds k true)
      (hlast : c'.board.acknowledgedSocket? = some k)
      (hqueued : ∀ s, c'.board.queuedFor s =
        c.board.queuedFor s ++ if s = k then c.waiting else [])
      (hsent : ∀ s, c'.board.operationsOn s = c.board.operationsOn s)
      (hout : c'.board.session.outgoing = some c.waiting)

namespace Queueing

/-- Nothing that the queues depend on changes. -/
theorem of_same (hlast : ∀ k, c.Holds k true → c.board.acknowledgedSocket? = some k)
    (hagents : ∀ k b, c'.Holds k b → c.Holds k b)
    (hqueued : ∀ s, c'.board.queuedFor s = c.board.queuedFor s)
    (hback : c.board.Background c'.board)
    (hsession : c'.board.session.outgoing = c.board.session.outgoing) : Queueing e c c' := by
  refine .still (fun k b h => Or.inl (hagents k b h)) (fun k h => ?_) hqueued
    (fun s => hback.operationsOn s) fun _ _ => hsession
  rw [hback.acknowledgedSocket?]
  exact hlast k (hagents k true h)

/-- A call that replaces the session appends to the queue if there is one. -/
theorem of_withSession (hc : c.Coherent)
    (hlast : ∀ k, c.Holds k true → c.board.acknowledgedSocket? = some k)
    (consumers : List Consumer) {session : Session} {new : List Message}
    (hout : session.outgoing = c.board.session.outgoing.map (· ++ new))
    (hnew : c.phase = .acknowledged → c.Appended e new) :
    Queueing e c { c with board := { c.board with consumers }.withSession session } := by
  have hback : c.board.Background ({ c.board with consumers }.withSession session) :=
    Switchboard.background_withSession { c.board with consumers } session
  have hsession : ({ c.board with consumers }.withSession session).session = session :=
    Switchboard.withSession_session ..
  have hqueued (s : Nat) : ({ c.board with consumers }.withSession session).queuedFor s =
      c.board.queuedFor s ++ if c.board.acknowledgedSocket? = some s then
        Switchboard.added { c.board with consumers } session else [] :=
    Switchboard.withSession_queuedFor ..
  by_cases hp : c.phase = .acknowledged
  · obtain ⟨k, hk⟩ := hc.holds_of_acknowledged hp
    have hadded : Switchboard.added { c.board with consumers } session = new :=
      Switchboard.added_eq (hc.session.queue.2 hp) hout
    refine .append hk hk ?_ (hnew hp) (fun s => ?_) (fun s => hback.operationsOn s) ?_
    · exact hback.acknowledgedSocket?.trans (hlast k hk)
    · refine (hqueued s).trans ?_
      rw [hadded, hlast k hk]
      simp only [Option.some.injEq, eq_comm]
    · exact (congrArg Session.outgoing hsession).trans hout
  · have hnone : c.board.session.outgoing = none := hc.session.outgoing_eq_none hp
    rw [hnone] at hout
    refine of_same hlast (fun _ _ h => h) (fun s => ?_) hback ?_
    · refine (hqueued s).trans ?_
      rw [Switchboard.added_of_none _ hout, ite_self, List.append_nil]
    · exact (congrArg Session.outgoing hsession).trans (hout.trans hnone.symm)

section Turn

variable {pre post : List Agent} {a : Agent} {o : Option Agent} {board : Switchboard}

/-- An agent that was told to stop does nothing to the queues. -/
theorem of_told (hc : c.Coherent)
    (hlast : ∀ k, c.Holds k true → c.board.acknowledgedSocket? = some k)
    (hagents : c.agents = pre ++ a :: post) (hat : a.told = true)
    (ht : a.turn c.board = some (o, board)) :
    Queueing e c { c with agents := pre ++ (o.toList ++ post), board } := by
  have hfits := hc.agents a (mem_of_split hagents)
  have hmove := hfits.move ht
  obtain ⟨rfl, htraffic⟩ := hmove.of_told hat
  have hback : c.board.Background board := by
    rcases Agent.turn_cases ht with hback | ⟨link, m, rest, hsends⟩ | ⟨link, frame, rest, hreads⟩
    · exact hback
    · rw [hsends.told] at hat
      cases hat
    · rw [hreads.told] at hat
      cases hat
  refine of_same hlast (fun k b => holds_of_told hagents) (fun s => ?_) hback ?_
  · rcases htraffic with heq | ⟨link, news, -, htraffic⟩
    · exact congrArg (Switchboard.queuedFor · s) heq
    · exact htraffic.queuedFor s
  · exact congrArg Session.outgoing ((hmove.outcome hfits hc.session).told hat).2

/-- An agent of the session that goes on without a socket does nothing to the queues. -/
theorem of_gone (hc : c.Coherent) (hagents : c.agents = pre ++ a :: post) (hat : a.told = false)
    (ht : a.turn c.board = some (o, board)) (hgone : ∀ a' ∈ o, ∀ link, a'.stage ≠ .serving link)
    (hqueued : ∀ s, board.queuedFor s = c.board.queuedFor s) :
    Queueing e c { c with agents := pre ++ (o.toList ++ post), board } := by
  have hnone {k : Nat} {b : Bool} :
      ¬ ({ c with agents := pre ++ (o.toList ++ post), board } : Client).Holds k b := by
    intro h
    obtain ⟨a', link, ha', hs, -⟩ := holds_of_turn hc hagents hat h
    exact hgone a' ha' link hs
  exact .still (fun _ _ h => absurd h hnone) (fun _ h => absurd h hnone) hqueued
    (fun s => Agent.operationsOn_of_turn ht hgone s) fun _ h => absurd h hnone

/-- What the agent of the session appends while it serves an acknowledged socket. -/
theorem of_commit (hc : c.Coherent)
    (hlast : ∀ k, c.Holds k true → c.board.acknowledgedSocket? = some k)
    (hagents : c.agents = pre ++ a :: post) (hat : a.told = false) {link link' : Link}
    (hs : a.stage = .serving link) (hack : link.acknowledged = true)
    (hsocket : link'.socket = link.socket) (hack' : link'.acknowledged = true)
    {item : Except DecodeError Incoming} {sb : Switchboard}
    (h : c.board.Traffic link.socket [.received link.socket item] sb)
    {result : Session × List Effect} {ids : List String}
    (hout : result.1.outgoing = sb.session.outgoing.map (· ++ ids.map .complete)) :
    Queueing e c { c with
      agents := pre ++ ((some { a with stage := .serving link' }).toList ++ post)
      board := sb.commit result } := by
  have hk : c.Holds link.socket true := hack ▸ .of_mem (mem_of_split hagents) hat hs
  have hqueue : sb.session.outgoing.isSome = true := by
    rw [h.session]
    exact hc.outgoing_of_holds hk
  have hacksb : sb.acknowledgedSocket? = some link.socket :=
    h.acknowledgedSocket? (hlast _ hk)
  refine .append hk ?_ ?_ (.farewells ids) (fun s => ?_) (fun s => ?_) ?_
  · exact ⟨{ a with stage := .serving link' }, by simp, hat, link', rfl, hsocket, hack'⟩
  · exact (sb.commit_acknowledgedSocket? result).trans hacksb
  · refine (sb.commit_queuedFor result s).trans ?_
    rw [Switchboard.added_eq hqueue hout, h.queuedFor, hacksb]
    simp only [Option.some.injEq, eq_comm]
  · refine (sb.commit_operationsOn result s).trans ?_
    rw [h.operationsOn]
    exact List.append_nil _
  · refine (congrArg Session.outgoing (sb.commit_session result)).trans (hout.trans ?_)
    rw [h.session]

/-- The agent of the session sends the first message of the outgoing queue. -/
theorem of_sent (hc : c.Coherent)
    (hlast : ∀ k, c.Holds k true → c.board.acknowledgedSocket? = some k)
    (hagents : c.agents = pre ++ a :: post) (hat : a.told = false) {link : Link}
    (hs : a.stage = .serving link) {m : Message} {rest : List Message}
    (hout : c.board.session.outgoing = some (m :: rest)) {arrived failed : Bool} {sb : Switchboard}
    (h : { c.board with session := { c.board.session with outgoing := some rest } }.Traffic
      link.socket [.sent link.socket (.message m) arrived failed] sb)
    (hback : sb.Background board) (hqueued : ∀ s, board.queuedFor s = sb.queuedFor s)
    (hsame : board.session.outgoing = sb.session.outgoing) :
    Queueing e c { c with
      agents := pre ++ ((some { a with stage := .serving link }).toList ++ post), board } := by
  have hmem := mem_of_split hagents
  have hack : link.acknowledged = true := by
    rw [← hc.outgoing_of_holds (.of_mem hmem hat hs), hout]
    rfl
  have hk : c.Holds link.socket true := hack ▸ .of_mem hmem hat hs
  refine .send hk ?_ ?_ (fun s => (hqueued s).trans (h.queuedFor s)) (fun s => ?_) hout ?_
  · exact ⟨{ a with stage := .serving link }, by simp, hat, link, rfl, rfl, hack⟩
  · exact hback.acknowledgedSocket?.trans (h.acknowledgedSocket? (hlast _ hk))
  · refine (hback.operationsOn s).trans ((h.operationsOn s).trans ?_)
    have hold : Switchboard.operationsOn { c.board with session :=
        { c.board.session with outgoing := some rest } } s = c.board.operationsOn s := rfl
    rw [hold]
    by_cases hsocket : link.socket = s
    · simp [Notice.message?, hsocket]
    · simp [Notice.message?, hsocket, Ne.symm hsocket]
  · refine hsame.trans ?_
    rw [h.session]

/-- The agent of the session reads the acknowledgment of its socket. -/
theorem of_acknowledgment (hc : c.Coherent) (hagents : c.agents = pre ++ a :: post)
    (hat : a.told = false) {link link' : Link} (hs : a.stage = .serving link)
    (hack : link.acknowledged = false) (hsocket : link'.socket = link.socket)
    (hack' : link'.acknowledged = true) {payload : Option Json.Members} {sb : Switchboard}
    (h : c.board.Traffic link.socket
      [.received link.socket (.ok (.message (.connectionAck payload)))] sb) :
    Queueing e c { c with
      agents := pre ++ ((some { a with stage := .serving link' }).toList ++ post)
      board := sb.commit (sb.session.acknowledge sb.listening payload) } := by
  have hk : c.Holds link.socket false := hack ▸ .of_mem (mem_of_split hagents) hat hs
  have hacksb : sb.acknowledgedSocket? = some link.socket := by
    unfold Switchboard.acknowledgedSocket?
    rw [h.journal]
    rfl
  have hflush : (sb.session.acknowledge sb.listening payload).1.outgoing = some c.waiting := by
    rw [Session.acknowledge_outgoing, h.session, h.listening]
    rfl
  have hnone : sb.session.outgoing = none := by
    rw [h.session]
    exact hc.outgoing_eq_none_of_holds hk
  have hadded : sb.added (sb.session.acknowledge sb.listening payload).1 = c.waiting := by
    unfold Switchboard.added Switchboard.newMessages
    rw [hflush, hnone]
    rfl
  refine .flush hk ?_ ?_ (fun s => ?_) (fun s => ?_) ?_
  · exact ⟨{ a with stage := .serving link' }, by simp, hat, link', rfl, hsocket, hack'⟩
  · exact (sb.commit_acknowledgedSocket? _).trans hacksb
  · refine (sb.commit_queuedFor _ s).trans ?_
    rw [hadded, h.queuedFor, hacksb]
    simp only [Option.some.injEq, eq_comm]
  · refine (sb.commit_operationsOn _ s).trans ?_
    rw [h.operationsOn]
    exact List.append_nil _
  · exact (congrArg Session.outgoing (sb.commit_session _)).trans hflush

/-- Traffic that concerns no subscription does nothing to the queues, over the socket in use or
over one that just opened. -/
theorem of_quiet (hc : c.Coherent)
    (hlast : ∀ k, c.Holds k true → c.board.acknowledgedSocket? = some k)
    (hagents : c.agents = pre ++ a :: post) (hat : a.told = false) {link : Link}
    {news : List Notice} (h : c.board.Exchange link.socket news board)
    (hquiet : ∀ notice ∈ news, notice.isQuiet = true)
    (hheld : c.Holds link.socket link.acknowledged ∨
      link.acknowledged = false ∧ link.socket = c.board.lines.length) :
    Queueing e c { c with
      agents := pre ++ ((some { a with stage := .serving link }).toList ++ post), board } := by
  have honly {k : Nat} {b : Bool} (hk : ({ c with
      agents := pre ++ ((some { a with stage := .serving link }).toList ++ post), board } :
        Client).Holds k b) : k = link.socket ∧ b = link.acknowledged := by
    obtain ⟨a', link', ha', hs', rfl, rfl⟩ := holds_of_turn hc hagents hat hk
    cases ha'
    cases hs'
    exact ⟨rfl, rfl⟩
  refine .still (fun k b hk => ?_) (fun k hk => ?_) h.queuedFor
    (fun s => h.operationsOn_of_quiet hquiet s) fun _ _ => congrArg Session.outgoing h.session
  · obtain ⟨rfl, rfl⟩ := honly hk
    exact hheld
  · -- a socket that just opened is not acknowledged
    obtain ⟨rfl, hack⟩ := honly hk
    rw [← hack] at hheld
    exact h.acknowledgedSocket? (hlast _ (hheld.resolve_right nofun))

/-- What the agent of the session does to the queues, by cases on the move. -/
theorem of_move (hc : c.Coherent)
    (hlast : ∀ k, c.Holds k true → c.board.acknowledgedSocket? = some k)
    (hagents : c.agents = pre ++ a :: post) (hat : a.told = false)
    (ht : a.turn c.board = some (o, board)) :
    Queueing e c { c with agents := pre ++ (o.toList ++ post), board } := by
  have hfits := hc.agents a (mem_of_split hagents)
  cases hfits.move ht with
  | leave htold | hangUp htold =>
    rw [htold] at hat
    cases hat
  | ask htold hs =>
    exact of_gone hc hagents hat ht (fun a' ha' link => by cases ha'; nofun) fun s =>
      Switchboard.note_queuedFor { c.board with opens := _ } rfl s
  | wake htold hs =>
    exact of_gone hc hagents hat ht (fun a' ha' link => by cases ha'; nofun) fun _ => rfl
  | ended htold h error =>
    rename_i sb
    refine of_gone hc hagents hat ht nofun fun s => ?_
    rw [sb.commit_queuedFor, sb.added_of_none (Session.terminate_outgoing ..), ite_self,
      List.append_nil, h.queuedFor]
  | retry htold h hbudget =>
    rename_i sb attempt due retries
    refine of_gone hc hagents hat ht (fun a' ha' link => by cases ha'; nofun) fun s => ?_
    rw [Switchboard.note_queuedFor _ rfl]
    refine (sb.withSession_queuedFor _ s).trans ?_
    rw [sb.added_of_none (Session.suspend_outgoing ..), ite_self, List.append_nil, h.queuedFor]
  | greet htold hs hsocket hack h hclient hquiet =>
    exact of_quiet hc hlast hagents hat h hquiet (Or.inr ⟨hack, hsocket⟩)
  | idle htold hs hsocket hack h hquiet =>
    refine of_quiet hc hlast hagents hat (hsocket.symm ▸ h) hquiet (Or.inl ?_)
    rw [hsocket, hack]
    exact .of_mem (mem_of_split hagents) hat hs
  | deliver htold hs hout h =>
    exact of_sent hc hlast hagents hat hs hout h.toTraffic (.refl board) (fun _ => rfl) rfl
  | undeliverable htold hs hout h error =>
    rename_i link m rest arrived sb
    exact of_sent hc hlast hagents hat hs hout h.toTraffic (sb.abandon_background m error)
      (sb.abandon_queuedFor m error) (sb.abandon_outgoing m error)
  | acknowledge htold hs hack hsocket hack' h =>
    exact of_acknowledgment hc hagents hat hs hack hsocket hack' h.toTraffic
  | route htold hs hack hsocket hack' hitem h =>
    rename_i link link' m id item sb
    obtain ⟨ids, -, hout⟩ := (sb.session.trims_route sb.listening id item).outgoing
    exact of_commit hc hlast hagents hat hs hack hsocket hack' h.toTraffic hout
  | endOne htold hs hack hsocket hack' hid h =>
    rename_i link link' error id sb
    obtain ⟨ids, -, hout⟩ :=
      (sb.session.trims_endOne id (.decodeFailed error) true).outgoing
    exact of_commit hc hlast hagents hat hs hack hsocket hack' h.toTraffic hout

end Turn

end Queueing

/-- Every step does one of four things to the queues. -/
theorem queueing_step (hc : c.Coherent)
    (hlast : ∀ k, c.Holds k true → c.board.acknowledgedSocket? = some k)
    (hstep : Step e c c') : Queueing e c c' := by
  have hback (he : e.isTurn = false) : c.board.Background c'.board := background_step hstep he
  cases hstep with
  | quiet hq =>
    refine .of_same hlast (fun k b => ?_) (fun s => ?_) (.of_journal hq.journal)
      (congrArg Session.outgoing hq.session)
    · rintro ⟨a, ha, hrest⟩
      exact ⟨a, hq.agents ▸ ha, hrest⟩
    · unfold Switchboard.queuedFor
      rw [hq.journal]
  | touch ht => exact .of_same hlast (fun _ _ h => h) (fun _ => rfl) (.refl c.board) rfl
  | pass he => exact .of_same hlast (fun _ _ h => h) (fun _ => rfl) (.refl c.board) rfl
  | launch he hp params held =>
    have hsession := c.launched_session params held
    refine .of_same hlast (fun k b => ?_) (fun s => ?_) ?_ ?_
    · rintro ⟨a, ha, ht, link, hs, hrest⟩
      rcases List.mem_append.1 ha with ha | ha
      · exact ⟨a, ha, ht, link, hs, hrest⟩
      · rw [List.mem_singleton.1 ha] at hs
        cases hs
    · refine (Switchboard.withSession_queuedFor { c.board with handshakes := _ } _ s).trans ?_
      rw [Switchboard.added_of_same _ (Session.start_outgoing ..), ite_self, List.append_nil]
      rfl
    · exact Switchboard.background_withSession { c.board with handshakes := _ } _
    · rw [hsession, Session.start_outgoing]
  | enlist he hp operation hop =>
    have hout (listening : Nat → Bool) : ∃ new, (c.board.session.subscribe listening
        (c.newId c.board.consumers.length) operation c.board.consumers.length).outgoing =
          c.board.session.outgoing.map (· ++ new) ∧
        (c.phase = .acknowledged → c.Appended e new) := by
      by_cases hphase : c.board.session.phase = .acknowledged
      · exact ⟨_, Session.subscribe_outgoing_of_acknowledged hphase,
          fun _ => .request _ operation hop⟩
      · rw [Session.subscribe_outgoing, if_neg hphase]
        exact ⟨_, rfl, fun hp => absurd hp hphase⟩
    obtain ⟨new, hout, hnew⟩ := hout _
    exact .of_withSession hc hlast _ hout hnew
  | refuse he error hop =>
    exact .of_same hlast (fun _ _ h => h)
      (fun s => Switchboard.note_queuedFor { c.board with consumers := _ } rfl s)
      (Switchboard.background_note { c.board with consumers := _ } rfl) rfl
  | withdraw he hx hcancelled =>
    rename_i n x
    obtain ⟨ids, -, hout⟩ := (c.board.session.trims_withdraw x).outgoing
    rw [withdrawn_eq]
    exact .of_withSession hc hlast _ hout fun _ => .farewells ids
  | halt hp =>
    have hcoherent := hc.halt hp
    have hnone {k : Nat} {b : Bool} : ¬ c.halted.Holds k b := by
      rintro ⟨a, ha, ht, -⟩
      exact (hcoherent.agents a ha).started ht (halted_phase hp)
    refine .still (fun _ _ h => absurd h hnone) (fun _ h => absurd h hnone) (fun s => ?_)
      (fun s => ?_) fun _ h => absurd h hnone
    · rw [halted_board hp, Switchboard.commit_queuedFor,
        Switchboard.added_of_none _ (Session.terminate_outgoing ..), ite_self, List.append_nil]
    · rw [halted_board hp, Switchboard.commit_operationsOn]
  | turn hagents ht hturn =>
    rename_i pre post a o board
    cases hat : a.told with
    | true => exact .of_told hc hlast hagents hat ht
    | false => exact .of_move hc hlast hagents hat ht

/-! ## What was sent is the first part of what was queued -/

/-- The queues of a client fit what was sent. -/
structure Queued (c : Client) : Prop where
  /-- The acknowledged socket in use was acknowledged last. -/
  last : ∀ k, c.Holds k true → c.board.acknowledgedSocket? = some k
  /-- Every message queued is for a subscription. -/
  named : ∀ k, ∀ m ∈ c.board.queuedFor k, m.id?.isSome = true
  sent : ∀ k, c.board.operationsOn k <+: c.board.queuedFor k
  /-- What was queued for the acknowledged socket in use and not sent is in the outgoing queue. -/
  left : ∀ k, c.Holds k true → c.board.queuedFor k =
    c.board.operationsOn k ++ c.board.session.outgoing.getD []
  /-- Nothing is queued for a socket before it is acknowledged. -/
  unacknowledged : ∀ k, c.Holds k false → c.board.queuedFor k = []
  unopened : ∀ k, c.board.lines.length ≤ k → c.board.queuedFor k = []

/-- Sockets are opened, and none is forgotten. -/
theorem lines_step (hc : c.Coherent) (hstep : Step e c c') :
    c.board.lines.length ≤ c'.board.lines.length := by
  cases hstep with
  | quiet hq => exact hq.length.ge
  | launch he hp params held => simp [launched]
  | enlist he hp operation hop => simp [enlisted]
  | withdraw he hx hcancelled =>
    simp [withdrawn_eq]
  | halt hp => exact (congrArg List.length (Switchboard.commit_lines ..)).ge
  | turn hagents ht =>
    have hfits := hc.agents _ (mem_of_split hagents)
    exact ((hfits.move ht).outcome hfits hc.session).advance.length
  | touch ht | refuse he error hop | pass he => exact le_refl _

/-- What waits is for subscriptions. -/
theorem id?_of_waiting {m : Message} (hm : m ∈ c.waiting) : m.id?.isSome = true := by
  obtain ⟨id, -, hm⟩ := List.mem_filterMap.1 hm
  obtain ⟨operation, -, rfl⟩ := Option.map_eq_some_iff.1 hm
  rfl

theorem Appended.id? {new : List Message} (h : c.Appended e new) {m : Message} (hm : m ∈ new) :
    m.id?.isSome = true := by
  cases h with
  | farewells ids =>
    obtain ⟨id, -, rfl⟩ := List.mem_map.1 hm
    rfl
  | request ids operation he =>
    rcases List.mem_append.1 hm with hm | hm
    · obtain ⟨id, -, rfl⟩ := List.mem_map.1 hm
      rfl
    · rw [List.mem_singleton.1 hm]
      rfl

namespace Queued

/-- The socket in use is acknowledged, so that it alone is held. -/
theorem of_acknowledged (hc : c.Coherent) (hk : c.Holds k true)
    (hlast : c.board.acknowledgedSocket? = some k)
    (hnamed : ∀ s, ∀ m ∈ c.board.queuedFor s, m.id?.isSome = true)
    (hsent : ∀ s, c.board.operationsOn s <+: c.board.queuedFor s)
    (hleft : c.board.queuedFor k = c.board.operationsOn k ++ c.board.session.outgoing.getD [])
    (hunopened : ∀ s, c.board.lines.length ≤ s → c.board.queuedFor s = []) : c.Queued where
  last := by
    intro s hs
    obtain ⟨rfl, -⟩ := hc.holds_unique hk hs
    exact hlast
  named := hnamed
  sent := hsent
  left := by
    intro s hs
    obtain ⟨rfl, -⟩ := hc.holds_unique hk hs
    exact hleft
  unacknowledged := by
    intro s hs
    cases (hc.holds_unique hk hs).2
  unopened := hunopened

/-- More is queued for the socket in use, which is acknowledged now, and nothing is sent. -/
theorem grow (h : c.Queued) (hc : c.Coherent) (hc' : c'.Coherent)
    (hlines : c.board.lines.length ≤ c'.board.lines.length) (hk : c.Holds k acknowledged)
    (hk' : c'.Holds k true) (hlast : c'.board.acknowledgedSocket? = some k) {new : List Message}
    (hnew : ∀ m ∈ new, m.id?.isSome = true)
    (hqueued : ∀ s, c'.board.queuedFor s = c.board.queuedFor s ++ if s = k then new else [])
    (hsent : ∀ s, c'.board.operationsOn s = c.board.operationsOn s)
    (hout : c'.board.session.outgoing.getD [] = c.board.session.outgoing.getD [] ++ new)
    (hleft : c.board.queuedFor k = c.board.operationsOn k ++ c.board.session.outgoing.getD []) :
    c'.Queued := by
  apply of_acknowledged hc' hk' hlast
  case hnamed =>
    intro s m hm
    rw [hqueued, List.mem_append] at hm
    rcases hm with hm | hm
    · exact h.named s m hm
    · split at hm
      · exact hnew m hm
      · cases hm
  case hsent =>
    intro s
    rw [hqueued, hsent]
    exact (h.sent s).trans (List.prefix_append ..)
  case hleft => rw [hqueued, if_pos rfl, hsent, hout, hleft, List.append_assoc]
  case hunopened =>
    intro s hs
    have hlt := hc.bound_of_holds hk
    rw [hqueued, if_neg (by omega), List.append_nil]
    exact h.unopened s (hlines.trans hs)

theorem step (h : c.Queued) (hc : c.Coherent) (hstep : Step e c c') : c'.Queued := by
  have hc' : c'.Coherent := hc.step hstep
  have hlines := lines_step hc hstep
  cases queueing_step hc h.last hstep with
  | still hheld hlast hqueued hsent hout =>
    have hold (k : Nat) (hk : c'.Holds k true) : c.Holds k true :=
      (hheld k true hk).resolve_right nofun
    constructor
    case last => exact hlast
    case named =>
      intro k m hm
      exact h.named k m (hqueued k ▸ hm)
    case sent =>
      intro k
      rw [hqueued, hsent]
      exact h.sent k
    case left =>
      intro k hk
      rw [hqueued, hsent, hout k hk]
      exact h.left k (hold k hk)
    case unacknowledged =>
      intro k hk
      rw [hqueued]
      rcases hheld k false hk with hk | ⟨-, rfl⟩
      · exact h.unacknowledged k hk
      · exact h.unopened _ (le_refl _)
    case unopened =>
      intro k hk
      rw [hqueued]
      exact h.unopened k (hlines.trans hk)
  | append hk hk' hlast hnew hqueued hsent hout =>
    refine h.grow hc hc' hlines hk hk' hlast (fun m => hnew.id?) hqueued hsent ?_ (h.left _ hk)
    obtain ⟨q, hq⟩ := Option.isSome_iff_exists.1 (hc.outgoing_of_holds hk)
    rw [hout, hq]
    rfl
  | flush hk hk' hlast hqueued hsent hout =>
    rename_i k
    have hnone : c.board.queuedFor k = [] := h.unacknowledged k hk
    have hsilent : c.board.operationsOn k = [] := List.prefix_nil.1 (hnone ▸ h.sent k)
    have hempty := hc.outgoing_eq_none_of_holds hk
    refine h.grow hc hc' hlines hk hk' hlast (fun m => id?_of_waiting) hqueued hsent ?_ ?_
    · rw [hout, hempty]
      rfl
    · rw [hnone, hsilent, hempty]
      rfl
  | send hk hk' hlast hqueued hsent hout hout' =>
    rename_i k m rest
    have hwhole : c.board.queuedFor k = c.board.operationsOn k ++ m :: rest := by
      rw [h.left k hk, hout]
      rfl
    have hm : m.id?.isSome = true := by
      refine h.named k m ?_
      rw [hwhole]
      exact List.mem_append_right _ List.mem_cons_self
    have hkept : [m].filter (·.id?.isSome) = [m] := by simp [hm]
    rw [hkept] at hsent
    have hthis : c'.board.queuedFor k = c'.board.operationsOn k ++ rest := by
      rw [hqueued, hsent, hwhole, if_pos rfl, List.append_assoc]
      rfl
    apply of_acknowledged hc' hk' hlast
    case hnamed => exact fun s m hm => h.named s m (hqueued s ▸ hm)
    case hsent =>
      intro s
      by_cases hs : s = k
      · rw [hs, hthis]
        exact List.prefix_append ..
      · rw [hqueued, hsent, if_neg hs, List.append_nil]
        exact h.sent s
    case hleft =>
      rw [hthis, hout']
      rfl
    case hunopened =>
      intro s hs
      rw [hqueued]
      exact h.unopened s (hlines.trans hs)

end Queued

/-- The queues fit what was sent after every run. -/
theorem queued_run (settings : Settings) (transport : Transport) {newId : Nat → String}
    (hid : Function.Injective newId) (es : List Event) :
    ((create settings transport newId).run es).Queued := by
  have hboth := run_induction (P := fun c => c.Coherent ∧ c.Queued)
    (fun _ _ _ h hstep => ⟨h.1.step hstep, h.2.step h.1 hstep⟩)
    ⟨coherent_create settings transport hid, ?_⟩ es
  · exact hboth.2
  · have hnone {k : Nat} {b : Bool} : ¬ (create settings transport newId).Holds k b := by
      rintro ⟨a, ha, -⟩
      cases ha
    exact ⟨fun _ h => absurd h hnone, fun _ _ hm => absurd hm List.not_mem_nil,
      fun _ => List.prefix_refl [], fun _ h => absurd h hnone, fun _ h => absurd h hnone,
      fun _ _ => rfl⟩

/-- What waits in the outgoing queue was queued for a socket that opened. -/
theorem queuedFor_of_outgoing (hc : c.Coherent) (hq : c.Queued) {queue : List Message}
    (hout : c.board.session.outgoing = some queue) {m : Message} (hm : m ∈ queue) :
    ∃ k < c.board.lines.length, m ∈ c.board.queuedFor k := by
  have hacked : c.phase = .acknowledged := hc.session.queue.1 (by rw [hout]; rfl)
  obtain ⟨k, hk⟩ := hc.holds_of_acknowledged hacked
  refine ⟨k, hc.bound_of_holds hk, ?_⟩
  rw [hq.left k hk, hout]
  exact List.mem_append_right _ hm

/-- What waits in the outgoing queue is for subscriptions. -/
theorem named_of_outgoing (hc : c.Coherent) (hq : c.Queued) {queue : List Message}
    (hout : c.board.session.outgoing = some queue) {m : Message} (hm : m ∈ queue) :
    m.id?.isSome = true := by
  obtain ⟨k, -, hqueued⟩ := queuedFor_of_outgoing hc hq hout hm
  exact hq.named k m hqueued

/-- Queues only grow. -/
theorem queuedFor_step (hc : c.Coherent) (hq : c.Queued) (hstep : Step e c c') (k : Nat) :
    c.board.queuedFor k <+: c'.board.queuedFor k := by
  cases queueing_step hc hq.last hstep with
  | still _ _ hqueued | send _ _ _ hqueued => exact ⟨[], by rw [List.append_nil, hqueued]⟩
  | append _ _ _ _ hqueued | flush _ _ _ hqueued =>
    rw [hqueued]
    exact List.prefix_append ..

theorem queuedFor_run (hc : c.Coherent) (hq : c.Queued) (es : List Event) (k : Nat) :
    c.board.queuedFor k <+: (c.run es).board.queuedFor k := by
  have hall := run_induction (c := c) (P := fun c' => c'.Coherent ∧ c'.Queued ∧
      c.board.queuedFor k <+: c'.board.queuedFor k)
    (fun _ _ _ h hstep => ⟨h.1.step hstep, h.2.1.step h.1 hstep,
      h.2.2.trans (queuedFor_step h.1 h.2.1 hstep k)⟩) ⟨hc, hq, List.prefix_refl _⟩ es
  exact hall.2.2

end Client

end LiveQuery
