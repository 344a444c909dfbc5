import LiveQuery.Proofs.Ebb

/-!
# What agents read

The journal tells what was read, and from which socket (`Switchboard.readings`). Most of what is
done reads nothing and sends no message for a subscription (`Switchboard.Background`). A turn is
of that kind, or sends the next message of the outgoing queue, or reads one frame
(`Agent.turn_cases`): an agent reads only if it belongs to the session as it is, no timer of its
socket is due and it has nothing to send (`Agent.Reads`), and then the turn is what it does with
the item (`Agent.attend`). No other event reads anything (`Client.reads_cases`).
-/

namespace LiveQuery

/-- A receive yields a frame only if no fault comes ahead of it. -/
theorem Line.frame_of_recv {l l' : Line} {f : Frame} (h : l.recv = (.ready (.ok f), l')) :
    l.recvFaults = [] ∧ ∃ rest, l.pair.toClient = f :: rest := by
  unfold recv SocketPair.clientRecv at h
  cases hfaults : l.recvFaults with
  | cons doing later => simp [hfaults] at h
  | nil =>
    cases hframes : l.pair.toClient with
    | nil => cases hserver : l.pair.server <;> simp [hfaults, hframes, hserver] at h
    | cons g rest =>
      simp only [hfaults, hframes, Prod.mk.injEq, Polled.ready.injEq, Except.ok.injEq] at h
      exact ⟨rfl, rest, by rw [h.1]⟩

namespace Notice

/-- The item that a notice says was read, and from which socket. -/
def reading? : Notice → Option (Nat × Except DecodeError Incoming)
  | .received k item => some (k, item)
  | _ => none

/-- Does a notice tell neither of something read nor of a message sent for a subscription? -/
def isBackground : Notice → Bool
  | .received .. => false
  | .sent _ (.message m) _ _ => m.id?.isNone
  | _ => true

variable {notice : Notice}

theorem reading?_of_isBackground (h : notice.isBackground = true) : notice.reading? = none := by
  cases notice with
  | received k item => cases h
  | _ => rfl

theorem id?_of_isBackground (h : notice.isBackground = true) {k : Nat} {m : Message}
    (hm : notice.message? k = some m) : m.id? = none := by
  cases notice with
  | sent s item arrived failed =>
    cases item with
    | message m' =>
      simp only [message?] at hm
      split at hm
      · obtain rfl := Option.some.inj hm
        exact Option.isNone_iff_eq_none.1 h
      · cases hm
    | close frame => cases hm
  | _ => cases hm

end Notice

namespace Switchboard

variable (sb : Switchboard)

/-- What agents read, and from which sockets, in order. -/
def readings : List (Nat × Except DecodeError Incoming) :=
  (sb.journal.filterMap fun e => e.notice.reading?).reverse

theorem note_readings (notice : Notice) :
    (sb.note notice).readings = sb.readings ++ notice.reading?.toList := by
  unfold readings note
  cases h : notice.reading? with
  | none => simp [h]
  | some reading => simp [h]

theorem Traffic.readings {k : Nat} {news : List Notice} {sb sb' : Switchboard}
    (h : sb.Traffic k news sb') :
    sb'.readings = sb.readings ++ (news.filterMap Notice.reading?).reverse := by
  simp only [Switchboard.readings, h.journal, List.filterMap_append, List.filterMap_map,
    List.reverse_append]
  rfl

/-- Since then nothing was read, and no message was sent for a subscription. -/
def Background (sb sb' : Switchboard) : Prop :=
  ∃ news, sb'.journal = news ++ sb.journal ∧ ∀ entry ∈ news, entry.notice.isBackground = true

namespace Background

variable {sb} {sb' sb'' : Switchboard}

theorem of_journal (h : sb'.journal = sb.journal) : sb.Background sb' :=
  ⟨[], h, fun _ he => absurd he List.not_mem_nil⟩

theorem refl (sb : Switchboard) : sb.Background sb := of_journal rfl

theorem trans (h : sb.Background sb') (h' : sb'.Background sb'') : sb.Background sb'' := by
  obtain ⟨news, hjournal, hnews⟩ := h
  obtain ⟨news', hjournal', hnews'⟩ := h'
  refine ⟨news' ++ news, by rw [hjournal', hjournal, List.append_assoc], fun entry he => ?_⟩
  rcases List.mem_append.1 he with he | he
  · exact hnews' entry he
  · exact hnews entry he

theorem readings (h : sb.Background sb') : sb'.readings = sb.readings := by
  obtain ⟨news, hjournal, hnews⟩ := h
  have hnone : news.filterMap (fun e => e.notice.reading?) = [] :=
    List.filterMap_eq_nil_iff.2 fun entry he => Notice.reading?_of_isBackground (hnews entry he)
  unfold Switchboard.readings
  rw [hjournal, List.filterMap_append, hnone, List.nil_append]

end Background

theorem background_note {notice : Notice} (h : notice.isBackground = true) :
    sb.Background (sb.note notice) :=
  ⟨[⟨sb.now, notice⟩], rfl, fun _ he => List.mem_singleton.1 he ▸ h⟩

theorem background_withSession (session : Session) : sb.Background (sb.withSession session) := by
  refine ⟨sb.changes session, by rw [withSession_eq], fun entry he => ?_⟩
  rcases sb.mem_changes session he with ⟨m, -, hm⟩ | hm <;> rw [hm] <;> rfl

theorem background_apply (effect : Effect) : sb.Background (sb.apply effect) := by
  cases effect with
  | deliver consumer item =>
    by_cases h : sb.listening consumer = true
    · rw [sb.apply_deliver h]
      exact background_note _ rfl
    · rw [sb.apply_deliver_of_gone h]
      exact .refl sb
  | resolve handshake result => exact background_note _ rfl

theorem background_commit (result : Session × List Effect) :
    sb.Background (sb.commit result) := by
  have heffects (effects : List Effect) (sb : Switchboard) :
      sb.Background (effects.foldl apply sb) := by
    induction effects generalizing sb with
    | nil => exact .refl sb
    | cons effect rest ih => exact (sb.background_apply effect).trans (ih _)
  exact (sb.background_withSession result.1).trans (heffects result.2 _)

@[simp] theorem commit_readings (result : Session × List Effect) :
    (sb.commit result).readings = sb.readings := (sb.background_commit result).readings

/-- A message for no subscription, or a close frame. -/
theorem background_send (k : Nat) (item : Outgoing)
    (h : ∀ m, item = .message m → m.id? = none) : sb.Background (sb.send k item).2 := by
  refine background_note _ ?_
  cases item with
  | message m => exact Option.isNone_iff_eq_none.2 (h m rfl)
  | close frame => rfl

theorem background_drop (k : Nat) : sb.Background (sb.drop k) := background_note _ rfl

theorem background_close (k : Nat) (code : CloseCode) (reason : String) :
    sb.Background (sb.close k code reason) :=
  (sb.background_send k (.close ⟨code, reason⟩) nofun).trans (background_drop _ k)

theorem background_finishOpen {sb sb' : Switchboard} {number k : Nat}
    (h : sb.finishOpen number = .ok (k, sb')) : sb.Background sb' := by
  unfold finishOpen at h
  split at h
  · cases h
  · cases h
    exact background_note _ rfl

/-- An item was read from a socket, which leaves some frames. -/
def hear (k : Nat) (item : Except DecodeError Incoming) (rest : List Frame) : Switchboard :=
  (sb.setLine k { sb.line k with pair := { (sb.line k).pair with toClient := rest } }).note
    (.received k item)

section Hear

variable (k : Nat) (item : Except DecodeError Incoming) (rest : List Frame)

@[simp] theorem hear_session : (sb.hear k item rest).session = sb.session := rfl

@[simp] theorem hear_consumers : (sb.hear k item rest).consumers = sb.consumers := rfl

@[simp] theorem hear_listening : (sb.hear k item rest).listening = sb.listening :=
  listening_congr rfl

@[simp] theorem hear_readings : (sb.hear k item rest).readings = sb.readings ++ [(k, item)] :=
  note_readings _ _

@[simp] theorem hear_messagesOn (s : Nat) : (sb.hear k item rest).messagesOn s = sb.messagesOn s :=
  (note_messagesOn ..).trans (List.append_nil _)

@[simp] theorem hear_channel (n : Nat) : (sb.hear k item rest).channel n = sb.channel n :=
  (note_channel _ _ n).trans (List.append_nil _)

end Hear

theorem traffic_hear (k : Nat) (hk : k < sb.lines.length) (item : Except DecodeError Incoming)
    (rest : List Frame) : sb.Traffic k [.received k item] (sb.hear k item rest) :=
  sb.traffic_setLine_note k hk _ (by simp [Notice.isTraffic])

theorem hear_unread (k : Nat) (hk : k < sb.lines.length) (item : Except DecodeError Incoming)
    (rest : List Frame) : (sb.hear k item rest).unread k = rest := by
  unfold unread hear
  rw [note_line, line_setLine_self sb k hk]

end Switchboard

namespace Agent

variable (a : Agent) (sb : Switchboard) (link : Link)

/-! ## What is done in the background -/

theorem background_giveUp (error : ConnectionError) :
    sb.Background (a.giveUp sb error).2 := by
  simp only [giveUp, Switchboard.terminate]
  split
  · exact .refl sb
  · exact sb.background_commit _

theorem background_lose (error : ConnectionError) (acknowledged : Bool) :
    sb.Background (a.lose sb error acknowledged).2 := by
  unfold lose Switchboard.suspend
  dsimp only
  generalize (if acknowledged = true then 0 else a.attempt) = attempt
  split
  · exact a.background_giveUp sb _
  · cases sb.isOutdated a.epoch with
    | true => exact .refl sb
    | false =>
      have hsession := sb.background_withSession (sb.session.suspend sb.listening)
      exact hsession.trans (Switchboard.background_note _ rfl)

theorem background_loseLink (error : ConnectionError) :
    sb.Background (a.loseLink sb link error).2 :=
  (sb.background_drop link.socket).trans (a.background_lose _ error link.acknowledged)

theorem background_reject (error : ConnectionError) :
    sb.Background (a.reject sb link error).2 :=
  (sb.background_close link.socket _ _).trans (a.background_giveUp _ error)

theorem background_serveUnlessOutdated (result : Bool × Switchboard) :
    result.2.Background (a.serveUnlessOutdated link result).2 := by
  obtain ⟨current, sb⟩ := result
  cases current with
  | true => exact .refl sb
  | false => exact sb.background_drop link.socket

theorem background_openSocket : sb.Background (a.openSocket sb).2 := by
  unfold openSocket
  split
  · exact .refl sb
  · exact Switchboard.background_note _ rfl

theorem background_opened (number : Nat) : sb.Background (a.opened sb number).2 := by
  unfold opened
  split
  · exact a.background_lose sb _ _
  · next k sb' hopen =>
    have hsend := sb'.background_send k (.message (.connectionInit a.params))
      fun m hm => by cases hm; rfl
    refine (Switchboard.background_finishOpen hopen).trans ?_
    unfold greet
    split
    · next e sb₂ heq =>
      rw [heq] at hsend
      exact hsend.trans ((sb₂.background_drop k).trans (a.background_lose _ _ _))
    · next sb₂ heq =>
      rw [heq] at hsend
      exact hsend

theorem background_ping : sb.Background (a.ping sb link).2 := by
  have hsend := sb.background_send link.socket (.message (.ping sb.settings.pingPayload))
    fun m hm => by cases hm; rfl
  unfold ping
  split
  · next e sb' heq =>
    rw [heq] at hsend
    exact hsend.trans (a.background_loseLink sb' link _)
  · next sb' heq =>
    rw [heq] at hsend
    exact hsend

/-! ## What is done with an item -/

/-- What an agent does with an item that it read. -/
def attend : Except DecodeError Incoming → Turn
  | .ok (.closed frame) => a.receiveClose sb link frame
  | .ok (.message m) => a.receive sb (link.heard sb.now) m
  | .error e => a.receiveUndecodable sb (link.heard sb.now) e

theorem background_receiveClose (frame : CloseFrame) :
    sb.Background (a.receiveClose sb link frame).2 := by
  unfold receiveClose
  dsimp only
  split
  · exact (sb.background_drop link.socket).trans (a.background_giveUp _ _)
  · exact a.background_loseLink sb link _

theorem background_receive (m : Message) : sb.Background (a.receive sb link m).2 := by
  -- an item for a subscription
  have hroute (id : String) (item : Item) (error : ConnectionError) :
      sb.Background (if link.acknowledged = true then
        a.serveUnlessOutdated link (sb.route a.epoch id item)
      else a.reject sb link error).2 := by
    unfold Switchboard.route
    split
    · refine Switchboard.Background.trans ?_ (a.background_serveUnlessOutdated link _)
      split
      · exact .refl sb
      · exact sb.background_commit _
    · exact a.background_reject sb link error
  cases m with
  | connectionInit payload => exact a.background_reject sb link _
  | subscribe id operation => exact a.background_reject sb link _
  | pong payload => exact .refl sb
  | connectionAck payload =>
    unfold receive Switchboard.acknowledge
    dsimp only
    split
    · exact .refl sb
    · refine Switchboard.Background.trans ?_ (a.background_serveUnlessOutdated _ _)
      split
      · exact .refl sb
      · exact sb.background_commit _
  | ping payload =>
    have hsend := sb.background_send link.socket (.message (.pong payload))
      fun m hm => by cases hm; rfl
    unfold receive
    dsimp only
    split
    · next e sb' heq =>
      rw [heq] at hsend
      exact hsend.trans (a.background_loseLink sb' link _)
    · next sb' heq =>
      rw [heq] at hsend
      exact hsend
  | next id result => exact hroute id _ _
  | error id errors => exact hroute id _ _
  | complete id => exact hroute id _ _

theorem background_receiveUndecodable (e : DecodeError) :
    sb.Background (a.receiveUndecodable sb link e).2 := by
  unfold receiveUndecodable Switchboard.endOne
  split
  · split
    · refine Switchboard.Background.trans ?_ (a.background_serveUnlessOutdated link _)
      split
      · exact .refl sb
      · exact sb.background_commit _
    · exact a.background_reject sb link _
  · exact a.background_reject sb link _

/-- Nothing more is read with an item, and what it asks for is only queued. -/
theorem background_attend (item : Except DecodeError Incoming) :
    sb.Background (a.attend sb link item).2 := by
  cases item with
  | error e => exact a.background_receiveUndecodable sb _ e
  | ok incoming =>
    cases incoming with
    | closed frame => exact a.background_receiveClose sb link frame
    | message m => exact a.background_receive sb _ m

/-! ## Turns that read or send -/

/-- An agent has its turn for reading a frame: it belongs to the session as it is, serves a socket
with no timer due, and has nothing to send. -/
structure Reads (a : Agent) (sb : Switchboard) (link : Link) (frame : Frame) (rest : List Frame) :
    Prop where
  told : a.told = false
  stage : a.stage = .serving link
  calm : link.isCalm sb.now = true
  queue : sb.nextOutgoing a.epoch = none
  faults : (sb.line link.socket).recvFaults = []
  unread : sb.unread link.socket = frame :: rest

/-- An agent has its turn for sending the next message of the outgoing queue. -/
structure Sends (a : Agent) (sb : Switchboard) (link : Link) (m : Message) (rest : List Message) :
    Prop where
  told : a.told = false
  stage : a.stage = .serving link
  calm : link.isCalm sb.now = true
  queue : sb.nextOutgoing a.epoch =
    some (m, { sb with session := { sb.session with outgoing := some rest } })

variable {a sb link}

/-- A calm agent that was not told to stop sends what is queued, or else reads. -/
theorem turn_of_calm (ht : a.told = false) (hs : a.stage = .serving link)
    (hcalm : link.isCalm sb.now = true) : a.turn sb =
      match sb.nextOutgoing a.epoch with
      | some (m, sb) => some (a.sendNext sb link m)
      | none => a.listen sb link := by
  obtain ⟨hack, hpong, hping⟩ := Link.isCalm_iff.1 hcalm
  unfold turn
  rw [hs]
  dsimp only
  unfold serveTurn
  rw [ht, hack, hpong, hping]
  cases sb.nextOutgoing a.epoch with
  | none => rfl
  | some next => rfl

/-- What an agent does with a frame that it reads. -/
theorem turn_of_reads {frame : Frame} {rest : List Frame} (h : a.Reads sb link frame rest) :
    a.turn sb = some (a.attend (sb.hear link.socket (Incoming.ofFrame frame) rest) link
      (Incoming.ofFrame frame)) := by
  have hrecv := Line.recv_of_frame _ h.faults h.unread
  rw [turn_of_calm h.told h.stage h.calm, h.queue]
  unfold listen
  rw [hrecv]
  dsimp only
  cases Incoming.ofFrame frame with
  | error e => rfl
  | ok incoming => cases incoming <;> rfl

theorem turn_of_sends {m : Message} {rest : List Message} (h : a.Sends sb link m rest) :
    a.turn sb = some
      (a.sendNext { sb with session := { sb.session with outgoing := some rest } } link m) := by
  rw [turn_of_calm h.told h.stage h.calm, h.queue]

/-- A message that is sent is not read. -/
theorem readings_of_sends {m : Message} {rest : List Message} (h : a.Sends sb link m rest)
    {t : Turn} (ht : a.turn sb = some t) : t.2.readings = sb.readings := by
  obtain rfl := Option.some.inj ((turn_of_sends h).symm.trans ht)
  have hsent (sb : Switchboard) : (sb.send link.socket (.message m)).2.readings = sb.readings :=
    (Switchboard.note_readings _ _).trans (List.append_nil _)
  have hsend := hsent { sb with session := { sb.session with outgoing := some rest } }
  refine Eq.trans ?_ hsend
  unfold sendNext
  split
  · next sb' heq => rw [heq]; rfl
  · next e sb' heq =>
    rw [heq]
    split
    · next id hid =>
      unfold Switchboard.endOne
      split
      · rfl
      · exact Switchboard.commit_readings ..
    · rfl

/-- Whoever listens reads a frame, or loses the socket. -/
theorem listen_cases (ht : a.told = false) (hs : a.stage = .serving link)
    (hcalm : link.isCalm sb.now = true) (hnext : sb.nextOutgoing a.epoch = none) {t : Turn}
    (h : a.listen sb link = some t) :
    (∃ line error, t = a.loseLink (sb.setLine link.socket line) link error) ∨
      ∃ frame rest, a.Reads sb link frame rest := by
  unfold listen at h
  split at h
  · cases h
  · exact Or.inl ⟨_, _, (Option.some.inj h).symm⟩
  · exact Or.inl ⟨_, _, (Option.some.inj h).symm⟩
  · next frame line hrecv =>
    obtain ⟨hfaults, rest, hunread⟩ := Line.frame_of_recv hrecv
    exact Or.inr ⟨frame, rest, ht, hs, hcalm, hnext, hfaults, hunread⟩

/-- A turn on an open socket sends, or reads, or does something in the background. -/
theorem Service.cases (hs : a.stage = .serving link) {t : Turn} (h : a.Service sb link t) :
    sb.Background t.2 ∨
      (∃ link m rest, a.Sends sb link m rest) ∨ ∃ link frame rest, a.Reads sb link frame rest := by
  cases h with
  | stops htold => exact Or.inl (sb.background_close link.socket _ _)
  | givesUp htold hack =>
    exact Or.inl ((sb.background_close link.socket _ _).trans (a.background_giveUp _ _))
  | misses htold hack hpong => exact Or.inl (a.background_loseLink sb link _)
  | pings htold hack hpong hping => exact Or.inl (a.background_ping sb link)
  | sends htold hack hpong hping hout hnext =>
    exact Or.inr (Or.inl ⟨link, _, _, htold, hs, Link.isCalm_iff.2 ⟨hack, hpong, hping⟩, hnext⟩)
  | listens htold hack hpong hping hnext h =>
    rcases listen_cases htold hs (Link.isCalm_iff.2 ⟨hack, hpong, hping⟩) hnext h with
      ⟨line, error, rfl⟩ | ⟨frame, rest, hreads⟩
    · exact Or.inl ((Switchboard.Background.of_journal rfl).trans (a.background_loseLink _ link _))
    · exact Or.inr (Or.inr ⟨link, frame, rest, hreads⟩)

/-- A turn sends, or reads, or does something in the background. -/
theorem turn_cases {t : Turn} (ht : a.turn sb = some t) : sb.Background t.2 ∨
    (∃ link m rest, a.Sends sb link m rest) ∨ ∃ link frame rest, a.Reads sb link frame rest := by
  cases conduct_of_turn ht with
  | asks hs => exact Or.inl (a.background_openSocket sb)
  | leaves htold hs => exact Or.inl (.refl sb)
  | learns htold hs hdue => exact Or.inl (a.background_opened sb _)
  | wakes htold hs hdue => exact Or.inl (.refl sb)
  | serves hs h => exact h.cases hs

/-- A turn reads nothing unless it is for reading a frame. -/
theorem readings_of_turn {t : Turn} (ht : a.turn sb = some t) :
    t.2.readings = sb.readings ∨ ∃ link frame rest, a.Reads sb link frame rest := by
  rcases turn_cases ht with hback | ⟨link, m, rest, hsends⟩ | hreads
  · exact Or.inl hback.readings
  · exact Or.inl (readings_of_sends hsends ht)
  · exact Or.inr hreads

end Agent

namespace Client

variable {c c' : Client} {e : Event}

/-! ## Events that read -/

/-- What is read in an event. -/
def reads (c : Client) (e : Event) : List (Nat × Except DecodeError Incoming) :=
  (c.perform e).board.readings.drop c.board.readings.length

/-- Calls and time do everything in the background. -/
theorem background_step (hstep : Step e c c') (he : e.isTurn = false) :
    c.board.Background c'.board := by
  cases hstep with
  | quiet hq => exact .of_journal hq.journal
  | touch ht => exact .refl c.board
  | launch _ hp params held =>
    exact Switchboard.background_withSession { c.board with handshakes := _ } _
  | enlist _ hp operation =>
    exact Switchboard.background_withSession { c.board with consumers := _ } _
  | refuse _ error => exact Switchboard.background_note { c.board with consumers := _ } rfl
  | withdraw _ hx hcancelled =>
    rw [withdrawn_eq]
    exact Switchboard.background_withSession { c.board with consumers := _ } _
  | halt hp => exact Switchboard.background_commit c.board _
  | turn hagents ht hturn =>
    rw [he] at hturn
    cases hturn
  | pass _ => exact .of_journal rfl

theorem background_perform (he : e.isTurn = false) : c.board.Background (c.perform e).board :=
  perform_induction (e := e) (P := fun c' => c.board.Background c'.board)
    (fun _ _ h hstep => h.trans (background_step hstep he)) (.refl c.board)

/-- An event in which an agent reads a frame. -/
structure ReadsIn (c : Client) (e : Event) (a : Agent) (link : Link) (frame : Frame)
    (rest : List Frame) : Prop where
  reads : a.Reads c.board link frame rest
  board : (c.perform e).board =
    (a.attend (c.board.hear link.socket (Incoming.ofFrame frame) rest) link
      (Incoming.ofFrame frame)).2
  agents : ∃ pre post, c.agents = pre ++ a :: post ∧
    (c.perform e).agents = pre ++
      ((a.attend (c.board.hear link.socket (Incoming.ofFrame frame) rest) link
        (Incoming.ofFrame frame)).1.toList ++ post)

/-- The agent at a place reads in its turn. -/
theorem readsIn_of_reads {place : Nat} {a : Agent} {link : Link} {frame : Frame} {rest : List Frame}
    (ha : c.agents[place]? = some a) (h : a.Reads c.board link frame rest) :
    c.ReadsIn (.turn place) a link frame rest := by
  have hperform := perform_turn_of ha (Agent.turn_of_reads h)
  exact ⟨h, by rw [hperform], _, _, agents_at ha, by rw [hperform]⟩

theorem ReadsIn.agent {a : Agent} {link : Link} {frame : Frame} {rest : List Frame}
    (h : c.ReadsIn e a link frame rest) : a ∈ c.agents := by
  obtain ⟨pre, post, hagents, -⟩ := h.agents
  exact mem_of_split hagents

theorem ReadsIn.readings {a : Agent} {link : Link} {frame : Frame} {rest : List Frame}
    (h : c.ReadsIn e a link frame rest) : (c.perform e).board.readings =
      c.board.readings ++ [(link.socket, Incoming.ofFrame frame)] := by
  rw [h.board, (Agent.background_attend ..).readings, Switchboard.hear_readings]

/-- An event reads nothing, or one frame. -/
theorem reads_cases (c : Client) (e : Event) :
    (c.perform e).board.readings = c.board.readings ∨
      ∃ a link frame rest, c.ReadsIn e a link frame rest := by
  cases he : e.isTurn with
  | false => exact Or.inl (background_perform he).readings
  | true =>
    rcases c.perform_cases he with h | ⟨pre, a, post, o, board, hagents, ht, h⟩
    · rw [h]
      exact Or.inl rfl
    · rcases Agent.readings_of_turn ht with hsilent | ⟨link, frame, rest, hreads⟩
      · rw [h]
        exact Or.inl hsilent
      · have hattend := Option.some.inj ((Agent.turn_of_reads hreads).symm.trans ht)
        refine Or.inr ⟨a, link, frame, rest, hreads, ?_, pre, post, hagents, ?_⟩
        · rw [h, hattend]
        · rw [h, hattend]

theorem reads_of_readings {news : List (Nat × Except DecodeError Incoming)}
    (h : (c.perform e).board.readings = c.board.readings ++ news) : c.reads e = news := by
  unfold reads
  rw [h, List.drop_left]

/-- Whatever is read is the frame that an agent reads from its socket. -/
theorem readsIn_of_mem {k : Nat} {item : Except DecodeError Incoming}
    (h : (k, item) ∈ c.reads e) : ∃ a link frame rest, c.ReadsIn e a link frame rest ∧
      link.socket = k ∧ Incoming.ofFrame frame = item := by
  rcases c.reads_cases e with hsilent | ⟨a, link, frame, rest, hin⟩
  · rw [reads_of_readings (hsilent.trans (List.append_nil _).symm)] at h
    cases h
  · rw [reads_of_readings hin.readings, List.mem_singleton] at h
    obtain ⟨rfl, rfl⟩ := Prod.mk.inj h
    exact ⟨a, link, frame, rest, hin, rfl, rfl⟩

end Client

end LiveQuery
