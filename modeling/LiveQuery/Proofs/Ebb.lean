import LiveQuery.Proofs.Delivery

/-!
# Turns without a server

A server that drops its end of a socket leaves behind what it sent before. The agent on the other
end still drains its outgoing queue, every send of which fails, and reads what is left, before it
learns of the loss. `Agent.Ebb` lists the turns on such a socket and `Agent.ebb_of_turn` shows that
there are no others. What comes of the agent is settled from the start: its timers and the frames
it has not read decide whether the session ends or the socket is lost (`Link.fate`).
-/

namespace LiveQuery

/-- What comes of an agent whose server is gone. -/
inductive Fate where
  /-- The session ends. -/
  | ended
  /-- The socket is lost. Was it acknowledged by then? -/
  | lost (acknowledged : Bool)
deriving DecidableEq, Repr

/-- What comes of an agent by the frames it has not read. -/
def Fate.ofFrames (acknowledged : Bool) : List Frame → Fate
  | [] => .lost acknowledged
  | f :: rest =>
    match Incoming.ofFrame f with
    | .ok (.closed frame) =>
      if frame.code.disposition = .fatal then .ended else .lost acknowledged
    | .ok (.message m) =>
      match m with
      | .connectionAck _ => ofFrames true rest
      -- there is nobody to send the pong to
      | .ping _ => .lost acknowledged
      | .pong _ => ofFrames acknowledged rest
      | .next .. | .error .. | .complete _ =>
        if acknowledged then ofFrames acknowledged rest else .ended
      | .connectionInit _ | .subscribe .. => .ended
    | .error e =>
      if acknowledged && e.id?.isSome then ofFrames acknowledged rest else .ended

/-- Is an acknowledgment the first thing that matters among some frames? -/
def meetsAck : List Frame → Bool
  | [] => false
  | f :: rest =>
    match Incoming.ofFrame f with
    | .ok (.message (.connectionAck _)) => true
    | .ok (.message (.pong _)) => meetsAck rest
    | _ => false

/-- A silence that starts now does not call for a ping yet. -/
theorem Heartbeat.isDue_pingAfter (interval now : Nat) :
    isDue now (pingAfter interval now) = false := by
  unfold pingAfter
  split
  · rfl
  · next hinterval =>
    simp only [isDue, decide_eq_false_iff_not]
    omega

namespace Link

/-- Is no timer due? -/
def isCalm (link : Link) (now : Nat) : Bool :=
  !isDue now link.waitingFor && !isDue now link.heartbeat.pongDue &&
    !isDue now link.heartbeat.nextPing

/-- What comes of an agent whose server is gone: due timers come before unread frames. -/
def fate (link : Link) (now : Nat) (unread : List Frame) : Fate :=
  if isDue now link.waitingFor then .ended
  else if link.isCalm now then Fate.ofFrames link.acknowledged unread
  else .lost link.acknowledged

variable {link link' : Link} {now : Nat}

theorem isCalm_iff : link.isCalm now = true ↔ isDue now link.waitingFor = false ∧
    isDue now link.heartbeat.pongDue = false ∧ isDue now link.heartbeat.nextPing = false := by
  unfold isCalm
  simp [and_assoc]

theorem fate_of_calm (h : link.isCalm now = true) (unread : List Frame) :
    link.fate now unread = Fate.ofFrames link.acknowledged unread := by
  unfold fate
  rw [(isCalm_iff.1 h).1, h]
  rfl

/-- A timer that is not due yet was not due before. -/
theorem isCalm_of_succ (h : link.isCalm (now + 1) = true) : link.isCalm now = true := by
  have hdue {due : Option Nat} (hlater : isDue (now + 1) due = false) : isDue now due = false := by
    cases due with
    | none => rfl
    | some t =>
      simp only [isDue, decide_eq_false_iff_not] at hlater ⊢
      omega
  obtain ⟨hwaiting, hpong, hping⟩ := isCalm_iff.1 h
  exact isCalm_iff.2 ⟨hdue hwaiting, hdue hpong, hdue hping⟩

/-- What arrives puts the timers off. -/
theorem isCalm_heard (h : link.isCalm now = true) : (link.heard now).isCalm now = true :=
  isCalm_iff.2 ⟨(isCalm_iff.1 h).1, rfl, Heartbeat.isDue_pingAfter ..⟩

/-- After the acknowledgment its deadline does not count. -/
theorem isCalm_acknowledged (h : link.isCalm now = true) :
    ({ link with acknowledged := true } : Link).isCalm now = true :=
  isCalm_iff.2 ⟨rfl, (isCalm_iff.1 h).2⟩

end Link

namespace Switchboard

/-- The server end of a socket is gone, and no receive over it is made to fail. -/
structure IsDead (sb : Switchboard) (k : Nat) : Prop where
  server : (sb.line k).pair.server = false
  recvFaults : (sb.line k).recvFaults = []

/-- The frames of a socket that were not read. -/
def unread (sb : Switchboard) (k : Nat) : List Frame := (sb.line k).pair.toClient

variable {sb sb' : Switchboard} {k : Nat}

theorem IsDead.congr (h : sb.IsDead k)
    (hserver : (sb'.line k).pair.server = (sb.line k).pair.server)
    (hfaults : (sb'.line k).recvFaults = (sb.line k).recvFaults) : sb'.IsDead k :=
  ⟨hserver.trans h.server, hfaults.trans h.recvFaults⟩

theorem IsDead.abandon (h : sb.IsDead k) (m : Message) (error : TransportError) :
    (sb.abandon m error).IsDead k :=
  h.congr (by rw [abandon_line]) (by rw [abandon_line])

theorem abandon_unread (m : Message) (error : TransportError) :
    (sb.abandon m error).unread k = sb.unread k := by
  unfold unread
  rw [abandon_line]

/-- A send reads nothing. -/
theorem send_unread (hk : k < sb.lines.length) (item : Outgoing) :
    (sb.send k item).2.unread k = sb.unread k := by
  obtain ⟨sendFault, hline⟩ := sb.line_send k hk item
  unfold unread
  rw [hline]

/-- A send does nothing for a dead socket. -/
theorem IsDead.send (h : sb.IsDead k) (hk : k < sb.lines.length) (item : Outgoing) :
    (∃ error, (sb.send k item).1 = some error) ∧ (sb.send k item).2.IsDead k ∧
      (sb.send k item).2.unread k = sb.unread k := by
  obtain ⟨sendFault, hline⟩ := sb.line_send k hk item
  refine ⟨sb.send_of_gone k h.server item, h.congr ?_ ?_, send_unread hk item⟩
  · rw [hline]
  · rw [hline]

/-- A dead socket gives its frames one by one, and ends. -/
theorem IsDead.recv (h : sb.IsDead k) : (sb.line k).recv =
    match sb.unread k with
    | f :: rest =>
      (.ready (.ok f), { sb.line k with pair := { (sb.line k).pair with toClient := rest } })
    | [] => (.ended, sb.line k) := by
  unfold unread
  split
  · next f rest hf => exact Line.recv_of_frame _ h.recvFaults hf
  · next hf => exact Line.recv_of_end _ h.recvFaults hf h.server

end Switchboard

/-- The agent has nothing to send, and no acknowledgment is the next thing that matters, unless a
timer comes first. -/
def Link.IsStuck (link : Link) (sb : Switchboard) : Prop :=
  link.isCalm sb.now = true → sb.session.outgoing.getD [] = [] ∧
    (link.acknowledged = false → meetsAck (sb.unread link.socket) = false)

namespace Agent

/-- What a turn on a socket without server can be. -/
inductive Ebb (a : Agent) (link : Link) (sb : Switchboard) : Turn → Prop
  /-- The session ends, though not for the loss. -/
  | ended {news : List Notice} {sb' : Switchboard} {error : ConnectionError}
      (hfate : link.fate sb.now (sb.unread link.socket) = .ended) (hstuck : link.IsStuck sb)
      (h : sb.Traffic link.socket news sb') (herror : error.isLoss = false) :
      Ebb a link sb (none, sb'.commit (sb'.session.terminate error))
  /-- The socket is lost. -/
  | lost {news : List Notice} {sb' : Switchboard} {error : ConnectionError}
      (hfate : link.fate sb.now (sb.unread link.socket) = .lost link.acknowledged)
      (hstuck : link.IsStuck sb) (h : sb.Traffic link.socket news sb') :
      Ebb a link sb (a.lose sb' error link.acknowledged)
  /-- A message of the outgoing queue cannot be sent. -/
  | drain {m : Message} {rest : List Message} {arrived : Bool} {sb' : Switchboard}
      {error : TransportError} (hcalm : link.isCalm sb.now = true)
      (hout : sb.session.outgoing = some (m :: rest))
      (h : { sb with session := { sb.session with outgoing := some rest } }.Exchange link.socket
        [.sent link.socket (.message m) arrived true] sb')
      (hdead : sb'.IsDead link.socket)
      (hunread : sb'.unread link.socket = sb.unread link.socket) :
      Ebb a link sb (some { a with stage := .serving link }, sb'.abandon m error)
  /-- A frame is read, and the agent goes on. -/
  | read {f : Frame} {rest : List Frame} {link' : Link} {sb' : Switchboard}
      (hcalm : link.isCalm sb.now = true) (hout : sb.session.outgoing.getD [] = [])
      (hunread : sb.unread link.socket = f :: rest) (hsocket : link'.socket = link.socket)
      (hcalm' : link'.isCalm sb.now = true) (hdead : sb'.IsDead link.socket)
      (hunread' : sb'.unread link.socket = rest)
      (hmessages : sb'.messagesOn link.socket = sb.messagesOn link.socket)
      (hkept : sb'.now = sb.now ∧ sb'.opens = sb.opens ∧ sb'.settings = sb.settings)
      (hfate : Fate.ofFrames link.acknowledged (f :: rest) =
        Fate.ofFrames link'.acknowledged rest)
      (hstays : link.acknowledged = true → link'.acknowledged = true)
      (hack : link.acknowledged = false →
        meetsAck (f :: rest) = (link'.acknowledged || meetsAck rest)) :
      Ebb a link sb (some { a with stage := .serving link' }, sb')

section Turns

variable {a : Agent} {link link' : Link} {sb sb' : Switchboard} {f : Frame} {rest : List Frame}

variable (hcur : sb.isOutdated a.epoch = false)

include hcur

theorem ebb_giveUp {news : List Notice} (h : sb.Traffic link.socket news sb')
    (hfate : link.fate sb.now (sb.unread link.socket) = .ended) (hstuck : link.IsStuck sb)
    {error : ConnectionError} (herror : error.isLoss = false) :
    a.Ebb link sb (a.giveUp sb' error) := by
  rw [giveUp_eq (by rw [h.isOutdated, hcur])]
  exact .ended hfate hstuck h herror

omit hcur in
theorem ebb_loseLink {news : List Notice} (h : sb.Traffic link.socket news sb')
    (hfate : link.fate sb.now (sb.unread link.socket) = .lost link.acknowledged)
    (hstuck : link.IsStuck sb) (hsocket : link'.socket = link.socket)
    (hack : link'.acknowledged = link.acknowledged)
    (error : ConnectionError) : a.Ebb link sb (a.loseLink sb' link' error) := by
  obtain ⟨seen, hdrop⟩ := sb'.traffic_drop link.socket h.bound
  unfold loseLink
  rw [hsocket, hack]
  exact .lost hfate hstuck (h.trans hdrop)

theorem ebb_sendNext (hk : link.socket < sb.lines.length) (hdead : sb.IsDead link.socket)
    (hcalm : link.isCalm sb.now = true) {m : Message} {rest : List Message}
    (hout : sb.session.outgoing = some (m :: rest)) : a.Ebb link sb
      (a.sendNext { sb with session := { sb.session with outgoing := some rest } } link m) := by
  have hdead_popped : ({ sb with session := { sb.session with outgoing := some rest } } :
      Switchboard).IsDead link.socket := hdead.congr rfl rfl
  obtain ⟨⟨error, herror⟩, hdead', hunread⟩ := hdead_popped.send hk (.message m)
  obtain ⟨arrived, hsend⟩ := Switchboard.exchange_send
    { sb with session := { sb.session with outgoing := some rest } } link.socket hk (.message m)
  have hin : ({ sb with session := { sb.session with outgoing := some rest } } :
      Switchboard).isOutdated a.epoch = false := hcur
  rw [sendNext_eq hin]
  split
  · next sb₂ heq =>
    rw [heq] at herror
    cases herror
  · next e sb₂ heq =>
    rw [heq] at hsend hdead' hunread
    exact .drain hcalm hout hsend hdead' hunread

variable (hcalm : link.isCalm sb.now = true) (hout : sb.session.outgoing.getD [] = [])
  (hunread : sb.unread link.socket = f :: rest)
  (h : sb.Exchange link.socket [.received link.socket (Incoming.ofFrame f)] sb')
  (hdead : sb'.IsDead link.socket) (hunread' : sb'.unread link.socket = rest)

include hcalm hunread h hdead hunread' hout

omit hcur hcalm hout hunread hdead hunread' in
/-- What is read is no message of the agent's own. -/
theorem messagesOn_of_read : sb'.messagesOn link.socket = sb.messagesOn link.socket := by
  rw [h.messagesOn]
  exact List.append_nil _

omit hcur in
/-- What is read concerns no subscription. -/
theorem ebb_idle
    (hfate : Fate.ofFrames link.acknowledged (f :: rest) = Fate.ofFrames link.acknowledged rest)
    (hack : link.acknowledged = false → meetsAck (f :: rest) = meetsAck rest) :
    a.Ebb link sb (a.serve sb' (link.heard sb.now)) := by
  refine .read hcalm hout hunread rfl (Link.isCalm_heard hcalm) hdead hunread'
    (messagesOn_of_read h) ⟨h.now, h.opens, h.settings⟩ hfate (fun hacked => hacked) fun hnot => ?_
  have hnot' : (link.heard sb.now).acknowledged = false := hnot
  rw [hack hnot, hnot', Bool.false_or]

omit hcur in
/-- What is read changes the session, which is acknowledged then. -/
theorem ebb_commit (result : Session × List Effect)
    (hfate : Fate.ofFrames link.acknowledged (f :: rest) = Fate.ofFrames true rest)
    (hack : link.acknowledged = false → meetsAck (f :: rest) = true) :
    a.Ebb link sb
      (a.serve (sb'.commit result) { link.heard sb.now with acknowledged := true }) := by
  have hline : (sb'.commit result).line link.socket = sb'.line link.socket := by
    unfold Switchboard.line
    rw [Switchboard.commit_lines]
  have hsame : (sb'.commit result).unread link.socket = rest := by
    unfold Switchboard.unread
    rw [hline]
    exact hunread'
  have hkept : (sb'.commit result).now = sb.now ∧ (sb'.commit result).opens = sb.opens ∧
      (sb'.commit result).settings = sb.settings := by
    rw [Switchboard.commit_now, Switchboard.commit_opens, Switchboard.commit_settings]
    exact ⟨h.now, h.opens, h.settings⟩
  refine .read hcalm hout hunread rfl (Link.isCalm_acknowledged (Link.isCalm_heard hcalm))
    (hdead.congr (by rw [hline]) (by rw [hline])) hsame
    ((Switchboard.commit_messagesOn ..).trans (messagesOn_of_read h)) hkept hfate
    (fun _ => rfl) fun hnot => ?_
  rw [hack hnot, Bool.true_or]

omit hcur hcalm h hdead hunread' in
/-- If no acknowledgment comes next, the agent is stuck. -/
theorem isStuck_of_read (hmeets : link.acknowledged = false → meetsAck (f :: rest) = false) :
    link.IsStuck sb := by
  intro _
  rw [hunread]
  exact ⟨hout, hmeets⟩

omit hdead hunread' in
/-- What is read has no place here. -/
theorem ebb_reject (hfate : Fate.ofFrames link.acknowledged (f :: rest) = .ended)
    (hmeets : link.acknowledged = false → meetsAck (f :: rest) = false) {error : ConnectionError}
    (herror : error.isLoss = false) :
    a.Ebb link sb (a.reject sb' (link.heard sb.now) error) := by
  obtain ⟨news, hclose⟩ := sb'.traffic_close link.socket h.bound .badResponse "Bad response"
  refine ebb_giveUp hcur (h.toTraffic.trans hclose) ?_
    (isStuck_of_read hout hunread hmeets) herror
  rw [Link.fate_of_calm hcalm, hunread, hfate]

/-- What is read is for a subscription. -/
theorem ebb_route {id : String} {item : Item} {kind : String}
    (hfate : Fate.ofFrames link.acknowledged (f :: rest) =
      if link.acknowledged then Fate.ofFrames link.acknowledged rest else .ended)
    (hmeets : link.acknowledged = false → meetsAck (f :: rest) = false) :
    a.Ebb link sb (if (link.heard sb.now).acknowledged then
      a.serveUnlessOutdated (link.heard sb.now) (sb'.route a.epoch id item)
    else a.reject sb' (link.heard sb.now) (.unexpectedMessage kind)) := by
  have hin : sb'.isOutdated a.epoch = false := by rw [h.isOutdated, hcur]
  cases hacked : link.acknowledged with
  | true =>
    have hheard : link.heard sb.now = { link.heard sb.now with acknowledged := true } := by
      rw [← hacked]
      rfl
    rw [if_pos (show (link.heard sb.now).acknowledged = true from hacked), hheard]
    rw [if_pos hacked] at hfate
    simp only [Switchboard.route, hin, Bool.false_eq_true, if_false, serveUnlessOutdated]
    refine ebb_commit hcalm hout hunread h hdead hunread' _ ?_ fun hnot => ?_
    · rw [hfate, hacked]
    · rw [hacked] at hnot
      cases hnot
  | false =>
    have hheard : (link.heard sb.now).acknowledged = false := hacked
    rw [if_neg (Bool.eq_false_iff.1 hheard)]
    rw [hacked, if_neg Bool.false_ne_true] at hfate
    exact ebb_reject hcur hcalm hout hunread h (by rw [hacked]; exact hfate) hmeets rfl

/-- A message is read on a dead socket. -/
theorem ebb_receive {m : Message} (hitem : Incoming.ofFrame f = .ok (.message m)) :
    a.Ebb link sb (a.receive sb' (link.heard sb.now) m) := by
  have hin : sb'.isOutdated a.epoch = false := by rw [h.isOutdated, hcur]
  have hidle := @ebb_idle a link sb sb' f rest hcalm hout hunread h hdead hunread'
  have hreject := @ebb_reject a link sb sb' f rest hcur hcalm hout hunread h
  have hroute := @ebb_route a link sb sb' f rest hcur hcalm hout hunread h hdead hunread'
  have hstuck := @isStuck_of_read link sb f rest hout hunread
  cases m with
  | connectionInit payload =>
    exact hreject (by simp only [Fate.ofFrames, hitem]) (fun _ => by simp only [meetsAck, hitem])
      rfl
  | connectionAck payload =>
    have hfate : Fate.ofFrames link.acknowledged (f :: rest) = Fate.ofFrames true rest := by
      simp only [Fate.ofFrames, hitem]
    unfold receive
    dsimp only
    split
    · next hacked =>
      have hacked : link.acknowledged = true := hacked
      refine hidle ?_ fun hnot => ?_
      · rw [hfate, hacked]
      · rw [hacked] at hnot
        cases hnot
    · simp only [Switchboard.acknowledge, hin, Bool.false_eq_true, if_false, serveUnlessOutdated]
      exact ebb_commit hcalm hout hunread h hdead hunread' _ hfate fun _ => by
        simp only [meetsAck, hitem]
  | ping payload =>
    have hfate : Fate.ofFrames link.acknowledged (f :: rest) = .lost link.acknowledged := by
      simp only [Fate.ofFrames, hitem]
    obtain ⟨⟨error, herror⟩, -, -⟩ := hdead.send h.bound (.message (.pong payload))
    obtain ⟨arrived, hsend⟩ := sb'.exchange_send link.socket h.bound (.message (.pong payload))
    have hsocket : (link.heard sb.now).socket = link.socket := rfl
    unfold receive
    dsimp only
    rw [hsocket]
    split
    · next e sb₂ heq =>
      rw [heq] at hsend
      refine ebb_loseLink (h.trans hsend).toTraffic ?_
        (hstuck fun _ => by simp only [meetsAck, hitem]) rfl rfl _
      rw [Link.fate_of_calm hcalm, hunread, hfate]
    · next sb₂ heq =>
      rw [heq] at herror
      cases herror
  | pong payload =>
    exact hidle (by simp only [Fate.ofFrames, hitem]) fun _ => by simp only [meetsAck, hitem]
  | subscribe id operation =>
    exact hreject (by simp only [Fate.ofFrames, hitem]) (fun _ => by simp only [meetsAck, hitem])
      rfl
  | next id result =>
    exact hroute (by simp only [Fate.ofFrames, hitem]) fun _ => by simp only [meetsAck, hitem]
  | error id errors =>
    exact hroute (by simp only [Fate.ofFrames, hitem]) fun _ => by simp only [meetsAck, hitem]
  | complete id =>
    exact hroute (by simp only [Fate.ofFrames, hitem]) fun _ => by simp only [meetsAck, hitem]

/-- Something undecodable is read on a dead socket. -/
theorem ebb_receiveUndecodable {e : DecodeError} (hitem : Incoming.ofFrame f = .error e) :
    a.Ebb link sb (a.receiveUndecodable sb' (link.heard sb.now) e) := by
  have hin : sb'.isOutdated a.epoch = false := by rw [h.isOutdated, hcur]
  have hreject := @ebb_reject a link sb sb' f rest hcur hcalm hout hunread h
  have hmeets (_ : link.acknowledged = false) : meetsAck (f :: rest) = false := by
    simp only [meetsAck, hitem]
  unfold receiveUndecodable
  split
  · next id hid =>
    split
    · next hacked =>
      have hacked : link.acknowledged = true := hacked
      have hheard : link.heard sb.now = { link.heard sb.now with acknowledged := true } := by
        rw [← hacked]
        rfl
      rw [hheard]
      simp only [Switchboard.endOne, hin, Bool.false_eq_true, if_false, serveUnlessOutdated]
      refine ebb_commit hcalm hout hunread h hdead hunread' _ ?_ fun hnot => ?_
      · simp only [Fate.ofFrames, hitem, hid, hacked]
        rfl
      · rw [hacked] at hnot
        cases hnot
    · next hacked =>
      have hacked : ¬ link.acknowledged = true := hacked
      refine hreject ?_ hmeets rfl
      simp only [Fate.ofFrames, hitem, hacked]
      rfl
  · next hid =>
    refine hreject ?_ hmeets rfl
    simp only [Fate.ofFrames, hitem, hid]
    simp

omit hcalm hout hunread h hdead hunread'

/-- What is left is read, or the end of the stream is. -/
theorem ebb_listen (hk : link.socket < sb.lines.length) (hdead : sb.IsDead link.socket)
    (hcalm : link.isCalm sb.now = true) (hout : sb.session.outgoing.getD [] = []) {t : Turn}
    (hturn : a.listen sb link = some t) : a.Ebb link sb t := by
  have hread := sb.exchange_received link.socket hk
  have hrecv := hdead.recv
  unfold listen at hturn
  cases hunread : sb.unread link.socket with
  | nil =>
    rw [hunread] at hrecv
    rw [hrecv] at hturn
    obtain rfl := Option.some.inj hturn
    refine ebb_loseLink (sb.traffic_setLine link.socket hk _) ?_ (fun _ => ⟨hout, fun _ => ?_⟩)
      rfl rfl _
    · rw [Link.fate_of_calm hcalm, hunread, Fate.ofFrames]
    · rw [hunread, meetsAck]
  | cons f rest =>
    rw [hunread] at hrecv
    dsimp only at hrecv
    have hread := hread (Incoming.ofFrame f)
    rw [hrecv] at hturn hread
    dsimp only at hturn hread
    obtain rfl := Option.some.inj hturn
    have hline := sb.line_setLine_self link.socket hk
      { sb.line link.socket with
        pair := { (sb.line link.socket).pair with toClient := rest } }
    have hdead' : ((sb.setLine link.socket { sb.line link.socket with
        pair := { (sb.line link.socket).pair with toClient := rest } }).note
          (.received link.socket (Incoming.ofFrame f))).IsDead link.socket := by
      refine hdead.congr ?_ ?_
      · rw [Switchboard.note_line, hline]
      · rw [Switchboard.note_line, hline]
    have hunread' : ((sb.setLine link.socket { sb.line link.socket with
        pair := { (sb.line link.socket).pair with toClient := rest } }).note
          (.received link.socket (Incoming.ofFrame f))).unread link.socket = rest := by
      unfold Switchboard.unread
      rw [Switchboard.note_line, hline]
    cases hitem : Incoming.ofFrame f with
    | error e =>
      rw [hitem] at hread hdead' hunread'
      exact ebb_receiveUndecodable hcur hcalm hout hunread (by rw [hitem]; exact hread) hdead'
        hunread' hitem
    | ok item =>
      rw [hitem] at hread hdead' hunread'
      cases item with
      | message m =>
        exact ebb_receive hcur hcalm hout hunread (by rw [hitem]; exact hread) hdead' hunread'
          hitem
      | closed frame =>
        have hstuck : link.IsStuck sb := isStuck_of_read hout hunread fun _ => by
          simp only [meetsAck, hitem]
        unfold receiveClose
        dsimp only
        split
        · next hfatal =>
          obtain ⟨seen, hdrop⟩ := Switchboard.traffic_drop _ link.socket hread.bound
          refine ebb_giveUp hcur (hread.toTraffic.trans hdrop) ?_ hstuck ?_
          · rw [Link.fate_of_calm hcalm, hunread]
            simp only [Fate.ofFrames, hitem, hfatal, if_true]
          · exact decide_eq_false (not_not.2 hfatal)
        · next hfatal =>
          refine ebb_loseLink hread.toTraffic ?_ hstuck rfl rfl _
          rw [Link.fate_of_calm hcalm, hunread]
          simp only [Fate.ofFrames, hitem, hfatal, if_false]

/-- An agent whose server is gone has a turn, and it is one of these. -/
theorem ebb_of_turn (ht : a.told = false) (hs : a.stage = .serving link)
    (hk : link.socket < sb.lines.length) (hdead : sb.IsDead link.socket) {t : Turn}
    (hturn : a.turn sb = some t) : a.Ebb link sb t := by
  rw [turn_of_serving hs] at hturn
  -- a timer that is due decides
  have hlost (hack : isDue sb.now link.waitingFor = false) (hdue : ¬ link.isCalm sb.now = true) :
      link.fate sb.now (sb.unread link.socket) = .lost link.acknowledged := by
    unfold Link.fate
    rw [hack, if_neg Bool.false_ne_true, if_neg hdue]
  cases service_of_serveTurn hturn with
  | stops htold =>
    rw [ht] at htold
    cases htold
  | givesUp htold hdue =>
    obtain ⟨news, hclose⟩ := sb.traffic_close link.socket hk .connectionAckTimeout
      "Connection acknowledgement timeout"
    refine ebb_giveUp hcur hclose ?_ (fun hcalm => ?_) rfl
    · unfold Link.fate
      rw [if_pos hdue]
    · rw [(Link.isCalm_iff.1 hcalm).1] at hdue
      cases hdue
  | misses htold hack hpong =>
    have hdue : ¬ link.isCalm sb.now = true := fun hcalm => by
      rw [(Link.isCalm_iff.1 hcalm).2.1] at hpong
      cases hpong
    exact ebb_loseLink (Switchboard.Traffic.refl hk) (hlost hack hdue)
      (fun hcalm => absurd hcalm hdue) rfl rfl _
  | pings htold hack hpong hping =>
    have hdue : ¬ link.isCalm sb.now = true := fun hcalm => by
      rw [(Link.isCalm_iff.1 hcalm).2.2] at hping
      cases hping
    obtain ⟨⟨error, herror⟩, -, -⟩ := hdead.send hk (.message (.ping sb.settings.pingPayload))
    obtain ⟨arrived, hsend⟩ := sb.exchange_send link.socket hk
      (.message (.ping sb.settings.pingPayload))
    unfold ping
    split
    · next e sb₂ heq =>
      rw [heq] at hsend
      exact ebb_loseLink hsend.toTraffic (hlost hack hdue) (fun hcalm => absurd hcalm hdue) rfl
        rfl _
    · next sb₂ heq =>
      rw [heq] at herror
      cases herror
  | sends htold hack hpong hping hout =>
    exact ebb_sendNext hcur hk hdead (Link.isCalm_iff.2 ⟨hack, hpong, hping⟩) hout
  | listens htold hack hpong hping hnext h =>
    exact ebb_listen hcur hk hdead (Link.isCalm_iff.2 ⟨hack, hpong, hping⟩)
      (Switchboard.nextOutgoing_eq_none hcur hnext) h

omit hcur in
/-- An agent whose server is gone does not have to wait. -/
theorem turn_of_dead (hs : a.stage = .serving link) (hdead : sb.IsDead link.socket) :
    ∃ t, a.turn sb = some t := by
  cases hturn : a.turn sb with
  | some t => exact ⟨t, rfl⟩
  | none =>
    rw [turn_of_serving hs] at hturn
    obtain ⟨-, -, -, -, -, hlisten⟩ := waits_of_serveTurn hturn
    unfold listen at hlisten
    rw [hdead.recv] at hlisten
    cases hunread : sb.unread link.socket with
    | nil =>
      rw [hunread] at hlisten
      cases hlisten
    | cons f rest =>
      rw [hunread] at hlisten
      cases hlisten

end Turns

end Agent

end LiveQuery
