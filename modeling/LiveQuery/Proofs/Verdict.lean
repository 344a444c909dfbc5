import LiveQuery.Proofs.Dealings
import LiveQuery.Proofs.Reading

/-!
# How a socket ends

A turn of an agent that was not told to stop ends its socket in one of two ways. It may be a loss,
of one of eight kinds (`Agent.Loss`), after which the agent asks the retry budget. Or it ruins the
session (`Agent.Ruin`): a fatal close, the deadline of the acknowledgment, or something that has no
place there. There are no other ways (`Agent.verdict_of_turn`).
-/

namespace LiveQuery

/-- Has a message of the server no place on a socket? -/
def Message.isMisplaced (acknowledged : Bool) : Message → Bool
  | .connectionInit _ | .subscribe .. => true
  | .next .. | .error .. | .complete _ => !acknowledged
  | .connectionAck _ | .ping _ | .pong _ => false

/-- Only a close frame holds one. -/
theorem Incoming.eq_close_of_ofFrame {frame : Frame} {content : CloseFrame}
    (h : Incoming.ofFrame frame = .ok (.closed content)) : frame = .close content := by
  have hmessage (decoded : Except DecodeError Message) :
      decoded.map Incoming.message ≠ .ok (.closed content) := by
    cases decoded with
    | error e => nofun
    | ok m => nofun
  cases frame with
  | text s => exact absurd h (hmessage _)
  | binary data => exact absurd h (hmessage _)
  | close frame =>
    cases h
    rfl

/-- Leaves a socket, with a close frame or without. -/
def Switchboard.part (sb : Switchboard) (k : Nat) : Option CloseFrame → Switchboard
  | none => sb.drop k
  | some frame => sb.close k frame.code frame.reason

namespace Agent

variable (a : Agent) (sb : Switchboard)

/-- The next turn of the agent loses a connection: with which error, whether the connection was
acknowledged, and what is shared once the socket is dropped. -/
inductive Loss : ConnectionError → Bool → Switchboard → Prop
  /-- No socket opened. -/
  | openFailed {number : Nat} {due : Option Nat} {e : TransportError} (ht : a.told = false)
      (hs : a.stage = .opening number due) (hdue : isDue sb.now due = true)
      (h : sb.finishOpen number = .error e) : Loss (.openFailed e) false sb
  /-- The opening message could not be sent. -/
  | initFailed {number k : Nat} {due : Option Nat} {e : TransportError} {sb₁ sb₂ : Switchboard}
      (ht : a.told = false) (hs : a.stage = .opening number due) (hdue : isDue sb.now due = true)
      (h : sb.finishOpen number = .ok (k, sb₁))
      (hsend : sb₁.send k (.message (.connectionInit a.params)) = (some e, sb₂)) :
      Loss (.initFailed (.transport e)) false (sb₂.drop k)
  /-- Nothing came in time after a ping. -/
  | pongTimeout {link : Link} (ht : a.told = false) (hs : a.stage = .serving link)
      (hack : isDue sb.now link.waitingFor = false)
      (hpong : isDue sb.now link.heartbeat.pongDue = true) :
      Loss .pongTimeout link.acknowledged (sb.drop link.socket)
  /-- A ping could not be sent. -/
  | pingFailed {link : Link} {e : TransportError} {sb₁ : Switchboard} (ht : a.told = false)
      (hs : a.stage = .serving link) (hack : isDue sb.now link.waitingFor = false)
      (hpong : isDue sb.now link.heartbeat.pongDue = false)
      (hping : isDue sb.now link.heartbeat.nextPing = true)
      (hsend : sb.send link.socket (.message (.ping sb.settings.pingPayload)) = (some e, sb₁)) :
      Loss (.sendFailed MessageKind.ping.name (.transport e)) link.acknowledged
        (sb₁.drop link.socket)
  /-- The socket ended with no close frame. -/
  | endOfStream {link : Link} {line : Line} (ht : a.told = false) (hs : a.stage = .serving link)
      (hcalm : link.isCalm sb.now = true) (hqueue : sb.nextOutgoing a.epoch = none)
      (hrecv : (sb.line link.socket).recv = (.ended, line)) :
      Loss .endOfStream link.acknowledged ((sb.setLine link.socket line).drop link.socket)
  /-- The socket failed to deliver. -/
  | receiveFailed {link : Link} {e : TransportError} {line : Line} (ht : a.told = false)
      (hs : a.stage = .serving link) (hcalm : link.isCalm sb.now = true)
      (hqueue : sb.nextOutgoing a.epoch = none)
      (hrecv : (sb.line link.socket).recv = (.ready (.error e), line)) :
      Loss (.receiveFailed e) link.acknowledged ((sb.setLine link.socket line).drop link.socket)
  /-- The server closed the socket, and not for good. -/
  | closed {link : Link} {frame : CloseFrame} {rest : List Frame}
      (h : a.Reads sb link (.close frame) rest) (hcode : frame.code.disposition ≠ .fatal) :
      Loss (.closed frame.code frame.reason) link.acknowledged
        ((sb.hear link.socket (.ok (.closed frame)) rest).drop link.socket)
  /-- A ping of the server could not be answered. -/
  | pongFailed {link : Link} {frame : Frame} {rest : List Frame} {payload : Option Json.Members}
      {e : TransportError} {sb₁ : Switchboard} (h : a.Reads sb link frame rest)
      (hitem : Incoming.ofFrame frame = .ok (.message (.ping payload)))
      (hsend : (sb.hear link.socket (.ok (.message (.ping payload))) rest).send link.socket
        (.message (.pong payload)) = (some e, sb₁)) :
      Loss (.sendFailed MessageKind.pong.name (.transport e)) link.acknowledged
        (sb₁.drop link.socket)

/-- The next turn of the agent ends the session whatever the retry budget: with which error, with
which close frame if any, on which socket, and what is shared before the socket is left. -/
inductive Ruin : ConnectionError → Option CloseFrame → Nat → Switchboard → Prop
  /-- The server closed the socket for good. -/
  | fatalClose {link : Link} {frame : CloseFrame} {rest : List Frame}
      (h : a.Reads sb link (.close frame) rest) (hcode : frame.code.disposition = .fatal) :
      Ruin (.closed frame.code frame.reason) none link.socket
        (sb.hear link.socket (.ok (.closed frame)) rest)
  /-- The acknowledgment did not come in time. -/
  | ackTimeout {link : Link} (ht : a.told = false) (hs : a.stage = .serving link)
      (hdue : isDue sb.now link.waitingFor = true) :
      Ruin .ackTimeout
        (some ⟨.connectionAckTimeout, "Connection acknowledgement timeout"⟩) link.socket sb
  /-- Something undecodable came that no subscription can take. -/
  | undecodable {link : Link} {frame : Frame} {rest : List Frame} {e : DecodeError}
      (h : a.Reads sb link frame rest) (hitem : Incoming.ofFrame frame = .error e)
      (hplace : link.acknowledged = false ∨ e.id? = none) :
      Ruin (.badResponse e) (some ⟨.badResponse, "Bad response"⟩) link.socket
        (sb.hear link.socket (.error e) rest)
  /-- A message came that has no place there. -/
  | misplaced {link : Link} {frame : Frame} {rest : List Frame} {m : Message}
      (h : a.Reads sb link frame rest) (hitem : Incoming.ofFrame frame = .ok (.message m))
      (hplace : m.isMisplaced link.acknowledged = true) :
      Ruin (.unexpectedMessage m.kind.name) (some ⟨.badResponse, "Bad response"⟩) link.socket
        (sb.hear link.socket (.ok (.message m)) rest)

/-! ## What the turn is -/

variable {a sb} {error : ConnectionError} {acknowledged : Bool} {sb' : Switchboard} {link : Link}

theorem Loss.told (h : a.Loss sb error acknowledged sb') : a.told = false := by
  cases h with
  | closed h | pongFailed h => exact h.told
  | _ => assumption

theorem Ruin.told {farewell : Option CloseFrame} {k : Nat} (h : a.Ruin sb error farewell k sb') :
    a.told = false := by
  cases h with
  | fatalClose h | undecodable h | misplaced h => exact h.told
  | ackTimeout ht => exact ht

/-- A message that has no place on the socket is rejected. -/
theorem receive_of_misplaced {m : Message} (h : m.isMisplaced link.acknowledged = true) :
    a.receive sb link m = a.reject sb link (.unexpectedMessage m.kind.name) := by
  have hroute {t : Turn} (h : (!link.acknowledged) = true) :
      (if link.acknowledged then t else a.reject sb link (.unexpectedMessage m.kind.name)) =
        a.reject sb link (.unexpectedMessage m.kind.name) := by
    refine if_neg ?_
    rwa [Bool.not_eq_true', ← Bool.not_eq_true] at h
  cases m with
  | connectionInit | subscribe => rfl
  | next | error | complete => exact hroute h
  | connectionAck | ping | pong => cases h

theorem receiveUndecodable_of_unplaced {e : DecodeError}
    (h : link.acknowledged = false ∨ e.id? = none) :
    a.receiveUndecodable sb link e = a.reject sb link (.badResponse e) := by
  unfold receiveUndecodable
  cases hid : e.id? with
  | none => rfl
  | some id =>
    have hack := h.resolve_right (by rw [hid]; nofun)
    dsimp only
    rw [hack]
    rfl

/-- After a loss the agent asks the retry budget. -/
theorem turn_of_loss (h : a.Loss sb error acknowledged sb') :
    a.turn sb = some (a.lose sb' error acknowledged) := by
  cases h with
  | openFailed ht hs hdue h =>
    rw [turn_of_opening ht hs, if_pos hdue]
    unfold opened
    rw [h]
  | initFailed ht hs hdue h hsend =>
    rw [turn_of_opening ht hs, if_pos hdue]
    unfold opened greet
    rw [h]
    dsimp only
    rw [hsend]
  | pongTimeout ht hs hack hpong =>
    rw [turn_of_serving hs]
    unfold serveTurn
    rw [ht, hack, hpong]
    rfl
  | pingFailed ht hs hack hpong hping hsend =>
    rw [turn_of_serving hs]
    unfold serveTurn ping
    rw [ht, hack, hpong, hping, hsend]
    rfl
  | endOfStream ht hs hcalm hqueue hrecv =>
    rw [turn_of_calm ht hs hcalm, hqueue]
    unfold listen
    rw [hrecv]
    rfl
  | receiveFailed ht hs hcalm hqueue hrecv =>
    rw [turn_of_calm ht hs hcalm, hqueue]
    unfold listen
    rw [hrecv]
    rfl
  | closed h hcode =>
    rw [turn_of_reads h]
    exact congrArg some (if_neg hcode)
  | pongFailed h hitem hsend =>
    rw [turn_of_reads h, hitem]
    unfold attend receive
    dsimp only
    have hsocket (link : Link) (now : Nat) : (link.heard now).socket = link.socket := rfl
    rw [hsocket, hsend]
    rfl

/-- What ruins the session makes the agent leave the socket and give up. -/
theorem turn_of_ruin {farewell : Option CloseFrame} {k : Nat} (h : a.Ruin sb error farewell k sb') :
    a.turn sb = some (a.giveUp (sb'.part k farewell) error) := by
  cases h with
  | fatalClose h hcode =>
    rw [turn_of_reads h]
    exact congrArg some (if_pos hcode)
  | ackTimeout ht hs hdue =>
    rw [turn_of_serving hs]
    unfold serveTurn
    rw [ht, hdue]
    rfl
  | undecodable h hitem hplace =>
    rename_i link frame rest e
    have hplaced : (link.heard sb.now).acknowledged = false ∨ e.id? = none := hplace
    rw [turn_of_reads h, hitem]
    exact congrArg some (receiveUndecodable_of_unplaced hplaced)
  | misplaced h hitem hplace =>
    rename_i link frame rest m
    have hplaced : m.isMisplaced (link.heard sb.now).acknowledged = true := hplace
    rw [turn_of_reads h, hitem]
    exact congrArg some (receive_of_misplaced hplaced)

/-! ## There is nothing else -/

/-- A turn goes on if the agent neither ends nor waits for another attempt. -/
def GoesOn (t : Turn) : Prop := ∃ a', t.1 = some a' ∧ ∀ due, a'.stage ≠ .backoff due

/-- A turn loses the connection, or ruins the session, or goes on. -/
inductive Verdict (a : Agent) (sb : Switchboard) (t : Turn) : Prop
  | loss {error : ConnectionError} {acknowledged : Bool} {sb' : Switchboard}
      (h : a.Loss sb error acknowledged sb') (ht : t = a.lose sb' error acknowledged)
  | ruin {error : ConnectionError} {farewell : Option CloseFrame} {k : Nat} {sb' : Switchboard}
      (h : a.Ruin sb error farewell k sb') (ht : t = a.giveUp (sb'.part k farewell) error)
  | goesOn (h : GoesOn t)

theorem Verdict.of_loss {t : Turn} (h : a.Loss sb error acknowledged sb')
    (ht : a.turn sb = some t) : a.Verdict sb t := by
  rw [turn_of_loss h] at ht
  exact .loss h (Option.some.inj ht).symm

theorem Verdict.of_ruin {t : Turn} {farewell : Option CloseFrame} {k : Nat}
    (h : a.Ruin sb error farewell k sb') (ht : a.turn sb = some t) : a.Verdict sb t := by
  rw [turn_of_ruin h] at ht
  exact .ruin h (Option.some.inj ht).symm

theorem goesOn_serve (sb : Switchboard) (link : Link) : GoesOn (a.serve sb link) :=
  ⟨_, rfl, nofun⟩

theorem verdict_of_message {frame : Frame} {rest : List Frame} {m : Message}
    (h : a.Reads sb link frame rest) (hitem : Incoming.ofFrame frame = .ok (.message m))
    (hcur : sb.isOutdated a.epoch = false) {t : Turn} (ht : a.turn sb = some t) :
    a.Verdict sb t := by
  have hattend := turn_of_reads h
  rw [ht, hitem] at hattend
  obtain rfl := Option.some.inj hattend
  have hin : (sb.hear link.socket (.ok (.message m)) rest).isOutdated a.epoch = false := hcur
  by_cases hplace : m.isMisplaced link.acknowledged = true
  · exact .of_ruin (.misplaced h hitem hplace) ht
  · have hroute {id : String} {item : Item} {t : Turn} (hack : (!link.acknowledged) ≠ true) :
        GoesOn (if link.acknowledged then
          a.serveUnlessOutdated (link.heard sb.now)
            ((sb.hear link.socket (.ok (.message m)) rest).route a.epoch id item) else t) := by
      rw [if_pos (by simpa using hack)]
      unfold Switchboard.route
      rw [hin]
      exact goesOn_serve _ _
    cases m with
    | connectionInit | subscribe => exact absurd rfl hplace
    | next | error | complete => exact .goesOn (hroute hplace)
    | pong payload => exact .goesOn (goesOn_serve _ _)
    | connectionAck payload =>
      refine .goesOn ?_
      unfold attend receive
      dsimp only
      split
      · exact goesOn_serve _ _
      · unfold Switchboard.acknowledge
        rw [hin]
        exact goesOn_serve _ _
    | ping payload =>
      cases hsend : (sb.hear link.socket (.ok (.message (.ping payload))) rest).send link.socket
          (.message (.pong payload)) with
      | mk failure sb₁ =>
        cases failure with
        | some e => exact .of_loss (.pongFailed h hitem hsend) ht
        | none =>
          refine .goesOn ?_
          have hsocket (now : Nat) : (link.heard now).socket = link.socket := rfl
          unfold attend receive
          dsimp only
          rw [hsocket, hsend]
          exact goesOn_serve _ _

theorem verdict_of_undecodable {frame : Frame} {rest : List Frame} {e : DecodeError}
    (h : a.Reads sb link frame rest) (hitem : Incoming.ofFrame frame = .error e)
    (hcur : sb.isOutdated a.epoch = false) {t : Turn} (ht : a.turn sb = some t) :
    a.Verdict sb t := by
  by_cases hplace : link.acknowledged = false ∨ e.id? = none
  · exact .of_ruin (.undecodable h hitem hplace) ht
  · have hattend := turn_of_reads h
    rw [ht, hitem] at hattend
    obtain rfl := Option.some.inj hattend
    have hin : (sb.hear link.socket (.error e) rest).isOutdated a.epoch = false := hcur
    rw [not_or, Bool.not_eq_false] at hplace
    obtain ⟨hack, hid⟩ := hplace
    obtain ⟨id, hid⟩ := Option.ne_none_iff_exists'.1 hid
    have hheard (now : Nat) : (link.heard now).acknowledged = true := hack
    refine .goesOn ?_
    unfold attend receiveUndecodable Switchboard.endOne
    dsimp only
    rw [hid]
    dsimp only
    rw [hheard, hin]
    exact goesOn_serve _ _

theorem verdict_of_reads {frame : Frame} {rest : List Frame} (h : a.Reads sb link frame rest)
    (hcur : sb.isOutdated a.epoch = false) {t : Turn} (ht : a.turn sb = some t) :
    a.Verdict sb t := by
  cases hitem : Incoming.ofFrame frame with
  | error e => exact verdict_of_undecodable h hitem hcur ht
  | ok incoming =>
    cases incoming with
    | message m => exact verdict_of_message h hitem hcur ht
    | closed content =>
      obtain rfl := Incoming.eq_close_of_ofFrame hitem
      by_cases hcode : content.code.disposition = .fatal
      · exact .of_ruin (.fatalClose h hcode) ht
      · exact .of_loss (.closed h hcode) ht

/-- A turn on an open socket. -/
theorem verdict_of_service (hat : a.told = false) (hs : a.stage = .serving link)
    (hcur : sb.isOutdated a.epoch = false) {t : Turn} (h : a.Service sb link t)
    (ht : a.turn sb = some t) : a.Verdict sb t := by
  cases h with
  | stops htold =>
    rw [hat] at htold
    cases htold
  | givesUp htold hack => exact .of_ruin (.ackTimeout hat hs hack) ht
  | misses htold hack hpong => exact .of_loss (.pongTimeout hat hs hack hpong) ht
  | pings htold hack hpong hping =>
    cases hsend : sb.send link.socket (.message (.ping sb.settings.pingPayload)) with
    | mk failure sb₁ =>
      cases failure with
      | some e => exact .of_loss (.pingFailed hat hs hack hpong hping hsend) ht
      | none =>
        refine .goesOn ?_
        unfold ping
        rw [hsend]
        exact goesOn_serve _ _
  | sends htold hack hpong hping hout hnext =>
    refine .goesOn ?_
    unfold sendNext
    split
    · exact goesOn_serve _ _
    · split <;> exact goesOn_serve _ _
  | listens htold hack hpong hping hqueue h =>
    have hcalm : link.isCalm sb.now = true := Link.isCalm_iff.2 ⟨hack, hpong, hping⟩
    cases hrecv : (sb.line link.socket).recv with
    | mk polled line =>
      cases polled with
      | pending =>
        unfold listen at h
        rw [hrecv] at h
        cases h
      | ended => exact .of_loss (.endOfStream hat hs hcalm hqueue hrecv) ht
      | ready item =>
        cases item with
        | error e => exact .of_loss (.receiveFailed hat hs hcalm hqueue hrecv) ht
        | ok frame =>
          obtain ⟨hfaults, rest, hunread⟩ := Line.frame_of_recv hrecv
          exact verdict_of_reads ⟨hat, hs, hcalm, hqueue, hfaults, hunread⟩ hcur ht

/-- A turn of an agent of the session as it is loses the connection, or ruins the session, or goes
on. -/
theorem verdict_of_turn (hat : a.told = false) (hcur : sb.isOutdated a.epoch = false) {t : Turn}
    (ht : a.turn sb = some t) : a.Verdict sb t := by
  cases conduct_of_turn ht with
  | leaves htold =>
    rw [hat] at htold
    cases htold
  | asks hs =>
    refine .goesOn ?_
    unfold openSocket
    rw [hat, hcur]
    exact ⟨_, rfl, nofun⟩
  | wakes htold hs hdue => exact .goesOn ⟨_, rfl, nofun⟩
  | serves hs h => exact verdict_of_service hat hs hcur h ht
  | learns htold hs hdue =>
    rename_i number due
    cases hopen : sb.finishOpen number with
    | error e => exact .of_loss (.openFailed hat hs hdue hopen) ht
    | ok result =>
      obtain ⟨k, sb₁⟩ := result
      cases hsend : sb₁.send k (.message (.connectionInit a.params)) with
      | mk failure sb₂ =>
        cases failure with
        | some e => exact .of_loss (.initFailed hat hs hdue hopen hsend) ht
        | none =>
          refine .goesOn ?_
          unfold opened greet
          rw [hopen]
          dsimp only
          rw [hsend]
          exact goesOn_serve _ _

end Agent

end LiveQuery
