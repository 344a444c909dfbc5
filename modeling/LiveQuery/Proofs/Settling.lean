import LiveQuery.Proofs.Reading
import Mathlib.Algebra.GroupWithZero.Nat

/-!
# Settling

A client has only so much to do before time passes. Every turn of any agent lowers the potential
of the client (`Client.potential_perform_lt`): an agent moves on towards its next wait, a message
leaves the outgoing queue, or a frame is read and pays for what is queued because of it. So turns
alone come to an end, and a client that settles is settled (`Client.isSettled_settle`). Letting
time pass is a run in which it passes only when nothing is left to do before
(`Client.advance_eq_run`).

The parts of the client have to fit together: an agent counts for more than one turn only if it is
the one of the session as it is. They fit after every run (`Client.coherent_run`).
-/

namespace LiveQuery

/-- The number of messages in the outgoing queue. -/
def Switchboard.backlog (sb : Switchboard) : Nat := (sb.session.outgoing.getD []).length

/-- What a turn leaves to do to its agent, with the messages of the outgoing queue. -/
def Turn.toil (t : Turn) : Nat := (t.1.elim 0 fun a => a.potential t.2) + t.2.backlog

/-- What an agent has left to do on a socket, after some attempts. -/
def Link.toil (link : Link) (sb : Switchboard) (attempt : Nat) : Nat :=
  let unread := (sb.unread link.socket).length
  let ping := if isDue sb.now link.heartbeat.nextPing then 1 else 0
  if link.acknowledged then 4 * sb.settings.maxReconnects + 3 * unread + ping + 1
  else if unread = 0 then 4 * (sb.settings.maxReconnects - attempt) + ping + 1
  else 4 * sb.settings.maxReconnects + sb.session.pending.length + 3 * unread + ping + 2

/-- What is left to do on a socket besides reading and connecting again. -/
def Link.reserve (link : Link) (sb : Switchboard) : Nat :=
  if link.acknowledged then 1 else sb.session.pending.length + 2

theorem Switchboard.backlog_congr {sb sb' : Switchboard} (h : sb'.session = sb.session) :
    sb'.backlog = sb.backlog := by
  unfold backlog
  rw [h]

theorem Switchboard.backlog_of_none {sb : Switchboard} (h : sb.session.outgoing = none) :
    sb.backlog = 0 := by
  unfold backlog
  rw [h]
  rfl

theorem Switchboard.backlog_of_cons {sb : Switchboard} {m : Message} {rest : List Message}
    (h : sb.session.outgoing = some (m :: rest)) : sb.backlog = rest.length + 1 := by
  unfold backlog
  rw [h]
  rfl

@[simp]
theorem Turn.toil_none (sb : Switchboard) : Turn.toil (none, sb) = sb.backlog := Nat.zero_add _

@[simp]
theorem Turn.toil_some (a : Agent) (sb : Switchboard) :
    Turn.toil (some a, sb) = a.potential sb + sb.backlog := rfl

namespace Link

variable {link link' : Link} {sb sb' : Switchboard}

theorem reserve_congr (link : Link) (h : sb'.session = sb.session) :
    link.reserve sb' = link.reserve sb := by
  unfold reserve
  rw [h]

theorem toil_congr (link : Link) (attempt : Nat) (hsettings : sb'.settings = sb.settings)
    (hnow : sb'.now = sb.now) (hpending : sb'.session.pending = sb.session.pending)
    (hunread : sb'.unread link.socket = sb.unread link.socket) :
    link.toil sb' attempt = link.toil sb attempt := by
  unfold toil
  rw [hsettings, hnow, hpending, hunread]

/-- With no ping due three is enough for a frame. -/
theorem toil_le (attempt : Nat) (hping : isDue sb.now link.heartbeat.nextPing = false) :
    link.toil sb attempt ≤
      4 * sb.settings.maxReconnects + 3 * (sb.unread link.socket).length + link.reserve sb := by
  unfold toil reserve
  rw [hping]
  simp only [Bool.false_eq_true, if_false]
  split
  · omega
  · split <;> omega

/-- A frame that is to be read counts for no less. -/
theorem le_toil (attempt : Nat) (hunread : sb.unread link.socket ≠ []) :
    4 * sb.settings.maxReconnects + 3 * (sb.unread link.socket).length + link.reserve sb ≤
      link.toil sb attempt := by
  have hlength : (sb.unread link.socket).length ≠ 0 := mt List.length_eq_zero_iff.1 hunread
  unfold toil reserve
  simp only [hlength, if_false]
  split <;> omega

/-- A ping that is due counts until it is sent. -/
theorem toil_pinged_lt (attempt : Nat) (hping : isDue sb.now link.heartbeat.nextPing = true) :
    Link.toil { link with heartbeat := link.heartbeat.pinged sb.now } sb attempt <
      link.toil sb attempt := by
  unfold toil Heartbeat.pinged
  simp only [hping, Heartbeat.isDue_pingAfter, Bool.false_eq_true, if_false, if_true]
  split
  · omega
  · split <;> omega

/-- The attempts that may follow a loss count, each for four turns. -/
theorem loss_lt_toil (link : Link) (sb : Switchboard) (attempt : Nat) :
    4 * (sb.settings.maxReconnects - if link.acknowledged then 0 else attempt) <
      link.toil sb attempt := by
  unfold toil
  dsimp only
  split
  · omega
  · split <;> omega

end Link

namespace Session

/-- A queue grows by what is appended, if there is one. -/
theorem length_map_append_le (queue : Option (List Message)) (more : List Message) :
    ((queue.map (· ++ more)).getD []).length ≤ (queue.getD []).length + more.length := by
  cases queue with
  | none => exact Nat.zero_le _
  | some ms => exact List.length_append.le

theorem length_route_le (s : Session) (listening : Nat → Bool) (id : String) (item : Item) :
    ((s.route listening id item).1.outgoing.getD []).length ≤ (s.outgoing.getD []).length + 1 := by
  rw [route_outgoing]
  split
  · exact length_map_append_le s.outgoing [.complete id]
  · exact Nat.le_succ _

theorem length_endOne_le (s : Session) (id : String) (error : SubscribeError) (notify : Bool) :
    ((s.endOne id error notify).1.outgoing.getD []).length ≤ (s.outgoing.getD []).length + 1 := by
  rw [endOne_outgoing]
  refine (length_map_append_le _ _).trans (Nat.add_le_add_left ?_ _)
  split
  · exact le_refl _
  · exact Nat.zero_le _

/-- Only what was pending is queued for an acknowledgment. -/
theorem length_acknowledge_le (s : Session) (listening : Nat → Bool)
    (payload : Option Json.Members) :
    ((s.acknowledge listening payload).1.outgoing.getD []).length ≤ s.pending.length := by
  have hwaiting : (s.prune listening).waitingMessages.length ≤ (s.prune listening).pending.length :=
    List.length_filterMap_le ..
  rw [prune_pending] at hwaiting
  rw [acknowledge_outgoing]
  exact hwaiting.trans (List.length_filter_le ..)

end Session

namespace Agent

variable {a : Agent} {sb sb' : Switchboard} {link link' : Link}

/-! ## What the potential is -/

theorem potential_of_told (ht : a.told = true) : a.potential sb = 1 := by
  simp [potential, ht]

/-- The potential looks at the settings, the clock, the session and the agent's own socket. -/
theorem potential_congr (hsettings : sb'.settings = sb.settings) (hnow : sb'.now = sb.now)
    (hsession : sb'.session = sb.session)
    (hline : ∀ k, a.socket? = some k → sb'.line k = sb.line k) :
    a.potential sb' = a.potential sb := by
  unfold potential
  rw [hsettings, hnow, hsession]
  cases hs : a.stage with
  | serving link => simp only [hline _ (socket?_of_serving hs)]
  | _ => rfl

section Untold

variable (ht : a.told = false)

include ht

theorem potential_of_backoff {due : Nat} (hs : a.stage = .backoff due) :
    a.potential sb = 4 * (sb.settings.maxReconnects - a.attempt) + 4 := by
  simp [potential, ht, hs]

theorem potential_of_ready (hs : a.stage = .ready) :
    a.potential sb = 4 * (sb.settings.maxReconnects - a.attempt) + 3 := by
  simp [potential, ht, hs]

theorem potential_of_opening {number : Nat} {due : Option Nat}
    (hs : a.stage = .opening number due) :
    a.potential sb = 4 * (sb.settings.maxReconnects - a.attempt) + 2 := by
  simp [potential, ht, hs]

theorem potential_of_serving (hs : a.stage = .serving link) :
    a.potential sb = link.toil sb a.attempt := by
  unfold potential
  rw [ht, hs]
  rfl

end Untold

theorem toil_serve (ht : a.told = false) (sb : Switchboard) (link : Link) :
    (a.serve sb link).toil = link.toil sb a.attempt + sb.backlog :=
  congrArg (· + sb.backlog)
    (@potential_of_serving { a with stage := .serving link } sb link ht rfl)

/-! ## Turns that end the socket -/

theorem toil_giveUp (hcur : sb.isOutdated a.epoch = false) (error : ConnectionError) :
    (a.giveUp sb error).toil = 0 := by
  rw [giveUp_eq hcur, Turn.toil_none, Switchboard.backlog_of_none]
  rw [Switchboard.commit_session, Session.terminate_outgoing]

/-- A loss uses up an attempt, and nothing stays queued. -/
theorem toil_lose_le (ht : a.told = false) (hcur : sb.isOutdated a.epoch = false)
    (error : ConnectionError) (acknowledged : Bool) :
    (a.lose sb error acknowledged).toil ≤
      4 * (sb.settings.maxReconnects - if acknowledged then 0 else a.attempt) := by
  generalize hattempt : (if acknowledged then 0 else a.attempt) = attempt
  rcases Nat.lt_or_ge attempt sb.settings.maxReconnects with hbudget | hbudget
  · obtain ⟨due, retries, hlose⟩ := lose_of_budget hcur error hattempt.symm hbudget
    have hqueue : (sb.withSession (sb.session.suspend sb.listening)).session.outgoing = none := by
      rw [Switchboard.withSession_session, Session.suspend_outgoing]
    have hsettings : (sb.withSession (sb.session.suspend sb.listening)).settings = sb.settings :=
      Switchboard.withSession_settings ..
    have hbackoff := @potential_of_backoff
      { a with attempt := attempt + 1, stage := .backoff due }
      ({ sb.withSession (sb.session.suspend sb.listening) with retries }.note (.retrying attempt))
      ht due rfl
    rw [Switchboard.note_settings, hsettings] at hbackoff
    rw [hlose, Turn.toil_some, hbackoff, Switchboard.backlog_of_none
      ((Switchboard.note_session ..).symm ▸ hqueue)]
    dsimp only
    omega
  · rw [← hattempt] at hbudget
    rw [lose_of_exhausted hcur error hbudget, ← giveUp_eq hcur, toil_giveUp hcur]
    exact Nat.zero_le _

section Serving

variable (ht : a.told = false) (hs : a.stage = .serving link)
  (hcur : sb.isOutdated a.epoch = false) {news : List Notice}
  (h : sb.Traffic link.socket news sb')

include ht hs hcur h

theorem toil_giveUp_lt (error : ConnectionError) :
    (a.giveUp sb' error).toil < a.potential sb := by
  rw [toil_giveUp (by rw [h.isOutdated, hcur]), potential_of_serving ht hs]
  exact Nat.zero_lt_of_lt (link.loss_lt_toil sb a.attempt)

theorem toil_loseLink_lt (hsocket : link'.socket = link.socket)
    (hack : link'.acknowledged = link.acknowledged) (error : ConnectionError) :
    (a.loseLink sb' link' error).toil < a.potential sb := by
  obtain ⟨seen, hdrop⟩ := sb'.traffic_drop link.socket h.bound
  have hall := h.trans hdrop
  have hle := toil_lose_le ht (by rw [hall.isOutdated, hcur]) error link.acknowledged
  rw [hall.settings] at hle
  unfold loseLink
  rw [hsocket, hack, potential_of_serving ht hs]
  exact hle.trans_lt (link.loss_lt_toil sb a.attempt)

theorem toil_reject_lt (hsocket : link'.socket = link.socket) (error : ConnectionError) :
    (a.reject sb' link' error).toil < a.potential sb := by
  obtain ⟨news', hclose⟩ := sb'.traffic_close link.socket h.bound .badResponse "Bad response"
  unfold reject
  rw [hsocket]
  exact toil_giveUp_lt ht hs hcur (h.trans hclose) error

end Serving

/-! ## Turns that read a frame -/

section Reading

variable {frame : Frame} {rest : List Frame} (h : a.Reads sb link frame rest)

include h

/-- A frame pays for its turn and for two messages of the outgoing queue. -/
theorem toil_serve_lt (hsocket : link'.socket = link.socket)
    (hunread : sb'.unread link.socket = rest) (hsettings : sb'.settings = sb.settings)
    (hping : isDue sb'.now link'.heartbeat.nextPing = false)
    (hreserve : link'.reserve sb' + sb'.backlog ≤ link.reserve sb + 2) :
    (a.serve sb' link').toil < a.potential sb := by
  have hbefore := Link.le_toil a.attempt (h.unread ▸ List.cons_ne_nil frame rest)
  have hafter := Link.toil_le a.attempt hping
  rw [h.unread, List.length_cons] at hbefore
  rw [hsocket, hunread, hsettings] at hafter
  rw [toil_serve h.told, potential_of_serving h.told h.stage]
  omega

/-- Nothing waits to be sent. -/
theorem outgoing_of_reads (hcur : sb.isOutdated a.epoch = false) :
    sb.session.outgoing.getD [] = [] := Switchboard.nextOutgoing_eq_none hcur h.queue

variable {news : List Notice} (hx : sb.Traffic link.socket news sb')
  (hunread : sb'.unread link.socket = rest)

include hx hunread

/-- What was read changes the session, which is acknowledged then. -/
theorem toil_commit_lt (result : Session × List Effect)
    (hqueue : (result.1.outgoing.getD []).length ≤ link.reserve sb + 1) :
    (a.serve (sb'.commit result) { link.heard sb.now with acknowledged := true }).toil <
      a.potential sb := by
  refine toil_serve_lt h rfl ?_ ((Switchboard.commit_settings ..).trans hx.settings) ?_ ?_
  · unfold Switchboard.unread Switchboard.line
    rw [Switchboard.commit_lines]
    exact hunread
  · rw [Switchboard.commit_now, hx.now]
    exact Heartbeat.isDue_pingAfter ..
  · unfold Link.reserve Switchboard.backlog at *
    rw [Switchboard.commit_session]
    simp only [if_true]
    omega

variable (hcur : sb.isOutdated a.epoch = false)

include hcur

/-- What was read concerns no subscription. -/
theorem toil_idle_lt : (a.serve sb' (link.heard sb.now)).toil < a.potential sb := by
  have hreserve : (link.heard sb.now).reserve sb' = link.reserve sb :=
    (link.heard sb.now).reserve_congr hx.session
  refine toil_serve_lt h rfl hunread hx.settings ?_ ?_
  · rw [hx.now]
    exact Heartbeat.isDue_pingAfter ..
  · unfold Switchboard.backlog
    rw [hreserve, hx.session, outgoing_of_reads h hcur]
    exact Nat.le_add_right ..

/-- What was read makes the session, which is acknowledged, queue one message at most. -/
theorem toil_react_lt {result : Session × List Effect}
    (hqueue : (result.1.outgoing.getD []).length ≤ (sb'.session.outgoing.getD []).length + 1)
    (hack : link.acknowledged = true) :
    (a.serve (sb'.commit result) (link.heard sb.now)).toil < a.potential sb := by
  have hheard : link.heard sb.now = { link.heard sb.now with acknowledged := true } := by
    rw [← hack]
    rfl
  rw [hx.session, outgoing_of_reads h hcur] at hqueue
  rw [hheard]
  exact toil_commit_lt h hx hunread result (hqueue.trans (Nat.le_add_left ..))

theorem toil_route_lt {id : String} {item : Item} {error : ConnectionError} :
    (if (link.heard sb.now).acknowledged then
      a.serveUnlessOutdated (link.heard sb.now) (sb'.route a.epoch id item)
    else a.reject sb' (link.heard sb.now) error).toil < a.potential sb := by
  have hin : sb'.isOutdated a.epoch = false := by rw [hx.isOutdated, hcur]
  split
  · next hack =>
    simp only [Switchboard.route, hin, Bool.false_eq_true, if_false, serveUnlessOutdated]
    exact toil_react_lt h hx hunread hcur (Session.length_route_le ..) hack
  · exact toil_reject_lt h.told h.stage hcur hx rfl error

theorem toil_receive_lt (m : Message) :
    (a.receive sb' (link.heard sb.now) m).toil < a.potential sb := by
  have hin : sb'.isOutdated a.epoch = false := by rw [hx.isOutdated, hcur]
  have hidle := toil_idle_lt h hx hunread hcur
  have hsocket : (link.heard sb.now).socket = link.socket := rfl
  have hreject := toil_reject_lt h.told h.stage hcur hx hsocket
  cases m with
  | connectionInit payload => exact hreject _
  | subscribe id operation => exact hreject _
  | pong payload => exact hidle
  | connectionAck payload =>
    unfold receive
    dsimp only
    split
    · exact hidle
    · next hacked =>
      simp only [Switchboard.acknowledge, hin, Bool.false_eq_true, if_false, serveUnlessOutdated]
      -- what the acknowledgment queues was pending, and the socket had it in reserve
      refine toil_commit_lt h hx hunread _ ?_
      have hreserve : link.reserve sb = sb.session.pending.length + 2 := if_neg hacked
      have hqueue := sb'.session.length_acknowledge_le sb'.listening payload
      rw [hx.session] at hqueue ⊢
      omega
  | ping payload =>
    obtain ⟨arrived, hsend⟩ := sb'.exchange_send link.socket hx.bound (.message (.pong payload))
    have hkept := Switchboard.send_unread hx.bound (.message (.pong payload))
    unfold receive
    dsimp only
    rw [hsocket]
    split
    · next e sb₂ heq =>
      rw [heq] at hsend
      exact toil_loseLink_lt h.told h.stage hcur (hx.trans hsend.toTraffic) rfl rfl _
    · next sb₂ heq =>
      rw [heq] at hsend hkept
      exact toil_idle_lt h (hx.trans hsend.toTraffic) (hkept.trans hunread) hcur
  | next id result => exact toil_route_lt h hx hunread hcur
  | error id errors => exact toil_route_lt h hx hunread hcur
  | complete id => exact toil_route_lt h hx hunread hcur

theorem toil_receiveUndecodable_lt (e : DecodeError) :
    (a.receiveUndecodable sb' (link.heard sb.now) e).toil < a.potential sb := by
  have hin : sb'.isOutdated a.epoch = false := by rw [hx.isOutdated, hcur]
  have hsocket : (link.heard sb.now).socket = link.socket := rfl
  have hreject := toil_reject_lt h.told h.stage hcur hx hsocket
  unfold receiveUndecodable
  split
  · split
    · next hack =>
      simp only [Switchboard.endOne, hin, Bool.false_eq_true, if_false, serveUnlessOutdated]
      exact toil_react_lt h hx hunread hcur (Session.length_endOne_le ..) hack
    · exact hreject _
  · exact hreject _

omit hunread in
theorem toil_receiveClose_lt (frame : CloseFrame) :
    (a.receiveClose sb' link frame).toil < a.potential sb := by
  unfold receiveClose
  dsimp only
  split
  · obtain ⟨seen, hdrop⟩ := sb'.traffic_drop link.socket hx.bound
    exact toil_giveUp_lt h.told h.stage hcur (hx.trans hdrop) _
  · exact toil_loseLink_lt h.told h.stage hcur hx rfl rfl _

end Reading

/-- Reading a frame lowers what is to be done. -/
theorem toil_attend_lt {frame : Frame} {rest : List Frame} (h : a.Reads sb link frame rest)
    (hcur : sb.isOutdated a.epoch = false) (hk : link.socket < sb.lines.length)
    (item : Except DecodeError Incoming) :
    (a.attend (sb.hear link.socket item rest) link item).toil < a.potential sb := by
  have hx := sb.traffic_hear link.socket hk item rest
  have hunread := sb.hear_unread link.socket hk item rest
  rcases item with e | incoming
  · exact toil_receiveUndecodable_lt h hx hunread hcur e
  · cases incoming with
    | closed frame => exact toil_receiveClose_lt h hx hcur frame
    | message m => exact toil_receive_lt h hx hunread hcur m

/-! ## The other turns -/

section Turns

variable (ht : a.told = false) (hcur : sb.isOutdated a.epoch = false)

include ht hcur

/-- A socket that opens has nothing to read yet; one that does not open is lost. -/
theorem toil_opened_lt {number : Nat} {due : Option Nat} (hs : a.stage = .opening number due) :
    (a.opened sb number).toil < a.potential sb + sb.backlog := by
  have hbefore : a.potential sb = 4 * (sb.settings.maxReconnects - a.attempt) + 2 :=
    potential_of_opening ht hs
  -- a failed attempt
  have hlost {sb' : Switchboard} (hsession : sb'.session = sb.session)
      (hsettings : sb'.settings = sb.settings) (error : ConnectionError) :
      (a.lose sb' error false).toil < a.potential sb + sb.backlog := by
    have hin : sb'.isOutdated a.epoch = false := by
      unfold Switchboard.isOutdated at hcur ⊢
      rwa [hsession]
    have hle := toil_lose_le ht hin error false
    rw [hsettings, if_neg Bool.false_ne_true] at hle
    omega
  unfold opened
  cases hopen : sb.finishOpen number with
  | error e => exact hlost rfl rfl _
  | ok result =>
    obtain ⟨k, sb₁⟩ := result
    have hempty : sb₁.unread k = [] := by
      unfold Switchboard.unread
      rw [Switchboard.pair_finishOpen hopen]
    obtain ⟨rfl, hopened, -⟩ := Switchboard.exchange_finishOpen hopen
    obtain ⟨arrived, hsend⟩ := sb₁.exchange_send sb.lines.length hopened.bound
      (.message (.connectionInit a.params))
    have hkept := Switchboard.send_unread hopened.bound (.message (.connectionInit a.params))
    have hall := hopened.trans hsend
    dsimp only
    unfold greet
    split
    · next e sb₂ heq =>
      rw [heq] at hall
      obtain ⟨seen, hdrop⟩ := sb₂.traffic_drop sb.lines.length hall.bound
      exact hlost (hall.toTraffic.trans hdrop).session (hall.toTraffic.trans hdrop).settings _
    · next sb₂ heq =>
      rw [heq] at hall hkept
      rw [toil_serve ht, Switchboard.backlog_congr hall.session, hbefore]
      refine Nat.add_lt_add_right ?_ _
      unfold Link.toil
      dsimp only at hkept ⊢
      rw [hkept, hempty, if_neg Bool.false_ne_true, if_pos List.length_nil, hall.settings,
        Heartbeat.start, Heartbeat.isDue_pingAfter, if_neg Bool.false_ne_true]
      exact Nat.lt_succ_self _

variable (hs : a.stage = .serving link) (hk : link.socket < sb.lines.length)

include hs hk

theorem toil_ping_lt (hping : isDue sb.now link.heartbeat.nextPing = true) :
    (a.ping sb link).toil < a.potential sb + sb.backlog := by
  obtain ⟨arrived, hsend⟩ := sb.exchange_send link.socket hk
    (.message (.ping sb.settings.pingPayload))
  have hkept := Switchboard.send_unread hk (.message (.ping sb.settings.pingPayload))
  unfold ping
  split
  · next e sb₂ heq =>
    rw [heq] at hsend
    exact Nat.lt_add_right _ (toil_loseLink_lt ht hs hcur hsend.toTraffic rfl rfl _)
  · next sb₂ heq =>
    rw [heq] at hsend hkept
    have hnow : sb₂.now = sb.now := hsend.now
    have hsame := Link.toil_congr { link with heartbeat := link.heartbeat.pinged sb.now } a.attempt
      hsend.settings hsend.now (congrArg Session.pending hsend.session) hkept
    dsimp only at hsame
    rw [toil_serve ht, Switchboard.backlog_congr hsend.session, potential_of_serving ht hs, hnow,
      hsame]
    exact Nat.add_lt_add_right (Link.toil_pinged_lt a.attempt hping) _

/-- A message leaves the outgoing queue. -/
theorem toil_sendNext_lt {m : Message} {rest : List Message}
    (hout : sb.session.outgoing = some (m :: rest)) :
    (a.sendNext { sb with session := { sb.session with outgoing := some rest } } link m).toil <
      a.potential sb + sb.backlog := by
  obtain ⟨arrived, hsend⟩ := Switchboard.exchange_send
    { sb with session := { sb.session with outgoing := some rest } } link.socket hk (.message m)
  have hkept := @Switchboard.send_unread
    { sb with session := { sb.session with outgoing := some rest } } link.socket hk (.message m)
  have hbacklog : sb.backlog = rest.length + 1 := Switchboard.backlog_of_cons hout
  have hin : ({ sb with session := { sb.session with outgoing := some rest } } :
      Switchboard).isOutdated a.epoch = false := hcur
  rw [sendNext_eq hin, hbacklog, potential_of_serving ht hs]
  split
  · next sb₂ heq =>
    rw [heq] at hsend hkept
    have hqueue : sb₂.backlog = rest.length := by
      unfold Switchboard.backlog
      rw [hsend.session]
      rfl
    rw [toil_serve ht, hqueue, link.toil_congr a.attempt hsend.settings hsend.now
      (congrArg Session.pending hsend.session) hkept]
    exact Nat.lt_succ_self _
  · next e sb₂ heq =>
    rw [heq] at hsend hkept
    have hqueue : (sb₂.abandon m e).backlog = rest.length := by
      unfold Switchboard.backlog
      rw [Switchboard.abandon_outgoing, hsend.session]
      rfl
    rw [toil_serve ht, hqueue, link.toil_congr a.attempt
      ((Switchboard.abandon_settings ..).trans hsend.settings)
      ((Switchboard.abandon_now ..).trans hsend.now)
      ((Switchboard.abandon_pending ..).trans (congrArg Session.pending hsend.session))
      ((Switchboard.abandon_unread ..).trans hkept)]
    exact Nat.lt_succ_self _

end Turns

theorem Service.toil_lt (ht : a.told = false) (hs : a.stage = .serving link)
    (hcur : sb.isOutdated a.epoch = false) (hk : link.socket < sb.lines.length) {t : Turn}
    (h : a.Service sb link t) : t.toil < a.potential sb + sb.backlog := by
  cases h with
  | stops htold =>
    rw [ht] at htold
    cases htold
  | givesUp _ hack =>
    obtain ⟨news, hclose⟩ := sb.traffic_close link.socket hk .connectionAckTimeout
      "Connection acknowledgement timeout"
    exact Nat.lt_add_right _ (toil_giveUp_lt ht hs hcur hclose _)
  | misses _ hack hpong =>
    exact Nat.lt_add_right _ (toil_loseLink_lt ht hs hcur (.refl hk) rfl rfl _)
  | pings _ hack hpong hping => exact toil_ping_lt ht hcur hs hk hping
  | sends _ hack hpong hping hout => exact toil_sendNext_lt ht hcur hs hk hout
  | listens _ hack hpong hping hnext h =>
    have hcalm : link.isCalm sb.now = true := Link.isCalm_iff.2 ⟨hack, hpong, hping⟩
    rcases listen_cases ht hs hcalm hnext h with ⟨line, error, rfl⟩ | ⟨frame, rest, hreads⟩
    · exact Nat.lt_add_right _
        (toil_loseLink_lt ht hs hcur (sb.traffic_setLine link.socket hk line) rfl rfl error)
    · have hturn := turn_of_calm ht hs hcalm
      rw [hnext, h, turn_of_reads hreads] at hturn
      rw [← Option.some.inj hturn]
      exact Nat.lt_add_right _ (toil_attend_lt hreads hcur hk _)

/-- Every turn of an agent that fits lowers what is to be done. -/
theorem Fits.toil_lt (h : a.Fits sb) {t : Turn} (hturn : a.turn sb = some t) :
    t.toil < a.potential sb + sb.backlog := by
  cases ht : a.told with
  | true =>
    -- it leaves, whatever it was about
    obtain ⟨hnone, hsame⟩ := (h.move hturn).of_told ht
    have hsession : t.2.session = sb.session := by
      rcases hsame with heq | ⟨link, news, -, htraffic⟩
      · rw [heq]
      · exact htraffic.session
    obtain ⟨o, sb'⟩ := t
    obtain rfl : o = none := hnone
    rw [Turn.toil_none, Switchboard.backlog_congr hsession, potential_of_told ht]
    exact Nat.lt_one_add_iff.2 (le_refl _)
  | false =>
    have hcur := h.isOutdated ht
    cases conduct_of_turn hturn with
    | asks hs =>
      have hstays : (sb.isOutdated a.epoch || a.told) = false := by
        rw [hcur, ht]
        rfl
      rw [openSocket, hstays, if_neg Bool.false_ne_true, Turn.toil_some, potential_of_ready ht hs]
      refine Nat.add_lt_add_right ?_ _
      have hopening := @potential_of_opening
        { a with stage := .opening sb.callOpen.1.1 sb.callOpen.1.2 } sb.callOpen.2 ht _ _ rfl
      exact hopening.trans_lt (Nat.lt_succ_self _)
    | leaves htold hs =>
      rw [ht] at htold
      cases htold
    | learns _ hs hdue => exact toil_opened_lt ht hcur hs
    | wakes _ hs hdue =>
      rw [Turn.toil_some, potential_of_backoff ht hs]
      refine Nat.add_lt_add_right ?_ _
      exact (@potential_of_ready { a with stage := .ready } sb ht rfl).trans_lt
        (Nat.lt_succ_self _)
    | serves hs hservice => exact hservice.toil_lt ht hs hcur (h.bound _ hs)

end Agent

namespace Client

variable {c c' : Client}

/-! ## Turns alone come to an end -/

theorem potential_eq (c : Client) : c.potential =
    (c.agents.map fun a => a.potential c.board).sum + c.board.backlog := by
  unfold potential
  induction c.agents with
  | nil => exact (Nat.zero_add _).symm
  | cons a rest ih =>
    rw [List.foldr_cons, ih, List.map_cons, List.sum_cons, Nat.add_assoc]

/-- A turn of an agent is nothing to the others. -/
theorem Coherent.potential_of_other (h : c.Coherent) {pre post : List Agent} {a b : Agent}
    (hagents : c.agents = pre ++ a :: post) (hb : b ∈ pre ++ post) {t : Turn}
    (hturn : a.turn c.board = some t) : b.potential t.2 = b.potential c.board := by
  have hfits := h.agents a (mem_of_split hagents)
  cases ht : a.told with
  | false =>
    -- the others were told to stop
    have hbt := h.told_of_other hagents ht hb
    rw [Agent.potential_of_told hbt, Agent.potential_of_told hbt]
  | true =>
    obtain ⟨-, heq | ⟨link, news, hs, htraffic⟩⟩ := (hfits.move hturn).of_told ht
    · rw [heq]
    · refine Agent.potential_congr htraffic.settings htraffic.now htraffic.session fun k hk => ?_
      refine htraffic.elsewhere k ?_
      rintro rfl
      exact h.socket_ne hagents hb hk (Agent.socket?_of_serving hs)

theorem Coherent.potential_lt_of_turn (h : c.Coherent) {pre post : List Agent} {a : Agent}
    (hagents : c.agents = pre ++ a :: post) {t : Turn} (hturn : a.turn c.board = some t) :
    ({ c with agents := pre ++ (t.1.toList ++ post), board := t.2 } : Client).potential <
      c.potential := by
  have hlt := (h.agents a (mem_of_split hagents)).toil_lt hturn
  -- the other agents have as much left to do as before
  have hsame {agents : List Agent} (hsub : agents ⊆ pre ++ post) :
      agents.map (fun b => b.potential t.2) = agents.map fun b => b.potential c.board :=
    List.map_congr_left fun b hb => h.potential_of_other hagents (hsub hb) hturn
  rw [potential_eq, potential_eq, hagents]
  simp only [List.map_append, List.map_cons, List.sum_append, List.sum_cons]
  rw [hsame (List.subset_append_left ..), hsame (List.subset_append_right ..)]
  obtain ⟨o, sb'⟩ := t
  cases o with
  | none =>
    rw [Turn.toil_none] at hlt
    simp only [Option.toList_none, List.map_nil, List.sum_nil]
    omega
  | some a' =>
    rw [Turn.toil_some] at hlt
    simp only [Option.toList_some, List.map_cons, List.map_nil, List.sum_cons, List.sum_nil]
    omega

/-- Every turn in which something happens lowers the potential. -/
theorem potential_perform_lt (hc : c.Coherent) {e : Event} (he : e.isTurn = true)
    (hne : c.perform e ≠ c) : (c.perform e).potential < c.potential := by
  rcases c.perform_cases he with heq | ⟨pre, a, post, o, board, hagents, hturn, heq⟩
  · exact absurd heq hne
  · rw [heq]
    exact hc.potential_lt_of_turn hagents hturn

/-! ## What a client does by itself -/

theorem turn_lt (hc : c.Coherent) (hturn : c.turn = some c') :
    c'.potential < c.potential ∧ c.Works c' := by
  unfold turn at hturn
  obtain ⟨⟨agents, board⟩, hfirst, rfl⟩ := Option.map_eq_some_iff.1 hturn
  obtain ⟨pre, a, post, o, hagents, ht, rfl⟩ := firstTurn_eq_some hfirst
  exact ⟨hc.potential_lt_of_turn hagents ht, works_turn hagents ht⟩

/-- With as much fuel as there is potential, turns go on until nothing is left to do. -/
theorem settled_of_fuel (hc : c.Coherent) {fuel : Nat} (hfuel : c.potential ≤ fuel) :
    c.Works (settleWith fuel c) ∧ (settleWith fuel c).isSettled = true := by
  induction fuel generalizing c with
  | zero =>
    -- a turn would lower a potential of zero
    refine ⟨.refl c, ?_⟩
    cases hturn : c.turn with
    | none => exact Option.isNone_iff_eq_none.2 hturn
    | some c' => exact absurd ((turn_lt hc hturn).1.trans_le hfuel) (Nat.not_lt_zero _)
  | succ fuel ih =>
    unfold settleWith
    cases hturn : c.turn with
    | none => exact ⟨.refl c, Option.isNone_iff_eq_none.2 hturn⟩
    | some c' =>
      obtain ⟨hlt, hworks⟩ := turn_lt hc hturn
      obtain ⟨hworks', hsettled⟩ := ih (hc.works hworks) (Nat.le_of_lt_succ (hlt.trans_le hfuel))
      exact ⟨hworks.trans hworks', hsettled⟩

/-- Settling is a matter of turns. -/
theorem works_settle (hc : c.Coherent) : c.Works c.settle := (settled_of_fuel hc (le_refl _)).1

/-- A client that settled is settled. -/
theorem isSettled_settle (hc : c.Coherent) : c.settle.isSettled = true :=
  (settled_of_fuel hc (le_refl _)).2

/-- Turns take no time, so what follows them is as much on time as with them. -/
theorem onTime_append_of_turns {es es' : List Event} (hes : ∀ e ∈ es, Event.isTurn e = true)
    (h : (c.run es).OnTime es') : c.OnTime (es ++ es') := by
  induction es generalizing c with
  | nil => exact h
  | cons e es ih =>
    refine ⟨?_, ih (fun e' he' => hes e' (List.mem_cons_of_mem _ he')) h⟩
    obtain ⟨place, rfl⟩ := Event.eq_turn_of_isTurn (hes e (List.mem_cons_self ..))
    exact nofun

/-- Letting milliseconds pass is a run of turns and as many milliseconds, none of which passes while
something is left to do. -/
theorem advance_eq_run (hc : c.Coherent) (ms : Nat) : ∃ es, c.advance ms = c.run es ∧
    c.OnTime es ∧ (∀ e ∈ es, e.isTurn = true ∨ e = .pass) ∧
      (es.countP fun e => e matches .pass) = ms := by
  induction ms generalizing c with
  | zero => exact ⟨[], rfl, trivial, nofun, rfl⟩
  | succ ms ih =>
    obtain ⟨es, hes, hsettle⟩ := works_settle hc
    -- the turns that settle the client, then the first millisecond, then the others
    have htick : c.tick = c.settle.perform .pass := rfl
    have hcoherent : c.tick.Coherent := (hc.works (works_settle hc)).pass
    obtain ⟨es', hadvance, htime, hes', hpasses⟩ := ih hcoherent
    have hnone : (es.countP fun e => e matches .pass) = 0 := by
      refine List.countP_eq_zero.2 fun e he => ?_
      obtain ⟨place, rfl⟩ := Event.eq_turn_of_isTurn (hes e he)
      exact Bool.false_ne_true
    refine ⟨es ++ .pass :: es', ?_, onTime_append_of_turns hes ⟨fun _ => ?_, ?_⟩,
      fun e he => ?_, ?_⟩
    · rw [run_append, hsettle, run_cons, ← htick]
      exact hadvance
    · rw [hsettle]
      exact isSettled_settle hc
    · rw [hsettle, ← htick]
      exact htime
    · rcases List.mem_append.1 he with he | he
      · exact Or.inl (hes e he)
      · rcases List.mem_cons.1 he with rfl | he
        · exact Or.inr rfl
        · exact hes' e he
    · rw [List.countP_append, hnone, List.countP_cons_of_pos rfl, hpasses, Nat.zero_add]

end Client

end LiveQuery
