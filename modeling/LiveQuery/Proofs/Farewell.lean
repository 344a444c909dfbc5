import LiveQuery.Proofs.Calls
import LiveQuery.Proofs.Dealings
import LiveQuery.Proofs.FatalClose
import LiveQuery.Proofs.Shutdown

/-!
# Agents that were told to stop

An agent that was told to stop has one turn left: it closes the socket it has, and otherwise does
nothing (`Agent.turn_of_told_eq`). Until then it stays where it is, whatever happens around it
(`Client.Leaving.perform`). So its socket is left alone but for one close frame and the drop
(`Client.Cut.run`), and the session opens no socket before somebody starts it again
(`Client.dormant_run`).
-/

namespace LiveQuery

/-! ## Closing a socket -/

/-- Without a fault of sending a send fails exactly if the server is gone. -/
theorem Line.send_of_plain (l : Line) (h : l.sendFault = none) (f : Frame) :
    (l.send f).1.arrived = l.pair.server ∧ (l.send f).1.error.isSome = !l.pair.server := by
  have hactive : l.activeSendFault = none := by rw [activeSendFault, h, Option.filter_none]
  unfold send
  rw [hactive]
  dsimp only
  cases hserver : l.pair.server with
  | true => simp [transmit, SocketPair.clientSend, hserver]
  | false => simp [transmit_of_gone l f hserver]

namespace Switchboard

variable (sb : Switchboard) (k : Nat)

/-- A close sends one close frame and drops the socket. -/
theorem exact_close (hk : k < sb.lines.length) (code : CloseCode) (reason : String) :
    ∃ arrived failed, sb.Traffic k [.dropped k (sb.line k).pair.server,
        .sent k (.close ⟨code, reason⟩) arrived failed] (sb.close k code reason) ∧
      ((sb.line k).sendFault = none →
        arrived = (sb.line k).pair.server ∧ failed = !(sb.line k).pair.server) := by
  let item : Outgoing := .close ⟨code, reason⟩
  have hsent : sb.Traffic k
      [.sent k item ((sb.line k).send item.frame).1.arrived
        ((sb.line k).send item.frame).1.error.isSome] (sb.send k item).2 :=
    sb.traffic_setLine_note k hk _ (by simp [Notice.isTraffic])
  obtain ⟨sendFault, hline⟩ := sb.line_send k hk item
  have hserver : ((sb.send k item).2.line k).pair.server = (sb.line k).pair.server := by rw [hline]
  have hdropped : (sb.send k item).2.Traffic k [.dropped k (sb.line k).pair.server]
      (sb.close k code reason) := by
    rw [← hserver]
    exact (sb.send k item).2.traffic_setLine_note k hsent.bound _ (by simp [Notice.isTraffic])
  exact ⟨_, _, hsent.trans hdropped, fun hplain => (sb.line k).send_of_plain hplain item.frame⟩

/-- A close leaves the server's end as it was. -/
theorem server_close (hk : k < sb.lines.length) (code : CloseCode) (reason : String) :
    ((sb.close k code reason).line k).pair.server = (sb.line k).pair.server := by
  obtain ⟨sendFault, hline⟩ := sb.line_send k hk (.close ⟨code, reason⟩)
  have hbound : k < (sb.send k (.close ⟨code, reason⟩)).2.lines.length := by
    simpa [send, setLine, note] using hk
  unfold close drop
  dsimp only
  rw [note_line, line_setLine_self _ k hbound, hline]
  rfl

@[simp] theorem length_close (code : CloseCode) (reason : String) :
    (sb.close k code reason).lines.length = sb.lines.length := by
  simp [close, drop, send, setLine, note]

@[simp] theorem opens_close (code : CloseCode) (reason : String) :
    (sb.close k code reason).opens = sb.opens := rfl

end Switchboard

/-! ## The last turn -/

namespace Agent

variable (a : Agent) (sb : Switchboard)

/-- What an agent that was told to stop leaves behind: its socket is closed. -/
def farewell : Switchboard :=
  match a.stage with
  | .serving link => sb.close link.socket .normalClosure "Normal Closure"
  | _ => sb

variable {a}

/-- An agent that was told to stop closes its socket and is gone. -/
theorem turn_of_told_eq (ht : a.told = true) : a.turn sb = some (none, a.farewell sb) := by
  unfold turn farewell
  cases a.stage with
  | ready =>
    refine congrArg some (if_pos ?_)
    rw [ht, Bool.or_true]
  | opening | serving | backoff => exact if_pos ht

theorem farewell_of_serving {link : Link} (hs : a.stage = .serving link) :
    a.farewell sb = sb.close link.socket .normalClosure "Normal Closure" := by
  unfold farewell
  rw [hs]

theorem farewell_of_idle (hs : a.socket? = none) : a.farewell sb = sb := by
  unfold farewell
  unfold socket? at hs
  cases hstage : a.stage with
  | serving link =>
    rw [hstage] at hs
    cases hs
  | _ => rfl

/-- No socket is asked for, and none opens. -/
theorem farewell_opens : (a.farewell sb).opens = sb.opens ∧
    (a.farewell sb).lines.length = sb.lines.length := by
  unfold farewell
  split
  · exact ⟨Switchboard.opens_close .., Switchboard.length_close ..⟩
  · exact ⟨rfl, rfl⟩

theorem stage_of_socket? {k : Nat} (h : a.socket? = some k) :
    ∃ link, a.stage = .serving link ∧ link.socket = k := by
  unfold socket? at h
  split at h
  · next link hs => exact ⟨link, hs, Option.some.inj h⟩
  · cases h

end Agent

namespace Client

variable {c c' : Client} {e : Event} {k : Nat}

/-- A turn of an agent that was told to stop is its farewell. -/
theorem eq_farewell {a : Agent} {t : Turn} (hat : a.told = true) (ht : a.turn c.board = some t) :
    t = (none, a.farewell c.board) := by
  rw [Agent.turn_of_told_eq c.board hat] at ht
  exact (Option.some.inj ht).symm

/-- A stop tells every agent there is. -/
theorem told_of_halted (hc : c.Coherent) {b : Agent} (hb : b ∈ c.halted.agents) :
    b.told = true ∧ ∃ a ∈ c.agents, b = { a with told := true } := by
  obtain ⟨a, ha, rfl⟩ := List.mem_map.1 hb
  by_cases hepoch : a.epoch = c.board.session.epoch
  · rw [if_pos hepoch]
    exact ⟨rfl, a, ha, rfl⟩
  · rw [if_neg hepoch]
    have hat : a.told = true := by
      by_contra hat
      exact hepoch ((hc.agents a ha).current.1 (Bool.eq_false_iff.2 hat))
    exact ⟨hat, a, ha, by rw [← hat]⟩

/-- While no session has started, no socket is asked for and none opens. -/
theorem dormant_run (hc : c.Coherent) (hp : c.phase = .notStarted) {es : List Event}
    (hes : ∀ e ∈ es, e.starts = false) : (c.run es).phase = .notStarted ∧
      (c.run es).board.opens = c.board.opens ∧
        (c.run es).board.lines.length = c.board.lines.length := by
  have hstep {c₁ c₂ : Client} {e : Event} (hc₁ : c₁.Coherent) (hp₁ : c₁.phase = .notStarted)
      (hstep : Step e c₁ c₂) : c₂.board.lines.length = c₁.board.lines.length := by
    rcases turn_or_apart hstep with ⟨pre, a, post, t, hagents, ht, -, rfl⟩ | hapart
    · -- an agent that was not told to stop belongs to a session that has started
      have hat : a.told = true := by
        by_contra hat
        exact (hc₁.agents a (mem_of_split hagents)).started (Bool.eq_false_iff.2 hat) hp₁
      rw [eq_farewell hat ht]
      exact (Agent.farewell_opens c₁.board).2
    · exact hapart.length
  induction es generalizing c with
  | nil => exact ⟨hp, rfl, rfl⟩
  | cons e es ih =>
    have hevent := perform_induction (e := e) (c := c)
      (P := fun c' => c'.Coherent ∧ c'.phase = .notStarted ∧ c'.board.opens = c.board.opens ∧
        c'.board.lines.length = c.board.lines.length)
      (fun c₁ c₂ h₁ h => by
        obtain ⟨hc₁, hp₁, hopens, hlength⟩ := h₁
        obtain ⟨hp₂, hopens₂⟩ := notStarted_step hp₁ hc₁ (hes e (List.mem_cons_self ..)) h
        exact ⟨hc₁.step h, hp₂, hopens₂.trans hopens, (hstep hc₁ hp₁ h).trans hlength⟩)
      ⟨hc, hp, rfl, rfl⟩
    obtain ⟨hc', hp', hopens, hlength⟩ := hevent
    obtain ⟨hp'', hopens', hlength'⟩ := ih hc' hp' fun e' he' => hes e' (List.mem_cons_of_mem _ he')
    exact ⟨hp'', hopens'.trans hopens, hlength'.trans hlength⟩

/-! ## Sockets of agents that were told to stop -/

/-- An agent that was told to stop has the socket. -/
def Leaving (c : Client) (k : Nat) : Prop := ∃ a ∈ c.agents, a.told = true ∧ a.socket? = some k

namespace Leaving

theorem bound (h : c.Leaving k) (hc : c.Coherent) : k < c.board.lines.length := by
  obtain ⟨a, ha, -, hk⟩ := h
  exact ((hc.agents a ha).socket k hk).1

/-- A client that is settled has no such agents. -/
theorem not_settled (h : c.Leaving k) : c.isSettled ≠ true := by
  intro hsettled
  obtain ⟨a, ha, hat, -⟩ := h
  have hnone := isSettled_iff.1 hsettled a ha
  rw [Agent.turn_of_told_eq c.board hat] at hnone
  cases hnone

/-- Until its farewell the agent stays where it is, whatever happens around it. -/
theorem perform (h : c.Leaving k) (hc : c.Coherent) (e : Event) :
    ((c.perform e).Leaving k ∧ (c.perform e).board.dealings k = c.board.dealings k ∧
      (e.isTurn = true → (c.perform e).board.line k = c.board.line k)) ∨
    ∃ pre a post, c.agents = pre ++ a :: post ∧ a.told = true ∧ a.socket? = some k ∧
      c.perform e = { c with agents := pre ++ post, board := a.farewell c.board } := by
  obtain ⟨a, ha, hat, hak⟩ := h
  rcases c.turn_or_apart_perform e with ⟨pre, b, post, t, hagents, ht, heq⟩ | ⟨hapart, hsame⟩
  · by_cases hba : b = a
    · subst hba
      right
      rw [eq_farewell hat ht] at heq
      exact ⟨pre, b, post, hagents, hat, hak, heq⟩
    · -- another agent has another socket
      have hother := other_of_ne hagents ha (Ne.symm hba)
      have hmove := (hc.agents b (mem_of_split hagents)).move ht
      obtain ⟨hline, hdealings⟩ := hmove.elsewhere ((hc.agents a ha).socket k hak).1
        (hc.socket_ne hagents hother hak)
      left
      rw [heq]
      exact ⟨⟨a, mem_turned.2 (Or.inl hother), hat, hak⟩, hdealings, fun _ => hline⟩
  · refine Or.inl ⟨⟨a, hapart.stays a ha hat, hat, hak⟩, hapart.dealings k, fun he => ?_⟩
    rw [hsame he]

end Leaving

/-- Without the agent that had it a socket is released. -/
theorem released_of_gone (hc : c.Coherent) {pre post : List Agent} {a : Agent}
    (hagents : c.agents = pre ++ a :: post) (hk : a.socket? = some k) {board : Switchboard}
    (hbound : k < board.lines.length) :
    ({ c with agents := pre ++ post, board } : Client).Released k := by
  refine ⟨hbound, fun hmem => ?_⟩
  obtain ⟨b, hb, hbk⟩ := List.mem_filterMap.1 hmem
  exact hc.socket_ne hagents hb hbk hk

/-- A socket that is about to be closed normally, or has been. `before` are its dealings so far;
`plain` says that no fault is set for its sends. -/
inductive Cut (k : Nat) (before : List Notice) (plain : Prop) (c : Client) : Prop
  | held (h : c.Leaving k) (hdealings : c.board.dealings k = before)
      (hplain : plain → (c.board.line k).sendFault = none)
  | closed {arrived failed seen : Bool} (h : c.Released k)
      (hdealings : c.board.dealings k = before ++
        [.sent k (.close ⟨.normalClosure, "Normal Closure"⟩) arrived failed, .dropped k seen])
      (hgone : seen = false → (c.board.line k).pair.server = false)
      (hplain : plain → arrived = seen ∧ failed = !seen)

namespace Cut

variable {before : List Notice} {plain : Prop}

theorem perform (h : c.Cut k before plain) (hc : c.Coherent)
    (hfault : plain → e.isFault = false) : (c.perform e).Cut k before plain := by
  cases h with
  | held h hdealings hplain =>
    rcases h.perform hc e with ⟨h', hdealings', hline⟩ | ⟨pre, a, post, hagents, hat, hak, heq⟩
    · -- the agent has the socket still; a fault of sending comes only from outside
      refine .held h' (hdealings'.trans hdealings) fun hp => ?_
      by_cases he : e.isTurn = true
      · rw [hline he]
        exact hplain hp
      · rw [(c.line_perform (Bool.eq_false_iff.2 he) k).2.2 (hfault hp)]
        exact hplain hp
    · -- its farewell
      obtain ⟨link, hs, rfl⟩ := Agent.stage_of_socket? hak
      have hbound := ((hc.agents a (mem_of_split hagents)).socket _ hak).1
      obtain ⟨arrived, failed, htraffic, hexact⟩ :=
        c.board.exact_close link.socket hbound .normalClosure "Normal Closure"
      have hkept : link.socket < (a.farewell c.board).lines.length := by
        rwa [(Agent.farewell_opens c.board).2]
      have hreleased := released_of_gone hc hagents hak hkept
      rw [heq]
      rw [Agent.farewell_of_serving c.board hs] at hreleased ⊢
      refine .closed hreleased ?_ (fun hseen => ?_) fun hp => hexact (hplain hp)
      · rw [htraffic.dealings, hdealings]
        rfl
      · exact (c.board.server_close link.socket hbound .normalClosure "Normal Closure").trans hseen
  | closed h hdealings hgone hplain =>
    -- nobody has the socket any more, and a server that is gone does not come back
    obtain ⟨h', hdealings', hline⟩ := h.perform hc e
    refine .closed h' (hdealings'.trans hdealings) (fun hseen => ?_) hplain
    by_cases he : e.isTurn = true
    · rw [hline he]
      exact hgone hseen
    · exact (c.line_perform (Bool.eq_false_iff.2 he) k).2.1 (hgone hseen)

/-- Whatever happens, the socket gets one close frame at most, and nothing else. -/
theorem run (h : c.Cut k before plain) (hc : c.Coherent) {es : List Event}
    (hfaults : plain → ∀ e ∈ es, e.isFault = false) : (c.run es).Cut k before plain := by
  induction es generalizing c with
  | nil => exact h
  | cons e es ih =>
    refine ih (h.perform hc fun hp => hfaults hp e (List.mem_cons_self ..)) (hc.perform e) ?_
    exact fun hp e' he' => hfaults hp e' (List.mem_cons_of_mem _ he')

end Cut

end Client

end LiveQuery
