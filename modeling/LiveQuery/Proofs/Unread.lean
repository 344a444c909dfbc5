import LiveQuery.Proofs.Farewell

/-!
# What a stopped session left unread

Frames that wait on a socket are seen only by the agent of the socket. So what another agent does is
the same whatever waits there (`Agent.turn_withUnread`), and what an agent does that was told to
stop is too, since it drops the socket unread. A client in which such an agent has the socket
behaves the same for ever whatever was left unread (`Client.Alike.run`), also if a new session is
started before that agent has its last turn.
-/

namespace LiveQuery

/-- The same with other frames waiting. -/
def Line.withUnread (l : Line) (frames : List Frame) : Line :=
  { l with pair := { l.pair with toClient := frames } }

theorem Line.send_withUnread (l : Line) (frames : List Frame) (f : Frame) :
    (l.withUnread frames).send f = ((l.send f).1, (l.send f).2.withUnread frames) := by
  obtain ⟨⟨toClient, toServer, client, server⟩, recvFaults, sendFault⟩ := l
  have hactive : ({ pair := ⟨toClient, toServer, client, server⟩, recvFaults, sendFault } :
      Line).activeSendFault = sendFault.filter SendFault.isArmed := rfl
  have hactive' : (({ pair := ⟨toClient, toServer, client, server⟩, recvFaults, sendFault } :
      Line).withUnread frames).activeSendFault = sendFault.filter SendFault.isArmed := rfl
  unfold send
  rw [hactive, hactive']
  cases sendFault.filter SendFault.isArmed with
  | none => cases server <;> rfl
  | some fault =>
    dsimp only
    cases fault.delivers with
    | false => rfl
    | true => cases server <;> rfl

namespace Switchboard

variable (sb : Switchboard) (k : Nat) (frames : List Frame)

/-- The same with other frames waiting on a socket. -/
def withUnread : Switchboard := sb.setLine k ((sb.line k).withUnread frames)

theorem line_withUnread {sb : Switchboard} {k s : Nat} (hs : s ≠ k) :
    (sb.withUnread k frames).line s = sb.line s := sb.line_setLine k hs _

theorem setLine_setLine (l l' : Line) : (sb.setLine k l).setLine k l' = sb.setLine k l' := by
  unfold setLine
  rw [List.set_set]

section Self

variable {sb k} (hk : k < sb.lines.length)

include hk

theorem line_withUnread_self : (sb.withUnread k frames).line k = (sb.line k).withUnread frames :=
  sb.line_setLine_self k hk _

omit hk in
theorem setLine_withUnread_self (l : Line) :
    (sb.withUnread k frames).setLine k l = sb.setLine k l := sb.setLine_setLine k _ l

theorem send_withUnread_self (item : Outgoing) : (sb.withUnread k frames).send k item =
    ((sb.send k item).1, (sb.send k item).2.withUnread k frames) := by
  unfold send
  dsimp only
  rw [line_withUnread_self frames hk, Line.send_withUnread, setLine_withUnread_self frames]
  unfold withUnread
  rw [note_line, sb.line_setLine_self k hk]
  generalize (sb.line k).send item.frame = sent
  obtain ⟨outcome, line⟩ := sent
  exact congrArg (fun sb : Switchboard => (outcome.error,
      sb.note (.sent k item outcome.arrived outcome.error.isSome)))
    (sb.setLine_setLine k { line with pair := { line.pair with toServer := [] } } _).symm

/-- A socket that is dropped keeps nothing unread. -/
theorem drop_withUnread_self : (sb.withUnread k frames).drop k = sb.drop k := by
  unfold drop
  dsimp only
  rw [line_withUnread_self frames hk, setLine_withUnread_self frames]
  rfl

theorem close_withUnread_self (code : CloseCode) (reason : String) :
    (sb.withUnread k frames).close k code reason = sb.close k code reason := by
  have hbound : k < (sb.send k (.close ⟨code, reason⟩)).2.lines.length := by
    simpa [send, setLine, note] using hk
  unfold close
  rw [send_withUnread_self frames hk, drop_withUnread_self frames hbound]

end Self

/-- What waits on a socket is not seen through the others. -/
theorem unseen_withUnread :
    Unseen (fun lines => lines.set k ((lines[k]?.getD {}).withUnread frames)) (· ≠ k) where
  line hs lines := by rw [List.getElem?_set_ne hs.symm]
  setLine hs lines line := by rw [List.getElem?_set_ne hs, List.set_comm _ _ hs.symm]

end Switchboard

/-! ## What another agent does -/

/-- The same turn with other frames waiting on a socket. -/
def Turn.hide (k : Nat) (frames : List Frame) (t : Turn) : Turn := (t.1, t.2.withUnread k frames)

namespace Agent

variable (a : Agent) (sb : Switchboard) {k : Nat} (frames : List Frame)

/-- What an agent does is the same whatever waits on a socket that is not its own. -/
theorem turn_withUnread (hk : k < sb.lines.length) (hne : a.socket? ≠ some k) :
    a.turn (sb.withUnread k frames) = (a.turn sb).map (Turn.hide k frames) := by
  refine a.turn_remap sb Switchboard.unasked_id (Switchboard.unseen_withUnread k frames)
    (fun line => ?_) (List.length_set ..) hk.ne' fun link hs heq => hne ?_
  · rw [List.getElem?_append_left hk, List.set_append_left _ _ hk]
  · rw [socket?_of_serving hs, heq]

/-- An agent that was told to stop leaves nothing unread behind. -/
theorem farewell_withUnread (hk : k < sb.lines.length) (hsocket : a.socket? = some k) :
    a.farewell (sb.withUnread k frames) = a.farewell sb := by
  obtain ⟨link, hs, rfl⟩ := stage_of_socket? hsocket
  rw [farewell_of_serving _ hs, farewell_of_serving _ hs]
  exact sb.close_withUnread_self frames hk _ _

end Agent

/-! ## What a client does -/

namespace Client

variable {c c' : Client} {e : Event} {k : Nat} (frames : List Frame)

/-- The same with other frames waiting on a socket. -/
def withUnread (c : Client) (k : Nat) (frames : List Frame) : Client :=
  c.mapBoard (·.withUnread k frames)

theorem withUnread_eq (c : Client) (k : Nat) : c.withUnread k frames =
    c.withLines (c.board.lines.set k ((c.board.line k).withUnread frames)) := rfl

/-- Calls, and the time, do not see what waits. -/
theorem perform_withUnread (he : e.isTurn = false) (hline : e.line? = none) :
    (c.withUnread k frames).perform e = (c.perform e).withUnread k frames := by
  have hlines := c.lines_perform he hline
  have hsame : (c.perform e).board.line k = c.board.line k := by
    unfold Switchboard.line
    rw [hlines]
  rw [withUnread_eq, withUnread_eq, c.perform_withLines _ he hline, hlines, hsame]

/-- The other end does the same whatever waits, but for what waits. -/
theorem modifyLine_withUnread (hk : k < c.board.lines.length) (s : Nat) {f : Line → Line}
    (hf : ∀ l, ∃ frames', f (l.withUnread frames) = (f l).withUnread frames') :
    ∃ frames', (c.withUnread k frames).modifyLine s f =
      (c.modifyLine s f).withUnread k frames' := by
  have hlines {frames' : List Frame}
      (h : (c.board.lines.set k ((c.board.line k).withUnread frames)).modify s f =
        (c.board.lines.modify s f).set k (((c.modifyLine s f).board.line k).withUnread frames')) :
      (c.withUnread k frames).modifyLine s f = (c.modifyLine s f).withUnread k frames' :=
    congrArg (fun lines => ({ c with board := { c.board with lines } } : Client)) h
  have hget : c.board.lines[k]? = some (c.board.line k) := by
    unfold Switchboard.line
    rw [List.getElem?_eq_getElem hk]
    rfl
  by_cases hs : s = k
  · subst hs
    obtain ⟨frames', hframes⟩ := hf (c.board.line s)
    refine ⟨frames', hlines ?_⟩
    have hline : (c.modifyLine s f).board.line s = f (c.board.line s) := by
      show (c.board.lines.modify s f)[s]?.getD {} = _
      rw [List.getElem?_modify_eq, hget]
      rfl
    rw [hline]
    refine List.ext_getElem? fun i => ?_
    by_cases hi : s = i
    · subst hi
      rw [List.getElem?_modify_eq, List.getElem?_set_self hk,
        List.getElem?_set_self (by rwa [List.length_modify]), ← hframes]
      rfl
    · rw [List.getElem?_modify_ne _ _ hi, List.getElem?_set_ne hi, List.getElem?_set_ne hi,
        List.getElem?_modify_ne _ _ hi]
  · refine ⟨frames, hlines ?_⟩
    have hline : (c.modifyLine s f).board.line k = c.board.line k :=
      (c.line_modifyLine_cases s k f).resolve_right fun h => hs h.1
    rw [hline]
    refine List.ext_getElem? fun i => ?_
    by_cases hi : k = i
    · subst hi
      rw [List.getElem?_modify_ne _ _ hs, List.getElem?_set_self hk,
        List.getElem?_set_self (by rwa [List.length_modify])]
    · rw [List.getElem?_modify, List.getElem?_set_ne hi, List.getElem?_set_ne hi,
        List.getElem?_modify]

/-- What the other end does to a socket, or the transport, is the same whatever waits, but for what
waits. -/
theorem perform_line_withUnread (hk : k < c.board.lines.length) {s : Nat}
    (hline : e.line? = some s) : ∃ frames', (c.withUnread k frames).perform e =
      (c.perform e).withUnread k frames' := by
  have hserver : ((c.withUnread k frames).board.line s).pair.server =
      (c.board.line s).pair.server := by
    by_cases hs : s = k
    · subst hs
      exact congrArg (·.pair.server) (Switchboard.line_withUnread_self frames hk)
    · exact congrArg (·.pair.server) (Switchboard.line_withUnread frames hs)
  have hone {f : Line → Line} (hundergo : ∀ c : Client, c.undergo e = c.modifyLine s f)
      (hallows : (c.withUnread k frames).allows e = c.allows e)
      (hf : ∀ l, ∃ frames', f (l.withUnread frames) = (f l).withUnread frames') :
      ∃ frames', (c.withUnread k frames).perform e = (c.perform e).withUnread k frames' := by
    unfold perform
    rw [hallows, hundergo, hundergo]
    split
    · exact modifyLine_withUnread frames hk s hf
    · exact ⟨frames, rfl⟩
  cases e with
  | serverSend s frame =>
    obtain rfl := Option.some.inj hline
    refine hone (fun c => rfl) hserver fun l => ?_
    cases hclient : l.pair.client with
    | true =>
      refine ⟨frames ++ [frame], ?_⟩
      simp [Line.withUnread, SocketPair.serverSend, hclient]
    | false =>
      refine ⟨frames, ?_⟩
      simp [Line.withUnread, SocketPair.serverSend, hclient]
  | serverClose s frame =>
    obtain rfl := Option.some.inj hline
    refine hone (fun c => rfl) hserver fun l => ?_
    cases hclient : l.pair.client with
    | true =>
      refine ⟨frames ++ [.close frame], ?_⟩
      simp [Line.withUnread, SocketPair.serverClose, SocketPair.serverSend, SocketPair.dropServer,
        hclient]
    | false =>
      refine ⟨frames, ?_⟩
      simp [Line.withUnread, SocketPair.serverClose, SocketPair.serverSend, SocketPair.dropServer,
        hclient]
  | serverDrop s =>
    obtain rfl := Option.some.inj hline
    exact hone (fun c => rfl) hserver fun l => ⟨frames, rfl⟩
  | failReceive s doing =>
    obtain rfl := Option.some.inj hline
    exact hone (fun c => rfl) rfl fun l => ⟨frames, rfl⟩
  | failSends s fault =>
    obtain rfl := Option.some.inj hline
    exact hone (fun c => rfl) rfl fun l => ⟨frames, rfl⟩
  | _ => cases hline

/-- The clients are the same, or an agent that was told to stop has the socket and they differ in
what waits there. -/
def Alike (k : Nat) (c c' : Client) : Prop :=
  c' = c ∨ c.Leaving k ∧ ∃ frames, c' = c.withUnread k frames

namespace Alike

/-- The turn of the agent that has the socket drops what waits, and the turns of the others do not
see it. -/
theorem turnAt (h : c.Leaving k) (hc : c.Coherent) (place : Nat) :
    Alike k (c.turnAt place) ((c.withUnread k frames).turnAt place) := by
  have hk := h.bound hc
  obtain ⟨b, hb, hbt, hbk⟩ := h
  have hagents' : (c.withUnread k frames).agents = c.agents := rfl
  have hboard' : (c.withUnread k frames).board = c.board.withUnread k frames := rfl
  cases hget : c.agents[place]? with
  | none =>
    refine Or.inr ⟨⟨b, ?_, hbt, hbk⟩, frames, ?_⟩
    · unfold Client.turnAt
      rwa [hget]
    · unfold Client.turnAt
      rw [hagents', hget]
  | some a =>
    have hsplit := agents_at hget
    by_cases hba : b = a
    · -- its own turn, which drops what waits
      left
      unfold Client.turnAt
      rw [hagents', hget, hboard', ← hba]
      dsimp only
      rw [Agent.turn_of_told_eq _ hbt, Agent.turn_of_told_eq _ hbt,
        Agent.farewell_withUnread _ _ frames hk hbk]
      rfl
    · have hother := other_of_ne hsplit hb hba
      have hturn := a.turn_withUnread c.board frames hk (hc.socket_ne hsplit hother hbk)
      refine Or.inr ⟨⟨b, ?_, hbt, hbk⟩, frames, ?_⟩
      · unfold Client.turnAt
        rw [hget]
        dsimp only
        split
        · exact hb
        · exact mem_turned.2 (Or.inl hother)
      · unfold Client.turnAt
        rw [hagents', hget, hboard']
        dsimp only
        rw [hturn]
        cases a.turn c.board with
        | none => rfl
        | some t => rfl

theorem perform (h : Alike k c c') (hc : c.Coherent) (e : Event) :
    Alike k (c.perform e) (c'.perform e) := by
  rcases h with rfl | ⟨hleaving, frames, rfl⟩
  · exact Or.inl rfl
  · by_cases he : e.isTurn = true
    · obtain ⟨place, rfl⟩ := Event.eq_turn_of_isTurn he
      exact turnAt frames hleaving hc place
    · have he := Bool.eq_false_iff.2 he
      have hk := hleaving.bound hc
      have hleaving' : (c.perform e).Leaving k := by
        obtain ⟨b, hb, hbt, hbk⟩ := hleaving
        exact ⟨b, (apart_perform he).stays b hb hbt, hbt, hbk⟩
      right
      cases hline : e.line? with
      | none => exact ⟨hleaving', frames, perform_withUnread frames he hline⟩
      | some s => exact ⟨hleaving', perform_line_withUnread frames hk hline⟩

/-- Alike clients stay alike. -/
theorem run (h : Alike k c c') (hc : c.Coherent) (es : List Event) :
    Alike k (c.run es) (c'.run es) := by
  induction es generalizing c c' with
  | nil => exact h
  | cons e es ih => exact ih (h.perform hc e) (hc.perform e)

end Alike

end Client

end LiveQuery
