import LiveQuery.Proofs.Ebb

/-!
# Clients whose server is gone

An agent of the session is stranded (`Client.Stranded`) if the server end of its socket is gone.
Until it has a turn of its own, or the session is stopped, it stays where it is, whatever happens
around it (`Client.past_of_step`). A close by the server leaves the agent stranded, with the close
frame behind the frames that it has not read (`Client.stranded_of_close`).
-/

namespace LiveQuery

namespace Client

variable {c c' : Client} {a : Agent} {link : Link} {e : Event}

/-! ## What goes past an agent -/

/-- What happens goes past an agent and puts nothing for the subscriptions there are. -/
structure Past (c : Client) (a : Agent) (c' : Client) : Prop where
  mem : a ∈ c'.agents
  pair : ∀ k, a.socket? = some k → (c.board.line k).pair.server = false →
    (c'.board.line k).pair = (c.board.line k).pair
  recvFaults : ∀ k, a.socket? = some k →
    (c'.board.line k).recvFaults = (c.board.line k).recvFaults
  now : c'.board.now = c.board.now
  opens : c'.board.opens = c.board.opens
  settings : c'.board.settings = c.board.settings
  journal : ∀ entry ∈ c.board.journal, entry ∈ c'.board.journal
  channel : ∀ n < c.board.consumers.length, c'.board.channel n = c.board.channel n

/-- A change of session and consumers goes past every agent. -/
theorem past_withSession (ha : a ∈ c.agents) {sb : Switchboard}
    (hsb : sb = { c.board with consumers := sb.consumers }) (session : Session) :
    c.Past a { c with board := sb.withSession session } := by
  have hline (k : Nat) : (sb.withSession session).line k = c.board.line k := by
    unfold Switchboard.line
    rw [Switchboard.withSession_lines, hsb]
  refine ⟨ha, fun k _ _ => by rw [hline], fun k _ => by rw [hline], ?_, ?_, ?_, fun entry he => ?_,
    fun n _ => ?_⟩
  · exact (sb.withSession_now session).trans (by rw [hsb])
  · exact (sb.withSession_opens session).trans (by rw [hsb])
  · exact (sb.withSession_settings session).trans (by rw [hsb])
  · refine Switchboard.mem_withSession sb session ?_
    rw [hsb]
    exact he
  · refine (Switchboard.withSession_channel ..).trans ?_
    rw [hsb]
    rfl

/-- Short of a stop, a turn of its own, or the time, every step goes past the agent of the
session. -/
theorem past_of_step (hc : c.Coherent) (ha : a ∈ c.agents) (hat : a.told = false)
    (hpass : e ≠ .pass) (hfault : e.isFault = false) (hstep : Step e c c') :
    (c' = c.halted ∧ c.phase ≠ .notStarted) ∨ c.Past a c' ∨
      ∃ pre post t, c.agents = pre ++ a :: post ∧ a.turn c.board = some t ∧
        c' = { c with agents := pre ++ (t.1.toList ++ post), board := t.2 } := by
  cases hstep with
  | quiet hq =>
    refine Or.inr (Or.inl ⟨hq.agents ▸ ha, fun k _ => hq.gone k, fun k _ => hq.recvFaults hfault k,
      hq.now, hq.opens, hq.settings, fun entry he => ?_, fun n _ => ?_⟩)
    · rwa [hq.journal]
    · exact (undelivered_of_quiet hq).channel n
  | touch ht =>
    exact Or.inr (Or.inl ⟨ha, fun _ _ _ => rfl, fun _ _ => rfl, rfl, rfl, rfl, fun _ he => he,
      fun _ _ => rfl⟩)
  | launch he hp params held => exact absurd hp ((hc.agents a ha).started hat)
  | enlist he hp operation =>
    exact Or.inr (Or.inl (past_withSession ha rfl _))
  | refuse he error =>
    refine Or.inr (Or.inl ⟨ha, fun _ _ _ => rfl, fun _ _ => rfl, rfl, rfl, rfl,
      fun _ he => List.mem_cons_of_mem _ he, fun n hn => ?_⟩)
    have hnone : Notice.item? n (.delivered c.board.consumers.length (.error error)) = none :=
      if_neg hn.ne'
    refine (Switchboard.note_channel ..).trans ?_
    rw [hnone]
    exact List.append_nil _
  | withdraw he hx hcancelled =>
    right
    left
    rw [withdrawn_eq]
    exact past_withSession ha rfl _
  | halt hp => exact Or.inl ⟨rfl, hp⟩
  | turn hagents ht hturn =>
    rename_i pre post b o board
    by_cases hba : b = a
    · subst hba
      exact Or.inr (Or.inr ⟨pre, post, (o, board), hagents, ht, rfl⟩)
    · -- it is the turn of an agent that was told to stop, which has another socket
      have hother := other_of_ne hagents ha (Ne.symm hba)
      have hbt : b.told = true := by
        by_contra hbt
        have htold := hc.told_of_other hagents (Bool.eq_false_iff.2 hbt) hother
        rw [hat] at htold
        cases htold
      have hmove := (hc.agents b (mem_of_split hagents)).move ht
      have hmem : a ∈ pre ++ (o.toList ++ post) := mem_turned.2 (Or.inl hother)
      right
      left
      rcases (hmove.of_told hbt).2 with heq | ⟨link, news, hs, htraffic⟩
      · obtain rfl : board = c.board := heq
        exact ⟨hmem, fun _ _ _ => rfl, fun _ _ => rfl, rfl, rfl, rfl, fun _ he => he,
          fun _ _ => rfl⟩
      · have hline : ∀ k, a.socket? = some k → board.line k = c.board.line k := by
          intro k hk
          refine htraffic.elsewhere k fun heq => hc.socket_ne hagents hother hk ?_
          rw [Agent.socket?_of_serving hs, heq]
        have hundelivered := Switchboard.Undelivered.of_traffic htraffic
        exact ⟨hmem, fun k hk _ => congrArg Line.pair (hline k hk),
          fun k hk => congrArg Line.recvFaults (hline k hk), htraffic.now, htraffic.opens,
          htraffic.settings, hundelivered.journal, fun n _ => hundelivered.channel n⟩
  | pass he => exact absurd he hpass

/-! ## Stranded agents -/

/-- The agent of the session serves a socket whose server is gone. -/
structure Stranded (c : Client) (a : Agent) (link : Link) : Prop where
  mem : a ∈ c.agents
  told : a.told = false
  serving : a.stage = .serving link
  dead : c.board.IsDead link.socket

namespace Stranded

/-- While an agent is stranded there is something to do. -/
theorem not_settled (h : c.Stranded a link) : c.isSettled ≠ true := by
  intro hsettled
  obtain ⟨t, ht⟩ := Agent.turn_of_dead h.serving h.dead
  have hnone := isSettled_iff.1 hsettled a h.mem
  rw [ht] at hnone
  cases hnone

theorem bound (h : c.Stranded a link) (hc : c.Coherent) : link.socket < c.board.lines.length :=
  (hc.agents a h.mem).bound link h.serving

theorem ebb (h : c.Stranded a link) (hc : c.Coherent) {t : Turn}
    (ht : a.turn c.board = some t) : a.Ebb link c.board t :=
  Agent.ebb_of_turn ((hc.agents a h.mem).isOutdated h.told) h.told h.serving (h.bound hc) h.dead ht

/-- What goes past a stranded agent leaves it there, with the same frames to read. -/
theorem past (h : c.Stranded a link) (hpast : c.Past a c') :
    c'.Stranded a link ∧ c'.board.unread link.socket = c.board.unread link.socket := by
  have hk := Agent.socket?_of_serving h.serving
  have hpair := hpast.pair _ hk h.dead.server
  refine ⟨⟨hpast.mem, h.told, h.serving, h.dead.congr (by rw [hpair]) (hpast.recvFaults _ hk)⟩, ?_⟩
  unfold Switchboard.unread
  rw [hpair]

end Stranded

/-! ## A close by the server -/

theorem line_modifyLine {k : Nat} (hk : k < c.board.lines.length) (f : Line → Line) :
    (c.modifyLine k f).board.line k = f (c.board.line k) := by
  show (c.board.lines.modify k f)[k]?.getD {} = f (c.board.lines[k]?.getD {})
  rw [List.getElem?_modify_eq, List.getElem?_eq_getElem hk]
  rfl

/-- A close by the server puts a frame behind the unread ones and leaves the agent stranded. -/
theorem stranded_of_close (hc : c.Coherent) (hlink : c.currentLink? = some link)
    (hserver : (c.board.line link.socket).pair.server = true)
    (hfaults : (c.board.line link.socket).recvFaults = []) (frame : CloseFrame) :
    ∃ a, a.attempt = c.attempt ∧ (c.perform (.serverClose link.socket frame)).Stranded a link ∧
      (c.perform (.serverClose link.socket frame)).board.unread link.socket =
        c.board.unread link.socket ++ [.close frame] := by
  obtain ⟨a, ha, ht, hs, hattempt⟩ := current_of_currentLink? hlink
  have hperform : c.perform (.serverClose link.socket frame) =
      c.modifyLine link.socket fun l => { l with pair := l.pair.serverClose frame } :=
    if_pos hserver
  obtain ⟨hbound, hclient⟩ := (hc.agents a ha).socket _ (Agent.socket?_of_serving hs)
  have hline := line_modifyLine hbound fun l => { l with pair := l.pair.serverClose frame }
  have hpair : (c.board.line link.socket).pair.serverClose frame =
      { (c.board.line link.socket).pair with
        toClient := c.board.unread link.socket ++ [.close frame], server := false,
        toServer := [] } := by
    unfold SocketPair.serverClose SocketPair.serverSend
    rw [if_pos hclient]
    rfl
  rw [hperform]
  refine ⟨a, hattempt, ⟨ha, ht, hs, ?_, ?_⟩, ?_⟩
  · rw [hline, hpair]
  · rw [hline]
    exact hfaults
  · unfold Switchboard.unread
    rw [hline, hpair]
    rfl

end Client

end LiveQuery
