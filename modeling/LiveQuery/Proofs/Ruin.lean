import LiveQuery.Proofs.Lifetime

/-!
# What ruins a session

A fatal close frame, a missed acknowledgment, and anything that has no place on the socket end the
session in the very turn in which the agent meets them (`Client.ruined_of_turn`): everybody gets the
cause as the one last item, the socket is left for good, and nothing is opened before somebody
starts a session again. The retry budget has no say.
-/

namespace LiveQuery

namespace Client

variable {c : Client} {error : ConnectionError} {farewell : Option CloseFrame} {k : Nat}

/-- Between two states a session was ruined on a socket, which was left with a close frame or
without. -/
structure Ruined (error : ConnectionError) (farewell : Option CloseFrame) (k : Nat)
    (c c' : Client) : Prop where
  /-- Everybody gets the cause, and only that. -/
  conclusion : Concluded error c c'
  /-- No socket is asked for and none opens, until somebody starts a session. -/
  dormant : c'.board.opens = c.board.opens ∧ ∀ es, (∀ e ∈ es, e.starts = false) →
    (c'.run es).phase = .notStarted ∧ (c'.run es).board.opens = c'.board.opens ∧
      (c'.run es).board.lines.length = c'.board.lines.length
  /-- The socket, which was neither closed nor dropped before, is left, and that is the last of
  it. -/
  socket : Unparted (c.board.dealings k) ∧ ∃ news exit, Unparted news ∧
    Switchboard.Departs (c.board.line k) k farewell exit ∧
      ∀ es, (c'.run es).board.dealings k = c.board.dealings k ++ (news ++ exit)

theorem Ruined.of_ruin (hc : c.Coherent) (horderly : c.Orderly) (howing : Owing c.board)
    (hfirst : ∀ n, c.board.session.roster.feeds n = true →
      ∀ item ∈ c.board.channel n, item.isLast = false)
    {place : Nat} {a : Agent} {sb : Switchboard} (ha : c.agents[place]? = some a)
    (h : a.Ruin c.board error farewell k sb) :
    Ruined error farewell k c (c.perform (.turn place)) := by
  have hagents := agents_at ha
  have hfits := hc.agents _ (mem_of_split hagents)
  have hat := h.told
  -- what is read, and then how the socket is left
  obtain ⟨hsocket, ⟨news, hnews, htraffic⟩, hserver, hfault⟩ := h.traffic hfits.bound
  obtain ⟨exit, hexit, hpart⟩ := sb.traffic_part k htraffic.bound farewell
  have hall := htraffic.trans hpart
  have hperform : c.perform (.turn place) = { c with
      agents := c.agents.take place ++ c.agents.drop (place + 1)
      board := (a.giveUp (sb.part k farewell) error).2 } :=
    perform_turn_of ha (Agent.turn_of_ruin h)
  have hc₁ := hc.perform (.turn place)
  have hgive (s : Nat) := a.dealings_giveUp (sb.part k farewell) error s
  have hshut : ShutDown error c (c.perform (.turn place)) := by
    refine shutDown_of_giveUp hc howing (hfits.isOutdated hat) (.of_traffic hall) ?_ hall.session
      error ?_
    · rw [hall.rest]
    · rw [hperform]
  have hdealings : (c.perform (.turn place)).board.dealings k =
      c.board.dealings k ++ (news.reverse ++ exit) := by
    rw [hperform, (hgive k).1, hall.dealings, List.reverse_append, List.reverse_reverse]
  refine ⟨hshut.concluded hc hc₁ hfirst, ⟨?_, fun es hes => dormant_run hc₁ hshut.phase hes⟩,
    horderly.held k (List.mem_filterMap.2 ⟨_, mem_of_split hagents, hsocket⟩),
    news.reverse, exit, hnews.reverse, ?_, fun es => ?_⟩
  · rw [hperform, (hgive k).2.2, hall.opens]
  · exact hexit.congr k hserver hfault
  · have hbound : k < (a.giveUp (sb.part k farewell) error).2.lines.length := by
      rw [(hgive k).2.1]
      exact hall.bound
    have hreleased := released_of_gone hc hagents hsocket hbound
    rw [← hperform] at hreleased
    rw [← hdealings]
    exact (hreleased.run hc₁ es).2

/-- After every run the turn in which an agent meets what ruins the session does ruin it. -/
theorem ruined_of_turn (settings : Settings) (transport : Transport) {newId : Nat → String}
    (hid : Function.Injective newId) (es : List Event) {place : Nat} {a : Agent}
    (ha : ((create settings transport newId).run es).agents[place]? = some a) {sb : Switchboard}
    (h : a.Ruin ((create settings transport newId).run es).board error farewell k sb) :
    Ruined error farewell k ((create settings transport newId).run es)
      (((create settings transport newId).run es).perform (.turn place)) :=
  .of_ruin (coherent_run settings transport hid es) (orderly_run settings transport hid es)
    (owing_run settings transport hid es) (results_of_fed settings transport hid es) ha h

/-- A server that never acknowledges. -/
theorem ruined_without_acknowledgment : Function.Injective tally ∧
    Ruined .ackTimeout
      (some ⟨.connectionAckTimeout, "Connection acknowledgement timeout"⟩) 0
      ((create { untimed with ackTimeout := some 5 } {} tally).run
        (greeting ++ List.replicate 5 .pass))
      (((create { untimed with ackTimeout := some 5 } {} tally).run
        (greeting ++ List.replicate 5 .pass)).perform (.turn 0)) := by
  have hlate : ∃ a, ((create { untimed with ackTimeout := some 5 } {} tally).run
      (greeting ++ List.replicate 5 .pass)).agents[0]? = some a ∧ a.told = false ∧
      ∃ link, a.stage = .serving link ∧ link.socket = 0 ∧ isDue ((create { untimed with
        ackTimeout := some 5 } {} tally).run (greeting ++ List.replicate 5 .pass)).board.now
          link.waitingFor = true := by
    refine ⟨_, rfl, ?_, _, rfl, ?_, ?_⟩
    · decide +kernel
    · decide +kernel
    · decide +kernel
  obtain ⟨a, ha, hat, link, hs, hk, hdue⟩ := hlate
  have hruin := Agent.Ruin.ackTimeout hat hs hdue
  rw [hk] at hruin
  exact ⟨tally_injective, ruined_of_turn _ _ tally_injective _ ha hruin⟩

end Client

end LiveQuery
