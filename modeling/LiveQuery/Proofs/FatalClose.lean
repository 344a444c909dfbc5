import LiveQuery.Proofs.Stranded

/-!
# When a close ends the session

After the server closed the socket in use, the fate of its agent is settled: `Link.fate` tells it
from the timers and from what the agent has not read. The session opens no further socket, and is
over once the agents have settled, exactly if that fate is final (`Client.stays_closed_iff`). A
close frame with a fatal code is not enough: a ping before it, or a timer that is due, makes the
agent send first, the send fails, and the failure counts as a loss (`Client.reopens_after_ping`).
-/

namespace LiveQuery

/-- Does a fate end the session, given the retry budget and the reconnects so far? -/
def Fate.isFinal (budget attempt : Nat) : Fate → Bool
  | .ended => true
  | .lost acknowledged => budget ≤ if acknowledged then 0 else attempt

namespace Client

variable {c c' : Client} {a : Agent} {link : Link} {e : Event}

/-- What comes of an agent whose server is gone. -/
def fate (c : Client) (link : Link) : Fate :=
  link.fate c.board.now (c.board.unread link.socket)

/-- The stranded agent has come closer to its fate. -/
structure Nearer (c : Client) (link : Link) (c' : Client) (link' : Link) : Prop where
  fate : c'.fate link' = c.fate link
  settings : c'.board.settings = c.board.settings
  shorter : (c'.board.unread link'.socket).length < (c.board.unread link.socket).length ∨
    (c'.board.unread link'.socket).length = (c.board.unread link.socket).length ∧
      (c'.board.session.outgoing.getD []).length < (c.board.session.outgoing.getD []).length

/-- What a turn of a stranded agent comes to. -/
inductive Drift (c : Client) (a : Agent) (link : Link) (c' : Client) : Prop
  /-- Its fate is final, and the session is over. -/
  | meets (hfinal : (c.fate link).isFinal c.board.settings.maxReconnects a.attempt = true)
      (hp : c'.phase = .notStarted)
  /-- Its fate is not final, and it waits for its next attempt. -/
  | waits (hnot : (c.fate link).isFinal c.board.settings.maxReconnects a.attempt = false)
      (hbackoff : ∃ b ∈ c'.agents, b.told = false ∧ ∃ due, b.stage = .backoff due)
  /-- It comes closer to its fate. -/
  | nears {link' : Link} (h : c'.Stranded { a with stage := .serving link' } link')
      (hnearer : c.Nearer link c' link')

namespace Stranded

/-- A turn of a stranded agent meets its fate or comes closer to it. -/
theorem turn (h : c.Stranded a link) (hc : c.Coherent) {pre post : List Agent} {t : Turn}
    (ht : a.turn c.board = some t)
    (hc' : c' = { c with agents := pre ++ (t.1.toList ++ post), board := t.2 }) :
    c'.board.opens = c.board.opens ∧ c.Drift a link c' := by
  subst hc'
  have hcur := (hc.agents a h.mem).isOutdated h.told
  have hebb := h.ebb hc ht
  cases hebb with
  | ended hfate hstuck htraffic herror =>
    have hended : c.fate link = .ended := hfate
    refine ⟨(Switchboard.commit_opens ..).trans htraffic.opens, .meets ?_ ?_⟩
    · rw [hended]
      rfl
    · show (Switchboard.commit _ _).session.phase = _
      rw [Switchboard.commit_session, Session.terminate_phase]
  | lost hfate hstuck htraffic =>
    rename_i news sb' error
    have hlost : c.fate link = .lost link.acknowledged := hfate
    have hin : sb'.isOutdated a.epoch = false := by rw [htraffic.isOutdated, hcur]
    -- the budget decides whether a loss is final
    by_cases hbudget : sb'.settings.maxReconnects ≤ if link.acknowledged then 0 else a.attempt
    · rw [Agent.lose_of_exhausted hin error hbudget]
      refine ⟨(Switchboard.commit_opens ..).trans htraffic.opens, .meets ?_ ?_⟩
      · rw [htraffic.settings] at hbudget
        rw [hlost]
        exact decide_eq_true hbudget
      · show (Switchboard.commit _ _).session.phase = _
        rw [Switchboard.commit_session, Session.terminate_phase]
    · obtain ⟨due, retries, hlose⟩ :=
        Agent.lose_of_budget hin error rfl (Nat.lt_of_not_le hbudget)
      rw [hlose]
      refine ⟨?_, .waits ?_ ?_⟩
      · exact (sb'.withSession_opens (sb'.session.suspend sb'.listening)).trans
          htraffic.opens
      · rw [htraffic.settings] at hbudget
        rw [hlost]
        exact decide_eq_false hbudget
      · exact ⟨_, mem_turned.2 (Or.inr rfl), h.told, due, rfl⟩
  | drain hcalm hout hexchange hdead hunread =>
    rename_i m rest arrived sb' error
    have hunread' : (sb'.abandon m error).unread link.socket = c.board.unread link.socket :=
      (Switchboard.abandon_unread ..).trans hunread
    have hnow : (sb'.abandon m error).now = c.board.now :=
      (Switchboard.abandon_now ..).trans hexchange.now
    refine ⟨(Switchboard.abandon_opens ..).trans hexchange.opens,
      .nears ⟨mem_turned.2 (Or.inr rfl), h.told, rfl, hdead.abandon m error⟩ ⟨?_,
        (Switchboard.abandon_settings ..).trans hexchange.settings, Or.inr ⟨?_, ?_⟩⟩⟩
    · unfold fate
      rw [hunread', hnow]
    · rw [hunread']
    · dsimp only
      rw [Switchboard.abandon_outgoing, hexchange.session, hout]
      exact Nat.lt_succ_self _
  | read hcalm hout hunread hsocket hcalm' hdead hunread' hmessages hkept hfate hstays hack =>
    rename_i f rest link' sb'
    obtain ⟨hnow, hopens, hsettings⟩ := hkept
    refine ⟨hopens, .nears ⟨mem_turned.2 (Or.inr rfl), h.told, rfl, hsocket ▸ hdead⟩
      ⟨?_, hsettings, Or.inl ?_⟩⟩
    · unfold fate
      dsimp only
      rw [hsocket, hunread', hunread, hnow, Link.fate_of_calm hcalm', Link.fate_of_calm hcalm,
        hfate]
    · dsimp only
      rw [hsocket, hunread', hunread]
      exact Nat.lt_succ_self _

/-- Left to themselves the agents bring a stranded one to its fate. If that is not final, it waits
for its next attempt. -/
theorem works_backoff {c : Client} {a : Agent} {link : Link} (h : c.Stranded a link)
    (hc : c.Coherent)
    (hfate : (c.fate link).isFinal c.board.settings.maxReconnects a.attempt = false) :
    ∃ c', c.Works c' ∧ c'.board.opens = c.board.opens ∧
      ∃ b ∈ c'.agents, b.told = false ∧ ∃ due, b.stage = .backoff due := by
  obtain ⟨t, ht⟩ := Agent.turn_of_dead h.serving h.dead
  obtain ⟨pre, post, hagents⟩ := List.append_of_mem h.mem
  have hwork := works_turn hagents ht
  have hc' := hc.works hwork
  obtain ⟨hopens, hdrift⟩ := h.turn hc ht rfl
  cases hdrift with
  | meets hfinal =>
    rw [hfate] at hfinal
    cases hfinal
  | waits hnot hbackoff => exact ⟨_, hwork, hopens, hbackoff⟩
  | nears hstranded hnearer =>
    -- there is less left to read, or as much and less to send
    have hshorter := hnearer.shorter
    obtain ⟨c'', hworks, hopens', hb⟩ := hstranded.works_backoff hc' (by
      rw [hnearer.fate, hnearer.settings]
      exact hfate)
    exact ⟨c'', hwork.trans hworks, hopens'.trans hopens, hb⟩
termination_by ((c.board.unread link.socket).length,
  (c.board.session.outgoing.getD []).length)
decreasing_by
  exact Prod.lex_def.2 hshorter

end Stranded

/-! ## If the fate is not final -/

/-- Left to themselves the agents that were told to stop leave, and nothing else happens. -/
theorem works_untold {c : Client} (hc : c.Coherent) : ∃ c', c.Works c' ∧
    c'.board.opens = c.board.opens ∧ (∀ b ∈ c'.agents, b.told = false) ∧
      ∀ b ∈ c.agents, b.told = false → b ∈ c'.agents := by
  by_cases htold : ∀ b ∈ c.agents, b.told = false
  · exact ⟨c, .refl c, rfl, htold, fun _ hb _ => hb⟩
  · obtain ⟨b, hb, hbt⟩ : ∃ b ∈ c.agents, b.told = true := by
      by_contra hnone
      exact htold fun b hb => Bool.eq_false_iff.2 fun hbt => hnone ⟨b, hb, hbt⟩
    obtain ⟨t, ht⟩ := Agent.turn_of_told hbt c.board
    obtain ⟨pre, post, hagents⟩ := List.append_of_mem hb
    obtain ⟨hnone, htraffic⟩ := ((hc.agents b hb).move ht).of_told hbt
    have hwork := works_turn hagents ht
    have hopens : t.2.opens = c.board.opens := by
      rcases htraffic with heq | ⟨link, news, -, htraffic⟩
      · rw [heq]
      · exact htraffic.opens
    obtain ⟨c', hworks, hopens', hall, hkept⟩ := works_untold (hc.works hwork)
    refine ⟨c', hwork.trans hworks, hopens'.trans hopens, hall, fun x hx hxt => hkept x ?_ hxt⟩
    rw [hagents] at hx
    refine mem_turned.2 (Or.inl ?_)
    rcases List.mem_append.1 hx with hx | hx
    · exact List.mem_append_left _ hx
    · rcases List.mem_cons.1 hx with rfl | hx
      · rw [hbt] at hxt
        cases hxt
      · exact List.mem_append_right _ hx
termination_by c.agents.length
decreasing_by
  rw [hagents, hnone]
  simp

/-- An agent that waits for its next attempt asks for a socket now or stays in the way of a
session that has not started. -/
theorem works_reopen (hc : c.Coherent) {b : Agent} {due : Nat} (hb : b ∈ c.agents)
    (hbt : b.told = false) (hs : b.stage = .backoff due) : ∃ c', c.Works c' ∧
      (c.board.opens < c'.board.opens ∨ c'.isSettled = true ∧ c'.phase ≠ .notStarted) := by
  obtain ⟨c₁, hworks, hopens, huntold, hkept⟩ := works_untold hc
  have hc₁ := hc.works hworks
  obtain ⟨pre, post, hagents⟩ := List.append_of_mem (hkept b hb hbt)
  by_cases hdue : due ≤ c₁.board.now
  · have hwake : b.turn c₁.board = some (some { b with stage := .ready }, c₁.board) := by
      rw [Agent.turn_of_backoff hbt hs, if_pos hdue]
    have hwoken := works_turn hagents hwake
    have hc₂ := hc₁.works hwoken
    have hmem : ({ b with stage := .ready } : Agent) ∈
        pre ++ ((some { b with stage := .ready } : Option Agent).toList ++ post) :=
      mem_turned.2 (Or.inr rfl)
    have hcur : c₁.board.isOutdated b.epoch = false := (hc₂.agents _ hmem).isOutdated hbt
    have hask : ({ b with stage := .ready } : Agent).turn c₁.board =
        some (({ b with stage := .ready } : Agent).openSocket c₁.board) := rfl
    have hopened := @works_turn
      { c₁ with agents := pre ++ { b with stage := .ready } :: post } pre post _ rfl _ hask
    refine ⟨_, hworks.trans (hwoken.trans hopened), Or.inl ?_⟩
    unfold Agent.openSocket
    dsimp only
    rw [hcur, hbt, ← hopens]
    exact Nat.lt_succ_self _
  · refine ⟨c₁, hworks, Or.inr ⟨isSettled_iff.2 fun x hx => ?_, ?_⟩⟩
    · have hxb : x = b := by
        by_contra hne
        have htold := hc₁.told_of_other hagents hbt (other_of_ne hagents hx hne)
        rw [huntold x hx] at htold
        cases htold
      rw [hxb]
      rw [Agent.turn_of_backoff hbt hs, if_neg hdue]
    · exact (hc₁.agents b (hkept b hb hbt)).started hbt

/-! ## If the fate is final -/

/-- The session is over, or a stranded agent will end it. -/
structure Ending (c : Client) (opens : Nat) : Prop where
  opens : c.board.opens = opens
  close : c.phase = .notStarted ∨ ∃ a link, c.Stranded a link ∧
    (c.fate link).isFinal c.board.settings.maxReconnects a.attempt = true

/-- A session that has not started stays so until somebody starts it. -/
theorem notStarted_step (hp : c.phase = .notStarted) (hc : c.Coherent) (he : e.starts = false)
    (hstep : Step e c c') : c'.phase = .notStarted ∧ c'.board.opens = c.board.opens := by
  have hstarts (hstarts : e.starts = true) : False := by
    rw [he] at hstarts
    cases hstarts
  cases hstep with
  | quiet hq => exact ⟨by rwa [phase, hq.session], hq.opens⟩
  | touch ht => exact ⟨hp, rfl⟩
  | launch hs => exact (hstarts hs).elim
  | enlist hs => exact (hstarts hs).elim
  | refuse hs => exact (hstarts hs).elim
  | withdraw hcancels hx hcancelled =>
    refine ⟨?_, ?_⟩
    · rw [phase, withdrawn_session, Session.withdraw_phase]
      exact hp
    · rw [withdrawn_eq, Switchboard.withSession_opens]
  | halt hne => exact absurd hp hne
  | turn hagents ht hturn =>
    rename_i a o board
    have hfits := hc.agents a (mem_of_split hagents)
    have hat : a.told = true := by
      by_contra hat
      exact hfits.started (Bool.eq_false_iff.2 hat) hp
    have hmove := hfits.move ht
    have hsession := ((hmove.outcome hfits hc.session).told hat).2
    refine ⟨by rwa [phase, hsession], ?_⟩
    rcases (hmove.of_told hat).2 with heq | ⟨link, news, -, htraffic⟩
    · exact congrArg Switchboard.opens heq
    · exact htraffic.opens
  | pass _ => exact ⟨hp, rfl⟩

namespace Ending

variable {opens : Nat}

theorem step (h : c.Ending opens) (hc : c.Coherent) (hpass : e ≠ .pass) (he : e.starts = false)
    (hfault : e.isFault = false) (hstep : Step e c c') : c'.Ending opens := by
  rcases h.close with hp | ⟨a, link, hstranded, hfinal⟩
  · obtain ⟨hp', hopens⟩ := notStarted_step hp hc he hstep
    exact ⟨hopens.trans h.opens, Or.inl hp'⟩
  · rcases past_of_step hc hstranded.mem hstranded.told hpass hfault hstep with
      ⟨rfl, hp⟩ | hpast | ⟨pre, post, t, hagents, ht, hc'⟩
    · exact ⟨(Switchboard.commit_opens ..).trans h.opens, Or.inl (halted_phase hp)⟩
    · obtain ⟨hstranded', hunread⟩ := hstranded.past hpast
      refine ⟨hpast.opens.trans h.opens, Or.inr ⟨a, link, hstranded', ?_⟩⟩
      have hfate : c'.fate link = c.fate link := by
        unfold fate
        rw [hpast.now, hunread]
      rw [hfate, hpast.settings]
      exact hfinal
    · obtain ⟨hopens, hdrift⟩ := hstranded.turn hc ht hc'
      refine ⟨hopens.trans h.opens, ?_⟩
      cases hdrift with
      | meets _ hp => exact Or.inl hp
      | waits hnot =>
        rw [hfinal] at hnot
        cases hnot
      | nears hstranded' hnearer =>
        refine Or.inr ⟨_, _, hstranded', ?_⟩
        rw [hnearer.fate, hnearer.settings]
        exact hfinal

theorem phase_of_settled (h : c.Ending opens) (hsettled : c.isSettled = true) :
    c.phase = .notStarted := by
  rcases h.close with hp | ⟨a, link, hstranded, -⟩
  · exact hp
  · exact absurd hsettled hstranded.not_settled

/-- Whatever happens, as long as nobody starts the session. -/
theorem run (h : c.Ending opens) (hc : c.Coherent) {es : List Event} (htime : c.OnTime es)
    (hes : ∀ e ∈ es, e.starts = false ∧ e.isFault = false) : (c.run es).Ending opens := by
  induction es generalizing c with
  | nil => exact h
  | cons e es ih =>
    obtain ⟨hsettled, htime⟩ := htime
    obtain ⟨he, hfault⟩ := hes e (List.mem_cons_self ..)
    refine ih ?_ (hc.perform e) htime fun e' he' => hes e' (List.mem_cons_of_mem _ he')
    by_cases hpass : e = .pass
    · subst hpass
      exact ⟨h.opens, Or.inl (h.phase_of_settled (hsettled rfl))⟩
    · have hboth := perform_induction (e := e) (P := fun c => c.Coherent ∧ c.Ending opens)
        (fun c c' hc hstep => ⟨hc.1.step hstep, hc.2.step hc.1 hpass he hfault hstep⟩) ⟨hc, h⟩
      exact hboth.2

end Ending

/-- When a close ends the session. Suppose that after some run the server closes the socket in use.
Then whatever happens afterwards, as long as nobody starts the session, the client opens no further
socket and has not started once it is settled, if and only if the fate of the agent is final: by its
timers and the frames it has not read, the close frame last. -/
theorem stays_closed_iff (settings : Settings) (transport : Transport) {newId : Nat → String}
    (hid : Function.Injective newId) (es : List Event) {link : Link} (frame : CloseFrame)
    (hlink : ((create settings transport newId).run es).currentLink? = some link)
    (hserver :
      (((create settings transport newId).run es).board.line link.socket).pair.server = true)
    (hfaults :
      (((create settings transport newId).run es).board.line link.socket).recvFaults = []) :
    let c := (create settings transport newId).run es
    (∀ es', (c.perform (.serverClose link.socket frame)).OnTime es' →
        (∀ e ∈ es', e.starts = false ∧ e.isFault = false) →
        let c' := (c.perform (.serverClose link.socket frame)).run es'
        c'.board.opens = c.board.opens ∧ (c'.isSettled = true → c'.phase = .notStarted)) ↔
      (link.fate c.board.now (c.board.unread link.socket ++ [.close frame])).isFinal
        c.board.settings.maxReconnects c.attempt = true := by
  intro c
  have hc : c.Coherent := coherent_run settings transport hid es
  obtain ⟨a, hattempt, hstranded, hunread⟩ := stranded_of_close hc hlink hserver hfaults frame
  have hc₁ := hc.perform (.serverClose link.socket frame)
  have hperform : c.perform (.serverClose link.socket frame) =
      c.modifyLine link.socket fun l => { l with pair := l.pair.serverClose frame } :=
    if_pos hserver
  have hopens : (c.perform (.serverClose link.socket frame)).board.opens = c.board.opens := by
    rw [hperform]
    rfl
  have hsettings : (c.perform (.serverClose link.socket frame)).board.settings =
      c.board.settings := by
    rw [hperform]
    rfl
  have hnow : (c.perform (.serverClose link.socket frame)).board.now = c.board.now := by
    rw [hperform]
    rfl
  have hfate : (c.perform (.serverClose link.socket frame)).fate link =
      link.fate c.board.now (c.board.unread link.socket ++ [.close frame]) := by
    unfold fate
    rw [hnow, hunread]
  rw [← hfate, ← hattempt, ← hsettings, ← hopens]
  generalize c.perform (.serverClose link.socket frame) = c₁ at hstranded hc₁
  constructor
  · intro hclosed
    by_contra hnot
    obtain ⟨c₂, hworks, hopens₂, b, hb, hbt, due, hs⟩ :=
      hstranded.works_backoff hc₁ (Bool.eq_false_iff.2 hnot)
    obtain ⟨c₃, hworks', hbad⟩ := works_reopen (hc₁.works hworks) hb hbt hs
    obtain ⟨es', hes', rfl⟩ := hworks.trans hworks'
    obtain ⟨hsame, hended⟩ := hclosed es' (onTime_of_turns hes') fun e he =>
      Event.quiet_of_isTurn (hes' e he)
    rcases hbad with hmore | ⟨hsettled, hp⟩
    · omega
    · exact hp (hended hsettled)
  · intro hfinal es' htime hes'
    have hending : c₁.Ending c₁.board.opens := ⟨rfl, Or.inr ⟨a, link, hstranded, hfinal⟩⟩
    have hlast := hending.run hc₁ htime hes'
    exact ⟨hlast.opens, hlast.phase_of_settled⟩

/-- A fatal close ends a session that has read everything else. -/
theorem stays_closed_when_read : Function.Injective tally ∧ ∃ link,
    ((create untimed {} tally).run
      (greeting ++ [acknowledgment, .turn 0, .turn 0])).currentLink? = some link ∧
    ∀ es', (((create untimed {} tally).run (greeting ++ [acknowledgment, .turn 0, .turn 0])).perform
        (.serverClose link.socket ⟨.unauthorized, "Unauthorized"⟩)).OnTime es' →
      (∀ e ∈ es', e.starts = false ∧ e.isFault = false) →
      ((((create untimed {} tally).run
        (greeting ++ [acknowledgment, .turn 0, .turn 0])).perform
          (.serverClose link.socket ⟨.unauthorized, "Unauthorized"⟩)).run es').board.opens = 1 := by
  have hsome : ((create untimed {} tally).run
      (greeting ++ [acknowledgment, .turn 0, .turn 0])).currentLink?.isSome = true := by
    decide +kernel
  obtain ⟨link, hlink⟩ := Option.isSome_iff_exists.1 hsome
  have hholds : ((create untimed {} tally).run
      (greeting ++ [acknowledgment, .turn 0, .turn 0])).currentLink?.all (fun link =>
        let c := (create untimed {} tally).run (greeting ++ [acknowledgment, .turn 0, .turn 0])
        (c.board.line link.socket).pair.server && (c.board.line link.socket).recvFaults.isEmpty &&
          (link.fate c.board.now (c.board.unread link.socket ++
            [.close ⟨.unauthorized, "Unauthorized"⟩])).isFinal
              c.board.settings.maxReconnects c.attempt) = true := by
    decide +kernel
  have hopens : ((create untimed {} tally).run
      (greeting ++ [acknowledgment, .turn 0, .turn 0])).board.opens = 1 := by
    decide +kernel
  rw [hlink, Option.all_some, Bool.and_eq_true, Bool.and_eq_true] at hholds
  obtain ⟨⟨hserver, hfaults⟩, hfinal⟩ := hholds
  refine ⟨tally_injective, link, hlink, fun es' htime hes' => ?_⟩
  rw [← hopens]
  exact ((stays_closed_iff _ _ tally_injective _ _ hlink hserver
    (List.isEmpty_iff.1 hfaults)).2 hfinal es' htime hes').1

/-- A ping in front of a fatal close: the pong cannot be sent, and the client connects again. -/
theorem reopens_after_ping :
    let c := (create untimed {} tally).run (greeting ++ [acknowledgment, .turn 0, .turn 0,
      .serverSend 0 (.text (Message.ping none).encode)])
    let closed := c.perform (.serverClose 0 ⟨.unauthorized, "Unauthorized"⟩)
    let es' := .turn 0 :: List.replicate 10 .pass ++ [.turn 0, .turn 0]
    c.currentLink?.map Link.socket = some 0 ∧ CloseCode.unauthorized.disposition = .fatal ∧
      closed.OnTime es' ∧ (∀ e ∈ es', e.starts = false ∧ e.isFault = false) ∧
        c.board.opens = 1 ∧ (closed.run es').board.opens = 2 := by
  decide +kernel

end Client

end LiveQuery
