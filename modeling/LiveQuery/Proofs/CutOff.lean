import LiveQuery.Proofs.Lifetime
import LiveQuery.Proofs.Unread

/-!
# A stop cuts the session off

A stop, or the drop of the last handle, ends the session at once, and leaves its agents nothing but
their farewell (`Client.cut_off`): everybody hears of the stop before the call returns, no socket is
asked for, nothing queued is sent, a socket in use gets one close frame as its last frame, and what
was left unread makes no difference, also if the session is started again before the agents have
had their last turn.
-/

namespace LiveQuery

namespace Client

variable {c : Client} {e : Event}

/-- Does an event stop the session? A stop does, and the drop of the last handle. -/
def isStop (c : Client) : Event → Bool
  | .stop => 0 < c.handles
  | .dropHandle => c.handles = 1
  | _ => false

theorem isStop_cases (h : c.isStop e = true) : e.isTurn = false ∧ e.line? = none := by
  cases e with
  | stop | dropHandle => exact ⟨rfl, rfl⟩
  | _ => cases h

/-- But for the handles, a stop halts the session. -/
theorem perform_of_isStop (hp : c.phase ≠ .notStarted) (h : c.isStop e = true) :
    ∃ handles, c.perform e = { c.halted with handles } := by
  cases e with
  | stop =>
    refine ⟨c.handles, ?_⟩
    have hallows : c.allows .stop = true := h
    unfold perform
    rw [if_pos hallows]
    exact if_neg hp
  | dropHandle =>
    have hlast : c.handles = 1 := by simpa [isStop] using h
    have hallows : c.allows .dropHandle = true := by simp [allows, hlast]
    refine ⟨0, ?_⟩
    unfold perform
    rw [if_pos hallows]
    unfold undergo dropHandle
    dsimp only
    rw [hlast, if_pos rfl]
    exact if_neg hp
  | _ => cases h

/-- Agents of the sessions up to an epoch are told, and were there. -/
structure Retired (c : Client) (epoch : Nat) (agents : List Agent) : Prop where
  session : epoch < c.board.session.epoch
  known : ∀ b ∈ c.agents, b.epoch ≤ epoch → b.told = true ∧ b ∈ agents

namespace Retired

variable {epoch : Nat} {agents : List Agent}

theorem step {c' : Client} (h : c.Retired epoch agents) (hc : c.Coherent) (hstep : Step e c c') :
    c'.Retired epoch agents := by
  -- the agents are the same, and the session has not gone back
  have hsame {board : Switchboard} (hepoch : c.board.session.epoch ≤ board.session.epoch) :
      ({ c with board } : Client).Retired epoch agents := ⟨h.session.trans_le hepoch, h.known⟩
  cases hstep with
  | quiet hq =>
    refine ⟨?_, ?_⟩
    · rw [hq.session]
      exact h.session
    · rw [hq.agents]
      exact h.known
  | touch | refuse | pass => exact hsame (le_refl _)
  | launch _ hp params held =>
    have hepoch : (c.launched params held).board.session.epoch = c.board.session.epoch + 1 := by
      rw [launched_session, Session.start_epoch]
    refine ⟨?_, fun b hb hbe => ?_⟩
    · rw [hepoch]
      exact h.session.trans (Nat.lt_succ_self _)
    · rcases List.mem_append.1 hb with hb | hb
      · exact h.known b hb hbe
      · -- the new agent has the epoch of the new session
        have hnew : b.epoch = (c.launched params held).board.session.epoch := by
          rw [List.mem_singleton.1 hb]
          rfl
        have hold := h.session
        omega
  | enlist =>
    refine hsame (le_of_eq ?_)
    rw [Switchboard.withSession_session, Session.subscribe_epoch]
  | withdraw =>
    rw [withdrawn_eq]
    refine hsame (le_of_eq ?_)
    rw [Switchboard.withSession_session, Session.withdraw_epoch]
  | halt hp =>
    refine ⟨?_, fun b hb hbe => ?_⟩
    · rw [halted_session hp, Session.terminate_epoch]
      exact h.session.trans (Nat.lt_succ_self _)
    · obtain ⟨a, ha, rfl⟩ := List.mem_map.1 hb
      by_cases hcur : a.epoch = c.board.session.epoch
      · rw [if_pos hcur] at hbe ⊢
        obtain ⟨hat, hmem⟩ := h.known a ha hbe
        refine ⟨rfl, ?_⟩
        rwa [← hat]
      · rw [if_neg hcur] at hbe ⊢
        exact h.known a ha hbe
  | turn hagents ht =>
    have hmem := mem_of_split hagents
    have hfits := hc.agents _ hmem
    have hout := (hfits.move ht).outcome hfits hc.session
    refine ⟨hout.advance.epoch ▸ h.session, fun b hb hbe => ?_⟩
    rcases mem_turned.1 hb with hb | hb
    · exact h.known b (mem_of_other hagents hb) hbe
    · -- a retired agent is gone after its turn
      have hae := (hout.successor b hb).epoch
      have hnone := (hout.told (h.known _ hmem (hae ▸ hbe)).1).1
      cases hnone.symm.trans hb

theorem run (h : c.Retired epoch agents) (hc : c.Coherent) (es : List Event) :
    (c.run es).Retired epoch agents := by
  have hall := run_induction (c := c) (P := fun c' => c'.Coherent ∧ c'.Retired epoch agents)
    (fun _ c₁ c₂ h₁ hstep => ⟨h₁.1.step hstep, h₁.2.step h₁.1 hstep⟩) ⟨hc, h⟩ es
  exact hall.2

end Retired

/-! ## The stop of a session -/

/-- What the stop of a session comes to. -/
structure CutOff (c : Client) (e : Event) : Prop where
  /-- Everybody hears of it before the call returns, and only of it. -/
  conclusion : Concluded .stopped c (c.perform e)
  /-- The agents of the session, and those of earlier ones, are told. Whenever one of them has its
  turn it has moved no further, and the turn is its farewell, which opens no socket and does nothing
  at all if the agent has none. -/
  farewell : ∀ es, ∀ b ∈ ((c.perform e).run es).agents, b.epoch ≤ c.board.session.epoch →
    let sb := ((c.perform e).run es).board
    (∃ a ∈ c.agents, b = { a with told := true }) ∧ b.turn sb = some (none, b.farewell sb) ∧
      (b.farewell sb).opens = sb.opens ∧ (b.farewell sb).lines.length = sb.lines.length ∧
        (b.socket? = none → b.farewell sb = sb)
  /-- No socket is asked for and none opens, until somebody starts a session. -/
  dormant : ∀ es, (∀ e' ∈ es, e'.starts = false) →
    ((c.perform e).run es).phase = .notStarted ∧
      ((c.perform e).run es).board.opens = c.board.opens ∧
        ((c.perform e).run es).board.lines.length = c.board.lines.length
  /-- A socket that an agent has was neither closed nor dropped. It gets one close frame and is
  dropped, and that is the last of it; it is done once the client is settled. The close frame
  arrives if the server is there and no send is made to fail. -/
  held : ∀ k ∈ c.agents.filterMap Agent.socket?, Unparted (c.board.dealings k) ∧
    ∀ es, Cut k (c.board.dealings k)
      ((c.board.line k).sendFault = none ∧ ∀ e' ∈ es, e'.isFault = false) ((c.perform e).run es) ∧
      (((c.perform e).run es).isSettled = true → ((c.perform e).run es).Released k)
  /-- The other sockets are left alone. -/
  others : ∀ k ∉ c.agents.filterMap Agent.socket?, k < c.board.lines.length →
    ∀ es, ((c.perform e).run es).board.dealings k = c.board.dealings k
  /-- If other frames had been left unread, everything would be the same, but for what waits on the
  socket until it is dropped. -/
  unread : ∀ k ∈ c.agents.filterMap Agent.socket?, ∀ frames es,
    Alike k ((c.perform e).run es) (((c.withUnread k frames).perform e).run es) ∧
      (((c.perform e).run es).isSettled = true →
        ((c.withUnread k frames).perform e).run es = (c.perform e).run es)

theorem CutOff.of_stop (hc : c.Coherent) (horderly : c.Orderly) (howing : Owing c.board)
    (hfirst : ∀ n, c.board.session.roster.feeds n = true →
      ∀ item ∈ c.board.channel n, item.isLast = false)
    (hp : c.phase ≠ .notStarted) (hstop : c.isStop e = true) : CutOff c e := by
  obtain ⟨hturn, hline⟩ := isStop_cases hstop
  obtain ⟨handles, hperform⟩ := perform_of_isStop hp hstop
  have hc₁ := hc.perform e
  have hapart := apart_perform (c := c) hturn
  have hlines := c.lines_perform hturn hline
  have hopens : (c.perform e).board.opens = c.board.opens := by
    rw [hperform]
    exact Switchboard.commit_opens ..
  -- whoever has a socket is on the way out
  have hleaving {k : Nat} (hk : k ∈ c.agents.filterMap Agent.socket?) :
      (c.perform e).Leaving k := by
    rw [← hapart.sockets] at hk
    obtain ⟨b, hb, hbk⟩ := List.mem_filterMap.1 hk
    refine ⟨b, hb, ?_, hbk⟩
    rw [hperform] at hb
    exact (told_of_halted hc hb).1
  have hretired : (c.perform e).Retired c.board.session.epoch (c.perform e).agents := by
    refine ⟨?_, fun b hb _ => ⟨?_, hb⟩⟩
    · rw [hperform, halted_session hp, Session.terminate_epoch]
      exact Nat.lt_succ_self _
    · rw [hperform] at hb
      exact (told_of_halted hc hb).1
  refine ⟨?_, fun es b hb hbe => ?_, fun es hes => ?_, fun k hk => ?_, fun k hk hbound es => ?_,
    fun k hk frames es => ?_⟩
  · refine ShutDown.concluded ?_ hc hc₁ hfirst
    rw [hperform]
    exact { shutDown_of_halt hc howing hp with }
  · obtain ⟨hbt, hmem⟩ := (hretired.run hc₁ es).known b hb hbe
    rw [hperform] at hmem
    obtain ⟨hopens', hlength⟩ := Agent.farewell_opens (a := b) ((c.perform e).run es).board
    exact ⟨(told_of_halted hc hmem).2, Agent.turn_of_told_eq _ hbt, hopens', hlength,
      Agent.farewell_of_idle _⟩
  · have hp₁ : (c.perform e).phase = .notStarted := by
      rw [hperform]
      exact halted_phase hp
    obtain ⟨hphase, hopens', hlength⟩ := dormant_run hc₁ hp₁ hes
    exact ⟨hphase, hopens'.trans hopens, hlength.trans hapart.length⟩
  · refine ⟨horderly.held k hk, fun es => ?_⟩
    have hcut : ((c.perform e).run es).Cut k (c.board.dealings k)
        ((c.board.line k).sendFault = none ∧ ∀ e' ∈ es, e'.isFault = false) := by
      refine Cut.run (.held (hleaving hk) (hapart.dealings k) fun hplain => ?_) hc₁ And.right
      have hsame : (c.perform e).board.line k = c.board.line k := by
        unfold Switchboard.line
        rw [hlines]
      rw [hsame]
      exact hplain.1
    refine ⟨hcut, fun hsettled => ?_⟩
    cases hcut with
    | held h => exact absurd hsettled h.not_settled
    | closed h => exact h
  · have hreleased : (c.perform e).Released k := by
      refine ⟨?_, ?_⟩
      · rw [hapart.length]
        exact hbound
      · rw [hapart.sockets]
        exact hk
    exact (hreleased.run hc₁ es).2.trans (hapart.dealings k)
  · have halike := Alike.run (Or.inr ⟨hleaving hk, frames, rfl⟩) hc₁ es
    rw [← perform_withUnread frames hturn hline] at halike
    refine ⟨halike, fun hsettled => ?_⟩
    rcases halike with heq | ⟨h, -⟩
    · exact heq
    · exact absurd hsettled h.not_settled

/-- After every run the stop of a session that has started cuts it off. -/
theorem cut_off (settings : Settings) (transport : Transport) {newId : Nat → String}
    (hid : Function.Injective newId) (es : List Event) (e : Event)
    (hp : ((create settings transport newId).run es).phase ≠ .notStarted)
    (hstop : ((create settings transport newId).run es).isStop e = true) :
    CutOff ((create settings transport newId).run es) e :=
  .of_stop (coherent_run settings transport hid es) (orderly_run settings transport hid es)
    (owing_run settings transport hid es) (results_of_fed settings transport hid es) hp hstop

/-- A stop while the acknowledgment is still unread. -/
theorem cut_off_before_acknowledgment : Function.Injective tally ∧
    0 ∈ ((create untimed {} tally).run (greeting ++ [acknowledgment])).agents.filterMap
      Agent.socket? ∧
    CutOff ((create untimed {} tally).run (greeting ++ [acknowledgment])) .stop :=
  ⟨tally_injective, by decide +kernel,
    cut_off _ _ tally_injective _ _ (by decide +kernel) (by decide +kernel)⟩

end Client

end LiveQuery
