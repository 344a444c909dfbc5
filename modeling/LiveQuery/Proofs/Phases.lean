import LiveQuery.Proofs.SocketLaws
import LiveQuery.Proofs.Pace
import LiveQuery.Proofs.Queue

/-!
# How the phase changes

The phase of a client moves along legal paths only (`Client.legalPaths_run`). Watchers see it as it
is, and every change of it once. What an event can do to it is a short list (`Client.Passage`): a
start or a subscription begins to connect, the first acknowledgment of the socket in use is read,
that socket is lost while the retry budget lasts, and the session ends by a stop, by the drop of the
last handle, by what ruins it, or by a loss that finds the budget used up. Nothing else changes the
phase (`Client.passage_perform`).

In particular an agent whose session has ended never changes it again, whatever is started in the
meantime (`Client.Bygone.run`).
-/

namespace LiveQuery

/-! ## What watchers see of a session -/

namespace Session

variable (s : Session) (listening : Nat → Bool)

theorem moveTo_watch (p : Phase) : (s.moveTo p).watch =
    if s.phase = p then s.watch else ⟨p, s.watch.version + 1⟩ := by
  unfold moveTo
  split <;> rfl

@[simp] theorem prune_watch : (s.prune listening).watch = s.watch := by rw [prune_eq]

@[simp] theorem subscribe_watch (id : String) (operation : Operation) (consumer : Nat) :
    (s.subscribe listening id operation consumer).watch = s.watch := by rw [subscribe_eq]

@[simp] theorem cancel_watch (id : String) : (s.cancel id).watch = s.watch := by
  cases h : s.roster.find? id with
  | none => rw [cancel_of_unknown s id h]
  | some e => rw [cancel_of_registered s id h]

@[simp] theorem withdraw_watch (x : Consumer) : (s.withdraw x).watch = s.watch := by
  rcases s.withdraw_cases x with h | h
  · rw [h, cancel_watch]
  · rw [h]

@[simp] theorem route_watch (id : String) (item : Item) :
    (s.route listening id item).1.watch = s.watch := by rw [route_eq]

@[simp] theorem endOne_watch (id : String) (error : SubscribeError) (notify : Bool) :
    (s.endOne id error notify).1.watch = s.watch := by
  cases h : s.roster.find? id with
  | none => rw [endOne_of_unknown s id error notify h]
  | some e => rw [endOne_of_registered s id error notify h]

theorem start_watch (handshake : Nat) : (s.start handshake).watch =
    if s.phase = .connecting then s.watch else ⟨.connecting, s.watch.version + 1⟩ :=
  moveTo_watch _ _

theorem terminate_watch (error : ConnectionError) : (s.terminate error).1.watch =
    if s.phase = .notStarted then s.watch else ⟨.notStarted, s.watch.version + 1⟩ :=
  moveTo_watch _ _

theorem acknowledge_watch (payload : Option Json.Members) :
    (s.acknowledge listening payload).1.watch =
      if s.phase = .acknowledged then s.watch else ⟨.acknowledged, s.watch.version + 1⟩ := by
  simp only [acknowledge, sendAll_eq, moveTo_watch, prune_phase, prune_watch]

theorem suspend_watch : (s.suspend listening).watch =
    if s.phase = .connecting then s.watch else ⟨.connecting, s.watch.version + 1⟩ := by
  simp only [suspend, prune_watch, moveTo_watch]

end Session

namespace Client

variable {c c' : Client} {e : Event}

/-! ## Changes of the phase -/

/-- The phase stays, and watchers see no change. -/
structure Steady (c c' : Client) : Prop where
  phase : c'.phase = c.phase
  watch : c'.watch = c.watch

/-- The phase changes, and watchers see one change. -/
structure Shifts (before after : Phase) (c c' : Client) : Prop where
  old : c.phase = before
  new : c'.phase = after
  watch : c'.watch = ⟨after, c.watch.version + 1⟩

/-- A call begins a session: nothing was started before, and the call succeeds. A subscription may
begin one only if the settings say so. -/
def Begins (c : Client) : Event → Prop
  | .start => ∃ number c', c.start = .ok (number, c')
  | .startWith params => ∃ number c', c.startWith params = .ok (number, c')
  | .subscribe _ => c.board.settings.startsOnDemand = true ∧ ∃ c', c.ensureStarted = .ok c'
  | _ => False

/-- A call ends the session: a stop, or the drop of the last handle. -/
def Ends (c : Client) : Event → Prop
  | .stop => True
  | .dropHandle => c.handles = 1
  | _ => False

/-- An event is the turn of the agent of the session as it is. -/
def TurnOf (c : Client) (a : Agent) (e : Event) : Prop :=
  ∃ place, e = .turn place ∧ c.agents[place]? = some a ∧ a.told = false ∧
    a.epoch = c.board.session.epoch

/-- The agent of the session reads the first acknowledgment of its socket. -/
structure Acknowledging (c : Client) (a : Agent) (link : Link) (frame : Frame)
    (rest : List Frame) (payload : Option Json.Members) : Prop where
  reads : a.Reads c.board link frame rest
  item : Incoming.ofFrame frame = .ok (.message (.connectionAck payload))
  first : ∀ earlier, .received link.socket (.ok (.message (.connectionAck earlier))) ∉
    c.board.dealings link.socket

/-- What an event can do to the phase. -/
inductive Passage (c : Client) (e : Event) : Prop
  | stays (h : Steady c (c.perform e))
  /-- A start or a subscription begins a session. -/
  | begins (hallow : c.allows e = true) (he : c.Begins e)
      (h : Shifts .notStarted .connecting c (c.perform e))
  /-- The server acknowledges on the socket in use, for the first time there. -/
  | acknowledges {a : Agent} {link : Link} {frame : Frame} {rest : List Frame}
      {payload : Option Json.Members} (he : c.TurnOf a e)
      (hread : c.Acknowledging a link frame rest payload)
      (h : Shifts .connecting .acknowledged c (c.perform e))
  /-- The acknowledged socket is lost, and there is a budget. -/
  | loses {a : Agent} {error : ConnectionError} {sb : Switchboard} (he : c.TurnOf a e)
      (hloss : a.Loss c.board error true sb) (hbudget : 0 < c.board.settings.maxReconnects)
      (h : Shifts .acknowledged .connecting c (c.perform e))
  /-- A caller ends the session. -/
  | ends (hallow : c.allows e = true) (he : c.Ends e) (hp : c.phase ≠ .notStarted)
      (h : Shifts c.phase .notStarted c (c.perform e))
  /-- The session is ruined. -/
  | fails {a : Agent} {error : ConnectionError} {farewell : Option CloseFrame} {k : Nat}
      {sb : Switchboard} (he : c.TurnOf a e) (hruin : a.Ruin c.board error farewell k sb)
      (hp : c.phase ≠ .notStarted) (h : Shifts c.phase .notStarted c (c.perform e))
  /-- The connection is lost, and the budget is used up. -/
  | exhausts {a : Agent} {error : ConnectionError} {acknowledged : Bool} {sb : Switchboard}
      (he : c.TurnOf a e) (hloss : a.Loss c.board error acknowledged sb)
      (hbudget : c.board.settings.maxReconnects ≤ if acknowledged then 0 else a.attempt)
      (hp : c.phase ≠ .notStarted) (h : Shifts c.phase .notStarted c (c.perform e))

namespace Steady

theorem refl (c : Client) : Steady c c := ⟨rfl, rfl⟩

theorem of_eq (h : c' = c) : Steady c c' := ⟨congrArg Client.phase h, congrArg Client.watch h⟩

theorem trans {c'' : Client} (h : Steady c c') (h' : Steady c' c'') : Steady c c'' :=
  ⟨h'.phase.trans h.phase, h'.watch.trans h.watch⟩

/-- The session stays as watchers see it. -/
theorem of_session (hphase : c'.board.session.phase = c.board.session.phase)
    (hwatch : c'.board.session.watch = c.board.session.watch) : Steady c c' := ⟨hphase, hwatch⟩

end Steady

/-! ## Calls -/

section Calls

theorem shifts_launched (hp : c.phase = .notStarted) (params : Option Json.Members)
    (held : Bool) : Shifts .notStarted .connecting c (c.launched params held) where
  old := hp
  new := c.launched_phase params held
  watch := by
    have hphase : c.board.session.phase ≠ .connecting := by
      intro hconnecting
      rw [phase] at hp
      rw [hp] at hconnecting
      cases hconnecting
    rw [watch, launched_session, Session.start_watch, if_neg hphase]
    rfl

theorem steady_enlisted (c : Client) (operation : Operation) :
    Steady c (c.enlisted operation) := by
  apply Steady.of_session
  · rw [enlisted_session, Session.subscribe_phase]
  · rw [enlisted_session, Session.subscribe_watch]

theorem Shifts.trans_steady {before after : Phase} {c'' : Client} (h : Shifts before after c c')
    (h' : Steady c' c'') : Shifts before after c c'' :=
  ⟨h.old, h'.phase.trans h.new, h'.watch.trans h.watch⟩

/-- A start that succeeds finds no session and launches one. -/
theorem startValue_eq_ok {params : Option Json.Value} {number : Nat} {c' : Client}
    (h : c.startValue params = .ok (number, c')) :
    c.phase = .notStarted ∧ ∃ checked, c' = c.launched checked true := by
  unfold startValue at h
  cases hparams : checkParams params with
  | error error =>
    rw [hparams] at h
    cases h
  | ok checked =>
    rw [hparams] at h
    dsimp only at h
    by_cases hp : c.phase = .notStarted
    · rw [startChecked_eq hp] at h
      cases h
      exact ⟨hp, checked, rfl⟩
    · rw [startChecked_eq_error hp] at h
      cases h

/-- Whether a subscription begins a session that has not started. -/
theorem ensureStarted_eq (hp : c.phase = .notStarted) : c.ensureStarted =
    if c.board.settings.startsOnDemand then
      match checkParams c.board.settings.params with
      | .error error => .error (.startFailed error)
      | .ok checked => .ok (c.launched checked false)
    else .error .notStarted := by
  unfold ensureStarted
  rw [if_neg (not_not.2 hp)]
  cases c.board.settings.startsOnDemand with
  | false => rfl
  | true =>
    cases checkParams c.board.settings.params with
    | error error => rfl
    | ok checked => simp [startChecked_eq hp]

/-- Without a start on demand a subscription starts nothing. -/
theorem startsOnDemand_of_ensureStarted (hp : c.phase = .notStarted)
    (h : c.ensureStarted = .ok c') : c.board.settings.startsOnDemand = true := by
  rw [ensureStarted_eq hp] at h
  by_contra hdemand
  rw [if_neg hdemand] at h
  cases h

theorem shifts_halted (hp : c.phase ≠ .notStarted) : Shifts c.phase .notStarted c c.halted where
  old := rfl
  new := halted_phase hp
  watch := by
    rw [watch, halted_session hp, Session.terminate_watch]
    exact if_neg hp

theorem steady_withdrawn (c : Client) (n : Nat) (x : Consumer) : Steady c (c.withdrawn n x) := by
  apply Steady.of_session
  · rw [withdrawn_session, Session.withdraw_phase]
  · rw [withdrawn_session, Session.withdraw_watch]

theorem steady_cancelByHandle (c : Client) (n : Nat) : Steady c (c.cancelByHandle n) := by
  rcases c.cancelByHandle_cases n with h | ⟨x, -, -, h⟩
  · rw [h]
    exact .refl c
  · rw [h]
    exact steady_withdrawn c n x

/-- A start changes nothing, or it begins a session. -/
theorem startValue_cases (c : Client) (params : Option Json.Value) :
    ((c.startValue params).toOption.map Prod.snd).getD c = c ∨
      ∃ number c', c.startValue params = .ok (number, c') ∧
        Shifts .notStarted .connecting c (((c.startValue params).toOption.map Prod.snd).getD c) := by
  cases h : c.startValue params with
  | error error => exact Or.inl rfl
  | ok result =>
    obtain ⟨number, c'⟩ := result
    obtain ⟨hp, checked, rfl⟩ := startValue_eq_ok h
    exact Or.inr ⟨number, _, rfl, shifts_launched hp checked true⟩

/-- A subscription keeps the phase, or it begins a session. -/
theorem phase_of_subscribe (c : Client) (operation : Operation) :
    Steady c (c.subscribe operation).2 ∨ c.Begins (.subscribe operation) ∧
      Shifts .notStarted .connecting c (c.subscribe operation).2 := by
  cases h : c.ensureStarted with
  | error error =>
    -- a subscription that is refused gets its error, and that is all
    left
    have hrefused : (c.subscribe operation).2 =
        (c.addRefused (c.newId c.board.consumers.length) error).2 := by
      unfold subscribe
      simp only [h]
    rw [hrefused]
    exact ⟨rfl, rfl⟩
  | ok c' =>
    rcases ensureStarted_eq_ok h with ⟨hp, rfl⟩ | ⟨hp, params, rfl⟩
    · left
      rw [subscribe_eq_enlisted h operation rfl rfl]
      exact steady_enlisted c' operation
    · right
      refine ⟨⟨startsOnDemand_of_ensureStarted hp h, _, h⟩, ?_⟩
      rw [subscribe_eq_enlisted h operation rfl (launched_consumers c params false)]
      exact (shifts_launched hp params false).trans_steady (steady_enlisted _ operation)

/-- A stop keeps the phase, or it ends the session. -/
theorem phase_of_stop (c : Client) :
    Steady c c.stop ∨ c.phase ≠ .notStarted ∧ Shifts c.phase .notStarted c c.stop := by
  unfold stop
  split
  · exact Or.inl (.refl c)
  · next hp => exact Or.inr ⟨hp, shifts_halted hp⟩

/-- The drop of a handle keeps the phase, or it is the last one and ends the session. -/
theorem phase_of_dropHandle (c : Client) (hheld : 0 < c.handles) : Steady c c.dropHandle ∨
    c.handles = 1 ∧ c.phase ≠ .notStarted ∧ Shifts c.phase .notStarted c c.dropHandle := by
  have hdrop : c.dropHandle =
      if c.handles - 1 = 0 then ({ c with handles := c.handles - 1 } : Client).stop
      else { c with handles := c.handles - 1 } := rfl
  by_cases hlast : c.handles - 1 = 0
  · rw [if_pos hlast] at hdrop
    rw [hdrop]
    -- the phase is that of the client with one handle less
    rcases phase_of_stop { c with handles := c.handles - 1 } with hsame | ⟨hp, hshift⟩
    · exact Or.inl ⟨hsame.phase, hsame.watch⟩
    · exact Or.inr ⟨by omega, hp, rfl, hshift.new, hshift.watch⟩
  · rw [if_neg hlast] at hdrop
    rw [hdrop]
    exact Or.inl ⟨rfl, rfl⟩

/-- What a call or the other end can do to the phase. -/
theorem passage_of_call (hallow : c.allows e = true) (he : e.isTurn = false) :
    c.Passage e := by
  have hperform : c.perform e = c.undergo e := if_pos hallow
  have hstays (h : Steady c (c.undergo e)) : c.Passage e := .stays (hperform ▸ h)
  have hbegins (hbegins : c.Begins e) (h : Shifts .notStarted .connecting c (c.undergo e)) :
      c.Passage e := .begins hallow hbegins (hperform ▸ h)
  have hends (hends : c.Ends e) (hp : c.phase ≠ .notStarted)
      (h : Shifts c.phase .notStarted c (c.undergo e)) : c.Passage e :=
    .ends hallow hends hp (hperform ▸ h)
  cases e with
  | start =>
    rcases c.startValue_cases c.board.settings.params with hsame | ⟨number, c', h, hshift⟩
    · exact hstays (.of_eq hsame)
    · exact hbegins ⟨number, c', h⟩ hshift
  | startWith params =>
    cases params with
    | error error => exact hstays (.refl c)
    | ok value =>
      rcases c.startValue_cases (some value) with hsame | ⟨number, c', h, hshift⟩
      · exact hstays (.of_eq hsame)
      · exact hbegins ⟨number, c', h⟩ hshift
  | subscribe operation =>
    rcases c.phase_of_subscribe operation with hsame | ⟨h, hshift⟩
    · exact hstays hsame
    · exact hbegins h hshift
  | stop =>
    rcases c.phase_of_stop with hsame | ⟨hp, hshift⟩
    · exact hstays hsame
    · exact hends trivial hp hshift
  | dropHandle =>
    rcases c.phase_of_dropHandle (of_decide_eq_true hallow) with hsame | ⟨hlast, hp, hshift⟩
    · exact hstays hsame
    · exact hends hlast hp hshift
  | cancel n => exact hstays ((c.steady_cancelByHandle n).trans ⟨rfl, rfl⟩)
  | cancelByHandle n => exact hstays (c.steady_cancelByHandle n)
  | poll n =>
    apply hstays
    rw [undergo, poll_eq_modify]
    exact ⟨rfl, rfl⟩
  | turn place => cases he
  | _ => exact hstays ⟨rfl, rfl⟩

end Calls

/-! ## Turns -/

section Turns

variable {a : Agent} {place : Nat} {t : Turn}

/-- After the turn of an agent the session is what the turn left. -/
theorem session_of_turn (ha : c.agents[place]? = some a) (ht : a.turn c.board = some t) :
    (c.perform (.turn place)).board = t.2 := by
  rw [perform_turn_of ha ht]

theorem steady_of_turn (ha : c.agents[place]? = some a) (ht : a.turn c.board = some t)
    (hphase : t.2.session.phase = c.board.session.phase)
    (hwatch : t.2.session.watch = c.board.session.watch) :
    Steady c (c.perform (.turn place)) := by
  have hboard := session_of_turn ha ht
  exact .of_session (by rw [hboard, hphase]) (by rw [hboard, hwatch])

theorem shifts_of_turn (ha : c.agents[place]? = some a) (ht : a.turn c.board = some t)
    {after : Phase} (hphase : t.2.session.phase = after)
    (hwatch : t.2.session.watch = ⟨after, c.board.session.watch.version + 1⟩) :
    Shifts c.phase after c (c.perform (.turn place)) := by
  have hboard := session_of_turn ha ht
  refine ⟨rfl, ?_, ?_⟩
  · rw [phase, hboard, hphase]
  · rw [watch, hboard, hwatch]
    rfl

/-- Giving up ends the session that there is. -/
theorem shifts_of_giveUp (ha : c.agents[place]? = some a) (ht : a.turn c.board = some t)
    (hp : c.phase ≠ .notStarted) {sb : Switchboard} {error : ConnectionError}
    (hsession : sb.session = c.board.session)
    (hgive : t = (none, sb.commit (sb.session.terminate error))) :
    Shifts c.phase .notStarted c (c.perform (.turn place)) := by
  apply shifts_of_turn ha ht
  · rw [hgive, Switchboard.commit_session, Session.terminate_phase]
  · rw [hgive, Switchboard.commit_session, Session.terminate_watch, hsession]
    exact if_neg hp

/-- A connection that is lost was acknowledged exactly if the session was, and otherwise the session
was connecting. -/
theorem phase_of_loss (hc : c.Coherent) (ha : a ∈ c.agents) {error : ConnectionError}
    {acknowledged : Bool} {sb : Switchboard} (hloss : a.Loss c.board error acknowledged sb) :
    c.phase = if acknowledged then .acknowledged else .connecting := by
  have hfits := hc.agents a ha
  have hacked := hfits.acknowledged hloss.told
  rw [hloss.isAcknowledged] at hacked
  have hstarted : c.phase ≠ .notStarted := hfits.started hloss.told
  cases hphase : c.phase with
  | notStarted => exact absurd hphase hstarted
  | acknowledged =>
    rw [hacked.1 hphase]
    rfl
  | connecting =>
    cases acknowledged with
    | false => rfl
    | true =>
      have hphase' : c.phase = .acknowledged := hacked.2 rfl
      rw [hphase'] at hphase
      cases hphase

/-- A loss exhausts the budget, or it loses an acknowledged socket, or it changes nothing. -/
theorem passage_of_loss (hc : c.Coherent) (ha : c.agents[place]? = some a)
    {error : ConnectionError} {acknowledged : Bool} {sb : Switchboard}
    (hloss : a.Loss c.board error acknowledged sb) :
    (c.board.settings.maxReconnects ≤ (if acknowledged then 0 else a.attempt) ∧
      Shifts c.phase .notStarted c (c.perform (.turn place))) ∨
    ((if acknowledged then 0 else a.attempt) < c.board.settings.maxReconnects ∧
      (acknowledged = true → Shifts .acknowledged .connecting c (c.perform (.turn place))) ∧
      (acknowledged = false → Steady c (c.perform (.turn place)))) := by
  have hmem := List.mem_of_getElem? ha
  have hfits := hc.agents a hmem
  have hat := hloss.told
  have ht := Agent.turn_of_loss hloss
  have hphase := phase_of_loss hc hmem hloss
  obtain ⟨hrest, -⟩ := hloss.rest hfits.bound
  have hsession : sb.session = c.board.session := by rw [hrest]
  have hsettings : sb.settings = c.board.settings := by rw [hrest]
  have hcur : sb.isOutdated a.epoch = false := by
    rw [hrest]
    exact hfits.isOutdated hat
  rw [← hsettings]
  rcases Nat.lt_or_ge (if acknowledged then 0 else a.attempt) sb.settings.maxReconnects
    with hbudget | hbudget
  · right
    refine ⟨hbudget, ?_⟩
    rw [Agent.lose_eq hcur error rfl hbudget] at ht
    -- the session that is lost connects again, whatever its phase was
    have hafter : (sb.session.suspend sb.listening).phase = .connecting := Session.suspend_phase ..
    have hwatch : (sb.session.suspend sb.listening).watch = if c.phase = .connecting
        then c.watch else ⟨.connecting, c.watch.version + 1⟩ := by
      rw [Session.suspend_watch, hsession]
      rfl
    constructor
    · rintro rfl
      have hacked : c.phase = .acknowledged := hphase
      have hshift : Shifts c.phase .connecting c (c.perform (.turn place)) := by
        apply shifts_of_turn ha ht
        · exact (congrArg Session.phase (Switchboard.withSession_session ..)).trans hafter
        · refine (congrArg Session.watch (Switchboard.withSession_session ..)).trans ?_
          rw [hwatch, hacked]
          rfl
      rwa [hacked] at hshift
    · rintro rfl
      have hconnecting : c.phase = .connecting := hphase
      apply steady_of_turn ha ht
      · exact (congrArg Session.phase (Switchboard.withSession_session ..)).trans
          (hafter.trans hconnecting.symm)
      · refine (congrArg Session.watch (Switchboard.withSession_session ..)).trans ?_
        rw [hwatch, if_pos hconnecting]
        rfl
  · left
    refine ⟨hbudget, ?_⟩
    exact shifts_of_giveUp ha ht (hfits.started hat) hsession
      (Agent.lose_of_exhausted hcur error hbudget)

/-- What ruins the session ends it. -/
theorem shifts_of_ruin (hc : c.Coherent) (ha : c.agents[place]? = some a)
    {error : ConnectionError} {farewell : Option CloseFrame} {k : Nat} {sb : Switchboard}
    (hruin : a.Ruin c.board error farewell k sb) :
    Shifts c.phase .notStarted c (c.perform (.turn place)) := by
  have hfits := hc.agents a (List.mem_of_getElem? ha)
  have hat := hruin.told
  obtain ⟨-, ⟨news, -, htraffic⟩, -⟩ := hruin.traffic hfits.bound
  obtain ⟨exit, -, hpart⟩ := sb.traffic_part k htraffic.bound farewell
  have hall := htraffic.trans hpart
  have hcur : (sb.part k farewell).isOutdated a.epoch = false := by
    rw [hall.isOutdated]
    exact hfits.isOutdated hat
  exact shifts_of_giveUp ha (Agent.turn_of_ruin hruin) (hfits.started hat) hall.session
    (Agent.giveUp_eq hcur error)

/-- A turn that adds an acknowledgment to what was read, on a socket without one, reads the first
there. -/
theorem acknowledging_of_readings {link : Link} (hs : a.stage = .serving link)
    (hfresh : ((c.board.record link.socket).any fun e => e.notice.acknowledges) = false)
    (ht : a.turn c.board = some t) {payload : Option Json.Members}
    (hreadings : t.2.readings =
      c.board.readings ++ [(link.socket, .ok (.message (.connectionAck payload)))]) :
    ∃ frame rest, c.Acknowledging a link frame rest payload := by
  rcases Agent.readings_of_turn ht with hsilent | ⟨own, frame, rest, hreads⟩
  · rw [hreadings] at hsilent
    exact absurd hsilent (by simp)
  · have hstage := hs.symm.trans hreads.stage
    cases hstage
    refine ⟨frame, rest, hreads, ?_, fun earlier hmem => ?_⟩
    · -- what was read is what the frame holds
      obtain rfl := Option.some.inj ((Agent.turn_of_reads hreads).symm.trans ht)
      rw [(Agent.background_attend ..).readings, Switchboard.hear_readings] at hreadings
      simpa using hreadings
    · rw [← Switchboard.any_dealings, List.any_eq_false] at hfresh
      exact hfresh _ hmem rfl

/-- A turn that goes on changes the phase only if it reads the first acknowledgment. -/
theorem passage_of_goesOn (hc : c.Coherent) (ha : c.agents[place]? = some a) (hat : a.told = false)
    (hacks : ∀ link, a.link? = some link → link.acknowledged =
      (c.board.record link.socket).any fun e => e.notice.acknowledges)
    (ht : a.turn c.board = some t) (h : Agent.GoesOn t) : c.Passage (.turn place) := by
  have hfits := hc.agents a (List.mem_of_getElem? ha)
  have hmove := hfits.move ht
  have hstays (hphase : t.2.session.phase = c.board.session.phase)
      (hwatch : t.2.session.watch = c.board.session.watch) : c.Passage (.turn place) :=
    .stays (steady_of_turn ha ht hphase hwatch)
  have hsame (hsession : t.2.session = c.board.session) : c.Passage (.turn place) :=
    hstays (by rw [hsession]) (by rw [hsession])
  obtain ⟨a', hsome, hstage⟩ := h
  cases hmove with
  | leave | hangUp | ended => cases hsome
  | retry =>
    obtain rfl := Option.some.inj hsome
    exact absurd rfl (hstage _)
  | ask | wake => exact hsame rfl
  | greet ht' hs hsocket hack h => exact hsame h.session
  | idle ht' hs hsocket hack h => exact hsame h.session
  | deliver ht' hs hout h =>
    have hsession := h.session
    exact hstays (by rw [hsession]) (by rw [hsession])
  | undeliverable ht' hs hout h error =>
    rename_i link m rest arrived sb
    have hsession := h.session
    rcases sb.abandon_cases m error with heq | ⟨id, -, heq⟩
    · exact hstays (by rw [heq, hsession]) (by rw [heq, hsession])
    · refine hstays ?_ ?_
      · rw [heq, Switchboard.commit_session, Session.endOne_phase, hsession]
      · rw [heq, Switchboard.commit_session, Session.endOne_watch, hsession]
  | route ht' hs hack hsocket hack' hitem h =>
    refine hstays ?_ ?_
    · rw [Switchboard.commit_session, Session.route_phase, h.session]
    · rw [Switchboard.commit_session, Session.route_watch, h.session]
  | endOne ht' hs hack hsocket hack' hid h =>
    refine hstays ?_ ?_
    · rw [Switchboard.commit_session, Session.endOne_phase, h.session]
    · rw [Switchboard.commit_session, Session.endOne_watch, h.session]
  | acknowledge ht' hs hack hsocket hack' h =>
    rename_i link link' payload sb
    -- the only turn that goes on and changes the phase
    have hphase : c.phase = .connecting :=
      hc.connecting_of_holds (hack ▸ Holds.of_mem (List.mem_of_getElem? ha) hat hs)
    have hne : c.board.session.phase ≠ .acknowledged := by
      intro hacked
      rw [phase, hacked] at hphase
      cases hphase
    have hshift : Shifts c.phase .acknowledged c (c.perform (.turn place)) := by
      apply shifts_of_turn ha ht
      · rw [Switchboard.commit_session, Session.acknowledge_phase]
      · rw [Switchboard.commit_session, Session.acknowledge_watch, h.session, if_neg hne]
    have hreadings : (sb.commit (sb.session.acknowledge sb.listening payload)).readings =
        c.board.readings ++ [(link.socket, .ok (.message (.connectionAck payload)))] := by
      rw [Switchboard.commit_readings, h.readings]
      rfl
    have hfresh := hacks link (Agent.link?_of_serving hs)
    rw [hphase] at hshift
    obtain ⟨frame, rest, hread⟩ :=
      acknowledging_of_readings hs (hfresh.symm.trans hack) ht hreadings
    exact .acknowledges ⟨place, rfl, ha, hat, hfits.current.1 hat⟩ hread hshift

/-- What an event can do to the phase. -/
theorem passage_perform (hc : c.Coherent)
    (hacks : ∀ a ∈ c.agents, ∀ link, a.link? = some link → link.acknowledged =
      (c.board.record link.socket).any fun e => e.notice.acknowledges) (e : Event) :
    c.Passage e := by
  by_cases hallow : c.allows e = true
  · by_cases he : e.isTurn = true
    · obtain ⟨place, rfl⟩ := Event.eq_turn_of_isTurn he
      have hnothing (h : c.turnAt place = c) : c.Passage (.turn place) := by
        apply Passage.stays
        rw [perform_turn, h]
        exact .refl c
      cases ha : c.agents[place]? with
      | none => exact hnothing (by unfold turnAt; rw [ha])
      | some a =>
        cases ht : a.turn c.board with
        | none => exact hnothing (by unfold turnAt; rw [ha]; dsimp only; rw [ht])
        | some t =>
          have hmem := List.mem_of_getElem? ha
          have hfits := hc.agents a hmem
          cases hat : a.told with
          | true =>
            -- an agent that was told to stop leaves the session alone
            have hsession := (((hfits.move ht).outcome hfits hc.session).told hat).2
            exact .stays (steady_of_turn ha ht (by rw [hsession]) (by rw [hsession]))
          | false =>
            have hp : c.phase ≠ .notStarted := hfits.started hat
            have hturn : c.TurnOf a (.turn place) := ⟨place, rfl, ha, hat, hfits.current.1 hat⟩
            cases Agent.verdict_of_turn hat (hfits.isOutdated hat) ht with
            | goesOn h => exact passage_of_goesOn hc ha hat (hacks a hmem) ht h
            | ruin h heq => exact .fails hturn h hp (shifts_of_ruin hc ha h)
            | loss h heq =>
              rename_i error acknowledged sb
              rcases passage_of_loss hc ha h with ⟨hbudget, hshift⟩ | ⟨hbudget, hacked, hunacked⟩
              · exact .exhausts hturn h hbudget hp hshift
              · cases acknowledged with
                | true => exact .loses hturn h hbudget (hacked rfl)
                | false => exact .stays (hunacked rfl)
    · exact passage_of_call hallow (Bool.eq_false_iff.2 he)
  · apply Passage.stays
    rw [show c.perform e = c from if_neg hallow]
    exact .refl c

end Turns

/-! ## Sessions that ended -/

section Bygone

variable {epoch : Nat}

theorem epoch_step (hc : c.Coherent) (hstep : Step e c c') :
    c.board.session.epoch ≤ c'.board.session.epoch := by
  cases hstep with
  | quiet hq => rw [hq.session]
  | touch | refuse | pass => exact le_refl _
  | launch =>
    rw [launched_session, Session.start_epoch]
    exact Nat.le_succ _
  | enlist => rw [enlisted_session, Session.subscribe_epoch]
  | withdraw => rw [withdrawn_session, Session.withdraw_epoch]
  | halt hp =>
    rw [halted_session hp, Session.terminate_epoch]
    exact Nat.le_succ _
  | turn hagents ht =>
    have hfits := hc.agents _ (mem_of_split hagents)
    exact ((hfits.move ht).outcome hfits hc.session).advance.epoch.ge

/-- The sessions up to an epoch have ended. -/
def Bygone (c : Client) (epoch : Nat) : Prop :=
  epoch < c.board.session.epoch ∨ epoch = c.board.session.epoch ∧ c.phase = .notStarted

namespace Bygone

/-- The agents of sessions that have ended were told to stop. -/
theorem told (h : c.Bygone epoch) {a : Agent} (hfits : a.Fits c.board) (hle : a.epoch ≤ epoch) :
    a.told = true := by
  cases hat : a.told with
  | true => rfl
  | false =>
    have hcurrent := hfits.current.1 hat
    rcases h with hlt | ⟨-, hp⟩
    · omega
    · exact absurd hp (hfits.started hat)

theorem step (h : c.Bygone epoch) (hc : c.Coherent) (hstep : Step e c c') : c'.Bygone epoch := by
  rcases h with hlt | ⟨rfl, hp⟩
  · exact Or.inl (hlt.trans_le (epoch_step hc hstep))
  · have hstays (hepoch : c'.board.session.epoch = c.board.session.epoch)
        (hphase : c'.board.session.phase = c.board.session.phase) :
        c'.Bygone c.board.session.epoch := Or.inr ⟨hepoch.symm, hphase.trans hp⟩
    cases hstep with
    | quiet hq => exact hstays (by rw [hq.session]) (by rw [hq.session])
    | touch | refuse | pass => exact hstays rfl rfl
    | launch =>
      left
      rw [launched_session, Session.start_epoch]
      exact Nat.lt_succ_self _
    | enlist _ hstarted => exact absurd hp hstarted
    | withdraw =>
      apply hstays
      · rw [withdrawn_session, Session.withdraw_epoch]
      · rw [withdrawn_session, Session.withdraw_phase]
    | halt hstarted => exact absurd hp hstarted
    | turn hagents ht =>
      -- every agent there is was told to stop
      have hfits := hc.agents _ (mem_of_split hagents)
      have hat := told (Or.inr ⟨rfl, hp⟩) hfits hfits.epoch
      have hsession := (((hfits.move ht).outcome hfits hc.session).told hat).2
      exact hstays (congrArg Session.epoch hsession) (congrArg Session.phase hsession)

theorem run (h : c.Bygone epoch) (hc : c.Coherent) (es : List Event) :
    (c.run es).Bygone epoch := by
  have hall := run_induction (c := c) (P := fun c' => c'.Coherent ∧ c'.Bygone epoch)
    (fun _ _ _ h hstep => ⟨h.1.step hstep, h.2.step h.1 hstep⟩) ⟨hc, h⟩ es
  exact hall.2

end Bygone

end Bygone

/-! ## Legal paths -/

/-- The phase moves along legal paths only. -/
structure LegalPaths (c : Client) : Prop where
  /-- Watchers see the phase as it is. -/
  watched : c.watch.value = c.phase
  /-- Whatever happens keeps the phase or changes it, once, in a legal way. -/
  passage : ∀ e, c.Passage e
  /-- Once a session has ended, none of its agents changes the phase, nor do those of the sessions
  before it, whatever happens in the meantime. -/
  bygone : c.phase = .notStarted → ∀ es place a, (c.run es).agents[place]? = some a →
    a.epoch ≤ c.board.session.epoch → Steady (c.run es) ((c.run es).perform (.turn place))
  /-- A second acknowledgment on a socket changes nothing. -/
  repeated : ∀ place a, c.agents[place]? = some a →
    ∀ link frame rest payload earlier, a.Reads c.board link frame rest →
    Incoming.ofFrame frame = .ok (.message (.connectionAck payload)) →
    .received link.socket (.ok (.message (.connectionAck earlier))) ∈
      c.board.dealings link.socket →
    Steady c (c.perform (.turn place))
  /-- Nor does a loss before the acknowledgment, if there is some budget left. -/
  retried : ∀ place a, c.agents[place]? = some a → ∀ error sb, a.Loss c.board error false sb →
    a.attempt < c.board.settings.maxReconnects → Steady c (c.perform (.turn place))

/-- What an event does to the phase, watchers see. -/
theorem Passage.watched (h : c.Passage e) (hwatch : c.watch.value = c.phase) :
    (c.perform e).watch.value = (c.perform e).phase := by
  have hsteady (h : Steady c (c.perform e)) :
      (c.perform e).watch.value = (c.perform e).phase := by
    rw [h.watch, h.phase, hwatch]
  have hshifts {before after : Phase} (h : Shifts before after c (c.perform e)) :
      (c.perform e).watch.value = (c.perform e).phase := by
    rw [h.watch, h.new]
  cases h with
  | stays h => exact hsteady h
  | begins _ _ h => exact hshifts h
  | acknowledges _ _ h => exact hshifts h
  | loses _ _ _ h => exact hshifts h
  | ends _ _ _ h => exact hshifts h
  | fails _ _ _ h => exact hshifts h
  | exhausts _ _ _ _ h => exact hshifts h

/-- The turn that reads an acknowledgment on an acknowledged socket changes nothing of the
session. -/
theorem steady_of_repeated {a : Agent} {place : Nat} {link : Link} {frame : Frame}
    {rest : List Frame} {payload : Option Json.Members} (ha : c.agents[place]? = some a)
    (hreads : a.Reads c.board link frame rest)
    (hitem : Incoming.ofFrame frame = .ok (.message (.connectionAck payload)))
    (hack : link.acknowledged = true) : Steady c (c.perform (.turn place)) := by
  have hturn := Agent.turn_of_reads hreads
  have hheard : a.attend (c.board.hear link.socket (Incoming.ofFrame frame) rest) link
      (Incoming.ofFrame frame) = a.serve
        (c.board.hear link.socket (Incoming.ofFrame frame) rest) (link.heard c.board.now) := by
    rw [hitem]
    exact if_pos hack
  rw [hheard] at hturn
  exact steady_of_turn ha hturn rfl rfl

/-- **The phase of a client moves along legal paths only**, in every run. -/
theorem legalPaths_run (settings : Settings) (transport : Transport) {newId : Nat → String}
    (hid : Function.Injective newId) (es : List Event) :
    ((create settings transport newId).run es).LegalPaths := by
  have hc (es : List Event) := coherent_run settings transport hid es
  have hacks (es : List Event) {a : Agent}
      (ha : a ∈ ((create settings transport newId).run es).agents) {link : Link}
      (hlink : a.link? = some link) :=
    (acknowledged_run settings transport hid es).live a ha link hlink
  have hpassage (es : List Event) (e : Event) :
      ((create settings transport newId).run es).Passage e :=
    passage_perform (hc es) (fun _ ha _ => hacks es ha) e
  refine ⟨?_, hpassage es, ?_, ?_, ?_⟩
  · induction es using List.reverseRecOn with
    | nil => rfl
    | append_singleton es e ih =>
      rw [run_append]
      exact (hpassage es e).watched ih
  · intro hp later place a ha hle
    have hbygone : Bygone ((create settings transport newId).run es) _ := Or.inr ⟨rfl, hp⟩
    have hlater := hbygone.run (hc es) later
    have hcoherent := (hc es).run later
    have hfits := hcoherent.agents a (List.mem_of_getElem? ha)
    have hat := hlater.told hfits hle
    have ht : a.turn (((create settings transport newId).run es).run later).board = _ :=
      Agent.turn_of_told_eq _ hat
    have hsession := (((hfits.move ht).outcome hfits hcoherent.session).told hat).2
    exact steady_of_turn ha ht (congrArg Session.phase hsession) (congrArg Session.watch hsession)
  · intro place a ha link frame rest payload earlier hreads hitem hearlier
    apply steady_of_repeated ha hreads hitem
    rw [hacks es (List.mem_of_getElem? ha) (Agent.link?_of_serving hreads.stage),
      ← Switchboard.any_dealings, List.any_eq_true]
    exact ⟨_, hearlier, rfl⟩
  · intro place a ha error sb hloss hbudget
    rcases passage_of_loss (hc es) ha hloss with ⟨hnone, -⟩ | ⟨-, -, hsteady⟩
    · exact absurd hbudget (Nat.not_lt.2 hnone)
    · exact hsteady rfl

theorem legalPaths_of_greeting : Function.Injective tally ∧
    ((create untimed {} tally).run greeting).LegalPaths :=
  ⟨tally_injective, legalPaths_run untimed {} tally_injective greeting⟩

end Client

end LiveQuery
