import LiveQuery.Proofs.Endings
import LiveQuery.Proofs.Handshakes

/-!
# The end of a session

What the end of a session does to everybody (`Client.ShutDown`): each subscription gets the error as
its last item, each handshake without a result gets it too, and nothing is left registered, waiting
or queued. A stop is such an end, and so is every turn in which the agent gives up
(`Client.shutDown_of_halt`, `Client.shutDown_of_giveUp`). A subscription that lost its entry gets
nothing afterwards (`Client.Unfed.run`).
-/

namespace LiveQuery

/-- Every registered subscription gets the error, and nobody else gets anything. -/
theorem Session.terminate_itemsFor (s : Session) (hr : s.roster.WellFormed) (hd : s.roster.Distinct)
    (error : ConnectionError) (n : Nat) : Effect.itemsFor (s.terminate error).2 n =
      if s.roster.feeds n then [.error (.connection error)] else [] := by
  have hclear : s.roster.Delivers { s.roster with entries := [] } true n
      (Effect.itemsFor (s.terminate error).2 n) := by
    rw [terminate_items]
    exact Roster.delivers_clear hr hd rfl true
  by_cases hfed : s.roster.feeds n = true
  · rw [if_pos hfed]
    obtain ⟨item, hitem, -⟩ := hclear.silent rfl hfed rfl
    obtain ⟨only, honly⟩ := hclear.eq_singleton (List.ne_nil_of_mem hitem)
    have hmem : only ∈ Effect.itemsFor (s.terminate error).2 n := by
      rw [honly]
      exact List.mem_singleton_self _
    rw [terminate_items] at hmem
    obtain ⟨-, -, rfl⟩ := List.mem_map.1 hmem
    exact honly
  · rw [if_neg hfed]
    by_contra hne
    exact hfed (hclear.fed hne)

namespace Client

variable {c c' : Client} {e : Event}

/-! ## Everybody hears of the end -/

/-- Between two states the session ended: every registered subscription has got the error as one
more item, every handshake without a result has got it too, and nothing is registered, waiting or
queued any more. -/
structure ShutDown (error : ConnectionError) (c c' : Client) : Prop where
  phase : c'.phase = .notStarted
  registered : c'.board.session.roster.entries = []
  pending : c'.board.session.pending = []
  outgoing : c'.board.session.outgoing = none
  handshakes : c'.board.session.handshakes = []
  consumers : ∀ n : Nat, c'.board.consumers[n]? = c.board.consumers[n]?.map
    (Consumer.feed (if c.board.session.roster.feeds n then [.error (.connection error)] else []))
  channel : ∀ n, c'.board.channel n = c.board.channel n ++
    if c.board.session.roster.feeds n && c.board.listening n then [.error (.connection error)]
    else []
  results : ∀ h : Nat, c'.board.handshakes[h]? = c.board.handshakes[h]?.map fun x =>
    { x with result := x.result.or (some (.error error)) }

theorem shutDown_of_terminate (hc : c.Coherent) (howing : Owing c.board) {sb : Switchboard}
    (h : c.board.Undelivered sb) (hhandshakes : sb.handshakes = c.board.handshakes) {s : Session}
    (hroster : s.roster = c.board.session.roster)
    (hlist : s.handshakes = c.board.session.handshakes) (error : ConnectionError)
    (hboard : c'.board = sb.commit (s.terminate error)) : ShutDown error c c' := by
  have hitems (n : Nat) : Effect.itemsFor (s.terminate error).2 n =
      if c.board.session.roster.feeds n then [.error (.connection error)] else [] := by
    rw [← hroster]
    refine s.terminate_itemsFor ?_ ?_ error n
    · rw [hroster]
      exact hc.session.roster
    · rw [hroster]
      exact hc.distinct
  constructor
  case phase =>
    rw [Client.phase, hboard, Switchboard.commit_session, Session.terminate_phase]
  case registered =>
    rw [hboard, Switchboard.commit_session, Session.terminate_roster]
  case pending =>
    rw [hboard, Switchboard.commit_session, Session.terminate_pending]
  case outgoing =>
    rw [hboard, Switchboard.commit_session, Session.terminate_outgoing]
  case handshakes =>
    rw [hboard, Switchboard.commit_session, Session.terminate_handshakes]
  case consumers =>
    intro n
    rw [hboard, Switchboard.commit_consumers, hitems, h.consumers]
  case channel =>
    intro n
    rw [hboard, Switchboard.commit_channel, hitems, h.channel, h.listening]
    cases c.board.session.roster.feeds n <;> cases c.board.listening n <;> rfl
  case results =>
    intro i
    rw [hboard, Switchboard.commit_handshakes, Session.terminate_outcome, hhandshakes, hlist]
    cases hx : c.board.handshakes[i]? with
    | none => rfl
    | some x =>
      by_cases hmem : i ∈ c.board.session.handshakes
      · obtain ⟨y, hy, hnone⟩ := (howing i).1 hmem
        rw [hx] at hy
        obtain rfl := Option.some.inj hy
        simp [Handshake.hear, hmem, hnone]
      · -- a handshake off the list has its result already
        cases hresult : x.result with
        | none => exact absurd ((howing i).2 ⟨x, hx, hresult⟩) hmem
        | some result => simp [Handshake.hear, hmem, hresult]

/-- A stop is the end of a session. -/
theorem shutDown_of_halt (hc : c.Coherent) (howing : Owing c.board) (hp : c.phase ≠ .notStarted) :
    ShutDown .stopped c c.halted :=
  shutDown_of_terminate (s := { c.board.session with epoch := c.board.session.epoch + 1 }) hc
    howing (.refl c.board) rfl rfl rfl .stopped (halted_board hp)

/-- An agent of the session that gives up ends the session. -/
theorem shutDown_of_giveUp (hc : c.Coherent) (howing : Owing c.board) {a : Agent}
    (hcur : c.board.isOutdated a.epoch = false) {sb : Switchboard} (h : c.board.Undelivered sb)
    (hhandshakes : sb.handshakes = c.board.handshakes) (hsession : sb.session = c.board.session)
    (error : ConnectionError) (hboard : c'.board = (a.giveUp sb error).2) :
    ShutDown error c c' := by
  have hin : sb.isOutdated a.epoch = false := by
    unfold Switchboard.isOutdated at hcur ⊢
    rwa [hsession]
  rw [Agent.giveUp_eq hin] at hboard
  exact shutDown_of_terminate hc howing h hhandshakes (by rw [hsession]) (by rw [hsession]) error
    hboard

/-! ## Subscriptions without an entry -/

/-- A subscription that has no entry. -/
structure Unfed (c : Client) (n : Nat) : Prop where
  known : n < c.board.consumers.length
  unfed : c.board.session.roster.feeds n = false

namespace Unfed

variable {n : Nat}

/-- Everything but the arrival of another subscription and the departure of an entry delivers. -/
theorem step (h : c.Unfed n) (hc : c.Coherent) (hstep : Step e c c') :
    c'.Unfed n ∧ c'.board.channel n = c.board.channel n := by
  suffices hunfed : c'.board.session.roster.feeds n = false ∧
      c'.board.channel n = c.board.channel n from
    ⟨⟨known_step hc hstep h.known, hunfed.1⟩, hunfed.2⟩
  -- an entry that was there before
  have hbefore {entry : Roster.Entry} (hentry : entry ∈ c.board.session.roster.entries)
      (hn : entry.consumer = n) : False := by
    have hfed := Roster.feeds_iff.2 ⟨entry, hentry, hn⟩
    rw [h.unfed] at hfed
    cases hfed
  cases hstep with
  | quiet hq => exact ((undelivered_of_quiet hq).delivery n).unfed h.unfed
  | touch | pass => exact ⟨h.unfed, rfl⟩
  | launch _ _ params held => exact ((undelivered_launch params held).delivery n).unfed h.unfed
  | enlist _ _ operation =>
    refine ⟨Bool.eq_false_iff.2 fun hfed => ?_, Switchboard.withSession_channel ..⟩
    rw [enlisted_session, Session.subscribe_roster, Roster.feeds_iff] at hfed
    obtain ⟨entry, hentry, hn⟩ := hfed
    rcases Roster.mem_insert.1 hentry with rfl | ⟨hentry, -⟩
    · -- the new entry feeds the new consumer
      exact h.known.ne' hn
    · exact hbefore (Roster.mem_prune.1 hentry).1 hn
  | refuse _ error =>
    have hother : Notice.item? n (.delivered c.board.consumers.length (.error error)) = none :=
      if_neg h.known.ne'
    refine ⟨h.unfed, (Switchboard.note_channel ..).trans ?_⟩
    rw [hother]
    exact List.append_nil _
  | withdraw he hx hcancelled =>
    rename_i m x
    refine ⟨Bool.eq_false_iff.2 fun hfed => ?_, ?_⟩
    · rw [withdrawn_session, Roster.feeds_iff] at hfed
      obtain ⟨entry, hentry, hn⟩ := hfed
      exact hbefore (c.board.session.mem_withdraw x hentry) hn
    · rw [withdrawn_eq]
      exact Switchboard.withSession_channel ..
  | halt hp =>
    obtain ⟨items, hd, -, -⟩ := delivery_halt hc hp n
    exact hd.unfed h.unfed
  | turn hagents ht =>
    obtain ⟨items, hd, -⟩ := ((hc.agents _ (mem_of_split hagents)).move ht).delivery hc n
    exact hd.unfed h.unfed

/-- A subscription without an entry gets nothing any more. -/
theorem run (h : c.Unfed n) (hc : c.Coherent) (es : List Event) :
    (c.run es).Unfed n ∧ (c.run es).board.channel n = c.board.channel n := by
  have hall := run_induction (c := c)
    (P := fun c' => c'.Coherent ∧ c'.Unfed n ∧ c'.board.channel n = c.board.channel n)
    (fun _ c₁ c₂ h₁ hstep => by
      obtain ⟨hunfed, hchannel⟩ := h₁.2.1.step h₁.1 hstep
      exact ⟨h₁.1.step hstep, hunfed, hchannel.trans h₁.2.2⟩) ⟨hc, h, rfl⟩ es
  exact hall.2

end Unfed

/-! ## One last item for everybody -/

/-- The session ended, and the error is the one last item of every subscription that was registered:
none came before, and nothing comes after it, whatever happens. -/
structure Concluded (error : ConnectionError) (c c' : Client) : Prop
    extends ShutDown error c c' where
  first : ∀ n, c.board.session.roster.feeds n = true →
    ∀ item ∈ c.board.channel n, item.isLast = false
  final : ∀ n, c.board.session.roster.feeds n = true →
    ∀ es, (c'.run es).board.channel n = c'.board.channel n

/-- After a run a subscription that is registered has had nothing but results. -/
theorem results_of_fed (settings : Settings) (transport : Transport) {newId : Nat → String}
    (hid : Function.Injective newId) (es : List Event) (n : Nat)
    (hfed : ((create settings transport newId).run es).board.session.roster.feeds n = true) :
    ∀ item ∈ ((create settings transport newId).run es).board.channel n, item.isLast = false := by
  have haccounted := accounted_run settings transport hid es n
  cases hx : ((create settings transport newId).run es).board.consumers[n]? with
  | none =>
    rw [(haccounted.unborn hx).1]
    exact fun item hitem => absurd hitem List.not_mem_nil
  | some x => exact (haccounted.accounts x hx).fed hfed

theorem ShutDown.concluded {error : ConnectionError} (h : ShutDown error c c') (hc : c.Coherent)
    (hc' : c'.Coherent) (hfirst : ∀ n, c.board.session.roster.feeds n = true →
      ∀ item ∈ c.board.channel n, item.isLast = false) : Concluded error c c' := by
  refine ⟨h, hfirst, fun n hfed es => ?_⟩
  have hunfed : c'.Unfed n := by
    constructor
    · obtain ⟨entry, hentry, rfl⟩ := Roster.feeds_iff.1 hfed
      obtain ⟨x, hx, -⟩ := hc.entries entry hentry
      have hsome := h.consumers entry.consumer
      rw [hx] at hsome
      exact (List.getElem?_eq_some_iff.1 hsome).1
    · refine Bool.eq_false_iff.2 fun hfed' => ?_
      obtain ⟨entry, hentry, -⟩ := Roster.feeds_iff.1 hfed'
      rw [h.registered] at hentry
      cases hentry
  exact (hunfed.run hc' es).2

end Client

end LiveQuery
