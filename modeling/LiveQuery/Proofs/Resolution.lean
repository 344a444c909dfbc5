import LiveQuery.Proofs.Answers
import LiveQuery.Proofs.Budget
import LiveQuery.Proofs.Changes
import LiveQuery.Proofs.Phases
import LiveQuery.Proofs.Ruin

/-!
# How a handshake is resolved

The handshake of a session that a call starts waits while the session connects, whatever sockets are
lost meanwhile, and gets one result (`Client.resolves_run`): the payload of the first acknowledgment
that the agent of the session reads, or, if the session ends before, the error with which it ends
for everybody. One event makes it wait on, or accepts it, or rejects it (`Client.reply_perform`),
which makes up what has become of it after any number of events (`Client.decided_run`). Agents of
other sessions have no say: they were told to stop and read nothing.
-/

namespace LiveQuery

namespace Client

variable {c c' : Client} {e : Event}

/-! ## What becomes of a handshake that waits -/

/-- A client that some run leads to. -/
def Reached (c : Client) : Prop := ∃ settings transport newId es, Function.Injective newId ∧
  c = (create settings transport newId).run es

namespace Reached

theorem run (h : c.Reached) (es : List Event) : (c.run es).Reached := by
  obtain ⟨settings, transport, newId, es', hid, rfl⟩ := h
  exact ⟨settings, transport, newId, es' ++ es, hid, (run_append ..).symm⟩

theorem coherent (h : c.Reached) : c.Coherent := by
  obtain ⟨settings, transport, newId, es, hid, rfl⟩ := h
  exact coherent_run settings transport hid es

theorem answering (h : c.Reached) : Answering c.board := by
  obtain ⟨settings, transport, newId, es, hid, rfl⟩ := h
  exact (answering_create settings transport newId).run (coherent_create settings transport hid) es

theorem passage (h : c.Reached) (e : Event) : c.Passage e := by
  obtain ⟨settings, transport, newId, es, hid, rfl⟩ := h
  exact (legalPaths_run settings transport hid es).passage e

end Reached

/-- What ends a session, and with which error. -/
inductive EndsWith (c : Client) (e : Event) : ConnectionError → Prop
  | stopped (hstop : c.isStop e = true) : EndsWith c e .stopped
  | ruined {a : Agent} {error : ConnectionError} {farewell : Option CloseFrame} {k : Nat}
      {sb : Switchboard} (he : c.TurnOf a e) (hruin : a.Ruin c.board error farewell k sb) :
      EndsWith c e error
  | exhausted {a : Agent} {error : ConnectionError} {acknowledged : Bool} {sb : Switchboard}
      (he : c.TurnOf a e) (hloss : a.Loss c.board error acknowledged sb)
      (hbudget : c.board.settings.maxReconnects ≤ if acknowledged then 0 else a.attempt) :
      EndsWith c e (.retriesExhausted (if acknowledged then 0 else a.attempt) error)

/-- The end of a session is the end for everybody. -/
theorem EndsWith.concluded {error : ConnectionError} (h : c.EndsWith e error) (hreached : c.Reached)
    (hp : c.phase ≠ .notStarted) : Concluded error c (c.perform e) := by
  obtain ⟨settings, transport, newId, es, hid, rfl⟩ := hreached
  cases h with
  | stopped hstop => exact (cut_off settings transport hid es e hp hstop).conclusion
  | ruined he hruin =>
    obtain ⟨place, rfl, ha, -⟩ := he
    exact (ruined_of_turn settings transport hid es ha hruin).conclusion
  | exhausted he hloss hbudget =>
    obtain ⟨place, rfl, ha, -⟩ := he
    have hreckoned := (retry_budget settings transport hid es).losses ha hloss
    have hsettings := (metered_run settings transport hid es fun h : False => h.elim).2.2
    rw [hsettings] at hbudget
    exact (hreckoned.exhausted (hreckoned.within.antisymm hbudget)).1

/-- What was read, and what is read in an event. -/
theorem readings_perform (c : Client) (e : Event) :
    (c.perform e).board.readings = c.board.readings ++ c.reads e := by
  rcases c.reads_cases e with hsilent | ⟨a, link, frame, rest, hread⟩
  · rw [reads_of_readings (hsilent.trans (List.append_nil _).symm), hsilent, List.append_nil]
  · rw [reads_of_readings hread.readings, hread.readings]

/-- The agent of a session that connects reads an acknowledgment. -/
theorem acknowledge_of_reads (hc : c.Coherent) (hp : c.phase = .connecting) {a : Agent}
    {link : Link} {frame : Frame} {rest : List Frame} {payload : Option Json.Members}
    (hread : c.ReadsIn e a link frame rest)
    (hitem : Incoming.ofFrame frame = .ok (.message (.connectionAck payload))) :
    c.reads e = [(link.socket, .ok (.message (.connectionAck payload)))] ∧
      ∃ sb : Switchboard, sb.session = c.board.session ∧
        sb.handshakes = c.board.handshakes ∧
        (c.perform e).board = sb.commit (sb.session.acknowledge sb.listening payload) := by
  have hfits := hc.agents a hread.agent
  have hat := hread.reads.told
  have hack : link.acknowledged = false := by
    refine Bool.eq_false_iff.2 fun hacked => ?_
    have hphase := (hfits.acknowledged hat).2 (by
      unfold Agent.isAcknowledged
      rw [hread.reads.stage]
      exact hacked)
    rw [phase, hphase] at hp
    cases hp
  have hreadings := hread.readings
  have hboard := hread.board
  rw [hitem] at hreadings hboard
  refine ⟨reads_of_readings hreadings, c.board.hear link.socket
    (.ok (.message (.connectionAck payload))) rest, rfl, rfl, ?_⟩
  rw [hboard]
  have hcur : (c.board.hear link.socket (.ok (.message (.connectionAck payload))) rest).isOutdated
      a.epoch = false := hfits.isOutdated hat
  show (a.receive _ _ (.connectionAck payload)).2 = _
  unfold Agent.receive
  dsimp only
  have hheard : (link.heard (c.board.hear link.socket
      (.ok (.message (.connectionAck payload))) rest).now).acknowledged = false := hack
  rw [if_neg (by rw [hheard]; exact Bool.false_ne_true), Switchboard.acknowledge, hcur]
  rfl

/-- The agent of the session that reads a frame in its turn. -/
theorem readsIn_of_turnOf {a : Agent} {link : Link} {frame : Frame} {rest : List Frame}
    (he : c.TurnOf a e) (hreads : a.Reads c.board link frame rest) :
    c.ReadsIn e a link frame rest := by
  obtain ⟨place, rfl, ha, -⟩ := he
  exact readsIn_of_reads ha hreads

/-- Who is on the list waits for a session that connects. -/
theorem connecting_of_listed (hc : c.Coherent) {h : Nat}
    (hmem : h ∈ c.board.session.handshakes) : c.phase = .connecting := by
  cases hp : c.phase with
  | connecting => rfl
  | notStarted =>
    rw [(hc.session.idle hp).2.2] at hmem
    cases hmem
  | acknowledged =>
    rw [(hc.session.served hp).2] at hmem
    cases hmem

/-- An acknowledgment that is read is the result of everybody who waits. -/
theorem resultOf_of_reads (hc : c.Coherent) (howing : Owing c.board) {h : Nat}
    (hmem : h ∈ c.board.session.handshakes) {k : Nat} {payload : Option Json.Members}
    (hread : (k, .ok (.message (.connectionAck payload))) ∈ c.reads e) :
    (c.perform e).phase = .acknowledged ∧
      (c.perform e).board.resultOf h = some (.ok payload) := by
  obtain ⟨a, link, frame, rest, hin, -, hframe⟩ := readsIn_of_mem hread
  obtain ⟨-, sb, hsession, hhandshakes, hboard⟩ :=
    acknowledge_of_reads hc (connecting_of_listed hc hmem) hin hframe
  obtain ⟨x, hx, -⟩ := (howing h).1 hmem
  constructor
  · rw [phase, hboard, Switchboard.commit_session, Session.acknowledge_phase]
  · rw [Switchboard.resultOf, hboard, Switchboard.commit_handshakes, hhandshakes, hx,
      Session.acknowledge_outcome, hsession, if_pos hmem]
    rfl

/-- As long as a session connects it keeps its list and its epoch. -/
theorem list_of_change {s : Session} (hchange : c.Change e s) (hs : s.phase = .connecting) :
    s.handshakes = c.board.session.handshakes ∧ s.epoch = c.board.session.epoch := by
  cases hchange with
  | still | sent hout => exact ⟨rfl, rfl⟩
  | taken operation he hallow hlistening =>
    exact ⟨Session.subscribe_handshakes .., Session.subscribe_epoch ..⟩
  | cancelled he => exact ⟨Session.cancel_handshakes .., Session.cancel_epoch ..⟩
  | halted hstop | ended error =>
    rw [Session.terminate_phase] at hs
    cases hs
  | lost => exact ⟨Session.suspend_handshakes .., Session.suspend_epoch ..⟩
  | unsent hout hid hfails error =>
    exact ⟨Session.endOne_handshakes .., Session.endOne_epoch ..⟩
  | acknowledged _ payload =>
    rw [Session.acknowledge_phase] at hs
    cases hs
  | routed hreads hitem => exact ⟨Session.route_handshakes .., Session.route_epoch ..⟩
  | endedOne hreads hid => exact ⟨Session.endOne_handshakes .., Session.endOne_epoch ..⟩

/-- The end of a session is the result of a handshake without one. -/
theorem ShutDown.resultOf {error : ConnectionError} (hend : ShutDown error c c') {h : Nat}
    (hknown : h < c.board.handshakes.length) (hnone : c.board.resultOf h = none) :
    c'.board.resultOf h = some (.error error) := by
  have hget := List.getElem?_eq_getElem hknown
  rw [Switchboard.resultOf, hget, Option.bind_some] at hnone
  rw [Switchboard.resultOf, hend.results, hget]
  simp [hnone]

/-- What an event does to a handshake that waits. -/
inductive Reply (c : Client) (h : Nat) (e : Event) : Prop
  /-- It still waits, for the same session, and no acknowledgment was read. -/
  | waits (hmem : h ∈ (c.perform e).board.session.handshakes)
      (hepoch : (c.perform e).board.session.epoch = c.board.session.epoch)
      (hsilent : ∀ k payload, (k, .ok (.message (.connectionAck payload))) ∉ c.reads e)
  /-- The agent of its session reads an acknowledgment, whose payload is the result. -/
  | accepted {a : Agent} {k : Nat} {payload : Option Json.Members} (he : c.TurnOf a e)
      (hsocket : a.socket? = some k)
      (hreads : c.reads e = [(k, .ok (.message (.connectionAck payload)))])
      (hphase : (c.perform e).phase = .acknowledged)
      (hresult : (c.perform e).board.resultOf h = some (.ok payload))
  /-- Its session ends, and the error is the result. -/
  | rejected {error : ConnectionError} (hends : c.EndsWith e error)
      (hend : Concluded error c (c.perform e))
      (hresult : (c.perform e).board.resultOf h = some (.error error))

theorem reply_of_steady (hc : c.Coherent) (howing : Owing c.board) {h : Nat}
    (hmem : h ∈ c.board.session.handshakes) (hsteady : Steady c (c.perform e)) :
    c.Reply h e := by
  have hp := connecting_of_listed hc hmem
  have hstarted : c.phase ≠ .notStarted := by
    rw [hp]
    nofun
  obtain ⟨hlist, hepoch⟩ :=
    list_of_change (changes_perform hc hstarted e).change (hsteady.phase.trans hp)
  refine .waits (hlist ▸ hmem) hepoch fun k payload hread => ?_
  -- an acknowledgment would have changed the phase
  have hphase := (resultOf_of_reads hc howing hmem hread).1
  rw [hsteady.phase, hp] at hphase
  cases hphase

/-- What an event does to a handshake that waits, by cases on what it does to the phase. -/
theorem reply_perform (hreached : c.Reached) {h : Nat} (hmem : h ∈ c.board.session.handshakes)
    (e : Event) : c.Reply h e := by
  have hc := hreached.coherent
  have howing := hreached.answering.owing
  have hp := connecting_of_listed hc hmem
  have hstarted : c.phase ≠ .notStarted := by
    rw [hp]
    nofun
  have hknown : h < c.board.handshakes.length := by
    obtain ⟨x, hx, -⟩ := (howing h).1 hmem
    exact (List.getElem?_eq_some_iff.1 hx).1
  have hends {error : ConnectionError} (hends : c.EndsWith e error) : c.Reply h e := by
    have hend := hends.concluded hreached hstarted
    exact .rejected hends hend (hend.resultOf hknown (howing.resultOf hmem))
  cases hreached.passage e with
  | stays hsteady => exact reply_of_steady hc howing hmem hsteady
  | begins hallow he hshift => exact absurd hshift.old hstarted
  | loses he hloss hbudget hshift =>
    rw [hshift.old] at hp
    cases hp
  | ends hallow he hp hshift =>
    refine hends (.stopped ?_)
    cases e with
    | stop => exact hallow
    | dropHandle => exact decide_eq_true he
    | _ => exact he.elim
  | fails he hruin hp hshift => exact hends (.ruined he hruin)
  | exhausts he hloss hbudget hp hshift => exact hends (.exhausted he hloss hbudget)
  | acknowledges he hread hshift =>
    rename_i a link frame rest payload
    have hreads :=
      (acknowledge_of_reads hc hp (readsIn_of_turnOf he hread.reads) hread.item).1
    have hin : (link.socket, .ok (.message (.connectionAck payload))) ∈ c.reads e := by
      rw [hreads]
      exact List.mem_singleton_self _
    exact .accepted he (Agent.socket?_of_serving hread.reads.stage) hreads hshift.new
      (resultOf_of_reads hc howing hmem hin).2

/-- After some events the handshake has no result, its session still connects, and no acknowledgment
was read since. -/
structure Waits (c : Client) (h : Nat) (es : List Event) : Prop where
  listed : h ∈ (c.run es).board.session.handshakes
  unresolved : (c.run es).board.resultOf h = none
  connecting : (c.run es).phase = .connecting
  epoch : (c.run es).board.session.epoch = c.board.session.epoch
  silent : ∃ news, (c.run es).board.readings = c.board.readings ++ news ∧
    ∀ k payload, (k, .ok (.message (.connectionAck payload))) ∉ news

namespace Waits

variable {h : Nat} {es : List Event}

theorem nil (hreached : c.Reached) (hmem : h ∈ c.board.session.handshakes) : c.Waits h [] :=
  ⟨hmem, hreached.answering.owing.resultOf hmem, connecting_of_listed hreached.coherent hmem, rfl,
    [], (List.append_nil _).symm, fun _ _ => List.not_mem_nil⟩

theorem known (hwaits : c.Waits h es) (hreached : c.Reached) :
    h < (c.run es).board.handshakes.length := by
  obtain ⟨x, hx, -⟩ := ((hreached.run es).answering.owing h).1 hwaits.listed
  exact (List.getElem?_eq_some_iff.1 hx).1

theorem snoc (hwaits : c.Waits h es) (hreached : c.Reached)
    (hmem : h ∈ ((c.run es).perform e).board.session.handshakes)
    (hepoch : ((c.run es).perform e).board.session.epoch = (c.run es).board.session.epoch)
    (hsilent : ∀ k payload, (k, .ok (.message (.connectionAck payload))) ∉ (c.run es).reads e) :
    c.Waits h (es ++ [e]) := by
  have hrun : c.run (es ++ [e]) = (c.run es).perform e := run_append ..
  have hreached' : (c.run (es ++ [e])).Reached := hreached.run _
  rw [← hrun] at hmem hepoch
  obtain ⟨news, hnews, hno⟩ := hwaits.silent
  refine ⟨hmem, hreached'.answering.owing.resultOf hmem,
    connecting_of_listed hreached'.coherent hmem, hepoch.trans hwaits.epoch,
    news ++ (c.run es).reads e, ?_, fun k payload hin => ?_⟩
  · rw [hrun, readings_perform, hnews, List.append_assoc]
  · rcases List.mem_append.1 hin with hin | hin
    · exact hno k payload hin
    · exact hsilent k payload hin

end Waits

/-- What has become of a handshake after some events. -/
inductive Decided (c : Client) (h : Nat) (es : List Event) : Prop
  | waits (hwaits : c.Waits h es)
  /-- In one of the events the agent of its session read the first acknowledgment of the session,
  and the payload is the result. -/
  | accepted {before after : List Event} {e : Event} {a : Agent} {k : Nat}
      {payload : Option Json.Members} (hsplit : es = before ++ e :: after)
      (hwaits : c.Waits h before) (he : (c.run before).TurnOf a e) (hsocket : a.socket? = some k)
      (hreads : (c.run before).reads e = [(k, .ok (.message (.connectionAck payload)))])
      (hresult : (c.run es).board.resultOf h = some (.ok payload))
  /-- One of the events ended its session before any acknowledgment, and the error that everybody
  got is the result. -/
  | rejected {before after : List Event} {e : Event} {error : ConnectionError}
      (hsplit : es = before ++ e :: after) (hwaits : c.Waits h before)
      (hends : (c.run before).EndsWith e error)
      (hend : Concluded error (c.run before) (c.run (before ++ [e])))
      (hresult : (c.run es).board.resultOf h = some (.error error))

/-- What becomes of a handshake that waits, in every run. -/
theorem decided_run (hreached : c.Reached) {h : Nat} (hmem : h ∈ c.board.session.handshakes)
    (es : List Event) : c.Decided h es := by
  induction es using List.reverseRecOn with
  | nil => exact .waits (.nil hreached hmem)
  | append_singleton es e ih =>
    have hrun : c.run (es ++ [e]) = (c.run es).perform e := run_append ..
    have hreached' := hreached.run es
    -- a result stays
    have hstays {result : HandshakeOutcome} (hresult : (c.run es).board.resultOf h = some result) :
        (c.run (es ++ [e])).board.resultOf h = some result := by
      rw [hrun]
      exact hreached'.answering.resultOf_run hreached'.coherent hresult [e]
    cases ih with
    | waits hwaits =>
      cases reply_perform hreached' hwaits.listed e with
      | waits hmem hepoch hsilent => exact .waits (hwaits.snoc hreached hmem hepoch hsilent)
      | accepted he hsocket hreads hphase hresult =>
        exact .accepted rfl hwaits he hsocket hreads (hrun ▸ hresult)
      | rejected hends hend hresult =>
        exact .rejected rfl hwaits hends (hrun ▸ hend) (hrun ▸ hresult)
    | accepted hsplit hwaits he hsocket hreads hresult =>
      rename_i before after first _ _ _
      have hsplit' : es ++ [e] = before ++ first :: (after ++ [e]) := by
        rw [hsplit, List.append_assoc, List.cons_append]
      exact .accepted hsplit' hwaits he hsocket hreads (hstays hresult)
    | rejected hsplit hwaits hends hend hresult =>
      rename_i before after first _
      have hsplit' : es ++ [e] = before ++ first :: (after ++ [e]) := by
        rw [hsplit, List.append_assoc, List.cons_append]
      exact .rejected hsplit' hwaits hends hend (hstays hresult)

/-! ## The handshake of a start -/

/-- A call that starts a session, and the handshake that comes with it: the one that the call
returns, or the one that nobody gets to see if a subscription starts the session. -/
inductive Opens (c : Client) : Event → Nat → Prop
  | start {h : Nat} {c' : Client} (hstart : c.start = .ok (h, c')) : Opens c .start h
  | startWith {params : Except Json.Error Json.Value} {h : Nat} {c' : Client}
      (hstart : c.startWith params = .ok (h, c')) : Opens c (.startWith params) h
  | subscribe {operation : Operation} {c' : Client} (hp : c.phase = .notStarted)
      (hstart : c.ensureStarted = .ok c') :
      Opens c (.subscribe operation) c.board.handshakes.length

theorem startValue_opens {params : Option Json.Value} {h : Nat} {c' : Client}
    (hstart : c.startValue params = .ok (h, c')) : c.phase = .notStarted ∧
      h = c.board.handshakes.length ∧ ∃ checked held, c' = c.launched checked held := by
  obtain ⟨hp, checked, rfl⟩ := startValue_eq_ok hstart
  refine ⟨hp, ?_, checked, true, rfl⟩
  unfold startValue at hstart
  cases hparams : checkParams params with
  | error error =>
    rw [hparams] at hstart
    cases hstart
  | ok checked =>
    rw [hparams] at hstart
    dsimp only at hstart
    rw [startChecked_eq hp] at hstart
    exact (congrArg Prod.fst (Except.ok.inj hstart)).symm

/-- The handshake of a start is a new one, and the only one on the list. -/
theorem Opens.listed (hc : c.Coherent) (hallow : c.allows e = true) {h : Nat}
    (hopens : c.Opens e h) : h = c.board.handshakes.length ∧
      (c.perform e).board.session.handshakes = [h] := by
  have hperform : c.perform e = c.undergo e := if_pos hallow
  have hlaunched (hp : c.phase = .notStarted) (params : Option Json.Members) (held : Bool) :
      (c.launched params held).board.session.handshakes = [c.board.handshakes.length] := by
    rw [launched_session]
    refine (Session.moveTo_handshakes _ _).trans ?_
    rw [(hc.session.idle hp).2.2]
    rfl
  rw [hperform]
  cases hopens with
  | start hstart =>
    obtain ⟨hp, rfl, checked, held, rfl⟩ := startValue_opens hstart
    rw [undergo, hstart]
    exact ⟨rfl, hlaunched hp checked held⟩
  | startWith hstart =>
    rename_i params c'
    cases params with
    | error error => cases hstart
    | ok value =>
      obtain ⟨hp, rfl, checked, held, rfl⟩ := startValue_opens hstart
      rw [undergo, hstart]
      exact ⟨rfl, hlaunched hp checked held⟩
  | subscribe hp hstart =>
    rename_i operation c'
    obtain ⟨hp', -⟩ | ⟨-, params, rfl⟩ := ensureStarted_eq_ok hstart
    · exact absurd hp hp'
    · refine ⟨rfl, ?_⟩
      rw [undergo, subscribe_eq_enlisted hstart operation rfl (launched_consumers c params false),
        enlisted_session, Session.subscribe_handshakes]
      exact hlaunched hp params false

/-- How the handshake of a session is resolved that a call starts. -/
structure Resolves (c : Client) (e : Event) (h : Nat) : Prop where
  /-- It is a new handshake, and waits. -/
  fresh : h = c.board.handshakes.length ∧ (c.perform e).Waits h []
  /-- Whatever happens, either it still waits, and the session still connects and read no
  acknowledgment, or the first acknowledgment of the session has given it its payload, or the end
  of the session before any acknowledgment has given it the error that everybody got. -/
  decided : ∀ es, (c.perform e).Decided h es
  /-- A loss leaves it waiting as long as there is some budget left. -/
  lost : ∀ es, (c.perform e).Waits h es → ∀ place a,
    ((c.perform e).run es).agents[place]? = some a → ∀ error acknowledged sb,
      a.Loss ((c.perform e).run es).board error acknowledged sb → acknowledged = false ∧
        (a.attempt < ((c.perform e).run es).board.settings.maxReconnects →
          (c.perform e).Waits h (es ++ [.turn place]))
  /-- An acknowledgment that is read while it waits resolves it at once. -/
  acknowledged : ∀ es, (c.perform e).Waits h es → ∀ e' k payload,
    (k, .ok (.message (.connectionAck payload))) ∈ ((c.perform e).run es).reads e' →
      ((c.perform e).run (es ++ [e'])).board.resultOf h = some (.ok payload)
  /-- So does the end of the session. -/
  ended : ∀ es, (c.perform e).Waits h es → ∀ e' error,
    ShutDown error ((c.perform e).run es) ((c.perform e).run (es ++ [e'])) →
      ((c.perform e).run (es ++ [e'])).board.resultOf h = some (.error error)
  /-- It is resolved once, if at all. -/
  once : ∀ es, ((c.perform e).run es).board.resolutions h =
    (((c.perform e).run es).board.resultOf h).toList
  /-- Its result never changes. -/
  final : ∀ es es' result, ((c.perform e).run es).board.resultOf h = some result →
    ((c.perform e).run (es ++ es')).board.resultOf h = some result
  /-- Whenever it is dropped, everything happens as if it was not, but for its being held. -/
  dropped : ∀ es es', (c.perform e).run (es ++ .dropHandshake h :: es') =
    ((c.perform e).run (es ++ es')).dropHandshake h

theorem Resolves.of_opens (hreached : c.Reached) (hallow : c.allows e = true) {h : Nat}
    (hopens : c.Opens e h) : Resolves c e h := by
  obtain ⟨hfresh, hlist⟩ := hopens.listed hreached.coherent hallow
  have hreached₁ : (c.perform e).Reached := hreached.run [e]
  have hmem : h ∈ (c.perform e).board.session.handshakes := by
    rw [hlist]
    exact List.mem_singleton_self h
  have hrun (es : List Event) (e' : Event) :
      (c.perform e).run (es ++ [e']) = ((c.perform e).run es).perform e' := run_append ..
  refine ⟨⟨hfresh, .nil hreached₁ hmem⟩, decided_run hreached₁ hmem, ?_, ?_, ?_, ?_, ?_, ?_⟩
  · intro es hwaits place a ha error acknowledged sb hloss
    have hcoherent := (hreached₁.run es).coherent
    have hphase := phase_of_loss hcoherent (List.mem_of_getElem? ha) hloss
    rw [hwaits.connecting] at hphase
    cases acknowledged with
    | true => cases hphase
    | false =>
      refine ⟨rfl, fun hbudget => ?_⟩
      -- a loss within the budget keeps the phase
      have hsteady : Steady ((c.perform e).run es) (((c.perform e).run es).perform (.turn place)) :=
        by
          rcases passage_of_loss hcoherent ha hloss with ⟨hnone, -⟩ | ⟨-, -, hsteady⟩
          · exact absurd hbudget (Nat.not_lt.2 hnone)
          · exact hsteady rfl
      cases reply_of_steady hcoherent (hreached₁.run es).answering.owing hwaits.listed
          hsteady with
      | waits hmem hepoch hsilent => exact hwaits.snoc hreached₁ hmem hepoch hsilent
      | accepted he hsocket hreads hphase =>
        rw [hsteady.phase, hwaits.connecting] at hphase
        cases hphase
      | rejected hends hend =>
        have hphase := hend.phase
        rw [hsteady.phase, hwaits.connecting] at hphase
        cases hphase
  · intro es hwaits e' k payload hread
    rw [hrun]
    exact (resultOf_of_reads (hreached₁.run es).coherent (hreached₁.run es).answering.owing
      hwaits.listed hread).2
  · intro es hwaits e' error hend
    exact hend.resultOf (hwaits.known hreached₁) hwaits.unresolved
  · intro es
    exact (hreached₁.run es).answering.once h
  · intro es es' result hresult
    rw [run_append]
    exact (hreached₁.run es).answering.resultOf_run (hreached₁.run es).coherent hresult es'
  · intro es es'
    have hwaits : (c.perform e).Waits h [] := .nil hreached₁ hmem
    have hknown : h < ((c.perform e).run es).board.handshakes.length :=
      (hwaits.known hreached₁).trans_le
        (hreached₁.answering.length_run hreached₁.coherent es)
    rw [run_append, run_append, run_cons]
    exact run_dropHandshake (hreached₁.run es).coherent (hreached₁.run es).answering hknown es'

/-- **How a handshake is resolved**, in every run. -/
theorem resolves_run (settings : Settings) (transport : Transport) {newId : Nat → String}
    (hid : Function.Injective newId) (es : List Event) (e : Event) {h : Nat}
    (hallow : ((create settings transport newId).run es).allows e = true)
    (hopens : ((create settings transport newId).run es).Opens e h) :
    Resolves ((create settings transport newId).run es) e h :=
  .of_opens ⟨settings, transport, newId, es, hid, rfl⟩ hallow hopens

/-- A session that was stopped while its socket opened. -/
def falseStart : List Event := [.start, .turn 0, .turn 0, .stop]

/-- The next session, whose handshake the agent of the first one does not touch. -/
theorem resolves_after_falseStart : Function.Injective tally ∧
    Resolves ((create untimed {} tally).run falseStart) (.startWith (.ok .null)) 1 := by
  refine ⟨tally_injective, resolves_run _ _ tally_injective _ _ (by decide +kernel)
    (.startWith rfl)⟩

end Client

end LiveQuery
