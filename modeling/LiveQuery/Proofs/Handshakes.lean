import LiveQuery.Proofs.Coherence

/-!
# Handshakes and their results

The result that effects have for a handshake (`Effect.outcomeFor`), and the invariant that the
session lists exactly the handshakes without a result (`Client.Owing`), kept by every event
(`Client.owing_perform`). An acknowledgment and the end of a session settle all of them.
-/

namespace LiveQuery

/-- A handshake that got a result, or got none. -/
def Handshake.hear (h : Handshake) (result : Option HandshakeOutcome) : Handshake :=
  { h with result := result.or h.result }

theorem Handshake.map_hear_none (h : Option Handshake) : h.map (·.hear none) = h := by
  cases h <;> rfl

namespace Effect

/-- The result that an effect has for a handshake. -/
def outcome? (handshake : Nat) : Effect → Option HandshakeOutcome
  | .resolve h result => if h = handshake then some result else none
  | .deliver .. => none

/-- The result that a handshake has after some effects. -/
def outcomeFor (effects : List Effect) (handshake : Nat) : Option HandshakeOutcome :=
  (effects.filterMap (outcome? handshake)).getLast?

theorem outcomeFor_cons (effect : Effect) (effects : List Effect) (h : Nat) :
    outcomeFor (effect :: effects) h = (outcomeFor effects h).or (effect.outcome? h) := by
  unfold outcomeFor
  cases heffect : effect.outcome? h with
  | none => rw [List.filterMap_cons_none heffect, Option.or_none]
  | some result =>
    rw [List.filterMap_cons_some heffect, List.getLast?_cons]
    cases (effects.filterMap (outcome? h)).getLast? <;> rfl

theorem outcomeFor_append (effects effects' : List Effect) (h : Nat) :
    outcomeFor (effects ++ effects') h = (outcomeFor effects' h).or (outcomeFor effects h) := by
  unfold outcomeFor
  rw [List.filterMap_append, List.getLast?_append]

theorem outcomeFor_deliver (entries : List Roster.Entry) (item : Item) (h : Nat) :
    outcomeFor (entries.map fun e => deliver e.consumer item) h = none := by
  have hnone : (entries.map fun e => deliver e.consumer item).filterMap (outcome? h) = [] := by
    simp [List.filterMap_eq_nil_iff, outcome?]
  unfold outcomeFor
  rw [hnone]
  rfl

theorem outcomeFor_resolve (handshakes : List Nat) (result : HandshakeOutcome) (h : Nat) :
    outcomeFor (handshakes.map fun i => resolve i result) h =
      if h ∈ handshakes then some result else none := by
  induction handshakes with
  | nil => rfl
  | cons i rest ih =>
    rw [List.map_cons, outcomeFor_cons, ih]
    by_cases hrest : h ∈ rest
    · simp [hrest]
    · by_cases hi : i = h
      · simp [hi, hrest, outcome?]
      · simp [hi, hrest, outcome?, Ne.symm hi]

end Effect

namespace Session

variable (s : Session) (h : Nat)

theorem terminate_outcome (error : ConnectionError) :
    Effect.outcomeFor (s.terminate error).2 h =
      if h ∈ s.handshakes then some (.error error) else none := by
  simp only [terminate, Roster.takeAll]
  rw [Effect.outcomeFor_append, Effect.outcomeFor_resolve, Effect.outcomeFor_deliver,
    Option.or_none]

theorem acknowledge_outcome (listening : Nat → Bool) (payload : Option Json.Members) :
    Effect.outcomeFor (s.acknowledge listening payload).2 h =
      if h ∈ s.handshakes then some (.ok payload) else none := by
  refine (Effect.outcomeFor_resolve _ (.ok payload) h).trans ?_
  rw [prune_handshakes]

theorem route_outcome (listening : Nat → Bool) (id : String) (item : Item) :
    Effect.outcomeFor (s.route listening id item).2 h = none :=
  Effect.outcomeFor_deliver (s.roster.find? id).toList item h

theorem endOne_outcome (id : String) (error : SubscribeError) (notify : Bool) :
    Effect.outcomeFor (s.endOne id error notify).2 h = none := by
  unfold endOne
  cases s.roster.find? id with
  | none => rfl
  | some e => exact Effect.outcomeFor_deliver [e] (.error error) h

@[simp] theorem cancel_handshakes (id : String) : (s.cancel id).handshakes = s.handshakes := by
  cases hfind : s.roster.find? id with
  | none => rw [cancel_of_unknown s id hfind]
  | some e => rw [cancel_of_registered s id hfind]

@[simp] theorem withdraw_handshakes (x : Consumer) :
    (s.withdraw x).handshakes = s.handshakes := by
  rcases s.withdraw_cases x with h | h
  · rw [h, cancel_handshakes]
  · rw [h]

end Session

namespace Switchboard

variable (sb : Switchboard)

theorem apply_handshakes (effect : Effect) (h : Nat) : (sb.apply effect).handshakes[h]? =
    sb.handshakes[h]?.map (·.hear (effect.outcome? h)) := by
  have hnone := Handshake.map_hear_none sb.handshakes[h]?
  cases effect with
  | deliver consumer item =>
    rw [Effect.outcome?, hnone]
    by_cases hl : sb.listening consumer = true
    · rw [sb.apply_deliver hl]
      rfl
    · rw [sb.apply_deliver_of_gone hl]
  | resolve i result =>
    show (sb.handshakes.modify i fun x => { x with result := some result })[h]? = _
    rw [List.getElem?_modify, Effect.outcome?]
    cases sb.handshakes[h]? with
    | none => rfl
    | some x =>
      by_cases hi : i = h
      · simp [hi, Handshake.hear]
      · simp [hi, Handshake.hear]

theorem commit_handshakes (result : Session × List Effect) (h : Nat) :
    (sb.commit result).handshakes[h]? =
      sb.handshakes[h]?.map (·.hear (Effect.outcomeFor result.2 h)) := by
  have hfold (effects : List Effect) (sb : Switchboard) :
      (effects.foldl apply sb).handshakes[h]? =
        sb.handshakes[h]?.map (·.hear (Effect.outcomeFor effects h)) := by
    induction effects generalizing sb with
    | nil => exact (Handshake.map_hear_none _).symm
    | cons effect rest ih =>
      rw [List.foldl_cons, ih, apply_handshakes, Option.map_map, Effect.outcomeFor_cons]
      congr 1
      funext x
      simp [Handshake.hear, Option.or_assoc]
  have hsame : (sb.withSession result.1).handshakes = sb.handshakes := by rw [withSession_eq]
  unfold commit
  rw [hfold, hsame]

end Switchboard

namespace Client

variable {c c' : Client} {e : Event}

/-! ## Handshakes without a result -/

/-- The handshakes without a result are those that the session lists. -/
def Owing (sb : Switchboard) : Prop :=
  ∀ h, h ∈ sb.session.handshakes ↔ ∃ x, sb.handshakes[h]? = some x ∧ x.result = none

namespace Owing

variable {sb sb' : Switchboard}

theorem congr (h : Owing sb) (hsession : sb'.session.handshakes = sb.session.handshakes)
    (hresults : sb'.handshakes.map Handshake.result = sb.handshakes.map Handshake.result) :
    Owing sb' := by
  intro i
  have hresult : (sb'.handshakes[i]?).map Handshake.result =
      (sb.handshakes[i]?).map Handshake.result := by
    rw [← List.getElem?_map, hresults, List.getElem?_map]
  rw [hsession, h i]
  rcases hold : sb.handshakes[i]? with - | x <;> rcases hnew : sb'.handshakes[i]? with - | y
  all_goals simp [hold, hnew] at hresult ⊢
  rw [hresult]

/-- Effects without results keep the list. -/
theorem commit (h : Owing sb) {result : Session × List Effect}
    (hsession : result.1.handshakes = sb.session.handshakes)
    (hnone : ∀ i, Effect.outcomeFor result.2 i = none) : Owing (sb.commit result) := by
  intro i
  rw [Switchboard.commit_session, hsession, Switchboard.commit_handshakes, hnone,
    Handshake.map_hear_none]
  exact h i

/-- Effects with a result for everybody on the list clear it. -/
theorem settle (h : Owing sb) {result : Session × List Effect} {outcome : HandshakeOutcome}
    (hsession : result.1.handshakes = [])
    (hall : ∀ i, Effect.outcomeFor result.2 i =
      if i ∈ sb.session.handshakes then some outcome else none) : Owing (sb.commit result) := by
  intro i
  rw [Switchboard.commit_session, hsession, Switchboard.commit_handshakes, hall]
  refine ⟨fun hmem => absurd hmem List.not_mem_nil, ?_⟩
  rintro ⟨y, hy, hnone⟩
  obtain ⟨x, hx, rfl⟩ := Option.map_eq_some_iff.1 hy
  exfalso
  by_cases hmem : i ∈ sb.session.handshakes
  · rw [if_pos hmem] at hnone
    cases hnone
  · rw [if_neg hmem] at hnone
    exact hmem ((h i).2 ⟨x, hx, hnone⟩)

theorem withSession (h : Owing sb) {session : Session}
    (hsession : session.handshakes = sb.session.handshakes) : Owing (sb.withSession session) := by
  have hcommit : Owing (sb.commit (session, [])) := h.commit hsession fun _ => rfl
  exact hcommit

end Owing

/-- A start adds a handshake without a result and puts it on the list. -/
theorem owing_launched (h : Owing c.board) (params : Option Json.Members) (held : Bool) :
    Owing (c.launched params held).board := by
  have hsession : (c.launched params held).board.session.handshakes =
      c.board.session.handshakes ++ [c.board.handshakes.length] := by
    rw [launched_session]
    exact Session.moveTo_handshakes _ _
  have hboard : (c.launched params held).board.handshakes =
      c.board.handshakes ++ [Handshake.mk none held] := by
    unfold launched
    exact congrArg Switchboard.handshakes (Switchboard.withSession_eq _ _)
  intro i
  rw [hsession, hboard, List.mem_append, List.mem_singleton]
  rcases Nat.lt_trichotomy i c.board.handshakes.length with hlt | rfl | hgt
  · rw [List.getElem?_append_left hlt, ← h i]
    exact or_iff_left hlt.ne
  · rw [List.getElem?_concat_length]
    exact iff_of_true (Or.inr rfl) ⟨_, rfl, rfl⟩
  · rw [List.getElem?_eq_none (by simp; omega)]
    refine iff_of_false ?_ ?_
    · rintro (hmem | heq)
      · obtain ⟨x, hx, -⟩ := (h i).1 hmem
        obtain ⟨hlt, -⟩ := List.getElem?_eq_some_iff.1 hx
        omega
      · omega
    · rintro ⟨_, hnone, -⟩
      cases hnone

theorem owing_enlisted (h : Owing c.board) (operation : Operation) :
    Owing (c.enlisted operation).board := by
  have hadded : Owing { c.board with consumers := c.board.consumers ++
      [({ id := c.newId c.board.consumers.length } : Consumer)] } := h
  exact hadded.withSession (Session.subscribe_handshakes ..)

theorem owing_withdrawn (h : Owing c.board) (n : Nat) (x : Consumer) :
    Owing (c.withdrawn n x).board := by
  rw [withdrawn_eq]
  have hmarked : Owing { c.board with
      consumers := c.board.consumers.modify n Consumer.markCancelled } := h
  exact hmarked.withSession (Session.withdraw_handshakes ..)

theorem owing_halted (h : Owing c.board) (hp : c.phase ≠ .notStarted) : Owing c.halted.board := by
  rw [halted_board hp]
  exact h.settle (Session.terminate_handshakes _ _) fun i => Session.terminate_outcome _ i .stopped

end Client

namespace Agent

open Client (Owing)

variable {a : Agent} {sb sb' : Switchboard}

theorem owing_of_traffic {k : Nat} {news : List Notice} (h : sb.Traffic k news sb')
    (howing : Owing sb) : Owing sb' :=
  howing.congr (by rw [h.session]) (by rw [h.rest])

theorem owing_of_parting (h : a.Parting sb sb') (howing : Owing sb) : Owing sb' :=
  howing.congr (by rw [h.session]) (by rw [h.rest])

/-- Every turn keeps the list of handshakes without a result, by cases on the move. -/
theorem Move.owing {t : Turn} (hmove : a.Move sb t) (h : Owing sb) : Owing t.2 := by
  cases hmove with
  | leave | wake | ask => exact h
  | hangUp ht hs htraffic => exact owing_of_traffic htraffic h
  | greet ht hs hsocket hack hexchange => exact owing_of_traffic hexchange.toTraffic h
  | ended ht hparting error =>
    exact (owing_of_parting hparting h).settle (Session.terminate_handshakes _ _) fun i =>
      Session.terminate_outcome _ i error
  | retry ht hparting hbudget =>
    exact (owing_of_parting hparting h).withSession (Session.suspend_handshakes ..)
  | idle ht hs hsocket hack hexchange => exact owing_of_traffic hexchange.toTraffic h
  | deliver ht hs hout hexchange =>
    exact owing_of_traffic hexchange.toTraffic (h.congr rfl rfl)
  | undeliverable ht hs hout hexchange error =>
    rename_i link m rest arrived sb'
    have hsent : Owing sb' := owing_of_traffic hexchange.toTraffic (h.congr rfl rfl)
    rcases sb'.abandon_cases m error with heq | ⟨id, -, heq⟩ <;> rw [heq]
    · exact hsent
    · exact hsent.commit (Session.endOne_handshakes ..) fun i => Session.endOne_outcome ..
  | acknowledge ht hs hack hsocket hack' hexchange =>
    exact (owing_of_traffic hexchange.toTraffic h).settle (Session.acknowledge_handshakes ..)
      fun i => Session.acknowledge_outcome ..
  | route ht hs hack hsocket hack' hitem hexchange =>
    exact (owing_of_traffic hexchange.toTraffic h).commit (Session.route_handshakes ..)
      fun i => Session.route_outcome ..
  | endOne ht hs hack hsocket hack' hid hexchange =>
    exact (owing_of_traffic hexchange.toTraffic h).commit (Session.endOne_handshakes ..)
      fun i => Session.endOne_outcome ..

end Agent

namespace Client

variable {c c' : Client} {e : Event}

/-- Every course keeps the list of handshakes without a result. -/
theorem owing_course (hcourse : Course e c c') (hc : c.Coherent) (h : Owing c.board) :
    Owing c'.board := by
  cases hcourse with
  | outside hout => exact h.congr (by rw [hout.session]) hout.results
  | touch | refuse | pass => exact h
  | launch he hp params held => exact owing_launched h params held
  | enlist operation => exact owing_enlisted h operation
  | launchFor operation hop hp params =>
    exact owing_enlisted (owing_launched h params false) operation
  | withdraw => exact owing_withdrawn h _ _
  | cancel => exact owing_withdrawn h _ _
  | halt hstop hp => exact owing_halted h hp
  | turn hagents ht => exact ((hc.agents _ (mem_of_split hagents)).move ht).owing h

/-- Every event keeps the list of handshakes without a result. -/
theorem owing_perform (hc : c.Coherent) (h : Owing c.board) (e : Event) :
    Owing (c.perform e).board := owing_course (c.course_perform e) hc h

theorem owing_run (settings : Settings) (transport : Transport) {newId : Nat → String}
    (hid : Function.Injective newId) (es : List Event) :
    Owing ((create settings transport newId).run es).board := by
  have hall (es : List Event) : ∀ c : Client, c.Coherent → Owing c.board →
      Owing (c.run es).board := by
    induction es with
    | nil => exact fun c _ h => h
    | cons e es ih => exact fun c hc h => ih _ (hc.perform e) (owing_perform hc h e)
  exact hall es _ (coherent_create settings transport hid) fun i =>
    iff_of_false List.not_mem_nil fun ⟨_, hnone, _⟩ => Option.some_ne_none _ hnone.symm

end Client

end LiveQuery
