import LiveQuery.Proofs.Handshakes
import LiveQuery.Proofs.Hidden

/-!
# The results of handshakes

What an event does to handshakes is one of three things (`Switchboard.Settling`): it leaves them
alone, or gives one and the same result to all that the session lists, or adds one to an empty list.
The journal keeps every result that was given (`Switchboard.resolutions`). So a handshake gets one
result at most, and keeps it (`Client.Answering.run`, `Client.Answering.resultOf_run`). To drop a
handshake makes no difference to anything but its being held (`Client.run_dropHandshake`).
-/

namespace LiveQuery

/-- The result that a notice says a handshake got. -/
def Notice.resolution? (h : Nat) : Notice → Option HandshakeOutcome
  | .resolved i result => if i = h then some result else none
  | _ => none

/-- Traffic resolves nothing. -/
theorem Notice.resolution?_of_isTraffic {notice : Notice} {k : Nat}
    (htraffic : notice.isTraffic k = true) (h : Nat) : notice.resolution? h = none := by
  cases notice with
  | resolved => cases htraffic
  | _ => rfl

namespace Effect

/-- Each of several handshakes gets the result once. -/
theorem outcomes_resolve {handshakes : List Nat} (hnodup : handshakes.Nodup)
    (result : HandshakeOutcome) (h : Nat) :
    (handshakes.map fun i => resolve i result).filterMap (outcome? h) =
      if h ∈ handshakes then [result] else [] := by
  induction handshakes with
  | nil => rfl
  | cons i rest ih =>
    obtain ⟨hi, hrest⟩ := List.nodup_cons.1 hnodup
    rw [List.map_cons]
    by_cases hih : i = h
    · subst hih
      have hhead : outcome? i (resolve i result) = some result := if_pos rfl
      rw [List.filterMap_cons_some hhead, ih hrest, if_neg hi, if_pos (List.mem_cons_self ..)]
    · have hhead : outcome? h (resolve i result) = none := if_neg hih
      rw [List.filterMap_cons_none hhead, ih hrest]
      simp [Ne.symm hih]

/-- Effects without a result for a handshake. -/
theorem outcomes_of_none {effects : List Effect} {h : Nat} (hnone : outcomeFor effects h = none) :
    effects.filterMap (outcome? h) = [] := List.getLast?_eq_none_iff.1 hnone

end Effect

namespace Session

variable (s : Session) (hnodup : s.handshakes.Nodup) (h : Nat)

include hnodup

theorem terminate_outcomes (error : ConnectionError) :
    (s.terminate error).2.filterMap (Effect.outcome? h) =
      if h ∈ s.handshakes then [.error error] else [] := by
  have hdeliver := Effect.outcomes_of_none
    (Effect.outcomeFor_deliver s.roster.takeAll.1 (.error (.connection error)) h)
  unfold terminate
  dsimp only
  rw [List.filterMap_append, hdeliver, Effect.outcomes_resolve hnodup, List.nil_append]

theorem acknowledge_outcomes (listening : Nat → Bool) (payload : Option Json.Members) :
    (s.acknowledge listening payload).2.filterMap (Effect.outcome? h) =
      if h ∈ s.handshakes then [.ok payload] else [] := by
  have heffects : (s.acknowledge listening payload).2 =
      (s.prune listening).handshakes.map fun h => Effect.resolve h (.ok payload) := rfl
  rw [heffects, prune_handshakes, Effect.outcomes_resolve hnodup]

end Session

namespace Switchboard

variable {sb sb' sb'' : Switchboard}

/-- The results that a handshake was given, in order. -/
def resolutions (sb : Switchboard) (h : Nat) : List HandshakeOutcome :=
  (sb.journal.filterMap fun e => e.notice.resolution? h).reverse

/-- The result of a handshake, if it has one. -/
def resultOf (sb : Switchboard) (h : Nat) : Option HandshakeOutcome :=
  sb.handshakes[h]?.bind Handshake.result

theorem withSession_resolutions (sb : Switchboard) (session : Session) (h : Nat) :
    (sb.withSession session).resolutions h = sb.resolutions h := by
  rw [withSession_eq]
  unfold resolutions
  rw [sb.filterMap_changes session _ (fun _ _ => rfl) fun _ _ _ => rfl]

theorem apply_resolutions (sb : Switchboard) (effect : Effect) (h : Nat) :
    (sb.apply effect).resolutions h = sb.resolutions h ++ (effect.outcome? h).toList := by
  cases effect with
  | deliver consumer item =>
    unfold apply
    dsimp only
    split <;> exact (List.append_nil _).symm
  | resolve i result =>
    have hnotice : (Notice.resolved i result).resolution? h =
        (Effect.resolve i result).outcome? h := rfl
    have hjournal : (sb.apply (.resolve i result)).journal =
        ⟨sb.now, .resolved i result⟩ :: sb.journal := rfl
    unfold resolutions
    rw [hjournal]
    cases hi : (Effect.resolve i result).outcome? h with
    | none => simp [hnotice, hi]
    | some result => simp [hnotice, hi]

/-- A handshake is given what the effects have for it. -/
theorem commit_resolutions (sb : Switchboard) (result : Session × List Effect) (h : Nat) :
    (sb.commit result).resolutions h =
      sb.resolutions h ++ result.2.filterMap (Effect.outcome? h) := by
  have hfold (effects : List Effect) (sb : Switchboard) :
      (effects.foldl apply sb).resolutions h =
        sb.resolutions h ++ effects.filterMap (Effect.outcome? h) := by
    induction effects generalizing sb with
    | nil => exact (List.append_nil _).symm
    | cons effect rest ih =>
      rw [List.foldl_cons, ih, apply_resolutions, List.append_assoc]
      cases heffect : effect.outcome? h with
      | none => rw [List.filterMap_cons_none heffect]; rfl
      | some result => rw [List.filterMap_cons_some heffect]; rfl
  unfold commit
  rw [hfold, withSession_resolutions]

/-! ## What an event does to handshakes -/

/-- Nothing happens to handshakes. -/
structure Untouched (sb sb' : Switchboard) : Prop where
  list : sb'.session.handshakes = sb.session.handshakes
  length : sb'.handshakes.length = sb.handshakes.length
  results : ∀ h, sb'.resultOf h = sb.resultOf h
  given : ∀ h, sb'.resolutions h = sb.resolutions h

namespace Untouched

/-- Handshakes, the list and the journal stay. -/
theorem of_eq (hlist : sb'.session.handshakes = sb.session.handshakes)
    (hhandshakes : sb'.handshakes = sb.handshakes) (hjournal : sb'.journal = sb.journal) :
    sb.Untouched sb' where
  list := hlist
  length := by rw [hhandshakes]
  results h := by
    unfold resultOf
    rw [hhandshakes]
  given h := by
    unfold resolutions
    rw [hjournal]

theorem refl (sb : Switchboard) : sb.Untouched sb := of_eq rfl rfl rfl

theorem trans (h : sb.Untouched sb') (h' : sb'.Untouched sb'') : sb.Untouched sb'' where
  list := h'.list.trans h.list
  length := h'.length.trans h.length
  results i := (h'.results i).trans (h.results i)
  given i := (h'.given i).trans (h.given i)

/-- The journal gets an entry that resolves nothing. -/
theorem of_entry {entry : JournalEntry} (hlist : sb'.session.handshakes = sb.session.handshakes)
    (hhandshakes : sb'.handshakes = sb.handshakes) (hjournal : sb'.journal = entry :: sb.journal)
    (hnone : ∀ h, entry.notice.resolution? h = none) : sb.Untouched sb' where
  list := hlist
  length := by rw [hhandshakes]
  results h := by
    unfold resultOf
    rw [hhandshakes]
  given h := by simp [resolutions, hjournal, hnone]

/-- Whatever else was changed before. -/
theorem of_changed (h : sb'.Untouched sb'')
    (hlist : sb'.session.handshakes = sb.session.handshakes)
    (hhandshakes : sb'.handshakes = sb.handshakes) (hjournal : sb'.journal = sb.journal) :
    sb.Untouched sb'' := (of_eq hlist hhandshakes hjournal).trans h

theorem of_traffic {k : Nat} {news : List Notice} (h : sb.Traffic k news sb') :
    sb.Untouched sb' := by
  refine ⟨by rw [h.session], by rw [h.rest], fun i => ?_, fun i => ?_⟩
  · unfold resultOf
    rw [h.rest]
  · have hnone : (news.map (⟨sb.now, ·⟩ : Notice → JournalEntry)).filterMap
        (fun e => e.notice.resolution? i) = [] := by
      refine List.filterMap_eq_nil_iff.2 fun entry hentry => ?_
      obtain ⟨notice, hnotice, rfl⟩ := List.mem_map.1 hentry
      exact Notice.resolution?_of_isTraffic (h.own notice hnotice) i
    unfold resolutions
    rw [h.journal, List.filterMap_append, hnone, List.nil_append]

/-- Effects without results. -/
theorem commit {result : Session × List Effect}
    (hlist : result.1.handshakes = sb.session.handshakes)
    (hnone : ∀ h, Effect.outcomeFor result.2 h = none) : sb.Untouched (sb.commit result) := by
  have hget (h : Nat) : (sb.commit result).handshakes[h]? = sb.handshakes[h]? := by
    rw [commit_handshakes, hnone, Handshake.map_hear_none]
  refine ⟨by rw [commit_session, hlist], ?_, fun h => ?_, fun h => ?_⟩
  · rw [List.ext_getElem? hget]
  · unfold resultOf
    rw [hget]
  · rw [commit_resolutions, Effect.outcomes_of_none (hnone h), List.append_nil]

theorem withSession {session : Session} (hlist : session.handshakes = sb.session.handshakes) :
    sb.Untouched (sb.withSession session) :=
  show sb.Untouched (sb.commit (session, [])) from commit hlist fun _ => rfl

end Untouched

/-- What a step does to handshakes. -/
inductive Settling (sb sb' : Switchboard) : Prop
  | untouched (h : sb.Untouched sb')
  /-- Those on the list all get one and the same result, once, and no others get one. -/
  | settled (outcome : HandshakeOutcome) (hlist : sb'.session.handshakes = [])
      (hlength : sb'.handshakes.length = sb.handshakes.length)
      (hresults : ∀ h, sb'.resultOf h =
        if h ∈ sb.session.handshakes then some outcome else sb.resultOf h)
      (hgiven : ∀ h, sb'.resolutions h =
        sb.resolutions h ++ if h ∈ sb.session.handshakes then [outcome] else [])
  /-- A new one is the only one on the list. -/
  | added (hlist : sb'.session.handshakes = [sb.handshakes.length])
      (hlength : sb'.handshakes.length = sb.handshakes.length + 1)
      (hresults : ∀ h, sb'.resultOf h = sb.resultOf h)
      (hgiven : ∀ h, sb'.resolutions h = sb.resolutions h)

namespace Settling

/-- Effects with one and the same result for everybody on the list. -/
theorem commit (howing : Client.Owing sb) {result : Session × List Effect}
    {outcome : HandshakeOutcome} (hlist : result.1.handshakes = [])
    (hall : ∀ h, result.2.filterMap (Effect.outcome? h) =
      if h ∈ sb.session.handshakes then [outcome] else []) : sb.Settling (sb.commit result) := by
  have hget (h : Nat) : (sb.commit result).handshakes[h]? =
      sb.handshakes[h]?.map (·.hear (if h ∈ sb.session.handshakes then some outcome else none)) := by
    rw [commit_handshakes, Effect.outcomeFor, hall]
    split <;> rfl
  refine .settled outcome (by rw [commit_session, hlist]) ?_ (fun h => ?_) fun h => ?_
  · have hlength : ∀ h, (sb.commit result).handshakes[h]? = none ↔ sb.handshakes[h]? = none :=
      fun h => by rw [hget, Option.map_eq_none_iff]
    simp only [List.getElem?_eq_none_iff] at hlength
    exact Nat.le_antisymm ((hlength _).2 (le_refl _)) ((hlength _).1 (le_refl _))
  · unfold resultOf
    rw [hget]
    by_cases hmem : h ∈ sb.session.handshakes
    · obtain ⟨x, hx, -⟩ := (howing h).1 hmem
      rw [if_pos hmem, if_pos hmem, hx]
      rfl
    · rw [if_neg hmem, if_neg hmem, Handshake.map_hear_none]
  · rw [commit_resolutions, hall]

/-- What comes behind and touches nothing makes no difference. -/
theorem before (h : sb.Settling sb') (h' : sb'.Untouched sb'') : sb.Settling sb'' := by
  cases h with
  | untouched h => exact .untouched (h.trans h')
  | settled outcome hlist hlength hresults hgiven =>
    exact .settled outcome (h'.list.trans hlist) (h'.length.trans hlength)
      (fun i => (h'.results i).trans (hresults i)) fun i => (h'.given i).trans (hgiven i)
  | added hlist hlength hresults hgiven =>
    exact .added (h'.list.trans hlist) (h'.length.trans hlength)
      (fun i => (h'.results i).trans (hresults i)) fun i => (h'.given i).trans (hgiven i)

/-- What comes before and touches nothing makes no difference. -/
theorem after (h : sb.Untouched sb') (h' : sb'.Settling sb'') : sb.Settling sb'' := by
  cases h' with
  | untouched h' => exact .untouched (h.trans h')
  | settled outcome hlist hlength hresults hgiven =>
    refine .settled outcome hlist (hlength.trans h.length) (fun i => ?_) fun i => ?_
    · rw [hresults, h.list, h.results]
    · rw [hgiven, h.list, h.given]
  | added hlist hlength hresults hgiven =>
    refine .added ?_ ?_ (fun i => ?_) fun i => ?_
    · rw [hlist, h.length]
    · rw [hlength, h.length]
    · rw [hresults, h.results]
    · rw [hgiven, h.given]

end Settling

end Switchboard

open Switchboard (Settling Untouched)

theorem Agent.Parting.untouched {a : Agent} {sb sb' : Switchboard} (h : a.Parting sb sb') :
    sb.Untouched sb' := by
  cases h with
  | unopened hs => exact .refl sb
  | opened hs h => exact .of_traffic h
  | served hs h => exact .of_traffic h

/-- What a turn does to handshakes, by cases on the move. -/
theorem Agent.Move.settling {a : Agent} {sb : Switchboard} {t : Turn} (hmove : a.Move sb t)
    (howing : Client.Owing sb) (hnodup : sb.session.handshakes.Nodup) : sb.Settling t.2 := by
  cases hmove with
  | leave | wake => exact .untouched (.refl sb)
  | ask => exact .untouched (.of_entry rfl rfl rfl fun _ => rfl)
  | hangUp ht hs h => exact .untouched (.of_traffic h)
  | greet ht hs hsocket hack h => exact .untouched (.of_traffic h.toTraffic)
  | idle ht hs hsocket hack h => exact .untouched (.of_traffic h.toTraffic)
  | ended ht h error =>
    have hbefore := h.untouched
    have hnodup' := hbefore.list ▸ hnodup
    exact .after hbefore (.commit (owing_of_parting h howing) (Session.terminate_handshakes _ _)
      fun i => Session.terminate_outcomes _ hnodup' i error)
  | retry ht h hbudget =>
    rename_i sb' attempt due retries
    have hsuspended : sb.Untouched (sb'.withSession (sb'.session.suspend sb'.listening)) :=
      h.untouched.trans (.withSession (Session.suspend_handshakes ..))
    exact .untouched (hsuspended.trans (.of_entry rfl rfl rfl fun _ => rfl))
  | deliver ht hs hout h =>
    exact .untouched ((Untouched.of_traffic h.toTraffic).of_changed rfl rfl rfl)
  | undeliverable ht hs hout h error =>
    rename_i link m rest arrived sb'
    have hsent : sb.Untouched sb' :=
      (Untouched.of_traffic h.toTraffic).of_changed rfl rfl rfl
    rcases sb'.abandon_cases m error with heq | ⟨id, -, heq⟩ <;> rw [heq]
    · exact .untouched hsent
    · exact .untouched (hsent.trans (.commit (Session.endOne_handshakes ..) fun i =>
        Session.endOne_outcome ..))
  | acknowledge ht hs hack hsocket hack' h =>
    have hbefore : sb.Untouched _ := .of_traffic h.toTraffic
    have hnodup' := hbefore.list ▸ hnodup
    exact .after hbefore (.commit (owing_of_traffic h.toTraffic howing)
      (Session.acknowledge_handshakes ..) fun i =>
        Session.acknowledge_outcomes _ hnodup' i _ _)
  | route ht hs hack hsocket hack' hitem h =>
    exact .untouched ((Untouched.of_traffic h.toTraffic).trans
      (.commit (Session.route_handshakes ..) fun i => Session.route_outcome ..))
  | endOne ht hs hack hsocket hack' hid h =>
    exact .untouched ((Untouched.of_traffic h.toTraffic).trans
      (.commit (Session.endOne_handshakes ..) fun i => Session.endOne_outcome ..))

namespace Client

variable {c c' : Client} {e : Event}

theorem settling_launched (hc : c.Coherent) (hp : c.phase = .notStarted)
    (params : Option Json.Members) (held : Bool) :
    c.board.Settling (c.launched params held).board := by
  have hidle : c.board.session.handshakes = [] := (hc.session.idle hp).2.2
  have hboard : (c.launched params held).board = ({ c.board with
      handshakes := c.board.handshakes ++ [Handshake.mk none held] } : Switchboard).withSession
        (c.board.session.start c.board.handshakes.length) := rfl
  have hhandshakes : (c.launched params held).board.handshakes =
      c.board.handshakes ++ [Handshake.mk none held] := by
    rw [hboard, Switchboard.withSession_eq]
  refine .added ?_ ?_ (fun h => ?_) fun h => ?_
  · rw [launched_session]
    refine (Session.moveTo_handshakes _ _).trans ?_
    rw [hidle]
    rfl
  · rw [hhandshakes, List.length_append]
    rfl
  · unfold Switchboard.resultOf
    rw [hhandshakes]
    -- the new one has no result, as if it was not there
    rcases Nat.lt_or_ge h c.board.handshakes.length with hlt | hge
    · rw [List.getElem?_append_left hlt]
    · rw [List.getElem?_append_right hge, List.getElem?_eq_none hge]
      cases hi : h - c.board.handshakes.length with
      | zero => rfl
      | succ i => rfl
  · rw [hboard, Switchboard.withSession_resolutions]
    rfl

theorem untouched_enlisted (c : Client) (operation : Operation) :
    c.board.Untouched (c.enlisted operation).board := by
  let id := c.newId c.board.consumers.length
  let consumers := c.board.consumers ++ [({ id } : Consumer)]
  let sb : Switchboard := { c.board with consumers }
  have henlisted : sb.Untouched (sb.withSession
      (sb.session.subscribe sb.listening id operation c.board.consumers.length)) :=
    .withSession (Session.subscribe_handshakes ..)
  exact henlisted.of_changed rfl rfl rfl

theorem untouched_withdrawn (c : Client) (n : Nat) (x : Consumer) :
    c.board.Untouched (c.withdrawn n x).board := by
  rw [withdrawn_eq]
  have hmarked : (c.modifyConsumer n Consumer.markCancelled).board.Untouched _ :=
    .withSession (Session.withdraw_handshakes c.board.session x)
  exact hmarked.of_changed rfl rfl rfl

/-- Whoever drops a handshake leaves its result there. -/
theorem untouched_outside (h : Outside e c c') : c.board.Untouched c'.board where
  list := by rw [h.session]
  length := by simpa using congrArg List.length h.results
  results i := by
    have hget : c'.board.handshakes[i]?.map Handshake.result =
        c.board.handshakes[i]?.map Handshake.result := by
      rw [← List.getElem?_map, h.results, List.getElem?_map]
    have hbind := congrArg (·.bind id) hget
    rwa [Option.bind_map, Option.bind_map] at hbind
  given i := by
    unfold Switchboard.resolutions
    rw [h.journal]

/-- What a course does to handshakes. -/
theorem settling_course (hcourse : Course e c c') (hc : c.Coherent) (howing : Owing c.board)
    (hnodup : c.board.session.handshakes.Nodup) : c.board.Settling c'.board := by
  cases hcourse with
  | outside hout => exact .untouched (untouched_outside hout)
  | touch | pass => exact .untouched (.of_eq rfl rfl rfl)
  | launch he hp params held => exact settling_launched hc hp params held
  | refuse => exact .untouched (.of_entry rfl rfl rfl fun _ => rfl)
  | enlist operation => exact .untouched (untouched_enlisted c operation)
  | launchFor operation hop hp params =>
    exact (settling_launched hc hp params false).before (untouched_enlisted _ operation)
  | withdraw => exact .untouched (untouched_withdrawn c _ _)
  | cancel => exact .untouched ((untouched_withdrawn c _ _).trans (.of_eq rfl rfl rfl))
  | halt hstop hp =>
    show c.board.Settling c.halted.board
    rw [halted_board hp]
    exact .commit howing (Session.terminate_handshakes _ _) fun i =>
      Session.terminate_outcomes _ hnodup i .stopped
  | turn hagents ht =>
    exact ((hc.agents _ (mem_of_split hagents)).move ht).settling howing hnodup

/-- What an event does to handshakes. -/
theorem settling_perform (hc : c.Coherent) (howing : Owing c.board)
    (hnodup : c.board.session.handshakes.Nodup) (e : Event) :
    c.board.Settling (c.perform e).board :=
  settling_course (c.course_perform e) hc howing hnodup

/-! ## Handshakes get one result -/

theorem Owing.resultOf {sb : Switchboard} (howing : Owing sb) {h : Nat}
    (hmem : h ∈ sb.session.handshakes) : sb.resultOf h = none := by
  obtain ⟨x, hx, hnone⟩ := (howing h).1 hmem
  rw [Switchboard.resultOf, hx, Option.bind_some, hnone]

/-- A result stays, and handshakes stay. -/
theorem resultOf_settled {sb sb' : Switchboard} (hsettling : sb.Settling sb') (howing : Owing sb)
    {h : Nat} {result : HandshakeOutcome} (hresult : sb.resultOf h = some result) :
    sb'.resultOf h = some result := by
  cases hsettling with
  | untouched huntouched => rw [huntouched.results, hresult]
  | added hlist hlength hresults => rw [hresults, hresult]
  | settled outcome hlist hlength hresults =>
    have hmem : h ∉ sb.session.handshakes := by
      intro hmem
      rw [howing.resultOf hmem] at hresult
      cases hresult
    rw [hresults, if_neg hmem, hresult]

theorem length_settled {sb sb' : Switchboard} (hsettling : sb.Settling sb') :
    sb.handshakes.length ≤ sb'.handshakes.length := by
  cases hsettling with
  | untouched huntouched => exact huntouched.length.ge
  | settled outcome hlist hlength => exact hlength.ge
  | added hlist hlength => omega

/-- Handshakes without a result are on the list, each of them once, and a result is given once. -/
structure Answering (sb : Switchboard) : Prop where
  owing : Owing sb
  nodup : sb.session.handshakes.Nodup
  once : ∀ h, sb.resolutions h = (sb.resultOf h).toList

namespace Answering

theorem perform (h : Answering c.board) (hc : c.Coherent) (e : Event) :
    Answering (c.perform e).board := by
  have howing := owing_perform hc h.owing e
  cases settling_perform hc h.owing h.nodup e with
  | untouched huntouched =>
    refine ⟨howing, ?_, fun i => ?_⟩
    · rw [huntouched.list]
      exact h.nodup
    · rw [huntouched.given, huntouched.results, h.once]
  | added hlist hlength hresults hgiven =>
    refine ⟨howing, ?_, fun i => ?_⟩
    · rw [hlist]
      exact List.nodup_singleton _
    · rw [hgiven, hresults, h.once]
  | settled outcome hlist hlength hresults hgiven =>
    refine ⟨howing, ?_, fun i => ?_⟩
    · rw [hlist]
      exact List.nodup_nil
    · rw [hgiven, hresults, h.once]
      by_cases hmem : i ∈ c.board.session.handshakes
      · -- who is on the list had no result before
        rw [if_pos hmem, if_pos hmem, h.owing.resultOf hmem]
        rfl
      · rw [if_neg hmem, if_neg hmem, List.append_nil]

theorem run (h : Answering c.board) (hc : c.Coherent) (es : List Event) :
    Answering (c.run es).board := by
  induction es generalizing c with
  | nil => exact h
  | cons e es ih => exact ih (h.perform hc e) (hc.perform e)

theorem length_run (h : Answering c.board) (hc : c.Coherent) (es : List Event) :
    c.board.handshakes.length ≤ (c.run es).board.handshakes.length := by
  induction es generalizing c with
  | nil => exact le_refl _
  | cons e es ih =>
    exact (length_settled (settling_perform hc h.owing h.nodup e)).trans
      (ih (h.perform hc e) (hc.perform e))

theorem resultOf_run (h : Answering c.board) (hc : c.Coherent) {i : Nat}
    {result : HandshakeOutcome} (hresult : c.board.resultOf i = some result) (es : List Event) :
    (c.run es).board.resultOf i = some result := by
  induction es generalizing c with
  | nil => exact hresult
  | cons e es ih =>
    exact ih (h.perform hc e) (hc.perform e)
      (resultOf_settled (settling_perform hc h.owing h.nodup e) h.owing hresult)

end Answering

theorem answering_create (settings : Settings) (transport : Transport) (newId : Nat → String) :
    Answering (create settings transport newId).board where
  owing _ := iff_of_false List.not_mem_nil fun ⟨_, hnone, _⟩ => Option.some_ne_none _ hnone.symm
  nodup := List.nodup_nil
  once _ := rfl

/-! ## Handshakes that nobody holds -/

theorem unasked_letGo (h : Nat) : Switchboard.Unasked (·.modify h Handshake.letGo) := by
  intro f hf handshakes i
  by_cases hi : h = i
  · subst hi
    dsimp only
    rw [List.modify_modify_eq, List.modify_modify_eq]
    exact congrArg (handshakes.modify h) (funext hf)
  · exact List.modify_modify_ne _ _ _ hi

/-- Whatever happens after the drop of a handshake would have happened without it. -/
theorem perform_dropHandshake {h : Nat} (hh : h < c.board.handshakes.length) (e : Event) :
    (c.dropHandshake h).perform e = (c.perform e).dropHandshake h := by
  have hremap (c : Client) : c.dropHandshake h = c.remap id (·.modify h Handshake.letGo) := rfl
  cases he : e.isTurn with
  | true =>
    obtain ⟨place, rfl⟩ := Event.eq_turn_of_isTurn he
    have hagents : (c.dropHandshake h).agents = c.agents := rfl
    have hboard : (c.dropHandshake h).board =
        c.board.remap id (·.modify h Handshake.letGo) := rfl
    rw [perform_turn, perform_turn]
    unfold turnAt
    rw [hagents, hboard]
    cases c.agents[place]? with
    | none => rfl
    | some a =>
      dsimp only
      have hunseen : Switchboard.Unseen id fun _ => True := ⟨fun _ _ => rfl, fun _ _ _ => rfl⟩
      rw [a.turn_remap c.board (unasked_letGo h) hunseen (fun _ => rfl) rfl trivial
        fun _ _ => trivial]
      cases a.turn c.board with
      | none => rfl
      | some t => rfl
  | false =>
    cases hline : e.line? with
    | some k =>
      have hallows : (c.dropHandshake h).allows e = c.allows e := by cases e <;> rfl
      unfold perform
      rw [hallows]
      cases e with
      | serverSend | serverClose | serverDrop | failReceive | failSends => split <;> rfl
      | _ => cases hline
    | none =>
      rw [hremap, hremap]
      refine perform_remap (unasked_letGo h) (fun held => ?_) (List.length_modify ..) he hline
      -- a new handshake comes behind those there are
      refine List.ext_getElem? fun i => ?_
      rw [List.getElem?_modify]
      rcases Nat.lt_or_ge i c.board.handshakes.length with hi | hi
      · rw [List.getElem?_append_left hi, List.getElem?_append_left (by simpa using hi),
          List.getElem?_modify]
      · have hne : h ≠ i := by omega
        rw [List.getElem?_append_right hi, List.getElem?_append_right (by simpa using hi)]
        simp [hne]

/-- To drop a handshake changes nothing but that nobody holds it. -/
theorem run_dropHandshake (hc : c.Coherent) (hanswering : Answering c.board) {h : Nat}
    (hh : h < c.board.handshakes.length) (es : List Event) :
    (c.dropHandshake h).run es = (c.run es).dropHandshake h := by
  induction es generalizing c with
  | nil => rfl
  | cons e es ih =>
    have hlength := length_settled (settling_perform hc hanswering.owing hanswering.nodup e)
    rw [run_cons, run_cons, perform_dropHandshake hh]
    exact ih (hc.perform e) (hanswering.perform hc e) (hh.trans_le hlength)

end Client

end LiveQuery
