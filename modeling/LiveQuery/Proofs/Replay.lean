import LiveQuery.Proofs.Endings
import LiveQuery.Proofs.Queue
import LiveQuery.Proofs.Representation

/-!
# Every acknowledged socket is asked for everything, in the order of creation

The first acknowledgment on a socket queues one `subscribe` for each subscription that is
registered and listened to, in the order of creation and with the operation it was made with, and
nothing else (`Client.Chronicle.waiting_eq`). Whatever is asked for later on the socket belongs to
a subscription made later (`Client.Grew`). So on every socket the order is that of creation, and
nothing is asked for twice or after it is gone (`Client.replay_of_run`).

The operations themselves are not kept by the client once a subscription is gone, so the run tells
them (`Client.operations`); `Client.Chronicle` ties them to the roster.
-/

namespace LiveQuery

/-! ## The `subscribe` messages of a run -/

/-- One `subscribe` for each subscription that is kept, in the order of creation. -/
def submissions (newId : Nat → String) (operations : List Operation) (keep : Nat → Bool) :
    List Message :=
  (operations.zipIdx.filter fun p => keep p.2).map fun p => .subscribe (newId p.2) p.1

section Submissions

variable {newId : Nat → String} {operations : List Operation} {keep : Nat → Bool}

theorem mem_submissions {m : Message} : m ∈ submissions newId operations keep ↔
    ∃ n operation, operations[n]? = some operation ∧ keep n = true ∧
      m = .subscribe (newId n) operation := by
  unfold submissions
  rw [List.mem_map]
  constructor
  · rintro ⟨⟨operation, n⟩, hp, rfl⟩
    obtain ⟨hp, hkeep⟩ := List.mem_filter.1 hp
    exact ⟨n, operation, List.mem_zipIdx_iff_getElem?.1 hp, hkeep, rfl⟩
  · rintro ⟨n, operation, hn, hkeep, rfl⟩
    exact ⟨(operation, n), List.mem_filter.2 ⟨List.mem_zipIdx_iff_getElem?.2 hn, hkeep⟩, rfl⟩

theorem submissions_append (newId : Nat → String) (operations : List Operation)
    (keep : Nat → Bool) (operation : Operation) :
    submissions newId (operations ++ [operation]) keep = submissions newId operations keep ++
      if keep operations.length then [.subscribe (newId operations.length) operation] else [] := by
  unfold submissions
  rw [List.zipIdx_append, List.filter_append, List.map_append, List.zipIdx_singleton, Nat.zero_add]
  congr 1
  cases hkeep : keep operations.length <;> simp [hkeep]

theorem prefix_submissions {operations' : List Operation} (h : operations <+: operations') :
    submissions newId operations keep <+: submissions newId operations' keep := by
  obtain ⟨rest, rfl⟩ := h
  unfold submissions
  rw [List.zipIdx_append, List.filter_append, List.map_append]
  exact List.prefix_append ..

/-- More subscriptions are kept. -/
theorem sublist_submissions {keep' : Nat → Bool} (h : ∀ n, keep n = true → keep' n = true) :
    (submissions newId operations keep).Sublist (submissions newId operations keep') :=
  (List.monotone_filter_right _ fun _ hp => h _ hp).map _

end Submissions

namespace Session

/-- While a session connects what waits is asked for in the order of insertion. -/
theorem Coherent.waitingMessages_eq {s : Session} (h : s.Coherent) (hp : s.phase = .connecting) :
    s.waitingMessages = s.roster.inOrder.map fun e => .subscribe e.id e.operation := by
  unfold waitingMessages
  rw [h.waiting hp, Roster.ids, List.filterMap_map, ← List.filterMap_eq_map]
  refine List.filterMap_congr fun e he => ?_
  dsimp only [Function.comp]
  rw [Roster.operation?, Roster.find?_of_mem h.roster (Roster.mem_inOrder.1 he)]
  rfl

end Session

namespace Client

variable {c c' : Client} {e : Event} {made : List Operation}

/-- The operation of a subscription that is made in an event. -/
def asked (c : Client) : Event → Option Operation
  | .subscribe operation => if c.allows (.subscribe operation) then some operation else none
  | _ => none

/-- The operations of the subscriptions that are made along a run. -/
def operations (c : Client) : List Event → List Operation
  | [] => []
  | e :: es => (c.asked e).toList ++ (c.perform e).operations es

theorem operations_append (c : Client) (es es' : List Event) :
    c.operations (es ++ es') = c.operations es ++ (c.run es).operations es' := by
  induction es generalizing c with
  | nil => rfl
  | cons e es ih =>
    rw [List.cons_append, operations, operations, ih, List.append_assoc, run_cons]

/-- What every step keeps together with the operations, every event keeps with them. -/
theorem perform_asked_induction {P : List Operation → Client → Prop}
    (hstep : ∀ e made c c', P made c → Step e c c' →
      (∀ operation, e ≠ .subscribe operation) → P made c')
    (henlist : ∀ made c operation, P made c → c.phase ≠ .notStarted →
      P (made ++ [operation]) (c.enlisted operation))
    (hrefuse : ∀ made c operation error, P made c →
      P (made ++ [operation]) (c.addRefused (c.newId c.board.consumers.length) error).2)
    (h : P made c) (e : Event) : P (made ++ (c.asked e).toList) (c.perform e) := by
  by_cases hsubscribe : ∃ operation, e = .subscribe operation
  · obtain ⟨operation, rfl⟩ := hsubscribe
    have hasked : c.asked (.subscribe operation) =
        if c.allows (.subscribe operation) then some operation else none := rfl
    rw [hasked, perform]
    split
    · rcases c.subscribe_cases operation with ⟨error, heq⟩ | ⟨hp, heq⟩ | ⟨hp, params, heq⟩
      · rw [undergo, heq]
        exact hrefuse made c operation error h
      · rw [undergo, heq]
        exact henlist made c operation h hp
      · rw [undergo, heq]
        -- the session is started as if by a call
        have hlaunch : P made (c.launched params false) :=
          hstep .start made c _ h (.launch rfl hp params false) fun _ heq => by cases heq
        refine henlist made _ operation hlaunch ?_
        rw [launched_phase]
        decide
    · rw [Option.toList_none, List.append_nil]
      exact h
  · have hnone : c.asked e = none := by
      cases e with
      | subscribe operation => exact absurd ⟨operation, rfl⟩ hsubscribe
      | _ => rfl
    rw [hnone, Option.toList_none, List.append_nil]
    exact perform_induction (fun c c' h hs =>
      hstep e made c c' h hs fun operation heq => hsubscribe ⟨operation, heq⟩) h

/-- What every step keeps together with the operations, every run keeps with them. -/
theorem run_asked_induction {P : List Operation → Client → Prop}
    (hstep : ∀ e made c c', P made c → Step e c c' →
      (∀ operation, e ≠ .subscribe operation) → P made c')
    (henlist : ∀ made c operation, P made c → c.phase ≠ .notStarted →
      P (made ++ [operation]) (c.enlisted operation))
    (hrefuse : ∀ made c operation error, P made c →
      P (made ++ [operation]) (c.addRefused (c.newId c.board.consumers.length) error).2)
    (h : P made c) (es : List Event) : P (made ++ c.operations es) (c.run es) := by
  induction es generalizing c made with
  | nil =>
    rw [Client.operations, List.append_nil]
    exact h
  | cons e es ih =>
    rw [Client.operations, ← List.append_assoc]
    exact ih (perform_asked_induction hstep henlist hrefuse h e)

/-! ## The roster holds what was made -/

/-- The consumers and entries of a client are those of the operations of its run. -/
structure Chronicle (made : List Operation) (c : Client) : Prop where
  coherent : c.Coherent
  queued : c.Queued
  chronological : c.board.session.roster.Chronological
  length : made.length = c.board.consumers.length
  entries : ∀ entry ∈ c.board.session.roster.entries,
    made[entry.consumer]? = some entry.operation

/-- Only a new subscription has a consumer and an entry that were not there. -/
theorem entries_step (hc : c.Coherent) (hstep : Step e c c')
    (he : ∀ operation, e ≠ .subscribe operation) :
    c'.board.consumers.length = c.board.consumers.length ∧
      ∀ entry ∈ c'.board.session.roster.entries, entry ∈ c.board.session.roster.entries := by
  have hfed {consumers : List Consumer} (h : ∀ n : Nat, ∃ items,
      consumers[n]? = c.board.consumers[n]?.map (Consumer.feed items)) :
      consumers.length = c.board.consumers.length := by
    refine Nat.le_antisymm ?_ ?_
    · obtain ⟨items, hitems⟩ := h c.board.consumers.length
      rw [List.getElem?_eq_none (le_refl _)] at hitems
      exact List.getElem?_eq_none_iff.1 hitems
    · obtain ⟨items, hitems⟩ := h consumers.length
      rw [List.getElem?_eq_none (le_refl _)] at hitems
      exact List.getElem?_eq_none_iff.1 (Option.map_eq_none_iff.1 hitems.symm)
  cases hstep with
  | quiet hq => exact ⟨congrArg List.length hq.consumers, fun _ hentry => hq.session ▸ hentry⟩
  | touch ht => exact ⟨List.length_modify .., fun _ hentry => hentry⟩
  | launch _ hp params held =>
    refine ⟨congrArg List.length (launched_consumers ..), fun entry hentry => ?_⟩
    rwa [launched_session, Session.start_roster] at hentry
  | enlist _ hp operation hop => exact absurd hop (he operation)
  | refuse _ error hop =>
    obtain ⟨operation, hop⟩ := hop
    exact absurd hop (he operation)
  | withdraw _ hx hcancelled =>
    refine ⟨?_, fun entry hentry => ?_⟩
    · rw [withdrawn_consumers, List.length_modify]
    · rw [withdrawn_session] at hentry
      exact Session.mem_withdraw _ _ hentry
  | halt hp =>
    refine ⟨hfed fun n => ?_, fun entry hentry => ?_⟩
    · rw [halted_board hp]
      exact ⟨_, Switchboard.commit_consumers ..⟩
    · rw [halted_session hp, Session.terminate_roster] at hentry
      cases hentry
  | turn hagents ht =>
    have hfits := hc.agents _ (mem_of_split hagents)
    have hadvance := ((hfits.move ht).outcome hfits hc.session).advance
    exact ⟨hfed hadvance.consumers, hadvance.entries⟩
  | pass _ => exact ⟨rfl, fun _ hentry => hentry⟩

namespace Chronicle

theorem create (settings : Settings) (transport : Transport) {newId : Nat → String}
    (hid : Function.Injective newId) : Chronicle [] (create settings transport newId) where
  coherent := coherent_create settings transport hid
  queued := queued_run settings transport hid []
  chronological := fun _ he => absurd he List.not_mem_nil
  length := rfl
  entries := fun _ he => absurd he List.not_mem_nil

theorem step (h : Chronicle made c) (hstep : Step e c c')
    (he : ∀ operation, e ≠ .subscribe operation) : Chronicle made c' := by
  obtain ⟨hlength, hentries⟩ := entries_step h.coherent hstep he
  exact ⟨h.coherent.step hstep, h.queued.step h.coherent hstep,
    chronological_step h.coherent hstep h.chronological, h.length.trans hlength.symm,
    fun entry hentry => h.entries entry (hentries entry hentry)⟩

/-- The operations before keep their places. -/
theorem getElem?_append (h : Chronicle made c) (operation : Operation)
    {entry : Roster.Entry} (hentry : entry ∈ c.board.session.roster.entries) :
    (made ++ [operation])[entry.consumer]? = some entry.operation := by
  have hlt := (h.coherent.id_of_entry hentry).2
  rw [← h.length] at hlt
  rw [List.getElem?_append_left hlt]
  exact h.entries entry hentry

theorem enlist (h : Chronicle made c) (hp : c.phase ≠ .notStarted) (operation : Operation) :
    Chronicle (made ++ [operation]) (c.enlisted operation) := by
  have hstep : Step (.subscribe operation) c (c.enlisted operation) := .enlist rfl hp operation rfl
  refine ⟨h.coherent.step hstep, h.queued.step h.coherent hstep,
    chronological_step h.coherent hstep h.chronological, ?_, fun entry hentry => ?_⟩
  · simp [enlisted, h.length]
  · rw [enlisted_session, Session.subscribe_roster] at hentry
    rcases Roster.mem_insert.1 hentry with rfl | ⟨hentry, -⟩
    · rw [← h.length]
      exact List.getElem?_concat_length
    · exact h.getElem?_append operation (Roster.mem_prune.1 hentry).1

theorem refuse (h : Chronicle made c) (operation : Operation) (error : SubscribeError) :
    Chronicle (made ++ [operation])
      (c.addRefused (c.newId c.board.consumers.length) error).2 := by
  have hstep : Step (.subscribe operation) c
      (c.addRefused (c.newId c.board.consumers.length) error).2 := .refuse rfl error ⟨_, rfl⟩
  refine ⟨h.coherent.step hstep, h.queued.step h.coherent hstep,
    chronological_step h.coherent hstep h.chronological, ?_,
    fun entry hentry => h.getElem?_append operation hentry⟩
  have hconsumers : (c.addRefused (c.newId c.board.consumers.length) error).2.board.consumers =
      c.board.consumers ++ [.refused (c.newId c.board.consumers.length) error] := rfl
  rw [hconsumers, List.length_append, List.length_append, h.length]
  rfl

/-- The registered operations in the order of insertion are those of the run in the order of
creation. -/
theorem inOrder_eq (h : Chronicle made c) :
    c.board.session.roster.inOrder.map (fun entry => (entry.operation, entry.consumer)) =
      made.zipIdx.filter fun p => c.board.session.roster.feeds p.2 := by
  have hascending := h.chronological.ascending h.coherent.session.roster h.coherent.distinct
  -- both lists ascend in the numbers of the consumers
  have hleft : (c.board.session.roster.inOrder.map fun entry =>
      (entry.operation, entry.consumer)).Pairwise (·.2 < ·.2) :=
    List.pairwise_map.2 (List.pairwise_map.1 hascending)
  have hright : (made.zipIdx.filter fun p =>
      c.board.session.roster.feeds p.2).Pairwise (·.2 < ·.2) := by
    refine List.Pairwise.filter _ (List.pairwise_map.1 ?_)
    rw [List.zipIdx_map_snd]
    exact List.pairwise_lt_range'
  have hnodup {l : List (Operation × Nat)} (hl : l.Pairwise (·.2 < ·.2)) : l.Nodup :=
    hl.imp fun hlt heq => absurd (heq ▸ hlt) (lt_irrefl _)
  refine ((List.perm_ext_iff_of_nodup (hnodup hleft) (hnodup hright)).2 fun p => ?_).eq_of_pairwise
    (fun p q _ _ hpq hqp => absurd hpq (Nat.lt_asymm hqp)) hleft hright
  obtain ⟨operation, n⟩ := p
  rw [List.mem_map, List.mem_filter, List.mem_zipIdx_iff_getElem?, Roster.feeds_iff]
  constructor
  · rintro ⟨entry, hentry, heq⟩
    obtain ⟨rfl, rfl⟩ := Prod.mk.inj heq
    have hentry := Roster.mem_inOrder.1 hentry
    exact ⟨h.entries entry hentry, entry, hentry, rfl⟩
  · rintro ⟨hn, entry, hentry, rfl⟩
    have hoperation := Option.some.inj ((h.entries entry hentry).symm.trans hn)
    exact ⟨entry, Roster.mem_inOrder.2 hentry, by rw [hoperation]⟩

/-- What waits while the session connects is one `subscribe` for each subscription that is
registered and listened to, in the order of creation. -/
theorem waiting_eq (h : Chronicle made c) (hp : c.phase = .connecting) :
    c.waiting = submissions c.newId made fun n =>
      c.board.session.roster.feeds n && c.board.listening n := by
  have hpruned := h.coherent.session.prune c.board.listening
  have hmap : ∀ entry ∈ c.board.session.roster.inOrder.filter (c.board.listening ·.consumer),
      Message.subscribe entry.id entry.operation =
        Message.subscribe (c.newId entry.consumer) entry.operation := by
    intro entry hentry
    have hentry := Roster.mem_inOrder.1 (List.mem_filter.1 hentry).1
    rw [(h.coherent.id_of_entry hentry).1]
  calc c.waiting
      = (c.board.session.prune c.board.listening).roster.inOrder.map
          fun entry => .subscribe entry.id entry.operation :=
        hpruned.waitingMessages_eq ((Session.prune_phase ..).trans hp)
    _ = (c.board.session.roster.inOrder.filter (c.board.listening ·.consumer)).map
          fun entry => .subscribe (c.newId entry.consumer) entry.operation := by
        rw [Session.prune_roster, Roster.inOrder_prune, List.map_congr_left hmap]
    _ = ((c.board.session.roster.inOrder.map fun entry =>
          (entry.operation, entry.consumer)).filter fun p => c.board.listening p.2).map
            fun p => .subscribe (c.newId p.2) p.1 := by
        rw [List.filter_map, List.map_map]
        rfl
    _ = submissions c.newId made fun n =>
          c.board.session.roster.feeds n && c.board.listening n := by
        rw [h.inOrder_eq, List.filter_filter]
        unfold submissions
        simp only [Bool.and_comm]

end Chronicle

/-! ## What is asked for after a point of a run -/

/-- The messages for a socket are some that were queued at a point of the run at which `first`
subscriptions were made, and more, in which those made later are asked for in the order of
creation. -/
def Grew (made : List Operation) (k : Nat) (base : List Message) (first : Nat) (c : Client) :
    Prop :=
  ∃ more, c.board.queuedFor k = base ++ more ∧
    (more.filter Message.asks).Sublist (submissions c.newId made (first ≤ ·))

/-- A socket has opened and does not wait for an acknowledgment. -/
structure Answered (k : Nat) (c : Client) : Prop where
  opened : k < c.board.lines.length
  acknowledged : ¬ c.Holds k false

/-- A socket that once was acknowledged or lost never waits for an acknowledgment again. -/
theorem Answered.step {k : Nat} (h : c.Answered k) (hc : c.Coherent) (hq : c.Queued)
    (hstep : Step e c c') : c'.Answered k := by
  refine ⟨h.opened.trans_le (lines_step hc hstep), fun hk => ?_⟩
  cases queueing_step hc hq.last hstep with
  | still hheld hlast hqueued hsent hout =>
    rcases hheld k false hk with hold | ⟨-, rfl⟩
    · exact h.acknowledged hold
    · exact lt_irrefl _ h.opened
  | append _ hk' | send _ hk' | flush _ hk' => cases ((hc.step hstep).holds_unique hk' hk).2

theorem filter_asks_complete (ids : List String) :
    (ids.map Message.complete).filter Message.asks = [] := by
  refine List.filter_eq_nil_iff.2 fun m hm => ?_
  obtain ⟨id, -, rfl⟩ := List.mem_map.1 hm
  nofun

namespace Grew

variable {k first : Nat} {base : List Message}

/-- Nothing is asked for on the socket. -/
theorem of_silent (h : c.Grew made k base first) (hid : c'.newId = c.newId) {new : List Message}
    (hqueued : c'.board.queuedFor k = c.board.queuedFor k ++ new)
    (hnew : new.filter Message.asks = []) : c'.Grew made k base first := by
  obtain ⟨more, hmore, hasked⟩ := h
  refine ⟨more ++ new, ?_, ?_⟩
  · rw [hqueued, hmore, List.append_assoc]
  · rw [List.filter_append, hnew, List.append_nil, hid]
    exact hasked

theorem mono (h : c.Grew made k base first) {made' : List Operation} (hmade : made <+: made') :
    c.Grew made' k base first := by
  obtain ⟨more, hmore, hasked⟩ := h
  exact ⟨more, hmore, hasked.trans (prefix_submissions hmade).sublist⟩

/-- A subscription that was made just now is asked for. -/
theorem of_request (h : Chronicle made c) (hg : c.Grew made k base first)
    (hfirst : first ≤ made.length) (hid : c'.newId = c.newId) {ids : List String}
    {operation : Operation}
    (hqueued : c'.board.queuedFor k = c.board.queuedFor k ++
      (ids.map .complete ++ [.subscribe (c.newId c.board.consumers.length) operation])) :
    c'.Grew (made ++ [operation]) k base first := by
  obtain ⟨more, hmore, hasked⟩ := hg
  refine ⟨more ++ (ids.map .complete ++
    [.subscribe (c.newId c.board.consumers.length) operation]), ?_, ?_⟩
  · rw [hqueued, hmore, List.append_assoc]
  · have hnew : [Message.subscribe (c.newId c.board.consumers.length) operation].filter
        Message.asks = [.subscribe (c.newId made.length) operation] := by
      rw [h.length]
      rfl
    rw [List.filter_append, List.filter_append, filter_asks_complete, hnew, List.nil_append, hid,
      submissions_append, if_pos (decide_eq_true hfirst)]
    exact hasked.append (List.Sublist.refl _)

/-- Every step asks for what was made later, by cases on what it does to the queues. A socket whose
first acknowledgment counts is one on which nothing was queued. -/
theorem step (h : Chronicle made c) (hg : c.Grew made k base first)
    (hbase : base = [] ∧ first = 0 ∨ c.Answered k) (hfirst : first ≤ made.length)
    (hstep : Step e c c') {made' : List Operation} (hmade : made <+: made')
    (hasks : ∀ operation, e = .subscribe operation → made' = made ++ [operation]) :
    c'.Grew made' k base first := by
  have hid : c'.newId = c.newId := newId_step hstep
  have hc := h.coherent
  cases queueing_step hc h.queued.last hstep with
  | still hheld hlast hqueued hsent hout =>
    exact (hg.of_silent hid ((hqueued k).trans (List.append_nil _).symm) rfl).mono hmade
  | send hk hk' hlast hqueued hsent hout hout' =>
    exact (hg.of_silent hid ((hqueued k).trans (List.append_nil _).symm) rfl).mono hmade
  | append hk hk' hlast hnew hqueued hsent hout =>
    rename_i s new
    by_cases hks : k = s
    · have hqueued := hqueued k
      rw [if_pos hks] at hqueued
      cases hnew with
      | farewells ids => exact (hg.of_silent hid hqueued (filter_asks_complete ids)).mono hmade
      | request ids operation he =>
        rw [hasks operation he]
        exact of_request h hg hfirst hid hqueued
    · have hqueued := hqueued k
      rw [if_neg hks] at hqueued
      exact (hg.of_silent hid hqueued rfl).mono hmade
  | flush hk hk' hlast hqueued hsent hout =>
    rename_i s
    by_cases hks : k = s
    · subst hks
      rcases hbase with ⟨rfl, rfl⟩ | hanswered
      · refine Grew.mono ⟨c.waiting, ?_, ?_⟩ hmade
        · rw [hqueued, if_pos rfl, h.queued.unacknowledged k hk]
        · rw [hid, h.waiting_eq (hc.connecting_of_holds hk)]
          exact List.filter_sublist.trans (sublist_submissions fun n _ => decide_eq_true n.zero_le)
      · exact absurd hk hanswered.acknowledged
    · have hqueued := hqueued k
      rw [if_neg hks] at hqueued
      exact (hg.of_silent hid hqueued rfl).mono hmade

end Grew

/-- What every run asks for on a socket. -/
theorem Chronicle.run (h : Chronicle made c) {k first : Nat} {base : List Message}
    (hfirst : first ≤ made.length) (hbase : base = [] ∧ first = 0 ∨ c.Answered k)
    (hg : c.Grew made k base first) (es : List Event) :
    Chronicle (made ++ c.operations es) (c.run es) ∧
      (c.run es).Grew (made ++ c.operations es) k base first := by
  have hall := run_asked_induction
    (P := fun made c => Chronicle made c ∧ first ≤ made.length ∧
      (base = [] ∧ first = 0 ∨ c.Answered k) ∧ c.Grew made k base first)
    (fun e made c c' ⟨h, hfirst, hbase, hg⟩ hstep he => ?_)
    (fun made c operation ⟨h, hfirst, hbase, hg⟩ hp => ?_)
    (fun made c operation error ⟨h, hfirst, hbase, hg⟩ => ?_) ⟨h, hfirst, hbase, hg⟩ es
  · exact ⟨hall.1, hall.2.2.2⟩
  · exact ⟨h.step hstep he, hfirst,
      hbase.imp_right fun hanswered => hanswered.step h.coherent h.queued hstep,
      hg.step h hbase hfirst hstep (List.prefix_refl _) fun operation heq =>
        absurd heq (he operation)⟩
  · have hstep : Step (.subscribe operation) c (c.enlisted operation) :=
      .enlist rfl hp operation rfl
    refine ⟨h.enlist hp operation, ?_, hbase.imp_right fun hanswered =>
      hanswered.step h.coherent h.queued hstep,
      hg.step h hbase hfirst hstep (List.prefix_append ..) fun _ heq => by cases heq; rfl⟩
    rw [List.length_append]
    omega
  · have hstep : Step (.subscribe operation) c
        (c.addRefused (c.newId c.board.consumers.length) error).2 := .refuse rfl error ⟨_, rfl⟩
    refine ⟨h.refuse operation error, ?_, hbase.imp_right fun hanswered =>
      hanswered.step h.coherent h.queued hstep,
      hg.step h hbase hfirst hstep (List.prefix_append ..) fun _ heq => by cases heq; rfl⟩
    rw [List.length_append]
    omega

/-- The operations of a run are those of its subscriptions, and on every socket they are asked for
in the order of creation. -/
theorem chronicle_run (settings : Settings) (transport : Transport) {newId : Nat → String}
    (hid : Function.Injective newId) (es : List Event) (k : Nat) :
    Chronicle ((create settings transport newId).operations es)
        ((create settings transport newId).run es) ∧
      ((create settings transport newId).run es).Grew
        ((create settings transport newId).operations es) k [] 0 :=
  (Chronicle.create settings transport hid).run (Nat.zero_le _) (Or.inl ⟨rfl, rfl⟩)
    ⟨[], rfl, List.nil_sublist _⟩ es

/-! ## The first acknowledgment on a socket -/

/-- A socket that was acknowledged last has had its acknowledgment read. -/
theorem acknowledgment_mem {sb : Switchboard} {k : Nat} (h : sb.acknowledgedSocket? = some k) :
    ∃ payload, (k, .ok (.message (.connectionAck payload))) ∈ sb.readings := by
  obtain ⟨entry, hentry, hk⟩ := List.exists_of_findSome?_eq_some h
  unfold Notice.acknowledged? at hk
  split at hk
  · next s payload heq =>
    obtain rfl := Option.some.inj hk
    refine ⟨payload, List.mem_reverse.2 (List.mem_filterMap.2 ⟨entry, hentry, ?_⟩)⟩
    rw [heq]
    rfl
  · cases hk

/-- An event that reads is one turn. -/
theorem step_of_reads (h : (c.perform e).board.readings ≠ c.board.readings) :
    e.isTurn = true ∧ Step e c (c.perform e) := by
  cases he : e.isTurn with
  | false => exact absurd (background_perform he).readings h
  | true =>
    rcases c.perform_cases he with heq | ⟨pre, a, post, o, board, hagents, ht, heq⟩
    · rw [heq] at h
      exact absurd rfl h
    · rw [heq]
      exact ⟨rfl, .turn hagents ht he⟩

/-- The first acknowledgment read from a socket is that of a socket without one, which then has
it. -/
theorem holds_of_acknowledgment (hc : c.Coherent) (hq : c.Queued) {k : Nat}
    {payload : Option Json.Members}
    (hread : (k, .ok (.message (.connectionAck payload))) ∈ c.reads e)
    (hfirst : ∀ p, (k, .ok (.message (.connectionAck p))) ∉ c.board.readings) :
    e.isTurn = true ∧ Step e c (c.perform e) ∧ c.Holds k false ∧ (c.perform e).Holds k true := by
  obtain ⟨a, link, frame, rest, h, rfl, hframe⟩ := readsIn_of_mem hread
  have hholds : c.Holds link.socket link.acknowledged :=
    .of_mem h.agent h.reads.told h.reads.stage
  have hack : link.acknowledged = false := by
    refine Bool.eq_false_iff.2 fun hack => ?_
    rw [hack] at hholds
    obtain ⟨p, hp⟩ := acknowledgment_mem (hq.last _ hholds)
    exact hfirst p hp
  obtain ⟨hturn, hstep⟩ := step_of_reads (by rw [h.readings]; simp)
  refine ⟨hturn, hstep, hack ▸ hholds, ?_⟩
  obtain ⟨pre, post, -, hagents⟩ := h.agents
  have hcur : (c.board.hear link.socket (Incoming.ofFrame frame) rest).isOutdated a.epoch =
      false := (hc.agents a h.agent).isOutdated h.reads.told
  obtain ⟨link', hlink⟩ : ∃ link' : Link,
      link' = { link.heard c.board.now with acknowledged := true } := ⟨_, rfl⟩
  have hattend : (a.attend (c.board.hear link.socket (Incoming.ofFrame frame) rest) link
      (Incoming.ofFrame frame)).1 = some { a with stage := .serving link' } := by
    rw [hframe] at hcur ⊢
    unfold Agent.attend Agent.receive Switchboard.acknowledge
    dsimp only
    rw [if_neg (by rw [Link.heard, hack]; nofun), hcur, hlink]
    rfl
  rw [hattend] at hagents
  refine ⟨{ a with stage := .serving link' }, ?_, h.reads.told, link', rfl, ?_⟩
  · rw [hagents]
    simp
  · rw [hlink]
    exact ⟨rfl, rfl⟩

/-- The first acknowledgment on a socket queues what waits, and nothing else. -/
theorem Chronicle.acknowledged (h : Chronicle made c) {k : Nat} {payload : Option Json.Members}
    (hread : (k, .ok (.message (.connectionAck payload))) ∈ c.reads e)
    (hfirst : ∀ p, (k, .ok (.message (.connectionAck p))) ∉ c.board.readings) :
    Chronicle made (c.perform e) ∧ (c.perform e).Answered k ∧
      (c.perform e).board.session.outgoing = some c.waiting ∧
      (c.perform e).board.queuedFor k = c.waiting ∧ c.phase = .connecting := by
  have hc := h.coherent
  obtain ⟨hturn, hstep, hk, hk'⟩ := holds_of_acknowledgment hc h.queued hread hfirst
  have hafter : Chronicle made (c.perform e) := h.step hstep fun operation heq => by
    rw [heq] at hturn
    cases hturn
  have hanswered : (c.perform e).Answered k :=
    ⟨hafter.coherent.bound_of_holds hk', fun hnot =>
      nomatch (hafter.coherent.holds_unique hk' hnot).2⟩
  cases queueing_step hc h.queued.last hstep with
  | still hheld =>
    have hold := (hheld k true hk').resolve_right nofun
    cases (hc.holds_unique hk hold).2
  | append hold | send hold => cases (hc.holds_unique hk hold).2
  | flush hold hold' hlast hqueued hsent hout =>
    obtain ⟨rfl, -⟩ := hc.holds_unique hk hold
    refine ⟨hafter, hanswered, hout, ?_, hc.connecting_of_holds hk⟩
    rw [hqueued, if_pos rfl, h.queued.unacknowledged _ hk]
    rfl

/-- Who was cancelled, dropped or ended is not asked for. -/
theorem Coherent.unawaited (hc : c.Coherent) {n : Nat}
    {yields : List (Except SubscribeError ExecutionResult)} (haccounted : c.Accounted n yields)
    {x : Consumer} (hx : c.board.consumers[n]? = some x)
    (hgone : x.cancelled = true ∨ x.listening = false ∨
      ∃ item ∈ c.board.channel n, item.isLast = true) :
    ¬ (c.newId n ∈ c.board.session.roster.ids ∧ c.board.listening n = true) := by
  rintro ⟨hreg, hlistening⟩
  rcases hgone with hcancelled | hdropped | ⟨item, hitem, hlast⟩
  · obtain ⟨entry, hentry, hentryid⟩ := Roster.mem_ids.1 hreg
    obtain ⟨y, hy, -, -, hy'⟩ := hc.entries entry hentry
    obtain rfl := hc.fresh ((hc.id_of_entry hentry).1.symm.trans hentryid)
    obtain rfl := Option.some.inj (hx.symm.trans hy)
    rw [hcancelled] at hy'
    cases hy'
  · obtain ⟨y, hy, hy'⟩ := c.board.listening_iff.1 hlistening
    obtain rfl := Option.some.inj (hx.symm.trans hy)
    rw [hdropped] at hy'
    cases hy'
  · have hnot := (haccounted.accounts x hx).fed (hc.feeds_iff_registered.2 hreg) item hitem
    rw [hlast] at hnot
    cases hnot

/-- Queue, flush and replay. Along every run every subscription that is made has a number and an
operation. On every socket the `subscribe` messages are those of some of them, in the order in
which they were made, each with its id and its operation, and nothing is sent for a subscription
but what was queued, in the same order. When the first acknowledgment on a socket is read, the
messages queued are one `subscribe` for each subscription that is registered then and whose
consumer listens, in the order in which they were made, and no others. Whatever `subscribe` is
queued for the socket later is that of a subscription made later, and one that was cancelled,
dropped or ended before is never asked for on it. -/
theorem replay_of_run (settings : Settings) (transport : Transport) {newId : Nat → String}
    (hid : Function.Injective newId) (es : List Event) :
    let c := (create settings transport newId).run es
    let made := (create settings transport newId).operations es
    made.length = c.board.consumers.length ∧
    (∀ k, ((c.board.queuedFor k).filter Message.asks).Sublist
        (submissions newId made fun _ => true) ∧
      c.board.operationsOn k <+: c.board.queuedFor k) ∧
    ∀ (e : Event) (k : Nat) (payload : Option Json.Members),
      (k, .ok (.message (.connectionAck payload))) ∈ c.reads e →
      (∀ p, (k, .ok (.message (.connectionAck p))) ∉ c.board.readings) →
      let first := submissions newId made fun n =>
        decide (newId n ∈ c.board.session.roster.ids ∧ c.board.listening n = true)
      (c.perform e).board.session.outgoing = some first ∧
      (c.perform e).board.queuedFor k = first ∧
      ∀ later : List Event,
        let c' := (c.perform e).run later
        (∃ more, c'.board.queuedFor k = first ++ more ∧
          (more.filter Message.asks).Sublist
            (submissions newId (made ++ (c.perform e).operations later) fun n =>
              decide (c.board.consumers.length ≤ n))) ∧
        ∀ (n : Nat) (x : Consumer) (operation : Operation), c.board.consumers[n]? = some x →
          (x.cancelled = true ∨ x.listening = false ∨
            ∃ item ∈ c.board.channel n, item.isLast = true) →
          Message.subscribe (newId n) operation ∉ c'.board.queuedFor k ∧
          Message.subscribe (newId n) operation ∉ c'.board.messagesOn k := by
  intro c made
  have hnewId : c.newId = newId := newId_run _ es
  have hrun (k : Nat) : Chronicle made c ∧ c.Grew made k [] 0 :=
    chronicle_run settings transport hid es k
  have h : Chronicle made c := (hrun 0).1
  refine ⟨h.length, fun k => ⟨?_, h.queued.sent k⟩, fun e k payload hread hunread => ?_⟩
  · obtain ⟨more, hmore, hasked⟩ := (hrun k).2
    rw [hmore, List.nil_append, ← hnewId]
    exact hasked.trans (sublist_submissions fun _ _ => rfl)
  · intro first
    obtain ⟨hafter, hanswered, hout, hqueued, hconnecting⟩ := h.acknowledged hread hunread
    have hfirst : c.waiting = first := by
      rw [h.waiting_eq hconnecting, hnewId]
      refine congrArg (submissions newId made) (funext fun n => ?_)
      rw [Bool.eq_iff_iff, Bool.and_eq_true, decide_eq_true_iff, ← hnewId,
        h.coherent.feeds_iff_registered]
    rw [hfirst] at hout hqueued
    refine ⟨hout, hqueued, fun later => ?_⟩
    intro c'
    have hnewId' : c'.newId = newId := (newId_run _ later).trans ((newId_perform c e).trans hnewId)
    obtain ⟨hlater, more, hmore, hasked⟩ := hafter.run h.length.ge (Or.inr hanswered)
      ⟨[], hqueued.trans (List.append_nil _).symm, List.nil_sublist _⟩ later
    rw [hnewId'] at hasked
    refine ⟨⟨more, hmore, hasked⟩, fun n x operation hx hgone => ?_⟩
    have haccounted := accounted_run settings transport hid es n
    have hnot : Message.subscribe (newId n) operation ∉ c'.board.queuedFor k := by
      rw [hmore, List.mem_append]
      rintro (hm | hm)
      · -- it was not awaited when the acknowledgment was read
        obtain ⟨i, operation', -, hkeep, heq⟩ := mem_submissions.1 hm
        obtain rfl := hid (Message.subscribe.inj heq).1
        rw [decide_eq_true_iff, ← hnewId] at hkeep
        exact h.coherent.unawaited haccounted hx hgone hkeep
      · -- it was made before the acknowledgment was read
        have hm := hasked.subset (List.mem_filter.2 ⟨hm, rfl⟩)
        obtain ⟨i, operation', -, hkeep, heq⟩ := mem_submissions.1 hm
        obtain rfl := hid (Message.subscribe.inj heq).1
        have hlt := (List.getElem?_eq_some_iff.1 hx).1
        have hle := of_decide_eq_true hkeep
        omega
    refine ⟨hnot, fun hm => hnot ?_⟩
    exact (hlater.queued.sent k).subset (List.mem_filter.2 ⟨hm, rfl⟩)

/-- Of two subscriptions made while the session connects the first is cancelled before the server
acknowledges. -/
def withdrawal : List Event :=
  [.subscribe { query := "subscription { a }" }, .subscribe { query := "subscription { b }" },
    .turn 0, .turn 0, .cancel 0, acknowledgment]

/-- The acknowledgment queues the second subscription alone, and the first is never asked for. -/
theorem replay_of_withdrawal : Function.Injective tally ∧
    (((create untimed {} tally).run withdrawal).perform (.turn 0)).board.queuedFor 0 =
      [.subscribe (tally 1) { query := "subscription { b }" }] ∧
    ∀ (later : List Event) (operation : Operation), Message.subscribe (tally 0) operation ∉
      ((((create untimed {} tally).run withdrawal).perform (.turn 0)).run later).board.messagesOn
        0 := by
  have hread : ((create untimed {} tally).run withdrawal).reads (.turn 0) =
      [(0, .ok (.message (.connectionAck none)))] := rfl
  have hnone : ((create untimed {} tally).run withdrawal).board.readings = [] := rfl
  have hcancelled : ((create untimed {} tally).run withdrawal).board.consumers[0]?.any
      (·.cancelled) = true := by
    decide +kernel
  obtain ⟨x, hx, hmark⟩ := (Option.any_eq_true _ _).1 hcancelled
  obtain ⟨-, -, hflush⟩ := replay_of_run untimed {} tally_injective withdrawal
  obtain ⟨-, hqueued, hlater⟩ := hflush (.turn 0) 0 none
    (by rw [hread]; exact List.mem_singleton_self _) fun p => by rw [hnone]; exact List.not_mem_nil
  refine ⟨tally_injective, hqueued.trans rfl, fun later operation => ?_⟩
  exact ((hlater later).2 0 x operation hx (Or.inl hmark)).2

end Client

end LiveQuery
