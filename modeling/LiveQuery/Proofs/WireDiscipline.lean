import LiveQuery.Proofs.Dialogues
import LiveQuery.Proofs.Greetings

/-!
# Wire discipline

What a client sends over its sockets keeps to the protocol in every run (`Client.WireDiscipline`,
`Client.wireDiscipline_run`). Every socket is greeted first, and once. Nothing is said about a
subscription before the server has acknowledged on the same socket. What is said about an id on a
socket is a dialogue. A close frame is followed by the drop of the socket alone. An id is taken back
once in the whole run, and what was taken back is not spoken of on later sockets.
-/

namespace LiveQuery

/-- A place in two parts put together is in the first part or in the second. -/
theorem split_of_append {α : Type} {first second older newer : List α} {x : α}
    (h : first ++ second = older ++ x :: newer) : (∃ newer', first = older ++ x :: newer') ∨
      ∃ older', older = first ++ older' ∧ second = older' ++ x :: newer := by
  rcases List.append_eq_append_iff.1 h with ⟨older', hold, hnew⟩ | ⟨between, hold, hnew⟩
  · exact Or.inr ⟨older', hold, hnew⟩
  · cases between with
    | nil => exact Or.inr ⟨[], by simpa using hold.symm, hnew.symm⟩
    | cons y newer' =>
      obtain ⟨rfl, -⟩ := List.cons.inj hnew
      exact Or.inl ⟨newer', hold⟩

/-! ## Acknowledgments come first -/

/-- Every message for a subscription comes after an acknowledgment. -/
def Cleared (news : List Notice) : Prop :=
  ∀ older notice newer, news = older ++ notice :: newer → notice.isOperation = true →
    older.any Notice.acknowledges = true

namespace Cleared

variable {old news : List Notice}

theorem nil : Cleared [] := by
  intro older notice newer h
  simp at h

theorem append (h : Cleared old) (hnews : ∀ notice ∈ news, notice.isOperation = true →
    old.any Notice.acknowledges = true) : Cleared (old ++ news) := by
  intro older notice newer hsplit hop
  rcases split_of_append hsplit with ⟨newer', hold⟩ | ⟨older', rfl, rfl⟩
  · exact h older notice newer' hold hop
  · -- the acknowledgment is among the older ones
    have hacked := hnews notice (List.mem_append_right _ (List.mem_cons_self ..)) hop
    rw [List.any_append, hacked, Bool.true_or]

end Cleared

theorem Notice.isOperation_eq_true {notice : Notice} (h : notice.isOperation = true) :
    ∃ s m arrived failed, notice = .sent s (.message m) arrived failed ∧ m.id?.isSome = true := by
  unfold isOperation at h
  split at h
  · exact ⟨_, _, _, _, rfl, h⟩
  · cases h

theorem Notice.acknowledges_eq_true {notice : Notice} {k : Nat} (h : notice.acknowledges = true)
    (hk : notice.isTraffic k = true) :
    ∃ payload, notice = .received k (.ok (.message (.connectionAck payload))) := by
  unfold acknowledges Incoming.acknowledges at h
  split at h
  · split at h
    · next s item payload =>
      obtain rfl : s = k := beq_iff_eq.1 hk
      exact ⟨payload, rfl⟩
    · cases h
  · cases h

namespace Client

variable {c c' : Client} {e : Event}

/-- Messages for subscriptions are sent over acknowledged sockets. -/
theorem acknowledged_of_operation (hc : c.Coherent) {a : Agent} (ha : a ∈ c.agents) {k : Nat}
    {link'? : Option Link} {news : List Notice} (h : a.Episode c.board k a.link? news link'?)
    {notice : Notice} (hnotice : notice ∈ news) (hop : notice.isOperation = true) :
    ∃ link, a.link? = some link ∧ link.acknowledged = true := by
  obtain ⟨s, m, arrived, failed, rfl, hid⟩ := Notice.isOperation_eq_true hop
  cases hlink : a.link? with
  | none =>
    rw [hlink] at h
    obtain ⟨-, arrived, failed, rest, rfl, hrest⟩ := h.opens
    simp only [List.mem_cons, reduceCtorEq, false_or, Notice.sent.injEq,
      Outgoing.message.injEq] at hnotice
    rcases hnotice with ⟨-, rfl, -⟩ | hnotice
    · cases hid
    · exact absurd hnotice (hrest _ _ _ _)
  | some link =>
    rw [hlink] at h
    refine ⟨link, rfl, ?_⟩
    rcases h.message hnotice with hbeat | ⟨hat, -, rest, hout⟩
    · cases m <;> cases hbeat <;> cases hid
    · -- there is an outgoing queue only while the socket in use is acknowledged
      rw [← hc.outgoing_of_holds (.of_mem ha hat (Agent.link?_eq_some.1 hlink)), hout]
      rfl

/-- In every run the messages for subscriptions come after an acknowledgment on their socket. -/
theorem cleared_run (settings : Settings) (transport : Transport) {newId : Nat → String}
    (hid : Function.Injective newId) (es : List Event) (k : Nat) :
    Cleared (((create settings transport newId).run es).board.dealings k) := by
  induction es using List.reverseRecOn with
  | nil => exact .nil
  | append_singleton es e ih =>
    have hc := coherent_run settings transport hid es
    rw [run_append]
    rcases dealings_perform hc e k with hsame | ⟨a, ha, hown, news, link'?, h, hnews⟩
    · rw [run_cons, run_nil, hsame]
      exact ih
    · rw [run_cons, run_nil, hnews]
      apply ih.append
      intro notice hnotice hop
      obtain ⟨link, hlink, hacked⟩ := acknowledged_of_operation hc ha h hnotice hop
      have hany := (acknowledged_run settings transport hid es).live a ha link hlink
      rw [hacked, hown.socket hlink] at hany
      rw [Switchboard.any_dealings]
      exact hany.symm

/-! ## Close frames come last -/

/-- Nothing parts from a socket before a close frame, and only the drop follows it. -/
theorem Orderly.farewell (h : c.Orderly) {k s : Nat} {older newer : List Notice} {frame : CloseFrame}
    {arrived failed : Bool}
    (hk : c.board.dealings k = older ++ .sent s (.close frame) arrived failed :: newer) :
    Unparted older ∧ ∃ seen, newer = [.dropped k seen] := by
  have hmem : .sent s (.close frame) arrived failed ∈ c.board.dealings k := by simp [hk]
  by_cases hheld : k ∈ c.agents.filterMap Agent.socket?
  · -- whoever has the socket has not parted from it
    cases h.held k hheld _ hmem
  · obtain ⟨before, exit, hall, hbefore, hexit⟩ := h.left k hheld (List.ne_nil_of_mem hmem)
    rw [hall] at hk
    rcases split_of_append hk with ⟨newer', hold⟩ | ⟨older', rfl, hnew⟩
    · cases hbefore _ (hold ▸ List.mem_append_right _ (List.mem_cons_self ..))
    · -- the exit begins with the close frame
      cases hexit with
      | dropped =>
        rcases List.append_eq_singleton_iff.1 hnew.symm with ⟨-, hlast⟩ | ⟨-, hlast⟩ <;> cases hlast
      | closed frame' arrived' failed' seen =>
        cases older' with
        | nil =>
          obtain ⟨-, rfl⟩ := List.cons.inj hnew
          rw [List.append_nil]
          exact ⟨hbefore, seen, rfl⟩
        | cons first older' =>
          obtain ⟨-, hnew⟩ := List.cons.inj hnew
          rcases List.append_eq_singleton_iff.1 hnew.symm with ⟨-, hlast⟩ | ⟨-, hlast⟩ <;>
            cases hlast

/-! ## Dialogues on the wire -/

/-- What is sent about an id is said for a subscription. -/
theorem about_operationsOn (sb : Switchboard) (id : String) (k : Nat) :
    about id (sb.operationsOn k) = about id (sb.messagesOn k) := by
  unfold about Switchboard.operationsOn
  rw [List.filter_filter]
  refine List.filter_congr fun m _ => ?_
  cases m.id? <;> simp

/-- What is sent about an id is the first part of what was queued about it. -/
theorem Queued.about_messagesOn (h : c.Queued) (id : String) (k : Nat) :
    about id (c.board.messagesOn k) <+: about id (c.board.queuedFor k) := by
  rw [← about_operationsOn]
  exact (h.sent k).filter _

theorem Queued.queued_of_sent (h : c.Queued) {id : String} {k : Nat}
    (hm : .complete id ∈ c.board.messagesOn k) : .complete id ∈ c.board.queuedFor k :=
  (mem_about.1 ((h.about_messagesOn id k).subset (mem_about.2 ⟨hm, rfl⟩))).1

/-- An id is taken back on one socket only. -/
theorem Outspoken.once (h : c.Outspoken) {id : String} {k k' : Nat}
    (hk : .complete id ∈ c.board.queuedFor k) (hk' : .complete id ∈ c.board.queuedFor k') :
    k = k' := by
  have hnot {s s' : Nat} (hs : .complete id ∈ c.board.queuedFor s)
      (hs' : .complete id ∈ c.board.queuedFor s') : ¬ s < s' := by
    intro hlt
    have hsaid := mem_about.2 ⟨hs', rfl⟩
    rw [h.closed id s s' hs hlt] at hsaid
    cases hsaid
  exact le_antisymm (not_lt.1 (hnot hk' hk)) (not_lt.1 (hnot hk hk'))

/-! ## Wire discipline -/

/-- What a client sends over its sockets in a run. -/
structure WireDiscipline (c : Client) (es : List Event) : Prop where
  /-- Every socket that opens is greeted first, and once, with the parameters of its session. -/
  greeted : ∀ k, (c.run es).board.dealings k ≠ [] → c.Greeted es k
  /-- A message for a subscription comes after an acknowledgment was read from the same socket. -/
  cleared : ∀ k older notice newer, (c.run es).board.dealings k = older ++ notice :: newer →
    notice.isOperation = true →
    ∃ payload, .received k (.ok (.message (.connectionAck payload))) ∈ older
  /-- An id is asked for once on a socket, if at all, and taken back once, if at all, later. -/
  dialogue : ∀ id k, Dialogue id (about id ((c.run es).board.messagesOn k))
  /-- There is one close frame at most, and only the drop of the socket follows it. -/
  farewell : ∀ k older frame arrived failed newer,
    (c.run es).board.dealings k = older ++ .sent k (.close frame) arrived failed :: newer →
    Unparted older ∧ ∃ seen, newer = [.dropped k seen]
  /-- An id is taken back on one socket only. -/
  once : ∀ id k k', .complete id ∈ (c.run es).board.messagesOn k →
    .complete id ∈ (c.run es).board.messagesOn k' → k = k'
  /-- Once an id is to be taken back, nothing is said about it on sockets that open later. -/
  final : ∀ id queue, (c.run es).board.session.outgoing = some queue → .complete id ∈ queue →
    ∀ later k, (c.run es).board.lines.length ≤ k →
      about id ((c.run (es ++ later)).board.messagesOn k) = []

/-- In every run a client keeps to the discipline of the wire. -/
theorem wireDiscipline_run (settings : Settings) (transport : Transport) {newId : Nat → String}
    (hid : Function.Injective newId) (es : List Event) :
    (create settings transport newId).WireDiscipline es := by
  have hc := coherent_run settings transport hid es
  have hq (es : List Event) := queued_run settings transport hid es
  have hsaid (es : List Event) := outspoken_run settings transport hid es
  constructor
  case greeted => exact greeted_run settings transport hid es
  case cleared =>
    intro k older notice newer hk hop
    have hany := cleared_run settings transport hid es k older notice newer hk hop
    obtain ⟨earlier, hearlier, hacks⟩ := List.any_eq_true.1 hany
    have htraffic : earlier.isTraffic k = true := by
      have hmem : earlier ∈ ((create settings transport newId).run es).board.dealings k := by
        rw [hk]
        exact List.mem_append_left _ hearlier
      exact (List.mem_filter.1 (List.mem_reverse.1 hmem)).2
    obtain ⟨payload, rfl⟩ := Notice.acknowledges_eq_true hacks htraffic
    exact ⟨payload, hearlier⟩
  case dialogue =>
    intro id k
    exact ((hsaid es).dialogue id k).begun ((hq es).about_messagesOn id k)
  case farewell =>
    intro k older frame arrived failed newer hk
    exact (orderly_run settings transport hid es).farewell hk
  case once =>
    intro id k k' hk hk'
    exact (hsaid es).once ((hq es).queued_of_sent hk) ((hq es).queued_of_sent hk')
  case final =>
    intro id queue hout hm later k hk
    -- what waits now was queued for a socket that opened, and stays queued for it
    obtain ⟨s, hs, hqueued⟩ := queuedFor_of_outgoing hc (hq es) hout hm
    have hlater := (queuedFor_run hc (hq es) later s).subset hqueued
    rw [← run_append] at hlater
    have hnone := (hsaid (es ++ later)).closed id s k hlater (hs.trans_le hk)
    have hfirst := (hq (es ++ later)).about_messagesOn id k
    rw [hnone] at hfirst
    exact List.prefix_nil.1 hfirst

/-- A subscription is taken back while its socket is in use. -/
def retraction : List Event :=
  greeting ++ [acknowledgment, .turn 0, .turn 0, .cancel 0, .turn 0]

theorem wireDiscipline_of_retraction : Function.Injective tally ∧
    ((create untimed {} tally).run retraction).board.messagesOn 0 =
      [.connectionInit none, .subscribe (tally 0) { query := "subscription { a }" },
        .complete (tally 0)] ∧
    (create untimed {} tally).WireDiscipline retraction :=
  ⟨tally_injective, rfl, wireDiscipline_run untimed {} tally_injective retraction⟩

end Client

end LiveQuery
