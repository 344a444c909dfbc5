import LiveQuery.Proofs.Cancellation
import LiveQuery.Proofs.Representation
import Mathlib.Data.List.Sort

/-!
# Subscriptions that are dropped without a cancel

A registered subscription that nobody holds any more is abandoned. The session takes no notice of
the drop itself. While it connects, the acknowledgment or a loss forgets what is abandoned, so that
the server never hears of it. While it is acknowledged, there is a list of events that make it
forget (`Client.Removal`): exactly one of them removes the entry, the first that happens, and the
server is told once or not at all, as the event says. `Client.forsaken_run` puts this together for
every state of every run, and `Client.Fate` says it for what follows.
-/

namespace LiveQuery

namespace Client

variable {c c' : Client} {e : Event} {n : Nat} {id : String}

/-- A subscription is abandoned: it is registered, and nobody holds it any more. -/
structure Abandoned (c : Client) (n : Nat) : Prop where
  registered : c.newId n ∈ c.ids
  dropped : c.board.listening n = false

/-- The numbers of the abandoned subscriptions, in the order of creation. -/
def abandoned (c : Client) : List Nat :=
  (List.range c.board.consumers.length).filter fun n =>
    decide (c.newId n ∈ c.ids) && !c.board.listening n

/-- The events that make an acknowledged session forget an abandoned subscription. `told` says
whether the server is told. -/
inductive Removal (c : Client) (n : Nat) (e : Event) : (told : Bool) → Prop
  /-- Another subscription is taken on. -/
  | subscribe {operation : Operation} (he : e = .subscribe operation) (hallow : c.allows e = true) :
      Removal c n e true
  /-- A result for it is read. -/
  | next {k : Nat} {result : ExecutionResult}
      (hread : (k, .ok (.message (.next (c.newId n) result))) ∈ c.reads e) : Removal c n e true
  /-- The server's last word on it is read. -/
  | last {k : Nat} {m : Message} {item : Item} (hread : (k, .ok (.message m)) ∈ c.reads e)
      (hitem : m.item? = some (c.newId n, item)) (hlast : item.isLast = true) :
      Removal c n e false
  /-- Something undecodable is read, and the error carries its id. -/
  | undecodable {k : Nat} {error : DecodeError} (hread : (k, .error error) ∈ c.reads e)
      (hid : error.id? = some (c.newId n)) : Removal c n e true
  /-- The message that asks for it cannot be sent. -/
  | unsent {operation : Operation} (hfails : .subscribe (c.newId n) operation ∈ c.fails e) :
      Removal c n e false
  /-- It is cancelled through a handle that was kept. -/
  | cancel (he : e = .cancelByHandle n) : Removal c n e true
  /-- The socket is lost, and another one follows. -/
  | lost (hp : (c.perform e).phase = .connecting) : Removal c n e false
  /-- The session ends. -/
  | ended (hp : (c.perform e).phase = .notStarted) : Removal c n e false

namespace Abandoned

/-- An abandoned subscription has an entry. -/
theorem entry (h : c.Abandoned n) (hc : c.Coherent) :
    ∃ entry, c.board.session.roster.find? (c.newId n) = some entry ∧ entry.consumer = n := by
  cases hf : c.board.session.roster.find? (c.newId n) with
  | none => exact absurd h.registered (Roster.find?_eq_none_iff.1 hf)
  | some entry => exact ⟨entry, rfl, (hc.consumer_eq_iff hf).2 rfl⟩

theorem known (h : c.Abandoned n) (hc : c.Coherent) : n < c.board.consumers.length := by
  obtain ⟨entry, hf, rfl⟩ := h.entry hc
  exact (hc.id_of_entry (Roster.mem_of_find? hf)).2

/-- An abandoned subscription was not cancelled. -/
theorem consumer (h : c.Abandoned n) (hc : c.Coherent) :
    ∃ x, c.board.consumers[n]? = some x ∧ x.id = c.newId n ∧ x.cancelled = false := by
  obtain ⟨entry, hf, rfl⟩ := h.entry hc
  obtain ⟨x, hx, -, -, hcancelled⟩ := hc.entries entry (Roster.mem_of_find? hf)
  exact ⟨x, hx, hc.named _ x hx, hcancelled⟩

theorem started (h : c.Abandoned n) (hc : c.Coherent) : c.phase ≠ .notStarted := by
  intro hp
  obtain ⟨entry, hentry, -⟩ := Roster.mem_ids.1 h.registered
  rw [(hc.session.idle hp).1] at hentry
  cases hentry

/-- The drop is for good. -/
theorem still_dropped (h : c.Abandoned n) (hc : c.Coherent) (e : Event) :
    (c.perform e).board.listening n = false := by
  obtain ⟨x, hx, -⟩ := h.consumer hc
  obtain ⟨x', hx', hages⟩ := ages_perform hc hx e
  have hdropped := h.dropped
  rw [Switchboard.listening_eq, hx] at hdropped
  rw [Switchboard.listening_eq, hx']
  exact hages.listening hdropped

/-- Its entry is not among those whose subscriptions are held. -/
theorem filter_erase (h : c.Abandoned n) (hc : c.Coherent) :
    (c.board.session.roster.erase (c.newId n)).inOrder.filter (c.board.listening ·.consumer) =
      c.board.session.roster.inOrder.filter (c.board.listening ·.consumer) := by
  rw [Roster.inOrder_erase, List.filter_filter]
  refine List.filter_congr fun entry hentry => ?_
  cases hl : c.board.listening entry.consumer with
  | false => rfl
  | true =>
    have hne : entry.id ≠ c.newId n := by
      intro hid
      have hn := hc.fresh ((hc.id_of_entry (Roster.mem_inOrder.1 hentry)).1.symm.trans hid)
      rw [hn, h.dropped] at hl
      cases hl
    simp [hne]

end Abandoned

/-! ## What the journal says about the session -/

section Evidence

/-- An item for a subscription that is read in an acknowledged session is routed. -/
theorem session_of_item (hc : c.Coherent) (hp : c.phase = .acknowledged) {k : Nat} {m : Message}
    {item : Item} (hread : (k, .ok (.message m)) ∈ c.reads e) (hitem : m.item? = some (id, item)) :
    (c.perform e).board.session = (c.board.session.route c.board.listening id item).1 := by
  obtain ⟨a, link, frame, rest, h, -, hframe⟩ := readsIn_of_mem hread
  have hack : link.acknowledged = true :=
    (hc.acknowledged_of_holds (.of_mem h.agent h.reads.told h.reads.stage)).1 hp
  rw [h.board_of_item hc hack hframe hitem, Switchboard.commit_session]

/-- Something undecodable that is read in an acknowledged session ends the subscription whose id
the error carries. -/
theorem session_of_undecodable (hc : c.Coherent) (hp : c.phase = .acknowledged) {k : Nat}
    {error : DecodeError} (hread : (k, .error error) ∈ c.reads e) (hid : error.id? = some id) :
    (c.perform e).board.session = (c.board.session.endOne id (.decodeFailed error) true).1 := by
  obtain ⟨a, link, frame, rest, h, -, hframe⟩ := readsIn_of_mem hread
  have hack : link.acknowledged = true :=
    (hc.acknowledged_of_holds (.of_mem h.agent h.reads.told h.reads.stage)).1 hp
  rw [h.board, h.attend_of_id hc hack hframe hid, Switchboard.commit_session]

/-- What cannot be sent in the background is not for a subscription. -/
theorem id?_of_background {sb : Switchboard} (hsame : sb.failures = c.board.failures)
    (h : sb.Background (c.perform e).board) {m : Message} (hm : m ∈ c.fails e) : m.id? = none := by
  obtain ⟨news, hjournal, hback⟩ := h
  have hfails : c.fails e = (news.filterMap fun entry => entry.notice.failure?).reverse := by
    refine fails_of_failures ?_
    rw [← hsame]
    unfold Switchboard.failures
    rw [hjournal, List.filterMap_append, List.reverse_append]
  rw [hfails, List.mem_reverse, List.mem_filterMap] at hm
  obtain ⟨entry, hentry, hm⟩ := hm
  exact Notice.id?_of_failure? (hback entry hentry) hm

/-- A send from the queue fails or not, and if it fails it ends the subscription of the message. -/
theorem failures_of_sendNext {a : Agent} (sb : Switchboard) {link : Link}
    (hk : link.socket < sb.lines.length) (hcur : sb.isOutdated a.epoch = false) (m : Message) :
    (a.sendNext sb link m).2.failures = sb.failures ∨
      (a.sendNext sb link m).2.failures = sb.failures ++ [m] ∧ ∀ id, m.id? = some id →
        ∃ error, (a.sendNext sb link m).2.session =
          (sb.session.endOne id (.sendFailed error) false).1 := by
  obtain ⟨arrived, hsend⟩ := sb.exchange_send link.socket hk (.message m)
  unfold Agent.sendNext
  split
  · next sb' heq =>
    rw [heq] at hsend
    refine Or.inl (hsend.failures.trans ?_)
    exact List.append_nil _
  · next error sb' heq =>
    rw [heq] at hsend
    have hin : sb'.isOutdated a.epoch = false := by rw [hsend.isOutdated, hcur]
    right
    cases hid : m.id? with
    | none => exact ⟨hsend.failures, nofun⟩
    | some id =>
      simp only [Switchboard.endOne, hin, Bool.false_eq_true, if_false]
      refine ⟨(Switchboard.commit_failures ..).trans hsend.failures, fun id' hid' => ?_⟩
      obtain rfl := Option.some.inj hid'
      exact ⟨error, by rw [Agent.serve, Switchboard.commit_session, hsend.session]⟩

/-- A message for a subscription that cannot be sent was the first of the outgoing queue, and the
subscription ends without a word to the server. -/
theorem session_of_failure (hc : c.Coherent) {m : Message} (hm : m ∈ c.fails e)
    (hid : m.id? = some id) : ∃ rest error, c.board.session.outgoing = some (m :: rest) ∧
      (c.perform e).board.session = (({ c.board.session with outgoing := some rest } :
        Session).endOne id (.sendFailed error) false).1 := by
  have hnot {sb : Switchboard} (hsame : sb.failures = c.board.failures) :
      ¬ sb.Background (c.perform e).board := fun hback => by
    rw [id?_of_background hsame hback hm] at hid
    cases hid
  cases he : e.isTurn with
  | false => exact absurd (background_perform he) (hnot rfl)
  | true =>
    rcases c.perform_cases he with hsame | ⟨pre, a, post, o, board, hagents, ht, h⟩
    · exact absurd (.of_journal (by rw [hsame])) (hnot rfl)
    · have hfits := hc.agents a (mem_of_split hagents)
      have hboard : (c.perform e).board = board := by rw [h]
      rcases a.turn_cases ht with hback | ⟨link, m', rest, hsends⟩ | ⟨link, frame, rest, hreads⟩
      · exact absurd (hboard ▸ hback) (hnot rfl)
      · obtain ⟨queue, hout, hqueue⟩ := Switchboard.nextOutgoing_eq_some hsends.queue
        have hrest : rest = queue := by
          have hsession := congrArg (fun sb : Switchboard => sb.session.outgoing) hqueue
          exact Option.some.inj hsession
        subst hrest
        have hturn := Option.some.inj ((Agent.turn_of_sends hsends).symm.trans ht)
        have hboard' : (c.perform e).board = (a.sendNext { c.board with
            session := { c.board.session with outgoing := some rest } } link m').2 := by
          rw [hboard, hturn]
        rcases failures_of_sendNext { c.board with
            session := { c.board.session with outgoing := some rest } } (hfits.bound link hsends.stage)
          (hfits.isOutdated hsends.told) m' with hnone | ⟨hone, hends⟩
        · have hfails : c.fails e = [] := by
            refine fails_of_failures ?_
            rw [hboard', hnone, List.append_nil]
            rfl
          rw [hfails] at hm
          cases hm
        · have hfails : c.fails e = [m'] := by
            refine fails_of_failures ?_
            rw [hboard', hone]
            rfl
          rw [hfails, List.mem_singleton] at hm
          subst hm
          obtain ⟨error, hsession⟩ := hends id hid
          exact ⟨rest, error, hout, hboard' ▸ hsession⟩
      · have hturn := Option.some.inj ((Agent.turn_of_reads hreads).symm.trans ht)
        have hback := a.background_attend (c.board.hear link.socket (Incoming.ofFrame frame) rest)
          link (Incoming.ofFrame frame)
        rw [hturn, ← hboard] at hback
        exact absurd hback (hnot rfl)

end Evidence

/-! ## Who is forgotten when a subscription is taken on -/

section Forgotten

theorem mem_abandoned (hc : c.Coherent) : n ∈ c.abandoned ↔ c.Abandoned n := by
  unfold abandoned
  rw [List.mem_filter, List.mem_range, Bool.and_eq_true, decide_eq_true_eq, Bool.not_eq_true']
  constructor
  · rintro ⟨-, hreg, hdropped⟩
    exact ⟨hreg, hdropped⟩
  · intro h
    exact ⟨h.known hc, h.registered, h.dropped⟩

/-- A pruning forgets what is abandoned, in the order of creation. -/
theorem forgotten_eq (hc : c.Coherent) (hascending : c.board.session.roster.numbers.Pairwise (· < ·))
    {listening : Nat → Bool} (hlistening : ∀ entry ∈ c.board.session.roster.entries,
      listening entry.consumer = c.board.listening entry.consumer) :
    c.board.session.forgotten listening = c.abandoned.map c.newId := by
  have hleft : c.board.session.forgotten listening =
      (c.board.session.roster.numbers.filter fun n => !c.board.listening n).map c.newId := by
    show (Roster.sort (c.board.session.roster.entries.filter _)).map Roster.Entry.id = _
    rw [Roster.sort_filter]
    show (c.board.session.roster.inOrder.filter _).map Roster.Entry.id = _
    rw [Roster.numbers, List.filter_map, List.map_map]
    rw [List.filter_congr (q := (fun n => !c.board.listening n) ∘ Roster.Entry.consumer)
      fun entry hentry => congrArg Bool.not (hlistening entry (Roster.mem_inOrder.1 hentry))]
    refine List.map_congr_left fun entry hentry => ?_
    exact (hc.id_of_entry (Roster.mem_inOrder.1 (List.mem_filter.1 hentry).1)).1
  rw [hleft]
  congr 1
  -- both lists ascend, and they have the same members
  refine (hascending.filter _).eq_of_mem_iff (List.pairwise_lt_range.filter _) fun n => ?_
  show _ ↔ n ∈ c.abandoned
  rw [mem_abandoned hc, List.mem_filter, Roster.mem_numbers, hc.feeds_iff_registered,
    Bool.not_eq_true']
  exact ⟨fun h => ⟨h.1, h.2⟩, fun h => ⟨h.1, h.2⟩⟩

end Forgotten

/-! ## What each of the events does -/

/-- An acknowledged session connects again only when its socket is lost. -/
theorem Change.suspended {s : Session} (h : c.Change e s) (hp : c.phase = .acknowledged)
    (hlost : s.phase = .connecting) : s = c.board.session.suspend c.board.listening := by
  have hp' : c.board.session.phase ≠ .connecting := hp.trans_ne nofun
  cases h with
  | lost => rfl
  | still | sent => exact absurd hlost hp'
  | taken => rw [Session.subscribe_phase] at hlost; exact absurd hlost hp'
  | cancelled => rw [Session.cancel_phase] at hlost; exact absurd hlost hp'
  | halted | ended => rw [Session.terminate_phase] at hlost; cases hlost
  | unsent => rw [Session.endOne_phase] at hlost; exact absurd hlost hp'
  | acknowledged hconnecting => exact absurd hconnecting hp'
  | routed => rw [Session.route_phase] at hlost; exact absurd hlost hp'
  | endedOne => rw [Session.endOne_phase] at hlost; exact absurd hlost hp'

/-- What an event can make of the registry. -/
inductive Registry (c : Client) (s : Session) : Prop
  | same (h : s.roster = c.board.session.roster)
  | erased (id : String) (h : s.roster = c.board.session.roster.erase id)
  /-- Those whose consumer is gone are forgotten. -/
  | pruned (h : s.roster = (c.board.session.roster.prune c.board.listening).2)
  /-- They are forgotten, and the next subscription is registered. -/
  | grown (operation : Operation) {listening : Nat → Bool}
      (hlistening : ∀ entry ∈ c.board.session.roster.entries,
        listening entry.consumer = c.board.listening entry.consumer)
      (h : s.roster = (c.board.session.roster.prune listening).2.insert
        (c.newId c.board.consumers.length) operation c.board.consumers.length)
  /-- The session is over. -/
  | emptied (hp : s.phase = .notStarted) (h : s.roster.entries = [])

theorem Change.registry {s : Session} (h : c.Change e s) : c.Registry s := by
  cases h with
  | still | sent => exact .same rfl
  | taken operation he hallow hlistening =>
    exact .grown operation hlistening (Session.subscribe_roster ..)
  | cancelled => exact .erased _ (Session.cancel_roster ..)
  | halted | ended =>
    exact .emptied (Session.terminate_phase ..) (congrArg _ (Session.terminate_roster ..))
  | lost => exact .pruned (Session.suspend_roster ..)
  | unsent | endedOne => exact .erased _ (Session.endOne_roster ..)
  | acknowledged => exact .pruned (Session.acknowledge_roster ..)
  | @routed k m id item =>
    have hroster := c.board.session.route_roster c.board.listening id item
    split at hroster
    · exact .same hroster
    · exact .erased _ hroster

/-- Who is taken from the registry is forgotten. -/
theorem not_mem_of_erase
    (hroster : (c.perform e).board.session.roster = c.board.session.roster.erase (c.newId n)) :
    c.newId n ∉ (c.perform e).ids := by
  rw [ids, hroster]
  exact fun hmem => (Session.mem_ids_erase.1 hmem).2 rfl

namespace Abandoned

section Events

variable (h : c.Abandoned n) (hc : c.Coherent)

include h hc

/-- What is queued in an event that appends to the queue of an acknowledged session. -/
theorem queues_of_append (hp : c.phase = .acknowledged) (new : List Message)
    (hout : (c.perform e).board.session.outgoing = c.board.session.outgoing.map (· ++ new)) :
    c.queues e = new := by
  obtain ⟨queue, hqueue⟩ := Option.isSome_iff_exists.1 (hc.session.queue.2 hp)
  rw [queues_eq hc (h.started hc), hout, hqueue]
  exact Switchboard.newMessages_append queue new

/-- A pruning forgets it. -/
theorem not_mem_prune {listening : Nat → Bool}
    (hlistening : ∀ entry ∈ c.board.session.roster.entries,
      listening entry.consumer = c.board.listening entry.consumer) :
    c.newId n ∉ (c.board.session.roster.prune listening).2.ids := by
  intro hmem
  obtain ⟨entry, hentry, hid⟩ := Roster.mem_ids.1 hmem
  obtain ⟨hentry, hlistens⟩ := Roster.mem_prune.1 hentry
  have hn : entry.consumer = n := hc.fresh ((hc.id_of_entry hentry).1.symm.trans hid)
  rw [hlistening entry hentry, hn, h.dropped] at hlistens
  cases hlistens

/-- The session after a subscription was taken on. -/
theorem session_of_subscribe {operation : Operation}
    (hallow : c.allows (.subscribe operation) = true) : ∃ listening : Nat → Bool,
      (∀ entry ∈ c.board.session.roster.entries,
        listening entry.consumer = c.board.listening entry.consumer) ∧
      (c.perform (.subscribe operation)).board.session =
        c.board.session.subscribe listening (c.newId c.board.consumers.length) operation
          c.board.consumers.length := by
  have hperform : c.perform (.subscribe operation) = c.enlisted operation :=
    (if_pos hallow).trans (subscribe_of_started (h.started hc) operation)
  rw [hperform]
  refine ⟨_, fun entry hentry => ?_, c.enlisted_session operation⟩
  have hlt := (hc.id_of_entry hentry).2
  rw [Switchboard.listening_eq, Switchboard.listening_eq, List.getElem?_append_left hlt]

/-- Before another subscription is asked for, the server is told about all that are abandoned, in the
order of creation. -/
theorem queues_of_subscribe (hp : c.phase = .acknowledged)
    (hascending : c.board.session.roster.numbers.Pairwise (· < ·)) {operation : Operation}
    (hallow : c.allows (.subscribe operation) = true) : c.queues (.subscribe operation) =
      (c.abandoned.map fun m => .complete (c.newId m)) ++
        [.subscribe (c.newId c.board.consumers.length) operation] := by
  obtain ⟨listening, hlistening, hsession⟩ := h.session_of_subscribe hc hallow
  apply h.queues_of_append hc hp
  rw [hsession, Session.subscribe_outgoing_of_acknowledged hp,
    forgotten_eq hc hascending hlistening, List.map_map]
  rfl

/-- The subscription is forgotten, and the server is told. -/
theorem retracted (hp : c.phase = .acknowledged)
    (hroster : (c.perform e).board.session.roster = c.board.session.roster.erase (c.newId n))
    (hout : (c.perform e).board.session.outgoing =
      c.board.session.outgoing.map (· ++ [.complete (c.newId n)])) :
    c.newId n ∉ (c.perform e).ids ∧
      about (c.newId n) (c.queues e) = [.complete (c.newId n)] := by
  refine ⟨not_mem_of_erase hroster, ?_⟩
  rw [h.queues_of_append hc hp [.complete (c.newId n)] hout]
  simp [about, Message.id?]

/-- Nothing is queued if the queue is given up, or stays. -/
theorem unqueued (hout : (c.perform e).board.session.outgoing = none ∨
    (c.perform e).board.session.outgoing = c.board.session.outgoing) :
    about (c.newId n) (c.queues e) = [] := by
  rw [queues_eq hc (h.started hc)]
  rcases hout with hout | hout
  · rw [hout, Switchboard.newMessages_none]
    rfl
  · rw [hout, Switchboard.newMessages_self]
    rfl

/-- When another subscription is asked for, the subscription is forgotten and the server is told. -/
theorem removed_of_subscribe (hp : c.phase = .acknowledged)
    (hascending : c.board.session.roster.numbers.Pairwise (· < ·)) {operation : Operation}
    (hallow : c.allows (.subscribe operation) = true) :
    c.newId n ∉ (c.perform (.subscribe operation)).ids ∧
      about (c.newId n) (c.queues (.subscribe operation)) = [.complete (c.newId n)] := by
  obtain ⟨listening, hlistening, hsession⟩ := h.session_of_subscribe hc hallow
  have hne : c.newId n ≠ c.newId c.board.consumers.length := fun heq =>
    absurd (hc.fresh heq) (Nat.ne_of_lt (h.known hc))
  constructor
  · rw [ids, hsession, Session.mem_ids_subscribe, Session.prune_roster]
    exact not_or.2 ⟨hne, h.not_mem_prune hc hlistening⟩
  · have hnodup : (c.abandoned.map c.newId).Nodup :=
      (List.nodup_range.filter _).map hc.fresh
    have hmem : c.newId n ∈ c.abandoned.map c.newId :=
      List.mem_map_of_mem ((mem_abandoned hc).2 h)
    have hcompletes : (c.abandoned.map fun m => Message.complete (c.newId m)) =
        (c.abandoned.map c.newId).map .complete := List.map_map.symm
    have hother : about (c.newId n)
        [.subscribe (c.newId c.board.consumers.length) operation] = [] := by
      simp [about, Message.id?, hne.symm]
    rw [h.queues_of_subscribe hc hp hascending hallow, about_append, hcompletes,
      about_completes hnodup, if_pos hmem, hother]
    rfl

/-- Each of the events forgets the subscription, and tells the server once or not at all. -/
theorem removed (hp : c.phase = .acknowledged)
    (hascending : c.board.session.roster.numbers.Pairwise (· < ·)) {told : Bool}
    (hremoval : c.Removal n e told) : c.newId n ∉ (c.perform e).ids ∧
      about (c.newId n) (c.queues e) = if told then [.complete (c.newId n)] else [] := by
  have hstarted := h.started hc
  have hp' : c.board.session.phase = .acknowledged := hp
  obtain ⟨entry, hf, hentry⟩ := h.entry hc
  cases hremoval with
  | @subscribe operation he hallow =>
    subst he
    exact h.removed_of_subscribe hc hp hascending hallow
  | @next k result hread =>
    have hsession := session_of_item hc hp hread rfl
    have hdismiss : c.board.session.dismisses c.board.listening (c.newId n) (.next result) = true :=
      (Session.dismisses_iff ..).2 ⟨entry, hf, rfl, hentry ▸ h.dropped⟩
    apply h.retracted hc hp
    · rw [hsession, Session.route_roster, hf, if_neg (by simp [hentry, h.dropped])]
    · rw [hsession, Session.route_outgoing, if_pos hdismiss]
  | @last k m item hread hitem hlast =>
    have hsession := session_of_item hc hp hread hitem
    constructor
    · apply not_mem_of_erase
      rw [hsession, Session.route_roster, hf, if_neg (by simp [hlast])]
    · apply h.unqueued hc
      right
      rw [hsession, Session.route_outgoing, if_neg]
      intro hdismiss
      obtain ⟨-, -, hmore, -⟩ := (Session.dismisses_iff ..).1 hdismiss
      rw [hlast] at hmore
      cases hmore
  | @undecodable k error hread hid =>
    have hsession := session_of_undecodable hc hp hread hid
    rw [Session.endOne_of_registered _ _ _ _ hf, if_pos ⟨rfl, hp'⟩] at hsession
    exact h.retracted hc hp (by rw [hsession]) (by rw [hsession])
  | @unsent operation hfails =>
    obtain ⟨rest, error, hout, hsession⟩ := session_of_failure hc hfails rfl
    refine ⟨not_mem_of_erase (by rw [hsession, Session.endOne_roster]), ?_⟩
    rw [queues_eq hc hstarted, hsession, Session.endOne_outgoing_silent, hout,
      Switchboard.newMessages_tail]
    rfl
  | cancel he =>
    subst he
    obtain ⟨x, hx, hname, hfirst⟩ := h.consumer hc
    have hcancels : (Event.cancelByHandle n).cancels n = true := by simp [Event.cancels]
    have hsession := session_of_first_cancel hc hx hfirst hcancels rfl
    rw [hname] at hsession
    apply h.retracted hc hp
    · rw [hsession, Session.cancel_roster]
    · rw [hsession, cancel_outgoing, retraction?, if_pos ⟨h.registered, hp⟩]
  | lost hlost =>
    have hnone := (hc.perform e).session.outgoing_eq_none (hlost.trans_ne (by decide))
    have hsession := (changes_perform hc hstarted e).change.suspended hp hlost
    refine ⟨?_, h.unqueued hc (Or.inl hnone)⟩
    rw [ids, hsession, Session.suspend_roster]
    exact h.not_mem_prune hc fun _ _ => rfl
  | ended hended =>
    have hnone := (hc.perform e).session.outgoing_eq_none (hended.trans_ne (by decide))
    refine ⟨fun hmem => ?_, h.unqueued hc (Or.inl hnone)⟩
    obtain ⟨entry', hentry', -⟩ := Roster.mem_ids.1 hmem
    rw [((hc.perform e).session.idle hended).1] at hentry'
    cases hentry'

end Events

/-- A message about it that waits to be sent in an acknowledged session asks for it. -/
theorem asks_of_outgoing (h : c.Abandoned n) (hc : c.Coherent) (hq : c.Queued) (hs : c.Outspoken)
    {m : Message} {rest : List Message} (hout : c.board.session.outgoing = some (m :: rest))
    (hid : m.id? = some (c.newId n)) : ∃ operation, m = .subscribe (c.newId n) operation := by
  have hp : c.phase = .acknowledged := hc.session.queue.1 (by rw [hout]; rfl)
  obtain ⟨k, hk⟩ := hc.holds_of_acknowledged hp
  obtain ⟨operation, hasked⟩ := hs.asked _ h.registered k hk
  have hmem : m ∈ c.board.queuedFor k := by
    rw [hq.left k hk, hout]
    exact List.mem_append_right _ (List.mem_cons_self ..)
  have habout : m ∈ about (c.newId n) (c.board.queuedFor k) := mem_about.2 ⟨hmem, hid⟩
  rw [hasked, List.mem_singleton] at habout
  exact ⟨operation, habout⟩

/-- What an erasure removes is what is erased. -/
theorem eq_of_erase (h : c.Abandoned n) {id : String}
    (hgone : c.newId n ∉ (c.board.session.roster.erase id).ids) : id = c.newId n := by
  by_contra hne
  exact hgone (Session.mem_ids_erase.2 ⟨h.registered, Ne.symm hne⟩)

/-- Only one of the events makes an acknowledged session forget the subscription. -/
theorem removal_of_gone (h : c.Abandoned n) (hc : c.Coherent) (hq : c.Queued) (hs : c.Outspoken)
    (hp : c.phase = .acknowledged) (hgone : c.newId n ∉ (c.perform e).ids) :
    ∃ told, c.Removal n e told := by
  have hchange := (changes_perform hc (h.started hc) e).change
  unfold ids at hgone
  generalize hsession : (c.perform e).board.session = s at hchange hgone
  cases hchange with
  | still | sent => exact absurd h.registered hgone
  | taken operation he hallow hlistening => exact ⟨true, .subscribe he hallow⟩
  | @cancelled m he =>
    obtain rfl : m = n := by
      rw [Session.cancel_roster] at hgone
      exact hc.fresh (h.eq_of_erase hgone)
    cases e with
    | cancelByHandle k => exact ⟨true, .cancel (by rw [beq_iff_eq.1 he])⟩
    | cancel k =>
      -- what nobody holds is cancelled through a handle only
      have hk : k = m := beq_iff_eq.1 he
      have hallow : c.allows (.cancel k) = false := hk ▸ h.dropped
      have hsame : c.perform (.cancel k) = c := if_neg (by simp [hallow])
      rw [hsame] at hsession
      rw [← hsession] at hgone
      exact absurd h.registered hgone
    | _ => cases he
  | halted | ended =>
    refine ⟨false, .ended ?_⟩
    rw [phase, hsession, Session.terminate_phase]
  | lost =>
    refine ⟨false, .lost ?_⟩
    rw [phase, hsession, Session.suspend_phase]
  | @unsent m rest id hout hid hfails error =>
    rw [Session.endOne_roster] at hgone
    obtain rfl := h.eq_of_erase hgone
    obtain ⟨operation, rfl⟩ := h.asks_of_outgoing hc hq hs hout hid
    have hfailed : .subscribe (c.newId n) operation ∈ c.fails e := by
      rw [hfails]
      exact List.mem_singleton_self _
    exact ⟨false, .unsent hfailed⟩
  | acknowledged hconnecting => rw [hp] at hconnecting; cases hconnecting
  | @routed k m id item hreads hitem =>
    rw [Session.route_roster] at hgone
    split at hgone
    · exact absurd h.registered hgone
    · obtain rfl := h.eq_of_erase hgone
      have hread : (k, .ok (.message m)) ∈ c.reads e := by
        rw [hreads]
        exact List.mem_singleton_self _
      cases hlast : item.isLast with
      | true => exact ⟨false, .last hread hitem hlast⟩
      | false =>
        -- only a `next` has a successor
        cases m with
        | next i result =>
          cases hitem
          exact ⟨true, .next hread⟩
        | error i errors => cases hitem; cases hlast
        | complete i => cases hitem; cases hlast
        | _ => cases hitem
  | @endedOne k error id hreads hid =>
    rw [Session.endOne_roster] at hgone
    obtain rfl := h.eq_of_erase hgone
    exact ⟨true, .undecodable (by rw [hreads]; exact List.mem_singleton_self _) hid⟩

/-- As long as the subscription is registered, the session stays acknowledged and nothing is queued
about it. -/
theorem kept (h : c.Abandoned n) (hc : c.Coherent) (hp : c.phase = .acknowledged)
    (hascending : c.board.session.roster.numbers.Pairwise (· < ·))
    (hreg : c.newId n ∈ (c.perform e).ids) :
    (c.perform e).phase = .acknowledged ∧ about (c.newId n) (c.queues e) = [] := by
  have hstarted := h.started hc
  have hp' : (c.perform e).phase = .acknowledged := by
    cases hphase : (c.perform e).phase with
    | acknowledged => rfl
    | connecting => exact absurd hreg (h.removed hc hp hascending (.lost hphase)).1
    | notStarted => exact absurd hreg (h.removed hc hp hascending (.ended hphase)).1
  refine ⟨hp', ?_⟩
  have hother {id : String} (hid : c.newId n ≠ id) : about (c.newId n) [.complete id] = [] := by
    simp [about, Message.id?, hid.symm]
  have hsame (hout : (c.perform e).board.session.outgoing = c.board.session.outgoing) :
      about (c.newId n) (c.queues e) = [] := h.unqueued hc (Or.inr hout)
  have hchange := (changes_perform hc hstarted e).change
  unfold ids at hreg
  unfold phase at hp'
  generalize hsession : (c.perform e).board.session = s at hchange hreg hp'
  cases hchange with
  | still => exact hsame (by rw [hsession])
  | taken operation he hallow =>
    refine absurd ?_ (h.removed hc hp hascending (.subscribe he hallow)).1
    rwa [ids, hsession]
  | @cancelled m he =>
    rw [Session.cancel_roster] at hreg
    rw [h.queues_of_append hc hp (c.retraction? (c.newId m))
      (by rw [hsession, cancel_outgoing])]
    unfold retraction?
    split
    · exact hother (Session.mem_ids_erase.1 hreg).2
    · rfl
  | halted | ended => rw [Session.terminate_phase] at hp'; cases hp'
  | lost => rw [Session.suspend_phase] at hp'; cases hp'
  | sent hout =>
    rw [queues_eq hc hstarted, hsession, hout]
    exact congrArg _ (Switchboard.newMessages_tail ..)
  | unsent hout hid hfails error =>
    rw [queues_eq hc hstarted, hsession, Session.endOne_outgoing_silent, hout]
    exact congrArg _ (Switchboard.newMessages_tail ..)
  | acknowledged hconnecting => rw [hp] at hconnecting; cases hconnecting
  | @routed k m id item hreads hitem =>
    cases hdismiss : c.board.session.dismisses c.board.listening id item with
    | false =>
      exact hsame (by rw [hsession, Session.route_outgoing, hdismiss]; rfl)
    | true =>
      obtain ⟨entry, hf, hmore, hdeaf⟩ := (Session.dismisses_iff ..).1 hdismiss
      rw [Session.route_roster, hf, if_neg (by simp [hmore, hdeaf])] at hreg
      rw [h.queues_of_append hc hp [.complete id]
        (by rw [hsession, Session.route_outgoing, if_pos hdismiss])]
      exact hother (Session.mem_ids_erase.1 hreg).2
  | @endedOne k error id hreads hid =>
    rw [Session.endOne_roster] at hreg
    cases hf : c.board.session.roster.find? id with
    | none =>
      exact hsame (by rw [hsession, Session.endOne_of_unknown _ _ _ _ hf])
    | some entry =>
      rw [h.queues_of_append hc hp [.complete id]]
      · exact hother (Session.mem_ids_erase.1 hreg).2
      · rw [hsession, Session.endOne_of_registered _ _ _ _ hf]
        exact if_pos ⟨rfl, hp⟩

/-- A pruning leaves what is held as it is. -/
theorem filter_prune {listening : Nat → Bool} (hlistening : ∀ entry ∈ c.board.session.roster.entries,
    listening entry.consumer = c.board.listening entry.consumer) :
    (c.board.session.roster.prune listening).2.inOrder.filter (c.board.listening ·.consumer) =
      c.board.session.roster.inOrder.filter (c.board.listening ·.consumer) := by
  rw [Roster.inOrder_prune, List.filter_filter]
  refine List.filter_congr fun entry hentry => ?_
  rw [hlistening entry (Roster.mem_inOrder.1 hentry), Bool.and_self]

/-- The event that makes the session forget the subscription leaves the entries of those that are
held as they are, in their order, unless it ends the session. -/
theorem held_of_gone (h : c.Abandoned n) (hc : c.Coherent)
    (hgone : c.newId n ∉ (c.perform e).ids) (hp : (c.perform e).phase ≠ .notStarted) :
    (c.perform e).board.session.roster.inOrder.filter (c.board.listening ·.consumer) =
      c.board.session.roster.inOrder.filter (c.board.listening ·.consumer) := by
  have hregistry := (changes_perform hc (h.started hc) e).change.registry
  unfold ids at hgone
  unfold phase at hp
  cases hregistry with
  | same hroster => rw [hroster]
  | erased id hroster =>
    rw [hroster] at hgone ⊢
    rw [h.eq_of_erase hgone]
    exact h.filter_erase hc
  | pruned hroster =>
    rw [hroster]
    exact filter_prune fun _ _ => rfl
  | grown operation hlistening hroster =>
    rename_i listening
    have hnew : c.board.listening c.board.consumers.length = false := by
      rw [Switchboard.listening_eq, List.getElem?_eq_none (le_refl _)]
      rfl
    have hold : (c.board.session.roster.prune listening).2.inOrder.filter
        (·.id != c.newId c.board.consumers.length) =
          (c.board.session.roster.prune listening).2.inOrder := by
      refine List.filter_eq_self.2 fun entry hentry => ?_
      have hentry := (Roster.mem_prune.1 (Roster.mem_inOrder.1 hentry)).1
      exact bne_iff_ne.2 fun heq => hc.next_not_mem (heq ▸ Roster.ids_of_mem hentry)
    rw [hroster, Roster.inOrder_insert (hc.session.roster.prune listening), hold,
      List.filter_append, filter_prune hlistening]
    refine (congrArg _ ?_).trans (List.append_nil _)
    exact List.filter_cons_of_neg (by simp [hnew])
  | emptied hover => exact absurd hover hp

end Abandoned

/-- Whatever happens, the entries that stay are not touched, and they stay in their order. -/
theorem Registry.sublist {s : Session} (h : c.Registry s) (hc : c.Coherent) :
    (s.roster.inOrder.filter (·.consumer < c.board.consumers.length)).Sublist
      c.board.session.roster.inOrder := by
  have hfilter {l : List Roster.Entry} (hl : l.Sublist c.board.session.roster.inOrder) :
      (l.filter (·.consumer < c.board.consumers.length)).Sublist
        c.board.session.roster.inOrder := List.filter_sublist.trans hl
  have hprune (listening : Nat → Bool) : (c.board.session.roster.prune listening).2.inOrder.Sublist
      c.board.session.roster.inOrder := by
    rw [Roster.inOrder_prune]
    exact List.filter_sublist
  cases h with
  | same hroster =>
    rw [hroster]
    exact List.filter_sublist
  | erased id hroster =>
    rw [hroster, Roster.inOrder_erase]
    exact hfilter List.filter_sublist
  | pruned hroster =>
    rw [hroster]
    exact hfilter (hprune _)
  | grown operation hlistening hroster =>
    rw [hroster, Roster.inOrder_insert (hc.session.roster.prune _), List.filter_append]
    -- the new entry is that of the next consumer
    refine ((List.append_right_eq_self.2 ?_).symm ▸ hfilter (List.filter_sublist.trans (hprune _)))
    exact List.filter_cons_of_neg (by simp)
  | emptied hp hroster =>
    rw [Roster.inOrder, hroster]
    exact hfilter (List.nil_sublist _)

/-! ## Runs -/

/-- What every run keeps, and what the laws above need. -/
structure Regular (c : Client) : Prop where
  coherent : c.Coherent
  queued : c.Queued
  outspoken : c.Outspoken
  chronological : c.board.session.roster.Chronological

namespace Regular

theorem step (h : c.Regular) (hstep : Step e c c') : c'.Regular where
  coherent := h.coherent.step hstep
  queued := h.queued.step h.coherent hstep
  outspoken := h.outspoken.step h.coherent h.queued hstep
  chronological := chronological_step h.coherent hstep h.chronological

theorem perform (h : c.Regular) (e : Event) : (c.perform e).Regular :=
  perform_induction (fun _ _ h hstep => h.step hstep) h

theorem run (h : c.Regular) (es : List Event) : (c.run es).Regular :=
  run_induction (fun _ _ _ h hstep => h.step hstep) h es

/-- The registered subscriptions are in the order of creation. -/
theorem ascending (h : c.Regular) : c.board.session.roster.numbers.Pairwise (· < ·) :=
  h.chronological.ascending h.coherent.session.roster h.coherent.distinct

end Regular

theorem regular_run (settings : Settings) (transport : Transport) {newId : Nat → String}
    (hid : Function.Injective newId) (es : List Event) :
    ((create settings transport newId).run es).Regular :=
  Regular.run ⟨coherent_create settings transport hid, queued_run settings transport hid [],
    outspoken_create settings transport newId, fun _ he => absurd he List.not_mem_nil⟩ es

/-- What becomes of an abandoned subscription of an acknowledged session. -/
inductive Fate (c : Client) (n : Nat) (later : List Event) : Prop
  /-- It is still abandoned, the session is still acknowledged, and nothing was queued about it. -/
  | kept (h : (c.run later).Abandoned n) (hp : (c.run later).phase = .acknowledged)
      (hqueued : about (c.newId n) (c.run later).board.queuings =
        about (c.newId n) c.board.queuings)
  /-- One of the events removed it, the first of them that happened, and said to the server what
  there was to say. -/
  | removed {before after : List Event} {e : Event} {told : Bool}
      (hsplit : later = before ++ e :: after) (h : (c.run before).Abandoned n)
      (hp : (c.run before).phase = .acknowledged) (hremoval : (c.run before).Removal n e told)
      (hgone : ∀ rest, c.newId n ∉ (c.run (before ++ e :: rest)).ids)
      (hqueued : ∀ rest, about (c.newId n) (c.run (before ++ e :: rest)).board.queuings =
        about (c.newId n) c.board.queuings ++ if told then [.complete (c.newId n)] else [])

namespace Abandoned

/-- What an event queues is what the journal gets. -/
theorem queuings_perform (h : c.Abandoned n) (hc : c.Coherent) (e : Event) :
    about (c.newId n) (c.perform e).board.queuings =
      about (c.newId n) c.board.queuings ++ about (c.newId n) (c.queues e) := by
  rw [← about_append, queues_eq hc (h.started hc)]
  exact congrArg _ (changes_perform hc (h.started hc) e).queuings

/-- The first of the events that happens removes the subscription. -/
theorem fate (h : c.Abandoned n) (hr : c.Regular) (hp : c.phase = .acknowledged)
    (later : List Event) : c.Fate n later := by
  induction later generalizing c with
  | nil => exact .kept h hp rfl
  | cons e es ih =>
    have hc := hr.coherent
    have hr' := hr.perform e
    have hnewId := newId_perform c e
    by_cases hreg : c.newId n ∈ (c.perform e).ids
    · -- nothing was said, and the rest of the run decides
      obtain ⟨hp', hnone⟩ := h.kept hc hp hr.ascending hreg
      have hsame := h.queuings_perform hc e
      rw [hnone, List.append_nil] at hsame
      have h' : (c.perform e).Abandoned n := ⟨by rwa [hnewId], h.still_dropped hc e⟩
      cases ih h' hr' hp' with
      | kept h'' hp'' hqueued =>
        rw [hnewId, hsame] at hqueued
        exact .kept h'' hp'' hqueued
      | @removed before after e' told hsplit h'' hp'' hremoval hgone hqueued =>
        rw [hnewId] at hgone hqueued
        rw [hsame] at hqueued
        have hsplit' : e :: es = (e :: before) ++ e' :: after := congrArg (e :: ·) hsplit
        exact .removed hsplit' h'' hp'' hremoval hgone hqueued
    · obtain ⟨told, hremoval⟩ := h.removal_of_gone hc hr.queued hr.outspoken hp hreg
      have hsaid := (h.removed hc hp hr.ascending hremoval).2
      have hknown : n < (c.perform e).board.consumers.length := by
        obtain ⟨x, hx, -⟩ := h.consumer hc
        obtain ⟨x', hx', -⟩ := ages_perform hc hx e
        exact (List.getElem?_eq_some_iff.1 hx').1
      have hmute : (c.perform e).Mute n := ⟨hknown, Or.inl (by rwa [hnewId])⟩
      have hfirst : e :: es = [] ++ e :: es := rfl
      refine .removed hfirst h hp hremoval (fun rest => ?_) fun rest => ?_
      · have hrun := gone_run hr'.coherent hknown (by rwa [hnewId]) rest
        rwa [hnewId] at hrun
      · have hrun := (hmute.run hr'.coherent hr'.queued rest).2.queued
        rw [hnewId] at hrun
        rw [← hsaid, ← h.queuings_perform hc e]
        exact hrun

end Abandoned

/-- On sockets later than one, nothing is queued for the subscription of a number, which was dropped:
either it is mute, or that socket is in use and acknowledged. -/
structure Dated (c : Client) (n k : Nat) : Prop where
  known : n < c.board.consumers.length
  dropped : c.board.listening n = false
  current : c.Mute n ∨ c.Holds k true
  silent : ∀ s, k < s → about (c.newId n) (c.board.queuedFor s) = []

namespace Dated

variable {k : Nat}

theorem step (h : c.Dated n k) (hr : c.Regular) (hstep : Step e c c') : c'.Dated n k := by
  have hc := hr.coherent
  have hc' := hc.step hstep
  have hnewId := newId_step hstep
  have hknown := known_step hc hstep h.known
  have hdropped := deaf_step hc hstep h.known h.dropped
  rcases h.current with hmute | hk
  · refine ⟨hknown, hdropped, Or.inl (hmute.step hc hstep), fun s hs => ?_⟩
    rw [hnewId, (hmute.hush_step hc hr.queued hstep).queuedFor]
    exact h.silent s hs
  · have hsame (hqueued : ∀ s, c'.board.queuedFor s = c.board.queuedFor s) (s : Nat) (hs : k < s) :
        about (c'.newId n) (c'.board.queuedFor s) = [] := by
      rw [hnewId, hqueued]
      exact h.silent s hs
    cases queueing_step hc hr.queued.last hstep with
    | still hheld hlast hqueued hsent hout =>
      refine ⟨hknown, hdropped, ?_, hsame hqueued⟩
      by_cases hp' : c'.phase = .acknowledged
      · obtain ⟨s, hs⟩ := hc'.holds_of_acknowledged hp'
        have hbefore := (hheld s true hs).resolve_right nofun
        obtain ⟨rfl, -⟩ := hc.holds_unique hk hbefore
        exact Or.inr hs
      · exact Or.inl ⟨hknown, Or.inr ⟨hdropped, hp'⟩⟩
    | append hs hs' hlast hnew hqueued hsent hout =>
      obtain ⟨rfl, -⟩ := hc.holds_unique hk hs
      refine ⟨hknown, hdropped, Or.inr hs', fun s hlt => ?_⟩
      rw [hnewId, hqueued, if_neg (Nat.ne_of_gt hlt), List.append_nil]
      exact h.silent s hlt
    | send hs hs' hlast hqueued hsent hout hout' =>
      obtain ⟨rfl, -⟩ := hc.holds_unique hk hs
      exact ⟨hknown, hdropped, Or.inr hs', hsame hqueued⟩
    | flush hs hs' hlast hqueued hsent hout => cases (hc.holds_unique hk hs).2

theorem run (h : c.Dated n k) (hr : c.Regular) (es : List Event) : (c.run es).Dated n k :=
  (run_induction (c := c) (P := fun c' => c'.Regular ∧ c'.Dated n k)
    (fun _ _ _ h hstep => ⟨h.1.step hstep, h.2.step h.1 hstep⟩) ⟨hr, h⟩ es).2

end Dated

/-- What a session does about a subscription that is registered and not held any more. -/
structure Forsaken (c : Client) (n : Nat) : Prop where
  /-- If the session connects, no message about the id is sent from then on. -/
  connecting : c.phase = .connecting → ∀ later k,
    about (c.newId n) ((c.run later).board.messagesOn k) =
      about (c.newId n) (c.board.messagesOn k)
  /-- If the session is acknowledged, exactly the listed events remove the entry. -/
  removed_iff : c.phase = .acknowledged → ∀ e,
    c.newId n ∉ (c.perform e).ids ↔ ∃ told, c.Removal n e told
  /-- The first of them does, and the server is told once or not at all, as the event says. -/
  fate : c.phase = .acknowledged → ∀ later, c.Fate n later
  /-- Before another subscription is asked for, all that are abandoned are taken back, in the order
  of creation. -/
  order : c.phase = .acknowledged → ∀ operation, c.allows (.subscribe operation) = true →
    c.queues (.subscribe operation) = (c.abandoned.map fun m => .complete (c.newId m)) ++
      [.subscribe (c.newId c.board.consumers.length) operation]
  /-- Nothing is sent about the id on sockets after the one in use. -/
  replayed : c.phase = .acknowledged → ∃ link, c.currentLink? = some link ∧ ∀ later k,
    link.socket < k → about (c.newId n) ((c.run later).board.messagesOn k) = []
  /-- The event that removes the entry leaves the entries of those that are held as they are, in
  their order, unless it ends the session. -/
  held : ∀ e, c.newId n ∉ (c.perform e).ids → (c.perform e).phase ≠ .notStarted →
    (c.perform e).board.session.roster.inOrder.filter (c.board.listening ·.consumer) =
      c.board.session.roster.inOrder.filter (c.board.listening ·.consumer)
  /-- No event touches an entry that stays, or moves one before another. -/
  others : ∀ e, ((c.perform e).board.session.roster.inOrder.filter
    (·.consumer < c.board.consumers.length)).Sublist c.board.session.roster.inOrder

/-- In every state of every run a subscription that is registered and not held any more is forgotten
as the session's phase and the events say. -/
theorem forsaken_run (settings : Settings) (transport : Transport) {newId : Nat → String}
    (hid : Function.Injective newId) (es : List Event) {n : Nat}
    (hreg : newId n ∈ ((create settings transport newId).run es).ids)
    (hdropped : ((create settings transport newId).run es).board.listening n = false) :
    ((create settings transport newId).run es).Forsaken n := by
  have hr := regular_run settings transport hid es
  have hnewId : ((create settings transport newId).run es).newId = newId := newId_run _ es
  generalize (create settings transport newId).run es = c at hreg hdropped hr hnewId ⊢
  have h : c.Abandoned n := ⟨by rwa [hnewId], hdropped⟩
  have hc := hr.coherent
  constructor
  case connecting =>
    intro hp later k
    have hmute : c.Mute n := ⟨h.known hc, Or.inr ⟨hdropped, hp.trans_ne nofun⟩⟩
    have hnone := hc.session.outgoing_eq_none (hp.trans_ne nofun)
    exact (hmute.run hc hr.queued later).2.messagesOn (by rw [hnone]; rfl) k
  case removed_iff =>
    intro hp e
    constructor
    · exact h.removal_of_gone hc hr.queued hr.outspoken hp
    · rintro ⟨told, hremoval⟩
      exact (h.removed hc hp hr.ascending hremoval).1
  case fate => exact h.fate hr
  case order =>
    intro hp operation hallow
    exact h.queues_of_subscribe hc hp hr.ascending hallow
  case replayed =>
    intro hp
    obtain ⟨link, hlink, a, ha, hat, hs, hack⟩ := hc.currentLink?_of_acknowledged hp
    have hk : c.Holds link.socket true := hack ▸ .of_mem ha hat hs
    refine ⟨link, hlink, fun later k hlt => ?_⟩
    have hdated : c.Dated n link.socket := by
      refine ⟨h.known hc, hdropped, Or.inr hk, fun s hs => ?_⟩
      rw [hr.outspoken.latest _ _ hk s hs]
      rfl
    have hsilent := (hdated.run hr later).silent k hlt
    rw [newId_run] at hsilent
    have hprefix := (hr.run later).queued.about_messagesOn (c.newId n) k
    rw [hsilent] at hprefix
    exact List.prefix_nil.1 hprefix
  case held =>
    intro e hgone hp
    exact h.held_of_gone hc hgone hp
  case others =>
    intro e
    exact (changes_perform hc (h.started hc) e).change.registry.sublist hc

/-- Two subscriptions are sent, and the second one is dropped. -/
def desertion : List Event := duet ++ [.dropSubscription 1]

/-- A subscription that was dropped is still registered. -/
theorem forsaken_after_desertion : Function.Injective tally ∧
    tally 1 ∈ ((create untimed {} tally).run desertion).ids ∧
    ((create untimed {} tally).run desertion).board.listening 1 = false ∧
    ((create untimed {} tally).run desertion).phase = .acknowledged ∧
    ((create untimed {} tally).run desertion).Forsaken 1 := by
  have hreg : tally 1 ∈ ((create untimed {} tally).run desertion).ids := by decide +kernel
  have hdropped : ((create untimed {} tally).run desertion).board.listening 1 = false := by
    decide +kernel
  have hphase : ((create untimed {} tally).run desertion).phase = .acknowledged := by
    decide +kernel
  exact ⟨tally_injective, hreg, hdropped, hphase,
    forsaken_run untimed {} tally_injective desertion hreg hdropped⟩

end Client

end LiveQuery
