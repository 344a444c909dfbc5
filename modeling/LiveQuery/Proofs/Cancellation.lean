import LiveQuery.Proofs.Silence
import LiveQuery.Proofs.Undecodable

/-!
# Cancels

The first cancel of a subscription, through the subscription or through any of its handles, ends it
for good (`Client.cancelled_for_good`). If the id is registered and the session acknowledged, one
message that takes the id back is queued, and otherwise nothing; the id leaves the roster and the
queue of those that wait, and never comes back; every later poll says that the stream has ended,
whatever was delivered before; and every further cancel settles the status of the subscription at
most. Nothing is assumed about what happens before the cancel or after it.
-/

namespace LiveQuery

/-- A consumer that was cancelled yields nothing. -/
theorem Consumer.poll_of_cancelled {x : Consumer} (h : x.cancelled = true) (fed : Bool) :
    (x.poll fed).1 = .ended := by
  unfold poll
  split
  · rfl
  · rfl

namespace Client

variable {c : Client} {e : Event} {n : Nat} {x : Consumer}

/-! ## The event of a cancel -/

/-- A registered subscription was accepted by its session. -/
theorem Coherent.attached_of_registered (hc : c.Coherent) (hx : c.board.consumers[n]? = some x)
    (hreg : x.id ∈ c.ids) : x.attached = true := by
  obtain ⟨entry, hentry, hid⟩ := Roster.mem_ids.1 hreg
  obtain ⟨y, hy, -, hattached, -⟩ := hc.entries entry hentry
  have hn : entry.consumer = n :=
    hc.fresh ((hc.id_of_entry hentry).1.symm.trans (hid.trans (hc.named n x hx)))
  rw [hn, hx] at hy
  cases hy
  exact hattached

/-- In the session a cancel does nothing for a subscription that was refused. -/
theorem Coherent.withdraw_eq (hc : c.Coherent) (hx : c.board.consumers[n]? = some x) :
    c.board.session.withdraw x = c.board.session.cancel x.id := by
  cases hattached : x.attached with
  | true => exact if_pos hattached
  | false =>
    have hunknown : c.board.session.roster.find? x.id = none := by
      refine Roster.find?_eq_none_iff.2 fun hreg => ?_
      rw [hc.attached_of_registered hx hreg] at hattached
      cases hattached
    rw [Session.cancel_of_unknown _ _ hunknown, Session.withdraw, hattached]
    rfl

/-- What the first cancel queues. -/
def retraction? (c : Client) (id : String) : List Message :=
  if id ∈ c.ids ∧ c.phase = .acknowledged then [.complete id] else []

/-- The session after a cancel. -/
theorem cancel_outgoing (c : Client) (id : String) : (c.board.session.cancel id).outgoing =
    c.board.session.outgoing.map (· ++ c.retraction? id) := Session.cancel_outgoing ..

/-- The first cancel records what it queues, and nothing else. -/
theorem withdrawn_journal (hc : c.Coherent) (hx : c.board.consumers[n]? = some x) :
    (c.withdrawn n x).board.journal =
      ((c.retraction? x.id).map fun m => ⟨c.board.now, .queued m⟩) ++ c.board.journal := by
  generalize hsb : ({ c.board with
    consumers := c.board.consumers.modify n Consumer.markCancelled } : Switchboard) = sb
  have hsession : sb.session = c.board.session := by rw [← hsb]
  have hadded : sb.added (c.board.session.cancel x.id) = c.retraction? x.id := by
    rw [Switchboard.added, hsession, cancel_outgoing, Switchboard.newMessages]
    cases hout : c.board.session.outgoing with
    | some queue => simp
    | none =>
      -- without a queue the session is not acknowledged
      have hp : c.phase ≠ .acknowledged := fun hp => by
        have hsome := hc.session.queue.2 hp
        rw [hout] at hsome
        cases hsome
      rw [retraction?, if_neg fun h => hp h.2]
      rfl
  have hphase : sb.session.phase = (c.board.session.cancel x.id).phase := by
    rw [hsession, Session.cancel_phase]
  have hreverse : (c.retraction? x.id).reverse = c.retraction? x.id := by
    unfold retraction?
    split <;> rfl
  have hnow : sb.now = c.board.now := by rw [← hsb]
  have hjournal : sb.journal = c.board.journal := by rw [← hsb]
  rw [withdrawn_eq, hc.withdraw_eq hx, hsb, Switchboard.withSession_eq]
  show sb.changes _ ++ sb.journal = _
  rw [Switchboard.changes, hadded, if_pos hphase, List.append_nil, ← List.map_reverse, hreverse,
    hnow, hjournal]

/-- The event of a cancel is the cancel, and perhaps the subscription settles its status. -/
theorem perform_of_cancels (he : e.cancels n = true) (hallow : c.allows e = true) :
    c.perform e = c.cancelByHandle n ∨
      c.perform e = (c.cancelByHandle n).modifyConsumer n Consumer.settleCancelled := by
  unfold perform
  rw [if_pos hallow]
  cases e with
  | cancel m => rw [← beq_iff_eq.1 he]; exact Or.inr rfl
  | cancelByHandle m => rw [← beq_iff_eq.1 he]; exact Or.inl rfl
  | _ => cases he

/-- The cancel reaches the session, and what the subscription does for itself does not. -/
theorem session_of_first_cancel (hc : c.Coherent) (hx : c.board.consumers[n]? = some x)
    (hfirst : x.cancelled = false) (he : e.cancels n = true) (hallow : c.allows e = true) :
    (c.perform e).board.session = c.board.session.cancel x.id := by
  have hsession : (c.withdrawn n x).board.session = c.board.session.cancel x.id := by
    rw [withdrawn_session, hc.withdraw_eq hx]
  rcases perform_of_cancels he hallow with h | h
  · rwa [h, cancelByHandle_eq hx hfirst]
  · rw [h, cancelByHandle_eq hx hfirst]
    exact hsession

theorem journal_of_first_cancel (hx : c.board.consumers[n]? = some x)
    (hfirst : x.cancelled = false) (he : e.cancels n = true) (hallow : c.allows e = true) :
    (c.perform e).board.journal = (c.withdrawn n x).board.journal := by
  rcases perform_of_cancels he hallow with h | h <;> rw [h, cancelByHandle_eq hx hfirst]
  rfl

/-- A cancel leaves its mark on the consumer. -/
theorem marked_of_cancels (hc : c.Coherent) (hx : c.board.consumers[n]? = some x)
    (he : e.cancels n = true) (hallow : c.allows e = true) :
    ∃ x', (c.perform e).board.consumers[n]? = some x' ∧ x'.cancelled = true := by
  obtain ⟨x', hx', -⟩ := ages_perform hc hx e
  refine ⟨x', hx', ?_⟩
  rcases perform_of_cancels he hallow with h | h
  · rw [h] at hx'
    exact c.cancelByHandle_cancelled n hx'
  · rw [h] at hx'
    obtain ⟨y, hy, rfl⟩ : ∃ y, (c.cancelByHandle n).board.consumers[n]? = some y ∧
        y.settleCancelled = x' := by
      unfold modifyConsumer mapBoard at hx'
      rw [List.getElem?_modify_eq] at hx'
      exact Option.map_eq_some_iff.1 hx'
    exact (Consumer.Ages.settle y).cancelled (c.cancelByHandle_cancelled n hy)

/-- Every further cancel settles the status at most. -/
theorem perform_again (he : e.cancels n = true) (hx : c.board.consumers[n]? = some x)
    (hcancelled : x.cancelled = true) :
    c.perform e = c ∨ c.perform e = c.modifyConsumer n Consumer.settleCancelled := by
  have hsame : c.cancelByHandle n = c := by
    unfold cancelByHandle consumer?
    simp [hx, hcancelled]
  by_cases hallow : c.allows e = true
  · have hperform := perform_of_cancels he hallow
    rwa [hsame] at hperform
  · exact Or.inl (if_neg hallow)

theorem poll_of_cancelled (hx : c.board.consumers[n]? = some x) (hcancelled : x.cancelled = true) :
    (c.poll n).1 = .ended := by
  unfold poll consumer?
  rw [hx]
  exact Consumer.poll_of_cancelled hcancelled _

/-! ## What a cancel comes to -/

/-- What the event of the first cancel of a subscription comes to. -/
structure Cancelled (c : Client) (n : Nat) (x : Consumer) (e : Event) : Prop where
  /-- If the id is registered and the session acknowledged, one message that takes the id back is
  put at the end of the queue, and otherwise none. -/
  queued : (c.perform e).board.session.outgoing = c.board.session.outgoing.map
    (· ++ if x.id ∈ c.ids ∧ c.phase = .acknowledged then [.complete x.id] else [])
  /-- Nothing else is recorded, so that nothing is sent and nothing delivered. -/
  recorded : (c.perform e).board.journal =
    (if x.id ∈ c.ids ∧ c.phase = .acknowledged then
      [⟨c.board.now, .queued (.complete x.id)⟩] else []) ++ c.board.journal
  /-- From then on the id is neither registered nor waiting. -/
  forgotten : ∀ later, x.id ∉ ((c.perform e).run later).ids ∧
    x.id ∉ ((c.perform e).run later).board.session.pending
  /-- From then on the stream has ended. -/
  ended : ∀ later, (((c.perform e).run later).poll n).1 = .ended
  /-- Nothing more is queued about the id. -/
  last : ∀ later, about x.id ((c.perform e).run later).board.queuings =
    about x.id (c.perform e).board.queuings
  /-- If the session is not acknowledged, no message about the id is sent from then on. -/
  silent : c.phase ≠ .acknowledged → ∀ later k,
    about x.id (((c.perform e).run later).board.messagesOn k) = about x.id (c.board.messagesOn k)
  /-- Further cancels, through the subscription or any handle, settle its status at most. -/
  again : ∀ later e', Event.cancels n e' = true →
    ((c.perform e).run later).perform e' = (c.perform e).run later ∨
      ((c.perform e).run later).perform e' =
        ((c.perform e).run later).modifyConsumer n Consumer.settleCancelled

/-- In every run the first cancel of a subscription ends it for good. -/
theorem cancelled_for_good (settings : Settings) (transport : Transport) {newId : Nat → String}
    (hid : Function.Injective newId) (es : List Event) {n : Nat} {x : Consumer} {e : Event}
    (hx : ((create settings transport newId).run es).board.consumers[n]? = some x)
    (hfirst : x.cancelled = false) (he : e.cancels n = true)
    (hallow : ((create settings transport newId).run es).allows e = true) :
    ((create settings transport newId).run es).Cancelled n x e := by
  have hc := coherent_run settings transport hid es
  have hq := queued_run settings transport hid es
  generalize (create settings transport newId).run es = c at hx hallow hc hq ⊢
  have hname := hc.named n x hx
  have hsession := session_of_first_cancel hc hx hfirst he hallow
  have hjournal := journal_of_first_cancel hx hfirst he hallow
  have hc' := hc.perform e
  have hq' : (c.perform e).Queued := (perform_induction (e := e) (P := fun c' => c'.Coherent ∧
    c'.Queued) (fun _ _ h hstep => ⟨h.1.step hstep, h.2.step h.1 hstep⟩) ⟨hc, hq⟩).2
  have hnewId := newId_perform c e
  have hgone : x.id ∉ (c.perform e).ids := by
    rw [ids, hsession, Session.cancel_roster]
    exact fun hmem => (Session.mem_ids_erase.1 hmem).2 rfl
  obtain ⟨x', hx', hmark⟩ := marked_of_cancels hc hx he hallow
  have hmarked (later : List Event) : ∃ y,
      ((c.perform e).run later).board.consumers[n]? = some y ∧ y.cancelled = true := by
    obtain ⟨y, hy, hages⟩ := ages_run hc' hx' later
    exact ⟨y, hy, hages.cancelled hmark⟩
  have hmute : (c.perform e).Mute n := by
    refine ⟨(List.getElem?_eq_some_iff.1 hx').1, Or.inl ?_⟩
    rwa [hnewId, ← hname]
  have hhush (later : List Event) : Hush (c.perform e) ((c.perform e).run later) x.id := by
    have hrun := (hmute.run hc' hq' later).2
    rwa [hnewId, ← hname] at hrun
  have hforgotten (later : List Event) : x.id ∉ ((c.perform e).run later).ids := by
    have hrun := gone_run hc' hmute.known (by rwa [hnewId, ← hname]) later
    rwa [hnewId, ← hname] at hrun
  constructor
  case queued =>
    rw [hsession]
    exact c.cancel_outgoing x.id
  case recorded =>
    rw [hjournal, withdrawn_journal hc hx]
    unfold retraction?
    split <;> rfl
  case forgotten =>
    intro later
    refine ⟨hforgotten later, fun hpending => hforgotten later ?_⟩
    exact (hc'.run later).mem_ids_of_pending hpending
  case ended =>
    intro later
    obtain ⟨y, hy, hcancelled⟩ := hmarked later
    exact poll_of_cancelled hy hcancelled
  case last =>
    intro later
    exact (hhush later).queued
  case silent =>
    intro hp later k
    have hnone : (c.perform e).board.session.outgoing = none := by
      rw [hsession, cancel_outgoing, hc.session.outgoing_eq_none hp, Option.map_none]
    rw [(hhush later).messagesOn (by rw [hnone]; rfl)]
    -- the cancel itself sends nothing
    have hrecorded : (c.perform e).board.journal = c.board.journal := by
      rw [hjournal, withdrawn_journal hc hx, retraction?, if_neg fun h => hp h.2]
      rfl
    unfold Switchboard.messagesOn
    rw [hrecorded]
  case again =>
    intro later e' he'
    obtain ⟨y, hy, hcancelled⟩ := hmarked later
    exact perform_again he' hy hcancelled

/-- The second of two subscriptions has a result that nobody has read. -/
def unreadResult : List Event :=
  duet ++ [.serverSend 0 (.text (Message.next (tally 1) default).encode), .turn 0]

/-- A cancel through a handle discards what was not read, and takes the id back. -/
theorem cancelled_with_result_unread : Function.Injective tally ∧
    ∃ x, ((create untimed {} tally).run unreadResult).board.consumers[1]? = some x ∧
      x.unread.length = 1 ∧ x.cancelled = false ∧
      x.id ∈ ((create untimed {} tally).run unreadResult).ids ∧
      ((create untimed {} tally).run unreadResult).allows (.cancelByHandle 1) = true ∧
      ((create untimed {} tally).run unreadResult).Cancelled 1 x (.cancelByHandle 1) := by
  have hready : (((create untimed {} tally).run unreadResult).board.consumers[1]?).any (fun x =>
      x.unread.length == 1 && !x.cancelled &&
        decide (x.id ∈ ((create untimed {} tally).run unreadResult).ids)) = true := by
    decide +kernel
  obtain ⟨x, hx, hready⟩ := (Option.any_eq_true _ _).1 hready
  simp only [Bool.and_eq_true, beq_iff_eq, Bool.not_eq_true', decide_eq_true_eq] at hready
  obtain ⟨⟨hunread, hfirst⟩, hreg⟩ := hready
  exact ⟨tally_injective, x, hx, hunread, hfirst, hreg, rfl,
    cancelled_for_good untimed {} tally_injective unreadResult hx hfirst rfl rfl⟩

end Client

end LiveQuery
