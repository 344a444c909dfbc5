import LiveQuery.Proofs.WireDiscipline
import LiveQuery.Proofs.Changes

/-!
# Subscriptions that nothing more is said about

Once the id of a subscription has left the roster it does not come back, and nothing more is queued
about it. The same holds while a subscription that was dropped waits for an acknowledgment, since
the acknowledgment forgets it before it asks for anything. Both are `Client.Mute`, which every run
keeps, and what a run adds for such an id is `Client.Hush`: nothing is queued, and only what waited
to be sent may still be sent.
-/

namespace LiveQuery

/-- Less is said about an id in a part of a queue. -/
theorem about_eq_nil_of_subset {id : String} {queue queue' : List Message}
    (hsub : ∀ m ∈ queue', m ∈ queue) (h : about id queue = []) : about id queue' = [] := by
  refine List.eq_nil_iff_forall_not_mem.2 fun m hm => ?_
  obtain ⟨hmem, hid⟩ := mem_about.1 hm
  have hbefore : m ∈ about id queue := mem_about.2 ⟨hsub m hmem, hid⟩
  rw [h] at hbefore
  cases hbefore

/-- What was appended, if anything was, is not about the id. -/
theorem about_grown {id : String} {queue queue' new : List Message} {p : Prop} [Decidable p]
    (hnew : about id new = []) (h : queue' = queue ++ if p then new else []) :
    about id queue' = about id queue := by
  rw [h, about_append]
  split
  · rw [hnew, List.append_nil]
  · exact List.append_nil _

namespace Client

variable {c c' c'' : Client} {e : Event} {n : Nat} {id : String}

/-- Nobody listens again to what was dropped. -/
theorem deaf_step (hc : c.Coherent) (hstep : Step e c c') (hn : n < c.board.consumers.length)
    (hdeaf : c.board.listening n = false) : c'.board.listening n = false := by
  obtain ⟨x', hx', hages⟩ := ages_step hc hstep (List.getElem?_eq_getElem hn)
  rw [Switchboard.listening_eq, List.getElem?_eq_getElem hn] at hdeaf
  rw [Switchboard.listening_eq, hx']
  exact hages.listening hdeaf

/-! ## Nothing more is said -/

/-- Between two states nothing is queued about an id, and only what waited to be sent about it may
have been sent. -/
structure Hush (c c' : Client) (id : String) : Prop where
  queued : about id c'.board.queuings = about id c.board.queuings
  queuedFor : ∀ k, about id (c'.board.queuedFor k) = about id (c.board.queuedFor k)
  waits : about id (c.board.session.outgoing.getD []) = [] →
    about id (c'.board.session.outgoing.getD []) = []
  sent : about id (c.board.session.outgoing.getD []) = [] →
    ∀ k, about id (c'.board.operationsOn k) = about id (c.board.operationsOn k)

namespace Hush

theorem refl (c : Client) (id : String) : Hush c c id :=
  ⟨rfl, fun _ => rfl, fun h => h, fun _ _ => rfl⟩

theorem trans (h : Hush c c' id) (h' : Hush c' c'' id) : Hush c c'' id where
  queued := h'.queued.trans h.queued
  queuedFor := fun k => (h'.queuedFor k).trans (h.queuedFor k)
  waits := fun hnone => h'.waits (h.waits hnone)
  sent := fun hnone k => (h'.sent (h.waits hnone) k).trans (h.sent hnone k)

/-- If nothing waits to be sent about the id, no message sent afterwards is about it. -/
theorem messagesOn (h : Hush c c' id) (hnone : about id (c.board.session.outgoing.getD []) = [])
    (k : Nat) : about id (c'.board.messagesOn k) = about id (c.board.messagesOn k) := by
  rw [← about_operationsOn, ← about_operationsOn]
  exact h.sent hnone k

/-- What was queued for a socket is not about the id, and nothing was sent. -/
theorem of_queued {k : Nat} {new : List Message} (hnew : about id new = [])
    (hqueuings : c'.board.queuings = c.board.queuings ++ new)
    (hqueued : ∀ s, c'.board.queuedFor s = c.board.queuedFor s ++ if s = k then new else [])
    (hsent : ∀ s, c'.board.operationsOn s = c.board.operationsOn s)
    (hout : c'.board.session.outgoing.getD [] = c.board.session.outgoing.getD [] ++ new) :
    Hush c c' id where
  queued := by rw [hqueuings, about_append, hnew, List.append_nil]
  queuedFor := fun s => about_grown hnew (hqueued s)
  waits := by
    intro hnone
    rw [hout, about_append, hnone, hnew]
    rfl
  sent := fun _ s => by rw [hsent]

end Hush

/-- No message will be queued about a subscription any more: it is not registered, or it was
dropped and waits for an acknowledgment, which will forget it. -/
structure Mute (c : Client) (n : Nat) : Prop where
  known : n < c.board.consumers.length
  unheard : c.newId n ∉ c.ids ∨ c.board.listening n = false ∧ c.phase ≠ .acknowledged

namespace Mute

/-- A pruning leaves nothing of a subscription that is not registered or was dropped. -/
theorem not_mem_prune (h : c.Mute n) (hc : c.Coherent) :
    c.newId n ∉ (c.board.session.roster.prune c.board.listening).2.ids := by
  intro hmem
  rcases h.unheard with hgone | ⟨hdeaf, -⟩
  · exact hgone (Session.mem_ids_prune hmem)
  · obtain ⟨entry, hentry, hid⟩ := Roster.mem_ids.1 hmem
    obtain ⟨hentry, hlistens⟩ := Roster.mem_prune.1 hentry
    have hn : entry.consumer = n := hc.fresh ((hc.id_of_entry hentry).1.symm.trans hid)
    rw [hn, hdeaf] at hlistens
    cases hlistens

/-- The id of a subscription that was there is not the next one. -/
theorem ne_next (h : c.Mute n) (hc : c.Coherent) : c.newId n ≠ c.newId c.board.consumers.length :=
  fun heq => absurd (hc.fresh heq) (Nat.ne_of_lt h.known)

/-- In an acknowledged session a mute subscription is not registered. -/
theorem gone (h : c.Mute n) (hp : c.phase = .acknowledged) : c.newId n ∉ c.ids :=
  h.unheard.resolve_right fun hwaits => hwaits.2 hp

/-- Every step keeps a subscription mute. -/
theorem step (h : c.Mute n) (hc : c.Coherent) (hstep : Step e c c') : c'.Mute n := by
  have hnewId := newId_step hstep
  have hturnover := turnover_step hc hstep
  have hold {id : String} (hid : id ∈ c'.ids) (hne : id ≠ c.newId c.board.consumers.length) :
      id ∈ c.ids := (hturnover.registered hid).resolve_right fun hnew => hne hnew.1
  refine ⟨known_step hc hstep h.known, ?_⟩
  rw [hnewId]
  rcases h.unheard with hgone | ⟨hdeaf, hp⟩
  · exact Or.inl fun hid => hgone (hold hid (h.ne_next hc))
  · by_cases hp' : c'.phase = .acknowledged
    · -- only the acknowledgment gets the session there, and it forgets what was dropped
      left
      intro hid
      obtain ⟨queue, hout⟩ :=
        Option.isSome_iff_exists.1 ((hc.step hstep).session.queue.2 hp')
      rw [hturnover.flushed (hc.session.outgoing_eq_none hp) hout] at hid
      exact h.not_mem_prune hc hid
    · exact Or.inr ⟨deaf_step hc hstep h.known hdeaf, hp'⟩

/-- No step says anything more about a mute subscription. -/
theorem hush_step (h : c.Mute n) (hc : c.Coherent) (hq : c.Queued) (hstep : Step e c c') :
    Hush c c' (c.newId n) := by
  have hc' := hc.step hstep
  have hturnover := turnover_step hc hstep
  have hqueuings := queuings_step hc hstep
  cases queueing_step hc hq.last hstep with
  | still hheld hlast hqueued hsent hout =>
    cases hout' : c'.board.session.outgoing with
    | none =>
      rw [hout', Switchboard.newMessages_none, List.append_nil] at hqueuings
      exact ⟨by rw [hqueuings], fun k => by rw [hqueued], fun _ => by rw [hout']; rfl,
        fun _ k => by rw [hsent]⟩
    | some queue =>
      have hp' : c'.phase = .acknowledged := hc'.session.queue.1 (by rw [hout']; rfl)
      obtain ⟨k, hk⟩ := hc'.holds_of_acknowledged hp'
      have hsame := hout k hk
      rw [hsame, Switchboard.newMessages_self, List.append_nil] at hqueuings
      exact ⟨by rw [hqueuings], fun k => by rw [hqueued], fun hnone => by rwa [hsame],
        fun _ k => by rw [hsent]⟩
  | append hk hk' hlast hnew hqueued hsent hout =>
    rename_i k new
    have hp := (hc.acknowledged_of_holds hk).2 rfl
    obtain ⟨queue, hqueue⟩ := Option.isSome_iff_exists.1 (hc.outgoing_of_holds hk)
    rw [hqueue, Option.map_some] at hout
    obtain ⟨gone, asked, hgone, rfl, -⟩ :=
      hturnover.grows hp hqueue hout (consumers_step hc hstep)
    -- only registered ids are taken back, and the id that is asked for is another one
    have hsilent : about (c.newId n) (gone.map .complete ++
        asked.toList.map (.subscribe (c.newId c.board.consumers.length))) = [] := by
      rw [Outspoken.about_appended hgone.nodup fun hmem => hc.next_not_mem (hgone.before _ hmem),
        if_neg fun hmem => h.gone hp (hgone.before _ hmem), if_neg (h.ne_next hc)]
    refine .of_queued hsilent ?_ hqueued hsent ?_
    · rw [hqueuings, hqueue, hout, Switchboard.newMessages_append]
    · rw [hqueue, hout]
      rfl
  | flush hk hk' hlast hqueued hsent hout =>
    have hp := hc.connecting_of_holds hk
    have hnone := hc.session.outgoing_eq_none (hp.trans_ne nofun)
    refine .of_queued (about_waiting hc hp (h.not_mem_prune hc)) ?_ hqueued hsent ?_
    · rw [hqueuings, hnone, hout]
      rfl
    · rw [hnone, hout]
      rfl
  | send hk hk' hlast hqueued hsent hout hout' =>
    rename_i k m rest
    rw [hout, hout', Switchboard.newMessages_tail, List.append_nil] at hqueuings
    -- what is sent waited to be sent, and so did what is left
    refine ⟨by rw [hqueuings], fun s => by rw [hqueued], fun hnone => ?_, fun hnone s => ?_⟩
    · rw [hout] at hnone
      rw [hout']
      exact about_eq_nil_of_subset (fun m hm => List.mem_cons_of_mem _ hm) hnone
    · rw [hout] at hnone
      have hthis : about (c.newId n) ([m].filter (·.id?.isSome)) = [] :=
        about_eq_nil_of_subset (fun m' hm' => by
          rw [List.mem_singleton.1 (List.mem_filter.1 hm').1]
          exact List.mem_cons_self ..) hnone
      exact about_grown hthis (hsent s)

/-- No run says anything more about a mute subscription. -/
theorem run (h : c.Mute n) (hc : c.Coherent) (hq : c.Queued) (es : List Event) :
    (c.run es).Mute n ∧ Hush c (c.run es) (c.newId n) := by
  have hall := run_induction (c := c) (P := fun c' => c'.Coherent ∧ c'.Queued ∧
      c'.newId = c.newId ∧ c'.Mute n ∧ Hush c c' (c.newId n))
    (fun e c₁ c₂ ⟨hc₁, hq₁, hnewId, hmute, hhush⟩ hstep =>
      ⟨hc₁.step hstep, hq₁.step hc₁ hstep, (newId_step hstep).trans hnewId, hmute.step hc₁ hstep,
        hhush.trans (hnewId ▸ hmute.hush_step hc₁ hq₁ hstep)⟩)
    ⟨hc, hq, rfl, h, .refl c _⟩ es
  exact hall.2.2.2

end Mute

/-- An id that has left the roster does not come back. -/
theorem gone_run (hc : c.Coherent) (hn : n < c.board.consumers.length) (hgone : c.newId n ∉ c.ids)
    (es : List Event) : c.newId n ∉ (c.run es).ids := by
  have hall := run_induction (c := c) (P := fun c' => c'.Coherent ∧ c'.newId = c.newId ∧
      n < c'.board.consumers.length ∧ c.newId n ∉ c'.ids)
    (fun e c₁ c₂ ⟨hc₁, hnewId, hn₁, hgone₁⟩ hstep => by
      refine ⟨hc₁.step hstep, (newId_step hstep).trans hnewId, known_step hc₁ hstep hn₁,
        fun hid => hgone₁ ?_⟩
      refine ((turnover_step hc₁ hstep).registered hid).resolve_right fun hnew => ?_
      rw [hnewId] at hnew
      exact absurd (hc.fresh hnew.1) (Nat.ne_of_lt hn₁))
    ⟨hc, rfl, hn, hgone⟩ es
  exact hall.2.2.2

/-- What waits for the acknowledgment is registered. -/
theorem Coherent.mem_ids_of_pending (hc : c.Coherent) (h : id ∈ c.board.session.pending) :
    id ∈ c.ids := by
  cases hp : c.phase with
  | notStarted => rw [(hc.session.idle hp).2.1] at h; cases h
  | connecting => rwa [hc.session.waiting hp] at h
  | acknowledged => rw [(hc.session.served hp).1] at h; cases h

end Client

end LiveQuery
