import LiveQuery.Proofs.Delivery

/-!
# What the session looks like in every state

The fields of the session fit its phase in every state of every run, with agents of earlier
sessions still about (`Client.representation_of_run`): before the start nothing is registered,
nothing waits and nobody is owed a handshake; while the session connects exactly what is
registered waits, in the order of creation; and once it is acknowledged nothing waits. An agent of
the session exists only after the start, and it has seen the acknowledgment on its socket exactly
if the session has.

What `Client.Coherent` does not say is the order of creation. Ranks grow with the numbers of the
consumers (`Roster.Chronological`), and so the order of insertion is that of creation.
-/

namespace LiveQuery

namespace Roster

variable {r r' : Roster}

/-- The numbers of the registered subscriptions, in the order of insertion. -/
def numbers (r : Roster) : List Nat := r.inOrder.map Entry.consumer

theorem mem_numbers {n : Nat} : n ∈ r.numbers ↔ r.feeds n = true := by
  rw [feeds_iff, numbers, List.mem_map]
  exact ⟨fun ⟨e, he, hn⟩ => ⟨e, mem_inOrder.1 he, hn⟩, fun ⟨e, he, hn⟩ => ⟨e, mem_inOrder.2 he, hn⟩⟩

/-- What was inserted later has a later consumer. -/
def Chronological (r : Roster) : Prop :=
  ∀ e ∈ r.entries, ∀ f ∈ r.entries, e.rank ≤ f.rank → e.consumer ≤ f.consumer

namespace Chronological

/-- Entries may leave. -/
theorem mono (h : r.Chronological) (hsub : ∀ e ∈ r'.entries, e ∈ r.entries) : r'.Chronological :=
  fun e he f hf hle => h e (hsub e he) f (hsub f hf) hle

theorem prune (h : r.Chronological) (listening : Nat → Bool) :
    (r.prune listening).2.Chronological := h.mono fun _ he => (mem_prune.1 he).1

/-- A consumer that comes after all others may be inserted. -/
theorem insert (h : r.Chronological) (hr : r.WellFormed) (id : String) (operation : Operation)
    {n : Nat} (hn : ∀ e ∈ r.entries, e.consumer < n) : (r.insert id operation n).Chronological := by
  intro e he f hf hle
  rcases mem_insert.1 he with rfl | ⟨he, -⟩
  · rcases mem_insert.1 hf with rfl | ⟨hf, -⟩
    · exact le_refl n
    · -- the new entry has the greatest rank
      have hrank := hr.ranks f hf
      dsimp only at hle
      omega
  · rcases mem_insert.1 hf with rfl | ⟨hf, -⟩
    · exact (hn e he).le
    · exact h e he f hf hle

/-- If every consumer has one entry at most, the order of insertion is that of creation. -/
theorem ascending (h : r.Chronological) (hr : r.WellFormed) (hd : r.Distinct) :
    r.numbers.Pairwise (· < ·) := by
  have hnodup : r.inOrder.Nodup := (perm_sort r.entries).nodup_iff.2 (List.Nodup.of_map _ hr.ids)
  have hranks : r.inOrder.Pairwise (·.rank ≤ ·.rank) := ascending_sort r.entries
  refine List.pairwise_map.2 ((hranks.and hnodup).imp_of_mem fun {e f} he hf hef => ?_)
  obtain ⟨hle, hne⟩ := hef
  apply lt_of_le_of_ne
  · exact h e (mem_inOrder.1 he) f (mem_inOrder.1 hf) hle
  · exact fun heq => hne (hd e (mem_inOrder.1 he) f (mem_inOrder.1 hf) heq)

end Chronological

end Roster

namespace Client

variable {c c' : Client} {e : Event}

/-- The ids of the registered subscriptions are those of their numbers. -/
theorem Coherent.ids_eq (h : c.Coherent) :
    c.board.session.roster.ids = c.board.session.roster.numbers.map c.newId := by
  rw [Roster.ids, Roster.numbers, List.map_map]
  exact List.map_congr_left fun e he => (h.id_of_entry (Roster.mem_inOrder.1 he)).1

/-- Every step keeps the order of creation: only a new subscription is inserted, and it has the
next number. -/
theorem chronological_step (hc : c.Coherent) (hstep : Step e c c')
    (h : c.board.session.roster.Chronological) : c'.board.session.roster.Chronological := by
  cases hstep with
  | quiet hq => rwa [hq.session]
  | touch ht => exact h
  | launch he hp params held => rwa [launched_session, Session.start_roster]
  | enlist he hp operation =>
    rw [enlisted_session, Session.subscribe_roster]
    refine (h.prune _).insert (hc.session.roster.prune _) _ operation fun entry he => ?_
    exact (hc.id_of_entry (Roster.mem_prune.1 he).1).2
  | refuse he error => exact h
  | withdraw he hx hcancelled =>
    rw [withdrawn_session]
    exact h.mono fun e he => Session.mem_withdraw _ _ he
  | halt hp =>
    rw [halted_session hp, Session.terminate_roster]
    exact h.mono nofun
  | turn hagents ht =>
    have hfits := hc.agents _ (mem_of_split hagents)
    have hout := (hfits.move ht).outcome hfits hc.session
    exact h.mono hout.advance.entries
  | pass he => exact h

/-- After every run the registered subscriptions are in the order of creation. -/
theorem ascending_run (settings : Settings) (transport : Transport) {newId : Nat → String}
    (hid : Function.Injective newId) (es : List Event) :
    ((create settings transport newId).run es).board.session.roster.numbers.Pairwise
      (· < ·) := by
  have hboth := run_induction
    (P := fun c => c.Coherent ∧ c.board.session.roster.Chronological)
    (fun _ _ _ h hstep => ⟨h.1.step hstep, chronological_step h.1 hstep h.2⟩)
    ⟨coherent_create settings transport hid, fun e he => absurd he List.not_mem_nil⟩ es
  exact hboth.2.ascending hboth.1.session.roster hboth.1.distinct

/-- The representation invariant of the session. In every state of every run, before the start the
roster, the ids that wait and the handshakes without a result are empty and there is no outgoing
queue; while the session connects there is no outgoing queue, and the ids that wait are those
registered, in the order of creation; once it is acknowledged there is an outgoing queue, no id
waits and no handshake is without a result. An agent of the session's own epoch exists only after
the start, and while it has a socket it has seen the acknowledgment exactly if the session is
acknowledged. -/
theorem representation_of_run (settings : Settings) (transport : Transport)
    {newId : Nat → String} (hid : Function.Injective newId) (es : List Event) :
    let c := (create settings transport newId).run es
    let s := c.board.session
    (s.phase = .notStarted →
      s.roster.entries = [] ∧ s.pending = [] ∧ s.handshakes = [] ∧ s.outgoing = none) ∧
    (s.phase = .connecting → s.outgoing = none ∧
      ∃ ns : List Nat, ns.Pairwise (· < ·) ∧ (∀ n, n ∈ ns ↔ newId n ∈ s.roster.ids) ∧
        s.roster.ids = ns.map newId ∧ s.pending = ns.map newId) ∧
    (s.phase = .acknowledged →
      s.outgoing.isSome = true ∧ s.pending = [] ∧ s.handshakes = []) ∧
    ∀ a ∈ c.agents, a.epoch = s.epoch → s.phase ≠ .notStarted ∧
      ∀ link, a.stage = .serving link → (link.acknowledged = true ↔ s.phase = .acknowledged) := by
  intro c s
  have hc : c.Coherent := coherent_run settings transport hid es
  have hs : s.Coherent := hc.session
  have hnewId : c.newId = newId := newId_run _ es
  refine ⟨fun hp => ?_, fun hp => ?_, fun hp => ?_, fun a ha hepoch => ?_⟩
  · obtain ⟨hentries, hpending, hhandshakes⟩ := hs.idle hp
    exact ⟨hentries, hpending, hhandshakes, hs.outgoing_eq_none (by rw [hp]; nofun)⟩
  · have hids : s.roster.ids = s.roster.numbers.map newId := by
      rw [← hnewId]
      exact hc.ids_eq
    refine ⟨hs.outgoing_eq_none (by rw [hp]; nofun), s.roster.numbers,
      ascending_run settings transport hid es, fun n => ?_, hids, (hs.waiting hp).trans hids⟩
    rw [Roster.mem_numbers, ← hnewId]
    exact hc.feeds_iff_registered
  · obtain ⟨hpending, hhandshakes⟩ := hs.served hp
    exact ⟨hs.queue.2 hp, hpending, hhandshakes⟩
  · have hfits := hc.agents a ha
    have ht : a.told = false := hfits.current.2 hepoch
    refine ⟨hfits.started ht, fun link hserving => ?_⟩
    exact (hfits.acknowledged_of_serving ht hserving).symm

/-- While the session connects the only subscription waits, and its agent has not seen an
acknowledgment. -/
theorem representation_of_greeting : Function.Injective tally ∧
    ((create untimed {} tally).run greeting).phase = .connecting ∧
    ((create untimed {} tally).run greeting).board.session.pending = [tally 0] := by
  have hphase : ((create untimed {} tally).run greeting).phase = .connecting := by decide +kernel
  obtain ⟨-, hwaits, -, -⟩ := representation_of_run untimed {} tally_injective greeting
  obtain ⟨-, ns, -, -, hids, hpending⟩ := hwaits hphase
  refine ⟨tally_injective, hphase, ?_⟩
  rw [hpending, ← hids]
  decide +kernel

end Client

end LiveQuery
