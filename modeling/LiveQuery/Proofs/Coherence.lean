import LiveQuery.Proofs.Outcome
import LiveQuery.Proofs.Step
import Mathlib.Data.List.Nodup

/-!
# The parts of a client fit together

The representation invariant of a client with all its agents (`Client.Coherent`), kept by every
step and so by every run (`Client.coherent_run`). The session is coherent. At most one agent was
not told to stop: it has the epoch of the session and is there exactly while the session has
started. Agents hold different sockets, every entry of the roster has a consumer of its own, and
sockets that never opened carried nothing. Ids are assumed never to repeat.
-/

namespace LiveQuery

namespace Consumer

variable (x : Consumer) (fed : Bool)

/-- Polling changes what is unread and the status. -/
theorem poll_eq : ∃ unread status, (x.poll fed).2 = { x with unread, status } := by
  unfold poll
  split
  · exact ⟨_, _, rfl⟩
  · split
    · exact ⟨_, _, rfl⟩
    · split
      · exact ⟨_, _, rfl⟩
      · exact ⟨_, _, rfl⟩
      · exact ⟨_, _, rfl⟩
      · split <;> exact ⟨_, _, rfl⟩

/-- Settling a cancel changes the status. -/
theorem settleCancelled_eq : ∃ status, x.settleCancelled = { x with status } := by
  unfold settleCancelled
  split <;> exact ⟨_, rfl⟩

end Consumer

namespace Client

/-- The parts of a client fit together. -/
structure Coherent (c : Client) : Prop where
  fresh : Function.Injective c.newId
  session : c.board.session.Coherent
  agents : ∀ a ∈ c.agents, a.Fits c.board
  epochs : (c.agents.map Agent.epoch).Nodup
  sockets : (c.agents.filterMap Agent.socket?).Nodup
  led : c.phase ≠ .notStarted → ∃ a ∈ c.agents, a.told = false
  named : ∀ (n : Nat) x, c.board.consumers[n]? = some x → x.id = c.newId n
  entries : ∀ e ∈ c.board.session.roster.entries, ∃ x, c.board.consumers[e.consumer]? = some x ∧
    x.id = e.id ∧ x.attached = true ∧ x.cancelled = false
  unopened : ∀ k, c.board.lines.length ≤ k → c.board.messagesOn k = []

theorem coherent_create (settings : Settings) (transport : Transport) {newId : Nat → String}
    (hid : Function.Injective newId) : (create settings transport newId).Coherent where
  fresh := hid
  session := Session.coherent_empty
  agents := fun _ ha => absurd ha List.not_mem_nil
  epochs := List.nodup_nil
  sockets := List.nodup_nil
  led := fun h => absurd rfl h
  named := nofun
  entries := fun _ he => absurd he List.not_mem_nil
  unopened := fun _ _ => rfl

section Agents

variable {c : Client} {pre post : List Agent} {a b : Agent} {o : Option Agent}

theorem mem_of_split (hagents : c.agents = pre ++ a :: post) : a ∈ c.agents := by
  rw [hagents]
  exact List.mem_append_right _ (List.mem_cons_self ..)

theorem mem_of_other (hagents : c.agents = pre ++ a :: post) (hb : b ∈ pre ++ post) :
    b ∈ c.agents := by
  rw [hagents]
  rcases List.mem_append.1 hb with hb | hb
  · exact List.mem_append_left _ hb
  · exact List.mem_append_right _ (List.mem_cons_of_mem _ hb)

theorem other_of_ne (hagents : c.agents = pre ++ a :: post) (hb : b ∈ c.agents) (hne : b ≠ a) :
    b ∈ pre ++ post := by
  rw [hagents] at hb
  rcases List.mem_append.1 hb with hb | hb
  · exact List.mem_append_left _ hb
  · exact List.mem_append_right _ ((List.mem_cons.1 hb).resolve_left hne)

/-- After a turn there are the others and what the agent became. -/
theorem mem_turned : b ∈ pre ++ (o.toList ++ post) ↔ b ∈ pre ++ post ∨ o = some b := by
  simp only [List.mem_append, Option.mem_toList]
  constructor
  · rintro (hb | hb | hb)
    · exact Or.inl (Or.inl hb)
    · exact Or.inr hb
    · exact Or.inl (Or.inr hb)
  · rintro ((hb | hb) | hb)
    · exact Or.inl hb
    · exact Or.inr (Or.inr hb)
    · exact Or.inr (Or.inl hb)

end Agents

namespace Coherent

variable {c c' : Client} {e : Event}

/-- The consumer of an entry has the id of the entry at its own place among the ids. -/
theorem id_of_entry (h : c.Coherent) {entry : Roster.Entry}
    (he : entry ∈ c.board.session.roster.entries) :
    entry.id = c.newId entry.consumer ∧ entry.consumer < c.board.consumers.length := by
  obtain ⟨x, hx, hid, -, -⟩ := h.entries entry he
  exact ⟨hid ▸ h.named _ x hx, (List.getElem?_eq_some_iff.1 hx).1⟩

/-- The id of the next subscription is not registered. -/
theorem next_not_mem (h : c.Coherent) :
    c.newId c.board.consumers.length ∉ c.board.session.roster.ids := by
  intro hmem
  obtain ⟨entry, he, hid⟩ := Roster.mem_ids.1 hmem
  obtain ⟨hname, hlt⟩ := h.id_of_entry he
  have heq := h.fresh (hname.symm.trans hid)
  omega

/-- Only the agent of the session was not told to stop. -/
theorem told_of_other (h : c.Coherent) {pre post : List Agent} {a b : Agent}
    (hagents : c.agents = pre ++ a :: post) (ht : a.told = false) (hb : b ∈ pre ++ post) :
    b.told = true := by
  have hbmem := mem_of_other hagents hb
  have hepoch := (h.agents a (mem_of_split hagents)).current.1 ht
  cases hbt : b.told with
  | true => rfl
  | false =>
    have hbepoch := (h.agents b hbmem).current.1 hbt
    have hnodup := h.epochs
    rw [hagents, List.map_append, List.map_cons] at hnodup
    have hnot := (List.nodup_middle.1 hnodup).notMem
    rw [← List.map_append] at hnot
    exact absurd (List.mem_map.2 ⟨b, hb, hbepoch.trans hepoch.symm⟩) hnot

/-- The others hold other sockets. -/
theorem socket_ne (h : c.Coherent) {pre post : List Agent} {a b : Agent} {k : Nat}
    (hagents : c.agents = pre ++ a :: post) (hb : b ∈ pre ++ post) (hbk : b.socket? = some k) :
    a.socket? ≠ some k := by
  intro hak
  have hnodup := h.sockets
  rw [hagents, List.filterMap_append, List.filterMap_cons_some hak] at hnodup
  have hnot := (List.nodup_middle.1 hnodup).notMem
  rw [← List.filterMap_append] at hnot
  exact hnot (List.mem_filterMap.2 ⟨b, hb, hbk⟩)

theorem quiet (h : c.Coherent) (hq : Quiet e c c') : c'.Coherent where
  fresh := by rw [hq.newId]; exact h.fresh
  session := by rw [hq.session]; exact h.session
  agents := fun a ha => by
    rw [hq.agents] at ha
    exact (h.agents a ha).congr hq.session hq.length.ge fun k _ => hq.client k
  epochs := by rw [hq.agents]; exact h.epochs
  sockets := by rw [hq.agents]; exact h.sockets
  led := fun hp => by
    rw [hq.agents]
    exact h.led (by rwa [phase, hq.session] at hp)
  named := by rw [hq.consumers, hq.newId]; exact h.named
  entries := by rw [hq.session, hq.consumers]; exact h.entries
  unopened := fun k hk => by
    have hview : c'.board.messagesOn k = c.board.messagesOn k := by
      unfold Switchboard.messagesOn
      rw [hq.journal]
    rw [hview]
    exact h.unopened k (by rwa [hq.length] at hk)

/-- What happens to the consumer list alone. -/
theorem consumers (h : c.Coherent) {consumers : List Consumer}
    (hnamed : ∀ (n : Nat) x, consumers[n]? = some x → x.id = c.newId n)
    (hentries : ∀ e ∈ c.board.session.roster.entries, ∃ x, consumers[e.consumer]? = some x ∧
      x.id = e.id ∧ x.attached = true ∧ x.cancelled = false) :
    ({ c with board := { c.board with consumers } } : Client).Coherent where
  fresh := h.fresh
  session := h.session
  agents := fun a ha => (h.agents a ha).congr rfl (le_refl _) fun _ _ => rfl
  epochs := h.epochs
  sockets := h.sockets
  led := h.led
  named := hnamed
  entries := hentries
  unopened := h.unopened

/-- What one consumer does for itself, if it keeps its id, its place in the session and the mark
of a cancel. -/
theorem modifyConsumer (h : c.Coherent) (n : Nat) {f : Consumer → Consumer}
    (hf : ∀ x, (f x).id = x.id ∧ (f x).attached = x.attached ∧ (f x).cancelled = x.cancelled) :
    (c.modifyConsumer n f).Coherent := by
  refine h.consumers (fun i x hx => ?_) fun entry he => ?_
  · rw [List.getElem?_modify] at hx
    obtain ⟨y, hy, rfl⟩ := Option.map_eq_some_iff.1 hx
    rw [← h.named i y hy]
    split
    · exact (hf y).1
    · rfl
  · obtain ⟨x, hx, hxid, hxattached, hxcancelled⟩ := h.entries entry he
    rw [List.getElem?_modify, hx]
    refine ⟨_, rfl, ?_⟩
    split
    · obtain ⟨hfid, hfattached, hfcancelled⟩ := hf x
      exact ⟨hfid.trans hxid, hfattached.trans hxattached, hfcancelled.trans hxcancelled⟩
    · exact ⟨hxid, hxattached, hxcancelled⟩

theorem touch (h : c.Coherent) {n : Nat} {f : Consumer → Consumer} (ht : Touch c n e f) :
    (c.modifyConsumer n f).Coherent := by
  cases ht with
  | poll =>
    refine h.modifyConsumer n fun x => ?_
    obtain ⟨unread, status, hpoll⟩ := x.poll_eq (c.board.session.roster.feeds n)
    rw [hpoll]
    exact ⟨rfl, rfl, rfl⟩
  | drop => exact h.modifyConsumer n fun _ => ⟨rfl, rfl, rfl⟩
  | settle _ =>
    refine h.modifyConsumer n fun x => ?_
    obtain ⟨status, hsettle⟩ := x.settleCancelled_eq
    rw [hsettle]
    exact ⟨rfl, rfl, rfl⟩

theorem launch (h : c.Coherent) (hp : c.phase = .notStarted) (params : Option Json.Members)
    (held : Bool) : (c.launched params held).Coherent := by
  have htold : ∀ a ∈ c.agents, a.told = true := fun a ha => by
    cases ht : a.told with
    | true => rfl
    | false => exact absurd hp ((h.agents a ha).started ht)
  have hsession := c.launched_session params held
  have hepoch : (c.launched params held).board.session.epoch = c.board.session.epoch + 1 := by
    rw [hsession, Session.start_epoch]
  have hphase : (c.launched params held).board.session.phase = .connecting := by
    rw [hsession, Session.start_phase]
  have hagents : (c.launched params held).agents =
      c.agents ++ [{ epoch := c.board.session.epoch + 1, params }] := by
    unfold launched
    simp
  have hlines : (c.launched params held).board.lines = c.board.lines := by simp [launched]
  have hline (k : Nat) : (c.launched params held).board.line k = c.board.line k := by
    unfold Switchboard.line
    rw [hlines]
  constructor
  case fresh => exact h.fresh
  case session =>
    rw [hsession]
    exact h.session.start hp _
  case agents =>
    intro a ha
    rw [hagents] at ha
    rcases List.mem_append.1 ha with ha | ha
    · exact (h.agents a ha).of_told (htold a ha) (by omega) (by rw [hlines])
        fun k _ => by rw [hline]
    · obtain rfl := List.mem_singleton.1 ha
      refine ⟨by rw [hepoch], ?_, fun _ => ?_, fun _ => ?_,
        fun k hk => absurd hk (Option.some_ne_none k).symm⟩
      · rw [hepoch]
        exact iff_of_true rfl rfl
      · rw [hphase]
        decide
      · rw [hphase]
        exact iff_of_false (by decide) Bool.false_ne_true
  case epochs =>
    rw [hagents, List.map_append]
    refine List.Nodup.append h.epochs (List.nodup_singleton _) fun n hn hn' => ?_
    obtain ⟨a, ha, rfl⟩ := List.mem_map.1 hn
    have hle := (h.agents a ha).epoch
    have heq : a.epoch = c.board.session.epoch + 1 := by simpa using hn'
    omega
  case sockets =>
    have hnone : List.filterMap Agent.socket?
        [{ epoch := c.board.session.epoch + 1, params }] = [] := rfl
    rw [hagents, List.filterMap_append, hnone, List.append_nil]
    exact h.sockets
  case led =>
    intro _
    rw [hagents]
    exact ⟨_, List.mem_append_right _ (List.mem_singleton_self _), rfl⟩
  case named =>
    rw [launched_consumers]
    exact h.named
  case entries =>
    rw [hsession, Session.start_roster, launched_consumers]
    exact h.entries
  case unopened =>
    intro k hk
    have hview : (c.launched params held).board.messagesOn k = c.board.messagesOn k := by
      unfold launched
      exact Switchboard.withSession_messagesOn ..
    rw [hview]
    exact h.unopened k (by rwa [hlines] at hk)

/-- The session changes for the caller: its phase, its epoch and the other agents stay. -/
theorem withSession (h : c.Coherent) {session : Session} (hs : session.Coherent)
    (hphase : session.phase = c.phase) (hepoch : session.epoch = c.board.session.epoch)
    {consumers : List Consumer}
    (hnamed : ∀ (n : Nat) x, consumers[n]? = some x → x.id = c.newId n)
    (hentries : ∀ e ∈ session.roster.entries, ∃ x, consumers[e.consumer]? = some x ∧
      x.id = e.id ∧ x.attached = true ∧ x.cancelled = false) :
    ({ c with
      board := { c.board with consumers }.withSession session } : Client).Coherent := by
  have hview (k : Nat) : ({ c.board with consumers }.withSession session).messagesOn k =
      c.board.messagesOn k := Switchboard.withSession_messagesOn ..
  constructor
  case fresh => exact h.fresh
  case session =>
    rwa [Switchboard.withSession_session]
  case agents =>
    intro a ha
    have hfits := h.agents a ha
    have hline (k : Nat) : ({ c.board with consumers }.withSession session).line k =
        c.board.line k := by
      unfold Switchboard.line
      rw [Switchboard.withSession_lines]
    refine ⟨?_, ?_, fun ht => ?_, fun ht => ?_, fun k hk => ?_⟩
    · rw [Switchboard.withSession_session, hepoch]; exact hfits.epoch
    · rw [Switchboard.withSession_session, hepoch]; exact hfits.current
    · rw [Switchboard.withSession_session, hphase]; exact hfits.started ht
    · rw [Switchboard.withSession_session, hphase]; exact hfits.acknowledged ht
    · rw [Switchboard.withSession_lines, hline]
      exact hfits.socket k hk
  case epochs => exact h.epochs
  case sockets => exact h.sockets
  case led =>
    intro hp
    refine h.led ?_
    rwa [phase, Switchboard.withSession_session, hphase] at hp
  case named =>
    rw [Switchboard.withSession_consumers]
    exact hnamed
  case entries =>
    rw [Switchboard.withSession_session, Switchboard.withSession_consumers]
    exact hentries
  case unopened =>
    intro k hk
    rw [hview]
    exact h.unopened k (by rwa [Switchboard.withSession_lines] at hk)

/-- A consumer at the end takes the next id. -/
theorem named_append (h : c.Coherent) {new : Consumer}
    (hnew : new.id = c.newId c.board.consumers.length) (n : Nat) (x : Consumer)
    (hx : (c.board.consumers ++ [new])[n]? = some x) : x.id = c.newId n := by
  rcases Nat.lt_trichotomy n c.board.consumers.length with hlt | rfl | hgt
  · rw [List.getElem?_append_left hlt] at hx
    exact h.named n x hx
  · rw [List.getElem?_concat_length] at hx
    rw [← Option.some.inj hx, hnew]
  · rw [List.getElem?_eq_none (by simp; omega)] at hx
    cases hx

theorem entries_append (h : c.Coherent) (new : Consumer) {entry : Roster.Entry}
    (he : entry ∈ c.board.session.roster.entries) :
    ∃ x, (c.board.consumers ++ [new])[entry.consumer]? = some x ∧
      x.id = entry.id ∧ x.attached = true ∧ x.cancelled = false := by
  obtain ⟨x, hx, hrest⟩ := h.entries entry he
  rw [List.getElem?_append_left (h.id_of_entry he).2]
  exact ⟨x, hx, hrest⟩

theorem enlist (h : c.Coherent) (hp : c.phase ≠ .notStarted) (operation : Operation) :
    (c.enlisted operation).Coherent := by
  refine h.withSession (h.session.subscribe hp _ h.next_not_mem operation _)
    (Session.subscribe_phase ..) (Session.subscribe_epoch ..) (h.named_append rfl)
    fun entry he => ?_
  rw [Session.subscribe_roster, Roster.mem_insert] at he
  rcases he with rfl | ⟨he, -⟩
  · exact ⟨_, List.getElem?_concat_length, rfl, rfl, rfl⟩
  · exact h.entries_append _ (Roster.mem_prune.1 he).1

theorem refuse (h : c.Coherent) (error : SubscribeError) :
    (c.addRefused (c.newId c.board.consumers.length) error).2.Coherent := by
  have hadded := h.consumers
    (@named_append c h (.refused (c.newId c.board.consumers.length) error) rfl)
    fun entry he => h.entries_append _ he
  exact { hadded with
    agents := fun a ha => (hadded.agents a ha).congr rfl (le_refl _) fun _ _ => rfl }

theorem withdraw (h : c.Coherent) {n : Nat} {x : Consumer}
    (hx : c.board.consumers[n]? = some x) : (c.withdrawn n x).Coherent := by
  have hnamed (i : Nat) (y : Consumer)
      (hy : (c.board.consumers.modify n Consumer.markCancelled)[i]? = some y) :
      y.id = c.newId i := by
    rw [List.getElem?_modify] at hy
    obtain ⟨z, hz, rfl⟩ := Option.map_eq_some_iff.1 hy
    rw [← h.named i z hz]
    split <;> rfl
  -- an entry of another consumer is not marked
  have hother {entry : Roster.Entry} (he : entry ∈ c.board.session.roster.entries)
      (hne : n ≠ entry.consumer) :
      ∃ y, (c.board.consumers.modify n Consumer.markCancelled)[entry.consumer]? = some y ∧
        y.id = entry.id ∧ y.attached = true ∧ y.cancelled = false := by
    rw [List.getElem?_modify_ne _ _ hne]
    exact h.entries entry he
  -- the entry of the consumer has its id, and it is there only if the consumer is attached
  have hown {entry : Roster.Entry} (he : entry ∈ c.board.session.roster.entries)
      (heq : n = entry.consumer) : entry.id = x.id ∧ x.attached = true := by
    obtain ⟨y, hy, hid, hattached, -⟩ := h.entries entry he
    rw [← heq, hx] at hy
    obtain rfl := Option.some.inj hy
    exact ⟨hid.symm, hattached⟩
  rw [withdrawn_eq]
  refine h.withSession (h.session.withdraw _ x) (Session.withdraw_phase ..)
    (Session.withdraw_epoch ..) hnamed fun entry he => ?_
  refine hother (Session.mem_withdraw _ x he) fun heq => ?_
  obtain ⟨hid, hattached⟩ := hown (Session.mem_withdraw _ x he) heq
  rw [Session.withdraw, if_pos hattached, Session.cancel_roster] at he
  exact (Roster.mem_erase.1 he).2 hid

theorem halt (h : c.Coherent) (hp : c.phase ≠ .notStarted) : c.halted.Coherent := by
  have hlines : c.halted.board.lines = c.board.lines := Switchboard.commit_lines ..
  have hepoch : c.halted.board.session.epoch = c.board.session.epoch + 1 := by
    rw [halted_session hp, Session.terminate_epoch]
  have hroster : c.halted.board.session.roster.entries = [] := by
    rw [halted_session hp, Session.terminate_roster]
  have hagents : c.halted.agents = c.agents.map fun a =>
      if a.epoch = c.board.session.epoch then { a with told := true } else a := rfl
  have hline (k : Nat) : c.halted.board.line k = c.board.line k := by
    unfold Switchboard.line
    rw [hlines]
  constructor
  case fresh => exact h.fresh
  case session =>
    rw [halted_session hp]
    exact .terminate { c.board.session with epoch := c.board.session.epoch + 1 } h.session.roster
      .stopped
  case agents =>
    intro b hb
    rw [hagents] at hb
    obtain ⟨a, ha, rfl⟩ := List.mem_map.1 hb
    have hfits := h.agents a ha
    -- after the stop every agent was told
    split
    · next heq =>
      refine ⟨?_, iff_of_false nofun fun heq' => ?_, nofun, nofun, fun k hk => ?_⟩
      · rw [hepoch]
        exact hfits.epoch.trans (Nat.le_succ _)
      · rw [hepoch] at heq'
        have hle := hfits.epoch
        dsimp only at heq'
        omega
      · rw [hlines, hline]
        exact hfits.socket k hk
    · next hne =>
      have ht : a.told = true := by
        cases ht : a.told with
        | true => rfl
        | false => exact absurd (hfits.current.1 ht) hne
      exact hfits.of_told ht (by omega) (by rw [hlines]) fun k _ => by rw [hline]
  case epochs =>
    have hsame : c.halted.agents.map Agent.epoch = c.agents.map Agent.epoch := by
      rw [hagents, List.map_map]
      refine List.map_congr_left fun a _ => ?_
      dsimp only [Function.comp]
      split <;> rfl
    rw [hsame]
    exact h.epochs
  case sockets =>
    have hsame : c.halted.agents.filterMap Agent.socket? = c.agents.filterMap Agent.socket? := by
      rw [hagents, List.filterMap_map]
      refine List.filterMap_congr fun a _ => ?_
      dsimp only [Function.comp]
      split <;> rfl
    rw [hsame]
    exact h.sockets
  case led => exact fun hne => absurd (halted_phase hp) hne
  case named =>
    intro n x hx
    have hfed : c.halted.board.consumers[n]? =
        c.board.consumers[n]?.map (Consumer.feed (Effect.itemsFor c.board.session.stop.2 n)) :=
      Switchboard.commit_consumers ..
    rw [hfed] at hx
    obtain ⟨y, hy, rfl⟩ := Option.map_eq_some_iff.1 hx
    rw [Consumer.feed_id]
    exact h.named n y hy
  case entries =>
    intro entry he
    rw [hroster] at he
    cases he
  case unopened =>
    intro k hk
    have hview : c.halted.board.messagesOn k = c.board.messagesOn k :=
      Switchboard.commit_messagesOn ..
    rw [hview]
    exact h.unopened k (by rwa [hlines] at hk)

section Turned

variable {pre post : List Agent} {a : Agent} {o : Option Agent} {board : Switchboard}
  (h : c.Coherent) (hagents : c.agents = pre ++ a :: post) (hout : a.Outcome c.board (o, board))

include h hagents hout

/-- A turn keeps its own agent fitting, and the others are not concerned. -/
theorem fits_turned {b : Agent} (hb : b ∈ pre ++ (o.toList ++ post)) : b.Fits board := by
  have hadvance := hout.advance
  rcases mem_turned.1 hb with hb | rfl
  · have hbfits := h.agents b (mem_of_other hagents hb)
    have hclient : ∀ k, b.socket? = some k →
        (board.line k).pair.client = (c.board.line k).pair.client := fun k hk =>
      hadvance.client k (hbfits.socket k hk).1 (h.socket_ne hagents hb hk)
    cases hat : a.told with
    | true => exact hbfits.congr (hout.told hat).2 hadvance.length hclient
    | false =>
      exact hbfits.of_told (h.told_of_other hagents hat hb) hadvance.epoch.ge hadvance.length
        hclient
  · exact (hout.successor b rfl).fits

theorem epochs_turned : ((pre ++ (o.toList ++ post)).map Agent.epoch).Nodup := by
  have hnodup := h.epochs
  rw [hagents, List.map_append, List.map_cons] at hnodup
  cases o with
  | none =>
    rw [Option.toList_none, List.nil_append, List.map_append]
    exact (List.nodup_middle.1 hnodup).of_cons
  | some a' =>
    rw [Option.toList_some, List.singleton_append, List.map_append, List.map_cons,
      (hout.successor a' rfl).epoch]
    exact hnodup

/-- The agent has the socket that it had, or one that just opened, and nobody else has it. -/
theorem sockets_turned : ((pre ++ (o.toList ++ post)).filterMap Agent.socket?).Nodup := by
  have hnodup := h.sockets
  rw [hagents, List.filterMap_append] at hnodup
  have hrest : ((pre ++ post).filterMap Agent.socket?).Nodup := by
    rw [List.filterMap_append]
    cases hs : a.socket? with
    | none => rwa [List.filterMap_cons_none hs] at hnodup
    | some k =>
      rw [List.filterMap_cons_some hs] at hnodup
      exact (List.nodup_middle.1 hnodup).of_cons
  cases o with
  | none => exact hrest
  | some a' =>
    rw [Option.toList_some, List.singleton_append, List.filterMap_append]
    cases hs : a'.socket? with
    | none =>
      rw [List.filterMap_cons_none hs, ← List.filterMap_append]
      exact hrest
    | some k =>
      rw [List.filterMap_cons_some hs, List.nodup_middle, ← List.filterMap_append]
      refine List.nodup_cons.2 ⟨fun hk => ?_, hrest⟩
      obtain ⟨b, hb, hbk⟩ := List.mem_filterMap.1 hk
      rcases (hout.successor a' rfl).socket k hs with hak | rfl
      · exact h.socket_ne hagents hb hbk hak
      · exact absurd ((h.agents b (mem_of_other hagents hb)).socket _ hbk).1 (lt_irrefl _)

/-- The agent of the session goes on unless it has ended the session. -/
theorem led_turned (hp : board.session.phase ≠ .notStarted) :
    ∃ b ∈ pre ++ (o.toList ++ post), b.told = false := by
  cases hat : a.told with
  | true =>
    have hphase : c.phase ≠ .notStarted := by
      rw [phase, ← (hout.told hat).2]
      exact hp
    obtain ⟨b, hb, hbt⟩ := h.led hphase
    rw [hagents] at hb
    refine ⟨b, ?_, hbt⟩
    rcases List.mem_append.1 hb with hb | hb
    · exact List.mem_append_left _ hb
    · rcases List.mem_cons.1 hb with rfl | hb
      · rw [hat] at hbt
        cases hbt
      · exact List.mem_append_right _ (List.mem_append_right _ hb)
  | false =>
    cases o with
    | none => exact absurd (hout.ended hat rfl) hp
    | some a' => exact ⟨a', by simp, (hout.successor a' rfl).told.trans hat⟩

end Turned

theorem turn (h : c.Coherent) {pre post : List Agent} {a : Agent} {o : Option Agent}
    {board : Switchboard} (hagents : c.agents = pre ++ a :: post)
    (ht : a.turn c.board = some (o, board)) :
    ({ c with agents := pre ++ (o.toList ++ post), board } : Client).Coherent := by
  have hfits := h.agents a (mem_of_split hagents)
  have hout := (hfits.move ht).outcome hfits h.session
  have hadvance := hout.advance
  constructor
  case fresh => exact h.fresh
  case session => exact hout.coherent
  case agents => exact fun _ => h.fits_turned hagents hout
  case epochs => exact h.epochs_turned hagents hout
  case sockets => exact h.sockets_turned hagents hout
  case led => exact h.led_turned hagents hout
  case named =>
    intro n x hx
    obtain ⟨items, hitems⟩ := hadvance.consumers n
    rw [hitems] at hx
    obtain ⟨y, hy, rfl⟩ := Option.map_eq_some_iff.1 hx
    rw [Consumer.feed_id]
    exact h.named n y hy
  case entries =>
    intro entry he
    obtain ⟨x, hx, hid, hattached, hcancelled⟩ := h.entries entry (hadvance.entries entry he)
    obtain ⟨items, hitems⟩ := hadvance.consumers entry.consumer
    dsimp only at hitems ⊢
    rw [hitems, hx]
    exact ⟨_, rfl, by rwa [Consumer.feed_id], by rwa [Consumer.feed_attached],
      by rwa [Consumer.feed_cancelled]⟩
  case unopened =>
    intro k hk
    dsimp only at hk ⊢
    rw [hadvance.messagesOn k hk]
    exact h.unopened k (hadvance.length.trans hk)

theorem pass (h : c.Coherent) : c.pass.Coherent where
  fresh := h.fresh
  session := h.session
  agents := fun a ha => (h.agents a ha).congr rfl (le_refl _) fun _ _ => rfl
  epochs := h.epochs
  sockets := h.sockets
  led := h.led
  named := h.named
  entries := h.entries
  unopened := h.unopened

/-- Every step keeps the parts of a client together. -/
theorem step (h : c.Coherent) (hstep : Step e c c') : c'.Coherent := by
  cases hstep with
  | quiet hq => exact h.quiet hq
  | touch ht => exact h.touch ht
  | launch he hp params held => exact h.launch hp params held
  | enlist he hp operation => exact h.enlist hp operation
  | refuse he error => exact h.refuse error
  | withdraw he hx hc => exact h.withdraw hx
  | halt hp => exact h.halt hp
  | turn hagents ht => exact h.turn hagents ht
  | pass he => exact h.pass

/-- Every event keeps the parts of a client together. -/
theorem perform (h : c.Coherent) (e : Event) : (c.perform e).Coherent :=
  perform_induction (e := e) (fun _ _ hc hstep => hc.step hstep) h

/-- The agent of a session that has started is the only one that was not told to stop. -/
theorem current?_eq_some (h : c.Coherent) {a : Agent} (ha : a ∈ c.agents) (ht : a.told = false) :
    c.current? = some a := by
  obtain ⟨pre, post, hagents⟩ := List.append_of_mem ha
  have htold : ∀ b ∈ pre, b.told = true := fun b hb =>
    h.told_of_other hagents ht (List.mem_append_left _ hb)
  unfold current?
  rw [hagents, List.find?_append, List.find?_eq_none.2 fun b hb => by simp [htold b hb],
    List.find?_cons_of_pos (by simp [ht])]
  rfl

/-- An acknowledged session has a socket in use. -/
theorem currentLink?_of_acknowledged (h : c.Coherent) (hp : c.phase = .acknowledged) :
    ∃ link, c.currentLink? = some link ∧ ∃ a ∈ c.agents, a.told = false ∧
      a.stage = .serving link ∧ link.acknowledged = true := by
  obtain ⟨a, ha, ht⟩ := h.led (by rw [hp]; nofun)
  have hack := ((h.agents a ha).acknowledged ht).1 hp
  unfold Agent.isAcknowledged at hack
  split at hack
  · next link hs =>
    refine ⟨link, ?_, a, ha, ht, hs, hack⟩
    unfold currentLink?
    rw [h.current?_eq_some ha ht, Option.bind_some, hs]
  · cases hack

theorem run (h : c.Coherent) (es : List Event) : (c.run es).Coherent :=
  run_induction (fun _ _ _ => step) h es

theorem works (h : c.Coherent) (hw : c.Works c') : c'.Coherent := by
  obtain ⟨es, -, rfl⟩ := hw
  exact h.run es

end Coherent

/-- The parts of a client fit together after every run. -/
theorem coherent_run (settings : Settings) (transport : Transport) {newId : Nat → String}
    (hid : Function.Injective newId) (es : List Event) :
    ((create settings transport newId).run es).Coherent :=
  (coherent_create settings transport hid).run es

end Client

end LiveQuery
