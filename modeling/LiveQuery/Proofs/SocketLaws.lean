import LiveQuery.Proofs.Episodes
import Mathlib.Data.List.Induction

/-!
# Laws of the records of sockets

A law of records has two sides: what holds of a record while an agent has the link of the socket,
and what holds once nobody has the socket any more. If every episode keeps it (`Client.Lawful`), it
holds of every socket in every run (`Client.Recorded`, `Client.recorded_run`), because nothing but
the turns of the agent that has the socket adds to its record.
-/

namespace LiveQuery

/-- Does a notice tell that an acknowledgment was read? -/
def Notice.acknowledges : Notice → Bool
  | .received _ item => Incoming.acknowledges item
  | _ => false

namespace Client

variable {c c' : Client} {e : Event}

/-- What happens adds to no record, and whoever has a link had it before. -/
structure Aside (c c' : Client) : Prop where
  links : ∀ b ∈ c'.agents, ∀ link, b.link? = some link →
    ∃ a ∈ c.agents, a.link? = some link ∧ a.params = b.params
  record : ∀ k, c'.board.record k = c.board.record k

namespace Aside

theorem of_agents (hagents : c'.agents = c.agents)
    (hrecord : ∀ k, c'.board.record k = c.board.record k) : c.Aside c' :=
  ⟨fun b hb _ hlink => ⟨b, hagents ▸ hb, hlink, rfl⟩, hrecord⟩

theorem trans {c'' : Client} (h : c.Aside c') (h' : c'.Aside c'') : c.Aside c'' where
  links := by
    intro b hb link hlink
    obtain ⟨a', ha', hlink', hparams'⟩ := h'.links b hb link hlink
    obtain ⟨a, ha, hlink'', hparams⟩ := h.links a' ha' link hlink'
    exact ⟨a, ha, hlink'', hparams.trans hparams'⟩
  record := fun k => (h'.record k).trans (h.record k)

end Aside

theorem aside_step (hstep : Step e c c') (he : e.isTurn = false) : c.Aside c' := by
  cases hstep with
  | quiet hq => exact .of_agents hq.agents fun k => Switchboard.record_congr hq.journal
  | touch => exact .of_agents rfl fun _ => rfl
  | pass => exact .of_agents rfl fun _ => rfl
  | enlist => exact .of_agents rfl fun _ => Switchboard.withSession_record _
  | refuse => exact .of_agents rfl fun _ => Switchboard.note_record rfl
  | withdraw =>
    -- a cancel may queue a message, which is not yet sent
    rw [withdrawn_eq]
    exact .of_agents rfl fun _ => Switchboard.withSession_record _
  | launch =>
    refine ⟨fun b hb link hlink => ?_, fun _ => Switchboard.withSession_record _⟩
    rcases List.mem_append.1 hb with hb | hb
    · exact ⟨b, hb, hlink, rfl⟩
    · -- the new agent has no link yet
      rw [List.mem_singleton.1 hb] at hlink
      cases hlink
  | halt =>
    refine ⟨fun b hb link hlink => ?_, fun _ => Switchboard.commit_record _⟩
    -- whoever is told to stop keeps its link until its next turn
    obtain ⟨a, ha, rfl⟩ := List.mem_map.1 hb
    refine ⟨a, ha, ?_, ?_⟩
    · split at hlink <;> exact hlink
    · split <;> rfl
  | turn hagents ht hturn =>
    rw [he] at hturn
    cases hturn

/-- Only turns add to records. -/
theorem aside_perform (he : e.isTurn = false) : c.Aside (c.perform e) :=
  perform_induction (e := e) (P := c.Aside) (fun _ _ h hstep => h.trans (aside_step hstep he))
    (.of_agents rfl fun _ => rfl)

/-- What an event adds to the record of a socket is an episode, or nothing. -/
theorem record_perform (hc : c.Coherent) (e : Event) (k : Nat) :
    (c.perform e).board.record k = c.board.record k ∨
      ∃ a ∈ c.agents, a.Owns c.board k ∧ ∃ news link'?, a.Episode c.board k a.link? news link'? ∧
        (c.perform e).board.record k = c.board.record k ++ news.map (JournalEntry.mk c.board.now) := by
  cases he : e.isTurn with
  | false => exact Or.inl ((aside_perform he).record k)
  | true =>
    rcases c.perform_cases he with heq | ⟨pre, a, post, o, board, hagents, ht, heq⟩
    · rw [heq]
      exact Or.inl rfl
    · rw [heq]
      have hmem := mem_of_split hagents
      cases (hc.agents a hmem).deed ht with
      | apart _ _ hrecord => exact Or.inl (hrecord k)
      | episode hown h hrecord helse hbound =>
        rename_i s news
        -- the episode is about this socket or about another one
        by_cases hs : k = s
        · subst hs
          exact Or.inr ⟨a, hmem, hown, news, _, h, hrecord⟩
        · exact Or.inl (helse k hs)

/-- What an event adds to the dealings with a socket is an episode, or nothing. -/
theorem dealings_perform (hc : c.Coherent) (e : Event) (k : Nat) :
    (c.perform e).board.dealings k = c.board.dealings k ∨
      ∃ a ∈ c.agents, a.Owns c.board k ∧ ∃ news link'?, a.Episode c.board k a.link? news link'? ∧
        (c.perform e).board.dealings k = c.board.dealings k ++ news := by
  rcases record_perform hc e k with hsame | ⟨a, ha, hown, news, link'?, h, hnews⟩
  · left
    rw [← Switchboard.record_notices, hsame, Switchboard.record_notices]
  · right
    refine ⟨a, ha, hown, news, link'?, h, ?_⟩
    have hnotices : (news.map (JournalEntry.mk c.board.now)).map JournalEntry.notice = news := by
      rw [List.map_map]
      exact List.map_id _
    rw [← Switchboard.record_notices, hnews, List.map_append, hnotices, Switchboard.record_notices]

/-! ### Laws of records -/

section Laws

variable (Live : Option Json.Members → Link → List JournalEntry → Prop)
  (Past : Nat → List JournalEntry → Prop)

/-- A law of records: what holds while an agent with these parameters has the link, and what holds
of a socket that opened once nobody has it. -/
structure Recorded (c : Client) : Prop where
  live : ∀ a ∈ c.agents, ∀ link, a.link? = some link →
    Live a.params link (c.board.record link.socket)
  past : ∀ k ∉ c.agents.filterMap Agent.socket?, c.board.record k ≠ [] →
    Past k (c.board.record k)

/-- The law before an episode of a socket. One that has not opened has no record. -/
def Before (params : Option Json.Members) (k : Nat) : Option Link → List JournalEntry → Prop
  | none, record => record = []
  | some link, record => link.socket = k ∧ Live params link record

/-- The law after an episode of a socket. -/
def After (params : Option Json.Members) (k : Nat) : Option Link → List JournalEntry → Prop
  | none, record => Past k record
  | some link, record => Live params link record

/-- Every episode that can happen now keeps the law. -/
def Lawful (c : Client) : Prop :=
  ∀ a ∈ c.agents, ∀ {k : Nat} {link'? : Option Link} {news : List Notice},
    a.Episode c.board k a.link? news link'? →
    Before Live a.params k a.link? (c.board.record k) →
    After Live Past a.params k link'?
      (c.board.record k ++ news.map (JournalEntry.mk c.board.now))

variable {Live Past}

/-- The law before the turn of an agent, for the socket that the turn is about. -/
theorem Recorded.before (h : c.Recorded Live Past) (horderly : c.Orderly) {a : Agent}
    (ha : a ∈ c.agents) {k : Nat} (hown : a.Owns c.board k) :
    Before Live a.params k a.link? (c.board.record k) := by
  cases hlink : a.link? with
  | none =>
    rw [hown.next hlink]
    exact (Switchboard.record_eq_nil ..).2 (horderly.unopened _ (le_refl _))
  | some link =>
    have hsocket := hown.socket hlink
    rw [← hsocket]
    exact ⟨rfl, h.live a ha link hlink⟩

/-- The other agents have other sockets than the one that an agent owns. -/
theorem Coherent.ne_of_owns (hc : c.Coherent) {pre post : List Agent} {a b : Agent}
    (hagents : c.agents = pre ++ a :: post) (hb : b ∈ pre ++ post) {k s : Nat}
    (hown : a.Owns c.board k) (hs : b.socket? = some s) : s ≠ k := by
  rintro rfl
  rcases hown with hown | ⟨-, hk⟩
  · exact hc.socket_ne hagents hb hs hown
  · exact ((hc.agents b (mem_of_other hagents hb)).socket _ hs).1.ne hk

/-- A socket that nobody has after a turn was had by nobody before, unless the turn left it. -/
theorem unheld_before {pre post : List Agent} {a : Agent} {o : Option Agent} {s : Nat}
    (hagents : c.agents = pre ++ a :: post)
    (hs : s ∉ (pre ++ (o.toList ++ post)).filterMap Agent.socket?) (ha : a.socket? ≠ some s) :
    s ∉ c.agents.filterMap Agent.socket? := by
  intro hmem
  obtain ⟨b, hb, hbs⟩ := List.mem_filterMap.1 hmem
  by_cases hba : b = a
  · rw [hba] at hbs
    exact ha hbs
  · apply hs
    exact List.mem_filterMap.2 ⟨b, mem_turned.2 (Or.inl (other_of_ne hagents hb hba)), hbs⟩

theorem Recorded.turn (h : c.Recorded Live Past) (hlawful : Lawful Live Past c) (hc : c.Coherent)
    (horderly : c.Orderly) {pre post : List Agent} {a : Agent} {t : Turn}
    (hagents : c.agents = pre ++ a :: post) (ht : a.turn c.board = some t) :
    ({ c with agents := pre ++ (t.1.toList ++ post), board := t.2 } : Client).Recorded Live Past := by
  have hmem := mem_of_split hagents
  have hfits := hc.agents a hmem
  cases hfits.deed ht with
  | apart hlink hlink' hrecord =>
    constructor
    · intro b hb link hblink
      rw [hrecord]
      rcases mem_turned.1 hb with hb | hb
      · exact h.live b (mem_of_other hagents hb) link hblink
      · rw [hb, Option.bind_some, hblink] at hlink'
        cases hlink'
    · intro s hs hne
      have hnone : a.socket? ≠ some s := by
        rw [Agent.socket?_eq_map, hlink]
        nofun
      rw [hrecord] at hne ⊢
      exact h.past s (unheld_before hagents hs hnone) hne
  | episode hown hepisode hrecord helse hbound =>
    rename_i k news
    have hafter := hlawful a hmem hepisode (h.before horderly hmem hown)
    rw [← hrecord] at hafter
    -- a link that the agent has after the episode is to the same socket
    have hsame {link : Link} (hlink : t.1.bind Agent.link? = some link) : link.socket = k := by
      rw [hlink] at hepisode
      exact hepisode.socket fun link hlink => hown.socket hlink
    constructor
    · intro b hb link hblink
      rcases mem_turned.1 hb with hb | hb
      · rw [helse _ (hc.ne_of_owns hagents hb hown (Agent.socket?_of_link? hblink))]
        exact h.live b (mem_of_other hagents hb) link hblink
      · have hlink : t.1.bind Agent.link? = some link := by
          rw [hb]
          exact hblink
        rw [(hfits.move ht).params b hb, hsame hlink]
        rw [hlink] at hafter
        exact hafter
    · intro s hs hne
      by_cases hsk : s = k
      · have hleft : t.1.bind Agent.link? = none := by
          apply Option.eq_none_iff_forall_ne_some.2
          intro link hlink
          obtain ⟨b, hb, hblink⟩ := Option.bind_eq_some_iff.1 hlink
          apply hs
          refine List.mem_filterMap.2 ⟨b, mem_turned.2 (Or.inr hb), ?_⟩
          rw [Agent.socket?_of_link? hblink, hsame hlink, hsk]
        rw [hleft] at hafter
        rw [hsk]
        exact hafter
      · have hnot : a.socket? ≠ some s := by
          intro hsocket
          rcases hown with hown | ⟨hnone, -⟩
          · exact hsk (Option.some.inj (hsocket.symm.trans hown))
          · rw [hnone] at hsocket
            cases hsocket
        rw [helse s hsk] at hne ⊢
        exact h.past s (unheld_before hagents hs hnot) hne

theorem Recorded.perform (h : c.Recorded Live Past) (hlawful : Lawful Live Past c)
    (hc : c.Coherent) (horderly : c.Orderly) (e : Event) :
    (c.perform e).Recorded Live Past := by
  by_cases he : e.isTurn = true
  · rcases c.perform_cases he with heq | ⟨pre, a, post, o, board, hagents, ht, heq⟩
    · rw [heq]
      exact h
    · rw [heq]
      exact h.turn hlawful hc horderly hagents ht
  · have he := Bool.eq_false_iff.2 he
    have haside := c.aside_perform he
    have hapart := c.apart_perform he
    constructor
    · intro b hb link hlink
      obtain ⟨a, ha, halink, hparams⟩ := haside.links b hb link hlink
      rw [haside.record, ← hparams]
      exact h.live a ha link halink
    · intro k hk hne
      rw [haside.record] at hne ⊢
      exact h.past k (hapart.sockets ▸ hk) hne

/-- What follows from either side of the law, and holds of a socket that has not opened, holds of
every socket. -/
theorem Recorded.every (h : c.Recorded Live Past) {Q : Nat → List JournalEntry → Prop}
    (hnil : ∀ k, Q k [])
    (hlive : ∀ params link record, Live params link record → Q link.socket record)
    (hpast : ∀ k record, Past k record → Q k record) (k : Nat) : Q k (c.board.record k) := by
  by_cases hused : k ∈ c.agents.filterMap Agent.socket?
  · obtain ⟨a, ha, hsocket⟩ := List.mem_filterMap.1 hused
    rw [Agent.socket?_eq_map] at hsocket
    obtain ⟨link, hlink, rfl⟩ := Option.map_eq_some_iff.1 hsocket
    exact hlive _ _ _ (h.live a ha link hlink)
  · by_cases hne : c.board.record k = []
    · rw [hne]
      exact hnil k
    · exact hpast _ _ (h.past k hused hne)

/-- A law that every episode of a run keeps holds of every socket after it. -/
theorem recorded_run (settings : Settings) (transport : Transport) {newId : Nat → String}
    (hid : Function.Injective newId) (es : List Event)
    (hlawful : ∀ es', es' <+: es → Lawful Live Past ((create settings transport newId).run es')) :
    ((create settings transport newId).run es).Recorded Live Past := by
  induction es using List.reverseRecOn with
  | nil => exact ⟨fun a ha => absurd ha List.not_mem_nil, fun k _ hne => absurd rfl hne⟩
  | append_singleton es e ih =>
    have hbefore := List.prefix_append es [e]
    rw [run_append]
    exact (ih fun es' h => hlawful es' (h.trans hbefore)).perform (hlawful es hbefore)
      (coherent_run settings transport hid es) (orderly_run settings transport hid es) e

end Laws

/-! ## The acknowledgment of a socket -/

/-- A link is acknowledged exactly if an acknowledgment was read from its socket. -/
theorem acknowledged_run (settings : Settings) (transport : Transport) {newId : Nat → String}
    (hid : Function.Injective newId) (es : List Event) :
    ((create settings transport newId).run es).Recorded
      (fun _ link record => link.acknowledged = record.any fun e => e.notice.acknowledges)
      fun _ _ => True := by
  refine recorded_run settings transport hid es fun es _ a ha k link'? news h hbefore => ?_
  generalize ((create settings transport newId).run es).board.record k = record at hbefore ⊢
  generalize a.link? = link? at h hbefore
  cases h with
  | greets =>
    obtain rfl : record = [] := hbefore
    rfl
  | snubbed | leaves => trivial
  | pings | sends =>
    obtain ⟨-, hack⟩ := hbefore
    exact hack.trans (by simp [Notice.acknowledges])
  | hears hat hcalm hitem =>
    rename_i link item arrived
    obtain ⟨-, hack⟩ := hbefore
    -- the answer to an item is sent, not read
    have hanswer : ((Incoming.answer? item).toList.map fun m =>
        (Notice.sent k (.message m) arrived false)).any Notice.acknowledges = false := by
      cases Incoming.answer? item <;> rfl
    simp only [After, Link.after, hack, List.map_cons, List.any_append, List.any_cons,
      List.any_map, Function.comp_def]
    simp only [List.any_map, Function.comp_def] at hanswer
    rw [hanswer, Bool.or_false]
    rfl

end Client

end LiveQuery
