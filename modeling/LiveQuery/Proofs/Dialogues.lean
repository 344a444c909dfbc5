import LiveQuery.Proofs.Replay
import LiveQuery.Proofs.Spared

/-!
# What is said about an id

What the client queues about an id is a dialogue on each socket: nothing, or a `subscribe`, or a
`subscribe` and later a `complete` (`Dialogue`). Once a `complete` was queued nothing is queued about
the id for any later socket (`Client.Outspoken`, `Client.outspoken_run`). This is because only
registered ids are asked for or taken back, an id that was taken back is no longer registered
(`Session.Dismisses`), and ids never repeat.
-/

namespace LiveQuery

/-! ## What a queue says about an id -/

/-- The messages about an id, in order. -/
def about (id : String) (queue : List Message) : List Message :=
  queue.filter fun m => m.id? == some id

/-- What may be said about an id on one socket. -/
inductive Dialogue (id : String) : List Message → Prop
  | silent : Dialogue id []
  | asked (operation : Operation) : Dialogue id [.subscribe id operation]
  | ended (operation : Operation) : Dialogue id [.subscribe id operation, .complete id]

section About

variable {id : String} {queue queue' : List Message} {m : Message}

theorem mem_about : m ∈ about id queue ↔ m ∈ queue ∧ m.id? = some id := by
  simp [about]

theorem about_append (id : String) (queue queue' : List Message) :
    about id (queue ++ queue') = about id queue ++ about id queue' := List.filter_append ..

/-- Ids that are told apart are taken back once each. -/
theorem about_completes {ids : List String} (hids : ids.Nodup) :
    about id (ids.map .complete) = if id ∈ ids then [.complete id] else [] := by
  induction ids with
  | nil => rfl
  | cons other rest ih =>
    obtain ⟨hother, hrest⟩ := List.nodup_cons.1 hids
    have hcons : about id ((other :: rest).map .complete) =
        about id [.complete other] ++ about id (rest.map .complete) := about_append id [_] _
    rw [hcons, ih hrest]
    by_cases heq : other = id
    · subst heq
      simp [about, Message.id?, hother]
    · simp [about, Message.id?, heq, Ne.symm heq]

/-- Entries that are told apart are asked for once each. -/
theorem about_subscribes {entries : List Roster.Entry} (hids : (entries.map Roster.Entry.id).Nodup) :
    about id (entries.map fun e => .subscribe e.id e.operation) = [] ∧
        id ∉ entries.map Roster.Entry.id ∨
      (∃ operation, about id (entries.map fun e => .subscribe e.id e.operation) =
        [.subscribe id operation]) ∧ id ∈ entries.map Roster.Entry.id := by
  induction entries with
  | nil => exact Or.inl ⟨rfl, List.not_mem_nil⟩
  | cons entry rest ih =>
    obtain ⟨hentry, hrest⟩ := List.nodup_cons.1 hids
    have hcons : about id ((entry :: rest).map fun e => .subscribe e.id e.operation) =
        about id [.subscribe entry.id entry.operation] ++
          about id (rest.map fun e => .subscribe e.id e.operation) := about_append id [_] _
    rw [hcons]
    by_cases heq : entry.id = id
    · subst heq
      rcases ih hrest with ⟨hnone, -⟩ | ⟨-, hmem⟩
      · rw [hnone]
        exact Or.inr ⟨⟨entry.operation, by simp [about, Message.id?]⟩, List.mem_cons_self ..⟩
      · exact absurd hmem hentry
    · have hother : about id [.subscribe entry.id entry.operation] = [] := by
        simp [about, Message.id?, heq]
      rw [hother, List.nil_append, List.map_cons, List.mem_cons]
      simpa [Ne.symm heq] using ih hrest

/-- What is said first is a dialogue too. -/
theorem Dialogue.begun {said all : List Message} (h : Dialogue id all) (hsaid : said <+: all) :
    Dialogue id said := by
  cases h with
  | silent =>
    rw [List.prefix_nil.1 hsaid]
    exact .silent
  | asked operation =>
    rcases List.prefix_cons_iff.1 hsaid with rfl | ⟨rest, rfl, hrest⟩
    · exact .silent
    · rw [List.prefix_nil.1 hrest]
      exact .asked operation
  | ended operation =>
    rcases List.prefix_cons_iff.1 hsaid with rfl | ⟨rest, rfl, hrest⟩
    · exact .silent
    · rcases List.prefix_cons_iff.1 hrest with rfl | ⟨last, rfl, hlast⟩
      · exact .asked operation
      · rw [List.prefix_nil.1 hlast]
        exact .ended operation

end About

/-! ## What a step does to the ids -/

namespace Client

variable {c c' : Client} {e : Event} {k : Nat} {id : String}

/-- The ids that are registered. -/
abbrev ids (c : Client) : List String := c.board.session.roster.ids

/-- What a step does to the registered ids and to the outgoing queue. -/
inductive Turnover (e : Event) (c c' : Client) : Prop
  /-- Some ids are taken back. -/
  | trims (h : c.board.session.Trims c'.board.session)
  /-- A message is sent, which may fail. -/
  | sends {m : Message} {rest : List Message} (hids : ∀ id ∈ c'.ids, id ∈ c.ids)
      (hout : c.board.session.outgoing = some (m :: rest))
      (hout' : c'.board.session.outgoing = some rest)
  /-- The socket in use is left. -/
  | leaves (hids : ∀ id ∈ c'.ids, id ∈ c.ids) (hout' : c'.board.session.outgoing = none)
  /-- The server acknowledges. -/
  | flushes (hids : c'.ids = (c.board.session.roster.prune c.board.listening).2.ids)
      (hout : c.board.session.outgoing = none)
  /-- A new id is asked for, at once or later. -/
  | enlists (operation : Operation) (gone : List String)
      (hids : ∀ id ∈ c'.ids, id = c.newId c.board.consumers.length ∨ id ∈ c.ids)
      (hconsumers : c.board.consumers.length < c'.board.consumers.length)
      (hgone : c.board.session.Dismisses c'.board.session gone)
      (hout : c.phase = .acknowledged → c'.board.session.outgoing =
        c.board.session.outgoing.map (· ++ (gone.map .complete ++
          [.subscribe (c.newId c.board.consumers.length) operation])))
      (hwait : c.board.session.outgoing = none → c'.board.session.outgoing = none)

theorem Turnover.of_session (h : c'.board.session = c.board.session) : Turnover e c c' :=
  .trims (h ▸ .refl _)

theorem turnover_turn (hc : c.Coherent) {pre post : List Agent} {a : Agent} {o : Option Agent}
    {board : Switchboard} (hagents : c.agents = pre ++ a :: post)
    (ht : a.turn c.board = some (o, board)) :
    Turnover e c { c with agents := pre ++ (o.toList ++ post), board } := by
  have hfits := hc.agents a (mem_of_split hagents)
  cases hfits.move ht with
  | leave | ask | wake => exact .of_session rfl
  | hangUp hat hs h => exact .of_session h.session
  | greet hat hs hsocket hack h => exact .of_session h.session
  | idle hat hs hsocket hack h => exact .of_session h.session
  | ended hat h error =>
    -- the session is over, and nothing is registered any more
    apply Turnover.leaves
    · intro id hid
      rw [ids, Switchboard.commit_session, Session.terminate_roster] at hid
      exact absurd (Roster.mem_ids.1 hid) (by simp)
    · rw [Switchboard.commit_session, Session.terminate_outgoing]
  | retry hat h hbudget =>
    rename_i sb attempt due retries
    -- what is registered waits for the next socket, unless nobody listens to it
    have hsession : (Switchboard.note { sb.withSession (sb.session.suspend sb.listening) with
        retries } (.retrying attempt)).session = sb.session.suspend sb.listening :=
      Switchboard.withSession_session ..
    apply Turnover.leaves
    · intro id hid
      rw [ids, hsession, Session.suspend_roster] at hid
      rw [ids, ← h.session]
      exact Session.mem_ids_prune hid
    · rw [hsession, Session.suspend_outgoing]
  | deliver hat hs hout h =>
    have hsession := h.session
    refine .sends (fun id hid => ?_) hout (congrArg Session.outgoing hsession)
    rwa [ids, hsession] at hid
  | undeliverable hat hs hout h error =>
    rename_i link m rest arrived sb
    have hsession := h.session
    refine .sends (fun id hid => ?_) hout
      ((sb.abandon_outgoing m error).trans (congrArg Session.outgoing hsession))
    -- the subscription of a message that could not be sent ends without a word to the server
    rcases sb.abandon_cases m error with heq | ⟨other, -, heq⟩
    · rwa [ids, heq, hsession] at hid
    · rw [ids, heq, Switchboard.commit_session, Session.endOne_roster] at hid
      have hid := (Session.mem_ids_erase.1 hid).1
      rwa [hsession] at hid
  | acknowledge hat hs hack hsocket hack' h =>
    -- there was no queue before, so that what is queued now is all there is
    have hk := hack ▸ Holds.of_mem (mem_of_split hagents) hat hs
    apply Turnover.flushes
    · rw [ids, Switchboard.commit_session, Session.acknowledge_roster, h.session, h.listening]
    · exact hc.outgoing_eq_none_of_holds hk
  | route hat hs hack hsocket hack' hitem h =>
    apply Turnover.trims
    rw [Switchboard.commit_session, ← h.session]
    exact Session.trims_route ..
  | endOne hat hs hack hsocket hack' hid h =>
    apply Turnover.trims
    rw [Switchboard.commit_session, ← h.session]
    exact Session.trims_endOne ..

/-- What every step does to the registered ids and to the outgoing queue. -/
theorem turnover_step (hc : c.Coherent) (hstep : Step e c c') : Turnover e c c' := by
  cases hstep with
  | quiet hq => exact .of_session hq.session
  | touch | refuse | pass => exact .of_session rfl
  | launch hs hp params held =>
    apply Turnover.trims
    rw [launched_session]
    apply Session.Trims.of_outgoing
    · intro id hid
      rwa [Session.start_roster] at hid
    · rw [Session.start_outgoing]
  | enlist hs hp operation =>
    obtain ⟨listening, hsession⟩ : ∃ listening, (c.enlisted operation).board.session =
        c.board.session.subscribe listening (c.newId c.board.consumers.length) operation
          c.board.consumers.length := ⟨_, c.enlisted_session operation⟩
    refine .enlists operation (c.board.session.forgotten listening) (fun id hid => ?_) ?_
      (hsession ▸ Session.dismisses_subscribe hc.session hc.next_not_mem operation _)
      (fun hacked => ?_) fun hnone => ?_
    · rw [ids, hsession, Session.mem_ids_subscribe, Session.prune_roster] at hid
      exact hid.imp_right Session.mem_ids_prune
    · simp [enlisted]
    · rw [hsession, Session.subscribe_outgoing_of_acknowledged hacked]
    · rw [hsession, Session.subscribe_outgoing, hnone]
      split <;> rfl
  | withdraw =>
    rename_i n x hs hx hcancelled
    apply Turnover.trims
    rw [withdrawn_session]
    exact Session.trims_withdraw ..
  | halt hp =>
    apply Turnover.leaves
    · intro id hid
      rw [ids, halted_session hp, Session.terminate_roster] at hid
      exact absurd (Roster.mem_ids.1 hid) (by simp)
    · rw [halted_session hp, Session.terminate_outgoing]
  | turn hagents ht => exact turnover_turn hc hagents ht

/-- What the queue of an acknowledged session grows by takes ids back, and perhaps asks for a new
one. -/
theorem Turnover.grows (h : Turnover e c c') (hp : c.phase = .acknowledged)
    {queue new : List Message} (hqueue : c.board.session.outgoing = some queue)
    (hout : c'.board.session.outgoing = some (queue ++ new))
    (hconsumers : c.board.consumers.length ≤ c'.board.consumers.length) :
    ∃ (gone : List String) (asked : Option Operation),
      c.board.session.Dismisses c'.board.session gone ∧
      new = gone.map .complete ++
        asked.toList.map (.subscribe (c.newId c.board.consumers.length)) ∧
      c.board.consumers.length + asked.toList.length ≤ c'.board.consumers.length ∧
      ∀ id ∈ c'.ids,
        id ∈ c.ids ∨ id = c.newId c.board.consumers.length ∧ asked.isSome = true := by
  cases h with
  | trims ht =>
    obtain ⟨gone, hgone, hout'⟩ := ht.outgoing
    rw [hout, hqueue, Option.map_some] at hout'
    obtain rfl := List.append_cancel_left (Option.some.inj hout')
    exact ⟨gone, none, hgone, (List.append_nil _).symm, hconsumers,
      fun id hid => Or.inl (ht.ids id hid)⟩
  | sends hids hout' hrest =>
    -- the queue got no shorter
    rw [hqueue] at hout'
    obtain rfl := Option.some.inj hout'
    rw [hrest] at hout
    have hlength := congrArg List.length (Option.some.inj hout)
    simp at hlength
    omega
  | leaves hids hout' =>
    rw [hout] at hout'
    cases hout'
  | flushes hids hout' =>
    rw [hqueue] at hout'
    cases hout'
  | enlists operation gone hids hlt hgone hout' =>
    have hgrown := hout' hp
    rw [hout, hqueue] at hgrown
    obtain rfl := List.append_cancel_left (Option.some.inj hgrown)
    exact ⟨gone, some operation, hgone, rfl, hlt,
      fun id hid => (hids id hid).symm.imp_right fun heq => ⟨heq, rfl⟩⟩

/-- Where there was no queue one comes with the acknowledgment alone. -/
theorem Turnover.flushed (h : Turnover e c c') (hnone : c.board.session.outgoing = none)
    {queue : List Message} (hout : c'.board.session.outgoing = some queue) :
    c'.ids = (c.board.session.roster.prune c.board.listening).2.ids := by
  cases h with
  | trims ht =>
    obtain ⟨gone, -, hout'⟩ := ht.outgoing
    rw [hout, hnone] at hout'
    cases hout'
  | sends hids hout' =>
    rw [hnone] at hout'
    cases hout'
  | leaves hids hout' =>
    rw [hout] at hout'
    cases hout'
  | flushes hids => exact hids
  | enlists operation gone hids hlt hgone hgrown hwait =>
    rw [hwait hnone] at hout
    cases hout

/-- An id that is registered was registered before, or it is new, and is asked for at once if the
session is acknowledged. -/
theorem Turnover.registered (h : Turnover e c c') (hid : id ∈ c'.ids) : id ∈ c.ids ∨
    id = c.newId c.board.consumers.length ∧ (c.phase = .acknowledged →
      ∃ more, more ≠ [] ∧ c'.board.session.outgoing = c.board.session.outgoing.map (· ++ more)) := by
  cases h with
  | trims ht => exact Or.inl (ht.ids id hid)
  | sends hids | leaves hids => exact Or.inl (hids id hid)
  | flushes hids =>
    rw [hids] at hid
    exact Or.inl (Session.mem_ids_prune hid)
  | enlists operation gone hids hlt hgone hout =>
    rcases hids id hid with hnew | hold
    · refine Or.inr ⟨hnew, fun hacked => ⟨_, ?_, hout hacked⟩⟩
      exact List.append_ne_nil_of_right_ne_nil _ (List.cons_ne_nil _ _)
    · exact Or.inl hold

theorem newId_not_mem (hc : c.Coherent) {n : Nat} (hn : c.board.consumers.length ≤ n) :
    c.newId n ∉ c.ids := by
  intro hmem
  obtain ⟨entry, hentry, hid⟩ := Roster.mem_ids.1 hmem
  obtain ⟨hname, hlt⟩ := hc.id_of_entry hentry
  have heq := hc.fresh (hname.symm.trans hid)
  omega

/-! ## What was queued about ids -/

/-- What is queued for sockets tells of every id a dialogue on each of them. -/
structure Outspoken (c : Client) : Prop where
  dialogue : ∀ id k, Dialogue id (about id (c.board.queuedFor k))
  /-- What is registered was not taken back. -/
  kept : ∀ id ∈ c.ids, ∀ k, .complete id ∉ c.board.queuedFor k
  /-- What is registered was asked for on the acknowledged socket in use. -/
  asked : ∀ id ∈ c.ids, ∀ k, c.Holds k true →
    ∃ operation, about id (c.board.queuedFor k) = [.subscribe id operation]
  /-- Nothing is said for later sockets about what was taken back. -/
  closed : ∀ id k k', .complete id ∈ c.board.queuedFor k → k < k' →
    about id (c.board.queuedFor k') = []
  /-- Nothing is said for sockets later than the one in use. -/
  latest : ∀ k b, c.Holds k b → ∀ k', k < k' → c.board.queuedFor k' = []
  /-- Nothing is said about ids before they are made. -/
  fresh : ∀ n, c.board.consumers.length ≤ n → ∀ k, about (c.newId n) (c.board.queuedFor k) = []

theorem outspoken_create (settings : Settings) (transport : Transport) (newId : Nat → String) :
    (create settings transport newId).Outspoken where
  dialogue := fun _ _ => .silent
  kept := fun _ hid => absurd hid List.not_mem_nil
  asked := fun _ hid => absurd hid List.not_mem_nil
  closed := fun _ _ _ hmem => absurd hmem List.not_mem_nil
  latest := fun _ _ _ _ _ => rfl
  fresh := fun _ _ _ => rfl

/-- What waits for an acknowledgment is said to those who listen. -/
theorem about_waiting (hc : c.Coherent) (hp : c.phase = .connecting)
    (h : id ∉ (c.board.session.roster.prune c.board.listening).2.ids) : about id c.waiting = [] := by
  have hpruned := hc.session.prune c.board.listening
  have hwaiting : c.waiting = (c.board.session.prune c.board.listening).roster.inOrder.map
      fun e => .subscribe e.id e.operation :=
    hpruned.waitingMessages_eq ((Session.prune_phase ..).trans hp)
  rw [hwaiting]
  rcases @about_subscribes id _ hpruned.roster.nodup_ids with ⟨hnone, -⟩ | ⟨-, hmem⟩
  · exact hnone
  · rw [Session.prune_roster] at hmem
    exact absurd hmem h

namespace Outspoken

/-- An id was not taken back before it was made. -/
theorem not_completed (h : c.Outspoken) {n : Nat} (hn : c.board.consumers.length ≤ n) (k : Nat) :
    .complete (c.newId n) ∉ c.board.queuedFor k := by
  intro hmem
  have hsaid := mem_about.2 ⟨hmem, rfl⟩
  rw [h.fresh n hn k] at hsaid
  cases hsaid

/-- Nothing more is queued. -/
theorem of_same (h : c.Outspoken) (hq : c.Queued) (hnewId : c'.newId = c.newId)
    (hconsumers : c.board.consumers.length ≤ c'.board.consumers.length)
    (hheld : ∀ k b, c'.Holds k b → c.Holds k b ∨ b = false ∧ k = c.board.lines.length)
    (hids : ∀ id ∈ c'.ids, id ∈ c.ids ∨
      id = c.newId c.board.consumers.length ∧ ∀ k, ¬ c'.Holds k true)
    (hqueued : ∀ s, c'.board.queuedFor s = c.board.queuedFor s) : c'.Outspoken where
  dialogue := by
    intro id k
    rw [hqueued]
    exact h.dialogue id k
  kept := by
    intro id hid k
    rw [hqueued]
    rcases hids id hid with hid | ⟨rfl, -⟩
    · exact h.kept id hid k
    · exact h.not_completed (le_refl _) k
  asked := by
    intro id hid k hk
    rw [hqueued]
    rcases hids id hid with hid | ⟨-, hnone⟩
    · exact h.asked id hid k ((hheld k true hk).resolve_right nofun)
    · exact absurd hk (hnone k)
  closed := by
    intro id k k' hmem hlt
    rw [hqueued] at hmem ⊢
    exact h.closed id k k' hmem hlt
  latest := by
    intro k b hk k' hlt
    rw [hqueued]
    rcases hheld k b hk with hk | ⟨-, rfl⟩
    · exact h.latest k b hk k' hlt
    · -- the socket in use has just opened, and no later one has
      exact hq.unopened k' hlt.le
  fresh := by
    intro n hn k
    rw [hqueued, hnewId]
    exact h.fresh n (hconsumers.trans hn) k

/-- More is queued for the acknowledged socket in use, or for one that was acknowledged just now, so
that no later socket is told anything. -/
theorem of_more (h : c.Outspoken) (hc' : c'.Coherent) (hnewId : c'.newId = c.newId)
    (hconsumers : c.board.consumers.length ≤ c'.board.consumers.length) {b : Bool}
    (hk : c.Holds k b) (hk' : c'.Holds k true) {more : List Message}
    (hqueued : ∀ s, c'.board.queuedFor s = c.board.queuedFor s ++ if s = k then more else [])
    (hdialogue : ∀ id, Dialogue id (about id (c.board.queuedFor k ++ more)))
    (hkept : ∀ id ∈ c'.ids, .complete id ∉ more ∧ ∀ s, .complete id ∉ c.board.queuedFor s)
    (hasked : ∀ id ∈ c'.ids, ∃ operation,
      about id (c.board.queuedFor k ++ more) = [.subscribe id operation])
    (hclosed : ∀ id s, .complete id ∈ c.board.queuedFor s → about id more = [])
    (hfresh : ∀ n, c'.board.consumers.length ≤ n → about (c.newId n) more = []) :
    c'.Outspoken := by
  have hsame {s : Nat} (hs : s ≠ k) : c'.board.queuedFor s = c.board.queuedFor s := by
    rw [hqueued, if_neg hs, List.append_nil]
  have hthis : c'.board.queuedFor k = c.board.queuedFor k ++ more := by rw [hqueued, if_pos rfl]
  constructor
  case dialogue =>
    intro id s
    by_cases hs : s = k
    · rw [hs, hthis]
      exact hdialogue id
    · rw [hsame hs]
      exact h.dialogue id s
  case kept =>
    intro id hid s hmem
    obtain ⟨hmore, hbefore⟩ := hkept id hid
    by_cases hs : s = k
    · rw [hs, hthis] at hmem
      rcases List.mem_append.1 hmem with hmem | hmem
      · exact hbefore k hmem
      · exact hmore hmem
    · rw [hsame hs] at hmem
      exact hbefore s hmem
  case asked =>
    intro id hid s hs
    obtain ⟨rfl, -⟩ := hc'.holds_unique hk' hs
    rw [hthis]
    exact hasked id hid
  case closed =>
    intro id s s' hmem hlt
    by_cases hs : s = k
    · -- the sockets after the one in use are told nothing
      have hs' : s' ≠ k := by omega
      rw [hsame hs', h.latest k b hk s' (hs ▸ hlt)]
      rfl
    · rw [hsame hs] at hmem
      have hbefore := h.closed id s s' hmem hlt
      by_cases hs' : s' = k
      · rw [hs'] at hbefore ⊢
        rw [hthis, about_append, hbefore, hclosed id s hmem]
        rfl
      · rw [hsame hs']
        exact hbefore
  case latest =>
    intro s b' hs s' hlt
    obtain ⟨rfl, -⟩ := hc'.holds_unique hk' hs
    rw [hsame (by omega)]
    exact h.latest s b hk s' hlt
  case fresh =>
    intro n hn s
    rw [hnewId]
    have hbefore := h.fresh n (hconsumers.trans hn) s
    by_cases hs : s = k
    · rw [hs] at hbefore ⊢
      rw [hthis, about_append, hbefore, hfresh n hn]
      rfl
    · rw [hsame hs]
      exact hbefore

/-- What is appended to the queue of the acknowledged socket in use says a word about ids that are
taken back and about a new one. -/
theorem about_appended {gone : List String} (hgone : gone.Nodup) {new : String} (hnew : new ∉ gone)
    (asked : Option Operation) (id : String) :
    about id (gone.map .complete ++ asked.toList.map (.subscribe new)) =
      if id ∈ gone then [.complete id] else if id = new then asked.toList.map (.subscribe id)
        else [] := by
  rw [about_append, about_completes hgone]
  by_cases hid : id = new
  · subst hid
    rw [if_neg hnew, if_neg hnew, if_pos rfl, List.nil_append]
    cases asked <;> simp [about, Message.id?]
  · have hother : about id (asked.toList.map (.subscribe new)) = [] := by
      cases asked <;> simp [about, Message.id?, Ne.symm hid]
    rw [hother, List.append_nil, if_neg hid]

/-- Ids are taken back, and perhaps a new one is asked for. -/
theorem append (h : c.Outspoken) (hc : c.Coherent) (hc' : c'.Coherent) (hnewId : c'.newId = c.newId)
    (hk : c.Holds k true) (hk' : c'.Holds k true) {gone : List String} (asked : Option Operation)
    (hgone : c.board.session.Dismisses c'.board.session gone)
    (hconsumers : c.board.consumers.length + asked.toList.length ≤ c'.board.consumers.length)
    (hids : ∀ id ∈ c'.ids, id ∈ c.ids ∨ id = c.newId c.board.consumers.length ∧ asked.isSome = true)
    (hqueued : ∀ s, c'.board.queuedFor s = c.board.queuedFor s ++ if s = k then
      gone.map .complete ++ asked.toList.map (.subscribe (c.newId c.board.consumers.length))
        else []) : c'.Outspoken := by
  have hunknown := newId_not_mem hc (le_refl c.board.consumers.length)
  have habout (id : String) := about_appended hgone.nodup
    (fun hmem => hunknown (hgone.before _ hmem)) asked id
  have hnew (s : Nat) := h.fresh _ (le_refl c.board.consumers.length) s
  -- nothing more is said about ids that are neither taken back nor new
  have hsilent {id : String} (hid : id ∉ gone) (hold : id ≠ c.newId c.board.consumers.length) :
      about id (gone.map .complete ++
        asked.toList.map (.subscribe (c.newId c.board.consumers.length))) = [] := by
    rw [habout, if_neg hid, if_neg hold]
  apply h.of_more hc' hnewId ((Nat.le_add_right _ _).trans hconsumers) hk hk' hqueued
  case hdialogue =>
    intro id
    rw [about_append]
    by_cases hmem : id ∈ gone
    · -- what is taken back was registered, and so was asked for
      obtain ⟨operation, hasked⟩ := h.asked id (hgone.before id hmem) k hk
      rw [hasked, habout, if_pos hmem]
      exact .ended operation
    · by_cases hid : id = c.newId c.board.consumers.length
      · subst hid
        rw [hnew, habout, if_neg hmem, if_pos rfl, List.nil_append]
        cases asked with
        | none => exact .silent
        | some operation => exact .asked operation
      · rw [hsilent hmem hid, List.append_nil]
        exact h.dialogue id k
  case hkept =>
    intro id hid
    constructor
    · intro hmem
      rcases List.mem_append.1 hmem with hmem | hmem
      · obtain ⟨other, hother, heq⟩ := List.mem_map.1 hmem
        cases heq
        exact hgone.after id hother hid
      · obtain ⟨operation, -, heq⟩ := List.mem_map.1 hmem
        cases heq
    · intro s
      rcases hids id hid with hid | ⟨rfl, -⟩
      · exact h.kept id hid s
      · exact h.not_completed (le_refl _) s
  case hasked =>
    intro id hid
    have hmem : id ∉ gone := fun hmem => hgone.after id hmem hid
    rw [about_append]
    rcases hids id hid with hid | ⟨rfl, hasked⟩
    · have hold : id ≠ c.newId c.board.consumers.length := fun heq => hunknown (heq ▸ hid)
      rw [hsilent hmem hold, List.append_nil]
      exact h.asked id hid k hk
    · obtain ⟨operation, rfl⟩ := Option.isSome_iff_exists.1 hasked
      rw [hnew, habout, if_neg hmem, if_pos rfl]
      exact ⟨operation, rfl⟩
  case hclosed =>
    intro id s hmem
    apply hsilent
    · -- what was taken back is no longer registered
      intro hgoes
      exact h.kept id (hgone.before id hgoes) s hmem
    · rintro rfl
      exact h.not_completed (le_refl _) s hmem
  case hfresh =>
    intro n hn
    have hmem : c.newId n ∉ gone := fun hmem =>
      newId_not_mem hc (by omega) (hgone.before _ hmem)
    cases hasked : asked with
    | none =>
      rw [Option.toList_none, List.map_nil, List.append_nil, about_completes hgone.nodup,
        if_neg hmem]
    | some operation =>
      rw [← hasked]
      apply hsilent hmem
      -- the new id is that of an earlier consumer
      intro heq
      have hn' := hc.fresh heq
      rw [hasked] at hconsumers
      have hlength : (some operation).toList.length = 1 := rfl
      omega

/-- What waits is asked for once the socket in use is acknowledged. -/
theorem flush (h : c.Outspoken) (hc : c.Coherent) (hc' : c'.Coherent) (hq : c.Queued)
    (hnewId : c'.newId = c.newId)
    (hconsumers : c.board.consumers.length ≤ c'.board.consumers.length)
    (hk : c.Holds k false) (hk' : c'.Holds k true)
    (hids : c'.ids = (c.board.session.roster.prune c.board.listening).2.ids)
    (hqueued : ∀ s, c'.board.queuedFor s =
      c.board.queuedFor s ++ if s = k then c.waiting else []) : c'.Outspoken := by
  have hpruned := hc.session.prune c.board.listening
  have hwaiting : c.waiting = (c.board.session.prune c.board.listening).roster.inOrder.map
      fun e => .subscribe e.id e.operation :=
    hpruned.waitingMessages_eq ((Session.prune_phase ..).trans (hc.connecting_of_holds hk))
  have hthese : c'.ids = (c.board.session.prune c.board.listening).roster.inOrder.map
      Roster.Entry.id := by
    rw [hids, Session.prune_roster]
    rfl
  have hknown {id : String} (hid : id ∈ c'.ids) : id ∈ c.ids := by
    rw [hids] at hid
    exact Session.mem_ids_prune hid
  have habout (id : String) := @about_subscribes id _ hpruned.roster.nodup_ids
  have hsilent {id : String} (hid : id ∉ c'.ids) : about id c.waiting = [] :=
    about_waiting hc (hc.connecting_of_holds hk) (hids ▸ hid)
  -- nothing was queued before the acknowledgment
  have hnone := hq.unacknowledged k hk
  apply h.of_more hc' hnewId hconsumers hk hk' hqueued
  case hdialogue =>
    intro id
    rw [hnone, List.nil_append, hwaiting]
    rcases habout id with ⟨hnone, -⟩ | ⟨⟨operation, hasked⟩, -⟩
    · rw [hnone]
      exact .silent
    · rw [hasked]
      exact .asked operation
  case hkept =>
    intro id hid
    refine ⟨fun hmem => ?_, h.kept id (hknown hid)⟩
    rw [hwaiting] at hmem
    obtain ⟨entry, -, heq⟩ := List.mem_map.1 hmem
    cases heq
  case hasked =>
    intro id hid
    rw [hnone, List.nil_append, hwaiting]
    rcases habout id with ⟨-, hnot⟩ | ⟨hasked, -⟩
    · rw [hthese] at hid
      exact absurd hid hnot
    · exact hasked
  case hclosed =>
    intro id s hmem
    apply hsilent
    intro hid
    exact h.kept id (hknown hid) s hmem
  case hfresh =>
    intro n hn
    apply hsilent
    intro hid
    exact newId_not_mem hc (hconsumers.trans hn) (hknown hid)

theorem step (h : c.Outspoken) (hc : c.Coherent) (hq : c.Queued) (hstep : Step e c c') :
    c'.Outspoken := by
  have hc' := hc.step hstep
  have hnewId := newId_step hstep
  have hconsumers := consumers_step hc hstep
  have hturnover := turnover_step hc hstep
  cases queueing_step hc hq.last hstep with
  | still hheld hlast hqueued hsent hout =>
    refine h.of_same hq hnewId hconsumers hheld (fun id hid => ?_) hqueued
    refine (hturnover.registered hid).imp_right fun ⟨hnew, hgrows⟩ => ⟨hnew, fun k hk => ?_⟩
    -- what is asked for at once would have been queued
    have hold := (hheld k true hk).resolve_right nofun
    obtain ⟨more, hmore, hgrown⟩ := hgrows ((hc.acknowledged_of_holds hold).2 rfl)
    obtain ⟨queue, hqueue⟩ := Option.isSome_iff_exists.1 (hc.outgoing_of_holds hold)
    rw [hout k hk, hqueue] at hgrown
    exact hmore (by simpa using hgrown)
  | append hk hk' hlast hnew hqueued hsent hout =>
    rename_i k new
    obtain ⟨queue, hqueue⟩ := Option.isSome_iff_exists.1 (hc.outgoing_of_holds hk)
    rw [hqueue, Option.map_some] at hout
    obtain ⟨gone, asked, hgone, rfl, hlt, hids⟩ :=
      hturnover.grows ((hc.acknowledged_of_holds hk).2 rfl) hqueue hout hconsumers
    exact h.append hc hc' hnewId hk hk' asked hgone hlt hids hqueued
  | send hk hk' hlast hqueued hsent hout hout' =>
    refine h.of_same hq hnewId hconsumers (fun s b hs => ?_) (fun id hid => ?_) hqueued
    · obtain ⟨rfl, rfl⟩ := hc'.holds_unique hk' hs
      exact Or.inl hk
    · refine (hturnover.registered hid).imp_right fun ⟨_, hgrows⟩ => ?_
      -- the queue got shorter
      obtain ⟨more, -, hgrown⟩ := hgrows ((hc.acknowledged_of_holds hk).2 rfl)
      rw [hout, hout'] at hgrown
      have hlength := congrArg List.length (Option.some.inj hgrown)
      simp at hlength
      omega
  | flush hk hk' hlast hqueued hsent hout =>
    have hflushed := hturnover.flushed (hc.outgoing_eq_none_of_holds hk) hout
    exact h.flush hc hc' hq hnewId hconsumers hk hk' hflushed hqueued

end Outspoken

/-- In every run what is queued tells of every id a dialogue on each socket. -/
theorem outspoken_run (settings : Settings) (transport : Transport) {newId : Nat → String}
    (hid : Function.Injective newId) (es : List Event) :
    ((create settings transport newId).run es).Outspoken := by
  have hall := run_induction (c := create settings transport newId)
    (P := fun c => c.Coherent ∧ c.Queued ∧ c.Outspoken)
    (fun _ _ _ h hstep => ⟨h.1.step hstep, h.2.1.step h.1 hstep, h.2.2.step h.1 h.2.1 hstep⟩)
    ⟨coherent_create settings transport hid, queued_run settings transport hid [],
      outspoken_create settings transport newId⟩ es
  exact hall.2.2

end Client

end LiveQuery
