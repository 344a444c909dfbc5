import LiveQuery.Proofs.Run
import Mathlib.Logic.Relation

/-!
# The steps of an event

What an event does is a chain of steps (`Client.Step`, `Client.steps_perform`): something that
neither session nor agents nor consumers see, something a consumer does for itself, the launch of
a session, a subscription taken on or refused, a cancel, a stop, a turn, or the time. A property
that every step keeps holds after every run (`Client.run_induction`). Where the event as a whole
matters there are few chains (`Client.Course`), and every event is one (`Client.course_perform`).
-/

namespace LiveQuery

open Json (Value Members)

namespace Session

variable (s : Session) (x : Consumer)

/-- The session after the first cancel of a subscription: an id that it took on is taken back. -/
def withdraw : Session := if x.attached then s.cancel x.id else s

theorem withdraw_cases : s.withdraw x = s.cancel x.id ∨ s.withdraw x = s := by
  unfold withdraw
  split
  · exact Or.inl rfl
  · exact Or.inr rfl

@[simp] theorem withdraw_phase : (s.withdraw x).phase = s.phase := by
  rcases s.withdraw_cases x with h | h
  · rw [h, cancel_phase]
  · rw [h]

@[simp] theorem withdraw_epoch : (s.withdraw x).epoch = s.epoch := by
  rcases s.withdraw_cases x with h | h
  · rw [h, cancel_epoch]
  · rw [h]

theorem trims_withdraw : s.Trims (s.withdraw x) := by
  rcases s.withdraw_cases x with h | h
  · rw [h]
    exact s.trims_cancel x.id
  · rw [h]
    exact .refl s

/-- A cancel adds nobody. -/
theorem mem_withdraw {entry : Roster.Entry} (h : entry ∈ (s.withdraw x).roster.entries) :
    entry ∈ s.roster.entries := by
  rcases s.withdraw_cases x with heq | heq
  · rw [heq, cancel_roster] at h
    exact (Roster.mem_erase.1 h).1
  · rwa [heq] at h

theorem Coherent.withdraw (h : s.Coherent) : (s.withdraw x).Coherent := by
  rcases s.withdraw_cases x with heq | heq
  · rw [heq]
    exact h.cancel x.id
  · rwa [heq]

/-- Whoever has another id stays registered. -/
theorem mem_withdraw_of_ne {entry : Roster.Entry} (h : entry ∈ s.roster.entries)
    (hne : entry.id ≠ x.id) : entry ∈ (s.withdraw x).roster.entries := by
  rcases s.withdraw_cases x with heq | heq
  · rw [heq, cancel_roster]
    exact Roster.mem_erase.2 ⟨h, hne⟩
  · rwa [heq]

end Session

namespace Client

/-! ## What the calls come down to -/

/-- The client after its session was started. -/
def launched (c : Client) (params : Option Members) (held : Bool) : Client :=
  let sb := { c.board with handshakes := c.board.handshakes ++ [Handshake.mk none held] }
  let sb := sb.withSession (sb.session.start c.board.handshakes.length)
  { c with board := sb, agents := c.agents ++ [{ epoch := sb.session.epoch, params }] }

/-- The client after a subscription was taken on. -/
def enlisted (c : Client) (operation : Operation) : Client :=
  let number := c.board.consumers.length
  let id := c.newId number
  let sb := { c.board with consumers := c.board.consumers ++ [({ id } : Consumer)] }
  { c with board := sb.withSession (sb.session.subscribe sb.listening id operation number) }

/-- The client after the first cancel of a subscription. -/
def withdrawn (c : Client) (number : Nat) (consumer : Consumer) : Client :=
  let c := c.modifyConsumer number Consumer.markCancelled
  if consumer.attached then c.mapBoard fun sb => sb.withSession (sb.session.cancel consumer.id)
  else c

/-- The client after its session was stopped. -/
def halted (c : Client) : Client :=
  (c.tell c.board.session.epoch).mapBoard fun sb => sb.commit sb.session.stop

/-! ## Steps -/

/-- Only lines, handles, handshakes and the transport differ. A server end that is gone stays
gone, and nothing comes from it. -/
structure Quiet (e : Event) (c c' : Client) : Prop where
  session : c'.board.session = c.board.session
  consumers : c'.board.consumers = c.board.consumers
  journal : c'.board.journal = c.board.journal
  settings : c'.board.settings = c.board.settings
  now : c'.board.now = c.board.now
  opens : c'.board.opens = c.board.opens
  agents : c'.agents = c.agents
  newId : c'.newId = c.newId
  length : c'.board.lines.length = c.board.lines.length
  client : ∀ k, (c'.board.line k).pair.client = (c.board.line k).pair.client
  gone : ∀ k, (c.board.line k).pair.server = false → (c'.board.line k).pair = (c.board.line k).pair
  recvFaults : e.isFault = false → ∀ k, (c'.board.line k).recvFaults = (c.board.line k).recvFaults

/-- What a consumer does for itself in an event. -/
inductive Touch (c : Client) (n : Nat) : Event → (Consumer → Consumer) → Prop
  | poll : Touch c n (.poll n) fun x => (x.poll (c.board.session.roster.feeds n)).2
  | drop : Touch c n (.dropSubscription n) Consumer.drop
  | settle (h : ∀ x, c.board.consumers[n]? = some x → x.cancelled = true) :
      Touch c n (.cancel n) Consumer.settleCancelled

/-- One step of an event. -/
inductive Step (e : Event) (c : Client) : Client → Prop
  | quiet {c' : Client} (h : Quiet e c c') : Step e c c'
  | touch {n : Nat} {f : Consumer → Consumer} (h : Touch c n e f) : Step e c (c.modifyConsumer n f)
  | launch (he : e.starts = true) (hp : c.phase = .notStarted) (params : Option Members)
      (held : Bool) : Step e c (c.launched params held)
  | enlist (he : e.starts = true) (hp : c.phase ≠ .notStarted) (operation : Operation)
      (hop : e = .subscribe operation) : Step e c (c.enlisted operation)
  | refuse (he : e.starts = true) (error : SubscribeError)
      (hop : ∃ operation, e = .subscribe operation) :
      Step e c (c.addRefused (c.newId c.board.consumers.length) error).2
  | withdraw {n : Nat} {consumer : Consumer} (he : e.cancels n = true)
      (h : c.board.consumers[n]? = some consumer) (hc : consumer.cancelled = false) :
      Step e c (c.withdrawn n consumer)
  | halt (hp : c.phase ≠ .notStarted) : Step e c c.halted
  | turn {pre post : List Agent} {a : Agent} {o : Option Agent} {board : Switchboard}
      (hagents : c.agents = pre ++ a :: post) (ht : a.turn c.board = some (o, board))
      (he : e.isTurn = true) :
      Step e c { c with agents := pre ++ (o.toList ++ post), board }
  | pass (he : e = .pass) : Step e c c.pass

/-- A chain of steps of an event. -/
abbrev Steps (e : Event) : Client → Client → Prop := Relation.ReflTransGen (Step e)

/-! ## Courses -/

/-- A quiet step after which every handshake has the result it had, and the retry policy was not
asked. -/
structure Outside (e : Event) (c c' : Client) : Prop extends Quiet e c c' where
  retries : c'.board.retries = c.board.retries
  results : c'.board.handshakes.map Handshake.result = c.board.handshakes.map Handshake.result

/-- The course that an event takes as a whole. -/
inductive Course (e : Event) (c : Client) : Client → Prop
  | outside {c' : Client} (h : Outside e c c') : Course e c c'
  | touch {n : Nat} {f : Consumer → Consumer} (h : Touch c n e f) :
      Course e c (c.modifyConsumer n f)
  | launch (he : e.starts = true) (hp : c.phase = .notStarted) (params : Option Members)
      (held : Bool) : Course e c (c.launched params held)
  | refuse (operation : Operation) (hop : e = .subscribe operation) (error : SubscribeError) :
      Course e c (c.addRefused (c.newId c.board.consumers.length) error).2
  | enlist (operation : Operation) (hop : e = .subscribe operation) (hp : c.phase ≠ .notStarted) :
      Course e c (c.enlisted operation)
  /-- The session is started for the subscription. -/
  | launchFor (operation : Operation) (hop : e = .subscribe operation)
      (hp : c.phase = .notStarted) (params : Option Members) :
      Course e c ((c.launched params false).enlisted operation)
  | withdraw {n : Nat} {consumer : Consumer} (he : e.cancels n = true)
      (h : c.board.consumers[n]? = some consumer) (hfirst : consumer.cancelled = false) :
      Course e c (c.withdrawn n consumer)
  /-- The subscription that is cancelled settles its status as well. -/
  | cancel {n : Nat} {consumer : Consumer} (he : e = .cancel n)
      (h : c.board.consumers[n]? = some consumer) (hfirst : consumer.cancelled = false) :
      Course e c ((c.withdrawn n consumer).modifyConsumer n Consumer.settleCancelled)
  | halt (hstop : e = .stop ∧ 0 < c.handles ∨ e = .dropHandle ∧ c.handles = 1)
      (hp : c.phase ≠ .notStarted) (handles : Nat) : Course e c { c.halted with handles }
  | turn {pre post : List Agent} {a : Agent} {o : Option Agent} {board : Switchboard}
      (hagents : c.agents = pre ++ a :: post) (ht : a.turn c.board = some (o, board))
      (he : e.isTurn = true) :
      Course e c { c with agents := pre ++ (o.toList ++ post), board }
  | pass (he : e = .pass) : Course e c c.pass

namespace Quiet

variable {e : Event} {c : Client}

/-- What is done to one line is quiet if it keeps the client end, and all of a pair whose server
end is gone. -/
theorem modifyLine (k : Nat) (f : Line → Line)
    (hclient : ∀ l, (f l).pair.client = l.pair.client)
    (hgone : (c.board.line k).pair.server = false →
      (f (c.board.line k)).pair = (c.board.line k).pair)
    (hfaults : e.isFault = false → ∀ l, (f l).recvFaults = l.recvFaults) :
    Quiet e c (c.modifyLine k f) := by
  have hline (s : Nat) : (c.modifyLine k f).board.line s = c.board.line s ∨
      s = k ∧ (c.modifyLine k f).board.line s = f (c.board.line s) := by
    show ((c.board.lines.modify k f)[s]?.getD {}) = c.board.line s ∨
      s = k ∧ ((c.board.lines.modify k f)[s]?.getD {}) = f (c.board.line s)
    by_cases hs : k = s
    · subst hs
      rw [List.getElem?_modify_eq]
      unfold Switchboard.line
      cases c.board.lines[k]? with
      | none => exact Or.inl rfl
      | some l => exact Or.inr ⟨rfl, rfl⟩
    · rw [List.getElem?_modify_ne _ _ hs]
      exact Or.inl rfl
  refine ⟨rfl, rfl, rfl, rfl, rfl, rfl, rfl, rfl, List.length_modify .., fun s => ?_, fun s hs => ?_,
    fun he s => ?_⟩
  · rcases hline s with h | ⟨-, h⟩
    · rw [h]
    · rw [h, hclient]
  · rcases hline s with h | ⟨rfl, h⟩
    · rw [h]
    · rw [h, hgone hs]
  · rcases hline s with h | ⟨-, h⟩
    · rw [h]
    · rw [h, hfaults he]

end Quiet

namespace Outside

variable {e : Event}

theorem handles (c : Client) (handles : Nat) : Outside e c { c with handles } :=
  ⟨⟨rfl, rfl, rfl, rfl, rfl, rfl, rfl, rfl, rfl, fun _ => rfl, fun _ _ => rfl, fun _ _ => rfl⟩,
    rfl, rfl⟩

theorem refl (c : Client) : Outside e c c := .handles c c.handles

theorem dropHandshake (c : Client) (h : Nat) : Outside e c (c.dropHandshake h) where
  toQuiet := ⟨rfl, rfl, rfl, rfl, rfl, rfl, rfl, rfl, rfl, fun _ => rfl, fun _ _ => rfl,
    fun _ _ => rfl⟩
  retries := rfl
  results := by
    refine List.ext_getElem? fun i => ?_
    show ((c.board.handshakes.modify h _).map Handshake.result)[i]? = _
    rw [List.getElem?_map, List.getElem?_map, List.getElem?_modify]
    cases c.board.handshakes[i]? with
    | none => rfl
    | some x => by_cases hi : h = i <;> simp [hi]

end Outside

/-! ## Every event takes a course -/

variable {c : Client} {e : Event}

theorem startChecked_eq (hp : c.phase = .notStarted) (params : Option Members) (held : Bool) :
    c.startChecked params held =
      .ok (c.board.handshakes.length, c.launched params held) := if_neg (not_not.2 hp)

theorem startChecked_eq_error (hp : c.phase ≠ .notStarted) (params : Option Members)
    (held : Bool) : c.startChecked params held = .error .alreadyStarted := if_pos hp

/-- The session is started for a subscription unless it was started before. -/
theorem ensureStarted_eq_ok {c' : Client} (h : c.ensureStarted = .ok c') :
    (c.phase ≠ .notStarted ∧ c' = c) ∨
      (c.phase = .notStarted ∧ ∃ params, c' = c.launched params false) := by
  unfold ensureStarted at h
  by_cases hp : c.phase = .notStarted
  · refine Or.inr ⟨hp, ?_⟩
    rw [if_neg (not_not.2 hp)] at h
    split at h
    · cases h
    · cases hparams : checkParams c.board.settings.params with
      | error error => rw [hparams] at h; cases h
      | ok params =>
        simp only [hparams, startChecked_eq hp, Except.ok.injEq] at h
        exact ⟨params, h.symm⟩
  · rw [if_pos hp] at h
    exact Or.inl ⟨hp, (Except.ok.inj h).symm⟩

@[simp] theorem launched_consumers (c : Client) (params : Option Members) (held : Bool) :
    (c.launched params held).board.consumers = c.board.consumers := by
  simp [launched]

theorem launched_session (c : Client) (params : Option Members) (held : Bool) :
    (c.launched params held).board.session = c.board.session.start c.board.handshakes.length := by
  simp [launched]

theorem enlisted_session (c : Client) (operation : Operation) :
    (c.enlisted operation).board.session =
      c.board.session.subscribe
        ({ c.board with consumers := c.board.consumers ++
          [({ id := c.newId c.board.consumers.length } : Consumer)] } : Switchboard).listening
        (c.newId c.board.consumers.length) operation c.board.consumers.length := by
  simp [enlisted]

/-- The first cancel marks the consumer, and the session takes back an id that it took on. -/
theorem withdrawn_eq (c : Client) (n : Nat) (x : Consumer) : c.withdrawn n x = { c with
    board := ({ c.board with
      consumers := c.board.consumers.modify n Consumer.markCancelled } : Switchboard).withSession
        (c.board.session.withdraw x) } := by
  unfold withdrawn Session.withdraw
  split
  · rfl
  · -- the session of a subscription that was refused is put back as it is
    exact congrArg (fun board : Switchboard => ({ c with board } : Client))
      (Switchboard.withSession_self { c.board with consumers := _ }).symm

theorem withdrawn_session (c : Client) (n : Nat) (x : Consumer) :
    (c.withdrawn n x).board.session = c.board.session.withdraw x := by
  rw [withdrawn_eq, Switchboard.withSession_session]

theorem withdrawn_consumers (c : Client) (n : Nat) (x : Consumer) :
    (c.withdrawn n x).board.consumers = c.board.consumers.modify n Consumer.markCancelled := by
  rw [withdrawn_eq, Switchboard.withSession_consumers]

theorem halted_board (hp : c.phase ≠ .notStarted) : c.halted.board =
    c.board.commit (({ c.board.session with epoch := c.board.session.epoch + 1 } :
      Session).terminate .stopped) := by
  have hstop : c.board.session.stop = ({ c.board.session with
      epoch := c.board.session.epoch + 1 } : Session).terminate .stopped := if_neg hp
  rw [← hstop]
  rfl

theorem halted_session (hp : c.phase ≠ .notStarted) : c.halted.board.session =
    (({ c.board.session with epoch := c.board.session.epoch + 1 } : Session).terminate
      .stopped).1 := by
  rw [halted_board hp, Switchboard.commit_session]

theorem halted_phase (hp : c.phase ≠ .notStarted) : c.halted.phase = .notStarted := by
  rw [phase, halted_session hp, Session.terminate_phase]

theorem subscribe_eq_enlisted {c' : Client} (h : c.ensureStarted = .ok c') (operation : Operation)
    (hid : c'.newId = c.newId) (hn : c'.board.consumers = c.board.consumers) :
    (c.subscribe operation).2 = c'.enlisted operation := by
  unfold subscribe enlisted
  simp only [h, addConsumer, mapBoard, hid, hn]

/-- A subscription is refused, or the session is started for it and it is taken on. -/
theorem subscribe_cases (c : Client) (operation : Operation) :
    (∃ error, (c.subscribe operation).2 =
      (c.addRefused (c.newId c.board.consumers.length) error).2) ∨
    (c.phase ≠ .notStarted ∧ (c.subscribe operation).2 = c.enlisted operation) ∨
    (c.phase = .notStarted ∧ ∃ params,
      (c.subscribe operation).2 = (c.launched params false).enlisted operation) := by
  cases h : c.ensureStarted with
  | error error =>
    refine Or.inl ⟨error, ?_⟩
    unfold subscribe
    simp only [h]
  | ok c' =>
    rcases ensureStarted_eq_ok h with ⟨hp, rfl⟩ | ⟨hp, params, rfl⟩
    · exact Or.inr (Or.inl ⟨hp, subscribe_eq_enlisted h operation rfl rfl⟩)
    · exact Or.inr (Or.inr ⟨hp, params,
        subscribe_eq_enlisted h operation rfl (launched_consumers c params false)⟩)

theorem launched_phase (c : Client) (params : Option Members) (held : Bool) :
    (c.launched params held).phase = .connecting := by
  rw [phase, launched_session, Session.start_phase]

theorem cancelByHandle_eq {n : Nat} {consumer : Consumer}
    (h : c.board.consumers[n]? = some consumer) (hc : consumer.cancelled = false) :
    c.cancelByHandle n = c.withdrawn n consumer := by
  unfold cancelByHandle consumer? withdrawn
  simp only [h, hc, Bool.false_eq_true, if_false]

theorem cancelByHandle_cases (c : Client) (n : Nat) : c.cancelByHandle n = c ∨
    ∃ consumer, c.board.consumers[n]? = some consumer ∧ consumer.cancelled = false ∧
      c.cancelByHandle n = c.withdrawn n consumer := by
  cases h : c.board.consumers[n]? with
  | none => exact Or.inl (by unfold cancelByHandle consumer?; rw [h])
  | some consumer =>
    cases hc : consumer.cancelled with
    | true => exact Or.inl (by unfold cancelByHandle consumer?; simp [h, hc])
    | false => exact Or.inr ⟨consumer, rfl, hc, cancelByHandle_eq h hc⟩

/-- A cancel leaves its mark on the consumer, whatever else it does. -/
theorem cancelByHandle_cancelled (c : Client) (n : Nat) {x : Consumer}
    (h : (c.cancelByHandle n).board.consumers[n]? = some x) : x.cancelled = true := by
  cases hn : c.board.consumers[n]? with
  | none =>
    have hsame : c.cancelByHandle n = c := by unfold cancelByHandle consumer?; rw [hn]
    rw [hsame, hn] at h
    cases h
  | some consumer =>
    cases hc : consumer.cancelled with
    | true =>
      have hsame : c.cancelByHandle n = c := by unfold cancelByHandle consumer?; simp [hn, hc]
      rw [hsame, hn] at h
      cases h
      exact hc
    | false =>
      rw [cancelByHandle_eq hn hc, withdrawn_consumers, List.getElem?_modify_eq, hn] at h
      cases h
      rfl

theorem poll_eq_modify (c : Client) (n : Nat) : (c.poll n).2 =
    c.modifyConsumer n fun x => (x.poll (c.board.session.roster.feeds n)).2 := by
  unfold poll consumer?
  cases h : c.board.consumers[n]? with
  | none =>
    have hnone : c.board.consumers.length ≤ n := List.getElem?_eq_none_iff.1 h
    simp only [modifyConsumer, mapBoard, List.modify_eq_self hnone]
  | some x =>
    have hmodify (f : Consumer → Consumer) :
        (c.board.consumers.modify n fun _ => f x) = c.board.consumers.modify n f := by
      refine List.ext_getElem? fun i => ?_
      by_cases hi : n = i
      · subst hi
        rw [List.getElem?_modify_eq, List.getElem?_modify_eq, h]
        rfl
      · rw [List.getElem?_modify_ne _ _ hi, List.getElem?_modify_ne _ _ hi]
    simp only [modifyConsumer, mapBoard]
    rw [hmodify fun x => (x.poll (c.board.session.roster.feeds n)).2]

/-- A start launches the session or changes nothing. -/
theorem course_startValue (he : e.starts = true) (params : Option Value) :
    Course e c (((c.startValue params).toOption.map Prod.snd).getD c) := by
  unfold startValue
  cases checkParams params with
  | error error => exact .outside (.refl c)
  | ok params =>
    by_cases hp : c.phase = .notStarted
    · simp only [startChecked_eq hp]
      exact .launch he hp params true
    · simp only [startChecked_eq_error hp]
      exact .outside (.refl c)

theorem course_subscribe (operation : Operation) :
    Course (.subscribe operation) c (c.subscribe operation).2 := by
  rcases c.subscribe_cases operation with ⟨error, h⟩ | ⟨hp, h⟩ | ⟨hp, params, h⟩
  · rw [h]
    exact .refuse operation rfl error
  · rw [h]
    exact .enlist operation rfl hp
  · rw [h]
    exact .launchFor operation rfl hp params

theorem course_stop (hheld : 0 < c.handles) : Course .stop c c.stop := by
  unfold stop
  split
  · exact .outside (.refl c)
  · next hp => exact .halt (Or.inl ⟨rfl, hheld⟩) hp c.handles

theorem course_dropHandle (hheld : 0 < c.handles) : Course .dropHandle c c.dropHandle := by
  unfold dropHandle
  dsimp only
  split
  · next hlast =>
    have honly : c.handles = 1 := by
      have hzero : c.handles - 1 = 0 := hlast
      omega
    unfold stop
    split
    · exact .outside (.handles c _)
    · next hp => exact .halt (Or.inr ⟨rfl, honly⟩) hp _
  · exact .outside (.handles c _)

theorem course_cancelByHandle {n : Nat} (he : e.cancels n = true) :
    Course e c (c.cancelByHandle n) := by
  rcases c.cancelByHandle_cases n with h | ⟨consumer, h, hfirst, heq⟩
  · rw [h]
    exact .outside (.refl c)
  · rw [heq]
    exact .withdraw he h hfirst

theorem course_cancel (n : Nat) : Course (.cancel n) c (c.cancel n) := by
  have hmarked {x : Consumer} := c.cancelByHandle_cancelled (x := x) n
  unfold cancel
  rcases c.cancelByHandle_cases n with h | ⟨consumer, h, hfirst, heq⟩
  · rw [h] at hmarked ⊢
    exact .touch (.settle fun _ => hmarked)
  · rw [heq]
    exact .cancel rfl h hfirst

/-- What an event does that can happen is one of the courses. -/
theorem course_undergo (he : c.allows e = true) : Course e c (c.undergo e) := by
  cases e with
  | start => exact course_startValue rfl _
  | startWith params =>
    cases params with
    | error error => exact .outside (.refl c)
    | ok value => exact course_startValue rfl _
  | subscribe operation => exact course_subscribe operation
  | stop => exact course_stop (of_decide_eq_true he)
  | clone => exact .outside (.handles c _)
  | dropHandle => exact course_dropHandle (of_decide_eq_true he)
  | cancel n => exact course_cancel n
  | cancelByHandle n => exact course_cancelByHandle (by simp [Event.cancels])
  | dropSubscription n => exact .touch .drop
  | poll n =>
    rw [undergo, poll_eq_modify]
    exact .touch .poll
  | dropHandshake h => exact .outside (.dropHandshake c h)
  | serverSend k frame =>
    refine .outside ⟨.modifyLine k _ (fun l => ?_) (fun hs => ?_) fun _ _ => rfl, rfl, rfl⟩
    · unfold SocketPair.serverSend; split <;> rfl
    · rw [allows, hs] at he; cases he
  | serverClose k frame =>
    refine .outside ⟨.modifyLine k _ (fun l => ?_) (fun hs => ?_) fun _ _ => rfl, rfl, rfl⟩
    · unfold SocketPair.serverClose SocketPair.serverSend; split <;> rfl
    · rw [allows, hs] at he; cases he
  | serverDrop k =>
    refine .outside ⟨.modifyLine k _ (fun l => rfl) (fun hs => ?_) fun _ _ => rfl, rfl, rfl⟩
    rw [allows, hs] at he
    cases he
  | stopAccepting =>
    exact .outside ⟨⟨rfl, rfl, rfl, rfl, rfl, rfl, rfl, rfl, rfl, fun _ => rfl, fun _ _ => rfl,
      fun _ _ => rfl⟩, rfl, rfl⟩
  | failReceive k doing =>
    exact .outside ⟨.modifyLine k _ (fun _ => rfl) (fun _ => rfl) nofun, rfl, rfl⟩
  | failSends k fault =>
    exact .outside ⟨.modifyLine k _ (fun _ => rfl) (fun _ => rfl) nofun, rfl, rfl⟩
  | turn place =>
    rcases c.turnAt_cases place with h | ⟨pre, a, post, o, board, hagents, ht, h⟩
    · rw [undergo, h]
      exact .outside (.refl c)
    · rw [undergo, h]
      exact .turn hagents ht rfl
  | pass => exact .pass rfl

/-- Every event takes one of the courses. -/
theorem course_perform (c : Client) (e : Event) : Course e c (c.perform e) := by
  unfold perform
  split
  · next he => exact course_undergo he
  · exact .outside (.refl c)

/-! ## Every event is a chain of steps -/

/-- Every course is a chain of steps. -/
theorem Course.steps {c' : Client} (h : Course e c c') : Steps e c c' := by
  cases h with
  | outside h => exact .single (.quiet h.toQuiet)
  | touch h => exact .single (.touch h)
  | launch he hp params held => exact .single (.launch he hp params held)
  | refuse operation hop error =>
    subst hop
    exact .single (.refuse rfl error ⟨operation, rfl⟩)
  | enlist operation hop hp =>
    subst hop
    exact .single (.enlist rfl hp operation rfl)
  | launchFor operation hop hp params =>
    subst hop
    refine .tail (.single (.launch rfl hp params false)) (.enlist rfl ?_ operation rfl)
    rw [launched_phase]
    nofun
  | withdraw he h hfirst => exact .single (.withdraw he h hfirst)
  | @cancel n consumer he h hfirst =>
    subst he
    refine .tail (.single (.withdraw (by simp [Event.cancels]) h hfirst))
      (.touch (.settle fun x hx => ?_))
    rw [← cancelByHandle_eq h hfirst] at hx
    exact c.cancelByHandle_cancelled n hx
  | halt hstop hp handles =>
    exact .head (.quiet (Outside.handles c handles).toQuiet) (.single (.halt hp))
  | turn hagents ht he => exact .single (.turn hagents ht he)
  | pass he => exact .single (.pass he)

/-- Every event is a chain of its steps. -/
theorem steps_perform (c : Client) (e : Event) : Steps e c (c.perform e) :=
  (c.course_perform e).steps

/-- What every step of an event keeps, the event keeps. -/
theorem perform_induction {P : Client → Prop} (hstep : ∀ c c', P c → Step e c c' → P c')
    (h : P c) : P (c.perform e) := by
  have hsteps := c.steps_perform e
  revert hsteps
  generalize c.perform e = c'
  intro hsteps
  induction hsteps with
  | refl => exact h
  | tail _ hlast ih => exact hstep _ _ ih hlast

/-- What every step keeps, every run keeps. -/
theorem run_induction {P : Client → Prop} (hstep : ∀ e c c', P c → Step e c c' → P c') (h : P c)
    (es : List Event) : P (c.run es) := by
  induction es generalizing c with
  | nil => exact h
  | cons e es ih => exact ih (perform_induction (hstep e) h)

/-- The supply of ids stays. -/
theorem newId_step {c' : Client} (hstep : Step e c c') : c'.newId = c.newId := by
  cases hstep with
  | quiet hq => exact hq.newId
  | withdraw he hx hc => rw [withdrawn_eq]
  | _ => rfl

theorem newId_perform (c : Client) (e : Event) : (c.perform e).newId = c.newId :=
  perform_induction (P := fun c' => c'.newId = c.newId)
    (fun _ _ h hstep => (newId_step hstep).trans h) rfl

theorem newId_run (c : Client) (es : List Event) : (c.run es).newId = c.newId :=
  run_induction (P := fun c' => c'.newId = c.newId)
    (fun _ _ _ h hstep => (newId_step hstep).trans h) rfl es

end Client

end LiveQuery
