import LiveQuery.Proofs.Budget
import LiveQuery.Proofs.Cancellation
import LiveQuery.Proofs.Phases
import LiveQuery.Proofs.Shutdown

/-!
# Refused calls

A call that would start a session is refused before it changes anything (`Client.Refusals`,
`Client.refusals_run`). A start is refused for its parameters, or because the session has started
(`Client.StartRefused`). A subscription is refused only if nothing has started, for a reason that
lies in the settings (`Settings.Refuses`), so that no subscription ever learns that the session has
started already. All that is left of it is a consumer, which comes to nothing but the error, and
whose cancel reaches nobody (`Client.Fruitless`).
-/

namespace LiveQuery

open Json (Value Members)

/-! ## Reasons to refuse -/

/-- Connection parameters that are refused are neither an object nor null. The error names their
kind. -/
inductive BadParams : Option Value → StartError → Prop
  | kind {v : Value} (hnull : v ≠ .null) (hobject : ∀ ms, v ≠ .object ms) :
      BadParams (some v) (.paramsNotObject (jsonKind v))

theorem checkParams_eq_error_iff {params : Option Value} {error : StartError} :
    checkParams params = .error error ↔ BadParams params error := by
  constructor
  · intro h
    cases params with
    | none => cases h
    | some v =>
      cases v with
      | null => cases h
      | object ms => cases h
      | _ =>
        cases h
        exact .kind nofun nofun
  · rintro ⟨hnull, hobject⟩
    rename_i v
    cases v with
    | null => exact absurd rfl hnull
    | object ms => exact absurd rfl (hobject ms)
    | _ => rfl

theorem BadParams.ne_alreadyStarted {params : Option Value} {error : StartError}
    (h : BadParams params error) : error ≠ .alreadyStarted := by
  cases h
  nofun

/-- What is wrong with settings that do not let a subscription start the session. -/
inductive Settings.Refuses (s : Settings) : SubscribeError → Prop
  | onDemand (h : s.startsOnDemand = false) : s.Refuses .notStarted
  | params {error : StartError} (h : s.startsOnDemand = true) (hparams : BadParams s.params error) :
      s.Refuses (.startFailed error)

/-- Is an item the error of a refusal? -/
def Item.isRefusal : Item → Bool
  | .error .notStarted | .error (.startFailed _) => true
  | _ => false

/-- The server refuses nobody. -/
theorem Message.isRefusal_of_item? {m : Message} {id : String} {item : Item}
    (h : m.item? = some (id, item)) : item.isRefusal = false := by
  cases m with
  | next i result => cases h; rfl
  | error i errors => cases h; rfl
  | complete i => cases h; rfl
  | _ => cases h

namespace Client

variable {c c' : Client} {e : Event} {n : Nat}

/-- Why a start with some parameters is refused. The parameters are looked at first. -/
inductive StartRefused (c : Client) (params : Option Value) : StartError → Prop
  | params {error : StartError} (h : BadParams params error) : c.StartRefused params error
  | started (hp : c.phase ≠ .notStarted) (hparams : ∀ error, ¬ BadParams params error) :
      c.StartRefused params .alreadyStarted

theorem startValue_eq_error_iff {params : Option Value} {error : StartError} :
    c.startValue params = .error error ↔ c.StartRefused params error := by
  rw [startValue]
  cases hparams : checkParams params with
  | error cause =>
    have hbad := checkParams_eq_error_iff.1 hparams
    constructor
    · intro h
      cases h
      exact .params hbad
    · intro h
      cases h with
      | params h =>
        rw [checkParams_eq_error_iff.2 h] at hparams
        exact congrArg Except.error (Except.error.inj hparams).symm
      | started hp hnone => exact absurd hbad (hnone cause)
  | ok checked =>
    have hgood (error : StartError) : ¬ BadParams params error := by
      intro h
      rw [checkParams_eq_error_iff.2 h] at hparams
      cases hparams
    by_cases hp : c.phase = .notStarted
    · dsimp only
      rw [startChecked_eq hp]
      constructor
      · intro h
        cases h
      · intro h
        cases h with
        | params h => exact absurd h (hgood error)
        | started hstarted => exact absurd hp hstarted
    · dsimp only
      rw [startChecked_eq_error hp]
      constructor
      · intro h
        cases h
        exact .started hp hgood
      · intro h
        cases h with
        | params h => exact absurd h (hgood error)
        | started => rfl

/-- A subscription is refused only if nothing has started, and then the settings say why. -/
theorem ensureStarted_eq_error_iff {error : SubscribeError} : c.ensureStarted = .error error ↔
    c.phase = .notStarted ∧ c.board.settings.Refuses error := by
  by_cases hp : c.phase = .notStarted
  · rw [ensureStarted_eq hp]
    cases hdemand : c.board.settings.startsOnDemand with
    | false =>
      rw [if_neg Bool.false_ne_true]
      constructor
      · intro h
        cases h
        exact ⟨hp, .onDemand hdemand⟩
      · rintro ⟨-, h⟩
        cases h with
        | onDemand => rfl
        | params hsome => exact absurd hsome (Bool.eq_false_iff.1 hdemand)
    | true =>
      rw [if_pos rfl]
      constructor
      · intro h
        cases hparams : checkParams c.board.settings.params with
        | error cause =>
          rw [hparams] at h
          cases h
          exact ⟨hp, .params hdemand (checkParams_eq_error_iff.1 hparams)⟩
        | ok checked =>
          rw [hparams] at h
          cases h
      · rintro ⟨-, h⟩
        cases h with
        | onDemand hnone => exact absurd hdemand (Bool.eq_false_iff.1 hnone)
        | params _ hparams => rw [checkParams_eq_error_iff.2 hparams]
  · constructor
    · intro h
      rw [ensureStarted, if_pos hp] at h
      cases h
    · exact fun h => absurd h.1 hp

/-! ## What a refusal changes -/

/-- The client with one more consumer, whose only item is an error. -/
def withRefused (c : Client) (error : SubscribeError) : Client :=
  let number := c.board.consumers.length
  { c with board := { c.board with
      consumers := c.board.consumers ++ [Consumer.refused (c.newId number) error]
      journal := ⟨c.board.now, .delivered number (.error error)⟩ :: c.board.journal } }

/-- Nothing is left of a subscription that is refused but its consumer. -/
theorem perform_subscribe_of_refused {operation : Operation} {error : SubscribeError}
    (hallow : c.allows (.subscribe operation) = true) (h : c.ensureStarted = .error error) :
    c.perform (.subscribe operation) = c.withRefused error := by
  rw [perform, if_pos hallow, undergo, subscribe, h]
  rfl

/-- In a session that has started a subscription is taken on. -/
theorem perform_subscribe_of_started {operation : Operation}
    (hallow : c.allows (.subscribe operation) = true) (hp : c.phase ≠ .notStarted) :
    c.perform (.subscribe operation) = c.enlisted operation := by
  have hensure : c.ensureStarted = .ok c := by rw [ensureStarted, if_pos hp]
  rw [perform, if_pos hallow]
  exact subscribe_eq_enlisted hensure operation rfl rfl

/-- A subscription that is taken on is registered. -/
theorem mem_ids_enlisted (c : Client) (operation : Operation) :
    c.newId c.board.consumers.length ∈ (c.enlisted operation).ids := by
  rw [ids, enlisted_session, Session.subscribe_roster, Roster.mem_ids]
  exact ⟨_, Roster.mem_insert.2 (Or.inl rfl), rfl⟩

/-- A subscription that is not refused is registered. -/
theorem mem_ids_of_ensureStarted {operation : Operation}
    (hallow : c.allows (.subscribe operation) = true) (h : c.ensureStarted = .ok c') :
    c.newId c.board.consumers.length ∈ (c.perform (.subscribe operation)).ids := by
  obtain ⟨hid, hn⟩ : c'.newId = c.newId ∧ c'.board.consumers = c.board.consumers := by
    rcases ensureStarted_eq_ok h with ⟨-, rfl⟩ | ⟨-, params, rfl⟩
    · exact ⟨rfl, rfl⟩
    · exact ⟨rfl, launched_consumers ..⟩
  have hperform : c.perform (.subscribe operation) = c'.enlisted operation := by
    rw [perform, if_pos hallow]
    exact subscribe_eq_enlisted h operation hid hn
  rw [hperform, ← hid, ← hn]
  exact c'.mem_ids_enlisted operation

end Client

/-! ## The life of a refused subscription -/

/-- A consumer whose channel holds an error and nothing else waits with it, or has yielded it. -/
theorem Switchboard.Accounts.poll_of_error {sb : Switchboard} {n : Nat} {x : Consumer}
    {yields : List (Except SubscribeError ExecutionResult)} {error : SubscribeError}
    (h : sb.Accounts n x yields) (hl : x.listening = true) (hchannel : sb.channel n = [.error error])
    (fed : Bool) : (yields = [] ∨ yields = [.error error]) ∧
      (x.poll fed).1 = if !x.cancelled && yields.isEmpty then .ready (.error error) else .ended := by
  have htaken := h.taken hl
  rw [hchannel] at htaken
  cases yields with
  | nil =>
    refine ⟨Or.inl rfl, ?_⟩
    have hs : x.status ≠ .errored := by
      intro hs
      obtain ⟨answer, hanswer, -⟩ := h.errored hs
      cases hanswer
    rw [Consumer.poll]
    cases hstatus : x.status with
    | errored => exact absurd hstatus hs
    | completed =>
      rw [hstatus, if_pos rfl] at htaken
      cases htaken
    | cancelled =>
      rw [h.cancelled hstatus]
      rfl
    | subscribed =>
      rw [hstatus, if_neg nofun] at htaken
      have hunread : x.unread = [.error error] := htaken.symm
      cases x.cancelled with
      | true => rfl
      | false =>
        rw [hunread]
        rfl
  | cons answer rest =>
    -- the error was taken, and nothing is left
    obtain ⟨hanswer, hrest⟩ := List.cons.inj htaken
    obtain rfl : answer = .error error := by
      cases answer with
      | ok result => cases hanswer
      | error cause => cases hanswer; rfl
    obtain ⟨hrest, -⟩ := List.append_eq_nil_iff.1 hrest.symm
    obtain ⟨hrest, -⟩ := List.append_eq_nil_iff.1 hrest
    obtain rfl := List.map_eq_nil_iff.1 hrest
    have hs : x.status ≠ .subscribed := by
      intro hs
      cases h.going hs _ (List.mem_singleton_self _)
    refine ⟨Or.inr rfl, ?_⟩
    rw [Consumer.poll, if_pos hs, List.isEmpty_cons, Bool.and_false]
    rfl

namespace Client

variable {c c' : Client} {e : Event} {n : Nat} {error : SubscribeError}
  {yields : List (Except SubscribeError ExecutionResult)}

/-- A subscription that is not registered, and whose channel holds one error. -/
structure Barren (c : Client) (n : Nat) (error : SubscribeError) : Prop extends c.Unfed n where
  channel : c.board.channel n = [.error error]

/-- What a subscription comes to that gets nothing but an error. -/
structure Fruitless (c : Client) (n : Nat) (error : SubscribeError) : Prop where
  /-- Its channel never holds anything else. -/
  channel : ∀ es, (c.run es).board.channel n = [.error error]
  /-- Its id is never registered. -/
  unregistered : ∀ es, c.newId n ∉ (c.run es).ids
  /-- It yields the error at most, and once at most. -/
  yields : ∀ es, c.yields n es = [] ∨ c.yields n es = [.error error]
  /-- No poll has to wait. The first one gets the error unless there was a cancel, and the stream
  has ended for all others. -/
  poll : ∀ es x, (c.run es).board.consumers[n]? = some x → x.listening = true →
    ((c.run es).poll n).1 =
      if !x.cancelled && (c.yields n es).isEmpty then .ready (.error error) else .ended
  /-- Nothing but a cancel cancels it. -/
  uncancelled : ∀ es, (∀ e ∈ es, Event.cancels n e = false) →
    ∀ x, (c.run es).board.consumers[n]? = some x → x.cancelled = false
  /-- A cancel changes nothing but its consumer. -/
  cancel : ∀ es e, Event.cancels n e = true →
    ∃ f, (c.run es).perform e = (c.run es).modifyConsumer n f

namespace Barren

theorem run (h : c.Barren n error) (hc : c.Coherent) (es : List Event) :
    (c.run es).Barren n error := by
  obtain ⟨hunfed, hchannel⟩ := h.toUnfed.run hc es
  exact ⟨hunfed, hchannel.trans h.channel⟩

theorem poll (h : c.Barren n error) (haccounted : c.Accounted n yields) {x : Consumer}
    (hx : c.board.consumers[n]? = some x) (hl : x.listening = true) :
    (yields = [] ∨ yields = [.error error]) ∧
      (c.poll n).1 = if !x.cancelled && yields.isEmpty then .ready (.error error) else .ended := by
  have hpoll : (c.poll n).1 = (x.poll (c.board.session.roster.feeds n)).1 := by
    rw [Client.poll, consumer?, hx]
  rw [hpoll]
  exact (haccounted.accounts x hx).poll_of_error hl h.channel _

/-- An event yields the error, or nothing. -/
theorem yielded (h : c.Barren n error) (haccounted : c.Accounted n yields)
    (hyields : yields = [] ∨ yields = [.error error]) (e : Event) :
    yields ++ c.yielded n e = [] ∨ yields ++ c.yielded n e = [.error error] := by
  have hidle (h : c.yielded n e = []) :
      yields ++ c.yielded n e = [] ∨ yields ++ c.yielded n e = [.error error] := by
    rwa [h, List.append_nil]
  cases e with
  | poll m =>
    by_cases hm : m = n ∧ c.board.listening n = true
    · obtain ⟨x, hx⟩ : ∃ x, c.board.consumers[n]? = some x :=
        ⟨_, List.getElem?_eq_getElem h.known⟩
      have hl := hm.2
      rw [Switchboard.listening_eq, hx] at hl
      obtain ⟨-, hpoll⟩ := h.poll haccounted hx hl
      rw [Client.yielded, if_pos hm, hpoll]
      by_cases hfirst : (!x.cancelled && yields.isEmpty) = true
      · -- the first poll gets the error
        rw [if_pos hfirst, List.isEmpty_iff.1 (Bool.and_eq_true_iff.1 hfirst).2]
        exact Or.inr rfl
      · rw [if_neg hfirst, List.append_nil]
        exact hyields
    · exact hidle (if_neg hm)
  | _ => exact hidle rfl

theorem yields_run (h : c.Barren n error) (hc : c.Coherent) (haccounted : c.Accounted n yields)
    (hyields : yields = [] ∨ yields = [.error error]) (es : List Event) :
    yields ++ c.yields n es = [] ∨ yields ++ c.yields n es = [.error error] := by
  induction es generalizing c yields with
  | nil =>
    rw [Client.yields, List.append_nil]
    exact hyields
  | cons e es ih =>
    rw [Client.yields, ← List.append_assoc]
    exact ih (h.run hc [e]) (hc.perform e) (haccounted.perform hc e)
      (h.yielded haccounted hyields e)

/-- A cancel finds nothing to take back. -/
theorem cancel (h : c.Barren n error) (hc : c.Coherent) (he : e.cancels n = true) :
    ∃ f, c.perform e = c.modifyConsumer n f := by
  have hnothing : ∃ f, c = c.modifyConsumer n f := by
    refine ⟨id, ?_⟩
    rw [modifyConsumer, mapBoard, List.modify_id]
  obtain ⟨f, hcancel⟩ : ∃ f, c.cancelByHandle n = c.modifyConsumer n f := by
    rcases c.cancelByHandle_cases n with hsame | ⟨x, hx, -, heq⟩
    · rwa [hsame]
    · have hunknown : c.board.session.roster.find? x.id = none := by
        rw [Roster.find?_eq_none_iff, ← hc.feeds_iff hx, h.unfed]
        exact Bool.false_ne_true
      have hsession : c.board.session.withdraw x = c.board.session := by
        rw [hc.withdraw_eq hx, Session.cancel_of_unknown _ _ hunknown]
      refine ⟨Consumer.markCancelled, ?_⟩
      rw [heq, withdrawn_eq, hsession]
      exact congrArg (fun board : Switchboard => ({ c with board } : Client))
        (Switchboard.withSession_self { c.board with consumers := _ })
  by_cases hallow : c.allows e = true
  · rcases perform_of_cancels he hallow with heq | heq
    · exact ⟨f, heq.trans hcancel⟩
    · refine ⟨Consumer.settleCancelled ∘ f, ?_⟩
      rw [heq, hcancel, modifyConsumer, modifyConsumer, modifyConsumer, mapBoard, mapBoard, mapBoard,
        List.modify_modify_eq]
  · rwa [perform, if_neg hallow]

end Barren

/-- Before a consumer is there nothing is registered for it and nothing put for it. -/
theorem barren_withRefused (hc : c.Coherent)
    (hunborn : c.board.channel c.board.consumers.length = []) (error : SubscribeError) :
    (c.withRefused error).Barren c.board.consumers.length error := by
  refine ⟨⟨?_, Bool.eq_false_iff.2 fun hfed => ?_⟩, ?_⟩
  · show _ < (c.board.consumers ++ [_]).length
    rw [List.length_append]
    exact Nat.lt_succ_self _
  · obtain ⟨entry, hentry, hn⟩ := Roster.feeds_iff.1 hfed
    obtain ⟨x, hx, -⟩ := hc.entries entry hentry
    exact Nat.lt_irrefl _ (hn ▸ (List.getElem?_eq_some_iff.1 hx).1)
  · have hnote := c.board.note_channel
      (.delivered c.board.consumers.length (.error error)) c.board.consumers.length
    rw [hunborn] at hnote
    refine Eq.trans hnote ?_
    rw [Notice.item?, if_pos rfl]
    rfl

/-- A subscription that was refused comes to nothing but the error. -/
theorem fruitless_of_refused {operation : Operation} (hc : c.Coherent)
    (haccounted : c.Accounted c.board.consumers.length yields)
    (hperform : c.perform (.subscribe operation) = c.withRefused error) :
    (c.withRefused error).Fruitless c.board.consumers.length error := by
  obtain ⟨hunborn, rfl⟩ := haccounted.unborn (List.getElem?_eq_none (le_refl _))
  have hbarren := barren_withRefused hc hunborn error
  have hc' := hc.perform (.subscribe operation)
  have haccounted' := haccounted.perform hc (.subscribe operation)
  rw [hperform] at hc' haccounted'
  generalize hn : c.board.consumers.length = n at hbarren haccounted' ⊢
  have hfresh : ∀ x, (c.withRefused error).board.consumers[n]? = some x → x.cancelled = false := by
    intro x hx
    have hlast : (c.withRefused error).board.consumers[n]? =
        some (Consumer.refused (c.newId n) error) := by
      rw [← hn]
      exact List.getElem?_concat_length
    rw [hlast] at hx
    rw [← Option.some.inj hx]
    rfl
  generalize c.withRefused error = c₁ at hbarren hc' haccounted' hfresh ⊢
  have hyields (es : List Event) := hbarren.yields_run hc' haccounted' (Or.inl rfl) es
  refine ⟨fun es => (hbarren.run hc' es).channel, fun es hmem => ?_, hyields,
    fun es x hx hl => ?_, fun es hes => cancelled_run hc' hes hfresh,
    fun es e he => (hbarren.run hc' es).cancel (hc'.run es) he⟩
  · have hfed := (hc'.run es).feeds_iff_registered.2 (by rwa [newId_run])
    rw [(hbarren.run hc' es).unfed] at hfed
    cases hfed
  · exact ((hbarren.run hc' es).poll (haccounted'.run hc' es) hx hl).2

end Client

/-! ## Where errors of refusals come from -/

/-- The errors of refusals in the channel of a consumer. -/
def Switchboard.refusals (sb : Switchboard) (n : Nat) : List Item :=
  (sb.channel n).filter Item.isRefusal

theorem Switchboard.refusals_congr {sb sb' : Switchboard} {n : Nat}
    (h : sb'.channel n = sb.channel n) : sb'.refusals n = sb.refusals n := by
  rw [refusals, h, refusals]

/-- Other items add no refusal. -/
theorem Switchboard.refusals_append {sb sb' : Switchboard} {n : Nat} {items : List Item}
    (h : sb'.channel n = sb.channel n ++ items) (hitems : ∀ item ∈ items, item.isRefusal = false) :
    sb'.refusals n = sb.refusals n := by
  have hnone : items.filter Item.isRefusal = [] :=
    List.filter_eq_nil_iff.2 fun item hitem => Bool.eq_false_iff.1 (hitems item hitem)
  rw [refusals, h, List.filter_append, hnone, List.append_nil, refusals]

/-- No turn refuses anybody. -/
theorem Agent.Move.refusals {a : Agent} {sb : Switchboard} {t : Turn} (hmove : a.Move sb t)
    (n : Nat) : t.2.refusals n = sb.refusals n := by
  obtain ⟨items, hchannel, hputs⟩ := hmove.puts n
  refine Switchboard.refusals_append hchannel fun item hitem => ?_
  cases hputs item hitem with
  | connection | unsent | undecodable => rfl
  | said _ _ hsaid => exact Message.isRefusal_of_item? hsaid

namespace Client

variable {c c' : Client} {e : Event} {n : Nat}

theorem refusals_halted (hp : c.phase ≠ .notStarted) (n : Nat) :
    c.halted.board.refusals n = c.board.refusals n := by
  rw [halted_board hp]
  refine Switchboard.refusals_append (Switchboard.commit_channel ..) fun item hitem => ?_
  split at hitem
  · rw [Session.terminate_items] at hitem
    obtain ⟨-, -, rfl⟩ := List.mem_map.1 hitem
    rfl
  · cases hitem

/-- Only a subscription is refused by an error that is delivered. -/
theorem refusals_step (hc : c.Coherent) (hstep : Step e c c')
    (he : ∀ operation, e ≠ .subscribe operation) (n : Nat) :
    c'.board.refusals n = c.board.refusals n := by
  cases hstep with
  | quiet hq => exact Switchboard.refusals_congr ((undelivered_of_quiet hq).channel n)
  | launch _ _ params held =>
    exact Switchboard.refusals_congr ((undelivered_launch params held).channel n)
  | touch | pass => rfl
  | enlist => exact Switchboard.refusals_congr (Switchboard.withSession_channel ..)
  | refuse _ _ hop =>
    obtain ⟨operation, hop⟩ := hop
    exact absurd hop (he operation)
  | withdraw _ hx =>
    rw [withdrawn_eq]
    exact Switchboard.refusals_congr (Switchboard.withSession_channel ..)
  | halt hp => exact refusals_halted hp n
  | turn hagents ht =>
    have hfits := hc.agents _ (mem_of_split hagents)
    exact (hfits.move ht).refusals n

/-- Whoever was refused was so for a reason that lies in the settings. -/
def Reasoned (c : Client) : Prop :=
  ∀ n, ∀ item ∈ c.board.channel n, item.isRefusal = true →
    ∃ error, item = .error error ∧ c.board.settings.Refuses error

theorem Reasoned.congr (h : c.Reasoned) (hsettings : c'.board.settings = c.board.settings)
    (hrefusals : ∀ n, c'.board.refusals n = c.board.refusals n) : c'.Reasoned := by
  intro n item hitem hrefusal
  have hmem : item ∈ c'.board.refusals n := List.mem_filter.2 ⟨hitem, hrefusal⟩
  rw [hrefusals] at hmem
  rw [hsettings]
  exact h n item (List.mem_filter.1 hmem).1 hrefusal

theorem Reasoned.withRefused (h : c.Reasoned) {error : SubscribeError}
    (hrefuses : c.board.settings.Refuses error) : (c.withRefused error).Reasoned := by
  intro n item hitem hrefusal
  have hnote := c.board.note_channel (.delivered c.board.consumers.length (.error error)) n
  have hmem : item ∈ c.board.channel n ++
      (Notice.item? n (.delivered c.board.consumers.length (.error error))).toList := hnote ▸ hitem
  rcases List.mem_append.1 hmem with hold | hnew
  · exact h n item hold hrefusal
  · rw [Notice.item?, Option.mem_toList, Option.ite_none_right_eq_some] at hnew
    exact ⟨error, (Option.some.inj hnew.2).symm, hrefuses⟩

theorem Reasoned.perform (h : c.Reasoned) (hc : c.Coherent) (e : Event) :
    (c.perform e).Reasoned := by
  have hsettings := settings_perform hc e
  by_cases hop : ∃ operation, e = .subscribe operation
  · obtain ⟨operation, rfl⟩ := hop
    by_cases hallow : c.allows (.subscribe operation) = true
    · cases hensure : c.ensureStarted with
      | error error =>
        rw [perform_subscribe_of_refused hallow hensure]
        exact h.withRefused (ensureStarted_eq_error_iff.1 hensure).2
      | ok c' =>
        refine h.congr hsettings fun n => Switchboard.refusals_congr ?_
        rw [Client.perform, if_pos hallow, undergo]
        rcases ensureStarted_eq_ok hensure with ⟨-, rfl⟩ | ⟨-, params, rfl⟩
        · rw [subscribe_eq_enlisted hensure operation rfl rfl]
          exact Switchboard.withSession_channel ..
        · rw [subscribe_eq_enlisted hensure operation rfl (launched_consumers ..)]
          exact (Switchboard.withSession_channel ..).trans
            ((undelivered_launch params false).channel n)
    · rwa [Client.perform, if_neg hallow]
  · refine h.congr hsettings fun n => ?_
    have hboth := perform_induction (e := e) (c := c)
      (P := fun c' => c'.Coherent ∧ c'.board.refusals n = c.board.refusals n)
      (fun _ _ h₁ hstep => ⟨h₁.1.step hstep,
        (refusals_step h₁.1 hstep (fun operation heq => hop ⟨operation, heq⟩) n).trans h₁.2⟩)
      ⟨hc, rfl⟩
    exact hboth.2

theorem Reasoned.run (h : c.Reasoned) (hc : c.Coherent) (es : List Event) : (c.run es).Reasoned := by
  induction es generalizing c with
  | nil => exact h
  | cons e es ih => exact ih (h.perform hc e) (hc.perform e)

/-! ## After every run -/

/-- What becomes of calls that are refused. -/
structure Refusals (c : Client) : Prop where
  /-- Which starts are refused, and how. -/
  start : ∀ {error}, c.start = .error error ↔ c.StartRefused c.board.settings.params error
  startWith : ∀ {params error}, c.startWith params = .error error ↔
    match params with
    | .error cause => error = .paramsUnencodable cause
    | .ok v => c.StartRefused (some v) error
  /-- A start that is refused changes nothing. -/
  unstarted : ∀ {error}, c.start = .error error → c.perform .start = c
  unstartedWith : ∀ {params error}, c.startWith params = .error error →
    c.perform (.startWith params) = c
  /-- Which subscriptions are refused, and how. -/
  subscribe : ∀ {error}, c.ensureStarted = .error error ↔
    c.phase = .notStarted ∧ c.board.settings.Refuses error
  /-- A subscription that is refused adds its consumer and changes nothing else, and the consumer
  comes to nothing but the error. -/
  refused : ∀ {operation error}, c.allows (.subscribe operation) = true →
    c.ensureStarted = .error error → c.perform (.subscribe operation) = c.withRefused error ∧
      (c.withRefused error).Fruitless c.board.consumers.length error
  /-- Every other one is registered. -/
  registered : ∀ {operation c'}, c.allows (.subscribe operation) = true →
    c.ensureStarted = .ok c' →
      c.newId c.board.consumers.length ∈ (c.perform (.subscribe operation)).ids
  /-- In a session that has started every subscription is taken on. -/
  started : ∀ {operation}, c.allows (.subscribe operation) = true → c.phase ≠ .notStarted →
    c.ensureStarted = .ok c ∧ c.perform (.subscribe operation) = c.enlisted operation
  /-- Whatever refusals there were so far had a reason that lies in the settings. -/
  reasoned : c.Reasoned
  /-- No subscription ever got to hear that the session has started already. -/
  unheard : ∀ n, .error (.startFailed .alreadyStarted) ∉ c.board.channel n

/-- After every run calls that are refused leave no trace. -/
theorem refusals_run (settings : Settings) (transport : Transport) {newId : Nat → String}
    (hid : Function.Injective newId) (es : List Event) :
    ((create settings transport newId).run es).Refusals := by
  have hcreate := coherent_create settings transport hid
  have hc := coherent_run settings transport hid es
  have haccounted (n : Nat) := accounted_run settings transport hid es n
  have hnone : (create settings transport newId).Reasoned :=
    fun _ _ hitem => absurd hitem List.not_mem_nil
  have hreasoned := hnone.run hcreate es
  generalize (create settings transport newId).yields = yields at haccounted
  generalize (create settings transport newId).run es = c at hc haccounted hreasoned ⊢
  have hnothing {α : Type} {result : Except α (Nat × Client)} {error : α}
      (h : result = .error error) : (result.toOption.map Prod.snd).getD c = c := by
    rw [h]
    rfl
  refine ⟨startValue_eq_error_iff, fun {params error} => ?_, fun h => ?_, fun h => ?_,
    ensureStarted_eq_error_iff, fun hallow h => ?_, mem_ids_of_ensureStarted,
    fun hallow hp => ⟨?_, perform_subscribe_of_started hallow hp⟩, hreasoned, fun n hmem => ?_⟩
  · cases params with
    | error cause =>
      constructor
      · intro h
        cases h
        rfl
      · rintro rfl
        rfl
    | ok v => exact startValue_eq_error_iff
  · rw [perform]
    split
    · exact hnothing h
    · rfl
  · rw [perform]
    split
    · exact hnothing h
    · rfl
  · have hperform := perform_subscribe_of_refused hallow h
    exact ⟨hperform, fruitless_of_refused hc (haccounted _) hperform⟩
  · rw [ensureStarted, if_pos hp]
  · obtain ⟨error, herror, hrefuses⟩ := hreasoned n _ hmem rfl
    cases herror
    cases hrefuses with
    | params _ hparams => exact hparams.ne_alreadyStarted rfl

/-- Settings that wait for a start. -/
def reserved : Settings := { untimed with startsOnDemand := false }

/-- Without a start a subscription is refused. It yields the error, and then it has ended. -/
theorem refusals_of_reserved : Function.Injective tally ∧
    (create reserved {} tally).perform (.subscribe default) =
      (create reserved {} tally).withRefused .notStarted ∧
    ((create reserved {} tally).withRefused .notStarted).Fruitless 0 .notStarted ∧
    ((create reserved {} tally).withRefused .notStarted).yields 0 [.poll 0, .poll 0] =
      [.error .notStarted] := by
  have hrefusals := refusals_run reserved {} tally_injective []
  have hrefused := hrefusals.subscribe.2 ⟨rfl, .onDemand rfl⟩
  have hallow : (create reserved {} tally).allows (.subscribe default) = true := rfl
  obtain ⟨hperform, hfruitless⟩ := hrefusals.refused hallow hrefused
  exact ⟨tally_injective, hperform, hfruitless, rfl⟩

end Client

end LiveQuery
