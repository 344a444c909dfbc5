import LiveQuery.Proofs.Phases

/-!
# The greeting of a socket

The first message on a socket is the greeting, and there is no other one on that socket. It carries
the parameters given to the call that began the session (`Client.given`), so that every reconnect
repeats them (`Client.Greeted`, `Client.greeted_run`). The agent of the session keeps what was given
last (`Client.params_run`), and all that follows a greeting is a ping, a pong, or a message of the
outgoing queue (`Agent.Episode.message`).
-/

namespace LiveQuery

/-! ## Messages in the record of a socket -/

namespace Notice

/-- Does a notice tell of a greeting? -/
def greets : Notice → Bool
  | .sent _ (.message (.connectionInit _)) _ _ => true
  | _ => false

theorem greets_eq_false {notice : Notice} (h : ∀ s payload arrived failed,
    notice ≠ .sent s (.message (.connectionInit payload)) arrived failed) :
    notice.greets = false := by
  apply Bool.eq_false_iff.2
  intro hgreets
  unfold greets at hgreets
  split at hgreets
  · exact h _ _ _ _ rfl
  · cases hgreets

/-- Does a notice tell of a message for a subscription? -/
def isOperation : Notice → Bool
  | .sent _ (.message m) _ _ => m.id?.isSome
  | _ => false

end Notice

/-- Does a message keep a socket alive? -/
def Message.isBeat : Message → Bool
  | .ping _ | .pong _ => true
  | _ => false

namespace Agent

variable {a : Agent} {sb : Switchboard} {k : Nat} {link'? : Option Link} {news : List Notice}

/-- Leaving a socket sends no message. -/
theorem not_mem_exit {exit : List Notice} (h : Exit k exit) {s : Nat} {m : Message}
    {arrived failed : Bool} : .sent s (.message m) arrived failed ∉ exit := by
  cases h <;> simp

/-- What is answered to an item is a pong. -/
theorem isBeat_of_answer {item : Except DecodeError Incoming} {m : Message}
    (h : Incoming.answer? item = some m) : m.isBeat = true := by
  obtain ⟨payload, -, rfl⟩ := Incoming.answer?_eq_some.1 h
  rfl

/-- The last messages before a socket is left are pings and pongs. -/
theorem LastWord.message {link : Link} {last : List Notice} (h : LastWord sb k link last) {s : Nat}
    {m : Message} {arrived failed : Bool} (hm : .sent s (.message m) arrived failed ∈ last) :
    m.isBeat = true := by
  cases h with
  | none => cases hm
  | heard => simp at hm
  | unanswered hcalm hanswer =>
    simp only [List.mem_cons, Notice.sent.injEq, Outgoing.message.injEq, List.not_mem_nil, or_false,
      reduceCtorEq, false_or] at hm
    obtain ⟨-, rfl, -⟩ := hm
    exact isBeat_of_answer hanswer
  | unpinged =>
    simp only [List.mem_singleton, Notice.sent.injEq, Outgoing.message.injEq] at hm
    obtain ⟨-, rfl, -⟩ := hm
    rfl

namespace Episode

/-- A socket that opens is greeted at once, and nothing more is sent in that turn. -/
theorem opens (h : a.Episode sb k none news link'?) : a.told = false ∧ ∃ arrived failed rest,
    news = .opened k :: .sent k (.message (.connectionInit a.params)) arrived failed :: rest ∧
      ∀ s m arrived failed, .sent s (.message m) arrived failed ∉ rest := by
  cases h with
  | greets hat => exact ⟨hat, _, _, [], rfl, fun _ _ _ _ => List.not_mem_nil⟩
  | snubbed hat => exact ⟨hat, _, _, _, rfl, fun _ _ _ _ => not_mem_exit (.dropped _)⟩

/-- A message on a socket in use keeps it alive, or it is the next one of the outgoing queue. -/
theorem message {link : Link} (h : a.Episode sb k (some link) news link'?) {s : Nat} {m : Message}
    {arrived failed : Bool} (hm : .sent s (.message m) arrived failed ∈ news) :
    m.isBeat = true ∨ a.told = false ∧ news = [.sent k (.message m) arrived failed] ∧
      ∃ rest, sb.session.outgoing = some (m :: rest) := by
  cases h with
  | pings =>
    simp only [List.mem_singleton, Notice.sent.injEq, Outgoing.message.injEq] at hm
    obtain ⟨-, rfl, -⟩ := hm
    exact Or.inl rfl
  | sends hat hcalm hqueue =>
    simp only [List.mem_singleton, Notice.sent.injEq, Outgoing.message.injEq] at hm
    obtain ⟨-, rfl, rfl, rfl⟩ := hm
    exact Or.inr ⟨hat, rfl, _, hqueue⟩
  | hears =>
    simp only [List.mem_cons, reduceCtorEq, false_or] at hm
    -- what is sent after an item was read is the answer to it
    obtain ⟨answer, hanswer, heq⟩ := List.mem_map.1 hm
    cases heq
    exact Or.inl (isBeat_of_answer (Option.mem_toList.1 hanswer))
  | leaves hlast hexit =>
    rcases List.mem_append.1 hm with hm | hm
    · exact Or.inl (hlast.message hm)
    · exact absurd hm (not_mem_exit hexit)

end Episode

end Agent

namespace Client

variable {c c' : Client} {e : Event}

/-! ## What is given to a session -/

/-- The parameters of a call that may begin a session. A subscription has those that the client was
set up with. -/
def offers (c : Client) : Event → Option (Option Json.Members)
  | .start => (checkParams c.board.settings.params).toOption
  | .startWith (.ok value) => (checkParams (some value)).toOption
  | .subscribe _ =>
    if c.board.settings.startsOnDemand then (checkParams c.board.settings.params).toOption else none
  | _ => none

/-- The parameters given to a call that begins a session. -/
def given (c : Client) (e : Event) : Option (Option Json.Members) :=
  if c.allows e ∧ c.phase = .notStarted then c.offers e else none

theorem given_eq_none (h : c.offers e = none) : c.given e = none := by
  unfold given
  rw [h, ite_self]

/-- The parameters given to the last call of a run that began a session. -/
def givenLast (c : Client) : List Event → Option (Option Json.Members)
  | [] => none
  | e :: es => (c.perform e).givenLast es <|> c.given e

/-- What was given first counts if nothing was given later. -/
theorem givenLast_append (c : Client) (es es' : List Event) :
    c.givenLast (es ++ es') = ((c.run es).givenLast es' <|> c.givenLast es) := by
  induction es generalizing c with
  | nil => simp [givenLast]
  | cons e es ih =>
    rw [List.cons_append, givenLast, ih, run_cons, givenLast]
    cases ((c.perform e).run es).givenLast es' <;> rfl

theorem givenLast_concat (c : Client) (es : List Event) (e : Event) :
    c.givenLast (es ++ [e]) = ((c.run es).given e <|> c.givenLast es) := by
  rw [givenLast_append]
  rfl

/-- What an event that gives these parameters, or none, does to the agents. -/
inductive Enrols (c c' : Client) : Option (Option Json.Members) → Prop
  /-- A session begins, and its agent has the parameters. -/
  | joins {params : Option Json.Members} {epoch : Nat} (hp : c.phase = .notStarted)
      (hagents : c'.agents = c.agents ++ [({ epoch, params } : Agent)]) : Enrols c c' (some params)
  /-- Nobody new has anything to do. -/
  | stays (hagents : ∀ a ∈ c'.agents, a.told = false → a ∈ c.agents) : Enrols c c' none

theorem Enrols.of_agents (h : c'.agents = c.agents) : c.Enrols c' none :=
  .stays fun _ ha _ => h ▸ ha

theorem enrols_startValue (c : Client) (params : Option Json.Value) :
    c.Enrols (((c.startValue params).toOption.map Prod.snd).getD c)
      (if c.phase = .notStarted then (checkParams params).toOption else none) := by
  unfold startValue
  cases checkParams params with
  | error error =>
    have hnone : (Except.error error : Except StartError (Option Json.Members)).toOption = none :=
      rfl
    rw [hnone, ite_self]
    exact .of_agents rfl
  | ok checked =>
    dsimp only
    by_cases hp : c.phase = .notStarted
    · rw [startChecked_eq hp, if_pos hp]
      exact .joins hp rfl
    · -- a session that was started stays as it is, and nothing is given to it
      rw [startChecked_eq_error hp, if_neg hp]
      exact .of_agents rfl

theorem enrols_subscribe (c : Client) (operation : Operation) :
    c.Enrols (c.subscribe operation).2 (if c.phase = .notStarted then
      if c.board.settings.startsOnDemand then (checkParams c.board.settings.params).toOption
      else none else none) := by
  have hrefused (error : SubscribeError) (h : c.ensureStarted = .error error) :
      (c.subscribe operation).2.agents = c.agents := by
    unfold subscribe
    rw [h]
    rfl
  by_cases hp : c.phase = .notStarted
  · have hstarted := ensureStarted_eq hp
    rw [if_pos hp]
    cases hdemand : c.board.settings.startsOnDemand with
    | false =>
      rw [hdemand] at hstarted
      exact .of_agents (hrefused _ hstarted)
    | true =>
      rw [hdemand, if_pos rfl] at hstarted
      rw [if_pos rfl]
      cases hparams : checkParams c.board.settings.params with
      | error error =>
        rw [hparams] at hstarted
        exact .of_agents (hrefused _ hstarted)
      | ok checked =>
        rw [hparams] at hstarted
        rw [subscribe_eq_enlisted hstarted operation rfl (launched_consumers c checked false)]
        exact .joins hp rfl
  · rw [if_neg hp]
    have hstarted : c.ensureStarted = .ok c := if_pos hp
    rw [subscribe_eq_enlisted hstarted operation rfl rfl]
    exact .of_agents rfl

/-- Events that are neither starts nor turns bring nobody who has anything to do. -/
theorem agents_of_calm (he : e.starts = false) (hturn : e.isTurn = false) :
    ∀ a ∈ (c.perform e).agents, a.told = false → a ∈ c.agents := by
  apply perform_induction (e := e) (P := fun c' => ∀ a ∈ c'.agents, a.told = false → a ∈ c.agents)
  · intro c₁ c₂ h hstep
    cases hstep with
    | quiet hq =>
      rw [hq.agents]
      exact h
    | touch | pass => exact h
    | launch hs | enlist hs | refuse hs =>
      rw [he] at hs
      cases hs
    | withdraw =>
      rw [withdrawn_eq]
      exact h
    | halt =>
      intro a ha hat
      obtain ⟨b, hb, rfl⟩ := List.mem_map.1 ha
      -- whoever was told now has nothing to do
      split at hat
      · cases hat
      · next hepoch =>
        rw [if_neg hepoch]
        exact h b hb hat
    | turn _ _ ht =>
      rw [hturn] at ht
      cases ht
  · exact fun a ha _ => ha

/-- What an event other than a turn does to the agents. -/
theorem enrols_perform (hturn : e.isTurn = false) : c.Enrols (c.perform e) (c.given e) := by
  by_cases hallow : c.allows e = true
  · have hperform : c.perform e = c.undergo e := if_pos hallow
    have hgiven : c.given e = if c.phase = .notStarted then c.offers e else none := by
      unfold given
      simp only [hallow, true_and]
    cases e with
    | start =>
      rw [hperform, hgiven]
      exact c.enrols_startValue _
    | startWith params =>
      cases params with
      | error error =>
        rw [hperform, given_eq_none rfl]
        exact .of_agents rfl
      | ok value =>
        rw [hperform, hgiven]
        exact c.enrols_startValue _
    | subscribe operation =>
      rw [hperform, hgiven]
      exact c.enrols_subscribe operation
    | turn => cases hturn
    | _ =>
      rw [given_eq_none rfl]
      exact .stays (agents_of_calm rfl hturn)
  · have hperform : c.perform e = c := if_neg hallow
    have hgiven : c.given e = none := if_neg fun h => hallow h.1
    rw [hperform, hgiven]
    exact .of_agents rfl

/-- A turn gives nothing. -/
theorem given_of_isTurn (hturn : e.isTurn = true) : c.given e = none := by
  obtain ⟨place, rfl⟩ := Event.eq_turn_of_isTurn hturn
  exact given_eq_none rfl

/-- After a turn whoever has something to do has the parameters of one who had. -/
theorem params_of_turn (hc : c.Coherent) (hturn : e.isTurn = true) {b : Agent}
    (hb : b ∈ (c.perform e).agents) (hbt : b.told = false) :
    ∃ a ∈ c.agents, a.told = false ∧ a.params = b.params := by
  rcases c.perform_cases hturn with heq | ⟨pre, a, post, o, board, hagents, ht, heq⟩
  · rw [heq] at hb
    exact ⟨b, hb, hbt, rfl⟩
  · rw [heq] at hb
    have hmem := mem_of_split hagents
    have hmove := (hc.agents a hmem).move ht
    rcases mem_turned.1 hb with hb | hb
    · exact ⟨b, mem_of_other hagents hb, hbt, rfl⟩
    · refine ⟨a, hmem, ?_, (hmove.params b hb).symm⟩
      cases hat : a.told with
      | false => rfl
      | true =>
        -- who was told to stop is gone after its turn
        have hgone := (hmove.of_told hat).1
        rw [hb] at hgone
        cases hgone

/-- Whoever has something to do has the parameters that were given last. -/
theorem params_run (settings : Settings) (transport : Transport) {newId : Nat → String}
    (hid : Function.Injective newId) (es : List Event) :
    ∀ a ∈ ((create settings transport newId).run es).agents, a.told = false →
      (create settings transport newId).givenLast es = some a.params := by
  induction es using List.reverseRecOn with
  | nil => exact fun a ha => absurd ha List.not_mem_nil
  | append_singleton es e ih =>
    have hc := coherent_run settings transport hid es
    intro b hb hbt
    rw [run_append] at hb
    rw [givenLast_concat]
    cases hturn : e.isTurn with
    | true =>
      rw [given_of_isTurn hturn]
      obtain ⟨a, ha, hat, hparams⟩ := params_of_turn hc hturn hb hbt
      rw [← hparams]
      exact ih a ha hat
    | false =>
      cases hgiven : ((create settings transport newId).run es).given e with
      | none =>
        have henrols := enrols_perform (c := (create settings transport newId).run es) hturn
        rw [hgiven] at henrols
        cases henrols with
        | stays hagents => exact ih b (hagents b hb hbt) hbt
      | some params =>
        have henrols := enrols_perform (c := (create settings transport newId).run es) hturn
        rw [hgiven] at henrols
        cases henrols with
        | joins hp hagents =>
          have hb : b ∈ _ ++ _ := hagents ▸ hb
          rcases List.mem_append.1 hb with hb | hb
          · -- before the session began nobody had anything to do
            exact absurd hp ((hc.agents b hb).started hbt)
          · rw [List.mem_singleton.1 hb]
            rfl

/-! ## How a socket is greeted -/

/-- What was said to a socket that opened in a run: first the greeting, with the parameters given
last before the socket opened, and no greeting again. -/
inductive Greeted (c : Client) (es : List Event) (k : Nat) : Prop
  | greeted {before after : List Event} {e : Event} {params : Option Json.Members}
      {arrived failed : Bool} {rest : List Notice} (hsplit : es = before ++ e :: after)
      (hclosed : (c.run before).board.dealings k = [])
      (hopened : (c.run (before ++ [e])).board.dealings k ≠ [])
      (hgiven : c.givenLast before = some params)
      (hfirst : (c.run es).board.dealings k =
        .opened k :: .sent k (.message (.connectionInit params)) arrived failed :: rest)
      (honce : ∀ notice ∈ rest, notice.greets = false)

/-- More dealings without a greeting change nothing. -/
theorem Greeted.concat {es : List Event} {k : Nat} (h : c.Greeted es k) {news : List Notice}
    (hdealings : (c.run (es ++ [e])).board.dealings k = (c.run es).board.dealings k ++ news)
    (hnews : ∀ notice ∈ news, notice.greets = false) : c.Greeted (es ++ [e]) k := by
  cases h with
  | greeted hsplit hclosed hopened hgiven hfirst honce =>
    rename_i before after first params arrived failed rest
    have hsplit' : es ++ [e] = before ++ first :: (after ++ [e]) := by
      rw [hsplit, List.append_assoc, List.cons_append]
    rw [hfirst] at hdealings
    refine .greeted hsplit' hclosed hopened hgiven hdealings ?_
    · intro notice hnotice
      rcases List.mem_append.1 hnotice with hnotice | hnotice
      · exact honce notice hnotice
      · exact hnews notice hnotice

/-- A socket in use has opened. -/
theorem opened_run (settings : Settings) (transport : Transport) {newId : Nat → String}
    (hid : Function.Injective newId) (es : List Event) :
    ((create settings transport newId).run es).Recorded (fun _ _ record => record ≠ [])
      fun _ _ => True := by
  apply recorded_run settings transport hid es
  intro es' _ a _ k link'? news h hbefore
  generalize a.link? = link? at h hbefore
  cases h with
  | greets => simp [After]
  | snubbed | leaves => trivial
  | pings | sends | hears => exact List.append_ne_nil_of_left_ne_nil hbefore.2 _

/-- In the outgoing queue there are no greetings, nor anywhere else on a socket in use. -/
theorem greets_of_episode (hc : c.Coherent) (hq : c.Queued) {a : Agent} {k : Nat} {link : Link}
    {news : List Notice} {link'? : Option Link} (h : a.Episode c.board k (some link) news link'?) :
    ∀ notice ∈ news, notice.greets = false := by
  intro notice hnotice
  apply Notice.greets_eq_false
  rintro s payload arrived failed rfl
  rcases h.message hnotice with hbeat | ⟨-, -, rest, hout⟩
  · cases hbeat
  · -- what is queued is for subscriptions
    have hnamed := named_of_outgoing hc hq hout (List.mem_cons_self ..)
    cases hnamed

/-- Every socket that opens is greeted first, and once, with the parameters given last. -/
theorem greeted_run (settings : Settings) (transport : Transport) {newId : Nat → String}
    (hid : Function.Injective newId) (es : List Event) (k : Nat)
    (hk : ((create settings transport newId).run es).board.dealings k ≠ []) :
    (create settings transport newId).Greeted es k := by
  induction es using List.reverseRecOn with
  | nil => exact absurd rfl hk
  | append_singleton es e ih =>
    have hc := coherent_run settings transport hid es
    have hlast : (create settings transport newId).run (es ++ [e]) =
        ((create settings transport newId).run es).perform e := run_append ..
    rcases dealings_perform hc e k with hsame | ⟨a, ha, hown, news, link'?, h, hnews⟩
    · rw [← hlast] at hsame
      have hnone := hsame.trans (List.append_nil _).symm
      exact (ih (hsame ▸ hk)).concat hnone fun _ hn => absurd hn List.not_mem_nil
    · rw [← hlast] at hnews
      cases hlink : a.link? with
      | some link =>
        have hopened := (opened_run settings transport hid es).live a ha link hlink
        rw [hown.socket hlink, ne_eq, Switchboard.record_eq_nil] at hopened
        rw [hlink] at h
        exact (ih hopened).concat hnews
          (greets_of_episode hc (queued_run settings transport hid es) h)
      | none =>
        -- the socket opens now
        have hclosed := (orderly_run settings transport hid es).unopened k (hown.next hlink).ge
        rw [hlink] at h
        obtain ⟨hat, arrived, failed, rest, rfl, hrest⟩ := h.opens
        rw [hclosed, List.nil_append] at hnews
        have hsplit : es ++ [e] = es ++ e :: [] := rfl
        refine .greeted hsplit hclosed hk
          (params_run settings transport hid es a ha hat) hnews fun notice hnotice => ?_
        apply Notice.greets_eq_false
        rintro s payload arrived failed rfl
        exact hrest _ _ _ _ hnotice

end Client

end LiveQuery
