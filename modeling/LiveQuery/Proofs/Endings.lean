import LiveQuery.Proofs.Delivery

/-!
# How subscriptions end

Every subscription ends at most once, never silently, and exactly when it leaves the roster
(`Client.ending_of_subscription`). The invariant (`Switchboard.Accounts`) accounts for the channel
of a consumer: what it yielded, what it still holds, whether it has its last item, and whether the
roster feeds it. Turns keep it because deliveries keep to the roster, and calls by cases. A consumer
only ages: what was cancelled stays cancelled, and what was dropped stays dropped
(`Client.ages_run`).
-/

namespace LiveQuery

/-- The item that an answer to a poll hands over. -/
def Item.ofAnswer : Except SubscribeError ExecutionResult → Item
  | .ok result => .next result
  | .error e => .error e

/-- Is an answer an error? -/
def isError : Except SubscribeError ExecutionResult → Bool
  | .ok _ => false
  | .error _ => true

theorem Item.isLast_ofAnswer (answer : Except SubscribeError ExecutionResult) :
    (Item.ofAnswer answer).isLast = isError answer := by
  cases answer <;> rfl

/-- What time may do to a consumer. -/
structure Consumer.Ages (x x' : Consumer) : Prop where
  id : x'.id = x.id
  /-- A cancel is not taken back. -/
  cancelled : x.cancelled = true → x'.cancelled = true
  /-- What was dropped is not taken up again. -/
  listening : x.listening = false → x'.listening = false

namespace Consumer.Ages

variable {x x' x'' : Consumer}

theorem refl (x : Consumer) : x.Ages x := ⟨rfl, fun h => h, fun h => h⟩

theorem trans (h : x.Ages x') (h' : x'.Ages x'') : x.Ages x'' where
  id := h'.id.trans h.id
  cancelled := fun hc => h'.cancelled (h.cancelled hc)
  listening := fun hl => h'.listening (h.listening hl)

theorem feed (x : Consumer) (items : List Item) : x.Ages (x.feed items) where
  id := x.feed_id items
  cancelled := fun h => (x.feed_cancelled items).trans h
  listening := fun h => (x.feed_listening items).trans h

theorem poll (x : Consumer) (fed : Bool) : x.Ages (x.poll fed).2 := by
  obtain ⟨unread, status, hpoll⟩ := x.poll_eq fed
  rw [hpoll]
  exact ⟨rfl, fun h => h, fun h => h⟩

theorem settle (x : Consumer) : x.Ages x.settleCancelled := by
  obtain ⟨status, hsettle⟩ := x.settleCancelled_eq
  rw [hsettle]
  exact ⟨rfl, fun h => h, fun h => h⟩

theorem drop (x : Consumer) : x.Ages x.drop := ⟨rfl, fun h => h, fun _ => rfl⟩

theorem mark (x : Consumer) : x.Ages x.markCancelled := ⟨rfl, fun _ => rfl, fun h => h⟩

end Consumer.Ages

namespace Client

/-- What a subscription yields in an event. -/
def yielded (c : Client) (n : Nat) : Event → List (Except SubscribeError ExecutionResult)
  | .poll m =>
    if m = n ∧ c.board.listening n = true then
      match (c.poll n).1 with
      | .ready answer => [answer]
      | _ => []
    else []
  | _ => []

/-- What a subscription yields along a run. -/
def yields (c : Client) (n : Nat) : List Event → List (Except SubscribeError ExecutionResult)
  | [] => []
  | e :: es => c.yielded n e ++ (c.perform e).yields n es

end Client

namespace Switchboard

/-- The channel of a consumer accounts for what it yielded and for its place in the roster. -/
structure Accounts (sb : Switchboard) (n : Nat) (x : Consumer)
    (yields : List (Except SubscribeError ExecutionResult)) : Prop where
  /-- Nothing follows a last item. -/
  shape : ∀ item ∈ (sb.channel n).dropLast, item.isLast = false
  /-- Who is fed has no last item yet. -/
  fed : sb.session.roster.feeds n = true → ∀ item ∈ sb.channel n, item.isLast = false
  /-- Who listens, was not cancelled and has no last item yet is fed. -/
  listed : x.listening = true → x.cancelled = false →
    (∀ item ∈ sb.channel n, item.isLast = false) → sb.session.roster.feeds n = true
  completed : Item.complete ∈ sb.channel n → sb.Completed x.id
  taken : x.listening = true → sb.channel n = yields.map Item.ofAnswer ++
    (if x.status = .completed then [.complete] else []) ++ x.unread
  going : x.status = .subscribed → ∀ answer ∈ yields, isError answer = false
  errored : x.status = .errored → ∃ answer ∈ yields, isError answer = true
  cancelled : x.status = .cancelled → x.cancelled = true

namespace Accounts

variable {sb sb' : Switchboard} {n : Nat} {x : Consumer}
  {yields : List (Except SubscribeError ExecutionResult)}

theorem Completed.mono (h : sb.Completed x.id) (hj : ∀ entry ∈ sb.journal, entry ∈ sb'.journal) :
    sb'.Completed x.id := by
  obtain ⟨entry, he, hk⟩ := h
  exact ⟨entry, hj entry he, hk⟩

/-- A delivery is accounted for. -/
theorem delivery (h : sb.Accounts n x yields) (hx : sb.consumers[n]? = some x)
    {items : List Item} (hd : sb.Delivery sb' n items) :
    sb'.Accounts n (x.feed items) yields := by
  have hlistening : sb.listening n = x.listening := by
    rw [listening_eq, hx]
    rfl
  have hchannel := hd.channel
  rw [hlistening] at hchannel
  constructor
  case shape =>
    intro item hitem
    rw [hchannel] at hitem
    cases hl : x.listening with
    | false =>
      rw [hl, if_neg Bool.false_ne_true, List.append_nil] at hitem
      exact h.shape item hitem
    | true =>
      rw [hl, if_pos rfl] at hitem
      -- what a consumer gets comes one at a time, and only while it is fed
      by_cases hnil : items = []
      · rw [hnil, List.append_nil] at hitem
        exact h.shape item hitem
      · have hfed := hd.roster.fed hnil
        obtain ⟨new, rfl⟩ := hd.roster.eq_singleton hnil
        rw [List.dropLast_concat] at hitem
        exact h.fed hfed item hitem
  case fed =>
    intro hfed item hitem
    rw [hchannel, List.mem_append] at hitem
    rcases hitem with hitem | hitem
    · exact h.fed (hd.roster.kept hfed) item hitem
    · split at hitem
      · exact hd.roster.last hfed item hitem
      · cases hitem
  case listed =>
    intro hl hc hnone
    rw [Consumer.feed_listening] at hl
    rw [Consumer.feed_cancelled] at hc
    rw [hchannel, if_pos hl] at hnone
    have hfed := h.listed hl hc fun item hitem => hnone item (List.mem_append_left _ hitem)
    by_contra hgone
    obtain ⟨item, hitem, hlast⟩ :=
      hd.roster.silent (hlistening.trans hl) hfed (Bool.eq_false_iff.2 hgone)
    rw [hnone item (List.mem_append_right _ hitem)] at hlast
    cases hlast
  case completed =>
    intro hitem
    rw [Consumer.feed_id]
    rw [hchannel, List.mem_append] at hitem
    rcases hitem with hitem | hitem
    · exact Completed.mono (h.completed hitem) hd.journal
    · split at hitem
      · exact hd.completed hitem x hx
      · cases hitem
  case taken =>
    intro hl
    rw [Consumer.feed_listening] at hl
    rw [hchannel, if_pos hl, h.taken hl, Consumer.feed_status, Consumer.feed_unread hl]
    exact List.append_assoc ..
  case going =>
    rw [Consumer.feed_status]
    exact h.going
  case errored =>
    rw [Consumer.feed_status]
    exact h.errored
  case cancelled =>
    rw [Consumer.feed_status, Consumer.feed_cancelled]
    exact h.cancelled

/-- The consumer drops the subscription. -/
theorem drop (h : sb.Accounts n x yields) : sb.Accounts n x.drop yields :=
  ⟨h.shape, h.fed, fun hl => Bool.noConfusion hl, h.completed, fun hl => Bool.noConfusion hl,
    h.going,
    h.errored, h.cancelled⟩

/-- The status of a cancelled subscription is settled. -/
theorem settle (h : sb.Accounts n x yields) (hc : x.cancelled = true) :
    sb.Accounts n x.settleCancelled yields := by
  unfold Consumer.settleCancelled
  split
  · next hs =>
    refine ⟨h.shape, h.fed, h.listed, h.completed, fun hl => ?_, fun hs => Status.noConfusion hs,
      fun hs => Status.noConfusion hs, fun _ => hc⟩
    have htaken := h.taken hl
    rw [hs] at htaken
    exact htaken
  · exact h

/-- The mark of a cancel. -/
theorem mark (h : sb.Accounts n x yields) : sb.Accounts n x.markCancelled yields :=
  ⟨h.shape, h.fed, fun _ hc => Bool.noConfusion hc, h.completed, h.taken, h.going, h.errored,
    fun _ => rfl⟩

/-- Nothing is put for the consumer, and its entry goes only if it was cancelled or dropped. -/
theorem mono (h : sb.Accounts n x yields) (hchannel : sb'.channel n = sb.channel n)
    (hkept : sb'.session.roster.feeds n = true → sb.session.roster.feeds n = true)
    (hstill : x.listening = true → x.cancelled = false →
      sb.session.roster.feeds n = true → sb'.session.roster.feeds n = true)
    (hjournal : ∀ entry ∈ sb.journal, entry ∈ sb'.journal) : sb'.Accounts n x yields := by
  constructor
  case shape =>
    rw [hchannel]
    exact h.shape
  case fed =>
    intro hf
    rw [hchannel]
    exact h.fed (hkept hf)
  case listed =>
    intro hl hc hnone
    rw [hchannel] at hnone
    exact hstill hl hc (h.listed hl hc hnone)
  case completed =>
    intro hitem
    rw [hchannel] at hitem
    exact Completed.mono (h.completed hitem) hjournal
  case taken =>
    rw [hchannel]
    exact h.taken
  case going => exact h.going
  case errored => exact h.errored
  case cancelled => exact h.cancelled

/-- A subscription that was just taken on is fed, and has nothing yet. -/
theorem fresh (id : String) (hchannel : sb.channel n = [])
    (hfed : sb.session.roster.feeds n = true) : sb.Accounts n { id } [] := by
  have hnone {item : Item} (hitem : item ∈ sb.channel n) : False := by
    rw [hchannel] at hitem
    cases hitem
  constructor
  case shape => exact fun _ hitem => (hnone (List.dropLast_subset _ hitem)).elim
  case fed => exact fun _ _ hitem => (hnone hitem).elim
  case listed => exact fun _ _ _ => hfed
  case completed => exact fun hitem => (hnone hitem).elim
  case taken => exact fun _ => hchannel
  case going => exact fun _ _ hanswer => absurd hanswer List.not_mem_nil
  case errored => exact fun hs => Status.noConfusion hs
  case cancelled => exact fun hs => Status.noConfusion hs

/-- A subscription that was refused has its error, and nobody feeds it. -/
theorem refused (id : String) (error : SubscribeError) (hchannel : sb.channel n = [.error error])
    (hunfed : sb.session.roster.feeds n ≠ true) : sb.Accounts n (.refused id error) [] := by
  constructor
  case shape =>
    rw [hchannel]
    exact fun _ hitem => absurd hitem List.not_mem_nil
  case fed => exact fun hf => absurd hf hunfed
  case listed =>
    intro _ _ hnone
    rw [hchannel] at hnone
    exact Bool.noConfusion (hnone _ (List.mem_singleton_self _))
  case completed =>
    rw [hchannel]
    intro hitem
    cases List.mem_singleton.1 hitem
  case taken => exact fun _ => hchannel
  case going => exact fun _ _ hanswer => absurd hanswer List.not_mem_nil
  case errored => exact fun hs => Status.noConfusion hs
  case cancelled => exact fun hs => Status.noConfusion hs

/-- A consumer that goes on and has read everything is fed. -/
theorem fed_of_unread_nil (h : sb.Accounts n x yields) (hl : x.listening = true)
    (hc : x.cancelled = false) (hs : x.status = .subscribed) (hunread : x.unread = []) :
    sb.session.roster.feeds n = true := by
  refine h.listed hl hc fun item hitem => ?_
  -- all that was put was yielded, and there is no error among it
  rw [h.taken hl, hs, if_neg Status.noConfusion, hunread, List.append_nil,
    List.append_nil] at hitem
  obtain ⟨answer, hanswer, rfl⟩ := List.mem_map.1 hitem
  rw [Item.isLast_ofAnswer]
  exact h.going hs answer hanswer

/-- What a poll takes is accounted for. -/
theorem poll (h : sb.Accounts n x yields) (hl : x.listening = true) :
    sb.Accounts n (x.poll (sb.session.roster.feeds n)).2
      (yields ++ match (x.poll (sb.session.roster.feeds n)).1 with
        | .ready answer => [answer]
        | _ => []) := by
  have htaken := h.taken hl
  unfold Consumer.poll
  split
  · rw [List.append_nil]
    exact h
  · next hsubscribed =>
    have hs : x.status = .subscribed := not_not.1 hsubscribed
    rw [hs, if_neg Status.noConfusion, List.append_nil] at htaken
    split
    · next hc =>
      rw [List.append_nil]
      refine ⟨h.shape, h.fed, h.listed, h.completed, fun _ => ?_, fun hs => Status.noConfusion hs,
        fun hs => Status.noConfusion hs, fun _ => hc⟩
      rw [htaken, if_neg Status.noConfusion, List.append_nil]
    · next hc =>
      split
      · next result rest hunread =>
        rw [hunread] at htaken
        refine ⟨h.shape, h.fed, h.listed, h.completed, fun _ => ?_, fun _ => ?_, ?_, ?_⟩
        · rw [htaken, hs, if_neg Status.noConfusion, List.append_nil, List.map_append,
            List.append_assoc]
          rfl
        · intro answer hanswer
          rcases List.mem_append.1 hanswer with hanswer | hanswer
          · exact h.going hs answer hanswer
          · rw [List.mem_singleton.1 hanswer]
            rfl
        · rw [hs]
          exact fun hs => Status.noConfusion hs
        · rw [hs]
          exact fun hs => Status.noConfusion hs
      · next error rest hunread =>
        rw [hunread] at htaken
        refine ⟨h.shape, h.fed, h.listed, h.completed, fun _ => ?_, fun hs => Status.noConfusion hs,
          fun _ => ?_, fun hs => Status.noConfusion hs⟩
        · rw [htaken, if_neg Status.noConfusion, List.append_nil, List.map_append,
            List.append_assoc]
          rfl
        · exact ⟨.error error, List.mem_append_right _ (List.mem_singleton_self _), rfl⟩
      · next rest hunread =>
        rw [hunread] at htaken
        refine ⟨h.shape, h.fed, h.listed, h.completed, fun _ => ?_, fun hs => Status.noConfusion hs,
          fun hs => Status.noConfusion hs, fun hs => Status.noConfusion hs⟩
        rw [htaken, if_pos rfl, List.append_nil, List.append_assoc]
        rfl
      · next hunread =>
        split
        · rw [List.append_nil]
          exact h
        · next hunfed =>
          have hfed := h.fed_of_unread_nil hl (Bool.eq_false_iff.2 hc) hs hunread
          exact absurd hfed hunfed

/-! ## What the accounts say -/

theorem results_of_not_last {items : List Item} (h : ∀ item ∈ items, item.isLast = false) :
    ∃ results : List ExecutionResult, items = results.map Item.next := by
  induction items with
  | nil => exact ⟨[], rfl⟩
  | cons item rest ih =>
    obtain ⟨results, rfl⟩ := ih fun i hi => h i (List.mem_cons_of_mem _ hi)
    cases item with
    | next result => exact ⟨result :: results, rfl⟩
    | error error => cases h _ (List.mem_cons_self ..)
    | complete => cases h _ (List.mem_cons_self ..)

/-- A channel holds results and at most one last item behind them. -/
theorem channel_eq (h : sb.Accounts n x yields) :
    ∃ (results : List ExecutionResult) (ending : List Item),
      sb.channel n = results.map Item.next ++ ending ∧
        (ending = [] ∨ ∃ item : Item, item.isLast = true ∧ ending = [item]) := by
  have hshape := h.shape
  rcases List.eq_nil_or_concat (sb.channel n) with hnil | ⟨front, item, hconcat⟩
  · exact ⟨[], [], by rw [hnil]; rfl, Or.inl rfl⟩
  · rw [List.concat_eq_append] at hconcat
    rw [hconcat, List.dropLast_concat] at hshape
    obtain ⟨results, rfl⟩ := results_of_not_last hshape
    cases item with
    | next result =>
      exact ⟨results ++ [result], [], by rw [hconcat]; simp, Or.inl rfl⟩
    | error error => exact ⟨results, _, hconcat, Or.inr ⟨_, rfl, rfl⟩⟩
    | complete => exact ⟨results, _, hconcat, Or.inr ⟨_, rfl, rfl⟩⟩

theorem countP_isError (yields : List (Except SubscribeError ExecutionResult)) :
    (yields.map Item.ofAnswer).countP Item.isLast = yields.countP isError := by
  rw [List.countP_map]
  exact List.countP_congr fun answer _ => by rw [Function.comp, Item.isLast_ofAnswer]

/-- There is at most one last item. -/
theorem countP_isLast (h : sb.Accounts n x yields) : (sb.channel n).countP Item.isLast ≤ 1 := by
  obtain ⟨results, ending, hchannel, hending⟩ := h.channel_eq
  have hresults : (results.map Item.next).countP Item.isLast = 0 := by
    rw [List.countP_map, List.countP_eq_zero]
    exact fun _ _ => Bool.false_ne_true
  rw [hchannel, List.countP_append, hresults, Nat.zero_add]
  rcases hending with rfl | ⟨item, -, rfl⟩
  · exact Nat.zero_le _
  · exact List.countP_le_length

/-- Without a cancel, a stream has ended because of the server's completion or of one error. -/
theorem ended (h : sb.Accounts n x yields) (hl : x.listening = true)
    (hc : x.cancelled = false)
    (hended : (x.poll (sb.session.roster.feeds n)).1 = .ended) :
    (sb.Completed x.id ∧ yields.countP isError = 0) ∨ yields.countP isError = 1 := by
  have htaken := h.taken hl
  have hcount := h.countP_isLast
  have hgoing (hs : x.status = .subscribed) : yields.countP isError = 0 :=
    List.countP_eq_zero.2 fun answer hanswer => by simp [h.going hs answer hanswer]
  cases hs : x.status with
  | completed =>
    rw [hs, if_pos rfl] at htaken
    rw [htaken, List.countP_append, List.countP_append, countP_isError] at hcount
    refine Or.inl ⟨h.completed ?_, ?_⟩
    · rw [htaken]
      simp
    · have hone : [Item.complete].countP Item.isLast = 1 := rfl
      omega
  | errored =>
    rw [htaken, List.countP_append, List.countP_append, countP_isError] at hcount
    have hpos : 0 < yields.countP isError := List.countP_pos_iff.2 (h.errored hs)
    exact Or.inr (by omega)
  | cancelled =>
    have hmark := h.cancelled hs
    rw [hc] at hmark
    cases hmark
  | subscribed =>
    rw [hs, if_neg Status.noConfusion, List.append_nil] at htaken
    unfold Consumer.poll at hended
    rw [hs, if_neg (not_not.2 rfl), hc, if_neg Bool.false_ne_true] at hended
    split at hended
    · cases hended
    · cases hended
    · next rest hunread =>
      refine Or.inl ⟨h.completed ?_, hgoing hs⟩
      rw [htaken, hunread]
      simp
    · next hunread =>
      split at hended
      · cases hended
      · next hunfed => exact absurd (h.fed_of_unread_nil hl hc hs hunread) hunfed

end Accounts

end Switchboard

namespace Client

variable {c c' : Client} {e : Event} {n : Nat}
  {yields : List (Except SubscribeError ExecutionResult)}

/-- The consumer of a number is accounted for; nothing was put before it was there. -/
structure Accounted (c : Client) (n : Nat)
    (yields : List (Except SubscribeError ExecutionResult)) : Prop where
  unborn : c.board.consumers[n]? = none → c.board.channel n = [] ∧ yields = []
  accounts : ∀ x, c.board.consumers[n]? = some x → c.board.Accounts n x yields

namespace Accounted

theorem delivery (h : c.Accounted n yields) {items : List Item}
    (hd : c.board.Delivery c'.board n items) : c'.Accounted n yields := by
  constructor
  · intro hnone
    rw [hd.consumers, Option.map_eq_none_iff] at hnone
    obtain ⟨hchannel, hyields⟩ := h.unborn hnone
    refine ⟨?_, hyields⟩
    have hl : c.board.listening n = false := by
      rw [Switchboard.listening_eq, hnone]
      rfl
    rw [hd.channel, hchannel, hl]
    rfl
  · intro y hy
    rw [hd.consumers] at hy
    obtain ⟨x, hx, rfl⟩ := Option.map_eq_some_iff.1 hy
    exact (h.accounts x hx).delivery hx hd

/-- What is done to a consumer that keeps its channel and its entry. -/
theorem modify (h : c.Accounted n yields) (m : Nat) {f : Consumer → Consumer}
    {after : List (Except SubscribeError ExecutionResult)}
    (hunborn : c.board.consumers[n]? = none → after = [])
    (hown : ∀ x, m = n → c.board.consumers[n]? = some x → c.board.Accounts n x yields →
      c.board.Accounts n (f x) after)
    (hother : m ≠ n → after = yields) : (c.modifyConsumer m f).Accounted n after := by
  have hget : (c.modifyConsumer m f).board.consumers[n]? =
      c.board.consumers[n]?.map fun x => if m = n then f x else x := List.getElem?_modify ..
  constructor
  · intro hnone
    rw [hget, Option.map_eq_none_iff] at hnone
    exact ⟨(h.unborn hnone).1, hunborn hnone⟩
  · intro y hy
    rw [hget] at hy
    obtain ⟨x, hx, rfl⟩ := Option.map_eq_some_iff.1 hy
    have hsame {y : Consumer} (hy : c.board.Accounts n y after) :
        (c.modifyConsumer m f).board.Accounts n y after :=
      hy.mono rfl (fun hf => hf) (fun _ _ hf => hf) fun _ he => he
    by_cases hmn : m = n
    · rw [if_pos hmn]
      exact hsame (hown x hmn hx (h.accounts x hx))
    · rw [if_neg hmn]
      refine hsame ?_
      rw [hother hmn]
      exact h.accounts x hx

/-- A consumer joins. -/
theorem join (h : c.Accounted n yields) {new : Consumer}
    (hconsumers : c'.board.consumers = c.board.consumers ++ [new])
    (hold : ∀ x, c.board.consumers[n]? = some x → c.board.Accounts n x yields →
      c'.board.Accounts n x yields)
    (hnew : n = c.board.consumers.length → c.board.channel n = [] → c'.board.Accounts n new [])
    (hchannel : n ≠ c.board.consumers.length → c'.board.channel n = c.board.channel n) :
    c'.Accounted n yields := by
  constructor
  · intro hnone
    rw [hconsumers] at hnone
    have hlen : c.board.consumers.length + 1 ≤ n := by simpa using hnone
    obtain ⟨hempty, hyields⟩ := h.unborn (List.getElem?_eq_none (by omega))
    exact ⟨(hchannel (by omega)).trans hempty, hyields⟩
  · intro x hx
    rw [hconsumers] at hx
    rcases Nat.lt_trichotomy n c.board.consumers.length with hlt | heq | hgt
    · rw [List.getElem?_append_left hlt] at hx
      exact hold x hx (h.accounts x hx)
    · obtain ⟨hempty, rfl⟩ := h.unborn (List.getElem?_eq_none heq.ge)
      rw [heq, List.getElem?_concat_length] at hx
      obtain rfl := Option.some.inj hx
      exact hnew heq hempty
    · rw [List.getElem?_eq_none (by simp; omega)] at hx
      cases hx

theorem enlist (h : c.Accounted n yields) (hc : c.Coherent) (operation : Operation) :
    (c.enlisted operation).Accounted n yields := by
  generalize hsb : ({ c.board with
    consumers := c.board.consumers ++ [{ id := c.newId c.board.consumers.length }] } :
      Switchboard) = sb
  have hroster : (c.enlisted operation).board.session.roster =
      (c.board.session.roster.prune sb.listening).2.insert
        (c.newId c.board.consumers.length) operation c.board.consumers.length := by
    rw [← hsb]
    unfold enlisted
    dsimp only
    rw [Switchboard.withSession_session, Session.subscribe_roster]
  have hchannel : (c.enlisted operation).board.channel n = c.board.channel n :=
    Switchboard.withSession_channel ..
  have hjournal : ∀ entry ∈ c.board.journal, entry ∈ (c.enlisted operation).board.journal :=
    fun _ he => Switchboard.mem_withSession { c.board with consumers := _ } _ he
  refine h.join (Switchboard.withSession_consumers ..) (fun x hx hx' => ?_) (fun hn hempty => ?_)
    fun _ => hchannel
  · have hlt := (List.getElem?_eq_some_iff.1 hx).1
    refine hx'.mono hchannel (fun hf => ?_) (fun hl _ hf => ?_) hjournal
    · rw [hroster] at hf
      obtain ⟨entry, he, hen⟩ := Roster.feeds_iff.1 hf
      rcases Roster.mem_insert.1 he with rfl | ⟨he, -⟩
      · dsimp only at hen
        omega
      · exact Roster.feeds_iff.2 ⟨entry, (Roster.mem_prune.1 he).1, hen⟩
    · obtain ⟨entry, he, hen⟩ := Roster.feeds_iff.1 hf
      have hlistening : sb.listening entry.consumer = true := by
        have hget : (c.board.consumers ++
            [{ id := c.newId c.board.consumers.length }])[n]? = some x :=
          (List.getElem?_append_left hlt).trans hx
        rw [Switchboard.listening_eq, hen, ← hsb, hget]
        exact hl
      have hne : entry.id ≠ c.newId c.board.consumers.length := fun heq =>
        hc.next_not_mem (heq ▸ Roster.ids_of_mem he)
      rw [hroster]
      exact Roster.feeds_iff.2
        ⟨entry, Roster.mem_insert.2 (Or.inr ⟨Roster.mem_prune.2 ⟨he, hlistening⟩, hne⟩), hen⟩
  · refine .fresh _ (hchannel.trans hempty) ?_
    rw [hroster, hn]
    exact Roster.feeds_iff.2 ⟨_, Roster.mem_insert.2 (Or.inl rfl), rfl⟩

theorem refuse (h : c.Accounted n yields) (hc : c.Coherent) (error : SubscribeError) :
    (c.addRefused (c.newId c.board.consumers.length) error).2.Accounted n yields := by
  generalize hc' : (c.addRefused (c.newId c.board.consumers.length) error).2 = c'
  have hroster : c'.board.session.roster = c.board.session.roster := by rw [← hc']; rfl
  have hjournal : c'.board.journal =
      ⟨c.board.now, .delivered c.board.consumers.length (.error error)⟩ :: c.board.journal := by
    rw [← hc']
    rfl
  have hchannel : c'.board.channel n = c.board.channel n ++
      if c.board.consumers.length = n then [.error error] else [] := by
    rw [← hc']
    refine (Switchboard.note_channel ..).trans ?_
    unfold Notice.item?
    dsimp only
    split <;> rfl
  refine h.join (by rw [← hc']; rfl) (fun x hx hx' => ?_) (fun hn hempty => ?_) fun hn => ?_
  · have hlt := (List.getElem?_eq_some_iff.1 hx).1
    rw [if_neg (by omega), List.append_nil] at hchannel
    refine hx'.mono hchannel (fun hf => ?_) (fun _ _ hf => ?_) fun entry he => ?_
    · rwa [hroster] at hf
    · rwa [hroster]
    · rw [hjournal]
      exact List.mem_cons_of_mem _ he
  · rw [if_pos hn.symm, hempty, List.nil_append] at hchannel
    -- nobody feeds a consumer that was refused
    have hunfed : c'.board.session.roster.feeds n ≠ true := by
      rw [hroster]
      intro hf
      obtain ⟨entry, he, hen⟩ := Roster.feeds_iff.1 hf
      have hlt := (hc.id_of_entry he).2
      omega
    exact .refused _ error hchannel hunfed
  · rw [if_neg (Ne.symm hn), List.append_nil] at hchannel
    exact hchannel

theorem withdraw (h : c.Accounted n yields) (hc : c.Coherent) {m : Nat} {y : Consumer}
    (hy : c.board.consumers[m]? = some y) : (c.withdrawn m y).Accounted n yields := by
  have hmarked : (c.modifyConsumer m Consumer.markCancelled).Accounted n yields :=
    h.modify m (fun hnone => (h.unborn hnone).2) (fun _ _ _ hx => hx.mark) fun _ => rfl
  have hchannel : (c.withdrawn m y).board.channel n = c.board.channel n := by
    rw [withdrawn_eq]
    exact Switchboard.withSession_channel ..
  have hjournal : ∀ entry ∈ c.board.journal, entry ∈ (c.withdrawn m y).board.journal := by
    rw [withdrawn_eq]
    exact fun _ he => Switchboard.mem_withSession { c.board with consumers := _ } _ he
  constructor
  · intro hnone
    rw [withdrawn_consumers] at hnone
    rw [hchannel]
    exact hmarked.unborn hnone
  · intro x hx
    rw [withdrawn_consumers] at hx
    refine (hmarked.accounts x hx).mono hchannel (fun hf => ?_) (fun hl hcancelled hf => ?_)
      hjournal
    · rw [withdrawn_session] at hf
      obtain ⟨entry, he, hen⟩ := Roster.feeds_iff.1 hf
      exact Roster.feeds_iff.2 ⟨entry, c.board.session.mem_withdraw y he, hen⟩
    · obtain ⟨entry, he, hen⟩ := Roster.feeds_iff.1 hf
      -- the entry that goes is that of the consumer that is marked
      have hne : entry.id ≠ y.id := by
        rw [(hc.id_of_entry he).1, hc.named m y hy, hen]
        intro heq
        obtain rfl := hc.fresh heq
        rw [List.getElem?_modify_eq, hy] at hx
        obtain rfl := Option.some.inj hx
        cases hcancelled
      rw [withdrawn_session]
      exact Roster.feeds_iff.2 ⟨entry, c.board.session.mem_withdraw_of_ne y he hne, hen⟩

theorem halt (h : c.Accounted n yields) (hc : c.Coherent) (hp : c.phase ≠ .notStarted) :
    c.halted.Accounted n yields := by
  obtain ⟨items, hd, -, -⟩ := delivery_halt hc hp n
  exact h.delivery hd

/-- Every step of an event that is no poll keeps the accounts. -/
theorem step (h : c.Accounted n yields) (hc : c.Coherent) (hpoll : ∀ m, e ≠ .poll m)
    (hstep : Step e c c') : c'.Accounted n yields := by
  cases hstep with
  | quiet hq => exact h.delivery ((undelivered_of_quiet hq).delivery n)
  | touch ht =>
    refine h.modify _ (fun hnone => (h.unborn hnone).2) (fun x hmn hx hx' => ?_) fun _ => rfl
    cases ht with
    | poll => exact absurd rfl (hpoll _)
    | drop => exact hx'.drop
    | settle hcancelled =>
      subst hmn
      exact hx'.settle (hcancelled x hx)
  | launch he hp params held => exact h.delivery ((undelivered_launch params held).delivery n)
  | enlist he hp operation => exact h.enlist hc operation
  | refuse he error => exact h.refuse hc error
  | withdraw he hx hcancelled => exact h.withdraw hc hx
  | halt hp => exact h.halt hc hp
  | turn hagents ht =>
    have hmem := mem_of_split hagents
    obtain ⟨items, hd, -⟩ := ((hc.agents _ hmem).move ht).delivery hc n
    exact h.delivery hd
  | pass he =>
    have hundelivered : c.board.Undelivered c.pass.board :=
      ⟨rfl, rfl, fun _ => rfl, fun _ he => he⟩
    exact h.delivery (hundelivered.delivery n)

/-- What a poll yields is accounted for. -/
theorem perform_poll (h : c.Accounted n yields) (m : Nat) :
    (c.perform (.poll m)).Accounted n (yields ++ c.yielded n (.poll m)) := by
  unfold perform
  split
  · next hl =>
    rw [undergo, poll_eq_modify]
    refine h.modify m (fun hnone => ?_) (fun x hmn hx hx' => ?_) fun hmn => ?_
    · have hidle : c.yielded n (.poll m) = [] := by
        unfold yielded
        dsimp only
        rw [if_neg]
        rintro ⟨-, hlistening⟩
        rw [Switchboard.listening_eq, hnone] at hlistening
        cases hlistening
      rw [(h.unborn hnone).2, hidle]
      rfl
    · subst hmn
      have hlistening : x.listening = true := by
        have hboard : c.board.listening m = true := hl
        rwa [Switchboard.listening_eq, hx] at hboard
      have hyielded : c.yielded m (.poll m) =
          match (x.poll (c.board.session.roster.feeds m)).1 with
          | .ready answer => [answer]
          | _ => [] := by
        have hboard : c.board.listening m = true := hl
        unfold yielded poll consumer?
        simp only [hboard, hx, and_self, if_true]
      rw [hyielded]
      exact hx'.poll hlistening
    · unfold yielded
      dsimp only
      rw [if_neg fun hboth => hmn hboth.1, List.append_nil]
  · next hl =>
    have hidle : c.yielded n (.poll m) = [] := by
      unfold yielded
      dsimp only
      rw [if_neg]
      rintro ⟨rfl, hlistening⟩
      exact hl hlistening
    rw [hidle, List.append_nil]
    exact h

theorem perform (h : c.Accounted n yields) (hc : c.Coherent) (e : Event) :
    (c.perform e).Accounted n (yields ++ c.yielded n e) := by
  by_cases hpoll : ∃ m, e = .poll m
  · obtain ⟨m, rfl⟩ := hpoll
    exact h.perform_poll m
  · have hidle : c.yielded n e = [] := by
      cases e with
      | poll m => exact absurd ⟨m, rfl⟩ hpoll
      | _ => rfl
    rw [hidle, List.append_nil]
    have hboth := perform_induction (P := fun c => c.Coherent ∧ c.Accounted n yields)
      (fun c c' hc hstep => ⟨hc.1.step hstep, hc.2.step hc.1 (fun m hm => hpoll ⟨m, hm⟩) hstep⟩)
      ⟨hc, h⟩
    exact hboth.2

theorem run (h : c.Accounted n yields) (hc : c.Coherent) (es : List Event) :
    (c.run es).Accounted n (yields ++ c.yields n es) := by
  induction es generalizing c yields with
  | nil =>
    rw [Client.yields, List.append_nil]
    exact h
  | cons e es ih =>
    rw [Client.yields, ← List.append_assoc]
    exact ih (h.perform hc e) (hc.perform e)

end Accounted

/-- After every run every consumer is accounted for. -/
theorem accounted_run (settings : Settings) (transport : Transport) {newId : Nat → String}
    (hid : Function.Injective newId) (es : List Event) (n : Nat) :
    ((create settings transport newId).run es).Accounted n
      ((create settings transport newId).yields n es) :=
  Accounted.run ⟨fun _ => ⟨rfl, rfl⟩, fun _ hnone => absurd hnone (by simp [create])⟩
    (coherent_create settings transport hid) es

/-! ## Consumers age -/

/-- What a step can make of a consumer. -/
inductive Becomes (e : Event) (n : Nat) (x : Consumer) : Consumer → Prop
  | same : Becomes e n x x
  | feed (items : List Item) : Becomes e n x (x.feed items)
  | poll (fed : Bool) : Becomes e n x (x.poll fed).2
  | drop : Becomes e n x x.drop
  | settle : Becomes e n x x.settleCancelled
  | mark (he : e.cancels n = true) : Becomes e n x x.markCancelled

/-- What a step does at a place of the list of consumers. -/
inductive Fares (e : Event) (n : Nat) : Option Consumer → Option Consumer → Prop
  | unborn : Fares e n none none
  | born {x : Consumer} (hx : x.cancelled = false) : Fares e n none (some x)
  | lives {x x' : Consumer} (h : Becomes e n x x') : Fares e n (some x) (some x')

namespace Fares

theorem refl (o : Option Consumer) : Fares e n o o := by
  cases o with
  | none => exact .unborn
  | some x => exact .lives .same

theorem feed (o : Option Consumer) (items : List Item) :
    Fares e n o (o.map (Consumer.feed items)) := by
  cases o with
  | none => exact .unborn
  | some x => exact .lives (.feed items)

theorem modify (consumers : List Consumer) (m : Nat) {f : Consumer → Consumer}
    (hf : m = n → ∀ x, Becomes e n x (f x)) :
    Fares e n consumers[n]? (consumers.modify m f)[n]? := by
  rw [List.getElem?_modify]
  cases consumers[n]? with
  | none => exact .unborn
  | some x =>
    by_cases hmn : m = n
    · simp only [hmn, if_true]
      exact .lives (hf hmn x)
    · simp only [hmn, if_false]
      exact .lives .same

theorem append (consumers : List Consumer) {new : Consumer} (hnew : new.cancelled = false) :
    Fares e n consumers[n]? (consumers ++ [new])[n]? := by
  rcases Nat.lt_or_ge n consumers.length with hlt | hge
  · rw [List.getElem?_append_left hlt]
    exact .refl _
  · rw [List.getElem?_eq_none hge, List.getElem?_append_right hge]
    cases n - consumers.length with
    | zero => exact .born hnew
    | succ i => exact .unborn

end Fares

/-- Every step leaves a consumer where it is, and does one of six things to it. -/
theorem fares_step (hc : c.Coherent) (hstep : Step e c c') (n : Nat) :
    Fares e n c.board.consumers[n]? c'.board.consumers[n]? := by
  cases hstep with
  | quiet hq =>
    rw [hq.consumers]
    exact .refl _
  | touch ht =>
    refine .modify _ _ fun _ x => ?_
    cases ht with
    | poll => exact .poll _
    | drop => exact .drop
    | settle _ => exact .settle
  | launch _ hp params held =>
    rw [launched_consumers]
    exact .refl _
  | enlist _ hp operation =>
    have hconsumers : (c.enlisted operation).board.consumers = c.board.consumers ++
        [{ id := c.newId c.board.consumers.length }] := Switchboard.withSession_consumers ..
    rw [hconsumers]
    exact .append _ rfl
  | refuse _ error => exact .append _ rfl
  | withdraw he hx hfirst =>
    rw [withdrawn_consumers]
    exact .modify _ _ fun hmn _ => .mark (hmn ▸ he)
  | halt hp =>
    obtain ⟨items, hd, -, -⟩ := delivery_halt hc hp n
    rw [hd.consumers]
    exact .feed _ items
  | turn hagents ht =>
    obtain ⟨items, hd, -⟩ := ((hc.agents _ (mem_of_split hagents)).move ht).delivery hc n
    have hconsumers := hd.consumers
    dsimp only at hconsumers ⊢
    rw [hconsumers]
    exact .feed _ items
  | pass _ => exact .refl _

theorem Becomes.ages {x x' : Consumer} (h : Becomes e n x x') : x.Ages x' := by
  cases h with
  | same => exact .refl x
  | feed items => exact .feed x items
  | poll fed => exact .poll x fed
  | drop => exact .drop x
  | settle => exact .settle x
  | mark _ => exact .mark x

/-- Every step ages the consumers that there are. -/
theorem ages_step (hc : c.Coherent) (hstep : Step e c c') {x : Consumer}
    (hx : c.board.consumers[n]? = some x) :
    ∃ x', c'.board.consumers[n]? = some x' ∧ x.Ages x' := by
  have hfares := fares_step hc hstep n
  rw [hx] at hfares
  generalize c'.board.consumers[n]? = o at hfares
  cases hfares with
  | lives h => exact ⟨_, rfl, h.ages⟩

/-- Every run ages the consumers that there are. -/
theorem ages_run (hc : c.Coherent) {x : Consumer} (hx : c.board.consumers[n]? = some x)
    (es : List Event) : ∃ x', (c.run es).board.consumers[n]? = some x' ∧ x.Ages x' := by
  have hall := run_induction (c := c)
    (P := fun c' => c'.Coherent ∧ ∃ x', c'.board.consumers[n]? = some x' ∧ x.Ages x')
    (fun e c₁ c₂ ⟨hc₁, x₁, hx₁, h⟩ hstep => by
      obtain ⟨x₂, hx₂, h'⟩ := ages_step hc₁ hstep hx₁
      exact ⟨hc₁.step hstep, x₂, hx₂, h.trans h'⟩)
    ⟨hc, x, hx, .refl x⟩ es
  exact hall.2

theorem ages_perform (hc : c.Coherent) {x : Consumer} (hx : c.board.consumers[n]? = some x)
    (e : Event) : ∃ x', (c.perform e).board.consumers[n]? = some x' ∧ x.Ages x' :=
  ages_run hc hx [e]

/-- A consumer that was there stays. -/
theorem known_step (hc : c.Coherent) (hstep : Step e c c') (hn : n < c.board.consumers.length) :
    n < c'.board.consumers.length := by
  obtain ⟨x', hx', -⟩ := ages_step hc hstep (List.getElem?_eq_getElem hn)
  exact (List.getElem?_eq_some_iff.1 hx').1

theorem consumers_step (hc : c.Coherent) (hstep : Step e c c') :
    c.board.consumers.length ≤ c'.board.consumers.length :=
  le_of_forall_lt fun _ hn => known_step hc hstep hn

/-! ## Who was never cancelled -/

/-- The mark of a cancel comes from a cancel. -/
theorem Becomes.cancelled {x x' : Consumer} (h : Becomes e n x x') (he : e.cancels n = false) :
    x'.cancelled = x.cancelled := by
  cases h with
  | same | drop => rfl
  | feed items => exact x.feed_cancelled items
  | poll fed =>
    obtain ⟨unread, status, hpoll⟩ := x.poll_eq fed
    rw [hpoll]
  | settle =>
    obtain ⟨status, hsettle⟩ := x.settleCancelled_eq
    rw [hsettle]
  | mark hcancels =>
    rw [hcancels] at he
    cases he

theorem cancelled_step (hc : c.Coherent) (hstep : Step e c c') (he : e.cancels n = false)
    (h : ∀ x, c.board.consumers[n]? = some x → x.cancelled = false) :
    ∀ x, c'.board.consumers[n]? = some x → x.cancelled = false := by
  have hfares := fares_step hc hstep n
  generalize c.board.consumers[n]? = o at h hfares
  generalize c'.board.consumers[n]? = o' at hfares
  rintro x' rfl
  cases hfares with
  | born hx => exact hx
  | lives hbecomes => exact (hbecomes.cancelled he).trans (h _ rfl)

theorem cancelled_run (hc : c.Coherent) {es : List Event} (hes : ∀ e ∈ es, e.cancels n = false)
    (h : ∀ x, c.board.consumers[n]? = some x → x.cancelled = false) :
    ∀ x, (c.run es).board.consumers[n]? = some x → x.cancelled = false := by
  induction es generalizing c with
  | nil => exact h
  | cons e es ih =>
    have he := hes e (List.mem_cons_self ..)
    have hboth := perform_induction (e := e)
      (P := fun c => c.Coherent ∧ ∀ x, c.board.consumers[n]? = some x → x.cancelled = false)
      (fun c c' hc hstep => ⟨hc.1.step hstep, cancelled_step hc.1 hstep he hc.2⟩) ⟨hc, h⟩
    exact ih hboth.1 (fun e' he' => hes e' (List.mem_cons_of_mem _ he')) hboth.2

/-- The consumer is fed exactly while its id is registered. -/
theorem Coherent.feeds_iff (hc : c.Coherent) {x : Consumer}
    (hx : c.board.consumers[n]? = some x) :
    c.board.session.roster.feeds n = true ↔ x.id ∈ c.board.session.roster.ids := by
  rw [hc.named n x hx]
  exact hc.feeds_iff_registered

/-- How a subscription ends. After every run its channel holds results and at most one last item
behind them. Once that is there the subscription is not registered, and a registered one loses its
entry with the event that puts it. Unless the subscription is cancelled it is never cancelled, it is
registered as long as it is held and has no last item, and its stream ends only after the server
completed it or after one error. -/
theorem ending_of_subscription (settings : Settings) (transport : Transport)
    {newId : Nat → String} (hid : Function.Injective newId) (es : List Event) (n : Nat)
    (x : Consumer)
    (hx : ((create settings transport newId).run es).board.consumers[n]? = some x) :
    let c := (create settings transport newId).run es
    let yields := (create settings transport newId).yields n es
    (∃ (results : List ExecutionResult) (ending : List Item),
      c.board.channel n = results.map Item.next ++ ending ∧
        (ending = [] ∨ ∃ item : Item, item.isLast = true ∧ ending = [item])) ∧
    (x.id ∈ c.board.session.roster.ids → ∀ item ∈ c.board.channel n, item.isLast = false) ∧
    (∀ e, x.id ∈ c.board.session.roster.ids →
      (∃ item ∈ (c.perform e).board.channel n, item.isLast = true) →
      x.id ∉ (c.perform e).board.session.roster.ids) ∧
    ((∀ e ∈ es, e.cancels n = false) →
      x.status ≠ .cancelled ∧
      (x.listening = true → (∀ item ∈ c.board.channel n, item.isLast = false) →
        x.id ∈ c.board.session.roster.ids) ∧
      (x.listening = true → (c.poll n).1 = .ended →
        (c.board.Completed x.id ∧ yields.countP isError = 0) ∨
          yields.countP isError = 1)) := by
  intro c yields
  have hstart : (create settings transport newId).Accounted n [] :=
    ⟨fun _ => ⟨rfl, rfl⟩, fun _ hnone => absurd hnone (by simp [create])⟩
  have hcreate := coherent_create settings transport hid
  have hc : c.Coherent := hcreate.run es
  have haccounted : c.Accounted n yields := hstart.run hcreate es
  have haccounts := haccounted.accounts x hx
  refine ⟨haccounts.channel_eq, fun hreg => haccounts.fed ((hc.feeds_iff hx).2 hreg),
    fun e hreg hlast hstill => ?_, fun hes => ?_⟩
  · obtain ⟨item, hitem, hlast⟩ := hlast
    have hnext := haccounted.perform hc e
    have hcnext := hc.perform e
    cases hy : (c.perform e).board.consumers[n]? with
    | none =>
      rw [(hnext.unborn hy).1] at hitem
      cases hitem
    | some y =>
      have hyid : y.id = x.id := by
        rw [hcnext.named n y hy, hc.named n x hx, newId_perform]
      have hnone := (hnext.accounts y hy).fed ((hcnext.feeds_iff hy).2 (by rwa [hyid])) item hitem
      rw [hlast] at hnone
      cases hnone
  · have hcancelled : x.cancelled = false :=
      cancelled_run hcreate hes (fun _ hnone => absurd hnone (by simp [create])) x hx
    refine ⟨fun hs => ?_, fun hl hnone => ?_, fun hl hended => ?_⟩
    · have hmark := haccounts.cancelled hs
      rw [hcancelled] at hmark
      cases hmark
    · exact (hc.feeds_iff hx).1 (haccounts.listed hl hcancelled hnone)
    · have hpoll : (c.poll n).1 = (x.poll (c.board.session.roster.feeds n)).1 := by
        unfold poll consumer?
        rw [hx]
      rw [hpoll] at hended
      exact haccounts.ended hl hcancelled hended

/-- A stop ends a subscription that was never cancelled. -/
theorem ending_of_stopped : Function.Injective tally ∧
    ∃ x, ((create untimed {} tally).run (greeting ++ [.stop])).board.consumers[0]? = some x ∧
      x.status ≠ .cancelled ∧
      x.id ∉ ((create untimed {} tally).run (greeting ++ [.stop])).board.session.roster.ids := by
  have hsome : (((create untimed {} tally).run
      (greeting ++ [.stop])).board.consumers[0]?).isSome = true := by decide +kernel
  obtain ⟨x, hx⟩ := Option.isSome_iff_exists.1 hsome
  have hlast : ∃ item ∈ ((create untimed {} tally).run (greeting ++ [.stop])).board.channel 0,
      item.isLast = true := by decide +kernel
  have hnone : ∀ e ∈ greeting ++ [.stop], e.cancels 0 = false := by decide +kernel
  obtain ⟨-, hregistered, -, hnever⟩ := ending_of_subscription _ _ tally_injective _ _ _ hx
  refine ⟨tally_injective, x, hx, ?_, fun hreg => ?_⟩
  · exact (hnever hnone).1
  · obtain ⟨item, hitem, hlast⟩ := hlast
    rw [hregistered hreg item hitem] at hlast
    cases hlast

end Client

end LiveQuery
