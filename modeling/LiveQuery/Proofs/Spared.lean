import LiveQuery.Proofs.OpenOperations
import LiveQuery.Proofs.Shutdown
import LiveQuery.Proofs.Stranded

/-!
# Subscriptions that outlive their socket

A subscription is spared (`Client.Spared`) if no loss was reported to it, and none will be before
the client asks for another socket. So it is if its request was sent before the server went, or if
no acknowledgment is left that would make the agent send it (`Client.Sheltered`). A spared
subscription stays so until the next socket is asked for, whatever happens (`Client.Spared.run`).
-/

namespace LiveQuery

/-- Does the agent wait for its next attempt? -/
def Agent.isBetween (a : Agent) : Bool :=
  match a.stage with
  | .ready | .backoff _ => true
  | _ => false

/-- An agent that waits for its next attempt asks for a socket, or waits on. -/
theorem Agent.turn_of_isBetween {a : Agent} {sb : Switchboard} (h : a.isBetween = true)
    (hat : a.told = false) (hcur : sb.isOutdated a.epoch = false) {t : Turn}
    (ht : a.turn sb = some t) : sb.opens < t.2.opens ∨
      ∃ a', t = (some a', sb) ∧ a'.told = false ∧ a'.isBetween = true := by
  unfold isBetween at h
  cases conduct_of_turn ht with
  | asks hs =>
    left
    unfold openSocket
    rw [hcur, hat]
    exact Nat.lt_succ_self _
  | wakes htold hs hdue => exact Or.inr ⟨_, rfl, hat, rfl⟩
  | leaves htold =>
    rw [hat] at htold
    cases htold
  | learns htold hs | serves hs =>
    rw [hs] at h
    cases h

namespace Client

variable {c c' : Client} {a : Agent} {link : Link} {e : Event} {n : Nat}

/-! ## What every step keeps -/

/-- A client never takes back that it asked for a socket. -/
theorem opens_step (hc : c.Coherent) (hstep : Step e c c') : c.board.opens ≤ c'.board.opens := by
  cases hstep with
  | quiet hq => exact hq.opens.ge
  | launch he hp params held => simp [launched]
  | enlist he hp operation => simp [enlisted]
  | withdraw he hx hcancelled => simp [withdrawn_eq]
  | halt hp => exact (Switchboard.commit_opens ..).ge
  | turn hagents ht hturn =>
    have hfits := hc.agents _ (mem_of_split hagents)
    exact ((hfits.move ht).outcome hfits hc.session).advance.opens
  | touch ht => exact le_refl _
  | refuse he error => exact le_refl _
  | pass he => exact le_refl _

/-- The parts of a client fit together, its agent is attuned, and the consumer of a number is
there. -/
structure Sound (c : Client) (n : Nat) : Prop where
  coherent : c.Coherent
  attuned : c.Attuned
  known : n < c.board.consumers.length

namespace Sound

theorem step (h : c.Sound n) (hstep : Step e c c') : c'.Sound n :=
  ⟨h.coherent.step hstep, h.attuned.step h.coherent hstep, known_step h.coherent hstep h.known⟩

theorem perform (h : c.Sound n) (e : Event) :
    (c.perform e).Sound n ∧ c.board.opens ≤ (c.perform e).board.opens := by
  refine perform_induction (P := fun c' => c'.Sound n ∧ c.board.opens ≤ c'.board.opens)
    (fun c₁ c₂ hc₁ hstep => ⟨hc₁.1.step hstep, ?_⟩) ⟨h, le_refl _⟩
  exact hc₁.2.trans (opens_step hc₁.1.coherent hstep)

theorem run (h : c.Sound n) (es : List Event) :
    (c.run es).Sound n ∧ c.board.opens ≤ (c.run es).board.opens := by
  induction es generalizing c with
  | nil => exact ⟨h, le_refl _⟩
  | cons e es ih =>
    obtain ⟨hnext, hopens⟩ := h.perform e
    obtain ⟨hlast, hrest⟩ := ih hnext
    exact ⟨hlast, hopens.trans hrest⟩

end Sound

/-- What happens to a message that does not name a consumer goes past the consumer. -/
theorem abandon_of_other (hc : c.Coherent) {sb : Switchboard}
    (hroster : sb.session.roster = c.board.session.roster) {m : Message}
    (hm : m.id? ≠ some (c.newId n)) (error : TransportError) :
    (sb.abandon m error).channel n = sb.channel n ∧
      (sb.session.roster.feeds n = true → (sb.abandon m error).session.roster.feeds n = true) := by
  rcases sb.abandon_cases m error with heq | ⟨id, hid, heq⟩ <;> rw [heq]
  · exact ⟨rfl, fun hfed => hfed⟩
  · -- the entry of the consumer has another id
    have hother : ∀ entry ∈ c.board.session.roster.entries, entry.consumer = n → entry.id ≠ id := by
      rintro entry he rfl rfl
      rw [(hc.id_of_entry he).1] at hid
      exact hm hid
    constructor
    · have hnone : (sb.session.roster.find? id).filter (·.consumer == n) = none := by
        rw [Option.filter_eq_none_iff, hroster]
        intro entry hf hen
        exact hother entry (Roster.mem_of_find? hf) (beq_iff_eq.1 hen) (Roster.id_of_find? hf)
      rw [Switchboard.commit_channel, Session.endOne_items, hnone]
      simp
    · intro hfed
      rw [hroster] at hfed
      obtain ⟨entry, he, hen⟩ := Roster.feeds_iff.1 hfed
      rw [Switchboard.commit_session, Session.endOne_roster, hroster]
      exact Roster.feeds_iff.2 ⟨entry, Roster.mem_erase.2 ⟨he, hother entry he hen⟩, hen⟩

/-! ## What becomes of a subscription -/

/-- Is a consumer out of reach of the sends that fail once the server of a socket is gone? Either
its request was sent before, or no acknowledgment is left that makes the agent send it. A timer that
is due comes before both. -/
def shelters (c : Client) (link : Link) (n : Nat) : Bool :=
  !link.isCalm c.board.now ||
    if link.acknowledged then (c.board.messagesOn link.socket).any (Message.asksFor (c.newId n))
    else !meetsAck (c.board.unread link.socket)

theorem shelters_iff : c.shelters link n = true ↔
    (link.isCalm c.board.now = true → link.acknowledged = true →
      ∃ m ∈ c.board.messagesOn link.socket, m.asksFor (c.newId n) = true) ∧
    (link.isCalm c.board.now = true → link.acknowledged = false →
      meetsAck (c.board.unread link.socket) = false) := by
  unfold shelters
  cases link.isCalm c.board.now <;> cases link.acknowledged <;> simp

/-- A stranded agent asked for what a consumer wants before its server went, or it will not ask
over this socket, unless a timer comes first. After that the budget allows another attempt. -/
structure Sheltered (c : Client) (n : Nat) (a : Agent) (link : Link) : Prop where
  budget : (if link.acknowledged then 0 else a.attempt) < c.board.settings.maxReconnects
  sent : link.isCalm c.board.now = true → link.acknowledged = true →
    ∃ m ∈ c.board.messagesOn link.socket, m.asksFor (c.newId n) = true
  unmet : link.isCalm c.board.now = true → link.acknowledged = false →
    meetsAck (c.board.unread link.socket) = false

/-- No loss was reported to a consumer, and none will be before another socket is asked for. -/
structure Spared (c : Client) (n : Nat) : Prop where
  clean : ∀ item ∈ c.board.channel n, item.isLoss = false
  safe : c.board.session.roster.feeds n = true → ∃ a ∈ c.agents, a.told = false ∧
    (a.isBetween = true ∨ ∃ link, c.Stranded a link ∧ c.Sheltered n a link)

/-- The request of a fed consumer was sent, so nothing that is queued names the consumer. -/
theorem id?_ne_of_sent (h : c.Sound n) (ha : a ∈ c.agents)
    (hat : a.told = false) (hs : a.stage = .serving link) (hacked : link.acknowledged = true)
    (hfed : c.board.session.roster.feeds n = true)
    (hsent : ∃ m ∈ c.board.messagesOn link.socket, m.asksFor (c.newId n) = true) {m : Message}
    {rest : List Message} (hout : c.board.session.outgoing = some (m :: rest)) :
    m.id? ≠ some (c.newId n) := by
  have hwire : (c.board.ledger link.socket).wire =
      c.board.messagesOn link.socket ++ (m :: rest) := by
    show c.board.wire link.socket = _
    unfold Switchboard.wire
    rw [hout]
    rfl
  have hbalanced := (h.attuned a ha hat).balanced link hs hacked
  have hregistered := h.coherent.feeds_iff_registered.1 hfed
  exact hbalanced.id?_ne hwire hregistered hsent (List.mem_cons_self ..)

/-- Whoever has something to send serves an acknowledged socket. -/
theorem acknowledged_of_outgoing (hc : c.Coherent) (ha : a ∈ c.agents) (hat : a.told = false)
    (hs : a.stage = .serving link) (hout : c.board.session.outgoing.isSome = true) :
    link.acknowledged = true :=
  ((hc.agents a ha).acknowledged_of_serving hat hs).1 (hc.session.queue.1 hout)

/-- What a consumer was given stays free of losses if what it gets is. -/
theorem clean_append {old new items : List Item} {p : Prop} [Decidable p]
    (hnew : new = old ++ if p then items else []) (hold : ∀ item ∈ old, item.isLoss = false)
    (hitems : ∀ item ∈ items, item.isLoss = false) : ∀ item ∈ new, item.isLoss = false := by
  intro item hitem
  rw [hnew, List.mem_append] at hitem
  rcases hitem with hitem | hitem
  · exact hold item hitem
  · split at hitem
    · exact hitems item hitem
    · cases hitem

/-- A consumer that is not fed is out of reach of every loss. -/
theorem spared_of_unfed (hclean : ∀ item ∈ c.board.channel n, item.isLoss = false)
    (hunfed : c.board.session.roster.feeds n = false) : c.Spared n := by
  refine ⟨hclean, fun hfed => ?_⟩
  rw [hunfed] at hfed
  cases hfed

/-- Nothing is lost while the agent waits for its next attempt. -/
theorem spared_of_between (hclean : ∀ item ∈ c.board.channel n, item.isLoss = false)
    (ha : a ∈ c.agents) (hat : a.told = false) (hbetween : a.isBetween = true) : c.Spared n :=
  ⟨hclean, fun _ => ⟨a, ha, hat, Or.inl hbetween⟩⟩

/-- Nothing is lost while a stranded agent shelters the consumer. -/
theorem Stranded.spared (h : c.Stranded a link) (hs : c.Sheltered n a link)
    (hclean : ∀ item ∈ c.board.channel n, item.isLoss = false) : c.Spared n :=
  ⟨hclean, fun _ => ⟨a, h.mem, h.told, Or.inr ⟨link, h, hs⟩⟩⟩

/-- A consumer stays sheltered while its agent stays as far as it is, whatever else happens: what
was sent stays sent, and no acknowledgment comes up that was not there. -/
theorem Sheltered.carry (h : c.Sheltered n a link) {a' : Agent} {link' : Link}
    (hattempt : a'.attempt = a.attempt) (hacked : link'.acknowledged = link.acknowledged)
    (hsettings : c'.board.settings = c.board.settings) (hid : c'.newId = c.newId)
    (hcalm : link'.isCalm c'.board.now = true → link.isCalm c.board.now = true)
    (hsent : ∀ m ∈ c.board.messagesOn link.socket, m ∈ c'.board.messagesOn link'.socket)
    (hunmet : link.acknowledged = false → meetsAck (c.board.unread link.socket) = false →
      meetsAck (c'.board.unread link'.socket) = false) : c'.Sheltered n a' link' where
  budget := by
    rw [hacked, hattempt, hsettings]
    exact h.budget
  sent hcalm' hacked' := by
    obtain ⟨m, hm, hasks⟩ := h.sent (hcalm hcalm') (hacked.symm.trans hacked')
    exact ⟨m, hsent m hm, hid ▸ hasks⟩
  unmet hcalm' hacked' := by
    have hnot := hacked.symm.trans hacked'
    exact hunmet hnot (h.unmet (hcalm hcalm') hnot)

/-- A turn of its own leaves what a stranded agent shelters spared, by cases on the turn. -/
theorem Stranded.spared_turn (h : c.Stranded a link) (hs : c.Sheltered n a link)
    (hsound : c.Sound n) (hfed : c.board.session.roster.feeds n = true)
    (hclean : ∀ item ∈ c.board.channel n, item.isLoss = false) {pre post : List Agent} {t : Turn}
    (ht : a.turn c.board = some t)
    (hc' : c' = { c with agents := pre ++ (t.1.toList ++ post), board := t.2 }) :
    c'.Spared n := by
  subst hc'
  have hc := hsound.coherent
  have hfits := hc.agents a h.mem
  have hebb := h.ebb hc ht
  cases hebb with
  | ended hfate hstuck htraffic herror =>
    rename_i news sb' error
    have hitems : ∀ item ∈ Effect.itemsFor (sb'.session.terminate error).2 n,
        item.isLoss = false := by
      intro item hitem
      rw [Session.terminate_items] at hitem
      obtain ⟨-, -, rfl⟩ := List.mem_map.1 hitem
      exact herror
    have hchannel := sb'.commit_channel (sb'.session.terminate error) n
    rw [htraffic.channel] at hchannel
    refine spared_of_unfed (clean_append hchannel hclean hitems) ?_
    -- nobody is registered after the end
    show (sb'.commit (sb'.session.terminate error)).session.roster.feeds n = false
    rw [Switchboard.commit_session, Session.terminate_roster]
    rfl
  | lost hfate hstuck htraffic =>
    rename_i news sb' error
    have hin : sb'.isOutdated a.epoch = false := by
      rw [htraffic.isOutdated, hfits.isOutdated h.told]
    have hbudget := hs.budget
    rw [← htraffic.settings] at hbudget
    obtain ⟨due, retries, hlose⟩ := Agent.lose_of_budget hin error rfl hbudget
    rw [hlose]
    refine spared_of_between (fun item hitem => hclean item ?_) (mem_turned.2 (Or.inr rfl)) h.told
      rfl
    rw [← htraffic.channel n, ← sb'.withSession_channel (sb'.session.suspend sb'.listening) n]
    exact hitem
  | drain hcalm hout hexchange hdead hunread =>
    rename_i m rest arrived sb' error
    have hacked := acknowledged_of_outgoing hc h.mem h.told h.serving (by rw [hout]; rfl)
    have hm := id?_ne_of_sent hsound h.mem h.told h.serving hacked hfed (hs.sent hcalm hacked) hout
    have hroster : sb'.session.roster = c.board.session.roster := by rw [hexchange.session]
    obtain ⟨hchannel, -⟩ := abandon_of_other hc hroster hm error
    have hsame : (sb'.abandon m error).channel n = c.board.channel n :=
      hchannel.trans (hexchange.channel n)
    refine Stranded.spared ⟨mem_turned.2 (Or.inr rfl), h.told, rfl, hdead.abandon m error⟩ ?_
      (hsame ▸ hclean)
    refine hs.carry rfl rfl ((sb'.abandon_settings m error).trans hexchange.settings) rfl
      (fun _ => hcalm) (fun request hrequest => ?_) fun hnot => ?_
    · -- the request was sent before, and it stays sent
      show request ∈ (sb'.abandon m error).messagesOn link.socket
      rw [Switchboard.abandon_messagesOn, hexchange.messagesOn]
      exact List.mem_append_left _ hrequest
    · rw [hacked] at hnot
      cases hnot
  | read hcalm hout hunread hsocket hcalm' hdead hunread' hmessages hkept hfate hstays hack =>
    rename_i f rest link' sb'
    obtain ⟨hnow, hopens, hsettings⟩ := hkept
    obtain ⟨items, hd, hcause⟩ := (hfits.move ht).delivery hc n
    have hitems : ∀ item ∈ items, item.isLoss = false := by
      intro item hitem
      rcases hcause (List.ne_nil_of_mem hitem) with hnone | hqueue | ⟨-, hnoloss⟩
      · cases hnone
      · exact absurd hout hqueue
      · exact hnoloss item hitem
    -- what is read does not acknowledge, if the socket was not acknowledged before
    have hunmet (hnot : link.acknowledged = false)
        (hmeets : meetsAck (c.board.unread link.socket) = false) :
        link'.acknowledged = false ∧ meetsAck rest = false := by
      rw [hunread, hack hnot] at hmeets
      exact Bool.or_eq_false_iff.1 hmeets
    have hsame : link'.acknowledged = link.acknowledged := by
      cases hacked : link.acknowledged with
      | true => exact hstays hacked
      | false => exact (hunmet hacked (hs.unmet hcalm hacked)).1
    refine Stranded.spared ⟨mem_turned.2 (Or.inr rfl), h.told, rfl, hsocket ▸ hdead⟩ ?_
      (clean_append hd.channel hclean hitems)
    refine hs.carry rfl hsame hsettings rfl (fun _ => hcalm) (fun m hm => ?_) fun hnot hmeets => ?_
    · rwa [hsocket, hmessages]
    · rw [hsocket, hunread']
      exact (hunmet hnot hmeets).2

namespace Spared

/-- Every step that is not the time leaves a consumer spared, or another socket is asked for. -/
theorem step (h : c.Spared n) (hsound : c.Sound n) (hpass : e ≠ .pass)
    (hfault : e.isFault = false) (hstep : Step e c c') :
    c.board.opens < c'.board.opens ∨ c'.Spared n := by
  have hc := hsound.coherent
  cases hfed : c.board.session.roster.feeds n with
  | false =>
    obtain ⟨⟨-, hunfed⟩, hchannel⟩ := Unfed.step ⟨hsound.known, hfed⟩ hc hstep
    exact Or.inr (spared_of_unfed (hchannel ▸ h.clean) hunfed)
  | true =>
    obtain ⟨a, ha, hat, hsafe⟩ := h.safe hfed
    rcases past_of_step hc ha hat hpass hfault hstep with
      ⟨rfl, hp⟩ | hpast | ⟨pre, post, t, hagents, ht, hc'⟩
    · obtain ⟨items, hd, hitems, hunfed⟩ := delivery_halt hc hp n
      exact Or.inr (spared_of_unfed (clean_append hd.channel h.clean hitems) hunfed)
    · have hclean := hpast.channel n hsound.known ▸ h.clean
      right
      rcases hsafe with hbetween | ⟨link, hstranded, hsheltered⟩
      · exact spared_of_between hclean hpast.mem hat hbetween
      · obtain ⟨hstranded', hunread⟩ := hstranded.past hpast
        refine hstranded'.spared ?_ hclean
        refine hsheltered.carry rfl rfl hpast.settings (newId_step hstep)
          (by rw [hpast.now]; exact id) (fun m hm => ?_) fun _ hmeets => hunread ▸ hmeets
        obtain ⟨entry, he, hentry⟩ := Switchboard.mem_messagesOn.1 hm
        exact Switchboard.mem_messagesOn.2 ⟨entry, hpast.journal entry he, hentry⟩
    · rcases hsafe with hbetween | ⟨link, hstranded, hsheltered⟩
      · subst hc'
        rcases Agent.turn_of_isBetween hbetween hat ((hc.agents a ha).isOutdated hat) ht with
          hopens | ⟨a', rfl, hat', hbetween'⟩
        · exact Or.inl hopens
        · exact Or.inr (spared_of_between h.clean (mem_turned.2 (Or.inr rfl)) hat' hbetween')
      · exact Or.inr (hstranded.spared_turn hsheltered hsound hfed h.clean ht hc')

/-- The time makes no timer less due. -/
theorem pass (h : c.Spared n) : c.pass.Spared n := by
  constructor
  · exact h.clean
  · intro hfed
    obtain ⟨a, ha, hat, hbetween | ⟨link, hstranded, hsheltered⟩⟩ := h.safe hfed
    · exact ⟨a, ha, hat, Or.inl hbetween⟩
    · refine ⟨a, ha, hat, Or.inr ⟨link,
        ⟨ha, hat, hstranded.serving, hstranded.dead.congr rfl rfl⟩,
        hsheltered.carry rfl rfl rfl rfl Link.isCalm_of_succ (fun _ hm => hm) fun _ => id⟩⟩

theorem perform (h : c.Spared n) (hsound : c.Sound n) (hfault : e.isFault = false) :
    c.board.opens < (c.perform e).board.opens ∨ (c.perform e).Spared n := by
  by_cases hpass : e = .pass
  · subst hpass
    exact Or.inr h.pass
  · have hall := perform_induction (e := e) (c := c)
      (P := fun c' => c'.Sound n ∧ c.board.opens ≤ c'.board.opens ∧
        (c.board.opens < c'.board.opens ∨ c'.Spared n))
      (fun c₁ c₂ h₁ hstep => ?_) ⟨hsound, le_refl _, Or.inr h⟩
    · exact hall.2.2
    · obtain ⟨hsound₁, hle, hor⟩ := h₁
      have hopens := opens_step hsound₁.coherent hstep
      refine ⟨hsound₁.step hstep, by omega, ?_⟩
      rcases hor with hmore | hspared
      · exact Or.inl (by omega)
      · rcases hspared.step hsound₁ hpass hfault hstep with hmore | hspared
        · exact Or.inl (by omega)
        · exact Or.inr hspared

/-- Whatever happens, a spared consumer stays spared until another socket is asked for. -/
theorem run (h : c.Spared n) (hsound : c.Sound n) {es : List Event}
    (hes : ∀ e ∈ es, e.isFault = false) :
    c.board.opens < (c.run es).board.opens ∨ (c.run es).Spared n := by
  induction es generalizing c with
  | nil => exact Or.inr h
  | cons e es ih =>
    obtain ⟨hsound', hopens⟩ := hsound.perform e
    rcases h.perform hsound (hes e (List.mem_cons_self ..)) with hmore | hspared
    · exact Or.inl (hmore.trans_le (hsound'.run es).2)
    · rcases ih hspared hsound' fun e' he' => hes e' (List.mem_cons_of_mem _ he') with
        hmore | hspared
      · exact Or.inl (hopens.trans_lt hmore)
      · exact Or.inr hspared

end Spared

end Client

end LiveQuery
