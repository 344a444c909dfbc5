import LiveQuery.Proofs.Socket
import LiveQuery.Session.Agent

/-!
# What one turn of an agent can be

`Agent.Move` lists the turns by what they do to the socket of the agent and to the session, and
`Agent.move_of_turn` shows that there are no others. An agent that was told to stop only leaves;
every other agent belongs to the session as it is, so that what it asks of the session is done.
Whatever keeps under every move keeps under every turn.
-/

namespace LiveQuery

open Json (Members)

/-- The subscription and the item for it in a message from the server. -/
def Message.item? : Message → Option (String × Item)
  | .next id result => some (id, .next result)
  | .error id errors => some (id, .error (.server errors))
  | .complete id => some (id, .complete)
  | _ => none

namespace Switchboard

/-- Ends the subscription of a message that could not be sent. -/
def abandon (sb : Switchboard) (m : Message) (error : TransportError) : Switchboard :=
  match m.id? with
  | some id => sb.commit (sb.session.endOne id (.sendFailed error) false)
  | none => sb

section Abandon

variable (sb : Switchboard) (m : Message) (error : TransportError)

theorem abandon_cases : sb.abandon m error = sb ∨ ∃ id, m.id? = some id ∧
    sb.abandon m error = sb.commit (sb.session.endOne id (.sendFailed error) false) := by
  unfold abandon
  cases m.id? with
  | none => exact Or.inl rfl
  | some id => exact Or.inr ⟨id, rfl, rfl⟩

@[simp] theorem abandon_lines : (sb.abandon m error).lines = sb.lines := by
  rcases sb.abandon_cases m error with h | ⟨id, -, h⟩ <;> rw [h]
  rw [commit_lines]

@[simp] theorem abandon_now : (sb.abandon m error).now = sb.now := by
  rcases sb.abandon_cases m error with h | ⟨id, -, h⟩ <;> rw [h]
  rw [commit_now]

@[simp] theorem abandon_opens : (sb.abandon m error).opens = sb.opens := by
  rcases sb.abandon_cases m error with h | ⟨id, -, h⟩ <;> rw [h]
  rw [commit_opens]

@[simp] theorem abandon_settings : (sb.abandon m error).settings = sb.settings := by
  rcases sb.abandon_cases m error with h | ⟨id, -, h⟩ <;> rw [h]
  rw [commit_settings]

@[simp] theorem abandon_line (k : Nat) : (sb.abandon m error).line k = sb.line k := by
  unfold line
  rw [abandon_lines]

@[simp] theorem abandon_listening (n : Nat) :
    (sb.abandon m error).listening n = sb.listening n := by
  rcases sb.abandon_cases m error with h | ⟨id, -, h⟩ <;> rw [h]
  rw [commit_listening]

@[simp] theorem abandon_messagesOn (k : Nat) :
    (sb.abandon m error).messagesOn k = sb.messagesOn k := by
  rcases sb.abandon_cases m error with h | ⟨id, -, h⟩ <;> rw [h]
  rw [commit_messagesOn]

@[simp] theorem abandon_outgoing :
    (sb.abandon m error).session.outgoing = sb.session.outgoing := by
  rcases sb.abandon_cases m error with h | ⟨id, -, h⟩ <;> rw [h]
  rw [commit_session, Session.endOne_outgoing_silent]

@[simp] theorem abandon_pending :
    (sb.abandon m error).session.pending = sb.session.pending := by
  rcases sb.abandon_cases m error with h | ⟨id, -, h⟩ <;> rw [h]
  rw [commit_session, Session.endOne_pending]

end Abandon

theorem nextOutgoing_eq_some {sb sb' : Switchboard} {epoch : Nat} {m : Message}
    (h : sb.nextOutgoing epoch = some (m, sb')) :
    ∃ rest, sb.session.outgoing = some (m :: rest) ∧
      sb' = { sb with session := { sb.session with outgoing := some rest } } := by
  unfold nextOutgoing at h
  split at h
  · cases h
  · simp only [Option.map_eq_some_iff, Prod.mk.injEq, Prod.exists] at h
    obtain ⟨m', session, hnext, rfl, rfl⟩ := h
    obtain ⟨rest, hout, rfl⟩ := Session.nextOutgoing_eq_some hnext
    exact ⟨rest, hout, rfl⟩

/-- An agent of the session as it is finds the outgoing queue empty, or there is none. -/
theorem nextOutgoing_eq_none {sb : Switchboard} {epoch : Nat}
    (hcur : sb.isOutdated epoch = false) (h : sb.nextOutgoing epoch = none) :
    sb.session.outgoing.getD [] = [] := by
  unfold nextOutgoing at h
  rw [hcur, if_neg Bool.false_ne_true, Option.map_eq_none_iff] at h
  exact Session.nextOutgoing_eq_none h

end Switchboard

namespace Agent

variable {a : Agent} {sb sb' : Switchboard}

/-- What an agent does to the socket it has, or to the one that just opened, before it goes on
without it. -/
inductive Parting (a : Agent) (sb : Switchboard) : Switchboard → Prop
  /-- No socket opened. -/
  | unopened {number : Nat} {due : Option Nat} (hs : a.stage = .opening number due) :
      Parting a sb sb
  /-- The socket that opened could not be used. -/
  | opened {number : Nat} {due : Option Nat} {news : List Notice} {sb' : Switchboard}
      (hs : a.stage = .opening number due) (h : sb.Traffic sb.lines.length news sb') :
      Parting a sb sb'
  /-- The socket in use is dropped. -/
  | served {link : Link} {news : List Notice} {sb' : Switchboard}
      (hs : a.stage = .serving link) (h : sb.Traffic link.socket news sb') : Parting a sb sb'

/-- What a turn of an agent can be. -/
inductive Move (a : Agent) (sb : Switchboard) : Turn → Prop
  /-- It was told to stop and has no socket. -/
  | leave (ht : a.told = true) (hs : ∀ link, a.stage ≠ .serving link) : Move a sb (none, sb)
  /-- It was told to stop and closes its socket. -/
  | hangUp {link : Link} {news : List Notice} {sb' : Switchboard} (ht : a.told = true)
      (hs : a.stage = .serving link) (h : sb.Traffic link.socket news sb') :
      Move a sb (none, sb')
  /-- It asks for a socket. -/
  | ask {due : Option Nat} (ht : a.told = false) (hs : a.stage = .ready) :
      Move a sb (some { a with stage := .opening sb.opens due }, sb.callOpen.2)
  /-- The wait before an attempt is over. -/
  | wake {due : Nat} (ht : a.told = false) (hs : a.stage = .backoff due) :
      Move a sb (some { a with stage := .ready }, sb)
  /-- A socket opened and was greeted. -/
  | greet {number : Nat} {due : Option Nat} {link : Link} {news : List Notice}
      {sb' : Switchboard} (ht : a.told = false) (hs : a.stage = .opening number due)
      (hsocket : link.socket = sb.lines.length) (hack : link.acknowledged = false)
      (h : sb.Exchange link.socket news sb')
      (hclient : (sb'.line link.socket).pair.client = true)
      (hquiet : ∀ notice ∈ news, notice.isQuiet = true) :
      Move a sb (some { a with stage := .serving link }, sb')
  /-- The session cannot go on. -/
  | ended {sb' : Switchboard} (ht : a.told = false) (h : a.Parting sb sb')
      (error : ConnectionError) : Move a sb (none, sb'.commit (sb'.session.terminate error))
  /-- The socket is lost, and another attempt follows. -/
  | retry {sb' : Switchboard} {attempt due retries : Nat} (ht : a.told = false)
      (h : a.Parting sb sb') (hbudget : attempt < sb.settings.maxReconnects) :
      Move a sb (some { a with attempt := attempt + 1, stage := .backoff due },
        { sb'.withSession (sb'.session.suspend sb'.listening) with retries }.note
          (.retrying attempt))
  /-- Traffic that concerns no subscription. -/
  | idle {link link' : Link} {news : List Notice} {sb' : Switchboard} (ht : a.told = false)
      (hs : a.stage = .serving link) (hsocket : link'.socket = link.socket)
      (hack : link'.acknowledged = link.acknowledged) (h : sb.Exchange link.socket news sb')
      (hquiet : ∀ notice ∈ news, notice.isQuiet = true) :
      Move a sb (some { a with stage := .serving link' }, sb')
  /-- A message of the outgoing queue is sent. -/
  | deliver {link : Link} {m : Message} {rest : List Message} {arrived : Bool}
      {sb' : Switchboard} (ht : a.told = false) (hs : a.stage = .serving link)
      (hout : sb.session.outgoing = some (m :: rest))
      (h : { sb with session := { sb.session with outgoing := some rest } }.Exchange link.socket
        [.sent link.socket (.message m) arrived false] sb') :
      Move a sb (some { a with stage := .serving link }, sb')
  /-- A message of the outgoing queue cannot be sent, which ends the subscription it is for. -/
  | undeliverable {link : Link} {m : Message} {rest : List Message} {arrived : Bool}
      {sb' : Switchboard} (ht : a.told = false) (hs : a.stage = .serving link)
      (hout : sb.session.outgoing = some (m :: rest))
      (h : { sb with session := { sb.session with outgoing := some rest } }.Exchange link.socket
        [.sent link.socket (.message m) arrived true] sb') (error : TransportError) :
      Move a sb (some { a with stage := .serving link }, sb'.abandon m error)
  /-- The server acknowledges. -/
  | acknowledge {link link' : Link} {payload : Option Members} {sb' : Switchboard}
      (ht : a.told = false) (hs : a.stage = .serving link) (hack : link.acknowledged = false)
      (hsocket : link'.socket = link.socket) (hack' : link'.acknowledged = true)
      (h : sb.Exchange link.socket
        [.received link.socket (.ok (.message (.connectionAck payload)))] sb') :
      Move a sb (some { a with stage := .serving link' },
        sb'.commit (sb'.session.acknowledge sb'.listening payload))
  /-- The server has an item for a subscription. -/
  | route {link link' : Link} {m : Message} {id : String} {item : Item} {sb' : Switchboard}
      (ht : a.told = false) (hs : a.stage = .serving link) (hack : link.acknowledged = true)
      (hsocket : link'.socket = link.socket) (hack' : link'.acknowledged = true)
      (hitem : m.item? = some (id, item))
      (h : sb.Exchange link.socket [.received link.socket (.ok (.message m))] sb') :
      Move a sb (some { a with stage := .serving link' },
        sb'.commit (sb'.session.route sb'.listening id item))
  /-- The server sent a subscription something undecodable. -/
  | endOne {link link' : Link} {error : DecodeError} {id : String} {sb' : Switchboard}
      (ht : a.told = false) (hs : a.stage = .serving link) (hack : link.acknowledged = true)
      (hsocket : link'.socket = link.socket) (hack' : link'.acknowledged = true)
      (hid : error.id? = some id)
      (h : sb.Exchange link.socket [.received link.socket (.error error)] sb') :
      Move a sb (some { a with stage := .serving link' },
        sb'.commit (sb'.session.endOne id (.decodeFailed error) true))

namespace Parting

theorem rest (h : a.Parting sb sb') :
    sb' = { sb with lines := sb'.lines, journal := sb'.journal } := by
  cases h with
  | unopened hs => rfl
  | opened hs h => exact h.rest
  | served hs h => exact h.rest

theorem session (h : a.Parting sb sb') : sb'.session = sb.session := by rw [h.rest]

theorem consumers (h : a.Parting sb sb') : sb'.consumers = sb.consumers := by rw [h.rest]

theorem settings (h : a.Parting sb sb') : sb'.settings = sb.settings := by rw [h.rest]

theorem now (h : a.Parting sb sb') : sb'.now = sb.now := by rw [h.rest]

theorem opens (h : a.Parting sb sb') : sb'.opens = sb.opens := by rw [h.rest]

theorem isOutdated (h : a.Parting sb sb') (epoch : Nat) :
    sb'.isOutdated epoch = sb.isOutdated epoch := by
  unfold Switchboard.isOutdated
  rw [h.session]

theorem length (h : a.Parting sb sb') : sb.lines.length ≤ sb'.lines.length := by
  cases h with
  | unopened hs => exact le_refl _
  | opened hs h => exact h.length
  | served hs h => exact h.length

theorem channel (h : a.Parting sb sb') (n : Nat) : sb'.channel n = sb.channel n := by
  cases h with
  | unopened hs => rfl
  | opened hs h => exact h.channel n
  | served hs h => exact h.channel n

/-- A parting concerns one socket at most. -/
theorem traffic (h : a.Parting sb sb') : sb' = sb ∨ ∃ k news, sb.Traffic k news sb' ∧
    ((∃ link, a.stage = .serving link ∧ link.socket = k) ∨ k = sb.lines.length) := by
  cases h with
  | unopened hs => exact Or.inl rfl
  | opened hs h => exact Or.inr ⟨_, _, h, Or.inr rfl⟩
  | served hs h => exact Or.inr ⟨_, _, h, Or.inl ⟨_, hs, rfl⟩⟩

end Parting

/-! ## What an agent does, stage by stage -/

theorem turn_of_ready (hs : a.stage = .ready) : a.turn sb = some (a.openSocket sb) := by
  unfold turn
  rw [hs]

theorem turn_of_opening (ht : a.told = false) {number : Nat} {due : Option Nat}
    (hs : a.stage = .opening number due) :
    a.turn sb = if isDue sb.now due then some (a.opened sb number) else none := by
  unfold turn
  rw [hs]
  dsimp only
  rw [ht, if_neg Bool.false_ne_true]

theorem turn_of_backoff (ht : a.told = false) {due : Nat} (hs : a.stage = .backoff due) :
    a.turn sb = if due ≤ sb.now then some (some { a with stage := .ready }, sb) else none := by
  unfold turn
  rw [hs]
  dsimp only
  rw [ht, if_neg Bool.false_ne_true]
  simp only [isDue, decide_eq_true_eq]

theorem turn_of_serving {link : Link} (hs : a.stage = .serving link) :
    a.turn sb = a.serveTurn sb link := by
  unfold turn
  rw [hs]

/-! ## What comes first on an open socket -/

/-- What an agent does in a turn on an open socket is the first thing that applies, and it alone. -/
inductive Service (a : Agent) (sb : Switchboard) (link : Link) : Turn → Prop
  /-- It was told to stop. -/
  | stops (ht : a.told = true) :
      Service a sb link (none, sb.close link.socket .normalClosure "Normal Closure")
  /-- The acknowledgment is overdue. -/
  | givesUp (ht : a.told = false) (hack : isDue sb.now link.waitingFor = true) :
      Service a sb link (a.giveUp (sb.close link.socket .connectionAckTimeout
        "Connection acknowledgement timeout") .ackTimeout)
  /-- A pong is overdue. -/
  | misses (ht : a.told = false) (hack : isDue sb.now link.waitingFor = false)
      (hpong : isDue sb.now link.heartbeat.pongDue = true) :
      Service a sb link (a.loseLink sb link .pongTimeout)
  /-- The server was silent for the interval. -/
  | pings (ht : a.told = false) (hack : isDue sb.now link.waitingFor = false)
      (hpong : isDue sb.now link.heartbeat.pongDue = false)
      (hping : isDue sb.now link.heartbeat.nextPing = true) :
      Service a sb link (a.ping sb link)
  /-- A message waits in the outgoing queue. -/
  | sends (ht : a.told = false) (hack : isDue sb.now link.waitingFor = false)
      (hpong : isDue sb.now link.heartbeat.pongDue = false)
      (hping : isDue sb.now link.heartbeat.nextPing = false) {m : Message} {rest : List Message}
      (hout : sb.session.outgoing = some (m :: rest))
      (hnext : sb.nextOutgoing a.epoch =
        some (m, { sb with session := { sb.session with outgoing := some rest } })) :
      Service a sb link
        (a.sendNext { sb with session := { sb.session with outgoing := some rest } } link m)
  /-- There is nothing else to do than to listen. -/
  | listens (ht : a.told = false) (hack : isDue sb.now link.waitingFor = false)
      (hpong : isDue sb.now link.heartbeat.pongDue = false)
      (hping : isDue sb.now link.heartbeat.nextPing = false)
      (hnext : sb.nextOutgoing a.epoch = none) {t : Turn} (h : a.listen sb link = some t) :
      Service a sb link t

theorem service_of_serveTurn {link : Link} {t : Turn} (h : a.serveTurn sb link = some t) :
    a.Service sb link t := by
  unfold serveTurn at h
  cases ht : a.told with
  | true =>
    rw [ht, if_pos rfl] at h
    obtain rfl := Option.some.inj h
    exact .stops ht
  | false =>
    rw [ht, if_neg Bool.false_ne_true] at h
    cases hack : isDue sb.now link.waitingFor with
    | true =>
      rw [hack, if_pos rfl] at h
      obtain rfl := Option.some.inj h
      exact .givesUp ht hack
    | false =>
      rw [hack, if_neg Bool.false_ne_true] at h
      cases hpong : isDue sb.now link.heartbeat.pongDue with
      | true =>
        rw [hpong, if_pos rfl] at h
        obtain rfl := Option.some.inj h
        exact .misses ht hack hpong
      | false =>
        rw [hpong, if_neg Bool.false_ne_true] at h
        cases hping : isDue sb.now link.heartbeat.nextPing with
        | true =>
          rw [hping, if_pos rfl] at h
          obtain rfl := Option.some.inj h
          exact .pings ht hack hpong hping
        | false =>
          rw [hping, if_neg Bool.false_ne_true] at h
          split at h
          · next m sb' hnext =>
            obtain rfl := Option.some.inj h
            obtain ⟨rest, hout, rfl⟩ := Switchboard.nextOutgoing_eq_some hnext
            exact .sends ht hack hpong hping hout hnext
          · next hnext => exact .listens ht hack hpong hping hnext h

/-- An agent has to wait on an open socket only if it was not told to stop, no timer is due, and
there is nothing to send and nothing to read. -/
theorem waits_of_serveTurn {link : Link} (h : a.serveTurn sb link = none) :
    a.told = false ∧ isDue sb.now link.waitingFor = false ∧
      isDue sb.now link.heartbeat.pongDue = false ∧
      isDue sb.now link.heartbeat.nextPing = false ∧ sb.nextOutgoing a.epoch = none ∧
      a.listen sb link = none := by
  unfold serveTurn at h
  split at h
  · cases h
  · next ht =>
    split at h
    · cases h
    · next hack =>
      split at h
      · cases h
      · next hpong =>
        split at h
        · cases h
        · next hping =>
          split at h
          · cases h
          · next hnext =>
            exact ⟨Bool.eq_false_iff.2 ht, Bool.eq_false_iff.2 hack, Bool.eq_false_iff.2 hpong,
              Bool.eq_false_iff.2 hping, hnext, h⟩

/-- What an agent does in a turn depends on its stage. -/
inductive Conduct (a : Agent) (sb : Switchboard) : Turn → Prop
  /-- It asks for a socket, or leaves. -/
  | asks (hs : a.stage = .ready) : Conduct a sb (a.openSocket sb)
  /-- It was told to stop while it waited. -/
  | leaves (ht : a.told = true) (hs : ∀ link, a.stage ≠ .serving link) : Conduct a sb (none, sb)
  /-- It learns what became of the socket that it asked for. -/
  | learns {number : Nat} {due : Option Nat} (ht : a.told = false)
      (hs : a.stage = .opening number due) (hdue : isDue sb.now due = true) :
      Conduct a sb (a.opened sb number)
  /-- Its wait is over. -/
  | wakes {due : Nat} (ht : a.told = false) (hs : a.stage = .backoff due) (hdue : due ≤ sb.now) :
      Conduct a sb (some { a with stage := .ready }, sb)
  | serves {link : Link} (hs : a.stage = .serving link) {t : Turn} (h : a.Service sb link t) :
      Conduct a sb t

theorem conduct_of_turn {t : Turn} (h : a.turn sb = some t) : a.Conduct sb t := by
  cases hs : a.stage with
  | ready =>
    rw [turn_of_ready hs] at h
    obtain rfl := Option.some.inj h
    exact .asks hs
  | opening number due =>
    cases ht : a.told with
    | true =>
      unfold turn at h
      rw [hs] at h
      dsimp only at h
      rw [if_pos ht] at h
      obtain rfl := Option.some.inj h
      exact .leaves ht (by simp [hs])
    | false =>
      rw [turn_of_opening ht hs] at h
      split at h
      · next hdue =>
        obtain rfl := Option.some.inj h
        exact .learns ht hs hdue
      · cases h
  | serving link =>
    rw [turn_of_serving hs] at h
    exact .serves hs (service_of_serveTurn h)
  | backoff due =>
    cases ht : a.told with
    | true =>
      unfold turn at h
      rw [hs] at h
      dsimp only at h
      rw [if_pos ht] at h
      obtain rfl := Option.some.inj h
      exact .leaves ht (by simp [hs])
    | false =>
      rw [turn_of_backoff ht hs] at h
      split at h
      · next hdue =>
        obtain rfl := Option.some.inj h
        exact .wakes ht hs hdue
      · cases h

/-! ## Every turn is a move -/

/-- The agent goes on with its socket whether a message of the outgoing queue was sent or not. -/
theorem sendNext_eq {link : Link} (hcur : sb.isOutdated a.epoch = false) (m : Message) :
    a.sendNext sb link m = match sb.send link.socket (.message m) with
      | (none, sb) => a.serve sb link
      | (some e, sb) => a.serve (sb.abandon m e) link := by
  have hin : (sb.send link.socket (.message m)).2.isOutdated a.epoch = false := hcur
  unfold sendNext
  rcases hsend : sb.send link.socket (.message m) with ⟨failure, sb'⟩
  rw [hsend] at hin
  cases failure with
  | none => rfl
  | some e =>
    dsimp only at hin ⊢
    unfold Switchboard.abandon
    cases m.id? with
    | none => rfl
    | some id => simp only [Switchboard.endOne, hin, Bool.false_eq_true, if_false]

section Moves

variable {sb₁ : Switchboard} {link : Link}

/-- An agent of the session ends it by giving up. -/
theorem giveUp_eq (hcur : sb.isOutdated a.epoch = false) (error : ConnectionError) :
    a.giveUp sb error = (none, sb.commit (sb.session.terminate error)) := by
  simp [giveUp, Switchboard.terminate, hcur]

theorem move_giveUp (ht : a.told = false) (hcur : sb.isOutdated a.epoch = false)
    (h : a.Parting sb sb₁) (error : ConnectionError) : a.Move sb (a.giveUp sb₁ error) := by
  have hin : sb₁.isOutdated a.epoch = false := by rw [h.isOutdated, hcur]
  rw [giveUp_eq hin]
  exact Move.ended ht h error

/-- A loss ends the session if the budget is used up. -/
theorem lose_of_exhausted (hcur : sb.isOutdated a.epoch = false) (error : ConnectionError)
    {acknowledged : Bool}
    (hbudget : sb.settings.maxReconnects ≤ if acknowledged then 0 else a.attempt) :
    a.lose sb error acknowledged = (none, sb.commit (sb.session.terminate
      (.retriesExhausted (if acknowledged then 0 else a.attempt) error))) := by
  unfold lose
  dsimp only
  rw [if_pos hbudget, giveUp_eq hcur]

/-- A loss within the budget is followed by another attempt. -/
theorem lose_of_budget (hcur : sb.isOutdated a.epoch = false) (error : ConnectionError)
    {acknowledged : Bool} {attempt : Nat}
    (hattempt : attempt = if acknowledged then 0 else a.attempt)
    (hbudget : attempt < sb.settings.maxReconnects) : ∃ due retries,
    a.lose sb error acknowledged = (some { a with attempt := attempt + 1, stage := .backoff due },
      { sb.withSession (sb.session.suspend sb.listening) with retries }.note
        (.retrying attempt)) := by
  unfold lose
  dsimp only
  rw [← hattempt, if_neg (Nat.not_le_of_lt hbudget)]
  simp only [Switchboard.suspend, hcur, Bool.false_eq_true, if_false]
  exact ⟨_, _, rfl⟩

theorem move_lose (ht : a.told = false) (hcur : sb.isOutdated a.epoch = false)
    (h : a.Parting sb sb₁) (error : ConnectionError) (acknowledged : Bool) :
    a.Move sb (a.lose sb₁ error acknowledged) := by
  have hin : sb₁.isOutdated a.epoch = false := by rw [h.isOutdated, hcur]
  rcases Nat.lt_or_ge (if acknowledged then 0 else a.attempt) sb₁.settings.maxReconnects
    with hbudget | hbudget
  · obtain ⟨due, retries, hlose⟩ := lose_of_budget hin error rfl hbudget
    rw [hlose]
    rw [h.settings] at hbudget
    exact Move.retry ht h hbudget
  · rw [lose_of_exhausted hin error hbudget]
    exact Move.ended ht h _

theorem move_loseLink (ht : a.told = false) (hs : a.stage = .serving link)
    (hcur : sb.isOutdated a.epoch = false) {news : List Notice}
    (h : sb.Traffic link.socket news sb₁) (link' : Link) (hsocket : link'.socket = link.socket)
    (error : ConnectionError) : a.Move sb (a.loseLink sb₁ link' error) := by
  unfold loseLink
  rw [hsocket]
  obtain ⟨seen, hdrop⟩ := sb₁.traffic_drop link.socket h.bound
  exact move_lose ht hcur (.served hs (h.trans hdrop)) error _

theorem move_reject (ht : a.told = false) (hs : a.stage = .serving link)
    (hcur : sb.isOutdated a.epoch = false) {news : List Notice}
    (h : sb.Traffic link.socket news sb₁) (link' : Link) (hsocket : link'.socket = link.socket)
    (error : ConnectionError) : a.Move sb (a.reject sb₁ link' error) := by
  unfold reject
  rw [hsocket]
  obtain ⟨news', hclose⟩ := sb₁.traffic_close link.socket h.bound .badResponse "Bad response"
  exact move_giveUp ht hcur (.served hs (h.trans hclose)) error

theorem move_openSocket (hs : a.stage = .ready)
    (hcur : a.told = false → sb.isOutdated a.epoch = false) : a.Move sb (a.openSocket sb) := by
  unfold openSocket
  by_cases ht : a.told = true
  · rw [if_pos (by rw [ht, Bool.or_true])]
    exact Move.leave ht (by simp [hs])
  · have ht := Bool.eq_false_iff.2 ht
    rw [if_neg (by simp [hcur ht, ht])]
    exact Move.ask ht hs

theorem move_opened (ht : a.told = false) {number : Nat} {due : Option Nat}
    (hs : a.stage = .opening number due) (hcur : sb.isOutdated a.epoch = false) :
    a.Move sb (a.opened sb number) := by
  unfold opened
  cases hopen : sb.finishOpen number with
  | error e => exact move_lose ht hcur (.unopened hs) _ _
  | ok result =>
    obtain ⟨k, sb₁⟩ := result
    obtain ⟨rfl, hopened, hclient⟩ := Switchboard.exchange_finishOpen hopen
    obtain ⟨arrived, hsend⟩ := sb₁.exchange_send sb.lines.length hopened.bound
      (.message (.connectionInit a.params))
    have hall := hopened.trans hsend
    dsimp only
    unfold greet
    split
    · next e sb₂ heq =>
      rw [heq] at hall
      obtain ⟨seen, hdrop⟩ := sb₂.traffic_drop sb.lines.length hall.bound
      exact move_lose ht hcur (.opened hs (hall.toTraffic.trans hdrop)) _ _
    · next sb₂ heq =>
      rw [heq] at hall hsend
      refine Move.greet ht hs rfl rfl hall (hsend.client.trans hclient) fun notice hn => ?_
      rcases List.mem_append.1 hn with hn | hn
      · rw [List.mem_singleton.1 hn]; rfl
      · rw [List.mem_singleton.1 hn]; rfl

variable (ht : a.told = false) (hs : a.stage = .serving link)
  (hcur : sb.isOutdated a.epoch = false)

include ht hs hcur

theorem move_ping (hk : link.socket < sb.lines.length) : a.Move sb (a.ping sb link) := by
  obtain ⟨arrived, hsend⟩ := sb.exchange_send link.socket hk
    (.message (.ping sb.settings.pingPayload))
  unfold ping
  split
  · next e sb₂ heq =>
    rw [heq] at hsend
    exact move_loseLink ht hs hcur hsend.toTraffic link rfl _
  · next sb₂ heq =>
    rw [heq] at hsend
    refine Move.idle ht hs rfl rfl hsend fun notice hn => ?_
    rw [List.mem_singleton.1 hn]; rfl

theorem move_sendNext (hk : link.socket < sb.lines.length) {m : Message} {rest : List Message}
    (hout : sb.session.outgoing = some (m :: rest)) :
    a.Move sb
      (a.sendNext { sb with session := { sb.session with outgoing := some rest } } link m) := by
  obtain ⟨arrived, hsend⟩ := Switchboard.exchange_send
    { sb with session := { sb.session with outgoing := some rest } } link.socket hk (.message m)
  have hin : ({ sb with session := { sb.session with outgoing := some rest } } :
      Switchboard).isOutdated a.epoch = false := hcur
  rw [sendNext_eq hin]
  split
  · next sb₂ heq =>
    rw [heq] at hsend
    exact Move.deliver ht hs hout hsend
  · next e sb₂ heq =>
    rw [heq] at hsend
    exact Move.undeliverable ht hs hout hsend e

variable {link' : Link} (hsocket : link'.socket = link.socket)
  (hack : link'.acknowledged = link.acknowledged)

include hsocket hack

theorem move_receive {m : Message}
    (h : sb.Exchange link.socket [.received link.socket (.ok (.message m))] sb₁) :
    a.Move sb (a.receive sb₁ link' m) := by
  have hin : sb₁.isOutdated a.epoch = false := by rw [h.isOutdated, hcur]
  have hreject := fun error => move_reject ht hs hcur h.toTraffic link' hsocket error
  have hidle (hq : Notice.isQuiet (.received link.socket (.ok (.message m))) = true) :
      a.Move sb (a.serve sb₁ link') :=
    Move.idle ht hs hsocket hack h fun notice hn => List.mem_singleton.1 hn ▸ hq
  -- an item for a subscription is taken only after the acknowledgment
  have hroute {id : String} {item : Item} (hitem : m.item? = some (id, item)) :
      a.Move sb (if link'.acknowledged then
        a.serveUnlessOutdated link' (sb₁.route a.epoch id item)
      else a.reject sb₁ link' (.unexpectedMessage m.kind.name)) := by
    split
    · next hacked =>
      simp only [Switchboard.route, hin, Bool.false_eq_true, if_false, serveUnlessOutdated]
      exact Move.route ht hs (hack ▸ hacked) hsocket hacked hitem h
    · exact hreject _
  cases m with
  | connectionInit payload => exact hreject _
  | connectionAck payload =>
    unfold receive
    dsimp only
    split
    · exact hidle rfl
    · next hacked =>
      simp only [Switchboard.acknowledge, hin, Bool.false_eq_true, if_false, serveUnlessOutdated]
      refine Move.acknowledge ht hs ?_ hsocket rfl h
      rw [← hack]
      exact Bool.eq_false_iff.2 hacked
  | ping payload =>
    obtain ⟨arrived, hsend⟩ := sb₁.exchange_send link.socket h.bound (.message (.pong payload))
    have hall := h.trans hsend
    unfold receive
    dsimp only
    rw [hsocket]
    split
    · next e sb₂ heq =>
      rw [heq] at hall
      exact move_loseLink ht hs hcur hall.toTraffic link' hsocket _
    · next sb₂ heq =>
      rw [heq] at hall
      refine Move.idle ht hs hsocket hack hall fun notice hn => ?_
      rcases List.mem_append.1 hn with hn | hn
      · rw [List.mem_singleton.1 hn]; rfl
      · rw [List.mem_singleton.1 hn]; rfl
  | pong payload => exact hidle rfl
  | subscribe id operation => exact hreject _
  | next id result => exact hroute rfl
  | error id errors => exact hroute rfl
  | complete id => exact hroute rfl

theorem move_receiveUndecodable {error : DecodeError}
    (h : sb.Exchange link.socket [.received link.socket (.error error)] sb₁) :
    a.Move sb (a.receiveUndecodable sb₁ link' error) := by
  have hin : sb₁.isOutdated a.epoch = false := by rw [h.isOutdated, hcur]
  have hreject := fun error => move_reject ht hs hcur h.toTraffic link' hsocket error
  unfold receiveUndecodable
  split
  · next id hid =>
    split
    · next hacked =>
      simp only [Switchboard.endOne, hin, Bool.false_eq_true, if_false, serveUnlessOutdated]
      exact Move.endOne ht hs (hack ▸ hacked) hsocket hacked hid h
    · exact hreject _
  · exact hreject _

omit hsocket hack

theorem move_receiveClose {frame : CloseFrame} {news : List Notice}
    (h : sb.Traffic link.socket news sb₁) : a.Move sb (a.receiveClose sb₁ link frame) := by
  unfold receiveClose
  dsimp only
  split
  · obtain ⟨seen, hdrop⟩ := sb₁.traffic_drop link.socket h.bound
    exact move_giveUp ht hcur (.served hs (h.trans hdrop)) _
  · exact move_loseLink ht hs hcur h link rfl _

theorem move_listen (hk : link.socket < sb.lines.length) {t : Turn}
    (hturn : a.listen sb link = some t) : a.Move sb t := by
  have hset := sb.traffic_setLine link.socket hk (sb.line link.socket).recv.2
  have hread := sb.exchange_received link.socket hk
  unfold listen at hturn
  split at hturn
  · cases hturn
  · next line heq =>
    rw [heq] at hset
    obtain rfl := Option.some.inj hturn
    exact move_loseLink ht hs hcur hset link rfl _
  · next e line heq =>
    rw [heq] at hset
    obtain rfl := Option.some.inj hturn
    exact move_loseLink ht hs hcur hset link rfl _
  · next frame line heq =>
    rw [heq] at hread
    dsimp only at hturn hread
    obtain rfl := Option.some.inj hturn
    have hsocket : (link.heard sb.now).socket = link.socket := rfl
    have hread := hread (Incoming.ofFrame frame)
    revert hread
    cases Incoming.ofFrame frame with
    | error e => exact fun hread => move_receiveUndecodable ht hs hcur hsocket rfl hread
    | ok item =>
      cases item with
      | closed frame => exact fun hread => move_receiveClose ht hs hcur hread.toTraffic
      | message m => exact fun hread => move_receive ht hs hcur hsocket rfl hread

end Moves

theorem move_of_service {link : Link} (hs : a.stage = .serving link)
    (hk : link.socket < sb.lines.length)
    (hcur : a.told = false → sb.isOutdated a.epoch = false) {t : Turn}
    (h : a.Service sb link t) : a.Move sb t := by
  cases h with
  | stops ht =>
    obtain ⟨news, hclose⟩ := sb.traffic_close link.socket hk .normalClosure "Normal Closure"
    exact Move.hangUp ht hs hclose
  | givesUp ht =>
    obtain ⟨news, hclose⟩ := sb.traffic_close link.socket hk .connectionAckTimeout
      "Connection acknowledgement timeout"
    exact move_giveUp ht (hcur ht) (.served hs hclose) _
  | misses ht =>
    exact move_loseLink ht hs (hcur ht) (Switchboard.Traffic.refl hk) link rfl _
  | pings ht => exact move_ping ht hs (hcur ht) hk
  | sends ht hack hpong hping hout => exact move_sendNext ht hs (hcur ht) hk hout
  | listens ht hack hpong hping hnext h => exact move_listen ht hs (hcur ht) hk h

/-- Every turn is a move, if the agent's socket is one that opened and an agent that was not told
to stop belongs to the session as it is. -/
theorem move_of_turn (hk : ∀ link, a.stage = .serving link → link.socket < sb.lines.length)
    (hcur : a.told = false → sb.isOutdated a.epoch = false) {t : Turn}
    (hturn : a.turn sb = some t) : a.Move sb t := by
  cases conduct_of_turn hturn with
  | asks hs => exact move_openSocket hs hcur
  | leaves ht hs => exact Move.leave ht hs
  | learns ht hs hdue => exact move_opened ht hs (hcur ht)
  | wakes ht hs hdue => exact Move.wake ht hs
  | serves hs h => exact move_of_service hs (hk _ hs) hcur h

end Agent

end LiveQuery
