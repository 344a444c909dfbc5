import LiveQuery.Proofs.Turn
import LiveQuery.Session.Client

/-!
# Runs of a client

A run is a list of events: calls, what the other end does, turns of any agent, and milliseconds
that pass (`Event`, `Client.run`). An event that cannot happen changes nothing. By itself a client
gives the first agent that can do something a turn, so it is settled when every agent has to wait
(`Client.isSettled_iff`).
-/

namespace LiveQuery

open Json (Value Members)

/-- What can happen to a client. -/
inductive Event where
  | start
  | startWith (params : Except Json.Error Value)
  | subscribe (operation : Operation)
  | stop
  | clone
  | dropHandle
  | cancel (consumer : Nat)
  | cancelByHandle (consumer : Nat)
  | dropSubscription (consumer : Nat)
  | poll (consumer : Nat)
  | dropHandshake (handshake : Nat)
  | serverSend (socket : Nat) (frame : Frame)
  | serverClose (socket : Nat) (frame : CloseFrame)
  | serverDrop (socket : Nat)
  | stopAccepting
  | failReceive (socket : Nat) (doing : String)
  | failSends (socket : Nat) (fault : SendFault)
  /-- A turn of the agent at a place. -/
  | turn (place : Nat)
  /-- A millisecond passes. -/
  | pass

namespace Event

/-- Does a caller start a session or subscribe? -/
def starts : Event → Bool
  | .start | .startWith _ | .subscribe _ => true
  | _ => false

/-- Does somebody make the transport fail? -/
def isFault : Event → Bool
  | .failReceive .. | .failSends .. => true
  | _ => false

/-- Does an agent have its turn? -/
def isTurn : Event → Bool
  | .turn _ => true
  | _ => false

theorem eq_turn_of_isTurn {e : Event} (h : e.isTurn = true) : ∃ place, e = .turn place := by
  cases e with
  | turn place => exact ⟨place, rfl⟩
  | _ => cases h

theorem quiet_of_isTurn {e : Event} (h : e.isTurn = true) :
    e.starts = false ∧ e.isFault = false := by
  cases e with
  | turn place => exact ⟨rfl, rfl⟩
  | _ => cases h

/-- Does somebody cancel a subscription, through itself or through a handle? -/
def cancels (n : Nat) : Event → Bool
  | .cancel m | .cancelByHandle m => m == n
  | _ => false

end Event

namespace Client

/-- A client before anything happened. -/
def create (settings : Settings) (transport : Transport) (newId : Nat → String) : Client :=
  { board := { settings, transport }, newId }

/-- One turn of the agent at a place; nothing happens if there is none or it has to wait. -/
def turnAt (c : Client) (place : Nat) : Client :=
  match c.agents[place]? with
  | none => c
  | some a =>
    match a.turn c.board with
    | none => c
    | some (o, board) =>
      { c with agents := c.agents.take place ++ (o.toList ++ c.agents.drop (place + 1)), board }

/-- A millisecond passes. -/
def pass (c : Client) : Client := c.mapBoard fun sb => { sb with now := sb.now + 1 }

/-- Can an event happen? Calls need a handle, what is done with a subscription needs the
subscription, and the server needs its end of the socket. -/
def allows (c : Client) : Event → Bool
  | .start | .startWith _ | .subscribe _ | .stop | .clone | .dropHandle => 0 < c.handles
  | .cancel n | .dropSubscription n | .poll n => c.board.listening n
  | .serverSend k _ | .serverClose k _ | .serverDrop k => (c.board.line k).pair.server
  | _ => true

/-- What an event does that can happen. -/
def undergo (c : Client) : Event → Client
  | .start => (c.start.toOption.map Prod.snd).getD c
  | .startWith params => ((c.startWith params).toOption.map Prod.snd).getD c
  | .subscribe operation => (c.subscribe operation).2
  | .stop => c.stop
  | .clone => c.clone
  | .dropHandle => c.dropHandle
  | .cancel n => c.cancel n
  | .cancelByHandle n => c.cancelByHandle n
  | .dropSubscription n => c.dropSubscription n
  | .poll n => (c.poll n).2
  | .dropHandshake h => c.dropHandshake h
  | .serverSend k frame => (c.serverSend k frame).2
  | .serverClose k frame => c.serverClose k frame
  | .serverDrop k => c.serverDrop k
  | .stopAccepting => c.stopAccepting
  | .failReceive k doing => c.failReceive k doing
  | .failSends k fault => c.failSends k fault
  | .turn place => c.turnAt place
  | .pass => c.pass

/-- The client after an event. -/
def perform (c : Client) (e : Event) : Client := if c.allows e then c.undergo e else c

/-- The client after a list of events. -/
def run (c : Client) (es : List Event) : Client := es.foldl perform c

@[simp] theorem run_nil (c : Client) : c.run [] = c := rfl

@[simp] theorem run_cons (c : Client) (e : Event) (es : List Event) :
    c.run (e :: es) = (c.perform e).run es := rfl

theorem run_append (c : Client) (es es' : List Event) :
    c.run (es ++ es') = (c.run es).run es' := List.foldl_append

/-- Time passes only when nothing is left to do before. -/
def OnTime (c : Client) : List Event → Prop
  | [] => True
  | e :: es => (e matches .pass → c.isSettled = true) ∧ (c.perform e).OnTime es

instance decidableOnTime (c : Client) : (es : List Event) → Decidable (c.OnTime es)
  | [] => isTrue trivial
  | e :: es =>
    letI := decidableOnTime (c.perform e) es
    inferInstanceAs (Decidable ((e matches .pass → c.isSettled = true) ∧ (c.perform e).OnTime es))

/-- Agents have turns, and one client becomes the other. -/
def Works (c c' : Client) : Prop := ∃ es, (∀ e ∈ es, Event.isTurn e = true) ∧ c.run es = c'

namespace Works

variable {c c' c'' : Client}

theorem refl (c : Client) : c.Works c := ⟨[], fun _ he => absurd he List.not_mem_nil, rfl⟩

theorem trans (h : c.Works c') (h' : c'.Works c'') : c.Works c'' := by
  obtain ⟨es, hes, rfl⟩ := h
  obtain ⟨es', hes', rfl⟩ := h'
  refine ⟨es ++ es', fun e he => ?_, run_append c es es'⟩
  rcases List.mem_append.1 he with he | he
  · exact hes e he
  · exact hes' e he

end Works

/-- Turns alone take no time. -/
theorem onTime_of_turns {c : Client} {es : List Event} (h : ∀ e ∈ es, Event.isTurn e = true) :
    c.OnTime es := by
  induction es generalizing c with
  | nil => trivial
  | cons e es ih =>
    refine ⟨?_, ih fun e' he' => h e' (List.mem_cons_of_mem _ he')⟩
    have he := h e (List.mem_cons_self ..)
    cases e with
    | turn place => exact nofun
    | _ => cases he

/-! ## The agents of a client -/

/-- The agent of the session as it is: the one that was not told to stop. -/
def current? (c : Client) : Option Agent := c.agents.find? fun a => !a.told

/-- The reconnects of the session as it is. -/
def attempt (c : Client) : Nat := (c.current?.map Agent.attempt).getD 0

/-- The socket in use by the session as it is. -/
def currentLink? (c : Client) : Option Link :=
  c.current?.bind fun a => match a.stage with
    | .serving link => some link
    | _ => none

/-- The socket in use is that of the agent that was not told to stop. -/
theorem current_of_currentLink? {c : Client} {link : Link} (h : c.currentLink? = some link) :
    ∃ a ∈ c.agents, a.told = false ∧ a.stage = .serving link ∧ a.attempt = c.attempt := by
  unfold currentLink? at h
  cases hcurrent : c.current? with
  | none =>
    rw [hcurrent] at h
    cases h
  | some a =>
    rw [hcurrent, Option.bind_some] at h
    split at h
    · next link' hs =>
      obtain rfl := Option.some.inj h
      refine ⟨a, List.mem_of_find?_eq_some hcurrent, ?_, hs, ?_⟩
      · simpa using List.find?_some hcurrent
      · unfold attempt
        rw [hcurrent]
        rfl
    · cases h

theorem turnAt_split {c : Client} {pre post : List Agent} {a : Agent}
    (h : c.agents = pre ++ a :: post) {o : Option Agent} {board : Switchboard}
    (ht : a.turn c.board = some (o, board)) :
    c.turnAt pre.length = { c with agents := pre ++ (o.toList ++ post), board } := by
  have hget : c.agents[pre.length]? = some a := by simp [h]
  unfold turnAt
  rw [hget]
  dsimp only
  rw [ht]
  simp [h]

/-- The agent at a place is among the others. -/
theorem agents_at {c : Client} {place : Nat} {a : Agent} (ha : c.agents[place]? = some a) :
    c.agents = c.agents.take place ++ a :: c.agents.drop (place + 1) := by
  obtain ⟨hlt, rfl⟩ := List.getElem?_eq_some_iff.1 ha
  rw [← List.drop_eq_getElem_cons hlt, List.take_append_drop]

/-- A turn of an agent among the others is work. -/
theorem works_turn {c : Client} {pre post : List Agent} {a : Agent}
    (h : c.agents = pre ++ a :: post) {t : Turn} (ht : a.turn c.board = some t) :
    c.Works { c with agents := pre ++ (t.1.toList ++ post), board := t.2 } :=
  ⟨[.turn pre.length], fun e he => by rw [List.mem_singleton.1 he]; rfl, turnAt_split h ht⟩

/-- A turn at a place is the turn of an agent among the others, or nothing. -/
theorem turnAt_cases (c : Client) (place : Nat) : c.turnAt place = c ∨
    ∃ pre a post o board, c.agents = pre ++ a :: post ∧ a.turn c.board = some (o, board) ∧
      c.turnAt place = { c with agents := pre ++ (o.toList ++ post), board } := by
  cases hget : c.agents[place]? with
  | none =>
    left
    unfold turnAt
    rw [hget]
  | some a =>
    cases ht : a.turn c.board with
    | none =>
      left
      unfold turnAt
      rw [hget]
      dsimp only
      rw [ht]
    | some t =>
      right
      refine ⟨_, _, _, t.1, t.2, agents_at hget, ht, ?_⟩
      unfold turnAt
      rw [hget]
      dsimp only
      rw [ht]

/-! ## The first turn -/

theorem firstTurn_eq_some {sb sb' : Switchboard} {agents agents' : List Agent}
    (h : firstTurn sb agents = some (agents', sb')) : ∃ pre a post o,
      agents = pre ++ a :: post ∧ a.turn sb = some (o, sb') ∧
        agents' = pre ++ (o.toList ++ post) := by
  induction agents generalizing agents' with
  | nil => cases h
  | cons a rest ih =>
    unfold firstTurn at h
    split at h
    · next o sb₁ ht =>
      cases h
      exact ⟨[], a, rest, o, rfl, ht, rfl⟩
    · simp only [Option.map_eq_some_iff, Prod.mk.injEq, Prod.exists] at h
      obtain ⟨rest', sb₁, h, rfl, rfl⟩ := h
      obtain ⟨pre, b, post, o, rfl, ht, rfl⟩ := ih h
      exact ⟨a :: pre, b, post, o, rfl, ht, rfl⟩

theorem firstTurn_eq_none {sb : Switchboard} {agents : List Agent} :
    firstTurn sb agents = none ↔ ∀ a ∈ agents, a.turn sb = none := by
  induction agents with
  | nil => simp [firstTurn]
  | cons a rest ih =>
    unfold firstTurn
    cases ht : a.turn sb with
    | some t => simp [ht]
    | none => simp [ht, ih]

/-- A client is settled when every agent has to wait. -/
theorem isSettled_iff {c : Client} :
    c.isSettled = true ↔ ∀ a ∈ c.agents, a.turn c.board = none := by
  unfold isSettled turn
  rw [Option.isNone_map, Option.isNone_iff_eq_none, firstTurn_eq_none]

theorem perform_turn (c : Client) (place : Nat) : c.perform (.turn place) = c.turnAt place := rfl

/-- In a turn a client does what one of its agents does, or nothing. -/
theorem perform_cases (c : Client) {e : Event} (he : e.isTurn = true) : c.perform e = c ∨
    ∃ pre a post o board, c.agents = pre ++ a :: post ∧ a.turn c.board = some (o, board) ∧
      c.perform e = { c with agents := pre ++ (o.toList ++ post), board } := by
  obtain ⟨place, rfl⟩ := Event.eq_turn_of_isTurn he
  exact c.turnAt_cases place

theorem perform_turn_of {c : Client} {place : Nat} {a : Agent} {t : Turn}
    (ha : c.agents[place]? = some a) (ht : a.turn c.board = some t) : c.perform (.turn place) =
      { c with
        agents := c.agents.take place ++ (t.1.toList ++ c.agents.drop (place + 1))
        board := t.2 } := by
  rw [perform_turn]
  unfold turnAt
  rw [ha]
  dsimp only
  rw [ht]

/-! ## A client to look at -/

/-- Ids that never repeat: strokes. -/
def tally (n : Nat) : String := String.ofList (List.replicate n '|')

theorem tally_injective : Function.Injective tally := by
  intro n m h
  have hlength := congrArg (fun s : String => s.toList.length) h
  simpa [tally] using hlength

/-- No pings, no deadlines, and always the same wait. -/
def untimed : Settings := { pingInterval := 0, wait := fun _ _ => 10 }

/-- A subscription is asked for and its socket opens. -/
def greeting : List Event :=
  [.subscribe { query := "subscription { a }" }, .turn 0, .turn 0]

/-- The server acknowledges. -/
def acknowledgment : Event := .serverSend 0 (.text (Message.connectionAck none).encode)

end Client

end LiveQuery
