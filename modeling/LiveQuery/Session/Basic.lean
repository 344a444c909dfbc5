import LiveQuery.Session.Consumer
import LiveQuery.Session.Roster

/-!
# Sessions

A session as its caller and its agent see it, and the operations of both. An operation returns
the new session and the effects it has outside: items for consumers and results for handshakes.
What goes to the server is appended to the outgoing queue, which is there exactly while the
session is acknowledged. `listening` tells which consumers are still there.
-/

namespace LiveQuery

open Json (Members)

/-- The phases of a session. -/
inductive Phase where
  /-- No socket; a subscription is refused or starts the session. -/
  | notStarted
  /-- A socket is being opened or waits for its acknowledgment; subscriptions wait. -/
  | connecting
  /-- The server has acknowledged; subscriptions are sent at once. -/
  | acknowledged
deriving DecidableEq, Repr, Inhabited

/-- A value that others watch, with the number of its changes. -/
structure Watch where
  value : Phase := .notStarted
  version : Nat := 0
deriving DecidableEq, Repr, Inhabited

/-- The result of a handshake: the payload of the acknowledgment, or what ended the session. -/
abbrev HandshakeOutcome := Except ConnectionError (Option Members)

/-- What an operation does outside the session. -/
inductive Effect where
  /-- An item for a consumer. -/
  | deliver (consumer : Nat) (item : Item)
  /-- The result of a handshake. -/
  | resolve (handshake : Nat) (result : HandshakeOutcome)
deriving Repr

/-- The fields that caller and agent share. -/
structure Session where
  phase : Phase := .notStarted
  /-- The number of starts and stops so far; an agent of another number has no say. -/
  epoch : Nat := 0
  /-- Ids that wait for the acknowledgment, in the order of submission. -/
  pending : List String := []
  roster : Roster := {}
  /-- The messages under way to the current socket. -/
  outgoing : Option (List Message) := none
  /-- The handshakes without a result. -/
  handshakes : List Nat := []
  /-- The phase as others watch it. -/
  watch : Watch := {}
deriving Repr

namespace Session

/-- Enters a phase; watchers see it only if it is another one. -/
def moveTo (s : Session) (phase : Phase) : Session :=
  if s.phase = phase then s
  else { s with phase, watch := ⟨phase, s.watch.version + 1⟩ }

/-- Appends a message to the outgoing queue, if there is one. -/
def send (s : Session) (m : Message) : Session :=
  { s with outgoing := s.outgoing.map (· ++ [m]) }

/-- Appends messages one after another. -/
def sendAll (s : Session) (ms : List Message) : Session := ms.foldl send s

/-- Forgets the subscriptions whose consumer is gone. An acknowledged server knows them, so it is
told. -/
def prune (s : Session) (listening : Nat → Bool) : Session :=
  let (ids, roster) := s.roster.prune listening
  let s := { s with roster, pending := s.pending.filter fun id => !ids.contains id }
  if s.phase = .acknowledged then s.sendAll (ids.map .complete) else s

/-- Starts the session with a handshake that waits. -/
def start (s : Session) (handshake : Nat) : Session :=
  { s with epoch := s.epoch + 1, handshakes := s.handshakes ++ [handshake] }.moveTo .connecting

/-- Takes a subscription on: it is sent at once or waits for the acknowledgment. -/
def subscribe (s : Session) (listening : Nat → Bool) (id : String) (operation : Operation)
    (consumer : Nat) : Session :=
  let s := s.prune listening
  let s := { s with roster := s.roster.insert id operation consumer }
  if s.phase = .acknowledged then s.send (.subscribe id operation)
  else { s with pending := s.pending ++ [id] }

/-- Ends a subscription for its caller. -/
def cancel (s : Session) (id : String) : Session :=
  match s.roster.find? id with
  | none => s
  | some _ =>
    let s := { s with roster := s.roster.erase id }
    match s.phase with
    | .acknowledged => s.send (.complete id)
    | .connecting => { s with pending := s.pending.filter (· != id) }
    | .notStarted => s

/-- Ends the session: every subscription and every handshake gets the error. -/
def terminate (s : Session) (error : ConnectionError) : Session × List Effect :=
  let (entries, roster) := s.roster.takeAll
  let effects := entries.map (fun e => Effect.deliver e.consumer (.error (.connection error))) ++
    s.handshakes.map fun h => Effect.resolve h (.error error)
  ({ s with roster, pending := [], outgoing := none, handshakes := [] }.moveTo .notStarted,
    effects)

/-- Stops the session for its caller. -/
def stop (s : Session) : Session × List Effect :=
  if s.phase = .notStarted then (s, [])
  else { s with epoch := s.epoch + 1 }.terminate .stopped

/-- The messages for the ids that wait and are still registered. -/
def waitingMessages (s : Session) : List Message :=
  s.pending.filterMap fun id => (s.roster.operation? id).map (Message.subscribe id)

/-- The server acknowledges: what waited is sent in order. -/
def acknowledge (s : Session) (listening : Nat → Bool) (payload : Option Members) :
    Session × List Effect :=
  let s := s.prune listening
  -- what was cancelled while it waited has left the roster and is not sent
  let messages := s.waitingMessages
  let effects := s.handshakes.map fun h => Effect.resolve h (.ok payload)
  let s := { s with outgoing := some [] }.moveTo .acknowledged
  ({ s.sendAll messages with pending := [], handshakes := [] }, effects)

/-- The socket is lost and another one will be opened: every subscription waits again. -/
def suspend (s : Session) (listening : Nat → Bool) : Session :=
  -- the phase changes before the pruning, so no message is queued for a lost socket
  let s := ({ s with outgoing := none }.moveTo .connecting).prune listening
  { s with pending := s.roster.ids }

/-- Hands an item from the server to its subscription. A server that goes on with a subscription
whose consumer is gone is told to end it. -/
def route (s : Session) (listening : Nat → Bool) (id : String) (item : Item) :
    Session × List Effect :=
  let (outcome, roster) := s.roster.route listening id item.isLast
  -- the consumer is looked up before the roster forgets it
  let effects := (s.roster.find? id).toList.map fun e => Effect.deliver e.consumer item
  let s := { s with roster }
  (if outcome = .abandoned then s.send (.complete id) else s, effects)

/-- Ends one subscription with an error; the server is told if `notify` says so. -/
def endOne (s : Session) (id : String) (error : SubscribeError) (notify : Bool) :
    Session × List Effect :=
  match s.roster.find? id with
  | none => (s, [])
  | some e =>
    let s := { s with roster := s.roster.erase id }
    (if notify && s.phase = .acknowledged then s.send (.complete id) else s,
      [.deliver e.consumer (.error error)])

/-- Takes the first message off the outgoing queue. -/
def nextOutgoing (s : Session) : Option (Message × Session) :=
  match s.outgoing with
  | some (m :: rest) => some (m, { s with outgoing := some rest })
  | _ => none

end Session

end LiveQuery
