import LiveQuery.Session.Settings
import LiveQuery.Session.Heartbeat
import LiveQuery.Session.Basic
import LiveQuery.Transport.Line

/-!
# What a client and its agents share

The session, the consumers and handshakes it feeds, the sockets, the clock, and a journal of what
happened. Every operation of an agent on the session comes with the agent's epoch and does
nothing for an agent of another epoch than the session's (`isOutdated`).
-/

namespace LiveQuery

open Json (Members)

/-- What the journal records. -/
inductive Notice where
  /-- The transport was asked for a socket. -/
  | opening
  /-- A socket opened. -/
  | opened (socket : Nat)
  /-- The retry policy was asked for the wait before an attempt. -/
  | retrying (attempt : Nat)
  /-- A message was put into the outgoing queue. -/
  | queued (message : Message)
  /-- An item left over a socket. `arrived` says whether the server has it, `failed` whether the
  client took the send for failed. -/
  | sent (socket : Nat) (item : Outgoing) (arrived failed : Bool)
  /-- The client dropped a socket; `seen` says whether a server was there to see it. -/
  | dropped (socket : Nat) (seen : Bool)
  /-- An agent read an item from a socket. -/
  | received (socket : Nat) (item : Except DecodeError Incoming)
  /-- An item was delivered to a consumer. -/
  | delivered (consumer : Nat) (item : Item)
  /-- A handshake got its result. -/
  | resolved (handshake : Nat) (result : HandshakeOutcome)
  /-- The session went from one phase to another. -/
  | moved (before after : Phase)
deriving Repr

/-- A notice and its time. -/
structure JournalEntry where
  time : Nat
  notice : Notice
deriving Repr

/-- A handshake as its holder sees it. -/
structure Handshake where
  result : Option HandshakeOutcome := none
  /-- Is it still held? Nobody holds that of a session which a subscription started. -/
  held : Bool := true
deriving Repr

/-- What a client and its agents share. -/
structure Switchboard where
  settings : Settings
  transport : Transport := {}
  session : Session := {}
  consumers : List Consumer := []
  handshakes : List Handshake := []
  /-- The sockets opened so far. -/
  lines : List Line := []
  /-- How often the transport was asked for a socket. -/
  opens : Nat := 0
  /-- How often the retry policy was asked. -/
  retries : Nat := 0
  now : Nat := 0
  /-- What happened, latest first. -/
  journal : List JournalEntry := []

namespace Switchboard

/-- Records a notice. -/
def note (sb : Switchboard) (notice : Notice) : Switchboard :=
  { sb with journal := ⟨sb.now, notice⟩ :: sb.journal }

/-- Is the consumer still there? -/
def listening (sb : Switchboard) (consumer : Nat) : Bool :=
  match sb.consumers[consumer]? with
  | some c => c.listening
  | none => false

/-- Carries out an effect of the session. -/
def apply (sb : Switchboard) : Effect → Switchboard
  | .deliver consumer item =>
    if sb.listening consumer then
      { sb with consumers := sb.consumers.modify consumer (·.put item) }.note
        (.delivered consumer item)
    else sb
  | .resolve handshake result =>
    { sb with handshakes := sb.handshakes.modify handshake fun h =>
        { h with result := some result } }.note (.resolved handshake result)

/-- The messages at the end of a queue that grew from another one. -/
def newMessages (before after : Option (List Message)) : List Message :=
  (after.getD []).drop (before.getD []).length

/-- Replaces the session, recording a change of phase and what was queued. -/
def withSession (sb : Switchboard) (session : Session) : Switchboard :=
  let before := sb.session
  let sb := { sb with session }
  let sb := if before.phase = session.phase then sb else sb.note (.moved before.phase session.phase)
  (newMessages before.outgoing session.outgoing).foldl (fun sb m => sb.note (.queued m)) sb

/-- Replaces the session and carries out the effects. -/
def commit (sb : Switchboard) (result : Session × List Effect) : Switchboard :=
  result.2.foldl apply (sb.withSession result.1)

/-! ## Operations of an agent on the session -/

/-- Does the epoch belong to an earlier session? -/
def isOutdated (sb : Switchboard) (epoch : Nat) : Bool := sb.session.epoch ≠ epoch

/-- The server acknowledged; false for an outdated agent. -/
def acknowledge (sb : Switchboard) (epoch : Nat) (payload : Option Members) : Bool × Switchboard :=
  if sb.isOutdated epoch then (false, sb)
  else (true, sb.commit (sb.session.acknowledge sb.listening payload))

/-- The socket is lost but another one follows; false for an outdated agent. -/
def suspend (sb : Switchboard) (epoch : Nat) : Bool × Switchboard :=
  if sb.isOutdated epoch then (false, sb)
  else (true, sb.withSession (sb.session.suspend sb.listening))

/-- The session cannot go on. -/
def terminate (sb : Switchboard) (epoch : Nat) (error : ConnectionError) : Switchboard :=
  if sb.isOutdated epoch then sb else sb.commit (sb.session.terminate error)

/-- An item for a subscription; false for an outdated agent. -/
def route (sb : Switchboard) (epoch : Nat) (id : String) (item : Item) : Bool × Switchboard :=
  if sb.isOutdated epoch then (false, sb)
  else (true, sb.commit (sb.session.route sb.listening id item))

/-- One subscription fails; false for an outdated agent. -/
def endOne (sb : Switchboard) (epoch : Nat) (id : String) (error : SubscribeError) (notify : Bool) :
    Bool × Switchboard :=
  if sb.isOutdated epoch then (false, sb)
  else (true, sb.commit (sb.session.endOne id error notify))

/-- The next message of the outgoing queue, for the agent whose socket it goes to. -/
def nextOutgoing (sb : Switchboard) (epoch : Nat) : Option (Message × Switchboard) :=
  if sb.isOutdated epoch then none
  else sb.session.nextOutgoing.map fun (m, session) => (m, { sb with session })

/-! ## Sockets -/

/-- Asks the transport for a socket: the number of the open and the time it is done, if ever. -/
def callOpen (sb : Switchboard) : (Nat × Option Nat) × Switchboard :=
  let number := sb.opens
  ((number, (sb.transport.plan number).delay.map (sb.now + ·)),
    { sb with opens := number + 1 }.note .opening)

/-- The socket of an open whose time has come. -/
def finishOpen (sb : Switchboard) (number : Nat) : Except TransportError (Nat × Switchboard) :=
  match sb.transport.connect number with
  | .error e => .error e
  | .ok line =>
    let socket := sb.lines.length
    .ok (socket, { sb with lines := sb.lines ++ [line] }.note (.opened socket))

/-- Replaces a line. -/
def setLine (sb : Switchboard) (socket : Nat) (line : Line) : Switchboard :=
  { sb with lines := sb.lines.set socket line }

/-- The line of a socket. -/
def line (sb : Switchboard) (socket : Nat) : Line := sb.lines[socket]?.getD {}

/-- Sends an item over a socket. The server takes what arrives at once. -/
def send (sb : Switchboard) (socket : Nat) (item : Outgoing) :
    Option TransportError × Switchboard :=
  let (outcome, line) := (sb.line socket).send item.frame
  -- what arrived is kept in the journal, not under way
  let line := { line with pair := { line.pair with toServer := [] } }
  (outcome.error,
    (sb.setLine socket line).note (.sent socket item outcome.arrived outcome.error.isSome))

/-- Drops the client end of a socket. -/
def drop (sb : Switchboard) (socket : Nat) : Switchboard :=
  let line := sb.line socket
  (sb.setLine socket { line with pair := line.pair.dropClient }).note
    (.dropped socket line.pair.server)

/-- Closes a socket: a close frame, whose loss does not matter, and the drop. -/
def close (sb : Switchboard) (socket : Nat) (code : CloseCode) (reason : String) : Switchboard :=
  (sb.send socket (.close ⟨code, reason⟩)).2.drop socket

end Switchboard

end LiveQuery
