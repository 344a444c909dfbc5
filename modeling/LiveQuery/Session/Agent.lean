import LiveQuery.Session.Switchboard

/-!
# The agent of a session

The task behind one started session. It opens a socket, sends `connection_init`, moves messages
between the socket and the session, and after a recoverable loss waits and opens the next socket
while the retry budget lasts. `Agent.turn` is one turn of the task: the one thing that comes
first among those it could do now, or nothing if it has to wait. On an open socket the order is:
the stop, the acknowledgment deadline, the pong deadline, the ping timer, the outgoing queue, and
what the server sent.
-/

namespace LiveQuery

open Json (Members)

/-- An open socket in use. -/
structure Link where
  socket : Nat
  /-- Has the server acknowledged on this socket? -/
  acknowledged : Bool := false
  ackDeadline : Option Nat
  heartbeat : Heartbeat
deriving Repr

namespace Link

/-- The acknowledgment deadline while it counts. -/
def waitingFor (link : Link) : Option Nat := if link.acknowledged then none else link.ackDeadline

/-- Something arrived. -/
def heard (link : Link) (now : Nat) : Link :=
  { link with heartbeat := link.heartbeat.heard now }

end Link

/-- Where an agent stands. -/
inductive Stage where
  /-- About to open a socket. -/
  | ready
  /-- Waits for the transport; never done if no time is given. -/
  | opening (number : Nat) (due : Option Nat)
  /-- Serves an open socket. -/
  | serving (link : Link)
  /-- Waits for the next attempt. -/
  | backoff (due : Nat)
deriving Repr

/-- The task behind one started session. -/
structure Agent where
  /-- The epoch of its session. -/
  epoch : Nat
  /-- What `connection_init` carries. -/
  params : Option Members
  /-- Reconnects since the start, or since an acknowledged socket was lost. -/
  attempt : Nat := 0
  /-- Has the caller told it to stop? -/
  told : Bool := false
  stage : Stage := .ready
deriving Repr

/-- The outcome of a turn: the agent, unless it has ended, and what it shares. -/
abbrev Turn := Option Agent × Switchboard

namespace Agent

/-- The session cannot go on. -/
def giveUp (a : Agent) (sb : Switchboard) (error : ConnectionError) : Turn :=
  (none, sb.terminate a.epoch error)

/-- The connection is lost: give up if the budget is used up, and wait otherwise. The budget is
full again after a socket that was acknowledged. -/
def lose (a : Agent) (sb : Switchboard) (error : ConnectionError) (acknowledged : Bool) : Turn :=
  -- the loss of an acknowledged socket is the first of a new series
  let attempt := if acknowledged then 0 else a.attempt
  if sb.settings.maxReconnects ≤ attempt then a.giveUp sb (.retriesExhausted attempt error)
  else
    match sb.suspend a.epoch with
    -- another session began meanwhile
    | (false, sb) => (none, sb)
    | (true, sb) =>
      let due := sb.now + sb.settings.wait sb.retries attempt
      (some { a with attempt := attempt + 1, stage := .backoff due },
        { sb with retries := sb.retries + 1 }.note (.retrying attempt))

/-- The connection in use is lost. -/
def loseLink (a : Agent) (sb : Switchboard) (link : Link) (error : ConnectionError) : Turn :=
  a.lose (sb.drop link.socket) error link.acknowledged

/-- Goes on serving a socket. -/
def serve (a : Agent) (sb : Switchboard) (link : Link) : Turn :=
  (some { a with stage := .serving link }, sb)

/-- Goes on serving unless the session said that the agent is outdated. -/
def serveUnlessOutdated (a : Agent) (link : Link) : Bool × Switchboard → Turn
  | (true, sb) => a.serve sb link
  | (false, sb) => (none, sb.drop link.socket)

/-- Closes the socket because of what the server sent. -/
def reject (a : Agent) (sb : Switchboard) (link : Link) (error : ConnectionError) : Turn :=
  a.giveUp (sb.close link.socket .badResponse "Bad response") error

/-- Asks the transport for a socket. -/
def openSocket (a : Agent) (sb : Switchboard) : Turn :=
  if sb.isOutdated a.epoch || a.told then (none, sb)
  else
    let ((number, due), sb) := sb.callOpen
    (some { a with stage := .opening number due }, sb)

/-- The socket is open: greet the server and set the timers. -/
def greet (a : Agent) (sb : Switchboard) (socket : Nat) : Turn :=
  match sb.send socket (.message (.connectionInit a.params)) with
  | (some e, sb) => a.lose (sb.drop socket) (.initFailed (.transport e)) false
  | (none, sb) =>
    a.serve sb
      { socket
        ackDeadline := sb.settings.ackTimeout.map (sb.now + ·)
        heartbeat := .start sb.settings.pingInterval sb.settings.pongTimeout sb.now }

/-- The transport is done. -/
def opened (a : Agent) (sb : Switchboard) (number : Nat) : Turn :=
  match sb.finishOpen number with
  | .error e => a.lose sb (.openFailed e) false
  | .ok (socket, sb) => a.greet sb socket

/-- Sends a ping because the socket was silent. -/
def ping (a : Agent) (sb : Switchboard) (link : Link) : Turn :=
  match sb.send link.socket (.message (.ping sb.settings.pingPayload)) with
  | (some e, sb) => a.loseLink sb link (.sendFailed MessageKind.ping.name (.transport e))
  | (none, sb) => a.serve sb { link with heartbeat := link.heartbeat.pinged sb.now }

/-- Sends a message of the outgoing queue; a failure ends only the subscription it is for. -/
def sendNext (a : Agent) (sb : Switchboard) (link : Link) (m : Message) : Turn :=
  match sb.send link.socket (.message m) with
  | (none, sb) => a.serve sb link
  | (some e, sb) =>
    match m.id? with
    -- the failed message gets no complete message after it
    | some id => a.serve (sb.endOne a.epoch id (.sendFailed e) false).2 link
    | none => a.serve sb link

/-- Takes a message from the server. -/
def receive (a : Agent) (sb : Switchboard) (link : Link) (m : Message) : Turn :=
  match m with
  | .connectionAck payload =>
    -- a second acknowledgment changes nothing
    if link.acknowledged then a.serve sb link
    else a.serveUnlessOutdated { link with acknowledged := true } (sb.acknowledge a.epoch payload)
  | .ping payload =>
    match sb.send link.socket (.message (.pong payload)) with
    | (some e, sb) => a.loseLink sb link (.sendFailed MessageKind.pong.name (.transport e))
    | (none, sb) => a.serve sb link
  | .pong _ => a.serve sb link
  | .next id result =>
    if link.acknowledged then a.serveUnlessOutdated link (sb.route a.epoch id (.next result))
    else a.reject sb link (.unexpectedMessage m.kind.name)
  | .error id errors =>
    if link.acknowledged then
      a.serveUnlessOutdated link (sb.route a.epoch id (.error (.server errors)))
    else a.reject sb link (.unexpectedMessage m.kind.name)
  | .complete id =>
    if link.acknowledged then a.serveUnlessOutdated link (sb.route a.epoch id .complete)
    else a.reject sb link (.unexpectedMessage m.kind.name)
  | .connectionInit _ | .subscribe .. => a.reject sb link (.unexpectedMessage m.kind.name)

/-- Takes an undecodable frame: it ends the subscription it names, or else the session. -/
def receiveUndecodable (a : Agent) (sb : Switchboard) (link : Link) (e : DecodeError) : Turn :=
  match e.id? with
  | some id =>
    if link.acknowledged then
      a.serveUnlessOutdated link (sb.endOne a.epoch id (.decodeFailed e) true)
    else a.reject sb link (.badResponse e)
  | none => a.reject sb link (.badResponse e)

/-- The server closed the socket. -/
def receiveClose (a : Agent) (sb : Switchboard) (link : Link) (frame : CloseFrame) : Turn :=
  let error := ConnectionError.closed frame.code frame.reason
  if frame.code.disposition = .fatal then a.giveUp (sb.drop link.socket) error
  else a.loseLink sb link error

/-- Takes what the socket holds next; nothing if it holds nothing. -/
def listen (a : Agent) (sb : Switchboard) (link : Link) : Option Turn :=
  match (sb.line link.socket).recv with
  | (.pending, _) => none
  | (.ended, line) => some (a.loseLink (sb.setLine link.socket line) link .endOfStream)
  | (.ready (.error e), line) =>
    some (a.loseLink (sb.setLine link.socket line) link (.receiveFailed e))
  | (.ready (.ok frame), line) =>
    let item := Incoming.ofFrame frame
    let sb := (sb.setLine link.socket line).note (.received link.socket item)
    some <| match item with
      -- a close frame is no sign of life, anything else is
      | .ok (.closed frame) => a.receiveClose sb link frame
      | .ok (.message m) => a.receive sb (link.heard sb.now) m
      | .error e => a.receiveUndecodable sb (link.heard sb.now) e

/-- One turn on an open socket. -/
def serveTurn (a : Agent) (sb : Switchboard) (link : Link) : Option Turn :=
  -- the first thing that applies is done, and it alone
  if a.told then some (none, sb.close link.socket .normalClosure "Normal Closure")
  else if isDue sb.now link.waitingFor then
    some (a.giveUp
      (sb.close link.socket .connectionAckTimeout "Connection acknowledgement timeout") .ackTimeout)
  else if isDue sb.now link.heartbeat.pongDue then some (a.loseLink sb link .pongTimeout)
  else if isDue sb.now link.heartbeat.nextPing then some (a.ping sb link)
  else match sb.nextOutgoing a.epoch with
    | some (m, sb) => some (a.sendNext sb link m)
    | none => a.listen sb link

/-- One turn of the agent, or nothing while it has to wait. -/
def turn (a : Agent) (sb : Switchboard) : Option Turn :=
  match a.stage with
  | .ready => some (a.openSocket sb)
  | .opening number due =>
    if a.told then some (none, sb)
    else if isDue sb.now due then some (a.opened sb number)
    else none
  | .serving link => a.serveTurn sb link
  | .backoff due =>
    if a.told then some (none, sb)
    else if isDue sb.now (some due) then some (some { a with stage := .ready }, sb)
    else none

/-- What an agent has left to do before time passes. An attempt to connect takes four turns at
most, and there are as many as the budget has left; an acknowledgment fills the budget and sends
what is pending. A frame takes a turn to be read and may put one message into the outgoing
queue. -/
def potential (a : Agent) (sb : Switchboard) : Nat :=
  let budget := sb.settings.maxReconnects
  let left := budget - a.attempt
  if a.told then 1
  else match a.stage with
    | .backoff _ => 4 * left + 4
    | .ready => 4 * left + 3
    | .opening .. => 4 * left + 2
    | .serving link =>
      let unread := (sb.line link.socket).pair.toClient.length
      let ping := if isDue sb.now link.heartbeat.nextPing then 1 else 0
      if link.acknowledged then 4 * budget + 3 * unread + ping + 1
      else if unread = 0 then 4 * left + ping + 1
      else 4 * budget + sb.session.pending.length + 3 * unread + ping + 2

end Agent

end LiveQuery
