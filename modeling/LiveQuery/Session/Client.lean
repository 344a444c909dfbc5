import LiveQuery.Session.Agent

/-!
# The client

A client with its agents. The caller's operations change the session at once and never wait;
`Client.turn` gives the first agent that can do something one turn, `Client.settle` goes on
until no agent can do anything without time passing, and `Client.advance` lets time pass, each
timer firing at its own millisecond. Dropping the last handle stops the session.
-/

namespace LiveQuery

open Json (Value Members)

/-- A client with its agents. -/
structure Client where
  board : Switchboard
  /-- The agents, oldest first. -/
  agents : List Agent := []
  /-- The handles that callers hold. -/
  handles : Nat := 1
  /-- The supply of subscription ids. -/
  newId : Nat → String

namespace Client

/-- Changes what the client and its agents share. -/
def mapBoard (c : Client) (f : Switchboard → Switchboard) : Client := { c with board := f c.board }

/-- The phase of the session. -/
def phase (c : Client) : Phase := c.board.session.phase

/-- The number of active subscriptions. -/
def activeCount (c : Client) : Nat := c.board.session.roster.size

/-- The phase as watchers see it. -/
def watch (c : Client) : Watch := c.board.session.watch

/-- Is nobody left who could change the session? -/
def isGone (c : Client) : Bool := c.handles = 0 && c.agents.isEmpty

/-! ## Operations of the caller -/

/-- Starts the session with connection parameters that were checked. `held` says whether the
caller keeps the handshake. -/
def startChecked (c : Client) (params : Option Members) (held : Bool) :
    Except StartError (Nat × Client) :=
  if c.phase ≠ .notStarted then .error .alreadyStarted
  else
    let number := c.board.handshakes.length
    let sb := { c.board with handshakes := c.board.handshakes ++ [Handshake.mk none held] }
    let sb := sb.withSession (sb.session.start number)
    .ok (number,
      { c with board := sb, agents := c.agents ++ [{ epoch := sb.session.epoch, params }] })

/-- Starts the session with connection parameters: the number of the handshake. -/
def startValue (c : Client) (params : Option Value) : Except StartError (Nat × Client) :=
  match checkParams params with
  | .error e => .error e
  | .ok params => c.startChecked params true

/-- Starts the session with the parameters it was set up with. -/
def start (c : Client) : Except StartError (Nat × Client) := c.startValue c.board.settings.params

/-- Starts the session with parameters of the caller, unless they could not be written as JSON. -/
def startWith (c : Client) (params : Except Json.Error Value) : Except StartError (Nat × Client) :=
  match params with
  | .error e => .error (.paramsUnencodable e)
  | .ok v => c.startValue (some v)

/-- The session for a subscription: started if it was not. -/
def ensureStarted (c : Client) : Except SubscribeError Client :=
  if c.phase ≠ .notStarted then .ok c
  else if !c.board.settings.startsOnDemand then .error .notStarted
  else match checkParams c.board.settings.params with
    | .error e => .error (.startFailed e)
    | .ok params =>
      match c.startChecked params false with
      | .error e => .error (.startFailed e)
      | .ok (_, c) => .ok c

/-- Adds a consumer: its number. -/
def addConsumer (c : Client) (consumer : Consumer) : Nat × Client :=
  (c.board.consumers.length,
    c.mapBoard fun sb => { sb with consumers := sb.consumers ++ [consumer] })

/-- Adds the consumer of a subscription that was refused: its number. -/
def addRefused (c : Client) (id : String) (error : SubscribeError) : Nat × Client :=
  let (number, c) := c.addConsumer (.refused id error)
  (number, c.mapBoard fun sb => sb.note (.delivered number (.error error)))

/-- Subscribes to an operation: the number of the consumer. A refusal is its only item. -/
def subscribe (c : Client) (operation : Operation) : Nat × Client :=
  let id := c.newId c.board.consumers.length
  match c.ensureStarted with
  | .error e => c.addRefused id e
  | .ok c =>
    let (number, c) := c.addConsumer { id }
    (number, c.mapBoard fun sb =>
      sb.withSession (sb.session.subscribe sb.listening id operation number))

/-- Tells the agent of an epoch to stop. -/
def tell (c : Client) (epoch : Nat) : Client :=
  { c with agents := c.agents.map fun a =>
      if a.epoch = epoch then { a with told := true } else a }

/-- Stops the session. -/
def stop (c : Client) : Client :=
  if c.phase = .notStarted then c
  else (c.tell c.board.session.epoch).mapBoard fun sb => sb.commit sb.session.stop

/-- Another handle to the same session. -/
def clone (c : Client) : Client := { c with handles := c.handles + 1 }

/-- Drops a handle; the last one stops the session. -/
def dropHandle (c : Client) : Client :=
  let c := { c with handles := c.handles - 1 }
  if c.handles = 0 then c.stop else c

/-! ## Operations on subscriptions and handshakes -/

/-- The consumer of a subscription. -/
def consumer? (c : Client) (number : Nat) : Option Consumer := c.board.consumers[number]?

/-- Changes the consumer of a subscription. -/
def modifyConsumer (c : Client) (number : Nat) (f : Consumer → Consumer) : Client :=
  c.mapBoard fun sb => { sb with consumers := sb.consumers.modify number f }

/-- Cancels a subscription through a handle. Only the first cancel reaches the session. -/
def cancelByHandle (c : Client) (number : Nat) : Client :=
  match c.consumer? number with
  | none => c
  | some consumer =>
    if consumer.cancelled then c
    else
      -- the mark comes first: a second cancel finds it and stops above
      let c := c.modifyConsumer number Consumer.markCancelled
      if consumer.attached then
        c.mapBoard fun sb => sb.withSession (sb.session.cancel consumer.id)
      else c

/-- Cancels a subscription through the subscription itself. -/
def cancel (c : Client) (number : Nat) : Client :=
  (c.cancelByHandle number).modifyConsumer number Consumer.settleCancelled

/-- Drops a subscription. -/
def dropSubscription (c : Client) (number : Nat) : Client :=
  c.modifyConsumer number Consumer.drop

/-- Asks a subscription for its next item. -/
def poll (c : Client) (number : Nat) :
    Polled (Except SubscribeError ExecutionResult) × Client :=
  match c.consumer? number with
  | none => (.ended, c)
  | some consumer =>
    let (answer, consumer) := consumer.poll (c.board.session.roster.feeds number)
    (answer, c.modifyConsumer number fun _ => consumer)

/-- Drops a handshake. -/
def dropHandshake (c : Client) (number : Nat) : Client :=
  c.mapBoard fun sb =>
    { sb with handshakes := sb.handshakes.modify number fun h => { h with held := false } }

/-! ## The other end -/

/-- Changes the socket pair of a line. -/
def modifyLine (c : Client) (socket : Nat) (f : Line → Line) : Client :=
  c.mapBoard fun sb => { sb with lines := sb.lines.modify socket f }

/-- The server sends a frame; false if the client dropped the socket. -/
def serverSend (c : Client) (socket : Nat) (frame : Frame) : Bool × Client :=
  ((c.board.line socket).pair.client,
    c.modifyLine socket fun l => { l with pair := (l.pair.serverSend frame).2 })

/-- The server closes a socket. -/
def serverClose (c : Client) (socket : Nat) (frame : CloseFrame) : Client :=
  c.modifyLine socket fun l => { l with pair := l.pair.serverClose frame }

/-- The server drops its end of a socket. -/
def serverDrop (c : Client) (socket : Nat) : Client :=
  c.modifyLine socket fun l => { l with pair := l.pair.dropServer }

/-- The server accepts no more sockets. -/
def stopAccepting (c : Client) : Client :=
  c.mapBoard fun sb => { sb with transport := { sb.transport with accepting := false } }

/-- Makes one more receive on a socket fail. -/
def failReceive (c : Client) (socket : Nat) (doing : String) : Client :=
  c.modifyLine socket fun l => { l with recvFaults := l.recvFaults ++ [doing] }

/-- Makes sends on a socket fail. -/
def failSends (c : Client) (socket : Nat) (fault : SendFault) : Client :=
  c.modifyLine socket fun l => { l with sendFault := some fault }

/-! ## Running -/

/-- Gives the first of the agents that can do something one turn. -/
def firstTurn (sb : Switchboard) : List Agent → Option (List Agent × Switchboard)
  | [] => none
  | a :: rest =>
    match a.turn sb with
    | some (a, sb) => some (a.toList ++ rest, sb)
    | none => (firstTurn sb rest).map fun (rest, sb) => (a :: rest, sb)

/-- One turn of the first agent that can do something. -/
def turn (c : Client) : Option Client :=
  (firstTurn c.board c.agents).map fun (agents, board) => { c with agents, board }

/-- Can no agent do anything before time passes? -/
def isSettled (c : Client) : Bool := c.turn.isNone

/-- Turns until nothing is left to do or the fuel is used up. -/
def settleWith : Nat → Client → Client
  | 0, c => c
  | fuel + 1, c =>
    match c.turn with
    | none => c
    | some c => settleWith fuel c

/-- What is left to do before time passes: every turn lowers it. -/
def potential (c : Client) : Nat :=
  c.agents.foldr (fun a total => a.potential c.board + total)
    (c.board.session.outgoing.getD []).length

/-- Lets the agents work until nothing can happen before time passes. -/
def settle (c : Client) : Client := settleWith c.potential c

/-- Lets a millisecond pass after the work at hand. -/
def tick (c : Client) : Client := c.settle.mapBoard fun sb => { sb with now := sb.now + 1 }

/-- Lets milliseconds pass one by one. What is due when the last one ends is left to do. -/
def advance (c : Client) : Nat → Client
  | 0 => c
  | ms + 1 => c.tick.advance ms

end Client

end LiveQuery
