import LiveQuery.Transport.SocketPair

/-!
# Lines that fail on demand

A transport over in-process sockets whose opens, sends and receives can be made to fail. A line
is one socket with the faults set for it; a plan says how each open goes. Without faults a line
is its socket.
-/

namespace LiveQuery

/-- A fault of sending. -/
structure SendFault where
  doing : String
  /-- Does the frame arrive before the send fails? -/
  delivers : Bool := false
  /-- How many sends fail; all of them if not given. -/
  times : Option Nat := none
deriving DecidableEq, Repr, Inhabited

namespace SendFault

/-- Does the next send fail? -/
def isArmed (f : SendFault) : Bool := f.times != some 0

/-- The fault after one failed send. -/
def spend (f : SendFault) : SendFault := { f with times := f.times.map (· - 1) }

end SendFault

/-- The reason that every fault gives. -/
def faultReason : String := "injected"

/-- A socket and the faults set for it. -/
structure Line where
  pair : SocketPair := {}
  /-- What the next receives fail with, in order. -/
  recvFaults : List String := []
  sendFault : Option SendFault := none
deriving Repr, Inhabited

/-- How a send went: did the frame arrive, and what failed. -/
structure SendOutcome where
  arrived : Bool
  error : Option TransportError
deriving DecidableEq, Repr, Inhabited

namespace Line

/-- The fault that the next send meets. -/
def activeSendFault (l : Line) : Option SendFault := l.sendFault.filter SendFault.isArmed

/-- Sends a frame over the socket. -/
def transmit (l : Line) (f : Frame) : SendOutcome × Line :=
  match l.pair.clientSend f with
  | .ok pair => (⟨true, none⟩, { l with pair })
  | .error e => (⟨false, some e⟩, l)

/-- The client sends a frame. -/
def send (l : Line) (f : Frame) : SendOutcome × Line :=
  match l.activeSendFault with
  | none => l.transmit f
  | some fault =>
    let l := { l with sendFault := some fault.spend }
    if fault.delivers then
      match l.transmit f with
      | (⟨true, _⟩, l) => (⟨true, some ⟨fault.doing, faultReason⟩⟩, l)
      | failed => failed
    else (⟨false, some ⟨fault.doing, faultReason⟩⟩, l)

/-- The client receives a frame; faults come ahead of frames not read yet. -/
def recv (l : Line) : Polled (Except TransportError Frame) × Line :=
  match l.recvFaults with
  | doing :: later => (.ready (.error ⟨doing, faultReason⟩), { l with recvFaults := later })
  | [] =>
    match l.pair.clientRecv with
    | (.ready f, pair) => (.ready (.ok f), { l with pair })
    | (.ended, pair) => (.ended, { l with pair })
    | (.pending, pair) => (.pending, { l with pair })

end Line

/-- How an open goes. -/
structure OpenPlan where
  /-- The time it takes; an open that hangs takes for ever. -/
  delay : Option Nat := some 0
  /-- What it fails with. -/
  failure : Option TransportError := none
  /-- The fault of sending that the new socket starts with. -/
  sendFault : Option SendFault := none
deriving Repr, Inhabited

/-- A transport: how each open goes, and whether the server still accepts sockets. -/
structure Transport where
  plans : List OpenPlan := []
  accepting : Bool := true
deriving Repr, Inhabited

namespace Transport

/-- The plan of an open, counted from zero; plain after the last plan. -/
def plan (t : Transport) (number : Nat) : OpenPlan := t.plans[number]?.getD {}

/-- No server accepts the socket. -/
def notAccepting : TransportError := ⟨"open memory socket failed", "server dropped"⟩

/-- The line that an open yields once its time has come. -/
def connect (t : Transport) (number : Nat) : Except TransportError Line :=
  let plan := t.plan number
  match plan.failure with
  | some e => .error e
  | none => if t.accepting then .ok { sendFault := plan.sendFault } else .error notAccepting

end Transport

end LiveQuery
