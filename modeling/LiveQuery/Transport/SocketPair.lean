import LiveQuery.Transport.MessageFrame

/-!
# In-process sockets

A client end and a server end joined by two queues of frames. A frame sent to an end that is
there is never lost and never overtaken, and what was sent before the other end went can still
be read. A send fails exactly when the other end is gone; a close frame is a frame like any
other and closes nothing by itself.
-/

namespace LiveQuery

/-- Two joined ends and the frames under way. -/
structure SocketPair where
  /-- Frames from the server that the client has not read. -/
  toClient : List Frame := []
  /-- Frames from the client that the server has not read. -/
  toServer : List Frame := []
  /-- Is the client end still held? -/
  client : Bool := true
  /-- Is the server end still held? -/
  server : Bool := true
deriving Repr, Inhabited

namespace SocketPair

/-- The client sends to a server end that is gone. -/
def serverDropped : TransportError := ⟨"memory socket send failed", "server dropped"⟩

/-- The client sends a frame. -/
def clientSend (p : SocketPair) (f : Frame) : Except TransportError SocketPair :=
  if p.server then .ok { p with toServer := p.toServer ++ [f] } else .error serverDropped

/-- The client takes the next frame; the stream ends when the server end is gone and nothing is
under way. -/
def clientRecv (p : SocketPair) : Polled Frame × SocketPair :=
  match p.toClient with
  | f :: rest => (.ready f, { p with toClient := rest })
  | [] => (if p.server then .pending else .ended, p)

/-- The client drops its end. -/
def dropClient (p : SocketPair) : SocketPair := { p with client := false, toClient := [] }

/-- The server sends a frame; false if the client end is gone. -/
def serverSend (p : SocketPair) (f : Frame) : Bool × SocketPair :=
  if p.client then (true, { p with toClient := p.toClient ++ [f] }) else (false, p)

/-- The server takes the next frame. -/
def serverRecv (p : SocketPair) : Polled Frame × SocketPair :=
  match p.toServer with
  | f :: rest => (.ready f, { p with toServer := rest })
  | [] => (if p.client then .pending else .ended, p)

/-- The server drops its end. -/
def dropServer (p : SocketPair) : SocketPair := { p with server := false, toServer := [] }

/-- The server sends a close frame and drops its end. -/
def serverClose (p : SocketPair) (frame : CloseFrame) : SocketPair :=
  (p.serverSend (.close frame)).2.dropServer

/-! ## Messages -/

/-- The client sends an item as a frame. -/
def sendItem (p : SocketPair) (item : Outgoing) : Except StreamError SocketPair :=
  match p.clientSend item.frame with
  | .ok p => .ok p
  | .error e => .error (.transport e)

/-- The client reads the next item. -/
def recvItem (p : SocketPair) : Polled (Except StreamError Incoming) × SocketPair :=
  match p.clientRecv with
  | (.ready f, p) =>
    match Incoming.ofFrame f with
    | .ok item => (.ready (.ok item), p)
    | .error e => (.ready (.error (.undecodable e)), p)
  | (.ended, p) => (.ended, p)
  | (.pending, p) => (.pending, p)

/-- The first message among frames: none at a close frame, and nothing when no frame is left.
Undecodable frames are passed over. The second part is what is left unread. -/
def firstMessage : List Frame → Polled Message × List Frame
  | [] => (.pending, [])
  | f :: rest =>
    match Incoming.ofFrame f with
    | .ok (.message m) => (.ready m, rest)
    | .ok (.closed _) => (.ended, rest)
    | .error _ => firstMessage rest

/-- The server reads the next message: none if the client closed or dropped its end. -/
def readMessage (p : SocketPair) : Polled Message × SocketPair :=
  match firstMessage p.toServer with
  | (.pending, rest) => (if p.client then .pending else .ended, { p with toServer := rest })
  | (answer, rest) => (answer, { p with toServer := rest })

end SocketPair

end LiveQuery
