/-!
# Keep-alive timers

The timers of one socket. The ping timer starts when the socket opens and starts anew with
everything that arrives and with every ping. The first ping that nothing followed yet also sets
a deadline; whatever arrives clears it, and later pings do not move it.
-/

namespace LiveQuery

/-- Has the time of a timer come? -/
def isDue (now : Nat) : Option Nat → Bool
  | none => false
  | some time => time ≤ now

/-- The timers of one socket, as points in time. -/
structure Heartbeat where
  /-- The silence before a ping; zero for no pings. -/
  interval : Nat
  pongTimeout : Option Nat
  nextPing : Option Nat
  pongDue : Option Nat
deriving DecidableEq, Repr, Inhabited

namespace Heartbeat

/-- The time of the next ping if the silence starts now. -/
def pingAfter (interval now : Nat) : Option Nat :=
  if interval = 0 then none else some (now + interval)

/-- The timers of a socket that opens now. -/
def start (interval : Nat) (pongTimeout : Option Nat) (now : Nat) : Heartbeat :=
  ⟨interval, pongTimeout, pingAfter interval now, none⟩

/-- Something arrived. -/
def heard (k : Heartbeat) (now : Nat) : Heartbeat :=
  { k with nextPing := pingAfter k.interval now, pongDue := none }

/-- A ping was sent. -/
def pinged (k : Heartbeat) (now : Nat) : Heartbeat :=
  { k with
    nextPing := pingAfter k.interval now
    pongDue := k.pongDue <|> k.pongTimeout.map (now + ·) }

end Heartbeat

end LiveQuery
