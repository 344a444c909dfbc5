import LiveQuery.Session.Error

/-!
# Settings of a session

Times are whole milliseconds. The default policy waits a second before the first reconnect and
twice as long before each next one, up to the sixth, with a random part on top
(`Backoff.wait`).
-/

namespace LiveQuery

open Json (Value Members)

/-- When to connect again. The wait may depend on how often the policy was asked before, so that
a random policy is one of these too. -/
abbrev WaitPolicy := (asked attempt : Nat) → Nat

namespace Backoff

/-- The first wait. -/
def base : Nat := 1000

/-- The wait stops growing after so many doublings. -/
def maxExponent : Nat := 5

/-- The least random part. -/
def minJitter : Nat := 300

/-- The random part stays below this. -/
def jitterBound : Nat := 3000

/-- A number taken into the range of the random part. -/
def jitter (draw : Nat) : Nat := minJitter + draw % (jitterBound - minJitter)

/-- The wait before a reconnect attempt, counted from zero, for a random number. -/
def wait (draw attempt : Nat) : Nat :=
  base * Nat.pow 2 (min attempt maxExponent) + jitter draw

/-- The policy that draws its random part from a supply of numbers. -/
def policy (draws : Nat → Nat) : WaitPolicy := fun asked attempt => wait (draws asked) attempt

end Backoff

/-- What a session is set up with. -/
structure Settings where
  /-- The payload of `connection_init`, checked when the session starts. -/
  params : Option Value := none
  /-- Does a subscription start the session? -/
  startsOnDemand : Bool := true
  /-- How long an opened socket may wait for its acknowledgment. -/
  ackTimeout : Option Nat := none
  /-- How long a socket may be silent before a ping is sent; zero for no pings. -/
  pingInterval : Nat := 12000
  /-- How long a socket may be silent after a ping. -/
  pongTimeout : Option Nat := none
  /-- What pings carry. -/
  pingPayload : Option Members := none
  /-- How many reconnects are allowed after a loss. -/
  maxReconnects : Nat := 5
  /-- When to connect again. -/
  wait : WaitPolicy

/-- The JSON kind of a value. -/
def jsonKind : Value → String
  | .null => "null"
  | .bool _ => "bool"
  | .number _ => "number"
  | .string _ => "string"
  | .array _ => "array"
  | .object _ => "object"

/-- The connection parameters in a value: an object, or null for none. -/
def checkParams : Option Value → Except StartError (Option Members)
  | none | some .null => .ok none
  | some (.object ms) => .ok (some ms)
  | some v => .error (.paramsNotObject (jsonKind v))

end LiveQuery
