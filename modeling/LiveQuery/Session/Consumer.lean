import LiveQuery.Session.Error

/-!
# The consumer of a subscription

Items wait in the order in which they were delivered until the consumer reads them. Reading ends
for good with an error, with the completion, with a cancel, or when nothing feeds the consumer
any more; a cancel discards what waits.
-/

namespace LiveQuery

/-- An item for one subscription. -/
inductive Item where
  | next (result : ExecutionResult)
  | error (error : SubscribeError)
  | complete
deriving Repr, Inhabited

/-- Does no item follow this one? -/
def Item.isLast : Item → Bool
  | .next _ => false
  | _ => true

/-- The life of a subscription, as its consumer sees it. -/
inductive Status where
  | subscribed
  | completed
  | errored
  | cancelled
deriving DecidableEq, Repr, Inhabited

/-- The consumer's end of a subscription. -/
structure Consumer where
  id : String
  /-- Items delivered and not read. -/
  unread : List Item := []
  /-- Was the subscription accepted by a session? -/
  attached : Bool := true
  /-- Is the subscription still held? -/
  listening : Bool := true
  /-- Was it cancelled through any of its handles? -/
  cancelled : Bool := false
  status : Status := .subscribed
deriving Repr, Inhabited

namespace Consumer

/-- The consumer of a subscription that was refused: its only item is the reason. -/
def refused (id : String) (error : SubscribeError) : Consumer :=
  { id, unread := [.error error], attached := false }

/-- Puts an item at the end of those that wait; lost if nobody listens. -/
def put (c : Consumer) (item : Item) : Consumer :=
  if c.listening then { c with unread := c.unread ++ [item] } else c

/-- The consumer drops the subscription. -/
def drop (c : Consumer) : Consumer := { c with listening := false, unread := [] }

/-- The mark that a cancel leaves, through any handle. -/
def markCancelled (c : Consumer) : Consumer := { c with cancelled := true }

/-- A cancel through the subscription itself also settles its status. -/
def settleCancelled (c : Consumer) : Consumer :=
  if c.status = .subscribed then { c with status := .cancelled } else c

/-- The consumer asks for the next item; `fed` says whether more may come. -/
def poll (c : Consumer) (fed : Bool) :
    Polled (Except SubscribeError ExecutionResult) × Consumer :=
  if c.status ≠ .subscribed then (.ended, c)
  else if c.cancelled then (.ended, { c with status := .cancelled })
  else match c.unread with
    | .next r :: rest => (.ready (.ok r), { c with unread := rest })
    | .error e :: rest => (.ready (.error e), { c with unread := rest, status := .errored })
    | .complete :: rest => (.ended, { c with unread := rest, status := .completed })
    | [] => if fed then (.pending, c) else (.ended, { c with status := .cancelled })

end Consumer

end LiveQuery
