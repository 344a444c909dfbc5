import LiveQuery.Message.Payload

/-!
# The roster of subscriptions

The active subscriptions by id. Entries are kept in no particular order; each has a rank, which
grows with every insertion, and whatever leaves in the order of insertion is sorted by rank
(`Roster.inOrder`). An id has at most one entry: inserting it again replaces the old entry by one
of the greatest rank.
-/

namespace LiveQuery

/-- An active subscription. -/
structure Roster.Entry where
  id : String
  /-- Its place in the order of insertion. -/
  rank : Nat
  operation : Operation
  /-- The consumer that its items go to. -/
  consumer : Nat
deriving Repr, Inhabited

/-- The active subscriptions. -/
structure Roster where
  entries : List Roster.Entry := []
  /-- The rank of the next entry; all entries have smaller ones. -/
  nextRank : Nat := 0
deriving Repr, Inhabited

/-- What became of an item handed to the roster. -/
inductive Routing where
  /-- The consumer has it. -/
  | delivered
  /-- It was the last one, and the entry is gone. -/
  | finished
  /-- There is no such subscription. -/
  | unknown
  /-- The consumer is gone, and so is the entry now. -/
  | abandoned
deriving DecidableEq, Repr, Inhabited

namespace Roster

/-- An entry at its place among entries sorted by rank. The recursion is on the list, so that a sort
of entries that are given can be computed in proofs, which core's `List.mergeSort` cannot. -/
def place (e : Entry) : List Entry → List Entry
  | [] => [e]
  | f :: rest => if e.rank ≤ f.rank then e :: f :: rest else f :: place e rest

/-- Entries sorted by rank: the insertion sort of Mathlib (`Roster.sort_eq`). -/
def sort (entries : List Entry) : List Entry := entries.foldr place []

/-- The entries in the order of insertion. -/
def inOrder (r : Roster) : List Entry := sort r.entries

/-- The ids in the order of insertion. -/
def ids (r : Roster) : List String := r.inOrder.map Entry.id

/-- The number of entries. -/
def size (r : Roster) : Nat := r.entries.length

/-- The entry of an id. -/
def find? (r : Roster) (id : String) : Option Entry := r.entries.find? (·.id == id)

/-- The operation of an id. -/
def operation? (r : Roster) (id : String) : Option Operation := (r.find? id).map Entry.operation

/-- Is the consumer fed by an entry? -/
def feeds (r : Roster) (consumer : Nat) : Bool := r.entries.any (·.consumer == consumer)

/-- Removes the entry of an id. -/
def erase (r : Roster) (id : String) : Roster :=
  { r with entries := r.entries.filter (·.id != id) }

/-- Adds an entry of the greatest rank, in place of one with the same id. -/
def insert (r : Roster) (id : String) (operation : Operation) (consumer : Nat) : Roster :=
  { entries := ⟨id, r.nextRank, operation, consumer⟩ :: (r.erase id).entries
    nextRank := r.nextRank + 1 }

/-- Hands an item to the consumer of an id; `last` says that no item follows it. -/
def route (r : Roster) (listening : Nat → Bool) (id : String) (last : Bool) :
    Routing × Roster :=
  match r.find? id with
  | none => (.unknown, r)
  | some e =>
    -- a last item ends the entry whether or not anybody takes it
    if last then (.finished, r.erase id)
    else if listening e.consumer then (.delivered, r)
    else (.abandoned, r.erase id)

/-- The entries whose consumer is gone, in the order of insertion. -/
def abandoned (r : Roster) (listening : Nat → Bool) : List Entry :=
  sort (r.entries.filter fun e => !listening e.consumer)

/-- Removes the entries whose consumer is gone, and tells their ids in the order of insertion. -/
def prune (r : Roster) (listening : Nat → Bool) : List String × Roster :=
  ((r.abandoned listening).map Entry.id,
    { r with entries := r.entries.filter fun e => listening e.consumer })

/-- Removes all entries, and tells them in the order of insertion. -/
def takeAll (r : Roster) : List Entry × Roster := (r.inOrder, { r with entries := [] })

end Roster

end LiveQuery
