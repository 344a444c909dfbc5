import LiveQuery.Proofs.Roster

/-!
# A list in the order of insertion for the roster

What a roster answers is what a list in the order of insertion answers, for every sequence of
commands from the empty roster and whoever listens at each of them (`Roster.answers_as_list`). The
list knows no ranks: an insertion leaves out the entry of the same id and puts the new one at the
end.

The entries of a roster are in no order of their own. So the roster may go through them in another
order at every command (`Traversal`), and the list does not hear of it. What makes the order of the
entries irrelevant is that no two of them have the same id or the same rank (`Numbered`).
-/

namespace LiveQuery.Roster

variable {r r' : Roster} {id : String} {e : Entry}

/-! ## Entries with distinct ids and ranks -/

/-- Ids and ranks tell entries apart, and every rank is below the next one. -/
structure Numbered (r : Roster) : Prop where
  wellFormed : r.WellFormed
  ranks : (r.entries.map Entry.rank).Nodup

namespace Numbered

theorem empty : Numbered {} := ⟨wellFormed_empty, List.nodup_nil⟩

theorem perm {entries : List Entry} (h : r.Numbered) (hp : entries.Perm r.entries) :
    Numbered { r with entries } := by
  refine ⟨⟨(hp.map Entry.id).nodup_iff.2 h.wellFormed.ids, ?_⟩,
    (hp.map Entry.rank).nodup_iff.2 h.ranks⟩
  intro e he
  exact h.wellFormed.ranks e (hp.subset he)

theorem sublist {entries : List Entry} (h : r.Numbered) (hs : entries.Sublist r.entries) :
    Numbered { r with entries } :=
  ⟨h.wellFormed.sublist hs, h.ranks.sublist (hs.map Entry.rank)⟩

/-- A new entry has a rank that none had before. -/
theorem insert (h : r.Numbered) (id : String) (operation : Operation) (consumer : Nat) :
    (r.insert id operation consumer).Numbered := by
  refine ⟨h.wellFormed.insert id operation consumer, ?_⟩
  have hrest : ((r.erase id).entries.map Entry.rank).Nodup :=
    h.ranks.sublist (List.filter_sublist.map Entry.rank)
  refine List.nodup_cons.2 ⟨?_, hrest⟩
  intro hmem
  obtain ⟨e, he, hrank⟩ := List.mem_map.1 hmem
  -- the new entry has the next rank, which is above all others
  have hlt : e.rank < r.nextRank := h.wellFormed.ranks e (mem_erase.1 he).1
  dsimp only at hrank
  omega

end Numbered

/-- Entries in another order are the same once they are sorted. -/
theorem inOrder_of_perm (h : r.Numbered) (hp : r'.entries.Perm r.entries) :
    r'.inOrder = r.inOrder := by
  have hperm : r'.inOrder.Perm r.inOrder :=
    (perm_sort r'.entries).trans (hp.trans (perm_sort r.entries).symm)
  refine List.Perm.eq_of_pairwise ?_ (ascending_sort r'.entries) (ascending_sort r.entries) hperm
  -- entries that are neither before nor after each other have one rank, and so are one
  intro e f he hf hle hge
  have he' : e ∈ r.entries := hp.subset (mem_inOrder.1 he)
  exact List.inj_on_of_nodup_map h.ranks he' (mem_inOrder.1 hf) (Nat.le_antisymm hle hge)

/-- The entry of an id is found in every order. -/
theorem find?_of_perm (h : r.WellFormed) (h' : r'.WellFormed) (hp : r'.entries.Perm r.entries) :
    r'.find? id = r.find? id := by
  apply Option.ext
  intro e
  rw [find?_eq_some_iff h, find?_eq_some_iff h', hp.mem_iff]

/-! ## Commands -/

/-- What one may want from a roster. -/
inductive Command where
  | insert (id : String) (operation : Operation) (consumer : Nat)
  | remove (id : String)
  /-- Hand an item to the consumer of an id; `last` says that no item follows it. -/
  | route (id : String) (last : Bool)
  | prune
  | takeAll
  | ids
  | size
  | operation (id : String)

/-- What one gets. -/
inductive Answer where
  | done
  | removed (consumer : Option Nat)
  | routed (outcome : Routing) (consumer : Option Nat)
  | ids (ids : List String)
  | taken (subscriptions : List (String × Nat))
  | size (n : Nat)
  | operation (operation : Option Operation)

/-- A command, and who listens at that time. -/
structure Use where
  command : Command
  listening : Nat → Bool

/-- An order in which the entries of a roster come. -/
structure Traversal where
  arrange : List Entry → List Entry
  perm : ∀ entries, (arrange entries).Perm entries

/-- The roster with its entries in another order. -/
def arranged (r : Roster) (t : Traversal) : Roster := { r with entries := t.arrange r.entries }

/-- Carries out a command. -/
def perform (r : Roster) (use : Use) : Answer × Roster :=
  match use.command with
  | .insert id operation consumer => (.done, r.insert id operation consumer)
  | .remove id => (.removed ((r.find? id).map Entry.consumer), r.erase id)
  | .route id last =>
    (.routed (r.route use.listening id last).1 ((r.find? id).map Entry.consumer),
      (r.route use.listening id last).2)
  | .prune => (.ids (r.prune use.listening).1, (r.prune use.listening).2)
  | .takeAll => (.taken (r.takeAll.1.map fun e => (e.id, e.consumer)), r.takeAll.2)
  | .ids => (.ids r.ids, r)
  | .size => (.size r.size, r)
  | .operation id => (.operation (r.operation? id), r)

/-- One command after another, each with the entries in another order. -/
def performAll (r : Roster) : List (Traversal × Use) → List Answer × Roster
  | [] => ([], r)
  | (t, use) :: later =>
    let (answer, r') := (r.arranged t).perform use
    let (answers, r'') := r'.performAll later
    (answer :: answers, r'')

/-! ## The list -/

/-- A subscription in a list. -/
structure Listed where
  id : String
  operation : Operation
  consumer : Nat

namespace Listed

/-- Carries out a command on a list. -/
def perform (l : List Listed) (use : Use) : Answer × List Listed :=
  let others (id : String) : List Listed := l.filter (·.id != id)
  match use.command with
  | .insert id operation consumer => (.done, others id ++ [⟨id, operation, consumer⟩])
  | .remove id => (.removed ((l.find? (·.id == id)).map consumer), others id)
  | .route id last =>
    match l.find? (·.id == id) with
    | none => (.routed .unknown none, l)
    | some s =>
      if last then (.routed .finished (some s.consumer), others id)
      else if use.listening s.consumer then (.routed .delivered (some s.consumer), l)
      else (.routed .abandoned (some s.consumer), others id)
  | .prune =>
    (.ids ((l.filter (!use.listening ·.consumer)).map Listed.id),
      l.filter (use.listening ·.consumer))
  | .takeAll => (.taken (l.map fun s => (s.id, s.consumer)), [])
  | .ids => (.ids (l.map Listed.id), l)
  | .size => (.size l.length, l)
  | .operation id => (.operation ((l.find? (·.id == id)).map operation), l)

/-- One command after another. -/
def performAll (l : List Listed) : List Use → List Answer × List Listed
  | [] => ([], l)
  | use :: later =>
    let (answer, l') := perform l use
    let (answers, l'') := performAll l' later
    (answer :: answers, l'')

end Listed

/-- An entry without its rank. -/
def Entry.listed (e : Entry) : Listed := ⟨e.id, e.operation, e.consumer⟩

/-- The roster as a list. -/
def listing (r : Roster) : List Listed := r.inOrder.map Entry.listed

/-! ## Each command on the roster and on the list -/

theorem listing_arranged (h : r.Numbered) (t : Traversal) : (r.arranged t).listing = r.listing := by
  rw [listing, listing, inOrder_of_perm h (t.perm r.entries)]

theorem numbered_arranged (h : r.Numbered) (t : Traversal) : (r.arranged t).Numbered :=
  h.perm (t.perm r.entries)

theorem length_listing (r : Roster) : r.listing.length = r.size := by
  simp [listing, size, inOrder, (perm_sort r.entries).length_eq]

theorem ids_listing (r : Roster) : r.listing.map Listed.id = r.ids := by
  simp only [listing, List.map_map, ids]
  rfl

/-- The list finds what the roster finds. -/
theorem find?_listing (h : r.Numbered) (id : String) :
    r.listing.find? (·.id == id) = (r.find? id).map Entry.listed := by
  have hsorted : ({ r with entries := r.inOrder } : Roster).WellFormed :=
    (h.perm (perm_sort r.entries)).wellFormed
  rw [← find?_of_perm h.wellFormed hsorted (perm_sort r.entries), listing, List.find?_map]
  rfl

theorem listing_erase (r : Roster) (id : String) :
    (r.erase id).listing = r.listing.filter (·.id != id) := by
  simp only [listing, inOrder_erase, List.filter_map]
  rfl

theorem listing_insert (h : r.Numbered) (id : String) (operation : Operation) (consumer : Nat) :
    (r.insert id operation consumer).listing =
      r.listing.filter (·.id != id) ++ [⟨id, operation, consumer⟩] := by
  rw [← listing_erase, listing, listing, inOrder_insert h.wellFormed, inOrder_erase,
    List.map_append]
  rfl

theorem listing_prune (r : Roster) (listening : Nat → Bool) :
    (r.prune listening).2.listing = r.listing.filter (listening ·.consumer) := by
  simp only [listing, inOrder_prune, List.filter_map]
  rfl

theorem prune_listing (r : Roster) (listening : Nat → Bool) :
    (r.prune listening).1 = (r.listing.filter (!listening ·.consumer)).map Listed.id := by
  simp only [prune, abandoned, sort_filter, listing, List.filter_map, List.map_map]
  rfl

/-- Handing over an item leaves the roster as it is or removes the entry. -/
theorem route_cases (r : Roster) (listening : Nat → Bool) (id : String) (last : Bool) :
    (r.route listening id last).2 = r ∨ (r.route listening id last).2 = r.erase id := by
  unfold route
  cases r.find? id with
  | none => exact Or.inl rfl
  | some e => cases last <;> cases hl : listening e.consumer <;> simp [hl]

theorem numbered_perform (h : r.Numbered) (use : Use) : (r.perform use).2.Numbered := by
  have herase : ∀ id, (r.erase id).Numbered := fun id => h.sublist List.filter_sublist
  obtain ⟨command, listening⟩ := use
  cases command with
  | insert id operation consumer => exact h.insert id operation consumer
  | remove id => exact herase id
  | route id last =>
    simp only [perform]
    rcases route_cases r listening id last with heq | heq
    · rw [heq]
      exact h
    · rw [heq]
      exact herase id
  | prune => exact h.sublist List.filter_sublist
  | takeAll => exact h.sublist (List.nil_sublist _)
  | ids => exact h
  | size => exact h
  | operation id => exact h

/-- A command does the same to the roster and to its list, with the same answer. -/
theorem perform_listing (h : r.Numbered) (use : Use) :
    Listed.perform r.listing use = ((r.perform use).1, (r.perform use).2.listing) := by
  have hfind := find?_listing h
  obtain ⟨command, listening⟩ := use
  cases command with
  | insert id operation consumer => simp [perform, Listed.perform, listing_insert h]
  | remove id =>
    simp only [perform, Listed.perform, hfind, listing_erase, Option.map_map]
    rfl
  | route id last =>
    simp only [perform, Listed.perform, hfind, route]
    cases r.find? id with
    | none => rfl
    | some e =>
      cases last with
      | true => simp [Entry.listed, listing_erase]
      | false => cases hl : listening e.consumer <;> simp [Entry.listed, listing_erase, hl]
  | prune => simp only [perform, Listed.perform, listing_prune, prune_listing]
  | takeAll =>
    simp only [perform, Listed.perform, takeAll, listing, List.map_map]
    rfl
  | ids => simp only [perform, Listed.perform, ids_listing]
  | size => simp only [perform, Listed.perform, length_listing]
  | operation id =>
    simp only [perform, Listed.perform, hfind, operation?, Option.map_map]
    rfl

/-! ## All commands -/

theorem performAll_listing (h : r.Numbered) (uses : List (Traversal × Use)) :
    Listed.performAll r.listing (uses.map Prod.snd) =
        ((r.performAll uses).1, (r.performAll uses).2.listing) ∧
      (r.performAll uses).2.Numbered := by
  induction uses generalizing r with
  | nil => exact ⟨rfl, h⟩
  | cons first later ih =>
    obtain ⟨t, use⟩ := first
    -- the list is the same before and after the entries are put in another order
    have ht : (r.arranged t).Numbered := numbered_arranged h t
    obtain ⟨hlater, hnumbered⟩ := ih (numbered_perform ht use)
    have hstep : Listed.perform r.listing use =
        (((r.arranged t).perform use).1, ((r.arranged t).perform use).2.listing) := by
      rw [← listing_arranged h t, perform_listing ht use]
    refine ⟨?_, hnumbered⟩
    simp only [List.map_cons, Listed.performAll, performAll, hstep, hlater]

/-- From the empty roster, every sequence of commands has the answers that a list of subscriptions
in the order of insertion gives, and leads to that list, whoever listens at each command and in
whatever order the entries come. The list holds no id twice, and the ranks of the entries differ
and are below the next one. -/
theorem answers_as_list (uses : List (Traversal × Use)) :
    let run := performAll {} uses
    let list := Listed.performAll [] (uses.map Prod.snd)
    run.1 = list.1 ∧ run.2.listing = list.2 ∧ (list.2.map Listed.id).Nodup ∧
      (run.2.entries.map Entry.rank).Nodup ∧ ∀ e ∈ run.2.entries, e.rank < run.2.nextRank := by
  intro run list
  obtain ⟨hsame, hnumbered⟩ := performAll_listing Numbered.empty uses
  have hlist : list = (run.1, run.2.listing) := hsame
  refine ⟨?_, ?_, ?_, hnumbered.ranks, hnumbered.wellFormed.ranks⟩
  · rw [hlist]
  · rw [hlist]
  · rw [hlist, ids_listing]
    exact hnumbered.wellFormed.nodup_ids

end LiveQuery.Roster
