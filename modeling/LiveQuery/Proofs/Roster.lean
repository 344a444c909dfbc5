import LiveQuery.Session.Roster
import Mathlib.Data.List.Nodup
import Mathlib.Data.List.Sort
import Mathlib.Data.List.TakeWhile

/-!
# The roster as a list in the order of insertion

`Roster.ids` sorts the entries by rank. In a well-formed roster every operation acts on that
list in a way that does not mention ranks: an insertion moves the id to the end (`ids_insert`),
an erasure and a pruning leave out ids and keep the order of the others (`ids_erase`,
`ids_prune`).
-/

namespace LiveQuery.Roster

/-! ## Sorting by rank -/

theorem place_eq (e : Entry) (l : List Entry) :
    place e l = l.orderedInsert (·.rank ≤ ·.rank) e := by
  induction l with
  | nil => rfl
  | cons f rest ih => rw [place, List.orderedInsert_cons, ih]

/-- Entries are sorted by insertion, so the library's laws of that hold. -/
theorem sort_eq (l : List Entry) : sort l = l.insertionSort (·.rank ≤ ·.rank) := by
  induction l with
  | nil => rfl
  | cons e rest ih =>
    rw [List.insertionSort_cons, ← ih, ← place_eq]
    rfl

/-- Sorting only changes the order. -/
theorem perm_sort (l : List Entry) : (sort l).Perm l := by
  rw [sort_eq]
  exact List.perm_insertionSort _ l

/-- Entries in the order of their ranks. -/
def Ascending (l : List Entry) : Prop := l.Pairwise (·.rank ≤ ·.rank)

theorem ascending_sort (l : List Entry) : Ascending (sort l) := by
  have : Std.Total fun e f : Entry => e.rank ≤ f.rank := ⟨fun e f => le_total e.rank f.rank⟩
  have : IsTrans Entry fun e f => e.rank ≤ f.rank := ⟨fun _ _ _ => le_trans⟩
  rw [sort_eq]
  exact List.pairwise_insertionSort _ l

/-- An entry of a greater rank than all others comes last. -/
theorem place_of_lt {e : Entry} {l : List Entry} (h : ∀ f ∈ l, f.rank < e.rank) :
    place e l = l ++ [e] := by
  have hall : ∀ f ∈ l, decide (¬ e.rank ≤ f.rank) = true :=
    fun f hf => decide_eq_true (Nat.not_le.2 (h f hf))
  rw [place_eq, List.orderedInsert_eq_take_drop, List.takeWhile_eq_self_iff.2 hall,
    List.dropWhile_eq_nil_iff.2 hall]

theorem filter_place (p : Entry → Bool) {e : Entry} {l : List Entry} (h : Ascending l) :
    (place e l).filter p = if p e then place e (l.filter p) else l.filter p := by
  induction l with
  | nil => cases hp : p e <;> simp [place, hp]
  | cons f rest ih =>
    obtain ⟨hf, hrest⟩ := List.pairwise_cons.1 h
    by_cases hle : e.rank ≤ f.rank
    · -- everything that passes the filter has a rank at least that of `e`
      have hfirst : place e ((f :: rest).filter p) = e :: (f :: rest).filter p := by
        have hge (g : Entry) (hg : g ∈ (f :: rest).filter p) : e.rank ≤ g.rank := by
          rcases List.mem_cons.1 (List.mem_filter.1 hg).1 with rfl | hg
          · exact hle
          · exact Nat.le_trans hle (hf g hg)
        cases hrest : (f :: rest).filter p with
        | nil => rfl
        | cons g later => exact if_pos (hge g (hrest ▸ List.mem_cons_self))
      rw [place, if_pos hle, hfirst, List.filter_cons]
    · rw [place, if_neg hle, List.filter_cons, ih hrest, List.filter_cons]
      cases p e <;> cases p f <;> simp [place, hle]

/-- Sorting commutes with leaving entries out. -/
theorem sort_filter (p : Entry → Bool) (l : List Entry) :
    sort (l.filter p) = (sort l).filter p := by
  induction l with
  | nil => rfl
  | cons e rest ih =>
    have hsort : sort (e :: rest) = place e (sort rest) := rfl
    rw [hsort, filter_place p (ascending_sort rest), ← ih, List.filter_cons]
    cases p e <;> rfl

/-! ## Membership -/

variable {r : Roster} {id : String} {e : Entry}

theorem mem_inOrder : e ∈ r.inOrder ↔ e ∈ r.entries := (perm_sort r.entries).mem_iff

theorem mem_ids : id ∈ r.ids ↔ ∃ e ∈ r.entries, e.id = id := by
  simp only [ids, List.mem_map, mem_inOrder]

theorem ids_of_mem (h : e ∈ r.entries) : e.id ∈ r.ids := mem_ids.2 ⟨e, h, rfl⟩

theorem ids_eq_nil_iff : r.ids = [] ↔ r.entries = [] := by
  rw [ids, List.map_eq_nil_iff, inOrder]
  exact ⟨fun h => List.perm_nil.1 (h ▸ (perm_sort r.entries).symm), fun h => by rw [h]; rfl⟩

/-! ## Well-formed rosters -/

/-- Ids and ranks tell entries apart, and every rank is below the next one. -/
structure WellFormed (r : Roster) : Prop where
  ids : (r.entries.map Entry.id).Nodup
  ranks : ∀ e ∈ r.entries, e.rank < r.nextRank

theorem wellFormed_empty : WellFormed {} := ⟨List.nodup_nil, fun _ h => absurd h List.not_mem_nil⟩

theorem WellFormed.nodup_ids (h : r.WellFormed) : r.ids.Nodup :=
  ((perm_sort r.entries).map Entry.id).nodup_iff.2 h.ids

/-- An id belongs to one entry only. -/
theorem WellFormed.eq_of_id (h : r.WellFormed) {f : Entry} (he : e ∈ r.entries)
    (hf : f ∈ r.entries) (hid : e.id = f.id) : e = f :=
  List.inj_on_of_nodup_map h.ids he hf hid

theorem WellFormed.sublist {entries : List Entry} (h : r.WellFormed)
    (hs : entries.Sublist r.entries) : WellFormed { r with entries } :=
  ⟨h.ids.sublist (hs.map Entry.id), fun e he => h.ranks e (hs.subset he)⟩

theorem WellFormed.erase (h : r.WellFormed) (id : String) : (r.erase id).WellFormed :=
  h.sublist List.filter_sublist

theorem WellFormed.prune (h : r.WellFormed) (listening : Nat → Bool) :
    (r.prune listening).2.WellFormed :=
  h.sublist List.filter_sublist

theorem mem_erase : e ∈ (r.erase id).entries ↔ e ∈ r.entries ∧ e.id ≠ id := by
  simp [Roster.erase]

theorem mem_insert {operation : Operation} {consumer : Nat} :
    e ∈ (r.insert id operation consumer).entries ↔
      e = ⟨id, r.nextRank, operation, consumer⟩ ∨ e ∈ r.entries ∧ e.id ≠ id := by
  simp only [insert, List.mem_cons, mem_erase]

theorem mem_prune {listening : Nat → Bool} :
    e ∈ (r.prune listening).2.entries ↔ e ∈ r.entries ∧ listening e.consumer = true := by
  simp only [Roster.prune, List.mem_filter]

theorem WellFormed.insert (h : r.WellFormed) (id : String) (operation : Operation)
    (consumer : Nat) : (r.insert id operation consumer).WellFormed := by
  constructor
  · have hnew : id ∉ (r.erase id).entries.map Entry.id := by
      intro hmem
      obtain ⟨e, he, heq⟩ := List.mem_map.1 hmem
      exact (mem_erase.1 he).2 heq
    exact List.nodup_cons.2 ⟨hnew, (h.erase id).ids⟩
  · intro e he
    rcases mem_insert.1 he with rfl | ⟨he, -⟩
    · exact Nat.lt_succ_self _
    · exact Nat.lt_succ_of_lt (h.ranks e he)

/-! ## Looking up -/

theorem mem_of_find? (h : r.find? id = some e) : e ∈ r.entries := List.mem_of_find?_eq_some h

theorem id_of_find? (h : r.find? id = some e) : e.id = id := by
  simpa using List.find?_some h

theorem find?_eq_none_iff : r.find? id = none ↔ id ∉ r.ids := by
  rw [mem_ids, find?, List.find?_eq_none]
  simp

theorem find?_eq_some_iff (h : r.WellFormed) : r.find? id = some e ↔ e ∈ r.entries ∧ e.id = id := by
  constructor
  · exact fun he => ⟨mem_of_find? he, id_of_find? he⟩
  · rintro ⟨he, rfl⟩
    cases hf : r.find? e.id with
    | none => exact absurd (ids_of_mem he) (find?_eq_none_iff.1 hf)
    | some f => rw [h.eq_of_id (mem_of_find? hf) he (id_of_find? hf)]

theorem find?_of_mem (h : r.WellFormed) (he : e ∈ r.entries) : r.find? e.id = some e :=
  (find?_eq_some_iff h).2 ⟨he, rfl⟩

/-- An id that is not registered is not there to be erased. -/
theorem erase_of_find?_eq_none (h : r.find? id = none) : r.erase id = r := by
  have hkeep : r.entries.filter (·.id != id) = r.entries := by
    refine List.filter_eq_self.2 fun e he => ?_
    have hne := List.find?_eq_none.1 h e he
    simpa using hne
  rw [erase, hkeep]

theorem feeds_iff {consumer : Nat} :
    r.feeds consumer = true ↔ ∃ e ∈ r.entries, e.consumer = consumer := by
  simp [feeds]

/-! ## The order of ids -/

theorem ids_filter (p : Entry → Bool) (q : String → Bool) (h : ∀ e ∈ r.entries, p e = q e.id) :
    ids { r with entries := r.entries.filter p } = r.ids.filter q := by
  have hp : (sort r.entries).filter p = (sort r.entries).filter (q ∘ Entry.id) :=
    List.filter_congr fun e he => h e ((perm_sort r.entries).subset he)
  simp only [ids, inOrder, sort_filter, hp, List.filter_map]

/-- An erasure keeps the order of the other ids. -/
theorem ids_erase (r : Roster) (id : String) : (r.erase id).ids = r.ids.filter (· != id) :=
  ids_filter _ _ fun _ _ => rfl

theorem inOrder_erase (r : Roster) (id : String) :
    (r.erase id).inOrder = r.inOrder.filter (·.id != id) := sort_filter _ _

theorem inOrder_prune (r : Roster) (listening : Nat → Bool) :
    (r.prune listening).2.inOrder = r.inOrder.filter (listening ·.consumer) := sort_filter _ _

/-- An insertion puts its entry at the end. -/
theorem inOrder_insert (h : r.WellFormed) (id : String) (operation : Operation) (consumer : Nat) :
    (r.insert id operation consumer).inOrder =
      r.inOrder.filter (·.id != id) ++ [⟨id, r.nextRank, operation, consumer⟩] := by
  have hlast : place ⟨id, r.nextRank, operation, consumer⟩ (sort (r.erase id).entries) =
      sort (r.erase id).entries ++ [⟨id, r.nextRank, operation, consumer⟩] :=
    place_of_lt fun f hf =>
      h.ranks f (mem_erase.1 ((perm_sort _).subset hf)).1
  have hsort : (r.insert id operation consumer).inOrder =
      place ⟨id, r.nextRank, operation, consumer⟩ (sort (r.erase id).entries) := rfl
  rw [hsort, hlast, ← inOrder_erase]
  rfl

/-- An insertion puts its id at the end. -/
theorem ids_insert (h : r.WellFormed) (id : String) (operation : Operation) (consumer : Nat) :
    (r.insert id operation consumer).ids = r.ids.filter (· != id) ++ [id] := by
  rw [← ids_erase, ids, inOrder_insert h, List.map_append, ids, inOrder_erase]
  rfl

theorem mem_ids_prune {listening : Nat → Bool} :
    id ∈ (r.prune listening).1 ↔ ∃ e ∈ r.entries, e.id = id ∧ listening e.consumer = false := by
  simp only [Roster.prune, abandoned, List.mem_map, (perm_sort _).mem_iff, List.mem_filter,
    Bool.not_eq_true', and_assoc]
  exact ⟨fun ⟨e, he, hl, hid⟩ => ⟨e, he, hid, hl⟩, fun ⟨e, he, hid, hl⟩ => ⟨e, he, hl, hid⟩⟩

/-- Which entries a pruning removes is told by its list of ids. -/
theorem contains_prune (h : r.WellFormed) (listening : Nat → Bool) (he : e ∈ r.entries) :
    (r.prune listening).1.contains e.id = !listening e.consumer := by
  rw [Bool.eq_iff_iff, List.contains_iff_mem, mem_ids_prune, Bool.not_eq_true']
  constructor
  · rintro ⟨f, hf, hid, hl⟩
    rwa [h.eq_of_id hf he hid] at hl
  · exact fun hl => ⟨e, he, rfl, hl⟩

/-- A pruning keeps the order of the ids that stay. -/
theorem ids_prune (h : r.WellFormed) (listening : Nat → Bool) :
    (r.prune listening).2.ids = r.ids.filter fun id => !(r.prune listening).1.contains id := by
  refine ids_filter _ _ fun e he => ?_
  rw [contains_prune h listening he, Bool.not_not]

/-- An id is registered after a pruning if it was before and the pruning does not list it. -/
theorem mem_ids_pruned (h : r.WellFormed) {listening : Nat → Bool} :
    id ∈ (r.prune listening).2.ids ↔ id ∈ r.ids ∧ id ∉ (r.prune listening).1 := by
  rw [ids_prune h, List.mem_filter, Bool.not_eq_true', ← Bool.not_eq_true, List.contains_iff_mem]

/-- An insertion registers the new id and keeps the others. -/
theorem mem_ids_insert {new : String} {operation : Operation} {consumer : Nat} :
    id ∈ (r.insert new operation consumer).ids ↔ id = new ∨ id ∈ r.ids := by
  simp only [mem_ids, mem_insert]
  constructor
  · rintro ⟨e, rfl | ⟨he, -⟩, rfl⟩
    · exact Or.inl rfl
    · exact Or.inr ⟨e, he, rfl⟩
  · rintro (rfl | ⟨e, he, rfl⟩)
    · exact ⟨_, Or.inl rfl, rfl⟩
    · by_cases hnew : e.id = new
      · exact ⟨_, Or.inl rfl, hnew.symm⟩
      · exact ⟨e, Or.inr ⟨he, hnew⟩, rfl⟩

end LiveQuery.Roster
