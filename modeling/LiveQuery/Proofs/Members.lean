import LiveQuery.Json.Value
import Mathlib.Data.String.Basic

/-!
# Members in key order

The members of an object as a map. `Members.put` acts on it as on a map (`find?_put`) and keeps
the keys in order (`sorted_put`), so members that were put one after another are in order
(`sorted_ofPairs`), and members that are in order are put together again as they were
(`ofPairs_of_sorted`). Pairs of distinct keys are found by their keys however they stand
(`find?_ofPairs`).

What a value says of all values inside it (depth, canonical form) is restated here over
membership.
-/

namespace LiveQuery.Json

namespace Members

variable {name key : String} {value v : Value} {ms : Members}

theorem mem_of_find? (h : find? name ms = some v) : (name, v) ∈ ms := by
  induction ms with
  | nil => cases h
  | cons m ms ih =>
    obtain ⟨k, old⟩ := m
    rw [find?] at h
    split at h
    · rename_i heq
      cases h
      exact heq ▸ List.mem_cons_self
    · exact List.mem_cons_of_mem _ (ih h)

theorem find?_eq_none_iff : find? name ms = none ↔ name ∉ ms.map Prod.fst := by
  induction ms with
  | nil => simp [find?]
  | cons m ms ih =>
    obtain ⟨k, old⟩ := m
    rw [find?, List.map_cons, List.mem_cons, not_or]
    by_cases hk : k = name
    · simp [hk]
    · rw [if_neg hk, ih]
      exact ⟨fun h => ⟨fun heq => hk heq.symm, h⟩, fun h => h.2⟩

/-- A lookup after a write. -/
theorem find?_put (name key : String) (value : Value) (ms : Members) :
    find? key (put name value ms) = if name = key then some value else find? key ms := by
  induction ms with
  | nil => rfl
  | cons m ms ih =>
    obtain ⟨k, old⟩ := m
    rw [put]
    split
    · rename_i hname
      subst hname
      rw [find?, find?]
      by_cases hkey : name = key
      · rw [if_pos hkey, if_pos hkey]
      · rw [if_neg hkey, if_neg hkey, if_neg hkey]
    split
    · rw [find?]
    · rename_i hname _
      rw [find?, ih, find?]
      by_cases hk : k = key
      · rw [if_pos hk, if_pos hk, if_neg fun heq => hname (heq.trans hk.symm)]
      · rw [if_neg hk, if_neg hk]

/-- A write adds at most the new member. -/
theorem mem_put {m : String × Value} (h : m ∈ put name value ms) : m = (name, value) ∨ m ∈ ms := by
  induction ms with
  | nil => exact .inl (List.mem_singleton.1 h)
  | cons n ms ih =>
    obtain ⟨k, old⟩ := n
    rw [put] at h
    split at h
    · exact (List.mem_cons.1 h).imp_right fun h => List.mem_cons_of_mem _ h
    split at h
    · exact List.mem_cons.1 h
    · rcases List.mem_cons.1 h with rfl | h
      · exact .inr List.mem_cons_self
      · exact (ih h).imp_right fun h => List.mem_cons_of_mem _ h

/-- A write keeps the order of the keys. -/
theorem sorted_put (h : Sorted ms) : Sorted (put name value ms) := by
  induction ms with
  | nil => exact List.pairwise_singleton _ _
  | cons m ms ih =>
    obtain ⟨k, old⟩ := m
    obtain ⟨hfirst, hrest⟩ := List.pairwise_cons.1 h
    rw [put]
    split
    · rename_i hname
      subst hname
      exact List.pairwise_cons.2 ⟨hfirst, hrest⟩
    split
    · rename_i hlt
      refine List.pairwise_cons.2 ⟨fun n hn => ?_, h⟩
      rcases List.mem_cons.1 hn with rfl | hn
      · exact hlt
      · exact String.lt_trans hlt (hfirst n hn)
    · rename_i hne hlt
      have hk : k < name := lt_of_le_of_ne (String.not_lt.1 hlt) (Ne.symm hne)
      refine List.pairwise_cons.2 ⟨fun n hn => ?_, ih hrest⟩
      rcases mem_put hn with rfl | hn
      · exact hk
      · exact hfirst n hn

/-- A key beyond all others is put at the end. -/
theorem put_of_lt (h : ∀ m ∈ ms, m.1 < name) : put name value ms = ms ++ [(name, value)] := by
  induction ms with
  | nil => rfl
  | cons m ms ih =>
    obtain ⟨k, old⟩ := m
    have hk : k < name := h (k, old) List.mem_cons_self
    rw [put, if_neg (ne_of_gt hk), if_neg (lt_asymm hk),
      ih fun n hn => h n (List.mem_cons_of_mem _ hn)]
    rfl

theorem sorted_ofPairs (pairs : List (String × Value)) : Sorted (ofPairs pairs) := by
  have hfold (acc : Members) (hacc : Sorted acc) :
      Sorted (pairs.foldl (fun members pair => put pair.1 pair.2 members) acc) := by
    induction pairs generalizing acc with
    | nil => exact hacc
    | cons pair pairs ih => exact ih _ (sorted_put hacc)
  exact hfold [] List.Pairwise.nil

theorem mem_ofPairs {pairs : List (String × Value)} {m : String × Value}
    (h : m ∈ ofPairs pairs) : m ∈ pairs := by
  have hfold (rest : List (String × Value)) (acc : Members)
      (hm : m ∈ rest.foldl (fun members pair => put pair.1 pair.2 members) acc) :
      m ∈ acc ∨ m ∈ rest := by
    induction rest generalizing acc with
    | nil => exact .inl hm
    | cons pair rest ih =>
      rcases ih _ hm with hacc | hrest
      · rcases mem_put hacc with rfl | hacc
        · exact .inr List.mem_cons_self
        · exact .inl hacc
      · exact .inr (List.mem_cons_of_mem _ hrest)
  exact (hfold pairs [] h).resolve_left List.not_mem_nil

/-- Pairs of distinct keys are found by their keys. -/
theorem find?_ofPairs {pairs : List (String × Value)} (h : (pairs.map Prod.fst).Nodup)
    (key : String) : find? key (ofPairs pairs) = find? key pairs := by
  have hfold (acc : Members) :
      find? key (pairs.foldl (fun members pair => put pair.1 pair.2 members) acc) =
        (find? key pairs).or (find? key acc) := by
    induction pairs generalizing acc with
    | nil => rfl
    | cons pair pairs ih =>
      obtain ⟨k, value⟩ := pair
      obtain ⟨hk, hrest⟩ := List.nodup_cons.1 h
      rw [List.foldl_cons, ih hrest, find?_put, find?]
      by_cases heq : k = key
      · subst heq
        rw [if_pos rfl, if_pos rfl, find?_eq_none_iff.2 hk]
        rfl
      · rw [if_neg heq, if_neg heq]
  exact (hfold []).trans (Option.or_none ..)

/-- Members in order are put together as they were. -/
theorem ofPairs_of_sorted (h : Sorted ms) : ofPairs ms = ms := by
  have hfold (acc : Members) (hacc : Sorted (acc ++ ms)) :
      ms.foldl (fun members pair => put pair.1 pair.2 members) acc = acc ++ ms := by
    induction ms generalizing acc with
    | nil => exact (List.append_nil acc).symm
    | cons m ms ih =>
      have hlast : ∀ n ∈ acc, n.1 < m.1 := fun n hn =>
        (List.pairwise_append.1 hacc).2.2 n hn m List.mem_cons_self
      have hsplit : acc ++ m :: ms = (acc ++ [m]) ++ ms := by
        rw [List.append_assoc]
        rfl
      rw [List.foldl_cons, put_of_lt hlast, hsplit]
      exact ih (List.pairwise_cons.1 h).2 _ (hsplit ▸ hacc)
  exact hfold [] h

end Members

/-! ## Values inside a value -/

namespace Value

theorem itemsDepth_le_iff {items : List Value} {n : Nat} :
    itemsDepth items ≤ n ↔ ∀ v ∈ items, v.depth ≤ n := by
  induction items with
  | nil => exact iff_of_true (Nat.zero_le n) (fun v hv => absurd hv List.not_mem_nil)
  | cons v items ih => rw [itemsDepth, Nat.max_le, ih, List.forall_mem_cons]

theorem membersDepth_le_iff {members : List (String × Value)} {n : Nat} :
    membersDepth members ≤ n ↔ ∀ m ∈ members, m.2.depth ≤ n := by
  induction members with
  | nil => exact iff_of_true (Nat.zero_le n) (fun v hv => absurd hv List.not_mem_nil)
  | cons m members ih => rw [membersDepth, Nat.max_le, ih, List.forall_mem_cons]

theorem itemsCanonical_iff {items : List Value} :
    ItemsCanonical items ↔ ∀ v ∈ items, v.Canonical := by
  induction items with
  | nil => exact iff_of_true trivial (fun v hv => absurd hv List.not_mem_nil)
  | cons v items ih => rw [ItemsCanonical, ih, List.forall_mem_cons]

theorem membersCanonical_iff {members : List (String × Value)} :
    MembersCanonical members ↔ ∀ m ∈ members, m.2.Canonical := by
  induction members with
  | nil => exact iff_of_true trivial (fun v hv => absurd hv List.not_mem_nil)
  | cons m members ih => rw [MembersCanonical, ih, List.forall_mem_cons]

end Value

end LiveQuery.Json
