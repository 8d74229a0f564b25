import Mathlib.Data.List.Nodup
import Mathlib.Order.Lattice

/-!
# Maps with sorted keys

A map is the list of its entries, with strictly increasing keys.

* `insert` gives a key its value, and `insertAll` does so for a list of entries, where the
  last entry of a key counts.
* `Sorted` is kept by both, and `mem_iff_find` says that a sorted list has exactly the
  entries that `find` finds.
-/

namespace SortedMap

variable {K V : Type*} [LinearOrder K]

def insert (k : K) (v : V) : List (K × V) → List (K × V)
  | [] => [(k, v)]
  | (k', v') :: m =>
    if k < k' then (k, v) :: (k', v') :: m
    else if k = k' then (k, v) :: m
    else (k', v') :: insert k v m

def find (k : K) : List (K × V) → Option V
  | [] => none
  | (k', v) :: m => if k' = k then some v else find k m

/-- The entries, one after the other. -/
def insertAll (entries m : List (K × V)) : List (K × V) :=
  entries.foldl (fun m entry => insert entry.1 entry.2 m) m

/-- The keys increase. -/
def Sorted (m : List (K × V)) : Prop := (m.map Prod.fst).Pairwise (· < ·)

variable {k k' : K} {v : V} {m entries : List (K × V)}

/-! ### Finding -/

theorem find_cons (entry : K × V) :
    find k (entry :: m) = if entry.1 = k then some entry.2 else find k m := rfl

/-- What is found after an insert. -/
theorem find_insert : find k (insert k' v m) = if k' = k then some v else find k m := by
  -- the induction is on the entries
  induction m with
  | nil => rfl
  | cons entry m ih =>
    unfold insert
    split
    · rfl
    · split
      · next h_eq =>
        -- the entry is replaced, and nothing behind it is looked at
        rw [find_cons, find_cons, ← h_eq]
        by_cases h : k' = k
        · rw [if_pos h, if_pos h]
        · rw [if_neg h, if_neg h, if_neg h]
      · next h_ne =>
        -- it goes somewhere behind this entry
        rw [find_cons, ih, find_cons]
        by_cases h : entry.1 = k
        · rw [if_pos h, if_pos h, if_neg (fun h_eq => h_ne (h_eq.trans h.symm))]
        · rw [if_neg h, if_neg h]

/-- What is found is there. -/
theorem mem_of_find (h : find k m = some v) : (k, v) ∈ m := by
  induction m with
  | nil => cases h
  | cons entry m ih =>
    rw [find_cons] at h
    split at h
    · next h_eq =>
      obtain rfl := Option.some.inj h
      subst h_eq
      exact List.mem_cons_self
    · exact List.mem_cons_of_mem _ (ih h)

/-- **What a sorted map has is what is found.** -/
theorem mem_iff_find (h : Sorted m) : (k, v) ∈ m ↔ find k m = some v := by
  refine ⟨fun h_mem => ?_, mem_of_find⟩
  induction m with
  | nil => exact absurd h_mem List.not_mem_nil
  | cons entry m ih =>
    obtain ⟨h_first, h_rest⟩ := List.pairwise_cons.mp h
    rw [find_cons]
    rcases List.mem_cons.mp h_mem with h_eq | h_mem
    · rw [← h_eq]
      exact if_pos rfl
    -- every entry in front has a smaller key
    · have h_less : entry.1 < k := h_first k (List.mem_map_of_mem h_mem)
      rw [if_neg (ne_of_lt h_less)]
      exact ih h_rest h_mem

theorem mem_keys_iff : k ∈ m.map Prod.fst ↔ ∃ v, find k m = some v := by
  constructor
  · intro h
    induction m with
    | nil => exact absurd h List.not_mem_nil
    | cons entry m ih =>
      rw [find_cons]
      split
      · exact ⟨entry.2, rfl⟩
      · next h_ne =>
        -- behind an entry of another key
        rcases List.mem_cons.mp h with h_eq | h_mem
        · exact absurd h_eq.symm h_ne
        · exact ih h_mem
  · rintro ⟨v, h⟩
    exact List.mem_map.mpr ⟨(k, v), mem_of_find h, rfl⟩

/-! ### Sorted maps -/

theorem mem_insert {entry : K × V} (h : entry ∈ insert k v m) : entry = (k, v) ∨ entry ∈ m := by
  induction m with
  | nil => exact Or.inl (List.mem_singleton.mp h)
  | cons first m ih =>
    unfold insert at h
    split at h
    · exact List.mem_cons.mp h
    · split at h
      · -- in front of everything
        rcases List.mem_cons.mp h with h_eq | h_mem
        · exact Or.inl h_eq
        · exact Or.inr (List.mem_cons_of_mem _ h_mem)
      · rcases List.mem_cons.mp h with h_eq | h_mem
        · exact Or.inr (List.mem_cons.mpr (Or.inl h_eq))
        · exact (ih h_mem).imp_right (List.mem_cons_of_mem _)

/-- An insert keeps the map sorted. -/
theorem Sorted.insert (h : Sorted m) : Sorted (insert k v m) := by
  induction m with
  | nil => exact List.pairwise_singleton _ _
  | cons first m ih =>
    obtain ⟨h_first, h_rest⟩ := List.pairwise_cons.mp h
    unfold SortedMap.insert
    split
    -- the new key is the least
    · next h_less =>
      refine List.pairwise_cons.mpr ⟨fun k₁ h_k₁ => ?_, h⟩
      rcases List.mem_cons.mp h_k₁ with h_eq | h_mem
      · rw [h_eq]
        exact h_less
      · exact lt_trans h_less (h_first k₁ h_mem)
    · split
      · next h_eq =>
        subst h_eq
        exact h
      -- the new key goes behind the first, which stays the least
      · next h_not_less h_ne =>
        refine List.pairwise_cons.mpr ⟨fun k₁ h_k₁ => ?_, ih h_rest⟩
        obtain ⟨entry, h_entry, rfl⟩ := List.mem_map.mp h_k₁
        rcases mem_insert h_entry with rfl | h_mem
        · exact lt_of_le_of_ne (not_lt.mp h_not_less) fun h_eq => h_ne h_eq.symm
        · exact h_first _ (List.mem_map_of_mem h_mem)

/-- So do any number of them. -/
theorem Sorted.insertAll (h : Sorted m) : Sorted (insertAll entries m) := by
  induction entries generalizing m with
  | nil => exact h
  | cons entry entries ih => exact ih h.insert

theorem Sorted.nil : Sorted ([] : List (K × V)) := List.Pairwise.nil

/-! ### Many entries -/

/-- The last entry of the key counts. -/
theorem find_insertAll : find k (insertAll entries m) =
    ((entries.filter fun entry => entry.1 = k).getLast?.map Prod.snd).or (find k m) := by
  induction entries generalizing m with
  | nil => rfl
  | cons entry entries ih =>
    change find k (insertAll entries (insert entry.1 entry.2 m)) = _
    rw [ih, find_insert]
    by_cases h : entry.1 = k
    · -- an entry of the key: later ones win
      rw [List.filter_cons_of_pos (by simpa using h), if_pos h]
      cases h_last : (entries.filter fun entry => entry.1 = k).getLast? with
      | none =>
        rw [List.getLast?_eq_none_iff.mp h_last]
        rfl
      | some last => rw [List.getLast?_cons, h_last]; rfl
    · -- an entry of another key
      rw [List.filter_cons_of_neg (by simpa using h), if_neg h]

theorem mem_keys_insert : k ∈ (insert k' v m).map Prod.fst ↔ k = k' ∨ k ∈ m.map Prod.fst := by
  rw [mem_keys_iff, mem_keys_iff, find_insert]
  by_cases h : k' = k
  · rw [if_pos h]
    exact ⟨fun _ => Or.inl h.symm, fun _ => ⟨v, rfl⟩⟩
  · rw [if_neg h]
    exact ⟨Or.inr, fun h_or => h_or.resolve_left fun h_eq => h h_eq.symm⟩

/-- The keys of the entries are the new keys. -/
theorem mem_keys_insertAll :
    k ∈ (insertAll entries m).map Prod.fst ↔ k ∈ entries.map Prod.fst ∨ k ∈ m.map Prod.fst := by
  induction entries generalizing m with
  | nil => exact ⟨Or.inr, fun h => h.resolve_left List.not_mem_nil⟩
  | cons entry entries ih =>
    change k ∈ (insertAll entries (insert entry.1 entry.2 m)).map Prod.fst ↔ _
    rw [ih, mem_keys_insert, List.map_cons, List.mem_cons, or_assoc, or_left_comm]

/-- What is found in the map is one of the entries. -/
theorem mem_of_find_insertAll (h : find k (insertAll entries []) = some v) : (k, v) ∈ entries := by
  rw [find_insertAll, show find k ([] : List (K × V)) = none from rfl, Option.or_none,
    Option.map_eq_some_iff] at h
  obtain ⟨⟨k₁, v₁⟩, h_found, rfl⟩ := h
  -- the last entry of the key is an entry
  obtain ⟨h_mem, h_key⟩ := List.mem_filter.mp (List.mem_of_getLast? h_found)
  obtain rfl := of_decide_eq_true h_key
  exact h_mem

/-- **When no key comes twice**, the map has exactly these entries. -/
theorem find_insertAll_nil (h : (entries.map Prod.fst).Nodup) :
    find k (insertAll entries []) = some v ↔ (k, v) ∈ entries := by
  refine ⟨mem_of_find_insertAll, fun h_mem => ?_⟩
  -- something is found under the key, and no other entry has it
  obtain ⟨v', h_found⟩ : ∃ v', find k (insertAll entries []) = some v' :=
    mem_keys_iff.mp (mem_keys_insertAll.mpr (Or.inl (List.mem_map_of_mem h_mem)))
  have h_same : (k, v') = (k, v) :=
    List.inj_on_of_nodup_map h (mem_of_find_insertAll h_found) h_mem rfl
  rw [h_found, (Prod.mk.inj h_same).2]

end SortedMap
