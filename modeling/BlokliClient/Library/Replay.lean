import Mathlib.Data.List.AList

/-!
# Replaying a log of updates

A log of updates is replayed into a map: an update sets or removes the value of
its key.

* `lookup_replay_of_agree` is the rule for one batch of updates. The updates of a
  key agree on the value that they leave, and a key without an update has that
  value already.
* `index` looks a key up in a list whose elements have keys of their own, and
  `values_perm_of_lookup` says that a map with the same lookups has the same values.
-/

namespace Replay

variable {Update κ α : Type*} [DecidableEq κ] (key : Update → κ) (entry : Update → Option α)

/-- Sets the value of the update's key, or removes it. -/
def apply (m : AList fun _ : κ => α) (u : Update) : AList fun _ : κ => α :=
  match entry u with
  | some v => m.insert (key u) v
  | none => m.erase (key u)

def replay (m : AList fun _ : κ => α) (us : List Update) : AList fun _ : κ => α :=
  us.foldl (apply key entry) m

variable {key entry} {m : AList fun _ : κ => α} {k : κ}

theorem lookup_apply_self (u : Update) : (apply key entry m u).lookup (key u) = entry u := by
  unfold apply
  split
  · next v h => rw [h, AList.lookup_insert]
  · next h => rw [h, AList.lookup_erase]

theorem lookup_apply_of_ne {u : Update} (h : key u ≠ k) :
    (apply key entry m u).lookup k = m.lookup k := by
  unfold apply
  split
  · exact AList.lookup_insert_ne (Ne.symm h)
  · exact AList.lookup_erase_ne (Ne.symm h)

theorem replay_append (us us' : List Update) :
    replay key entry m (us ++ us') = replay key entry (replay key entry m us) us' :=
  List.foldl_append ..

/-- **One batch.** -/
theorem lookup_replay_of_agree {us : List Update} {v : Option α}
    (h_agree : ∀ u ∈ us, key u = k → entry u = v)
    (h_none : (∀ u ∈ us, key u ≠ k) → m.lookup k = v) :
    (replay key entry m us).lookup k = v := by
  induction us generalizing m with
  | nil => exact h_none fun _ h_u => absurd h_u List.not_mem_nil
  | cons u us ih =>
    refine @ih (apply key entry m u)
      (fun u' h_u' => h_agree u' (List.mem_cons_of_mem _ h_u')) fun h_rest => ?_
    by_cases h_key : key u = k
    · -- the head is the last update of the key
      obtain rfl := h_key
      rw [lookup_apply_self]
      exact h_agree u List.mem_cons_self rfl
    · rw [lookup_apply_of_ne h_key]
      refine h_none fun u' h_u' => ?_
      rcases List.mem_cons.mp h_u' with rfl | h_u'
      · exact h_key
      · exact h_rest u' h_u'

/-! ### Lists whose elements have keys -/

/-- The element with the key. -/
def index (id : α → κ) (l : List α) (k : κ) : Option α := l.find? fun v => decide (id v = k)

variable {id : α → κ} {l : List α}

theorem index_eq_some (h_nodup : (l.map id).Nodup) {k : κ} {v : α} :
    index id l k = some v ↔ v ∈ l ∧ id v = k := by
  have h_found : ∀ {v}, index id l k = some v → v ∈ l ∧ id v = k := by
    intro v h
    have h_id := List.find?_some h
    exact ⟨List.mem_of_find?_eq_some h, of_decide_eq_true h_id⟩
  constructor
  · exact h_found
  · rintro ⟨h_mem, h_id⟩
    cases h_find : index id l k with
    | none => exact absurd (decide_eq_true h_id) (List.find?_eq_none.mp h_find v h_mem)
    | some v' =>
      -- two elements with the same key are the same
      obtain ⟨h_mem', h_id'⟩ := h_found h_find
      rw [List.inj_on_of_nodup_map h_nodup h_mem' h_mem (h_id'.trans h_id.symm)]

/-- **One batch between two lists.** Updates that agree with the new list, and that
mention every key on which the lists differ, take a map with the lookups of the old
list to one with those of the new list. -/
theorem lookup_replay_of_changes {us : List Update} {l' : List α}
    (h_old : ∀ k, m.lookup k = index id l k)
    (h_agree : ∀ u ∈ us, entry u = index id l' (key u))
    (h_silent : ∀ k, (∀ u ∈ us, key u ≠ k) → index id l k = index id l' k) (k : κ) :
    (replay key entry m us).lookup k = index id l' k := by
  refine lookup_replay_of_agree (fun u h_u h_key => ?_) fun h_none => ?_
  · obtain rfl := h_key
    exact h_agree u h_u
  · rw [h_old]
    exact h_silent k h_none

/-- Two lists have the same lookup when they have the same elements of the key. -/
theorem index_congr {l' : List α} (h_nodup : (l.map id).Nodup) (h_nodup' : (l'.map id).Nodup)
    {k : κ} (h : ∀ v, id v = k → (v ∈ l ↔ v ∈ l')) : index id l k = index id l' k := by
  refine Option.ext fun v => ?_
  rw [index_eq_some h_nodup, index_eq_some h_nodup']
  constructor
  · rintro ⟨h_mem, h_id⟩
    exact ⟨(h v h_id).mp h_mem, h_id⟩
  · rintro ⟨h_mem, h_id⟩
    exact ⟨(h v h_id).mpr h_mem, h_id⟩

/-- A map with the lookups of a list has its elements. -/
theorem values_perm_of_lookup (h_nodup : (l.map id).Nodup)
    (h : ∀ k, m.lookup k = index id l k) : (m.entries.map fun entry => entry.2).Perm l := by
  have h_entry : ∀ k v, ⟨k, v⟩ ∈ m.entries ↔ v ∈ l ∧ id v = k := by
    intro k v
    rw [← AList.mem_lookup_iff, Option.mem_def, h, index_eq_some h_nodup]
  have h_keys : (m.entries.map fun entry => entry.2).map id = m.entries.map Sigma.fst := by
    rw [List.map_map]
    refine List.map_congr_left fun entry h_mem => ?_
    exact ((h_entry entry.1 entry.2).mp h_mem).2
  have h_values : (m.entries.map fun entry => entry.2).Nodup := by
    refine List.Nodup.of_map id ?_
    rw [h_keys]
    exact m.nodupKeys
  refine (List.perm_ext_iff_of_nodup h_values h_nodup.of_map).mpr fun v => ?_
  rw [List.mem_map]
  constructor
  · rintro ⟨⟨k, v⟩, h_mem, rfl⟩
    exact ((h_entry k v).mp h_mem).1
  · intro h_mem
    exact ⟨⟨id v, v⟩, (h_entry _ v).mpr ⟨h_mem, rfl⟩, rfl⟩

end Replay
