/-
# Maps in memory

The dictionaries that a process keeps: association lists under distinct keys, with what they do
besides insertion and deletion, namely a pass over all entries that changes or drops each of them.
-/

import Mathlib.Data.List.AList

namespace AgenticCommerce

/-- A dictionary. -/
abbrev Map (K V : Type) := AList fun _ : K => V

end AgenticCommerce

namespace AList

open AgenticCommerce

variable {K V : Type}

/-- The number of entries. -/
def size (m : Map K V) : ℕ := m.entries.length

/-- The entries that a pass keeps, with their values changed. -/
def sift (f : K → V → Option V) (m : Map K V) : Map K V where
  entries := m.entries.filterMap fun e => (f e.1 e.2).map fun v => ⟨e.1, v⟩
  nodupKeys := by
    have hkeys : (m.entries.filterMap fun e =>
        (f e.1 e.2).map fun v => (⟨e.1, v⟩ : Sigma fun _ : K => V)).keys.Sublist m.entries.keys := by
      induction m.entries with
      | nil => exact List.Sublist.refl _
      | cons e entries ih =>
          cases hf : f e.1 e.2 with
          | none =>
              rw [List.filterMap_cons_none (by rw [hf]; rfl)]
              exact ih.cons _
          | some v =>
              rw [List.filterMap_cons_some (by rw [hf]; rfl)]
              exact ih.cons_cons _
    exact List.Nodup.sublist hkeys m.nodupKeys

/-- The entries whose keys a pass keeps. -/
def keep (p : K → Bool) (m : Map K V) : Map K V := m.sift fun k v => if p k then some v else none

variable [DecidableEq K] {m : Map K V} {k k' : K} {v : V}

/-- An entry is found if the pass keeps it. -/
theorem lookup_sift (f : K → V → Option V) : (m.sift f).lookup k = (m.lookup k).bind (f k) := by
  refine Option.ext fun v => ?_
  rw [Option.bind_eq_some_iff, ← Option.mem_def, AList.mem_lookup_iff]
  constructor
  · intro h
    obtain ⟨e, he, hsome⟩ := List.mem_filterMap.1 h
    obtain ⟨v', hv', heq⟩ := Option.map_eq_some_iff.1 hsome
    cases heq
    exact ⟨e.2, AList.mem_lookup_iff.2 he, hv'⟩
  · rintro ⟨v', hlookup, hf⟩
    refine List.mem_filterMap.2 ⟨⟨k, v'⟩, AList.mem_lookup_iff.1 hlookup, ?_⟩
    dsimp only
    rw [hf]
    rfl

theorem lookup_keep (p : K → Bool) : (m.keep p).lookup k = if p k then m.lookup k else none := by
  rw [keep, lookup_sift]
  cases m.lookup k <;> cases p k <;> rfl

theorem lookup_set : (m.insert k v).lookup k' = if k' = k then some v else m.lookup k' := by
  split_ifs with h
  · rw [h, AList.lookup_insert]
  · exact AList.lookup_insert_ne h

theorem lookup_unset : (m.erase k).lookup k' = if k' = k then none else m.lookup k' := by
  split_ifs with h
  · rw [h, AList.lookup_erase]
  · exact AList.lookup_erase_ne h

/-- A new key is one entry more. -/
theorem size_insert (h : m.lookup k = none) : (m.insert k v).size = m.size + 1 := by
  rw [size, AList.entries_insert_of_notMem (AList.lookup_eq_none.1 h), List.length_cons, size]

/-- An insertion adds at most one entry. -/
theorem size_insert_le : (m.insert k v).size ≤ m.size + 1 := by
  rw [size, AList.entries_insert, List.length_cons, size]
  exact Nat.succ_le_succ (List.kerase_sublist k m.entries).length_le

omit [DecidableEq K] in
/-- A pass adds no entry. -/
theorem size_sift_le (f : K → V → Option V) : (m.sift f).size ≤ m.size := List.length_filterMap_le _ _

end AList
