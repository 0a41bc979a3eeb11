/-
# First come, first kept

A table with a key that takes an element unless one with its key is there already.  Filling it
from a list keeps the first element of each key, in the order of the list (`mem_keepAll`).
What a prefix of the list filled is not changed by filling it from the whole list again
(`keepAll_resume`), so a pass over the list may be broken off and begun anew.
-/

import Mathlib.Data.List.Basic
import Mathlib.Data.List.Infix
import Mathlib.Data.List.Nodup

namespace Relational

variable {α κ : Type} [DecidableEq κ] (key : α → κ)

/-- Takes an element unless one with its key is there. -/
def keepFirst (kept : List α) (a : α) : List α :=
  if key a ∈ kept.map key then kept else kept ++ [a]

/-- Takes the elements of a list one after another. -/
def keepAll (kept l : List α) : List α := l.foldl (keepFirst key) kept

variable {key} {kept l l' : List α} {a : α} {k : κ}

@[simp] theorem keepAll_nil : keepAll key kept [] = kept := rfl

theorem keepAll_append : keepAll key kept (l ++ l') = keepAll key (keepAll key kept l) l' :=
  List.foldl_append

theorem keepFirst_of_mem (h : key a ∈ kept.map key) : keepFirst key kept a = kept := if_pos h

theorem keepFirst_of_notMem (h : key a ∉ kept.map key) : keepFirst key kept a = kept ++ [a] :=
  if_neg h

/-- The keys that are there in the end. -/
theorem mem_keys_keepAll :
    k ∈ (keepAll key kept l).map key ↔ k ∈ kept.map key ∨ k ∈ l.map key := by
  induction l generalizing kept with
  | nil => simp
  | cons a l ih =>
      have hfirst : k ∈ (keepFirst key kept a).map key ↔ k ∈ kept.map key ∨ k = key a := by
        by_cases hmem : key a ∈ kept.map key
        · rw [keepFirst_of_mem hmem]
          refine ⟨.inl, ?_⟩
          rintro (hk | rfl)
          · exact hk
          · exact hmem
        · rw [keepFirst_of_notMem hmem, List.map_append, List.mem_append, List.map_singleton,
            List.mem_singleton]
      change k ∈ (keepAll key (keepFirst key kept a) l).map key ↔ _
      rw [ih, hfirst, List.map_cons, List.mem_cons, or_assoc]

/-- Nothing that is there goes. -/
theorem prefix_keepAll : kept <+: keepAll key kept l := by
  induction l generalizing kept with
  | nil => exact List.prefix_rfl
  | cons a l ih =>
      refine List.IsPrefix.trans ?_ (@ih (keepFirst key kept a))
      by_cases hmem : key a ∈ kept.map key
      · rw [keepFirst_of_mem hmem]
      · rw [keepFirst_of_notMem hmem]
        exact List.prefix_append _ _

/-- Elements whose keys are all there change nothing. -/
theorem keepAll_of_forall_mem (h : ∀ a ∈ l, key a ∈ kept.map key) : keepAll key kept l = kept := by
  induction l with
  | nil => rfl
  | cons a l ih =>
      change keepAll key (keepFirst key kept a) l = kept
      rw [keepFirst_of_mem (h a List.mem_cons_self)]
      exact ih fun b hb => h b (List.mem_cons_of_mem _ hb)

/-- No key is there twice. -/
theorem nodup_keys_keepAll (h : (kept.map key).Nodup) : ((keepAll key kept l).map key).Nodup := by
  induction l generalizing kept with
  | nil => exact h
  | cons a l ih =>
      refine ih ?_
      by_cases hmem : key a ∈ kept.map key
      · rwa [keepFirst_of_mem hmem]
      · rw [keepFirst_of_notMem hmem, List.map_append, List.map_singleton, List.nodup_append_comm,
          List.singleton_append, List.nodup_cons]
        exact ⟨hmem, h⟩

/-- **The elements kept** are the first ones of their keys. -/
theorem mem_keepAll :
    a ∈ keepAll key [] l ↔ ∃ before after, l = before ++ a :: after ∧ key a ∉ before.map key := by
  induction l using List.reverseRecOn with
  | nil => simp
  | append_singleton l b ih =>
      rw [keepAll_append]
      change a ∈ keepFirst key (keepAll key [] l) b ↔ _
      have hkeys : key b ∈ (keepAll key [] l).map key ↔ key b ∈ l.map key := by
        rw [mem_keys_keepAll]
        simp
      have hold : (∃ before after, l = before ++ a :: after ∧ key a ∉ before.map key) →
          ∃ before after, l ++ [b] = before ++ a :: after ∧ key a ∉ before.map key := by
        rintro ⟨before, after, rfl, hnew⟩
        exact ⟨before, after ++ [b], by simp, hnew⟩
      have hsplit : ∀ {before after : List α}, l ++ [b] = before ++ a :: after →
          (∃ rest, after = rest ++ [b] ∧ l = before ++ a :: rest) ∨ (before = l ∧ a = b) := by
        intro before after heq
        rcases List.eq_nil_or_concat after with rfl | ⟨rest, c, rfl⟩
        · obtain ⟨hl, hb⟩ := List.append_inj' heq rfl
          exact .inr ⟨hl.symm, (List.cons.inj hb).1.symm⟩
        · rw [List.concat_eq_append, ← List.cons_append, ← List.append_assoc] at heq
          obtain ⟨hl, hb⟩ := List.append_inj' heq rfl
          obtain ⟨rfl, -⟩ := List.cons.inj hb
          exact .inl ⟨rest, List.concat_eq_append, hl⟩
      by_cases hmem : key b ∈ (keepAll key [] l).map key
      · rw [keepFirst_of_mem hmem, ih]
        refine ⟨hold, ?_⟩
        rintro ⟨before, after, heq, hnew⟩
        rcases hsplit heq with ⟨rest, rfl, hl⟩ | ⟨rfl, rfl⟩
        · exact ⟨before, rest, hl, hnew⟩
        · exact absurd (hkeys.1 hmem) hnew
      · rw [keepFirst_of_notMem hmem, List.mem_append, List.mem_singleton, ih]
        constructor
        · rintro (h | rfl)
          · exact hold h
          · exact ⟨l, [], rfl, fun hin => hmem (hkeys.2 hin)⟩
        · rintro ⟨before, after, heq, hnew⟩
          rcases hsplit heq with ⟨rest, rfl, hl⟩ | ⟨rfl, rfl⟩
          · exact .inl ⟨before, rest, hl, hnew⟩
          · exact .inr rfl

/-- **A pass that was broken off may be begun anew**: what a prefix filled is filled up to what
the whole list fills. -/
theorem keepAll_resume {part : List α} (h : part <+: l) :
    keepAll key (keepAll key [] part) l = keepAll key [] l := by
  obtain ⟨rest, rfl⟩ := h
  have hagain : keepAll key (keepAll key [] part) part = keepAll key [] part :=
    keepAll_of_forall_mem fun a ha => mem_keys_keepAll.2 (.inr (List.mem_map_of_mem ha))
  rw [keepAll_append, hagain, keepAll_append]

omit [DecidableEq κ] in
/-- What has been passed when a new key comes up is no less than what was kept. -/
theorem prefix_of_next {part passed : List α} (hpart : part <+: l) (hpassed : passed ++ [a] <+: l)
    (hnew : key a ∉ part.map key) : part <+: passed := by
  rcases List.prefix_or_prefix_of_prefix hpart hpassed with h | h
  · rcases List.prefix_concat_iff.1 h with rfl | h
    · exact absurd (List.mem_map_of_mem (by simp)) hnew
    · exact h
  · exact absurd (List.mem_map_of_mem (h.subset (by simp))) hnew

/-- **The next new key** is taken behind what was kept, where nothing else that was passed is
new. -/
theorem keepAll_next {part passed : List α} (hpart : part <+: l) (hpassed : passed ++ [a] <+: l)
    (hold : ∀ b ∈ passed, key b ∈ part.map key) (hnew : key a ∉ part.map key) :
    keepAll key [] (passed ++ [a]) = keepAll key [] part ++ [a] := by
  obtain ⟨rest, rfl⟩ := prefix_of_next hpart hpassed hnew
  have hkeys : ∀ {k : κ}, k ∈ (keepAll key [] part).map key ↔ k ∈ part.map key := by
    intro k
    rw [mem_keys_keepAll]
    simp
  have hrest : keepAll key (keepAll key [] part) rest = keepAll key [] part :=
    keepAll_of_forall_mem fun b hb => hkeys.2 (hold b (List.mem_append_right _ hb))
  rw [keepAll_append, keepAll_append, hrest]
  exact keepFirst_of_notMem (mt hkeys.1 hnew)

/-- A longer prefix keeps more. -/
theorem keepAll_isPrefix {part : List α} (h : part <+: l) :
    keepAll key [] part <+: keepAll key [] l := by
  obtain ⟨rest, rfl⟩ := h
  rw [keepAll_append]
  exact prefix_keepAll

end Relational
