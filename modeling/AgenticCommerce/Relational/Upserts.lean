/-
# Staged writes

A session that does not flush on its own keeps new rows aside.  A row whose identifier is
stored overwrites the stored row at once; any other row waits (`Staged.put`), and a second
row with the identifier of a waiting one waits too, so that the flush refuses both.

After a flush that went through, the table holds the last row written under each identifier and
what it held under every other (`mem_of_flush`).
-/

import AgenticCommerce.Relational.Table
import Mathlib.Data.List.Induction

namespace Relational

/-- Two rows clash exactly when their one key column is the same. -/
class SimplyKeyed (α : Type) [Keyed α] : Prop where
  key_eq_of_clash : ∀ k l : Keyed.Key α, Keyed.clash k l = true → k = l

variable {α : Type} [Keyed α] {t t' : Table α} {l : List α} {a b c : α}

namespace Table

/-- Inserts rows one after the other, as long as none is refused. -/
def insertAll : Table α → List α → Option (Table α)
  | t, [] => some t
  | t, a :: l => (t.insert? a).bind fun u => insertAll u l

/-- **Rows that are all inserted** are new, differ from each other, and are there afterwards. -/
theorem insertAll_eq_some (h : t.insertAll l = some t') :
    (∀ a, a ∈ t' ↔ a ∈ t ∨ a ∈ l) ∧ (l.Pairwise fun a b => clashes a b = false) ∧
      ∀ a ∈ l, ∀ b ∈ t, clashes b a = false := by
  induction l generalizing t with
  | nil =>
      obtain rfl := Option.some.inj h
      exact ⟨fun a => by simp, List.Pairwise.nil, nofun⟩
  | cons b l ih =>
      obtain ⟨u, hu, hrest⟩ := Option.bind_eq_some_iff.1 h
      obtain ⟨hmem, hpairwise, hnew⟩ := ih hrest
      have hb := (insert?_eq_some.1 hu).1
      refine ⟨fun a => ?_, List.Pairwise.cons (fun a ha => ?_) hpairwise, fun a ha c hc => ?_⟩
      · rw [hmem, mem_insert hu, List.mem_cons, or_assoc]
      · exact hnew a ha b ((mem_insert hu).2 (.inr rfl))
      · rcases List.mem_cons.1 ha with rfl | ha
        · exact hb c hc
        · exact hnew a ha c ((mem_insert hu).2 (.inl hc))

/-- Rows that are new and differ from each other are all inserted, at the end. -/
theorem insertAll_of_fresh (hnew : ∀ a ∈ l, ∀ b ∈ t, clashes b a = false)
    (hl : l.Pairwise fun a b => clashes a b = false) :
    ∃ t', t.insertAll l = some t' ∧ t'.rows = t.rows ++ l := by
  induction l generalizing t with
  | nil => exact ⟨t, rfl, (List.append_nil _).symm⟩
  | cons a l ih =>
      obtain ⟨hfirst, hrest⟩ := List.forall_mem_cons.1 hnew
      obtain ⟨hlater, hl⟩ := List.pairwise_cons.1 hl
      obtain ⟨u, hu⟩ : ∃ u, t.insert? a = some u := ⟨_, dif_pos hfirst⟩
      obtain ⟨t', ht', hrows⟩ := ih (t := u) (fun b hb c hc => by
        rcases (mem_insert hu).1 hc with hc | rfl
        · exact hrest b hb c hc
        · exact hlater b hb) hl
      refine ⟨t', by rw [insertAll, hu, Option.bind_some, ht'], ?_⟩
      rw [hrows, (insert?_eq_some.1 hu).2, List.append_assoc, List.singleton_append]

end Table

/-! ### The last row under an identifier -/

/-- The row is the last one of the list under its identifier. -/
def LastWritten (l : List α) (a : α) : Prop :=
  ∃ l₁ l₂, l = l₁ ++ a :: l₂ ∧ ∀ b ∈ l₂, clashes b a = false

theorem LastWritten.mem (h : LastWritten l a) : a ∈ l := by
  obtain ⟨l₁, l₂, rfl, -⟩ := h
  exact List.mem_append_right _ List.mem_cons_self

theorem not_lastWritten_nil : ¬LastWritten [] a := fun h => List.not_mem_nil h.mem

/-- One more row replaces those under its identifier. -/
theorem lastWritten_concat :
    LastWritten (l ++ [b]) a ↔ a = b ∨ LastWritten l a ∧ clashes b a = false := by
  constructor
  · rintro ⟨l₁, l₂, hl, hlast⟩
    rcases List.eq_nil_or_concat l₂ with rfl | ⟨l₂, c, rfl⟩
    · obtain ⟨-, hb⟩ := List.append_inj' hl rfl
      exact .inl (List.cons.inj hb).1.symm
    · rw [List.concat_eq_append, ← List.cons_append, ← List.append_assoc] at hl
      obtain ⟨rfl, hb⟩ := List.append_inj' hl rfl
      obtain rfl := (List.cons.inj hb).1
      rw [List.concat_eq_append] at hlast
      refine .inr ⟨⟨l₁, l₂, rfl, fun d hd => hlast d (List.mem_append_left _ hd)⟩, ?_⟩
      exact hlast b (List.mem_append_right _ List.mem_cons_self)
  · rintro (rfl | ⟨⟨l₁, l₂, rfl, hlast⟩, hb⟩)
    · exact ⟨l, [], rfl, fun c hc => absurd hc List.not_mem_nil⟩
    · refine ⟨l₁, l₂ ++ [b], by rw [List.append_assoc, List.cons_append], fun d hd => ?_⟩
      rcases List.mem_append.1 hd with hd | hd
      · exact hlast d hd
      · rwa [List.mem_singleton.1 hd]

/-- In a list without clashes every row is the last one. -/
theorem lastWritten_of_pairwise (h : l.Pairwise fun a b => clashes a b = false) (ha : a ∈ l) :
    LastWritten l a := by
  obtain ⟨l₁, l₂, rfl⟩ := List.append_of_mem ha
  refine ⟨l₁, l₂, rfl, fun b hb => ?_⟩
  rw [clashes_comm]
  exact (List.pairwise_cons.1 (List.pairwise_append.1 h).2.1).1 b hb

/-! ### Staging -/

/-- A table, and the rows that wait for the next flush. -/
structure Staged (α : Type) [Keyed α] where
  table : Table α
  pending : List α := []

/-- The identifier of the row is stored. -/
def Table.stores (t : Table α) (a : α) : Bool := t.rows.any fun b => clashes b a

theorem Table.stores_iff : t.stores a = true ↔ ∃ b ∈ t, clashes b a = true := List.any_eq_true

section

variable [SimplyKeyed α]

theorem key_eq_of_clashes (h : clashes a b = true) : Keyed.key a = Keyed.key b :=
  SimplyKeyed.key_eq_of_clash _ _ h

/-- Rows under one identifier clash with the same rows. -/
theorem clashes_congr (h : clashes a b = true) : clashes c a = clashes c b := by
  rw [clashes, clashes, key_eq_of_clashes h]

/-- `UPDATE` of every column of the row under an identifier. -/
def Table.overwrite (t : Table α) (a : α) : Table α :=
  ⟨t.rows.map fun b => if clashes b a then a else b, List.pairwise_map.2 <| t.unique.imp
    fun {b c} hbc => by
      have hkey : ∀ b : α, Keyed.key (if clashes b a then a else b) = Keyed.key b := fun b => by
        split
        · rename_i h
          exact (key_eq_of_clashes h).symm
        · rfl
      rw [clashes, hkey, hkey]
      exact hbc⟩

theorem Table.mem_overwrite (h : t.stores a = true) :
    b ∈ t.overwrite a ↔ b = a ∨ b ∈ t ∧ clashes a b = false := by
  obtain ⟨c, hc, hca⟩ := stores_iff.1 h
  constructor
  · intro hb
    obtain ⟨d, hd, rfl⟩ := List.mem_map.1 hb
    by_cases hda : clashes d a = true
    · exact .inl (if_pos hda)
    · rw [if_neg hda]
      refine .inr ⟨hd, ?_⟩
      rw [clashes_comm]
      simpa using hda
  · rintro (rfl | ⟨hb, hba⟩)
    · exact List.mem_map.2 ⟨c, hc, if_pos hca⟩
    · refine List.mem_map.2 ⟨b, hb, if_neg ?_⟩
      rw [clashes_comm, hba]
      exact Bool.false_ne_true

/-- An overwritten row keeps its identifier, and the others are as they were. -/
theorem Table.stores_overwrite (h : t.stores a = true) : (t.overwrite a).stores b = t.stores b := by
  rw [Bool.eq_iff_iff, stores_iff, stores_iff]
  constructor
  · rintro ⟨c, hc, hcb⟩
    rcases (mem_overwrite h).1 hc with rfl | ⟨hc, -⟩
    · obtain ⟨d, hd, hdc⟩ := stores_iff.1 h
      exact ⟨d, hd, by rwa [← clashes_congr hcb]⟩
    · exact ⟨c, hc, hcb⟩
  · rintro ⟨c, hc, hcb⟩
    by_cases hac : clashes a c = true
    · refine ⟨a, (mem_overwrite h).2 (.inl rfl), ?_⟩
      rwa [← clashes_congr hcb]
    · exact ⟨c, (mem_overwrite h).2 (.inr ⟨hc, by simpa using hac⟩), hcb⟩

/-- Writes a row: over the stored one, or as a new one at the end. -/
def Table.upsert (t : Table α) (a : α) : Table α :=
  if h : t.stores a = true then t.overwrite a
  else ⟨t.rows ++ [a], List.pairwise_append.2 ⟨t.unique, List.pairwise_singleton _ _,
    fun b hb c hc => by
      obtain rfl := List.mem_singleton.1 hc
      by_contra hclash
      exact h (stores_iff.2 ⟨b, hb, by simpa using hclash⟩)⟩⟩

theorem Table.mem_upsert : b ∈ t.upsert a ↔ b = a ∨ b ∈ t ∧ clashes a b = false := by
  unfold upsert
  split
  · rename_i h
    exact mem_overwrite h
  · rename_i h
    rw [mem_def, List.mem_append, List.mem_singleton, or_comm, ← mem_def]
    refine or_congr_right ⟨fun hb => ⟨hb, ?_⟩, And.left⟩
    by_contra hclash
    refine h (stores_iff.2 ⟨b, hb, ?_⟩)
    rw [clashes_comm]
    simpa using hclash

/-- Writes a row: over the stored one, or to wait for the flush. -/
def Staged.put (s : Staged α) (a : α) : Staged α :=
  if s.table.stores a then { s with table := s.table.overwrite a }
  else { s with pending := s.pending ++ [a] }

/-- Inserts the rows that wait. -/
def Staged.flush (s : Staged α) : Option (Table α) := s.table.insertAll s.pending

/-- What staging a list of rows comes to, before the flush. -/
theorem foldl_put (t : Table α) (l : List α) :
    (∀ b, (l.foldl Staged.put { table := t }).table.stores b = t.stores b) ∧
      (l.foldl Staged.put { table := t }).pending = l.filter (fun a => !t.stores a) ∧
      ∀ a, a ∈ (l.foldl Staged.put { table := t }).table ↔
        t.stores a = true ∧ LastWritten l a ∨ a ∈ t ∧ ∀ b ∈ l, clashes b a = false := by
  induction l using List.reverseRecOn with
  | nil => exact ⟨fun _ => rfl, rfl, fun a => by simp [not_lastWritten_nil]⟩
  | append_singleton l c ih =>
      obtain ⟨hstores, hpending, hmem⟩ := ih
      rw [List.foldl_append, List.foldl_cons, List.foldl_nil, Staged.put, hstores]
      by_cases hc : t.stores c = true
      · rw [if_pos hc]
        have hc' := hc
        rw [← hstores] at hc'
        refine ⟨fun b => (Table.stores_overwrite hc').trans (hstores b), ?_, fun a => ?_⟩
        · rw [List.filter_append, hpending]
          simp [hc]
        · rw [Table.mem_overwrite hc', hmem, lastWritten_concat, List.forall_mem_append,
            List.forall_mem_singleton]
          constructor
          · rintro (rfl | ⟨⟨hs, hlast⟩ | ⟨ha, hnone⟩, hca⟩)
            · exact .inl ⟨hc, .inl rfl⟩
            · exact .inl ⟨hs, .inr ⟨hlast, hca⟩⟩
            · exact .inr ⟨ha, hnone, hca⟩
          · rintro (⟨hs, rfl | ⟨hlast, hca⟩⟩ | ⟨ha, hnone, hca⟩)
            · exact .inl rfl
            · exact .inr ⟨.inl ⟨hs, hlast⟩, hca⟩
            · exact .inr ⟨.inr ⟨ha, hnone⟩, hca⟩
      · rw [if_neg hc]
        have hfresh : ∀ a, t.stores a = true → clashes c a = false := fun a ha => by
          by_contra hca
          obtain ⟨b, hb, hba⟩ := Table.stores_iff.1 ha
          have hac : clashes a c = true := by
            rw [clashes_comm]
            simpa using hca
          exact hc (Table.stores_iff.2 ⟨b, hb, by rwa [← clashes_congr hac]⟩)
        refine ⟨hstores, ?_, fun a => ?_⟩
        · rw [List.filter_append, hpending]
          simp [hc]
        · rw [hmem, lastWritten_concat, List.forall_mem_append, List.forall_mem_singleton]
          constructor
          · rintro (⟨hs, hlast⟩ | ⟨ha, hnone⟩)
            · exact .inl ⟨hs, .inr ⟨hlast, hfresh a hs⟩⟩
            · exact .inr ⟨ha, hnone, hfresh a (Table.stores_iff.2 ⟨a, ha, clashes_self a⟩)⟩
          · rintro (⟨hs, rfl | ⟨hlast, -⟩⟩ | ⟨ha, hnone, -⟩)
            · exact absurd hs hc
            · exact .inl ⟨hs, hlast⟩
            · exact .inr ⟨ha, hnone⟩

/-- **After the flush** the table holds the last row written under each identifier, and what
it held under those that were not written. -/
theorem mem_of_flush (h : (l.foldl Staged.put { table := t }).flush = some t') :
    a ∈ t' ↔ LastWritten l a ∨ a ∈ t ∧ ∀ b ∈ l, clashes b a = false := by
  obtain ⟨-, hpending, hmem⟩ := foldl_put t l
  rw [Staged.flush, hpending] at h
  obtain ⟨hafter, hpairwise, -⟩ := Table.insertAll_eq_some h
  rw [hafter, hmem, List.mem_filter]
  have hnew : a ∈ l → t.stores a = false → LastWritten l a := by
    intro ha hs
    obtain ⟨l₁, l₂, rfl⟩ := List.append_of_mem ha
    refine ⟨l₁, l₂, rfl, fun b hb => ?_⟩
    by_contra hba
    have hclash : clashes b a = true := by simpa using hba
    have hsb : t.stores b = false := by
      rw [← hs, Table.stores, Table.stores]
      exact congrArg _ (funext fun d => clashes_congr hclash)
    rw [List.filter_append, List.filter_cons_of_pos (by rw [hs]; rfl)] at hpairwise
    have hno := (List.pairwise_cons.1 (List.pairwise_append.1 hpairwise).2.1).1 b
      (List.mem_filter.2 ⟨hb, by rw [hsb]; rfl⟩)
    rw [clashes_comm, hclash] at hno
    exact Bool.noConfusion hno
  constructor
  · rintro ((⟨-, hlast⟩ | hkept) | ⟨ha, hs⟩)
    · exact .inl hlast
    · exact .inr hkept
    · exact .inl (hnew ha (by simpa using hs))
  · rintro (hlast | hkept)
    · by_cases hs : t.stores a = true
      · exact .inl (.inl ⟨hs, hlast⟩)
      · exact .inr ⟨hlast.mem, by simpa using hs⟩
    · exact .inl (.inr hkept)

end

end Relational
