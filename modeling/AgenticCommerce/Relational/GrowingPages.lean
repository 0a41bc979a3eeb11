/-
# Pages of a table that grows

A client reads `ORDER BY key LIMIT size OFFSET k * size` for one page after the other, and
rows are added in between, anywhere in the order.  A row can only move back, by as many
places as rows were put ahead of it (`ahead_mono`), so it is on some page or still to come
(`read_or_to_come`): a client that reads as far as there are rows has read every row that
was there when it began (`mem_pages_of_grows`).  A row that moves back can be read twice.
-/

import AgenticCommerce.Relational.Paging
import Mathlib.Data.List.Perm.Subperm

namespace Relational

section

variable {α κ : Type} [LinearOrder κ] {key : α → κ}

omit [LinearOrder κ] in
theorem Distinct.nodup {l : List α} (h : Distinct key l) : l.Nodup :=
  h.imp fun hne hab => hne (congrArg key hab)

/-- What is ahead of a row stays ahead of it where rows are only added. -/
theorem ahead_mono {l l' : List α} (h : Distinct key l) (hsub : l ⊆ l') (p : α → Bool) (d : α) :
    ahead key p d l ≤ ahead key p d l' := by
  have hfilter : (l.filter fun a => p a && decide (key a < key d)) ⊆
      l'.filter fun a => p a && decide (key a < key d) := by
    intro a ha
    obtain ⟨hmem, hp⟩ := List.mem_filter.1 ha
    exact List.mem_filter.2 ⟨hsub hmem, hp⟩
  exact (List.subperm_of_subset (h.nodup.filter _) hfilter).length_le

/-- A row of a list in strict order is between two places when as many rows are ahead of it. -/
theorem mem_drop_take {s : List α} (hs : s.Pairwise fun a b => key a < key b) {d : α} (hd : d ∈ s)
    {i m : ℕ} (hi : i ≤ ahead key (fun _ => true) d s)
    (hm : ahead key (fun _ => true) d s < i + m) : d ∈ (s.drop i).take m := by
  have hmem : d ∈ s.take (i + m) := (mem_take_iff hs).2 ⟨hd, hm⟩
  rw [List.take_add, List.mem_append] at hmem
  rcases hmem with hmem | hmem
  · have hlt := ((mem_take_iff hs).1 hmem).2
    omega
  · exact hmem

variable {rows : ℕ → List α} {size : ℤ} {d : α}

/-- The page a client asks for when the table has the rows `rows k`. -/
def pageOf (key : α → κ) (rows : ℕ → List α) (size : ℤ) (k : ℕ) : List α :=
  limitOffset size (k * size) (ranked key (rows k))

/-- A row is on the page whose places are its own. -/
theorem mem_pageOf (hsize : 0 < size) {k : ℕ} (hdistinct : Distinct key (rows k))
    (hd : d ∈ rows k) (hi : k * size.toNat ≤ ahead key (fun _ => true) d (rows k))
    (hm : ahead key (fun _ => true) d (rows k) < (k + 1) * size.toNat) :
    d ∈ pageOf key rows size k := by
  rw [pageOf, limitOffset_of_pos hsize]
  refine mem_drop_take hdistinct.ranked_lt (mem_ranked.2 hd) ?_ ?_
  · rwa [ahead_ranked]
  · rwa [ahead_ranked, ← Nat.succ_mul]

/-- **A row was read, or is still to come**, while rows are only added. -/
theorem read_or_to_come (hsize : 0 < size) (hdistinct : ∀ k, Distinct key (rows k))
    (hgrows : ∀ k, rows k ⊆ rows (k + 1)) (hd : d ∈ rows 0) (n : ℕ) :
    d ∈ rows n ∧ ((∃ k < n, d ∈ pageOf key rows size k) ∨
      n * size.toNat ≤ ahead key (fun _ => true) d (rows n)) := by
  induction n with
  | zero => exact ⟨hd, .inr (by omega)⟩
  | succ n ih =>
      obtain ⟨hmem, hread⟩ := ih
      refine ⟨hgrows n hmem, ?_⟩
      rcases hread with ⟨k, hk, hpage⟩ | hcome
      · exact .inl ⟨k, by omega, hpage⟩
      · by_cases hlt : ahead key (fun _ => true) d (rows n) < (n + 1) * size.toNat
        · exact .inl ⟨n, by omega, mem_pageOf hsize (hdistinct n) hmem hcome hlt⟩
        · have hmono := ahead_mono (hdistinct n) (hgrows n) (fun _ => true) d
          exact .inr (by omega)

omit [LinearOrder κ] in
/-- A table that only gains rows has no fewer of them later. -/
theorem length_le_of_grows (hdistinct : ∀ k, Distinct key (rows k))
    (hgrows : ∀ k, rows k ⊆ rows (k + 1)) (n : ℕ) : (rows 0).length ≤ (rows n).length := by
  induction n with
  | zero => exact le_rfl
  | succ n ih =>
      have hsub := List.subperm_of_subset (hdistinct n).nodup (hgrows n)
      exact ih.trans hsub.length_le

/-- **The pages of rows that stay the same** are the rows, in their order. -/
theorem flatMap_pageOf (hsize : 0 < size) {n : ℕ} (hsame : ∀ k < n, rows k = rows 0)
    (hend : (rows 0).length ≤ n * size.toNat) :
    (List.range n).flatMap (pageOf key rows size) = ranked key (rows 0) := by
  have hparts : ∀ k ∈ List.range n,
      pageOf key rows size k = limitOffset size (k * size) (ranked key (rows 0)) := by
    intro k hk
    rw [pageOf, hsame k (List.mem_range.1 hk)]
  have hlength : (ranked key (rows 0)).length ≤ n * size.toNat :=
    (List.length_insertionSort _ _).le.trans hend
  have hpages := pages_const hsize (ranked key (rows 0)) n
  rw [List.take_of_length_le hlength] at hpages
  rw [List.flatMap_congr hparts]
  exact hpages

/-- **A client that reads as far as there are rows misses none** of those that were there
when it began. -/
theorem mem_pages_of_grows (hsize : 0 < size) (hdistinct : ∀ k, Distinct key (rows k))
    (hgrows : ∀ k, rows k ⊆ rows (k + 1)) {n : ℕ} (hend : (rows n).length ≤ (n + 1) * size.toNat)
    (hd : d ∈ rows 0) : ∃ k ≤ n, d ∈ pageOf key rows size k := by
  obtain ⟨hmem, ⟨k, hk, hpage⟩ | hcome⟩ := read_or_to_come hsize hdistinct hgrows hd n
  · exact ⟨k, hk.le, hpage⟩
  · have hfirst : d ∈ (ranked key (rows n)).take (rows n).length := by
      have hlength : (ranked key (rows n)).length ≤ (rows n).length :=
        (List.length_insertionSort _ _).le
      rw [List.take_of_length_le hlength]
      exact mem_ranked.2 hmem
    have hlt := ((hdistinct n).mem_take.1 hfirst).2
    exact ⟨n, le_rfl, mem_pageOf hsize (hdistinct n) hmem hcome (hlt.trans_le hend)⟩

end

end Relational
