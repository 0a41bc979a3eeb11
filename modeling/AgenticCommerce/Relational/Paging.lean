/-
# Pages of a query

`SELECT … ORDER BY key LIMIT size OFFSET k * size`, asked once for every page.  Each query
may order the rows that tie on the key in any way (`Arranges`), so two queries need not
agree on where a tie group is cut.  The pages put together are the rows, each once, exactly
when no page ends inside a tie group (`pages_iff`): else one query can put a row last on its
page and the next one can put the same row first on the next.
-/

import AgenticCommerce.Relational.Ranking
import Mathlib.Data.List.Perm.Basic

namespace Relational

variable {α β κ : Type} [LinearOrder κ] {key : α → κ} {rows l l' : List α}

/-- A list of the rows, in an order of the key. -/
def Arranges (key : α → κ) (rows l : List α) : Prop :=
  l.Perm rows ∧ l.Pairwise fun a b => key a ≤ key b

/-- `LIMIT limit OFFSET offset`: a negative limit is none, a negative offset is zero. -/
def limitOffset (limit offset : ℤ) (l : List α) : List α :=
  if limit < 0 then l.drop offset.toNat else (l.drop offset.toNat).take limit.toNat

/-- The first `n` pages put together, each asked with an order of its own. -/
def pages (size : ℤ) (orders : ℕ → List α) (n : ℕ) : List α :=
  (List.range n).flatMap fun k : ℕ => limitOffset size (k * size) (orders k)

/-- A place cuts a tie group: some of the rows with the key of `a` come before it, some
after. -/
def Straddles (key : α → κ) (rows : List α) (place : ℕ) : Prop :=
  ∃ a ∈ rows, rows.countP (fun b => decide (key b < key a)) < place ∧
    place < rows.countP fun b => decide (key b ≤ key a)

instance (place : ℕ) : Decidable (Straddles key rows place) :=
  inferInstanceAs (Decidable (∃ a ∈ rows, _ ∧ _))

/-- Where all rows tie, every place between two of them cuts their group. -/
theorem straddles_of_tied {a : α} (ha : a ∈ rows) (htied : ∀ b ∈ rows, key b = key a) {place : ℕ}
    (hpos : 0 < place) (hplace : place < rows.length) : Straddles key rows place := by
  have hbelow : rows.countP (fun b => decide (key b < key a)) = 0 :=
    List.countP_eq_zero.2 fun b hb => by simp [htied b hb]
  have hupTo : (rows.countP fun b => decide (key b ≤ key a)) = rows.length :=
    List.countP_eq_length.2 fun b hb => by simp [htied b hb]
  refine ⟨a, ha, ?_, ?_⟩
  · rw [hbelow]
    exact hpos
  · rw [hupTo]
    exact hplace

/-! ### Ordered lists -/

theorem arranges_ranked (key : α → κ) (rows : List α) : Arranges key rows (ranked key rows) := by
  have : Std.Total fun a b : α => key a ≤ key b := ⟨fun a b => le_total (key a) (key b)⟩
  have : IsTrans α fun a b => key a ≤ key b := ⟨fun _ _ _ => le_trans⟩
  exact ⟨List.perm_insertionSort _ rows, List.pairwise_insertionSort _ rows⟩

omit [LinearOrder κ] in
/-- What is true of the front of an ordered list is true of its first rows, as many as it
is true of. -/
theorem take_countP {p : α → Bool} (h : l.Pairwise fun a b => p b = true → p a = true) :
    l.take (l.countP p) = l.filter p := by
  induction h with
  | nil => rfl
  | @cons a t ha _ ih =>
      cases hp : p a with
      | true => rw [List.countP_cons_of_pos hp, List.take_succ_cons, ih, List.filter_cons_of_pos hp]
      | false =>
          have hnone : ∀ b ∈ a :: t, ¬p b = true := by
            intro b hb hpb
            rcases List.mem_cons.1 hb with rfl | hb
            · exact nomatch hp.symm.trans hpb
            · exact nomatch hp.symm.trans (ha b hb hpb)
          rw [List.countP_eq_zero.2 hnone, List.take_zero, List.filter_eq_nil_iff.2 hnone]

/-- A place of an ordered list is before the end of what is true of its front exactly when
the row there is part of it. -/
theorem lt_countP_iff {p : α → Bool} (h : l.Pairwise fun a b => p b = true → p a = true)
    {i : ℕ} (hi : i < l.length) : i < l.countP p ↔ p l[i] = true := by
  induction h generalizing i with
  | nil => exact absurd hi (Nat.not_lt_zero _)
  | @cons a t ha _ ih =>
      cases i with
      | zero =>
          rw [List.countP_pos_iff]
          constructor
          · rintro ⟨b, hb, hpb⟩
            rcases List.mem_cons.1 hb with rfl | hb
            · exact hpb
            · exact ha b hb hpb
          · exact fun hpa => ⟨a, List.mem_cons_self, hpa⟩
      | succ i =>
          have hi' : i < t.length := by simpa using hi
          rw [List.getElem_cons_succ, ← ih hi']
          cases hp : p a with
          | true => rw [List.countP_cons_of_pos hp, Nat.add_lt_add_iff_right]
          | false =>
              have hnone : ∀ b ∈ t, ¬p b = true := fun b hb hpb =>
                nomatch hp.symm.trans (ha b hb hpb)
              rw [List.countP_cons_of_neg (by rw [hp]; decide), List.countP_eq_zero.2 hnone]
              omega

theorem Arranges.front_lt (h : Arranges key rows l) (x : κ) :
    l.Pairwise fun a b => decide (key b < x) = true → decide (key a < x) = true :=
  h.2.imp fun hab hb => decide_eq_true (hab.trans_lt (of_decide_eq_true hb))

theorem Arranges.front_le (h : Arranges key rows l) (x : κ) :
    l.Pairwise fun a b => decide (key b ≤ x) = true → decide (key a ≤ x) = true :=
  h.2.imp fun hab hb => decide_eq_true (hab.trans (of_decide_eq_true hb))

/-- **Where no tie group is cut**, every order has the same rows before the place. -/
theorem Arranges.take_perm (h : Arranges key rows l) (h' : Arranges key rows l') {place : ℕ}
    (hcut : ¬Straddles key rows place) : (l.take place).Perm (l'.take place) := by
  by_cases hplace : place < l.length
  · let p : α → Bool := fun b => decide (key b < key l[place])
    have hcount : ∀ {m}, Arranges key rows m → m.countP p = place := by
      intro m hm
      have hsame : m.countP p = l.countP p := (hm.1.trans h.1.symm).countP_eq p
      have hle : ¬place < l.countP p := by
        rw [lt_countP_iff (h.front_lt _) hplace]
        simp
      have hlt : place < l.countP fun b => decide (key b ≤ key l[place]) := by
        rw [lt_countP_iff (h.front_le _) hplace]
        simp
      have hnot : ¬l.countP p < place := fun hbelow => hcut
        ⟨l[place], h.1.mem_iff.1 (List.getElem_mem hplace), (h.1.countP_eq p) ▸ hbelow,
          (h.1.countP_eq _) ▸ hlt⟩
      omega
    have hl : l.take place = l.filter p := by
      rw [← take_countP (h.front_lt _)]
      exact congrArg l.take (hcount h).symm
    have hl' : l'.take place = l'.filter p := by
      rw [← take_countP (h'.front_lt _)]
      exact congrArg l'.take (hcount h').symm
    rw [hl, hl']
    exact (h.1.trans h'.1.symm).filter p
  · have hlength : l'.length = l.length := (h'.1.trans h.1.symm).length_eq
    rw [List.take_of_length_le (by omega), List.take_of_length_le (by omega)]
    exact h.1.trans h'.1.symm

/-- Two orders that agree on what is before two places agree on what is between. -/
theorem perm_between {i j : ℕ} (hi : (l.take i).Perm (l'.take i))
    (hj : (l.take (i + j)).Perm (l'.take (i + j))) :
    ((l.drop i).take j).Perm ((l'.drop i).take j) := by
  rw [List.take_add, List.take_add] at hj
  exact (List.perm_append_left_iff _).1 ((hi.symm.append_right _).trans hj)

/-! ### Pages -/

theorem limitOffset_of_pos {size : ℤ} (hsize : 0 < size) (k : ℕ) (l : List α) :
    limitOffset size (k * size) l = (l.drop (k * size.toNat)).take size.toNat := by
  have hoffset : ((k : ℤ) * size).toNat = k * size.toNat := by
    obtain ⟨m, rfl⟩ := Int.eq_ofNat_of_zero_le hsize.le
    exact Int.toNat_natCast (k * m)
  rw [limitOffset, if_neg hsize.asymm, hoffset]

/-- The pages of one order are its first rows. -/
theorem pages_const {size : ℤ} (hsize : 0 < size) (l : List α) (n : ℕ) :
    pages size (fun _ => l) n = l.take (n * size.toNat) := by
  induction n with
  | zero => rw [Nat.zero_mul, List.take_zero, pages, List.range_zero, List.flatMap_nil]
  | succ n ih =>
      rw [Nat.succ_mul, List.take_add, ← ih, pages, List.range_succ, List.flatMap_append,
        List.flatMap_singleton, limitOffset_of_pos hsize, pages]

/-- A page size that is not positive gives no page, or everything on every page. -/
theorem length_pages_of_nonpos {size : ℤ} (hsize : size ≤ 0) (l : List α) (n : ℕ) :
    (pages size (fun _ => l) n).length = n * if size < 0 then l.length else 0 := by
  have hpage : ∀ k : ℕ, (limitOffset size (k * size) l).length =
      if size < 0 then l.length else 0 := by
    intro k
    have hoffset : ((k : ℤ) * size).toNat = 0 :=
      Int.toNat_of_nonpos (Int.mul_nonpos_of_nonneg_of_nonpos (Int.natCast_nonneg k) hsize)
    rw [limitOffset, hoffset, List.drop_zero]
    split_ifs with hneg
    · rfl
    · rw [Int.toNat_of_nonpos hsize, List.take_zero, List.length_nil]
  induction n with
  | zero => rw [Nat.zero_mul, pages, List.range_zero, List.flatMap_nil, List.length_nil]
  | succ n ih =>
      rw [Nat.succ_mul, ← ih, pages, List.range_succ, List.flatMap_append, List.flatMap_singleton,
        List.length_append, hpage, pages]

/-- **Without a cut tie group the orders do not matter.** -/
theorem pages_perm {size : ℤ} (hsize : 0 < size)
    (hcut : ∀ k : ℕ, ¬Straddles key rows (k * size.toNat)) {orders : ℕ → List α}
    (horders : ∀ k, Arranges key rows (orders k)) (hl : Arranges key rows l) (n : ℕ) :
    (pages size orders n).Perm (pages size (fun _ => l) n) := by
  induction n with
  | zero => exact .refl _
  | succ n ih =>
      unfold pages at ih ⊢
      rw [List.range_succ, List.flatMap_append, List.flatMap_append, List.flatMap_singleton,
        List.flatMap_singleton, limitOffset_of_pos hsize, limitOffset_of_pos hsize]
      have hfront := (horders n).take_perm hl (hcut n)
      have hnext := (horders n).take_perm hl (hcut (n + 1))
      rw [Nat.succ_mul] at hnext
      exact ih.append (perm_between hfront hnext)

/-- An order in which the row at a place inside a tie group has changed places with the one
before it. -/
theorem exists_swapped (h : Arranges key rows l) {place : ℕ} (hcut : Straddles key rows place) :
    ∃ front u y back, l = front ++ u :: y :: back ∧ front.length + 1 = place ∧
      Arranges key rows (front ++ y :: u :: back) := by
  obtain ⟨a, -, hbelow, hupTo⟩ := hcut
  rw [← h.1.countP_eq] at hbelow hupTo
  have hplace : place < l.length := hupTo.trans_le List.countP_le_length
  obtain ⟨i, rfl⟩ : ∃ i, place = i + 1 := ⟨place - 1, by omega⟩
  have hi : i < l.length := by omega
  have hu : key l[i] = key a := by
    refine le_antisymm ?_ (not_lt.1 fun hlt => ?_)
    · exact of_decide_eq_true ((lt_countP_iff (h.front_le _) hi).1 (by omega))
    · have := (lt_countP_iff (h.front_lt _) hi).2 (decide_eq_true hlt)
      omega
  have hy : key l[i + 1] = key a := by
    refine le_antisymm ?_ (not_lt.1 fun hlt => ?_)
    · exact of_decide_eq_true ((lt_countP_iff (h.front_le _) hplace).1 (by omega))
    · have := (lt_countP_iff (h.front_lt _) hplace).2 (decide_eq_true hlt)
      omega
  have hsplit : l = l.take i ++ l[i] :: l[i + 1] :: l.drop (i + 2) := by
    rw [← List.drop_eq_getElem_cons hplace, ← List.drop_eq_getElem_cons hi, List.take_append_drop]
  refine ⟨l.take i, l[i], l[i + 1], l.drop (i + 2), hsplit, ?_, ?_, ?_⟩
  · rw [List.length_take]
    omega
  · refine List.Perm.trans ?_ h.1
    conv_rhs => rw [hsplit]
    exact (List.Perm.swap _ _ _).append_left _
  · have hkeys : (l.take i ++ l[i + 1] :: l[i] :: l.drop (i + 2)).map key = l.map key := by
      conv_rhs => rw [hsplit]
      simp only [List.map_append, List.map_cons, hu, hy]
    have hsorted : (l.map key).Pairwise (· ≤ ·) := List.pairwise_map.2 h.2
    rw [← hkeys] at hsorted
    exact List.pairwise_map.1 hsorted

/-- **A cut tie group can put one row on two pages.** -/
theorem not_nodup_of_straddles {size : ℤ} (hsize : 0 < size) {k : ℕ}
    (hcut : Straddles key rows (k * size.toNat)) : ∃ orders : ℕ → List α,
      (∀ j, Arranges key rows (orders j)) ∧ ∀ n, k < n → ¬(pages size orders n).Nodup := by
  have harranged := arranges_ranked key rows
  obtain ⟨front, u, y, back, hl, hlength, hswapped⟩ := exists_swapped harranged hcut
  obtain ⟨j, rfl⟩ : ∃ j, k = j + 1 := by
    refine ⟨k - 1, ?_⟩
    have hk : k ≠ 0 := by
      rintro rfl
      omega
    omega
  have hpos : 0 < size.toNat := by omega
  have hplace : front.length + 1 = j * size.toNat + size.toNat := by rw [hlength, Nat.succ_mul]
  refine ⟨fun i => if i = j then front ++ y :: u :: back else ranked key rows, fun i => ?_,
    fun n hn hnodup => ?_⟩
  · show Arranges key rows (if i = j then _ else _)
    split_ifs
    · exact hswapped
    · exact harranged
  · -- `y` is the last row of one page and the first row of the next
    have hlast : y ∈ limitOffset size (j * size) (front ++ y :: u :: back) := by
      rw [limitOffset_of_pos hsize, List.mem_iff_getElem?]
      refine ⟨size.toNat - 1, ?_⟩
      rw [List.getElem?_take_of_lt (by omega), List.getElem?_drop,
        show j * size.toNat + (size.toNat - 1) = front.length by omega,
        List.getElem?_append_right le_rfl, Nat.sub_self]
      rfl
    have hfirst : y ∈ limitOffset size ((j + 1 : ℕ) * size) (ranked key rows) := by
      rw [limitOffset_of_pos hsize, List.mem_iff_getElem?]
      refine ⟨0, ?_⟩
      rw [List.getElem?_take_of_lt hpos, List.getElem?_drop, hl, ← hlength, Nat.add_zero,
        List.getElem?_append_right (by omega), show front.length + 1 - front.length = 1 by omega]
      rfl
    have hpages := (List.nodup_flatMap.1 hnodup).2
    have hdisjoint := List.pairwise_iff_getElem.1 hpages j (j + 1) (by simp; omega)
      (by simpa using hn) (Nat.lt_succ_self j)
    simp only [List.getElem_range] at hdisjoint
    have hlater : ¬j + 1 = j := by omega
    refine hdisjoint (a := y) ?_ ?_
    · simp only [if_true]
      exact hlast
    · simp only [if_neg hlater]
      exact hfirst

theorem pages_of_nil {size : ℤ} {orders : ℕ → List α} (horders : ∀ k, orders k = []) (n : ℕ) :
    pages size orders n = [] := by
  rw [pages, List.flatMap_eq_nil_iff]
  intro k _
  rw [horders, limitOffset, List.drop_nil, List.take_nil, ite_self]

/-- Enough pages of one order are all its rows. -/
theorem pages_of_le {size : ℤ} (hsize : 0 < size) {n : ℕ} (hn : l.length ≤ n) :
    pages size (fun _ => l) n = l := by
  rw [pages_const hsize, List.take_of_length_le]
  have hpos : 1 ≤ size.toNat := by omega
  calc l.length ≤ n := hn
    _ = n * 1 := (Nat.mul_one n).symm
    _ ≤ n * size.toNat := Nat.mul_le_mul_left n hpos

/-- **When pages are a partition.**  Whatever order each query gives the rows that tie, the
pages put together list the values `values`, each once, exactly when the rows do, and there
are none, or the page size is positive and no page ends inside a tie group. -/
theorem pages_iff {f : α → β} {values : List β} (hnodup : values.Nodup)
    (hempty : values = [] → rows = []) {size : ℤ} :
    (∀ orders : ℕ → List α, (∀ k, Arranges key rows (orders k)) →
      ∃ N, ∀ n ≥ N, ((pages size orders n).map f).Perm values) ↔
    (rows.map f).Perm values ∧
      (rows = [] ∨ (0 < size ∧ ∀ k : ℕ, ¬Straddles key rows (k * size.toNat))) := by
  have harranged := arranges_ranked key rows
  constructor
  · intro hperm
    obtain ⟨N, hN⟩ := hperm (fun _ => ranked key rows) fun _ => harranged
    by_cases hrows : rows = []
    · subst hrows
      have hnil := hN N le_rfl
      rw [pages_of_nil (fun _ => harranged.1.eq_nil)] at hnil
      exact ⟨hnil, .inl rfl⟩
    have hpos := List.length_pos_iff.2 hrows
    have hvalues := List.length_pos_iff.2 (mt hempty hrows)
    have hsize : 0 < size := by
      by_contra hsize
      have hlength : ∀ n ≥ N, n * (if size < 0 then rows.length else 0) = values.length := by
        intro n hn
        rw [← (hN n hn).length_eq, List.length_map, length_pages_of_nonpos (not_lt.1 hsize),
          harranged.1.length_eq]
      have hone := hlength (N + 1) (by omega)
      have htwo := hlength (N + 2) (by omega)
      split_ifs at hone htwo
      · rw [Nat.succ_mul] at htwo
        omega
      · omega
    have hall : (rows.map f).Perm values := by
      have hlisted := hN (max N rows.length) (le_max_left _ _)
      rw [pages_of_le hsize (by rw [harranged.1.length_eq]; exact le_max_right _ _)] at hlisted
      exact (harranged.1.symm.map f).trans hlisted
    refine ⟨hall, .inr ⟨hsize, fun k hcut => ?_⟩⟩
    obtain ⟨orders, horders, hmany⟩ := not_nodup_of_straddles hsize hcut
    obtain ⟨N', hN'⟩ := hperm orders horders
    have hlisted := (hN' (max N' (k + 1)) (le_max_left _ _)).nodup_iff.2 hnodup
    exact hmany _ (by omega) (List.Nodup.of_map f hlisted)
  · rintro ⟨hall, rfl | ⟨hsize, hcut⟩⟩ orders horders
    · refine ⟨0, fun n _ => ?_⟩
      rw [pages_of_nil (fun k => (horders k).1.eq_nil)]
      exact hall
    · refine ⟨rows.length, fun n hn => List.Perm.trans (List.Perm.map f ?_) hall⟩
      refine (pages_perm hsize hcut horders harranged n).trans ?_
      rw [pages_of_le hsize (by rw [harranged.1.length_eq]; exact hn)]
      exact harranged.1

end Relational
