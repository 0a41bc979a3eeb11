/-
# Ranked selections

`SELECT … WHERE … ORDER BY … LIMIT n`: a filter with three-valued predicates that can also
raise (`Verdict`, `filtered`), and the first rows of what is left in the order of a key
(`ranked`).

Two filters of the same rows give the same first `n` rows exactly when every row they
disagree about has `n` rows ahead of it that pass both (`take_ranked_eq_iff`): a row that only
one of them admits is seen as soon as the limit reaches it.
-/

import Mathlib.Data.List.Pairwise
import Mathlib.Data.List.Sort

namespace Relational

/-! ### Three-valued predicates -/

/-- What a predicate makes of a row: it is true, false or `NULL` there, or it raises. -/
inductive Verdict where
  | holds | fails | unknown | raises
  deriving DecidableEq, Repr

namespace Verdict

def ofBool (b : Bool) : Verdict := if b then holds else fails

/-- `AND`, from left to right: a side that is not true ends it. -/
def and : Verdict → Verdict → Verdict
  | holds, y => y
  | x, _ => x

/-- The conjunction of the clauses of a `WHERE`. -/
def all (clauses : List Verdict) : Verdict := clauses.foldr and holds

/-- `value >= bound`, of a value that may be `NULL` or fail to be read. -/
def atLeast (bound : ℤ) : Option (Option ℤ) → Verdict
  | none => raises
  | some none => unknown
  | some (some n) => ofBool (decide (bound ≤ n))

@[simp] theorem ofBool_eq_holds {b : Bool} : ofBool b = holds ↔ b = true := by
  cases b <;> simp [ofBool]

@[simp] theorem ofBool_ne_raises {b : Bool} : ofBool b ≠ raises := by
  cases b <;> simp [ofBool]

theorem and_eq_holds {x y : Verdict} : x.and y = holds ↔ x = holds ∧ y = holds := by
  cases x <;> cases y <;> simp [and]

theorem and_eq_raises {x y : Verdict} :
    x.and y = raises ↔ x = raises ∨ x = holds ∧ y = raises := by
  cases x <;> cases y <;> simp [and]

@[simp] theorem all_nil : all [] = holds := rfl

@[simp] theorem all_cons {v : Verdict} {l : List Verdict} : all (v :: l) = v.and (all l) := rfl

theorem all_eq_holds {l : List Verdict} : all l = holds ↔ ∀ v ∈ l, v = holds := by
  induction l with
  | nil => simp
  | cons v l ih => rw [all_cons, and_eq_holds, ih, List.forall_mem_cons]

theorem atLeast_eq_holds {bound : ℤ} {value : Option (Option ℤ)} :
    atLeast bound value = holds ↔ ∃ n, value = some (some n) ∧ bound ≤ n := by
  rcases value with _ | _ | n <;> simp [atLeast]

theorem atLeast_eq_raises {bound : ℤ} {value : Option (Option ℤ)} :
    atLeast bound value = raises ↔ value = none := by
  rcases value with _ | _ | n <;> simp [atLeast]

end Verdict

/-- `WHERE`: the rows for which it holds, unless it raises on one. -/
def filtered {α : Type} (p : α → Verdict) (l : List α) : Option (List α) :=
  if ∀ a ∈ l, p a ≠ .raises then some (l.filter fun a => p a == .holds) else none

theorem filtered_eq_some {α : Type} {p : α → Verdict} {l m : List α} :
    filtered p l = some m ↔ (∀ a ∈ l, p a ≠ .raises) ∧ m = l.filter fun a => p a == .holds := by
  rw [filtered, Option.ite_none_right_eq_some, Option.some.injEq, eq_comm (b := m)]

/-! ### Ranks -/

section

variable {α κ : Type} [LinearOrder κ]

/-- `ORDER BY key`, which keeps the order of rows with one key. -/
def ranked (key : α → κ) (l : List α) : List α := l.insertionSort fun a b => key a ≤ key b

/-- No two rows have one key. -/
def Distinct (key : α → κ) (l : List α) : Prop := l.Pairwise fun a b => key a ≠ key b

variable {key : α → κ} {l : List α}

theorem mem_ranked {a : α} : a ∈ ranked key l ↔ a ∈ l := List.mem_insertionSort _

/-- Rows may be projected before or after the order, by a projection that keeps the key. -/
theorem ranked_map {β : Type} {key' : β → κ} {f : α → β} (h : ∀ a ∈ l, key' (f a) = key a) :
    ranked key' (l.map f) = (ranked key l).map f := by
  refine (List.map_insertionSort _ _ f l fun a ha b hb => ?_).symm
  rw [h a ha, h b hb]

omit [LinearOrder κ] in
theorem Distinct.eq_of_key (h : Distinct key l) {a b : α} (ha : a ∈ l) (hb : b ∈ l)
    (hab : key a = key b) : a = b := by
  by_contra hne
  have : Std.Symm fun a b : α => key a ≠ key b := ⟨fun _ _ h => h.symm⟩
  exact h.forall ha hb hne hab

omit [LinearOrder κ] in
/-- A projection that keeps the key tells rows apart, and so lists of rows. -/
theorem Distinct.eq_of_map_eq {β : Type} {f : α → β} (h : Distinct key l)
    (hf : ∀ a ∈ l, ∀ b ∈ l, f a = f b → key a = key b) {s t : List α} (hs : s ⊆ l) (ht : t ⊆ l)
    (hst : s.map f = t.map f) : s = t := by
  induction s generalizing t with
  | nil => exact (List.map_eq_nil_iff.1 hst.symm).symm
  | cons a s ih =>
      cases t with
      | nil => exact nomatch hst
      | cons b t =>
          rw [List.map_cons, List.map_cons, List.cons.injEq] at hst
          obtain ⟨hab, hst⟩ := hst
          rw [List.cons_subset] at hs ht
          rw [h.eq_of_key hs.1 ht.1 (hf a hs.1 b ht.1 hab), ih hs.2 ht.2 hst]

theorem Distinct.ranked_lt (h : Distinct key l) :
    (ranked key l).Pairwise fun a b => key a < key b := by
  have hle : (ranked key l).Pairwise fun a b => key a ≤ key b :=
    have : Std.Total fun a b : α => key a ≤ key b := ⟨fun a b => le_total (key a) (key b)⟩
    have : IsTrans α fun a b => key a ≤ key b := ⟨fun _ _ _ => le_trans⟩
    List.pairwise_insertionSort _ l
  have hne : (ranked key l).Pairwise fun a b => key a ≠ key b :=
    (List.perm_insertionSort _ l).symm.pairwise h fun h => h.symm
  exact hle.imp₂ (fun _ _ => lt_of_le_of_ne) hne

/-- **The order does not depend on the order before.** -/
theorem Distinct.ranked_perm (h : Distinct key l) {m : List α} (hm : m.Perm l) :
    ranked key m = ranked key l := by
  have hdistinct : Distinct key m := hm.symm.pairwise h fun h => h.symm
  refine List.Perm.eq_of_pairwise ?_ hdistinct.ranked_lt h.ranked_lt ?_
  · exact fun _ _ _ _ hab hba => absurd hba hab.asymm
  · exact ((List.perm_insertionSort _ m).trans hm).trans (List.perm_insertionSort _ l).symm

/-- **What is cut off comes after what is kept**, and something is kept. -/
theorem Distinct.lt_of_not_mem_take (h : Distinct key l) {n : ℕ} {a : α} (ha : a ∈ l)
    (hcut : a ∉ (ranked key l).take n) : ((ranked key l).take n).length = n ∧
      ∀ b ∈ (ranked key l).take n, key b < key a := by
  have hmem : a ∈ ranked key l := mem_ranked.2 ha
  rw [← List.take_append_drop n (ranked key l), List.mem_append] at hmem
  have hdrop := hmem.resolve_left hcut
  have hlt := h.ranked_lt
  rw [← List.take_append_drop n (ranked key l), List.pairwise_append] at hlt
  refine ⟨?_, fun b hb => hlt.2.2 b hb a hdrop⟩
  have hpos := List.length_pos_of_mem hdrop
  rw [List.length_drop] at hpos
  rw [List.length_take]
  omega

/-- **A filter may come before or after the order.** -/
theorem Distinct.ranked_filter (h : Distinct key l) (p : α → Bool) :
    ranked key (l.filter p) = (ranked key l).filter p := by
  have hfilter : Distinct key (l.filter p) := h.filter p
  refine List.Perm.eq_of_pairwise ?_ hfilter.ranked_lt (h.ranked_lt.filter p) ?_
  · exact fun _ _ _ _ hab hba => absurd hba hab.asymm
  · exact (List.perm_insertionSort _ _).trans ((List.perm_insertionSort _ l).symm.filter p)

/-- The rows of `l` that pass `p` ahead of `d`. -/
def ahead (key : α → κ) (p : α → Bool) (d : α) (l : List α) : ℕ :=
  (l.filter fun a => p a && decide (key a < key d)).length

/-- Nothing is ahead of the first row of a list in strict order. -/
theorem ahead_head {p : α → Bool} {a : α} {t : List α} (ha : ∀ b ∈ t, key a < key b) :
    ahead key p a (a :: t) = 0 := by
  rw [ahead, List.length_eq_zero_iff, List.filter_eq_nil_iff]
  intro b hb hpass
  simp only [Bool.and_eq_true, decide_eq_true_eq] at hpass
  rcases List.mem_cons.1 hb with rfl | hb
  · exact lt_irrefl _ hpass.2
  · exact lt_asymm (ha b hb) hpass.2

/-- The first row is ahead of a later one when it passes. -/
theorem ahead_cons {p : α → Bool} {a d : α} {t : List α} (hlt : key a < key d) :
    ahead key p d (a :: t) = ahead key p d t + if p a then 1 else 0 := by
  unfold ahead
  cases hp : p a
  · rw [List.filter_cons_of_neg (by simp [hp])]
    rfl
  · rw [List.filter_cons_of_pos (by simp [hp, hlt])]
    rfl

/-- What is ahead of a row does not depend on the order. -/
theorem ahead_ranked {p : α → Bool} {d : α} : ahead key p d (ranked key l) = ahead key p d l :=
  ((List.perm_insertionSort _ l).filter _).length_eq

/-- A row of a list in strict order is among the first `n` when fewer than `n` are ahead of it. -/
theorem mem_take_iff {s : List α} (hs : s.Pairwise fun a b => key a < key b) {n : ℕ} {d : α} :
    d ∈ s.take n ↔ d ∈ s ∧ ahead key (fun _ => true) d s < n := by
  induction hs generalizing n with
  | nil => simp
  | @cons a t ha ht ih =>
      cases n with
      | zero => simp
      | succ n =>
          rw [List.take_succ_cons, List.mem_cons, List.mem_cons, ih]
          constructor
          · rintro (rfl | ⟨hd, hlt⟩)
            · refine ⟨.inl rfl, ?_⟩
              rw [ahead_head ha]
              omega
            · refine ⟨.inr hd, ?_⟩
              rw [ahead_cons (ha d hd), if_pos rfl]
              omega
          · rintro ⟨rfl | hd, hlt⟩
            · exact .inl rfl
            · rw [ahead_cons (ha d hd), if_pos rfl] at hlt
              exact .inr ⟨hd, by omega⟩

/-- **The first `n` rows** are those with fewer than `n` rows ahead of them. -/
theorem Distinct.mem_take (h : Distinct key l) {n : ℕ} {d : α} :
    d ∈ (ranked key l).take n ↔ d ∈ l ∧ ahead key (fun _ => true) d l < n := by
  rw [mem_take_iff h.ranked_lt, mem_ranked, ahead_ranked]

/-- Two filters of a list in strict order, cut off. -/
theorem take_filter_eq_iff {s : List α} (hs : s.Pairwise fun a b => key a < key b)
    (p q : α → Bool) (n : ℕ) :
    (s.filter p).take n = (s.filter q).take n ↔
      ∀ d ∈ s, p d ≠ q d → n ≤ ahead key (fun a => p a && q a) d s := by
  induction hs generalizing n with
  | nil => simp
  | @cons a t ha ht ih =>
      have hfirst : ahead key (fun a => p a && q a) a (a :: t) = 0 := ahead_head ha
      have hrest : ∀ d ∈ t, ahead key (fun a => p a && q a) d (a :: t) =
          ahead key (fun a => p a && q a) d t + if p a && q a then 1 else 0 :=
        fun d hd => ahead_cons (ha d hd)
      rw [List.forall_mem_cons, hfirst]
      by_cases hsame : p a = q a
      · have hrow : p a ≠ q a → n ≤ 0 := fun h => absurd hsame h
        rw [and_iff_right hrow]
        cases hp : p a
        · rw [List.filter_cons_of_neg (by simp [hp]), List.filter_cons_of_neg (by simp [← hsame, hp]),
            ih]
          refine forall₂_congr fun d hd => ?_
          rw [hrest d hd, hp, Bool.false_and, if_neg Bool.false_ne_true, Nat.add_zero]
        · rw [List.filter_cons_of_pos hp, List.filter_cons_of_pos (by rw [← hsame, hp])]
          cases n with
          | zero => simp
          | succ n =>
              rw [List.take_succ_cons, List.take_succ_cons, List.cons.injEq, and_iff_right rfl, ih]
              refine forall₂_congr fun d hd => ?_
              rw [hrest d hd, ← hsame, hp, Bool.true_and, if_pos rfl, Nat.add_le_add_iff_right]
      · cases n with
        | zero => simp
        | succ n =>
            refine ⟨fun h => absurd h ?_, fun h => absurd (h.1 hsame) (by omega)⟩
            -- the row is in one of the two lists, at the head, and not in the other
            have hnot : ∀ (r : α → Bool) (l : List α), a :: l ≠ (t.filter r).take (n + 1) := by
              intro r l h
              have hmem : a ∈ (t.filter r).take (n + 1) := h ▸ List.mem_cons_self
              exact lt_irrefl _ (ha a (List.mem_of_mem_filter (List.mem_of_mem_take hmem)))
            cases hp : p a <;> cases hq : q a
            · exact absurd (hp.trans hq.symm) hsame
            · rw [List.filter_cons_of_neg (by simp [hp]), List.filter_cons_of_pos hq,
                List.take_succ_cons]
              exact (hnot p _).symm
            · rw [List.filter_cons_of_pos hp, List.filter_cons_of_neg (by simp [hq]),
                List.take_succ_cons]
              exact hnot q _
            · exact absurd (hp.trans hq.symm) hsame

/-- **When two filters give the same first `n` rows**: every row they disagree about has `n`
rows ahead of it that pass both. -/
theorem take_ranked_eq_iff (h : Distinct key l) (p q : α → Bool) (n : ℕ) :
    (ranked key (l.filter p)).take n = (ranked key (l.filter q)).take n ↔
      ∀ d ∈ l, p d ≠ q d → n ≤ ahead key (fun a => p a && q a) d l := by
  rw [h.ranked_filter, h.ranked_filter, take_filter_eq_iff h.ranked_lt]
  simp only [mem_ranked, ahead_ranked]

end
end Relational
