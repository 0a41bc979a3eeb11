/-
# Keyed tables

A table of a relational store, read as a list of rows of which no two clash.
What clashes is the schema's business: `Keyed` names the key columns of a row
type and says when two rows with those columns may not both be stored, which
covers a primary key and any further `UNIQUE` columns.  The absence of clashes
is a field of `Table`, so a table that breaks a constraint cannot be written
down; an insert that would break one returns `none` instead.

`insert?`, `modify` and `updateReturning` are `INSERT` and an `UPDATE ... WHERE` of
columns outside every key, without and with `RETURNING`.  The lemmas say what a lookup (`first`), a selection (`select`), a
membership and a sum over the rows (`total`) are after each of them.
-/

import Mathlib.Algebra.Order.BigOperators.Group.List
import Mathlib.Algebra.Order.Ring.Int
import Mathlib.Data.List.Pairwise
import Mathlib.Tactic.Ring

namespace Relational

/-- The key columns of a row type and the constraint they stand for. -/
class Keyed (α : Type) where
  Key : Type
  key : α → Key
  clash : Key → Key → Bool
  clash_self : ∀ k, clash k k = true
  clash_comm : ∀ k l, clash k l = clash l k

/-- Two rows that may not both be stored. -/
def clashes {α : Type} [Keyed α] (a b : α) : Bool := Keyed.clash (Keyed.key a) (Keyed.key b)

theorem clashes_self {α : Type} [Keyed α] (a : α) : clashes a a = true := Keyed.clash_self _

theorem clashes_comm {α : Type} [Keyed α] (a b : α) : clashes a b = clashes b a :=
  Keyed.clash_comm _ _

/-- Rows of which no two clash. -/
structure Table (α : Type) [Keyed α] where
  rows : List α
  unique : rows.Pairwise fun a b => clashes a b = false

namespace Table

variable {α : Type} [Keyed α]

instance : Membership α (Table α) := ⟨fun t a => a ∈ t.rows⟩

theorem mem_def {t : Table α} {a : α} : a ∈ t ↔ a ∈ t.rows := Iff.rfl

instance (t : Table α) (p : α → Prop) [DecidablePred p] : Decidable (∀ a ∈ t, p a) :=
  inferInstanceAs (Decidable (∀ a ∈ t.rows, p a))

instance (t : Table α) (p : α → Prop) [DecidablePred p] : Decidable (∃ a ∈ t, p a) :=
  inferInstanceAs (Decidable (∃ a ∈ t.rows, p a))

@[ext] theorem ext {t u : Table α} (h : t.rows = u.rows) : t = u := by
  cases t; cases u; cases h; rfl

/-- The table without rows. -/
def empty : Table α := ⟨[], List.Pairwise.nil⟩

instance : Inhabited (Table α) := ⟨empty⟩

@[simp] theorem not_mem_empty (a : α) : ¬a ∈ (empty : Table α) := List.not_mem_nil

/-- The first row that satisfies `p`. -/
def first (t : Table α) (p : α → Bool) : Option α := t.rows.find? p

/-- The rows that satisfy `p`. -/
def select (t : Table α) (p : α → Bool) : List α := t.rows.filter p

/-- The sum of `w` over the rows. -/
def total (t : Table α) (w : α → ℤ) : ℤ := (t.rows.map w).sum

/-- Two stored rows that clash are one row. -/
theorem eq_of_clash {t : Table α} {a b : α} (ha : a ∈ t) (hb : b ∈ t)
    (h : clashes a b = true) : a = b := by
  by_contra hne
  have : Std.Symm fun a b : α => clashes a b = false :=
    ⟨fun a b hab => by rw [clashes_comm]; exact hab⟩
  rw [t.unique.forall ha hb hne] at h
  exact Bool.noConfusion h

theorem first_eq_some {t : Table α} {p : α → Bool} {a : α} (h : t.first p = some a) :
    a ∈ t ∧ p a = true :=
  ⟨List.mem_of_find?_eq_some h, List.find?_some h⟩

theorem first_eq_none {t : Table α} {p : α → Bool} :
    t.first p = none ↔ ∀ a ∈ t, p a = false := by
  simp [first, List.find?_eq_none, mem_def]

/-- A stored row that alone satisfies `p` is the one a lookup finds. -/
theorem first_of_mem {t : Table α} {p : α → Bool} {a : α} (ha : a ∈ t) (hp : p a = true)
    (h : ∀ b ∈ t, p b = true → b = a) : t.first p = some a := by
  cases hf : t.first p with
  | none => rw [first_eq_none.1 hf a ha] at hp; exact Bool.noConfusion hp
  | some b =>
      obtain ⟨hb, hpb⟩ := first_eq_some hf
      rw [h b hb hpb]

theorem mem_select {t : Table α} {p : α → Bool} {a : α} : a ∈ t.select p ↔ a ∈ t ∧ p a = true :=
  List.mem_filter

/-! ### Insert -/

/-- `INSERT`: appends the row, or refuses it when it clashes with a stored one. -/
def insert? (t : Table α) (a : α) : Option (Table α) :=
  if h : ∀ b ∈ t.rows, clashes b a = false then
    some ⟨t.rows ++ [a], List.pairwise_append.2 ⟨t.unique, List.pairwise_singleton _ _,
      fun b hb c hc => by rw [List.mem_singleton.1 hc]; exact h b hb⟩⟩
  else none

theorem insert?_eq_some {t u : Table α} {a : α} :
    t.insert? a = some u ↔ (∀ b ∈ t, clashes b a = false) ∧ u.rows = t.rows ++ [a] := by
  unfold insert?
  split
  · rename_i h
    rw [Option.some.injEq]
    exact ⟨fun e => ⟨h, e ▸ rfl⟩, fun e => ext e.2.symm⟩
  · rename_i h
    exact ⟨nofun, fun e => absurd e.1 h⟩

theorem insert?_eq_none {t : Table α} {a : α} :
    t.insert? a = none ↔ ∃ b ∈ t, clashes b a = true := by
  unfold insert?
  split
  · rename_i h
    refine ⟨nofun, fun ⟨b, hb, hc⟩ => ?_⟩
    rw [h b hb] at hc
    exact Bool.noConfusion hc
  · rename_i h
    simpa [mem_def] using h

theorem mem_insert {t u : Table α} {a b : α} (h : t.insert? a = some u) :
    b ∈ u ↔ b ∈ t ∨ b = a := by
  rw [mem_def, (insert?_eq_some.1 h).2, List.mem_append, List.mem_singleton, mem_def]

theorem first_insert {t u : Table α} {a : α} (h : t.insert? a = some u) (p : α → Bool) :
    u.first p = (t.first p).or (if p a then some a else none) := by
  rw [first, (insert?_eq_some.1 h).2, List.find?_append, first]
  cases hp : p a <;> simp [hp]

/-- A row that was looked up by a unique column, before and after its insert. -/
theorem first_insert_unique {t u : Table α} {a : α} (h : t.insert? a = some u) {q : α → Bool}
    (hq : ∀ b, q b = true → q a = true → clashes b a = true) :
    (q a = true → t.first q = none ∧ u.first q = some a) ∧
      (q a = false → u.first q = t.first q) := by
  have hnone : q a = true → t.first q = none := fun ha => first_eq_none.2 fun b hb => by
    by_contra hqb
    have hclash := hq b (by simpa using hqb) ha
    rw [(insert?_eq_some.1 h).1 b hb] at hclash
    exact Bool.noConfusion hclash
  rw [first_insert h]
  refine ⟨fun ha => ⟨hnone ha, ?_⟩, fun ha => ?_⟩
  · rw [hnone ha, if_pos ha, Option.none_or]
  · rw [if_neg (by rw [ha]; exact Bool.false_ne_true), Option.or_none]

theorem select_insert {t u : Table α} {a : α} (h : t.insert? a = some u) (p : α → Bool) :
    u.select p = t.select p ++ if p a then [a] else [] := by
  rw [select, (insert?_eq_some.1 h).2, List.filter_append, select]
  cases hp : p a <;> simp [hp]

theorem total_insert {t u : Table α} {a : α} (h : t.insert? a = some u) (w : α → ℤ) :
    u.total w = t.total w + w a := by
  simp [total, (insert?_eq_some.1 h).2]

/-! ### Update -/

/-- `UPDATE ... WHERE p` of columns outside every key. -/
def modify (t : Table α) (p : α → Bool) (f : α → α) (h : ∀ a, Keyed.key (f a) = Keyed.key a) :
    Table α :=
  ⟨t.rows.map fun a => if p a then f a else a, List.pairwise_map.2 <| t.unique.imp fun {a b} hab => by
    have hk : ∀ a : α, Keyed.key (if p a then f a else a) = Keyed.key a := fun a => by
      split
      · exact h a
      · rfl
    rw [clashes, hk, hk]; exact hab⟩

theorem mem_modify {t : Table α} {p : α → Bool} {f : α → α}
    {h : ∀ a, Keyed.key (f a) = Keyed.key a} {b : α} :
    b ∈ t.modify p f h ↔ ∃ a ∈ t, (if p a then f a else a) = b :=
  List.mem_map

theorem mem_modify_of_mem {t : Table α} {p : α → Bool} {f : α → α}
    {h : ∀ a, Keyed.key (f a) = Keyed.key a} {a : α} (ha : a ∈ t) :
    (if p a then f a else a) ∈ t.modify p f h :=
  mem_modify.2 ⟨a, ha, rfl⟩

/-- A row that the update matches is stored updated. -/
theorem mem_modify_of_match {t : Table α} {p : α → Bool} {f : α → α}
    {h : ∀ a, Keyed.key (f a) = Keyed.key a} {a : α} (ha : a ∈ t) (hp : p a = true) :
    f a ∈ t.modify p f h :=
  mem_modify.2 ⟨a, ha, if_pos hp⟩

omit [Keyed α] in
/-- A test that the update leaves alone sees the same rows before and after. -/
theorem test_modify {p : α → Bool} {f : α → α} {q : α → Bool} (hq : ∀ a, q (f a) = q a) :
    (q ∘ fun a => if p a then f a else a) = q := by
  funext a
  simp only [Function.comp]
  split
  · exact hq a
  · rfl

/-- A lookup by columns that the update leaves alone finds the updated row. -/
theorem first_modify (t : Table α) (p : α → Bool) (f : α → α)
    (h : ∀ a, Keyed.key (f a) = Keyed.key a) {q : α → Bool} (hq : ∀ a, q (f a) = q a) :
    (t.modify p f h).first q = (t.first q).map fun a => if p a then f a else a := by
  rw [first, modify, List.find?_map, test_modify hq, first]

/-- A lookup whose row the update does not match is as before. -/
theorem first_modify_of_not {t : Table α} {p : α → Bool} {f : α → α}
    {h : ∀ a, Keyed.key (f a) = Keyed.key a} {q : α → Bool} (hq : ∀ a, q (f a) = q a)
    (hp : ∀ a, t.first q = some a → p a = false) : (t.modify p f h).first q = t.first q := by
  rw [first_modify t p f h hq]
  cases hf : t.first q with
  | none => rfl
  | some a => rw [Option.map_some, hp a hf, if_neg Bool.false_ne_true]

/-- A lookup whose row the update matches finds it updated. -/
theorem first_modify_of {t : Table α} {p : α → Bool} {f : α → α}
    {h : ∀ a, Keyed.key (f a) = Keyed.key a} {q : α → Bool} (hq : ∀ a, q (f a) = q a)
    (hp : ∀ a, t.first q = some a → p a = true) :
    (t.modify p f h).first q = (t.first q).map f := by
  rw [first_modify t p f h hq]
  cases hf : t.first q with
  | none => rfl
  | some a => rw [Option.map_some, Option.map_some, if_pos (hp a hf)]

/-- A selection by columns that the update leaves alone. -/
theorem select_modify (t : Table α) (p : α → Bool) (f : α → α)
    (h : ∀ a, Keyed.key (f a) = Keyed.key a) {q : α → Bool} (hq : ∀ a, q (f a) = q a) :
    (t.modify p f h).select q = (t.select q).map fun a => if p a then f a else a := by
  rw [select, modify, List.filter_map, test_modify hq, select]

/-- A selection of which the update matches no row is as before. -/
theorem select_modify_of_not {t : Table α} {p : α → Bool} {f : α → α}
    {h : ∀ a, Keyed.key (f a) = Keyed.key a} {q : α → Bool} (hq : ∀ a, q (f a) = q a)
    (hp : ∀ a ∈ t.select q, p a = false) : (t.modify p f h).select q = t.select q := by
  rw [select_modify t p f h hq]
  refine (List.map_congr_left fun a ha => ?_).trans (t.select q).map_id
  rw [hp a ha]
  rfl

/-- An update that leaves every row it matches as it is changes nothing. -/
theorem modify_of_forall_eq {t : Table α} {p : α → Bool} (f : α → α)
    (h : ∀ a, Keyed.key (f a) = Keyed.key a) (hp : ∀ a ∈ t, p a = true → f a = a) :
    t.modify p f h = t := by
  refine ext ((List.map_congr_left fun a ha => ?_).trans t.rows.map_id)
  split_ifs with hpa
  · exact hp a ha hpa
  · rfl

/-- An update that no row matches changes nothing. -/
theorem modify_of_forall_not {t : Table α} {p : α → Bool} (f : α → α)
    (h : ∀ a, Keyed.key (f a) = Keyed.key a) (hp : ∀ a ∈ t, p a = false) :
    t.modify p f h = t :=
  modify_of_forall_eq f h fun a ha hpa => absurd hpa (by rw [hp a ha]; exact Bool.false_ne_true)

/-- An update moves a sum by the difference it makes to each row it matches. -/
theorem total_modify (t : Table α) (p : α → Bool) (f : α → α)
    (h : ∀ a, Keyed.key (f a) = Keyed.key a) (w : α → ℤ) :
    (t.modify p f h).total w = t.total w + ((t.select p).map fun a => w (f a) - w a).sum := by
  simp only [total, modify, select]
  induction t.rows with
  | nil => rfl
  | cons a l ih =>
      simp only [List.map_cons, List.sum_cons, ih]
      cases hp : p a
      · simp [hp]; ring
      · simp [hp]; ring

/-- No row of a sum of non-negative terms exceeds it. -/
theorem le_total {t : Table α} {w : α → ℤ} (hw : ∀ b ∈ t, 0 ≤ w b) {a : α} (ha : a ∈ t) :
    w a ≤ t.total w :=
  List.single_le_sum (fun _ hx => by
    obtain ⟨b, hb, rfl⟩ := List.mem_map.1 hx
    exact hw b hb) _ (List.mem_map_of_mem ha)

/-- `UPDATE ... WHERE p RETURNING`, of a statement that can match one row. -/
def updateReturning (t : Table α) (p : α → Bool) (f : α → α)
    (h : ∀ a, Keyed.key (f a) = Keyed.key a) : Option α × Table α :=
  ((t.first p).map f, t.modify p f h)

/-- A selection by a test that one stored row alone passes is that row. -/
theorem select_eq_singleton {t : Table α} {p : α → Bool} {a : α} (ha : a ∈ t) (hp : p a = true)
    (h : ∀ b ∈ t, p b = true → clashes b a = true) : t.select p = [a] := by
  have key : ∀ l : List α, l.Pairwise (fun a b => clashes a b = false) → a ∈ l →
      (∀ b ∈ l, p b = true → clashes b a = true) → l.filter p = [a] := by
    intro l hl
    induction hl with
    | nil => intro h; simp at h
    | @cons b l hb _ ih =>
        intro ha hs
        rcases List.mem_cons.1 ha with rfl | ha
        · have hno : l.filter p = [] := List.filter_eq_nil_iff.2 fun c hc hpc => by
            have h₁ := hb c hc
            rw [clashes_comm, hs c (List.mem_cons_of_mem _ hc) hpc] at h₁
            exact Bool.noConfusion h₁
          rw [List.filter_cons_of_pos hp, hno]
        · have hpb : ¬p b = true := fun hpb => by
            have h₁ := hs b (List.mem_cons_self ..) hpb
            rw [hb a ha] at h₁
            exact Bool.noConfusion h₁
          rw [List.filter_cons_of_neg hpb]
          exact ih ha fun c hc => hs c (List.mem_cons_of_mem _ hc)
  exact key t.rows t.unique ha h

/-! ### Delete -/

/-- `DELETE`: the rows that do not satisfy `p`. -/
def delete (t : Table α) (p : α → Bool) : Table α :=
  ⟨t.rows.filter fun a => !p a, t.unique.filter _⟩

theorem mem_delete {t : Table α} {p : α → Bool} {a : α} : a ∈ t.delete p ↔ a ∈ t ∧ p a = false := by
  simp [delete, mem_def]

end Table
end Relational
