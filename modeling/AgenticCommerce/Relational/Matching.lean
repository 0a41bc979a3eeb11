/-
# Tables matched row by row

Two tables are matched by a relation when it is one to one between their rows
(`Matched`), as it is between a parent and the child row that every parent has one of.
A sum over the one is then the sum over the other of what its rows are matched with
(`Matched.total_eq`).
-/

import AgenticCommerce.Relational.Table
import Mathlib.Algebra.BigOperators.Group.Finset.Basic

namespace Relational

/-- Every row of either table is related to one row of the other. -/
structure Matched {α β : Type} [Keyed α] [Keyed β] (R : α → β → Prop) (t : Table α) (u : Table β) :
    Prop where
  left : ∀ a ∈ t, ∃ b ∈ u, R a b
  right : ∀ b ∈ u, ∃ a ∈ t, R a b
  left_unique : ∀ a ∈ t, ∀ a' ∈ t, ∀ b ∈ u, R a b → R a' b → a = a'
  right_unique : ∀ a ∈ t, ∀ b ∈ u, ∀ b' ∈ u, R a b → R a b' → b = b'

variable {α β : Type} [Keyed α] [Keyed β] {R : α → β → Prop} {t : Table α} {u : Table β}

/-- No row is stored twice. -/
theorem Table.nodup (t : Table α) : t.rows.Nodup :=
  t.unique.imp fun {a b} hclash hab => by
    rw [hab, clashes_self] at hclash
    exact Bool.noConfusion hclash

/-- **Matched tables have the same sums**, of quantities that agree on matched rows. -/
theorem Matched.total_eq (h : Matched R t u) {w : α → ℤ} {v : β → ℤ}
    (hwv : ∀ a ∈ t, ∀ b ∈ u, R a b → w a = v b) : t.total w = u.total v := by
  classical
  rw [Table.total, Table.total, ← List.sum_toFinset w t.nodup, ← List.sum_toFinset v u.nodup]
  have hleft : ∀ a ∈ t.rows.toFinset, ∃ b, b ∈ u ∧ R a b := fun a ha =>
    h.left a (List.mem_toFinset.1 ha)
  choose partner hmem hrel using hleft
  refine Finset.sum_bij partner (fun a ha => ?_) (fun a ha a' ha' heq => ?_)
    (fun b hb => ?_) fun a ha => ?_
  · exact List.mem_toFinset.2 (hmem a ha)
  · have hrel' := hrel a' ha'
    rw [← heq] at hrel'
    exact h.left_unique a (List.mem_toFinset.1 ha) a' (List.mem_toFinset.1 ha') _ (hmem a ha)
      (hrel a ha) hrel'
  · have hb' : b ∈ u := List.mem_toFinset.1 hb
    obtain ⟨a, ha, hab⟩ := h.right b hb'
    have ha' := List.mem_toFinset.2 ha
    exact ⟨a, ha', h.right_unique a ha _ (hmem a ha') _ hb' (hrel a ha') hab⟩
  · exact hwv a (List.mem_toFinset.1 ha) _ (hmem a ha) (hrel a ha)

end Relational
