/-
# Trails

A trail is the list of the steps that lead from one state to another, each recorded
by a label.  A journal that gains one entry at every step of a state machine, and only
then, is a trail of the machine (`Trail.snoc`), and a machine can be replayed from its
trail: the state is the one the last entry leads to (`Trail.last`), each entry starts
where the one before it led to (`Trail.isChain`), and each is a step (`Trail.every`).
-/

import Mathlib.Data.List.Chain

namespace Relational

variable {σ ε : Type} {R : σ → ε → σ → Prop}

/-- The entries of the second argument lead from the first state to the last. -/
inductive Trail (R : σ → ε → σ → Prop) (s : σ) : List ε → σ → Prop
  | nil : Trail R s [] s
  | snoc {es : List ε} {t u : σ} {e : ε} : Trail R s es t → R t e u → Trail R s (es ++ [e]) u

namespace Trail

variable {s t : σ} {es : List ε}

/-- **The state is where the last entry leads**, or the first one if there is none. -/
theorem last (h : Trail R s es t) : (es = [] ∧ t = s) ∨ ∃ e ∈ es.getLast?, ∃ u, R u e t := by
  cases h with
  | nil => exact .inl ⟨rfl, rfl⟩
  | snoc _ hstep => exact .inr ⟨_, by rw [List.getLast?_concat]; rfl, _, hstep⟩

/-- **Every entry is a step.** -/
theorem every (h : Trail R s es t) : ∀ e ∈ es, ∃ u v, R u e v := by
  induction h with
  | nil => exact fun _ he => absurd he List.not_mem_nil
  | snoc _ hstep ih =>
      intro e he
      rcases List.mem_append.1 he with he | he
      · exact ih e he
      · obtain rfl := List.mem_singleton.1 he
        exact ⟨_, _, hstep⟩

/-- **Consecutive entries meet**: the later one starts where the earlier one led to. -/
theorem isChain {Meets : ε → ε → Prop} (hmeets : ∀ a b c e e', R a e b → R b e' c → Meets e e')
    (h : Trail R s es t) : es.IsChain Meets := by
  induction h with
  | nil => exact .nil
  | @snoc es t u e htrail hstep ih =>
      rw [List.isChain_append]
      refine ⟨ih, .singleton _, fun x hx y hy => ?_⟩
      obtain rfl : e = y := Option.some.inj hy
      rcases htrail.last with ⟨rfl, -⟩ | ⟨x', hx', a, hlast⟩
      · exact nomatch hx
      · obtain rfl : x' = x := Option.some.inj ((Option.mem_def.1 hx').symm.trans hx)
        exact hmeets _ _ _ _ _ hlast hstep

/-- A first entry starts at the first state. -/
theorem head {Starts : ε → Prop} (hstarts : ∀ e u, R s e u → Starts e) (h : Trail R s es t) :
    ∀ e ∈ es.head?, Starts e := by
  induction h with
  | nil => exact fun _ he => nomatch he
  | @snoc es t u e htrail hstep ih =>
      intro x hx
      cases htrail with
      | nil =>
          obtain rfl : e = x := Option.some.inj hx
          exact hstarts e u hstep
      | snoc htrail' hstep' =>
          rw [List.head?_append_of_ne_nil _ (by simp)] at hx
          exact ih x hx

end Trail
end Relational
