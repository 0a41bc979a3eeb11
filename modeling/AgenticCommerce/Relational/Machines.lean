/-
# Runs of a machine

A machine is a function of a state and an input.  `Always` says of every step of a run what
holds in the state it is taken in, and `tally` adds up a number over the steps.  What is said
of the steps may be replaced by what an invariant makes equivalent to it
(`always_congr`, `tally_congr`).
-/

import Mathlib.Data.List.Basic
import Mathlib.Data.Nat.Notation

namespace Relational

variable {σ ι : Type} (step : σ → ι → σ)

/-- Every step of the run from `s` is such that `P`. -/
def Always (P : σ → ι → Prop) : σ → List ι → Prop
  | _, [] => True
  | s, i :: l => P s i ∧ Always P (step s i) l

/-- The sum of `p` over the steps of the run from `s`. -/
def tally (p : σ → ι → ℕ) : σ → List ι → ℕ
  | _, [] => 0
  | s, i :: l => p s i + tally p (step s i) l

variable {step} {P Q : σ → ι → Prop} {Inv : σ → Prop}

/-- A statement about every step is one about the last step of every initial run. -/
theorem always_iff {s : σ} {l : List ι} :
    Always step P s l ↔ ∀ before i after, l = before ++ i :: after → P (before.foldl step s) i := by
  induction l generalizing s with
  | nil =>
      refine ⟨fun _ before i after h => ?_, fun _ => trivial⟩
      exact absurd h (by simp)
  | cons i l ih =>
      constructor
      · rintro ⟨hi, hl⟩ before j after h
        cases before with
        | nil =>
            obtain ⟨rfl, rfl⟩ := List.cons.inj h
            exact hi
        | cons k before =>
            obtain ⟨rfl, rfl⟩ := List.cons.inj h
            exact ih.1 hl before j after rfl
      · intro h
        refine ⟨h [] i l rfl, ih.2 fun before j after hl => ?_⟩
        exact h (i :: before) j after (congrArg _ hl)

/-- What every state of a run keeps holds at its end. -/
theorem foldl_invariant (hstep : ∀ s i, Inv s → Inv (step s i)) {s : σ} (hs : Inv s) (l : List ι) :
    Inv (l.foldl step s) := by
  induction l generalizing s with
  | nil => exact hs
  | cons i l ih => exact ih (hstep s i hs)

/-- What every step of a run keeps that is such that `P` holds at its end. -/
theorem Always.invariant (hstep : ∀ s i, P s i → Inv s → Inv (step s i)) {s : σ} {l : List ι}
    (h : Always step P s l) (hs : Inv s) : Inv (l.foldl step s) := by
  induction l generalizing s with
  | nil => exact hs
  | cons i l ih => exact ih h.2 (hstep s i h.1 hs)

/-- **Equivalent statements** about the steps, under an invariant of the run. -/
theorem always_congr (hstep : ∀ s i, Inv s → Inv (step s i))
    (h : ∀ s i, Inv s → (P s i ↔ Q s i)) {s : σ} (hs : Inv s) (l : List ι) :
    Always step P s l ↔ Always step Q s l := by
  induction l generalizing s with
  | nil => exact Iff.rfl
  | cons i l ih => exact and_congr (h s i hs) (ih (hstep s i hs))

theorem always_and {s : σ} {l : List ι} :
    Always step (fun s i => P s i ∧ Q s i) s l ↔ Always step P s l ∧ Always step Q s l := by
  induction l generalizing s with
  | nil => exact ⟨fun _ => ⟨trivial, trivial⟩, fun _ => trivial⟩
  | cons i l ih =>
      rw [Always, Always, Always, ih]
      exact and_and_and_comm

/-- Equal numbers add up to the same. -/
theorem tally_congr {p q : σ → ι → ℕ} (h : ∀ s i, p s i = q s i) (s : σ) (l : List ι) :
    tally step p s l = tally step q s l := by
  induction l generalizing s with
  | nil => rfl
  | cons i l ih => rw [tally, tally, h, ih]

end Relational
