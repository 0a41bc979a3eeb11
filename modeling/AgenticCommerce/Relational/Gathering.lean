/-
# Gathering

A list that grows by what some steps pick: a step sees what was gathered before it, picks one
more item or none, or fails, which leaves nothing.  What holds of every item gathered holds of
every pick, in the state it is made in (`forall_gather_iff`).
-/

import Mathlib.Data.List.Basic

namespace Relational

/-- What the steps pick, one after the other, behind what was gathered before. -/
def gather {σ ι : Type} (pick : List ι → σ → Option (Option ι)) : List ι → List σ → Option (List ι)
  | acc, [] => some acc
  | acc, s :: steps => match pick acc s with
    | none => none
    | some none => gather pick acc steps
    | some (some i) => gather pick (acc ++ [i]) steps

/-- Every pick of a run, in the state it is made in, is a good one. -/
def EveryPick {σ ι : Type} (pick : List ι → σ → Option (Option ι)) (acc : List ι) (steps : List σ)
    (good : ι → Prop) : Prop :=
  ∀ earlier s later, steps = earlier ++ s :: later → ∀ before ∈ gather pick acc earlier,
    ∀ i, pick before s = some (some i) → good i

section

variable {σ ι : Type} {pick : List ι → σ → Option (Option ι)} {acc out : List ι} {s : σ}
  {steps : List σ}

/-- What is gathered of a first step and of the others. -/
theorem gather_cons (h : gather pick acc (s :: steps) = some out) :
    ∃ picked, pick acc s = some picked ∧ gather pick (acc ++ picked.toList) steps = some out := by
  rw [gather] at h
  cases hpick : pick acc s with
  | none =>
      rw [hpick] at h
      exact nomatch h
  | some picked =>
      rw [hpick] at h
      cases picked with
      | none => exact ⟨none, rfl, by rwa [Option.toList_none, List.append_nil]⟩
      | some i => exact ⟨some i, rfl, h⟩

/-- A property that every step keeps holds of all that is gathered. -/
theorem gather_induction {motive : List ι → Prop} (h : gather pick acc steps = some out)
    (start : motive acc)
    (step : ∀ acc s i, s ∈ steps → motive acc → pick acc s = some (some i) → motive (acc ++ [i])) :
    motive out := by
  induction steps generalizing acc with
  | nil => exact Option.some.inj h ▸ start
  | cons s steps ih =>
      obtain ⟨picked, hpick, hrest⟩ := gather_cons h
      refine ih hrest ?_ fun acc s' i hs' => step acc s' i (List.mem_cons_of_mem _ hs')
      cases picked with
      | none => rwa [Option.toList_none, List.append_nil]
      | some i => exact step acc s i List.mem_cons_self start hpick

/-- **A property of single items** holds of all that is gathered exactly where it holds of what
was there before and of every pick, in the state in which it is made. -/
theorem forall_gather_iff {P : ι → Prop} (h : gather pick acc steps = some out) :
    (∀ i ∈ out, P i) ↔ (∀ i ∈ acc, P i) ∧ EveryPick pick acc steps P := by
  induction steps generalizing acc with
  | nil =>
      obtain rfl := Option.some.inj h
      refine ⟨fun hout => ⟨hout, fun earlier s later hsplit => ?_⟩, fun hacc => hacc.1⟩
      simp at hsplit
  | cons s steps ih =>
      obtain ⟨picked, hpick, hrest⟩ := gather_cons h
      have hnext : ∀ earlier, gather pick acc (s :: earlier) =
          gather pick (acc ++ picked.toList) earlier := by
        intro earlier
        rw [gather, hpick]
        cases picked with
        | none => rw [Option.toList_none, List.append_nil]
        | some i => rfl
      rw [ih hrest]
      constructor
      · rintro ⟨hacc, hlater⟩
        refine ⟨fun i hi => hacc i (List.mem_append_left _ hi), ?_⟩
        intro earlier s' later hsplit before hbefore i hi
        cases earlier with
        | nil =>
            obtain ⟨rfl, -⟩ := List.cons.inj hsplit
            obtain rfl := Option.some.inj hbefore
            obtain rfl := Option.some.inj (hpick.symm.trans hi)
            exact hacc i (List.mem_append_right _ (List.mem_singleton.2 rfl))
        | cons s₁ earlier =>
            obtain ⟨rfl, hrun⟩ := List.cons.inj hsplit
            exact hlater earlier s' later hrun before (hnext earlier ▸ hbefore) i hi
      · rintro ⟨hacc, hlater⟩
        refine ⟨fun i hi => ?_, fun earlier s' later hsplit before hbefore i hi => ?_⟩
        · rcases List.mem_append.1 hi with hi | hi
          · exact hacc i hi
          · refine hlater [] s steps rfl acc rfl i ?_
            rw [hpick, Option.mem_toList.1 hi]
        · exact hlater (s :: earlier) s' later (congrArg (s :: ·) hsplit) before
            ((hnext earlier).symm ▸ hbefore) i hi

/-- Properties that agree on the picks agree on whether every pick is good. -/
theorem everyPick_congr {P Q : ι → Prop}
    (h : ∀ before s i, s ∈ steps → pick before s = some (some i) → (P i ↔ Q i)) :
    EveryPick pick acc steps P ↔ EveryPick pick acc steps Q := by
  have hmem {earlier s later} (hsplit : steps = earlier ++ s :: later) : s ∈ steps :=
    hsplit ▸ List.mem_append_right _ List.mem_cons_self
  constructor
  · intro hP earlier s later hsplit before hbefore i hi
    exact (h before s i (hmem hsplit) hi).1 (hP earlier s later hsplit before hbefore i hi)
  · intro hQ earlier s later hsplit before hbefore i hi
    exact (h before s i (hmem hsplit) hi).2 (hQ earlier s later hsplit before hbefore i hi)

end

end Relational
