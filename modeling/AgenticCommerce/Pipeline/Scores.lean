/-
# The completeness score

`completeness_score` of `pipeline/build_catalog.py`: seven factors, each worth the points of the
thresholds that its measure reaches.  No factor takes points away, a missing one is worth nothing,
and each looks at its own fields only, so that filling one in never lowers the score
(`score_bounds`).
-/

import AgenticCommerce.Pipeline.Records
import Mathlib.Algebra.Order.BigOperators.Group.List
import Mathlib.Algebra.Order.Ring.Int

namespace AgenticCommerce
namespace Pipeline

/-! ### Tiers -/

/-- No tier takes points away. -/
theorem tiered_nonneg {reaches : ℚ → Bool} {tiers : List (ℚ × ℤ)}
    (h : ∀ tier ∈ tiers, 0 ≤ tier.2) : 0 ≤ tiered reaches tiers := by
  refine List.sum_nonneg fun points hpoints => ?_
  obtain ⟨tier, htier, rfl⟩ := List.mem_map.1 hpoints
  exact h tier (List.mem_filter.1 htier).1

/-- A measure that reaches no threshold is worth nothing. -/
theorem tiered_eq_zero {reaches : ℚ → Bool} {tiers : List (ℚ × ℤ)}
    (h : ∀ tier ∈ tiers, reaches tier.1 = false) : tiered reaches tiers = 0 := by
  have hnone : (tiers.filter fun tier => reaches tier.1) = [] :=
    List.filter_eq_nil_iff.2 fun tier htier => by
      rw [h tier htier]
      exact Bool.false_ne_true
  rw [tiered, hnone, List.map_nil, List.sum_nil]

/-- A count of nothing reaches no threshold above it. -/
theorem tiered_counts_zero {n : ℕ} {tiers : List (ℚ × ℤ)} (hn : n = 0)
    (h : ∀ tier ∈ tiers, 0 < tier.1) : tiered (counts n) tiers = 0 := by
  refine tiered_eq_zero fun tier htier => decide_eq_false ?_
  rw [hn, Nat.cast_zero, not_le]
  exact h tier htier

/-! ### Factors -/

/-- `SCORE_WEIGHTS`, by name. -/
inductive Factor where
  | title | features | description | images | details | ratingVolume | ratingQuality
  deriving DecidableEq, Repr

/-- What `completeness_score` is given. -/
structure Profile where
  title : String
  features : List String
  description : List String
  images : List NormalizedImage
  details : Record
  ratingNumber : ℤ
  averageRating : PyFloat

namespace Profile

variable (py : Python)

/-- The score of a profile. -/
def score (p : Profile) : ℤ :=
  completenessScore py p.title p.features p.description p.images p.details p.ratingNumber
    p.averageRating

/-- The thresholds of a factor, with their points. -/
def tiers : Factor → List (ℚ × ℤ)
  | .title => [(8, 6), (25, 7), (60, 7)]
  | .features => [(1, 7), (3, 4), (5, 4)]
  | .description => [(1, 8), (200, 7)]
  | .images => [(1, 5), (3, 5), (5, 5)]
  | .details => [(1, 4), (5, 3), (10, 3)]
  | .ratingVolume => [(1, 5), (10, 4), (50, 3), (200, 3)]
  | .ratingQuality => [(3, 4), (4, 3), (9 / 2, 3)]

/-- The measure of a factor reaches a threshold. -/
def reaches (p : Profile) : Factor → ℚ → Bool
  | .title => counts (py.strip p.title).length
  | .features => counts p.features.length
  | .description => counts (p.description.map String.length).sum
  | .images => counts (p.images.filter fun image => (bestImage py image).isSome).length
  | .details => counts (p.details.map Prod.fst).eraseDups.length
  | .ratingVolume => fun threshold => decide (threshold ≤ p.ratingNumber)
  | .ratingQuality => p.averageRating.reaches

/-- The points of a factor. -/
def points (p : Profile) (f : Factor) : ℤ := tiered (p.reaches py f) (tiers f)

/-- A factor is missing: the field is empty, or what it holds counts for nothing. -/
def Missing (p : Profile) : Factor → Prop
  | .title => py.strip p.title = ""
  | .features => p.features = []
  | .description => ∀ part ∈ p.description, part = ""
  | .images => ∀ image ∈ p.images, bestImage py image = none
  | .details => p.details = []
  | .ratingVolume => p.ratingNumber ≤ 0
  | .ratingQuality => p.averageRating = .finite 0

/-- Nothing but one factor changed. -/
structure SameBut (f : Factor) (p q : Profile) : Prop where
  title : f ≠ .title → q.title = p.title
  features : f ≠ .features → q.features = p.features
  description : f ≠ .description → q.description = p.description
  images : f ≠ .images → q.images = p.images
  details : f ≠ .details → q.details = p.details
  ratingNumber : f ≠ .ratingVolume → q.ratingNumber = p.ratingNumber
  averageRating : f ≠ .ratingQuality → q.averageRating = p.averageRating

variable {py} {p q : Profile} {f g : Factor}

/-- The score is the sum of the factors, between its bounds. -/
theorem score_eq : p.score py = max 0 (min 100 (p.points py .title + p.points py .features +
    p.points py .description + p.points py .images + p.points py .details +
    p.points py .ratingVolume + p.points py .ratingQuality)) := rfl

theorem points_nonneg : 0 ≤ p.points py f := by
  refine tiered_nonneg ?_
  cases f with
  | title | features | description | images | details | ratingVolume | ratingQuality => decide

/-- Every threshold is above zero. -/
theorem tiers_pos : ∀ tier ∈ tiers f, 0 < tier.1 := by
  cases f with
  | title | features | description | images | details | ratingVolume => decide
  | ratingQuality => simp [tiers]

/-- **A missing factor is worth nothing.** -/
theorem points_of_missing (h : p.Missing py f) : p.points py f = 0 := by
  cases f with
  | title =>
      refine tiered_counts_zero ?_ tiers_pos
      rw [show py.strip p.title = "" from h]
      rfl
  | features =>
      refine tiered_counts_zero ?_ tiers_pos
      rw [show p.features = [] from h, List.length_nil]
  | description =>
      refine tiered_counts_zero (List.sum_eq_zero fun n hn => ?_) tiers_pos
      obtain ⟨part, hpart, rfl⟩ := List.mem_map.1 hn
      rw [h part hpart]
      rfl
  | images =>
      refine tiered_counts_zero (List.length_eq_zero_iff.2 ?_) tiers_pos
      refine List.filter_eq_nil_iff.2 fun image himage => ?_
      rw [h image himage]
      exact Bool.false_ne_true
  | details =>
      refine tiered_counts_zero ?_ tiers_pos
      rw [show p.details = [] from h]
      rfl
  | ratingVolume =>
      refine tiered_eq_zero fun tier htier => decide_eq_false ?_
      have hnumber : (p.ratingNumber : ℚ) ≤ 0 := Int.cast_nonpos.2 h
      exact not_le.2 (lt_of_le_of_lt hnumber (tiers_pos tier htier))
  | ratingQuality =>
      refine tiered_eq_zero fun tier htier => ?_
      rw [reaches, show p.averageRating = .finite 0 from h]
      exact decide_eq_false (not_le.2 (tiers_pos tier htier))

/-- A factor looks at its own fields only. -/
theorem points_congr (h : SameBut f p q) (hg : f ≠ g) : q.points py g = p.points py g := by
  unfold points
  cases g with
  | title => rw [reaches, reaches, h.title hg]
  | features => rw [reaches, reaches, h.features hg]
  | description => rw [reaches, reaches, h.description hg]
  | images => rw [reaches, reaches, h.images hg]
  | details => rw [reaches, reaches, h.details hg]
  | ratingVolume => rw [reaches, reaches, h.ratingNumber hg]
  | ratingQuality => rw [reaches, reaches, h.averageRating hg]

/-- Filling in a missing factor takes no points away. -/
theorem points_le_of_missing (hmissing : p.Missing py f) (h : SameBut f p q) :
    p.points py g ≤ q.points py g := by
  by_cases hg : f = g
  · subst hg
    rw [points_of_missing hmissing]
    exact points_nonneg
  · exact (points_congr h hg).ge

/-- **The completeness score** lies between 0 and 100, and no missing factor that is filled in
lowers it. -/
theorem score_bounds (py : Python) (p : Profile) :
    (0 ≤ p.score py ∧ p.score py ≤ 100) ∧
      ∀ (f : Factor) (q : Profile), p.Missing py f → SameBut f p q → p.score py ≤ q.score py := by
  rw [score_eq]
  refine ⟨⟨by omega, by omega⟩, fun f q hmissing h => ?_⟩
  have hle (g : Factor) : p.points py g ≤ q.points py g := points_le_of_missing hmissing h
  have htitle := hle .title
  have hfeatures := hle .features
  have hdescription := hle .description
  have himages := hle .images
  have hdetails := hle .details
  have hvolume := hle .ratingVolume
  have hquality := hle .ratingQuality
  rw [score_eq]
  omega

end Profile

end Pipeline
end AgenticCommerce
