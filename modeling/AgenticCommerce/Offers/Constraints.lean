/-
# The two evaluators of the offer filter

`services/offers/constraints.py` with `OfferRepository.search_offers`: one set of constraints,
an evaluator in Python (`offerMatches`, `rankingKey`, `applyConstraints`) over candidates, and
one in SQL (`sqlPredicates`, `sqlOrdering`, `searchOffers`) over rows.

The columns the two compare are `NOT NULL`, so the sentinels of `ranking_key` and the
`NULLS LAST` of `sql_ordering` have nothing to act on.  Texts are ordered by code point, as
under the collation `C`.
-/

import AgenticCommerce.Offers.Service
import AgenticCommerce.Relational.Ranking
import Mathlib.Algebra.Order.Ring.Rat
import Mathlib.Data.Prod.Lex
import Mathlib.Data.String.Basic

namespace AgenticCommerce

open Relational

/-- `OfferConstraints`, with what `__post_init__` checks. -/
structure OfferConstraints where
  category : Option String := none
  maxPriceMinor : Option ℤ := none
  minMemoryGb : Option ℤ := none
  minStorageGb : Option ℤ := none
  maxDeliveryDays : Option ℤ := none
  quantity : ℤ := 1
  limit : ℤ := 10
  bounds_nonneg : ∀ bound ∈ [maxPriceMinor, minMemoryGb, minStorageGb, maxDeliveryDays].reduceOption,
    0 ≤ bound := by decide
  quantity_pos : 1 ≤ quantity := by decide

namespace OfferConstraints

/-- `MAX_SEARCH_LIMIT`. -/
def maxSearchLimit : ℤ := 50

/-- `MIN_SEARCH_LIMIT`. -/
def minSearchLimit : ℤ := 1

/-- `capped_limit`. -/
def cappedLimit (constraints : OfferConstraints) : ℕ :=
  (min (max constraints.limit minSearchLimit) maxSearchLimit).toNat

theorem cappedLimit_pos (constraints : OfferConstraints) : 1 ≤ constraints.cappedLimit := by
  unfold cappedLimit minSearchLimit maxSearchLimit
  omega

end OfferConstraints

/-- `OfferCandidate`. -/
structure OfferCandidate where
  offer : OfferV1
  categoryId : String
  title : String
  averageRating : ℚ
  ratingNumber : ℤ
  imageUrl : Option String
  specifications : Json
  deriving DecidableEq, Inhabited

/-! ### Categories -/

/-- `text.endswith(suffix)`. -/
def endsWith (text suffix : String) : Bool := suffix.toList.isSuffixOf text.toList

/-- `text[:-n]`. -/
def dropEnd (text : String) (n : ℕ) : String :=
  String.ofList (text.toList.take (text.toList.length - n))

/-- `normalize_category`, of a category. -/
def normalizeCategory (category : String) : String :=
  if category = "accessory" ∨ category = "computer_accessory" then "computer_accessory"
  else if endsWith category "ies" ∧ 3 < category.toList.length then dropEnd category 3 ++ "y"
  else if endsWith category "s" ∧ ¬endsWith category "ss" then dropEnd category 1
  else category

/-! ### The Python evaluator -/

/-- A lower bound on a specification; a missing one fails it. -/
def meets (bound value : Option ℤ) : Bool :=
  match bound, value with
  | none, _ => true
  | some _, none => false
  | some n, some m => decide (n ≤ m)

/-- An upper bound. -/
def within (bound : Option ℤ) (value : ℤ) : Bool := bound.all fun n => decide (value ≤ n)

/-- `normalize_category(candidate) == normalize_category(constraints)`, when there is a
category to ask for. -/
def sameCategory (category : Option String) (categoryId : String) : Bool :=
  category.all fun asked => normalizeCategory categoryId == normalizeCategory asked

/-- `offer_matches`. -/
def offerMatches (candidate : OfferCandidate) (constraints : OfferConstraints) (now : Time) : Bool :=
  candidate.offer.status == .active &&
  decide (now < candidate.offer.expiresAt) &&
  decide (constraints.quantity ≤ candidate.offer.availableQuantity) &&
  sameCategory constraints.category candidate.categoryId &&
  within constraints.maxPriceMinor candidate.offer.unitPriceMinor &&
  within constraints.maxDeliveryDays candidate.offer.deliveryDays &&
  meets constraints.minMemoryGb candidate.offer.specifications.memoryGb &&
  meets constraints.minStorageGb candidate.offer.specifications.storageGb

/-- What results are ordered by. -/
abbrev RankingKey := ℤ ×ₗ ℚ ×ₗ ℤ ×ₗ ℤ ×ₗ String

/-- `ranking_key`. -/
def rankingKey (candidate : OfferCandidate) : RankingKey :=
  toLex (candidate.offer.unitPriceMinor, toLex (candidate.averageRating,
    toLex (candidate.offer.deliveryDays, toLex (candidate.offer.returnPeriodDays,
      candidate.offer.offerId))))

/-- `apply_constraints`. -/
def applyConstraints (candidates : List OfferCandidate) (constraints : OfferConstraints)
    (now : Time) : List OfferCandidate :=
  (ranked rankingKey (candidates.filter fun c => offerMatches c constraints now)).take
    constraints.cappedLimit

/-! ### The SQL evaluator -/

/-- A row of the search: an offer with its product, its stock and its primary image. -/
structure SearchRow where
  offer : Offer
  product : Product
  inventory : Inventory
  imageUrl : Option String
  deriving DecidableEq, Inhabited

/-- `CAST(specifications ->> key AS INTEGER)`: `none` where it raises, `some none` for `NULL`. -/
def castInteger (reading : Reading) (specifications : Json) (key : String) : Option (Option ℤ) :=
  match specifications with
  | .obj items => match Json.lookup items key with
      | none | some .null => some none
      | some (.bool b) => (reading.sqlInteger (if b then "true" else "false")).map some
      | some (.int n) => (reading.sqlInteger (toString n)).map some
      | some (.float r) => (reading.sqlInteger r).map some
      | some (.str s) => (reading.sqlInteger s).map some
      | some (.arr _) | some (.obj _) => none
  | _ => some none

/-- The spellings `sql_predicates` searches a category under; `none` without a clause. -/
def categorySpellings (raw : String) : Option (List String) :=
  if raw = "" then none
  else if normalizeCategory raw = "computer_accessory" then
    some ["accessory", "computer_accessory"]
  else if normalizeCategory raw = "" then none
  else some (if normalizeCategory raw = raw then [normalizeCategory raw]
    else [normalizeCategory raw, raw])

/-- The category clause. -/
def inCategory (category : Option String) (categoryId : String) : Bool :=
  (category.bind categorySpellings).all fun spellings => spellings.contains categoryId

/-- `sql_predicates`; an absent filter adds a clause that holds. -/
def sqlPredicates (reading : Reading) (constraints : OfferConstraints) (now : Time)
    (row : SearchRow) : List Verdict :=
  let specified := fun key bound => bound.elim Verdict.holds fun n =>
    .atLeast n (castInteger reading row.product.specifications key)
  [.ofBool (row.offer.status == .active),
    .ofBool (decide (now < row.offer.expiresAt)),
    .ofBool (decide (constraints.quantity ≤
      row.inventory.availableQuantity - row.inventory.reservedQuantity)),
    .ofBool (inCategory constraints.category row.product.categoryId),
    .ofBool (within constraints.maxPriceMinor row.offer.unitPriceMinor),
    .ofBool (within constraints.maxDeliveryDays row.offer.deliveryDays),
    specified "memory_gb" constraints.minMemoryGb,
    specified "storage_gb" constraints.minStorageGb]

/-- `sql_ordering`. -/
def sqlOrdering (row : SearchRow) : RankingKey :=
  toLex (row.offer.unitPriceMinor, toLex (row.product.averageRating,
    toLex (row.offer.deliveryDays, toLex (row.offer.returnPeriodDays, row.offer.offerId))))

namespace Database

/-- The correlated subquery of the primary image. -/
def primaryImage (db : Database) (productId : String) : Option String :=
  ((ranked (fun i : ProductImage => (toLex (i.position, i.productImageId) : ℤ ×ₗ String))
    (db.productImages.select fun i => i.productId == productId)).head?).map ProductImage.sourceUrl

/-- An offer joined with its product and its stock. -/
def joined (db : Database) (offer : Offer) : Option SearchRow := do
  let product ← db.products.first fun p => p.productId == offer.productId
  let inventory ← db.inventory.first fun i => i.offerId == offer.offerId
  pure { offer, product, inventory, imageUrl := db.primaryImage offer.productId }

/-- The rows a merchant's search is over. -/
def searchRows (db : Database) (merchantId : String) : List SearchRow :=
  (db.offers.select fun o => o.merchantId == merchantId).filterMap db.joined

/-- `OfferRepository.search_offers`, `none` where the statement raises. -/
def searchOffers (reading : Reading) (merchantId : String) (constraints : OfferConstraints)
    (now : Time) (db : Database) : Option (List SearchRow) :=
  (filtered (fun row => .all (sqlPredicates reading constraints now row))
    (db.searchRows merchantId)).map fun rows =>
      (ranked sqlOrdering rows).take constraints.cappedLimit

end Database

/-- `_candidate_of`, `none` where the projection raises. -/
def candidateOf (reading : Reading) (row : SearchRow) : Option OfferCandidate :=
  (offerToSchema reading row.offer row.product row.inventory).map fun offer =>
    { offer, categoryId := row.product.categoryId, title := row.product.title,
      averageRating := row.product.averageRating, ratingNumber := row.product.ratingNumber,
      imageUrl := row.imageUrl, specifications := row.product.specifications.orElse (.obj []) }

end AgenticCommerce
