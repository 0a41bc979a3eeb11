/-
# Cross-sell recommendations

`CrossSellEngine` of `services/catalog/cross_sell.py` and `get_cross_sell_recommendations` of
`services/recommendations/service.py`, on a session whose queries do not fail; the sample items
of a call without one, the averages and the logging are left out.  The engine looks at the first
pairings the database returns, and of each at the first product of its target category and the
first active offer of that product.  The service goes on with the accessories that the model
suggests, whatever they are.
-/

import AgenticCommerce.Checkout.Service
import AgenticCommerce.Relational.Gathering
import AgenticCommerce.Relational.Ranking
import Mathlib.Data.String.Basic

namespace AgenticCommerce
namespace Recommendations

open Relational

/-! ### The engine -/

structure CategoryPairing where
  pairingId : String
  merchantId : String
  sourceCategoryId : String
  targetCategoryId : String
  enabled : Bool := true
  deriving DecidableEq

instance : Keyed CategoryPairing := keyedBy CategoryPairing.pairingId

structure CrossSellRecommendation where
  pairingId : String
  targetProductId : String
  targetTitle : String
  targetCategory : String
  targetUnitPriceMinor : ℤ
  currency : String
  offerId : String
  availableQuantity : ℤ
  rationale : String
  deriving DecidableEq

/-- The first product of a category. -/
def firstProduct (db : Database) (merchantId categoryId : String) : Option Product :=
  (ranked Product.productId (db.products.select fun p =>
    p.merchantId == merchantId && p.categoryId == categoryId)).head?

/-- The first active offer of a product. -/
def activeOffer (db : Database) (merchantId productId : String) : Option Offer :=
  (ranked Offer.offerId (db.offers.select fun o =>
    o.productId == productId && o.merchantId == merchantId && o.status == .active)).head?

/-- What is left of an offer, nothing where its stock is not recorded. -/
def netAvailable (db : Database) (offerId : String) : ℤ :=
  ((db.inventory.first fun i => i.offerId == offerId).map fun i =>
    i.availableQuantity - i.reservedQuantity).getD 0

/-- The enabled pairings of a category. -/
def enabledPairings (pairings : Table CategoryPairing) (merchantId sourceCategory : String) :
    List CategoryPairing :=
  pairings.select fun p =>
    p.merchantId == merchantId && p.sourceCategoryId == sourceCategory && p.enabled

/-- The recommendation of an offer of a product. -/
def recommended (sourceCategory : String) (p : CategoryPairing) (product : Product) (offer : Offer)
    (available : ℤ) : CrossSellRecommendation where
  pairingId := p.pairingId
  targetProductId := product.productId
  targetTitle := product.title
  targetCategory := product.categoryId
  targetUnitPriceMinor := offer.unitPriceMinor
  currency := offer.currency
  offerId := offer.offerId
  availableQuantity := available
  rationale := "Popular complementary " ++ product.categoryId ++ " for " ++ sourceCategory ++ "."

/-- The recommendation of a pairing, if any. -/
def recommendationOf (db : Database) (merchantId sourceCategory : String) (p : CategoryPairing) :
    Option CrossSellRecommendation := do
  let product ← firstProduct db merchantId p.targetCategoryId
  let offer ← activeOffer db merchantId product.productId
  let available := netAvailable db offer.offerId
  if available ≤ 0 then none else some (recommended sourceCategory p product offer available)

/-- `CrossSellEngine.get_recommendations_for_product`. -/
def getRecommendationsForProduct (db : Database) (pairings : Table CategoryPairing)
    (merchantId sourceCategory : String) (limit : ℕ) : List CrossSellRecommendation :=
  ((enabledPairings pairings merchantId sourceCategory).take limit).filterMap
    (recommendationOf db merchantId sourceCategory)

/-! ### The service -/

structure CrossSellItem where
  productId : String
  offerId : String
  title : String
  category : String
  priceMinor : ℤ
  currency : String
  compatibilityReason : Json
  availableQuantity : ℤ
  savingsMinor : Json := .null
  alternativeTitle : Json := .null

/-- What Python and the database make of texts and of values. -/
structure Matching where
  /-- `text.lower()`. -/
  lower : String → String
  /-- `str(value)` of a list or a dict. -/
  repr : Json → String
  /-- `column ILIKE pattern`. -/
  ilike : (pattern column : String) → Bool
  /-- `column = value`, of a value that is no text: the query may fail. -/
  equals : Json → Option (String → Bool)

/-- An accessory, as the model suggests it. -/
def accessory (keyword reason : String) (more : List (String × Json)) : Json :=
  .obj ([("keyword", .str keyword), ("category", .str "accessories"), ("reason", .str reason)] ++
    more)

/-- `HEURISTIC_ACCESSORY_PATTERNS`. -/
def heuristicAccessoryPatterns : List (String × List Json) :=
  [("laptops",
      [accessory "mouse"
        "High-precision ergonomic wireless mouse for extended productivity sessions."
        [("savings_minor", .int 20000),
          ("alternative", .str "Rapoo M100 Multi-Mode Silent Mouse")],
      accessory "sleeve"
        "Water-resistant shock-absorbing sleeve tailored for daily commute protection." [],
      accessory "hub"
        "Expands limited Thunderbolt/Type-C ports with 4K HDMI and legacy USB-A support." []]),
    ("monitors",
      [accessory "cable" "Supports full 4K 120Hz / 8K 60Hz uncompressed HDR video transmission." [],
      accessory "arm"
        "Reclaims desk space with full 360-degree rotation and vertical height adjustments." []]),
    ("phones",
      [accessory "adapter"
        "Fast USB-C power delivery charger (adapter not included in phone box)." [],
      accessory "case"
        "Military-grade drop protection with hands-free landscape viewing stand." []]),
    ("audio",
      [accessory "stand" "Preserves headband cushioning shape and organizes workspace cables." []]),
    ("keyboards",
      [accessory "wrist_rest"
        "Elevates wrist posture to reduce strain during extended typing sessions." []])]

section

variable (matching : Matching) (db : Database) (merchantId : String)

/-- `_get_ai_accessory_suggestions`: what the model suggests, or else the patterns of the
category. -/
def accessorySuggestions (model : Option (List Json)) (product : Product) : List Json :=
  let patterns key := (heuristicAccessoryPatterns.find? fun row => row.1 == key).map Prod.snd
  model.getD ((patterns (matching.lower product.categoryId)).getD ((patterns "laptops").getD []))

/-- The price of an offer is over a budget; no budget and one of zero are over none. -/
def overBudget (budgetLimitMinor : Option ℤ) (price : ℤ) : Bool :=
  budgetLimitMinor.any fun limit => limit != 0 && decide (limit < price)

/-- `seen_product_ids`: the product itself and what is recommended with it already. -/
def seen (targetProductId : String) (items : List CrossSellItem) : List String :=
  targetProductId :: items.map CrossSellItem.productId

/-- What a curated pairing adds. -/
def curatedItem (targetProductId : String) (budgetLimitMinor : Option ℤ)
    (items : List CrossSellItem) (r : CrossSellRecommendation) : Option CrossSellItem :=
  if r.targetProductId ∈ seen targetProductId items then none
  else if overBudget budgetLimitMinor r.targetUnitPriceMinor then none
  else some
    { productId := r.targetProductId, offerId := r.offerId, title := r.targetTitle,
      category := r.targetCategory, priceMinor := r.targetUnitPriceMinor, currency := r.currency,
      compatibilityReason := .str r.rationale, availableQuantity := r.availableQuantity }

/-- `column = value`. -/
def isValue : Json → Option (String → Bool)
  | .str text => some (· == text)
  | value => matching.equals value

/-- `column.ilike(f"%{value}%")`. -/
def containsValue (value : Json) (column : String) : Bool :=
  matching.ilike ("%" ++ value.toStr matching.repr ++ "%") column

/-- The products that a suggestion may be about: by its keyword, or by its category without one,
or else by what the category contains. -/
def accessoryCandidates (exclude : List String) (keyword category : Json) : Option (List Product) :=
  let base := ranked Product.productId (db.products.select fun p =>
    p.merchantId == merchantId && !exclude.contains p.productId)
  let found := if keyword.truthy then
      some (base.filter fun p => containsValue matching keyword p.title)
    else (isValue matching category).map fun same => base.filter fun p => same p.categoryId
  found.map fun found =>
    if found = [] then base.filter fun p => containsValue matching category p.categoryId else found

/-- `_resolve_accessory_to_real_catalog_product`: the first candidate whose first active offer has
stock, with that offer. -/
def resolveAccessory (exclude : List String) (keyword category : Json) :
    Option (Option (Product × Offer)) :=
  (accessoryCandidates matching db merchantId exclude keyword category).map fun candidates =>
    candidates.findSome? fun candidate => do
      let offer ← activeOffer db merchantId candidate.productId
      if 0 < netAvailable db offer.offerId then some (candidate, offer) else none

/-- What a suggestion adds, where there are less than three items; one that is no dict raises. -/
def suggestedItem (target : Product) (budgetLimitMinor : Option ℤ) (items : List CrossSellItem)
    (suggestion : Json) : Option (Option CrossSellItem) :=
  if 3 ≤ items.length then some none
  else do
    let keyword ← suggestion.get "keyword" (.str "")
    let category ← suggestion.get "category" (.str "accessories")
    let reason ← suggestion.get "reason" (.str ("Compatible accessory for " ++ target.title))
    let savings ← suggestion.get "savings_minor" .null
    let alternative ← suggestion.get "alternative" .null
    let resolved ← resolveAccessory matching db merchantId (seen target.productId items) keyword
      category
    pure (resolved.bind fun (product, offer) =>
      if overBudget budgetLimitMinor offer.unitPriceMinor then none
      else some
        { productId := product.productId, offerId := offer.offerId, title := product.title,
          category := product.categoryId, priceMinor := offer.unitPriceMinor,
          currency := offer.currency, compatibilityReason := reason,
          availableQuantity := netAvailable db offer.offerId, savingsMinor := savings,
          alternativeTitle := alternative })

/-- The recommendations of `get_cross_sell_recommendations`; `none` where it raises. -/
def getCrossSellRecommendations (pairings : Table CategoryPairing) (targetProductId : String)
    (budgetLimitMinor : Option ℤ) (model : Option (List Json)) : Option (List CrossSellItem) :=
  match db.products.first fun p =>
      p.productId == targetProductId && p.merchantId == merchantId with
  | none => some []
  | some target => do
      let curated ← gather
        (fun items r => some (curatedItem targetProductId budgetLimitMinor items r)) []
        (getRecommendationsForProduct db pairings merchantId target.categoryId 3)
      gather (suggestedItem matching db merchantId target budgetLimitMinor) curated
        (accessorySuggestions matching model target)

end

end Recommendations
end AgenticCommerce
