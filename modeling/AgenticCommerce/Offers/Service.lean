/-
# The offer service

`get_offer_by_id` of `services/offers/service.py`, with the projection of an offer, its
product and its stock onto the public schema.  The specifications of a product are what was
imported, so the projection reads six of them as whole numbers, from texts too, and raises on
anything else (`coerceIntegral`).

The timestamp of the schema is read back as the instant it was written from.
-/

import AgenticCommerce.Session

namespace AgenticCommerce

open Relational

/-- A whole number that is not negative. -/
def wholeNonNegative (q : ℚ) : Option ℤ := if q.den = 1 ∧ 0 ≤ q.num then some q.num else none

/-- `ProductSpecificationsV1._coerce_integral_values` and the validation after it, `none` where
it raises. -/
def coerceIntegral (reading : Reading) : Json → Option (Option ℤ)
  | .null => some none
  | .int n => if 0 ≤ n then some (some n) else none
  | .float r => ((reading.float r).bind wholeNonNegative).map some
  | .str s =>
      if reading.strip s = "" then some none
      else ((reading.float (reading.strip s)).bind wholeNonNegative).map some
  | .bool _ | .arr _ | .obj _ => none

/-- `ProductSpecificationsV1`. -/
structure ProductSpecificationsV1 where
  memoryGb : Option ℤ
  storageGb : Option ℤ
  weightGrams : Option ℤ
  lengthMm : Option ℤ
  widthMm : Option ℤ
  heightMm : Option ℤ
  deriving DecidableEq, Inhabited

/-- `(product.specifications or {}).get(key)`; only a dict has the method. -/
def Product.specification (product : Product) (key : String) : Option Json :=
  (product.specifications.orElse (.obj [])).get key .null

/-- The specifications of a product in the public schema. -/
def specificationsToSchema (reading : Reading) (product : Product) :
    Option ProductSpecificationsV1 := do
  let read := fun key => (product.specification key).bind (coerceIntegral reading)
  pure
    { memoryGb := ← read "memory_gb", storageGb := ← read "storage_gb",
      weightGrams := ← read "weight_grams", lengthMm := ← read "length_mm",
      widthMm := ← read "width_mm", heightMm := ← read "height_mm" }

/-- `OfferV1`: an offer that passed validation, so its price is no negative number
and its currency is a supported one. -/
structure OfferV1 where
  offerId : String
  productId : String
  merchantId : String
  status : OfferStatus
  unitPriceMinor : ℤ
  currency : CurrencyCode
  availableQuantity : ℤ
  deliveryDays : ℤ
  returnPeriodDays : ℤ
  expiresAt : Time
  offerVersion : ℤ
  pricingSource : String
  specifications : ProductSpecificationsV1
  deriving DecidableEq, Inhabited

/-- The values of `OfferV1.pricing_source`. -/
def pricingSources : List String :=
  ["synthetic_band_random", "merchant_configured", "amazon_reviews_2023_usd_fx_100"]

/-- The numbers of an offer are in the ranges of `OfferV1`, and its source is a known one. -/
def Offer.WellFormed (offer : Offer) : Prop :=
  0 ≤ offer.unitPriceMinor ∧ 0 ≤ offer.deliveryDays ∧ 0 ≤ offer.returnPeriodDays ∧
    1 ≤ offer.offerVersion ∧ offer.pricingSource ∈ pricingSources

instance (offer : Offer) : Decidable offer.WellFormed :=
  inferInstanceAs (Decidable (_ ∧ _ ∧ _ ∧ _ ∧ _))

/-- `_offer_to_schema`, `none` where validation fails. -/
def offerToSchema (reading : Reading) (offer : Offer) (product : Product)
    (inventory : Inventory) : Option OfferV1 := do
  let specifications ← specificationsToSchema reading product
  let currency ← CurrencyCode.ofString? offer.currency
  if offer.WellFormed then
    some
      { offerId := offer.offerId, productId := offer.productId, merchantId := offer.merchantId,
        status := offer.status, unitPriceMinor := offer.unitPriceMinor, currency,
        availableQuantity := max 0 (inventory.availableQuantity - inventory.reservedQuantity),
        deliveryDays := offer.deliveryDays, returnPeriodDays := offer.returnPeriodDays,
        expiresAt := offer.expiresAt, offerVersion := offer.offerVersion,
        pricingSource := offer.pricingSource, specifications }
  else none

/-- **What the projection takes over from the offer's row.** -/
theorem offerToSchema_eq_some {reading : Reading} {offer : Offer} {product : Product}
    {inventory : Inventory} {v : OfferV1} :
    offerToSchema reading offer product inventory = some v ↔
      ∃ specifications currency, specificationsToSchema reading product = some specifications ∧
        CurrencyCode.ofString? offer.currency = some currency ∧ offer.WellFormed ∧
        v = { offerId := offer.offerId, productId := offer.productId,
              merchantId := offer.merchantId, status := offer.status,
              unitPriceMinor := offer.unitPriceMinor, currency,
              availableQuantity := max 0 (inventory.availableQuantity - inventory.reservedQuantity),
              deliveryDays := offer.deliveryDays, returnPeriodDays := offer.returnPeriodDays,
              expiresAt := offer.expiresAt, offerVersion := offer.offerVersion,
              pricingSource := offer.pricingSource, specifications } := by
  simp only [offerToSchema, Option.bind_eq_bind, Option.bind_eq_some_iff,
    Option.ite_none_right_eq_some, Option.some.injEq, exists_and_left, eq_comm (b := v)]

/-- `OfferService.get_offer_by_id`. -/
def getOfferById (env : Env) (merchantId offerId : String) : Op OfferV1 := do
  let missing : Failure := .raised "The requested offer does not exist." .offerNotFound
  let offer ← require
    (fun db => db.offers.first fun o => o.offerId == offerId && o.merchantId == merchantId) missing
  let product ← require (fun db => db.products.first fun p => p.productId == offer.productId)
    missing
  let inventory ← require (fun db => db.inventory.first fun i => i.offerId == offer.offerId)
    missing
  ofAnswer ((offerToSchema env.reading offer product inventory).elim
    (.error (.exception "OfferV1 validation failed")) .ok)

end AgenticCommerce
