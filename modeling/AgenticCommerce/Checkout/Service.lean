/-
# The checkout service

`services/checkout/service.py`, with the arithmetic of `packages/money`.  A checkout freezes its price: the total
comes from the live offer, and the snapshot of the price-determining factors and
its digest are stored with it.  The hold is taken after the row is stored, and a
cancellation changes the status before it releases the hold, so that an illegal
cancellation leaves the hold alone.
-/

import AgenticCommerce.Inventory.Service
import AgenticCommerce.Offers.Service

namespace AgenticCommerce

open Relational

/-- `PriceBreakdownV1`. -/
structure PriceBreakdownV1 where
  unitPriceMinor : ℤ
  quantity : ℤ
  subtotalMinor : ℤ
  shippingMinor : ℤ
  taxMinor : ℤ
  discountMinor : ℤ
  totalMinor : ℤ
  currency : CurrencyCode
  deriving DecidableEq

/-- `CheckoutV1`. -/
structure CheckoutV1 where
  checkoutId : String
  buyerId : String
  merchantId : String
  offerId : String
  offerVersion : ℤ
  productId : String
  status : CheckoutStatus
  pricing : PriceBreakdownV1
  priceHash : String
  expiresAt : Time
  deriving DecidableEq

namespace Checkout

/-- `_checkout_to_schema`. -/
def toSchema (checkout : Checkout) (quantity : ℤ) : CheckoutV1 :=
  { checkoutId := checkout.checkoutId, buyerId := checkout.buyerId,
    merchantId := checkout.merchantId, offerId := checkout.offerId,
    offerVersion := checkout.offerVersion, productId := checkout.productId,
    status := checkout.status,
    pricing :=
      { unitPriceMinor := checkout.priceSnapshot.unitPriceMinor, quantity,
        subtotalMinor := checkout.subtotalMinor, shippingMinor := checkout.shippingMinor,
        taxMinor := checkout.taxMinor, discountMinor := checkout.discountMinor,
        totalMinor := checkout.totalMinor, currency := checkout.currency },
    priceHash := checkout.priceHash, expiresAt := checkout.expiresAt }

/-- `multiply_minor_units`, for a quantity that is at least one. -/
def multiplyMinorUnits (unitAmountMinor quantity : ℤ) : ℤ := unitAmountMinor * quantity

/-- `calculate_total_minor`. -/
def calculateTotalMinor (unitPriceMinor quantity shippingMinor taxMinor discountMinor : ℤ) : ℤ :=
  multiplyMinorUnits unitPriceMinor quantity + shippingMinor + taxMinor - discountMinor

/-- The frozen factors of a checkout of `quantity` of an offer. -/
def snapshotOf (offer : OfferV1) (offerId : String) (quantity : ℤ) (expiresAt : Time) :
    PriceSnapshot :=
  { offerId, offerVersion := offer.offerVersion, unitPriceMinor := offer.unitPriceMinor, quantity,
    shippingMinor := 0, taxMinor := 0, discountMinor := 0, currency := offer.currency.value,
    expiresAt }

/-- The row of a new checkout. -/
def rowOf (env : Env) (offer : OfferV1) (buyerId merchantId offerId : String) (quantity : ℤ)
    (expiresAt : Time) : Checkout :=
  let snapshot := snapshotOf offer offerId quantity expiresAt
  { checkoutId := env.newId "chk", buyerId, merchantId, offerId,
    offerVersion := offer.offerVersion, status := .created,
    subtotalMinor := multiplyMinorUnits offer.unitPriceMinor quantity,
    totalMinor := calculateTotalMinor offer.unitPriceMinor quantity 0 0 0,
    currency := offer.currency, priceHash := env.priceHash snapshot, priceSnapshot := snapshot,
    productId := offer.productId, expiresAt, createdAt := env.now }

/-- `_ensure_buyer`. -/
def ensureBuyer (buyerId merchantId : String) : Op Unit := do
  let found ← query fun db => db.buyers.first fun b => b.buyerId == buyerId
  match found with
  | some _ => pure ()
  | none =>
      insert fun db => (db.buyers.insert? { buyerId, tenantId := merchantId }).map fun buyers =>
        { db with buyers }
      flush

/-- `CheckoutService.create_checkout`. -/
def createCheckout (env : Env) (buyerId merchantId offerId : String) (quantity : ℤ := 1)
    (ttlMinutes : ℤ := 15) : Op CheckoutV1 := do
  let offer ← getOfferById env merchantId offerId
  raiseIf (offer.status ≠ .active)
    (.raised "The selected offer is no longer valid." .offerExpired)
  raiseIf (offer.expiresAt ≤ env.now)
    (.raised "The selected offer is no longer valid." .offerExpired)
  raiseIf (quantity < 1) (.exception "quantity must be at least one")
  let checkout := rowOf env offer buyerId merchantId offerId quantity
    (env.now + minutes ttlMinutes)
  ensureBuyer buyerId merchantId
  insert fun db => (db.checkouts.insert? checkout).map fun checkouts => { db with checkouts }
  insert fun db => (db.checkoutItems.insert?
    { checkoutItemId := env.newId "cki", checkoutId := checkout.checkoutId, offerId, quantity,
      unitPriceMinor := offer.unitPriceMinor, totalMinor := checkout.subtotalMinor }).map
        fun checkoutItems => { db with checkoutItems }
  flush
  let _ ← Inventory.reserveStock env offerId checkout.checkoutId quantity
  appendEvent
    { merchantId := some merchantId, actorType := "buyer", actorId := some buyerId,
      eventType := "CHECKOUT_CREATED", aggregateType := "checkout",
      aggregateId := checkout.checkoutId, amountMinor := some checkout.totalMinor,
      metadata := [("offer_id", .str offerId), ("quantity", .int quantity),
        ("total_minor", .int checkout.totalMinor), ("price_hash", .str checkout.priceHash)] }
  pure (checkout.toSchema quantity)

/-- The quantity of a checkout's item. -/
def quantityOf (checkoutId : String) (db : Database) : ℤ :=
  (db.checkoutItems.first fun i => i.checkoutId == checkoutId).elim 1 CheckoutItem.quantity

/-- `CheckoutService.cancel_checkout`. -/
def cancelCheckout (env : Env) (buyerId merchantId checkoutId : String) : Op CheckoutV1 := do
  let missing : Failure := .raised "The requested checkout does not exist." .notFound
  let _ ← require (fun db => db.checkoutOf merchantId buyerId checkoutId) missing
  let checkout ← require (fun db => db.checkoutById checkoutId) missing
  if checkout.status = .cancelled ∨ checkout.status = .expired then
    let quantity ← query (quantityOf checkoutId)
    pure (checkout.toSchema quantity)
  else
    transition (.checkout checkout) .cancelCheckout
      { actorType := "buyer", actorId := some buyerId, merchantId := some merchantId,
        now := env.now }
    Inventory.releaseStock env checkoutId (some merchantId)
    flush
    let quantity ← query (quantityOf checkoutId)
    let updated ← require (fun db => db.checkoutById checkoutId) missing
    pure (updated.toSchema quantity)

end Checkout
end AgenticCommerce
