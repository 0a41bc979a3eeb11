/-
# The commerce tables

The ORM models of `services/*/models.py` under the constraints of the first
migration: a status column is an enumeration of the values its `CHECK` admits,
and the key columns of a row are those of its `PRIMARY KEY` and `UNIQUE`
constraints.  A checkout, an authorization, a payment and an order take their
currency from a validated offer, so it is one of the two `CurrencyCode`s; an
offer row's own currency is free text.

Three constraints are not fields of a table.  The `UNIQUE` columns of a payment
that hold the provider's identifiers are filled in after the row is inserted, and
such an update is only checked when it is flushed (`Database.flushable`); the same
goes for the version and the external identifier of a product.  The
`CHECK`s on the inventory counters are left to the code that maintains them.
Columns that no service reads back (display names, the stamps of rows that
nothing sorts by) are left out.
-/

import AgenticCommerce.Json
import AgenticCommerce.Relational.Table
import Mathlib.Data.Rat.Defs

namespace AgenticCommerce

open Relational

/-- An instant, in microseconds. -/
abbrev Time := ℤ

/-- `timedelta(minutes=n)`. -/
def minutes (n : ℤ) : ℤ := n * 60000000

/-! ### Status columns -/

/-- `offer.status`. -/
inductive OfferStatus where
  | active | inactive | expired | needsReview
  deriving DecidableEq, Inhabited, Repr

/-- `product.status`. -/
inductive ProductStatus where
  | valid | needsReview | inactive
  deriving DecidableEq, Inhabited, Repr

/-- `catalog_version.status`. -/
inductive CatalogVersionStatus where
  | draft | validating | published | superseded
  deriving DecidableEq, Repr

/-- `import_run.status`. -/
inductive ImportRunStatus where
  | running | completed | failed
  deriving DecidableEq, Repr

/-- `checkout.status`. -/
inductive CheckoutStatus where
  | created | policyChecked | authorizationPending | authorized | cancelled | expired
  | priceChanged | inventoryChanged | completed | paymentFailed | policyBlocked
  deriving DecidableEq, Repr

/-- `reservation.status`. -/
inductive ReservationStatus where
  | held | released | committed
  deriving DecidableEq, Repr

/-- `authorization.status`. -/
inductive AuthorizationStatus where
  | pending | approved | rejected | revoked | consumed | expired
  deriving DecidableEq, Repr

/-- `payment.status`. -/
inductive PaymentStatus where
  | created | pending | verified | failed | timeout | unknown | manualReview
  deriving DecidableEq, Repr

/-- `order.status`. -/
inductive OrderStatus where
  | confirmed | completed | cancelled
  deriving DecidableEq, Repr

/-- `idempotency_record.status`. -/
inductive IdempotencyStatus where
  | inProgress | completed | failed
  deriving DecidableEq, Repr

/-- `provider_event.status`. -/
inductive ProviderEventStatus where
  | received | processed | ignored | unmatched
  deriving DecidableEq, Repr

/-- `failed_webhook.status`. -/
inductive FailedWebhookStatus where
  | pending | resolved
  deriving DecidableEq, Repr

/-- `CurrencyCode`. -/
inductive CurrencyCode where
  | inr | usd
  deriving DecidableEq, Inhabited, Repr

namespace OfferStatus

def value : OfferStatus → String
  | active => "active"
  | inactive => "inactive"
  | expired => "expired"
  | needsReview => "needs_review"

/-- The status a text spells, which is what the column admits. -/
def ofString? : String → Option OfferStatus
  | "active" => some active
  | "inactive" => some inactive
  | "expired" => some expired
  | "needs_review" => some needsReview
  | _ => none

end OfferStatus

namespace CheckoutStatus

def value : CheckoutStatus → String
  | created => "created"
  | policyChecked => "policy_checked"
  | authorizationPending => "authorization_pending"
  | authorized => "authorized"
  | cancelled => "cancelled"
  | expired => "expired"
  | priceChanged => "price_changed"
  | inventoryChanged => "inventory_changed"
  | completed => "completed"
  | paymentFailed => "payment_failed"
  | policyBlocked => "policy_blocked"

end CheckoutStatus

namespace ReservationStatus

def value : ReservationStatus → String
  | held => "held"
  | released => "released"
  | committed => "committed"

end ReservationStatus

namespace AuthorizationStatus

def value : AuthorizationStatus → String
  | pending => "pending"
  | approved => "approved"
  | rejected => "rejected"
  | revoked => "revoked"
  | consumed => "consumed"
  | expired => "expired"

end AuthorizationStatus

namespace PaymentStatus

def value : PaymentStatus → String
  | created => "created"
  | pending => "pending"
  | verified => "verified"
  | failed => "failed"
  | timeout => "timeout"
  | unknown => "unknown"
  | manualReview => "manual_review"

end PaymentStatus

namespace CurrencyCode

def value : CurrencyCode → String
  | inr => "INR"
  | usd => "USD"

/-- The code a text spells, which is what validation admits. -/
def ofString? (s : String) : Option CurrencyCode :=
  if s = "INR" then some inr else if s = "USD" then some usd else none

theorem value_of_ofString? {s : String} {c : CurrencyCode} (h : ofString? s = some c) :
    c.value = s := by
  unfold ofString? at h
  split at h
  · rename_i hs; obtain rfl := Option.some.inj h; exact hs.symm
  · split at h
    · rename_i hs; obtain rfl := Option.some.inj h; exact hs.symm
    · exact nomatch h

end CurrencyCode

/-- `str.upper` of a letter whose capital is an ASCII letter; every other
character is kept, which no comparison with an ASCII code can tell. -/
def upperChar (c : Char) : Char :=
  if c = 'ı' then 'I' else if c = 'ſ' then 'S' else c.toUpper

/-- `x.upper() == y`, for a currency code `y`. -/
def sameCurrency (text : String) (currency : CurrencyCode) : Bool :=
  text.toList.map upperChar == currency.value.toList

/-! ### Catalog, inventory and policy rows -/

structure ImportRun where
  importRunId : String
  merchantId : String
  sourceChecksum : String
  status : ImportRunStatus := .running
  deriving DecidableEq

structure CatalogVersion where
  catalogVersionId : String
  merchantId : String
  importRunId : Option String
  status : CatalogVersionStatus := .draft
  productCount : ℤ := 0
  validCount : ℤ := 0
  needsReviewCount : ℤ := 0
  deriving DecidableEq

structure Offer where
  offerId : String
  catalogVersionId : String := ""
  productId : String
  variantId : Option String := none
  merchantId : String
  status : OfferStatus := .active
  unitPriceMinor : ℤ
  currency : String := "INR"
  deliveryDays : ℤ := 3
  returnPeriodDays : ℤ := 14
  pricingSource : String := "synthetic_band_random"
  offerVersion : ℤ := 1
  expiresAt : Time
  deriving DecidableEq, Inhabited

/-- A rating is a finite number. -/
structure Product where
  productId : String
  catalogVersionId : String := ""
  merchantId : String := ""
  externalProductId : String := ""
  categoryId : String
  title : String := ""
  status : ProductStatus := .valid
  description : Json := .arr []
  specifications : Json := .obj []
  averageRating : ℚ := 0
  ratingNumber : ℤ := 0
  deriving DecidableEq, Inhabited

/-- `catalog_import.status`. -/
inductive CatalogImportStatus where
  | pending | valid | invalid | published
  deriving DecidableEq, Repr

structure CatalogImport where
  importId : String
  merchantId : String
  status : CatalogImportStatus := .pending
  publishedCatalogVersionId : Option String := none
  totalRows : ℤ := 0
  validRows : ℤ := 0
  invalidRows : ℤ := 0
  errorSummary : Option String := none
  deriving DecidableEq

structure CatalogImportRow where
  rowId : String
  importId : String
  rowNumber : ℤ
  sku : Option String := none
  title : Option String := none
  description : Option String := none
  priceMinor : Option ℤ := none
  currency : Option String := none
  inventory : Option ℤ := none
  status : Option String := none
  imageUrl : Option String := none
  category : Option String := none
  isValid : Bool := true
  deliveryDays : Option ℤ := none
  returnPeriodDays : Option ℤ := none
  offerId : Option String := none
  /-- The error of each field that has one, once the row was validated. -/
  validationErrors : Option (List (String × String)) := none
  deriving DecidableEq

structure ProductImage where
  productImageId : String
  productId : String
  sourceUrl : String
  storageKey : String := ""
  position : ℤ := 0
  deriving DecidableEq

structure Inventory where
  offerId : String
  availableQuantity : ℤ
  reservedQuantity : ℤ := 0
  version : ℤ := 1
  deriving DecidableEq, Inhabited

structure Reservation where
  reservationId : String
  checkoutId : String
  offerId : String
  quantity : ℤ
  status : ReservationStatus
  createdAt : Time
  releasedAt : Option Time := none
  committedAt : Option Time := none
  deriving DecidableEq

structure Buyer where
  buyerId : String
  tenantId : String
  deriving DecidableEq

structure MerchantRules where
  merchantId : String
  version : String
  maxTransactionMinor : ℤ
  autoApprovalLimitMinor : ℤ
  maxDiscountBasisPoints : ℤ := 10000
  allowedCategories : List String := []
  blockedCategories : List String := []
  allowedPaymentMethods : List String := ["card", "upi", "netbanking"]
  allowOutOfStock : Bool := false
  deriving DecidableEq

structure BuyerPolicy where
  buyerId : String
  version : String
  maxTransactionMinor : ℤ
  autoApprovalLimitMinor : ℤ
  allowedMerchants : List String := []
  allowedCategories : List String := []
  deriving DecidableEq

/-- `policy_decision.decision`. -/
inductive Decision where
  | allow | requireApproval | block
  deriving DecidableEq, Repr

def Decision.value : Decision → String
  | allow => "ALLOW"
  | requireApproval => "REQUIRE_APPROVAL"
  | block => "BLOCK"

structure PolicyDecisionRecord where
  decisionId : String
  checkoutId : String
  decision : Decision
  reasonCode : String
  policyVersion : String
  inputsHash : String
  createdAt : Time
  deriving DecidableEq

/-! ### Checkout, authorization, payment and order rows -/

/-- `PriceSnapshot`: the price-determining factors of a checkout. -/
structure PriceSnapshot where
  offerId : String
  offerVersion : ℤ
  unitPriceMinor : ℤ
  quantity : ℤ
  shippingMinor : ℤ
  taxMinor : ℤ
  discountMinor : ℤ
  currency : String
  expiresAt : Time
  deriving DecidableEq

structure Checkout where
  checkoutId : String
  buyerId : String
  merchantId : String
  offerId : String
  offerVersion : ℤ
  status : CheckoutStatus := .created
  subtotalMinor : ℤ
  shippingMinor : ℤ := 0
  taxMinor : ℤ := 0
  discountMinor : ℤ := 0
  totalMinor : ℤ
  currency : CurrencyCode
  priceHash : String
  /-- `price_snapshot`, less its `product_id`. -/
  priceSnapshot : PriceSnapshot
  productId : String
  expiresAt : Time
  createdAt : Time
  deriving DecidableEq

structure CheckoutItem where
  checkoutItemId : String
  checkoutId : String
  offerId : String
  quantity : ℤ
  unitPriceMinor : ℤ
  totalMinor : ℤ
  deriving DecidableEq

structure Authorization where
  authorizationId : String
  checkoutId : String
  buyerId : String
  merchantId : String
  amountCeilingMinor : ℤ
  currency : CurrencyCode
  priceHash : String
  policyVersion : String
  status : AuthorizationStatus := .pending
  validUntil : Time
  createdAt : Time
  deriving DecidableEq

structure Payment where
  paymentId : String
  checkoutId : String
  merchantId : String
  buyerId : String
  authorizationId : String
  status : PaymentStatus := .created
  amountMinor : ℤ
  currency : CurrencyCode
  provider : String
  providerOrderId : Option String := none
  providerPaymentId : Option String := none
  providerSignature : Option String := none
  idempotencyKey : Option String := none
  testMode : Bool := true
  createdAt : Time
  verifiedAt : Option Time := none
  updatedAt : Time
  deriving DecidableEq

structure Order where
  orderId : String
  orderNumber : String
  checkoutId : String
  paymentId : String
  buyerId : String
  merchantId : String
  status : OrderStatus := .confirmed
  totalMinor : ℤ
  amountMinor : ℤ
  currency : CurrencyCode
  shippingAddress : Option String := none
  confirmedAt : Time
  createdAt : Time
  deriving DecidableEq

/-- `PaymentV1`: what a client is shown of a payment. -/
structure PaymentV1 where
  paymentId : String
  checkoutId : String
  authorizationId : String
  provider : String
  providerOrderId : Option String
  providerPaymentId : Option String
  publicKey : Option String
  amountMinor : ℤ
  currency : CurrencyCode
  status : PaymentStatus
  testMode : Bool
  deriving DecidableEq

/-- `response_body` of an idempotency record: a payment, or an error's code. -/
inductive ResponseBody where
  | payment (body : PaymentV1)
  | error (code : String)
  deriving DecidableEq

structure IdempotencyRecord where
  idempotencyRecordId : String
  actorType : String
  actorId : String
  endpoint : String
  idempotencyKey : String
  requestHash : String
  status : IdempotencyStatus := .inProgress
  responseStatusCode : Option ℤ := none
  responseBody : Option ResponseBody := none
  createdAt : Time
  completedAt : Option Time := none
  expiresAt : Time
  deriving DecidableEq

structure ProviderEvent where
  providerEventId : String
  paymentId : Option String := none
  provider : String
  eventType : String
  signature : String
  signatureValid : Bool := true
  rawBodyHash : String
  payload : Json
  status : ProviderEventStatus
  receivedAt : Time
  processedAt : Option Time := none
  createdAt : Time

structure FailedWebhook where
  failedWebhookId : String
  provider : String
  eventType : String
  signature : Option String
  rawBodyHash : String
  payload : Json
  status : FailedWebhookStatus := .pending
  attemptCount : ℕ := 0
  maxAttempts : ℕ := 5
  lastAttemptAt : Option Time := none
  nextRetryAt : Option Time := none
  lastError : Option String := none
  resolvedAt : Option Time := none
  resolutionNote : Option String := none

structure AuditEvent where
  merchantId : Option String := none
  actorType : String
  actorId : Option String
  eventType : String
  aggregateType : String
  aggregateId : String
  inputHash : Option String := none
  decision : Option String := none
  reasonCode : Option String := none
  policyVersion : Option String := none
  amountMinor : Option ℤ := none
  metadata : List (String × Json) := []

/-! ### Keys -/

/-- A single-column key. -/
@[reducible] def keyedBy {α κ : Type} [DecidableEq κ] (f : α → κ) : Keyed α where
  Key := κ
  key := f
  clash k l := decide (k = l)
  clash_self _ := decide_eq_true rfl
  clash_comm _ _ := decide_eq_decide.2 eq_comm

/-- A primary key and one `UNIQUE` column or group of columns. -/
@[reducible] def keyedByEither {α κ μ : Type} [DecidableEq κ] [DecidableEq μ] (f : α → κ)
    (g : α → μ) : Keyed α where
  Key := κ × μ
  key a := (f a, g a)
  clash k l := decide (k.1 = l.1) || decide (k.2 = l.2)
  clash_self k := by simp
  clash_comm k l := by simp [eq_comm]

instance : Keyed ImportRun :=
  keyedByEither ImportRun.importRunId fun r => (r.merchantId, r.sourceChecksum)
instance : Keyed CatalogVersion := keyedBy CatalogVersion.catalogVersionId
instance : Keyed Offer := keyedBy Offer.offerId
instance : Keyed ProductImage :=
  keyedByEither ProductImage.productImageId fun i => (i.productId, i.storageKey)
instance : Keyed CatalogImport := keyedBy CatalogImport.importId
instance : Keyed CatalogImportRow := keyedBy CatalogImportRow.rowId
instance : Keyed Product := keyedBy Product.productId
instance : Keyed Inventory := keyedBy Inventory.offerId
instance : Keyed Reservation := keyedByEither Reservation.reservationId Reservation.checkoutId
instance : Keyed Buyer := keyedBy Buyer.buyerId
instance : Keyed MerchantRules := keyedBy MerchantRules.merchantId
instance : Keyed BuyerPolicy := keyedBy BuyerPolicy.buyerId
instance : Keyed PolicyDecisionRecord := keyedBy PolicyDecisionRecord.decisionId
instance : Keyed Checkout := keyedBy Checkout.checkoutId
instance : Keyed CheckoutItem := keyedBy CheckoutItem.checkoutItemId
instance : Keyed Authorization :=
  keyedByEither Authorization.authorizationId Authorization.checkoutId
instance : Keyed Payment := keyedBy Payment.paymentId
instance : Keyed IdempotencyRecord :=
  keyedByEither IdempotencyRecord.idempotencyRecordId
    fun r => (r.actorType, r.actorId, r.endpoint, r.idempotencyKey)
instance : Keyed ProviderEvent := keyedBy ProviderEvent.providerEventId
instance : Keyed FailedWebhook := keyedBy FailedWebhook.failedWebhookId

/-- The key columns of an order: its number, its checkout and its payment are
`UNIQUE` besides its own identifier. -/
instance : Keyed Order where
  Key := String × String × String × String
  key o := (o.orderId, o.orderNumber, o.checkoutId, o.paymentId)
  clash k l := decide (k.1 = l.1) || decide (k.2.1 = l.2.1) || decide (k.2.2.1 = l.2.2.1) ||
    decide (k.2.2.2 = l.2.2.2)
  clash_self k := by simp
  clash_comm k l := by simp [eq_comm]

/-! ### The store -/

/-- The tables. -/
structure Database where
  importRuns : Table ImportRun := .empty
  catalogVersions : Table CatalogVersion := .empty
  offers : Table Offer := .empty
  products : Table Product := .empty
  productImages : Table ProductImage := .empty
  catalogImports : Table CatalogImport := .empty
  catalogImportRows : Table CatalogImportRow := .empty
  inventory : Table Inventory := .empty
  reservations : Table Reservation := .empty
  buyers : Table Buyer := .empty
  merchantRules : Table MerchantRules := .empty
  buyerPolicies : Table BuyerPolicy := .empty
  policyDecisions : Table PolicyDecisionRecord := .empty
  checkouts : Table Checkout := .empty
  checkoutItems : Table CheckoutItem := .empty
  authorizations : Table Authorization := .empty
  payments : Table Payment := .empty
  orders : Table Order := .empty
  idempotencyRecords : Table IdempotencyRecord := .empty
  providerEvents : Table ProviderEvent := .empty
  failedWebhooks : Table FailedWebhook := .empty
  auditEvents : List AuditEvent := []

namespace Database

/-! ### Rows by their keys -/

/-- The checkout with that identifier. -/
def checkoutById (db : Database) (checkoutId : String) : Option Checkout :=
  db.checkouts.first fun c => c.checkoutId == checkoutId

/-- The checkout with that identifier, of a merchant and a buyer. -/
def checkoutOf (db : Database) (merchantId buyerId checkoutId : String) : Option Checkout :=
  db.checkouts.first fun c =>
    c.checkoutId == checkoutId && c.merchantId == merchantId && c.buyerId == buyerId

/-- The authorization with that identifier, of a merchant and a buyer. -/
def authorizationOf (db : Database) (merchantId buyerId authorizationId : String) :
    Option Authorization :=
  db.authorizations.first fun a =>
    a.authorizationId == authorizationId && a.merchantId == merchantId && a.buyerId == buyerId

/-- The payment with that identifier. -/
def paymentById (db : Database) (paymentId : String) : Option Payment :=
  db.payments.first fun p => p.paymentId == paymentId

/-- The order of a checkout. -/
def orderOfCheckout (db : Database) (checkoutId : String) : Option Order :=
  db.orders.first fun o => o.checkoutId == checkoutId

/-- The order of a payment. -/
def orderOfPayment (db : Database) (paymentId : String) : Option Order :=
  db.orders.first fun o => o.paymentId == paymentId

end Database

/-- Two nullable unique columns hold one value: `NULL` equals nothing. -/
def sameValue : Option String → Option String → Bool
  | some x, some y => x == y
  | _, _ => false

/-- The `UNIQUE` constraints of a payment's provider identifiers hold. -/
def Database.flushable (db : Database) : Bool :=
  decide (db.payments.rows.Pairwise fun p q =>
    sameValue p.providerOrderId q.providerOrderId = false ∧
      sameValue p.providerPaymentId q.providerPaymentId = false)

end AgenticCommerce
