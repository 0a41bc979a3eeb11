/-
# The Razorpay checkout endpoints

`create_razorpay_order` and `get_razorpay_checkout_url` of
`apps/api/routers/razorpay_checkout.py`.  Both open a checkout, authorize it and create
its payment in one request; the second then asks the provider for a payment link, when
the configuration is a live one.  Each resolves the checkout in three ways (named,
through an offer, through an amount), and the second one only checks the last two.

The rows of merchants are not modelled: whether the principal's is stored is an
argument.  Neither is the validation of the return address, which writes nothing: any
function stands for it.
-/

import AgenticCommerce.Checkout.Service
import AgenticCommerce.Payments.Service

namespace AgenticCommerce

open Relational

/-- The environment as a later part of the same request finds it, `n` readings of the
clock on. -/
def Env.after (env : Env) (n : ℕ) : Env := { env with clock := fun i => env.clock (n + i) }

namespace Razorpay

/-- `Principal`. -/
structure Principal where
  merchantId : String
  buyerId : Option String

/-- The settings the endpoints read. -/
structure Settings where
  razorpayKeyId : String
  razorpayKeySecret : String
  paymentProvider : String := "razorpay"
  isLocal : Bool := false
  /-- `resolve_checkout_return_url`, with the origins the application allows. -/
  resolveReturnUrl : Option String → Except Failure (Option String) := .ok

namespace Settings

/-- `razorpay_is_configured`. -/
def razorpayIsConfigured (s : Settings) : Bool := s.razorpayKeyId != "" && s.razorpayKeySecret != ""

/-- `payment_is_test_mode`. -/
def paymentIsTestMode (s : Settings) : Bool :=
  s.paymentProvider != "razorpay" || "rzp_test_".toList.isPrefixOf s.razorpayKeyId.toList

end Settings

/-- `CreateOrderRequest`; the receipt is not read. -/
structure CreateOrderRequest where
  amount : ℤ
  amount_ge : 100 ≤ amount := by decide
  currency : CurrencyCode := .inr
  checkoutId : Option String := none
  offerId : Option String := none
  notes : List (String × Json) := []

/-- `RazorpayCheckoutUrlRequest`; the receipt is not read. -/
structure CheckoutUrlRequest where
  amount : ℤ
  amount_ge : 100 ≤ amount := by decide
  currency : CurrencyCode := .inr
  checkoutId : Option String := none
  offerId : Option String := none
  returnUrl : Option String := none

/-- The refusal of settings without credentials. -/
def requireKeys (settings : Settings) : Op Unit :=
  raiseIf (settings.razorpayIsConfigured = false)
    (.raised "Razorpay payment gateway credentials not configured." .internalError)

/-- The buyer of a principal that has one. -/
def requireBuyer (principal : Principal) : Op String :=
  ofAnswer (principal.buyerId.elim (.error (.raised "Buyer ID required for payment" .forbidden)) .ok)

/-- The active offer with that identifier. -/
def offerById (merchantId offerId : String) (db : Database) : Option Offer :=
  db.offers.first fun o => o.offerId == offerId && o.merchantId == merchantId && o.status == .active

/-- An active offer at that price, with a piece left. -/
def offerAt (merchantId : String) (amount : ℤ) (db : Database) : Option Offer :=
  db.offers.first fun o =>
    o.merchantId == merchantId && o.status == .active && o.unitPriceMinor == amount &&
      (db.inventory.first fun i =>
        i.offerId == o.offerId && decide (1 ≤ i.availableQuantity - i.reservedQuantity)).isSome

/-- The offer a request without a checkout is about. -/
def offerFor (merchantId : String) (offerId : Option String) (amount : ℤ) (db : Database) :
    Option Offer :=
  (given offerId).elim (offerAt merchantId amount db) fun id => offerById merchantId id db

/-- A checkout for one piece of an offer. -/
def openCheckout (env : Env) (buyerId merchantId : String) (offer : Offer) : Op CheckoutV1 :=
  Checkout.createCheckout env buyerId merchantId offer.offerId 1 15

/-- The checkout is authorized, and its payment created under its own identifier as the
key. -/
def pay (env : Env) (buyerId merchantId checkoutId : String) : Op PaymentV1 := do
  let auth ← Authorization.requestAuthorization (env.after 10) buyerId merchantId checkoutId
  raiseIf (auth.status ≠ .approved ∧ auth.status ≠ .pending)
    (.raised ("Authorization denied by policy: status=" ++ auth.status.value) .forbidden)
  let payment ← Payment.createPayment (env.after 20) buyerId merchantId checkoutId
    auth.authorizationId (some checkoutId)
  flush
  pure payment

/-! ### An order -/

/-- What `create_razorpay_order` answers. -/
structure OrderAnswer where
  orderId : Option String
  paymentId : String
  checkoutId : String
  amount : ℤ
  currency : CurrencyCode
  keyId : String
  status : PaymentStatus

/-- The merchant and the buyer are stored, or may be. -/
def ensureParties (settings : Settings) (merchantStored : Bool) (merchantId buyerId : String) :
    Op Unit := do
  raiseIf (merchantStored = false ∧ settings.isLocal = false)
    (.raised "The merchant does not exist." .notFound)
  let found ← query fun db => db.buyers.first fun b => b.buyerId == buyerId
  match found with
  | some _ => pure ()
  | none => do
      raiseIf (settings.isLocal = false) (.raised "The buyer does not exist." .notFound)
      Checkout.ensureBuyer buyerId merchantId

/-- `request.checkout_id or request.notes.get("checkout_id")`; a text is the only value a
query can compare with the column. -/
def CreateOrderRequest.namedCheckout (request : CreateOrderRequest) :
    Except Failure (Option String) :=
  match given request.checkoutId with
  | some id => .ok (some id)
  | none => match (Json.lookup request.notes "checkout_id").getD .null with
    | .str s => .ok (given (some s))
    | value => if value.truthy then .error (.exception "ProgrammingError") else .ok none

/-- The refusal of an amount that is not the total; `what` is the total's description. -/
def requireAmount (amount total : ℤ) (what : String) : Op Unit :=
  raiseIf (amount ≠ total)
    (.raised ("Amount mismatch: requested amount " ++ toString amount ++ " does not match " ++
      what ++ " " ++ toString total) .validationError)

/-- The checkout of an order: the one that is named, or a new one. -/
def resolveCheckout (env : Env) (buyerId merchantId : String) (request : CreateOrderRequest) :
    Op String := do
  let named ← ofAnswer request.namedCheckout
  match named with
  | some checkoutId => do
      let checkout ← require (fun db => db.checkoutOf merchantId buyerId checkoutId)
        (.raised "Checkout not found" .notFound)
      requireAmount request.amount checkout.totalMinor "checkout total"
      pure checkoutId
  | none => do
      let offer ← require (offerFor merchantId request.offerId request.amount)
        (.raised "Active verified offer not found for this merchant." .notFound)
      let checkout ← openCheckout env buyerId merchantId offer
      requireAmount request.amount checkout.pricing.totalMinor "verified total"
      pure checkout.checkoutId

/-- `except DomainError: raise`, and every other exception is reported as one. -/
def reported {α : Type} (m : Op α) : Op α := do
  let outcome ← Work.attempt m
  match outcome with
  | .ok a => pure a
  | .error (.domain e) => throw (.domain e)
  | .error _ => throw (.raised "Failed to create payment order. Please try again." .serviceUnavailable)

/-- `create_razorpay_order`. -/
def createRazorpayOrder (env : Env) (settings : Settings) (merchantStored : Bool)
    (principal : Principal) (request : CreateOrderRequest) : Op OrderAnswer := do
  requireKeys settings
  let buyerId ← requireBuyer principal
  reported do
    ensureParties settings merchantStored principal.merchantId buyerId
    let checkoutId ← resolveCheckout env buyerId principal.merchantId request
    let payment ← pay env buyerId principal.merchantId checkoutId
    pure
      { orderId := payment.providerOrderId, paymentId := payment.paymentId, checkoutId,
        amount := payment.amountMinor, currency := payment.currency,
        keyId := settings.razorpayKeyId, status := payment.status }

/-! ### A payment link -/

/-- What `get_razorpay_checkout_url` answers. -/
structure UrlAnswer where
  checkoutUrl : String
  orderId : Option String
  checkoutId : String
  keyId : String
  amount : ℤ
  currency : CurrencyCode

/-- What a link is asked for: a checkout, an amount, and the order it refers to. -/
structure Collection where
  checkoutId : String
  amount : ℤ
  orderId : Option String

/-- What the link is asked for.  A checkout that is named is taken as it is named: it is
not looked up, and no payment is created for it. -/
def resolveCollection (env : Env) (buyerId merchantId : String) (request : CheckoutUrlRequest) :
    Op Collection :=
  match given request.checkoutId with
  | some checkoutId =>
      pure { checkoutId, amount := request.amount, orderId := some ("order_" ++ checkoutId) }
  | none => do
      let offer ← require (offerFor merchantId request.offerId request.amount)
        (.raised (if given request.offerId = none then
          "Active verified offer not found for this merchant." else "Active offer not found.")
          .notFound)
      let checkout ← openCheckout env buyerId merchantId offer
      let payment ← pay env buyerId merchantId checkout.checkoutId
      pure
        { checkoutId := checkout.checkoutId, amount := offer.unitPriceMinor,
          orderId := payment.providerOrderId }

/-- The address of a payment link, asked for under live credentials only; every failure is
logged and dropped. -/
def paymentLink (env : Env) (settings : Settings) (request : LinkRequest) : Op (Option String) :=
  if settings.razorpayIsConfigured = true ∧ settings.paymentIsTestMode = false then do
    let answer ← call (fun calls => env.provider.paymentLink calls request)
      (ProviderCall.paymentLink request)
    pure (match answer with
      | .ok url => given (some url)
      | .error _ => none)
  else pure none

/-- `get_razorpay_checkout_url`. -/
def getRazorpayCheckoutUrl (env : Env) (settings : Settings) (principal : Principal)
    (request : CheckoutUrlRequest) : Op UrlAnswer := do
  let buyerId ← requireBuyer principal
  requireKeys settings
  let returnUrl ← ofAnswer (settings.resolveReturnUrl request.returnUrl)
  let collection ← resolveCollection env buyerId principal.merchantId request
  let url ← paymentLink env settings
    { amountMinor := collection.amount, currency := request.currency.value,
      referenceId := collection.orderId }
  pure
    { checkoutUrl := (url.orElse fun _ => given returnUrl).getD
        ("/checkout/razorpay-return?checkout_id=" ++ collection.checkoutId)
      orderId := collection.orderId, checkoutId := collection.checkoutId,
      keyId := settings.razorpayKeyId, amount := collection.amount, currency := request.currency }

end Razorpay
end AgenticCommerce
