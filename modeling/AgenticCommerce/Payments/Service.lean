/-
# The payment service

`services/payments/service.py`.  `createPayment` checks, in this order: the
checkout, its deadline, its price against the live offer, the idempotency key and
the authorization; it then inserts the payment, asks the provider for an order,
and consumes the authorization only when it has one.  `verifyPayment` and
`failPayment` settle a payment, together with its checkout and its hold;
`refundPayment` gives back what the ledger says was not given back yet.

The source spells several of these as one long body.  Here a body is cut where its
own numbered steps are, and `evidence` is the two provider gates of
`verify_payment` as one value: what the provider reported that let the
verification pass.
-/

import AgenticCommerce.Authorization.Service
import AgenticCommerce.Orders.Service
import AgenticCommerce.Payments.Idempotency

namespace AgenticCommerce

open Relational

/-- The payment with that identifier, updated in columns outside its key. -/
def Database.modifyPayment (db : Database) (paymentId : String) (f : Payment → Payment)
    (h : ∀ p, Keyed.key (f p) = Keyed.key p) : Database :=
  { db with payments := db.payments.modify (fun p => p.paymentId == paymentId) f h }

/-- A text that Python takes for true. -/
def given (text : Option String) : Option String := text.filter fun s => s != ""

namespace CheckoutStatus

/-- `_CHECKOUT_DEAD_STATES`. -/
def dead (s : CheckoutStatus) : Bool := s.canonical ∈ [RuleState.cancelled, .checkoutExpired]

/-- `_CHECKOUT_UNPAYABLE_STATES`. -/
def unpayable (s : CheckoutStatus) : Bool :=
  s.canonical ∈ [RuleState.cancelled, .policyBlocked, .priceChanged, .inventoryChanged]

/-- `_CHECKOUT_TERMINAL_STATES`. -/
def terminal (s : CheckoutStatus) : Bool :=
  s.dead || s.unpayable || s.canonical == RuleState.completed

end CheckoutStatus

namespace Payment

/-- `_payment_to_schema`. -/
def toSchema (env : Env) (payment : Payment) : PaymentV1 :=
  { paymentId := payment.paymentId, checkoutId := payment.checkoutId,
    authorizationId := payment.authorizationId, provider := payment.provider,
    providerOrderId := payment.providerOrderId, providerPaymentId := payment.providerPaymentId,
    publicKey := env.provider.keyId, amountMinor := payment.amountMinor,
    currency := payment.currency, status := payment.status, testMode := payment.testMode }

/-- The context of a transition the system makes. -/
def bySystem (env : Env) (merchantId : String) : TransitionContext :=
  { actorType := "system", actorId := none, merchantId := some merchantId, now := env.now }

/-! ### Creating a payment -/

/-- Step 2: a checkout past its deadline. -/
def refuseExpired (env : Env) (checkout : Checkout) (merchantId : String) : Op Unit :=
  if checkout.expiresAt ≤ env.now then do
    transition (.checkout checkout) .expireCheckout
      { bySystem env merchantId with expiresAt := some checkout.expiresAt }
    flush
    throw (.raised "This checkout has expired." .checkoutExpired)
  else pure ()

/-- The digest of a checkout's frozen factors at the price, version and currency of
its live offer. -/
def currentPriceHash (env : Env) (checkout : Checkout) (offer : Offer) : String :=
  env.priceHash { checkout.priceSnapshot with
    unitPriceMinor := offer.unitPriceMinor, offerVersion := offer.offerVersion,
    currency := offer.currency }

/-- The `PRICE_CHANGE_DETECTED` event of a checkout. -/
def priceChangeEvent (checkout : Checkout) (offer : Offer) (merchantId current : String) :
    AuditEvent :=
  { merchantId := some merchantId, actorType := "system", actorId := none,
    eventType := "PRICE_CHANGE_DETECTED", aggregateType := "checkout",
    aggregateId := checkout.checkoutId, amountMinor := some checkout.totalMinor,
    metadata := [("stored_price_hash", .str checkout.priceHash),
      ("current_price_hash", .str current), ("offer_id", .str checkout.offerId),
      ("current_unit_price_minor", .int offer.unitPriceMinor),
      ("current_offer_version", .int offer.offerVersion)] }

/-- Step 3: a price that is no longer the frozen one. -/
def refusePriceChange (env : Env) (checkout : Checkout) (offer : Offer) (merchantId : String) :
    Op Unit :=
  let current := currentPriceHash env checkout offer
  if current ≠ checkout.priceHash then do
    transition (.checkout checkout) .detectPriceChange (bySystem env merchantId)
    appendEvent (priceChangeEvent checkout offer merchantId current)
    flush
    throw (.raised "The price changed after approval, so no charge was made." .priceChanged)
  else pure ()

/-- The row of a new payment attempt. -/
def rowOf (env : Env) (checkout : Checkout) (buyerId merchantId authorizationId : String)
    (idempotencyKey : Option String) : Payment :=
  { paymentId := env.newId "pay", checkoutId := checkout.checkoutId, merchantId, buyerId,
    authorizationId, status := .created, amountMinor := checkout.totalMinor,
    currency := checkout.currency, provider := env.provider.name, idempotencyKey,
    testMode := env.provider.testMode, createdAt := env.now, updatedAt := env.now }

/-- What the provider is asked for: the checkout's total and currency, under the
caller's key or else the checkout. -/
def orderRequest (checkout : Checkout) (payment : Payment) : OrderRequest :=
  { amountMinor := checkout.totalMinor, currency := checkout.currency.value,
    receipt := checkout.checkoutId, checkoutNote := checkout.checkoutId,
    paymentNote := payment.paymentId,
    idempotencyKey := (given payment.idempotencyKey).getD checkout.checkoutId }

/-- Step 7, when the provider raises. -/
def abandon {α : Type} (env : Env) (payment : Payment) (record : Option IdempotencyRecord)
    (failure : Failure) : Op α := do
  transition (.payment payment) .failPayment (bySystem env payment.merchantId)
  record.elim (pure ()) fun r =>
    Idempotency.failLock env.now r.idempotencyRecordId failure.code.value failure.httpStatus
  flush
  throw failure

/-- Steps 8 to 10: the authorization is consumed and the payment is pending. -/
def initiate (env : Env) (checkout : Checkout) (payment : Payment)
    (record : Option IdempotencyRecord) (order : ProviderOrder) : Op PaymentV1 := do
  update fun db => db.setAuthorizationStatus payment.authorizationId .consumed
  update fun db => db.modifyPayment payment.paymentId
    (fun p => { p with providerOrderId := some order.providerOrderId }) fun _ => rfl
  transition (.payment payment) .providerOrderCreated (bySystem env payment.merchantId)
  flush
  appendEvent
    { merchantId := some payment.merchantId, actorType := "buyer", actorId := some payment.buyerId,
      eventType := "PAYMENT_CREATED", aggregateType := "payment",
      aggregateId := payment.paymentId, amountMinor := some checkout.totalMinor,
      metadata := [("provider_order_id", .str order.providerOrderId),
        ("checkout_id", .str checkout.checkoutId),
        ("authorization_id", .str payment.authorizationId)] }
  let response := toSchema env
    { payment with status := .pending, providerOrderId := some order.providerOrderId }
  record.elim (pure ()) fun r =>
    Idempotency.complete env.now r.idempotencyRecordId 200 (.payment response)
  pure response

/-- Steps 5 to 10: the approval is revalidated, and the provider is asked. -/
def charge (env : Env) (checkout : Checkout) (offer : Offer)
    (buyerId merchantId authorizationId : String) (idempotencyKey : Option String)
    (record : Option IdempotencyRecord) : Op PaymentV1 := do
  let auth ← Authorization.revalidateForPayment env authorizationId checkout.checkoutId
    (currentPriceHash env checkout offer) merchantId buyerId
  let payment := rowOf env checkout buyerId merchantId auth.authorizationId idempotencyKey
  insert fun db => (db.payments.insert? payment).map fun payments => { db with payments }
  flush
  let answer ← call (fun calls => env.provider.createOrder calls (orderRequest checkout payment))
    (ProviderCall.createOrder (orderRequest checkout payment))
  match answer with
  | .error failure => abandon env payment record failure
  | .ok order => initiate env checkout payment record order

/-- The answer of a replay; there is none when the checkout is dead or past its
deadline by now. -/
def replay (env : Env) (checkout : Checkout) (lock : Idempotency.Lock) :
    Option (Except Failure PaymentV1) :=
  if lock.isReplay ∧ checkout.status.dead = false ∧ env.now < checkout.expiresAt then
    lock.cachedBody.map fun
      | .payment body => .ok body
      | .error _ => .error (.exception "PaymentV1 validation failed")
  else none

/-- `create_payment`. -/
def createPayment (env : Env) (buyerId merchantId checkoutId authorizationId : String)
    (idempotencyKey : Option String := none) : Op PaymentV1 := do
  let checkout ← require (fun db => db.checkoutOf merchantId buyerId checkoutId)
    (.raised "The requested checkout does not exist." .notFound)
  raiseIf checkout.status.dead (.raised "This checkout has expired." .checkoutExpired)
  refuseExpired env checkout merchantId
  let offer ← require
    (fun db => db.offers.first fun o => o.offerId == checkout.offerId && o.merchantId == merchantId)
    (.raised "The offer for this checkout does not exist." .notFound)
  raiseIf (checkout.priceSnapshot.quantity < 1)
    (.raised "Checkout price snapshot contains an invalid quantity." .internalError)
  refusePriceChange env checkout offer merchantId
  match given idempotencyKey with
  | none => charge env checkout offer buyerId merchantId authorizationId idempotencyKey none
  | some key => do
      let lock ← Idempotency.acquireLock env (env.clock 1) "buyer" (merchantId ++ ":" ++ buyerId)
        "POST /payments" key (env.requestHash checkoutId authorizationId checkout.totalMinor)
      match replay env checkout lock with
      | some answer => ofAnswer answer
      | none => charge env checkout offer buyerId merchantId authorizationId idempotencyKey
                  (some lock.record)

/-! ### Verifying a payment -/

/-- What the provider reported that lets a verification pass. -/
inductive Evidence where
  | payment (fetched : ProviderPayment)
  | order (fetched : ProviderOrder)
  deriving DecidableEq

/-- One fetch of the provider: of the payment named, else of the payment's order.
An exception is no agreement. -/
def fetchEvidence (env : Env) (n : ℕ) (payment : Payment) (providerPaymentId : Option String) :
    Option Evidence :=
  match (given providerPaymentId).orElse fun _ => given payment.providerPaymentId,
    given payment.providerOrderId with
  | some target, _ => match env.provider.fetchPayment n target with
    | .ok fetched =>
        if fetched.captures ["captured", "paid"] payment then some (.payment fetched) else none
    | .error _ => none
  | none, some orderId => match env.provider.fetchOrder n orderId with
    | .ok fetched => if fetched.pays payment then some (.order fetched) else none
    | .error _ => none
  | none, none => none

/-- A signature is given, and is one of the order and the payment, or of the payment. -/
def signatureValid (env : Env) (payment : Payment) (providerPaymentId signature : Option String) :
    Bool :=
  match given signature with
  | none => false
  | some s =>
      let orderId := (given payment.providerOrderId).getD ""
      let payId := (given providerPaymentId).getD ""
      (orderId != "" || payId != "") &&
        (env.provider.verifyPaymentSignature (orderId ++ "|" ++ payId) s ||
          env.provider.verifyPaymentSignature payId s)

/-- The two provider gates of `verify_payment`: a fetch behind a valid signature,
and a fetch without one. -/
def evidence (env : Env) (payment : Payment) (providerPaymentId signature : Option String) :
    Option Evidence :=
  (if signatureValid env payment providerPaymentId signature then
      fetchEvidence env 2 payment providerPaymentId
    else none).orElse fun _ => fetchEvidence env 3 payment providerPaymentId

/-- The checkout of a payment that is to be verified may still be paid. -/
def refuseUnpayable (payment : Payment) (checkout : Checkout) : Op Unit := do
  raiseIf (checkout.status = .expired)
    (.raised ("Checkout " ++ payment.checkoutId ++ " has expired.") .checkoutExpired)
  raiseIf checkout.status.unpayable
    (.raised ("Checkout " ++ payment.checkoutId ++ " is already final (status: " ++
      checkout.status.value ++ ").") .alreadyFinalized)
  let order ← query fun db => db.orderOfCheckout payment.checkoutId
  raiseIf (checkout.status = .completed ∧
      order.elim false fun o => o.paymentId != payment.paymentId)
    (.raised ("Checkout " ++ payment.checkoutId ++
      " is already completed and confirmed by payment " ++ order.elim "" Order.paymentId ++ ".")
      .alreadyFinalized)

/-- The columns a verification sets, the status apart. -/
def stampVerified (now : Time) (providerPaymentId signature : Option String) (p : Payment) :
    Payment :=
  { p with
    providerPaymentId := providerPaymentId.orElse fun _ => p.providerPaymentId
    providerSignature := signature.orElse fun _ => p.providerSignature
    verifiedAt := some now, updatedAt := now }

/-- The mutation section of `verify_payment`. -/
def settleVerified (env : Env) (payment : Payment) (providerPaymentId signature : Option String)
    (shippingAddress : Option String) : Op (PaymentV1 × OrderV1) := do
  update fun db => db.modifyPayment payment.paymentId
    (stampVerified env.now providerPaymentId signature) fun _ => rfl
  transition (.payment payment) .verifyPayment (bySystem env payment.merchantId)
  let checkout ← query fun db => db.checkoutById payment.checkoutId
  let isTerminal := checkout.elim false fun c => c.status.terminal
  unlessTrue isTerminal (checkout.elim (pure ()) fun c =>
    transition (.checkout c) .completeOrder (bySystem env payment.merchantId))
  unlessTrue isTerminal (Inventory.commitStock env payment.checkoutId (some payment.merchantId))
  let order ← Order.confirmOrder env payment.checkoutId payment.paymentId shippingAddress
  flush
  appendEvent
    { merchantId := some payment.merchantId, actorType := "system", actorId := none,
      eventType := "PAYMENT_VERIFIED", aggregateType := "payment",
      aggregateId := payment.paymentId, amountMinor := some payment.amountMinor,
      metadata := [("provider_payment_id", .ofOption providerPaymentId),
        ("checkout_id", .str payment.checkoutId)] }
  pure (toSchema env
    { stampVerified env.now providerPaymentId signature payment with status := .verified }, order)

/-- `verify_payment`. -/
def verifyPayment (env : Env) (paymentId : String) (providerPaymentId : Option String := none)
    (signature : Option String := none) (shippingAddress : Option String := none) :
    Op (PaymentV1 × OrderV1) := do
  let payment ← require (fun db => db.paymentById paymentId)
    (.raised "The payment does not exist." .notFound)
  if payment.status = .verified then
    let order ← Order.confirmOrder env payment.checkoutId paymentId
    pure (toSchema env payment, order)
  else
    raiseIf (payment.status = .failed)
      (.raised "Payment cannot be verified because it is already failed." .illegalTransition)
    let checkout ← require (fun db => db.checkoutById payment.checkoutId)
      (.raised "The checkout does not exist." .notFound)
    refuseUnpayable payment checkout
    raiseIf (evidence env payment providerPaymentId signature = none)
      (.raised ("Payment verification failed: signature is invalid and provider reports " ++
        "uncaptured status.") .webhookSignatureInvalid)
    settleVerified env payment providerPaymentId signature shippingAddress

/-! ### Failing and refunding a payment -/

/-- `fail_payment`. -/
def failPayment (env : Env) (paymentId : String) (reason : Option String := none) :
    Op PaymentV1 := do
  let payment ← require (fun db => db.paymentById paymentId)
    (.raised "The payment does not exist." .notFound)
  update fun db => db.modifyPayment paymentId
    (fun p => { p with updatedAt := env.now }) fun _ => rfl
  transition (.payment payment) .failPayment (bySystem env payment.merchantId)
  let checkout ← query fun db => db.checkoutById payment.checkoutId
  let isTerminal := checkout.elim false fun c => c.status.terminal
  unlessTrue isTerminal (Inventory.releaseStock env payment.checkoutId (some payment.merchantId))
  unlessTrue isTerminal (checkout.elim (pure ()) fun c =>
    transition (.checkout c) .failPayment (bySystem env payment.merchantId))
  flush
  appendEvent
    { merchantId := some payment.merchantId, actorType := "system", actorId := none,
      eventType := "PAYMENT_FAILED", aggregateType := "payment", aggregateId := paymentId,
      amountMinor := some payment.amountMinor,
      metadata := [("reason", .str ((given reason).getD "Payment failed"))] }
  pure (toSchema env { payment with status := .failed, updatedAt := env.now })

/-- The type of the ledger row of a refund. -/
def refundEventType : String := "PAYMENT_REFUNDED"

/-- `_refunded_minor_so_far`. -/
def refundedMinorSoFar (paymentId : String) (db : Database) : ℤ :=
  ((db.auditEvents.filter fun e => e.aggregateType == "payment" && e.aggregateId == paymentId &&
    e.eventType == refundEventType).map fun e => e.amountMinor.getD 0).sum

/-- What `refund_payment` answers. -/
structure RefundV1 where
  refundId : String
  paymentId : String
  amountMinor : ℤ
  status : String
  deriving DecidableEq

/-- `refund_payment`. -/
def refundPayment (env : Env) (paymentId : String) (amountMinor : Option ℤ := none)
    (reason : String := "Customer requested refund") (merchantId : Option String := none) :
    Op RefundV1 := do
  let payment ← require (fun db => db.paymentById paymentId)
    (.raised "The payment does not exist." .notFound)
  raiseIf (merchantId.elim false fun m => m != payment.merchantId)
    (.raised "You do not have access to this resource." .forbidden)
  raiseIf (payment.status ≠ .verified)
    (.raised ("Only verified payments can be refunded (current status: " ++
      payment.status.value ++ ").") .badRequest)
  let providerPaymentId ← ofAnswer ((given payment.providerPaymentId).elim
    (.error (.raised ("The payment has no provider payment ID — it may be a test-mode or " ++
      "simulated payment that cannot be refunded via the provider.") .badRequest)) .ok)
  let refundAmount := amountMinor.getD payment.amountMinor
  let refunded ← query (refundedMinorSoFar paymentId)
  raiseIf (refundAmount ≤ 0 ∨ payment.amountMinor - refunded < refundAmount)
    (.domain
      { code := .validationError
        message := "The refund amount must be a positive integer and must not exceed the " ++
          "amount still refundable on this payment."
        details := [("captured_minor", toString payment.amountMinor),
          ("already_refunded_minor", toString refunded),
          ("requested_minor", toString refundAmount)] })
  let answer ← call (fun calls => env.provider.refund calls providerPaymentId refundAmount)
    (ProviderCall.refund providerPaymentId refundAmount)
  let providerRefund ← ofAnswer answer
  appendEvent
    { merchantId := some payment.merchantId, actorType := "merchant", actorId := none,
      eventType := refundEventType, aggregateType := "payment", aggregateId := paymentId,
      amountMinor := some refundAmount,
      metadata := [("reason", .str reason), ("provider_refund_id", .str providerRefund.refundId),
        ("full_payment_amount_minor", .int payment.amountMinor),
        ("is_partial", .bool (decide (refundAmount < payment.amountMinor)))] }
  pure
    { refundId := providerRefund.refundId, paymentId, amountMinor := refundAmount,
      status := providerRefund.status }

end Payment
end AgenticCommerce
