/-
# The authorization service

`services/authorization/service.py`: a checkout gets at most one authorization,
bound to its total and its price digest.  The policy decides whether it is
approved at once or waits for the buyer, who approves or rejects it; a payment
consumes it.  An authorization found past its deadline is set to `expired` and the
call raises in the same breath, so whether that survives is decided by the unit of
work around the call.
-/

import AgenticCommerce.Inventory.Service
import AgenticCommerce.Policy.Service

namespace AgenticCommerce

open Relational

/-- `authorization.status = status`, for the row with that identifier. -/
def Database.setAuthorizationStatus (db : Database) (authorizationId : String)
    (status : AuthorizationStatus) : Database :=
  { db with
    authorizations := db.authorizations.modify (fun a => a.authorizationId == authorizationId)
      (fun a => { a with status }) fun _ => rfl }

/-- `AuthorizationV1`. -/
structure AuthorizationV1 where
  authorizationId : String
  buyerId : String
  merchantId : String
  checkoutId : String
  amountCeilingMinor : ℤ
  currency : CurrencyCode
  category : String
  priceHash : String
  status : AuthorizationStatus
  validUntil : Time
  decision : Decision
  reasonCode : String
  policyVersion : String
  deriving DecidableEq

namespace Authorization

/-- The category of what a checkout buys. -/
def categoryOf (checkout : Option Checkout) (db : Database) : String :=
  let offer := checkout.bind fun c => db.offers.first fun o => o.offerId == c.offerId
  let product := offer.bind fun o => db.products.first fun p => p.productId == o.productId
  product.elim "general" Product.categoryId

/-- The latest policy decision about a checkout. -/
def latestDecision (checkoutId : String) (db : Database) : Option PolicyDecisionRecord :=
  (db.policyDecisions.select fun r => r.checkoutId == checkoutId).foldl
    (fun latest r => match latest with
      | some l => if l.createdAt ≤ r.createdAt then some r else some l
      | none => some r) none

/-- `_authorization_to_schema`. -/
def toSchema (auth : Authorization) (category : String) (record : Option PolicyDecisionRecord) :
    AuthorizationV1 :=
  { authorizationId := auth.authorizationId, buyerId := auth.buyerId,
    merchantId := auth.merchantId, checkoutId := auth.checkoutId,
    amountCeilingMinor := auth.amountCeilingMinor, currency := auth.currency, category,
    priceHash := auth.priceHash, status := auth.status, validUntil := auth.validUntil,
    decision := record.elim (if auth.status = .approved then .allow else .requireApproval)
      PolicyDecisionRecord.decision,
    reasonCode := record.elim "OK" PolicyDecisionRecord.reasonCode,
    policyVersion := record.elim auth.policyVersion PolicyDecisionRecord.policyVersion }

/-- What a client is shown of an authorization. -/
def view (auth : Authorization) (db : Database) : AuthorizationV1 :=
  auth.toSchema (categoryOf (db.checkoutById auth.checkoutId) db)
    (latestDecision auth.checkoutId db)

/-- `get_authorization`. -/
def getAuthorization (buyerId merchantId authorizationId : String) : Op AuthorizationV1 := do
  let auth ← require (fun db => db.authorizationOf merchantId buyerId authorizationId)
    (.raised "The requested approval does not exist." .notFound)
  query (view auth)

/-- The status becomes `expired`, and the call raises. -/
def expire {α : Type} (auth : Authorization) : Op α := do
  update fun db => db.setAuthorizationStatus auth.authorizationId .expired
  flush
  throw (.raised "The approval has expired." .authorizationExpired)

/-- The code a blocking decision is reported with. -/
def blockCode (reasonCode : String) : ErrorCode :=
  if reasonCode = ErrorCode.amountAboveMaxLimit.value then .amountAboveMaxLimit
  else if reasonCode = ErrorCode.categoryNotAllowed.value then .categoryNotAllowed
  else if reasonCode = ErrorCode.merchantNotAllowed.value then .merchantNotAllowed
  else .policyBlocked

/-- The refusal of a blocking decision. -/
def blocked (result : PolicyDecisionResult) : Failure :=
  .domain { code := blockCode result.reasonCode,
            message := "This action is not permitted by policy.",
            details := [("reason_code", result.reasonCode)] }

/-- The row of a new authorization: its ceiling and its digest are the checkout's. -/
def rowOf (env : Env) (checkout : Checkout) (buyerId merchantId : String)
    (result : PolicyDecisionResult) (ttlMinutes : ℤ) : Authorization :=
  { authorizationId := env.newId "ath", checkoutId := checkout.checkoutId, buyerId, merchantId,
    amountCeilingMinor := checkout.totalMinor, currency := checkout.currency,
    priceHash := checkout.priceHash, policyVersion := result.policyVersion,
    status := if result.decision = .allow then .approved else .pending,
    validUntil := env.now + minutes ttlMinutes, createdAt := env.now }

/-- The answer for a checkout that has an authorization already. -/
def answerExisting (env : Env) (checkout : Checkout) (auth : Authorization) :
    Op AuthorizationV1 := do
  if auth.status = .approved ∨ auth.status = .pending then
    if auth.validUntil ≤ env.now then expire auth
    else query fun db =>
      auth.toSchema (categoryOf (some checkout) db) (latestDecision checkout.checkoutId db)
  else if auth.status = .consumed then
    throw (.raised ("Checkout " ++ checkout.checkoutId ++
      " has already been authorized and consumed.") .authorizationAlreadyConsumed)
  else
    throw (.raised ("Authorization for checkout " ++ checkout.checkoutId ++
      " is in terminal state '" ++ auth.status.value ++ "'.") .forbidden)

/-- `request_authorization`. -/
def requestAuthorization (env : Env) (buyerId merchantId checkoutId : String)
    (ttlMinutes : ℤ := 15) : Op AuthorizationV1 := do
  let checkout ← require (fun db => db.checkoutOf merchantId buyerId checkoutId)
    (.raised "The requested checkout does not exist." .notFound)
  raiseIf (checkout.status = .cancelled ∨ checkout.status = .expired)
    (.raised "This checkout has expired." .checkoutExpired)
  raiseIf (checkout.status = .completed ∨ checkout.status = .priceChanged)
    (.raised ("Checkout " ++ checkoutId ++ " is in terminal state '" ++ checkout.status.value ++
      "'.") .alreadyFinalized)
  let existing ← query fun db => db.authorizations.first fun a =>
    a.checkoutId == checkoutId && a.merchantId == merchantId && a.buyerId == buyerId
  match existing with
  | some auth => answerExisting env checkout auth
  | none =>
      let result ← Policy.evaluateCheckoutPolicy env checkoutId merchantId buyerId
      raiseIf (result.decision = .block) (blocked result)
      let auth := rowOf env checkout buyerId merchantId result ttlMinutes
      insert fun db => (db.authorizations.insert? auth).map fun authorizations =>
        { db with authorizations }
      transition (.checkout checkout)
        (if auth.status = .approved then .useExistingAuthorization else .requireApproval)
        { actorType := "system", actorId := none, merchantId := some merchantId, now := env.now }
      flush
      appendEvent
        { merchantId := some merchantId, actorType := "buyer", actorId := some buyerId,
          eventType := if auth.status = .pending then "AUTHORIZATION_REQUESTED"
            else "AUTHORIZATION_GRANTED",
          aggregateType := "authorization", aggregateId := auth.authorizationId,
          decision := some result.decision.value, reasonCode := some result.reasonCode,
          policyVersion := some result.policyVersion, amountMinor := some checkout.totalMinor,
          metadata := [("checkout_id", .str checkoutId), ("status", .str auth.status.value)] }
      query fun db => auth.toSchema (categoryOf (some checkout) db) (latestDecision checkoutId db)

/-- `approve_authorization`. -/
def approveAuthorization (env : Env) (buyerId merchantId authorizationId : String) :
    Op AuthorizationV1 := do
  let auth ← require (fun db => db.authorizationOf merchantId buyerId authorizationId)
    (.raised "The requested approval does not exist." .notFound)
  raiseIf (auth.buyerId ≠ buyerId ∨ auth.merchantId ≠ merchantId)
    (.raised "You are not authorized to approve this authorization." .forbidden)
  if auth.status = .approved then getAuthorization buyerId merchantId authorizationId
  else
    raiseIf (auth.status = .consumed)
      (.raised "The approval has already been used." .authorizationAlreadyConsumed)
    raiseIf (auth.status = .rejected ∨ auth.status = .revoked)
      (.raised "The approval is not valid." .forbidden)
    if auth.validUntil ≤ env.now then expire auth
    else
      update fun db => db.setAuthorizationStatus auth.authorizationId .approved
      let checkout ← query fun db => db.checkoutById auth.checkoutId
      checkout.elim (pure ()) fun c =>
        transition (.checkout c) .approveAuthorization
          { actorType := "buyer", actorId := some buyerId, merchantId := some merchantId,
            now := env.now }
      flush
      appendEvent
        { merchantId := some merchantId, actorType := "buyer", actorId := some buyerId,
          eventType := "AUTHORIZATION_GRANTED", aggregateType := "authorization",
          aggregateId := authorizationId, amountMinor := some auth.amountCeilingMinor,
          metadata := [("action", .str "approve"), ("checkout_id", .str auth.checkoutId)] }
      getAuthorization buyerId merchantId authorizationId

/-- A checkout that can no longer be rejected. -/
def closed (status : CheckoutStatus) : Bool :=
  status ∈ [CheckoutStatus.completed, .priceChanged, .cancelled, .expired]

/-- `reject_authorization`. -/
def rejectAuthorization (env : Env) (buyerId merchantId authorizationId : String) :
    Op AuthorizationV1 := do
  let auth ← require (fun db => db.authorizationOf merchantId buyerId authorizationId)
    (.raised "The requested approval does not exist." .notFound)
  raiseIf (auth.buyerId ≠ buyerId ∨ auth.merchantId ≠ merchantId)
    (.raised "You are not authorized to reject this authorization." .forbidden)
  if auth.status = .rejected then getAuthorization buyerId merchantId authorizationId
  else
    raiseIf (auth.status = .consumed)
      (.raised "The approval has already been used." .authorizationAlreadyConsumed)
    raiseIf (auth.status = .revoked ∨ auth.status = .expired)
      (.raised "The approval is not valid." .forbidden)
    if auth.validUntil ≤ env.now then expire auth
    else
      let checkout ← query fun db => db.checkoutById auth.checkoutId
      raiseIf (checkout.elim false fun c => closed c.status)
        (.raised ("Checkout " ++ auth.checkoutId ++ " is in terminal state '" ++
          checkout.elim "" (fun c => c.status.value) ++ "' and cannot be rejected.")
          .alreadyFinalized)
      update fun db => db.setAuthorizationStatus auth.authorizationId .rejected
      checkout.elim (pure ()) fun c => do
        transition (.checkout c) .rejectAuthorization
          { actorType := "buyer", actorId := some buyerId, merchantId := some merchantId,
            now := env.now }
        Inventory.releaseStock env c.checkoutId (some merchantId)
      flush
      appendEvent
        { merchantId := some merchantId, actorType := "buyer", actorId := some buyerId,
          eventType := "AUTHORIZATION_REJECTED", aggregateType := "authorization",
          aggregateId := authorizationId,
          metadata := [("action", .str "reject"), ("checkout_id", .str auth.checkoutId)] }
      getAuthorization buyerId merchantId authorizationId

/-- `revalidate_for_payment`. -/
def revalidateForPayment (env : Env) (authorizationId checkoutId currentPriceHash merchantId
    buyerId : String) : Op Authorization := do
  let auth ← require (fun db => db.authorizationOf merchantId buyerId authorizationId)
    (.raised "The approval does not exist." .notFound)
  raiseIf (auth.checkoutId ≠ checkoutId)
    (.raised "The approval does not belong to this checkout." .authorizationCheckoutMismatch)
  raiseIf (auth.status = .consumed)
    (.raised "The approval has already been used." .authorizationAlreadyConsumed)
  raiseIf (auth.status ≠ .approved) (.raised "The approval has not been granted." .forbidden)
  if auth.validUntil ≤ env.now then expire auth
  else
    raiseIf (auth.priceHash ≠ currentPriceHash)
      (.raised "The price changed after approval, so no charge was made." .priceChanged)
    pure auth

end Authorization
end AgenticCommerce
