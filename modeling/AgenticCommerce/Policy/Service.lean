/-
# The policy service

`services/policy/service.py`: the inputs of a decision are read from the checkout,
its offer, product, stock and hold; rules that are not configured have defaults;
the decision is recorded, with an audit event, whatever it is.
-/

import AgenticCommerce.Audit

namespace AgenticCommerce

open Relational

namespace Policy

/-- The rules of a merchant, or the defaults. -/
def merchantRulesOf (merchantId : String) (db : Database) : MerchantRules :=
  (db.merchantRules.first fun r => r.merchantId == merchantId).getD
    { merchantId, version := "1.0", maxTransactionMinor := 10000000,
      autoApprovalLimitMinor := 500000 }

/-- The policy of a buyer, or the defaults. -/
def buyerPolicyOf (buyerId : String) (db : Database) : BuyerPolicy :=
  (db.buyerPolicies.first fun r => r.buyerId == buyerId).getD
    { buyerId, version := "1.0", maxTransactionMinor := 10000000, autoApprovalLimitMinor := 500000 }

/-- The offer of a checkout, within the checkout's merchant. -/
def offerOf (checkout : Checkout) (db : Database) : Option Offer :=
  db.offers.first fun o => o.offerId == checkout.offerId && o.merchantId == checkout.merchantId

/-- What is free of the offer's stock, counting what this checkout itself holds. -/
def availableTo (checkout : Checkout) (db : Database) : ℤ :=
  let held := db.reservations.first fun r =>
    r.checkoutId == checkout.checkoutId && r.offerId == checkout.offerId && r.status == .held
  match offerOf checkout db, db.inventory.first fun i => i.offerId == checkout.offerId with
  | some _, some i => i.availableQuantity - i.reservedQuantity + held.elim 0 Reservation.quantity
  | _, _ => 0

/-- The inputs of the decision about a checkout. -/
def inputsOf (checkout : Checkout) (now : Time) (db : Database) : PolicyInputs :=
  let offer := offerOf checkout db
  let product := offer.bind fun o => db.products.first fun p => p.productId == o.productId
  { buyerId := checkout.buyerId, merchantId := checkout.merchantId,
    categoryId := product.elim "unknown" Product.categoryId,
    amountMinor := checkout.totalMinor, currency := checkout.currency.value,
    offerStatus := offer.elim .inactive Offer.status,
    offerExpiresAt := offer.elim now Offer.expiresAt,
    availableQuantity := availableTo checkout db,
    policyVersion := (buyerPolicyOf checkout.buyerId db).version }

/-- The decision about a checkout. -/
def decisionOf (env : Env) (checkout : Checkout) (db : Database) : PolicyDecisionResult :=
  evaluatePolicy env.inputsHash (inputsOf checkout env.now db)
    (merchantRulesOf checkout.merchantId db) (buyerPolicyOf checkout.buyerId db) env.now

/-- The record of a decision about a checkout. -/
def recordOf (env : Env) (checkoutId : String) (result : PolicyDecisionResult) :
    PolicyDecisionRecord :=
  { decisionId := env.newId "pld", checkoutId, decision := result.decision,
    reasonCode := result.reasonCode, policyVersion := result.policyVersion,
    inputsHash := result.inputsHash, createdAt := env.now }

/-- The `POLICY_EVALUATED` event of a decision about a checkout. -/
def evaluatedEvent (checkout : Checkout) (result : PolicyDecisionResult) : AuditEvent :=
  { merchantId := some checkout.merchantId, actorType := "system", actorId := none,
    eventType := "POLICY_EVALUATED", aggregateType := "checkout",
    aggregateId := checkout.checkoutId, inputHash := some result.inputsHash,
    decision := some result.decision.value, reasonCode := some result.reasonCode,
    policyVersion := some result.policyVersion, amountMinor := some checkout.totalMinor }

/-- `PolicyService.evaluate_checkout_policy`. -/
def evaluateCheckoutPolicy (env : Env) (checkoutId merchantId buyerId : String) :
    Op PolicyDecisionResult := do
  let checkout ← require (fun db => db.checkoutOf merchantId buyerId checkoutId)
    (.raised "The requested checkout does not exist." .notFound)
  let result ← query (decisionOf env checkout)
  insert fun db => (db.policyDecisions.insert? (recordOf env checkoutId result)).map
    fun policyDecisions => { db with policyDecisions }
  flush
  appendEvent (evaluatedEvent checkout result)
  pure result

end Policy
end AgenticCommerce
