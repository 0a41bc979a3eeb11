/-
# The worker

Three jobs of `apps/worker/main.py`.  The sweep expires checkouts past their
deadline, each inside a savepoint of one batch transaction, so that an item that
is refused is skipped; unlike the expiry branch of `createPayment` it gives the
transition no deadline to check.  The poll asks the provider about payments that
are `unknown`, each in a transaction of its own, and hands what it reports to the
payment service; a provider that raises ends the whole run of the poll.  The
warning about an order in any other status is left out.  The replay hands dead
letters to the webhook processor once more, each inside a savepoint: the letter is
marked there as well, so a replay that raises takes its own attempt back.  The alert
about letters that have used up their attempts is left out.
-/

import AgenticCommerce.Payments.Webhooks
import Mathlib.Data.List.Sort

namespace AgenticCommerce

open Relational

namespace Worker

/-! ### The sweep of expired checkouts -/

/-- The statuses the sweep selects. -/
def sweptStatuses : List CheckoutStatus := [.created, .policyChecked, .authorizationPending,
  .authorized]

/-- The checkouts that are due, by deadline, 200 at most. -/
def expiredCheckouts (now : Time) (db : Database) : List String :=
  (((db.checkouts.select fun c => c.status ∈ sweptStatuses && decide (c.expiresAt ≤ now)).insertionSort
    fun c d => c.expiresAt ≤ d.expiresAt).take 200).map Checkout.checkoutId

/-- One checkout, inside its savepoint. -/
def sweepCheckout (env : Env) (checkoutId : String) : Op Unit := do
  let checkout ← query fun db => db.checkoutById checkoutId
  checkout.elim (pure ()) fun c => do
    flush
    let _ ← nested (do
      transition (.checkout c) .expireCheckout
        { actorType := "system", actorId := some "worker_sweep", merchantId := some c.merchantId,
          now := env.now }
      Inventory.releaseStock env c.checkoutId (some c.merchantId)
      flush)
    pure ()

/-- The items of the batch, one after the other. -/
def sweepCheckouts (env : Env) : List String → Op Unit
  | [] => pure ()
  | checkoutId :: rest => do
      sweepCheckout env checkoutId
      sweepCheckouts env rest

/-- `_sweep_expired_checkouts`. -/
def sweepExpiredCheckouts (env : Env) : Op Unit := do
  let due ← query (expiredCheckouts env.now)
  sweepCheckouts env due

/-! ### The poll of unknown payments -/

/-- The payments in status `unknown`, 50 at most. -/
def unknownIds (db : Database) : List String :=
  ((db.payments.select fun p => p.status == .unknown).take 50).map Payment.paymentId

/-- What the poll does about the order the provider reports. -/
def settleReported (env : Env) (paymentId : String) (order : ProviderOrder) : Op Unit := do
  if order.status = "paid" then
    let _ ← Payment.verifyPayment env paymentId
    pure ()
  else if order.status = "failed" ∨ order.status = "cancelled" then
    let _ ← Payment.failPayment env paymentId (some "Provider reported failure")
    pure ()
  else pure ()

/-- One payment of the poll, a unit of work of its own; `none` when the provider
raises, which ends the run. -/
def pollPayment (env : Env) (paymentId : String) (w : World) : Option World :=
  match w.db.paymentById paymentId with
  | none => some w
  | some payment =>
      if payment.status ≠ .unknown then some w
      else match given payment.providerOrderId with
        | none => some w
        | some orderId => match env.provider.fetchOrder 4 orderId with
          | .error _ => none
          | .ok order => some (request (settleReported env paymentId order) w)

/-- The payments of the poll, one after the other, each with its own readings of the
clock and its own identifiers. -/
def pollPayments (envs : String → Env) : List String → World → World
  | [], w => w
  | paymentId :: rest, w => match pollPayment (envs paymentId) paymentId w with
      | none => w
      | some w' => pollPayments envs rest w'

/-- `_poll_unknown_payments`. -/
def pollUnknownPayments (envs : String → Env) (w : World) : World :=
  pollPayments envs (unknownIds w.db) w

/-! ### The replay of dead letters -/

/-- The dead letters that are due, 50 at most. -/
def staleLetters (now : Time) (db : Database) : List FailedWebhook :=
  (db.failedWebhooks.select fun f => f.status == .pending && f.nextRetryAt.any (· ≤ now) &&
    decide (f.attemptCount < f.maxAttempts)).take 50

/-- The delivery a dead letter is replayed as: its stored payload, written out again by
`dumps`, which stands for `json.dumps` and the encoding. -/
def replayOf (dumps : Json → List UInt8) (entry : FailedWebhook) : Webhook.Delivery :=
  { rawBody := dumps (if entry.payload.truthy then entry.payload else .obj []),
    signature := entry.signature.getD "",
    providerName := (given (some entry.provider)).getD "fake" }

/-- `result.get("ok")`: every answer of `process_webhook` says so. -/
def isOk (_ : Webhook.Answer) : Bool := true

/-- The letter once its replay was answered: the counter is the one that was loaded. -/
def answered (now : Time) (entry : FailedWebhook) (result : Webhook.Answer) (f : FailedWebhook) :
    FailedWebhook :=
  let f := { f with attemptCount := entry.attemptCount + 1, lastAttemptAt := some now }
  if isOk result then
    { f with
      status := .resolved, resolvedAt := some now,
      resolutionNote := some "Retry succeeded via reconcile_stale_webhooks" }
  else
    { f with
      nextRetryAt := some (now + minutes (5 * 2 ^ (f.attemptCount - 1))),
      lastError := some "unknown" }

/-- One dead letter, inside its savepoint. -/
def reconcileWebhook (env : Env) (dumps : Json → List UInt8) (now : Time)
    (entry : FailedWebhook) : Op Unit := do
  flush
  let _ ← nested (do
    let result ← Webhook.processWebhook env (replayOf dumps entry)
    update fun db =>
      { db with
        failedWebhooks := db.failedWebhooks.modify
          (fun f => f.failedWebhookId == entry.failedWebhookId) (answered now entry result)
          fun _ => rfl }
    flush)
  pure ()

/-- The letters of the batch, one after the other, each with its own readings of the
clock and its own identifiers. -/
def reconcileWebhooks (envs : String → Env) (dumps : Json → List UInt8) (now : Time) :
    List FailedWebhook → Op Unit
  | [] => pure ()
  | entry :: rest => do
      reconcileWebhook (envs entry.failedWebhookId) dumps now entry
      reconcileWebhooks envs dumps now rest

/-- `_reconcile_stale_webhooks`. -/
def reconcileStaleWebhooks (envs : String → Env) (dumps : Json → List UInt8) (now : Time) :
    Op Unit := do
  let stale ← query (staleLetters now)
  reconcileWebhooks envs dumps now stale

end Worker
end AgenticCommerce
