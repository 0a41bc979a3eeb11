/-
# Provider webhooks

`services/payments/webhooks.py`.  An authentic callback is deduplicated by a row
that is written before anything else is known about it; it is then matched to a
payment and handed to the payment service.  What happens when the payment service
raises is the point of the module: the exception is caught, the callback is stored
as a dead letter, and the same session is committed, with whatever the service had
written before it raised.

When the session cannot be used any more, storing the dead letter fails too; the
source then answers `dead_lettered` all the same, and the commit of the request
raises.  No answer leaves the request in that case, so the model raises at once.
The alerts a dead letter fires are left out.
-/

import AgenticCommerce.Payments.Service

namespace AgenticCommerce

open Relational

/-- The provider event with that identifier, updated. -/
def Database.modifyEvent (db : Database) (eventId : String) (f : ProviderEvent → ProviderEvent)
    (h : ∀ e, Keyed.key (f e) = Keyed.key e) : Database :=
  { db with
    providerEvents := db.providerEvents.modify (fun e => e.providerEventId == eventId) f h }

namespace Webhook

/-- `status` of an answer. -/
inductive AnswerStatus where
  | alreadyProcessed | ignored | deadLettered | processed
  deriving DecidableEq, Repr

/-- What `process_webhook` answers. -/
structure Answer where
  status : AnswerStatus
  eventId : String
  deriving DecidableEq, Repr

/-- A callback as it arrives. -/
structure Delivery where
  rawBody : List UInt8
  signature : String
  providerName : String := "fake"

/-- A parsed callback. -/
structure Event where
  eventId : String
  eventType : String
  rawBodyHash : String
  payload : Json

/-- `x.get(k, default)`, which raises for anything but a dict. -/
def getKey (x : Json) (k : String) (default : Json := .null) : Except Failure Json :=
  (x.get k default).elim (.error (.exception "AttributeError")) .ok

/-- A text a query compares a column with; a value of another type is refused by the
store, and a false value is not compared. -/
def textParam (x : Json) : Except Failure (Option String) :=
  if x.truthy then match x with
    | .str s => .ok (some s)
    | _ => .error (.exception "ProgrammingError")
  else .ok none

/-- The identifier of a payment at the provider, as a text. -/
def idText (env : Env) (x : Json) : Option String :=
  if x.truthy then some (x.toStr env.repr) else none

/-- The identifier and the type of a callback. -/
def parse (env : Env) (delivery : Delivery) : Except Failure Event := do
  if env.provider.verifySignature delivery.rawBody delivery.signature = false then
    throw (.raised "The webhook signature is not valid." .webhookSignatureInvalid)
  match env.loads delivery.rawBody with
  | none => throw (.raised "Malformed webhook JSON payload." .validationError)
  | some payload =>
      let rawBodyHash := env.bodyHash delivery.rawBody
      let rawEventId := (← getKey payload "event_id").orElse (← getKey payload "id")
      let rawType := (← getKey payload "event").orElse
        (← getKey payload "event_type" (.str "payment.captured"))
      pure
        { eventId := (idText env rawEventId).getD
            ("evt_hash_" ++ String.ofList (rawBodyHash.toList.take 32)),
          eventType := rawType.toStr env.repr, rawBodyHash, payload }

/-- The row that an earlier delivery of the callback left. -/
def duplicate (event : Event) (signature : String) (db : Database) : Option ProviderEvent :=
  db.providerEvents.first fun e => e.providerEventId == event.eventId ||
    (e.rawBodyHash == event.rawBodyHash && e.signature == signature)

/-- The row of a callback that has just arrived. -/
def rowOf (env : Env) (event : Event) (delivery : Delivery) : ProviderEvent :=
  { providerEventId := event.eventId, provider := delivery.providerName,
    eventType := event.eventType, signature := delivery.signature,
    rawBodyHash := event.rawBodyHash, payload := event.payload, status := .received,
    receivedAt := env.now, createdAt := env.now }

/-- The events that report a capture. -/
def captureTypes : List String := ["payment.captured", "payment.authorized", "order.paid"]

/-- The events that report a failure. -/
def failureTypes : List String := ["payment.failed", "order.failed"]

/-- The identifiers a callback carries: of the provider's order, and of its payment. -/
def references (env : Env) (payload : Json) : Except Failure (Option String × Option String) := do
  let wrapped ← getKey payload "payload" (.obj [])
  let payment ← getKey wrapped "payment" (.obj [])
  let entity ← getKey payment "entity" (.obj [])
  let orderId ← textParam ((← getKey entity "order_id").orElse (← getKey payload "order_id"))
  let paymentId := (← getKey entity "id").orElse (← getKey payload "provider_payment_id")
  pure (orderId, idText env paymentId)

/-- The internal payment identifier a callback may carry. -/
def internalId (payload : Json) : Except Failure (Option String) :=
  match payload with
  | .obj items => match Json.lookup items "payment_id" with
    | some (.str s) => .ok (some s)
    | some .null => .ok none
    | some _ => .error (.exception "ProgrammingError")
    | none => .ok none
  | _ => .ok none

/-- The payment of a provider's order. -/
def paymentOfOrder (orderId : String) (db : Database) : Option Payment :=
  db.payments.first fun p => p.providerOrderId == some orderId

/-- The payment a callback is about. -/
def matchPayment (payload : Json) (orderId : Option String) (db : Database) :
    Except Failure (Option Payment) :=
  match orderId.bind fun o => paymentOfOrder o db with
  | some payment => .ok (some payment)
  | none => (internalId payload).map fun i => i.bind db.paymentById

/-- `_enqueue_failed_webhook`. -/
def enqueueFailedWebhook (env : Env) (event : Event) (delivery : Delivery) (error : String) :
    Op Unit := do
  insert fun db => (db.failedWebhooks.insert?
    { failedWebhookId := env.deadLetterId event.rawBodyHash, provider := delivery.providerName,
      eventType := event.eventType, signature := some delivery.signature,
      rawBodyHash := event.rawBodyHash, payload := event.payload,
      nextRetryAt := some (env.now + minutes 5),
      lastError := (given (some error)).map fun e => String.ofList (e.toList.take 500) }).map
        fun failedWebhooks => { db with failedWebhooks }
  flush

/-- The provider reports a capture of the payment, by the payment's identifier. -/
def reportsCapture (env : Env) (payment : Payment) (providerPaymentId : String) :
    Except String Unit :=
  match env.provider.fetchPayment 0 providerPaymentId with
  | .ok fetched =>
      if fetched.captures ["captured", "paid", "authorized"] payment then .ok ()
      else .error ("Provider payment status '" ++ fetched.status ++
        "' is uncaptured or amount/currency mismatched")
  | .error failure => .error ("Provider payment fetch failed: " ++ failure.text)

/-- The provider reports the payment's amount as paid, by the order's identifier. -/
def reportsPaid (env : Env) (payment : Payment) (orderId : String) : Except String Unit :=
  match env.provider.fetchOrder 1 orderId with
  | .ok fetched =>
      if fetched.pays payment then .ok ()
      else .error ("Provider order status '" ++ fetched.status ++
        "' is unpaid or amount/currency mismatched")
  | .error failure => .error ("Provider order fetch failed: " ++ failure.text)

/-- The independent status fetch of a reported capture. -/
def independentCheck (env : Env) (payment : Payment) (providerPaymentId : String)
    (orderId : Option String) : Except String Unit :=
  match reportsCapture env payment providerPaymentId, orderId with
  | .ok (), _ => .ok ()
  | .error e, none => .error e
  | .error _, some o => reportsPaid env payment o

/-- A capture that was reported: the provider is asked, and the payment verified. -/
def capture (env : Env) (payment : Payment) (orderId providerPaymentId : Option String)
    (signature : String) : Op Unit := do
  let payId ← ofAnswer (providerPaymentId.elim
    (.error (.raised "Webhook payload is missing required provider payment identifier."
      .validationError)) .ok)
  ofAnswer (match independentCheck env payment payId orderId with
    | .ok () => .ok ()
    | .error e => .error (.raised ("Independent provider verification failed: " ++ e ++ ".")
        .webhookSignatureInvalid))
  let _ ← Payment.verifyPayment env payment.paymentId (some payId) (some signature)
  pure ()

/-- A failure that was reported. -/
def failure (env : Env) (event : Event) (payment : Payment) : Op Unit := do
  let reason ← ofAnswer (getKey event.payload "error_description" (.str "Payment failed"))
  let _ ← Payment.failPayment env payment.paymentId (some (reason.toStr env.repr))
  pure ()

/-- The handler of a callback, by its type. -/
def handle (env : Env) (event : Event) (payment : Payment)
    (orderId providerPaymentId : Option String) (signature : String) : Op Unit :=
  if event.eventType ∈ captureTypes then capture env payment orderId providerPaymentId signature
  else failure env event payment

/-- The status of a callback's row. -/
def setEventStatus (eventId : String) (status : ProviderEventStatus) (processedAt : Option Time) :
    Op Unit := do
  update fun db => db.modifyEvent eventId (fun e => { e with status, processedAt }) fun _ => rfl
  flush

/-- The handler has run: a failure is stored as a dead letter, and what the handler
wrote before it is kept. -/
def conclude (env : Env) (event : Event) (delivery : Delivery) :
    Except Failure Unit → Op Answer
  | .ok () => do
      setEventStatus event.eventId .processed (some env.now)
      pure { status := .processed, eventId := event.eventId }
  | .error failure => do
      raiseIf (failure.usable = false) failure
      enqueueFailedWebhook env event delivery failure.text
      pure { status := .deadLettered, eventId := event.eventId }

/-- A callback whose row has been written. -/
def dispatch (env : Env) (event : Event) (delivery : Delivery) : Op Answer :=
  if event.eventType ∉ captureTypes ++ failureTypes then do
    setEventStatus event.eventId .ignored none
    pure { status := .ignored, eventId := event.eventId }
  else do
    let ids ← ofAnswer (references env event.payload)
    let found ← Work.ask fun w => matchPayment event.payload ids.1 w.db
    match found with
    | none => do
        setEventStatus event.eventId .unmatched none
        enqueueFailedWebhook env event delivery
          "Payment not found for webhook — enqueued for retry or manual replay"
        pure { status := .deadLettered, eventId := event.eventId }
    | some payment => do
        update fun db => db.modifyEvent event.eventId
          (fun e => { e with paymentId := some payment.paymentId }) fun _ => rfl
        let outcome ← Work.attempt (handle env event payment ids.1
          (ids.2.orElse fun _ => given payment.providerPaymentId) delivery.signature)
        conclude env event delivery outcome

/-- `process_webhook`. -/
def processWebhook (env : Env) (delivery : Delivery) : Op Answer := do
  let event ← ofAnswer (parse env delivery)
  let existing ← query (duplicate event delivery.signature)
  match existing with
  | some earlier => pure { status := .alreadyProcessed, eventId := earlier.providerEventId }
  | none => do
      flush
      let inserted ← nested (do
        insert fun db => (db.providerEvents.insert? (rowOf env event delivery)).map
          fun providerEvents => { db with providerEvents }
        flush)
      match inserted with
      | .error _ => pure { status := .alreadyProcessed, eventId := event.eventId }
      | .ok _ => dispatch env event delivery

end Webhook
end AgenticCommerce
