/-
# The order service

`OrderService.confirm_order` of `services/orders/service.py`: the order of a paid
checkout is inserted inside a savepoint, so that a key it clashes with leaves the
rest of the unit of work intact.  Setting the savepoint flushes what is pending.
Four columns of an order are unique, and the order number is a short random text,
so the clash need not be with the same checkout or the same payment; the call then
raises, and the writes made before it stay in the session.
-/

import AgenticCommerce.Audit

namespace AgenticCommerce

open Relational

/-- `OrderV1`. -/
structure OrderV1 where
  orderId : String
  checkoutId : String
  paymentId : String
  buyerId : String
  merchantId : String
  amountMinor : ℤ
  currency : CurrencyCode
  status : OrderStatus
  confirmedAt : Time
  deriving DecidableEq

namespace Order

/-- `_order_to_schema`. -/
def toSchema (order : Order) : OrderV1 :=
  { orderId := order.orderId, checkoutId := order.checkoutId, paymentId := order.paymentId,
    buyerId := order.buyerId, merchantId := order.merchantId, amountMinor := order.totalMinor,
    currency := order.currency, status := order.status, confirmedAt := order.confirmedAt }

/-- `f"ORD-{new_id('num')[:8].upper()}"`. -/
def newNumber (env : Env) : String :=
  "ORD-" ++ String.ofList ((env.newId "num").toList.take 8 |>.map Char.toUpper)

/-- The row of a new order. -/
def rowOf (env : Env) (checkout : Checkout) (paymentId : String)
    (shippingAddress : Option String) : Order :=
  { orderId := env.newId "ord", orderNumber := newNumber env,
    checkoutId := checkout.checkoutId, paymentId, buyerId := checkout.buyerId,
    merchantId := checkout.merchantId, status := .confirmed, totalMinor := checkout.totalMinor,
    amountMinor := checkout.totalMinor, currency := checkout.currency, shippingAddress,
    confirmedAt := env.now, createdAt := env.now }

/-- The insert, and the event that follows it. -/
def insertRow (checkout : Checkout) (order : Order) : Op OrderV1 := do
  flush
  let inserted ← nested (do
    insert fun db => (db.orders.insert? order).map fun orders => { db with orders }
    flush)
  match inserted with
  | .ok _ => do
      appendEvent
        { merchantId := some checkout.merchantId, actorType := "system", actorId := none,
          eventType := "ORDER_CONFIRMED", aggregateType := "order", aggregateId := order.orderId,
          amountMinor := some checkout.totalMinor,
          metadata := [("order_number", .str order.orderNumber),
            ("checkout_id", .str order.checkoutId), ("payment_id", .str order.paymentId)] }
      pure order.toSchema
  | .error _ => do
      let existing ← query fun db => db.orderOfCheckout order.checkoutId
      match existing with
      | some existing =>
          if existing.paymentId = order.paymentId then pure existing.toSchema
          else throw (.raised ("Checkout " ++ order.checkoutId ++
            " is already confirmed by another payment.") .alreadyFinalized)
      | none => throw (.raised ("Checkout " ++ order.checkoutId ++
            " is already confirmed by another payment.") .alreadyFinalized)

/-- `OrderService.confirm_order`. -/
def confirmOrder (env : Env) (checkoutId paymentId : String)
    (shippingAddress : Option String := none) : Op OrderV1 := do
  let existing ← query fun db => db.orderOfCheckout checkoutId
  match existing with
  | some order =>
      if order.paymentId = paymentId then pure order.toSchema
      else throw (.raised ("Checkout " ++ checkoutId ++ " is already confirmed by payment " ++
        order.paymentId ++ ".") .alreadyFinalized)
  | none => do
      let paid ← query fun db => db.orderOfPayment paymentId
      match paid with
      | some order => pure order.toSchema
      | none => do
          let checkout ← require (fun db => db.checkoutById checkoutId)
            (.raised "The checkout does not exist." .notFound)
          let _ ← require (fun db => db.paymentById paymentId)
            (.raised "The payment does not exist." .notFound)
          insertRow checkout (rowOf env checkout paymentId shippingAddress)

end Order
end AgenticCommerce
