/-
# The payment provider

`services/payments/provider.py`: what a provider answers, and the calls the
services make to it.  A provider is not part of the store, so it is a parameter:
any functions whatever.  Its fetches take the number of the call within an
operation, so that two fetches of one identifier may answer differently, and
`createOrder`, `refund` and `paymentLink`, which have an effect at the provider,
are logged with their answers (`ProviderCall`).
-/

import AgenticCommerce.Errors
import AgenticCommerce.Schema

namespace AgenticCommerce

/-- `ProviderOrder`. -/
structure ProviderOrder where
  providerOrderId : String
  amountMinor : ℤ
  currency : String
  receipt : String
  status : String
  deriving DecidableEq

/-- `ProviderPayment`. -/
structure ProviderPayment where
  providerPaymentId : String
  providerOrderId : String
  amountMinor : ℤ
  currency : String
  status : String
  captured : Bool := true
  deriving DecidableEq

/-- `ProviderRefund`. -/
structure ProviderRefund where
  refundId : String
  providerPaymentId : String
  amountMinor : ℤ
  status : String
  deriving DecidableEq

/-- The arguments of `create_order`; `notes` names the checkout and the payment. -/
structure OrderRequest where
  amountMinor : ℤ
  currency : String
  receipt : String
  checkoutNote : String
  paymentNote : String
  idempotencyKey : String
  deriving DecidableEq

/-- The body of a payment-link request; its reference may be missing. -/
structure LinkRequest where
  amountMinor : ℤ
  currency : String
  referenceId : Option String
  deriving DecidableEq

/-- A call with an effect at the provider, and what the provider answered. -/
inductive ProviderCall where
  | createOrder (request : OrderRequest) (answer : Except Failure ProviderOrder)
  | paymentLink (request : LinkRequest) (answer : Except Failure String)
  | refund (providerPaymentId : String) (amountMinor : ℤ) (answer : Except Failure ProviderRefund)

/-- `PaymentProvider`. -/
structure Provider where
  name : String := "fake"
  keyId : Option String := none
  testMode : Bool := true
  createOrder : List ProviderCall → OrderRequest → Except Failure ProviderOrder
  fetchPayment : ℕ → String → Except Failure ProviderPayment
  fetchOrder : ℕ → String → Except Failure ProviderOrder
  verifySignature : List UInt8 → String → Bool
  verifyPaymentSignature : String → String → Bool
  refund : List ProviderCall → String → ℤ → Except Failure ProviderRefund
  paymentLink : List ProviderCall → LinkRequest → Except Failure String

/-- A fetched payment is a capture of the amount and currency of `payment`. -/
def ProviderPayment.captures (fetched : ProviderPayment) (statuses : List String)
    (payment : Payment) : Bool :=
  fetched.status ∈ statuses && fetched.captured && fetched.amountMinor == payment.amountMinor &&
    sameCurrency fetched.currency payment.currency

/-- A fetched order is paid, in the amount and currency of `payment`. -/
def ProviderOrder.pays (fetched : ProviderOrder) (payment : Payment) : Bool :=
  fetched.status == "paid" && fetched.amountMinor == payment.amountMinor &&
    sameCurrency fetched.currency payment.currency

end AgenticCommerce
