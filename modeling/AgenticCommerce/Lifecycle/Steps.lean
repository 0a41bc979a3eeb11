/-
# What every operation leaves alone

The frames of the services (`Lifecycle.Frames`), read for a whole operation: a request that
raised has rolled back, so an operation stays in a frame when its runs that return do.  What
`createPayment` does is asked for apart, since it alone writes idempotency records and
alone asks the provider for orders.
-/

import AgenticCommerce.Lifecycle.Runs
import AgenticCommerce.Payments.Delivery

namespace AgenticCommerce

open Relational Work

section

variable {env : Env} {w : World} {S : Database → Database → Prop}
  {C : List ProviderCall → List ProviderCall → Prop}

/-- **Every operation stays in a frame** that is closed under refunds and under changes of the
catalog, if creating a payment does. -/
theorem Operation.frame_of [BooksFrame S] [TransitionFrame S] [PaymentFrame S] [CheckoutFrame S]
    [AuthorizationFrame S] [LetterFrame S]
    (hrefund : ∀ (db : Database) (e : AuditEvent), e.refusal = false → e.transition = false →
      S db (db.appendAudit e))
    (hcatalog : ∀ (db : Database) offers products merchantRules buyerPolicies,
      S db { db with offers, products, merchantRules, buyerPolicies })
    (op : Operation)
    (hpay : ∀ b m id a key, op = .createPayment b m id a key →
      S w.db (request (Payment.createPayment env b m id a key) w).db) :
    S w.db (op.run env w).db := by
  have lift : ∀ {α : Type} (m : Op α), Returns (OnWorld S Anything) m →
      S w.db (request m w).db := fun m hm => request_moves hm w
  cases op with
  | createCheckout => exact lift _ (.of createCheckout_frame)
  | cancelCheckout => exact lift _ (.of cancelCheckout_frame)
  | requestAuthorization => exact lift _ requestAuthorization_returns
  | approveAuthorization => exact lift _ approveAuthorization_returns
  | rejectAuthorization => exact lift _ rejectAuthorization_returns
  | createPayment b m id a key => exact hpay b m id a key rfl
  | verifyPayment => exact lift _ (.of verifyPayment_frame)
  | failPayment => exact lift _ (.of failPayment_frame)
  | refundPayment =>
      exact lift _ (.of (refundPayment_frame
        (fun db e he => hrefund db e he.refusal he.transition) fun _ _ _ _ => trivial))
  | processWebhook => exact lift _ (.of Webhook.processWebhook_frame)
  | sweepExpiredCheckouts => exact lift _ (.of sweepExpiredCheckouts_frame)
  | pollPayment => exact lift _ (.of settleReported_frame)
  | importInventory => exact lift _ (.of importInventory_frame)
  | catalog offers products rules policies => exact hcatalog w.db offers products rules policies

/-- **What every operation asks of the provider** stays in a relation that is closed under
refunds, if creating a payment does. -/
theorem Operation.calls_of [IsPreorder (List ProviderCall) C]
    (hrefund : ∀ calls id amount answer, C calls (calls ++ [.refund id amount answer]))
    (op : Operation)
    (hpay : ∀ b m id a key, op = .createPayment b m id a key →
      C w.calls (request (Payment.createPayment env b m id a key) w).calls) :
    C w.calls (op.run env w).calls := by
  have lift : ∀ {α : Type} (m : Op α), Moves (OnWorld Anything C) m →
      C w.calls (request m w).calls := fun m hm => request_calls hm w
  cases op with
  | createCheckout => exact lift _ createCheckout_frame
  | cancelCheckout => exact lift _ cancelCheckout_frame
  | requestAuthorization => exact lift _ requestAuthorization_calls
  | approveAuthorization => exact lift _ approveAuthorization_calls
  | rejectAuthorization => exact lift _ rejectAuthorization_calls
  | createPayment b m id a key => exact hpay b m id a key rfl
  | verifyPayment => exact lift _ verifyPayment_frame
  | failPayment => exact lift _ failPayment_frame
  | refundPayment => exact lift _ (refundPayment_frame (fun _ _ _ => trivial) hrefund)
  | processWebhook => exact lift _ Webhook.processWebhook_frame
  | sweepExpiredCheckouts => exact lift _ sweepExpiredCheckouts_frame
  | pollPayment => exact lift _ settleReported_frame
  | importInventory => exact lift _ importInventory_frame
  | catalog => exact refl_of C w.calls

end
end AgenticCommerce
