/-
# Refusals that are rolled back

The services write the record of a refusal and then raise, and the unit of work of the
request answers a raise with a rollback.  So no record that a request writes of a refusal
is stored: a request that returns writes none (`Database.Quiet`), and one that raises
leaves the store alone.
-/

import AgenticCommerce.Lifecycle.Refusals
import AgenticCommerce.Payments.Delivery
import AgenticCommerce.Payments.Endpoints

namespace AgenticCommerce

open Relational Work

/-- The requests of the interface that reach the services. -/
inductive ApiRequest where
  | createCheckout (buyerId merchantId offerId : String) (quantity ttlMinutes : ℤ)
  | cancelCheckout (buyerId merchantId checkoutId : String)
  | requestAuthorization (buyerId merchantId checkoutId : String) (ttlMinutes : ℤ)
  | approveAuthorization (buyerId merchantId authorizationId : String)
  | rejectAuthorization (buyerId merchantId authorizationId : String)
  | createPayment (buyerId merchantId checkoutId authorizationId : String)
      (idempotencyKey : Option String)
  | verifyPayment (paymentId : String) (providerPaymentId signature shippingAddress : Option String)
  | failPayment (paymentId : String) (reason : Option String)
  | refundPayment (paymentId : String) (amountMinor : Option ℤ) (reason : String)
      (merchantId : Option String)
  | processWebhook (delivery : Webhook.Delivery)
  | createRazorpayOrder (settings : Razorpay.Settings) (merchantStored : Bool)
      (principal : Razorpay.Principal) (order : Razorpay.CreateOrderRequest)
  | razorpayCheckoutUrl (settings : Razorpay.Settings) (principal : Razorpay.Principal)
      (link : Razorpay.CheckoutUrlRequest)
  | importInventory (offerId : String) (imported : ℤ)

/-- An operation without its answer. -/
def silently {α : Type} (m : Op α) : Op Unit := do
  let _ ← m
  pure ()

namespace ApiRequest

/-- The operation of a request. -/
def op (env : Env) : ApiRequest → Op Unit
  | createCheckout b m o q ttl => silently (Checkout.createCheckout env b m o q ttl)
  | cancelCheckout b m id => silently (Checkout.cancelCheckout env b m id)
  | requestAuthorization b m id ttl => silently (Authorization.requestAuthorization env b m id ttl)
  | approveAuthorization b m id => silently (Authorization.approveAuthorization env b m id)
  | rejectAuthorization b m id => silently (Authorization.rejectAuthorization env b m id)
  | createPayment b m id a key => silently (Payment.createPayment env b m id a key)
  | verifyPayment id pay sig addr => silently (Payment.verifyPayment env id pay sig addr)
  | failPayment id reason => silently (Payment.failPayment env id reason)
  | refundPayment id amount reason m => silently (Payment.refundPayment env id amount reason m)
  | processWebhook delivery => silently (Webhook.processWebhook env delivery)
  | createRazorpayOrder settings stored principal order =>
      silently (Razorpay.createRazorpayOrder env settings stored principal order)
  | razorpayCheckoutUrl settings principal link =>
      silently (Razorpay.getRazorpayCheckoutUrl env settings principal link)
  | importInventory o q => Inventory.importInventory o q

/-- The request writes the record `r` in its session: it is there at the end, and was not
in the store. -/
def Writes (env : Env) (q : ApiRequest) (w : World) (r : Refusal) : Prop :=
  ¬w.db.Refuses r ∧ (final (q.op env) w).db.Refuses r

end ApiRequest

section

variable {env : Env} {settings : Razorpay.Settings} {principal : Razorpay.Principal}
  {w w' : World} {e : Failure} {b m id : String}

theorem Returns.silently {α : Type} {R : World → World → Prop} [IsPreorder World R] {m : Op α}
    (h : Returns R m) : Returns R (silently m) :=
  .bind h fun _ => .of .pure

/-! ### The two endpoints -/

section

variable {S : Database → Database → Prop} [BooksFrame S] [RecordsFrame S] [TransitionFrame S]
  [PaymentFrame S] [CheckoutFrame S] [AuthorizationFrame S]

omit [CheckoutFrame S] in
theorem Razorpay.pay_returns : Returns (OnWorld S Anything) (pay env b m id) :=
  .bind requestAuthorization_returns fun _ => .bind (.of moves_raiseIf) fun _ =>
    .bind (createPayment_returns fun _ _ _ => trivial) fun _ => .bind (.of moves_flush) fun _ =>
    .of .pure

theorem Razorpay.createRazorpayOrder_returns {merchantStored : Bool} {request : CreateOrderRequest} :
    Returns (OnWorld S Anything)
      (createRazorpayOrder env settings merchantStored principal request) :=
  .bind (.of moves_raiseIf) fun _ => .bind (.of moves_ofAnswer) fun _ => fun w a w' h =>
    Returns.bind (.of ensureParties_frame) (fun _ => .bind (.of resolveCheckout_frame) fun _ =>
      .bind pay_returns fun _ => .of .pure) w a w' (reported_ok h)

theorem Razorpay.getRazorpayCheckoutUrl_returns {request : CheckoutUrlRequest} :
    Returns (OnWorld S Anything) (getRazorpayCheckoutUrl env settings principal request) := by
  refine .bind (.of moves_ofAnswer) fun _ => .bind (.of moves_raiseIf) fun _ =>
    .bind (.of moves_ofAnswer) fun _ => .bind ?_ fun _ => .bind (.of ?_) fun _ => .of .pure
  · unfold resolveCollection
    cases given request.checkoutId with
    | some id => exact .of .pure
    | none =>
        exact .bind (.of moves_require) fun _ => .bind (.of createCheckout_frame) fun _ =>
          .bind pay_returns fun _ => .of .pure
  · exact .ite (fun _ => .bind (moves_call fun _ _ => trivial) fun _ => .pure) fun _ => .pure

end

/-! ### Every request -/

/-- **A request that returns wrote no record of a refusal.** -/
theorem ApiRequest.quiet (env : Env) (q : ApiRequest) :
    Returns (OnWorld Database.Quiet Anything) (q.op env) := by
  cases q with
  | createCheckout => exact Returns.silently (.of createCheckout_frame)
  | cancelCheckout => exact Returns.silently (.of cancelCheckout_frame)
  | requestAuthorization => exact Returns.silently requestAuthorization_returns
  | approveAuthorization => exact Returns.silently approveAuthorization_returns
  | rejectAuthorization => exact Returns.silently rejectAuthorization_returns
  | createPayment => exact Returns.silently (createPayment_returns fun _ _ _ => trivial)
  | verifyPayment => exact Returns.silently (.of verifyPayment_frame)
  | failPayment => exact Returns.silently (.of failPayment_frame)
  | refundPayment =>
      exact Returns.silently (.of (refundPayment_frame
        (fun _ _ he => (Database.plain_appendAudit he.refusal).quiet) fun _ _ _ _ => trivial))
  | processWebhook => exact Returns.silently (.of Webhook.processWebhook_frame)
  | createRazorpayOrder => exact Returns.silently Razorpay.createRazorpayOrder_returns
  | razorpayCheckoutUrl => exact Returns.silently Razorpay.getRazorpayCheckoutUrl_returns
  | importInventory => exact .of importInventory_frame

/-- **No record of a refusal survives its request.**  A request that writes one has raised,
and its store is the one it started with; in particular a payment that is refused with
`PRICE_CHANGED` leaves the status of every checkout as it was. -/
theorem refusal_lost (env : Env) (w : World) :
    (∀ (q : ApiRequest) (r : Refusal), q.Writes env w r →
      (request (q.op env) w).db = w.db ∧ ¬(request (q.op env) w).db.Refuses r) ∧
    ∀ b m id a key message w',
      Payment.createPayment env b m id a key w = .error (.raised message .priceChanged) w' →
        (request (Payment.createPayment env b m id a key) w).db = w.db := by
  constructor
  · rintro q r ⟨hbefore, hwritten⟩
    rcases final_cases (q.op env) w with ⟨u, hok⟩ | ⟨e, herr⟩
    · exact absurd ((ApiRequest.quiet env q w u _ hok).1 r hwritten) hbefore
    · have hsame := congrArg World.db (request_of_error herr)
      exact ⟨hsame, by rwa [hsame]⟩
  · intro b m id a key message w' h
    rw [request_of_error h]
    rfl

end

/-! ### A price that changes and changes back -/

/-- The shop, with digests that tell prices apart. -/
def pricedEnv : Env :=
  { shopEnv with priceHash := fun s => if s.unitPriceMinor = 100 then "100" else "other" }

/-- The offer is imported at another price. -/
def repriced (price : ℤ) (w : World) : World :=
  (Operation.catalog
    ⟨[{ soleOffer with unitPriceMinor := price }], List.pairwise_singleton _ _⟩ w.db.products
    w.db.merchantRules w.db.buyerPolicies).run pricedEnv w

/-- An authorized checkout whose offer costs more by now. -/
def dearer : World :=
  repriced 120 ((Operation.requestAuthorization "byr" "mer" "chk" 15).run pricedEnv
    ((Operation.createCheckout "byr" "mer" "ofr" 2 15).run pricedEnv openShop))

/-- The payment of the shop's checkout. -/
def shopPayment : Op PaymentV1 := Payment.createPayment pricedEnv "byr" "mer" "chk" "ath" none

theorem dearer_writes :
    (ApiRequest.createPayment "byr" "mer" "chk" "ath" none).Writes pricedEnv dearer
      (.priceChanged "chk") := by
  constructor
  · change ¬∃ c ∈ dearer.db.checkouts.rows, c.checkoutId = "chk" ∧ c.status = .priceChanged
    decide
  · change ∃ c ∈ (final ((ApiRequest.createPayment "byr" "mer" "chk" "ath" none).op pricedEnv)
      dearer).db.checkouts.rows, c.checkoutId = "chk" ∧ c.status = .priceChanged
    decide

theorem refusal_lost_dearer :
    (request ((ApiRequest.createPayment "byr" "mer" "chk" "ath" none).op pricedEnv) dearer).db =
        dearer.db ∧
      ¬(request ((ApiRequest.createPayment "byr" "mer" "chk" "ath" none).op pricedEnv)
        dearer).db.Refuses (.priceChanged "chk") :=
  (refusal_lost pricedEnv dearer).1 _ _ dearer_writes

/-- **A refusal that is forgotten.**  The payment is refused with `PRICE_CHANGED` and the
checkout stays authorized; when the price is the old one again, it is paid. -/
theorem price_change_forgotten :
    ¬∀ (env : Env) (w : World) (b m id a : String) (key : Option String) (message : String)
      (w' : World), Payment.createPayment env b m id a key w =
          .error (.raised message .priceChanged) w' →
        (∃ c ∈ (request (Payment.createPayment env b m id a key) w).db.checkouts,
          c.checkoutId = id ∧ c.status = .priceChanged) ∧
        ∀ offers body w'', Payment.createPayment env b m id a key
          ((Operation.catalog offers w.db.products w.db.merchantRules w.db.buyerPolicies).run env
            (request (Payment.createPayment env b m id a key) w)) ≠ .ok body w'' := by
  intro h
  have hrefused : ∃ w', shopPayment dearer = .error (.raised
      "The price changed after approval, so no charge was made." .priceChanged) w' := ⟨_, rfl⟩
  obtain ⟨w', hrefused⟩ := hrefused
  obtain ⟨body, w'', hpaid⟩ := exists_of_returns
    (m := shopPayment) (s := repriced 100 (request shopPayment dearer)) (by decide)
  exact (h pricedEnv dearer "byr" "mer" "chk" "ath" none _ w' hrefused).2 _ body w'' hpaid

end AgenticCommerce
