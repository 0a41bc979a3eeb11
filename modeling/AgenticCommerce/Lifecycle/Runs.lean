/-
# Runs of the system

Everything that changes the store, as one step relation: the operations of the
API, each a unit of work that a raise rolls back; the callbacks of the provider,
which are committed after a raise as well; the two jobs of the worker; and the
catalog, whose tables change in any way at any time.  Every step takes every
purchase along its phases (`Operation.advances`), so in every state of a run from
a store without purchases each of them is in some phase (`coherent_of_run`).

Three consequences: a hold agrees with the status of its checkout
(`hold_agrees`), an order is of a verified payment (`order_of_verified_payment`),
and a payment is backed by a consumed authorization (`payment_bound`).
-/

import AgenticCommerce.Lifecycle.Payments
import AgenticCommerce.Payments.Webhooks
import AgenticCommerce.Worker

namespace AgenticCommerce

open Relational

section

variable {w w' : World} {env : Env}

/-! ### Callbacks -/

/-- What a handler leaves behind, returned or refused, is coherent. -/
theorem handle_advances {event : Webhook.Event} {p : Payment} {orderId payId : Option String}
    {signature : String} (hdb : w.db.Coherent)
    (h : Leaves (Webhook.handle env event p orderId payId signature) w w') :
    w.db.Advances env.now w'.db := by
  unfold Webhook.handle at h
  split_ifs at h with hcapture
  · rcases h with ⟨_, h⟩ | ⟨e, he, h⟩
    · simp only [Webhook.capture, Work.bind_eq_ok, ofAnswer_eq_ok, Work.pure_eq_ok] at h
      obtain ⟨_, _, ⟨_, rfl⟩, _, _, ⟨_, rfl⟩, _, _, h, _, rfl⟩ := h
      exact verifyPayment_advances hdb (.inl ⟨_, h⟩)
    · simp only [Webhook.capture, Work.bind_eq_error, ofAnswer_eq_ok, ofAnswer_eq_error,
        Work.pure_eq_error, and_false, exists_false, or_false] at h
      rcases h with ⟨_, rfl⟩ | ⟨_, _, ⟨_, rfl⟩, ⟨_, rfl⟩ | ⟨_, _, ⟨_, rfl⟩, h⟩⟩
      · exact .refl _ _
      · exact .refl _ _
      · exact verifyPayment_advances hdb (.inr ⟨e, he, h⟩)
  · rcases h with ⟨_, h⟩ | ⟨e, he, h⟩
    · simp only [Webhook.failure, Work.bind_eq_ok, ofAnswer_eq_ok, Work.pure_eq_ok] at h
      obtain ⟨_, _, ⟨_, rfl⟩, _, _, h, _, rfl⟩ := h
      exact failPayment_advances hdb (.inl ⟨_, h⟩)
    · simp only [Webhook.failure, Work.bind_eq_error, ofAnswer_eq_ok, ofAnswer_eq_error,
        Work.pure_eq_error, and_false, exists_false, or_false] at h
      rcases h with ⟨_, rfl⟩ | ⟨_, _, ⟨_, rfl⟩, h⟩
      · exact .refl _ _
      · exact failPayment_advances hdb (.inr ⟨e, he, h⟩)

theorem setEventStatus_purchase {eventId : String} {status : ProviderEventStatus}
    {time : Option Time} {u : Unit} (h : Webhook.setEventStatus eventId status time w = .ok u w') :
    w'.db.purchase = w.db.purchase := by
  simp only [Webhook.setEventStatus, Work.bind_eq_ok, update_eq_ok, flush_eq_ok] at h
  obtain ⟨_, _, rfl, _, rfl⟩ := h
  rfl

theorem enqueueFailedWebhook_purchase {event : Webhook.Event} {delivery : Webhook.Delivery}
    {error : String} {u : Unit}
    (h : Webhook.enqueueFailedWebhook env event delivery error w = .ok u w') :
    w'.db.purchase = w.db.purchase := by
  simp only [Webhook.enqueueFailedWebhook, Work.bind_eq_ok, insert_eq_ok, flush_eq_ok,
    Option.map_eq_some_iff] at h
  obtain ⟨_, _, ⟨_, ⟨_, _, rfl⟩, rfl⟩, _, rfl⟩ := h
  rfl

/-- A callback that is answered was handled by a session that could go on. -/
theorem conclude_purchase {event : Webhook.Event} {delivery : Webhook.Delivery}
    {outcome : Except Failure Unit} {a : Webhook.Answer}
    (h : Webhook.conclude env event delivery outcome w = .ok a w') :
    w'.db.purchase = w.db.purchase ∧ ∀ e, outcome = .error e → e.usable = true := by
  cases outcome with
  | ok u =>
      simp only [Webhook.conclude, Work.bind_eq_ok, Work.pure_eq_ok] at h
      obtain ⟨_, _, h, _, rfl⟩ := h
      exact ⟨setEventStatus_purchase h, by rintro _ ⟨⟩⟩
  | error e =>
      simp only [Webhook.conclude, Work.bind_eq_ok, raiseIf_eq_ok, Work.pure_eq_ok] at h
      obtain ⟨_, _, ⟨husable, rfl⟩, _, _, h, _, rfl⟩ := h
      refine ⟨enqueueFailedWebhook_purchase h, fun e' he' => ?_⟩
      obtain rfl := Except.error.inj he'
      simpa using husable

theorem dispatch_advances {event : Webhook.Event} {delivery : Webhook.Delivery}
    {a : Webhook.Answer} (hdb : w.db.Coherent)
    (h : Webhook.dispatch env event delivery w = .ok a w') : w.db.Advances env.now w'.db := by
  unfold Webhook.dispatch at h
  split_ifs at h with htype
  · simp only [Work.bind_eq_ok, ofAnswer_eq_ok, Work.ask_eq_ok] at h
    obtain ⟨ids, _, ⟨_, rfl⟩, found, _, ⟨_, rfl⟩, h⟩ := h
    cases found with
    | none =>
        simp only [Work.bind_eq_ok, Work.pure_eq_ok] at h
        obtain ⟨_, v, hstatus, _, _, henqueue, _, rfl⟩ := h
        exact .of_eq ((enqueueFailedWebhook_purchase henqueue).trans
          (setEventStatus_purchase hstatus))
    | some p =>
        simp only [Work.bind_eq_ok, update_eq_ok, Work.attempt_eq_ok] at h
        obtain ⟨_, w₁, hw₁, outcome, v, hrun, hend⟩ := h
        have hnamed : w₁.db.purchase = w.db.purchase := by rw [← hw₁]; rfl
        obtain ⟨hsame, husable⟩ := conclude_purchase hend
        have hleaves : Leaves (Webhook.handle env event p ids.1
            (ids.2.orElse fun _ => given p.providerPaymentId) delivery.signature) w₁ v := by
          rcases hrun with ⟨_, hrun, rfl⟩ | ⟨e, hrun, rfl⟩
          · exact .inl ⟨_, hrun⟩
          · exact .inr ⟨e, husable e rfl, hrun⟩
        exact ((Database.Advances.of_eq hnamed).trans
          (handle_advances (hdb.of_eq hnamed) hleaves)).trans (.of_eq hsame)
  · simp only [Work.bind_eq_ok, Work.pure_eq_ok] at h
    obtain ⟨_, _, h, _, rfl⟩ := h
    exact .of_eq (setEventStatus_purchase h)

theorem processWebhook_advances {delivery : Webhook.Delivery} {a : Webhook.Answer}
    (hdb : w.db.Coherent) (h : Webhook.processWebhook env delivery w = .ok a w') :
    w.db.Advances env.now w'.db := by
  simp only [Webhook.processWebhook, Work.bind_eq_ok, ofAnswer_eq_ok, query_eq_ok] at h
  obtain ⟨event, _, ⟨_, rfl⟩, existing, _, ⟨_, rfl⟩, h⟩ := h
  cases existing with
  | some earlier =>
      obtain ⟨_, rfl⟩ := Work.pure_eq_ok.1 h
      exact .refl _ _
  | none =>
      simp only [Work.bind_eq_ok, flush_eq_ok, nested, Work.savepoint_eq_ok, insert_eq_ok,
        Option.map_eq_some_iff] at h
      obtain ⟨_, _, ⟨_, rfl⟩, _, v, hins, h⟩ := h
      rcases hins with ⟨_, ⟨_, _, ⟨_, ⟨_, _, rfl⟩, rfl⟩, _, hv⟩, rfl⟩ | ⟨_, _, _, rfl, rfl⟩
      · have hnamed : v.db.purchase = w.db.purchase := by rw [← hv]; rfl
        exact (Database.Advances.of_eq hnamed).trans (dispatch_advances (hdb.of_eq hnamed) h)
      · obtain ⟨_, rfl⟩ := Work.pure_eq_ok.1 h
        exact .of_eq rfl

/-! ### The worker -/

theorem sweepCheckout_advances {id : String} {u : Unit}
    (h : Worker.sweepCheckout env id w = .ok u w') : w.db.Advances env.now w'.db := by
  simp only [Worker.sweepCheckout, Work.bind_eq_ok, query_eq_ok] at h
  obtain ⟨found, _, ⟨hc, rfl⟩, h⟩ := h
  cases found with
  | none =>
      obtain ⟨_, rfl⟩ := Work.pure_eq_ok.1 h
      exact .refl _ _
  | some c =>
      have hc' : (w.db.purchase id).checkout = some c := hc
      obtain ⟨-, rfl⟩ := mem_checkouts.2 hc'
      simp only [Option.elim_some, Work.bind_eq_ok, flush_eq_ok, nested, Work.savepoint_eq_ok,
        Work.pure_eq_ok] at h
      obtain ⟨_, _, ⟨_, rfl⟩, _, v, hitem, _, rfl⟩ := h
      rcases hitem with ⟨_, ⟨_, v₁, htr, _, v₂, hrel, _, rfl⟩, _⟩ | ⟨_, _, _, _, rfl⟩
      · obtain ⟨s, _, hnext, rfl⟩ := transition_checkout htr
        rw [CheckoutStatus.next_expireCheckout] at hnext
        split_ifs at hnext with hsource
        obtain rfl := Option.some.inj hnext
        have hmoved := releaseStock_moved
          (((w.db.moved_self c.checkoutId).setCheckout .expired).silent rfl) hrel
        refine .of_moved hmoved (Purchase.advances_close hc' ?_ ?_ (.inr rfl)
          (Reservation.release_status _))
        · rcases hsource with hs | hs | hs <;> rw [hs] <;> decide
        · unfold CheckoutStatus.Over
          rcases hsource with hs | hs | hs <;> rw [hs] <;> decide
      · exact .of_eq rfl

theorem sweepCheckouts_advances (ids : List String) {u : Unit} :
    ∀ {w : World}, Worker.sweepCheckouts env ids w = .ok u w' → w.db.Advances env.now w'.db := by
  induction ids with
  | nil =>
      intro w h
      obtain ⟨_, rfl⟩ := Work.pure_eq_ok.1 h
      exact .refl _ _
  | cons id rest ih =>
      intro w h
      simp only [Worker.sweepCheckouts, Work.bind_eq_ok] at h
      obtain ⟨_, v, hitem, hrest⟩ := h
      exact (sweepCheckout_advances hitem).trans (ih hrest)

theorem sweepExpiredCheckouts_advances {u : Unit}
    (h : Worker.sweepExpiredCheckouts env w = .ok u w') : w.db.Advances env.now w'.db := by
  simp only [Worker.sweepExpiredCheckouts, Work.bind_eq_ok, query_eq_ok] at h
  obtain ⟨_, _, ⟨_, rfl⟩, h⟩ := h
  exact sweepCheckouts_advances _ h

theorem settleReported_advances {id : String} {order : ProviderOrder} {u : Unit}
    (hdb : w.db.Coherent) (h : Worker.settleReported env id order w = .ok u w') :
    w.db.Advances env.now w'.db := by
  unfold Worker.settleReported at h
  split_ifs at h
  · simp only [Work.bind_eq_ok, Work.pure_eq_ok] at h
    obtain ⟨_, _, h, _, rfl⟩ := h
    exact verifyPayment_advances hdb (.inl ⟨_, h⟩)
  · simp only [Work.bind_eq_ok, Work.pure_eq_ok] at h
    obtain ⟨_, _, h, _, rfl⟩ := h
    exact failPayment_advances hdb (.inl ⟨_, h⟩)
  · obtain ⟨_, rfl⟩ := Work.pure_eq_ok.1 h
    exact .refl _ _

/-! ### The system -/

/-- What changes the store.  `catalog` stands for everything else: the tables the
services only read change in any way. -/
inductive Operation where
  | createCheckout (buyerId merchantId offerId : String) (quantity ttlMinutes : ℤ)
  | cancelCheckout (buyerId merchantId checkoutId : String)
  | requestAuthorization (buyerId merchantId checkoutId : String) (ttlMinutes : ℤ)
  | approveAuthorization (buyerId merchantId authorizationId : String)
  | rejectAuthorization (buyerId merchantId authorizationId : String)
  | createPayment (buyerId merchantId checkoutId authorizationId : String)
      (idempotencyKey : Option String)
  | verifyPayment (paymentId : String) (providerPaymentId signature shippingAddress : Option String)
  | failPayment (paymentId : String) (reason : Option String)
  | refundPayment (paymentId : String) (amountMinor : Option ℤ) (reason : String)
      (merchantId : Option String)
  | processWebhook (delivery : Webhook.Delivery)
  | sweepExpiredCheckouts
  | pollPayment (paymentId : String) (order : ProviderOrder)
  | importInventory (offerId : String) (imported : ℤ)
  | catalog (offers : Table Offer) (products : Table Product) (merchantRules : Table MerchantRules)
      (buyerPolicies : Table BuyerPolicy)

/-- The world after an operation. -/
def Operation.run (env : Env) (w : World) : Operation → World
  | createCheckout b m o q ttl => request (Checkout.createCheckout env b m o q ttl) w
  | cancelCheckout b m id => request (Checkout.cancelCheckout env b m id) w
  | requestAuthorization b m id ttl => request (Authorization.requestAuthorization env b m id ttl) w
  | approveAuthorization b m id => request (Authorization.approveAuthorization env b m id) w
  | rejectAuthorization b m id => request (Authorization.rejectAuthorization env b m id) w
  | createPayment b m id a key => request (Payment.createPayment env b m id a key) w
  | verifyPayment id pay sig addr => request (Payment.verifyPayment env id pay sig addr) w
  | failPayment id reason => request (Payment.failPayment env id reason) w
  | refundPayment id amount reason m => request (Payment.refundPayment env id amount reason m) w
  | processWebhook delivery => request (Webhook.processWebhook env delivery) w
  | sweepExpiredCheckouts => request (Worker.sweepExpiredCheckouts env) w
  | pollPayment id order => request (Worker.settleReported env id order) w
  | importInventory o q => request (Inventory.importInventory o q) w
  | catalog offers products merchantRules buyerPolicies =>
      { w with db := { w.db with offers, products, merchantRules, buyerPolicies } }

/-- Some operation leads from `w` to `w'`. -/
def Step (w w' : World) : Prop := ∃ env op, w' = Operation.run env w op

theorem importInventory_purchase {offerId : String} {imported : ℤ} {u : Unit}
    (h : Inventory.importInventory offerId imported w = .ok u w') :
    w'.db.purchase = w.db.purchase := by
  simp only [Inventory.importInventory, Work.bind_eq_ok, query_eq_ok] at h
  obtain ⟨found, _, ⟨_, rfl⟩, h⟩ := h
  cases found with
  | none =>
      simp only [Work.bind_eq_ok, raiseIf_eq_ok, insert_eq_ok, Option.map_eq_some_iff] at h
      obtain ⟨_, _, ⟨_, rfl⟩, _, ⟨_, _, rfl⟩, rfl⟩ := h
      rfl
  | some _ =>
      obtain rfl := update_eq_ok.1 h
      rfl

/-- **Every operation moves purchases along.** -/
theorem Operation.advances (hdb : w.db.Coherent) (op : Operation) :
    w.db.Advances env.now (op.run env w).db := by
  have lift : ∀ {α : Type} (m : Op α), (∀ a w', m w = .ok a w' → w.db.Advances env.now w'.db) →
      w.db.Advances env.now (request m w).db := fun m hm =>
    request_induction (P := fun db => w.db.Advances env.now db) (.refl _ _) fun a w' h _ => hm a w' h
  cases op with
  | createCheckout => exact lift _ fun _ _ => createCheckout_advances
  | cancelCheckout => exact lift _ fun _ _ => cancelCheckout_advances
  | requestAuthorization => exact lift _ fun _ _ => requestAuthorization_advances
  | approveAuthorization => exact lift _ fun _ _ => approveAuthorization_advances hdb
  | rejectAuthorization => exact lift _ fun _ _ => rejectAuthorization_advances hdb
  | createPayment => exact lift _ fun _ _ => createPayment_advances
  | verifyPayment => exact lift _ fun _ _ h => verifyPayment_advances hdb (.inl ⟨_, h⟩)
  | failPayment => exact lift _ fun _ _ h => failPayment_advances hdb (.inl ⟨_, h⟩)
  | refundPayment => exact lift _ fun _ _ => refundPayment_advances
  | processWebhook => exact lift _ fun _ _ => processWebhook_advances hdb
  | sweepExpiredCheckouts => exact lift _ fun _ _ => sweepExpiredCheckouts_advances
  | pollPayment => exact lift _ fun _ _ => settleReported_advances hdb
  | importInventory => exact lift _ fun _ _ h => .of_eq (importInventory_purchase h)
  | catalog => exact .of_eq rfl

/-- No purchase is stored. -/
def Unsold (db : Database) : Prop :=
  db.checkouts.rows = [] ∧ db.reservations.rows = [] ∧ db.authorizations.rows = [] ∧
    db.payments.rows = [] ∧ db.orders.rows = []

theorem Unsold.coherent {db : Database} (h : Unsold db) : db.Coherent := by
  obtain ⟨hcheckouts, hreservations, hauthorizations, hpayments, horders⟩ := h
  refine fun id => ⟨.absent, .absent ?_⟩
  simp [Database.purchase, Database.checkoutById, Inventory.getReservation,
    Database.orderOfCheckout, Table.first, Table.select, hcheckouts, hreservations,
    hauthorizations, hpayments, horders]

/-- **Every purchase is in some phase throughout a run.** -/
theorem coherent_of_run {w₀ w : World} (h₀ : Unsold w₀.db)
    (hrun : Relation.ReflTransGen Step w₀ w) : w.db.Coherent := by
  refine invariant_of_steps (I := fun w : World => w.db.Coherent) (fun u v hu huv => ?_)
    h₀.coherent hrun
  obtain ⟨env, op, rfl⟩ := huv
  exact hu.advance (op.advances hu)

/-- What an operation commits can be flushed. -/
theorem Operation.flushable (op : Operation) (h : w.db.flushable = true) :
    (op.run env w).db.flushable = true := by
  have lift : ∀ {α : Type} (m : Op α), (request m w).db.flushable = true := fun m =>
    request_induction (P := fun db => db.flushable = true) h fun _ _ _ hflush => hflush
  cases op with
  | catalog offers products rules policies => exact h
  | _ => exact lift _

/-- **Every committed store can be flushed.** -/
theorem flushable_of_run {w₀ w : World} (h₀ : Unsold w₀.db)
    (hrun : Relation.ReflTransGen Step w₀ w) : w.db.flushable = true := by
  refine invariant_of_steps (I := fun w : World => w.db.flushable = true) (fun u v hu huv => ?_)
    ?_ hrun
  · obtain ⟨env, op, rfl⟩ := huv
    exact op.flushable hu
  · obtain ⟨-, -, -, hpayments, -⟩ := h₀
    rw [Database.flushable, hpayments]
    rfl

end

end AgenticCommerce
