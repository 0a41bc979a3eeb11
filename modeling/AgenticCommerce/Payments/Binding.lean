/-
# What the provider is asked to collect

A call that created an order or a payment link demands money (`Demand`).  It is backed
when the amount and the currency are those of a checkout of the principal's, under a
payment that refers to the same order and an authorization of that checkout.  Every order
that the two endpoints create is backed.  A link for a new checkout is backed when the
currency the client named is the offer's, which nobody compares; a link for a checkout
that the client named is backed only when the client happens to name what is stored.
-/

import AgenticCommerce.Payments.Charging
import AgenticCommerce.Payments.Locking
import AgenticCommerce.Payments.Razorpay

namespace AgenticCommerce

open Relational Work

/-- What a call demands of a buyer, and the order it refers to. -/
structure Demand where
  amountMinor : ℤ
  currency : String
  orderId : Option String
  deriving DecidableEq

/-- The demand of a call that created an order or a payment link. -/
def ProviderCall.demand? : ProviderCall → Option Demand
  | .createOrder request (.ok order) =>
      some ⟨request.amountMinor, request.currency, some order.providerOrderId⟩
  | .paymentLink request (.ok _) =>
      some ⟨request.amountMinor, request.currency, request.referenceId⟩
  | _ => none

/-- The call asks for a payment link. -/
def ProviderCall.isLink : ProviderCall → Bool
  | .paymentLink _ _ => true
  | _ => false

namespace Demand

/-- The demand is for the total of the principal's checkout `c`, under the payment `p`
with the order it refers to and the authorization `x` of that checkout. -/
structure BackedBy (d : Demand) (principal : Razorpay.Principal) (c : Checkout) (p : Payment)
    (x : Authorization) : Prop where
  merchant : c.merchantId = principal.merchantId
  buyer : some c.buyerId = principal.buyerId
  total : d.amountMinor = c.totalMinor
  currency : d.currency = c.currency.value
  paid : p.checkoutId = c.checkoutId
  amount : p.amountMinor = d.amountMinor
  referenced : d.orderId.isSome = true ∧ p.providerOrderId = d.orderId
  authorized : p.authorizationId = x.authorizationId ∧ x.checkoutId = c.checkoutId
  granted : x.status = .approved ∨ x.status = .consumed

/-- The demand is backed in a store. -/
def Backed (principal : Razorpay.Principal) (db : Database) (d : Demand) : Prop :=
  ∃ c ∈ db.checkouts, ∃ p ∈ db.payments, ∃ x ∈ db.authorizations, d.BackedBy principal c p x

end Demand

/-- Two stores agree on what `f` reads. -/
def Database.Keeps {β : Type} (f : Database → β) (db db' : Database) : Prop := f db = f db'

namespace Database

instance {β : Type} {f : Database → β} : IsPreorder Database (Keeps f) where
  refl _ := rfl
  trans _ _ _ h h' := h.trans h'

instance : BooksFrame (Keeps Database.checkouts) := ⟨fun _ _ _ _ _ _ => rfl, fun _ _ _ => rfl⟩
instance : RecordsFrame (Keeps Database.checkouts) := ⟨fun _ _ => rfl⟩
instance : AuthorizationFrame (Keeps Database.checkouts) :=
  ⟨fun _ _ _ _ _ => rfl, fun _ _ _ _ => rfl, fun _ _ _ _ _ => rfl⟩

instance : BooksFrame (Keeps Database.idempotencyRecords) :=
  ⟨fun _ _ _ _ _ _ => rfl, fun _ _ _ => rfl⟩
instance : TransitionFrame (Keeps Database.idempotencyRecords) :=
  ⟨fun _ _ _ _ _ _ => rfl, fun _ _ _ _ _ => rfl⟩
instance : CheckoutFrame (Keeps Database.idempotencyRecords) := ⟨fun _ _ _ _ _ => rfl⟩
instance : AuthorizationFrame (Keeps Database.idempotencyRecords) :=
  ⟨fun _ _ _ _ _ => rfl, fun _ _ _ _ => rfl, fun _ _ _ _ _ => rfl⟩

end Database

variable {env : Env} {settings : Razorpay.Settings} {principal : Razorpay.Principal}
  {w w' : World} {b m a id : String} {key : Option String}

/-! ### Creating a payment -/

/-- What a payment that charged a checkout has passed and left. -/
structure Collected (env : Env) (b m id : String) (key : Option String) (c : Checkout)
    (x : Authorization) (order : ProviderOrder) (body : PaymentV1) (w w' : World) : Prop where
  found : w.db.checkoutOf m b id = some c
  stored : c ∈ w'.db.checkouts
  owned : c.merchantId = m ∧ c.buyerId = b
  asked : w'.calls = w.calls ++ [.createOrder (Payment.orderRequest c
    (Payment.rowOf env c b m x.authorizationId key)) (.ok order)]
  answered : body.providerOrderId = some order.providerOrderId
  payment : Payment.orderedRow env c x key order ∈ w'.db.payments
  consumed : { x with status := .consumed } ∈ w'.db.authorizations
  authorized : x.checkoutId = c.checkoutId
  flushable : w'.db.flushable = true

theorem Charged.collected {c : Checkout} {x : Authorization} {offer : Offer} {order : ProviderOrder}
    {record : Option IdempotencyRecord} {body : PaymentV1} {w₁ : World}
    (hclear : Cleared env b m id c offer w) (hmove : OnWorld (Database.Keeps Database.checkouts) Eq w w₁)
    (hx : x.merchantId = m ∧ x.buyerId = b) (hauth : x.checkoutId = c.checkoutId)
    (h : Charged env c key record x order body w₁ w') : Collected env b m id key c x order body w w' := by
  obtain ⟨hmem, hkeys⟩ := Table.first_eq_some hclear.checkout
  simp only [Bool.and_eq_true, beq_iff_eq] at hkeys
  obtain ⟨rfl, rfl⟩ := hx
  exact
    { found := hclear.checkout
      stored := by rw [h.checkouts, ← show w.db.checkouts = w₁.db.checkouts from hmove.1]; exact hmem
      owned := ⟨hkeys.1.2, hkeys.2⟩
      asked := by rw [h.asked, ← show w.calls = w₁.calls from hmove.2]
      answered := by rw [h.answered]; rfl
      payment := h.payment
      consumed := h.consumed
      authorized := hauth
      flushable := h.flushable }

/-- **A payment that was created** was replayed from a record of its key, or collected. -/
theorem createPayment_collects {body : PaymentV1}
    (h : Payment.createPayment env b m id a key w = .ok body w') :
    (w'.calls = w.calls ∧ ∃ r ∈ w.db.idempotencyRecords, given key = some r.idempotencyKey) ∨
      ∃ c x order, Collected env b m id key c x order body w w' := by
  obtain ⟨c, offer, hclear, hcases⟩ := createPayment_ok h
  have hcollect : ∀ {record : Option IdempotencyRecord} {w₁ : World},
      OnWorld (Database.Keeps Database.checkouts) Eq w w₁ →
      Payment.charge env c offer b m a key record w₁ = .ok body w' →
      ∃ c x order, Collected env b m id key c x order body w w' := fun hmove hcharge => by
    obtain ⟨x, order, hx, hauth, -, -, -, hdone⟩ := charge_ok hcharge
    have hkeys := (Table.first_eq_some hx).2
    simp only [Bool.and_eq_true, beq_iff_eq] at hkeys
    exact ⟨c, x, order, hdone.collected hclear hmove ⟨hkeys.1.2, hkeys.2⟩ hauth⟩
  rcases hcases with ⟨-, hcharge⟩ | ⟨k, lock, w₁, hk, hlock, hcases⟩
  · exact .inr (hcollect (refl_of (OnWorld _ Eq) w) hcharge)
  have hmoves : Moves (OnWorld (Database.Keeps Database.checkouts) Eq) (Idempotency.acquireLock env
    (env.clock 1) "buyer" (m ++ ":" ++ b) "POST /payments" k
    (env.requestHash id a c.totalMinor)) := acquireLock_frame
  have hmove := hmoves.1 _ _ _ hlock
  rcases hcases with ⟨hreplay, rfl⟩ | ⟨-, hcharge⟩
  · refine .inl ⟨hmove.2.symm, lock.record, ?_⟩
    have hisReplay : lock.isReplay = true := by
      by_contra hnot
      rw [Payment.replay, if_neg fun hall => hnot hall.1] at hreplay
      exact nomatch hreplay
    obtain ⟨hmem, hkeys⟩ := Table.first_eq_some (Idempotency.acquireLock_replay hlock hisReplay).1
    simp only [Bool.and_eq_true, beq_iff_eq] at hkeys
    exact ⟨hmem, by rw [hk, hkeys.2]⟩
  · exact .inr (hcollect hmove hcharge)

/-- The demand of an order. -/
def Checkout.demand (c : Checkout) (order : ProviderOrder) : Demand :=
  ⟨c.totalMinor, c.currency.value, some order.providerOrderId⟩

/-- **What was collected is backed.** -/
theorem Collected.backed {c : Checkout} {x : Authorization} {order : ProviderOrder}
    {body : PaymentV1} (hm : m = principal.merchantId) (hb : some b = principal.buyerId)
    (h : Collected env b m id key c x order body w w') :
    (c.demand order).Backed principal w'.db := by
  obtain ⟨rfl, rfl⟩ := h.owned
  exact ⟨c, h.stored, _, h.payment, _, h.consumed,
    { merchant := hm
      buyer := hb
      total := rfl
      currency := rfl
      paid := rfl
      amount := rfl
      referenced := ⟨rfl, rfl⟩
      authorized := ⟨rfl, h.authorized⟩
      granted := .inr rfl }⟩

end AgenticCommerce
