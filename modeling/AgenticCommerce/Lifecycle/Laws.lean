/-
# The laws of a purchase

What holds in every state of every run, whatever the order of the operations: the
hold of a checkout agrees with its status, an order stands for one verified payment
of a completed checkout, and a payment is backed by one consumed authorization of
its own checkout and was created before the authorization and the checkout ran out.
-/

import AgenticCommerce.Lifecycle.Runs

namespace AgenticCommerce

open Relational

/-! ### One purchase of the shop -/

/-- The offer of the shop. -/
def soleOffer : Offer :=
  { offerId := "ofr", productId := "prd", merchantId := "mer", unitPriceMinor := 100,
    expiresAt := minutes 60 }

theorem openStock_unique :
    [({ offerId := "ofr", availableQuantity := 5 } : Inventory)].Pairwise fun a b =>
      clashes a b = false := List.pairwise_singleton _ _

/-- A shop with one offer, five pieces of it, and no purchase. -/
def openShop : World where
  db :=
    { offers := ⟨[soleOffer], by decide⟩
      products := ⟨[{ productId := "prd", categoryId := "shoes" }], by decide⟩
      inventory := ⟨_, openStock_unique⟩ }

/-- A provider that takes every order and reports every payment as captured. -/
def capturingProvider : Provider :=
  { (default : Provider) with
    createOrder := fun _ r => .ok ⟨"order_1", r.amountMinor, r.currency, r.receipt, "created"⟩
    fetchPayment := fun _ id => .ok ⟨id, "order_1", 200, "INR", "captured", true⟩
    fetchOrder := fun _ id => .ok ⟨id, 200, "INR", "", "paid"⟩
    verifySignature := fun _ _ => true }

/-- The shop at time zero. -/
def shopEnv : Env := { (default : Env) with provider := capturingProvider }

/-- Two pieces in a checkout. -/
def checkedOut : World :=
  (Operation.createCheckout "byr" "mer" "ofr" 2 15).run shopEnv openShop

/-- The checkout is authorized by policy. -/
def authorizedOnce : World := (Operation.requestAuthorization "byr" "mer" "chk" 15).run shopEnv checkedOut

/-- Its payment is pending. -/
def paymentPending : World :=
  (Operation.createPayment "byr" "mer" "chk" "ath" none).run shopEnv authorizedOnce

/-- Its payment is verified. -/
def paymentVerified : World :=
  (Operation.verifyPayment "pay" (some "pay_1") none none).run shopEnv paymentPending

theorem openShop_unsold : Unsold openShop.db := ⟨rfl, rfl, rfl, rfl, rfl⟩

theorem checkedOut_reached : Relation.ReflTransGen Step openShop checkedOut :=
  .single ⟨shopEnv, _, rfl⟩

theorem paymentPending_reached : Relation.ReflTransGen Step openShop paymentPending :=
  (checkedOut_reached.tail ⟨shopEnv, _, rfl⟩).tail ⟨shopEnv, _, rfl⟩

theorem paymentVerified_reached : Relation.ReflTransGen Step openShop paymentVerified :=
  paymentPending_reached.tail ⟨shopEnv, _, rfl⟩

section

variable {w₀ w : World}

/-! ### Holds and checkouts -/

/-- **Holds agree with checkouts.**  In every state of a run, a checkout has one
reservation; it is held exactly while the checkout is created, waits for the buyer
or is authorized, committed exactly when the checkout is completed, and released
exactly when it is cancelled, expired or its payment failed. -/
theorem hold_agrees (h₀ : Unsold w₀.db) (hrun : Relation.ReflTransGen Step w₀ w) :
    ∀ c ∈ w.db.checkouts, ∃ r ∈ w.db.reservations, r.checkoutId = c.checkoutId ∧
      (∀ r' ∈ w.db.reservations, r'.checkoutId = c.checkoutId → r' = r) ∧
      (r.status = .held ↔
        c.status = .created ∨ c.status = .authorizationPending ∨ c.status = .authorized) ∧
      (r.status = .committed ↔ c.status = .completed) ∧
      (r.status = .released ↔
        (c.status = .cancelled ∨ c.status = .expired) ∨ c.status = .paymentFailed) := by
  intro c hmem
  obtain ⟨ph, hat⟩ := coherent_of_run h₀ hrun c.checkoutId
  have hc := mem_checkouts.1 ⟨hmem, rfl⟩
  obtain ⟨r, hr, hagree⟩ := hat.holds_agree hc
  obtain ⟨hrmem, hrid⟩ := mem_reservations.2 hr
  refine ⟨r, hrmem, hrid, fun r' hr' hid => ?_, hagree⟩
  have hr'' := mem_reservations.1 ⟨hr', hid⟩
  exact Option.some.inj (hr''.symm.trans hr)

theorem hold_agrees_checkedOut : checkedOut.db.checkouts.rows.length = 1 ∧
    ∀ c ∈ checkedOut.db.checkouts, ∃ r ∈ checkedOut.db.reservations, r.checkoutId = c.checkoutId ∧
      (r.status = .held ↔
        c.status = .created ∨ c.status = .authorizationPending ∨ c.status = .authorized) := by
  refine ⟨by decide, fun c hc => ?_⟩
  obtain ⟨r, hr, hid, -, hheld, -⟩ := hold_agrees openShop_unsold checkedOut_reached c hc
  exact ⟨r, hr, hid, hheld⟩

/-! ### Orders and payments -/

/-- **One order for a paid checkout.**  In every state of a run no two orders share
a checkout or a payment, and the payment of an order is verified, its checkout
completed and its reservation committed, all for the same amount. -/
theorem order_of_verified_payment (h₀ : Unsold w₀.db) (hrun : Relation.ReflTransGen Step w₀ w) :
    (∀ o ∈ w.db.orders, ∀ o' ∈ w.db.orders,
      o.checkoutId = o'.checkoutId ∨ o.paymentId = o'.paymentId → o = o') ∧
    ∀ o ∈ w.db.orders, ∃ p ∈ w.db.payments, ∃ c ∈ w.db.checkouts, ∃ r ∈ w.db.reservations,
      p.paymentId = o.paymentId ∧ p.checkoutId = o.checkoutId ∧ c.checkoutId = o.checkoutId ∧
        r.checkoutId = o.checkoutId ∧ p.status = .verified ∧ c.status = .completed ∧
        r.status = .committed ∧ o.totalMinor = c.totalMinor ∧ c.totalMinor = p.amountMinor := by
  refine ⟨fun o ho o' ho' hsame => Table.eq_of_clash ho ho' ?_, fun o ho => ?_⟩
  · simp only [clashes, Keyed.clash, Keyed.key, Bool.or_eq_true, decide_eq_true_eq]
    rcases hsame with hsame | hsame
    · exact .inl (.inr hsame)
    · exact .inr hsame
  · obtain ⟨ph, hat⟩ := coherent_of_run h₀ hrun o.checkoutId
    obtain ⟨c, r, p, hc, hr, hp, hpaid, hverified, hcompleted, hcommitted, htotal, hamount⟩ :=
      hat.order_paid (mem_orders.1 ⟨ho, rfl⟩)
    obtain ⟨hcmem, hcid⟩ := mem_checkouts.2 hc
    obtain ⟨hrmem, hrid⟩ := mem_reservations.2 hr
    obtain ⟨hpmem, hpid⟩ := mem_payments.2 hp
    exact ⟨p, hpmem, c, hcmem, r, hrmem, hpaid.symm, hpid, hcid, hrid, hverified, hcompleted,
      hcommitted, htotal, hamount⟩

theorem order_of_verified_payment_paymentVerified : paymentVerified.db.orders.rows.length = 1 ∧
    ∀ o ∈ paymentVerified.db.orders, ∃ p ∈ paymentVerified.db.payments,
      p.paymentId = o.paymentId ∧ p.status = .verified ∧ o.totalMinor = p.amountMinor := by
  refine ⟨by decide, fun o ho => ?_⟩
  obtain ⟨p, hp, c, -, r, -, hid, -, -, -, hverified, -, -, htotal, hamount⟩ :=
    (order_of_verified_payment openShop_unsold paymentVerified_reached).2 o ho
  exact ⟨p, hp, hid, hverified, htotal.trans hamount⟩

/-! ### Payments and authorizations -/

/-- The rows a payment rests on: a consumed authorization of the payment's checkout,
buyer and merchant, for the checkout's total and price. -/
def BackedBy (db : Database) (p : Payment) (a : Authorization) (c : Checkout) : Prop :=
  a ∈ db.authorizations ∧ c ∈ db.checkouts ∧ a.authorizationId = p.authorizationId ∧
    c.checkoutId = p.checkoutId ∧ a.checkoutId = p.checkoutId ∧ a.buyerId = p.buyerId ∧
    a.merchantId = p.merchantId ∧ c.buyerId = p.buyerId ∧ c.merchantId = p.merchantId ∧
    a.status = .consumed ∧ a.amountCeilingMinor = p.amountMinor ∧ p.amountMinor = c.totalMinor ∧
    a.priceHash = c.priceHash

theorem Database.Coherent.backed {db : Database} (hdb : db.Coherent) {p : Payment}
    (hp : p ∈ db.payments) : ∃ a c, BackedBy db p a c ∧ p.createdAt < a.validUntil ∧
      p.createdAt < c.expiresAt := by
  obtain ⟨ph, hat⟩ := hdb p.checkoutId
  obtain ⟨-, c, a, hc, ha, hconsumed, hbinds, hdraws⟩ :=
    hat.payment_backed (mem_payments.1 ⟨hp, rfl⟩)
  obtain ⟨hcmem, -⟩ := mem_checkouts.2 hc
  obtain ⟨hamem, -⟩ := mem_authorizations.2 ha
  obtain ⟨haid, habuyer, hamerchant, hceiling, -, hprice⟩ := hbinds
  obtain ⟨hid, hauth, hbuyer, hmerchant, hamount, -, hvalid, hexpiry⟩ := hdraws
  exact ⟨a, c, ⟨hamem, hcmem, hauth.symm, hid.symm, haid.trans hid.symm, habuyer.trans hbuyer.symm,
    hamerchant.trans hmerchant.symm, hbuyer.symm, hmerchant.symm, hconsumed,
    hceiling.trans hamount.symm, hamount, hprice⟩, hvalid, hexpiry⟩

/-- **Payments are bound to authorizations.**  In every state of a run, a payment
that has not failed rests on a consumed authorization of its own checkout, no
authorization backs two of them, and a payment that a step adds is created before
its authorization and its checkout run out. -/
theorem payment_bound (h₀ : Unsold w₀.db) (hrun : Relation.ReflTransGen Step w₀ w) :
    (∀ p ∈ w.db.payments, p.status ≠ .failed → ∃ a c, BackedBy w.db p a c) ∧
    (∀ p ∈ w.db.payments, ∀ q ∈ w.db.payments, p.status ≠ .failed → q.status ≠ .failed →
      p.authorizationId = q.authorizationId → p = q) ∧
    ∀ env op, ∀ p ∈ (Operation.run env w op).db.payments,
      (∀ q ∈ w.db.payments, q.paymentId ≠ p.paymentId) →
      ∃ a c, BackedBy (Operation.run env w op).db p a c ∧ p.createdAt = env.now ∧
        env.now < a.validUntil ∧ env.now < c.expiresAt := by
  have hdb := coherent_of_run h₀ hrun
  refine ⟨fun p hp _ => ?_, fun p hp q hq _ _ hsame => ?_, fun env op p hp hnew => ?_⟩
  · obtain ⟨a, c, hback, -⟩ := hdb.backed hp
    exact ⟨a, c, hback⟩
  · obtain ⟨a, c, hback, -⟩ := hdb.backed hp
    obtain ⟨b, d, hback', -⟩ := hdb.backed hq
    obtain ⟨ha, -, haid, -, hpid, -⟩ := hback
    obtain ⟨hb, -, hbid, -, hqid, -⟩ := hback'
    obtain rfl := authorization_unique ha hb (haid.trans (hsame.trans hbid.symm))
    have hcheckout : q.checkoutId = p.checkoutId := hqid.symm.trans hpid
    obtain ⟨ph, hat⟩ := hdb p.checkoutId
    obtain ⟨hrows, -⟩ := hat.payment_backed (mem_payments.1 ⟨hp, rfl⟩)
    have hq' := mem_payments.1 ⟨hq, hcheckout⟩
    rw [hrows] at hq'
    exact (List.mem_singleton.1 hq').symm
  · have hadv : w.db.Advances env.now (op.run env w).db := op.advances hdb
    obtain ⟨a, c, hback, hvalid, hexpiry⟩ := (hdb.advance hadv).backed hp
    obtain ⟨ph, hat⟩ := hdb p.checkoutId
    obtain ⟨_, -, -, hpayments⟩ := hadv p.checkoutId ph hat
    have hnow : p.createdAt = env.now := by
      rcases hpayments p (mem_payments.1 ⟨hp, rfl⟩) with hnow | ⟨q, hq, hid, -⟩
      · exact hnow
      · exact absurd hid (hnew q (mem_payments.2 hq).1)
    rw [hnow] at hvalid hexpiry
    exact ⟨a, c, hback, hnow, hvalid, hexpiry⟩

theorem payment_bound_paymentPending : paymentPending.db.payments.rows.length = 1 ∧
    ∀ p ∈ paymentPending.db.payments, p.status ≠ .failed →
      ∃ a c, BackedBy paymentPending.db p a c :=
  ⟨by decide, (payment_bound openShop_unsold paymentPending_reached).1⟩

end

end AgenticCommerce
