/-
# Unknown payments stay unknown

The worker polls payments that are `unknown` and hands what the provider reports to
`verifyPayment` and `failPayment`.  These follow the edges `verify_payment` and
`fail_payment` of the transition table; out of `unknown` the table has
`verify_unknown` and `fail_unknown` instead, which no service applies.  So whatever
the provider reports, each item of the poll is refused and rolled back, and a run of
the poll leaves the whole store as it was (`pollUnknownPayments_db`).

The states are those of the runs of `Lifecycle.Runs`, with the two edges the table
has for a provider that does not answer (`TimedStep`).
-/

import AgenticCommerce.Lifecycle.Laws

namespace AgenticCommerce

open Relational

section

variable {w w' : World} {env : Env} {p : Payment} {paymentId : String}

/-! ### No edge leads out of `unknown` -/

theorem settleVerified_unknown (hs : p.status = .unknown) {payId sig address : Option String}
    {r : PaymentV1 × OrderV1} :
    ¬Payment.settleVerified env p payId sig address w = .ok r w' := by
  intro h
  simp only [Payment.settleVerified, Work.bind_eq_ok, update_eq_ok] at h
  obtain ⟨_, _, rfl, _, _, htr, -⟩ := h
  obtain ⟨s, _, hnext, -⟩ := transition_payment htr
  rw [hs] at hnext
  exact nomatch hnext

/-- An unknown payment is never verified. -/
theorem verifyPayment_unknown (hp : w.db.paymentById paymentId = some p)
    (hs : p.status = .unknown) {payId sig address : Option String} {r : PaymentV1 × OrderV1} :
    ¬Payment.verifyPayment env paymentId payId sig address w = .ok r w' := by
  intro h
  simp only [Payment.verifyPayment, Work.bind_eq_ok, require_eq_ok] at h
  obtain ⟨q, _, ⟨hq, rfl⟩, h⟩ := h
  obtain rfl := Option.some.inj (hp.symm.trans hq)
  rw [if_neg (by rw [hs]; decide)] at h
  simp only [Work.bind_eq_ok, raiseIf_eq_ok, require_eq_ok] at h
  obtain ⟨_, _, ⟨_, rfl⟩, _, _, ⟨_, rfl⟩, _, _, _, _, _, ⟨_, rfl⟩, h⟩ := h
  exact settleVerified_unknown hs h

/-- An unknown payment never fails. -/
theorem failPayment_unknown (hp : w.db.paymentById paymentId = some p)
    (hs : p.status = .unknown) {reason : Option String} {v : PaymentV1} :
    ¬Payment.failPayment env paymentId reason w = .ok v w' := by
  intro h
  simp only [Payment.failPayment, Work.bind_eq_ok, require_eq_ok, update_eq_ok] at h
  obtain ⟨q, _, ⟨hq, rfl⟩, _, _, rfl, _, _, htr, -⟩ := h
  obtain rfl := Option.some.inj (hp.symm.trans hq)
  obtain ⟨s, _, hnext, -⟩ := transition_payment htr
  rw [hs] at hnext
  cases hnext

theorem settleReported_db (hp : w.db.paymentById paymentId = some p) (hs : p.status = .unknown)
    (order : ProviderOrder) : (request (Worker.settleReported env paymentId order) w).db = w.db := by
  refine request_induction (P := fun db => db = w.db) rfl fun u w' h _ => ?_
  unfold Worker.settleReported at h
  split_ifs at h
  · simp only [Work.bind_eq_ok] at h
    obtain ⟨_, _, h, -⟩ := h
    exact absurd h (verifyPayment_unknown hp hs)
  · simp only [Work.bind_eq_ok] at h
    obtain ⟨_, _, h, -⟩ := h
    exact absurd h (failPayment_unknown hp hs)
  · obtain ⟨_, rfl⟩ := Work.pure_eq_ok.1 h
    rfl

theorem pollPayment_db (h : Worker.pollPayment env paymentId w = some w') : w'.db = w.db := by
  unfold Worker.pollPayment at h
  cases hp : w.db.paymentById paymentId with
  | none =>
      rw [hp] at h
      obtain rfl := Option.some.inj h
      rfl
  | some p =>
      rw [hp] at h
      simp only at h
      split_ifs at h with hs
      · obtain rfl := Option.some.inj h
        rfl
      · cases ho : given p.providerOrderId with
        | none =>
            rw [ho] at h
            obtain rfl := Option.some.inj h
            rfl
        | some orderId =>
            rw [ho] at h
            cases hr : env.provider.fetchOrder 4 orderId with
            | error e =>
                simp only [hr] at h
                exact nomatch h
            | ok order =>
                simp only [hr] at h
                obtain rfl := Option.some.inj h
                exact settleReported_db hp (not_not.1 hs) order

end

theorem pollPayments_db (envs : String → Env) (ids : List String) :
    ∀ w : World, (Worker.pollPayments envs ids w).db = w.db := by
  induction ids with
  | nil => exact fun _ => rfl
  | cons id rest ih =>
      intro w
      unfold Worker.pollPayments
      cases h : Worker.pollPayment (envs id) id w with
      | none => rfl
      | some w' => exact (ih w').trans (pollPayment_db h)

/-- **A run of the poll leaves the store as it was.** -/
theorem pollUnknownPayments_db (envs : String → Env) (w : World) :
    (Worker.pollUnknownPayments envs w).db = w.db :=
  pollPayments_db envs _ w

/-! ### Recovery -/

/-- The poll recovers a payment: when the provider reports the payment's order as
paid in its amount and currency, the payment ends verified, its checkout completed
and its order created, and when it reports the order failed or cancelled, the
payment ends failed and its hold released. -/
def Recovers (envs : String → Env) (w : World) (p : Payment) : Prop :=
  ∀ orderId order, given p.providerOrderId = some orderId →
    (envs p.paymentId).provider.fetchOrder 4 orderId = .ok order →
    (order.pays p = true →
      (∃ q ∈ (Worker.pollUnknownPayments envs w).db.payments,
        q.paymentId = p.paymentId ∧ q.status = .verified) ∧
      (∃ c ∈ (Worker.pollUnknownPayments envs w).db.checkouts,
        c.checkoutId = p.checkoutId ∧ c.status = .completed) ∧
      ∃ o ∈ (Worker.pollUnknownPayments envs w).db.orders,
        o.checkoutId = p.checkoutId ∧ o.paymentId = p.paymentId) ∧
    (order.status = "failed" ∨ order.status = "cancelled" →
      (∃ q ∈ (Worker.pollUnknownPayments envs w).db.payments,
        q.paymentId = p.paymentId ∧ q.status = .failed) ∧
      ∃ r ∈ (Worker.pollUnknownPayments envs w).db.reservations,
        r.checkoutId = p.checkoutId ∧ r.status = .released)

/-- What the provider says settles the fate of a payment. -/
def Reported (envs : String → Env) (p : Payment) : Prop :=
  ∃ orderId order, given p.providerOrderId = some orderId ∧
    (envs p.paymentId).provider.fetchOrder 4 orderId = .ok order ∧
    (order.pays p = true ∨ order.status = "failed" ∨ order.status = "cancelled")

/-- A payment that is unknown after the poll was not recovered by it. -/
theorem not_recovers {envs : String → Env} {w : World} {p : Payment} (hp : p ∈ w.db.payments)
    (hs : p.status = .unknown) (hr : Reported envs p) : ¬Recovers envs w p := by
  intro hrec
  obtain ⟨orderId, order, ho, hfetch, hreport⟩ := hr
  obtain ⟨hpaid, hfailed⟩ := hrec orderId order ho hfetch
  rw [pollUnknownPayments_db] at hpaid hfailed
  have hstays : ∀ q ∈ w.db.payments, q.paymentId = p.paymentId → q.status = .unknown :=
    fun q hq hid => by rw [payment_unique hq hp hid]; exact hs
  rcases hreport with hpays | hbad
  · obtain ⟨⟨q, hq, hid, hverified⟩, -⟩ := hpaid hpays
    rw [hstays q hq hid] at hverified
    exact nomatch hverified
  · obtain ⟨⟨q, hq, hid, hstatus⟩, -⟩ := hfailed hbad
    rw [hstays q hq hid] at hstatus
    exact nomatch hstatus

/-- An edge of the transition table, applied to a payment by the system. -/
def applyEdge (env : Env) (event : TransitionEvent) (paymentId : String) : Op Unit := do
  let payment ← require (fun db => db.paymentById paymentId) (.ofCode .notFound)
  transition (.payment payment) event (Payment.bySystem env payment.merchantId)

/-- A step of the system, or one of the two edges from `pending` to `unknown`. -/
def TimedStep (w w' : World) : Prop :=
  Step w w' ∨ ∃ env paymentId, w' = request (applyEdge env .timeoutPayment paymentId) w ∨
    w' = request (applyEdge env .markUnknown paymentId) w

/-- The purchase of the shop, after the provider did not answer. -/
def paymentUnknown : World :=
  request (applyEdge shopEnv .markUnknown "pay")
    (request (applyEdge shopEnv .timeoutPayment "pay") paymentPending)

/-- Its payment. -/
def unknownPayment : Payment :=
  { paymentId := "pay", checkoutId := "chk", merchantId := "mer", buyerId := "byr",
    authorizationId := "ath", status := .unknown, amountMinor := 200, currency := .inr,
    provider := "fake", providerOrderId := some "order_1", createdAt := 0, updatedAt := 0 }

theorem paymentUnknown_reached : Relation.ReflTransGen TimedStep openShop paymentUnknown := by
  have hpending : Relation.ReflTransGen TimedStep openShop paymentPending :=
    Relation.ReflTransGen.mono (fun _ _ hstep => .inl hstep) _ _ paymentPending_reached
  exact (hpending.tail (.inr ⟨shopEnv, "pay", .inl rfl⟩)).tail (.inr ⟨shopEnv, "pay", .inr rfl⟩)

theorem unknownPayment_mem : unknownPayment ∈ paymentUnknown.db.payments := by
  change unknownPayment ∈ paymentUnknown.db.payments.rows
  decide

/-- The provider reports its order as paid in full. -/
theorem unknownPayment_reported : Reported (fun _ => shopEnv) unknownPayment :=
  ⟨"order_1", ⟨"order_1", 200, "INR", "", "paid"⟩, by decide, rfl, .inl (by decide)⟩

end AgenticCommerce
