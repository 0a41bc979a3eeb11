/-
# Whose capture a verification accepts

`verifyPayment` accepts a payment on what the provider reports under the payment
identifier it is called with, else under the row's own, else under the row's order.
It compares the status, the amount and the currency, and never the order that the
reported payment was made for.  So an accepted report always agrees with the row
(`filter_reports`), and it belongs to the row's order when, and only when, no report
that agrees with the row is one of another order (`captured_iff`).
-/

import AgenticCommerce.Lifecycle.Laws

namespace AgenticCommerce

open Relational

namespace Payment

/-! ### What the provider reports -/

/-- What the provider answers to one look-up, whether it agrees with the payment or
not; an exception is no answer. -/
def report (env : Env) (n : ℕ) (payment : Payment) (providerPaymentId : Option String) :
    Option Evidence :=
  match (given providerPaymentId).orElse fun _ => given payment.providerPaymentId,
    given payment.providerOrderId with
  | some target, _ => (env.provider.fetchPayment n target).toOption.map .payment
  | none, some orderId => (env.provider.fetchOrder n orderId).toOption.map .order
  | none, none => none

/-- The provider order that a report is about. -/
def Evidence.providerOrderId : Evidence → String
  | .payment fetched => fetched.providerOrderId
  | .order fetched => fetched.providerOrderId

/-- A report of a captured payment, or of a paid order, of exactly the amount and
the currency of `payment`. -/
def Evidence.agrees (payment : Payment) : Evidence → Bool
  | .payment fetched => fetched.captures ["captured", "paid"] payment
  | .order fetched => fetched.pays payment

/-- Every report that a verification asks for: the one behind a valid signature, and
the second one when that did not agree. -/
def reports (env : Env) (payment : Payment) (providerPaymentId signature : Option String) :
    List Evidence :=
  if signatureValid env payment providerPaymentId signature then
    (report env 2 payment providerPaymentId).toList ++
      if (fetchEvidence env 2 payment providerPaymentId).isSome then []
      else (report env 3 payment providerPaymentId).toList
  else (report env 3 payment providerPaymentId).toList

/-- **The provider reported a capture of the payment**: of its amount and currency,
and made for its provider order. -/
def Captured (env : Env) (payment : Payment) (providerPaymentId signature : Option String) : Prop :=
  ∃ e ∈ reports env payment providerPaymentId signature,
    e.agrees payment = true ∧ payment.providerOrderId = some e.providerOrderId

variable {env : Env} {p : Payment} {n : ℕ} {payId sig : Option String}

/-- A look-up is evidence when its report agrees. -/
theorem fetchEvidence_eq_filter :
    fetchEvidence env n p payId = (report env n p payId).filter (·.agrees p) := by
  unfold fetchEvidence report
  cases (given payId).orElse fun _ => given p.providerPaymentId with
  | some target =>
      simp only
      cases env.provider.fetchPayment n target with
      | error e => rfl
      | ok fetched => rfl
  | none =>
      cases given p.providerOrderId with
      | none => rfl
      | some orderId =>
          simp only
          cases env.provider.fetchOrder n orderId with
          | error e => rfl
          | ok fetched => rfl

theorem filter_report :
    (report env n p payId).toList.filter (·.agrees p) = (fetchEvidence env n p payId).toList := by
  rw [fetchEvidence_eq_filter]
  cases report env n p payId with
  | none => rfl
  | some e =>
      rw [Option.filter_some, Option.toList_some, List.filter_singleton]
      cases e.agrees p <;> rfl

/-- **The reports that agree are the evidence.**  At most one report of a
verification agrees with the payment, and it is the one the verification rests on. -/
theorem filter_reports :
    (reports env p payId sig).filter (·.agrees p) = (evidence env p payId sig).toList := by
  unfold reports evidence
  split_ifs with hsig hfirst
  · obtain ⟨e, he⟩ := Option.isSome_iff_exists.1 hfirst
    rw [List.append_nil, filter_report, he]
    rfl
  · have hnone : fetchEvidence env 2 p payId = none := by simpa using hfirst
    rw [List.filter_append, filter_report, filter_report, hnone]
    rfl
  · rw [filter_report]
    rfl

theorem mem_reports_agrees {e : Evidence} :
    e ∈ reports env p payId sig ∧ e.agrees p = true ↔ evidence env p payId sig = some e := by
  rw [← List.mem_filter (p := fun e : Evidence => e.agrees p), filter_reports, Option.mem_toList]

/-! ### What an accepted verification rests on -/

/-- **A verification that returns had evidence**, unless its payment was verified
before. -/
theorem evidence_of_verifyPayment {w w' : World} {paymentId : String} {address : Option String}
    {r : PaymentV1 × OrderV1} (hp : w.db.paymentById paymentId = some p) (hs : p.status ≠ .verified)
    (h : verifyPayment env paymentId payId sig address w = .ok r w') :
    ∃ e, evidence env p payId sig = some e := by
  simp only [verifyPayment, Work.bind_eq_ok, require_eq_ok] at h
  obtain ⟨q, _, ⟨hq, rfl⟩, h⟩ := h
  obtain rfl : p = q := Option.some.inj (hp.symm.trans hq)
  rw [if_neg hs] at h
  simp only [Work.bind_eq_ok, require_eq_ok, raiseIf_eq_ok] at h
  obtain ⟨_, _, _, _, _, _, _, _, _, _, _, ⟨hevidence, -⟩, -⟩ := h
  exact Option.ne_none_iff_exists'.1 hevidence

/-- **When a capture is the payment's own.**  A verification that returns for a
payment that was not verified before rests on a capture of the payment's own order
exactly when no report of the provider that agrees with the payment in status, amount
and currency is one of another order. -/
theorem captured_iff {w w' : World} {paymentId : String} {address : Option String}
    {r : PaymentV1 × OrderV1} (hp : w.db.paymentById paymentId = some p) (hs : p.status ≠ .verified)
    (h : verifyPayment env paymentId payId sig address w = .ok r w') :
    Captured env p payId sig ↔
      ∀ e ∈ reports env p payId sig, e.agrees p = true →
        p.providerOrderId = some e.providerOrderId := by
  obtain ⟨e, he⟩ := evidence_of_verifyPayment hp hs h
  constructor
  · rintro ⟨f, hf, hagrees, hown⟩ f' hf' hagrees'
    have hsame := (mem_reports_agrees.1 ⟨hf, hagrees⟩).symm.trans
      (mem_reports_agrees.1 ⟨hf', hagrees'⟩)
    rw [← Option.some.inj hsame]
    exact hown
  · intro hown
    obtain ⟨hmem, hagrees⟩ := mem_reports_agrees.2 he
    exact ⟨e, hmem, hagrees, hown e hmem hagrees⟩

end Payment

/-! ### A capture of another order -/

/-- The pending payment of the shop. -/
def pendingPayment : Payment :=
  { paymentId := "pay", checkoutId := "chk", merchantId := "mer", buyerId := "byr",
    authorizationId := "ath", status := .pending, amountMinor := 200, currency := .inr,
    provider := "fake", providerOrderId := some "order_1", createdAt := 0, updatedAt := 0 }

theorem paymentPending_paymentById : paymentPending.db.paymentById "pay" = some pendingPayment := by
  decide

theorem captured_iff_pendingPayment : ∃ r w',
    Payment.verifyPayment shopEnv "pay" (some "pay_1") none none paymentPending = .ok r w' ∧
      Payment.Captured shopEnv pendingPayment (some "pay_1") none := by
  obtain ⟨r, w', h⟩ := Work.exists_of_returns
    (m := Payment.verifyPayment shopEnv "pay" (some "pay_1")) (s := paymentPending)
    (by decide)
  refine ⟨r, w', h, (Payment.captured_iff paymentPending_paymentById (by decide) h).2 ?_⟩
  decide

/-- The provider has `pay_9` as a captured payment of 200 INR for the order `order_9`. -/
def otherOrderEnv : Env :=
  { shopEnv with
    provider :=
      { capturingProvider with
        fetchPayment := fun _ id => .ok ⟨id, "order_9", 200, "INR", "captured", true⟩ } }

/-- **A capture of another order is accepted**: the payment of `order_1` is verified
on `pay_9`, which was made for `order_9`. -/
theorem capture_of_other_order_accepted : ¬∀ (env : Env) (w w' : World) (paymentId : String)
    (p : Payment) (payId sig address : Option String) (r : PaymentV1 × OrderV1),
    w.db.paymentById paymentId = some p → p.status ≠ .verified →
      Payment.verifyPayment env paymentId payId sig address w = .ok r w' →
        Payment.Captured env p payId sig := by
  intro h
  obtain ⟨r, w', hrun⟩ := Work.exists_of_returns
    (m := Payment.verifyPayment otherOrderEnv "pay" (some "pay_9")) (s := paymentPending)
    (by decide)
  obtain ⟨e, he, hagrees, hown⟩ := h otherOrderEnv paymentPending w' "pay" pendingPayment
    (some "pay_9") none none r paymentPending_paymentById (by decide) hrun
  have hforeign : ∀ e ∈ Payment.reports otherOrderEnv pendingPayment (some "pay_9") none,
      pendingPayment.providerOrderId ≠ some e.providerOrderId := by decide
  exact hforeign e he hown

end AgenticCommerce
