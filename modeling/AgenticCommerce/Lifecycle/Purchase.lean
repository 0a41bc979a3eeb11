/-
# The life of a purchase

What the services are for, without the store: a `Purchase` is a checkout with the
rows that hang on it, its hold, its authorization, its payments and its order, and
`Phase` is how far it got.  `Purchase.At` says what the rows look like in each
phase, and `Phase.Edge` which phase can follow which.

Everything that ties the rows of a purchase together is a consequence of being in
some phase: the hold agrees with the status of the checkout (`At.holds_agree`), an
order stands for a verified payment of a completed checkout (`At.order_paid`), and
a payment is backed by a consumed authorization of its own checkout
(`At.payment_backed`).
-/

import AgenticCommerce.Schema
import Mathlib.Logic.Relation

namespace AgenticCommerce

/-- A checkout with the rows that hang on it. -/
@[ext] structure Purchase where
  checkout : Option Checkout := none
  reservation : Option Reservation := none
  authorization : Option Authorization := none
  payments : List Payment := []
  order : Option Order := none
  deriving DecidableEq

/-- How far a purchase got.  `closed` and `dropped` are cancelled or expired, before
and after a payment was created. -/
inductive Phase where
  | absent | opened | pending | authorized | paying | captured | completed | failed | closed
  | dropped
  deriving DecidableEq, Repr

/-- Which phase can follow which. -/
inductive Phase.Edge : Phase → Phase → Prop
  | create : Edge .absent .opened
  | requireApproval : Edge .opened .pending
  | allow : Edge .opened .authorized
  | approve : Edge .pending .authorized
  | pay : Edge .authorized .paying
  | capture : Edge .paying .captured
  | confirm : Edge .captured .completed
  | fail : Edge .paying .failed
  | closeOpened : Edge .opened .closed
  | closePending : Edge .pending .closed
  | closeAuthorized : Edge .authorized .closed
  | drop : Edge .paying .dropped

/-- A phase that is reached from another in any number of edges. -/
def Phase.Leads : Phase → Phase → Prop := Relation.ReflTransGen Phase.Edge

theorem Phase.Leads.refl (ph : Phase) : ph.Leads ph := Relation.ReflTransGen.refl

theorem Phase.Edge.leads {ph ph' : Phase} (h : ph.Edge ph') : ph.Leads ph' :=
  Relation.ReflTransGen.single h

theorem Phase.Leads.trans {ph ph' ph'' : Phase} (h : ph.Leads ph') (h' : ph'.Leads ph'') :
    ph.Leads ph'' :=
  Relation.ReflTransGen.trans h h'

/-- An authorization is of a checkout, for its buyer, its total and its price. -/
def Authorization.Binds (a : Authorization) (c : Checkout) : Prop :=
  a.checkoutId = c.checkoutId ∧ a.buyerId = c.buyerId ∧ a.merchantId = c.merchantId ∧
    a.amountCeilingMinor = c.totalMinor ∧ a.currency = c.currency ∧ a.priceHash = c.priceHash

/-- A payment is of a checkout's total, under an authorization, and was created
before either of them ran out. -/
def Payment.Draws (p : Payment) (a : Authorization) (c : Checkout) : Prop :=
  p.checkoutId = c.checkoutId ∧ p.authorizationId = a.authorizationId ∧ p.buyerId = c.buyerId ∧
    p.merchantId = c.merchantId ∧ p.amountMinor = c.totalMinor ∧ p.currency = c.currency ∧
      p.createdAt < a.validUntil ∧ p.createdAt < c.expiresAt

/-- The statuses of a checkout whose stock is held. -/
def CheckoutStatus.Live (s : CheckoutStatus) : Prop :=
  s = .created ∨ s = .authorizationPending ∨ s = .authorized

/-- A cancelled or an expired checkout. -/
def CheckoutStatus.Over (s : CheckoutStatus) : Prop := s = .cancelled ∨ s = .expired

namespace Purchase

/-- A purchase with a checkout. -/
def putCheckout (P : Purchase) (c : Checkout) : Purchase := { P with checkout := some c }

/-- A purchase with a hold. -/
def putHold (P : Purchase) (r : Reservation) : Purchase := { P with reservation := some r }

/-- A purchase with an authorization. -/
def putAuthorization (P : Purchase) (a : Authorization) : Purchase :=
  { P with authorization := some a }

/-- A purchase with one more payment. -/
def addPayment (P : Purchase) (p : Payment) : Purchase := { P with payments := P.payments ++ [p] }

/-- A purchase with an order. -/
def putOrder (P : Purchase) (o : Order) : Purchase := { P with order := some o }

/-- The checkout of a purchase, with another status. -/
def setCheckout (P : Purchase) (status : CheckoutStatus) : Purchase :=
  { P with checkout := P.checkout.map fun c => { c with status } }

/-- The authorization of a purchase, with another status. -/
def setAuthorization (P : Purchase) (status : AuthorizationStatus) : Purchase :=
  { P with authorization := P.authorization.map fun a => { a with status } }

/-- The hold of a purchase, updated. -/
def mapHold (P : Purchase) (f : Reservation → Reservation) : Purchase :=
  { P with reservation := P.reservation.map f }

/-- One payment of a purchase, updated. -/
def mapPayment (P : Purchase) (paymentId : String) (f : Payment → Payment) : Purchase :=
  { P with payments := P.payments.map fun p => if p.paymentId == paymentId then f p else p }

theorem setCheckout_eq (P : Purchase) {c : Checkout} (hc : P.checkout = some c)
    (status : CheckoutStatus) :
    (P.setCheckout status).checkout = some { c with status } := by
  rw [setCheckout, hc, Option.map_some]

theorem mapHold_congr (P : Purchase) {r : Reservation} {f g : Reservation → Reservation}
    (hr : P.reservation = some r) (hfg : g r = f r) : P.mapHold f = P.mapHold g := by
  refine Purchase.ext rfl ?_ rfl rfl rfl
  rw [mapHold, mapHold, hr, Option.map_some, Option.map_some, hfg]

theorem mapHold_self (P : Purchase) {r : Reservation} {f : Reservation → Reservation}
    (hr : P.reservation = some r) (hf : f r = r) : P.mapHold f = P := by
  refine Purchase.ext rfl ?_ rfl rfl rfl
  rw [mapHold, hr, Option.map_some, hf]

theorem mapHold_none (P : Purchase) {f : Reservation → Reservation} (hr : P.reservation = none) :
    P.mapHold f = P := by
  refine Purchase.ext rfl ?_ rfl rfl rfl
  rw [mapHold, hr, Option.map_none]

theorem mem_mapPayment {P : Purchase} {p : Payment} (f : Payment → Payment) (h : p ∈ P.payments) :
    f p ∈ (P.mapPayment p.paymentId f).payments :=
  List.mem_map.2 ⟨p, h, if_pos (beq_self_eq_true _)⟩

/-- **The rows of a purchase in each phase.** -/
inductive At : Phase → Purchase → Prop
  | absent {P} (rows : P = {}) : At .absent P
  | opened {P c r} (rows : P = { checkout := some c, reservation := some r })
      (checkout : c.status = .created) (hold : r.status = .held) : At .opened P
  | pending {P c r a}
      (rows : P = { checkout := some c, reservation := some r, authorization := some a })
      (checkout : c.status = .authorizationPending) (hold : r.status = .held)
      (auth : a.status = .pending) (binds : a.Binds c) : At .pending P
  | authorized {P c r a}
      (rows : P = { checkout := some c, reservation := some r, authorization := some a })
      (checkout : c.status = .authorized) (hold : r.status = .held)
      (auth : a.status = .approved) (binds : a.Binds c) : At .authorized P
  | paying {P c r a p}
      (rows : P =
        { checkout := some c, reservation := some r, authorization := some a, payments := [p] })
      (checkout : c.status = .authorized) (hold : r.status = .held)
      (auth : a.status = .consumed) (binds : a.Binds c) (payment : p.status = .pending)
      (draws : p.Draws a c) : At .paying P
  | captured {P c r a p}
      (rows : P =
        { checkout := some c, reservation := some r, authorization := some a, payments := [p] })
      (checkout : c.status = .completed) (hold : r.status = .committed)
      (auth : a.status = .consumed) (binds : a.Binds c) (payment : p.status = .verified)
      (draws : p.Draws a c) : At .captured P
  | completed {P c r a p o}
      (rows : P =
        { checkout := some c, reservation := some r, authorization := some a, payments := [p],
          order := some o })
      (checkout : c.status = .completed) (hold : r.status = .committed)
      (auth : a.status = .consumed) (binds : a.Binds c) (payment : p.status = .verified)
      (draws : p.Draws a c) (order : o.paymentId = p.paymentId ∧ o.totalMinor = c.totalMinor) :
      At .completed P
  | failed {P c r a p}
      (rows : P =
        { checkout := some c, reservation := some r, authorization := some a, payments := [p] })
      (checkout : c.status = .paymentFailed) (hold : r.status = .released)
      (auth : a.status = .consumed) (binds : a.Binds c) (payment : p.status = .failed)
      (draws : p.Draws a c) : At .failed P
  | closed {P c r} {a : Option Authorization}
      (rows : P = { checkout := some c, reservation := some r, authorization := a })
      (checkout : c.status.Over) (hold : r.status = .released)
      (auth : ∀ a' ∈ a, a'.status ≠ .consumed) : At .closed P
  | dropped {P c r a p}
      (rows : P =
        { checkout := some c, reservation := some r, authorization := some a, payments := [p] })
      (checkout : c.status.Over) (hold : r.status = .released)
      (auth : a.status = .consumed) (binds : a.Binds c)
      (payment : p.status = .pending ∨ p.status = .failed) (draws : p.Draws a c) : At .dropped P

/-! ### What every phase has in common -/

variable {P : Purchase} {ph : Phase} {c : Checkout} {a : Authorization} {p : Payment} {o : Order}

/-- **The hold agrees with the checkout.** -/
theorem At.holds_agree (h : P.At ph) (hc : P.checkout = some c) :
    ∃ r, P.reservation = some r ∧ (r.status = .held ↔ c.status.Live) ∧
      (r.status = .committed ↔ c.status = .completed) ∧
      (r.status = .released ↔ c.status.Over ∨ c.status = .paymentFailed) := by
  -- one status of the checkout and one of the hold, in every phase
  have key : ∀ {c' : Checkout} {r : Reservation}, c' = c →
      (c'.status.Live ∧ r.status = .held ∨ c'.status = .completed ∧ r.status = .committed ∨
        (c'.status.Over ∨ c'.status = .paymentFailed) ∧ r.status = .released) →
      (r.status = .held ↔ c.status.Live) ∧ (r.status = .committed ↔ c.status = .completed) ∧
        (r.status = .released ↔ c.status.Over ∨ c.status = .paymentFailed) := by
    rintro c' r rfl hs
    unfold CheckoutStatus.Live CheckoutStatus.Over at hs ⊢
    cases hcs : c'.status <;> cases hrs : r.status <;> simp_all
  cases h with
  | absent rows => subst rows; exact nomatch hc
  | opened rows hcs hr | pending rows hcs hr | authorized rows hcs hr | paying rows hcs hr =>
      subst rows
      exact ⟨_, rfl, key (Option.some.inj hc) (.inl ⟨by simp [CheckoutStatus.Live, hcs], hr⟩)⟩
  | captured rows hcs hr | completed rows hcs hr =>
      subst rows
      exact ⟨_, rfl, key (Option.some.inj hc) (.inr (.inl ⟨hcs, hr⟩))⟩
  | failed rows hcs hr =>
      subst rows
      exact ⟨_, rfl, key (Option.some.inj hc) (.inr (.inr ⟨.inr hcs, hr⟩))⟩
  | closed rows hcs hr | dropped rows hcs hr =>
      subst rows
      exact ⟨_, rfl, key (Option.some.inj hc) (.inr (.inr ⟨.inl hcs, hr⟩))⟩

/-- **An order stands for a verified payment of a completed checkout.** -/
theorem At.order_paid (h : P.At ph) (ho : P.order = some o) :
    ∃ c r p, P.checkout = some c ∧ P.reservation = some r ∧ p ∈ P.payments ∧
      o.paymentId = p.paymentId ∧ p.status = .verified ∧ c.status = .completed ∧
      r.status = .committed ∧ o.totalMinor = c.totalMinor ∧ c.totalMinor = p.amountMinor := by
  cases h with
  | completed rows hcs hr _ _ hp draws order =>
      subst rows
      obtain rfl := Option.some.inj ho
      obtain ⟨-, -, -, -, amount, -⟩ := draws
      exact ⟨_, _, _, rfl, rfl, List.mem_singleton.2 rfl, order.1, hp, hcs, hr, order.2,
        amount.symm⟩
  | _ rows => subst rows; exact nomatch ho

/-- **A payment is backed by a consumed authorization of its checkout.** -/
theorem At.payment_backed (h : P.At ph) (hp : p ∈ P.payments) :
    P.payments = [p] ∧ ∃ c a, P.checkout = some c ∧ P.authorization = some a ∧
      a.status = .consumed ∧ a.Binds c ∧ p.Draws a c := by
  cases h with
  | absent rows | opened rows | pending rows | authorized rows | closed rows =>
      subst rows
      exact nomatch hp
  | paying rows _ _ auth binds _ draws | captured rows _ _ auth binds _ draws
  | completed rows _ _ auth binds _ draws | failed rows _ _ auth binds _ draws
  | dropped rows _ _ auth binds _ draws =>
      subst rows
      obtain rfl := List.mem_singleton.1 hp
      exact ⟨rfl, _, _, rfl, rfl, auth, binds, draws⟩

/-- A payment is pending, verified or failed. -/
theorem At.payment_status (h : P.At ph) (hp : p ∈ P.payments) :
    p.status = .pending ∨ p.status = .verified ∨ p.status = .failed := by
  cases h with
  | absent rows | opened rows | pending rows | authorized rows | closed rows =>
      subst rows
      exact absurd hp List.not_mem_nil
  | paying rows _ _ _ _ hps =>
      subst rows
      obtain rfl := List.mem_singleton.1 hp
      exact .inl hps
  | captured rows _ _ _ _ hps | completed rows _ _ _ _ hps =>
      subst rows
      obtain rfl := List.mem_singleton.1 hp
      exact .inr (.inl hps)
  | failed rows _ _ _ _ hps =>
      subst rows
      obtain rfl := List.mem_singleton.1 hp
      exact .inr (.inr hps)
  | dropped rows _ _ _ _ hps =>
      subst rows
      obtain rfl := List.mem_singleton.1 hp
      exact hps.imp_right .inr

/-- A pending payment is of an authorized checkout whose stock is held, or of one
that is over. -/
theorem At.payment_pending (h : P.At ph) (hc : P.checkout = some c) (hp : p ∈ P.payments)
    (hs : p.status = .pending) :
    (c.status = .authorized ∧ ∃ r, P.reservation = some r ∧ r.status = .held) ∨ c.status.Over := by
  cases h with
  | absent rows | opened rows | pending rows | authorized rows | closed rows =>
      subst rows
      exact absurd hp List.not_mem_nil
  | paying rows hcs hr =>
      subst rows
      obtain rfl := Option.some.inj hc
      exact .inl ⟨hcs, _, rfl, hr⟩
  | captured rows _ _ _ _ hps | completed rows _ _ _ _ hps | failed rows _ _ _ _ hps =>
      subst rows
      obtain rfl := List.mem_singleton.1 hp
      rw [hps] at hs
      exact nomatch hs
  | dropped rows hcs =>
      subst rows
      obtain rfl := Option.some.inj hc
      exact .inr hcs

/-- Only a purchase that does not exist yet has no checkout. -/
theorem At.checkout_eq_none (h : P.At ph) (hc : P.checkout = none) : ph = .absent ∧ P = {} := by
  cases h with
  | absent rows => exact ⟨rfl, rows⟩
  | _ rows => subst rows; exact nomatch hc

end Purchase
end AgenticCommerce
