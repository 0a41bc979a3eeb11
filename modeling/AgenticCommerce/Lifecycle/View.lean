/-
# The purchases of a store

`Database.purchase` reads the purchase of a checkout's identifier off the tables.
Every write of the services to the linked tables moves one purchase and leaves
the others alone, so it is an update of that function at one identifier; the
lemmas here say at which, and with what.  Why the others are untouched is a key
each time: the identifier in the `WHERE` of the write is unique, and so is the
checkout a row belongs to.
-/

import AgenticCommerce.Lifecycle.Purchase
import AgenticCommerce.Payments.Service
import Mathlib.Logic.Function.Basic

namespace AgenticCommerce

open Relational

/-- The purchase of a checkout's identifier. -/
def Database.purchase (db : Database) (checkoutId : String) : Purchase :=
  { checkout := db.checkoutById checkoutId
    reservation := Inventory.getReservation checkoutId db
    authorization := db.authorizations.first fun a => a.checkoutId == checkoutId
    payments := db.payments.select fun p => p.checkoutId == checkoutId
    order := db.orderOfCheckout checkoutId }

@[simp] theorem purchase_appendAudit (db : Database) (event : AuditEvent) :
    (db.appendAudit event).purchase = db.purchase := rfl

/-! ### Rows and purchases -/

section

variable {db : Database} {id : String}

theorem mem_checkouts {c : Checkout} :
    c ∈ db.checkouts ∧ c.checkoutId = id ↔ (db.purchase id).checkout = some c := by
  constructor
  · rintro ⟨hc, rfl⟩
    exact Table.first_of_mem hc (by simp) fun d hd hp => Table.eq_of_clash hd hc (by
      simpa [clashes, Keyed.clash, Keyed.key] using hp)
  · intro h
    obtain ⟨hc, hp⟩ := Table.first_eq_some h
    exact ⟨hc, by simpa using hp⟩

theorem mem_reservations {r : Reservation} :
    r ∈ db.reservations ∧ r.checkoutId = id ↔ (db.purchase id).reservation = some r := by
  constructor
  · rintro ⟨hr, rfl⟩
    exact Table.first_of_mem hr (by simp) fun d hd hp => Table.eq_of_clash hd hr (by
      simpa [clashes, Keyed.clash, Keyed.key] using .inr (by simpa using hp))
  · intro h
    obtain ⟨hr, hp⟩ := Table.first_eq_some h
    exact ⟨hr, by simpa using hp⟩

theorem mem_authorizations {a : Authorization} :
    a ∈ db.authorizations ∧ a.checkoutId = id ↔ (db.purchase id).authorization = some a := by
  constructor
  · rintro ⟨ha, rfl⟩
    exact Table.first_of_mem ha (by simp) fun d hd hp => Table.eq_of_clash hd ha (by
      simpa [clashes, Keyed.clash, Keyed.key] using .inr (by simpa using hp))
  · intro h
    obtain ⟨ha, hp⟩ := Table.first_eq_some h
    exact ⟨ha, by simpa using hp⟩

theorem mem_payments {p : Payment} :
    p ∈ db.payments ∧ p.checkoutId = id ↔ p ∈ (db.purchase id).payments := by
  simp only [Database.purchase, Table.mem_select, beq_iff_eq]

theorem mem_orders {o : Order} :
    o ∈ db.orders ∧ o.checkoutId = id ↔ (db.purchase id).order = some o := by
  constructor
  · rintro ⟨ho, rfl⟩
    exact Table.first_of_mem ho (by simp) fun d hd hp => Table.eq_of_clash hd ho (by
      simp only [clashes, Keyed.clash, Keyed.key, Bool.or_eq_true, decide_eq_true_eq]
      exact .inl (.inr (by simpa using hp)))
  · intro h
    obtain ⟨ho, hp⟩ := Table.first_eq_some h
    exact ⟨ho, by simpa using hp⟩

/-- Two payments with one identifier are one payment. -/
theorem payment_unique {p q : Payment} (hp : p ∈ db.payments) (hq : q ∈ db.payments)
    (h : p.paymentId = q.paymentId) : p = q :=
  Table.eq_of_clash hp hq (by simp [clashes, Keyed.clash, Keyed.key, h])

/-- Two authorizations with one identifier are one authorization. -/
theorem authorization_unique {a b : Authorization} (ha : a ∈ db.authorizations)
    (hb : b ∈ db.authorizations) (h : a.authorizationId = b.authorizationId) : a = b :=
  Table.eq_of_clash ha hb (by simp [clashes, Keyed.clash, Keyed.key, h])

theorem paymentById_eq_some {p : Payment} (h : db.paymentById id = some p) :
    p ∈ (db.purchase p.checkoutId).payments ∧ p.paymentId = id := by
  obtain ⟨hp, hid⟩ := Table.first_eq_some h
  exact ⟨mem_payments.1 ⟨hp, rfl⟩, by simpa using hid⟩

theorem paymentById_of_mem {p : Payment} (hp : p ∈ db.payments) :
    db.paymentById p.paymentId = some p :=
  Table.first_of_mem hp (beq_self_eq_true _) fun _ hq hid =>
    payment_unique hq hp (beq_iff_eq.1 hid)

theorem checkoutOf_eq_some {m b : String} {c : Checkout} (h : db.checkoutOf m b id = some c) :
    (db.purchase id).checkout = some c ∧ c.merchantId = m ∧ c.buyerId = b := by
  obtain ⟨hc, hp⟩ := Table.first_eq_some h
  simp only [Bool.and_eq_true, beq_iff_eq] at hp
  exact ⟨mem_checkouts.1 ⟨hc, hp.1.1⟩, hp.1.2, hp.2⟩

theorem authorizationOf_eq_some {m b : String} {a : Authorization}
    (h : db.authorizationOf m b id = some a) :
    (db.purchase a.checkoutId).authorization = some a ∧ a.authorizationId = id ∧
      a.merchantId = m ∧ a.buyerId = b := by
  obtain ⟨ha, hp⟩ := Table.first_eq_some h
  simp only [Bool.and_eq_true, beq_iff_eq] at hp
  exact ⟨mem_authorizations.1 ⟨ha, rfl⟩, hp.1.1, hp.1.2, hp.2⟩

/-! ### Updates -/

theorem purchase_setCheckoutStatus (db : Database) (id : String) (status : CheckoutStatus) :
    (db.setCheckoutStatus id status).purchase =
      Function.update db.purchase id ((db.purchase id).setCheckout status) := by
  funext j
  by_cases hj : j = id
  · subst hj
    rw [Function.update_self]
    refine Purchase.ext ?_ rfl rfl rfl rfl
    exact Table.first_modify_of (f := fun c : Checkout => { c with status })
      (h := fun _ => rfl) (fun _ => rfl) fun c hc => (Table.first_eq_some hc).2
  · rw [Function.update_of_ne hj]
    refine Purchase.ext ?_ rfl rfl rfl rfl
    refine Table.first_modify_of_not (f := fun c : Checkout => { c with status })
      (h := fun _ => rfl) (fun _ => rfl) fun c hc => ?_
    have hcj : c.checkoutId = j := by simpa using (Table.first_eq_some hc).2
    simpa [hcj] using hj

theorem purchase_setAuthorizationStatus {a : Authorization} {status : AuthorizationStatus}
    (ha : (db.purchase id).authorization = some a) :
    (db.setAuthorizationStatus a.authorizationId status).purchase =
      Function.update db.purchase id ((db.purchase id).setAuthorization status) := by
  obtain ⟨hmem, hid⟩ := mem_authorizations.2 ha
  funext j
  by_cases hj : j = id
  · subst hj
    rw [Function.update_self]
    refine Purchase.ext rfl rfl ?_ rfl rfl
    refine Table.first_modify_of (f := fun b : Authorization => { b with status })
      (h := fun _ => rfl) (fun _ => rfl) fun b hb => ?_
    obtain rfl : a = b := Option.some.inj (ha.symm.trans hb)
    exact beq_self_eq_true _
  · rw [Function.update_of_ne hj]
    refine Purchase.ext rfl rfl ?_ rfl rfl
    refine Table.first_modify_of_not (f := fun b : Authorization => { b with status })
      (h := fun _ => rfl) (fun _ => rfl) fun b hb => ?_
    obtain ⟨hb, hbj⟩ := Table.first_eq_some hb
    refine beq_eq_false_iff_ne.2 fun he => hj ?_
    rw [← hid, ← authorization_unique hb hmem he]
    exact (beq_iff_eq.1 hbj).symm

/-- The end of a hold moves the purchase of its checkout. -/
theorem purchase_modifyHold {r : Reservation} {f : Reservation → Reservation}
    {h : ∀ r, Keyed.key (f r) = Keyed.key r} (hr : (db.purchase id).reservation = some r)
    (hs : r.status = .held) :
    ({ db with
        reservations := db.reservations.modify
          (fun x => x.reservationId == r.reservationId && x.status == .held) f h } :
      Database).purchase =
      Function.update db.purchase id ((db.purchase id).mapHold f) := by
  obtain ⟨hmem, hid⟩ := mem_reservations.2 hr
  have hkey : ∀ x : Reservation, (f x).checkoutId = x.checkoutId := fun x =>
    congrArg Prod.snd (h x)
  funext j
  have hq : ∀ x : Reservation, ((f x).checkoutId == j) = (x.checkoutId == j) := fun x => by
    rw [hkey]
  by_cases hj : j = id
  · subst hj
    rw [Function.update_self]
    refine Purchase.ext rfl ?_ rfl rfl rfl
    refine Table.first_modify_of (h := h) hq fun x hx => ?_
    obtain rfl : r = x := Option.some.inj (hr.symm.trans hx)
    simp [hs]
  · rw [Function.update_of_ne hj]
    refine Purchase.ext rfl ?_ rfl rfl rfl
    refine Table.first_modify_of_not (h := h) hq fun x hx => ?_
    obtain ⟨hx, hxj⟩ := Table.first_eq_some hx
    rw [Bool.and_eq_false_iff]
    refine .inl (beq_eq_false_iff_ne.2 fun he => hj ?_)
    have hxr : x = r := Table.eq_of_clash hx hmem (by simp [clashes, Keyed.clash, Keyed.key, he])
    rw [← hid, ← hxr]
    exact (beq_iff_eq.1 hxj).symm

theorem purchase_modifyPayment {p : Payment} {f : Payment → Payment}
    {h : ∀ p, Keyed.key (f p) = Keyed.key p} (hf : ∀ p, (f p).checkoutId = p.checkoutId)
    (hp : p ∈ (db.purchase id).payments) :
    (db.modifyPayment p.paymentId f h).purchase =
      Function.update db.purchase id ((db.purchase id).mapPayment p.paymentId f) := by
  obtain ⟨hmem, hid⟩ := mem_payments.2 hp
  funext j
  have hq : ∀ x : Payment, ((f x).checkoutId == j) = (x.checkoutId == j) := fun x => by rw [hf]
  by_cases hj : j = id
  · subst hj
    rw [Function.update_self]
    exact Purchase.ext rfl rfl rfl (Table.select_modify _ _ _ h hq) rfl
  · rw [Function.update_of_ne hj]
    refine Purchase.ext rfl rfl rfl (Table.select_modify_of_not (h := h) hq fun x hx => ?_) rfl
    obtain ⟨hx, hxj⟩ := Table.mem_select.1 hx
    refine beq_eq_false_iff_ne.2 fun he => hj ?_
    rw [← hid, ← payment_unique hx hmem he]
    exact (beq_iff_eq.1 hxj).symm

theorem purchase_setPaymentStatus {p : Payment} {status : PaymentStatus}
    (hp : p ∈ (db.purchase id).payments) :
    (db.setPaymentStatus p.paymentId status).purchase =
      Function.update db.purchase id
        ((db.purchase id).mapPayment p.paymentId fun p => { p with status }) :=
  purchase_modifyPayment (fun _ => rfl) hp

/-! ### Inserts -/

theorem purchase_insertCheckout {c : Checkout} {t : Table Checkout}
    (h : db.checkouts.insert? c = some t) :
    (db.purchase c.checkoutId).checkout = none ∧
      ({ db with checkouts := t } : Database).purchase =
        Function.update db.purchase c.checkoutId
          ((db.purchase c.checkoutId).putCheckout c) := by
  have key := fun j => Table.first_insert_unique h (q := fun d => d.checkoutId == j) fun b hb hc => by
    have hbc : b.checkoutId = c.checkoutId := (beq_iff_eq.1 hb).trans (beq_iff_eq.1 hc).symm
    simp [clashes, Keyed.clash, Keyed.key, hbc]
  refine ⟨((key _).1 (beq_self_eq_true _)).1, ?_⟩
  funext j
  by_cases hj : j = c.checkoutId
  · subst hj
    rw [Function.update_self]
    exact Purchase.ext ((key _).1 (beq_self_eq_true _)).2 rfl rfl rfl rfl
  · rw [Function.update_of_ne hj]
    exact Purchase.ext ((key j).2 (beq_eq_false_iff_ne.2 (Ne.symm hj))) rfl rfl rfl rfl

theorem purchase_insertReservation {r : Reservation} {t : Table Reservation}
    (h : db.reservations.insert? r = some t) :
    ({ db with reservations := t } : Database).purchase =
      Function.update db.purchase r.checkoutId
        ((db.purchase r.checkoutId).putHold r) := by
  have key := fun j => Table.first_insert_unique h (q := fun d => d.checkoutId == j) fun b hb hc => by
    have hbc : b.checkoutId = r.checkoutId := (beq_iff_eq.1 hb).trans (beq_iff_eq.1 hc).symm
    simp [clashes, Keyed.clash, Keyed.key, hbc]
  funext j
  by_cases hj : j = r.checkoutId
  · subst hj
    rw [Function.update_self]
    exact Purchase.ext rfl ((key _).1 (beq_self_eq_true _)).2 rfl rfl rfl
  · rw [Function.update_of_ne hj]
    exact Purchase.ext rfl ((key j).2 (beq_eq_false_iff_ne.2 (Ne.symm hj))) rfl rfl rfl

theorem purchase_insertAuthorization {a : Authorization} {t : Table Authorization}
    (h : db.authorizations.insert? a = some t) :
    (db.purchase a.checkoutId).authorization = none ∧
      ({ db with authorizations := t } : Database).purchase =
        Function.update db.purchase a.checkoutId
          ((db.purchase a.checkoutId).putAuthorization a) := by
  have key := fun j => Table.first_insert_unique h (q := fun d => d.checkoutId == j) fun b hb hc => by
    have hbc : b.checkoutId = a.checkoutId := (beq_iff_eq.1 hb).trans (beq_iff_eq.1 hc).symm
    simp [clashes, Keyed.clash, Keyed.key, hbc]
  refine ⟨((key _).1 (beq_self_eq_true _)).1, ?_⟩
  funext j
  by_cases hj : j = a.checkoutId
  · subst hj
    rw [Function.update_self]
    exact Purchase.ext rfl rfl ((key _).1 (beq_self_eq_true _)).2 rfl rfl
  · rw [Function.update_of_ne hj]
    exact Purchase.ext rfl rfl ((key j).2 (beq_eq_false_iff_ne.2 (Ne.symm hj))) rfl rfl

theorem purchase_insertPayment {p : Payment} {t : Table Payment}
    (h : db.payments.insert? p = some t) :
    ({ db with payments := t } : Database).purchase =
      Function.update db.purchase p.checkoutId
        ((db.purchase p.checkoutId).addPayment p) := by
  funext j
  by_cases hj : j = p.checkoutId
  · subst hj
    rw [Function.update_self]
    refine Purchase.ext rfl rfl rfl ?_ rfl
    exact (Table.select_insert h _).trans (by rw [beq_self_eq_true, if_pos rfl]; rfl)
  · rw [Function.update_of_ne hj]
    refine Purchase.ext rfl rfl rfl ?_ rfl
    refine (Table.select_insert h _).trans ?_
    rw [beq_eq_false_iff_ne.2 (Ne.symm hj), if_neg Bool.false_ne_true, List.append_nil]
    rfl

theorem purchase_insertOrder {o : Order} {t : Table Order} (h : db.orders.insert? o = some t) :
    ({ db with orders := t } : Database).purchase =
      Function.update db.purchase o.checkoutId
        ((db.purchase o.checkoutId).putOrder o) := by
  have key := fun j => Table.first_insert_unique h (q := fun d => d.checkoutId == j) fun b hb hc => by
    have hbc : b.checkoutId = o.checkoutId := (beq_iff_eq.1 hb).trans (beq_iff_eq.1 hc).symm
    simp [clashes, Keyed.clash, Keyed.key, hbc]
  funext j
  by_cases hj : j = o.checkoutId
  · subst hj
    rw [Function.update_self]
    exact Purchase.ext rfl rfl rfl rfl ((key _).1 (beq_self_eq_true _)).2
  · rw [Function.update_of_ne hj]
    exact Purchase.ext rfl rfl rfl rfl ((key j).2 (beq_eq_false_iff_ne.2 (Ne.symm hj)))

/-! ### Writes to one purchase -/

/-- The purchases are `F`, but for one, which is `P`. -/
def Database.Moved (db : Database) (F : String → Purchase) (id : String) (P : Purchase) : Prop :=
  db.purchase = Function.update F id P

variable {F : String → Purchase} {P : Purchase}

theorem Database.moved_self (db : Database) (id : String) :
    db.Moved db.purchase id (db.purchase id) :=
  (Function.update_eq_self id db.purchase).symm

namespace Database.Moved

theorem at_self (h : db.Moved F id P) : db.purchase id = P := by
  rw [h, Function.update_self]

/-- A write that no purchase shows. -/
theorem silent {db' : Database} (h : db.Moved F id P) (hsame : db'.purchase = db.purchase) :
    db'.Moved F id P :=
  hsame.trans h

/-- A write to the purchase that was written to before. -/
theorem next {db' : Database} {P' : Purchase} (h : db.Moved F id P)
    (hwrite : db'.purchase = Function.update db.purchase id P') : db'.Moved F id P' := by
  rw [Moved, hwrite, h, Function.update_idem]

theorem setCheckout (h : db.Moved F id P) (status : CheckoutStatus) :
    (db.setCheckoutStatus id status).Moved F id (P.setCheckout status) :=
  h.next (by rw [purchase_setCheckoutStatus, h.at_self])

theorem setAuthorization (h : db.Moved F id P) {a : Authorization}
    (ha : P.authorization = some a) (status : AuthorizationStatus) :
    (db.setAuthorizationStatus a.authorizationId status).Moved F id (P.setAuthorization status) := by
  refine h.next ?_
  have ha' : (db.purchase id).authorization = some a := by
    rw [h.at_self]
    exact ha
  rw [purchase_setAuthorizationStatus ha', h.at_self]

theorem modifyPayment (h : db.Moved F id P) {p : Payment} {f : Payment → Payment}
    {k : ∀ p, Keyed.key (f p) = Keyed.key p} (hf : ∀ p, (f p).checkoutId = p.checkoutId)
    (hp : p ∈ P.payments) :
    (db.modifyPayment p.paymentId f k).Moved F id (P.mapPayment p.paymentId f) := by
  refine h.next ?_
  have hp' : p ∈ (db.purchase id).payments := by
    rw [h.at_self]
    exact hp
  rw [purchase_modifyPayment hf hp', h.at_self]

theorem setPaymentStatus (h : db.Moved F id P) {p : Payment} (hp : p ∈ P.payments)
    (status : PaymentStatus) :
    (db.setPaymentStatus p.paymentId status).Moved F id
      (P.mapPayment p.paymentId fun p => { p with status }) :=
  h.modifyPayment (fun _ => rfl) hp

theorem addPayment (h : db.Moved F id P) {p : Payment} {t : Table Payment}
    (hid : p.checkoutId = id) (hins : db.payments.insert? p = some t) :
    ({ db with payments := t } : Database).Moved F id (P.addPayment p) := by
  subst hid
  exact h.next (by rw [purchase_insertPayment hins, h.at_self])

theorem putOrder (h : db.Moved F id P) {o : Order} {t : Table Order} (hid : o.checkoutId = id)
    (hins : db.orders.insert? o = some t) :
    ({ db with orders := t } : Database).Moved F id (P.putOrder o) := by
  subst hid
  exact h.next (by rw [purchase_insertOrder hins, h.at_self])

theorem putHold (h : db.Moved F id P) {r : Reservation} {t : Table Reservation}
    (hid : r.checkoutId = id) (hins : db.reservations.insert? r = some t) :
    ({ db with reservations := t } : Database).Moved F id (P.putHold r) := by
  subst hid
  exact h.next (by rw [purchase_insertReservation hins, h.at_self])

theorem putAuthorization (h : db.Moved F id P) {a : Authorization} {t : Table Authorization}
    (hid : a.checkoutId = id) (hins : db.authorizations.insert? a = some t) :
    P.authorization = none ∧
      ({ db with authorizations := t } : Database).Moved F id (P.putAuthorization a) := by
  subst hid
  obtain ⟨hnone, hrow⟩ := purchase_insertAuthorization hins
  rw [h.at_self] at hnone hrow
  exact ⟨hnone, h.next hrow⟩

theorem putCheckout (h : db.Moved F id P) {c : Checkout} {t : Table Checkout}
    (hid : c.checkoutId = id) (hins : db.checkouts.insert? c = some t) :
    P.checkout = none ∧
      ({ db with checkouts := t } : Database).Moved F id (P.putCheckout c) := by
  subst hid
  obtain ⟨hnone, hrow⟩ := purchase_insertCheckout hins
  rw [h.at_self] at hnone hrow
  exact ⟨hnone, h.next hrow⟩

end Database.Moved

end

end AgenticCommerce
