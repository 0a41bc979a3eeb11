/-
# The rows of the payments

What an update of one payment does to the lookups and to the constraints that only a
flush checks: the provider's identifiers are unique (`Database.flushable`), and an
update that leaves them alone, or sets one that no payment has, keeps them so.
-/

import AgenticCommerce.Lifecycle.View

namespace AgenticCommerce

open Relational

section

variable {db : Database} {id : String} {p : Payment} {f : Payment → Payment}
  {k : ∀ p, Keyed.key (f p) = Keyed.key p}

theorem paymentById_modifyPayment (hp : db.paymentById id = some p) :
    (db.modifyPayment id f k).paymentById id = some (f p) := by
  have hid : ∀ q : Payment, ((f q).paymentId == id) = (q.paymentId == id) := fun q => by
    rw [show (f q).paymentId = q.paymentId from k q]
  have hfirst := Table.first_modify_of (t := db.payments) (h := k)
    (q := fun q => q.paymentId == id) hid fun q hq => (Table.first_eq_some hq).2
  exact hfirst.trans (congrArg (Option.map f) hp)

/-- An update that leaves the provider's identifiers alone. -/
theorem sameValue_comm (x y : Option String) : sameValue x y = sameValue y x := by
  cases x <;> cases y <;> simp [sameValue, Bool.beq_comm]

theorem flushable_modifyPayment (hf : ∀ p, (f p).providerOrderId = p.providerOrderId ∧
    (f p).providerPaymentId = p.providerPaymentId) :
    (db.modifyPayment id f k).flushable = db.flushable := by
  have horder : ∀ q : Payment,
      (if q.paymentId == id then f q else q).providerOrderId = q.providerOrderId := fun q => by
    split_ifs
    · exact (hf q).1
    · rfl
  have hpayment : ∀ q : Payment,
      (if q.paymentId == id then f q else q).providerPaymentId = q.providerPaymentId := fun q => by
    split_ifs
    · exact (hf q).2
    · rfl
  simp only [Database.flushable, Database.modifyPayment, Table.modify, List.pairwise_map, horder,
    hpayment]

/-- An update that changes nothing about the payment it is for changes nothing. -/
theorem modifyPayment_self (hp : db.paymentById p.paymentId = some p)
    (hf : f p = p) : db.modifyPayment p.paymentId f k = db := by
  have hsame : db.payments.modify (fun q => q.paymentId == p.paymentId) f k = db.payments := by
    refine Table.modify_of_forall_eq f k fun q hq hid => ?_
    obtain rfl := payment_unique (Table.first_eq_some hp).1 hq (beq_iff_eq.1 hid).symm
    exact hf
  rw [Database.modifyPayment, hsame]

/-- An order identifier that no payment has can be given to one. -/
theorem flushable_setOrder (id : String) {orderId : String} (hflush : db.flushable = true)
    (hnew : ∀ q ∈ db.payments, q.providerOrderId ≠ some orderId) :
    (db.modifyPayment id (fun p => { p with providerOrderId := some orderId })
      fun _ => rfl).flushable = true := by
  rw [Database.flushable, decide_eq_true_eq] at hflush ⊢
  refine List.pairwise_map.2 ((hflush.and db.payments.unique).imp_of_mem ?_)
  intro p q hp hq ⟨⟨horder, hpayment⟩, hkeys⟩
  have hother : ∀ r ∈ db.payments.rows, sameValue (some orderId) r.providerOrderId = false ∧
      sameValue r.providerOrderId (some orderId) = false := fun r hr => by
    have hne := hnew r hr
    cases hro : r.providerOrderId with
    | none => exact ⟨rfl, rfl⟩
    | some o =>
        rw [hro] at hne
        have ho : o ≠ orderId := fun h => hne (by rw [h])
        simp [sameValue, ho, ho.symm]
  by_cases hpid : (p.paymentId == id) = true <;> by_cases hqid : (q.paymentId == id) = true
  · have hsame : p.paymentId = q.paymentId := (beq_iff_eq.1 hpid).trans (beq_iff_eq.1 hqid).symm
    exact absurd hsame (of_decide_eq_false hkeys)
  · rw [if_pos hpid, if_neg hqid]
    exact ⟨(hother q hq).1, hpayment⟩
  · rw [if_neg hpid, if_pos hqid]
    exact ⟨(hother p hp).2, hpayment⟩
  · rw [if_neg hpid, if_neg hqid]
    exact ⟨horder, hpayment⟩

end

/-- An order identifier is held by one payment. -/
theorem order_unique {db : Database} {p q : Payment} {orderId : String} (hflush : db.flushable = true)
    (hp : p ∈ db.payments) (hq : q ∈ db.payments) (h : p.providerOrderId = some orderId)
    (h' : q.providerOrderId = some orderId) : p = q := by
  rw [Database.flushable, decide_eq_true_eq] at hflush
  have hsymm : Std.Symm fun p q : Payment => sameValue p.providerOrderId q.providerOrderId = false ∧
      sameValue p.providerPaymentId q.providerPaymentId = false :=
    ⟨fun p q hpq => by rwa [sameValue_comm, sameValue_comm q.providerPaymentId]⟩
  by_contra hne
  have hdistinct := hflush.forall hp hq hne
  rw [h, h'] at hdistinct
  simp [sameValue] at hdistinct

end AgenticCommerce
