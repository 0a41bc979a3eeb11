/-
# What is never rewritten

Nothing that was recorded, agreed or finished changes afterwards, whatever the system does
next (`Database.Kept`, `kept_of_run`): the ledger only grows at its end, policy decisions and
orders stay as they were written, checkouts and authorizations keep every column but their
status, a finished checkout keeps that too, and a finished payment keeps its status and its
amount.  Every operation is read as one step of a frame of each kind; that the transition
table leads out of no finished status is the only fact about it that counts
(`CheckoutStatus.next_of_finished`, `PaymentStatus.next_of_finished`).
-/

import AgenticCommerce.Lifecycle.Accounts
import AgenticCommerce.Lifecycle.Grants
import AgenticCommerce.Lifecycle.Transits

namespace AgenticCommerce

open Relational Work

/-! ### Finished statuses -/

/-- A checkout that no rule of the transition table leads out of. -/
def CheckoutStatus.Finished (s : CheckoutStatus) : Prop :=
  s ∉ [CheckoutStatus.created, .policyChecked, .authorizationPending, .authorized]

/-- A payment that is settled one way or the other, or left to a person. -/
def PaymentStatus.Finished (s : PaymentStatus) : Prop :=
  s ∈ [PaymentStatus.verified, .failed, .manualReview]

/-- **No rule leads out of a finished checkout.** -/
theorem CheckoutStatus.next_of_finished {s : CheckoutStatus} (hs : s.Finished)
    {event : TransitionEvent} {context : TransitionContext} {rule : TransitionRule} :
    validate s.canonical event context ≠ .ok rule := by
  have hnone : ∀ rule ∈ transitions, rule.source ≠ s.canonical := by
    unfold Finished at hs
    cases s <;> first | exact absurd (by decide) hs | decide
  intro h
  have hfound := (validate_eq_ok h).1
  have hrule := List.find?_some hfound
  simp only [Bool.and_eq_true, decide_eq_true_eq] at hrule
  exact hnone rule (List.mem_of_find?_eq_some hfound) hrule.1

/-- **A finished payment stays what it is**: the one rule out of `verified` leads back to it. -/
theorem PaymentStatus.next_of_finished {s s' : PaymentStatus} (hs : s.Finished)
    {event : TransitionEvent} {context : TransitionContext} {rule : TransitionRule}
    (h : validate s.canonical event context = .ok rule) (hs' : ofCanonical? rule.target = some s') :
    s' = s := by
  have hall : ∀ rule ∈ transitions, rule.source = s.canonical →
      ofCanonical? rule.target = some s := by
    unfold Finished at hs
    cases s <;> first | exact absurd hs (by decide) | decide
  have hfound := (validate_eq_ok h).1
  have hrule := List.find?_some hfound
  simp only [Bool.and_eq_true, decide_eq_true_eq] at hrule
  have htarget := hall rule (List.mem_of_find?_eq_some hfound) hrule.1
  exact Option.some.inj (hs'.symm.trans htarget)

/-! ### Frames -/

/-- **What was recorded, agreed or finished is kept.** -/
structure Database.Kept (db db' : Database) : Prop where
  ledger : db.auditEvents <+: db'.auditEvents
  decisions : ∀ d ∈ db.policyDecisions, d ∈ db'.policyDecisions
  checkouts : ∀ c ∈ db.checkouts, ∃ s, { c with status := s } ∈ db'.checkouts ∧
    (c.status.Finished → s = c.status)
  authorizations : ∀ a ∈ db.authorizations, ∃ s, { a with status := s } ∈ db'.authorizations
  payments : ∀ p ∈ db.payments, p.status.Finished → ∃ p' ∈ db'.payments,
    p'.paymentId = p.paymentId ∧ p'.status = p.status ∧ p'.amountMinor = p.amountMinor

namespace Database

variable {db db' : Database}

/-- A write that adds to the ledger at most, and to the decisions. -/
theorem Kept.of_eq (hledger : db.auditEvents <+: db'.auditEvents)
    (hdecisions : ∀ d ∈ db.policyDecisions, d ∈ db'.policyDecisions)
    (hcheckouts : db'.checkouts = db.checkouts)
    (hauthorizations : db'.authorizations = db.authorizations)
    (hpayments : db'.payments = db.payments) : db.Kept db' where
  ledger := hledger
  decisions := hdecisions
  checkouts c hc := ⟨c.status, hcheckouts ▸ hc, fun _ => rfl⟩
  authorizations a ha := ⟨a.status, hauthorizations ▸ ha⟩
  payments p hp _ := ⟨p, hpayments ▸ hp, rfl, rfl, rfl⟩

instance kept_isPreorder : IsPreorder Database Kept where
  refl _ := .of_eq (List.prefix_refl _) (fun _ hd => hd) rfl rfl rfl
  trans _ _ _ h h' := by
    constructor
    · exact h.ledger.trans h'.ledger
    · exact fun d hd => h'.decisions d (h.decisions d hd)
    · intro c hc
      obtain ⟨s, hs, hsame⟩ := h.checkouts c hc
      obtain ⟨s', hs', hsame'⟩ := h'.checkouts _ hs
      refine ⟨s', hs', fun hfinished => ?_⟩
      have hs := hsame hfinished
      subst hs
      exact hsame' hfinished
    · intro a ha
      obtain ⟨s, hs⟩ := h.authorizations a ha
      obtain ⟨s', hs'⟩ := h'.authorizations _ hs
      exact ⟨s', hs'⟩
    · intro p hp hfinished
      obtain ⟨p', hp', hid, hs, hamount⟩ := h.payments p hp hfinished
      rw [← hs] at hfinished
      obtain ⟨p'', hp'', hid', hs', hamount'⟩ := h'.payments p' hp' hfinished
      exact ⟨p'', hp'', hid'.trans hid, hs'.trans hs, hamount'.trans hamount⟩

/-- A new event goes behind the others. -/
theorem kept_appendAudit (db : Database) (e : AuditEvent) : db.Kept (db.appendAudit e) :=
  .of_eq (List.prefix_append _ _) (fun _ hd => hd) rfl rfl rfl

/-- A write to the tables that are not kept. -/
theorem Kept.of_rest (hledger : db'.auditEvents = db.auditEvents)
    (hdecisions : db'.policyDecisions = db.policyDecisions)
    (hcheckouts : db'.checkouts = db.checkouts)
    (hauthorizations : db'.authorizations = db.authorizations)
    (hpayments : db'.payments = db.payments) : db.Kept db' :=
  .of_eq (hledger ▸ List.prefix_refl _) (fun _ hd => hdecisions ▸ hd) hcheckouts hauthorizations
    hpayments

instance kept_booksFrame : BooksFrame Kept :=
  ⟨fun _ _ _ _ _ _ => .of_rest rfl rfl rfl rfl rfl, fun db e _ => kept_appendAudit db e⟩
instance kept_recordsFrame : RecordsFrame Kept := ⟨fun _ _ => .of_rest rfl rfl rfl rfl rfl⟩
instance kept_callbackFrame : CallbackFrame Kept := ⟨fun _ _ _ => .of_rest rfl rfl rfl rfl rfl⟩

/-- A change of some payments' columns that leaves what a finished payment keeps. -/
theorem kept_modifyPayment {id : String} {f : Payment → Payment}
    {h : ∀ p, Keyed.key (f p) = Keyed.key p} (hf : ∀ p ∈ db.payments, p.status.Finished →
      p.paymentId = id → (f p).status = p.status ∧ (f p).amountMinor = p.amountMinor) :
    db.Kept (db.modifyPayment id f h) := by
  refine { refl_of Kept db with payments := fun p hp hfinished => ?_ }
  by_cases hid : (p.paymentId == id) = true
  · obtain ⟨hs, hamount⟩ := hf p hp hfinished (beq_iff_eq.1 hid)
    exact ⟨f p, Table.mem_modify_of_match (h := h) hp hid, h p, hs, hamount⟩
  · have hstays : p ∈ (db.modifyPayment id f h).payments := by
      rw [modifyPayment, Table.mem_modify]
      exact ⟨p, hp, if_neg hid⟩
    exact ⟨p, hstays, rfl, rfl, rfl⟩

instance kept_attemptFrame : AttemptFrame Kept where
  modify _ _ _ _ hf := kept_modifyPayment fun p _ _ _ => hf p
  opening db _ _ _ ht := { refl_of Kept db with
    payments := fun q hq _ => ⟨q, (Table.mem_insert ht).2 (.inl hq), rfl, rfl, rfl⟩ }

instance kept_checkoutFrame : CheckoutFrame Kept where
  opening db _ _ _ ht := { refl_of Kept db with
    checkouts := fun d hd => ⟨d.status, (Table.mem_insert ht).2 (.inl hd), fun _ => rfl⟩ }

instance kept_authorizationFrame : AuthorizationFrame Kept where
  decision db r t _ ht := { refl_of Kept db with
    decisions := fun d hd => (Table.mem_insert ht).2 (.inl hd) }
  status db id s _ := { refl_of Kept db with
    authorizations := fun a ha => by
      by_cases hid : a.authorizationId = id
      · exact ⟨s, mem_setAuthorizationStatus.2 ⟨a, ha, if_pos hid⟩⟩
      · exact ⟨a.status, mem_setAuthorizationStatus.2 ⟨a, ha, if_neg hid⟩⟩ }
  insert db a t _ ht := { refl_of Kept db with
    authorizations := fun b hb => ⟨b.status, (Table.mem_insert ht).2 (.inl hb)⟩ }

/-- A transition of a checkout that the store has is not of a finished one. -/
theorem kept_setCheckoutStatus {c : Checkout} (hc : c ∈ db.checkouts)
    (hopen : ¬c.status.Finished) (s : CheckoutStatus) :
    db.Kept (db.setCheckoutStatus c.checkoutId s) := by
  refine { refl_of Kept db with checkouts := fun d hd => ?_ }
  by_cases hid : (d.checkoutId == c.checkoutId) = true
  · refine ⟨s, Table.mem_modify_of_match (f := fun c : Checkout => { c with status := s })
      (h := fun _ => rfl) hd hid, fun hfinished => ?_⟩
    obtain rfl := checkout_unique hd hc (beq_iff_eq.1 hid)
    exact absurd hfinished hopen
  · refine ⟨d.status, ?_, fun _ => rfl⟩
    have hstays : d ∈ (db.setCheckoutStatus c.checkoutId s).checkouts := by
      rw [setCheckoutStatus, Table.mem_modify]
      exact ⟨d, hd, if_neg hid⟩
    exact hstays

instance kept_transitFrame {closable : Checkout → TransitionEvent → Prop} :
    TransitFrame closable Kept where
  transit db db' aggregate event context rule _ hcurrent hvalid hset := by
    refine trans_of Kept ?_ (kept_appendAudit db' _)
    cases aggregate with
    | checkout c =>
        obtain ⟨s, -, rfl⟩ := Option.map_eq_some_iff.1 hset
        exact kept_setCheckoutStatus hcurrent
          (fun hfinished => CheckoutStatus.next_of_finished hfinished hvalid) s
    | payment p =>
        obtain ⟨s, hs, rfl⟩ := Option.map_eq_some_iff.1 hset
        obtain ⟨q, hq, hqid, hqs⟩ := hcurrent
        refine kept_modifyPayment fun p' hp' hfinished hid => ⟨?_, rfl⟩
        obtain rfl := payment_unique hp' hq (hid.trans hqid.symm)
        rw [hqs] at hfinished ⊢
        exact PaymentStatus.next_of_finished hfinished hvalid hs

/-- Every order is still there, as it was written. -/
def OrdersStay (db db' : Database) : Prop := ∀ o ∈ db.orders, o ∈ db'.orders

instance ordersStay_isPreorder : IsPreorder Database OrdersStay where
  refl _ _ ho := ho
  trans _ _ _ h h' o ho := h' o (h o ho)

theorem OrdersStay.of_eq (h : db'.orders = db.orders) : db.OrdersStay db' := fun _ ho => h ▸ ho

instance ordersStay_bookingFrame : BookingFrame OrdersStay :=
  .of_writes (fun hsame => .of_eq hsame.2) (fun _ _ => .of_eq rfl) (fun _ _ _ _ _ => .of_eq rfl)
    fun ht _ ho => (Table.mem_insert ht).2 (.inl ho)

end Database

/-! ### Runs -/

section

variable {env : Env} {w w' : World}

theorem Operation.kept (op : Operation) : w.db.Kept (op.run env w).db :=
  op.transits_of (fun _ _ => True) (fun _ _ _ _ _ db e _ => Database.kept_appendAudit db e)
    (fun _ _ _ _ _ => .of_rest rfl rfl rfl rfl rfl) (fun _ _ _ _ _ _ => trivial)
    (fun _ _ _ _ _ _ _ _ _ _ => trivial) fun _ _ _ _ => trivial

theorem Operation.ordersStay (op : Operation) : w.db.OrdersStay (op.run env w).db := by
  refine op.bookings_of (fun _ _ _ _ _ _ => ?_) fun _ _ _ => .of ?_
  · exact reserveStock_of_writes (fun _ _ => .of_eq rfl) fun _ _ => .of_eq rfl
  · exact importInventory_of_writes fun _ _ => .of_eq rfl

theorem ordersStay_of_run (hrun : Relation.ReflTransGen Step w w') : w.db.OrdersStay w'.db := by
  refine invariant_of_steps (I := fun v : World => w.db.OrdersStay v.db) (fun u v hu huv => ?_)
    (refl_of Database.OrdersStay w.db) hrun
  obtain ⟨env, op, rfl⟩ := huv
  exact trans_of Database.OrdersStay hu op.ordersStay

/-- **Nothing is rewritten**: over any run of the system, from any store, the ledger of audit
events only grows at its end, orders and policy decisions stay as they were written,
checkouts and authorizations keep every column but their status, a checkout that is
finished is never touched again, and a payment that is finished keeps its status and its
amount. -/
theorem kept_of_run (hrun : Relation.ReflTransGen Step w w') :
    w.db.Kept w'.db ∧ w.db.OrdersStay w'.db ∧
      ∀ c ∈ w.db.checkouts, c.status.Finished → c ∈ w'.db.checkouts := by
  have hkept : w.db.Kept w'.db := by
    refine invariant_of_steps (I := fun v : World => w.db.Kept v.db) (fun u v hu huv => ?_)
      (refl_of Database.Kept w.db) hrun
    obtain ⟨env, op, rfl⟩ := huv
    exact trans_of Database.Kept hu op.kept
  refine ⟨hkept, ordersStay_of_run hrun, fun c hc hfinished => ?_⟩
  obtain ⟨s, hs, hsame⟩ := hkept.checkouts c hc
  rw [hsame hfinished] at hs
  exact hs

/-- The buyer of a paid checkout asks to cancel it. -/
def cancelledLate : World :=
  (Operation.cancelCheckout "byr" "mer" "chk").run shopEnv paymentVerified

theorem kept_of_run_cancelledLate :
    paymentVerified.db.checkouts.rows.map Checkout.status = [.completed] ∧
      paymentVerified.db.Kept cancelledLate.db ∧
        paymentVerified.db.OrdersStay cancelledLate.db := by
  have hkept : paymentVerified.db.Kept cancelledLate.db ∧ _ :=
    kept_of_run (.single ⟨shopEnv, _, rfl⟩)
  exact ⟨by decide, hkept.1, hkept.2.1⟩

end

end AgenticCommerce
