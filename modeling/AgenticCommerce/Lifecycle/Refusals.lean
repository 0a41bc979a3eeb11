/-
# Records of refusals

What the domain writes when it refuses: a checkout at `price_changed`, an authorization
at `expired`, a blocking policy decision, and the events that go with them.
`Database.Quiet` says that no such record was added, and `Database.Plain` that the rows
of the provider's callbacks are the same besides.  Both are frames of all the writes
the services make, the refusals apart.
-/

import AgenticCommerce.Lifecycle.Frames

namespace AgenticCommerce

open Relational

/-! ### Refusals -/

/-- What the domain writes when it refuses. -/
inductive Refusal where
  /-- A checkout at `price_changed`. -/
  | priceChanged (checkoutId : String)
  /-- An authorization at `expired`. -/
  | expired (authorizationId : String)
  /-- A blocking policy decision. -/
  | blocked (record : PolicyDecisionRecord)
  /-- The `n`-th event of a refusal. -/
  | event (n : ℕ) (e : AuditEvent)

/-- The store has the record of a refusal. -/
def Database.Refuses (db : Database) : Refusal → Prop
  | .priceChanged id => ∃ c ∈ db.checkouts, c.checkoutId = id ∧ c.status = .priceChanged
  | .expired id => ∃ a ∈ db.authorizations, a.authorizationId = id ∧ a.status = .expired
  | .blocked record => record ∈ db.policyDecisions ∧ record.decision = .block
  | .event n e => (db.auditEvents.filter AuditEvent.refusal)[n]? = some e

namespace Database

/-- No record of a refusal was added. -/
def Quiet (db db' : Database) : Prop := ∀ r, db'.Refuses r → db.Refuses r

/-- No record of a refusal was added, and the callbacks are the same. -/
def Plain (db db' : Database) : Prop := db'.providerEvents = db.providerEvents ∧ db.Quiet db'

instance : IsPreorder Database Quiet where
  refl _ _ h := h
  trans _ _ _ h h' r hr := h r (h' r hr)

instance : IsPreorder Database Plain where
  refl db := ⟨rfl, refl_of Quiet db⟩
  trans _ _ _ h h' := ⟨h'.1.trans h.1, trans_of Quiet h.2 h'.2⟩

section

variable {db db' : Database}

theorem Plain.quiet (h : db.Plain db') : db.Quiet db' := h.2

/-- A write to other tables. -/
theorem Quiet.of_eq (hcheckouts : db'.checkouts = db.checkouts)
    (hauthorizations : db'.authorizations = db.authorizations)
    (hdecisions : db'.policyDecisions = db.policyDecisions)
    (hevents : db'.auditEvents = db.auditEvents) : db.Quiet db' := by
  intro r hr
  cases r with
  | priceChanged id =>
      rw [Refuses, hcheckouts] at hr
      exact hr
  | expired id =>
      rw [Refuses, hauthorizations] at hr
      exact hr
  | blocked record =>
      rw [Refuses, hdecisions] at hr
      exact hr
  | event n e =>
      rw [Refuses, hevents] at hr
      exact hr

theorem Plain.of_eq (hcheckouts : db'.checkouts = db.checkouts)
    (hauthorizations : db'.authorizations = db.authorizations)
    (hdecisions : db'.policyDecisions = db.policyDecisions)
    (hevents : db'.auditEvents = db.auditEvents)
    (hproviderEvents : db'.providerEvents = db.providerEvents) : db.Plain db' :=
  ⟨hproviderEvents, .of_eq hcheckouts hauthorizations hdecisions hevents⟩

theorem plain_appendAudit {e : AuditEvent} (he : e.refusal = false) :
    db.Plain (db.appendAudit e) := by
  refine ⟨rfl, fun r hr => ?_⟩
  cases r with
  | event n e' =>
      have hsilent : AuditEvent.refusal
          { e with metadata := Audit.safeFields e.metadata } = false := he
      rw [Refuses, appendAudit, List.filter_append, List.filter_cons_of_neg (by simp [hsilent]),
        List.filter_nil, List.append_nil] at hr
      exact hr
  | priceChanged id => exact hr
  | expired id => exact hr
  | blocked record => exact hr

theorem plain_setCheckoutStatus {id : String} {s : CheckoutStatus} (hs : s ≠ .priceChanged) :
    db.Plain (db.setCheckoutStatus id s) := by
  refine ⟨rfl, fun r hr => ?_⟩
  cases r with
  | priceChanged id' =>
      obtain ⟨c, hc, hid, hstatus⟩ := hr
      rw [setCheckoutStatus, Table.mem_modify] at hc
      obtain ⟨c', hc', rfl⟩ := hc
      split_ifs at hid hstatus
      · exact absurd hstatus hs
      · exact ⟨c', hc', hid, hstatus⟩
  | expired id' => exact hr
  | blocked record => exact hr
  | event n e => exact hr

theorem plain_setAuthorizationStatus {id : String} {s : AuthorizationStatus} (hs : s ≠ .expired) :
    db.Plain (db.setAuthorizationStatus id s) := by
  refine ⟨rfl, fun r hr => ?_⟩
  cases r with
  | expired id' =>
      obtain ⟨a, ha, hid, hstatus⟩ := hr
      rw [setAuthorizationStatus, Table.mem_modify] at ha
      obtain ⟨a', ha', rfl⟩ := ha
      split_ifs at hid hstatus
      · exact absurd hstatus hs
      · exact ⟨a', ha', hid, hstatus⟩
  | priceChanged id' => exact hr
  | blocked record => exact hr
  | event n e => exact hr

theorem plain_insertCheckout {c : Checkout} {t : Table Checkout} (hs : c.status ≠ .priceChanged)
    (h : db.checkouts.insert? c = some t) : db.Plain { db with checkouts := t } := by
  refine ⟨rfl, fun r hr => ?_⟩
  cases r with
  | priceChanged id =>
      obtain ⟨c', hc', hid, hstatus⟩ := hr
      rcases (Table.mem_insert h).1 hc' with hc' | rfl
      · exact ⟨c', hc', hid, hstatus⟩
      · exact absurd hstatus hs
  | expired id => exact hr
  | blocked record => exact hr
  | event n e => exact hr

theorem plain_insertAuthorization {a : Authorization} {t : Table Authorization}
    (hs : a.status ≠ .expired) (h : db.authorizations.insert? a = some t) :
    db.Plain { db with authorizations := t } := by
  refine ⟨rfl, fun r hr => ?_⟩
  cases r with
  | expired id =>
      obtain ⟨a', ha', hid, hstatus⟩ := hr
      rcases (Table.mem_insert h).1 ha' with ha' | rfl
      · exact ⟨a', ha', hid, hstatus⟩
      · exact absurd hstatus hs
  | priceChanged id => exact hr
  | blocked record => exact hr
  | event n e => exact hr

theorem plain_insertDecision {record : PolicyDecisionRecord} {t : Table PolicyDecisionRecord}
    (hs : record.decision ≠ .block) (h : db.policyDecisions.insert? record = some t) :
    db.Plain { db with policyDecisions := t } := by
  refine ⟨rfl, fun r hr => ?_⟩
  cases r with
  | blocked record' =>
      obtain ⟨hmem, hblock⟩ := hr
      rcases (Table.mem_insert h).1 hmem with hmem | rfl
      · exact ⟨hmem, hblock⟩
      · exact absurd hblock hs
  | priceChanged id => exact hr
  | expired id => exact hr
  | event n e => exact hr

/-- An event of the books is no refusal. -/
theorem plain_routine {e : AuditEvent} (he : e.routine = true) : db.Plain (db.appendAudit e) :=
  plain_appendAudit (by
    rw [AuditEvent.routine, Bool.and_eq_true, Bool.and_eq_true, Bool.not_eq_true'] at he
    exact he.1.1)

theorem plain_checkoutTransition {id : String} {s : CheckoutStatus} {e : AuditEvent}
    (hs : s ≠ .priceChanged) (he : e.refusal = false) :
    db.Plain ((db.setCheckoutStatus id s).appendAudit e) :=
  trans_of Plain (plain_setCheckoutStatus hs) (plain_appendAudit he)

theorem plain_paymentTransition {id : String} {s : PaymentStatus} {e : AuditEvent}
    (he : e.refusal = false) : db.Plain ((db.setPaymentStatus id s).appendAudit e) := by
  have hsame : db.Plain (db.setPaymentStatus id s) := .of_eq rfl rfl rfl rfl rfl
  exact trans_of Plain hsame (plain_appendAudit he)

end

instance : BooksFrame Plain := ⟨fun _ _ _ _ _ _ => .of_eq rfl rfl rfl rfl rfl, fun _ _ => plain_routine⟩
instance : RecordsFrame Plain := ⟨fun _ _ => .of_eq rfl rfl rfl rfl rfl⟩
instance : TransitionFrame Plain :=
  ⟨fun _ _ _ _ => plain_checkoutTransition, fun _ _ _ _ => plain_paymentTransition⟩
instance : PaymentFrame Plain :=
  ⟨fun _ _ _ _ _ => .of_eq rfl rfl rfl rfl rfl, fun _ _ _ _ => .of_eq rfl rfl rfl rfl rfl⟩
instance : CheckoutFrame Plain :=
  ⟨fun _ _ _ hs h => plain_insertCheckout (by rw [hs]; decide) h⟩
instance : AuthorizationFrame Plain :=
  ⟨fun _ _ _ => plain_insertDecision, fun _ _ _ => plain_setAuthorizationStatus,
    fun _ _ _ => plain_insertAuthorization⟩

instance : BooksFrame Quiet :=
  ⟨fun _ _ _ _ _ _ => .of_eq rfl rfl rfl rfl, fun _ _ h => (plain_routine h).quiet⟩
instance : RecordsFrame Quiet := ⟨fun _ _ => .of_eq rfl rfl rfl rfl⟩
instance : TransitionFrame Quiet :=
  ⟨fun _ _ _ _ hs he => (plain_checkoutTransition hs he).quiet,
    fun _ _ _ _ he => (plain_paymentTransition he).quiet⟩
instance : PaymentFrame Quiet :=
  ⟨fun _ _ _ _ _ => .of_eq rfl rfl rfl rfl, fun _ _ _ _ => .of_eq rfl rfl rfl rfl⟩
instance : CheckoutFrame Quiet :=
  ⟨fun _ _ _ hs h => (plain_insertCheckout (by rw [hs]; decide) h).quiet⟩
instance : AuthorizationFrame Quiet :=
  ⟨fun _ _ _ hs h => (plain_insertDecision hs h).quiet,
    fun _ _ _ hs => (plain_setAuthorizationStatus hs).quiet,
    fun _ _ _ hs h => (plain_insertAuthorization hs h).quiet⟩
instance : CallbackFrame Quiet := ⟨fun _ _ _ => .of_eq rfl rfl rfl rfl⟩

end Database
end AgenticCommerce
