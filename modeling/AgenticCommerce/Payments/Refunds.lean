/-
# The refund ceiling

`refundPayment` has no counter of what it gave back: it sums the refunds that the ledger
records and refuses an amount that does not fit under the payment's.  `Refunds.Kept` ties
the three histories together, the payment's amount, the ledger and the calls that the
provider answered for the payment.  A call that is refused, or that the provider refuses,
records nothing; one that succeeds records itself; and one whose transaction aborts after
the provider's answer leaves a refund that the ledger does not have.  The other
operations leave all of it alone (`RefundsKept`), so the ceiling holds in every state of
a run in which they come in between (`refund_ceiling`).
-/

import AgenticCommerce.Lifecycle.Ledger
import AgenticCommerce.Payments.Rows

namespace AgenticCommerce

open Relational Work

/-! ### The two histories -/

/-- The ledger rows of a payment's refunds. -/
def Payment.refundEvents (paymentId : String) (db : Database) : List AuditEvent :=
  db.auditEvents.filter fun e => e.aggregateType == "payment" && e.aggregateId == paymentId &&
    e.eventType == Payment.refundEventType

/-- The provider refunded something. -/
def ProviderCall.granted : ProviderCall → Bool
  | .refund _ _ (.ok _) => true
  | _ => false

/-- What the provider reports to have refunded. -/
def ProviderCall.refunded : ProviderCall → ℤ
  | .refund _ _ (.ok made) => made.amountMinor
  | _ => 0

/-- A refund that was made is of the amount that was asked. -/
def ProviderCall.Exact : ProviderCall → Prop
  | .refund _ amountMinor (.ok made) => made.amountMinor = amountMinor
  | _ => True

/-- A ledger row records a refund that the provider made. -/
def AuditEvent.RecordsRefund (e : AuditEvent) (call : ProviderCall) : Prop :=
  ∃ providerPaymentId amountMinor made,
    call = .refund providerPaymentId amountMinor (.ok made) ∧ e.amountMinor = some amountMinor ∧
      ("provider_refund_id", Audit.safeMetadata "provider_refund_id" (.str made.refundId)) ∈
        e.metadata

/-! ### One call -/

section

variable {env : Env} {w w' : World} {id reason : String} {amount : Option ℤ} {m : Option String}

/-- **A refund that succeeds** is positive and fits under what is left of the payment; the
provider makes it, and the ledger gets its row. -/
theorem refundPayment_ok {answer : Payment.RefundV1}
    (h : Payment.refundPayment env id amount reason m w = .ok answer w') :
    ∃ p e call n, w.db.paymentById id = some p ∧ w'.db = w.db.appendAudit e ∧
      w'.calls = w.calls ++ [call] ∧ call.granted = true ∧ e.RefundOf id ∧
      e.stored.RecordsRefund call ∧ e.amountMinor = some n ∧ n = amount.getD p.amountMinor ∧
      0 < n ∧ Payment.refundedMinorSoFar id w.db + n ≤ p.amountMinor := by
  simp only [Payment.refundPayment, bind_eq_ok, require_eq_ok, raiseIf_eq_ok, ofAnswer_eq_ok,
    query_eq_ok, call_eq_ok, appendEvent_eq_ok, pure_eq_ok] at h
  obtain ⟨p, _, ⟨hp, rfl⟩, _, _, ⟨-, rfl⟩, _, _, ⟨-, rfl⟩, providerId, _, ⟨-, rfl⟩, _, _,
    ⟨rfl, rfl⟩, _, _, ⟨hfits, rfl⟩, _, _, ⟨rfl, rfl⟩, made, _, ⟨hmade, rfl⟩, _, _, rfl, -, rfl⟩ := h
  obtain ⟨hpositive, hceiling⟩ := not_or.1 hfits
  refine ⟨p, _, _, _, hp, rfl, rfl, ?_, ⟨⟨rfl, rfl⟩, rfl, rfl, rfl⟩, ?_, rfl, rfl, by omega, by omega⟩
  · rw [hmade]
    rfl
  · refine ⟨providerId, _, made, by rw [hmade], rfl, ?_⟩
    simp [AuditEvent.stored, Audit.safeFields]

/-- **A refund that fails** writes nothing, and the provider made none. -/
theorem refundPayment_error {failure : Failure}
    (h : Payment.refundPayment env id amount reason m w = .error failure w') :
    w'.db = w.db ∧ ∃ asked, w'.calls = w.calls ++ asked ∧
      asked.filter ProviderCall.granted = [] := by
  have hsame : w' = w → w'.db = w.db ∧ ∃ asked, w'.calls = w.calls ++ asked ∧
      asked.filter ProviderCall.granted = [] := by
    rintro rfl
    exact ⟨rfl, [], (List.append_nil _).symm, rfl⟩
  simp only [Payment.refundPayment, bind_eq_error, require_eq_ok, raiseIf_eq_ok,
    ofAnswer_eq_ok, query_eq_ok, call_eq_ok, require_eq_error, raiseIf_eq_error, ofAnswer_eq_error,
    query_eq_error, call_eq_error, appendEvent_eq_error, pure_eq_error] at h
  rcases h with ⟨-, -, rfl⟩ | ⟨p, _, ⟨-, rfl⟩, ⟨-, -, rfl⟩ | ⟨_, _, ⟨-, rfl⟩, ⟨-, -, rfl⟩ |
    ⟨_, _, ⟨-, rfl⟩, ⟨-, rfl⟩ | ⟨providerId, _, ⟨-, rfl⟩, h⟩⟩⟩⟩
  iterate 4 exact hsame rfl
  simp only [false_or] at h
  obtain ⟨_, _, ⟨-, rfl⟩, ⟨-, -, rfl⟩ | ⟨_, _, ⟨-, rfl⟩, _, _, ⟨hanswer, rfl⟩, h⟩⟩ := h
  · exact hsame rfl
  rcases h with ⟨rfl, rfl⟩ | ⟨_, _, ⟨-, rfl⟩, _, _, -, hnone⟩
  · refine ⟨rfl, _, rfl, ?_⟩
    rw [hanswer]
    rfl
  · exact absurd hnone (by simp)

end

/-! ### What the other operations leave alone -/

/-- The ledger has the same refunds of a payment, and the payment its amount. -/
def Database.RefundsKept (id : String) (db db' : Database) : Prop :=
  Payment.refundEvents id db' = Payment.refundEvents id db ∧
    (db.paymentById id = none ∨
      (db'.paymentById id).map Payment.amountMinor = (db.paymentById id).map Payment.amountMinor)

namespace Database

section

variable {id : String} {db db' : Database}

instance : IsPreorder Database (RefundsKept id) where
  refl _ := ⟨rfl, .inr rfl⟩
  trans db db' db'' h h' := by
    refine ⟨h'.1.trans h.1, ?_⟩
    rcases h.2 with hnone | hsame
    · exact .inl hnone
    · rcases h'.2 with hnone | hsame'
      · rw [hnone, Option.map_none, eq_comm, Option.map_eq_none_iff] at hsame
        exact .inl hsame
      · exact .inr (hsame'.trans hsame)

theorem RefundsKept.of_eq (hevents : db'.auditEvents = db.auditEvents)
    (hpayments : db'.payments = db.payments) : db.RefundsKept id db' :=
  ⟨by rw [Payment.refundEvents, hevents, Payment.refundEvents],
    .inr (by rw [paymentById, hpayments, paymentById])⟩

/-- An event of another kind, or about something else, is no refund of the payment. -/
theorem refundEvents_appendAudit {e : AuditEvent}
    (h : e.eventType ≠ Payment.refundEventType ∨ e.aggregateId ≠ id) :
    Payment.refundEvents id (db.appendAudit e) = Payment.refundEvents id db := by
  rw [Payment.refundEvents, appendAudit, List.filter_append, List.filter_cons_of_neg,
    List.filter_nil, List.append_nil, Payment.refundEvents]
  simp only [Bool.and_eq_true, beq_iff_eq]
  rintro ⟨⟨-, hid⟩, htype⟩
  exact h.elim (absurd htype) (absurd hid)

theorem RefundsKept.of_appendAudit {e : AuditEvent}
    (h : e.eventType ≠ Payment.refundEventType ∨ e.aggregateId ≠ id) :
    db.RefundsKept id (db.appendAudit e) :=
  ⟨refundEvents_appendAudit h, .inr rfl⟩

/-- A change of a payment's row that keeps its amount. -/
theorem RefundsKept.of_modify {paymentId : String} {f : Payment → Payment}
    {h : ∀ p, Keyed.key (f p) = Keyed.key p} (hamount : ∀ p, (f p).amountMinor = p.amountMinor) :
    db.RefundsKept id (db.modifyPayment paymentId f h) := by
  refine ⟨rfl, .inr ?_⟩
  have hid : ∀ p : Payment, ((f p).paymentId == id) = (p.paymentId == id) := fun p => by
    rw [show (f p).paymentId = p.paymentId from h p]
  have hfirst : (db.modifyPayment paymentId f h).paymentById id = _ :=
    Table.first_modify db.payments _ f h hid
  rw [hfirst, paymentById, Option.map_map]
  refine Option.map_congr fun p _ => ?_
  rw [Function.comp_apply]
  split_ifs
  · exact hamount p
  · rfl

instance : BooksFrame (RefundsKept id) where
  books _ _ _ _ _ _ := .of_eq rfl rfl
  event db e he := .of_appendAudit (.inl fun htype => by simp [AuditEvent.routine, htype] at he)

instance : RecordsFrame (RefundsKept id) := ⟨fun _ _ => .of_eq rfl rfl⟩
instance : CallbackFrame (RefundsKept id) := ⟨fun _ _ _ => .of_eq rfl rfl⟩
instance : CheckoutFrame (RefundsKept id) := ⟨fun _ _ _ _ _ => .of_eq rfl rfl⟩
instance : AuthorizationFrame (RefundsKept id) :=
  ⟨fun _ _ _ _ _ => .of_eq rfl rfl, fun _ _ _ _ => .of_eq rfl rfl, fun _ _ _ _ _ => .of_eq rfl rfl⟩

instance : AttemptFrame (RefundsKept id) where
  modify db paymentId f h hf := .of_modify fun p => (hf p).2
  opening db p t _ ht := by
    refine ⟨rfl, ?_⟩
    cases hfound : db.paymentById id with
    | none => exact .inl rfl
    | some q =>
        have hfirst : Database.paymentById { db with payments := t } id = _ :=
          Table.first_insert ht fun p => p.paymentId == id
        rw [hfirst, show (db.payments.first fun p => p.paymentId == id) = some q from hfound]
        exact .inr rfl

instance : TransitFrame (fun _ _ => True) (RefundsKept id) where
  transit db db' aggregate event context rule _ _ _ hset := by
    have hevent : event.value ≠ Payment.refundEventType := by cases event <;> decide
    refine trans_of (RefundsKept id) ?_ (.of_appendAudit (.inl hevent))
    cases aggregate with
    | checkout c =>
        obtain ⟨s, -, rfl⟩ := Option.map_eq_some_iff.1 hset
        exact .of_eq rfl rfl
    | payment p =>
        obtain ⟨s, -, rfl⟩ := Option.map_eq_some_iff.1 hset
        exact RefundsKept.of_modify (f := fun p => { p with status := s }) (h := fun _ => rfl)
          fun _ => rfl

end

end Database

/-- **An operation that refunds no such payment** keeps its refunds and its amount. -/
theorem Operation.refundsKept {env : Env} {w : World} {id : String} (op : Operation)
    (hother : ∀ amount reason m, op ≠ .refundPayment id amount reason m) :
    w.db.RefundsKept id (op.run env w).db := by
  refine op.transits_of (fun _ _ => True) (fun paymentId amount reason m hop db e he => ?_)
    (fun _ _ _ _ _ => .of_eq rfl rfl) (fun _ _ _ _ _ _ => trivial)
    (fun _ _ _ _ _ _ _ _ _ _ => trivial) fun _ _ _ _ => trivial
  refine .of_appendAudit (.inr fun hid => ?_)
  have hsame : paymentId = id := he.aggregate.2.symm.trans hid
  subst hsame
  exact hother amount reason m hop

/-! ### Over runs -/

/-- A store, the calls the provider got for one payment, and whether a transaction was
aborted after the provider had granted its refund. -/
structure RefundState where
  world : World
  made : List ProviderCall := []
  aborted : Bool := false

/-- The calls that lead from one state to another. -/
def World.newCalls (w w' : World) : List ProviderCall := w'.calls.drop w.calls.length

/-- A step of the shop, as a payment's refunds see it. -/
inductive RefundStep (id : String) : RefundState → RefundState → Prop
  /-- A refund of the payment is asked for, and committed or refused. -/
  | refund (s : RefundState) (env : Env) (amount : Option ℤ) (reason : String)
      (m : Option String) : RefundStep id s
        { s with
          world := request (Payment.refundPayment env id amount reason m) s.world
          made := s.made ++ s.world.newCalls
            (request (Payment.refundPayment env id amount reason m) s.world) }
  /-- The provider makes a refund, and the transaction that asked for it aborts. -/
  | abort (s : RefundState) (env : Env) (amount : Option ℤ) (reason : String)
      (m : Option String) (answer : Payment.RefundV1) (w : World)
      (granted : Payment.refundPayment env id amount reason m s.world = .ok answer w) :
      RefundStep id s
        { world := World.restore s.world w, made := s.made ++ s.world.newCalls w, aborted := true }
  /-- Any other operation runs. -/
  | other (s : RefundState) (env : Env) (op : Operation)
      (elsewhere : ∀ amount reason m, op ≠ .refundPayment id amount reason m) :
      RefundStep id s { s with world := op.run env s.world }

/-- **The three histories agree**: the refunds in the ledger fit under the payment's
amount, and they are those that the provider granted, one for one, unless a transaction
was aborted. -/
structure RefundState.Kept (id : String) (s : RefundState) : Prop where
  flushable : s.world.db.flushable = true
  ceiling : ∀ p, s.world.db.paymentById id = some p → 0 ≤ p.amountMinor →
    Payment.refundedMinorSoFar id s.world.db ≤ p.amountMinor
  unknown : s.world.db.paymentById id = none → Payment.refundEvents id s.world.db = []
  recorded : ∃ kept, kept.Sublist (s.made.filter ProviderCall.granted) ∧
    List.Forall₂ AuditEvent.RecordsRefund (Payment.refundEvents id s.world.db) kept ∧
    (s.aborted = false → kept = s.made.filter ProviderCall.granted)

section

variable {id : String} {w : World} {s s' : RefundState}

/-- A refund's row joins the payment's refunds, and its amount their sum. -/
theorem refundEvents_refund {db : Database} {e : AuditEvent} {n : ℤ} (he : e.RefundOf id)
    (hn : e.amountMinor = some n) :
    Payment.refundEvents id (db.appendAudit e) = Payment.refundEvents id db ++ [e.stored] ∧
      Payment.refundedMinorSoFar id (db.appendAudit e) = Payment.refundedMinorSoFar id db + n := by
  have hevents : Payment.refundEvents id (db.appendAudit e) =
      Payment.refundEvents id db ++ [e.stored] := by
    rw [Payment.refundEvents, Database.appendAudit, List.filter_append, List.filter_cons_of_pos,
      List.filter_nil, Payment.refundEvents]
    · rfl
    · simp [he.aggregate.1, he.aggregate.2, he.type]
  have hsum : ∀ db, Payment.refundedMinorSoFar id db =
      ((Payment.refundEvents id db).map fun e => e.amountMinor.getD 0).sum := fun _ => rfl
  refine ⟨hevents, ?_⟩
  rw [hsum, hevents, List.map_append, List.sum_append, ← hsum, List.map_singleton,
    List.sum_singleton, show e.stored.amountMinor = some n from hn, Option.getD_some]

/-- A refund that fails leaves the histories as they were, but for refusals. -/
theorem RefundState.Kept.refused (h : s.Kept id) {asked : List ProviderCall}
    (hnone : asked.filter ProviderCall.granted = []) (hw : w.db = s.world.db) :
    RefundState.Kept id { s with world := w, made := s.made ++ asked } := by
  obtain ⟨kept, hsub, hrecords, hall⟩ := h.recorded
  refine ⟨?_, ?_, ?_, kept, ?_, ?_, ?_⟩ <;> simp only [hw, List.filter_append, hnone,
    List.append_nil]
  · exact h.flushable
  · exact h.ceiling
  · exact h.unknown
  · exact hsub
  · exact hrecords
  · exact hall

/-- **Every step keeps the histories together.** -/
theorem RefundState.Kept.step (h : s.Kept id) (hstep : RefundStep id s s') : s'.Kept id := by
  cases hstep with
  | refund env amount reason m =>
      cases hrun : Payment.refundPayment env id amount reason m s.world with
      | error failure w =>
          obtain ⟨-, asked, hcalls, hnone⟩ := refundPayment_error hrun
          rw [request_of_error hrun]
          have hnew : s.world.newCalls (World.restore s.world w) = asked := by
            rw [World.newCalls, World.restore, hcalls, List.drop_left]
          rw [hnew]
          exact h.refused hnone rfl
      | ok answer w =>
          obtain ⟨p, e, call, n, hp, hdb, hcalls, hgranted, he, hrecords, hn, -, hpos, hfits⟩ :=
            refundPayment_ok hrun
          have hflush : w.db.flushable = true := by
            rw [hdb]
            exact h.flushable
          rw [request_of_ok hrun hflush]
          have hnew : s.world.newCalls w = [call] := by
            rw [World.newCalls, hcalls, List.drop_left]
          rw [hnew]
          obtain ⟨hevents, hsum⟩ := @refundEvents_refund _ s.world.db _ _ he hn
          obtain ⟨kept, hsub, hkept, hall⟩ := h.recorded
          have hfilter : (s.made ++ [call]).filter ProviderCall.granted =
              s.made.filter ProviderCall.granted ++ [call] := by
            rw [List.filter_append, List.filter_cons_of_pos hgranted, List.filter_nil]
          refine ⟨hflush, fun q hq _ => ?_, fun hnone => ?_, kept ++ [call], ?_, ?_, fun ha => ?_⟩
          · have hsame : s.world.db.paymentById id = some q := by rwa [hdb] at hq
            obtain rfl := Option.some.inj (hp.symm.trans hsame)
            simp only [hdb, hsum]
            exact hfits
          · rw [hdb] at hnone
            exact nomatch hp.symm.trans hnone
          · rw [hfilter]
            exact hsub.append (List.Sublist.refl _)
          · simp only [hdb, hevents]
            exact List.rel_append hkept (.cons hrecords .nil)
          · rw [hfilter, hall ha]
  | abort env amount reason m answer w hrun =>
      obtain ⟨p, e, call, n, -, -, hcalls, hgranted, -⟩ := refundPayment_ok hrun
      have hnew : s.world.newCalls w = [call] := by rw [World.newCalls, hcalls, List.drop_left]
      obtain ⟨kept, hsub, hkept, -⟩ := h.recorded
      refine ⟨h.flushable, h.ceiling, h.unknown, kept, ?_, hkept, nofun⟩
      rw [List.filter_append]
      exact hsub.trans (List.sublist_append_left _ _)
  | other env op hother =>
      obtain ⟨hevents, hamount⟩ := @Operation.refundsKept env s.world _ op hother
      have hsum : Payment.refundedMinorSoFar id (op.run env s.world).db =
          Payment.refundedMinorSoFar id s.world.db :=
        congrArg (fun es => (List.map (fun e : AuditEvent => e.amountMinor.getD 0) es).sum) hevents
      obtain ⟨kept, hsub, hkept, hall⟩ := h.recorded
      refine ⟨op.flushable h.flushable, fun p hp hsign => ?_, fun hnone => ?_, kept, hsub, ?_, hall⟩
      · rcases hamount with hnone | hsame
        · rw [hsum, show Payment.refundedMinorSoFar id s.world.db = ((Payment.refundEvents id
            s.world.db).map fun e => e.amountMinor.getD 0).sum from rfl, h.unknown hnone]
          exact hsign
        · rw [hp, Option.map_some, eq_comm, Option.map_eq_some_iff] at hsame
          obtain ⟨q, hq, hqamount⟩ := hsame
          rw [hsum, ← hqamount]
          exact h.ceiling q hq (by rw [hqamount]; exact hsign)
      · rcases hamount with hbefore | hsame
        · exact hevents.trans (h.unknown hbefore)
        · rw [hnone, Option.map_none, eq_comm, Option.map_eq_none_iff] at hsame
          exact hevents.trans (h.unknown hsame)
      · exact hevents.symm ▸ hkept

/-- What the ledger says was refunded is what the provider reports, refund by refund. -/
theorem sum_refunded {es : List AuditEvent} {calls : List ProviderCall}
    (h : List.Forall₂ AuditEvent.RecordsRefund es (calls.filter ProviderCall.granted))
    (hexact : ∀ call ∈ calls, call.Exact) :
    (es.map fun e => e.amountMinor.getD 0).sum = (calls.map ProviderCall.refunded).sum := by
  -- the calls that were not granted add nothing
  have hgranted : (calls.map ProviderCall.refunded).sum =
      ((calls.filter ProviderCall.granted).map ProviderCall.refunded).sum := by
    clear h hexact
    induction calls with
    | nil => rfl
    | cons call calls ih =>
        cases hcall : call.granted with
        | true => rw [List.filter_cons_of_pos hcall, List.map_cons, List.map_cons, List.sum_cons,
            List.sum_cons, ih]
        | false =>
            have hzero : call.refunded = 0 := by
              cases call with
              | refund providerId amount answer =>
                  cases answer with
                  | ok made => exact nomatch hcall
                  | error failure => rfl
              | _ => rfl
            rw [List.filter_cons_of_neg (by simp [hcall]), List.map_cons, List.sum_cons, hzero, ih,
              zero_add]
  rw [hgranted]
  have hall : ∀ call ∈ calls.filter ProviderCall.granted, call.Exact := fun call hcall =>
    hexact call (List.mem_of_mem_filter hcall)
  generalize calls.filter ProviderCall.granted = granted at h hall
  induction h with
  | nil => rfl
  | @cons e call es granted hrecord _ ih =>
      obtain ⟨providerId, amount, made, rfl, hamount, -⟩ := hrecord
      have hmade : made.amountMinor = amount := hall _ List.mem_cons_self
      have hrest := ih fun call hcall => hall call (List.mem_cons_of_mem _ hcall)
      rw [List.map_cons, List.map_cons, List.sum_cons, List.sum_cons, hrest, hamount,
        Option.getD_some, ProviderCall.refunded, hmade]

end

/-! ### The ceiling -/

/-- What a refund call does to the histories of a payment: nothing if it is refused or
the provider fails, and one refund on either side if it succeeds. -/
def RefundState.Settles (id : String) (s : RefundState) : Prop :=
  ∀ env amount reason m,
    (∀ failure w, Payment.refundPayment env id amount reason m s.world = .error failure w →
      (request (Payment.refundPayment env id amount reason m) s.world).db = s.world.db ∧
        (s.world.newCalls w).filter ProviderCall.granted = []) ∧
    ∀ answer w, Payment.refundPayment env id amount reason m s.world = .ok answer w →
      ∃ e call, s.world.newCalls w = [call] ∧ call.granted = true ∧
        Payment.refundEvents id w.db = Payment.refundEvents id s.world.db ++ [e] ∧
        e.RecordsRefund call

/-- **The refund ceiling.**  Starting from a store that has no refund of a payment, in
every state of a run of refund calls on it, with any other operations in between: the
refunds that the ledger records do not exceed the payment's amount; each of them
corresponds to one refund that the provider granted, in order; a call that is refused or
fails leaves the store alone; and while no transaction has been aborted the ledger's sum
is what the provider refunded. -/
theorem refund_ceiling {id : String} {w₀ : World} {s : RefundState}
    (hflush : w₀.db.flushable = true) (hledger : Payment.refundEvents id w₀.db = [])
    (hrun : Relation.ReflTransGen (RefundStep id) { world := w₀ } s) :
    (∀ p ∈ s.world.db.payments, p.paymentId = id → 0 ≤ p.amountMinor →
      Payment.refundedMinorSoFar id s.world.db ≤ p.amountMinor) ∧
    List.SublistForall₂ AuditEvent.RecordsRefund (Payment.refundEvents id s.world.db)
      (s.made.filter ProviderCall.granted) ∧
    s.Settles id ∧
    (s.aborted = false →
      List.Forall₂ AuditEvent.RecordsRefund (Payment.refundEvents id s.world.db)
        (s.made.filter ProviderCall.granted) ∧
      ((∀ call ∈ s.made, call.Exact) →
        Payment.refundedMinorSoFar id s.world.db = (s.made.map ProviderCall.refunded).sum)) := by
  have hkept : s.Kept id := by
    refine invariant_of_steps (fun _ _ h hstep => h.step hstep) ?_ hrun
    refine ⟨hflush, fun p _ hsign => ?_, fun _ => hledger, [], List.Sublist.refl _, ?_, fun _ => rfl⟩
    · have hzero : Payment.refundedMinorSoFar id w₀.db =
          ((Payment.refundEvents id w₀.db).map fun e => e.amountMinor.getD 0).sum := rfl
      rw [hzero, hledger]
      exact hsign
    · rw [hledger]
      exact .nil
  obtain ⟨kept, hsub, hrecords, hall⟩ := hkept.recorded
  refine ⟨fun p hp hid hsign => ?_, List.sublistForall₂_iff.2 ⟨kept, hrecords, hsub⟩,
    fun env amount reason m => ⟨fun failure w hfail => ?_, fun answer w hdone => ?_⟩,
    fun haborted => ?_⟩
  · subst hid
    exact hkept.ceiling p (paymentById_of_mem hp) hsign
  · obtain ⟨-, asked, hcalls, hnone⟩ := refundPayment_error hfail
    rw [request_of_error hfail, World.newCalls, hcalls, List.drop_left]
    exact ⟨rfl, hnone⟩
  · obtain ⟨p, e, call, n, -, hdb, hcalls, hgranted, he, hrecord, hn, -⟩ := refundPayment_ok hdone
    refine ⟨e.stored, call, by rw [World.newCalls, hcalls, List.drop_left], hgranted, ?_, hrecord⟩
    rw [hdb, (refundEvents_refund he hn).1]
  · have hsame := hall haborted
    subst hsame
    exact ⟨hrecords, sum_refunded hrecords⟩

/-- The shop with a provider that makes every refund. -/
def refundingEnv : Env :=
  { shopEnv with
    provider := { capturingProvider with
      refund := fun _ id amount => .ok ⟨"rfnd_1", id, amount, "processed"⟩ } }

/-- The verified payment, with one refund made. -/
def refundedOnce : RefundState where
  world := request (Payment.refundPayment refundingEnv "pay" (some 50)) paymentVerified
  made := paymentVerified.newCalls
    (request (Payment.refundPayment refundingEnv "pay" (some 50)) paymentVerified)

/-- A refund of the whole amount after it, which is refused. -/
def refundedTwice : RefundState where
  world := request (Payment.refundPayment refundingEnv "pay") refundedOnce.world
  made := refundedOnce.made ++ refundedOnce.world.newCalls
    (request (Payment.refundPayment refundingEnv "pay") refundedOnce.world)

theorem refund_ceiling_refundedTwice :
    Payment.refundedMinorSoFar "pay" refundedTwice.world.db = 50 ∧
    (refundedTwice.made.map ProviderCall.refunded).sum = 50 ∧
    (∀ p ∈ refundedTwice.world.db.payments, p.paymentId = "pay" → 0 ≤ p.amountMinor →
      Payment.refundedMinorSoFar "pay" refundedTwice.world.db ≤ p.amountMinor) ∧
    List.Forall₂ AuditEvent.RecordsRefund (Payment.refundEvents "pay" refundedTwice.world.db)
      (refundedTwice.made.filter ProviderCall.granted) := by
  have hfirst : RefundStep "pay" { world := paymentVerified } refundedOnce :=
    .refund { world := paymentVerified } refundingEnv (some 50) "Customer requested refund" none
  have hsecond : RefundStep "pay" refundedOnce refundedTwice :=
    .refund refundedOnce refundingEnv none "Customer requested refund" none
  have hrun : Relation.ReflTransGen (RefundStep "pay") { world := paymentVerified } refundedTwice :=
    (Relation.ReflTransGen.single hfirst).tail hsecond
  obtain ⟨hceiling, -, -, hall⟩ := refund_ceiling (by decide) (by decide) hrun
  exact ⟨by decide, by decide, hceiling, (hall rfl).1⟩

end AgenticCommerce
