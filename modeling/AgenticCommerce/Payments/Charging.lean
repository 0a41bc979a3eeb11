/-
# What a charge does

`charge` is the part of `createPayment` behind its checks: the payment is inserted, the
provider is asked for an order, and the authorization is consumed.  `charge_ok` says
what a charge that returned has left, and `charge_error` that one that raised after the
provider had answered with an order raised because another payment has that order.
-/

import AgenticCommerce.Lifecycle.Frames
import AgenticCommerce.Lifecycle.Payments
import AgenticCommerce.Payments.Rows

namespace AgenticCommerce

open Relational Work

variable {env : Env} {w w' : World} {e : Failure} {c : Checkout} {offer : Offer}
  {b m a id : String} {key : Option String} {record : Option IdempotencyRecord}

/-! ### The last steps -/

/-- A response leaves the keys of its record. -/
theorem completed_key (now : Time) (code : ℤ) (body : ResponseBody) (r : IdempotencyRecord) :
    Keyed.key { r with
      status := .completed, responseStatusCode := some code, responseBody := some body,
      completedAt := some now } = Keyed.key r := rfl

/-- The store with a response in a record. -/
def Database.completeRecord (db : Database) (now : Time) (recordId : String) (code : ℤ)
    (body : ResponseBody) : Database :=
  db.modifyRecord recordId (fun r =>
    { r with
      status := .completed, responseStatusCode := some code, responseBody := some body,
      completedAt := some now }) (completed_key now code body)

/-- The record with the response in it. -/
theorem mem_completeRecord {db : Database} {now : Time} {code : ℤ} {body : ResponseBody}
    {r : IdempotencyRecord} (hr : r ∈ db.idempotencyRecords) (hid : r.idempotencyRecordId = id) :
    { r with
      status := .completed, responseStatusCode := some code, responseBody := some body,
      completedAt := some now } ∈ (db.completeRecord now id code body).idempotencyRecords := by
  rw [Database.completeRecord, Database.modifyRecord, Table.mem_modify]
  exact ⟨r, hr, if_pos (beq_iff_eq.2 hid)⟩

theorem mem_completeRecord_of_ne {db : Database} {now : Time} {code : ℤ} {body : ResponseBody}
    {r : IdempotencyRecord} (hr : r ∈ db.idempotencyRecords) (hid : r.idempotencyRecordId ≠ id) :
    r ∈ (db.completeRecord now id code body).idempotencyRecords := by
  rw [Database.completeRecord, Database.modifyRecord, Table.mem_modify]
  exact ⟨r, hr, if_neg fun h => hid (beq_iff_eq.1 h)⟩

/-- The store with an order's identifier and the status `pending` in a payment. -/
def Database.orderPayment (db : Database) (paymentId orderId : String) : Database :=
  (db.modifyPayment paymentId (fun p => { p with providerOrderId := some orderId })
    fun _ => rfl).setPaymentStatus paymentId .pending

theorem complete_ok {now : Time} {code : ℤ} {body : ResponseBody} {u : Unit}
    (h : Idempotency.complete now id code body w = .ok u w') :
    w' = { w with db := w.db.completeRecord now id code body } := by
  simp only [Idempotency.complete, bind_eq_ok, update_eq_ok, flush_eq_ok] at h
  obtain ⟨_, _, rfl, hflush, rfl⟩ := h
  rfl

theorem flushable_appendAudit {db : Database} {event : AuditEvent} :
    (db.appendAudit event).flushable = db.flushable := by
  rw [Database.flushable, Database.flushable, Database.appendAudit]

theorem flushable_completeRecord {db : Database} {now : Time} {code : ℤ} {body : ResponseBody} :
    (db.completeRecord now id code body).flushable = db.flushable := by
  rw [Database.flushable, Database.flushable, Database.completeRecord, Database.modifyRecord]

section

variable (db : Database)

/-- The two tables that a charge's steps on its payment and authorization do not write. -/
def Database.untouchedByCharge : Table Checkout × Table IdempotencyRecord :=
  (db.checkouts, db.idempotencyRecords)

@[simp] theorem untouchedByCharge_appendAudit (event : AuditEvent) :
    (db.appendAudit event).untouchedByCharge = db.untouchedByCharge := rfl

@[simp] theorem untouchedByCharge_setPaymentStatus (s : PaymentStatus) :
    (db.setPaymentStatus id s).untouchedByCharge = db.untouchedByCharge := rfl

@[simp] theorem untouchedByCharge_modifyPayment (f : Payment → Payment)
    (h : ∀ p, (f p).paymentId = p.paymentId) :
    (db.modifyPayment id f h).untouchedByCharge = db.untouchedByCharge := rfl

@[simp] theorem untouchedByCharge_setAuthorizationStatus (s : AuthorizationStatus) :
    (db.setAuthorizationStatus id s).untouchedByCharge = db.untouchedByCharge := rfl

end

theorem flushable_orderPayment {db : Database} {paymentId orderId : String} :
    (db.orderPayment paymentId orderId).flushable = (db.modifyPayment paymentId
      (fun p => { p with providerOrderId := some orderId }) fun _ => rfl).flushable :=
  flushable_modifyPayment (f := fun p => { p with status := .pending }) fun _ => ⟨rfl, rfl⟩

/-- What `initiate` raises is a clash of the order's identifier. -/
theorem initiate_error {p : Payment} {order : ProviderOrder} (hs : p.status = .created)
    (hflush : w.db.flushable = true) (h : Payment.initiate env c p record order w = .error e w') :
    w'.calls = w.calls ∧ ∃ q ∈ w.db.payments, q.providerOrderId = some order.providerOrderId := by
  have hcalls : Moves (OnWorld Anything Eq) (Payment.initiate env c p record order) := initiate_frame
  refine ⟨((hcalls.2 w e w' h).2).symm, ?_⟩
  by_contra hnone
  push Not at hnone
  have hnumbered := flushable_setOrder p.paymentId hflush hnone
  rw [← flushable_orderPayment] at hnumbered
  have htotal : ∀ {u : World} {e : Failure} {u' : World}, ¬transition (.payment p)
      .providerOrderCreated (Payment.bySystem env p.merchantId) u = .error e u' := fun {u e u'} =>
    transition_payment_total (by rw [hs]; rfl) rfl ⟨rfl, rfl, rfl⟩ (by simp [Payment.bySystem]) rfl
  rcases bind_eq_error.1 h with h | ⟨_, _, h₁, h⟩
  · exact update_eq_error.1 h
  rcases bind_eq_error.1 h with h | ⟨_, _, h₂, h⟩
  · exact update_eq_error.1 h
  rcases bind_eq_error.1 h with h | ⟨_, _, h₃, h⟩
  · exact htotal h
  obtain rfl := update_eq_ok.1 h₁
  obtain rfl := update_eq_ok.1 h₂
  obtain ⟨s, ev, hnext, rfl⟩ := transition_payment h₃
  obtain rfl : PaymentStatus.pending = s := by
    rw [hs] at hnext
    exact Option.some.inj hnext
  rcases bind_eq_error.1 h with h | ⟨_, _, h₄, h⟩
  · exact absurd (hnumbered.symm.trans (flush_eq_error.1 h).1) nofun
  obtain ⟨-, rfl⟩ := flush_eq_ok.1 h₄
  rcases bind_eq_error.1 h with h | ⟨_, _, h₅, h⟩
  · exact appendEvent_eq_error.1 h
  obtain rfl := appendEvent_eq_ok.1 h₅
  cases record with
  | none => simp at h
  | some r =>
      simp only [Option.elim_some, Idempotency.complete, bind_eq_error, update_eq_error, update_eq_ok,
        false_or, flush_eq_error, pure_eq_error, and_false, exists_false, or_false] at h
      obtain ⟨_, _, rfl, hclash, -⟩ := h
      exact absurd (hnumbered.symm.trans hclash) nofun

/-- What `initiate` leaves. -/
structure Initiated (env : Env) (p : Payment) (record : Option IdempotencyRecord)
    (order : ProviderOrder) (body : PaymentV1) (w w' : World) : Prop where
  calls : w'.calls = w.calls
  answered : body = Payment.toSchema env
    { p with status := .pending, providerOrderId := some order.providerOrderId }
  checkouts : w'.db.checkouts = w.db.checkouts
  payments : w'.db.payments = (w.db.orderPayment p.paymentId order.providerOrderId).payments
  authorizations : w'.db.authorizations =
    (w.db.setAuthorizationStatus p.authorizationId .consumed).authorizations
  records : w'.db.idempotencyRecords = (record.elim w.db fun r =>
    w.db.completeRecord env.now r.idempotencyRecordId 200 (.payment body)).idempotencyRecords
  flushable : w'.db.flushable = true

/-- The record of the key is completed last. -/
theorem Initiated.complete {p : Payment} {r : IdempotencyRecord} {order : ProviderOrder}
    {body : PaymentV1} (h : Initiated env p none order body w w') :
    Initiated env p (some r) order body w
      { w' with
        db := w'.db.completeRecord env.now r.idempotencyRecordId 200 (.payment body) } where
  calls := h.calls
  answered := h.answered
  checkouts := h.checkouts
  payments := h.payments
  authorizations := h.authorizations
  records := by
    simp only [Option.elim_some, Database.completeRecord, Database.modifyRecord, h.records,
      Option.elim_none]
  flushable := by rw [flushable_completeRecord, h.flushable]

theorem initiate_ok {p : Payment} {order : ProviderOrder} {body : PaymentV1}
    (hs : p.status = .created) (h : Payment.initiate env c p record order w = .ok body w') :
    Initiated env p record order body w w' := by
  simp only [Payment.initiate, bind_eq_ok, update_eq_ok, flush_eq_ok, appendEvent_eq_ok,
    pure_eq_ok] at h
  obtain ⟨_, _, rfl, _, _, rfl, _, w₂, htr, _, _, ⟨hflush, rfl⟩, _, u, hu, _, w₃, hrecord, rfl,
    rfl⟩ := h
  obtain ⟨s, _, hnext, rfl⟩ := transition_payment htr
  obtain rfl : PaymentStatus.pending = s := by
    rw [hs] at hnext
    exact Option.some.inj hnext
  dsimp only at hu hflush
  have hdone : Initiated env p none order (Payment.toSchema env
      { p with status := .pending, providerOrderId := some order.providerOrderId }) w u := by
    have hsame : u.db.untouchedByCharge = w.db.untouchedByCharge := by
      rw [← hu]
      simp only [untouchedByCharge_appendAudit, untouchedByCharge_setPaymentStatus,
        untouchedByCharge_modifyPayment, untouchedByCharge_setAuthorizationStatus]
    obtain ⟨hcheckouts, hrecords⟩ := Prod.ext_iff.1 hsame
    rw [← hu] at hcheckouts hrecords ⊢
    exact
      { calls := rfl
        answered := rfl
        checkouts := hcheckouts
        payments := rfl
        authorizations := rfl
        records := hrecords
        flushable := by rw [flushable_appendAudit, hflush] }
  cases record with
  | none =>
      obtain ⟨-, rfl⟩ := pure_eq_ok.1 hrecord
      exact hdone
  | some r =>
      rw [complete_ok hrecord]
      exact hdone.complete

/-! ### A charge -/

/-- The row of a payment that has its order. -/
def Payment.orderedRow (env : Env) (c : Checkout) (x : Authorization) (key : Option String)
    (order : ProviderOrder) : Payment :=
  { rowOf env c x.buyerId x.merchantId x.authorizationId key with
    status := .pending, providerOrderId := some order.providerOrderId }

/-- What a charge on the authorization `x` has asked for, and left. -/
structure Charged (env : Env) (c : Checkout) (key : Option String)
    (record : Option IdempotencyRecord) (x : Authorization) (order : ProviderOrder)
    (body : PaymentV1) (w w' : World) : Prop where
  asked : w'.calls = w.calls ++ [.createOrder (Payment.orderRequest c
    (Payment.rowOf env c x.buyerId x.merchantId x.authorizationId key)) (.ok order)]
  answered : body = Payment.toSchema env (Payment.orderedRow env c x key order)
  checkouts : w'.db.checkouts = w.db.checkouts
  payment : Payment.orderedRow env c x key order ∈ w'.db.payments
  consumed : { x with status := .consumed } ∈ w'.db.authorizations
  records : w'.db.idempotencyRecords = (record.elim w.db fun r =>
    w.db.completeRecord env.now r.idempotencyRecordId 200 (.payment body)).idempotencyRecords
  flushable : w'.db.flushable = true

/-- **What a charge that returned has left.** -/
theorem charge_ok {body : PaymentV1}
    (h : Payment.charge env c offer b m a key record w = .ok body w') :
    ∃ x order, w.db.authorizationOf m b a = some x ∧ x.checkoutId = c.checkoutId ∧
      x.status = .approved ∧ env.now < x.validUntil ∧
      x.priceHash = Payment.currentPriceHash env c offer ∧
      Charged env c key record x order body w w' := by
  simp only [Payment.charge, bind_eq_ok, insert_eq_ok, flush_eq_ok, call_eq_ok,
    Option.map_eq_some_iff] at h
  obtain ⟨x, _, hauth, _, _, ⟨_, ⟨t, hins, rfl⟩, rfl⟩, _, _, ⟨_, rfl⟩, answer, _,
    ⟨hanswer, rfl⟩, h⟩ := h
  obtain ⟨rfl, hfound, hcheckout, happroved, hvalid, hprice⟩ := revalidateForPayment_ok hauth
  obtain ⟨hmem, hkeys⟩ := Table.first_eq_some hfound
  simp only [Bool.and_eq_true, beq_iff_eq] at hkeys
  obtain ⟨⟨rfl, rfl⟩, rfl⟩ := hkeys
  cases answer with
  | error failure => exact absurd h abandon_ok
  | ok order =>
      have hdone := initiate_ok rfl h
      have hrow : Payment.rowOf env c x.buyerId x.merchantId x.authorizationId key ∈ t :=
        (Table.mem_insert hins).2 (.inr rfl)
      have hnumbered := Table.mem_modify_of_match (p := fun p => p.paymentId == env.newId "pay")
        (f := fun p => { p with providerOrderId := some order.providerOrderId })
        (h := fun _ => rfl) hrow (beq_self_eq_true (env.newId "pay"))
      have hpending := Table.mem_modify_of_match (p := fun p => p.paymentId == env.newId "pay")
        (f := fun p => { p with status := .pending }) (h := fun _ => rfl) hnumbered
        (beq_self_eq_true (env.newId "pay"))
      have hconsumed := Table.mem_modify_of_match
        (p := fun y => y.authorizationId == x.authorizationId)
        (f := fun y => { y with status := .consumed }) (h := fun _ => rfl) hmem
        (beq_self_eq_true x.authorizationId)
      exact ⟨x, order, hfound, hcheckout, happroved, hvalid, hprice,
        { asked := by rw [hdone.calls, hanswer]
          answered := hdone.answered
          checkouts := hdone.checkouts
          payment := by rw [hdone.payments]; exact hpending
          consumed := by rw [hdone.authorizations]; exact hconsumed
          records := hdone.records.trans (by cases record <;> rfl)
          flushable := hdone.flushable }⟩

/-- **A charge that returned consumed one authorization**, which was approved. -/
theorem charge_consumes {body : PaymentV1}
    (h : Payment.charge env c offer b m a key record w = .ok body w') :
    ∃ x, w.db.authorizationOf m b a = some x ∧ x.status = .approved ∧
      w'.db.authorizations =
        (w.db.setAuthorizationStatus x.authorizationId .consumed).authorizations := by
  simp only [Payment.charge, bind_eq_ok, insert_eq_ok, flush_eq_ok, call_eq_ok,
    Option.map_eq_some_iff] at h
  obtain ⟨x, _, hauth, _, _, ⟨_, ⟨t, -, rfl⟩, rfl⟩, _, _, ⟨_, rfl⟩, answer, _, ⟨-, rfl⟩, h⟩ := h
  obtain ⟨rfl, hfound, -, happroved, -, -⟩ := revalidateForPayment_ok hauth
  cases answer with
  | error failure => exact absurd h abandon_ok
  | ok order => exact ⟨x, hfound, happroved, (initiate_ok rfl h).authorizations⟩

/-- **A charge that raised** had not asked the provider, or the order the provider answered
with is another payment's. -/
theorem charge_error (h : Payment.charge env c offer b m a key record w = .error e w') :
    w'.calls = w.calls ∨ ∃ request,
      w'.calls = w.calls ++ [.createOrder request (env.provider.createOrder w.calls request)] ∧
      ∀ order, env.provider.createOrder w.calls request = .ok order →
        ∃ q ∈ w.db.payments, q.providerOrderId = some order.providerOrderId := by
  have hrevalidate : Moves (OnWorld Anything Eq) (Authorization.revalidateForPayment env a
      c.checkoutId (Payment.currentPriceHash env c offer) m b) := revalidateForPayment_calls
  rcases bind_eq_error.1 h with h | ⟨x, _, hauth, h⟩
  · exact .inl (hrevalidate.2 _ _ _ h).2.symm
  obtain rfl := (revalidateForPayment_ok hauth).1
  rcases bind_eq_error.1 h with h | ⟨_, _, hinsert, h⟩
  · obtain ⟨-, -, rfl⟩ := insert_eq_error.1 h
    exact .inl rfl
  simp only [insert_eq_ok, Option.map_eq_some_iff] at hinsert
  obtain ⟨_, ⟨t, ht, rfl⟩, rfl⟩ := hinsert
  rcases bind_eq_error.1 h with h | ⟨_, _, hflushed, h⟩
  · obtain ⟨-, -, rfl⟩ := flush_eq_error.1 h
    exact .inl rfl
  obtain ⟨hflush, rfl⟩ := flush_eq_ok.1 hflushed
  rcases bind_eq_error.1 h with h | ⟨answer, _, hcall, h⟩
  · exact (call_eq_error.1 h).elim
  obtain ⟨hanswer, rfl⟩ := call_eq_ok.1 hcall
  refine .inr ⟨Payment.orderRequest c (Payment.rowOf env c b m x.authorizationId key), ?_, ?_⟩
  · cases answer with
    | error failure =>
        have habandon : Moves (OnWorld Anything Eq) (Payment.abandon env
          (Payment.rowOf env c b m x.authorizationId key) record failure : Op PaymentV1) :=
          abandon_calls
        rw [← (habandon.2 _ _ _ h).2]
    | ok order =>
        simp only at h
        rw [(initiate_error rfl (by exact hflush) h).1]
  · intro order horder
    obtain rfl : .ok order = answer := horder.symm.trans hanswer
    simp only at h
    obtain ⟨q, hq, horder⟩ := (initiate_error rfl (by exact hflush) h).2
    rcases (Table.mem_insert ht).1 hq with hq | rfl
    · exact ⟨q, hq, horder⟩
    · cases horder

/-! ### The checks before it -/

/-- What `createPayment` has passed when it comes to the key. -/
structure Cleared (env : Env) (b m id : String) (c : Checkout) (offer : Offer) (w : World) :
    Prop where
  checkout : w.db.checkoutOf m b id = some c
  alive : c.status.dead = false
  timely : env.now < c.expiresAt
  offered : w.db.offers.first
    (fun o => o.offerId == c.offerId && o.merchantId == m) = some offer
  quantity : 1 ≤ c.priceSnapshot.quantity
  price : Payment.currentPriceHash env c offer = c.priceHash

/-- **A payment that was created passed every check**, and is a replay or a charge. -/
theorem createPayment_ok {body : PaymentV1}
    (h : Payment.createPayment env b m id a key w = .ok body w') :
    ∃ c offer, Cleared env b m id c offer w ∧
      ((given key = none ∧ Payment.charge env c offer b m a key none w = .ok body w') ∨
        ∃ k lock w₁, given key = some k ∧
          Idempotency.acquireLock env (env.clock 1) "buyer" (m ++ ":" ++ b) "POST /payments" k
            (env.requestHash id a c.totalMinor) w = .ok lock w₁ ∧
          ((Payment.replay env c lock = some (.ok body) ∧ w' = w₁) ∨
            (Payment.replay env c lock = none ∧
              Payment.charge env c offer b m a key (some lock.record) w₁ = .ok body w'))) := by
  simp only [Payment.createPayment, bind_eq_ok, require_eq_ok, raiseIf_eq_ok] at h
  obtain ⟨c, _, ⟨hc, rfl⟩, _, _, ⟨halive, rfl⟩, _, _, hexpired, offer, _, ⟨hoffer, rfl⟩, _, _,
    ⟨hquantity, rfl⟩, _, _, hprice, h⟩ := h
  obtain ⟨rfl, htimely⟩ := refuseExpired_ok hexpired
  obtain ⟨rfl, hlive⟩ := refusePriceChange_ok hprice
  refine ⟨c, offer, ⟨hc, by simpa using halive, htimely, hoffer, not_lt.1 hquantity, hlive⟩, ?_⟩
  cases hk : given key with
  | none =>
      rw [hk] at h
      exact .inl ⟨rfl, h⟩
  | some k =>
      rw [hk] at h
      obtain ⟨lock, w₁, hlock, h⟩ := bind_eq_ok.1 h
      refine .inr ⟨k, lock, w₁, rfl, hlock, ?_⟩
      cases hreplay : Payment.replay env c lock with
      | some answer =>
          rw [hreplay] at h
          obtain ⟨rfl, rfl⟩ := ofAnswer_eq_ok.1 h
          exact .inl ⟨rfl, rfl⟩
      | none =>
          rw [hreplay] at h
          exact .inr ⟨rfl, h⟩

/-! ### Payments that raised -/

/-- No order identifier is new in the second store. -/
def Database.OrdersFrom (db db' : Database) : Prop :=
  ∀ q' ∈ db'.payments, ∃ q ∈ db.payments, q'.providerOrderId = q.providerOrderId

namespace Database

instance : IsPreorder Database OrdersFrom where
  refl _ q hq := ⟨q, hq, rfl⟩
  trans _ _ _ h h' q hq := by
    obtain ⟨p, hp, hqp⟩ := h' q hq
    obtain ⟨o, ho, hpo⟩ := h p hp
    exact ⟨o, ho, hqp.trans hpo⟩

theorem OrdersFrom.of_eq {db db' : Database} (h : db'.payments = db.payments) :
    db.OrdersFrom db' := by
  intro q hq
  rw [h] at hq
  exact ⟨q, hq, rfl⟩

instance : BooksFrame OrdersFrom where
  books _ _ _ _ _ _ := .of_eq rfl
  event _ _ _ := .of_eq rfl

instance : RecordsFrame OrdersFrom where
  records _ _ := .of_eq rfl

instance : TransitionFrame OrdersFrom where
  checkout _ _ _ _ _ _ := .of_eq rfl
  payment db id s _ _ q hq := by
    have hq' : q ∈ (db.setPaymentStatus id s).payments := hq
    rw [setPaymentStatus, Table.mem_modify] at hq'
    obtain ⟨p, hp, rfl⟩ := hq'
    refine ⟨p, hp, ?_⟩
    split_ifs <;> rfl

instance : CheckoutFrame OrdersFrom where
  opening _ _ _ _ _ := .of_eq rfl

instance : AuthorizationFrame OrdersFrom where
  decision _ _ _ _ _ := .of_eq rfl
  status _ _ _ _ := .of_eq rfl
  insert _ _ _ _ _ := .of_eq rfl

end Database

/-- **A payment that was refused** had not asked the provider, or the order the provider
answered with is another payment's. -/
theorem createPayment_error (h : Payment.createPayment env b m id a key w = .error e w') :
    w'.calls = w.calls ∨ ∃ request,
      w'.calls = w.calls ++ [.createOrder request (env.provider.createOrder w.calls request)] ∧
      ∀ order, env.provider.createOrder w.calls request = .ok order →
        ∃ q ∈ w.db.payments, q.providerOrderId = some order.providerOrderId := by
  rcases bind_eq_error.1 h with h | ⟨c, _, hc, h⟩
  · obtain ⟨-, -, rfl⟩ := require_eq_error.1 h
    exact .inl rfl
  obtain ⟨-, rfl⟩ := require_eq_ok.1 hc
  rcases bind_eq_error.1 h with h | ⟨_, _, hraise, h⟩
  · obtain ⟨-, -, rfl⟩ := raiseIf_eq_error.1 h
    exact .inl rfl
  obtain ⟨-, rfl⟩ := raiseIf_eq_ok.1 hraise
  have hexpired : Moves (OnWorld Anything Eq) (Payment.refuseExpired env c m) := refuseExpired_calls
  rcases bind_eq_error.1 h with h | ⟨_, _, halive, h⟩
  · exact .inl (hexpired.2 _ _ _ h).2.symm
  obtain ⟨rfl, -⟩ := refuseExpired_ok halive
  rcases bind_eq_error.1 h with h | ⟨offer, _, hoffer, h⟩
  · obtain ⟨-, -, rfl⟩ := require_eq_error.1 h
    exact .inl rfl
  obtain ⟨-, rfl⟩ := require_eq_ok.1 hoffer
  rcases bind_eq_error.1 h with h | ⟨_, _, hquantity, h⟩
  · obtain ⟨-, -, rfl⟩ := raiseIf_eq_error.1 h
    exact .inl rfl
  obtain ⟨-, rfl⟩ := raiseIf_eq_ok.1 hquantity
  have hchange : Moves (OnWorld Anything Eq) (Payment.refusePriceChange env c offer m) :=
    refusePriceChange_calls
  rcases bind_eq_error.1 h with h | ⟨_, _, hprice, h⟩
  · exact .inl (hchange.2 _ _ _ h).2.symm
  obtain ⟨rfl, -⟩ := refusePriceChange_ok hprice
  cases hk : given key with
  | none =>
      rw [hk] at h
      exact charge_error h
  | some k =>
      rw [hk] at h
      have hmoves : Moves (OnWorld Database.OrdersFrom Eq) (Idempotency.acquireLock env (env.clock 1)
        "buyer" (m ++ ":" ++ b) "POST /payments" k (env.requestHash id a c.totalMinor)) :=
        acquireLock_frame
      rcases bind_eq_error.1 h with h | ⟨lock, w₁, hlock, h⟩
      · exact .inl (hmoves.2 _ _ _ h).2.symm
      obtain ⟨horders, hcalls⟩ := hmoves.1 _ _ _ hlock
      cases hreplay : Payment.replay env c lock with
      | some answer =>
          rw [hreplay] at h
          obtain ⟨-, rfl⟩ := ofAnswer_eq_error.1 h
          exact .inl hcalls.symm
      | none =>
          rw [hreplay] at h
          rw [hcalls]
          refine (charge_error h).imp_right ?_
          rintro ⟨request, hasked, htaken⟩
          refine ⟨request, hasked, fun order hanswer => ?_⟩
          obtain ⟨q, hq, horder⟩ := htaken order hanswer
          obtain ⟨q₀, hq₀, hsame⟩ := horders q hq
          exact ⟨q₀, hq₀, hsame.symm.trans horder⟩

end AgenticCommerce
