/-
# Transitions, row by row

`TransitionFrame` lets a transition set any status on any row.  Here a transition is what
it is: it applies to a row that the store has (`Aggregate.Current`), follows a rule, and
records the two statuses (`Aggregate.record`).  A frame that is closed under such
transitions (`TransitFrame`) holds of every operation, and what it allows the closing
events to apply to, those that cancel or expire a checkout, is asked of the three
operations that have them.
-/

import AgenticCommerce.Lifecycle.Steps
import AgenticCommerce.Payments.Binding

namespace AgenticCommerce

open Relational Work

/-! ### One transition -/

/-- The ledger row of a transition along a rule. -/
def Aggregate.record (aggregate : Aggregate) (event : TransitionEvent)
    (context : TransitionContext) (rule : TransitionRule) : AuditEvent :=
  { merchantId := context.merchantId, actorType := context.actorType, actorId := context.actorId,
    eventType := event.value, aggregateType := aggregate.aggregateType,
    aggregateId := aggregate.aggregateId,
    metadata := [("from_status", .str aggregate.statusValue),
      ("to_status", .ofOption (aggregate.targetValue rule.target))] }

/-- The store has the aggregate's row; of a payment only the status counts. -/
def Aggregate.Current (db : Database) : Aggregate → Prop
  | .checkout c => c ∈ db.checkouts
  | .payment p => ∃ q ∈ db.payments, q.paymentId = p.paymentId ∧ q.status = p.status

/-- **What a transition that is accepted does.** -/
theorem transition_eq_ok {aggregate : Aggregate} {event : TransitionEvent}
    {context : TransitionContext} {w w' : World} {u : Unit} :
    transition aggregate event context w = .ok u w' ↔ ∃ rule db,
      validate aggregate.source event context = .ok rule ∧
      w.db.setStatus aggregate rule.target = some db ∧
      w' = { w with db := db.appendAudit (aggregate.record event context rule) } := by
  simp only [transition, appendTransitionEvent, bind_eq_ok, ofAnswer_eq_ok, tryWrite_eq_ok,
    appendEvent_eq_ok, Option.map_eq_some_iff]
  constructor
  · rintro ⟨rule, _, ⟨hvalid, rfl⟩, _, _, ⟨db, hdb, rfl⟩, rfl⟩
    exact ⟨rule, db, hvalid, hdb, rfl⟩
  · rintro ⟨rule, db, hvalid, hdb, rfl⟩
    exact ⟨rule, w, ⟨hvalid, rfl⟩, (), _, ⟨db, hdb, rfl⟩, rfl⟩

/-- The events that end a checkout before it is paid. -/
def TransitionEvent.closes (event : TransitionEvent) : Bool :=
  event = .cancelCheckout || event = .rejectAuthorization || event = .expireCheckout

/-- Closed under the transitions of rows that the store has; a closing event must be one
that `closable` allows for the checkout. -/
class TransitFrame (closable : Checkout → TransitionEvent → Prop)
    (S : Database → Database → Prop) : Prop where
  transit : ∀ (db db' : Database) aggregate event context rule,
    (∀ c, aggregate = .checkout c → event.closes = true → closable c event) →
    aggregate.Current db → validate aggregate.source event context = .ok rule →
    db.setStatus aggregate rule.target = some db' →
    S db (db'.appendAudit (aggregate.record event context rule))

/-- Closed under changes of a payment's other columns, its amount apart, and under new
payments. -/
class AttemptFrame (S : Database → Database → Prop) : Prop where
  modify : ∀ (db : Database) id f h,
    (∀ p, (f p).status = p.status ∧ (f p).amountMinor = p.amountMinor) →
      S db (db.modifyPayment id f h)
  opening : ∀ (db : Database) (p : Payment) t, p.status = .created →
    db.payments.insert? p = some t → S db { db with payments := t }

/-! ### The services -/

section

variable {env : Env} {w : World} {α : Type} {S : Database → Database → Prop}
  {C : List ProviderCall → List ProviderCall → Prop} [IsPreorder (List ProviderCall) C]
  [BooksFrame S] (closable : Checkout → TransitionEvent → Prop) [TransitFrame closable S]

include closable

theorem transition_transits {aggregate : Aggregate} {event : TransitionEvent}
    {context : TransitionContext} (hcurrent : aggregate.Current w.db)
    (hclosable : ∀ c, aggregate = .checkout c → event.closes = true → closable c event) :
    MovesAt (OnWorld S C) w (transition aggregate event context) := by
  constructor
  · intro u w' h
    obtain ⟨rule, db, hvalid, hdb, rfl⟩ := transition_eq_ok.1 h
    exact ⟨TransitFrame.transit w.db db aggregate event context rule hclosable hcurrent hvalid hdb,
      refl_of C w.calls⟩
  · intro e w' h
    rw [transition_error h]
    exact refl_of (OnWorld S C) w

/-- A transition of a checkout that the store has. -/
theorem transitionRow_transits {c : Checkout} {event : TransitionEvent}
    {context : TransitionContext} (hc : c ∈ w.db.checkouts)
    (hclosable : event.closes = true → closable c event) :
    MovesAt (OnWorld S C) w (transition (.checkout c) event context) := by
  have hcurrent : (Aggregate.checkout c).Current w.db := hc
  refine transition_transits closable hcurrent fun c' hc' hcloses => ?_
  obtain rfl := Aggregate.checkout.inj hc'
  exact hclosable hcloses

/-- A transition of a checkout that was just looked up, unless there was none. -/
theorem transitionFound_transits {id : String} {event : TransitionEvent}
    {context : TransitionContext} (hevent : event.closes = false) :
    MovesAt (OnWorld S C) w ((w.db.checkoutById id).elim (pure ()) fun c =>
      transition (.checkout c) event context) := by
  cases hfound : w.db.checkoutById id with
  | none => exact Moves.at .pure w
  | some c =>
      obtain ⟨hmem, -⟩ := Table.first_eq_some hfound
      refine transitionRow_transits closable hmem fun hcloses => ?_
      rw [hevent] at hcloses
      exact nomatch hcloses

theorem cancelCheckout_transits {b m id : String}
    (hclosable : ∀ c, w.db.checkoutOf m b id = some c → closable c .cancelCheckout) :
    MovesAt (OnWorld S C) w (Checkout.cancelCheckout env b m id) := by
  refine .bind (moves_require.at w) fun own t hown => ?_
  obtain ⟨hfound, rfl⟩ := require_eq_ok.1 hown
  refine .bind (moves_require.at w) fun c t hc => ?_
  obtain ⟨hfirst, rfl⟩ := require_eq_ok.1 hc
  have hmem : c ∈ w.db.checkouts := (Table.first_eq_some hfirst).1
  obtain rfl : own = c := Option.some.inj ((checkoutOf_eq_some hfound).1.symm.trans hfirst)
  refine .ite (fun _ => (Moves.bind moves_query fun _ => .pure).at w) fun _ => ?_
  exact .bind (transitionRow_transits closable hmem fun _ => hclosable own hfound)
    fun _ t _ => (Moves.bind releaseStock_frame fun _ => .bind moves_flush fun _ =>
      .bind moves_query fun _ => .bind moves_require fun _ => .pure).at t

/-! #### Settling a payment -/

section

variable [AttemptFrame S]

omit closable [BooksFrame S] [TransitFrame closable S] in
theorem modifyPayment_attempts {id : String} {f : Payment → Payment}
    {h : ∀ p, Keyed.key (f p) = Keyed.key p}
    (hf : ∀ p, (f p).status = p.status ∧ (f p).amountMinor = p.amountMinor) :
    Moves (OnWorld S C) (update fun db => db.modifyPayment id f h) :=
  moves_update fun db => AttemptFrame.modify db id f h hf

omit closable [IsPreorder (List ProviderCall) C] [BooksFrame S] [TransitFrame closable S]
  [AttemptFrame S] in
/-- A payment is still current when its other columns have changed. -/
theorem Aggregate.Current.modified {db : Database} {p : Payment} {id : String}
    {f : Payment → Payment} {h : ∀ p, Keyed.key (f p) = Keyed.key p}
    (hf : ∀ p, (f p).status = p.status) (hp : p ∈ db.payments) :
    (Aggregate.payment p).Current (db.modifyPayment id f h) := by
  have hid : ∀ q : Payment, (f q).paymentId = q.paymentId := h
  by_cases hmatch : (p.paymentId == id) = true
  · exact ⟨f p, Table.mem_modify_of_match (h := h) hp hmatch, hid p, hf p⟩
  · refine ⟨p, ?_, rfl, rfl⟩
    rw [Database.modifyPayment, Table.mem_modify]
    exact ⟨p, hp, if_neg hmatch⟩

theorem settleVerified_transits {p : Payment} {payId sig address : Option String}
    (hp : p ∈ w.db.payments) :
    MovesAt (OnWorld S C) w (Payment.settleVerified env p payId sig address) := by
  have hstamp : Moves (OnWorld S C) (update fun db => db.modifyPayment p.paymentId
      (Payment.stampVerified env.now payId sig) fun _ => rfl) := modifyPayment_attempts fun _ => ⟨rfl, rfl⟩
  refine .bind (hstamp.at w) fun _ t ht => ?_
  have hcurrent : (Aggregate.payment p).Current t.db := by
    rw [← update_eq_ok.1 ht]
    exact .modified (fun _ => rfl) hp
  refine .bind (transition_transits closable hcurrent fun _ h => nomatch h) fun _ t _ =>
    .bind (moves_query.at t) fun checkout u hcheckout => ?_
  obtain ⟨rfl, rfl⟩ := query_eq_ok.1 hcheckout
  refine .bind ?_ fun _ u _ => (Moves.bind (moves_unlessTrue commitStock_frame) fun _ =>
    .bind confirmOrder_frame fun _ => .bind moves_flush fun _ =>
    .bind (appendEvent_frame rfl) fun _ => .pure).at u
  cases (t.db.checkoutById p.checkoutId).elim false fun c => c.status.terminal with
  | true => exact Moves.at .pure t
  | false => exact transitionFound_transits closable rfl

theorem verifyPayment_transits {id : String} {payId sig address : Option String} :
    Moves (OnWorld S C) (Payment.verifyPayment env id payId sig address) := by
  refine .of_at fun w => .bind (moves_require.at w) fun p t hp => ?_
  obtain ⟨hfound, rfl⟩ := require_eq_ok.1 hp
  obtain ⟨hmem, -⟩ := Table.first_eq_some hfound
  refine .ite (fun _ => (Moves.bind confirmOrder_frame fun _ => .pure).at w) fun _ =>
    .bind (moves_raiseIf.at w) fun _ t ht => ?_
  obtain ⟨-, rfl⟩ := raiseIf_eq_ok.1 ht
  refine .bind (moves_require.at w) fun c t hc => ?_
  obtain ⟨-, rfl⟩ := require_eq_ok.1 hc
  refine .bind (refuseUnpayable_frame.at w) fun _ t ht => ?_
  obtain ⟨rfl, -⟩ := refuseUnpayable_ok ht
  refine .bind (moves_raiseIf.at w) fun _ t ht => ?_
  obtain ⟨-, rfl⟩ := raiseIf_eq_ok.1 ht
  exact settleVerified_transits closable hmem

theorem failPayment_transits {id : String} {reason : Option String} :
    Moves (OnWorld S C) (Payment.failPayment env id reason) := by
  refine .of_at fun w => .bind (moves_require.at w) fun p t hp => ?_
  obtain ⟨hfound, rfl⟩ := require_eq_ok.1 hp
  obtain ⟨hmem, -⟩ := Table.first_eq_some hfound
  have htouch : Moves (OnWorld S C) (update fun db => db.modifyPayment id
      (fun p => { p with updatedAt := env.now }) fun _ => rfl) := modifyPayment_attempts fun _ => ⟨rfl, rfl⟩
  refine .bind (htouch.at w) fun _ t ht => ?_
  have hcurrent : (Aggregate.payment p).Current t.db := by
    rw [← update_eq_ok.1 ht]
    exact .modified (fun _ => rfl) hmem
  refine .bind (transition_transits closable hcurrent fun _ h => nomatch h) fun _ t _ =>
    .bind (moves_query.at t) fun checkout u hcheckout => ?_
  obtain ⟨rfl, rfl⟩ := query_eq_ok.1 hcheckout
  have hkeeps : Moves (OnWorld (Database.Keeps Database.checkouts) Anything)
      (unlessTrue ((t.db.checkoutById p.checkoutId).elim false fun c => c.status.terminal)
        (Inventory.releaseStock env p.checkoutId (some p.merchantId))) :=
    moves_unlessTrue releaseStock_frame
  refine .bind ((moves_unlessTrue releaseStock_frame).at t) fun _ u hu => ?_
  have hsame : t.db.checkouts = u.db.checkouts := (hkeeps.1 _ _ _ hu).1
  refine .bind ?_ fun _ u _ => (Moves.bind moves_flush fun _ =>
    .bind (appendEvent_frame rfl) fun _ => .pure).at u
  have hfound : t.db.checkoutById p.checkoutId = u.db.checkoutById p.checkoutId := by
    rw [Database.checkoutById, Database.checkoutById, hsame]
  rw [hfound]
  cases (u.db.checkoutById p.checkoutId).elim false fun c => c.status.terminal with
  | true => exact Moves.at .pure u
  | false => exact transitionFound_transits closable rfl

theorem settleReported_transits {id : String} {order : ProviderOrder} :
    Moves (OnWorld S C) (Worker.settleReported env id order) :=
  .ite (fun _ => .bind (verifyPayment_transits closable) fun _ => .pure) fun _ =>
    .ite (fun _ => .bind (failPayment_transits closable) fun _ => .pure) fun _ => .pure

theorem processWebhook_transits [LetterFrame S] {d : Webhook.Delivery} :
    Moves (OnWorld S C) (Webhook.processWebhook env d) :=
  Webhook.processWebhook_moves fun _ _ _ =>
    .ite (fun _ => .bind moves_ofAnswer fun _ => .bind moves_ofAnswer fun _ =>
      .bind (verifyPayment_transits closable) fun _ => .pure) fun _ => .bind moves_ofAnswer fun _ =>
        .bind (failPayment_transits closable) fun _ => .pure

end

/-! #### The sweep -/

theorem sweepCheckout_transits {id : String}
    (hclosable : ∀ c ∈ w.db.checkouts, c.checkoutId = id → closable c .expireCheckout) :
    MovesAt (OnWorld S C) w (Worker.sweepCheckout env id) := by
  refine .bind (moves_query.at w) fun found t hquery => ?_
  obtain ⟨hfound, rfl⟩ := query_eq_ok.1 hquery
  cases found with
  | none => exact Moves.at .pure w
  | some c =>
      obtain ⟨hmem, hid⟩ := Table.first_eq_some hfound
      have hitem : MovesAt (OnWorld S C) w (nested (do
          transition (.checkout c) .expireCheckout
            { actorType := "system", actorId := some "worker_sweep",
              merchantId := some c.merchantId, now := env.now }
          Inventory.releaseStock env c.checkoutId (some c.merchantId)
          flush)) :=
        nested_moves (.bind (transitionRow_transits closable hmem fun _ =>
          hclosable c hmem (beq_iff_eq.1 hid)) fun _ t _ =>
            (Moves.bind releaseStock_frame fun _ => moves_flush).at t)
      refine .bind (moves_flush.at w) fun _ t ht => ?_
      obtain ⟨-, rfl⟩ := flush_eq_ok.1 ht
      exact .bind hitem fun _ t _ => Moves.at .pure t

/-- The sweep closes what `closable` allows for every row with the identifier and the
deadline of one that was due. -/
theorem sweepExpiredCheckouts_transits
    (hclosable : ∀ c, (∃ c₀ ∈ w.db.checkouts, c = { c₀ with status := c.status }) →
      c.checkoutId ∈ Worker.expiredCheckouts env.now w.db → closable c .expireCheckout) :
    MovesAt (OnWorld S C) w (Worker.sweepExpiredCheckouts env) := by
  refine .bind (moves_query.at w) fun due t hdue => ?_
  obtain ⟨rfl, rfl⟩ := query_eq_ok.1 hdue
  have hitems : ∀ (ids : List String) (u : World), (∀ id ∈ ids, id ∈ Worker.expiredCheckouts
      env.now w.db) → TermsKept w.db u.db → MovesAt (OnWorld S C) u
        (Worker.sweepCheckouts env ids) := by
    intro ids
    induction ids with
    | nil => exact fun u _ _ => Moves.at .pure u
    | cons id rest ih =>
        intro u hids hterms
        have hid := hids id List.mem_cons_self
        refine .bind (sweepCheckout_transits closable fun c hc hcid => ?_) fun _ v hv => ?_
        · exact hclosable c (hterms c hc) (by rw [hcid]; exact hid)
        · have hkept : Moves (OnWorld TermsKept Anything) (Worker.sweepCheckout env id) :=
            sweepCheckout_frame
          exact ih v (fun id hid => hids id (List.mem_cons_of_mem _ hid))
            (trans_of TermsKept hterms (hkept.1 _ _ _ hv).1)
  exact hitems _ w (fun _ h => h) (refl_of TermsKept w.db)

/-! #### Authorizations -/

section

variable [AuthorizationFrame S]

theorem requestAuthorization_transits {b m id : String} {ttl : ℤ} :
    Returns (OnWorld S C) (Authorization.requestAuthorization env b m id ttl) := by
  refine .of_at fun w => .bind (moves_require.at w).1 fun c t hc => ?_
  obtain ⟨hfound, rfl⟩ := require_eq_ok.1 hc
  obtain ⟨hmem, -⟩ := Table.first_eq_some hfound
  refine .bind (moves_raiseIf.at w).1 fun _ t ht => ?_
  obtain ⟨-, rfl⟩ := raiseIf_eq_ok.1 ht
  refine .bind (moves_raiseIf.at w).1 fun _ t ht => ?_
  obtain ⟨-, rfl⟩ := raiseIf_eq_ok.1 ht
  refine .bind (moves_query.at w).1 fun existing t hquery => ?_
  obtain ⟨-, rfl⟩ := query_eq_ok.1 hquery
  cases existing with
  | some a => exact answerExisting_returns.at w
  | none =>
      intro v w' h
      obtain ⟨result, w₁, hevaluated, h⟩ := bind_eq_ok.1 h
      obtain ⟨_, _, hraise, h⟩ := bind_eq_ok.1 h
      obtain ⟨hdecision, rfl⟩ := raiseIf_eq_ok.1 hraise
      have hkept : OnWorld (Database.Keeps Database.checkouts) C w w₁ :=
        evaluateCheckoutPolicy_frame hevaluated hdecision
      have hmem₁ : c ∈ w₁.db.checkouts := hkept.1 ▸ hmem
      refine trans_of (OnWorld S C) (evaluateCheckoutPolicy_frame hevaluated hdecision)
        (ReturnsAt.bind ((moves_insert fun db db' hins => ?_).at w₁).1 (fun _ t ht => ?_) v w' h)
      · obtain ⟨t, ht, rfl⟩ := Option.map_eq_some_iff.1 hins
        refine AuthorizationFrame.insert db _ t ?_ ht
        change (if result.decision = .allow then AuthorizationStatus.approved else .pending) ≠ .expired
        split_ifs <;> decide
      · have hmem₂ : c ∈ t.db.checkouts := by
          obtain ⟨db, hdb, rfl⟩ := insert_eq_ok.1 ht
          obtain ⟨_, -, rfl⟩ := Option.map_eq_some_iff.1 hdb
          exact hmem₁
        refine .bind (transitionRow_transits closable hmem₂ fun h => ?_).1 fun _ t _ =>
          (Returns.bind (.of moves_flush) fun _ => .bind (.of (appendEvent_frame ?_)) fun _ =>
            .of moves_query).at t
        · exact absurd h (by split_ifs <;> decide)
        · split_ifs <;> rfl

theorem approveAuthorization_transits {b m id : String} :
    Returns (OnWorld S C) (Authorization.approveAuthorization env b m id) := by
  refine .bind (.of moves_require) fun a => .bind (.of moves_raiseIf) fun _ =>
    .ite (fun _ => .of getAuthorization_frame) fun _ => .bind (.of moves_raiseIf) fun _ =>
    .bind (.of moves_raiseIf) fun _ => .ite (fun _ => expire_returns) fun _ =>
    .bind (.of (moves_update fun db => AuthorizationFrame.status db _ _ nofun)) fun _ =>
    .of_at fun w => .bind (moves_query.at w).1 fun found t hquery => ?_
  obtain ⟨rfl, rfl⟩ := query_eq_ok.1 hquery
  exact .bind (transitionFound_transits closable rfl).1 fun _ t _ =>
    (Returns.bind (.of moves_flush) fun _ => .bind (.of (appendEvent_frame rfl)) fun _ =>
      .of getAuthorization_frame).at t

/-- A rejection closes the checkout of an authorization that is not consumed. -/
theorem rejectAuthorization_transits {b m id : String}
    (hclosable : ∀ a ∈ w.db.authorizations, a.authorizationId = id → a.status ≠ .consumed →
      ∀ c, c.checkoutId = a.checkoutId → closable c .rejectAuthorization) :
    ReturnsAt (OnWorld S C) w (Authorization.rejectAuthorization env b m id) := by
  refine .bind (moves_require.at w).1 fun a t ha => ?_
  obtain ⟨hfound, rfl⟩ := require_eq_ok.1 ha
  obtain ⟨hmem, hkeys⟩ := Table.first_eq_some hfound
  simp only [Bool.and_eq_true, beq_iff_eq] at hkeys
  refine .bind (moves_raiseIf.at w).1 fun _ t ht => ?_
  obtain ⟨-, rfl⟩ := raiseIf_eq_ok.1 ht
  refine .ite (fun _ => (Returns.of getAuthorization_frame).at w) fun _ =>
    .bind (moves_raiseIf.at w).1 fun _ t ht => ?_
  obtain ⟨hconsumed, rfl⟩ := raiseIf_eq_ok.1 ht
  refine .bind (moves_raiseIf.at w).1 fun _ t ht => ?_
  obtain ⟨-, rfl⟩ := raiseIf_eq_ok.1 ht
  refine .ite (fun _ => expire_returns.at w) fun _ =>
    .bind (moves_query.at w).1 fun found t hquery => ?_
  obtain ⟨hcheckout, rfl⟩ := query_eq_ok.1 hquery
  refine .bind (moves_raiseIf.at w).1 fun _ t ht => ?_
  obtain ⟨-, rfl⟩ := raiseIf_eq_ok.1 ht
  have hreject : Moves (OnWorld S C) (update fun db =>
      db.setAuthorizationStatus a.authorizationId .rejected) :=
    moves_update fun db => AuthorizationFrame.status db _ _ nofun
  refine .bind (hreject.at w).1 fun _ t hset => .bind ?_ fun _ t _ =>
    (Returns.bind (.of moves_flush) fun _ => .bind (.of (appendEvent_frame rfl)) fun _ =>
      .of getAuthorization_frame).at t
  cases found with
  | none => exact (Moves.at .pure t).1
  | some c =>
      obtain ⟨hcmem, hcid⟩ := Table.first_eq_some hcheckout
      have hcmem' : c ∈ t.db.checkouts := by
        rw [← update_eq_ok.1 hset]
        exact hcmem
      exact .bind (transitionRow_transits closable hcmem' fun _ =>
        hclosable a hmem hkeys.1.1 hconsumed c (beq_iff_eq.1 hcid)).1 fun _ t _ =>
          (releaseStock_frame.at t).1

end

/-! #### Creating a payment -/

section

variable [RecordsFrame S] [AttemptFrame S] [AuthorizationFrame S]

theorem initiate_transits {c : Checkout} {p : Payment} {r : Option IdempotencyRecord}
    {order : ProviderOrder} (hp : p ∈ w.db.payments) :
    MovesAt (OnWorld S C) w (Payment.initiate env c p r order) := by
  have hconsume : Moves (OnWorld S C) (update fun db =>
      db.setAuthorizationStatus p.authorizationId .consumed) :=
    moves_update fun db => AuthorizationFrame.status db _ _ nofun
  refine .bind (hconsume.at w) fun _ t ht => ?_
  have hp' : p ∈ t.db.payments := by
    rw [← update_eq_ok.1 ht]
    exact hp
  have hnumber : Moves (OnWorld S C) (update fun db => db.modifyPayment p.paymentId
      (fun p => { p with providerOrderId := some order.providerOrderId }) fun _ => rfl) :=
    modifyPayment_attempts fun _ => ⟨rfl, rfl⟩
  refine .bind (hnumber.at t) fun _ u hu => ?_
  have hcurrent : (Aggregate.payment p).Current u.db := by
    rw [← update_eq_ok.1 hu]
    exact .modified (fun _ => rfl) hp'
  exact .bind (transition_transits closable hcurrent fun _ h => nomatch h) fun _ u _ =>
    (Moves.bind moves_flush fun _ => .bind (appendEvent_frame rfl) fun _ =>
      .bind (.elim fun _ => complete_frame) fun _ => .pure).at u

variable (hC : ∀ calls request answer, C calls (calls ++ [.createOrder request answer]))

include hC

theorem charge_transits {c : Checkout} {offer : Offer} {b m id : String} {key : Option String}
    {r : Option IdempotencyRecord} :
    Returns (OnWorld S C) (Payment.charge env c offer b m id key r) := by
  refine .bind revalidateForPayment_returns fun a => .of_at fun w => ?_
  have hopen : Moves (OnWorld S C) (insert fun db => (db.payments.insert?
      (Payment.rowOf env c b m a.authorizationId key)).map fun payments => { db with payments }) := by
    refine moves_insert fun db db' h => ?_
    obtain ⟨t, ht, rfl⟩ := Option.map_eq_some_iff.1 h
    exact AttemptFrame.opening db _ t rfl ht
  refine .bind (hopen.at w).1 fun _ t ht => ?_
  have hp : Payment.rowOf env c b m a.authorizationId key ∈ t.db.payments := by
    obtain ⟨db, hdb, rfl⟩ := insert_eq_ok.1 ht
    obtain ⟨payments, hpayments, rfl⟩ := Option.map_eq_some_iff.1 hdb
    exact (Table.mem_insert hpayments).2 (.inr rfl)
  refine .bind (moves_flush.at t).1 fun _ u hu => ?_
  obtain ⟨-, rfl⟩ := flush_eq_ok.1 hu
  refine .bind ((moves_call fun _ _ => hC _ _ _).at t).1 fun answer u hu => ?_
  have hp' : Payment.rowOf env c b m a.authorizationId key ∈ u.db.payments := by
    rw [← (call_eq_ok.1 hu).2]
    exact hp
  cases answer with
  | ok order => exact (initiate_transits closable hp').1
  | error failure => exact abandon_returns.at u

theorem createPayment_transits {b m id a : String} {key : Option String} :
    Returns (OnWorld S C) (Payment.createPayment env b m id a key) := by
  refine .bind (.of moves_require) fun c => .bind (.of moves_raiseIf) fun _ =>
    .bind refuseExpired_returns fun _ => .bind (.of moves_require) fun offer =>
    .bind (.of moves_raiseIf) fun _ => .bind refusePriceChange_returns fun _ => ?_
  cases given key with
  | none => exact charge_transits closable hC
  | some key =>
      refine .bind (.of acquireLock_frame) fun lock => ?_
      cases Payment.replay env c lock with
      | some answer => exact .of moves_ofAnswer
      | none => exact charge_transits closable hC

end

end

/-! ### The operations -/

section

variable {env : Env} {w : World} {S : Database → Database → Prop} [BooksFrame S] [RecordsFrame S]
  [AttemptFrame S] [AuthorizationFrame S] [LetterFrame S]
  (closable : Checkout → TransitionEvent → Prop) [TransitFrame closable S]

/-- **Every operation stays in a frame** that is closed under transitions of the rows the
store has, if the frame lets the operation open what it opens and close what it closes. -/
theorem Operation.transits_of_opening (op : Operation)
    (hopen : ∀ b m o q ttl, op = .createCheckout b m o q ttl →
      ∀ (db : Database) offer expiresAt t,
        db.checkouts.insert? (Checkout.rowOf env offer b m o q expiresAt) = some t →
          S db { db with checkouts := t })
    (hrefund : ∀ id amount reason m, op = .refundPayment id amount reason m →
      ∀ (db : Database) (e : AuditEvent), e.RefundOf id → S db (db.appendAudit e))
    (hcatalog : ∀ (db : Database) offers products merchantRules buyerPolicies,
      S db { db with offers, products, merchantRules, buyerPolicies })
    (hcancel : ∀ b m id, op = .cancelCheckout b m id →
      ∀ c, w.db.checkoutOf m b id = some c → closable c .cancelCheckout)
    (hreject : ∀ b m id, op = .rejectAuthorization b m id →
      ∀ a ∈ w.db.authorizations, a.authorizationId = id → a.status ≠ .consumed →
        ∀ c, c.checkoutId = a.checkoutId → closable c .rejectAuthorization)
    (hsweep : op = .sweepExpiredCheckouts →
      ∀ c, (∃ c₀ ∈ w.db.checkouts, c = { c₀ with status := c.status }) →
        c.checkoutId ∈ Worker.expiredCheckouts env.now w.db → closable c .expireCheckout) :
    S w.db (op.run env w).db := by
  have lift : ∀ {α : Type} (m : Op α), ReturnsAt (OnWorld S Anything) w m →
      S w.db (request m w).db := fun m hm =>
    request_induction (refl_of S w.db) fun a w' h _ => (hm a w' h).1
  cases op with
  | createCheckout b m o q ttl =>
      exact lift _ ((createCheckout_frame_of (hopen b m o q ttl rfl)).at w).1
  | cancelCheckout b m id => exact lift _ (cancelCheckout_transits closable (hcancel b m id rfl)).1
  | requestAuthorization => exact lift _ ((requestAuthorization_transits closable).at w)
  | approveAuthorization => exact lift _ ((approveAuthorization_transits closable).at w)
  | rejectAuthorization b m id => exact lift _ (rejectAuthorization_transits closable (hreject b m id rfl))
  | createPayment => exact lift _ ((createPayment_transits closable fun _ _ _ => trivial).at w)
  | verifyPayment => exact lift _ ((verifyPayment_transits closable).at w).1
  | failPayment => exact lift _ ((failPayment_transits closable).at w).1
  | refundPayment id amount reason m =>
      exact lift _ ((refundPayment_frame (hrefund id amount reason m rfl) fun _ _ _ _ => trivial).at w).1
  | processWebhook => exact lift _ ((processWebhook_transits closable).at w).1
  | sweepExpiredCheckouts => exact lift _ (sweepExpiredCheckouts_transits closable (hsweep rfl)).1
  | pollPayment => exact lift _ ((settleReported_transits closable).at w).1
  | importInventory => exact lift _ (importInventory_frame.at w).1
  | catalog offers products rules policies => exact hcatalog w.db offers products rules policies

/-- The same for a frame that every opening of a checkout is in. -/
theorem Operation.transits_of [CheckoutFrame S] (op : Operation)
    (hrefund : ∀ id amount reason m, op = .refundPayment id amount reason m →
      ∀ (db : Database) (e : AuditEvent), e.RefundOf id → S db (db.appendAudit e))
    (hcatalog : ∀ (db : Database) offers products merchantRules buyerPolicies,
      S db { db with offers, products, merchantRules, buyerPolicies })
    (hcancel : ∀ b m id, op = .cancelCheckout b m id →
      ∀ c, w.db.checkoutOf m b id = some c → closable c .cancelCheckout)
    (hreject : ∀ b m id, op = .rejectAuthorization b m id →
      ∀ a ∈ w.db.authorizations, a.authorizationId = id → a.status ≠ .consumed →
        ∀ c, c.checkoutId = a.checkoutId → closable c .rejectAuthorization)
    (hsweep : op = .sweepExpiredCheckouts →
      ∀ c, (∃ c₀ ∈ w.db.checkouts, c = { c₀ with status := c.status }) →
        c.checkoutId ∈ Worker.expiredCheckouts env.now w.db → closable c .expireCheckout) :
    S w.db (op.run env w).db :=
  op.transits_of_opening closable
    (fun _ _ _ _ _ _ db _ _ t ht => CheckoutFrame.opening db _ t rfl ht) hrefund hcatalog hcancel
    hreject hsweep

end

end AgenticCommerce
