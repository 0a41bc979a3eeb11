/-
# What the services leave alone

A frame is a preorder on stores that is closed under some kinds of writes: those that
only keep the books (`BooksFrame`), the transitions (`TransitionFrame`), and so on.
Every service is proved once to move along whatever frame is closed under the writes it
makes; what it leaves alone is then read off by naming a frame, and what it asks of the
provider by naming a relation on the calls.  Settling a payment stays in its frame in
the runs that raise as well, which is what the webhook handler needs when it goes on
after an exception; the services that write a refusal and raise stay in theirs only in
the runs that return.
-/

import AgenticCommerce.Checkout.Service
import AgenticCommerce.Relational.Frames
import AgenticCommerce.Worker

namespace AgenticCommerce

open Relational Work

/-! ### Statements -/

/-- The stores are related by `S`, and the calls that left them by `C`. -/
def OnWorld (S : Database → Database → Prop) (C : List ProviderCall → List ProviderCall → Prop)
    (w w' : World) : Prop := S w.db w'.db ∧ C w.calls w'.calls

instance {S : Database → Database → Prop} {C : List ProviderCall → List ProviderCall → Prop}
    [IsPreorder Database S] [IsPreorder (List ProviderCall) C] : IsPreorder World (OnWorld S C) where
  refl w := ⟨refl_of S w.db, refl_of C w.calls⟩
  trans _ _ _ h h' := ⟨trans_of S h.1 h'.1, trans_of C h.2 h'.2⟩

section

variable {S : Database → Database → Prop} {C : List ProviderCall → List ProviderCall → Prop}
  {α : Type}

/-- A request whose operation moves the store along `S` when it returns does so itself. -/
theorem request_moves [IsPreorder Database S] {m : Op α} (hm : Returns (OnWorld S C) m)
    (w : World) : S w.db (request m w).db :=
  request_induction (refl_of S w.db) fun a w' h _ => (hm w a w' h).1

theorem moves_call [IsPreorder Database S] {answer : List ProviderCall → Except Failure α}
    {log : Except Failure α → ProviderCall} (hC : ∀ calls a, C calls (calls ++ [log a])) :
    Moves (OnWorld S C) (call answer log) := by
  constructor
  · intro w a w' h
    obtain ⟨-, rfl⟩ := call_eq_ok.1 h
    exact ⟨refl_of S w.db, hC w.calls _⟩
  · intro w e w' h
    exact (call_eq_error.1 h).elim

variable [IsPreorder (List ProviderCall) C]

theorem moves_update {f : Database → Database} (hf : ∀ db, S db (f db)) :
    Moves (OnWorld S C) (update f) :=
  .write fun w => ⟨hf w.db, refl_of C w.calls⟩

variable [IsPreorder Database S]

theorem moves_query {q : Database → α} : Moves (OnWorld S C) (query q) := .ask

theorem moves_require {q : Database → Option α} {missing : Failure} :
    Moves (OnWorld S C) (require q missing) := .ask

theorem moves_raiseIf {c : Prop} [Decidable c] {failure : Failure} :
    Moves (OnWorld S C) (raiseIf c failure) := .raiseIf

theorem moves_flush : Moves (OnWorld S C) flush := .ask

theorem moves_ofAnswer {answer : Except Failure α} : Moves (OnWorld S C) (ofAnswer answer) := .ask

theorem moves_insert {f : Database → Option Database} (hf : ∀ db db', f db = some db' → S db db') :
    Moves (OnWorld S C) (insert f) := by
  refine .tryWrite fun w w' h => ?_
  obtain ⟨db, hdb, rfl⟩ := Option.map_eq_some_iff.1 h
  exact ⟨hf w.db db hdb, refl_of C w.calls⟩

theorem moves_unlessTrue {c : Bool} {m : Op Unit} (hm : Moves (OnWorld S C) m) :
    Moves (OnWorld S C) (unlessTrue c m) := by
  cases c with
  | true => exact .pure
  | false => exact hm

omit [IsPreorder (List ProviderCall) C] in
theorem nested_moves {m : Op α} {w : World} (hm : MovesAt (OnWorld S C) w m) :
    MovesAt (OnWorld S C) w (nested m) := by
  constructor
  · intro a w' h
    rcases savepoint_eq_ok.1 h with ⟨b, hb, -⟩ | ⟨e, u, he, -, rfl⟩
    · exact hm.1 b w' hb
    · exact ⟨refl_of S w.db, (hm.2 e u he).2⟩
  · intro e w' h
    exact (savepoint_eq_error.1 h).elim

omit [IsPreorder (List ProviderCall) C] in
theorem moves_nested {m : Op α} (hm : Moves (OnWorld S C) m) : Moves (OnWorld S C) (nested m) :=
  .of_at fun w => nested_moves (hm.at w)

/-- The calls of a request are those of its operation, committed or not. -/
theorem request_calls {m : Op α} (hm : Moves (OnWorld S C) m) (w : World) :
    C w.calls (request m w).calls := by
  refine transaction_induction (motive := fun u : World => C w.calls u.calls) ?_ ?_
  · intro a w' h
    exact ((hm.bind fun _ => moves_flush.bind fun _ => .pure).1 w a w' h).2
  · intro e w' h
    exact ((hm.bind fun _ => moves_flush.bind fun _ => .pure).2 w e w' h).2

end

/-! ### Frames -/

/-- The event of a refusal: a price change of a checkout, or a blocking decision. -/
def AuditEvent.refusal (e : AuditEvent) : Bool :=
  (e.eventType == "PRICE_CHANGE_DETECTED" && e.aggregateType == "checkout") ||
    (e.eventType == "POLICY_EVALUATED" && e.decision == some Decision.block.value)

/-- The event of a transition: it records where the transition led. -/
def AuditEvent.transition (e : AuditEvent) : Bool := e.metadata.any fun item => item.1 == "to_status"

/-- An event that records no refusal, no transition and no refund. -/
def AuditEvent.routine (e : AuditEvent) : Bool :=
  !e.refusal && !e.transition && e.eventType != Payment.refundEventType

/-- The event of a refund of a payment. -/
structure AuditEvent.RefundOf (paymentId : String) (e : AuditEvent) : Prop where
  aggregate : e.aggregateType = "payment" ∧ e.aggregateId = paymentId
  type : e.eventType = Payment.refundEventType
  refusal : e.refusal = false
  transition : e.transition = false

/-- Closed under the writes that keep the books: the counters, the holds, the buyers, the
items, the orders, and routine events. -/
class BooksFrame (S : Database → Database → Prop) : Prop extends IsPreorder Database S where
  books : ∀ (db : Database) inventory reservations buyers checkoutItems orders,
    S db { db with inventory, reservations, buyers, checkoutItems, orders }
  event : ∀ (db : Database) (e : AuditEvent), e.routine = true → S db (db.appendAudit e)

/-- Closed under whatever happens to the idempotency records. -/
class RecordsFrame (S : Database → Database → Prop) : Prop where
  records : ∀ (db : Database) idempotencyRecords, S db { db with idempotencyRecords }

/-- Closed under every transition but a price change. -/
class TransitionFrame (S : Database → Database → Prop) : Prop where
  checkout : ∀ (db : Database) id s (e : AuditEvent), s ≠ .priceChanged → e.refusal = false →
    S db ((db.setCheckoutStatus id s).appendAudit e)
  payment : ∀ (db : Database) id s (e : AuditEvent), e.refusal = false →
    S db ((db.setPaymentStatus id s).appendAudit e)

/-- Closed under whatever happens to the payments' other columns. -/
class PaymentFrame (S : Database → Database → Prop) : Prop where
  modify : ∀ (db : Database) id f h, (∀ p, (f p).status = p.status) → S db (db.modifyPayment id f h)
  insert : ∀ (db : Database) p t, db.payments.insert? p = some t → S db { db with payments := t }

/-- Closed under updates of the payments' columns by which a callback does not know them. -/
class SettlementFrame (S : Database → Database → Prop) : Prop where
  modify : ∀ (db : Database) id f h, (∀ p, (f p).status = p.status) →
    (∀ p, (f p).providerOrderId = p.providerOrderId) → S db (db.modifyPayment id f h)

instance {S : Database → Database → Prop} [PaymentFrame S] : SettlementFrame S :=
  ⟨fun db id f h hf _ => PaymentFrame.modify db id f h hf⟩

/-- Closed under the opening of a checkout. -/
class CheckoutFrame (S : Database → Database → Prop) : Prop where
  opening : ∀ (db : Database) (c : Checkout) t, c.status = .created →
    db.checkouts.insert? c = some t → S db { db with checkouts := t }

/-- Closed under decisions that do not block, and under what is granted on them. -/
class AuthorizationFrame (S : Database → Database → Prop) : Prop where
  decision : ∀ (db : Database) (r : PolicyDecisionRecord) t, r.decision ≠ .block →
    db.policyDecisions.insert? r = some t → S db { db with policyDecisions := t }
  status : ∀ (db : Database) id s, s ≠ .expired → S db (db.setAuthorizationStatus id s)
  insert : ∀ (db : Database) (a : Authorization) t, a.status ≠ .expired →
    db.authorizations.insert? a = some t → S db { db with authorizations := t }

/-- Closed under whatever happens to the callbacks and the dead letters. -/
class CallbackFrame (S : Database → Database → Prop) : Prop where
  callbacks : ∀ (db : Database) providerEvents failedWebhooks,
    S db { db with providerEvents, failedWebhooks }

/-- Closed under whatever happens to the callbacks, and under new dead letters. -/
class LetterFrame (S : Database → Database → Prop) : Prop where
  events : ∀ (db : Database) providerEvents, S db { db with providerEvents }
  letter : ∀ (db : Database) (f : FailedWebhook) t, f.status = .pending → f.attemptCount = 0 →
    db.failedWebhooks.insert? f = some t → S db { db with failedWebhooks := t }

instance {S : Database → Database → Prop} [CallbackFrame S] : LetterFrame S where
  events db providerEvents := CallbackFrame.callbacks db providerEvents db.failedWebhooks
  letter db _ t _ _ _ := CallbackFrame.callbacks db db.providerEvents t

/-- The frame that says nothing. -/
def Anything {σ : Type} (_ _ : σ) : Prop := True

instance {σ : Type} : IsPreorder σ Anything where
  refl _ := trivial
  trans _ _ _ _ _ := trivial

instance : BooksFrame Anything := ⟨fun _ _ _ _ _ _ => trivial, fun _ _ _ => trivial⟩
instance : RecordsFrame Anything := ⟨fun _ _ => trivial⟩
instance : TransitionFrame Anything := ⟨fun _ _ _ _ _ _ => trivial, fun _ _ _ _ _ => trivial⟩
instance : CallbackFrame Anything := ⟨fun _ _ _ => trivial⟩
instance : PaymentFrame Anything := ⟨fun _ _ _ _ _ => trivial, fun _ _ _ _ => trivial⟩
instance : CheckoutFrame Anything := ⟨fun _ _ _ _ _ => trivial⟩
instance : AuthorizationFrame Anything :=
  ⟨fun _ _ _ _ _ => trivial, fun _ _ _ _ => trivial, fun _ _ _ _ _ => trivial⟩

/-- The terms of every checkout are those it had: the owner, the total and the currency. -/
def TermsKept (db db' : Database) : Prop :=
  ∀ c' ∈ db'.checkouts, ∃ c ∈ db.checkouts, c' = { c with status := c'.status }

instance : IsPreorder Database TermsKept where
  refl _ c hc := ⟨c, hc, rfl⟩
  trans _ _ _ h h' c hc := by
    obtain ⟨c', hc', hsame⟩ := h' c hc
    obtain ⟨c₀, hc₀, hsame₀⟩ := h c' hc'
    exact ⟨c₀, hc₀, by rw [hsame, hsame₀]⟩

theorem TermsKept.of_eq {db db' : Database} (h : db'.checkouts = db.checkouts) :
    TermsKept db db' := by
  intro c hc
  rw [h] at hc
  exact ⟨c, hc, rfl⟩

instance : BooksFrame TermsKept := ⟨fun _ _ _ _ _ _ => .of_eq rfl, fun _ _ _ => .of_eq rfl⟩
instance : AuthorizationFrame TermsKept :=
  ⟨fun _ _ _ _ _ => .of_eq rfl, fun _ _ _ _ => .of_eq rfl, fun _ _ _ _ _ => .of_eq rfl⟩

instance : TransitionFrame TermsKept where
  checkout db id s _ _ _ c hc := by
    have hc' : c ∈ (db.setCheckoutStatus id s).checkouts := hc
    rw [Database.setCheckoutStatus, Table.mem_modify] at hc'
    obtain ⟨c₀, hc₀, rfl⟩ := hc'
    refine ⟨c₀, hc₀, ?_⟩
    split_ifs <;> rfl
  payment _ _ _ _ _ := .of_eq rfl

/-! ### The services -/

section

variable {env : Env} {α : Type} {S : Database → Database → Prop}
  {C : List ProviderCall → List ProviderCall → Prop} [IsPreorder (List ProviderCall) C]

/-- No rule but the one of a price change leads to `price_changed`. -/
theorem target_ne_priceChanged {source : RuleState} {event : TransitionEvent}
    {rule : TransitionRule} (hevent : event ≠ .detectPriceChange)
    (h : findRule source event = some rule) :
    CheckoutStatus.ofCanonical? rule.target ≠ some .priceChanged := by
  have hall : ∀ rule ∈ transitions, rule.event ≠ .detectPriceChange →
      CheckoutStatus.ofCanonical? rule.target ≠ some .priceChanged := by decide
  have hrule : rule.event = event := by
    have hfound := List.find?_some h
    simp only [Bool.and_eq_true, decide_eq_true_eq] at hfound
    exact hfound.2
  exact hall rule (List.mem_of_find?_eq_some h) (by rw [hrule]; exact hevent)

theorem TransitionEvent.refusal_value {e : AuditEvent} (event : TransitionEvent)
    (he : e.eventType = event.value) : e.refusal = false := by
  rw [AuditEvent.refusal, he]
  cases event <;> rfl

section

variable [BooksFrame S]

theorem appendEvent_frame {e : AuditEvent} (he : e.routine = true) :
    Moves (OnWorld S C) (appendEvent e) :=
  moves_update fun db => BooksFrame.event db e he

/-- An update of the tables that keep the books. -/
theorem books_frame {f : Database → Database} (hf : ∀ db, ∃ i r b c o, f db =
    { db with inventory := i, reservations := r, buyers := b, checkoutItems := c, orders := o }) :
    Moves (OnWorld S C) (update f) := by
  refine moves_update fun db => ?_
  obtain ⟨i, r, b, c, o, hdb⟩ := hf db
  rw [hdb]
  exact BooksFrame.books db i r b c o

/-- An insert into one of them. -/
theorem insert_frame {t : Database → Option α} {f : Database → α → Database}
    (hf : ∀ db x, ∃ i r b c o, f db x =
      { db with inventory := i, reservations := r, buyers := b, checkoutItems := c, orders := o }) :
    Moves (OnWorld S C) (insert fun db => (t db).map (f db)) := by
  refine moves_insert fun db db' h => ?_
  obtain ⟨x, -, rfl⟩ := Option.map_eq_some_iff.1 h
  obtain ⟨i, r, b, c, o, hdb⟩ := hf db x
  rw [hdb]
  exact BooksFrame.books db i r b c o

theorem transition_frame [TransitionFrame S] {aggregate : Aggregate} {event : TransitionEvent}
    {context : TransitionContext} (hevent : event ≠ .detectPriceChange) :
    Moves (OnWorld S C) (transition aggregate event context) := by
  constructor
  · intro w u w' h
    simp only [transition, appendTransitionEvent, bind_eq_ok, ofAnswer_eq_ok, tryWrite_eq_ok,
      appendEvent_eq_ok, Option.map_eq_some_iff] at h
    obtain ⟨rule, _, ⟨hvalid, rfl⟩, _, _, ⟨db, hdb, rfl⟩, rfl⟩ := h
    refine ⟨?_, refl_of C w.calls⟩
    cases aggregate with
    | checkout c =>
        obtain ⟨s, hs, rfl⟩ := Option.map_eq_some_iff.1 hdb
        refine TransitionFrame.checkout _ _ _ _ (fun hprice => ?_) (event.refusal_value rfl)
        rw [hprice] at hs
        exact target_ne_priceChanged hevent (validate_eq_ok hvalid).1 hs
    | payment p =>
        obtain ⟨s, hs, rfl⟩ := Option.map_eq_some_iff.1 hdb
        exact TransitionFrame.payment _ _ _ _ (event.refusal_value rfl)
  · intro w e w' h
    rw [transition_error h]
    exact refl_of (OnWorld S C) w

/-! #### Stock -/

theorem reserve_frame {offerId : String} {quantity : ℤ} :
    Moves (OnWorld S C) (Inventory.reserve offerId quantity) :=
  .bind moves_query fun _ => .bind (books_frame fun _ => ⟨_, _, _, _, _, rfl⟩) fun _ => .pure

theorem settle_frame {id : String} {leave : Reservation → Reservation}
    {take : ℤ → Inventory → Inventory} {hleave : ∀ r, Keyed.key (leave r) = Keyed.key r}
    {htake : ∀ q i, Keyed.key (take q i) = Keyed.key i} :
    Moves (OnWorld S C) (Inventory.settle id leave take hleave htake) := by
  refine .bind moves_query fun found =>
    .bind (books_frame fun _ => ⟨_, _, _, _, _, rfl⟩) fun _ => ?_
  obtain ⟨_ | r, t⟩ := found
  · exact .pure
  · exact .bind moves_query fun _ =>
      .bind (books_frame fun _ => ⟨_, _, _, _, _, rfl⟩) fun _ => .pure

theorem assertCheckoutTenant_frame {id : String} {m : Option String} :
    Moves (OnWorld S C) (Inventory.assertCheckoutTenant id m) :=
  .bind moves_query fun _ => moves_raiseIf

theorem appendStockEvent_frame {offerId id : String} {m : Option String}
    {metadata : List (String × Json)} (h : metadata.all fun item => item.1 != "to_status") :
    Moves (OnWorld S C) (Inventory.appendStockEvent offerId id m metadata) := by
  refine .bind moves_query fun _ => appendEvent_frame ?_
  have htransition : metadata.any (fun item => item.1 == "to_status") = false := by
    rw [List.any_eq_false]
    intro item hitem
    have hkey := List.all_eq_true.1 h item hitem
    simpa using hkey
  simp only [AuditEvent.routine, AuditEvent.transition, htransition]
  rfl

theorem reserveStock_frame {offerId id : String} {quantity : ℤ} {m : Option String} :
    Moves (OnWorld S C) (Inventory.reserveStock env offerId id quantity m) :=
  .bind moves_raiseIf fun _ => .bind reserve_frame fun _ => .bind moves_ofAnswer fun _ =>
    .bind (insert_frame fun _ _ => ⟨_, _, _, _, _, rfl⟩) fun _ => .bind moves_flush fun _ =>
      .bind (appendStockEvent_frame rfl) fun _ => .pure

theorem releaseStock_frame {id : String} {m : Option String} :
    Moves (OnWorld S C) (Inventory.releaseStock env id m) := by
  refine .bind assertCheckoutTenant_frame fun _ => .bind moves_query fun found => ?_
  cases found with
  | none => exact .pure
  | some r =>
      exact .ite (fun _ => .pure) fun _ =>
        .bind settle_frame fun _ => moves_unlessTrue (appendStockEvent_frame rfl)

theorem commitStock_frame {id : String} {m : Option String} :
    Moves (OnWorld S C) (Inventory.commitStock env id m) := by
  refine .bind assertCheckoutTenant_frame fun _ => .bind moves_require fun r => ?_
  exact .ite (fun _ => .pure) fun _ => .bind moves_raiseIf fun _ => .bind settle_frame fun _ =>
    .bind moves_raiseIf fun _ => appendStockEvent_frame rfl

theorem importInventory_frame {offerId : String} {imported : ℤ} :
    Moves (OnWorld S C) (Inventory.importInventory offerId imported) := by
  refine .bind moves_query fun existing => ?_
  cases existing with
  | none =>
      exact .bind moves_raiseIf fun _ => insert_frame fun _ _ => ⟨_, _, _, _, _, rfl⟩
  | some _ => exact books_frame fun _ => ⟨_, _, _, _, _, rfl⟩

/-! #### Checkouts -/

omit [BooksFrame S] in
theorem getOfferById_frame [IsPreorder Database S] {m offerId : String} :
    Moves (OnWorld S C) (getOfferById env m offerId) :=
  .bind moves_require fun _ => .bind moves_require fun _ => .bind moves_require fun _ =>
    moves_ofAnswer

theorem ensureBuyer_frame {b m : String} :
    Moves (OnWorld S C) (Checkout.ensureBuyer b m) := by
  refine .bind moves_query fun found => ?_
  cases found with
  | some _ => exact .pure
  | none => exact .bind (insert_frame fun _ _ => ⟨_, _, _, _, _, rfl⟩) fun _ => moves_flush

/-- What opening a checkout does, when storing its row is in the frame. -/
theorem createCheckout_frame_of {b m offerId : String} {quantity ttl : ℤ}
    (hopen : ∀ (db : Database) offer expiresAt t, db.checkouts.insert?
      (Checkout.rowOf env offer b m offerId quantity expiresAt) = some t →
        S db { db with checkouts := t }) :
    Moves (OnWorld S C) (Checkout.createCheckout env b m offerId quantity ttl) := by
  refine .bind getOfferById_frame fun offer => .bind moves_raiseIf fun _ => .bind moves_raiseIf fun _ =>
    .bind moves_raiseIf fun _ => .bind ensureBuyer_frame fun _ =>
    .bind (moves_insert fun db db' h => ?_) fun _ =>
    .bind (insert_frame fun _ _ => ⟨_, _, _, _, _, rfl⟩) fun _ => .bind moves_flush fun _ =>
    .bind reserveStock_frame fun _ => .bind (appendEvent_frame rfl) fun _ => .pure
  obtain ⟨t, ht, rfl⟩ := Option.map_eq_some_iff.1 h
  exact hopen db offer _ t ht

theorem createCheckout_frame [CheckoutFrame S] {b m offerId : String} {quantity ttl : ℤ} :
    Moves (OnWorld S C) (Checkout.createCheckout env b m offerId quantity ttl) :=
  createCheckout_frame_of fun db _ _ t ht => CheckoutFrame.opening db _ t rfl ht

theorem cancelCheckout_frame [TransitionFrame S] {b m id : String} :
    Moves (OnWorld S C) (Checkout.cancelCheckout env b m id) :=
  .bind moves_require fun _ => .bind moves_require fun _ => .ite
    (fun _ => .bind moves_query fun _ => .pure) fun _ => .bind (transition_frame nofun) fun _ =>
      .bind releaseStock_frame fun _ => .bind moves_flush fun _ => .bind moves_query fun _ =>
        .bind moves_require fun _ => .pure

/-! #### Orders -/

theorem insertRow_frame {c : Checkout} {o : Order} : Moves (OnWorld S C) (Order.insertRow c o) := by
  refine .bind moves_flush fun _ => .bind (moves_nested (.bind
    (insert_frame fun _ _ => ⟨_, _, _, _, _, rfl⟩) fun _ => moves_flush)) fun inserted => ?_
  cases inserted with
  | ok _ => exact .bind (appendEvent_frame rfl) fun _ => .pure
  | error _ =>
      refine .bind moves_query fun existing => ?_
      cases existing with
      | some _ => exact .ite (fun _ => .pure) fun _ => .throw
      | none => exact .throw

theorem confirmOrder_frame {id paymentId : String} {address : Option String} :
    Moves (OnWorld S C) (Order.confirmOrder env id paymentId address) := by
  refine .bind moves_query fun existing => ?_
  cases existing with
  | some _ => exact .ite (fun _ => .pure) fun _ => .throw
  | none =>
      refine .bind moves_query fun paid => ?_
      cases paid with
      | some _ => exact .pure
      | none => exact .bind moves_require fun _ => .bind moves_require fun _ => insertRow_frame

/-! #### Settling a payment -/

omit [BooksFrame S] in
theorem modifyPayment_frame [PaymentFrame S] {id : String} {f : Payment → Payment}
    {h : ∀ p, Keyed.key (f p) = Keyed.key p} (hf : ∀ p, (f p).status = p.status) :
    Moves (OnWorld S C) (update fun db => db.modifyPayment id f h) :=
  moves_update fun db => PaymentFrame.modify db id f h hf

omit [BooksFrame S] in
theorem stampPayment_frame [SettlementFrame S] {id : String} {f : Payment → Payment}
    {h : ∀ p, Keyed.key (f p) = Keyed.key p} (hf : ∀ p, (f p).status = p.status)
    (hf' : ∀ p, (f p).providerOrderId = p.providerOrderId) :
    Moves (OnWorld S C) (update fun db => db.modifyPayment id f h) :=
  moves_update fun db => SettlementFrame.modify db id f h hf hf'

omit [BooksFrame S] in
theorem refuseUnpayable_frame [IsPreorder Database S] {p : Payment} {c : Checkout} :
    Moves (OnWorld S C) (Payment.refuseUnpayable p c) :=
  .bind moves_raiseIf fun _ => .bind moves_raiseIf fun _ => .bind moves_query fun _ => moves_raiseIf

variable [TransitionFrame S] [SettlementFrame S]

theorem settleVerified_frame {p : Payment} {payId sig address : Option String} :
    Moves (OnWorld S C) (Payment.settleVerified env p payId sig address) :=
  .bind (stampPayment_frame (fun _ => rfl) fun _ => rfl) fun _ =>
    .bind (transition_frame nofun) fun _ => .bind moves_query fun _ =>
    .bind (moves_unlessTrue (.elim fun _ => transition_frame nofun)) fun _ =>
    .bind (moves_unlessTrue commitStock_frame) fun _ => .bind confirmOrder_frame fun _ =>
    .bind moves_flush fun _ => .bind (appendEvent_frame rfl) fun _ => .pure

theorem verifyPayment_frame {id : String} {payId sig address : Option String} :
    Moves (OnWorld S C) (Payment.verifyPayment env id payId sig address) :=
  .bind moves_require fun _ => .ite (fun _ => .bind confirmOrder_frame fun _ => .pure) fun _ =>
    .bind moves_raiseIf fun _ => .bind moves_require fun _ => .bind refuseUnpayable_frame fun _ =>
      .bind moves_raiseIf fun _ => settleVerified_frame

theorem failPayment_frame {id : String} {reason : Option String} :
    Moves (OnWorld S C) (Payment.failPayment env id reason) :=
  .bind moves_require fun _ => .bind (stampPayment_frame (fun _ => rfl) fun _ => rfl) fun _ =>
    .bind (transition_frame nofun) fun _ => .bind moves_query fun _ =>
    .bind (moves_unlessTrue releaseStock_frame) fun _ =>
    .bind (moves_unlessTrue (.elim fun _ => transition_frame nofun)) fun _ =>
    .bind moves_flush fun _ => .bind (appendEvent_frame rfl) fun _ => .pure

theorem settleReported_frame {id : String} {order : ProviderOrder} :
    Moves (OnWorld S C) (Worker.settleReported env id order) :=
  .ite (fun _ => .bind verifyPayment_frame fun _ => .pure) fun _ =>
    .ite (fun _ => .bind failPayment_frame fun _ => .pure) fun _ => .pure

omit [SettlementFrame S] in
theorem sweepCheckout_frame {id : String} : Moves (OnWorld S C) (Worker.sweepCheckout env id) :=
  .bind moves_query fun _ => .elim fun _ => .bind moves_flush fun _ =>
    .bind (moves_nested (.bind (transition_frame nofun) fun _ =>
      .bind releaseStock_frame fun _ => moves_flush)) fun _ => .pure

omit [SettlementFrame S] in
theorem sweepCheckouts_frame (ids : List String) :
    Moves (OnWorld S C) (Worker.sweepCheckouts env ids) := by
  induction ids with
  | nil => exact .pure
  | cons id rest ih => exact .bind sweepCheckout_frame fun _ => ih

omit [SettlementFrame S] in
theorem sweepExpiredCheckouts_frame : Moves (OnWorld S C) (Worker.sweepExpiredCheckouts env) :=
  .bind moves_query fun _ => sweepCheckouts_frame _

end

/-- A refund adds its event and asks the provider once. -/
theorem refundPayment_frame [IsPreorder Database S] {id reason : String} {amount : Option ℤ}
    {m : Option String}
    (hS : ∀ (db : Database) (e : AuditEvent), e.RefundOf id → S db (db.appendAudit e))
    (hC : ∀ calls id amount answer, C calls (calls ++ [.refund id amount answer])) :
    Moves (OnWorld S C) (Payment.refundPayment env id amount reason m) :=
  .bind moves_require fun _ => .bind moves_raiseIf fun _ => .bind moves_raiseIf fun _ =>
    .bind moves_ofAnswer fun _ => .bind moves_query fun _ => .bind moves_raiseIf fun _ =>
    .bind (moves_call fun _ _ => hC _ _ _ _) fun _ => .bind moves_ofAnswer fun _ =>
    .bind (moves_update fun db => hS db _ ⟨⟨rfl, rfl⟩, rfl, rfl, rfl⟩) fun _ => .pure

/-! #### Authorizations -/

theorem getAuthorization_frame [IsPreorder Database S] {b m id : String} :
    Moves (OnWorld S C) (Authorization.getAuthorization b m id) :=
  .bind moves_require fun _ => moves_query

omit [IsPreorder (List ProviderCall) C] in
theorem expire_returns {a : Authorization} :
    Returns (OnWorld S C) (Authorization.expire a : Op α) :=
  .bind_throw fun _ _ _ _ h => by simp at h

theorem answerExisting_returns [IsPreorder Database S] {c : Checkout} {a : Authorization} :
    Returns (OnWorld S C) (Authorization.answerExisting env c a) :=
  .ite (fun _ => .ite (fun _ => expire_returns) fun _ => .of moves_query) fun _ =>
    .ite (fun _ => .throw) fun _ => .throw

section

variable [BooksFrame S] [AuthorizationFrame S]

/-- A decision that does not block stays in the frame. -/
theorem evaluateCheckoutPolicy_frame {b m id : String} {result : PolicyDecisionResult}
    {w w' : World} (h : Policy.evaluateCheckoutPolicy env id m b w = .ok result w')
    (hdecision : result.decision ≠ .block) : OnWorld S C w w' := by
  simp only [Policy.evaluateCheckoutPolicy, bind_eq_ok, require_eq_ok, query_eq_ok, insert_eq_ok,
    flush_eq_ok, appendEvent_eq_ok, pure_eq_ok, Option.map_eq_some_iff] at h
  obtain ⟨c, _, ⟨_, rfl⟩, r, _, ⟨_, rfl⟩, _, _, ⟨_, ⟨t, ht, rfl⟩, rfl⟩, _, _, ⟨_, rfl⟩, _, _, rfl,
    rfl, rfl⟩ := h
  refine ⟨trans_of S (AuthorizationFrame.decision _ _ t hdecision ht)
    (BooksFrame.event _ _ ?_), refl_of C w.calls⟩
  have hvalue : r.decision.value ≠ Decision.block.value := by
    cases hr : r.decision with
    | block => exact absurd hr hdecision
    | allow => decide
    | requireApproval => decide
  simp [AuditEvent.routine, AuditEvent.refusal, AuditEvent.transition, Policy.evaluatedEvent, hvalue,
    Payment.refundEventType]

theorem requestAuthorization_returns [TransitionFrame S] {b m id : String} {ttl : ℤ} :
    Returns (OnWorld S C) (Authorization.requestAuthorization env b m id ttl) := by
  refine .bind (.of moves_require) fun c => .bind (.of moves_raiseIf) fun _ =>
    .bind (.of moves_raiseIf) fun _ => .bind (.of moves_query) fun existing => ?_
  cases existing with
  | some a => exact answerExisting_returns
  | none =>
      intro w v w' h
      obtain ⟨result, w₁, hevaluated, h⟩ := bind_eq_ok.1 h
      obtain ⟨_, _, hraise, h⟩ := bind_eq_ok.1 h
      obtain ⟨hdecision, rfl⟩ := raiseIf_eq_ok.1 hraise
      refine trans_of (OnWorld S C) (evaluateCheckoutPolicy_frame hevaluated hdecision)
        (Returns.bind (.of (moves_insert fun db db' hins => ?_)) (fun _ => ?_) w₁ v w' h)
      · obtain ⟨t, ht, rfl⟩ := Option.map_eq_some_iff.1 hins
        refine AuthorizationFrame.insert db _ t ?_ ht
        change (if result.decision = .allow then AuthorizationStatus.approved else .pending) ≠ .expired
        split_ifs <;> decide
      · refine .bind (.of (transition_frame ?_)) fun _ => .bind (.of moves_flush) fun _ =>
          .bind (.of (appendEvent_frame ?_)) fun _ => .of moves_query
        · split_ifs <;> decide
        · split_ifs <;> rfl

theorem approveAuthorization_returns [TransitionFrame S] {b m id : String} :
    Returns (OnWorld S C) (Authorization.approveAuthorization env b m id) :=
  .bind (.of moves_require) fun _ => .bind (.of moves_raiseIf) fun _ =>
    .ite (fun _ => .of getAuthorization_frame) fun _ => .bind (.of moves_raiseIf) fun _ =>
    .bind (.of moves_raiseIf) fun _ => .ite (fun _ => expire_returns) fun _ =>
    .bind (.of (moves_update fun db => AuthorizationFrame.status db _ _ nofun)) fun _ =>
    .bind (.of moves_query) fun _ => .bind (.of (.elim fun _ => transition_frame nofun))
      fun _ => .bind (.of moves_flush) fun _ => .bind (.of (appendEvent_frame rfl)) fun _ =>
    .of getAuthorization_frame

theorem rejectAuthorization_returns [TransitionFrame S] {b m id : String} :
    Returns (OnWorld S C) (Authorization.rejectAuthorization env b m id) :=
  .bind (.of moves_require) fun _ => .bind (.of moves_raiseIf) fun _ =>
    .ite (fun _ => .of getAuthorization_frame) fun _ => .bind (.of moves_raiseIf) fun _ =>
    .bind (.of moves_raiseIf) fun _ => .ite (fun _ => expire_returns) fun _ =>
    .bind (.of moves_query) fun _ => .bind (.of moves_raiseIf) fun _ =>
    .bind (.of (moves_update fun db => AuthorizationFrame.status db _ _ nofun)) fun _ =>
    .bind (.of (.elim fun _ => .bind (transition_frame nofun) fun _ => releaseStock_frame))
      fun _ => .bind (.of moves_flush) fun _ => .bind (.of (appendEvent_frame rfl)) fun _ =>
    .of getAuthorization_frame

end

theorem revalidateForPayment_returns [IsPreorder Database S] {id checkoutId hash m b : String} :
    Returns (OnWorld S C) (Authorization.revalidateForPayment env id checkoutId hash m b) :=
  .bind (.of moves_require) fun _ => .bind (.of moves_raiseIf) fun _ =>
    .bind (.of moves_raiseIf) fun _ => .bind (.of moves_raiseIf) fun _ =>
    .ite (fun _ => expire_returns) fun _ => .bind (.of moves_raiseIf) fun _ => .of .pure

/-! #### Creating a payment -/

section

variable [BooksFrame S] [RecordsFrame S]

theorem reuse_frame {now : Time} {hash : String} {r : IdempotencyRecord} :
    Moves (OnWorld S C) (Idempotency.reuse now hash r) :=
  .bind moves_raiseIf fun _ => .ite
    (fun _ => .bind (moves_update fun db => RecordsFrame.records db _) fun _ =>
      .bind moves_flush fun _ => .pure) fun _ =>
      .bind moves_raiseIf fun _ => .bind (appendEvent_frame rfl) fun _ => .pure

theorem acquireLock_frame {now : Time} {actorType actorId endpoint key hash : String} :
    Moves (OnWorld S C) (Idempotency.acquireLock env now actorType actorId endpoint key hash) := by
  refine .bind moves_query fun existing => ?_
  cases existing with
  | some _ => exact reuse_frame
  | none =>
      refine .bind moves_flush fun _ => .bind (moves_nested (.bind
        (moves_insert fun db db' h => ?_) fun _ => moves_flush)) fun inserted => ?_
      · obtain ⟨t, -, rfl⟩ := Option.map_eq_some_iff.1 h
        exact RecordsFrame.records db t
      cases inserted with
      | ok _ => exact .pure
      | error _ => exact .bind moves_require fun _ => reuse_frame

theorem complete_frame {now : Time} {id : String} {code : ℤ} {body : ResponseBody} :
    Moves (OnWorld S C) (Idempotency.complete now id code body) :=
  .bind (moves_update fun db => RecordsFrame.records db _) fun _ => moves_flush

omit [IsPreorder (List ProviderCall) C] [BooksFrame S] [RecordsFrame S] in
theorem abandon_returns {p : Payment} {r : Option IdempotencyRecord} {failure : Failure} :
    Returns (OnWorld S C) (Payment.abandon env p r failure : Op α) :=
  .bind_throw fun _ _ _ _ h => by simp at h

omit [RecordsFrame S] in
theorem refuseExpired_returns {c : Checkout} {m : String} :
    Returns (OnWorld S C) (Payment.refuseExpired env c m) :=
  .ite (fun _ => .bind_throw fun _ _ _ _ h => by simp at h) fun _ => .of .pure

omit [RecordsFrame S] in
/-- A price change is written and then refused, so no run that returns wrote one. -/
theorem refusePriceChange_returns {c : Checkout} {offer : Offer} {m : String} :
    Returns (OnWorld S C) (Payment.refusePriceChange env c offer m) :=
  .ite (fun _ => .bind_throw fun _ _ _ _ h => by simp at h) fun _ => .of .pure

variable [TransitionFrame S] [PaymentFrame S] [AuthorizationFrame S]

theorem initiate_frame {c : Checkout} {p : Payment} {r : Option IdempotencyRecord}
    {order : ProviderOrder} : Moves (OnWorld S C) (Payment.initiate env c p r order) :=
  .bind (moves_update fun db => AuthorizationFrame.status db _ _ nofun) fun _ =>
    .bind (modifyPayment_frame fun _ => rfl) fun _ => .bind (transition_frame nofun) fun _ =>
    .bind moves_flush fun _ => .bind (appendEvent_frame rfl) fun _ =>
    .bind (.elim fun _ => complete_frame) fun _ => .pure

variable (hC : ∀ calls request answer, C calls (calls ++ [.createOrder request answer]))

include hC

theorem charge_returns {c : Checkout} {offer : Offer} {b m id : String} {key : Option String}
    {r : Option IdempotencyRecord} :
    Returns (OnWorld S C) (Payment.charge env c offer b m id key r) := by
  refine .bind revalidateForPayment_returns fun _ =>
    .bind (.of (moves_insert fun db db' h => ?_)) fun _ =>
    .bind (.of moves_flush) fun _ =>
    .bind (.of (moves_call fun _ _ => hC _ _ _)) fun answer => ?_
  · obtain ⟨t, ht, rfl⟩ := Option.map_eq_some_iff.1 h
    exact PaymentFrame.insert db _ t ht
  · cases answer with
    | ok order => exact .of initiate_frame
    | error failure => exact abandon_returns

theorem createPayment_returns {b m id a : String} {key : Option String} :
    Returns (OnWorld S C) (Payment.createPayment env b m id a key) := by
  refine .bind (.of moves_require) fun c => .bind (.of moves_raiseIf) fun _ =>
    .bind refuseExpired_returns fun _ => .bind (.of moves_require) fun offer =>
    .bind (.of moves_raiseIf) fun _ => .bind refusePriceChange_returns fun _ => ?_
  cases given key with
  | none => exact charge_returns hC
  | some key =>
      refine .bind (.of acquireLock_frame) fun lock => ?_
      cases Payment.replay env c lock with
      | some answer => exact .of moves_ofAnswer
      | none => exact charge_returns hC

end

/-! #### What the refusing services ask of the provider

These write a refusal before they raise, so all that is said about their raised runs is
that the provider was not asked. -/

theorem expire_calls {a : Authorization} :
    Moves (OnWorld Anything C) (Authorization.expire a : Op α) :=
  .bind (moves_update fun _ => trivial) fun _ => .bind moves_flush fun _ => .throw

theorem evaluateCheckoutPolicy_calls {b m id : String} :
    Moves (OnWorld Anything C) (Policy.evaluateCheckoutPolicy env id m b) :=
  .bind moves_require fun _ => .bind moves_query fun _ =>
    .bind (moves_insert fun _ _ _ => trivial) fun _ => .bind moves_flush fun _ =>
    .bind (moves_update fun _ => trivial) fun _ => .pure

theorem answerExisting_calls {c : Checkout} {a : Authorization} :
    Moves (OnWorld Anything C) (Authorization.answerExisting env c a) :=
  .ite (fun _ => .ite (fun _ => expire_calls) fun _ => moves_query) fun _ =>
    .ite (fun _ => .throw) fun _ => .throw

theorem requestAuthorization_calls {b m id : String} {ttl : ℤ} :
    Moves (OnWorld Anything C) (Authorization.requestAuthorization env b m id ttl) := by
  refine .bind moves_require fun c => .bind moves_raiseIf fun _ => .bind moves_raiseIf fun _ =>
    .bind moves_query fun existing => ?_
  cases existing with
  | some a => exact answerExisting_calls
  | none =>
      refine .bind evaluateCheckoutPolicy_calls fun result => .bind moves_raiseIf fun _ =>
        .bind (moves_insert fun _ _ _ => trivial) fun _ => .bind (transition_frame ?_) fun _ =>
        .bind moves_flush fun _ => .bind (moves_update fun _ => trivial) fun _ => moves_query
      split_ifs <;> decide

theorem approveAuthorization_calls {b m id : String} :
    Moves (OnWorld Anything C) (Authorization.approveAuthorization env b m id) :=
  .bind moves_require fun _ => .bind moves_raiseIf fun _ =>
    .ite (fun _ => getAuthorization_frame) fun _ => .bind moves_raiseIf fun _ =>
    .bind moves_raiseIf fun _ => .ite (fun _ => expire_calls) fun _ =>
    .bind (moves_update fun _ => trivial) fun _ => .bind moves_query fun _ =>
    .bind (.elim fun _ => transition_frame nofun) fun _ => .bind moves_flush fun _ =>
    .bind (moves_update fun _ => trivial) fun _ => getAuthorization_frame

theorem rejectAuthorization_calls {b m id : String} :
    Moves (OnWorld Anything C) (Authorization.rejectAuthorization env b m id) :=
  .bind moves_require fun _ => .bind moves_raiseIf fun _ =>
    .ite (fun _ => getAuthorization_frame) fun _ => .bind moves_raiseIf fun _ =>
    .bind moves_raiseIf fun _ => .ite (fun _ => expire_calls) fun _ =>
    .bind moves_query fun _ => .bind moves_raiseIf fun _ =>
    .bind (moves_update fun _ => trivial) fun _ =>
    .bind (.elim fun _ => .bind (transition_frame nofun) fun _ => releaseStock_frame) fun _ =>
    .bind moves_flush fun _ => .bind (moves_update fun _ => trivial) fun _ => getAuthorization_frame

theorem revalidateForPayment_calls {id checkoutId hash m b : String} :
    Moves (OnWorld Anything C) (Authorization.revalidateForPayment env id checkoutId hash m b) :=
  .bind moves_require fun _ => .bind moves_raiseIf fun _ => .bind moves_raiseIf fun _ =>
    .bind moves_raiseIf fun _ => .ite (fun _ => expire_calls) fun _ =>
    .bind moves_raiseIf fun _ => .pure

theorem refuseExpired_calls {c : Checkout} {m : String} :
    Moves (OnWorld Anything C) (Payment.refuseExpired env c m) :=
  .ite (fun _ => .bind (transition_frame nofun) fun _ => .bind moves_flush fun _ => .throw)
    fun _ => .pure

theorem transition_calls {aggregate : Aggregate} {event : TransitionEvent}
    {context : TransitionContext} :
    Moves (OnWorld Anything C) (transition aggregate event context) := by
  refine .bind moves_ofAnswer fun rule => .bind (.tryWrite fun w w' h => ?_) fun _ => ?_
  · obtain ⟨db, -, rfl⟩ := Option.map_eq_some_iff.1 h
    exact ⟨trivial, refl_of C w.calls⟩
  · unfold appendTransitionEvent appendEvent
    exact moves_update fun _ => trivial

theorem refusePriceChange_calls {c : Checkout} {offer : Offer} {m : String} :
    Moves (OnWorld Anything C) (Payment.refusePriceChange env c offer m) :=
  .ite (fun _ => .bind transition_calls fun _ => .bind (moves_update fun _ => trivial) fun _ =>
    .bind moves_flush fun _ => .throw) fun _ => .pure

theorem abandon_calls {p : Payment} {r : Option IdempotencyRecord} {failure : Failure} :
    Moves (OnWorld Anything C) (Payment.abandon env p r failure : Op α) :=
  .bind transition_calls fun _ => .bind (.elim fun _ =>
    .bind (moves_update fun _ => trivial) fun _ => moves_flush) fun _ =>
    .bind moves_flush fun _ => .throw

/-- **What creating a payment asks of the provider**: an order for the checkout, under the
caller's key. -/
theorem createPayment_calls {b m id a : String} {key : Option String}
    (hC : ∀ calls (c : Checkout) (p : Payment) answer, c.checkoutId = id → c.merchantId = m →
      c.buyerId = b → p.idempotencyKey = key →
        C calls (calls ++ [.createOrder (Payment.orderRequest c p) answer])) :
    Moves (OnWorld Anything C) (Payment.createPayment env b m id a key) := by
  refine .bind_of moves_require fun w c w' hc => ?_
  have hrow := (Table.first_eq_some (require_eq_ok.1 hc).1).2
  simp only [Bool.and_eq_true, beq_iff_eq] at hrow
  have hcharge : ∀ (offer : Offer) (r : Option IdempotencyRecord),
      Moves (OnWorld Anything C) (Payment.charge env c offer b m a key r) := fun offer r => by
    refine .bind revalidateForPayment_calls fun _ => .bind (moves_insert fun _ _ _ => trivial) fun _ =>
      .bind moves_flush fun _ =>
      .bind (moves_call fun _ _ => hC _ _ _ _ hrow.1.1 hrow.1.2 hrow.2 rfl) fun answer => ?_
    cases answer with
    | ok order => exact initiate_frame
    | error failure => exact abandon_calls
  refine .bind moves_raiseIf fun _ => .bind refuseExpired_calls fun _ => .bind moves_require fun offer =>
    .bind moves_raiseIf fun _ => .bind refusePriceChange_calls fun _ => ?_
  cases given key with
  | none => exact hcharge offer none
  | some k =>
      refine .bind acquireLock_frame fun lock => ?_
      cases Payment.replay env c lock with
      | some answer => exact moves_ofAnswer
      | none => exact hcharge offer _

end
end AgenticCommerce
