/-
# Stock and orders across the system

The inventory service conserves stock by itself (`Inventory.Conservation`); here it is
conserved by everything that calls it.  Only its functions write counters and holds,
and only `insertRow` writes orders, so an operation moves these tables along any relation
that those do and that the writes to the other tables do not notice (`BookingFrame`,
`Operation.bookings_of`).
-/

import AgenticCommerce.Inventory.Stock
import AgenticCommerce.Lifecycle.Runs
import AgenticCommerce.Payments.Delivery

namespace AgenticCommerce

open Relational Work Stock

/-! ### Frames of stock and orders -/

/-- The stores have the same counters, holds and orders. -/
def Database.SameBookings (db db' : Database) : Prop :=
  db'.stock = db.stock ∧ db'.orders = db.orders

/-- Closed under what does not touch stock or orders, under the ends of holds, and under new
orders.  The end of a hold can be refused inside a callback that goes on, so the runs that
raise count as well. -/
class BookingFrame (S : Database → Database → Prop) : Prop extends IsPreorder Database S where
  same : ∀ {db db' : Database}, db.SameBookings db' → S db db'
  release : ∀ env id m, Moves (OnWorld S Anything) (Inventory.releaseStock env id m)
  commit : ∀ env id m, Moves (OnWorld S Anything) (Inventory.commitStock env id m)
  order : ∀ {db : Database} {o : Order} {t}, db.orders.insert? o = some t →
    S db { db with orders := t }

section

variable {env : Env} {w : World} {α : Type} {S : Database → Database → Prop} [BookingFrame S]

instance bookingFrame_letterFrame : LetterFrame S where
  events _ _ := BookingFrame.same ⟨rfl, rfl⟩
  letter _ _ _ _ _ _ := BookingFrame.same ⟨rfl, rfl⟩

/-! #### Writes to other tables -/

theorem books_update {f : Database → Database} (hf : ∀ db : Database, db.SameBookings (f db)) :
    Moves (OnWorld S Anything) (update f) :=
  moves_update fun db => BookingFrame.same (hf db)

theorem books_insert {t : Database → Option α} {f : Database → α → Database}
    (hf : ∀ (db : Database) x, db.SameBookings (f db x)) :
    Moves (OnWorld S Anything) (insert fun db => (t db).map (f db)) := by
  refine moves_insert fun db db' h => ?_
  obtain ⟨x, -, rfl⟩ := Option.map_eq_some_iff.1 h
  exact BookingFrame.same (hf db x)

theorem books_event {e : AuditEvent} : Moves (OnWorld S Anything) (appendEvent e) :=
  books_update fun _ => ⟨rfl, rfl⟩

theorem setStatus_sameBookings {db db' : Database} {aggregate : Aggregate} {target : RuleState}
    (h : db.setStatus aggregate target = some db') : db.SameBookings db' := by
  cases aggregate with
  | checkout c =>
      obtain ⟨s, -, rfl⟩ := Option.map_eq_some_iff.1 h
      exact ⟨rfl, rfl⟩
  | payment p =>
      obtain ⟨s, -, rfl⟩ := Option.map_eq_some_iff.1 h
      exact ⟨rfl, rfl⟩

theorem books_transition {aggregate : Aggregate} {event : TransitionEvent}
    {context : TransitionContext} :
    Moves (OnWorld S Anything) (transition aggregate event context) := by
  refine .bind moves_ofAnswer fun rule => .bind (.tryWrite fun w w' h => ?_) fun _ => books_event
  obtain ⟨db, hdb, rfl⟩ := Option.map_eq_some_iff.1 h
  exact ⟨BookingFrame.same (setStatus_sameBookings hdb), trivial⟩

/-! #### Checkouts -/

/-- The hold of a new checkout is asked for apart: a frame may be closed under some holds
only. -/
theorem createCheckout_books {b m offerId : String} {quantity ttl : ℤ}
    (hreserve : Returns (OnWorld S Anything)
      (Inventory.reserveStock env offerId (env.newId "chk") quantity)) :
    Returns (OnWorld S Anything) (Checkout.createCheckout env b m offerId quantity ttl) := by
  have hbuyer : Moves (OnWorld S Anything) (Checkout.ensureBuyer b m) := by
    refine .bind moves_query fun found => ?_
    cases found with
    | some _ => exact .pure
    | none => exact .bind (books_insert fun _ _ => ⟨rfl, rfl⟩) fun _ => moves_flush
  exact .bind (.of getOfferById_frame) fun offer => .bind (.of moves_raiseIf) fun _ =>
    .bind (.of moves_raiseIf) fun _ => .bind (.of moves_raiseIf) fun _ =>
    .bind (.of hbuyer) fun _ =>
    .bind (.of (books_insert fun _ _ => ⟨rfl, rfl⟩)) fun _ =>
    .bind (.of (books_insert fun _ _ => ⟨rfl, rfl⟩)) fun _ => .bind (.of moves_flush) fun _ =>
    .bind hreserve fun _ => .bind (.of books_event) fun _ => .of .pure

theorem cancelCheckout_books {b m id : String} :
    Moves (OnWorld S Anything) (Checkout.cancelCheckout env b m id) :=
  .bind moves_require fun _ => .bind moves_require fun _ => .ite
    (fun _ => .bind moves_query fun _ => .pure) fun _ => .bind books_transition fun _ =>
      .bind (BookingFrame.release _ _ _) fun _ => .bind moves_flush fun _ =>
      .bind moves_query fun _ => .bind moves_require fun _ => .pure

theorem sweepCheckout_books {id : String} :
    Moves (OnWorld S Anything) (Worker.sweepCheckout env id) :=
  .bind moves_query fun _ => .elim fun _ => .bind moves_flush fun _ =>
    .bind (moves_nested (.bind books_transition fun _ =>
      .bind (BookingFrame.release _ _ _) fun _ => moves_flush)) fun _ => .pure

theorem sweepExpiredCheckouts_books :
    Moves (OnWorld S Anything) (Worker.sweepExpiredCheckouts env) := by
  refine .bind moves_query fun due => ?_
  induction due with
  | nil => exact .pure
  | cons id rest ih => exact .bind sweepCheckout_books fun _ => ih

/-! #### Orders and payments -/

theorem confirmOrder_books {id paymentId : String} {address : Option String} :
    Moves (OnWorld S Anything) (Order.confirmOrder env id paymentId address) := by
  have hinsert : ∀ (c : Checkout) (o : Order),
      Moves (OnWorld S Anything) (Order.insertRow c o) := by
    intro c o
    refine .bind moves_flush fun _ => .bind (moves_nested (.bind (moves_insert fun db db' h => ?_)
      fun _ => moves_flush)) fun inserted => ?_
    · obtain ⟨t, ht, rfl⟩ := Option.map_eq_some_iff.1 h
      exact BookingFrame.order ht
    · cases inserted with
      | ok _ => exact .bind books_event fun _ => .pure
      | error _ =>
          refine .bind moves_query fun existing => ?_
          cases existing with
          | some _ => exact .ite (fun _ => .pure) fun _ => .throw
          | none => exact .throw
  refine .bind moves_query fun existing => ?_
  cases existing with
  | some _ => exact .ite (fun _ => .pure) fun _ => .throw
  | none =>
      refine .bind moves_query fun paid => ?_
      cases paid with
      | some _ => exact .pure
      | none => exact .bind moves_require fun _ => .bind moves_require fun _ => hinsert _ _

theorem verifyPayment_books {id : String} {payId sig address : Option String} :
    Moves (OnWorld S Anything) (Payment.verifyPayment env id payId sig address) := by
  have hsettle : ∀ p, Moves (OnWorld S Anything) (Payment.settleVerified env p payId sig address) :=
    fun p => .bind (books_update fun _ => ⟨rfl, rfl⟩) fun _ => .bind books_transition fun _ =>
      .bind moves_query fun _ => .bind (moves_unlessTrue (.elim fun _ => books_transition)) fun _ =>
      .bind (moves_unlessTrue (BookingFrame.commit _ _ _)) fun _ =>
      .bind confirmOrder_books fun _ => .bind moves_flush fun _ => .bind books_event fun _ => .pure
  exact .bind moves_require fun _ => .ite
    (fun _ => .bind confirmOrder_books fun _ => .pure) fun _ => .bind moves_raiseIf fun _ =>
    .bind moves_require fun _ => .bind refuseUnpayable_frame fun _ =>
      .bind moves_raiseIf fun _ => hsettle _

theorem failPayment_books {id : String} {reason : Option String} :
    Moves (OnWorld S Anything) (Payment.failPayment env id reason) :=
  .bind moves_require fun _ => .bind (books_update fun _ => ⟨rfl, rfl⟩) fun _ =>
    .bind books_transition fun _ => .bind moves_query fun _ =>
    .bind (moves_unlessTrue (BookingFrame.release _ _ _)) fun _ =>
    .bind (moves_unlessTrue (.elim fun _ => books_transition)) fun _ =>
    .bind moves_flush fun _ => .bind books_event fun _ => .pure

theorem settleReported_books {id : String} {order : ProviderOrder} :
    Moves (OnWorld S Anything) (Worker.settleReported env id order) :=
  .ite (fun _ => .bind verifyPayment_books fun _ => .pure) fun _ =>
    .ite (fun _ => .bind failPayment_books fun _ => .pure) fun _ => .pure

/-- A callback that is committed after a refusal keeps what its handler did. -/
theorem processWebhook_books {d : Webhook.Delivery} :
    Moves (OnWorld S Anything) (Webhook.processWebhook env d) :=
  Webhook.processWebhook_moves fun _ _ _ =>
    .ite (fun _ => .bind moves_ofAnswer fun _ => .bind moves_ofAnswer fun _ =>
      .bind verifyPayment_books fun _ => .pure) fun _ => .bind moves_ofAnswer fun _ =>
        .bind failPayment_books fun _ => .pure

/-! #### Creating a payment -/

theorem reuse_books {now : Time} {hash : String} {r : IdempotencyRecord} :
    Moves (OnWorld S Anything) (Idempotency.reuse now hash r) :=
  .bind moves_raiseIf fun _ => .ite
    (fun _ => .bind (books_update fun _ => ⟨rfl, rfl⟩) fun _ => .bind moves_flush fun _ => .pure)
    fun _ => .bind moves_raiseIf fun _ => .bind books_event fun _ => .pure

theorem acquireLock_books {now : Time} {actorType actorId endpoint key hash : String} :
    Moves (OnWorld S Anything)
      (Idempotency.acquireLock env now actorType actorId endpoint key hash) := by
  refine .bind moves_query fun existing => ?_
  cases existing with
  | some _ => exact reuse_books
  | none =>
      refine .bind moves_flush fun _ => .bind (moves_nested (.bind
        (books_insert fun _ _ => ⟨rfl, rfl⟩) fun _ => moves_flush)) fun inserted => ?_
      cases inserted with
      | ok _ => exact .pure
      | error _ => exact .bind moves_require fun _ => reuse_books

theorem revalidateForPayment_books {id checkoutId hash m b : String} :
    Moves (OnWorld S Anything) (Authorization.revalidateForPayment env id checkoutId hash m b) :=
  .bind moves_require fun _ => .bind moves_raiseIf fun _ => .bind moves_raiseIf fun _ =>
    .bind moves_raiseIf fun _ => .ite
    (fun _ => .bind (books_update fun _ => ⟨rfl, rfl⟩) fun _ => .bind moves_flush fun _ => .throw)
    fun _ => .bind moves_raiseIf fun _ => .pure

theorem charge_books {c : Checkout} {offer : Offer} {b m id : String} {key : Option String}
    {r : Option IdempotencyRecord} :
    Moves (OnWorld S Anything) (Payment.charge env c offer b m id key r) := by
  -- the record of the key is closed in both outcomes
  have hrecord : ∀ f : IdempotencyRecord → Database → Database,
      (∀ x db, Database.SameBookings db (f x db)) →
        Moves (OnWorld S Anything) (r.elim (pure ()) fun x => do update (f x); flush) :=
    fun f hf => .elim fun x => .bind (books_update (hf x)) fun _ => moves_flush
  refine .bind revalidateForPayment_books fun auth =>
    .bind (books_insert fun _ _ => ⟨rfl, rfl⟩) fun _ => .bind moves_flush fun _ =>
    .bind (moves_call fun _ _ => trivial) fun answer => ?_
  cases answer with
  | ok order =>
      exact .bind (books_update fun _ => ⟨rfl, rfl⟩) fun _ =>
        .bind (books_update fun _ => ⟨rfl, rfl⟩) fun _ => .bind books_transition fun _ =>
        .bind moves_flush fun _ => .bind books_event fun _ =>
        .bind (hrecord _ fun _ _ => ⟨rfl, rfl⟩) fun _ => .pure
  | error failure =>
      exact .bind books_transition fun _ => .bind (hrecord _ fun _ _ => ⟨rfl, rfl⟩) fun _ =>
        .bind moves_flush fun _ => .throw

theorem createPayment_books {b m id a : String} {key : Option String} :
    Moves (OnWorld S Anything) (Payment.createPayment env b m id a key) := by
  refine .bind moves_require fun c => .bind moves_raiseIf fun _ =>
    .bind (.ite (fun _ => .bind books_transition fun _ => .bind moves_flush fun _ => .throw)
      fun _ => .pure) fun _ => .bind moves_require fun offer => .bind moves_raiseIf fun _ =>
    .bind (.ite (fun _ => .bind books_transition fun _ => .bind books_event fun _ =>
      .bind moves_flush fun _ => .throw) fun _ => .pure) fun _ => ?_
  cases given key with
  | none => exact charge_books
  | some key =>
      refine .bind acquireLock_books fun lock => ?_
      cases Payment.replay env c lock with
      | some answer => exact moves_ofAnswer
      | none => exact charge_books

theorem refundPayment_books {id reason : String} {amount : Option ℤ} {m : Option String} :
    Moves (OnWorld S Anything) (Payment.refundPayment env id amount reason m) :=
  refundPayment_frame (fun _ _ _ => BookingFrame.same ⟨rfl, rfl⟩) fun _ _ _ _ => trivial

/-! #### Authorizations -/

theorem requestAuthorization_books {b m id : String} {ttl : ℤ} :
    Moves (OnWorld S Anything) (Authorization.requestAuthorization env b m id ttl) := by
  have hexpire : ∀ a, Moves (OnWorld S Anything) (Authorization.expire a : Op AuthorizationV1) :=
    fun _ => .bind (books_update fun _ => ⟨rfl, rfl⟩) fun _ => .bind moves_flush fun _ => .throw
  have hpolicy : Moves (OnWorld S Anything) (Policy.evaluateCheckoutPolicy env id m b) :=
    .bind moves_require fun _ => .bind moves_query fun _ =>
      .bind (books_insert fun _ _ => ⟨rfl, rfl⟩) fun _ => .bind moves_flush fun _ =>
      .bind books_event fun _ => .pure
  refine .bind moves_require fun c => .bind moves_raiseIf fun _ => .bind moves_raiseIf fun _ =>
    .bind moves_query fun existing => ?_
  cases existing with
  | some a =>
      exact .ite (fun _ => .ite (fun _ => hexpire a) fun _ => moves_query) fun _ =>
        .ite (fun _ => .throw) fun _ => .throw
  | none =>
      exact .bind hpolicy fun result => .bind moves_raiseIf fun _ =>
        .bind (books_insert fun _ _ => ⟨rfl, rfl⟩) fun _ => .bind books_transition fun _ =>
        .bind moves_flush fun _ => .bind books_event fun _ => moves_query

theorem approveAuthorization_books {b m id : String} :
    Moves (OnWorld S Anything) (Authorization.approveAuthorization env b m id) :=
  .bind moves_require fun _ => .bind moves_raiseIf fun _ =>
    .ite (fun _ => getAuthorization_frame) fun _ => .bind moves_raiseIf fun _ =>
    .bind moves_raiseIf fun _ => .ite (fun _ => .bind (books_update fun _ => ⟨rfl, rfl⟩) fun _ =>
      .bind moves_flush fun _ => .throw) fun _ =>
    .bind (books_update fun _ => ⟨rfl, rfl⟩) fun _ => .bind moves_query fun _ =>
    .bind (.elim fun _ => books_transition) fun _ => .bind moves_flush fun _ =>
    .bind books_event fun _ => getAuthorization_frame

theorem rejectAuthorization_books {b m id : String} :
    Moves (OnWorld S Anything) (Authorization.rejectAuthorization env b m id) :=
  .bind moves_require fun _ => .bind moves_raiseIf fun _ =>
    .ite (fun _ => getAuthorization_frame) fun _ => .bind moves_raiseIf fun _ =>
    .bind moves_raiseIf fun _ => .ite (fun _ => .bind (books_update fun _ => ⟨rfl, rfl⟩) fun _ =>
      .bind moves_flush fun _ => .throw) fun _ =>
    .bind moves_query fun _ => .bind moves_raiseIf fun _ =>
    .bind (books_update fun _ => ⟨rfl, rfl⟩) fun _ =>
    .bind (.elim fun _ => .bind books_transition fun _ => BookingFrame.release _ _ _) fun _ =>
    .bind moves_flush fun _ => .bind books_event fun _ => getAuthorization_frame

/-! #### The operations -/

/-- **Every operation stays in a frame** of stock and orders, if the hold of a new checkout
and an import do. -/
theorem Operation.bookings_of (op : Operation)
    (hreserve : ∀ b m o q ttl, op = .createCheckout b m o q ttl →
      Returns (OnWorld S Anything) (Inventory.reserveStock env o (env.newId "chk") q))
    (himport : ∀ o q, op = .importInventory o q →
      Returns (OnWorld S Anything) (Inventory.importInventory o q)) :
    S w.db (op.run env w).db := by
  have lift : ∀ {α : Type} (m : Op α), Returns (OnWorld S Anything) m →
      S w.db (request m w).db := fun m hm => request_moves hm w
  cases op with
  | createCheckout b m o q ttl => exact lift _ (createCheckout_books (hreserve b m o q ttl rfl))
  | cancelCheckout => exact lift _ (.of cancelCheckout_books)
  | requestAuthorization => exact lift _ (.of requestAuthorization_books)
  | approveAuthorization => exact lift _ (.of approveAuthorization_books)
  | rejectAuthorization => exact lift _ (.of rejectAuthorization_books)
  | createPayment => exact lift _ (.of createPayment_books)
  | verifyPayment => exact lift _ (.of verifyPayment_books)
  | failPayment => exact lift _ (.of failPayment_books)
  | refundPayment => exact lift _ (.of refundPayment_books)
  | processWebhook => exact lift _ (.of processWebhook_books)
  | sweepExpiredCheckouts => exact lift _ (.of sweepExpiredCheckouts_books)
  | pollPayment => exact lift _ (.of settleReported_books)
  | importInventory o q => exact lift _ (himport o q rfl)
  | catalog => exact BookingFrame.same ⟨rfl, rfl⟩

/-! #### Frames by the writes -/

/-- A hold is put in behind a counter that was raised. -/
theorem reserveStock_of_writes {offerId id : String} {quantity : ℤ} {m : Option String}
    (counters : ∀ (db : Database) inventory, S db { db with inventory })
    (held : ∀ {db : Database} {r : Reservation} {t},
      r.checkoutId = id ∧ r.offerId = offerId ∧ r.quantity = quantity →
        db.reservations.insert? r = some t → S db { db with reservations := t }) :
    Returns (OnWorld S Anything) (Inventory.reserveStock env offerId id quantity m) := by
  refine .bind (.of moves_raiseIf) fun _ => .bind (.of ?_) fun _ => .bind (.of moves_ofAnswer)
    fun _ => .bind (.of (moves_insert fun db db' h => ?_)) fun _ => .bind (.of moves_flush) fun _ =>
    .bind (.of (.bind moves_query fun _ => books_event)) fun _ => .of .pure
  · exact .bind moves_query fun _ => .bind (moves_update fun db => counters db _) fun _ => .pure
  · obtain ⟨t, ht, rfl⟩ := Option.map_eq_some_iff.1 h
    exact held ⟨rfl, rfl, rfl⟩ ht

omit [BookingFrame S] in
/-- An import writes the counter of its offer. -/
theorem importInventory_of_writes [IsPreorder Database S] {offerId : String} {imported : ℤ}
    (counters : ∀ (db : Database) inventory, S db { db with inventory }) :
    Moves (OnWorld S Anything) (Inventory.importInventory offerId imported) := by
  refine .bind moves_query fun existing => ?_
  cases existing with
  | none =>
      refine .bind moves_raiseIf fun _ => moves_insert fun db db' h => ?_
      obtain ⟨t, -, rfl⟩ := Option.map_eq_some_iff.1 h
      exact counters db t
  | some _ => exact moves_update fun db => counters db _

omit [BookingFrame S] in
/-- A relation that what `settle` writes stays in, row by row: the counters in any way, and
holds that end for what they were for. -/
theorem BookingFrame.of_writes [IsPreorder Database S]
    (same : ∀ {db db' : Database}, db.SameBookings db' → S db db')
    (counters : ∀ (db : Database) inventory, S db { db with inventory })
    (ended : ∀ (db : Database) id leave hleave, (∀ r : Reservation,
      (leave r).checkoutId = r.checkoutId ∧ (leave r).offerId = r.offerId ∧
        (leave r).quantity = r.quantity) →
      S db { db with
        reservations := db.reservations.modify
          (fun r => r.reservationId == id && r.status == .held) leave hleave })
    (order : ∀ {db : Database} {o : Order} {t}, db.orders.insert? o = some t →
      S db { db with orders := t }) : BookingFrame S := by
  have hsettle : ∀ {id : String} {leave : Reservation → Reservation}
      {take : ℤ → Inventory → Inventory} {hleave : ∀ r, Keyed.key (leave r) = Keyed.key r}
      {htake : ∀ q i, Keyed.key (take q i) = Keyed.key i}, (∀ r : Reservation,
        (leave r).checkoutId = r.checkoutId ∧ (leave r).offerId = r.offerId ∧
          (leave r).quantity = r.quantity) →
      Moves (OnWorld S Anything) (Inventory.settle id leave take hleave htake) := by
    intro id leave take hleave htake hkeeps
    refine .of_at fun w => .bind (moves_query.at w) fun found t hfound => ?_
    obtain ⟨rfl, rfl⟩ := query_eq_ok.1 hfound
    have hended : MovesAt (OnWorld S Anything) w (update fun db => { db with
        reservations := (w.db.reservations.updateReturning
          (fun r => r.reservationId == id && r.status == .held) leave hleave).2 }) := by
      constructor
      · intro u w' h
        obtain rfl := update_eq_ok.1 h
        exact ⟨ended w.db id leave hleave hkeeps, trivial⟩
      · intro e w' h
        exact (update_eq_error.1 h).elim
    refine .bind hended fun _ t _ => Moves.at ?_ t
    cases (w.db.reservations.updateReturning
        (fun r => r.reservationId == id && r.status == .held) leave hleave).1 with
    | none => exact .pure
    | some r =>
        exact .bind moves_query fun _ => .bind (moves_update fun db => counters db _) fun _ => .pure
  have haudit : ∀ e, Moves (OnWorld S Anything) (appendEvent e) := fun e =>
    moves_update fun db => same ⟨rfl, rfl⟩
  have hevent : ∀ {offerId id : String} {m : Option String} {metadata : List (String × Json)},
      Moves (OnWorld S Anything) (Inventory.appendStockEvent offerId id m metadata) :=
    .bind moves_query fun _ => haudit _
  refine ⟨same, fun env id m => ?_, fun env id m => ?_, order⟩
  · refine .bind (.bind moves_query fun _ => moves_raiseIf) fun _ =>
      .bind moves_query fun found => ?_
    cases found with
    | none => exact .pure
    | some r =>
        exact .ite (fun _ => .pure) fun _ =>
          .bind (hsettle fun _ => ⟨rfl, rfl, rfl⟩) fun _ => moves_unlessTrue hevent
  · exact .bind (.bind moves_query fun _ => moves_raiseIf) fun _ => .bind moves_require fun r =>
      .ite (fun _ => .pure) fun _ => .bind moves_raiseIf fun _ =>
      .bind (hsettle fun _ => ⟨rfl, rfl, rfl⟩) fun _ => .bind moves_raiseIf fun _ => hevent

end

end AgenticCommerce
