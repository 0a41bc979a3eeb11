/-
# The sweep, row by row

A sweep goes through the overdue checkouts in one transaction, each inside a savepoint of
its own.  `Faults` says at which rows a statement raises, and what the statements before
it had done by then; `sweepFaulty` is the sweep with such faults, and the sweep without
faults is `sweepExpiredCheckouts`.  What it comes to is written down at once, for all rows
together (`Database.expireRows`): the rows that succeed are expired, their holds released
and counted back, the events recorded, and nothing else changes (`sweep_isolation`).

The savepoints of the session nest in one another as long as none is released, and the
rollback of the innermost one takes back what its own row did.
-/

import AgenticCommerce.Inventory.Conservation
import AgenticCommerce.Lifecycle.Expiry
import AgenticCommerce.Lifecycle.Ledger

namespace AgenticCommerce

open Relational Work

instance (s : CheckoutStatus) : Decidable s.Live :=
  inferInstanceAs (Decidable (s = .created ∨ s = .authorizationPending ∨ s = .authorized))

/-! ### A sweep with faults -/

namespace Worker

/-- What goes wrong in a sweep: the checkouts at which a statement raises, each with what
the statements before it had done to the store, and with what is raised. -/
abbrev Faults := String → Option ((Database → Database) × Failure)

/-- The expiry of a checkout, in which a statement may raise. -/
def faultyItem (env : Env) (faults : Faults) (c : Checkout) : Op Unit :=
  match faults c.checkoutId with
  | none => expireItem env c
  | some (damage, e) => do
      update damage
      ofAnswer (.error e)

/-- One checkout of a sweep, inside its savepoint. -/
def sweepCheckoutBy (item : Checkout → Op Unit) (checkoutId : String) : Op Unit := do
  let checkout ← query fun db => db.checkoutById checkoutId
  checkout.elim (pure ()) fun c => do
    flush
    let _ ← nested (item c)
    pure ()

/-- The items of a sweep, one after the other. -/
def sweepCheckoutsBy (item : Checkout → Op Unit) : List String → Op Unit
  | [] => pure ()
  | checkoutId :: rest => do
      sweepCheckoutBy item checkoutId
      sweepCheckoutsBy item rest

/-- `_sweep_expired_checkouts`, in which statements may raise. -/
def sweepFaulty (env : Env) (faults : Faults) : Op Unit := do
  let due ← query (expiredCheckouts env.now)
  sweepCheckoutsBy (faultyItem env faults) due

/-- **Without faults it is the sweep.** -/
theorem sweepFaulty_none (env : Env) : sweepFaulty env (fun _ => none) =
    sweepExpiredCheckouts env := by
  have hitems : ∀ ids, sweepCheckoutsBy (faultyItem env fun _ => none) ids =
      sweepCheckouts env ids := by
    intro ids
    induction ids with
    | nil => rfl
    | cons id rest ih =>
        rw [sweepCheckoutsBy, sweepCheckouts, ih]
        rfl
  unfold sweepFaulty sweepExpiredCheckouts
  simp only [hitems]

/-- A row succeeds when none of its statements raises: there is no fault at it, and the
transition is legal. -/
def succeeds (faults : Faults) (db : Database) (checkoutId : String) : Bool :=
  (faults checkoutId).isNone && (db.checkoutById checkoutId).any fun c => decide c.status.Live

/-! ### What a sweep comes to -/

/-- The event of the expiry of a checkout. -/
def expiryEvent (c : Checkout) : AuditEvent :=
  { merchantId := some c.merchantId, actorType := "system", actorId := some "worker_sweep",
    eventType := TransitionEvent.expireCheckout.value, aggregateType := "checkout",
    aggregateId := c.checkoutId,
    metadata := [("from_status", .str c.status.value),
      ("to_status", .str CheckoutStatus.expired.value)] }

/-- The event of the release of the hold of a merchant's checkout. -/
def releaseEvent (merchantId checkoutId : String) (r : Reservation) : AuditEvent :=
  { merchantId := some merchantId, actorType := "system", actorId := none,
    eventType := "INVENTORY_CHANGE_DETECTED", aggregateType := "inventory",
    aggregateId := r.offerId, metadata := Inventory.settledMetadata "release" checkoutId r }

end Worker

namespace Database

/-- The hold of a checkout, if its reservation is held. -/
def holdOf (db : Database) (checkoutId : String) : Option Reservation :=
  (Inventory.getReservation checkoutId db).filter fun r => r.status == .held

/-- What the holds of the checkouts on the list come to, of one offer. -/
def heldBy (db : Database) (weigh : Reservation → ℤ) (ids : List String) (offerId : String) : ℤ :=
  (ids.map fun id => (db.holdOf id).elim 0 fun r => if r.offerId = offerId then weigh r else 0).sum

/-- The events of the expiry of a checkout, as the ledger stores them. -/
def rowEvents (db : Database) (checkoutId : String) : List AuditEvent :=
  (db.checkoutById checkoutId).elim [] fun c =>
    (Worker.expiryEvent c).stored ::
      (db.holdOf checkoutId).toList.map fun r =>
        (Worker.releaseEvent c.merchantId c.checkoutId r).stored

theorem key_release (now : Time) (r : Reservation) :
    Keyed.key (r.release now) = Keyed.key r := by
  unfold Reservation.release
  split <;> rfl

/-- **The checkouts on the list expired**: their statuses set, their holds released and
counted back, and the events of each recorded. -/
def expireRows (env : Env) (ids : List String) (db : Database) : Database :=
  { db with
    checkouts := db.checkouts.modify (fun c => ids.contains c.checkoutId)
      (fun c => { c with status := .expired }) fun _ => rfl
    reservations := db.reservations.modify (fun r => ids.contains r.checkoutId)
      (fun r => r.release env.now) (key_release env.now)
    inventory := db.inventory.modify (fun _ => true)
      (fun i => { i with
        reservedQuantity := i.reservedQuantity - db.heldBy Reservation.quantity ids i.offerId,
        version := i.version + db.heldBy (fun _ => 1) ids i.offerId })
      fun _ => rfl
    auditEvents := db.auditEvents ++ ids.flatMap db.rowEvents }

section

variable {db : Database} {env : Env} {ids : List String} {id : String}

theorem checkoutById_expireRows : (db.expireRows env ids).checkoutById id =
    (db.checkoutById id).map fun c =>
      if id ∈ ids then { c with status := .expired } else c := by
  have hsame := Table.first_modify db.checkouts (fun c => ids.contains c.checkoutId)
    (fun c => { c with status := .expired }) (fun _ => rfl)
    (q := fun c : Checkout => c.checkoutId == id) fun _ => rfl
  refine hsame.trans (Option.map_congr fun c hc => ?_)
  have hid : c.checkoutId = id := beq_iff_eq.1 (Table.first_eq_some hc).2
  simp only [List.contains_eq_mem, decide_eq_true_eq, hid]

theorem getReservation_expireRows :
    Inventory.getReservation id (db.expireRows env ids) =
      (Inventory.getReservation id db).map fun r =>
        if id ∈ ids then r.release env.now else r := by
  have hkey : ∀ r : Reservation, (r.release env.now).checkoutId = r.checkoutId := fun r =>
    congrArg Prod.snd (key_release env.now r)
  have hsame := Table.first_modify db.reservations (fun r => ids.contains r.checkoutId)
    (fun r => r.release env.now) (key_release env.now)
    (q := fun r : Reservation => r.checkoutId == id) fun r => by rw [hkey]
  refine hsame.trans (Option.map_congr fun r hr => ?_)
  have hid : r.checkoutId = id := beq_iff_eq.1 (Table.first_eq_some hr).2
  simp only [List.contains_eq_mem, decide_eq_true_eq, hid]

theorem checkoutById_expireRows_of_not (h : id ∉ ids) :
    (db.expireRows env ids).checkoutById id = db.checkoutById id := by
  rw [checkoutById_expireRows]
  simp only [if_neg h, Option.map_id']

theorem getReservation_expireRows_of_not (h : id ∉ ids) :
    Inventory.getReservation id (db.expireRows env ids) = Inventory.getReservation id db := by
  rw [getReservation_expireRows]
  simp only [if_neg h, Option.map_id']

theorem holdOf_expireRows (h : id ∉ ids) : (db.expireRows env ids).holdOf id = db.holdOf id := by
  rw [holdOf, getReservation_expireRows_of_not h, holdOf]

theorem rowEvents_expireRows (h : id ∉ ids) :
    (db.expireRows env ids).rowEvents id = db.rowEvents id := by
  rw [rowEvents, checkoutById_expireRows_of_not h, holdOf_expireRows h, rowEvents]

theorem expireRows_nil : db.expireRows env [] = db := by
  have hcheckouts : db.checkouts.modify (fun c => ([] : List String).contains c.checkoutId)
      (fun c => { c with status := .expired }) (fun _ => rfl) = db.checkouts :=
    Table.modify_of_forall_not _ _ fun _ _ => rfl
  have hreservations : db.reservations.modify (fun r => ([] : List String).contains r.checkoutId)
      (fun r => r.release env.now) (key_release env.now) = db.reservations :=
    Table.modify_of_forall_not _ _ fun _ _ => rfl
  have hinventory : db.inventory.modify (fun _ => true)
      (fun i => { i with
        reservedQuantity := i.reservedQuantity - db.heldBy Reservation.quantity [] i.offerId,
        version := i.version + db.heldBy (fun _ => 1) [] i.offerId }) (fun _ => rfl) =
      db.inventory := Table.modify_of_forall_eq _ _ fun i _ _ => by simp [heldBy]
  rw [expireRows, hcheckouts, hreservations, hinventory]
  simp

theorem heldBy_cons {weigh : Reservation → ℤ} {offerId : String} :
    db.heldBy weigh (id :: ids) offerId =
      db.heldBy weigh [id] offerId + db.heldBy weigh ids offerId := by
  simp [heldBy]

theorem heldBy_expireRows {weigh : Reservation → ℤ} {rest : List String} {offerId : String}
    (h : ∀ id ∈ rest, id ∉ ids) :
    (db.expireRows env ids).heldBy weigh rest offerId = db.heldBy weigh rest offerId := by
  unfold heldBy
  exact congrArg List.sum (List.map_congr_left fun id hid => by rw [holdOf_expireRows (h id hid)])

/-- The tables of a sweep decide. -/
theorem eq_expireRows {db' : Database}
    (hothers : db' = { db with
      checkouts := db'.checkouts, reservations := db'.reservations,
      inventory := db'.inventory, auditEvents := db'.auditEvents })
    (hcheckouts : db'.checkouts = (db.expireRows env ids).checkouts)
    (hreservations : db'.reservations = (db.expireRows env ids).reservations)
    (hinventory : db'.inventory = (db.expireRows env ids).inventory)
    (hevents : db'.auditEvents = (db.expireRows env ids).auditEvents) :
    db' = db.expireRows env ids := by
  refine hothers.trans ?_
  rw [hcheckouts, hreservations, hinventory, hevents]
  rfl

/-- **One row, then the rest**, is all of them at once. -/
theorem expireRows_cons (h : id ∉ ids) :
    (db.expireRows env [id]).expireRows env ids = db.expireRows env (id :: ids) := by
  have hrest : ∀ j ∈ ids, j ∉ [id] := by
    intro j hj hjid
    obtain rfl := List.mem_singleton.1 hjid
    exact h hj
  have hcheckouts : ((db.expireRows env [id]).expireRows env ids).checkouts =
      (db.expireRows env (id :: ids)).checkouts := by
    refine Table.ext ((List.map_map ..).trans (List.map_congr_left fun c _ => ?_))
    simp only [Function.comp, List.contains_eq_mem, decide_eq_true_eq, List.mem_cons,
      List.not_mem_nil, or_false]
    by_cases hid : c.checkoutId = id
    · simp only [hid, true_or, if_true, if_neg h]
    · simp only [hid, false_or, if_false]
  have hreservations : ((db.expireRows env [id]).expireRows env ids).reservations =
      (db.expireRows env (id :: ids)).reservations := by
    refine Table.ext ((List.map_map ..).trans (List.map_congr_left fun r _ => ?_))
    have hkey : (r.release env.now).checkoutId = r.checkoutId :=
      congrArg Prod.snd (key_release env.now r)
    simp only [Function.comp, List.contains_eq_mem, decide_eq_true_eq, List.mem_cons,
      List.not_mem_nil, or_false]
    by_cases hid : r.checkoutId = id
    · simp only [hid, hkey, true_or, if_true, if_neg h]
    · simp only [hid, false_or, if_false]
  have hinventory : ((db.expireRows env [id]).expireRows env ids).inventory =
      (db.expireRows env (id :: ids)).inventory := by
    refine Table.ext ((List.map_map ..).trans (List.map_congr_left fun i _ => ?_))
    simp only [Function.comp, if_true, heldBy_expireRows hrest, @heldBy_cons _ ids]
    congr 1 <;> ring
  have hevents : ((db.expireRows env [id]).expireRows env ids).auditEvents =
      (db.expireRows env (id :: ids)).auditEvents := by
    have hlater : ids.flatMap (db.expireRows env [id]).rowEvents = ids.flatMap db.rowEvents :=
      List.flatMap_congr fun j hj => rowEvents_expireRows (hrest j hj)
    show (db.auditEvents ++ [id].flatMap db.rowEvents) ++
      ids.flatMap (db.expireRows env [id]).rowEvents = _
    show _ = db.auditEvents ++ (id :: ids).flatMap db.rowEvents
    rw [hlater, List.append_assoc, List.flatMap_singleton, List.flatMap_cons]
  exact eq_expireRows rfl hcheckouts hreservations hinventory hevents

end

end Database

/-! ### One row -/

section

variable {env : Env} {w w' : World} {faults : Worker.Faults}

/-- The transition of the sweep sets the status and records the event. -/
theorem transition_sweep {c : Checkout} {u : Unit}
    (h : transition (.checkout c) .expireCheckout (Worker.sweepContext env c) w = .ok u w') :
    c.status.Live ∧ w' = { w with db :=
      (w.db.setCheckoutStatus c.checkoutId .expired).appendAudit (Worker.expiryEvent c) } := by
  obtain ⟨rule, db, hvalid, hset, rfl⟩ := transition_eq_ok.1 h
  obtain ⟨s, hs, rfl⟩ := Option.map_eq_some_iff.1 hset
  have hnext : c.status.next .expireCheckout = some s := by
    have hrule : findRule c.status.canonical .expireCheckout = some rule :=
      (validate_eq_ok hvalid).1
    rw [CheckoutStatus.next, hrule]
    exact hs
  rw [CheckoutStatus.next_expireCheckout] at hnext
  split_ifs at hnext with hlive
  obtain rfl := Option.some.inj hnext
  have hvalue : (Aggregate.checkout c).targetValue rule.target =
      some CheckoutStatus.expired.value := by
    show (CheckoutStatus.ofCanonical? rule.target).map CheckoutStatus.value = _
    rw [hs]
    rfl
  refine ⟨hlive, ?_⟩
  rw [Aggregate.record, hvalue]
  rfl

/-- The hold of a checkout is a stored reservation. -/
theorem holdOf_eq_some {db : Database} {id : String} {r : Reservation} :
    db.holdOf id = some r ↔ r ∈ db.reservations ∧ r.checkoutId = id ∧ r.status = .held := by
  rw [Database.holdOf, Option.filter_eq_some_iff, beq_iff_eq]
  constructor
  · rintro ⟨hr, hs⟩
    obtain ⟨hmem, hid⟩ := Table.first_eq_some hr
    exact ⟨hmem, beq_iff_eq.1 hid, hs⟩
  · rintro ⟨hmem, hid, hs⟩
    exact ⟨Table.first_of_mem hmem (beq_iff_eq.2 hid) fun x _ hx =>
      Table.eq_of_clash ‹_› hmem (by simp [clashes, Keyed.clash, Keyed.key, hid, beq_iff_eq.1 hx]),
      hs⟩

/-- Without a hold there is nothing to release. -/
theorem released_of_none {db : Database} {id : String} {now : Time} (h : db.holdOf id = none) :
    db.reservations.modify (fun r => [id].contains r.checkoutId) (fun r => r.release now)
      (Database.key_release now) = db.reservations := by
  refine Table.modify_of_forall_eq _ _ fun r hr hid => if_neg fun hs => ?_
  have hsome := holdOf_eq_some.2 ⟨hr, by simpa using hid, hs⟩
  exact nomatch h.symm.trans hsome

/-- The statement that ends a hold ends that of the checkout. -/
theorem released_of_some {db : Database} {id : String} {now : Time} {r : Reservation}
    (h : db.holdOf id = some r) :
    db.reservations.modify (fun x => x.reservationId == r.reservationId && x.status == .held)
      (fun x => { x with status := .released, releasedAt := some now }) (fun _ => rfl) =
    db.reservations.modify (fun r => [id].contains r.checkoutId) (fun r => r.release now)
      (Database.key_release now) := by
  obtain ⟨hmem, rfl, hs⟩ := holdOf_eq_some.1 h
  refine Table.ext (List.map_congr_left fun x hx => ?_)
  by_cases hxr : x = r
  · subst hxr
    simp [hs, Reservation.release]
  · have hclash : clashes x r = false := by
      cases hc : clashes x r with
      | false => rfl
      | true => exact absurd (Table.eq_of_clash hx hmem hc) hxr
    simp only [clashes, Keyed.clash, Keyed.key, Bool.or_eq_false_iff, decide_eq_false_iff_not]
      at hclash
    simp [hclash.1, hclash.2]

/-- The statement that counts a hold back finds the counter of its offer. -/
theorem countedBack {db : Database} {id : String} {r : Reservation} (hstock : db.stock.Stocked)
    (h : db.holdOf id = some r) :
    db.inventory.modify
      (fun i => i.offerId == r.offerId && decide (r.quantity ≤ i.reservedQuantity))
      (fun i => { i with
        reservedQuantity := i.reservedQuantity - r.quantity, version := i.version + 1 })
      (fun _ => rfl) =
    db.inventory.modify (fun _ => true)
      (fun i => { i with
        reservedQuantity := i.reservedQuantity - db.heldBy Reservation.quantity [id] i.offerId,
        version := i.version + db.heldBy (fun _ => 1) [id] i.offerId }) fun _ => rfl := by
  obtain ⟨hmem, -, hs⟩ := holdOf_eq_some.1 h
  have hheld : ∀ weigh o, db.heldBy weigh [id] o = if r.offerId = o then weigh r else 0 := by
    intro weigh o
    simp [Database.heldBy, h]
  refine Table.ext (List.map_congr_left fun i hi => ?_)
  simp only [hheld, if_true]
  by_cases ho : r.offerId = i.offerId
  · have hle : r.quantity ≤ i.reservedQuantity := hstock.quantity_le hmem hs hi ho.symm
    simp [ho, hle]
  · have hother : (i.offerId == r.offerId) = false := beq_eq_false_iff_ne.2 fun he => ho he.symm
    simp [ho, hother]

/-- **The release of the hold of a checkout**, as a change of the tables. -/
theorem releaseStock_eq {id m : String} {u : Unit} (h : w.db.stock.Stocked)
    (hrun : Inventory.releaseStock env id (some m) w = .ok u w') :
    w'.db = { w.db with
      reservations := w.db.reservations.modify (fun r => [id].contains r.checkoutId)
        (fun r => r.release env.now) (Database.key_release env.now)
      inventory := w.db.inventory.modify (fun _ => true)
        (fun i => { i with
          reservedQuantity := i.reservedQuantity - w.db.heldBy Reservation.quantity [id] i.offerId,
          version := i.version + w.db.heldBy (fun _ => 1) [id] i.offerId })
        fun _ => rfl
      auditEvents := w.db.auditEvents ++
        (w.db.holdOf id).toList.map fun r => (Worker.releaseEvent m id r).stored } := by
  simp only [Inventory.releaseStock, Inventory.assertCheckoutTenant, Work.bind_eq_ok, query_eq_ok,
    raiseIf_eq_ok] at hrun
  obtain ⟨_, _, ⟨_, _, ⟨rfl, rfl⟩, _, rfl⟩, _, _, ⟨rfl, rfl⟩, hrun⟩ := hrun
  cases hhold : w.db.holdOf id with
  | none =>
      have hsame : w' = w := by
        cases hfound : Inventory.getReservation id w.db with
        | none =>
            rw [hfound] at hrun
            exact (Work.pure_eq_ok.1 hrun).2.symm
        | some r =>
            have hs : r.status ≠ .held := by
              intro hs
              rw [Database.holdOf, hfound, Option.filter_some, hs] at hhold
              exact nomatch hhold
            rw [hfound] at hrun
            simp only [if_pos hs] at hrun
            exact (Work.pure_eq_ok.1 hrun).2.symm
      have hcounters : w.db.inventory.modify (fun _ => true)
          (fun i =>
            { i with
              reservedQuantity :=
                i.reservedQuantity - w.db.heldBy Reservation.quantity [id] i.offerId,
              version := i.version + w.db.heldBy (fun _ => 1) [id] i.offerId })
          (fun _ => rfl) = w.db.inventory :=
        Table.modify_of_forall_eq _ _ fun i _ _ => by simp [Database.heldBy, hhold]
      rw [hsame, released_of_none hhold, hcounters, Option.toList_none, List.map_nil,
        List.append_nil]
  | some r =>
      obtain ⟨hmem, hid, hs⟩ := holdOf_eq_some.1 hhold
      have hfound : Inventory.getReservation id w.db = some r :=
        (Option.filter_eq_some_iff.1 hhold).1
      rw [hfound] at hrun
      simp only [if_neg (not_not.2 hs), Work.bind_eq_ok] at hrun
      obtain ⟨b, v, hrelease, hrun⟩ := hrun
      have hb : b = true :=
        (settle_change h (release_settles _) hrelease : Stock.StockChange none _ _ ∧ _).2.2
          ⟨r, hmem, rfl, hs⟩
      have hfirst : w.db.reservations.first
          (fun x => x.reservationId == r.reservationId && x.status == .held) = some r := by
        refine Table.first_of_mem hmem (by simp [hs]) fun x hx hp => ?_
        simp only [Bool.and_eq_true, beq_iff_eq] at hp
        exact Table.eq_of_clash hx hmem (by simp [clashes, Keyed.clash, Keyed.key, hp.1])
      simp only [Inventory.release, Inventory.settle, Table.updateReturning, Work.bind_eq_ok,
        query_eq_ok, update_eq_ok] at hrelease
      obtain ⟨_, _, ⟨rfl, rfl⟩, _, _, rfl, hrelease⟩ := hrelease
      rw [hfirst] at hrelease
      simp only [Option.map_some, Work.bind_eq_ok, query_eq_ok, update_eq_ok, Work.pure_eq_ok]
        at hrelease
      obtain ⟨_, _, ⟨rfl, rfl⟩, _, _, rfl, -, rfl⟩ := hrelease
      rw [hb] at hrun
      simp only [Bool.not_true, unlessTrue_false, Inventory.appendStockEvent, appendTransitionEvent,
        Work.bind_eq_ok, query_eq_ok, appendEvent_eq_ok] at hrun
      obtain ⟨_, _, ⟨rfl, rfl⟩, rfl⟩ := hrun
      rw [released_of_some hhold, countedBack h hhold]
      rfl

/-- **One row**: an item that succeeds expires its checkout. -/
theorem expireItem_eq {c : Checkout} {u : Unit} (hc : c ∈ w.db.checkouts)
    (hstock : w.db.stock.Stocked) (h : Worker.expireItem env c w = .ok u w') :
    w'.db = w.db.expireRows env [c.checkoutId] ∧ w'.db.stock.Stocked := by
  simp only [Worker.expireItem, bind_eq_ok, flush_eq_ok] at h
  obtain ⟨_, w₁, htransition, _, w₂, hrelease, -, rfl⟩ := h
  obtain ⟨-, hw₁⟩ := transition_sweep htransition
  have hstock₁ : w₁.db.stock.Stocked := by
    rw [hw₁]
    exact hstock
  have hchange : Stock.StockChange none w₁.db.stock w₂.db.stock :=
    releaseStock_change hstock₁ hrelease
  refine ⟨?_, hchange.stocked⟩
  rw [releaseStock_eq hstock₁ hrelease, hw₁]
  have hfound : w.db.checkoutById c.checkoutId = some c :=
    Table.first_of_mem hc (beq_self_eq_true _) fun d hd hid =>
      Table.eq_of_clash hd hc (by simpa [clashes, Keyed.clash, Keyed.key] using hid)
  refine Database.eq_expireRows rfl ?_ rfl rfl ?_
  · refine Table.ext (List.map_congr_left fun d _ => ?_)
    simp only [List.contains_eq_mem, List.mem_singleton, decide_eq_true_eq, beq_iff_eq]
  · show (w.db.auditEvents ++ [(Worker.expiryEvent c).stored]) ++ _ =
      w.db.auditEvents ++ [c.checkoutId].flatMap w.db.rowEvents
    rw [List.append_assoc, List.flatMap_singleton, Database.rowEvents, hfound]
    rfl

/-- An item without a fault succeeds exactly when its checkout is live. -/
theorem expireItem_ok_iff (env : Env) {c : Checkout} (hc : c ∈ w.db.checkouts)
    (hflush : w.db.flushable = true) :
    (∃ w', Worker.expireItem env c w = .ok () w') ↔ c.status.Live := by
  constructor
  · rintro ⟨w', h⟩
    exact (expireItem_ok h).1
  · intro hlive
    cases hitem : Worker.expireItem env c w with
    | ok u w' => exact ⟨w', rfl⟩
    | error e w' => exact absurd hlive (expireItem_error hc hflush hitem)

/-- **One row of a sweep** is expired when it succeeds, and nothing changes when not. -/
theorem sweepCheckoutBy_eq (env : Env) (faults : Worker.Faults) (id : String)
    (hflush : w.db.flushable = true) (hstock : w.db.stock.Stocked) :
    ∃ w', Worker.sweepCheckoutBy (Worker.faultyItem env faults) id w = .ok () w' ∧
      w'.db.flushable = true ∧ w'.db.stock.Stocked ∧
      w'.db = w.db.expireRows env (if Worker.succeeds faults w.db id then [id] else []) := by
  have hquery : query (fun db => db.checkoutById id) w = .ok (w.db.checkoutById id) w :=
    query_eq_ok.2 ⟨rfl, rfl⟩
  have hsweep : Worker.sweepCheckoutBy (Worker.faultyItem env faults) id w =
      ((w.db.checkoutById id).elim (pure ()) fun c => do
        flush
        let _ ← nested (Worker.faultyItem env faults c)
        pure () : Op Unit) w := bind_of_ok hquery
  rw [hsweep]
  have hflushed : flush w = .ok () w := flush_eq_ok.2 ⟨hflush, rfl⟩
  -- a row that fails leaves what it found
  have hfailed : ∀ c, (∃ e v, Worker.faultyItem env faults c w = .error e v) →
      ∃ w', (do
        flush
        let _ ← nested (Worker.faultyItem env faults c)
        pure () : Op Unit) w = .ok () w' ∧ w'.db = w.db := by
    rintro c ⟨e, v, hitem⟩
    refine ⟨World.restore w v, bind_eq_ok.2 ⟨(), w, hflushed, bind_eq_ok.2 ⟨.error e, _, ?_, rfl⟩⟩,
      rfl⟩
    exact savepoint_eq_ok.2 (.inr ⟨e, v, hitem, rfl, rfl⟩)
  have hkept : ∀ w' : World, w'.db = w.db → w'.db.flushable = true ∧ w'.db.stock.Stocked ∧
      w'.db = w.db.expireRows env [] := by
    intro w' hw'
    rw [hw', Database.expireRows_nil]
    exact ⟨hflush, hstock, rfl⟩
  cases hfound : w.db.checkoutById id with
  | none =>
      have hno : Worker.succeeds faults w.db id = false := by
        rw [Worker.succeeds, hfound, Option.any_none, Bool.and_false]
      rw [hno]
      exact ⟨w, rfl, hkept w rfl⟩
  | some c =>
      obtain ⟨hc, hid⟩ := Table.first_eq_some hfound
      have hid : c.checkoutId = id := beq_iff_eq.1 hid
      cases hfault : faults id with
      | some fault =>
          obtain ⟨damage, e⟩ := fault
          have hno : Worker.succeeds faults w.db id = false := by
            rw [Worker.succeeds, hfault, Option.isNone_some, Bool.false_and]
          have hraises : Worker.faultyItem env faults c w =
              .error e { w with db := damage w.db } := by
            rw [Worker.faultyItem, hid, hfault]
            exact bind_of_ok (a := ()) (update_eq_ok.2 rfl)
          obtain ⟨w', hw', hdb⟩ := hfailed c ⟨_, _, hraises⟩
          rw [hno]
          exact ⟨w', hw', hkept w' hdb⟩
      | none =>
          have hitem : Worker.faultyItem env faults c = Worker.expireItem env c := by
            rw [Worker.faultyItem, hid, hfault]
          by_cases hlive : c.status.Live
          · have hyes : Worker.succeeds faults w.db id = true := by
              rw [Worker.succeeds, hfault, hfound, Option.any_some, decide_eq_true hlive]
              rfl
            obtain ⟨v, hv⟩ := (expireItem_ok_iff env hc hflush).2 hlive
            obtain ⟨hdb, hstock'⟩ := expireItem_eq hc hstock hv
            rw [hid] at hdb
            rw [hyes]
            refine ⟨v, bind_eq_ok.2 ⟨(), w, hflushed, bind_eq_ok.2 ⟨.ok (), v, ?_, rfl⟩⟩, ?_,
              hstock', hdb⟩
            · rw [hitem]
              exact savepoint_eq_ok.2 (.inl ⟨(), hv, rfl⟩)
            · rw [Database.flushable_of_payments (expireItem_ok hv).2.1.symm, hflush]
          · have hno : Worker.succeeds faults w.db id = false := by
              rw [Worker.succeeds, hfound, Option.any_some, decide_eq_false hlive, Bool.and_false]
            have hraises : ∃ e v, Worker.faultyItem env faults c w = .error e v := by
              rw [hitem]
              cases hrun : Worker.expireItem env c w with
              | ok u v => exact absurd (expireItem_ok hrun).1 hlive
              | error e v => exact ⟨e, v, rfl⟩
            obtain ⟨w', hw', hdb⟩ := hfailed c hraises
            rw [hno]
            exact ⟨w', hw', hkept w' hdb⟩

/-! ### The batch -/

/-- A row succeeds after another was expired exactly when it did before. -/
theorem succeeds_expireRows {db : Database} {id : String} {ids : List String} (h : id ∉ ids) :
    Worker.succeeds faults (db.expireRows env ids) id = Worker.succeeds faults db id := by
  rw [Worker.succeeds, Database.checkoutById_expireRows_of_not h, Worker.succeeds]

/-- **The batch**: the rows that succeed are expired. -/
theorem sweepCheckoutsBy_eq (ids : List String) :
    ∀ {w : World}, ids.Nodup → w.db.flushable = true → w.db.stock.Stocked →
      ∃ w', Worker.sweepCheckoutsBy (Worker.faultyItem env faults) ids w = .ok () w' ∧
        w'.db.flushable = true ∧
        w'.db = w.db.expireRows env (ids.filter (Worker.succeeds faults w.db)) := by
  induction ids with
  | nil =>
      intro w _ hflush _
      exact ⟨w, rfl, hflush, Database.expireRows_nil.symm⟩
  | cons id rest ih =>
      intro w hnodup hflush hstock
      obtain ⟨hid, hrest⟩ := List.nodup_cons.1 hnodup
      obtain ⟨w₁, hone, hflush₁, hstock₁, hdb₁⟩ := sweepCheckoutBy_eq env faults id hflush hstock
      obtain ⟨w', hall, hflush', hdb'⟩ := ih hrest hflush₁ hstock₁
      refine ⟨w', bind_eq_ok.2 ⟨(), w₁, hone, hall⟩, hflush', ?_⟩
      have hsame : rest.filter (Worker.succeeds faults w₁.db) =
          rest.filter (Worker.succeeds faults w.db) := by
        refine List.filter_congr fun j hj => ?_
        rw [hdb₁]
        refine succeeds_expireRows fun hmem => hid ?_
        split_ifs at hmem
        · rwa [← List.mem_singleton.1 hmem]
        · exact absurd hmem List.not_mem_nil
      rw [hdb', hsame, hdb₁]
      cases hsucceeds : Worker.succeeds faults w.db id with
      | false =>
          rw [List.filter_cons_of_neg (by rw [hsucceeds]; decide), if_neg (by decide),
            Database.expireRows_nil]
      | true =>
          rw [List.filter_cons_of_pos hsucceeds, if_pos rfl]
          exact Database.expireRows_cons fun hmem => hid (List.mem_filter.1 hmem).1

/-- The sweep selects no checkout twice. -/
theorem expiredCheckouts_nodup (db : Database) (now : Time) :
    (Worker.expiredCheckouts now db).Nodup := by
  have hkeys : (db.checkouts.rows.map Checkout.checkoutId).Nodup := by
    refine List.pairwise_map.2 (db.checkouts.unique.imp fun hclash hsame => ?_)
    simp [clashes, Keyed.clash, Keyed.key, hsame] at hclash
  refine List.Nodup.sublist ((List.take_sublist _ _).map _) ?_
  refine ((List.perm_insertionSort _ _).map _).nodup_iff.2 ?_
  exact hkeys.sublist (List.filter_sublist.map _)

/-- **The sweep with faults**, as a unit of work. -/
theorem sweepFaulty_db (hflush : w.db.flushable = true) (hstock : w.db.stock.Stocked) :
    (request (Worker.sweepFaulty env faults) w).db =
      w.db.expireRows env
        ((Worker.expiredCheckouts env.now w.db).filter (Worker.succeeds faults w.db)) := by
  obtain ⟨w', hbatch, hflush', hdb⟩ := sweepCheckoutsBy_eq (Worker.expiredCheckouts env.now w.db)
    (expiredCheckouts_nodup w.db env.now) hflush hstock
  have hsweep : Worker.sweepFaulty env faults w = .ok () w' :=
    bind_eq_ok.2 ⟨_, w, query_eq_ok.2 ⟨rfl, rfl⟩, hbatch⟩
  rw [request_of_ok hsweep hflush', hdb]

end

/-! ### What a sweep does to one checkout -/

/-- The events of the ledger about a checkout. -/
def Database.ledgerOf (db : Database) (checkoutId : String) : List AuditEvent :=
  db.auditEvents.filter fun e => e.aggregateType == "checkout" && e.aggregateId == checkoutId

/-- What the store has of a checkout: its row, its reservation, and the events about it. -/
def Database.rowOf (db : Database) (checkoutId : String) :
    Option Checkout × Option Reservation × List AuditEvent :=
  (db.checkoutById checkoutId, Inventory.getReservation checkoutId db, db.ledgerOf checkoutId)

/-- The events that the expiry of a checkout records are about it. -/
theorem rowEvents_about {db : Database} {id j : String} :
    (db.rowEvents j).filter (fun e => e.aggregateType == "checkout" && e.aggregateId == id) =
      if j = id then ((db.checkoutById id).map fun c => (Worker.expiryEvent c).stored).toList
      else [] := by
  cases hfound : db.checkoutById j with
  | none =>
      rw [Database.rowEvents, hfound]
      split_ifs with hj
      · rw [← hj, hfound]
        rfl
      · rfl
  | some c =>
      have hid : c.checkoutId = j := beq_iff_eq.1 (Table.first_eq_some hfound).2
      have hreleases : ((db.holdOf j).toList.map fun r =>
            (Worker.releaseEvent c.merchantId c.checkoutId r).stored).filter
          (fun e => e.aggregateType == "checkout" && e.aggregateId == id) = [] := by
        cases db.holdOf j with
        | none => rfl
        | some r => rfl
      rw [Database.rowEvents, hfound, Option.elim_some, List.filter_cons, hreleases]
      have htest : (((Worker.expiryEvent c).stored.aggregateType == "checkout" &&
          (Worker.expiryEvent c).stored.aggregateId == id) = true) ↔ j = id := by
        rw [← hid]
        simp [AuditEvent.stored, Worker.expiryEvent]
      by_cases hj : j = id
      · rw [if_pos (htest.2 hj), if_pos hj, ← hj, hfound]
        rfl
      · rw [if_neg (mt htest.1 hj), if_neg hj]

section

variable {db : Database} {env : Env} {ids : List String} {id : String}

theorem ledgerOf_expireRows (hnodup : ids.Nodup) : (db.expireRows env ids).ledgerOf id =
    db.ledgerOf id ++ if id ∈ ids then
      ((db.checkoutById id).map fun c => (Worker.expiryEvent c).stored).toList else [] := by
  have hevents : (ids.flatMap db.rowEvents).filter
      (fun e => e.aggregateType == "checkout" && e.aggregateId == id) =
      if id ∈ ids then ((db.checkoutById id).map fun c => (Worker.expiryEvent c).stored).toList
      else [] := by
    induction ids with
    | nil => rfl
    | cons j rest ih =>
        obtain ⟨hj, hrest⟩ := List.nodup_cons.1 hnodup
        rw [List.flatMap_cons, List.filter_append, rowEvents_about, ih hrest]
        by_cases hid : j = id
        · subst hid
          rw [if_pos rfl, if_neg hj, if_pos List.mem_cons_self, List.append_nil]
        · have hmem : id ∈ j :: rest ↔ id ∈ rest := by simp [Ne.symm hid]
          rw [if_neg hid, List.nil_append]
          simp only [hmem]
  show (db.auditEvents ++ ids.flatMap db.rowEvents).filter _ = _
  rw [List.filter_append, hevents]
  rfl

/-- What the expiry of the checkouts on a list makes of one of them. -/
theorem rowOf_expireRows_of_mem (hnodup : ids.Nodup) (hid : id ∈ ids) {c : Checkout}
    (hc : db.checkoutById id = some c) : (db.expireRows env ids).rowOf id =
      (some { c with status := .expired },
        (Inventory.getReservation id db).map fun r => r.release env.now,
        db.ledgerOf id ++ [(Worker.expiryEvent c).stored]) := by
  rw [Database.rowOf, Database.checkoutById_expireRows, Database.getReservation_expireRows,
    ledgerOf_expireRows hnodup, if_pos hid, hc]
  simp only [if_pos hid]
  rfl

/-- It leaves every other checkout as it is. -/
theorem rowOf_expireRows_of_not (hnodup : ids.Nodup) (hid : id ∉ ids) :
    (db.expireRows env ids).rowOf id = db.rowOf id := by
  rw [Database.rowOf, Database.checkoutById_expireRows_of_not hid,
    Database.getReservation_expireRows_of_not hid, ledgerOf_expireRows hnodup, if_neg hid,
    List.append_nil, Database.rowOf]

end

section

variable {w : World}

/-- **Sweep isolation.**  Whatever rows fail, and whatever they had done by then, the
sweep comes to the expiry of the rows that succeed and to nothing else.  So each selected
row is expired, its hold released and the transition recorded, or it is as it was; and
what becomes of it does not depend on the faults at other rows. -/
theorem sweep_isolation (env : Env) (faults : Worker.Faults) (hflush : w.db.flushable = true)
    (hstock : w.db.stock.Stocked) :
    (request (Worker.sweepFaulty env faults) w).db =
      w.db.expireRows env
        ((Worker.expiredCheckouts env.now w.db).filter (Worker.succeeds faults w.db)) ∧
    ∀ id ∈ Worker.expiredCheckouts env.now w.db,
      (Worker.succeeds faults w.db id = true → ∃ c, w.db.checkoutById id = some c ∧
        (request (Worker.sweepFaulty env faults) w).db.rowOf id =
          (some { c with status := .expired },
            (Inventory.getReservation id w.db).map fun r => r.release env.now,
            w.db.ledgerOf id ++ [(Worker.expiryEvent c).stored])) ∧
      (Worker.succeeds faults w.db id = false →
        (request (Worker.sweepFaulty env faults) w).db.rowOf id = w.db.rowOf id) ∧
      ∀ faults' : Worker.Faults, faults' id = faults id →
        (request (Worker.sweepFaulty env faults') w).db.rowOf id =
          (request (Worker.sweepFaulty env faults) w).db.rowOf id := by
  have hexpired : ∀ (faults : Worker.Faults) (id : String),
      id ∈ Worker.expiredCheckouts env.now w.db → Worker.succeeds faults w.db id = true →
      ∃ c, w.db.checkoutById id = some c ∧
        (request (Worker.sweepFaulty env faults) w).db.rowOf id =
          (some { c with status := .expired },
            (Inventory.getReservation id w.db).map fun r => r.release env.now,
            w.db.ledgerOf id ++ [(Worker.expiryEvent c).stored]) := by
    intro faults id hid hsucceeds
    have hany := (Bool.and_eq_true_iff.1 hsucceeds).2
    obtain ⟨c, hc, -⟩ := (Option.any_eq_true _ _).1 hany
    refine ⟨c, hc, ?_⟩
    rw [sweepFaulty_db hflush hstock]
    exact rowOf_expireRows_of_mem ((expiredCheckouts_nodup w.db env.now).filter _)
      (List.mem_filter.2 ⟨hid, hsucceeds⟩) hc
  have hkept : ∀ (faults : Worker.Faults) (id : String), Worker.succeeds faults w.db id = false →
      (request (Worker.sweepFaulty env faults) w).db.rowOf id = w.db.rowOf id := by
    intro faults id hfails
    rw [sweepFaulty_db hflush hstock]
    refine rowOf_expireRows_of_not ((expiredCheckouts_nodup w.db env.now).filter _) fun hmem => ?_
    rw [(List.mem_filter.1 hmem).2] at hfails
    exact nomatch hfails
  refine ⟨sweepFaulty_db hflush hstock, fun id hid => ⟨hexpired faults id hid, hkept faults id, ?_⟩⟩
  intro faults' hsame
  have hboth : Worker.succeeds faults' w.db id = Worker.succeeds faults w.db id := by
    rw [Worker.succeeds, hsame, Worker.succeeds]
  cases hsucceeds : Worker.succeeds faults w.db id with
  | true =>
      obtain ⟨c, hc, hrow⟩ := hexpired faults id hid hsucceeds
      obtain ⟨c', hc', hrow'⟩ := hexpired faults' id hid (hboth.trans hsucceeds)
      obtain rfl := Option.some.inj (hc.symm.trans hc')
      exact hrow'.trans hrow.symm
  | false => exact (hkept faults' id (hboth.trans hsucceeds)).trans (hkept faults id hsucceeds).symm

/-- A second checkout, of one piece, next to the first. -/
def twoCarts : World :=
  (Operation.createCheckout "byr" "mer" "ofr" 1 15).run
    { shopEnv with newId := fun kind => kind ++ "_2" } checkedOut

/-- The first row fails after its status was set. -/
def firstFails : Worker.Faults := fun id =>
  if id = "chk" then
    some (fun db => db.setCheckoutStatus "chk" .expired, .exception "canceling statement")
  else none

theorem sweep_isolation_twoCarts :
    Worker.expiredCheckouts overdueEnv.now twoCarts.db = ["chk", "chk_2"] ∧
    (request (Worker.sweepFaulty overdueEnv firstFails) twoCarts).db.rowOf "chk" =
      twoCarts.db.rowOf "chk" ∧
    ((request (Worker.sweepFaulty overdueEnv firstFails) twoCarts).db.checkoutById "chk_2").map
      Checkout.status = some .expired := by
  have hstock : twoCarts.db.stock.Stocked :=
    ⟨by decide, by decide, by decide, by decide, by decide⟩
  have hdue : Worker.expiredCheckouts overdueEnv.now twoCarts.db = ["chk", "chk_2"] := by decide
  have hrows := (sweep_isolation overdueEnv firstFails (by decide) hstock).2
  refine ⟨hdue, (hrows "chk" (by rw [hdue]; decide)).2.1 (by decide), ?_⟩
  obtain ⟨c, -, hrow⟩ := (hrows "chk_2" (by rw [hdue]; decide)).1 (by decide)
  have hstored := congrArg Prod.fst hrow
  exact congrArg (Option.map Checkout.status) hstored

end

end AgenticCommerce
