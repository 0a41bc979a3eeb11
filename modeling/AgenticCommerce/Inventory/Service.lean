/-
# The inventory service

`services/inventory/repository.py` and `services/inventory/service.py`: a hold is
counted in `inventory.reserved_quantity` and recorded as a `reservation` row, one
per checkout.  `reserve` takes stock out of what is free; `release` and `commit`
take a held reservation out of `held` first and adjust the counters second, in
two guarded statements of which the second can fail to match.  They differ in the
status they set and in what they take from the counters, so they are one
definition, `settle`, at two sets of values.

`importInventory` is the inventory part of `import_catalog_artifacts`
(`services/catalog/service.py`): an offer gets a row at its first import, and at
every later one its available quantity is raised, never lowered.
-/

import AgenticCommerce.Checkout.Transitions

namespace AgenticCommerce

open Relational

namespace Inventory

/-- `ReservationResult`. -/
structure ReservationResult where
  availableQuantity : ℤ
  reservedQuantity : ℤ
  version : ℤ

/-- `reserve`: raises the reserved quantity of an offer that has enough left. -/
def reserve (offerId : String) (quantity : ℤ) : Op (Option ReservationResult) := do
  let found ← query fun db => (db.inventory.updateReturning
    (fun i => i.offerId == offerId && decide (quantity ≤ i.availableQuantity - i.reservedQuantity))
    (fun i => { i with reservedQuantity := i.reservedQuantity + quantity, version := i.version + 1 })
    fun _ => rfl)
  update fun db => { db with inventory := found.2 }
  pure (found.1.map fun i =>
    { availableQuantity := i.availableQuantity, reservedQuantity := i.reservedQuantity,
      version := i.version })

/-- The statements of `release` and `commit`: a held reservation becomes
`leave` of it, and then the counters of its offer become `take` of them. -/
def settle (reservationId : String) (leave : Reservation → Reservation)
    (take : ℤ → Inventory → Inventory) (hleave : ∀ r, Keyed.key (leave r) = Keyed.key r)
    (htake : ∀ q i, Keyed.key (take q i) = Keyed.key i) : Op Bool := do
  let reservation ← query fun db => (db.reservations.updateReturning
    (fun r => r.reservationId == reservationId && r.status == .held) leave hleave)
  update fun db => { db with reservations := reservation.2 }
  match reservation.1 with
  | none => pure false
  | some r =>
      let counters ← query fun db => (db.inventory.updateReturning
        (fun i => i.offerId == r.offerId && decide (r.quantity ≤ i.reservedQuantity))
        (take r.quantity) (htake r.quantity))
      update fun db => { db with inventory := counters.2 }
      pure counters.1.isSome

/-- `release`. -/
def release (now : Time) (reservationId : String) : Op Bool :=
  settle reservationId (fun r => { r with status := .released, releasedAt := some now })
    (fun q i => { i with
      reservedQuantity := i.reservedQuantity - q, version := i.version + 1 })
    (fun _ => rfl) fun _ _ => rfl

/-- `commit`. -/
def commit (now : Time) (reservationId : String) : Op Bool :=
  settle reservationId (fun r => { r with status := .committed, committedAt := some now })
    (fun q i => { i with
      reservedQuantity := i.reservedQuantity - q, availableQuantity := i.availableQuantity - q,
      version := i.version + 1 })
    (fun _ => rfl) fun _ _ => rfl

/-- `get_reservation`. -/
def getReservation (checkoutId : String) (db : Database) : Option Reservation :=
  db.reservations.first fun r => r.checkoutId == checkoutId

/-- `_resolve_merchant_id`: the merchant given, else the checkout's, else the offer's. -/
def resolveMerchantId (offerId checkoutId : String) (merchantId : Option String) (db : Database) :
    Option String :=
  merchantId.orElse fun _ =>
    ((db.checkoutById checkoutId).map Checkout.merchantId).orElse
      fun _ => (db.offers.first fun o => o.offerId == offerId).map Offer.merchantId

/-- A checkout of that identifier belongs to another merchant than the one given. -/
def foreignCheckout (checkoutId : String) (merchantId : Option String) (db : Database) : Bool :=
  match merchantId, db.checkoutById checkoutId with
  | some m, some c => c.merchantId != m
  | _, _ => false

/-- `_assert_checkout_tenant`. -/
def assertCheckoutTenant (checkoutId : String) (merchantId : Option String) : Op Unit := do
  let foreign ← query (foreignCheckout checkoutId merchantId)
  raiseIf foreign (.raised "You do not have access to this resource." .forbidden)

/-- The event of a change of an offer's stock. -/
def appendStockEvent (offerId checkoutId : String) (merchantId : Option String)
    (metadata : List (String × Json)) : Op Unit := do
  let merchant ← query (resolveMerchantId offerId checkoutId merchantId)
  appendTransitionEvent "inventory" offerId "INVENTORY_CHANGE_DETECTED" "system" none merchant
    metadata

/-- `InventoryService.reserve_stock`. -/
def reserveStock (env : Env) (offerId checkoutId : String) (quantity : ℤ)
    (merchantId : Option String := none) : Op Reservation := do
  raiseIf (quantity < 1) (.ofCode .inventoryUnavailable)
  let reserved ← reserve offerId quantity
  let result ← ofAnswer (reserved.elim (.error (.ofCode .inventoryUnavailable)) .ok)
  let reservation : Reservation :=
    { reservationId := env.newId "rsv", checkoutId, offerId, quantity, status := .held,
      createdAt := env.now }
  insert fun db => (db.reservations.insert? reservation).map fun reservations =>
    { db with reservations }
  flush
  appendStockEvent offerId checkoutId merchantId
    [("action", .str "reserve"), ("checkout_id", .str checkoutId), ("quantity", .int quantity),
      ("new_available", .int result.availableQuantity),
      ("new_reserved", .int result.reservedQuantity), ("version", .int result.version)]
  pure reservation

/-- The metadata of the event of a hold that was released or committed. -/
def settledMetadata (action checkoutId : String) (r : Reservation) : List (String × Json) :=
  [("action", .str action), ("checkout_id", .str checkoutId),
    ("reservation_id", .str r.reservationId), ("quantity", .int r.quantity)]

/-- `InventoryService.release_stock`. -/
def releaseStock (env : Env) (checkoutId : String) (merchantId : Option String := none) :
    Op Unit := do
  assertCheckoutTenant checkoutId merchantId
  let found ← query (getReservation checkoutId)
  match found with
  | none => pure ()
  | some r =>
      if r.status ≠ .held then pure ()
      else
        let released ← release env.now r.reservationId
        unlessTrue (!released)
          (appendStockEvent r.offerId checkoutId merchantId
            (settledMetadata "release" checkoutId r))

/-- `InventoryService.commit_stock`. -/
def commitStock (env : Env) (checkoutId : String) (merchantId : Option String := none) :
    Op Unit := do
  assertCheckoutTenant checkoutId merchantId
  let r ← require (getReservation checkoutId)
    (.raised ("No inventory reservation found for checkout " ++ checkoutId ++ ".")
      .inventoryUnavailable)
  if r.status = .committed then pure ()
  else
    raiseIf (r.status ≠ .held)
      (.raised ("Cannot commit inventory: reservation " ++ r.reservationId ++ " is in status '" ++
        r.status.value ++ "'.") .illegalTransition)
    let committed ← commit env.now r.reservationId
    raiseIf (committed = false)
      (.raised ("Failed to commit inventory for reservation " ++ r.reservationId ++
        ": insufficient stock or version conflict.") .inventoryUnavailable)
    appendStockEvent r.offerId checkoutId merchantId (settledMetadata "commit" checkoutId r)

/-- What an import does to a row of stock leaves its key. -/
theorem imported_key (imported : ℤ) (i : Inventory) :
    Keyed.key { i with
      version := i.version + 1, availableQuantity := max i.availableQuantity imported } =
      Keyed.key i := rfl

/-- The inventory part of `import_catalog_artifacts`, for one offer of the imported
file.  The store refuses a first row with a negative quantity. -/
def importInventory (offerId : String) (imported : ℤ) : Op Unit := do
  let existing ← query fun db => db.inventory.first fun i => i.offerId == offerId
  match existing with
  | none =>
      raiseIf (imported < 0) (.integrity "new row violates check constraint")
      insert fun db => (db.inventory.insert?
        { offerId, availableQuantity := imported, reservedQuantity := 0, version := 1 }).map
          fun inventory => { db with inventory }
  | some _ =>
      update fun db => { db with
        inventory := db.inventory.modify (fun i => i.offerId == offerId)
          (fun i => { i with
            version := i.version + 1, availableQuantity := max i.availableQuantity imported })
          (imported_key imported) }

end Inventory
end AgenticCommerce
