/-
# What a checkout accepts

When `create_checkout` of `services/checkout/service.py` returns: the offer is read, active and not
expired, and the stock has what is asked for.  Nothing else refuses it where the identifiers that
are made are new (`accepts_iff`).
-/

import AgenticCommerce.Checkout.Service

namespace AgenticCommerce
namespace Checkout

open Relational

/-- `create_checkout` accepts one of the offer. -/
def Accepts (env : Env) (buyerId merchantId offerId : String) (db : Database) : Prop :=
  ∃ v w', Checkout.createCheckout env buyerId merchantId offerId 1 15 { db } = .ok v w'

/-- The identifiers that are made are new, and the stored rows satisfy their constraints. -/
structure Storable (env : Env) (db : Database) : Prop where
  checkout : ∀ c ∈ db.checkouts, c.checkoutId ≠ env.newId "chk"
  item : ∀ i ∈ db.checkoutItems, i.checkoutItemId ≠ env.newId "cki"
  reservation : ∀ r ∈ db.reservations,
    r.reservationId ≠ env.newId "rsv" ∧ r.checkoutId ≠ env.newId "chk"
  flushable : db.flushable = true

/-- What the offer service reads of an offer of a merchant. -/
def offerOf (env : Env) (merchantId offerId : String) (db : Database) : Option OfferV1 := do
  let offer ← db.offers.first fun o => o.offerId == offerId && o.merchantId == merchantId
  let product ← db.products.first fun p => p.productId == offer.productId
  let inventory ← db.inventory.first fun i => i.offerId == offer.offerId
  offerToSchema env.reading offer product inventory

section

variable {env : Env} {w w' : World} {db : Database} {buyerId merchantId offerId : String}
  {quantity ttl : ℤ}

theorem getOfferById_iff {v : OfferV1} :
    getOfferById env merchantId offerId w = .ok v w' ↔
      offerOf env merchantId offerId w.db = some v ∧ w = w' := by
  simp only [getOfferById, offerOf, Work.bind_eq_ok, require_eq_ok, ofAnswer_eq_ok,
    Option.bind_eq_bind, Option.bind_eq_some_iff]
  constructor
  · rintro ⟨offer, _, ⟨hoffer, rfl⟩, product, _, ⟨hproduct, rfl⟩, inventory, _, ⟨hinventory, rfl⟩,
      hv, rfl⟩
    refine ⟨⟨offer, hoffer, product, hproduct, inventory, hinventory, ?_⟩, rfl⟩
    cases hschema : offerToSchema env.reading offer product inventory with
    | none => simp [hschema] at hv
    | some v' => simpa [hschema] using hv
  · rintro ⟨⟨offer, hoffer, product, hproduct, inventory, hinventory, hv⟩, rfl⟩
    exact ⟨offer, _, ⟨hoffer, rfl⟩, product, _, ⟨hproduct, rfl⟩, inventory, _, ⟨hinventory, rfl⟩,
      by rw [hv]; rfl, rfl⟩

/-- A row that clashes with none is inserted. -/
theorem exists_insert {α : Type} [Keyed α] {t : Table α} {a : α}
    (h : ∀ b ∈ t, clashes b a = false) : ∃ u, t.insert? a = some u := by
  cases hinsert : t.insert? a with
  | some u => exact ⟨u, rfl⟩
  | none =>
      obtain ⟨b, hb, hclash⟩ := Table.insert?_eq_none.1 hinsert
      rw [h b hb] at hclash
      exact Bool.noConfusion hclash

/-- The buyer is provided for, and nothing else is stored. -/
theorem ensureBuyer_returns (hflush : w.db.flushable = true) :
    ∃ buyers, Checkout.ensureBuyer buyerId merchantId w =
      .ok () { w with db := { w.db with buyers } } := by
  cases hfound : w.db.buyers.first fun b => b.buyerId == buyerId with
  | some b =>
      refine ⟨w.db.buyers, ?_⟩
      rw [Checkout.ensureBuyer]
      refine Work.bind_eq_ok.2 ⟨_, _, query_eq_ok.2 ⟨hfound, rfl⟩, ?_⟩
      exact Work.pure_eq_ok.2 ⟨rfl, rfl⟩
  | none =>
      obtain ⟨buyers, hbuyers⟩ := @exists_insert _ _ w.db.buyers
        { buyerId, tenantId := merchantId } fun b hb => by
          simpa [clashes, Keyed.clash, Keyed.key] using Table.first_eq_none.1 hfound b hb
      refine ⟨buyers, ?_⟩
      rw [Checkout.ensureBuyer]
      refine Work.bind_eq_ok.2 ⟨_, _, query_eq_ok.2 ⟨hfound, rfl⟩, ?_⟩
      refine Work.bind_eq_ok.2 ⟨(), { w with db := { w.db with buyers } },
        insert_eq_ok.2 ⟨{ w.db with buyers }, ?_, rfl⟩, flush_eq_ok.2 ⟨hflush, rfl⟩⟩
      rw [hbuyers]
      rfl

/-- What is asked for is taken out of what has as much left. -/
theorem reserve_returns {i : Inventory} (hi : w.db.inventory.first (fun i =>
      i.offerId == offerId && decide (quantity ≤ i.availableQuantity - i.reservedQuantity)) =
        some i) :
    ∃ result inventory, Inventory.reserve offerId quantity w =
      .ok (some result) { w with db := { w.db with inventory } } := by
  let found := w.db.inventory.updateReturning
    (fun i => i.offerId == offerId &&
      decide (quantity ≤ i.availableQuantity - i.reservedQuantity))
    (fun i => { i with reservedQuantity := i.reservedQuantity + quantity
                       version := i.version + 1 }) fun _ => rfl
  refine ⟨⟨i.availableQuantity, i.reservedQuantity + quantity, i.version + 1⟩, found.2, ?_⟩
  rw [Inventory.reserve, Work.bind_of_ok (query_eq_ok.2 ⟨rfl, rfl⟩),
    Work.bind_of_ok ((@update_eq_ok _ _ _ ()).2 rfl), Table.updateReturning, hi]
  rfl

/-- A hold that is taken has as much left. -/
theorem stock_of_reserveStock {checkoutId : String} {r : Reservation}
    (h : Inventory.reserveStock env offerId checkoutId quantity none w = .ok r w') :
    0 < quantity ∧ ∃ i ∈ w.db.inventory,
      i.offerId = offerId ∧ quantity ≤ i.availableQuantity - i.reservedQuantity := by
  revert h
  simp only [Inventory.reserveStock, Inventory.reserve, Inventory.appendStockEvent,
    appendTransitionEvent, Table.updateReturning, Work.bind_eq_ok, query_eq_ok, update_eq_ok,
    raiseIf_eq_ok, ofAnswer_eq_ok, insert_eq_ok, flush_eq_ok, appendEvent_eq_ok, Work.pure_eq_ok,
    Option.map_eq_some_iff]
  rintro ⟨_, _, ⟨hquantity, rfl⟩, _, _, ⟨_, _, ⟨rfl, rfl⟩, _, _, rfl, rfl, rfl⟩, _, _,
    ⟨hfound, rfl⟩, _⟩
  cases hi : w.db.inventory.first (fun i => i.offerId == offerId &&
      decide (quantity ≤ i.availableQuantity - i.reservedQuantity)) with
  | none =>
      rw [hi] at hfound
      cases hfound
  | some i =>
      obtain ⟨hmem, hmatch⟩ := Table.first_eq_some hi
      simp only [Bool.and_eq_true, beq_iff_eq, decide_eq_true_eq] at hmatch
      exact ⟨by omega, i, hmem, hmatch⟩

/-- A hold is taken of what has as much left. -/
theorem reserveStock_returns {checkoutId : String} (hflush : w.db.flushable = true)
    (hfresh : ∀ r ∈ w.db.reservations,
      r.reservationId ≠ env.newId "rsv" ∧ r.checkoutId ≠ checkoutId) (hquantity : 0 < quantity)
    {i : Inventory} (hmem : i ∈ w.db.inventory) (hoffer : i.offerId = offerId)
    (hleft : quantity ≤ i.availableQuantity - i.reservedQuantity) :
    ∃ r w', Inventory.reserveStock env offerId checkoutId quantity none w = .ok r w' := by
  have hi : w.db.inventory.first (fun i => i.offerId == offerId &&
      decide (quantity ≤ i.availableQuantity - i.reservedQuantity)) = some i := by
    refine Table.first_of_mem hmem (by simp [hoffer, hleft]) fun j hj hmatch => ?_
    simp only [Bool.and_eq_true, beq_iff_eq, decide_eq_true_eq] at hmatch
    exact Table.eq_of_clash hj hmem
      (by simp [clashes, Keyed.clash, Keyed.key, hmatch.1, hoffer])
  obtain ⟨result, inventory, hreserve⟩ := reserve_returns hi
  let hold : Reservation :=
    { reservationId := env.newId "rsv", checkoutId, offerId, quantity, status := .held,
      createdAt := env.now }
  obtain ⟨reservations, hheld⟩ := @exists_insert _ _ w.db.reservations hold fun r hr => by
    simpa [clashes, Keyed.clash, Keyed.key, hold] using hfresh r hr
  have hflush' : ({ w with db := { w.db with inventory, reservations } } : World).db.flushable =
      true := hflush
  rw [Inventory.reserveStock, Work.bind_of_ok (raiseIf_of_not (by omega)),
    Work.bind_of_ok hreserve, Option.elim_some, Work.bind_of_ok (ofAnswer_eq_ok.2 ⟨rfl, rfl⟩),
    Work.bind_of_ok ((@insert_eq_ok _ _ _ ()).2
      ⟨{ w.db with inventory, reservations }, by rw [hheld]; rfl, rfl⟩),
    Work.bind_of_ok ((@flush_eq_ok _ _ ()).2 ⟨hflush', rfl⟩)]
  exact ⟨hold, _, rfl⟩

/-- Providing for a buyer leaves the stock alone. -/
theorem inventory_ensureBuyer {u : Unit}
    (h : Checkout.ensureBuyer buyerId merchantId w = .ok u w') : w'.db.inventory = w.db.inventory := by
  rw [Checkout.ensureBuyer] at h
  obtain ⟨found, _, hquery, hrest⟩ := Work.bind_eq_ok.1 h
  obtain ⟨rfl, rfl⟩ := query_eq_ok.1 hquery
  cases hfound : w.db.buyers.first fun b => b.buyerId == buyerId with
  | some b =>
      rw [hfound] at hrest
      obtain ⟨-, rfl⟩ := Work.pure_eq_ok.1 hrest
      rfl
  | none =>
      rw [hfound] at hrest
      obtain ⟨_, _, hinsert, hflush⟩ := Work.bind_eq_ok.1 hrest
      obtain ⟨_, hmap, rfl⟩ := insert_eq_ok.1 hinsert
      obtain ⟨_, _, rfl⟩ := Option.map_eq_some_iff.1 hmap
      obtain ⟨-, rfl⟩ := flush_eq_ok.1 hflush
      rfl

/-- What was read of an offer of which a checkout is created. -/
theorem reads_of_createCheckout {v : CheckoutV1}
    (h : createCheckout env buyerId merchantId offerId quantity ttl w = .ok v w') :
    0 < quantity ∧ ∃ offer, offerOf env merchantId offerId w.db = some offer ∧
      offer.status = .active ∧ env.now < offer.expiresAt ∧ ∃ i ∈ w.db.inventory,
        i.offerId = offerId ∧ quantity ≤ i.availableQuantity - i.reservedQuantity := by
  simp only [createCheckout, Work.bind_eq_ok, raiseIf_eq_ok, insert_eq_ok, flush_eq_ok,
    Option.map_eq_some_iff] at h
  obtain ⟨offer, _, hoffer, _, _, ⟨hactive, rfl⟩, _, _, ⟨hexpiry, rfl⟩, _, _, ⟨_, rfl⟩, _, w₁,
    hbuyer, _, _, ⟨_, ⟨_, _, rfl⟩, rfl⟩, _, _, ⟨_, ⟨_, _, rfl⟩, rfl⟩, _, _, ⟨_, rfl⟩, r, w₂,
    hres, _⟩ := h
  obtain ⟨hread, rfl⟩ := getOfferById_iff.1 hoffer
  obtain ⟨hquantity, i, hi, hleft⟩ := stock_of_reserveStock hres
  have hstock := inventory_ensureBuyer hbuyer
  exact ⟨hquantity, offer, hread, not_not.1 hactive, not_le.1 hexpiry, i, hstock ▸ hi, hleft⟩

/-- **When a checkout is created**: of an offer that is read, active and not expired, with as much
left as is asked for, of which there is something. -/
theorem createCheckout_returns_iff (hstorable : Storable env w.db) :
    (∃ v w', createCheckout env buyerId merchantId offerId quantity ttl w = .ok v w') ↔
      0 < quantity ∧ ∃ v, offerOf env merchantId offerId w.db = some v ∧ v.status = .active ∧
        env.now < v.expiresAt ∧ ∃ i ∈ w.db.inventory,
          i.offerId = offerId ∧ quantity ≤ i.availableQuantity - i.reservedQuantity := by
  constructor
  · rintro ⟨v, w', h⟩
    exact reads_of_createCheckout h
  · rintro ⟨hquantity, offer, hread, hactive, hexpiry, i, hi, hid, hleft⟩
    obtain ⟨buyers, hbuyer⟩ := @ensureBuyer_returns w buyerId merchantId hstorable.flushable
    let row := rowOf env offer buyerId merchantId offerId quantity (env.now + minutes ttl)
    obtain ⟨checkouts, hcheckouts⟩ := @exists_insert _ _ w.db.checkouts row fun c hc =>
      beq_false_of_ne (hstorable.checkout c hc)
    obtain ⟨checkoutItems, hitems⟩ := @exists_insert _ _ w.db.checkoutItems
      { checkoutItemId := env.newId "cki", checkoutId := row.checkoutId, offerId, quantity,
        unitPriceMinor := offer.unitPriceMinor, totalMinor := row.subtotalMinor } fun i hi =>
      beq_false_of_ne (hstorable.item i hi)
    let stored : World := { w with db := { w.db with buyers, checkouts, checkoutItems } }
    have hflush : stored.db.flushable = true := hstorable.flushable
    obtain ⟨r, w', hres⟩ := @reserveStock_returns env stored offerId quantity row.checkoutId
      hflush hstorable.reservation hquantity i hi hid hleft
    rw [createCheckout, Work.bind_of_ok (getOfferById_iff.2 ⟨hread, rfl⟩),
      Work.bind_of_ok (raiseIf_of_not (not_not.2 hactive)),
      Work.bind_of_ok (raiseIf_of_not (not_le.2 hexpiry)),
      Work.bind_of_ok (raiseIf_of_not (by omega)), Work.bind_of_ok hbuyer,
      Work.bind_of_ok ((@insert_eq_ok _ _ _ ()).2
        ⟨{ w.db with buyers, checkouts }, by rw [hcheckouts]; rfl, rfl⟩),
      Work.bind_of_ok ((@insert_eq_ok _ _ _ ()).2
        ⟨{ w.db with buyers, checkouts, checkoutItems }, by rw [hitems]; rfl, rfl⟩),
      Work.bind_of_ok ((@flush_eq_ok _ _ ()).2 ⟨hflush, rfl⟩), Work.bind_of_ok hres]
    exact ⟨_, _, rfl⟩

/-- **What can be bought**: an offer that is read, active and not expired, with one left. -/
theorem accepts_iff {db : Database} (hstorable : Storable env db) :
    Accepts env buyerId merchantId offerId db ↔
      ∃ v, offerOf env merchantId offerId db = some v ∧ v.status = .active ∧
        env.now < v.expiresAt ∧
        ∃ i ∈ db.inventory, i.offerId = offerId ∧ 1 ≤ i.availableQuantity - i.reservedQuantity :=
  (createCheckout_returns_iff (w := { db }) hstorable).trans (and_iff_right (by decide))

end

end Checkout
end AgenticCommerce
