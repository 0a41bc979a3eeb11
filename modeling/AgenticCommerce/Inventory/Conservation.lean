/-
# Stock is conserved

Runs of the inventory service: reservations, releases and commits for any
checkouts, and imports of any offers, each one atomic unit of work.  Every one of
them is a `StockChange`, so the invariant holds in every state of a run, a
reservation leaves `held` at most once, and between imports of an offer what is
available drops by exactly what is committed (`inventory_conserved`).
-/

import AgenticCommerce.Inventory.Stock

namespace AgenticCommerce

open Relational Stock

/-! ### The operations change the stock -/

theorem release_settles (now : Time) :
    Settles .released (fun r => { r with status := .released, releasedAt := some now })
      (fun q i => { i with
        reservedQuantity := i.reservedQuantity - q, version := i.version + 1 }) :=
  ⟨by decide, fun _ => rfl, fun _ => ⟨rfl, rfl, rfl⟩, fun _ _ => rfl, fun _ _ => by simp⟩

theorem commit_settles (now : Time) :
    Settles .committed (fun r => { r with status := .committed, committedAt := some now })
      (fun q i => { i with
        reservedQuantity := i.reservedQuantity - q, availableQuantity := i.availableQuantity - q,
        version := i.version + 1 }) :=
  ⟨by decide, fun _ => rfl, fun _ => ⟨rfl, rfl, rfl⟩, fun _ _ => rfl, fun _ _ => by simp⟩

section

variable {w w' : World} {imported : Option String}

/-- **The second statement matches when the first did.**  Ending a hold changes
the stock, and answers whether there was a hold to end. -/
theorem settle_change (h : w.db.stock.Stocked) {status : ReservationStatus}
    {leave : Reservation → Reservation} {take : ℤ → Inventory → Inventory}
    {hleave : ∀ r, Keyed.key (leave r) = Keyed.key r}
    {htake : ∀ q i, Keyed.key (take q i) = Keyed.key i} (hset : Settles status leave take)
    {reservationId : String} {b : Bool}
    (hrun : Inventory.settle reservationId leave take hleave htake w = .ok b w') :
    StockChange imported w.db.stock w'.db.stock ∧
      (b = true ↔ w.db.stock.Holds reservationId) := by
  simp only [Inventory.settle, Table.updateReturning, Work.bind_eq_ok, query_eq_ok,
    update_eq_ok] at hrun
  obtain ⟨_, _, ⟨rfl, rfl⟩, _, _, rfl, hrun⟩ := hrun
  cases hfirst : w.db.reservations.first
      (fun r => r.reservationId == reservationId && r.status == .held) with
  | none =>
      rw [hfirst] at hrun
      simp only [Option.map_none, Work.pure_eq_ok] at hrun
      obtain ⟨rfl, rfl⟩ := hrun
      have hno := Table.first_eq_none.1 hfirst
      rw [Table.modify_of_forall_not _ _ hno]
      refine ⟨.refl h _, fun hfalse => absurd hfalse Bool.false_ne_true, ?_⟩
      rintro ⟨r, hr, hid, hs⟩
      have hr' := hno r hr
      simp [hid, hs] at hr'
  | some r =>
      rw [hfirst] at hrun
      obtain ⟨hr, hmatch⟩ := Table.first_eq_some hfirst
      simp only [Bool.and_eq_true, beq_iff_eq] at hmatch
      obtain ⟨rfl, hs⟩ := hmatch
      simp only [Option.map_some, Work.bind_eq_ok, query_eq_ok, update_eq_ok,
        Work.pure_eq_ok] at hrun
      obtain ⟨_, _, ⟨rfl, rfl⟩, _, _, rfl, hb, rfl⟩ := hrun
      obtain ⟨i, hi, ho⟩ := h.listed r hr
      have hle := h.quantity_le hr hs hi ho
      simp only [(hset.keeps r).2.1, (hset.keeps r).2.2] at hb ⊢
      refine ⟨h.settle hleave (htake _) hset hr hs, ⟨fun _ => ⟨r, hr, rfl, hs⟩, fun _ => ?_⟩⟩
      rw [← hb]
      cases hi' : w.db.inventory.first
          (fun i => i.offerId == r.offerId && decide (r.quantity ≤ i.reservedQuantity)) with
      | none =>
          have hno := Table.first_eq_none.1 hi' i hi
          simp [ho, hle] at hno
      | some j => rfl

theorem reserveStock_change (h : w.db.stock.Stocked) {env : Env} {offerId checkoutId : String}
    {quantity : ℤ} {merchantId : Option String} {r : Reservation}
    (hrun : Inventory.reserveStock env offerId checkoutId quantity merchantId w = .ok r w') :
    StockChange imported w.db.stock w'.db.stock := by
  simp only [Inventory.reserveStock, Inventory.reserve, Inventory.appendStockEvent,
    appendTransitionEvent, Table.updateReturning, Work.bind_eq_ok, query_eq_ok, update_eq_ok,
    raiseIf_eq_ok, ofAnswer_eq_ok, insert_eq_ok, flush_eq_ok, appendEvent_eq_ok, Work.pure_eq_ok,
    Option.map_eq_some_iff] at hrun
  obtain ⟨_, _, ⟨hq, rfl⟩, _, _, ⟨_, _, ⟨rfl, rfl⟩, _, _, rfl, rfl, rfl⟩, result, _,
    ⟨hfound, rfl⟩, _, _, ⟨_, ⟨res, hins, rfl⟩, rfl⟩, _, _, ⟨_, rfl⟩, _, _, ⟨_, _, ⟨rfl, rfl⟩, rfl⟩,
    rfl, rfl⟩ := hrun
  cases hfirst : w.db.inventory.first (fun i =>
      i.offerId == offerId && decide (quantity ≤ i.availableQuantity - i.reservedQuantity)) with
  | none =>
      rw [hfirst] at hfound
      cases hfound
  | some i =>
      obtain ⟨hi, hmatch⟩ := Table.first_eq_some hfirst
      simp only [Bool.and_eq_true, beq_iff_eq, decide_eq_true_eq] at hmatch
      exact h.hold (by simp only; omega) rfl hi hmatch.1 hmatch.2 hins

theorem releaseStock_change (h : w.db.stock.Stocked) {env : Env} {checkoutId : String}
    {merchantId : Option String} {u : Unit}
    (hrun : Inventory.releaseStock env checkoutId merchantId w = .ok u w') :
    StockChange imported w.db.stock w'.db.stock := by
  simp only [Inventory.releaseStock, Inventory.assertCheckoutTenant, Work.bind_eq_ok, query_eq_ok,
    raiseIf_eq_ok] at hrun
  obtain ⟨_, _, ⟨_, _, ⟨rfl, rfl⟩, _, rfl⟩, _, _, ⟨rfl, rfl⟩, hrun⟩ := hrun
  cases hfound : Inventory.getReservation checkoutId w.db with
  | none =>
    rw [hfound] at hrun
    obtain ⟨_, rfl⟩ := Work.pure_eq_ok.1 hrun
    exact .refl h _
  | some r =>
    rw [hfound] at hrun
    simp only at hrun
    split_ifs at hrun
    · obtain ⟨_, rfl⟩ := Work.pure_eq_ok.1 hrun
      exact .refl h _
    · simp only [Work.bind_eq_ok] at hrun
      obtain ⟨b, v, hrel, hrun⟩ := hrun
      have hchange : StockChange imported w.db.stock v.db.stock :=
        (settle_change h (release_settles _) hrel).1
      rw [unlessTrue] at hrun
      split_ifs at hrun
      · obtain ⟨_, rfl⟩ := Work.pure_eq_ok.1 hrun
        exact hchange
      · simp only [Inventory.appendStockEvent, appendTransitionEvent, Work.bind_eq_ok, query_eq_ok,
          appendEvent_eq_ok] at hrun
        obtain ⟨_, _, ⟨rfl, rfl⟩, rfl⟩ := hrun
        exact hchange

theorem commitStock_change (h : w.db.stock.Stocked) {env : Env} {checkoutId : String}
    {merchantId : Option String} {u : Unit}
    (hrun : Inventory.commitStock env checkoutId merchantId w = .ok u w') :
    StockChange imported w.db.stock w'.db.stock := by
  simp only [Inventory.commitStock, Inventory.assertCheckoutTenant, Work.bind_eq_ok, query_eq_ok,
    require_eq_ok, raiseIf_eq_ok] at hrun
  obtain ⟨_, _, ⟨_, _, ⟨rfl, rfl⟩, _, rfl⟩, r, _, ⟨_, rfl⟩, hrun⟩ := hrun
  split_ifs at hrun
  · obtain ⟨_, rfl⟩ := Work.pure_eq_ok.1 hrun
    exact .refl h _
  · simp only [Inventory.appendStockEvent, appendTransitionEvent, Work.bind_eq_ok, raiseIf_eq_ok,
      query_eq_ok, appendEvent_eq_ok] at hrun
    obtain ⟨_, _, ⟨_, rfl⟩, b, _, hcom, _, _, ⟨_, rfl⟩, _, _, ⟨rfl, rfl⟩, rfl⟩ := hrun
    exact (settle_change h (commit_settles _) hcom).1

theorem importInventory_change (h : w.db.stock.Stocked) {offerId : String} {quantity : ℤ}
    {u : Unit} (hrun : Inventory.importInventory offerId quantity w = .ok u w') :
    StockChange (some offerId) w.db.stock w'.db.stock := by
  simp only [Inventory.importInventory, Work.bind_eq_ok, query_eq_ok] at hrun
  obtain ⟨_, _, ⟨rfl, rfl⟩, hrun⟩ := hrun
  cases hfound : w.db.inventory.first (fun i => i.offerId == offerId) with
  | none =>
    rw [hfound] at hrun
    simp only [Work.bind_eq_ok, raiseIf_eq_ok, insert_eq_ok, Option.map_eq_some_iff] at hrun
    obtain ⟨_, _, ⟨hq, rfl⟩, _, ⟨inv, hins, rfl⟩, rfl⟩ := hrun
    exact h.list (by simp only; omega) rfl hins
  | some i =>
    rw [hfound] at hrun
    obtain rfl := update_eq_ok.1 hrun
    exact h.restock offerId quantity

end

/-! ### Runs -/

/-- The operations of the inventory service, and the import of an offer's stock. -/
inductive StockOp where
  | reserve (offerId checkoutId : String) (quantity : ℤ) (merchantId : Option String)
  | release (checkoutId : String) (merchantId : Option String)
  | commit (checkoutId : String) (merchantId : Option String)
  | importOffer (offerId : String) (quantity : ℤ)

namespace StockOp

/-- The world after the operation, a unit of work of its own. -/
def run (env : Env) (w : World) : StockOp → World
  | reserve o c q m => request (Inventory.reserveStock env o c q m) w
  | release c m => request (Inventory.releaseStock env c m) w
  | commit c m => request (Inventory.commitStock env c m) w
  | importOffer o q => request (Inventory.importInventory o q) w

/-- The offer whose stock the operation imports. -/
def imports : StockOp → Option String
  | importOffer o _ => some o
  | _ => none

end StockOp

/-- Some operation leads from `w` to `w'`. -/
def StockStep (w w' : World) : Prop := ∃ env op, w' = StockOp.run env w op

/-- Some operation other than an import of `offerId` leads from `w` to `w'`. -/
def StockStepBut (offerId : String) (w w' : World) : Prop :=
  ∃ env op, op.imports ≠ some offerId ∧ w' = StockOp.run env w op

/-- The run leaves the hold with that identifier behind in this step. -/
def EndsHold (reservationId : String) (w w' : World) : Prop :=
  w.db.stock.Holds reservationId ∧ ¬w'.db.stock.Holds reservationId

/-- No reservation is stored and nothing is counted as reserved. -/
def Unreserved (db : Database) : Prop :=
  db.reservations.rows = [] ∧
    ∀ i ∈ db.inventory, i.reservedQuantity = 0 ∧ 0 ≤ i.availableQuantity

theorem Unreserved.stocked {db : Database} (h : Unreserved db) : db.stock.Stocked := by
  have hnone : ∀ r, ¬r ∈ db.stock.reservations := fun r hr => by
    change r ∈ db.reservations.rows at hr
    rw [h.1] at hr
    exact List.not_mem_nil hr
  have hzero : ∀ s o, quantityIn db.stock.reservations s o = 0 := fun s o => by
    change (db.reservations.rows.map _).sum = 0
    rw [h.1]
    rfl
  exact ⟨fun i hi => (h.2 i hi).1.ge, fun i hi => (h.2 i hi).1.trans_le (h.2 i hi).2,
    fun i hi => (h.2 i hi).1.trans (hzero _ _).symm, fun r hr => absurd hr (hnone r),
    fun r hr => absurd hr (hnone r)⟩

/-- **Every operation is a change of the stock.** -/
theorem StockOp.change {env : Env} {w : World} (h : w.db.stock.Stocked) (op : StockOp) :
    StockChange op.imports w.db.stock (op.run env w).db.stock := by
  have lift : ∀ {α : Type} (imported : Option String) (m : Op α),
      (∀ a w', m w = .ok a w' → StockChange imported w.db.stock w'.db.stock) →
      StockChange imported w.db.stock (request m w).db.stock := fun imported m hm =>
    request_induction (P := fun db => StockChange imported w.db.stock db.stock) (.refl h _)
      fun a w' hrun _ => hm a w' hrun
  cases op with
  | reserve o c q m => exact lift _ _ fun _ _ => reserveStock_change h
  | release c m => exact lift _ _ fun _ _ => releaseStock_change h
  | commit c m => exact lift _ _ fun _ _ => commitStock_change h
  | importOffer o q => exact lift _ _ fun _ _ => importInventory_change h

theorem StockStep.change {w w' : World} (h : w.db.stock.Stocked) (hstep : StockStep w w') :
    ∃ imported, StockChange imported w.db.stock w'.db.stock := by
  obtain ⟨env, op, rfl⟩ := hstep
  exact ⟨_, op.change h⟩

/-- **The invariant holds throughout a run.** -/
theorem stocked_of_run {w w' : World} (h : w.db.stock.Stocked)
    (hrun : Relation.ReflTransGen StockStep w w') : w'.db.stock.Stocked := by
  refine invariant_of_steps (I := fun w : World => w.db.stock.Stocked) (fun u v hu huv => ?_) h hrun
  obtain ⟨_, hchange⟩ := huv.change hu
  exact hchange.stocked

/-- A reservation that has left `held` stays as it is. -/
theorem settled_of_run {w w' : World} (h : w.db.stock.Stocked)
    (hrun : Relation.ReflTransGen StockStep w w') {r : Reservation} (hr : r ∈ w.db.reservations)
    (hs : r.status ≠ .held) : r ∈ w'.db.reservations := by
  induction hrun with
  | refl => exact hr
  | @tail u v hwu huv ih =>
      obtain ⟨_, hchange⟩ := huv.change (stocked_of_run h hwu)
      obtain ⟨r', hr', _, heq⟩ := hchange.persists r ih
      rw [heq hs] at hr'
      exact hr'

/-- What is available and what is committed add up to the same, imports of the
offer apart. -/
theorem traded_of_run {w w' : World} (h : w.db.stock.Stocked) {offerId : String}
    (hrun : Relation.ReflTransGen (StockStepBut offerId) w w') {i : Inventory}
    (hi : i ∈ w.db.inventory) (ho : i.offerId = offerId) :
    w'.db.stock.Stocked ∧ ∃ i' ∈ w'.db.inventory, i'.offerId = offerId ∧
      i'.availableQuantity + quantityIn w'.db.reservations .committed offerId =
        i.availableQuantity + quantityIn w.db.reservations .committed offerId := by
  induction hrun with
  | refl => exact ⟨h, i, hi, ho, rfl⟩
  | @tail u v _ huv ih =>
      obtain ⟨hu, j, hj, hjo, hjsum⟩ := ih
      obtain ⟨env, op, hop, rfl⟩ := huv
      have hchange : StockChange op.imports u.db.stock (op.run env u).db.stock := op.change hu
      obtain ⟨i', hi', hio', hsum⟩ := hchange.conserves j hj (by rw [hjo]; exact hop)
      rw [hjo] at hio' hsum
      exact ⟨hchange.stocked, i', hi', hio', hsum.trans hjsum⟩

/-- **Inventory conservation.**  In every state of every run from a state without
reservations: the reserved quantity of each offer lies between zero and what is
available and is the sum of its held reservations; no reservation leaves `held`
twice; between imports of an offer its available quantity drops by what its
committed reservations rise by; and the second statement of `release` and of
`commit` matches a row whenever the first did. -/
theorem inventory_conserved {w₀ w : World} (h₀ : Unreserved w₀.db)
    (hrun : Relation.ReflTransGen StockStep w₀ w) :
    (∀ i ∈ w.db.inventory, 0 ≤ i.reservedQuantity ∧ i.reservedQuantity ≤ i.availableQuantity ∧
      i.reservedQuantity = quantityIn w.db.reservations .held i.offerId) ∧
    (∀ reservationId w₁ w₂ w₃ w₄, Relation.ReflTransGen StockStep w w₁ → StockStep w₁ w₂ →
      EndsHold reservationId w₁ w₂ → Relation.ReflTransGen StockStep w₂ w₃ → StockStep w₃ w₄ →
      ¬EndsHold reservationId w₃ w₄) ∧
    (∀ offerId w', Relation.ReflTransGen (StockStepBut offerId) w w' → ∀ i ∈ w.db.inventory,
      i.offerId = offerId → ∃ i' ∈ w'.db.inventory, i'.offerId = offerId ∧
        i.availableQuantity - i'.availableQuantity =
          quantityIn w'.db.reservations .committed offerId -
            quantityIn w.db.reservations .committed offerId) ∧
    ∀ now reservationId b w', w.db.stock.Holds reservationId →
      (Inventory.release now reservationId w = .ok b w' ∨
        Inventory.commit now reservationId w = .ok b w') → b = true := by
  have h := stocked_of_run h₀.stocked hrun
  refine ⟨fun i hi => ?_, fun id w₁ w₂ w₃ w₄ hw₁ hw₂ hend hw₃ _ hend' => ?_,
    fun o w' hw' i hi ho => ?_, fun now id b w' hheld hop => ?_⟩
  · exact ⟨h.reserved_nonneg i hi, h.reserved_le i hi, h.reserved_eq i hi⟩
  · have h₁ := stocked_of_run h hw₁
    obtain ⟨_, hchange⟩ := hw₂.change h₁
    obtain ⟨⟨r, hr, rfl, hs⟩, hleft⟩ := hend
    obtain ⟨r', hr', hid, _⟩ := hchange.persists r hr
    have hs' : r'.status ≠ .held := fun hs' => hleft ⟨r', hr', hid, hs'⟩
    have hkept := settled_of_run hchange.stocked hw₃ hr' hs'
    obtain ⟨⟨r'', hr'', hid'', hs''⟩, _⟩ := hend'
    have hsame := reservation_unique hr'' hkept (hid''.trans hid.symm)
    rw [hsame] at hs''
    exact hs' hs''
  · obtain ⟨_, i', hi', hio', hsum⟩ := traded_of_run h hw' hi ho
    exact ⟨i', hi', hio', by omega⟩
  · rcases hop with hop | hop
    · exact (settle_change h (release_settles now) hop : StockChange none _ _ ∧ _).2.2 hheld
    · exact (settle_change h (commit_settles now) hop : StockChange none _ _ ∧ _).2.2 hheld

/-- Five pieces of one offer, none of them reserved. -/
def fivePieces : World :=
  { db := { inventory := ⟨[{ offerId := "ofr", availableQuantity := 5 }], by decide⟩ } }

/-- Two pieces after they were reserved and committed. -/
def twoSold : World :=
  (StockOp.commit "chk" none).run default
    ((StockOp.reserve "ofr" "chk" 2 none).run default fivePieces)

theorem inventory_conserved_twoSold : twoSold.db.inventory.rows.length = 1 ∧
    ∀ i ∈ twoSold.db.inventory, 0 ≤ i.reservedQuantity ∧
      i.reservedQuantity ≤ i.availableQuantity ∧
      i.reservedQuantity = quantityIn twoSold.db.reservations .held i.offerId :=
  ⟨by decide, (inventory_conserved (w := twoSold) ⟨rfl, by decide⟩
    (.tail (.tail .refl ⟨default, _, rfl⟩) ⟨default, .commit "chk" none, rfl⟩)).1⟩

example : twoSold.db.inventory.rows = [{ offerId := "ofr", availableQuantity := 3, version := 3 }] := by
  decide

end AgenticCommerce
