/-
# The stock and its invariant

`Stock` is the part of the store the inventory service works on, the counters and
the reservations, and `Stocked` the invariant that ties the two tables: the
reserved quantity of an offer is the sum of its held reservations, and lies
between zero and what is available.

The stock changes in four ways: a hold (`Stocked.hold`), the end of a hold
(`Stocked.settle`), and an import of an offer, listed (`Stocked.restock`) or not
yet (`Stocked.list`).  Each is a `StockChange`: it keeps the invariant, never
touches a reservation that has left `held`, and trades available quantity for
committed quantity one for one, imports apart.  That a held reservation is covered
by the counter of its offer (`Stocked.quantity_le`) is what makes the guard of the
second statement of `release` and `commit` hold.
-/

import AgenticCommerce.Inventory.Service

namespace AgenticCommerce

open Relational

/-- The tables of the inventory service. -/
structure Stock where
  inventory : Table Inventory
  reservations : Table Reservation

/-- The stock of a store. -/
def Database.stock (db : Database) : Stock := ⟨db.inventory, db.reservations⟩

@[simp] theorem stock_appendAudit (db : Database) (event : AuditEvent) :
    (db.appendAudit event).stock = db.stock := rfl

/-- The sum of the quantities of an offer's reservations with a status. -/
def quantityIn (reservations : Table Reservation) (status : ReservationStatus)
    (offerId : String) : ℤ :=
  reservations.total fun r => if r.offerId = offerId ∧ r.status = status then r.quantity else 0

namespace Stock

/-- Some reservation with that identifier is held. -/
def Holds (k : Stock) (reservationId : String) : Prop :=
  ∃ r ∈ k.reservations, r.reservationId = reservationId ∧ r.status = .held

/-- **The invariant of the inventory service.** -/
structure Stocked (k : Stock) : Prop where
  reserved_nonneg : ∀ i ∈ k.inventory, 0 ≤ i.reservedQuantity
  reserved_le : ∀ i ∈ k.inventory, i.reservedQuantity ≤ i.availableQuantity
  reserved_eq : ∀ i ∈ k.inventory, i.reservedQuantity = quantityIn k.reservations .held i.offerId
  quantity_pos : ∀ r ∈ k.reservations, 1 ≤ r.quantity
  listed : ∀ r ∈ k.reservations, ∃ i ∈ k.inventory, i.offerId = r.offerId

/-- A change of the stock by an operation other than an import of `imported`. -/
structure StockChange (imported : Option String) (k k' : Stock) : Prop where
  stocked : k'.Stocked
  persists : ∀ r ∈ k.reservations, ∃ r' ∈ k'.reservations, r'.reservationId = r.reservationId ∧
    (r.status ≠ .held → r' = r)
  conserves : ∀ i ∈ k.inventory, imported ≠ some i.offerId → ∃ i' ∈ k'.inventory,
    i'.offerId = i.offerId ∧
      i'.availableQuantity + quantityIn k'.reservations .committed i.offerId =
        i.availableQuantity + quantityIn k.reservations .committed i.offerId

theorem StockChange.refl {k : Stock} (h : k.Stocked) (imported : Option String) :
    StockChange imported k k :=
  ⟨h, fun r hr => ⟨r, hr, rfl, fun _ => rfl⟩, fun i hi _ => ⟨i, hi, rfl, rfl⟩⟩

theorem reservation_unique {t : Table Reservation} {r r' : Reservation} (hr : r ∈ t)
    (hr' : r' ∈ t) (h : r.reservationId = r'.reservationId) : r = r' :=
  Table.eq_of_clash hr hr' (by simp [clashes, Keyed.clash, Keyed.key, h])

theorem inventory_unique {t : Table Inventory} {i i' : Inventory} (hi : i ∈ t) (hi' : i' ∈ t)
    (h : i.offerId = i'.offerId) : i = i' :=
  Table.eq_of_clash hi hi' (by simp [clashes, Keyed.clash, Keyed.key, h])

/-- What a held reservation asks back is covered by the counter of its offer. -/
theorem Stocked.quantity_le {k : Stock} (h : k.Stocked) {r : Reservation}
    (hr : r ∈ k.reservations) (hs : r.status = .held) {i : Inventory} (hi : i ∈ k.inventory)
    (ho : i.offerId = r.offerId) : r.quantity ≤ i.reservedQuantity := by
  have hnonneg : ∀ x ∈ k.reservations,
      0 ≤ if x.offerId = r.offerId ∧ x.status = .held then x.quantity else 0 := by
    intro x hx
    have := h.quantity_pos x hx
    split_ifs <;> omega
  have hle := Table.le_total hnonneg hr
  rw [if_pos ⟨rfl, hs⟩] at hle
  rw [h.reserved_eq i hi, ho]
  exact hle

/-! ### The three changes -/

/-- **One offer's counters move with its reservations.**  An update of the row of
one offer, together with new reservations, is a change of the stock when the
counters move by as much as the sums they stand for. -/
theorem Stocked.change {k : Stock} (h : k.Stocked) {imported : Option String} (offerId : String)
    {p : Inventory → Bool} {f : Inventory → Inventory}
    {hf : ∀ i, Keyed.key (f i) = Keyed.key i} {res : Table Reservation}
    (hp : ∀ i ∈ k.inventory, p i = true ↔ i.offerId = offerId)
    (hcount : ∀ i ∈ k.inventory, i.offerId = offerId →
      0 ≤ (f i).reservedQuantity ∧ (f i).reservedQuantity ≤ (f i).availableQuantity ∧
        (f i).reservedQuantity - i.reservedQuantity =
          quantityIn res .held offerId - quantityIn k.reservations .held offerId)
    (htrade : imported ≠ some offerId → ∀ i ∈ k.inventory, i.offerId = offerId →
      (f i).availableQuantity + quantityIn res .committed offerId =
        i.availableQuantity + quantityIn k.reservations .committed offerId)
    (hothers : ∀ s o, o ≠ offerId → quantityIn res s o = quantityIn k.reservations s o)
    (hres : ∀ r ∈ res, 1 ≤ r.quantity ∧ ∃ i ∈ k.inventory, i.offerId = r.offerId)
    (hpersists : ∀ r ∈ k.reservations, ∃ r' ∈ res, r'.reservationId = r.reservationId ∧
      (r.status ≠ .held → r' = r)) :
    StockChange imported k ⟨k.inventory.modify p f hf, res⟩ := by
  have hoffer : ∀ i : Inventory, (f i).offerId = i.offerId := hf
  -- a row after the update is `f` of one of that offer, or one of another offer
  have hrow : ∀ i' ∈ k.inventory.modify p f hf, ∃ i ∈ k.inventory,
      (i.offerId = offerId ∧ i' = f i) ∨ (i.offerId ≠ offerId ∧ i' = i) := by
    intro i' hi'
    obtain ⟨i, hi, rfl⟩ := Table.mem_modify.1 hi'
    refine ⟨i, hi, ?_⟩
    by_cases ho : i.offerId = offerId
    · exact .inl ⟨ho, if_pos ((hp i hi).2 ho)⟩
    · exact .inr ⟨ho, if_neg fun hpi => ho ((hp i hi).1 hpi)⟩
  have hmem : ∀ i ∈ k.inventory, ∃ i' ∈ k.inventory.modify p f hf, i'.offerId = i.offerId := by
    intro i hi
    refine ⟨_, Table.mem_modify_of_mem hi, ?_⟩
    split_ifs
    · exact hoffer i
    · rfl
  refine ⟨⟨?_, ?_, ?_, fun r hr => (hres r hr).1, ?_⟩, hpersists, ?_⟩
  · intro i' hi'
    obtain ⟨i, hi, ⟨ho, rfl⟩ | ⟨_, rfl⟩⟩ := hrow i' hi'
    · exact (hcount i hi ho).1
    · exact h.reserved_nonneg _ hi
  · intro i' hi'
    obtain ⟨i, hi, ⟨ho, rfl⟩ | ⟨_, rfl⟩⟩ := hrow i' hi'
    · exact (hcount i hi ho).2.1
    · exact h.reserved_le _ hi
  · intro i' hi'
    obtain ⟨i, hi, ⟨ho, rfl⟩ | ⟨ho, rfl⟩⟩ := hrow i' hi'
    · have h₁ := (hcount i hi ho).2.2
      have h₂ := h.reserved_eq i hi
      rw [ho] at h₂
      rw [hoffer, ho]
      change _ = quantityIn res .held offerId
      omega
    · rw [h.reserved_eq _ hi]
      exact (hothers _ _ ho).symm
  · intro r hr
    obtain ⟨i, hi, ho⟩ := (hres r hr).2
    obtain ⟨i', hi', ho'⟩ := hmem i hi
    exact ⟨i', hi', ho'.trans ho⟩
  · intro i hi hne
    refine ⟨_, Table.mem_modify_of_mem (h := hf) hi, ?_⟩
    by_cases ho : i.offerId = offerId
    · rw [if_pos ((hp i hi).2 ho)]
      refine ⟨hoffer i, ?_⟩
      subst ho
      exact htrade hne i hi rfl
    · rw [if_neg fun hpi => ho ((hp i hi).1 hpi)]
      refine ⟨rfl, ?_⟩
      change _ + quantityIn res .committed i.offerId = _
      rw [hothers _ _ ho]

/-- A hold: the counter of an offer goes up, and a held reservation is recorded. -/
theorem Stocked.hold {k : Stock} (h : k.Stocked) {r : Reservation} {res : Table Reservation}
    {imported : Option String} (hq : 1 ≤ r.quantity) (hs : r.status = .held) {i : Inventory}
    (hi : i ∈ k.inventory) (ho : i.offerId = r.offerId)
    (hfree : r.quantity ≤ i.availableQuantity - i.reservedQuantity)
    (hins : k.reservations.insert? r = some res) :
    StockChange imported k
      ⟨k.inventory.modify
        (fun i => i.offerId == r.offerId &&
          decide (r.quantity ≤ i.availableQuantity - i.reservedQuantity))
        (fun i => { i with
          reservedQuantity := i.reservedQuantity + r.quantity, version := i.version + 1 })
        fun _ => rfl, res⟩ := by
  have hsum : ∀ s o, quantityIn res s o =
      quantityIn k.reservations s o + if r.offerId = o ∧ r.status = s then r.quantity else 0 :=
    fun s o => Table.total_insert hins _
  have hfree' : ∀ j ∈ k.inventory, j.offerId = r.offerId →
      r.quantity ≤ j.availableQuantity - j.reservedQuantity := fun j hj hjo => by
    rw [inventory_unique hj hi (hjo.trans ho.symm)]; exact hfree
  refine h.change r.offerId (fun j hj => ?_) (fun j hj hjo => ⟨?_, ?_, ?_⟩) (fun _ j _ _ => ?_)
    (fun s o hne => ?_) (fun r' hr' => ?_)
    fun r' hr' => ⟨r', (Table.mem_insert hins).2 (.inl hr'), rfl, fun _ => rfl⟩
  · have := hfree' j hj
    simp only [Bool.and_eq_true, beq_iff_eq, decide_eq_true_eq]
    exact ⟨And.left, fun hjo => ⟨hjo, this hjo⟩⟩
  · have := h.reserved_nonneg j hj
    simp only
    omega
  · have := hfree' j hj hjo
    simp only
    omega
  · rw [hsum, if_pos ⟨rfl, hs⟩]
    simp only
    omega
  · have hneg : ¬(r.offerId = r.offerId ∧ r.status = .committed) := by simp [hs]
    rw [hsum, if_neg hneg, Int.add_zero]
  · rw [hsum, if_neg fun hc => hne hc.1.symm, add_zero]
  · rcases (Table.mem_insert hins).1 hr' with hr' | rfl
    · exact ⟨h.quantity_pos r' hr', h.listed r' hr'⟩
    · exact ⟨hq, i, hi, ho⟩

/-- An import of an offer that is already listed raises what is available. -/
theorem Stocked.restock {k : Stock} (h : k.Stocked) (offerId : String) (quantity : ℤ) :
    StockChange (some offerId) k
      ⟨k.inventory.modify (fun i => i.offerId == offerId)
        (fun i => { i with
          version := i.version + 1, availableQuantity := max i.availableQuantity quantity })
        fun _ => rfl, k.reservations⟩ := by
  refine h.change offerId (fun i _ => by simp) (fun i hi _ => ⟨?_, ?_, ?_⟩)
    (fun hne => absurd rfl hne) (fun _ _ _ => rfl)
    (fun r hr => ⟨h.quantity_pos r hr, h.listed r hr⟩) fun r hr => ⟨r, hr, rfl, fun _ => rfl⟩
  · exact h.reserved_nonneg i hi
  · exact (h.reserved_le i hi).trans (le_max_left _ _)
  · simp

/-- An import of an offer that is not listed yet: nothing is reserved for it. -/
theorem Stocked.list {k : Stock} (h : k.Stocked) {i : Inventory} {inv : Table Inventory}
    (hq : 0 ≤ i.availableQuantity) (hr : i.reservedQuantity = 0)
    (hins : k.inventory.insert? i = some inv) :
    StockChange (some i.offerId) k ⟨inv, k.reservations⟩ := by
  have hnone : ∀ r ∈ k.reservations, r.offerId ≠ i.offerId := by
    intro r hrr he
    obtain ⟨j, hj, hjo⟩ := h.listed r hrr
    have hclash := (Table.insert?_eq_some.1 hins).1 j hj
    simp [clashes, Keyed.clash, Keyed.key, hjo, he] at hclash
  have hzero : quantityIn k.reservations .held i.offerId = 0 := by
    refine List.sum_eq_zero fun x hx => ?_
    obtain ⟨r, hrr, rfl⟩ := List.mem_map.1 hx
    exact if_neg fun hc => hnone r hrr hc.1
  refine ⟨⟨?_, ?_, ?_, h.quantity_pos, fun r hrr => ?_⟩,
    fun r hrr => ⟨r, hrr, rfl, fun _ => rfl⟩, fun j hj _ =>
      ⟨j, (Table.mem_insert hins).2 (.inl hj), rfl, rfl⟩⟩
  · intro j hj
    rcases (Table.mem_insert hins).1 hj with hj | rfl
    · exact h.reserved_nonneg j hj
    · omega
  · intro j hj
    rcases (Table.mem_insert hins).1 hj with hj | rfl
    · exact h.reserved_le j hj
    · omega
  · intro j hj
    rcases (Table.mem_insert hins).1 hj with hj | rfl
    · exact h.reserved_eq j hj
    · exact hr.trans hzero.symm
  · obtain ⟨j, hj, hjo⟩ := h.listed r hrr
    exact ⟨j, (Table.mem_insert hins).2 (.inl hj), hjo⟩

/-- What `settle` is given: the status that ends a hold, and counters that go down
by its quantity, the available one only when the hold is committed. -/
structure Settles (status : ReservationStatus) (leave : Reservation → Reservation)
    (take : ℤ → Inventory → Inventory) : Prop where
  ends : status ≠ .held
  status_eq : ∀ r, (leave r).status = status
  keeps : ∀ r, (leave r).reservationId = r.reservationId ∧ (leave r).offerId = r.offerId ∧
    (leave r).quantity = r.quantity
  reserved : ∀ q i, (take q i).reservedQuantity = i.reservedQuantity - q
  available : ∀ q i, (take q i).availableQuantity + (if status = .committed then q else 0) =
    i.availableQuantity

/-- The end of a hold: the counters of its offer go down by its quantity. -/
theorem Stocked.settle {k : Stock} (h : k.Stocked) {r : Reservation} {imported : Option String}
    {status : ReservationStatus} {leave : Reservation → Reservation}
    {take : ℤ → Inventory → Inventory} (hleave : ∀ r, Keyed.key (leave r) = Keyed.key r)
    (htake : ∀ i, Keyed.key (take r.quantity i) = Keyed.key i) (hset : Settles status leave take)
    (hr : r ∈ k.reservations) (hs : r.status = .held) :
    StockChange imported k
      ⟨k.inventory.modify
        (fun i => i.offerId == r.offerId && decide (r.quantity ≤ i.reservedQuantity))
        (take r.quantity) htake,
      k.reservations.modify
        (fun x => x.reservationId == r.reservationId && x.status == .held) leave hleave⟩ := by
  have hsel : k.reservations.select
      (fun x => x.reservationId == r.reservationId && x.status == .held) = [r] := by
    refine Table.select_eq_singleton hr (by simp [hs]) fun x _ hx => ?_
    simp only [Bool.and_eq_true, beq_iff_eq] at hx
    simp [clashes, Keyed.clash, Keyed.key, hx.1]
  have hsum : ∀ s o, quantityIn (k.reservations.modify
        (fun x => x.reservationId == r.reservationId && x.status == .held) leave hleave) s o =
      quantityIn k.reservations s o +
        ((if r.offerId = o ∧ status = s then r.quantity else 0) -
          if r.offerId = o ∧ .held = s then r.quantity else 0) := by
    intro s o
    rw [quantityIn, Table.total_modify, hsel, quantityIn]
    simp only [List.map_cons, List.map_nil, List.sum_cons, List.sum_nil, add_zero,
      (hset.keeps r).2.1, (hset.keeps r).2.2, hset.status_eq, hs]
  have hle : ∀ i ∈ k.inventory, i.offerId = r.offerId → r.quantity ≤ i.reservedQuantity :=
    fun i hi ho => h.quantity_le hr hs hi ho
  have hq := h.quantity_pos r hr
  refine h.change r.offerId (fun i hi => ?_) (fun i hi ho => ?_) (fun _ i hi ho => ?_)
    (fun s o hne => ?_) (fun r' hr' => ?_) fun r' hr' => ?_
  · have := hle i hi
    simp only [Bool.and_eq_true, beq_iff_eq, decide_eq_true_eq]
    exact ⟨And.left, fun ho => ⟨ho, this ho⟩⟩
  · have h₁ := hle i hi ho
    have h₂ := h.reserved_le i hi
    have h₃ := hset.available r.quantity i
    rw [hset.reserved, hsum, if_neg fun hc => hset.ends hc.2, if_pos ⟨rfl, rfl⟩]
    refine ⟨by omega, ?_, by omega⟩
    split_ifs at h₃ <;> omega
  · have h₃ := hset.available r.quantity i
    have hneg : ¬(r.offerId = r.offerId ∧ ReservationStatus.held = .committed) := by simp
    rw [hsum, if_neg hneg]
    split_ifs at h₃ with hc
    · rw [if_pos ⟨rfl, hc⟩]; omega
    · rw [if_neg fun h => hc h.2]; omega
  · rw [hsum, if_neg fun hc => hne hc.1.symm, if_neg fun hc => hne hc.1.symm, sub_zero, add_zero]
  · obtain ⟨x, hx, rfl⟩ := Table.mem_modify.1 hr'
    split_ifs
    · rw [(hset.keeps x).2.1, (hset.keeps x).2.2]
      exact ⟨h.quantity_pos x hx, h.listed x hx⟩
    · exact ⟨h.quantity_pos x hx, h.listed x hx⟩
  · refine ⟨_, Table.mem_modify_of_mem hr', ?_⟩
    split_ifs with hc
    · simp only [Bool.and_eq_true, beq_iff_eq] at hc
      exact ⟨(hset.keeps r').1, fun hne => absurd hc.2 hne⟩
    · exact ⟨rfl, fun _ => rfl⟩

end Stock
end AgenticCommerce
