/-
# What the counters count

Runs of the whole system conserve stock, whoever calls the inventory service
(`StockMoves`, `stocked_of_steps`), and every hold is of the pieces its checkout was opened
for (`Database.HoldsMatch`).  With the agreement of holds and checkouts that ties the two
counters of an offer to its checkouts (`stock_accounts_for_checkouts`): what is reserved is
what the open checkouts ask for, and between imports what is available drops by what was
bought.
-/

import AgenticCommerce.Inventory.Conservation
import AgenticCommerce.Lifecycle.Bookings
import AgenticCommerce.Lifecycle.Laws
import AgenticCommerce.Payments.Replay
import AgenticCommerce.Relational.Matching

namespace AgenticCommerce

open Relational Work Stock

/-! ### Stock -/

theorem Stock.StockChange.trans {imported : Option String} {k k' k'' : Stock}
    (h : StockChange imported k k') (h' : StockChange imported k' k'') :
    StockChange imported k k'' := by
  refine ⟨h'.stocked, fun r hr => ?_, fun i hi hne => ?_⟩
  · obtain ⟨r', hr', hid, hkept⟩ := h.persists r hr
    obtain ⟨r'', hr'', hid', hkept'⟩ := h'.persists r' hr'
    refine ⟨r'', hr'', hid'.trans hid, fun hs => ?_⟩
    have hsame := hkept hs
    rw [← hsame] at hs
    exact (hkept' hs).trans hsame
  · obtain ⟨i', hi', hid, hsum⟩ := h.conserves i hi hne
    rw [← hid] at hne
    obtain ⟨i'', hi'', hid', hsum'⟩ := h'.conserves i' hi' hne
    rw [hid] at hid' hsum'
    exact ⟨i'', hi'', hid', hsum'.trans hsum⟩

/-- From a stock that satisfies the invariant, the stock changed as the service may change
it, imports of `imported` included. -/
def Database.StockMoves (imported : Option String) (db db' : Database) : Prop :=
  db.stock.Stocked → StockChange imported db.stock db'.stock

/-- A commit that is refused has ended the hold or left it alone. -/
theorem commitStock_error_change {env : Env} {w w' : World} {imported m : Option String}
    {id : String} {e : Failure} (h : w.db.stock.Stocked)
    (hrun : Inventory.commitStock env id m w = .error e w') :
    StockChange imported w.db.stock w'.db.stock := by
  simp only [Inventory.commitStock, Inventory.assertCheckoutTenant, Work.bind_eq_error,
    Work.bind_eq_ok, query_eq_ok, query_eq_error, require_eq_ok, require_eq_error, raiseIf_eq_error,
    raiseIf_eq_ok, false_or] at hrun
  rcases hrun with ⟨_, _, ⟨rfl, rfl⟩, -, -, rfl⟩ | ⟨_, _, ⟨_, _, ⟨rfl, rfl⟩, _, rfl⟩, hrun⟩
  · exact .refl h imported
  · rcases hrun with ⟨-, -, rfl⟩ | ⟨r, _, ⟨-, rfl⟩, hrun⟩
    · exact .refl h imported
    · split_ifs at hrun
      · exact (Work.pure_eq_error.1 hrun).elim
      · simp only [Inventory.appendStockEvent, appendTransitionEvent, Work.bind_eq_error,
          raiseIf_eq_ok, raiseIf_eq_error, query_eq_error, appendEvent_eq_error, and_false,
          exists_false, or_false] at hrun
        rcases hrun with ⟨-, -, rfl⟩ | ⟨_, _, ⟨-, rfl⟩, hrun | ⟨b, v, hcommit, -, -, rfl⟩⟩
        · exact .refl h imported
        · exact absurd hrun settle_error
        · exact (settle_change h (commit_settles _) hcommit).1

namespace Database

variable {imported : Option String}

instance stockMoves_isPreorder : IsPreorder Database (StockMoves imported) where
  refl _ h := .refl h imported
  trans _ _ _ h h' hdb := (h hdb).trans (h' (h hdb).stocked)

instance stockMoves_bookingFrame : BookingFrame (StockMoves imported) where
  same hsame hdb := by
    rw [hsame.1]
    exact .refl hdb imported
  release env id m := by
    refine ⟨fun w u w' h => ⟨fun hdb => releaseStock_change hdb h, trivial⟩, fun w e w' h => ?_⟩
    rw [(releaseStock_error h).1]
    exact refl_of (OnWorld (StockMoves imported) Anything) w
  commit env id m := ⟨fun w u w' h => ⟨fun hdb => commitStock_change hdb h, trivial⟩,
    fun w e w' h => ⟨fun hdb => commitStock_error_change hdb h, trivial⟩⟩
  order _ hdb := .refl hdb imported

end Database

/-- The offer whose stock an operation imports. -/
def Operation.imports : Operation → Option String
  | importInventory offerId _ => some offerId
  | _ => none

section

variable {env : Env} {w w' : World}

/-- **Every operation moves the stock** as the inventory service may. -/
theorem Operation.stockMoves (op : Operation) :
    w.db.StockMoves op.imports (op.run env w).db := by
  refine op.bookings_of (fun b m o q ttl _ w r w' h => ?_) fun o q hop w u w' h => ?_
  · exact ⟨fun hdb => reserveStock_change hdb h, trivial⟩
  · subst hop
    exact ⟨fun hdb => importInventory_change hdb h, trivial⟩

/-- **The stock keeps its invariant throughout a run** of the system. -/
theorem stocked_of_steps (h : w.db.stock.Stocked) (hrun : Relation.ReflTransGen Step w w') :
    w'.db.stock.Stocked := by
  refine invariant_of_steps (I := fun w : World => w.db.stock.Stocked) (fun u v hu huv => ?_) h hrun
  obtain ⟨env, op, rfl⟩ := huv
  exact (op.stockMoves hu).stocked

/-! ### Holds and the checkouts they are for -/

/-- Every hold is of the offer and the quantity its checkout was opened for. -/
def Database.HoldsMatch (db : Database) : Prop :=
  ∀ r ∈ db.reservations, ∀ c ∈ db.checkouts, r.checkoutId = c.checkoutId →
    r.offerId = c.offerId ∧ r.quantity = c.priceSnapshot.quantity

/-- The holds were there before, whatever became of them, or are new ones for what `new`
says. -/
def Database.HoldsFrom (new : String → String → ℤ → Prop) (db db' : Database) : Prop :=
  ∀ r' ∈ db'.reservations, new r'.checkoutId r'.offerId r'.quantity ∨
    ∃ r ∈ db.reservations, r.checkoutId = r'.checkoutId ∧ r.offerId = r'.offerId ∧
      r.quantity = r'.quantity

namespace Database

variable {new : String → String → ℤ → Prop} {db db' : Database}

theorem HoldsFrom.of_eq (h : db'.reservations = db.reservations) : db.HoldsFrom new db' := by
  intro r hr
  rw [h] at hr
  exact .inr ⟨r, hr, rfl, rfl, rfl⟩

instance holdsFrom_isPreorder : IsPreorder Database (HoldsFrom new) where
  refl _ := .of_eq rfl
  trans _ _ _ h h' r'' hr'' := by
    rcases h' r'' hr'' with hnew | ⟨r', hr', hid', hoffer', hquantity'⟩
    · exact .inl hnew
    · rw [← hid', ← hoffer', ← hquantity']
      exact h r' hr'

instance holdsFrom_bookingFrame : BookingFrame (HoldsFrom new) := by
  refine .of_writes (fun hsame => .of_eq (congrArg Stock.reservations hsame.1))
    (fun _ _ => .of_eq rfl) (fun db id leave hleave hkeeps r' hr' => .inr ?_) fun _ => .of_eq rfl
  obtain ⟨r, hr, rfl⟩ := (Table.mem_modify (h := hleave)).1 hr'
  refine ⟨r, hr, ?_⟩
  by_cases hmatch : (r.reservationId == id && r.status == .held) = true
  · rw [if_pos hmatch]
    obtain ⟨hid, hoffer, hquantity⟩ := hkeeps r
    exact ⟨hid.symm, hoffer.symm, hquantity.symm⟩
  · rw [if_neg hmatch]
    exact ⟨rfl, rfl, rfl⟩

end Database

theorem reserveStock_holdsFrom {offerId id : String} {quantity : ℤ} {m : Option String} :
    Returns (OnWorld (Database.HoldsFrom fun i o q => i = id ∧ o = offerId ∧ q = quantity) Anything)
      (Inventory.reserveStock env offerId id quantity m) := by
  refine reserveStock_of_writes (fun _ _ => .of_eq rfl) fun hnew ht r hr => ?_
  rcases (Table.mem_insert ht).1 hr with hr | rfl
  · exact .inr ⟨r, hr, rfl, rfl, rfl⟩
  · exact .inl hnew

/-- The row of a checkout that was created is stored. -/
theorem createCheckout_stored {b m offerId : String} {quantity ttl : ℤ} {v : CheckoutV1}
    (h : Checkout.createCheckout env b m offerId quantity ttl w = .ok v w') :
    ∃ offer, Checkout.rowOf env offer b m offerId quantity (env.now + minutes ttl) ∈
      w'.db.checkouts := by
  simp only [Checkout.createCheckout, Work.bind_eq_ok, raiseIf_eq_ok, insert_eq_ok, flush_eq_ok,
    appendEvent_eq_ok, Work.pure_eq_ok, Option.map_eq_some_iff] at h
  obtain ⟨offer, _, _, _, _, ⟨_, rfl⟩, _, _, ⟨_, rfl⟩, _, _, ⟨_, rfl⟩, _, w₁, _, _, _,
    ⟨_, ⟨t, hins, rfl⟩, rfl⟩, _, _, ⟨_, ⟨_, _, rfl⟩, rfl⟩, _, _, ⟨_, rfl⟩, r, w₂, hres, _, _, rfl,
    _, rfl⟩ := h
  have hkept : OnWorld (Database.Keeps Database.checkouts) Anything _ w₂ :=
    reserveStock_frame.1 _ _ _ hres
  refine ⟨offer, ?_⟩
  have hmem := (Table.mem_insert hins).2 (.inr rfl)
  exact hkept.1 ▸ hmem

/-- In a store whose purchases are in phases, a hold has a checkout. -/
theorem Database.Coherent.checkout_of_hold {db : Database} (hdb : db.Coherent) {r : Reservation}
    (hr : r ∈ db.reservations) : ∃ c ∈ db.checkouts, c.checkoutId = r.checkoutId := by
  obtain ⟨ph, hat⟩ := hdb r.checkoutId
  have hr' := mem_reservations.1 ⟨hr, rfl⟩
  cases hc : (db.purchase r.checkoutId).checkout with
  | none =>
      rw [(hat.checkout_eq_none hc).2] at hr'
      cases hr'
  | some c => exact ⟨c, mem_checkouts.2 hc⟩

theorem checkout_unique {db : Database} {c d : Checkout} (hc : c ∈ db.checkouts)
    (hd : d ∈ db.checkouts) (h : c.checkoutId = d.checkoutId) : c = d :=
  Option.some.inj ((mem_checkouts.1 ⟨hc, rfl⟩).symm.trans (mem_checkouts.1 ⟨hd, h.symm⟩))

/-- Holds that were there and holds that a new checkout asked for match their checkouts. -/
theorem Database.HoldsMatch.of {db db' : Database} {new : String → String → ℤ → Prop}
    (h : db.HoldsMatch) (hdb : db.Coherent) (hfrom : db.HoldsFrom new db')
    (hstay : db.CheckoutsStay db') (hnew : ∀ id o q, new id o q → ∃ c ∈ db'.checkouts,
      c.checkoutId = id ∧ c.offerId = o ∧ c.priceSnapshot.quantity = q) : db'.HoldsMatch := by
  intro r' hr' c' hc' hid
  rcases hfrom r' hr' with hopened | ⟨r, hr, hrid, hoffer, hquantity⟩
  · obtain ⟨c, hc, hcid, hcoffer, hcquantity⟩ := hnew _ _ _ hopened
    obtain rfl := checkout_unique hc hc' (hcid.trans hid)
    exact ⟨hcoffer.symm, hcquantity.symm⟩
  · obtain ⟨c, hc, hcid⟩ := hdb.checkout_of_hold hr
    obtain ⟨s, hs⟩ := hstay c hc
    have hsame := checkout_unique hs hc' ((hcid.trans hrid).trans hid)
    obtain ⟨hroffer, hrquantity⟩ := h r hr c hc hcid.symm
    rw [← hoffer, ← hquantity, ← hsame]
    exact ⟨hroffer, hrquantity⟩

/-- **Every operation keeps holds and checkouts matched.** -/
theorem Operation.holdsMatch (hdb : w.db.Coherent) (h : w.db.HoldsMatch) (op : Operation) :
    (op.run env w).db.HoldsMatch := by
  by_cases hopens : ∃ b m o q ttl, op = .createCheckout b m o q ttl
  · obtain ⟨b, m, o, q, ttl, rfl⟩ := hopens
    refine request_induction (P := fun db => db.HoldsMatch) h fun v w' hrun _ => ?_
    have hfrom := createCheckout_books reserveStock_holdsFrom w v w' hrun
    have hstay : OnWorld Database.CheckoutsStay Anything w w' := createCheckout_frame.1 w v w' hrun
    obtain ⟨offer, hstored⟩ := createCheckout_stored hrun
    refine h.of hdb hfrom.1 hstay.1 fun id o' q' hnew => ?_
    obtain ⟨rfl, rfl, rfl⟩ := hnew
    exact ⟨_, hstored, rfl, rfl, rfl⟩
  · have hfrom : w.db.HoldsFrom (fun _ _ _ => False) (op.run env w).db :=
      op.bookings_of (fun b m o q ttl hop => (hopens ⟨b, m, o, q, ttl, hop⟩).elim)
        fun _ _ _ => .of (importInventory_of_writes fun _ _ => .of_eq rfl)
    exact h.of hdb hfrom (checkoutsStay_of_step op) fun _ _ _ hnew => hnew.elim

/-- **Every hold is of the pieces of its checkout** throughout a run. -/
theorem holdsMatch_of_run (h₀ : Unsold w.db) (hrun : Relation.ReflTransGen Step w w') :
    w'.db.HoldsMatch := by
  have hboth : w'.db.Coherent ∧ w'.db.HoldsMatch := by
    refine invariant_of_steps (I := fun w : World => w.db.Coherent ∧ w.db.HoldsMatch)
      (fun u v hu huv => ?_) ⟨h₀.coherent, fun r hr => ?_⟩ hrun
    · obtain ⟨env, op, rfl⟩ := huv
      exact ⟨hu.1.advance (op.advances hu.1), op.holdsMatch hu.1 hu.2⟩
    · rw [Table.mem_def, h₀.2.1] at hr
      exact absurd hr List.not_mem_nil
  exact hboth.2

/-! ### Counters and checkouts -/

/-- The pieces of an offer in the checkouts with one of some statuses. -/
def Database.pieces (db : Database) (statuses : List CheckoutStatus) (offerId : String) : ℤ :=
  db.checkouts.total fun c =>
    if c.offerId = offerId ∧ c.status ∈ statuses then c.priceSnapshot.quantity else 0

/-- The statuses of a checkout that can still be bought. -/
def openStatuses : List CheckoutStatus := [.created, .authorizationPending, .authorized]

/-- Holds and checkouts are one to one. -/
theorem Database.Coherent.matched {db : Database} (hdb : db.Coherent) :
    Matched (fun r c => r.checkoutId = c.checkoutId) db.reservations db.checkouts where
  left r hr := by
    obtain ⟨c, hc, hid⟩ := hdb.checkout_of_hold hr
    exact ⟨c, hc, hid.symm⟩
  right c hc := by
    obtain ⟨ph, hat⟩ := hdb c.checkoutId
    obtain ⟨r, hr, -⟩ := hat.holds_agree (mem_checkouts.1 ⟨hc, rfl⟩)
    obtain ⟨hr, hid⟩ := mem_reservations.2 hr
    exact ⟨r, hr, hid⟩
  left_unique r hr r' hr' c _ hid hid' := by
    have h := mem_reservations.1 ⟨hr, hid.trans hid'.symm⟩
    exact Option.some.inj (h.symm.trans (mem_reservations.1 ⟨hr', rfl⟩))
  right_unique r _ c hc c' hc' hid hid' := checkout_unique hc hc' (hid.symm.trans hid')

/-- **The holds of an offer in a status are the pieces of its checkouts** in the statuses
that go with it. -/
theorem quantityIn_eq_pieces {db : Database} (hdb : db.Coherent) (hmatch : db.HoldsMatch)
    {s : ReservationStatus} {statuses : List CheckoutStatus}
    (hs : ∀ id ph c r, (db.purchase id).At ph → (db.purchase id).checkout = some c →
      (db.purchase id).reservation = some r → (r.status = s ↔ c.status ∈ statuses))
    (offerId : String) : quantityIn db.reservations s offerId = db.pieces statuses offerId := by
  refine hdb.matched.total_eq fun r hr c hc hid => ?_
  obtain ⟨hoffer, hquantity⟩ := hmatch r hr c hc hid
  obtain ⟨ph, hat⟩ := hdb c.checkoutId
  have hstatus := hs c.checkoutId ph c r hat (mem_checkouts.1 ⟨hc, rfl⟩)
    (mem_reservations.1 ⟨hr, hid⟩)
  rw [hoffer, hquantity]
  exact if_congr (and_congr_right fun _ => hstatus) rfl rfl

theorem held_eq_pieces {db : Database} (hdb : db.Coherent) (hmatch : db.HoldsMatch)
    (offerId : String) :
    quantityIn db.reservations .held offerId = db.pieces openStatuses offerId := by
  refine quantityIn_eq_pieces hdb hmatch (fun id ph c r hat hc hr => ?_) offerId
  obtain ⟨r', hr', hheld, -⟩ := hat.holds_agree hc
  obtain rfl := Option.some.inj (hr.symm.trans hr')
  rw [hheld]
  simp [openStatuses, CheckoutStatus.Live]

theorem committed_eq_pieces {db : Database} (hdb : db.Coherent) (hmatch : db.HoldsMatch)
    (offerId : String) :
    quantityIn db.reservations .committed offerId = db.pieces [.completed] offerId := by
  refine quantityIn_eq_pieces hdb hmatch (fun id ph c r hat hc hr => ?_) offerId
  obtain ⟨r', hr', -, hcommitted, -⟩ := hat.holds_agree hc
  obtain rfl := Option.some.inj (hr.symm.trans hr')
  rw [hcommitted, List.mem_singleton]

/-- Some operation other than an import of `offerId` leads from `w` to `w'`. -/
def StepBut (offerId : String) (w w' : World) : Prop :=
  ∃ env op, op.imports ≠ some offerId ∧ w' = Operation.run env w op

theorem steps_of_but {offerId : String} (h : Relation.ReflTransGen (StepBut offerId) w w') :
    Relation.ReflTransGen Step w w' := by
  refine Relation.ReflTransGen.mono (fun u v huv => ?_) _ _ h
  obtain ⟨env, op, -, hrun⟩ := huv
  exact ⟨env, op, hrun⟩

/-- What is available and what is committed add up to the same, imports apart. -/
theorem traded_of_steps {offerId : String} (h : w.db.stock.Stocked)
    (hrun : Relation.ReflTransGen (StepBut offerId) w w') {i : Inventory}
    (hi : i ∈ w.db.inventory) (ho : i.offerId = offerId) :
    ∃ i' ∈ w'.db.inventory, i'.offerId = offerId ∧
      i'.availableQuantity + quantityIn w'.db.reservations .committed offerId =
        i.availableQuantity + quantityIn w.db.reservations .committed offerId := by
  induction hrun with
  | refl => exact ⟨i, hi, ho, rfl⟩
  | @tail u v hwu huv ih =>
      obtain ⟨j, hj, hjo, hjsum⟩ := ih
      obtain ⟨env, op, hop, rfl⟩ := huv
      have hu := stocked_of_steps h (steps_of_but hwu)
      have hchange : StockChange op.imports u.db.stock (op.run env u).db.stock := op.stockMoves hu
      obtain ⟨i', hi', hio', hsum⟩ := hchange.conserves j hj (by rw [hjo]; exact hop)
      rw [hjo] at hio' hsum
      exact ⟨i', hi', hio', hsum.trans hjsum⟩

/-- **The counters of an offer count its checkouts.**  In every state of every run of the
system from one without purchases, what an offer has reserved is what its open checkouts
ask for, and no more than what is available; and between imports of the offer its available
quantity drops by the pieces of the checkouts that were completed. -/
theorem stock_accounts_for_checkouts {w₀ : World} (h₀ : Unsold w₀.db) (hfree : Unreserved w₀.db)
    (hrun : Relation.ReflTransGen Step w₀ w) :
    (∀ i ∈ w.db.inventory, 0 ≤ i.reservedQuantity ∧ i.reservedQuantity ≤ i.availableQuantity ∧
      i.reservedQuantity = w.db.pieces openStatuses i.offerId) ∧
    ∀ offerId w', Relation.ReflTransGen (StepBut offerId) w w' → ∀ i ∈ w.db.inventory,
      i.offerId = offerId → ∃ i' ∈ w'.db.inventory, i'.offerId = offerId ∧
        i.availableQuantity - i'.availableQuantity =
          w'.db.pieces [.completed] offerId - w.db.pieces [.completed] offerId := by
  have hstocked := stocked_of_steps hfree.stocked hrun
  have hdb := coherent_of_run h₀ hrun
  have hmatch := holdsMatch_of_run h₀ hrun
  refine ⟨fun i hi => ⟨hstocked.reserved_nonneg i hi, hstocked.reserved_le i hi, ?_⟩,
    fun offerId w' hrun' i hi ho => ?_⟩
  · rw [← held_eq_pieces hdb hmatch]
    exact hstocked.reserved_eq i hi
  · have hrun'' := hrun.trans (steps_of_but hrun')
    obtain ⟨i', hi', hio', hsum⟩ := traded_of_steps hstocked hrun' hi ho
    rw [committed_eq_pieces hdb hmatch, committed_eq_pieces (coherent_of_run h₀ hrun'')
      (holdsMatch_of_run h₀ hrun'')] at hsum
    exact ⟨i', hi', hio', by omega⟩

theorem openShop_unreserved : Unreserved openShop.db := by
  refine ⟨rfl, fun i hi => ?_⟩
  obtain rfl := List.mem_singleton.1 hi
  exact ⟨rfl, by decide⟩

theorem stock_accounts_for_checkouts_checkedOut :
    checkedOut.db.inventory.rows.map Inventory.reservedQuantity = [2] ∧
      ∀ i ∈ checkedOut.db.inventory,
        i.reservedQuantity = checkedOut.db.pieces openStatuses i.offerId := by
  refine ⟨by decide, fun i hi => ?_⟩
  have h := stock_accounts_for_checkouts openShop_unsold openShop_unreserved checkedOut_reached
  exact (h.1 i hi).2.2

end
end AgenticCommerce
