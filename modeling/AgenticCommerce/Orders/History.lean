/-
# The orders of a buyer

The buyer's reads of `services/orders/service.py`: `list_orders_for_buyer`, newest first and
in pages, with the number of orders there are, and `get_order_for_buyer`.  Both go through
`OrderRepository`, whose scope names a merchant and a buyer.

A client reads page after page while the system goes on.  Orders are only added
(`Operation.ordersStay`), so whatever happens in between it reads every order that was there
when it began (`history_complete`); what is added in between can show it an order twice.
-/

import AgenticCommerce.Lifecycle.Kept
import AgenticCommerce.Relational.GrowingPages
import AgenticCommerce.Tenancy
import AgenticCommerce.Text.Strings
import Mathlib.Data.Prod.Lex
import Mathlib.Data.String.Basic
import Mathlib.Tactic.IntervalCases

namespace AgenticCommerce

open Relational

/-! ### Scopes -/

/-- `_validate_identifier`. -/
def validateIdentifier (name value : String) : Except Failure Unit :=
  if value = "" then .error (.exception (name ++ " must be a non-empty string"))
  else if Strings.strip value.toList ≠ value.toList then
    .error (.exception (name ++ " must not carry leading or trailing whitespace"))
  else .ok ()

/-- The scope of a buyer, as `TenantScope.__post_init__` accepts it. -/
def buyerScope (merchantId buyerId : String) : Except Failure TenantScope := do
  validateIdentifier "merchant_id" merchantId
  validateIdentifier "buyer_id" buyerId
  pure { merchantId, buyerId := some buyerId }

namespace Order

/-! ### The reads -/

/-- `MAX_ORDER_PAGE_SIZE`. -/
def maxOrderPageSize : ℤ := 50

/-- `DEFAULT_ORDER_PAGE_SIZE`. -/
def defaultOrderPageSize : ℤ := 20

/-- `Order.confirmed_at.desc(), Order.order_id.desc()`. -/
def historyKey (order : Order) : (Time ×ₗ String)ᵒᵈ :=
  OrderDual.toDual (toLex (order.confirmedAt, order.orderId))

/-- The rows of a buyer with a merchant. -/
def ofBuyer (buyerId merchantId : String) (db : Database) : List Order :=
  orderRepository.scopedSelect { merchantId, buyerId := some buyerId } db

/-- A read through `OrderRepository`, opened for the buyer. -/
def readForBuyer {γ : Type} (merchantId buyerId : String) (read : TenantScope → Option γ) :
    Except Failure γ :=
  (buyerScope merchantId buyerId).bind fun scope =>
    (read scope).elim (.error (.exception ("OrderRepository is over a buyer-owned aggregate and " ++
      "requires a scope carrying a buyer_id"))) .ok

/-- `OrderService.list_orders_for_buyer`: a page and the number of all orders. -/
def listOrdersForBuyer (buyerId merchantId : String) (limit : ℤ := defaultOrderPageSize)
    (offset : ℤ := 0) (db : Database) : Except Failure (List OrderV1 × ℕ) :=
  if ¬(1 ≤ limit ∧ limit ≤ maxOrderPageSize) then
    .error (.exception ("limit must be between 1 and " ++ toString maxOrderPageSize))
  else if offset < 0 then .error (.exception "offset must not be negative")
  else
    let statement := fun rows => limitOffset limit offset (ranked historyKey rows)
    (readForBuyer merchantId buyerId fun scope => orderRepository.scalars scope statement db).bind
      fun orders =>
        (readForBuyer merchantId buyerId fun scope => orderRepository.count scope db).map
          fun total => (orders.map toSchema, total)

/-- `OrderService.get_order_for_buyer`. -/
def getOrderForBuyer (buyerId merchantId orderId : String) (db : Database) :
    Except Failure OrderV1 :=
  (readForBuyer merchantId buyerId fun scope => orderRepository.get scope orderId db).bind
    fun order => order.elim (.error (.raised "The order does not exist." .notFound))
      fun order => .ok order.toSchema

variable {db : Database} {b m : String}

theorem mem_ofBuyer {o : Order} :
    o ∈ ofBuyer b m db ↔ o ∈ db.orders ∧ o.merchantId = m ∧ o.buyerId = b := by
  rw [ofBuyer, Repository.scopedSelect, Table.mem_select]
  simp [Repository.tenantPredicates, orderRepository]

/-- No two orders of a buyer tie. -/
theorem distinct_ofBuyer (b m : String) (db : Database) : Distinct historyKey (ofBuyer b m db) := by
  have hall : Distinct historyKey db.orders.rows := by
    refine db.orders.unique.imp fun {o o'} hclash hkey => ?_
    have hid : o.orderId = o'.orderId := congrArg Prod.snd (ofLex_inj.2 hkey)
    simp [clashes, Keyed.clash, Keyed.key, hid] at hclash
  exact hall.filter _

theorem eq_ok_of_bind {γ δ : Type} {x : Except Failure γ} {f : γ → Except Failure δ} {r : δ}
    (h : x.bind f = .ok r) : ∃ a, x = .ok a ∧ f a = .ok r := by
  cases x with
  | error e => cases h
  | ok a => exact ⟨a, rfl, h⟩

theorem buyerScope_ok {scope : TenantScope} (h : buyerScope m b = .ok scope) :
    scope = { merchantId := m, buyerId := some b } := by
  unfold buyerScope at h
  cases hm : validateIdentifier "merchant_id" m with
  | error e => rw [hm] at h; cases h
  | ok _ =>
      rw [hm] at h
      cases hb : validateIdentifier "buyer_id" b with
      | error e => rw [hb] at h; cases h
      | ok _ =>
          rw [hb] at h
          exact (Except.ok.inj h).symm

/-- A read that is answered was asked for the merchant and the buyer. -/
theorem readForBuyer_ok {γ : Type} {read : TenantScope → Option γ} {r : γ}
    (h : readForBuyer m b read = .ok r) : read { merchantId := m, buyerId := some b } = some r := by
  unfold readForBuyer at h
  cases hscope : buyerScope m b with
  | error e => rw [hscope] at h; cases h
  | ok scope =>
      rw [hscope, buyerScope_ok hscope] at h
      cases hread : read { merchantId := m, buyerId := some b } with
      | none => rw [Except.bind, hread] at h; cases h
      | some _ =>
          rw [Except.bind, hread] at h
          exact congrArg some (Except.ok.inj h)

/-- **What a page is**: some of the buyer's rows, in the order of the history. -/
theorem listOrdersForBuyer_ok {limit offset : ℤ} {page : List OrderV1 × ℕ}
    (h : listOrdersForBuyer b m limit offset db = .ok page) :
    0 < limit ∧ page = ((limitOffset limit offset (ranked historyKey (ofBuyer b m db))).map
      toSchema, (ofBuyer b m db).length) := by
  unfold listOrdersForBuyer at h
  split_ifs at h with hlimit
  refine ⟨by omega, ?_⟩
  obtain ⟨orders, horders, h⟩ := eq_ok_of_bind h
  cases htotal : readForBuyer m b fun scope => orderRepository.count scope db with
  | error e => rw [htotal] at h; cases h
  | ok total =>
      rw [htotal] at h
      have hrows : some (limitOffset limit offset (ranked historyKey (ofBuyer b m db))) =
          some orders := readForBuyer_ok horders
      have hcount : some (ofBuyer b m db).length = some total := readForBuyer_ok htotal
      rw [Option.some.inj hrows, Option.some.inj hcount]
      exact (Except.ok.inj h).symm

/-- **An order is shown to its buyer only**, in the shop of its merchant. -/
theorem getOrderForBuyer_ok {orderId : String} {v : OrderV1}
    (h : getOrderForBuyer b m orderId db = .ok v) :
    ∃ o ∈ ofBuyer b m db, o.orderId = orderId ∧ v = o.toSchema := by
  obtain ⟨found, hfound, h⟩ := eq_ok_of_bind h
  cases found with
  | none => cases h
  | some o =>
      have hhead : some ((ofBuyer b m db).filter fun row => row.orderId == orderId).head? =
          some (some o) := readForBuyer_ok hfound
      obtain ⟨hmem, hid⟩ := List.mem_filter.1 (List.mem_of_head? (Option.some.inj hhead))
      exact ⟨o, hmem, beq_iff_eq.1 hid, (Except.ok.inj h).symm⟩

/-! ### Reading the history while the system goes on -/

variable {worlds : ℕ → World} {limit : ℤ} {answers : ℕ → List OrderV1 × ℕ} {n : ℕ}

/-- The history gains orders at most. -/
theorem ofBuyer_grows (hrun : ∀ k, Relation.ReflTransGen Step (worlds k) (worlds (k + 1))) (k : ℕ) :
    ofBuyer b m (worlds k).db ⊆ ofBuyer b m (worlds (k + 1)).db := by
  intro o ho
  obtain ⟨hmem, howner⟩ := mem_ofBuyer.1 ho
  exact mem_ofBuyer.2 ⟨ordersStay_of_run (hrun k) o hmem, howner⟩

/-- What a client that asks for page after page, with the system going on in between, was
told: the answers are those of the reads, and by the last one there are no further pages. -/
structure Reads (b m : String) (limit : ℤ) (worlds : ℕ → World)
    (answers : ℕ → List OrderV1 × ℕ) (n : ℕ) : Prop where
  goesOn : ∀ k, Relation.ReflTransGen Step (worlds k) (worlds (k + 1))
  answered : ∀ k ≤ n, listOrdersForBuyer b m limit (k * limit) (worlds k).db = .ok (answers k)
  atEnd : ((answers n).2 : ℤ) ≤ (n + 1) * limit

/-- **A client that reads the history to its end misses no order**, whatever the system does
between the pages: each order that the buyer had with the merchant when the first page was
read is on some page.  No page has an order of anyone else, and when the orders stay the same
in between, the pages put together are the history, each order once. -/
theorem history_complete (hreads : Reads b m limit worlds answers n) :
    (∀ o ∈ (worlds 0).db.orders, o.merchantId = m → o.buyerId = b →
      ∃ k ≤ n, o.toSchema ∈ (answers k).1) ∧
    (∀ k ≤ n, ∀ v ∈ (answers k).1, ∃ o ∈ (worlds k).db.orders,
      o.merchantId = m ∧ o.buyerId = b ∧ v = o.toSchema) ∧
    ((∀ k ≤ n, (worlds k).db.orders = (worlds 0).db.orders) →
      (List.range (n + 1)).flatMap (fun k => (answers k).1) =
        (ranked historyKey (ofBuyer b m (worlds 0).db)).map toSchema) := by
  have hpage : ∀ k ≤ n, 0 < limit ∧ answers k =
      ((pageOf historyKey (fun k => ofBuyer b m (worlds k).db) limit k).map toSchema,
        (ofBuyer b m (worlds k).db).length) := fun k hk =>
    listOrdersForBuyer_ok (hreads.answered k hk)
  have hlimit := (hpage 0 (Nat.zero_le n)).1
  have hend : (ofBuyer b m (worlds n).db).length ≤ (n + 1) * limit.toNat := by
    have hatEnd := hreads.atEnd
    rw [(hpage n le_rfl).2] at hatEnd
    obtain ⟨size, rfl⟩ := Int.eq_ofNat_of_zero_le hlimit.le
    rw [Int.toNat_natCast]
    exact_mod_cast hatEnd
  have hdistinct : ∀ k, Distinct historyKey (ofBuyer b m (worlds k).db) := fun k =>
    distinct_ofBuyer b m (worlds k).db
  have hgrows := ofBuyer_grows (b := b) (m := m) hreads.goesOn
  refine ⟨fun o ho hm hb => ?_, fun k hk v hv => ?_, fun hsame => ?_⟩
  · obtain ⟨k, hk, hmem⟩ := mem_pages_of_grows hlimit hdistinct hgrows hend
      (mem_ofBuyer.2 ⟨ho, hm, hb⟩)
    refine ⟨k, hk, ?_⟩
    rw [(hpage k hk).2]
    exact List.mem_map_of_mem hmem
  · rw [(hpage k hk).2] at hv
    obtain ⟨o, ho, rfl⟩ := List.mem_map.1 hv
    have hrow : o ∈ ofBuyer b m (worlds k).db := by
      rw [pageOf, limitOffset_of_pos hlimit] at ho
      exact mem_ranked.1 (List.mem_of_mem_drop (List.mem_of_mem_take ho))
    obtain ⟨hmem, hm, hb⟩ := mem_ofBuyer.1 hrow
    exact ⟨o, hmem, hm, hb, rfl⟩
  · have hrows : ∀ k ≤ n, ofBuyer b m (worlds k).db = ofBuyer b m (worlds 0).db := fun k hk => by
      rw [ofBuyer, ofBuyer, Repository.scopedSelect, Repository.scopedSelect]
      exact congrArg (fun t => Table.select t _) (hsame k hk)
    have hparts : ∀ k ∈ List.range (n + 1), (answers k).1 = (pageOf historyKey
        (fun k => ofBuyer b m (worlds k).db) limit k).map toSchema := fun k hk => by
      rw [(hpage k (Nat.le_of_lt_succ (List.mem_range.1 hk))).2]
    have hall : (List.range (n + 1)).flatMap (pageOf historyKey
        (fun k => ofBuyer b m (worlds k).db) limit) =
          ranked historyKey (ofBuyer b m (worlds 0).db) :=
      flatMap_pageOf hlimit (fun k hk => hrows k (Nat.le_of_lt_succ hk))
        ((length_le_of_grows hdistinct hgrows n).trans hend)
    rw [List.flatMap_congr hparts, ← hall]
    exact List.map_flatMap.symm

/-- The shop after a payment, and after the buyer has asked to cancel what was bought. -/
def laterWorlds : ℕ → World
  | 0 => paymentVerified
  | _ + 1 => cancelledLate

/-- The pages of the buyer's history that these show. -/
def laterPages (k : ℕ) : List OrderV1 × ℕ :=
  ((listOrdersForBuyer "byr" "mer" 20 (k * 20) (laterWorlds k).db).toOption).getD ([], 0)

theorem history_complete_later : (laterPages 0).2 = 1 ∧
    ∀ o ∈ paymentVerified.db.orders, o.merchantId = "mer" → o.buyerId = "byr" →
      ∃ k ≤ 1, o.toSchema ∈ (laterPages k).1 := by
  have hreads : Reads "byr" "mer" 20 laterWorlds laterPages 1 := by
    refine ⟨fun k => ?_, fun k hk => ?_, by decide⟩
    · cases k with
      | zero => exact .single ⟨shopEnv, .cancelCheckout "byr" "mer" "chk", rfl⟩
      | succ k => exact .refl
    · interval_cases k <;> rfl
  exact ⟨by decide, (history_complete hreads).1⟩

end Order
end AgenticCommerce
