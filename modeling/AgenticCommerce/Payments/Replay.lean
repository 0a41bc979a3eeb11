/-
# Replays of a payment

A payment that was created under a key leaves a completed record with its response, and no
operation touches a completed record that has one (`mem_records_of_step`).  A retry finds it
behind the other checks of `createPayment`: whether it is answered from the record depends on
the live price of the offer, and on nothing else (`replays_iff`).
-/

import AgenticCommerce.Lifecycle.Steps
import AgenticCommerce.Payments.Binding
import AgenticCommerce.Payments.Exclusion
import AgenticCommerce.Payments.RolledBack

namespace AgenticCommerce

open Relational Work

/-! ### Checkouts stay -/

/-- Every checkout is still there, with at most another status. -/
def Database.CheckoutsStay (db db' : Database) : Prop :=
  ∀ c ∈ db.checkouts, ∃ s, { c with status := s } ∈ db'.checkouts

namespace Database

instance : IsPreorder Database CheckoutsStay where
  refl _ c hc := ⟨c.status, hc⟩
  trans _ _ _ h h' c hc := by
    obtain ⟨s, hs⟩ := h c hc
    obtain ⟨s', hs'⟩ := h' _ hs
    exact ⟨s', hs'⟩

theorem CheckoutsStay.of_eq {db db' : Database} (h : db.checkouts = db'.checkouts) :
    db.CheckoutsStay db' := by
  intro c hc
  rw [h] at hc
  exact ⟨c.status, hc⟩

instance : BooksFrame CheckoutsStay := ⟨fun _ _ _ _ _ _ => .of_eq rfl, fun _ _ _ => .of_eq rfl⟩
instance : RecordsFrame CheckoutsStay := ⟨fun _ _ => .of_eq rfl⟩
instance : PaymentFrame CheckoutsStay := ⟨fun _ _ _ _ _ => .of_eq rfl, fun _ _ _ _ => .of_eq rfl⟩
instance : CallbackFrame CheckoutsStay := ⟨fun _ _ _ => .of_eq rfl⟩
instance : AuthorizationFrame CheckoutsStay :=
  ⟨fun _ _ _ _ _ => .of_eq rfl, fun _ _ _ _ => .of_eq rfl, fun _ _ _ _ _ => .of_eq rfl⟩

instance : TransitionFrame CheckoutsStay where
  checkout db id s _ _ _ c hc := by
    by_cases hid : (c.checkoutId == id) = true
    · exact ⟨s, Table.mem_modify_of_match (f := fun c => { c with status := s }) (h := fun _ => rfl)
        hc hid⟩
    · refine ⟨c.status, ?_⟩
      have hstays : c ∈ (db.setCheckoutStatus id s).checkouts := by
        rw [setCheckoutStatus, Table.mem_modify]
        exact ⟨c, hc, if_neg hid⟩
      exact hstays
  payment _ _ _ _ _ := .of_eq rfl

instance : CheckoutFrame CheckoutsStay where
  opening _ _ _ _ ht c hc := ⟨c.status, (Table.mem_insert ht).2 (.inl hc)⟩

instance : PaymentFrame (Keeps idempotencyRecords) := ⟨fun _ _ _ _ _ => rfl, fun _ _ _ _ => rfl⟩
instance : CallbackFrame (Keeps idempotencyRecords) := ⟨fun _ _ _ => rfl⟩

end Database

section

variable {env : Env} {w w' : World}

/-- **No operation takes a checkout away.** -/
theorem checkoutsStay_of_step (op : Operation) : w.db.CheckoutsStay (op.run env w).db := by
  refine op.frame_of (fun _ _ _ _ => .of_eq rfl) (fun _ _ _ _ _ => .of_eq rfl) fun b m id a key _ => ?_
  exact request_moves (C := Anything) (createPayment_returns fun _ _ _ => trivial) w

end

/-! ### Completed records stay -/

/-- The scope of a payment's key. -/
def payScope (m b k : String) : Scope := ⟨"buyer", m ++ ":" ++ b, "POST /payments", k⟩

/-- The record answers requests with the digest `hash` for a scope. -/
structure Answers (scope : Scope) (hash : String) (body : PaymentV1) (r : IdempotencyRecord) :
    Prop where
  inScope : r.scope = scope
  completed : r.status = .completed
  hashed : r.requestHash = hash
  answered : r.responseBody = some (.payment body)

section

variable {env : Env} {w w' : World} {c : Checkout} {scope : Scope} {hash b m id a k : String}
  {now : Time} {key : Option String} {lock : Idempotency.Lock} {body body' : PaymentV1}
  {r : IdempotencyRecord}

/-- A lock that was taken has its record in the store. -/
theorem acquire_stored (h : Idempotency.acquire env now scope hash w = .ok lock w') :
    ∃ r ∈ w'.db.idempotencyRecords, r.idempotencyRecordId = lock.record.idempotencyRecordId ∧
      r.scope = scope ∧ r.requestHash = hash := by
  rcases Idempotency.acquireLock_ok h with ⟨-, rfl, t, ht, rfl⟩ | ⟨r, hfind, hreuse⟩
  · exact ⟨_, (Table.mem_insert ht).2 (.inr rfl), rfl, rfl, rfl⟩
  · obtain ⟨hr, hscope⟩ := Idempotency.find_eq_some hfind
    obtain ⟨hhash, ⟨-, rfl, rfl⟩ | ⟨-, rfl, rfl⟩⟩ := Idempotency.reuse_ok hreuse
    · refine ⟨r.takenOver now hash, ?_, rfl, hscope, rfl⟩
      exact Idempotency.mem_modified_record (f := (·.takenOver now hash)) (k := fun _ => rfl) hr rfl
    · exact ⟨r, hr, rfl, hscope, hhash⟩

/-- A completed record is not taken. -/
theorem acquire_keeps (hr : r ∈ w.db.idempotencyRecords) (hs : r.status = .completed)
    (h : Idempotency.acquire env now scope hash w = .ok lock w') :
    r ∈ w'.db.idempotencyRecords ∧
      (r.idempotencyRecordId = lock.record.idempotencyRecordId →
        lock.isReplay = true ∧ lock.cachedBody = r.responseBody) := by
  rcases Idempotency.acquire_ok h with ⟨hreplay, hsame⟩ | ⟨-, -, -, -, -, hinsert⟩ |
    ⟨-, hlock, -, hfree, hmodify⟩
  · refine ⟨by rwa [hsame], fun hid => ⟨hreplay, ?_⟩⟩
    obtain ⟨hfind, -, -, hcached⟩ := Idempotency.acquireLock_replay h hreplay
    rw [hcached, Idempotency.record_unique hr (Idempotency.find_eq_some hfind).1 hid]
  · refine ⟨(Table.mem_insert hinsert).2 (.inl hr), fun hid => ?_⟩
    have hclash := (Table.insert?_eq_some.1 hinsert).1 r hr
    simp [clashes, Keyed.clash, Keyed.key, hid] at hclash
  · have hne : r.idempotencyRecordId ≠ lock.record.idempotencyRecordId := fun hid => by
      obtain rfl := Idempotency.record_unique hr hlock hid
      rcases hfree with h | ⟨h, -⟩ <;> rw [hs] at h <;> exact nomatch h
    refine ⟨?_, fun hid => absurd hid hne⟩
    rw [hmodify]
    exact Idempotency.mem_modify_record hr hne

/-- What a replay answers is in the record. -/
theorem replay_eq_some {answer : Except Failure PaymentV1}
    (h : Payment.replay env c lock = some answer) :
    lock.isReplay = true ∧ ∃ cached, lock.cachedBody = some cached ∧
      ∀ body, answer = .ok body → cached = .payment body := by
  unfold Payment.replay at h
  split_ifs at h with halive
  obtain ⟨cached, hcached, hanswer⟩ := Option.map_eq_some_iff.1 h
  refine ⟨halive.1, cached, hcached, fun body hbody => ?_⟩
  subst hbody
  cases cached with
  | payment p => rw [Except.ok.inj hanswer]
  | error _ => exact nomatch hanswer

/-- **A payment that was created under a key** leaves a record that answers it. -/
theorem createPayment_answers (hk : given key = some k)
    (h : Payment.createPayment env b m id a key w = .ok body w') :
    ∃ c, w.db.checkoutOf m b id = some c ∧ 1 ≤ c.priceSnapshot.quantity ∧
      c ∈ w'.db.checkouts ∧ ∃ r ∈ w'.db.idempotencyRecords,
        Answers (payScope m b k) (env.requestHash id a c.totalMinor) body r := by
  obtain ⟨c, offer, hclear, ⟨hnone, -⟩ | ⟨k', lock, w₁, hk', hlock, hcases⟩⟩ := createPayment_ok h
  · rw [hk] at hnone
    exact nomatch hnone
  obtain rfl := Option.some.inj (hk.symm.trans hk')
  have hmem := (Table.first_eq_some hclear.checkout).1
  have hmoves : Moves (OnWorld (Database.Keeps Database.checkouts) Eq) (Idempotency.acquireLock env
    (env.clock 1) "buyer" (m ++ ":" ++ b) "POST /payments" k
    (env.requestHash id a c.totalMinor)) := acquireLock_frame
  have hkept : w.db.checkouts = w₁.db.checkouts := (hmoves.1 _ _ _ hlock).1
  have hacquire : Idempotency.acquire env (env.clock 1) (payScope m b k) _ w = .ok lock w₁ := hlock
  refine ⟨c, hclear.checkout, hclear.quantity, ?_⟩
  rcases hcases with ⟨hreplay, rfl⟩ | ⟨-, hcharge⟩
  · obtain ⟨hisReplay, cached, hcached, hbody⟩ := replay_eq_some hreplay
    obtain ⟨hfind, hcompleted, hhash, hresponse⟩ := Idempotency.acquireLock_replay hlock hisReplay
    obtain ⟨hr, hscope⟩ : _ ∧ lock.record.scope = payScope m b k :=
      Idempotency.find_eq_some hfind
    refine ⟨by rw [← hkept]; exact hmem, lock.record,
      (acquire_keeps hr hcompleted hacquire).1, hscope, hcompleted, hhash, ?_⟩
    rw [← hresponse, hcached, hbody body rfl]
  · obtain ⟨x, order, -, -, -, -, -, hdone⟩ := charge_ok hcharge
    obtain ⟨r, hr, hid, hscope, hhash⟩ := acquire_stored hacquire
    refine ⟨by rw [hdone.checkouts, ← hkept]; exact hmem, ?_⟩
    rw [hdone.records, Option.elim_some]
    exact ⟨_, mem_completeRecord hr hid, hscope, rfl, hhash, rfl⟩

/-- **A payment leaves the other answers alone.** -/
theorem createPayment_keeps (hr : r ∈ w.db.idempotencyRecords) (hs : r.status = .completed)
    (hbody : r.responseBody = some (.payment body'))
    (h : Payment.createPayment env b m id a key w = .ok body w') : r ∈ w'.db.idempotencyRecords := by
  obtain ⟨c, offer, hclear, ⟨-, hcharge⟩ | ⟨k, lock, w₁, -, hlock, hcases⟩⟩ := createPayment_ok h
  · obtain ⟨x, order, -, -, -, -, -, hdone⟩ := charge_ok hcharge
    rw [hdone.records]
    exact hr
  have hacquire : Idempotency.acquire env (env.clock 1) (payScope m b k) _ w = .ok lock w₁ := hlock
  obtain ⟨hr₁, hown⟩ := acquire_keeps hr hs hacquire
  rcases hcases with ⟨-, rfl⟩ | ⟨hnone, hcharge⟩
  · exact hr₁
  · obtain ⟨x, order, -, -, -, -, -, hdone⟩ := charge_ok hcharge
    rw [hdone.records, Option.elim_some]
    refine mem_completeRecord_of_ne hr₁ fun hid => ?_
    obtain ⟨hisReplay, hcached⟩ := hown hid
    rw [Payment.replay, if_pos ⟨hisReplay, hclear.alive, hclear.timely⟩, hcached, hbody] at hnone
    cases hnone

/-- **No operation touches an answer.** -/
theorem mem_records_of_step (op : Operation) (hr : r ∈ w.db.idempotencyRecords)
    (hs : r.status = .completed) (hbody : r.responseBody = some (.payment body')) :
    r ∈ (op.run env w).db.idempotencyRecords := by
  by_cases hop : ∃ b m id a key, op = .createPayment b m id a key
  · obtain ⟨b, m, id, a, key, rfl⟩ := hop
    exact request_induction (P := fun db => r ∈ db.idempotencyRecords) hr fun _ _ h _ =>
      createPayment_keeps hr hs hbody h
  · have hsame : Database.Keeps Database.idempotencyRecords w.db (op.run env w).db :=
      op.frame_of (fun _ _ _ _ => rfl) (fun _ _ _ _ _ => rfl) fun b m id a key h =>
        absurd ⟨b, m, id, a, key, h⟩ hop
    rwa [← show w.db.idempotencyRecords = (op.run env w).db.idempotencyRecords from hsame]

/-! ### A retry -/

/-- A completed record is replayed. -/
theorem acquire_of_answers (hr : r ∈ w.db.idempotencyRecords) (h : Answers scope hash body r) :
    Idempotency.acquire env now scope hash w = .ok ⟨true, r, some (.payment body)⟩
      { w with db := w.db.appendAudit (Idempotency.replayEvent r) } := by
  have hfind := Idempotency.find_of_mem hr h.inScope
  have hnotFree : ¬(r.status = .failed ∨ (r.status = .inProgress ∧ r.expiresAt ≤ now)) := by
    rw [h.completed]
    simp
  refine bind_eq_ok.2 ⟨some r, w, query_eq_ok.2 ⟨hfind, rfl⟩, ?_⟩
  refine bind_eq_ok.2 ⟨(), w, raiseIf_eq_ok.2 ⟨not_not.2 h.hashed, rfl⟩, ?_⟩
  rw [if_neg hnotFree]
  refine bind_eq_ok.2 ⟨(), w, raiseIf_eq_ok.2 ⟨by rw [h.completed]; decide, rfl⟩, ?_⟩
  refine bind_eq_ok.2 ⟨(), _, appendEvent_eq_ok.2 rfl, pure_eq_ok.2 ⟨?_, rfl⟩⟩
  rw [h.answered]

/-- A retry that comes as far as the record is answered from it. -/
theorem createPayment_of_answers {offer : Offer} (hk : given key = some k)
    (hclear : Cleared env b m id c offer w) (hr : r ∈ w.db.idempotencyRecords)
    (h : Answers (payScope m b k) (env.requestHash id a c.totalMinor) body r) :
    Payment.createPayment env b m id a key w = .ok body
      { w with db := w.db.appendAudit (Idempotency.replayEvent r) } := by
  have hexpired : Payment.refuseExpired env c m w = .ok () w := by
    rw [Payment.refuseExpired, if_neg (not_le.2 hclear.timely)]
    rfl
  have hprice : Payment.refusePriceChange env c offer m w = .ok () w := by
    rw [Payment.refusePriceChange, if_neg (not_not.2 hclear.price)]
    rfl
  have hreplay : Payment.replay env c ⟨true, r, some (.payment body)⟩ = some (.ok body) := by
    rw [Payment.replay, if_pos ⟨rfl, hclear.alive, hclear.timely⟩]
    rfl
  refine bind_eq_ok.2 ⟨c, w, require_eq_ok.2 ⟨hclear.checkout, rfl⟩, ?_⟩
  refine bind_eq_ok.2 ⟨(), w, raiseIf_eq_ok.2 ⟨by rw [hclear.alive]; decide, rfl⟩, ?_⟩
  refine bind_eq_ok.2 ⟨(), w, hexpired, bind_eq_ok.2 ⟨offer, w, require_eq_ok.2 ⟨hclear.offered, rfl⟩, ?_⟩⟩
  refine bind_eq_ok.2 ⟨(), w, raiseIf_eq_ok.2 ⟨not_lt.2 hclear.quantity, rfl⟩, ?_⟩
  refine bind_eq_ok.2 ⟨(), w, hprice, ?_⟩
  rw [hk]
  refine bind_eq_ok.2 ⟨_, _, @acquire_of_answers _ _ (payScope m b k) _ _ _ _ hr h, ?_⟩
  rw [hreplay]
  exact ofAnswer_eq_ok.2 ⟨rfl, rfl⟩

/-- A retry returns the response `body`, asks the provider for nothing, and leaves the
payments, the authorizations and the checkouts as they are. -/
def Replays (env : Env) (b m id a : String) (key : Option String) (body : PaymentV1) (w : World) :
    Prop :=
  ∃ w', Payment.createPayment env b m id a key w = .ok body w' ∧ w'.calls = w.calls ∧
    w'.db.payments = w.db.payments ∧ w'.db.authorizations = w.db.authorizations ∧
    w'.db.checkouts = w.db.checkouts

/-- The live offer of a checkout still gives the digest that is frozen in it. -/
def PriceHolds (env : Env) (m : String) (c : Checkout) (db : Database) : Prop :=
  ∃ offer, db.offers.first (fun o => o.offerId == c.offerId && o.merchantId == m) = some offer ∧
    Payment.currentPriceHash env c offer = c.priceHash

/-- **When a retry is a replay.**  After a payment that was created under a key, and whatever
happened since, a retry on a checkout that is alive is answered from the record exactly when
the price holds. -/
theorem replays_iff (env env' : Env) (b m id a : String) (key : Option String) {k : String}
    (hk : given key = some k) (hhash : env'.requestHash = env.requestHash) {w w₁ w₂ : World}
    {body : PaymentV1} (h : Payment.createPayment env b m id a key w = .ok body w₁)
    (hrun : Relation.ReflTransGen Step w₁ w₂) :
    ∃ c, w₂.db.checkoutOf m b id = some c ∧ (c.status.terminal = false → env'.now < c.expiresAt →
      (Replays env' b m id a key body w₂ ↔ PriceHolds env' m c w₂.db)) := by
  obtain ⟨c₀, hc₀, hquantity, hstored, r, hr, hanswers⟩ := createPayment_answers hk h
  have hkept : r ∈ w₂.db.idempotencyRecords := by
    refine invariant_of_steps (I := fun w : World => r ∈ w.db.idempotencyRecords) ?_ hr hrun
    rintro u v hu ⟨e, op, rfl⟩
    exact mem_records_of_step op hu hanswers.completed hanswers.answered
  have hstay : w₁.db.CheckoutsStay w₂.db := by
    refine invariant_of_steps (I := fun w : World => w₁.db.CheckoutsStay w.db) ?_
      (refl_of Database.CheckoutsStay w₁.db) hrun
    rintro u v hu ⟨e, op, rfl⟩
    exact trans_of Database.CheckoutsStay hu (checkoutsStay_of_step op)
  obtain ⟨s, hs⟩ := hstay c₀ hstored
  have hkeys := (Table.first_eq_some hc₀).2
  have hfound : w₂.db.checkoutOf m b id = some { c₀ with status := s } := by
    refine Table.first_of_mem hs hkeys fun c' hc' hkeys' => ?_
    simp only [Bool.and_eq_true, beq_iff_eq] at hkeys hkeys'
    exact Table.eq_of_clash hc' hs (by
      simp [clashes, Keyed.clash, Keyed.key, hkeys.1.1, hkeys'.1.1])
  refine ⟨_, hfound, fun hlive htimely => ⟨?_, ?_⟩⟩
  · rintro ⟨w', hretry, -⟩
    obtain ⟨c', offer, hclear, -⟩ := createPayment_ok hretry
    obtain rfl := Option.some.inj (hfound.symm.trans hclear.checkout)
    exact ⟨offer, hclear.offered, hclear.price⟩
  · rintro ⟨offer, hoffer, hprice⟩
    have halive : s.dead = false := by
      rw [CheckoutStatus.terminal, Bool.or_eq_false_iff, Bool.or_eq_false_iff] at hlive
      exact hlive.1.1
    have hclear : Cleared env' b m id { c₀ with status := s } offer w₂ :=
      { checkout := hfound
        alive := halive
        timely := htimely
        offered := hoffer
        quantity := hquantity
        price := hprice }
    have hanswers' : Answers (payScope m b k) (env'.requestHash id a c₀.totalMinor) body r := by
      rw [hhash]
      exact hanswers
    exact ⟨_, createPayment_of_answers hk hclear hkept hanswers', rfl, rfl, rfl, rfl⟩

end
/-! ### A retry after a change of the price -/

/-- The checkout of the shop, authorized. -/
def authorizedAtPrice : World :=
  (Operation.requestAuthorization "byr" "mer" "chk" 15).run pricedEnv
    ((Operation.createCheckout "byr" "mer" "ofr" 2 15).run pricedEnv openShop)

/-- Its payment is created under a key. -/
def paidUnderKey : World :=
  (Operation.createPayment "byr" "mer" "chk" "ath" (some "key_1")).run pricedEnv authorizedAtPrice

/-- The response to it. -/
def firstResponse : PaymentV1 :=
  Payment.toSchema pricedEnv
    { paymentId := "pay", checkoutId := "chk", merchantId := "mer", buyerId := "byr",
      authorizationId := "ath", status := .pending, amountMinor := 200, currency := .inr,
      provider := "fake", providerOrderId := some "order_1", testMode := true, createdAt := 0,
      updatedAt := 0 }

theorem paidUnderKey_ok :
    Payment.createPayment pricedEnv "byr" "mer" "chk" "ath" (some "key_1") authorizedAtPrice =
      .ok firstResponse paidUnderKey := rfl

theorem replays_iff_paidUnderKey : ∃ c, paidUnderKey.db.checkoutOf "mer" "byr" "chk" = some c ∧
    (c.status.terminal = false → pricedEnv.now < c.expiresAt →
      (Replays pricedEnv "byr" "mer" "chk" "ath" (some "key_1") firstResponse paidUnderKey ↔
        PriceHolds pricedEnv "mer" c paidUnderKey.db)) :=
  replays_iff pricedEnv pricedEnv "byr" "mer" "chk" "ath" (some "key_1") rfl rfl paidUnderKey_ok .refl

/-- **A retry that is refused**: the offer costs more by now, the payment is still pending and
its checkout authorized, and the same request is answered with `PRICE_CHANGED`. -/
theorem retry_refused_after_import : ¬∀ (env : Env) (b m id a : String) (key : Option String)
    (k : String), given key = some k → ∀ (w w₁ w₂ : World) (body : PaymentV1),
      Payment.createPayment env b m id a key w = .ok body w₁ →
        Relation.ReflTransGen Step w₁ w₂ → ∀ c, w₂.db.checkoutOf m b id = some c →
          c.status.terminal = false → env.now < c.expiresAt →
            Replays env b m id a key body w₂ := by
  intro h
  have hrun : Relation.ReflTransGen Step paidUnderKey (repriced 120 paidUnderKey) :=
    .single ⟨pricedEnv, _, rfl⟩
  obtain ⟨w', hok, -⟩ := h pricedEnv "byr" "mer" "chk" "ath" (some "key_1") "key_1" rfl
    authorizedAtPrice paidUnderKey (repriced 120 paidUnderKey) firstResponse paidUnderKey_ok hrun _ rfl
    (by decide) (by decide)
  have hrefused : returns (Payment.createPayment pricedEnv "byr" "mer" "chk" "ath" (some "key_1"))
      (repriced 120 paidUnderKey) = false := by decide
  rw [returns, hok] at hrefused
  exact nomatch hrefused

end AgenticCommerce
