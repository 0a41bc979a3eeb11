/-
# Payments move purchases along

`createPayment`, `verifyPayment`, `failPayment` and `refundPayment` as moves of one
purchase.  The last three are also called by the webhook, which commits what they
wrote before they raised, so for them a refusal counts as well: as long as the
session can still be used, what a refused call leaves behind is again a purchase
in some phase.
-/

import AgenticCommerce.Lifecycle.Operations
import AgenticCommerce.Payments.Service

namespace AgenticCommerce

open Relational

/-- An update of a payment's columns that a purchase does not depend on. -/
theorem Payment.keeps_of_rfl {f : Payment → Payment}
    (h : ∀ p, (f p).paymentId = p.paymentId ∧ (f p).checkoutId = p.checkoutId ∧
      (f p).authorizationId = p.authorizationId ∧ (f p).buyerId = p.buyerId ∧
      (f p).merchantId = p.merchantId ∧ (f p).amountMinor = p.amountMinor ∧
      (f p).currency = p.currency ∧ (f p).createdAt = p.createdAt) : Payment.Keeps f := by
  intro p
  obtain ⟨hid, hcheckout, hauth, hbuyer, hmerchant, hamount, hcurrency, htime⟩ := h p
  refine ⟨hid, htime, fun a c hdraws => ?_⟩
  unfold Payment.Draws at hdraws ⊢
  rw [hcheckout, hauth, hbuyer, hmerchant, hamount, hcurrency, htime]
  exact hdraws

theorem Payment.keeps_status (status : PaymentStatus) :
    Payment.Keeps fun p => { p with status } :=
  keeps_of_rfl fun _ => ⟨rfl, rfl, rfl, rfl, rfl, rfl, rfl, rfl⟩

section

variable {w w' : World} {env : Env} {e : Failure}

/-! ### Creating a payment -/

theorem acquireLock_purchase {now : Time} {actorType actorId endpoint key hash : String}
    {lock : Idempotency.Lock}
    (h : Idempotency.acquireLock env now actorType actorId endpoint key hash w = .ok lock w') :
    w'.db.purchase = w.db.purchase := by
  have hreuse : ∀ {v : World} {record : IdempotencyRecord},
      Idempotency.reuse now hash record v = .ok lock w' → w'.db.purchase = v.db.purchase := by
    intro v record h
    simp only [Idempotency.reuse, Work.bind_eq_ok, raiseIf_eq_ok] at h
    obtain ⟨_, _, ⟨_, rfl⟩, h⟩ := h
    split_ifs at h
    · simp only [Work.bind_eq_ok, update_eq_ok, flush_eq_ok, Work.pure_eq_ok] at h
      obtain ⟨_, _, rfl, _, _, ⟨_, rfl⟩, _, rfl⟩ := h
      rfl
    · simp only [Work.bind_eq_ok, raiseIf_eq_ok, appendEvent_eq_ok, Work.pure_eq_ok] at h
      obtain ⟨_, _, ⟨_, rfl⟩, _, _, rfl, _, rfl⟩ := h
      rfl
  simp only [Idempotency.acquireLock, Work.bind_eq_ok, query_eq_ok] at h
  obtain ⟨existing, _, ⟨_, rfl⟩, h⟩ := h
  cases existing with
  | some record => exact hreuse h
  | none =>
      simp only [Work.bind_eq_ok, flush_eq_ok, nested, Work.savepoint_eq_ok, insert_eq_ok,
        Option.map_eq_some_iff] at h
      obtain ⟨_, _, ⟨_, rfl⟩, _, v, hins, h⟩ := h
      rcases hins with ⟨_, ⟨_, _, ⟨_, ⟨_, _, rfl⟩, rfl⟩, _, rfl⟩, rfl⟩ | ⟨_, _, _, rfl, rfl⟩
      · obtain ⟨_, rfl⟩ := Work.pure_eq_ok.1 h
        rfl
      · simp only [Work.bind_eq_ok, require_eq_ok] at h
        obtain ⟨_, _, ⟨_, rfl⟩, h⟩ := h
        have hlast := hreuse h
        exact hlast

theorem refuseExpired_ok {c : Checkout} {merchantId : String} {u : Unit}
    (h : Payment.refuseExpired env c merchantId w = .ok u w') :
    w = w' ∧ env.now < c.expiresAt := by
  unfold Payment.refuseExpired at h
  split_ifs at h with hlate
  · simp at h
  · obtain ⟨_, rfl⟩ := Work.pure_eq_ok.1 h
    exact ⟨rfl, not_le.1 hlate⟩

theorem refusePriceChange_ok {c : Checkout} {offer : Offer} {merchantId : String} {u : Unit}
    (h : Payment.refusePriceChange env c offer merchantId w = .ok u w') :
    w = w' ∧ Payment.currentPriceHash env c offer = c.priceHash := by
  unfold Payment.refusePriceChange at h
  split_ifs at h with hdrift
  · simp at h
  · obtain ⟨_, rfl⟩ := Work.pure_eq_ok.1 h
    exact ⟨rfl, not_not.1 hdrift⟩

theorem revalidateForPayment_ok {authorizationId id hash merchantId buyerId : String}
    {a : Authorization}
    (h : Authorization.revalidateForPayment env authorizationId id hash merchantId buyerId w =
      .ok a w') :
    w = w' ∧ w.db.authorizationOf merchantId buyerId authorizationId = some a ∧
      a.checkoutId = id ∧ a.status = .approved ∧ env.now < a.validUntil ∧ a.priceHash = hash := by
  simp only [Authorization.revalidateForPayment, Work.bind_eq_ok, require_eq_ok, raiseIf_eq_ok] at h
  obtain ⟨auth, _, ⟨hauth, rfl⟩, _, _, ⟨hid, rfl⟩, _, _, ⟨_, rfl⟩, _, _, ⟨hstatus, rfl⟩, h⟩ := h
  split_ifs at h with hlate
  · exact absurd h expire_ok
  · simp only [Work.bind_eq_ok, raiseIf_eq_ok, Work.pure_eq_ok] at h
    obtain ⟨_, _, ⟨hhash, rfl⟩, rfl, rfl⟩ := h
    exact ⟨rfl, hauth, not_not.1 hid, not_not.1 hstatus, not_le.1 hlate, not_not.1 hhash⟩

theorem abandon_ok {α : Type} {payment : Payment} {record : Option IdempotencyRecord} {v : α} :
    ¬Payment.abandon env payment record e w = .ok v w' := by
  simp [Payment.abandon]

theorem charge_advances {c : Checkout} {offer : Offer} {buyerId merchantId authorizationId id : String}
    {key : Option String} {record : Option IdempotencyRecord} {v : PaymentV1}
    (hc : (w.db.purchase id).checkout = some c) (howner : c.merchantId = merchantId ∧
      c.buyerId = buyerId) (hover : ¬c.status.Over) (hexpiry : env.now < c.expiresAt)
    (h : Payment.charge env c offer buyerId merchantId authorizationId key record w = .ok v w') :
    w.db.Advances env.now w'.db := by
  simp only [Payment.charge, Work.bind_eq_ok, insert_eq_ok, flush_eq_ok, call_eq_ok,
    Option.map_eq_some_iff] at h
  obtain ⟨a, _, hauth, _, _, ⟨_, ⟨t, hins, rfl⟩, rfl⟩, _, _, ⟨_, rfl⟩, answer, _, ⟨_, rfl⟩, h⟩ := h
  obtain ⟨rfl, hfound, haid, happroved, hvalid, -⟩ := revalidateForPayment_ok hauth
  obtain ⟨ha, -, -, -⟩ := authorizationOf_eq_some hfound
  obtain ⟨-, hid⟩ := mem_checkouts.2 hc
  rw [haid, hid] at ha
  cases answer with
  | error failure => exact absurd h abandon_ok
  | ok order =>
      simp only [Payment.initiate, Work.bind_eq_ok, update_eq_ok, flush_eq_ok, appendEvent_eq_ok,
        Work.pure_eq_ok] at h
      obtain ⟨_, _, rfl, _, _, rfl, _, w₂, htr, _, _, ⟨_, rfl⟩, _, _, rfl, _, w₃, hrecord, _, rfl⟩ :=
        h
      obtain ⟨s, _, hnext, rfl⟩ := transition_payment htr
      obtain rfl : PaymentStatus.pending = s := Option.some.inj hnext
      have hpaid : Payment.rowOf env c buyerId merchantId a.authorizationId key ∈
          ((w.db.purchase id).addPayment
            (Payment.rowOf env c buyerId merchantId a.authorizationId key)).payments :=
        List.mem_append_right _ (List.mem_singleton.2 rfl)
      have hconsumed := ((w.db.moved_self id).addPayment hid hins).setAuthorization ha .consumed
      have hnumbered := hconsumed.modifyPayment
        (f := fun p => { p with providerOrderId := some order.providerOrderId })
        (k := fun _ => rfl) (fun _ => rfl) hpaid
      have hmoved := hnumbered.setPaymentStatus (Purchase.mem_mapPayment _ hpaid) .pending
      refine .of_moved (hmoved.silent ?_)
        (Purchase.advances_pay hc hover ha happroved
          ⟨Payment.keeps_of_rfl fun _ => ⟨rfl, rfl, rfl, rfl, rfl, rfl, rfl, rfl⟩,
            Payment.keeps_status _⟩
          ⟨rfl, rfl, howner.2.symm, howner.1.symm, rfl, rfl, hvalid, hexpiry⟩ rfl rfl)
      cases record with
      | none =>
          obtain ⟨_, rfl⟩ := Work.pure_eq_ok.1 hrecord
          rfl
      | some r =>
          simp only [Option.elim_some, Idempotency.complete, Work.bind_eq_ok, update_eq_ok,
            flush_eq_ok] at hrecord
          obtain ⟨_, _, rfl, _, rfl⟩ := hrecord
          rfl

/-- A checkout whose status is no dead one. -/
theorem not_over_of_not_dead {s : CheckoutStatus} (h : s.dead = false) : ¬s.Over := by
  rintro (rfl | rfl) <;> exact absurd h (by decide)

theorem terminal_of_over {s : CheckoutStatus} (h : s.Over) : s.terminal = true := by
  rcases h with rfl | rfl <;> decide

theorem createPayment_advances {buyerId merchantId id authorizationId : String}
    {key : Option String} {v : PaymentV1}
    (h : Payment.createPayment env buyerId merchantId id authorizationId key w = .ok v w') :
    w.db.Advances env.now w'.db := by
  simp only [Payment.createPayment, Work.bind_eq_ok, require_eq_ok, raiseIf_eq_ok] at h
  obtain ⟨c, _, ⟨hc, rfl⟩, _, _, ⟨hdead, rfl⟩, _, _, hexpired, offer, _, ⟨_, rfl⟩, _, _, ⟨_, rfl⟩,
    _, _, hdrift, h⟩ := h
  obtain ⟨rfl, hexpiry⟩ := refuseExpired_ok hexpired
  obtain ⟨rfl, -⟩ := refusePriceChange_ok hdrift
  obtain ⟨hc', howner⟩ := checkoutOf_eq_some hc
  have hover := not_over_of_not_dead (by simpa using hdead)
  cases hkey : given key with
  | none =>
      rw [hkey] at h
      exact charge_advances hc' howner hover hexpiry h
  | some k =>
      rw [hkey] at h
      simp only [Work.bind_eq_ok] at h
      obtain ⟨lock, v, hlock, h⟩ := h
      have hsilent := acquireLock_purchase hlock
      cases hreplay : Payment.replay env c lock with
      | some answer =>
          rw [hreplay] at h
          obtain ⟨_, rfl⟩ := ofAnswer_eq_ok.1 h
          exact .of_eq hsilent
      | none =>
          rw [hreplay] at h
          exact (Database.Advances.of_eq hsilent).trans
            (charge_advances (by rw [hsilent]; exact hc') howner hover hexpiry h)

/-! ### Settling a payment -/

/-- The rows around a payment of a coherent store. -/
theorem Database.Coherent.around {db : Database} (hdb : db.Coherent) {p : Payment}
    {paymentId : String} (hp : db.paymentById paymentId = some p) :
    p.paymentId = paymentId ∧ p ∈ (db.purchase p.checkoutId).payments ∧
      ∃ ph c, (db.purchase p.checkoutId).At ph ∧ (db.purchase p.checkoutId).checkout = some c ∧
        c.checkoutId = p.checkoutId ∧ c.merchantId = p.merchantId := by
  obtain ⟨hmem, hid⟩ := paymentById_eq_some hp
  obtain ⟨ph, hat⟩ := hdb p.checkoutId
  obtain ⟨-, c, a, hc, -, -, -, hdraws⟩ := hat.payment_backed hmem
  obtain ⟨hcid, -, -, hmerchant, -⟩ := hdraws
  exact ⟨hid, hmem, ph, c, hat, hc, hcid.symm, hmerchant.symm⟩

theorem failPayment_ok {paymentId : String} {reason : Option String} {v : PaymentV1}
    (hdb : w.db.Coherent) (h : Payment.failPayment env paymentId reason w = .ok v w') :
    w.db.Advances env.now w'.db := by
  simp only [Payment.failPayment, Work.bind_eq_ok, require_eq_ok, update_eq_ok, query_eq_ok,
    flush_eq_ok, appendEvent_eq_ok, Work.pure_eq_ok] at h
  obtain ⟨p, _, ⟨hp, rfl⟩, _, _, rfl, _, w₂, htr, c?, _, ⟨hc?, rfl⟩, _, w₃, hrel, _, w₄, htr', _, _,
    ⟨_, rfl⟩, _, _, rfl, _, rfl⟩ := h
  obtain ⟨rfl, hmem, ph, c, hat, hc, hcid, -⟩ := hdb.around hp
  obtain ⟨s, _, hnext, rfl⟩ := transition_payment htr
  rw [PaymentStatus.next_failPayment] at hnext
  split_ifs at hnext with hsource
  obtain rfl := Option.some.inj hnext
  have hpending : p.status = .pending := by
    rcases hat.payment_status hmem with h | h | h <;> rw [h] at hsource <;> simp_all
  have hkeep : Payment.Keeps fun q => { q with updatedAt := env.now } :=
    Payment.keeps_of_rfl fun _ => ⟨rfl, rfl, rfl, rfl, rfl, rfl, rfl, rfl⟩
  have hstamped := (w.db.moved_self p.checkoutId).modifyPayment
    (f := fun q => { q with updatedAt := env.now }) (k := fun _ => rfl) (fun _ => rfl) hmem
  have hfailed := hstamped.setPaymentStatus (Purchase.mem_mapPayment _ hmem) .failed
  obtain rfl : some c = c? := by
    rw [← hc?]
    have hrow := congrArg Purchase.checkout hfailed.at_self
    exact (hrow.trans hc).symm
  rcases hat.payment_pending hc hmem hpending with ⟨hauthorized, -⟩ | hover
  · have hlive : c.status.terminal = false := by rw [hauthorized]; rfl
    simp only [Option.elim_some, hlive, unlessTrue_false] at hrel htr'
    obtain ⟨s', _, hnext', rfl⟩ := transition_checkout htr'
    rw [CheckoutStatus.next_failPayment, if_pos hauthorized] at hnext'
    obtain rfl := Option.some.inj hnext'
    have hreleased := releaseStock_moved (hfailed.silent rfl) hrel
    have hmoved := hreleased.setCheckout .paymentFailed
    rw [hcid]
    exact .of_moved (hmoved.silent rfl)
      (Purchase.advances_fail hc (by rw [hauthorized]; rintro (h | h) <;> cases h) hmem
        hpending ⟨hkeep, Payment.keeps_status _⟩ rfl (Reservation.release_status _))
  · simp only [Option.elim_some, terminal_of_over hover, unlessTrue_true, Work.pure_eq_ok]
      at hrel htr'
    obtain ⟨_, rfl⟩ := hrel
    obtain ⟨_, rfl⟩ := htr'
    exact .of_moved (hfailed.silent rfl)
      (Purchase.advances_failLate hc hover hmem ⟨hkeep, Payment.keeps_status _⟩ rfl)

/-- A refused failure touches the payment at most, if the session can go on. -/
theorem failPayment_error {paymentId : String} {reason : Option String} (hdb : w.db.Coherent)
    (he : e.usable = true) (h : Payment.failPayment env paymentId reason w = .error e w') :
    w.db.Advances env.now w'.db := by
  simp only [Payment.failPayment, Work.bind_eq_error, require_eq_ok, require_eq_error,
    update_eq_ok, update_eq_error, query_eq_ok, query_eq_error, flush_eq_error,
    appendEvent_eq_error, Work.pure_eq_error, and_false, exists_false, or_false, false_or] at h
  rcases h with ⟨_, _, rfl⟩ | ⟨p, _, ⟨hp, rfl⟩, _, _, rfl, h⟩
  · exact .refl _ _
  obtain ⟨rfl, hmem, ph, c, hat, hc, hcid, hmerchant⟩ := hdb.around hp
  have hkeep : Payment.Keeps fun q => { q with updatedAt := env.now } :=
    Payment.keeps_of_rfl fun _ => ⟨rfl, rfl, rfl, rfl, rfl, rfl, rfl, rfl⟩
  have hstamped := (w.db.moved_self p.checkoutId).modifyPayment
    (f := fun q => { q with updatedAt := env.now }) (k := fun _ => rfl) (fun _ => rfl) hmem
  rcases h with htr | ⟨_, w₂, htr, c?, _, ⟨hc?, rfl⟩, h⟩
  · obtain rfl := transition_error htr
    exact .of_moved hstamped (Purchase.advances_touch hmem hkeep rfl)
  exfalso
  obtain ⟨s, _, hnext, rfl⟩ := transition_payment htr
  rw [PaymentStatus.next_failPayment] at hnext
  split_ifs at hnext with hsource
  obtain rfl := Option.some.inj hnext
  have hpending : p.status = .pending := by
    rcases hat.payment_status hmem with h | h | h <;> rw [h] at hsource <;> simp_all
  have hfailed := hstamped.setPaymentStatus (Purchase.mem_mapPayment _ hmem) .failed
  obtain rfl : some c = c? := by
    rw [← hc?]
    have hrow := congrArg Purchase.checkout hfailed.at_self
    exact (hrow.trans hc).symm
  rcases hat.payment_pending hc hmem hpending with ⟨hauthorized, -⟩ | hover
  · have hlive : c.status.terminal = false := by rw [hauthorized]; rfl
    simp only [Option.elim_some, hlive, unlessTrue_false] at h
    rcases h with hrel | ⟨_, w₃, hrel, htr' | ⟨_, _, htr', hflush, rfl, rfl⟩⟩
    · obtain ⟨-, hforeign⟩ := releaseStock_error hrel
      rw [foreignCheckout_own (hfailed.silent rfl) hc hmerchant] at hforeign
      cases hforeign
    · exact transition_authorized hauthorized (.inr rfl) rfl htr'
    · cases he
  · simp only [Option.elim_some, terminal_of_over hover, unlessTrue_true, Work.pure_eq_ok,
      Work.pure_eq_error, false_or] at h
    obtain ⟨_, _, _, _, _, _, _, rfl, _⟩ := h
    cases he

/-- **A failure moves its purchase along**, and so does one that is refused, if the
session can go on. -/
theorem failPayment_advances {paymentId : String} {reason : Option String}
    (hdb : w.db.Coherent) (h : Leaves (Payment.failPayment env paymentId reason) w w') :
    w.db.Advances env.now w'.db := by
  rcases h with ⟨_, h⟩ | ⟨e, he, h⟩
  · exact failPayment_ok hdb h
  · exact failPayment_error hdb he h

theorem insertRow_ok {c : Checkout} {o : Order} {v : OrderV1} {p : Payment}
    (hc : (w.db.purchase o.checkoutId).checkout = some c)
    (hnone : (w.db.purchase o.checkoutId).order = none)
    (hp : p ∈ (w.db.purchase o.checkoutId).payments) (hid : o.paymentId = p.paymentId)
    (hs : p.status = .verified) (htotal : o.totalMinor = c.totalMinor)
    (h : Order.insertRow c o w = .ok v w') : w.db.Advances env.now w'.db := by
  simp only [Order.insertRow, Work.bind_eq_ok, flush_eq_ok, nested, Work.savepoint_eq_ok,
    insert_eq_ok, Option.map_eq_some_iff] at h
  obtain ⟨_, _, ⟨_, rfl⟩, _, v, hins, h⟩ := h
  rcases hins with ⟨_, ⟨_, _, ⟨_, ⟨t, hins, rfl⟩, rfl⟩, _, rfl⟩, rfl⟩ | ⟨_, u, _, rfl, rfl⟩
  · simp only [Work.bind_eq_ok, appendEvent_eq_ok, Work.pure_eq_ok] at h
    obtain ⟨_, _, rfl, _, rfl⟩ := h
    have hmoved := (w.db.moved_self o.checkoutId).putOrder rfl hins
    exact .of_moved (hmoved.silent rfl)
      (Purchase.advances_confirm hc hnone hp hs hid htotal)
  · simp only [Work.bind_eq_ok, query_eq_ok] at h
    obtain ⟨_, _, ⟨rfl, rfl⟩, h⟩ := h
    have hnone' : (World.restore w u).db.orderOfCheckout o.checkoutId = none := hnone
    rw [hnone'] at h
    exact absurd h (by simp)

theorem confirmOrder_ok {i : String} {p : Payment} {address : Option String} {v : OrderV1}
    (hp : p ∈ (w.db.purchase i).payments) (hs : p.status = .verified)
    (h : Order.confirmOrder env i p.paymentId address w = .ok v w') :
    w.db.Advances env.now w'.db := by
  simp only [Order.confirmOrder, Work.bind_eq_ok, query_eq_ok] at h
  obtain ⟨existing, _, ⟨hexisting, rfl⟩, h⟩ := h
  cases existing with
  | some o =>
      simp only at h
      split_ifs at h
      · obtain ⟨_, rfl⟩ := Work.pure_eq_ok.1 h
        exact .refl _ _
      · exact absurd h (by simp)
  | none =>
      simp only [Work.bind_eq_ok, query_eq_ok] at h
      obtain ⟨paid, _, ⟨_, rfl⟩, h⟩ := h
      cases paid with
      | some o =>
          obtain ⟨_, rfl⟩ := Work.pure_eq_ok.1 h
          exact .refl _ _
      | none =>
          simp only [Work.bind_eq_ok, require_eq_ok] at h
          obtain ⟨c, _, ⟨hc, rfl⟩, _, _, ⟨_, rfl⟩, h⟩ := h
          have hc' : (w.db.purchase i).checkout = some c := hc
          obtain ⟨-, rfl⟩ := mem_checkouts.2 hc'
          exact insertRow_ok (o := Order.rowOf env c p.paymentId address) hc' hexisting hp rfl hs
            rfl h

/-- A refused confirmation leaves the store alone. -/
theorem confirmOrder_error {id paymentId : String} {address : Option String}
    (h : Order.confirmOrder env id paymentId address w = .error e w') : w'.db = w.db := by
  have hinsert : ∀ {c : Checkout} {o : Order}, Order.insertRow c o w = .error e w' →
      w'.db = w.db := by
    intro c o h
    simp only [Order.insertRow, Work.bind_eq_error, flush_eq_error, flush_eq_ok, nested,
      Work.savepoint_eq_error, Work.savepoint_eq_ok, false_or] at h
    rcases h with ⟨_, _, rfl⟩ | ⟨_, _, ⟨_, rfl⟩, _, v, hins, h⟩
    · rfl
    rcases hins with ⟨_, _, rfl⟩ | ⟨_, u, _, rfl, rfl⟩
    · simp only [Work.bind_eq_error, appendEvent_eq_error, Work.pure_eq_error, and_false,
        exists_false, or_false] at h
    · simp only [Work.bind_eq_error, query_eq_error, query_eq_ok, false_or] at h
      obtain ⟨existing, _, ⟨_, rfl⟩, h⟩ := h
      cases existing with
      | some o' =>
          simp only at h
          split_ifs at h
          · exact absurd h (by simp)
          · obtain ⟨_, rfl⟩ := Work.throw_eq_error.1 h
            rfl
      | none =>
          obtain ⟨_, rfl⟩ := Work.throw_eq_error.1 h
          rfl
  simp only [Order.confirmOrder, Work.bind_eq_error, query_eq_ok, query_eq_error, false_or] at h
  obtain ⟨existing, _, ⟨_, rfl⟩, h⟩ := h
  cases existing with
  | some o =>
      simp only at h
      split_ifs at h
      · exact absurd h (by simp)
      · obtain ⟨_, rfl⟩ := Work.throw_eq_error.1 h
        rfl
  | none =>
      simp only [Work.bind_eq_error, query_eq_ok, query_eq_error, false_or] at h
      obtain ⟨paid, _, ⟨_, rfl⟩, h⟩ := h
      cases paid with
      | some o => exact absurd h (by simp)
      | none =>
          simp only [Work.bind_eq_error, require_eq_ok, require_eq_error] at h
          rcases h with ⟨_, _, rfl⟩ | ⟨_, _, ⟨_, rfl⟩, ⟨_, _, rfl⟩ | ⟨_, _, ⟨_, rfl⟩, h⟩⟩
          · rfl
          · rfl
          · exact hinsert h

theorem refuseUnpayable_ok {p : Payment} {c : Checkout} {u : Unit}
    (h : Payment.refuseUnpayable p c w = .ok u w') : w = w' ∧ ¬c.status.Over := by
  simp only [Payment.refuseUnpayable, Work.bind_eq_ok, raiseIf_eq_ok, query_eq_ok] at h
  obtain ⟨_, _, ⟨hexpired, rfl⟩, _, _, ⟨hunpayable, rfl⟩, _, _, ⟨_, rfl⟩, _, rfl⟩ := h
  refine ⟨rfl, ?_⟩
  rintro (hs | hs)
  · rw [hs] at hunpayable
    exact hunpayable (by decide)
  · exact hexpired hs

theorem refuseUnpayable_error {p : Payment} {c : Checkout}
    (h : Payment.refuseUnpayable p c w = .error e w') : w' = w := by
  simp only [Payment.refuseUnpayable, Work.bind_eq_error, raiseIf_eq_error, raiseIf_eq_ok,
    query_eq_ok, query_eq_error, false_or] at h
  rcases h with ⟨_, _, rfl⟩ | ⟨_, _, ⟨_, rfl⟩, ⟨_, _, rfl⟩ | ⟨_, _, ⟨_, rfl⟩, _, _, ⟨_, rfl⟩, _, _,
    rfl⟩⟩ <;> rfl

/-- The rows after a verification up to its order: the store has moved from `paying`
to `captured`. -/
theorem captured_moved {id : String} {p : Payment} {c : Checkout} {payId sig : Option String}
    {db db' : Database} (hc : (db.purchase id).checkout = some c) (hover : ¬c.status.Over)
    (hp : p ∈ (db.purchase id).payments) (hpending : p.status = .pending)
    (hmoved : db'.Moved db.purchase id
      (((((db.purchase id).mapPayment p.paymentId (Payment.stampVerified env.now payId sig)).mapPayment
        p.paymentId fun q => { q with status := .verified }).setCheckout .completed).mapHold
          (Reservation.commit env.now))) : db.Advances env.now db' :=
  .of_moved hmoved (Purchase.advances_capture hc hover hp hpending
    ⟨Payment.keeps_of_rfl fun _ => ⟨rfl, rfl, rfl, rfl, rfl, rfl, rfl, rfl⟩,
      Payment.keeps_status _⟩ rfl (Reservation.commit_status _))

/-- **A settled verification moves a purchase from `paying` to `completed`; a refused
one, to `captured`**, if the session can go on. -/
theorem settleVerified_advances {p : Payment} {payId sig address : Option String}
    (hdb : w.db.Coherent) (hp : w.db.paymentById p.paymentId = some p)
    (hopen : ∀ c, (w.db.purchase p.checkoutId).checkout = some c → ¬c.status.Over)
    (hunsettled : p.status ≠ .verified ∧ p.status ≠ .failed)
    (h : Leaves (Payment.settleVerified env p payId sig address) w w') :
    w.db.Advances env.now w'.db := by
  obtain ⟨-, hmem, ph, c, hat, hc, hcid, hmerchant⟩ := hdb.around hp
  have hover := hopen c hc
  have hpending : p.status = .pending := by
    rcases hat.payment_status hmem with hs | hs | hs
    · exact hs
    · exact absurd hs hunsettled.1
    · exact absurd hs hunsettled.2
  obtain ⟨hauthorized, k, hk, hheld⟩ := (hat.payment_pending hc hmem hpending).resolve_right hover
  have hlive : c.status.terminal = false := by rw [hauthorized]; rfl
  have hstamped := (w.db.moved_self p.checkoutId).modifyPayment
    (f := Payment.stampVerified env.now payId sig) (k := fun _ => rfl) (fun _ => rfl) hmem
  have hverified := hstamped.setPaymentStatus (Purchase.mem_mapPayment _ hmem) .verified
  have hcompleted := hverified.setCheckout .completed
  have hfound : ∀ {db : Database} {c? : Option Checkout}, db.Moved w.db.purchase p.checkoutId
      (((w.db.purchase p.checkoutId).mapPayment p.paymentId
        (Payment.stampVerified env.now payId sig)).mapPayment p.paymentId fun q =>
          { q with status := .verified }) → db.checkoutById p.checkoutId = c? → c? = some c := by
    rintro db c? hmoved rfl
    exact (congrArg Purchase.checkout hmoved.at_self).trans hc
  rcases h with ⟨_, h⟩ | ⟨e, he, h⟩
  · simp only [Payment.settleVerified, Work.bind_eq_ok, update_eq_ok, query_eq_ok, flush_eq_ok,
      appendEvent_eq_ok, Work.pure_eq_ok] at h
    obtain ⟨_, _, rfl, _, w₁, htr, c?, _, ⟨hc?, rfl⟩, _, w₂, htr', _, w₃, hcommit, order, w₄,
      horder, _, _, ⟨_, rfl⟩, _, _, rfl, _, rfl⟩ := h
    obtain ⟨s, _, hnext, rfl⟩ := transition_payment htr
    rw [PaymentStatus.next_verifyPayment, if_pos hpending] at hnext
    obtain rfl := Option.some.inj hnext
    obtain rfl := hfound (hverified.silent rfl) hc?
    simp only [Option.elim_some, hlive, unlessTrue_false] at htr' hcommit
    obtain ⟨s', _, hnext', rfl⟩ := transition_checkout htr'
    rw [CheckoutStatus.next_completeOrder, if_pos hauthorized] at hnext'
    obtain rfl := Option.some.inj hnext'
    rw [hcid] at hcommit
    have hmoved := commitStock_moved (hcompleted.silent rfl) hcommit
    refine (captured_moved hc hover hmem hpending hmoved).trans ?_
    refine (confirmOrder_ok (i := p.checkoutId)
      (p := { Payment.stampVerified env.now payId sig p with status := .verified }) ?_ rfl
        horder).trans (.of_eq rfl)
    rw [hmoved.at_self]
    exact Purchase.mem_mapPayment _ (Purchase.mem_mapPayment _ hmem)
  · simp only [Payment.settleVerified, Work.bind_eq_error, update_eq_ok, update_eq_error,
      query_eq_ok, query_eq_error, flush_eq_ok, flush_eq_error, appendEvent_eq_error,
      Work.pure_eq_error, false_or, and_false, exists_false, or_false] at h
    obtain ⟨_, _, rfl, htr | ⟨_, w₁, htr, c?, _, ⟨hc?, rfl⟩, h⟩⟩ := h
    · obtain rfl := transition_error htr
      exact .of_moved hstamped (Purchase.advances_touch hmem
        (Payment.keeps_of_rfl fun _ => ⟨rfl, rfl, rfl, rfl, rfl, rfl, rfl, rfl⟩) rfl)
    obtain ⟨s, _, hnext, rfl⟩ := transition_payment htr
    rw [PaymentStatus.next_verifyPayment, if_pos hpending] at hnext
    obtain rfl := Option.some.inj hnext
    obtain rfl := hfound (hverified.silent rfl) hc?
    simp only [Option.elim_some, hlive, unlessTrue_false] at h
    rcases h with htr' | ⟨_, w₂, htr', h⟩
    · exact absurd htr' (transition_authorized hauthorized (.inl rfl) rfl)
    obtain ⟨s', _, hnext', rfl⟩ := transition_checkout htr'
    rw [CheckoutStatus.next_completeOrder, if_pos hauthorized] at hnext'
    obtain rfl := Option.some.inj hnext'
    rw [hcid] at h
    rcases h with hcommit | ⟨_, w₃, hcommit, h⟩
    · exact captured_moved hc hover hmem hpending
        (commitStock_error (hcompleted.silent rfl) (Purchase.setCheckout_eq _ hc .completed)
          hmerchant hk hheld hcommit)
    have hmoved := commitStock_moved (hcompleted.silent rfl) hcommit
    rcases h with horder | ⟨_, _, _, _, rfl, _⟩
    · rw [confirmOrder_error horder]
      exact captured_moved hc hover hmem hpending hmoved
    · cases he

/-- **A verification moves its purchase along**, and so does one that is refused, if
the session can go on. -/
theorem verifyPayment_advances {paymentId : String} {payId sig address : Option String}
    (hdb : w.db.Coherent) (h : Leaves (Payment.verifyPayment env paymentId payId sig address) w w') :
    w.db.Advances env.now w'.db := by
  have hopen : ∀ {p : Payment} {c : Checkout}, w.db.checkoutById p.checkoutId = some c →
      ¬c.status.Over → ∀ c', (w.db.purchase p.checkoutId).checkout = some c' → ¬c'.status.Over := by
    intro p c hc hover c' hc'
    obtain rfl := Option.some.inj (hc.symm.trans hc')
    exact hover
  rcases h with ⟨_, h⟩ | ⟨e, he, h⟩
  · simp only [Payment.verifyPayment, Work.bind_eq_ok, require_eq_ok] at h
    obtain ⟨p, _, ⟨hp, rfl⟩, h⟩ := h
    obtain ⟨rfl, hmem, -⟩ := hdb.around hp
    split_ifs at h with hverified
    · simp only [Work.bind_eq_ok, Work.pure_eq_ok] at h
      obtain ⟨_, _, horder, _, rfl⟩ := h
      exact confirmOrder_ok hmem hverified horder
    · simp only [Work.bind_eq_ok, raiseIf_eq_ok, require_eq_ok] at h
      obtain ⟨_, _, ⟨hfailed, rfl⟩, c, _, ⟨hc, rfl⟩, _, _, hpayable, _, _, ⟨_, rfl⟩, h⟩ := h
      obtain ⟨rfl, hover⟩ := refuseUnpayable_ok hpayable
      exact settleVerified_advances hdb hp (hopen hc hover) ⟨hverified, hfailed⟩ (.inl ⟨_, h⟩)
  · simp only [Payment.verifyPayment, Work.bind_eq_error, require_eq_ok, require_eq_error] at h
    rcases h with ⟨_, _, rfl⟩ | ⟨p, _, ⟨hp, rfl⟩, h⟩
    · exact .refl _ _
    obtain ⟨rfl, hmem, -⟩ := hdb.around hp
    split_ifs at h with hverified
    · simp only [Work.bind_eq_error, Work.pure_eq_error, and_false, exists_false, or_false] at h
      rw [confirmOrder_error h]
      exact .refl _ _
    · simp only [Work.bind_eq_error, raiseIf_eq_ok, raiseIf_eq_error, require_eq_ok,
        require_eq_error] at h
      rcases h with ⟨_, _, rfl⟩ | ⟨_, _, ⟨hfailed, rfl⟩, ⟨_, _, rfl⟩ | ⟨c, _, ⟨hc, rfl⟩,
        hrefused | ⟨_, _, hpayable, ⟨_, _, rfl⟩ | ⟨_, _, ⟨_, rfl⟩, h⟩⟩⟩⟩
      · exact .refl _ _
      · exact .refl _ _
      · rw [refuseUnpayable_error hrefused]
        exact .refl _ _
      · obtain ⟨rfl, -⟩ := refuseUnpayable_ok hpayable
        exact .refl _ _
      · obtain ⟨rfl, hover⟩ := refuseUnpayable_ok hpayable
        exact settleVerified_advances hdb hp (hopen hc hover) ⟨hverified, hfailed⟩
          (.inr ⟨e, he, h⟩)

theorem refundPayment_advances {paymentId reason : String} {amount : Option ℤ}
    {m : Option String} {r : Payment.RefundV1}
    (h : Payment.refundPayment env paymentId amount reason m w = .ok r w') :
    w.db.Advances env.now w'.db := by
  simp only [Payment.refundPayment, Work.bind_eq_ok, require_eq_ok, raiseIf_eq_ok, ofAnswer_eq_ok,
    query_eq_ok, call_eq_ok, appendEvent_eq_ok, Work.pure_eq_ok] at h
  obtain ⟨_, _, ⟨_, rfl⟩, _, _, ⟨_, rfl⟩, _, _, ⟨_, rfl⟩, _, _, ⟨_, rfl⟩, _, _, ⟨_, rfl⟩, _, _,
    ⟨_, rfl⟩, _, _, ⟨_, rfl⟩, _, _, ⟨_, rfl⟩, _, _, rfl, _, rfl⟩ := h
  exact .of_eq rfl

end

end AgenticCommerce
