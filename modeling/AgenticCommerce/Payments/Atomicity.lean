/-
# A failed callback is not undone

`conclude` catches what the handler of a callback raises and commits the session the
handler wrote in, so a settlement that was interrupted stays half done.  The commerce
tables are untouched only when nothing was written before the raise, or when the
commit fails as well (`Harmless`); `untouched_iff` is both directions, for every
store, every provider and every event.

The run at the end is the worst case: the order number drawn for a second purchase is
taken, the verification raises at its last write, and the store keeps a verified
payment and a completed checkout without an order.
-/

import AgenticCommerce.Payments.Capture
import AgenticCommerce.Payments.Settling
import AgenticCommerce.Payments.Swallowed

namespace AgenticCommerce

open Relational

/-- At most the rows of callbacks and of dead letters differ. -/
def Database.Untouched (db db' : Database) : Prop :=
  ∃ events letters, db' = { db with providerEvents := events, failedWebhooks := letters }

theorem Database.Untouched.payments {db db' : Database} (h : db.Untouched db') :
    db'.payments = db.payments := by
  obtain ⟨_, _, rfl⟩ := h
  rfl

/-- A settlement that follows an edge changes the status. -/
theorem PaymentStatus.next_ne_self {s : PaymentStatus} {event : TransitionEvent}
    (hevent : event = .verifyPayment ∨ event = .failPayment) : s.next event ≠ some s := by
  rcases hevent with rfl | rfl
  · cases s <;> decide
  · cases s <;> decide

namespace Webhook

variable {env : Env} {d : Delivery} {w w₁ w₂ : World} {event : Event} {p : Payment}
  {ids : Option String × Option String} {failure : Failure}

/-- The identifier of the captured payment that the handler goes by. -/
def capturedId (ids : Option String × Option String) (p : Payment) : Option String :=
  ids.2.orElse fun _ => given p.providerPaymentId

/-- The payment service raises while the callback is handled: `verify_payment` behind an
independent check that agreed, or `fail_payment`. -/
inductive ServiceRaises (env : Env) (event : Event) (d : Delivery) (p : Payment)
    (ids : Option String × Option String) (w₁ : World) : Prop where
  | verify (payId : String) (failure : Failure) (w₂ : World)
      (reported : event.eventType ∈ captureTypes) (carried : capturedId ids p = some payId)
      (checked : independentCheck env p payId ids.1 = .ok ())
      (raised : Payment.verifyPayment env p.paymentId (some payId) (some d.signature) none w₁ =
        .error failure w₂)
  | fail (reason : Json) (failure : Failure) (w₂ : World)
      (reported : event.eventType ∉ captureTypes)
      (described : getKey event.payload "error_description" (.str "Payment failed") = .ok reason)
      (raised : Payment.failPayment env p.paymentId (some (reason.toStr env.repr)) w₁ =
        .error failure w₂)

/-- A dead letter of the callback is stored already. -/
def LetterStored (env : Env) (event : Event) (db : Database) : Prop :=
  ∃ f ∈ db.failedWebhooks, f.failedWebhookId = env.deadLetterId event.rawBodyHash

/-- The store with the payment stamped by a verification, before any other write. -/
def stamped (env : Env) (d : Delivery) (p : Payment) (ids : Option String × Option String)
    (db : Database) : Database :=
  db.modifyPayment p.paymentId
    (Payment.stampVerified env.now (capturedId ids p) (some d.signature)) fun _ => rfl

/-- **A raise does no harm**: nothing can be committed, because a dead letter of the
callback is there already or the stamp claims an identifier that is taken; or nothing
was written, because the verification was gated, or has no edge and stamps what the row
holds already; or the failure has no edge and the row was last changed now. -/
def Harmless (env : Env) (event : Event) (d : Delivery) (p : Payment)
    (ids : Option String × Option String) (db : Database) : Prop :=
  LetterStored env event db ∨
    if event.eventType ∈ captureTypes then
      Payment.Gated env p (capturedId ids p) (some d.signature) db ∨
        (stamped env d p ids db).flushable = false ∨
        (p.status ≠ .pending ∧
          Payment.stampVerified env.now (capturedId ids p) (some d.signature) p = p)
    else (p.status ≠ .created ∧ p.status ≠ .pending) ∧ p.updatedAt = env.now

/-! ### What is left of an interrupted settlement -/

theorem storable_iff {db : Database} :
    Storable env event db ↔ ¬LetterStored env event db ∧ db.flushable = true := by
  rw [Storable, LetterStored]
  push Not
  exact Iff.rfl

/-- The session a handler starts with differs from the store in the rows of callbacks. -/
theorem Matched.db_eq (h : Matched env d w event ids p w₁) :
    ∃ events, w₁.db = { w.db with providerEvents := events } := by
  obtain ⟨w₀, hopened, rfl⟩ := h.opened
  obtain ⟨t, -, rfl⟩ := hopened.stored
  exact ⟨_, rfl⟩

/-- A callback is matched to a payment that is stored. -/
theorem Matched.paymentById (h : Matched env d w event ids p w₁) :
    w.db.paymentById p.paymentId = some p := by
  have hfound := h.found
  unfold matchPayment at hfound
  split at hfound
  · rename_i q hq
    obtain rfl := Option.some.inj (Except.ok.inj hfound)
    obtain ⟨o, -, hq⟩ := Option.bind_eq_some_iff.1 hq
    exact paymentById_of_mem (Table.first_eq_some hq).1
  · cases hid : internalId event.payload with
    | error e =>
        rw [hid] at hfound
        exact nomatch hfound
    | ok i =>
        rw [hid] at hfound
        obtain ⟨j, -, hp⟩ := Option.bind_eq_some_iff.1 (Except.ok.inj hfound)
        exact paymentById_of_mem (Table.first_eq_some hp).1

/-- **What is left of an interrupted settlement.**  The commerce tables are untouched
exactly when the delivery was rolled back, or when the settlement had no edge to follow
and its stamp changed nothing. -/
theorem untouched_of_interrupted {ev : TransitionEvent} {f : Payment → Payment}
    {k : ∀ p, Keyed.key (f p) = Keyed.key p}
    (hev : ev = .verifyPayment ∨ ev = .failPayment) (hmatched : Matched env d w event ids p w₁)
    (hraised : handler env event d p ids w₁ = .error failure w₂)
    (h : Interrupted ev p (w₁.db.modifyPayment p.paymentId f k) failure w₂.db) :
    w.db.Untouched (request (processWebhook env d) w).db ↔
      LetterStored env event w.db ∨ (w.db.modifyPayment p.paymentId f k).flushable = false ∨
        (p.status.next ev = none ∧ f p = p) := by
  have hp := hmatched.paymentById
  obtain ⟨events, hdb⟩ := hmatched.db_eq
  have hflush : (w₁.db.modifyPayment p.paymentId f k).flushable =
      (w.db.modifyPayment p.paymentId f k).flushable := by rw [hdb]; rfl
  have hletters : w₂.db.failedWebhooks = w.db.failedWebhooks ∧
      w₂.db.flushable = (w.db.modifyPayment p.paymentId f k).flushable := by
    rcases h with ⟨-, -, hw₂⟩ | ⟨_, -, -, hw₂, hletters, -⟩
    · exact ⟨by rw [hw₂, hdb]; rfl, by rw [hw₂, hflush]⟩
    · exact ⟨hletters.trans (by rw [hdb]; rfl), hw₂.trans hflush⟩
  have hkept : Kept env event failure w₂ ↔ ¬(LetterStored env event w.db ∨
      (w.db.modifyPayment p.paymentId f k).flushable = false) := by
    rw [Kept, storable_iff, LetterStored, LetterStored, hletters.1, hletters.2, not_or,
      Bool.not_eq_false]
    refine ⟨fun hk => hk.2, fun hk => ⟨?_, hk⟩⟩
    rcases h with ⟨-, husable, -⟩ | ⟨_, -, husable, -⟩
    · exact husable
    · exact husable (hflush.trans hk.2)
  obtain ⟨hcommitted, hrolledBack⟩ := request_of_raised hmatched hraised
  rw [← or_assoc]
  by_cases hlost : LetterStored env event w.db ∨
      (w.db.modifyPayment p.paymentId f k).flushable = false
  · have hsame := hrolledBack fun hk => hkept.1 hk hlost
    exact ⟨fun _ => .inl hlost, fun _ => ⟨w.db.providerEvents, w.db.failedWebhooks, hsame⟩⟩
  obtain ⟨t, ht⟩ := hcommitted (hkept.2 hlost)
  constructor
  · intro huntouched
    have hpayments : w₂.db.payments = w.db.payments := by
      rw [← huntouched.payments, ht]
    refine .inr ?_
    rcases h with ⟨hnext, -, hw₂⟩ | ⟨s, hnext, -, -, -, q, hq, hs⟩
    · refine ⟨hnext, ?_⟩
      have hstamp := paymentById_modifyPayment (f := f) (k := k) hp
      have hsame : (w.db.modifyPayment p.paymentId f k).payments = w.db.payments := by
        rw [← hpayments, hw₂, hdb]
        rfl
      rw [Database.paymentById, hsame] at hstamp
      exact Option.some.inj (hstamp.symm.trans hp)
    · rw [Database.paymentById, hpayments] at hq
      obtain rfl := Option.some.inj (hq.symm.trans hp)
      rw [hs] at hnext
      exact absurd hnext (PaymentStatus.next_ne_self hev)
  · rintro (hlost' | ⟨hnext, hf⟩)
    · exact absurd hlost' hlost
    · rcases h with ⟨-, -, hw₂⟩ | ⟨s, hnext', -⟩
      · have hp₁ : w₁.db.paymentById p.paymentId = some p := by rw [hdb]; exact hp
        refine ⟨events, t, ?_⟩
        rw [ht, hw₂, modifyPayment_self hp₁ hf, hdb]
      · rw [hnext] at hnext'
        cases hnext'

/-- A handler that raises before its first write leaves the commerce tables alone. -/
theorem untouched_of_unwritten (hmatched : Matched env d w event ids p w₁)
    (hraised : handler env event d p ids w₁ = .error failure w₂) (h : w₂.db = w₁.db) :
    w.db.Untouched (request (processWebhook env d) w).db := by
  obtain ⟨events, hdb⟩ := hmatched.db_eq
  obtain ⟨hcommitted, hrolledBack⟩ := request_of_raised hmatched hraised
  by_cases hkept : Kept env event failure w₂
  · obtain ⟨t, ht⟩ := hcommitted hkept
    exact ⟨events, t, by rw [ht, h, hdb]⟩
  · exact ⟨w.db.providerEvents, w.db.failedWebhooks, hrolledBack hkept⟩

/-- A verification that raises is what the handler of a reported capture raises. -/
theorem handler_of_verify {payId : String} (hreported : event.eventType ∈ captureTypes)
    (hcarried : capturedId ids p = some payId) (hchecked : independentCheck env p payId ids.1 = .ok ())
    (hraised : Payment.verifyPayment env p.paymentId (some payId) (some d.signature) none w₁ =
      .error failure w₂) : handler env event d p ids w₁ = .error failure w₂ := by
  rw [handler, handle, if_pos hreported]
  have hid : ofAnswer ((capturedId ids p).elim
      (.error (.raised "Webhook payload is missing required provider payment identifier."
        .validationError)) .ok) w₁ = .ok payId w₁ := ofAnswer_eq_ok.2 ⟨by rw [hcarried]; rfl, rfl⟩
  refine (Work.bind_of_ok hid).trans ?_
  rw [hchecked]
  exact (Work.bind_of_ok (ofAnswer_eq_ok.2 ⟨rfl, rfl⟩)).trans (Work.bind_of_error hraised)

/-- A failure that raises is what the handler of a reported failure raises. -/
theorem handler_of_fail (d : Delivery) (ids : Option String × Option String) {reason : Json}
    (hreported : event.eventType ∉ captureTypes)
    (hdescribed : getKey event.payload "error_description" (.str "Payment failed") = .ok reason)
    (hraised : Payment.failPayment env p.paymentId (some (reason.toStr env.repr)) w₁ =
      .error failure w₂) : handler env event d p ids w₁ = .error failure w₂ := by
  rw [handler, handle, if_neg hreported, Webhook.failure]
  exact (Work.bind_of_ok (ofAnswer_eq_ok.2 ⟨hdescribed, rfl⟩)).trans (Work.bind_of_error hraised)

/-- **When a raise does no harm.**  A callback during which the payment service raises
leaves every commerce table as it was exactly when nothing could be committed or nothing
had been written. -/
theorem untouched_iff (hmatched : Matched env d w event ids p w₁)
    (hraises : ServiceRaises env event d p ids w₁) :
    w.db.Untouched (request (processWebhook env d) w).db ↔ Harmless env event d p ids w.db := by
  obtain ⟨events, hdb⟩ := hmatched.db_eq
  have hp₁ : w₁.db.paymentById p.paymentId = some p := by rw [hdb]; exact hmatched.paymentById
  cases hraises with
  | verify payId failure w₂ hreported hcarried hchecked hraised =>
      have hhandler := handler_of_verify hreported hcarried hchecked hraised
      have hgated : Payment.Gated env p (some payId) (some d.signature) w₁.db ↔
          Payment.Gated env p (some payId) (some d.signature) w.db := by rw [hdb]; exact Iff.rfl
      rw [Harmless, if_pos hreported, stamped, hcarried]
      rcases verifyPayment_raised hp₁ hraised with ⟨hgate, hsame⟩ | ⟨hgate, hinterrupted⟩
      · exact ⟨fun _ => .inr (.inl (hgated.1 hgate)),
          fun _ => untouched_of_unwritten hmatched hhandler hsame⟩
      · rw [untouched_of_interrupted (.inl rfl) hmatched hhandler hinterrupted,
          PaymentStatus.next_verifyPayment, or_iff_right (mt hgated.2 hgate)]
        simp
  | fail reason failure w₂ hreported hdescribed hraised =>
      have hhandler := handler_of_fail d ids hreported hdescribed hraised
      have hinterrupted := failPayment_raised hp₁ hraised
      obtain ⟨w₀, hopened, -⟩ := hmatched.opened
      have hflush : (w.db.modifyPayment p.paymentId (fun q => { q with updatedAt := env.now })
          fun _ => rfl).flushable = true :=
        (flushable_modifyPayment (f := fun q => { q with updatedAt := env.now })
          fun _ => ⟨rfl, rfl⟩).trans hopened.flushable
      have hstamp : { p with updatedAt := env.now } = p ↔ p.updatedAt = env.now := by
        constructor
        · intro h
          exact (congrArg Payment.updatedAt h).symm
        · intro h
          rw [← h]
      rw [Harmless, if_neg hreported,
        untouched_of_interrupted (.inr rfl) hmatched hhandler hinterrupted, hflush, hstamp,
        PaymentStatus.next_failPayment]
      simp

/-! ### A session to start with -/

/-- The session the handler of a matched callback starts with. -/
def session (env : Env) (d : Delivery) (event : Event) (p : Payment) (w : World) : World :=
  let events := (w.db.providerEvents.insert? (rowOf env event d)).getD .empty
  { w with db := link event p { w.db with providerEvents := events } }

theorem matched_session (hparsed : parse env d = .ok event)
    (hfresh : duplicate event d.signature w.db = none) (hflush : w.db.flushable = true)
    (hhandled : event.eventType ∈ captureTypes ++ failureTypes)
    (hrefs : references env event.payload = .ok ids)
    (hfound : matchPayment event.payload ids.1 w.db = .ok (some p)) :
    Matched env d w event ids p (session env d event p w) := by
  obtain ⟨t, ht⟩ := exists_insert env hfresh
  have hopened : Opened env d w event { w with db := { w.db with providerEvents := t } } :=
    ⟨hparsed, hfresh, hflush, t, ht, rfl⟩
  refine ⟨hhandled, hrefs, hfound, _, hopened, ?_⟩
  rw [session, ht]
  rfl

/-- The event of the shop's callback. -/
def shopEvent (eventType : String) : Event :=
  { eventId := "evt_1", eventType, rawBodyHash := "", payload := shopBody eventType }

/-- The verified payment of the shop. -/
def verifiedPayment : Payment :=
  { pendingPayment with
    status := .verified, providerPaymentId := some "pay_1", verifiedAt := some 0 }

theorem untouched_iff_lateFailure : ∃ event ids p w₁,
    Matched (callbackEnv "payment.failed") callback paymentVerified event ids p w₁ ∧
      ServiceRaises (callbackEnv "payment.failed") event callback p ids w₁ ∧
      paymentVerified.db.Untouched
        (request (processWebhook (callbackEnv "payment.failed") callback) paymentVerified).db := by
  have hmatched : Matched (callbackEnv "payment.failed") callback paymentVerified
      (shopEvent "payment.failed") (some "order_1", some "pay_1") verifiedPayment
      (session (callbackEnv "payment.failed") callback (shopEvent "payment.failed") verifiedPayment
        paymentVerified) := by
    refine matched_session rfl ?_ (by decide) (by decide) rfl ?_
    · rfl
    · rfl
  obtain ⟨failure, w₂, hraised⟩ := Work.exists_of_not_returns
    (m := Payment.failPayment (callbackEnv "payment.failed") "pay" (some "Payment failed"))
    (s := session (callbackEnv "payment.failed") callback (shopEvent "payment.failed")
      verifiedPayment paymentVerified) (by decide)
  have hraises : ServiceRaises (callbackEnv "payment.failed") (shopEvent "payment.failed") callback
      verifiedPayment (some "order_1", some "pay_1") _ :=
    .fail (.str "Payment failed") failure w₂ (by decide) rfl hraised
  refine ⟨_, _, _, _, hmatched, hraises, (untouched_iff hmatched hraises).2 (.inr ?_)⟩
  exact ⟨by decide, rfl⟩

/-! ### An order number that is taken -/

/-- The capture of a second purchase, as the provider reports it. -/
def secondEvent : Event :=
  { eventId := "evt_2", eventType := "payment.captured", rawBodyHash := ""
    payload := .obj [("id", .str "evt_2"), ("event", .str "payment.captured"),
      ("payload", .obj [("payment", .obj [("entity",
        .obj [("order_id", .str "order_2"), ("id", .str "pay_2")])])])] }

/-- The environment of a second purchase: every identifier is new, and the order number
drawn is the one of the first. -/
def secondEnv : Env :=
  { shopEnv with
    newId := fun kind => if kind = "num" then kind else kind ++ "_2"
    loads := fun _ => some secondEvent.payload
    provider :=
      { capturingProvider with
        createOrder := fun _ r => .ok ⟨"order_2", r.amountMinor, r.currency, r.receipt, "created"⟩
        fetchPayment := fun _ id => .ok ⟨id, "order_2", 200, "INR", "captured", true⟩ } }

/-- After the first purchase, the payment of the second is pending. -/
def secondPending : World :=
  (Operation.createPayment "byr" "mer" "chk_2" "ath_2" none).run secondEnv
    ((Operation.requestAuthorization "byr" "mer" "chk_2" 15).run secondEnv
      ((Operation.createCheckout "byr" "mer" "ofr" 2 15).run secondEnv paymentVerified))

/-- The payment of the second purchase. -/
def secondPayment : Payment :=
  { pendingPayment with
    paymentId := "pay_2", checkoutId := "chk_2", authorizationId := "ath_2",
    providerOrderId := some "order_2" }

theorem secondPending_reached : Relation.ReflTransGen Step openShop secondPending :=
  ((paymentVerified_reached.tail ⟨secondEnv, _, rfl⟩).tail ⟨secondEnv, _, rfl⟩).tail
    ⟨secondEnv, _, rfl⟩

/-- **A sale that is half done stays half done**: the order number of the second purchase
is taken, the verification raises when its order is inserted, and the verified payment is
committed with the dead letter. -/
theorem half_done_sale_committed : ¬∀ w, Relation.ReflTransGen Step openShop w →
    ∀ env d event ids p w₁, Matched env d w event ids p w₁ →
      ServiceRaises env event d p ids w₁ →
        w.db.Untouched (request (processWebhook env d) w).db := by
  intro h
  have hmatched : Matched secondEnv callback secondPending secondEvent
      (some "order_2", some "pay_2") secondPayment
      (session secondEnv callback secondEvent secondPayment secondPending) := by
    refine matched_session rfl ?_ (by decide) (by decide) rfl ?_
    · rfl
    · rfl
  obtain ⟨failure, w₂, hraised⟩ := Work.exists_of_not_returns
    (m := Payment.verifyPayment secondEnv "pay_2" (some "pay_2") (some "sig"))
    (s := session secondEnv callback secondEvent secondPayment secondPending) (by decide)
  have hraises : ServiceRaises secondEnv secondEvent callback secondPayment
      (some "order_2", some "pay_2") _ :=
    .verify "pay_2" failure w₂ (by decide) rfl rfl hraised
  have huntouched := h _ secondPending_reached _ _ _ _ _ _ hmatched hraises
  have hstatuses := congrArg (fun t : Table Payment => t.rows.map Payment.status)
    huntouched.payments
  exact absurd hstatuses (by decide)

example : let w := (Operation.processWebhook callback).run secondEnv secondPending
    w.db.payments.rows.map Payment.status = [.verified, .verified] ∧
      w.db.checkouts.rows.map Checkout.status = [.completed, .completed] ∧
      w.db.orders.rows.map Order.checkoutId = ["chk"] := by decide

end Webhook
end AgenticCommerce
