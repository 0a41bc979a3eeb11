/-
# The transition table

`services/checkout/transitions.py`: the one validated way a commerce aggregate
changes its status.  A rule leads from a canonical state and an event to a
canonical state (`transitions`); `validate` is the validation that runs before a
change and `transition` the change itself, one status and one audit event.

The spellings of a status are not modelled: a stored status is a value of its
column's enumeration (`CheckoutStatus`, `PaymentStatus`), `canonical` is what
`normalize_source_status` makes of it, and `ofCanonical?` what
`format_target_status` makes of a rule's target, `none` where the text is one the
column refuses.  `CheckoutStatus.next` and `PaymentStatus.next` are the edges the
two together give; the theorems say that a transition follows an edge and does
nothing else (`transition_checkout`, `transition_payment`), and that a refused one
does nothing (`transition_error`).
-/

import AgenticCommerce.Audit

namespace AgenticCommerce

open Relational

/-- The states of the rules. -/
inductive RuleState where
  | discovered | offerSelected | checkoutCreated | policyChecked | authorizationPending
  | authorized | policyBlocked | cancelled | checkoutExpired | authorizationExpired
  | paymentCreated | paymentPending | paymentVerified | paymentFailed | paymentTimeout
  | paymentUnknown | manualReview | priceChanged | inventoryChanged | orderConfirmed | completed
  deriving DecidableEq, Repr

/-- `TransitionEvent`. -/
inductive TransitionEvent where
  | selectOffer | createCheckout | checkPolicy | requireApproval | useExistingAuthorization
  | blockPolicy | approveAuthorization | rejectAuthorization | expireAuthorization
  | createPayment | detectPriceChange | detectInventoryChange | expireCheckout | cancelCheckout
  | providerOrderCreated | verifyPayment | failPayment | timeoutPayment | markUnknown
  | verifyUnknown | failUnknown | exhaustUnknown | confirmOrder | completeOrder
  deriving DecidableEq, Repr

def TransitionEvent.value : TransitionEvent → String
  | selectOffer => "select_offer"
  | createCheckout => "create_checkout"
  | checkPolicy => "check_policy"
  | requireApproval => "require_approval"
  | useExistingAuthorization => "use_existing_authorization"
  | blockPolicy => "block_policy"
  | approveAuthorization => "approve_authorization"
  | rejectAuthorization => "reject_authorization"
  | expireAuthorization => "expire_authorization"
  | createPayment => "create_payment"
  | detectPriceChange => "detect_price_change"
  | detectInventoryChange => "detect_inventory_change"
  | expireCheckout => "expire_checkout"
  | cancelCheckout => "cancel_checkout"
  | providerOrderCreated => "provider_order_created"
  | verifyPayment => "verify_payment"
  | failPayment => "fail_payment"
  | timeoutPayment => "timeout_payment"
  | markUnknown => "mark_unknown"
  | verifyUnknown => "verify_unknown"
  | failUnknown => "fail_unknown"
  | exhaustUnknown => "exhaust_unknown"
  | confirmOrder => "confirm_order"
  | completeOrder => "complete_order"

/-- `TERMINAL_STATES`. -/
def terminalStates : List RuleState :=
  [.priceChanged, .inventoryChanged, .policyBlocked, .checkoutExpired, .authorizationExpired,
    .cancelled, .paymentFailed, .manualReview, .completed]

/-- `TransitionRule`. -/
structure TransitionRule where
  source : RuleState
  event : TransitionEvent
  target : RuleState
  actors : List String
  requiredFields : List String := []
  checksPriceHash : Bool := false
  checksAuthorization : Bool := false
  checksExpiry : Bool := false
  deriving DecidableEq

/-- `TRANSITIONS`. -/
def transitions : List TransitionRule :=
  [ { source := .discovered, event := .selectOffer, target := .offerSelected,
      actors := ["buyer", "agent"] },
    { source := .offerSelected, event := .createCheckout, target := .checkoutCreated,
      actors := ["buyer", "agent"], requiredFields := ["quantity"] },
    { source := .checkoutCreated, event := .checkPolicy, target := .policyChecked,
      actors := ["system"] },
    { source := .checkoutCreated, event := .requireApproval, target := .authorizationPending,
      actors := ["system", "buyer"] },
    { source := .checkoutCreated, event := .useExistingAuthorization, target := .authorized,
      actors := ["system", "buyer"], checksAuthorization := true },
    { source := .checkoutCreated, event := .blockPolicy, target := .policyBlocked,
      actors := ["system"] },
    { source := .checkoutCreated, event := .cancelCheckout, target := .cancelled,
      actors := ["buyer", "system"] },
    { source := .checkoutCreated, event := .rejectAuthorization, target := .cancelled,
      actors := ["buyer", "system"] },
    { source := .checkoutCreated, event := .expireCheckout, target := .checkoutExpired,
      actors := ["system"], checksExpiry := true },
    { source := .policyChecked, event := .requireApproval, target := .authorizationPending,
      actors := ["system"] },
    { source := .policyChecked, event := .useExistingAuthorization, target := .authorized,
      actors := ["system"], checksAuthorization := true },
    { source := .policyChecked, event := .blockPolicy, target := .policyBlocked,
      actors := ["system"] },
    { source := .policyChecked, event := .cancelCheckout, target := .cancelled,
      actors := ["buyer", "system"] },
    { source := .authorizationPending, event := .approveAuthorization, target := .authorized,
      actors := ["buyer"], checksAuthorization := true },
    { source := .authorizationPending, event := .rejectAuthorization, target := .cancelled,
      actors := ["buyer", "system"] },
    { source := .authorizationPending, event := .cancelCheckout, target := .cancelled,
      actors := ["buyer", "system"] },
    { source := .authorizationPending, event := .blockPolicy, target := .policyBlocked,
      actors := ["system"] },
    { source := .authorizationPending, event := .expireAuthorization,
      target := .authorizationExpired, actors := ["system"], checksExpiry := true },
    { source := .authorizationPending, event := .expireCheckout, target := .checkoutExpired,
      actors := ["system"], checksExpiry := true },
    { source := .authorized, event := .createPayment, target := .paymentCreated,
      actors := ["buyer", "agent"], checksPriceHash := true, checksAuthorization := true,
      checksExpiry := true },
    { source := .authorized, event := .detectPriceChange, target := .priceChanged,
      actors := ["system"] },
    { source := .authorized, event := .detectInventoryChange, target := .inventoryChanged,
      actors := ["system"] },
    { source := .authorized, event := .expireCheckout, target := .checkoutExpired,
      actors := ["system"], checksExpiry := true },
    { source := .authorized, event := .completeOrder, target := .completed,
      actors := ["system"] },
    { source := .authorized, event := .confirmOrder, target := .orderConfirmed,
      actors := ["system"] },
    { source := .authorized, event := .failPayment, target := .paymentFailed,
      actors := ["system", "provider"] },
    { source := .authorized, event := .cancelCheckout, target := .cancelled,
      actors := ["buyer", "system"] },
    { source := .authorized, event := .rejectAuthorization, target := .cancelled,
      actors := ["buyer", "system"] },
    { source := .paymentCreated, event := .providerOrderCreated, target := .paymentPending,
      actors := ["system", "provider"] },
    { source := .paymentCreated, event := .failPayment, target := .paymentFailed,
      actors := ["system", "provider"] },
    { source := .paymentPending, event := .verifyPayment, target := .paymentVerified,
      actors := ["system", "provider"] },
    { source := .paymentPending, event := .failPayment, target := .paymentFailed,
      actors := ["system", "provider"] },
    { source := .paymentPending, event := .timeoutPayment, target := .paymentTimeout,
      actors := ["system"] },
    { source := .paymentTimeout, event := .markUnknown, target := .paymentUnknown,
      actors := ["system"] },
    { source := .paymentUnknown, event := .verifyUnknown, target := .paymentVerified,
      actors := ["system", "provider"] },
    { source := .paymentUnknown, event := .failUnknown, target := .paymentFailed,
      actors := ["system", "provider"] },
    { source := .paymentUnknown, event := .exhaustUnknown, target := .manualReview,
      actors := ["system"] },
    { source := .paymentVerified, event := .confirmOrder, target := .orderConfirmed,
      actors := ["system"] },
    { source := .orderConfirmed, event := .completeOrder, target := .completed,
      actors := ["system"] } ]

/-- `RULES.get((source, event))`. -/
def findRule (source : RuleState) (event : TransitionEvent) : Option TransitionRule :=
  transitions.find? fun rule => rule.source = source && rule.event = event

/-! ### Statuses as rule states -/

/-- `normalize_source_status("checkout", status)`. -/
def CheckoutStatus.canonical : CheckoutStatus → RuleState
  | created => .checkoutCreated
  | policyChecked => .policyChecked
  | authorizationPending => .authorizationPending
  | authorized => .authorized
  | cancelled => .cancelled
  | expired => .checkoutExpired
  | priceChanged => .priceChanged
  | inventoryChanged => .inventoryChanged
  | completed => .completed
  | paymentFailed => .paymentFailed
  | policyBlocked => .policyBlocked

/-- `normalize_source_status("payment", status)`. -/
def PaymentStatus.canonical : PaymentStatus → RuleState
  | created => .paymentCreated
  | pending => .paymentPending
  | verified => .paymentVerified
  | failed => .paymentFailed
  | timeout => .paymentTimeout
  | unknown => .paymentUnknown
  | manualReview => .manualReview

/-- `format_target_status("checkout", target, ...)`. -/
def CheckoutStatus.ofCanonical? : RuleState → Option CheckoutStatus
  | .checkoutCreated => some created
  | .policyChecked => some policyChecked
  | .authorizationPending => some authorizationPending
  | .authorized => some authorized
  | .priceChanged => some priceChanged
  | .inventoryChanged => some inventoryChanged
  | .checkoutExpired => some expired
  | .cancelled => some cancelled
  | .completed => some completed
  | .paymentFailed => some paymentFailed
  | .policyBlocked => some policyBlocked
  | _ => none

/-- `format_target_status("payment", target, ...)`. -/
def PaymentStatus.ofCanonical? : RuleState → Option PaymentStatus
  | .paymentCreated => some created
  | .paymentPending => some pending
  | .paymentVerified => some verified
  | .orderConfirmed => some verified
  | .paymentFailed => some failed
  | .paymentTimeout => some timeout
  | .paymentUnknown => some unknown
  | .manualReview => some manualReview
  | _ => none

theorem CheckoutStatus.ofCanonical?_canonical (s : CheckoutStatus) :
    ofCanonical? s.canonical = some s := by
  cases s <;> rfl

theorem PaymentStatus.ofCanonical?_canonical (s : PaymentStatus) :
    ofCanonical? s.canonical = some s := by
  cases s <;> rfl

/-! ### Transitions -/

/-- `TransitionContext`; of `values` only the names count. -/
structure TransitionContext where
  actorType : String
  actorId : Option String
  merchantId : Option String := none
  values : List String := []
  suppliedPriceHash : Option String := none
  persistedPriceHash : Option String := none
  authorizationValid : Bool := true
  authorizationConsumed : Bool := false
  expiresAt : Option Time := none
  now : Time

/-- `price_hashes_match`. -/
def priceHashesMatch (supplied persisted : Option String) : Bool := supplied == persisted

/-- `context.expires_at is not None and context.now >= context.expires_at`. -/
def TransitionContext.pastExpiry (context : TransitionContext) : Bool :=
  match context.expiresAt with
  | some t => decide (t ≤ context.now)
  | none => false

/-- The validation of a transition: the rule it follows, or why it is refused. -/
def validate (source : RuleState) (event : TransitionEvent) (context : TransitionContext) :
    Except Failure TransitionRule :=
  match findRule source event with
  | none =>
      .error (.ofCode (if source ∈ terminalStates then .alreadyFinalized else .illegalTransition))
  | some rule =>
      if ¬rule.requiredFields ⊆ context.values then
        .error (.domain { DomainError.ofCode .validationError with
          details := rule.requiredFields.map fun f => ("missing", f) })
      else if rule.checksPriceHash ∧
          ¬priceHashesMatch context.suppliedPriceHash context.persistedPriceHash then
        .error (.ofCode .priceChanged)
      else if rule.checksAuthorization ∧ context.authorizationConsumed then
        .error (.ofCode .authorizationAlreadyConsumed)
      else if rule.checksAuthorization ∧ ¬context.authorizationValid then
        .error (.ofCode .authorizationExpired)
      else if rule.checksExpiry ∧ context.pastExpiry then
        .error (.ofCode .checkoutExpired)
      else if context.actorType ∉ rule.actors then
        .error (.ofCode .forbidden)
      else .ok rule

/-- The rows a transition applies to. -/
inductive Aggregate where
  | checkout (row : Checkout)
  | payment (row : Payment)

namespace Aggregate

def aggregateType : Aggregate → String
  | checkout _ => "checkout"
  | payment _ => "payment"

def aggregateId : Aggregate → String
  | checkout row => row.checkoutId
  | payment row => row.paymentId

/-- `normalize_source_status` of the row's status. -/
def source : Aggregate → RuleState
  | checkout row => row.status.canonical
  | payment row => row.status.canonical

/-- The text of the row's status. -/
def statusValue : Aggregate → String
  | checkout row => row.status.value
  | payment row => row.status.value

/-- `format_target_status`. -/
def targetValue : Aggregate → RuleState → Option String
  | checkout _, target => (CheckoutStatus.ofCanonical? target).map CheckoutStatus.value
  | payment _, target => (PaymentStatus.ofCanonical? target).map PaymentStatus.value

end Aggregate

namespace Database

/-- `checkout.status = status`, for the row with that identifier. -/
def setCheckoutStatus (db : Database) (checkoutId : String) (status : CheckoutStatus) :
    Database :=
  { db with
    checkouts := db.checkouts.modify (fun c => c.checkoutId == checkoutId)
      (fun c => { c with status }) fun _ => rfl }

/-- `payment.status = status`, for the row with that identifier. -/
def setPaymentStatus (db : Database) (paymentId : String) (status : PaymentStatus) : Database :=
  { db with
    payments := db.payments.modify (fun p => p.paymentId == paymentId)
      (fun p => { p with status }) fun _ => rfl }

/-- The status of an aggregate's row, set to a rule's target. -/
def setStatus (db : Database) : Aggregate → RuleState → Option Database
  | .checkout row, target =>
      (CheckoutStatus.ofCanonical? target).map (db.setCheckoutStatus row.checkoutId)
  | .payment row, target =>
      (PaymentStatus.ofCanonical? target).map (db.setPaymentStatus row.paymentId)

end Database

/-- `transition`. -/
def transition (aggregate : Aggregate) (event : TransitionEvent) (context : TransitionContext) :
    Op Unit := do
  let rule ← ofAnswer (validate aggregate.source event context)
  Work.tryWrite (fun w => (w.db.setStatus aggregate rule.target).map fun db => { w with db })
    (.integrity "new row violates check constraint")
  appendTransitionEvent aggregate.aggregateType aggregate.aggregateId event.value
    context.actorType context.actorId context.merchantId
    [("from_status", .str aggregate.statusValue),
      ("to_status", .ofOption (aggregate.targetValue rule.target))]

/-! ### What a transition does -/

/-- The edge out of a checkout status. -/
def CheckoutStatus.next (s : CheckoutStatus) (event : TransitionEvent) : Option CheckoutStatus :=
  (findRule s.canonical event).bind fun rule => ofCanonical? rule.target

/-- The edge out of a payment status. -/
def PaymentStatus.next (s : PaymentStatus) (event : TransitionEvent) : Option PaymentStatus :=
  (findRule s.canonical event).bind fun rule => ofCanonical? rule.target

theorem validate_eq_ok {source : RuleState} {event : TransitionEvent} {context : TransitionContext}
    {rule : TransitionRule} (h : validate source event context = .ok rule) :
    findRule source event = some rule ∧ context.actorType ∈ rule.actors ∧
      (rule.checksExpiry = true → context.pastExpiry = false) := by
  unfold validate at h
  split at h
  · exact nomatch h
  · rename_i r hr
    split_ifs at h with _ _ _ _ hexp hact
    obtain rfl := Except.ok.inj h
    refine ⟨hr, hact, fun hc => ?_⟩
    simpa [hc] using hexp

/-- What a rule without checks asks of a transition is the actor. -/
theorem validate_of_rule {source : RuleState} {event : TransitionEvent}
    {context : TransitionContext} {rule : TransitionRule} (hrule : findRule source event = some rule)
    (hfields : rule.requiredFields = [])
    (hchecks : rule.checksPriceHash = false ∧ rule.checksAuthorization = false ∧
      rule.checksExpiry = false)
    (hactor : context.actorType ∈ rule.actors) : validate source event context = .ok rule := by
  obtain ⟨hprice, hauth, hexpiry⟩ := hchecks
  simp [validate, hrule, hfields, hprice, hauth, hexpiry, hactor]

section

variable {w w' : World} {event : TransitionEvent} {context : TransitionContext} {e : Failure}

/-- **A refused transition changes nothing.** -/
theorem transition_error {aggregate : Aggregate}
    (h : transition aggregate event context w = .error e w') : w' = w := by
  simp only [transition, appendTransitionEvent, Work.bind_eq_error, ofAnswer_eq_error,
    ofAnswer_eq_ok, Work.tryWrite_eq_error, appendEvent_eq_error, and_false, exists_false,
    or_false] at h
  rcases h with ⟨_, rfl⟩ | ⟨_, _, ⟨_, rfl⟩, _, _, rfl⟩ <;> rfl

/-- **A transition of a checkout follows an edge**, and appends an event. -/
theorem transition_checkout {c : Checkout} {u : Unit}
    (h : transition (.checkout c) event context w = .ok u w') :
    ∃ s ev, c.status.next event = some s ∧
      w' = { w with db := (w.db.setCheckoutStatus c.checkoutId s).appendAudit ev } := by
  simp only [transition, appendTransitionEvent, Work.bind_eq_ok, ofAnswer_eq_ok,
    Work.tryWrite_eq_ok, appendEvent_eq_ok, Option.map_eq_some_iff] at h
  obtain ⟨rule, _, ⟨hadm, rfl⟩, _, w₁, ⟨db, hdb, rfl⟩, rfl⟩ := h
  simp only [Database.setStatus, Option.map_eq_some_iff] at hdb
  obtain ⟨s, hs, rfl⟩ := hdb
  have hrule : findRule c.status.canonical event = some rule := (validate_eq_ok hadm).1
  exact ⟨s, _, by rw [CheckoutStatus.next, hrule]; exact hs, rfl⟩

/-- **A transition of a payment follows an edge**, and appends an event. -/
theorem transition_payment {p : Payment} {u : Unit}
    (h : transition (.payment p) event context w = .ok u w') :
    ∃ s ev, p.status.next event = some s ∧
      w' = { w with db := (w.db.setPaymentStatus p.paymentId s).appendAudit ev } := by
  simp only [transition, appendTransitionEvent, Work.bind_eq_ok, ofAnswer_eq_ok,
    Work.tryWrite_eq_ok, appendEvent_eq_ok, Option.map_eq_some_iff] at h
  obtain ⟨rule, _, ⟨hadm, rfl⟩, _, w₁, ⟨db, hdb, rfl⟩, rfl⟩ := h
  simp only [Database.setStatus, Option.map_eq_some_iff] at hdb
  obtain ⟨s, hs, rfl⟩ := hdb
  have hrule : findRule p.status.canonical event = some rule := (validate_eq_ok hadm).1
  exact ⟨s, _, by rw [PaymentStatus.next, hrule]; exact hs, rfl⟩

/-- A transition along an edge without checks is not refused. -/
theorem transition_checkout_total {c : Checkout} {rule : TransitionRule} {s : CheckoutStatus}
    (hrule : findRule c.status.canonical event = some rule) (hfields : rule.requiredFields = [])
    (hchecks : rule.checksPriceHash = false ∧ rule.checksAuthorization = false ∧
      rule.checksExpiry = false)
    (hactor : context.actorType ∈ rule.actors)
    (htarget : CheckoutStatus.ofCanonical? rule.target = some s) :
    ¬transition (.checkout c) event context w = .error e w' := by
  intro h
  have hvalid := validate_of_rule hrule hfields hchecks hactor
  simp only [transition, appendTransitionEvent, Aggregate.source, hvalid, Work.bind_eq_error,
    ofAnswer_eq_error, ofAnswer_eq_ok, Work.tryWrite_eq_error, appendEvent_eq_error, and_false,
    exists_false, or_false] at h
  rcases h with ⟨h, -⟩ | ⟨r, _, ⟨hr, rfl⟩, h, -⟩
  · cases h
  · obtain rfl := Except.ok.inj hr
    rw [Database.setStatus, htarget] at h
    cases h

/-- The same for a payment. -/
theorem transition_payment_total {p : Payment} {rule : TransitionRule} {s : PaymentStatus}
    (hrule : findRule p.status.canonical event = some rule) (hfields : rule.requiredFields = [])
    (hchecks : rule.checksPriceHash = false ∧ rule.checksAuthorization = false ∧
      rule.checksExpiry = false)
    (hactor : context.actorType ∈ rule.actors)
    (htarget : PaymentStatus.ofCanonical? rule.target = some s) :
    ¬transition (.payment p) event context w = .error e w' := by
  intro h
  have hvalid := validate_of_rule hrule hfields hchecks hactor
  simp only [transition, appendTransitionEvent, Aggregate.source, hvalid, Work.bind_eq_error,
    ofAnswer_eq_error, ofAnswer_eq_ok, Work.tryWrite_eq_error, appendEvent_eq_error, and_false,
    exists_false, or_false] at h
  rcases h with ⟨h, -⟩ | ⟨r, _, ⟨hr, rfl⟩, h, -⟩
  · cases h
  · obtain rfl := Except.ok.inj hr
    rw [Database.setStatus, htarget] at h
    cases h

end

end AgenticCommerce
