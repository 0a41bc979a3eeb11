/-
# The commerce port of the agent

`packages/commerce/facade.py` and its implementation over the services,
`apps/api/commerce.py`, with the offer search of `services/offers/service.py` and the
fallback of `apps/api/catalog_source.py`.  The agent holds no session: what it can do is to
make one of eight calls (`FacadeCall`), and each is a unit of work of its own, which commits
or rolls back before it answers (`serve`).

Four of the calls only read, and the last one appends to the ledger: none of these five
touches a row outside the ledger, or the provider (`serve_onlyAudits`).  A search appends to
the ledger as well, so the ledger is not counted as a part of the state of commerce.
-/

import AgenticCommerce.Checkout.Service
import AgenticCommerce.Offers.Constraints
import AgenticCommerce.Payments.Service
import AgenticCommerce.Relational.Frames

namespace AgenticCommerce
namespace Agent

open Relational Work

/-- What `search_offers` is asked for. -/
structure SearchRequest where
  merchantId : String
  category : Option String := none
  maxPriceMinor : Option ℤ := none
  minMemoryGb : Option ℤ := none
  minStorageGb : Option ℤ := none
  maxDeliveryDays : Option ℤ := none
  quantity : ℤ := 1
  limit : ℤ := 10
  deriving DecidableEq

namespace SearchRequest

/-- The bounds of a search, with the names of their filters. -/
def bounds (r : SearchRequest) : List (String × Option ℤ) :=
  [("max_price_minor", r.maxPriceMinor), ("min_memory_gb", r.minMemoryGb),
    ("min_storage_gb", r.minStorageGb), ("max_delivery_days", r.maxDeliveryDays)]

/-- `OfferConstraints(...)`, with what `__post_init__` raises. -/
def constraints (r : SearchRequest) : Except Failure OfferConstraints :=
  if hbounds : ∀ bound ∈ [r.maxPriceMinor, r.minMemoryGb, r.minStorageGb,
      r.maxDeliveryDays].reduceOption, 0 ≤ bound then
    if hquantity : 1 ≤ r.quantity then
      .ok
        { category := r.category, maxPriceMinor := r.maxPriceMinor, minMemoryGb := r.minMemoryGb,
          minStorageGb := r.minStorageGb, maxDeliveryDays := r.maxDeliveryDays,
          quantity := r.quantity, limit := r.limit, bounds_nonneg := hbounds,
          quantity_pos := hquantity }
    else .error (.domain
      { code := .validationError, message := "A search must ask for at least one unit.",
        details := [("filter", "quantity")] })
  else .error (.domain
    { code := .validationError, message := "A search constraint cannot be negative.",
      details := ((r.bounds.find? fun b => b.2.any fun n => decide (n < 0)).map fun b =>
        ("filter", b.1)).toList })

end SearchRequest

/-- `search_seed_candidates`: the artifacts on disk, filtered. -/
abbrev SeedSearch := String → OfferConstraints → Except Failure (List OfferCandidate)

/-- `OfferService.search_offer_candidates`. -/
def searchOfferCandidates (env : Env) (merchantId : String) (constraints : OfferConstraints) :
    Op (List OfferCandidate) := do
  let rows ← require (fun db => db.searchOffers env.reading merchantId constraints env.now)
    (.exception "invalid input syntax for type integer")
  ofAnswer ((rows.mapM (candidateOf env.reading)).elim
    (.error (.exception "OfferV1 validation failed")) .ok)

/-- The `CATALOG_SEARCHED` event. -/
def searchedEvent (r : SearchRequest) : AuditEvent :=
  { merchantId := some r.merchantId, actorType := "buyer", actorId := none,
    eventType := "CATALOG_SEARCHED", aggregateType := "catalog", aggregateId := r.merchantId,
    metadata := [("category", .ofOption r.category),
      ("max_price_minor", r.maxPriceMinor.elim .null Json.int), ("limit", .int r.limit)] }

/-- The `OFFERS_RETURNED` event. -/
def returnedEvent (r : SearchRequest) (offers : List OfferV1) : AuditEvent :=
  { merchantId := some r.merchantId, actorType := "system", actorId := none,
    eventType := "OFFERS_RETURNED", aggregateType := "catalog", aggregateId := r.merchantId,
    metadata := [("returned_count", .int offers.length),
      ("offer_ids", .arr ((offers.take 5).map fun o => .str o.offerId))] }

/-- `OfferService.search_offers`. -/
def searchOffers (env : Env) (r : SearchRequest) : Op (List OfferV1) := do
  appendEvent (searchedEvent r)
  let constraints ← ofAnswer r.constraints
  let candidates ← searchOfferCandidates env r.merchantId constraints
  let results := candidates.map OfferCandidate.offer
  appendEvent (returnedEvent r results)
  pure results

/-- `search_catalog`: a session of its own, and the artifacts where that raises. -/
def searchCatalog (env : Env) (seed : SeedSearch) (merchantId : String)
    (constraints : OfferConstraints) : Op (List OfferCandidate) := do
  let answer ← nested (searchOfferCandidates env merchantId constraints)
  match answer with
  | .ok candidates => pure candidates
  | .error _ => ofAnswer (seed merchantId constraints)

/-- `PaymentService.get_payment_by_id`. -/
def getPaymentById (env : Env) (paymentId merchantId : String) (buyerId : Option String) :
    Op PaymentV1 := do
  let payment ← require
    (fun db => db.payments.first fun p => p.paymentId == paymentId &&
      (merchantId == "" || p.merchantId == merchantId) &&
      (given buyerId).all fun b => p.buyerId == b)
    (.raised "The payment does not exist." .notFound)
  pure (payment.toSchema env)

/-! ### The calls -/

/-- An event of an agent run. -/
structure AgentEvent where
  eventType : String
  aggregateId : String
  actorType : String
  actorId : Option String
  merchantId : Option String
  metadata : List (String × Json)
  deriving DecidableEq

/-- A call to `CommerceFacade`. -/
inductive FacadeCall where
  | searchOffers (r : SearchRequest)
  | getOffer (merchantId offerId : String)
  | compareOffers (merchantId : String) (offerIds : List String)
  | getPayment (merchantId paymentId : String) (buyerId : Option String)
  | createCheckout (buyerId merchantId offerId : String) (quantity : ℤ)
  | requestAuthorization (buyerId merchantId checkoutId : String)
  | createPayment (buyerId merchantId checkoutId authorizationId : String)
      (idempotencyKey : Option String)
  | recordAgentEvent (event : AgentEvent)
  deriving DecidableEq

namespace FacadeCall

/-- What a call answers. -/
@[reducible] def Answer : FacadeCall → Type
  | searchOffers _ => List OfferV1
  | getOffer _ _ => OfferV1
  | compareOffers _ _ => List OfferV1
  | getPayment _ _ _ => PaymentV1
  | createCheckout _ _ _ _ => CheckoutV1
  | requestAuthorization _ _ _ => AuthorizationV1
  | createPayment _ _ _ _ _ => PaymentV1
  | recordAgentEvent _ => String

/-- The capabilities the port lists as state-changing. -/
def stateChanging : FacadeCall → Bool
  | createCheckout .. | requestAuthorization .. | createPayment .. => true
  | _ => false

end FacadeCall

/-- `_unit_of_work`: commits, or rolls back and raises what was raised. -/
def unitOfWork {α : Type} (m : Op α) : Op α := do
  let answer ← nested (do let a ← m; flush; pure a)
  ofAnswer answer

/-- The row of an event of an agent run. -/
def AgentEvent.row (event : AgentEvent) : AuditEvent :=
  { merchantId := event.merchantId, actorType := event.actorType, actorId := event.actorId,
    eventType := event.eventType, aggregateType := "agent_run", aggregateId := event.aggregateId,
    metadata := event.metadata }

/-- `SessionScopedCommerceFacade`. -/
def serve (env : Env) (seed : SeedSearch) : (call : FacadeCall) → Op call.Answer
  | .searchOffers r => do
      let answer ← attempt (unitOfWork (searchOffers env r))
      match answer with
      | .ok offers => pure offers
      | .error (.domain e) => throw (.domain e)
      | .error _ =>
          -- the fallback is not asked for a quantity
          let constraints ← ofAnswer { r with quantity := 1 }.constraints
          let candidates ← searchCatalog env seed r.merchantId constraints
          pure (candidates.map OfferCandidate.offer)
  | .getOffer merchantId offerId => unitOfWork (getOfferById env merchantId offerId)
  | .compareOffers merchantId offerIds => unitOfWork (offerIds.mapM (getOfferById env merchantId))
  | .getPayment merchantId paymentId buyerId =>
      unitOfWork (getPaymentById env paymentId merchantId buyerId)
  | .createCheckout buyerId merchantId offerId quantity =>
      unitOfWork (Checkout.createCheckout env buyerId merchantId offerId quantity)
  | .requestAuthorization buyerId merchantId checkoutId =>
      unitOfWork (Authorization.requestAuthorization env buyerId merchantId checkoutId)
  | .createPayment buyerId merchantId checkoutId authorizationId idempotencyKey =>
      unitOfWork (Payment.createPayment env buyerId merchantId checkoutId authorizationId
        idempotencyKey)
  | .recordAgentEvent event => do
      let answer ← attempt (unitOfWork (appendEvent event.row))
      match answer with
      | .ok _ => pure (env.newId "aud")
      | .error _ => pure event.aggregateId

/-! ### What a call can change -/

/-- The second world differs from the first one in the ledger at most. -/
def OnlyAudits (w w' : World) : Prop :=
  { w.db with auditEvents := [] } = { w'.db with auditEvents := [] } ∧ w.calls = w'.calls

instance : IsPreorder World OnlyAudits where
  refl _ := ⟨rfl, rfl⟩
  trans _ _ _ h h' := ⟨h.1.trans h'.1, h.2.trans h'.2⟩

theorem appendEvent_onlyAudits (event : AuditEvent) : Moves OnlyAudits (appendEvent event) :=
  Moves.write fun _ => ⟨rfl, rfl⟩

theorem require_onlyAudits {α : Type} (q : Database → Option α) (missing : Failure) :
    Moves OnlyAudits (require q missing) := Moves.ask

theorem nested_onlyAudits {α : Type} {m : Op α} (h : Moves OnlyAudits m) :
    Moves OnlyAudits (nested m) := by
  constructor
  · intro w a w' hm
    rcases savepoint_eq_ok.1 hm with ⟨b, hb, -⟩ | ⟨e, u, he, -, rfl⟩
    · exact h.1 w b w' hb
    · exact ⟨rfl, (h.2 w e u he).2⟩
  · intro w e w' hm
    exact (savepoint_eq_error.1 hm).elim

theorem unitOfWork_onlyAudits {α : Type} {m : Op α} (h : Moves OnlyAudits m) :
    Moves OnlyAudits (unitOfWork m) :=
  (nested_onlyAudits (h.bind fun _ => Moves.bind .ask fun _ => .pure)).bind fun _ => .ask

theorem getOfferById_onlyAudits (env : Env) (merchantId offerId : String) :
    Moves OnlyAudits (getOfferById env merchantId offerId) :=
  (require_onlyAudits _ _).bind fun _ => (require_onlyAudits _ _).bind fun _ =>
    (require_onlyAudits _ _).bind fun _ => .ask

theorem searchOfferCandidates_onlyAudits (env : Env) (merchantId : String)
    (constraints : OfferConstraints) :
    Moves OnlyAudits (searchOfferCandidates env merchantId constraints) :=
  (require_onlyAudits _ _).bind fun _ => .ask

theorem searchOffers_onlyAudits (env : Env) (r : SearchRequest) :
    Moves OnlyAudits (searchOffers env r) :=
  (appendEvent_onlyAudits _).bind fun _ => Moves.bind .ask fun _ =>
    (searchOfferCandidates_onlyAudits env _ _).bind fun _ =>
      (appendEvent_onlyAudits _).bind fun _ => .pure

theorem searchCatalog_onlyAudits (env : Env) (seed : SeedSearch) (merchantId : String)
    (constraints : OfferConstraints) :
    Moves OnlyAudits (searchCatalog env seed merchantId constraints) := by
  refine (nested_onlyAudits (searchOfferCandidates_onlyAudits env _ _)).bind fun answer => ?_
  cases answer with
  | ok candidates => exact .pure
  | error e => exact .ask

/-- **A call that is not one of the three leaves everything but the ledger alone**, whether it
answers or raises. -/
theorem serve_onlyAudits (env : Env) (seed : SeedSearch) {call : FacadeCall}
    (h : call.stateChanging = false) : Moves OnlyAudits (serve env seed call) := by
  cases call with
  | searchOffers r =>
      refine (unitOfWork_onlyAudits (searchOffers_onlyAudits env r)).attempt.bind fun answer => ?_
      rcases answer with (e | m | m) | offers
      · exact .throw
      · exact Moves.bind .ask fun _ => (searchCatalog_onlyAudits env seed _ _).bind fun _ => .pure
      · exact Moves.bind .ask fun _ => (searchCatalog_onlyAudits env seed _ _).bind fun _ => .pure
      · exact .pure
  | getOffer merchantId offerId =>
      exact unitOfWork_onlyAudits (getOfferById_onlyAudits env merchantId offerId)
  | compareOffers merchantId offerIds =>
      exact unitOfWork_onlyAudits (Moves.mapM fun offerId =>
        getOfferById_onlyAudits env merchantId offerId)
  | getPayment merchantId paymentId buyerId =>
      exact unitOfWork_onlyAudits ((require_onlyAudits _ _).bind fun _ => .pure)
  | recordAgentEvent event =>
      refine (unitOfWork_onlyAudits (appendEvent_onlyAudits event.row)).attempt.bind
        fun answer => ?_
      cases answer with
      | ok _ => exact .pure
      | error _ => exact .pure
  | createCheckout | requestAuthorization | createPayment => exact nomatch h

/-- A call changes the state of commerce: the port says so, or it leaves some world changed
outside the ledger. -/
def FacadeCall.ChangesCommerce (call : FacadeCall) : Prop :=
  call.stateChanging = true ∨
    ∃ env seed w, ¬OnlyAudits w (final (serve env seed call) w)

/-- **The port's list is complete.** -/
theorem changesCommerce_iff {call : FacadeCall} :
    call.ChangesCommerce ↔ call.stateChanging = true := by
  constructor
  · rintro (h | ⟨env, seed, w, h⟩)
    · exact h
    · by_contra hother
      refine h ?_
      have hmoves := serve_onlyAudits env seed (Bool.not_eq_true _ ▸ hother)
      rcases final_cases (serve env seed call) w with ⟨a, ha⟩ | ⟨e, he⟩
      · exact hmoves.1 w a _ ha
      · exact hmoves.2 w e _ he
  · exact .inl

end Agent
end AgenticCommerce
