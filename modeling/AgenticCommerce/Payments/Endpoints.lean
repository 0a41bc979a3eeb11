/-
# The two endpoints ask for what is backed

Both endpoints run the same steps up to the payment, and a payment that was created has
collected the total of its checkout (`createPayment_collects`).  What remains is the
payment link: its amount is the offer's price or the client's own figure, and its currency
is always the client's.
-/

import AgenticCommerce.Lifecycle.Laws
import AgenticCommerce.Payments.Binding

namespace AgenticCommerce

open Relational Work

variable {env : Env} {settings : Razorpay.Settings} {principal : Razorpay.Principal}
  {w w' : World} {e : Failure} {b m a id : String}

/-! ### The steps of the endpoints -/

/-- The calls that were added demand nothing. -/
def Undemanding (calls calls' : List ProviderCall) : Prop :=
  ∃ new, calls' = calls ++ new ∧ ∀ call ∈ new, call.demand? = none

instance : IsPreorder (List ProviderCall) Undemanding where
  refl calls := ⟨[], (List.append_nil calls).symm, fun _ h => nomatch h⟩
  trans _ _ _ := by
    rintro ⟨new, rfl, h⟩ ⟨new', rfl, h'⟩
    refine ⟨new ++ new', List.append_assoc _ new new', fun call hcall => ?_⟩
    exact (List.mem_append.1 hcall).elim (h call) (h' call)

/-- The identifiers the provider gives its orders are new. -/
def FreshOrders (env : Env) (db : Database) : Prop :=
  ∀ calls request order, env.provider.createOrder calls request = .ok order →
    ∀ p ∈ db.payments, p.providerOrderId ≠ some order.providerOrderId

theorem FreshOrders.mono {db db' : Database} (h : FreshOrders env db) (hdb : db.OrdersFrom db') :
    FreshOrders env db' := by
  intro calls request order hanswer p hp horder
  obtain ⟨q, hq, hsame⟩ := hdb p hp
  exact h calls request order hanswer q hq (hsame.symm.trans horder)

namespace Razorpay

section

variable {S : Database → Database → Prop} {C : List ProviderCall → List ProviderCall → Prop}
  [IsPreorder (List ProviderCall) C] [BooksFrame S]

theorem ensureParties_frame {merchantStored : Bool} :
    Moves (OnWorld S C) (ensureParties settings merchantStored m b) := by
  refine .bind moves_raiseIf fun _ => .bind moves_query fun found => ?_
  cases found with
  | some _ => exact .pure
  | none => exact .bind moves_raiseIf fun _ => ensureBuyer_frame

variable [CheckoutFrame S]

theorem resolveCheckout_frame {request : CreateOrderRequest} :
    Moves (OnWorld S C) (resolveCheckout env b m request) := by
  refine .bind moves_ofAnswer fun named => ?_
  cases named with
  | some id => exact .bind moves_require fun _ => .bind moves_raiseIf fun _ => .pure
  | none =>
      exact .bind moves_require fun _ => .bind createCheckout_frame fun _ =>
        .bind moves_raiseIf fun _ => .pure

end

/-- A payment of the endpoints is one of `createPayment`, once the checkout is authorized. -/
theorem pay_ok {body : PaymentV1} (h : pay env b m id w = .ok body w') :
    ∃ v w₁, Authorization.requestAuthorization (env.after 10) b m id 15 w = .ok v w₁ ∧
      Payment.createPayment (env.after 20) b m id v.authorizationId (some id) w₁ = .ok body w' := by
  simp only [pay, bind_eq_ok, raiseIf_eq_ok, flush_eq_ok, pure_eq_ok] at h
  obtain ⟨v, w₁, hauth, _, _, ⟨-, rfl⟩, payment, _, hpayment, _, _, ⟨-, rfl⟩, rfl, rfl⟩ := h
  exact ⟨v, w₁, hauth, hpayment⟩

/-- **A payment of the endpoints that raised** left no demand behind. -/
theorem pay_error (hfresh : FreshOrders env w.db) (h : pay env b m id w = .error e w') :
    Undemanding w.calls w'.calls := by
  have hrequest : Moves (OnWorld Anything Undemanding)
      (Authorization.requestAuthorization (env.after 10) b m id 15) := requestAuthorization_calls
  have hgranted : Returns (OnWorld Database.OrdersFrom Eq)
      (Authorization.requestAuthorization (env.after 10) b m id 15) := requestAuthorization_returns
  rcases bind_eq_error.1 h with h | ⟨v, w₁, hauth, h⟩
  · exact (hrequest.2 _ _ _ h).2
  obtain ⟨horders, hcalls⟩ := hgranted _ _ _ hauth
  rw [hcalls]
  rcases bind_eq_error.1 h with h | ⟨_, _, hraise, h⟩
  · obtain ⟨-, -, rfl⟩ := raiseIf_eq_error.1 h
    exact refl_of Undemanding _
  obtain ⟨-, rfl⟩ := raiseIf_eq_ok.1 hraise
  rcases bind_eq_error.1 h with h | ⟨body, _, hpaid, h⟩
  · rcases createPayment_error h with hsame | ⟨request, hasked, htaken⟩
    · rw [hsame]
      exact refl_of Undemanding _
    · refine ⟨[_], hasked, fun call hcall => ?_⟩
      rw [List.mem_singleton] at hcall
      rw [hcall]
      cases hanswer : (env.after 20).provider.createOrder w₁.calls request with
      | error failure => rfl
      | ok order =>
          obtain ⟨q, hq, htaken⟩ := htaken order hanswer
          exact absurd htaken (hfresh.mono horders _ _ _ hanswer q hq)
  · rcases bind_eq_error.1 h with h | ⟨_, _, -, h⟩
    · obtain ⟨hflush, -, rfl⟩ := flush_eq_error.1 h
      rcases createPayment_collects hpaid with ⟨hsame, -⟩ | ⟨c, x, order, hdone⟩
      · rw [hsame]
        exact refl_of Undemanding _
      · exact absurd (hflush.symm.trans hdone.flushable) nofun
    · exact (pure_eq_error.1 h).elim

theorem reported_error {α : Type} {m : Op α} (h : reported m w = .error e w') :
    ∃ e', m w = .error e' w' := by
  rcases bind_eq_error.1 h with h | ⟨outcome, _, hrun, h⟩
  · exact (attempt_eq_error.1 h).elim
  rcases attempt_eq_ok.1 hrun with ⟨a, -, rfl⟩ | ⟨e', hm, rfl⟩
  · exact (pure_eq_error.1 h).elim
  · refine ⟨e', ?_⟩
    cases e' <;> (obtain ⟨-, rfl⟩ := throw_eq_error.1 h; exact hm)

theorem reported_ok {α : Type} {m : Op α} {a : α} (h : reported m w = .ok a w') :
    m w = .ok a w' := by
  obtain ⟨outcome, _, hrun, h⟩ := bind_eq_ok.1 h
  rcases attempt_eq_ok.1 hrun with ⟨a, hm, rfl⟩ | ⟨e', -, rfl⟩
  · obtain ⟨rfl, rfl⟩ := pure_eq_ok.1 h
    exact hm
  · cases e' <;> exact (throw_eq_ok.1 h).elim

/-- A new checkout is stored at the price and in the currency of its offer. -/
theorem openCheckout_ok {offer : Offer} {v : CheckoutV1}
    (hoffer : w.db.offers.first (fun o => o.offerId == offer.offerId && o.merchantId == m) =
      some offer)
    (h : openCheckout env b m offer w = .ok v w') :
    v.checkoutId = env.newId "chk" ∧ ∃ c ∈ w'.db.checkouts, c.checkoutId = v.checkoutId ∧
      c.totalMinor = offer.unitPriceMinor ∧ c.currency.value = offer.currency := by
  simp only [openCheckout, Checkout.createCheckout, bind_eq_ok, raiseIf_eq_ok, insert_eq_ok,
    flush_eq_ok, appendEvent_eq_ok, pure_eq_ok, Option.map_eq_some_iff] at h
  obtain ⟨o, _, hfound, _, _, ⟨-, rfl⟩, _, _, ⟨-, rfl⟩, _, _, ⟨-, rfl⟩, _, w₁, hbuyer, _, _,
    ⟨_, ⟨t, hins, rfl⟩, rfl⟩, _, _, ⟨_, ⟨_, -, rfl⟩, rfl⟩, _, _, ⟨-, rfl⟩, r, w₂, hreserve, _, _,
    rfl, rfl, rfl⟩ := h
  simp only [getOfferById, bind_eq_ok, require_eq_ok, ofAnswer_eq_ok] at hfound
  obtain ⟨o', _, ⟨ho', rfl⟩, product, _, ⟨-, rfl⟩, stock, _, ⟨-, rfl⟩, hschema, rfl⟩ := hfound
  obtain rfl : offer = o' := Option.some.inj (hoffer.symm.trans ho')
  cases hprojected : offerToSchema env.reading offer product stock with
  | none => simp [hprojected] at hschema
  | some projected =>
      obtain ⟨_, currency, -, hcurrency, -, rfl⟩ := offerToSchema_eq_some.1 hprojected
      simp only [hprojected, Option.elim_some, Except.ok.injEq] at hschema
      have hkept : Moves (OnWorld (Database.Keeps Database.checkouts) Eq) (Inventory.reserveStock env
        offer.offerId (env.newId "chk") 1) := reserveStock_frame
      refine ⟨rfl, _, ?_, rfl, ?_, ?_⟩
      · change _ ∈ w₂.db.checkouts
        rw [← show _ = w₂.db.checkouts from (hkept.1 _ _ _ hreserve).1]
        exact (Table.mem_insert hins).2 (.inr rfl)
      · rw [← hschema]
        simp [Checkout.rowOf, Checkout.calculateTotalMinor, Checkout.multiplyMinorUnits]
      · rw [← hschema]
        exact CurrencyCode.value_of_ofString? hcurrency

/-! ### An order -/

theorem createRazorpayOrder_error {merchantStored : Bool} {request : CreateOrderRequest}
    (hfresh : FreshOrders env w.db)
    (h : createRazorpayOrder env settings merchantStored principal request w = .error e w') :
    Undemanding w.calls w'.calls := by
  rcases bind_eq_error.1 h with h | ⟨_, _, hkeys, h⟩
  · obtain ⟨-, -, rfl⟩ := raiseIf_eq_error.1 h
    exact refl_of Undemanding _
  obtain ⟨-, rfl⟩ := raiseIf_eq_ok.1 hkeys
  rcases bind_eq_error.1 h with h | ⟨b, _, hbuyer, h⟩
  · obtain ⟨-, rfl⟩ := ofAnswer_eq_error.1 h
    exact refl_of Undemanding _
  obtain ⟨-, rfl⟩ := ofAnswer_eq_ok.1 hbuyer
  obtain ⟨e', h⟩ := reported_error h
  have hparties : Moves (OnWorld Database.OrdersFrom Eq)
    (ensureParties settings merchantStored principal.merchantId b) := ensureParties_frame
  have hresolve : Moves (OnWorld Database.OrdersFrom Eq)
    (resolveCheckout env b principal.merchantId request) := resolveCheckout_frame
  rcases bind_eq_error.1 h with h | ⟨_, _, hdone, h⟩
  · rw [(hparties.2 _ _ _ h).2]
    exact refl_of Undemanding _
  obtain ⟨hfrom, hcalls⟩ := hparties.1 _ _ _ hdone
  rw [hcalls]
  rcases bind_eq_error.1 h with h | ⟨id, _, hdone', h⟩
  · rw [(hresolve.2 _ _ _ h).2]
    exact refl_of Undemanding _
  obtain ⟨hfrom', hcalls'⟩ := hresolve.1 _ _ _ hdone'
  rw [hcalls']
  rcases bind_eq_error.1 h with h | ⟨_, _, -, h⟩
  · exact pay_error ((hfresh.mono hfrom).mono hfrom') h
  · exact (pure_eq_error.1 h).elim

/-- A request that returned with an order has collected for a checkout of its buyer. -/
theorem createRazorpayOrder_ok {merchantStored : Bool} {request : CreateOrderRequest}
    {answer : OrderAnswer}
    (h : createRazorpayOrder env settings merchantStored principal request w = .ok answer w') :
    w'.calls = w.calls ∨ ∃ b id key c x order body w₁, some b = principal.buyerId ∧
      w₁.calls = w.calls ∧
      Collected (env.after 20) b principal.merchantId id key c x order body w₁ w' := by
  simp only [createRazorpayOrder, requireKeys, requireBuyer, bind_eq_ok, raiseIf_eq_ok,
    ofAnswer_eq_ok] at h
  obtain ⟨_, _, ⟨-, rfl⟩, b, _, ⟨hb, rfl⟩, h⟩ := h
  have hbuyer : some b = principal.buyerId := by
    cases hp : principal.buyerId with
    | none => simp [hp] at hb
    | some b' =>
        simp only [hp, Option.elim_some, Except.ok.injEq] at hb
        rw [hb]
  obtain ⟨_, _, hparties, h⟩ := bind_eq_ok.1 (reported_ok h)
  obtain ⟨id, w₁, hresolved, h⟩ := bind_eq_ok.1 h
  obtain ⟨body, w₂, hpaid, h⟩ := bind_eq_ok.1 h
  obtain ⟨-, rfl⟩ := pure_eq_ok.1 h
  have hmoves : Moves (OnWorld Anything Eq)
    (ensureParties settings merchantStored principal.merchantId b) := ensureParties_frame
  have hmoves' : Moves (OnWorld Anything Eq)
    (resolveCheckout env b principal.merchantId request) := resolveCheckout_frame
  have hcalls : w₁.calls = w.calls :=
    ((hmoves.1 _ _ _ hparties).2.trans (hmoves'.1 _ _ _ hresolved).2).symm
  obtain ⟨v, w₃, hauth, hcreated⟩ := pay_ok hpaid
  have hgranted : Returns (OnWorld Anything Eq) (Authorization.requestAuthorization (env.after 10) b
    principal.merchantId id 15) := requestAuthorization_returns
  have hcalls' : w₃.calls = w.calls := (hgranted _ _ _ hauth).2.symm.trans hcalls
  rcases createPayment_collects hcreated with ⟨hsame, -⟩ | ⟨c, x, order, hdone⟩
  · exact .inl (hsame.trans hcalls')
  · exact .inr ⟨b, id, _, c, x, order, body, w₃, hbuyer, hcalls', hdone⟩

/-! ### A payment link -/

/-- The offer of a request is stored, under its identifier. -/
theorem offerFor_ok {offerId : Option String} {amount : ℤ} {db : Database} {offer : Offer}
    (h : offerFor m offerId amount db = some offer) :
    db.offers.first (fun o => o.offerId == offer.offerId && o.merchantId == m) = some offer := by
  have hstored : offer ∈ db.offers ∧ offer.merchantId = m := by
    unfold offerFor at h
    cases hgiven : given offerId with
    | none =>
        rw [hgiven, Option.elim_none] at h
        obtain ⟨hmem, hmatch⟩ := Table.first_eq_some h
        simp only [Bool.and_eq_true, beq_iff_eq] at hmatch
        exact ⟨hmem, hmatch.1.1.1⟩
    | some id =>
        rw [hgiven, Option.elim_some] at h
        obtain ⟨hmem, hmatch⟩ := Table.first_eq_some h
        simp only [Bool.and_eq_true, beq_iff_eq] at hmatch
        exact ⟨hmem, hmatch.1.2⟩
  refine Table.first_of_mem hstored.1 (by simp [hstored.2]) fun o ho hmatch => ?_
  simp only [Bool.and_eq_true, beq_iff_eq] at hmatch
  exact Table.eq_of_clash ho hstored.1 (by simp [clashes, Keyed.clash, Keyed.key, hmatch.1])

/-- **A payment for a new checkout** has collected the price of the offer, in its currency,
provided that no record is kept under the identifier drawn for the checkout. -/
theorem openCheckout_pay {offer : Offer} {v : CheckoutV1} {body : PaymentV1} {w₁ : World}
    (hkey : ∀ r ∈ w.db.idempotencyRecords, r.idempotencyKey ≠ env.newId "chk")
    (hoffer : w.db.offers.first (fun o => o.offerId == offer.offerId && o.merchantId == m) =
      some offer)
    (hopen : openCheckout env b m offer w = .ok v w₁)
    (hpay : pay env b m v.checkoutId w₁ = .ok body w') :
    ∃ key c x order w₂, w₂.calls = w.calls ∧
      Collected (env.after 20) b m v.checkoutId key c x order body w₂ w' ∧
      c.totalMinor = offer.unitPriceMinor ∧ c.currency.value = offer.currency := by
  obtain ⟨hid, c₀, hc₀, hc₀id, htotal, hcurrency⟩ := openCheckout_ok hoffer hopen
  obtain ⟨v', w₂, hauth, hcreated⟩ := pay_ok hpay
  have hopened : Moves (OnWorld (Database.Keeps Database.idempotencyRecords) Eq)
    (openCheckout env b m offer) := createCheckout_frame
  have hgranted : Returns (OnWorld (Database.Keeps Database.idempotencyRecords) Eq)
    (Authorization.requestAuthorization (env.after 10) b m v.checkoutId 15) :=
    requestAuthorization_returns
  have hterms : Returns (OnWorld TermsKept Eq)
    (Authorization.requestAuthorization (env.after 10) b m v.checkoutId 15) :=
    requestAuthorization_returns
  have hkept := trans_of (OnWorld _ Eq) (hopened.1 _ _ _ hopen) (hgranted _ _ _ hauth)
  rcases createPayment_collects hcreated with ⟨-, r, hr, hkeyed⟩ | ⟨c, x, order, hdone⟩
  · rw [← show w.db.idempotencyRecords = w₂.db.idempotencyRecords from hkept.1] at hr
    have hnamed : r.idempotencyKey = v.checkoutId := by
      unfold given at hkeyed
      rw [Option.filter_some] at hkeyed
      split_ifs at hkeyed
      exact (Option.some.inj hkeyed).symm
    exact absurd (hnamed.trans hid) (hkey r hr)
  · obtain ⟨hmem, hmatch⟩ := Table.first_eq_some hdone.found
    simp only [Bool.and_eq_true, beq_iff_eq] at hmatch
    obtain ⟨c₁, hc₁, hsame⟩ := (hterms _ _ _ hauth).1 c hmem
    obtain rfl : c₁ = c₀ := Table.eq_of_clash hc₁ hc₀ (by
      have hc₁id : c₁.checkoutId = c.checkoutId := by rw [hsame]
      simp [clashes, Keyed.clash, Keyed.key, hc₁id, hmatch.1.1, hc₀id])
    refine ⟨_, c, x, order, w₂, hkept.2.symm, hdone, ?_, ?_⟩
    · rw [hsame, ← htotal]
    · rw [hsame, ← hcurrency]

/-- What a request for a link must meet for its link to be backed.  A named checkout must
already have a payment, under the very order that the endpoint makes up, for what the
client names; otherwise the client's currency must be the offer's. -/
def CheckoutUrlRequest.Binding (request : CheckoutUrlRequest) (principal : Principal)
    (db : Database) : Prop :=
  match given request.checkoutId with
  | some id => Demand.Backed principal db
      ⟨request.amount, request.currency.value, some ("order_" ++ id)⟩
  | none => ∀ offer, offerFor principal.merchantId request.offerId request.amount db = some offer →
      offer.currency = request.currency.value

/-- The demands among the calls that were added are backed, a link's only under `P`. -/
def Backs (principal : Principal) (P : Prop) (calls : List ProviderCall) (w : World) : Prop :=
  ∃ new, w.calls = calls ++ new ∧ ∀ call ∈ new, ∀ d, call.demand? = some d →
    (d.Backed principal w.db ↔ (call.isLink = true → P))

theorem backs_of_undemanding {P : Prop} {calls : List ProviderCall} (h : Undemanding calls w.calls) :
    Backs principal P calls w := by
  obtain ⟨new, hcalls, hnone⟩ := h
  refine ⟨new, hcalls, fun call hcall d hd => ?_⟩
  rw [hnone call hcall] at hd
  exact nomatch hd

/-- What holds of the world after a return that can be committed, and after a rollback,
holds after the request. -/
theorem request_cases {α : Type} {m : Op α} {P : World → Prop}
    (herr : ∀ e w', m w = .error e w' → P { w' with db := w.db })
    (hok : ∀ a w', m w = .ok a w' → P w' ∧ (w'.db.flushable = false → P { w' with db := w.db })) :
    P (request m w) := by
  refine transaction_induction (motive := P) ?_ ?_
  · intro a w' h
    obtain ⟨a', _, hrun, h⟩ := bind_eq_ok.1 h
    obtain ⟨_, _, hflush, h⟩ := bind_eq_ok.1 h
    obtain ⟨-, rfl⟩ := flush_eq_ok.1 hflush
    obtain ⟨-, rfl⟩ := pure_eq_ok.1 h
    exact (hok a' _ hrun).1
  · intro e w' h
    rcases bind_eq_error.1 h with h | ⟨a', _, hrun, h⟩
    · exact herr e w' h
    rcases bind_eq_error.1 h with h | ⟨_, _, -, h⟩
    · obtain ⟨hflush, -, rfl⟩ := flush_eq_error.1 h
      exact (hok a' _ hrun).2 hflush
    · exact (pure_eq_error.1 h).elim

/-- A link for the amount of what was collected is backed when it names its currency. -/
theorem link_backed_iff {c : Checkout} {x : Authorization} {order : ProviderOrder}
    {body : PaymentV1} {key : Option String} (currency : String)
    (hb : some b = principal.buyerId)
    (h : Collected env b principal.merchantId id key c x order body w w') :
    Demand.Backed principal w'.db ⟨c.totalMinor, currency, some order.providerOrderId⟩ ↔
      c.currency.value = currency := by
  constructor
  · rintro ⟨c', hc', p, hp, x', -, hback⟩
    obtain rfl := order_unique h.flushable hp h.payment hback.referenced.2 rfl
    obtain rfl : c' = c := Table.eq_of_clash hc' h.stored (by
      simp [clashes, Keyed.clash, Keyed.key, ← hback.paid, Payment.orderedRow, Payment.rowOf])
    exact hback.currency.symm
  · rintro rfl
    exact h.backed rfl hb

/-- What the last step of the endpoint does with a collection. -/
theorem paymentLink_ok {request : LinkRequest} {url : Option String}
    (h : paymentLink env settings request w = .ok url w') :
    w'.db = w.db ∧ (w'.calls = w.calls ∨ ∃ answer,
      w'.calls = w.calls ++ [.paymentLink request answer]) := by
  unfold paymentLink at h
  split_ifs at h
  · simp only [bind_eq_ok, call_eq_ok, pure_eq_ok] at h
    obtain ⟨answer, _, ⟨hanswer, rfl⟩, -, rfl⟩ := h
    exact ⟨rfl, .inr ⟨answer, by rw [hanswer]⟩⟩
  · obtain ⟨-, rfl⟩ := pure_eq_ok.1 h
    exact ⟨rfl, .inl rfl⟩

/-- The last step of the endpoint raises nothing. -/
theorem paymentLink_total {request : LinkRequest} :
    ¬paymentLink env settings request w = .error e w' := by
  intro h
  unfold paymentLink at h
  split_ifs at h
  · rcases bind_eq_error.1 h with h | ⟨_, _, -, h⟩
    · exact call_eq_error.1 h
    · exact pure_eq_error.1 h
  · exact pure_eq_error.1 h

theorem getRazorpayCheckoutUrl_error {request : CheckoutUrlRequest} (hfresh : FreshOrders env w.db)
    (h : getRazorpayCheckoutUrl env settings principal request w = .error e w') :
    Undemanding w.calls w'.calls := by
  rcases bind_eq_error.1 h with h | ⟨b, _, hbuyer, h⟩
  · obtain ⟨-, rfl⟩ := ofAnswer_eq_error.1 h
    exact refl_of Undemanding _
  obtain ⟨-, rfl⟩ := ofAnswer_eq_ok.1 hbuyer
  rcases bind_eq_error.1 h with h | ⟨_, _, hkeys, h⟩
  · obtain ⟨-, -, rfl⟩ := raiseIf_eq_error.1 h
    exact refl_of Undemanding _
  obtain ⟨-, rfl⟩ := raiseIf_eq_ok.1 hkeys
  rcases bind_eq_error.1 h with h | ⟨_, _, hreturn, h⟩
  · obtain ⟨-, rfl⟩ := ofAnswer_eq_error.1 h
    exact refl_of Undemanding _
  obtain ⟨-, rfl⟩ := ofAnswer_eq_ok.1 hreturn
  rcases bind_eq_error.1 h with h | ⟨collection, w₁, -, h⟩
  · unfold resolveCollection at h
    cases hgiven : given request.checkoutId with
    | some id =>
        rw [hgiven] at h
        exact (pure_eq_error.1 h).elim
    | none =>
        rw [hgiven] at h
        rcases bind_eq_error.1 h with h | ⟨offer, _, hoffer, h⟩
        · obtain ⟨-, -, rfl⟩ := require_eq_error.1 h
          exact refl_of Undemanding _
        obtain ⟨-, rfl⟩ := require_eq_ok.1 hoffer
        have hopened : Moves (OnWorld Database.OrdersFrom Eq)
          (openCheckout env b principal.merchantId offer) := createCheckout_frame
        rcases bind_eq_error.1 h with h | ⟨v, w₁, hopen, h⟩
        · rw [(hopened.2 _ _ _ h).2]
          exact refl_of Undemanding _
        obtain ⟨hfrom, hcalls⟩ := hopened.1 _ _ _ hopen
        rw [hcalls]
        rcases bind_eq_error.1 h with h | ⟨_, _, -, h⟩
        · exact pay_error (hfresh.mono hfrom) h
        · exact (pure_eq_error.1 h).elim
  · rcases bind_eq_error.1 h with h | ⟨_, _, -, h⟩
    · exact (paymentLink_total h).elim
    · exact (pure_eq_error.1 h).elim

/-- A request that returned with a link has asked for what it resolved. -/
theorem getRazorpayCheckoutUrl_ok {request : CheckoutUrlRequest} {answer : UrlAnswer}
    (h : getRazorpayCheckoutUrl env settings principal request w = .ok answer w') :
    ∃ b collection w₁, some b = principal.buyerId ∧
      resolveCollection env b principal.merchantId request w = .ok collection w₁ ∧
      w'.db = w₁.db ∧ (w'.calls = w₁.calls ∨ ∃ granted, w'.calls = w₁.calls ++
        [.paymentLink ⟨collection.amount, request.currency.value, collection.orderId⟩ granted]) := by
  simp only [getRazorpayCheckoutUrl, requireKeys, requireBuyer, bind_eq_ok, raiseIf_eq_ok,
    ofAnswer_eq_ok, pure_eq_ok] at h
  obtain ⟨b, _, ⟨hb, rfl⟩, _, _, ⟨-, rfl⟩, _, _, ⟨-, rfl⟩, collection, w₁, hresolved, _, _, hlink,
    -, rfl⟩ := h
  refine ⟨b, collection, w₁, ?_, hresolved, paymentLink_ok hlink⟩
  cases hp : principal.buyerId with
  | none => simp [hp] at hb
  | some b' =>
      simp only [hp, Option.elim_some, Except.ok.injEq] at hb
      rw [hb]

/-- **The links that are backed.**  Every order the endpoint creates is backed, and its link
is exactly under `Binding`. -/
theorem getRazorpayCheckoutUrl_backs {request : CheckoutUrlRequest} {answer : UrlAnswer}
    (hkey : ∀ r ∈ w.db.idempotencyRecords, r.idempotencyKey ≠ env.newId "chk")
    (h : getRazorpayCheckoutUrl env settings principal request w = .ok answer w') :
    Backs principal (request.Binding principal w.db) w.calls w' ∧
      (w'.db.flushable = false →
        Backs principal (request.Binding principal w.db) w.calls { w' with db := w.db }) := by
  obtain ⟨b, collection, w₁, hb, hresolved, hdb, hcalls⟩ := getRazorpayCheckoutUrl_ok h
  unfold resolveCollection at hresolved
  cases hgiven : given request.checkoutId with
  | some id =>
      rw [hgiven] at hresolved
      obtain ⟨rfl, rfl⟩ := pure_eq_ok.1 hresolved
      have hbacks : Backs principal (request.Binding principal w.db) w.calls
          { w' with db := w.db } := by
        rcases hcalls with hcalls | ⟨granted, hcalls⟩
        · exact backs_of_undemanding (by rw [hcalls]; exact refl_of Undemanding _)
        · refine ⟨_, hcalls, fun call hcall d hd => ?_⟩
          rw [List.mem_singleton] at hcall
          subst hcall
          cases granted with
          | error failure => cases hd
          | ok url =>
              obtain rfl := Option.some.inj hd
              simp only [ProviderCall.isLink, true_implies, CheckoutUrlRequest.Binding, hgiven]
      have hworld : w' = { w' with db := w.db } := by rw [← hdb]
      exact ⟨by rw [hworld]; exact hbacks, fun _ => hbacks⟩
  | none =>
      rw [hgiven] at hresolved
      simp only [bind_eq_ok, require_eq_ok, pure_eq_ok] at hresolved
      obtain ⟨offer, _, ⟨hoffer, rfl⟩, v, w₂, hopen, body, _, hpay, rfl, rfl⟩ := hresolved
      obtain ⟨key, c, x, order, w₃, hsame, hdone, htotal, hcurrency⟩ :=
        openCheckout_pay hkey (offerFor_ok hoffer) hopen hpay
      have hflush : w'.db.flushable = true := by rw [hdb]; exact hdone.flushable
      refine ⟨?_, fun hclash => absurd (hclash.symm.trans hflush) (by rintro ⟨⟩)⟩
      have horder : ∀ (call : ProviderCall) (d : Demand), call = .createOrder (Payment.orderRequest c (Payment.rowOf
          (env.after 20) c x.buyerId x.merchantId x.authorizationId key)) (.ok order) →
          call.demand? = some d → (d.Backed principal w'.db ↔
            (call.isLink = true → request.Binding principal w.db)) := by
        rintro _ d rfl hd
        obtain rfl := Option.some.inj hd
        refine iff_of_true ?_ (by rintro ⟨⟩)
        rw [hdb]
        exact hdone.backed rfl hb
      have hasked := hdone.asked
      rw [hsame] at hasked
      rcases hcalls with hcalls | ⟨granted, hcalls⟩
      · refine ⟨_, hcalls.trans hasked, fun call hcall d hd => ?_⟩
        exact horder call d (List.mem_singleton.1 hcall) hd
      · rw [hasked, List.append_assoc] at hcalls
        refine ⟨_, hcalls, fun call hcall d hd => ?_⟩
        rcases List.mem_append.1 hcall with hcall | hcall
        · exact horder call d (List.mem_singleton.1 hcall) hd
        rw [List.mem_singleton] at hcall
        subst hcall
        cases granted with
        | error failure => cases hd
        | ok url =>
            obtain rfl := Option.some.inj hd
            have hlink := link_backed_iff request.currency.value hb hdone
            rw [htotal, hcurrency, ← hdone.answered, ← hdb] at hlink
            rw [hlink]
            simp only [ProviderCall.isLink, true_implies, CheckoutUrlRequest.Binding, hgiven, hoffer,
              Option.some.injEq, forall_eq']

/-- **Every order is backed, and the links exactly under `Binding`.**  This holds of every
request to the two endpoints, provided that the provider's order identifiers are new, and
that no idempotency record is kept under the identifier drawn for a new checkout. -/
theorem demands_backed_iff (env : Env) (settings : Settings) (merchantStored : Bool)
    (principal : Principal) (order : CreateOrderRequest) (link : CheckoutUrlRequest) (w : World)
    (hfresh : FreshOrders env w.db)
    (hkey : ∀ r ∈ w.db.idempotencyRecords, r.idempotencyKey ≠ env.newId "chk") :
    Backs principal True w.calls
        (request (createRazorpayOrder env settings merchantStored principal order) w) ∧
      Backs principal (link.Binding principal w.db) w.calls
        (request (getRazorpayCheckoutUrl env settings principal link) w) := by
  constructor
  · refine request_cases (fun e w' h => ?_) fun answer w' h => ?_
    · have hnone := createRazorpayOrder_error hfresh h
      exact backs_of_undemanding hnone
    rcases createRazorpayOrder_ok h with hsame | ⟨b, id, key, c, x, o, body, w₁, hb, hsame, hdone⟩
    · have hnone : Undemanding w.calls w'.calls := by
        rw [hsame]
        exact refl_of Undemanding _
      exact ⟨backs_of_undemanding hnone, fun _ => backs_of_undemanding hnone⟩
    · refine ⟨⟨_, hdone.asked.trans (by rw [hsame]), fun call hcall d hd => ?_⟩,
        fun hclash => absurd (hclash.symm.trans hdone.flushable) nofun⟩
      rw [List.mem_singleton] at hcall
      subst hcall
      obtain rfl := Option.some.inj hd
      exact iff_of_true (hdone.backed rfl hb) fun _ => trivial
  · refine request_cases (fun e w' h => ?_) fun answer w' h => getRazorpayCheckoutUrl_backs hkey h
    have hnone := getRazorpayCheckoutUrl_error hfresh h
    exact backs_of_undemanding hnone

/-- The shop, with a provider that grants every payment link. -/
def linkEnv : Env :=
  { shopEnv with provider := { capturingProvider with paymentLink := fun _ _ => .ok "link_1" } }

/-- Live credentials. -/
def liveSettings : Settings := { razorpayKeyId := "rzp_live_1", razorpayKeySecret := "secret" }

/-- The buyer of the shop. -/
def shopPrincipal : Principal := { merchantId := "mer", buyerId := some "byr" }

/-- A link for half of what two pieces cost. -/
def halfPrice : CheckoutUrlRequest := { amount := 100, checkoutId := some "chk" }

theorem demands_backed_iff_openShop :
    Backs shopPrincipal True []
        (request (createRazorpayOrder linkEnv liveSettings true shopPrincipal { amount := 100 })
          openShop) ∧
      Backs shopPrincipal (CheckoutUrlRequest.Binding { amount := 100 } shopPrincipal openShop.db) []
        (request (getRazorpayCheckoutUrl linkEnv liveSettings shopPrincipal { amount := 100 })
          openShop) := by
  refine demands_backed_iff linkEnv liveSettings true shopPrincipal { amount := 100 }
    { amount := 100 } openShop (fun _ _ _ _ p hp => ?_) fun r hr => ?_
  · exact absurd hp (Table.not_mem_empty p)
  · exact absurd hr (Table.not_mem_empty r)

/-- A link for half the total of the buyer's own checkout is asked for, and nothing backs
it: the checkout's total is 200, and it has no payment. -/
theorem half_price_link_unbacked :
    (checkedOut.db.checkoutOf "mer" "byr" "chk").map Checkout.totalMinor = some 200 ∧
      ¬Backs shopPrincipal True checkedOut.calls
        (request (getRazorpayCheckoutUrl linkEnv liveSettings shopPrincipal halfPrice)
          checkedOut) := by
  refine ⟨by decide, ?_⟩
  rintro ⟨new, hnew, hbacked⟩
  have hcalls : (request (getRazorpayCheckoutUrl linkEnv liveSettings shopPrincipal halfPrice)
      checkedOut).calls = checkedOut.calls ++
        [.paymentLink ⟨100, "INR", some "order_chk"⟩ (.ok "link_1")] := rfl
  have hpayments : (request (getRazorpayCheckoutUrl linkEnv liveSettings shopPrincipal halfPrice)
      checkedOut).db.payments.rows = [] := by decide
  obtain rfl := List.append_cancel_left (hnew.symm.trans hcalls)
  obtain ⟨c, -, p, hp, -⟩ :=
    (hbacked _ (List.mem_singleton_self _) ⟨100, "INR", some "order_chk"⟩ rfl).2 fun _ => trivial
  rw [Table.mem_def, hpayments] at hp
  exact nomatch hp

end Razorpay
end AgenticCommerce
