/-
# Every operation moves purchases along

The services, one operation at a time: a call that returns takes every purchase of
the store along its phases (`Database.Advances`).  Each proof is the same reading
of the body, which names the rows it looked up and the edges it followed, and then
one move of `Lifecycle.Moves`, at the one purchase the body writes to.
-/

import AgenticCommerce.Authorization.Service
import AgenticCommerce.Checkout.Service
import AgenticCommerce.Lifecycle.Holds
import AgenticCommerce.Lifecycle.Moves

namespace AgenticCommerce

open Relational

/-- **Every purchase moves along its phases.** -/
def Database.Advances (now : Time) (db db' : Database) : Prop :=
  ∀ id, (db.purchase id).Advances now (db'.purchase id)

/-- **Every purchase is in some phase.** -/
def Database.Coherent (db : Database) : Prop := ∀ id, ∃ ph, (db.purchase id).At ph

namespace Database

variable {now : Time} {db db' db'' : Database}

theorem Coherent.advance (h : db.Coherent) (hadv : db.Advances now db') : db'.Coherent :=
  fun id => by
    obtain ⟨ph, hat⟩ := h id
    obtain ⟨ph', -, hat', -⟩ := hadv id ph hat
    exact ⟨ph', hat'⟩

theorem Advances.of_eq (h : db'.purchase = db.purchase) : db.Advances now db' := fun id => by
  rw [h]
  exact Purchase.Advances.refl now _

theorem Advances.refl (now : Time) (db : Database) : db.Advances now db := .of_eq rfl

theorem Advances.trans (h : db.Advances now db') (h' : db'.Advances now db'') :
    db.Advances now db'' := fun id => (h id).trans (h' id)

/-- One purchase moves, and the others stay. -/
theorem Advances.of_moved {id : String} {P : Purchase} (h : db'.Moved db.purchase id P)
    (hP : (db.purchase id).Advances now P) : db.Advances now db' := fun j => by
  rw [h]
  by_cases hj : j = id
  · rw [hj, Function.update_self]
    exact hP
  · rw [Function.update_of_ne hj]
    exact Purchase.Advances.refl now _

theorem Coherent.of_eq (h : db.Coherent) (hsame : db'.purchase = db.purchase) : db'.Coherent :=
  h.advance (.of_eq hsame : db.Advances 0 db')

end Database

section

variable {w w' : World} {env : Env} {e : Failure}

/-! ### Checkouts -/

theorem getOfferById_ok {merchantId offerId : String} {v : OfferV1}
    (h : getOfferById env merchantId offerId w = .ok v w') : w' = w := by
  simp only [getOfferById, Work.bind_eq_ok, require_eq_ok, ofAnswer_eq_ok] at h
  obtain ⟨_, _, ⟨_, rfl⟩, _, _, ⟨_, rfl⟩, _, _, ⟨_, rfl⟩, _, rfl⟩ := h
  rfl

theorem ensureBuyer_purchase {buyerId merchantId : String} {u : Unit}
    (h : Checkout.ensureBuyer buyerId merchantId w = .ok u w') :
    w'.db.purchase = w.db.purchase := by
  simp only [Checkout.ensureBuyer, Work.bind_eq_ok, query_eq_ok] at h
  obtain ⟨_, _, ⟨rfl, rfl⟩, h⟩ := h
  cases hb : w.db.buyers.first (fun b => b.buyerId == buyerId) with
  | some _ =>
      rw [hb] at h
      obtain ⟨_, rfl⟩ := Work.pure_eq_ok.1 h
      rfl
  | none =>
      rw [hb] at h
      simp only [Work.bind_eq_ok, insert_eq_ok, flush_eq_ok, Option.map_eq_some_iff] at h
      obtain ⟨_, _, ⟨_, ⟨_, _, rfl⟩, rfl⟩, _, rfl⟩ := h
      rfl

theorem createCheckout_advances {buyerId merchantId offerId : String} {quantity ttl : ℤ}
    {v : CheckoutV1}
    (h : Checkout.createCheckout env buyerId merchantId offerId quantity ttl w = .ok v w') :
    w.db.Advances env.now w'.db := by
  simp only [Checkout.createCheckout, Work.bind_eq_ok, raiseIf_eq_ok, insert_eq_ok, flush_eq_ok,
    appendEvent_eq_ok, Work.pure_eq_ok, Option.map_eq_some_iff] at h
  obtain ⟨offer, _, hoffer, _, _, ⟨_, rfl⟩, _, _, ⟨_, rfl⟩, _, _, ⟨_, rfl⟩, _, w₁, hbuyer, _, _,
    ⟨_, ⟨t, hins, rfl⟩, rfl⟩, _, _, ⟨_, ⟨_, _, rfl⟩, rfl⟩, _, _, ⟨_, rfl⟩, r, w₂, hres, _, _, rfl,
    _, rfl⟩ := h
  obtain rfl := (getOfferById_ok hoffer).symm
  have hbefore := (w.db.moved_self (Checkout.rowOf env offer buyerId merchantId offerId quantity
    (env.now + minutes ttl)).checkoutId).silent (ensureBuyer_purchase hbuyer)
  obtain ⟨hfresh, hstored⟩ := hbefore.putCheckout rfl hins
  obtain ⟨hheld, hmoved⟩ := reserveStock_moved (hstored.silent rfl) hres
  exact .of_moved (hmoved.silent rfl) (Purchase.advances_open hfresh rfl hheld)

theorem cancelCheckout_advances {buyerId merchantId id : String} {v : CheckoutV1}
    (h : Checkout.cancelCheckout env buyerId merchantId id w = .ok v w') :
    w.db.Advances env.now w'.db := by
  simp only [Checkout.cancelCheckout, Work.bind_eq_ok, require_eq_ok] at h
  obtain ⟨_, _, ⟨_, rfl⟩, c, _, ⟨hc, rfl⟩, h⟩ := h
  have hc' : (w.db.purchase id).checkout = some c := hc
  obtain ⟨-, hid⟩ := mem_checkouts.2 hc'
  split_ifs at h with hdone
  · simp only [Work.bind_eq_ok, query_eq_ok, Work.pure_eq_ok] at h
    obtain ⟨_, _, ⟨_, rfl⟩, _, rfl⟩ := h
    exact .refl _ _
  · simp only [Work.bind_eq_ok, query_eq_ok, require_eq_ok, flush_eq_ok, Work.pure_eq_ok] at h
    obtain ⟨_, w₁, htr, _, w₂, hrel, _, _, ⟨_, rfl⟩, _, _, ⟨_, rfl⟩, _, _, ⟨_, rfl⟩, _, rfl⟩ := h
    obtain ⟨s, _, hnext, rfl⟩ := transition_checkout htr
    rw [CheckoutStatus.next_cancelCheckout] at hnext
    split_ifs at hnext with hsource
    obtain rfl := Option.some.inj hnext
    rw [hid] at hrel
    have hmoved := releaseStock_moved (((w.db.moved_self id).setCheckout .cancelled).silent rfl) hrel
    refine .of_moved hmoved (Purchase.advances_close hc' ?_ hdone (.inl rfl)
      (Reservation.release_status _))
    rcases hsource with hs | hs | hs | hs <;> rw [hs] <;> decide

/-! ### Authorizations -/

theorem evaluateCheckoutPolicy_purchase {id merchantId buyerId : String}
    {result : PolicyDecisionResult}
    (h : Policy.evaluateCheckoutPolicy env id merchantId buyerId w = .ok result w') :
    w'.db.purchase = w.db.purchase := by
  simp only [Policy.evaluateCheckoutPolicy, Work.bind_eq_ok, require_eq_ok, query_eq_ok,
    insert_eq_ok, flush_eq_ok, appendEvent_eq_ok, Work.pure_eq_ok, Option.map_eq_some_iff] at h
  obtain ⟨_, _, ⟨_, rfl⟩, _, _, ⟨_, rfl⟩, _, _, ⟨_, ⟨_, _, rfl⟩, rfl⟩, _, _, ⟨_, rfl⟩, _, _, rfl,
    _, rfl⟩ := h
  rfl

/-- An authorization past its deadline never answers. -/
theorem expire_ok {α : Type} {auth : Authorization} {v : α} :
    ¬Authorization.expire auth w = .ok v w' := by
  simp [Authorization.expire]

theorem answerExisting_ok {checkout : Checkout} {auth : Authorization} {v : AuthorizationV1}
    (h : Authorization.answerExisting env checkout auth w = .ok v w') : w' = w := by
  unfold Authorization.answerExisting at h
  split_ifs at h
  · exact absurd h expire_ok
  · obtain ⟨_, rfl⟩ := query_eq_ok.1 h
    rfl
  · exact absurd h (by simp)
  · exact absurd h (by simp)

theorem requestAuthorization_advances {buyerId merchantId id : String} {ttl : ℤ}
    {v : AuthorizationV1}
    (h : Authorization.requestAuthorization env buyerId merchantId id ttl w = .ok v w') :
    w.db.Advances env.now w'.db := by
  simp only [Authorization.requestAuthorization, Work.bind_eq_ok, require_eq_ok, raiseIf_eq_ok,
    query_eq_ok] at h
  obtain ⟨c, _, ⟨hc, rfl⟩, _, _, ⟨_, rfl⟩, _, _, ⟨_, rfl⟩, existing, _, ⟨_, rfl⟩, h⟩ := h
  obtain ⟨hc', hmerchant, hbuyer⟩ := checkoutOf_eq_some hc
  obtain ⟨-, hid⟩ := mem_checkouts.2 hc'
  cases existing with
  | some auth =>
      rw [answerExisting_ok h]
      exact .refl _ _
  | none =>
      simp only [Work.bind_eq_ok, raiseIf_eq_ok, insert_eq_ok, flush_eq_ok, appendEvent_eq_ok,
        query_eq_ok, Option.map_eq_some_iff] at h
      obtain ⟨result, w₁, heval, _, _, ⟨_, rfl⟩, _, _, ⟨_, ⟨t, hins, rfl⟩, rfl⟩, _, w₂, htr, _, _,
        ⟨_, rfl⟩, _, _, rfl, _, rfl⟩ := h
      obtain ⟨s, _, hnext, rfl⟩ := transition_checkout htr
      obtain ⟨hnone, hstored⟩ := ((w.db.moved_self id).silent
        (evaluateCheckoutPolicy_purchase heval)).putAuthorization hid hins
      have hmoved := hstored.setCheckout s
      rw [hid] at *
      refine .of_moved (hmoved.silent rfl) ?_
      have hbinds : (Authorization.rowOf env c buyerId merchantId result ttl).Binds c :=
        ⟨rfl, hbuyer.symm, hmerchant.symm, rfl, rfl, rfl⟩
      by_cases hallow : result.decision = .allow
      · have hstatus : (Authorization.rowOf env c buyerId merchantId result ttl).status =
            .approved := if_pos hallow
        rw [if_pos hstatus, CheckoutStatus.next_useExistingAuthorization] at hnext
        split_ifs at hnext with hsource
        exact Purchase.advances_request hc' hsource hnone hbinds
          (.inl ⟨hstatus, (Option.some.inj hnext).symm⟩)
      · have hstatus : (Authorization.rowOf env c buyerId merchantId result ttl).status =
            .pending := if_neg hallow
        rw [if_neg (by rw [hstatus]; decide), CheckoutStatus.next_requireApproval] at hnext
        split_ifs at hnext with hsource
        exact Purchase.advances_request hc' hsource hnone hbinds
          (.inr ⟨hstatus, (Option.some.inj hnext).symm⟩)

theorem getAuthorization_ok {buyerId merchantId authorizationId : String} {v : AuthorizationV1}
    (h : Authorization.getAuthorization buyerId merchantId authorizationId w = .ok v w') :
    w' = w := by
  simp only [Authorization.getAuthorization, Work.bind_eq_ok, require_eq_ok, query_eq_ok] at h
  obtain ⟨_, _, ⟨_, rfl⟩, _, rfl⟩ := h
  rfl

/-- The checkout of an authorization in some phase. -/
theorem Purchase.At.checkout_of_authorization {P : Purchase} {ph : Phase} {a : Authorization}
    (h : P.At ph) (ha : P.authorization = some a) : ∃ c, P.checkout = some c := by
  cases hc : P.checkout with
  | some c => exact ⟨c, rfl⟩
  | none =>
      obtain ⟨-, rfl⟩ := h.checkout_eq_none hc
      exact nomatch ha

theorem approveAuthorization_advances {buyerId merchantId authorizationId : String}
    {v : AuthorizationV1} (hdb : w.db.Coherent)
    (h : Authorization.approveAuthorization env buyerId merchantId authorizationId w = .ok v w') :
    w.db.Advances env.now w'.db := by
  simp only [Authorization.approveAuthorization, Work.bind_eq_ok, require_eq_ok, raiseIf_eq_ok] at h
  obtain ⟨auth, _, ⟨hauth, rfl⟩, _, _, ⟨_, rfl⟩, h⟩ := h
  obtain ⟨ha, -, -, -⟩ := authorizationOf_eq_some hauth
  split_ifs at h with happroved hlate
  · rw [getAuthorization_ok h]
    exact .refl _ _
  · simp only [Work.bind_eq_ok, raiseIf_eq_ok] at h
    obtain ⟨_, _, _, _, _, _, h⟩ := h
    exact absurd h expire_ok
  · simp only [Work.bind_eq_ok, raiseIf_eq_ok, update_eq_ok, query_eq_ok, flush_eq_ok,
      appendEvent_eq_ok] at h
    obtain ⟨_, _, ⟨_, rfl⟩, _, _, ⟨_, rfl⟩, _, _, rfl, c?, _, ⟨hc?, rfl⟩, _, w₂, htr, _, _,
      ⟨_, rfl⟩, _, _, rfl, hget⟩ := h
    obtain rfl := getAuthorization_ok hget
    obtain ⟨ph, hat⟩ := hdb auth.checkoutId
    obtain ⟨c, hc⟩ := hat.checkout_of_authorization ha
    obtain ⟨-, hid⟩ := mem_checkouts.2 hc
    have hfound : c? = some c := hc?.symm.trans hc
    rw [hfound] at htr
    obtain ⟨s, _, hnext, rfl⟩ := transition_checkout htr
    rw [CheckoutStatus.next_approveAuthorization] at hnext
    split_ifs at hnext with hsource
    obtain rfl := Option.some.inj hnext
    rw [hid]
    have hmoved := ((w.db.moved_self auth.checkoutId).setAuthorization ha .approved).setCheckout
      .authorized
    exact .of_moved (hmoved.silent rfl) (Purchase.advances_approve hc hsource)

theorem rejectAuthorization_advances {buyerId merchantId authorizationId : String}
    {v : AuthorizationV1} (hdb : w.db.Coherent)
    (h : Authorization.rejectAuthorization env buyerId merchantId authorizationId w = .ok v w') :
    w.db.Advances env.now w'.db := by
  simp only [Authorization.rejectAuthorization, Work.bind_eq_ok, require_eq_ok, raiseIf_eq_ok] at h
  obtain ⟨auth, _, ⟨hauth, rfl⟩, _, _, ⟨_, rfl⟩, h⟩ := h
  obtain ⟨ha, -, -, -⟩ := authorizationOf_eq_some hauth
  split_ifs at h with hrejected hlate
  · rw [getAuthorization_ok h]
    exact .refl _ _
  · simp only [Work.bind_eq_ok, raiseIf_eq_ok] at h
    obtain ⟨_, _, _, _, _, _, h⟩ := h
    exact absurd h expire_ok
  · simp only [Work.bind_eq_ok, raiseIf_eq_ok, update_eq_ok, query_eq_ok, flush_eq_ok,
      appendEvent_eq_ok] at h
    obtain ⟨_, _, ⟨hunused, rfl⟩, _, _, ⟨_, rfl⟩, c?, _, ⟨hc?, rfl⟩, _, _, ⟨_, rfl⟩, _, _, rfl, _,
      w₂, hmove, _, _, ⟨_, rfl⟩, _, _, rfl, hget⟩ := h
    obtain rfl := getAuthorization_ok hget
    obtain ⟨ph, hat⟩ := hdb auth.checkoutId
    obtain ⟨c, hc⟩ := hat.checkout_of_authorization ha
    obtain ⟨-, hid⟩ := mem_checkouts.2 hc
    have hfound : c? = some c := hc?.symm.trans hc
    rw [hfound] at hmove
    simp only [Option.elim_some, Work.bind_eq_ok] at hmove
    obtain ⟨_, w₁, htr, hrel⟩ := hmove
    obtain ⟨s, _, hnext, rfl⟩ := transition_checkout htr
    rw [CheckoutStatus.next_rejectAuthorization] at hnext
    split_ifs at hnext with hsource
    obtain rfl := Option.some.inj hnext
    rw [hid] at hrel
    have hrejected := ((w.db.moved_self auth.checkoutId).setAuthorization ha .rejected).setCheckout
      .cancelled
    have hmoved := releaseStock_moved (hrejected.silent rfl) hrel
    exact .of_moved (hmoved.silent rfl)
      (Purchase.advances_reject hc hsource ha hunused (Reservation.release_status _))

end

end AgenticCommerce
