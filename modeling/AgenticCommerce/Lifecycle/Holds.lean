/-
# Holds and statuses of a purchase

What the inventory service and the transitions do to the purchase of a checkout.
`releaseStock` and `commitStock` are given by the reservation they leave
(`Reservation.release`, `Reservation.commit`); a refused call leaves the store as
it was, with the one exception of a commit whose second statement matches no row.
The edges of the transition table that the services follow are collected as
equations.
-/

import AgenticCommerce.Lifecycle.View

namespace AgenticCommerce

open Relational

/-- A hold after `release`. -/
def Reservation.release (now : Time) (r : Reservation) : Reservation :=
  if r.status = .held then { r with status := .released, releasedAt := some now } else r

/-- A hold after `commit`. -/
def Reservation.commit (now : Time) (r : Reservation) : Reservation :=
  if r.status = .held then { r with status := .committed, committedAt := some now } else r

theorem Reservation.release_of_held {now : Time} {r : Reservation} (h : r.status = .held) :
    r.release now = { r with status := .released, releasedAt := some now } :=
  if_pos h

theorem Reservation.commit_of_held {now : Time} {r : Reservation} (h : r.status = .held) :
    r.commit now = { r with status := .committed, committedAt := some now } :=
  if_pos h

theorem Reservation.release_status (now : Time) (r : Reservation) (h : r.status = .held) :
    (r.release now).status = .released := by
  rw [release_of_held h]

theorem Reservation.commit_status (now : Time) (r : Reservation) (h : r.status = .held) :
    (r.commit now).status = .committed := by
  rw [commit_of_held h]

/-! ### The edges the services follow -/

namespace CheckoutStatus

theorem next_requireApproval (s : CheckoutStatus) : s.next .requireApproval =
    if s = .created ∨ s = .policyChecked then some .authorizationPending else none := by
  cases s <;> rfl

theorem next_useExistingAuthorization (s : CheckoutStatus) : s.next .useExistingAuthorization =
    if s = .created ∨ s = .policyChecked then some .authorized else none := by
  cases s <;> rfl

theorem next_approveAuthorization (s : CheckoutStatus) : s.next .approveAuthorization =
    if s = .authorizationPending then some .authorized else none := by
  cases s <;> rfl

theorem next_rejectAuthorization (s : CheckoutStatus) : s.next .rejectAuthorization =
    if s = .authorizationPending ∨ s = .authorized ∨ s = .created then some .cancelled
    else none := by
  cases s <;> rfl

theorem next_cancelCheckout (s : CheckoutStatus) : s.next .cancelCheckout =
    if s = .created ∨ s = .policyChecked ∨ s = .authorizationPending ∨ s = .authorized then
      some .cancelled
    else none := by
  cases s <;> rfl

theorem next_expireCheckout (s : CheckoutStatus) : s.next .expireCheckout =
    if s = .created ∨ s = .authorizationPending ∨ s = .authorized then some .expired
    else none := by
  cases s <;> rfl

theorem next_completeOrder (s : CheckoutStatus) : s.next .completeOrder =
    if s = .authorized then some .completed else none := by
  cases s <;> rfl

theorem next_failPayment (s : CheckoutStatus) : s.next .failPayment =
    if s = .authorized then some .paymentFailed else none := by
  cases s <;> rfl

end CheckoutStatus

namespace PaymentStatus

theorem next_providerOrderCreated (s : PaymentStatus) : s.next .providerOrderCreated =
    if s = .created then some .pending else none := by
  cases s <;> rfl

theorem next_verifyPayment (s : PaymentStatus) : s.next .verifyPayment =
    if s = .pending then some .verified else none := by
  cases s <;> rfl

theorem next_failPayment (s : PaymentStatus) : s.next .failPayment =
    if s = .created ∨ s = .pending then some .failed else none := by
  cases s <;> rfl

end PaymentStatus

/-- The system completes an authorized checkout, and fails it, without further checks. -/
theorem transition_authorized {w w' : World} {e : Failure} {c : Checkout}
    {context : TransitionContext} {event : TransitionEvent} (hc : c.status = .authorized)
    (hevent : event = .completeOrder ∨ event = .failPayment)
    (hactor : context.actorType = "system") :
    ¬transition (.checkout c) event context w = .error e w' := by
  rcases hevent with rfl | rfl
  · refine transition_checkout_total (s := .completed) (by rw [hc]; rfl) rfl ⟨rfl, rfl, rfl⟩ ?_ rfl
    rw [hactor]; decide
  · refine transition_checkout_total (s := .paymentFailed) (by rw [hc]; rfl) rfl ⟨rfl, rfl, rfl⟩ ?_
      rfl
    rw [hactor]; decide

section

variable {w w' : World} {id : String} {e : Failure} {u : Unit} {F : String → Purchase}
  {P : Purchase}

/-! ### A hold -/

theorem reserveStock_moved {env : Env} {offerId : String} {quantity : ℤ} {m : Option String}
    {r : Reservation} (h : w.db.Moved F id P)
    (hrun : Inventory.reserveStock env offerId id quantity m w = .ok r w') :
    r.status = .held ∧ w'.db.Moved F id (P.putHold r) := by
  simp only [Inventory.reserveStock, Inventory.reserve, Inventory.appendStockEvent,
    appendTransitionEvent, Table.updateReturning, Work.bind_eq_ok, query_eq_ok, update_eq_ok,
    raiseIf_eq_ok, ofAnswer_eq_ok, insert_eq_ok, flush_eq_ok, appendEvent_eq_ok, Work.pure_eq_ok,
    Option.map_eq_some_iff] at hrun
  obtain ⟨_, _, ⟨_, rfl⟩, _, _, ⟨_, _, ⟨rfl, rfl⟩, _, _, rfl, rfl, rfl⟩, _, _, ⟨_, rfl⟩, _, _,
    ⟨_, ⟨_, hins, rfl⟩, rfl⟩, _, _, ⟨_, rfl⟩, _, _, ⟨_, _, ⟨rfl, rfl⟩, rfl⟩, rfl, rfl⟩ := hrun
  exact ⟨rfl, h.putHold rfl hins⟩

/-! ### The end of a hold -/

/-- Ending a hold that is there moves the purchase it belongs to. -/
theorem settle_moved {r : Reservation} {leave : Reservation → Reservation}
    {take : ℤ → Inventory → Inventory} {hleave : ∀ r, Keyed.key (leave r) = Keyed.key r}
    {htake : ∀ q i, Keyed.key (take q i) = Keyed.key i} {b : Bool} (h : w.db.Moved F id P)
    (hr : P.reservation = some r) (hs : r.status = .held)
    (hrun : Inventory.settle r.reservationId leave take hleave htake w = .ok b w') :
    w'.db.Moved F id (P.mapHold leave) := by
  rw [← h.at_self] at hr
  obtain ⟨hmem, -⟩ := mem_reservations.2 hr
  have hfirst : w.db.reservations.first
      (fun x => x.reservationId == r.reservationId && x.status == .held) = some r := by
    refine Table.first_of_mem hmem (by simp [hs]) fun x hx hp => ?_
    simp only [Bool.and_eq_true, beq_iff_eq] at hp
    exact Table.eq_of_clash hx hmem (by simp [clashes, Keyed.clash, Keyed.key, hp.1])
  simp only [Inventory.settle, Table.updateReturning, Work.bind_eq_ok, query_eq_ok, update_eq_ok]
    at hrun
  obtain ⟨_, _, ⟨rfl, rfl⟩, _, _, rfl, hrun⟩ := hrun
  rw [hfirst] at hrun
  simp only [Option.map_some, Work.bind_eq_ok, query_eq_ok, update_eq_ok, Work.pure_eq_ok] at hrun
  obtain ⟨_, _, ⟨rfl, rfl⟩, _, _, rfl, -, rfl⟩ := hrun
  rw [← h.at_self]
  exact h.next (purchase_modifyHold (h := hleave) hr hs)

theorem settle_error {reservationId : String} {leave : Reservation → Reservation}
    {take : ℤ → Inventory → Inventory} {hleave : ∀ r, Keyed.key (leave r) = Keyed.key r}
    {htake : ∀ q i, Keyed.key (take q i) = Keyed.key i} :
    ¬Inventory.settle reservationId leave take hleave htake w = .error e w' := by
  intro h
  simp only [Inventory.settle, Table.updateReturning, Work.bind_eq_error, query_eq_error,
    query_eq_ok, update_eq_error, update_eq_ok, false_or] at h
  obtain ⟨_, _, ⟨rfl, rfl⟩, _, _, rfl, h⟩ := h
  cases hfirst : w.db.reservations.first
      (fun r => r.reservationId == reservationId && r.status == .held) with
  | none => rw [hfirst] at h; exact Work.pure_eq_error.1 h
  | some r =>
      rw [hfirst] at h
      simp only [Option.map_some, Work.bind_eq_error, query_eq_error, query_eq_ok, update_eq_error,
        Work.pure_eq_error, and_false, exists_false, or_false] at h

theorem release_moved {env : Env} {r : Reservation} {b : Bool} (h : w.db.Moved F id P)
    (hr : P.reservation = some r) (hs : r.status = .held)
    (hrun : Inventory.release env.now r.reservationId w = .ok b w') :
    w'.db.Moved F id (P.mapHold (Reservation.release env.now)) := by
  have hw' := settle_moved h hr hs hrun
  rwa [P.mapHold_congr hr (Reservation.release_of_held hs)] at hw'

theorem commit_moved {env : Env} {r : Reservation} {b : Bool} (h : w.db.Moved F id P)
    (hr : P.reservation = some r) (hs : r.status = .held)
    (hrun : Inventory.commit env.now r.reservationId w = .ok b w') :
    w'.db.Moved F id (P.mapHold (Reservation.commit env.now)) := by
  have hw' := settle_moved h hr hs hrun
  rwa [P.mapHold_congr hr (Reservation.commit_of_held hs)] at hw'

/-- The purchase of a checkout whose hold is released. -/
theorem releaseStock_moved {env : Env} {m : Option String} (h : w.db.Moved F id P)
    (hrun : Inventory.releaseStock env id m w = .ok u w') :
    w'.db.Moved F id (P.mapHold (Reservation.release env.now)) := by
  simp only [Inventory.releaseStock, Inventory.assertCheckoutTenant, Work.bind_eq_ok, query_eq_ok,
    raiseIf_eq_ok] at hrun
  obtain ⟨_, _, ⟨_, _, ⟨rfl, rfl⟩, _, rfl⟩, found, _, ⟨hfound, rfl⟩, hrun⟩ := hrun
  have hr : P.reservation = found := by rw [← h.at_self]; exact hfound
  cases found with
  | none =>
    obtain ⟨_, rfl⟩ := Work.pure_eq_ok.1 hrun
    rwa [P.mapHold_none hr]
  | some r =>
    simp only at hrun
    split_ifs at hrun with hs
    · obtain ⟨_, rfl⟩ := Work.pure_eq_ok.1 hrun
      rwa [P.mapHold_self hr (by rw [Reservation.release, if_neg hs])]
    · simp only [Work.bind_eq_ok] at hrun
      obtain ⟨b, v, hrel, hrun⟩ := hrun
      have hv := release_moved h hr (not_not.1 hs) hrel
      rw [unlessTrue] at hrun
      split_ifs at hrun
      · obtain ⟨_, rfl⟩ := Work.pure_eq_ok.1 hrun
        exact hv
      · simp only [Inventory.appendStockEvent, appendTransitionEvent, Work.bind_eq_ok, query_eq_ok,
          appendEvent_eq_ok] at hrun
        obtain ⟨_, _, ⟨rfl, rfl⟩, rfl⟩ := hrun
        exact hv

/-- A checkout is no foreign one to its own merchant. -/
theorem foreignCheckout_own {m : String} {c : Checkout} (h : w.db.Moved F id P)
    (hc : P.checkout = some c) (hm : c.merchantId = m) :
    Inventory.foreignCheckout id (some m) w.db = false := by
  have hfound : w.db.checkoutById id = some c := by rw [← h.at_self] at hc; exact hc
  simp [Inventory.foreignCheckout, hfound, hm]

/-- A refused release leaves the store alone, and is about another merchant. -/
theorem releaseStock_error {env : Env} {m : Option String}
    (hrun : Inventory.releaseStock env id m w = .error e w') :
    w' = w ∧ Inventory.foreignCheckout id m w.db = true := by
  simp only [Inventory.releaseStock, Inventory.assertCheckoutTenant, Work.bind_eq_error,
    Work.bind_eq_ok, query_eq_ok, query_eq_error, raiseIf_eq_error, raiseIf_eq_ok, false_or] at hrun
  rcases hrun with ⟨_, _, ⟨rfl, rfl⟩, hforeign, _, rfl⟩ |
    ⟨_, _, ⟨_, _, ⟨rfl, rfl⟩, _, rfl⟩, found, _, ⟨rfl, rfl⟩, hrun⟩
  · exact ⟨rfl, hforeign⟩
  · exfalso
    cases hfound : Inventory.getReservation id w.db with
    | none => rw [hfound] at hrun; exact Work.pure_eq_error.1 hrun
    | some r =>
      rw [hfound] at hrun
      simp only at hrun
      split_ifs at hrun
      · exact Work.pure_eq_error.1 hrun
      · simp only [Work.bind_eq_error] at hrun
        rcases hrun with hrun | ⟨_, _, _, hrun⟩
        · exact settle_error hrun
        · rw [unlessTrue] at hrun
          split_ifs at hrun
          · exact Work.pure_eq_error.1 hrun
          · simp [Inventory.appendStockEvent, appendTransitionEvent] at hrun

/-- The purchase of a checkout whose hold is committed. -/
theorem commitStock_moved {env : Env} {m : Option String} (h : w.db.Moved F id P)
    (hrun : Inventory.commitStock env id m w = .ok u w') :
    w'.db.Moved F id (P.mapHold (Reservation.commit env.now)) := by
  simp only [Inventory.commitStock, Inventory.assertCheckoutTenant, Work.bind_eq_ok, query_eq_ok,
    require_eq_ok, raiseIf_eq_ok] at hrun
  obtain ⟨_, _, ⟨_, _, ⟨rfl, rfl⟩, _, rfl⟩, r, _, ⟨hfound, rfl⟩, hrun⟩ := hrun
  have hr : P.reservation = some r := by rw [← h.at_self]; exact hfound
  split_ifs at hrun with hcommitted
  · obtain ⟨_, rfl⟩ := Work.pure_eq_ok.1 hrun
    rwa [P.mapHold_self hr (by rw [Reservation.commit, hcommitted, if_neg (by rintro ⟨⟩)])]
  · simp only [Inventory.appendStockEvent, appendTransitionEvent, Work.bind_eq_ok, raiseIf_eq_ok,
      query_eq_ok, appendEvent_eq_ok] at hrun
    obtain ⟨_, _, ⟨hs, rfl⟩, b, _, hcommit, _, _, ⟨_, rfl⟩, _, _, ⟨rfl, rfl⟩, rfl⟩ := hrun
    exact (commit_moved h hr (not_not.1 hs) hcommit).silent rfl

/-- A refused commit of a hold of the checkout's own merchant has committed it: the
second statement matched no row. -/
theorem commitStock_error {env : Env} {m : String} {c : Checkout} {r : Reservation}
    (h : w.db.Moved F id P) (hc : P.checkout = some c) (hm : c.merchantId = m)
    (hr : P.reservation = some r) (hs : r.status = .held)
    (hrun : Inventory.commitStock env id (some m) w = .error e w') :
    w'.db.Moved F id (P.mapHold (Reservation.commit env.now)) := by
  have htenant := foreignCheckout_own h hc hm
  have hfound : Inventory.getReservation id w.db = some r := by rw [← h.at_self] at hr; exact hr
  have hne : r.status ≠ .committed := by rw [hs]; rintro ⟨⟩
  simp only [Inventory.commitStock, Inventory.assertCheckoutTenant, Work.bind_eq_error,
    Work.bind_eq_ok, query_eq_ok, query_eq_error, require_eq_ok, require_eq_error, raiseIf_eq_error,
    raiseIf_eq_ok, false_or] at hrun
  rcases hrun with ⟨_, _, ⟨rfl, rfl⟩, hforeign, _⟩ | ⟨_, _, ⟨_, _, ⟨rfl, rfl⟩, _, rfl⟩, hrun⟩
  · rw [htenant] at hforeign
    cases hforeign
  · rcases hrun with ⟨hno, _⟩ | ⟨_, _, ⟨hsome, rfl⟩, hrun⟩
    · cases hfound.symm.trans hno
    · obtain rfl := Option.some.inj (hfound.symm.trans hsome)
      rw [if_neg hne] at hrun
      simp only [Inventory.appendStockEvent, appendTransitionEvent, Work.bind_eq_error,
        raiseIf_eq_ok, raiseIf_eq_error, query_eq_error, appendEvent_eq_error, and_false,
        exists_false, or_false] at hrun
      rcases hrun with ⟨hs', _⟩ | ⟨_, _, ⟨_, rfl⟩, hrun⟩
      · exact absurd hs hs'
      · rcases hrun with hrun | ⟨b, v, hcommit, _, _, rfl⟩
        · exact absurd hrun settle_error
        · exact commit_moved h hr hs hcommit

end

end AgenticCommerce
