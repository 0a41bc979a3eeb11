/-
# The moves of a purchase

What an operation may do to a purchase: `Purchase.Advances` takes every phase to a
phase it leads to, and a payment that the purchase did not have is created now.
The moves are the changes of rows the services make, each with the facts about the
rows that the services check before they make it.  A checkout's status and its
hold change in one move, although the code changes them in separate calls.
-/

import AgenticCommerce.Lifecycle.Purchase

namespace AgenticCommerce

/-- An update of a payment that leaves what was agreed alone. -/
def Payment.Keeps (f : Payment → Payment) : Prop :=
  ∀ p, (f p).paymentId = p.paymentId ∧ (f p).createdAt = p.createdAt ∧
    ∀ a c, p.Draws a c → (f p).Draws a c

theorem Payment.Keeps.comp {f g : Payment → Payment} (hf : Payment.Keeps f)
    (hg : Payment.Keeps g) : Payment.Keeps (g ∘ f) := fun p =>
  ⟨(hg _).1.trans (hf p).1, (hg _).2.1.trans (hf p).2.1,
    fun a c h => (hg _).2.2 a c ((hf p).2.2 a c h)⟩

namespace Purchase

/-- **A purchase moves along its phases**, and a payment it gains is created now. -/
def Advances (now : Time) (P P' : Purchase) : Prop :=
  ∀ ph, P.At ph → ∃ ph', ph.Leads ph' ∧ P'.At ph' ∧
    ∀ p' ∈ P'.payments, p'.createdAt = now ∨
      ∃ p ∈ P.payments, p.paymentId = p'.paymentId ∧ p.createdAt = p'.createdAt

variable {now : Time} {P P' P'' : Purchase} {c : Checkout} {a : Authorization} {p : Payment}

theorem Advances.refl (now : Time) (P : Purchase) : P.Advances now P :=
  fun ph h => ⟨ph, .refl ph, h, fun p hp => .inr ⟨p, hp, rfl, rfl⟩⟩

theorem Advances.trans (h : P.Advances now P') (h' : P'.Advances now P'') :
    P.Advances now P'' := by
  intro ph hat
  obtain ⟨ph', hleads, hat', hpay⟩ := h ph hat
  obtain ⟨ph'', hleads', hat'', hpay'⟩ := h' ph' hat'
  refine ⟨ph'', hleads.trans hleads', hat'', fun p'' hp'' => ?_⟩
  rcases hpay' p'' hp'' with hnow | ⟨p', hp', hid', htime'⟩
  · exact .inl hnow
  · rcases hpay p' hp' with hnow | ⟨p, hp, hid, htime⟩
    · exact .inl (htime'.symm.trans hnow)
    · exact .inr ⟨p, hp, hid.trans hid', htime.trans htime'⟩

/-- A purchase without payments. -/
theorem unpaid (h : P'.payments = []) : ∀ p' ∈ P'.payments, p'.createdAt = now ∨
    ∃ p ∈ P.payments, p.paymentId = p'.paymentId ∧ p.createdAt = p'.createdAt := by
  rw [h]
  exact fun _ hp => absurd hp List.not_mem_nil

theorem mapPayment_singleton {paymentId : String} {f : Payment → Payment}
    (hp : p.paymentId = paymentId) (hrows : P.payments = [p]) :
    (P.mapPayment paymentId f).payments = [f p] := by
  simp [mapPayment, hrows, hp]

/-- The payments of a purchase whose one payment is updated. -/
theorem kept {f : Payment → Payment} (hf : Payment.Keeps f) (hp : p ∈ P.payments) {p' : Payment}
    (hp' : p' ∈ [f p]) : p'.createdAt = now ∨
      ∃ q ∈ P.payments, q.paymentId = p'.paymentId ∧ q.createdAt = p'.createdAt := by
  obtain rfl := List.mem_singleton.1 hp'
  exact .inr ⟨p, hp, (hf p).1.symm, (hf p).2.1.symm⟩

/-! ### Up to the payment -/

/-- A checkout is stored, and its stock held. -/
theorem advances_open {r : Reservation} (hP : P.checkout = none) (hc : c.status = .created)
    (hr : r.status = .held) :
    P.Advances now ((P.putCheckout c).putHold r) := by
  intro ph hat
  obtain ⟨rfl, rfl⟩ := hat.checkout_eq_none hP
  exact ⟨.opened, Phase.Edge.create.leads, .opened rfl hc hr, unpaid rfl⟩

/-- A checkout is given an authorization, approved at once or left to the buyer. -/
theorem advances_request {s : CheckoutStatus} (hP : P.checkout = some c)
    (hc : c.status = .created ∨ c.status = .policyChecked) (hnone : P.authorization = none)
    (hbinds : a.Binds c)
    (hs : a.status = .approved ∧ s = .authorized ∨ a.status = .pending ∧ s = .authorizationPending) :
    P.Advances now ((P.putAuthorization a).setCheckout s) := by
  intro ph hat
  cases hat with
  | opened rows _ hr =>
      subst rows
      obtain rfl := Option.some.inj hP
      rcases hs with ⟨ha, rfl⟩ | ⟨ha, rfl⟩
      · exact ⟨.authorized, Phase.Edge.allow.leads, .authorized rfl rfl hr ha hbinds, unpaid rfl⟩
      · exact ⟨.pending, Phase.Edge.requireApproval.leads, .pending rfl rfl hr ha hbinds, unpaid rfl⟩
  | closed rows hcs =>
      subst rows
      obtain rfl := Option.some.inj hP
      rcases hcs with hcs | hcs <;> rw [hcs] at hc <;> exact (nomatch hc)
  | absent rows => subst rows; exact nomatch hP
  | _ rows => subst rows; exact nomatch hnone

/-- The buyer approves. -/
theorem advances_approve (hP : P.checkout = some c) (hc : c.status = .authorizationPending) :
    P.Advances now ((P.setAuthorization .approved).setCheckout .authorized) := by
  intro ph hat
  cases hat with
  | pending rows _ hr _ binds =>
      subst rows
      exact ⟨.authorized, Phase.Edge.approve.leads, .authorized rfl rfl hr rfl binds, unpaid rfl⟩
  | absent rows => subst rows; exact nomatch hP
  | closed rows hcs | dropped rows hcs =>
      subst rows
      obtain rfl := Option.some.inj hP
      rcases hcs with hcs | hcs <;> rw [hcs] at hc <;> exact (nomatch hc)
  | opened rows hcs | authorized rows hcs | paying rows hcs | captured rows hcs
  | completed rows hcs | failed rows hcs =>
      subst rows
      obtain rfl := Option.some.inj hP
      rw [hcs] at hc
      exact nomatch hc

/-- The hold ends and the checkout is cancelled or expired. -/
theorem advances_close {s : CheckoutStatus} {f : Reservation → Reservation}
    (hP : P.checkout = some c) (hc : c.status ≠ .completed ∧ c.status ≠ .paymentFailed)
    (hover : ¬c.status.Over) (hs : s.Over)
    (hf : ∀ r : Reservation, r.status = .held → (f r).status = .released) :
    P.Advances now ((P.setCheckout s).mapHold f) := by
  intro ph hat
  cases hat with
  | absent rows => subst rows; exact nomatch hP
  | opened rows _ hr =>
      subst rows
      exact ⟨.closed, Phase.Edge.closeOpened.leads,
        .closed rfl hs (hf _ hr) fun _ ha => absurd ha (Option.not_mem_none _), unpaid rfl⟩
  | pending rows _ hr auth =>
      subst rows
      refine ⟨.closed, Phase.Edge.closePending.leads,
        .closed rfl hs (hf _ hr) fun a ha => ?_, unpaid rfl⟩
      obtain rfl := Option.some.inj ha
      rw [auth]; decide
  | authorized rows _ hr auth =>
      subst rows
      refine ⟨.closed, Phase.Edge.closeAuthorized.leads,
        .closed rfl hs (hf _ hr) fun a ha => ?_, unpaid rfl⟩
      obtain rfl := Option.some.inj ha
      rw [auth]; decide
  | paying rows _ hr auth binds hp draws =>
      subst rows
      exact ⟨.dropped, Phase.Edge.drop.leads,
        .dropped rfl hs (hf _ hr) auth binds (.inl hp) draws, fun p hp => .inr ⟨p, hp, rfl, rfl⟩⟩
  | captured rows hcs | completed rows hcs =>
      subst rows
      obtain rfl := Option.some.inj hP
      exact absurd hcs hc.1
  | failed rows hcs =>
      subst rows
      obtain rfl := Option.some.inj hP
      exact absurd hcs hc.2
  | closed rows hcs | dropped rows hcs =>
      subst rows
      obtain rfl := Option.some.inj hP
      exact absurd hcs hover

/-- The buyer rejects: the authorization is over as well. -/
theorem advances_reject {f : Reservation → Reservation} (hP : P.checkout = some c)
    (hc : c.status = .authorizationPending ∨ c.status = .authorized ∨ c.status = .created)
    (ha : P.authorization = some a) (hauth : a.status ≠ .consumed)
    (hf : ∀ r : Reservation, r.status = .held → (f r).status = .released) :
    P.Advances now (((P.setAuthorization .rejected).setCheckout .cancelled).mapHold f) := by
  intro ph hat
  cases hat with
  | absent rows | opened rows => subst rows; exact nomatch ha
  | pending rows _ hr _ =>
      subst rows
      refine ⟨.closed, Phase.Edge.closePending.leads,
        .closed rfl (.inl rfl) (hf _ hr) fun a ha => ?_, unpaid rfl⟩
      obtain rfl := Option.some.inj ha
      exact fun h => AuthorizationStatus.noConfusion h
  | authorized rows _ hr _ =>
      subst rows
      refine ⟨.closed, Phase.Edge.closeAuthorized.leads,
        .closed rfl (.inl rfl) (hf _ hr) fun a ha => ?_, unpaid rfl⟩
      obtain rfl := Option.some.inj ha
      exact fun h => AuthorizationStatus.noConfusion h
  | paying rows _ _ auth | captured rows _ _ auth | completed rows _ _ auth
  | failed rows _ _ auth | dropped rows _ _ auth =>
      subst rows
      obtain rfl := Option.some.inj ha
      exact absurd auth hauth
  | closed rows hcs =>
      subst rows
      obtain rfl := Option.some.inj hP
      rcases hcs with hcs | hcs <;> rw [hcs] at hc <;> simp at hc

/-! ### From the payment on -/

/-- A payment is created under an approved authorization, which it consumes. -/
theorem advances_pay {p₀ : Payment} {f g : Payment → Payment} (hP : P.checkout = some c)
    (hover : ¬c.status.Over) (ha : P.authorization = some a) (hauth : a.status = .approved)
    (hkeep : Payment.Keeps f ∧ Payment.Keeps g) (hdraws : p₀.Draws a c)
    (hstatus : (g (f p₀)).status = .pending) (htime : p₀.createdAt = now) :
    P.Advances now
      ((((P.addPayment p₀).setAuthorization .consumed).mapPayment p₀.paymentId f).mapPayment
        p₀.paymentId g) := by
  intro ph hat
  cases hat with
  | absent rows | opened rows => subst rows; exact nomatch ha
  | pending rows _ _ auth =>
      subst rows
      obtain rfl := Option.some.inj ha
      rw [auth] at hauth
      exact nomatch hauth
  | @authorized _ c' r a' rows hcs hr _ binds =>
      subst rows
      obtain rfl : c' = c := Option.some.inj hP
      obtain rfl : a' = a := Option.some.inj ha
      have hf := hkeep.1 p₀
      have hg := hkeep.2 (f p₀)
      have hrows : mapPayment (mapPayment (setAuthorization
          { checkout := some c', reservation := some r, authorization := some a',
            payments := [p₀] } .consumed) p₀.paymentId f) p₀.paymentId g =
          { checkout := some c', reservation := some r,
            authorization := some { a' with status := .consumed }, payments := [g (f p₀)] } := by
        simp [mapPayment, setAuthorization, hf.1]
      refine ⟨.paying, Phase.Edge.pay.leads,
        .paying hrows hcs hr rfl binds hstatus (hg.2.2 _ _ (hf.2.2 _ _ hdraws)), fun p' hp' => ?_⟩
      change p' ∈ (mapPayment (mapPayment (setAuthorization
          { checkout := some c', reservation := some r, authorization := some a',
            payments := [p₀] } .consumed) p₀.paymentId f) p₀.paymentId g).payments at hp'
      rw [hrows] at hp'
      obtain rfl := List.mem_singleton.1 hp'
      exact .inl (hg.2.1.trans (hf.2.1.trans htime))
  | paying rows _ _ auth | captured rows _ _ auth | completed rows _ _ auth
  | failed rows _ _ auth | dropped rows _ _ auth =>
      subst rows
      obtain rfl := Option.some.inj ha
      rw [auth] at hauth
      exact nomatch hauth
  | closed rows hcs =>
      subst rows
      obtain rfl := Option.some.inj hP
      exact absurd hcs hover

/-- A payment is updated without a change of its status. -/
theorem advances_touch {f : Payment → Payment} (hp : p ∈ P.payments) (hkeep : Payment.Keeps f)
    (hstatus : (f p).status = p.status) :
    P.Advances now (P.mapPayment p.paymentId f) := by
  intro ph hat
  obtain ⟨hrows, -⟩ := hat.payment_backed hp
  have hpay : ∀ p' ∈ (P.mapPayment p.paymentId f).payments, p'.createdAt = now ∨
      ∃ q ∈ P.payments, q.paymentId = p'.paymentId ∧ q.createdAt = p'.createdAt := fun p' hp' => by
    rw [mapPayment_singleton rfl hrows] at hp'
    exact kept hkeep hp hp'
  refine ⟨ph, .refl ph, ?_, hpay⟩
  have hmap : P.mapPayment p.paymentId f = { P with payments := [f p] } :=
    Purchase.ext rfl rfl rfl (mapPayment_singleton rfl hrows) rfl
  have hdraws : ∀ a c, p.Draws a c → (f p).Draws a c := (hkeep p).2.2
  rw [hmap]
  cases hat with
  | absent rows | opened rows | pending rows | authorized rows | closed rows =>
      subst rows
      exact absurd hp List.not_mem_nil
  | paying rows hcs hr auth binds hps draws =>
      subst rows
      obtain rfl := List.mem_singleton.1 hp
      exact .paying rfl hcs hr auth binds (hstatus.trans hps) (hdraws _ _ draws)
  | captured rows hcs hr auth binds hps draws =>
      subst rows
      obtain rfl := List.mem_singleton.1 hp
      exact .captured rfl hcs hr auth binds (hstatus.trans hps) (hdraws _ _ draws)
  | completed rows hcs hr auth binds hps draws order =>
      subst rows
      obtain rfl := List.mem_singleton.1 hp
      exact .completed rfl hcs hr auth binds (hstatus.trans hps) (hdraws _ _ draws)
        ⟨order.1.trans (hkeep p).1.symm, order.2⟩
  | failed rows hcs hr auth binds hps draws =>
      subst rows
      obtain rfl := List.mem_singleton.1 hp
      exact .failed rfl hcs hr auth binds (hstatus.trans hps) (hdraws _ _ draws)
  | dropped rows hcs hr auth binds hps draws =>
      subst rows
      obtain rfl := List.mem_singleton.1 hp
      exact .dropped rfl hcs hr auth binds (hstatus.symm ▸ hps) (hdraws _ _ draws)

/-- Two updates of the one payment of a purchase. -/
theorem mapPayment_twice {f g : Payment → Payment} (hrows : P.payments = [p])
    (hf : Payment.Keeps f) :
    (P.mapPayment p.paymentId f).mapPayment p.paymentId g = { P with payments := [g (f p)] } := by
  refine Purchase.ext rfl rfl rfl ?_ rfl
  exact mapPayment_singleton (hf p).1 (mapPayment_singleton rfl hrows)

/-- A pending payment is verified, the checkout completed and its hold committed. -/
theorem advances_capture {f g : Payment → Payment} {k : Reservation → Reservation}
    (hP : P.checkout = some c) (hover : ¬c.status.Over) (hp : p ∈ P.payments)
    (hpending : p.status = .pending) (hkeep : Payment.Keeps f ∧ Payment.Keeps g)
    (hstatus : (g (f p)).status = .verified)
    (hk : ∀ r : Reservation, r.status = .held → (k r).status = .committed) :
    P.Advances now ((((P.mapPayment p.paymentId f).mapPayment p.paymentId g).setCheckout
      .completed).mapHold k) := by
  intro ph hat
  obtain ⟨hrows, -⟩ := hat.payment_backed hp
  have hgf : Payment.Keeps (g ∘ f) := hkeep.1.comp hkeep.2
  rw [mapPayment_twice hrows hkeep.1]
  cases hat with
  | absent rows | opened rows | pending rows | authorized rows | closed rows =>
      subst rows
      exact absurd hp List.not_mem_nil
  | paying rows _ hr auth binds _ draws =>
      subst rows
      obtain rfl := List.mem_singleton.1 hp
      exact ⟨.captured, Phase.Edge.capture.leads,
        .captured rfl rfl (hk _ hr) auth binds hstatus ((hgf _).2.2 _ _ draws),
        fun p' hp' => kept hgf hp hp'⟩
  | captured rows _ _ _ _ hps | completed rows _ _ _ _ hps | failed rows _ _ _ _ hps =>
      subst rows
      obtain rfl := List.mem_singleton.1 hp
      rw [hps] at hpending
      exact nomatch hpending
  | dropped rows hcs =>
      subst rows
      obtain rfl := Option.some.inj hP
      exact absurd hcs hover

/-- An order is stored for a verified payment. -/
theorem advances_confirm {o : Order} (hP : P.checkout = some c) (hnone : P.order = none)
    (hp : p ∈ P.payments) (hverified : p.status = .verified) (ho : o.paymentId = p.paymentId)
    (htotal : o.totalMinor = c.totalMinor) :
    P.Advances now (P.putOrder o) := by
  intro ph hat
  cases hat with
  | absent rows | opened rows | pending rows | authorized rows | closed rows =>
      subst rows
      exact absurd hp List.not_mem_nil
  | captured rows hcs hr auth binds hps draws =>
      subst rows
      obtain rfl := Option.some.inj hP
      obtain rfl := List.mem_singleton.1 hp
      exact ⟨.completed, Phase.Edge.confirm.leads,
        .completed rfl hcs hr auth binds hps draws ⟨ho, htotal⟩,
        fun p' hp' => .inr ⟨p', hp', rfl, rfl⟩⟩
  | completed rows => subst rows; exact nomatch hnone
  | paying rows _ _ _ _ hps | failed rows _ _ _ _ hps =>
      subst rows
      obtain rfl := List.mem_singleton.1 hp
      rw [hps] at hverified
      exact nomatch hverified
  | dropped rows _ _ _ _ hps =>
      subst rows
      obtain rfl := List.mem_singleton.1 hp
      rcases hps with hps | hps <;> rw [hps] at hverified <;> exact (nomatch hverified)

/-- A pending payment fails, its hold is released and its checkout failed. -/
theorem advances_fail {f g : Payment → Payment} {k : Reservation → Reservation}
    (hP : P.checkout = some c) (hover : ¬c.status.Over) (hp : p ∈ P.payments)
    (hpending : p.status = .pending) (hkeep : Payment.Keeps f ∧ Payment.Keeps g)
    (hstatus : (g (f p)).status = .failed)
    (hk : ∀ r : Reservation, r.status = .held → (k r).status = .released) :
    P.Advances now ((((P.mapPayment p.paymentId f).mapPayment p.paymentId g).mapHold
      k).setCheckout .paymentFailed) := by
  intro ph hat
  obtain ⟨hrows, -⟩ := hat.payment_backed hp
  have hgf : Payment.Keeps (g ∘ f) := hkeep.1.comp hkeep.2
  rw [mapPayment_twice hrows hkeep.1]
  cases hat with
  | absent rows | opened rows | pending rows | authorized rows | closed rows =>
      subst rows
      exact absurd hp List.not_mem_nil
  | paying rows _ hr auth binds _ draws =>
      subst rows
      obtain rfl := List.mem_singleton.1 hp
      exact ⟨.failed, Phase.Edge.fail.leads,
        .failed rfl rfl (hk _ hr) auth binds hstatus ((hgf _).2.2 _ _ draws),
        fun p' hp' => kept hgf hp hp'⟩
  | captured rows _ _ _ _ hps | completed rows _ _ _ _ hps | failed rows _ _ _ _ hps =>
      subst rows
      obtain rfl := List.mem_singleton.1 hp
      rw [hps] at hpending
      exact nomatch hpending
  | dropped rows hcs =>
      subst rows
      obtain rfl := Option.some.inj hP
      exact absurd hcs hover

/-- A pending payment of a cancelled or expired checkout fails. -/
theorem advances_failLate {f g : Payment → Payment} (hP : P.checkout = some c)
    (hover : c.status.Over) (hp : p ∈ P.payments) (hkeep : Payment.Keeps f ∧ Payment.Keeps g)
    (hstatus : (g (f p)).status = .failed) :
    P.Advances now ((P.mapPayment p.paymentId f).mapPayment p.paymentId g) := by
  intro ph hat
  obtain ⟨hrows, -⟩ := hat.payment_backed hp
  have hgf : Payment.Keeps (g ∘ f) := hkeep.1.comp hkeep.2
  rw [mapPayment_twice hrows hkeep.1]
  cases hat with
  | absent rows | opened rows | pending rows | authorized rows | closed rows =>
      subst rows
      exact absurd hp List.not_mem_nil
  | dropped rows hcs hr auth binds _ draws =>
      subst rows
      obtain rfl := List.mem_singleton.1 hp
      exact ⟨.dropped, .refl _,
        .dropped rfl hcs hr auth binds (.inr hstatus) ((hgf _).2.2 _ _ draws),
        fun p' hp' => kept hgf hp hp'⟩
  | paying rows hcs | captured rows hcs | completed rows hcs | failed rows hcs =>
      subst rows
      obtain rfl := Option.some.inj hP
      rcases hover with h | h <;> rw [hcs] at h <;> exact (nomatch h)

end Purchase
end AgenticCommerce
