/-
# Pending payments and their stock

A payment that waits at the provider should keep its stock, but `createPayment` leaves
the checkout `authorized`, and whatever closes an authorized checkout never looks at its
payments.  `EndsOnly` says which checkouts an operation can have cancelled or expired; the
rejection of an authorization ends none that was paid for, since the payment has consumed
it, so what is left is a cancellation by the buyer and the sweep.  In a run that spares the
checkouts with an open payment (`Operation.Spares`) no purchase is dropped, and every
pending payment keeps its stock (`pending_keeps_stock`).
-/

import AgenticCommerce.Lifecycle.Laws
import AgenticCommerce.Lifecycle.Transits

namespace AgenticCommerce

open Relational Work

/-! ### Which checkouts end -/

/-- The checkouts that are cancelled or expired were so before, or are those of `ended`. -/
def Database.EndsOnly (ended : String → Prop) (db db' : Database) : Prop :=
  ∀ c' ∈ db'.checkouts, c'.status.Over →
    ended c'.checkoutId ∨ ∃ c ∈ db.checkouts, c.checkoutId = c'.checkoutId ∧ c.status.Over

/-- Every payment was there before. -/
def Database.PaymentsFrom (db db' : Database) : Prop :=
  ∀ p' ∈ db'.payments, ∃ p ∈ db.payments, p.paymentId = p'.paymentId ∧ p.checkoutId = p'.checkoutId

/-- Only a closing event leads to an end. -/
theorem closes_of_over {event : TransitionEvent} {context : TransitionContext}
    {source : RuleState} {rule : TransitionRule} {s : CheckoutStatus}
    (hvalid : validate source event context = .ok rule)
    (hs : CheckoutStatus.ofCanonical? rule.target = some s) (hover : s.Over) :
    event.closes = true := by
  have hall : ∀ rule ∈ transitions, rule.event.closes = false →
      CheckoutStatus.ofCanonical? rule.target ≠ some .cancelled ∧
        CheckoutStatus.ofCanonical? rule.target ≠ some .expired := by decide
  have hrule := (validate_eq_ok hvalid).1
  have hmatch := List.find?_some hrule
  simp only [Bool.and_eq_true, decide_eq_true_eq] at hmatch
  by_contra hopen
  have hopen' : rule.event.closes = false := by
    rw [hmatch.2]
    exact Bool.eq_false_iff.2 hopen
  obtain ⟨hcancelled, hexpired⟩ := hall rule (List.mem_of_find?_eq_some hrule) hopen'
  rcases hover with rfl | rfl
  · exact hcancelled hs
  · exact hexpired hs

namespace Database

section

variable {ended : String → Prop} {db db' : Database}

instance : IsPreorder Database (EndsOnly ended) where
  refl _ c hc hover := .inr ⟨c, hc, rfl, hover⟩
  trans _ _ _ h h' c hc hover := by
    rcases h' c hc hover with hended | ⟨d, hd, hid, hover'⟩
    · exact .inl hended
    · rcases h d hd hover' with hended | ⟨b, hb, hbid, hover''⟩
      · exact .inl (hid ▸ hended)
      · exact .inr ⟨b, hb, hbid.trans hid, hover''⟩

theorem EndsOnly.of_eq (h : db'.checkouts = db.checkouts) : db.EndsOnly ended db' := by
  intro c hc hover
  rw [h] at hc
  exact .inr ⟨c, hc, rfl, hover⟩

instance : BooksFrame (EndsOnly ended) :=
  ⟨fun _ _ _ _ _ _ => .of_eq rfl, fun _ _ _ => .of_eq rfl⟩
instance : RecordsFrame (EndsOnly ended) := ⟨fun _ _ => .of_eq rfl⟩
instance : CallbackFrame (EndsOnly ended) := ⟨fun _ _ _ => .of_eq rfl⟩
instance : AttemptFrame (EndsOnly ended) := ⟨fun _ _ _ _ _ => .of_eq rfl, fun _ _ _ _ _ => .of_eq rfl⟩
instance : AuthorizationFrame (EndsOnly ended) :=
  ⟨fun _ _ _ _ _ => .of_eq rfl, fun _ _ _ _ => .of_eq rfl, fun _ _ _ _ _ => .of_eq rfl⟩

instance : CheckoutFrame (EndsOnly ended) where
  opening db c t hs ht c' hc' hover := by
    rcases (Table.mem_insert ht).1 hc' with hc' | rfl
    · exact .inr ⟨c', hc', rfl, hover⟩
    · rw [hs] at hover
      rcases hover with hover | hover <;> exact nomatch hover

instance : TransitFrame (fun c _ => ended c.checkoutId) (EndsOnly ended) where
  transit db db' aggregate event context rule hclosable hcurrent hvalid hset := by
    cases aggregate with
    | payment p =>
        obtain ⟨s, -, rfl⟩ := Option.map_eq_some_iff.1 hset
        exact .of_eq rfl
    | checkout c =>
        obtain ⟨s, hs, rfl⟩ := Option.map_eq_some_iff.1 hset
        intro c' hc' hover
        have hc'' : c' ∈ (db.setCheckoutStatus c.checkoutId s).checkouts := hc'
        rw [setCheckoutStatus, Table.mem_modify] at hc''
        obtain ⟨d, hd, rfl⟩ := hc''
        by_cases hid : (d.checkoutId == c.checkoutId) = true
        · rw [if_pos hid] at hover ⊢
          have hended := hclosable c rfl (closes_of_over hvalid hs hover)
          exact .inl ((beq_iff_eq.1 hid).symm ▸ hended)
        · rw [if_neg hid] at hover ⊢
          exact .inr ⟨d, hd, rfl, hover⟩

end

instance : IsPreorder Database PaymentsFrom where
  refl _ p hp := ⟨p, hp, rfl, rfl⟩
  trans _ _ _ h h' p hp := by
    obtain ⟨q, hq, hqid, hqc⟩ := h' p hp
    obtain ⟨r, hr, hrid, hrc⟩ := h q hq
    exact ⟨r, hr, hrid.trans hqid, hrc.trans hqc⟩

theorem PaymentsFrom.of_eq {db db' : Database} (h : db'.payments = db.payments) :
    db.PaymentsFrom db' := by
  intro p hp
  rw [h] at hp
  exact ⟨p, hp, rfl, rfl⟩

instance : BooksFrame PaymentsFrom := ⟨fun _ _ _ _ _ _ => .of_eq rfl, fun _ _ _ => .of_eq rfl⟩
instance : AuthorizationFrame PaymentsFrom :=
  ⟨fun _ _ _ _ _ => .of_eq rfl, fun _ _ _ _ => .of_eq rfl, fun _ _ _ _ _ => .of_eq rfl⟩

instance : TransitionFrame PaymentsFrom where
  checkout _ _ _ _ _ _ := .of_eq rfl
  payment db id s _ _ p hp := by
    have hp' : p ∈ (db.setPaymentStatus id s).payments := hp
    rw [setPaymentStatus, Table.mem_modify] at hp'
    obtain ⟨q, hq, rfl⟩ := hp'
    refine ⟨q, hq, ?_, ?_⟩ <;> split_ifs <;> rfl

end Database

/-! ### Which purchases are dropped -/

/-- A purchase that is settled or closed is never dropped. -/
theorem Phase.Leads.dropped {ph : Phase} (h : ph.Leads .dropped) :
    ph ≠ .captured ∧ ph ≠ .completed ∧ ph ≠ .failed ∧ ph ≠ .closed := by
  have hstays : ∀ s t : Phase, (s = .captured ∨ s = .completed ∨ s = .failed ∨ s = .closed) →
      s.Edge t → t = .captured ∨ t = .completed ∨ t = .failed ∨ t = .closed := by
    rintro s t (rfl | rfl | rfl | rfl) hedge <;> cases hedge
    exact .inr (.inl rfl)
  by_contra hsettled
  have hph : ph = .captured ∨ ph = .completed ∨ ph = .failed ∨ ph = .closed := by
    by_contra hno
    push Not at hno
    exact hsettled hno
  rcases invariant_of_steps hstays hph h with h | h | h | h <;> exact nomatch h

namespace Purchase

variable {P : Purchase} {ph : Phase} {c : Checkout} {p : Payment}

/-- A checkout that is over is closed or dropped. -/
theorem At.over (h : P.At ph) (hc : P.checkout = some c) (hover : c.status.Over) :
    ph = .closed ∨ ph = .dropped := by
  cases h with
  | closed => exact .inl rfl
  | dropped => exact .inr rfl
  | absent rows => subst rows; exact nomatch hc
  | opened rows hcs | pending rows hcs | authorized rows hcs | paying rows hcs
  | captured rows hcs | completed rows hcs | failed rows hcs =>
      subst rows
      obtain rfl := Option.some.inj hc
      rcases hover with hover | hover <;> rw [hcs] at hover <;> exact (nomatch hover)

/-- A purchase with a payment that can still be dropped, and is not, waits for the
provider. -/
theorem At.paying_of_leads (h : P.At ph) (hne : ph ≠ .dropped) (hleads : ph.Leads .dropped)
    (hp : p ∈ P.payments) : p.status = .pending := by
  obtain ⟨hcaptured, hcompleted, hfailed, hclosed⟩ := hleads.dropped
  cases h with
  | absent rows | opened rows | pending rows | authorized rows =>
      subst rows
      exact absurd hp List.not_mem_nil
  | paying rows _ _ _ _ hps =>
      subst rows
      obtain rfl := List.mem_singleton.1 hp
      exact hps
  | captured => exact absurd rfl hcaptured
  | completed => exact absurd rfl hcompleted
  | failed => exact absurd rfl hfailed
  | closed => exact absurd rfl hclosed
  | dropped => exact absurd rfl hne

end Purchase

/-! ### The steps that spare open payments -/

/-- A payment that is neither verified nor failed. -/
def Payment.Open (p : Payment) : Prop := p.status ≠ .verified ∧ p.status ≠ .failed

/-- A payment that is pending at the provider. -/
def Payment.AtProvider (p : Payment) : Prop := p.providerOrderId ≠ none ∧ p.Open

/-- A payment that is pending at the provider has its checkout, which is neither cancelled
nor expired, and its stock is held. -/
def Database.KeepsStock (db : Database) : Prop :=
  ∀ p ∈ db.payments, p.AtProvider → ∃ c ∈ db.checkouts, ∃ r ∈ db.reservations,
    c.checkoutId = p.checkoutId ∧ r.checkoutId = p.checkoutId ∧
      c.status ≠ .cancelled ∧ c.status ≠ .expired ∧ r.status = .held

namespace Operation

/-- The checkouts that an operation can have cancelled or expired. -/
def Ends (env : Env) (db : Database) : Operation → String → Prop
  | cancelCheckout b m checkoutId, id =>
      ∃ c, db.checkoutOf m b checkoutId = some c ∧ c.checkoutId = id
  | rejectAuthorization _ _ authorizationId, id => ∃ a ∈ db.authorizations,
      a.authorizationId = authorizationId ∧ a.status ≠ .consumed ∧ a.checkoutId = id
  | sweepExpiredCheckouts, id => id ∈ Worker.expiredCheckouts env.now db
  | _, _ => False

/-- A cancellation is not of a checkout with an open payment, and no such checkout is due
when the sweep runs. -/
def Spares (env : Env) (db : Database) : Operation → Prop
  | cancelCheckout b m id => ∀ p ∈ db.payments, p.Open → p.checkoutId = id →
      db.checkoutOf m b id = none
  | sweepExpiredCheckouts => ∀ p ∈ db.payments, p.Open →
      p.checkoutId ∉ Worker.expiredCheckouts env.now db
  | _ => True

variable {env : Env} {w : World}

/-- **Which checkouts an operation ends.** -/
theorem endsOnly (op : Operation) :
    w.db.EndsOnly (op.Ends env w.db) (op.run env w).db := by
  refine op.transits_of (fun c _ => op.Ends env w.db c.checkoutId)
    (fun _ _ _ _ _ _ _ _ => .of_eq rfl)
    (fun _ _ _ _ _ => .of_eq rfl) ?_ ?_ ?_
  · rintro b m id rfl c hc
    exact ⟨c, hc, rfl⟩
  · rintro b m id rfl a ha hid hconsumed c hc
    exact ⟨a, ha, hid, hconsumed, hc.symm⟩
  · rintro rfl c - hdue
    exact hdue

/-- What ends checkouts adds no payment. -/
theorem paymentsFrom_of_ends {op : Operation} {id : String} (h : op.Ends env w.db id) :
    w.db.PaymentsFrom (op.run env w).db := by
  cases op with
  | cancelCheckout => exact request_moves (C := Anything) (.of cancelCheckout_frame) w
  | rejectAuthorization => exact request_moves (C := Anything) rejectAuthorization_returns w
  | sweepExpiredCheckouts => exact request_moves (C := Anything) (.of sweepExpiredCheckouts_frame) w
  | _ => exact h.elim

end Operation

/-- A step that spares the checkouts with an open payment. -/
def SparingStep (w w' : World) : Prop := ∃ env op, op.Spares env w.db ∧ w' = Operation.run env w op

/-- Every purchase is in some phase, and none is dropped. -/
def Database.Undropped (db : Database) : Prop := ∀ id, ∃ ph, ph ≠ .dropped ∧ (db.purchase id).At ph

theorem Database.Undropped.coherent {db : Database} (h : db.Undropped) : db.Coherent := fun id => by
  obtain ⟨ph, -, hat⟩ := h id
  exact ⟨ph, hat⟩

/-- **A step that spares open payments drops no purchase.** -/
theorem Database.Undropped.run {env : Env} {w : World} {op : Operation} (h : w.db.Undropped)
    (hspares : op.Spares env w.db) : (op.run env w).db.Undropped := by
  intro id
  obtain ⟨ph, hne, hat⟩ := h id
  have hadvances : w.db.Advances env.now (op.run env w).db := op.advances h.coherent
  obtain ⟨ph', hleads, hat', -⟩ := hadvances id ph hat
  refine ⟨ph', fun hdropped => ?_, hat'⟩
  subst hdropped
  obtain ⟨c', r', a', p', hrows, hover⟩ : ∃ c' r' a' p', (op.run env w).db.purchase id =
      { checkout := some c', reservation := some r', authorization := some a', payments := [p'] } ∧
        c'.status.Over := by
    cases hat' with
    | dropped rows hover => exact ⟨_, _, _, _, rows, hover⟩
  obtain ⟨hc', hcid⟩ := mem_checkouts.2 (congrArg Purchase.checkout hrows)
  have hp' : p' ∈ (op.run env w).db.payments ∧ p'.checkoutId = id :=
    mem_payments.2 (by rw [hrows]; exact List.mem_singleton.2 rfl)
  have hends : w.db.EndsOnly (op.Ends env w.db) (op.run env w).db := op.endsOnly
  rcases hends c' hc' hover with hends | ⟨c, hc, hsame, hover⟩
  · -- the payment was open before, so the step did not spare it
    rw [hcid] at hends
    obtain ⟨p, hp, -, hpid⟩ := Operation.paymentsFrom_of_ends hends p' hp'.1
    have hmem := mem_payments.1 ⟨hp, hpid.trans hp'.2⟩
    have hpending := hat.paying_of_leads hne hleads hmem
    have hopen : p.Open := by
      rw [Payment.Open, hpending]
      exact ⟨nofun, nofun⟩
    cases op with
    | cancelCheckout b m checkoutId =>
        obtain ⟨c, hc, rfl⟩ := hends
        have hcheckout : c.checkoutId = checkoutId := (mem_checkouts.2 (checkoutOf_eq_some hc).1).2
        have hnone := hspares p hp hopen ((hpid.trans hp'.2).trans hcheckout)
        exact nomatch hnone.symm.trans hc
    | rejectAuthorization =>
        obtain ⟨a, ha, -, hconsumed, haid⟩ := hends
        obtain ⟨-, _, b, -, hb, hbconsumed, -⟩ := hat.payment_backed hmem
        obtain rfl : a = b := Option.some.inj ((mem_authorizations.1 ⟨ha, haid⟩).symm.trans hb)
        exact hconsumed hbconsumed
    | sweepExpiredCheckouts => exact hspares p hp hopen ((hpid.trans hp'.2).symm ▸ hends)
    | _ => exact hends
  · have hfound := mem_checkouts.1 ⟨hc, hsame.trans hcid⟩
    rcases hat.over hfound hover with rfl | rfl
    · exact hleads.dropped.2.2.2 rfl
    · exact hne rfl

theorem Unsold.undropped {db : Database} (h : Unsold db) : db.Undropped := fun id => by
  obtain ⟨ph, hat⟩ := h.coherent id
  refine ⟨ph, fun hdropped => ?_, hat⟩
  subst hdropped
  cases hat with
  | dropped rows =>
      have hc := (mem_checkouts.2 (congrArg Purchase.checkout rows)).1
      rw [Table.mem_def, h.1] at hc
      exact absurd hc List.not_mem_nil

/-- Where no purchase is dropped, pending payments keep their stock. -/
theorem Database.Undropped.keepsStock {db : Database} (h : db.Undropped) : db.KeepsStock := by
  intro p hp hpending
  obtain ⟨ph, hne, hat⟩ := h p.checkoutId
  have hmem := mem_payments.1 ⟨hp, rfl⟩
  obtain ⟨-, c, -, hc, -⟩ := hat.payment_backed hmem
  have hstatus : p.status = .pending := by
    rcases hat.payment_status hmem with hs | hs | hs
    · exact hs
    · exact absurd hs hpending.2.1
    · exact absurd hs hpending.2.2
  obtain ⟨hcmem, hcid⟩ := mem_checkouts.2 hc
  rcases hat.payment_pending hc hmem hstatus with ⟨hauthorized, r, hr, hheld⟩ | hover
  · obtain ⟨hrmem, hrid⟩ := mem_reservations.2 hr
    refine ⟨c, hcmem, r, hrmem, hcid, hrid, ?_, ?_, hheld⟩ <;> rw [hauthorized] <;> exact nofun
  · rcases hat.over hc hover with rfl | rfl
    · cases hat with
      | closed rows => rw [rows] at hmem; exact absurd hmem List.not_mem_nil
    · exact absurd rfl hne

/-- **Pending payments keep their stock**, in every state of every run whose steps spare
the checkouts with an open payment. -/
theorem pending_keeps_stock {w₀ w : World} (h₀ : Unsold w₀.db)
    (hrun : Relation.ReflTransGen SparingStep w₀ w) : w.db.KeepsStock := by
  have hundropped : w.db.Undropped := by
    refine invariant_of_steps (I := fun w : World => w.db.Undropped) ?_ h₀.undropped hrun
    rintro u v hu ⟨env, op, hspares, rfl⟩
    exact hu.run hspares
  exact hundropped.keepsStock

/-! ### The shop -/

/-- The buyer cancels while the payment is pending. -/
def cancelledPending : World :=
  (Operation.cancelCheckout "byr" "mer" "chk").run shopEnv paymentPending

/-- The sweep runs while the payment is pending, before the checkout's deadline. -/
def sweptPending : World := Operation.sweepExpiredCheckouts.run shopEnv paymentPending

theorem pending_keeps_stock_sweptPending :
    (∃ p ∈ sweptPending.db.payments.rows, p.providerOrderId = some "order_1" ∧
      p.status = .pending) ∧ sweptPending.db.KeepsStock := by
  have hrun : Relation.ReflTransGen SparingStep openShop sweptPending := by
    refine (((Relation.ReflTransGen.single ⟨shopEnv, .createCheckout "byr" "mer" "ofr" 2 15,
      trivial, rfl⟩).tail ⟨shopEnv, .requestAuthorization "byr" "mer" "chk" 15, trivial, rfl⟩).tail
      ⟨shopEnv, .createPayment "byr" "mer" "chk" "ath" none, trivial, rfl⟩).tail
      ⟨shopEnv, .sweepExpiredCheckouts, fun p _ _ hdue => ?_, rfl⟩
    have hnone : Worker.expiredCheckouts shopEnv.now paymentPending.db = [] := by decide
    exact absurd hdue (hnone ▸ List.not_mem_nil)
  exact ⟨by decide, pending_keeps_stock openShop_unsold hrun⟩

/-- **A pending payment can lose its stock**: the buyer cancels its checkout. -/
theorem cancel_releases_pending_stock : ¬∀ w₀ w : World, Unsold w₀.db →
    Relation.ReflTransGen Step w₀ w → w.db.KeepsStock := by
  intro hclaim
  have hkeeps := hclaim openShop cancelledPending openShop_unsold
    (paymentPending_reached.tail ⟨shopEnv, _, rfl⟩)
  have hpending : ∃ p ∈ cancelledPending.db.payments.rows, p.providerOrderId = some "order_1" ∧
      p.status = .pending := by decide
  have hcancelled : ∀ c ∈ cancelledPending.db.checkouts.rows, c.status = .cancelled := by
    decide
  obtain ⟨p, hp, horder, hs⟩ := hpending
  have hatProvider : p.AtProvider := by
    rw [Payment.AtProvider, Payment.Open, horder, hs]
    exact ⟨nofun, nofun, nofun⟩
  obtain ⟨c, hc, -, -, -, -, hlive, -⟩ := hkeeps p hp hatProvider
  exact hlive (hcancelled c hc)

end AgenticCommerce
