/-
# The expiry guard

The rules of the transition table that expire an entity carry the same check as the
others: `validate` refuses a transition whose context has a deadline that is past.  For
an expiry that is the wrong way round, so an expiry is accepted exactly when the caller
leaves the deadline out or the one it gives is still ahead (`expire_accepted_iff`).  The
sweep leaves it out, and asks for checkouts past their deadline only, so what it expires
is overdue; `createPayment` hands the deadline over and is refused, always.  Over runs, a
step expires what it should and nothing else unless it asks for a payment of a checkout
that is overdue (`expiry_guarded_iff`).  The authorization service checks deadlines by
itself, the right way round, but what it marks is rolled back with the call that raises.
-/

import AgenticCommerce.Lifecycle.Laws
import AgenticCommerce.Lifecycle.Refusals
import AgenticCommerce.Lifecycle.Transits

namespace AgenticCommerce

open Relational Work

/-! ### The guard -/

/-- The events that expire a checkout or an authorization. -/
def TransitionEvent.expires (event : TransitionEvent) : Bool :=
  event = .expireCheckout || event = .expireAuthorization

section

variable {source : RuleState} {event : TransitionEvent} {context : TransitionContext}
  {rule : TransitionRule}

/-- **When an expiry is accepted**: no past deadline is handed over. -/
theorem expire_accepted_iff (hrule : findRule source event = some rule)
    (hexpires : event.expires = true) (hactor : context.actorType ∈ rule.actors) :
    (∃ r, validate source event context = .ok r) ↔ ∀ t ∈ context.expiresAt, context.now < t := by
  have hall : ∀ rule ∈ transitions, rule.event.expires = true → rule.requiredFields = [] ∧
      rule.checksPriceHash = false ∧ rule.checksAuthorization = false ∧
        rule.checksExpiry = true := by decide
  have hmatch := List.find?_some hrule
  simp only [Bool.and_eq_true, decide_eq_true_eq] at hmatch
  obtain ⟨hfields, hprice, hauth, hexpiry⟩ := hall rule (List.mem_of_find?_eq_some hrule)
    (by rw [hmatch.2]; exact hexpires)
  have hpast : context.pastExpiry = false ↔ ∀ t ∈ context.expiresAt, context.now < t := by
    unfold TransitionContext.pastExpiry
    cases context.expiresAt with
    | none => simp
    | some t => simp
  rw [← hpast]
  constructor
  · rintro ⟨r, hr⟩
    obtain ⟨hfound, -, hguard⟩ := validate_eq_ok hr
    obtain rfl := Option.some.inj (hrule.symm.trans hfound)
    exact hguard hexpiry
  · intro hahead
    exact ⟨rule, by simp [validate, hrule, hfields, hprice, hauth, hahead, hactor]⟩

/-- **When the guard is right** about an entity with a deadline: the deadline is past and
no past deadline is handed over, or it is not and a past one is. -/
theorem guard_right_iff (deadline : Time) (hrule : findRule source event = some rule)
    (hexpires : event.expires = true) (hactor : context.actorType ∈ rule.actors) :
    ((∃ r, validate source event context = .ok r) ↔ deadline ≤ context.now) ↔
      (deadline ≤ context.now ∧ ∀ t ∈ context.expiresAt, context.now < t) ∨
        (context.now < deadline ∧ ∃ t ∈ context.expiresAt, t ≤ context.now) := by
  rw [expire_accepted_iff hrule hexpires hactor]
  by_cases hdue : deadline ≤ context.now
  · have hnot : ¬context.now < deadline := not_lt.2 hdue
    simp only [hdue, hnot, iff_true, true_and, false_and, or_false]
  · have hahead : context.now < deadline := not_le.1 hdue
    simp only [hdue, hahead, iff_false, false_and, true_and, false_or, not_forall, not_lt,
      exists_prop]

end

/-! ### What a step expires -/

/-- A checkout is expired only when it was so before, or is overdue. -/
def Database.ExpiresOverdue (now : Time) (db db' : Database) : Prop :=
  ∀ c' ∈ db'.checkouts, c'.status = .expired → c'.expiresAt ≤ now ∨
    ∃ c ∈ db.checkouts, c' = { c with status := c'.status } ∧ c.status = .expired

namespace Database

section

variable {now : Time} {db db' : Database}

instance : IsPreorder Database (ExpiresOverdue now) where
  refl _ c hc hexpired := .inr ⟨c, hc, rfl, hexpired⟩
  trans _ _ _ h h' c'' hc'' hexpired := by
    rcases h' c'' hc'' hexpired with hdue | ⟨c', hc', hsame', hexpired'⟩
    · exact .inl hdue
    · rcases h c' hc' hexpired' with hdue | ⟨c, hc, hsame, hbefore⟩
      · refine .inl ?_
        rw [hsame']
        exact hdue
      · exact .inr ⟨c, hc, by rw [hsame', hsame], hbefore⟩

theorem ExpiresOverdue.of_eq (h : db'.checkouts = db.checkouts) : db.ExpiresOverdue now db' := by
  intro c hc hexpired
  rw [h] at hc
  exact .inr ⟨c, hc, rfl, hexpired⟩

instance : BooksFrame (ExpiresOverdue now) :=
  ⟨fun _ _ _ _ _ _ => .of_eq rfl, fun _ _ _ => .of_eq rfl⟩
instance : RecordsFrame (ExpiresOverdue now) := ⟨fun _ _ => .of_eq rfl⟩
instance : CallbackFrame (ExpiresOverdue now) := ⟨fun _ _ _ => .of_eq rfl⟩
instance : AttemptFrame (ExpiresOverdue now) :=
  ⟨fun _ _ _ _ _ => .of_eq rfl, fun _ _ _ _ _ => .of_eq rfl⟩
instance : AuthorizationFrame (ExpiresOverdue now) :=
  ⟨fun _ _ _ _ _ => .of_eq rfl, fun _ _ _ _ => .of_eq rfl, fun _ _ _ _ _ => .of_eq rfl⟩

instance : CheckoutFrame (ExpiresOverdue now) where
  opening db c t hs ht c' hc' hexpired := by
    rcases (Table.mem_insert ht).1 hc' with hc' | rfl
    · exact .inr ⟨c', hc', rfl, hexpired⟩
    · rw [hs] at hexpired
      exact nomatch hexpired

/-- Only `expire_checkout` leads to `expired`. -/
theorem expires_of_target {event : TransitionEvent} {context : TransitionContext}
    {source : RuleState} {rule : TransitionRule}
    (hvalid : validate source event context = .ok rule)
    (hs : CheckoutStatus.ofCanonical? rule.target = some .expired) : event = .expireCheckout := by
  have hall : ∀ rule ∈ transitions, CheckoutStatus.ofCanonical? rule.target = some .expired →
      rule.event = .expireCheckout := by decide
  have hrule := (validate_eq_ok hvalid).1
  have hmatch := List.find?_some hrule
  simp only [Bool.and_eq_true, decide_eq_true_eq] at hmatch
  exact hmatch.2.symm.trans (hall rule (List.mem_of_find?_eq_some hrule) hs)

instance : TransitFrame (fun c event => event = .expireCheckout → c.expiresAt ≤ now)
    (ExpiresOverdue now) where
  transit db db' aggregate event context rule hclosable hcurrent hvalid hset := by
    cases aggregate with
    | payment p =>
        obtain ⟨s, -, rfl⟩ := Option.map_eq_some_iff.1 hset
        exact .of_eq rfl
    | checkout c =>
        obtain ⟨s, hs, rfl⟩ := Option.map_eq_some_iff.1 hset
        intro c' hc' hexpired
        have hc'' : c' ∈ (db.setCheckoutStatus c.checkoutId s).checkouts := hc'
        rw [setCheckoutStatus, Table.mem_modify] at hc''
        obtain ⟨d, hd, rfl⟩ := hc''
        by_cases hid : (d.checkoutId == c.checkoutId) = true
        · rw [if_pos hid] at hexpired ⊢
          obtain rfl : d = c := Table.eq_of_clash hd hcurrent (by
            simpa [clashes, Keyed.clash, Keyed.key] using hid)
          obtain rfl : s = .expired := hexpired
          have hevent := expires_of_target hvalid hs
          exact .inl (hclosable d rfl (by rw [hevent]; rfl) hevent)
        · rw [if_neg hid] at hexpired ⊢
          exact .inr ⟨d, hd, rfl, hexpired⟩

end

end Database

section

variable {env : Env} {w w' : World}

/-- A checkout that the sweep selects is past its deadline, and not ended. -/
theorem selected_of_due {db : Database} {now : Time} {c : Checkout} (hc : c ∈ db.checkouts)
    (hdue : c.checkoutId ∈ Worker.expiredCheckouts now db) :
    c.status ∈ Worker.sweptStatuses ∧ c.expiresAt ≤ now := by
  obtain ⟨d, hd, hid⟩ := List.mem_map.1 hdue
  have hselected := (List.mem_insertionSort _).1 (List.mem_of_mem_take hd)
  obtain ⟨hmem, hkeys⟩ := Table.mem_select.1 hselected
  obtain rfl : d = c := Table.eq_of_clash hmem hc (by simp [clashes, Keyed.clash, Keyed.key, hid])
  simpa only [Bool.and_eq_true, decide_eq_true_eq] using hkeys

/-- **No step expires a checkout before its deadline.** -/
theorem Operation.expiresOverdue (op : Operation) :
    w.db.ExpiresOverdue env.now (op.run env w).db := by
  refine op.transits_of (fun c event => event = .expireCheckout → c.expiresAt ≤ env.now)
    (fun _ _ _ _ _ _ _ _ => .of_eq rfl) (fun _ _ _ _ _ => .of_eq rfl) (fun _ _ _ _ _ _ => nofun)
    (fun _ _ _ _ _ _ _ _ _ _ => nofun) ?_
  rintro - c ⟨c₀, hc₀, hsame⟩ hdue -
  have hid : c.checkoutId = c₀.checkoutId := by rw [hsame]
  have htime : c.expiresAt = c₀.expiresAt := by rw [hsame]
  rw [htime]
  exact (selected_of_due hc₀ (hid ▸ hdue)).2

/-- **No step leaves an authorization expired** that was not so before. -/
theorem Operation.quiet (op : Operation) : w.db.Quiet (op.run env w).db := by
  refine op.frame_of (fun _ _ he _ => (Database.plain_appendAudit he).quiet)
    (fun _ _ _ _ _ => .of_eq rfl rfl rfl rfl) fun b m id a key _ => ?_
  exact request_moves (C := Anything) (createPayment_returns fun _ _ _ => trivial) w

end

/-! ### The sweep expires what it selects -/

namespace Database

instance : BooksFrame (Keeps Database.payments) := ⟨fun _ _ _ _ _ _ => rfl, fun _ _ _ => rfl⟩

theorem flushable_of_payments {db db' : Database} (h : db.payments = db'.payments) :
    db'.flushable = db.flushable := by
  rw [flushable, flushable, h]

end Database

section

variable {env : Env} {w w' : World}

/-- What the sweep tells the transition: it gives no deadline. -/
def Worker.sweepContext (env : Env) (c : Checkout) : TransitionContext :=
  { actorType := "system", actorId := some "worker_sweep", merchantId := some c.merchantId,
    now := env.now }

/-- The expiry of a checkout by the sweep, inside its savepoint. -/
def Worker.expireItem (env : Env) (c : Checkout) : Op Unit := do
  transition (.checkout c) .expireCheckout (Worker.sweepContext env c)
  Inventory.releaseStock env c.checkoutId (some c.merchantId)
  flush

theorem expireItem_ok {c : Checkout} {u : Unit} (h : Worker.expireItem env c w = .ok u w') :
    c.status.Live ∧ w'.db.payments = w.db.payments ∧
      w'.db.checkouts = (w.db.setCheckoutStatus c.checkoutId .expired).checkouts := by
  simp only [Worker.expireItem, bind_eq_ok, flush_eq_ok] at h
  obtain ⟨_, w₁, htransition, _, w₂, hrelease, -, rfl⟩ := h
  obtain ⟨s, _, hnext, rfl⟩ := transition_checkout htransition
  rw [CheckoutStatus.next_expireCheckout] at hnext
  split_ifs at hnext with hlive
  obtain rfl := Option.some.inj hnext
  have hcheckouts : Moves (OnWorld (Database.Keeps Database.checkouts) Anything)
      (Inventory.releaseStock env c.checkoutId (some c.merchantId)) := releaseStock_frame
  have hpayments : Moves (OnWorld (Database.Keeps Database.payments) Anything)
      (Inventory.releaseStock env c.checkoutId (some c.merchantId)) := releaseStock_frame
  exact ⟨hlive, (hpayments.1 _ _ _ hrelease).1.symm, (hcheckouts.1 _ _ _ hrelease).1.symm⟩

/-- **The sweep hands no deadline over**, so the guard lets it expire a live checkout. -/
theorem sweep_accepted (env : Env) {c : Checkout} (hlive : c.status.Live) :
    ∃ rule, validate c.status.canonical .expireCheckout (Worker.sweepContext env c) = .ok rule ∧
      CheckoutStatus.ofCanonical? rule.target = some .expired := by
  have hrule : ∃ rule, findRule c.status.canonical .expireCheckout = some rule ∧
      "system" ∈ rule.actors ∧ CheckoutStatus.ofCanonical? rule.target = some .expired := by
    rcases hlive with hs | hs | hs <;> rw [hs] <;> exact ⟨_, rfl, by decide, rfl⟩
  obtain ⟨rule, hrule, hactor, htarget⟩ := hrule
  have haccepted : ∃ r, validate c.status.canonical .expireCheckout (Worker.sweepContext env c) =
      .ok r := (expire_accepted_iff hrule rfl hactor).2 fun _ ht => nomatch ht
  obtain ⟨r, hvalid⟩ := haccepted
  obtain rfl : rule = r := Option.some.inj (hrule.symm.trans (validate_eq_ok hvalid).1)
  exact ⟨rule, hvalid, htarget⟩

/-- An item of the sweep that is skipped is not live. -/
theorem expireItem_error {c : Checkout} {e : Failure} (hc : c ∈ w.db.checkouts)
    (hflush : w.db.flushable = true) (h : Worker.expireItem env c w = .error e w') :
    ¬c.status.Live := by
  intro hlive
  obtain ⟨rule, hvalid, htarget⟩ := sweep_accepted env hlive
  simp only [Worker.expireItem, bind_eq_error] at h
  rcases h with h | ⟨_, w₁, htransition, h⟩
  · have hsource : (Aggregate.checkout c).source = c.status.canonical := rfl
    simp only [transition, appendTransitionEvent, Aggregate.source, hvalid, bind_eq_error,
      ofAnswer_eq_error, ofAnswer_eq_ok, tryWrite_eq_error, Database.setStatus,
      appendEvent_eq_error, and_false, exists_false, or_false, reduceCtorEq] at h
    rcases h with ⟨h, -⟩ | ⟨r, u, ⟨hr, -⟩, hnone, -⟩
    · exact h
    · rw [← Except.ok.inj hr, htarget] at hnone
      cases hnone
  · obtain ⟨s, _, -, rfl⟩ := transition_checkout htransition
    rcases h with h | ⟨_, w₂, hrelease, h⟩
    · have hforeign := (releaseStock_error h).2
      have hfound : (w.db.purchase c.checkoutId).checkout = some c := mem_checkouts.1 ⟨hc, rfl⟩
      let w₁ : World := { w with db := w.db.setCheckoutStatus c.checkoutId s }
      have hmoved : w₁.db.Moved w.db.purchase c.checkoutId _ :=
        (w.db.moved_self c.checkoutId).setCheckout s
      have hown : Inventory.foreignCheckout c.checkoutId (some c.merchantId) w₁.db = false :=
        foreignCheckout_own hmoved (Purchase.setCheckout_eq _ hfound s) rfl
      cases hown.symm.trans hforeign
    · have hpayments : Moves (OnWorld (Database.Keeps Database.payments) Anything)
          (Inventory.releaseStock env c.checkoutId (some c.merchantId)) := releaseStock_frame
      have hsame := Database.flushable_of_payments (hpayments.1 _ _ _ hrelease).1
      have hflush' : w₂.db.flushable = true := by
        rw [hsame]
        exact hflush
      cases hflush'.symm.trans (flush_eq_error.1 h).1

/-- **One item of the sweep**: a live checkout is expired, and no other row changes. -/
theorem sweepCheckout_row (env : Env) (id : String) {c : Checkout} (hflush : w.db.flushable = true)
    (hc : c ∈ w.db.checkouts) :
    ∃ w', Worker.sweepCheckout env id w = .ok () w' ∧ w'.db.flushable = true ∧
      (c.checkoutId = id ∧ c.status.Live → { c with status := .expired } ∈ w'.db.checkouts) ∧
      (¬(c.checkoutId = id ∧ c.status.Live) → c ∈ w'.db.checkouts) := by
  have hquery : query (fun db => db.checkoutById id) w = .ok (w.db.checkoutById id) w :=
    query_eq_ok.2 ⟨rfl, rfl⟩
  have hunfold := bind_of_ok (f := fun checkout : Option Checkout =>
    checkout.elim (pure ()) fun c => do
      flush
      let _ ← nested (Worker.expireItem env c)
      pure ()) hquery
  have hsweep : Worker.sweepCheckout env id w = ((w.db.checkoutById id).elim (pure ()) fun c => do
      flush
      let _ ← nested (Worker.expireItem env c)
      pure () : Op Unit) w := hunfold
  rw [hsweep]
  cases hfound : w.db.checkoutById id with
  | none =>
      refine ⟨w, rfl, hflush, fun h => ?_, fun _ => hc⟩
      have hother : (c.checkoutId == id) = false := Table.first_eq_none.1 hfound c hc
      exact absurd h.1 (beq_eq_false_iff_ne.1 hother)
  | some d =>
      obtain ⟨hd, hdid⟩ := mem_checkouts.2 (show (w.db.purchase id).checkout = some d from hfound)
      have hflushed : flush w = .ok () w := flush_eq_ok.2 ⟨hflush, rfl⟩
      cases hitem : Worker.expireItem env d w with
      | ok u v =>
          obtain ⟨hlive, hpayments, hcheckouts⟩ := expireItem_ok hitem
          refine ⟨v, ?_, ?_, fun h => ?_, fun h => ?_⟩
          · refine bind_eq_ok.2 ⟨(), w, hflushed, bind_eq_ok.2 ⟨.ok u, v, ?_, rfl⟩⟩
            exact savepoint_eq_ok.2 (.inl ⟨u, hitem, rfl⟩)
          · rw [Database.flushable_of_payments hpayments.symm, hflush]
          · rw [hcheckouts]
            rw [Database.setCheckoutStatus, Table.mem_modify]
            exact ⟨c, hc, if_pos (beq_iff_eq.2 (h.1.trans hdid.symm))⟩
          · have hne : c.checkoutId ≠ d.checkoutId := fun hid => by
              obtain rfl : c = d := Table.eq_of_clash hc hd (by
                simp [clashes, Keyed.clash, Keyed.key, hid])
              exact h ⟨hdid, hlive⟩
            rw [hcheckouts, Database.setCheckoutStatus, Table.mem_modify]
            exact ⟨c, hc, if_neg fun hid => hne (beq_iff_eq.1 hid)⟩
      | error e v =>
          refine ⟨World.restore w v, ?_, hflush, fun h => ?_, fun _ => hc⟩
          · refine bind_eq_ok.2 ⟨(), w, hflushed, bind_eq_ok.2 ⟨.error e, World.restore w v, ?_, rfl⟩⟩
            exact savepoint_eq_ok.2 (.inr ⟨e, v, hitem, rfl, rfl⟩)
          · obtain rfl : c = d := Table.eq_of_clash hc hd (by
              simp [clashes, Keyed.clash, Keyed.key, h.1.trans hdid.symm])
            exact absurd h.2 (expireItem_error hd hflush hitem)

/-- **The batch**: a live checkout on the list is expired in the end, and one that is
expired stays so. -/
theorem sweepCheckouts_row (env : Env) (ids : List String) :
    ∀ {w : World} {c : Checkout}, w.db.flushable = true → c ∈ w.db.checkouts →
      ∃ w', Worker.sweepCheckouts env ids w = .ok () w' ∧ w'.db.flushable = true ∧
        ∃ c' ∈ w'.db.checkouts, c'.checkoutId = c.checkoutId ∧
          (c.status = .expired ∨ (c.status.Live ∧ c.checkoutId ∈ ids) → c'.status = .expired) := by
  induction ids with
  | nil =>
      intro w c hflush hc
      refine ⟨w, rfl, hflush, c, hc, rfl, ?_⟩
      rintro (hexpired | ⟨-, hid⟩)
      · exact hexpired
      · exact absurd hid List.not_mem_nil
  | cons id rest ih =>
      intro w c hflush hc
      obtain ⟨w₁, hitem, hflush₁, hswept, hkept⟩ := sweepCheckout_row env id hflush hc
      by_cases hthis : c.checkoutId = id ∧ c.status.Live
      · obtain ⟨w', hrest, hflush', c', hc', hid', hexpired⟩ := ih hflush₁ (hswept hthis)
        exact ⟨w', bind_eq_ok.2 ⟨(), w₁, hitem, hrest⟩, hflush', c', hc', hid',
          fun _ => hexpired (.inl rfl)⟩
      · obtain ⟨w', hrest, hflush', c', hc', hid', hexpired⟩ := ih hflush₁ (hkept hthis)
        refine ⟨w', bind_eq_ok.2 ⟨(), w₁, hitem, hrest⟩, hflush', c', hc', hid', ?_⟩
        rintro (hstatus | ⟨hlive, hid⟩)
        · exact hexpired (.inl hstatus)
        · refine hexpired (.inr ⟨hlive, ?_⟩)
          rcases List.mem_cons.1 hid with hid | hid
          · exact absurd ⟨hid, hlive⟩ hthis
          · exact hid

/-- **The sweep expires every live checkout it selects.** -/
theorem sweep_expires {c : Checkout} (hflush : w.db.flushable = true) (hc : c ∈ w.db.checkouts)
    (hlive : c.status.Live) (hdue : c.checkoutId ∈ Worker.expiredCheckouts env.now w.db) :
    ∃ c' ∈ (Operation.run env w .sweepExpiredCheckouts).db.checkouts,
      c'.checkoutId = c.checkoutId ∧ c'.status = .expired := by
  obtain ⟨w', hbatch, hflush', c', hc', hid, hexpired⟩ := sweepCheckouts_row env
    (Worker.expiredCheckouts env.now w.db) hflush hc
  have hsweep : Worker.sweepExpiredCheckouts env w = .ok () w' :=
    bind_eq_ok.2 ⟨_, w, query_eq_ok.2 ⟨rfl, rfl⟩, hbatch⟩
  have hrun : Operation.run env w .sweepExpiredCheckouts = w' := request_of_ok hsweep hflush'
  rw [hrun]
  exact ⟨c', hc', hid, hexpired (.inr ⟨hlive, hdue⟩)⟩

end

/-! ### Who asks -/

/-- A step asks for the expiry of a checkout, in a context: the sweep for each checkout
it selects, `createPayment` for the checkout it charges when that is overdue. -/
inductive Operation.AsksExpiry (env : Env) (db : Database) :
    Operation → Checkout → TransitionContext → Prop
  | sweep {c : Checkout} (stored : c ∈ db.checkouts)
      (due : c.checkoutId ∈ Worker.expiredCheckouts env.now db) :
      AsksExpiry env db .sweepExpiredCheckouts c (Worker.sweepContext env c)
  | payment {b m id a : String} {key : Option String} {c : Checkout}
      (found : db.checkoutOf m b id = some c) (alive : c.status.dead = false)
      (due : c.expiresAt ≤ env.now) :
      AsksExpiry env db (.createPayment b m id a key) c
        { Payment.bySystem env m with expiresAt := some c.expiresAt }

/-- A call of the authorization service decides about an authorization by its deadline. -/
inductive Authorization.Asked (env : Env) (db : Database) (a : Authorization) :
    {α : Type} → Op α → Prop
  | request {b m id : String} {ttlMinutes : ℤ} {c : Checkout}
      (checkout : db.checkoutOf m b id = some c)
      (alive : Authorization.closed c.status = false)
      (found : (db.authorizations.first fun a =>
        a.checkoutId == id && a.merchantId == m && a.buyerId == b) = some a)
      (undecided : a.status = .approved ∨ a.status = .pending) :
      Asked env db a (Authorization.requestAuthorization env b m id ttlMinutes)
  | approve {b m id : String} (found : db.authorizationOf m b id = some a)
      (undecided : a.status = .pending) :
      Asked env db a (Authorization.approveAuthorization env b m id)
  | reject {b m id : String} (found : db.authorizationOf m b id = some a)
      (undecided : a.status = .approved ∨ a.status = .pending) :
      Asked env db a (Authorization.rejectAuthorization env b m id)
  | revalidate {id priceHash b m : String} (found : db.authorizationOf m b id = some a)
      (approved : a.status = .approved) :
      Asked env db a (Authorization.revalidateForPayment env id a.checkoutId priceHash m b)

section

variable {env : Env} {w w₀ : World}

/-- A call that decides about an overdue authorization comes down to expiring it. -/
theorem Authorization.asked_eq {a : Authorization} {α : Type} {call : Op α}
    (h : Authorization.Asked env w.db a call) (hdue : a.validUntil ≤ env.now) :
    a ∈ w.db.authorizations ∧ call w = (Authorization.expire a : Op α) w := by
  cases h with
  | @request b m id ttlMinutes c hcheckout halive hfound hundecided =>
      refine ⟨(Table.first_eq_some hfound).1, ?_⟩
      have hopen : c.status ≠ .completed ∧ c.status ≠ .priceChanged ∧ c.status ≠ .cancelled ∧
          c.status ≠ .expired := by
        refine ⟨?_, ?_, ?_, ?_⟩ <;> rintro hs <;> rw [hs] at halive <;> exact nomatch halive
      obtain ⟨h₁, h₂, h₃, h₄⟩ := hopen
      have hexisting : query (fun db => db.authorizations.first fun a =>
          a.checkoutId == id && a.merchantId == m && a.buyerId == b) w = .ok (some a) w :=
        query_eq_ok.2 ⟨hfound, rfl⟩
      rw [Authorization.requestAuthorization, bind_of_ok (require_eq_ok.2 ⟨hcheckout, rfl⟩),
        bind_of_ok (raiseIf_of_not (not_or.2 ⟨h₃, h₄⟩)),
        bind_of_ok (raiseIf_of_not (not_or.2 ⟨h₁, h₂⟩)), bind_of_ok hexisting]
      simp only [Authorization.answerExisting, if_pos hundecided, if_pos hdue]
  | approve hfound hundecided =>
      refine ⟨(Table.first_eq_some hfound).1, ?_⟩
      obtain ⟨-, -, hm, hb⟩ := authorizationOf_eq_some hfound
      rw [Authorization.approveAuthorization, bind_of_ok (require_eq_ok.2 ⟨hfound, rfl⟩),
        bind_of_ok (raiseIf_of_not (by simp [hm, hb])), if_neg (by rw [hundecided]; decide),
        bind_of_ok (raiseIf_of_not (by rw [hundecided]; decide)),
        bind_of_ok (raiseIf_of_not (by rw [hundecided]; decide)), if_pos hdue]
  | reject hfound hundecided =>
      refine ⟨(Table.first_eq_some hfound).1, ?_⟩
      obtain ⟨-, -, hm, hb⟩ := authorizationOf_eq_some hfound
      have hother : a.status ≠ .rejected ∧ a.status ≠ .consumed ∧
          ¬(a.status = .revoked ∨ a.status = .expired) := by
        rcases hundecided with hs | hs <;> rw [hs] <;> decide
      obtain ⟨h₁, h₂, h₃⟩ := hother
      rw [Authorization.rejectAuthorization, bind_of_ok (require_eq_ok.2 ⟨hfound, rfl⟩),
        bind_of_ok (raiseIf_of_not (by simp [hm, hb])), if_neg h₁,
        bind_of_ok (raiseIf_of_not h₂), bind_of_ok (raiseIf_of_not h₃),
        if_pos hdue]
  | revalidate hfound happroved =>
      refine ⟨(Table.first_eq_some hfound).1, ?_⟩
      rw [Authorization.revalidateForPayment, bind_of_ok (require_eq_ok.2 ⟨hfound, rfl⟩),
        bind_of_ok (raiseIf_of_not (not_not.2 rfl)),
        bind_of_ok (raiseIf_of_not (by rw [happroved]; decide)),
        bind_of_ok (raiseIf_of_not (not_not.2 happroved)), if_pos hdue]

/-- **The authorization path is not refused**: its own check is the right way round, and
an overdue authorization is marked before the call raises. -/
theorem Authorization.expires_of_asked {a : Authorization} {α : Type} {call : Op α}
    (hflush : w.db.flushable = true) (h : Authorization.Asked env w.db a call)
    (hdue : a.validUntil ≤ env.now) :
    ∃ w', call w = .error (.raised "The approval has expired." .authorizationExpired) w' ∧
      { a with status := .expired } ∈ w'.db.authorizations := by
  obtain ⟨hmem, hcall⟩ := Authorization.asked_eq h hdue
  refine ⟨{ w with db := w.db.setAuthorizationStatus a.authorizationId .expired }, ?_, ?_⟩
  · rw [hcall]
    refine bind_eq_error.2 (.inr ⟨(), _, update_eq_ok.2 rfl, bind_eq_error.2 (.inr ⟨(), _, ?_,
      throw_eq_error.2 ⟨rfl, rfl⟩⟩)⟩)
    exact flush_eq_ok.2 ⟨hflush, rfl⟩
  · rw [Database.setAuthorizationStatus, Table.mem_modify]
    exact ⟨a, hmem, if_pos (beq_iff_eq.2 rfl)⟩

/-! ### Over runs -/

/-- **A step expires what it should**: no checkout or authorization before its deadline,
every checkout whose expiry is asked once the deadline is past, and the sweep leaves what
it selected expired. -/
structure ExpiryGuarded (env : Env) (w : World) (op : Operation) : Prop where
  early : w.db.ExpiresOverdue env.now (op.run env w).db
  earlyAuthorization : ∀ a' ∈ (op.run env w).db.authorizations, a'.status = .expired →
    ∃ a ∈ w.db.authorizations, a.authorizationId = a'.authorizationId ∧ a.status = .expired
  late : ∀ c context, op.AsksExpiry env w.db c context →
    ∃ rule, validate c.status.canonical .expireCheckout context = .ok rule
  swept : op = .sweepExpiredCheckouts → ∀ c ∈ w.db.checkouts,
    c.checkoutId ∈ Worker.expiredCheckouts env.now w.db →
      ∃ c' ∈ (op.run env w).db.checkouts, c'.checkoutId = c.checkoutId ∧ c'.status = .expired

/-- A payment is asked for a checkout that is past its deadline, and not ended. -/
def Operation.ChargesOverdue (env : Env) (db : Database) (op : Operation) : Prop :=
  ∃ b m id a key c, op = .createPayment b m id a key ∧ db.checkoutOf m b id = some c ∧
    c.status.dead = false ∧ c.expiresAt ≤ env.now

/-- An expiry that is given a past deadline is refused. -/
theorem expire_refused {c : Checkout} {context : TransitionContext} {rule : TransitionRule}
    {t : Time} (hgiven : context.expiresAt = some t) (hpast : t ≤ context.now) :
    validate c.status.canonical .expireCheckout context ≠ .ok rule := by
  intro hvalid
  have hall : ∀ rule ∈ transitions, rule.event = .expireCheckout → rule.checksExpiry = true := by
    decide
  obtain ⟨hrule, -, hguard⟩ := validate_eq_ok hvalid
  have hmatch := List.find?_some hrule
  simp only [Bool.and_eq_true, decide_eq_true_eq] at hmatch
  have hexpiry := hguard (hall rule (List.mem_of_find?_eq_some hrule) hmatch.2)
  simp [TransitionContext.pastExpiry, hgiven, not_lt.2 hpast] at hexpiry

/-- What the sweep selects in a run from an unsold store is live. -/
theorem live_of_due (hdb : w.db.Coherent) {c : Checkout} (hc : c ∈ w.db.checkouts)
    (hdue : c.checkoutId ∈ Worker.expiredCheckouts env.now w.db) : c.status.Live := by
  have hswept : c.status ∈ Worker.sweptStatuses := (selected_of_due hc hdue).1
  obtain ⟨ph, hat⟩ := hdb c.checkoutId
  obtain ⟨r, -, hheld, hcommitted, hreleased⟩ := hat.holds_agree (mem_checkouts.1 ⟨hc, rfl⟩)
  rw [← hheld]
  cases hr : r.status with
  | held => rfl
  | committed =>
      rw [hcommitted.1 hr] at hswept
      exact absurd hswept (by decide)
  | released =>
      rcases hreleased.1 hr with (hs | hs) | hs <;> rw [hs] at hswept <;>
        exact absurd hswept (by decide)

/-- **The expiry guard.**  An expiry is accepted exactly at and after the deadline just
when an overdue entity comes without a past deadline, or another one with one; in every
state of a run a step expires what it should exactly when it asks for no payment of an
overdue checkout; and the authorization path always can expire an authorization past its
deadline. -/
theorem expiry_guarded_iff (h₀ : Unsold w₀.db) (hrun : Relation.ReflTransGen Step w₀ w) :
    (∀ source event rule context deadline, findRule source event = some rule →
      event.expires = true → context.actorType ∈ rule.actors →
      (((∃ r, validate source event context = .ok r) ↔ deadline ≤ context.now) ↔
        (deadline ≤ context.now ∧ ∀ t ∈ context.expiresAt, context.now < t) ∨
          (context.now < deadline ∧ ∃ t ∈ context.expiresAt, t ≤ context.now))) ∧
    (∀ env op, ExpiryGuarded env w op ↔ ¬op.ChargesOverdue env w.db) ∧
    ∀ env a {α : Type} (call : Op α), Authorization.Asked env w.db a call →
      a.validUntil ≤ env.now →
      ∃ w', call w = .error (.raised "The approval has expired." .authorizationExpired) w' ∧
        { a with status := .expired } ∈ w'.db.authorizations := by
  have hdb := coherent_of_run h₀ hrun
  have hflush := flushable_of_run h₀ hrun
  refine ⟨fun source event rule context deadline hrule hexpires hactor =>
    guard_right_iff deadline hrule hexpires hactor, fun env op => ⟨?_, fun hnone => ?_⟩,
    fun env a _ call hasked hdue => Authorization.expires_of_asked hflush hasked hdue⟩
  · rintro ⟨-, -, hlate, -⟩ ⟨b, m, id, a, key, c, rfl, hfound, halive, hdue⟩
    obtain ⟨rule, hvalid⟩ := hlate c _ (.payment hfound halive hdue)
    exact expire_refused rfl hdue hvalid
  · refine ⟨op.expiresOverdue, fun a' ha' hexpired => ?_, fun c context hasks => ?_, ?_⟩
    · exact op.quiet (.expired a'.authorizationId) ⟨a', ha', rfl, hexpired⟩
    · cases hasks with
      | sweep hc hdue =>
          obtain ⟨rule, hvalid, -⟩ := sweep_accepted env (live_of_due hdb hc hdue)
          exact ⟨rule, hvalid⟩
      | payment hfound halive hdue => exact absurd ⟨_, _, _, _, _, _, rfl, hfound, halive, hdue⟩ hnone
    · rintro rfl c hc hdue
      exact sweep_expires hflush hc (live_of_due hdb hc hdue) hdue

/-- The shop an hour later, when a checkout of fifteen minutes is overdue. -/
def overdueEnv : Env := { shopEnv with clock := fun _ => minutes 60 }

theorem expiry_guarded_iff_checkedOut :
    checkedOut.db.checkouts.rows.map Checkout.checkoutId = ["chk"] ∧
      "chk" ∈ Worker.expiredCheckouts overdueEnv.now checkedOut.db ∧
      ExpiryGuarded overdueEnv checkedOut .sweepExpiredCheckouts := by
  refine ⟨by decide, by decide,
    ((expiry_guarded_iff openShop_unsold checkedOut_reached).2.1 _ _).2 ?_⟩
  rintro ⟨b, m, id, a, key, c, hop, -⟩
  exact nomatch hop

/-- **An overdue checkout is refused its expiry**: the buyer pays an hour too late, and
`createPayment` hands the deadline that is past to the guard. -/
theorem overdue_refused_expiry : ¬∀ w₀ w : World, Unsold w₀.db →
    Relation.ReflTransGen Step w₀ w → ∀ env op, ExpiryGuarded env w op := by
  intro hclaim
  have hreached : Relation.ReflTransGen Step openShop authorizedOnce :=
    checkedOut_reached.tail ⟨shopEnv, _, rfl⟩
  obtain ⟨c, hc⟩ : ∃ c, authorizedOnce.db.checkoutOf "mer" "byr" "chk" = some c :=
    Option.isSome_iff_exists.1 (by decide)
  have hstate : (authorizedOnce.db.checkoutOf "mer" "byr" "chk").all (fun c =>
      !c.status.dead && decide (c.expiresAt ≤ overdueEnv.now)) = true := by decide
  rw [hc, Option.all_some, Bool.and_eq_true, Bool.not_eq_true', decide_eq_true_eq] at hstate
  have hguarded := hclaim openShop authorizedOnce openShop_unsold hreached overdueEnv
    (.createPayment "byr" "mer" "chk" "ath" none)
  obtain ⟨rule, hvalid⟩ := hguarded.late c _ (.payment hc hstate.1 hstate.2)
  exact expire_refused rfl hstate.2 hvalid

end

end AgenticCommerce
