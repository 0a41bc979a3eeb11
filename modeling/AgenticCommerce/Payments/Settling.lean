/-
# A settlement that raises

`verifyPayment` and `failPayment` write the payment first and only then its checkout,
its hold and its order, so a raise in the middle leaves a part of their writes in the
session.  What follows the payment's own transition leaves the payments alone and
raises nothing that would close the session, as long as the provider identifiers are
unique (`Steady`).  Hence how far a settlement got when it raised can be read off the
payment's row (`verifyPayment_raised`, `failPayment_raised`).
-/

import AgenticCommerce.Lifecycle.Frames
import AgenticCommerce.Lifecycle.Payments
import AgenticCommerce.Payments.Rows

namespace AgenticCommerce

open Relational Work

/-- The payments and the dead letters are the same. -/
def Database.SameLetters (db db' : Database) : Prop :=
  db'.payments = db.payments ∧ db'.failedWebhooks = db.failedWebhooks

instance : IsPreorder Database Database.SameLetters where
  refl _ := ⟨rfl, rfl⟩
  trans _ _ _ h h' := ⟨h'.1.trans h.1, h'.2.trans h.2⟩

theorem Database.SameLetters.flushable {db db' : Database} (h : db.SameLetters db') :
    db'.flushable = db.flushable := by
  rw [Database.flushable, h.1, Database.flushable]

/-- The payments and the dead letters are left alone, and a session that can be flushed
is not closed by what is raised. -/
structure Steady {α : Type} (m : Op α) : Prop where
  moves : Moves (OnWorld Database.SameLetters Eq) m
  usable : ∀ w e w', m w = .error e w' → w.db.flushable = true → e.usable = true

namespace Steady

variable {α β : Type}

theorem pure {a : α} : Steady (Pure.pure a : Op α) :=
  ⟨.pure, fun _ _ _ h => (pure_eq_error.1 h).elim⟩

theorem bind {x : Op α} {f : α → Op β} (hx : Steady x) (hf : ∀ a, Steady (f a)) :
    Steady (x >>= f) := by
  refine ⟨hx.moves.bind fun a => (hf a).moves, fun w e w' h hflush => ?_⟩
  rcases bind_eq_error.1 h with hxw | ⟨a, u, hxw, hfu⟩
  · exact hx.usable w e w' hxw hflush
  · exact (hf a).usable u e w' hfu ((hx.moves.1 w a u hxw).1.flushable.trans hflush)

theorem ite {c : Prop} [Decidable c] {m m' : Op α} (hm : Steady m) (hm' : Steady m') :
    Steady (if c then m else m') := by
  split
  · exact hm
  · exact hm'

theorem query {q : Database → α} : Steady (AgenticCommerce.query q) :=
  ⟨moves_query, fun _ _ _ h => (query_eq_error.1 h).elim⟩

theorem require {q : Database → Option α} {missing : Failure} (hm : missing.usable = true) :
    Steady (AgenticCommerce.require q missing) :=
  ⟨moves_require, fun _ _ _ h _ => (require_eq_error.1 h).2.1 ▸ hm⟩

theorem update {f : Database → Database} (hf : ∀ db : Database, db.SameLetters (f db)) :
    Steady (AgenticCommerce.update f) :=
  ⟨moves_update hf, fun _ _ _ h => (update_eq_error.1 h).elim⟩

theorem raiseIf {c : Prop} [Decidable c] {failure : Failure} (hf : failure.usable = true) :
    Steady (AgenticCommerce.raiseIf c failure) :=
  ⟨moves_raiseIf, fun _ _ _ h _ => (raiseIf_eq_error.1 h).2.1 ▸ hf⟩

theorem throw {failure : Failure} (hf : failure.usable = true) :
    Steady (MonadExcept.throw failure : Op α) :=
  ⟨.throw, fun _ _ _ h _ => (throw_eq_error.1 h).1 ▸ hf⟩

theorem flush : Steady AgenticCommerce.flush :=
  ⟨moves_flush, fun _ _ _ h hflush => by
    rw [(flush_eq_error.1 h).1] at hflush
    exact nomatch hflush⟩

theorem nested {m : Op α} (hm : Moves (OnWorld Database.SameLetters Eq) m) :
    Steady (AgenticCommerce.nested m) :=
  ⟨moves_nested hm, fun _ _ _ h => (savepoint_eq_error.1 h).elim⟩

theorem unlessTrue {c : Bool} {m : Op Unit} (hm : Steady m) : Steady (AgenticCommerce.unlessTrue c m) := by
  cases c with
  | true => exact .pure
  | false => exact hm

theorem elim {o : Option α} {f : α → Op Unit} (hf : ∀ a, Steady (f a)) :
    Steady (o.elim (Pure.pure ()) f) := by
  cases o with
  | none => exact .pure
  | some a => exact hf a

theorem appendEvent {e : AuditEvent} : Steady (AgenticCommerce.appendEvent e) :=
  .update fun _ => ⟨rfl, rfl⟩

end Steady

/-! ### Transitions -/

theorem validate_usable {source : RuleState} {event : TransitionEvent}
    {context : TransitionContext} {e : Failure} (h : validate source event context = .error e) :
    e.usable = true := by
  unfold validate at h
  split at h
  · rw [← Except.error.inj h]
    rfl
  · split_ifs at h
    all_goals
      rw [← Except.error.inj h]
      rfl

/-- A refused transition leaves a session that can go on, when the rule's target is a
status of the row. -/
theorem transition_usable {aggregate : Aggregate} {event : TransitionEvent}
    {context : TransitionContext} {w w' : World} {e : Failure}
    (htarget : ∀ rule, findRule aggregate.source event = some rule →
      aggregate.targetValue rule.target ≠ none)
    (h : transition aggregate event context w = .error e w') : e.usable = true := by
  simp only [transition, appendTransitionEvent, bind_eq_error, ofAnswer_eq_error, ofAnswer_eq_ok,
    tryWrite_eq_error, appendEvent_eq_error, and_false, exists_false, or_false] at h
  rcases h with ⟨hrefused, -⟩ | ⟨rule, _, ⟨hrule, rfl⟩, hset, -⟩
  · exact validate_usable hrefused
  · exfalso
    have hfound := htarget rule (validate_eq_ok hrule).1
    cases aggregate with
    | checkout c =>
        cases hs : CheckoutStatus.ofCanonical? rule.target with
        | none => exact hfound (by rw [Aggregate.targetValue, hs]; rfl)
        | some s =>
            rw [Database.setStatus, hs] at hset
            cases hset
    | payment p =>
        cases hs : PaymentStatus.ofCanonical? rule.target with
        | none => exact hfound (by rw [Aggregate.targetValue, hs]; rfl)
        | some s =>
            rw [Database.setStatus, hs] at hset
            cases hset

/-- The system's transitions of a checkout whose payment is settled. -/
theorem Steady.transition_checkout {c : Checkout} {event : TransitionEvent}
    {context : TransitionContext} (hevent : event = .completeOrder ∨ event = .failPayment) :
    Steady (transition (.checkout c) event context) := by
  constructor
  · refine .bind moves_ofAnswer fun rule => .bind (.tryWrite fun w w' hset => ?_) fun _ =>
      Steady.appendEvent.moves
    obtain ⟨db, hdb, rfl⟩ := Option.map_eq_some_iff.1 hset
    obtain ⟨s, -, rfl⟩ := Option.map_eq_some_iff.1 hdb
    exact ⟨⟨rfl, rfl⟩, rfl⟩
  · intro w e w' h _
    refine transition_usable (fun rule hrule => ?_) h
    have hall : ∀ rule ∈ transitions, rule.event = .completeOrder ∨ rule.event = .failPayment →
        (Aggregate.checkout c).targetValue rule.target ≠ none := by
      intro rule hmem hrule
      have htarget : CheckoutStatus.ofCanonical? rule.target ≠ none := by
        revert rule
        decide
      rw [Aggregate.targetValue, Ne, Option.map_eq_none_iff]
      exact htarget
    have hfound := List.find?_some hrule
    simp only [Bool.and_eq_true, decide_eq_true_eq] at hfound
    exact hall rule (List.mem_of_find?_eq_some hrule) (by rw [hfound.2]; exact hevent)

/-! ### What follows the payment's transition -/

section

variable {env : Env}

theorem settle_steady {id : String} {leave : Reservation → Reservation}
    {take : ℤ → Inventory → Inventory} {hleave : ∀ r, Keyed.key (leave r) = Keyed.key r}
    {htake : ∀ q i, Keyed.key (take q i) = Keyed.key i} :
    Steady (Inventory.settle id leave take hleave htake) := by
  refine .bind .query fun found => .bind (.update fun _ => ⟨rfl, rfl⟩) fun _ => ?_
  obtain ⟨_ | r, t⟩ := found
  · exact .pure
  · exact .bind .query fun _ => .bind (.update fun _ => ⟨rfl, rfl⟩) fun _ => .pure

theorem assertCheckoutTenant_steady {id : String} {m : Option String} :
    Steady (Inventory.assertCheckoutTenant id m) :=
  .bind .query fun _ => .raiseIf rfl

theorem appendStockEvent_steady {offerId id : String} {m : Option String}
    {metadata : List (String × Json)} :
    Steady (Inventory.appendStockEvent offerId id m metadata) :=
  .bind .query fun _ => .appendEvent

theorem releaseStock_steady {id : String} {m : Option String} :
    Steady (Inventory.releaseStock env id m) := by
  refine .bind assertCheckoutTenant_steady fun _ => .bind .query fun found => ?_
  cases found with
  | none => exact .pure
  | some r => exact .ite .pure (.bind settle_steady fun _ => .unlessTrue appendStockEvent_steady)

theorem commitStock_steady {id : String} {m : Option String} :
    Steady (Inventory.commitStock env id m) :=
  .bind assertCheckoutTenant_steady fun _ => .bind (.require rfl) fun _ => .ite .pure <|
    .bind (.raiseIf rfl) fun _ => .bind settle_steady fun _ => .bind (.raiseIf rfl) fun _ =>
      appendStockEvent_steady

theorem insertRow_steady {c : Checkout} {o : Order} : Steady (Order.insertRow c o) := by
  refine .bind .flush fun _ => .bind (.nested (.bind (moves_insert fun db db' h => ?_)
    fun _ => moves_flush)) fun inserted => ?_
  · obtain ⟨t, -, rfl⟩ := Option.map_eq_some_iff.1 h
    exact ⟨rfl, rfl⟩
  · cases inserted with
    | ok _ => exact .bind .appendEvent fun _ => .pure
    | error _ =>
        refine .bind .query fun existing => ?_
        cases existing with
        | some _ => exact .ite .pure (.throw rfl)
        | none => exact .throw rfl

theorem confirmOrder_steady {id paymentId : String} {address : Option String} :
    Steady (Order.confirmOrder env id paymentId address) := by
  refine .bind .query fun existing => ?_
  cases existing with
  | some _ => exact .ite .pure (.throw rfl)
  | none =>
      refine .bind .query fun paid => ?_
      cases paid with
      | some _ => exact .pure
      | none => exact .bind (.require rfl) fun _ => .bind (.require rfl) fun _ => insertRow_steady

/-! ### How far a settlement got -/

/-- A payment that cannot be settled is refused by its own transition, which then writes
nothing. -/
theorem transition_payment_error {p : Payment} {event : TransitionEvent} {merchantId : String}
    {w w' : World} {e : Failure} (hevent : event = .verifyPayment ∨ event = .failPayment)
    (h : transition (.payment p) event (Payment.bySystem env merchantId) w = .error e w') :
    w' = w ∧ e.usable = true ∧ p.status.next event = none := by
  refine ⟨transition_error h, transition_usable (fun rule hrule => ?_) h, ?_⟩
  · have hall : ∀ rule ∈ transitions, rule.event = .verifyPayment ∨ rule.event = .failPayment →
        PaymentStatus.ofCanonical? rule.target ≠ none := by decide
    have hfound := List.find?_some hrule
    simp only [Bool.and_eq_true, decide_eq_true_eq] at hfound
    rw [Aggregate.targetValue, Ne, Option.map_eq_none_iff]
    exact hall rule (List.mem_of_find?_eq_some hrule) (by rw [hfound.2]; exact hevent)
  · rcases hevent with rfl | rfl
    · rw [PaymentStatus.next_verifyPayment, if_neg]
      intro hpending
      exact transition_payment_total (by rw [hpending]; rfl) rfl ⟨rfl, rfl, rfl⟩
        (by simp [Payment.bySystem]) rfl h
    · rw [PaymentStatus.next_failPayment, if_neg]
      rintro (hcreated | hpending)
      · exact transition_payment_total (by rw [hcreated]; rfl) rfl ⟨rfl, rfl, rfl⟩
          (by simp [Payment.bySystem]) rfl h
      · exact transition_payment_total (by rw [hpending]; rfl) rfl ⟨rfl, rfl, rfl⟩
          (by simp [Payment.bySystem]) rfl h

/-- How a settlement that stamped the payment `p` by `f` and followed the edge `event` of
its status was left, when it raised: at the stamp, when there is no such edge, and else
beyond the edge. -/
def Interrupted (event : TransitionEvent) (p : Payment) (stamped : Database) (e : Failure)
    (db : Database) : Prop :=
  (p.status.next event = none ∧ e.usable = true ∧ db = stamped) ∨
    ∃ s, p.status.next event = some s ∧ (stamped.flushable = true → e.usable = true) ∧
      db.flushable = stamped.flushable ∧ db.failedWebhooks = stamped.failedWebhooks ∧
      ∃ q, db.paymentById p.paymentId = some q ∧ q.status = s

/-- **A settlement that raises was interrupted** at its stamp or beyond its edge. -/
theorem interrupted_of_raised {α : Type} {p : Payment} {f : Payment → Payment}
    {hkey : ∀ p, Keyed.key (f p) = Keyed.key p} {event : TransitionEvent} {merchantId : String}
    {rest : Unit → Op α} {w w' : World} {e : Failure}
    (hevent : event = .verifyPayment ∨ event = .failPayment)
    (hp : w.db.paymentById p.paymentId = some p) (hrest : ∀ u, Steady (rest u))
    (h : (update (fun db => db.modifyPayment p.paymentId f hkey) >>= fun _ =>
      transition (.payment p) event (Payment.bySystem env merchantId) >>= rest) w = .error e w') :
    Interrupted event p (w.db.modifyPayment p.paymentId f hkey) e w'.db := by
  rcases bind_eq_error.1 h with h | ⟨_, w₁, hstamp, h⟩
  · exact (update_eq_error.1 h).elim
  obtain rfl := update_eq_ok.1 hstamp
  rcases bind_eq_error.1 h with htr | ⟨_, w₂, htr, h⟩
  · obtain ⟨rfl, husable, hnext⟩ := transition_payment_error hevent htr
    exact .inl ⟨hnext, husable, rfl⟩
  obtain ⟨s, ev, hnext, rfl⟩ := transition_payment htr
  have hstatus : ∀ db : Database, (db.setPaymentStatus p.paymentId s).flushable = db.flushable :=
    fun db => flushable_modifyPayment (f := fun q => { q with status := s }) fun _ => ⟨rfl, rfl⟩
  have hsame := ((hrest ()).moves.2 _ _ _ h).1
  refine .inr ⟨s, hnext, fun hflush => (hrest ()).usable _ _ _ h ?_, ?_, hsame.2, ?_⟩
  · exact (hstatus _).trans hflush
  · exact hsame.flushable.trans (hstatus _)
  · refine ⟨{ f p with status := s }, ?_, rfl⟩
    rw [Database.paymentById, hsame.1]
    exact paymentById_modifyPayment (f := fun q => { q with status := s }) (k := fun _ => rfl)
      (paymentById_modifyPayment hp)

/-- **A failure that raises was interrupted.** -/
theorem failPayment_raised {p : Payment} {reason : Option String} {w w' : World} {e : Failure}
    (hp : w.db.paymentById p.paymentId = some p)
    (h : Payment.failPayment env p.paymentId reason w = .error e w') :
    Interrupted .failPayment p
      (w.db.modifyPayment p.paymentId (fun q => { q with updatedAt := env.now }) fun _ => rfl) e
        w'.db := by
  rw [Payment.failPayment, bind_of_ok (require_eq_ok.2 ⟨hp, rfl⟩)] at h
  refine interrupted_of_raised (.inr rfl) hp (fun _ => ?_) h
  exact .bind .query fun _ => .bind (.unlessTrue releaseStock_steady) fun _ =>
    .bind (.unlessTrue (.elim fun _ => .transition_checkout (.inr rfl))) fun _ =>
    .bind .flush fun _ => .bind .appendEvent fun _ => .pure

theorem settleVerified_raised {p : Payment} {payId sig address : Option String} {w w' : World}
    {e : Failure} (hp : w.db.paymentById p.paymentId = some p)
    (h : Payment.settleVerified env p payId sig address w = .error e w') :
    Interrupted .verifyPayment p
      (w.db.modifyPayment p.paymentId (Payment.stampVerified env.now payId sig) fun _ => rfl) e
        w'.db := by
  refine interrupted_of_raised (.inl rfl) hp (fun _ => ?_) h
  exact .bind .query fun _ =>
    .bind (.unlessTrue (.elim fun _ => .transition_checkout (.inl rfl))) fun _ =>
    .bind (.unlessTrue commitStock_steady) fun _ => .bind confirmOrder_steady fun _ =>
    .bind .flush fun _ => .bind .appendEvent fun _ => .pure

/-- A verification that does not reach its first write: the payment is settled, the
checkout cannot be paid, or the provider reports no capture. -/
def Payment.Gated (env : Env) (p : Payment) (payId sig : Option String) (db : Database) : Prop :=
  p.status = .verified ∨ p.status = .failed ∨ evidence env p payId sig = none ∨
    ∀ c, db.checkoutById p.checkoutId = some c → c.status = .expired ∨ c.status.unpayable = true ∨
      (c.status = .completed ∧
        (db.orderOfCheckout p.checkoutId).elim false (fun o => o.paymentId != p.paymentId) = true)

/-- **A verification that raises was gated**, and wrote nothing, or was interrupted. -/
theorem verifyPayment_raised {p : Payment} {payId sig address : Option String} {w w' : World}
    {e : Failure} (hp : w.db.paymentById p.paymentId = some p)
    (h : Payment.verifyPayment env p.paymentId payId sig address w = .error e w') :
    (Payment.Gated env p payId sig w.db ∧ w'.db = w.db) ∨
      (¬Payment.Gated env p payId sig w.db ∧ Interrupted .verifyPayment p
        (w.db.modifyPayment p.paymentId (Payment.stampVerified env.now payId sig) fun _ => rfl) e
          w'.db) := by
  rw [Payment.verifyPayment, bind_of_ok (require_eq_ok.2 ⟨hp, rfl⟩)] at h
  by_cases hverified : p.status = .verified
  · rw [if_pos hverified] at h
    simp only [bind_eq_error, pure_eq_error, and_false, exists_false, or_false] at h
    exact .inl ⟨.inl hverified, confirmOrder_error h⟩
  rw [if_neg hverified] at h
  rcases bind_eq_error.1 h with hraise | ⟨_, _, hgo, h⟩
  · obtain ⟨hfailed, -, rfl⟩ := raiseIf_eq_error.1 hraise
    exact .inl ⟨.inr (.inl hfailed), rfl⟩
  obtain ⟨hfailed, rfl⟩ := raiseIf_eq_ok.1 hgo
  rcases bind_eq_error.1 h with hraise | ⟨c, _, hread, h⟩
  · obtain ⟨hmissing, -, rfl⟩ := require_eq_error.1 hraise
    refine .inl ⟨.inr (.inr (.inr fun c hc => ?_)), rfl⟩
    rw [hmissing] at hc
    cases hc
  obtain ⟨hc, rfl⟩ := require_eq_ok.1 hread
  rcases bind_eq_error.1 h with hrefused | ⟨_, _, hpayable, h⟩
  · refine .inl ⟨.inr (.inr (.inr fun c' hc' => ?_)), by rw [refuseUnpayable_error hrefused]⟩
    obtain rfl := Option.some.inj (hc.symm.trans hc')
    simp only [Payment.refuseUnpayable, bind_eq_error, raiseIf_eq_error, raiseIf_eq_ok,
      query_eq_error, query_eq_ok, false_or] at hrefused
    rcases hrefused with ⟨hexpired, -⟩ | ⟨_, _, ⟨-, rfl⟩, ⟨hunpayable, -⟩ |
      ⟨_, _, ⟨-, rfl⟩, _, _, ⟨rfl, rfl⟩, hother, -⟩⟩
    · exact .inl hexpired
    · exact .inr (.inl hunpayable)
    · exact .inr (.inr hother)
  have hopen : ¬(c.status = .expired ∨ c.status.unpayable = true ∨ (c.status = .completed ∧
      (w.db.orderOfCheckout p.checkoutId).elim false (fun o => o.paymentId != p.paymentId) =
        true)) := by
    simp only [Payment.refuseUnpayable, bind_eq_ok, raiseIf_eq_ok, query_eq_ok] at hpayable
    obtain ⟨_, _, ⟨hexpired, rfl⟩, _, _, ⟨hunpayable, rfl⟩, _, _, ⟨rfl, rfl⟩, hother, -⟩ := hpayable
    rintro (h | h | h)
    · exact hexpired h
    · exact hunpayable h
    · exact hother h
  obtain ⟨rfl, -⟩ := refuseUnpayable_ok hpayable
  rcases bind_eq_error.1 h with hraise | ⟨_, _, hgo, h⟩
  · obtain ⟨hnone, -, rfl⟩ := raiseIf_eq_error.1 hraise
    exact .inl ⟨.inr (.inr (.inl hnone)), rfl⟩
  obtain ⟨hsome, rfl⟩ := raiseIf_eq_ok.1 hgo
  refine .inr ⟨?_, settleVerified_raised hp h⟩
  rintro (h | h | h | h)
  · exact hverified h
  · exact hfailed h
  · exact hsome h
  · exact hopen (h c hc)

end
end AgenticCommerce
