/-
# Cancelling, verifying and expiring at once

`cancel_checkout`, `verify_payment` and the expiry sweep as transactions over the rows of
one sale, statement by statement (`Sale.next`), under the locks of `Relational.RowLocks`.
What a session has loaded stays as it was loaded: the locking query of `cancel_checkout`
finds the checkout already in the session, so its status is the one read before the lock,
and the second locking query of `verify_payment` repeats the status of the first.

A transaction may roll back at any point.  The checks that only ever raise are therefore
left out: the tenant's, the provider's, the order's, and the ones on the inventory counters.
All three take the checkout's lock before they write to any row, so one lock for the rows of
the sale is the locks they take.

`completed_sale_kept` says when a completed sale stays one: as long as no session cancels on
a status that the sale has outlived (`Sale.Stale`).  The hold of a completed sale is safe in
any case, because every update of it asks for a hold that is still held.
-/

import AgenticCommerce.Lifecycle.Holds
import AgenticCommerce.Payments.Service
import AgenticCommerce.Relational.RowLocks
import AgenticCommerce.Worker

namespace AgenticCommerce

open Relational Relational.RowLocks

namespace Sale

/-- The rows of one sale: the checkout, its reservation and its payments. -/
structure Rows where
  checkout : CheckoutStatus
  expiresAt : Time
  hold : ReservationStatus
  payments : String → Option PaymentStatus

/-- How far a session has come, and what it has loaded. -/
inductive Memory where
  /-- `cancel_checkout`: at the start, and with the checkout loaded. -/
  | cancelling
  | cancelLoaded (seen : CheckoutStatus)
  /-- The checkout's object has a new status, its hold is looked up, the hold is released,
  and the new status is flushed. -/
  | closing (target : CheckoutStatus)
  | releasing (target : CheckoutStatus)
  | flushing (target : CheckoutStatus)
  /-- `verify_payment`: at the start, with the payment loaded, and with the checkout loaded. -/
  | verifying (paymentId : String)
  | verifyLoaded (paymentId : String) (paid : PaymentStatus)
  | verifyChecked (paymentId : String) (paid : PaymentStatus) (seen : CheckoutStatus)
  /-- The payment's and the checkout's objects have new statuses, the hold is looked up and
  committed, and the new statuses are flushed. -/
  | taking (paymentId : String) (paid : PaymentStatus) (target : CheckoutStatus)
  | committingStock (paymentId : String) (paid : PaymentStatus) (target : CheckoutStatus)
  | settling (paymentId : String) (paid : PaymentStatus) (target : Option CheckoutStatus)
  /-- `_sweep_expired_checkouts`. -/
  | sweeping (now : Time)
  | committing
  | raising
  | ended

/-- `UPDATE reservation SET status = … WHERE … AND status = 'held'`. -/
def Rows.settleHold (status : ReservationStatus) (r : Rows) : Rows :=
  if r.hold = .held then { r with hold := status } else r

/-- A transition of the checkout's object along an edge, or its refusal. -/
def Memory.along (edge : Option CheckoutStatus) (k : CheckoutStatus → Memory) : Memory :=
  edge.elim .raising k

/-- **The next statement of a session.** -/
def next : Memory → Statement Rows Memory
  | .cancelling => .select fun r => .cancelLoaded r.checkout
  -- the row is locked, and the object in the session keeps the status it was loaded with
  | .cancelLoaded seen => .selectForUpdate fun _ =>
      if seen = .cancelled ∨ seen = .expired then .committing
      else .along (seen.next .cancelCheckout) .closing
  | .closing target => .select fun r =>
      if r.hold = .held then .releasing target else .flushing target
  | .releasing target => .update (Rows.settleHold .released) fun _ => .flushing target
  | .flushing target => .update (fun r => { r with checkout := target }) fun _ => .committing
  | .verifying paymentId => .select fun r => match r.payments paymentId with
      | none => .raising
      | some .verified => .committing
      | some .failed => .raising
      | some paid => .verifyLoaded paymentId paid
  -- the checkout is loaded by the locking query itself
  | .verifyLoaded paymentId paid => .selectForUpdate fun r =>
      if r.checkout = .expired ∨ r.checkout.unpayable = true then .raising
      else .verifyChecked paymentId paid r.checkout
  | .verifyChecked paymentId paid seen => .selectForUpdate fun _ =>
      match paid.next .verifyPayment with
      | none => .raising
      | some paid' =>
          if seen.terminal then .settling paymentId paid' none
          else .along (seen.next .completeOrder) (.taking paymentId paid')
  | .taking paymentId paid target => .select fun r => match r.hold with
      | .committed => .settling paymentId paid (some target)
      | .held => .committingStock paymentId paid target
      | .released => .raising
  | .committingStock paymentId paid target => .update (Rows.settleHold .committed) fun r =>
      if r.hold = .held then .settling paymentId paid (some target) else .raising
  | .settling paymentId paid target => .update
      (fun r => { r with
        checkout := target.getD r.checkout
        payments := Function.update r.payments paymentId (some paid) })
      fun _ => .committing
  | .sweeping now => .selectSkipLocked
      (fun r => decide (r.checkout ∈ Worker.sweptStatuses) && decide (r.expiresAt ≤ now))
      fun found => found.elim .committing fun r =>
        -- a refused item is rolled back to its savepoint, and the batch is committed
        (r.checkout.next .expireCheckout).elim .committing .closing
  | .committing => .commit
  | .raising => .rollback
  | .ended => .rollback

/-- Where a request or a job begins. -/
def Memory.Fresh : Memory → Prop
  | .cancelling | .verifying _ | .sweeping _ | .ended => True
  | _ => False

/-- A session is about to cancel on a status that the sale has outlived. -/
def Stale (m : Memory) (r : Rows) : Prop :=
  r.checkout = .completed ∧ ∃ seen t, m = .cancelLoaded seen ∧ seen.next .cancelCheckout = some t

variable {ι : Type} [DecidableEq ι] {s₀ s s' : State ι Rows Memory}

/-- Requests and jobs, before any of them has begun. -/
structure Started (s : State ι Rows Memory) : Prop where
  free : s.holder = none
  unwritten : ∀ i, (s.transactions i).writes = id
  fresh : ∀ i, (s.transactions i).memory.Fresh

/-- Every interleaving. -/
def Interleaving : State ι Rows Memory → State ι Rows Memory → Prop :=
  Run next .ended fun _ _ => True

/-- The interleavings in which nobody takes the lock to cancel on an outlived status. -/
def Attentive : State ι Rows Memory → State ι Rows Memory → Prop :=
  Run next .ended fun m r => ¬Stale m r

/-! ### The hold -/

theorem Rows.settleHold_committed {status : ReservationStatus} {r : Rows}
    (h : r.hold = .committed) : (r.settleHold status).hold = .committed := by
  rw [Rows.settleHold, if_neg, h]
  rw [h]
  nofun

/-- The writes of a session leave a committed hold committed. -/
def HoldKept (_ : Memory) (_ : Rows) (f : Rows → Rows) (_ : Bool) : Prop :=
  ∀ r, r.hold = .committed → (f r).hold = .committed

theorem next_update_hold {m : Memory} {g : Rows → Rows} {k : Rows → Memory}
    (h : next m = .update g k) (r : Rows) (hr : r.hold = .committed) :
    (g r).hold = .committed := by
  cases m <;> simp only [next, reduceCtorEq, Statement.update.injEq] at h
  case releasing => exact h.1 ▸ Rows.settleHold_committed hr
  case committingStock => exact h.1 ▸ Rows.settleHold_committed hr
  case flushing => exact h.1 ▸ hr
  case settling => exact h.1 ▸ hr

theorem holdKept : LocalInvariant next .ended (fun _ _ => True) HoldKept where
  ended _ _ hr := hr
  elsewhere _ h := h
  select _ h := h
  lock _ _ h := h
  lockFree _ _ h := h
  skip _ h := h
  update hnext h r hr := next_update_hold hnext _ (h r hr)

/-! ### The status -/

/-- What a session has decided about the checkout's status is decided under the lock, and
completes the sale unless it is not complete. -/
def Memory.Decided (b : Bool) (r : Rows) : Memory → Prop
  | .closing _ | .releasing _ | .flushing _ => b = true ∧ r.checkout ≠ .completed
  | .taking _ _ target | .committingStock _ _ target => target = .completed
  | .settling _ _ target => ∀ t ∈ target, t = .completed
  | _ => True

/-- The writes of a session leave a completed sale completed. -/
def SaleKept (m : Memory) (r : Rows) (f : Rows → Rows) (b : Bool) : Prop :=
  (r.checkout = .completed → (f r).checkout = .completed) ∧ m.Decided b r

theorem next_completeOrder_eq {seen t : CheckoutStatus}
    (h : seen.next .completeOrder = some t) : t = .completed := by
  rw [CheckoutStatus.next_completeOrder] at h
  split_ifs at h
  exact (Option.some.inj h).symm

theorem saleKept : LocalInvariant next .ended (fun m r => ¬Stale m r) SaleKept where
  ended _ := ⟨id, trivial⟩
  elsewhere {m _} r' h := by
    refine ⟨id, ?_⟩
    cases m <;> simp_all [SaleKept, Memory.Decided]
  select {m r f b k} hnext h := by
    obtain ⟨hkept, hdecided⟩ := h
    refine ⟨hkept, ?_⟩
    cases m <;> simp only [next, reduceCtorEq, Statement.select.injEq] at hnext <;>
      subst hnext <;> beta_reduce
    case cancelling => trivial
    case closing => split_ifs <;> exact hdecided
    case verifying => split <;> trivial
    case taking =>
      split
      · rintro t ⟨⟩
        exact hdecided
      · exact hdecided
      · trivial
  lock {m r f b k} hnext hsound h := by
    obtain ⟨hkept, hdecided⟩ := h
    refine ⟨hkept, ?_⟩
    cases m <;> simp only [next, reduceCtorEq, Statement.selectForUpdate.injEq] at hnext <;>
      subst hnext <;> beta_reduce
    case cancelLoaded seen =>
      split_ifs
      · trivial
      · cases hedge : seen.next .cancelCheckout with
        | none => trivial
        | some t => exact ⟨rfl, fun hr => hsound ⟨hkept hr, seen, t, rfl, hedge⟩⟩
    case verifyLoaded => split_ifs <;> trivial
    case verifyChecked paymentId paid seen =>
      split
      · trivial
      · split_ifs
        · rintro t ⟨⟩
        · cases hedge : seen.next .completeOrder with
          | none => trivial
          | some t => exact next_completeOrder_eq hedge
  lockFree {m r f b wanted k} hnext hwanted h := by
    obtain ⟨hkept, -⟩ := h
    refine ⟨hkept, ?_⟩
    cases m <;> simp only [next, reduceCtorEq, Statement.selectSkipLocked.injEq] at hnext
    obtain ⟨rfl, rfl⟩ := hnext
    rw [Bool.and_eq_true, decide_eq_true_iff, decide_eq_true_iff] at hwanted
    have hopen : r.checkout ≠ .completed := by
      intro hr
      rw [hkept hr] at hwanted
      exact absurd hwanted.1 (by decide)
    change ((((f r).checkout.next .expireCheckout).elim .committing .closing : Memory)).Decided _ _
    cases (f r).checkout.next .expireCheckout with
    | none => trivial
    | some t => exact ⟨rfl, hopen⟩
  skip {m r f b wanted k} hnext h := by
    refine ⟨h.1, ?_⟩
    cases m <;> simp only [next, reduceCtorEq, Statement.selectSkipLocked.injEq] at hnext
    obtain ⟨-, rfl⟩ := hnext
    trivial
  update {m r f b g k} hnext h := by
    obtain ⟨hkept, hdecided⟩ := h
    cases m <;> simp only [next, reduceCtorEq, Statement.update.injEq] at hnext <;>
      obtain ⟨rfl, rfl⟩ := hnext <;> beta_reduce
    case releasing =>
      refine ⟨fun hr => ?_, rfl, hdecided.2⟩
      exact absurd hr hdecided.2
    case flushing => exact ⟨fun hr => absurd hr hdecided.2, trivial⟩
    case committingStock =>
      refine ⟨fun hr => ?_, ?_⟩
      · have := hkept hr
        simp only [Function.comp_apply, Rows.settleHold]
        split_ifs <;> exact this
      · split_ifs
        · rintro t ⟨⟩
          exact hdecided
        · trivial
    case settling paymentId paid target =>
      refine ⟨fun hr => ?_, trivial⟩
      cases target with
      | none => exact hkept hr
      | some t => exact hdecided t rfl

theorem next_cancelCheckout_eq {seen t : CheckoutStatus}
    (h : seen.next .cancelCheckout = some t) : ¬(seen = .cancelled ∨ seen = .expired) ∧
      t = .cancelled := by
  rw [CheckoutStatus.next_cancelCheckout] at h
  split_ifs at h with hopen
  refine ⟨?_, (Option.some.inj h).symm⟩
  rintro (rfl | rfl) <;> exact absurd hopen (by decide)

/-! ### Runs -/

omit [DecidableEq ι] in
theorem Started.idle {I : Memory → Rows → (Rows → Rows) → Bool → Prop} (h : Started s₀)
    (hI : ∀ m r, m.Fresh → I m r id false) : Idle I s₀ where
  free := h.free
  unwritten := h.unwritten
  initially i := hI _ _ (h.fresh i)

omit [DecidableEq ι] in
theorem Started.saleKept (h : Started s₀) : Idle SaleKept s₀ := by
  refine h.idle fun m r hm => ⟨id, ?_⟩
  cases m <;> trivial

/-- **A session that is about to cancel on an outlived status can**, once the lock is free. -/
theorem stale_cancels {i : ι} {r : Rows} {seen t : CheckoutStatus}
    (hat : s.At i (.cancelLoaded seen) id r) (hedge : seen.next .cancelCheckout = some t) :
    ∃ s', Interleaving s s' ∧ s'.rows.checkout = .cancelled := by
  obtain ⟨hopen, rfl⟩ := next_cancelCheckout_eq hedge
  have run {s s' : State ι Rows Memory} (h : Step next .ended i s s') : Interleaving s s' :=
    .single ⟨i, h, fun _ => trivial⟩
  obtain ⟨s₁, hlock, hat⟩ := hat.lock next .ended rfl
  rw [if_neg hopen, hedge] at hat
  change s₁.At i (.closing .cancelled) id r at hat
  obtain ⟨s₂, hlook, hat⟩ := hat.select next .ended rfl
  have flushed : ∀ {s : State ι Rows Memory} {f}, s.At i (.flushing .cancelled) f r →
      ∃ s', Interleaving s s' ∧ s'.rows.checkout = .cancelled := by
    intro s f hat
    obtain ⟨s₃, hflush, hat⟩ := hat.update next .ended rfl
    obtain ⟨s₄, hcommit, hrows⟩ := hat.commit next .ended rfl
    exact ⟨s₄, (run hflush).trans (run hcommit), by rw [hrows]; rfl⟩
  have hbefore := (run hlock).trans (run hlook)
  split_ifs at hat
  · obtain ⟨s₃, hrelease, hat⟩ := hat.update next .ended rfl
    obtain ⟨s', hafter, hs'⟩ := flushed hat
    exact ⟨s', hbefore.trans ((run hrelease).trans hafter), hs'⟩
  · obtain ⟨s', hafter, hs'⟩ := flushed hat
    exact ⟨s', hbefore.trans hafter, hs'⟩

/-- **When a completed sale stays completed.**  The hold of a sale, once committed, stays
committed in every interleaving.  Its completed status stays in every interleaving in which
no session takes the lock to cancel on a status that the sale has outlived; and wherever a
session stands before that lock, and the lock is free, it can go on to cancel the sale. -/
theorem completed_sale_kept (hs : Started s₀) :
    (Interleaving s₀ s → Interleaving s s' → s.rows.hold = .committed →
      s'.rows.hold = .committed) ∧
    (Attentive s₀ s → Attentive s s' → s.rows.checkout = .completed →
      s'.rows.checkout = .completed) ∧
    (Interleaving s₀ s → ∀ i, Stale (s.transactions i).memory (s.view i) → s.holder = none →
      ∃ s'', Interleaving s s'' ∧ s''.rows.checkout = .cancelled) := by
  refine ⟨fun hbefore hrun h => ?_, fun hbefore hrun h => ?_, fun hbefore i hstale hfree => ?_⟩
  · exact holdKept.keeps (K := fun r => r.hold = .committed) (fun hI => hI _)
      (hs.idle fun _ _ _ _ hr => hr) hbefore hrun h
  · exact saleKept.keeps (K := fun r => r.checkout = .completed) (fun hI => hI.1)
      hs.saleKept hbefore hrun h
  · obtain ⟨hexclusive, -⟩ := holdKept.run (hs.idle fun _ _ _ _ hr => hr) hbefore
    have hunwritten : (s.transactions i).writes = id := by
      refine (hexclusive i).resolve_right ?_
      rw [hfree]
      nofun
    obtain ⟨-, seen, t, hmemory, hedge⟩ := hstale
    refine stale_cancels (i := i) ⟨?_, rfl, .inl hfree⟩ hedge
    rw [← hmemory, ← hunwritten]

/-- A completed sale that two sessions are about to cancel. -/
def sold : State Bool Rows Memory where
  rows := { checkout := .completed, expiresAt := 0, hold := .committed, payments := fun _ => none }
  transactions _ := { memory := .cancelling }

/-- One of them has read the checkout. -/
def soldAndSeen : State Bool Rows Memory := sold.put true { memory := .cancelLoaded .completed }

theorem sold_sale_kept :
    soldAndSeen.rows.hold = .committed ∧ soldAndSeen.rows.checkout = .completed := by
  have hread : Step next .ended true sold soldAndSeen :=
    Step.select (k := fun r : Rows => Memory.cancelLoaded r.checkout) rfl
  have hall := @completed_sale_kept _ _ sold sold soldAndSeen
    ⟨rfl, fun _ => rfl, fun _ => trivial⟩
  have hany : Interleaving sold soldAndSeen := .single ⟨true, hread, fun _ => trivial⟩
  have hattentive : Attentive sold soldAndSeen := .single ⟨true, hread, nofun⟩
  exact ⟨hall.1 .refl hany rfl, hall.2.1 .refl hattentive rfl⟩

/-! ### The schedule that cancels a completed sale -/

/-- An approved checkout with a pending payment, about to be cancelled by one session and
verified by another. -/
def contested : State Bool Rows Memory where
  rows := { checkout := .authorized, expiresAt := 0, hold := .held,
            payments := Function.update (fun _ => none) "pay" (some .pending) }
  transactions i := { memory := if i then .cancelling else .verifying "pay" }

theorem contested_started : Started contested where
  free := rfl
  unwritten _ := rfl
  fresh i := by cases i <;> trivial

/-- **A cancellation that read its checkout before the sale was completed undoes it**: the
sale is completed and committed, and then it is cancelled, with its stock committed. -/
theorem completed_sale_cancelled : ∃ s s' : State Bool Rows Memory, Interleaving contested s ∧
    Interleaving s s' ∧ s.rows.checkout = .completed ∧ s'.rows.checkout = .cancelled ∧
    s'.rows.hold = .committed := by
  have go {i : Bool} {s s' s'' : State Bool Rows Memory} (h : Step next .ended i s s')
      (hrest : Interleaving s' s'') : Interleaving s s'' :=
    .head ⟨i, h, fun _ => trivial⟩ hrest
  -- the cancellation reads; the verification runs and commits; the cancellation goes on
  refine ⟨_, _, go (i := true) (.select rfl) <| go (i := false) (.select rfl) <|
      go (i := false) (.lock rfl (.inl rfl)) <| go (i := false) (.lock rfl (.inr rfl)) <|
      go (i := false) (.select rfl) <| go (i := false) (.update rfl (.inr rfl)) <|
      go (i := false) (.update rfl (.inr rfl)) <| go (i := false) (.commit rfl) .refl,
    go (i := true) (.lock rfl (.inl rfl)) <| go (i := true) (.select rfl) <|
      go (i := true) (.update rfl (.inr rfl)) <| go (i := true) (.commit rfl) .refl, ?_⟩
  exact ⟨rfl, rfl, rfl⟩

end Sale
end AgenticCommerce
