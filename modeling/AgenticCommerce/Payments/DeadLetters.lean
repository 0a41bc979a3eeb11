/-
# The replay of dead letters

The worker takes a dead letter as settled when the webhook processor answers its replay,
and the processor answers `ok` whatever it did: the callback of a dead letter is stored
already, so its replay is told `already_processed` and nothing is applied.  When the
processor raises instead, as it does for a payload that was written out in other bytes
than those that were signed, the savepoint takes the attempt back along with the rest, and
the letter is replayed for ever.  A replay counts, and resolves a letter rightly, when it is
`Worker.Replays`: authentic as written out, and about a payment that has the status the
callback reports, or that the handler brings there (`dead_letters_sound`).
-/

import AgenticCommerce.Lifecycle.Steps
import AgenticCommerce.Payments.Atomicity

namespace AgenticCommerce

open Relational Work

/-! ### By what a callback knows its payment -/

/-- The columns by which a callback knows a payment. -/
def Payment.refs (p : Payment) : String × Option String := (p.paymentId, p.providerOrderId)

/-- The payments are known by what they were known by. -/
def Database.SameRefs (db db' : Database) : Prop :=
  db'.payments.rows.map Payment.refs = db.payments.rows.map Payment.refs

namespace Database.SameRefs

variable {db db' : Database}

instance : IsPreorder Database Database.SameRefs where
  refl _ := rfl
  trans _ _ _ h h' := h'.trans h

theorem modify {id : String} {f : Payment → Payment} {h : ∀ p, Keyed.key (f p) = Keyed.key p}
    (hf : ∀ p, (f p).providerOrderId = p.providerOrderId) :
    db.SameRefs (db.modifyPayment id f h) := by
  rw [Database.SameRefs, Database.modifyPayment, Table.modify, List.map_map]
  refine List.map_congr_left fun p _ => ?_
  have hid : (f p).paymentId = p.paymentId := h p
  simp only [Function.comp_apply, Payment.refs]
  split_ifs
  · rw [hid, hf]
  · rfl

instance : BooksFrame Database.SameRefs := ⟨fun _ _ _ _ _ _ => rfl, fun _ _ _ => rfl⟩
instance : TransitionFrame Database.SameRefs where
  checkout _ _ _ _ _ _ := rfl
  payment db id s _ _ :=
    show db.SameRefs (db.modifyPayment id (fun p => { p with status := s }) fun _ => rfl) from
      modify fun _ => rfl
instance : SettlementFrame Database.SameRefs := ⟨fun _ _ _ _ _ hf => modify hf⟩
instance : CallbackFrame Database.SameRefs := ⟨fun _ _ _ => rfl⟩

/-- A lookup by a reference finds a payment of the same references. -/
theorem first (h : db.SameRefs db') (q : String × Option String → Bool) :
    (db'.payments.first fun p => q p.refs).map Payment.refs =
      (db.payments.first fun p => q p.refs).map Payment.refs := by
  have hmap : ∀ t : Table Payment, (t.first fun p => q p.refs).map Payment.refs =
      (t.rows.map Payment.refs).find? q := fun t => (List.find?_map).symm
  rw [hmap, hmap, h]

/-- **A callback is matched to the payment that it was matched to.** -/
theorem matchPayment {payload : Json} {o : Option String} {p q : Payment} (h : db.SameRefs db')
    (hp : Webhook.matchPayment payload o db = .ok (some p))
    (hq : db'.paymentById p.paymentId = some q) :
    Webhook.matchPayment payload o db' = .ok (some q) := by
  have hbyOrder : ∀ o, (Webhook.paymentOfOrder o db').map Payment.refs =
      (Webhook.paymentOfOrder o db).map Payment.refs := fun o => h.first fun r => r.2 == some o
  unfold Webhook.matchPayment at hp ⊢
  cases hfound : o.bind fun o => Webhook.paymentOfOrder o db with
  | some p' =>
      rw [hfound] at hp
      obtain rfl := Option.some.inj (Except.ok.inj hp)
      obtain ⟨o, rfl, hfirst⟩ := Option.bind_eq_some_iff.1 hfound
      have hrefs := hbyOrder o
      rw [hfirst] at hrefs
      obtain ⟨q', hq', hsame⟩ := Option.map_eq_some_iff.1 hrefs
      have hid : q'.paymentId = p'.paymentId := congrArg Prod.fst hsame
      have hq'' := paymentById_of_mem (Table.first_eq_some hq').1
      rw [hid, hq] at hq''
      obtain rfl := Option.some.inj hq''
      rw [Option.bind_some, hq']
  | none =>
      rw [hfound] at hp
      have hnone : (o.bind fun o => Webhook.paymentOfOrder o db') = none := by
        cases o with
        | none => rfl
        | some o =>
            have hrefs := hbyOrder o
            rw [show Webhook.paymentOfOrder o db = none from hfound] at hrefs
            exact Option.map_eq_none_iff.1 hrefs
      rw [hnone]
      cases hid : Webhook.internalId payload with
      | error e =>
          rw [hid] at hp
          exact nomatch hp
      | ok i =>
          rw [hid] at hp
          obtain ⟨j, rfl, hfirst⟩ := Option.bind_eq_some_iff.1 (Except.ok.inj hp)
          have hj : p.paymentId = j := beq_iff_eq.1 (Table.first_eq_some hfirst).2
          rw [hj] at hq
          exact congrArg Except.ok hq

end Database.SameRefs

/-! ### The effect of a callback -/

namespace Webhook

variable {env : Env} {d : Delivery} {w w' w₁ : World} {event : Event} {p : Payment}
  {ids : Option String × Option String} {failure : Failure} {db : Database} {eventType : String}
  {payload : Json}

/-- The status of a payment that a callback reports. -/
def reported (eventType : String) : PaymentStatus :=
  if eventType ∈ captureTypes then .verified else .failed

/-- The payment effect of a callback has been applied: it is about a payment that has the
status it reports, or of a type that has no effect. -/
def applied (env : Env) (eventType : String) (payload : Json) (db : Database) : Bool :=
  if eventType ∈ captureTypes ++ failureTypes then
    match references env payload with
    | .error _ => false
    | .ok ids => match matchPayment payload ids.1 db with
      | .ok (some p) => p.status == reported eventType
      | _ => false
  else true

theorem applied_of_matched (hrefs : references env payload = .ok ids)
    (hfound : matchPayment payload ids.1 db = .ok (some p)) (hs : p.status = reported eventType) :
    applied env eventType payload db = true := by
  unfold applied
  split_ifs
  · rw [hrefs]
    simp only [hfound, hs, beq_self_eq_true]
  · rfl

/-- **The handler brings the payment to the status that is reported**, unless it is there:
the capture is carried, checked and not refused, and the payment pending; or the failure
finds it created or pending. -/
def Brings (env : Env) (event : Event) (d : Delivery) (p : Payment)
    (ids : Option String × Option String) (db : Database) : Prop :=
  p.status = reported event.eventType ∨
    if event.eventType ∈ captureTypes then
      p.status = .pending ∧
        (∃ payId, capturedId ids p = some payId ∧ independentCheck env p payId ids.1 = .ok ()) ∧
        ¬Payment.Gated env p (capturedId ids p) (some d.signature) db ∧
        (stamped env d p ids db).flushable = true
    else p.status = .created ∨ p.status = .pending

/-- The payment has a status, in a store with the dead letters it had and with unique
identifiers. -/
def Landed (p : Payment) (s : PaymentStatus) (db db' : Database) : Prop :=
  db'.flushable = true ∧ db'.failedWebhooks = db.failedWebhooks ∧
    ∃ q, db'.paymentById p.paymentId = some q ∧ q.status = s

theorem Landed.of_sameLetters {s : PaymentStatus} {db' : Database} (h : db.SameLetters db')
    (hflush : db.flushable = true) (hp : db.paymentById p.paymentId = some p) (hs : p.status = s) :
    Landed p s db db' :=
  ⟨h.flushable.trans hflush, h.2, p, by rw [Database.paymentById, h.1]; exact hp, hs⟩

/-- Whatever comes of `m`, the payment lands, and the session can go on. -/
def Lands {α : Type} (m : Op α) (p : Payment) (s : PaymentStatus) (w : World) : Prop :=
  (∀ a w', m w = .ok a w' → Landed p s w.db w'.db) ∧
    ∀ e w', m w = .error e w' → e.usable = true ∧ Landed p s w.db w'.db

theorem Lands.of_steady {α : Type} {m : Op α} {s : PaymentStatus} (hm : Steady m)
    (hflush : w.db.flushable = true) (hp : w.db.paymentById p.paymentId = some p)
    (hs : p.status = s) : Lands m p s w :=
  ⟨fun _ _ h => .of_sameLetters (hm.moves.1 _ _ _ h).1 hflush hp hs,
    fun _ _ h => ⟨hm.usable _ _ _ h hflush, .of_sameLetters (hm.moves.2 _ _ _ h).1 hflush hp hs⟩⟩

theorem Lands.ofAnswer {α β : Type} {answer : Except Failure α} {f : α → Op β} {s : PaymentStatus}
    (hok : ∀ a, answer = .ok a → Lands (f a) p s w)
    (herror : ∀ e, answer = .error e → e.usable = true ∧ Landed p s w.db w.db) :
    Lands (AgenticCommerce.ofAnswer answer >>= f) p s w := by
  cases answer with
  | ok a =>
      have hrun : (AgenticCommerce.ofAnswer (.ok a) >>= f) w = f a w :=
        bind_of_ok (ofAnswer_eq_ok.2 ⟨rfl, rfl⟩)
      rw [Lands, hrun]
      exact hok a rfl
  | error e =>
      have hrun : (AgenticCommerce.ofAnswer (.error e) >>= f) w = .error e w :=
        bind_of_error (ofAnswer_eq_error.2 ⟨rfl, rfl⟩)
      rw [Lands, hrun]
      refine ⟨nofun, fun e' w' h => ?_⟩
      obtain ⟨rfl, rfl⟩ := EStateM.Result.error.inj h
      exact herror e rfl

theorem Lands.discard {α β : Type} {m : Op α} {b : β} {s : PaymentStatus} (hm : Lands m p s w) :
    Lands (m >>= fun _ => pure b) p s w := by
  constructor
  · intro a w' h
    obtain ⟨_, _, hrun, hpure⟩ := bind_eq_ok.1 h
    obtain ⟨-, rfl⟩ := pure_eq_ok.1 hpure
    exact hm.1 _ _ hrun
  · intro e w' h
    rcases bind_eq_error.1 h with h | ⟨_, _, -, h⟩
    · exact hm.2 _ _ h
    · exact (pure_eq_error.1 h).elim

/-! ### Settlements that land -/

/-- A settlement that follows an edge of the payment's status lands. -/
theorem landed_of_returned {α : Type} {f : Payment → Payment}
    {hkey : ∀ p, Keyed.key (f p) = Keyed.key p} {ev : TransitionEvent} {merchantId : String}
    {rest : Unit → Op α} {a : α} (hp : w.db.paymentById p.paymentId = some p)
    (hflush : (w.db.modifyPayment p.paymentId f hkey).flushable = true)
    (hrest : ∀ u, Steady (rest u))
    (h : (update (fun db => db.modifyPayment p.paymentId f hkey) >>= fun _ =>
      transition (.payment p) ev (Payment.bySystem env merchantId) >>= rest) w = .ok a w') :
    ∃ s, p.status.next ev = some s ∧ Landed p s w.db w'.db := by
  simp only [bind_eq_ok, update_eq_ok] at h
  obtain ⟨_, _, rfl, _, _, htr, h⟩ := h
  obtain ⟨s, e, hnext, rfl⟩ := transition_payment htr
  have hsame := ((hrest ()).moves.1 _ _ _ h).1
  have hstatus : ((w.db.modifyPayment p.paymentId f hkey).setPaymentStatus p.paymentId s).flushable =
      true := (flushable_modifyPayment (f := fun q => { q with status := s }) (k := fun _ => rfl)
        fun _ => ⟨rfl, rfl⟩).trans hflush
  refine ⟨s, hnext, hsame.flushable.trans hstatus, hsame.2, { f p with status := s }, ?_, rfl⟩
  rw [Database.paymentById, hsame.1]
  exact paymentById_modifyPayment (f := fun q => { q with status := s }) (k := fun _ => rfl)
    (paymentById_modifyPayment hp)

/-- A settlement that was interrupted beyond an edge has landed. -/
theorem landed_of_interrupted {ev : TransitionEvent} {f : Payment → Payment}
    {k : ∀ p, Keyed.key (f p) = Keyed.key p} {s : PaymentStatus}
    (hflush : (w.db.modifyPayment p.paymentId f k).flushable = true)
    (hnext : p.status.next ev = some s)
    (h : Interrupted ev p (w.db.modifyPayment p.paymentId f k) failure w'.db) :
    failure.usable = true ∧ Landed p s w.db w'.db := by
  rcases h with ⟨hnone, -⟩ | ⟨s', hnext', husable, hflushed, hletters, hq⟩
  · rw [hnext] at hnone
    exact nomatch hnone
  · obtain rfl := Option.some.inj (hnext.symm.trans hnext')
    exact ⟨husable hflush, hflushed.trans hflush, hletters, hq⟩

/-- A verification of a payment that is verified confirms its order at most. -/
theorem verifyPayment_lands_verified {payId sig : Option String}
    (hp : w.db.paymentById p.paymentId = some p) (hs : p.status = .verified)
    (hflush : w.db.flushable = true) :
    Lands (Payment.verifyPayment env p.paymentId payId sig) p .verified w := by
  rw [Lands, Payment.verifyPayment, bind_of_ok (require_eq_ok.2 ⟨hp, rfl⟩), if_pos hs]
  exact Lands.of_steady (.bind confirmOrder_steady fun _ => .pure) hflush hp hs

/-- A verification that is not refused verifies a pending payment. -/
theorem verifyPayment_lands_pending {payId sig : Option String}
    (hp : w.db.paymentById p.paymentId = some p) (hs : p.status = .pending)
    (hgated : ¬Payment.Gated env p payId sig w.db)
    (hflush : (w.db.modifyPayment p.paymentId (Payment.stampVerified env.now payId sig)
      fun _ => rfl).flushable = true) :
    Lands (Payment.verifyPayment env p.paymentId payId sig) p .verified w := by
  have hnext : p.status.next .verifyPayment = some .verified := by
    rw [PaymentStatus.next_verifyPayment, if_pos hs]
  constructor
  · intro r w' h
    rw [Payment.verifyPayment, bind_of_ok (require_eq_ok.2 ⟨hp, rfl⟩),
      if_neg (by rw [hs]; rintro ⟨⟩)] at h
    simp only [bind_eq_ok, raiseIf_eq_ok, require_eq_ok] at h
    obtain ⟨_, _, ⟨-, rfl⟩, c, _, ⟨hc, rfl⟩, _, _, hpayable, _, _, ⟨-, rfl⟩, h⟩ := h
    obtain ⟨rfl, -⟩ := refuseUnpayable_ok hpayable
    obtain ⟨s, hs', hlanded⟩ := landed_of_returned hp hflush (fun _ => .bind .query fun _ =>
      .bind (.unlessTrue (.elim fun _ => .transition_checkout (.inl rfl))) fun _ =>
      .bind (.unlessTrue commitStock_steady) fun _ => .bind confirmOrder_steady fun _ =>
      .bind .flush fun _ => .bind .appendEvent fun _ => .pure) h
    obtain rfl := Option.some.inj (hnext.symm.trans hs')
    exact hlanded
  · intro e w' h
    rcases verifyPayment_raised hp h with ⟨hgate, -⟩ | ⟨-, hinterrupted⟩
    · exact absurd hgate hgated
    · exact landed_of_interrupted hflush hnext hinterrupted

/-- A failure lands, unless the payment is past it. -/
theorem failPayment_lands {reason : Option String} (hp : w.db.paymentById p.paymentId = some p)
    (hs : p.status = .failed ∨ p.status = .created ∨ p.status = .pending)
    (hflush : w.db.flushable = true) :
    Lands (Payment.failPayment env p.paymentId reason) p .failed w := by
  have hstamped : (w.db.modifyPayment p.paymentId (fun q => { q with updatedAt := env.now })
      fun _ => rfl).flushable = true :=
    (flushable_modifyPayment (f := fun q => { q with updatedAt := env.now })
      fun _ => ⟨rfl, rfl⟩).trans hflush
  constructor
  · intro v w' h
    rw [Payment.failPayment, bind_of_ok (require_eq_ok.2 ⟨hp, rfl⟩)] at h
    obtain ⟨s, hnext, hlanded⟩ := landed_of_returned hp hstamped (fun _ => .bind .query fun _ =>
      .bind (.unlessTrue releaseStock_steady) fun _ =>
      .bind (.unlessTrue (.elim fun _ => .transition_checkout (.inr rfl))) fun _ =>
      .bind .flush fun _ => .bind .appendEvent fun _ => .pure) h
    rw [PaymentStatus.next_failPayment] at hnext
    split_ifs at hnext
    obtain rfl := Option.some.inj hnext
    exact hlanded
  · intro e w' h
    have hinterrupted := failPayment_raised hp h
    rcases hs with hfailed | hopen
    · rcases hinterrupted with ⟨-, husable, hdb⟩ | ⟨s, hnext, -⟩
      · rw [hdb]
        exact ⟨husable, hstamped, rfl, _, paymentById_modifyPayment hp, hfailed⟩
      · rw [hfailed] at hnext
        cases hnext
    · exact landed_of_interrupted hstamped
        (by rw [PaymentStatus.next_failPayment, if_pos hopen]) hinterrupted

/-- An event with references has an object for its payload. -/
theorem getKey_of_references (hrefs : references env payload = .ok ids) (k : String) (x : Json) :
    ∃ y, getKey payload k x = .ok y := by
  cases payload with
  | obj items => exact ⟨_, rfl⟩
  | _ => exact nomatch hrefs

/-- The handler of a reported capture lands, if it brings the payment to `verified`. -/
theorem capture_lands (hp : w.db.paymentById p.paymentId = some p) (hflush : w.db.flushable = true)
    (hcapture : event.eventType ∈ captureTypes) (hbrings : Brings env event d p ids w.db) :
    Lands (capture env p ids.1 (capturedId ids p) d.signature) p .verified w := by
  rw [Brings, reported, if_pos hcapture, if_pos hcapture] at hbrings
  have hunwritten : p.status = .verified → Landed p .verified w.db w.db := fun hs =>
    ⟨hflush, rfl, p, hp, hs⟩
  refine .ofAnswer (fun payId hid => .ofAnswer (fun _ _ => .discard ?_) fun e he => ?_)
    fun e he => ?_
  · have hcarried : capturedId ids p = some payId := by
      cases hcarried : capturedId ids p with
      | none =>
          rw [hcarried] at hid
          cases hid
      | some payId' =>
          rw [hcarried] at hid
          exact congrArg some (Except.ok.inj hid)
    rcases hbrings with hs | ⟨hs, -, hgated, hstamped⟩
    · exact verifyPayment_lands_verified hp hs hflush
    · rw [stamped, hcarried] at hstamped
      rw [hcarried] at hgated
      exact verifyPayment_lands_pending hp hs hgated hstamped
  · split at he
    · cases he
    · rename_i hchecked
      obtain rfl := Except.error.inj he
      refine ⟨rfl, hunwritten (hbrings.resolve_right ?_)⟩
      rintro ⟨-, ⟨payId', hcarried, hagreed⟩, -⟩
      rw [hcarried] at hid
      obtain rfl := Except.ok.inj hid
      rw [hagreed] at hchecked
      cases hchecked
  · cases hcarried : capturedId ids p with
    | some payId =>
        rw [hcarried] at he
        cases he
    | none =>
        rw [hcarried] at he
        obtain rfl := Except.error.inj he
        refine ⟨rfl, hunwritten (hbrings.resolve_right ?_)⟩
        rintro ⟨-, ⟨payId, hsome, -⟩, -⟩
        rw [hcarried] at hsome
        cases hsome

/-- **The handler lands**, returned or raised, if it brings the payment to the status. -/
theorem handler_lands (hp : w.db.paymentById p.paymentId = some p) (hflush : w.db.flushable = true)
    (hrefs : references env event.payload = .ok ids) (hbrings : Brings env event d p ids w.db) :
    Lands (handler env event d p ids) p (reported event.eventType) w := by
  rw [handler, handle]
  by_cases hcapture : event.eventType ∈ captureTypes
  · rw [if_pos hcapture, reported, if_pos hcapture]
    exact capture_lands hp hflush hcapture hbrings
  · rw [Brings, reported, if_neg hcapture, if_neg hcapture] at hbrings
    rw [if_neg hcapture, reported, if_neg hcapture, Webhook.failure]
    obtain ⟨reason, hreason⟩ := getKey_of_references hrefs "error_description" (.str "Payment failed")
    rw [hreason]
    exact .ofAnswer (fun _ _ => .discard (failPayment_lands hp hbrings hflush)) fun _ h => by
      cases h

/-- **A delivery brings its payment to the status**, answered as processed or as dead. -/
theorem processWebhook_of_brings (hmatched : Matched env d w event ids p w₁)
    (hnew : ¬LetterStored env event w.db) (hbrings : Brings env event d p ids w.db) :
    ∃ a w', processWebhook env d w = .ok a w' ∧ w'.db.flushable = true ∧
      applied env event.eventType event.payload w'.db = true := by
  have happlied : ∀ a w', processWebhook env d w = .ok a w' → ∀ q,
      w'.db.paymentById p.paymentId = some q → q.status = reported event.eventType →
        applied env event.eventType event.payload w'.db = true := by
    intro a w' h q hq hs
    have hmoves : Work.Moves (OnWorld Database.SameRefs Anything) (processWebhook env d) :=
      processWebhook_frame
    exact applied_of_matched hmatched.references
      ((hmoves.1 _ _ _ h).1.matchPayment hmatched.found hq) hs
  obtain ⟨events, hdb⟩ := hmatched.db_eq
  obtain ⟨w₀, hopened, -⟩ := hmatched.opened
  have hflush : w₁.db.flushable = true := by rw [hdb]; exact hopened.flushable
  have hp : w₁.db.paymentById p.paymentId = some p := by rw [hdb]; exact hmatched.paymentById
  have hlands := handler_lands hp hflush hmatched.references (by rw [hdb]; exact hbrings)
  cases hhandler : handler env event d p ids w₁ with
  | ok u w₂ =>
      obtain ⟨hflush₂, -, q, hq, hs⟩ := hlands.1 _ _ hhandler
      have hrun : processWebhook env d w = .ok ⟨.processed, event.eventId⟩
          { w₂ with db := mark event.eventId .processed (some env.now) w₂.db } := by
        rw [processWebhook_of_matched hmatched,
          Work.bind_of_ok (Work.attempt_eq_ok.2 (.inl ⟨u, hhandler, rfl⟩)), conclude]
        refine bind_eq_ok.2 ⟨(), _, bind_eq_ok.2 ⟨(), _, update_eq_ok.2 rfl, ?_⟩, rfl⟩
        exact flush_eq_ok.2 ⟨hflush₂, rfl⟩
      exact ⟨_, _, hrun, hflush₂, happlied _ _ hrun q hq hs⟩
  | error e w₂ =>
      obtain ⟨husable, hflush₂, hletters, q, hq, hs⟩ := hlands.2 _ _ hhandler
      have hstorable : Storable env event w₂.db := by
        rw [storable_iff, LetterStored, hletters, hdb]
        exact ⟨hnew, hflush₂⟩
      obtain ⟨t, hrun⟩ := processWebhook_of_kept hmatched hhandler ⟨husable, hstorable⟩
      exact ⟨_, _, hrun, hflush₂, happlied _ _ hrun q hq hs⟩

end Webhook

/-! ### A replay that counts -/

namespace Worker

/-- **A dead letter replays**: it is authentic as it is written out, and is read back as it
was stored; and either its callback is stored and has had its effect, or it is new, with no
dead letter of its own yet, and of a type without an effect or matched to a payment that
its handler brings to the status that is reported. -/
def Replays (env : Env) (dumps : Json → List UInt8) (f : FailedWebhook) (db : Database) : Prop :=
  ∃ event, Webhook.parse env (replayOf dumps f) = .ok event ∧ event.eventType = f.eventType ∧
    event.payload = f.payload ∧
    if (Webhook.duplicate event (replayOf dumps f).signature db).isSome then
      Webhook.applied env f.eventType f.payload db = true
    else ¬Webhook.LetterStored env event db ∧
      (f.eventType ∈ Webhook.captureTypes ++ Webhook.failureTypes → ∃ ids p,
        Webhook.references env f.payload = .ok ids ∧
          Webhook.matchPayment f.payload ids.1 db = .ok (some p) ∧
            Webhook.Brings env event (replayOf dumps f) p ids db)

variable {env : Env} {dumps : Json → List UInt8} {f : FailedWebhook} {now : Time} {w w' : World}

/-- **A letter that replays is answered, and its event has had its effect.** -/
theorem processWebhook_of_replays (h : Replays env dumps f w.db) (hflush : w.db.flushable = true) :
    ∃ a w', Webhook.processWebhook env (replayOf dumps f) w = .ok a w' ∧
      w'.db.flushable = true ∧ Webhook.applied env f.eventType f.payload w'.db = true := by
  obtain ⟨event, hparsed, htype, hpayload, h⟩ := h
  split_ifs at h with hdup
  · obtain ⟨e, he⟩ := Option.isSome_iff_exists.1 hdup
    refine ⟨⟨.alreadyProcessed, e.providerEventId⟩, w, ?_, hflush, h⟩
    rw [Webhook.processWebhook, bind_of_ok (ofAnswer_eq_ok.2 ⟨hparsed, rfl⟩),
      bind_of_ok (query_eq_ok.2 ⟨he, rfl⟩)]
    rfl
  obtain ⟨hnew, h⟩ := h
  have hfresh := Option.not_isSome_iff_eq_none.1 hdup
  rw [← htype, ← hpayload] at h ⊢
  by_cases hhandled : event.eventType ∈ Webhook.captureTypes ++ Webhook.failureTypes
  · obtain ⟨ids, p, hrefs, hfound, hbrings⟩ := h hhandled
    exact Webhook.processWebhook_of_brings
      (Webhook.matched_session hparsed hfresh hflush hhandled hrefs hfound) hnew hbrings
  · obtain ⟨t, ht⟩ := Webhook.exists_insert env hfresh
    have hopened : Webhook.Opened env (replayOf dumps f) w event
        { w with db := { w.db with providerEvents := t } } :=
      ⟨hparsed, hfresh, hflush, t, ht, rfl⟩
    have hrun : Webhook.processWebhook env (replayOf dumps f) w = .ok ⟨.ignored, event.eventId⟩
        { w with db := Webhook.mark event.eventId .ignored none { w.db with providerEvents := t } } := by
      rw [Webhook.processWebhook_of_opened hopened, Webhook.dispatch, if_pos hhandled]
      refine bind_eq_ok.2 ⟨(), _, bind_eq_ok.2 ⟨(), _, update_eq_ok.2 rfl, ?_⟩, rfl⟩
      exact flush_eq_ok.2 ⟨hflush, rfl⟩
    exact ⟨_, _, hrun, hflush, by rw [Webhook.applied, if_neg hhandled]⟩

/-- An answer leaves the keys of a dead letter. -/
theorem answered_key (now : Time) (f : FailedWebhook) (a : Webhook.Answer) (g : FailedWebhook) :
    Keyed.key (answered now f a g) = Keyed.key g := rfl

/-- The store once a replay was answered. -/
def afterAnswer (now : Time) (f : FailedWebhook) (a : Webhook.Answer) (db : Database) : Database :=
  { db with
    failedWebhooks := db.failedWebhooks.modify (fun g => g.failedWebhookId == f.failedWebhookId)
      (answered now f a) (answered_key now f a) }

theorem mem_afterAnswer {a : Webhook.Answer} {db : Database} {g : FailedWebhook} :
    g ∈ (afterAnswer now f a db).failedWebhooks ↔ ∃ g₀ ∈ db.failedWebhooks,
      (if g₀.failedWebhookId = f.failedWebhookId then answered now f a g₀ else g₀) = g := by
  have h := Table.mem_modify (t := db.failedWebhooks)
    (p := fun g => g.failedWebhookId == f.failedWebhookId) (f := answered now f a)
    (h := fun _ => rfl) (b := g)
  simp only [beq_iff_eq] at h
  exact h

/-- A replay that was answered marks its letter. -/
theorem reconcileWebhook_of_ok {a : Webhook.Answer} (hflush : w.db.flushable = true)
    (h : Webhook.processWebhook env (replayOf dumps f) w = .ok a w')
    (hflush' : w'.db.flushable = true) :
    reconcileWebhook env dumps now f w = .ok () { w' with db := afterAnswer now f a w'.db } := by
  have hflushed : flush w = .ok () w := flush_eq_ok.2 ⟨hflush, rfl⟩
  rw [reconcileWebhook, bind_of_ok hflushed]
  refine bind_eq_ok.2 ⟨.ok (), _, savepoint_eq_ok.2 (.inl ⟨(), ?_, rfl⟩), rfl⟩
  refine bind_eq_ok.2 ⟨a, w', h, bind_eq_ok.2 ⟨(), _, update_eq_ok.2 rfl, ?_⟩⟩
  exact flush_eq_ok.2 ⟨hflush', rfl⟩

/-- **A replay leaves a session that can go on**, whatever comes of it. -/
theorem reconcileWebhook_returns (hflush : w.db.flushable = true) :
    ∃ w', reconcileWebhook env dumps now f w = .ok () w' ∧ w'.db.flushable = true := by
  have hflushed : flush w = .ok () w := flush_eq_ok.2 ⟨hflush, rfl⟩
  rw [reconcileWebhook, bind_of_ok hflushed]
  cases hrun : (do
      let result ← Webhook.processWebhook env (replayOf dumps f)
      update fun db =>
        { db with
          failedWebhooks := db.failedWebhooks.modify
            (fun g => g.failedWebhookId == f.failedWebhookId) (answered now f result) fun _ => rfl }
      flush) w with
  | ok u w' =>
      refine ⟨w', bind_eq_ok.2 ⟨.ok u, w', savepoint_eq_ok.2 (.inl ⟨u, hrun, rfl⟩), rfl⟩, ?_⟩
      simp only [bind_eq_ok, update_eq_ok, flush_eq_ok] at hrun
      obtain ⟨_, _, -, _, _, rfl, hflush', rfl⟩ := hrun
      exact hflush'
  | error e w' =>
      exact ⟨World.restore w w', bind_eq_ok.2
        ⟨.error e, _, savepoint_eq_ok.2 (.inr ⟨e, w', hrun, rfl, rfl⟩), rfl⟩, hflush⟩

end Worker

/-! ### The letters in the store -/

/-- Dead letters stay as they are, and a new one has not been tried. -/
def Database.LettersFrom (db db' : Database) : Prop :=
  (∀ f ∈ db.failedWebhooks, f ∈ db'.failedWebhooks) ∧
    ∀ f' ∈ db'.failedWebhooks, f' ∈ db.failedWebhooks ∨
      (f'.attemptCount = 0 ∧ ∀ f ∈ db.failedWebhooks, f.failedWebhookId ≠ f'.failedWebhookId)

namespace Database.LettersFrom

instance : IsPreorder Database Database.LettersFrom where
  refl _ := ⟨fun _ h => h, fun _ h => .inl h⟩
  trans _ _ _ h h' := by
    refine ⟨fun f hf => h'.1 f (h.1 f hf), fun f hf => ?_⟩
    rcases h'.2 f hf with hf' | ⟨hzero, hnew⟩
    · exact h.2 f hf'
    · exact .inr ⟨hzero, fun g hg => hnew g (h.1 g hg)⟩

theorem of_eq {db db' : Database} (h : db'.failedWebhooks = db.failedWebhooks) :
    db.LettersFrom db' := by
  rw [Database.LettersFrom, h]
  exact ⟨fun _ hf => hf, fun _ hf => .inl hf⟩

theorem insert {db : Database} {f : FailedWebhook} {t : Table FailedWebhook}
    (hzero : f.attemptCount = 0) (h : db.failedWebhooks.insert? f = some t) :
    db.LettersFrom { db with failedWebhooks := t } := by
  refine ⟨fun g hg => (Table.mem_insert h).2 (.inl hg), fun g hg => ?_⟩
  rcases (Table.mem_insert h).1 hg with hg' | rfl
  · exact .inl hg'
  · exact .inr ⟨hzero, fun g' hg' => of_decide_eq_false ((Table.insert?_eq_some.1 h).1 g' hg')⟩

instance : BooksFrame Database.LettersFrom := ⟨fun _ _ _ _ _ _ => .of_eq rfl, fun _ _ _ => .of_eq rfl⟩
instance : RecordsFrame Database.LettersFrom := ⟨fun _ _ => .of_eq rfl⟩
instance : TransitionFrame Database.LettersFrom :=
  ⟨fun _ _ _ _ _ _ => .of_eq rfl, fun _ _ _ _ _ => .of_eq rfl⟩
instance : PaymentFrame Database.LettersFrom := ⟨fun _ _ _ _ _ => .of_eq rfl, fun _ _ _ _ => .of_eq rfl⟩
instance : CheckoutFrame Database.LettersFrom := ⟨fun _ _ _ _ _ => .of_eq rfl⟩
instance : AuthorizationFrame Database.LettersFrom :=
  ⟨fun _ _ _ _ _ => .of_eq rfl, fun _ _ _ _ => .of_eq rfl, fun _ _ _ _ _ => .of_eq rfl⟩
instance : LetterFrame Database.LettersFrom :=
  ⟨fun _ _ => .of_eq rfl, fun _ _ _ _ hzero h => .insert hzero h⟩

end Database.LettersFrom

theorem Operation.lettersFrom (env : Env) (w : World) (op : Operation) :
    w.db.LettersFrom (op.run env w).db :=
  op.frame_of (fun _ _ _ _ => .of_eq rfl) (fun _ _ _ _ _ => .of_eq rfl) fun _ _ _ _ _ _ =>
    request_moves (createPayment_returns (C := Anything) fun _ _ _ => trivial) w

/-! ### The system with its replays -/

/-- The world, and what has become of its dead letters: how often each was replayed, and
those that were resolved while their event had not had its effect. -/
structure LetterState where
  world : World
  replays : String → ℕ := fun _ => 0
  unearned : List String := []

namespace LetterState

/-- One replay, recorded. -/
def replay (env : Env) (dumps : Json → List UInt8) (now : Time) (s : LetterState)
    (f : FailedWebhook) : LetterState :=
  let world := Work.final (Worker.reconcileWebhook env dumps now f) s.world
  let resolved := world.db.failedWebhooks.rows.any fun g =>
    g.failedWebhookId == f.failedWebhookId && g.status == .resolved
  { world, replays := Function.update s.replays f.failedWebhookId (s.replays f.failedWebhookId + 1),
    unearned := if resolved && !Webhook.applied env f.eventType f.payload world.db then
      f.failedWebhookId :: s.unearned else s.unearned }

/-- The replays of a batch, one after the other. -/
def replayAll (envs : String → Env) (dumps : Json → List UInt8) (now : Time) :
    List FailedWebhook → LetterState → LetterState
  | [], s => s
  | f :: rest, s =>
      replayAll envs dumps now rest (s.replay (envs f.failedWebhookId) dumps now f)

/-- One run of the worker. -/
def tick (envs : String → Env) (dumps : Json → List UInt8) (now : Time) (s : LetterState) :
    LetterState :=
  replayAll envs dumps now (Worker.staleLetters now s.world.db) s

/-- Every letter of a batch replays, at its turn. -/
def AllReplay (envs : String → Env) (dumps : Json → List UInt8) (now : Time) :
    List FailedWebhook → LetterState → Prop
  | [], _ => True
  | f :: rest, s => Worker.Replays (envs f.failedWebhookId) dumps f s.world.db ∧
      AllReplay envs dumps now rest (s.replay (envs f.failedWebhookId) dumps now f)

/-- **What is asked of the dead letters**: the stored counter of each says how often it was
replayed, which is at most as often as it may be; and none was resolved before its event
had had its effect. -/
structure Sound (s : LetterState) : Prop where
  counted : ∀ f ∈ s.world.db.failedWebhooks, f.attemptCount = s.replays f.failedWebhookId
  capped : ∀ f ∈ s.world.db.failedWebhooks, s.replays f.failedWebhookId ≤ f.maxAttempts
  earned : s.unearned = []

end LetterState

/-- A step of the system: an operation, or a run of the worker. -/
def LetterStep (s s' : LetterState) : Prop :=
  (∃ env op, s' = { s with world := Operation.run env s.world op }) ∨
    ∃ envs dumps now, s' = s.tick envs dumps now

/-- A step of the system in which every letter that is replayed replays. -/
def ReplayingStep (s s' : LetterState) : Prop :=
  (∃ env op, s' = { s with world := Operation.run env s.world op }) ∨
    ∃ envs dumps now, s' = s.tick envs dumps now ∧
      LetterState.AllReplay envs dumps now (Worker.staleLetters now s.world.db) s

namespace LetterState

/-- The replays of a batch are those of the worker. -/
theorem replayAll_world {envs : String → Env} {dumps : Json → List UInt8} {now : Time}
    (fs : List FailedWebhook) (s : LetterState) (hflush : s.world.db.flushable = true) :
    Worker.reconcileWebhooks envs dumps now fs s.world =
        .ok () (replayAll envs dumps now fs s).world ∧
      (replayAll envs dumps now fs s).world.db.flushable = true := by
  induction fs generalizing s with
  | nil => exact ⟨rfl, hflush⟩
  | cons f rest ih =>
      obtain ⟨w', hrun, hflush'⟩ := @Worker.reconcileWebhook_returns (envs f.failedWebhookId) dumps f
        now s.world hflush
      have hworld : (s.replay (envs f.failedWebhookId) dumps now f).world = w' := by
        rw [LetterState.replay, Work.final, hrun]
      obtain ⟨hrest, hlast⟩ := ih _ (hworld ▸ hflush')
      refine ⟨?_, hlast⟩
      rw [Worker.reconcileWebhooks, bind_of_ok hrun, ← hworld]
      exact hrest

/-- **A run of the worker is `_reconcile_stale_webhooks`.** -/
theorem tick_world {envs : String → Env} {dumps : Json → List UInt8} {now : Time} {s : LetterState}
    (hflush : s.world.db.flushable = true) :
    (s.tick envs dumps now).world =
      request (Worker.reconcileStaleWebhooks envs dumps now) s.world := by
  obtain ⟨hrun, hlast⟩ := @replayAll_world envs dumps now (Worker.staleLetters now s.world.db) s
    hflush
  refine (request_of_ok (a := ()) ?_ hlast).symm
  exact (bind_of_ok (query_eq_ok.2 ⟨rfl, rfl⟩)).trans hrun

end LetterState

/-! ### One replay -/

namespace LetterState

variable {env : Env} {dumps : Json → List UInt8} {now : Time} {s s' : LetterState}
  {f : FailedWebhook} {envs : String → Env}

/-- What a run keeps of a sound state: letters that are not stored were never replayed, and
the identifiers are unique. -/
structure Ready (s : LetterState) : Prop extends Sound s where
  flushable : s.world.db.flushable = true
  known : ∀ id, (∀ f ∈ s.world.db.failedWebhooks, f.failedWebhookId ≠ id) → s.replays id = 0

/-- A letter is stored once. -/
theorem letter_unique {db : Database} {f g : FailedWebhook} (hf : f ∈ db.failedWebhooks)
    (hg : g ∈ db.failedWebhooks) (hid : g.failedWebhookId = f.failedWebhookId) : g = f :=
  Table.eq_of_clash hg hf (decide_eq_true hid)

/-- **A letter that replays is counted, and resolved rightly**; the others stay as they are. -/
theorem Ready.replay (hs : s.Ready) (hf : f ∈ s.world.db.failedWebhooks)
    (hdue : f.attemptCount < f.maxAttempts) (h : Worker.Replays env dumps f s.world.db) :
    (s.replay env dumps now f).Ready ∧ ∀ g ∈ s.world.db.failedWebhooks,
      g.failedWebhookId ≠ f.failedWebhookId →
        g ∈ (s.replay env dumps now f).world.db.failedWebhooks := by
  obtain ⟨a, w', hrun, hflush, happlied⟩ := Worker.processWebhook_of_replays h hs.flushable
  have hworld : (s.replay env dumps now f).world =
      { w' with db := Worker.afterAnswer now f a w'.db } := by
    rw [LetterState.replay, Work.final, Worker.reconcileWebhook_of_ok hs.flushable hrun hflush]
  have hmoves : Work.Moves (OnWorld Database.LettersFrom Anything)
      (Webhook.processWebhook env (Worker.replayOf dumps f)) := Webhook.processWebhook_frame
  obtain ⟨hstay, hnew⟩ := (hmoves.1 _ _ _ hrun).1
  have hcount : (s.replay env dumps now f).replays =
      Function.update s.replays f.failedWebhookId (s.replays f.failedWebhookId + 1) := rfl
  have hmember : ∀ g ∈ (s.replay env dumps now f).world.db.failedWebhooks,
      g = Worker.answered now f a f ∨ (g.failedWebhookId ≠ f.failedWebhookId ∧
        (g ∈ s.world.db.failedWebhooks ∨ (g.attemptCount = 0 ∧
          ∀ f ∈ s.world.db.failedWebhooks, f.failedWebhookId ≠ g.failedWebhookId))) := by
    intro g hg
    rw [hworld] at hg
    obtain ⟨g₀, hg₀, rfl⟩ := Worker.mem_afterAnswer.1 hg
    split_ifs with hid
    · left
      rcases hnew g₀ hg₀ with hold | ⟨-, hfresh⟩
      · rw [letter_unique hf hold hid]
      · exact absurd hid.symm (hfresh f hf)
    · exact .inr ⟨hid, hnew g₀ hg₀⟩
  have hkept : ∀ g ∈ s.world.db.failedWebhooks, g.failedWebhookId ≠ f.failedWebhookId →
      g ∈ (s.replay env dumps now f).world.db.failedWebhooks := by
    intro g hg hid
    rw [hworld]
    exact Worker.mem_afterAnswer.2 ⟨g, hstay g hg, if_neg hid⟩
  have hmarked : Worker.answered now f a f ∈
      (s.replay env dumps now f).world.db.failedWebhooks := by
    rw [hworld]
    exact Worker.mem_afterAnswer.2 ⟨f, hstay f hf, if_pos rfl⟩
  have hcounted : ∀ g ∈ (s.replay env dumps now f).world.db.failedWebhooks,
      g.attemptCount = (s.replay env dumps now f).replays g.failedWebhookId ∧
        (s.replay env dumps now f).replays g.failedWebhookId ≤ g.maxAttempts := by
    intro g hg
    rw [hcount]
    rcases hmember g hg with rfl | ⟨hid, hold | ⟨hzero, hfresh⟩⟩
    · have hreplays : Function.update s.replays f.failedWebhookId
          (s.replays f.failedWebhookId + 1) f.failedWebhookId = f.attemptCount + 1 := by
        rw [Function.update_self, ← hs.counted f hf]
      exact ⟨hreplays.symm, hreplays.trans_le hdue⟩
    · rw [Function.update_of_ne hid]
      exact ⟨hs.counted g hold, hs.capped g hold⟩
    · rw [Function.update_of_ne hid, hs.known g.failedWebhookId hfresh]
      exact ⟨hzero, Nat.zero_le _⟩
  refine ⟨⟨⟨fun g hg => (hcounted g hg).1, fun g hg => (hcounted g hg).2, ?_⟩, ?_, ?_⟩, hkept⟩
  · have heffect : Webhook.applied env f.eventType f.payload
        (s.replay env dumps now f).world.db = true := by
      rw [hworld]
      exact happlied
    change (if (_ && !Webhook.applied env f.eventType f.payload
      (s.replay env dumps now f).world.db) = true then _ else _) = _
    rw [heffect, Bool.not_true, Bool.and_false, if_neg Bool.false_ne_true]
    exact hs.earned
  · rw [hworld]
    exact hflush
  · intro id hid
    have hne : id ≠ f.failedWebhookId := fun hsame => hid _ hmarked hsame.symm
    rw [hcount, Function.update_of_ne hne]
    refine hs.known id fun g hg hsame => ?_
    exact hid g (hkept g hg (hsame ▸ hne)) hsame

/-! ### Runs -/

/-- **A batch whose letters all replay keeps a sound state sound.** -/
theorem Ready.replayAll (fs : List FailedWebhook) (hs : s.Ready)
    (hfs : ∀ f ∈ fs, f ∈ s.world.db.failedWebhooks ∧ f.attemptCount < f.maxAttempts)
    (hdistinct : fs.Pairwise fun f g => f.failedWebhookId ≠ g.failedWebhookId)
    (h : AllReplay envs dumps now fs s) : (replayAll envs dumps now fs s).Ready := by
  induction fs generalizing s with
  | nil => exact hs
  | cons f rest ih =>
      obtain ⟨hf, hdue⟩ := hfs f List.mem_cons_self
      obtain ⟨hnext, hrest⟩ := List.pairwise_cons.1 hdistinct
      obtain ⟨hready, hstay⟩ :
          (s.replay (envs f.failedWebhookId) dumps now f).Ready ∧ _ := hs.replay hf hdue h.1
      refine ih hready (fun g hg => ?_) hrest h.2
      obtain ⟨hmem, hlt⟩ := hfs g (List.mem_cons_of_mem _ hg)
      exact ⟨hstay g hmem (hnext g hg).symm, hlt⟩

/-- The letters of a batch are stored, due, and each there once. -/
theorem staleLetters_spec (now : Time) (db : Database) :
    (∀ f ∈ Worker.staleLetters now db, f ∈ db.failedWebhooks ∧ f.attemptCount < f.maxAttempts) ∧
      (Worker.staleLetters now db).Pairwise fun f g => f.failedWebhookId ≠ g.failedWebhookId := by
  constructor
  · intro f hf
    obtain ⟨hmem, hdue⟩ := Table.mem_select.1 (List.mem_of_mem_take hf)
    rw [Bool.and_eq_true] at hdue
    exact ⟨hmem, of_decide_eq_true hdue.2⟩
  · have hsub : (Worker.staleLetters now db).Sublist db.failedWebhooks.rows :=
      (List.take_sublist _ _).trans List.filter_sublist
    exact (db.failedWebhooks.unique.sublist hsub).imp fun h => of_decide_eq_false h

theorem Ready.operation (hs : s.Ready) (env : Env) (op : Operation) :
    Ready { s with world := op.run env s.world } := by
  obtain ⟨hstay, hnew⟩ := op.lettersFrom env s.world
  refine ⟨⟨fun f hf => ?_, fun f hf => ?_, hs.earned⟩, op.flushable hs.flushable,
    fun id hid => hs.known id fun f hf => hid f (hstay f hf)⟩
  · rcases hnew f hf with hold | ⟨hzero, hfresh⟩
    · exact hs.counted f hold
    · exact hzero.trans (hs.known _ hfresh).symm
  · rcases hnew f hf with hold | ⟨-, hfresh⟩
    · exact hs.capped f hold
    · exact (hs.known _ hfresh).trans_le (Nat.zero_le _)

theorem Ready.start {w : World} (hletters : w.db.failedWebhooks.rows = [])
    (hflush : w.db.flushable = true) : Ready { world := w } := by
  have hnone : ∀ f, f ∉ w.db.failedWebhooks := fun f hf => by
    rw [Table.mem_def, hletters] at hf
    exact List.not_mem_nil hf
  exact ⟨⟨fun f hf => absurd hf (hnone f), fun f hf => absurd hf (hnone f), rfl⟩, hflush,
    fun _ _ => rfl⟩

end LetterState

/-- **When the replay of dead letters is sound.**  In a run, from a store without dead
letters, in which every letter that the worker replays replays, the stored counter of every
letter says how often it was replayed, no letter is replayed more often than it may be, and
none is resolved before its event has had its effect. -/
theorem dead_letters_sound {w : World} {s : LetterState} (hletters : w.db.failedWebhooks.rows = [])
    (hflush : w.db.flushable = true)
    (hrun : Relation.ReflTransGen ReplayingStep { world := w } s) : s.Sound := by
  refine (invariant_of_steps (I := LetterState.Ready) (fun s s' hs hstep => ?_)
    (.start hletters hflush) hrun).toSound
  rcases hstep with ⟨env, op, rfl⟩ | ⟨envs, dumps, now, rfl, hall⟩
  · exact hs.operation env op
  · obtain ⟨hdue, hdistinct⟩ := LetterState.staleLetters_spec now s.world.db
    exact hs.replayAll _ hdue hdistinct hall

/-! ### An early capture, replayed -/

/-- The system over the shop. -/
def openLetters : LetterState := { world := openShop }

/-- The shop after an early capture, whose payment has been verified since. -/
def verifiedSince : World :=
  (Operation.verifyPayment "pay" (some "pay_1") none none).run shopEnv Webhook.reportedEarly

/-- The dead letter of the early capture. -/
def earlyLetter : FailedWebhook :=
  { failedWebhookId := "", provider := "fake", eventType := "payment.captured",
    signature := some "sig", rawBodyHash := "", payload := Webhook.shopBody "payment.captured",
    nextRetryAt := some (minutes 5),
    lastError := some "Payment not found for webhook — enqueued for retry or manual replay" }

-- the text of the error is a list of characters to the kernel
set_option maxRecDepth 20000 in
theorem earlyLetter_stale :
    Worker.staleLetters (minutes 10) verifiedSince.db = [earlyLetter] := rfl

/-- The worker runs, ten minutes after the capture was reported. -/
def tenMinutesAfter (w : World) : LetterState :=
  LetterState.tick (fun _ => Webhook.callbackEnv "payment.captured") (fun _ => []) (minutes 10)
    { world := w }

/-- Operations are steps of the system with its replays. -/
theorem reached_of_steps {step : LetterState → LetterState → Prop} {w w' : World}
    (hstep : ∀ s env op, step s { s with world := Operation.run env s.world op })
    (h : Relation.ReflTransGen Step w w') :
    Relation.ReflTransGen step { world := w } { world := w' } := by
  induction h with
  | refl => exact .refl
  | tail _ hlast ih =>
      obtain ⟨env, op, rfl⟩ := hlast
      exact ih.tail (hstep _ env op)

theorem dead_letters_sound_verifiedSince : (tenMinutesAfter verifiedSince).Sound ∧
    (tenMinutesAfter verifiedSince).world.db.failedWebhooks.rows.map
      (fun f => (f.status, f.attemptCount)) = [(.resolved, 1)] := by
  have hreached : Relation.ReflTransGen ReplayingStep openLetters { world := verifiedSince } :=
    reached_of_steps (fun s env op => .inl ⟨env, op, rfl⟩)
      (Webhook.reportedEarly_reached.tail ⟨shopEnv, _, rfl⟩)
  have hreplays : Worker.Replays (Webhook.callbackEnv "payment.captured") (fun _ => []) earlyLetter
      verifiedSince.db := by
    refine ⟨Webhook.shopEvent "payment.captured", rfl, rfl, rfl, ?_⟩
    rw [if_pos (by decide)]
    decide
  have hall : LetterState.AllReplay (fun _ => Webhook.callbackEnv "payment.captured") (fun _ => [])
      (minutes 10) (Worker.staleLetters (minutes 10) verifiedSince.db) { world := verifiedSince } := by
    rw [earlyLetter_stale]
    exact ⟨hreplays, trivial⟩
  exact ⟨dead_letters_sound rfl rfl (hreached.tail (.inr ⟨_, _, _, rfl, hall⟩)), by decide⟩

/-! ### Letters that are resolved for nothing, and letters that are never given up -/

/-- The provider signed the empty body, and the replay is written out in another one. -/
def strictEnv : Env :=
  { Webhook.callbackEnv "payment.captured" with
    provider := { capturingProvider with verifySignature := fun body _ => body == [] } }

/-- The worker runs, and the replay is refused for its signature. -/
def refusedTick (s : LetterState) : LetterState :=
  s.tick (fun _ => strictEnv) (fun _ => [0]) (minutes 10)

/-- **A letter is resolved for nothing**: the early capture is replayed while its payment is
pending, is told that it was processed already, and is resolved.  **A letter is never given
up**: its replay is refused, which takes the attempt back, so that it is replayed a sixth
time though five are allowed. -/
theorem early_capture_resolved :
    (¬∀ s, Relation.ReflTransGen LetterStep openLetters s → s.unearned = []) ∧
      ¬∀ s, Relation.ReflTransGen LetterStep openLetters s →
        ∀ f ∈ s.world.db.failedWebhooks, s.replays f.failedWebhookId ≤ f.maxAttempts := by
  have hreached : Relation.ReflTransGen LetterStep openLetters { world := Webhook.reportedEarly } :=
    reached_of_steps (fun s env op => .inl ⟨env, op, rfl⟩) Webhook.reportedEarly_reached
  have htick : ∀ s, LetterStep s (refusedTick s) := fun s => .inr ⟨_, _, _, rfl⟩
  constructor
  · intro h
    have hresolved := h (tenMinutesAfter Webhook.reportedEarly)
      (hreached.tail (.inr ⟨_, _, _, rfl⟩))
    exact absurd hresolved (by decide)
  · intro h
    have hsix := h (refusedTick^[6] { world := Webhook.reportedEarly })
      ((((((hreached.tail (htick _)).tail (htick _)).tail (htick _)).tail (htick _)).tail
        (htick _)).tail (htick _))
    exact absurd hsix (by decide)

example : (tenMinutesAfter Webhook.reportedEarly).world.db.payments.rows.map Payment.status =
    [.pending] := by decide

end AgenticCommerce
