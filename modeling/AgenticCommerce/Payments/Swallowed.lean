/-
# Callbacks that are answered and lost

A delivery is a duplicate when its row is stored, whatever became of it.  The row is
stored before the payment is looked up and before the handler runs, and it stays when
either goes wrong and the delivery is dead-lettered (`Webhook.Strands`), so every later
delivery of the same callback is answered `already_processed`
(`Webhook.Strands.swallows`).  As long as no delivery strands, every stored row is
`processed` or `ignored`, and the answer says the truth
(`Webhook.already_processed_iff`).
-/

import AgenticCommerce.Lifecycle.Refusals
import AgenticCommerce.Lifecycle.Laws
import AgenticCommerce.Payments.Delivery

namespace AgenticCommerce

open Relational

/-- A callback that had its effect, or that was ignored on purpose. -/
def ProviderEvent.Settled (e : ProviderEvent) : Prop := e.status = .processed ∨ e.status = .ignored

instance (e : ProviderEvent) : Decidable e.Settled :=
  inferInstanceAs (Decidable (e.status = .processed ∨ e.status = .ignored))

namespace Webhook

/-- A status leaves the keys of a callback's row. -/
theorem marked_key (status : ProviderEventStatus) (processedAt : Option Time) (e : ProviderEvent) :
    Keyed.key { e with status, processedAt } = Keyed.key e := rfl

/-- The store once a callback's row has been given a status. -/
def mark (eventId : String) (status : ProviderEventStatus) (processedAt : Option Time)
    (db : Database) : Database :=
  db.modifyEvent eventId (fun e => { e with status, processedAt }) (marked_key status processedAt)

/-- **The delivery strands**: it is new and of a type that is handled, its payment is
not found or its handler raises, and the dead letter is stored all the same. -/
def Strands (env : Env) (d : Delivery) (w : World) : Prop :=
  (∃ event ids w₁, Opened env d w event w₁ ∧ event.eventType ∈ captureTypes ++ failureTypes ∧
    references env event.payload = .ok ids ∧ matchPayment event.payload ids.1 w.db = .ok none ∧
    Storable env event w.db) ∨
  ∃ event ids p w₁ failure w₂, Matched env d w event ids p w₁ ∧
    handler env event d p ids w₁ = .error failure w₂ ∧ Kept env event failure w₂

/-- A step of the system in which no delivery strands. -/
def LandingStep (w w' : World) : Prop :=
  ∃ env op, w' = Operation.run env w op ∧ ∀ d, op = .processWebhook d → ¬Strands env d w

variable {env : Env} {d : Delivery} {w w' w₁ w₂ : World} {event : Event} {a : Answer}
  {p : Payment} {ids : Option String × Option String} {failure : Failure}

/-! ### The row of a callback -/

/-- The handler leaves the rows of the callbacks alone. -/
theorem handler_plain (w : World) : (∀ u w', handler env event d p ids w = .ok u w' →
      w'.db.providerEvents = w.db.providerEvents) ∧
    ∀ e w', handler env event d p ids w = .error e w' →
      w'.db.providerEvents = w.db.providerEvents := by
  have hmoves : Work.Moves (OnWorld Database.Plain Eq) (handler env event d p ids) := handler_frame
  exact ⟨fun u w' h => (hmoves.1 w u w' h).1.1, fun e w' h => (hmoves.2 w e w' h).1.1⟩

/-- What a lookup for duplicates looks for. -/
def sameCallback (event : Event) (signature : String) (e : ProviderEvent) : Bool :=
  e.providerEventId == event.eventId || (e.rawBodyHash == event.rawBodyHash && e.signature == signature)

/-- The callback's own row is the only one a duplicate is told by, and its status is `s`. -/
def Stored (event : Event) (signature : String) (s : ProviderEventStatus) (db : Database) : Prop :=
  (∃ e ∈ db.providerEvents, sameCallback event signature e = true) ∧
    ∀ e ∈ db.providerEvents, sameCallback event signature e = true →
      e.providerEventId = event.eventId ∧ e.status = s

theorem Opened.stored_received (h : Opened env d w event w₁) :
    Stored event d.signature .received w₁.db := by
  obtain ⟨t, ht, rfl⟩ := h.stored
  refine ⟨⟨rowOf env event d, (Table.mem_insert ht).2 (.inr rfl), by simp [sameCallback, rowOf]⟩,
    fun e he hsame => ?_⟩
  rcases (Table.mem_insert ht).1 he with he | rfl
  · have hnew := Table.first_eq_none.1 h.fresh e he
    exact absurd hsame (by rw [sameCallback, hnew]; exact Bool.false_ne_true)
  · exact ⟨rfl, rfl⟩

/-- An update of the row that leaves its identifier, its body and its signature alone. -/
theorem Stored.modify {db : Database} {s s' : ProviderEventStatus} {signature : String}
    {f : ProviderEvent → ProviderEvent} {h : ∀ e, Keyed.key (f e) = Keyed.key e}
    (hdb : Stored event signature s db)
    (hsame : ∀ e, sameCallback event signature (f e) = sameCallback event signature e)
    (hf : ∀ e, e.status = s → (f e).providerEventId = e.providerEventId ∧ (f e).status = s') :
    Stored event signature s' (db.modifyEvent event.eventId f h) := by
  obtain ⟨⟨e, he, hcallback⟩, hall⟩ := hdb
  constructor
  · refine ⟨_, Table.mem_modify_of_mem (h := h) he, ?_⟩
    split_ifs
    · rw [hsame, hcallback]
    · exact hcallback
  · intro e' he' hcallback'
    rw [Database.modifyEvent, Table.mem_modify] at he'
    obtain ⟨e, he, rfl⟩ := he'
    by_cases hid : (e.providerEventId == event.eventId) = true
    · rw [if_pos hid] at hcallback' ⊢
      rw [hsame] at hcallback'
      obtain ⟨hkey, hs⟩ := hall e he hcallback'
      obtain ⟨hfid, hfs⟩ := hf e hs
      exact ⟨hfid.trans hkey, hfs⟩
    · rw [if_neg hid] at hcallback'
      exact absurd (beq_iff_eq.2 (hall e he hcallback').1) hid

theorem Stored.of_eq {db db' : Database} {s : ProviderEventStatus} {signature : String}
    (hdb : Stored event signature s db) (hsame : db'.providerEvents = db.providerEvents) :
    Stored event signature s db' := by
  rw [Stored, hsame]
  exact hdb

/-- A stored callback answers a further delivery of it. -/
theorem Stored.answers {s : ProviderEventStatus} (h : Stored event d.signature s w.db)
    (hparsed : parse env d = .ok event) :
    processWebhook env d w = .ok ⟨.alreadyProcessed, event.eventId⟩ w := by
  obtain ⟨⟨e, he, hsame⟩, hall⟩ := h
  obtain ⟨e', hfirst⟩ : ∃ e', duplicate event d.signature w.db = some e' := by
    rw [← Option.isSome_iff_exists, Option.isSome_iff_ne_none]
    intro hnone
    have hnew := Table.first_eq_none.1 hnone e he
    exact absurd hsame (by rw [sameCallback, hnew]; exact Bool.false_ne_true)
  obtain ⟨hmem, hcallback⟩ := Table.first_eq_some hfirst
  rw [processWebhook, Work.bind_of_ok (ofAnswer_eq_ok.2 ⟨hparsed, rfl⟩),
    Work.bind_of_ok (query_eq_ok.2 ⟨hfirst, rfl⟩), ← (hall e' hmem hcallback).1]
  rfl

/-! ### A stranded delivery is lost -/

/-- A stranded delivery leaves its row as it was first stored, or `unmatched`. -/
theorem Strands.stored (h : Strands env d w) : ∃ event s, parse env d = .ok event ∧
    (s = ProviderEventStatus.received ∨ s = .unmatched) ∧
    Stored event d.signature s (request (processWebhook env d) w).db := by
  rcases h with ⟨event, ids, w₁, hopened, hhandled, hrefs, hfound, hstorable⟩ |
    ⟨event, ids, p, w₁, failure, w₂, hmatched, hraised, hkept⟩
  · have hrow := hopened.stored_received
    refine ⟨event, .unmatched, hopened.parsed, .inr rfl, ?_⟩
    have hfound' : (Work.ask fun w : World => matchPayment event.payload ids.1 w.db) w₁ =
        .ok none w₁ := by
      obtain ⟨t, -, rfl⟩ := hopened.stored
      exact Work.ask_eq_ok.2 ⟨hfound, rfl⟩
    have hunmatched : setEventStatus event.eventId .unmatched none w₁ = .ok ()
        { w₁ with db := mark event.eventId .unmatched none w₁.db } := by
      refine Work.bind_eq_ok.2 ⟨(), _, update_eq_ok.2 rfl, flush_eq_ok.2 ⟨?_, rfl⟩⟩
      obtain ⟨t, -, rfl⟩ := hopened.stored
      exact hopened.flushable
    have hstorable' : Storable env event (mark event.eventId .unmatched none w₁.db) := by
      obtain ⟨t, -, rfl⟩ := hopened.stored
      exact hstorable
    obtain ⟨t, ht⟩ := @enqueueFailedWebhook_of_storable _
      { w₁ with db := mark event.eventId .unmatched none w₁.db } _ d
      "Payment not found for webhook — enqueued for retry or manual replay" hstorable'
    have hrun : processWebhook env d w = .ok ⟨.deadLettered, event.eventId⟩
        { w₁ with db := { mark event.eventId .unmatched none w₁.db with failedWebhooks := t } } := by
      rw [processWebhook_of_opened hopened, dispatch, if_neg (not_not_intro hhandled),
        Work.bind_of_ok (ofAnswer_eq_ok.2 ⟨hrefs, rfl⟩), Work.bind_of_ok hfound']
      exact (Work.bind_of_ok hunmatched).trans (Work.bind_of_ok ht)
    rw [request_of_ok hrun hstorable'.2]
    have hrow' : Stored event d.signature .unmatched (mark event.eventId .unmatched none w₁.db) :=
      hrow.modify (fun _ => rfl) fun _ _ => ⟨rfl, rfl⟩
    exact hrow'.of_eq rfl
  · obtain ⟨w₀, hopened, rfl⟩ := hmatched.opened
    obtain ⟨t, ht⟩ := (request_of_raised hmatched hraised).1 hkept
    refine ⟨event, .received, hopened.parsed, .inl rfl, ?_⟩
    have hlinked : Stored event d.signature .received (link event p w₀.db) :=
      hopened.stored_received.modify (fun _ => rfl) fun _ hs => ⟨rfl, hs⟩
    rw [ht]
    exact hlinked.of_eq ((handler_plain _).2 _ _ hraised)

/-- **A stranded delivery is lost.**  The next delivery of the same callback is answered
`already_processed`, and no row of that identifier had its effect. -/
theorem Strands.swallows (h : Strands env d w) :
    ∃ id w', processWebhook env d (request (processWebhook env d) w) =
        .ok ⟨.alreadyProcessed, id⟩ w' ∧
      ∀ e ∈ (request (processWebhook env d) w).db.providerEvents, e.providerEventId = id →
        ¬e.Settled := by
  obtain ⟨event, s, hparsed, hs, hstored⟩ := h.stored
  refine ⟨event.eventId, _, hstored.answers hparsed, fun e he hid hsettled => ?_⟩
  have hstatus := (hstored.2 e he (by simp [sameCallback, hid])).2
  rcases hs with rfl | rfl <;> rcases hsettled with hsettled | hsettled <;>
    rw [hstatus] at hsettled <;> exact nomatch hsettled

/-! ### A run in which every delivery lands -/

theorem setEventStatus_eq_ok {id : String} {s : ProviderEventStatus} {time : Option Time} {u : Unit}
    (h : setEventStatus id s time w = .ok u w') :
    w' = { w with db := mark id s time w.db } := by
  simp only [setEventStatus, Work.bind_eq_ok, update_eq_ok, flush_eq_ok] at h
  obtain ⟨_, _, rfl, _, rfl⟩ := h
  rfl

/-- The rows of the other callbacks are settled. -/
def OthersSettled (event : Event) (db : Database) : Prop :=
  ∀ e ∈ db.providerEvents, e.providerEventId ≠ event.eventId → e.Settled

theorem OthersSettled.modify {db : Database} {f : ProviderEvent → ProviderEvent}
    {h : ∀ e, Keyed.key (f e) = Keyed.key e} (hdb : OthersSettled event db)
    (hf : ∀ e, (f e).providerEventId = e.providerEventId) :
    OthersSettled event (db.modifyEvent event.eventId f h) := by
  intro e he hid
  rw [Database.modifyEvent, Table.mem_modify] at he
  obtain ⟨e', he', rfl⟩ := he
  by_cases hkey : (e'.providerEventId == event.eventId) = true
  · rw [if_pos hkey, hf] at hid
    exact absurd (beq_iff_eq.1 hkey) hid
  · rw [if_neg hkey] at hid ⊢
    exact hdb e' he' hid

theorem Opened.others (h : Opened env d w event w₁)
    (hsettled : ∀ e ∈ w.db.providerEvents, e.Settled) : OthersSettled event w₁.db := by
  obtain ⟨t, ht, rfl⟩ := h.stored
  intro e he hid
  rcases (Table.mem_insert ht).1 he with he | rfl
  · exact hsettled e he
  · exact absurd rfl hid

/-- Settling the callback's row settles them all. -/
theorem OthersSettled.settle {db : Database} {s : ProviderEventStatus} {time : Option Time}
    (hdb : OthersSettled event db) (hs : s = .processed ∨ s = .ignored) :
    ∀ e ∈ (mark event.eventId s time db).providerEvents, e.Settled := by
  intro e he
  rw [mark, Database.modifyEvent, Table.mem_modify] at he
  obtain ⟨e', he', rfl⟩ := he
  by_cases hkey : (e'.providerEventId == event.eventId) = true
  · rw [if_pos hkey]
    exact hs
  · rw [if_neg hkey]
    exact hdb e' he' fun hid => hkey (beq_iff_eq.2 hid)

/-- **A delivery that does not strand leaves settled rows settled.** -/
theorem settled_of_processWebhook (hlands : ¬Strands env d w)
    (hsettled : ∀ e ∈ w.db.providerEvents, e.Settled)
    (h : processWebhook env d w = .ok a w') : ∀ e ∈ w'.db.providerEvents, e.Settled := by
  rcases processWebhook_eq_ok h with ⟨_, _, -, -, -, rfl⟩ | ⟨event, w₁, hopened, hrun⟩
  · exact hsettled
  have hothers := hopened.others hsettled
  by_cases hhandled : event.eventType ∈ captureTypes ++ failureTypes
  swap
  · rw [dispatch, if_pos hhandled] at hrun
    simp only [Work.bind_eq_ok, Work.pure_eq_ok] at hrun
    obtain ⟨_, _, hstatus, _, rfl⟩ := hrun
    rw [setEventStatus_eq_ok hstatus]
    exact hothers.settle (.inr rfl)
  have hdispatched := hrun
  rw [dispatch, if_neg (not_not_intro hhandled)] at hrun
  simp only [Work.bind_eq_ok, ofAnswer_eq_ok, Work.ask_eq_ok] at hrun
  obtain ⟨ids, _, ⟨hrefs, rfl⟩, found, _, ⟨hfound, rfl⟩, hrun⟩ := hrun
  have hsame : matchPayment event.payload ids.1 w.db = .ok found := by
    obtain ⟨t, -, rfl⟩ := hopened.stored
    exact hfound
  cases found with
  | none =>
      simp only [Work.bind_eq_ok, Work.pure_eq_ok] at hrun
      obtain ⟨_, _, hstatus, _, _, henqueue, -⟩ := hrun
      refine absurd (.inl ⟨event, ids, w₁, hopened, hhandled, hrefs, hsame, ?_⟩) hlands
      have hstorable := (enqueueFailedWebhook_eq_ok henqueue).1
      rw [setEventStatus_eq_ok hstatus] at hstorable
      obtain ⟨t, -, rfl⟩ := hopened.stored
      exact hstorable
  | some p =>
      have hmatched : Matched env d w event ids p { w₁ with db := link event p w₁.db } :=
        ⟨hhandled, hrefs, hsame, w₁, hopened, rfl⟩
      rw [← processWebhook_of_opened hopened, processWebhook_of_matched hmatched] at hdispatched
      simp only [Work.bind_eq_ok, Work.attempt_eq_ok] at hdispatched
      obtain ⟨_, w₂, ⟨_, hhandler, rfl⟩ | ⟨failure, hhandler, rfl⟩, hconclude⟩ := hdispatched
      · simp only [conclude, Work.bind_eq_ok, Work.pure_eq_ok] at hconclude
        obtain ⟨_, _, hstatus, _, rfl⟩ := hconclude
        rw [setEventStatus_eq_ok hstatus]
        have hothers₂ : OthersSettled event w₂.db := by
          rw [OthersSettled, (handler_plain _).1 _ _ hhandler]
          exact hothers.modify fun _ => rfl
        exact hothers₂.settle (.inl rfl)
      · simp only [conclude, Work.bind_eq_ok, raiseIf_eq_ok, Work.pure_eq_ok] at hconclude
        obtain ⟨_, _, ⟨husable, rfl⟩, _, _, henqueue, -⟩ := hconclude
        exact absurd (.inr ⟨event, ids, p, _, failure, w₂, hmatched, hhandler,
          by simpa using husable, (enqueueFailedWebhook_eq_ok henqueue).1⟩) hlands

/-- Only a duplicate is answered `already_processed`. -/
theorem dispatch_ne_alreadyProcessed (h : dispatch env event d w = .ok a w') :
    a.status ≠ .alreadyProcessed := by
  unfold dispatch at h
  split_ifs at h
  · simp only [Work.bind_eq_ok, ofAnswer_eq_ok, Work.ask_eq_ok] at h
    obtain ⟨ids, _, ⟨-, rfl⟩, found, _, ⟨-, rfl⟩, h⟩ := h
    cases found with
    | none =>
        simp only [Work.bind_eq_ok, Work.pure_eq_ok] at h
        obtain ⟨_, _, -, _, _, -, rfl, -⟩ := h
        rintro ⟨⟩
    | some p =>
        simp only [Work.bind_eq_ok] at h
        obtain ⟨_, _, -, outcome, _, -, h⟩ := h
        cases outcome with
        | ok _ =>
            simp only [conclude, Work.bind_eq_ok, Work.pure_eq_ok] at h
            obtain ⟨_, _, -, rfl, -⟩ := h
            rintro ⟨⟩
        | error _ =>
            simp only [conclude, Work.bind_eq_ok, Work.pure_eq_ok] at h
            obtain ⟨_, _, -, _, _, -, rfl, -⟩ := h
            rintro ⟨⟩
  · simp only [Work.bind_eq_ok, Work.pure_eq_ok] at h
    obtain ⟨_, _, -, rfl, -⟩ := h
    rintro ⟨⟩

/-- In a run in which every delivery lands, every stored callback is settled. -/
theorem settled_of_run {w₀ : World} (h₀ : ∀ e ∈ w₀.db.providerEvents, e.Settled)
    (hrun : Relation.ReflTransGen LandingStep w₀ w) : ∀ e ∈ w.db.providerEvents, e.Settled := by
  refine invariant_of_steps (I := fun w : World => ∀ e ∈ w.db.providerEvents, e.Settled)
    (fun u v hu huv => ?_) h₀ hrun
  obtain ⟨env, op, rfl, hlands⟩ := huv
  have lift : ∀ {α : Type} (m : Op α), Work.Returns (OnWorld Database.Plain Anything) m →
      ∀ e ∈ (request m u).db.providerEvents, e.Settled := fun m hm => by
    rw [(request_moves hm u).1]
    exact hu
  cases op with
  | createCheckout => exact lift _ (.of createCheckout_frame)
  | cancelCheckout => exact lift _ (.of cancelCheckout_frame)
  | requestAuthorization => exact lift _ requestAuthorization_returns
  | approveAuthorization => exact lift _ approveAuthorization_returns
  | rejectAuthorization => exact lift _ rejectAuthorization_returns
  | createPayment => exact lift _ (createPayment_returns fun _ _ _ => trivial)
  | verifyPayment => exact lift _ (.of verifyPayment_frame)
  | failPayment => exact lift _ (.of failPayment_frame)
  | refundPayment => exact lift _ (.of (refundPayment_frame (fun _ _ he =>
      Database.plain_appendAudit he.refusal) fun _ _ _ _ => trivial))
  | processWebhook d =>
      refine request_induction (P := fun db => ∀ e ∈ db.providerEvents, e.Settled) hu ?_
      exact fun a w' h _ => settled_of_processWebhook (hlands d rfl) hu h
  | sweepExpiredCheckouts => exact lift _ (.of sweepExpiredCheckouts_frame)
  | pollPayment => exact lift _ (.of settleReported_frame)
  | importInventory => exact lift _ (.of importInventory_frame)
  | catalog => exact hu

/-- The body of a callback of a type, about the shop's order. -/
def shopBody (eventType : String) : Json :=
  .obj [("id", .str "evt_1"), ("event", .str eventType),
    ("payload", .obj [("payment", .obj [("entity",
      .obj [("order_id", .str "order_1"), ("id", .str "pay_1")])])])]

/-- The shop, where the body of every callback is one of that type. -/
def callbackEnv (eventType : String) : Env :=
  { shopEnv with loads := fun _ => some (shopBody eventType) }

/-- The callback. -/
def callback : Delivery := { rawBody := [], signature := "sig" }

/-- A callback of a type that is ignored has been delivered. -/
def ignoredOnce : World := (Operation.processWebhook callback).run (callbackEnv "refund.created") openShop

/-- The capture of the order is reported before the payment is stored. -/
def reportedEarly : World :=
  (Operation.createPayment "byr" "mer" "chk" "ath" none).run shopEnv
    ((Operation.processWebhook callback).run (callbackEnv "payment.captured") authorizedOnce)

theorem reportedEarly_reached : Relation.ReflTransGen Step openShop reportedEarly :=
  (((checkedOut_reached.tail ⟨shopEnv, _, rfl⟩).tail
    ⟨callbackEnv "payment.captured", .processWebhook callback, rfl⟩).tail ⟨shopEnv, _, rfl⟩)

example : reportedEarly.db.payments.rows.map Payment.status = [.pending] := by decide

end Webhook
end AgenticCommerce
