/-
# One delivery of a callback

What `processWebhook` does with a delivery that is authentic and new: its row is
stored (`Webhook.Opened`), its payment is looked up, and the handler runs in the same
session.  When the handler raises, `conclude` stores a dead letter on top of whatever
the handler wrote, and the request commits both, unless the dead letter cannot be
stored either (`Webhook.Kept`); then the whole delivery is rolled back
(`request_of_raised`).
-/

import AgenticCommerce.Lifecycle.Frames
import AgenticCommerce.Payments.Webhooks

namespace AgenticCommerce

open Relational

namespace Webhook

/-- A delivery that is authentic and new, and the session once its row is stored. -/
structure Opened (env : Env) (d : Delivery) (w : World) (event : Event) (w₁ : World) : Prop where
  parsed : parse env d = .ok event
  fresh : duplicate event d.signature w.db = none
  flushable : w.db.flushable = true
  stored : ∃ t, w.db.providerEvents.insert? (rowOf env event d) = some t ∧
    w₁ = { w with db := { w.db with providerEvents := t } }

/-- A link to a payment leaves the keys of a callback's row. -/
theorem linked_key (p : Payment) (e : ProviderEvent) :
    Keyed.key { e with paymentId := some p.paymentId } = Keyed.key e := rfl

/-- The store with the callback's row linked to its payment. -/
def link (event : Event) (p : Payment) (db : Database) : Database :=
  db.modifyEvent event.eventId (fun e => { e with paymentId := some p.paymentId }) (linked_key p)

/-- The handler of a callback that was matched to the payment `p`. -/
def handler (env : Env) (event : Event) (d : Delivery) (p : Payment)
    (ids : Option String × Option String) : Op Unit :=
  handle env event p ids.1 (ids.2.orElse fun _ => given p.providerPaymentId) d.signature

/-- A delivery of a type that is handled, matched to the payment `p`, and the session
its handler starts with. -/
structure Matched (env : Env) (d : Delivery) (w : World) (event : Event)
    (ids : Option String × Option String) (p : Payment) (w₁ : World) : Prop where
  handled : event.eventType ∈ captureTypes ++ failureTypes
  references : references env event.payload = .ok ids
  found : matchPayment event.payload ids.1 w.db = .ok (some p)
  opened : ∃ w₀, Opened env d w event w₀ ∧ w₁ = { w₀ with db := link event p w₀.db }

variable {env : Env} {d : Delivery} {w w' w₁ w₂ : World} {event : Event} {a : Answer}
  {p : Payment} {ids : Option String × Option String} {failure : Failure}

/-- A new delivery is refused by no constraint. -/
theorem exists_insert (env : Env) (h : duplicate event d.signature w.db = none) :
    ∃ t, w.db.providerEvents.insert? (rowOf env event d) = some t := by
  rw [← Option.isSome_iff_exists, Option.isSome_iff_ne_none]
  intro hnone
  obtain ⟨e, he, hclash⟩ := Table.insert?_eq_none.1 hnone
  have hnew := Table.first_eq_none.1 h e he
  rw [Bool.or_eq_false_iff, beq_eq_false_iff_ne] at hnew
  exact hnew.1 (of_decide_eq_true hclash)

/-- **A delivery that is authentic and new is dispatched with its row stored.** -/
theorem processWebhook_of_opened (h : Opened env d w event w₁) :
    processWebhook env d w = dispatch env event d w₁ := by
  obtain ⟨t, ht, rfl⟩ := h.stored
  have hflush : flush w = .ok () w := flush_eq_ok.2 ⟨h.flushable, rfl⟩
  have hinsert : nested (do
      insert fun db => (db.providerEvents.insert? (rowOf env event d)).map
        fun providerEvents => { db with providerEvents }
      flush) w = .ok (.ok ()) { w with db := { w.db with providerEvents := t } } := by
    refine Work.savepoint_eq_ok.2 (.inl ⟨(), ?_, rfl⟩)
    refine Work.bind_eq_ok.2 ⟨(), { w with db := { w.db with providerEvents := t } },
      insert_eq_ok.2 ⟨{ w.db with providerEvents := t }, by rw [ht]; rfl, rfl⟩, ?_⟩
    exact flush_eq_ok.2 ⟨h.flushable, rfl⟩
  rw [processWebhook, Work.bind_of_ok (ofAnswer_eq_ok.2 ⟨h.parsed, rfl⟩),
    Work.bind_of_ok (query_eq_ok.2 ⟨h.fresh, rfl⟩)]
  exact (Work.bind_of_ok hflush).trans (Work.bind_of_ok hinsert)

/-- **What an answered delivery was**: a duplicate, or one that was dispatched. -/
theorem processWebhook_eq_ok (h : processWebhook env d w = .ok a w') :
    (∃ event e, parse env d = .ok event ∧ duplicate event d.signature w.db = some e ∧
      a = ⟨.alreadyProcessed, e.providerEventId⟩ ∧ w' = w) ∨
    ∃ event w₁, Opened env d w event w₁ ∧ dispatch env event d w₁ = .ok a w' := by
  have hrun := h
  simp only [processWebhook, Work.bind_eq_ok, ofAnswer_eq_ok, query_eq_ok] at h
  obtain ⟨event, _, ⟨hparsed, rfl⟩, existing, _, ⟨hexisting, rfl⟩, h⟩ := h
  cases existing with
  | some e =>
      obtain ⟨rfl, rfl⟩ := Work.pure_eq_ok.1 h
      exact .inl ⟨event, e, hparsed, hexisting, rfl, rfl⟩
  | none =>
      obtain ⟨_, _, hflush, -⟩ := Work.bind_eq_ok.1 h
      obtain ⟨t, ht⟩ := exists_insert env hexisting
      have hopened : Opened env d w event { w with db := { w.db with providerEvents := t } } :=
        ⟨hparsed, hexisting, (flush_eq_ok.1 hflush).1, t, ht, rfl⟩
      exact .inr ⟨event, _, hopened, by rw [← processWebhook_of_opened hopened]; exact hrun⟩

/-- **A matched delivery runs its handler**, whatever comes of it. -/
theorem processWebhook_of_matched (h : Matched env d w event ids p w₁) :
    processWebhook env d w =
      (do let outcome ← Work.attempt (handler env event d p ids); conclude env event d outcome) w₁ := by
  obtain ⟨w₀, hopened, rfl⟩ := h.opened
  have hfound : (Work.ask fun w : World => matchPayment event.payload ids.1 w.db) w₀ =
      .ok (some p) w₀ := by
    obtain ⟨t, -, rfl⟩ := hopened.stored
    exact Work.ask_eq_ok.2 ⟨h.found, rfl⟩
  rw [processWebhook_of_opened hopened, dispatch, if_neg (not_not_intro h.handled),
    Work.bind_of_ok (ofAnswer_eq_ok.2 ⟨h.references, rfl⟩), Work.bind_of_ok hfound]
  exact Work.bind_of_ok (update_eq_ok (u := ()).2 rfl)

/-! ### Dead letters -/

/-- The dead letter of a callback cannot be refused. -/
def Storable (env : Env) (event : Event) (db : Database) : Prop :=
  (∀ f ∈ db.failedWebhooks, f.failedWebhookId ≠ env.deadLetterId event.rawBodyHash) ∧
    db.flushable = true

/-- The outcome of a handler that raised is kept: the session can go on, and the dead
letter can be stored in it. -/
def Kept (env : Env) (event : Event) (failure : Failure) (w₂ : World) : Prop :=
  failure.usable = true ∧ Storable env event w₂.db

theorem enqueueFailedWebhook_eq_ok {error : String} {u : Unit}
    (h : enqueueFailedWebhook env event d error w = .ok u w') :
    Storable env event w.db ∧ ∃ t, w' = { w with db := { w.db with failedWebhooks := t } } := by
  simp only [enqueueFailedWebhook, Work.bind_eq_ok, insert_eq_ok, flush_eq_ok,
    Option.map_eq_some_iff] at h
  obtain ⟨_, _, ⟨_, ⟨t, ht, rfl⟩, rfl⟩, hflush, rfl⟩ := h
  refine ⟨⟨fun f hf hid => ?_, hflush⟩, t, rfl⟩
  have hclash := (Table.insert?_eq_some.1 ht).1 f hf
  exact of_decide_eq_false hclash hid

theorem enqueueFailedWebhook_of_storable (d : Delivery) (error : String)
    (h : Storable env event w.db) :
    ∃ t, enqueueFailedWebhook env event d error w =
      .ok () { w with db := { w.db with failedWebhooks := t } } := by
  obtain ⟨hnew, hflush⟩ := h
  obtain ⟨t, ht⟩ : ∃ t, w.db.failedWebhooks.insert?
      { failedWebhookId := env.deadLetterId event.rawBodyHash, provider := d.providerName,
        eventType := event.eventType, signature := some d.signature,
        rawBodyHash := event.rawBodyHash, payload := event.payload,
        nextRetryAt := some (env.now + minutes 5),
        lastError := (given (some error)).map fun e => String.ofList (e.toList.take 500) } =
          some t := by
    rw [← Option.isSome_iff_exists, Option.isSome_iff_ne_none]
    intro hnone
    obtain ⟨f, hf, hclash⟩ := Table.insert?_eq_none.1 hnone
    exact hnew f hf (of_decide_eq_true hclash)
  refine ⟨t, Work.bind_eq_ok.2 ⟨(), { w with db := { w.db with failedWebhooks := t } },
    insert_eq_ok.2 ⟨{ w.db with failedWebhooks := t }, by rw [ht]; rfl, rfl⟩, ?_⟩⟩
  exact flush_eq_ok.2 ⟨hflush, rfl⟩

/-- A handler that raised is answered as a dead letter, when the outcome can be kept. -/
theorem processWebhook_of_kept (hmatched : Matched env d w event ids p w₁)
    (hraised : handler env event d p ids w₁ = .error failure w₂) (hkept : Kept env event failure w₂) :
    ∃ t, processWebhook env d w =
      .ok ⟨.deadLettered, event.eventId⟩ { w₂ with db := { w₂.db with failedWebhooks := t } } := by
  obtain ⟨husable, hstorable⟩ := hkept
  obtain ⟨t, ht⟩ := enqueueFailedWebhook_of_storable d failure.text hstorable
  have hgoes : raiseIf (failure.usable = false) failure w₂ = .ok () w₂ :=
    raiseIf_of_not (by simp [husable])
  refine ⟨t, ?_⟩
  rw [processWebhook_of_matched hmatched,
    Work.bind_of_ok (Work.attempt_eq_ok.2 (.inr ⟨failure, hraised, rfl⟩)), conclude,
    Work.bind_of_ok hgoes, Work.bind_of_ok ht]
  rfl

/-- **A handler that raised is committed or rolled back with its delivery.**  When the
outcome can be kept, the store is what the handler left, and a dead letter; when it
cannot, the store is what it was. -/
theorem request_of_raised (hmatched : Matched env d w event ids p w₁)
    (hraised : handler env event d p ids w₁ = .error failure w₂) :
    (Kept env event failure w₂ → ∃ t,
      (request (processWebhook env d) w).db = { w₂.db with failedWebhooks := t }) ∧
    (¬Kept env event failure w₂ → (request (processWebhook env d) w).db = w.db) := by
  constructor
  · intro hkept
    obtain ⟨t, ht⟩ := processWebhook_of_kept hmatched hraised hkept
    exact ⟨t, by rw [request_of_ok ht hkept.2.2]⟩
  · intro hlost
    have hrun : processWebhook env d w = conclude env event d (.error failure) w₂ := by
      rw [processWebhook_of_matched hmatched,
        Work.bind_of_ok (Work.attempt_eq_ok.2 (.inr ⟨failure, hraised, rfl⟩))]
    refine request_induction (P := fun db => db = w.db) rfl fun a w' h _ => absurd ?_ hlost
    rw [hrun] at h
    simp only [conclude, Work.bind_eq_ok, raiseIf_eq_ok] at h
    obtain ⟨_, _, ⟨husable, rfl⟩, _, _, henqueue, -⟩ := h
    exact ⟨by simpa using husable, (enqueueFailedWebhook_eq_ok henqueue).1⟩

/-! ### What a delivery can touch -/

section

variable {S : Database → Database → Prop} {C : List ProviderCall → List ProviderCall → Prop}
  [IsPreorder (List ProviderCall) C] [BooksFrame S] [TransitionFrame S] [SettlementFrame S]

/-- Whatever comes of it, the handler stays in the frame. -/
theorem handler_frame : Work.Moves (OnWorld S C) (handler env event d p ids) :=
  .ite (fun _ => .bind moves_ofAnswer fun _ => .bind moves_ofAnswer fun _ =>
    .bind verifyPayment_frame fun _ => .pure) fun _ => .bind moves_ofAnswer fun _ =>
      .bind failPayment_frame fun _ => .pure

end

section

variable {S : Database → Database → Prop} {C : List ProviderCall → List ProviderCall → Prop}
  [IsPreorder (List ProviderCall) C] [LetterFrame S]

theorem modifyEvent_frame {id : String} {f : ProviderEvent → ProviderEvent}
    {h : ∀ e, Keyed.key (f e) = Keyed.key e} :
    Work.Moves (OnWorld S C) (update fun db => db.modifyEvent id f h) :=
  moves_update fun db => LetterFrame.events db _

section

variable [IsPreorder Database S]

theorem setEventStatus_frame {id : String} {s : ProviderEventStatus} {time : Option Time} :
    Work.Moves (OnWorld S C) (setEventStatus id s time) :=
  .bind modifyEvent_frame fun _ => moves_flush

theorem enqueueFailedWebhook_frame {error : String} :
    Work.Moves (OnWorld S C) (enqueueFailedWebhook env event d error) := by
  refine .bind (moves_insert fun db db' h => ?_) fun _ => moves_flush
  obtain ⟨t, ht, rfl⟩ := Option.map_eq_some_iff.1 h
  exact LetterFrame.letter db _ t rfl rfl ht

/-- **A delivery moves the store as its handler does**, dead letters and committed
exceptions included. -/
theorem processWebhook_moves
    (hhandler : ∀ event p ids, Work.Moves (OnWorld S C) (handler env event d p ids)) :
    Work.Moves (OnWorld S C) (processWebhook env d) := by
  refine .bind moves_ofAnswer fun event => .bind moves_query fun existing => ?_
  cases existing with
  | some _ => exact .pure
  | none =>
      refine .bind moves_flush fun _ => .bind (moves_nested (.bind (moves_insert fun db db' h => ?_)
        fun _ => moves_flush)) fun inserted => ?_
      · obtain ⟨t, -, rfl⟩ := Option.map_eq_some_iff.1 h
        exact LetterFrame.events db t
      cases inserted with
      | error _ => exact .pure
      | ok _ =>
          refine .ite (fun _ => .bind setEventStatus_frame fun _ => .pure) fun _ =>
            .bind moves_ofAnswer fun ids => .bind .ask fun found => ?_
          cases found with
          | none =>
              exact .bind setEventStatus_frame fun _ => .bind enqueueFailedWebhook_frame fun _ => .pure
          | some p =>
              refine .bind modifyEvent_frame fun _ => .bind (.attempt (hhandler event p ids))
                fun outcome => ?_
              cases outcome with
              | ok _ => exact .bind setEventStatus_frame fun _ => .pure
              | error _ =>
                  exact .bind moves_raiseIf fun _ => .bind enqueueFailedWebhook_frame fun _ => .pure

end

theorem processWebhook_frame [BooksFrame S] [TransitionFrame S] [SettlementFrame S] :
    Work.Moves (OnWorld S C) (processWebhook env d) :=
  processWebhook_moves fun _ _ _ => handler_frame

end

end Webhook
end AgenticCommerce
