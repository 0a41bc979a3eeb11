/-
# The ledger replays the statuses

The transition events of a checkout, or of a payment, are a trail of the transition
table from `created` to its status (`Database.Replayed`): whatever sets a status is a
transition of a row that the store has, and records the two statuses it leads from and
to.  The trail is kept by every operation, the committed part of a raised callback
included, so the ledger can be replayed in every state of a run (`ledger_replays`).
-/

import AgenticCommerce.Lifecycle.Laws
import AgenticCommerce.Lifecycle.Transits
import AgenticCommerce.Relational.Trails

namespace AgenticCommerce

open Relational Work

/-! ### What an event records -/

/-- The status a transition event led from. -/
def AuditEvent.fromStatus (e : AuditEvent) : Option Json := Json.lookup e.metadata "from_status"

/-- The status a transition event led to. -/
def AuditEvent.toStatus (e : AuditEvent) : Option Json := Json.lookup e.metadata "to_status"

/-- The event is an edge of the transition table between two texts of statuses, taken by
an actor the rule admits. -/
def AuditEvent.Follows (e : AuditEvent) (source : RuleState) (target : RuleState → Prop)
    (before after : String) : Prop :=
  e.fromStatus = some (.str before) ∧ e.toStatus = some (.str after) ∧
    ∃ rule ∈ transitions, rule.source = source ∧ e.eventType = rule.event.value ∧
      target rule.target ∧ e.actorType ∈ rule.actors

/-- The event records an edge between two statuses of a checkout. -/
def CheckoutStatus.Recorded (s : CheckoutStatus) (e : AuditEvent) (s' : CheckoutStatus) : Prop :=
  e.Follows s.canonical (fun target => ofCanonical? target = some s') s.value s'.value

/-- The event records an edge between two statuses of a payment. -/
def PaymentStatus.Recorded (s : PaymentStatus) (e : AuditEvent) (s' : PaymentStatus) : Prop :=
  e.Follows s.canonical (fun target => ofCanonical? target = some s') s.value s'.value

/-- The transition events of an entity, in the order of the ledger. -/
def Database.history (db : Database) (aggregateType aggregateId : String) : List AuditEvent :=
  db.auditEvents.filter fun e =>
    e.transition && e.aggregateType == aggregateType && e.aggregateId == aggregateId

/-- **The ledger replays the statuses**, and knows no entity that is not stored. -/
structure Database.Replayed (db : Database) : Prop where
  checkouts : ∀ c ∈ db.checkouts,
    Trail CheckoutStatus.Recorded .created (db.history "checkout" c.checkoutId) c.status
  payments : ∀ p ∈ db.payments,
    Trail PaymentStatus.Recorded .created (db.history "payment" p.paymentId) p.status
  known : ∀ e ∈ db.auditEvents, e.transition = true →
    (e.aggregateType = "checkout" → ∃ c ∈ db.checkouts, c.checkoutId = e.aggregateId) ∧
    (e.aggregateType = "payment" → ∃ p ∈ db.payments, p.paymentId = e.aggregateId)

/-! ### The ledger's own cleaning -/

/-- The keys of a transition's metadata are not sensitive. -/
theorem Audit.not_sensitive {key : String} (hkey : key = "from_status" ∨ key = "to_status") :
    (Audit.unsafeKey key && Audit.sensitive key) = false := by
  rcases hkey with rfl | rfl <;> decide +kernel

/-- A text that looks like no credential is stored as it is. -/
theorem Audit.safeMetadata_str {key text : String}
    (hkey : key = "from_status" ∨ key = "to_status")
    (htext : (Audit.hasSecret text.toList || Audit.isEntropy text.toList) = false) :
    Audit.safeMetadata key (.str text) = .str text := by
  obtain ⟨hsecret, hentropy⟩ := Bool.or_eq_false_iff.1 htext
  rw [Audit.safeMetadata, Audit.not_sensitive hkey, hsecret, hentropy, Bool.and_false]
  rfl

theorem CheckoutStatus.value_safe (s : CheckoutStatus) :
    (Audit.hasSecret s.value.toList || Audit.isEntropy s.value.toList) = false := by
  cases s <;> decide

theorem PaymentStatus.value_safe (s : PaymentStatus) :
    (Audit.hasSecret s.value.toList || Audit.isEntropy s.value.toList) = false := by
  cases s <;> decide

/-- What is stored of the metadata of a transition. -/
theorem Audit.safeFields_statuses {before after : String}
    (hbefore : (Audit.hasSecret before.toList || Audit.isEntropy before.toList) = false)
    (hafter : (Audit.hasSecret after.toList || Audit.isEntropy after.toList) = false) :
    Audit.safeFields [("from_status", .str before), ("to_status", .str after)] =
      [("from_status", .str before), ("to_status", .str after)] := by
  rw [Audit.safeFields, Audit.safeFields, Audit.safeFields, Audit.safeMetadata_str (.inl rfl) hbefore,
    Audit.safeMetadata_str (.inr rfl) hafter]

/-- Cleaning the metadata keeps the keys. -/
theorem Audit.safeFields_keys (items : List (String × Json)) :
    (Audit.safeFields items).map Prod.fst = items.map Prod.fst := by
  induction items with
  | nil => rw [Audit.safeFields]
  | cons item items ih => rw [Audit.safeFields, List.map_cons, List.map_cons, ih]

/-- An event is stored as a transition when it is one. -/
theorem AuditEvent.transition_stored (e : AuditEvent) :
    AuditEvent.transition { e with metadata := Audit.safeFields e.metadata } = e.transition := by
  have hany : ∀ items : List (String × Json), (items.any fun item => item.1 == "to_status") =
      (items.map Prod.fst).any fun key => key == "to_status" := fun items => by
    rw [List.any_map]
    rfl
  rw [AuditEvent.transition, AuditEvent.transition, hany, hany, Audit.safeFields_keys]

/-! ### What an event adds to a history -/

section

variable {db db' : Database} {e : AuditEvent}

/-- An event as the ledger stores it. -/
def AuditEvent.stored (e : AuditEvent) : AuditEvent :=
  { e with metadata := Audit.safeFields e.metadata }

theorem history_appendAudit (aggregateType aggregateId : String) :
    (db.appendAudit e).history aggregateType aggregateId =
      db.history aggregateType aggregateId ++
        [e.stored].filter fun e =>
          e.transition && e.aggregateType == aggregateType && e.aggregateId == aggregateId := by
  rw [Database.history, Database.appendAudit, List.filter_append]
  rfl

/-- An event of another entity, or of no transition, is not in a history. -/
theorem history_appendAudit_of_not {aggregateType aggregateId : String}
    (h : e.transition = true → ¬(e.aggregateType = aggregateType ∧ e.aggregateId = aggregateId)) :
    (db.appendAudit e).history aggregateType aggregateId = db.history aggregateType aggregateId := by
  rw [history_appendAudit, List.filter_cons_of_neg, List.filter_nil, List.append_nil]
  simp only [Bool.and_eq_true, beq_iff_eq]
  rintro ⟨⟨htransition, htype⟩, hid⟩
  exact h (e.transition_stored.symm.trans htransition) ⟨htype, hid⟩

/-- The history of the entity that the event of a transition is about. -/
theorem history_appendAudit_self (db : Database) (h : e.transition = true) :
    (db.appendAudit e).history e.aggregateType e.aggregateId =
      db.history e.aggregateType e.aggregateId ++ [e.stored] := by
  rw [history_appendAudit, List.filter_cons_of_pos, List.filter_nil]
  simp only [Bool.and_eq_true, beq_iff_eq]
  exact ⟨⟨e.transition_stored.trans h, rfl⟩, rfl⟩

theorem history_congr (h : db'.auditEvents = db.auditEvents) (aggregateType aggregateId : String) :
    db'.history aggregateType aggregateId = db.history aggregateType aggregateId := by
  rw [Database.history, Database.history, h]

end

/-! ### The trail is kept -/

/-- If the ledger replays the statuses, it still does. -/
def Database.KeepsReplay (db db' : Database) : Prop := db.Replayed → db'.Replayed

namespace Database

instance : IsPreorder Database KeepsReplay where
  refl _ h := h
  trans _ _ _ h h' hdb := h' (h hdb)

variable {db db' : Database}

theorem KeepsReplay.of_eq (hcheckouts : db'.checkouts = db.checkouts)
    (hpayments : db'.payments = db.payments) (hevents : db'.auditEvents = db.auditEvents) :
    db.KeepsReplay db' := by
  intro h
  constructor
  · intro c hc
    rw [history_congr hevents]
    exact h.checkouts c (hcheckouts ▸ hc)
  · intro p hp
    rw [history_congr hevents]
    exact h.payments p (hpayments ▸ hp)
  · intro e he
    rw [hcheckouts, hpayments]
    exact h.known e (hevents ▸ he)

/-- An event that records no transition. -/
theorem KeepsReplay.of_silent {e : AuditEvent} (he : e.transition = false) :
    db.KeepsReplay (db.appendAudit e) := by
  have hsilent : e.transition = true → False := fun h => by
    rw [he] at h
    exact nomatch h
  intro h
  constructor
  · intro c hc
    rw [history_appendAudit_of_not fun ht => (hsilent ht).elim]
    exact h.checkouts c hc
  · intro p hp
    rw [history_appendAudit_of_not fun ht => (hsilent ht).elim]
    exact h.payments p hp
  · intro e' he' ht
    rcases List.mem_append.1 he' with he' | he'
    · exact h.known e' he' ht
    · obtain rfl := List.mem_singleton.1 he'
      exact (hsilent (e.transition_stored.symm.trans ht)).elim

instance : BooksFrame KeepsReplay where
  books _ _ _ _ _ _ := .of_eq rfl rfl rfl
  event _ e he := by
    simp only [AuditEvent.routine, Bool.and_eq_true, Bool.not_eq_true'] at he
    exact .of_silent he.1.2

instance : RecordsFrame KeepsReplay := ⟨fun _ _ => .of_eq rfl rfl rfl⟩
instance : CallbackFrame KeepsReplay := ⟨fun _ _ _ => .of_eq rfl rfl rfl⟩
instance : AuthorizationFrame KeepsReplay :=
  ⟨fun _ _ _ _ _ => .of_eq rfl rfl rfl, fun _ _ _ _ => .of_eq rfl rfl rfl,
    fun _ _ _ _ _ => .of_eq rfl rfl rfl⟩

/-- The ledger has no history of an entity that is not stored. -/
theorem Replayed.history_eq_nil {aggregateType aggregateId : String} (h : db.Replayed)
    (hnew : (aggregateType = "checkout" ∧ ∀ c ∈ db.checkouts, c.checkoutId ≠ aggregateId) ∨
      (aggregateType = "payment" ∧ ∀ p ∈ db.payments, p.paymentId ≠ aggregateId)) :
    db.history aggregateType aggregateId = [] := by
  rw [Database.history, List.filter_eq_nil_iff]
  intro e he hmatch
  simp only [Bool.and_eq_true, beq_iff_eq] at hmatch
  obtain ⟨⟨ht, rfl⟩, rfl⟩ := hmatch
  rcases hnew with ⟨htype, hnew⟩ | ⟨htype, hnew⟩
  · obtain ⟨c, hc, hid⟩ := (h.known e he ht).1 htype
    exact hnew c hc hid
  · obtain ⟨p, hp, hid⟩ := (h.known e he ht).2 htype
    exact hnew p hp hid

instance : CheckoutFrame KeepsReplay where
  opening db c t hs ht h := by
    have hnew : ∀ d ∈ db.checkouts, d.checkoutId ≠ c.checkoutId := fun d hd hid => by
      have hclash := (Table.insert?_eq_some.1 ht).1 d hd
      simp [clashes, Keyed.clash, Keyed.key, hid] at hclash
    constructor
    · intro d hd
      rcases (Table.mem_insert ht).1 hd with hd | rfl
      · exact h.checkouts d hd
      · have hnil : ({ db with checkouts := t } : Database).history "checkout" d.checkoutId = [] :=
          h.history_eq_nil (.inl ⟨rfl, hnew⟩)
        rw [hnil, hs]
        exact .nil
    · exact h.payments
    · intro e he ht'
      refine ⟨fun htype => ?_, (h.known e he ht').2⟩
      obtain ⟨d, hd, hid⟩ := (h.known e he ht').1 htype
      exact ⟨d, (Table.mem_insert ht).2 (.inl hd), hid⟩

instance : AttemptFrame KeepsReplay where
  modify db id f hkey hstatus h := by
    have hid : ∀ p, (f p).paymentId = p.paymentId := hkey
    constructor
    · exact h.checkouts
    · intro p hp
      rw [modifyPayment, Table.mem_modify] at hp
      obtain ⟨q, hq, rfl⟩ := hp
      have hsame : (if q.paymentId == id then f q else q).paymentId = q.paymentId ∧
          (if q.paymentId == id then f q else q).status = q.status := by
        split_ifs
        · exact ⟨hid q, (hstatus q).1⟩
        · exact ⟨rfl, rfl⟩
      rw [hsame.1, hsame.2]
      exact h.payments q hq
    · intro e he ht
      refine ⟨(h.known e he ht).1, fun htype => ?_⟩
      obtain ⟨p, hp, hpid⟩ := (h.known e he ht).2 htype
      have hstays : (if p.paymentId == id then f p else p) ∈
          (db.modifyPayment id f hkey).payments := by
        rw [modifyPayment, Table.mem_modify]
        exact ⟨p, hp, rfl⟩
      refine ⟨_, hstays, ?_⟩
      split_ifs
      · exact (hid p).trans hpid
      · exact hpid
  opening db p t hs ht h := by
    have hnew : ∀ q ∈ db.payments, q.paymentId ≠ p.paymentId := fun q hq hid => by
      have hclash := (Table.insert?_eq_some.1 ht).1 q hq
      simp [clashes, Keyed.clash, Keyed.key, hid] at hclash
    constructor
    · exact h.checkouts
    · intro q hq
      rcases (Table.mem_insert ht).1 hq with hq | rfl
      · exact h.payments q hq
      · have hnil : ({ db with payments := t } : Database).history "payment" q.paymentId = [] :=
          h.history_eq_nil (.inr ⟨rfl, hnew⟩)
        rw [hnil, hs]
        exact .nil
    · intro e he ht'
      refine ⟨(h.known e he ht').1, fun htype => ?_⟩
      obtain ⟨q, hq, hid⟩ := (h.known e he ht').2 htype
      exact ⟨q, (Table.mem_insert ht).2 (.inl hq), hid⟩

end Database

/-! ### Transitions are recorded -/

section

variable {db db' : Database} {event : TransitionEvent} {context : TransitionContext}
  {rule : TransitionRule}

theorem Aggregate.record_transition (event : TransitionEvent) (context : TransitionContext)
    (rule : TransitionRule) (a : Aggregate) :
    (a.record event context rule).transition = true := rfl

/-- What the record of a transition says, once it is stored. -/
theorem Aggregate.record_follows {a : Aggregate} {source : RuleState}
    {target : RuleState → Prop} {before after : String} (hsource : a.source = source)
    (hbefore : a.statusValue = before) (hafter : a.targetValue rule.target = some after)
    (hsafe : (Audit.hasSecret before.toList || Audit.isEntropy before.toList) = false ∧
      (Audit.hasSecret after.toList || Audit.isEntropy after.toList) = false)
    (hvalid : validate a.source event context = .ok rule) (htarget : target rule.target) :
    (a.record event context rule).stored.Follows source target before after := by
  obtain ⟨hrule, hactor, -⟩ := validate_eq_ok hvalid
  have hmatch := List.find?_some hrule
  simp only [Bool.and_eq_true, decide_eq_true_eq] at hmatch
  have hmetadata : (a.record event context rule).stored.metadata =
      [("from_status", .str before), ("to_status", .str after)] := by
    simp only [AuditEvent.stored, Aggregate.record, hbefore, hafter, Json.ofOption]
    exact Audit.safeFields_statuses hsafe.1 hsafe.2
  refine ⟨?_, ?_, rule, List.mem_of_find?_eq_some hrule, hmatch.1.trans hsource,
    congrArg TransitionEvent.value hmatch.2.symm, htarget, hactor⟩
  · rw [AuditEvent.fromStatus, hmetadata]
    rfl
  · rw [AuditEvent.toStatus, hmetadata]
    rfl

/-- A row that is updated is still stored. -/
theorem exists_setCheckoutStatus {c : Checkout} (id : String) (s : CheckoutStatus)
    (hc : c ∈ db.checkouts) :
    ∃ c' ∈ (db.setCheckoutStatus id s).checkouts, c'.checkoutId = c.checkoutId := by
  have hstays : (if c.checkoutId == id then { c with status := s } else c) ∈
      (db.setCheckoutStatus id s).checkouts := by
    rw [Database.setCheckoutStatus, Table.mem_modify]
    exact ⟨c, hc, rfl⟩
  refine ⟨_, hstays, ?_⟩
  split_ifs <;> rfl

theorem exists_setPaymentStatus {p : Payment} (id : String) (s : PaymentStatus)
    (hp : p ∈ db.payments) :
    ∃ p' ∈ (db.setPaymentStatus id s).payments, p'.paymentId = p.paymentId := by
  have hstays : (if p.paymentId == id then { p with status := s } else p) ∈
      (db.setPaymentStatus id s).payments := by
    rw [Database.setPaymentStatus, Table.mem_modify]
    exact ⟨p, hp, rfl⟩
  refine ⟨_, hstays, ?_⟩
  split_ifs <;> rfl

/-- The two kinds of aggregates are told apart. -/
theorem aggregateTypes_ne : "checkout" ≠ "payment" := by decide

/-- **A transition of a checkout extends its trail**, and no other. -/
theorem Database.Replayed.checkoutTransition {c : Checkout} {s : CheckoutStatus}
    (h : db.Replayed) (hc : c ∈ db.checkouts)
    (hvalid : validate c.status.canonical event context = .ok rule)
    (hs : CheckoutStatus.ofCanonical? rule.target = some s) :
    ((db.setCheckoutStatus c.checkoutId s).appendAudit
      ((Aggregate.checkout c).record event context rule)).Replayed := by
  have hrecorded : CheckoutStatus.Recorded c.status
      ((Aggregate.checkout c).record event context rule).stored s :=
    Aggregate.record_follows rfl rfl (by rw [Aggregate.targetValue, hs, Option.map_some])
      ⟨c.status.value_safe, s.value_safe⟩ hvalid hs
  constructor
  · intro c' hc'
    have hc'' : c' ∈ (db.setCheckoutStatus c.checkoutId s).checkouts := hc'
    rw [setCheckoutStatus, Table.mem_modify] at hc''
    obtain ⟨d, hd, rfl⟩ := hc''
    by_cases hid : (d.checkoutId == c.checkoutId) = true
    · obtain rfl : d = c := Table.eq_of_clash hd hc (by
        simpa [clashes, Keyed.clash, Keyed.key] using hid)
      rw [if_pos hid]
      have hhistory := history_appendAudit_self (db.setCheckoutStatus d.checkoutId s)
        (Aggregate.record_transition event context rule
          (.checkout d))
      exact hhistory.symm ▸ Trail.snoc (h.checkouts d hd) hrecorded
    · rw [if_neg hid, history_appendAudit_of_not fun _ hsame => hid (beq_iff_eq.2 hsame.2.symm)]
      exact h.checkouts d hd
  · intro p hp
    rw [history_appendAudit_of_not fun _ hsame => aggregateTypes_ne hsame.1]
    exact h.payments p hp
  · intro e he ht
    rcases List.mem_append.1 he with he | he
    · refine ⟨fun htype => ?_, (h.known e he ht).2⟩
      obtain ⟨d, hd, hid⟩ := (h.known e he ht).1 htype
      obtain ⟨d', hd', hid'⟩ := exists_setCheckoutStatus c.checkoutId s hd
      exact ⟨d', hd', hid'.trans hid⟩
    · obtain rfl := List.mem_singleton.1 he
      exact ⟨fun _ => exists_setCheckoutStatus _ _ hc, fun htype => absurd htype aggregateTypes_ne⟩

/-- **A transition of a payment extends its trail**, and no other. -/
theorem Database.Replayed.paymentTransition {p : Payment} {s : PaymentStatus}
    (h : db.Replayed) (hp : (Aggregate.payment p).Current db)
    (hvalid : validate p.status.canonical event context = .ok rule)
    (hs : PaymentStatus.ofCanonical? rule.target = some s) :
    ((db.setPaymentStatus p.paymentId s).appendAudit
      ((Aggregate.payment p).record event context rule)).Replayed := by
  obtain ⟨q, hq, hqid, hqstatus⟩ := hp
  have hrecorded : PaymentStatus.Recorded p.status
      ((Aggregate.payment p).record event context rule).stored s :=
    Aggregate.record_follows rfl rfl (by rw [Aggregate.targetValue, hs, Option.map_some])
      ⟨p.status.value_safe, s.value_safe⟩ hvalid hs
  constructor
  · intro c hc
    rw [history_appendAudit_of_not fun _ hsame => aggregateTypes_ne hsame.1.symm]
    exact h.checkouts c hc
  · intro p' hp'
    have hp'' : p' ∈ (db.setPaymentStatus p.paymentId s).payments := hp'
    rw [setPaymentStatus, Table.mem_modify] at hp''
    obtain ⟨d, hd, rfl⟩ := hp''
    by_cases hid : (d.paymentId == p.paymentId) = true
    · obtain rfl : d = q := payment_unique hd hq ((beq_iff_eq.1 hid).trans hqid.symm)
      rw [if_pos hid]
      have hhistory := history_appendAudit_self (db.setPaymentStatus p.paymentId s)
        (Aggregate.record_transition event context rule
          (.payment p))
      have htrail : Trail PaymentStatus.Recorded .created (db.history "payment" p.paymentId)
          p.status := hqid ▸ hqstatus ▸ h.payments d hd
      have hsame : ({ d with status := s } : Payment).paymentId = p.paymentId := hqid
      rw [hsame]
      exact hhistory.symm ▸ Trail.snoc htrail hrecorded
    · rw [if_neg hid, history_appendAudit_of_not fun _ hsame => hid (beq_iff_eq.2 hsame.2.symm)]
      exact h.payments d hd
  · intro e he ht
    rcases List.mem_append.1 he with he | he
    · refine ⟨(h.known e he ht).1, fun htype => ?_⟩
      obtain ⟨d, hd, hid⟩ := (h.known e he ht).2 htype
      obtain ⟨d', hd', hid'⟩ := exists_setPaymentStatus p.paymentId s hd
      exact ⟨d', hd', hid'.trans hid⟩
    · obtain rfl := List.mem_singleton.1 he
      refine ⟨fun htype => absurd htype.symm aggregateTypes_ne, fun _ => ?_⟩
      obtain ⟨q', hq', hid'⟩ := exists_setPaymentStatus p.paymentId s hq
      exact ⟨q', hq', hid'.trans hqid⟩

end

instance {closable : Checkout → TransitionEvent → Prop} :
    TransitFrame closable Database.KeepsReplay where
  transit db db' aggregate event context rule _ hcurrent hvalid hset h := by
    cases aggregate with
    | checkout c =>
        obtain ⟨s, hs, rfl⟩ := Option.map_eq_some_iff.1 hset
        exact h.checkoutTransition hcurrent hvalid hs
    | payment p =>
        obtain ⟨s, hs, rfl⟩ := Option.map_eq_some_iff.1 hset
        exact h.paymentTransition hcurrent hvalid hs

/-! ### Replaying the ledger -/

/-- The transition events of an entity lead from an initial status to a final one. -/
structure Traces (history : List AuditEvent) (initial final : String) (Edge : AuditEvent → Prop) :
    Prop where
  latest : (history = [] ∧ final = initial) ∨
    ∃ e ∈ history.getLast?, e.toStatus = some (.str final)
  starts : ∀ e ∈ history.head?, e.fromStatus = some (.str initial)
  chained : history.IsChain fun e e' => e'.fromStatus = e.toStatus
  allowed : ∀ e ∈ history, Edge e

/-- A trail of statuses, read as the texts that the events record. -/
theorem Traces.of_trail {σ : Type} {R : σ → AuditEvent → σ → Prop} {value : σ → String}
    (hR : ∀ s e s', R s e s' → e.fromStatus = some (.str (value s)) ∧
      e.toStatus = some (.str (value s')))
    {s s' : σ} {history : List AuditEvent} (h : Trail R s history s') :
    Traces history (value s) (value s') fun e => ∃ t t', R t e t' where
  latest := by
    rcases h.last with ⟨hnil, rfl⟩ | ⟨e, he, t, hstep⟩
    · exact .inl ⟨hnil, rfl⟩
    · exact .inr ⟨e, he, (hR _ _ _ hstep).2⟩
  starts := h.head fun e u hstep => (hR _ _ _ hstep).1
  chained := h.isChain fun a b c e e' hstep hstep' =>
    (hR b e' c hstep').1.trans (hR a e b hstep).2.symm
  allowed := h.every

/-- The store's ledger replays the statuses throughout a run. -/
theorem replayed_of_run {w₀ w : World} (h₀ : Unsold w₀.db)
    (hledger : ∀ e ∈ w₀.db.auditEvents, e.transition = false)
    (hrun : Relation.ReflTransGen Step w₀ w) : w.db.Replayed := by
  refine invariant_of_steps (I := fun w : World => w.db.Replayed) ?_ ?_ hrun
  · rintro u v hu ⟨env, op, rfl⟩
    have hkeeps : u.db.KeepsReplay (op.run env u).db :=
      op.transits_of (fun _ _ => True) (fun _ _ _ _ _ _ _ he => .of_silent he.transition)
        (fun _ _ _ _ _ => .of_eq rfl rfl rfl) (fun _ _ _ _ _ _ => trivial)
        (fun _ _ _ _ _ _ _ _ _ _ => trivial) fun _ _ _ _ => trivial
    exact hkeeps hu
  · obtain ⟨hcheckouts, -, -, hpayments, -⟩ := h₀
    constructor
    · intro c hc
      rw [Table.mem_def, hcheckouts] at hc
      exact absurd hc List.not_mem_nil
    · intro p hp
      rw [Table.mem_def, hpayments] at hp
      exact absurd hp List.not_mem_nil
    · intro e he ht
      rw [hledger e he] at ht
      exact nomatch ht

/-- **The ledger replays the state machines.**  In every state of a run from a store
without purchases, the status of a checkout and of a payment is the one its latest
transition event led to, or `created` if it has none; its transition events chain from
`created` on; each is an edge of the transition table, taken by an actor its rule admits;
and a transition that is refused changes neither a status nor the ledger. -/
theorem ledger_replays {w₀ w : World} (h₀ : Unsold w₀.db)
    (hledger : ∀ e ∈ w₀.db.auditEvents, e.transition = false)
    (hrun : Relation.ReflTransGen Step w₀ w) :
    (∀ c ∈ w.db.checkouts,
      Traces (w.db.history "checkout" c.checkoutId) CheckoutStatus.created.value c.status.value
        fun e => ∃ s s', CheckoutStatus.Recorded s e s') ∧
    (∀ p ∈ w.db.payments,
      Traces (w.db.history "payment" p.paymentId) PaymentStatus.created.value p.status.value
        fun e => ∃ s s', PaymentStatus.Recorded s e s') ∧
    ∀ aggregate event context failure w',
      transition aggregate event context w = .error failure w' → w' = w := by
  have hreplayed := replayed_of_run h₀ hledger hrun
  refine ⟨fun c hc => ?_, fun p hp => ?_, fun _ _ _ _ _ h => transition_error h⟩
  · exact .of_trail (fun _ _ _ hstep => ⟨hstep.1, hstep.2.1⟩) (hreplayed.checkouts c hc)
  · exact .of_trail (fun _ _ _ hstep => ⟨hstep.1, hstep.2.1⟩) (hreplayed.payments p hp)

theorem ledger_replays_paymentVerified :
    (paymentVerified.db.history "checkout" "chk").length = 2 ∧
    (paymentVerified.db.history "payment" "pay").length = 2 ∧
    (∀ c ∈ paymentVerified.db.checkouts,
      Traces (paymentVerified.db.history "checkout" c.checkoutId) CheckoutStatus.created.value
        c.status.value fun e => ∃ s s', CheckoutStatus.Recorded s e s') ∧
    ∀ p ∈ paymentVerified.db.payments,
      Traces (paymentVerified.db.history "payment" p.paymentId) PaymentStatus.created.value
        p.status.value fun e => ∃ s s', PaymentStatus.Recorded s e s' := by
  have hreplays := ledger_replays openShop_unsold
    (fun e he => absurd he List.not_mem_nil) paymentVerified_reached
  exact ⟨by decide, by decide, hreplays.1, hreplays.2.1⟩

end AgenticCommerce
