/-
# How an authorization came to be granted

An authorization that is `approved` or `consumed` was granted in one of two ways: by
policy, when it was requested and the decision allowed it, or by its buyer, who approved it
in time.  Which of the two it was is told by the history of the system, so a run is kept
with the operations it went through (`Journal`).  Three operations write an authorization's
status, and only `approveAuthorization` and `requestAuthorization` grant one
(`grants_of_operation`); that every grant has its origin in the history follows by induction
over the run (`human_gate`).
-/

import AgenticCommerce.Lifecycle.Laws
import AgenticCommerce.Lifecycle.Steps
import AgenticCommerce.Payments.Binding

namespace AgenticCommerce

open Relational Work

/-- The authorization lets money be spent, or has. -/
def Authorization.Granted (a : Authorization) : Prop := a.status = .approved ∨ a.status = .consumed

/-- The amount is within every limit of both policies, whose versions are the recorded one. -/
structure Authorization.Within (a : Authorization) (rules : MerchantRules) (policy : BuyerPolicy) :
    Prop where
  maxima : a.amountCeilingMinor ≤ rules.maxTransactionMinor ∧
    a.amountCeilingMinor ≤ policy.maxTransactionMinor
  limits : a.amountCeilingMinor ≤ rules.autoApprovalLimitMinor ∧
    a.amountCeilingMinor ≤ policy.autoApprovalLimitMinor
  versions : rules.version = a.policyVersion ∧ policy.version = a.policyVersion

/-! ### Where a grant comes from -/

/-- **The operation granted the authorization by policy**: it requested it, for the total of
its checkout, and the decision on the rules of that moment allowed it. -/
structure AllowedByPolicy (env : Env) (op : Operation) (db db' : Database) (a : Authorization) :
    Prop where
  requested : ∃ ttl, op = .requestAuthorization a.buyerId a.merchantId a.checkoutId ttl
  decided : ∃ c, db.checkoutOf a.merchantId a.buyerId a.checkoutId = some c ∧
    c.totalMinor = a.amountCeilingMinor ∧ (Policy.decisionOf env c db).decision = .allow
  within : a.Within (Policy.merchantRulesOf a.merchantId db) (Policy.buyerPolicyOf a.buyerId db)
  recorded : ∃ r ∈ db'.policyDecisions, r.checkoutId = a.checkoutId ∧ r.decision = .allow ∧
    r.policyVersion = a.policyVersion
  created : { a with status := .approved } ∈ db'.authorizations ∧
    ∀ b ∈ db.authorizations, b.authorizationId ≠ a.authorizationId

/-- **The operation was the buyer's approval**, in time, of the authorization as it was. -/
structure ApprovedByBuyer (env : Env) (op : Operation) (db db' : Database) (a : Authorization) :
    Prop where
  asked : op = .approveAuthorization a.buyerId a.merchantId a.authorizationId
  timely : env.now < a.validUntil
  undecided : ∃ b ∈ db.authorizations, ¬b.Granted ∧ b = { a with status := b.status }
  approved : { a with status := .approved } ∈ db'.authorizations

/-- A grant that was there before. -/
def GrantedBefore (db : Database) (a : Authorization) : Prop :=
  ∃ b ∈ db.authorizations, b.Granted ∧ b = { a with status := b.status }

/-! ### What the services do to grants -/

namespace Database

instance : BooksFrame (Keeps Database.authorizations) := ⟨fun _ _ _ _ _ _ => rfl, fun _ _ _ => rfl⟩
instance : RecordsFrame (Keeps Database.authorizations) := ⟨fun _ _ => rfl⟩
instance : TransitionFrame (Keeps Database.authorizations) :=
  ⟨fun _ _ _ _ _ _ => rfl, fun _ _ _ _ _ => rfl⟩
instance : PaymentFrame (Keeps Database.authorizations) := ⟨fun _ _ _ _ _ => rfl, fun _ _ _ _ => rfl⟩
instance : CheckoutFrame (Keeps Database.authorizations) := ⟨fun _ _ _ _ _ => rfl⟩
instance : CallbackFrame (Keeps Database.authorizations) := ⟨fun _ _ _ => rfl⟩

end Database

variable {env : Env} {w w' : World} {db db' : Database} {a : Authorization}

theorem mem_setAuthorizationStatus {id : String} {s : AuthorizationStatus} :
    a ∈ (db.setAuthorizationStatus id s).authorizations ↔ ∃ b ∈ db.authorizations,
      (if b.authorizationId = id then { b with status := s } else b) = a := by
  have h := Table.mem_modify (t := db.authorizations) (p := fun b => b.authorizationId == id)
    (f := fun b => { b with status := s }) (h := fun _ => rfl) (b := a)
  simp only [beq_iff_eq] at h
  exact h

/-- A status other than a grant grants nothing. -/
theorem GrantedBefore.of_setStatus {id : String} {s : AuthorizationStatus}
    (hs : s ≠ .approved ∧ s ≠ .consumed)
    (hsame : db'.authorizations = (db.setAuthorizationStatus id s).authorizations)
    (ha : a ∈ db'.authorizations) (hgranted : a.Granted) : GrantedBefore db a := by
  rw [hsame, mem_setAuthorizationStatus] at ha
  obtain ⟨b, hb, rfl⟩ := ha
  split_ifs at hgranted ⊢ with hid
  · rcases hgranted with hgranted | hgranted
    · exact absurd hgranted hs.1
    · exact absurd hgranted hs.2
  · exact ⟨b, hb, hgranted, rfl⟩

theorem GrantedBefore.of_eq (hsame : db'.authorizations = db.authorizations)
    (ha : a ∈ db'.authorizations) (hgranted : a.Granted) : GrantedBefore db a := by
  rw [hsame] at ha
  exact ⟨a, ha, hgranted, rfl⟩

/-- A grant of which one was consumed. -/
theorem GrantedBefore.of_consumed {x : Authorization} (hx : x ∈ db.authorizations)
    (happroved : x.status = .approved)
    (hsame : db'.authorizations = (db.setAuthorizationStatus x.authorizationId .consumed).authorizations)
    (ha : a ∈ db'.authorizations) (hgranted : a.Granted) : GrantedBefore db a := by
  rw [hsame, mem_setAuthorizationStatus] at ha
  obtain ⟨b, hb, rfl⟩ := ha
  split_ifs at hgranted ⊢ with hid
  · obtain rfl := authorization_unique hb hx hid
    exact ⟨b, hb, .inl happroved, rfl⟩
  · exact ⟨b, hb, hgranted, rfl⟩

/-- **Requesting an authorization** grants by policy or not at all. -/
theorem requestAuthorization_grants {b m id : String} {ttl : ℤ} {v : AuthorizationV1}
    (h : Authorization.requestAuthorization env b m id ttl w = .ok v w')
    (ha : a ∈ w'.db.authorizations) (hgranted : a.Granted) :
    GrantedBefore w.db a ∨
      AllowedByPolicy env (.requestAuthorization b m id ttl) w.db w'.db a := by
  simp only [Authorization.requestAuthorization, bind_eq_ok, require_eq_ok, raiseIf_eq_ok,
    query_eq_ok] at h
  obtain ⟨c, _, ⟨hc, rfl⟩, _, _, ⟨_, rfl⟩, _, _, ⟨_, rfl⟩, existing, _, ⟨_, rfl⟩, h⟩ := h
  cases existing with
  | some auth =>
      rw [answerExisting_ok h] at ha
      exact .inl ⟨a, ha, hgranted, rfl⟩
  | none =>
      simp only [Policy.evaluateCheckoutPolicy, bind_eq_ok, require_eq_ok, query_eq_ok,
        raiseIf_eq_ok, insert_eq_ok, flush_eq_ok, appendEvent_eq_ok, Work.pure_eq_ok,
        Option.map_eq_some_iff] at h
      obtain ⟨result, _, ⟨c', _, ⟨hc', rfl⟩, _, _, ⟨rfl, rfl⟩, _, _, ⟨_, ⟨t, hrecord, rfl⟩, rfl⟩, _,
        _, ⟨_, rfl⟩, _, _, rfl, rfl, rfl⟩, _, _, ⟨_, rfl⟩, _, _, ⟨_, ⟨u, hins, rfl⟩, rfl⟩, _, w₂,
        htr, _, _, ⟨_, rfl⟩, _, _, rfl, _, rfl⟩ := h
      obtain rfl := Option.some.inj (hc.symm.trans hc')
      obtain ⟨s, _, _, rfl⟩ := transition_checkout htr
      have hmem : a ∈ u := ha
      have hfresh := (Table.insert?_eq_some.1 hins).1
      rcases (Table.mem_insert hins).1 hmem with hold | rfl
      · exact .inl ⟨a, hold, hgranted, rfl⟩
      obtain ⟨hcmem, hkeys⟩ := Table.first_eq_some hc
      simp only [Bool.and_eq_true, beq_iff_eq] at hkeys
      obtain ⟨⟨rfl, rfl⟩, rfl⟩ := hkeys
      have hallow : (Policy.decisionOf env c w.db).decision = .allow := by
        by_contra hnot
        have hstatus : (if (Policy.decisionOf env c w.db).decision = .allow then
            AuthorizationStatus.approved else .pending) = .pending := if_neg hnot
        rcases hgranted with hgranted | hgranted
        · cases hstatus.symm.trans hgranted
        · cases hstatus.symm.trans hgranted
      have hstatus : (Authorization.rowOf env c c.buyerId c.merchantId
          (Policy.decisionOf env c w.db) ttl).status = .approved := if_pos hallow
      obtain ⟨hmaxima, hlimits, hversion⟩ := within_of_allow hallow
      refine .inr ⟨⟨ttl, rfl⟩, ⟨c, hc, rfl, hallow⟩, ⟨hmaxima, hlimits, hversion.symm, rfl⟩, ⟨_, (Table.mem_insert hrecord).2 (.inr rfl), rfl, hallow, rfl⟩,
        ?_, fun b hb hid => ?_⟩
      · have hrow : ({ Authorization.rowOf env c c.buyerId c.merchantId
            (Policy.decisionOf env c w.db) ttl with status := .approved } : Authorization) =
              Authorization.rowOf env c c.buyerId c.merchantId (Policy.decisionOf env c w.db) ttl := by
          rw [← hstatus]
        rw [hrow]
        exact hmem
      · have hclash := hfresh b hb
        simp [clashes, Keyed.clash, Keyed.key, hid] at hclash

/-- **Approving an authorization** grants it in time or not at all. -/
theorem approveAuthorization_grants {b m id : String} {v : AuthorizationV1}
    (h : Authorization.approveAuthorization env b m id w = .ok v w')
    (ha : a ∈ w'.db.authorizations) (hgranted : a.Granted) :
    GrantedBefore w.db a ∨ ApprovedByBuyer env (.approveAuthorization b m id) w.db w'.db a := by
  simp only [Authorization.approveAuthorization, bind_eq_ok, require_eq_ok, raiseIf_eq_ok] at h
  obtain ⟨auth, _, ⟨hauth, rfl⟩, _, _, ⟨_, rfl⟩, h⟩ := h
  obtain ⟨hmem, hkeys⟩ := Table.first_eq_some hauth
  simp only [Bool.and_eq_true, beq_iff_eq] at hkeys
  obtain ⟨⟨rfl, rfl⟩, rfl⟩ := hkeys
  split_ifs at h with happroved hlate
  · rw [getAuthorization_ok h] at ha
    exact .inl ⟨a, ha, hgranted, rfl⟩
  · simp only [bind_eq_ok, raiseIf_eq_ok] at h
    obtain ⟨_, _, _, _, _, _, h⟩ := h
    exact absurd h expire_ok
  · simp only [bind_eq_ok, raiseIf_eq_ok, update_eq_ok, query_eq_ok, flush_eq_ok,
      appendEvent_eq_ok] at h
    obtain ⟨_, _, ⟨hunused, rfl⟩, _, _, ⟨_, rfl⟩, _, _, rfl, c, _, ⟨_, rfl⟩, _, w₂, htr, _, _,
      ⟨_, rfl⟩, _, _, rfl, hget⟩ := h
    obtain rfl := getAuthorization_ok hget
    have hmoves : Work.Moves (OnWorld (Database.Keeps Database.authorizations) Eq)
        (c.elim (pure ()) fun c => transition (.checkout c) .approveAuthorization
          { actorType := "buyer", actorId := some auth.buyerId,
            merchantId := some auth.merchantId, now := env.now }) :=
      .elim fun _ => transition_frame (by rintro ⟨⟩)
    have hsame := (hmoves.1 _ _ _ htr).1
    have hstored : a ∈ (w.db.setAuthorizationStatus auth.authorizationId .approved).authorizations := by
      rw [show (w.db.setAuthorizationStatus auth.authorizationId .approved).authorizations =
        w₂.db.authorizations from hsame]
      exact ha
    obtain ⟨b, hb, hrow⟩ := mem_setAuthorizationStatus.1 hstored
    split_ifs at hrow with hid
    · obtain rfl := authorization_unique hb hmem hid
      subst hrow
      refine .inr ⟨rfl, not_le.1 hlate, ⟨b, hb, ?_, rfl⟩, ha⟩
      rintro (hs | hs)
      · exact happroved hs
      · exact hunused hs
    · subst hrow
      exact .inl ⟨b, hb, hgranted, rfl⟩

/-- **Rejecting an authorization** grants nothing. -/
theorem rejectAuthorization_grants {b m id : String} {v : AuthorizationV1}
    (h : Authorization.rejectAuthorization env b m id w = .ok v w')
    (ha : a ∈ w'.db.authorizations) (hgranted : a.Granted) : GrantedBefore w.db a := by
  simp only [Authorization.rejectAuthorization, bind_eq_ok, require_eq_ok, raiseIf_eq_ok] at h
  obtain ⟨auth, _, ⟨_, rfl⟩, _, _, ⟨_, rfl⟩, h⟩ := h
  split_ifs at h with hrejected hlate
  · rw [getAuthorization_ok h] at ha
    exact ⟨a, ha, hgranted, rfl⟩
  · simp only [bind_eq_ok, raiseIf_eq_ok] at h
    obtain ⟨_, _, _, _, _, _, h⟩ := h
    exact absurd h expire_ok
  · simp only [bind_eq_ok, raiseIf_eq_ok, update_eq_ok, query_eq_ok, flush_eq_ok,
      appendEvent_eq_ok] at h
    obtain ⟨_, _, ⟨_, rfl⟩, _, _, ⟨_, rfl⟩, c, _, ⟨_, rfl⟩, _, _, ⟨_, rfl⟩, _, _, rfl, _, w₂, hmove,
      _, _, ⟨_, rfl⟩, _, _, rfl, hget⟩ := h
    obtain rfl := getAuthorization_ok hget
    have hmoves : Work.Moves (OnWorld (Database.Keeps Database.authorizations) Eq)
        (c.elim (pure ()) fun c => do
          transition (.checkout c) .rejectAuthorization
            { actorType := "buyer", actorId := some b, merchantId := some m, now := env.now }
          Inventory.releaseStock env c.checkoutId (some m)) :=
      .elim fun _ => .bind (transition_frame (by rintro ⟨⟩)) fun _ => releaseStock_frame
    have hsame : (w.db.setAuthorizationStatus auth.authorizationId .rejected).authorizations =
        w₂.db.authorizations := (hmoves.1 _ _ _ hmove).1
    exact .of_setStatus (s := .rejected) ⟨(by rintro ⟨⟩), (by rintro ⟨⟩)⟩ hsame.symm ha hgranted

/-- **Creating a payment** consumes a grant, and grants nothing. -/
theorem createPayment_grants {b m id x : String} {key : Option String} {v : PaymentV1}
    (h : Payment.createPayment env b m id x key w = .ok v w')
    (ha : a ∈ w'.db.authorizations) (hgranted : a.Granted) : GrantedBefore w.db a := by
  obtain ⟨c, offer, -, hcases⟩ := createPayment_ok h
  have hcharge : ∀ {record : Option IdempotencyRecord} {w₁ : World},
      w₁.db.authorizations = w.db.authorizations →
      Payment.charge env c offer b m x key record w₁ = .ok v w' → GrantedBefore w.db a := by
    intro record w₁ hsame hcharge
    obtain ⟨auth, hfound, happroved, hlast⟩ := charge_consumes hcharge
    have hmem := (Table.first_eq_some hfound).1
    rw [hsame] at hmem
    refine .of_consumed hmem happroved ?_ ha hgranted
    rw [hlast, Database.setAuthorizationStatus, Database.setAuthorizationStatus]
    simp only [hsame]
  rcases hcases with ⟨-, h⟩ | ⟨k, lock, w₁, -, hlock, hcases⟩
  · exact hcharge rfl h
  have hmoves : Work.Moves (OnWorld (Database.Keeps Database.authorizations) Eq)
      (Idempotency.acquireLock env (env.clock 1) "buyer" (m ++ ":" ++ b) "POST /payments" k
        (env.requestHash id x c.totalMinor)) := acquireLock_frame
  have hsame : w.db.authorizations = w₁.db.authorizations := (hmoves.1 _ _ _ hlock).1
  rcases hcases with ⟨-, rfl⟩ | ⟨-, h⟩
  · exact .of_eq hsame.symm ha hgranted
  · exact hcharge hsame.symm h

/-- **Where an operation's grants come from**: they were there before, or the operation
requested them and policy allowed it, or it is their buyer's approval. -/
theorem grants_of_operation (env : Env) (w : World) (op : Operation)
    (ha : a ∈ (op.run env w).db.authorizations) (hgranted : a.Granted) :
    GrantedBefore w.db a ∨ AllowedByPolicy env op w.db (op.run env w).db a ∨
      ApprovedByBuyer env op w.db (op.run env w).db a := by
  have keeps : ∀ {α : Type} {m : Op α} {db : Database},
      Returns (OnWorld (Database.Keeps Database.authorizations) Anything) m →
      (request m w).db = db → a ∈ db.authorizations → GrantedBefore w.db a := by
    rintro α m _ hm rfl ha
    exact .of_eq (request_moves hm w).symm ha hgranted
  have lift : ∀ {α : Type} {m : Op α} {P : Database → Prop},
      (∀ v w', m w = .ok v w' → a ∈ w'.db.authorizations → GrantedBefore w.db a ∨ P w'.db) →
      a ∈ (request m w).db.authorizations → GrantedBefore w.db a ∨ P (request m w).db := by
    intro α m P hm
    refine request_induction (P := fun db => a ∈ db.authorizations → GrantedBefore w.db a ∨ P db)
      (fun ha => .inl ⟨a, ha, hgranted, rfl⟩) fun v w' h _ => hm v w' h
  cases op with
  | createCheckout => exact .inl (keeps (.of createCheckout_frame) rfl ha)
  | cancelCheckout => exact .inl (keeps (.of cancelCheckout_frame) rfl ha)
  | requestAuthorization b m id ttl =>
      exact (lift (P := fun db => AllowedByPolicy env (.requestAuthorization b m id ttl) w.db db a)
        (fun _ _ h ha => requestAuthorization_grants h ha hgranted) ha).imp_right .inl
  | approveAuthorization b m id =>
      exact (lift (P := fun db => ApprovedByBuyer env (.approveAuthorization b m id) w.db db a)
        (fun _ _ h ha => approveAuthorization_grants h ha hgranted) ha).imp_right .inr
  | rejectAuthorization =>
      exact .inl ((lift (P := fun _ => False)
        (fun _ _ h ha => .inl (rejectAuthorization_grants h ha hgranted)) ha).resolve_right id)
  | createPayment =>
      exact .inl ((lift (P := fun _ => False)
        (fun _ _ h ha => .inl (createPayment_grants h ha hgranted)) ha).resolve_right id)
  | verifyPayment => exact .inl (keeps (.of verifyPayment_frame) rfl ha)
  | failPayment => exact .inl (keeps (.of failPayment_frame) rfl ha)
  | refundPayment =>
      exact .inl (keeps (.of (refundPayment_frame (fun _ _ _ => rfl) fun _ _ _ _ => trivial)) rfl ha)
  | processWebhook => exact .inl (keeps (.of Webhook.processWebhook_frame) rfl ha)
  | sweepExpiredCheckouts => exact .inl (keeps (.of sweepExpiredCheckouts_frame) rfl ha)
  | pollPayment => exact .inl (keeps (.of settleReported_frame) rfl ha)
  | importInventory => exact .inl (keeps (.of importInventory_frame) rfl ha)
  | catalog => exact .inl ⟨a, ha, hgranted, rfl⟩

/-! ### The history of the system -/

/-- One operation of a run, with the stores before and after it. -/
structure Entry where
  env : Env
  op : Operation
  before : Database
  after : Database

/-- The system with the operations it went through. -/
structure Journal where
  world : World
  entries : List Entry := []

/-- The system after one more operation. -/
def Journal.run (env : Env) (op : Operation) (j : Journal) : Journal :=
  { world := op.run env j.world,
    entries := j.entries ++ [⟨env, op, j.world.db, (op.run env j.world).db⟩] }

/-- Some operation leads from `j` to `j'`. -/
def Journal.Step (j j' : Journal) : Prop := ∃ env op, j' = j.run env op

/-- The entry is where the authorization was granted. -/
def Entry.Grants (e : Entry) (a : Authorization) : Prop :=
  AllowedByPolicy e.env e.op e.before e.after a ∨ ApprovedByBuyer e.env e.op e.before e.after a

/-- An origin does not depend on what has become of the grant. -/
theorem Entry.Grants.of_status {e : Entry} {s : AuthorizationStatus}
    (h : e.Grants { a with status := s }) : e.Grants a := by
  rcases h with ⟨hrequested, hdecided, hwithin, hrecorded, hcreated⟩ |
    ⟨hasked, htimely, hundecided, happroved⟩
  · exact .inl ⟨hrequested, hdecided, ⟨hwithin.maxima, hwithin.limits, hwithin.versions⟩, hrecorded,
      hcreated⟩
  · exact .inr ⟨hasked, htimely, hundecided, happroved⟩

/-- **A person or the policy.**  In every state of every run from a store without
purchases, an authorization that is approved or consumed was created by a request that the
policy allowed, within both maxima, both limits of automatic approval and under the version
it records; or its own buyer approved it, at its own merchant, before it ran out. -/
theorem human_gate {w : World} {j : Journal} (h₀ : Unsold w.db)
    (hrun : Relation.ReflTransGen Journal.Step { world := w } j) :
    ∀ a ∈ j.world.db.authorizations, a.status = .approved ∨ a.status = .consumed →
      ∃ e ∈ j.entries, AllowedByPolicy e.env e.op e.before e.after a ∨
        ApprovedByBuyer e.env e.op e.before e.after a := by
  refine invariant_of_steps (I := fun j : Journal => ∀ a ∈ j.world.db.authorizations, a.Granted →
    ∃ e ∈ j.entries, e.Grants a) (fun j j' hj hstep a ha hgranted => ?_) (fun a ha _ => ?_) hrun
  · obtain ⟨env, op, rfl⟩ := hstep
    rcases grants_of_operation env j.world op ha hgranted with ⟨b, hb, hbefore, hsame⟩ | hnow
    · obtain ⟨e, he, horigin⟩ := hj b hb hbefore
      rw [hsame] at horigin
      exact ⟨e, List.mem_append_left _ he, horigin.of_status⟩
    · exact ⟨_, List.mem_append_right _ (List.mem_singleton.2 rfl), hnow⟩
  · obtain ⟨-, -, hauthorizations, -⟩ := h₀
    rw [Table.mem_def, hauthorizations] at ha
    exact absurd ha List.not_mem_nil

/-- The shop after a checkout was authorized, with the two operations. -/
def authorizedJournal : Journal :=
  Journal.run shopEnv (.requestAuthorization "byr" "mer" "chk" 15)
    (Journal.run shopEnv (.createCheckout "byr" "mer" "ofr" 2 15) { world := openShop })

theorem human_gate_authorized :
    authorizedJournal.world.db.authorizations.rows.map Authorization.status = [.approved] ∧
      ∀ a ∈ authorizedJournal.world.db.authorizations, a.status = .approved ∨ a.status = .consumed →
        ∃ e ∈ authorizedJournal.entries, AllowedByPolicy e.env e.op e.before e.after a ∨
          ApprovedByBuyer e.env e.op e.before e.after a := by
  have hrun : Relation.ReflTransGen Journal.Step { world := openShop } authorizedJournal :=
    (Relation.ReflTransGen.single ⟨shopEnv, _, rfl⟩).tail ⟨shopEnv, _, rfl⟩
  exact ⟨by decide, human_gate openShop_unsold hrun⟩

end AgenticCommerce
