/-
# Mutual exclusion of the idempotency lock

Any number of clients call `acquireLock`, `complete`, `failLock` and `releaseLock`, one call
at a time and under a clock that does not go back.  Beside the store, a state has the locks
that were granted and not yet settled by their client (`Hold`), which no code keeps.

A lock that ran out may be taken over, and its first client may still come back: `failLock`
and `releaseLock` go by the record and not by the client, so it opens the lock of the one
who took over.  Where nobody does (`Fair`), the lock excludes.
-/

import AgenticCommerce.Payments.Locking

namespace AgenticCommerce

open Relational Work

/-- The actor, the endpoint and the key that a record is for. -/
structure Scope where
  actorType : String
  actorId : String
  endpoint : String
  key : String
  deriving DecidableEq

/-- The scope of a record. -/
def IdempotencyRecord.scope (r : IdempotencyRecord) : Scope :=
  ⟨r.actorType, r.actorId, r.endpoint, r.idempotencyKey⟩

namespace Idempotency

/-- A call of a client. -/
inductive LockCall where
  | acquire (scope : Scope) (requestHash : String)
  | complete (recordId : String) (statusCode : ℤ) (body : ResponseBody)
  | fail (recordId errorCode : String) (statusCode : ℤ)
  | release (recordId : String)

/-- A lock that was granted to a client, and not settled by it. -/
structure Hold (Client : Type) where
  client : Client
  recordId : String
  scope : Scope
  deadline : Time

/-- The store, the last reading of the clock, and the locks that are held. -/
structure LockSystem (Client : Type) where
  world : World
  clock : Time
  holds : List (Hold Client) := []

/-- `acquire_lock` on a scope. -/
def acquire (env : Env) (now : Time) (scope : Scope) (requestHash : String) : Op Lock :=
  acquireLock env now scope.actorType scope.actorId scope.endpoint scope.key requestHash

section

variable {Client : Type} [DecidableEq Client]

/-- The client is through with a record. -/
def LockSystem.settle (s : LockSystem Client) (now : Time) (client : Client) (recordId : String)
    (m : Op Unit) : LockSystem Client :=
  { world := request m s.world, clock := now,
    holds := s.holds.filter fun h => !decide (h.client = client ∧ h.recordId = recordId) }

/-- The state after a call of a client. -/
def LockSystem.step (s : LockSystem Client) (env : Env) (now : Time) (client : Client) :
    LockCall → LockSystem Client
  | .acquire scope hash => match acquire env now scope hash s.world with
    | .ok lock w =>
        { world := w, clock := now,
          holds := if lock.isReplay then s.holds
            else ⟨client, lock.record.idempotencyRecordId, scope, now + lockTtl⟩ :: s.holds }
    | .error _ w => { s with world := s.world.restore w, clock := now }
  | .complete id code body => s.settle now client id (complete now id code body)
  | .fail id errorCode code => s.settle now client id (failLock now id errorCode code)
  | .release id => s.settle now client id (releaseLock id)

/-- The call opens nobody's lock: it fails or releases no completed record, and none that
another client holds within its deadline. -/
def LockSystem.Fair (s : LockSystem Client) (now : Time) (client : Client) : LockCall → Prop
  | .fail id _ _ | .release id =>
      (∀ r ∈ s.world.db.idempotencyRecords, r.idempotencyRecordId = id → r.status ≠ .completed) ∧
        ∀ h ∈ s.holds, h.recordId = id → h.client = client ∨ h.deadline ≤ now
  | _ => True

/-- A fair call at a later time. -/
def FairStep (s s' : LockSystem Client) : Prop :=
  ∃ env now client call, s.clock ≤ now ∧ s.Fair now client call ∧ s' = s.step env now client call

/-! ### One call -/

/-- The scope has a completed record. -/
def Completed (t : Table IdempotencyRecord) (scope : Scope) : Prop :=
  ∃ r ∈ t, r.scope = scope ∧ r.status = .completed

/-- The record of a lock that is held keeps others out: it is in progress until the
deadline of the lock, or completed. -/
def Guards (t : Table IdempotencyRecord) (h : Hold Client) : Prop :=
  ∃ r ∈ t, r.idempotencyRecordId = h.recordId ∧ r.scope = h.scope ∧
    ((r.status = .inProgress ∧ r.expiresAt = h.deadline) ∨ r.status = .completed)

/-- **The invariant**: a lock within its deadline keeps others out. -/
def LockSystem.Guarded (s : LockSystem Client) : Prop :=
  ∀ h ∈ s.holds, s.clock < h.deadline → Guards s.world.db.idempotencyRecords h

end

section

variable {env : Env} {w w' : World} {now : Time} {scope : Scope} {hash : String} {lock : Lock}
  {r : IdempotencyRecord}

theorem find_eq_some (h : find scope.actorType scope.actorId scope.endpoint scope.key w.db = some r) :
    r ∈ w.db.idempotencyRecords ∧ r.scope = scope := by
  obtain ⟨hmem, hmatch⟩ := Table.first_eq_some h
  simp only [Bool.and_eq_true, beq_iff_eq] at hmatch
  obtain ⟨⟨⟨h₁, h₂⟩, h₃⟩, h₄⟩ := hmatch
  refine ⟨hmem, ?_⟩
  rw [IdempotencyRecord.scope, h₁, h₂, h₃, h₄]

/-- The record of a scope is the one a look-up finds. -/
theorem find_of_mem (hr : r ∈ w.db.idempotencyRecords) (hscope : r.scope = scope) :
    find scope.actorType scope.actorId scope.endpoint scope.key w.db = some r := by
  subst hscope
  refine Table.first_of_mem hr (by simp [IdempotencyRecord.scope]) fun r' hr' hmatch => ?_
  simp only [Bool.and_eq_true, beq_iff_eq, IdempotencyRecord.scope] at hmatch
  obtain ⟨⟨⟨h₁, h₂⟩, h₃⟩, h₄⟩ := hmatch
  exact Table.eq_of_clash hr' hr (by simp [clashes, Keyed.clash, Keyed.key, h₁, h₂, h₃, h₄])

theorem record_unique {r r' : IdempotencyRecord} (hr : r ∈ w.db.idempotencyRecords)
    (hr' : r' ∈ w.db.idempotencyRecords) (hid : r.idempotencyRecordId = r'.idempotencyRecordId) :
    r = r' :=
  Table.eq_of_clash hr hr' (by simp [clashes, Keyed.clash, Keyed.key, hid])

/-- **What a call of `acquireLock` returns with.**  A lock is granted on a new record, or on
a free one, and a completed one is replayed. -/
theorem acquire_ok (h : acquire env now scope hash w = .ok lock w') :
    (lock.isReplay = true ∧ w'.db.idempotencyRecords = w.db.idempotencyRecords) ∨
    (lock.isReplay = false ∧ (∀ r ∈ w.db.idempotencyRecords, r.scope ≠ scope) ∧
      lock.record.scope = scope ∧ lock.record.status = .inProgress ∧
      lock.record.expiresAt = now + lockTtl ∧
      w.db.idempotencyRecords.insert? lock.record = some w'.db.idempotencyRecords) ∨
    (lock.isReplay = false ∧ lock.record ∈ w.db.idempotencyRecords ∧ lock.record.scope = scope ∧
      lock.record.Free now ∧ w'.db.idempotencyRecords = w.db.idempotencyRecords.modify
        (fun r => r.idempotencyRecordId == lock.record.idempotencyRecordId)
        (·.takenOver now hash) fun _ => rfl) := by
  rcases acquireLock_ok h with ⟨hnone, rfl, t, ht, rfl⟩ | ⟨r, hfind, hreuse⟩
  · refine .inr (.inl ⟨rfl, fun r hr hscope => ?_, rfl, rfl, rfl, ht⟩)
    rw [find_of_mem hr hscope] at hnone
    exact nomatch hnone
  · obtain ⟨hr, hscope⟩ := find_eq_some hfind
    obtain ⟨-, ⟨hfree, rfl, rfl⟩ | ⟨-, rfl, rfl⟩⟩ := reuse_ok hreuse
    · exact .inr (.inr ⟨rfl, hr, hscope, hfree, rfl⟩)
    · exact .inl ⟨rfl, rfl⟩

/-- A request with another digest is refused. -/
theorem acquire_refuses (hr : r ∈ w.db.idempotencyRecords) (hscope : r.scope = scope)
    (hhash : r.requestHash ≠ hash) : ¬acquire env now scope hash w = .ok lock w' := by
  intro h
  rcases acquireLock_ok h with ⟨hnone, -⟩ | ⟨r', hfind, hreuse⟩
  · rw [find_of_mem hr hscope] at hnone
    exact nomatch hnone
  · obtain rfl := Option.some.inj ((find_of_mem hr hscope).symm.trans hfind)
    exact hhash (reuse_ok hreuse).1

end
/-! ### What the calls do to the records -/

section

variable (w : World) (now : Time) (id errorCode : String) (code : ℤ) (body : ResponseBody)

theorem complete_records :
    (request (complete now id code body) w).db.idempotencyRecords = w.db.idempotencyRecords ∨
      (request (complete now id code body) w).db.idempotencyRecords =
        w.db.idempotencyRecords.modify (fun r => r.idempotencyRecordId == id) (fun r =>
          { r with
            status := .completed, responseStatusCode := some code, responseBody := some body,
            completedAt := some now }) fun _ => rfl := by
  refine request_induction (P := fun db => db.idempotencyRecords = w.db.idempotencyRecords ∨
    db.idempotencyRecords = _) (.inl rfl) fun u w' h _ => ?_
  simp only [complete, bind_eq_ok, update_eq_ok, flush_eq_ok] at h
  obtain ⟨_, _, rfl, -, rfl⟩ := h
  exact .inr rfl

theorem failLock_records :
    (request (failLock now id errorCode code) w).db.idempotencyRecords = w.db.idempotencyRecords ∨
      (request (failLock now id errorCode code) w).db.idempotencyRecords =
        w.db.idempotencyRecords.modify (fun r => r.idempotencyRecordId == id) (fun r =>
          { r with
            status := .failed, responseStatusCode := some code,
            responseBody := some (.error errorCode), completedAt := some now }) fun _ => rfl := by
  refine request_induction (P := fun db => db.idempotencyRecords = w.db.idempotencyRecords ∨
    db.idempotencyRecords = _) (.inl rfl) fun u w' h _ => ?_
  simp only [failLock, bind_eq_ok, update_eq_ok, flush_eq_ok] at h
  obtain ⟨_, _, rfl, -, rfl⟩ := h
  exact .inr rfl

theorem releaseLock_records :
    (request (releaseLock id) w).db.idempotencyRecords = w.db.idempotencyRecords ∨
      (request (releaseLock id) w).db.idempotencyRecords =
        w.db.idempotencyRecords.delete fun r => r.idempotencyRecordId == id := by
  refine request_induction (P := fun db => db.idempotencyRecords = w.db.idempotencyRecords ∨
    db.idempotencyRecords = _) (.inl rfl) fun u w' h _ => ?_
  simp only [releaseLock, bind_eq_ok, update_eq_ok, flush_eq_ok] at h
  obtain ⟨_, _, rfl, -, rfl⟩ := h
  exact .inr rfl

end

section

variable {Client : Type} {t : Table IdempotencyRecord} {h : Hold Client} {id : String} {scope : Scope}
  {f : IdempotencyRecord → IdempotencyRecord} {k : ∀ r, Keyed.key (f r) = Keyed.key r}

/-- A row that an update does not match stays. -/
theorem mem_modify_record {r : IdempotencyRecord} (hr : r ∈ t) (hid : r.idempotencyRecordId ≠ id) :
    r ∈ t.modify (fun r => r.idempotencyRecordId == id) f k :=
  Table.mem_modify.2 ⟨r, hr, if_neg (by simpa using hid)⟩

/-- A row that an update matches is stored updated. -/
theorem mem_modified_record {r : IdempotencyRecord} (hr : r ∈ t) (hid : r.idempotencyRecordId = id) :
    f r ∈ t.modify (fun r => r.idempotencyRecordId == id) f k :=
  Table.mem_modify_of_match hr (by simp [hid])

theorem Guards.modify (hg : Guards t h) (hid : h.recordId ≠ id) :
    Guards (t.modify (fun r => r.idempotencyRecordId == id) f k) h := by
  obtain ⟨r, hr, hrid, hrest⟩ := hg
  exact ⟨r, mem_modify_record hr (by rwa [hrid]), hrid, hrest⟩

theorem Completed.modify (hc : Completed t scope)
    (hid : ∀ r ∈ t, r.idempotencyRecordId = id → r.status ≠ .completed) :
    Completed (t.modify (fun r => r.idempotencyRecordId == id) f k) scope := by
  obtain ⟨r, hr, hscope, hs⟩ := hc
  exact ⟨r, mem_modify_record hr fun h => hid r hr h hs, hscope, hs⟩

/-- Completing a record keeps out whom it kept out. -/
theorem Guards.complete (hg : Guards t h)
    (hf : ∀ r, (f r).idempotencyRecordId = r.idempotencyRecordId ∧ (f r).scope = r.scope ∧
      (f r).status = .completed) :
    Guards (t.modify (fun r => r.idempotencyRecordId == id) f k) h := by
  by_cases hid : h.recordId = id
  · obtain ⟨r, hr, hrid, hscope, -⟩ := hg
    refine ⟨f r, mem_modified_record hr (hrid.trans hid), ?_, ?_, .inr (hf r).2.2⟩
    · rw [(hf r).1, hrid]
    · rw [(hf r).2.1, hscope]
  · exact hg.modify hid

theorem Completed.complete (hc : Completed t scope)
    (hf : ∀ r, (f r).scope = r.scope ∧ (f r).status = .completed) :
    Completed (t.modify (fun r => r.idempotencyRecordId == id) f k) scope := by
  obtain ⟨r, hr, hscope, hs⟩ := hc
  by_cases hid : r.idempotencyRecordId = id
  · exact ⟨f r, mem_modified_record hr hid, (hf r).1.trans hscope, (hf r).2⟩
  · exact ⟨r, mem_modify_record hr hid, hscope, hs⟩

theorem Guards.delete (hg : Guards t h) (hid : h.recordId ≠ id) :
    Guards (t.delete fun r => r.idempotencyRecordId == id) h := by
  obtain ⟨r, hr, hrid, hrest⟩ := hg
  exact ⟨r, Table.mem_delete.2 ⟨hr, by simp [hrid, hid]⟩, hrid, hrest⟩

theorem Completed.delete (hc : Completed t scope)
    (hid : ∀ r ∈ t, r.idempotencyRecordId = id → r.status ≠ .completed) :
    Completed (t.delete fun r => r.idempotencyRecordId == id) scope := by
  obtain ⟨r, hr, hscope, hs⟩ := hc
  refine ⟨r, Table.mem_delete.2 ⟨hr, ?_⟩, hscope, hs⟩
  simpa using fun h => hid r hr h hs

/-- A record that keeps others out is not free. -/
theorem Guards.not_free {now : Time} (hg : Guards t h) (hnow : now < h.deadline)
    {r : IdempotencyRecord} (hr : r ∈ t) (hid : r.idempotencyRecordId = h.recordId) :
    ¬r.Free now := by
  obtain ⟨r', hr', hid', -, hkeep⟩ := hg
  obtain rfl : r = r' := Table.eq_of_clash hr hr' (by
    simp [clashes, Keyed.clash, Keyed.key, hid, hid'])
  rintro (hfailed | ⟨hprogress, hexpired⟩)
  · rw [hfailed] at hkeep
    rcases hkeep with ⟨h, -⟩ | h <;> exact nomatch h
  · rcases hkeep with ⟨-, hdeadline⟩ | h
    · exact absurd hexpired (by rw [hdeadline]; exact not_le.2 hnow)
    · rw [hprogress] at h
      exact nomatch h

end

/-! ### Fair calls -/

section

variable {Client : Type} [DecidableEq Client] {s s' : LockSystem Client} {env : Env} {now : Time}
  {client : Client} {scope : Scope} {hash : String} {lock : Lock} {w : World}

omit [DecidableEq Client] in
/-- **A granted lock finds nobody within a deadline.** -/
theorem LockSystem.Guarded.exclusive (hs : s.Guarded) (hnow : s.clock ≤ now)
    (h : acquire env now scope hash s.world = .ok lock w) (hgranted : lock.isReplay = false) :
    ∀ h ∈ s.holds, h.scope = scope → h.deadline ≤ now := by
  intro hold hmem hscope
  by_contra hlive
  have hdeadline := not_le.1 hlive
  have hg := hs hold hmem (lt_of_le_of_lt hnow hdeadline)
  rcases acquire_ok h with ⟨hreplay, -⟩ | ⟨-, hnone, -⟩ | ⟨-, hr, hrscope, hfree, -⟩
  · rw [hgranted] at hreplay
    exact nomatch hreplay
  · obtain ⟨r, hr, -, hrscope, -⟩ := hg
    exact hnone r hr (hrscope.trans hscope)
  · obtain ⟨r', hr', hid', hrscope', -⟩ := hg
    have hsame : lock.record = r' := Option.some.inj
      ((find_of_mem hr hrscope).symm.trans (find_of_mem hr' (hrscope'.trans hscope)))
    exact (hs hold hmem (lt_of_le_of_lt hnow hdeadline)).not_free hdeadline hr (by rw [hsame, hid'])
      hfree

/-- A lock is not granted on a scope with a completed record. -/
theorem Completed.not_granted (hc : Completed w.db.idempotencyRecords scope) {w' : World}
    (h : acquire env now scope hash w = .ok lock w') : lock.isReplay = true := by
  obtain ⟨r, hr, hscope, hcompleted⟩ := hc
  rcases acquire_ok h with ⟨hreplay, -⟩ | ⟨-, hnone, -⟩ | ⟨-, hr', hscope', hfree, -⟩
  · exact hreplay
  · exact absurd hscope (hnone r hr)
  · obtain rfl : lock.record = r := Option.some.inj
      ((find_of_mem hr' hscope').symm.trans (find_of_mem hr hscope))
    rcases hfree with h | ⟨h, -⟩ <;> rw [hcompleted] at h <;> exact nomatch h

/-- A fair settlement keeps what is guarded, and what is completed. -/
theorem settle_keeps {id : String} {m : Op Unit} (hs : s.Guarded) (hnow : s.clock ≤ now)
    (hrecords : ∀ h ∈ s.holds, now < h.deadline → ¬(h.client = client ∧ h.recordId = id) →
      Guards s.world.db.idempotencyRecords h → Guards (request m s.world).db.idempotencyRecords h) :
    (s.settle now client id m).Guarded := by
  intro h hmem hlive
  obtain ⟨hmem, hother⟩ := List.mem_filter.1 hmem
  have hnot : ¬(h.client = client ∧ h.recordId = id) := by
    simpa only [Bool.not_eq_true', decide_eq_false_iff_not] using hother
  exact hrecords h hmem hlive hnot (hs h hmem (lt_of_le_of_lt hnow hlive))

/-- **A fair call** leaves every lock within its deadline guarded. -/
theorem guarded_step (hs : s.Guarded) (h : FairStep s s') : s'.Guarded := by
  obtain ⟨env, now, client, call, hnow, hfair, rfl⟩ := h
  cases call with
  | acquire scope hash =>
      rw [LockSystem.step]
      cases hacquire : acquire env now scope hash s.world with
      | error e w =>
          intro h hmem hlive
          exact hs h hmem (lt_of_le_of_lt hnow hlive)
      | ok lock w =>
          rcases acquire_ok hacquire with ⟨hreplay, hsame⟩ | ⟨hgranted, -, hscope, hprogress, hexpires,
            hinsert⟩ | ⟨hgranted, hr, hscope, hfree, hmodify⟩
          · intro h hmem hlive
            simp only [hreplay, if_true] at hmem
            simp only [hsame]
            exact hs h hmem (lt_of_le_of_lt hnow hlive)
          · intro h hmem hlive
            simp only [hgranted, Bool.false_eq_true, if_false] at hmem
            rcases List.mem_cons.1 hmem with rfl | hmem
            · exact ⟨lock.record, (Table.mem_insert hinsert).2 (.inr rfl), rfl, hscope,
                .inl ⟨hprogress, hexpires⟩⟩
            · obtain ⟨r, hr, hrest⟩ := hs h hmem (lt_of_le_of_lt hnow hlive)
              exact ⟨r, (Table.mem_insert hinsert).2 (.inl hr), hrest⟩
          · intro h hmem hlive
            simp only [hgranted, Bool.false_eq_true, if_false] at hmem
            simp only [hmodify]
            rcases List.mem_cons.1 hmem with rfl | hmem
            · exact ⟨lock.record.takenOver now hash, mem_modified_record hr rfl, rfl, hscope,
                .inl ⟨rfl, rfl⟩⟩
            · have hg := hs h hmem (lt_of_le_of_lt hnow hlive)
              exact hg.modify fun hid => hg.not_free hlive hr hid.symm hfree
  | complete id code body =>
      refine settle_keeps hs hnow fun h _ _ _ hg => ?_
      rcases complete_records s.world now id code body with hsame | hmodify
      · rwa [hsame]
      · rw [hmodify]
        exact hg.complete fun _ => ⟨rfl, rfl, rfl⟩
  | fail id errorCode code =>
      refine settle_keeps hs hnow fun h hmem hlive hother hg => ?_
      have hid : h.recordId ≠ id := fun hid =>
        (hfair.2 h hmem hid).elim (fun hc => hother ⟨hc, hid⟩) fun hd => absurd hlive (not_lt.2 hd)
      rcases failLock_records s.world now id errorCode code with hsame | hmodify
      · rwa [hsame]
      · rw [hmodify]
        exact hg.modify hid
  | release id =>
      refine settle_keeps hs hnow fun h hmem hlive hother hg => ?_
      have hid : h.recordId ≠ id := fun hid =>
        (hfair.2 h hmem hid).elim (fun hc => hother ⟨hc, hid⟩) fun hd => absurd hlive (not_lt.2 hd)
      rcases releaseLock_records s.world id with hsame | hdelete
      · rwa [hsame]
      · rw [hdelete]
        exact hg.delete hid

/-- **A fair call** leaves what is completed completed. -/
theorem completed_step (hc : Completed s.world.db.idempotencyRecords scope) (h : FairStep s s') :
    Completed s'.world.db.idempotencyRecords scope := by
  obtain ⟨env, now, client, call, -, hfair, rfl⟩ := h
  cases call with
  | acquire scope' hash =>
      rw [LockSystem.step]
      cases hacquire : acquire env now scope' hash s.world with
      | error e w => exact hc
      | ok lock w =>
          rcases acquire_ok hacquire with ⟨-, hsame⟩ | ⟨-, -, -, -, -, hinsert⟩ |
            ⟨-, hr, -, hfree, hmodify⟩
          · simp only [hsame]
            exact hc
          · obtain ⟨r, hr, hrest⟩ := hc
            exact ⟨r, (Table.mem_insert hinsert).2 (.inl hr), hrest⟩
          · simp only [hmodify]
            refine hc.modify fun r hr' hid hcompleted => ?_
            obtain rfl : r = lock.record := record_unique hr' hr hid
            rcases hfree with h | ⟨h, -⟩ <;> rw [hcompleted] at h <;> exact nomatch h
  | complete id code body =>
      change Completed (request (complete now id code body) s.world).db.idempotencyRecords scope
      rcases complete_records s.world now id code body with hsame | hmodify
      · rwa [hsame]
      · rw [hmodify]
        exact hc.complete fun _ => ⟨rfl, rfl⟩
  | fail id errorCode code =>
      change Completed (request (failLock now id errorCode code) s.world).db.idempotencyRecords scope
      rcases failLock_records s.world now id errorCode code with hsame | hmodify
      · rwa [hsame]
      · rw [hmodify]
        exact hc.modify hfair.1
  | release id =>
      change Completed (request (releaseLock id) s.world).db.idempotencyRecords scope
      rcases releaseLock_records s.world id with hsame | hdelete
      · rwa [hsame]
      · rw [hdelete]
        exact hc.delete hfair.1

end
/-! ### A holder that comes back late -/

/-- A call at a later time. -/
def CallStep {Client : Type} [DecidableEq Client] (s s' : LockSystem Client) : Prop :=
  ∃ env now client call, s.clock ≤ now ∧ s' = s.step env now client call

/-- The key of a payment. -/
def paymentScope : Scope := ⟨"buyer", "mer:byr", "POST /payments", "key_1"⟩

/-- Nobody holds a lock. -/
def idle : LockSystem String := { world := { db := {} }, clock := 0 }

/-- The first client takes the lock. -/
def takenOnce : LockSystem String := idle.step default 0 "first" (.acquire paymentScope "hash")

/-- The second client takes it over at its deadline. -/
def takenTwice : LockSystem String :=
  takenOnce.step default lockTtl "second" (.acquire paymentScope "hash")

/-- The first client gives up its request. -/
def failedLate : LockSystem String :=
  takenTwice.step default lockTtl "first" (.fail "idm" "PAYMENT_TIMEOUT" 504)

end Idempotency
end AgenticCommerce
