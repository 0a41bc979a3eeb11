/-
# What taking a lock does

`acquireLock` returns in three ways: it makes a record for a key that has none, it takes
a free record over, or it replays a completed one.  The branch that catches a lost race
needs a second session, so no run of one session returns through it.
-/

import AgenticCommerce.Payments.Idempotency

namespace AgenticCommerce

open Relational Work

namespace IdempotencyRecord

/-- The record is free to be taken: its operation failed, or its deadline is past. -/
def Free (r : IdempotencyRecord) (now : Time) : Prop :=
  r.status = .failed ∨ (r.status = .inProgress ∧ r.expiresAt ≤ now)

/-- The record under a new deadline. -/
def takenOver (now : Time) (requestHash : String) (r : IdempotencyRecord) : IdempotencyRecord :=
  { r with
    status := .inProgress, requestHash := requestHash, expiresAt := now + Idempotency.lockTtl }

end IdempotencyRecord

namespace Idempotency

variable {env : Env} {w w' : World} {now : Time} {actorType actorId endpoint key hash : String}
  {lock : Lock} {r : IdempotencyRecord}

/-- The record of a key that has none yet. -/
def newRecord (env : Env) (now : Time) (actorType actorId endpoint key requestHash : String) :
    IdempotencyRecord :=
  { idempotencyRecordId := env.newId "idm", actorType, actorId, endpoint, idempotencyKey := key,
    requestHash, createdAt := now, expiresAt := now + lockTtl }

/-- The event of a replay. -/
def replayEvent (r : IdempotencyRecord) : AuditEvent :=
  { actorType := r.actorType, actorId := some r.actorId, eventType := "IDEMPOTENCY_REPLAYED",
    aggregateType := "idempotency", aggregateId := r.idempotencyRecordId,
    metadata := [("endpoint", .str r.endpoint), ("idempotency_key", .str r.idempotencyKey)] }

/-- **A record that exists** is taken over when it is free, and replayed when it is
completed; its request has the digest of the call in both cases. -/
theorem reuse_ok (h : reuse now hash r w = .ok lock w') :
    r.requestHash = hash ∧
      ((r.Free now ∧ lock = ⟨false, r, none⟩ ∧
          w' = { w with
            db := w.db.modifyRecord r.idempotencyRecordId (·.takenOver now hash) fun _ => rfl }) ∨
        (r.status = .completed ∧ lock = ⟨true, r, r.responseBody⟩ ∧
          w' = { w with db := w.db.appendAudit (replayEvent r) })) := by
  simp only [reuse, bind_eq_ok, raiseIf_eq_ok] at h
  obtain ⟨_, _, ⟨hhash, rfl⟩, h⟩ := h
  refine ⟨not_not.1 hhash, ?_⟩
  split_ifs at h with hfree
  · simp only [bind_eq_ok, update_eq_ok, flush_eq_ok, pure_eq_ok] at h
    obtain ⟨_, _, rfl, _, _, ⟨-, rfl⟩, rfl, rfl⟩ := h
    exact .inl ⟨hfree, rfl, rfl⟩
  · simp only [bind_eq_ok, raiseIf_eq_ok, appendEvent_eq_ok, pure_eq_ok] at h
    obtain ⟨_, _, ⟨hbusy, rfl⟩, _, _, rfl, rfl, rfl⟩ := h
    refine .inr ⟨?_, rfl, rfl⟩
    cases hs : r.status with
    | inProgress => exact absurd hs hbusy
    | failed => exact absurd (.inl hs) hfree
    | completed => rfl

/-- **Taking a lock** makes a record, or uses the one the key has. -/
theorem acquireLock_ok
    (h : acquireLock env now actorType actorId endpoint key hash w = .ok lock w') :
    (find actorType actorId endpoint key w.db = none ∧
        lock = ⟨false, newRecord env now actorType actorId endpoint key hash, none⟩ ∧
        ∃ t, w.db.idempotencyRecords.insert?
            (newRecord env now actorType actorId endpoint key hash) = some t ∧
          w' = { w with db := { w.db with idempotencyRecords := t } }) ∨
      ∃ r, find actorType actorId endpoint key w.db = some r ∧ reuse now hash r w = .ok lock w' := by
  simp only [acquireLock, bind_eq_ok, query_eq_ok] at h
  obtain ⟨existing, _, ⟨hfind, rfl⟩, h⟩ := h
  cases existing with
  | some r => exact .inr ⟨r, hfind, h⟩
  | none =>
      simp only [bind_eq_ok, flush_eq_ok] at h
      obtain ⟨_, _, ⟨-, rfl⟩, inserted, _, hinserted, h⟩ := h
      rcases savepoint_eq_ok.1 hinserted with ⟨u, hrun, rfl⟩ | ⟨e, u, -, rfl, rfl⟩
      · simp only [bind_eq_ok, insert_eq_ok, flush_eq_ok, Option.map_eq_some_iff] at hrun
        obtain ⟨_, _, ⟨_, ⟨t, ht, rfl⟩, rfl⟩, -, rfl⟩ := hrun
        obtain ⟨rfl, rfl⟩ := pure_eq_ok.1 h
        exact .inl ⟨hfind, rfl, t, ht, rfl⟩
      · simp only [bind_eq_ok, require_eq_ok] at h
        obtain ⟨r, _, ⟨hraced, rfl⟩, -⟩ := h
        rw [restore_db, hfind] at hraced
        cases hraced

/-- A replay comes from a completed record of the key. -/
theorem acquireLock_replay
    (h : acquireLock env now actorType actorId endpoint key hash w = .ok lock w')
    (hreplay : lock.isReplay = true) :
    find actorType actorId endpoint key w.db = some lock.record ∧ lock.record.status = .completed ∧
      lock.record.requestHash = hash ∧ lock.cachedBody = lock.record.responseBody := by
  rcases acquireLock_ok h with ⟨-, rfl, -⟩ | ⟨r, hfind, hreuse⟩
  · exact nomatch hreplay
  · obtain ⟨hhash, ⟨-, rfl, -⟩ | ⟨hcompleted, rfl, -⟩⟩ := reuse_ok hreuse
    · exact nomatch hreplay
    · exact ⟨hfind, hcompleted, hhash, rfl⟩

end Idempotency
end AgenticCommerce
