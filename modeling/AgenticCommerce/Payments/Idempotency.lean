/-
# The idempotency layer

`services/payments/idempotency.py`: one record per actor, endpoint and key.  A
record that is free to be taken (`failed`, or `in_progress` past its deadline) is
taken again, one in progress refuses, a completed one replays its response, and a
key whose request differs is refused.
-/

import AgenticCommerce.Audit

namespace AgenticCommerce

open Relational

/-- The record with that identifier, updated. -/
def Database.modifyRecord (db : Database) (recordId : String)
    (f : IdempotencyRecord → IdempotencyRecord) (h : ∀ r, Keyed.key (f r) = Keyed.key r) :
    Database :=
  { db with
    idempotencyRecords :=
      db.idempotencyRecords.modify (fun r => r.idempotencyRecordId == recordId) f h }

namespace Idempotency

/-- What `acquire_lock` returns: whether this is a replay, the record, and the
response it holds. -/
structure Lock where
  isReplay : Bool
  record : IdempotencyRecord
  cachedBody : Option ResponseBody

/-- `timedelta(seconds=lock_ttl_seconds)`, of the default. -/
def lockTtl : ℤ := 300 * 1000000

/-- The record of an actor's key at an endpoint. -/
def find (actorType actorId endpoint key : String) (db : Database) : Option IdempotencyRecord :=
  db.idempotencyRecords.first fun r =>
    r.actorType == actorType && r.actorId == actorId && r.endpoint == endpoint &&
      r.idempotencyKey == key

/-- The lock of a record that exists already. -/
def reuse (now : Time) (requestHash : String) (existing : IdempotencyRecord) : Op Lock := do
  raiseIf (existing.requestHash ≠ requestHash)
    (.raised "This idempotency key was previously used with a different request payload."
      .idempotencyKeyReusedWithDifferentRequest)
  if existing.status = .failed ∨ (existing.status = .inProgress ∧ existing.expiresAt ≤ now) then
    update fun db => db.modifyRecord existing.idempotencyRecordId
      (fun r => { r with
        status := .inProgress, requestHash := requestHash, expiresAt := now + lockTtl })
      fun _ => rfl
    flush
    pure { isReplay := false, record := existing, cachedBody := none }
  else
    raiseIf (existing.status = .inProgress)
      (.raised "A request with this idempotency key is already in progress." .requestInProgress)
    appendEvent
      { actorType := existing.actorType, actorId := some existing.actorId,
        eventType := "IDEMPOTENCY_REPLAYED", aggregateType := "idempotency",
        aggregateId := existing.idempotencyRecordId,
        metadata := [("endpoint", .str existing.endpoint),
          ("idempotency_key", .str existing.idempotencyKey)] }
    pure { isReplay := true, record := existing, cachedBody := existing.responseBody }

/-- `acquire_lock`. -/
def acquireLock (env : Env) (now : Time) (actorType actorId endpoint key requestHash : String) :
    Op Lock := do
  let existing ← query (find actorType actorId endpoint key)
  match existing with
  | some existing => reuse now requestHash existing
  | none => do
      let record : IdempotencyRecord :=
        { idempotencyRecordId := env.newId "idm", actorType, actorId, endpoint,
          idempotencyKey := key, requestHash, createdAt := now, expiresAt := now + lockTtl }
      flush
      let inserted ← nested (do
        insert fun db => (db.idempotencyRecords.insert? record).map fun idempotencyRecords =>
          { db with idempotencyRecords }
        flush)
      match inserted with
      | .ok _ => pure { isReplay := false, record, cachedBody := none }
      | .error _ => do
          let raced ← require (find actorType actorId endpoint key)
            (.exception "duplicate key value violates unique constraint")
          reuse now requestHash raced

/-- `complete`. -/
def complete (now : Time) (recordId : String) (statusCode : ℤ) (body : ResponseBody) :
    Op Unit := do
  update fun db => db.modifyRecord recordId
    (fun r => { r with
      status := .completed, responseStatusCode := some statusCode, responseBody := some body,
      completedAt := some now }) fun _ => rfl
  flush

/-- `fail_lock`. -/
def failLock (now : Time) (recordId : String) (errorCode : String) (statusCode : ℤ) :
    Op Unit := do
  update fun db => db.modifyRecord recordId
    (fun r => { r with
      status := .failed, responseStatusCode := some statusCode,
      responseBody := some (.error errorCode), completedAt := some now }) fun _ => rfl
  flush

/-- `release_lock`. -/
def releaseLock (recordId : String) : Op Unit := do
  update fun db =>
    { db with
      idempotencyRecords :=
        db.idempotencyRecords.delete fun r => r.idempotencyRecordId == recordId }
  flush

end Idempotency
end AgenticCommerce
