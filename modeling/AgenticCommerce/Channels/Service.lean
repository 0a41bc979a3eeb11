/-
# Channel connections

`services/connectors/channels.py`: the stored connections of the merchants' stores, the log of
the syncs, the order pushes, one for each connection and order, and `rehydrate`, which fills
the registry of a process that has just started.

A registered connector was built from a row: `Own` says from which platform, domain and token.
-/

import AgenticCommerce.Channels.Connectors
import AgenticCommerce.Channels.Secrets
import AgenticCommerce.Relational.Table
import AgenticCommerce.Schema

namespace AgenticCommerce
namespace Channels

open Relational

/-- `channel_connection.status`. -/
inductive ConnectionStatus where
  | active | disabled
  deriving DecidableEq, Repr

/-- How a sync or a push went. -/
inductive RunStatus where
  | success | failed
  deriving DecidableEq, Repr

structure ChannelConnection where
  connectionId : String
  merchantId : String
  platformType : String
  storeDomain : String
  accessTokenEncrypted : String
  label : String := ""
  status : ConnectionStatus := .active
  productCount : ℕ := 0
  offerCount : ℕ := 0
  lastSyncStatus : Option RunStatus := none
  lastSyncedAt : Option Time := none
  lastError : Option String := none
  createdAt : Time
  deriving DecidableEq

structure ChannelSyncRun where
  syncRunId : String
  connectionId : String
  merchantId : String
  status : RunStatus
  productCount : ℕ
  offerCount : ℕ
  errorMessage : Option String
  startedAt : Time
  finishedAt : Time
  deriving DecidableEq

structure ChannelOrderPush where
  pushId : String
  connectionId : String
  merchantId : String
  orderId : String
  status : RunStatus
  remoteReference : Option String
  errorMessage : Option String
  createdAt : Time
  deriving DecidableEq

instance : Keyed ChannelConnection :=
  keyedByEither ChannelConnection.connectionId fun r => (r.merchantId, r.platformType, r.storeDomain)

instance : Keyed ChannelOrderPush := keyedBy fun r => (r.connectionId, r.orderId)

/-- The tables of the channels. -/
structure Store where
  connections : Table ChannelConnection
  pushes : Table ChannelOrderPush
  runs : List ChannelSyncRun

/-- The same store with other connections. -/
def Store.withConnections (db : Store) (connections : Table ChannelConnection) : Store :=
  { db with connections }

/-- The same store with other pushes. -/
def Store.withPushes (db : Store) (pushes : Table ChannelOrderPush) : Store := { db with pushes }

@[simp] theorem Store.withConnections_connections (db : Store) (t : Table ChannelConnection) :
    (db.withConnections t).connections = t := rfl

@[simp] theorem Store.withConnections_pushes (db : Store) (t : Table ChannelConnection) :
    (db.withConnections t).pushes = db.pushes := rfl

@[simp] theorem Store.withPushes_connections (db : Store) (t : Table ChannelOrderPush) :
    (db.withPushes t).connections = db.connections := rfl

@[simp] theorem Store.withPushes_pushes (db : Store) (t : Table ChannelOrderPush) :
    (db.withPushes t).pushes = t := rfl

/-- `CREDENTIALED_PLATFORMS`, in the order of their names. -/
def credentialedPlatforms : List String := ["catalog_feed", "generic_rest", "shopify", "woocommerce"]

/-- What a service of the channels raises. -/
inductive Refusal where
  | channelError (message : String)
  | valueError (message : String)
  | integrityError
  deriving DecidableEq, Repr

/-! ### Connections -/

/-- The lookup by merchant, platform and domain. -/
def Store.ofStore? (db : Store) (merchantId platform storeDomain : String) :
    Option ChannelConnection :=
  db.connections.first fun r => decide (r.merchantId = merchantId) &&
    decide (r.platformType = platform) && decide (r.storeDomain = storeDomain)

/-- A connection that is registered again. -/
def ChannelConnection.renewed (row : ChannelConnection) (accessTokenEncrypted label : String) :
    ChannelConnection :=
  { row with accessTokenEncrypted, status := .active,
             label := if label = "" then row.label else label, lastError := none }

/-- An update of one connection outside the key. -/
def Store.updateConnection (db : Store) (connectionId : String)
    (f : ChannelConnection → ChannelConnection) (h : ∀ r, Keyed.key (f r) = Keyed.key r) : Store :=
  db.withConnections (db.connections.modify (fun r => decide (r.connectionId = connectionId)) f h)

/-- The insert of a connection, with the identifiers that are drawn for it: one that is taken
makes `save_connection` start over. -/
def insertConnection (db : Store) (row : String → ChannelConnection) :
    List String → Except Refusal (ChannelConnection × Store)
  | [] => .error .integrityError
  | draw :: draws =>
      match db.connections.insert? (row draw) with
      | some connections => .ok (row draw, db.withConnections connections)
      | none => insertConnection db row draws

/-- `save_connection`. -/
def saveConnection (crypto : Crypto) (db : Store) (merchantId platform storeDomain : String)
    (accessToken : String) (key : List UInt8) (label : String) (nonce : List UInt8)
    (draws : List String) (now : Time) : Except Refusal (ChannelConnection × Store) :=
  if platform ∉ credentialedPlatforms then
    .error (.channelError (platform ++ " does not take a stored credential"))
  else match encryptSecret crypto nonce accessToken key with
    | .error e => .error (.valueError e.text)
    | .ok envelope =>
        match db.ofStore? merchantId platform storeDomain with
        | some existing =>
            .ok (existing.renewed envelope label, db.updateConnection existing.connectionId
              (fun r => r.renewed envelope label) fun _ => rfl)
        | none =>
            insertConnection db (fun connectionId =>
              { connectionId, merchantId, platformType := platform, storeDomain,
                accessTokenEncrypted := envelope,
                label := if label = "" then platform ++ " · " ++ storeDomain else label,
                createdAt := now }) draws

/-- `get_connection`. -/
def getConnection (db : Store) (merchantId connectionId : String) :
    Except Refusal ChannelConnection :=
  match db.connections.first fun r => decide (r.connectionId = connectionId) &&
      decide (r.merchantId = merchantId) with
  | some row => .ok row
  | none => .error (.channelError "no such connection")

/-- `decrypt_token`. -/
def decryptToken (crypto : Crypto) (row : ChannelConnection) (key : List UInt8) :
    Except Refusal String :=
  match decryptSecret crypto row.accessTokenEncrypted key with
  | .ok token => .ok token
  | .error _ => .error (.channelError ("This connection's stored credential could not be " ++
      "decrypted. CHANNEL_ENCRYPTION_KEY has probably changed since it was saved; " ++
      "re-enter the store access token."))

/-! ### Syncs and pushes -/

/-- What a sync leaves on its connection. -/
def ChannelConnection.synced (row : ChannelConnection) (run : ChannelSyncRun) : ChannelConnection :=
  { row with lastSyncStatus := some run.status, lastSyncedAt := some run.finishedAt,
             lastError := run.errorMessage,
             productCount := if run.status = .success then run.productCount else row.productCount
             offerCount := if run.status = .success then run.offerCount else row.offerCount }

/-- `record_sync`. -/
def recordSync (db : Store) (connection : ChannelConnection) (syncRunId : String)
    (status : RunStatus) (productCount offerCount : ℕ) (errorMessage : Option String)
    (startedAt finishedAt : Time) : ChannelSyncRun × Store :=
  let run : ChannelSyncRun :=
    { syncRunId, connectionId := connection.connectionId, merchantId := connection.merchantId,
      status, productCount, offerCount, errorMessage, startedAt, finishedAt }
  (run, { db.updateConnection connection.connectionId (fun r => r.synced run) (fun _ => rfl) with
          runs := db.runs ++ [run] })

/-- The status of an `OrderPushSummary`: that of the row, or `duplicate`. -/
inductive SummaryStatus where
  | recorded (status : RunStatus)
  | duplicate
  deriving DecidableEq, Repr

structure OrderPushSummary where
  pushId : String
  orderId : String
  status : SummaryStatus
  remoteReference : Option String
  errorMessage : Option String
  createdAt : Time
  deriving DecidableEq

/-- The push of an order to a connection. -/
def Store.pushOf? (db : Store) (connectionId orderId : String) : Option ChannelOrderPush :=
  db.pushes.first fun r => decide (r.connectionId = connectionId) && decide (r.orderId = orderId)

/-- A push that is tried again. -/
def ChannelOrderPush.retried (row : ChannelOrderPush) (status : RunStatus)
    (remoteReference errorMessage : Option String) (now : Time) : ChannelOrderPush :=
  { row with status, remoteReference, errorMessage, createdAt := now }

/-- The update of the push that is tried again. -/
def Store.retryPush (db : Store) (connectionId orderId : String) (status : RunStatus)
    (remoteReference errorMessage : Option String) (now : Time) : Store :=
  db.withPushes (db.pushes.modify
    (fun r => decide (r.connectionId = connectionId) && decide (r.orderId = orderId))
    (fun r => r.retried status remoteReference errorMessage now) fun _ => rfl)

/-- The insert of a push of whose pair there is no row, which does not clash. -/
def Store.addPush (db : Store) (push : ChannelOrderPush) : Store :=
  db.withPushes ((db.pushes.insert? push).getD db.pushes)

@[simp] theorem Store.retryPush_connections (db : Store) (c o : String) (status : RunStatus)
    (remoteReference errorMessage : Option String) (now : Time) :
    (db.retryPush c o status remoteReference errorMessage now).connections = db.connections := rfl

@[simp] theorem Store.addPush_connections (db : Store) (push : ChannelOrderPush) :
    (db.addPush push).connections = db.connections := rfl

theorem Store.pushOf?_retryPush (db : Store) (c o c' o' : String) (status : RunStatus)
    (remoteReference errorMessage : Option String) (now : Time) :
    (db.retryPush c o status remoteReference errorMessage now).pushOf? c' o' =
      (db.pushOf? c' o').map fun r => if c' = c ∧ o' = o then
        r.retried status remoteReference errorMessage now else r := by
  refine (Table.first_modify db.pushes _ (fun r =>
    r.retried status remoteReference errorMessage now) (fun _ => rfl) fun _ => rfl).trans ?_
  unfold Store.pushOf?
  refine Option.map_congr fun r hr => ?_
  have hmatch := (Table.first_eq_some hr).2
  simp only [Bool.and_eq_true, decide_eq_true_eq] at hmatch
  simp only [Bool.and_eq_true, decide_eq_true_eq, hmatch.1, hmatch.2]

theorem Store.pushOf?_addPush {db : Store} {push : ChannelOrderPush}
    (h : db.pushOf? push.connectionId push.orderId = none) (c o : String) :
    (db.addPush push).pushOf? c o =
      if c = push.connectionId ∧ o = push.orderId then some push else db.pushOf? c o := by
  cases ht : db.pushes.insert? push with
  | none =>
      obtain ⟨r, hr, hclash⟩ := Table.insert?_eq_none.1 ht
      have hno := Table.first_eq_none.1 h r hr
      simp only [clashes, Keyed.clash, Keyed.key, decide_eq_true_eq, Prod.mk.injEq] at hclash
      rw [hclash.1, hclash.2] at hno
      simp at hno
  | some t =>
      have hfirst := Table.first_insert ht fun r => decide (r.connectionId = c) &&
        decide (r.orderId = o)
      unfold Store.addPush
      rw [ht, Option.getD_some]
      refine hfirst.trans ?_
      simp only [Bool.and_eq_true, decide_eq_true_eq]
      by_cases hpair : c = push.connectionId ∧ o = push.orderId
      · obtain ⟨rfl, rfl⟩ := hpair
        have hnone : db.pushes.first (fun r => decide (r.connectionId = push.connectionId) &&
          decide (r.orderId = push.orderId)) = none := h
        rw [hnone, if_pos ⟨rfl, rfl⟩, if_pos ⟨rfl, rfl⟩, Option.none_or]
      · rw [if_neg hpair, if_neg fun hp => hpair ⟨hp.1.symm, hp.2.symm⟩, Option.or_none]
        rfl

def ChannelOrderPush.summary (row : ChannelOrderPush) : OrderPushSummary :=
  { pushId := row.pushId, orderId := row.orderId, status := .recorded row.status,
    remoteReference := row.remoteReference, errorMessage := row.errorMessage,
    createdAt := row.createdAt }

/-- `record_order_push`. -/
def recordOrderPush (db : Store) (connection : ChannelConnection) (orderId : String)
    (status : RunStatus) (remoteReference errorMessage : Option String) (pushId : String)
    (now : Time) : OrderPushSummary × Store :=
  match db.pushOf? connection.connectionId orderId with
  | some existing =>
      if existing.status = .success then
        ({ existing.summary with
           status := .duplicate
           errorMessage := some ("This order was already pushed to the store successfully; " ++
             "not sending it again.") }, db)
      else
        ((existing.retried status remoteReference errorMessage now).summary,
          db.retryPush connection.connectionId orderId status remoteReference errorMessage now)
  | none =>
      let push : ChannelOrderPush :=
        { pushId, connectionId := connection.connectionId, merchantId := connection.merchantId,
          orderId, status, remoteReference, errorMessage, createdAt := now }
      (push.summary, db.addPush push)

/-! ### Starting a process -/

/-- `_connector_for`. -/
def connectorFor (safe : String → Bool) (row : ChannelConnection) (token : String) :
    Except Failure (Option Connector) :=
  match Connector.construct safe row.merchantId row.platformType row.storeDomain token with
  | some (.ok connector) => .ok (some connector)
  | some (.error e) => .error e
  | none => .ok none

/-- The loop of `rehydrate`, over the rows in the order the query returns them.  A connector that
cannot be built ends it; what is registered by then stays. -/
def rehydrate (crypto : Crypto) (safe : String → Bool) (key : List UInt8) :
    Registry → List ChannelConnection → Registry
  | registry, [] => registry
  | registry, row :: rows =>
      if row.status ≠ .active then rehydrate crypto safe key registry rows
      else match decryptToken crypto row key with
        | .error _ => rehydrate crypto safe key registry rows
        | .ok token => match connectorFor safe row token with
          | .error _ => registry
          | .ok none => rehydrate crypto safe key registry rows
          | .ok (some connector) =>
              rehydrate crypto safe key (registry.register row.merchantId connector) rows

/-! ### A row's own connector -/

/-- The connector is built from the row's own merchant, platform, domain and token. -/
def Own (crypto : Crypto) (safe : String → Bool) (key : List UInt8) (row : ChannelConnection)
    (connector : Connector) : Prop :=
  ∃ token, decryptSecret crypto row.accessTokenEncrypted key = .ok token ∧
    Connector.construct safe row.merchantId row.platformType row.storeDomain token =
      some (.ok connector)

end Channels
end AgenticCommerce
