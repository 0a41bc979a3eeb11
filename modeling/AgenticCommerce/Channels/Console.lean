/-
# The channel console

`apps/api/routers/channels.py`: to connect a store, to disconnect it, to sync it and to push an
order to it, and the start of a process, as one machine.  Its state is what the database holds
and what the process does, the registry and the key; its steps record each contact with a
store.  A request that raises is rolled back, and every raise comes before the registry is
changed and before a store is contacted, so it leaves everything as it was.
-/

import AgenticCommerce.Access.Principals
import AgenticCommerce.Channels.Service
import AgenticCommerce.Relational.Machines

namespace AgenticCommerce
namespace Channels

open Relational
open Access (Principal Role)

/-- The parts of the deployment that the console does not read or write. -/
structure Platform where
  crypto : Crypto
  /-- `is_safe_public_url`. -/
  safe : String → Bool

/-- The database and the process. -/
structure World where
  db : Store
  registry : Registry
  /-- `settings.channel_key`. -/
  key : List UInt8

/-- What a connector is called for: a sync, or the push of an order and what came of it. -/
inductive Purpose where
  | sync
  | push (orderId : String) (attempt : Except Failure PushResult)

/-- A call of a connector for a connection. -/
structure Contact where
  connection : ChannelConnection
  connector : Connector
  purpose : Purpose

/-- What the console answers with. -/
inductive Answer where
  | connected (connection : ChannelConnection) (syncResult : Option ChannelSyncRun)
  | synced (run : ChannelSyncRun)
  | pushed (push : OrderPushSummary)
  | disconnected (connectionId : String)
  | restarted

/-- What a request has done. -/
structure Handled where
  world : World
  result : Except Failure Answer
  contacts : List Contact := []

/-- A request that raises. -/
def refuse (w : World) (e : Failure) : Handled := { world := w, result := .error e }

/-! ### Bodies -/

structure ConnectStoreRequest where
  merchantId : Option String := none
  platformType : String
  storeUrl : String
  accessToken : String
  label : String := ""
  syncNow : Bool := false
  merchantId_ok : ∀ m ∈ merchantId, 1 ≤ m.length ∧ m.length ≤ 64 ∧
    m.toList.all (fun c => c.isAlphanum || c == '_' || c == '-') = true
  platformType_ok : 1 ≤ platformType.length ∧ platformType.length ≤ 32
  storeUrl_ok : 1 ≤ storeUrl.length ∧ storeUrl.length ≤ 512
  accessToken_ok : 1 ≤ accessToken.length ∧ accessToken.length ≤ 512
  label_ok : label.length ≤ 200

structure SyncNowRequest where
  connectionId : String
  limit : ℤ := 100
  connectionId_ok : 1 ≤ connectionId.length ∧ connectionId.length ≤ 64
  limit_ok : 1 ≤ limit ∧ limit ≤ 250

structure PushOrderRequest where
  connectionId : String
  orderId : String
  checkout : List (String × Json) := []
  connectionId_ok : 1 ≤ connectionId.length ∧ connectionId.length ≤ 64
  orderId_ok : 1 ≤ orderId.length ∧ orderId.length ≤ 64

/-! ### Checks -/

/-- `require_roles` of a `MerchantPrincipal`. -/
def requireMerchant (principal : Principal) : Except Failure Unit :=
  if principal.role ∈ [Role.merchantAdmin, .merchantOperator, .platformAdmin] then .ok ()
  else .error (.domain { code := .forbidden, message := "This account cannot perform this action.",
                         details := [("reason", "role")] })

/-- `_target_merchant`. -/
def targetMerchant (principal : Principal) (requested : Option String) : Except Failure String :=
  match requireMerchant principal with
  | .error e => .error e
  | .ok () =>
      match principal.actingOn ((requested.filter (· != "")).getD principal.merchantId) with
      | .error e => .error e
      | .ok acted => .ok acted.merchantId

def invalid (message field : String) : Failure :=
  .domain { code := .validationError, message, details := [("field", field)] }

def noSuchConnection : Failure :=
  .domain { code := .notFound, message := "No such connection.",
            details := [("reason", "not_found")] }

/-- The caller's connection of that identifier. -/
def ownConnection (w : World) (principal : Principal) (connectionId : String) :
    Except Failure ChannelConnection :=
  match targetMerchant principal none with
  | .error e => .error e
  | .ok merchantId =>
      match getConnection w.db merchantId connectionId with
      | .error _ => .error noSuchConnection
      | .ok row => .ok row

/-- The connector for a connection: the registered one of its merchant, or one that is built
and registered. -/
def resolve (platform : Platform) (w : World) (row : ChannelConnection) :
    Except Failure (Connector × Registry) :=
  if (w.registry.get row.merchantId).merchantId = row.merchantId then
    .ok (w.registry.get row.merchantId, w.registry)
  else match decryptToken platform.crypto row w.key with
    | .error (.channelError message) | .error (.valueError message) =>
        .error (invalid message "access_token")
    | .error .integrityError => .error (.integrity "")
    | .ok token =>
        match Connector.build platform.safe row.merchantId row.platformType row.storeDomain token
          with
        | .error e => .error e
        | .ok connector => .ok (connector, w.registry.register row.merchantId connector)

/-- What a sync or a push has to find: the connection and its connector. -/
def reach (platform : Platform) (w : World) (principal : Principal) (connectionId : String) :
    Except Failure (ChannelConnection × Connector × Registry) :=
  match ownConnection w principal connectionId with
  | .error e => .error e
  | .ok row => match resolve platform w row with
    | .error e => .error e
    | .ok (connector, registry) => .ok (row, connector, registry)

/-! ### Routes -/

/-- What the store's catalog comes to when a connector fetches it: products and offers, or what
it raises. -/
abbrev Fetch := Connector → ℤ → Except Failure (ℕ × ℕ)

/-- `_run_sync`. -/
def runSync (db : Store) (row : ChannelConnection) (connector : Connector) (limit : ℤ)
    (fetch : Fetch) (syncRunId : String) (startedAt finishedAt : Time) : ChannelSyncRun × Store :=
  match fetch connector limit with
  | .ok (products, offers) =>
      recordSync db row syncRunId .success products offers none startedAt finishedAt
  | .error e => recordSync db row syncRunId .failed 0 0 (some e.text) startedAt finishedAt

/-- What a request meets apart from the state: the instants, what is drawn, and the stores. -/
structure Encounter where
  now : Time
  finishedAt : Time
  /-- The identifiers `new_id` draws, in their order for each prefix. -/
  connectionIds : List String
  syncRunId : String
  pushId : String
  nonce : List UInt8
  fetch : Fetch
  reply : HttpReply

/-- What `connect_store` saves and builds. -/
def savedStore (platform : Platform) (w : World) (principal : Principal)
    (body : ConnectStoreRequest) (x : Encounter) :
    Except Failure (ChannelConnection × Store × Connector) :=
  match targetMerchant principal body.merchantId with
  | .error e => .error e
  | .ok merchantId =>
      let platformType := String.ofList (body.platformType.toList.map Char.toLower)
      if platformType ∉ credentialedPlatforms then
        .error (invalid ("'" ++ body.platformType ++ "' is not a credentialed platform. " ++
          "Supported: " ++ ", ".intercalate credentialedPlatforms ++ ".") "platform_type")
      else match saveConnection platform.crypto w.db merchantId platformType body.storeUrl
          body.accessToken w.key body.label x.nonce x.connectionIds x.now with
        | .error (.channelError message) => .error (invalid message "platform_type")
        | .error (.valueError message) => .error (invalid message "store_url")
        | .error .integrityError => .error (.integrity "uq_channel_connection_store")
        | .ok (row, db) =>
            match Connector.build platform.safe merchantId platformType body.storeUrl
              body.accessToken with
            | .error e => .error e
            | .ok connector => .ok (row, db, connector)

/-- `connect_store`. -/
def connectStore (platform : Platform) (w : World) (principal : Principal)
    (body : ConnectStoreRequest) (x : Encounter) : Handled :=
  match savedStore platform w principal body x with
  | .error e => refuse w e
  | .ok (row, db, connector) =>
      let registry := w.registry.register row.merchantId connector
      if body.syncNow then
        let (run, db) := runSync db row connector 100 x.fetch x.syncRunId x.now x.finishedAt
        { world := { w with db, registry }
          result := .ok (.connected row (some run))
          contacts := [{ connection := row, connector, purpose := .sync }] }
      else { world := { w with db, registry }, result := .ok (.connected row none) }

/-- `sync_now`. -/
def syncNow (platform : Platform) (w : World) (principal : Principal) (body : SyncNowRequest)
    (x : Encounter) : Handled :=
  match reach platform w principal body.connectionId with
  | .error e => refuse w e
  | .ok (row, connector, registry) =>
      let (run, db) := runSync w.db row connector body.limit x.fetch x.syncRunId x.now x.finishedAt
      { world := { w with db, registry }
        result := .ok (.synced run)
        contacts := [{ connection := row, connector, purpose := .sync }] }

/-- What `push_order` records of what the connector returns or raises. -/
def recordAttempt (db : Store) (row : ChannelConnection) (orderId : String)
    (attempt : Except Failure PushResult) (x : Encounter) : OrderPushSummary × Store :=
  match attempt with
  | .error e => recordOrderPush db row orderId .failed none (some ("DomainError: " ++ e.text))
      x.pushId x.now
  | .ok result => recordOrderPush db row orderId .success (some result.orderId) none x.pushId x.now

/-- `push_order`. -/
def pushOrder (platform : Platform) (w : World) (principal : Principal) (body : PushOrderRequest)
    (x : Encounter) : Handled :=
  match reach platform w principal body.connectionId with
  | .error e => refuse w e
  | .ok (row, connector, registry) =>
      let attempt := connector.pushOrder body.orderId body.checkout x.reply
      let (push, db) := recordAttempt w.db row body.orderId attempt x
      { world := { w with db, registry }
        result := .ok (.pushed push)
        contacts := [{ connection := row, connector, purpose := .push body.orderId attempt }] }

/-- `disconnect_store`. -/
def disconnectStore (w : World) (principal : Principal) (connectionId : String) : Handled :=
  match ownConnection w principal connectionId with
  | .error e => refuse w e
  | .ok row =>
      { world := { w with db := w.db.updateConnection row.connectionId
                            (fun r => { r with status := .disabled }) fun _ => rfl }
        result := .ok (.disconnected connectionId) }

/-- The order in which a query without `ORDER BY` returns the rows. -/
structure Scan where
  order : List ChannelConnection → List ChannelConnection
  perm : ∀ rows, (order rows).Perm rows

/-- The start of a process, with the key of its settings. -/
def start (platform : Platform) (db : Store) (key : List UInt8) (scan : Scan) : World :=
  { db, key, registry := rehydrate platform.crypto platform.safe key .new
      (scan.order db.connections.rows) }

/-! ### The machine -/

/-- What can happen to the console. -/
inductive Event where
  | connect (principal : Principal) (body : ConnectStoreRequest) (x : Encounter)
  | disconnect (principal : Principal) (connectionId : String)
  | restart (key : List UInt8) (scan : Scan)
  | sync (principal : Principal) (body : SyncNowRequest) (x : Encounter)
  | push (principal : Principal) (body : PushOrderRequest) (x : Encounter)

/-- What an event does. -/
def handle (platform : Platform) (w : World) : Event → Handled
  | .connect principal body x => connectStore platform w principal body x
  | .disconnect principal connectionId => disconnectStore w principal connectionId
  | .restart key scan => { world := start platform w.db key scan, result := .ok .restarted }
  | .sync principal body x => syncNow platform w principal body x
  | .push principal body x => pushOrder platform w principal body x

def step (platform : Platform) (w : World) (e : Event) : World := (handle platform w e).world

end Channels
end AgenticCommerce
