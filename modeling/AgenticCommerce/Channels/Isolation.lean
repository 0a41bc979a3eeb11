/-
# Whose connector a connection uses

The registry holds one connector for each merchant.  Each is the own connector of some row of
that merchant, with the token the row holds (`Sound`): to connect a store replaces both, and
a restart rebuilds the registry from the rows.  A merchant may have several rows, though, and a
row may be disabled, and a sync or a push asks for neither: it takes what is registered.

So a contact is with the connection's own store, under its own token and while it is active,
exactly if the connection is active and what is registered for its merchant is of its platform
and domain (`contacts_isolated_iff`).
-/

import AgenticCommerce.Channels.Console

namespace AgenticCommerce
namespace Channels

open Relational
open Access (Principal Role)

/-- The contact is with the connection's own store, and the connection is not disabled. -/
def Contact.Isolated (platform : Platform) (key : List UInt8) (x : Contact) : Prop :=
  Own platform.crypto platform.safe key x.connection x.connector ∧ x.connection.status = .active

/-- The connector is of the row's platform and domain; a feed has no domain, it is of the row's
feed. -/
def Connector.Serves (crypto : Crypto) (key : List UInt8) (row : ChannelConnection) :
    Connector → Prop
  | .shopifyWoo _ flavor storeDomain _ =>
      flavor = row.platformType ∧ storeDomain = row.storeDomain
  | .genericRest _ baseUrl _ =>
      "generic_rest" = row.platformType ∧ baseUrl = row.storeDomain
  | .catalogFeed _ feedContent =>
      "catalog_feed" = row.platformType ∧
        decryptSecret crypto row.accessTokenEncrypted key = .ok feedContent
  | .internalSeed _ => False

/-- A sync or a push of the connection that reaches a connector finds it active, and what is
registered for its merchant, if it is of the merchant, serves it. -/
def Undisturbed (platform : Platform) (w : World) (principal : Principal) (connectionId : String) :
    Prop :=
  ∀ row connector registry, reach platform w principal connectionId =
      .ok (row, connector, registry) →
    row.status = .active ∧ ((w.registry.get row.merchantId).merchantId = row.merchantId →
      (w.registry.get row.merchantId).Serves platform.crypto w.key row)

/-- What is asked of an event. -/
def Event.Undisturbed (platform : Platform) (w : World) : Event → Prop
  | .sync principal body _ => Channels.Undisturbed platform w principal body.connectionId
  | .push principal body _ => Channels.Undisturbed platform w principal body.connectionId
  | _ => True

/-! ### Own connectors -/

section

variable {crypto : Crypto} {safe : String → Bool} {key : List UInt8} {row : ChannelConnection}
  {c : Connector}

/-- What the constructors return. -/
theorem construct_eq_ok {merchantId platform storeUrl token : String}
    (h : Connector.construct safe merchantId platform storeUrl token = some (.ok c)) :
    ((platform = "shopify" ∨ platform = "woocommerce") ∧
        c = .shopifyWoo merchantId platform storeUrl token) ∨
      (platform = "generic_rest" ∧ c = .genericRest merchantId storeUrl token) ∨
      (platform = "catalog_feed" ∧ c = .catalogFeed merchantId token) := by
  have shopifyWoo : ∀ {flavor}, Connector.ofShopifyWoo safe merchantId flavor storeUrl token = .ok c →
      c = .shopifyWoo merchantId flavor storeUrl token := by
    intro flavor h
    unfold Connector.ofShopifyWoo at h
    dsimp only at h
    split_ifs at h <;> exact (Except.ok.inj h).symm
  unfold Connector.construct at h
  split_ifs at h with h₁ h₂ h₃ h₄
  · exact .inl ⟨.inl h₁, by rw [shopifyWoo (Option.some.inj h), h₁]⟩
  · exact .inl ⟨.inr h₂, by rw [shopifyWoo (Option.some.inj h), h₂]⟩
  · refine .inr (.inl ⟨h₃, ?_⟩)
    have h := Option.some.inj h
    unfold Connector.ofGenericRest at h
    split_ifs at h
    exact (Except.ok.inj h).symm
  · exact .inr (.inr ⟨h₄, (Except.ok.inj (Option.some.inj h)).symm⟩)

theorem Own.merchantId (h : Own crypto safe key row c) : c.merchantId = row.merchantId := by
  obtain ⟨token, -, hc⟩ := h
  rcases construct_eq_ok hc with ⟨-, rfl⟩ | ⟨-, rfl⟩ | ⟨-, rfl⟩ <;> rfl

/-- The own connector serves. -/
theorem Own.serves (h : Own crypto safe key row c) : c.Serves crypto key row := by
  obtain ⟨token, htoken, hc⟩ := h
  rcases construct_eq_ok hc with ⟨-, rfl⟩ | ⟨hp, rfl⟩ | ⟨hp, rfl⟩
  · exact ⟨rfl, rfl⟩
  · exact ⟨hp.symm, rfl⟩
  · exact ⟨hp.symm, htoken⟩

/-- **What serves a row and is the own connector of a row of that merchant is its own.** -/
theorem Own.of_serves {t : Table ChannelConnection} {row' : ChannelConnection}
    (hown : Own crypto safe key row' c) (hmem : row ∈ t) (hmem' : row' ∈ t)
    (hmerchant : row'.merchantId = row.merchantId) (hserves : c.Serves crypto key row) :
    Own crypto safe key row c := by
  have same : row'.platformType = row.platformType → row'.storeDomain = row.storeDomain →
      row' = row := fun hp hd => Table.eq_of_clash hmem' hmem (by
    simp [clashes, Keyed.clash, Keyed.key, hmerchant, hp, hd])
  obtain ⟨token, htoken, hc⟩ := hown
  rcases construct_eq_ok hc with ⟨-, rfl⟩ | ⟨hp, rfl⟩ | ⟨hp, rfl⟩
  · rw [← same hserves.1 hserves.2]
    exact ⟨token, htoken, hc⟩
  · rw [← same (hp.trans hserves.1) hserves.2]
    exact ⟨token, htoken, hc⟩
  · refine ⟨token, hserves.2, ?_⟩
    rw [← hserves.1, ← hmerchant]
    rfl

end

/-! ### What is registered -/

/-- Every registered connector is the demo store's, or the own connector of a row of the
merchant it is registered for. -/
def Sound (platform : Platform) (connections : Table ChannelConnection) (registry : Registry)
    (key : List UInt8) : Prop :=
  ∀ m c, registry.connectors m = some c → c = Registry.defaultSeed ∨
    ∃ row ∈ connections, row.merchantId = m ∧ Own platform.crypto platform.safe key row c

section

variable {platform : Platform} {t u : Table ChannelConnection} {registry : Registry}
  {key : List UInt8} {row : ChannelConnection} {c : Connector}

/-- What `get` returns. -/
theorem Sound.get (h : Sound platform t registry key) (m : String) :
    registry.get m = Registry.defaultSeed ∨
      ∃ row ∈ t, row.merchantId = (registry.get m).merchantId ∧
        Own platform.crypto platform.safe key row (registry.get m) := by
  have known : ∀ m c, registry.connectors m = some c → c = Registry.defaultSeed ∨
      ∃ row ∈ t, row.merchantId = c.merchantId ∧ Own platform.crypto platform.safe key row c := by
    intro m c hc
    rcases h m c hc with hseed | ⟨row, hmem, -, hown⟩
    · exact .inl hseed
    · exact .inr ⟨row, hmem, hown.merchantId.symm, hown⟩
  have default : (registry.connectors "default").getD Registry.defaultSeed = Registry.defaultSeed ∨
      ∃ row ∈ t, row.merchantId =
          ((registry.connectors "default").getD Registry.defaultSeed).merchantId ∧
        Own platform.crypto platform.safe key row
          ((registry.connectors "default").getD Registry.defaultSeed) := by
    cases hd : registry.connectors "default" with
    | none => exact .inl rfl
    | some c => exact known "default" c hd
  unfold Registry.get
  cases hm : registry.connectors m with
  | none => exact default
  | some c =>
      dsimp only
      split_ifs
      · exact default
      · exact known m c hm

theorem Sound.register (h : Sound platform t registry key) (hmem : row ∈ t)
    (hown : Own platform.crypto platform.safe key row c) :
    Sound platform t (registry.register row.merchantId c) key := by
  intro m d hd
  unfold Registry.register at hd
  dsimp only at hd
  split_ifs at hd with hm
  · obtain rfl := Option.some.inj hd
    exact .inr ⟨row, hmem, hm.symm, hown⟩
  · exact h m d hd

/-- A registry stays sound while the rows of its connectors keep what the connectors were
built from. -/
theorem Sound.of_rows (h : Sound platform t registry key)
    (hrows : ∀ row ∈ t, ∃ row' ∈ u, row'.merchantId = row.merchantId ∧
      ∀ c, Own platform.crypto platform.safe key row c →
        Own platform.crypto platform.safe key row' c) : Sound platform u registry key := by
  intro m c hc
  rcases h m c hc with hseed | ⟨row, hmem, hm, hown⟩
  · exact .inl hseed
  · obtain ⟨row', hmem', hm', hown'⟩ := hrows row hmem
    exact .inr ⟨row', hmem', hm'.trans hm, hown' c hown⟩

/-- An update of columns that no connector is built from. -/
theorem Sound.updateConnection {db : Store} {connectionId : String}
    {f : ChannelConnection → ChannelConnection} {hf : ∀ r, Keyed.key (f r) = Keyed.key r}
    (h : Sound platform db.connections registry key)
    (htoken : ∀ r, (f r).accessTokenEncrypted = r.accessTokenEncrypted) :
    Sound platform (db.updateConnection connectionId f hf).connections registry key := by
  refine h.of_rows fun row hmem => ⟨_, Table.mem_modify_of_mem (h := hf) hmem, ?_⟩
  have hkey : ∀ r, (f r).merchantId = r.merchantId ∧ (f r).platformType = r.platformType ∧
      (f r).storeDomain = r.storeDomain := fun r => by
    have hcolumns : ((f r).connectionId, (f r).merchantId, (f r).platformType, (f r).storeDomain) =
        (r.connectionId, r.merchantId, r.platformType, r.storeDomain) := hf r
    simp only [Prod.mk.injEq] at hcolumns
    exact hcolumns.2
  split_ifs
  · refine ⟨(hkey row).1, fun c ⟨token, hdecrypts, hc⟩ => ⟨token, ?_, ?_⟩⟩
    · rw [htoken]
      exact hdecrypts
    · rw [(hkey row).1, (hkey row).2.1, (hkey row).2.2]
      exact hc
  · exact ⟨rfl, fun _ hc => hc⟩

theorem Sound.new : Sound platform t .new key := by
  intro m c hc
  unfold Registry.new at hc
  dsimp only at hc
  split_ifs at hc
  exact .inl (Option.some.inj hc).symm

/-- **A process that starts is sound**, whatever the rows. -/
theorem Sound.rehydrate {rows : List ChannelConnection} (h : Sound platform t registry key)
    (hrows : ∀ row ∈ rows, row ∈ t) :
    Sound platform t (rehydrate platform.crypto platform.safe key registry rows) key := by
  induction rows generalizing registry with
  | nil => exact h
  | cons row rows ih =>
      have hrest := fun r hr => hrows r (List.mem_cons_of_mem _ hr)
      unfold Channels.rehydrate
      split_ifs with hstatus
      · exact ih h hrest
      · cases htoken : decryptToken platform.crypto row key with
        | error e => exact ih h hrest
        | ok token =>
            dsimp only
            cases hc : connectorFor platform.safe row token with
            | error e => exact h
            | ok built =>
                cases built with
                | none => exact ih h hrest
                | some c =>
                    refine ih (h.register (hrows row (List.mem_cons_self ..)) ⟨token, ?_, ?_⟩)
                      hrest
                    · unfold decryptToken at htoken
                      split at htoken
                      · next token' hdecrypts =>
                          obtain rfl := Except.ok.inj htoken
                          exact hdecrypts
                      · exact nomatch htoken
                    · unfold connectorFor at hc
                      split at hc
                      · next c' hbuilt =>
                          obtain rfl := Option.some.inj (Except.ok.inj hc)
                          exact hbuilt
                      · exact nomatch hc
                      · exact nomatch hc

end

/-! ### Saving a connection -/

section

variable {platform : Platform} {crypto : Crypto} {db db' : Store} {row : ChannelConnection}
  {key nonce : List UInt8} {draws : List String} {now : Time}
  {merchantId platformType storeDomain accessToken label : String}

theorem insertConnection_eq_ok {f : String → ChannelConnection}
    (h : insertConnection db f draws = .ok (row, db')) :
    ∃ draw t, row = f draw ∧ db.connections.insert? row = some t ∧
      db' = db.withConnections t := by
  induction draws with
  | nil => exact nomatch h
  | cons draw draws ih =>
      unfold insertConnection at h
      split at h
      · next t ht =>
          obtain ⟨rfl, rfl⟩ := Prod.mk.inj (Except.ok.inj h)
          exact ⟨draw, t, rfl, ht, rfl⟩
      · exact ih h

/-- **What is saved** is an active row of the merchant, the platform and the domain that holds
the token; the rows of other merchants and the pushes stay. -/
theorem saveConnection_eq_ok (h : saveConnection crypto db merchantId platformType storeDomain
    accessToken key label nonce draws now = .ok (row, db')) :
    (row.merchantId = merchantId ∧ row.platformType = platformType ∧
        row.storeDomain = storeDomain ∧ row.status = .active ∧
        decryptSecret crypto row.accessTokenEncrypted key = .ok accessToken) ∧
      row ∈ db'.connections ∧
      (∀ r ∈ db.connections, r.merchantId ≠ merchantId → r ∈ db'.connections) ∧
      db'.pushes = db.pushes := by
  unfold saveConnection at h
  by_cases hcredentialed : platformType ∉ credentialedPlatforms
  · rw [if_pos hcredentialed] at h
    exact nomatch h
  rw [if_neg hcredentialed] at h
  cases henvelope : encryptSecret crypto nonce accessToken key with
  | error e =>
      rw [henvelope] at h
      exact nomatch h
  | ok envelope =>
      have htoken := decryptSecret_encryptSecret henvelope
      rw [henvelope] at h
      dsimp only at h
      cases hfound : db.ofStore? merchantId platformType storeDomain with
      | some existing =>
          rw [hfound] at h
          obtain ⟨rfl, rfl⟩ := Prod.mk.inj (Except.ok.inj h)
          obtain ⟨hmem, hmatch⟩ := Table.first_eq_some hfound
          simp only [Bool.and_eq_true, decide_eq_true_eq] at hmatch
          obtain ⟨⟨hm, hp⟩, hd⟩ := hmatch
          refine ⟨⟨hm, hp, hd, rfl, htoken⟩, ?_, fun r hr hother => ?_, rfl⟩
          · exact Table.mem_modify_of_match (p := fun r =>
              decide (r.connectionId = existing.connectionId))
              (f := fun r => r.renewed envelope label) (h := fun _ => rfl) hmem
              (decide_eq_true rfl)
          · have hne : ¬r.connectionId = existing.connectionId := fun he => hother (by
              rw [Table.eq_of_clash hr hmem (by simp [clashes, Keyed.clash, Keyed.key, he]), hm])
            have hkept := Table.mem_modify_of_mem (p := fun r =>
              decide (r.connectionId = existing.connectionId))
              (f := fun r => r.renewed envelope label) (h := fun _ => rfl) hr
            rwa [if_neg (by simpa using hne)] at hkept
      | none =>
          rw [hfound] at h
          obtain ⟨draw, t, rfl, ht, rfl⟩ := insertConnection_eq_ok h
          refine ⟨⟨rfl, rfl, rfl, rfl, htoken⟩, ?_, fun r hr _ => ?_, rfl⟩
          · exact (Table.mem_insert ht).2 (.inr rfl)
          · exact (Table.mem_insert ht).2 (.inl hr)

end

/-! ### Reaching a connector -/

section

variable {platform : Platform} {w : World} {principal : Principal} {connectionId : String}
  {row : ChannelConnection} {connector : Connector} {registry : Registry}

theorem build_eq_ok {safe : String → Bool} {merchantId platformType storeUrl token : String}
    (h : Connector.build safe merchantId platformType storeUrl token = .ok connector) :
    Connector.construct safe merchantId platformType storeUrl token = some (.ok connector) := by
  unfold Connector.build at h
  cases hbuilt : Connector.construct safe merchantId platformType storeUrl token with
  | none =>
      rw [hbuilt] at h
      exact nomatch h
  | some built =>
      rw [hbuilt, Option.getD_some] at h
      rw [h]

theorem ownConnection_mem (h : ownConnection w principal connectionId = .ok row) :
    row ∈ w.db.connections ∧ row.connectionId = connectionId := by
  unfold ownConnection at h
  cases hm : targetMerchant principal none with
  | error e =>
      rw [hm] at h
      exact nomatch h
  | ok merchantId =>
      rw [hm] at h
      dsimp only at h
      cases hc : getConnection w.db merchantId connectionId with
      | error e =>
          rw [hc] at h
          exact nomatch h
      | ok found =>
          rw [hc] at h
          obtain rfl := Except.ok.inj h
          unfold getConnection at hc
          split at hc
          · next r hfirst =>
              obtain rfl := Except.ok.inj hc
              obtain ⟨hmem, hmatch⟩ := Table.first_eq_some hfirst
              simp only [Bool.and_eq_true, decide_eq_true_eq] at hmatch
              exact ⟨hmem, hmatch.1⟩
          · exact nomatch hc

/-- **The connector that is reached** is what is registered for the merchant, if that is of the
merchant, and otherwise the row's own, which is registered from then on. -/
theorem reach_eq_ok (h : reach platform w principal connectionId =
    .ok (row, connector, registry)) :
    (row ∈ w.db.connections ∧ row.connectionId = connectionId) ∧
      (((w.registry.get row.merchantId).merchantId = row.merchantId ∧
          connector = w.registry.get row.merchantId ∧ registry = w.registry) ∨
        ((w.registry.get row.merchantId).merchantId ≠ row.merchantId ∧
          Own platform.crypto platform.safe w.key row connector ∧
          registry = w.registry.register row.merchantId connector)) := by
  unfold reach at h
  cases hown : ownConnection w principal connectionId with
  | error e =>
      rw [hown] at h
      exact nomatch h
  | ok found =>
      rw [hown] at h
      dsimp only at h
      cases hc : resolve platform w found with
      | error e =>
          rw [hc] at h
          exact nomatch h
      | ok resolved =>
          obtain ⟨connector', registry'⟩ := resolved
          rw [hc] at h
          obtain ⟨rfl, hpair⟩ := Prod.mk.inj (Except.ok.inj h)
          obtain ⟨rfl, rfl⟩ := Prod.mk.inj hpair
          refine ⟨ownConnection_mem hown, ?_⟩
          unfold resolve at hc
          split_ifs at hc with hregistered
          · obtain ⟨rfl, rfl⟩ := Prod.mk.inj (Except.ok.inj hc)
            exact .inl ⟨hregistered, rfl, rfl⟩
          · refine .inr ⟨hregistered, ?_⟩
            unfold decryptToken at hc
            cases htoken : decryptSecret platform.crypto found.accessTokenEncrypted w.key with
            | error e =>
                rw [htoken] at hc
                exact nomatch hc
            | ok token =>
                rw [htoken] at hc
                dsimp only at hc
                cases hbuilt : Connector.build platform.safe found.merchantId
                    found.platformType found.storeDomain token with
                | error e =>
                    rw [hbuilt] at hc
                    exact nomatch hc
                | ok c =>
                    rw [hbuilt] at hc
                    obtain ⟨rfl, rfl⟩ := Prod.mk.inj (Except.ok.inj hc)
                    exact ⟨⟨token, htoken, build_eq_ok hbuilt⟩, rfl⟩

end

/-! ### One event -/

section

variable {platform : Platform} {w : World} {principal : Principal} {row : ChannelConnection}
  {connector : Connector} {x : Encounter}

theorem Sound.recordSync {db : Store} {registry : Registry} {key : List UInt8} {id : String}
    {status : RunStatus} {productCount offerCount : ℕ} {errorMessage : Option String}
    {startedAt finishedAt : Time} (h : Sound platform db.connections registry key) :
    Sound platform (recordSync db row id status productCount offerCount errorMessage startedAt
      finishedAt).2.connections registry key :=
  @Sound.updateConnection _ _ _ _ _ (fun r => r.synced _) (fun _ => rfl) h fun _ => rfl

theorem Sound.runSync {db : Store} {registry : Registry} {key : List UInt8} {limit : ℤ}
    {fetch : Fetch} {syncRunId : String} {startedAt finishedAt : Time}
    (h : Sound platform db.connections registry key) :
    Sound platform (runSync db row connector limit fetch syncRunId startedAt
      finishedAt).2.connections registry key := by
  unfold Channels.runSync
  cases fetch connector limit with
  | error e => exact h.recordSync
  | ok counts => exact h.recordSync

/-- The state an event of a sound world leaves is sound. -/
def World.Sound (platform : Platform) (w : World) : Prop :=
  Channels.Sound platform w.db.connections w.registry w.key

theorem Sound.reached {connectionId : String} {registry : Registry} (h : w.Sound platform)
    (hreach : reach platform w principal connectionId = .ok (row, connector, registry)) :
    Sound platform w.db.connections registry w.key := by
  obtain ⟨⟨hmem, -⟩, ⟨-, -, rfl⟩ | ⟨-, hown, rfl⟩⟩ := reach_eq_ok hreach
  · exact h
  · exact h.register hmem hown

theorem recordOrderPush_connections {db : Store} {orderId : String} {status : RunStatus}
    {remoteReference errorMessage : Option String} {pushId : String} {now : Time} :
    (recordOrderPush db row orderId status remoteReference errorMessage pushId now).2.connections =
      db.connections := by
  unfold recordOrderPush
  split
  · split_ifs <;> rfl
  · rfl

/-- **What `connect_store` saves and builds**: an active row, and the row's own connector. -/
theorem savedStore_eq_ok {body : ConnectStoreRequest} {db : Store}
    (h : savedStore platform w principal body x = .ok (row, db, connector)) :
    row.status = .active ∧ Own platform.crypto platform.safe w.key row connector ∧
      row ∈ db.connections ∧ db.pushes = w.db.pushes ∧
      ∀ r ∈ w.db.connections, r.merchantId ≠ row.merchantId → r ∈ db.connections := by
  unfold savedStore at h
  cases hm : targetMerchant principal body.merchantId with
  | error e =>
      rw [hm] at h
      exact nomatch h
  | ok merchantId =>
      rw [hm] at h
      dsimp only at h
      split_ifs at h
      cases hs : saveConnection platform.crypto w.db merchantId
          (String.ofList (body.platformType.toList.map Char.toLower)) body.storeUrl
          body.accessToken w.key body.label x.nonce x.connectionIds x.now with
      | error e =>
          rw [hs] at h
          cases e <;> exact nomatch h
      | ok saved =>
          obtain ⟨row', db'⟩ := saved
          rw [hs] at h
          dsimp only at h
          cases hc : Connector.build platform.safe merchantId
              (String.ofList (body.platformType.toList.map Char.toLower)) body.storeUrl
              body.accessToken with
          | error e =>
              rw [hc] at h
              exact nomatch h
          | ok built =>
              rw [hc] at h
              obtain ⟨rfl, hpair⟩ := Prod.mk.inj (Except.ok.inj h)
              obtain ⟨rfl, rfl⟩ := Prod.mk.inj hpair
              obtain ⟨⟨hmerchant, hplatform, hdomain, hactive, htoken⟩, hmem, hothers, hpushes⟩ :=
                saveConnection_eq_ok hs
              refine ⟨hactive, ⟨body.accessToken, htoken, ?_⟩, hmem, hpushes, ?_⟩
              · rw [hmerchant, hplatform, hdomain]
                exact build_eq_ok hc
              · rw [hmerchant]
                exact hothers

/-- A store that is connected: its merchant's connector is replaced together with the row. -/
theorem Sound.connect {body : ConnectStoreRequest} {db : Store} (h : w.Sound platform)
    (hsaved : savedStore platform w principal body x = .ok (row, db, connector)) :
    Sound platform db.connections (w.registry.register row.merchantId connector) w.key := by
  obtain ⟨-, hown, hmem, -, hothers⟩ := savedStore_eq_ok hsaved
  intro m c hc
  unfold Registry.register at hc
  dsimp only at hc
  split_ifs at hc with hm
  · obtain rfl := Option.some.inj hc
    exact .inr ⟨row, hmem, hm.symm, hown⟩
  · rcases h m c hc with hseed | ⟨r, hr, rfl, hrown⟩
    · exact .inl hseed
    · exact .inr ⟨r, hothers r hr hm, rfl, hrown⟩

/-- **Every event leaves the world sound.** -/
theorem step_sound (e : Event) (h : w.Sound platform) : (step platform w e).Sound platform := by
  unfold step
  cases e with
  | connect principal body x =>
      simp only [handle]
      unfold connectStore
      cases hsaved : savedStore platform w principal body x with
      | error e => exact h
      | ok saved =>
          obtain ⟨row, db, connector⟩ := saved
          dsimp only
          have hconnected := Sound.connect h hsaved
          split_ifs
          · exact hconnected.runSync
          · exact hconnected
  | disconnect principal connectionId =>
      simp only [handle]
      unfold disconnectStore
      cases ownConnection w principal connectionId with
      | error e => exact h
      | ok row =>
          exact @Sound.updateConnection _ _ _ _ _ (fun r => { r with status := .disabled })
            (fun _ => rfl) h fun _ => rfl
  | restart key scan =>
      exact Sound.new.rehydrate fun row hrow => (scan.perm _).mem_iff.1 hrow
  | sync principal body x =>
      simp only [handle]
      unfold syncNow
      cases hreach : reach platform w principal body.connectionId with
      | error e => exact h
      | ok reached =>
          obtain ⟨row, connector, registry⟩ := reached
          exact (Sound.reached h hreach).runSync
  | push principal body x =>
      simp only [handle]
      unfold pushOrder
      cases hreach : reach platform w principal body.connectionId with
      | error e => exact h
      | ok reached =>
          obtain ⟨row, connector, registry⟩ := reached
          have hreached := Sound.reached h hreach
          dsimp only
          unfold recordAttempt World.Sound
          split <;> rw [recordOrderPush_connections] <;> exact hreached

/-- What a sync or a push of a sound world reaches is isolated exactly if it is undisturbed. -/
theorem reached_isolated_iff {connectionId : String} {registry : Registry} (h : w.Sound platform)
    (hreach : reach platform w principal connectionId = .ok (row, connector, registry)) :
    (Own platform.crypto platform.safe w.key row connector ∧ row.status = .active) ↔
      Undisturbed platform w principal connectionId := by
  have only : Undisturbed platform w principal connectionId ↔
      row.status = .active ∧ ((w.registry.get row.merchantId).merchantId = row.merchantId →
        (w.registry.get row.merchantId).Serves platform.crypto w.key row) := by
    refine ⟨fun hu => hu row connector registry hreach, fun hu row' connector' registry' h' => ?_⟩
    rw [hreach] at h'
    obtain ⟨rfl, -⟩ := Prod.mk.inj (Except.ok.inj h')
    exact hu
  rw [only, and_comm]
  refine and_congr_right fun _ => ?_
  obtain ⟨⟨hmem, -⟩, ⟨hregistered, rfl, -⟩ | ⟨hother, hown, -⟩⟩ := reach_eq_ok hreach
  · refine ⟨fun hown _ => hown.serves, fun hserves => ?_⟩
    have hserves := hserves hregistered
    rcases Sound.get h row.merchantId with hseed | ⟨row', hmem', hmerchant, hown⟩
    · rw [hseed] at hserves
      exact hserves.elim
    · exact hown.of_serves hmem hmem' (hmerchant.trans hregistered) hserves
  · exact ⟨fun _ heq => absurd heq hother, fun _ => hown⟩

/-- **One event**: its contacts are isolated exactly if it is undisturbed. -/
theorem handle_isolated_iff (e : Event) (h : w.Sound platform) :
    (∀ c ∈ (handle platform w e).contacts, c.Isolated platform w.key) ↔
      e.Undisturbed platform w := by
  cases e with
  | connect principal body x =>
      refine ⟨fun _ => trivial, fun _ c hc => ?_⟩
      simp only [handle] at hc
      unfold connectStore at hc
      cases hsaved : savedStore platform w principal body x with
      | error e =>
          rw [hsaved] at hc
          exact nomatch hc
      | ok saved =>
          obtain ⟨row, db, connector⟩ := saved
          obtain ⟨hactive, hown, -⟩ := savedStore_eq_ok hsaved
          rw [hsaved] at hc
          dsimp only at hc
          split_ifs at hc
          · obtain rfl := List.mem_singleton.1 hc
            exact ⟨hown, hactive⟩
          · exact nomatch hc
  | disconnect principal connectionId =>
      refine ⟨fun _ => trivial, fun _ c hc => ?_⟩
      simp only [handle] at hc
      unfold disconnectStore at hc
      cases hown : ownConnection w principal connectionId with
      | error e =>
          rw [hown] at hc
          exact nomatch hc
      | ok row =>
          rw [hown] at hc
          exact nomatch hc
  | restart key scan => exact ⟨fun _ => trivial, fun _ c hc => nomatch hc⟩
  | sync principal body x =>
      simp only [handle, Event.Undisturbed]
      unfold syncNow
      cases hreach : reach platform w principal body.connectionId with
      | error e =>
          refine ⟨fun _ row connector registry h' => ?_, fun _ c hc => nomatch hc⟩
          rw [hreach] at h'
          exact nomatch h'
      | ok reached =>
          obtain ⟨row, connector, registry⟩ := reached
          dsimp only
          rw [List.forall_mem_singleton]
          exact reached_isolated_iff h hreach
  | push principal body x =>
      simp only [handle, Event.Undisturbed]
      unfold pushOrder
      cases hreach : reach platform w principal body.connectionId with
      | error e =>
          refine ⟨fun _ row connector registry h' => ?_, fun _ c hc => nomatch hc⟩
          rw [hreach] at h'
          exact nomatch h'
      | ok reached =>
          obtain ⟨row, connector, registry⟩ := reached
          dsimp only
          rw [List.forall_mem_singleton]
          exact reached_isolated_iff h hreach

end

/-- **When connections are isolated.**  In every run of a process that starts on any database,
every contact is with the connection's own store, under its token and while it is active,
exactly if every sync and every push that reaches a connector finds its connection active and
nothing registered for the merchant but a connector of the connection's platform and domain. -/
theorem contacts_isolated_iff (platform : Platform) (db : Store) (key : List UInt8) (scan : Scan)
    (events : List Event) :
    Always (step platform) (fun w e => ∀ c ∈ (handle platform w e).contacts,
        c.Isolated platform w.key) (start platform db key scan) events ↔
      Always (step platform) (fun w e => e.Undisturbed platform w) (start platform db key scan)
        events := by
  have hstart : (start platform db key scan).Sound platform :=
    Sound.new.rehydrate fun _ hrow => (scan.perm _).mem_iff.1 hrow
  exact always_congr (fun _ e h => step_sound e h) (fun _ e h => handle_isolated_iff e h) hstart
    events

/-! A merchant with two stores. -/

def demoPlatform : Platform :=
  { crypto := { sha256 := fun _ => List.replicate 32 0, length_sha256 := fun _ => rfl,
                hmac := fun _ _ => [1] }
    safe := fun _ => true }

def emptyStore : Store := { connections := .empty, pushes := .empty, runs := [] }

def sameOrder : Scan := { order := id, perm := fun _ => .refl _ }

def admin : Principal :=
  { subject := "op", role := .merchantAdmin, merchantId := "m", buyerId := none, scopes := ∅,
    method := .session, expiresAt := none, clientId := none, subject_ne := by decide,
    merchantId_ne := by decide, buyer_given := by decide, scopes_le := by decide }

/-- A store that takes every order, and identifiers for what is stored. -/
def encounter (id : String) : Encounter :=
  { now := 0, finishedAt := 0, connectionIds := [id], syncRunId := id, pushId := id, nonce := [7],
    fetch := fun _ _ => .ok (1, 1), reply := .response 201 (some (.obj [])) }

def connectShop (id url : String)
    (h : (1 ≤ url.length ∧ url.length ≤ 512) ∧ 1 ≤ id.length ∧ id.length ≤ 512) : Event :=
  .connect admin { platformType := "generic_rest", storeUrl := url, accessToken := id,
                   merchantId_ok := by simp, platformType_ok := by decide, storeUrl_ok := h.1,
                   accessToken_ok := h.2, label_ok := by decide } (encounter id)

def syncShop (id : String) (h : 1 ≤ id.length ∧ id.length ≤ 64) : Event :=
  .sync admin { connectionId := id, connectionId_ok := h, limit_ok := by decide } (encounter id)

/-- The first store is synced after the second has been connected. -/
def twoShops : List Event :=
  [connectShop "c1" "https://one.example" (by decide),
    connectShop "c2" "https://two.example" (by decide), syncShop "c1" (by decide)]

/-- The store is synced after it has been disconnected. -/
def closedShop : List Event :=
  [connectShop "c1" "https://one.example" (by decide), .disconnect admin "c1",
    syncShop "c1" (by decide)]

/-- A contact whose connector has another address than its connection, or whose connection is
disabled. -/
def Contact.astray (x : Contact) : Bool :=
  match x.connector with
  | .genericRest _ baseUrl _ =>
      baseUrl != x.connection.storeDomain || x.connection.status == .disabled
  | _ => false

theorem not_isolated_of_astray {platform : Platform} {key : List UInt8} {x : Contact}
    (h : x.astray = true) : ¬x.Isolated platform key := by
  rintro ⟨hown, hactive⟩
  have hserves := hown.serves
  unfold Contact.astray at h
  cases hc : x.connector with
  | genericRest merchantId baseUrl apiKey =>
      rw [hc] at h hserves
      rw [Bool.or_eq_true, bne_iff_ne, beq_iff_eq, hactive] at h
      rcases h with h | h
      · exact h hserves.2
      · exact nomatch h
  | shopifyWoo => rw [hc] at h; exact nomatch h
  | catalogFeed => rw [hc] at h; exact nomatch h
  | internalSeed => rw [hc] at h; exact nomatch h

theorem shops_mixed_up :
    ¬Always (step demoPlatform) (fun w e => ∀ c ∈ (handle demoPlatform w e).contacts,
        c.Isolated demoPlatform w.key) (start demoPlatform emptyStore [1] sameOrder) twoShops ∧
      ¬Always (step demoPlatform) (fun w e => ∀ c ∈ (handle demoPlatform w e).contacts,
        c.Isolated demoPlatform w.key) (start demoPlatform emptyStore [1] sameOrder)
        closedShop := by
  have last : ∀ events w e₁ e₂ e₃, events = [e₁, e₂, e₃] →
      (handle demoPlatform (step demoPlatform (step demoPlatform w e₁) e₂) e₃).contacts.any
        Contact.astray = true →
      ¬Always (step demoPlatform) (fun w e => ∀ c ∈ (handle demoPlatform w e).contacts,
        c.Isolated demoPlatform w.key) w events := by
    rintro _ w e₁ e₂ e₃ rfl hany ⟨-, -, h, -⟩
    obtain ⟨c, hc, hastray⟩ := List.any_eq_true.1 hany
    exact not_isolated_of_astray hastray (h c hc)
  exact ⟨last _ _ _ _ _ rfl (by decide), last _ _ _ _ _ rfl (by decide)⟩

end Channels
end AgenticCommerce
