/-
# API keys and their exchange

`packages/security/apikeys.py`, the repository of `services/connectors/api_clients.py`, and
`exchange_api_key` and `registry_for` of `apps/api/auth.py`.  An `ApiClient` carries what
its constructor checks.  A stored row becomes a client only when it can be read: a row
whose role is not known is skipped, a scope that is not known is dropped, and a row whose
scopes are no collection at all raises and fails the exchange.

**Scopes only shrink on the way to a token** (`exchange_attenuates`): the principal rebuilt
from an exchanged token holds what was requested, or all the client holds, and a client
holds no more than its row lists and its role allows.
-/

import AgenticCommerce.Access.Tokens
import AgenticCommerce.Relational.Ranking

namespace AgenticCommerce
namespace Access

open Relational

def apiKeyPrefix : String := "ak_"

def maxApiKeyLength : ℕ := 256

/-- A registered external agent. -/
structure ApiClient where
  clientId : String
  keyHash : String
  merchantId : String
  role : Role
  buyerId : Option String
  scopes : Finset Scope
  label : String
  active : Bool
  clientId_ne : clientId ≠ ""
  merchantId_ne : merchantId ≠ ""
  buyer_given : role = .buyer → given buyerId = true
  keyHash_digest : keyHash.length = 64 ∧ keyHash.startsWith apiKeyPrefix = false
  scopes_le : scopes ⊆ role.scopes

/-- A buyer that is not missing is given. -/
theorem buyer_given_of_not {role : Role} {buyerId : Option String}
    (hb : ¬(role = .buyer ∧ given buyerId = false)) (hr : role = .buyer) :
    given buyerId = true := by
  cases hg : given buyerId with
  | false => exact absurd ⟨hr, hg⟩ hb
  | true => rfl

/-- `ApiClient(...)`, with what `__post_init__` raises. -/
def ApiClient.make (clientId keyHash merchantId : String) (role : Role) (buyerId : Option String)
    (scopes : Finset Scope) (label : String) (active : Bool) : Except String ApiClient :=
  if hc : clientId = "" then .error "an API client must have a client_id"
  else if hm : merchantId = "" then .error "an API client must belong to a merchant tenant"
  else if hb : role = .buyer ∧ given buyerId = false then
    .error "a buyer API client must carry a buyer_id"
  else if hl : keyHash.length ≠ 64 then .error "key_hash must be a sha256 hex digest"
  else if hp : keyHash.startsWith apiKeyPrefix = true then
    .error "key_hash looks like a plaintext api key"
  else if hs : scopes ⊆ role.scopes then
    .ok { clientId, keyHash, merchantId, role, buyerId, scopes, label, active,
          clientId_ne := hc, merchantId_ne := hm,
          buyer_given := buyer_given_of_not hb
          keyHash_digest := ⟨not_not.1 hl, by simpa using hp⟩
          scopes_le := hs }
  else .error ("role " ++ role.value ++ " may not be granted " ++
    reprList (Scope.sorted (scopes \ role.scopes)))

theorem ApiClient.make_eq_ok {clientId keyHash merchantId label : String} {role : Role}
    {buyerId : Option String} {scopes : Finset Scope} {active : Bool} {c : ApiClient}
    (h : ApiClient.make clientId keyHash merchantId role buyerId scopes label active = .ok c) :
    c.clientId = clientId ∧ c.keyHash = keyHash ∧ c.merchantId = merchantId ∧ c.role = role ∧
      c.buyerId = buyerId ∧ c.scopes = scopes ∧ c.label = label ∧ c.active = active := by
  unfold ApiClient.make at h
  split_ifs at h
  obtain rfl := Except.ok.inj h
  exact ⟨rfl, rfl, rfl, rfl, rfl, rfl, rfl, rfl⟩

/-! ### The registry -/

/-- `ApiClientRegistry` holds one client for a digest. -/
instance : Keyed ApiClient := keyedBy ApiClient.keyHash

abbrev ApiClientRegistry := Table ApiClient

/-- `resolve`: the active client a key belongs to; `digest` is SHA-256 in hexadecimal. -/
def ApiClientRegistry.resolve (digest : String → String) (registry : ApiClientRegistry)
    (presentedKey : String) : Option ApiClient :=
  if presentedKey = "" then none
  else if maxApiKeyLength < presentedKey.length then none
  else (registry.first fun c => c.keyHash == digest presentedKey).filter (·.active)

/-! ### The stored clients -/

/-- `api_client.status`. -/
inductive ApiClientStatus where
  | active | revoked
  deriving DecidableEq, Repr

/-- A row of `api_client`. -/
structure ApiClientRow where
  apiClientId : String
  merchantId : String
  keyHash : String
  scopes : Json
  status : ApiClientStatus := .active
  label : String := ""
  role : String := "buyer"
  buyerId : Option String := none
  createdAt : Time

instance : Keyed ApiClientRow := keyedByEither ApiClientRow.apiClientId ApiClientRow.keyHash

/-- Why a row is no client: it is skipped, or it raises what nobody catches. -/
inductive RowProblem where
  | skipped (text : String)
  | raised (text : String)

/-- The values a `for` loop over `scopes or []` visits. -/
def listed (scopes : Json) : Except RowProblem (List Json) :=
  if scopes.truthy then match scopes with
    | .arr l => .ok l
    | .obj items => .ok (items.map fun kv => .str kv.1)
    | .str s => .ok (s.toList.map fun c => .str (String.singleton c))
    | _ => .error (.raised "object is not iterable")
  else .ok []

/-- `_to_domain`. -/
def toDomain (row : ApiClientRow) : Except RowProblem ApiClient :=
  match Role.ofString? row.role with
  | none => .error (.skipped "role is not recognised by this build")
  | some role =>
      if role = .buyer ∧ given row.buyerId = false then
        .error (.skipped "buyer client has no buyer_id")
      else match listed row.scopes with
        | .error e => .error e
        | .ok values =>
            match ApiClient.make row.apiClientId row.keyHash row.merchantId role row.buyerId
              (values.filterMap scopeOf?).toFinset row.label (row.status == .active) with
            | .error text => .error (.skipped text)
            | .ok client => .ok client

/-- What a client has from the row it was read from. -/
structure ApiClient.ReadFrom (client : ApiClient) (row : ApiClientRow) : Prop where
  clientId : client.clientId = row.apiClientId
  keyHash : client.keyHash = row.keyHash
  merchantId : client.merchantId = row.merchantId
  role : client.role.value = row.role
  buyerId : client.buyerId = row.buyerId
  active : client.active = (row.status == .active)
  scopes : ∀ s ∈ client.scopes, ∃ values, listed row.scopes = .ok values ∧ .str s.value ∈ values

theorem Role.value_of_ofString? {text : String} {role : Role} (h : Role.ofString? text = some role) :
    role.value = text := by
  unfold Role.ofString? at h
  split at h <;> first | (obtain rfl := Option.some.inj h; rfl) | exact nomatch h

theorem Scope.value_of_ofString? {text : String} {s : Scope} (h : Scope.ofString? text = some s) :
    s.value = text := by
  unfold Scope.ofString? at h
  split at h <;> first | (obtain rfl := Option.some.inj h; rfl) | exact nomatch h

/-- A client has its fields from its row, and only scopes that the row lists. -/
theorem toDomain_eq_ok {row : ApiClientRow} {client : ApiClient} (h : toDomain row = .ok client) :
    client.ReadFrom row := by
  unfold toDomain at h
  cases hrole : Role.ofString? row.role with
  | none =>
      rw [hrole] at h
      exact nomatch h
  | some role =>
      rw [hrole] at h
      dsimp only at h
      split_ifs at h with hb
      cases hl : listed row.scopes with
      | error e =>
          rw [hl] at h
          exact nomatch h
      | ok values =>
          rw [hl] at h
          dsimp only at h
          split at h
          · exact nomatch h
          · next c hmake =>
              obtain rfl := Except.ok.inj h
              obtain ⟨h₁, h₂, h₃, h₄, h₅, h₆, -, h₈⟩ := ApiClient.make_eq_ok hmake
              refine ⟨h₁, h₂, h₃, ?_, h₅, h₈, fun s hs => ⟨values, hl, ?_⟩⟩
              · rw [h₄]
                exact Role.value_of_ofString? hrole
              · rw [h₆, List.mem_toFinset, List.mem_filterMap] at hs
                obtain ⟨v, hv, hscope⟩ := hs
                unfold scopeOf? at hscope
                split at hscope
                · rw [Scope.value_of_ofString? hscope]
                  exact hv
                · exact nomatch hscope

def maxLoadedClients : ℕ := 5000

/-- The rows `load_into` reads: the active ones, the newest first. -/
def activeRows (rows : Table ApiClientRow) : List ApiClientRow :=
  (ranked (fun r : ApiClientRow => -r.createdAt) (rows.select fun r => r.status == .active)).take
    maxLoadedClients

/-- The loop of `load_into`: the registry, and the rows that were skipped. -/
def loadRows : List ApiClientRow → ApiClientRegistry → List String →
    Except Failure (ApiClientRegistry × List String)
  | [], registry, skipped => .ok (registry, skipped)
  | row :: rest, registry, skipped => match toDomain row with
    | .error (.raised text) => .error (.exception text)
    | .error (.skipped _) => loadRows rest registry (skipped ++ [row.apiClientId])
    | .ok client => match registry.insert? client with
      | none => loadRows rest registry (skipped ++ [row.apiClientId])
      | some registry => loadRows rest registry skipped

/-- `load_into`. -/
def loadInto (rows : Table ApiClientRow) (registry : ApiClientRegistry) :
    Except Failure (ApiClientRegistry × List String) :=
  loadRows (activeRows rows) registry []

/-- Every client of a loaded registry was there before, or is that of a row. -/
theorem loadRows_mem {l : List ApiClientRow} {registry registry' : ApiClientRegistry}
    {skipped skipped' : List String} (h : loadRows l registry skipped = .ok (registry', skipped'))
    {c : ApiClient} (hc : c ∈ registry') : c ∈ registry ∨ ∃ row ∈ l, toDomain row = .ok c := by
  induction l generalizing registry skipped with
  | nil =>
      obtain ⟨rfl, -⟩ := Prod.mk.inj (Except.ok.inj h)
      exact .inl hc
  | cons row l ih =>
      rw [loadRows] at h
      have later : ∀ {r s}, loadRows l r s = .ok (registry', skipped') →
          c ∈ r ∨ ∃ row' ∈ row :: l, toDomain row' = .ok c := fun h => by
        rcases ih h with hr | ⟨row', hrow', hd⟩
        · exact .inl hr
        · exact .inr ⟨row', List.mem_cons_of_mem _ hrow', hd⟩
      cases hd : toDomain row with
      | error e =>
          rw [hd] at h
          cases e with
          | skipped text => exact later h
          | raised text => exact nomatch h
      | ok client =>
          rw [hd] at h
          dsimp only at h
          cases hi : registry.insert? client with
          | none =>
              rw [hi] at h
              exact later h
          | some r =>
              rw [hi] at h
              rcases later h with hr | hrow
              · rcases (Table.mem_insert hi).1 hr with hr | rfl
                · exact .inl hr
                · exact .inr ⟨row, List.mem_cons_self .., hd⟩
              · exact .inr hrow

theorem mem_activeRows {rows : Table ApiClientRow} {row : ApiClientRow}
    (h : row ∈ activeRows rows) : row ∈ rows ∧ row.status = .active := by
  obtain ⟨hmem, hactive⟩ := Table.mem_select.1 (mem_ranked.1 (List.mem_of_mem_take h))
  exact ⟨hmem, by simpa using hactive⟩

/-! ### The exchange -/

/-- `exchange_api_key`. -/
def exchangeApiKey (digest : String → String) (mac : Mac) (newId : String → String)
    (apiKey : String) (registry : ApiClientRegistry) (settings : Settings)
    (requestedScopes : Option (Finset Scope)) (now : Time) : Except Failure IssuedToken :=
  match registry.resolve digest apiKey with
  | none => .error (refused "The API key is not valid." "api_key")
  | some client =>
      let excess := (requestedScopes.getD ∅) \ client.scopes
      if excess ≠ ∅ then
        .error (.domain
          { code := .forbidden
            message := "Requested scopes " ++ reprList (Scope.sorted excess) ++
              " exceed granted scopes for this client."
            details := [("reason", "scope_exceeded"),
              ("requested", reprList (Scope.sorted (requestedScopes.getD ∅))),
              ("permitted", reprList (Scope.sorted client.scopes)),
              ("excess", reprList (Scope.sorted excess))] })
      else
        let granted := requestedScopes.getD client.scopes
        if granted = ∅ then
          .error (.domain
            { code := .forbidden
              message := "This credential does not carry the scope required for this action."
              details := [("reason", "scope"),
                ("granted_scopes", reprList (Scope.sorted client.scopes))] })
        else
          issueAccessToken mac newId settings.jwtSecret
            ((client.buyerId.filter (· != "")).getD client.clientId) client.role client.merchantId
            settings.accessTokenTtlSeconds client.buyerId (some granted) now (some client.clientId)

/-- `registry_for`, and then the exchange: the body of the token route. -/
def exchangeToken (digest : String → String) (mac : Mac) (newId : String → String)
    (apiKey : String) (rows : Table ApiClientRow) (settings : Settings)
    (requestedScopes : Option (Finset Scope)) (now : Time) : Except Failure IssuedToken :=
  match loadInto rows Table.empty with
  | .error e => .error e
  | .ok (registry, _) => exchangeApiKey digest mac newId apiKey registry settings requestedScopes now

/-! ### Attenuation -/

/-- What a principal has of the key it was exchanged for. -/
structure Principal.AttenuatedFrom (p : Principal) (client : ApiClient)
    (requestedScopes : Option (Finset Scope)) : Prop where
  scopes_le : p.scopes ⊆ client.scopes
  requested : ∀ r, requestedScopes = some r → p.scopes = r
  merchantId : p.merchantId = client.merchantId
  buyerId : p.buyerId = client.buyerId
  role : p.role = client.role
  clientId : p.clientId = some client.clientId

/-- A key resolves to an active client of its digest. -/
theorem resolve_eq_some {digest : String → String} {registry : ApiClientRegistry} {key : String}
    {client : ApiClient} (h : registry.resolve digest key = some client) :
    client ∈ registry ∧ client.keyHash = digest key ∧ client.active = true := by
  unfold ApiClientRegistry.resolve at h
  split_ifs at h
  obtain ⟨hfirst, hactive⟩ := Option.filter_eq_some_iff.1 h
  obtain ⟨hmem, hhash⟩ := Table.first_eq_some hfirst
  exact ⟨hmem, by simpa using hhash, hactive⟩

section

variable {digest : String → String} {mac : Mac} {newId : String → String} {key : String}
  {registry : ApiClientRegistry} {settings : Settings} {requestedScopes : Option (Finset Scope)}
  {now : Time} {issued : IssuedToken}

/-- A key that is exchanged resolves, and its token is issued for what was requested of the
scopes of its client, or for all of them. -/
theorem exchangeApiKey_eq_ok (h : exchangeApiKey digest mac newId key registry settings
    requestedScopes now = .ok issued) :
    ∃ client, registry.resolve digest key = some client ∧
      requestedScopes.getD client.scopes ⊆ client.scopes ∧
      issue mac newId typeAccess .token settings.jwtSecret
        ((client.buyerId.filter (· != "")).getD client.clientId) client.role client.merchantId
        client.buyerId (some (requestedScopes.getD client.scopes)) settings.accessTokenTtlSeconds
        now (some client.clientId) = .ok issued := by
  unfold exchangeApiKey at h
  cases hr : registry.resolve digest key with
  | none =>
      rw [hr] at h
      exact nomatch h
  | some client =>
      rw [hr] at h
      dsimp only at h
      split_ifs at h with hexcess hnone
      unfold issueAccessToken at h
      split_ifs at h
      refine ⟨client, rfl, ?_, h⟩
      cases requestedScopes with
      | none => exact fun _ hs => hs
      | some r => exact Finset.sdiff_eq_empty_iff_subset.1 (not_not.1 hexcess)

/-- What is rebuilt from an exchanged token. -/
theorem attenuatedFrom_of_exchange (runtime : Runtime) (h : exchangeApiKey digest mac newId key
    registry settings requestedScopes now = .ok issued) :
    ∃ client, registry.resolve digest key = some client ∧
      (∀ at' p, principalFromAccessToken runtime mac issued.token settings.jwtSecret at' = .ok p →
        p.AttenuatedFrom client requestedScopes) ∧
      ∀ at', issued.token.length ≤ maxTokenLength →
        (seconds now - clockSkewSeconds) * 1000000 ≤ at' → at' < issued.expiresAt * 1000000 →
        ∃ p, principalFromAccessToken runtime mac issued.token settings.jwtSecret at' = .ok p := by
  obtain ⟨client, hr, hle, hissue⟩ := exchangeApiKey_eq_ok h
  obtain ⟨-, hrole, hmerchant, hbuyer, hscopes, -, -, hclient, -⟩ := issue_eq_ok hissue
  rw [Option.getD_some] at hscopes
  refine ⟨client, hr, fun at' p hp => ?_, fun at' hlen hearly hlate => ?_⟩
  · rw [principalFromAccessToken, principalFrom_issued runtime at' hissue] at hp
    split_ifs at hp
    obtain rfl := Except.ok.inj hp
    refine ⟨by rw [hscopes]; exact hle, ?_, hmerchant, hbuyer, hrole, hclient⟩
    rintro r rfl
    rw [hscopes, Option.getD_some]
  · have hshort : ¬maxTokenLength < issued.token.length := Nat.not_lt.2 hlen
    have hfresh : ¬issued.expiresAt * 1000000 ≤ at' := Int.not_le.2 hlate
    have hdated : ¬at' < (seconds now - clockSkewSeconds) * 1000000 := Int.not_lt.2 hearly
    refine ⟨issued.principal, ?_⟩
    rw [principalFromAccessToken, principalFrom_issued runtime at' hissue, if_neg hshort,
      if_neg hfresh, if_neg hdated]

end

/-- **Scopes only shrink on the way from a key to a principal.**  Whatever clients a
registry holds and whatever rows are loaded into it, a key that is exchanged belongs to an
active client, of the registry or of an active row, whose scopes are among those of its
role; and every principal rebuilt from the token has scopes of that client, those that
were requested when any were, and the client's merchant, buyer, role and identifier.
While the token is live and not too long, it is rebuilt. -/
theorem exchange_attenuates (digest : String → String) (mac : Mac) (newId : String → String)
    (runtime : Runtime) (settings : Settings) (rows : Table ApiClientRow)
    (registry loaded : ApiClientRegistry) (skipped : List String)
    (hload : loadInto rows registry = .ok (loaded, skipped)) (key : String)
    (requestedScopes : Option (Finset Scope)) (now : Time) :
    (∀ issued, exchangeApiKey digest mac newId key loaded settings requestedScopes now =
        .ok issued →
      ∃ client : ApiClient, client.keyHash = digest key ∧ client.active = true ∧
        (client ∈ registry ∨ ∃ row ∈ rows, row.status = .active ∧ client.ReadFrom row) ∧
        client.scopes ⊆ client.role.scopes ∧
        (∀ at' p, principalFromAccessToken runtime mac issued.token settings.jwtSecret at' = .ok p →
          p.AttenuatedFrom client requestedScopes) ∧
        ∀ at', issued.token.length ≤ maxTokenLength →
          (seconds now - clockSkewSeconds) * 1000000 ≤ at' → at' < issued.expiresAt * 1000000 →
          ∃ p, principalFromAccessToken runtime mac issued.token settings.jwtSecret at' = .ok p) ∧
    ((∀ client ∈ registry, client.keyHash = digest key → client.active = false) →
      (∀ row ∈ rows, row.keyHash = digest key → row.status = .revoked) →
      ∀ issued, exchangeApiKey digest mac newId key loaded settings requestedScopes now ≠
        .ok issued) := by
  have known : ∀ client, loaded.resolve digest key = some client →
      client.keyHash = digest key ∧ client.active = true ∧
        (client ∈ registry ∨ ∃ row ∈ rows, row.status = .active ∧ client.ReadFrom row) := by
    intro client hr
    obtain ⟨hmem, hhash, hactive⟩ := resolve_eq_some hr
    refine ⟨hhash, hactive, ?_⟩
    rcases loadRows_mem hload hmem with hold | ⟨row, hrow, hd⟩
    · exact .inl hold
    · obtain ⟨hrow, hstatus⟩ := mem_activeRows hrow
      exact .inr ⟨row, hrow, hstatus, toDomain_eq_ok hd⟩
  refine ⟨fun issued h => ?_, fun hregistry hrows issued h => ?_⟩
  · obtain ⟨client, hr, hrebuilt, hlive⟩ := attenuatedFrom_of_exchange runtime h
    obtain ⟨hhash, hactive, hfrom⟩ := known client hr
    exact ⟨client, hhash, hactive, hfrom, client.scopes_le, hrebuilt, hlive⟩
  · obtain ⟨client, hr, -⟩ := exchangeApiKey_eq_ok h
    obtain ⟨hhash, hactive, hold | ⟨row, hrow, hstatus, hread⟩⟩ := known client hr
    · rw [hregistry client hold hhash] at hactive
      exact Bool.noConfusion hactive
    · rw [hrows row hrow (hread.keyHash.symm.trans hhash)] at hstatus
      exact nomatch hstatus

/-! A store with one key of a buyer's agent, exchanged for a catalog token. -/

/-- A digest of a fixed length, a MAC of one byte, and the identifiers of the example. -/
def demoDigest (_ : String) : String := "".pushn 'd' 64
def demoMac : Mac := fun _ _ => [7]

def demoSettings : Settings :=
  { jwtSecret := "jwt", sessionSecret := "session", accessTokenTtlSeconds := 3600,
    sessionTtlSeconds := 86400 }

/-- The stored client of a buyer's agent, one of whose scopes is not known. -/
def demoRow : ApiClientRow :=
  { apiClientId := "apc", merchantId := "m", keyHash := demoDigest "ak_1"
    scopes := .arr [.str "catalog:read", .str "checkout:write", .str "refund:write"]
    buyerId := some "b", createdAt := 0 }

def demoRows : Table ApiClientRow := ⟨[demoRow], List.pairwise_singleton _ _⟩

theorem demo_key_attenuated : ∃ loaded skipped issued client,
    loadInto demoRows Table.empty = .ok (loaded, skipped) ∧
    exchangeApiKey demoDigest demoMac id "ak_1" loaded demoSettings (some {.catalogRead}) 0 =
      .ok issued ∧
    client.active = true ∧
    ∀ at' p, principalFromAccessToken asciiRuntime demoMac issued.token "jwt" at' = .ok p →
      p.AttenuatedFrom client (some {.catalogRead}) := by
  have hexchange : isOk (exchangeToken demoDigest demoMac id "ak_1" demoRows demoSettings
      (some {.catalogRead}) 0) = true := by decide +kernel
  unfold exchangeToken at hexchange
  cases hload : loadInto demoRows Table.empty with
  | error e =>
      rw [hload] at hexchange
      exact nomatch hexchange
  | ok r =>
      rw [hload] at hexchange
      cases hissued : exchangeApiKey demoDigest demoMac id "ak_1" r.1 demoSettings
          (some {.catalogRead}) 0 with
      | error e =>
          simp only [hissued] at hexchange
          exact nomatch hexchange
      | ok issued =>
          obtain ⟨client, -, hactive, -, -, hrebuilt, -⟩ := (exchange_attenuates demoDigest demoMac
            id asciiRuntime demoSettings demoRows Table.empty r.1 r.2 hload "ak_1"
            (some {.catalogRead}) 0).1 issued hissued
          exact ⟨r.1, r.2, issued, client, rfl, hissued, hactive, hrebuilt⟩

end Access
end AgenticCommerce
