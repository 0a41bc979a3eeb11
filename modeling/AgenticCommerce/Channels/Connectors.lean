/-
# Connectors

`services/connectors`: the connectors of a merchant's store, what they make of an order that is
pushed to them, and the registry that holds one for each merchant.  What the store answers is
an argument; so is the policy that keeps internal addresses out.
-/

import AgenticCommerce.Audit
import AgenticCommerce.Errors
import AgenticCommerce.Json
import Mathlib.Data.List.DropRight
import Mathlib.Tactic.SplitIfs

namespace AgenticCommerce
namespace Channels

/-- What a request to a store comes back with: a status code and the JSON of the body, if it
is JSON, or the exception it raises. -/
inductive HttpReply where
  | response (statusCode : ℤ) (body : Option Json)
  | raised (message : String)

/-- A `PlatformConnector`. -/
inductive Connector where
  | shopifyWoo (merchantId flavor storeDomain accessToken : String)
  | genericRest (merchantId baseUrl apiKey : String)
  | catalogFeed (merchantId feedContent : String)
  | internalSeed (merchantId : String)
  deriving DecidableEq, Repr

/-- The `status` of what `push_order` returns. -/
inductive PushStatus where
  | created | received | queued | failed | logged | confirmed
  deriving DecidableEq, Repr

/-- A status that comes from a store which took the order. -/
def PushStatus.Reported (status : PushStatus) : Prop := status = .created ∨ status = .received

/-- The dictionary that `push_order` returns. -/
structure PushResult where
  status : PushStatus
  orderId : String
  merchantId : String
  platformType : String
  deriving DecidableEq, Repr

namespace Connector

def merchantId : Connector → String
  | shopifyWoo merchantId _ _ _ => merchantId
  | genericRest merchantId _ _ => merchantId
  | catalogFeed merchantId _ => merchantId
  | internalSeed merchantId => merchantId

def platformType : Connector → String
  | shopifyWoo _ flavor _ _ => if flavor = "shopify" then "shopify" else "woocommerce"
  | genericRest _ _ _ => "generic_rest"
  | catalogFeed _ _ => "catalog_feed"
  | internalSeed _ => "internal_seed"

/-! ### Building one -/

/-- What an address that the policy keeps out is answered with. -/
def blocked (field address : String) : Failure :=
  .raised ("Connector " ++ field ++ " '" ++ address ++ "' violates anti-SSRF policy: " ++
    "local, internal, and cloud metadata addresses are blocked.") .forbidden

/-- `ShopifyWooConnector(...)`; `safe` is `is_safe_public_url`. -/
def ofShopifyWoo (safe : String → Bool) (merchantId flavor storeDomain accessToken : String) :
    Except Failure Connector :=
  let candidate :=
    if storeDomain = "" ∨ "http".toList.isPrefixOf storeDomain.toList then storeDomain
    else "https://" ++ storeDomain
  if candidate ≠ "" ∧ safe candidate = false then .error (blocked "store_domain" storeDomain)
  else .ok (shopifyWoo merchantId flavor storeDomain accessToken)

/-- `GenericRestConnector(...)`. -/
def ofGenericRest (safe : String → Bool) (merchantId baseUrl apiKey : String) :
    Except Failure Connector :=
  if baseUrl ≠ "" ∧ safe baseUrl = false then .error (blocked "base_url" baseUrl)
  else .ok (genericRest merchantId baseUrl apiKey)

/-- The connector of a platform, for the platforms that have one. -/
def construct (safe : String → Bool) (merchantId platform storeUrl token : String) :
    Option (Except Failure Connector) :=
  if platform = "shopify" then some (ofShopifyWoo safe merchantId "shopify" storeUrl token)
  else if platform = "woocommerce" then
    some (ofShopifyWoo safe merchantId "woocommerce" storeUrl token)
  else if platform = "generic_rest" then some (ofGenericRest safe merchantId storeUrl token)
  else if platform = "catalog_feed" then some (.ok (catalogFeed merchantId token))
  else none

/-- `_build_connector`. -/
def build (safe : String → Bool) (merchantId platform storeUrl token : String) :
    Except Failure Connector :=
  (construct safe merchantId platform storeUrl token).getD
    (.error (.exception ("unsupported platform " ++ platform)))

/-! ### Pushing an order -/

/-- `word in text`. -/
def mentions (word text : String) : Bool := Audit.contains word.toList text.toList

/-- `self.base_url`: `base_url.rstrip("/")`. -/
def trimmed (baseUrl : String) : String := String.ofList (baseUrl.toList.rdropWhile (· == '/'))

/-- Whether there is a store behind the connector that an order can be sent to. -/
def isLive : Connector → Bool
  | shopifyWoo _ flavor storeDomain accessToken =>
      storeDomain != "" && accessToken != "" && mentions "myshopify.com" storeDomain &&
        flavor == "shopify"
  | genericRest _ baseUrl _ =>
      trimmed baseUrl != "" && !mentions "api.merchantstore.com" (trimmed baseUrl)
  | catalogFeed _ _ => false
  | internalSeed _ => false

/-- `f"{checkout_payload.get('amount_minor', 0) / 100:.2f}"` does not raise. -/
def hasPrice (checkout : List (String × Json)) : Bool :=
  match Json.lookup checkout "amount_minor" with
  | none | some (.bool _) | some (.float _) => true
  | some (.int n) => decide (n.natAbs < 100 * (2 ^ 1024 - 2 ^ 970))
  | _ => false

/-- `res.json().get("order", {}).get("id", order_id)` does not raise. -/
def namesOrder : Option Json → Bool
  | some (.obj items) => match Json.lookup items "order" with
    | none | some (.obj _) => true
    | _ => false
  | _ => false

/-- `res.json().get("external_id", ...)` does not raise. -/
def isObject : Option Json → Bool
  | some (.obj _) => true
  | _ => false

/-- The `try` around the request: what the store took, what it refused, and what raised. -/
def sent (reply : HttpReply) (readable : Option Json → Bool) (taken : PushStatus) : PushStatus :=
  match reply with
  | .raised _ => .failed
  | .response statusCode body =>
      if statusCode = 200 ∨ statusCode = 201 then if readable body then taken else .failed
      else .queued

/-- The status that `push_order` returns. -/
def pushStatus (checkout : List (String × Json)) (reply : HttpReply) : Connector → PushStatus
  | shopifyWoo merchantId flavor storeDomain accessToken =>
      if (shopifyWoo merchantId flavor storeDomain accessToken).isLive then
        if hasPrice checkout then sent reply namesOrder .created else .failed
      else .queued
  | genericRest merchantId baseUrl apiKey =>
      if (genericRest merchantId baseUrl apiKey).isLive then sent reply isObject .received
      else .queued
  | catalogFeed _ _ => .logged
  | internalSeed _ => .confirmed

/-- `push_order`. -/
def pushOrder (c : Connector) (orderId : String) (checkout : List (String × Json))
    (reply : HttpReply) : Except Failure PushResult :=
  match c, orderId with
  | genericRest _ _ _, "" => .error (.raised "order_id required" .validationError)
  | c, orderId => .ok { status := c.pushStatus checkout reply, orderId, merchantId := c.merchantId,
                        platformType := c.platformType }

/-- An order with an identifier is never raised about. -/
theorem pushOrder_of_ne {orderId : String} (h : orderId ≠ "") (c : Connector)
    (checkout : List (String × Json)) (reply : HttpReply) :
    c.pushOrder orderId checkout reply =
      .ok { status := c.pushStatus checkout reply, orderId, merchantId := c.merchantId,
            platformType := c.platformType } := by
  unfold pushOrder
  split
  · exact absurd rfl h
  · rfl

/-- **The store took the order**: there is a store, it was sent a request, and it answered with
success and in its own format. -/
def StoreTook (checkout : List (String × Json)) (reply : HttpReply) : Connector → Prop
  | shopifyWoo merchantId flavor storeDomain accessToken =>
      (shopifyWoo merchantId flavor storeDomain accessToken).isLive = true ∧
        hasPrice checkout = true ∧ ∃ statusCode body, reply = .response statusCode body ∧
        (statusCode = 200 ∨ statusCode = 201) ∧ namesOrder body = true
  | genericRest merchantId baseUrl apiKey =>
      (genericRest merchantId baseUrl apiKey).isLive = true ∧
        ∃ statusCode body, reply = .response statusCode body ∧
        (statusCode = 200 ∨ statusCode = 201) ∧ isObject body = true
  | _ => False

theorem sent_reported {reply : HttpReply} {readable : Option Json → Bool} {taken : PushStatus}
    (htaken : PushStatus.Reported taken) :
    PushStatus.Reported (sent reply readable taken) ↔
      ∃ statusCode body, reply = .response statusCode body ∧
        (statusCode = 200 ∨ statusCode = 201) ∧ readable body = true := by
  cases reply with
  | raised message => exact ⟨nofun, nofun⟩
  | response statusCode body =>
      unfold sent
      simp only [HttpReply.response.injEq]
      split_ifs with hstatus hread
      · exact ⟨fun _ => ⟨_, _, ⟨rfl, rfl⟩, hstatus, hread⟩, fun _ => htaken⟩
      · refine ⟨nofun, ?_⟩
        rintro ⟨_, _, ⟨rfl, rfl⟩, -, h⟩
        exact absurd h hread
      · refine ⟨nofun, ?_⟩
        rintro ⟨_, _, ⟨rfl, rfl⟩, h, -⟩
        exact absurd h hstatus

/-- **What a status reports**: of all statuses only `created` and `received` come from a store,
and only from one that took the order. -/
theorem pushStatus_reported (c : Connector) (checkout : List (String × Json)) (reply : HttpReply) :
    PushStatus.Reported (c.pushStatus checkout reply) ↔ c.StoreTook checkout reply := by
  cases c with
  | shopifyWoo merchantId flavor storeDomain accessToken =>
      simp only [pushStatus, StoreTook]
      split_ifs with hlive hprice
      · rw [sent_reported (.inl rfl)]
        exact ⟨fun h => ⟨hlive, hprice, h⟩, fun h => h.2.2⟩
      · exact ⟨nofun, fun h => absurd h.2.1 hprice⟩
      · exact ⟨nofun, fun h => absurd h.1 hlive⟩
  | genericRest merchantId baseUrl apiKey =>
      simp only [pushStatus, StoreTook]
      split_ifs with hlive
      · rw [sent_reported (.inr rfl)]
        exact ⟨fun h => ⟨hlive, h⟩, fun h => h.2⟩
      · exact ⟨nofun, fun h => absurd h.1 hlive⟩
  | catalogFeed merchantId feedContent => exact ⟨nofun, False.elim⟩
  | internalSeed merchantId => exact ⟨nofun, False.elim⟩

end Connector

/-! ### The registry -/

/-- A `ConnectorRegistry`: the connector of each merchant. -/
structure Registry where
  connectors : String → Option Connector

namespace Registry

def defaultSeed : Connector := .internalSeed "mer_demo_seed"

/-- `ConnectorRegistry()`. -/
def new : Registry :=
  ⟨fun merchantId =>
    if merchantId = "mer_demo_seed" ∨ merchantId = "default" then some defaultSeed else none⟩

/-- `register`. -/
def register (registry : Registry) (merchantId : String) (connector : Connector) : Registry :=
  ⟨fun m => if m = merchantId then some connector else registry.connectors m⟩

/-- `get`. -/
def get (registry : Registry) (merchantId : String) : Connector :=
  match registry.connectors merchantId with
  | some connector =>
      if merchantId = "" then (registry.connectors "default").getD defaultSeed else connector
  | none => (registry.connectors "default").getD defaultSeed

end Registry
end Channels
end AgenticCommerce
