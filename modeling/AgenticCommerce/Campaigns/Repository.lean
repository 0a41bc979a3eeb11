/-
# Where campaigns are kept

`services/campaigns/repository.py`: campaigns are kept in the memory of the process, and in
Redis too when it is configured.  Redis holds a JSON document for each campaign, under a key
made of the merchant and the campaign, and a set of campaign identifiers for each merchant.  A
reader asks Redis first.  A Redis that is configured answers: its outages, which fall back to
the memory, are left out.

A document is kept as the value `json.dumps` writes and `json.loads` reads.
-/

import AgenticCommerce.Campaigns.Models
import AgenticCommerce.Relational.Ranking
import AgenticCommerce.Schema
import Mathlib.Data.String.Basic

namespace AgenticCommerce
namespace Campaigns

open Relational

/-! ### Documents -/

section Documents

variable (py : Rendering)

/-- `float | None` as JSON. -/
def floatOrNull : Option ℚ → Json
  | some q => .float (py.repr q)
  | none => .null

/-- One of the `products` of a document. -/
def serializeItem (p : CampaignProductItem) : Json :=
  .obj
    [("product_id", .str p.productId), ("offer_id", .str p.offerId), ("title", .str p.title),
      ("category", .str p.category), ("original_price_minor", .int p.originalPriceMinor),
      ("discount_pct", .float (py.repr p.discountPct)),
      ("promotional_price_minor", .int p.promotionalPriceMinor),
      ("available_inventory", .int p.availableInventory),
      ("margin_pct_preserved", floatOrNull py p.marginPctPreserved),
      ("cross_sell_pairings", .arr (p.crossSellPairings.map .str)),
      ("selection_rationale", .str p.selectionRationale)]

/-- The `policy_check` of a document. -/
def serializeCheck (check : PolicyCheckResult) : Json :=
  .obj
    [("decision", .str check.decision.value), ("passed_rules", .arr (check.passedRules.map .str)),
      ("violated_rules", .arr (check.violatedRules.map .str)), ("reason", .str check.reason)]

/-- `_serialize_campaign`. -/
def serializeCampaign (c : Campaign) : Json :=
  .obj
    [("campaign_id", .str c.campaignId), ("merchant_id", .str c.merchantId), ("title", .str c.title),
      ("goal", .str c.goal), ("target_category", .str c.targetCategory),
      ("status", .str c.status.value), ("max_discount_pct", .float (py.repr c.maxDiscountPct)),
      ("duration_days", .int c.durationDays), ("budget_minor", .int c.budgetMinor),
      ("products", .arr (c.products.map (serializeItem py))),
      ("policy_check", serializeCheck c.policyCheck),
      ("estimated_sales_lift_pct", .float (py.repr c.estimatedSalesLiftPct)),
      ("estimated_revenue_minor", .int c.estimatedRevenueMinor),
      ("estimated_discount_cost_minor", .int c.estimatedDiscountCostMinor),
      ("created_at", .str c.createdAt), ("approved_at", .ofOption c.approvedAt),
      ("activated_at", .ofOption c.activatedAt), ("rejection_reason", .ofOption c.rejectionReason)]

/-- The number a value is, whole or not. -/
def number? : Json → Option ℚ
  | .int n => some n
  | .float text => py.reading.float text
  | _ => none

/-- A number or `None`. -/
def numberOrNull? : Json → Option (Option ℚ)
  | .null => some none
  | value => (number? py value).map some

/-- `float(value)`. -/
def toFloat : Json → Option ℚ
  | .bool b => some (if b then 1 else 0)
  | .int n => some (nearest n)
  | .float text | .str text => py.reading.float text
  | .null | .arr _ | .obj _ => none

/-- `int(value)`. -/
def toInt : Json → Option ℤ
  | .bool b => some (if b then 1 else 0)
  | .int n => some n
  | .float text => (py.reading.float text).map truncate
  | .str text => py.reading.int text
  | .null | .arr _ | .obj _ => none

/-- A list of texts. -/
def texts? (value : Json) : Option (List String) := do
  let items ← value.arr?
  items.mapM Json.str?

/-- One of the `products` of a document, read back. -/
def deserializeItem (p : Json) : Option CampaignProductItem := do
  pure
    { productId := ← (← p.item? "product_id").str?
      offerId := ← (← p.item? "offer_id").str?
      title := ← (← p.item? "title").str?
      category := ← (← p.item? "category").str?
      originalPriceMinor := ← (← p.item? "original_price_minor").int?
      discountPct := ← number? py (← p.item? "discount_pct")
      promotionalPriceMinor := ← (← p.item? "promotional_price_minor").int?
      availableInventory := ← (← p.item? "available_inventory").int?
      marginPctPreserved := ← numberOrNull? py (← p.item? "margin_pct_preserved")
      crossSellPairings := ← texts? (← p.get "cross_sell_pairings" (.arr []))
      selectionRationale := ← (← p.item? "selection_rationale").str? }

/-- The `policy_check` of a document, read back. -/
def deserializeCheck (check : Json) : Option PolicyCheckResult := do
  pure
    { decision := ← PolicyDecision.ofString? (← (← check.get "decision" (.str "allow")).str?)
      passedRules := ← texts? (← check.get "passed_rules" (.arr []))
      violatedRules := ← texts? (← check.get "violated_rules" (.arr []))
      reason := ← (← check.get "reason" (.str "")).str? }

/-- `_deserialize_campaign`. -/
def deserializeCampaign (d : Json) : Option Campaign := do
  let items ← (← d.get "products" (.arr [])).arr?
  pure
    { products := ← items.mapM (deserializeItem py)
      policyCheck := ← deserializeCheck (← d.get "policy_check" (.obj []))
      campaignId := ← (← d.item? "campaign_id").str?
      merchantId := ← (← d.item? "merchant_id").str?
      title := ← (← d.item? "title").str?
      goal := ← (← d.item? "goal").str?
      targetCategory := ← (← d.item? "target_category").str?
      status := ← CampaignStatus.ofString? (← (← d.get "status" (.str "proposed")).str?)
      maxDiscountPct := ← toFloat py (← d.get "max_discount_pct" (.float (py.repr 10)))
      durationDays := ← toInt py (← d.get "duration_days" (.int 3))
      budgetMinor := ← toInt py (← d.get "budget_minor" (.int 5000000))
      estimatedSalesLiftPct := ← toFloat py
        (← d.get "estimated_sales_lift_pct" (.float (py.repr 15)))
      estimatedRevenueMinor := ← toInt py (← d.get "estimated_revenue_minor" (.int 0))
      estimatedDiscountCostMinor := ← toInt py (← d.get "estimated_discount_cost_minor" (.int 0))
      createdAt := ← (← d.get "created_at" (.str "")).str?
      approvedAt := ← (← d.get "approved_at" .null).strOrNull?
      activatedAt := ← (← d.get "activated_at" .null).strOrNull?
      rejectionReason := ← (← d.get "rejection_reason" .null).strOrNull? }

end Documents

/-! ### The stores -/

instance : Keyed Campaign := keyedBy Campaign.campaignId

instance : SimplyKeyed Campaign where
  key_eq_of_clash _ _ := of_decide_eq_true

/-- A string of Redis. -/
structure RedisString where
  key : String
  value : Json
  deriving DecidableEq

instance : Keyed RedisString := keyedBy RedisString.key

instance : SimplyKeyed RedisString where
  key_eq_of_clash _ _ := of_decide_eq_true

/-- A member of a set of Redis. -/
structure RedisMember where
  set : String
  member : String
  deriving DecidableEq

instance : Keyed RedisMember := keyedBy fun m => (m.set, m.member)

instance : SimplyKeyed RedisMember where
  key_eq_of_clash _ _ := of_decide_eq_true

/-- What Redis holds. -/
structure Redis where
  strings : Table RedisString := .empty
  members : Table RedisMember := .empty

namespace Redis

/-- `SET`. -/
def set (r : Redis) (key : String) (value : Json) : Redis :=
  { r with strings := r.strings.upsert { key, value } }

/-- `SADD`. -/
def sadd (r : Redis) (set member : String) : Redis :=
  { r with members := r.members.upsert { set, member } }

/-- `GET`. -/
def get (r : Redis) (key : String) : Option Json :=
  (r.strings.first fun s => s.key == key).map RedisString.value

/-- `SMEMBERS`. -/
def smembers (r : Redis) (set : String) : List String :=
  (r.members.select fun m => m.set == set).map RedisMember.member

end Redis

/-- `CampaignRepository`. -/
structure CampaignRepository where
  memory : Table Campaign := .empty
  redis : Option Redis := none

/-- The key of a campaign. -/
def redisKey (merchantId campaignId : String) : String :=
  "campaign:" ++ merchantId ++ ":" ++ campaignId

/-- The key of the set of a merchant's campaigns. -/
def indexKey (merchantId : String) : String := "campaigns:" ++ merchantId

namespace CampaignRepository

variable (py : Rendering)

/-- `save`. -/
def save (repo : CampaignRepository) (c : Campaign) : CampaignRepository :=
  { memory := repo.memory.upsert c
    redis := repo.redis.map fun r =>
      (r.set (redisKey c.merchantId c.campaignId) (serializeCampaign py c)).sadd
        (indexKey c.merchantId) c.campaignId }

/-- The campaign in memory, when it is the merchant's. -/
def remembered (repo : CampaignRepository) (merchantId campaignId : String) : Option Campaign :=
  (repo.memory.first fun c => c.campaignId == campaignId).filter fun c => c.merchantId == merchantId

/-- `get`. -/
def get (repo : CampaignRepository) (merchantId : Option String) (campaignId : String) :
    Option Campaign :=
  match merchantId with
  | none => none
  | some merchantId =>
      if merchantId = "" then none
      else
        let document := repo.redis.bind fun r => r.get (redisKey merchantId campaignId)
        (document.bind (deserializeCampaign py)).orElse fun _ => repo.remembered merchantId campaignId

/-- The merchant's campaigns in memory. -/
def recallAll (repo : CampaignRepository) (merchantId : String) : List Campaign :=
  repo.memory.select fun c => c.merchantId == merchantId

/-- `list_by_merchant`. -/
def listByMerchant (repo : CampaignRepository) (merchantId : String) : List Campaign :=
  match repo.redis with
  | none => repo.recallAll merchantId
  | some r =>
      let ids := r.smembers (indexKey merchantId)
      if ids = [] then repo.recallAll merchantId
      else ranked (fun c => OrderDual.toDual c.createdAt)
        (ids.filterMap (repo.get py (some merchantId)))

end CampaignRepository

end Campaigns
end AgenticCommerce
