/-
# The campaign policy

`CampaignPolicyEngine.evaluate_campaign` of `services/campaigns/policy.py`: a campaign is
blocked when some rule is violated, and asks for an approval otherwise.  `within_of_not_block`
is what the verdict says of the discounts, the stock and the overlap with other campaigns.
-/

import AgenticCommerce.Campaigns.Models

namespace AgenticCommerce
namespace Campaigns

/-- `needle in text`. -/
def occursIn (needle text : String) : Bool := text.toList.tails.any needle.toList.isPrefixOf

/-- `MIN_INVENTORY_THRESHOLD`. -/
def minInventoryThreshold : ℤ := 3

/-- `MIN_MARGIN_FLOOR_PCT`. -/
def minMarginFloorPct : ℚ := 15

/-- `MAX_DURATION_DAYS`. -/
def maxDurationDays : ℤ := 14

/-- What the engine looks at. -/
structure Evaluation where
  maxDiscountPct : ℚ
  durationDays : ℤ
  products : List CampaignProductItem
  merchantPolicyMaxDiscount : ℚ := 10
  activeCampaigns : List Campaign := []

/-- `active_skus`: the products of the campaigns that are active or approved. -/
def Evaluation.activeSkus (x : Evaluation) : List String :=
  (x.activeCampaigns.filter fun c => c.status == .active || c.status == .approved).flatMap
    fun c => c.products.map CampaignProductItem.productId

/-- What a rule writes when it is violated. -/
def violation (violated : Prop) [Decidable violated] (text : String) : List String :=
  if violated then [text] else []

/-- What a rule writes when it is not. -/
def passing (violated : Bool) (text : String) : List String := if violated then [] else [text]

section Rules

variable (repr : ℚ → String) (x : Evaluation)

/-- The violations of one item, in the order of the checks. -/
def itemViolations (p : CampaignProductItem) : List String :=
  violation (x.merchantPolicyMaxDiscount < p.discountPct)
    ("ITEM_DISCOUNT_EXCEEDED (" ++ p.productId ++ "): " ++ repr p.discountPct ++ "% > " ++
      repr x.merchantPolicyMaxDiscount ++ "%") ++
  violation (p.availableInventory < minInventoryThreshold)
    ("INSUFFICIENT_INVENTORY (" ++ p.productId ++ "): " ++ toString p.availableInventory ++
      " units < " ++ toString minInventoryThreshold) ++
  violation (∃ margin ∈ p.marginPctPreserved, margin < minMarginFloorPct)
    ("MARGIN_FLOOR_BREACH (" ++ p.productId ++ "): Preserved margin " ++
      (p.marginPctPreserved.elim "None" repr) ++ "% < " ++ repr minMarginFloorPct ++ "%") ++
  violation (p.productId ∈ x.activeSkus)
    ("CAMPAIGN_CONFLICT (" ++ p.productId ++ "): Already part of an active campaign")

/-- The items whose margin is not known. -/
def marginUnknown : List String :=
  (x.products.filter fun p => p.marginPctPreserved.isNone).map CampaignProductItem.productId

/-- The ceiling and the items, before the duration is checked. -/
def discountViolations : List String :=
  violation (x.merchantPolicyMaxDiscount < x.maxDiscountPct)
    ("DISCOUNT_CEILING_EXCEEDED: Requested " ++ repr x.maxDiscountPct ++
      "% exceeds merchant policy limit of " ++ repr x.merchantPolicyMaxDiscount ++ "%") ++
  x.products.flatMap (itemViolations repr x)

/-- The window of a campaign is violated. -/
def durationViolated : Bool := x.durationDays < 1 || maxDurationDays < x.durationDays

/-- `violated`. -/
def violatedRules : List String :=
  discountViolations repr x ++ violation (durationViolated x = true)
    ("INVALID_DURATION: Duration " ++ toString x.durationDays ++ "d must be between 1 and " ++
      toString maxDurationDays ++ " days")

/-- `passed`. -/
def passedRules : List String :=
  let violated := discountViolations repr x
  passing (decide (x.merchantPolicyMaxDiscount < x.maxDiscountPct))
    ("DISCOUNT_CEILING_SATISFIED: Max discount " ++ repr x.maxDiscountPct ++ "% <= " ++
      repr x.merchantPolicyMaxDiscount ++ "%") ++
  passing (violated.any (occursIn "ITEM_DISCOUNT_EXCEEDED"))
    "ITEM_DISCOUNTS_VALID: All items within limit" ++
  passing (violated.any (occursIn "INSUFFICIENT_INVENTORY"))
    "INVENTORY_ADEQUATE: All items meet minimum stock threshold" ++
  passing (violated.any (occursIn "MARGIN_FLOOR_BREACH") || !(marginUnknown x).isEmpty)
    "MARGIN_FLOORS_PRESERVED: All items preserve >= 15% unit margin" ++
  passing (marginUnknown x).isEmpty
    ("MARGIN_UNVERIFIABLE: No cost data modeled for " ++ ", ".intercalate (marginUnknown x) ++
      "; margin floor cannot be checked — merchant review required") ++
  passing (violated.any (occursIn "CAMPAIGN_CONFLICT"))
    "NO_CONFLICTS: No overlap with existing active campaigns" ++
  passing (durationViolated x)
    ("DURATION_VALID: " ++ toString x.durationDays ++ " days is within " ++
      toString maxDurationDays ++ "-day window")

/-- `evaluate_campaign`. -/
def evaluateCampaign : PolicyCheckResult :=
  let violated := violatedRules repr x
  { decision := if violated = [] then .requireApproval else .block
    passedRules := passedRules repr x
    violatedRules := violated
    reason :=
      if violated = [] then
        "Campaign passes all deterministic safety rules and requires merchant sign-off"
      else "Campaign violates " ++ toString violated.length ++ " safety policy rules: " ++
        "; ".intercalate violated }

end Rules

variable {repr : ℚ → String} {x : Evaluation} {p : CampaignProductItem}

theorem violation_eq_nil {violated : Prop} [Decidable violated] {text : String} :
    violation violated text = [] ↔ ¬violated := by
  unfold violation
  split
  · rename_i h
    exact iff_of_false (List.cons_ne_nil _ _) (not_not.2 h)
  · rename_i h
    exact iff_of_true rfl h

theorem mem_activeSkus {productId : String} : productId ∈ x.activeSkus ↔
    ∃ c ∈ x.activeCampaigns, (c.status = .active ∨ c.status = .approved) ∧ c.Has productId := by
  simp [Evaluation.activeSkus, Campaign.Has, and_assoc]

/-- What no violation of an item says. -/
structure ItemWithin (x : Evaluation) (p : CampaignProductItem) : Prop where
  discount : p.discountPct ≤ x.merchantPolicyMaxDiscount
  stock : minInventoryThreshold ≤ p.availableInventory
  margin : ∀ margin ∈ p.marginPctPreserved, minMarginFloorPct ≤ margin
  no_conflict : ∀ c ∈ x.activeCampaigns, c.status = .active ∨ c.status = .approved →
    ¬c.Has p.productId

theorem itemViolations_eq_nil : itemViolations repr x p = [] ↔ ItemWithin x p := by
  simp only [itemViolations, List.append_eq_nil_iff, violation_eq_nil, not_lt, mem_activeSkus,
    not_exists, not_and]
  constructor
  · rintro ⟨⟨⟨hdiscount, hstock⟩, hmargin⟩, hconflict⟩
    exact ⟨hdiscount, hstock, hmargin, hconflict⟩
  · intro h
    exact ⟨⟨⟨h.discount, h.stock⟩, h.margin⟩, h.no_conflict⟩

/-- **What is not blocked** keeps to the ceiling as a whole and item by item, has its items in
stock and in no other campaign that is active or approved, and lasts as long as it may. -/
theorem not_block_iff : (evaluateCampaign repr x).decision ≠ .block ↔
    x.maxDiscountPct ≤ x.merchantPolicyMaxDiscount ∧ (∀ p ∈ x.products, ItemWithin x p) ∧
      1 ≤ x.durationDays ∧ x.durationDays ≤ maxDurationDays := by
  have hduration : ¬durationViolated x = true ↔
      1 ≤ x.durationDays ∧ x.durationDays ≤ maxDurationDays := by
    simp [durationViolated]
  have hviolated : (evaluateCampaign repr x).decision ≠ .block ↔ violatedRules repr x = [] := by
    by_cases h : violatedRules repr x = []
    · simp [evaluateCampaign, h]
    · simp [evaluateCampaign, h]
  rw [hviolated, violatedRules, discountViolations, List.append_eq_nil_iff,
    List.append_eq_nil_iff, violation_eq_nil, violation_eq_nil, hduration, not_lt,
    List.flatMap_eq_nil_iff, and_assoc]
  exact and_congr_right fun _ => and_congr_left fun _ =>
    forall₂_congr fun _ _ => itemViolations_eq_nil

end Campaigns
end AgenticCommerce
