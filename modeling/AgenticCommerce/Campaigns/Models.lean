/-
# Campaigns

The records of `services/campaigns/models.py`.  A percentage is a float, a time the text that
`isoformat` writes.
-/

import AgenticCommerce.Relational.Upserts
import AgenticCommerce.Text.Floats

namespace AgenticCommerce
namespace Campaigns

/-- `CampaignStatus`. -/
inductive CampaignStatus where
  | draft | proposed | review | approved | rejected | active | paused | completed | cancelled
  deriving DecidableEq, Repr

namespace CampaignStatus

def value : CampaignStatus → String
  | draft => "draft"
  | proposed => "proposed"
  | review => "review"
  | approved => "approved"
  | rejected => "rejected"
  | active => "active"
  | paused => "paused"
  | completed => "completed"
  | cancelled => "cancelled"

/-- `CampaignStatus(value)`. -/
def ofString? (s : String) : Option CampaignStatus :=
  [draft, proposed, review, approved, rejected, active, paused, completed, cancelled].find?
    fun status => status.value == s

theorem ofString?_value (status : CampaignStatus) : ofString? status.value = some status := by
  cases status <;> decide

end CampaignStatus

/-- `PolicyDecision`. -/
inductive PolicyDecision where
  | allow | requireApproval | block
  deriving DecidableEq, Repr

namespace PolicyDecision

def value : PolicyDecision → String
  | allow => "allow"
  | requireApproval => "require_approval"
  | block => "block"

/-- `PolicyDecision(value)`. -/
def ofString? (s : String) : Option PolicyDecision :=
  [allow, requireApproval, block].find? fun decision => decision.value == s

theorem ofString?_value (decision : PolicyDecision) : ofString? decision.value = some decision := by
  cases decision <;> decide

end PolicyDecision

/-- `PolicyCheckResult`. -/
structure PolicyCheckResult where
  decision : PolicyDecision
  passedRules : List String
  violatedRules : List String
  reason : String
  deriving DecidableEq

/-- `CampaignProductItem`. -/
structure CampaignProductItem where
  productId : String
  offerId : String
  title : String
  category : String
  originalPriceMinor : ℤ
  discountPct : ℚ
  promotionalPriceMinor : ℤ
  availableInventory : ℤ
  crossSellPairings : List String
  selectionRationale : String
  /-- `None` when it is not known. -/
  marginPctPreserved : Option ℚ := none
  deriving DecidableEq

/-- `Campaign`. -/
structure Campaign where
  campaignId : String
  merchantId : String
  title : String
  goal : String
  targetCategory : String
  status : CampaignStatus
  maxDiscountPct : ℚ
  durationDays : ℤ
  budgetMinor : ℤ
  products : List CampaignProductItem
  policyCheck : PolicyCheckResult
  estimatedSalesLiftPct : ℚ
  estimatedRevenueMinor : ℤ
  estimatedDiscountCostMinor : ℤ
  createdAt : String
  reviewedAt : Option String := none
  approvedAt : Option String := none
  activatedAt : Option String := none
  pausedAt : Option String := none
  completedAt : Option String := none
  rejectionReason : Option String := none
  deriving DecidableEq

/-- The campaign has the product. -/
def Campaign.Has (c : Campaign) (productId : String) : Prop :=
  ∃ item ∈ c.products, item.productId = productId

end Campaigns
end AgenticCommerce
