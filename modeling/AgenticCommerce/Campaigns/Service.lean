/-
# The campaign service

`services/campaigns/service.py`.  A proposal picks products of the merchant's catalog, or a
sample entry where there are none, and is checked by the campaign policy; what is proposed is
then submitted, approved, activated, paused, completed or rejected.  Each of these finds the
campaign, tests its status by hand and saves a new record (`change`).

A call may have no session, and the reads of one that it has may fail: the ceiling then is the
default one, and the catalog is what was read so far (`CatalogSession`).
-/

import AgenticCommerce.Campaigns.Policy
import AgenticCommerce.Campaigns.Repository
import AgenticCommerce.Errors
import AgenticCommerce.Text.JsonText

namespace AgenticCommerce
namespace Campaigns

open Relational

structure CategoryPairing where
  merchantId : String
  sourceCategoryId : String
  targetCategoryId : String
  enabled : Bool := true
  deriving DecidableEq

/-- What a session of a campaign call would read. -/
structure Shop where
  db : Database := {}
  pairings : List CategoryPairing := []

/-- How far the reads of a session get. -/
structure CatalogSession where
  /-- The read of the merchant's rules raises. -/
  rulesFail : Bool := false
  /-- How many candidates are looked at before a query raises. -/
  readable : ℕ := 3
  deriving DecidableEq

/-- What is asked of `propose_campaign`. -/
structure Proposal where
  session : Option CatalogSession
  merchantId : String
  goalPrompt : String
  maxDiscountPct : ℚ := 10
  durationDays : ℤ := 3
  budgetMinor : ℤ := 5000000
  category : Option String := none
  deriving DecidableEq

/-- The rules row of a merchant. -/
def Shop.rulesOf (shop : Shop) (merchantId : String) : Option MerchantRules :=
  shop.db.merchantRules.first fun r => r.merchantId == merchantId

/-- `_merchant_discount_ceiling_pct`. -/
def merchantDiscountCeilingPct (shop : Shop) (session : Option CatalogSession)
    (merchantId : String) : ℚ :=
  match session with
  | none => 10
  | some session =>
      if session.rulesFail then 10
      else match shop.rulesOf merchantId with
        | none => 10
        | some rules =>
            if rules.maxDiscountBasisPoints ≠ 0 then nearest (rules.maxDiscountBasisPoints / 100)
            else 10

section Proposing

variable (py : Rendering)

/-- `x`, unless it is empty. -/
def given (x : Option String) : Option String := x.filter fun s => s != ""

/-- The target category: the one asked for, or the one the goal names first. -/
def targetCategory (goalPrompt : String) (category : Option String) : String :=
  let goal := py.lower goalPrompt
  let named := fun words => words.any fun word => occursIn word goal
  (given category).getD <|
    if named ["headphone", "audio", "sound"] then "audio"
    else if named ["phone", "mobile"] then "smartphone"
    else if named ["laptop", "pc", "computer"] then "laptops"
    else if named ["accessory", "keyboard", "mouse"] then "accessories"
    else "audio"

/-- `column.ilike("%text%")`, with the text taken literally. -/
def ilike (text column : String) : Bool := occursIn (py.lower text) (py.lower column)

/-- The products a proposal looks at. -/
def candidates (shop : Shop) (merchantId : String) (category : Option String) (target : String) :
    List Product :=
  (ranked Product.productId (shop.db.products.select fun p => p.merchantId == merchantId &&
    match given category with
    | some asked => p.categoryId == asked
    | none => ilike py target p.categoryId || ilike py target p.title)).take 3

/-- `int(orig_price * (1 - (discount / 100)))`. -/
def promotionalPrice (price : ℤ) (discount : ℚ) : ℤ :=
  truncate (nearest (nearest price * nearest (1 - nearest (discount / 100))))

/-- The item of a candidate, unless it has no active offer or nothing free. -/
def itemOf (shop : Shop) (merchantId target : String) (maxDiscountPct ceiling : ℚ)
    (candidate : Product) : Option CampaignProductItem := do
  let offer ← (ranked Offer.offerId (shop.db.offers.select fun o =>
    o.productId == candidate.productId && o.merchantId == merchantId && o.status == .active)).head?
  let inventory ← shop.db.inventory.first fun i => i.offerId == offer.offerId
  let available := max 0 (inventory.availableQuantity - inventory.reservedQuantity)
  if available ≤ 0 then none
  else
    let pairings := (shop.pairings.filter fun p => p.merchantId == merchantId &&
      p.sourceCategoryId == candidate.categoryId && p.enabled).map CategoryPairing.targetCategoryId
    let discount := min (min maxDiscountPct 10) ceiling
    pure
      { productId := candidate.productId, offerId := offer.offerId, title := candidate.title,
        category := candidate.categoryId, originalPriceMinor := offer.unitPriceMinor,
        discountPct := discount,
        promotionalPriceMinor := promotionalPrice offer.unitPriceMinor discount,
        availableInventory := available,
        crossSellPairings := if pairings = [] then ["accessories"] else pairings
        selectionRationale := "High catalog fit for '" ++ target ++ "', " ++ toString available ++
          " units in stock; margin unverified (no cost data modeled)." }

/-- A sample entry, for a catalog that has nothing. -/
structure SampleEntry where
  productId : String
  offerId : String
  title : String
  category : String
  price : ℤ
  /-- The most it is discounted. -/
  cap : ℚ
  stock : ℤ
  pairings : List String
  rationale : String

/-- The sample entry of a category. -/
def sampleEntry (target : String) : SampleEntry :=
  if target = "audio" then
    { productId := "prd_seed_aud_01", offerId := "off_seed_aud_01",
      title := "Sony WH-CH720N Wireless Noise Cancelling Headphones", category := "audio",
      price := 799000, cap := 10, stock := 24,
      pairings := ["Nothing Phone (2a)", "Dell XPS 15", "Keychron K2 Pro"],
      rationale := "Sample catalog entry (offline fallback): 24 units assumed in stock. Rating " ++
        "and margin are not verified — merchant review required." }
  else if target = "laptops" then
    { productId := "prd_seed_lap_02", offerId := "off_seed_lap_02",
      title := "Lenovo IdeaPad Slim 3 15 (Core i5, 16GB RAM, 512GB SSD)", category := "laptops",
      price := 5499000, cap := 8, stock := 12,
      pairings := ["USB-C 7-in-1 Hub", "Logitech MX Master 3S", "Laptop Sleeve"],
      rationale := "Sample catalog entry (offline fallback): targeted coding demographic, 12 " ++
        "units assumed in stock. Margin is not verified — merchant review required." }
  else if target = "smartphone" then
    { productId := "prd_seed_phn_01", offerId := "off_seed_phn_01",
      title := "Nothing Phone (2a) 5G (8GB RAM, 128GB Storage)", category := "smartphone",
      price := 2399900, cap := 15 / 2, stock := 18,
      pairings := ["Samsung 45W Charger", "Sony WH-CH720N", "Armor Case with Kickstand"],
      rationale := "Sample catalog entry (offline fallback): pairs naturally with fast charger " ++
        "and headphones for basket expansion. Margin is not verified — merchant review required." }
  else
    { productId := "prd_seed_acc_01", offerId := "off_seed_acc_01",
      title := "Logitech M330 Silent Plus Wireless Mouse", category := "accessories",
      price := 99900, cap := 12, stock := 45, pairings := ["UltraBook Pro 16", "Dell XPS 15"],
      rationale := "Sample catalog entry (offline fallback): 45 units assumed in stock, " ++
        "universal laptop attach item. Margin is not verified — merchant review required." }

/-- The item of a sample entry. -/
def SampleEntry.item (entry : SampleEntry) (maxDiscountPct ceiling : ℚ) : CampaignProductItem :=
  let discount := min (min maxDiscountPct entry.cap) ceiling
  { productId := entry.productId, offerId := entry.offerId, title := entry.title,
    category := entry.category, originalPriceMinor := entry.price, discountPct := discount,
    promotionalPriceMinor := promotionalPrice entry.price discount,
    availableInventory := entry.stock, crossSellPairings := entry.pairings,
    selectionRationale := entry.rationale }

/-- What a proposal's session finds in the catalog. -/
def Proposal.discovered (p : Proposal) (shop : Shop) (target : String) (ceiling : ℚ) :
    List CampaignProductItem :=
  p.session.elim [] fun session =>
    ((candidates py shop p.merchantId p.category target).take session.readable).filterMap
      (itemOf shop p.merchantId target p.maxDiscountPct ceiling)

/-- The items of a proposal. -/
def Proposal.items (p : Proposal) (shop : Shop) (target : String) (ceiling : ℚ) :
    List CampaignProductItem :=
  let found := p.discovered py shop target ceiling
  if found = [] then [(sampleEntry target).item p.maxDiscountPct ceiling] else found

/-- The campaign a proposal makes. -/
def Proposal.campaign (p : Proposal) (shop : Shop) (others : List Campaign)
    (campaignId now : String) : Campaign :=
  let target := targetCategory py p.goalPrompt p.category
  let ceiling := merchantDiscountCeilingPct shop p.session p.merchantId
  let items := p.items py shop target ceiling
  { campaignId, merchantId := p.merchantId
    title := "Weekend " ++ py.capitalize target ++ " Velocity Boost (" ++
      toString (truncate p.maxDiscountPct) ++ "% Off)"
    goal := p.goalPrompt, targetCategory := target, status := .proposed
    maxDiscountPct := p.maxDiscountPct, durationDays := p.durationDays
    budgetMinor := p.budgetMinor, products := items
    policyCheck := evaluateCampaign py.repr
      { maxDiscountPct := p.maxDiscountPct, durationDays := p.durationDays, products := items,
        merchantPolicyMaxDiscount := ceiling, activeCampaigns := others }
    estimatedSalesLiftPct := roundTenth (nearest (p.maxDiscountPct * nearest (22 / 10)))
    estimatedRevenueMinor :=
      (items.map fun i => i.promotionalPriceMinor * min i.availableInventory 8).sum
    estimatedDiscountCostMinor := (items.map fun i =>
      (i.originalPriceMinor - i.promotionalPriceMinor) * min i.availableInventory 8).sum
    createdAt := now }

end Proposing

/-- `new_id("cmp")`, of 64 drawn bits. -/
def newCampaignId (draw : Fin (2 ^ 64)) : String :=
  "cmp_" ++ String.ofList ((List.range 16).map fun i => Json.hexDigit (draw.val / 16 ^ i % 16))

/-! ### The calls -/

section Calls

variable (py : Rendering) (repo : CampaignRepository)

/-- `propose_campaign`. -/
def proposeCampaign (shop : Shop) (p : Proposal) (draw : Fin (2 ^ 64)) (now : String) :
    Except Failure (Campaign × CampaignRepository) :=
  let c := p.campaign py shop (repo.listByMerchant py p.merchantId) (newCampaignId draw) now
  .ok (c, repo.save py c)

/-- The shape of every other call: the campaign is found, the call is refused or not, and the
changed campaign is saved. -/
def change (campaignId : String) (merchantId : Option String) (refusal : Campaign → Option Failure)
    (changed : Campaign → Campaign) : Except Failure (Campaign × CampaignRepository) :=
  match repo.get py merchantId campaignId with
  | none => .error (.raised ("Campaign " ++ campaignId ++ " not found.") .notFound)
  | some c => match refusal c with
    | some e => .error e
    | none => .ok (changed c, repo.save py (changed c))

/-- A call that is refused in all but some statuses. -/
def unlessIn (allowed : List CampaignStatus) (before after : String) (c : Campaign) :
    Option Failure :=
  if c.status ∈ allowed then none
  else some (.raised (before ++ c.status.value ++ after) .illegalTransition)

/-- A verdict that blocks. -/
def unlessBlocked (check : PolicyCheckResult) : Option Failure :=
  if check.decision = .block then
    some (.raised ("Campaign violates policy constraints: " ++ ", ".intercalate check.violatedRules)
      .policyBlocked)
  else none

/-- `submit_for_review`. -/
def submitForReview (campaignId : String) (merchantId : Option String) (now : String) :
    Except Failure (Campaign × CampaignRepository) :=
  change py repo campaignId merchantId
    (unlessIn [.draft, .proposed] "Campaign cannot be submitted for review from status " ".")
    fun c => { c with
      status := .review, reviewedAt := some now, pausedAt := none, completedAt := none }

/-- `approve_campaign`. -/
def approveCampaign (campaignId : String) (merchantId : Option String) (now : String) :
    Except Failure (Campaign × CampaignRepository) :=
  change py repo campaignId merchantId
    (fun c => (unlessIn [.proposed, .review] "Campaign cannot be approved from status " "." c).or
      (unlessBlocked c.policyCheck))
    fun c => { c with
      status := .approved, approvedAt := some now, pausedAt := none, completedAt := none }

/-- The check of an activation, against the ceiling of the moment and the merchant's other
campaigns. -/
def recheck (shop : Shop) (session : Option CatalogSession) (c : Campaign) : PolicyCheckResult :=
  evaluateCampaign py.repr
    { maxDiscountPct := c.maxDiscountPct, durationDays := c.durationDays, products := c.products,
      merchantPolicyMaxDiscount := merchantDiscountCeilingPct shop session c.merchantId
      activeCampaigns := (repo.listByMerchant py c.merchantId).filter fun x =>
        x.campaignId != c.campaignId }

/-- `activate_campaign`. -/
def activateCampaign (shop : Shop) (campaignId : String) (merchantId : Option String)
    (session : Option CatalogSession) (now : String) :
    Except Failure (Campaign × CampaignRepository) :=
  change py repo campaignId merchantId
    (fun c => (unlessIn [.approved] "Campaign cannot be activated from status "
      "; it must be approved first." c).or (unlessBlocked (recheck py repo shop session c)))
    fun c => { c with
      status := .active, approvedAt := some ((given c.approvedAt).getD now)
      activatedAt := some now, reviewedAt := none, pausedAt := none, completedAt := none }

/-- `reject_campaign`. -/
def rejectCampaign (campaignId : String) (merchantId : Option String) (reason : String) :
    Except Failure (Campaign × CampaignRepository) :=
  change py repo campaignId merchantId (fun _ => none)
    fun c => { c with
      status := .rejected, rejectionReason := some reason, reviewedAt := none, pausedAt := none
      completedAt := none }

/-- `pause_campaign`. -/
def pauseCampaign (campaignId : String) (merchantId : Option String) (now : String) :
    Except Failure (Campaign × CampaignRepository) :=
  change py repo campaignId merchantId
    (unlessIn [.active] "Campaign cannot be paused from status "
      "; only ACTIVE campaigns can be paused.")
    fun c => { c with
      status := .paused, pausedAt := some now, reviewedAt := none, completedAt := none }

/-- `complete_campaign`. -/
def completeCampaign (campaignId : String) (merchantId : Option String) (now : String) :
    Except Failure (Campaign × CampaignRepository) :=
  change py repo campaignId merchantId
    (unlessIn [.active, .paused] "Campaign cannot be completed from status "
      "; only ACTIVE or PAUSED campaigns can be completed.")
    fun c => { c with
      status := .completed, completedAt := some now, reviewedAt := none, pausedAt := none }

end Calls

/-- A call of the service, with the clock's reading. -/
inductive CampaignCall where
  | propose (p : Proposal) (draw : Fin (2 ^ 64)) (now : String)
  | submit (campaignId : String) (merchantId : Option String) (now : String)
  | approve (campaignId : String) (merchantId : Option String) (now : String)
  | activate (campaignId : String) (merchantId : Option String) (session : Option CatalogSession)
      (now : String)
  | reject (campaignId : String) (merchantId : Option String) (reason : String)
  | pause (campaignId : String) (merchantId : Option String) (now : String)
  | complete (campaignId : String) (merchantId : Option String) (now : String)

/-- What a call answers, and what it leaves behind. -/
def CampaignCall.run (py : Rendering) (shop : Shop) (repo : CampaignRepository) :
    CampaignCall → Except Failure (Campaign × CampaignRepository)
  | propose p draw now => proposeCampaign py repo shop p draw now
  | submit campaignId merchantId now => submitForReview py repo campaignId merchantId now
  | approve campaignId merchantId now => approveCampaign py repo campaignId merchantId now
  | activate campaignId merchantId session now =>
      activateCampaign py repo shop campaignId merchantId session now
  | reject campaignId merchantId reason => rejectCampaign py repo campaignId merchantId reason
  | pause campaignId merchantId now => pauseCampaign py repo campaignId merchantId now
  | complete campaignId merchantId now => completeCampaign py repo campaignId merchantId now

/-- One call in a shop; a refused one leaves the campaigns as they are. -/
def step (py : Rendering) (repo : CampaignRepository) (event : Shop × CampaignCall) :
    CampaignRepository :=
  match event.2.run py event.1 repo with
  | .ok (_, repo') => repo'
  | .error _ => repo

end Campaigns
end AgenticCommerce
