/-
# The discount ceiling

The merchant's maximum discount is a column of the merchant's rules, in basis points.  A
proposal and an activation are checked against the ceiling that
`_merchant_discount_ceiling_pct` reads, which is the maximum unless the row cannot be read or
the maximum is zero: then it is ten percent (`ceiling_cases`).

A discount above the maximum gets through only where the ceiling is not the maximum
(`CeilingSettled`).
-/

import AgenticCommerce.Campaigns.Terminal

namespace AgenticCommerce

/-- The merchant's maximum discount, in percent. -/
def MerchantRules.maximumDiscountPct (rules : MerchantRules) : ℚ :=
  nearest (rules.maxDiscountBasisPoints / 100)

namespace Campaigns

open Relational

/-- The session reads the rules, and they allow some discount. -/
def ReadsMaximum (session : Option CatalogSession) (rules : MerchantRules) : Prop :=
  (∃ s ∈ session, s.rulesFail = false) ∧ rules.maxDiscountBasisPoints ≠ 0

/-- The discount is checked against the maximum, or the ceiling of ten percent makes no
difference: the maximum is no lower, or the discount asked for is within the maximum, or above
the ceiling too. -/
def DiscountSettled (session : Option CatalogSession) (rules : MerchantRules)
    (maxDiscountPct : ℚ) : Prop :=
  ReadsMaximum session rules ∨ 10 ≤ rules.maximumDiscountPct ∨
    maxDiscountPct ≤ rules.maximumDiscountPct ∨ 10 < maxDiscountPct

/-- The discount a call is about is settled, under the rules that the merchant has. -/
def CeilingSettled (py : Rendering) (repo : CampaignRepository) (event : Shop × CampaignCall) :
    Prop :=
  match event.2 with
  | .propose p _ _ => ∀ rules, event.1.rulesOf p.merchantId = some rules →
      DiscountSettled p.session rules p.maxDiscountPct
  | .activate campaignId merchantId session _ =>
      ∀ c, repo.get py merchantId campaignId = some c →
        ∀ rules, event.1.rulesOf c.merchantId = some rules →
          DiscountSettled session rules c.maxDiscountPct
  | .submit _ _ _ | .approve _ _ _ | .reject _ _ _ | .pause _ _ _ | .complete _ _ _ => True

/-- No item of a proposal that is not blocked, and neither a campaign that is activated nor an
item of it, is discounted above the maximum of the merchant. -/
def KeepsCeiling (py : Rendering) (repo : CampaignRepository) (event : Shop × CampaignCall) :
    Prop :=
  ∀ answer, event.2.run py event.1 repo = .ok answer →
    ∀ rules, event.1.rulesOf answer.1.merchantId = some rules →
      ((∃ p draw now, event.2 = .propose p draw now) → answer.1.policyCheck.decision ≠ .block →
        ∀ item ∈ answer.1.products, item.discountPct ≤ rules.maximumDiscountPct) ∧
      (event.2.IsActivation → answer.1.maxDiscountPct ≤ rules.maximumDiscountPct ∧
        ∀ item ∈ answer.1.products, item.discountPct ≤ rules.maximumDiscountPct)

variable {py : Rendering} {shop : Shop} {repo : CampaignRepository} {c : Campaign}
variable {session : Option CatalogSession} {merchantId : String} {rules : MerchantRules}

/-- **The ceiling** of a merchant with rules is the maximum, or ten percent when the rules are
not read or allow no discount. -/
theorem ceiling_cases (hrules : shop.rulesOf merchantId = some rules) :
    merchantDiscountCeilingPct shop session merchantId = rules.maximumDiscountPct ∨
      merchantDiscountCeilingPct shop session merchantId = 10 ∧ ¬ReadsMaximum session rules := by
  unfold merchantDiscountCeilingPct
  cases session with
  | none => exact .inr ⟨rfl, fun h => absurd h.1 (by simp)⟩
  | some session =>
      by_cases hfail : session.rulesFail = true
      · refine .inr ⟨if_pos hfail, ?_⟩
        rintro ⟨⟨s, hs, hread⟩, -⟩
        obtain rfl := Option.some.inj hs
        rw [hfail] at hread
        exact Bool.noConfusion hread
      · simp only [if_neg hfail, hrules]
        by_cases hzero : rules.maxDiscountBasisPoints ≠ 0
        · exact .inl (if_pos hzero)
        · exact .inr ⟨if_neg hzero, fun h => hzero h.2⟩

/-- What keeps to the ceiling and to the discount asked for keeps to the maximum. -/
theorem DiscountSettled.le {maxDiscountPct discount : ℚ}
    (h : DiscountSettled session rules maxDiscountPct)
    (hrules : shop.rulesOf merchantId = some rules)
    (hchecked : maxDiscountPct ≤ merchantDiscountCeilingPct shop session merchantId)
    (hceiling : discount ≤ merchantDiscountCeilingPct shop session merchantId)
    (hasked : discount ≤ maxDiscountPct) : discount ≤ rules.maximumDiscountPct := by
  have hcases : merchantDiscountCeilingPct shop session merchantId = rules.maximumDiscountPct ∨
      merchantDiscountCeilingPct shop session merchantId = 10 ∧ ¬ReadsMaximum session rules :=
    ceiling_cases hrules
  rcases hcases with hmaximum | ⟨hten, hunread⟩
  · rwa [hmaximum] at hceiling
  · rw [hten] at hceiling hchecked
    rcases h with hread | hhigh | hwithin | habove
    · exact absurd hread hunread
    · exact hceiling.trans hhigh
    · exact hasked.trans hwithin
    · exact absurd hchecked (not_le.2 habove)

/-! ### Items -/

theorem itemOf_discount {target : String} {maxDiscountPct ceiling : ℚ} {candidate : Product}
    {item : CampaignProductItem}
    (h : itemOf shop merchantId target maxDiscountPct ceiling candidate = some item) :
    item.discountPct ≤ maxDiscountPct ∧ item.discountPct ≤ ceiling := by
  unfold itemOf at h
  obtain ⟨offer, -, h⟩ := Option.bind_eq_some_iff.1 h
  obtain ⟨inventory, -, h⟩ := Option.bind_eq_some_iff.1 h
  simp only at h
  split at h
  · exact absurd h nofun
  · obtain rfl := Option.some.inj h
    exact ⟨(min_le_left _ _).trans (min_le_left _ _), min_le_right _ _⟩

/-- Every item of a proposal keeps to the discount asked for and to the ceiling. -/
theorem items_discount {p : Proposal} {target : String} {ceiling : ℚ} {item : CampaignProductItem}
    (h : item ∈ p.items py shop target ceiling) :
    item.discountPct ≤ p.maxDiscountPct ∧ item.discountPct ≤ ceiling := by
  unfold Proposal.items at h
  simp only at h
  split at h
  · obtain rfl := List.mem_singleton.1 h
    exact ⟨(min_le_left _ _).trans (min_le_left _ _), min_le_right _ _⟩
  · unfold Proposal.discovered at h
    cases hsession : p.session with
    | none =>
        rw [hsession] at h
        exact absurd h List.not_mem_nil
    | some session =>
        rw [hsession] at h
        obtain ⟨candidate, -, hitem⟩ := List.mem_filterMap.1 h
        exact itemOf_discount hitem

/-- No item of a campaign is discounted more than the campaign says. -/
theorem discounts_run (redisConfigured : Bool) (events : List (Shop × CampaignCall)) :
    ∀ c ∈ (run py redisConfigured events).contents py,
      ∀ item ∈ c.products, item.discountPct ≤ c.maxDiscountPct := by
  refine forall_run (fun {shop repo call c} heffect hheld => ?_) redisConfigured events
  rw [kept_products, kept_maxDiscountPct]
  cases heffect with
  | propose p draw now => exact fun item hitem => (items_discount hitem).1
  | change _ hfound _ h =>
      rw [h.same.2.2.1, h.same.2.2.2]
      exact hheld _ hfound

/-! ### Runs -/

/-- **One call**: where the discount is settled, it keeps to the maximum. -/
theorem keepsCeiling_of_settled (hkept : repo.Kept py)
    (hdiscounts : ∀ c ∈ repo.contents py, ∀ item ∈ c.products, item.discountPct ≤ c.maxDiscountPct)
    (event : Shop × CampaignCall) (h : CeilingSettled py repo event) :
    KeepsCeiling py repo event := by
  obtain ⟨shop, call⟩ := event
  rintro ⟨c, repo'⟩ hrun rules hrules
  obtain ⟨heffect, -⟩ := effect_of_ok hkept hrun
  simp only at heffect hrules h ⊢
  cases heffect with
  | propose p draw now =>
      refine ⟨fun _ hdecision item hitem => ?_, fun h => h.elim⟩
      obtain ⟨hchecked, -, -⟩ := not_block_iff.1 hdecision
      obtain ⟨hasked, hceiling⟩ := items_discount hitem
      exact (h rules hrules).le hrules hchecked hceiling hasked
  | change hfinds hfound _ hchanges =>
      cases hchanges with
      | submit | approve | reject | pause | complete => exact ⟨nofun, fun h => h.elim⟩
      | activate _ hpolicy =>
          refine ⟨nofun, fun _ => ?_⟩
          obtain ⟨hchecked, hitems, -⟩ := not_block_iff.1 hpolicy
          have hsettled := h _ hfinds rules hrules
          refine ⟨hsettled.le hrules hchecked hchecked le_rfl, fun item hitem => ?_⟩
          exact hsettled.le hrules hchecked (hitems item hitem).discount
            (hdiscounts _ hfound item hitem)

/-- **The discount ceiling**: in every run in which the discount of each proposal and activation
is settled, no item of a proposal that is not blocked and no campaign that becomes active is
discounted above the maximum that its merchant has at that moment. -/
theorem ceiling_kept (py : Rendering) (redisConfigured : Bool)
    (events : List (Shop × CampaignCall))
    (h : Always (step py) (CeilingSettled py) (start redisConfigured) events) :
    Always (step py) (KeepsCeiling py) (start redisConfigured) events := by
  refine always_iff.2 fun before event after hevents => ?_
  exact keepsCeiling_of_settled (run_kept py redisConfigured before)
    (discounts_run redisConfigured before) event (always_iff.1 h before event after hevents)

/-! ### Two merchants -/

/-- The rules of a merchant that discounts nothing by more than so many basis points. -/
def discountRules (maxDiscountBasisPoints : ℤ) : MerchantRules :=
  { merchantId := "mer_1", version := "1.0", maxTransactionMinor := 10000000,
    autoApprovalLimitMinor := 500000, maxDiscountBasisPoints }

/-- A shop with these rules only. -/
def discountShop (maxDiscountBasisPoints : ℤ) : Shop :=
  { db := { merchantRules :=
      ⟨[discountRules maxDiscountBasisPoints], List.pairwise_singleton _ _⟩ } }

theorem rulesOf_discountShop (maxDiscountBasisPoints : ℤ) :
    (discountShop maxDiscountBasisPoints).rulesOf "mer_1" =
      some (discountRules maxDiscountBasisPoints) := rfl

/-- A merchant with a maximum of five percent, and a proposal of that discount that is approved
and activated. -/
theorem ceiling_kept_five :
    let campaignId := newCampaignId 7
    let events : List (Shop × CampaignCall) :=
      [(discountShop 500, .propose { audioProposal with maxDiscountPct := 5 } 7 "t0"),
        (discountShop 500, .approve campaignId (some "mer_1") "t1"),
        (discountShop 500, .activate campaignId (some "mer_1") (some {}) "t2")]
    Always (step shortRendering) (KeepsCeiling shortRendering) (start false) events ∧
      ((run shortRendering false events).get shortRendering (some "mer_1") campaignId).map
        (fun c => (c.status, c.maxDiscountPct)) = some (.active, 5) := by
  intro campaignId events
  have hmerchant : ((run shortRendering false (events.take 2)).get shortRendering (some "mer_1")
      campaignId).map Campaign.merchantId = some "mer_1" := by
    decide +kernel
  have hread (rules : MerchantRules) (h : (discountShop 500).rulesOf "mer_1" = some rules) :
      ReadsMaximum (some {}) rules := by
    rw [rulesOf_discountShop] at h
    obtain rfl := Option.some.inj h
    exact ⟨⟨{}, rfl, rfl⟩, by decide⟩
  refine ⟨ceiling_kept shortRendering false events ⟨?_, trivial, ?_, trivial⟩, by decide +kernel⟩
  · exact fun rules hrules => .inl (hread rules hrules)
  · intro c hget rules hrules
    have hsame : c.merchantId = "mer_1" :=
      Option.some.inj ((congrArg (Option.map Campaign.merchantId) hget).symm.trans hmerchant)
    rw [hsame] at hrules
    exact .inl (hread rules hrules)

/-- A merchant with a maximum of zero: ten percent are proposed, approved and activated. -/
theorem zero_maximum_discounted :
    let campaignId := newCampaignId 7
    let events : List (Shop × CampaignCall) :=
      [(discountShop 0, .propose audioProposal 7 "t0"),
        (discountShop 0, .approve campaignId (some "mer_1") "t1"),
        (discountShop 0, .activate campaignId (some "mer_1") (some {}) "t2")]
    ((discountShop 0).rulesOf "mer_1").map MerchantRules.maximumDiscountPct = some 0 ∧
    ((run shortRendering false events).get shortRendering (some "mer_1") campaignId).map
      (fun c => (c.status, c.policyCheck.decision, c.maxDiscountPct,
        c.products.map CampaignProductItem.discountPct)) =
      some (.active, .requireApproval, 10, [10]) := by
  decide +kernel

end Campaigns
end AgenticCommerce
