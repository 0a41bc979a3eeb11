/-
# One active campaign per product

Of the active campaigns of a merchant no two have a product in common.  Overlap is looked for
when a campaign is proposed and again when it is activated; the second check, against every
other campaign of the merchant at that moment, is the one that carries the invariant
(`no_overlap_of_active`): a proposal that was clear when it was made is refused if another
campaign has taken its product since.

A campaign becomes active by an activation only, and is then as its approval left it
(`Approved`).
-/

import AgenticCommerce.Campaigns.Steps

namespace AgenticCommerce
namespace Campaigns

open Relational

/-- No two active campaigns of one merchant have a product in common. -/
def Exclusive (campaigns : List Campaign) : Prop :=
  ∀ c ∈ campaigns, ∀ c' ∈ campaigns, c.merchantId = c'.merchantId →
    c.status = .active → c'.status = .active →
      ∀ productId, c.Has productId → c'.Has productId → c = c'

/-- A run of calls, each in a shop of its own moment. -/
def run (py : Rendering) (redisConfigured : Bool) (events : List (Shop × CampaignCall)) :
    CampaignRepository :=
  events.foldl (step py) (start redisConfigured)

variable {py : Rendering} {shop : Shop} {repo : CampaignRepository} {c c' : Campaign}
variable {call : CampaignCall}

theorem run_concat (py : Rendering) (redisConfigured : Bool) (events : List (Shop × CampaignCall))
    (event : Shop × CampaignCall) : run py redisConfigured (events ++ [event]) =
      step py (run py redisConfigured events) event := by
  rw [run, List.foldl_append]
  rfl

theorem run_kept (py : Rendering) (redisConfigured : Bool) (events : List (Shop × CampaignCall)) :
    (run py redisConfigured events).Kept py :=
  @foldl_invariant _ _ (step py) (CampaignRepository.Kept py)
    (fun _ event hkept => step_kept hkept event) _ (start_kept redisConfigured) events

@[simp] theorem kept_status : (repo.kept c).status = c.status := by
  unfold CampaignRepository.kept
  split
  · rfl
  · rfl

@[simp] theorem kept_merchantId : (repo.kept c).merchantId = c.merchantId := by
  unfold CampaignRepository.kept
  split
  · rfl
  · rfl

@[simp] theorem kept_campaignId : (repo.kept c).campaignId = c.campaignId := by
  unfold CampaignRepository.kept
  split
  · rfl
  · rfl

@[simp] theorem kept_products : (repo.kept c).products = c.products := by
  unfold CampaignRepository.kept
  split
  · rfl
  · rfl

@[simp] theorem kept_maxDiscountPct : (repo.kept c).maxDiscountPct = c.maxDiscountPct := by
  unfold CampaignRepository.kept
  split
  · rfl
  · rfl

@[simp] theorem kept_rejectionReason : (repo.kept c).rejectionReason = c.rejectionReason := by
  unfold CampaignRepository.kept
  split
  · rfl
  · rfl

/-- **What every effect has**, given that what is held has it, is true of all that is ever
held. -/
theorem forall_run {P : Campaign → Prop}
    (h : ∀ {shop : Shop} {repo : CampaignRepository} {call : CampaignCall} {c : Campaign},
      Effect py shop repo call c → (∀ x ∈ repo.contents py, P x) → P (repo.kept c))
    (redisConfigured : Bool) (events : List (Shop × CampaignCall)) :
    ∀ c ∈ (run py redisConfigured events).contents py, P c := by
  induction events using List.reverseRecOn with
  | nil =>
      intro c hc
      rw [run, List.foldl_nil, contents_start] at hc
      exact absurd hc List.not_mem_nil
  | append_singleton events event ih =>
      have hkept := run_kept py redisConfigured events
      rw [run_concat]
      rcases step_cases hkept event with hstep | ⟨saved, heffect, -, hstep⟩
      · rwa [hstep]
      · rw [hstep]
        intro c hc
        rcases hkept.mem_of_save hc (heffect.plain hkept) with rfl | ⟨hc, -⟩
        · exact h heffect ih
        · exact ih c hc

/-! ### Exclusivity -/

/-- **An activated campaign** has no product of another active campaign of its merchant. -/
theorem no_overlap_of_active (hkept : repo.Kept py) (heffect : Effect py shop repo call c)
    (hactive : c.status = .active) (hc' : c' ∈ repo.contents py)
    (hmerchant : c'.merchantId = c.merchantId)
    (hne : ¬(c'.merchantId = c.merchantId ∧ c'.campaignId = c.campaignId))
    (hactive' : c'.status = .active) {productId : String} (hhas : c.Has productId) :
    ¬c'.Has productId := by
  cases heffect with
  | propose => exact absurd hactive nofun
  | @change _ found _ _ _ hnamed h =>
      cases h with
      | submit | approve | reject | pause | complete => exact absurd hactive nofun
      | activate hstatus hpolicy =>
          obtain ⟨item, hitem, rfl⟩ := hhas
          have hother : c' ∈ (repo.listByMerchant py found.merchantId).filter fun x =>
              x.campaignId != found.campaignId := by
            refine List.mem_filter.2 ⟨?_, bne_iff_ne.2 fun hid => hne ⟨hmerchant, hid⟩⟩
            have hmerchant : c'.merchantId = found.merchantId := hmerchant
            rw [← hmerchant]
            exact hkept.list_of_mem hc' (hmerchant.trans_ne hnamed)
          have hwithin := (not_block_iff.1 hpolicy).2.1 item hitem
          exact hwithin.no_conflict c' hother (.inl hactive')

/-- **The step**: what is saved overlaps with nothing that stays. -/
theorem exclusive_step (hkept : repo.Kept py) (h : Exclusive (repo.contents py))
    (event : Shop × CampaignCall) : Exclusive ((step py repo event).contents py) := by
  rcases step_cases hkept event with hstep | ⟨saved, heffect, -, hstep⟩
  · rwa [hstep]
  rw [hstep]
  have hplain := heffect.plain hkept
  intro x hx y hy hmerchant hxactive hyactive productId hxhas hyhas
  have hnew {z : Campaign} (hz : z ∈ repo.contents py)
      (hne : ¬(z.merchantId = saved.merchantId ∧ z.campaignId = saved.campaignId))
      (hsame : z.merchantId = saved.merchantId) (hzactive : z.status = .active)
      (hactive : (repo.kept saved).status = .active) (hhas : (repo.kept saved).Has productId)
      (hzhas : z.Has productId) : False := by
    rw [kept_status] at hactive
    rw [Campaign.Has, kept_products] at hhas
    exact no_overlap_of_active hkept heffect hactive hz hsame hne hzactive hhas hzhas
  rcases hkept.mem_of_save hx hplain with rfl | ⟨hx, hxne⟩
  · rcases hkept.mem_of_save hy hplain with rfl | ⟨hy, hyne⟩
    · rfl
    · rw [kept_merchantId] at hmerchant
      exact (hnew hy hyne hmerchant.symm hyactive hxactive hxhas hyhas).elim
  · rcases hkept.mem_of_save hy hplain with rfl | ⟨hy, hyne⟩
    · rw [kept_merchantId] at hmerchant
      exact (hnew hx hxne hmerchant hxactive hyactive hyhas hxhas).elim
    · exact h x hx y hy hmerchant hxactive hyactive productId hxhas hyhas

theorem exclusive_run (redisConfigured : Bool) (events : List (Shop × CampaignCall)) :
    Exclusive ((run py redisConfigured events).contents py) := by
  induction events using List.reverseRecOn with
  | nil =>
      intro c hc
      rw [run, List.foldl_nil, contents_start] at hc
      exact absurd hc List.not_mem_nil
  | append_singleton events event ih =>
      rw [run_concat]
      exact exclusive_step (run_kept py redisConfigured events) ih event

/-! ### Approval -/

/-- The call is an approval. -/
def CampaignCall.IsApproval : CampaignCall → Prop
  | approve _ _ _ => True
  | propose _ _ _ | submit _ _ _ | activate _ _ _ _ | reject _ _ _ | pause _ _ _
  | complete _ _ _ => False

/-- The call is an activation. -/
def CampaignCall.IsActivation : CampaignCall → Prop
  | activate _ _ _ _ => True
  | propose _ _ _ | submit _ _ _ | approve _ _ _ | reject _ _ _ | pause _ _ _
  | complete _ _ _ => False

/-- An active campaign is listed under the merchant and the identifier. -/
def ActiveIn (py : Rendering) (repo : CampaignRepository) (merchantId campaignId : String) : Prop :=
  ∃ c ∈ repo.listByMerchant py merchantId, c.campaignId = campaignId ∧ c.status = .active

/-- The campaign is approved, by the last call of the run that changed it: an approval answered
with it, and it is listed unchanged ever since. -/
def Approved (py : Rendering) (redisConfigured : Bool) (events : List (Shop × CampaignCall))
    (merchantId campaignId : String) : Prop :=
  ∃ earlier event later c, events = earlier ++ event :: later ∧ event.2.IsApproval ∧
    (∃ answer, event.2.run py event.1 (run py redisConfigured earlier) = .ok answer ∧
      answer.1.merchantId = merchantId ∧ answer.1.campaignId = campaignId) ∧
    c.campaignId = campaignId ∧ c.status = .approved ∧
    ∀ l, l <+: later →
      c ∈ (run py redisConfigured (earlier ++ event :: l)).listByMerchant py merchantId

theorem Effect.named (h : Effect py shop repo call c) (hstatus : c.status ≠ .proposed) :
    c.merchantId ≠ "" := by
  cases h with
  | propose => exact absurd rfl hstatus
  | change _ _ hnamed h => rwa [h.same.1]

/-- Past its proposal, a campaign has a named merchant. -/
theorem named_run (redisConfigured : Bool) (events : List (Shop × CampaignCall)) :
    ∀ c ∈ (run py redisConfigured events).contents py, c.status ≠ .proposed → c.merchantId ≠ "" := by
  refine forall_run (fun heffect _ hstatus => ?_) redisConfigured events
  rw [kept_merchantId]
  rw [kept_status] at hstatus
  exact heffect.named hstatus

/-- What is saved as approved is saved by an approval. -/
theorem Effect.isApproval (h : Effect py shop repo call c) (hstatus : c.status = .approved) :
    call.IsApproval := by
  cases h with
  | propose => exact absurd hstatus nofun
  | change _ _ _ h =>
      cases h with
      | approve => exact trivial
      | submit | activate | reject | pause | complete => exact absurd hstatus nofun

/-- **An approved campaign** is as its approval left it, by induction on the run: the last call
approved it, or left it alone. -/
theorem approved_run (redisConfigured : Bool) (events : List (Shop × CampaignCall))
    (hc : c ∈ (run py redisConfigured events).contents py) (hstatus : c.status = .approved) :
    ∃ earlier event later, events = earlier ++ event :: later ∧ event.2.IsApproval ∧
      (∃ answer, event.2.run py event.1 (run py redisConfigured earlier) = .ok answer ∧
        answer.1.merchantId = c.merchantId ∧ answer.1.campaignId = c.campaignId) ∧
      ∀ l, l <+: later → c ∈ (run py redisConfigured (earlier ++ event :: l)).contents py := by
  induction events using List.reverseRecOn with
  | nil =>
      rw [run, List.foldl_nil, contents_start] at hc
      exact absurd hc List.not_mem_nil
  | append_singleton events last ih =>
      have hkept := run_kept py redisConfigured events
      have hend := hc
      rw [run_concat] at hc
      have hstays (hbefore : c ∈ (run py redisConfigured events).contents py) :
          ∃ earlier event later, events ++ [last] = earlier ++ event :: later ∧
            event.2.IsApproval ∧
            (∃ answer, event.2.run py event.1 (run py redisConfigured earlier) = .ok answer ∧
              answer.1.merchantId = c.merchantId ∧ answer.1.campaignId = c.campaignId) ∧
            ∀ l, l <+: later →
              c ∈ (run py redisConfigured (earlier ++ event :: l)).contents py := by
        obtain ⟨earlier, event, later, rfl, happroval, hanswer, hlater⟩ := ih hbefore
        refine ⟨earlier, event, later ++ [last], ?_, happroval, hanswer, fun l hl => ?_⟩
        · rw [List.append_assoc, List.cons_append]
        · rcases List.prefix_concat_iff.1 hl with rfl | hl
          · rw [List.append_assoc, List.cons_append] at hend
            exact hend
          · exact hlater l hl
      rcases step_cases hkept last with hstep | ⟨saved, heffect, hrun, hstep⟩
      · rw [hstep] at hc
        exact hstays hc
      · rw [hstep] at hc
        rcases hkept.mem_of_save hc (heffect.plain hkept) with rfl | ⟨hc, -⟩
        · rw [kept_status] at hstatus
          refine ⟨events, last, [], rfl, heffect.isApproval hstatus, ⟨_, hrun, ?_, ?_⟩, ?_⟩
          · rw [kept_merchantId]
          · rw [kept_campaignId]
          · intro l hl
            rw [List.prefix_nil.1 hl]
            exact hend
        · exact hstays hc

/-- An activation finds its campaign approved. -/
theorem Effect.activated (h : Effect py shop repo call c) (hstatus : c.status = .active) :
    call.IsActivation ∧ ∃ found ∈ repo.contents py, found.status = .approved ∧
      found.merchantId = c.merchantId ∧ found.campaignId = c.campaignId := by
  cases h with
  | propose => exact absurd hstatus nofun
  | change _ hfound _ h =>
      cases h with
      | activate happroved => exact ⟨trivial, _, hfound, happroved, rfl, rfl⟩
      | submit | approve | reject | pause | complete => exact absurd hstatus nofun

/-- **Campaign exclusivity**: after every run the active campaigns of a merchant have no product
in common; and whenever a campaign becomes active, an activation makes it so, of a campaign that
is as its approval left it. -/
theorem campaigns_exclusive (py : Rendering) (redisConfigured : Bool)
    (events : List (Shop × CampaignCall)) :
    (∀ merchantId, Exclusive ((run py redisConfigured events).listByMerchant py merchantId)) ∧
    ∀ before event after, events = before ++ event :: after → ∀ merchantId campaignId,
      ¬ActiveIn py (run py redisConfigured before) merchantId campaignId →
      ActiveIn py (run py redisConfigured (before ++ [event])) merchantId campaignId →
        event.2.IsActivation ∧ Approved py redisConfigured before merchantId campaignId := by
  constructor
  · intro merchantId c hc c' hc'
    have hkept := run_kept py redisConfigured events
    exact exclusive_run redisConfigured events c (hkept.mem_of_list hc).1 c'
      (hkept.mem_of_list hc').1
  · rintro before event after - merchantId campaignId hbefore ⟨c, hc, rfl, hactive⟩
    have hkept := run_kept py redisConfigured before
    obtain ⟨hmem, rfl⟩ := (run_kept py redisConfigured (before ++ [event])).mem_of_list hc
    have hnamed := named_run redisConfigured _ c hmem (by rw [hactive]; nofun)
    have hnot : c ∉ (run py redisConfigured before).contents py := fun hold =>
      hbefore ⟨c, hkept.list_of_mem hold hnamed, rfl, hactive⟩
    rw [run_concat] at hmem
    rcases step_cases hkept event with hstep | ⟨saved, heffect, -, hstep⟩
    · rw [hstep] at hmem
      exact absurd hmem hnot
    · rw [hstep] at hmem
      rcases hkept.mem_of_save hmem (heffect.plain hkept) with rfl | ⟨hold, -⟩
      · rw [kept_status] at hactive
        obtain ⟨hactivation, found, hfound, happroved, hmerchant, hid⟩ := heffect.activated hactive
        refine ⟨hactivation, ?_⟩
        rw [kept_merchantId] at hnamed ⊢
        rw [kept_campaignId]
        obtain ⟨earlier, approval, later, hbefore, hisApproval, ⟨answer, hanswer, hm, hi⟩, hlater⟩ :=
          approved_run redisConfigured before hfound happroved
        refine ⟨earlier, approval, later, found, hbefore, hisApproval,
          ⟨answer, hanswer, hm.trans hmerchant, hi.trans hid⟩, hid, happroved, fun l hl => ?_⟩
        rw [← hmerchant]
        exact (run_kept py redisConfigured _).list_of_mem (hlater l hl) (hmerchant.trans_ne hnamed)
      · exact absurd hold hnot

end Campaigns
end AgenticCommerce
