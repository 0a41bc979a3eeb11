/-
# What a campaign call does

A call that goes through saves one campaign (`Effect`): a new proposal, or a campaign that was
held, changed as the call changes it (`Changes`).  A run starts with nothing held, with a Redis
or without one (`start`).
-/

import AgenticCommerce.Campaigns.Contents
import AgenticCommerce.Campaigns.Service
import AgenticCommerce.Relational.Machines

namespace AgenticCommerce
namespace Campaigns

open Relational

section

variable (py : Rendering) (shop : Shop) (repo : CampaignRepository)

/-- How a call changes a campaign, and when it may. -/
inductive Changes : CampaignCall → Campaign → Campaign → Prop
  | submit {campaignId merchantId now c} (h : c.status = .draft ∨ c.status = .proposed) :
      Changes (.submit campaignId merchantId now) c { c with
        status := .review, reviewedAt := some now, pausedAt := none, completedAt := none }
  | approve {campaignId merchantId now c} (h : c.status = .proposed ∨ c.status = .review)
      (hpolicy : c.policyCheck.decision ≠ .block) :
      Changes (.approve campaignId merchantId now) c { c with
        status := .approved, approvedAt := some now, pausedAt := none, completedAt := none }
  | activate {campaignId merchantId session now c} (h : c.status = .approved)
      (hpolicy : (recheck py repo shop session c).decision ≠ .block) :
      Changes (.activate campaignId merchantId session now) c { c with
        status := .active, approvedAt := some ((given c.approvedAt).getD now),
        activatedAt := some now, reviewedAt := none, pausedAt := none, completedAt := none }
  | reject {campaignId merchantId reason c} :
      Changes (.reject campaignId merchantId reason) c { c with
        status := .rejected, rejectionReason := some reason, reviewedAt := none, pausedAt := none,
        completedAt := none }
  | pause {campaignId merchantId now c} (h : c.status = .active) :
      Changes (.pause campaignId merchantId now) c { c with
        status := .paused, pausedAt := some now, reviewedAt := none, completedAt := none }
  | complete {campaignId merchantId now c} (h : c.status = .active ∨ c.status = .paused) :
      Changes (.complete campaignId merchantId now) c { c with
        status := .completed, completedAt := some now, reviewedAt := none, pausedAt := none }

/-- The campaign a call is about. -/
def CampaignCall.finds : CampaignCall → Option Campaign
  | .propose _ _ _ => none
  | .submit campaignId merchantId _ | .approve campaignId merchantId _
  | .activate campaignId merchantId _ _ | .reject campaignId merchantId _
  | .pause campaignId merchantId _ | .complete campaignId merchantId _ =>
      repo.get py merchantId campaignId

/-- What a call saves. -/
inductive Effect : CampaignCall → Campaign → Prop
  | propose (p : Proposal) (draw : Fin (2 ^ 64)) (now : String) :
      Effect (.propose p draw now)
        (p.campaign py shop (repo.listByMerchant py p.merchantId) (newCampaignId draw) now)
  | change {call : CampaignCall} {c c' : Campaign} (hfinds : call.finds py repo = some c)
      (hc : c ∈ repo.contents py) (hmerchant : c.merchantId ≠ "")
      (h : Changes py shop repo call c c') : Effect call c'

end

variable {py : Rendering} {shop : Shop} {repo repo' : CampaignRepository} {c c' : Campaign}
variable {call : CampaignCall} {merchantId : Option String} {campaignId : String}

/-- What every change keeps. -/
theorem Changes.same (h : Changes py shop repo call c c') :
    c'.merchantId = c.merchantId ∧ c'.campaignId = c.campaignId ∧ c'.products = c.products ∧
      c'.maxDiscountPct = c.maxDiscountPct := by
  cases h with
  | submit | approve | activate | reject | pause | complete => exact ⟨rfl, rfl, rfl, rfl⟩

/-! ### Calls that go through -/

theorem change_eq_ok {refusal : Campaign → Option Failure} {changed : Campaign → Campaign}
    (h : change py repo campaignId merchantId refusal changed = .ok (c', repo')) :
    ∃ c, repo.get py merchantId campaignId = some c ∧ refusal c = none ∧ c' = changed c ∧
      repo' = repo.save py c' := by
  unfold change at h
  split at h
  · exact absurd h nofun
  · rename_i c hget
    split at h
    · exact absurd h nofun
    · rename_i hrefusal
      obtain ⟨rfl, rfl⟩ := Prod.mk.inj (Except.ok.inj h)
      exact ⟨c, hget, hrefusal, rfl, rfl⟩

theorem unlessIn_eq_none {allowed : List CampaignStatus} {before after : String} :
    unlessIn allowed before after c = none ↔ c.status ∈ allowed := by
  unfold unlessIn
  split
  · rename_i h
    exact iff_of_true rfl h
  · rename_i h
    exact iff_of_false nofun h

theorem unlessBlocked_eq_none {check : PolicyCheckResult} :
    unlessBlocked check = none ↔ check.decision ≠ .block := by
  unfold unlessBlocked
  split
  · rename_i h
    exact iff_of_false nofun (not_not.2 h)
  · rename_i h
    exact iff_of_true rfl h

/-- A campaign that is found is held, and has a named merchant. -/
theorem found (hkept : repo.Kept py) (h : repo.get py merchantId campaignId = some c) :
    c ∈ repo.contents py ∧ c.merchantId ≠ "" := by
  cases merchantId with
  | none => exact absurd h nofun
  | some merchantId =>
      by_cases hnamed : merchantId = ""
      · rw [hnamed, CampaignRepository.get_empty] at h
        exact absurd h nofun
      · obtain ⟨hmem, hkey⟩ := hkept.of_get h
        exact ⟨hmem, merchant_ne_of_redisKey (hkept.plain c hmem) hnamed hkey⟩

/-- **What a call does** that goes through: it saves its effect. -/
theorem effect_of_ok (hkept : repo.Kept py) (h : call.run py shop repo = .ok (c', repo')) :
    Effect py shop repo call c' ∧ repo' = repo.save py c' := by
  have hone {s t : CampaignStatus} (hs : s ∈ [t]) : s = t := List.mem_singleton.1 hs
  have htwo {s t u : CampaignStatus} (hs : s ∈ [t, u]) : s = t ∨ s = u := by simpa using hs
  cases call with
  | propose p draw now =>
      obtain ⟨rfl, rfl⟩ := Prod.mk.inj (Except.ok.inj h)
      exact ⟨.propose p draw now, rfl⟩
  | submit campaignId merchantId now =>
      obtain ⟨c, hget, hstatus, rfl, rfl⟩ := change_eq_ok h
      obtain ⟨hmem, hnamed⟩ := found hkept hget
      exact ⟨.change hget hmem hnamed (.submit (htwo (unlessIn_eq_none.1 hstatus))), rfl⟩
  | approve campaignId merchantId now =>
      obtain ⟨c, hget, hrefusal, rfl, rfl⟩ := change_eq_ok h
      obtain ⟨hmem, hnamed⟩ := found hkept hget
      obtain ⟨hstatus, hpolicy⟩ := Option.or_eq_none_iff.1 hrefusal
      exact ⟨.change hget hmem hnamed (.approve (htwo (unlessIn_eq_none.1 hstatus))
        (unlessBlocked_eq_none.1 hpolicy)), rfl⟩
  | activate campaignId merchantId session now =>
      obtain ⟨c, hget, hrefusal, rfl, rfl⟩ := change_eq_ok h
      obtain ⟨hmem, hnamed⟩ := found hkept hget
      obtain ⟨hstatus, hpolicy⟩ := Option.or_eq_none_iff.1 hrefusal
      exact ⟨.change hget hmem hnamed (.activate (hone (unlessIn_eq_none.1 hstatus))
        (unlessBlocked_eq_none.1 hpolicy)), rfl⟩
  | reject campaignId merchantId reason =>
      rw [CampaignCall.run, rejectCampaign] at h
      obtain ⟨c, hget, -, rfl, rfl⟩ := change_eq_ok h
      obtain ⟨hmem, hnamed⟩ := found hkept hget
      exact ⟨.change hget hmem hnamed .reject, rfl⟩
  | pause campaignId merchantId now =>
      obtain ⟨c, hget, hstatus, rfl, rfl⟩ := change_eq_ok h
      obtain ⟨hmem, hnamed⟩ := found hkept hget
      exact ⟨.change hget hmem hnamed (.pause (hone (unlessIn_eq_none.1 hstatus))), rfl⟩
  | complete campaignId merchantId now =>
      obtain ⟨c, hget, hstatus, rfl, rfl⟩ := change_eq_ok h
      obtain ⟨hmem, hnamed⟩ := found hkept hget
      exact ⟨.change hget hmem hnamed (.complete (htwo (unlessIn_eq_none.1 hstatus))), rfl⟩

/-! ### Runs -/

/-- The state a run starts in: nothing is held. -/
def start (redisConfigured : Bool) : CampaignRepository :=
  { redis := if redisConfigured then some {} else none }

theorem contents_start (redisConfigured : Bool) : (start redisConfigured).contents py = [] := by
  cases redisConfigured with
  | false | true => rfl

theorem start_kept (redisConfigured : Bool) : (start redisConfigured).Kept py where
  plain c hc := by
    rw [contents_start] at hc
    exact absurd hc List.not_mem_nil
  redis r hr := by
    cases redisConfigured with
    | false => exact absurd hr nofun
    | true =>
        obtain rfl := Option.some.inj hr
        exact ⟨fun s hs => absurd hs (Table.not_mem_empty s),
          fun i hi => absurd hi (Table.not_mem_empty i),
          fun c hc => absurd hc (Table.not_mem_empty _),
          fun c hc => absurd hc (Table.not_mem_empty c)⟩

/-- The identifiers that are drawn have no colon. -/
theorem plain_newCampaignId (draw : Fin (2 ^ 64)) : ':' ∉ (newCampaignId draw).toList := by
  have hdigit (n : ℕ) (hn : n < 16) : Json.hexDigit n ≠ ':' := by
    interval_cases n <;> decide
  have hword : ':' ∉ "cmp_".toList := by decide
  rw [newCampaignId, String.toList_append, List.mem_append]
  rintro (h | h)
  · exact hword h
  · rw [String.toList_ofList] at h
    obtain ⟨i, -, h⟩ := List.mem_map.1 h
    exact hdigit _ (Nat.mod_lt _ (by omega)) h

theorem Effect.plain (hkept : repo.Kept py) (h : Effect py shop repo call c') :
    ':' ∉ c'.campaignId.toList := by
  cases h with
  | propose p draw now => exact plain_newCampaignId draw
  | change _ hc _ h =>
      rw [h.same.2.1]
      exact hkept.plain _ hc

/-- **One step**: nothing changes, or the effect of the call is saved. -/
theorem step_cases (hkept : repo.Kept py) (event : Shop × CampaignCall) :
    step py repo event = repo ∨ ∃ c', Effect py event.1 repo event.2 c' ∧
      event.2.run py event.1 repo = .ok (c', step py repo event) ∧
      step py repo event = repo.save py c' := by
  unfold step
  cases hrun : event.2.run py event.1 repo with
  | error e => exact .inl rfl
  | ok answer =>
      obtain ⟨c', repo'⟩ := answer
      obtain ⟨heffect, hrepo⟩ := effect_of_ok hkept hrun
      exact .inr ⟨c', heffect, rfl, hrepo⟩

theorem step_kept (hkept : repo.Kept py) (event : Shop × CampaignCall) :
    (step py repo event).Kept py := by
  rcases step_cases hkept event with h | ⟨c', heffect, -, h⟩
  · rw [h]
    exact hkept
  · rw [h]
    exact hkept.save (heffect.plain hkept)

end Campaigns
end AgenticCommerce
