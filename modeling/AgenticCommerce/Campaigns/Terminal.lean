/-
# Terminal states

Of the calls that change a campaign all but one test the status they find.  `reject_campaign`
does not: it rejects a campaign that is running, paused or completed.  A rejected or completed
campaign keeps its status, and rejections change only what is not activated yet, exactly in the
runs in which every rejection finds such a campaign, or one that it has rejected before
(`terminal_iff`).
-/

import AgenticCommerce.Campaigns.Exclusivity

namespace AgenticCommerce
namespace Campaigns

open Relational

/-- A status that should be final. -/
def CampaignStatus.Terminal (status : CampaignStatus) : Prop :=
  status = .rejected ∨ status = .completed

instance (status : CampaignStatus) : Decidable status.Terminal :=
  inferInstanceAs (Decidable (_ ∨ _))

/-- A status before the activation. -/
def CampaignStatus.BeforeActivation (status : CampaignStatus) : Prop :=
  status = .draft ∨ status = .proposed ∨ status = .review ∨ status = .approved

section

variable (py : Rendering) (repo : CampaignRepository)

/-- The identifier that a proposal draws is new. -/
def FreshDraw : CampaignCall → Prop
  | .propose _ draw _ => ∀ c ∈ repo.contents py, c.campaignId ≠ newCampaignId draw
  | .submit _ _ _ | .approve _ _ _ | .activate _ _ _ _ | .reject _ _ _ | .pause _ _ _
  | .complete _ _ _ => True

/-- What a rejection finds is not activated yet, or was rejected before for the same reason. -/
def RejectsEarly : CampaignCall → Prop
  | .reject campaignId merchantId reason =>
      ∀ c, repo.get py merchantId campaignId = some c →
        c.status.BeforeActivation ∨ c.status = .rejected ∧ c.rejectionReason = some reason
  | .propose _ _ _ | .submit _ _ _ | .approve _ _ _ | .activate _ _ _ _ | .pause _ _ _
  | .complete _ _ _ => True

end

instance (py : Rendering) (repo : CampaignRepository) (call : CampaignCall) :
    Decidable (FreshDraw py repo call) :=
  match call with
  | .propose _ _ _ => inferInstanceAs (Decidable (∀ c ∈ _, _))
  | .submit _ _ _ | .approve _ _ _ | .activate _ _ _ _ | .reject _ _ _ | .pause _ _ _
  | .complete _ _ _ => .isTrue trivial

/-- The call is a rejection. -/
def CampaignCall.IsRejection : CampaignCall → Prop
  | reject _ _ _ => True
  | propose _ _ _ | submit _ _ _ | approve _ _ _ | activate _ _ _ _ | pause _ _ _
  | complete _ _ _ => False

variable {py : Rendering} {shop : Shop} {repo : CampaignRepository} {c c' : Campaign}
variable {call : CampaignCall} {redisConfigured : Bool} {events : List (Shop × CampaignCall)}

/-- A change leaves a final status as it is, if it is no late rejection. -/
theorem Changes.terminal (h : Changes py shop repo call c c') (hfinds : call.finds py repo = some c)
    (hearly : RejectsEarly py repo call) (hterminal : c.status.Terminal) :
    c'.status = c.status := by
  have hnot {status : CampaignStatus} (hstatus : c.status = status) (h : ¬status.Terminal) :
      c'.status = c.status := absurd (hstatus ▸ hterminal) h
  cases h with
  | submit h => exact h.elim (hnot · (by decide)) (hnot · (by decide))
  | approve h => exact h.elim (hnot · (by decide)) (hnot · (by decide))
  | activate h => exact hnot h (by decide)
  | pause h => exact hnot h (by decide)
  | complete h =>
      rcases h with h | h
      · exact hnot h (by decide)
      · exact hnot h (by decide)
  | reject =>
      rcases hearly c hfinds with (h | h | h | h) | ⟨hrejected, -⟩
      · exact hnot h (by decide)
      · exact hnot h (by decide)
      · exact hnot h (by decide)
      · exact hnot h (by decide)
      · exact hrejected.symm

/-- **A held campaign after a step**: it stays, or is what the effect of the call makes of it. -/
theorem held_step (hkept : repo.Kept py) (event : Shop × CampaignCall)
    (hfresh : FreshDraw py repo event.2) (hc : c ∈ repo.contents py) :
    c ∈ (step py repo event).contents py ∨
      ∃ c', event.2.finds py repo = some c ∧ Changes py event.1 repo event.2 c c' ∧
        repo.kept c' ∈ (step py repo event).contents py := by
  obtain ⟨shop, call⟩ := event
  rcases step_cases hkept (shop, call) with hstep | ⟨saved, heffect, -, hstep⟩
  · rw [hstep]
    exact .inl hc
  · rw [hstep]
    have hplain := heffect.plain hkept
    have hsaved := hkept.kept_mem_save hplain
    simp only at heffect hfresh ⊢
    cases heffect with
    | propose p draw now =>
        exact .inl (hkept.mem_save hplain hc (fun hsame => hfresh c hc hsame.2)
          fun hid => absurd hid (hfresh c hc))
    | @change _ found _ hfinds hfound _ h =>
        by_cases hsame : c.merchantId = saved.merchantId ∧ c.campaignId = saved.campaignId
        · obtain rfl := hkept.eq_of_key hc hfound (hsame.1.trans h.same.1) (hsame.2.trans h.same.2.1)
          exact .inr ⟨saved, hfinds, h, hsaved⟩
        · exact .inl (hkept.mem_save hplain hc hsame fun _ =>
            ⟨found, hfound, h.same.1.symm, h.same.2.1.symm⟩)

/-! ### Runs -/

/-- Every proposal of the run draws a new identifier. -/
def FreshDraws (py : Rendering) (redisConfigured : Bool) (events : List (Shop × CampaignCall)) :
    Prop :=
  ∀ before event after, events = before ++ event :: after →
    FreshDraw py (run py redisConfigured before) event.2

/-- **Final statuses last**, by induction on the calls that follow. -/
theorem terminal_run {before : List (Shop × CampaignCall)}
    (hc : c ∈ (run py redisConfigured before).contents py) (hterminal : c.status.Terminal)
    (after : List (Shop × CampaignCall)) (hfresh : FreshDraws py redisConfigured (before ++ after))
    (hearly : ∀ before' event after', before ++ after = before' ++ event :: after' →
      RejectsEarly py (run py redisConfigured before') event.2) :
    ∃ c' ∈ (run py redisConfigured (before ++ after)).contents py,
      c'.merchantId = c.merchantId ∧ c'.campaignId = c.campaignId ∧ c'.status = c.status := by
  induction after using List.reverseRecOn with
  | nil => exact ⟨c, by rwa [List.append_nil], rfl, rfl, rfl⟩
  | append_singleton after event ih =>
      have hlast (rest : List (Shop × CampaignCall)) :
          before ++ (after ++ event :: rest) = (before ++ after) ++ event :: rest :=
        (List.append_assoc ..).symm
      obtain ⟨c', hc', hmerchant, hid, hstatus⟩ := ih
        (fun b e a hsplit => hfresh b e (a ++ [event]) (by
          rw [← List.append_assoc, hsplit, List.append_assoc, List.cons_append]))
        (fun b e a hsplit => hearly b e (a ++ [event]) (by
          rw [← List.append_assoc, hsplit, List.append_assoc, List.cons_append]))
      rw [← List.append_assoc, run_concat]
      rcases held_step (run_kept py redisConfigured _) event (hfresh _ event [] (hlast [])) hc' with
        hstays | ⟨changed, hfinds, hchanges, hsaved⟩
      · exact ⟨c', hstays, hmerchant, hid, hstatus⟩
      · refine ⟨_, hsaved, ?_, ?_, ?_⟩
        · rw [kept_merchantId, hchanges.same.1, hmerchant]
        · rw [kept_campaignId, hchanges.same.2.1, hid]
        · rw [kept_status, hchanges.terminal hfinds (hearly _ event [] (hlast []))
            (by rwa [hstatus]), hstatus]

/-- A rejected campaign is as its rejection left it. -/
theorem rejected_run (redisConfigured : Bool) (events : List (Shop × CampaignCall)) :
    ∀ c ∈ (run py redisConfigured events).contents py, c.status = .rejected → c.forget = c := by
  refine forall_run (fun {shop repo call c} heffect _ hstatus => ?_) redisConfigured events
  rw [kept_status] at hstatus
  cases heffect with
  | propose => exact absurd hstatus nofun
  | change _ _ _ h =>
      cases h with
      | submit | approve | activate | pause | complete => exact absurd hstatus nofun
      | reject =>
          unfold CampaignRepository.kept
          split
          · rfl
          · rfl

/-- A rejection that finds a campaign goes through. -/
theorem step_reject {merchantId : Option String} {campaignId reason : String}
    (h : repo.get py merchantId campaignId = some c) :
    step py repo (shop, .reject campaignId merchantId reason) = repo.save py { c with
      status := .rejected, rejectionReason := some reason, reviewedAt := none, pausedAt := none,
      completedAt := none } := by
  simp only [step, CampaignCall.run, rejectCampaign, change, h]

/-- Rejecting a rejected campaign again for the same reason changes nothing. -/
theorem kept_rejected {reason : String} (hforget : c.forget = c) (hrejected : c.status = .rejected)
    (hreason : c.rejectionReason = some reason) :
    repo.kept { c with
      status := .rejected, rejectionReason := some reason, reviewedAt := none, pausedAt := none,
      completedAt := none } = c := by
  have hsame : { c with
      status := .rejected, rejectionReason := some reason, reviewedAt := none, pausedAt := none,
      completedAt := none } = c.forget := by
    rw [← hrejected, ← hreason, Campaign.forget]
  rw [hsame, CampaignRepository.kept]
  split
  · exact hforget
  · exact hforget

/-- **When final statuses are final**: with new identifiers for new campaigns, a rejected or
completed campaign keeps its status through every run, and rejections change only campaigns that
are not activated yet, exactly when every rejection of the run finds such a campaign or one that
it finds rejected for the same reason. -/
theorem terminal_iff (py : Rendering) (redisConfigured : Bool)
    (events : List (Shop × CampaignCall)) (hfresh : FreshDraws py redisConfigured events) :
    ((∀ before after, events = before ++ after → ∀ merchantId,
        ∀ c ∈ (run py redisConfigured before).listByMerchant py merchantId, c.status.Terminal →
          (∃ c' ∈ (run py redisConfigured events).listByMerchant py merchantId,
            c'.campaignId = c.campaignId) ∧
          ∀ c' ∈ (run py redisConfigured events).listByMerchant py merchantId,
            c'.campaignId = c.campaignId → c'.status = c.status) ∧
      ∀ before event after, events = before ++ event :: after → event.2.IsRejection →
        ∀ merchantId, ∀ c ∈ (run py redisConfigured before).listByMerchant py merchantId,
          c ∉ (run py redisConfigured (before ++ [event])).listByMerchant py merchantId →
            c.status.BeforeActivation) ↔
    ∀ before event after, events = before ++ event :: after →
      RejectsEarly py (run py redisConfigured before) event.2 := by
  constructor
  · rintro ⟨-, hrejections⟩ before ⟨shop, call⟩ after hevents
    cases call with
    | propose | submit | approve | activate | pause | complete => exact trivial
    | reject campaignId merchantId reason =>
        intro c hget
        have hkept := run_kept py redisConfigured before
        obtain ⟨hc, hnamed⟩ := found hkept hget
        by_cases hstays : c ∈ (run py redisConfigured (before ++
            [(shop, .reject campaignId merchantId reason)])).listByMerchant py c.merchantId
        · obtain ⟨hafter, -⟩ := (run_kept py redisConfigured _).mem_of_list hstays
          have hafterKept := run_kept py redisConfigured (before ++
            [(shop, .reject campaignId merchantId reason)])
          rw [run_concat, step_reject hget] at hafter hafterKept
          have hsaved := hkept.kept_mem_save (c := { c with
            status := .rejected, rejectionReason := some reason, reviewedAt := none,
            pausedAt := none, completedAt := none }) (hkept.plain c hc)
          have hsame := hafterKept.eq_of_key hafter hsaved (by rw [kept_merchantId])
            (by rw [kept_campaignId])
          refine .inr ⟨?_, ?_⟩
          · rw [hsame, kept_status]
          · rw [hsame, kept_rejectionReason]
        · exact .inl (hrejections before _ after hevents trivial c.merchantId c
            (hkept.list_of_mem hc hnamed) hstays)
  · intro hearly
    constructor
    · rintro before after rfl merchantId c hlisted hterminal
      have hkept := run_kept py redisConfigured (before ++ after)
      obtain ⟨hc, rfl⟩ := (run_kept py redisConfigured before).mem_of_list hlisted
      obtain ⟨c', hc', hmerchant, hid, hstatus⟩ := terminal_run hc hterminal after hfresh hearly
      have hnamed : c.merchantId ≠ "" := named_run redisConfigured before c hc fun h => by
        rw [h] at hterminal
        exact absurd hterminal (by decide)
      refine ⟨⟨c', ?_, hid⟩, fun x hx hxid => ?_⟩
      · rw [← hmerchant]
        exact hkept.list_of_mem hc' (hmerchant.trans_ne hnamed)
      · obtain ⟨hx, hxmerchant⟩ := hkept.mem_of_list hx
        rw [hkept.eq_of_key hx hc' (hxmerchant.trans hmerchant.symm) (hxid.trans hid.symm), hstatus]
    · rintro before ⟨shop, call⟩ after hevents hrejection merchantId c hlisted hgone
      have hkept := run_kept py redisConfigured before
      obtain ⟨hc, rfl⟩ := hkept.mem_of_list hlisted
      by_cases hproposed : c.status = .proposed
      · exact .inr (.inl hproposed)
      have hnamed := named_run redisConfigured before c hc hproposed
      rw [run_concat] at hgone
      have hlist (h : c ∈ (step py (run py redisConfigured before) (shop, call)).contents py) :
          False := hgone ((step_kept hkept _).list_of_mem h hnamed)
      rcases held_step hkept (shop, call) (hfresh before _ after hevents) hc with
        hstays | ⟨changed, hfinds, hchanges, hsaved⟩
      · exact (hlist hstays).elim
      · cases hchanges with
        | submit | approve | activate | pause | complete => exact hrejection.elim
        | reject =>
            refine (hearly before _ after hevents c hfinds).resolve_right ?_
            rintro ⟨hrejected, hreason⟩
            have hforget := rejected_run redisConfigured before c hc hrejected
            rw [kept_rejected hforget hrejected hreason] at hsaved
            exact hlist hsaved

/-! ### Two runs -/

/-- A proposal of audio products, in an empty shop. -/
def audioProposal : Proposal :=
  { session := some {}, merchantId := "mer_1", goalPrompt := "Clear our audio stock" }

/-- The proposal is made, and rejected: nothing else ever has a final status. -/
theorem terminal_rejectedProposal :
    let campaignId := newCampaignId 7
    let events : List (Shop × CampaignCall) :=
      [({}, .propose audioProposal 7 "t0"), ({}, .reject campaignId (some "mer_1") "No stock")]
    ∀ before after, events = before ++ after → ∀ merchantId,
      ∀ c ∈ (run shortRendering false before).listByMerchant shortRendering merchantId,
        c.status.Terminal →
          (∃ c' ∈ (run shortRendering false events).listByMerchant shortRendering merchantId,
            c'.campaignId = c.campaignId) ∧
          ∀ c' ∈ (run shortRendering false events).listByMerchant shortRendering merchantId,
            c'.campaignId = c.campaignId → c'.status = c.status := by
  intro campaignId events
  have hfresh : FreshDraws shortRendering false events := by
    have halways : Always (step shortRendering)
        (fun repo event => FreshDraw shortRendering repo event.2) (start false) events :=
      ⟨by decide, trivial, trivial⟩
    exact always_iff.1 halways
  have hfound : ((run shortRendering false [({}, .propose audioProposal 7 "t0")]).get shortRendering
      (some "mer_1") campaignId).map Campaign.status = some .proposed := by
    decide
  have hearly : Always (step shortRendering)
      (fun repo event => RejectsEarly shortRendering repo event.2) (start false) events := by
    refine ⟨trivial, fun c hget => ?_, trivial⟩
    have hstatus := (congrArg (Option.map Campaign.status) hget).symm.trans hfound
    exact .inl (.inr (.inl (Option.some.inj hstatus)))
  exact ((terminal_iff shortRendering false events hfresh).2 (always_iff.1 hearly)).1

/-- The same campaign is approved, activated, completed, and then rejected. -/
theorem completed_rejected :
    let campaignId := newCampaignId 7
    let events : List (Shop × CampaignCall) :=
      [({}, .propose audioProposal 7 "t0"), ({}, .approve campaignId (some "mer_1") "t1"),
        ({}, .activate campaignId (some "mer_1") (some {}) "t2"),
        ({}, .complete campaignId (some "mer_1") "t3")]
    let last : Shop × CampaignCall := ({}, .reject campaignId (some "mer_1") "Changed our mind")
    ((run shortRendering false events).get shortRendering (some "mer_1") campaignId).map
      Campaign.status = some .completed ∧
    ((run shortRendering false (events ++ [last])).get shortRendering (some "mer_1")
      campaignId).map Campaign.status = some .rejected := by
  decide

end Campaigns
end AgenticCommerce
