/-
# Redis against the memory of the process

The same campaigns are saved in a repository with a Redis and in one without.  A document has
no field for the times at which a campaign was submitted for review, paused and completed, so
that the two repositories answer alike exactly as long as these are unset in every campaign that
is saved (`persistence_iff`).

The identifiers are those the platform makes: no colon in them, a named merchant, and one
merchant for each campaign.
-/

import AgenticCommerce.Campaigns.Terminal

namespace AgenticCommerce
namespace Campaigns

open Relational

/-- No time that a document has no field for is set. -/
def Campaign.Lossless (c : Campaign) : Prop :=
  c.reviewedAt = none ∧ c.pausedAt = none ∧ c.completedAt = none

theorem lossless_iff {c : Campaign} : c.forget = c ↔ c.Lossless := by
  obtain ⟨⟩ := c
  simp only [Campaign.forget, Campaign.Lossless, Campaign.mk.injEq]
  constructor
  · intro h
    obtain ⟨-, -, -, -, -, -, -, -, -, -, -, -, -, -, -, hreviewed, -, -, hpaused, hcompleted, -⟩ := h
    exact ⟨hreviewed.symm, hpaused.symm, hcompleted.symm⟩
  · rintro ⟨rfl, rfl, rfl⟩
    simp

/-- Campaigns with identifiers of the platform. -/
structure Identified (saves : List Campaign) : Prop where
  named : ∀ c ∈ saves, c.merchantId ≠ ""
  plain_merchant : ∀ c ∈ saves, ':' ∉ c.merchantId.toList
  plain : ∀ c ∈ saves, ':' ∉ c.campaignId.toList
  owned : ∀ c ∈ saves, ∀ c' ∈ saves, c.campaignId = c'.campaignId → c.merchantId = c'.merchantId

/-- The repository after the campaigns were saved in their order. -/
def saveAll (py : Rendering) (redisConfigured : Bool) (saves : List Campaign) : CampaignRepository :=
  saves.foldl (CampaignRepository.save py) (start redisConfigured)

/-- Two repositories answer every question alike, a list in its own order. -/
def AnswerAlike (py : Rendering) (repo repo' : CampaignRepository) : Prop :=
  (∀ merchantId campaignId, repo.get py merchantId campaignId = repo'.get py merchantId campaignId) ∧
    ∀ merchantId, (repo.listByMerchant py merchantId).Perm (repo'.listByMerchant py merchantId)

variable {py : Rendering} {repo : CampaignRepository} {c c' x : Campaign} {saves : List Campaign}
variable {redisConfigured : Bool}

theorem Identified.of_concat (h : Identified (saves ++ [c])) : Identified saves where
  named x hx := h.named x (List.mem_append_left _ hx)
  plain_merchant x hx := h.plain_merchant x (List.mem_append_left _ hx)
  plain x hx := h.plain x (List.mem_append_left _ hx)
  owned x hx y hy := h.owned x (List.mem_append_left _ hx) y (List.mem_append_left _ hy)

theorem Identified.of_prefix (h : Identified saves) {before : List Campaign}
    (hbefore : before <+: saves) : Identified before where
  named x hx := h.named x (hbefore.subset hx)
  plain_merchant x hx := h.plain_merchant x (hbefore.subset hx)
  plain x hx := h.plain x (hbefore.subset hx)
  owned x hx y hy := h.owned x (hbefore.subset hx) y (hbefore.subset hy)

theorem saveAll_concat : saveAll py redisConfigured (saves ++ [c]) =
    (saveAll py redisConfigured saves).save py c := by
  rw [saveAll, List.foldl_append]
  rfl

theorem saveAll_kept (py : Rendering) (redisConfigured : Bool) (h : Identified saves) :
    (saveAll py redisConfigured saves).Kept py := by
  induction saves using List.reverseRecOn with
  | nil => exact start_kept redisConfigured
  | append_singleton saves c ih =>
      rw [saveAll_concat]
      exact (ih h.of_concat).save (h.plain c (List.mem_append_right _ List.mem_cons_self))

theorem saveAll_redis : (saveAll py redisConfigured saves).redis.isSome = redisConfigured := by
  induction saves using List.reverseRecOn with
  | nil =>
      cases redisConfigured with
      | false | true => rfl
  | append_singleton saves c ih =>
      rw [saveAll_concat, CampaignRepository.save, Option.isSome_map, ih]

theorem kept_eq (hlossless : c.Lossless) : repo.kept c = c := by
  unfold CampaignRepository.kept
  split
  · rfl
  · exact lossless_iff.2 hlossless

/-- **What is held** of lossless campaigns is the last one saved under each identifier. -/
theorem mem_saveAll (h : Identified saves) (hlossless : ∀ c ∈ saves, c.Lossless) :
    x ∈ (saveAll py redisConfigured saves).contents py ↔ LastWritten saves x := by
  induction saves using List.reverseRecOn with
  | nil =>
      rw [saveAll, List.foldl_nil, contents_start]
      exact iff_of_false List.not_mem_nil not_lastWritten_nil
  | append_singleton saves c ih =>
      have hkept := saveAll_kept py redisConfigured h.of_concat
      have hc : c ∈ saves ++ [c] := List.mem_append_right _ List.mem_cons_self
      have hplain := h.plain c hc
      have hsame : (saveAll py redisConfigured saves).kept c = c := kept_eq (hlossless c hc)
      have hbefore := ih h.of_concat fun x hx => hlossless x (List.mem_append_left _ hx)
      rw [saveAll_concat, lastWritten_concat, ← hbefore]
      have hclash (hx : x ∈ (saveAll py redisConfigured saves).contents py) :
          clashes c x = false ↔ ¬(x.merchantId = c.merchantId ∧ x.campaignId = c.campaignId) := by
        have hmem := List.mem_append_left [c] (hbefore.1 hx).mem
        have hdecide : clashes c x = decide (c.campaignId = x.campaignId) := rfl
        rw [hdecide, decide_eq_false_iff_not, not_iff_not]
        constructor
        · intro hid
          exact ⟨h.owned x hmem c hc hid.symm, hid.symm⟩
        · exact fun hkey => hkey.2.symm
      constructor
      · intro hx
        rcases hkept.mem_of_save hx hplain with rfl | ⟨hx, hne⟩
        · exact .inl hsame
        · exact .inr ⟨hx, (hclash hx).2 hne⟩
      · rintro (rfl | ⟨hx, hne⟩)
        · have hsaved := hkept.kept_mem_save hplain
          rwa [hsame] at hsaved
        · have hkey := (hclash hx).1 hne
          refine hkept.mem_save hplain hx hkey fun hid => (hkey ⟨?_, hid⟩).elim
          exact h.owned x (List.mem_append_left _ (hbefore.1 hx).mem) c hc hid

/-- The key of an identified campaign is asked for by its own merchant and identifier only. -/
theorem redisKey_identified {merchantId campaignId : String} (hmerchant : ':' ∉ c.merchantId.toList)
    (hplain : ':' ∉ c.campaignId.toList)
    (h : redisKey c.merchantId c.campaignId = redisKey merchantId campaignId) :
    c.merchantId = merchantId ∧ c.campaignId = campaignId := by
  have hlists : c.merchantId.toList ++ ':' :: c.campaignId.toList =
      merchantId.toList ++ ':' :: campaignId.toList := by
    have h := congrArg String.toList h
    simpa [redisKey] using h
  have hsame : c.merchantId.toList = merchantId.toList ∧ c.campaignId.toList = campaignId.toList := by
    rcases List.append_eq_append_iff.1 hlists with ⟨more, hstart, hrest⟩ | ⟨more, hstart, hrest⟩
    · cases more with
      | nil => exact ⟨by rw [hstart, List.append_nil], (List.cons.inj hrest).2⟩
      | cons a more =>
          refine absurd ?_ hplain
          rw [(List.cons.inj hrest).2]
          exact List.mem_append_right _ List.mem_cons_self
    · cases more with
      | nil => exact ⟨by rw [hstart, List.append_nil], (List.cons.inj hrest).2.symm⟩
      | cons a more =>
          refine absurd ?_ hmerchant
          rw [hstart, ← (List.cons.inj hrest).1]
          exact List.mem_append_right _ List.mem_cons_self
  exact ⟨String.toList_inj.1 hsame.1, String.toList_inj.1 hsame.2⟩

/-- **What `get` answers** of identified campaigns: the held campaign of that merchant under that
identifier. -/
theorem get_saveAll (h : Identified saves) (hlossless : ∀ c ∈ saves, c.Lossless)
    {merchantId campaignId : String} :
    (saveAll py redisConfigured saves).get py (some merchantId) campaignId = some x ↔
      LastWritten saves x ∧ x.merchantId = merchantId ∧ x.campaignId = campaignId := by
  have hkept := saveAll_kept py redisConfigured h
  constructor
  · intro hget
    obtain ⟨hx, hkey⟩ := hkept.of_get hget
    have hlast := (mem_saveAll h hlossless).1 hx
    exact ⟨hlast, redisKey_identified (h.plain_merchant x hlast.mem) (h.plain x hlast.mem) hkey⟩
  · rintro ⟨hlast, rfl, rfl⟩
    exact hkept.get_of_mem ((mem_saveAll h hlossless).2 hlast) (h.named x hlast.mem)

/-- **What a list has** of identified campaigns: the held campaigns of the merchant. -/
theorem mem_list_saveAll (h : Identified saves) (hlossless : ∀ c ∈ saves, c.Lossless)
    {merchantId : String} :
    x ∈ (saveAll py redisConfigured saves).listByMerchant py merchantId ↔
      LastWritten saves x ∧ x.merchantId = merchantId := by
  have hkept := saveAll_kept py redisConfigured h
  constructor
  · intro hx
    obtain ⟨hmem, hmerchant⟩ := hkept.mem_of_list hx
    exact ⟨(mem_saveAll h hlossless).1 hmem, hmerchant⟩
  · rintro ⟨hlast, rfl⟩
    exact hkept.list_of_mem ((mem_saveAll h hlossless).2 hlast) (h.named x hlast.mem)

theorem rows_nodup {α : Type} [Keyed α] (t : Table α) : t.rows.Nodup := by
  refine t.unique.imp fun {a b} hclash heq => ?_
  rw [heq, clashes_self] at hclash
  exact Bool.noConfusion hclash

/-- No list has a campaign twice. -/
theorem list_saveAll_nodup (h : Identified saves) (hlossless : ∀ c ∈ saves, c.Lossless)
    (merchantId : String) :
    ((saveAll py redisConfigured saves).listByMerchant py merchantId).Nodup := by
  have hrecall : ((saveAll py redisConfigured saves).recallAll merchantId).Nodup :=
    (rows_nodup _).filter _
  cases hr : (saveAll py redisConfigured saves).redis with
  | none => rwa [CampaignRepository.listByMerchant, hr]
  | some r =>
      rw [CampaignRepository.list_redis hr]
      split
      · exact hrecall
      · have hids : (r.smembers (indexKey merchantId)).Nodup := by
          refine List.Nodup.map_on (fun i hi j hj hmember => ?_) ((rows_nodup _).filter _)
          have hset {k : RedisMember}
              (hk : k ∈ r.members.rows.filter fun m => m.set == indexKey merchantId) :
              k.set = indexKey merchantId := beq_iff_eq.1 (List.mem_filter.1 hk).2
          cases i
          cases j
          simp only at hmember
          rw [hmember, RedisMember.mk.injEq]
          exact ⟨(hset hi).trans (hset hj).symm, rfl⟩
        refine (List.perm_insertionSort _ _).nodup_iff.2 (List.Nodup.filterMap ?_ hids)
        intro campaignId campaignId' x hx hx'
        exact ((get_saveAll h hlossless).1 hx).2.2.symm.trans ((get_saveAll h hlossless).1 hx').2.2

/-- **Lossless campaigns** are kept alike with and without Redis. -/
theorem answerAlike_of_lossless (h : Identified saves) (hlossless : ∀ c ∈ saves, c.Lossless) :
    AnswerAlike py (saveAll py true saves) (saveAll py false saves) := by
  constructor
  · intro merchantId campaignId
    cases merchantId with
    | none => rfl
    | some merchantId =>
        refine Option.ext fun x => ?_
        rw [get_saveAll h hlossless, get_saveAll h hlossless]
  · intro merchantId
    refine (List.perm_ext_iff_of_nodup (list_saveAll_nodup h hlossless merchantId)
      (list_saveAll_nodup h hlossless merchantId)).2 fun x => ?_
    rw [mem_list_saveAll h hlossless, mem_list_saveAll h hlossless]

/-- Right after a campaign is saved, `get` answers with it as it is kept. -/
theorem get_saved (h : Identified (saves ++ [c])) :
    (saveAll py redisConfigured (saves ++ [c])).get py (some c.merchantId) c.campaignId =
      some ((saveAll py redisConfigured saves).kept c) := by
  have hc : c ∈ saves ++ [c] := List.mem_append_right _ List.mem_cons_self
  have hsaved := (saveAll_kept py redisConfigured h.of_concat).kept_mem_save (h.plain c hc)
  have hget := (saveAll_kept py redisConfigured h).get_of_mem (saveAll_concat ▸ hsaved)
    (by rw [kept_merchantId]; exact h.named c hc)
  rwa [kept_merchantId, kept_campaignId] at hget

/-- **When campaigns are kept without loss**: a campaign comes back from its document field for
field exactly when it was not submitted for review, paused or completed at a time that it holds;
and a repository with Redis answers like one without it, after every initial sequence of saves,
exactly when this is so of every campaign that is saved. -/
theorem persistence_iff (py : Rendering) (saves : List Campaign) (h : Identified saves) :
    (∀ c : Campaign, deserializeCampaign py (serializeCampaign py c) = some c ↔ c.Lossless) ∧
    ((∀ before, before <+: saves →
        AnswerAlike py (saveAll py true before) (saveAll py false before)) ↔
      ∀ c ∈ saves, c.Lossless) := by
  constructor
  · intro c
    rw [deserializeCampaign_serializeCampaign, Option.some.injEq, lossless_iff]
  · constructor
    · intro halike c hc
      obtain ⟨before, after, rfl⟩ := List.append_of_mem hc
      have hinitial : before ++ [c] <+: before ++ c :: after :=
        ⟨after, by rw [List.append_assoc, List.singleton_append]⟩
      have hidentified := h.of_prefix hinitial
      have hgets := (halike _ hinitial).1 (some c.merchantId) c.campaignId
      rw [get_saved hidentified, get_saved hidentified, Option.some.injEq] at hgets
      have hmemory : (saveAll py false before).kept c = c :=
        if_pos (by rw [← Option.not_isSome, saveAll_redis]; rfl)
      have hredis : (saveAll py true before).kept c = c.forget :=
        if_neg (by rw [← Option.not_isSome, saveAll_redis]; decide)
      rw [hmemory, hredis] at hgets
      exact lossless_iff.1 hgets
    · intro hlossless before hbefore
      exact answerAlike_of_lossless (h.of_prefix hbefore) fun c hc =>
        hlossless c (hbefore.subset hc)

/-! ### One campaign -/

/-- A campaign that was proposed and nothing else is kept alike. -/
theorem persistence_proposed :
    let c := audioProposal.campaign shortRendering {} [] (newCampaignId 7) "t0"
    AnswerAlike shortRendering (saveAll shortRendering true [c])
      (saveAll shortRendering false [c]) := by
  intro c
  have hidentified : Identified [c] :=
    { named := by decide
      plain_merchant := by decide
      plain := by decide
      owned := fun x hx y hy _ => by rw [List.mem_singleton.1 hx, List.mem_singleton.1 hy] }
  refine ((persistence_iff shortRendering [c] hidentified).2.2 fun x hx => ?_) [c]
    (List.prefix_refl _)
  rw [List.mem_singleton.1 hx]
  exact ⟨rfl, rfl, rfl⟩

/-- The same campaign, submitted for review: with Redis the time of the submission is lost. -/
theorem review_forgotten :
    let campaignId := newCampaignId 7
    let events : List (Shop × CampaignCall) :=
      [({}, .propose audioProposal 7 "t0"), ({}, .submit campaignId (some "mer_1") "t1")]
    ((run shortRendering false events).get shortRendering (some "mer_1") campaignId).map
      (fun c => (c.status, c.reviewedAt)) = some (.review, some "t1") ∧
    ((run shortRendering true events).get shortRendering (some "mer_1") campaignId).map
      (fun c => (c.status, c.reviewedAt)) = some (.review, none) := by
  decide +kernel

end Campaigns
end AgenticCommerce
