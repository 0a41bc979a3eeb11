/-
# What a repository of campaigns holds

What `_deserialize_campaign` makes of what `_serialize_campaign` writes is the campaign without
the times at which it was submitted for review, paused and completed (`Campaign.forget`).

A repository holds a list of campaigns (`contents`), whether it has a Redis or not: what is
found is held (`Kept.of_get`), what is held is found and listed (`Kept.get_of_mem`,
`Kept.list_of_mem`), and what is saved is held next (`Kept.mem_of_save`).
-/

import AgenticCommerce.Campaigns.Repository

namespace AgenticCommerce
namespace Campaigns

open Relational

/-- The campaign without the times that its document has no field for. -/
def Campaign.forget (c : Campaign) : Campaign :=
  { c with reviewedAt := none, pausedAt := none, completedAt := none }

variable (py : Rendering)

/-! ### One document -/

theorem texts?_arr (l : List String) : texts? (.arr (l.map .str)) = some l := by
  unfold texts?
  induction l with
  | nil => rfl
  | cons s l ih =>
      simp only [Json.arr?, Option.bind_eq_bind, Option.bind_some] at ih ⊢
      rw [List.map_cons, List.mapM_cons, ih]
      rfl

theorem numberOrNull?_floatOrNull (q : Option ℚ) :
    numberOrNull? py (floatOrNull py q) = some q := by
  cases q with
  | none => rfl
  | some q => simp [numberOrNull?, floatOrNull, number?, py.float_repr]

theorem strOrNull?_ofOption (s : Option String) : (Json.ofOption s).strOrNull? = some s := by
  cases s with
  | none => rfl
  | some s => rfl

theorem deserializeItem_serializeItem (p : CampaignProductItem) :
    deserializeItem py (serializeItem py p) = some p := by
  simp [deserializeItem, serializeItem, Json.item?, Json.get, Json.lookup, Json.str?, Json.int?,
    number?, py.float_repr, texts?_arr, numberOrNull?_floatOrNull]

theorem mapM_deserializeItem (l : List CampaignProductItem) :
    l.mapM (deserializeItem py ∘ serializeItem py) = some l := by
  induction l with
  | nil => rfl
  | cons p l ih =>
      rw [List.mapM_cons, ih, Function.comp_apply, deserializeItem_serializeItem]
      rfl

theorem deserializeCheck_serializeCheck (check : PolicyCheckResult) :
    deserializeCheck (serializeCheck check) = some check := by
  simp [deserializeCheck, serializeCheck, Json.get, Json.lookup, Json.str?, texts?_arr,
    PolicyDecision.ofString?_value]

/-- **A document read back** is the campaign without the three times. -/
theorem deserializeCampaign_serializeCampaign (c : Campaign) :
    deserializeCampaign py (serializeCampaign py c) = some c.forget := by
  simp [deserializeCampaign, serializeCampaign, Json.item?, Json.get, Json.lookup, Json.str?,
    Json.arr?, toFloat, toInt, py.float_repr, mapM_deserializeItem, deserializeCheck_serializeCheck,
    strOrNull?_ofOption, CampaignStatus.ofString?_value, Campaign.forget]

/-! ### What a repository holds -/

/-- The keys tell campaigns apart whose identifiers have no colon. -/
theorem redisKey_inj {merchantId merchantId' campaignId campaignId' : String}
    (hplain : ':' ∉ campaignId.toList) (hplain' : ':' ∉ campaignId'.toList)
    (h : redisKey merchantId campaignId = redisKey merchantId' campaignId') :
    merchantId = merchantId' ∧ campaignId = campaignId' := by
  have hlists : merchantId.toList ++ ':' :: campaignId.toList =
      merchantId'.toList ++ ':' :: campaignId'.toList := by
    have h := congrArg String.toList h
    simpa [redisKey] using h
  have hside {start start' rest rest' : List Char} (hrest : ':' ∉ rest)
      (hstart : ∃ more, start' = start ++ more ∧ ':' :: rest = more ++ ':' :: rest') :
      start = start' ∧ rest = rest' := by
    obtain ⟨more, rfl, hmore⟩ := hstart
    cases more with
    | nil => exact ⟨(List.append_nil _).symm, (List.cons.inj hmore).2⟩
    | cons c more =>
        refine absurd ?_ hrest
        rw [(List.cons.inj hmore).2]
        exact List.mem_append_right _ List.mem_cons_self
  rcases List.append_eq_append_iff.1 hlists with hstart | hstart
  · obtain ⟨hmerchant, hcampaign⟩ := hside hplain hstart
    exact ⟨String.toList_inj.1 hmerchant, String.toList_inj.1 hcampaign⟩
  · obtain ⟨hmerchant, hcampaign⟩ := hside hplain' hstart
    exact ⟨(String.toList_inj.1 hmerchant).symm, (String.toList_inj.1 hcampaign).symm⟩

/-- The key of a campaign without a merchant is no other merchant's. -/
theorem merchant_ne_of_redisKey {merchantId merchantId' campaignId campaignId' : String}
    (hplain : ':' ∉ campaignId.toList) (hmerchant : merchantId' ≠ "")
    (h : redisKey merchantId campaignId = redisKey merchantId' campaignId') : merchantId ≠ "" := by
  rintro rfl
  have hlists : ':' :: campaignId.toList = merchantId'.toList ++ ':' :: campaignId'.toList := by
    have h := congrArg String.toList h
    simpa [redisKey] using h
  cases hstart : merchantId'.toList with
  | nil => exact hmerchant (String.toList_inj.1 hstart)
  | cons x rest =>
      rw [hstart] at hlists
      refine hplain ?_
      rw [(List.cons.inj hlists).2]
      exact List.mem_append_right _ List.mem_cons_self

theorem indexKey_inj {merchantId merchantId' : String}
    (h : indexKey merchantId = indexKey merchantId') : merchantId = merchantId' :=
  (String.append_right_inj _).1 h

/-- The document of a campaign, under its key. -/
def Campaign.document (c : Campaign) : RedisString :=
  { key := redisKey c.merchantId c.campaignId, value := serializeCampaign py c }

/-- The entry of a campaign in the set of its merchant. -/
def Campaign.entry (c : Campaign) : RedisMember :=
  { set := indexKey c.merchantId, member := c.campaignId }

/-- **A well-kept Redis**: documents of campaigns, each with its entry, for every campaign in
memory. -/
structure Redis.Kept (r : Redis) (memory : Table Campaign) : Prop where
  documents : ∀ s ∈ r.strings, ∃ c : Campaign, s = c.document py ∧ ':' ∉ c.campaignId.toList
  entries : ∀ i ∈ r.members, ∃ c : Campaign, i = c.entry ∧ c.document py ∈ r.strings
  indexed : ∀ c : Campaign, c.document py ∈ r.strings → c.entry ∈ r.members
  memory : ∀ c ∈ memory, ∃ c' : Campaign, c'.document py ∈ r.strings ∧
    c'.merchantId = c.merchantId ∧ c'.campaignId = c.campaignId

namespace CampaignRepository

/-- The campaigns a repository answers with. -/
def contents (repo : CampaignRepository) : List Campaign :=
  match repo.redis with
  | none => repo.memory.rows
  | some r => r.strings.rows.filterMap fun s => deserializeCampaign py s.value

/-- A campaign as the repository keeps it. -/
def kept (repo : CampaignRepository) (c : Campaign) : Campaign :=
  if repo.redis.isNone then c else c.forget

/-- **A well-kept repository**: plain identifiers, and a Redis, if there is one, that is well
kept. -/
structure Kept (repo : CampaignRepository) : Prop where
  plain : ∀ c ∈ repo.contents py, ':' ∉ c.campaignId.toList
  redis : ∀ r, repo.redis = some r → r.Kept py repo.memory

end CampaignRepository

variable {py} {repo : CampaignRepository} {c c' : Campaign} {merchantId campaignId : String}

theorem Redis.get_document {r : Redis} (h : c.document py ∈ r.strings) :
    r.get (redisKey c.merchantId c.campaignId) = some (serializeCampaign py c) := by
  have hfirst : (r.strings.first fun s => s.key == redisKey c.merchantId c.campaignId) =
      some (c.document py) := by
    refine Table.first_of_mem h (beq_self_eq_true _) fun s hs hkey => ?_
    exact Table.eq_of_clash hs h (decide_eq_true (of_decide_eq_true hkey))
  rw [Redis.get, hfirst]
  rfl

theorem mem_contents_redis {r : Redis} (hr : repo.redis = some r)
    (hkept : r.Kept py repo.memory) :
    c ∈ repo.contents py ↔ ∃ c₀ : Campaign, c₀.document py ∈ r.strings ∧ c₀.forget = c := by
  rw [CampaignRepository.contents, hr, List.mem_filterMap]
  constructor
  · rintro ⟨s, hs, hc⟩
    obtain ⟨c₀, rfl, -⟩ := hkept.documents s hs
    exact ⟨c₀, hs, Option.some.inj ((deserializeCampaign_serializeCampaign py c₀).symm.trans hc)⟩
  · rintro ⟨c₀, hc₀, rfl⟩
    exact ⟨_, hc₀, deserializeCampaign_serializeCampaign py c₀⟩

theorem mem_contents_memory (hr : repo.redis = none) : c ∈ repo.contents py ↔ c ∈ repo.memory := by
  rw [CampaignRepository.contents, hr]
  rfl

theorem remembered_eq_some (h : repo.remembered merchantId campaignId = some c) :
    c ∈ repo.memory ∧ c.merchantId = merchantId ∧ c.campaignId = campaignId := by
  obtain ⟨hfirst, hmerchant⟩ := Option.filter_eq_some_iff.1 h
  obtain ⟨hmem, hid⟩ := Table.first_eq_some hfirst
  exact ⟨hmem, beq_iff_eq.1 hmerchant, beq_iff_eq.1 hid⟩

namespace CampaignRepository

theorem get_some (h : merchantId ≠ "") : repo.get py (some merchantId) campaignId =
    ((repo.redis.bind fun r => r.get (redisKey merchantId campaignId)).bind
      (deserializeCampaign py)).orElse fun _ => repo.remembered merchantId campaignId := if_neg h

theorem get_empty : repo.get py (some "") campaignId = none := rfl

theorem list_redis {r : Redis} (hr : repo.redis = some r) :
    repo.listByMerchant py merchantId =
      if r.smembers (indexKey merchantId) = [] then repo.recallAll merchantId
      else ranked (fun c => OrderDual.toDual c.createdAt)
        ((r.smembers (indexKey merchantId)).filterMap (repo.get py (some merchantId))) := by
  rw [listByMerchant, hr]

/-- What `get` finds is held, under the key that was asked for. -/
theorem Kept.of_get (hkept : repo.Kept py)
    (h : repo.get py (some merchantId) campaignId = some c) :
    c ∈ repo.contents py ∧
      redisKey c.merchantId c.campaignId = redisKey merchantId campaignId := by
  by_cases hnamed : merchantId = ""
  · rw [hnamed, get_empty] at h
    exact absurd h nofun
  rw [get_some hnamed] at h
  cases hr : repo.redis with
  | none =>
      rw [hr, Option.bind_none, Option.bind_none] at h
      obtain ⟨hmem, rfl, rfl⟩ := remembered_eq_some h
      exact ⟨(mem_contents_memory hr).2 hmem, rfl⟩
  | some r =>
      have hredis := hkept.redis r hr
      rw [hr, Option.bind_some] at h
      cases hget : r.get (redisKey merchantId campaignId) with
      | none =>
          rw [hget, Option.bind_none] at h
          obtain ⟨hmem, rfl, rfl⟩ := remembered_eq_some h
          obtain ⟨c', hdocument, hmerchant, hid⟩ := hredis.memory c hmem
          have hfound := Redis.get_document hdocument
          rw [hmerchant, hid, hget] at hfound
          exact absurd hfound nofun
      | some value =>
          obtain ⟨s, hfirst, rfl⟩ := Option.map_eq_some_iff.1 hget
          obtain ⟨hmem, hkey⟩ := Table.first_eq_some hfirst
          obtain ⟨c₀, rfl, -⟩ := hredis.documents s hmem
          have hread := deserializeCampaign_serializeCampaign py c₀
          rw [hget, Option.bind_some, Campaign.document, hread] at h
          obtain rfl := Option.some.inj h
          exact ⟨(mem_contents_redis hr hredis).2 ⟨c₀, hmem, rfl⟩, beq_iff_eq.1 hkey⟩

/-- What is held is found. -/
theorem Kept.get_of_mem (hkept : repo.Kept py) (hc : c ∈ repo.contents py)
    (hmerchant : c.merchantId ≠ "") : repo.get py (some c.merchantId) c.campaignId = some c := by
  rw [get_some hmerchant]
  cases hr : repo.redis with
  | none =>
      have hmem := (mem_contents_memory hr).1 hc
      have hfirst : (repo.memory.first fun x => x.campaignId == c.campaignId) = some c :=
        Table.first_of_mem hmem (beq_self_eq_true _) fun x hx hid =>
          Table.eq_of_clash hx hmem (decide_eq_true (beq_iff_eq.1 hid))
      rw [Option.bind_none, Option.bind_none, remembered, hfirst]
      simp
  | some r =>
      obtain ⟨c₀, hdocument, rfl⟩ := (mem_contents_redis hr (hkept.redis r hr)).1 hc
      have hget := Redis.get_document hdocument
      have hread := deserializeCampaign_serializeCampaign py c₀
      have hkey : r.get (redisKey c₀.forget.merchantId c₀.forget.campaignId) =
          some (serializeCampaign py c₀) := hget
      rw [Option.bind_some, hkey, Option.bind_some, hread]
      rfl

/-- One campaign is held under an identifier of a merchant. -/
theorem Kept.eq_of_key (hkept : repo.Kept py) (hc : c ∈ repo.contents py)
    (hc' : c' ∈ repo.contents py) (hmerchant : c.merchantId = c'.merchantId)
    (hid : c.campaignId = c'.campaignId) : c = c' := by
  cases hr : repo.redis with
  | none =>
      exact Table.eq_of_clash ((mem_contents_memory hr).1 hc) ((mem_contents_memory hr).1 hc')
        (decide_eq_true hid)
  | some r =>
      obtain ⟨c₀, hdocument, rfl⟩ := (mem_contents_redis hr (hkept.redis r hr)).1 hc
      obtain ⟨c₁, hdocument', rfl⟩ := (mem_contents_redis hr (hkept.redis r hr)).1 hc'
      have hkey : redisKey c₀.merchantId c₀.campaignId = redisKey c₁.merchantId c₁.campaignId := by
        have hmerchant : c₀.merchantId = c₁.merchantId := hmerchant
        have hid : c₀.campaignId = c₁.campaignId := hid
        rw [hmerchant, hid]
      have hsame := Table.eq_of_clash hdocument hdocument' (decide_eq_true hkey)
      have hvalue := congrArg (fun s => deserializeCampaign py s.value) hsame
      simp only [Campaign.document, deserializeCampaign_serializeCampaign] at hvalue
      exact Option.some.inj hvalue

/-- A list has campaigns of the merchant only. -/
theorem Kept.mem_of_list (hkept : repo.Kept py) (h : c ∈ repo.listByMerchant py merchantId) :
    c ∈ repo.contents py ∧ c.merchantId = merchantId := by
  cases hr : repo.redis with
  | none =>
      rw [listByMerchant, hr] at h
      obtain ⟨hmem, hmerchant⟩ := Table.mem_select.1 h
      exact ⟨(mem_contents_memory hr).2 hmem, beq_iff_eq.1 hmerchant⟩
  | some r =>
      have hredis := hkept.redis r hr
      rw [list_redis hr] at h
      split at h
      · rename_i hnone
        obtain ⟨hmem, hmerchant⟩ := Table.mem_select.1 h
        obtain ⟨c', hdocument, hmerchant', -⟩ := hredis.memory c hmem
        have hentry : c'.campaignId ∈ r.smembers (indexKey merchantId) := by
          refine List.mem_map.2 ⟨c'.entry, Table.mem_select.2 ⟨hredis.indexed _ hdocument, ?_⟩, rfl⟩
          rw [beq_iff_eq, Campaign.entry, hmerchant', beq_iff_eq.1 hmerchant]
        rw [hnone] at hentry
        exact absurd hentry List.not_mem_nil
      · obtain ⟨campaignId, hid, hget⟩ := List.mem_filterMap.1 (mem_ranked.1 h)
        refine ⟨(hkept.of_get hget).1, ?_⟩
        obtain ⟨i, hi, rfl⟩ := List.mem_map.1 hid
        obtain ⟨hmem, hset⟩ := Table.mem_select.1 hi
        obtain ⟨c₀, rfl, hdocument⟩ := hredis.entries i hmem
        obtain rfl := indexKey_inj (beq_iff_eq.1 hset)
        have hc₀ := (mem_contents_redis hr hredis).2 ⟨c₀, hdocument, rfl⟩
        by_cases hnamed : c₀.merchantId = ""
        · rw [hnamed, get_empty] at hget
          exact absurd hget nofun
        · have hfound := hkept.get_of_mem hc₀ hnamed
          obtain rfl := Option.some.inj (hfound.symm.trans hget)
          rfl

/-- A list has all campaigns of the merchant. -/
theorem Kept.list_of_mem (hkept : repo.Kept py) (hc : c ∈ repo.contents py)
    (hmerchant : c.merchantId ≠ "") : c ∈ repo.listByMerchant py c.merchantId := by
  cases hr : repo.redis with
  | none =>
      rw [listByMerchant, hr]
      exact Table.mem_select.2 ⟨(mem_contents_memory hr).1 hc, beq_self_eq_true _⟩
  | some r =>
      have hredis := hkept.redis r hr
      obtain ⟨c₀, hdocument, hforget⟩ := (mem_contents_redis hr hredis).1 hc
      have hid : c.campaignId ∈ r.smembers (indexKey c.merchantId) := by
        subst hforget
        exact List.mem_map.2 ⟨c₀.entry,
          Table.mem_select.2 ⟨hredis.indexed _ hdocument, beq_self_eq_true _⟩, rfl⟩
      rw [list_redis hr, if_neg (List.ne_nil_of_mem hid)]
      exact mem_ranked.2 (List.mem_filterMap.2 ⟨_, hid, hkept.get_of_mem hc hmerchant⟩)

end CampaignRepository

/-! ### Saving -/

theorem mem_entries_upsert {t : Table RedisMember} {i j : RedisMember} (h : i ∈ t) :
    i ∈ t.upsert j := by
  by_cases hclash : clashes j i = true
  · have hkey : (j.set, j.member) = (i.set, i.member) := of_decide_eq_true hclash
    obtain ⟨hset, hmember⟩ := Prod.mk.inj hkey
    have hij : i = j := by
      cases i
      cases j
      simp only at hset hmember
      rw [hset, hmember]
    exact Table.mem_upsert.2 (.inl hij)
  · exact Table.mem_upsert.2 (.inr ⟨h, by simpa using hclash⟩)

/-- A document determines the campaign up to the forgotten times. -/
theorem forget_eq_of_document (h : c.document py = c'.document py) : c.forget = c'.forget := by
  have hvalue := congrArg (fun s => deserializeCampaign py s.value) h
  simpa only [Campaign.document, deserializeCampaign_serializeCampaign, Option.some.injEq]
    using hvalue

theorem key_eq_of_forget (h : c.forget = c'.forget) :
    c.merchantId = c'.merchantId ∧ c.campaignId = c'.campaignId := by
  have hmerchant : c.forget.merchantId = c'.forget.merchantId := congrArg _ h
  have hid : c.forget.campaignId = c'.forget.campaignId := congrArg _ h
  exact ⟨hmerchant, hid⟩

theorem Campaign.entry_eq (hmerchant : c.merchantId = c'.merchantId)
    (hid : c.campaignId = c'.campaignId) : c.entry = c'.entry := by
  rw [Campaign.entry, Campaign.entry, hmerchant, hid]

theorem Redis.Kept.plain {r : Redis} {memory : Table Campaign} (hkept : r.Kept py memory)
    (h : c.document py ∈ r.strings) : ':' ∉ c.campaignId.toList := by
  obtain ⟨c', hdocument, hplain⟩ := hkept.documents _ h
  rwa [(key_eq_of_forget (forget_eq_of_document hdocument)).2]

/-- Redis after a campaign is saved. -/
def Redis.saving (r : Redis) (c : Campaign) (py : Rendering) : Redis :=
  { strings := r.strings.upsert (c.document py), members := r.members.upsert c.entry }

/-- A document stays, or the saved campaign's takes its place. -/
theorem Redis.Kept.document_saving {r : Redis} {memory : Table Campaign} (hkept : r.Kept py memory)
    (hplain : ':' ∉ c.campaignId.toList) (h : c'.document py ∈ r.strings) :
    c'.document py ∈ (r.saving c py).strings ∨
      c.merchantId = c'.merchantId ∧ c.campaignId = c'.campaignId := by
  by_cases hclash : clashes (c.document py) (c'.document py) = true
  · exact .inr (redisKey_inj hplain (hkept.plain h) (of_decide_eq_true hclash))
  · exact .inl (Table.mem_upsert.2 (.inr ⟨h, by simpa using hclash⟩))

/-- **Saving keeps Redis in order**. -/
theorem Redis.Kept.saving {r : Redis} {memory : Table Campaign} (hkept : r.Kept py memory)
    (hplain : ':' ∉ c.campaignId.toList) :
    (r.saving c py).Kept py (memory.upsert c) where
  documents s hs := by
    rcases Table.mem_upsert.1 hs with rfl | ⟨hs, -⟩
    · exact ⟨c, rfl, hplain⟩
    · exact hkept.documents s hs
  entries i hi := by
    rcases Table.mem_upsert.1 hi with rfl | ⟨hi, -⟩
    · exact ⟨c, rfl, Table.mem_upsert.2 (.inl rfl)⟩
    · obtain ⟨c', rfl, hdocument⟩ := hkept.entries i hi
      rcases hkept.document_saving hplain hdocument with hstays | ⟨hmerchant, hid⟩
      · exact ⟨c', rfl, hstays⟩
      · exact ⟨c, (Campaign.entry_eq hmerchant hid).symm, Table.mem_upsert.2 (.inl rfl)⟩
  indexed c' hc' := by
    rcases Table.mem_upsert.1 hc' with hsame | ⟨hc', -⟩
    · obtain ⟨hmerchant, hid⟩ := key_eq_of_forget (forget_eq_of_document hsame)
      exact Table.mem_upsert.2 (.inl (Campaign.entry_eq hmerchant hid))
    · exact mem_entries_upsert (hkept.indexed c' hc')
  memory x hx := by
    rcases Table.mem_upsert.1 hx with rfl | ⟨hx, -⟩
    · exact ⟨x, Table.mem_upsert.2 (.inl rfl), rfl, rfl⟩
    · obtain ⟨c', hdocument, hmerchant, hid⟩ := hkept.memory x hx
      rcases hkept.document_saving hplain hdocument with hstays | ⟨hmerchant', hid'⟩
      · exact ⟨c', hstays, hmerchant, hid⟩
      · exact ⟨c, Table.mem_upsert.2 (.inl rfl), hmerchant'.trans hmerchant, hid'.trans hid⟩

namespace CampaignRepository

variable {x : Campaign}

theorem redis_save {r : Redis} (hr : repo.redis = some r) :
    (repo.save py c).redis = some (r.saving c py) := by
  rw [save, hr]
  rfl

theorem redis_save_none (hr : repo.redis = none) : (repo.save py c).redis = none := by
  rw [save, hr]
  rfl

/-- What is held after a campaign is saved: it, and what was held under other identifiers. -/
theorem Kept.mem_of_save (hkept : repo.Kept py) (h : x ∈ (repo.save py c).contents py)
    (hplain : ':' ∉ c.campaignId.toList) :
    x = repo.kept c ∨
      x ∈ repo.contents py ∧ ¬(x.merchantId = c.merchantId ∧ x.campaignId = c.campaignId) := by
  cases hr : repo.redis with
  | none =>
      rcases Table.mem_upsert.1 ((mem_contents_memory (redis_save_none hr)).1 h) with rfl | ⟨hx, hne⟩
      · exact .inl (by rw [kept, hr]; rfl)
      · refine .inr ⟨(mem_contents_memory hr).2 hx, fun hsame => ?_⟩
        exact of_decide_eq_false hne hsame.2.symm
  | some r =>
      have hredis := hkept.redis r hr
      obtain ⟨c₀, hdocument, rfl⟩ :=
        (mem_contents_redis (redis_save hr) (hredis.saving hplain)).1 h
      rcases Table.mem_upsert.1 hdocument with hsame | ⟨hdocument, hne⟩
      · refine .inl ?_
        rw [kept, hr, forget_eq_of_document hsame]
        rfl
      · refine .inr ⟨(mem_contents_redis hr hredis).2 ⟨c₀, hdocument, rfl⟩, fun hsame => ?_⟩
        refine of_decide_eq_false hne ?_
        have hmerchant : c₀.merchantId = c.merchantId := hsame.1
        have hid : c₀.campaignId = c.campaignId := hsame.2
        rw [Campaign.document, Campaign.document, hmerchant, hid]
        rfl

/-- The saved campaign is held. -/
theorem Kept.kept_mem_save (hkept : repo.Kept py) (hplain : ':' ∉ c.campaignId.toList) :
    repo.kept c ∈ (repo.save py c).contents py := by
  cases hr : repo.redis with
  | none =>
      rw [kept, hr]
      exact (mem_contents_memory (redis_save_none hr)).2 (Table.mem_upsert.2 (.inl rfl))
  | some r =>
      rw [kept, hr]
      exact (mem_contents_redis (redis_save hr) ((hkept.redis r hr).saving hplain)).2
        ⟨c, Table.mem_upsert.2 (.inl rfl), rfl⟩

/-- What has another identifier stays; so does what another merchant has under the same one,
when the saved campaign was held before. -/
theorem Kept.mem_save (hkept : repo.Kept py) (hplain : ':' ∉ c.campaignId.toList)
    (hx : x ∈ repo.contents py)
    (hne : ¬(x.merchantId = c.merchantId ∧ x.campaignId = c.campaignId))
    (hheld : x.campaignId = c.campaignId → ∃ found ∈ repo.contents py,
      found.merchantId = c.merchantId ∧ found.campaignId = c.campaignId) :
    x ∈ (repo.save py c).contents py := by
  cases hr : repo.redis with
  | none =>
      have hmem := (mem_contents_memory hr).1 hx
      refine (mem_contents_memory (redis_save_none hr)).2 (Table.mem_upsert.2 (.inr ⟨hmem, ?_⟩))
      refine decide_eq_false fun hid => ?_
      obtain ⟨found, hfound, hmerchant, hid'⟩ := hheld hid.symm
      have hsame : x = found := Table.eq_of_clash hmem ((mem_contents_memory hr).1 hfound)
        (decide_eq_true (hid.symm.trans hid'.symm))
      subst hsame
      exact hne ⟨hmerchant, hid'⟩
  | some r =>
      have hredis := hkept.redis r hr
      obtain ⟨c₀, hdocument, rfl⟩ := (mem_contents_redis hr hredis).1 hx
      refine (mem_contents_redis (redis_save hr) (hredis.saving hplain)).2 ⟨c₀, ?_, rfl⟩
      refine (hredis.document_saving hplain hdocument).resolve_right fun hsame => ?_
      exact hne ⟨hsame.1.symm, hsame.2.symm⟩

/-- **Saving keeps the repository in order**. -/
theorem Kept.save (hkept : repo.Kept py) (hplain : ':' ∉ c.campaignId.toList) :
    (repo.save py c).Kept py where
  plain x hx := by
    rcases hkept.mem_of_save hx hplain with rfl | ⟨hx, -⟩
    · rw [kept]
      split
      · exact hplain
      · exact hplain
    · exact hkept.plain x hx
  redis r' hr' := by
    cases hr : repo.redis with
    | none =>
        rw [redis_save_none hr] at hr'
        exact absurd hr' nofun
    | some r =>
        rw [redis_save hr] at hr'
        obtain rfl := Option.some.inj hr'
        exact (hkept.redis r hr).saving hplain

end CampaignRepository

end Campaigns
end AgenticCommerce
