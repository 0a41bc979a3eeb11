/-
# Publishing a version

`atomic_publish_catalog_version` supersedes what the merchant has published, and then promotes
the version asked for, if there is one.  What becomes of a version is a function of it alone
(`publishRow`), and the answer says whether the version is the merchant's
(`atomicPublish_eq`): no version is left out by its status.

The first step is not taken back when the second finds nothing, so that a failed publication
leaves a merchant without a published version (`atomicPublish_iff`).
-/

import AgenticCommerce.Catalog.Service

namespace AgenticCommerce
namespace Catalog

open Relational

/-- The version is one of the merchant's, under the identifier. -/
def isTarget (merchantId catalogVersionId : String) (v : CatalogVersion) : Bool :=
  v.catalogVersionId == catalogVersionId && v.merchantId == merchantId

/-- What a publication makes of a version. -/
def publishRow (merchantId catalogVersionId : String) (v : CatalogVersion) : CatalogVersion :=
  if v.merchantId = merchantId then
    if v.catalogVersionId = catalogVersionId then { v with status := .published }
    else if v.status = .published then { v with status := .superseded }
    else v
  else v

variable {merchantId catalogVersionId : String} {v v' : CatalogVersion}

theorem publishRow_catalogVersionId :
    (publishRow merchantId catalogVersionId v).catalogVersionId = v.catalogVersionId := by
  unfold publishRow
  split_ifs
  · rfl
  · rfl
  · rfl
  · rfl

theorem publishRow_merchantId :
    (publishRow merchantId catalogVersionId v).merchantId = v.merchantId := by
  unfold publishRow
  split_ifs
  · rfl
  · rfl
  · rfl
  · rfl

/-- The merchant's published versions are the target. -/
theorem publishRow_published (hmerchant : v.merchantId = merchantId)
    (h : (publishRow merchantId catalogVersionId v).status = .published) :
    v.catalogVersionId = catalogVersionId := by
  unfold publishRow at h
  rw [if_pos hmerchant] at h
  split_ifs at h with hid hpublished
  · exact hid
  · exact absurd h hpublished

/-- The versions after a publication. -/
def publishVersions (merchantId catalogVersionId : String) (t : Table CatalogVersion) :
    Table CatalogVersion :=
  t.modify (fun _ => true) (publishRow merchantId catalogVersionId) fun _ =>
    publishRow_catalogVersionId

theorem mem_publishVersions {t : Table CatalogVersion} :
    v ∈ publishVersions merchantId catalogVersionId t ↔
      ∃ v₀ ∈ t, publishRow merchantId catalogVersionId v₀ = v := by
  rw [publishVersions, Table.mem_def, Table.modify, List.mem_map]
  rfl

/-- The two updates come to `publishRow`. -/
theorem publishVersions_eq (db : Database) :
    (supersede merchantId catalogVersionId db).catalogVersions.modify
      (promotable merchantId catalogVersionId) (fun v => { v with status := .published })
      (fun _ => rfl) = publishVersions merchantId catalogVersionId db.catalogVersions := by
  refine Table.ext ?_
  simp only [supersede, publishVersions, Table.modify, List.map_map]
  refine List.map_congr_left fun v _ => ?_
  simp only [Function.comp_apply, publishRow, promotable]
  by_cases hmerchant : v.merchantId = merchantId
  · by_cases hid : v.catalogVersionId = catalogVersionId
    · cases hstatus : v.status with
      | draft | validating | superseded | published =>
          cases v
          simp_all
    · by_cases hpublished : v.status = .published
      · simp [hmerchant, hid, hpublished]
      · simp [hmerchant, hid, hpublished]
  · simp [hmerchant]

theorem first_isSome {α : Type} [Keyed α] {t : Table α} {p : α → Bool} :
    (t.first p).isSome = true ↔ ∃ a ∈ t, p a = true := by
  rw [Table.first, List.find?_isSome]
  rfl

/-- Superseding keeps the versions of the merchant under their identifiers. -/
theorem mem_supersede {db : Database} :
    v ∈ (supersede merchantId catalogVersionId db).catalogVersions ↔
      ∃ v₀ ∈ db.catalogVersions, v = if v₀.merchantId = merchantId ∧ v₀.status = .published ∧
        v₀.catalogVersionId ≠ catalogVersionId then { v₀ with status := .superseded } else v₀ := by
  rw [supersede, Table.mem_def, Table.modify, List.mem_map]
  constructor
  · rintro ⟨v₀, hv₀, rfl⟩
    exact ⟨v₀, hv₀, by simp [and_assoc]⟩
  · rintro ⟨v₀, hv₀, rfl⟩
    exact ⟨v₀, hv₀, by simp [and_assoc]⟩

/-- **A publication** returns, whether the version is the merchant's, and leaves what
`publishRow` makes of every version. -/
theorem atomicPublish_eq (merchantId catalogVersionId : String) (w : World) :
    atomicPublishCatalogVersion merchantId catalogVersionId w =
      .ok (w.db.catalogVersions.first (isTarget merchantId catalogVersionId)).isSome
        { w with db := { w.db with
          catalogVersions := publishVersions merchantId catalogVersionId w.db.catalogVersions } } := by
  have hrun : atomicPublishCatalogVersion merchantId catalogVersionId w =
      (if ((supersede merchantId catalogVersionId w.db).catalogVersions.first
          (promotable merchantId catalogVersionId)).isSome then pure true
        else query fun db => (db.catalogVersions.first fun v =>
          v.catalogVersionId == catalogVersionId && v.merchantId == merchantId &&
            v.status == .published).isSome)
        { w with db := { w.db with
          catalogVersions := publishVersions merchantId catalogVersionId w.db.catalogVersions } } := by
    rw [← publishVersions_eq]
    rfl
  rw [hrun]
  by_cases htarget : (w.db.catalogVersions.first (isTarget merchantId catalogVersionId)).isSome = true
  · rw [htarget]
    obtain ⟨v, hv, hmatch⟩ := first_isSome.1 htarget
    rw [isTarget, Bool.and_eq_true, beq_iff_eq, beq_iff_eq] at hmatch
    split
    · rfl
    · have hpublished : (publishVersions merchantId catalogVersionId
          w.db.catalogVersions).first (fun v => v.catalogVersionId == catalogVersionId &&
            v.merchantId == merchantId && v.status == .published) |>.isSome := by
        refine first_isSome.2 ⟨_, mem_publishVersions.2 ⟨v, hv, rfl⟩, ?_⟩
        simp [publishRow, hmatch]
      exact congrArg (fun b => EStateM.Result.ok b _) hpublished
  · rw [Bool.not_eq_true] at htarget
    rw [htarget]
    have hnone (v : CatalogVersion) (hv : v ∈ w.db.catalogVersions)
        (hid : v.catalogVersionId = catalogVersionId) (hmerchant : v.merchantId = merchantId) :
        False := by
      have hsome := first_isSome.2 ⟨v, hv, (by simp [isTarget, hid, hmerchant] :
        isTarget merchantId catalogVersionId v = true)⟩
      rw [htarget] at hsome
      exact Bool.noConfusion hsome
    rw [if_neg]
    · have hnot : ¬((publishVersions merchantId catalogVersionId
          w.db.catalogVersions).first (fun v => v.catalogVersionId == catalogVersionId &&
            v.merchantId == merchantId && v.status == .published)).isSome = true := by
        intro hsome
        obtain ⟨v, hv, hmatch⟩ := first_isSome.1 hsome
        obtain ⟨v₀, hv₀, rfl⟩ := mem_publishVersions.1 hv
        rw [Bool.and_eq_true, Bool.and_eq_true, beq_iff_eq, beq_iff_eq,
          publishRow_catalogVersionId, publishRow_merchantId] at hmatch
        exact hnone v₀ hv₀ hmatch.1.1 hmatch.1.2
      exact congrArg (fun b => EStateM.Result.ok b _) (Bool.eq_false_of_not_eq_true hnot)
    · intro hsome
      obtain ⟨v, hv, hmatch⟩ := first_isSome.1 hsome
      obtain ⟨v₀, hv₀, rfl⟩ := mem_supersede.1 hv
      rw [promotable, Bool.and_eq_true, Bool.and_eq_true, beq_iff_eq, beq_iff_eq] at hmatch
      split at hmatch
      · exact hnone v₀ hv₀ hmatch.1.1 hmatch.1.2
      · exact hnone v₀ hv₀ hmatch.1.1 hmatch.1.2

/-! ### One live version -/

/-- What a merchant has published: one version at most. -/
def OneLive (merchantId : String) (db : Database) : Prop :=
  ∀ v ∈ db.catalogVersions, ∀ v' ∈ db.catalogVersions, v.merchantId = merchantId →
    v'.merchantId = merchantId → v.status = .published → v'.status = .published → v = v'

/-- The statuses of all versions. -/
def statuses (db : Database) : List (String × CatalogVersionStatus) :=
  db.catalogVersions.rows.map fun v => (v.catalogVersionId, v.status)

/-- What a publication should come to, by its answer. -/
structure PublishesOne (merchantId catalogVersionId : String) (w : World) (answer : Bool)
    (w' : World) : Prop where
  one_live : OneLive merchantId w'.db
  published : answer = true → ∃ v ∈ w'.db.catalogVersions, v.catalogVersionId = catalogVersionId ∧
    v.merchantId = merchantId ∧ v.status = .published
  superseded : answer = true → ∀ v ∈ w.db.catalogVersions, v.merchantId = merchantId →
    v.status = .published → v.catalogVersionId ≠ catalogVersionId →
      { v with status := .superseded } ∈ w'.db.catalogVersions
  unchanged : answer = false → statuses w'.db = statuses w.db

/-- **Publishing keeps one live version** exactly when the version is one of the merchant's, or
the merchant has nothing published: whatever the state, it returns, at most one version of the
merchant is published afterwards, and an answer of `True` means what it says; but with an answer
of `False` what was published is superseded all the same. -/
theorem atomicPublish_iff (merchantId catalogVersionId : String) (w : World) :
    (∃ answer w', atomicPublishCatalogVersion merchantId catalogVersionId w = .ok answer w' ∧
      PublishesOne merchantId catalogVersionId w answer w') ↔
    (∃ v ∈ w.db.catalogVersions, v.catalogVersionId = catalogVersionId ∧
      v.merchantId = merchantId) ∨
    ∀ v ∈ w.db.catalogVersions, v.merchantId = merchantId → v.status ≠ .published := by
  have htarget : (w.db.catalogVersions.first (isTarget merchantId catalogVersionId)).isSome = true ↔
      ∃ v ∈ w.db.catalogVersions, v.catalogVersionId = catalogVersionId ∧
        v.merchantId = merchantId := by
    rw [first_isSome]
    exact exists_congr fun v => and_congr_right fun _ => by simp [isTarget]
  have hsame : statuses { w.db with
      catalogVersions := publishVersions merchantId catalogVersionId w.db.catalogVersions } =
        statuses w.db ↔ ∀ v ∈ w.db.catalogVersions,
          (publishRow merchantId catalogVersionId v).status = v.status := by
    simp only [statuses, publishVersions, Table.modify, List.map_map, List.map_inj_left,
      Function.comp_apply, if_true, Prod.mk.injEq, publishRow_catalogVersionId, true_and]
    rfl
  rw [atomicPublish_eq]
  constructor
  · rintro ⟨answer, w', hrun, hpublishes⟩
    obtain ⟨rfl, rfl⟩ := EStateM.Result.ok.inj hrun
    refine or_iff_not_imp_left.2 fun hnone v hv hmerchant hpublished => ?_
    have hanswer := Bool.eq_false_of_not_eq_true (mt htarget.1 hnone)
    have hrow := hsame.1 (hpublishes.unchanged hanswer) v hv
    have hid : v.catalogVersionId ≠ catalogVersionId := fun hid => hnone ⟨v, hv, hid, hmerchant⟩
    rw [publishRow, if_pos hmerchant, if_neg hid, if_pos hpublished, hpublished] at hrow
    exact absurd hrow (by rintro ⟨⟩)
  · intro h
    refine ⟨_, _, rfl, ?_, fun hanswer => ?_, fun _ v hv hmerchant hpublished hid => ?_,
      fun hanswer => hsame.2 fun v hv => ?_⟩
    · intro v hv v' hv' hmerchant hmerchant' hpublished hpublished'
      obtain ⟨v₀, hv₀, rfl⟩ := mem_publishVersions.1 hv
      obtain ⟨v₁, hv₁, rfl⟩ := mem_publishVersions.1 hv'
      rw [publishRow_merchantId] at hmerchant hmerchant'
      have hid := publishRow_published hmerchant hpublished
      have hid' := publishRow_published hmerchant' hpublished'
      rw [Table.eq_of_clash hv₀ hv₁ (decide_eq_true (hid.trans hid'.symm))]
    · obtain ⟨v, hv, hid, hmerchant⟩ := htarget.1 hanswer
      refine ⟨_, mem_publishVersions.2 ⟨v, hv, rfl⟩, publishRow_catalogVersionId.trans hid,
        publishRow_merchantId.trans hmerchant, ?_⟩
      rw [publishRow, if_pos hmerchant, if_pos hid]
    · refine mem_publishVersions.2 ⟨v, hv, ?_⟩
      rw [publishRow, if_pos hmerchant, if_neg hid, if_pos hpublished]
    · have hnone : ¬∃ v ∈ w.db.catalogVersions, v.catalogVersionId = catalogVersionId ∧
          v.merchantId = merchantId := by
        rw [← htarget, hanswer]
        exact Bool.false_ne_true
      rw [publishRow]
      split_ifs with hmerchant hid hpublished
      · exact absurd ⟨v, hv, hid, hmerchant⟩ hnone
      · exact absurd hpublished (h.resolve_left hnone v hv hmerchant)
      · rfl
      · rfl

/-- A merchant has a version published, and publishes one that is not there: the answer is
`False`, and nothing is published any more. -/
theorem failed_publication_supersedes :
    let live : CatalogVersion := ⟨"cv_1", "mer_1", none, .published, 0, 0, 0⟩
    let db : Database := { catalogVersions := ⟨[live], List.pairwise_singleton _ _⟩ }
    (match atomicPublishCatalogVersion "mer_1" "cv_2" { db } with
      | .ok answer w' => (answer, statuses w'.db)
      | .error _ w' => (true, statuses w'.db)) = (false, [("cv_1", .superseded)]) ∧
    statuses db = [("cv_1", .published)] := by
  decide

end Catalog
end AgenticCommerce
