/-
# What is recommended can be bought

An offer can be bought when `create_checkout` accepts one of it.  The engine and the service look
at an offer's status and stock only, the engine at the first rows only, and a budget of zero is
none: the recommendations are right exactly where the offers that are picked are fresh, the
pairings that yield are for categories of their own, and what can be bought is not passed over
(`recommendations_right_iff`).  An offer that has expired is recommended (`expired_recommended`).
-/

import AgenticCommerce.Checkout.Acceptance
import AgenticCommerce.Recommendations.CrossSell

namespace AgenticCommerce
namespace Recommendations

open Relational Checkout

/-! ### The offers that are picked -/

/-- The offer service reads the offer, and it has not expired. -/
def Fresh (env : Env) (merchantId offerId : String) (db : Database) : Prop :=
  ∃ v, offerOf env merchantId offerId db = some v ∧ env.now < v.expiresAt

section

variable {env : Env} {db : Database} {buyerId merchantId offerId : String}

theorem activeOffer_eq_some {productId : String} {o : Offer}
    (h : activeOffer db merchantId productId = some o) :
    o ∈ db.offers ∧ o.productId = productId ∧ o.merchantId = merchantId ∧ o.status = .active := by
  have hmem := List.mem_of_mem_head? (Option.mem_def.2 h)
  simpa [mem_ranked, Table.mem_select, and_assoc] using hmem

theorem firstProduct_eq_some {categoryId : String} {p : Product}
    (h : firstProduct db merchantId categoryId = some p) :
    p ∈ db.products ∧ p.merchantId = merchantId ∧ p.categoryId = categoryId := by
  have hmem := List.mem_of_mem_head? (Option.mem_def.2 h)
  simpa [mem_ranked, Table.mem_select] using hmem

/-- What is left of an offer is left in its stored stock. -/
theorem exists_stock (h : 0 < netAvailable db offerId) :
    ∃ i ∈ db.inventory, i.offerId = offerId ∧ 1 ≤ i.availableQuantity - i.reservedQuantity := by
  rw [netAvailable] at h
  cases hfound : db.inventory.first fun i => i.offerId == offerId with
  | none => simp [hfound] at h
  | some i =>
      obtain ⟨hmem, hid⟩ := Table.first_eq_some hfound
      have hleft : 0 < i.availableQuantity - i.reservedQuantity := by simpa [hfound] using h
      exact ⟨i, hmem, beq_iff_eq.1 hid, by omega⟩

/-- **A picked offer is accepted** exactly where it is fresh: its status and its stock have been
looked at. -/
theorem accepts_picked_iff (hstorable : Storable env db) {productId : String} {o : Offer}
    (hpick : activeOffer db merchantId productId = some o)
    (hleft : 0 < netAvailable db o.offerId) :
    Accepts env buyerId merchantId o.offerId db ↔ Fresh env merchantId o.offerId db := by
  obtain ⟨hmem, -, hmerchant, hactive⟩ := activeOffer_eq_some hpick
  have hrow : db.offers.first (fun o' => o'.offerId == o.offerId && o'.merchantId == merchantId) =
      some o := by
    refine Table.first_of_mem hmem (by simp [hmerchant]) fun o' ho' hmatch => ?_
    simp only [Bool.and_eq_true, beq_iff_eq] at hmatch
    exact Table.eq_of_clash ho' hmem (beq_iff_eq.2 hmatch.1)
  rw [accepts_iff hstorable]
  constructor
  · rintro ⟨v, hread, -, hexpiry, -⟩
    exact ⟨v, hread, hexpiry⟩
  · rintro ⟨v, hread, hexpiry⟩
    refine ⟨v, hread, ?_, hexpiry, exists_stock hleft⟩
    simp only [offerOf, hrow, Option.bind_eq_bind, Option.bind_some, Option.bind_eq_some_iff]
      at hread
    obtain ⟨product, -, stock, -, hschema⟩ := hread
    obtain ⟨_, _, -, -, -, rfl⟩ := offerToSchema_eq_some.1 hschema
    exact hactive

end

/-! ### The engine -/

/-- The offer that the engine picks for a pairing. -/
def Yields (db : Database) (merchantId : String) (p : CategoryPairing) (o : Offer) : Prop :=
  ∃ product, firstProduct db merchantId p.targetCategoryId = some product ∧
    activeOffer db merchantId product.productId = some o ∧ 0 < netAvailable db o.offerId

/-- A category of the merchant has an offer that can be bought. -/
def Purchasable (env : Env) (buyerId merchantId categoryId : String) (db : Database) : Prop :=
  ∃ product ∈ db.products, product.merchantId = merchantId ∧ product.categoryId = categoryId ∧
    ∃ o ∈ db.offers, o.productId = product.productId ∧ o.merchantId = merchantId ∧
      Accepts env buyerId merchantId o.offerId db

/-- What the engine recommends can be bought, no product is recommended twice, and every enabled
pairing with something to buy has its recommendation, up to the limit. -/
structure EngineRight (env : Env) (buyerId merchantId sourceCategory : String) (limit : ℕ)
    (pairings : Table CategoryPairing) (db : Database) : Prop where
  accepted : ∀ r ∈ getRecommendationsForProduct db pairings merchantId sourceCategory limit,
    Accepts env buyerId merchantId r.offerId db
  distinct : ((getRecommendationsForProduct db pairings merchantId sourceCategory limit).map
    CrossSellRecommendation.targetProductId).Nodup
  complete : ∀ p ∈ enabledPairings pairings merchantId sourceCategory,
    Purchasable env buyerId merchantId p.targetCategoryId db →
      (∃ r ∈ getRecommendationsForProduct db pairings merchantId sourceCategory limit,
        r.pairingId = p.pairingId) ∨
      limit ≤ (getRecommendationsForProduct db pairings merchantId sourceCategory limit).length

/-- Of the first pairings, those that yield an offer yield a fresh one and are for categories of
their own; and what can be bought is the target of one of them, unless all of them yield. -/
structure EngineCareful (env : Env) (buyerId merchantId sourceCategory : String) (limit : ℕ)
    (pairings : Table CategoryPairing) (db : Database) : Prop where
  fresh : ∀ p ∈ (enabledPairings pairings merchantId sourceCategory).take limit,
    ∀ o, Yields db merchantId p o → Fresh env merchantId o.offerId db
  apart : ((enabledPairings pairings merchantId sourceCategory).take limit).Pairwise fun p q =>
    (∃ o, Yields db merchantId p o) → (∃ o, Yields db merchantId q o) →
      p.targetCategoryId ≠ q.targetCategoryId
  reached : ∀ p ∈ enabledPairings pairings merchantId sourceCategory,
    Purchasable env buyerId merchantId p.targetCategoryId db →
      (p ∈ (enabledPairings pairings merchantId sourceCategory).take limit ∧
        ∃ o, Yields db merchantId p o) ∨
      limit ≤ ((enabledPairings pairings merchantId sourceCategory).take limit).length ∧
        ∀ q ∈ (enabledPairings pairings merchantId sourceCategory).take limit,
          ∃ o, Yields db merchantId q o

section

variable {env : Env} {db : Database} {buyerId merchantId sourceCategory : String} {limit : ℕ}
  {pairings : Table CategoryPairing} {p : CategoryPairing} {r : CrossSellRecommendation}

theorem recommendationOf_eq_some :
    recommendationOf db merchantId sourceCategory p = some r ↔
      ∃ product o, firstProduct db merchantId p.targetCategoryId = some product ∧
        activeOffer db merchantId product.productId = some o ∧ 0 < netAvailable db o.offerId ∧
        r = recommended sourceCategory p product o (netAvailable db o.offerId) := by
  simp only [recommendationOf, Option.bind_eq_bind, Option.bind_eq_some_iff]
  constructor
  · rintro ⟨product, hproduct, o, ho, hr⟩
    by_cases hleft : netAvailable db o.offerId ≤ 0
    · rw [if_pos hleft] at hr
      exact nomatch hr
    · rw [if_neg hleft] at hr
      exact ⟨product, o, hproduct, ho, by omega, (Option.some.inj hr).symm⟩
  · rintro ⟨product, o, hproduct, ho, hleft, rfl⟩
    exact ⟨product, hproduct, o, ho, if_neg (by omega)⟩

/-- A pairing yields an offer where it has a recommendation. -/
theorem exists_yields_iff :
    (∃ o, Yields db merchantId p o) ↔
      (recommendationOf db merchantId sourceCategory p).isSome = true := by
  rw [Option.isSome_iff_exists]
  constructor
  · rintro ⟨o, product, hproduct, ho, hleft⟩
    exact ⟨_, recommendationOf_eq_some.2 ⟨product, o, hproduct, ho, hleft, rfl⟩⟩
  · rintro ⟨r, hr⟩
    obtain ⟨product, o, hproduct, ho, hleft, -⟩ := recommendationOf_eq_some.1 hr
    exact ⟨o, product, hproduct, ho, hleft⟩

theorem mem_recommendations :
    r ∈ getRecommendationsForProduct db pairings merchantId sourceCategory limit ↔
      ∃ p ∈ (enabledPairings pairings merchantId sourceCategory).take limit,
        recommendationOf db merchantId sourceCategory p = some r :=
  List.mem_filterMap

/-- All that is recommended can be bought where what is yielded is fresh. -/
theorem accepted_iff (hstorable : Storable env db) :
    (∀ r ∈ getRecommendationsForProduct db pairings merchantId sourceCategory limit,
      Accepts env buyerId merchantId r.offerId db) ↔
      ∀ p ∈ (enabledPairings pairings merchantId sourceCategory).take limit,
        ∀ o, Yields db merchantId p o → Fresh env merchantId o.offerId db := by
  constructor
  · rintro haccepted p hp o ⟨product, hproduct, ho, hleft⟩
    refine (accepts_picked_iff hstorable ho hleft).1 (haccepted _ (mem_recommendations.2
      ⟨p, hp, recommendationOf_eq_some.2 ⟨product, o, hproduct, ho, hleft, rfl⟩⟩))
  · intro hfresh r hr
    obtain ⟨p, hp, hof⟩ := mem_recommendations.1 hr
    obtain ⟨product, o, hproduct, ho, hleft, rfl⟩ := recommendationOf_eq_some.1 hof
    exact (accepts_picked_iff hstorable ho hleft).2 (hfresh p hp o ⟨product, hproduct, ho, hleft⟩)

/-- No product is recommended twice where what is yielded is for categories of their own. -/
theorem distinct_iff :
    ((getRecommendationsForProduct db pairings merchantId sourceCategory limit).map
      CrossSellRecommendation.targetProductId).Nodup ↔
      ((enabledPairings pairings merchantId sourceCategory).take limit).Pairwise fun p q =>
        (∃ o, Yields db merchantId p o) → (∃ o, Yields db merchantId q o) →
          p.targetCategoryId ≠ q.targetCategoryId := by
  rw [List.Nodup, List.pairwise_map, getRecommendationsForProduct, List.pairwise_filterMap]
  refine List.Pairwise.iff fun p q => ?_
  constructor
  · rintro hapart ⟨o, product, hproduct, ho, hleft⟩ ⟨o', product', hproduct', ho', hleft'⟩ hsame
    rw [← hsame, hproduct] at hproduct'
    obtain rfl := Option.some.inj hproduct'
    exact hapart _ (recommendationOf_eq_some.2 ⟨product, o, hproduct, ho, hleft, rfl⟩) _
      (recommendationOf_eq_some.2 ⟨product, o', hsame ▸ hproduct, ho', hleft', rfl⟩) rfl
  · intro hapart r hr r' hr' hsame
    obtain ⟨product, o, hproduct, ho, hleft, rfl⟩ := recommendationOf_eq_some.1 hr
    obtain ⟨product', o', hproduct', ho', hleft', rfl⟩ := recommendationOf_eq_some.1 hr'
    refine hapart ⟨o, product, hproduct, ho, hleft⟩ ⟨o', product', hproduct', ho', hleft'⟩ ?_
    obtain ⟨hmem, -, hcategory⟩ := firstProduct_eq_some hproduct
    obtain ⟨hmem', -, hcategory'⟩ := firstProduct_eq_some hproduct'
    have hrow : product = product' := Table.eq_of_clash hmem hmem' (beq_iff_eq.2 hsame)
    rw [← hcategory, ← hcategory', hrow]

/-- There are as many recommendations as the limit where all of as many pairings yield. -/
theorem limit_le_iff :
    limit ≤ (getRecommendationsForProduct db pairings merchantId sourceCategory limit).length ↔
      limit ≤ ((enabledPairings pairings merchantId sourceCategory).take limit).length ∧
        ∀ q ∈ (enabledPairings pairings merchantId sourceCategory).take limit,
          ∃ o, Yields db merchantId q o := by
  have hfront : ((enabledPairings pairings merchantId sourceCategory).take limit).length ≤ limit :=
    List.length_take_le _ _
  have hfewer := List.length_filterMap_le (recommendationOf db merchantId sourceCategory)
    ((enabledPairings pairings merchantId sourceCategory).take limit)
  have hall := @List.filterMap_length_eq_length _ _
    (recommendationOf db merchantId sourceCategory)
    ((enabledPairings pairings merchantId sourceCategory).take limit)
  have hyields (q : CategoryPairing) : (∃ o, Yields db merchantId q o) ↔
      (recommendationOf db merchantId sourceCategory q).isSome = true := exists_yields_iff
  simp only [hyields]
  rw [getRecommendationsForProduct, ← hall]
  omega

/-- A pairing has its recommendation where it is among the first and yields. -/
theorem served_iff (hp : p ∈ enabledPairings pairings merchantId sourceCategory) :
    (∃ r ∈ getRecommendationsForProduct db pairings merchantId sourceCategory limit,
      r.pairingId = p.pairingId) ↔
      p ∈ (enabledPairings pairings merchantId sourceCategory).take limit ∧
        ∃ o, Yields db merchantId p o := by
  constructor
  · rintro ⟨r, hr, hid⟩
    obtain ⟨q, hq, hof⟩ := mem_recommendations.1 hr
    obtain ⟨product, o, hproduct, ho, hleft, rfl⟩ := recommendationOf_eq_some.1 hof
    have hrow : q = p := Table.eq_of_clash (Table.mem_select.1 (List.mem_of_mem_take hq)).1
      (Table.mem_select.1 hp).1 (beq_iff_eq.2 hid)
    exact hrow ▸ ⟨hq, o, product, hproduct, ho, hleft⟩
  · rintro ⟨hfront, o, product, hproduct, ho, hleft⟩
    exact ⟨_, mem_recommendations.2 ⟨p, hfront, recommendationOf_eq_some.2
      ⟨product, o, hproduct, ho, hleft, rfl⟩⟩, rfl⟩

theorem engineRight_iff (hstorable : Storable env db) :
    EngineRight env buyerId merchantId sourceCategory limit pairings db ↔
      EngineCareful env buyerId merchantId sourceCategory limit pairings db := by
  constructor
  · intro h
    refine ⟨(accepted_iff hstorable).1 h.accepted, distinct_iff.1 h.distinct, fun p hp hbuy => ?_⟩
    exact (h.complete p hp hbuy).imp (served_iff hp).1 limit_le_iff.1
  · intro h
    refine ⟨(accepted_iff hstorable).2 h.fresh, distinct_iff.2 h.apart, fun p hp hbuy => ?_⟩
    exact (h.reached p hp hbuy).imp (served_iff hp).2 limit_le_iff.2

end

/-! ### The service -/

/-- What is recommended with a product can be bought within the budget, and is no product twice
and not the product itself. -/
structure ServiceRight (env : Env) (buyerId merchantId targetProductId : String)
    (budgetLimitMinor : Option ℤ) (db : Database) (items : List CrossSellItem) : Prop where
  accepted : ∀ i ∈ items, Accepts env buyerId merchantId i.offerId db
  affordable : ∀ i ∈ items, ∀ budget ∈ budgetLimitMinor, i.priceMinor ≤ budget
  distinct : (items.map CrossSellItem.productId).Nodup
  other : targetProductId ∉ items.map CrossSellItem.productId

/-- An item is of a fresh offer, and costs nothing where the budget is zero. -/
def CarefulItem (env : Env) (merchantId : String) (budgetLimitMinor : Option ℤ) (db : Database)
    (i : CrossSellItem) : Prop :=
  Fresh env merchantId i.offerId db ∧ (budgetLimitMinor = some 0 → i.priceMinor ≤ 0)

/-- Every pick of a pairing's recommendation or of a suggestion's product is of a fresh offer, and
costs nothing where the budget is zero. -/
def ServiceCareful (env : Env) (matching : Matching) (merchantId targetProductId : String)
    (budgetLimitMinor : Option ℤ) (model : Option (List Json)) (pairings : Table CategoryPairing)
    (db : Database) : Prop :=
  ∀ target ∈ db.products.first fun p =>
      p.productId == targetProductId && p.merchantId == merchantId,
    let pick items r := some (curatedItem targetProductId budgetLimitMinor items r)
    let curated := getRecommendationsForProduct db pairings merchantId target.categoryId 3
    EveryPick pick [] curated (CarefulItem env merchantId budgetLimitMinor db) ∧
      ∀ items ∈ gather pick [] curated,
        EveryPick (suggestedItem matching db merchantId target budgetLimitMinor) items
          (accessorySuggestions matching model target)
          (CarefulItem env merchantId budgetLimitMinor db)

/-- What a pick is, on either way: the first active offer of a product that is not among the
others', in stock and not over the budget. -/
structure Picked (merchantId targetProductId : String) (budgetLimitMinor : Option ℤ)
    (db : Database) (items : List CrossSellItem) (i : CrossSellItem) : Prop where
  offer : ∃ o, activeOffer db merchantId i.productId = some o ∧ i.offerId = o.offerId ∧
    0 < netAvailable db o.offerId
  unseen : i.productId ∉ seen targetProductId items
  affordable : overBudget budgetLimitMinor i.priceMinor = false

section

variable {env : Env} {matching : Matching} {db : Database} {buyerId merchantId : String}
  {targetProductId : String} {budgetLimitMinor : Option ℤ} {model : Option (List Json)}
  {pairings : Table CategoryPairing} {items : List CrossSellItem} {i : CrossSellItem}

theorem picked_of_curated {sourceCategory : String} {limit : ℕ} {r : CrossSellRecommendation}
    (hr : r ∈ getRecommendationsForProduct db pairings merchantId sourceCategory limit)
    (h : curatedItem targetProductId budgetLimitMinor items r = some i) :
    Picked merchantId targetProductId budgetLimitMinor db items i := by
  obtain ⟨p, -, hof⟩ := mem_recommendations.1 hr
  obtain ⟨product, o, -, ho, hleft, rfl⟩ := recommendationOf_eq_some.1 hof
  rw [curatedItem] at h
  split_ifs at h with hseen hbudget
  obtain rfl := Option.some.inj h
  exact ⟨⟨o, ho, rfl, hleft⟩, hseen, Bool.not_eq_true _ ▸ hbudget⟩

theorem mem_candidates {exclude : List String} {keyword category : Json}
    {candidates : List Product} {p : Product}
    (h : accessoryCandidates matching db merchantId exclude keyword category = some candidates)
    (hp : p ∈ candidates) :
    p ∈ db.products ∧ p.merchantId = merchantId ∧ p.productId ∉ exclude := by
  have hbase : ∀ q ∈ ranked Product.productId (db.products.select fun p =>
      p.merchantId == merchantId && !exclude.contains p.productId),
      q ∈ db.products ∧ q.merchantId = merchantId ∧ q.productId ∉ exclude := fun q hq => by
    simpa [mem_ranked, Table.mem_select] using hq
  refine hbase p ?_
  rw [accessoryCandidates] at h
  obtain ⟨found, hfound, rfl⟩ := Option.map_eq_some_iff.1 h
  split_ifs at hp with hnone
  · exact List.mem_of_mem_filter hp
  · split_ifs at hfound with hkeyword
    · obtain rfl := Option.some.inj hfound
      exact List.mem_of_mem_filter hp
    · obtain ⟨same, -, rfl⟩ := Option.map_eq_some_iff.1 hfound
      exact List.mem_of_mem_filter hp

theorem picked_of_suggested {target : Product} {suggestion : Json}
    (h : suggestedItem matching db merchantId target budgetLimitMinor items suggestion =
      some (some i)) :
    Picked merchantId target.productId budgetLimitMinor db items i := by
  rw [suggestedItem] at h
  split_ifs at h with hfull
  · exact nomatch Option.some.inj h
  obtain ⟨keyword, -, h⟩ := Option.bind_eq_some_iff.1 h
  obtain ⟨category, -, h⟩ := Option.bind_eq_some_iff.1 h
  obtain ⟨reason, -, h⟩ := Option.bind_eq_some_iff.1 h
  obtain ⟨savings, -, h⟩ := Option.bind_eq_some_iff.1 h
  obtain ⟨alternative, -, h⟩ := Option.bind_eq_some_iff.1 h
  obtain ⟨resolved, hresolved, h⟩ := Option.bind_eq_some_iff.1 h
  obtain ⟨⟨product, o⟩, hpair, hitem⟩ := Option.bind_eq_some_iff.1 (Option.some.inj h)
  dsimp only at hitem
  split_ifs at hitem with hbudget
  obtain rfl := Option.some.inj hitem
  rw [hpair, resolveAccessory, Option.map_eq_some_iff] at hresolved
  obtain ⟨candidates, hcandidates, hfound⟩ := hresolved
  obtain ⟨candidate, hmem, hpick⟩ := List.exists_of_findSome?_eq_some hfound
  obtain ⟨o', ho, hpick⟩ := Option.bind_eq_some_iff.1 hpick
  split_ifs at hpick with hleft
  obtain ⟨rfl, rfl⟩ := Prod.mk.inj (Option.some.inj hpick)
  refine ⟨⟨o', ho, rfl, hleft⟩, ?_, Bool.not_eq_true _ ▸ hbudget⟩
  exact (mem_candidates hcandidates hmem).2.2

/-- Of what is picked, the careful items are those that are accepted and affordable. -/
theorem Picked.careful_iff (hstorable : Storable env db)
    (h : Picked merchantId targetProductId budgetLimitMinor db items i) :
    (Accepts env buyerId merchantId i.offerId db ∧
      ∀ budget ∈ budgetLimitMinor, i.priceMinor ≤ budget) ↔
      CarefulItem env merchantId budgetLimitMinor db i := by
  obtain ⟨o, ho, hid, hleft⟩ := h.offer
  have hbudget := h.affordable
  refine and_congr (hid ▸ accepts_picked_iff hstorable ho hleft) ?_
  cases budgetLimitMinor with
  | none => simp
  | some budget =>
      simp only [overBudget, Option.any_some, Bool.and_eq_false_iff, bne_eq_false_iff_eq,
        decide_eq_false_iff_not, not_lt] at hbudget
      constructor
      · intro hle hzero
        exact Option.some.inj hzero ▸ hle budget rfl
      · rintro hzero b hb
        obtain rfl := Option.some.inj hb
        rcases hbudget with rfl | hle
        · exact hzero rfl
        · exact hle

/-- An item of a product that was not among the others' leaves the products distinct. -/
theorem Picked.distinct (h : Picked merchantId targetProductId budgetLimitMinor db items i)
    (hdistinct : (seen targetProductId items).Nodup) :
    (seen targetProductId (items ++ [i])).Nodup := by
  rw [seen, List.map_append, ← List.cons_append]
  exact List.concat_eq_append ▸ hdistinct.concat h.unseen

/-- **Of the items of a call that returns** what is picked decides. -/
theorem serviceRight_iff (hstorable : Storable env db)
    (h : getCrossSellRecommendations matching db merchantId pairings targetProductId
      budgetLimitMinor model = some items) :
    ServiceRight env buyerId merchantId targetProductId budgetLimitMinor db items ↔
      ServiceCareful env matching merchantId targetProductId budgetLimitMinor model pairings
        db := by
  rw [getCrossSellRecommendations] at h
  rw [ServiceCareful]
  cases htarget : db.products.first fun p =>
      p.productId == targetProductId && p.merchantId == merchantId with
  | none =>
      rw [htarget] at h
      obtain rfl := Option.some.inj h
      refine ⟨fun _ _ hnone => (nomatch hnone), fun _ => ?_⟩
      exact ⟨fun i hi => (nomatch hi), fun i hi => (nomatch hi), List.nodup_nil, List.not_mem_nil⟩
  | some target =>
      rw [htarget] at h
      obtain ⟨curated, hcurated, hitems⟩ := Option.bind_eq_some_iff.1 h
      obtain ⟨-, hmatch⟩ := Table.first_eq_some htarget
      simp only [Bool.and_eq_true, beq_iff_eq] at hmatch
      obtain ⟨rfl, -⟩ := hmatch
      let right (i : CrossSellItem) := Accepts env buyerId merchantId i.offerId db ∧
        ∀ budget ∈ budgetLimitMinor, i.priceMinor ≤ budget
      have hdistinct : (seen target.productId items).Nodup := by
        let apart (acc : List CrossSellItem) := (seen target.productId acc).Nodup
        have hfirst : apart curated := by
          refine gather_induction (motive := apart) hcurated (List.nodup_singleton _) ?_
          intro acc r i hr hacc hi
          exact (picked_of_curated hr (Option.some.inj hi)).distinct hacc
        refine gather_induction (motive := apart) hitems hfirst ?_
        intro acc suggestion i _ hacc hi
        exact (picked_of_suggested hi).distinct hacc
      obtain ⟨hother, hnodup⟩ := List.nodup_cons.1 hdistinct
      have hright : ServiceRight env buyerId merchantId target.productId budgetLimitMinor db
          items ↔ ∀ i ∈ items, right i :=
        ⟨fun h i hi => ⟨h.accepted i hi, h.affordable i hi⟩,
          fun h => ⟨fun i hi => (h i hi).1, fun i hi => (h i hi).2, hnodup, hother⟩⟩
      rw [hright, forall_gather_iff hitems, forall_gather_iff hcurated]
      simp only [Option.mem_def, Option.some.injEq, forall_eq', hcurated, List.not_mem_nil,
        false_implies, implies_true, true_and]
      refine and_congr (everyPick_congr fun acc r i hr hi => ?_)
        (everyPick_congr fun acc suggestion i _ hi => ?_)
      · exact (picked_of_curated hr (Option.some.inj hi)).careful_iff hstorable
      · exact (picked_of_suggested hi).careful_iff hstorable

end

/-! ### Whether the recommendations are right -/

/-- **What is recommended can be bought** where the code looks at enough: the engine exactly where
the offers of the first pairings are fresh, their categories are apart and nothing to buy is behind
them, the service where every pick is of a fresh offer and a budget of zero lets nothing through
that costs something. -/
theorem recommendations_right_iff (env : Env) (matching : Matching) (db : Database)
    (pairings : Table CategoryPairing) (buyerId merchantId : String)
    (hstorable : Storable env db) :
    (∀ sourceCategory limit,
      EngineRight env buyerId merchantId sourceCategory limit pairings db ↔
        EngineCareful env buyerId merchantId sourceCategory limit pairings db) ∧
    ∀ targetProductId budgetLimitMinor model items,
      getCrossSellRecommendations matching db merchantId pairings targetProductId
        budgetLimitMinor model = some items →
      (ServiceRight env buyerId merchantId targetProductId budgetLimitMinor db items ↔
        ServiceCareful env matching merchantId targetProductId budgetLimitMinor model pairings
          db) :=
  ⟨fun _ _ => engineRight_iff hstorable, fun _ _ _ _ h => serviceRight_iff hstorable h⟩

/-- A mouse that goes with laptops. -/
def mouse : Product := { productId := "mse", merchantId := "mer", categoryId := "mice" }

/-- An offer of it. -/
def mouseOffer (expiresAt : Time) : Offer :=
  { offerId := "ofr", productId := "mse", merchantId := "mer", unitPriceMinor := 100, expiresAt }

/-- A shop with a laptop and the mouse, three of them in stock. -/
def mouseShop (expiresAt : Time) : Database :=
  { products := ⟨[{ productId := "lap", merchantId := "mer", categoryId := "laptops" }, mouse],
      by decide⟩
    offers := ⟨[mouseOffer expiresAt], List.pairwise_singleton _ _⟩
    inventory := ⟨[{ offerId := "ofr", availableQuantity := 3 }], by decide⟩ }

/-- Mice go with laptops. -/
def mousePairing : CategoryPairing :=
  { pairingId := "par", merchantId := "mer", sourceCategoryId := "laptops",
    targetCategoryId := "mice" }

def mousePairings : Table CategoryPairing := ⟨[mousePairing], List.pairwise_singleton _ _⟩

/-- Readers that match nothing. -/
def plainMatching : Matching :=
  { lower := id, repr := fun _ => "", ilike := fun _ _ => false, equals := fun _ => none }

theorem storable_mouseShop (expiresAt : Time) : Storable default (mouseShop expiresAt) :=
  ⟨fun _ h => (nomatch h), fun _ h => (nomatch h), fun _ h => (nomatch h), rfl⟩

/-- A mouse whose offer has not expired is recommended, and can be bought. -/
theorem recommendations_right_mouse :
    EngineRight default "byr" "mer" "laptops" 3 mousePairings (mouseShop 60) ∧
      ∃ items, getCrossSellRecommendations plainMatching (mouseShop 60) "mer" mousePairings "lap"
        (some 500) (some []) = some items ∧ items ≠ [] ∧
        ServiceRight default "byr" "mer" "lap" (some 500) (mouseShop 60) items := by
  have hright := recommendations_right_iff default plainMatching (mouseShop 60) mousePairings "byr"
    "mer" (storable_mouseShop 60)
  have hfresh : Fresh default "mer" "ofr" (mouseShop 60) := ⟨_, rfl, by decide⟩
  refine ⟨(hright.1 "laptops" 3).2 ⟨?_, List.pairwise_singleton _ _, ?_⟩, _, rfl, by decide,
    (hright.2 "lap" (some 500) (some []) _ rfl).2 ?_⟩
  · rintro p hp o ⟨product, hproduct, ho, -⟩
    obtain rfl : p = mousePairing := List.mem_singleton.1 hp
    obtain rfl : mouse = product := Option.some.inj hproduct
    obtain rfl : mouseOffer 60 = o := Option.some.inj ho
    exact hfresh
  · intro p hp _
    obtain rfl : p = mousePairing := List.mem_singleton.1 hp
    exact .inl ⟨hp, mouseOffer 60, mouse, rfl, rfl, by decide⟩
  · rintro target htarget
    obtain rfl := Option.some.inj htarget
    refine ⟨((forall_gather_iff rfl).1 fun i hi => ?_).2, fun items _ earlier s later hnil => ?_⟩
    · obtain rfl := List.mem_singleton.1 hi
      exact ⟨hfresh, fun hzero => (nomatch hzero)⟩
    · exact absurd hnil.symm (List.append_ne_nil_of_right_ne_nil _ (List.cons_ne_nil s later))

/-- **An expired offer is recommended**, and not accepted. -/
theorem expired_recommended :
    ¬∀ (env : Env) (matching : Matching) (db : Database) (pairings : Table CategoryPairing)
      (buyerId merchantId : String), Storable env db →
      (∀ sourceCategory limit,
        EngineRight env buyerId merchantId sourceCategory limit pairings db) ∧
      ∀ targetProductId budgetLimitMinor model items,
        getCrossSellRecommendations matching db merchantId pairings targetProductId
          budgetLimitMinor model = some items →
        ServiceRight env buyerId merchantId targetProductId budgetLimitMinor db items := by
  intro h
  have hengine := (h default plainMatching (mouseShop 0) mousePairings "byr" "mer"
    (storable_mouseShop 0)).1 "laptops" 3
  have haccepts := hengine.accepted _ (List.mem_singleton.2 rfl)
  obtain ⟨v, hread, -, hexpiry, -⟩ := (accepts_iff (storable_mouseShop 0)).1 haccepts
  have hexpired : ∀ v ∈ offerOf default "mer" "ofr" (mouseShop 0), v.expiresAt ≤ 0 := by decide
  exact absurd hexpiry (not_lt.2 (hexpired v hread))

end Recommendations
end AgenticCommerce
