/-
# What one merchant's reads depend on

Two stores that agree on everything a merchant owns (`OwnedAlike`), and the reads of that
merchant: the offer search, an offer by its identifier, and every scoped repository
(`SameReads`).  The repositories see the merchant's rows only.  The other two join an offer
with the product it names, and nothing asks that the product be the merchant's: an import
stores whatever `product_id` its file gives.

`reads_isolated_iff` says that this is the only leak: the reads depend on the merchant's own
rows exactly when every offer that a read can show is of a product of that merchant.
-/

import AgenticCommerce.Offers.Agreement
import AgenticCommerce.Tenancy

namespace AgenticCommerce

open Relational

/-- What `get_offer_by_id` answers. -/
def offerAnswer (env : Env) (merchantId offerId : String) (db : Database) : Except Failure OfferV1 :=
  match getOfferById env merchantId offerId { db } with
  | .ok offer _ => .ok offer
  | .error failure _ => .error failure

/-- The foreign key of an offer's product. -/
def Database.Referential (db : Database) : Prop :=
  ∀ o ∈ db.offers, ∃ p ∈ db.products, p.productId = o.productId

/-- Two stores agree on what a merchant owns: its rows, the stock of its offers and the images
of its products. -/
structure OwnedAlike (merchantId : String) (db db' : Database) : Prop where
  rows : ∀ {α : Type} [Keyed α] {repo : Repository α}, Declared repo →
    repo.owned merchantId db = repo.owned merchantId db'
  inventory : ∀ o ∈ db.offers, o.merchantId = merchantId →
    (db.inventory.first fun i => i.offerId == o.offerId) =
      db'.inventory.first fun i => i.offerId == o.offerId
  images : ∀ p ∈ db.products, p.merchantId = merchantId →
    (db.productImages.select fun i => i.productId == p.productId) =
      db'.productImages.select fun i => i.productId == p.productId

/-- Every read of a merchant returns the same in two stores. -/
structure SameReads (env : Env) (merchantId : String) (db db' : Database) : Prop where
  search : ∀ constraints now, db.searchOffers env.reading merchantId constraints now =
    db'.searchOffers env.reading merchantId constraints now
  offer : ∀ offerId, offerAnswer env merchantId offerId db = offerAnswer env merchantId offerId db'
  repositories : ∀ {α : Type} [Keyed α] {repo : Repository α}, Declared repo →
    ∀ scope : TenantScope, scope.merchantId = merchantId →
      (∀ statement, repo.scalars scope statement db = repo.scalars scope statement db') ∧
      (∀ limit, repo.listAll scope limit db = repo.listAll scope limit db') ∧
      (∀ columns, repo.findBy scope columns db = repo.findBy scope columns db') ∧
      (∀ identity, repo.get scope identity db = repo.get scope identity db') ∧
      repo.count scope db = repo.count scope db'

/-- A read can show the offer: the search when it is active and in stock, `get_offer_by_id`
when its own columns pass validation. -/
def Offer.Shown (offer : Offer) (inventory : Inventory) : Prop :=
  offer.status = .active ∧ 1 ≤ inventory.availableQuantity - inventory.reservedQuantity ∨
    offer.WellFormed ∧ CurrencyCode.ofString? offer.currency ≠ none

/-- Every offer of a merchant that a read can show is of a product of that merchant. -/
def Database.OwnProducts (db : Database) (merchantId : String) : Prop :=
  ∀ o ∈ db.offers, o.merchantId = merchantId → ∀ i ∈ db.inventory, i.offerId = o.offerId →
    o.Shown i → ∃ p ∈ db.products, p.productId = o.productId ∧ p.merchantId = merchantId

section

variable {env : Env} {db db' : Database} {merchantId offerId : String} {o : Offer} {p : Product}
  {i : Inventory} {reading : Reading} {constraints : OfferConstraints} {now : Time}

/-! ### Rows by their keys -/

theorem products_first (hp : p ∈ db.products) :
    (db.products.first fun q => q.productId == p.productId) = some p :=
  Table.first_of_mem hp (beq_self_eq_true _) fun q hq h =>
    Table.eq_of_clash hq hp (by simpa [clashes, Keyed.clash, Keyed.key] using h)

theorem inventory_first (hi : i ∈ db.inventory) :
    (db.inventory.first fun j => j.offerId == i.offerId) = some i :=
  Table.first_of_mem hi (beq_self_eq_true _) fun q hq h =>
    Table.eq_of_clash hq hi (by simpa [clashes, Keyed.clash, Keyed.key] using h)

namespace OwnedAlike

theorem offer_mem (h : OwnedAlike merchantId db db') (hm : o.merchantId = merchantId) :
    o ∈ db.offers ↔ o ∈ db'.offers := by
  have hrows := h.rows .offer
  simp only [Repository.owned, offerRepository] at hrows
  have := congrArg (o ∈ ·) hrows
  simpa [Table.mem_select, hm] using this

theorem product_mem (h : OwnedAlike merchantId db db') (hm : p.merchantId = merchantId) :
    p ∈ db.products ↔ p ∈ db'.products := by
  have hrows := h.rows .product
  simp only [Repository.owned, productRepository] at hrows
  have := congrArg (p ∈ ·) hrows
  simpa [Table.mem_select, hm] using this

theorem symm (h : OwnedAlike merchantId db db') : OwnedAlike merchantId db' db where
  rows hrepo := (h.rows hrepo).symm
  inventory _ ho hm := (h.inventory _ ((h.offer_mem hm).2 ho) hm).symm
  images _ hp hm := (h.images _ ((h.product_mem hm).2 hp) hm).symm

theorem inventory_mem (h : OwnedAlike merchantId db db') (ho : o ∈ db.offers)
    (hm : o.merchantId = merchantId) (hi : i ∈ db.inventory) (hid : i.offerId = o.offerId) :
    i ∈ db'.inventory := by
  have hfirst := h.inventory o ho hm
  rw [← hid, inventory_first hi] at hfirst
  exact (Table.first_eq_some hfirst.symm).1

theorem ownProducts (h : OwnedAlike merchantId db db') (hown : db.OwnProducts merchantId) :
    db'.OwnProducts merchantId := by
  intro o ho hm i hi hid hshown
  have ho' := (h.offer_mem hm).2 ho
  obtain ⟨p, hp, hpid, hpm⟩ := hown o ho' hm i (h.symm.inventory_mem ho hm hi hid) hid hshown
  exact ⟨p, (h.product_mem hpm).1 hp, hpid, hpm⟩

/-- **An offer of an own product is joined with the same product, stock and image.** -/
theorem joined (h : OwnedAlike merchantId db db') (ho : o ∈ db.offers)
    (hm : o.merchantId = merchantId) (hp : p ∈ db.products) (hid : p.productId = o.productId)
    (hpm : p.merchantId = merchantId) : db.joined o = db'.joined o := by
  have himages := h.images p hp hpm
  rw [hid] at himages
  have hproduct : (db.products.first fun q => q.productId == o.productId) =
      db'.products.first fun q => q.productId == o.productId := by
    rw [← hid, products_first hp, products_first ((h.product_mem hpm).1 hp)]
  simp only [Database.joined, Database.primaryImage, hproduct, h.inventory o ho hm, himages]

end OwnedAlike

/-! ### The search -/

/-- The rows a search can return. -/
def SearchRow.onSale (row : SearchRow) : Bool :=
  row.offer.status == .active &&
    decide (1 ≤ row.inventory.availableQuantity - row.inventory.reservedQuantity)

theorem SearchRow.onSale_of_passesPlain {row : SearchRow}
    (h : row.passesPlain constraints now = true) : row.onSale = true := by
  have hpos := constraints.quantity_pos
  simp only [passesPlain, Bool.and_eq_true, decide_eq_true_eq] at h
  obtain ⟨⟨⟨⟨hactive, -⟩, hstock⟩, -⟩, -⟩ := h
  simp only [onSale, hactive, Bool.true_and, decide_eq_true_eq]
  omega

/-- **A search is one of the rows on sale.** -/
theorem searchOffers_congr (h : (db.searchRows merchantId).filter SearchRow.onSale =
    (db'.searchRows merchantId).filter SearchRow.onSale) :
    db.searchOffers reading merchantId constraints now =
      db'.searchOffers reading merchantId constraints now := by
  have hfilter : ∀ d : Database, ((d.searchRows merchantId).filter fun row =>
      row.passesPlain constraints now && row.passesInSql reading constraints) =
      ((d.searchRows merchantId).filter SearchRow.onSale).filter fun row =>
        row.passesPlain constraints now && row.passesInSql reading constraints := fun d => by
    rw [List.filter_filter]
    refine List.filter_congr fun row _ => ?_
    cases hplain : row.passesPlain constraints now
    · rfl
    · rw [SearchRow.onSale_of_passesPlain hplain, Bool.and_true]
  have hcast : ∀ d : Database, (∀ row ∈ d.searchRows merchantId,
      row.Castable reading constraints now) ↔
      ∀ row ∈ (d.searchRows merchantId).filter SearchRow.onSale,
        row.Castable reading constraints now := fun d => by
    refine ⟨fun hall row hrow => hall row (List.mem_of_mem_filter hrow), fun hall row hrow => ?_⟩
    intro hplain
    have hsale := SearchRow.onSale_of_passesPlain hplain
    exact hall row (List.mem_filter.2 ⟨hrow, hsale⟩) hplain
  refine Option.ext fun rows => ?_
  rw [searchOffers_eq_some, searchOffers_eq_some, hfilter db, hfilter db', hcast db, hcast db', h]

/-- A row on sale shows its offer. -/
theorem shown_of_onSale {row : SearchRow} (hrow : db.joined o = some row)
    (hsale : row.onSale = true) : ∃ i ∈ db.inventory, i.offerId = o.offerId ∧ o.Shown i := by
  simp only [Database.joined, Option.bind_eq_bind, Option.bind_eq_some_iff, Option.pure_def,
    Option.some.injEq] at hrow
  obtain ⟨_, -, i, hi, rfl⟩ := hrow
  obtain ⟨hmem, hid⟩ := Table.first_eq_some hi
  simp only [SearchRow.onSale, Bool.and_eq_true, beq_iff_eq, decide_eq_true_eq] at hsale
  exact ⟨i, hmem, by simpa using hid, .inl hsale⟩

theorem searchRows_onSale (h : OwnedAlike merchantId db db') (hown : db.OwnProducts merchantId) :
    (db.searchRows merchantId).filter SearchRow.onSale =
      (db'.searchRows merchantId).filter SearchRow.onSale := by
  have hrows : (db.offers.select fun o => o.merchantId == merchantId) =
      db'.offers.select fun o => o.merchantId == merchantId := h.rows .offer
  rw [Database.searchRows, Database.searchRows, ← hrows, List.filter_filterMap,
    List.filter_filterMap]
  refine List.filterMap_congr fun o ho => ?_
  obtain ⟨ho, hm⟩ := Table.mem_select.1 ho
  rw [beq_iff_eq] at hm
  have hsame : ∀ {d d' : Database}, OwnedAlike merchantId d d' → d.OwnProducts merchantId →
      o ∈ d.offers → ∀ row, (d.joined o).filter SearchRow.onSale = some row →
        (d'.joined o).filter SearchRow.onSale = some row := by
    intro d d' h hown ho row hrow
    obtain ⟨hjoined, hsale⟩ := Option.filter_eq_some_iff.1 hrow
    obtain ⟨i, hi, hid, hshown⟩ := shown_of_onSale hjoined hsale
    obtain ⟨p, hp, hpid, hpm⟩ := hown o ho hm i hi hid hshown
    rw [← h.joined ho hm hp hpid hpm]
    exact hrow
  refine Option.ext fun row => ⟨hsame h hown ho row, ?_⟩
  exact hsame h.symm (h.ownProducts hown) ((h.offer_mem hm).1 ho) row

/-! ### An offer by its identifier -/

/-- The offer of a merchant with that identifier. -/
def Database.offerOf (db : Database) (merchantId offerId : String) : Option Offer :=
  db.offers.first fun o => o.offerId == offerId && o.merchantId == merchantId

/-- The failure of `get_offer_by_id`. -/
def offerMissing : Failure := .raised "The requested offer does not exist." .offerNotFound

/-- **What `get_offer_by_id` answers**: the projection of the offer's join. -/
theorem offerAnswer_eq : offerAnswer env merchantId offerId db =
    match (db.offerOf merchantId offerId).bind db.joined with
    | none => .error offerMissing
    | some row => (offerToSchema env.reading row.offer row.product row.inventory).elim
        (.error (.exception "OfferV1 validation failed")) .ok := by
  simp only [offerAnswer, getOfferById, bind, EStateM.bind, require, Work.ask, ofAnswer,
    Database.offerOf]
  cases db.offers.first fun o => o.offerId == offerId && o.merchantId == merchantId with
  | none => rfl
  | some o =>
      simp only [Option.bind_some, Database.joined]
      cases db.products.first fun p => p.productId == o.productId with
      | none => rfl
      | some p =>
          dsimp only [Option.bind_eq_bind, Option.bind_some, Option.pure_def]
          cases db.inventory.first fun i => i.offerId == o.offerId with
          | none => rfl
          | some i =>
              dsimp only [Option.bind_some]
              cases offerToSchema env.reading o p i <;> rfl

theorem joined_of_mem (hp : p ∈ db.products) (hpid : p.productId = o.productId)
    (hi : i ∈ db.inventory) (hid : i.offerId = o.offerId) : db.joined o =
      some { offer := o, product := p, inventory := i, imageUrl := db.primaryImage o.productId } := by
  have hproduct := products_first hp
  have hinventory := inventory_first hi
  rw [hpid] at hproduct
  rw [hid] at hinventory
  simp only [Database.joined, hproduct, hinventory, Option.bind_eq_bind, Option.bind_some,
    Option.pure_def]

/-- An offer that is not shown does not pass validation, whatever its product. -/
theorem offerToSchema_of_not_shown (h : ¬o.Shown i) : offerToSchema reading o p i = none := by
  cases hprojected : offerToSchema reading o p i with
  | none => rfl
  | some v =>
      obtain ⟨_, currency, -, hcurrency, hvalid, -⟩ := offerToSchema_eq_some.1 hprojected
      exact absurd (.inr ⟨hvalid, by rw [hcurrency]; nofun⟩) h

/-- **An offer of an own product is answered the same.** -/
theorem offerAnswer_congr (h : OwnedAlike merchantId db db') (hown : db.OwnProducts merchantId)
    (hdb : db.Referential) (hdb' : db'.Referential) :
    offerAnswer env merchantId offerId db = offerAnswer env merchantId offerId db' := by
  have hfind : ∀ d : Database, d.offerOf merchantId offerId =
      (offerRepository.owned merchantId d).find? fun o => o.offerId == offerId := fun d => by
    rw [Database.offerOf, Repository.owned, Table.select, List.find?_filter, Table.first]
    refine congrFun (congrArg _ (funext fun o => ?_)) _
    simp [offerRepository, Bool.and_comm, Bool.beq_eq_decide_eq]
  rw [offerAnswer_eq, offerAnswer_eq, hfind db', ← h.rows .offer, ← hfind db]
  cases hfound : db.offerOf merchantId offerId with
  | none => rfl
  | some o =>
      obtain ⟨ho, hkeys⟩ := Table.first_eq_some hfound
      simp only [Bool.and_eq_true, beq_iff_eq] at hkeys
      obtain ⟨p, hp, hpid⟩ := hdb o ho
      obtain ⟨p', hp', hpid'⟩ := hdb' o ((h.offer_mem hkeys.2).1 ho)
      have hstock := h.inventory o ho hkeys.2
      rw [Option.bind_some, Option.bind_some]
      cases hi : db.inventory.first fun i => i.offerId == o.offerId with
      | none =>
          rw [hi] at hstock
          simp [Database.joined, hi, ← hstock]
      | some i =>
          obtain ⟨hi, hid⟩ := Table.first_eq_some hi
          rw [beq_iff_eq] at hid
          by_cases hshown : o.Shown i
          · obtain ⟨q, hq, hqid, hqm⟩ := hown o ho hkeys.2 i hi hid hshown
            rw [h.joined ho hkeys.2 hq hqid hqm]
          · have hi' := h.inventory_mem ho hkeys.2 hi hid
            rw [joined_of_mem hp hpid hi hid, joined_of_mem hp' hpid' hi' hid]
            simp only [offerToSchema_of_not_shown hshown]

/-! ### What another merchant's product tells -/

/-- The store with another product in the place of the one with its identifier. -/
def Database.putProduct (db : Database) (productId : String) (f : Product → Product)
    (hf : ∀ p, (f p).productId = p.productId) : Database :=
  { db with products := db.products.modify (fun p => p.productId == productId) f hf }

/-- **Another merchant's product can be rewritten** under the eyes of the merchant. -/
theorem ownedAlike_putProduct {f : Product → Product} (hf : ∀ p, (f p).productId = p.productId)
    (hm : ∀ p, (f p).merchantId = p.merchantId) (hp : p ∈ db.products)
    (hother : p.merchantId ≠ merchantId) :
    OwnedAlike merchantId db (db.putProduct p.productId f hf) where
  rows hrepo := by
    cases hrepo with
    | product =>
        refine (Table.select_modify_of_not (h := hf)
          (q := fun q : Product => q.merchantId == merchantId) (fun q => by rw [hm])
          fun q hq => ?_).symm
        obtain ⟨hq, hqm⟩ := Table.mem_select.1 hq
        rw [beq_iff_eq] at hqm
        rw [beq_eq_false_iff_ne]
        intro hid
        have hsame : q = p := Table.eq_of_clash hq hp (by simp [clashes, Keyed.clash, Keyed.key, hid])
        exact hother (hsame ▸ hqm)
    | _ => rfl
  inventory _ _ _ := rfl
  images _ _ _ := rfl

theorem referential_putProduct {f : Product → Product} (hf : ∀ p, (f p).productId = p.productId)
    {productId : String} (h : db.Referential) : (db.putProduct productId f hf).Referential := by
  intro o ho
  obtain ⟨p, hp, hid⟩ := h o ho
  refine ⟨_, Table.mem_modify_of_mem (h := hf) hp, ?_⟩
  split_ifs
  · rw [hf, hid]
  · exact hid

theorem mem_putProduct {f : Product → Product} {hf : ∀ p, (f p).productId = p.productId}
    (hp : p ∈ db.products) : f p ∈ (db.putProduct p.productId f hf).products :=
  Table.mem_modify_of_match (h := hf) hp (beq_self_eq_true _)

/-- An offer with its product and its stock is answered by its projection. -/
theorem offerAnswer_of_mem (ho : o ∈ db.offers) (hp : p ∈ db.products)
    (hpid : p.productId = o.productId) (hi : i ∈ db.inventory) (hid : i.offerId = o.offerId) :
    offerAnswer env o.merchantId o.offerId db = (offerToSchema env.reading o p i).elim
      (.error (.exception "OfferV1 validation failed")) .ok := by
  have hfound : db.offerOf o.merchantId o.offerId = some o := by
    refine Table.first_of_mem ho (by simp) fun q hq h => Table.eq_of_clash hq ho ?_
    simp only [Bool.and_eq_true, beq_iff_eq] at h
    simp [clashes, Keyed.clash, Keyed.key, h.1]
  rw [offerAnswer_eq, hfound, Option.bind_some, joined_of_mem hp hpid hi hid]

theorem specificationsToSchema_of_bool {p : Product} :
    specificationsToSchema reading { p with specifications := .bool true } = none := rfl

theorem specificationsToSchema_of_empty {p : Product} :
    specificationsToSchema reading { p with specifications := .obj [] } ≠ none := nofun

/-- **An offer that passes validation tells its product's specifications.** -/
theorem offerAnswer_tells (ho : o ∈ db.offers) (hp : p ∈ db.products)
    (hpid : p.productId = o.productId) (hi : i ∈ db.inventory) (hid : i.offerId = o.offerId)
    (hvalid : o.WellFormed) (hcurrency : CurrencyCode.ofString? o.currency ≠ none) :
    ∃ j, offerAnswer env o.merchantId o.offerId db ≠ offerAnswer env o.merchantId o.offerId
      (db.putProduct p.productId (fun p => { p with specifications := j }) fun _ => rfl) := by
  obtain ⟨currency, hcurrency⟩ := Option.ne_none_iff_exists'.1 hcurrency
  have hprojected : ∀ q : Product, offerToSchema env.reading o q i = none ↔
      specificationsToSchema env.reading q = none := fun q => by
    cases hs : specificationsToSchema env.reading q with
    | none => simp [offerToSchema, hs]
    | some s => simp [offerToSchema, hs, hcurrency, hvalid]
  have hbefore : offerAnswer env o.merchantId o.offerId db = _ :=
    offerAnswer_of_mem ho hp hpid hi hid
  have hafter : ∀ j, offerAnswer env o.merchantId o.offerId
      (db.putProduct p.productId (fun p => { p with specifications := j }) fun _ => rfl) = _ :=
    fun j => offerAnswer_of_mem ho (mem_putProduct hp) hpid hi hid
  cases hnow : offerToSchema env.reading o p i with
  | none =>
      obtain ⟨v, hv⟩ := Option.ne_none_iff_exists'.1
        (mt (hprojected { p with specifications := .obj [] }).1 specificationsToSchema_of_empty)
      refine ⟨.obj [], ?_⟩
      rw [hbefore, hafter, hnow, hv]
      rintro ⟨⟩
  | some v =>
      refine ⟨.bool true, ?_⟩
      rw [hbefore, hafter, hnow, (hprojected _).2 specificationsToSchema_of_bool]
      rintro ⟨⟩

/-! ### What a search tells -/

/-- A category no product is of. -/
def Database.freshCategory (db : Database) : String :=
  String.ofList (List.replicate
    ((db.products.rows.map fun p => p.categoryId.toList.length).sum + 1) 'x')

theorem freshCategory_toList : db.freshCategory.toList = List.replicate
    ((db.products.rows.map fun p => p.categoryId.toList.length).sum + 1) 'x' :=
  String.toList_ofList

theorem categoryId_ne_fresh (hp : p ∈ db.products) : p.categoryId ≠ db.freshCategory := by
  intro h
  have hle := List.le_sum_of_mem (List.mem_map_of_mem (f := fun p : Product =>
    p.categoryId.toList.length) hp)
  have hlength := congrArg (fun s : String => s.toList.length) h
  simp only [freshCategory_toList, List.length_replicate] at hlength
  omega

/-- It is its own normal spelling. -/
theorem inCategory_fresh {categoryId : String} :
    inCategory (some db.freshCategory) categoryId = true ↔ categoryId = db.freshCategory := by
  have hletters : ∀ c ∈ db.freshCategory.toList, c = 'x' := fun c hc => by
    rw [freshCategory_toList] at hc
    exact List.eq_of_mem_replicate hc
  have hends : ∀ suffix : String, 's' ∈ suffix.toList →
      endsWith db.freshCategory suffix = false := fun suffix hs => by
    rw [endsWith, Bool.eq_false_iff, Ne, List.isSuffixOf_iff_suffix]
    intro hsuffix
    exact absurd (hletters _ (hsuffix.subset hs)) (by decide)
  have hne : ∀ text : String, (∃ c ∈ text.toList, c ≠ 'x') ∨ text = "" →
      db.freshCategory ≠ text := by
    rintro text (⟨c, hc, hx⟩ | rfl) h
    · exact hx (hletters c (h ▸ hc))
    · have := congrArg String.toList h
      simp [freshCategory_toList] at this
  have hempty := hne "" (.inr rfl)
  have hnormal : normalizeCategory db.freshCategory = db.freshCategory := by
    rw [normalizeCategory, if_neg, if_neg, if_neg]
    · rw [hends "s" (by decide)]; exact fun h => Bool.false_ne_true h.1
    · rw [hends "ies" (by decide)]; exact fun h => Bool.false_ne_true h.1
    · rintro (h | h)
      · exact hne _ (.inl ⟨'a', by decide, by decide⟩) h
      · exact hne _ (.inl ⟨'c', by decide, by decide⟩) h
  rw [inCategory, Option.bind_some, categorySpellings, if_neg hempty, hnormal, if_neg, if_neg hempty,
    if_pos rfl]
  · simp
  · exact hne _ (.inl ⟨'c', by decide, by decide⟩)

/-- The search for the fresh category, just before the offer expires. -/
theorem searchOffers_fresh {rows : List SearchRow} {d : Database} :
    d.searchOffers reading merchantId { category := some db.freshCategory } (o.expiresAt - 1) =
      some rows → (rows = [] ↔ ∀ row ∈ d.searchRows merchantId, row.product.categoryId =
        db.freshCategory → row.passesPlain {} (o.expiresAt - 1) = false) := by
  intro h
  obtain ⟨-, rfl⟩ := searchOffers_eq_some.1 h
  have hlimit := OfferConstraints.cappedLimit_pos { category := some db.freshCategory }
  rw [List.take_eq_nil_iff, or_iff_right (by omega), ← List.length_eq_zero_iff, ranked,
    List.length_insertionSort, List.length_eq_zero_iff, List.filter_eq_nil_iff]
  refine forall₂_congr fun row _ => ?_
  simp only [SearchRow.passesInSql, SearchRow.castMeets, meets, Bool.and_true, Bool.and_eq_true,
    inCategory_fresh, not_and, ← Bool.not_eq_true]
  exact ⟨fun h hc hp => h hp hc, fun h hp hc => h hc hp⟩

/-- **An offer on sale tells its product's category.** -/
theorem searchOffers_tells (ho : o ∈ db.offers) (hp : p ∈ db.products)
    (hpid : p.productId = o.productId) (hi : i ∈ db.inventory) (hid : i.offerId = o.offerId)
    (hactive : o.status = .active) (hstock : 1 ≤ i.availableQuantity - i.reservedQuantity) :
    db.searchOffers reading o.merchantId { category := some db.freshCategory } (o.expiresAt - 1) ≠
      (db.putProduct p.productId (fun p => { p with categoryId := db.freshCategory })
        fun _ => rfl).searchOffers reading o.merchantId { category := some db.freshCategory }
          (o.expiresAt - 1) := by
  have hcast : ∀ d : Database, ∃ rows, d.searchOffers reading o.merchantId
      { category := some db.freshCategory } (o.expiresAt - 1) = some rows := fun d =>
    ⟨_, searchOffers_eq_some.2 ⟨fun _ _ _ _ => ⟨fun h => absurd rfl h, fun _ h => absurd rfl h⟩,
      rfl⟩⟩
  obtain ⟨rows, hrows⟩ := hcast db
  have hbefore : rows = [] := (searchOffers_fresh hrows).2 fun row hrow hcategory => by
    obtain ⟨_, -, hjoined⟩ := List.mem_filterMap.1 hrow
    simp only [Database.joined, Option.bind_eq_bind, Option.bind_eq_some_iff, Option.pure_def,
      Option.some.injEq] at hjoined
    obtain ⟨q, hq, _, -, rfl⟩ := hjoined
    exact absurd hcategory (categoryId_ne_fresh (Table.first_eq_some hq).1)
  intro hsame
  rw [hrows, eq_comm] at hsame
  have hafter := (searchOffers_fresh hsame).1 hbefore
  have hrow := hafter _ (List.mem_filterMap.2 ⟨o, Table.mem_select.2 ⟨ho, beq_self_eq_true _⟩,
    joined_of_mem (mem_putProduct hp) hpid hi hid⟩) rfl
  simp [SearchRow.passesPlain, hactive, hstock, within] at hrow

/-- **The reads of a merchant depend on its own rows exactly when** every offer that one of them
can show is of an own product. -/
theorem reads_isolated_iff (hdb : db.Referential) :
    (∀ db', db'.Referential → OwnedAlike merchantId db db' → SameReads env merchantId db db') ↔
      db.OwnProducts merchantId := by
  constructor
  · intro h o ho hm i hi hid hshown
    obtain ⟨p, hp, hpid⟩ := hdb o ho
    by_contra hnone
    have hother : p.merchantId ≠ merchantId := fun hpm => hnone ⟨p, hp, hpid, hpm⟩
    subst hm
    have hreads : ∀ f hf, (∀ q, (f q).merchantId = q.merchantId) →
        SameReads env o.merchantId db (db.putProduct p.productId f hf) := fun f hf hmerchant =>
      h _ (referential_putProduct hf hdb) (ownedAlike_putProduct hf hmerchant hp hother)
    rcases hshown with ⟨hactive, hstock⟩ | ⟨hvalid, hcurrency⟩
    · have hsame := hreads (fun p => { p with categoryId := db.freshCategory }) (fun _ => rfl)
        fun _ => rfl
      exact searchOffers_tells ho hp hpid hi hid hactive hstock (hsame.search _ _)
    · obtain ⟨j, hj⟩ := @offerAnswer_tells env _ _ _ _ ho hp hpid hi hid hvalid hcurrency
      have hsame := hreads (fun p => { p with specifications := j }) (fun _ => rfl) fun _ => rfl
      exact hj (hsame.offer _)
  · intro hown db' hdb' h
    refine ⟨fun constraints now => searchOffers_congr (searchRows_onSale h hown),
      fun offerId => offerAnswer_congr h hown hdb hdb', ?_⟩
    rintro α _ repo hrepo scope rfl
    have hscalars : ∀ statement, repo.scalars scope statement db = repo.scalars scope statement db' :=
      fun _ => Repository.scalars_congr (h.rows hrepo)
    refine ⟨hscalars, fun _ => hscalars _, fun _ => hscalars _, fun identity => ?_, ?_⟩
    · rw [Repository.get, Repository.get, Repository.findBy, Repository.findBy, hscalars]
    · rw [Repository.count, Repository.count, hscalars]

/-- The reads of a shop that sells its own product. -/
theorem pluralShop_isolated : pluralShop.Referential ∧
    ∀ db', db'.Referential → OwnedAlike "mer" pluralShop db' →
      SameReads default "mer" pluralShop db' := by
  have hown : pluralShop.OwnProducts "mer" := by
    rintro o ho - - - hid -
    obtain rfl := List.mem_singleton.1 ho
    exact ⟨_, List.mem_singleton_self _, rfl, rfl⟩
  have href : pluralShop.Referential := by
    intro o ho
    obtain rfl := List.mem_singleton.1 ho
    exact ⟨_, List.mem_singleton_self _, rfl⟩
  exact ⟨href, (reads_isolated_iff href).2 hown⟩

/-! ### An offer of another merchant's product -/

/-- The other merchant's product. -/
def foreignProduct : Product := { productId := "prd", merchantId := "other", categoryId := "laptop" }

/-- A shop that offers the product of another merchant. -/
def borrowingShop : Database where
  offers := pluralShop.offers
  products := ⟨[foreignProduct], by decide⟩
  inventory := pluralShop.inventory

/-- The shop after the other merchant has moved its product to another category. -/
def borrowingShopAfter : Database :=
  borrowingShop.putProduct "prd" (fun p => { p with categoryId := "audio" }) fun _ => rfl

/-- **Another merchant's import changes what a merchant's search finds.** -/
theorem foreign_product_leaks : borrowingShop.Referential ∧ borrowingShopAfter.Referential ∧
    OwnedAlike "mer" borrowingShop borrowingShopAfter ∧
    ¬SameReads default "mer" borrowingShop borrowingShopAfter := by
  have href : borrowingShop.Referential := by
    intro o ho
    obtain rfl := List.mem_singleton.1 ho
    exact ⟨_, List.mem_singleton_self _, rfl⟩
  refine ⟨href, referential_putProduct _ href, ?_, fun h => ?_⟩
  · have hp : foreignProduct ∈ borrowingShop.products := List.mem_singleton_self _
    have hother : foreignProduct.merchantId ≠ "mer" := by decide
    exact ownedAlike_putProduct (f := fun p => { p with categoryId := "audio" }) (fun _ => rfl)
      (fun _ => rfl) hp hother
  · exact absurd (h.search { category := some "laptop" } 0) (by decide)

end
end AgenticCommerce
