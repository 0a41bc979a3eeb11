/-
# What is on sale and what is published

Offers are written by the imports and the publications, and read by the search and the checkout,
which ask for their status, their expiry and their stock and never for the version they belong to.
Whether only the published catalog is on sale is an invariant of the writers alone
(`OnlyPublished`): an import keeps it where it describes nothing that can be sold, and a
publication where nothing of another version of the merchant is on sale (`Step.Keeps`).

The first import of an active offer breaks it (`draft_on_sale`).
-/

import AgenticCommerce.Catalog.CsvImport
import AgenticCommerce.Catalog.Imports
import AgenticCommerce.Checkout.Acceptance
import AgenticCommerce.Offers.Isolation

namespace AgenticCommerce
namespace Catalog

open Relational

/-! ### The invariant -/

/-- The offer is active and has something in stock. -/
def OnSale (db : Database) (o : Offer) : Prop :=
  o ∈ db.offers ∧ o.status = .active ∧
    ∃ i ∈ db.inventory, i.offerId = o.offerId ∧ 1 ≤ i.availableQuantity - i.reservedQuantity

/-- The offer belongs to a version that is published for its merchant. -/
def Published (db : Database) (o : Offer) : Prop :=
  ∃ v ∈ db.catalogVersions, v.catalogVersionId = o.catalogVersionId ∧
    v.merchantId = o.merchantId ∧ v.status = .published

/-- Only the published catalog is on sale. -/
def OnlyPublished (db : Database) : Prop := ∀ o, OnSale db o → Published db o

/-! ### The readers -/

section

variable {env : Env} {db : Database} {merchantId : String} {constraints : OfferConstraints}
  {now : Time} {reading : Reading}

/-- **What a search returns** is on sale. -/
theorem onSale_of_searchOffers {rows : List SearchRow} {row : SearchRow}
    (h : db.searchOffers reading merchantId constraints now = some rows) (hrow : row ∈ rows) :
    OnSale db row.offer := by
  obtain ⟨-, rfl⟩ := searchOffers_eq_some.1 h
  have hmem := mem_ranked.1 (List.mem_of_mem_take hrow)
  rw [List.mem_filter, Bool.and_eq_true] at hmem
  obtain ⟨hjoined, hplain, -⟩ := hmem
  obtain ⟨o, ho, hjoin⟩ := List.mem_filterMap.1 hjoined
  simp only [Database.joined, Option.bind_eq_bind, Option.bind_eq_some_iff, Option.pure_def,
    Option.some.injEq] at hjoin
  obtain ⟨p, -, i, hi, rfl⟩ := hjoin
  have hsale := SearchRow.onSale_of_passesPlain hplain
  rw [SearchRow.onSale, Bool.and_eq_true, beq_iff_eq, decide_eq_true_eq] at hsale
  obtain ⟨hmem, hid⟩ := Table.first_eq_some hi
  exact ⟨(Table.mem_select.1 ho).1, hsale.1, i, hmem, beq_iff_eq.1 hid, hsale.2⟩

/-- **What a checkout accepts** is on sale. -/
theorem onSale_of_createCheckout {buyerId offerId : String} {quantity ttl : ℤ} {v : CheckoutV1}
    {w w' : World}
    (h : Checkout.createCheckout env buyerId merchantId offerId quantity ttl w = .ok v w') :
    ∃ o, OnSale w.db o ∧ o.offerId = offerId ∧ o.merchantId = merchantId := by
  obtain ⟨hquantity, offer, hread, hactive, -, i, hi, hid, hleft⟩ :=
    Checkout.reads_of_createCheckout h
  simp only [Checkout.offerOf, Option.bind_eq_bind, Option.bind_eq_some_iff] at hread
  obtain ⟨o, ho, p, -, j, -, hschema⟩ := hread
  obtain ⟨_, _, -, -, -, rfl⟩ := offerToSchema_eq_some.1 hschema
  obtain ⟨hmem, hmatch⟩ := Table.first_eq_some ho
  rw [Bool.and_eq_true, beq_iff_eq, beq_iff_eq] at hmatch
  exact ⟨o, ⟨hmem, hactive, i, hi, hid.trans hmatch.1.symm, by omega⟩, hmatch⟩

end

/-! ### The writers -/

/-- A call that writes the catalog. -/
inductive Step where
  | importArtifacts (x : Import)
  | publishImport (x : Publication)
  | publishCatalog (merchantId catalogVersionId : String)

/-- The unit of work of a call, without its answer. -/
def Step.op (engine : Engine) : Step → Op Unit
  | .importArtifacts x => do
      let _ ← importCatalogArtifacts engine x
      pure ()
  | .publishImport x => do
      let _ ← Catalog.publishImport engine x
      pure ()
  | .publishCatalog merchantId catalogVersionId => do
      let _ ← Catalog.publishCatalog merchantId catalogVersionId
      pure ()

/-- The store after a call: committed, or rolled back where it raised. -/
def Step.run (engine : Engine) (db : Database) (step : Step) : Database :=
  (Work.transaction World.restore (step.op engine) { db }).db

/-- The stock of an offer, and what is reserved of it; nothing where there is no row. -/
def stockOf (db : Database) (offerId : String) : ℤ × ℤ :=
  (db.inventory.first fun i => i.offerId == offerId).elim (0, 0) fun i =>
    (i.availableQuantity, i.reservedQuantity)

/-- The import describes nothing that can be sold: of an offer that it makes active there is no
more than what is reserved, stored or described. -/
def NothingForSale (rows : List (Offer × ℤ)) (db : Database) : Prop :=
  ∀ o, LastWritten (rows.map Prod.fst) o → o.status = .active →
    (stockOf db o.offerId).1 ≤ (stockOf db o.offerId).2 ∧
      ∀ row ∈ rows, row.1.offerId = o.offerId → row.2 ≤ (stockOf db o.offerId).2

/-- The call is one that leaves only the published catalog on sale: an import is skipped, or
describes nothing that can be sold; what a publication supersedes has nothing on sale. -/
def Step.Keeps (db : Database) : Step → Prop
  | .importArtifacts x => importedBefore x db ≠ none ∨
      ∀ rows, x.offers = some rows → NothingForSale rows db
  | .publishImport x => ∀ o, OnSale db o → o.merchantId ≠ x.merchantId
  | .publishCatalog merchantId catalogVersionId =>
      ∀ o, OnSale db o → o.merchantId = merchantId → o.catalogVersionId = catalogVersionId


section

variable {engine : Engine} {db db' : Database}

theorem stockOf_of_mem {i : Inventory} (hi : i ∈ db.inventory) :
    stockOf db i.offerId = (i.availableQuantity, i.reservedQuantity) := by
  rw [stockOf, inventory_first hi]
  rfl

theorem stockOf_of_new {offerId : String} (h : ∀ i ∈ db.inventory, i.offerId ≠ offerId) :
    stockOf db offerId = (0, 0) := by
  have hnone : (db.inventory.first fun i => i.offerId == offerId) = none :=
    Table.first_eq_none.2 fun i hi => beq_false_of_ne (h i hi)
  rw [stockOf, hnone]
  rfl

/-- An offer on sale has its stock. -/
theorem OnSale.stock {o : Offer} (h : OnSale db o) :
    (stockOf db o.offerId).2 < (stockOf db o.offerId).1 := by
  obtain ⟨-, -, i, hi, hid, hleft⟩ := h
  rw [← hid, stockOf_of_mem hi]
  exact (by omega : i.reservedQuantity < i.availableQuantity)

/-- A stock after an import: what is reserved is as it was, and what there is of it was stored or
is described. -/
theorem left_of_stocked {rows : List (Offer × ℤ)} {i : Inventory}
    (h : Stocked rows db.inventory db'.inventory) (hi : i ∈ db'.inventory) :
    i.reservedQuantity = (stockOf db i.offerId).2 ∧
      (i.availableQuantity = (stockOf db i.offerId).1 ∨
        ∃ row ∈ rows, row.1.offerId = i.offerId ∧ i.availableQuantity = row.2) := by
  rcases h i hi with ⟨j, hj, hid, hreserved, hcase⟩ | ⟨hnew, row, hrow, rfl⟩
  · rw [hid, stockOf_of_mem hj]
    refine ⟨hreserved, ?_⟩
    rcases hcase with rfl | ⟨-, -, -, hsame | hrow⟩
    · exact .inl rfl
    · exact .inl hsame
    · exact .inr hrow
  · rw [stockOf_of_new hnew]
    exact ⟨rfl, .inr ⟨row, hrow, rfl, rfl⟩⟩

/-- What is not described keeps its stock. -/
theorem kept_of_stocked {rows : List (Offer × ℤ)} {i : Inventory}
    (h : Stocked rows db.inventory db'.inventory) (hi : i ∈ db'.inventory)
    (hother : ∀ row ∈ rows, row.1.offerId ≠ i.offerId) : i ∈ db.inventory := by
  rcases h i hi with ⟨j, hj, hid, -, rfl | ⟨row, hrow, hrowid, -⟩⟩ | ⟨-, row, hrow, rfl⟩
  · exact hj
  · exact absurd (hrowid.trans hid.symm) (hother row hrow)
  · exact absurd rfl (hother row hrow)

/-- **An import that describes nothing for sale** puts nothing on sale. -/
theorem onlyPublished_of_stores {x : Import} {v : CatalogVersion} (h : OnlyPublished db)
    (hstores : Stores x v db db') (hkeeps : ∀ rows, x.offers = some rows → NothingForSale rows db) :
    OnlyPublished db' := by
  obtain ⟨rows, hrows, hwritten, hstocked⟩ := hstores.offers
  rintro o ⟨ho, hactive, i, hi, hid, hleft⟩
  rcases (hwritten o).1 ho with hlast | ⟨hold, hother⟩
  · -- what is described has no more than what is reserved
    obtain ⟨hstored, hdescribed⟩ := hkeeps rows hrows o hlast hactive
    obtain ⟨hreserved, havailable⟩ := left_of_stocked hstocked hi
    rw [hid] at hreserved havailable
    rcases havailable with havailable | ⟨row, hrow, hrowid, havailable⟩
    · omega
    · have hmost := hdescribed row hrow hrowid
      omega
  · -- what is not described was on sale before
    have hkept := kept_of_stocked hstocked hi fun row hrow hrowid =>
      of_decide_eq_false (hother row.1 (List.mem_map.2 ⟨row, hrow, rfl⟩)) (hrowid.trans hid)
    obtain ⟨v', hv', hpublished⟩ := h o ⟨hold, hactive, i, hkept, hid, hleft⟩
    exact ⟨v', (hstores.versions v').2 (.inl hv'), hpublished⟩

/-- **A publication where nothing of another version is on sale** leaves only what is published on
sale. -/
theorem onlyPublished_publishVersions {merchantId catalogVersionId : String} (h : OnlyPublished db)
    (hkeeps : ∀ o, OnSale db o → o.merchantId = merchantId →
      o.catalogVersionId = catalogVersionId) :
    OnlyPublished { db with
      catalogVersions := publishVersions merchantId catalogVersionId db.catalogVersions } := by
  intro o ho
  obtain ⟨v, hv, hid, hmerchant, hpublished⟩ := h o ho
  refine ⟨_, mem_publishVersions.2 ⟨v, hv, rfl⟩, publishRow_catalogVersionId.trans hid,
    publishRow_merchantId.trans hmerchant, ?_⟩
  rw [publishRow]
  split_ifs with hown htarget
  · rfl
  · exact absurd (hid.trans (hkeeps o ho (hmerchant.symm.trans hown))) htarget
  · exact hpublished

/-- The promoted offers are of the version that is published, and have the promoted stock. -/
structure OfVersion (x : Publication) (s : Promoted) : Prop where
  offers : ∀ o ∈ s.offers, o.catalogVersionId = x.draws.catalogVersionId ∧
    o.merchantId = x.merchantId
  inventory : ∀ i ∈ s.inventory, ∃ o ∈ s.offers, o.offerId = i.offerId

theorem OfVersion.promoteRow {x : Publication} {n : ℕ} {row : CatalogImportRow} {s s' : Promoted}
    (h : OfVersion x s) (hrow : promoteRow x n row s = some s') : OfVersion x s' := by
  obtain ⟨offer, hoffer, rfl⟩ := Option.map_eq_some_iff.1 hrow
  obtain ⟨status, -, rfl⟩ := Option.map_eq_some_iff.1 hoffer
  refine ⟨fun o ho => ?_, fun i hi => ?_⟩
  · rcases List.mem_append.1 ho with ho | ho
    · exact h.offers o ho
    · obtain rfl := List.mem_singleton.1 ho
      exact ⟨rfl, rfl⟩
  · rcases List.mem_append.1 hi with hi | hi
    · obtain ⟨o, ho, hid⟩ := h.inventory i hi
      exact ⟨o, List.mem_append_left _ ho, hid⟩
    · obtain rfl := List.mem_singleton.1 hi
      exact ⟨_, List.mem_append_right _ (List.mem_singleton.2 rfl), rfl⟩

theorem OfVersion.promoteRows {x : Publication} {n : ℕ} {rows : List CatalogImportRow}
    {s s' : Promoted} (h : OfVersion x s) (hrows : promoteRows x n rows s = some s') :
    OfVersion x s' := by
  induction rows generalizing n s with
  | nil =>
      obtain rfl := Option.some.inj hrows
      exact h
  | cons row rest ih =>
      obtain ⟨t, hrow, hrest⟩ := Option.bind_eq_some_iff.1 hrows
      exact ih (h.promoteRow hrow) hrest

/-- A flush that is not refused adds the promoted offers and their stock, and no version. -/
theorem flushPromoted_ok {s : Promoted} (h : flushPromoted engine s db = .ok ((), db')) :
    db'.catalogVersions = db.catalogVersions ∧ db.offers.insertAll s.offers = some db'.offers ∧
      db.inventory.insertAll s.inventory = some db'.inventory := by
  rw [flushPromoted] at h
  by_cases hrefused : engine.constrained = true ∧ s.inventory ≠ []
  · rw [if_pos hrefused] at h
    cases h
  · rw [if_neg hrefused] at h
    cases hproducts : db.products.insertAll s.products with
    | none =>
        rw [hproducts] at h
        cases h
    | some products =>
        cases himages : db.productImages.insertAll s.images with
        | none =>
            rw [hproducts, himages] at h
            cases h
        | some productImages =>
            cases hoffers : db.offers.insertAll s.offers with
            | none =>
                rw [hproducts, himages, hoffers] at h
                cases h
            | some offers =>
                cases hinventory : db.inventory.insertAll s.inventory with
                | none =>
                    rw [hproducts, himages, hoffers, hinventory] at h
                    cases h
                | some inventory =>
                    rw [hproducts, himages, hoffers, hinventory] at h
                    obtain ⟨-, rfl⟩ := Prod.mk.inj (Except.ok.inj h)
                    exact ⟨rfl, rfl, rfl⟩

theorem OfVersion.nil {x : Publication} : OfVersion x {} where
  offers _ ho := absurd ho List.not_mem_nil
  inventory _ hi := absurd hi List.not_mem_nil

/-- What is on sale after a flush was promoted, or was on sale before. -/
theorem onSale_of_flushPromoted {x : Publication} {s : Promoted} {o : Offer} (hof : OfVersion x s)
    (h : flushPromoted engine s db = .ok ((), db')) (ho : OnSale db' o) :
    o ∈ s.offers ∨ OnSale db o := by
  obtain ⟨-, hoffers, hinventory⟩ := flushPromoted_ok h
  obtain ⟨hmem, -, hnew⟩ := Table.insertAll_eq_some hoffers
  obtain ⟨ho, hactive, i, hi, hid, hleft⟩ := ho
  refine ((hmem o).1 ho).symm.imp_right fun hold => ⟨hold, hactive, i, ?_, hid, hleft⟩
  rcases ((Table.insertAll_eq_some hinventory).1 i).1 hi with hi | hi
  · exact hi
  · obtain ⟨o', ho', hid'⟩ := hof.inventory i hi
    have hclash := hnew o' ho' o hold
    exact absurd (hid.symm.trans hid'.symm) (of_decide_eq_false hclash)

/-- The version of a publication and those of the others, after it. -/
theorem versions_of_publishImport {x : Publication} {s : Promoted} {v : CatalogVersion}
    (hv : v ∈ db.catalogVersions) (hown : v = x.version ∨ v.merchantId ≠ x.merchantId) :
    ∃ v' ∈ publishVersions x.merchantId x.draws.catalogVersionId (x.complete s db).catalogVersions,
      v'.catalogVersionId = v.catalogVersionId ∧ v'.merchantId = v.merchantId ∧
        (v = x.version ∨ v.status = .published → v'.status = .published) := by
  obtain ⟨v₁, hv₁, hid, hmerchant, hstatus⟩ : ∃ v₁ ∈ (x.complete s db).catalogVersions,
      v₁.catalogVersionId = v.catalogVersionId ∧ v₁.merchantId = v.merchantId ∧
        v₁.status = v.status := by
    refine ⟨_, List.mem_map.2 ⟨v, hv, rfl⟩, ?_⟩
    split_ifs
    · exact ⟨rfl, rfl, rfl⟩
    · exact ⟨rfl, rfl, rfl⟩
  refine ⟨_, mem_publishVersions.2 ⟨v₁, hv₁, rfl⟩, publishRow_catalogVersionId.trans hid,
    publishRow_merchantId.trans hmerchant, fun hlive => ?_⟩
  rcases hown with rfl | hother
  · have hown : v₁.merchantId = x.merchantId := hmerchant
    have htarget : v₁.catalogVersionId = x.draws.catalogVersionId := hid
    rw [publishRow, if_pos hown, if_pos htarget]
  · rw [publishRow, if_neg (hmerchant.trans_ne hother), hstatus]
    refine hlive.resolve_left ?_
    rintro rfl
    exact hother rfl

/-- **The publication of an import where the merchant has nothing on sale** leaves only what is
published on sale. -/
theorem onlyPublished_of_publishImport {x : Publication} {w w' : World} {answer : String × ℤ × ℤ}
    (h : OnlyPublished w.db) (hkeeps : ∀ o, OnSale w.db o → o.merchantId ≠ x.merchantId)
    (hrun : Catalog.publishImport engine x w = .ok answer w') : OnlyPublished w'.db := by
  obtain ⟨imp, catalogVersions, s, db', -, -, hversions, hpromoted, hflush, -, rfl⟩ :=
    publishImport_eq_ok.1 hrun
  have hof := OfVersion.nil.promoteRows hpromoted
  have hsame : db'.catalogVersions = catalogVersions := (flushPromoted_ok hflush).1
  rw [← hsame] at hversions
  have hmem {v : CatalogVersion} := Table.mem_insert (b := v) hversions
  intro o ho
  have hsale : OnSale db' o := ho
  rcases onSale_of_flushPromoted hof hflush hsale with hnew | hold
  · obtain ⟨hid, hmerchant⟩ := hof.offers o hnew
    obtain ⟨v', hv', hid', hmerchant', hpublished⟩ :=
      versions_of_publishImport (s := s) (hmem.2 (.inr rfl)) (.inl rfl)
    exact ⟨v', hv', hid'.trans hid.symm, hmerchant'.trans hmerchant.symm, hpublished (.inl rfl)⟩
  · obtain ⟨v, hv, hid, hmerchant, hlive⟩ := h o hold
    obtain ⟨v', hv', hid', hmerchant', hpublished⟩ :=
      versions_of_publishImport (s := s) (hmem.2 (.inl hv))
        (.inr fun hown => hkeeps o hold (hmerchant.symm.trans hown))
    exact ⟨v', hv', hid'.trans hid, hmerchant'.trans hmerchant, hpublished (.inr hlive)⟩

/-! ### Runs -/

/-- **A call that keeps the published catalog apart.** -/
theorem Step.onlyPublished_run {step : Step} (h : OnlyPublished db)
    (hkeeps : (step.op engine).returns { db } = false ∨ step.Keeps db) :
    OnlyPublished (step.run engine db) := by
  refine Work.transaction_induction (motive := fun w : World => OnlyPublished w.db)
    (fun u w' hrun => ?_) fun _ _ _ => h
  replace hkeeps := hkeeps.resolve_left (by rw [Work.returns, hrun]; exact Bool.noConfusion)
  cases step with
  | importArtifacts x =>
      obtain ⟨v, w₁, himport, hpure⟩ := Work.bind_eq_ok.1 hrun
      obtain ⟨-, rfl⟩ := Work.pure_eq_ok.1 hpure
      obtain ⟨found, w₂, hquery, hrest⟩ := Work.bind_eq_ok.1 himport
      obtain ⟨rfl, rfl⟩ := query_eq_ok.1 hquery
      cases hfound : importedBefore x db with
      | some v' =>
          rw [hfound] at hrest
          obtain ⟨-, rfl⟩ := Work.pure_eq_ok.1 hrest
          exact h
      | none =>
          rw [hfound] at hrest
          exact onlyPublished_of_stores h (stores_of_importAnew hrest)
            (hkeeps.resolve_left (not_not.2 hfound))
  | publishImport x =>
      obtain ⟨answer, w₁, hpublish, hpure⟩ := Work.bind_eq_ok.1 hrun
      obtain ⟨-, rfl⟩ := Work.pure_eq_ok.1 hpure
      exact onlyPublished_of_publishImport (w := { db }) h hkeeps hpublish
  | publishCatalog merchantId catalogVersionId =>
      obtain ⟨answer, w₁, hpublish, hpure⟩ := Work.bind_eq_ok.1 hrun
      obtain ⟨-, rfl⟩ := Work.pure_eq_ok.1 hpure
      rw [Catalog.publishCatalog, atomicPublish_eq] at hpublish
      obtain ⟨-, rfl⟩ := EStateM.Result.ok.inj hpublish
      exact onlyPublished_publishVersions h hkeeps

/-- The stores a run of calls goes through, the first one included. -/
def stores (engine : Engine) : Database → List Step → List Database
  | db, [] => [db]
  | db, step :: rest => db :: stores engine (step.run engine db) rest

/-- Every call of a run keeps the published catalog apart in the store it finds, or raises. -/
def KeepsApart (engine : Engine) : Database → List Step → Prop
  | _, [] => True
  | db, step :: rest => ((step.op engine).returns { db } = false ∨ step.Keeps db) ∧
      KeepsApart engine (step.run engine db) rest

/-- Every reader of the store deals in published offers: the rows a search returns, and the offers
a checkout accepts. -/
structure SellsPublished (db : Database) : Prop where
  searched : ∀ reading merchantId constraints now rows,
    db.searchOffers reading merchantId constraints now = some rows →
      ∀ row ∈ rows, Published db row.offer
  bought : ∀ env buyerId merchantId offerId quantity ttl v w',
    Checkout.createCheckout env buyerId merchantId offerId quantity ttl { db } = .ok v w' →
      ∃ o ∈ db.offers, o.offerId = offerId ∧ o.merchantId = merchantId ∧ Published db o

theorem OnlyPublished.sells (h : OnlyPublished db) : SellsPublished db where
  searched _ _ _ _ _ hsearch row hrow := h row.offer (onSale_of_searchOffers hsearch hrow)
  bought _ _ _ _ _ _ _ _ hcheckout := by
    obtain ⟨o, ho, hid, hmerchant⟩ := onSale_of_createCheckout hcheckout
    exact ⟨o, ho.1, hid, hmerchant, h o ho⟩

/-- In every store of a run the readers deal in published offers. -/
def SellsThroughout (engine : Engine) (db : Database) (steps : List Step) : Prop :=
  ∀ db' ∈ stores engine db steps, SellsPublished db'

end

/-! ### A keyboard -/

/-- The line of a keyboard in the products file. -/
def keyboardLine : Json :=
  .obj [("product_id", .str "prd_1"), ("title", .str "A keyboard"),
    ("category_id", .str "computer_accessory")]

/-- Its line in the offers file, under a status. -/
def keyboardOffer (status : String) : Json :=
  .obj [("product_id", .str "prd_1"), ("offer_id", .str "off_1"), ("status", .str status),
    ("unit_price_minor", .int 100), ("available_quantity", .int 5)]

/-- The import of the keyboard by its merchant. -/
def keyboardImport (status : String) : Import where
  merchantId := "mer_1"
  files := ⟨some [0], some [1]⟩
  env := { (default : Env) with
    reading := { (default : Reading) with
      lines := fun bytes => some [if bytes = [0] then keyboardLine else keyboardOffer status] } }
  draws := ⟨"run_1", "cat_1", fun _ => "prd", fun _ _ => "img", fun _ => "off"⟩

/-- The store after the import. -/
def afterKeyboard (status : String) : Database :=
  (Step.importArtifacts (keyboardImport status)).run ⟨true, []⟩ {}

end Catalog
end AgenticCommerce
