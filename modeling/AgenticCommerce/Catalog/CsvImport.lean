/-
# A CSV import, end to end

`validate_import` of `services/catalog/service.py`, and `publish_import` after it.  The validation
marks every staged row and counts the errors by their fields; the publication makes a product of
the first valid row of a SKU, and an offer with its stock of every valid row.

The count of the products that the publication answers with is never counted up, so that it is
right only where there is no product (`importCsv_iff`).
-/

import AgenticCommerce.Catalog.Publishing

namespace AgenticCommerce
namespace Catalog

open Relational

/-! ### The checks of a row -/

/-- The check of the title. -/
def titleError (row : CatalogImportRow) : Option String :=
  if (row.title.getD "").length < 3 then some "Title must be at least 3 characters"
  else if 300 < (row.title.getD "").length then some "Title must be at most 300 characters"
  else none

/-- The check of a number that has to be there. -/
def numberError (field : String) (most : Option ℤ) (value : Option ℤ) : Option String :=
  match value with
  | none => some (field ++ " is required and must be an integer")
  | some n =>
      if n < 0 then some (field ++ " cannot be negative")
      else if ∃ bound ∈ most, bound < n then some (field ++ " exceeds reasonable maximum")
      else none

/-- The check of a text that has to be one of a few. -/
def choiceError (choices : List String) (message : String) (value : Option String) :
    Option String :=
  if value ∈ choices.map some then none else some message

/-- The check of the category, which may be left out. -/
def categoryError (row : CatalogImportRow) : Option String :=
  let category := row.category.getD ""
  if category = "" ∨ category ∈ validCategories then none
  else some ("unknown category '" ++ category ++ "'")

/-- The largest price, in minor units. -/
def maxPriceMinor : ℤ := 1000000000

/-- The checks of a row, in their order. -/
def rowChecks (row : CatalogImportRow) : List (String × Option String) :=
  [("sku", if row.sku.getD "" = "" then some "SKU is required" else none),
    ("title", titleError row),
    ("price_minor", numberError "price_minor" (some maxPriceMinor) row.priceMinor),
    ("currency", choiceError ["INR", "USD"] "currency must be INR or USD" row.currency),
    ("inventory", numberError "inventory" none row.inventory),
    ("status",
      choiceError ["active", "inactive"] "status must be 'active' or 'inactive'" row.status),
    ("category", categoryError row)]

/-- `row_errors`: what is wrong with a row, by its fields. -/
def rowErrors (row : CatalogImportRow) : List (String × String) :=
  (rowChecks row).filterMap fun (field, error) => error.map fun e => (field, e)

/-! ### Validating -/

/-- The staged rows of an import, in their order. -/
def rowsOf (importId : String) (db : Database) : List CatalogImportRow :=
  ranked CatalogImportRow.rowNumber (db.catalogImportRows.select fun r => r.importId == importId)

/-- A row with what its validation found. -/
def markRow (row : CatalogImportRow) : CatalogImportRow :=
  { row with
    isValid := decide (rowErrors row = [])
    validationErrors := if rowErrors row = [] then none else some (rowErrors row) }

/-- `errors_by_field` after one more error: the fields in the order of their first errors. -/
def countField : List (String × ℕ) → String → List (String × ℕ)
  | [], field => [(field, 1)]
  | (other, n) :: counts, field =>
      if other = field then (other, n + 1) :: counts else (other, n) :: countField counts field

/-- The summary of an import: the five fields with the most errors. -/
def errorSummary (rows : List CatalogImportRow) : String :=
  let counts := (rows.flatMap fun row => (rowErrors row).map Prod.fst).foldl countField []
  "; ".intercalate ((ranked (fun entry => -(entry.2 : ℤ)) counts).take 5 |>.map
    fun (field, n) => toString n ++ " " ++ field ++ " error(s)")

/-- What a validation makes of the import, of its rows. -/
def recordOutcome (rows : List CatalogImportRow) (i : CatalogImport) : CatalogImport :=
  let valid := rows.countP fun row => rowErrors row = []
  { i with
    totalRows := rows.length, validRows := valid, invalidRows := (rows.length - valid : ℤ)
    errorSummary := if valid = rows.length then none else some (errorSummary rows)
    status := if valid = rows.length then .valid else .invalid }

/-- `validate_import`: how many rows are valid, how many are not, and the summary. -/
def validateImport (merchantId importId : String) : Op (ℕ × ℕ × Option String) := do
  let imp ← require (fun db => db.catalogImports.first fun i =>
    i.importId == importId && i.merchantId == merchantId)
    (.exception ("Import " ++ importId ++ " not found"))
  let rows ← query (rowsOf importId)
  update fun db => { db with
    catalogImportRows := db.catalogImportRows.modify (fun r => r.importId == importId) markRow
      fun _ => rfl
    catalogImports := db.catalogImports.modify
      (fun i => i.importId == importId && i.merchantId == merchantId) (recordOutcome rows)
      fun _ => rfl }
  let valid := rows.countP fun row => rowErrors row = []
  pure (valid, rows.length - valid, (recordOutcome rows imp).errorSummary)

/-- `validate_import`, and then `publish_import`. -/
def importCsv (engine : Engine) (x : Publication) : Op (String × ℤ × ℤ) := do
  let _ ← validateImport x.merchantId x.importId
  publishImport engine x

/-! ### What an import should create -/

/-- The valid rows of an import in their order: those without an error. -/
def validOf (importId : String) (db : Database) : List CatalogImportRow :=
  ranked CatalogImportRow.rowNumber
    (db.catalogImportRows.select fun r => r.importId == importId && rowErrors r = [])

/-- A product has the data of a row. -/
structure DescribedBy (p : Product) (row : CatalogImportRow) : Prop where
  sku : row.sku = some p.externalProductId
  title : row.title = some p.title
  category : p.categoryId = orText row.category "uncategorized_review"
  description : p.description =
    .arr ((row.description.filter fun d => d != "").map Json.str).toList

/-- An offer has the price, the currency and the status of a row. -/
structure OfferedBy (o : Offer) (row : CatalogImportRow) : Prop where
  price : row.priceMinor = some o.unitPriceMinor
  currency : row.currency = some o.currency
  status : row.status.bind OfferStatus.ofString? = some o.status

/-- Products, offers and stock are what valid rows describe: a product for each SKU with the data
of its first row, an offer and its stock for each row. -/
structure Describe (rows : List CatalogImportRow) (products : List Product) (offers : List Offer)
    (stock : List Inventory) : Prop where
  distinct : (products.map Product.externalProductId).Nodup
  skus : ∀ row ∈ rows, ∃ p ∈ products, row.sku = some p.externalProductId
  described : ∀ p ∈ products, ∃ row,
    rows.find? (fun row => row.sku == some p.externalProductId) = some row ∧ DescribedBy p row
  offered : List.Forall₂ OfferedBy offers rows
  product_of : ∀ entry ∈ offers.zip rows, ∃ p ∈ products,
    p.productId = entry.1.productId ∧ entry.2.sku = some p.externalProductId
  stocked : List.Forall₂ (fun i o => i.offerId = o.offerId ∧ i.reservedQuantity = 0) stock offers
  quantities : stock.map (fun i => some i.availableQuantity) = rows.map CatalogImportRow.inventory

/-- What should be created of valid rows, and counted in the answer. -/
structure Creates (rows : List CatalogImportRow) (db db' : Database)
    (answer : String × ℤ × ℤ) (products : List Product) (offers : List Offer)
    (stock : List Inventory) : Prop extends Describe rows products offers stock where
  products_new : db'.products.rows = db.products.rows ++ products
  offers_new : db'.offers.rows = db.offers.rows ++ offers
  stock_new : db'.inventory.rows = db.inventory.rows ++ stock
  productsCounted : answer.2.1 = products.length
  offersCounted : answer.2.2 = offers.length

/-! ### What the validation leaves -/

/-- The store after the validation of an import. -/
def validated (merchantId importId : String) (db : Database) : Database :=
  { db with
    catalogImportRows := db.catalogImportRows.modify (fun r => r.importId == importId) markRow
      fun _ => rfl
    catalogImports := db.catalogImports.modify
      (fun i => i.importId == importId && i.merchantId == merchantId)
      (recordOutcome (rowsOf importId db)) fun _ => rfl }

variable {merchantId importId : String} {engine : Engine} {x : Publication} {w w' : World}

/-- **A validation** of an import of the merchant returns and marks its rows. -/
theorem validateImport_ok
    (h : ∃ i ∈ w.db.catalogImports, i.importId = importId ∧ i.merchantId = merchantId) :
    ∃ answer, validateImport merchantId importId w =
      .ok answer { w with db := validated merchantId importId w.db } := by
  obtain ⟨i, hi, hid, hmerchant⟩ := h
  have hfound : (w.db.catalogImports.first fun i =>
      i.importId == importId && i.merchantId == merchantId).isSome = true :=
    first_isSome.2 ⟨i, hi, by simp [hid, hmerchant]⟩
  obtain ⟨imp, himp⟩ := Option.isSome_iff_exists.1 hfound
  exact ⟨_, Work.bind_of_ok (require_eq_ok.2 ⟨himp, rfl⟩)⟩

/-- The rows that the publication takes after a validation are the valid ones. -/
theorem validRows_validated (db : Database) :
    validRows importId (validated merchantId importId db) = (validOf importId db).map markRow := by
  have hselect : (validated merchantId importId db).catalogImportRows.select
      (fun r => r.importId == importId && r.isValid) =
      (db.catalogImportRows.select fun r => r.importId == importId && rowErrors r = []).map
        markRow := by
    simp only [validated, Table.modify, Table.select, List.filter_map]
    have htest : ((fun r : CatalogImportRow => r.importId == importId && r.isValid) ∘
        fun r => if (r.importId == importId) = true then markRow r else r) =
        fun r => r.importId == importId && decide (rowErrors r = []) := by
      funext r
      by_cases hid : r.importId = importId
      · simp [hid, markRow]
      · have hbeq : (r.importId == importId) = false := beq_false_of_ne hid
        simp only [Function.comp_apply, hbeq, Bool.false_eq_true, if_false, Bool.false_and]
    rw [htest]
    refine List.map_congr_left fun r hr => if_pos ?_
    exact (Bool.and_eq_true _ _ ▸ (List.mem_filter.1 hr).2).1
  rw [validRows, hselect]
  exact ranked_map fun _ _ => rfl

/-- The import that the publication finds after a validation may be published. -/
theorem status_validated {db : Database} {imp : CatalogImport}
    (h : ((validated merchantId importId db).catalogImports.first fun i =>
      i.importId == importId && i.merchantId == merchantId) = some imp) :
    imp.status = .valid ∨ imp.status = .invalid := by
  obtain ⟨hmem, hmatch⟩ := Table.first_eq_some h
  obtain ⟨i, -, rfl⟩ := List.mem_map.1 hmem
  split_ifs at hmatch ⊢ with hi
  · rw [recordOutcome]
    split_ifs
    · exact .inl rfl
    · exact .inr rfl
  · exact absurd hmatch hi

/-! ### What the publication makes of valid rows -/

/-- The publication finds the import after its validation. -/
theorem exists_validated {db : Database}
    (h : ∃ i ∈ db.catalogImports, i.importId = importId ∧ i.merchantId = merchantId) :
    ∃ imp, ((validated merchantId importId db).catalogImports.first fun i =>
      i.importId == importId && i.merchantId == merchantId) = some imp := by
  obtain ⟨i, hi, hid, hmerchant⟩ := h
  rw [← Option.isSome_iff_exists, first_isSome]
  refine ⟨_, List.mem_map.2 ⟨i, hi, rfl⟩, ?_⟩
  split_ifs
  · simp [recordOutcome, hid, hmerchant]
  · simp [hid, hmerchant]

/-- A new version is inserted. -/
theorem exists_insert_version {t : Table CatalogVersion}
    (h : ∀ v ∈ t, v.catalogVersionId ≠ x.draws.catalogVersionId) :
    ∃ versions, t.insert? x.version = some versions := by
  rw [← Option.isSome_iff_exists, Option.isSome_iff_ne_none]
  intro hrefused
  obtain ⟨v, hv, hclash⟩ := Table.insert?_eq_none.1 hrefused
  exact h v hv (of_decide_eq_true hclash)

theorem elim_eq_ok {α : Type} {found : Option α} {missing : Failure} {a : α} :
    found.elim (.error missing) Except.ok = .ok a ↔ found = some a := by
  cases found with
  | none => exact iff_of_false nofun nofun
  | some b => rw [Option.elim_some, Except.ok.injEq, Option.some.injEq]

/-- **A publication that returns** found an import that was validated, promoted its valid rows and
flushed them; of the products it answers that there are none. -/
theorem publishImport_eq_ok {answer : String × ℤ × ℤ} :
    publishImport engine x w = .ok answer w' ↔
      ∃ imp catalogVersions s db',
        (w.db.catalogImports.first fun i =>
          i.importId == x.importId && i.merchantId == x.merchantId) = some imp ∧
        (imp.status = .valid ∨ imp.status = .invalid) ∧
        w.db.catalogVersions.insert? x.version = some catalogVersions ∧
        promoteRows x 0 (validRows x.importId w.db) {} = some s ∧
        flushPromoted engine s { w.db with catalogVersions } = .ok ((), db') ∧
        answer = (x.draws.catalogVersionId, 0, (s.offers.length : ℤ)) ∧
        w' = { w with db := { x.complete s db' with
          catalogVersions := publishVersions x.merchantId x.draws.catalogVersionId
            (x.complete s db').catalogVersions } } := by
  constructor
  · intro h
    obtain ⟨imp, w₁, hrequire, hrest⟩ := Work.bind_eq_ok.1 h
    obtain ⟨himp, rfl⟩ := require_eq_ok.1 hrequire
    obtain ⟨_, w₂, hraise, hrest⟩ := Work.bind_eq_ok.1 hrest
    obtain ⟨hstatus, rfl⟩ := raiseIf_eq_ok.1 hraise
    obtain ⟨_, w₃, hinsert, hrest⟩ := Work.bind_eq_ok.1 hrest
    obtain ⟨db₁, hmap, rfl⟩ := insert_eq_ok.1 hinsert
    obtain ⟨catalogVersions, hversions, rfl⟩ := Option.map_eq_some_iff.1 hmap
    obtain ⟨rows, w₄, hquery, hrest⟩ := Work.bind_eq_ok.1 hrest
    obtain ⟨rfl, rfl⟩ := query_eq_ok.1 hquery
    obtain ⟨s, w₅, hanswer, hrest⟩ := Work.bind_eq_ok.1 hrest
    obtain ⟨hpromoted, rfl⟩ := ofAnswer_eq_ok.1 hanswer
    obtain ⟨_, w₆, hrewrite, hrest⟩ := Work.bind_eq_ok.1 hrest
    obtain ⟨db', hflush, rfl⟩ := rewrite_eq_ok.1 hrewrite
    obtain ⟨_, w₇, hcomplete, hrest⟩ := Work.bind_eq_ok.1 hrest
    obtain rfl := update_eq_ok.1 hcomplete
    obtain ⟨_, w₈, hpublished, hrest⟩ := Work.bind_eq_ok.1 hrest
    rw [publishCatalog, atomicPublish_eq] at hpublished
    obtain ⟨-, rfl⟩ := EStateM.Result.ok.inj hpublished
    obtain ⟨rfl, rfl⟩ := Work.pure_eq_ok.1 hrest
    refine ⟨imp, catalogVersions, s, db', himp, ?_, hversions, ?_, hflush, rfl, rfl⟩
    · rwa [not_and_or, not_not, not_not] at hstatus
    · exact elim_eq_ok.1 hpromoted
  · rintro ⟨imp, catalogVersions, s, db', himp, hstatus, hversions, hpromoted, hflush, rfl, rfl⟩
    refine Work.bind_eq_ok.2 ⟨_, _, require_eq_ok.2 ⟨himp, rfl⟩, ?_⟩
    refine Work.bind_eq_ok.2 ⟨(), _, raiseIf_of_not (by rwa [not_and_or, not_not, not_not]), ?_⟩
    refine Work.bind_eq_ok.2 ⟨(), _, insert_eq_ok.2 ⟨_, congrArg _ hversions, rfl⟩, ?_⟩
    refine Work.bind_eq_ok.2 ⟨_, _, query_eq_ok.2 ⟨rfl, rfl⟩, ?_⟩
    refine Work.bind_eq_ok.2 ⟨_, _, ofAnswer_eq_ok.2 ⟨elim_eq_ok.2 hpromoted, rfl⟩, ?_⟩
    refine Work.bind_eq_ok.2 ⟨(), _, rewrite_eq_ok.2 ⟨_, hflush, rfl⟩, ?_⟩
    refine Work.bind_eq_ok.2 ⟨(), _, update_eq_ok.2 rfl, ?_⟩
    exact Work.bind_eq_ok.2 ⟨_, _, atomicPublish_eq .., rfl⟩

/-- A flush that is not refused adds the promoted rows. -/
theorem flushPromoted_of {s : Promoted} (db : Database)
    {products : Table Product} {images : Table ProductImage} {offers : Table Offer}
    {inventory : Table Inventory} (h : ¬(engine.constrained = true ∧ s.inventory ≠ []))
    (hproducts : db.products.insertAll s.products = some products)
    (himages : db.productImages.insertAll s.images = some images)
    (hoffers : db.offers.insertAll s.offers = some offers)
    (hinventory : db.inventory.insertAll s.inventory = some inventory) :
    ∃ db', flushPromoted engine s db = .ok ((), db') ∧ db'.products = products ∧
      db'.offers = offers ∧ db'.inventory = inventory := by
  rw [flushPromoted, if_neg h, hproducts, himages, hoffers, hinventory]
  exact ⟨_, rfl, rfl, rfl, rfl⟩

/-- What an import answers about its products is zero. -/
theorem importCsv_products {answer : String × ℤ × ℤ} (h : importCsv engine x w = .ok answer w') :
    answer.2.1 = 0 := by
  obtain ⟨_, _, _, hpublish⟩ := Work.bind_eq_ok.1 h
  obtain ⟨_, _, _, _, _, _, _, _, _, rfl, _⟩ := publishImport_eq_ok.1 hpublish
  rfl

/-- A count of no products is right where there are no rows. -/
theorem Creates.rows_nil {rows : List CatalogImportRow} {db db' : Database}
    {answer : String × ℤ × ℤ} {products : List Product} {offers : List Offer}
    {stock : List Inventory} (h : Creates rows db db' answer products offers stock)
    (hanswer : answer.2.1 = 0) : rows = [] := by
  refine List.eq_nil_iff_forall_not_mem.2 fun row hrow => ?_
  obtain ⟨p, hp, -⟩ := h.skus row hrow
  have hcounted := h.productsCounted
  have hnone : products.length = 0 := by omega
  rw [List.length_eq_zero_iff.1 hnone] at hp
  exact List.not_mem_nil hp

/-- **When the import does what it says**: of a merchant's import, for a version that is new, the
validation and the publication create what the valid rows describe and count it exactly when no
row is valid. -/
theorem importCsv_iff (engine : Engine) (x : Publication) (w : World)
    (himport : ∃ i ∈ w.db.catalogImports, i.importId = x.importId ∧ i.merchantId = x.merchantId)
    (hversion : ∀ v ∈ w.db.catalogVersions, v.catalogVersionId ≠ x.draws.catalogVersionId) :
    (∃ answer w' products offers stock, importCsv engine x w = .ok answer w' ∧
      Creates (validOf x.importId w.db) w.db w'.db answer products offers stock) ↔
    validOf x.importId w.db = [] := by
  obtain ⟨counts, hvalidated⟩ := validateImport_ok himport
  have hrows : validRows x.importId (validated x.merchantId x.importId w.db) =
      (validOf x.importId w.db).map markRow := validRows_validated w.db
  constructor
  · rintro ⟨answer, w', products, offers, stock, hrun, hcreates⟩
    exact hcreates.rows_nil (importCsv_products hrun)
  · intro hnone
    rw [hnone] at hrows ⊢
    obtain ⟨imp, himp⟩ := exists_validated himport
    obtain ⟨versions, hversions⟩ := exists_insert_version hversion
    have hstockless : ¬(engine.constrained = true ∧ ({} : Promoted).inventory ≠ []) :=
      fun h => h.2 rfl
    obtain ⟨db', hflush, hproducts, hoffers, hstock⟩ := flushPromoted_of
      { validated x.merchantId x.importId w.db with catalogVersions := versions }
      hstockless rfl rfl rfl rfl
    refine ⟨_, _, [], [], [], Work.bind_eq_ok.2 ⟨_, _, hvalidated, publishImport_eq_ok.2
      ⟨imp, versions, {}, db', himp, status_validated himp, hversions, ?_, hflush, rfl, rfl⟩⟩, ?_⟩
    · exact (congrArg (promoteRows x 0 · {}) hrows).trans rfl
    · have hrowsOf {α : Type} [Keyed α] {t t' : Table α} (h : t' = t) : t'.rows = t.rows ++ [] := by
        rw [h, List.append_nil]
      exact
        { products_new := hrowsOf hproducts
          offers_new := hrowsOf hoffers
          stock_new := hrowsOf hstock
          distinct := List.nodup_nil
          skus := fun _ hrow => absurd hrow List.not_mem_nil
          described := fun _ hp => absurd hp List.not_mem_nil
          offered := .nil
          product_of := fun _ hentry => absurd hentry List.not_mem_nil
          stocked := .nil
          quantities := rfl
          productsCounted := rfl
          offersCounted := rfl }

/-! ### One keyboard -/

/-- An import of one row, which is valid. -/
def keyboardWorld : World where
  db :=
    { catalogImports :=
        ⟨[⟨"imp", "mer", .pending, none, 0, 0, 0, none⟩], List.pairwise_singleton _ _⟩
      catalogImportRows :=
        ⟨[{ rowId := "row", importId := "imp", rowNumber := 1, sku := some "A1"
            title := some "Keyboard", priceMinor := some 100, currency := some "INR"
            inventory := some 5, status := some "active", category := some "computer_accessory" }],
          List.pairwise_singleton _ _⟩ }

/-- Its publication. -/
def keyboardPublication : Publication where
  merchantId := "mer"
  importId := "imp"
  env := default
  draws := ⟨"run", "cat", fun _ => "prd", fun _ _ => "img", fun _ => "off"⟩

/-- The import of one valid row, by `importCsv_iff`. -/
theorem importCsv_keyboard :
    (∃ answer w' products offers stock,
      importCsv ⟨false, []⟩ keyboardPublication keyboardWorld = .ok answer w' ∧
        Creates (validOf "imp" keyboardWorld.db) keyboardWorld.db w'.db answer products offers
          stock) ↔
    validOf "imp" keyboardWorld.db = [] :=
  importCsv_iff ⟨false, []⟩ keyboardPublication keyboardWorld (by decide) (by decide)

/-- **A product that is created is not counted.** -/
theorem keyboard_not_counted : ¬ ∀ (engine : Engine) (x : Publication) (w : World),
    (∃ i ∈ w.db.catalogImports, i.importId = x.importId ∧ i.merchantId = x.merchantId) →
    (∀ v ∈ w.db.catalogVersions, v.catalogVersionId ≠ x.draws.catalogVersionId) →
    ∃ answer w' products offers stock, importCsv engine x w = .ok answer w' ∧
      Creates (validOf x.importId w.db) w.db w'.db answer products offers stock := by
  intro h
  obtain ⟨_, _, _, _, _, hrun, hcreates⟩ :=
    h ⟨false, []⟩ keyboardPublication keyboardWorld (by decide) (by decide)
  exact absurd (hcreates.rows_nil (importCsv_products hrun)) (by decide)

end Catalog
end AgenticCommerce
