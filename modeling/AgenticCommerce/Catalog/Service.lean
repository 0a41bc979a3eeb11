/-
# The catalog service

`import_catalog_artifacts`, `publish_catalog` and `publish_import` of
`services/catalog/service.py`, with `atomic_publish_catalog_version` of
`services/catalog/repository.py`.

An import whose checksum was completed before answers with the version of that time
(`importedBefore`).  Any other import makes a draft version and writes every row of its files
into it, the rows that earlier versions hold included: a product and an offer have one
version each, the one that wrote them last.  The session does not flush on its own, so new rows
wait for the flush (`Staged`).

The store is an `Engine`: one whose tables carry the constraints of the migrations, or the one
of the unit tests, which has the keys only.
-/

import AgenticCommerce.Catalog.Artifacts
import AgenticCommerce.Relational.Ranking
import AgenticCommerce.Relational.Upserts

namespace AgenticCommerce
namespace Catalog

open Relational

/-- A table with a single-column key is simply keyed. -/
theorem simplyKeyed {α κ : Type} [DecidableEq κ] (f : α → κ) : @SimplyKeyed α (keyedBy f) :=
  @SimplyKeyed.mk α (keyedBy f) fun _ _ => of_decide_eq_true

instance : SimplyKeyed Product := simplyKeyed Product.productId
instance : SimplyKeyed Offer := simplyKeyed Offer.offerId

/-- What the store refuses besides a duplicate key. -/
structure Engine where
  /-- The tables carry the constraints of the migrations. -/
  constrained : Bool
  /-- The identifiers of `variant`, a table no service writes. -/
  variants : List String := []

/-- The largest `INTEGER` and the largest `BIGINT`. -/
def maxInteger : ℤ := 2147483647
def maxBigint : ℤ := 9223372036854775807

/-- The constraints of `product`. -/
def ProductsHold (db : Database) : Prop :=
  (db.products.rows.Pairwise fun p q =>
    (p.catalogVersionId, p.externalProductId) ≠ (q.catalogVersionId, q.externalProductId)) ∧
  ∀ p ∈ db.products, 0 ≤ p.ratingNumber ∧ p.ratingNumber ≤ maxInteger

/-- The constraints of `offer`. -/
def OffersHold (engine : Engine) (db : Database) : Prop :=
  ∀ o ∈ db.offers, (0 ≤ o.unitPriceMinor ∧ o.unitPriceMinor ≤ maxBigint) ∧
    (0 ≤ o.deliveryDays ∧ o.deliveryDays ≤ maxInteger) ∧
    (0 ≤ o.returnPeriodDays ∧ o.returnPeriodDays ≤ maxInteger) ∧
    (1 ≤ o.offerVersion ∧ o.offerVersion ≤ maxInteger) ∧
    o.pricingSource ∈ ["synthetic_band_random", "merchant_configured"] ∧
    (∃ p ∈ db.products, p.productId = o.productId) ∧ ∀ v ∈ o.variantId, v ∈ engine.variants

/-- The constraints of `inventory`. -/
def StockHolds (db : Database) : Prop :=
  ∀ i ∈ db.inventory, 0 ≤ i.reservedQuantity ∧ i.reservedQuantity ≤ i.availableQuantity ∧
    i.availableQuantity ≤ maxInteger ∧ 1 ≤ i.version

instance (db : Database) : Decidable (ProductsHold db) := inferInstanceAs (Decidable (_ ∧ _))

instance (engine : Engine) (db : Database) : Decidable (OffersHold engine db) :=
  inferInstanceAs (Decidable (∀ o ∈ db.offers, _))

instance (db : Database) : Decidable (StockHolds db) :=
  inferInstanceAs (Decidable (∀ i ∈ db.inventory, _))

/-- `session.flush()` of catalog rows. -/
def flushCatalog (engine : Engine) : Op Unit := Work.ask fun w =>
  if engine.constrained = true → ProductsHold w.db ∧ OffersHold engine w.db ∧ StockHolds w.db then
    .ok ()
  else .error (.integrity "new row violates a constraint")

/-- A computation on the store that raises or returns with what it made of it. -/
def rewrite {α : Type} (f : Database → Except Failure (α × Database)) : Op α := fun w =>
  match f w.db with
  | .ok (a, db) => .ok a { w with db }
  | .error e => .error e w

@[simp] theorem rewrite_eq_ok {α : Type} {f : Database → Except Failure (α × Database)} {a : α}
    {w w' : World} : rewrite f w = .ok a w' ↔ ∃ db, f w.db = .ok (a, db) ∧ { w with db } = w' := by
  unfold rewrite
  cases f w.db with
  | error e => simp
  | ok r => simp [Prod.ext_iff, and_assoc]

/-- The exception of a line that has no row. -/
def malformedLine : Failure := .exception "malformed artifact line"

/-! ### Products -/

/-- The products loop: the rows as far as it got, and how many were found valid. -/
structure ProductShelf where
  products : Staged Product
  images : Table ProductImage
  pendingImages : List ProductImage := []
  valid : ℤ := 0
  needsReview : ℤ := 0

/-- One line of the products file. -/
def stageProduct (x : Import) (n : ℕ) (data : Json) (s : ProductShelf) :
    Except Failure ProductShelf :=
  match productRow x.env.reading x.merchantId x.draws.catalogVersionId (x.draws.productId n) data
    with
  | none => .error malformedLine
  | some product =>
      if (∃ stored ∈ s.products.table, stored.productId = product.productId ∧
          stored.merchantId ≠ x.merchantId) then
        .error (.raised ("Product " ++ product.productId ++ " already belongs to another merchant.")
          .forbidden)
      else match imageRows product.productId (x.draws.imageId n) data with
        | none => .error malformedLine
        | some images => .ok
            { products := s.products.put product
              images := s.images.delete fun i => i.productId == product.productId &&
                s.products.table.stores product
              pendingImages := s.pendingImages ++ images
              valid := s.valid + if product.status = .valid then 1 else 0
              needsReview := s.needsReview + if product.status = .valid then 0 else 1 }

/-- The products loop from a position on. -/
def stageProducts (x : Import) : ℕ → List Json → ProductShelf → Except Failure ProductShelf
  | _, [], s => .ok s
  | n, data :: rest, s =>
      match stageProduct x n data s with
      | .error e => .error e
      | .ok s => stageProducts x (n + 1) rest s

/-- The import of the products file, up to its flush. -/
def importProducts (x : Import) (db : Database) : Except Failure ((ℤ × ℤ) × Database) :=
  match readLines x.env.reading x.files.products with
  | none => .error (.exception "Expecting value")
  | some lines =>
      match stageProducts x 0 lines { products := { table := db.products }, images := db.productImages }
        with
      | .error e => .error e
      | .ok s =>
          match s.products.flush, s.images.insertAll s.pendingImages with
          | some products, some productImages =>
              .ok ((s.valid, s.needsReview), { db with products, productImages })
          | _, _ => .error (.integrity "duplicate key value violates unique constraint")

/-! ### Offers -/

/-- The offers loop: the rows and the stock as far as it got. -/
structure OfferShelf where
  offers : Staged Offer
  inventory : Table Inventory
  pendingInventory : List Inventory := []

/-- The stock of an offer that is imported again: it is never lowered. -/
def OfferShelf.stock (s : OfferShelf) (offerId : String) (quantity : ℤ) : OfferShelf :=
  if s.inventory.rows.any fun i => i.offerId == offerId then
    { s with
      inventory := s.inventory.modify (fun i => i.offerId == offerId)
        (fun i => { i with version := i.version + 1
                           availableQuantity := max i.availableQuantity quantity }) fun _ => rfl }
  else { s with pendingInventory := s.pendingInventory ++ [{ offerId, availableQuantity := quantity }] }

/-- One line of the offers file. -/
def stageOffer (x : Import) (n : ℕ) (data : Json) (s : OfferShelf) : Except Failure OfferShelf :=
  match offerRow x.env.reading x.merchantId x.draws.catalogVersionId (x.draws.offerId n) x.env.now
    data, quantityOf x.env.reading data with
  | some none, _ => .ok s
  | some (some offer), some quantity =>
      if (∃ stored ∈ s.offers.table, stored.offerId = offer.offerId ∧
          stored.merchantId ≠ x.merchantId) then
        .error (.raised ("Offer " ++ offer.offerId ++ " already belongs to another merchant.")
          .forbidden)
      else .ok ({ s with offers := s.offers.put offer }.stock offer.offerId quantity)
  | _, _ => .error malformedLine

/-- The offers loop from a position on. -/
def stageOffers (x : Import) : ℕ → List Json → OfferShelf → Except Failure OfferShelf
  | _, [], s => .ok s
  | n, data :: rest, s =>
      match stageOffer x n data s with
      | .error e => .error e
      | .ok s => stageOffers x (n + 1) rest s

/-- The import of the offers file, with the stock of new offers after their flush. -/
def importOffers (x : Import) (db : Database) : Except Failure (Unit × Database) :=
  match readLines x.env.reading x.files.offers with
  | none => .error (.exception "Expecting value")
  | some lines =>
      match stageOffers x 0 lines { offers := { table := db.offers }, inventory := db.inventory } with
      | .error e => .error e
      | .ok s =>
          match s.offers.flush, s.inventory.insertAll s.pendingInventory with
          | some offers, some inventory => .ok ((), { db with offers, inventory })
          | _, _ => .error (.integrity "duplicate key value violates unique constraint")

/-! ### Importing -/

/-- The version of a completed import of the same files. -/
def importedBefore (x : Import) (db : Database) : Option CatalogVersion := do
  let run ← db.importRuns.first fun r =>
    r.merchantId == x.merchantId && r.sourceChecksum == x.files.checksum x.env
  if run.status = .completed then
    db.catalogVersions.first fun v =>
      v.merchantId == x.merchantId && v.importRunId == some run.importRunId
  else none

/-- The version of an import that counted its products. -/
def Import.version (x : Import) (counts : ℤ × ℤ) : CatalogVersion :=
  { catalogVersionId := x.draws.catalogVersionId, merchantId := x.merchantId,
    importRunId := some x.draws.importRunId, productCount := counts.1 + counts.2,
    validCount := counts.1, needsReviewCount := counts.2 }

/-- The run of an import. -/
def Import.run (x : Import) : ImportRun :=
  { importRunId := x.draws.importRunId, merchantId := x.merchantId,
    sourceChecksum := x.files.checksum x.env }

/-- The end of an import: the counts of its version, and its run completed. -/
def Import.complete (x : Import) (counts : ℤ × ℤ) (db : Database) : Database :=
  { db with
    catalogVersions := db.catalogVersions.modify
      (fun v => v.catalogVersionId == x.draws.catalogVersionId)
      (fun v => { v with productCount := counts.1 + counts.2, validCount := counts.1,
                         needsReviewCount := counts.2 }) fun _ => rfl
    importRuns := db.importRuns.modify (fun r => r.importRunId == x.draws.importRunId)
      (fun r => { r with status := .completed }) fun _ => rfl }

/-- `import_catalog_artifacts` of files that were not imported before. -/
def importAnew (engine : Engine) (x : Import) : Op CatalogVersion := do
  insert fun db => (db.importRuns.insert? x.run).map fun importRuns => { db with importRuns }
  insert fun db => (db.catalogVersions.insert? (x.version (0, 0))).map fun catalogVersions =>
    { db with catalogVersions }
  let counts ← rewrite (importProducts x)
  flushCatalog engine
  rewrite (importOffers x)
  flushCatalog engine
  update (x.complete counts)
  pure (x.version counts)

/-- `import_catalog_artifacts`. -/
def importCatalogArtifacts (engine : Engine) (x : Import) : Op CatalogVersion := do
  let found ← query (importedBefore x)
  match found with
  | some version => pure version
  | none => importAnew engine x

/-! ### Publishing -/

/-- Step 1 of the publication: what was published is superseded, the target excepted. -/
def supersede (merchantId catalogVersionId : String) (db : Database) : Database :=
  { db with
    catalogVersions := db.catalogVersions.modify
      (fun v => v.merchantId == merchantId && v.status == .published &&
        v.catalogVersionId != catalogVersionId)
      (fun v => { v with status := .superseded }) fun _ => rfl }

/-- What step 2 promotes. -/
def promotable (merchantId catalogVersionId : String) (v : CatalogVersion) : Bool :=
  v.catalogVersionId == catalogVersionId && v.merchantId == merchantId &&
    [CatalogVersionStatus.draft, .validating, .superseded].contains v.status

/-- `atomic_publish_catalog_version`. -/
def atomicPublishCatalogVersion (merchantId catalogVersionId : String) : Op Bool := do
  update (supersede merchantId catalogVersionId)
  let row ← query fun db => db.catalogVersions.first (promotable merchantId catalogVersionId)
  update fun db => { db with
    catalogVersions := db.catalogVersions.modify (promotable merchantId catalogVersionId)
      (fun v => { v with status := .published }) fun _ => rfl }
  if row.isSome then pure true
  else query fun db => (db.catalogVersions.first fun v => v.catalogVersionId == catalogVersionId &&
    v.merchantId == merchantId && v.status == .published).isSome

/-- `publish_catalog`. -/
def publishCatalog (merchantId catalogVersionId : String) : Op Bool :=
  atomicPublishCatalogVersion merchantId catalogVersionId

/-! ### Publishing a staged import -/

/-- `x or y`, of a number. -/
def orNumber (x : Option ℤ) (y : ℤ) : ℤ := (x.filter fun n => n != 0).getD y

/-- `x or y`, of a text. -/
def orText (x : Option String) (y : String) : String := (x.filter fun s => s != "").getD y

/-- The publication of a staged import: who publishes what, when, and under which identifiers. -/
structure Publication where
  merchantId : String
  importId : String
  env : Env
  draws : Draws

/-- What the rows promoted so far come to. -/
structure Promoted where
  /-- `product_ids_seen`. -/
  seen : List (String × String) := []
  products : List Product := []
  images : List ProductImage := []
  offers : List Offer := []
  inventory : List Inventory := []
  /-- The offer of each row, by the identifier of the row. -/
  assigned : List (String × String) := []

/-- The product of the first row of a SKU. -/
def Publication.productOf (x : Publication) (n : ℕ) (sku : String) (row : CatalogImportRow) :
    Product :=
  { productId := x.draws.productId n, catalogVersionId := x.draws.catalogVersionId,
    merchantId := x.merchantId, externalProductId := sku,
    categoryId := orText row.category "uncategorized_review", title := orText row.title sku,
    status := if (orText row.title "").length < 8 then .needsReview else .valid,
    description := .arr ((row.description.filter fun d => d != "").map Json.str).toList }

/-- The image of the first row of a SKU. -/
def Publication.imageOf (x : Publication) (n : ℕ) (row : CatalogImportRow) : List ProductImage :=
  ((row.imageUrl.filter fun u => u != "").map fun sourceUrl =>
    { productImageId := x.draws.imageId n 0, productId := x.draws.productId n, sourceUrl,
      storageKey := "img_" ++ x.draws.productId n ++ "_0" }).toList

/-- The offer of a row. -/
def Publication.offerOf (x : Publication) (n : ℕ) (productId : String) (row : CatalogImportRow) :
    Option Offer :=
  (OfferStatus.ofString? (orText row.status "active")).map fun status =>
    { offerId := x.draws.offerId n, catalogVersionId := x.draws.catalogVersionId, productId,
      merchantId := x.merchantId, status, unitPriceMinor := row.priceMinor.getD 0,
      currency := orText row.currency "INR", deliveryDays := orNumber row.deliveryDays 3,
      returnPeriodDays := orNumber row.returnPeriodDays 14, pricingSource := "merchant_configured",
      expiresAt := x.env.now + minutes (30 * 24 * 60) }

/-- One valid row; `none` for a status that no offer has. -/
def promoteRow (x : Publication) (n : ℕ) (row : CatalogImportRow) (s : Promoted) :
    Option Promoted :=
  let sku := orText row.sku ("sku_" ++ toString row.rowNumber)
  let seen := s.seen.find? fun entry => entry.1 == sku
  let productId := seen.elim (x.draws.productId n) Prod.snd
  (x.offerOf n productId row).map fun offer =>
    { seen := if seen.isSome then s.seen else s.seen ++ [(sku, productId)]
      products := if seen.isSome then s.products else s.products ++ [x.productOf n sku row]
      images := if seen.isSome then s.images else s.images ++ x.imageOf n row
      offers := s.offers ++ [offer]
      inventory := s.inventory ++
        [{ offerId := offer.offerId, availableQuantity := row.inventory.getD 0 }]
      assigned := s.assigned ++ [(row.rowId, offer.offerId)] }

/-- The loop over the valid rows, from a position on. -/
def promoteRows (x : Publication) : ℕ → List CatalogImportRow → Promoted → Option Promoted
  | _, [], s => some s
  | n, row :: rest, s => (promoteRow x n row s).bind fun s => promoteRows x (n + 1) rest s

/-- The valid rows of an import, in their order. -/
def validRows (importId : String) (db : Database) : List CatalogImportRow :=
  ranked CatalogImportRow.rowNumber
    (db.catalogImportRows.select fun r => r.importId == importId && r.isValid)

/-- The flush of the promoted rows.  It writes the stock before the offers, which a store with
foreign keys refuses. -/
def flushPromoted (engine : Engine) (s : Promoted) (db : Database) :
    Except Failure (Unit × Database) :=
  if engine.constrained = true ∧ s.inventory ≠ [] then
    .error (.integrity "insert or update on table inventory violates foreign key constraint")
  else match db.products.insertAll s.products, db.productImages.insertAll s.images,
      db.offers.insertAll s.offers, db.inventory.insertAll s.inventory with
    | some products, some productImages, some offers, some inventory =>
        .ok ((), { db with
          products, productImages, offers, inventory
          catalogImportRows := db.catalogImportRows.modify (fun _ => true)
            (fun r => { r with offerId :=
              ((s.assigned.find? fun entry => entry.1 == r.rowId).map Prod.snd).or r.offerId })
            fun _ => rfl })
    | _, _, _, _ => .error (.integrity "duplicate key value violates unique constraint")

/-- The version of a staged import. -/
def Publication.version (x : Publication) : CatalogVersion :=
  { catalogVersionId := x.draws.catalogVersionId, merchantId := x.merchantId, importRunId := none }

/-- The counts of the version, and the import published. -/
def Publication.complete (x : Publication) (s : Promoted) (db : Database) : Database :=
  let valid : ℤ := (s.products.filter fun p => p.status == .valid).length
  { db with
    catalogVersions := db.catalogVersions.modify
      (fun v => v.catalogVersionId == x.draws.catalogVersionId)
      (fun v => { v with productCount := s.products.length, validCount := valid,
                         needsReviewCount := s.products.length - valid }) fun _ => rfl
    catalogImports := db.catalogImports.modify (fun i => i.importId == x.importId)
      (fun i => { i with status := .published
                         publishedCatalogVersionId := some x.draws.catalogVersionId }) fun _ => rfl }

/-- The stored text of the status of an import. -/
def importStatus : CatalogImportStatus → String
  | .pending => "pending"
  | .valid => "valid"
  | .invalid => "invalid"
  | .published => "published"

/-- `publish_import`; the count of products it answers with stays zero. -/
def publishImport (engine : Engine) (x : Publication) : Op (String × ℤ × ℤ) := do
  let imp ← require (fun db => db.catalogImports.first fun i =>
    i.importId == x.importId && i.merchantId == x.merchantId)
    (.exception ("Import " ++ x.importId ++ " not found"))
  raiseIf (imp.status ≠ .valid ∧ imp.status ≠ .invalid)
    (.exception ("Import " ++ x.importId ++ " is '" ++ importStatus imp.status ++
      "' — must be validated before publish"))
  insert fun db => (db.catalogVersions.insert? x.version).map fun catalogVersions =>
    { db with catalogVersions }
  let rows ← query (validRows x.importId)
  let promoted ← ofAnswer ((promoteRows x 0 rows {}).elim
    (.error (.integrity "new row for relation offer violates check constraint")) .ok)
  rewrite (flushPromoted engine promoted)
  update (x.complete promoted)
  let _ ← publishCatalog x.merchantId x.draws.catalogVersionId
  pure (x.draws.catalogVersionId, 0, promoted.offers.length)

end Catalog
end AgenticCommerce
