/-
# The artifacts of an import

The two JSONL files `import_catalog_artifacts` of `services/catalog/service.py` reads, and the
rows their lines describe: `productRow` and `imageRows` for a line of the products file,
`offerRow` for one of the offers file.  A value of a type its column does not take, and a
status that no `CHECK` admits, have no row; the code finds out at the next flush at the
latest.

Numbers are coerced without raising (`safeFloat`, `safeInt`), with a default where that
fails.  A line without an identifier gets one that is drawn for it.
-/

import AgenticCommerce.Text.Floats

namespace AgenticCommerce
namespace Catalog

/-- What the paths of an import lead to: the bytes of the two files, as far as there are any. -/
structure Artifacts where
  products : Option (List UInt8) := none
  offers : Option (List UInt8) := none
  deriving DecidableEq

/-- `compute_file_checksum`. -/
def Artifacts.checksum (env : Env) (files : Artifacts) : String :=
  env.bodyHash (files.products.getD [] ++ files.offers.getD [])

/-- The identifiers `new_id` makes in one import. -/
structure Draws where
  importRunId : String
  catalogVersionId : String
  /-- For the lines of the products file, by their position. -/
  productId : ℕ → String
  /-- For the images of those lines. -/
  imageId : ℕ → ℕ → String
  /-- For the lines of the offers file. -/
  offerId : ℕ → String

/-- `VALID_CATEGORIES`. -/
def validCategories : List String :=
  ["laptop", "smartphone", "monitor", "audio", "camera", "computer_accessory", "phone_accessory",
    "home_electronics", "appliance", "uncategorized_review"]

/-! ### Numbers -/

/-- `_safe_float`, of a number that a float holds. -/
def safeFloat (reading : Reading) (default : ℚ) : Json → ℚ
  | .bool b => if b then 1 else 0
  | .int n => n
  | .float r => (reading.float r).getD default
  | .str s => if reading.strip s = "" then default else (reading.float s).getD default
  | .null | .arr _ | .obj _ => default

/-- `_safe_int`. -/
def safeInt (reading : Reading) (default : ℤ) : Json → ℤ
  | .int n => n
  | .float r => ((reading.float r).map truncate).getD default
  | .str s =>
      if reading.strip s = "" then default else (reading.int (reading.strip s)).getD default
  | .null | .bool _ | .arr _ | .obj _ => default

/-- `_parse_offer_expiry`. -/
def parseOfferExpiry (reading : Reading) (now : Time) : Json → Time
  | .str s =>
      if reading.strip s = "" then now + minutes (30 * 24 * 60)
      else (reading.time s).getD (now + minutes (30 * 24 * 60))
  | _ => now + minutes (30 * 24 * 60)

/-! ### Products -/

/-- The data quality checks. -/
def productStatus (title category : String) : ProductStatus :=
  if title.length < 8 ∨ 300 < title.length ∨ category ∉ validCategories then .needsReview
  else .valid

/-- The product a line describes. -/
def productRow (reading : Reading) (merchantId catalogVersionId drawn : String) (data : Json) :
    Option Product := do
  let productId ← ((← data.get "product_id" .null).orElse (.str drawn)).str?
  let externalProductId ← ((← data.get "parent_asin" .null).orElse
    ((← data.get "external_product_id" .null).orElse (.str productId))).str?
  let title ← (← data.get "title" (.str "")).str?
  let categoryId ← ((← data.get "subcategory" .null).orElse
    (← data.get "category_id" (.str "uncategorized_review"))).str?
  pure
    { productId, catalogVersionId, merchantId, externalProductId, categoryId, title
      status := productStatus title categoryId
      description := ← data.get "description" (.arr [])
      specifications := ← data.get "specifications" (.obj [])
      averageRating := safeFloat reading 0 (← data.get "average_rating" .null)
      ratingNumber := safeInt reading 0 (← data.get "rating_number" .null) }

/-- The image at a position of a product's list. -/
def imageRow (productId : String) (drawn : String) (position : ℕ) (image : Json) :
    Option ProductImage := do
  let sourceUrl ← ((← image.get "url" .null).orElse ((← image.get "source_url" .null).orElse
    ((← image.get "large" .null).orElse ((← image.get "thumb" .null).orElse (.str ""))))).str?
  let storageKey ← ((← image.get "storage_key" .null).orElse
    (.str ("img_" ++ productId ++ "_" ++ toString position))).str?
  let _ ← (← image.get "resolution" (.str "large")).str?
  pure { productImageId := drawn, productId, sourceUrl, storageKey, position }

/-- The elements of what is iterated over: those of a list, or none of an empty value. -/
def elements : Json → Option (List Json)
  | .arr items => some items
  | .str s => if s = "" then some [] else none
  | .obj items => if items.isEmpty then some [] else none
  | _ => none

/-- The images a line describes. -/
def imageRows (productId : String) (drawn : ℕ → String) (data : Json) :
    Option (List ProductImage) := do
  let images ← elements (← data.get "images" (.arr []))
  images.zipIdx.mapM fun image => imageRow productId (drawn image.2) image.2 image.1

/-! ### Offers -/

/-- A column that takes a text or `NULL`. -/
def nullableText : Json → Option (Option String)
  | .null => some none
  | value => value.str?.map some

/-- The offer a line describes; `some none` for a line without a product, which is passed
over. -/
def offerRow (reading : Reading) (merchantId catalogVersionId drawn : String) (now : Time)
    (data : Json) : Option (Option Offer) := do
  let product ← data.get "product_id" .null
  if product.truthy then
    let offerId ← ((← data.get "offer_id" .null).orElse (.str drawn)).str?
    let status ← (← data.get "status" (.str "active")).str?
    pure (some
      { offerId, catalogVersionId, merchantId
        productId := ← product.str?
        variantId := ← nullableText (← data.get "variant_id" .null)
        status := ← OfferStatus.ofString? status
        unitPriceMinor := safeInt reading 0 (← data.get "unit_price_minor" .null)
        currency := ← (← data.get "currency" (.str "INR")).str?
        deliveryDays := safeInt reading 3 (← data.get "delivery_days" .null)
        returnPeriodDays := safeInt reading 14 (← data.get "return_period_days" .null)
        pricingSource := ← (← data.get "pricing_source" (.str "synthetic_band_random")).str?
        offerVersion := safeInt reading 1 (← data.get "offer_version" .null)
        expiresAt := parseOfferExpiry reading now (← data.get "expires_at" .null) })
  else pure none

/-- The stock a line describes. -/
def quantityOf (reading : Reading) (data : Json) : Option ℤ := do
  pure (safeInt reading 10 (← data.get "available_quantity" .null))

/-! ### Files -/

/-- The lines of a file that may not be there. -/
def readLines (reading : Reading) (file : Option (List UInt8)) : Option (List Json) :=
  file.elim (some []) reading.lines

/-- The rows that a list of lines describes, from a position on. -/
def rowsFrom {α : Type} (row : ℕ → Json → Option α) : ℕ → List Json → Option (List α)
  | _, [] => some []
  | n, data :: rest => do
      let a ← row n data
      let l ← rowsFrom row (n + 1) rest
      pure (a :: l)

/-- An import: who imports what, when, and under which identifiers. -/
structure Import where
  merchantId : String
  files : Artifacts
  env : Env
  draws : Draws

/-- The products the products file describes. -/
def Import.products (x : Import) : Option (List Product) :=
  (readLines x.env.reading x.files.products).bind <| rowsFrom
    (fun n => productRow x.env.reading x.merchantId x.draws.catalogVersionId (x.draws.productId n)) 0

/-- The offers the offers file describes, each with its stock. -/
def Import.offers (x : Import) : Option (List (Offer × ℤ)) := do
  let lines ← readLines x.env.reading x.files.offers
  let rows ← rowsFrom (fun n data => do
    let offer ← offerRow x.env.reading x.merchantId x.draws.catalogVersionId (x.draws.offerId n)
      x.env.now data
    let quantity ← quantityOf x.env.reading data
    pure (offer.map fun o => (o, quantity))) 0 lines
  pure rows.reduceOption

end Catalog
end AgenticCommerce
