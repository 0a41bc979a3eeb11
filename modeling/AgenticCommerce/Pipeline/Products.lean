/-
# Products of the catalog

`build_product` of `pipeline/build_catalog.py`: the product object of a candidate row, under an
identifier derived from the source's own.  What the pipeline reads off texts with regular
expressions, computes with decimals, or digests, is a parameter (`Toolbox`).
-/

import AgenticCommerce.Pipeline.Records
import AgenticCommerce.Text.JsonText

namespace AgenticCommerce
namespace Pipeline

/-- What the later stages make of texts and numbers. -/
structure Toolbox where
  /-- `hashlib.sha1(text.encode()).hexdigest()`. -/
  sha1 : String → String
  /-- `hashlib.sha256(text.encode()).digest()`. -/
  sha256 : String → List UInt8
  /-- `json.dumps(value, sort_keys=True, separators=(",", ":"), ensure_ascii=False)`. -/
  dumpSorted : Json → String
  /-- `repr(round(value, 3))`. -/
  round3 : PyFloat → String
  /-- `build_specifications`. -/
  buildSpecifications : Record → List String → Record
  /-- `parse_currency_minor` of a float in dollars. -/
  parseCurrencyMinor : PyFloat → Except Failure (Option ℤ)

/-- `digest.hex()`. -/
def hexdigest (digest : List UInt8) : String :=
  String.ofList (digest.flatMap fun b =>
    [Json.hexDigit (b.toNat / 16), Json.hexDigit (b.toNat % 16)])

/-- `text[:n]`. -/
def firstChars (n : ℕ) (text : String) : String := String.ofList (text.toList.take n)

/-- A text, or `None`. -/
def textOrNull (text : Option String) : Json := text.elim .null .str

/-- A list of texts. -/
def texts (l : List String) : Json := .arr (l.map .str)

/-! ### Identity -/

/-- `PRODUCT_ID_NAMESPACE`. -/
def productIdNamespace : String := "agentpay:product:"

/-- `PRODUCT_ID_PREFIX`. -/
def productIdPrefix : String := "prod_"

/-- `PRODUCT_ID_HEX_LENGTH`. -/
def productIdHexLength : ℕ := 24

section

variable (py : Python) (tools : Toolbox)

/-- `derive_product_id`. -/
def deriveProductId (parentAsin : String) : Except Failure String :=
  match asOptionalStr py (.str parentAsin) with
  | none => .error (.exception "parent_asin is required to derive a product identifier")
  | some key => .ok (productIdPrefix ++
      firstChars productIdHexLength (tools.sha1 (productIdNamespace ++ key)))

/-- `raw_metadata_relative_path`. -/
def rawMetadataRelativePath (productId : String) : String :=
  "raw_metadata/" ++ productId ++ ".json"

/-! ### Images -/

/-- The body of the loop of `resolve_product_images`.  The resolution is that of the URL that was
chosen, which `_resolution_of` looks up once more. -/
def resolveImage (resolved : List (String × Json)) (image : NormalizedImage) :
    List (String × Json) :=
  match bestImage py image with
  | none => resolved
  | some (resolution, url) =>
      if url ∈ resolved.map Prod.fst then resolved
      else resolved ++ [(url, .obj [("position", .int resolved.length),
        ("variant", textOrNull (image.variant.bind fun variant => asOptionalStr py (.str variant))),
        ("resolution", .str resolution), ("url", .str url)])]

/-- `resolve_product_images`. -/
def resolveProductImages (images : List NormalizedImage) : List Json :=
  (images.foldl (resolveImage py) []).map Prod.snd

/-! ### The product object -/

/-- `SOURCE_PRICE_NOTE`. -/
def sourcePriceNote : String :=
  "Recorded USD price from the source dataset. It is historical dataset metadata, " ++
    "not a guarantee of a current market price."

/-- `source_price_reference`. -/
def sourcePriceReference (value : Option PyFloat) : Except Failure Json := do
  let minor ← value.elim (.ok none) tools.parseCurrencyMinor
  pure (minor.elim .null fun amountMinor => .obj [("amount_minor", .int amountMinor),
    ("currency", .str "USD"), ("is_authoritative", .bool true), ("note", .str sourcePriceNote)])

/-- `build_product`. -/
def buildProduct (row : Candidate) : Except Failure (String × Json) := do
  let productId ← deriveProductId py tools row.parentAsin
  let sourcePrice ← sourcePriceReference tools row.priceUsd
  pure (productId, .obj
    [("product_id", .str productId), ("external_product_id", .str row.parentAsin),
      ("category_id", .str row.subcategory), ("main_category", textOrNull row.mainCategory),
      ("title", .str row.title), ("store", textOrNull row.store), ("status", .str row.status),
      ("normalized_features", texts row.features), ("description", texts row.description),
      ("specifications", .obj (tools.buildSpecifications row.details row.features)),
      ("images", .arr (resolveProductImages py row.images)),
      ("average_rating", .float (tools.round3 row.averageRating)),
      ("rating_number", .int row.ratingNumber), ("completeness_score", .int row.score),
      ("source_price", sourcePrice),
      ("provenance", .obj [("parent_asin", .str row.parentAsin),
        ("source_file", .str row.sourceFile), ("source_categories", texts row.categories),
        ("raw_metadata_path", .str (rawMetadataRelativePath productId))])])

end

end Pipeline
end AgenticCommerce
