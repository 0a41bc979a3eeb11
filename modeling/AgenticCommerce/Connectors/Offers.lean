/-
# Offers of the merchants' platforms

The offers that the connectors of `services/connectors` make of raw records:
`parse_shopify_product` and `parse_woocommerce_product` of `ecommerce_platform.py`,
`parse_csv_feed` and `parse_jsonl_feed` of `feed.py`, `transform_raw_offer` of
`generic_rest.py`.  Of the products that are made of the same records the identifier is kept,
and whether the others of their fields can be read; where they cannot, the record makes no
offer.  The texts of Python's own errors are left out.
-/

import AgenticCommerce.Agent.Intent
import AgenticCommerce.Text.Decimals

namespace AgenticCommerce
namespace Connectors

open Agent.Intent (intOf intOfText rounded times)
open Pipeline (PyFloat intOfFloat)

/-- What Python makes of texts and of values. -/
structure Python where
  chars : Money.Charset
  /-- `str(value)` of a list or a dict. -/
  repr : Json → String
  /-- `text.upper()`. -/
  upper : String → String

/-- A decoded object. -/
abbrev Raw := List (String × Json)

/-- `raw.get(key, default)`. -/
def Raw.getD (raw : Raw) (key : String) (default : Json) : Json :=
  (Json.lookup raw key).getD default

/-- `raw.get(key)`. -/
def Raw.get (raw : Raw) (key : String) : Json := raw.getD key .null

/-- `raw.get(first) or raw.get(second) or …`. -/
def Raw.firstTrue (raw : Raw) (keys : List String) (default : Json) : Json :=
  (keys.map fun key => raw.get key).foldr Json.orElse default

/-- `CanonicalOffer`; the currency is what the record has. -/
structure Offer where
  offerId : String
  productId : String
  merchantId : String
  unitPriceMinor : ℤ
  currency : Json
  availableStock : ℤ
  deliveryDays : ℤ := 2
  returnPeriodDays : ℤ := 14
  isActive : Bool := true

/-- An error of Python's own. -/
def raised : Failure := .exception ""

/-- The dict a value is; nothing else has a `get`. -/
def dict? : Json → Option Raw
  | .obj items => some items
  | _ => none

/-- What a loop over a value goes through. -/
def iterated : Json → Option (List Json)
  | .arr items => some items
  | .obj items => some (items.map fun kv => .str kv.1)
  | .str s => some (s.toList.map fun c => .str (String.ofList [c]))
  | _ => none

/-- Whether a value can be a key. -/
def hashable : Json → Bool
  | .arr _ | .obj _ => false
  | _ => true

/-- `(raw.get("images") or [{}])[0].get("src")` can be read. -/
def imageReads (raw : Raw) : Bool :=
  match raw.get "images" with
  | .arr (.obj _ :: _) => true
  | images => !images.truthy

section

variable (python : Python)

/-- `str(value)`. -/
def str (value : Json) : String := value.toStr python.repr

/-! ### Prices and stock of the platforms -/

/-- The text of a number, and a text itself: that of every other value is no number. -/
def numeral? : Json → Option String
  | .int n => some (toString n)
  | .float r => some r
  | .str s => some s
  | .null | .bool _ | .arr _ | .obj _ => none

/-- `str(value).strip().lstrip("$").replace(",", "")`. -/
def priceText (text : String) : List Char :=
  ((Strings.strip text.toList).dropWhile (· = '$')).filter (· ≠ ',')

/-- `parse_price_minor`. -/
def parsePriceMinor (value : Json) : Except Failure ℤ :=
  match ((numeral? value).bind fun text =>
      Decimals.decimal? python.chars.digit (priceText text)).bind Decimals.quantize with
  | none => .error (.raised "Connector price must be a decimal string or number." .validationError)
  | some price =>
      -- the product of a number with two places and a hundred has as many digits, and is exact
      let result := Decimals.halfUp (price * 100)
      if result ≤ 0 then .error (.raised "Connector price must be positive." .validationError)
      else .ok result

/-- `parse_stock_quantity`. -/
def parseStockQuantity (value : Json) (defaultWhenMissing : ℤ) : ℤ :=
  if value = .null then defaultWhenMissing
  else match (numeral? value).bind fun text =>
      intOfText python.chars (Strings.strip text.toList) with
    | some n => max 0 n
    | none => 0

/-! ### Shopify -/

/-- An option of a Shopify product can be read. -/
def optionReads (option : Json) : Bool :=
  match dict? option with
  | some items =>
      let name := items.get "name"
      let values := items.get "values"
      !(name.truthy && values.truthy) || (hashable name && (iterated values).isSome)
  | none => false

/-- The variants of a Shopify product, where it can be read. -/
def shopifyVariants (raw : Raw) : Option (List Raw) :=
  match iterated (raw.getD "options" (.arr [])) with
  | some options =>
      if options.all optionReads && imageReads raw then
        (iterated (raw.getD "variants" (.arr []))).bind fun variants => variants.mapM dict?
      else none
  | none => none

/-- The offer of a variant; one without a price that can be sold at is passed over. -/
def variantOffer (merchantId : String) (raw variant : Raw) : Option Offer :=
  match parsePriceMinor python (variant.getD "price" (.str "0")) with
  | .error _ => none
  | .ok priceMinor => some
      { offerId := "ofr_sh_" ++ str python (variant.get "id")
        productId := "prd_sh_" ++ str python (raw.getD "id" (.str "item"))
        merchantId
        unitPriceMinor := priceMinor
        currency := .str "INR"
        availableStock := parseStockQuantity python (variant.get "inventory_quantity") 0 }

/-- `parse_shopify_product`. -/
def parseShopifyProduct (merchantId : String) (raw : Raw) : Except Failure (List Offer) :=
  match shopifyVariants raw with
  | some variants => .ok (variants.filterMap (variantOffer python merchantId raw))
  | none => .error raised

/-! ### WooCommerce -/

/-- The category of a WooCommerce product can be read. -/
def categoryReads (raw : Raw) : Bool :=
  match raw.getD "categories" (.arr []) with
  | .arr (.obj category :: _) => (Raw.getD category "name" (.str "general")).str?.isSome
  | categories => !categories.truthy

/-- An attribute of a WooCommerce product can be read. -/
def attributeReads (entry : Json) : Bool :=
  match dict? entry with
  | some items => hashable (items.getD "name" (.str "spec")) &&
      (iterated (items.getD "options" (.arr []))).any fun options =>
        options.all fun option => option.str?.isSome
  | none => false

/-- A WooCommerce product can be read. -/
def wooReads (raw : Raw) : Bool :=
  categoryReads raw && imageReads raw &&
    (iterated (raw.getD "attributes" (.arr []))).any fun attributes => attributes.all attributeReads

/-- `raw.get("price") or raw.get("regular_price") or "0"`. -/
def wooPrice (raw : Raw) : Json := raw.firstTrue ["price", "regular_price"] (.str "0")

/-- `parse_woocommerce_product`. -/
def parseWooCommerceProduct (merchantId : String) (raw : Raw) : Except Failure (List Offer) :=
  let priceMinor := match parsePriceMinor python (wooPrice raw) with
    | .ok n => n
    | .error _ => 0
  let stock := parseStockQuantity python (raw.get "stock_quantity")
    (if (raw.getD "in_stock" (.bool true)).truthy then 10 else 0)
  if wooReads raw then .ok
    [{ offerId := "ofr_woo_" ++ str python (raw.getD "id" (.str "item"))
       productId := "prd_woo_" ++ str python (raw.getD "id" (.str "item"))
       merchantId
       unitPriceMinor := priceMinor
       currency := raw.getD "currency" (.str "INR")
       availableStock := max 0 stock }]
  else .error raised

/-! ### Feeds -/

/-- A row of a table: a cell that is missing at its end is `None`. -/
abbrev Row := List (String × Option String)

/-- `row.get(key) or ""`. -/
def Row.cell (row : Row) (key : String) : String :=
  (row.foldl (fun found kv => if kv.1 = key then kv.2 else found) none).getD ""

/-- `row.get(first) or row.get(second) or …`, if one of them is not empty. -/
def Row.firstCell (row : Row) (keys : List String) : Option String :=
  (keys.map row.cell).find? (· ≠ "")

/-- An identifier with the prefix of products. -/
def productIdOf (id : String) : String :=
  if "prd_".toList.isPrefixOf id.toList then id else "prd_" ++ id

/-- `f"ofr_{pid[4:]}"`. -/
def offerIdOf (productId : String) : String := "ofr_" ++ String.ofList (productId.toList.drop 4)

/-- What a row without a price that can be read is refused with. -/
def feedRefusal : Failure :=
  .raised "Catalog feed rows must supply a non-negative integer 'price_minor' in minor units."
    .validationError

/-- `int(row.get("price_minor") or 0)`, refused below zero. -/
def csvPrice (row : Row) : Except Failure ℤ :=
  if row.cell "price_minor" = "" then .ok 0
  else match intOfText python.chars (row.cell "price_minor").toList with
    | some n => if n < 0 then .error feedRefusal else .ok n
    | none => .error feedRefusal

/-- `int(row.get("stock") or row.get("quantity") or 10)`, ten where it raises. -/
def csvStock (row : Row) : ℤ :=
  match row.firstCell ["stock", "quantity"] with
  | none => 10
  | some text => (intOfText python.chars text.toList).getD 10

/-- The offer of a row of `parse_csv_feed`, the rows counted from zero. -/
def parseCsvRow (merchantId : String) (index : ℕ) (row : Row) : Except Failure Offer := do
  let productId := productIdOf
    ((row.firstCell ["id", "sku", "product_id"]).getD ("prd_feed_" ++ toString (index + 1)))
  let priceMinor ← csvPrice python row
  return { offerId := offerIdOf productId
           productId
           merchantId
           unitPriceMinor := priceMinor
           currency := .str "INR"
           availableStock := csvStock python row }

/-- The float of a name. -/
def namedFloat (text : List Char) : Option PyFloat :=
  let (negative, name) := match text with
    | '-' :: text => (true, text)
    | '+' :: text => (false, text)
    | text => (false, text)
  if name.map Char.toLower = "inf".toList ∨ name.map Char.toLower = "infinity".toList then
    some (.infinite negative)
  else if name.map Char.toLower = "nan".toList then some .nan
  else none

/-- `float(text)`. -/
def floatOfText (text : String) : Option PyFloat :=
  ((Decimals.written? python.chars.digit text.toList).map rounded).or
    (namedFloat (Decimals.asciiNumber python.chars.digit text.toList))

/-- An integer is too large for a float that would be infinite. -/
def ofInteger : PyFloat → Except Failure PyFloat
  | .finite q => .ok (.finite q)
  | .infinite _ | .nan => .error raised

/-- `float(value)`. -/
def floatOf : Json → Except Failure PyFloat
  | .bool b => .ok (.finite (if b then 1 else 0))
  | .int n => ofInteger (rounded n)
  | .float r => (floatOfText python r).elim (.error raised) .ok
  | .str s => (floatOfText python s).elim (.error raised) .ok
  | .null | .arr _ | .obj _ => .error raised

/-- `int(raw.get("price_minor") or (float(raw.get("price", 0)) * 100))`. -/
def jsonlPrice (raw : Raw) : Except Failure ℤ :=
  if (raw.get "price_minor").truthy then intOf python.chars (raw.get "price_minor")
  else (floatOf python (raw.getD "price" (.int 0))).bind fun x => intOfFloat (times 100 x)

/-- `int(raw.get("stock") or 10)`. -/
def jsonlStock (raw : Raw) : Except Failure ℤ :=
  intOf python.chars ((raw.get "stock").orElse (.int 10))

/-- The offer of a line of `parse_jsonl_feed` that holds a JSON value. -/
def parseJsonlLine (merchantId : String) (index : ℕ) (raw : Raw) : Except Failure Offer := do
  let productId := productIdOf (str python
    (raw.firstTrue ["product_id", "id"] (.str ("prd_feed_" ++ toString (index + 1)))))
  let priceMinor ← jsonlPrice python raw
  let stock ← jsonlStock python raw
  return { offerId := offerIdOf productId
           productId
           merchantId
           unitPriceMinor := priceMinor
           currency := .str (str python ((raw.get "currency").orElse (.str "INR")))
           availableStock := stock }

/-! ### Generic REST -/

/-- The price of a record: an integer, and so a truth value, that is not negative. -/
def restPrice (raw : Raw) : Except Failure ℤ :=
  if raw.get "price_minor" = .null ∧ raw.get "price" ≠ .null then
    .error (.raised ("Connector feeds must supply prices as integer minor units " ++
      "('price_minor'); ambiguous 'price' fields are not accepted.") .validationError)
  else
    let refusal : Failure := .raised
      "Connector price_minor must be a non-negative integer amount in minor units." .validationError
    match raw.get "price_minor" with
    | .int n => if n < 0 then .error refusal else .ok n
    | .bool b => .ok (if b then 1 else 0)
    | _ => .error refusal

/-- `raw.get("stock") or raw.get("quantity") or raw.get("inventory_level") or 0`. -/
def restStock (raw : Raw) : Json := raw.firstTrue ["stock", "quantity", "inventory_level"] (.int 0)

/-- `transform_raw_offer`, with the product identifier of `transform_raw_product`. -/
def transformRawOffer (merchantId : String) (raw : Raw) : Except Failure Offer := do
  let productId := productIdOf
    (str python (raw.firstTrue ["id", "sku", "product_id"] (.str "prd_unknown")))
  let priceMinor ← restPrice raw
  let stock ← intOf python.chars (restStock raw)
  let deliveryDays ← intOf python.chars ((raw.get "delivery_days").orElse (.int 2))
  let returnPeriodDays ← intOf python.chars ((raw.get "return_period_days").orElse (.int 14))
  return { offerId := offerIdOf productId
           productId
           merchantId
           unitPriceMinor := priceMinor
           currency := .str (python.upper (str python ((raw.get "currency").orElse (.str "INR"))))
           availableStock := stock
           deliveryDays
           returnPeriodDays }

/-! ### Records -/

/-- A raw record of a connector. -/
inductive Record where
  | shopify (raw : Json)
  | wooCommerce (raw : Json)
  | csv (row : Row)
  | jsonl (raw : Json)
  | rest (raw : Json)

/-- `raw.get` is called on what is a dict. -/
def ofDict {α : Type} (raw : Json) (f : Raw → Except Failure α) : Except Failure α :=
  match dict? raw with
  | some items => f items
  | none => .error raised

/-- The offers of a record at a place of its feed. -/
def Record.offers (merchantId : String) (index : ℕ) : Record → Except Failure (List Offer)
  | shopify raw => ofDict raw (parseShopifyProduct python merchantId)
  | wooCommerce raw => ofDict raw (parseWooCommerceProduct python merchantId)
  | csv row => (parseCsvRow python merchantId index row).map fun o => [o]
  | jsonl raw =>
      ofDict raw fun items => (parseJsonlLine python merchantId index items).map fun o => [o]
  | rest raw =>
      ofDict raw fun items => (transformRawOffer python merchantId items).map fun o => [o]

/-- The offers of all records of a feed: none where one of them cannot be read. -/
def feedOffers (merchantId : String) (records : List Record) : Except Failure (List Offer) :=
  (records.zipIdx.mapM fun entry : Record × ℕ =>
    entry.1.offers python merchantId entry.2).map List.flatten

end

end Connectors
end AgenticCommerce
