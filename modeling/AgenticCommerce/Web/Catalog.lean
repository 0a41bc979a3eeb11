/-
# The web tier's catalog search

`searchCatalog` of `apps/web/src/lib/serverDb.ts`, over the SQLite tables it reads.  The
count and the page are two queries: both join products and offers and filter them alike,
and the page joins the stock and the images of position zero besides.  `LIKE` is SQLite's:
`%` stands for any stretch, `_` for any character, and letters agree up to ASCII case.
What a row is rendered to is left out.
-/

import AgenticCommerce.Relational.Paging
import AgenticCommerce.Schema
import AgenticCommerce.Text.Floats
import Mathlib.Data.List.DropRight
import Mathlib.Data.Prod.Lex

namespace AgenticCommerce

open Relational

namespace Web

/-! ### Strings -/

/-- `text LIKE pattern`. -/
def like : List Char → List Char → Bool
  | [] => List.isEmpty
  | c :: pattern =>
      if c = '%' then fun text => text.tails.any (like pattern)
      else fun
        | [] => false
        | d :: text => (c == '_' || c.toLower == d.toLower) && like pattern text

/-- `text LIKE '%word%'`. -/
def likeWithin (word text : String) : Bool := like ('%' :: word.toList ++ ['%']) text.toList

/-- What `trim` takes off. -/
def isWhiteSpace (c : Char) : Bool :=
  c.toNat ∈ [0x9, 0xA, 0xB, 0xC, 0xD, 0x20, 0xA0, 0x1680, 0x2028, 0x2029, 0x202F, 0x205F, 0x3000,
    0xFEFF] || (0x2000 ≤ c.toNat && c.toNat ≤ 0x200A)

/-- `text.trim()`. -/
def trim (text : String) : String :=
  String.ofList ((text.toList.dropWhile isWhiteSpace).rdropWhile isWhiteSpace)

/-- `text.includes(part)`. -/
def includes (text part : String) : Bool := text.toList.tails.any part.toList.isPrefixOf

/-- `text.replace(/s$/, "")`. -/
def dropS (text : String) : String :=
  if text.toList.getLast? = some 's' then String.ofList text.toList.dropLast else text

/-! ### The tables -/

/-- A product, its specifications as the text they are stored as. -/
structure Product where
  productId : String
  categoryId : String
  title : String := ""
  specifications : String := "\x7b\x7d"
  averageRating : ℚ := 0
  ratingNumber : ℤ := 0
  deriving DecidableEq

instance : Keyed Product where
  Key := String
  key := Product.productId
  clash k l := decide (k = l)
  clash_self _ := decide_eq_true rfl
  clash_comm _ _ := decide_eq_decide.2 eq_comm

/-- An image; a product may have several at one position. -/
structure Image where
  productId : String
  sourceUrl : String
  position : ℤ
  deriving DecidableEq

/-- The tables of the search. -/
structure Catalog where
  products : Table Product := .empty
  offers : Table Offer := .empty
  inventory : Table Inventory := .empty
  images : List Image := []

/-- What the search takes from its surroundings: `toLowerCase`, a number in a template
string, and `json_extract(specifications, path) >= bound`. -/
structure Engine where
  lower : String → String
  render : ℚ → String
  specifiedAtLeast : (specifications path : String) → ℚ → Bool

/-- `DbSearchOptions`. -/
structure DbSearchOptions where
  q : Option String := none
  category : Option String := none
  minPriceMinor : Option ℚ := none
  maxPriceMinor : Option ℚ := none
  minMemoryGb : Option ℚ := none
  minStorageGb : Option ℚ := none
  maxDeliveryDays : Option ℚ := none
  limit : ℤ := 16
  offset : ℤ := 0

/-! ### The filter -/

/-- The rules of `normalizeCategoryFilter`, in their order: the words one of which must
occur, and the category. -/
def categoryRules : List (List String × String) :=
  [(["laptop"], "laptop"),
    (["phone", "smart"], "smartphone"),
    (["audio", "headphone", "earphone"], "audio"),
    (["monitor", "display"], "monitor"),
    (["keyboard", "mouse", "computer_accessory"], "computer_accessory"),
    (["appliance"], "appliance"),
    (["camera"], "camera"),
    (["phone_acc", "phone accessory"], "phone_accessory"),
    (["electronic"], "home_electronics")]

/-- `normalizeCategoryFilter`, of a category other than the empty one and `all`. -/
def categoryWord (engine : Engine) (category : String) : String :=
  let c := trim (engine.lower category)
  ((categoryRules.find? fun rule => rule.1.any (includes c)).map Prod.snd).getD (dropS c)

/-- `normalizeCategoryFilter`. -/
def normalizeCategoryFilter (engine : Engine) (category : Option String) : Option String :=
  (category.filter fun c => c ≠ "" && c ≠ "all").map (categoryWord engine)

/-- `if (text)`. -/
def truthy (text : Option String) : Option String := text.filter (· ≠ "")

/-- The clause of a filter that is given. -/
def clause {β : Type} (filter : Option β) (test : β → Bool) : Bool := filter.all test

/-- A lower bound on a specification. -/
def specified (engine : Engine) (path field : String) (p : Product) (bound : ℚ) : Bool :=
  engine.specifiedAtLeast p.specifications path bound ||
    likeWithin (engine.render bound ++ "GB") p.title ||
    likeWithin ("\"" ++ field ++ "\":" ++ engine.render bound) p.specifications

/-- The `WHERE` clause. -/
def passes (engine : Engine) (options : DbSearchOptions) (row : Product × Offer) : Bool :=
  row.2.status == .active &&
  clause (truthy (options.q.map trim))
    (fun term => likeWithin term row.1.title || likeWithin term row.1.specifications ||
      likeWithin term row.1.categoryId) &&
  clause (truthy (normalizeCategoryFilter engine options.category))
    (fun word => likeWithin word row.1.categoryId || row.1.categoryId == word) &&
  clause options.minPriceMinor (fun bound => decide (bound ≤ row.2.unitPriceMinor)) &&
  clause options.maxPriceMinor (fun bound => decide ((row.2.unitPriceMinor : ℚ) ≤ bound)) &&
  clause options.maxDeliveryDays (fun bound => decide ((row.2.deliveryDays : ℚ) ≤ bound)) &&
  clause options.minMemoryGb (specified engine "$.memory_gb" "memory_gb" row.1) &&
  clause options.minStorageGb (specified engine "$.storage_gb" "storage_gb" row.1)

/-! ### The two queries -/

/-- `product p JOIN offer o`: the offers whose product is stored, with it. -/
def Catalog.joined (db : Catalog) : List (Product × Offer) :=
  db.offers.rows.filterMap fun o =>
    (db.products.first fun p => p.productId == o.productId).map fun p => (p, o)

/-- The offers that match. -/
def matching (engine : Engine) (db : Catalog) (options : DbSearchOptions) :
    List (Product × Offer) :=
  db.joined.filter (passes engine options)

/-- `COUNT(*)`. -/
def total (engine : Engine) (db : Catalog) (options : DbSearchOptions) : ℕ :=
  (matching engine db options).length

/-- A row of the page query. -/
structure Row where
  product : Product
  offer : Offer
  availableQuantity : ℤ
  imageUrl : Option String
  deriving DecidableEq

/-- The images that the page query joins. -/
def Catalog.frontImages (db : Catalog) (productId : String) : List Image :=
  db.images.filter fun i => i.productId == productId && i.position == 0

/-- A `LEFT JOIN` gives one row without a match. -/
def orNull {β : Type} : List β → List (Option β)
  | [] => [none]
  | matched => matched.map some

/-- The rows of one offer: one for each image, or one without. -/
def Catalog.rowsOf (db : Catalog) (row : Product × Offer) : List Row :=
  (orNull (db.frontImages row.1.productId)).map fun image =>
    { product := row.1, offer := row.2,
      availableQuantity := ((db.inventory.first fun i => i.offerId == row.2.offerId).map
        Inventory.availableQuantity).getD 15,
      imageUrl := image.map Image.sourceUrl }

/-- The rows of the page query. -/
def rows (engine : Engine) (db : Catalog) (options : DbSearchOptions) : List Row :=
  (matching engine db options).flatMap db.rowsOf

/-- The categories that come first. -/
def frontCategories : List String := ["laptop", "laptops", "smartphone", "smartphones", "audio",
  "monitor", "monitors", "keyboards"]

/-- The keys of `ORDER BY`, the descending ones negated. -/
abbrev OrderKey := ℕ ×ₗ ℕ ×ₗ ℚ ×ₗ ℚ ×ₗ ℤ

def orderKey (p : Product) (o : Offer) : OrderKey :=
  toLex (if like "prd_seed_%".toList p.productId.toList then 0 else 1,
    toLex (if p.categoryId ∈ frontCategories then 0 else 1,
      toLex (-nearest (nearest p.ratingNumber * p.averageRating),
        toLex (-p.averageRating, -o.unitPriceMinor))))

def Row.key (row : Row) : OrderKey := orderKey row.product row.offer

/-- `searchCatalog`, of an order of the rows that SQL may give: the rows of the page, and
the total. -/
def searchCatalog (engine : Engine) (db : Catalog) (options : DbSearchOptions)
    (ordered : List Row) : List Row × ℕ :=
  (limitOffset options.limit options.offset ordered, total engine db options)

end Web
end AgenticCommerce
