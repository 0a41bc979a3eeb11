/-
# Stages 4 to 6: the offers, the reviews, the report

`stage_offers`, `stage_reviews` and `stage_report` of `pipeline/build_catalog.py`: an offer for
each product with a price, the reviews of the products, and the counts of both.

The reviews are inserted into a transaction that is committed after every so many of them, so
that a run that is killed leaves some; the next one deletes them and begins anew.
-/

import AgenticCommerce.Pipeline.Manifest
import AgenticCommerce.Relational.Ranking
import Mathlib.Data.String.Basic

namespace AgenticCommerce
namespace Pipeline

open Relational Program Work

/-! ### Offers -/

/-- `DEMO_MERCHANT_ID`. -/
def demoMerchantId : String := "merchant_demo"

/-- `DATASET_USD_TO_INR_RATE`. -/
def datasetUsdToInrRate : ℤ := 100

/-- Why no offer is made: the price is missing, the product is not one, or something is raised that
the stage does not catch. -/
inductive OfferFailure where
  | priceMissing
  | invalid
  | raised (e : Failure)

section

variable (py : Python) (tools : Toolbox)

/-- `int.from_bytes(digest, "big")`. -/
def bigEndian (digest : List UInt8) : ℕ := digest.foldl (fun n b => n * 256 + b.toNat) 0

/-- `_seeded_int`, for bounds that are in order. -/
def seededInt (parentAsin salt : String) (minimum maximum : ℕ) : ℕ :=
  minimum + bigEndian ((tools.sha256 (parentAsin ++ "\x00" ++ salt)).take 8) %
    (maximum - minimum + 1)

/-- The offer of a product at a price. -/
def offerOf (parentAsin productId subcategory : String) (amountMinor : ℤ) : Json :=
  .obj [("offer_id", .str ("off_" ++ firstChars 20 (hexdigest (tools.sha256 parentAsin)))),
    ("product_id", .str productId), ("external_product_id", .str parentAsin),
    ("merchant_id", .str demoMerchantId), ("category_id", .str subcategory),
    ("status", .str "active"), ("unit_price_minor", .int (amountMinor * datasetUsdToInrRate)),
    ("currency", .str "INR"),
    ("delivery_days", .int (seededInt tools parentAsin "delivery_days" 1 8)),
    ("return_period_days", .int (seededInt tools parentAsin "return_period_days" 7 30)),
    ("available_quantity", .int (seededInt tools parentAsin "available_quantity" 1 25)),
    ("reserved_quantity", .int 0), ("offer_version", .int 1),
    ("pricing_source", .str "amazon_reviews_2023_usd_fx_100"),
    ("expires_at", .str "2030-12-31T23:59:59Z")]

/-- `build_offer`. -/
def buildOffer (product : Record) : Except OfferFailure Json :=
  match product.get "provenance" with
  | .obj provenance =>
      match Record.get provenance "parent_asin" with
      | .str parentAsin =>
          let subcategory := ((Json.lookup product "category_id").getD (.str uncategorized)).toStr
            py.repr
          match product.get "source_price" with
          | .obj sourcePrice =>
              if Record.get sourcePrice "currency" ≠ .str "USD" then .error .priceMissing
              else match Record.get sourcePrice "amount_minor" with
                | .int amountMinor =>
                    if amountMinor ≤ 0 then .error .priceMissing
                    else match Json.lookup product "product_id" with
                      | some productId => .ok (offerOf tools parentAsin
                          (productId.toStr py.repr) subcategory amountMinor)
                      | none => .error (.raised (.exception "product_id"))
                | _ => .error .priceMissing
          | _ => .error .priceMissing
      | _ => .error .invalid
  | _ => .error .invalid

end

/-- `OfferGenerationResult`. -/
structure OfferGenerationResult where
  productsRead : ℕ := 0
  offersWritten : ℕ := 0
  malformedLines : ℕ := 0
  offersSkippedNoPrice : ℕ := 0
  deriving DecidableEq

/-- `offers.jsonl`, opened for writing. -/
def Disk.openOffers (d : Disk) : Disk := { d with offersJsonl := some [] }

/-- A line more of `offers.jsonl`. -/
def Disk.writeOffer (line : String) (d : Disk) : Disk :=
  { d with offersJsonl := d.offersJsonl.map fun lines => lines ++ [line] }

section

variable (config : Config) {m : Type → Type} [Monad m]

/-- The body of the loop of `stage_offers`. -/
def offerLine (handle : Handle Failure String m) (result : OfferGenerationResult)
    (rawLine : String) : m OfferGenerationResult :=
  match config.py.loads rawLine with
  | some (.obj product) =>
      match buildOffer config.py config.tools product with
      | .ok offer => do
          handle.write (config.py.dump offer)
          pure { result with productsRead := result.productsRead + 1
                             offersWritten := result.offersWritten + 1 }
      | .error .priceMissing => pure { result with
          productsRead := result.productsRead + 1
          offersSkippedNoPrice := result.offersSkippedNoPrice + 1 }
      | .error .invalid => pure { result with malformedLines := result.malformedLines + 1 }
      | .error (.raised e) => handle.answer (.error e)
  | _ => pure { result with malformedLines := result.malformedLines + 1 }

/-- The loop of `stage_offers`. -/
def offerLoop (handle : Handle Failure String m) (lines : List String) :
    m OfferGenerationResult :=
  lines.foldlM (offerLine config handle) {}

/-- The lines of `offers.jsonl`. -/
def offerLines (products : List String) : Except Failure (List String) :=
  (offerLoop config Handle.buffer products []).map Prod.snd

/-- What `stage_offers` does when there is something to do. -/
def offerBuild : DiskOp (ℕ × OfferGenerationResult) := do
  let products ← openProductsJsonl
  durable Disk.openOffers
  let result ← offerLoop config (Handle.file Disk.writeOffer) products
  pure (result.offersWritten, result)

/-- `stage_offers`. -/
def stageOffers : Plan OfferGenerationResult where
  stage := .offers
  required := productsRequired
  artifact d := d.offersJsonl.isSome
  kept d := .ok { offersWritten := d.records .offers }
  build := offerBuild config

/-- The offers are those of the products. -/
def OffersCurrent (d : Disk) : Prop :=
  ∃ products lines, d.productsJsonl = some products ∧ d.offersJsonl = some lines ∧
    offerLines config products = .ok lines

end

/-! ### Reviews -/

/-- `ReviewLinkResult`. -/
structure ReviewLinkResult where
  reviewsSeen : ℕ := 0
  reviewsLinked : ℕ := 0
  reviewsDiscarded : ℕ := 0
  malformedLines : ℕ := 0
  deriving DecidableEq

/-- What the loop of `stage_reviews` holds: the table with what is not committed. -/
structure ReviewScan where
  table : List Review := []
  pending : ℕ := 0
  result : ReviewLinkResult := {}

section

variable (py : Python) (tools : Toolbox)

/-- `_review_identifier`. -/
def reviewIdentifier (parentAsin : String) (record : Record) : String :=
  let sourceId := (record.get "review_id").orElse ((record.get "asin").orElse (.str ""))
  let canonical := tools.dumpSorted (.obj record)
  "rev_" ++ firstChars 24 (hexdigest (tools.sha256
    (parentAsin ++ "\x00" ++ sourceId.toStr py.repr ++ "\x00" ++ canonical)))

/-- The body of the loop of `_selected_products`, which puts the last binding first. -/
def selectedProduct (selected : List (String × String)) (rawLine : String) :
    List (String × String) :=
  match py.loads rawLine with
  | some (.obj product) =>
      match (Json.lookup product "provenance").getD (.obj []) with
      | .obj provenance =>
          match Record.get provenance "parent_asin", Record.get product "product_id" with
          | .str parentAsin, .str productId => (parentAsin, productId) :: selected
          | _, _ => selected
      | _ => selected
  | _ => selected

/-- `_selected_products`. -/
def selectedProducts (lines : List String) : List (String × String) :=
  lines.foldl (selectedProduct py) []

/-- The review that a record is stored as. -/
def reviewOf (sourceName parentAsin productId : String) (record : Record) :
    Except Failure Review := do
  let rating ← match record.get "rating" with
    | .null => pure none
    | value => (asInt py value).map some
  if rating.any fun n => !decide (FitsInteger n) then
    throw (.exception "Python int too large to convert to SQLite INTEGER")
  pure { reviewId := reviewIdentifier py tools parentAsin record, productId, parentAsin, rating
         title := asOptionalStr py (record.get "title")
         body := asOptionalStr py (record.get "text")
         verifiedPurchase := (record.get "verified_purchase").truthy
         reviewedAt := asOptionalStr py (record.get "timestamp")
         sourceFile := sourceName, raw := record }

/-- `INSERT OR IGNORE INTO review`. -/
def insertReview (table : List Review) (review : Review) : List Review :=
  if review.reviewId ∈ table.map Review.reviewId then table else table ++ [review]

end

/-- The table of reviews, created where it is not there. -/
def Disk.createReviews (d : Disk) : Disk := { d with reviewsDb := some (d.reviewsDb.getD []) }

/-- The table of reviews, committed. -/
def Disk.commitReviews (table : List Review) (d : Disk) : Disk := { d with reviewsDb := some table }

section

variable (config : Config) {m : Type → Type} [Monad m]
  (handle : Handle Failure (List Review) m) (selected : List (String × String))

/-- The body of the inner loop of `stage_reviews`. -/
def linkReview (sourceName : String) (scan : ReviewScan) (record : Record) : m ReviewScan :=
  let result := { scan.result with reviewsSeen := scan.result.reviewsSeen + 1 }
  let discarded : ReviewScan := { scan with
    result := { result with reviewsDiscarded := result.reviewsDiscarded + 1 } }
  match record.get "parent_asin" with
  | .str parentAsin =>
      match selected.lookup parentAsin with
      | none => pure discarded
      | some productId => do
          let review ← handle.answer
            (reviewOf config.py config.tools sourceName parentAsin productId record)
          let table := insertReview scan.table review
          let result := { result with
            reviewsLinked := result.reviewsLinked + (table.length - scan.table.length) }
          if config.batchSize ≤ scan.pending + 1 then do
            handle.write table
            pure { table, pending := 0, result }
          else pure { table, pending := scan.pending + 1, result }
  | _ => pure discarded

/-- The body of the outer loop of `stage_reviews`. -/
def linkSource (cap : Option ℕ) (scan : ReviewScan) (sourceName : String) : m ReviewScan :=
  match config.raw sourceName with
  | none => pure scan
  | some lines => do
      let scan ← (iterJsonl config.py cap lines).foldlM
        (linkReview config handle selected sourceName) { scan with pending := 0 }
      if scan.pending ≠ 0 then handle.write scan.table
      pure { scan with result := { scan.result with
        malformedLines := scan.result.malformedLines + malformedLines config.py cap lines } }

/-- The loops of `stage_reviews`. -/
def reviewLoop (cap : Option ℕ) : m ReviewScan :=
  config.reviewSources.foldlM (linkSource config handle selected cap) {}

/-- The reviews of the products. -/
def reviewRows (cap : Option ℕ) (products : List String) : Except Failure (List Review) :=
  (reviewLoop config Handle.buffer (selectedProducts config.py products) cap []).map
    fun scan => scan.1.table

/-- What `stage_reviews` does when there is something to do.  Where the table is empty, to delete
its rows changes nothing. -/
def reviewBuild (cap : Option ℕ) : DiskOp (ℕ × ReviewLinkResult) := do
  let products ← openProductsJsonl
  durable (Disk.commitReviews [])
  let scan ← reviewLoop config (Handle.file Disk.commitReviews)
    (selectedProducts config.py products) cap
  durable (Disk.commitReviews scan.table)
  pure (scan.result.reviewsLinked, scan.result)

/-- `stage_reviews`. -/
def stageReviews (cap : Option ℕ) : Plan ReviewLinkResult where
  stage := .reviews
  required := productsRequired
  prepare := Disk.createReviews
  artifact d := d.reviewsDb.isSome
  kept d := .ok { reviewsLinked := (d.reviewsDb.getD []).length }
  build := reviewBuild config cap

/-- The reviews are those of the products, under the cap. -/
def ReviewsCurrent (cap : Option ℕ) (d : Disk) : Prop :=
  ∃ products table, d.productsJsonl = some products ∧ d.reviewsDb = some table ∧
    reviewRows config cap products = .ok table

end

/-! ### The report -/

/-- `CATALOG_TARGET_TOTAL`. -/
def catalogTargetTotal : ℤ := (subcategoryQuotas.map Prod.snd).sum

/-- `_jsonl_records`. -/
def jsonlRecords (py : Python) (lines : List String) : List Record :=
  lines.filterMap fun line => match py.loads line with
    | some (.obj record) => some record
    | _ => none

/-- `dict(sorted(Counter(values).items()))`. -/
def sortedCounts (values : List String) : Json :=
  .obj ((ranked id values.dedup).map fun value => (value, .int (values.count value)))

/-- `build_quality_report`. -/
def buildQualityReport (py : Python) (products offers : List Record) (reviewCount : ℕ) : Json :=
  let values (key : String) := products.map fun product =>
    ((Json.lookup product key).getD (.str "unknown")).toStr py.repr
  let missing := products.filter fun product => !(product.get "description").truthy
  .obj [("configured_target_total", .int catalogTargetTotal),
    ("achieved_product_total", .int products.length),
    ("product_count_by_subcategory", sortedCounts (values "category_id")),
    ("product_count_by_status", sortedCounts (values "status")),
    ("missing_description_count", .int missing.length),
    ("generated_offer_count", .int offers.length), ("linked_review_count", .int reviewCount)]

/-- How many reviews are linked. -/
def Disk.reviewCount (d : Disk) : ℕ := (d.reviewsDb.getD []).length

section

variable (config : Config)

/-- The content of `quality_report.json`. -/
def reportText (products offers : List String) (reviewCount : ℕ) : String :=
  config.py.dump (buildQualityReport config.py (jsonlRecords config.py products)
    (jsonlRecords config.py offers) reviewCount) ++ "\n"

/-- `offers.jsonl`, opened for reading. -/
def openOffersJsonl : DiskOp (List String) := openLines "offers.jsonl" Disk.offersJsonl

/-- `quality_report.json`, written. -/
def Disk.writeReport (text : String) (d : Disk) : Disk := { d with qualityReportJson := some text }

/-- What `stage_report` does when there is something to do: the file is emptied, and then
written. -/
def reportBuild : DiskOp (ℕ × Json) := do
  let products ← openProductsJsonl
  let offers ← openOffersJsonl
  let reviewCount ← read Disk.reviewCount
  durable (Disk.writeReport "")
  durable (Disk.writeReport (reportText config products offers reviewCount))
  pure ((jsonlRecords config.py products).length,
    buildQualityReport config.py (jsonlRecords config.py products)
      (jsonlRecords config.py offers) reviewCount)

/-- `stage_report`. -/
def stageReport : Plan Json where
  stage := .report
  required d := if d.productsJsonl.isSome && d.offersJsonl.isSome then none
    else some (.exception "products.jsonl and offers.jsonl are required before report")
  artifact d := d.qualityReportJson.isSome
  kept d := (d.qualityReportJson.bind config.py.loads).elim
    (.error (.exception "quality_report.json is no JSON")) .ok
  build := reportBuild config

/-- The report is that of the products, the offers and the reviews. -/
def ReportCurrent (d : Disk) : Prop :=
  ∃ products offers, d.productsJsonl = some products ∧ d.offersJsonl = some offers ∧
    d.qualityReportJson = some (reportText config products offers d.reviewCount)

end

/-! ### What they compute -/

variable {config : Config} {cap : Option ℕ}

theorem offerLoop_mirrors (lines : List String) : Mirrors Disk.writeOffer
    (offerLoop config (Handle.file Disk.writeOffer) lines)
    (offerLoop config Handle.buffer lines) := by
  refine Mirrors.foldlM (fun result rawLine => ?_) lines _
  unfold offerLine
  split
  · split
    · exact (Mirrors.write _).bind fun _ => .pure _
    · exact .pure _
    · exact .pure _
    · exact .answer _
  · exact .pure _

theorem offers_lineFile : LineFile .offers Disk.offersJsonl Disk.openOffers Disk.writeOffer where
  ne_select := by decide
  opens d := by
    refine ⟨⟨fun _ => rfl, fun T hT => ?_⟩, rfl⟩
    cases T <;> first | exact absurd rfl hT | exact ⟨rfl, rfl⟩ | exact .inl rfl | rfl
  appends line d := by
    refine ⟨⟨fun _ => rfl, fun T hT => ?_⟩, rfl⟩
    cases T <;> first | exact absurd rfl hT | exact ⟨rfl, rfl⟩ | exact .inl rfl | rfl

/-- The offers fill the frame. -/
theorem stageOffers_lawful : (stageOffers config).Lawful (fun _ => OffersCurrent config) cap where
  prepare d := refl_of Idle d
  build := offers_lineFile.moves offerLoop_mirrors
  builds := offers_lineFile.delivers offerLoop_mirrors
  mark _ _ h := h

theorem reviewLoop_mirrors (selected : List (String × String)) : Mirrors Disk.commitReviews
    (reviewLoop config (Handle.file Disk.commitReviews) selected cap)
    (reviewLoop config Handle.buffer selected cap) := by
  have hlink (sourceName : String) (scan : ReviewScan) (record : Record) :
      Mirrors Disk.commitReviews
        (linkReview config (Handle.file Disk.commitReviews) selected sourceName scan record)
        (linkReview config Handle.buffer selected sourceName scan record) := by
    unfold linkReview
    split
    · split
      · exact .pure _
      · refine (Mirrors.answer _).bind fun review => ?_
        exact .ite (fun _ => (Mirrors.write _).bind fun _ => .pure _) fun _ => .pure _
    · exact .pure _
  refine Mirrors.foldlM (fun scan sourceName => ?_) _ _
  unfold linkSource
  split
  · exact .pure _
  · refine (Mirrors.foldlM (hlink sourceName) _ _).bind fun scan => ?_
    exact .ite (fun _ => (Mirrors.write _).bind fun _ => .pure _) fun _ => .pure _

theorem produces_commitReviews (table : List Review) (d : Disk) :
    Produces .reviews d (d.commitReviews table) :=
  ⟨fun _ => rfl, fun T hT => by
    cases T <;> first | exact absurd rfl hT | exact ⟨rfl, rfl⟩ | rfl⟩

theorem reviewBuild_moves : Moves (Journal.Along (Produces .reviews)) (reviewBuild config cap) := by
  refine moves_openLines.bind fun products =>
    (moves_durable (produces_commitReviews [])).bind fun _ => Moves.bind ?_ fun scan =>
      (moves_durable (produces_commitReviews scan.table)).bind fun _ => .pure
  exact (reviewLoop_mirrors _).moves.mono fun _ _ h =>
    h.mono fun _ _ => Appends.of_step produces_commitReviews

/-- **What the stage commits** are the reviews of the products. -/
theorem reviewBuild_delivers : Delivers (fun _ => True) (reviewBuild config cap)
    fun _ j => ReviewsCurrent config cap j.state := by
  intro j built j' _ hrun
  obtain ⟨products, j₁, hread, hrest⟩ := bind_eq_ok.1 hrun
  obtain ⟨hproducts, rfl⟩ := openLines_eq_ok.1 hread
  obtain ⟨_, j₂, hdelete, hrest⟩ := bind_eq_ok.1 hrest
  obtain rfl := durable_eq_ok.1 hdelete
  obtain ⟨scan, j₃, hscan, hrest⟩ := bind_eq_ok.1 hrest
  obtain ⟨_, j₄, hcommit, hpure⟩ := bind_eq_ok.1 hrest
  obtain rfl := durable_eq_ok.1 hcommit
  obtain ⟨-, rfl⟩ := pure_eq_ok.1 hpure
  obtain ⟨items, hitems, hstate⟩ := (reviewLoop_mirrors _).written hscan
  have hsame : Produces .reviews (j.state.commitReviews []) j₃.state :=
    Appends.of_step produces_commitReviews ⟨items, hstate⟩
  have hselect : SameOutput .select _ _ := hsame.outputs .select (by decide)
  refine ⟨products, scan.table, Eq.trans hselect hproducts, rfl, ?_⟩
  rw [reviewRows, hitems]
  rfl

/-- The reviews fill the frame. -/
theorem stageReviews_lawful : (stageReviews config cap).Lawful (ReviewsCurrent config) cap where
  prepare d := by
    refine ⟨fun _ => rfl, fun T => ?_⟩
    cases T
    case products => exact ⟨rfl, rfl⟩
    case reviews =>
      show some (d.reviewsDb.getD []) = d.reviewsDb ∨ _
      cases hreviews : d.reviewsDb with
      | none => exact .inr ⟨rfl, congrArg some (by rw [hreviews]; rfl)⟩
      | some table => exact .inl rfl
    all_goals rfl
  build := reviewBuild_moves
  builds := reviewBuild_delivers
  mark _ _ h := h

theorem produces_writeReport (text : String) (d : Disk) : Produces .report d (d.writeReport text) :=
  ⟨fun _ => rfl, fun T hT => by
    cases T <;> first | exact absurd rfl hT | exact ⟨rfl, rfl⟩ | exact .inl rfl | rfl⟩

/-- The report fills the frame. -/
theorem stageReport_lawful : (stageReport config).Lawful (fun _ => ReportCurrent config) cap where
  prepare d := refl_of Idle d
  build := by
    exact moves_openLines.bind fun products => moves_openLines.bind fun offers => Moves.ask.bind fun reviewCount => (moves_durable (produces_writeReport "")).bind fun _ =>
        (moves_durable (produces_writeReport _)).bind fun _ => .pure
  builds := by
    intro j built j' _ hrun
    obtain ⟨products, j₁, hread, hrest⟩ := bind_eq_ok.1 hrun
    obtain ⟨hproducts, rfl⟩ := openLines_eq_ok.1 hread
    obtain ⟨offers, j₂, hread, hrest⟩ := bind_eq_ok.1 hrest
    obtain ⟨hoffers, rfl⟩ := openLines_eq_ok.1 hread
    obtain ⟨reviewCount, j₃, hcount, hrest⟩ := bind_eq_ok.1 hrest
    obtain ⟨hreviews, rfl⟩ := ask_eq_ok.1 hcount
    obtain rfl := Except.ok.inj hreviews
    obtain ⟨_, j₄, hopen, hrest⟩ := bind_eq_ok.1 hrest
    obtain rfl := durable_eq_ok.1 hopen
    obtain ⟨_, j₅, hwrite, hpure⟩ := bind_eq_ok.1 hrest
    obtain rfl := durable_eq_ok.1 hwrite
    obtain ⟨-, rfl⟩ := pure_eq_ok.1 hpure
    exact ⟨products, offers, hproducts, hoffers, rfl⟩
  mark _ _ h := h

end Pipeline
end AgenticCommerce
