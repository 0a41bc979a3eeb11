/-
# Staging a CSV file

The upload of a merchant's CSV file in `apps/api/routers/merchant_catalog.py` and `stage_csv_rows`
of `services/catalog/service.py`.  The route checks the names in the header trimmed and in small
letters; the staging looks the cells up under the exact names, so that a column spelled otherwise
passes the check and is then not there.

A file is what `csv.reader` makes of it: the header and the records.  What Python makes of texts is
the argument `Rendering`.
-/

import AgenticCommerce.Catalog.Service

namespace AgenticCommerce
namespace Catalog

open Relational

/-! ### The file -/

/-- A CSV file as `csv.reader` reads it. -/
structure CsvFile where
  header : List String
  records : List (List String)

/-- The position of the last name with a property. -/
def lastIndex (p : String → Bool) : List String → Option ℕ
  | [] => none
  | name :: names =>
      match lastIndex p names with
      | some i => some (i + 1)
      | none => if p name then some 0 else none

/-- A row of `csv.DictReader`: the names bound one after the other, to `None` where the record is
too short. -/
def dictRow (header record : List String) : List (String × Option String) :=
  header.zipIdx.map fun (name, i) => (name, record[i]?)

/-- `row.get(name)`: what the name was bound to last. -/
def rowGet (row : List (String × Option String)) (name : String) : Option String :=
  row.foldl (fun found binding => if binding.1 = name then binding.2 else found) none

/-- The records that `csv.DictReader` gives: an empty one is skipped. -/
def CsvFile.dataRecords (file : CsvFile) : List (List String) :=
  file.records.filter fun record => record ≠ []

/-- `list(csv.DictReader(…))`, without what stands beyond the header. -/
def CsvFile.rows (file : CsvFile) : List (List (String × Option String)) :=
  file.dataRecords.map (dictRow file.header)

/-! ### The check of the route -/

/-- How an upload ends when it is not staged. -/
inductive UploadError where
  | http (status : ℕ) (detail : String)
  | exception (message : String)
  deriving DecidableEq

/-- `sorted(REQUIRED_COLUMNS)`. -/
def requiredColumns : List String :=
  ["currency", "inventory", "price_minor", "sku", "status", "title"]

/-- `MAX_CSV_ROWS`. -/
def maxCsvRows : ℕ := 10000

variable (rendering : Rendering)

/-- `k.lower().strip()`. -/
def normalizedName (name : String) : String := rendering.reading.strip (rendering.lower name)

/-- The checks of `create_import` on the parsed rows.  A record beyond the header has the key
`None`, which has no `lower`. -/
def checkUpload (file : CsvFile) : Except UploadError Unit :=
  match file.dataRecords with
  | [] => .error (.http 400 "CSV file is empty")
  | first :: more =>
      if maxCsvRows < (first :: more).length then
        .error (.http 413 s!"CSV has too many rows (limit {maxCsvRows})")
      else if file.header.length < first.length then
        .error (.exception "'NoneType' object has no attribute 'lower'")
      else
        let missing := requiredColumns.filter fun column =>
          column ∉ file.header.map (normalizedName rendering)
        if missing = [] then .ok ()
        else .error (.http 400 ("CSV is missing required columns: [" ++
          ", ".intercalate (missing.map fun column => "'" ++ column ++ "'") ++ "]"))

/-! ### The staged rows -/

/-- `_norm`: trimmed, with nothing for a blank. -/
def normCell (cell : Option String) : Option String :=
  (cell.map rendering.reading.strip).filter fun text => text ≠ ""

/-- An import that rows are staged for, with the identifiers that are drawn. -/
structure Staging where
  merchantId : String
  importId : String
  rowId : ℕ → String

/-- The row that is staged of the row at a position. -/
def stageRow (x : Staging) (n : ℕ) (raw : List (String × Option String)) : CatalogImportRow :=
  let cell name := normCell rendering (rowGet raw name)
  { rowId := x.rowId n, importId := x.importId, rowNumber := n + 1
    sku := cell "sku"
    title := cell "title"
    description := cell "description"
    priceMinor := (cell "price_minor").bind rendering.reading.int
    currency := some ((cell "currency").getD "INR")
    inventory := (cell "inventory").bind rendering.reading.int
    status := cell "status"
    imageUrl := cell "image_url"
    category := some ((cell "category").getD "uncategorized_review")
    isValid := true, deliveryDays := some 3, returnPeriodDays := some 14 }

/-- The rows that are staged, from a position on. -/
def stagedRows (x : Staging) : ℕ → List (List (String × Option String)) → List CatalogImportRow
  | _, [] => []
  | n, raw :: rows => stageRow rendering x n raw :: stagedRows x (n + 1) rows

/-- `stage_csv_rows`: how many rows were staged and how many rejected, of which there are none. -/
def stageCsvRows (x : Staging) (rows : List (List (String × Option String))) : Op (ℕ × ℕ) := do
  let _ ← require (fun db => db.catalogImports.first fun i =>
    i.importId == x.importId && i.merchantId == x.merchantId)
    (.exception ("Import " ++ x.importId ++ " not found"))
  insert fun db => (db.catalogImportRows.insertAll (stagedRows rendering x 0 rows)).map
    fun catalogImportRows => { db with catalogImportRows }
  pure (rows.length, 0)

/-! ### The columns -/

/-- The columns that the staging reads. -/
inductive Column where
  | sku | title | description | priceMinor | currency | inventory | status | imageUrl | category
  deriving DecidableEq, Repr

/-- The name of a column. -/
def Column.name : Column → String
  | sku => "sku"
  | title => "title"
  | description => "description"
  | priceMinor => "price_minor"
  | currency => "currency"
  | inventory => "inventory"
  | status => "status"
  | imageUrl => "image_url"
  | category => "category"

/-- What a cell of a column reads as: a text or a number, or nothing. -/
def Column.value (cell : Option String) : Column → Option String ⊕ Option ℤ
  | priceMinor | inventory => .inr ((normCell rendering cell).bind rendering.reading.int)
  | currency => .inl (some ((normCell rendering cell).getD "INR"))
  | category => .inl (some ((normCell rendering cell).getD "uncategorized_review"))
  | sku | title | description | status | imageUrl => .inl (normCell rendering cell)

/-- **A staged row is what its columns read as.** -/
theorem stageRow_eq_iff {x : Staging} {n : ℕ} {raw raw' : List (String × Option String)} :
    stageRow rendering x n raw = stageRow rendering x n raw' ↔
      ∀ c : Column,
        c.value rendering (rowGet raw c.name) = c.value rendering (rowGet raw' c.name) := by
  constructor
  · intro h c
    simp only [stageRow, CatalogImportRow.mk.injEq, Option.some.injEq, true_and, and_true] at h
    obtain ⟨hsku, htitle, hdescription, hprice, hcurrency, hinventory, hstatus, himage,
      hcategory⟩ := h
    cases c with
    | sku => exact congrArg Sum.inl hsku
    | title => exact congrArg Sum.inl htitle
    | description => exact congrArg Sum.inl hdescription
    | priceMinor => exact congrArg Sum.inr hprice
    | currency => exact congrArg (Sum.inl ∘ some) hcurrency
    | inventory => exact congrArg Sum.inr hinventory
    | status => exact congrArg Sum.inl hstatus
    | imageUrl => exact congrArg Sum.inl himage
    | category => exact congrArg (Sum.inl ∘ some) hcategory
  · intro h
    have htext (c : Column) (hc : ∀ cell, c.value rendering cell = .inl (normCell rendering cell)) :
        normCell rendering (rowGet raw c.name) = normCell rendering (rowGet raw' c.name) := by
      have hvalue := h c
      rw [hc, hc] at hvalue
      exact Sum.inl.inj hvalue
    have hprice := Sum.inr.inj (h .priceMinor)
    have hcurrency := Sum.inl.inj (h .currency)
    have hinventory := Sum.inr.inj (h .inventory)
    have hcategory := Sum.inl.inj (h .category)
    simp only [stageRow, CatalogImportRow.mk.injEq, true_and, and_true]
    exact ⟨htext .sku fun _ => rfl, htext .title fun _ => rfl, htext .description fun _ => rfl,
      hprice, hcurrency, hinventory, htext .status fun _ => rfl, htext .imageUrl fun _ => rfl,
      hcategory⟩

/-! ### Headers -/

/-- The file with the names of its header trimmed and in small letters. -/
def CsvFile.canonical (file : CsvFile) : CsvFile :=
  { file with header := file.header.map (normalizedName rendering) }

/-- A cell is looked up where the name stands last. -/
theorem rowGet_dictRow (header record : List String) (name : String) :
    rowGet (dictRow header record) name =
      (lastIndex (fun other => other = name) header).bind fun i => record[i]? := by
  have hfold : ∀ (names : List String) (k : ℕ) (found : Option String),
      ((names.zipIdx k).map fun (entry : String × ℕ) => (entry.1, record[entry.2]?)).foldl
        (fun found binding => if binding.1 = name then binding.2 else found) found =
      match lastIndex (fun other => other = name) names with
      | some i => record[k + i]?
      | none => found := by
    intro names
    induction names with
    | nil => exact fun _ _ => rfl
    | cons other names ih =>
        intro k found
        rw [List.zipIdx_cons, List.map_cons, List.foldl_cons, ih, lastIndex]
        cases lastIndex (fun other => decide (other = name)) names with
        | some i => simp only [Nat.add_assoc, Nat.add_comm 1 i]
        | none =>
            by_cases hname : other = name
            · simp [hname]
            · simp [hname]
  rw [rowGet, dictRow, hfold header 0 none]
  cases lastIndex (fun other => decide (other = name)) header with
  | some i => simp
  | none => rfl

theorem lastIndex_map (p : String → Bool) (f : String → String) : ∀ names : List String,
    lastIndex p (names.map f) = lastIndex (fun name => p (f name)) names
  | [] => rfl
  | name :: names => by rw [List.map_cons, lastIndex, lastIndex, lastIndex_map p f names]

/-- Where the staging finds a column: at the last name that is spelled exactly so. -/
def CsvFile.spelled (file : CsvFile) (c : Column) : Option ℕ :=
  lastIndex (fun name => name = c.name) file.header

/-- Where the check finds it: at the last name that is so once it is trimmed and in small
letters. -/
def CsvFile.meant (file : CsvFile) (c : Column) : Option ℕ :=
  lastIndex (fun name => normalizedName rendering name = c.name) file.header

/-- The spelling of a column does not matter: the name that is meant is spelled exactly so, or the
cells that are found without it read alike in every record. -/
def CsvFile.Harmless (file : CsvFile) (c : Column) : Prop :=
  file.spelled c = file.meant rendering c ∨ ∀ record ∈ file.dataRecords,
    c.value rendering ((file.spelled c).bind fun i => record[i]?) =
      c.value rendering ((file.meant rendering c).bind fun i => record[i]?)

theorem stagedRows_eq_iff {x : Staging} {f g : List String → List (String × Option String)} :
    ∀ {records : List (List String)} {n : ℕ},
      stagedRows rendering x n (records.map f) = stagedRows rendering x n (records.map g) ↔
        ∀ record ∈ records, ∀ c : Column, c.value rendering (rowGet (f record) c.name) =
          c.value rendering (rowGet (g record) c.name)
  | [], _ => by simp [stagedRows]
  | record :: records, n => by
      rw [List.map_cons, List.map_cons, stagedRows, stagedRows, List.cons.injEq,
        stageRow_eq_iff, stagedRows_eq_iff, List.forall_mem_cons]

/-- **When the spelling of the header does not matter**: of a file, whether or not it passes the
check, the same rows are staged as of the file with the canonical header, and as many rejected,
exactly when every column is spelled so that it is found, or nothing is lost with it. -/
theorem staging_iff (x : Staging) (file : CsvFile) :
    (stagedRows rendering x 0 file.rows = stagedRows rendering x 0 (file.canonical rendering).rows ∧
        file.rows.length = (file.canonical rendering).rows.length) ↔
      ∀ c : Column, file.Harmless rendering c := by
  have hlength : file.rows.length = (file.canonical rendering).rows.length := by
    rw [CsvFile.rows, CsvFile.rows, List.length_map, List.length_map]
    rfl
  have hrows : stagedRows rendering x 0 file.rows =
      stagedRows rendering x 0 (file.canonical rendering).rows ↔
        ∀ record ∈ file.dataRecords, ∀ c : Column,
          c.value rendering ((file.spelled c).bind fun i => record[i]?) =
            c.value rendering ((file.meant rendering c).bind fun i => record[i]?) := by
    refine (@stagedRows_eq_iff rendering x _ _ file.dataRecords 0).trans ?_
    refine forall₂_congr fun record _ => forall_congr' fun c => ?_
    rw [rowGet_dictRow, rowGet_dictRow, CsvFile.canonical, lastIndex_map]
    rfl
  rw [and_iff_left hlength, hrows]
  constructor
  · intro h c
    exact .inr fun record hrecord => h record hrecord c
  · intro h record hrecord c
    rcases h c with heq | hall
    · rw [heq]
    · exact hall record hrecord

/-! ### A header in capital letters -/

/-- A rendering for ASCII texts, with whole numbers. -/
def wholeRendering : Rendering where
  reading :=
    { (default : Reading) with
      float := readShort
      int := fun text => if text = "100" then some 100 else if text = "5" then some 5 else none }
  repr := shortRepr
  lower text := String.ofList (text.toList.map Char.toLower)
  capitalize text := text
  float_repr := readShort_shortRepr

/-- A file with one product; the first name is the argument. -/
def oneProduct (sku : String) : CsvFile where
  header := [sku, "title", "price_minor", "currency", "inventory", "status"]
  records := [["A1", "Keyboard", "100", "INR", "5", "active"]]

/-- **A header in capital letters passes the check, and its column is lost.** -/
theorem capital_header_lost : ¬ ∀ (rendering : Rendering) (x : Staging) (file : CsvFile),
    checkUpload rendering file = .ok () → stagedRows rendering x 0 file.rows =
      stagedRows rendering x 0 (file.canonical rendering).rows := by
  intro h
  have hsku := congrArg (List.map CatalogImportRow.sku)
    (h wholeRendering ⟨"mer", "imp", fun _ => "row"⟩ (oneProduct "SKU") (by decide))
  exact absurd hsku (by decide)

end Catalog
end AgenticCommerce
