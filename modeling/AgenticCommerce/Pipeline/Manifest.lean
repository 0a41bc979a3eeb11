/-
# Stage 3: the image manifest

`stage_images` of `pipeline/build_catalog.py`: a line for each image of each product, with the key
under which it is to be stored.  The keys are made from the variants, which are not unique, so a
key that is taken gets the position behind it, and then a number.
-/

import AgenticCommerce.Pipeline.Stages
import AgenticCommerce.Relational.Handles

namespace AgenticCommerce
namespace Pipeline

open Relational Program Work

/-! ### Storage keys -/

/-- `f"{n:02d}"`. -/
def padTwo (n : ℕ) : String := if n < 10 then "0" ++ toString n else toString n

/-- `[a-z0-9]`. -/
def isSlugChar (c : Char) : Bool := ('a' ≤ c && c ≤ 'z') || ('0' ≤ c && c ≤ '9')

section

variable (py : Python)

/-- `_slug`: the runs of letters and digits, with underscores between them. -/
def slug (value : Json) : String :=
  let text := match value with
    | .str s => s
    | value => if value.truthy then value.toStr py.repr else ""
  let runs := (py.lower (py.strip text)).toList.splitOnP fun c => !isSlugChar c
  String.ofList (['_'].intercalate (runs.filter (· ≠ [])))

/-- The keys that `image_storage_key` tries: the slug, the slug with the position, and then with one
number after another. -/
def storageKey (productId slug : String) (position : ℕ) : ℕ → String
  | 0 => productId ++ "/" ++ slug ++ ".jpg"
  | 1 => productId ++ "/" ++ slug ++ "_" ++ padTwo position ++ ".jpg"
  | suffix + 2 =>
      productId ++ "/" ++ slug ++ "_" ++ padTwo position ++ "_" ++ toString (suffix + 1) ++ ".jpg"

/-- `image_storage_key`: the first key that is not taken.  There is one among the first of the keys,
as many as are taken and one more. -/
def imageStorageKey (productId : String) (variant : Json) (position : ℕ) (used : List String) :
    String :=
  let name := if slug py variant = "" then "image_" ++ padTwo position else slug py variant
  let keys := (List.range (used.length + 3)).map (storageKey productId name position)
  (keys.find? fun key => !used.contains key).getD (storageKey productId name position 0)

/-! ### Rows -/

/-- A row of the manifest; `downloaded` is `False` in each. -/
structure ManifestRow where
  productId : String
  externalProductId : Json
  position : ℕ
  variant : Option String
  resolution : Option String
  sourceUrl : String
  storageKey : String
  deriving DecidableEq

/-- A row as an object. -/
def ManifestRow.json (row : ManifestRow) : Json :=
  .obj [("product_id", .str row.productId), ("external_product_id", row.externalProductId),
    ("position", .int row.position), ("variant", row.variant.elim .null .str),
    ("resolution", row.resolution.elim .null .str), ("source_url", .str row.sourceUrl),
    ("storage_key", .str row.storageKey), ("downloaded", .bool false)]

/-- `product.get("images") or []`, as what a loop over it goes through. -/
def imageCandidates (product : Record) : Except Failure (List Json) :=
  match product.get "images" with
  | .arr items => .ok items
  | .obj items => .ok (items.map fun item => .str item.1)
  | .str s => .ok (s.toList.map fun c => .str (String.ofList [c]))
  | value => if value.truthy then .error (.exception "object is not iterable") else .ok []

/-- The body of the loop of `image_manifest_rows`, over the rows and the URLs that were seen. -/
def manifestRow (productId : String) (externalId : Json) (seen : List ManifestRow × List String) :
    Json → List ManifestRow × List String
  | .obj image =>
      match Record.get image "url" with
      | .str url =>
          if isUsableUrl py url = false ∨ url ∈ seen.2 then seen
          else
            let position := seen.1.length
            (seen.1 ++ [{
              productId, externalProductId := externalId, position
              variant := asOptionalStr py (Record.get image "variant")
              resolution := asOptionalStr py (Record.get image "resolution")
              sourceUrl := py.strip url
              storageKey := imageStorageKey py productId (Record.get image "variant") position
                (seen.1.map ManifestRow.storageKey) }], url :: seen.2)
      | _ => seen
  | _ => seen

/-- `image_manifest_rows`. -/
def imageManifestRows (product : Record) (candidates : List Json) : List ManifestRow :=
  (candidates.foldl (manifestRow py ((product.get "product_id").toStr py.repr)
    (product.get "external_product_id")) ([], [])).1

end

variable {py : Python}

theorem toString_injective : Function.Injective (toString : ℕ → String) := by
  intro n n' h
  have hdigits : Nat.toDigits 10 n = Nat.toDigits 10 n' := String.ofList_injective h
  have hvalue := congrArg (fun ds => Nat.ofDigitChars 10 ds 0) hdigits
  rwa [Nat.ofDigitChars_toDigits (by decide) (by decide),
    Nat.ofDigitChars_toDigits (by decide) (by decide)] at hvalue

/-- The keys that are tried are different. -/
theorem storageKey_injective (productId name : String) (position : ℕ) :
    Function.Injective (storageKey productId name position) := by
  intro k k' h
  have hlength := congrArg String.length h
  have hmark : "_".length = 1 := by decide
  match k, k' with
  | 0, 0 => rfl
  | 1, 1 => rfl
  | 0, 1 => simp only [storageKey, String.length_append, hmark] at hlength; omega
  | 1, 0 => simp only [storageKey, String.length_append, hmark] at hlength; omega
  | 0, _ + 2 => simp only [storageKey, String.length_append, hmark] at hlength; omega
  | _ + 2, 0 => simp only [storageKey, String.length_append, hmark] at hlength; omega
  | 1, _ + 2 => simp only [storageKey, String.length_append, hmark] at hlength; omega
  | _ + 2, 1 => simp only [storageKey, String.length_append, hmark] at hlength; omega
  | suffix + 2, suffix' + 2 =>
      have hsuffix : toString (suffix + 1) = toString (suffix' + 1) := by
        simpa [storageKey] using h
      have := toString_injective hsuffix
      omega

/-- **A key that is chosen is not taken.** -/
theorem imageStorageKey_not_mem (productId : String) (variant : Json) (position : ℕ)
    (used : List String) : imageStorageKey py productId variant position used ∉ used := by
  rw [imageStorageKey]
  generalize (if slug py variant = "" then "image_" ++ padTwo position else slug py variant) = name
  cases hfound : ((List.range (used.length + 3)).map (storageKey productId name position)).find?
      fun key => !used.contains key with
  | some key =>
      have hfree := List.find?_some hfound
      simpa using hfree
  | none =>
      have hnodup : ((List.range (used.length + 3)).map (storageKey productId name position)).Nodup :=
        List.nodup_range.map (storageKey_injective productId name position)
      have hsubset : (List.range (used.length + 3)).map (storageKey productId name position) ⊆ used :=
        fun key hkey => by simpa using List.find?_eq_none.1 hfound key hkey
      have hle := (hnodup.subperm hsubset).length_le
      rw [List.length_map, List.length_range] at hle
      omega

/-- **No product overwrites its own image.** -/
theorem imageManifestRows_nodup (product : Record) (candidates : List Json) :
    ((imageManifestRows py product candidates).map ManifestRow.storageKey).Nodup := by
  have hloop : ∀ (candidates : List Json) (seen : List ManifestRow × List String),
      (seen.1.map ManifestRow.storageKey).Nodup →
        ((candidates.foldl (manifestRow py ((product.get "product_id").toStr py.repr)
          (product.get "external_product_id")) seen).1.map ManifestRow.storageKey).Nodup := by
    intro candidates
    induction candidates with
    | nil => exact fun _ h => h
    | cons image candidates ih =>
        intro seen hseen
        refine ih _ ?_
        unfold manifestRow
        split
        · split
          · dsimp only
            split_ifs
            · exact hseen
            · rw [List.map_append, List.map_singleton, ← List.concat_eq_append]
              exact hseen.concat (imageStorageKey_not_mem _ _ _ _)
          · exact hseen
        · exact hseen
  exact hloop candidates ([], []) List.nodup_nil

/-! ### The stage -/

/-- `ImageManifestResult`. -/
structure ImageManifestResult where
  productsRead : ℕ := 0
  imagesWritten : ℕ := 0
  imagesSkipped : ℕ := 0
  productsWithoutImages : ℕ := 0
  malformedLines : ℕ := 0
  deriving DecidableEq

/-- What the loop of `stage_images` holds. -/
structure ManifestScan where
  seenKeys : List String := []
  result : ImageManifestResult := {}

/-- `images_manifest.jsonl`, opened for writing. -/
def Disk.openManifest (d : Disk) : Disk := { d with imagesManifestJsonl := some [] }

/-- A line more of `images_manifest.jsonl`. -/
def Disk.writeManifest (line : String) (d : Disk) : Disk :=
  { d with imagesManifestJsonl := d.imagesManifestJsonl.map fun lines => lines ++ [line] }

section

variable (config : Config) {m : Type → Type} [Monad m] (handle : Handle Failure String m)

/-- The body of the inner loop of `stage_images`. -/
def writeManifestRow (scan : ManifestScan) (row : ManifestRow) : m ManifestScan := do
  handle.answer (if scan.seenKeys.contains row.storageKey then
    .error (.exception "duplicate storage key; product identifiers must be unique") else .ok ())
  handle.write (config.py.dump row.json)
  pure
    { seenKeys := row.storageKey :: scan.seenKeys
      result := { scan.result with imagesWritten := scan.result.imagesWritten + 1 } }

/-- The body of the outer loop of `stage_images`. -/
def manifestLine (scan : ManifestScan) (rawLine : String) : m ManifestScan :=
  let malformed := { scan with
    result := { scan.result with malformedLines := scan.result.malformedLines + 1 } }
  if config.py.strip rawLine = "" then pure scan
  else match config.py.loads (config.py.strip rawLine) with
    | some (.obj product) =>
        if (Json.lookup product "product_id").isNone then pure malformed
        else do
          let candidates ← handle.answer (imageCandidates product)
          let rows := imageManifestRows config.py product candidates
          let result := { scan.result with
            productsRead := scan.result.productsRead + 1
            imagesSkipped := scan.result.imagesSkipped + (candidates.length - rows.length) }
          if rows = [] then
            pure { scan with
              result := { result with productsWithoutImages := result.productsWithoutImages + 1 } }
          else rows.foldlM (writeManifestRow config handle) { scan with result }
    | _ => pure malformed

/-- The loops of `stage_images`. -/
def manifestLoop (lines : List String) : m ManifestScan :=
  lines.foldlM (manifestLine config handle) {}

/-- The lines of `images_manifest.jsonl`. -/
def manifestLines (products : List String) : Except Failure (List String) :=
  (manifestLoop config Handle.buffer products []).map Prod.snd

/-- A file, opened for reading. -/
def openLines (name : String) (file : Disk → Option (List String)) : DiskOp (List String) := do
  let lines ← read file
  answer (lines.elim (.error (.exception ("No such file: " ++ name))) .ok)

/-- `products.jsonl`, opened for reading. -/
def openProductsJsonl : DiskOp (List String) := openLines "products.jsonl" Disk.productsJsonl

/-- What `stage_images` does when there is something to do. -/
def manifestBuild : DiskOp (ℕ × ImageManifestResult) := do
  let products ← openProductsJsonl
  durable Disk.openManifest
  let scan ← manifestLoop config (Handle.file Disk.writeManifest) products
  pure (scan.result.imagesWritten, scan.result)

/-- The number of records that a stage was marked with. -/
def Disk.records (d : Disk) (stage : Stage) : ℕ :=
  ((d.db.stageState stage).map StageState.records).getD 0

/-- The refusal of a stage that reads `products.jsonl`. -/
def productsRequired (d : Disk) : Option Failure :=
  if d.productsJsonl.isSome then none
  else some (.exception "products.jsonl does not exist; run 'select' (stage 2) first")

/-- `stage_images`. -/
def stageImages : Plan ImageManifestResult where
  stage := .images
  required := productsRequired
  artifact d := d.imagesManifestJsonl.isSome
  kept d := .ok { imagesWritten := d.records .images }
  build := manifestBuild config

/-- The manifest is that of the products. -/
def ManifestCurrent (d : Disk) : Prop :=
  ∃ products lines, d.productsJsonl = some products ∧ d.imagesManifestJsonl = some lines ∧
    manifestLines config products = .ok lines

end

variable {config : Config}

/-! ### A file that is made of the products -/

/-- What is appended to a file by lines. -/
theorem appendAll_file (file : Disk → Option (List String)) (append : String → Disk → Disk)
    (happend : ∀ line d, file (append line d) = (file d).map fun lines => lines ++ [line])
    {d : Disk} {before : List String} (h : file d = some before) (new : List String) :
    file (appendAll append new d) = some (before ++ new) := by
  induction new generalizing d before with
  | nil => rw [List.append_nil]; exact h
  | cons line new ih =>
      have hfirst : file (append line d) = some (before ++ [line]) := by rw [happend, h]; rfl
      rw [List.append_cons]
      exact ih hfirst

/-- The lines that are read are those of the file. -/
theorem openLines_eq_ok {name : String} {file : Disk → Option (List String)} {j j' : Journal Disk}
    {lines : List String} :
    openLines name file j = .ok lines j' ↔ file j.state = some lines ∧ j = j' := by
  have hrun : openLines name file j = answer ((file j.state).elim
      (.error (.exception ("No such file: " ++ name))) .ok) j := rfl
  rw [hrun]
  cases hfile : file j.state with
  | none =>
      constructor
      · intro h
        exact nomatch h
      · rintro ⟨h, -⟩
        exact nomatch h
  | some lines =>
      refine ask_eq_ok.trans (and_congr_left fun _ => ?_)
      constructor
      · intro h
        exact congrArg some (Except.ok.inj h)
      · intro h
        exact congrArg Except.ok (Option.some.inj h)

theorem moves_openLines {R : Journal Disk → Journal Disk → Prop} [IsPreorder (Journal Disk) R]
    {name : String} {file : Disk → Option (List String)} : Moves R (openLines name file) :=
  Moves.ask.bind fun _ => Moves.ask

/-- A file that a stage makes of `products.jsonl`, line by line. -/
structure LineFile (S : Stage) (file : Disk → Option (List String)) (openFile : Disk → Disk)
    (append : String → Disk → Disk) : Prop where
  ne_select : Stage.select ≠ S
  opens : ∀ d, Produces S d (openFile d) ∧ file (openFile d) = some []
  appends : ∀ line d, Produces S d (append line d) ∧
    file (append line d) = (file d).map fun lines => lines ++ [line]

section

variable {S : Stage} {file : Disk → Option (List String)} {openFile : Disk → Disk}
  {append : String → Disk → Disk} {τ α : Type} {loop : List String → DiskOp τ}
  {spec : List String → Buffer Failure String τ} {finish : τ → α}

/-- **A stage that makes a file of the products** writes what its loop writes to a list. -/
theorem LineFile.delivers (hfile : LineFile S file openFile append)
    (hloop : ∀ products, Mirrors append (loop products) (spec products)) :
    Delivers (fun _ => True)
      (do
        let products ← openProductsJsonl
        durable openFile
        let scan ← loop products
        pure (finish scan) : DiskOp α)
      fun _ j => ∃ products lines, j.state.productsJsonl = some products ∧
        file j.state = some lines ∧ (spec products []).map Prod.snd = .ok lines := by
  intro j built j' _ hrun
  obtain ⟨products, j₁, hread, hrest⟩ := bind_eq_ok.1 hrun
  obtain ⟨hproducts, rfl⟩ := openLines_eq_ok.1 hread
  obtain ⟨_, j₂, hopen, hrest⟩ := bind_eq_ok.1 hrest
  obtain rfl := durable_eq_ok.1 hopen
  obtain ⟨scan, j₃, hscan, hpure⟩ := bind_eq_ok.1 hrest
  obtain ⟨-, rfl⟩ := pure_eq_ok.1 hpure
  obtain ⟨lines, hlines, hstate⟩ := (hloop products).written hscan
  have happends : Produces S (openFile j.state) j₃.state :=
    Appends.of_step (fun line d => (hfile.appends line d).1) ⟨lines, hstate⟩
  refine ⟨products, lines, ?_, ?_, ?_⟩
  · have hopened : SameOutput .select _ _ := (hfile.opens j.state).1.outputs .select hfile.ne_select
    have hwritten : SameOutput .select _ _ := happends.outputs .select hfile.ne_select
    exact (Eq.trans hwritten hopened).trans hproducts
  · rw [hstate]
    exact appendAll_file file append (fun line d => (hfile.appends line d).2)
      (hfile.opens j.state).2 lines
  · rw [hlines]
    rfl

/-- It touches nothing else. -/
theorem LineFile.moves (hfile : LineFile S file openFile append)
    (hloop : ∀ products, Mirrors append (loop products) (spec products)) :
    Moves (Journal.Along (Produces S))
      (do
        let products ← openProductsJsonl
        durable openFile
        let scan ← loop products
        pure (finish scan) : DiskOp α) := by
  refine moves_openLines.bind fun products =>
    (moves_durable fun d => (hfile.opens d).1).bind fun _ => Moves.bind ?_ fun _ => .pure
  exact (hloop products).moves.mono fun _ _ h =>
    h.mono fun _ _ => Appends.of_step fun line d => (hfile.appends line d).1

end

/-! ### What it computes -/

theorem manifestLoop_mirrors (lines : List String) : Mirrors Disk.writeManifest
    (manifestLoop config (Handle.file Disk.writeManifest) lines)
    (manifestLoop config Handle.buffer lines) := by
  have hrow (scan : ManifestScan) (row : ManifestRow) : Mirrors Disk.writeManifest
      (writeManifestRow config (Handle.file Disk.writeManifest) scan row)
      (writeManifestRow config Handle.buffer scan row) :=
    (Mirrors.answer _).bind fun _ => (Mirrors.write _).bind fun _ => .pure _
  refine Mirrors.foldlM (fun scan rawLine => ?_) lines _
  unfold manifestLine
  refine .ite (fun _ => .pure _) fun _ => ?_
  split
  · refine .ite (fun _ => .pure _) fun _ => (Mirrors.answer _).bind fun candidates => ?_
    exact .ite (fun _ => .pure _) fun _ => Mirrors.foldlM hrow _ _
  · exact .pure _

/-- A stage's own file is all that it changes. -/
theorem manifest_lineFile :
    LineFile .images Disk.imagesManifestJsonl Disk.openManifest Disk.writeManifest where
  ne_select := by decide
  opens d := by
    refine ⟨⟨fun _ => rfl, fun T hT => ?_⟩, rfl⟩
    cases T <;> first | exact absurd rfl hT | exact ⟨rfl, rfl⟩ | exact .inl rfl | rfl
  appends line d := by
    refine ⟨⟨fun _ => rfl, fun T hT => ?_⟩, rfl⟩
    cases T <;> first | exact absurd rfl hT | exact ⟨rfl, rfl⟩ | exact .inl rfl | rfl

/-- The manifest fills the frame. -/
theorem stageImages_lawful {cap : Option ℕ} :
    (stageImages config).Lawful (fun _ => ManifestCurrent config) cap where
  prepare d := refl_of Idle d
  build := manifest_lineFile.moves manifestLoop_mirrors
  builds := manifest_lineFile.delivers manifestLoop_mirrors
  mark _ _ h := h

end Pipeline
end AgenticCommerce
