/-
# The keys of the images

`image_storage_key` of `pipeline/build_catalog.py` tries one key after another until it finds one
that its product has not used.  It always finds one, and it takes the first
(`imageStorageKey_first`).  A key is the identifier of its product, a slash, and a name without a
slash, so keys of different products are different (`RowOf.productId_eq`), and the check of
`stage_images` for a duplicate never fires on what the selection wrote (`manifest_unique`).
-/

import AgenticCommerce.Pipeline.ImageShapes
import AgenticCommerce.Pipeline.Manifest
import AgenticCommerce.Pipeline.Selection
import AgenticCommerce.Text.Addresses

namespace AgenticCommerce
namespace Pipeline

open Relational Program Work

/-! ### The loop -/

section

variable {py : Python}

/-- The name that `image_storage_key` begins with. -/
def keyName (py : Python) (variant : Json) (position : ℕ) : String :=
  if slug py variant = "" then "image_" ++ padTwo position else slug py variant

/-- **The collision loop ends** at the first key that is not taken: all keys that were tried before
are. -/
theorem imageStorageKey_first (py : Python) (productId : String) (variant : Json) (position : ℕ)
    (used : List String) : ∃ tries,
      imageStorageKey py productId variant position used =
        storageKey productId (keyName py variant position) position tries ∧
      storageKey productId (keyName py variant position) position tries ∉ used ∧
      ∀ i < tries, storageKey productId (keyName py variant position) position i ∈ used := by
  have hfree := @imageStorageKey_not_mem py productId variant position used
  unfold imageStorageKey at hfree ⊢
  change ((List.map (storageKey productId (keyName py variant position) position) _).find?
    _).getD _ ∉ used at hfree
  change ∃ tries, ((List.map (storageKey productId (keyName py variant position) position) _).find?
    _).getD _ = _ ∧ _
  cases hfound : ((List.range (used.length + 3)).map
      (storageKey productId (keyName py variant position) position)).find?
        fun key => !used.contains key with
  | none =>
      rw [hfound] at hfree
      refine ⟨0, rfl, hfree, fun i hi => absurd hi (Nat.not_lt_zero i)⟩
  | some key =>
      obtain ⟨hkey, tries, htries, rfl, hbefore⟩ := List.find?_eq_some_iff_getElem.1 hfound
      refine ⟨tries, ?_, ?_, fun i hi => ?_⟩
      · rw [Option.getD_some, List.getElem_map, List.getElem_range]
      · simpa using hkey
      · simpa using hbefore i hi

/-! ### What a key is made of -/

/-- A decimal number has no slash. -/
theorem slash_notMem_decimal (n : ℕ) : '/' ∉ (toString n).toList := by
  intro h
  have hdigit := Nat.isDigit_of_mem_toDigits (by decide) (by decide)
    (show '/' ∈ Nat.toDigits 10 n by simpa [toString] using h)
  exact absurd hdigit (by decide)

theorem slash_notMem_padTwo (n : ℕ) : '/' ∉ (padTwo n).toList := by
  unfold padTwo
  split_ifs
  · rw [String.toList_append, List.mem_append, not_or]
    exact ⟨by decide, slash_notMem_decimal n⟩
  · exact slash_notMem_decimal n

/-- The parts of a list have none of what it was split at. -/
theorem not_of_mem_splitOnP {p : Char → Bool} : ∀ {text part : List Char} {c : Char},
    part ∈ text.splitOnP p → c ∈ part → p c = false
  | [], _, _, hpart, hc => by
      rw [List.splitOnP_nil, List.mem_singleton] at hpart
      exact absurd (hpart ▸ hc) List.not_mem_nil
  | x :: text, part, c, hpart, hc => by
      obtain ⟨head, rest, hsplit⟩ := List.exists_cons_of_ne_nil (List.splitOnP_ne_nil p text)
      have ih : ∀ part ∈ head :: rest, ∀ c ∈ part, p c = false := by
        rw [← hsplit]
        exact fun _ hpart _ hc => not_of_mem_splitOnP hpart hc
      rw [List.splitOnP_cons_eq_if_modifyHead, hsplit] at hpart
      split_ifs at hpart with hx
      · rcases List.mem_cons.1 hpart with rfl | hpart
        · exact absurd hc List.not_mem_nil
        · exact ih part hpart c hc
      · rw [List.modifyHead_cons] at hpart
        rcases List.mem_cons.1 hpart with rfl | hpart
        · rcases List.mem_cons.1 hc with rfl | hc
          · exact Bool.eq_false_of_not_eq_true hx
          · exact ih head List.mem_cons_self c hc
        · exact ih part (List.mem_cons_of_mem _ hpart) c hc

/-- A slug has letters, digits and underscores, and so no slash. -/
theorem slash_notMem_slug (value : Json) : '/' ∉ (slug py value).toList := by
  intro h
  unfold slug at h
  dsimp only at h
  rw [String.toList_ofList] at h
  rcases Addresses.mem_intercalate h with h | ⟨part, hpart, hmem⟩
  · exact absurd h (by decide)
  · exact absurd (not_of_mem_splitOnP (List.mem_filter.1 hpart).1 hmem) (by decide)

theorem slash_notMem_keyName (variant : Json) (position : ℕ) :
    '/' ∉ (keyName py variant position).toList := by
  unfold keyName
  split_ifs
  · rw [String.toList_append, List.mem_append, not_or]
    exact ⟨by decide, slash_notMem_padTwo position⟩
  · exact slash_notMem_slug variant

/-- A key is the identifier, a slash, and a name without one. -/
theorem storageKey_parts (productId : String) {name : String} (hname : '/' ∉ name.toList)
    (position tries : ℕ) : ∃ tail, '/' ∉ tail ∧
      (storageKey productId name position tries).toList = productId.toList ++ '/' :: tail := by
  have hpad := slash_notMem_padTwo position
  match tries with
  | 0 =>
      refine ⟨name.toList ++ ".jpg".toList, ?_, ?_⟩
      · rw [List.mem_append, not_or]
        exact ⟨hname, by decide⟩
      · simp [storageKey]
  | 1 =>
      refine ⟨name.toList ++ "_".toList ++ (padTwo position).toList ++ ".jpg".toList, ?_, ?_⟩
      · simp only [List.mem_append, not_or]
        exact ⟨⟨⟨hname, by decide⟩, hpad⟩, by decide⟩
      · simp [storageKey]
  | suffix + 2 =>
      refine ⟨name.toList ++ "_".toList ++ (padTwo position).toList ++ "_".toList ++
        (toString (suffix + 1)).toList ++ ".jpg".toList, ?_, ?_⟩
      · simp only [List.mem_append, not_or]
        exact ⟨⟨⟨⟨⟨hname, by decide⟩, hpad⟩, by decide⟩, slash_notMem_decimal _⟩, by decide⟩
      · simp [storageKey]

/-- The last slash of a key tells its product. -/
theorem productId_eq_of_key {front front' tail tail' : List Char} (h : '/' ∉ tail)
    (h' : '/' ∉ tail') (heq : front ++ '/' :: tail = front' ++ '/' :: tail') : front = front' := by
  have hstart : ∀ {more tail tail' : List Char}, '/' ∉ tail →
      '/' :: tail = more ++ '/' :: tail' → more = [] := by
    intro more tail tail' h heq
    cases more with
    | nil => rfl
    | cons c more =>
        refine absurd ?_ h
        rw [(List.cons.inj heq).2]
        exact List.mem_append_right _ List.mem_cons_self
  rcases List.append_eq_append_iff.1 heq with ⟨more, rfl, hmore⟩ | ⟨more, rfl, hmore⟩
  · rw [hstart h hmore, List.append_nil]
  · rw [hstart h' hmore, List.append_nil]

/-! ### The rows of a product -/

/-- The URL of an image, if any, has no space around it. -/
def Stripped (py : Python) (image : Json) : Prop :=
  ∀ object url, image = .obj object → Record.get object "url" = .str url → py.strip url = url

/-- What the loop of `image_manifest_rows` has collected. -/
structure Collected (productId : String) (seen : List ManifestRow × List String) : Prop where
  keys : ∀ row ∈ seen.1, ∃ tail, '/' ∉ tail ∧
    row.storageKey.toList = productId.toList ++ '/' :: tail
  distinct : (seen.1.map ManifestRow.storageKey).Nodup
  positions : seen.1.map ManifestRow.position = List.range seen.1.length
  urls : (seen.1.map ManifestRow.sourceUrl).Nodup
  noted : ∀ url ∈ seen.1.map ManifestRow.sourceUrl, url ∈ seen.2

/-- An image adds a row under a new key and with a new URL, or nothing. -/
theorem Collected.manifestRow {productId : String} {externalId : Json}
    {seen : List ManifestRow × List String} (h : Collected productId seen) {image : Json}
    (himage : Stripped py image) :
    Collected productId (manifestRow py productId externalId seen image) := by
  unfold Pipeline.manifestRow
  split
  · rename_i object
    split
    · rename_i url hurl
      split_ifs with hseen
      · exact h
      · obtain ⟨-, hnew⟩ := not_or.1 hseen
        have hstrip : py.strip url = url := himage object url rfl hurl
        obtain ⟨tries, hkey, -, -⟩ := imageStorageKey_first py productId
          (Record.get object "variant") seen.1.length (seen.1.map ManifestRow.storageKey)
        refine ⟨fun row hrow => ?_, ?_, ?_, ?_, fun other hother => ?_⟩
        · rcases List.mem_append.1 hrow with hrow | hrow
          · exact h.keys row hrow
          · obtain rfl := List.mem_singleton.1 hrow
            rw [hkey]
            exact storageKey_parts productId (slash_notMem_keyName _ _) _ _
        · rw [List.map_append, List.map_singleton, ← List.concat_eq_append]
          exact h.distinct.concat (imageStorageKey_not_mem _ _ _ _)
        · rw [List.map_append, List.map_singleton, h.positions, List.length_append,
            List.length_singleton, List.range_succ]
        · rw [List.map_append, List.map_singleton, ← List.concat_eq_append]
          refine h.urls.concat fun hmem => hnew ?_
          rw [← hstrip]
          exact h.noted _ hmem
        · rw [List.map_append, List.map_singleton, hstrip] at hother
          rcases List.mem_append.1 hother with hother | hother
          · exact List.mem_cons_of_mem _ (h.noted other hother)
          · rw [List.mem_singleton.1 hother]
            exact List.mem_cons_self
    · exact h
  · exact h

/-- **The rows of a product** whose URLs have no space around them. -/
theorem collected_imageManifestRows (product : Record) {candidates : List Json}
    (h : ∀ image ∈ candidates, Stripped py image) :
    ∃ urls, Collected ((product.get "product_id").toStr py.repr)
      (imageManifestRows py product candidates, urls) := by
  have hloop : ∀ (candidates : List Json) (seen : List ManifestRow × List String),
      (∀ image ∈ candidates, Stripped py image) →
      Collected ((product.get "product_id").toStr py.repr) seen →
        Collected ((product.get "product_id").toStr py.repr)
          (candidates.foldl (Pipeline.manifestRow py ((product.get "product_id").toStr py.repr)
            (product.get "external_product_id")) seen) := by
    intro candidates
    induction candidates with
    | nil => exact fun _ _ h => h
    | cons image candidates ih =>
        intro seen hstripped hseen
        obtain ⟨himage, hrest⟩ := List.forall_mem_cons.1 hstripped
        exact ih _ hrest (hseen.manifestRow himage)
  exact ⟨_, hloop candidates ([], []) h
    ⟨nofun, List.nodup_nil, rfl, List.nodup_nil, nofun⟩⟩

/-! ### Selected products -/

/-- The URLs of a resolved product have no space around them. -/
theorem stripped_resolveProductImages (hstrip : ∀ text, py.strip (py.strip text) = py.strip text)
    (images : List NormalizedImage) :
    ∀ image ∈ resolveProductImages py images, Stripped py image := by
  have hloop : ∀ (images : List NormalizedImage) (resolved : List (String × Json)),
      (∀ entry ∈ resolved, Stripped py entry.2) →
        ∀ entry ∈ images.foldl (resolveImage py) resolved, Stripped py entry.2 := by
    intro images
    induction images with
    | nil => exact fun _ h => h
    | cons image images ih =>
        intro resolved hresolved
        refine ih _ ?_
        unfold resolveImage
        split
        · exact hresolved
        · rename_i resolution url hbest
          split_ifs
          · exact hresolved
          · intro entry hentry
            rcases List.mem_append.1 hentry with hentry | hentry
            · exact hresolved entry hentry
            · obtain rfl := List.mem_singleton.1 hentry
              intro object other hobject hother
              obtain ⟨r, -, hr⟩ := List.exists_of_findSome?_eq_some hbest
              obtain ⟨text, -, htext⟩ := Option.map_eq_some_iff.1 hr
              obtain rfl := Json.obj.inj hobject
              have hurl : url = other := Json.str.inj hother
              rw [← hurl, ← (Prod.mk.inj htext).2, hstrip]
  intro image himage
  obtain ⟨entry, hentry, rfl⟩ := List.mem_map.1 himage
  exact hloop images [] nofun entry hentry

/-- The rows of a product that was read. -/
def productRows (py : Python) : Json → List ManifestRow
  | .obj product => imageManifestRows py product ((imageCandidates product).toOption.getD [])
  | _ => []

/-- What `stage_images` finds in the object of a selected product. -/
theorem buildProduct_images {tools : Toolbox} {row : Candidate} {product : String × Json}
    (h : buildProduct py tools row = .ok product) : ∃ object, product.2 = .obj object ∧
      Json.lookup object "product_id" = some (.str product.1) ∧
      imageCandidates object = .ok (resolveProductImages py row.images) := by
  unfold buildProduct at h
  cases hid : deriveProductId py tools row.parentAsin with
  | error e =>
      rw [hid] at h
      exact nomatch h
  | ok productId =>
      cases hprice : sourcePriceReference tools row.priceUsd with
      | error e =>
          rw [hid, hprice] at h
          exact nomatch h
      | ok sourcePrice =>
          rw [hid, hprice] at h
          obtain rfl := Except.ok.inj h
          exact ⟨_, rfl, rfl, rfl⟩

end

section

variable {config : Config}

/-- The rows of a product are written when none of their keys was seen. -/
theorem writeManifestRows {rows : List ManifestRow} {scan : ManifestScan} {written : List String}
    (hdistinct : (rows.map ManifestRow.storageKey).Nodup)
    (hnew : ∀ row ∈ rows, row.storageKey ∉ scan.seenKeys) :
    ∃ scan', rows.foldlM (writeManifestRow config Handle.buffer) scan written =
        .ok (scan', written ++ rows.map fun row => config.py.dump row.json) ∧
      ∀ key, key ∈ scan'.seenKeys ↔
        key ∈ scan.seenKeys ∨ key ∈ rows.map ManifestRow.storageKey := by
  induction rows generalizing scan written with
  | nil => exact ⟨scan, by rw [List.map_nil, List.append_nil]; rfl, by simp⟩
  | cons row rows ih =>
      obtain ⟨hfirst, hrest⟩ := List.nodup_cons.1 hdistinct
      obtain ⟨hrow, hnew⟩ := List.forall_mem_cons.1 hnew
      let next : ManifestScan :=
        { seenKeys := row.storageKey :: scan.seenKeys
          result := { scan.result with imagesWritten := scan.result.imagesWritten + 1 } }
      have hstep : writeManifestRow config Handle.buffer scan row written =
          .ok (next, written ++ [config.py.dump row.json]) := by
        unfold writeManifestRow
        rw [if_neg (mt List.contains_iff_mem.1 hrow)]
        rfl
      obtain ⟨scan', hloop, hkeys⟩ := @ih next (written ++ [config.py.dump row.json]) hrest
        fun other hother hmem => by
          rcases List.mem_cons.1 hmem with heq | hmem
          · exact hfirst (heq ▸ List.mem_map_of_mem hother)
          · exact hnew other hother hmem
      refine ⟨scan', ?_, fun key => ?_⟩
      · rw [List.foldlM_cons, List.map_cons, List.append_cons]
        show (writeManifestRow config Handle.buffer scan row written).bind _ = _
        rw [hstep]
        exact hloop
      · rw [hkeys, List.map_cons, List.mem_cons, List.mem_cons]
        exact ⟨fun h => by tauto, fun h => by tauto⟩

/-- What the line of a selected product is. -/
structure ProductLine (config : Config) (line : String) (product : Json) : Prop where
  nonblank : config.py.strip line ≠ ""
  read : config.py.loads (config.py.strip line) = some product
  shape : ∃ object images, product = .obj object ∧ (Json.lookup object "product_id").isSome ∧
    imageCandidates object = .ok images

/-- A line of a product writes its rows. -/
theorem manifestLine_product {line : String} {product : Json} {scan : ManifestScan}
    (written : List String) (h : ProductLine config line product)
    (hdistinct : ((productRows config.py product).map ManifestRow.storageKey).Nodup)
    (hnew : ∀ row ∈ productRows config.py product, row.storageKey ∉ scan.seenKeys) :
    ∃ scan', manifestLine config Handle.buffer scan line written = .ok (scan',
        written ++ (productRows config.py product).map fun row => config.py.dump row.json) ∧
      ∀ key, key ∈ scan'.seenKeys ↔ key ∈ scan.seenKeys ∨
        key ∈ (productRows config.py product).map ManifestRow.storageKey := by
  obtain ⟨hnonblank, hread, object, images, rfl, hid, himages⟩ := h
  have hrows : productRows config.py (.obj object) = imageManifestRows config.py object images := by
    rw [productRows, himages]
    rfl
  rw [hrows] at hdistinct hnew ⊢
  unfold manifestLine
  dsimp only
  have hid : ¬(Json.lookup object "product_id").isNone = true := by
    rw [Option.isNone_iff_eq_none]
    exact Option.ne_none_iff_isSome.2 hid
  rw [if_neg hnonblank, hread]
  dsimp only
  rw [if_neg hid, himages]
  show ∃ scan', (if imageManifestRows config.py object images = [] then _ else _ :
    Buffer Failure String ManifestScan) written = _ ∧ _
  by_cases hempty : imageManifestRows config.py object images = []
  · rw [if_pos hempty, hempty, List.map_nil, List.append_nil]
    exact ⟨_, rfl, by simp⟩
  · rw [if_neg hempty]
    exact writeManifestRows hdistinct hnew

/-- **The stage writes the rows of all products** when their keys are different. -/
theorem manifestLoop_products {products : List Json} {line : Json → String}
    (scan : ManifestScan) (written : List String)
    (h : ∀ product ∈ products, ProductLine config (line product) product)
    (hdistinct : ((products.map (productRows config.py)).flatten.map
      ManifestRow.storageKey).Nodup)
    (hnew : ∀ row ∈ (products.map (productRows config.py)).flatten,
      row.storageKey ∉ scan.seenKeys) :
    ∃ scan', (products.map line).foldlM (manifestLine config Handle.buffer) scan written =
      .ok (scan', written ++ (products.map (productRows config.py)).flatten.map
        fun row => config.py.dump row.json) := by
  induction products generalizing scan written with
  | nil =>
      refine ⟨scan, ?_⟩
      rw [List.map_nil, List.map_nil, List.flatten_nil, List.map_nil, List.append_nil]
      rfl
  | cons product products ih =>
      obtain ⟨hproduct, hproducts⟩ := List.forall_mem_cons.1 h
      rw [List.map_cons, List.flatten_cons] at hdistinct hnew
      rw [List.map_append, List.nodup_append] at hdistinct
      obtain ⟨hfirst, hrest, happart⟩ := hdistinct
      obtain ⟨next, hstep, hkeys⟩ := manifestLine_product written hproduct hfirst
        fun row hrow => hnew row (List.mem_append_left _ hrow)
      obtain ⟨scan', hloop⟩ := ih next (written ++ (productRows config.py product).map
        fun row => config.py.dump row.json) hproducts hrest fun row hrow hseen => by
          rcases (hkeys _).1 hseen with hseen | hseen
          · exact hnew row (List.mem_append_right _ hrow) hseen
          · exact happart _ hseen _ (List.mem_map_of_mem hrow) rfl
      refine ⟨scan', ?_⟩
      rw [List.map_cons, List.map_cons, List.flatten_cons, List.foldlM_cons, List.map_append,
        ← List.append_assoc]
      show (manifestLine config Handle.buffer scan (line product) written).bind _ = _
      rw [hstep]
      exact hloop

/-- The rows of a selected product. -/
theorem collected_productRows (hstrip : ∀ text, config.py.strip (config.py.strip text) =
    config.py.strip text) {row : Candidate} {product : String × Json}
    (h : buildProduct config.py config.tools row = .ok product) :
    ∃ urls, Collected product.1 (productRows config.py product.2, urls) := by
  obtain ⟨object, hobject, hid, himages⟩ := buildProduct_images h
  have hrows : productRows config.py product.2 =
      imageManifestRows config.py object (resolveProductImages config.py row.images) := by
    rw [hobject, productRows, himages]
    rfl
  have hid : (Record.get object "product_id").toStr config.py.repr = product.1 := by
    rw [Record.get, hid]
    rfl
  have hcollected := collected_imageManifestRows object
    (stripped_resolveProductImages hstrip row.images)
  rwa [hid, ← hrows] at hcollected

/-- Keys of products with different identifiers are different. -/
theorem nodup_keys {products : List (String × Json)} (hids : (products.map Prod.fst).Nodup)
    (h : ∀ product ∈ products, ∃ urls,
      Collected product.1 (productRows config.py product.2, urls)) :
    ((products.map fun product => productRows config.py product.2).flatten.map
      ManifestRow.storageKey).Nodup := by
  induction products with
  | nil => exact List.nodup_nil
  | cons product products ih =>
      obtain ⟨hfirst, hrest⟩ := List.nodup_cons.1 hids
      obtain ⟨⟨urls, hproduct⟩, hproducts⟩ := List.forall_mem_cons.1 h
      rw [List.map_cons, List.flatten_cons, List.map_append, List.nodup_append]
      refine ⟨hproduct.distinct, ih hrest hproducts, fun key hkey other hother heq => ?_⟩
      obtain ⟨row, hrow, rfl⟩ := List.mem_map.1 hkey
      obtain ⟨row', hrow', rfl⟩ := List.mem_map.1 hother
      obtain ⟨_, hlist, hrow'⟩ := List.mem_flatten.1 hrow'
      obtain ⟨product', hproduct', rfl⟩ := List.mem_map.1 hlist
      obtain ⟨urls', hcollected'⟩ := hproducts product' hproduct'
      obtain ⟨tail, htail, hkey⟩ := hproduct.keys row hrow
      obtain ⟨tail', htail', hkey'⟩ := hcollected'.keys row' hrow'
      have hid : product.1 = product'.1 := by
        refine String.toList_injective (productId_eq_of_key htail htail' ?_)
        rw [← hkey, ← hkey', heq]
      exact hfirst (List.mem_map.2 ⟨product', hproduct', hid.symm⟩)

/-- **The manifest of selected products**: the collision loop ends at the first key that is free,
no two rows of the manifest have one key, and the rows of a product are at the positions from zero
on, with different URLs. -/
theorem manifest_unique (hstrip : ∀ text, config.py.strip (config.py.strip text) =
      config.py.strip text)
    {candidates : List Candidate} {products : List (String × Json)}
    (hproducts : List.Forall₂ (fun row product =>
      buildProduct config.py config.tools row = .ok product) candidates products)
    (hids : (products.map Prod.fst).Nodup)
    (hlines : ∀ product ∈ products, config.py.strip (config.py.dump product.2) ≠ "" ∧
      config.py.loads (config.py.strip (config.py.dump product.2)) = some product.2) :
    (∀ productId variant position used, ∃ tries,
      imageStorageKey config.py productId variant position used =
        storageKey productId (keyName config.py variant position) position tries ∧
      storageKey productId (keyName config.py variant position) position tries ∉ used ∧
      ∀ i < tries, storageKey productId (keyName config.py variant position) position i ∈ used) ∧
    ∃ manifest : List (List ManifestRow),
      manifest = products.map (fun product => productRows config.py product.2) ∧
      manifestLines config (products.map fun product => config.py.dump product.2) =
        .ok (manifest.flatten.map fun row => config.py.dump row.json) ∧
      (manifest.flatten.map ManifestRow.storageKey).Nodup ∧
      ∀ rows ∈ manifest, rows.map ManifestRow.position = List.range rows.length ∧
        (rows.map ManifestRow.sourceUrl).Nodup := by
  have hbuilt : ∀ product ∈ products, ∃ row,
      buildProduct config.py config.tools row = .ok product := by
    intro product hproduct
    obtain ⟨i, hi, rfl⟩ := List.getElem_of_mem hproduct
    exact ⟨_, hproducts.get (by rw [hproducts.length_eq]; exact hi) hi⟩
  have hcollected : ∀ product ∈ products, ∃ urls,
      Collected product.1 (productRows config.py product.2, urls) := by
    intro product hproduct
    obtain ⟨row, hrow⟩ := hbuilt product hproduct
    exact collected_productRows hstrip hrow
  have hkeys := nodup_keys hids hcollected
  refine ⟨imageStorageKey_first config.py, _, rfl, ?_, hkeys, fun rows hrows => ?_⟩
  · have hshape : ∀ product ∈ products.map Prod.snd,
        ProductLine config (config.py.dump product) product := by
      intro json hjson
      obtain ⟨product, hproduct, rfl⟩ := List.mem_map.1 hjson
      obtain ⟨row, hrow⟩ := hbuilt product hproduct
      obtain ⟨object, hobject, hid, himages⟩ := buildProduct_images hrow
      exact ⟨(hlines product hproduct).1, (hlines product hproduct).2, object, _, hobject,
        by rw [hid]; rfl, himages⟩
    have hmap : products.map (fun product => productRows config.py product.2) =
        (products.map Prod.snd).map (productRows config.py) := by rw [List.map_map]; rfl
    rw [hmap] at hkeys ⊢
    obtain ⟨scan, hloop⟩ := manifestLoop_products {} [] hshape hkeys
      fun _ _ => List.not_mem_nil
    have hline : products.map (fun product => config.py.dump product.2) =
        (products.map Prod.snd).map config.py.dump := by rw [List.map_map]; rfl
    rw [manifestLines, manifestLoop, hline]
    exact congrArg (Except.map Prod.snd) hloop
  · obtain ⟨product, hproduct, rfl⟩ := List.mem_map.1 hrows
    obtain ⟨urls, h⟩ := hcollected product hproduct
    exact ⟨h.positions, h.urls⟩

end

/-- A lens with two images, both of which are said to be the main one. -/
private def lens : Candidate where
  parentAsin := "B1"
  sourceFile := "meta_Electronics.jsonl.gz"
  mainCategory := none
  subcategory := "camera"
  score := 40
  title := "A small lens"
  store := none
  averageRating := .finite 4
  ratingNumber := 12
  priceUsd := none
  features := []
  description := []
  images :=
    [⟨some "https://images.example/a.jpg", none, none, some "MAIN"⟩,
      ⟨some "https://images.example/b.jpg", none, none, some "MAIN"⟩]
  details := []
  categories := []
  raw := []

private def lensTools : Toolbox where
  sha1 text := text
  sha256 _ := []
  dumpSorted _ := ""
  round3 _ := "4.0"
  buildSpecifications _ _ := []
  parseCurrencyMinor _ := .ok none

/-- Texts are taken as they are, and the product of the lens is all that is read. -/
private def lensPython : Python where
  strip text := text
  lower text := text
  loads text := if text = "lens" then ((buildProduct plainPython lensTools lens).toOption.map
    Prod.snd) else none
  dump _ := "lens"
  float _ := none
  literal _ := .nan
  ofInt n := some (.finite n)
  repr _ := ""
  classify _ _ := "camera"

private def lensConfig : Config where
  py := lensPython
  tools := lensTools
  raw _ := none

/-- The two images of the lens have two keys, by `manifest_unique`. -/
theorem manifest_lens : ∃ product, buildProduct lensPython lensTools lens = .ok product ∧
    ((productRows lensPython product.2).map ManifestRow.storageKey).Nodup := by
  obtain ⟨product, hproduct⟩ : ∃ product, buildProduct lensPython lensTools lens = .ok product :=
    ⟨_, rfl⟩
  refine ⟨product, hproduct, ?_⟩
  have hlines : ∀ p ∈ [product], lensPython.strip (lensPython.dump p.2) ≠ "" ∧
      lensPython.loads (lensPython.strip (lensPython.dump p.2)) = some p.2 := by
    intro p hp
    obtain rfl := List.mem_singleton.1 hp
    obtain rfl := Except.ok.inj hproduct
    exact ⟨by decide, rfl⟩
  obtain ⟨-, manifest, rfl, -, hkeys, -⟩ := @manifest_unique lensConfig (fun _ => rfl) [lens] _
    (List.forall₂_cons.2 ⟨hproduct, .nil⟩) (List.nodup_singleton _) hlines
  rwa [List.map_singleton, List.flatten_singleton] at hkeys

end Pipeline
end AgenticCommerce
