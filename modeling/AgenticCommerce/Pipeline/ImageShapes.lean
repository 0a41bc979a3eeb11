/-
# The two shapes of images

`normalize_images` of `pipeline/build_catalog.py` takes the images of a record as a list of
objects, or as one object of parallel columns.  The columns may be ragged: what is missing at the
end of one is read as a missing value, and an image that has no value at all is dropped in either
shape, so that the two agree (`normalizeImages_shapes`).
-/

import AgenticCommerce.Pipeline.Records

namespace AgenticCommerce
namespace Pipeline

/-- `IMAGE_KEYS`. -/
def imageKeys : List String := ["hi_res", "large", "thumb", "variant"]

/-- An object holds the values of images in columns, each as long as it likes: a place that a column
does not reach is a missing value. -/
def Columnar (raw : Record) (images : List Record) : Prop :=
  ∀ key ∈ imageKeys, ∀ index : ℕ, (column raw key).getD index .null =
    (images[index]?.map fun image => image.get key).getD .null

/-- The columns of images, none of them ragged. -/
def columnsOf (images : List Record) : Record :=
  imageKeys.map fun key => (key, .arr (images.map fun image => image.get key))

/-- Every list of images has a columnar form. -/
theorem columnar_columnsOf (images : List Record) : Columnar (columnsOf images) images := by
  intro key hkey index
  have hcolumn : column (columnsOf images) key = images.map fun image => image.get key := by
    simp only [imageKeys, List.mem_cons, List.not_mem_nil, or_false] at hkey
    rcases hkey with rfl | rfl | rfl | rfl
    · rfl
    · rfl
    · rfl
    · rfl
  rw [hcolumn, List.getD_eq_getElem?_getD, List.getElem?_map]

variable {py : Python} {raw : Record} {images : List Record}

/-- An entry is read off the four values. -/
theorem entryOf_congr {value value' : String → Json}
    (h : ∀ key ∈ imageKeys, value key = value' key) :
    entryOf py value = entryOf py value' := by
  rw [entryOf, entryOf, h "hi_res" (by decide), h "large" (by decide), h "thumb" (by decide),
    h "variant" (by decide)]

/-- The entry has a URL that can be used. -/
def NormalizedImage.usable (py : Python) (image : NormalizedImage) : Bool :=
  image.resolutions.any fun r => r.2.any (isUsableUrl py)

/-- Without values there is no URL. -/
theorem usable_entryOf_null {value : String → Json} (h : ∀ key ∈ imageKeys, value key = .null) :
    (entryOf py value).usable py = false := by
  have hblank : entryOf py value = entryOf py fun _ => .null := entryOf_congr h
  rw [hblank]
  rfl

/-- The height of the columns: none is longer. -/
theorem length_column_le {key : String} (hkey : key ∈ imageKeys) :
    (column raw key).length ≤ imageKeys.foldl
      (fun height key => max height (column raw key).length) 0 := by
  have hfold : ∀ (keys : List String) (height : ℕ),
      height ≤ keys.foldl (fun height key => max height (column raw key).length) height ∧
        ∀ key ∈ keys, (column raw key).length ≤
          keys.foldl (fun height key => max height (column raw key).length) height := by
    intro keys
    induction keys with
    | nil => exact fun height => ⟨le_refl _, nofun⟩
    | cons first keys ih =>
        intro height
        obtain ⟨hstart, hrest⟩ := ih (max height (column raw first).length)
        refine ⟨le_trans (le_max_left _ _) hstart, fun key hkey => ?_⟩
        rcases List.mem_cons.1 hkey with rfl | hkey
        · exact le_trans (le_max_right _ _) hstart
        · exact hrest key hkey
  exact (hfold imageKeys 0).2 key hkey

/-- Entries without a URL at the end do not matter. -/
theorem filter_range_map {α : Type} {p : α → Bool} {entry : ℕ → α} {m n : ℕ}
    (hm : ∀ index, m ≤ index → p (entry index) = false)
    (hn : ∀ index, n ≤ index → p (entry index) = false) :
    ((List.range m).map entry).filter p = ((List.range n).map entry).filter p := by
  have hextend {k : ℕ} (hk : ∀ index, k ≤ index → p (entry index) = false) (more : ℕ) :
      ((List.range (k + more)).map entry).filter p = ((List.range k).map entry).filter p := by
    induction more with
    | zero => rfl
    | succ more ih =>
        rw [← Nat.add_assoc, List.range_succ, List.map_append, List.filter_append, ih,
          List.map_singleton, List.filter_cons_of_neg (by
            rw [hk (k + more) (by omega)]
            exact Bool.false_ne_true), List.filter_nil, List.append_nil]
  have hsame := hextend hm n
  rw [Nat.add_comm, hextend hn m] at hsame
  exact hsame.symm

/-- **Both shapes of images** are normalized to the same entries. -/
theorem normalizeImages_shapes (py : Python) (h : Columnar raw images) :
    normalizeImages py (.obj raw) = normalizeImages py (.arr (images.map .obj)) := by
  let entry (index : ℕ) : NormalizedImage :=
    entryOf py fun key => (column raw key).getD index .null
  have hheight (index : ℕ) (hindex : imageKeys.foldl
      (fun height key => max height (column raw key).length) 0 ≤ index) :
      (entry index).usable py = false := by
    refine usable_entryOf_null fun key hkey => ?_
    have hlength : (column raw key).length ≤ _ := length_column_le hkey
    rw [List.getD_eq_getElem?_getD, List.getElem?_eq_none (by omega), Option.getD_none]
  have hpast (index : ℕ) (hindex : images.length ≤ index) : (entry index).usable py = false := by
    refine usable_entryOf_null fun key hkey => ?_
    rw [h key hkey, List.getElem?_eq_none hindex]
    rfl
  have hlist : (images.map Json.obj).map (imageEntry py) =
      (List.range images.length).map entry := by
    refine List.ext_getElem (by simp) fun index hindex hindex' => ?_
    have hbound : index < images.length := by simpa using hindex
    rw [List.getElem_map, List.getElem_map, List.getElem_map, List.getElem_range, imageEntry]
    refine entryOf_congr fun key hkey => ?_
    rw [h key hkey, List.getElem?_eq_getElem hbound]
    rfl
  have hcolumns : normalizeImages py (.obj raw) =
      ((List.range (imageKeys.foldl (fun height key => max height (column raw key).length) 0)).map
        entry).filter (NormalizedImage.usable py) := rfl
  have hobjects : normalizeImages py (.arr (images.map .obj)) =
      ((images.map Json.obj).map (imageEntry py)).filter (NormalizedImage.usable py) := rfl
  rw [hcolumns, hobjects, hlist]
  exact filter_range_map hheight hpast

/-- Two images in columns that are not equally long. -/
def raggedColumns : Record :=
  [("hi_res", .arr [.null, .str "https://img/2.jpg"]), ("large", .arr [.str "https://img/1.jpg"])]

/-- The two images. -/
def raggedImages : List Record :=
  [[("large", .str "https://img/1.jpg")], [("hi_res", .str "https://img/2.jpg")]]

theorem columnar_ragged : Columnar raggedColumns raggedImages := by
  intro key hkey index
  simp only [imageKeys, List.mem_cons, List.not_mem_nil, or_false] at hkey
  match index with
  | 0 => rcases hkey with rfl | rfl | rfl | rfl <;> rfl
  | 1 => rcases hkey with rfl | rfl | rfl | rfl <;> rfl
  | _ + 2 => rcases hkey with rfl | rfl | rfl | rfl <;> rfl

/-- A Python that takes texts as they are. -/
def plainPython : Python where
  strip text := text
  lower text := text
  loads _ := none
  dump _ := ""
  float _ := none
  literal _ := .nan
  ofInt n := some (.finite n)
  repr _ := ""
  classify _ _ := ""

/-- The ragged columns, by `normalizeImages_shapes`. -/
theorem normalizeImages_ragged : normalizeImages plainPython (.obj raggedColumns) =
    normalizeImages plainPython (.arr (raggedImages.map .obj)) :=
  normalizeImages_shapes plainPython columnar_ragged

end Pipeline
end AgenticCommerce
