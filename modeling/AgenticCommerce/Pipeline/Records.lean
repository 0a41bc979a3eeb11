/-
# Records of the raw dataset

The normalizers of `pipeline/build_catalog.py` and `evaluate_record`, which turns a record of a
source file into a candidate or says why it is rejected.  The shapes of the dataset are loose,
so each field is read through a normalizer that takes whatever JSON it finds; a few of them can
still raise, on a number that Python cannot convert.

What Python makes of texts is a parameter (`Python`), and so is the classifier, a table of
regular expressions.
-/

import AgenticCommerce.Errors
import AgenticCommerce.Json
import AgenticCommerce.Text.Floats

namespace AgenticCommerce
namespace Pipeline

/-- A Python float. -/
inductive PyFloat where
  | finite (q : ℚ)
  | infinite (negative : Bool)
  | nan
  deriving DecidableEq, Inhabited

namespace PyFloat

/-- `value >= threshold`; NaN compares to nothing. -/
def reaches (value : PyFloat) (threshold : ℚ) : Bool :=
  match value with
  | finite q => decide (threshold ≤ q)
  | infinite negative => !negative
  | nan => false

/-- `value > 0`. -/
def positive : PyFloat → Bool
  | finite q => decide (0 < q)
  | infinite negative => !negative
  | nan => false

end PyFloat

/-- What Python makes of texts and numbers. -/
structure Python where
  /-- `text.strip()`. -/
  strip : String → String
  /-- `text.lower()`. -/
  lower : String → String
  /-- `json.loads(text)`, `none` where it raises. -/
  loads : String → Option Json
  /-- `json.dumps(value, separators=(",", ":"), ensure_ascii=False)`. -/
  dump : Json → String
  /-- `float(text)`, `none` where it raises. -/
  float : String → Option PyFloat
  /-- The float that a literal of JSON stands for. -/
  literal : String → PyFloat
  /-- `float(n)`, `none` where the number is too large. -/
  ofInt : ℤ → Option PyFloat
  /-- `repr` of a list or a dict. -/
  repr : Json → String
  /-- `classify_subcategory`. -/
  classify : String → List String → String

/-- A decoded object. -/
abbrev Record := List (String × Json)

/-- `record.get(key)`. -/
def Record.get (record : Record) (key : String) : Json := (Json.lookup record key).getD .null

/-- `text or None`. -/
def orNone (text : String) : Option String := if text = "" then none else some text

/-- `text.startswith(start)`. -/
def startsWith (start text : String) : Bool := start.toList.isPrefixOf text.toList

/-- `text.replace(",", "")`. -/
def withoutCommas (text : String) : String := String.ofList (text.toList.filter fun c => c ≠ ',')

section

variable (py : Python)

/-! ### Scalars -/

/-- `_as_optional_str`. -/
def asOptionalStr : Json → Option String
  | .null => none
  | value => orNone (py.strip (value.toStr py.repr))

/-- `_as_float`, of a value with the default zero. -/
def asFloat : Json → Except Failure PyFloat
  | .int n => (py.ofInt n).elim (.error (.exception "int too large to convert to float")) .ok
  | .float r => .ok (py.literal r)
  | .str s => .ok ((py.float (py.strip s)).getD (.finite 0))
  | .null | .bool _ | .arr _ | .obj _ => .ok (.finite 0)

/-- `int(value)` of a float. -/
def intOfFloat : PyFloat → Except Failure ℤ
  | .finite q => .ok (truncate q)
  | .infinite _ => .error (.exception "cannot convert float infinity to integer")
  | .nan => .error (.exception "cannot convert float NaN to integer")

/-- `_as_int`, with the default zero. -/
def asInt : Json → Except Failure ℤ
  | .int n => .ok n
  | .float r => intOfFloat (py.literal r)
  | .str s =>
      match py.float (withoutCommas (py.strip s)) with
      -- the conversion of a NaN raises what is caught here, that of an infinity does not
      | none | some .nan => .ok 0
      | some x => intOfFloat x
  | .null | .bool _ | .arr _ | .obj _ => .ok 0

/-- `parse_price_usd`. -/
def parsePriceUsd : Json → Except Failure (Option PyFloat)
  | .int n =>
      if 0 < n then
        (py.ofInt n).elim (.error (.exception "int too large to convert to float"))
          fun x => .ok (some x)
      else .ok none
  | .float r => .ok (some (py.literal r) |>.filter PyFloat.positive)
  | .str s =>
      let text := withoutCommas (String.ofList ((py.strip s).toList.dropWhile fun c => c = '$'))
      .ok (if text = "" then none else (py.float text).filter PyFloat.positive)
  | .null | .bool _ | .arr _ | .obj _ => .ok none

/-! ### Images -/

/-- A normalized image. -/
structure NormalizedImage where
  hiRes : Option String
  large : Option String
  thumb : Option String
  variant : Option String
  deriving DecidableEq, Inhabited

/-- `is_usable_url`, of a text. -/
def isUsableUrl (url : String) : Bool :=
  startsWith "http://" (py.lower (py.strip url)) || startsWith "https://" (py.lower (py.strip url))

/-- `IMAGE_RESOLUTION_ORDER`, with what an image has in each resolution. -/
def NormalizedImage.resolutions (image : NormalizedImage) : List (String × Option String) :=
  [("hi_res", image.hiRes), ("large", image.large), ("thumb", image.thumb)]

/-- `best_image_url`, with its resolution. -/
def bestImage (image : NormalizedImage) : Option (String × String) :=
  image.resolutions.findSome? fun r =>
    (r.2.filter (isUsableUrl py)).map fun url => (r.1, py.strip url)

/-- The entry of an image whose values are these. -/
def entryOf (value : String → Json) : NormalizedImage :=
  { hiRes := asOptionalStr py (value "hi_res"), large := asOptionalStr py (value "large"),
    thumb := asOptionalStr py (value "thumb"), variant := asOptionalStr py (value "variant") }

/-- `_image_entry`. -/
def imageEntry : Json → NormalizedImage
  | .obj items => entryOf py (Record.get items)
  | .str s => { hiRes := none, large := asOptionalStr py (.str s), thumb := none, variant := none }
  | _ => ⟨none, none, none, none⟩

/-- The column of a columnar object under a key. -/
def column (raw : Record) (key : String) : List Json :=
  match raw.get key with
  | .arr items => items
  | .null => []
  | value => [value]

/-- `_columnar_images`. -/
def columnarImages (raw : Record) : List NormalizedImage :=
  let height := ["hi_res", "large", "thumb", "variant"].foldl
    (fun height key => max height (column raw key).length) 0
  (List.range height).map fun index => entryOf py fun key => (column raw key).getD index .null

/-- `normalize_images`. -/
def normalizeImages (raw : Json) : List NormalizedImage :=
  let entries := match raw with
    | .obj items => columnarImages py items
    | .arr items => items.map (imageEntry py)
    | _ => []
  entries.filter fun entry => entry.resolutions.any fun r => r.2.any (isUsableUrl py)

/-! ### Texts and details -/

/-- `normalize_text_list`. -/
def normalizeTextList : Json → List String
  | .str s => (orNone (py.strip s)).toList
  | .arr items => items.filterMap (asOptionalStr py)
  | _ => []

/-- `normalize_details`. -/
def normalizeDetails : Json → Record
  | .obj items => items
  | .str s =>
      if py.strip s = "" then []
      else match py.loads (py.strip s) with
        | some (.obj items) => items
        | _ => []
  | _ => []

/-! ### The score -/

/-- `_tiered`: the points of every threshold that is reached. -/
def tiered (reaches : ℚ → Bool) (tiers : List (ℚ × ℤ)) : ℤ :=
  ((tiers.filter fun tier => reaches tier.1).map Prod.snd).sum

/-- A count reaches a threshold. -/
def counts (n : ℕ) (threshold : ℚ) : Bool := decide (threshold ≤ n)

/-- `completeness_score`. -/
def completenessScore (title : String) (features description : List String)
    (images : List NormalizedImage) (details : Record) (ratingNumber : ℤ)
    (averageRating : PyFloat) : ℤ :=
  let descriptionChars := (description.map String.length).sum
  let usableImages := (images.filter fun image => (bestImage py image).isSome).length
  let score :=
    tiered (counts (py.strip title).length) [(8, 6), (25, 7), (60, 7)] +
    tiered (counts features.length) [(1, 7), (3, 4), (5, 4)] +
    tiered (counts descriptionChars) [(1, 8), (200, 7)] +
    tiered (counts usableImages) [(1, 5), (3, 5), (5, 5)] +
    tiered (counts (details.map Prod.fst).eraseDups.length) [(1, 4), (5, 3), (10, 3)] +
    tiered (fun threshold => decide (threshold ≤ ratingNumber)) [(1, 5), (10, 4), (50, 3), (200, 3)] +
    tiered averageRating.reaches [(3, 4), (4, 3), (9 / 2, 3)]
  max 0 (min 100 score)

/-! ### Candidates -/

/-- `Candidate`, in the fields of its row. -/
structure Candidate where
  parentAsin : String
  sourceFile : String
  mainCategory : Option String
  subcategory : String
  score : ℤ
  status : String := "valid"
  title : String
  store : Option String
  averageRating : PyFloat
  ratingNumber : ℤ
  priceUsd : Option PyFloat
  features : List String
  description : List String
  images : List NormalizedImage
  details : Record
  categories : List String
  raw : Record
  deriving DecidableEq

/-- The hard rejects. -/
inductive Reject where
  | missingParentAsin | titleLength | noUsableImage | duplicateParentAsin
  deriving DecidableEq, Repr

/-- What becomes of a record. -/
inductive Evaluation where
  | rejected (reason : Reject)
  | accepted (candidate : Candidate)

/-- `TITLE_MIN_LENGTH`. -/
def titleMinLength : ℕ := 8

/-- `TITLE_MAX_LENGTH`. -/
def titleMaxLength : ℕ := 300

/-- The title of a record, or the empty text. -/
def titleOf (record : Record) : String := (asOptionalStr py (record.get "title")).getD ""

/-- The candidate that is made of a record once it is past the rejects. -/
def describe (record : Record) (sourceFile parentAsin : String) : Except Failure Candidate := do
  let title := titleOf py record
  let images := normalizeImages py (record.get "images")
  let features := normalizeTextList py (record.get "features")
  let description := normalizeTextList py (record.get "description")
  let details := normalizeDetails py (record.get "details")
  let categories := normalizeTextList py (record.get "categories")
  let averageRating ← asFloat py (record.get "average_rating")
  let ratingNumber ← asInt py (record.get "rating_number")
  let priceUsd ← parsePriceUsd py (record.get "price")
  pure
    { parentAsin, sourceFile, mainCategory := asOptionalStr py (record.get "main_category")
      subcategory := py.classify title features
      score := completenessScore py title features description images details ratingNumber
        averageRating
      title, store := asOptionalStr py (record.get "store"), averageRating, ratingNumber, priceUsd
      features, description, images, details, categories, raw := record }

/-- `evaluate_record`. -/
def evaluateRecord (record : Record) (sourceFile : String) (seenParentAsins : List String) :
    Except Failure Evaluation :=
  match asOptionalStr py (record.get "parent_asin") with
  | none => .ok (.rejected .missingParentAsin)
  | some parentAsin =>
      if ¬(titleMinLength ≤ (titleOf py record).length ∧
          (titleOf py record).length ≤ titleMaxLength) then
        .ok (.rejected .titleLength)
      else if (normalizeImages py (record.get "images")).isEmpty then
        .ok (.rejected .noUsableImage)
      else if seenParentAsins.contains parentAsin then .ok (.rejected .duplicateParentAsin)
      else (describe py record sourceFile parentAsin).map .accepted

/-! ### What a record is rejected for -/

/-- The identifier of a record that passes the rejects which look at nothing else. -/
def identified (record : Record) : Option String :=
  if (titleMinLength ≤ (titleOf py record).length ∧
      (titleOf py record).length ≤ titleMaxLength) ∧
      (normalizeImages py (record.get "images")).isEmpty = false then
    asOptionalStr py (record.get "parent_asin")
  else none

variable {py} {record : Record} {sourceFile parentAsin : String} {seen : List String}

/-- A record without an identifier, a title or an image is rejected, whatever was seen. -/
theorem evaluateRecord_of_unidentified (h : identified py record = none) :
    ∃ reason, evaluateRecord py record sourceFile seen = .ok (.rejected reason) := by
  unfold evaluateRecord
  split
  · exact ⟨_, rfl⟩
  · rename_i asin hasin
    by_cases htitle : titleMinLength ≤ (titleOf py record).length ∧
        (titleOf py record).length ≤ titleMaxLength
    · rw [if_neg (not_not.2 htitle)]
      by_cases himages : (normalizeImages py (record.get "images")).isEmpty = true
      · rw [if_pos himages]
        exact ⟨_, rfl⟩
      · rw [identified, if_pos ⟨htitle, Bool.eq_false_of_not_eq_true himages⟩, hasin] at h
        exact nomatch h
    · rw [if_pos htitle]
      exact ⟨_, rfl⟩

/-- **Any other record is judged by what was seen.** -/
theorem evaluateRecord_of_identified (h : identified py record = some parentAsin) :
    evaluateRecord py record sourceFile seen =
      if parentAsin ∈ seen then .ok (.rejected .duplicateParentAsin)
      else (describe py record sourceFile parentAsin).map .accepted := by
  unfold identified at h
  split_ifs at h with hpasses
  unfold evaluateRecord
  rw [h]
  dsimp only
  rw [if_neg (not_not.2 hpasses.1), hpasses.2, if_neg Bool.false_ne_true]
  by_cases hseen : parentAsin ∈ seen
  · rw [if_pos (List.contains_iff_mem.2 hseen), if_pos hseen]
  · rw [if_neg (mt List.contains_iff_mem.1 hseen), if_neg hseen]

theorem describe_parentAsin {candidate : Candidate}
    (h : describe py record sourceFile parentAsin = .ok candidate) :
    candidate.parentAsin = parentAsin := by
  unfold describe at h
  cases hrating : asFloat py (record.get "average_rating") with
  | error e => rw [hrating] at h; exact nomatch h
  | ok rating =>
      cases hnumber : asInt py (record.get "rating_number") with
      | error e => rw [hrating, hnumber] at h; exact nomatch h
      | ok number =>
          cases hprice : parsePriceUsd py (record.get "price") with
          | error e => rw [hrating, hnumber, hprice] at h; exact nomatch h
          | ok price =>
              rw [hrating, hnumber, hprice] at h
              obtain rfl := Except.ok.inj h
              rfl

end

end Pipeline
end AgenticCommerce
