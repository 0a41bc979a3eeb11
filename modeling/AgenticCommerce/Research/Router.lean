/-
# Where a question is answered from

`ResearchRouter.classify` of `services/research/router.py`: a question goes to the catalog, to the
offer, to the reviews or to the web, by the keywords that its text contains, anywhere in it.  What
is found in the catalog is kept apart here into its name and its value, for the text of both.
-/

import AgenticCommerce.Json
import AgenticCommerce.Relational.Maps
import AgenticCommerce.Text.Strings

namespace AgenticCommerce
namespace Research

open Strings

/-- A dictionary from outside. -/
abbrev Dict : Type := Map String Json

/-- The texts of values: `str.lower`, `str`, and a number of minor units as a price in rupees. -/
structure Texts where
  lower : List Char → List Char
  str : Json → List Char
  price : Json → List Char

/-- `QuestionTarget`. -/
inductive QuestionTarget where
  | catalogMetadata
  | offerPrice
  | reviews
  | webResearch
  deriving DecidableEq

/-- What comes with a target: a specification, or a reason. -/
inductive Detail where
  | spec (name : List Char) (value : Json)
  | reason (text : String)

/-- The text of it. -/
def Detail.text (texts : Texts) : Detail → List Char
  | .spec name value => name ++ ": ".toList ++ texts.str value
  | .reason text => text.toList

/-- `_OFFER_PRICE_KEYWORDS`. -/
def offerPriceKeywords : List String :=
  ["price", "cost", "discount", "stock", "available", "buy", "checkout", "shipping",
    "delivery time", "delivery days", "when will it deliver", "estimated delivery",
    "return policy", "warranty"]

/-- `_REVIEW_KEYWORDS`. -/
def reviewKeywords : List String :=
  ["review", "reviews", "rating", "ratings", "customer", "customers", "complaint", "complaints",
    "experience", "opinion", "comfortable", "feel", "heating", "overheat", "fan noise", "worth it"]

/-- `_DIRECT_METADATA_KEYS`. -/
def directMetadataKeys : List (String × List String) :=
  [("ram", ["ram", "memory", "ram_gb", "memory_gb"]),
    ("storage", ["storage", "ssd", "hdd", "storage_gb", "drive"]),
    ("processor", ["processor", "cpu", "chipset", "soc"]),
    ("display", ["display", "screen", "screen_size", "resolution"]),
    ("os", ["os", "operating_system", "windows", "macos"]),
    ("weight", ["weight", "dimensions", "thickness"]),
    ("color", ["color", "colour", "finish"])]

/-- `_DEEP_SPEC_KEYWORDS`. -/
def deepSpecKeywords : List String :=
  ["usb 3", "usb3", "usb-a 3", "thunderbolt", "hdmi 2", "displayport", "expandable", "upgradable",
    "power delivery", "nit", "nits", "srgb", "dci-p3", "color gamut", "refresh rate",
    "external display", "dual monitor", "bios", "firmware", "driver", "compatibility", "linux",
    "ubuntu", "battery wh", "watt hour", "charging speed"]

/-- `any(kw in text for kw in keywords)`. -/
def mentionsAny (keywords : List String) (text : List Char) : Bool :=
  keywords.any fun keyword => contains keyword.toList text

/-- An item is assigned in a dictionary: a key that is there keeps its place. -/
def assign (key value : List Char) : List (List Char × List Char) → List (List Char × List Char)
  | [] => [(key, value)]
  | item :: items => if item.1 = key then (key, value) :: items else item :: assign key value items

section

variable (texts : Texts)

/-- `specs_lower`. -/
def specsLower (specs : Dict) : List (List Char × List Char) :=
  specs.entries.foldl (fun items entry =>
    assign (texts.lower entry.1.toList) (texts.lower (texts.str entry.2)) items) []

/-- `classify`. -/
def classify (question : String) (specs : Dict) : QuestionTarget × Detail :=
  let qClean := strip (texts.lower question.toList)
  if mentionsAny deepSpecKeywords qClean then
    match (specsLower texts specs).find? fun item =>
        mentionsAny deepSpecKeywords item.1 || mentionsAny deepSpecKeywords item.2 with
    | some item =>
        (.catalogMetadata, .spec item.1 ((specs.lookup (String.ofList item.1)).getD .null))
    | none => (.webResearch, .reason "missing_deep_technical_spec")
  else if mentionsAny offerPriceKeywords qClean then
    (.offerPrice, .reason "offer_pricing_and_inventory")
  else if mentionsAny reviewKeywords qClean then
    (.reviews, .reason "customer_reviews_and_ratings")
  else
    match directMetadataKeys.find? fun category => mentionsAny category.2 qClean with
    | some (category, aliases) =>
        match specs.entries.find? fun entry =>
            mentionsAny aliases (texts.lower entry.1.toList) with
        | some entry => (.catalogMetadata, .spec entry.1.toList entry.2)
        | none => (.webResearch, .reason ("missing_spec_" ++ category))
    | none => (.webResearch, .reason "unresolved_product_inquiry")

end

variable {texts : Texts} {question : String} {specs : Dict}

/-- **What the catalog is quoted with** is what stands under the name that is quoted, if anything
does. -/
theorem value_of_classify {target : QuestionTarget} {name : List Char} {value : Json}
    (h : classify texts question specs = (target, .spec name value)) :
    value = (specs.lookup (String.ofList name)).getD .null := by
  unfold classify at h
  dsimp only at h
  split_ifs at h
  · split at h
    · cases h
      rfl
    · cases h
  · cases h
  · cases h
  · split at h
    · split at h
      · rename_i entry hfind
        cases h
        have hmem : entry ∈ specs.entries := List.mem_of_find?_eq_some hfind
        have hlookup : specs.lookup entry.1 = some entry.2 := AList.mem_lookup_iff.2 hmem
        rw [String.ofList_toList, hlookup]
        rfl
      · cases h
    · cases h

/-- Only the catalog is quoted with a specification, and it is with nothing else. -/
theorem classify_eq_catalog_iff :
    (classify texts question specs).1 = .catalogMetadata ↔
      ∃ name value, (classify texts question specs).2 = .spec name value := by
  unfold classify
  dsimp only
  split_ifs
  · split <;> simp
  · simp
  · simp
  · split
    · split <;> simp
    · simp

end Research
end AgenticCommerce
