/-
# Answers from the database

`ResearchOrchestrator.investigate` of `services/research/orchestrator.py`, in its first three
routes: the catalog, the offer and the reviews that come with a question.  What was found in the
cache and what the web route comes to are given.

The templates fill in what is absent: an answer about an offer of which nothing is known quotes a
price, a stock and terms, as verified (`answer_from_nothing`).  `grounded_iff` says when what an
answer quotes is in the data.
-/

import AgenticCommerce.Research.Router
import Mathlib.Algebra.Order.Ring.Rat

namespace AgenticCommerce
namespace Research

open Strings

/-- What comes with a question. -/
structure Data where
  specs : Dict := ∅
  reviews : Dict := ∅
  offer : Dict := ∅

/-- `ResearchAnswer`. -/
structure ResearchAnswer where
  ok : Bool
  question : String
  productId : String
  answer : List Char
  sourceType : String
  sourceLabel : String
  sourceUrl : Option String := none
  confidenceScore : ℚ
  confidenceLevel : String
  evidenceItems : List Json
  reasonForWebSearch : Option String := none
  transparencySteps : List (List Char)
  fromCache : Bool := false

/-- What an answer from the database quotes. -/
inductive Facts where
  | catalog (name : List Char) (value : Json)
  | offer (price : Option Json) (stock delivery returnPeriod : Json)
  | reviews (count rating sentiment : Json)

/-- Where an answer comes from. -/
inductive Route where
  | cache
  | database (facts : Facts)
  | web

/-- `isinstance(value, int | float)`. -/
def isNumber : Json → Bool
  | .int _ => true
  | .float _ => true
  | .bool _ => true
  | _ => false

/-- `offer.get(key, offer.get(other, default))`. -/
def firstOf (data : Dict) (key other : String) (default : Json) : Json :=
  (data.lookup key).getD ((data.lookup other).getD default)

/-- What an answer about the offer quotes. -/
def offerFacts (offer : Dict) : Facts :=
  .offer ((offer.lookup "unit_price_minor").filter isNumber)
    (firstOf offer "available_stock" "available_quantity" (.int 12))
    ((offer.lookup "delivery_days").getD (.int 2))
    ((offer.lookup "return_period_days").getD (.int 14))

/-- What an answer about the reviews quotes. -/
def reviewFacts (reviews : Dict) : Facts :=
  .reviews (firstOf reviews "rating_number" "review_count" (.int 48))
    ((reviews.lookup "average_rating").getD (.float "4.6"))
    ((reviews.lookup "summary").getD
      (.str "Customers praise the display quality and keyboard comfort."))

/-- The price that stands in for one that is not there. -/
def standInPrice : List Char := "₹64,999.00".toList

section

variable (texts : Texts)

/-- The facts that the database routes answer a question with. -/
def databaseFacts (question : String) (data : Data) : Option Facts :=
  match classify texts question data.specs with
  | (.catalogMetadata, .spec name value) => some (.catalog name value)
  | (.offerPrice, _) => some (offerFacts data.offer)
  | (.reviews, _) => some (reviewFacts data.reviews)
  | _ => none

/-- `price_str`. -/
def priceText (price : Option Json) : List Char := price.elim standInPrice texts.price

/-- `ans_text`. -/
def Facts.answer (productTitle : String) : Facts → List Char
  | .catalog name value =>
      "According to our merchant catalog specifications for the ".toList ++ productTitle.toList ++
        ": **".toList ++ (Detail.spec name value).text texts ++ "**.".toList
  | .offer price stock delivery returnPeriod =>
      "The **".toList ++ productTitle.toList ++ "** is currently priced at **".toList ++
        priceText texts price ++ "** with **".toList ++ texts.str stock ++
        " units in stock**. ".toList ++ "Standard delivery is within **".toList ++
        texts.str delivery ++ " business days** with a **".toList ++ texts.str returnPeriod ++
        "-day return policy**.".toList
  | .reviews count rating sentiment =>
      "Based on **".toList ++ texts.str count ++ " verified customer reviews** (rated **".toList ++
        texts.str rating ++ "/5.0 stars**): ".toList ++ texts.str sentiment

/-- An evidence item of a database route. -/
def evidenceItem (claim : List Char) (citationType : String) : Json :=
  .obj [("claim", .str (String.ofList claim)), ("citation_type", .str citationType),
    ("source_url", .null)]

/-- The answer of a database route. -/
def Facts.toAnswer (productId productTitle question : String) (facts : Facts) : ResearchAnswer :=
  let answer := facts.answer texts productTitle
  match facts with
  | .catalog name value =>
      { ok := true
        question
        productId
        answer
        sourceType := "catalog_metadata"
        sourceLabel := "Merchant Product Catalog (Database)"
        confidenceScore := 1
        confidenceLevel := "HIGH"
        evidenceItems := [evidenceItem ((Detail.spec name value).text texts) "catalog_fact"]
        transparencySteps := ["✦ Checking product specifications...".toList,
          "✓ Verified directly from merchant catalog metadata".toList] }
  | .offer .. =>
      { ok := true
        question
        productId
        answer
        sourceType := "offer_database"
        sourceLabel := "AgentPay Live Inventory & Pricing"
        confidenceScore := 1
        confidenceLevel := "HIGH"
        evidenceItems := [evidenceItem answer "catalog_fact"]
        transparencySteps := ["✦ Checking live offer & inventory records...".toList,
          "✓ Verified pricing and stock from AgentPay database".toList] }
  | .reviews count _ _ =>
      { ok := true
        question
        productId
        answer
        sourceType := "review_database"
        sourceLabel := "Customer Reviews & Ratings"
        confidenceScore := 9 / 10
        confidenceLevel := "HIGH"
        evidenceItems := [evidenceItem answer "review_summary"]
        transparencySteps := ["✦ Checking customer review database...".toList,
          "✓ Analyzed sentiment from ".toList ++ texts.str count ++ " customer reviews".toList] }

/-- The answer when the web route comes to nothing. -/
def unresolved (productId productTitle question : String) (steps : List (List Char)) :
    ResearchAnswer where
  ok := false
  question := question
  productId := productId
  answer := "I could not locate a definitive official specification for '".toList ++
    question.toList ++ "' on the ".toList ++ productTitle.toList ++
    " within approved sources.".toList
  sourceType := "unresolved"
  sourceLabel := "Unresolved Specification"
  confidenceScore := 0
  confidenceLevel := "LOW"
  evidenceItems := []
  reasonForWebSearch := some ("The merchant catalog did not contain the requested specification, " ++
    "and external search yielded no authoritative matches.")
  transparencySteps := steps

/-- `investigate`: what the cache holds, if it is asked and holds anything; what the database routes
answer; or what the web route comes to. -/
def investigate (cached : Option ResearchAnswer) (web : ResearchAnswer)
    (productId productTitle question : String) (data : Data) : Route × ResearchAnswer :=
  match cached with
  | some answer => (.cache, answer)
  | none =>
      match databaseFacts texts question data with
      | some facts => (.database facts, facts.toAnswer texts productId productTitle question)
      | none => (.web, web)

end

/-! ### What is in the data -/

/-- A value is part of another. -/
inductive Within (x : Json) : Json → Prop
  | self : Within x x
  | item {y : Json} {items : List Json} (hy : y ∈ items) (h : Within x y) : Within x (.arr items)
  | field {k : String} {y : Json} {items : List (String × Json)} (hy : (k, y) ∈ items)
      (h : Within x y) : Within x (.obj items)

/-- A value occurs in the data. -/
def Data.Occurs (data : Data) (x : Json) : Prop :=
  ∃ dict ∈ [data.specs, data.reviews, data.offer], ∃ key value,
    dict.lookup key = some value ∧ Within x value

section

variable (texts : Texts) (isWord : Char → Bool)

/-- A text is that of a value of the data. -/
def Data.Shows (data : Data) (text : List Char) : Prop := ∃ x, data.Occurs x ∧ texts.str x = text

/-- A text is the price of a number of the data. -/
def Data.ShowsPrice (data : Data) (text : List Char) : Prop :=
  ∃ x, data.Occurs x ∧ isNumber x = true ∧ texts.price x = text

/-- A text has a part that no word goes beyond. -/
def HasWord (word text : List Char) : Prop :=
  ∃ before after, text = before ++ word ++ after ∧
    (∀ c, before.getLast? = some c → isWord c = false) ∧
    (∀ c, after.head? = some c → isWord c = false)

/-- The question mentions a name as a word, in any case. -/
def Names (question : String) (name : List Char) : Prop :=
  HasWord isWord name (texts.lower question.toList) ∨
    HasWord isWord (texts.lower name) (texts.lower question.toList)

/-- **What an answer quotes is grounded**: prices, numbers and terms are in the data, and a
specification of the catalog is there, under a name that the question mentions. -/
def Grounded (question : String) (data : Data) : Facts → Prop
  | .catalog name value =>
      Names texts isWord question name ∧ ∃ key value', data.specs.lookup key = some value' ∧
        (key.toList = name ∨ texts.lower key.toList = name) ∧ texts.str value' = texts.str value
  | .offer price stock delivery returnPeriod =>
      data.ShowsPrice texts (priceText texts price) ∧ data.Shows texts (texts.str stock) ∧
        data.Shows texts (texts.str delivery) ∧ data.Shows texts (texts.str returnPeriod)
  | .reviews count rating _ =>
      data.Shows texts (texts.str count) ∧ data.Shows texts (texts.str rating)

/-- One of the keys is there. -/
def Given (dict : Dict) (keys : List String) : Prop := ∃ key ∈ keys, key ∈ dict

/-- What is needed for an answer to be grounded: the fields that it quotes are there, or what stands
in for them happens to be in the data; the specification found has a name that the question
mentions, and stands under it as it is quoted. -/
def Covered (question : String) (data : Data) : Prop :=
  match classify texts question data.specs with
  | (.catalogMetadata, .spec name _) =>
      Names texts isWord question name ∧ (String.ofList name ∈ data.specs ∨
        ∃ key value, data.specs.lookup key = some value ∧ texts.lower key.toList = name ∧
          texts.str value = texts.str .null)
  | (.offerPrice, _) =>
      ((∃ price, data.offer.lookup "unit_price_minor" = some price ∧ isNumber price = true) ∨
          data.ShowsPrice texts standInPrice) ∧
        (Given data.offer ["available_stock", "available_quantity"] ∨
          data.Shows texts (texts.str (.int 12))) ∧
        (Given data.offer ["delivery_days"] ∨ data.Shows texts (texts.str (.int 2))) ∧
        (Given data.offer ["return_period_days"] ∨ data.Shows texts (texts.str (.int 14)))
  | (.reviews, _) =>
      (Given data.reviews ["rating_number", "review_count"] ∨
          data.Shows texts (texts.str (.int 48))) ∧
        (Given data.reviews ["average_rating"] ∨ data.Shows texts (texts.str (.float "4.6")))
  | _ => True

end

section

variable {texts : Texts} {isWord : Char → Bool} {question : String} {data : Data} {dict : Dict}
  {key other : String} {value default : Json}

/-- What a dictionary of the data holds occurs in it. -/
theorem Data.shows_of_lookup (hdict : dict ∈ [data.specs, data.reviews, data.offer])
    (h : dict.lookup key = some value) : data.Shows texts (texts.str value) :=
  ⟨value, ⟨dict, hdict, key, value, h, .self⟩, rfl⟩

/-- A field with a default is shown by the data if it is there, or if the data show the default. -/
theorem shows_getD_iff (hdict : dict ∈ [data.specs, data.reviews, data.offer]) :
    data.Shows texts (texts.str ((dict.lookup key).getD default)) ↔
      Given dict [key] ∨ data.Shows texts (texts.str default) := by
  have hgiven : Given dict [key] ↔ key ∈ dict := by simp [Given]
  rw [hgiven, ← AList.lookup_isSome]
  cases h : dict.lookup key with
  | none => simp
  | some value => exact iff_of_true (data.shows_of_lookup hdict h) (.inl rfl)

theorem shows_firstOf_iff (hdict : dict ∈ [data.specs, data.reviews, data.offer]) :
    data.Shows texts (texts.str (firstOf dict key other default)) ↔
      Given dict [key, other] ∨ data.Shows texts (texts.str default) := by
  have hgiven : Given dict [key, other] ↔ key ∈ dict ∨ Given dict [other] := by simp [Given]
  rw [hgiven, or_assoc, ← shows_getD_iff hdict, firstOf, ← AList.lookup_isSome]
  cases h : dict.lookup key with
  | none => simp
  | some value => exact iff_of_true (data.shows_of_lookup hdict h) (.inl rfl)

/-- A price is shown if it is a number, or if the data show the one that stands in for it. -/
theorem showsPrice_iff : data.ShowsPrice texts
      (priceText texts ((data.offer.lookup "unit_price_minor").filter isNumber)) ↔
    (∃ price, data.offer.lookup "unit_price_minor" = some price ∧ isNumber price = true) ∨
      data.ShowsPrice texts standInPrice := by
  cases h : (data.offer.lookup "unit_price_minor").filter isNumber with
  | none =>
      have hnone : ¬ ∃ price, data.offer.lookup "unit_price_minor" = some price ∧
          isNumber price = true := by
        rintro ⟨price, hprice, hnumber⟩
        rw [hprice, Option.filter_some, if_pos hnumber] at h
        cases h
      exact (or_iff_right hnone).symm
  | some price =>
      obtain ⟨hprice, hnumber⟩ := Option.filter_eq_some_iff.1 h
      refine iff_of_true ⟨price, ⟨data.offer, by simp, _, price, hprice, .self⟩, hnumber, rfl⟩ ?_
      exact .inl ⟨price, hprice, hnumber⟩

/-- A specification that was found is quoted as it stands when it stands under its name, or when one
of the name in another case has the text of `None`. -/
theorem quotes_iff {name : List Char}
    (hvalue : value = (data.specs.lookup (String.ofList name)).getD .null) :
    (∃ key value', data.specs.lookup key = some value' ∧
        (key.toList = name ∨ texts.lower key.toList = name) ∧ texts.str value' = texts.str value) ↔
      String.ofList name ∈ data.specs ∨ ∃ key value, data.specs.lookup key = some value ∧
        texts.lower key.toList = name ∧ texts.str value = texts.str .null := by
  rw [← AList.lookup_isSome]
  cases hlookup : data.specs.lookup (String.ofList name) with
  | some found =>
      rw [hlookup] at hvalue
      refine iff_of_true ⟨_, found, hlookup, .inl (String.toList_ofList), ?_⟩ (.inl rfl)
      rw [hvalue, Option.getD_some]
  | none =>
      rw [hlookup] at hvalue
      rw [hvalue, Option.getD_none]
      constructor
      · rintro ⟨key, value', hkey, hname | hname, htext⟩
        · rw [← hname, String.ofList_toList, hkey] at hlookup
          cases hlookup
        · exact .inr ⟨key, value', hkey, hname, htext⟩
      · rintro (hnone | ⟨key, value', hkey, hname, htext⟩)
        · cases hnone
        · exact ⟨key, value', hkey, .inr hname, htext⟩

/-- The facts of the database routes are grounded when what they need is there. -/
theorem grounded_databaseFacts_iff :
    (∀ facts, databaseFacts texts question data = some facts →
        Grounded texts isWord question data facts) ↔ Covered texts isWord question data := by
  unfold databaseFacts Covered
  split
  · rename_i name value hclassify
    simp only [Option.some.injEq, forall_eq']
    exact and_congr_right' (quotes_iff (value_of_classify hclassify))
  · simp only [Option.some.injEq, forall_eq']
    exact and_congr showsPrice_iff (and_congr (shows_firstOf_iff (by simp))
      (and_congr (shows_getD_iff (by simp)) (shows_getD_iff (by simp))))
  · simp only [Option.some.injEq, forall_eq']
    exact and_congr (shows_firstOf_iff (by simp)) (shows_getD_iff (by simp))
  · simp

/-- **When an answer from the database is grounded**, whatever the question and the data: when
nothing was cached, exactly if what the answer quotes is there. -/
theorem grounded_iff {cached : Option ResearchAnswer} {web : ResearchAnswer}
    {productId productTitle : String} :
    (∀ facts, (investigate texts cached web productId productTitle question data).1 =
        .database facts → Grounded texts isWord question data facts) ↔
      (cached = none → Covered texts isWord question data) := by
  cases cached with
  | some answer => simp [investigate]
  | none =>
      rw [← grounded_databaseFacts_iff]
      refine Iff.trans ?_ ⟨fun h _ => h, fun h => h rfl⟩
      refine forall_congr' fun facts => ?_
      unfold investigate
      cases databaseFacts texts question data <;> simp

/-- An answer from the database says so, and quotes its facts. -/
theorem answer_of_database {cached : Option ResearchAnswer} {web : ResearchAnswer}
    {productId productTitle : String} {facts : Facts}
    (h : (investigate texts cached web productId productTitle question data).1 = .database facts) :
    (investigate texts cached web productId productTitle question data).2 =
        facts.toAnswer texts productId productTitle question ∧
      (facts.toAnswer texts productId productTitle question).sourceType ∈
        ["catalog_metadata", "offer_database", "review_database"] ∧
      (facts.toAnswer texts productId productTitle question).answer =
        facts.answer texts productTitle := by
  refine ⟨?_, ?_, ?_⟩
  · revert h
    unfold investigate
    cases cached with
    | some answer => exact fun h => nomatch h
    | none =>
        cases databaseFacts texts question data with
        | none => exact fun h => nomatch h
        | some found =>
            intro h
            cases h
            rfl
  · cases facts <;> simp [Facts.toAnswer]
  · cases facts <;> rfl

end

/-! ### An offer of which nothing is known -/

/-- Texts of whole numbers; the questions are in lower case. -/
def plainTexts : Texts where
  lower text := text
  str
    | .int n => (toString n).toList
    | .null => "None".toList
    | _ => []
  price _ := []

/-- **An answer from nothing**: a question about the price, with no data at all, is answered with a
price, a stock and terms. -/
theorem answer_from_nothing : ¬ ∀ facts,
    (investigate plainTexts none (unresolved "dock" "Dock" "what is the price?" []) "dock" "Dock"
      "what is the price?" {}).1 = .database facts →
    Grounded plainTexts Char.isAlphanum "what is the price?" {} facts := by
  intro h
  have hclassify : classify plainTexts "what is the price?" ∅ =
      (.offerPrice, .reason "offer_pricing_and_inventory") := by
    unfold classify
    rw [if_neg (by decide), if_pos (by decide)]
  have hroute : (investigate plainTexts none (unresolved "dock" "Dock" "what is the price?" [])
      "dock" "Dock" "what is the price?" {}).1 = .database (offerFacts ∅) := by
    unfold investigate databaseFacts
    rw [hclassify]
  obtain ⟨-, ⟨x, ⟨dict, hdict, key, value, hlookup, -⟩, -⟩, -⟩ := h _ hroute
  have hempty : dict = ∅ := by simpa using hdict
  rw [hempty, AList.lookup_empty] at hlookup
  cases hlookup

end Research
end AgenticCommerce
