/-
# Spellings of a category

What `normalize_category` folds together.  A category is spelt in one of four ways (`Spelling`):
as one of the two names of the aliased bucket, with `-ies`, with a single plural `s`, or
plainly.  The folding is done once: the plural of `accessory` becomes `accessory`, which is
another name (`normalizeCategory_idem_iff`).  Most categories have several spellings, those in
`-ss` and `-ie` have one (`OneSpelling`).
-/

import AgenticCommerce.Offers.Constraints

namespace AgenticCommerce

/-! ### Suffixes -/

theorem endsWith_iff {text suffix : String} :
    endsWith text suffix = true ↔ ∃ stem, text = stem ++ suffix := by
  rw [endsWith, List.isSuffixOf_iff_suffix]
  constructor
  · rintro ⟨stem, h⟩
    refine ⟨String.ofList stem, String.toList_inj.1 ?_⟩
    rw [String.toList_append, String.toList_ofList, h]
  · rintro ⟨stem, rfl⟩
    exact ⟨stem.toList, (String.toList_append).symm⟩

/-- A suffix that is no longer than the end of a text is one of that end. -/
theorem endsWith_append {stem rest suffix : String}
    (h : suffix.toList.length ≤ rest.toList.length) :
    endsWith (stem ++ rest) suffix = endsWith rest suffix := by
  rw [Bool.eq_iff_iff, endsWith, endsWith, List.isSuffixOf_iff_suffix, List.isSuffixOf_iff_suffix,
    String.toList_append]
  constructor
  · intro hsuffix
    exact List.suffix_of_suffix_length_le hsuffix (List.suffix_append _ _) h
  · intro hsuffix
    exact hsuffix.trans (List.suffix_append _ _)

/-- A common end cancels. -/
theorem endsWith_append_append (text suffix rest : String) :
    endsWith (text ++ rest) (suffix ++ rest) = endsWith text suffix := by
  rw [Bool.eq_iff_iff, endsWith_iff, endsWith_iff]
  refine exists_congr fun stem => ?_
  rw [← String.append_assoc, String.append_left_inj]

theorem endsWith_trans {text suffix rest : String} (h : endsWith text suffix = true)
    (hrest : endsWith suffix rest = true) : endsWith text rest = true := by
  obtain ⟨stem, rfl⟩ := endsWith_iff.1 h
  obtain ⟨start, rfl⟩ := endsWith_iff.1 hrest
  exact endsWith_iff.2 ⟨stem ++ start, (String.append_assoc ..).symm⟩

/-- What ends a text decides what else may end it. -/
theorem not_endsWith {stem rest suffix : String} (last : String) (hlast : endsWith suffix last = true)
    (hlength : last.toList.length ≤ rest.toList.length) (hrest : endsWith rest last = false) :
    endsWith (stem ++ rest) suffix = false := by
  refine Bool.eq_false_of_not_eq_true fun h => ?_
  have := (endsWith_append hlength).symm.trans (endsWith_trans h hlast)
  exact absurd this (by rw [hrest]; decide)

theorem dropEnd_append {stem suffix : String} {n : ℕ} (h : suffix.toList.length = n) :
    dropEnd (stem ++ suffix) n = stem := by
  rw [dropEnd, String.toList_append, List.length_append, h, Nat.add_sub_cancel, List.take_left,
    String.ofList_toList]

/-! ### The four spellings -/

/-- How a category is spelt, and what it is folded to. -/
inductive Spelling : String → String → Prop
  | accessory : Spelling "accessory" "computer_accessory"
  | bucket : Spelling "computer_accessory" "computer_accessory"
  | ies (stem : String) (h : stem ≠ "") : Spelling (stem ++ "ies") (stem ++ "y")
  | plural (stem : String) (hs : endsWith stem "s" = false)
      (hies : endsWith stem "ie" = true → stem.toList.length ≤ 2) : Spelling (stem ++ "s") stem
  | plain (category : String)
      (halias : category ≠ "accessory" ∧ category ≠ "computer_accessory")
      (hs : endsWith category "s" = true → endsWith category "ss" = true) :
      Spelling category category

theorem length_pos_iff {text : String} : 0 < text.toList.length ↔ text ≠ "" := by
  rw [List.length_pos_iff, ne_eq, ne_eq, not_iff_not]
  constructor
  · intro h
    exact String.toList_inj.1 h
  · rintro rfl
    rfl

/-- Every category is spelt in one of the four ways, and folded accordingly. -/
theorem spelling (category : String) : Spelling category (normalizeCategory category) := by
  unfold normalizeCategory
  split_ifs with halias hies hplural
  · rcases halias with rfl | rfl
    · exact .accessory
    · exact .bucket
  · obtain ⟨stem, rfl⟩ := endsWith_iff.1 hies.1
    rw [dropEnd_append (by decide)]
    refine .ies stem (length_pos_iff.1 ?_)
    have hlength := hies.2
    rw [String.toList_append, List.length_append] at hlength
    have : "ies".toList.length = 3 := by decide
    omega
  · obtain ⟨stem, rfl⟩ := endsWith_iff.1 hplural.1
    rw [dropEnd_append (by decide)]
    refine .plural stem ?_ fun hie => ?_
    · have hss := endsWith_append_append stem "s" "s"
      exact hss ▸ Bool.eq_false_of_not_eq_true hplural.2
    · have hlong : ¬3 < (stem ++ "s").toList.length := fun hlong =>
        hies ⟨(endsWith_append_append stem "ie" "s").trans hie, hlong⟩
      rw [String.toList_append, List.length_append] at hlong
      have : "s".toList.length = 1 := by decide
      omega
  · refine .plain category (not_or.1 halias) fun hs => ?_
    by_contra hss
    exact hplural ⟨hs, hss⟩

/-- Neither name of the aliased bucket ends in `s`. -/
theorem not_alias {stem rest : String} (h : endsWith rest "s" = true) :
    ¬(stem ++ rest = "accessory" ∨ stem ++ rest = "computer_accessory") := by
  obtain ⟨start, rfl⟩ := endsWith_iff.1 h
  have hs (name : String) (heq : stem ++ (start ++ "s") = name) : endsWith name "s" = true :=
    endsWith_iff.2 ⟨stem ++ start, by rw [← heq, String.append_assoc]⟩
  rintro (heq | heq)
  · exact absurd (hs _ heq) (by decide)
  · exact absurd (hs _ heq) (by decide)

/-- The spelling determines what a category is folded to. -/
theorem Spelling.normalize {category normal : String} (h : Spelling category normal) :
    normalizeCategory category = normal := by
  cases h with
  | accessory | bucket => decide
  | ies stem h =>
      have hies : endsWith (stem ++ "ies") "ies" = true := endsWith_iff.2 ⟨stem, rfl⟩
      have hlong : 3 < (stem ++ "ies").toList.length := by
        have hstem := length_pos_iff.2 h
        have : "ies".toList.length = 3 := by decide
        rw [String.toList_append, List.length_append]
        omega
      rw [normalizeCategory, if_neg (not_alias (by decide)), if_pos ⟨hies, hlong⟩,
        dropEnd_append (by decide)]
  | plural _ hs hie =>
      have hies : ¬(endsWith (normal ++ "s") "ies" = true ∧ 3 < (normal ++ "s").toList.length) := by
        rintro ⟨hies, hlong⟩
        have hshort := hie ((endsWith_append_append normal "ie" "s").symm.trans hies)
        have : "s".toList.length = 1 := by decide
        rw [String.toList_append, List.length_append] at hlong
        omega
      have hplural : endsWith (normal ++ "s") "s" = true ∧ ¬endsWith (normal ++ "s") "ss" = true := by
        refine ⟨endsWith_iff.2 ⟨normal, rfl⟩, fun hss => ?_⟩
        have := (endsWith_append_append normal "s" "s").symm.trans hss
        exact absurd this (by rw [hs]; decide)
      rw [normalizeCategory, if_neg (not_alias (by decide)), if_neg hies, if_pos hplural,
        dropEnd_append (by decide)]
  | plain _ halias hs =>
      have hies : ¬(endsWith category "ies" = true ∧ 3 < category.toList.length) := by
        rintro ⟨hies, -⟩
        obtain ⟨stem, rfl⟩ := endsWith_iff.1 hies
        have hss := hs ((endsWith_append (by decide)).trans (by decide))
        exact absurd ((endsWith_append (by decide)).symm.trans hss) (by decide)
      have hplural : ¬(endsWith category "s" = true ∧ ¬endsWith category "ss" = true) :=
        fun h => h.2 (hs h.1)
      rw [normalizeCategory, if_neg (not_or.2 halias), if_neg hies, if_neg hplural]

/-! ### Folding twice -/

/-- **Folding once is enough**, but for the plurals of `accessory`: they fold to a name of the
aliased bucket, which folds again. -/
theorem normalizeCategory_idem_iff (category : String) :
    normalizeCategory (normalizeCategory category) = normalizeCategory category ↔
      category ≠ "accessories" ∧ category ≠ "accessorys" := by
  have hspelt := spelling category
  generalize normalizeCategory category = normal at hspelt
  have hfixed (hno : normal ≠ "accessory") (hs : endsWith normal "s" = false) :
      normalizeCategory normal = normal := by
    by_cases hbucket : normal = "computer_accessory"
    · rw [hbucket]
      decide
    · exact (Spelling.plain normal ⟨hno, hbucket⟩ fun h => absurd h (by rw [hs]; decide)).normalize
  cases hspelt with
  | accessory | bucket => exact iff_of_true (by decide) (by decide)
  | ies stem h =>
      by_cases hstem : stem = "accessor"
      · subst hstem
        exact iff_of_false (by decide) fun hnot => hnot.1 (by decide)
      · refine iff_of_true (hfixed ?_ ((endsWith_append (by decide)).trans (by decide))) ⟨?_, ?_⟩
        · exact fun heq => hstem (String.append_left_inj "y" |>.1 heq)
        · exact fun heq => hstem (String.append_left_inj "ies" |>.1 heq)
        · exact fun heq => absurd (endsWith_iff.2 ⟨stem, heq.symm⟩) (by decide)
  | plural _ hs hie =>
      by_cases hnormal : normal = "accessory"
      · subst hnormal
        exact iff_of_false (by decide) fun hnot => hnot.2 (by decide)
      · refine iff_of_true (hfixed hnormal hs) ⟨fun heq => ?_, fun heq => ?_⟩
        · have hstem : normal = "accessorie" := (String.append_left_inj "s").1 heq
          subst hstem
          exact absurd (hie (by decide)) (by decide)
        · exact hnormal ((String.append_left_inj "s").1 heq)
  | plain _ halias hs =>
      refine iff_of_true (Spelling.plain category halias hs).normalize ⟨?_, ?_⟩
      · rintro rfl
        exact absurd (hs (by decide)) (by decide)
      · rintro rfl
        exact absurd (hs (by decide)) (by decide)

/-- Nothing is left of a category that is empty or a mere plural. -/
theorem normalizeCategory_eq_empty {category : String} :
    normalizeCategory category = "" ↔ category = "" ∨ category = "s" := by
  constructor
  · intro h
    have hspelt := spelling category
    rw [h] at hspelt
    generalize hnormal : "" = normal at hspelt
    cases hspelt with
    | accessory | bucket => exact absurd hnormal (by decide)
    | ies stem hstem =>
        have hy := (String.append_eq_empty_iff.1 hnormal.symm).2
        exact absurd hy (by decide)
    | plural _ hs hies =>
        rw [← hnormal]
        exact .inr (by decide)
    | plain => exact .inl rfl
  · rintro (rfl | rfl)
    · decide
    · decide

/-! ### Other spellings -/

/-- Two spellings of one category. -/
def SameCategory (category category' : String) : Prop :=
  normalizeCategory category = normalizeCategory category'

/-- A category that is spelt in one way only. -/
def OneSpelling (category : String) : Prop :=
  endsWith category "ss" = true ∨
    (endsWith category "ie" = true ∧ 2 < category.toList.length)

instance (category category' : String) : Decidable (SameCategory category category') :=
  inferInstanceAs (Decidable (_ = _))

instance (category : String) : Decidable (OneSpelling category) :=
  inferInstanceAs (Decidable (_ ∨ _))

/-- The spelling of a category in `-ss` or `-ie` is the only one. -/
theorem OneSpelling.eq {category category' : String} (h : OneSpelling category)
    (hsame : SameCategory category category') : category' = category := by
  have hplain : normalizeCategory category = category := by
    refine (Spelling.plain category ⟨?_, ?_⟩ fun hs => ?_).normalize
    · rintro rfl
      exact absurd h (by decide)
    · rintro rfl
      exact absurd h (by decide)
    · refine h.elim id fun hie => ?_
      obtain ⟨stem, rfl⟩ := endsWith_iff.1 hie.1
      exact absurd ((endsWith_append (by decide)).symm.trans hs) (by decide)
  have hspelt := spelling category'
  rw [← hsame, hplain] at hspelt
  cases hspelt with
  | accessory | bucket => exact absurd h (by decide)
  | ies stem hstem =>
      have hss : endsWith (stem ++ "y") "ss" = false := not_endsWith "s" rfl rfl.le rfl
      have hie : endsWith (stem ++ "y") "ie" = false := not_endsWith "e" rfl rfl.le rfl
      exact absurd h (by simp [OneSpelling, hss, hie])
  | plural _ hs hie =>
      rcases h with hss | ⟨hie', hlong⟩
      · have hends : endsWith category "s" = true := endsWith_trans hss (by decide)
        exact absurd hends (by rw [hs]; decide)
      · exact absurd (hie hie') (not_le.2 hlong)
  | plain => rfl

theorem ne_append (text : String) : text ≠ text ++ "s" := by
  intro h
  have hlength := congrArg (fun s : String => s.toList.length) h
  have : "s".toList.length = 1 := by decide
  simp only [String.toList_append, List.length_append] at hlength
  omega

/-- Any other category has another spelling. -/
theorem exists_sameCategory_ne {category : String} (h : ¬OneSpelling category) :
    ∃ category', SameCategory category category' ∧ category' ≠ category := by
  have hspelt := spelling category
  generalize hnormal : normalizeCategory category = normal at hspelt
  cases hspelt with
  | accessory => exact ⟨"computer_accessory", by decide, by decide⟩
  | bucket => exact ⟨"accessory", by decide, by decide⟩
  | ies stem hstem =>
      have hys : stem ++ "ys" = (stem ++ "y") ++ "s" := by rw [String.append_assoc]; rfl
      have hs : endsWith (stem ++ "y") "s" = false := not_endsWith "s" rfl rfl.le rfl
      have hie : endsWith (stem ++ "y") "ie" = false := not_endsWith "e" rfl rfl.le rfl
      refine ⟨stem ++ "ys", hnormal.trans ?_, fun heq => ?_⟩
      · rw [hys, (Spelling.plural _ hs fun h => absurd h (by rw [hie]; decide)).normalize]
      · exact absurd ((String.append_right_inj stem).1 heq) (by decide)
  | plural _ hs hie =>
      by_cases haccessory : normal = "accessory"
      · subst haccessory
        exact ⟨"accessories", by decide, by decide⟩
      by_cases hbucket : normal = "computer_accessory"
      · subst hbucket
        exact ⟨"accessory", by decide, by decide⟩
      have hself : normalizeCategory normal = normal := by
        refine (Spelling.plain normal ⟨haccessory, hbucket⟩ fun h => ?_).normalize
        exact absurd h (by rw [hs]; decide)
      exact ⟨normal, hnormal.trans hself.symm, ne_append normal⟩
  | plain _ halias hs =>
      have hfold : normalizeCategory (category ++ "s") = category := by
        refine (Spelling.plural category ?_ fun hie => ?_).normalize
        · exact Bool.eq_false_of_not_eq_true fun hends => h (.inl (hs hends))
        · by_contra hlong
          exact h (.inr ⟨hie, not_le.1 hlong⟩)
      refine ⟨category ++ "s", ?_, fun heq => ?_⟩
      · rw [SameCategory, hfold, hnormal]
      · exact ne_append category heq.symm

end AgenticCommerce
