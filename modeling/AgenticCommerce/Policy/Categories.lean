/-
# Category rules and spellings

The engine looks a category up in its lists as it is spelt, while `normalize_category` is "one
spelling per category, shared by every evaluator".  A respelling of a decision's inputs
(`Respelling`) gives the category and the entries of the three lists other spellings.  Whether
some respelling changes the decision is decided by what the lists name, in any spelling
(`SpellingSettled`).
-/

import AgenticCommerce.Offers.Spelling
import AgenticCommerce.Policy.Rules

namespace AgenticCommerce

/-! ### Lists of categories -/

/-- A list names a category, in some spelling. -/
def Names (entries : List String) (category : String) : Prop :=
  ∃ entry ∈ entries, SameCategory entry category

/-- The category rules: a blocked category, or one that a list of allowed ones leaves out. -/
def CategoryRefused (category : String) (blocked allowed allowed' : List String) : Prop :=
  category ∈ blocked ∨ (allowed ≠ [] ∧ category ∉ allowed) ∨ (allowed' ≠ [] ∧ category ∉ allowed')

/-- The lists with every entry that names a category spelt in one way. -/
def respell (category spelt : String) (entries : List String) : List String :=
  entries.map fun entry => if SameCategory entry category then spelt else entry

theorem Names.of_forall₂ {entries entries' : List String} {category category' : String}
    (hentries : List.Forall₂ SameCategory entries entries')
    (hcategory : SameCategory category category') (h : category' ∈ entries') :
    Names entries category := by
  induction hentries with
  | nil => exact absurd h List.not_mem_nil
  | @cons entry _ entries entries' hhead htail ih =>
      rcases List.mem_cons.1 h with rfl | h
      · exact ⟨entry, List.mem_cons_self, hhead.trans hcategory.symm⟩
      · obtain ⟨found, hmem, hfound⟩ := ih h
        exact ⟨found, List.mem_cons_of_mem _ hmem, hfound⟩

theorem respelled_nil {entries entries' : List String}
    (h : List.Forall₂ SameCategory entries entries') : entries = [] ↔ entries' = [] := by
  cases h with
  | nil => exact Iff.rfl
  | cons => exact iff_of_false (List.cons_ne_nil _ _) (List.cons_ne_nil _ _)

theorem respell_forall₂ {category spelt : String} (h : SameCategory spelt category)
    (entries : List String) : List.Forall₂ SameCategory entries (respell category spelt entries) := by
  rw [respell, List.forall₂_map_right_iff, List.forall₂_same]
  intro entry _
  split
  · rename_i hentry
    exact hentry.trans h.symm
  · rfl

/-- The one spelling is in the list when the list names the category. -/
theorem mem_respell {category spelt : String} (h : SameCategory spelt category)
    {entries : List String} : spelt ∈ respell category spelt entries ↔ Names entries category := by
  rw [respell, List.mem_map]
  constructor
  · rintro ⟨entry, hmem, heq⟩
    refine ⟨entry, hmem, ?_⟩
    split at heq
    · rename_i hentry
      exact hentry
    · exact heq ▸ h
  · rintro ⟨entry, hmem, hentry⟩
    exact ⟨entry, hmem, if_pos hentry⟩

/-- No other spelling of it is. -/
theorem not_mem_respell {category spelt other : String} (h : SameCategory other category)
    (hne : other ≠ spelt) {entries : List String} : other ∉ respell category spelt entries := by
  rw [respell, List.mem_map]
  rintro ⟨entry, -, heq⟩
  split at heq
  · exact hne heq.symm
  · rename_i hentry
    exact hentry (heq ▸ h)

theorem respell_eq_nil {category spelt : String} {entries : List String} :
    respell category spelt entries = [] ↔ entries = [] := List.map_eq_nil_iff

/-! ### Respelling -/

section Lists

variable (category : String) (blocked allowed allowed' : List String)

/-- Other spellings of a category and of the entries of three lists. -/
structure Respelling where
  category' : String
  blocked' : List String
  merchantAllowed' : List String
  buyerAllowed' : List String
  same : SameCategory category category'
  same_blocked : List.Forall₂ SameCategory blocked blocked'
  same_merchant : List.Forall₂ SameCategory allowed merchantAllowed'
  same_buyer : List.Forall₂ SameCategory allowed' buyerAllowed'

/-- What the lists name settles the category rules: a list of allowed ones leaves the category
out in every spelling, or no list names it, or it has one spelling only. -/
def SpellingSettled : Prop :=
  (allowed ≠ [] ∧ ¬Names allowed category) ∨ (allowed' ≠ [] ∧ ¬Names allowed' category) ∨
    (¬Names blocked category ∧ ¬Names allowed category ∧ ¬Names allowed' category) ∨
    OneSpelling category

end Lists

variable {category : String} {blocked allowed allowed' : List String}

theorem Names.of_mem {entries : List String} (h : category ∈ entries) : Names entries category :=
  ⟨category, h, rfl⟩

/-- With one spelling, respelt lists have the category when the lists do. -/
theorem OneSpelling.mem_iff (h : OneSpelling category) {category' : String}
    {entries entries' : List String} (hsame : SameCategory category category')
    (hentries : List.Forall₂ SameCategory entries entries') :
    category' ∈ entries' ↔ category ∈ entries := by
  obtain rfl := h.eq hsame
  have hone {l l' : List String} (hl : List.Forall₂ SameCategory l l') (hmem : category' ∈ l') :
      category' ∈ l := by
    obtain ⟨entry, hentry, hnames⟩ := Names.of_forall₂ hl rfl hmem
    exact h.eq hnames.symm ▸ hentry
  refine ⟨hone hentries, hone ?_⟩
  exact (hentries.flip).imp fun _ _ hback => hback.symm

/-- **Settled lists**: no respelling changes whether the category is refused. -/
theorem SpellingSettled.refused_iff (h : SpellingSettled category blocked allowed allowed')
    (r : Respelling category blocked allowed allowed') :
    CategoryRefused r.category' r.blocked' r.merchantAllowed' r.buyerAllowed' ↔
      CategoryRefused category blocked allowed allowed' := by
  have hleft {entries entries' : List String} (hentries : List.Forall₂ SameCategory entries entries')
      (hnames : ¬Names entries category) :
      category ∉ entries ∧ r.category' ∉ entries' :=
    ⟨fun hmem => hnames (.of_mem hmem), fun hmem => hnames (.of_forall₂ hentries r.same hmem)⟩
  have hmerchant := respelled_nil r.same_merchant
  have hbuyer := respelled_nil r.same_buyer
  rcases h with ⟨hne, hnames⟩ | ⟨hne, hnames⟩ | ⟨hblocked, hallowed, hallowed'⟩ | hone
  · have hout := hleft r.same_merchant hnames
    exact iff_of_true (.inr (.inl ⟨mt hmerchant.2 hne, hout.2⟩)) (.inr (.inl ⟨hne, hout.1⟩))
  · have hout := hleft r.same_buyer hnames
    exact iff_of_true (.inr (.inr ⟨mt hbuyer.2 hne, hout.2⟩)) (.inr (.inr ⟨hne, hout.1⟩))
  · have hout := hleft r.same_blocked hblocked
    have hout₁ := hleft r.same_merchant hallowed
    have hout₂ := hleft r.same_buyer hallowed'
    simp only [CategoryRefused, hout, hout₁, hout₂, ne_eq, hmerchant, hbuyer]
  · simp only [CategoryRefused, hone.mem_iff r.same r.same_blocked,
      hone.mem_iff r.same r.same_merchant, hone.mem_iff r.same r.same_buyer, ne_eq, hmerchant, hbuyer]

/-- **Unsettled lists**: one respelling refuses the category and another does not. -/
theorem exists_respelling (h : ¬SpellingSettled category blocked allowed allowed') :
    ∃ r r' : Respelling category blocked allowed allowed',
      CategoryRefused r.category' r.blocked' r.merchantAllowed' r.buyerAllowed' ∧
        ¬CategoryRefused r'.category' r'.blocked' r'.merchantAllowed' r'.buyerAllowed' := by
  obtain ⟨hallowed, hallowed', hnames, hone⟩ :
      (allowed = [] ∨ Names allowed category) ∧ (allowed' = [] ∨ Names allowed' category) ∧
        (Names blocked category ∨ Names allowed category ∨ Names allowed' category) ∧
        ¬OneSpelling category := by
    unfold SpellingSettled at h
    tauto
  obtain ⟨other, hother, hne⟩ := exists_sameCategory_ne hone
  -- The category spelt as `c`, and the entries of the lists that name it as `b` and `a`.
  let spelt (c b a : String) (hc : SameCategory category c) (hb : SameCategory b category)
      (ha : SameCategory a category) : Respelling category blocked allowed allowed' :=
    { category' := c, blocked' := respell category b blocked,
      merchantAllowed' := respell category a allowed, buyerAllowed' := respell category a allowed',
      same := hc, same_blocked := respell_forall₂ hb blocked,
      same_merchant := respell_forall₂ ha allowed, same_buyer := respell_forall₂ ha allowed' }
  have hin {entries : List String} (hentries : entries = [] ∨ Names entries category) {a : String}
      (ha : SameCategory a category) :
      ¬(respell category a entries ≠ [] ∧ a ∉ respell category a entries) := by
    rintro ⟨hnonempty, hout⟩
    rcases hentries with rfl | hnamed
    · exact hnonempty rfl
    · exact hout ((mem_respell ha).2 hnamed)
  by_cases hblocked : Names blocked category
  · refine ⟨spelt category category category rfl rfl rfl,
      spelt other category other hother rfl hother.symm, ?_, ?_⟩
    · exact .inl ((mem_respell rfl).2 hblocked)
    · rintro (hmem | hmem | hmem)
      · exact not_mem_respell hother.symm hne hmem
      · exact hin hallowed hother.symm hmem
      · exact hin hallowed' hother.symm hmem
  · refine ⟨spelt other category category hother rfl rfl,
      spelt category category category rfl rfl rfl, ?_, ?_⟩
    · have hout {entries : List String} (hnamed : Names entries category) :
          respell category category entries ≠ [] ∧ other ∉ respell category category entries := by
        refine ⟨fun hnil => ?_, not_mem_respell hother.symm hne⟩
        exact absurd ((mem_respell rfl).2 hnamed) (by rw [hnil]; exact List.not_mem_nil)
      rcases hnames.resolve_left hblocked with hnamed | hnamed
      · exact .inr (.inl (hout hnamed))
      · exact .inr (.inr (hout hnamed))
    · rintro (hmem | hmem | hmem)
      · exact hblocked ((mem_respell rfl).1 hmem)
      · exact hin hallowed rfl hmem
      · exact hin hallowed' rfl hmem

/-! ### The decision -/

variable {inputs : PolicyInputs} {merchantRules : MerchantRules} {buyerPolicy : BuyerPolicy}
variable {now : Time}

/-- The rules about the category. -/
def PolicyRule.aboutCategory : PolicyRule → Bool
  | blockedCategory | merchantCategory | buyerCategory => true
  | offer | stock | currency | merchant | paymentMethod | ceiling | version => false

/-- Another rule blocks, whatever the category is. -/
def OtherwiseBlocked (inputs : PolicyInputs) (merchantRules : MerchantRules)
    (buyerPolicy : BuyerPolicy) (now : Time) : Prop :=
  ∃ rule : PolicyRule, rule.aboutCategory = false ∧
    rule.Fires inputs merchantRules buyerPolicy now

/-- The decision on respelt inputs. -/
def Respelling.decision (inputsHash : PolicyInputs → String) (inputs : PolicyInputs)
    (merchantRules : MerchantRules) (buyerPolicy : BuyerPolicy) (now : Time)
    (r : Respelling inputs.categoryId merchantRules.blockedCategories
      merchantRules.allowedCategories buyerPolicy.allowedCategories) : Decision :=
  (evaluatePolicy inputsHash { inputs with categoryId := r.category' }
    { merchantRules with
      blockedCategories := r.blocked', allowedCategories := r.merchantAllowed' }
    { buyerPolicy with allowedCategories := r.buyerAllowed' } now).decision

/-- The verdict with the category rules apart. -/
theorem decidedBy_category (inputs : PolicyInputs) (merchantRules : MerchantRules)
    (buyerPolicy : BuyerPolicy) (now : Time) :
    DecidedBy (OtherwiseBlocked inputs merchantRules buyerPolicy now ∨
        CategoryRefused inputs.categoryId merchantRules.blockedCategories
          merchantRules.allowedCategories buyerPolicy.allowedCategories)
      (AsksApproval inputs merchantRules buyerPolicy)
      (decidePolicy inputs merchantRules buyerPolicy now).1 := by
  refine (decidePolicy_decidedBy inputs merchantRules buyerPolicy now).congr ⟨?_, ?_⟩ Iff.rfl
  · rintro ⟨rule, hrule⟩
    cases rule with
    | blockedCategory => exact .inr (.inl hrule)
    | merchantCategory => exact .inr (.inr (.inl hrule))
    | buyerCategory => exact .inr (.inr (.inr hrule))
    | offer | stock | currency | merchant | paymentMethod | ceiling | version =>
        exact .inl ⟨_, rfl, hrule⟩
  · rintro (⟨rule, -, hrule⟩ | hrule | hrule | hrule)
    · exact ⟨rule, hrule⟩
    · exact ⟨.blockedCategory, hrule⟩
    · exact ⟨.merchantCategory, hrule⟩
    · exact ⟨.buyerCategory, hrule⟩

/-- The verdict on respelt inputs: all but the category rules is as before. -/
theorem Respelling.decidedBy (inputsHash : PolicyInputs → String) (now : Time)
    (r : Respelling inputs.categoryId merchantRules.blockedCategories
      merchantRules.allowedCategories buyerPolicy.allowedCategories) :
    DecidedBy (OtherwiseBlocked inputs merchantRules buyerPolicy now ∨
        CategoryRefused r.category' r.blocked' r.merchantAllowed' r.buyerAllowed')
      (AsksApproval inputs merchantRules buyerPolicy)
      (r.decision inputsHash inputs merchantRules buyerPolicy now) := by
  refine (decidedBy_category _ _ _ now).congr (or_congr_left (exists_congr fun rule => ?_)) Iff.rfl
  refine and_congr_right fun hrule => ?_
  cases rule with
  | blockedCategory | merchantCategory | buyerCategory => exact absurd hrule nofun
  | offer | stock | currency | merchant | paymentMethod | ceiling | version => exact Iff.rfl

/-- **When the spelling does not matter**: exactly when another rule blocks, or what the lists
name settles the category rules. -/
theorem decision_unchanged_iff (inputsHash : PolicyInputs → String) :
    (∀ r : Respelling inputs.categoryId merchantRules.blockedCategories
        merchantRules.allowedCategories buyerPolicy.allowedCategories,
      r.decision inputsHash inputs merchantRules buyerPolicy now =
        (evaluatePolicy inputsHash inputs merchantRules buyerPolicy now).decision) ↔
    OtherwiseBlocked inputs merchantRules buyerPolicy now ∨
      SpellingSettled inputs.categoryId merchantRules.blockedCategories
        merchantRules.allowedCategories buyerPolicy.allowedCategories := by
  have hdecided := decidedBy_category inputs merchantRules buyerPolicy now
  constructor
  · intro h
    by_contra hnot
    obtain ⟨hother, hsettled⟩ := not_or.1 hnot
    obtain ⟨r, r', hrefused, haccepted⟩ := exists_respelling hsettled
    have hblock := (r.decidedBy inputsHash now).eq_block_iff.2 (.inr hrefused)
    have hpass := (r'.decidedBy inputsHash now).eq_block_iff.not.2 (not_or.2 ⟨hother, haccepted⟩)
    exact hpass ((h r').trans ((h r).symm.trans hblock))
  · intro h r
    refine (r.decidedBy inputsHash now).eq hdecided ?_ Iff.rfl
    rcases h with hother | hsettled
    · exact iff_of_true (.inl hother) (.inl hother)
    · exact or_congr_right (hsettled.refused_iff r)

/-- **A category rule means a spelling**: the decision is the same under every respelling
exactly when another rule blocks or the lists settle it, and a category folds to what folds to
itself exactly when it is no plural of `accessory`. -/
theorem evaluatePolicy_respelling_iff (inputsHash : PolicyInputs → String) :
    (∀ (inputs : PolicyInputs) (merchantRules : MerchantRules) (buyerPolicy : BuyerPolicy)
      (now : Time),
      (∀ r : Respelling inputs.categoryId merchantRules.blockedCategories
          merchantRules.allowedCategories buyerPolicy.allowedCategories,
        r.decision inputsHash inputs merchantRules buyerPolicy now =
          (evaluatePolicy inputsHash inputs merchantRules buyerPolicy now).decision) ↔
      OtherwiseBlocked inputs merchantRules buyerPolicy now ∨
        SpellingSettled inputs.categoryId merchantRules.blockedCategories
          merchantRules.allowedCategories buyerPolicy.allowedCategories) ∧
    ∀ category : String,
      normalizeCategory (normalizeCategory category) = normalizeCategory category ↔
        category ≠ "accessories" ∧ category ≠ "accessorys" :=
  ⟨fun _ _ _ _ => decision_unchanged_iff inputsHash, normalizeCategory_idem_iff⟩

/-- A merchant blocks `laptops`, and a product stored as `laptop` is sold; and `accessories`
folds to `accessory`, which folds on. -/
theorem laptop_allowed :
    let inputs : PolicyInputs :=
      { buyerId := "buy_1", merchantId := "mer_1", categoryId := "laptop", amountMinor := 4999900,
        currency := "INR", offerStatus := .active, offerExpiresAt := 10, availableQuantity := 3,
        policyVersion := "1.0" }
    let merchantRules : MerchantRules :=
      { merchantId := "mer_1", version := "1.0", maxTransactionMinor := 10000000,
        autoApprovalLimitMinor := 10000000, blockedCategories := ["laptops"] }
    let buyerPolicy : BuyerPolicy :=
      { buyerId := "buy_1", version := "1.0", maxTransactionMinor := 10000000,
        autoApprovalLimitMinor := 10000000 }
    SameCategory "laptop" "laptops" ∧
    (evaluatePolicy (fun _ => "") inputs merchantRules buyerPolicy 0).decision = .allow ∧
    (evaluatePolicy (fun _ => "") { inputs with categoryId := "laptops" } merchantRules buyerPolicy
      0).decision = .block ∧
    normalizeCategory "accessories" = "accessory" ∧
    normalizeCategory "accessory" = "computer_accessory" := by
  decide

end AgenticCommerce
