/-
# What the intent validator raises

Which answers and prompts `validate_dict` takes or refuses with a domain error.  Only the strict
schema and the currency are checked so; every other field is converted as it comes, and what `int`
does not convert ends in an exception of its own: an infinity, NaN, a run of more than 4300 digits,
a quantity that is no number, and a budget below zero, which the constructor outside of the `try`
refuses.

Each conversion has its condition (`Reads`), and the conditions are put together in the order of the
source (`validateDict_controlled_iff`).  A quantity in words gets through (`word_escapes`).
-/

import AgenticCommerce.Agent.Intent
import AgenticCommerce.Text.Rounding

namespace AgenticCommerce
namespace Agent
namespace Intent

open Pipeline (PyFloat intOfFloat)
open Strict (field)

/-! ### Outcomes -/

/-- **A controlled outcome**: a value or a domain error. -/
def Controlled {α : Type} (x : Except Failure α) : Prop :=
  (∃ a, x = .ok a) ∨ ∃ error, x = .error (.domain error)

/-- A conversion that returns under a condition, and else raises what is no domain error. -/
structure Reads {α : Type} (x : Except Failure α) (P : Prop) : Prop where
  returns : P → ∃ a, x = .ok a
  raises : ¬P → ∃ message, x = .error (.exception message)

section

variable {α β : Type} {x : Except Failure α} {P Q : Prop}

theorem reads_ok (a : α) : Reads (.ok a : Except Failure α) True :=
  ⟨fun _ => ⟨a, rfl⟩, fun h => absurd trivial h⟩

theorem reads_error {message : String} :
    Reads (.error (.exception message) : Except Failure α) False :=
  ⟨False.elim, fun _ => ⟨message, rfl⟩⟩

theorem Reads.congr (h : Reads x P) (hPQ : P ↔ Q) : Reads x Q :=
  ⟨fun hQ => h.returns (hPQ.2 hQ), fun hQ => h.raises fun hP => hQ (hPQ.1 hP)⟩

theorem Reads.map (h : Reads x P) (f : α → β) : Reads (x.map f) P := by
  refine ⟨fun hP => ?_, fun hP => ?_⟩
  · obtain ⟨a, rfl⟩ := h.returns hP
    exact ⟨f a, rfl⟩
  · obtain ⟨message, rfl⟩ := h.raises hP
    exact ⟨message, rfl⟩

theorem controlled_ok (a : α) : Controlled (.ok a : Except Failure α) := .inl ⟨a, rfl⟩

theorem not_controlled_exception {message : String} :
    ¬ Controlled (.error (.exception message) : Except Failure α) := by
  rintro (⟨_, h⟩ | ⟨_, h⟩) <;> cases h

/-- **One conversion after the other.** -/
theorem Reads.controlled_bind (h : Reads x P) {f : α → Except Failure β}
    (hf : ∀ a, x = .ok a → (Controlled (f a) ↔ Q)) : Controlled (x >>= f) ↔ P ∧ Q := by
  by_cases hP : P
  · obtain ⟨a, ha⟩ := h.returns hP
    have hbind : x >>= f = f a := by
      rw [ha]
      rfl
    rw [hbind, hf a ha]
    exact ⟨fun hQ => ⟨hP, hQ⟩, fun hQ => hQ.2⟩
  · obtain ⟨message, rfl⟩ := h.raises hP
    exact ⟨fun hcontrolled => absurd hcontrolled not_controlled_exception, fun hQ => absurd hQ.1 hP⟩

end

/-! ### Numbers -/

namespace Number

/-- `int` converts the number. -/
def Finite : Number → Prop
  | real (.infinite _) | real .nan => False
  | _ => True

/-- The number can be converted to minor units: it is finite, and a hundred times as much is. -/
def Convertible : Number → Prop
  | whole _ => True
  | real (.finite q) => q < 1000000 → |nearest (q * 100)| < 2 ^ 1024
  | real _ => False

/-- The number is not below zero, or so little that nothing is left of it. -/
def NotNegative : Number → Prop
  | whole n => 0 ≤ n
  | real (.finite q) => -(1 - halfGap 1) < q * 100
  | real _ => True

theorem reads_toInt (number : Number) : Reads number.toInt number.Finite := by
  cases number with
  | whole n => exact reads_ok _
  | real x => cases x with
    | finite q => exact reads_ok _
    | infinite negative => exact reads_error
    | nan => exact reads_error

/-- What a float is converted to. -/
theorem minorUnits_finite (q : ℚ) : (real (.finite q)).minorUnits =
    if q < 1000000 then intOfFloat (rounded (q * 100)) else .ok (truncate q) := by
  unfold minorUnits below times
  by_cases h : q < 1000000 <;> simp [h, intOfFloat]

theorem reads_minorUnits (number : Number) : Reads number.minorUnits number.Convertible := by
  cases number with
  | whole n => exact reads_ok _
  | real x => cases x with
    | finite q =>
        rw [minorUnits_finite, Convertible]
        by_cases hsmall : q < 1000000
        · rw [if_pos hsmall, rounded]
          by_cases hfinite : |nearest (q * 100)| < 2 ^ 1024
          · rw [if_pos hfinite]
            exact (reads_ok _).congr ⟨fun _ _ => hfinite, fun _ => trivial⟩
          · rw [if_neg hfinite]
            exact reads_error.congr ⟨False.elim, fun h => hfinite (h hsmall)⟩
        · rw [if_neg hsmall]
          exact (reads_ok _).congr ⟨fun _ h => absurd h hsmall, fun _ => trivial⟩
    | infinite negative =>
        cases negative with
        | true => exact reads_error
        | false => exact reads_error
    | nan => exact reads_error

/-- Rounding does not lift a number to minus one and above, but for half of the gap. -/
theorem neg_one_lt_nearest_iff (q : ℚ) : -1 < nearest q ↔ -(1 - halfGap 1) < q := by
  rcases le_total 0 q with h | h
  · have hgap : halfGap 1 < 1 := by
      norm_num [halfGap]
    exact ⟨fun _ => by linarith, fun _ => by linarith [nearest_nonneg h]⟩
  · have hle := le_nearest_iff Nat.one_pos (by omega) (neg_nonneg.2 h)
    rw [nearest_neg, Nat.cast_one] at hle
    constructor
    · intro hlt
      by_contra hnot
      linarith [hle.2 (by linarith)]
    · intro hlt
      by_contra hnot
      linarith [hle.1 (by linarith)]

/-- **The sign of what a number is converted to.** -/
theorem minorUnits_nonneg_iff {number : Number} {n : ℤ} (h : number.minorUnits = .ok n) :
    0 ≤ n ↔ number.NotNegative := by
  cases number with
  | whole m =>
      obtain rfl := Except.ok.inj h
      show 0 ≤ (if m < 1000000 then m * 100 else m) ↔ 0 ≤ m
      split_ifs <;> omega
  | real x => cases x with
    | finite q =>
        rw [minorUnits_finite] at h
        rw [NotNegative]
        by_cases hsmall : q < 1000000
        · rw [if_pos hsmall, rounded] at h
          split_ifs at h
          · obtain rfl := Except.ok.inj h
            rw [truncate_nonneg_iff, neg_one_lt_nearest_iff]
          · cases h
        · rw [if_neg hsmall] at h
          obtain rfl := Except.ok.inj h
          have hgap : halfGap 1 < 1 := by
            norm_num [halfGap]
          rw [truncate_nonneg_iff]
          constructor <;> intro <;> linarith
    | infinite negative => cases negative <;> cases h
    | nan => cases h

end Number

/-! ### Digits -/

section

variable (python : Python)

/-- The first digits that a pattern finds as a group can be converted. -/
def FirstRunShort (pattern : List Regex) (text : List Char) : Prop :=
  ∀ digits more rest, Regex.searchGroups pattern text = some (digits :: more, rest) →
    digits.length ≤ 4300

theorem reads_intOfDigits (digits : List Char) :
    Reads (intOfDigits python.chars digits) (digits.length ≤ 4300) := by
  unfold intOfDigits
  split_ifs with h
  · exact reads_error.congr ⟨False.elim, fun hle => by omega⟩
  · exact (reads_ok _).congr ⟨fun _ => by omega, fun _ => trivial⟩

/-- The first integer of a text is short enough. -/
abbrev FirstIntShort (text : List Char) : Prop :=
  FirstRunShort [.plus (digit python.chars)] text

theorem reads_firstInt (text : List Char) :
    Reads (firstInt python.chars text) (FirstIntShort python text) := by
  unfold firstInt
  split
  · next digits more rest h =>
    refine ((reads_intOfDigits python digits).map some).congr ⟨?_, fun hall => hall _ _ _ h⟩
    intro hshort digits' more' rest' h'
    rw [h] at h'
    cases h'
    exact hshort
  · next h =>
    exact (reads_ok _).congr ⟨fun _ digits more rest heq => absurd heq (h digits more rest),
      fun _ => trivial⟩

/-! ### The fields -/

/-- What is specified of a field can be converted. -/
def SpecifiedReads (raw : Raw) (keys specificationKeys : List String) : Prop :=
  match firstNumber raw keys with
  | some number => number.Finite
  | none => ∀ specifications, field raw "specifications" = .obj specifications →
      (firstTrue specifications specificationKeys).truthy = true →
        FirstIntShort python (str python (firstTrue specifications specificationKeys)).toList

theorem reads_specified (raw : Raw) (keys specificationKeys : List String) :
    Reads (specified python raw keys specificationKeys)
      (SpecifiedReads python raw keys specificationKeys) := by
  unfold specified SpecifiedReads
  cases hnumber : firstNumber raw keys with
  | some number => exact number.reads_toInt.map some
  | none =>
      simp only
      split
      · next specifications hspecifications =>
        by_cases htruthy : (firstTrue specifications specificationKeys).truthy = true
        · rw [if_pos htruthy]
          refine (reads_firstInt python _).congr ⟨?_, fun h => h _ hspecifications htruthy⟩
          intro h other hother _
          obtain rfl := Json.obj.inj (hspecifications.symm.trans hother)
          exact h
        · rw [if_neg htruthy]
          refine (reads_ok _).congr ⟨?_, fun _ => trivial⟩
          intro _ other hother h
          obtain rfl := Json.obj.inj (hspecifications.symm.trans hother)
          exact absurd h htruthy
      · next hspecifications =>
        exact (reads_ok _).congr
          ⟨fun _ specifications h => absurd h (hspecifications specifications), fun _ => trivial⟩

/-- A field that is not specified. -/
def Missing (raw : Raw) (keys specificationKeys : List String) : Prop :=
  firstNumber raw keys = none ∧ ∀ specifications, field raw "specifications" = .obj specifications →
    (firstTrue specifications specificationKeys).truthy = true → ∀ digits more rest,
      Regex.searchGroups [.plus (digit python.chars)]
        (str python (firstTrue specifications specificationKeys)).toList ≠
          some (digits :: more, rest)

theorem map_some_ne_none {x : Except Failure ℤ} : x.map some ≠ .ok none := by
  cases x <;> exact nofun

theorem specified_eq_none_iff {raw : Raw} {keys specificationKeys : List String} :
    specified python raw keys specificationKeys = .ok none ↔
      Missing python raw keys specificationKeys := by
  unfold specified Missing
  cases hnumber : firstNumber raw keys with
  | some number => exact ⟨fun h => absurd h map_some_ne_none, fun h => absurd h.1 nofun⟩
  | none =>
      simp only [true_and]
      split
      · next specifications hspecifications =>
        have hobj : ∀ other, field raw "specifications" = .obj other → other = specifications :=
          fun other hother => (Json.obj.inj (hspecifications.symm.trans hother)).symm
        by_cases htruthy : (firstTrue specifications specificationKeys).truthy = true
        · rw [if_pos htruthy, firstInt]
          split
          · next digits more rest h =>
            exact ⟨fun heq => absurd heq map_some_ne_none,
              fun hmissing => absurd h (hmissing _ hspecifications htruthy _ _ _)⟩
          · next h =>
            refine ⟨fun _ other hother _ => ?_, fun _ => rfl⟩
            obtain rfl := hobj other hother
            exact h
        · rw [if_neg htruthy]
          refine ⟨fun _ other hother h => ?_, fun _ => rfl⟩
          obtain rfl := hobj other hother
          exact absurd h htruthy
      · next hspecifications =>
        exact ⟨fun _ specifications h => absurd h (hspecifications specifications), fun _ => rfl⟩

/-- A field, or else the prompt. -/
theorem reads_orPrompt {found : Except Failure (Option ℤ)} {P Q S : Prop} {text : String}
    {search : List Char → Except Failure (Option ℤ)} (hfound : Reads found P)
    (hnone : found = .ok none ↔ Q) (hsearch : Reads (search text.toList) S) :
    Reads (orPrompt found text search) (P ∧ (Q → text ≠ "" → S)) := by
  cases found with
  | error e =>
      have hP : ¬P := fun h => by
        obtain ⟨a, ha⟩ := hfound.returns h
        cases ha
      obtain ⟨message, h⟩ := hfound.raises hP
      cases h
      exact reads_error.congr ⟨False.elim, fun h => hP h.1⟩
  | ok value =>
      have hP : P := by
        by_contra h
        obtain ⟨message, hmessage⟩ := hfound.raises h
        cases hmessage
      cases value with
      | some n =>
          have hQ : ¬Q := fun h => by
            have := hnone.2 h
            cases this
          exact (reads_ok _).congr ⟨fun _ => ⟨hP, fun h => absurd h hQ⟩, fun _ => trivial⟩
      | none =>
          have hQ : Q := hnone.1 rfl
          show Reads (if text = "" then .ok none else search text.toList) _
          split_ifs with hempty
          · exact (reads_ok _).congr ⟨fun _ => ⟨hP, fun _ h => absurd hempty h⟩, fun _ => trivial⟩
          · exact hsearch.congr ⟨fun h => ⟨hP, fun _ _ => h⟩, fun h => h.2 hQ hempty⟩

/-- The digits that a prompt has for the memory are short enough. -/
def PromptMemoryReads (text : List Char) : Prop :=
  FirstRunShort (memoryBefore python.chars) text ∧
    ((∀ digits more rest,
      Regex.searchGroups (memoryBefore python.chars) text ≠ some (digits :: more, rest)) →
      ∀ a b c d digits more rest, Regex.searchGroups (memoryBehind python.chars) text =
        some (a :: b :: c :: d :: digits :: more, rest) → digits.length ≤ 4300)

theorem reads_promptMemory (text : List Char) :
    Reads (promptMemory python text) (PromptMemoryReads python text) := by
  unfold promptMemory PromptMemoryReads FirstRunShort
  split
  · next digits more rest h =>
    rw [h]
    refine ((reads_intOfDigits python digits).map some).congr ⟨fun hshort => ⟨?_, ?_⟩, ?_⟩
    · rintro _ _ _ ⟨⟩
      exact hshort
    · exact fun hnone => absurd rfl (hnone digits more rest)
    · exact fun hall => hall.1 _ _ _ rfl
  · next hnone =>
    split
    · next a b c d digits more rest h =>
      rw [h]
      refine ((reads_intOfDigits python digits).map some).congr
        ⟨fun hshort => ⟨?_, fun _ => ?_⟩, ?_⟩
      · exact fun _ _ _ heq => absurd heq (hnone _ _ _)
      · rintro _ _ _ _ _ _ _ ⟨⟩
        exact hshort
      · exact fun hall => hall.2 hnone _ _ _ _ _ _ _ rfl
    · next hbehind =>
      refine (reads_ok _).congr ⟨fun _ => ⟨?_, ?_⟩, fun _ => trivial⟩
      · exact fun _ _ _ heq => absurd heq (hnone _ _ _)
      · exact fun _ a b c d digits more rest heq => absurd heq (hbehind a b c d digits more rest)

theorem reads_promptStorage (text : List Char) :
    Reads (promptStorage python text) (FirstRunShort (storagePattern python.chars) text) := by
  unfold promptStorage FirstRunShort
  split
  · next digits more rest h =>
    rw [h]
    refine ((reads_intOfDigits python digits).map _).congr ⟨?_, fun hall => hall _ _ _ rfl⟩
    rintro hshort _ _ _ ⟨⟩
    exact hshort
  · next h =>
    exact (reads_ok _).congr ⟨fun _ digits more rest heq => absurd heq (h digits more rest),
      fun _ => trivial⟩

/-- The delivery time can be converted. -/
def DeliveryReads (raw : Raw) : Prop :=
  match firstNumber raw ["max_delivery_days", "delivery_days", "delivery_max_days",
      "delivery_max"] with
  | some number => number.Finite
  | none => (field raw "delivery").truthy = true →
      Strings.contains "fast".toList (python.lower (str python (field raw "delivery"))).toList =
        false → FirstIntShort python (str python (field raw "delivery")).toList

theorem reads_maxDeliveryDays (raw : Raw) :
    Reads (maxDeliveryDays python raw) (DeliveryReads python raw) := by
  unfold maxDeliveryDays DeliveryReads
  cases hnumber : firstNumber raw ["max_delivery_days", "delivery_days", "delivery_max_days",
      "delivery_max"] with
  | some number => exact number.reads_toInt.map some
  | none =>
      simp only
      by_cases htruthy : (field raw "delivery").truthy = true
      · rw [if_pos htruthy]
        by_cases hfast : Strings.contains "fast".toList
            (python.lower (str python (field raw "delivery"))).toList = true
        · rw [if_pos hfast]
          refine (reads_ok _).congr ⟨fun _ _ h => ?_, fun _ => trivial⟩
          exact Bool.noConfusion (hfast.symm.trans h)
        · rw [if_neg hfast]
          exact (reads_firstInt python _).congr
            ⟨fun h _ _ => h, fun h => h htruthy (Bool.eq_false_iff.2 hfast)⟩
      · rw [if_neg htruthy]
        exact (reads_ok _).congr ⟨fun _ h => absurd h htruthy, fun _ => trivial⟩

/-- `int` converts a value. -/
def IntReads : Json → Prop
  | .bool _ | .int _ => True
  | .float r => (Number.real (double r)).Finite
  | .str s => (intOfText python.chars s.toList).isSome = true
  | .null | .arr _ | .obj _ => False

theorem reads_intOf (value : Json) : Reads (intOf python.chars value) (IntReads python value) := by
  cases value with
  | bool b => exact reads_ok _
  | int n => exact reads_ok _
  | float r => exact Number.reads_toInt (.real (double r))
  | str s =>
      show Reads ((intOfText python.chars s.toList).elim _ _)
        ((intOfText python.chars s.toList).isSome = true)
      cases intOfText python.chars s.toList with
      | none => exact reads_error.congr ⟨False.elim, fun h => Bool.noConfusion h⟩
      | some n => exact (reads_ok _).congr ⟨fun _ => rfl, fun _ => trivial⟩
  | null => exact reads_error
  | arr items => exact reads_error
  | obj items => exact reads_error

/-! ### The budget -/

/-- The currency is one of the two, or none at all. -/
def Supported (value : Json) : Prop :=
  value.truthy = true → String.ofList ((Strings.strip (str python value).toList).flatMap
    python.chars.upper) ∈ ["", "INR", "USD"]

/-- A currency is narrowed or refused with a domain error. -/
theorem narrowCurrency_cases (value : Json) :
    (Supported python value ∧ ∃ currency, narrowCurrency python value = .ok currency) ∨
      (¬ Supported python value ∧
        ∃ error, narrowCurrency python value = .error (.domain error)) := by
  unfold narrowCurrency Supported
  by_cases htruthy : value.truthy = true
  · simp only [htruthy, if_true, forall_const, List.mem_cons, List.not_mem_nil, or_false]
    split_ifs with hinr husd
    · refine .inl ⟨?_, _, rfl⟩
      rcases hinr with h | h
      · exact .inl h
      · exact .inr (.inl h)
    · exact .inl ⟨.inr (.inr husd), _, rfl⟩
    · refine .inr ⟨?_, _, rfl⟩
      rintro (h | h | h)
      · exact hinr (.inl h)
      · exact hinr (.inr h)
      · exact husd h
  · simp only [htruthy]
    exact .inl ⟨fun h => absurd h (by rintro ⟨⟩), _, rfl⟩

/-- Whatever number is read of a budget can be converted. -/
def BudgetConvertible (raw : Raw) (text : String) : Prop :=
  ∀ number, budgetNumber python raw text = some number → number.Convertible

theorem reads_budgetMinor (raw : Raw) (text : String) :
    Reads (budgetMinor python raw text) (BudgetConvertible python raw text) := by
  unfold budgetMinor BudgetConvertible
  cases budgetNumber python raw text with
  | none => exact (reads_ok _).congr ⟨fun _ => nofun, fun _ => trivial⟩
  | some number =>
      refine (number.reads_minorUnits.map some).congr ⟨?_, fun h => h _ rfl⟩
      rintro h _ ⟨⟩
      exact h

/-- The sign of the budget. -/
theorem budgetMinor_nonneg_iff {raw : Raw} {text : String} {n : ℤ}
    (h : budgetMinor python raw text = .ok (some n)) :
    0 ≤ n ↔ ∀ number, budgetNumber python raw text = some number → number.NotNegative := by
  unfold budgetMinor at h
  cases hnumber : budgetNumber python raw text with
  | none =>
      rw [hnumber] at h
      cases h
  | some number =>
      rw [hnumber] at h
      have hn : number.minorUnits = .ok n := by
        cases hminor : number.minorUnits with
        | error e =>
            simp only [hminor] at h
            cases h
        | ok m =>
            simp only [hminor] at h
            cases h
            rfl
      rw [Number.minorUnits_nonneg_iff hn]
      refine ⟨?_, fun hall => hall _ rfl⟩
      rintro hsign _ ⟨⟩
      exact hsign

/-- The constraints of the answer are refused with a domain error: those it has do not pass the
schema, or the currency is not supported. -/
def FinancialRefused (raw : Raw) (text : String) : Prop :=
  match givenFinancial raw with
  | some items => Strict.financial (.obj items) = none
  | none => BudgetConvertible python raw text ∧
      ¬ Supported python (entryCurrency raw (budgetEntry raw budgetKeys))

/-- The constraints can be read. -/
def FinancialReads (raw : Raw) (text : String) : Prop :=
  match givenFinancial raw with
  | some items => (Strict.financial (.obj items)).isSome = true
  | none => BudgetConvertible python raw text ∧
      (∀ number, budgetNumber python raw text = some number → number.NotNegative) ∧
      Supported python (entryCurrency raw (budgetEntry raw budgetKeys))

/-- The three ends of a reading. -/
def Ends {α : Type} (x : Except Failure α) (read refused : Prop) : Prop :=
  (read ∧ ¬refused ∧ ∃ a, x = .ok a) ∨ (refused ∧ ∃ error, x = .error (.domain error)) ∨
    (¬read ∧ ¬refused ∧ ∃ message, x = .error (.exception message))

/-- **How the constraints that are put together end.** -/
theorem extractFinancial_ends (raw : Raw) (text : String) :
    Ends (extractFinancial python raw text)
      (BudgetConvertible python raw text ∧
        (∀ number, budgetNumber python raw text = some number → number.NotNegative) ∧
        Supported python (entryCurrency raw (budgetEntry raw budgetKeys)))
      (BudgetConvertible python raw text ∧
        ¬ Supported python (entryCurrency raw (budgetEntry raw budgetKeys))) := by
  have hbudget := reads_budgetMinor python raw text
  by_cases hconvertible : BudgetConvertible python raw text
  · obtain ⟨minor, hminor⟩ := hbudget.returns hconvertible
    rcases narrowCurrency_cases python (entryCurrency raw (budgetEntry raw budgetKeys)) with
      ⟨hsupported, currency, hcurrency⟩ | ⟨hsupported, error, hcurrency⟩
    · have hrefused : ¬(BudgetConvertible python raw text ∧
          ¬ Supported python (entryCurrency raw (budgetEntry raw budgetKeys))) :=
        fun h => h.2 hsupported
      cases minor with
      | none =>
          have hnumber : ∀ number, budgetNumber python raw text ≠ some number := by
            intro number h
            rw [budgetMinor, h] at hminor
            exact map_some_ne_none hminor
          refine .inl ⟨⟨hconvertible, fun number h => absurd h (hnumber number), hsupported⟩,
            hrefused, { budgetMinor := none, currency := some currency }, ?_⟩
          rw [extractFinancial, hminor, hcurrency]
          rfl
      | some n =>
          have hsign := budgetMinor_nonneg_iff python hminor
          by_cases hnonneg : 0 ≤ n
          · refine .inl ⟨⟨hconvertible, hsign.1 hnonneg, hsupported⟩, hrefused,
              { budgetMinor := some ⟨n, hnonneg⟩, currency := some currency }, ?_⟩
            rw [extractFinancial, hminor, hcurrency]
            exact dif_pos hnonneg
          · refine .inr (.inr ⟨fun h => hnonneg (hsign.2 h.2.1), hrefused,
              python.refusal [("budget_minor", .int n), ("currency", .str currency.value)], ?_⟩)
            rw [extractFinancial, hminor, hcurrency]
            exact dif_neg hnonneg
    · refine .inr (.inl ⟨⟨hconvertible, hsupported⟩, error, ?_⟩)
      rw [extractFinancial, hminor, hcurrency]
      rfl
  · obtain ⟨message, hmessage⟩ := hbudget.raises hconvertible
    refine .inr (.inr ⟨fun h => hconvertible h.1, fun h => hconvertible h.1, message, ?_⟩)
    rw [extractFinancial, hmessage]
    rfl

/-- **How the financial constraints end.** -/
theorem financial_ends (raw : Raw) (text : String) :
    Ends (financial python raw text) (FinancialReads python raw text)
      (FinancialRefused python raw text) := by
  unfold financial FinancialReads FinancialRefused
  cases givenFinancial raw with
  | some items =>
      simp only
      cases hstrict : Strict.financial (.obj items) with
      | none => exact .inr (.inl ⟨rfl, _, rfl⟩)
      | some constraints => exact .inl ⟨rfl, nofun, constraints, rfl⟩
  | none => exact extractFinancial_ends python raw text

end

/-! ### The whole answer -/

section

variable (python : Python)

/-- The memory can be converted: what is specified, or else what the prompt asks for. -/
def MemoryReads (raw : Raw) (text : String) : Prop :=
  SpecifiedReads python raw ["min_memory_gb", "ram_gb", "ram", "memory_gb", "memory"]
      ["RAM", "memory", "ram"] ∧
    (Missing python raw ["min_memory_gb", "ram_gb", "ram", "memory_gb", "memory"]
      ["RAM", "memory", "ram"] → text ≠ "" → PromptMemoryReads python text.toList)

theorem reads_minMemoryGb (raw : Raw) (text : String) :
    Reads (minMemoryGb python raw text) (MemoryReads python raw text) :=
  reads_orPrompt (reads_specified python _ _ _) (specified_eq_none_iff python)
    (reads_promptMemory python _)

/-- The storage can be converted, in the same way. -/
def StorageReads (raw : Raw) (text : String) : Prop :=
  SpecifiedReads python raw ["min_storage_gb", "storage_gb", "ssd_gb", "storage", "ssd", "rom"]
      ["storage", "SSD", "storage_gb"] ∧
    (Missing python raw ["min_storage_gb", "storage_gb", "ssd_gb", "storage", "ssd", "rom"]
      ["storage", "SSD", "storage_gb"] → text ≠ "" →
        FirstRunShort (storagePattern python.chars) text.toList)

theorem reads_minStorageGb (raw : Raw) (text : String) :
    Reads (minStorageGb python raw text) (StorageReads python raw text) :=
  reads_orPrompt (reads_specified python _ _ _) (specified_eq_none_iff python)
    (reads_promptStorage python _)

/-- The quantity can be converted; without one it is one. -/
def QuantityReads (raw : Raw) : Prop :=
  IntReads python ((field raw "quantity").orElse (.int 1))

theorem reads_quantity (raw : Raw) : Reads (quantity python raw) (QuantityReads python raw) :=
  reads_intOf python _

/-- Every conversion after the financial constraints is possible. -/
structure FieldsRead (raw : Raw) (text : String) : Prop where
  memory : MemoryReads python raw text
  storage : StorageReads python raw text
  delivery : DeliveryReads python raw
  quantity : QuantityReads python raw

/-- What comes after the financial constraints. -/
theorem controlled_fields_iff (raw : Raw) (text : String)
    (build : Option ℤ → Option ℤ → Option ℤ → ℤ → Except Failure IntentV1)
    (hbuild : ∀ memory storage delivery quantity,
      Controlled (build memory storage delivery quantity)) :
    Controlled (do
      let memory ← minMemoryGb python raw text
      let storage ← minStorageGb python raw text
      let delivery ← maxDeliveryDays python raw
      let quantity ← quantity python raw
      build memory storage delivery quantity) ↔ FieldsRead python raw text := by
  rw [(reads_minMemoryGb python raw text).controlled_bind fun memory _ =>
    (reads_minStorageGb python raw text).controlled_bind fun storage _ =>
      (reads_maxDeliveryDays python raw).controlled_bind fun delivery _ =>
        (reads_quantity python raw).controlled_bind fun quantity _ =>
          iff_true_intro (hbuild memory storage delivery quantity)]
  constructor
  · rintro ⟨hmemory, hstorage, hdelivery, hquantity, -⟩
    exact ⟨hmemory, hstorage, hdelivery, hquantity⟩
  · rintro ⟨hmemory, hstorage, hdelivery, hquantity⟩
    exact ⟨hmemory, hstorage, hdelivery, hquantity, trivial⟩

/-- **When the validator keeps to its errors**: the financial constraints are refused with a domain
error, or they and every field after them can be converted. -/
theorem validateDict_controlled_iff (raw : Raw) (prompt : Option String) :
    Controlled (validateDict python raw prompt) ↔
      FinancialRefused python raw (promptText python raw prompt) ∨
        FinancialReads python raw (promptText python raw prompt) ∧
          FieldsRead python raw (promptText python raw prompt) := by
  unfold validateDict
  rcases financial_ends python raw (promptText python raw prompt) with
    ⟨hreads, hrefused, constraints, h⟩ | ⟨hrefused, error, h⟩ | ⟨hreads, hrefused, message, h⟩
  · simp only [h]
    refine (controlled_fields_iff python raw _ _ fun memory storage delivery quantity => ?_).trans
      ⟨fun hfields => .inr ⟨hreads, hfields⟩, fun hor => (hor.resolve_left hrefused).2⟩
    cases construct (query python raw) (category python raw (promptText python raw prompt))
      constraints memory storage delivery quantity with
    | none => exact .inr ⟨_, rfl⟩
    | some intent => exact .inl ⟨intent, rfl⟩
  · simp only [h]
    exact ⟨fun _ => .inl hrefused, fun _ => .inr ⟨error, rfl⟩⟩
  · simp only [h]
    exact ⟨fun hcontrolled => absurd hcontrolled not_controlled_exception,
      fun hor => hor.elim (fun h => absurd h hrefused) fun h => absurd h.1 hreads⟩

end

/-! ### A quantity in words -/

/-- Python on ASCII texts. -/
def asciiPython : Python where
  chars := Money.asciiCharset
  lower text := String.ofList (text.toList.map Char.toLower)
  repr _ := "[]"
  refusal _ := "refused"
  lower_empty := rfl

/-- **A quantity in words ends in an exception** that is no domain error. -/
theorem word_escapes : ¬ ∀ (python : Python) (raw : Raw) (prompt : Option String),
    Controlled (validateDict python raw prompt) := by
  intro h
  have hword := (validateDict_controlled_iff _ _ _).1
    (h asciiPython [("quantity", .str "two")] none)
  have hquantity : ¬ (intOfText Money.asciiCharset "two".toList).isSome = true := by decide
  rcases hword with hrefused | ⟨-, hfields⟩
  · refine hrefused.2 fun htruthy => ?_
    cases htruthy
  · exact hquantity hfields.quantity

end Intent
end Agent
end AgenticCommerce
