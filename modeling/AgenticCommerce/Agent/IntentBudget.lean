/-
# The budget of an intent

What `validate_dict` makes of a budget that the answer of the model or the prompt states.  Below one
million the amount is taken for rupees and multiplied by a hundred, from one million on it is taken
for paise as it is; the product of a float is cut off, not rounded; of a number in the prompt only
the whole part is read; and a zero in a nested object counts as no amount.

So the budget is a hundred times the stated amount exactly under `Kept`, and one million rupees
become a smaller budget than 999,999 do (`million_shrinks`).
-/

import AgenticCommerce.Agent.IntentErrors

namespace AgenticCommerce
namespace Agent
namespace Intent

open Pipeline (PyFloat intOfFloat)
open Strict (field)

/-! ### Stated amounts -/

/-- A budget as it is stated: an integer or a decimal number of the answer, or digits in the prompt,
with a fraction and a unit. -/
inductive Statement where
  | whole (n : ℤ)
  | decimal (text : String)
  | words (digits fraction unit : List Char)

section

variable (python : Python)

/-- The value of digits behind a point. -/
def fractionValue (digits : List Char) : ℚ :=
  Money.number python.chars digits / 10 ^ digits.length

/-- The amount that is stated, in major units. -/
def Statement.amount : Statement → Option ℚ
  | whole n => some n
  | decimal text => decimalValue text.toList
  | words digits fraction unit => some
      ((Money.number python.chars digits + fractionValue python fraction) *
        multiplier python unit)

/-- A number of the answer as a statement. -/
def Statement.ofJson : Json → Option Statement
  | .int n => some (.whole n)
  | .float text => some (.decimal text)
  | _ => none

/-- The first value under some names that is not null. -/
def firstPresent (items : Raw) : List String → Json
  | [] => .null
  | key :: keys => if field items key = .null then firstPresent items keys else field items key

/-- The unit at the start of a text, behind white space. -/
def unitOf (text : List Char) : List Char :=
  match (Regex.groups ((ceilingPattern python.chars).drop 5) text).head? with
  | some ([_, unit], _) => unit
  | _ => []

/-- The price ceiling that a prompt states: a number after a word such as `under`, with the fraction
and the unit that follow. -/
def promptStatement (text : List Char) : Option Statement :=
  match Regex.searchGroups (ceilingPattern python.chars) text with
  | some ([_, _, _, _, amount, between, unit], rest) =>
      let digits := amount.filter (· ≠ ',')
      let fraction := match rest with
        | '.' :: more => more.takeWhile (digit python.chars)
        | _ => []
      if digits = [] then none
      else if between = [] ∧ unit = [] ∧ fraction ≠ [] then
        some (.words digits fraction (unitOf python (rest.drop (fraction.length + 1))))
      else some (.words digits [] unit)
  | _ => none

/-- The budget that is stated: under the first name of a budget that has a number or an object, in
such an object under the first name of an amount, and without any of them in the prompt. -/
def statement (raw : Raw) (text : String) : Option Statement :=
  let ofPrompt := if text = "" then none else promptStatement python text.toList
  match budgetEntry raw budgetKeys with
  | some (.obj items) =>
      if firstPresent items amountKeys = .null then ofPrompt
      else Statement.ofJson (firstPresent items amountKeys)
  | some value => Statement.ofJson value
  | none => ofPrompt

/-- An answer and a prompt state a budget of so many rupees or dollars. -/
structure States (raw : Raw) (text : String) (s : Statement) (a : ℚ) : Prop where
  noObject : givenFinancial raw = none
  stated : statement python raw text = some s
  amount : s.amount python = some a

/-! ### When the amount is kept -/

/-- Nothing is left of a number once it is in minor units. -/
def Number.Negligible : Number → Prop
  | whole n => n = 0
  | real (.finite q) => |q * 100| < 1 - halfGap 1
  | real _ => False

/-- **When a statement of a positive amount is kept**: the amount is below one million; a decimal
number has at most two decimals, and its float does not fall short of it by more than rounding makes
up for; a number in the prompt has no fraction, or one that is worth nothing. -/
def Statement.Kept (a : ℚ) : Statement → Prop
  | whole _ => a < 1000000
  | decimal _ => a < 1000000 ∧ ∃ n : ℕ, 100 * a = n ∧ 100 * (a - nearest a) ≤ halfGap n
  | words _ fraction unit => a < 1000000 ∧
      (fraction = [] ∨ fractionValue python fraction = 0 ∧ multiplier python unit = 1)

/-- When a budget is kept; of a zero, whatever number is read instead is worth nothing. -/
def Kept (raw : Raw) (text : String) (s : Statement) (a : ℚ) : Prop :=
  if a = 0 then ∃ number, budgetNumber python raw text = some number ∧ number.Negligible
  else s.Kept python a

end

/-! ### What a number is converted to -/

section

variable {python : Python}

theorem one_le_multiplier (unit : List Char) : 1 ≤ multiplier python unit := by
  unfold multiplier
  simp only
  split_ifs <;> omega

theorem nearest_lt_two_pow_of_lt {q : ℚ} (h : 0 ≤ q) (hlt : q < 1000000) :
    |nearest (q * 100)| < 2 ^ 1024 := by
  have hmono := nearest_mono (by linarith : 0 ≤ q * 100)
    (by norm_num; linarith : q * 100 ≤ ((100000000 : ℕ) : ℚ))
  rw [nearest_natCast (by norm_num)] at hmono
  rw [abs_of_nonneg (nearest_nonneg (by linarith))]
  calc nearest (q * 100) ≤ ((100000000 : ℕ) : ℚ) := hmono
    _ < 2 ^ 27 := by norm_num
    _ ≤ 2 ^ 1024 := pow_le_pow_right₀ one_le_two (by omega)

/-- A float from zero on, below one million. -/
theorem minorUnits_small {q : ℚ} (h : 0 ≤ q) (hlt : q < 1000000) :
    (Number.real (.finite q)).minorUnits = .ok ⌊nearest (q * 100)⌋ := by
  rw [Number.minorUnits_finite, if_pos hlt, rounded, if_pos (nearest_lt_two_pow_of_lt h hlt)]
  exact congrArg Except.ok (truncate_of_nonneg (nearest_nonneg (by linarith)))

/-- And from one million on. -/
theorem minorUnits_large {q : ℚ} (h : 1000000 ≤ q) :
    (Number.real (.finite q)).minorUnits = .ok ⌊q⌋ := by
  rw [Number.minorUnits_finite, if_neg (not_lt.2 h), truncate_of_nonneg (by linarith)]

theorem finite_of_minorUnits {x : PyFloat} {n : ℤ} (h : (Number.real x).minorUnits = .ok n) :
    ∃ q, x = .finite q := by
  cases x with
  | finite q => exact ⟨q, rfl⟩
  | infinite negative => cases negative <;> cases h
  | nan => cases h

theorem eq_of_rounded {q r : ℚ} (h : rounded q = .finite r) : r = nearest q := by
  unfold rounded at h
  split_ifs at h
  exact (PyFloat.finite.inj h).symm

/-- **The integer that a negligible number becomes.** -/
theorem minorUnits_eq_zero_iff {number : Number} {n : ℤ} (h : number.minorUnits = .ok n) :
    n = 0 ↔ number.Negligible := by
  cases number with
  | whole m =>
      obtain rfl := Except.ok.inj h
      show (if m < 1000000 then m * 100 else m) = 0 ↔ m = 0
      split_ifs <;> omega
  | real x =>
      obtain ⟨q, rfl⟩ := finite_of_minorUnits h
      have hgap : halfGap 1 < 1 := by norm_num [halfGap]
      have hsign := Number.minorUnits_nonneg_iff h
      rw [Number.Negligible, abs_lt]
      rw [Number.NotNegative] at hsign
      rcases lt_or_ge q 1000000 with hsmall | hlarge
      · rcases le_total 0 q with hq | hq
        · rw [minorUnits_small hq hsmall] at h
          obtain rfl := Except.ok.inj h
          have hone := le_nearest_iff Nat.one_pos (by omega) (by linarith : 0 ≤ q * 100)
          rw [Nat.cast_one] at hone
          rw [Int.floor_eq_zero_iff, Set.mem_Ico]
          constructor
          · rintro ⟨-, hlt⟩
            refine ⟨by linarith, ?_⟩
            by_contra hnot
            linarith [hone.2 (by linarith)]
          · rintro ⟨-, hlt⟩
            refine ⟨nearest_nonneg (by linarith), ?_⟩
            by_contra hnot
            linarith [hone.1 (by linarith)]
        · have hle : n ≤ 0 := by
            have hneg : nearest (q * 100) ≤ 0 := by
              have := nearest_nonneg (by linarith : 0 ≤ -(q * 100))
              rw [nearest_neg] at this
              linarith
            rw [Number.minorUnits_finite, if_pos hsmall, rounded] at h
            split_ifs at h
            · obtain rfl := Except.ok.inj h
              rw [← neg_neg (nearest (q * 100)), truncate_neg,
                truncate_of_nonneg (by linarith), neg_nonpos]
              exact Int.floor_nonneg.2 (by linarith)
            · cases h
          constructor
          · rintro rfl
            exact ⟨hsign.1 le_rfl, by linarith⟩
          · rintro ⟨hlt, -⟩
            have := hsign.2 hlt
            omega
      · rw [minorUnits_large hlarge] at h
        obtain rfl := Except.ok.inj h
        have hfloor : 1000000 ≤ ⌊q⌋ := Int.le_floor.2 (by exact_mod_cast hlarge)
        constructor
        · intro hzero
          omega
        · rintro ⟨-, hlt⟩
          linarith [halfGap_pos 1]

/-- **A decimal number**: what its float becomes is a hundred times the number exactly when it is
kept. -/
theorem decimal_kept_iff {a : ℚ} (hpos : 0 < a) {n : ℤ}
    (h : (Number.real (rounded a)).minorUnits = .ok n) {text : String} :
    (n : ℚ) = 100 * a ↔ (Statement.decimal text).Kept python a := by
  obtain ⟨q, hq⟩ := finite_of_minorUnits h
  rw [hq] at h
  obtain rfl := eq_of_rounded hq
  have hnonneg := nearest_nonneg hpos.le
  -- a number with two decimals below one million stays below it
  have hbelow : ∀ m : ℕ, a < 1000000 → 100 * a = m →
      nearest a < 1000000 ∧ 100 * nearest a ≤ m + 1 / 2 := by
    intro m hlt hm
    have hm' : m ≤ 99999999 := by
      have : (m : ℚ) < 100000000 := by linarith
      have : m < 100000000 := by exact_mod_cast this
      omega
    have hadd := nearest_le_add hpos (k := 20) (by norm_num; linarith) (by omega)
    have hmq : (m : ℚ) ≤ 99999999 := by exact_mod_cast hm'
    norm_num at hadd
    constructor <;> linarith
  rcases lt_or_ge (nearest a) 1000000 with hsmall | hlarge
  · rw [minorUnits_small hnonneg hsmall] at h
    obtain rfl := Except.ok.inj h
    have ha : a < 1000000 := by
      by_contra hnot
      have hmono := nearest_mono (by norm_num) (not_lt.1 hnot)
      rw [show (1000000 : ℚ) = ((1000000 : ℕ) : ℚ) by norm_num,
        nearest_natCast (by norm_num)] at hmono
      norm_num at hmono
      linarith
    constructor
    · intro heq
      have hfloor : 0 ≤ ⌊nearest (nearest a * 100)⌋ :=
        Int.floor_nonneg.2 (nearest_nonneg (by linarith))
      obtain ⟨m, hm⟩ := Int.eq_ofNat_of_zero_le hfloor
      rw [hm, Int.cast_natCast] at heq
      have hmpos : 0 < m := by
        have : (0 : ℚ) < m := by linarith
        exact_mod_cast this
      have hmlt : m < 2 ^ 52 := by
        have : (m : ℚ) < 100000000 := by linarith
        have : m < 100000000 := by exact_mod_cast this
        omega
      refine ⟨ha, m, heq.symm, ?_⟩
      have hle : (m : ℚ) ≤ nearest (nearest a * 100) := by
        have := Int.floor_le (nearest (nearest a * 100))
        rwa [hm, Int.cast_natCast] at this
      have := (le_nearest_iff hmpos hmlt (by linarith)).1 hle
      linarith
    · rintro ⟨-, m, hm, hshort⟩
      have hmpos : 0 < m := by
        have : (0 : ℚ) < m := by linarith
        exact_mod_cast this
      have hmlt : m < 100000000 := by
        have : (m : ℚ) < 100000000 := by linarith
        exact_mod_cast this
      have hle : (m : ℚ) ≤ nearest (nearest a * 100) :=
        (le_nearest_iff hmpos (by omega) (by linarith)).2 (by linarith)
      have hmono := nearest_mono (by linarith : 0 ≤ nearest a * 100)
        (by linarith [(hbelow m ha hm).2] : nearest a * 100 ≤ m + 1 / 2)
      rw [nearest_add_half (by omega)] at hmono
      have hfloor : ⌊nearest (nearest a * 100)⌋ = m :=
        Int.floor_eq_iff.2 ⟨by exact_mod_cast hle, by push_cast; linarith⟩
      rw [hfloor, Int.cast_natCast, hm]
  · rw [minorUnits_large hlarge] at h
    obtain rfl := Except.ok.inj h
    constructor
    · intro heq
      have hone : 1 ≤ a := by
        by_contra hnot
        have hmono := nearest_mono hpos.le (not_le.1 hnot).le
        rw [show (1 : ℚ) = ((1 : ℕ) : ℚ) by norm_num, nearest_natCast (by norm_num)] at hmono
        norm_num at hmono
        linarith
      have hdouble := nearest_le_two_mul hone
      have hfloor := Int.floor_le (nearest a)
      linarith
    · rintro ⟨ha, m, hm, -⟩
      linarith [(hbelow m ha hm).1]

/-- What the digits of a prompt and a unit are worth. -/
theorem words_value {n k : ℕ} (hk : 1 ≤ k) {m : ℤ}
    (h : (Number.real (times k (rounded n))).minorUnits = .ok m) :
    if n * k < 1000000 then (m : ℚ) = 100 * (n * k : ℕ) else (m : ℚ) < 100 * (n * k : ℕ) := by
  obtain ⟨q, hq⟩ := finite_of_minorUnits h
  rw [hq] at h
  have hfirst : ∃ r, rounded n = .finite r := by
    cases hr : rounded n with
    | finite r => exact ⟨r, rfl⟩
    | infinite negative =>
        rw [hr] at hq
        cases hq
    | nan =>
        rw [hr] at hq
        cases hq
  obtain ⟨r, hr⟩ := hfirst
  rw [hr] at hq
  obtain rfl := eq_of_rounded hr
  obtain rfl := eq_of_rounded (q := nearest n * k) hq
  have hle : n ≤ n * k := Nat.le_mul_of_pos_right n hk
  split_ifs with hsmall
  · have hn : nearest n = n := nearest_natCast (by omega)
    have hproduct : nearest (nearest n * k) = ((n * k : ℕ) : ℚ) := by
      rw [hn, ← Nat.cast_mul, nearest_natCast (by omega)]
    have hlt : ((n * k : ℕ) : ℚ) < 1000000 := by exact_mod_cast hsmall
    rw [hproduct, minorUnits_small (Nat.cast_nonneg _) hlt] at h
    have hhundred : nearest (((n * k : ℕ) : ℚ) * 100) = ((n * k * 100 : ℕ) : ℚ) := by
      rw [show ((n * k : ℕ) : ℚ) * 100 = ((n * k * 100 : ℕ) : ℚ) by push_cast; ring,
        nearest_natCast (by omega)]
    rw [hhundred, Int.floor_natCast] at h
    obtain rfl := Except.ok.inj h
    push_cast
    ring
  · have hnpos : 1 ≤ n := by
      by_contra hzero
      rw [show n = 0 by omega, Nat.zero_mul] at hsmall
      omega
    have hkq : (1 : ℚ) ≤ k := by exact_mod_cast hk
    have hnq : (1 : ℚ) ≤ n := by exact_mod_cast hnpos
    have hlarge : 1000000 ≤ nearest (nearest n * k) := by
      have hfactor : (1000000 : ℚ) ≤ nearest n * k := by
        rcases lt_or_ge n (2 ^ 53) with hlt | hge
        · rw [nearest_natCast hlt]
          exact_mod_cast not_lt.1 hsmall
        · have hmono := nearest_mono (Nat.cast_nonneg (2 ^ 53 - 1))
            (by exact_mod_cast (by omega : 2 ^ 53 - 1 ≤ n) : ((2 ^ 53 - 1 : ℕ) : ℚ) ≤ n)
          rw [nearest_natCast (by norm_num)] at hmono
          norm_num at hmono
          nlinarith
      have hmono := nearest_mono (by norm_num : (0 : ℚ) ≤ 1000000) hfactor
      rwa [show (1000000 : ℚ) = ((1000000 : ℕ) : ℚ) by norm_num,
        nearest_natCast (by norm_num)] at hmono
    rw [minorUnits_large hlarge] at h
    obtain rfl := Except.ok.inj h
    have hone : 1 ≤ nearest n := by
      have hmono := nearest_mono (by norm_num : (0 : ℚ) ≤ 1) hnq
      rwa [show (1 : ℚ) = ((1 : ℕ) : ℚ) by norm_num, nearest_natCast (by norm_num)] at hmono
    have hdouble := nearest_le_two_mul hnq
    have houter : nearest (nearest n * k) ≤ 2 * (nearest n * k) :=
      nearest_le_two_mul (by nlinarith)
    have hfloor := Int.floor_le (nearest (nearest n * k))
    push_cast
    nlinarith

/-! ### What is read of a statement -/

/-- The number that is read of a statement. -/
def Statement.number (python : Python) : Statement → Number
  | whole n => .whole n
  | decimal text => .real (double text)
  | words digits fraction unit => .real (times
      (if fraction = [] then multiplier python unit else 1)
      (rounded (Money.number python.chars digits)))

theorem multiplier_nil : multiplier python [] = 1 := by
  have hlower : python.lower (String.ofList []) = "" := python.lower_empty
  unfold multiplier
  simp [hlower]

/-- **A prompt is read as it states**, but for the fraction. -/
theorem ceilingNumber_eq (text : List Char) : ceilingNumber python text =
    (promptStatement python text).map (Statement.number python) := by
  unfold ceilingNumber
  split
  · next first second third fourth amount between unit rest h =>
    simp only [promptStatement, h]
    by_cases hdigits : amount.filter (· ≠ ',') = []
    · rw [if_pos hdigits, if_pos hdigits]
      rfl
    · rw [if_neg hdigits, if_neg hdigits]
      split_ifs with hfraction
      · obtain ⟨-, hunit, hne⟩ := hfraction
        simp only [Option.map_some, Statement.number]
        rw [if_neg hne, hunit, multiplier_nil]
      · simp only [Option.map_some, Statement.number, if_true]
  · next h =>
    have hnone : promptStatement python text = none := by
      unfold promptStatement
      split
      · next first second third fourth amount between unit rest h' =>
        exact absurd h' (h first second third fourth amount between unit rest)
      · rfl
    rw [hnone, Option.map_none]

/-- Once a value counts as true, the others are not looked at. -/
theorem foldl_of_truthy {items : Raw} {value : Json} (h : value.truthy = true) :
    ∀ keys : List String,
      keys.foldl (fun value key => value.orElse (field items key)) value = value
  | [] => rfl
  | key :: keys => by
      rw [List.foldl_cons, Json.orElse, if_pos h]
      exact foldl_of_truthy h keys

/-- The first value that is there is taken, if it counts as true. -/
theorem firstTrue_of_present {items : Raw} : ∀ {keys : List String},
    (firstPresent items keys).truthy = true → firstTrue items keys = firstPresent items keys
  | [], h => by cases h
  | key :: keys, h => by
      rw [firstPresent] at h ⊢
      have hcons : firstTrue items (key :: keys) =
        keys.foldl (fun value key => value.orElse (field items key)) (field items key) := rfl
      split_ifs at h ⊢ with hnull
      · rw [hcons, hnull]
        exact firstTrue_of_present h
      · rw [hcons]
        exact foldl_of_truthy h keys

/-- Where nothing is there, nothing is taken. -/
theorem firstTrue_of_absent {items : Raw} : ∀ {keys : List String},
    firstPresent items keys = .null → firstTrue items keys = .null
  | [], _ => rfl
  | key :: keys, h => by
      rw [firstPresent] at h
      split_ifs at h with hnull
      · have hcons : firstTrue items (key :: keys) =
          keys.foldl (fun value key => value.orElse (field items key)) (field items key) := rfl
        rw [hcons, hnull]
        exact firstTrue_of_absent h
      · exact absurd h hnull

/-- What is stated by a value of the answer, when it is not zero. -/
theorem number?_of_ofJson {value : Json} {s : Statement} (h : Statement.ofJson value = some s) :
    number? value = some (s.number python) := by
  cases value with
  | int n =>
      obtain rfl := Option.some.inj h
      rfl
  | float text =>
      obtain rfl := Option.some.inj h
      rfl
  | _ => cases h

/-- A value that states an amount other than zero counts as true. -/
theorem truthy_of_ofJson {value : Json} {s : Statement} (h : Statement.ofJson value = some s)
    {a : ℚ} (hamount : s.amount python = some a) (ha : a ≠ 0) : value.truthy = true := by
  cases value with
  | int n =>
      obtain rfl := Option.some.inj h
      obtain rfl := Option.some.inj hamount
      simpa [Json.truthy] using ha
  | float text =>
      obtain rfl := Option.some.inj h
      have hne : ∀ zero, decimalValue zero.toList = some 0 → text ≠ zero := by
        rintro _ hzero rfl
        have hsome : decimalValue text.toList = some a := hamount
        exact ha (Option.some.inj (hsome.symm.trans hzero))
      have hplus : decimalValue "0.0".toList = some 0 := by
        simp [decimalValue, unsignedValue, exponentValue, Json.readNat]
      have hminus : decimalValue "-0.0".toList = some 0 := by
        simp [decimalValue, unsignedValue, exponentValue, Json.readNat]
      simp [Json.truthy, hne _ hplus, hne _ hminus]
  | _ => cases h

/-- **What is read of a statement of an amount other than zero.** -/
theorem budgetNumber_of_states {raw : Raw} {text : String} {s : Statement} {a : ℚ}
    (h : States python raw text s a) (ha : a ≠ 0) :
    budgetNumber python raw text = some (s.number python) := by
  have hstated := h.stated
  have hprompt : ∀ {entry : Option Number}, entry = none →
      (if text = "" then none else promptStatement python text.toList) = some s →
      entry.or (if text = "" then none else ceilingNumber python text.toList) =
        some (s.number python) := by
    rintro _ rfl hs
    rw [Option.none_or]
    split_ifs at hs ⊢
    rw [ceilingNumber_eq, hs]
    rfl
  unfold statement at hstated
  unfold budgetNumber
  cases hentry : budgetEntry raw budgetKeys with
  | none =>
      rw [hentry] at hstated
      exact hprompt rfl hstated
  | some value =>
      rw [hentry] at hstated
      cases value with
      | obj items =>
          simp only at hstated
          by_cases hnull : firstPresent items amountKeys = .null
          · rw [if_pos hnull] at hstated
            refine hprompt ?_ hstated
            rw [entryNumber, firstTrue_of_absent hnull]
            rfl
          · rw [if_neg hnull] at hstated
            have htrue := truthy_of_ofJson hstated h.amount ha
            rw [entryNumber, firstTrue_of_present htrue, number?_of_ofJson hstated]
            rfl
      | int n =>
          rw [entryNumber, number?_of_ofJson hstated]
          · rfl
          · intro items hitems
            cases hitems
      | float text' =>
          rw [entryNumber, number?_of_ofJson hstated]
          · rfl
          · intro items hitems
            cases hitems
      | null => cases hstated
      | bool b => cases hstated
      | str t => cases hstated
      | arr l => cases hstated

/-- **The integer that a positive amount becomes.** -/
theorem statement_kept_iff {s : Statement} {a : ℚ} (hamount : s.amount python = some a)
    (hpos : 0 < a) {n : ℤ} (h : (s.number python).minorUnits = .ok n) :
    (n : ℚ) = 100 * a ↔ s.Kept python a := by
  cases s with
  | whole m =>
      obtain rfl := Option.some.inj hamount
      obtain rfl := Except.ok.inj h
      have hm : 0 < m := by exact_mod_cast hpos
      have hkept : (Statement.whole m).Kept python m ↔ m < 1000000 := by
        show (m : ℚ) < 1000000 ↔ m < 1000000
        norm_cast
      rw [hkept]
      split_ifs with hsmall
      · refine ⟨fun _ => hsmall, fun _ => ?_⟩
        push_cast
        ring
      · refine ⟨fun heq => ?_, fun h => absurd h hsmall⟩
        have : (m : ℚ) = (100 * m : ℤ) := by
          push_cast
          exact heq
        have : m = 100 * m := by exact_mod_cast this
        omega
  | decimal text =>
      have hdouble : double text = rounded a := by
        rw [double, show decimalValue text.toList = some a from hamount]
      rw [Statement.number, hdouble] at h
      exact decimal_kept_iff hpos h
  | words digits fraction unit =>
      obtain rfl := Option.some.inj hamount
      have hvalue := words_value (by split_ifs <;> simp [one_le_multiplier]) h
      have hfraction : 0 ≤ fractionValue python fraction := by
        unfold fractionValue
        positivity
      have hunit : (1 : ℚ) ≤ multiplier python unit := by exact_mod_cast one_le_multiplier unit
      have hnumber : (0 : ℚ) ≤ Money.number python.chars digits := Nat.cast_nonneg _
      rw [Statement.Kept]
      by_cases hnil : fraction = []
      · have hzero : fractionValue python fraction = 0 := by
          simp [fractionValue, hnil, Money.number]
        rw [if_pos hnil] at hvalue
        rw [hzero, add_zero, ← Nat.cast_mul]
        split_ifs at hvalue with hsmall
        · exact ⟨fun _ => ⟨by exact_mod_cast hsmall, .inl hnil⟩, fun _ => hvalue⟩
        · constructor
          · intro heq
            linarith
          · rintro ⟨hlt, -⟩
            exact absurd (by exact_mod_cast hlt) hsmall
      · rw [if_neg hnil, Nat.mul_one] at hvalue
        constructor
        · intro heq
          by_cases hworth : fractionValue python fraction = 0 ∧ multiplier python unit = 1
          · rw [hworth.1, hworth.2, Nat.cast_one, add_zero, mul_one] at heq ⊢
            split_ifs at hvalue with hsmall
            · exact ⟨by exact_mod_cast hsmall, .inr ⟨rfl, rfl⟩⟩
            · linarith
          · -- the fraction or the unit is lost
            exfalso
            have hle : (n : ℚ) ≤ 100 * Money.number python.chars digits := by
              split_ifs at hvalue <;> linarith
            have hsum : (Money.number python.chars digits : ℚ) + fractionValue python fraction ≤
                Money.number python.chars digits := by
              nlinarith
            have hfractionZero : fractionValue python fraction = 0 := by linarith
            rw [hfractionZero, add_zero] at heq hpos
            have hpositive : (0 : ℚ) < Money.number python.chars digits := by
              by_contra hnot
              nlinarith
            have hone : (multiplier python unit : ℚ) ≤ 1 := by
              by_contra hnot
              nlinarith
            exact hworth ⟨hfractionZero, by exact_mod_cast le_antisymm hone hunit⟩
        · rintro ⟨hlt, hor⟩
          obtain ⟨hzero, hone⟩ := hor.resolve_left hnil
          rw [hzero, hone, Nat.cast_one, add_zero, mul_one] at hlt ⊢
          rw [if_pos (by exact_mod_cast hlt)] at hvalue
          exact hvalue

/-! ### The budget of an intent -/

theorem exists_of_bind {α β : Type} {x : Except Failure α} {f : α → Except Failure β} {b : β}
    (h : (x >>= f) = .ok b) : ∃ a, x = .ok a ∧ f a = .ok b := by
  cases x with
  | error e => cases h
  | ok a => exact ⟨a, rfl, h⟩

theorem financial_of_construct {query : String} {category : Json}
    {financial : IntentFinancialConstraintsV1} {memory storage delivery : Option ℤ} {quantity : ℤ}
    {intent : IntentV1} (h : construct query category financial memory storage delivery quantity =
      some intent) : intent.financial = financial := by
  simp only [construct, Option.bind_eq_bind, Option.bind_eq_some_iff] at h
  obtain ⟨_, -, _, -, _, -, _, -, h⟩ := h
  obtain rfl := Option.some.inj h
  rfl

/-- The constraints of an intent are those that were read. -/
theorem financial_of_validateDict {raw : Raw} {prompt : Option String} {intent : IntentV1}
    (h : validateDict python raw prompt = .ok intent) :
    financial python raw (promptText python raw prompt) = .ok intent.financial := by
  obtain ⟨constraints, hfinancial, h⟩ := exists_of_bind h
  obtain ⟨memory, -, h⟩ := exists_of_bind h
  obtain ⟨storage, -, h⟩ := exists_of_bind h
  obtain ⟨delivery, -, h⟩ := exists_of_bind h
  obtain ⟨quantity, -, h⟩ := exists_of_bind h
  cases hconstruct : construct (query python raw) (category python raw
      (promptText python raw prompt)) constraints memory storage delivery quantity with
  | none =>
      rw [hconstruct] at h
      cases h
  | some built =>
      rw [hconstruct] at h
      obtain rfl := Except.ok.inj h
      rw [hfinancial, financial_of_construct hconstruct]

/-- The budget of an intent without constraints of its own. -/
theorem budgetMinor_of_validateDict {raw : Raw} {prompt : Option String} {intent : IntentV1}
    (h : validateDict python raw prompt = .ok intent) (hnone : givenFinancial raw = none) :
    budgetMinor python raw (promptText python raw prompt) =
      .ok (intent.financial.budgetMinor.map Subtype.val) := by
  have hfinancial := financial_of_validateDict h
  rw [financial, hnone] at hfinancial
  obtain ⟨minor, hminor, hfinancial⟩ := exists_of_bind hfinancial
  obtain ⟨currency, -, hfinancial⟩ := exists_of_bind hfinancial
  rw [hminor]
  cases minor with
  | none =>
      rw [← Except.ok.inj hfinancial]
      rfl
  | some n =>
      simp only at hfinancial
      split_ifs at hfinancial
      rw [← Except.ok.inj hfinancial]
      rfl

/-- What a number that is read becomes. -/
theorem budgetMinor_of_number {raw : Raw} {text : String} {number : Number} {minor : Option ℤ}
    (hnumber : budgetNumber python raw text = some number)
    (h : budgetMinor python raw text = .ok minor) :
    ∃ n, minor = some n ∧ number.minorUnits = .ok n := by
  rw [budgetMinor, hnumber] at h
  cases hminor : number.minorUnits with
  | error e =>
      simp only [hminor] at h
      cases h
  | ok n =>
      simp only [hminor] at h
      cases h
      exact ⟨n, rfl, rfl⟩

/-- The budget of an intent, in minor units, is a hundred times an amount. -/
def IsHundredfold (intent : IntentV1) (a : ℚ) : Prop :=
  ∃ n, intent.financial.budgetMinor = some n ∧ (n.val : ℚ) = 100 * a

/-- **When the budget is the amount that is stated.** -/
theorem isHundredfold_iff {raw : Raw} {prompt : Option String} {intent : IntentV1} {s : Statement}
    {a : ℚ} (h : validateDict python raw prompt = .ok intent)
    (hstates : States python raw (promptText python raw prompt) s a) (hnonneg : 0 ≤ a) :
    IsHundredfold intent a ↔ Kept python raw (promptText python raw prompt) s a := by
  have hbudget := budgetMinor_of_validateDict h hstates.noObject
  have hread : ∀ {number}, budgetNumber python raw (promptText python raw prompt) = some number →
      ∃ n, intent.financial.budgetMinor = some n ∧ number.minorUnits = .ok n.val := by
    intro number hnumber
    obtain ⟨m, hm, hminor⟩ := budgetMinor_of_number hnumber hbudget
    obtain ⟨n, hn, rfl⟩ := Option.map_eq_some_iff.1 hm
    exact ⟨n, hn, hminor⟩
  unfold Kept IsHundredfold
  by_cases hzero : a = 0
  · rw [if_pos hzero, hzero, mul_zero]
    constructor
    · rintro ⟨n, hn, hnzero⟩
      cases hnumber : budgetNumber python raw (promptText python raw prompt) with
      | none =>
          rw [budgetMinor, hnumber, hn] at hbudget
          cases hbudget
      | some number =>
          obtain ⟨n', hn', hminor⟩ := hread hnumber
          obtain rfl := Option.some.inj (hn.symm.trans hn')
          exact ⟨number, rfl, (minorUnits_eq_zero_iff hminor).1 (by exact_mod_cast hnzero)⟩
    · rintro ⟨number, hnumber, hnegligible⟩
      obtain ⟨n, hn, hminor⟩ := hread hnumber
      exact ⟨n, hn, by exact_mod_cast (minorUnits_eq_zero_iff hminor).2 hnegligible⟩
  · rw [if_neg hzero]
    obtain ⟨n, hn, hminor⟩ := hread (budgetNumber_of_states hstates hzero)
    rw [← statement_kept_iff hstates.amount (lt_of_le_of_ne hnonneg (Ne.symm hzero)) hminor, hn]
    constructor
    · rintro ⟨n', hn', heq⟩
      obtain rfl := Option.some.inj hn'
      exact heq
    · exact fun heq => ⟨n, rfl, heq⟩

/-- **The budget of an intent**: it is a hundred times the stated amount exactly when that is kept,
and of two amounts that are kept the greater one is the greater budget. -/
theorem budget_iff (python : Python) (raw : Raw) (prompt : Option String) (intent : IntentV1)
    (s : Statement) (a : ℚ) (h : validateDict python raw prompt = .ok intent)
    (hstates : States python raw (promptText python raw prompt) s a) (hnonneg : 0 ≤ a) :
    (IsHundredfold intent a ↔ Kept python raw (promptText python raw prompt) s a) ∧
      (Kept python raw (promptText python raw prompt) s a →
        ∀ raw' prompt' intent' s' a', validateDict python raw' prompt' = .ok intent' →
          States python raw' (promptText python raw' prompt') s' a' → a ≤ a' →
          Kept python raw' (promptText python raw' prompt') s' a' →
          ∃ n n', intent.financial.budgetMinor = some n ∧
            intent'.financial.budgetMinor = some n' ∧ n ≤ n') := by
  refine ⟨isHundredfold_iff h hstates hnonneg, ?_⟩
  intro hkept raw' prompt' intent' s' a' h' hstates' hle hkept'
  obtain ⟨n, hn, heq⟩ := (isHundredfold_iff h hstates hnonneg).2 hkept
  obtain ⟨n', hn', heq'⟩ := (isHundredfold_iff h' hstates' (hnonneg.trans hle)).2 hkept'
  refine ⟨n, n', hn, hn', ?_⟩
  have hvalue : (n.val : ℚ) ≤ n'.val := by linarith
  exact_mod_cast hvalue

end

/-! ### One million -/

/-- An answer that states a budget and nothing else. -/
def stating (n : ℤ) : Raw := [("max_budget", .int n)]

/-- The intent with a budget in minor units and nothing else. -/
def shopping (n : NonNegativeInt) : IntentV1 where
  query := "general_shopping"
  category := none
  financial := { budgetMinor := some n, currency := some .inr }
  minMemoryGb := none
  minStorageGb := none
  maxDeliveryDays := none
  quantity := ⟨1, le_rfl⟩

theorem states_stating (n : ℤ) : States asciiPython (stating n)
    (promptText asciiPython (stating n) none) (.whole n) n :=
  ⟨rfl, rfl, rfl⟩

/-- Eighty thousand rupees are kept. -/
theorem budget_80000 : IsHundredfold (shopping ⟨8000000, by decide⟩) 80000 :=
  (budget_iff asciiPython (stating 80000) none (shopping ⟨8000000, by decide⟩) (.whole 80000) 80000
    (by decide +kernel) (states_stating 80000) (by norm_num)).1.2 (by
      rw [Kept, if_neg (by norm_num)]
      show (80000 : ℚ) < 1000000
      norm_num)

/-- **One million rupees become a smaller budget than 999,999 do.** -/
theorem million_shrinks : ∃ intent intent',
    validateDict asciiPython (stating 999999) none = .ok intent ∧
      validateDict asciiPython (stating 1000000) none = .ok intent' ∧
      States asciiPython (stating 999999) (promptText asciiPython (stating 999999) none)
        (.whole 999999) 999999 ∧
      States asciiPython (stating 1000000) (promptText asciiPython (stating 1000000) none)
        (.whole 1000000) 1000000 ∧
      ¬ IsHundredfold intent' 1000000 ∧
      ∃ n n', intent.financial.budgetMinor = some n ∧ intent'.financial.budgetMinor = some n' ∧
        n' < n := by
  refine ⟨shopping ⟨99999900, by decide⟩, shopping ⟨1000000, by decide⟩, by decide +kernel,
    by decide +kernel, states_stating 999999, states_stating 1000000, ?_, ?_⟩
  · rintro ⟨n, hn, heq⟩
    obtain rfl := Option.some.inj hn
    norm_num at heq
  · exact ⟨⟨99999900, by decide⟩, ⟨1000000, by decide⟩, rfl, rfl, by decide⟩

end Intent
end Agent
end AgenticCommerce
