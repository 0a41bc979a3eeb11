/-
# Exact money

`format_minor_units` and `parse_major_units` of `packages/money/__init__.py`: an amount of minor
units is written as a decimal number of major units, with or without digit groups and the code of
its currency, and read back without ever being rounded.

What Python knows of digits and capital letters beyond ASCII is the argument `Charset`, with the
laws of the Unicode tables that the parser rests on.
-/

import Mathlib.Algebra.Order.Field.Rat
import Mathlib.Tactic.FieldSimp
import Mathlib.Tactic.Ring
import AgenticCommerce.Text.JsonText
import AgenticCommerce.Text.Strings

namespace AgenticCommerce
namespace Money

/-- The tables of Unicode that the parser reads. -/
structure Charset where
  /-- The value of a decimal digit: `\d` matches the characters that have one. -/
  digit : Char → Option ℕ
  /-- `c.upper()`, which is several characters for a few ligatures. -/
  upper : Char → List Char
  digit_ascii : ∀ c : Char, c.toNat < 128 →
    digit c = if c.isDigit then some (c.toNat - 48) else none
  upper_ascii : ∀ c : Char, c.toNat < 128 → upper c = [c.toUpper]
  upper_ne_nil : ∀ c, upper c ≠ []
  /-- No ligature begins with a letter of a code, apart from `ß` and `ﬆ`, which go on with `S`
  and `T`. -/
  upper_several : ∀ c first second more, upper c = first :: second :: more →
    first ∉ "INRUD".toList ∧ (first = 'S' → second ≠ 'D')

/-- `_CURRENCY_EXPONENTS`. -/
def currencyExponents : List (List Char × ℕ) := [("INR".toList, 2), ("USD".toList, 2)]

/-- `_CURRENCY_SYMBOLS`. -/
def currencySymbols : List (List Char × List Char) :=
  [("INR".toList, ['₹']), ("USD".toList, ['$'])]

variable (cs : Charset)

/-- `currency.strip().upper()`. -/
def codeOf (currency : List Char) : List Char := (Strings.strip currency).flatMap cs.upper

/-- `currency_exponent`. -/
def currencyExponent (currency : List Char) : Except String ℕ :=
  match currencyExponents.lookup (codeOf cs currency) with
  | some exponent => .ok exponent
  | none => .error s!"unsupported currency: {String.ofList currency}"

/-- The exponent of an optional currency. -/
def exponentOf : Option (List Char) → Except String ℕ
  | some currency => currencyExponent cs currency
  | none => .ok 2

/-! ### Writing -/

/-- Digits, the lowest first, with a comma between every three of them and a higher one. -/
def groupLow : List Char → List Char
  | a :: b :: c :: d :: ds => a :: b :: c :: ',' :: groupLow (d :: ds)
  | ds => ds

/-- `f"{n:,}"` of the digits of a number. -/
def grouped (ds : List Char) : List Char := (groupLow ds.reverse).reverse

/-- `f"{n:0{width}d}"`. -/
def padded (width n : ℕ) : List Char :=
  List.replicate (width - (Json.decimal n).length) '0' ++ Json.decimal n

/-- `f"{whole:,}"` or `str(whole)`. -/
def wholeText (whole : ℕ) (grouping : Bool) : List Char :=
  if grouping then grouped (Json.decimal whole) else Json.decimal whole

/-- What stands behind the whole number. -/
def fractionText (fraction exponent : ℕ) : List Char :=
  if exponent = 0 then [] else '.' :: padded exponent fraction

/-- The number in `format_minor_units`. -/
def numberText (amount exponent : ℕ) (grouping : Bool) : List Char :=
  wholeText (amount / 10 ^ exponent) grouping ++ fractionText (amount % 10 ^ exponent) exponent

/-- `format_minor_units`. -/
def formatMinorUnits (amount : ℤ) (currency : Option (List Char)) (grouping : Bool) :
    Except String (List Char) := do
  if amount < 0 then throw "amount_minor must be non-negative"
  let exponent ← exponentOf cs currency
  let number := numberText amount.toNat exponent grouping
  match currency with
  | some currency => return codeOf cs currency ++ ' ' :: number
  | none => return number

/-! ### Reading -/

/-- What `parse_major_units` may be given. -/
inductive Value where
  | int (n : ℤ)
  | str (text : List Char)
  | boolOrFloat
  | other

/-- A text without the code or the symbol of a currency before it. -/
def withoutCurrency (text : List Char) : Option (List Char) → List Char
  | none => text
  | some currency =>
      let code := codeOf cs currency
      if Strings.startsWith code (text.flatMap cs.upper) then Strings.strip (text.drop code.length)
      else
        match currencySymbols.lookup code with
        | some symbol =>
            if Strings.startsWith symbol text then Strings.strip (text.drop symbol.length) else text
        | none => text

/-- What is left of a text without its currency and its commas. -/
def amountText (text : List Char) (currency : Option (List Char)) : List Char :=
  (withoutCurrency cs (Strings.strip text) currency).filter (· ≠ ',')

/-- `0|[1-9]\d*`, of digits. -/
def isWhole : List Char → Bool
  | ['0'] => true
  | c :: _ => '1' ≤ c && c ≤ '9'
  | [] => false

/-- Whether `\d` matches. -/
def isDigit (c : Char) : Bool := (cs.digit c).isSome

/-- The groups of `_DECIMAL_RE.fullmatch`, the fraction empty where there is none. -/
def decimalGroups (text : List Char) : Option (List Char × List Char) :=
  let whole := text.takeWhile (isDigit cs)
  if isWhole whole then
    match text.dropWhile (isDigit cs) with
    | [] => some (whole, [])
    | c :: fraction =>
        if c = '.' ∧ fraction ≠ [] ∧ fraction.all (isDigit cs) then some (whole, fraction) else none
  else none

/-- `int(digits)`. -/
def number (digits : List Char) : ℕ :=
  digits.foldl (fun n c => n * 10 + (cs.digit c).getD 0) 0

/-- `parse_major_units`, of a text. -/
def parseText (text : List Char) (currency : Option (List Char)) (exponent : ℕ) :
    Except String ℕ :=
  match decimalGroups cs (amountText cs text currency) with
  | none => .error "money must be a non-negative base-10 decimal"
  | some (whole, fraction) =>
      if exponent < fraction.length then
        .error s!"money has more than {exponent} fractional digits"
      else
        let paddedFraction := fraction ++ List.replicate (exponent - fraction.length) '0'
        .ok (number cs whole * 10 ^ exponent + number cs paddedFraction)

/-- `parse_major_units`. -/
def parseMajorUnits (value : Value) (currency : Option (List Char)) : Except String ℤ := do
  let exponent ← exponentOf cs currency
  match value with
  | .boolOrFloat => throw "money must be provided as an integer or decimal string, never float"
  | .int n => if n < 0 then throw "money must be a non-negative integer" else return n * 10 ^ exponent
  | .other => throw "money must be provided as an integer or decimal string"
  | .str text => return ↑(← parseText cs text currency exponent)

/-! ### Digits -/

/-- A digit of ASCII is below 128. -/
theorem ascii_of_isDigit {c : Char} (h : c.isDigit = true) : 48 ≤ c.toNat ∧ c.toNat ≤ 57 := by
  simp only [Char.isDigit, Bool.and_eq_true, decide_eq_true_eq, ge_iff_le,
    UInt32.le_iff_toNat_le] at h
  exact h

theorem digit_of_isDigit {c : Char} (h : c.isDigit = true) : cs.digit c = some (c.toNat - 48) := by
  rw [cs.digit_ascii c (by have := ascii_of_isDigit h; omega), if_pos h]

theorem isDigit_of_isDigit {c : Char} (h : c.isDigit = true) : isDigit cs c = true := by
  rw [isDigit, digit_of_isDigit cs h, Option.isSome_some]

theorem isDigit_dot : isDigit cs '.' = false := by
  rw [isDigit, cs.digit_ascii '.' (by decide)]
  rfl

/-- Digits of ASCII have the value that their text has. -/
theorem number_eq_readNat {ds : List Char} (h : ∀ c ∈ ds, c.isDigit = true) :
    number cs ds = Json.readNat ds := by
  suffices hfold : ∀ n, ds.foldl (fun n c => n * 10 + (cs.digit c).getD 0) n =
      ds.foldl (fun n c => n * 10 + (c.toNat - 48)) n from hfold 0
  induction ds with
  | nil => exact fun _ => rfl
  | cons c ds ih =>
      intro n
      have hc := digit_of_isDigit cs (h c (List.mem_cons_self ..))
      rw [List.foldl_cons, List.foldl_cons, hc, Option.getD_some]
      exact ih (fun d hd => h d (List.mem_cons_of_mem _ hd)) _

/-- Digits after other digits. -/
theorem number_append (ds es : List Char) :
    number cs (ds ++ es) = number cs ds * 10 ^ es.length + number cs es := by
  induction es using List.reverseRecOn with
  | nil => simp [number]
  | append_singleton es e ih =>
      have hsnoc : ∀ l : List Char, number cs (l ++ [e]) = number cs l * 10 + (cs.digit e).getD 0 := by
        intro l
        simp [number]
      rw [← List.append_assoc, hsnoc, ih, hsnoc, List.length_append, List.length_singleton]
      ring

/-- Zeros are worth nothing. -/
theorem number_zeros (k : ℕ) : number cs (List.replicate k '0') = 0 := by
  have hzero : cs.digit '0' = some 0 := digit_of_isDigit cs (by decide)
  induction k with
  | zero => rfl
  | succ k ih =>
      rw [List.replicate_succ', number_append, ih]
      simp [number, hzero]

theorem decimal_isDigit (n : ℕ) : ∀ c ∈ Json.decimal n, c.isDigit = true := Json.decimal_isDigit n

theorem number_decimal (n : ℕ) : number cs (Json.decimal n) = n := by
  rw [number_eq_readNat cs (Json.decimal_isDigit n), Json.readNat_decimal]

/-! ### The number that is written -/

theorem filter_groupLow : ∀ {ds : List Char}, (∀ c ∈ ds, c ≠ ',') →
    (groupLow ds).filter (· ≠ ',') = ds
  | a :: b :: c :: d :: ds, h => by
      have ih := filter_groupLow fun e he =>
        h e (List.mem_cons_of_mem a (List.mem_cons_of_mem b (List.mem_cons_of_mem c he)))
      have ha : a ≠ ',' := h a (by simp)
      have hb : b ≠ ',' := h b (by simp)
      have hc : c ≠ ',' := h c (by simp)
      rw [groupLow, List.filter_cons_of_pos (by simpa using ha),
        List.filter_cons_of_pos (by simpa using hb), List.filter_cons_of_pos (by simpa using hc),
        List.filter_cons_of_neg (by simp), ih]
  | [], _ => rfl
  | [a], h | [a, b], h | [a, b, c], h => by
      rw [groupLow]
      · exact List.filter_eq_self.2 fun e he => by simpa using h e he
      all_goals simp

/-- **Without its commas a grouped number is the number.** -/
theorem filter_grouped {ds : List Char} (h : ∀ c ∈ ds, c ≠ ',') :
    (grouped ds).filter (· ≠ ',') = ds := by
  rw [grouped, List.filter_reverse, filter_groupLow fun c hc => h c (List.mem_reverse.1 hc),
    List.reverse_reverse]

/-- A grouped number is commas and the number. -/
theorem mem_grouped {ds : List Char} (h : ∀ c ∈ ds, c ≠ ',') {c : Char} (hc : c ∈ grouped ds) :
    c ∈ ds ∨ c = ',' := by
  by_cases hcomma : c = ','
  · exact .inr hcomma
  · have hmem : c ∈ (grouped ds).filter (· ≠ ',') := List.mem_filter.2 ⟨hc, by simpa using hcomma⟩
    rw [filter_grouped h] at hmem
    exact .inl hmem

/-- A padded number has the width, when it fits. -/
theorem length_padded {width n : ℕ} (hwidth : 0 < width) (h : n < 10 ^ width) :
    (padded width n).length = width := by
  have hlength : (Json.decimal n).length ≤ width := by
    unfold Json.decimal
    split_ifs with hn
    · exact hwidth
    · rw [List.length_map, List.length_reverse]
      exact (Nat.digits_length_le_iff (by omega) n).2 h
  rw [padded, List.length_append, List.length_replicate]
  omega

theorem padded_isDigit (width n : ℕ) : ∀ c ∈ padded width n, c.isDigit = true := by
  intro c hc
  rcases List.mem_append.1 hc with h | h
  · rw [List.eq_of_mem_replicate h]
    decide
  · exact Json.decimal_isDigit n c h

theorem number_padded (width n : ℕ) : number cs (padded width n) = n := by
  rw [padded, number_append, number_zeros, number_decimal, zero_mul, zero_add]

theorem decimal_no_comma (n : ℕ) : ∀ c ∈ Json.decimal n, c ≠ ',' := by
  rintro c hc rfl
  exact absurd (Json.decimal_isDigit n _ hc) (by decide)

theorem filter_wholeText (whole : ℕ) (grouping : Bool) :
    (wholeText whole grouping).filter (· ≠ ',') = Json.decimal whole := by
  unfold wholeText
  split_ifs
  · exact filter_grouped (decimal_no_comma whole)
  · exact List.filter_eq_self.2 fun c hc => by simpa using decimal_no_comma whole c hc

theorem fractionText_no_comma (fraction exponent : ℕ) : ∀ c ∈ fractionText fraction exponent,
    c.isDigit = true ∨ c = '.' := by
  unfold fractionText
  split_ifs
  · intro c hc
    cases hc
  · intro c hc
    rcases List.mem_cons.1 hc with hc | hc
    · exact .inr hc
    · exact .inl (padded_isDigit exponent fraction c hc)

/-- **Without its commas the number is its whole part and its fraction.** -/
theorem filter_numberText (amount exponent : ℕ) (grouping : Bool) :
    (numberText amount exponent grouping).filter (· ≠ ',') =
      Json.decimal (amount / 10 ^ exponent) ++ fractionText (amount % 10 ^ exponent) exponent := by
  rw [numberText, List.filter_append, filter_wholeText]
  congr 1
  refine List.filter_eq_self.2 fun c hc => ?_
  rcases fractionText_no_comma _ _ c hc with h | rfl
  · have : c ≠ ',' := by
      rintro rfl
      exact absurd h (by decide)
    simpa using this
  · decide

/-- The number holds no white space. -/
theorem isSpace_numberText {amount exponent : ℕ} {grouping : Bool} :
    ∀ c ∈ numberText amount exponent grouping, Strings.isSpace c = false := by
  intro c hc
  have hdigit : ∀ {d : Char}, d.isDigit = true → Strings.isSpace d = false := by
    intro d hd
    have := ascii_of_isDigit hd
    simp only [Strings.isSpace, Bool.or_eq_false_iff, Bool.and_eq_false_iff, decide_eq_false_iff_not,
      beq_eq_false_iff_ne]
    omega
  by_cases hcomma : c = ','
  · rw [hcomma]
    decide
  · have hmem : c ∈ (numberText amount exponent grouping).filter (· ≠ ',') :=
      List.mem_filter.2 ⟨hc, by simpa using hcomma⟩
    rw [filter_numberText] at hmem
    rcases List.mem_append.1 hmem with h | h
    · exact hdigit (Json.decimal_isDigit _ c h)
    · rcases fractionText_no_comma _ _ c h with h | rfl
      · exact hdigit h
      · decide

theorem strip_numberText (amount exponent : ℕ) (grouping : Bool) :
    Strings.strip (numberText amount exponent grouping) = numberText amount exponent grouping :=
  Strings.strip_eq_self (fun c hc => isSpace_numberText c (List.mem_of_head? hc))
    fun c hc => isSpace_numberText c (List.mem_of_getLast? hc)

/-! ### Reading it back -/

/-- A supported currency has one of the two codes. -/
theorem codeOf_eq {currency : List Char} {exponent : ℕ}
    (h : currencyExponent cs currency = .ok exponent) :
    codeOf cs currency = "INR".toList ∨ codeOf cs currency = "USD".toList := by
  unfold currencyExponent at h
  split at h
  · rename_i found hfound
    simp only [currencyExponents, List.lookup_cons, List.lookup_nil] at hfound
    split at hfound
    · rename_i hinr
      exact .inl (beq_iff_eq.1 hinr)
    · split at hfound
      · rename_i husd
        exact .inr (beq_iff_eq.1 husd)
      · cases hfound
  · cases h

/-- The codes are their own capitals. -/
theorem flatMap_upper_code {code : List Char} (h : code = "INR".toList ∨ code = "USD".toList) :
    code.flatMap cs.upper = code := by
  have hascii : ∀ c ∈ code, c.toNat < 128 ∧ c.toUpper = c := by
    rcases h with rfl | rfl <;> exact Strings.forall_mem_of_all (by decide)
  have hsingle : ∀ c ∈ code, cs.upper c = [c] := fun c hc => by
    rw [cs.upper_ascii c (hascii c hc).1, (hascii c hc).2]
  rw [List.flatMap_congr hsingle, List.flatMap_singleton']

theorem takeWhile_append_stop {p : Char → Bool} {ds rest : List Char} (hds : ∀ c ∈ ds, p c = true)
    (hrest : ∀ c, rest.head? = some c → p c = false) :
    (ds ++ rest).takeWhile p = ds ∧ (ds ++ rest).dropWhile p = rest := by
  have hstop : rest.takeWhile p = [] ∧ rest.dropWhile p = rest := by
    cases rest with
    | nil => exact ⟨rfl, rfl⟩
    | cons c t => simp [hrest c rfl]
  constructor
  · rw [List.takeWhile_append_of_pos hds, hstop.1, List.append_nil]
  · rw [List.dropWhile_append_of_pos hds, hstop.2]

theorem isWhole_cons {c : Char} (h : ('1' ≤ c && c ≤ '9') = true) (t : List Char) :
    isWhole (c :: t) = true := by
  unfold isWhole
  split
  · rfl
  · rename_i heq
    rw [List.cons.injEq] at heq
    rwa [← heq.1]
  · rename_i heq
    cases heq

theorem isWhole_decimal (n : ℕ) : isWhole (Json.decimal n) = true := by
  rcases Json.decimal_cases n with h | ⟨c, t, h, hdigit, hzero⟩
  · rw [h]
    rfl
  · have hne : c.toNat ≠ 48 := fun hc => hzero (Char.ext (UInt32.toNat_inj.1 hc))
    have := ascii_of_isDigit hdigit
    have hrange : ('1' ≤ c && c ≤ '9') = true := by
      simp only [Bool.and_eq_true, decide_eq_true_eq, Char.le_def, UInt32.le_iff_toNat_le]
      show 49 ≤ c.toNat ∧ c.toNat ≤ 57
      omega
    rw [h]
    exact isWhole_cons hrange t

/-- **The groups of a number that was written.** -/
theorem decimalGroups_decimal (whole fraction exponent : ℕ) :
    decimalGroups cs (Json.decimal whole ++ fractionText fraction exponent) =
      some (Json.decimal whole, if exponent = 0 then [] else padded exponent fraction) := by
  have hdigits : ∀ c ∈ Json.decimal whole, isDigit cs c = true :=
    fun c hc => isDigit_of_isDigit cs (Json.decimal_isDigit whole c hc)
  have hstop : ∀ c, (fractionText fraction exponent).head? = some c → isDigit cs c = false := by
    unfold fractionText
    split_ifs
    · intro c hc
      cases hc
    · intro c hc
      cases hc
      exact isDigit_dot cs
  obtain ⟨htake, hdrop⟩ := takeWhile_append_stop hdigits hstop
  unfold decimalGroups
  dsimp only
  rw [htake, hdrop, if_pos (isWhole_decimal whole)]
  unfold fractionText
  split_ifs with hexponent
  · rfl
  · have hne : padded exponent fraction ≠ [] := by
      rw [padded]
      intro h
      have := Json.decimal_cases fraction
      rw [(List.append_eq_nil_iff.1 h).2] at this
      rcases this with h | ⟨_, _, h, -⟩ <;> cases h
    have hall : (padded exponent fraction).all (isDigit cs) = true :=
      List.all_eq_true.2 fun c hc => isDigit_of_isDigit cs (padded_isDigit exponent fraction c hc)
    exact if_pos ⟨rfl, hne, hall⟩

/-- **What is written is read as the same amount.** -/
theorem parseText_of_amountText {text : List Char} {currency : Option (List Char)}
    {amount exponent : ℕ} {grouping : Bool} (h : amountText cs text currency =
      (numberText amount exponent grouping).filter (· ≠ ',')) :
    parseText cs text currency exponent = .ok amount := by
  have hsplit : amount / 10 ^ exponent * 10 ^ exponent + amount % 10 ^ exponent = amount := by
    rw [Nat.mul_comm, Nat.div_add_mod]
  unfold parseText
  rw [h, filter_numberText, decimalGroups_decimal]
  dsimp only
  by_cases hexponent : exponent = 0
  · subst hexponent
    simp only [if_true, List.length_nil, lt_irrefl, if_false, Nat.sub_zero, List.replicate_zero,
      List.append_nil, number_decimal, pow_zero, Nat.div_one, mul_one]
    rfl
  · have hlength : (padded exponent (amount % 10 ^ exponent)).length = exponent :=
      length_padded (Nat.pos_of_ne_zero hexponent) (Nat.mod_lt _ (Nat.pow_pos (by omega)))
    rw [if_neg hexponent, hlength, if_neg (lt_irrefl _), Nat.sub_self, List.replicate_zero,
      List.append_nil, number_decimal, number_padded, hsplit]

/-- A white space before a text is stripped. -/
theorem strip_cons_space (text : List Char) : Strings.strip (' ' :: text) = Strings.strip text := by
  have hspace : Strings.isSpace ' ' = true := by decide
  rw [Strings.strip, List.dropWhile_cons_of_pos hspace, Strings.strip]

/-- **The amount in a text that was written, with the code of a currency or without.** -/
theorem amountText_written {currency : Option (List Char)} {amount exponent : ℕ} {grouping : Bool}
    (h : exponentOf cs currency = .ok exponent) :
    amountText cs (match currency with
      | some currency => codeOf cs currency ++ ' ' :: numberText amount exponent grouping
      | none => numberText amount exponent grouping) currency =
    (numberText amount exponent grouping).filter (· ≠ ',') := by
  have hne : numberText amount exponent grouping ≠ [] := by
    intro hnil
    have hdecimal := filter_numberText amount exponent grouping
    rw [hnil, List.filter_nil] at hdecimal
    have hcases := Json.decimal_cases (amount / 10 ^ exponent)
    rw [(List.append_eq_nil_iff.1 hdecimal.symm).1] at hcases
    rcases hcases with hcases | ⟨_, _, hcases, -⟩ <;> cases hcases
  cases currency with
  | none => rw [amountText, withoutCurrency, strip_numberText]
  | some currency =>
      have hcode := codeOf_eq cs h
      dsimp only
      generalize hc : codeOf cs currency = code at hcode
      -- The text begins with a letter and ends with the number, so it is stripped already.
      have hstrip : Strings.strip (code ++ ' ' :: numberText amount exponent grouping) =
          code ++ ' ' :: numberText amount exponent grouping := by
        refine Strings.strip_eq_self ?_ ?_
        · rcases hcode with rfl | rfl <;> · intro c h; cases h; decide
        · intro c hlast
          have happend : code ++ ' ' :: numberText amount exponent grouping =
              (code ++ [' ']) ++ numberText amount exponent grouping := by simp
          rw [happend, List.getLast?_append_of_ne_nil _ hne] at hlast
          exact isSpace_numberText c (List.mem_of_getLast? hlast)
      have hstart : Strings.startsWith code
          ((code ++ ' ' :: numberText amount exponent grouping).flatMap cs.upper) = true := by
        rw [List.flatMap_append, flatMap_upper_code cs hcode]
        exact Strings.startsWith_iff.2 (List.prefix_append _ _)
      rw [amountText, hstrip, withoutCurrency, hc, if_pos hstart, List.drop_left, strip_cons_space, strip_numberText]

/-! ### Exactness -/

/-- A text that is a decimal number of some value with some fractional digits. -/
def Denotes (text : List Char) (value : ℚ) (places : ℕ) : Prop :=
  ∃ whole fraction, text = whole ++ (if fraction = [] then [] else '.' :: fraction) ∧
    whole ≠ [] ∧ (∀ c ∈ whole ++ fraction, isDigit cs c = true) ∧ places = fraction.length ∧
    value = number cs whole + (number cs fraction : ℚ) / 10 ^ places

/-- The groups of a text make it up, of digits. -/
theorem decimalGroups_eq_some {text whole fraction : List Char}
    (h : decimalGroups cs text = some (whole, fraction)) :
    text = whole ++ (if fraction = [] then [] else '.' :: fraction) ∧ whole ≠ [] ∧
      ∀ c ∈ whole ++ fraction, isDigit cs c = true := by
  have htext := List.takeWhile_append_dropWhile (p := isDigit cs) (l := text)
  have hdigits : ∀ c ∈ text.takeWhile (isDigit cs), isDigit cs c = true :=
    fun c hc => List.mem_takeWhile_imp hc
  unfold decimalGroups at h
  dsimp only at h
  split_ifs at h with hwhole
  have hne : text.takeWhile (isDigit cs) ≠ [] := by
    intro hnil
    rw [hnil] at hwhole
    cases hwhole
  split at h
  · rename_i hrest
    obtain ⟨rfl, rfl⟩ := Prod.mk.inj (Option.some.inj h)
    rw [hrest] at htext
    refine ⟨by simpa using htext.symm, hne, fun c hc => hdigits c (by simpa using hc)⟩
  · rename_i c rest hrest
    split_ifs at h with hc
    obtain ⟨rfl, rfl⟩ := Prod.mk.inj (Option.some.inj h)
    obtain ⟨rfl, hfraction, hall⟩ := hc
    rw [hrest] at htext
    refine ⟨by rw [if_neg hfraction]; exact htext.symm, hne, fun c hc => ?_⟩
    rcases List.mem_append.1 hc with hc | hc
    · exact hdigits c hc
    · exact List.all_eq_true.1 hall c hc

/-- The end of a text that is nothing or a dot and digits. -/
theorem fraction_inj {fraction fraction' : List Char}
    (h : (if fraction = [] then [] else '.' :: fraction) =
      if fraction' = [] then [] else '.' :: fraction') : fraction = fraction' := by
  cases fraction <;> cases fraction' <;> simp_all

/-- A text has one whole part and one fraction. -/
theorem decimalGroups_unique {text whole fraction whole' fraction' : List Char}
    (h : decimalGroups cs text = some (whole, fraction))
    (htext : text = whole' ++ (if fraction' = [] then [] else '.' :: fraction'))
    (hdigits : ∀ c ∈ whole', isDigit cs c = true) : whole = whole' ∧ fraction = fraction' := by
  obtain ⟨heq, -, hall⟩ := decimalGroups_eq_some cs h
  have hstop : ∀ (fraction : List Char) c,
      (if fraction = [] then [] else '.' :: fraction).head? = some c → isDigit cs c = false := by
    intro fraction c hc
    split_ifs at hc
    · cases hc
    · cases hc
      exact isDigit_dot cs
  have hwhole : ∀ c ∈ whole, isDigit cs c = true := fun c hc => hall c (List.mem_append_left _ hc)
  obtain ⟨htake, hdrop⟩ := takeWhile_append_stop hwhole (hstop fraction)
  obtain ⟨htake', hdrop'⟩ := takeWhile_append_stop hdigits (hstop fraction')
  rw [← heq, htext] at htake hdrop
  exact ⟨htake.symm.trans htake', fraction_inj (hdrop.symm.trans hdrop')⟩

/-- **An amount that is read is the value of the text, exactly.** -/
theorem parseText_exact {text : List Char} {currency : Option (List Char)} {exponent n : ℕ}
    (h : parseText cs text currency exponent = .ok n) :
    ∃ value places, Denotes cs (amountText cs text currency) value places ∧ places ≤ exponent ∧
      (n : ℚ) = value * 10 ^ exponent := by
  unfold parseText at h
  cases hgroups : decimalGroups cs (amountText cs text currency) with
  | none => rw [hgroups] at h; cases h
  | some groups =>
      obtain ⟨whole, fraction⟩ := groups
      rw [hgroups] at h
      dsimp only at h
      split_ifs at h with hlong
      obtain ⟨htext, hne, hdigits⟩ := decimalGroups_eq_some cs hgroups
      have hshort : fraction.length ≤ exponent := by omega
      refine ⟨_, fraction.length, ⟨whole, fraction, htext, hne, hdigits, rfl, rfl⟩, hshort, ?_⟩
      obtain ⟨k, rfl⟩ := Nat.exists_eq_add_of_le hshort
      have hn := Except.ok.inj h
      rw [Nat.add_sub_cancel_left, number_append, number_zeros, List.length_replicate,
        Nat.add_zero] at hn
      have hpow : (10 : ℚ) ^ fraction.length ≠ 0 := by positivity
      rw [← hn]
      push_cast
      rw [pow_add]
      field_simp

/-- **More fractional digits than the currency has are refused.** -/
theorem parseText_of_long {text : List Char} {currency : Option (List Char)} {exponent places : ℕ}
    {value : ℚ} (h : Denotes cs (amountText cs text currency) value places)
    (hlong : exponent < places) : ∃ message, parseText cs text currency exponent = .error message := by
  obtain ⟨whole, fraction, htext, -, hdigits, rfl, -⟩ := h
  unfold parseText
  cases hgroups : decimalGroups cs (amountText cs text currency) with
  | none => exact ⟨_, rfl⟩
  | some groups =>
      obtain ⟨whole', fraction'⟩ := groups
      obtain ⟨-, rfl⟩ := decimalGroups_unique cs hgroups htext
        fun c hc => hdigits c (List.mem_append_left _ hc)
      exact ⟨_, if_pos hlong⟩

/-! ### What is removed before a number is read -/

/-- A text that spells the code of a currency, in any case, or is its symbol. -/
def IsLead (currency : Option (List Char)) (lead : List Char) : Prop :=
  ∃ name, currency = some name ∧ (lead.map cs.upper = (codeOf cs name).map (fun c => [c]) ∨
    currencySymbols.lookup (codeOf cs name) = some lead)

/-- A text without the code or the symbol of a currency before it, white space and commas. -/
def Removed (currency : Option (List Char)) (text amount : List Char) : Prop :=
  ∃ body, amount = body.filter (· ≠ ',') ∧ (body = Strings.strip text ∨
    ∃ lead rest, Strings.strip text = lead ++ rest ∧ IsLead cs currency lead ∧
      body = Strings.strip rest)

/-- A capital letter of a code before the capitals of a text comes from one character of it. -/
theorem upper_step {letter : Char} {code text : List Char}
    (hletter : letter ∈ "INRUD".toList ∨ (letter = 'S' ∧ code = ['D']))
    (h : letter :: code <+: text.flatMap cs.upper) :
    ∃ c rest, text = c :: rest ∧ cs.upper c = [letter] ∧ code <+: rest.flatMap cs.upper := by
  cases text with
  | nil => exact absurd h.length_le (by simp)
  | cons c rest =>
      refine ⟨c, rest, rfl, ?_⟩
      rw [List.flatMap_cons] at h
      match hupper : cs.upper c with
      | [] => exact absurd hupper (cs.upper_ne_nil c)
      | [first] =>
          rw [hupper, List.singleton_append, List.cons_prefix_cons] at h
          exact ⟨by rw [h.1], h.2⟩
      | first :: second :: more =>
          rw [hupper, List.cons_append, List.cons_append, List.cons_prefix_cons] at h
          obtain ⟨hfirst, hsecond⟩ := cs.upper_several c first second more hupper
          obtain ⟨rfl, h⟩ := h
          rcases hletter with hletter | ⟨hs, rfl⟩
          · exact absurd hletter hfirst
          · rw [List.cons_prefix_cons] at h
            exact absurd h.1.symm (hsecond hs)

/-- **A text whose capitals begin with a code begins with the code, letter by letter.** -/
theorem lead_of_startsWith {code text : List Char}
    (hcode : code = "INR".toList ∨ code = "USD".toList)
    (h : Strings.startsWith code (text.flatMap cs.upper) = true) :
    (text.take code.length).map cs.upper = code.map fun c => [c] := by
  rw [Strings.startsWith_iff] at h
  rcases hcode with rfl | rfl
  · obtain ⟨i, text, rfl, hi, h⟩ := upper_step cs (.inl (by decide)) h
    obtain ⟨n, text, rfl, hn, h⟩ := upper_step cs (.inl (by decide)) h
    obtain ⟨r, text, rfl, hr, -⟩ := upper_step cs (.inl (by decide)) h
    show [cs.upper i, cs.upper n, cs.upper r] = _
    rw [hi, hn, hr]
    rfl
  · obtain ⟨u, text, rfl, hu, h⟩ := upper_step cs (.inl (by decide)) h
    obtain ⟨s, text, rfl, hs, h⟩ := upper_step cs (.inr ⟨rfl, rfl⟩) h
    obtain ⟨d, text, rfl, hd, -⟩ := upper_step cs (.inl (by decide)) h
    show [cs.upper u, cs.upper s, cs.upper d] = _
    rw [hu, hs, hd]
    rfl

theorem removed_amountText {text : List Char} {currency : Option (List Char)} {exponent : ℕ}
    (h : exponentOf cs currency = .ok exponent) :
    Removed cs currency text (amountText cs text currency) := by
  refine ⟨_, rfl, ?_⟩
  cases currency with
  | none => exact .inl rfl
  | some name =>
      unfold withoutCurrency
      dsimp only
      split_ifs with hstart
      · refine .inr ⟨_, _, (List.take_append_drop _ _).symm, ⟨name, rfl, .inl ?_⟩, rfl⟩
        exact lead_of_startsWith cs (codeOf_eq cs h) hstart
      · split
        · rename_i symbol hsymbol
          split_ifs with hstart
          · obtain ⟨rest, hrest⟩ := Strings.startsWith_iff.1 hstart
            refine .inr ⟨symbol, rest, hrest.symm, ⟨name, rfl, .inr hsymbol⟩, ?_⟩
            rw [← hrest, List.drop_left]
          · exact .inl rfl
        · exact .inl rfl

/-- The tables of ASCII: no other character is a digit or has a capital. -/
def asciiCharset : Charset where
  digit c := if c.isDigit then some (c.toNat - 48) else none
  upper c := [c.toUpper]
  digit_ascii _ _ := rfl
  upper_ascii _ _ := rfl
  upper_ne_nil _ := List.cons_ne_nil _ _
  upper_several _ _ _ _ h := by simp at h

example : formatMinorUnits asciiCharset 123456789 (some "inr".toList) true =
    .ok "INR 1,234,567.89".toList ∧
      parseMajorUnits asciiCharset (.str " ₹ 1,234,567.8".toList) (some "inr".toList) =
        .ok 123456780 := by
  decide

end Money
end AgenticCommerce
