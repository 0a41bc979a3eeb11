/-
# Rounding to the nearest float

What `nearest` keeps, and in which order: rounding is monotone (`nearest_mono`), a multiple of the
grid of its size stays as it is (`nearest_of_grid`), so do the whole numbers and the halves below
`2^52`, and no number is more than doubled (`nearest_le_two_mul`).  A product falls short of a whole
number exactly when it does so by more than half of the gap below that number (`le_nearest_iff`).
-/

import AgenticCommerce.Text.Floats
import Mathlib.Algebra.Order.Field.Power
import Mathlib.Tactic.FieldSimp
import Mathlib.Tactic.Linarith
import Mathlib.Tactic.Positivity
import Mathlib.Tactic.Ring

namespace AgenticCommerce

/-! ### The nearest integer -/

theorem floor_le_roundHalfEven (q : ℚ) : ⌊q⌋ ≤ roundHalfEven q := by
  unfold roundHalfEven
  simp only
  split_ifs <;> omega

theorem roundHalfEven_le_floor (q : ℚ) : roundHalfEven q ≤ ⌊q⌋ + 1 := by
  unfold roundHalfEven
  simp only
  split_ifs <;> omega

theorem roundHalfEven_intCast (n : ℤ) : roundHalfEven n = n := by
  unfold roundHalfEven
  simp

/-- **Rounding to an integer is monotone.** -/
theorem roundHalfEven_mono {x y : ℚ} (h : x ≤ y) : roundHalfEven x ≤ roundHalfEven y := by
  rcases (Int.floor_mono h).lt_or_eq with hlt | heq
  · have hx := roundHalfEven_le_floor x
    have hy := floor_le_roundHalfEven y
    omega
  · unfold roundHalfEven
    simp only [heq]
    have hfraction : x - ⌊y⌋ ≤ y - ⌊y⌋ := by linarith
    split_ifs <;> first | omega | (exfalso; linarith)

theorem roundHalfEven_le {q : ℚ} {n : ℤ} (h : q ≤ n) : roundHalfEven q ≤ n := by
  rw [← roundHalfEven_intCast n]
  exact roundHalfEven_mono h

theorem le_roundHalfEven {q : ℚ} {n : ℤ} (h : (n : ℚ) ≤ q) : n ≤ roundHalfEven q := by
  rw [← roundHalfEven_intCast n]
  exact roundHalfEven_mono h

theorem roundHalfEven_le_add (q : ℚ) : (roundHalfEven q : ℚ) ≤ q + 1 / 2 := by
  have hle := Int.floor_le q
  unfold roundHalfEven
  simp only
  split_ifs <;> push_cast <;> linarith

/-- Below a half the nearest integer is the one below. -/
theorem roundHalfEven_eq_of_lt {q : ℚ} {n : ℤ} (hle : (n : ℚ) ≤ q) (hlt : q < n + 1 / 2) :
    roundHalfEven q = n := by
  have hfloor : ⌊q⌋ = n := Int.floor_eq_iff.2 ⟨hle, by linarith⟩
  unfold roundHalfEven
  simp only [hfloor]
  rw [if_pos (by linarith)]

/-- Of a half after an odd number the nearest integer is the one above. -/
theorem roundHalfEven_of_odd {n : ℤ} (hodd : n % 2 ≠ 0) : roundHalfEven (n + 1 / 2) = n + 1 := by
  have hfloor : ⌊(n : ℚ) + 1 / 2⌋ = n := Int.floor_eq_iff.2 ⟨by linarith, by linarith⟩
  unfold roundHalfEven
  simp only [hfloor]
  rw [if_neg (by linarith), if_neg (by linarith), if_neg hodd]

/-- Rounding treats both signs alike. -/
theorem roundHalfEven_neg (q : ℚ) : roundHalfEven (-q) = -roundHalfEven q := by
  have hle := Int.floor_le q
  have hlt := Int.lt_floor_add_one q
  by_cases hint : (⌊q⌋ : ℚ) = q
  · rw [← hint, ← Int.cast_neg, roundHalfEven_intCast, roundHalfEven_intCast]
  have hpos : (⌊q⌋ : ℚ) < q := lt_of_le_of_ne hle hint
  have hfloor : ⌊-q⌋ = -⌊q⌋ - 1 := by
    rw [Int.floor_eq_iff]
    push_cast
    constructor <;> linarith
  unfold roundHalfEven
  simp only [hfloor]
  push_cast
  split_ifs <;> first | omega | (exfalso; linarith)

/-! ### `int` of a float -/

theorem truncate_of_nonneg {q : ℚ} (h : 0 ≤ q) : truncate q = ⌊q⌋ := by
  rw [truncate, Rat.floor_def', Int.tdiv_eq_ediv_of_nonneg (Rat.num_nonneg.2 h)]

theorem truncate_neg (q : ℚ) : truncate (-q) = -truncate q := by
  rw [truncate, truncate, Rat.neg_num, Rat.neg_den, Int.neg_tdiv]

/-- What is cut off at zero is below one. -/
theorem truncate_nonneg_iff {q : ℚ} : 0 ≤ truncate q ↔ -1 < q := by
  rcases le_total 0 q with h | h
  · rw [truncate_of_nonneg h]
    exact ⟨fun _ => by linarith, fun _ => Int.floor_nonneg.2 h⟩
  · have hneg : truncate q = -⌊-q⌋ := by
      rw [← truncate_of_nonneg (neg_nonneg.2 h), truncate_neg, neg_neg]
    rw [hneg, neg_nonneg, ← Int.lt_add_one_iff, Int.floor_lt]
    push_cast
    constructor <;> intro hlt <;> linarith

/-! ### The grid of a size -/

/-- The exponent of the last digit of the floats of the size of a positive number. -/
def gridExponent (q : ℚ) : ℤ := max (Int.log 2 q - 52) (-1074)

theorem nearest_of_pos {q : ℚ} (h : 0 < q) :
    nearest q = roundHalfEven (q / 2 ^ gridExponent q) * 2 ^ gridExponent q := by
  unfold nearest gridExponent
  rw [if_neg h.ne', abs_of_pos h]

theorem nearest_zero : nearest 0 = 0 := if_pos rfl

theorem nearest_neg (q : ℚ) : nearest (-q) = -nearest q := by
  unfold nearest
  by_cases hzero : q = 0
  · rw [hzero, neg_zero, if_pos rfl, neg_zero]
  · simp only [if_neg (neg_ne_zero.2 hzero), if_neg hzero, abs_neg, neg_div, roundHalfEven_neg,
      Int.cast_neg, neg_mul]

theorem nearest_nonneg {q : ℚ} (h : 0 ≤ q) : 0 ≤ nearest q := by
  rcases h.eq_or_lt with rfl | hpos
  · exact nearest_zero.ge
  · rw [nearest_of_pos hpos]
    have hround : 0 ≤ roundHalfEven (q / 2 ^ gridExponent q) :=
      le_roundHalfEven (by rw [Int.cast_zero]; positivity)
    have : (0 : ℚ) ≤ roundHalfEven (q / 2 ^ gridExponent q) := Int.cast_nonneg hround
    positivity

/-- A number over a finer grid than that of a power of two, where the power is a multiple. -/
theorem exists_int_eq_zpow {e k : ℤ} (h : e ≤ k) : ∃ n : ℤ, (2 : ℚ) ^ k / 2 ^ e = n := by
  refine ⟨2 ^ (k - e).toNat, ?_⟩
  rw [← zpow_sub₀ two_ne_zero, Int.cast_pow, Int.cast_ofNat, ← zpow_natCast,
    Int.toNat_of_nonneg (by omega)]

/-- **A multiple of the grid stays as it is.** -/
theorem nearest_of_grid {q : ℚ} (hpos : 0 < q) {m e : ℤ} (heq : q = m * 2 ^ e)
    (he : gridExponent q ≤ e) : nearest q = q := by
  obtain ⟨n, hn⟩ := exists_int_eq_zpow he
  have hq : q / 2 ^ gridExponent q = ((m * n : ℤ) : ℚ) := by
    rw [Int.cast_mul, ← hn]
    nth_rewrite 1 [heq]
    ring
  rw [nearest_of_pos hpos, hq, roundHalfEven_intCast, ← hq]
  field_simp

/-- What is at most a power of two, no finer than the grid, is rounded to at most that. -/
theorem nearest_le_zpow {q : ℚ} (hpos : 0 < q) {k : ℤ} (h : q ≤ 2 ^ k) (hk : gridExponent q ≤ k) :
    nearest q ≤ 2 ^ k := by
  obtain ⟨n, hn⟩ := exists_int_eq_zpow hk
  have hgrid : (0 : ℚ) < 2 ^ gridExponent q := by positivity
  have hround : roundHalfEven (q / 2 ^ gridExponent q) ≤ n :=
    roundHalfEven_le (hn ▸ div_le_div_of_nonneg_right h hgrid.le)
  rw [nearest_of_pos hpos, ← le_div_iff₀ hgrid, hn]
  exact_mod_cast hround

/-- What is at least such a power is rounded to at least that. -/
theorem zpow_le_nearest {q : ℚ} (hpos : 0 < q) {k : ℤ} (h : 2 ^ k ≤ q) (hk : gridExponent q ≤ k) :
    2 ^ k ≤ nearest q := by
  obtain ⟨n, hn⟩ := exists_int_eq_zpow hk
  have hgrid : (0 : ℚ) < 2 ^ gridExponent q := by positivity
  have hround : n ≤ roundHalfEven (q / 2 ^ gridExponent q) :=
    le_roundHalfEven (hn ▸ div_le_div_of_nonneg_right h hgrid.le)
  rw [nearest_of_pos hpos, ← div_le_iff₀ hgrid, hn]
  exact_mod_cast hround

/-- **Rounding is monotone**: numbers on one grid keep their order, and between two grids there is a
power of two. -/
theorem nearest_mono {x y : ℚ} (hx : 0 ≤ x) (h : x ≤ y) : nearest x ≤ nearest y := by
  rcases hx.eq_or_lt with rfl | hxpos
  · rw [nearest_zero]
    exact nearest_nonneg h
  have hypos : 0 < y := hxpos.trans_le h
  have hlog : Int.log 2 x ≤ Int.log 2 y := Int.log_mono_right hxpos h
  by_cases hgrid : gridExponent x = gridExponent y
  · rw [nearest_of_pos hxpos, nearest_of_pos hypos, hgrid]
    have hround := roundHalfEven_mono
      (div_le_div_of_nonneg_right h (show (0 : ℚ) ≤ 2 ^ gridExponent y by positivity))
    have hcast : (roundHalfEven (x / 2 ^ gridExponent y) : ℚ) ≤
      roundHalfEven (y / 2 ^ gridExponent y) := Int.cast_le.2 hround
    exact mul_le_mul_of_nonneg_right hcast (by positivity)
  · have hlt : Int.log 2 x < Int.log 2 y := by
      unfold gridExponent at hgrid
      omega
    have hxy : x ≤ 2 ^ Int.log 2 y := ((Int.lt_zpow_iff_log_lt one_lt_two hxpos).2 hlt).le
    have hpower : (2 : ℚ) ^ Int.log 2 y ≤ y := Int.zpow_log_le_self one_lt_two hypos
    refine (nearest_le_zpow hxpos hxy ?_).trans (zpow_le_nearest hypos hpower ?_) <;>
      unfold gridExponent at hgrid ⊢ <;> omega

/-! ### Whole numbers -/

/-- The grid of a number below a power of two. -/
theorem gridExponent_le {q : ℚ} (hpos : 0 < q) {k : ℤ} (h : q < 2 ^ k) (hk : -1021 ≤ k) :
    gridExponent q ≤ k - 53 := by
  have hlog := (Int.lt_zpow_iff_log_lt one_lt_two hpos).1 h
  unfold gridExponent
  omega

/-- **A whole number of 53 binary digits is a float.** -/
theorem nearest_natCast {n : ℕ} (h : n < 2 ^ 53) : nearest n = n := by
  rcases Nat.eq_zero_or_pos n with rfl | hpos
  · exact nearest_zero
  · have hn : (0 : ℚ) < n := Nat.cast_pos.2 hpos
    have hlt : (n : ℚ) < 2 ^ (53 : ℤ) := by exact_mod_cast h
    refine nearest_of_grid hn (m := n) (e := 0) (by simp) ?_
    have := gridExponent_le hn hlt (by omega)
    omega

/-- A whole number and a half. -/
theorem nearest_add_half {n : ℕ} (h : n < 2 ^ 51) : nearest (n + 1 / 2) = n + 1 / 2 := by
  have hpos : (0 : ℚ) < n + 1 / 2 := by positivity
  have hlt : (n : ℚ) + 1 / 2 < 2 ^ (52 : ℤ) := by
    have hn : (n : ℚ) < 2251799813685248 := by exact_mod_cast (show n < 2251799813685248 from h)
    rw [show (2 : ℚ) ^ (52 : ℤ) = 4503599627370496 by norm_num]
    linarith
  refine nearest_of_grid hpos (m := 2 * n + 1) (e := -1) ?_ ?_
  · push_cast
    rw [zpow_neg_one]
    ring
  · have := gridExponent_le hpos hlt (by omega)
    omega

/-- **No number from one on is more than doubled.** -/
theorem nearest_le_two_mul {q : ℚ} (h : 1 ≤ q) : nearest q ≤ 2 * q := by
  have hpos : 0 < q := by linarith
  have hlog : 0 ≤ Int.log 2 q := (Int.zpow_le_iff_le_log one_lt_two hpos).1 (by simpa using h)
  have hlt : q ≤ 2 ^ (Int.log 2 q + 1) := (Int.lt_zpow_succ_log_self one_lt_two q).le
  refine (nearest_le_zpow hpos hlt ?_).trans ?_
  · unfold gridExponent
    omega
  · have hpower : (2 : ℚ) ^ Int.log 2 q ≤ q := Int.zpow_log_le_self one_lt_two hpos
    rw [zpow_add_one₀ two_ne_zero]
    linarith

/-- Rounding adds no more than half of the grid. -/
theorem nearest_le_add {q : ℚ} (hpos : 0 < q) {k : ℤ} (h : q < 2 ^ k) (hk : -1021 ≤ k) :
    nearest q ≤ q + 2 ^ (k - 53) / 2 := by
  have hgrid : (0 : ℚ) < 2 ^ gridExponent q := by positivity
  have hround := mul_le_mul_of_nonneg_right
    (roundHalfEven_le_add (q / 2 ^ gridExponent q)) hgrid.le
  have hpower : (2 : ℚ) ^ gridExponent q ≤ 2 ^ (k - 53) :=
    zpow_le_zpow_right₀ one_le_two (gridExponent_le hpos h hk)
  rw [← nearest_of_pos hpos, add_mul, div_mul_cancel₀ _ hgrid.ne'] at hround
  linarith

/-! ### The gap below a whole number -/

/-- Half of the distance between a whole number and the float before it. -/
def halfGap (n : ℕ) : ℚ := 2 ^ ((Nat.clog 2 n : ℤ) - 54)

theorem halfGap_pos (n : ℕ) : 0 < halfGap n := by
  unfold halfGap
  positivity

section

variable {n : ℕ}

/-- The floats just below a whole number are those of the power of two below it. -/
theorem zpow_le_sub_gap (hpos : 0 < n) (h : n < 2 ^ 52) :
    (2 : ℚ) ^ ((Nat.clog 2 n : ℤ) - 1) ≤ n - 2 * halfGap n := by
  have hclog : Nat.clog 2 n ≤ 52 := Nat.clog_le_of_le_pow h.le
  have hgap : 2 * halfGap n = 2 ^ ((Nat.clog 2 n : ℤ) - 53) := by
    rw [halfGap, ← zpow_one_add₀ two_ne_zero]
    congr 1
    ring
  rcases Nat.eq_zero_or_pos (Nat.clog 2 n) with hzero | hclogpos
  · have hn : (1 : ℚ) ≤ n := by exact_mod_cast hpos
    rw [hgap, hzero]
    norm_num
    linarith
  · have hlt : 2 ^ (Nat.clog 2 n - 1) < n :=
      (Nat.lt_clog_iff_pow_lt Nat.one_lt_two).1 (by omega)
    have hpower : (2 : ℚ) ^ ((Nat.clog 2 n : ℤ) - 1) + 1 ≤ n := by
      rw [show (Nat.clog 2 n : ℤ) - 1 = ((Nat.clog 2 n - 1 : ℕ) : ℤ) by omega, zpow_natCast]
      exact_mod_cast hlt
    have hone : (2 : ℚ) ^ ((Nat.clog 2 n : ℤ) - 53) ≤ 1 :=
      zpow_le_one_of_nonpos₀ one_le_two (by omega)
    rw [hgap]
    linarith

/-- The grid there. -/
theorem gridExponent_below (h : n < 2 ^ 52) {y : ℚ}
    (hle : (2 : ℚ) ^ ((Nat.clog 2 n : ℤ) - 1) ≤ y) (hlt : y < n) :
    gridExponent y = (Nat.clog 2 n : ℤ) - 53 := by
  have hclog : Nat.clog 2 n ≤ 52 := Nat.clog_le_of_le_pow h.le
  have hy : 0 < y := (show (0 : ℚ) < 2 ^ ((Nat.clog 2 n : ℤ) - 1) by positivity).trans_le hle
  have hpower : (n : ℚ) ≤ 2 ^ (Nat.clog 2 n : ℤ) := by
    rw [zpow_natCast]
    exact_mod_cast Nat.le_pow_clog Nat.one_lt_two n
  have hlow : (Nat.clog 2 n : ℤ) - 1 ≤ Int.log 2 y := (Int.zpow_le_iff_le_log one_lt_two hy).1 hle
  have hhigh : Int.log 2 y < Nat.clog 2 n :=
    (Int.lt_zpow_iff_log_lt one_lt_two hy).1 (hlt.trans_le hpower)
  unfold gridExponent
  omega

/-- A whole number over the grid below it is even. -/
theorem exists_even (h : n < 2 ^ 52) :
    ∃ m : ℤ, m % 2 = 0 ∧ (n : ℚ) = m * 2 ^ ((Nat.clog 2 n : ℤ) - 53) := by
  have hclog : Nat.clog 2 n ≤ 52 := Nat.clog_le_of_le_pow h.le
  refine ⟨n * 2 ^ (52 - Nat.clog 2 n) * 2, by omega, ?_⟩
  have hone : (2 : ℚ) ^ (52 - Nat.clog 2 n) * 2 * 2 ^ ((Nat.clog 2 n : ℤ) - 53) = 1 := by
    rw [← pow_succ, ← zpow_natCast, ← zpow_add₀ two_ne_zero,
      show ((52 - Nat.clog 2 n + 1 : ℕ) : ℤ) + ((Nat.clog 2 n : ℤ) - 53) = 0 by omega, zpow_zero]
  push_cast
  calc (n : ℚ) = n * (2 ^ (52 - Nat.clog 2 n) * 2 * 2 ^ ((Nat.clog 2 n : ℤ) - 53)) := by
        rw [hone, mul_one]
    _ = n * 2 ^ (52 - Nat.clog 2 n) * 2 * 2 ^ ((Nat.clog 2 n : ℤ) - 53) := by ring

/-- **What rounding makes up for**: a number is rounded to at least a whole number exactly when it
falls short of it by at most half of the gap below. -/
theorem le_nearest_iff (hpos : 0 < n) (h : n < 2 ^ 52) {y : ℚ} (hy : 0 ≤ y) :
    (n : ℚ) ≤ nearest y ↔ n - halfGap n ≤ y := by
  obtain ⟨m, heven, hm⟩ := exists_even h
  have hlow := zpow_le_sub_gap hpos h
  have hpower : (0 : ℚ) < 2 ^ ((Nat.clog 2 n : ℤ) - 1) := by positivity
  have hgap : halfGap n = 2 ^ ((Nat.clog 2 n : ℤ) - 53) / 2 := by
    rw [halfGap, show (Nat.clog 2 n : ℤ) - 54 = (Nat.clog 2 n : ℤ) - 53 - 1 by ring,
      zpow_sub_one₀ two_ne_zero, div_eq_mul_inv]
  have hgappos := halfGap_pos n
  set grid : ℚ := 2 ^ ((Nat.clog 2 n : ℤ) - 53) with hgrid
  have hgridpos : 0 < grid := by positivity
  constructor
  · -- what is nearer to the float before is rounded to it
    intro hle
    by_contra hlt
    push Not at hlt
    have hbelow : ∀ x, n - 2 * halfGap n ≤ x → x < n - halfGap n → nearest x < n := by
      intro x hx hxlt
      have hexponent := gridExponent_below h (hlow.trans hx) (by linarith)
      have hround : roundHalfEven (x / grid) = m - 1 := by
        refine roundHalfEven_eq_of_lt ?_ ?_
        · rw [le_div_iff₀ hgridpos]
          push_cast
          linarith
        · rw [div_lt_iff₀ hgridpos]
          push_cast
          linarith
      rw [nearest_of_pos (by linarith), hexponent, ← hgrid, hround]
      push_cast
      linarith
    rcases le_total (n - 2 * halfGap n) y with hin | hout
    · exact absurd hle (not_le.2 (hbelow y hin hlt))
    · have hmono := nearest_mono hy hout
      exact absurd (hle.trans hmono) (not_le.2 (hbelow _ le_rfl (by linarith)))
  · -- and half of the gap is made up for, since the whole number is even
    intro hle
    have hmiddle : nearest (n - halfGap n) = n := by
      have hexponent := gridExponent_below h (y := n - halfGap n) (by linarith) (by linarith)
      have hquotient : (n - halfGap n) / grid = ((m - 1 : ℤ) : ℚ) + 1 / 2 := by
        rw [div_eq_iff hgridpos.ne']
        push_cast
        linarith
      rw [nearest_of_pos (by linarith), hexponent, ← hgrid, hquotient,
        roundHalfEven_of_odd (by omega), hm]
      push_cast
      ring
    rw [← hmiddle]
    exact nearest_mono (by linarith) hle

end

end AgenticCommerce
