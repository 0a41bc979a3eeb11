/-
# Decimal numbers in texts

The numbers that `Decimal(text)` and `float(text)` read: digits with a point among them, a sign
and an exponent, as the rational number they write.  `Decimal` passes over underscores, `float`
takes them between digits only.  The amounts of `decimal` at a fixed number of places are
`halfUp` and `quantize`.
-/

import AgenticCommerce.Text.HostAddresses
import AgenticCommerce.Text.JsonText
import Mathlib.Algebra.Order.Floor.Ring
import Mathlib.Data.Rat.Floor
import Mathlib.Tactic.Linarith
import Mathlib.Tactic.Positivity

namespace AgenticCommerce
namespace Decimals

/-! ### Numbers -/

/-- A nonempty run of digits. -/
def digits? (ds : List Char) : Option ℕ :=
  if ds ≠ [] ∧ ds.all Char.isDigit then some (Json.readNat ds) else none

/-- The exponent at the end of a number, if there is one. -/
def exponent? : List Char → Option ℤ
  | [] => some 0
  | c :: text =>
      if c = 'e' ∨ c = 'E' then match text with
        | '-' :: ds => (digits? ds).map fun n => -(n : ℤ)
        | '+' :: ds => (digits? ds).map fun n => (n : ℤ)
        | ds => (digits? ds).map fun n => (n : ℤ)
      else none

/-- The digits behind a point, if there is one, and what follows. -/
def fraction : List Char → List Char × List Char
  | '.' :: text => (text.takeWhile Char.isDigit, text.dropWhile Char.isDigit)
  | text => ([], text)

/-- A number without its sign. -/
def unsigned? (text : List Char) : Option ℚ :=
  let whole := text.takeWhile Char.isDigit
  let (part, rest) := fraction (text.dropWhile Char.isDigit)
  if whole ++ part = [] then none
  else (exponent? rest).map fun e =>
    (Json.readNat (whole ++ part) : ℚ) * 10 ^ (e - (part.length : ℤ))

/-- A number with or without a sign. -/
def signed? : List Char → Option ℚ
  | '-' :: text => (unsigned? text).map fun q => -q
  | '+' :: text => unsigned? text
  | text => unsigned? text

/-- Whether each underscore is between two digits; `after` tells whether a digit is before. -/
def between (after : Bool) : List Char → Bool
  | [] => true
  | '_' :: c :: text => after && c.isDigit && between true text
  | ['_'] => false
  | c :: text => between c.isDigit text

section

variable (digit : Char → Option ℕ)

/-- The finite number that `Decimal(text)` is; it refuses a text without one or holds no number
that can be rounded. -/
def decimal? (text : List Char) : Option ℚ :=
  signed? (((Strings.strip text).filter (· ≠ '_')).map (HostAddresses.transformed digit))

/-- A text without the spaces around it, in ASCII. -/
def asciiNumber (text : List Char) : List Char :=
  ((text.map (HostAddresses.transformed digit)).dropWhile
    HostAddresses.isAsciiSpace).rdropWhile HostAddresses.isAsciiSpace

/-- The finite number that `float(text)` reads, before it is rounded. -/
def written? (text : List Char) : Option ℚ :=
  let number := asciiNumber digit text
  if between false number then signed? (number.filter (· ≠ '_')) else none

end

/-- An ASCII text is read as it is. -/
theorem decimal?_of_ascii {digit : Char → Option ℕ} {text number : List Char}
    (h : (Strings.strip text).filter (· ≠ '_') = number) (hascii : ∀ c ∈ number, c.toNat < 128) :
    decimal? digit text = signed? number := by
  have hsame : number.map (HostAddresses.transformed digit) = number := by
    refine (List.map_congr_left fun c hc => ?_).trans (List.map_id number)
    exact if_pos (hascii c hc)
  rw [decimal?, h, hsame]

/-! ### Rounding -/

/-- `ROUND_HALF_UP` to an integer: of two that are as near, the one away from zero. -/
def halfUp (q : ℚ) : ℤ := if 0 ≤ q then ⌊q + 1 / 2⌋ else -⌊-q + 1 / 2⌋

/-- `value.quantize(Decimal("0.01"), rounding=ROUND_HALF_UP)`: a result of more than 28 digits is
refused. -/
def quantize (q : ℚ) : Option ℚ :=
  if |halfUp (q * 100)| < 10 ^ 28 then some (halfUp (q * 100) / 100) else none

@[simp] theorem halfUp_intCast (n : ℤ) : halfUp n = n := by
  rw [halfUp]
  split_ifs with h
  · rw [Int.floor_eq_iff]
    constructor <;> linarith
  · have hfloor : ⌊-(n : ℚ) + 1 / 2⌋ = -n := by
      rw [Int.floor_eq_iff]
      push_cast
      constructor <;> linarith
    rw [hfloor, neg_neg]

/-- The number that is nearest, the greater of two. -/
theorem halfUp_eq_iff {q : ℚ} {n : ℤ} (hn : 0 < n) :
    halfUp q = n ↔ (n : ℚ) - 1 / 2 ≤ q ∧ q < n + 1 / 2 := by
  have hn' : (1 : ℚ) ≤ n := by exact_mod_cast hn
  rw [halfUp]
  split_ifs with h
  · rw [Int.floor_eq_iff]
    constructor <;> rintro ⟨hlow, hhigh⟩ <;> constructor <;> linarith
  · constructor
    · intro heq
      have hfloor : (0 : ℤ) ≤ ⌊-q + 1 / 2⌋ := Int.floor_nonneg.2 (by linarith)
      omega
    · rintro ⟨hlow, -⟩
      linarith

/-- Two places and the whole hundredths are rounded as one. -/
theorem halfUp_quantize {q r : ℚ} (h : quantize q = some r) :
    halfUp (r * 100) = halfUp (q * 100) := by
  rw [quantize] at h
  split_ifs at h
  rw [← Option.some.inj h, div_mul_cancel₀ _ (by norm_num), halfUp_intCast]

/-- What is refused has too many digits. -/
theorem quantize_eq_none {q : ℚ} : quantize q = none ↔ ¬|halfUp (q * 100)| < 10 ^ 28 := by
  rw [quantize]
  split_ifs with h
  · exact ⟨nofun, fun hlarge => absurd h hlarge⟩
  · exact ⟨fun _ => h, fun _ => rfl⟩

end Decimals
end AgenticCommerce
