/-
# Texts, as Python's `str` has them

The methods of `str` that depend on the character tables only through white space and line
boundaries: `strip`, `splitlines`, `join`, and the tests for a prefix, a suffix and a part.  Texts
are lists of characters here.
-/

import Mathlib.Data.List.Basic
import Mathlib.Data.List.DropRight
import Mathlib.Data.List.Infix

namespace AgenticCommerce
namespace Strings

/-- Texts are equal where their characters are. -/
instance lawful : LawfulBEq (List Char) := inferInstance

/-- `c.isspace()`. -/
def isSpace (c : Char) : Bool :=
  let n := c.toNat
  (9 ≤ n && n ≤ 13) || (28 ≤ n && n ≤ 32) || n == 0x85 || n == 0xa0 || n == 0x1680 ||
    (0x2000 ≤ n && n ≤ 0x200a) || n == 0x2028 || n == 0x2029 || n == 0x202f || n == 0x205f ||
    n == 0x3000

/-- A character that ends a line for `splitlines`. -/
def isLineBreak (c : Char) : Bool :=
  let n := c.toNat
  (10 ≤ n && n ≤ 13) || (28 ≤ n && n ≤ 30) || n == 0x85 || n == 0x2028 || n == 0x2029

/-- What ends a line is white space. -/
theorem isSpace_of_isLineBreak {c : Char} (h : isLineBreak c = true) : isSpace c = true := by
  simp only [isLineBreak, isSpace, Bool.or_eq_true, Bool.and_eq_true, decide_eq_true_eq,
    beq_iff_eq] at h ⊢
  omega

/-- `text.rstrip()`. -/
def rstrip (text : List Char) : List Char := text.rdropWhile isSpace

/-- `text.strip()`. -/
def strip (text : List Char) : List Char := rstrip (text.dropWhile isSpace)

/-- `text.startswith(start)`. -/
def startsWith (start text : List Char) : Bool := start.isPrefixOf text

/-- `text.endswith(last)`. -/
def endsWith (last text : List Char) : Bool := last.isSuffixOf text

/-- `part in text`. -/
def contains (part : List Char) : List Char → Bool
  | [] => part.isPrefixOf []
  | c :: text => part.isPrefixOf (c :: text) || contains part text

/-- A text that has a part is the part with something before and something after. -/
theorem contains_iff {part : List Char} : ∀ {text : List Char},
    contains part text = true ↔ part <:+: text
  | [] => by simp [contains]
  | c :: text => by
      rw [contains, Bool.or_eq_true, contains_iff, List.isPrefixOf_iff_prefix,
        List.infix_cons_iff]

theorem startsWith_iff {start text : List Char} :
    startsWith start text = true ↔ start <+: text := List.isPrefixOf_iff_prefix

theorem endsWith_iff {last text : List Char} :
    endsWith last text = true ↔ last <:+ text := List.isSuffixOf_iff_suffix

/-- What a test finds of every character of a text. -/
theorem forall_mem_of_all {P : Char → Prop} [DecidablePred P] {text : List Char}
    (h : (text.all fun c => decide (P c)) = true) : ∀ c ∈ text, P c :=
  fun c hc => of_decide_eq_true (List.all_eq_true.1 h c hc)

/-! ### What `strip` leaves -/

/-- A text that begins and ends with no white space is stripped already. -/
theorem strip_eq_self {text : List Char} (hhead : ∀ c, text.head? = some c → isSpace c = false)
    (hlast : ∀ c, text.getLast? = some c → isSpace c = false) : strip text = text := by
  have hfront : text.dropWhile isSpace = text := by
    refine List.dropWhile_eq_self_iff.2 fun hlength => ?_
    rw [hhead _ (List.head?_eq_getElem? ▸ List.getElem?_eq_getElem hlength)]
    exact Bool.false_ne_true
  have hback : text.rdropWhile isSpace = text := by
    refine List.rdropWhile_eq_self_iff.2 fun hne => ?_
    rw [hlast _ (List.getLast?_eq_some_getLast hne)]
    exact Bool.false_ne_true
  rw [strip, hfront, rstrip, hback]

/-- A stripped text begins with no white space. -/
theorem isSpace_of_head?_strip {text : List Char} {c : Char} (h : (strip text).head? = some c) :
    isSpace c = false := by
  obtain ⟨rest, hrest⟩ := List.head?_eq_some_iff.1 h
  obtain ⟨back, hback⟩ := List.rdropWhile_prefix isSpace (text.dropWhile isSpace)
  have hdrop : (text.dropWhile isSpace).head? = some c := by
    rw [← hback]
    show (strip text ++ back).head? = some c
    rw [hrest]
    rfl
  have := List.head?_dropWhile_not isSpace text
  rwa [hdrop] at this

/-- A stripped text ends with no white space. -/
theorem isSpace_of_getLast?_strip {text : List Char} {c : Char}
    (h : (strip text).getLast? = some c) : isSpace c = false := by
  have hne : strip text ≠ [] := by
    intro hnil
    rw [hnil] at h
    cases h
  have hlast := List.rdropWhile_last_not isSpace (text.dropWhile isSpace) hne
  rw [List.getLast?_eq_some_getLast hne, Option.some.injEq] at h
  exact h ▸ Bool.eq_false_iff.2 hlast

theorem strip_strip (text : List Char) : strip (strip text) = strip text :=
  strip_eq_self (fun _ => isSpace_of_head?_strip) fun _ => isSpace_of_getLast?_strip

end Strings
end AgenticCommerce
