/-
# Regular expressions that backtrack

The expressions of Python's `re` that repeat a single character only, and their matches in the
order in which a backtracking matcher tries them: a choice tries its left side first, a greedy
repetition the longest run first, a lazy one the shortest.  A match is given by what it leaves
over, so `rests` lists the texts left over after a match at the start of a text, the preferred one
first.
-/

import Mathlib.Data.List.Basic
import Mathlib.Data.List.Infix

namespace AgenticCommerce

/-- A regular expression. -/
inductive Regex where
  /-- Matches the empty text. -/
  | empty
  /-- A character of a class. -/
  | one (p : Char → Bool)
  /-- `[…]*`: a run of a class, the longest first. -/
  | star (p : Char → Bool)
  /-- `[…]*?`: a run of a class, the shortest first. -/
  | lazyStar (p : Char → Bool)
  /-- One after the other. -/
  | seq (r s : Regex)
  /-- `r|s`. -/
  | alt (r s : Regex)

namespace Regex

/-- What a greedy run of a class leaves over. -/
def starRests (p : Char → Bool) : List Char → List (List Char)
  | [] => [[]]
  | c :: text => if p c then starRests p text ++ [c :: text] else [c :: text]

/-- What a lazy run of a class leaves over. -/
def lazyRests (p : Char → Bool) : List Char → List (List Char)
  | [] => [[]]
  | c :: text => (c :: text) :: if p c then lazyRests p text else []

/-- What the matches at the start of a text leave over, the preferred match first. -/
def rests : Regex → List Char → List (List Char)
  | empty, text => [text]
  | one _, [] => []
  | one p, c :: text => if p c then [text] else []
  | star p, text => starRests p text
  | lazyStar p, text => lazyRests p text
  | seq r s, text => (r.rests text).flatMap s.rests
  | alt r s, text => r.rests text ++ s.rests text

/-- `[…]+`. -/
def plus (p : Char → Bool) : Regex := seq (one p) (star p)

/-- `(r)?`. -/
def opt (r : Regex) : Regex := alt r empty

/-- One expression after the other. -/
def all (parts : List Regex) : Regex := parts.foldr seq empty

/-- `[…]{n}`. -/
def exactly (n : ℕ) (p : Char → Bool) : Regex := all (List.replicate n (one p))

/-- `[…]{n,}`. -/
def atLeast (n : ℕ) (p : Char → Bool) : Regex := seq (exactly n p) (star p)

/-- `r|s|…`, for at least one expression. -/
def any (first : Regex) : List Regex → Regex
  | [] => first
  | second :: more => alt first (any second more)

/-- The characters that a text matches under a class for each. -/
def spelled (folds : Char → Char → Bool) (text : String) : Regex :=
  all (text.toList.map fun c => one (folds c))

/-- The Kelvin sign. -/
def kelvin : Char := Char.ofNat 0x212a

/-- The characters that a small letter of a pattern matches under `re.I`. -/
def ignoreCase (letter c : Char) : Bool :=
  c == letter || c == letter.toUpper ||
    (letter == 's' && c == 'ſ') || (letter == 'k' && c == kelvin) ||
    (letter == 'i' && (c == 'İ' || c == 'ı'))

/-- A literal part of a pattern under `re.I`, in small letters. -/
def literal (text : String) : Regex := spelled ignoreCase text

/-- Whether an expression matches at the start of a text. -/
def matchesHere (r : Regex) (text : List Char) : Bool := !(r.rests text).isEmpty

/-- Whether an expression matches at the start of a text up to `$`: the end, or a line feed at the
end. -/
def matchesLine (r : Regex) (text : List Char) : Bool :=
  (r.rests text).any fun rest => rest == [] || rest == ['\n']

/-- `re.search`: whether an expression matches somewhere in a text. -/
def search (r : Regex) : List Char → Bool
  | [] => r.matchesHere []
  | c :: text => r.matchesHere (c :: text) || r.search text

@[simp] theorem matchesHere_empty (text : List Char) : empty.matchesHere text = true := rfl

@[simp] theorem matchesHere_one_nil (p : Char → Bool) (r : Regex) :
    (seq (one p) r).matchesHere [] = false := rfl

/-- A character of a class, and then the rest. -/
@[simp] theorem matchesHere_one (p : Char → Bool) (r : Regex) (c : Char) (text : List Char) :
    (seq (one p) r).matchesHere (c :: text) = (p c && r.matchesHere text) := by
  simp only [matchesHere, rests]
  cases p c <;> simp

theorem suffix_of_mem_starRests {p : Char → Bool} : ∀ {text rest : List Char},
    rest ∈ starRests p text → rest <:+ text
  | [], rest, h => by
      rw [starRests, List.mem_singleton] at h
      exact h ▸ List.suffix_refl _
  | c :: text, rest, h => by
      rw [starRests] at h
      split_ifs at h
      · rcases List.mem_append.1 h with h | h
        · exact (suffix_of_mem_starRests h).trans (List.suffix_cons c text)
        · exact List.mem_singleton.1 h ▸ List.suffix_refl _
      · exact List.mem_singleton.1 h ▸ List.suffix_refl _

theorem suffix_of_mem_lazyRests {p : Char → Bool} : ∀ {text rest : List Char},
    rest ∈ lazyRests p text → rest <:+ text
  | [], rest, h => by
      rw [lazyRests, List.mem_singleton] at h
      exact h ▸ List.suffix_refl _
  | c :: text, rest, h => by
      rw [lazyRests, List.mem_cons] at h
      rcases h with rfl | h
      · exact List.suffix_refl _
      · split_ifs at h
        · exact (suffix_of_mem_lazyRests h).trans (List.suffix_cons c text)
        · cases h

/-- What a match leaves over is an end of the text. -/
theorem suffix_of_mem_rests : ∀ (r : Regex) {text rest : List Char},
    rest ∈ r.rests text → rest <:+ text
  | empty, text, rest, h => List.mem_singleton.1 h ▸ List.suffix_refl _
  | one _, [], rest, h => by cases h
  | one p, c :: text, rest, h => by
      rw [rests] at h
      split_ifs at h
      · exact List.mem_singleton.1 h ▸ List.suffix_cons c text
      · cases h
  | star _, _, _, h => suffix_of_mem_starRests h
  | lazyStar _, _, _, h => suffix_of_mem_lazyRests h
  | seq r s, text, rest, h => by
      obtain ⟨middle, hr, hs⟩ := List.mem_flatMap.1 h
      exact (suffix_of_mem_rests s hs).trans (suffix_of_mem_rests r hr)
  | alt r s, text, rest, h => by
      rcases List.mem_append.1 h with h | h
      · exact suffix_of_mem_rests r h
      · exact suffix_of_mem_rests s h

/-- **A search finds the matches at any place of the text.** -/
theorem search_iff (r : Regex) : ∀ {text : List Char},
    r.search text = true ↔ ∃ rest, rest <:+ text ∧ r.matchesHere rest = true
  | [] => by
      constructor
      · intro h
        exact ⟨[], List.suffix_refl _, h⟩
      · rintro ⟨rest, hrest, h⟩
        rwa [List.suffix_nil.1 hrest] at h
  | c :: text => by
      rw [search, Bool.or_eq_true, search_iff]
      constructor
      · rintro (h | ⟨rest, hrest, h⟩)
        · exact ⟨_, List.suffix_refl _, h⟩
        · exact ⟨rest, hrest.trans (List.suffix_cons c text), h⟩
      · rintro ⟨rest, hrest, h⟩
        rcases List.suffix_cons_iff.1 hrest with rfl | hrest
        · exact .inl h
        · exact .inr ⟨rest, hrest, h⟩

/-! ### Groups -/

/-- What the expressions of a pattern match at the start of a text, one after the other, with what
is left over, the preferred match first. -/
def groups : List Regex → List Char → List (List (List Char) × List Char)
  | [], text => [([], text)]
  | r :: more, text => (r.rests text).flatMap fun rest =>
      (groups more rest).map fun found =>
        (text.take (text.length - rest.length) :: found.1, found.2)

/-- The groups of `re.search`, with what follows the match. -/
def searchGroups (parts : List Regex) : List Char → Option (List (List Char) × List Char)
  | [] => (groups parts []).head?
  | c :: text => (groups parts (c :: text)).head?.or (searchGroups parts text)

end Regex
end AgenticCommerce
