/-
# Expressions behind a word boundary

`\b…` of Python's `re`: an expression that matches only where a word begins or ends, which depends
on the character before.  What such an expression does not find in a text it does not find after
the matches of another one were replaced either (`wordSearch_wordSubFrom_eq_false`): a replacement
whose ends it avoids does not help it to a match, and right behind a replacement, where the boundary
may be new, it cannot begin.  So nothing is left of several expressions once each was replaced
(`wordSearch_wordSubAll`).

Characters that all expressions avoid cut a text into parts that are treated each by itself
(`Passes`).
-/

import AgenticCommerce.Text.Segments
import AgenticCommerce.Text.Substitution

namespace AgenticCommerce
namespace Regex

section

variable (isWord : Char → Bool) (r : Regex)

/-- `\b`: what is before and what follows are not both in a word, and not both outside. -/
def boundary (before : Option Char) (text : List Char) : Bool :=
  before.any isWord != text.head?.any isWord

/-- What the matches of `\br` at a place leave over. -/
def wordRests (before : Option Char) (text : List Char) : List (List Char) :=
  if boundary isWord before text then r.rests text else []

/-- Whether `\br` matches somewhere. -/
def wordSearch : Option Char → List Char → Bool
  | before, [] => !(wordRests isWord r before []).isEmpty
  | before, c :: text =>
      !(wordRests isWord r before (c :: text)).isEmpty || wordSearch (some c) text

/-- The text with the matches of `\br` replaced, but for so many characters that are skipped
first. -/
def wordSubFrom (replacement : List Char) : ℕ → Option Char → List Char → List Char
  | _, _, [] => []
  | skip + 1, _, c :: text => wordSubFrom replacement skip (some c) text
  | 0, before, c :: text =>
      match wordRests isWord r before (c :: text) with
      | rest :: _ =>
          replacement ++ wordSubFrom replacement (text.length - rest.length) (some c) text
      | [] => c :: wordSubFrom replacement 0 (some c) text

/-- `pattern.sub(replacement, text)`, for `\br`. -/
def wordSub (replacement text : List Char) : List Char :=
  wordSubFrom isWord r replacement 0 none text

/-- One pattern after the other. -/
def wordSubAll (patterns : List Regex) (replacement text : List Char) : List Char :=
  patterns.foldl (fun text pattern => wordSub isWord pattern replacement text) text

end

/-- Whether a match that is not empty may begin with a character. -/
def mayBegin (c : Char) : Regex → Bool
  | empty => false
  | one p => p c
  | star p => p c
  | lazyStar p => p c
  | seq r s => r.mayBegin c || (!r.consumes && s.mayBegin c)
  | alt r s => r.mayBegin c || s.mayBegin c

/-- The class of the run that an expression ends with. -/
def lastRun : Regex → Option (Char → Bool)
  | star p => some p
  | seq _ s => s.lastRun
  | _ => none

variable {isWord : Char → Bool} {q r : Regex}

theorem rests_of_wordRests {before : Option Char} {text rest : List Char}
    (h : rest ∈ wordRests isWord r before text) : rest ∈ r.rests text := by
  rw [wordRests] at h
  split_ifs at h
  · exact h
  · cases h

theorem rests_eq_of_wordRests {before : Option Char} {text rest : List Char}
    {more : List (List Char)} (h : wordRests isWord r before text = rest :: more) :
    r.rests text = rest :: more := by
  rw [wordRests] at h
  split_ifs at h
  exact h

/-- An expression that matches no empty text matches nothing at the end. -/
theorem rests_nil_of_consumes (hr : r.consumes = true) : r.rests [] = [] := by
  refine List.eq_nil_iff_forall_not_mem.2 fun rest hrest => ?_
  exact absurd (length_lt_of_consumes hr hrest) (Nat.not_lt_zero _)

/-- The result goes along with the text up to the first replacement. -/
theorem wordSub_front (isWord : Char → Bool) (r : Regex) (first : Char) (others : List Char) :
    ∀ (text : List Char) (before : Option Char), ∃ front more, text = front ++ more ∧
      ((wordSubFrom isWord r (first :: others) 0 before text = front ∧ more = []) ∨
        ∃ y, wordSubFrom isWord r (first :: others) 0 before text = front ++ first :: y)
  | [], _ => ⟨[], [], rfl, .inl ⟨rfl, rfl⟩⟩
  | c :: text, before => by
      rw [wordSubFrom]
      cases wordRests isWord r before (c :: text) with
      | cons rest rests => exact ⟨[], c :: text, rfl, .inr ⟨_, rfl⟩⟩
      | nil =>
          obtain ⟨front, more, rfl, ⟨heq, rfl⟩ | ⟨y, heq⟩⟩ :=
            wordSub_front isWord r first others text (some c)
          · exact ⟨c :: front, [], rfl, .inl ⟨by rw [heq], rfl⟩⟩
          · exact ⟨c :: front, more, rfl, .inr ⟨y, by rw [heq]; rfl⟩⟩

/-- What an expression that avoids the first character of a replacement matches in the result, it
matches in the text. -/
theorem rests_ne_nil_of_front {first : Char} (hfirst : q.avoids first = true)
    {text result front more : List Char} (htext : text = front ++ more)
    (hresult : (result = front ∧ more = []) ∨ ∃ y, result = front ++ first :: y)
    (h : q.rests result ≠ []) : q.rests text ≠ [] := by
  obtain ⟨left, hleft⟩ := List.exists_mem_of_ne_nil _ h
  rcases hresult with ⟨rfl, rfl⟩ | ⟨y, rfl⟩
  · rw [htext, List.append_nil]
    exact h
  · obtain ⟨left', -, hleft'⟩ := of_mem_rests_barrier hfirst hleft
    rw [htext]
    exact List.ne_nil_of_mem (mem_rests_append hleft')

/-- A replacement without a match within, in characters that the expression avoids, has no match
that begins in it. -/
theorem wordSearch_replacement (hq : q.consumes = true) {last : Char}
    (hlast : q.avoids last = true) {rest : List Char}
    (hrest : wordSearch isWord q (some last) rest = false) : ∀ (body : List Char)
    (before : Option Char), q.search body = false →
      wordSearch isWord q before (body ++ last :: rest) = false
  | [], before, hbody => by
      have hno : q.rests (last :: rest) = [] := by
        by_contra h
        obtain ⟨left, hleft⟩ := List.exists_mem_of_ne_nil _ h
        obtain ⟨left', -, hleft'⟩ := of_mem_rests_barrier (x := []) hlast hleft
        rw [rests_nil_of_consumes hq] at hleft'
        cases hleft'
      rw [List.nil_append, wordSearch, hrest, wordRests, hno, ite_self]
      rfl
  | c :: body, before, hbody => by
      obtain ⟨hhere, hthere⟩ := Bool.or_eq_false_iff.1 hbody
      have hno : q.rests (c :: body ++ last :: rest) = [] := by
        by_contra h
        obtain ⟨left, hleft⟩ := List.exists_mem_of_ne_nil _ h
        obtain ⟨left', -, hleft'⟩ := of_mem_rests_barrier hlast hleft
        rw [matchesHere_eq_false_iff.1 hhere] at hleft'
        cases hleft'
      rw [List.cons_append] at hno ⊢
      rw [wordSearch, wordSearch_replacement hq hlast hrest body (some c) hthere, wordRests, hno,
        ite_self]
      rfl

/-- **What an expression does not find before a replacement it does not find after it**, when it
avoids the ends of what is put in, does not match within, and does not begin where the replaced
matches end.  Of the expression that is replaced itself nothing else is asked. -/
theorem wordSearch_wordSubFrom_eq_false (hq : q.consumes = true) (hr : r.consumes = true)
    {first last : Char} {body : List Char} (hfirst : q.avoids first = true)
    (hlast : q.avoids last = true) (hbody : q.search (first :: body) = false)
    (hend : ∀ text rest more, r.rests text = rest :: more → q.rests rest = []) :
    ∀ (text : List Char) (skip : ℕ) (before before' : Option Char),
      (q = r ∨ wordSearch isWord q before text = false) →
      (skip = 0 ∧ before' = before ∨ q.rests (text.drop skip) = []) →
        wordSearch isWord q before'
          (wordSubFrom isWord r (first :: (body ++ [last])) skip before text) = false
  | [], skip, before, before', _, _ => by
      rw [wordSubFrom, wordSearch, wordRests, rests_nil_of_consumes hq, ite_self]
      rfl
  | c :: text, skip + 1, before, before', hkept, hplace => by
      have hkept' : q = r ∨ wordSearch isWord q (some c) text = false :=
        hkept.imp_right fun h => (Bool.or_eq_false_iff.1 h).2
      rw [wordSubFrom]
      refine wordSearch_wordSubFrom_eq_false hq hr hfirst hlast hbody hend text skip _ _ hkept' ?_
      exact hplace.imp_left fun h => absurd h.1 (Nat.succ_ne_zero skip)
  | c :: text, 0, before, before', hkept, hplace => by
      have hkept' : q = r ∨ wordSearch isWord q (some c) text = false :=
        hkept.imp_right fun h => (Bool.or_eq_false_iff.1 h).2
      rw [wordSubFrom]
      cases hrests : wordRests isWord r before (c :: text) with
      | cons rest more =>
          -- behind the replacement, where the expression does not begin
          have hmem : rest ∈ r.rests (c :: text) :=
            rests_of_wordRests (hrests ▸ List.mem_cons_self)
          have hsuffix : rest <:+ text := by
            rcases List.suffix_cons_iff.1 (suffix_of_mem_rests r hmem) with rfl | h
            · exact absurd (length_lt_of_consumes hr hmem) (lt_irrefl _)
            · exact h
          have hdrop : text.drop (text.length - rest.length) = rest :=
            (List.suffix_iff_eq_drop.1 hsuffix).symm
          have hstart : q.rests rest = [] := hend _ _ _ (rests_eq_of_wordRests hrests)
          have hrec := wordSearch_wordSubFrom_eq_false hq hr hfirst hlast hbody hend text
            (text.length - rest.length) (some c) (some last) hkept' (.inr (hdrop.symm ▸ hstart))
          have hsearch := wordSearch_replacement hq hlast hrec (first :: body) before' hbody
          simpa using hsearch
      | nil =>
          dsimp only
          have hrec := wordSearch_wordSubFrom_eq_false hq hr hfirst hlast hbody hend text 0 (some c)
            (some c) hkept' (.inl ⟨rfl, rfl⟩)
          rw [wordSearch, hrec, Bool.or_false, Bool.not_eq_false', List.isEmpty_iff]
          obtain ⟨front, more, hfront, hresult⟩ :=
            wordSub_front isWord r first (body ++ [last]) text (some c)
          by_contra hne
          rw [wordRests] at hne
          split_ifs at hne with hboundary
          · -- the match here would be one in the text
            have hmatch : q.rests (c :: text) ≠ [] := by
              have htext : c :: text = c :: front ++ more := by rw [hfront]; rfl
              refine rests_ne_nil_of_front hfirst htext ?_ hne
              refine hresult.imp (fun h => ⟨by rw [h.1], h.2⟩) fun ⟨y, h⟩ => ⟨y, by rw [h]; rfl⟩
            have hhere : wordRests isWord q before' (c :: text) ≠ [] := by
              rw [wordRests]
              exact (if_pos hboundary).trans_ne hmatch
            rcases hplace with ⟨-, rfl⟩ | hplace
            · rcases hkept with rfl | hkept
              · exact hhere hrests
              · rw [wordSearch, Bool.or_eq_false_iff, Bool.not_eq_false', List.isEmpty_iff] at hkept
                exact hhere hkept.1
            · exact hmatch hplace
          · exact hne rfl

/-! ### Where a match begins and ends -/

theorem mem_starRests_cons {p : Char → Bool} {c : Char} {text rest : List Char}
    (h : rest ∈ starRests p (c :: text)) : rest = c :: text ∨ p c = true := by
  rw [starRests] at h
  split_ifs at h with hc
  · exact .inr hc
  · exact .inl (List.mem_singleton.1 h)

theorem mem_lazyRests_cons {p : Char → Bool} {c : Char} {text rest : List Char}
    (h : rest ∈ lazyRests p (c :: text)) : rest = c :: text ∨ p c = true := by
  rw [lazyRests, List.mem_cons] at h
  split_ifs at h with hc
  · exact .inr hc
  · exact h.imp_right fun h => absurd h List.not_mem_nil

/-- A match is empty, or begins with a character with which it may. -/
theorem mayBegin_of_mem_rests {c : Char} {text : List Char} : ∀ {r : Regex} {rest : List Char},
    rest ∈ r.rests (c :: text) → rest = c :: text ∨ r.mayBegin c = true
  | empty, rest, h => .inl (List.mem_singleton.1 h)
  | one p, rest, h => by
      rw [rests] at h
      split_ifs at h with hc
      · exact .inr hc
      · cases h
  | star p, rest, h => mem_starRests_cons h
  | lazyStar p, rest, h => mem_lazyRests_cons h
  | seq r s, rest, h => by
      obtain ⟨middle, hmiddle, hrest⟩ := List.mem_flatMap.1 h
      rw [mayBegin, Bool.or_eq_true, Bool.and_eq_true, Bool.not_eq_true']
      rcases mayBegin_of_mem_rests hmiddle with rfl | hbegin
      · cases hr : r.consumes with
        | true => exact absurd (length_lt_of_consumes hr hmiddle) (lt_irrefl _)
        | false => exact (mayBegin_of_mem_rests hrest).imp_right fun h => .inr ⟨rfl, h⟩
      · exact .inr (.inl hbegin)
  | alt r s, rest, h => by
      rw [mayBegin, Bool.or_eq_true]
      rcases List.mem_append.1 h with h | h
      · exact (mayBegin_of_mem_rests h).imp_right .inl
      · exact (mayBegin_of_mem_rests h).imp_right .inr

/-- Nothing is matched at a character with which no match begins. -/
theorem rests_eq_nil_of_mayBegin (hq : q.consumes = true) {text : List Char}
    (h : ∀ c ∈ text.head?, q.mayBegin c = false) : q.rests text = [] := by
  cases text with
  | nil => exact rests_nil_of_consumes hq
  | cons c text =>
      refine List.eq_nil_iff_forall_not_mem.2 fun rest hrest => ?_
      rcases mayBegin_of_mem_rests hrest with rfl | hbegin
      · exact lt_irrefl _ (length_lt_of_consumes hq hrest)
      · exact Bool.false_ne_true ((h c rfl).symm.trans hbegin)

theorem starRests_eq_cons {p : Char → Bool} : ∀ {text rest : List Char} {more : List (List Char)},
    starRests p text = rest :: more → ∀ c ∈ rest.head?, p c = false
  | [], rest, more, h => by
      obtain ⟨rfl, -⟩ := List.cons.inj h
      nofun
  | c :: text, rest, more, h => by
      rw [starRests] at h
      split_ifs at h with hc
      · cases hstar : starRests p text with
        | nil =>
            rw [hstar] at h
            obtain ⟨rfl, -⟩ := List.cons.inj h
            cases text with
            | nil => cases hstar
            | cons d text =>
                rw [starRests] at hstar
                split_ifs at hstar with hd
                · exact absurd (List.append_eq_nil_iff.1 hstar).2 (List.cons_ne_nil _ _)
        | cons rest' more' =>
            rw [hstar, List.cons_append] at h
            obtain ⟨rfl, -⟩ := List.cons.inj h
            exact starRests_eq_cons hstar
      · obtain ⟨rfl, -⟩ := List.cons.inj h
        rintro d ⟨⟩
        exact Bool.eq_false_iff.2 hc

/-- What comes first of several lists comes first in one of them. -/
theorem exists_eq_cons_of_flatMap {α β : Type} {f : α → List β} {b : β} {more : List β} :
    ∀ {l : List α}, l.flatMap f = b :: more → ∃ a more', f a = b :: more'
  | [], h => by cases h
  | a :: l, h => by
      rw [List.flatMap_cons] at h
      cases hf : f a with
      | nil =>
          rw [hf, List.nil_append] at h
          exact exists_eq_cons_of_flatMap h
      | cons b' more' =>
          rw [hf] at h
          obtain ⟨rfl, -⟩ := List.cons.inj h
          exact ⟨a, more', hf⟩

/-- **A greedy run at the end goes on as long as it can**: the preferred match is not followed by a
character of the run. -/
theorem head_of_lastRun {p : Char → Bool} : ∀ {r : Regex} {text rest : List Char}
    {more : List (List Char)}, r.lastRun = some p → r.rests text = rest :: more →
      ∀ c ∈ rest.head?, p c = false
  | star p', text, rest, more, hlast, h => by
      cases hlast
      exact starRests_eq_cons h
  | seq r s, text, rest, more, hlast, h => by
      obtain ⟨middle, more', hs⟩ := exists_eq_cons_of_flatMap h
      have hlast' : s.lastRun = some p := hlast
      exact head_of_lastRun hlast' hs

/-- **Nothing is found once all patterns were replaced**: when they all avoid the ends of what is
put in, do not match within, and do not begin where one of them ends. -/
theorem wordSearch_wordSubAll {first last : Char} {body : List Char} {patterns : List Regex}
    (hall : ∀ q ∈ patterns, q.consumes = true ∧ q.avoids first = true ∧ q.avoids last = true ∧
      q.search (first :: body) = false)
    (hend : ∀ q ∈ patterns, ∀ r ∈ patterns, ∀ text rest more, r.rests text = rest :: more →
      q.rests rest = []) (text : List Char) :
    ∀ q ∈ patterns, wordSearch isWord q none
      (wordSubAll isWord patterns (first :: (body ++ [last])) text) = false := by
  suffices h : ∀ (done todo : List Regex) (text : List Char), done ⊆ patterns → todo ⊆ patterns →
      (∀ q ∈ done, wordSearch isWord q none text = false) → ∀ q ∈ done ++ todo, wordSearch isWord q
        none (wordSubAll isWord todo (first :: (body ++ [last])) text) = false from
    h [] patterns text (List.nil_subset _) (List.Subset.refl _) nofun
  intro done todo
  induction todo generalizing done with
  | nil =>
      intro text _ _ hdone q hq
      rw [List.append_nil] at hq
      exact hdone q hq
  | cons r todo ih =>
      intro text hsub htodo hdone q hq
      have hr : r ∈ patterns := htodo List.mem_cons_self
      have hsub' : done ++ [r] ⊆ patterns :=
        List.append_subset.2 ⟨hsub, List.cons_subset.2 ⟨hr, List.nil_subset _⟩⟩
      have htodo' : todo ⊆ patterns := (List.cons_subset.1 htodo).2
      refine ih (done ++ [r]) _ hsub' htodo' (fun q' hq' => ?_) q (by simpa using hq)
      obtain ⟨hconsumes, hfirst, hlast, hbody⟩ := hall q' (hsub' hq')
      refine wordSearch_wordSubFrom_eq_false hconsumes (hall r hr).1 hfirst hlast hbody
        (hend q' (hsub' hq') r hr) text 0 none none ?_ (.inl ⟨rfl, rfl⟩)
      rcases List.mem_append.1 hq' with hq' | hq'
      · exact .inr (hdone q' hq')
      · exact .inl (List.mem_singleton.1 hq')

/-! ### Characters that the patterns avoid -/

section

variable {b : Char} {replacement : List Char}

/-- What is before a text matters through the boundary alone. -/
theorem wordSubFrom_before {before before' : Option Char}
    (h : before.any isWord = before'.any isWord) : ∀ text : List Char,
      wordSubFrom isWord r replacement 0 before text =
        wordSubFrom isWord r replacement 0 before' text
  | [] => rfl
  | c :: text => by
      have hrests :
          wordRests isWord r before (c :: text) = wordRests isWord r before' (c :: text) := by
        rw [wordRests, wordRests, boundary, boundary, h]
      rw [wordSubFrom, wordSubFrom, hrests]

theorem wordRests_barrier (hb : r.avoids b = true) (hword : isWord b = false) (y : List Char)
    (before : Option Char) (x : List Char) :
    wordRests isWord r before (x ++ b :: y) = (wordRests isWord r before x).map (· ++ b :: y) := by
  have hboundary : boundary isWord before (x ++ b :: y) = boundary isWord before x := by
    cases x with
    | nil => rw [boundary, boundary, List.nil_append, List.head?_cons, Option.any_some, hword]; rfl
    | cons c x => rfl
  rw [wordRests, wordRests, hboundary, rests_barrier y hb]
  split_ifs <;> rfl

/-- **A character outside of words that the pattern avoids** stays, and what is before and what is
after it are treated by themselves. -/
theorem wordSubFrom_barrier (hr : r.consumes = true) (hb : r.avoids b = true)
    (hword : isWord b = false) (y : List Char) : ∀ (x : List Char) (skip : ℕ)
    (before : Option Char), skip ≤ x.length →
      wordSubFrom isWord r replacement skip before (x ++ b :: y) =
        wordSubFrom isWord r replacement skip before x ++ b :: wordSub isWord r replacement y
  | [], skip, before, hskip => by
      obtain rfl := Nat.le_zero.1 hskip
      have hnil : wordRests isWord r before [] = [] := by
        rw [wordRests, rests_nil_of_consumes hr, ite_self]
      have hrests := wordRests_barrier hb hword y before []
      rw [hnil, List.map_nil, List.nil_append] at hrests
      rw [List.nil_append, wordSubFrom, wordSubFrom, hrests, wordSub]
      exact congrArg (List.cons b) (wordSubFrom_before (by rw [Option.any_some, hword]; rfl) y)
  | c :: x, skip + 1, before, hskip => by
      rw [List.cons_append, wordSubFrom, wordSubFrom]
      exact wordSubFrom_barrier hr hb hword y x skip _ (Nat.le_of_succ_le_succ hskip)
  | c :: x, 0, before, hskip => by
      have hrests := wordRests_barrier hb hword y before (c :: x)
      rw [List.cons_append] at hrests
      rw [List.cons_append, wordSubFrom, wordSubFrom, hrests]
      cases wordRests isWord r before (c :: x) with
      | nil =>
          exact congrArg (List.cons c)
            (wordSubFrom_barrier hr hb hword y x 0 (some c) (Nat.zero_le _))
      | cons rest more =>
          have hlength :
              (x ++ b :: y).length - (rest ++ b :: y).length = x.length - rest.length := by
            rw [List.length_append, List.length_append]
            omega
          rw [List.map_cons]
          dsimp only
          rw [hlength, wordSubFrom_barrier hr hb hword y x _ (some c) (Nat.sub_le _ _),
            List.append_assoc]

theorem mem_wordSubFrom {c : Char} : ∀ {text : List Char} {skip : ℕ} {before : Option Char},
    c ∈ wordSubFrom isWord r replacement skip before text → c ∈ replacement ∨ c ∈ text
  | [], _, _, h => absurd h (by rw [wordSubFrom]; exact List.not_mem_nil)
  | d :: text, skip + 1, before, h => by
      rw [wordSubFrom] at h
      exact (mem_wordSubFrom h).imp_right (List.mem_cons_of_mem d)
  | d :: text, 0, before, h => by
      rw [wordSubFrom] at h
      cases hrests : wordRests isWord r before (d :: text) with
      | nil =>
          rw [hrests] at h
          rcases List.mem_cons.1 h with rfl | h
          · exact .inr List.mem_cons_self
          · exact (mem_wordSubFrom h).imp_right (List.mem_cons_of_mem d)
      | cons rest more =>
          rw [hrests] at h
          rcases List.mem_append.1 h with h | h
          · exact .inl h
          · exact (mem_wordSubFrom h).imp_right (List.mem_cons_of_mem d)

/-- A text does not become empty. -/
theorem wordSub_eq_nil (hreplacement : replacement ≠ []) {text : List Char}
    (h : wordSub isWord r replacement text = []) : text = [] := by
  cases text with
  | nil => rfl
  | cons c text =>
      rw [wordSub, wordSubFrom] at h
      cases hrests : wordRests isWord r none (c :: text) with
      | nil =>
          rw [hrests] at h
          cases h
      | cons rest more =>
          rw [hrests] at h
          exact absurd (List.append_eq_nil_iff.1 h).1 hreplacement

/-- A text in which the expression matches nowhere stays. -/
theorem wordSubFrom_eq_self : ∀ {text : List Char} {before : Option Char}, r.search text = false →
    wordSubFrom isWord r replacement 0 before text = text
  | [], _, _ => rfl
  | c :: text, before, h => by
      obtain ⟨hhere, hthere⟩ := Bool.or_eq_false_iff.1 h
      rw [wordSubFrom, wordRests, matchesHere_eq_false_iff.1 hhere, ite_self]
      exact congrArg (List.cons c) (wordSubFrom_eq_self hthere)

/-- A character stays where it is, and none comes in: what is before and what is after it are
treated by themselves. -/
structure Passes (b : Char) (f : List Char → List Char) : Prop where
  split : ∀ x y, f (x ++ b :: y) = f x ++ b :: f y
  mem : ∀ {x}, b ∈ f x → b ∈ x

theorem Passes.mem_iff {f : List Char → List Char} (hf : Passes b f) {x : List Char} :
    b ∈ f x ↔ b ∈ x := by
  refine ⟨hf.mem, fun h => ?_⟩
  obtain ⟨u, v, rfl⟩ := List.append_of_mem h
  rw [hf.split]
  exact List.mem_append_right _ List.mem_cons_self

/-- **The result is cut where the text is.** -/
theorem Passes.exists_split {f : List Char → List Char} (hf : Passes b f) :
    ∀ {text x' y' : List Char}, f text = x' ++ b :: y' →
      ∃ x y, text = x ++ b :: y ∧ f x = x' ∧ f y = y' := by
  intro text
  induction hn : text.length using Nat.strong_induction_on generalizing text with
  | _ n ih =>
      intro x' y' h
      have hb : b ∈ text := hf.mem (by rw [h]; exact List.mem_append_right _ List.mem_cons_self)
      obtain ⟨x, y, rfl, hx⟩ := List.eq_append_cons_of_mem hb
      rw [hf.split] at h
      have hx' : b ∉ f x := fun hmem => hx (hf.mem hmem)
      rcases Segments.cut_first hx' h.symm with ⟨rfl, rfl⟩ | ⟨u', rfl, hy⟩
      · exact ⟨x, y, rfl, rfl, rfl⟩
      · obtain ⟨u, v, rfl, hu, hv⟩ := ih y.length
          (by rw [← hn, List.length_append, List.length_cons]; omega) rfl hy
        exact ⟨x ++ b :: u, v, by simp, by rw [hf.split, hu], hv⟩

/-- A character passes when it is outside of words and all patterns avoid it. -/
theorem passes_wordSubAll (hword : isWord b = false) (hreplacement : b ∉ replacement) :
    ∀ {patterns : List Regex}, (∀ q ∈ patterns, q.consumes = true ∧ q.avoids b = true) →
      Passes b (wordSubAll isWord patterns replacement)
  | [], _ => ⟨fun _ _ => rfl, id⟩
  | r :: patterns, hall => by
      obtain ⟨hr, hb⟩ := hall r List.mem_cons_self
      have hrec := passes_wordSubAll hword hreplacement fun q hq =>
        hall q (List.mem_cons_of_mem r hq)
      refine ⟨fun x y => ?_, fun h => (mem_wordSubFrom (hrec.mem h)).resolve_left hreplacement⟩
      rw [wordSubAll, List.foldl_cons, wordSub,
        wordSubFrom_barrier hr hb hword y x 0 none (Nat.zero_le _)]
      exact hrec.split _ _

theorem mem_wordSubAll {c : Char} : ∀ {patterns : List Regex} {text : List Char},
    c ∈ wordSubAll isWord patterns replacement text → c ∈ replacement ∨ c ∈ text
  | [], _, h => .inr h
  | r :: patterns, text, h => by
      have h' : c ∈ wordSubAll isWord patterns replacement (wordSub isWord r replacement text) := h
      exact (mem_wordSubAll h').elim .inl mem_wordSubFrom

theorem wordSubAll_eq_nil (hreplacement : replacement ≠ []) : ∀ {patterns : List Regex}
    {text : List Char}, wordSubAll isWord patterns replacement text = [] → text = []
  | [], _, h => h
  | _ :: _, _, h => wordSub_eq_nil hreplacement (wordSubAll_eq_nil hreplacement h)

theorem wordSubAll_eq_self : ∀ {patterns : List Regex} {text : List Char},
    (∀ q ∈ patterns, q.search text = false) → wordSubAll isWord patterns replacement text = text
  | [], _, _ => rfl
  | r :: patterns, text, h => by
      rw [wordSubAll, List.foldl_cons, wordSub, wordSubFrom_eq_self (h r List.mem_cons_self)]
      exact wordSubAll_eq_self fun q hq => h q (List.mem_cons_of_mem r hq)

end

end Regex
end AgenticCommerce
