/-
# Evidence from the web

`sanitize_evidence_text` and `wrap_untrusted_evidence` of
`services/research/safety/content_sanitizer.py`: tags are stripped, character references replaced,
injection phrases redacted, lines stripped and the text cut, and it is put between two marker lines.

The phrases are gone for good: neither a later redaction nor the lines bring one back
(`quiet_sanitize`).  The tags are not, because references are replaced after tags are stripped, and
nothing keeps the marker lines out of the text.

What `html.unescape` knows of names is the argument `Names`.
-/

import AgenticCommerce.Agent.Guard
import AgenticCommerce.Text.CharacterReferences
import AgenticCommerce.Text.Spacing

namespace AgenticCommerce
namespace Sanitizer

open Agent.Guard (word gap maybe oneOf)
open CharacterReferences (Names unescape reference)
open Strings

/-- `_INJECTION_PATTERNS`. -/
def injectionPatterns : List Regex :=
  [.all [word "ignore", gap, maybe "all", oneOf "previous" ["prior", "above"], gap,
      word "instructions"],
   .all [word "you", gap, word "are", gap, word "now", gap, word "in", gap, word "developer", gap,
      word "mode"],
   .all [word "system", .star isSpace, word ":", .star isSpace, word "override"],
   .all [word "reveal", gap, maybe "your", .any (.all [word "api", gap, word "key"])
      [word "secret", word "password", word "token", .all [word "system", gap, word "prompt"]]],
   .all [word "do", gap, word "not", gap, word "follow", gap, maybe "the", word "original", gap,
      word "prompt"]]

/-- `<name[^>]*>.*?</name>`. -/
def elementPattern (name : String) : Regex :=
  .all [word s!"<{name}", .star (· ≠ '>'), .one (· == '>'), .lazyStar fun _ => true,
    word s!"</{name}>"]

/-- `<[^>]+>`. -/
def tagPattern : Regex := .all [.one (· == '<'), .plus (· ≠ '>'), .one (· == '>')]

/-- What stands for an injection phrase. -/
def redaction : List Char := "[REDACTED_UNTRUSTED_INSTRUCTION]".toList

/-- The three passes that strip tags. -/
def stripTags (text : List Char) : List Char :=
  let cleaned := (elementPattern "script").sub [' '] text
  let cleaned := (elementPattern "style").sub [' '] cleaned
  tagPattern.sub [' '] cleaned

/-- The passes that redact the injection phrases. -/
def redact (text : List Char) : List Char :=
  injectionPatterns.foldl (fun text pattern => pattern.sub redaction text) text

variable (table : CharacterReferences.Names)

/-- `sanitize_evidence_text`. -/
def sanitizeEvidenceText (rawText : List Char) (maxChars : ℕ := 4000) : List Char :=
  if rawText = [] then []
  else
    let cleaned := unescape table (stripTags rawText)
    let normalized := reflow (redact cleaned)
    strip (normalized.take maxChars)

/-- `source_url or "external_source"`. -/
def sourceLabel : Option (List Char) → List Char
  | none | some [] => "external_source".toList
  | some url => url

/-- The line before the evidence. -/
def beginMarker (label : List Char) : List Char :=
  "--- BEGIN UNTRUSTED EVIDENCE (Source: ".toList ++ label ++ ") ---".toList

/-- The line after it. -/
def endMarker : List Char := "--- END UNTRUSTED EVIDENCE ---".toList

/-- `wrap_untrusted_evidence`. -/
def wrapUntrustedEvidence (content : List Char) (sourceUrl : Option (List Char)) : List Char :=
  beginMarker (sourceLabel sourceUrl) ++ '\n' :: sanitizeEvidenceText table content ++
    '\n' :: endMarker

/-- What is left of a text when its tags are stripped and its references replaced. -/
def unescaped (rawText : List Char) : List Char := unescape table (stripTags rawText)

/-- The part of the cleaned text that is shown, before its ends are stripped. -/
def visible (rawText : List Char) (maxChars : ℕ) : List Char :=
  (reflow (redact (unescaped table rawText))).take maxChars

theorem sanitizeEvidenceText_eq (rawText : List Char) (maxChars : ℕ) :
    sanitizeEvidenceText table rawText maxChars = strip (visible table rawText maxChars) := by
  rw [sanitizeEvidenceText]
  split_ifs with hnil
  · subst hnil
    show [] = strip (([] : List Char).take maxChars)
    rw [List.take_nil]
    rfl
  · rfl

/-! ### Phrases -/

/-- No injection pattern matches in a text. -/
def Quiet (text : List Char) : Prop := ∀ pattern ∈ injectionPatterns, pattern.search text = false

/-- The patterns match no empty text and no bracket, and none matches in a redaction. -/
theorem injectionPatterns_avoid : ∀ pattern ∈ injectionPatterns, pattern.consumes = true ∧
    (∀ c ∈ "[]<>&".toList, pattern.avoids c = true) ∧
      pattern.search redaction.dropLast = false := by
  have hall : (injectionPatterns.all fun pattern => pattern.consumes &&
      ("[]<>&".toList.all fun c => pattern.avoids c) && !pattern.search redaction.dropLast) =
        true := by decide
  intro pattern hpattern
  have hone := List.all_eq_true.1 hall pattern hpattern
  rw [Bool.and_eq_true, Bool.and_eq_true, Bool.not_eq_true'] at hone
  exact ⟨hone.1.1, List.all_eq_true.1 hone.1.2, hone.2⟩

theorem redaction_eq : redaction = '[' :: ("REDACTED_UNTRUSTED_INSTRUCTION".toList ++ [']']) := by
  decide

/-- A redaction leaves none of its phrase, and brings back none of another. -/
theorem quiet_foldl : ∀ {patterns done : List Regex}, (∀ r ∈ patterns, r ∈ injectionPatterns) →
    (∀ r ∈ done, r ∈ injectionPatterns) → ∀ {text : List Char},
      (∀ r ∈ done, r.search text = false) → ∀ r ∈ done ++ patterns,
        r.search (patterns.foldl (fun text pattern => pattern.sub redaction text) text) = false
  | [], done, _, _, text, hquiet => by
      rw [List.append_nil]
      exact hquiet
  | q :: patterns, done, hpatterns, hdone, text, hquiet => by
      have hq := hpatterns q List.mem_cons_self
      have hnext : ∀ r ∈ done ++ [q], r ∈ injectionPatterns := by
        intro r hr
        rcases List.mem_append.1 hr with hr | hr
        · exact hdone r hr
        · rwa [List.mem_singleton.1 hr]
      have hstep : ∀ r ∈ done ++ [q], r.search (q.sub redaction text) = false := by
        intro r hr
        obtain ⟨hqconsumes, -, -⟩ := injectionPatterns_avoid q hq
        obtain ⟨hconsumes, havoids, hbody⟩ := injectionPatterns_avoid r (hnext r hr)
        rw [redaction_eq]
        refine Regex.search_sub_eq_false hqconsumes hconsumes (havoids '[' (by decide))
          (havoids ']' (by decide)) hbody fun rest hrest hnone => ?_
        rcases List.mem_append.1 hr with hr | hr
        · rw [Bool.eq_false_iff]
          intro hmatch
          have hyes := (Regex.search_iff r).2 ⟨rest, hrest, hmatch⟩
          rw [hquiet r hr] at hyes
          cases hyes
        · rw [List.mem_singleton.1 hr]
          exact Regex.matchesHere_eq_false_iff.2 hnone
      have hrest := quiet_foldl (fun r hr => hpatterns r (List.mem_cons_of_mem q hr)) hnext hstep
      rw [List.append_assoc] at hrest
      exact hrest

/-- **No injection pattern matches in a redacted text.** -/
theorem quiet_redact (text : List Char) : Quiet (redact text) :=
  @quiet_foldl _ [] (fun _ => id) (fun r hr => by cases hr) _ fun r hr => by cases hr

/-- Letters that no white space matches. -/
def isVisibleLetter (letter : Char) : Bool := !isSpace letter && !isSpace letter.toUpper

theorem wordlike_word {text : String} (hne : text.toList ≠ [])
    (h : text.toList.all isVisibleLetter = true) : Regex.Wordlike (word text) := by
  have hclasses : ∀ p ∈ text.toList.map Agent.Guard.folds, ∀ c, p c = true → isSpace c = false := by
    intro p hp c hc
    obtain ⟨letter, hletter, rfl⟩ := List.mem_map.1 hp
    have hvisible := List.all_eq_true.1 h letter hletter
    simp only [isVisibleLetter, Bool.and_eq_true, Bool.not_eq_true'] at hvisible
    simp only [Agent.Guard.folds, Regex.ignoreCase, Bool.or_eq_true, Bool.and_eq_true, beq_iff_eq] at hc
    rcases hc with (((rfl | rfl) | ⟨-, rfl⟩) | ⟨-, rfl⟩) | ⟨-, rfl | rfl⟩
    · exact hvisible.1
    · exact hvisible.2
    all_goals rfl
  have hones := Regex.wordlike_ones (by simpa using hne) hclasses
  rw [List.map_map] at hones
  exact hones

/-- **The patterns do not tell one white space from another.** -/
theorem injectionPatterns_wordlike : ∀ pattern ∈ injectionPatterns, Regex.Wordlike pattern := by
  have hword : ∀ text ∈ ["ignore", "all", "previous", "prior", "above", "instructions", "you",
      "are", "now", "in", "developer", "mode", "system", ":", "override", "reveal", "your", "api",
      "key", "secret", "password", "token", "prompt", "do", "not", "follow", "the", "original"],
      Regex.Wordlike (word text) := by
    intro text htext
    have hletters : ∀ text ∈ ["ignore", "all", "previous", "prior", "above", "instructions", "you",
        "are", "now", "in", "developer", "mode", "system", ":", "override", "reveal", "your", "api",
        "key", "secret", "password", "token", "prompt", "do", "not", "follow", "the", "original"],
        text.toList ≠ [] ∧ text.toList.all isVisibleLetter = true := by
      decide
    exact wordlike_word (hletters text htext).1 (hletters text htext).2
  have hspaced {text : String} {s : Regex} (h : Regex.Wordlike (word text))
      (hs : Regex.Wordlike s) : Regex.Wordlike (.seq (word text) (.seq gap s)) :=
    h.spaced Regex.weak_plus hs
  intro pattern hpattern
  simp only [injectionPatterns, List.mem_cons, List.not_mem_nil, or_false] at hpattern
  rcases hpattern with rfl | rfl | rfl | rfl | rfl
  · refine hspaced (hword _ (by simp)) (.maybe (hword _ (by simp)) ?_)
    refine .spaced (.any (hword _ (by simp)) ?_) Regex.weak_plus (hword _ (by simp)).last
    intro r hr
    obtain ⟨text, htext, rfl⟩ := List.mem_map.1 hr
    simp only [List.mem_cons, List.not_mem_nil, or_false] at htext
    rcases htext with rfl | rfl <;> exact hword _ (by simp)
  · exact hspaced (hword _ (by simp)) (hspaced (hword _ (by simp)) (hspaced (hword _ (by simp))
      (hspaced (hword _ (by simp)) (hspaced (hword _ (by simp)) (hword _ (by simp)).last))))
  · refine .spaced (hword _ (by simp)) Regex.weak_star ?_
    exact .spaced (hword _ (by simp)) Regex.weak_star (hword _ (by simp)).last
  · refine hspaced (hword _ (by simp)) (.maybe (hword _ (by simp)) (.last (.any ?_ ?_)))
    · exact hspaced (hword _ (by simp)) (hword _ (by simp)).last
    · intro r hr
      simp only [List.mem_cons, List.not_mem_nil, or_false] at hr
      rcases hr with rfl | rfl | rfl | rfl
      · exact hword _ (by simp)
      · exact hword _ (by simp)
      · exact hword _ (by simp)
      · exact hspaced (hword _ (by simp)) (hword _ (by simp)).last
  · refine hspaced (hword _ (by simp)) (hspaced (hword _ (by simp)) (hspaced (hword _ (by simp))
      (.maybe (hword _ (by simp)) ?_)))
    exact hspaced (hword _ (by simp)) (hword _ (by simp)).last

theorem quiet_reflow {text : List Char} (h : Quiet text) : Quiet (reflow text) := by
  intro pattern hpattern
  rw [Bool.eq_false_iff]
  intro hmatch
  have hyes := Regex.search_of_reflow (injectionPatterns_wordlike pattern hpattern) hmatch
  rw [h pattern hpattern] at hyes
  cases hyes

theorem quiet_of_infix {part text : List Char} (hpart : part <:+: text) (h : Quiet text) :
    Quiet part := by
  intro pattern hpattern
  rw [Bool.eq_false_iff]
  intro hmatch
  have hyes := Regex.search_of_infix hpart hmatch
  rw [h pattern hpattern] at hyes
  cases hyes

theorem strip_isInfix (text : List Char) : strip text <:+: text :=
  (List.rdropWhile_prefix _ _).isInfix.trans (List.dropWhile_suffix _).isInfix

/-- **No injection pattern matches in what is shown**, of any text. -/
theorem quiet_sanitize (rawText : List Char) (maxChars : ℕ) :
    Quiet (sanitizeEvidenceText table rawText maxChars) := by
  rw [sanitizeEvidenceText_eq]
  refine quiet_of_infix (strip_isInfix _) ?_
  exact quiet_of_infix (List.take_prefix maxChars _).isInfix (quiet_reflow (quiet_redact _))

end Sanitizer
end AgenticCommerce
