/-
# Lines, stripped and joined

`text.splitlines()`, and the idiom that strips each line, drops the blank ones and joins the rest
with line feeds (`reflow`).

A text is runs of white space between visible characters, and `reflow` works on the runs: one at
either end is dropped, one with a line boundary in it becomes a line feed, any other is kept
(`Reflows`).  From this follows what it does to a text that it, or a cut of what it made, came from.
-/

import AgenticCommerce.Text.Strings

namespace AgenticCommerce
namespace Strings

/-- `text.splitlines()`: a carriage return and a line feed are one boundary. -/
def splitlines : List Char → List (List Char)
  | [] => []
  | c :: text =>
      if isLineBreak c then
        if c = '\r' ∧ text.head? = some '\n' then splitlines text else [] :: splitlines text
      else match splitlines text with
        | [] => [[c]]
        | line :: lines => (c :: line) :: lines

/-- The lines of a list that are not blank, stripped. -/
def stripped (lines : List (List Char)) : List (List Char) := (lines.map strip).filter (· ≠ [])

/-- `[line.strip() for line in text.splitlines() if line.strip()]`. -/
def strippedLines (text : List Char) : List (List Char) := stripped (splitlines text)

/-- The stripped lines with line feeds between them. -/
def reflow (text : List Char) : List Char := ['\n'].intercalate (strippedLines text)

/-! ### Lines -/

/-- The line that a text begins with. -/
def firstLine (text : List Char) : List Char := (splitlines text).headD []

/-- The lines after it. -/
def otherLines (text : List Char) : List (List Char) := (splitlines text).tail

/-- A character that ends no line belongs to the first. -/
theorem splitlines_cons {c : Char} (hc : isLineBreak c = false) (text : List Char) :
    splitlines (c :: text) = (c :: firstLine text) :: otherLines text := by
  rw [splitlines, hc, if_neg Bool.false_ne_true, firstLine, otherLines]
  cases splitlines text <;> rfl

theorem splitlines_append {front : List Char} (hfront : ∀ c ∈ front, isLineBreak c = false)
    (hne : front ≠ []) (text : List Char) :
    splitlines (front ++ text) = (front ++ firstLine text) :: otherLines text := by
  induction front with
  | nil => exact absurd rfl hne
  | cons c front ih =>
      have hc := hfront c List.mem_cons_self
      rw [List.cons_append, splitlines_cons hc]
      cases front with
      | nil => rfl
      | cons d front =>
          have hrest := ih (fun e he => hfront e (List.mem_cons_of_mem c he)) (List.cons_ne_nil _ _)
          rw [firstLine, otherLines, hrest]
          rfl

/-- A line boundary ends a line, and what follows it has the same visible lines as what follows the
character. -/
theorem splitlines_break {k : Char} (hk : isLineBreak k = true) (text : List Char) :
    splitlines (k :: text) = [] :: splitlines text ∨
      ∃ rest, text = '\n' :: rest ∧ splitlines (k :: text) = [] :: splitlines rest := by
  rw [splitlines, if_pos hk]
  split_ifs with hcrlf
  · obtain ⟨rest, rfl⟩ := List.head?_eq_some_iff.1 hcrlf.2
    refine .inr ⟨rest, rfl, ?_⟩
    rw [splitlines, if_pos (by decide), if_neg fun h => by cases h.1]
  · exact .inl rfl

/-- A text that is not empty has a line. -/
theorem splitlines_ne_nil {text : List Char} (hne : text ≠ []) : splitlines text ≠ [] := by
  obtain ⟨c, text, rfl⟩ := List.exists_cons_of_ne_nil hne
  rcases hc : isLineBreak c with _ | _
  · rw [splitlines_cons hc]
    exact List.cons_ne_nil _ _
  · rcases splitlines_break hc text with h | ⟨rest, -, h⟩ <;> rw [h] <;> exact List.cons_ne_nil _ _

/-- No line has a boundary in it. -/
theorem isLineBreak_of_mem_splitlines : ∀ {text line : List Char}, line ∈ splitlines text →
    ∀ c ∈ line, isLineBreak c = false
  | [], _, h => by cases h
  | c :: text, line, h => by
      rcases hc : isLineBreak c with _ | _
      · rw [splitlines, hc, if_neg Bool.false_ne_true] at h
        cases hlines : splitlines text with
        | nil =>
            rw [hlines] at h
            obtain rfl := List.mem_singleton.1 h
            intro d hd
            rw [List.mem_singleton.1 hd, hc]
        | cons first lines =>
            rw [hlines] at h
            rcases List.mem_cons.1 h with rfl | h
            · intro d hd
              rcases List.mem_cons.1 hd with rfl | hd
              · exact hc
              · exact isLineBreak_of_mem_splitlines (by rw [hlines]; exact List.mem_cons_self) d hd
            · exact isLineBreak_of_mem_splitlines (by rw [hlines]; exact List.mem_cons_of_mem _ h)
      · rw [splitlines, if_pos hc] at h
        split_ifs at h
        · exact isLineBreak_of_mem_splitlines h
        · rcases List.mem_cons.1 h with rfl | h
          · intro d hd
            cases hd
          · exact isLineBreak_of_mem_splitlines h

/-- A text without boundaries is one line. -/
theorem splitlines_eq_singleton {text : List Char} (h : ∀ c ∈ text, isLineBreak c = false)
    (hne : text ≠ []) : splitlines text = [text] := by
  have hlines := splitlines_append h hne []
  rw [List.append_nil] at hlines
  rw [hlines]
  exact congrArg (· :: []) (List.append_nil text)

/-- **The lines of two texts with a line feed between them.** -/
theorem splitlines_append_newline {front : List Char} (hne : front ≠ [])
    (hlast : ∀ c, front.getLast? = some c → isLineBreak c = false) (text : List Char) :
    splitlines (front ++ '\n' :: text) = splitlines front ++ splitlines text := by
  induction front with
  | nil => exact absurd rfl hne
  | cons c front ih =>
      cases front with
      | nil =>
          have hc := hlast c rfl
          rw [List.singleton_append, splitlines_cons hc, splitlines_cons hc]
          rfl
      | cons d front =>
          have hrest := ih (List.cons_ne_nil _ _) fun e he => hlast e (by
            rw [List.getLast?_cons_cons, he])
          rcases hc : isLineBreak c with _ | _
          · have hlines := splitlines_ne_nil (List.cons_ne_nil d front)
            rw [List.cons_append, splitlines_cons hc, splitlines_cons hc, firstLine, firstLine,
              otherLines, otherLines, hrest]
            obtain ⟨line, lines, heq⟩ := List.exists_cons_of_ne_nil hlines
            rw [heq]
            rfl
          · rw [List.cons_append, splitlines, splitlines, if_pos hc, if_pos hc, hrest]
            by_cases hcrlf : c = '\r' ∧ d = '\n'
            · rw [if_pos (by simpa using hcrlf), if_pos (by simpa using hcrlf)]
            · rw [if_neg (by simpa using hcrlf), if_neg (by simpa using hcrlf)]
              rfl

/-! ### Runs of white space -/

/-- A text of white space. -/
def Blank (text : List Char) : Prop := ∀ c ∈ text, isSpace c = true

theorem blank_nil : Blank [] := fun c hc => by cases hc

theorem blank_newline : Blank ['\n'] := by
  intro d hd
  rw [List.mem_singleton.1 hd]
  rfl

/-- **What `reflow` does behind a visible character**: runs of white space at the end are dropped,
those with a line boundary become a line feed. -/
inductive Reflows : List Char → List Char → Prop where
  | blank {b : List Char} (hb : Blank b) : Reflows b []
  | solid {c : Char} {text result : List Char} (hc : isSpace c = false)
      (h : Reflows text result) : Reflows (c :: text) (c :: result)
  | kept {b text result : List Char} {c : Char} (hne : b ≠ []) (hb : Blank b)
      (hline : ∀ d ∈ b, isLineBreak d = false) (hc : isSpace c = false)
      (h : Reflows text result) : Reflows (b ++ c :: text) (b ++ c :: result)
  | newline {b text result : List Char} {c : Char} (hb : Blank b)
      (hline : ∃ d ∈ b, isLineBreak d = true) (hc : isSpace c = false)
      (h : Reflows text result) : Reflows (b ++ c :: text) ('\n' :: c :: result)

/-- The stripped lines after the first, each behind a line feed. -/
def newlines (lines : List (List Char)) : List Char := (stripped lines).flatMap ('\n' :: ·)

/-- What `reflow` makes of a text that stands behind a visible character. -/
def reflowAfter (text : List Char) : List Char := rstrip (firstLine text) ++ newlines (otherLines text)

theorem intercalate_cons (line : List Char) : ∀ lines : List (List Char),
    ['\n'].intercalate (line :: lines) = line ++ lines.flatMap ('\n' :: ·)
  | [] => by rw [List.intercalate_singleton, List.flatMap_nil, List.append_nil]
  | next :: lines => by
      rw [List.intercalate_cons_cons, intercalate_cons next lines, List.flatMap_cons,
        List.append_assoc]
      rfl

theorem rstrip_blank {b : List Char} (hb : Blank b) : rstrip b = [] := List.rdropWhile_eq_nil_iff.2 hb

/-- White space at the end is stripped up to the last visible character. -/
theorem rstrip_append_cons {c : Char} (hc : isSpace c = false) (front text : List Char) :
    rstrip (front ++ c :: text) = front ++ c :: rstrip text := by
  have hstop : (c :: front.reverse).dropWhile isSpace = c :: front.reverse :=
    List.dropWhile_cons_of_neg (by rw [hc]; exact Bool.false_ne_true)
  have hreverse : (front ++ c :: text).reverse = text.reverse ++ c :: front.reverse := by simp
  rw [rstrip, List.rdropWhile, hreverse, List.dropWhile_append, hstop, rstrip, List.rdropWhile]
  split_ifs with hempty
  · rw [List.isEmpty_iff.1 hempty]
    simp
  · simp

theorem strip_cons_of_space {c : Char} (hc : isSpace c = true) (text : List Char) :
    strip (c :: text) = strip text := by
  rw [strip, List.dropWhile_cons_of_pos hc, strip]

theorem strip_cons_of_solid {c : Char} (hc : isSpace c = false) (text : List Char) :
    strip (c :: text) = c :: rstrip text := by
  rw [strip, List.dropWhile_cons_of_neg (by rw [hc]; exact Bool.false_ne_true)]
  exact rstrip_append_cons hc [] text

theorem strip_blank {b : List Char} (hb : Blank b) : strip b = [] := by
  rw [strip, List.dropWhile_eq_nil_iff.2 hb]
  rfl

theorem not_isLineBreak {c : Char} (hc : isSpace c = false) : isLineBreak c = false := by
  rw [Bool.eq_false_iff]
  intro hbreak
  rw [isSpace_of_isLineBreak hbreak] at hc
  cases hc

theorem stripped_cons_of_blank {line : List Char} (h : Blank line) (lines : List (List Char)) :
    stripped (line :: lines) = stripped lines := by
  rw [stripped, List.map_cons, strip_blank h, List.filter_cons_of_neg (by simp)]
  rfl

theorem stripped_cons {line : List Char} (h : strip line ≠ []) (lines : List (List Char)) :
    stripped (line :: lines) = strip line :: stripped lines := by
  rw [stripped, List.map_cons, List.filter_cons_of_pos (by simpa using h)]
  rfl

/-- White space at the start of a text does not count. -/
theorem strippedLines_cons_of_space {c : Char} (hc : isSpace c = true) (text : List Char) :
    strippedLines (c :: text) = strippedLines text := by
  rcases hbreak : isLineBreak c with _ | _
  · rw [strippedLines, strippedLines, splitlines_cons hbreak, firstLine, otherLines]
    cases splitlines text with
    | nil => exact @stripped_cons_of_blank [c] (by simpa [Blank] using hc) []
    | cons line lines =>
        rw [stripped, stripped, List.headD_cons, List.tail_cons, List.map_cons, List.map_cons,
          strip_cons_of_space hc]
  · rcases splitlines_break hbreak text with h | ⟨rest, rfl, h⟩
    · rw [strippedLines, h, stripped_cons_of_blank blank_nil]
      rfl
    · have hrest : splitlines ('\n' :: rest) = [] :: splitlines rest := by
        rw [splitlines, if_pos (by decide), if_neg fun h => by cases h.1]
      rw [strippedLines, h, strippedLines, hrest]

/-- A visible character begins the first line. -/
theorem reflow_cons {c : Char} (hc : isSpace c = false) (text : List Char) :
    reflow (c :: text) = c :: reflowAfter text := by
  have hstrip : strip (c :: firstLine text) = c :: rstrip (firstLine text) :=
    strip_cons_of_solid hc _
  rw [reflow, strippedLines, splitlines_cons (not_isLineBreak hc),
    stripped_cons (by rw [hstrip]; exact List.cons_ne_nil _ _), hstrip, intercalate_cons]
  rfl

theorem reflow_cons_of_space {c : Char} (hc : isSpace c = true) (text : List Char) :
    reflow (c :: text) = reflow text := by
  rw [reflow, strippedLines_cons_of_space hc, reflow]

theorem reflow_append_of_blank {b : List Char} (hb : Blank b) (text : List Char) :
    reflow (b ++ text) = reflow text := by
  induction b with
  | nil => rfl
  | cons c b ih =>
      rw [List.cons_append, reflow_cons_of_space (hb c List.mem_cons_self)]
      exact ih fun d hd => hb d (List.mem_cons_of_mem c hd)

theorem reflow_of_blank {b : List Char} (hb : Blank b) : reflow b = [] := by
  have h := reflow_append_of_blank hb []
  rwa [List.append_nil] at h

/-- Lines behind line feeds are the lines joined, behind one. -/
theorem newlines_splitlines (text : List Char) : newlines (splitlines text) =
    if reflow text = [] then [] else '\n' :: reflow text := by
  rw [newlines, reflow]
  cases hlines : strippedLines text with
  | nil =>
      rw [strippedLines] at hlines
      rw [hlines]
      rfl
  | cons line lines =>
      have hmem : line ∈ strippedLines text := by
        rw [hlines]
        exact List.mem_cons_self
      have hne : line ≠ [] := by simpa using (List.mem_filter.1 hmem).2
      rw [strippedLines] at hlines
      rw [hlines, intercalate_cons, if_neg (by simp [hne]), List.flatMap_cons]
      rfl

/-- A run without a boundary is kept before a visible character. -/
theorem reflowAfter_append {b : List Char} (hline : ∀ d ∈ b, isLineBreak d = false) {c : Char}
    (hc : isSpace c = false) (text : List Char) :
    reflowAfter (b ++ c :: text) = b ++ c :: reflowAfter text := by
  have hfront : ∀ d ∈ b ++ [c], isLineBreak d = false := by
    intro d hd
    rcases List.mem_append.1 hd with hd | hd
    · exact hline d hd
    · rw [List.mem_singleton.1 hd]
      exact not_isLineBreak hc
  have hlines : splitlines (b ++ c :: text) = (b ++ c :: firstLine text) :: otherLines text := by
    have h := splitlines_append hfront (by simp) text
    simpa using h
  have hfirst : firstLine (b ++ c :: text) = b ++ c :: firstLine text := by
    rw [firstLine, hlines]
    rfl
  have hothers : otherLines (b ++ c :: text) = otherLines text := by
    rw [otherLines, hlines]
    rfl
  rw [reflowAfter, hfirst, hothers, rstrip_append_cons hc, reflowAfter]
  simp

/-- A run with a boundary ends the line, and what follows it is joined behind a line feed. -/
theorem lines_of_break {b : List Char} (hb : Blank b) (hline : ∃ d ∈ b, isLineBreak d = true)
    (text : List Char) : Blank (firstLine (b ++ text)) ∧ newlines (otherLines (b ++ text)) =
      if reflow text = [] then [] else '\n' :: reflow text := by
  induction b with
  | nil =>
      obtain ⟨d, hd, -⟩ := hline
      cases hd
  | cons d b ih =>
      have hspace : isSpace d = true := hb d List.mem_cons_self
      have hrest : Blank b := fun e he => hb e (List.mem_cons_of_mem d he)
      rcases hbreak : isLineBreak d with _ | _
      · have hline' : ∃ e ∈ b, isLineBreak e = true := by
          obtain ⟨e, he, hyes⟩ := hline
          rcases List.mem_cons.1 he with rfl | he
          · rw [hbreak] at hyes
            cases hyes
          · exact ⟨e, he, hyes⟩
        obtain ⟨hblank, hnew⟩ := ih hrest hline'
        have hlines := splitlines_cons hbreak (b ++ text)
        constructor
        · rw [List.cons_append, firstLine, hlines]
          intro e he
          rcases List.mem_cons.1 he with rfl | he
          · exact hspace
          · exact hblank e he
        · rw [List.cons_append, otherLines, hlines]
          exact hnew
      · rcases splitlines_break hbreak (b ++ text) with h | ⟨rest, hrest', h⟩
        · rw [List.cons_append, firstLine, otherLines, h]
          refine ⟨blank_nil, ?_⟩
          rw [List.tail_cons, newlines_splitlines, reflow_append_of_blank hrest]
        · rw [List.cons_append, firstLine, otherLines, h]
          refine ⟨blank_nil, ?_⟩
          have hsame : reflow rest = reflow text := by
            rw [← reflow_append_of_blank hrest text, hrest', reflow_cons_of_space (by decide)]
          rw [List.tail_cons, newlines_splitlines, hsame]

theorem reflowAfter_of_break {b : List Char} (hb : Blank b)
    (hline : ∃ d ∈ b, isLineBreak d = true) (text : List Char) :
    reflowAfter (b ++ text) = if reflow text = [] then [] else '\n' :: reflow text := by
  obtain ⟨hblank, hnew⟩ := lines_of_break hb hline text
  rw [reflowAfter, rstrip_blank hblank, hnew, List.nil_append]

/-- White space behind a visible character and before nothing is dropped. -/
theorem reflowAfter_of_blank {b : List Char} (hb : Blank b) : reflowAfter b = [] := by
  by_cases hline : ∃ d ∈ b, isLineBreak d = true
  · have h := reflowAfter_of_break hb hline []
    rw [List.append_nil] at h
    rw [h]
    exact if_pos (reflow_of_blank blank_nil)
  · rcases eq_or_ne b [] with rfl | hne
    · rfl
    · have hlines : splitlines b = [b] :=
        splitlines_eq_singleton (fun d hd => Bool.eq_false_iff.2 fun h => hline ⟨d, hd, h⟩) hne
      rw [reflowAfter, firstLine, otherLines, hlines]
      show rstrip b ++ [] = []
      rw [rstrip_blank hb, List.append_nil]

/-- The relation is the graph of the function. -/
theorem Reflows.eq {text result : List Char} (h : Reflows text result) :
    reflowAfter text = result := by
  induction h with
  | blank hb => exact reflowAfter_of_blank hb
  | @solid c text result hc _ ih =>
      have h := reflowAfter_append (b := []) (fun d hd => by cases hd) hc text
      rw [List.nil_append, List.nil_append] at h
      rw [h, ih]
  | kept _ _ hline hc _ ih => rw [reflowAfter_append hline hc, ih]
  | newline hb hline hc _ ih =>
      rw [reflowAfter_of_break hb hline, reflow_cons hc, ih, if_neg (List.cons_ne_nil _ _)]

/-- Every text is one of the four kinds. -/
theorem reflows (text : List Char) : Reflows text (reflowAfter text) := by
  suffices h : ∃ result, Reflows text result by
    obtain ⟨result, h⟩ := h
    rwa [h.eq]
  induction hlength : text.length using Nat.strong_induction_on generalizing text with
  | _ n ih =>
    have hsplit := List.takeWhile_append_dropWhile (p := isSpace) (l := text)
    have hb : Blank (text.takeWhile isSpace) := fun d hd => List.mem_takeWhile_imp hd
    cases hrest : text.dropWhile isSpace with
    | nil =>
        rw [hrest, List.append_nil] at hsplit
        exact ⟨[], .blank (hsplit ▸ hb)⟩
    | cons c rest =>
        have hc : isSpace c = false := by
          have hstop := List.head?_dropWhile_not isSpace text
          rwa [hrest] at hstop
        rw [hrest] at hsplit
        have hlt : rest.length < n := by
          rw [← hlength, ← hsplit, List.length_append, List.length_cons]
          omega
        obtain ⟨result, hresult⟩ := ih rest.length hlt rest rfl
        rw [← hsplit]
        generalize text.takeWhile isSpace = b at hb
        by_cases hline : ∃ d ∈ b, isLineBreak d = true
        · exact ⟨_, .newline hb hline hc hresult⟩
        · rcases eq_or_ne b [] with rfl | hne
          · exact ⟨_, .solid hc hresult⟩
          · exact ⟨_, .kept hne hb (fun d hd => Bool.eq_false_iff.2 fun h => hline ⟨d, hd, h⟩) hc
              hresult⟩

/-- A text that becomes one with a visible first character begins with it. -/
theorem Reflows.of_cons {text result : List Char} {c : Char} (h : Reflows text (c :: result))
    (hc : isSpace c = false) : ∃ rest, text = c :: rest ∧ Reflows rest result := by
  generalize heq : c :: result = whole at h
  cases h with
  | blank _ => cases heq
  | solid _ h =>
      obtain ⟨rfl, rfl⟩ := List.cons.inj heq
      exact ⟨_, rfl, h⟩
  | @kept b _ _ _ hne hb _ _ _ =>
      obtain ⟨d, b, rfl⟩ := List.exists_cons_of_ne_nil hne
      have hspace := hb d List.mem_cons_self
      rw [← (List.cons.inj heq).1, hc] at hspace
      cases hspace
  | newline _ _ _ _ =>
      rw [(List.cons.inj heq).1] at hc
      cases hc

/-- Where white space ends is where the first visible character stands. -/
theorem Blank.append_inj {c c' : Char} (hc : isSpace c = false) (hc' : isSpace c' = false)
    {x x' : List Char} : ∀ {b b' : List Char}, Blank b → Blank b' → b ++ c :: x = b' ++ c' :: x' →
      b = b' ∧ c = c' ∧ x = x'
  | [], [], _, _, h => ⟨rfl, List.cons.inj h⟩
  | [], d :: b', _, hb', h => by
      rw [(List.cons.inj h).1, hb' d List.mem_cons_self] at hc
      cases hc
  | d :: b, [], hb, _, h => by
      rw [← (List.cons.inj h).1, hb d List.mem_cons_self] at hc'
      cases hc'
  | d :: b, d' :: b', hb, hb', h => by
      obtain ⟨hd, hrest⟩ := List.cons.inj h
      obtain ⟨rfl, hsame⟩ := Blank.append_inj hc hc'
        (fun e he => hb e (List.mem_cons_of_mem d he))
        (fun e he => hb' e (List.mem_cons_of_mem d' he)) hrest
      exact ⟨by rw [hd], hsame⟩

/-- White space before a visible character of the result was white space before it. -/
theorem Reflows.of_blank {text result b : List Char} {c : Char}
    (h : Reflows text (b ++ c :: result)) (hb : Blank b) (hc : isSpace c = false) :
    ∃ b' rest, text = b' ++ c :: rest ∧ Blank b' ∧ (b = [] ↔ b' = []) ∧ Reflows rest result := by
  generalize heq : b ++ c :: result = whole at h
  cases h with
  | blank _ => exact absurd heq (List.append_ne_nil_of_right_ne_nil _ (List.cons_ne_nil _ _))
  | @solid d text result' hd h =>
      obtain ⟨rfl, rfl, rfl⟩ := @Blank.append_inj _ _ hc hd _ _ _ [] hb blank_nil heq
      exact ⟨[], text, rfl, blank_nil, Iff.rfl, h⟩
  | @kept b' text result' d hne hb' _ hd h =>
      obtain ⟨rfl, rfl, rfl⟩ := Blank.append_inj hc hd hb hb' heq
      exact ⟨b, text, rfl, hb', Iff.rfl, h⟩
  | @newline b' text result' d hb' hline hd h =>
      obtain ⟨rfl, rfl, rfl⟩ := @Blank.append_inj _ _ hc hd _ _ _ ['\n'] hb blank_newline heq
      refine ⟨b', text, rfl, hb', ⟨fun h => (by cases h), ?_⟩, h⟩
      rintro rfl
      obtain ⟨e, he, -⟩ := hline
      cases he

/-- **What stands behind a visible character of the result comes from what stands behind it in the
text.** -/
theorem Reflows.of_suffix {text result rest' : List Char} {c : Char} (h : Reflows text result)
    (hc : isSpace c = false) (hsuffix : (c :: rest') <:+ result) :
    ∃ rest, (c :: rest) <:+ text ∧ Reflows rest rest' := by
  -- white space in front of the result is not where the suffix begins
  have hskip : ∀ {b tail : List Char}, Blank b → (c :: rest') <:+ b ++ tail →
      (c :: rest') <:+ tail := by
    intro b tail hb hsuffix
    induction b with
    | nil => exact hsuffix
    | cons d b ih =>
        rw [List.cons_append] at hsuffix
        rcases List.suffix_cons_iff.1 hsuffix with heq | hsuffix
        · rw [(List.cons.inj heq).1, hb d List.mem_cons_self] at hc
          cases hc
        · exact ih (fun e he => hb e (List.mem_cons_of_mem d he)) hsuffix
  induction h with
  | blank _ => simp at hsuffix
  | @solid d text result _ h ih =>
      rcases List.suffix_cons_iff.1 hsuffix with heq | hsuffix
      · obtain ⟨rfl, rfl⟩ := List.cons.inj heq
        exact ⟨text, List.suffix_refl _, h⟩
      · obtain ⟨rest, hrest, hreflows⟩ := ih hsuffix
        exact ⟨rest, hrest.trans (List.suffix_cons d text), hreflows⟩
  | @kept b text result d _ hb _ _ h ih =>
      rcases List.suffix_cons_iff.1 (hskip hb hsuffix) with heq | hsuffix
      · obtain ⟨rfl, rfl⟩ := List.cons.inj heq
        exact ⟨text, List.suffix_append b _, h⟩
      · obtain ⟨rest, hrest, hreflows⟩ := ih hsuffix
        exact ⟨rest, (hrest.trans (List.suffix_cons d text)).trans (List.suffix_append b _),
          hreflows⟩
  | @newline b text result d _ _ _ h ih =>
      have hsuffix' : (c :: rest') <:+ ['\n'] ++ d :: result := hsuffix
      rcases List.suffix_cons_iff.1 (hskip blank_newline hsuffix') with heq | hsuffix
      · obtain ⟨rfl, rfl⟩ := List.cons.inj heq
        exact ⟨text, List.suffix_append b _, h⟩
      · obtain ⟨rest, hrest, hreflows⟩ := ih hsuffix
        exact ⟨rest, (hrest.trans (List.suffix_cons d text)).trans (List.suffix_append b _),
          hreflows⟩

/-- The result of `reflow` begins with a visible character of the text. -/
theorem reflow_shape (text : List Char) : reflow text = [] ∨ ∃ c rest, isSpace c = false ∧
    (c :: rest) <:+ text ∧ reflow text = c :: reflowAfter rest := by
  induction text with
  | nil => exact .inl rfl
  | cons c text ih =>
      rcases hc : isSpace c with _ | _
      · exact .inr ⟨c, text, hc, List.suffix_refl _, reflow_cons hc text⟩
      · rw [reflow_cons_of_space hc]
        rcases ih with h | ⟨d, rest, hd, hsuffix, h⟩
        · exact .inl h
        · exact .inr ⟨d, rest, hd, hsuffix.trans (List.suffix_cons c text), h⟩

theorem reflow_of_suffix {text rest' : List Char} {c : Char} (hc : isSpace c = false)
    (hsuffix : (c :: rest') <:+ reflow text) :
    ∃ rest, (c :: rest) <:+ text ∧ Reflows rest rest' := by
  rcases reflow_shape text with h | ⟨d, rest, hd, hrest, h⟩
  · rw [h] at hsuffix
    simp at hsuffix
  · rw [h] at hsuffix
    obtain ⟨rest'', hrest'', hreflows⟩ := (Reflows.solid hd (reflows rest)).of_suffix hc hsuffix
    exact ⟨rest'', hrest''.trans hrest, hreflows⟩

/-- What follows a visible character is reflowed by itself. -/
theorem Reflows.append {text result : List Char} {c : Char} (h : Reflows text result)
    (hlast : text.getLast? = some c) (hc : isSpace c = false) {more after : List Char}
    (hmore : Reflows more after) : Reflows (text ++ more) (result ++ after) := by
  -- a run of white space is not the end of the text
  have hbehind : ∀ {text result : List Char} {d : Char}, Reflows text result →
      (d :: text).getLast? = some c → (text.getLast? = some c →
        Reflows (text ++ more) (result ++ after)) → Reflows (text ++ more) (result ++ after) := by
    intro text result d h hlast ih
    cases text with
    | nil =>
        have hnil : result = [] := h.eq.symm.trans (reflows []).eq
        rw [hnil]
        exact hmore
    | cons e text => exact ih (by rwa [List.getLast?_cons_cons] at hlast)
  induction h with
  | blank hb =>
      rw [hb c (List.mem_of_getLast? hlast)] at hc
      cases hc
  | solid hd h ih => exact .solid hd (hbehind h hlast ih)
  | @kept b text result d hne hb hline hd h ih =>
      rw [List.getLast?_append_of_ne_nil _ (List.cons_ne_nil d text)] at hlast
      rw [List.append_assoc, List.append_assoc]
      exact .kept hne hb hline hd (hbehind h hlast ih)
  | @newline b text result d hb hline hd h ih =>
      rw [List.getLast?_append_of_ne_nil _ (List.cons_ne_nil d text)] at hlast
      rw [List.append_assoc]
      exact .newline hb hline hd (hbehind h hlast ih)

/-- A visible character at the end stays there. -/
theorem Reflows.getLast? {text result : List Char} {c : Char} (h : Reflows text result)
    (hlast : text.getLast? = some c) (hc : isSpace c = false) : result.getLast? = some c := by
  have hbehind : ∀ {text result : List Char} {d : Char}, Reflows text result →
      (d :: text).getLast? = some c → (text.getLast? = some c → result.getLast? = some c) →
        (d :: result).getLast? = some c := by
    intro text result d h hlast ih
    cases text with
    | nil =>
        have hnil : result = [] := h.eq.symm.trans (reflows []).eq
        rw [hnil]
        exact hlast
    | cons e text =>
        rw [List.getLast?_cons, ih (by rwa [List.getLast?_cons_cons] at hlast)]
        rfl
  induction h with
  | blank hb =>
      rw [hb c (List.mem_of_getLast? hlast)] at hc
      cases hc
  | solid hd h ih => exact hbehind h hlast ih
  | @kept b text result d hne hb hline hd h ih =>
      rw [List.getLast?_append_of_ne_nil _ (List.cons_ne_nil d text)] at hlast
      rw [List.getLast?_append_of_ne_nil _ (List.cons_ne_nil d result)]
      exact hbehind h hlast ih
  | @newline b text result d hb hline hd h ih =>
      rw [List.getLast?_append_of_ne_nil _ (List.cons_ne_nil d text)] at hlast
      rw [List.getLast?_cons_cons]
      exact hbehind h hlast ih

theorem getLast?_reflow {c : Char} (hc : isSpace c = false) (x : List Char) :
    (reflow (x ++ [c])).getLast? = some c := by
  induction x with
  | nil =>
      rw [List.nil_append, reflow_cons hc, reflowAfter_of_blank blank_nil]
      rfl
  | cons d x ih =>
      rw [List.cons_append]
      rcases hd : isSpace d with _ | _
      · rw [reflow_cons hd, List.getLast?_cons,
          (reflows (x ++ [c])).getLast? List.getLast?_concat hc]
        rfl
      · rw [reflow_cons_of_space hd, ih]

theorem reflowAfter_barrier {c : Char} (hc : isSpace c = false) (x y : List Char) :
    reflowAfter (x ++ c :: y) = reflowAfter (x ++ [c]) ++ reflowAfter y := by
  have h := (reflows (x ++ [c])).append List.getLast?_concat hc (reflows y)
  rw [List.append_assoc] at h
  exact h.eq

/-- **A visible character divides the text.** -/
theorem reflow_barrier {c : Char} (hc : isSpace c = false) (x y : List Char) :
    reflow (x ++ c :: y) = reflow (x ++ [c]) ++ reflowAfter y := by
  induction x with
  | nil =>
      rw [List.nil_append, List.nil_append, reflow_cons hc, reflow_cons hc,
        reflowAfter_of_blank blank_nil]
      rfl
  | cons d x ih =>
      rw [List.cons_append, List.cons_append]
      rcases hd : isSpace d with _ | _
      · rw [reflow_cons hd, reflow_cons hd, reflowAfter_barrier hc]
        rfl
      · rw [reflow_cons_of_space hd, reflow_cons_of_space hd, ih]

/-- Where a visible character of the result comes from. -/
theorem exists_of_reflow {text a rest' : List Char} {c : Char} (hc : isSpace c = false)
    (h : reflow text = a ++ c :: rest') : ∃ x y, text = x ++ c :: y ∧
      reflow (x ++ [c]) = a ++ [c] ∧ reflowAfter y = rest' := by
  obtain ⟨y, ⟨x, rfl⟩, hreflows⟩ := reflow_of_suffix hc (h ▸ List.suffix_append a (c :: rest'))
  refine ⟨x, y, rfl, ?_, hreflows.eq⟩
  rw [reflow_barrier hc, hreflows.eq] at h
  exact List.append_cancel_right (h.trans (by rw [List.append_assoc]; rfl))

theorem exists_of_reflowAfter {text a rest' : List Char} {c : Char} (hc : isSpace c = false)
    (h : reflowAfter text = a ++ c :: rest') : ∃ x y, text = x ++ c :: y ∧
      reflowAfter (x ++ [c]) = a ++ [c] ∧ reflowAfter y = rest' := by
  obtain ⟨y, ⟨x, rfl⟩, hreflows⟩ :=
    (reflows text).of_suffix hc (h ▸ List.suffix_append a (c :: rest'))
  refine ⟨x, y, rfl, ?_, hreflows.eq⟩
  rw [reflowAfter_barrier hc, hreflows.eq] at h
  exact List.append_cancel_right (h.trans (by rw [List.append_assoc]; rfl))

/-! ### Cuts of the result -/

/-- A text whose white space stands between visible characters, each run a line feed or a part of
a line. -/
inductive Settled : List Char → Prop where
  | nil : Settled []
  | solid {c : Char} {text : List Char} (hc : isSpace c = false) (h : Settled text) :
      Settled (c :: text)
  | kept {b text : List Char} {c : Char} (hne : b ≠ []) (hb : Blank b)
      (hline : ∀ d ∈ b, isLineBreak d = false) (hc : isSpace c = false) (h : Settled text) :
      Settled (b ++ c :: text)
  | newline {text : List Char} {c : Char} (hc : isSpace c = false) (h : Settled text) :
      Settled ('\n' :: c :: text)

theorem Reflows.settled {text result : List Char} (h : Reflows text result) : Settled result := by
  induction h with
  | blank _ => exact .nil
  | solid hc _ ih => exact .solid hc ih
  | kept hne hb hline hc _ ih => exact .kept hne hb hline hc ih
  | newline _ _ hc _ ih => exact .newline hc ih

/-- A settled text is left as it is. -/
theorem Settled.reflows {text : List Char} (h : Settled text) : Reflows text text := by
  induction h with
  | nil => exact .blank blank_nil
  | solid hc _ ih => exact .solid hc ih
  | kept hne hb hline hc _ ih => exact .kept hne hb hline hc ih
  | newline hc _ ih =>
      exact .newline (b := ['\n']) blank_newline ⟨'\n', List.mem_singleton_self _, rfl⟩ hc ih

theorem rstrip_cons {c : Char} (hc : isSpace c = false) (text : List Char) :
    rstrip (c :: text) = c :: rstrip text := rstrip_append_cons hc [] text

/-- **Of a settled text that is cut off only the white space at the end is dropped.** -/
theorem Settled.reflows_take {text : List Char} (h : Settled text) (k : ℕ) :
    Reflows (text.take k) (rstrip (text.take k)) := by
  induction h generalizing k with
  | nil =>
      rw [List.take_nil]
      exact .blank blank_nil
  | @solid c text hc _ ih =>
      cases k with
      | zero => exact .blank blank_nil
      | succ k =>
          rw [List.take_succ_cons, rstrip_cons hc]
          exact .solid hc (ih k)
  | @kept b text c hne hb hline hc _ ih =>
      rcases le_or_gt k b.length with hle | hlt
      · rw [List.take_append_of_le_length hle]
        have hblank : Blank (b.take k) := fun d hd => hb d (List.mem_of_mem_take hd)
        rw [rstrip_blank hblank]
        exact .blank hblank
      · obtain ⟨m, rfl⟩ : ∃ m, k = b.length + (m + 1) := ⟨k - b.length - 1, by omega⟩
        rw [List.take_length_add_append, List.take_succ_cons, rstrip_append_cons hc]
        exact .kept hne hb hline hc (ih m)
  | @newline text c hc _ ih =>
      rcases k with _ | _ | k
      · exact .blank blank_nil
      · rw [List.take_succ_cons, List.take_zero, rstrip_blank blank_newline]
        exact .blank blank_newline
      · rw [List.take_succ_cons, List.take_succ_cons]
        have hstrip : rstrip ('\n' :: c :: text.take k) = '\n' :: c :: rstrip (text.take k) :=
          rstrip_append_cons hc ['\n'] _
        rw [hstrip]
        exact .newline (b := ['\n']) blank_newline ⟨'\n', List.mem_singleton_self _, rfl⟩ hc (ih k)

/-- **A cut of the result, stripped, is what the cut is reflowed to**, and is not changed by
reflowing again. -/
theorem reflow_take (text : List Char) (k : ℕ) :
    reflow ((reflow text).take k) = strip ((reflow text).take k) ∧
      reflow (strip ((reflow text).take k)) = strip ((reflow text).take k) := by
  rcases reflow_shape text with h | ⟨c, rest, hc, -, h⟩
  · rw [h, List.take_nil]
    exact ⟨rfl, rfl⟩
  · rw [h]
    cases k with
    | zero => exact ⟨rfl, rfl⟩
    | succ k =>
        have hcut := (reflows rest).settled.reflows_take k
        rw [List.take_succ_cons, strip_cons_of_solid hc, reflow_cons hc, reflow_cons hc, hcut.eq,
          hcut.settled.reflows.eq]
        exact ⟨rfl, rfl⟩

/-- The lines of lines that are joined. -/
theorem splitlines_intercalate : ∀ {lines : List (List Char)},
    (∀ line ∈ lines, line ≠ [] ∧ ∀ c ∈ line, isLineBreak c = false) →
      splitlines (['\n'].intercalate lines) = lines
  | [], _ => rfl
  | [line], h => by
      have hline := h line List.mem_cons_self
      rw [List.intercalate_singleton, splitlines_eq_singleton hline.2 hline.1]
  | line :: next :: lines, h => by
      have hline := h line List.mem_cons_self
      have hlast : ∀ c, line.getLast? = some c → isLineBreak c = false := fun c hc =>
        hline.2 c (List.mem_of_getLast? hc)
      rw [List.intercalate_cons_cons, List.append_assoc, List.singleton_append,
        splitlines_append_newline hline.1 hlast, splitlines_eq_singleton hline.2 hline.1,
        splitlines_intercalate fun l hl => h l (List.mem_cons_of_mem _ hl)]
      rfl

theorem mem_of_mem_strip {c : Char} {text : List Char} (h : c ∈ strip text) : c ∈ text :=
  (List.dropWhile_sublist _).subset ((List.rdropWhile_prefix _ _).subset h)

/-- **The lines of the result are the stripped lines.** -/
theorem splitlines_reflow (text : List Char) : splitlines (reflow text) = strippedLines text := by
  refine splitlines_intercalate fun line hline => ?_
  obtain ⟨hmem, hne⟩ := List.mem_filter.1 hline
  obtain ⟨raw, hraw, rfl⟩ := List.mem_map.1 hmem
  exact ⟨by simpa using hne, fun c hc =>
    isLineBreak_of_mem_splitlines hraw c (mem_of_mem_strip hc)⟩

end Strings
end AgenticCommerce
