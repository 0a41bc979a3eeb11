/-
# Expressions that ask for white space, whichever it is

An expression of words with `\s+` and `\s*` between them finds nothing in a reflowed text that it
does not find in the text itself: `reflow` turns runs of white space into others and keeps what is
visible.

The parts of such an expression are put together from words (`Solid` and `Strong`, they begin with
something visible and match alike) and white space before a word (`Weak`).
-/

import AgenticCommerce.Text.Lines
import AgenticCommerce.Text.Substitution

namespace AgenticCommerce
namespace Regex

open Strings (isSpace Blank Reflows)

/-- Every match begins with a visible character. -/
def Solid (r : Regex) : Prop :=
  ∀ ⦃text rest : List Char⦄, rest ∈ r.rests text → ∃ c more, text = c :: more ∧ isSpace c = false

/-- A match in a reflowed text is one in the text that it was reflowed from. -/
def Strong (r : Regex) : Prop := ∀ ⦃text result rest' : List Char⦄, Reflows text result →
  rest' ∈ r.rests result → ∃ rest, rest ∈ r.rests text ∧ Reflows rest rest'

/-- The same of the matches before a visible character. -/
def Weak (r : Regex) : Prop := ∀ ⦃text result rest' : List Char⦄ ⦃c : Char⦄, Reflows text result →
  isSpace c = false → c :: rest' ∈ r.rests result →
    ∃ rest, rest ∈ r.rests text ∧ Reflows rest (c :: rest')

/-- A part of a phrase: something visible first, and the same in a reflowed text. -/
structure Wordlike (r : Regex) : Prop where
  solid : Solid r
  strong : Strong r

/-! ### The parts -/

theorem strong_empty : Strong .empty := by
  intro text result rest' h hmem
  obtain rfl := List.mem_singleton.1 hmem
  exact ⟨text, List.mem_singleton_self _, h⟩

theorem strong_one {p : Char → Bool} (hp : ∀ c, p c = true → isSpace c = false) :
    Strong (.one p) := by
  intro text result rest' h hmem
  cases result with
  | nil => cases hmem
  | cons c result =>
      rw [rests] at hmem
      split_ifs at hmem with hpc
      · obtain rfl := List.mem_singleton.1 hmem
        obtain ⟨rest, rfl, hrest⟩ := h.of_cons (hp c hpc)
        exact ⟨rest, by rw [rests, if_pos hpc]; exact List.mem_singleton_self _, hrest⟩
      · cases hmem

theorem solid_one {p : Char → Bool} (hp : ∀ c, p c = true → isSpace c = false) :
    Solid (.one p) := by
  intro text rest hmem
  cases text with
  | nil => cases hmem
  | cons c text =>
      rw [rests] at hmem
      split_ifs at hmem with hpc
      · exact ⟨c, text, rfl, hp c hpc⟩
      · cases hmem

theorem Strong.weak {r : Regex} (h : Strong r) : Weak r := fun _ _ _ _ hreflows _ hmem =>
  h hreflows hmem

theorem Solid.seq {r s : Regex} (hr : Solid r) : Solid (.seq r s) := by
  intro text rest hmem
  obtain ⟨middle, hmiddle, -⟩ := List.mem_flatMap.1 hmem
  exact hr hmiddle

theorem Strong.seq {r s : Regex} (hr : Strong r) (hs : Strong s) : Strong (.seq r s) := by
  intro text result rest' h hmem
  obtain ⟨middle', hmiddle', hrest'⟩ := List.mem_flatMap.1 hmem
  obtain ⟨middle, hmiddle, h⟩ := hr h hmiddle'
  obtain ⟨rest, hrest, h⟩ := hs h hrest'
  exact ⟨rest, List.mem_flatMap.2 ⟨middle, hmiddle, hrest⟩, h⟩

theorem Strong.seq_weak {r s : Regex} (hr : Strong r) (hs : Weak s) : Weak (.seq r s) := by
  intro text result rest' c h hc hmem
  obtain ⟨middle', hmiddle', hrest'⟩ := List.mem_flatMap.1 hmem
  obtain ⟨middle, hmiddle, h⟩ := hr h hmiddle'
  obtain ⟨rest, hrest, h⟩ := hs h hc hrest'
  exact ⟨rest, List.mem_flatMap.2 ⟨middle, hmiddle, hrest⟩, h⟩

/-- White space of any form before something visible. -/
theorem Weak.seq {r s : Regex} (hr : Weak r) (hs : Wordlike s) : Strong (.seq r s) := by
  intro text result rest' h hmem
  obtain ⟨middle', hmiddle', hrest'⟩ := List.mem_flatMap.1 hmem
  obtain ⟨c, more, rfl, hc⟩ := hs.solid hrest'
  obtain ⟨middle, hmiddle, h⟩ := hr h hc hmiddle'
  obtain ⟨rest, hrest, h⟩ := hs.strong h hrest'
  exact ⟨rest, List.mem_flatMap.2 ⟨middle, hmiddle, hrest⟩, h⟩

theorem Weak.alt {r s : Regex} (hr : Weak r) (hs : Weak s) : Weak (.alt r s) := by
  intro text result rest' c h hc hmem
  rcases List.mem_append.1 hmem with hmem | hmem
  · obtain ⟨rest, hrest, h⟩ := hr h hc hmem
    exact ⟨rest, List.mem_append_left _ hrest, h⟩
  · obtain ⟨rest, hrest, h⟩ := hs h hc hmem
    exact ⟨rest, List.mem_append_right _ hrest, h⟩

theorem Wordlike.alt {r s : Regex} (hr : Wordlike r) (hs : Wordlike s) :
    Wordlike (.alt r s) where
  solid _ _ hmem := (List.mem_append.1 hmem).elim (fun h => hr.solid h) fun h => hs.solid h
  strong _ _ _ h hmem := by
    rcases List.mem_append.1 hmem with hmem | hmem
    · obtain ⟨rest, hrest, h⟩ := hr.strong h hmem
      exact ⟨rest, List.mem_append_left _ hrest, h⟩
    · obtain ⟨rest, hrest, h⟩ := hs.strong h hmem
      exact ⟨rest, List.mem_append_right _ hrest, h⟩

theorem Wordlike.any {first : Regex} (hfirst : Wordlike first) : ∀ {more : List Regex},
    (∀ r ∈ more, Wordlike r) → Wordlike (.any first more)
  | [], _ => hfirst
  | _ :: _, h => hfirst.alt (Wordlike.any (h _ List.mem_cons_self)
      fun r hr => h r (List.mem_cons_of_mem _ hr))

/-- A run of a class takes any part of what belongs to it. -/
theorem mem_starRests_iff {p : Char → Bool} : ∀ {text rest : List Char},
    rest ∈ starRests p text ↔ ∃ run, text = run ++ rest ∧ ∀ c ∈ run, p c = true
  | [], rest => by
      rw [starRests, List.mem_singleton]
      constructor
      · rintro rfl
        exact ⟨[], rfl, fun c hc => by cases hc⟩
      · rintro ⟨run, heq, -⟩
        exact (List.append_eq_nil_iff.1 heq.symm).2
  | c :: text, rest => by
      rw [starRests]
      constructor
      · intro h
        split_ifs at h with hc
        · rcases List.mem_append.1 h with h | h
          · obtain ⟨run, rfl, hrun⟩ := mem_starRests_iff.1 h
            refine ⟨c :: run, rfl, fun d hd => ?_⟩
            rcases List.mem_cons.1 hd with rfl | hd
            · exact hc
            · exact hrun d hd
          · exact ⟨[], (List.mem_singleton.1 h).symm, fun d hd => by cases hd⟩
        · exact ⟨[], (List.mem_singleton.1 h).symm, fun d hd => by cases hd⟩
      · rintro ⟨run, heq, hrun⟩
        cases run with
        | nil =>
            rw [List.nil_append] at heq
            subst heq
            split_ifs
            · exact List.mem_append_right _ (List.mem_singleton_self _)
            · exact List.mem_singleton_self _
        | cons d run =>
            obtain ⟨rfl, rfl⟩ := List.cons.inj heq
            rw [if_pos (hrun c List.mem_cons_self)]
            exact List.mem_append_left _ (mem_starRests_iff.2
              ⟨run, rfl, fun e he => hrun e (List.mem_cons_of_mem c he)⟩)

theorem weak_star : Weak (.star isSpace) := by
  intro text result rest' c h hc hmem
  obtain ⟨b, rfl, hb⟩ := mem_starRests_iff.1 hmem
  obtain ⟨b', rest, rfl, hb', -, hrest⟩ := h.of_blank hb hc
  exact ⟨c :: rest, mem_starRests_iff.2 ⟨b', rfl, hb'⟩, .solid hc hrest⟩

theorem weak_plus : Weak (.plus isSpace) := by
  intro text result rest' c h hc hmem
  obtain ⟨middle, hfirst, hmore⟩ := List.mem_flatMap.1 hmem
  obtain ⟨b, rfl, hb⟩ := mem_starRests_iff.1 hmore
  cases result with
  | nil => cases hfirst
  | cons d result =>
      rw [rests] at hfirst
      split_ifs at hfirst with hd
      · obtain rfl := List.mem_singleton.1 hfirst
        have hblank : Blank (d :: b) := by
          intro e he
          rcases List.mem_cons.1 he with rfl | he
          · exact hd
          · exact hb e he
        obtain ⟨b', rest, rfl, hb', hiff, hrest⟩ := h.of_blank (b := d :: b) hblank hc
        have hne : b' ≠ [] := fun hnil => List.cons_ne_nil d b (hiff.2 hnil)
        obtain ⟨e, b', rfl⟩ := List.exists_cons_of_ne_nil hne
        refine ⟨c :: rest, List.mem_flatMap.2 ⟨b' ++ c :: rest, ?_, mem_starRests_iff.2
          ⟨b', rfl, fun f hf => hb' f (List.mem_cons_of_mem e hf)⟩⟩, .solid hc hrest⟩
        rw [List.cons_append, rests, if_pos (hb' e List.mem_cons_self)]
        exact List.mem_singleton_self _
      · cases hfirst

/-! ### Phrases -/

/-- The end of a phrase. -/
theorem Wordlike.last {r : Regex} (hr : Wordlike r) : Wordlike (.seq r .empty) :=
  ⟨hr.solid.seq, hr.strong.seq strong_empty⟩

/-- White space within a phrase. -/
theorem Wordlike.spaced {r s white : Regex} (hr : Wordlike r) (hwhite : Weak white)
    (hs : Wordlike s) : Wordlike (.seq r (.seq white s)) :=
  ⟨hr.solid.seq, hr.strong.seq (hwhite.seq hs)⟩

/-- A word that may be there, with the white space behind it. -/
theorem Wordlike.maybe {r s : Regex} (hr : Wordlike r) (hs : Wordlike s) :
    Wordlike (.seq (.opt (.seq r (.plus isSpace))) s) where
  solid _ _ hmem := by
    obtain ⟨middle, hmiddle, hrest⟩ := List.mem_flatMap.1 hmem
    rcases List.mem_append.1 hmiddle with hmiddle | hmiddle
    · exact hr.solid.seq hmiddle
    · obtain rfl := List.mem_singleton.1 hmiddle
      exact hs.solid hrest
  strong := (Weak.alt (hr.strong.seq_weak weak_plus) strong_empty.weak).seq hs

/-- A word of visible characters. -/
theorem wordlike_ones {classes : List (Char → Bool)} (hne : classes ≠ [])
    (h : ∀ p ∈ classes, ∀ c, p c = true → isSpace c = false) : Wordlike (.all (classes.map .one)) := by
  have hstrong : ∀ {classes : List (Char → Bool)},
      (∀ p ∈ classes, ∀ c, p c = true → isSpace c = false) → Strong (.all (classes.map .one)) := by
    intro classes h
    induction classes with
    | nil => exact strong_empty
    | cons p classes ih =>
        exact (strong_one (h p List.mem_cons_self)).seq
          (ih fun q hq => h q (List.mem_cons_of_mem p hq))
  refine ⟨?_, hstrong h⟩
  obtain ⟨p, classes, rfl⟩ := List.exists_cons_of_ne_nil hne
  exact (solid_one (h p List.mem_cons_self)).seq

/-- **A phrase that is found in a reflowed text is found in the text.** -/
theorem search_of_reflow {r : Regex} (hr : Wordlike r) {text : List Char}
    (h : r.search (Strings.reflow text) = true) : r.search text = true := by
  obtain ⟨rest', hsuffix, hmatch⟩ := (search_iff r).1 h
  obtain ⟨left', hleft'⟩ := matchesHere_iff.1 hmatch
  obtain ⟨c, more, rfl, hc⟩ := hr.solid hleft'
  obtain ⟨rest, hrest, hreflows⟩ := Strings.reflow_of_suffix hc hsuffix
  obtain ⟨left, hleft, -⟩ := hr.strong (.solid hc hreflows) hleft'
  exact (search_iff r).2 ⟨c :: rest, hrest, matchesHere_iff.2 ⟨left, hleft⟩⟩

end Regex
end AgenticCommerce
