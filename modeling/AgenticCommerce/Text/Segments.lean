/-
# Segments behind a separator

Lists that are joined by a separator which none of them contains: they can be told apart again, so
joining is injective, and one joined list begins another exactly when its segments are the first
segments of the other, the last of them perhaps cut short.
-/

import Mathlib.Data.List.Infix

namespace AgenticCommerce
namespace Segments

variable {α : Type} {sep : α}

/-- The segments, with the separator between them. -/
def join (sep : α) (segments : List (List α)) : List α := [sep].intercalate segments

/-- No segment contains the separator. -/
def Clean (sep : α) (segments : List (List α)) : Prop := ∀ segment ∈ segments, sep ∉ segment

@[simp] theorem join_singleton (segment : List α) : join sep [segment] = segment :=
  List.intercalate_singleton

theorem join_cons {segment : List α} {rest : List (List α)} (h : rest ≠ []) :
    join sep (segment :: rest) = segment ++ sep :: join sep rest := by
  obtain ⟨next, more, rfl⟩ := List.exists_cons_of_ne_nil h
  rw [join, List.intercalate_cons_cons, List.append_assoc, List.singleton_append, join]

/-- Two lists of segments, one after the other. -/
theorem join_append {first rest : List (List α)} (hfirst : first ≠ []) (hrest : rest ≠ []) :
    join sep (first ++ rest) = join sep first ++ sep :: join sep rest := by
  induction first with
  | nil => exact absurd rfl hfirst
  | cons segment more ih =>
      by_cases hmore : more = []
      · rw [hmore, List.singleton_append, join_cons hrest, join_singleton]
      · rw [List.cons_append, join_cons (by simp [hmore]), ih hmore, join_cons hmore,
          List.append_assoc, List.cons_append]

theorem Clean.tail {segment : List α} {rest : List (List α)} (h : Clean sep (segment :: rest)) :
    Clean sep rest :=
  fun other hother => h other (List.mem_cons_of_mem _ hother)

theorem Clean.head {segment : List α} {rest : List (List α)} (h : Clean sep (segment :: rest)) :
    sep ∉ segment :=
  h segment List.mem_cons_self

/-- What stands before the first separator, and what stands behind it. -/
theorem prefix_cut {a b u v : List α} (ha : sep ∉ a) (hb : sep ∉ b) :
    a ++ sep :: u <+: b ++ sep :: v ↔ a = b ∧ u <+: v := by
  induction a generalizing b with
  | nil =>
      cases b with
      | nil =>
          rw [List.nil_append, List.nil_append, List.cons_prefix_cons]
          simp
      | cons c b =>
          rw [List.nil_append, List.cons_append, List.cons_prefix_cons]
          constructor
          · rintro ⟨rfl, -⟩
            exact absurd List.mem_cons_self hb
          · rintro ⟨h, -⟩
            cases h
  | cons c a ih =>
      cases b with
      | nil =>
          rw [List.nil_append, List.cons_append, List.cons_prefix_cons]
          constructor
          · rintro ⟨rfl, -⟩
            exact absurd List.mem_cons_self ha
          · rintro ⟨h, -⟩
            cases h
      | cons d b =>
          rw [List.cons_append, List.cons_append, List.cons_prefix_cons,
            ih (fun h => ha (List.mem_cons_of_mem _ h)) (fun h => hb (List.mem_cons_of_mem _ h)),
            List.cons.injEq, and_assoc]

/-- A separator is the first, or it stands behind the first. -/
theorem cut_first {a : List α} (ha : sep ∉ a) {u v b : List α}
    (h : u ++ sep :: v = a ++ sep :: b) :
    u = a ∧ v = b ∨ ∃ u', u = a ++ sep :: u' ∧ b = u' ++ sep :: v := by
  induction a generalizing u with
  | nil =>
      cases u with
      | nil => exact .inl ⟨rfl, (List.cons.inj h).2⟩
      | cons c u =>
          obtain ⟨rfl, hb⟩ := List.cons.inj h
          exact .inr ⟨u, rfl, hb.symm⟩
  | cons c a ih =>
      cases u with
      | nil =>
          obtain ⟨rfl, -⟩ := List.cons.inj h
          exact absurd List.mem_cons_self ha
      | cons d u =>
          obtain ⟨rfl, hu⟩ := List.cons.inj h
          refine (ih (List.not_mem_of_not_mem_cons ha) hu).imp ?_ ?_
          · rintro ⟨rfl, rfl⟩
            exact ⟨rfl, rfl⟩
          · rintro ⟨u', rfl, hb⟩
            exact ⟨u', rfl, hb⟩

/-- What stands before the first separator and behind it can be told. -/
theorem cut_inj {a b u v : List α} (ha : sep ∉ a) (hb : sep ∉ b) :
    a ++ sep :: u = b ++ sep :: v ↔ a = b ∧ u = v := by
  constructor
  · intro h
    have hinitial : a ++ sep :: u <+: b ++ sep :: v := by
      rw [h]
    obtain ⟨rfl, -⟩ := (prefix_cut ha hb).1 hinitial
    exact ⟨rfl, (List.cons.inj (List.append_cancel_left h)).2⟩
  · rintro ⟨rfl, rfl⟩
    rfl

/-- A list without the separator begins what stands before it. -/
theorem prefix_before {a b v : List α} (ha : sep ∉ a) : a <+: b ++ sep :: v ↔ a <+: b := by
  constructor
  · intro h
    rcases List.prefix_or_prefix_of_prefix h (List.prefix_append b (sep :: v)) with hab | hba
    · exact hab
    · obtain ⟨rest, rfl⟩ := hba
      have hrest : rest <+: sep :: v := (List.prefix_append_right_inj b).1 h
      cases rest with
      | nil => rw [List.append_nil]
      | cons c rest =>
          obtain rfl : c = sep := (List.cons_prefix_cons.1 hrest).1
          exact absurd (List.mem_append_right b List.mem_cons_self) ha
  · exact fun h => h.trans (List.prefix_append _ _)

/-- **One joined list begins another** exactly when its segments are the first ones of the other,
the last of them perhaps cut short. -/
theorem join_prefix_iff {first other : List (List α)} {last : List α}
    (hfirst : Clean sep (first ++ [last])) (hother : Clean sep other) (hne : other ≠ []) :
    join sep (first ++ [last]) <+: join sep other ↔
      ∃ x rest, other = first ++ x :: rest ∧ last <+: x := by
  induction first generalizing other with
  | nil =>
      obtain ⟨x, rest, rfl⟩ := List.exists_cons_of_ne_nil hne
      have hlast : last <+: join sep (x :: rest) ↔ last <+: x := by
        by_cases hrest : rest = []
        · rw [hrest, join_singleton]
        · rw [join_cons hrest, prefix_before (hfirst last (List.mem_singleton_self last))]
      rw [List.nil_append, join_singleton, hlast]
      constructor
      · exact fun h => ⟨x, rest, rfl, h⟩
      · rintro ⟨x', rest', heq, h⟩
        obtain ⟨rfl, rfl⟩ := List.cons.inj heq
        exact h
  | cons segment first ih =>
      obtain ⟨x, rest, rfl⟩ := List.exists_cons_of_ne_nil hne
      rw [List.cons_append, join_cons (List.append_ne_nil_of_right_ne_nil _ (by simp))]
      by_cases hrest : rest = []
      · -- one segment only: it would contain the separator
        rw [hrest, join_singleton]
        constructor
        · intro h
          have hsep : sep ∈ x := h.mem (List.mem_append_right _ List.mem_cons_self)
          exact absurd hsep hother.head
        · rintro ⟨x', rest', heq, -⟩
          exact absurd (List.cons.inj heq).2 (by simp)
      · rw [join_cons hrest, prefix_cut hfirst.head hother.head, ih hfirst.tail hother.tail hrest]
        constructor
        · rintro ⟨rfl, x', rest', rfl, h⟩
          exact ⟨x', rest', rfl, h⟩
        · rintro ⟨x', rest', heq, h⟩
          obtain ⟨rfl, rfl⟩ := List.cons.inj heq
          exact ⟨rfl, x', rest', rfl, h⟩

/-- With the separator behind it, a joined list begins those that have more segments. -/
theorem join_sep_prefix_iff {first other : List (List α)} (hfirst : Clean sep first)
    (hne : first ≠ []) (hother : Clean sep other) (hne' : other ≠ []) :
    join sep first ++ [sep] <+: join sep other ↔ ∃ x rest, other = first ++ x :: rest := by
  have hjoin : join sep first ++ [sep] = join sep (first ++ [[]]) := by
    rw [join_append hne (List.cons_ne_nil _ _), join_singleton]
  have hclean : Clean sep (first ++ [[]]) := by
    intro segment hsegment
    rcases List.mem_append.1 hsegment with h | h
    · exact hfirst segment h
    · rw [List.mem_singleton.1 h]
      exact List.not_mem_nil
  rw [hjoin, join_prefix_iff hclean hother hne']
  exact ⟨fun ⟨x, rest, h, _⟩ => ⟨x, rest, h⟩, fun ⟨x, rest, h⟩ => ⟨x, rest, h, List.nil_prefix⟩⟩

/-- The segments can be told from what is joined. -/
theorem join_injective [BEq α] [LawfulBEq α] {segments other : List (List α)}
    (hclean : Clean sep segments) (hne : segments ≠ []) (hother : Clean sep other)
    (hne' : other ≠ []) (h : join sep segments = join sep other) : segments = other := by
  rw [← List.splitOn_intercalate sep hclean hne, ← List.splitOn_intercalate sep hother hne']
  exact congrArg (List.splitOn sep) h

/-- What a text is split into has no separator in it. -/
theorem clean_splitOn [BEq α] [LawfulBEq α] (text : List α) : Clean sep (text.splitOn sep) := by
  induction text with
  | nil => simp [Clean]
  | cons c text ih =>
      rw [List.splitOn_cons_eq_if_modifyHead]
      obtain ⟨head, rest, hsplit⟩ := List.exists_cons_of_ne_nil (List.splitOn_ne_nil sep text)
      rw [hsplit] at ih ⊢
      intro segment hsegment
      split_ifs at hsegment with hc
      · rcases List.mem_cons.1 hsegment with rfl | h
        · exact List.not_mem_nil
        · exact ih segment h
      · rw [List.modifyHead_cons] at hsegment
        rcases List.mem_cons.1 hsegment with rfl | h
        · intro hsep
          rcases List.mem_cons.1 hsep with rfl | hhead
          · exact hc (beq_self_eq_true _)
          · exact ih.head hhead
        · exact ih segment (List.mem_cons_of_mem _ h)

theorem join_splitOn [BEq α] [LawfulBEq α] (text : List α) : join sep (text.splitOn sep) = text :=
  List.intercalate_splitOn sep

end Segments
end AgenticCommerce
