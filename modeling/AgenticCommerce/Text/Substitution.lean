/-
# Replacing the matches of an expression

`pattern.sub(text, …)` of Python's `re`, for a pattern that matches no empty text and a replacement
without references: the matches are found from the left, each as the matcher prefers it, and the
next is looked for behind it.

Two questions about the result have an answer in general.  What an expression that matches no
bracket finds in it is found over the replacements, when these stand in brackets
(`search_sub_eq_false`).  And a text without matches is left as it is (`sub_eq_self`).
-/

import AgenticCommerce.Text.Regex

namespace AgenticCommerce
namespace Regex

/-- The text with its matches replaced, but for so many characters that are skipped first. -/
def subFrom (r : Regex) (replacement : List Char) : ℕ → List Char → List Char
  | _, [] => []
  | skip + 1, _ :: text => subFrom r replacement skip text
  | 0, c :: text =>
      match r.rests (c :: text) with
      | rest :: _ => replacement ++ subFrom r replacement (text.length - rest.length) text
      | [] => c :: subFrom r replacement 0 text

/-- `pattern.sub(replacement, text)`. -/
def sub (r : Regex) (replacement text : List Char) : List Char := subFrom r replacement 0 text

/-- Whether an expression matches no empty text. -/
def consumes : Regex → Bool
  | empty => false
  | one _ => true
  | star _ => false
  | lazyStar _ => false
  | seq r s => r.consumes || s.consumes
  | alt r s => r.consumes && s.consumes

/-- Whether a character is in no match of an expression. -/
def avoids (c : Char) : Regex → Bool
  | empty => true
  | one p => !p c
  | star p => !p c
  | lazyStar p => !p c
  | seq r s => r.avoids c && s.avoids c
  | alt r s => r.avoids c && s.avoids c

/-! ### What is matched -/

theorem length_lt_of_consumes : ∀ {r : Regex}, r.consumes = true → ∀ {text rest : List Char},
    rest ∈ r.rests text → rest.length < text.length
  | one p, _, [], rest, h => by cases h
  | one p, _, c :: text, rest, h => by
      rw [rests] at h
      split_ifs at h
      · rw [List.mem_singleton.1 h, List.length_cons]
        omega
      · cases h
  | seq r s, hr, text, rest, h => by
      obtain ⟨middle, hmiddle, hrest⟩ := List.mem_flatMap.1 h
      have hle := (suffix_of_mem_rests r hmiddle).length_le
      have hle' := (suffix_of_mem_rests s hrest).length_le
      rw [consumes, Bool.or_eq_true] at hr
      rcases hr with hr | hs
      · have := length_lt_of_consumes hr hmiddle
        omega
      · have := length_lt_of_consumes hs hrest
        omega
  | alt r s, hr, text, rest, h => by
      rw [consumes, Bool.and_eq_true] at hr
      rcases List.mem_append.1 h with h | h
      · exact length_lt_of_consumes hr.1 h
      · exact length_lt_of_consumes hr.2 h

theorem matchesHere_iff {r : Regex} {text : List Char} :
    r.matchesHere text = true ↔ ∃ rest, rest ∈ r.rests text := by
  rw [matchesHere, Bool.not_eq_true', List.isEmpty_eq_false_iff_exists_mem]

theorem matchesHere_eq_false_iff {r : Regex} {text : List Char} :
    r.matchesHere text = false ↔ r.rests text = [] := by
  rw [matchesHere, Bool.not_eq_false', List.isEmpty_iff]

theorem mem_rests_one {p : Char → Bool} {text rest : List Char} :
    rest ∈ (one p).rests text ↔ ∃ c, text = c :: rest ∧ p c = true := by
  cases text with
  | nil => simp [rests]
  | cons c text =>
      rw [rests]
      split_ifs with hc
      · rw [List.mem_singleton]
        constructor
        · rintro rfl
          exact ⟨c, rfl, hc⟩
        · rintro ⟨d, heq, -⟩
          exact (List.cons.inj heq).2.symm
      · constructor
        · intro h
          cases h
        · rintro ⟨d, heq, hd⟩
          rw [(List.cons.inj heq).1] at hc
          exact absurd hd hc

theorem mem_starRests_append {p : Char → Bool} {y : List Char} : ∀ {x rest : List Char},
    rest ∈ starRests p x → rest ++ y ∈ starRests p (x ++ y)
  | [], rest, h => by
      obtain rfl := List.mem_singleton.1 h
      cases y with
      | nil => exact List.mem_singleton_self _
      | cons c y =>
          rw [List.nil_append, starRests]
          split_ifs
          · exact List.mem_append_right _ (List.mem_singleton_self _)
          · exact List.mem_singleton_self _
  | c :: x, rest, h => by
      rw [starRests] at h
      rw [List.cons_append, starRests]
      split_ifs at h ⊢
      · rcases List.mem_append.1 h with h | h
        · exact List.mem_append_left _ (mem_starRests_append h)
        · obtain rfl := List.mem_singleton.1 h
          exact List.mem_append_right _ (List.mem_singleton_self _)
      · obtain rfl := List.mem_singleton.1 h
        exact List.mem_singleton_self _

theorem mem_lazyRests_append {p : Char → Bool} {y : List Char} : ∀ {x rest : List Char},
    rest ∈ lazyRests p x → rest ++ y ∈ lazyRests p (x ++ y)
  | [], rest, h => by
      obtain rfl := List.mem_singleton.1 h
      cases y with
      | nil => exact List.mem_singleton_self _
      | cons c y => exact List.mem_cons_self
  | c :: x, rest, h => by
      rw [lazyRests, List.mem_cons] at h
      rw [List.cons_append, lazyRests, List.mem_cons]
      rcases h with rfl | h
      · exact .inl rfl
      · split_ifs at h ⊢
        · exact .inr (mem_lazyRests_append h)
        · cases h

/-- **A match stays one when the text goes on.** -/
theorem mem_rests_append {y : List Char} : ∀ {r : Regex} {x rest : List Char},
    rest ∈ r.rests x → rest ++ y ∈ r.rests (x ++ y)
  | empty, x, rest, h => by
      rw [List.mem_singleton.1 h]
      exact List.mem_singleton_self _
  | one p, [], rest, h => by cases h
  | one p, c :: x, rest, h => by
      rw [rests] at h
      rw [List.cons_append, rests]
      split_ifs at h ⊢
      · rw [List.mem_singleton.1 h]
        exact List.mem_singleton_self _
      · cases h
  | star _, _, _, h => mem_starRests_append h
  | lazyStar _, _, _, h => mem_lazyRests_append h
  | seq r s, x, rest, h => by
      obtain ⟨middle, hmiddle, hrest⟩ := List.mem_flatMap.1 h
      exact List.mem_flatMap.2 ⟨_, mem_rests_append hmiddle, mem_rests_append hrest⟩
  | alt r s, x, rest, h => by
      rcases List.mem_append.1 h with h | h
      · exact List.mem_append_left _ (mem_rests_append h)
      · exact List.mem_append_right _ (mem_rests_append h)

theorem starRests_barrier {p : Char → Bool} {b : Char} (hb : p b = false) (y : List Char) :
    ∀ x : List Char, starRests p (x ++ b :: y) = (starRests p x).map (· ++ b :: y)
  | [] => by
      simp [starRests, hb]
  | c :: x => by
      rw [List.cons_append, starRests, starRests]
      split_ifs
      · rw [starRests_barrier hb y x, List.map_append]
        rfl
      · rfl

theorem lazyRests_barrier {p : Char → Bool} {b : Char} (hb : p b = false) (y : List Char) :
    ∀ x : List Char, lazyRests p (x ++ b :: y) = (lazyRests p x).map (· ++ b :: y)
  | [] => by
      simp [lazyRests, hb]
  | c :: x => by
      rw [List.cons_append, lazyRests, lazyRests, List.map_cons]
      split_ifs
      · rw [lazyRests_barrier hb y x]
        rfl
      · rfl

/-- **The matches before a character that the expression avoids** are those without what follows
it. -/
theorem rests_barrier {b : Char} (y : List Char) : ∀ {r : Regex}, r.avoids b = true →
    ∀ x : List Char, r.rests (x ++ b :: y) = (r.rests x).map (· ++ b :: y)
  | empty, _, x => rfl
  | one p, hb, [] => by
      rw [avoids, Bool.not_eq_true'] at hb
      simp [rests, hb]
  | one p, _, c :: x => by
      rw [List.cons_append, rests, rests]
      split_ifs <;> rfl
  | star p, hb, x => starRests_barrier (by simpa [avoids] using hb) y x
  | lazyStar p, hb, x => lazyRests_barrier (by simpa [avoids] using hb) y x
  | seq r s, hb, x => by
      rw [avoids, Bool.and_eq_true] at hb
      rw [rests, rests, rests_barrier y hb.1, List.flatMap_map, List.map_flatMap]
      exact congrArg (fun f => (r.rests x).flatMap f) (funext fun middle => rests_barrier y hb.2 middle)
  | alt r s, hb, x => by
      rw [avoids, Bool.and_eq_true] at hb
      rw [rests, rests, rests_barrier y hb.1, rests_barrier y hb.2, List.map_append]

/-- A match ends before a character that the expression avoids. -/
theorem of_mem_rests_barrier {b : Char} {y : List Char} {r : Regex} (hb : r.avoids b = true)
    {x rest : List Char} (h : rest ∈ r.rests (x ++ b :: y)) :
    ∃ rest', rest = rest' ++ b :: y ∧ rest' ∈ r.rests x := by
  rw [rests_barrier y hb] at h
  obtain ⟨rest', hrest', rfl⟩ := List.mem_map.1 h
  exact ⟨rest', rfl, hrest'⟩

/-! ### The result of a replacement -/

theorem subFrom_eq_drop (r : Regex) (replacement : List Char) : ∀ (skip : ℕ) (text : List Char),
    subFrom r replacement skip text = sub r replacement (text.drop skip)
  | 0, _ => rfl
  | _ + 1, [] => rfl
  | skip + 1, _ :: text => subFrom_eq_drop r replacement skip text

/-- Where nothing matches, a character is kept. -/
theorem sub_cons_of_rests {r : Regex} {replacement : List Char} {c : Char} {text : List Char}
    (h : r.rests (c :: text) = []) : r.sub replacement (c :: text) = c :: r.sub replacement text := by
  rw [sub, subFrom, h]
  rfl

/-- Where something matches, the replacement stands for it. -/
theorem sub_of_rests {r : Regex} (hr : r.consumes = true) {replacement text rest : List Char}
    {more : List (List Char)} (h : r.rests text = rest :: more) :
    r.sub replacement text = replacement ++ r.sub replacement rest := by
  have hmem : rest ∈ r.rests text := by
    rw [h]
    exact List.mem_cons_self
  have hlt := length_lt_of_consumes hr hmem
  cases text with
  | nil => exact absurd hlt (Nat.not_lt_zero _)
  | cons c text =>
      have hsuffix : rest <:+ text := by
        rcases List.suffix_cons_iff.1 (suffix_of_mem_rests r hmem) with rfl | hsuffix
        · exact absurd hlt (lt_irrefl _)
        · exact hsuffix
      obtain ⟨front, rfl⟩ := hsuffix
      rw [sub, subFrom, h]
      dsimp only
      rw [subFrom_eq_drop, List.length_append, Nat.add_sub_cancel, List.drop_left]

/-- **Induction over a replacement**: the end, a character that is kept, and a match that is
replaced. -/
theorem sub_induction {r : Regex} (hr : r.consumes = true) (replacement : List Char)
    {motive : List Char → List Char → Prop} (nil : motive [] [])
    (keep : ∀ c text, r.rests (c :: text) = [] → motive text (r.sub replacement text) →
      motive (c :: text) (c :: r.sub replacement text))
    (replace : ∀ matched rest, matched ≠ [] → rest ∈ r.rests (matched ++ rest) →
      motive rest (r.sub replacement rest) →
        motive (matched ++ rest) (replacement ++ r.sub replacement rest))
    (text : List Char) : motive text (r.sub replacement text) := by
  induction hlength : text.length using Nat.strong_induction_on generalizing text with
  | _ n ih =>
    cases hrests : r.rests text with
    | nil =>
        cases text with
        | nil => exact nil
        | cons c text =>
            rw [sub_cons_of_rests hrests]
            exact keep c text hrests (ih text.length (by rw [← hlength, List.length_cons]; omega)
              text rfl)
    | cons rest more =>
        rw [sub_of_rests hr hrests]
        have hmem : rest ∈ r.rests text := by
          rw [hrests]
          exact List.mem_cons_self
        have hlt := length_lt_of_consumes hr hmem
        obtain ⟨matched, rfl⟩ := suffix_of_mem_rests r hmem
        refine replace matched rest ?_ hmem (ih rest.length (by omega) rest rfl)
        rintro rfl
        exact lt_irrefl _ hlt

/-- A text without matches is left as it is. -/
theorem sub_eq_self {r : Regex} {replacement : List Char} : ∀ {text : List Char},
    r.search text = false → r.sub replacement text = text
  | [], _ => rfl
  | c :: text, h => by
      rw [search, Bool.or_eq_false_iff] at h
      rw [sub_cons_of_rests (matchesHere_eq_false_iff.1 h.1), sub_eq_self h.2]

/-- **A character that the expression avoids divides the text.** -/
theorem sub_barrier {r : Regex} (hr : r.consumes = true) {b : Char} (hb : r.avoids b = true)
    (replacement x y : List Char) :
    r.sub replacement (x ++ b :: y) = r.sub replacement x ++ b :: r.sub replacement y := by
  induction hlength : x.length using Nat.strong_induction_on generalizing x with
  | _ n ih =>
    have hrests := rests_barrier y hb x
    cases hx : r.rests x with
    | nil =>
        rw [hx, List.map_nil] at hrests
        cases x with
        | nil => exact sub_cons_of_rests hrests
        | cons c x =>
            have hrest := ih x.length (by rw [← hlength, List.length_cons]; omega) x rfl
            rw [List.cons_append] at hrests ⊢
            rw [sub_cons_of_rests hx, sub_cons_of_rests hrests, hrest, List.cons_append]
    | cons rest more =>
        have hlt := length_lt_of_consumes hr (hx ▸ List.mem_cons_self)
        rw [hx, List.map_cons] at hrests
        rw [sub_of_rests hr hx, sub_of_rests hr hrests, ih rest.length (by omega) rest rfl,
          List.append_assoc]

/-- What is in the result is in the text or in the replacement. -/
theorem mem_sub {r : Regex} (hr : r.consumes = true) {replacement text : List Char} {c : Char}
    (h : c ∈ r.sub replacement text) : c ∈ text ∨ c ∈ replacement := by
  revert h
  refine sub_induction (motive := fun text result => c ∈ result → c ∈ text ∨ c ∈ replacement) hr
    replacement ?_ ?_ ?_ text
  · exact fun h => .inl h
  · intro d text _ ih h
    rcases List.mem_cons.1 h with rfl | h
    · exact .inl List.mem_cons_self
    · exact (ih h).imp (List.mem_cons_of_mem d) id
  · intro matched rest _ _ ih h
    rcases List.mem_append.1 h with h | h
    · exact .inr h
    · exact (ih h).imp (List.mem_append_right matched) id

/-- Only the empty text becomes empty. -/
theorem sub_eq_nil {r : Regex} (hr : r.consumes = true) {replacement text : List Char}
    (hne : replacement ≠ []) (h : r.sub replacement text = []) : text = [] := by
  revert h
  refine sub_induction (motive := fun text result => result = [] → text = []) hr replacement
    (fun _ => rfl) ?_ ?_ text
  · intro c text _ _ h
    cases h
  · intro matched rest _ _ _ h
    exact absurd (List.append_eq_nil_iff.1 h).1 hne

/-- A function of texts that works on either side of a character by itself, and does not put it
in. -/
structure Divides (f : List Char → List Char) (c : Char) : Prop where
  append : ∀ x y, f (x ++ c :: y) = f x ++ c :: f y
  avoids : ∀ x, c ∉ x → c ∉ f x

theorem divides_sub {r : Regex} (hr : r.consumes = true) {c : Char} (hc : r.avoids c = true)
    {replacement : List Char} (hreplacement : c ∉ replacement) :
    Divides (r.sub replacement) c where
  append := sub_barrier hr hc replacement
  avoids _ hx h := (mem_sub hr h).elim hx hreplacement

theorem Divides.foldl {c : Char} {replacement : List Char} (hreplacement : c ∉ replacement) :
    ∀ {patterns : List Regex}, (∀ r ∈ patterns, r.consumes = true ∧ r.avoids c = true) →
      Divides (fun text => patterns.foldl (fun text r => r.sub replacement text) text) c
  | [], _ => ⟨fun _ _ => rfl, fun _ => id⟩
  | r :: patterns, h => by
      obtain ⟨hr, hc⟩ := h r List.mem_cons_self
      have hfirst := divides_sub hr hc hreplacement
      have hrest := Divides.foldl hreplacement fun s hs => h s (List.mem_cons_of_mem r hs)
      refine ⟨fun x y => ?_, fun x hx => hrest.avoids _ (hfirst.avoids x hx)⟩
      have happend := hrest.append (r.sub replacement x) (r.sub replacement y)
      rw [← hfirst.append] at happend
      exact happend

/-- **Such a character of the result comes from one of the text.** -/
theorem Divides.exists_of_eq {f : List Char → List Char} {c : Char} (hf : Divides f c)
    {a rest : List Char} {text : List Char} (h : f text = a ++ c :: rest) :
    ∃ x y, text = x ++ c :: y ∧ f x = a ∧ f y = rest := by
  induction hlength : text.length using Nat.strong_induction_on generalizing text a with
  | _ n ih =>
    have hmem : c ∈ text := by
      by_contra hno
      refine hf.avoids text hno ?_
      rw [h]
      exact List.mem_append_right a List.mem_cons_self
    obtain ⟨x, y, rfl, hx⟩ := List.eq_append_cons_of_mem hmem
    rw [hf.append] at h
    rcases List.append_eq_append_iff.1 h with ⟨between, rfl, hover⟩ | ⟨between, hover, htail⟩
    · cases between with
      | nil => exact ⟨x, y, rfl, (List.append_nil _).symm, (List.cons.inj hover).2⟩
      | cons d between =>
          obtain ⟨rfl, hrest⟩ := List.cons.inj hover
          obtain ⟨x', y', rfl, rfl, hy'⟩ := ih y.length (by
            rw [← hlength, List.length_append, List.length_cons]
            omega) hrest rfl
          exact ⟨x ++ c :: x', y', by simp, hf.append x x', hy'⟩
    · cases between with
      | nil =>
          rw [List.append_nil] at hover
          exact ⟨x, y, rfl, hover, (List.cons.inj htail).2.symm⟩
      | cons d between =>
          refine absurd ?_ (hf.avoids x hx)
          rw [hover, (List.cons.inj htail).1]
          exact List.mem_append_right a List.mem_cons_self

/-- What is found in a part is found in the whole. -/
theorem search_of_infix {r : Regex} {part text : List Char} (h : part <:+: text)
    (hpart : r.search part = true) : r.search text = true := by
  obtain ⟨before, after, rfl⟩ := h
  obtain ⟨rest, ⟨front, rfl⟩, hrest⟩ := (search_iff r).1 hpart
  obtain ⟨left, hleft⟩ := matchesHere_iff.1 hrest
  refine (search_iff r).2 ⟨rest ++ after, ⟨before ++ front, ?_⟩, ?_⟩
  · simp only [List.append_assoc]
  · exact matchesHere_iff.2 ⟨_, mem_rests_append hleft⟩

/-- **A match stands on one side of a character that the expression avoids.** -/
theorem search_barrier {r : Regex} (hr : r.consumes = true) {b : Char} (hb : r.avoids b = true)
    {x y : List Char} (h : r.search (x ++ b :: y) = true) :
    r.search x = true ∨ r.search y = true := by
  obtain ⟨rest, ⟨front, hfront⟩, hrest⟩ := (search_iff r).1 h
  obtain ⟨left, hleft⟩ := matchesHere_iff.1 hrest
  rcases List.append_eq_append_iff.1 hfront with ⟨between, rfl, rfl⟩ | ⟨between, rfl, hover⟩
  · obtain ⟨left', -, hleft'⟩ := of_mem_rests_barrier hb hleft
    exact .inl ((search_iff r).2 ⟨between, List.suffix_append front between,
      matchesHere_iff.2 ⟨left', hleft'⟩⟩)
  · cases between with
    | nil =>
        rw [List.nil_append] at hover
        rw [← hover] at hleft
        obtain ⟨left', -, hleft'⟩ := of_mem_rests_barrier (x := []) hb hleft
        exact absurd (length_lt_of_consumes hr hleft') (Nat.not_lt_zero _)
    | cons d between =>
        rw [List.cons_append, List.cons.injEq] at hover
        exact .inr ((search_iff r).2 ⟨rest, ⟨between, hover.2.symm⟩, hrest⟩)

/-- The result of a replacement goes along with the text up to the first replacement. -/
theorem sub_front {q : Regex} (hq : q.consumes = true) (first : Char) (others : List Char) :
    ∀ text : List Char, ∃ front more, text = front ++ more ∧
      ((q.sub (first :: others) text = front ∧ more = []) ∨
        ∃ y, q.sub (first :: others) text = front ++ first :: y) := by
  refine sub_induction (motive := fun text result => ∃ front more, text = front ++ more ∧
    ((result = front ∧ more = []) ∨ ∃ y, result = front ++ first :: y)) hq (first :: others)
    ⟨[], [], rfl, .inl ⟨rfl, rfl⟩⟩ ?_ ?_
  · rintro c text - ⟨front, more, rfl, ⟨heq, rfl⟩ | ⟨y, heq⟩⟩
    · exact ⟨c :: front, [], rfl, .inl ⟨by rw [heq], rfl⟩⟩
    · exact ⟨c :: front, more, rfl, .inr ⟨y, by rw [heq]; rfl⟩⟩
  · intro matched rest _ _ _
    exact ⟨[], matched ++ rest, rfl, .inr ⟨_, rfl⟩⟩

/-- **What an expression does not find before a replacement it does not find after it**, when it
avoids the ends of what is put in and does not match within. -/
theorem search_sub_eq_false {q r : Regex} (hq : q.consumes = true) (hr : r.consumes = true)
    {first last : Char} {body : List Char} (hfirst : r.avoids first = true)
    (hlast : r.avoids last = true) (hbody : r.search (first :: body) = false) {text : List Char}
    (hkept : ∀ rest, rest <:+ text → q.rests rest = [] → r.matchesHere rest = false) :
    r.search (q.sub (first :: (body ++ [last])) text) = false := by
  revert hkept
  refine sub_induction (motive := fun text result =>
    (∀ rest, rest <:+ text → q.rests rest = [] → r.matchesHere rest = false) →
      r.search result = false) hq _ ?_ ?_ ?_ text
  · intro hkept
    exact Bool.eq_false_iff.2 fun h => by
      obtain ⟨rest, hmem⟩ := matchesHere_iff.1 h
      exact absurd (length_lt_of_consumes hr hmem) (Nat.not_lt_zero _)
  · intro c text hrests ih hkept
    rw [search, Bool.or_eq_false_iff]
    refine ⟨?_, ih fun rest hrest => hkept rest (hrest.trans (List.suffix_cons c text))⟩
    have hno := hkept (c :: text) (List.suffix_refl _) hrests
    rw [Bool.eq_false_iff]
    intro hmatch
    obtain ⟨left, hleft⟩ := matchesHere_iff.1 hmatch
    obtain ⟨front, more, rfl, ⟨heq, rfl⟩ | ⟨y, heq⟩⟩ := sub_front hq first (body ++ [last]) text
    · rw [heq] at hmatch
      rw [List.append_nil, hmatch] at hno
      cases hno
    · rw [heq, ← List.cons_append] at hleft
      obtain ⟨left', -, hleft'⟩ := of_mem_rests_barrier hfirst hleft
      have hyes : r.matchesHere (c :: front ++ more) = true :=
        matchesHere_iff.2 ⟨_, mem_rests_append hleft'⟩
      rw [List.cons_append, hno] at hyes
      cases hyes
  · intro matched rest _ _ ih hkept
    rw [Bool.eq_false_iff]
    intro hmatch
    have hsplit : first :: (body ++ [last]) ++ q.sub (first :: (body ++ [last])) rest =
        (first :: body) ++ last :: q.sub (first :: (body ++ [last])) rest := by simp
    rw [hsplit] at hmatch
    rcases search_barrier hr hlast hmatch with h | h
    · rw [hbody] at h
      cases h
    · rw [ih fun rest' hrest' => hkept rest' (hrest'.trans (List.suffix_append matched rest))] at h
      cases h

end Regex
end AgenticCommerce
