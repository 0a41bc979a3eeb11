/-
# Loops that write

A loop that raises and writes items can be run over a file, where each item that is written is a
durable step, or over a list in memory.  It is written once, for the `Handle` that it is given; the
run over a file does what the run over a list says (`Mirrors`), and all that it leaves on the way
are the items written so far.
-/

import AgenticCommerce.Relational.Journal

namespace Relational

open Work Program Journal

variable {σ ε α β γ τ : Type}

/-- What a loop that writes is run with: how it raises, and where it writes its items. -/
structure Handle (ε β : Type) (m : Type → Type) where
  answer : {α : Type} → Except ε α → m α
  write : β → m Unit

/-- A run over a list in memory. -/
abbrev Buffer (ε β : Type) := StateT (List β) (Except ε)

/-- A list in memory. -/
def Handle.buffer : Handle ε β (Buffer ε β) where
  answer a := fun items => a.map fun x => (x, items)
  write b := fun items => .ok ((), items ++ [b])

/-- A file: an item that is written is a durable step. -/
def Handle.file (append : β → σ → σ) : Handle ε β (Program σ ε) where
  answer := Program.answer
  write b := durable (append b)

/-- The state with items written to it. -/
def appendAll (append : β → σ → σ) (items : List β) (s : σ) : σ :=
  items.foldl (fun s b => append b s) s

/-- Some items were written. -/
def Appends (append : β → σ → σ) (s t : σ) : Prop := ∃ items, t = appendAll append items s

variable {append : β → σ → σ}

theorem appendAll_append (items new : List β) (s : σ) :
    appendAll append (items ++ new) s = appendAll append new (appendAll append items s) :=
  List.foldl_append

instance : IsPreorder σ (Appends append) where
  refl _ := ⟨[], rfl⟩
  trans := by
    rintro s _ _ ⟨items, rfl⟩ ⟨new, rfl⟩
    exact ⟨items ++ new, (appendAll_append items new s).symm⟩

/-- What is written is related to where it began, if every item is. -/
theorem Appends.of_step {R : σ → σ → Prop} [IsPreorder σ R] (hR : ∀ b s, R s (append b s)) {s t : σ}
    (h : Appends append s t) : R s t := by
  obtain ⟨items, rfl⟩ := h
  induction items generalizing s with
  | nil => exact refl_of R s
  | cons b items ih => exact trans_of R (hR b s) (ih (s := append b s))

/-- **The run over a file does what the run over a list says.** -/
structure Mirrors (append : β → σ → σ) (m : Program σ ε α) (w : Buffer ε β α) : Prop where
  returns : ∀ j a j', m j = .ok a j' → ∀ items, ∃ new, w items = .ok (a, items ++ new) ∧
    j'.state = appendAll append new j.state
  moves : Moves (Along (Appends append)) m

namespace Mirrors

theorem pure (a : α) : Mirrors append (pure a : Program σ ε α) (pure a) where
  returns := by
    intro j b j' h items
    obtain ⟨rfl, rfl⟩ := pure_eq_ok.1 h
    exact ⟨[], by rw [List.append_nil]; rfl, rfl⟩
  moves := .pure

theorem answer (a : Except ε α) :
    Mirrors append ((Handle.file append).answer a) (Handle.buffer.answer a) where
  returns := by
    intro j b j' h items
    obtain ⟨rfl, rfl⟩ := ask_eq_ok.1 (show ask (fun _ => a) j = _ from h)
    exact ⟨[], by rw [List.append_nil]; rfl, rfl⟩
  moves := .ask

theorem write (b : β) :
    Mirrors append ((Handle.file append).write b : Program σ ε Unit) (Handle.buffer.write b) where
  returns := by
    intro j a j' h items
    obtain rfl := durable_eq_ok.1 h
    exact ⟨[b], rfl, rfl⟩
  moves := moves_durable fun _ => ⟨[b], rfl⟩

/-- One line after another. -/
theorem bind {m : Program σ ε α} {w : Buffer ε β α} {f : α → Program σ ε γ}
    {g : α → Buffer ε β γ} (h : Mirrors append m w) (hf : ∀ a, Mirrors append (f a) (g a)) :
    Mirrors append (m >>= f) (w >>= g) where
  returns := by
    intro j c j'' hrun items
    obtain ⟨a, j', hm, hrest⟩ := bind_eq_ok.1 hrun
    obtain ⟨new, hw, hstate⟩ := h.returns j a j' hm items
    obtain ⟨more, hg, hstate'⟩ := (hf a).returns j' c j'' hrest (items ++ new)
    refine ⟨new ++ more, ?_, ?_⟩
    · show (w items).bind (fun p => g p.1 p.2) = _
      rw [hw, ← List.append_assoc]
      exact hg
    · rw [hstate', hstate, appendAll_append]
  moves := h.moves.bind fun a => (hf a).moves

theorem ite {c : Prop} [Decidable c] {m m' : Program σ ε α} {w w' : Buffer ε β α}
    (h : c → Mirrors append m w) (h' : ¬c → Mirrors append m' w') :
    Mirrors append (if c then m else m') (if c then w else w') := by
  split
  · exact h ‹c›
  · exact h' ‹¬c›

/-- A loop. -/
theorem foldlM {f : τ → α → Program σ ε τ} {g : τ → α → Buffer ε β τ}
    (h : ∀ t a, Mirrors append (f t a) (g t a)) : ∀ (l : List α) (t : τ),
      Mirrors append (l.foldlM f t) (l.foldlM g t)
  | [], t => pure t
  | a :: l, t => by
      rw [List.foldlM_cons, List.foldlM_cons]
      exact (h t a).bind fun t' => foldlM h l t'

/-- What a run from a state that returns has written. -/
theorem written {m : Program σ ε α} {w : Buffer ε β α} (h : Mirrors append m w) {j j' : Journal σ}
    {a : α} (hrun : m j = .ok a j') :
    ∃ items, w [] = .ok (a, items) ∧ j'.state = appendAll append items j.state :=
  h.returns j a j' hrun []

end Mirrors

end Relational
