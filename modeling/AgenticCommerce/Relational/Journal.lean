/-
# Durable steps

A program that can be killed leaves what it had made durable by then.  A `Journal` is a state
together with every state that a durable step came to, so that a run killed at any moment leaves
its first state or one in the log (`Journal.leaves`).  What holds at the start and after every
durable step holds of all of them (`Journal.Holds`).

`Ensures P m Q` says of a program that it returns from every state in `P`, with an answer and
a state in `Q`; `Delivers P m Q` says what it returns, if it does.  Their rules follow the ways of
putting programs together, and the one for a loop takes an invariant over the part of the list that
is done.  `Along R` relates where a program starts to every durable state it comes to.
-/

import AgenticCommerce.Relational.Frames
import Mathlib.Data.List.Basic

namespace Relational

/-- A state, and the durable states on the way to it. -/
structure Journal (σ : Type) where
  state : σ
  log : List σ := []

variable {σ ε α β : Type}

namespace Journal

/-- Whether all durable states are such that `I`. -/
structure Holds (I : σ → Prop) (j : Journal σ) : Prop where
  state : I j.state
  log : ∀ s ∈ j.log, I s

/-- The journal after a durable step. -/
def record (j : Journal σ) (s : σ) : Journal σ := { state := s, log := j.log ++ [s] }

theorem Holds.record {I : σ → Prop} {j : Journal σ} (h : Holds I j) {s : σ} (hs : I s) :
    Holds I (j.record s) := by
  refine ⟨hs, fun t ht => ?_⟩
  rcases List.mem_append.1 ht with ht | ht
  · exact h.log t ht
  · obtain rfl := List.mem_singleton.1 ht
    exact hs

theorem Holds.start {I : σ → Prop} {s : σ} (h : I s) : Holds I { state := s } := ⟨h, nofun⟩

end Journal

/-- A program over a durable state. -/
abbrev Program (σ ε α : Type) := Work (Journal σ) ε α

namespace Program

open Work

/-- A durable step. -/
def durable (f : σ → σ) : Program σ ε Unit := write fun j => j.record (f j.state)

/-- A durable step that may raise. -/
def tryDurable (f : σ → Except ε σ) : Program σ ε Unit := fun j =>
  match f j.state with
  | .ok s => .ok () (j.record s)
  | .error e => .error e j

/-- A query of the durable state. -/
def read (q : σ → α) : Program σ ε α := ask fun j => .ok (q j.state)

/-- What does not touch the state, and may raise. -/
def answer (a : Except ε α) : Program σ ε α := ask fun _ => a

theorem durable_eq_ok {f : σ → σ} {j j' : Journal σ} {a : Unit} :
    (durable f : Program σ ε Unit) j = .ok a j' ↔ j.record (f j.state) = j' := write_eq_ok

theorem moves_tryDurable {R : Journal σ → Journal σ → Prop} [IsPreorder (Journal σ) R]
    {f : σ → Except ε σ} (hf : ∀ j s, f j.state = .ok s → R j (j.record s)) :
    Moves R (tryDurable f) := by
  have hrun (j : Journal σ) : tryDurable f j = match f j.state with
      | .ok s => .ok () (j.record s)
      | .error e => .error e j := rfl
  constructor
  · intro j a j' h
    rw [hrun] at h
    split at h
    · rename_i s hs
      obtain ⟨-, rfl⟩ := EStateM.Result.ok.inj h
      exact hf j s hs
    · exact nomatch h
  · intro j e j' h
    rw [hrun] at h
    split at h
    · exact nomatch h
    · obtain ⟨-, rfl⟩ := EStateM.Result.error.inj h
      exact refl_of R j

/-- The states that a run from `s` can leave when it is killed, or raises, or returns. -/
def leaves (m : Program σ ε α) (s : σ) : List σ := s :: (final m { state := s }).log

/-- The state that a run from `s` leaves when it is not killed. -/
def ending (m : Program σ ε α) (s : σ) : σ := (final m { state := s }).state

end Program

/-! ### Programs that return -/

/-- From a state in `P` the program returns, with an answer and a state in `Q`. -/
def Ensures (P : σ → Prop) (m : Work σ ε α) (Q : α → σ → Prop) : Prop :=
  ∀ s, P s → ∃ a t, m s = .ok a t ∧ Q a t

namespace Ensures

open Work

variable {P P' : σ → Prop} {Q Q' : α → σ → Prop} {m : Work σ ε α}

/-- A weaker start is enough, and less is promised. -/
theorem weaken (h : Ensures P m Q) (hP : ∀ s, P' s → P s) (hQ : ∀ a s, Q a s → Q' a s) :
    Ensures P' m Q' := by
  intro s hs
  obtain ⟨a, t, hm, hq⟩ := h s (hP s hs)
  exact ⟨a, t, hm, hQ a t hq⟩

theorem pure {a : α} (h : ∀ s, P s → Q a s) : Ensures P (pure a : Work σ ε α) Q :=
  fun s hs => ⟨a, s, rfl, h s hs⟩

/-- One line after another. -/
theorem bind {f : α → Work σ ε β} {R : β → σ → Prop} (h : Ensures P m Q)
    (hf : ∀ a, Ensures (Q a) (f a) R) : Ensures P (m >>= f) R := by
  intro s hs
  obtain ⟨a, t, hm, hq⟩ := h s hs
  obtain ⟨b, u, hfa, hr⟩ := hf a t hq
  exact ⟨b, u, (bind_of_ok hm).trans hfa, hr⟩

theorem ite {c : Prop} [Decidable c] {m' : Work σ ε α} (h : c → Ensures P m Q)
    (h' : ¬c → Ensures P m' Q) : Ensures P (if c then m else m') Q := by
  split
  · exact h ‹c›
  · exact h' ‹¬c›

/-- **A loop** keeps an invariant over what is done. -/
theorem foldlM {f : β → α → Work σ ε β} {l : List α} {I : List α → β → σ → Prop}
    (h : ∀ done a rest, l = done ++ a :: rest → ∀ b, Ensures (I done b) (f b a) (I (done ++ [a])))
    (b : β) : Ensures (I [] b) (l.foldlM f b) (I l) := by
  have hfrom : ∀ (rest done : List α) (b : β), l = done ++ rest →
      Ensures (I done b) (rest.foldlM f b) (I l) := by
    intro rest
    induction rest with
    | nil =>
        intro done b hl
        rw [List.append_nil] at hl
        rw [← hl]
        exact pure fun s hs => hs
    | cons a rest ih =>
        intro done b hl
        rw [List.foldlM_cons]
        refine (h done a rest hl b).bind fun b' => ih (done ++ [a]) b' ?_
        rw [hl, List.append_assoc]
        rfl
  exact hfrom l [] b rfl

section

variable {P : Journal σ → Prop} {Q : Unit → Journal σ → Prop}

theorem durable {f : σ → σ} (h : ∀ j, P j → Q () (j.record (f j.state))) :
    Ensures P (Program.durable f : Program σ ε Unit) Q :=
  fun j hj => ⟨(), j.record (f j.state), rfl, h j hj⟩

theorem tryDurable {f : σ → Except ε σ}
    (h : ∀ j, P j → ∃ s, f j.state = .ok s ∧ Q () (j.record s)) :
    Ensures P (Program.tryDurable f) Q := by
  intro j hj
  obtain ⟨s, hs, hq⟩ := h j hj
  refine ⟨(), j.record s, ?_, hq⟩
  rw [Program.tryDurable, hs]

theorem read {q : σ → α} {Q : α → Journal σ → Prop} (h : ∀ j, P j → Q (q j.state) j) :
    Ensures P (Program.read q : Program σ ε α) Q :=
  fun j hj => ⟨q j.state, j, rfl, h j hj⟩

theorem answer {a : α} {answered : Except ε α} {Q : α → Journal σ → Prop}
    (h : answered = .ok a) (hq : ∀ j, P j → Q a j) : Ensures P (Program.answer answered) Q := by
  intro j hj
  refine ⟨a, j, ?_, hq j hj⟩
  rw [Program.answer, ask_eq_ok]
  exact ⟨h, rfl⟩

/-- A program that returns leaves states in `I`, and ends in one. -/
theorem holds {m : Program σ ε α} {I : σ → Prop} {s : σ} {R : α → Journal σ → Prop}
    (h : Ensures (fun j => j = { state := s }) m R) (hR : ∀ a j, R a j → j.Holds I)
    (hs : I s) : (∀ t ∈ m.leaves s, I t) ∧ I (m.ending s) := by
  obtain ⟨a, j, hm, hr⟩ := h _ rfl
  have hfinal : final m { state := s } = j := by rw [final, hm]
  have hall := hR a j hr
  refine ⟨fun t ht => ?_, ?_⟩
  · rcases List.mem_cons.1 ht with rfl | ht
    · exact hs
    · rw [hfinal] at ht
      exact hall.log t ht
  · rw [Program.ending, hfinal]
    exact hall.state

end

end Ensures

/-- A program that returns from a state in `P` does so with an answer and a state in `Q`. -/
def Delivers (P : σ → Prop) (m : Work σ ε α) (Q : α → σ → Prop) : Prop :=
  ∀ s a t, P s → m s = .ok a t → Q a t

namespace Delivers

open Work

variable {P P' : σ → Prop} {Q Q' : α → σ → Prop} {m : Work σ ε α}

theorem weaken (h : Delivers P m Q) (hP : ∀ s, P' s → P s) (hQ : ∀ a s, Q a s → Q' a s) :
    Delivers P' m Q' := fun s a t hs hm => hQ a t (h s a t (hP s hs) hm)

theorem pure {a : α} (h : ∀ s, P s → Q a s) : Delivers P (pure a : Work σ ε α) Q := by
  intro s b t hs hm
  obtain ⟨rfl, rfl⟩ := pure_eq_ok.1 hm
  exact h s hs

theorem throw {e : ε} : Delivers P (throw e : Work σ ε α) Q :=
  fun _ _ _ _ hm => (throw_eq_ok.1 hm).elim

/-- One line after another. -/
theorem bind {f : α → Work σ ε β} {R : β → σ → Prop} (h : Delivers P m Q)
    (hf : ∀ a, Delivers (Q a) (f a) R) : Delivers P (m >>= f) R := by
  intro s b u hs hm
  obtain ⟨a, t, hma, hfa⟩ := bind_eq_ok.1 hm
  exact hf a t b u (h s a t hs hma) hfa

theorem ite {c : Prop} [Decidable c] {m' : Work σ ε α} (h : c → Delivers P m Q)
    (h' : ¬c → Delivers P m' Q) : Delivers P (if c then m else m') Q := by
  split
  · exact h ‹c›
  · exact h' ‹¬c›

/-- **A loop** keeps an invariant over what is done. -/
theorem foldlM {f : β → α → Work σ ε β} {l : List α} {I : List α → β → σ → Prop}
    (h : ∀ done a b, Delivers (I done b) (f b a) (I (done ++ [a])))
    (b : β) : Delivers (I [] b) (l.foldlM f b) (I l) := by
  have hfrom : ∀ (rest done : List α) (b : β),
      Delivers (I done b) (rest.foldlM f b) (I (done ++ rest)) := by
    intro rest
    induction rest with
    | nil =>
        intro done b
        rw [List.append_nil]
        exact pure fun s hs => hs
    | cons a rest ih =>
        intro done b
        rw [List.foldlM_cons, List.append_cons]
        exact (h done a b).bind fun b' => ih (done ++ [a]) b'
  exact hfrom l [] b

section

variable {P : Journal σ → Prop}

theorem durable {f : σ → σ} {Q : Unit → Journal σ → Prop}
    (h : ∀ j, P j → Q () (j.record (f j.state))) :
    Delivers P (Program.durable f : Program σ ε Unit) Q := by
  intro j a j' hj hm
  obtain rfl := write_eq_ok.1 hm
  exact h j hj

theorem read {q : σ → α} {Q : α → Journal σ → Prop} (h : ∀ j, P j → Q (q j.state) j) :
    Delivers P (Program.read q : Program σ ε α) Q := by
  intro j a j' hj hm
  obtain ⟨ha, rfl⟩ := ask_eq_ok.1 hm
  obtain rfl := Except.ok.inj ha
  exact h j hj

theorem answer {answered : Except ε α} {Q : α → Journal σ → Prop}
    (h : ∀ a, answered = .ok a → ∀ j, P j → Q a j) :
    Delivers P (Program.answer answered) Q := by
  intro j a j' hj hm
  obtain ⟨ha, rfl⟩ := ask_eq_ok.1 hm
  exact h a ha j hj

end

end Delivers

/-! ### Where a program comes to -/

namespace Journal

/-- Every durable state on the way is related to where it began. -/
structure Along (R : σ → σ → Prop) (j j' : Journal σ) : Prop where
  state : R j.state j'.state
  log : ∃ new, j'.log = j.log ++ new ∧ ∀ s ∈ new, R j.state s

variable {R : σ → σ → Prop} [IsPreorder σ R]

instance : IsPreorder (Journal σ) (Along R) where
  refl j := ⟨refl_of R _, [], (List.append_nil _).symm, nofun⟩
  trans j j' j'' h h' := by
    obtain ⟨new, hnew, hR⟩ := h.log
    obtain ⟨new', hnew', hR'⟩ := h'.log
    refine ⟨trans_of R h.state h'.state, new ++ new', ?_, fun s hs => ?_⟩
    · rw [hnew', hnew, List.append_assoc]
    · rcases List.mem_append.1 hs with hs | hs
      · exact hR s hs
      · exact trans_of R h.state (hR' s hs)

omit [IsPreorder σ R] in
theorem Along.mono {S : σ → σ → Prop} {j j' : Journal σ} (h : Along R j j')
    (hRS : ∀ s t, R s t → S s t) : Along S j j' := by
  obtain ⟨new, hnew, hR⟩ := h.log
  exact ⟨hRS _ _ h.state, new, hnew, fun s hs => hRS _ _ (hR s hs)⟩

omit [IsPreorder σ R] in
theorem Along.record {j : Journal σ} {s : σ} (h : R j.state s) : Along R j (j.record s) := by
  refine ⟨h, [s], rfl, fun t ht => ?_⟩
  obtain rfl := List.mem_singleton.1 ht
  exact h

end Journal

namespace Program

open Work Journal

variable {R : σ → σ → Prop} {m : Program σ ε α} {s t : σ}

theorem moves_durable {f : σ → σ} (hf : ∀ s, R s (f s)) :
    Moves (Along R) (durable f : Program σ ε Unit) := Moves.write fun j => .record (hf j.state)

/-- Whatever a run leaves is where it may come to. -/
theorem of_mem_leaves [IsPreorder σ R] (h : Moves (Along R) m) (ht : t ∈ leaves m s) : R s t := by
  rcases List.mem_cons.1 ht with rfl | ht
  · exact refl_of R _
  · have halong : Along R { state := s } (final m { state := s }) := h.final
    obtain ⟨new, hnew, hR⟩ := halong.log
    rw [hnew] at ht
    exact hR t ht

end Program

end Relational
