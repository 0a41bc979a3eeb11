/-
# What a unit of work can do to the state

A preorder on the states says what a computation may change.  `Returns R m` says
that every run of `m` that returns moves the state along `R`, and `Moves R m` that
every run does, the raised ones included.  Both are closed under the ways of putting
computations together, so they are read off a `do` block line by line.  The two
differ at a raise: what a raised run leaves matters to a catcher that goes on with the
same session (`attempt`), and to no one else.
-/

import AgenticCommerce.Relational.UnitOfWork
import Mathlib.Order.Defs.Unbundled

namespace Relational
namespace Work

variable {σ ε α β : Type} {R S : σ → σ → Prop}

/-- Every run of `m` that returns moves the state along `R`. -/
def Returns (R : σ → σ → Prop) (m : Work σ ε α) : Prop := ∀ s a t, m s = .ok a t → R s t

/-- Every run of `m` moves the state along `R`. -/
def Moves (R : σ → σ → Prop) (m : Work σ ε α) : Prop :=
  Returns R m ∧ ∀ s e t, m s = .error e t → R s t

theorem Returns.of {m : Work σ ε α} (h : Moves R m) : Returns R m := h.1

theorem Returns.mono {m : Work σ ε α} (hRS : ∀ s t, R s t → S s t) (h : Returns R m) :
    Returns S m := fun s a t hm => hRS s t (h s a t hm)

theorem Moves.mono {m : Work σ ε α} (hRS : ∀ s t, R s t → S s t) (h : Moves R m) : Moves S m :=
  ⟨h.1.mono hRS, fun s e t hm => hRS s t (h.2 s e t hm)⟩

theorem Returns.throw {e : ε} : Returns R (throw e : Work σ ε α) :=
  fun _ _ _ h => (throw_eq_ok.1 h).elim

/-- What raises after whatever it did never returns. -/
theorem Returns.bind_throw {x : Work σ ε α} {f : α → Work σ ε β}
    (hf : ∀ a s b t, f a s ≠ .ok b t) : Returns R (x >>= f) := by
  intro s b t h
  obtain ⟨a, u, -, h⟩ := bind_eq_ok.1 h
  exact absurd h (hf a u b t)

theorem Moves.write {f : σ → σ} (hf : ∀ s, R s (f s)) : Moves R (write f : Work σ ε Unit) := by
  constructor
  · intro s a t h
    obtain rfl := write_eq_ok.1 h
    exact hf s
  · intro s e t h
    exact (write_eq_error.1 h).elim

theorem Returns.ite {c : Prop} [Decidable c] {m m' : Work σ ε α} (hm : c → Returns R m)
    (hm' : ¬c → Returns R m') : Returns R (if c then m else m') := by
  split
  · exact hm ‹c›
  · exact hm' ‹¬c›

theorem Moves.ite {c : Prop} [Decidable c] {m m' : Work σ ε α} (hm : c → Moves R m)
    (hm' : ¬c → Moves R m') : Moves R (if c then m else m') := by
  split
  · exact hm ‹c›
  · exact hm' ‹¬c›

/-- A catcher that goes on with the same session keeps what a raised run did. -/
theorem Moves.attempt {m : Work σ ε α} (h : Moves R m) : Moves R (attempt m) := by
  constructor
  · intro s a t hm
    rcases attempt_eq_ok.1 hm with ⟨b, hm, -⟩ | ⟨e, hm, -⟩
    · exact h.1 s b t hm
    · exact h.2 s e t hm
  · intro s e t hm
    exact (attempt_eq_error.1 hm).elim

/-- A savepoint keeps what a run that returned did. -/
theorem Moves.savepoint {restore : σ → σ → σ} {m : Work σ ε α} (h : Returns R m)
    (hrestore : ∀ s t, R s (restore s t)) : Moves R (savepoint restore m) := by
  constructor
  · intro s a t hm
    rcases savepoint_eq_ok.1 hm with ⟨b, hm, -⟩ | ⟨e, u, hm, -, rfl⟩
    · exact h s b t hm
    · exact hrestore s u
  · intro s e t hm
    exact (savepoint_eq_error.1 hm).elim

section

variable [IsPreorder σ R]

theorem Moves.pure {a : α} : Moves R (pure a : Work σ ε α) := by
  constructor
  · intro s b t h
    obtain ⟨-, rfl⟩ := pure_eq_ok.1 h
    exact refl_of R s
  · intro s e t h
    exact (pure_eq_error.1 h).elim

theorem Moves.throw {e : ε} : Moves R (throw e : Work σ ε α) := by
  refine ⟨Returns.throw, fun s e' t h => ?_⟩
  obtain ⟨-, rfl⟩ := throw_eq_error.1 h
  exact refl_of R s

theorem Moves.ask {q : σ → Except ε α} : Moves R (ask q) := by
  constructor
  · intro s a t h
    obtain ⟨-, rfl⟩ := ask_eq_ok.1 h
    exact refl_of R s
  · intro s e t h
    obtain ⟨-, rfl⟩ := ask_eq_error.1 h
    exact refl_of R s

theorem Moves.raiseIf {c : Prop} [Decidable c] {e : ε} :
    Moves R (raiseIf c e : Work σ ε Unit) := by
  constructor
  · intro s a t h
    obtain ⟨-, rfl⟩ := raiseIf_eq_ok.1 h
    exact refl_of R s
  · intro s e' t h
    obtain ⟨-, -, rfl⟩ := raiseIf_eq_error.1 h
    exact refl_of R s

theorem Moves.tryWrite {f : σ → Option σ} {e : ε} (hf : ∀ s t, f s = some t → R s t) :
    Moves R (tryWrite f e : Work σ ε Unit) := by
  constructor
  · intro s a t h
    exact hf s t (tryWrite_eq_ok.1 h)
  · intro s e' t h
    obtain ⟨-, -, rfl⟩ := tryWrite_eq_error.1 h
    exact refl_of R s

/-- One line after another; the second may use what the first answered, and where. -/
theorem Returns.bind {x : Work σ ε α} {f : α → Work σ ε β} (hx : Returns R x)
    (hf : ∀ a, Returns R (f a)) : Returns R (x >>= f) := by
  intro s b t h
  obtain ⟨a, u, hxs, hfu⟩ := bind_eq_ok.1 h
  exact trans_of R (hx s a u hxs) (hf a u b t hfu)

theorem Moves.bind_of {x : Work σ ε α} {f : α → Work σ ε β} (hx : Moves R x)
    (hf : ∀ s a t, x s = .ok a t → Moves R (f a)) : Moves R (x >>= f) := by
  constructor
  · intro s b t h
    obtain ⟨a, u, hxs, hfu⟩ := bind_eq_ok.1 h
    exact trans_of R (hx.1 s a u hxs) ((hf s a u hxs).1 u b t hfu)
  · intro s e t h
    rcases bind_eq_error.1 h with hxs | ⟨a, u, hxs, hfu⟩
    · exact hx.2 s e t hxs
    · exact trans_of R (hx.1 s a u hxs) ((hf s a u hxs).2 u e t hfu)

theorem Moves.elim {o : Option α} {f : α → Work σ ε Unit} (hf : ∀ a, Moves R (f a)) :
    Moves R (o.elim (Pure.pure ()) f) := by
  cases o with
  | none => exact .pure
  | some a => exact hf a

theorem Moves.bind {x : Work σ ε α} {f : α → Work σ ε β} (hx : Moves R x)
    (hf : ∀ a, Moves R (f a)) : Moves R (x >>= f) :=
  hx.bind_of fun _ a _ _ => hf a

end

/-- What a run leaves, however it ends. -/
theorem Moves.final {m : Work σ ε α} {s : σ} (h : Moves R m) : R s (final m s) := by
  rcases final_cases m s with ⟨a, ha⟩ | ⟨e, he⟩
  · exact h.1 s a _ ha
  · exact h.2 s e _ he

/-- A loop of lines, each of which moves along `R`. -/
theorem Moves.mapM [IsPreorder σ R] {f : α → Work σ ε β} (hf : ∀ a, Moves R (f a))
    {l : List α} : Moves R (l.mapM f) := by
  induction l with
  | nil =>
      rw [List.mapM_nil]
      exact .pure
  | cons a l ih =>
      rw [List.mapM_cons]
      exact (hf a).bind fun _ => ih.bind fun _ => .pure

/-- A loop that hands a value on from line to line. -/
theorem Moves.foldlM [IsPreorder σ R] {f : β → α → Work σ ε β} (hf : ∀ b a, Moves R (f b a))
    {l : List α} (b : β) : Moves R (l.foldlM f b) := by
  induction l generalizing b with
  | nil => exact .pure
  | cons a l ih =>
      rw [List.foldlM_cons]
      exact (hf b a).bind fun b' => ih b'

/-! ### From one state on

What a line does may depend on what the lines before it found, so the state a block has
reached is carried along as far as that is needed. -/

/-- Every run of `m` from `s` that returns moves the state along `R`. -/
def ReturnsAt (R : σ → σ → Prop) (s : σ) (m : Work σ ε α) : Prop := ∀ a t, m s = .ok a t → R s t

/-- Every run of `m` from `s` moves the state along `R`. -/
def MovesAt (R : σ → σ → Prop) (s : σ) (m : Work σ ε α) : Prop :=
  ReturnsAt R s m ∧ ∀ e t, m s = .error e t → R s t

theorem Returns.at {m : Work σ ε α} (h : Returns R m) (s : σ) : ReturnsAt R s m := h s

theorem Moves.at {m : Work σ ε α} (h : Moves R m) (s : σ) : MovesAt R s m := ⟨h.1 s, h.2 s⟩

theorem MovesAt.returns {s : σ} {m : Work σ ε α} (h : MovesAt R s m) : ReturnsAt R s m := h.1

theorem Returns.of_at {m : Work σ ε α} (h : ∀ s, ReturnsAt R s m) : Returns R m := h

theorem Moves.of_at {m : Work σ ε α} (h : ∀ s, MovesAt R s m) : Moves R m :=
  ⟨fun s => (h s).1, fun s => (h s).2⟩

theorem ReturnsAt.ite {s : σ} {c : Prop} [Decidable c] {m m' : Work σ ε α}
    (hm : c → ReturnsAt R s m) (hm' : ¬c → ReturnsAt R s m') :
    ReturnsAt R s (if c then m else m') := by
  split
  · exact hm ‹c›
  · exact hm' ‹¬c›

theorem MovesAt.ite {s : σ} {c : Prop} [Decidable c] {m m' : Work σ ε α} (hm : c → MovesAt R s m)
    (hm' : ¬c → MovesAt R s m') : MovesAt R s (if c then m else m') := by
  split
  · exact hm ‹c›
  · exact hm' ‹¬c›

section

variable [IsPreorder σ R]

theorem ReturnsAt.bind {s : σ} {x : Work σ ε α} {f : α → Work σ ε β} (hx : ReturnsAt R s x)
    (hf : ∀ a t, x s = .ok a t → ReturnsAt R t (f a)) : ReturnsAt R s (x >>= f) := by
  intro b u h
  obtain ⟨a, t, hxs, hft⟩ := bind_eq_ok.1 h
  exact trans_of R (hx a t hxs) (hf a t hxs b u hft)

theorem MovesAt.bind {s : σ} {x : Work σ ε α} {f : α → Work σ ε β} (hx : MovesAt R s x)
    (hf : ∀ a t, x s = .ok a t → MovesAt R t (f a)) : MovesAt R s (x >>= f) := by
  refine ⟨hx.1.bind fun a t hxs => (hf a t hxs).1, fun e u h => ?_⟩
  rcases bind_eq_error.1 h with hxs | ⟨a, t, hxs, hft⟩
  · exact hx.2 e u hxs
  · exact trans_of R (hx.1 a t hxs) ((hf a t hxs).2 e u hft)

end

/-- **A transaction keeps what its returning runs do.** -/
theorem Returns.transaction {restore : σ → σ → σ} {m : Work σ ε α} (h : Returns R m)
    (hrestore : ∀ s t, R s (restore s t)) (s : σ) : R s (transaction restore m s) :=
  transaction_induction (fun a t hm => h s a t hm) fun _ t _ => hrestore s t

end Work
end Relational
