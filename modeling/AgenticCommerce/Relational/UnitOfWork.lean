/-
# Units of work

A unit of work is a computation over a stored state that may raise.  What a
raise does to the state is decided by whoever catches it, not by whoever raises:
the computation itself keeps every write made before the raise (`Work`), a
catcher that goes on with the same session sees that partial state (`attempt`),
a savepoint goes back to where it was set (`savepoint`), and a request ends with
either everything or nothing (`transaction`).  A state can have a part that no
rollback takes back, a call made to another party for instance; `restore old new`
says what a rollback from `new` to `old` leaves.

The equations `eq_ok` and `eq_error` take a computation apart at its binds, so
that a run of a `do` block is a conjunction of what its lines did.
-/

import Mathlib.Logic.Relation

namespace Relational

/-- A computation that reads and writes a state and may raise. -/
abbrev Work (σ ε α : Type) := EStateM ε σ α

namespace Work

variable {σ ε α β : Type} {s t : σ} {e e' : ε}

/-- A query: it leaves the state alone. -/
def ask (q : σ → Except ε α) : Work σ ε α := fun s =>
  match q s with
  | .ok a => .ok a s
  | .error e => .error e s

/-- A write that no constraint can refuse. -/
def write (f : σ → σ) : Work σ ε Unit := fun s => .ok () (f s)

/-- A write that a constraint may refuse, raising `e`. -/
def tryWrite (f : σ → Option σ) (e : ε) : Work σ ε Unit := fun s =>
  match f s with
  | some t => .ok () t
  | none => .error e s

/-- Raises `e` when `c` holds. -/
def raiseIf (c : Prop) [Decidable c] (e : ε) : Work σ ε Unit := fun s =>
  if c then .error e s else .ok () s

/-- Runs `m` and hands its outcome on; the writes of a raise are kept. -/
def attempt (m : Work σ ε α) : Work σ ε (Except ε α) := fun s =>
  match m s with
  | .ok a t => .ok (.ok a) t
  | .error e t => .ok (.error e) t

/-- Runs `m` and hands its outcome on; a raise goes back to the savepoint. -/
def savepoint (restore : σ → σ → σ) (m : Work σ ε α) : Work σ ε (Except ε α) := fun s =>
  match m s with
  | .ok a t => .ok (.ok a) t
  | .error e t => .ok (.error e) (restore s t)

/-- The state after the unit of work `m`: its writes when it returned, none of
them when it raised. -/
def transaction (restore : σ → σ → σ) (m : Work σ ε α) (s : σ) : σ :=
  match m s with
  | .ok _ t => t
  | .error _ t => restore s t

/-- The state `m` ends in, returned or raised. -/
def final (m : Work σ ε α) (s : σ) : σ :=
  match m s with
  | .ok _ t => t
  | .error _ t => t

/-- `m` returns. -/
def returns (m : Work σ ε α) (s : σ) : Bool :=
  match m s with
  | .ok _ _ => true
  | .error _ _ => false

/-- What `m` answers, if it returns. -/
def answer? (m : Work σ ε α) (s : σ) : Option α :=
  match m s with
  | .ok a _ => some a
  | .error _ _ => none

/-! ### Taking a computation apart -/

theorem exists_of_answer? {m : Work σ ε α} {a : α} (h : answer? m s = some a) :
    ∃ t, m s = .ok a t := by
  unfold answer? at h
  cases hm : m s with
  | ok b t =>
      rw [hm] at h
      obtain rfl := Option.some.inj h
      exact ⟨t, rfl⟩
  | error e t =>
      rw [hm] at h
      exact nomatch h

theorem exists_of_returns {m : Work σ ε α} (h : returns m s = true) : ∃ a t, m s = .ok a t := by
  unfold returns at h
  cases hm : m s with
  | ok a t => exact ⟨a, t, rfl⟩
  | error e t =>
      rw [hm] at h
      exact nomatch h

theorem exists_of_not_returns {m : Work σ ε α} (h : returns m s = false) :
    ∃ e t, m s = .error e t := by
  unfold returns at h
  cases hm : m s with
  | ok a t =>
      rw [hm] at h
      exact nomatch h
  | error e t => exact ⟨e, t, rfl⟩

theorem final_cases (m : Work σ ε α) (s : σ) :
    (∃ a, m s = .ok a (final m s)) ∨ ∃ e, m s = .error e (final m s) := by
  unfold final
  cases m s with
  | ok a t => exact .inl ⟨a, rfl⟩
  | error e t => exact .inr ⟨e, rfl⟩

@[simp] theorem pure_eq_ok {a b : α} : (pure a : Work σ ε α) s = .ok b t ↔ a = b ∧ s = t := by
  change EStateM.Result.ok a s = .ok b t ↔ _
  simp

@[simp] theorem pure_eq_error {a : α} : (pure a : Work σ ε α) s = .error e t ↔ False := by
  change EStateM.Result.ok a s = .error e t ↔ _
  simp

@[simp] theorem throw_eq_ok {b : α} : (throw e : Work σ ε α) s = .ok b t ↔ False := by
  change EStateM.Result.error e s = .ok b t ↔ _
  simp

@[simp] theorem throw_eq_error :
    (throw e : Work σ ε α) s = .error e' t ↔ e = e' ∧ s = t := by
  change EStateM.Result.error e s = .error e' t ↔ _
  simp

@[simp] theorem bind_eq_ok {x : Work σ ε α} {f : α → Work σ ε β} {b : β} :
    (x >>= f) s = .ok b t ↔ ∃ a u, x s = .ok a u ∧ f a u = .ok b t := by
  change EStateM.bind x f s = _ ↔ _
  unfold EStateM.bind
  cases x s <;> simp [and_assoc]

@[simp] theorem bind_eq_error {x : Work σ ε α} {f : α → Work σ ε β} :
    (x >>= f) s = .error e t ↔
      x s = .error e t ∨ ∃ a u, x s = .ok a u ∧ f a u = .error e t := by
  change EStateM.bind x f s = _ ↔ _
  unfold EStateM.bind
  cases x s <;> simp [and_assoc]

/-- The rest of a block, after a line that returned. -/
theorem bind_of_ok {x : Work σ ε α} {f : α → Work σ ε β} {a : α} (h : x s = .ok a t) :
    (x >>= f) s = f a t := by
  change EStateM.bind x f s = _
  rw [EStateM.bind, h]

/-- The rest of a block is skipped after a line that raised. -/
theorem bind_of_error {x : Work σ ε α} {f : α → Work σ ε β} (h : x s = .error e t) :
    (x >>= f) s = .error e t := by
  change EStateM.bind x f s = _
  rw [EStateM.bind, h]

/-- A block ends where the rest ends after a line that returned. -/
theorem final_bind_of_ok {x : Work σ ε α} {f : α → Work σ ε β} {a : α} (h : x s = .ok a t) :
    final (x >>= f) s = final (f a) t := by
  rw [final, bind_of_ok h, final]

/-- A block ends where a line raised. -/
theorem final_bind_of_error {x : Work σ ε α} {f : α → Work σ ε β} (h : x s = .error e t) :
    final (x >>= f) s = t := by
  rw [final, bind_of_error h]

/-- What is made of an answer does not matter to the state. -/
theorem final_bind_pure (x : Work σ ε α) (f : α → β) :
    final (x >>= fun a => pure (f a)) s = final x s := by
  cases h : x s with
  | ok a t =>
      have hfinal : final x s = t := by rw [final, h]
      rw [final_bind_of_ok h, hfinal]
      rfl
  | error e t =>
      have hfinal : final x s = t := by rw [final, h]
      rw [final_bind_of_error h, hfinal]

@[simp] theorem ask_eq_ok {q : σ → Except ε α} {a : α} :
    ask q s = .ok a t ↔ q s = .ok a ∧ s = t := by
  unfold ask
  cases q s <;> simp

@[simp] theorem ask_eq_error {q : σ → Except ε α} :
    ask q s = .error e t ↔ q s = .error e ∧ s = t := by
  unfold ask
  cases q s <;> simp

@[simp] theorem write_eq_ok {f : σ → σ} {a : Unit} :
    (write f : Work σ ε Unit) s = .ok a t ↔ f s = t := by
  simp [write]

@[simp] theorem write_eq_error {f : σ → σ} : (write f : Work σ ε Unit) s = .error e t ↔ False := by
  simp [write]

@[simp] theorem tryWrite_eq_ok {f : σ → Option σ} {a : Unit} :
    tryWrite f e s = .ok a t ↔ f s = some t := by
  unfold tryWrite
  cases f s <;> simp

@[simp] theorem tryWrite_eq_error {f : σ → Option σ} :
    tryWrite f e s = .error e' t ↔ f s = none ∧ e = e' ∧ s = t := by
  unfold tryWrite
  cases f s <;> simp

@[simp] theorem raiseIf_eq_ok {c : Prop} [Decidable c] {a : Unit} :
    (raiseIf c e : Work σ ε Unit) s = .ok a t ↔ ¬c ∧ s = t := by
  unfold raiseIf
  split <;> simp [*]

@[simp] theorem raiseIf_eq_error {c : Prop} [Decidable c] :
    (raiseIf c e : Work σ ε Unit) s = .error e' t ↔ c ∧ e = e' ∧ s = t := by
  unfold raiseIf
  split <;> simp [*]

@[simp] theorem attempt_eq_ok {m : Work σ ε α} {r : Except ε α} :
    attempt m s = .ok r t ↔
      (∃ a, m s = .ok a t ∧ r = .ok a) ∨ ∃ e, m s = .error e t ∧ r = .error e := by
  unfold attempt
  cases m s <;> simp [and_assoc, and_comm, eq_comm]

@[simp] theorem attempt_eq_error {m : Work σ ε α} : attempt m s = .error e t ↔ False := by
  unfold attempt
  cases m s <;> simp

@[simp] theorem savepoint_eq_ok {restore : σ → σ → σ} {m : Work σ ε α} {r : Except ε α} :
    savepoint restore m s = .ok r t ↔
      (∃ a, m s = .ok a t ∧ r = .ok a) ∨
        ∃ e u, m s = .error e u ∧ r = .error e ∧ restore s u = t := by
  unfold savepoint
  cases m s <;> simp [and_assoc, and_comm, eq_comm]

@[simp] theorem savepoint_eq_error {restore : σ → σ → σ} {m : Work σ ε α} :
    savepoint restore m s = .error e t ↔ False := by
  unfold savepoint
  cases m s <;> simp

/-! ### What a transaction can do -/

theorem transaction_of_ok {restore : σ → σ → σ} {m : Work σ ε α} {a : α} (h : m s = .ok a t) :
    transaction restore m s = t := by
  rw [transaction, h]

theorem transaction_of_error {restore : σ → σ → σ} {m : Work σ ε α} (h : m s = .error e t) :
    transaction restore m s = restore s t := by
  rw [transaction, h]

/-- **A transaction commits or leaves what a rollback leaves.**  Whatever holds
after every return and after every rollback holds after the transaction. -/
theorem transaction_induction {restore : σ → σ → σ} {m : Work σ ε α} {motive : σ → Prop}
    (hok : ∀ a t, m s = .ok a t → motive t)
    (herr : ∀ e t, m s = .error e t → motive (restore s t)) :
    motive (transaction restore m s) := by
  cases h : m s with
  | ok a t => rw [transaction_of_ok h]; exact hok a t h
  | error e t => rw [transaction_of_error h]; exact herr e t h

end Work

/-! ### Runs -/

/-- **An invariant of the steps is an invariant of the runs.** -/
theorem invariant_of_steps {σ : Type} {step : σ → σ → Prop} {I : σ → Prop}
    (h : ∀ s t, I s → step s t → I t) {s t : σ} (hs : I s)
    (hst : Relation.ReflTransGen step s t) : I t := by
  induction hst with
  | refl => exact hs
  | tail _ hlast ih => exact h _ _ ih hlast

end Relational
