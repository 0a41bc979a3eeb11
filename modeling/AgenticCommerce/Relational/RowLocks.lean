/-
# Row locks

Transactions over one group of rows that is locked as a whole, interleaved statement by
statement.  A statement sees the committed rows under the writes of its own transaction; a
locking read waits for the lock, or skips the rows when it is taken; an update takes the
lock too; a commit publishes the writes and gives the lock up, and a transaction can be
rolled back at any point (`RowLocks.Step`).  What a transaction remembers of the rows it
read is its own business: the next statement is computed from its memory alone
(`Statement`), so a memory that is older than the lock stays as old as it is.

Only the holder of the lock has writes (`Exclusive`), so nobody else changes the rows while
a transaction holds it (`Step.frame`).
-/

import Mathlib.Data.Set.Function
import Mathlib.Logic.Function.Basic
import Mathlib.Logic.Relation

namespace Relational
namespace RowLocks

/-- What a transaction with memory `τ` does next to rows `ρ`. -/
inductive Statement (ρ τ : Type) where
  /-- `SELECT`. -/
  | select (k : ρ → τ)
  /-- `SELECT … FOR UPDATE`. -/
  | selectForUpdate (k : ρ → τ)
  /-- `SELECT … FOR UPDATE SKIP LOCKED`, of rows that are wanted. -/
  | selectSkipLocked (wanted : ρ → Bool) (k : Option ρ → τ)
  /-- `UPDATE … RETURNING`; the memory is told the rows it was applied to. -/
  | update (f : ρ → ρ) (k : ρ → τ)
  /-- `COMMIT`. -/
  | commit
  /-- `ROLLBACK`. -/
  | rollback

/-- A transaction: its memory and its writes, which nobody else sees yet. -/
structure Transaction (ρ τ : Type) where
  memory : τ
  writes : ρ → ρ := id

/-- The committed rows, who has locked them, and the transactions. -/
structure State (ι ρ τ : Type) where
  rows : ρ
  holder : Option ι := none
  transactions : ι → Transaction ρ τ

section

variable {ι ρ τ : Type} [DecidableEq ι] {next : τ → Statement ρ τ} {ended : τ}
  {s s' : State ι ρ τ} {i j : ι}

/-- The rows as the transaction `i` sees them. -/
def State.view (s : State ι ρ τ) (i : ι) : ρ := (s.transactions i).writes s.rows

/-- The state with another memory, and other writes, of `i`. -/
def State.put (s : State ι ρ τ) (i : ι) (t : Transaction ρ τ) : State ι ρ τ :=
  { s with transactions := Function.update s.transactions i t }

/-- The lock is free, or `i` has it. -/
def State.Free (s : State ι ρ τ) (i : ι) : Prop := s.holder = none ∨ s.holder = some i

/-- The lock, once `i` has given it up. -/
def State.dropped (s : State ι ρ τ) (i : ι) : Option ι :=
  if s.holder = some i then none else s.holder

/-- **One statement of the transaction `i`**, under the programs `next`. -/
inductive Step (next : τ → Statement ρ τ) (ended : τ) (i : ι) (s : State ι ρ τ) :
    State ι ρ τ → Prop
  | select {k} (h : next (s.transactions i).memory = .select k) :
      Step next ended i s (s.put i { s.transactions i with memory := k (s.view i) })
  | lock {k} (h : next (s.transactions i).memory = .selectForUpdate k) (free : s.Free i) :
      Step next ended i s
        { s.put i { s.transactions i with memory := k (s.view i) } with holder := some i }
  | lockFree {wanted k} (h : next (s.transactions i).memory = .selectSkipLocked wanted k)
      (free : s.Free i) (hwanted : wanted (s.view i) = true) :
      Step next ended i s
        { s.put i { s.transactions i with memory := k (some (s.view i)) } with holder := some i }
  | skip {wanted k} (h : next (s.transactions i).memory = .selectSkipLocked wanted k)
      (hskip : ¬s.Free i ∨ wanted (s.view i) = false) :
      Step next ended i s (s.put i { s.transactions i with memory := k none })
  | update {f k} (h : next (s.transactions i).memory = .update f k) (free : s.Free i) :
      Step next ended i s
        { s.put i { memory := k (s.view i), writes := f ∘ (s.transactions i).writes } with
          holder := some i }
  | commit (h : next (s.transactions i).memory = .commit) :
      Step next ended i s
        { s.put i { memory := ended } with rows := s.view i, holder := s.dropped i }
  | rollback : Step next ended i s { s.put i { memory := ended } with holder := s.dropped i }

/-- Only the holder of the lock has writes. -/
def Exclusive (s : State ι ρ τ) : Prop := ∀ i, (s.transactions i).writes = id ∨ s.holder = some i

omit [DecidableEq ι] in
theorem Exclusive.view_eq (h : Exclusive s) (hi : s.holder ≠ some i) : s.view i = s.rows := by
  rw [State.view, (h i).resolve_right hi]
  rfl

theorem put_self {t : Transaction ρ τ} : (s.put i t).transactions i = t :=
  Function.update_self ..

theorem put_of_ne {t : Transaction ρ τ} (h : j ≠ i) :
    (s.put i t).transactions j = s.transactions j :=
  Function.update_of_ne h ..

theorem dropped_of_ne (h : i ≠ j) (hi : s.holder = some i) : s.dropped j = some i := by
  rw [State.dropped, if_neg, hi]
  rw [hi, Option.some.injEq]
  exact h

/-- **While a transaction holds the lock, nobody else changes the rows**, takes the lock
away, or touches the transaction. -/
theorem Step.frame (hstep : Step next ended j s s') (hex : Exclusive s) (hij : i ≠ j) :
    s'.transactions i = s.transactions i ∧
      (s.holder = some i → s'.holder = some i ∧ s'.rows = s.rows) := by
  have hother : s.holder = some i → ¬s.Free j := by
    rintro hi (hnone | hj)
    · rw [hi] at hnone
      exact nomatch hnone
    · rw [hi, Option.some.injEq] at hj
      exact hij hj
  have hview : s.holder = some i → s.view j = s.rows := fun hi =>
    hex.view_eq fun hj => hother hi (.inr hj)
  cases hstep with
  | select h => exact ⟨put_of_ne hij, fun hi => ⟨hi, rfl⟩⟩
  | lock h free => exact ⟨put_of_ne hij, fun hi => absurd free (hother hi)⟩
  | lockFree h free hwanted => exact ⟨put_of_ne hij, fun hi => absurd free (hother hi)⟩
  | skip h hskip => exact ⟨put_of_ne hij, fun hi => ⟨hi, rfl⟩⟩
  | update h free => exact ⟨put_of_ne hij, fun hi => absurd free (hother hi)⟩
  | commit h => exact ⟨put_of_ne hij, fun hi => ⟨dropped_of_ne hij hi, hview hi⟩⟩
  | rollback => exact ⟨put_of_ne hij, fun hi => ⟨dropped_of_ne hij hi, rfl⟩⟩

/-- **Only the holder has writes**, throughout. -/
theorem Step.exclusive (hstep : Step next ended j s s') (hex : Exclusive s) : Exclusive s' := by
  intro i
  by_cases hij : i = j
  · subst hij
    cases hstep with
    | select h | skip h hskip =>
        rw [put_self]
        exact hex i
    | lock h free | lockFree h free hwanted | update h free => exact .inr rfl
    | commit h | rollback =>
        left
        exact congrArg Transaction.writes put_self
  · obtain ⟨hsame, hkept⟩ := hstep.frame hex hij
    rw [hsame]
    exact (hex i).imp_right fun hi => (hkept hi).1

/-! ### Local invariants -/

/-- **A property of one transaction that its own statements keep**, told of its memory, the
committed rows, its writes and whether it holds the lock.  Locking reads are asked to be
`Sound`; without the lock and without writes the property may not depend on the rows. -/
structure LocalInvariant (next : τ → Statement ρ τ) (ended : τ) (Sound : τ → ρ → Prop)
    (I : τ → ρ → (ρ → ρ) → Bool → Prop) : Prop where
  ended : ∀ r, I ended r id false
  elsewhere : ∀ {m r} r', I m r id false → I m r' id false
  select : ∀ {m r f b k}, next m = .select k → I m r f b → I (k (f r)) r f b
  lock : ∀ {m r f b k}, next m = .selectForUpdate k → Sound m (f r) → I m r f b →
    I (k (f r)) r f true
  lockFree : ∀ {m r f b wanted k}, next m = .selectSkipLocked wanted k → wanted (f r) = true →
    I m r f b → I (k (some (f r))) r f true
  skip : ∀ {m r f b wanted k}, next m = .selectSkipLocked wanted k → I m r f b → I (k none) r f b
  update : ∀ {m r f b g k}, next m = .update g k → I m r f b → I (k (f r)) r (g ∘ f) true

/-- The property holds of every transaction. -/
def Everywhere (I : τ → ρ → (ρ → ρ) → Bool → Prop) (s : State ι ρ τ) : Prop :=
  ∀ i, I (s.transactions i).memory s.rows (s.transactions i).writes (decide (s.holder = some i))

/-- **A local invariant of the programs holds everywhere, throughout.** -/
theorem LocalInvariant.step {Sound : τ → ρ → Prop} {I : τ → ρ → (ρ → ρ) → Bool → Prop}
    (hI : LocalInvariant next ended Sound I) (hex : Exclusive s) (hs : Everywhere I s)
    (hsound : s'.holder = some j → Sound (s.transactions j).memory (s.view j))
    (hstep : Step next ended j s s') : Everywhere I s' := by
  intro i
  by_cases hij : i = j
  · subst hij
    have hi := hs i
    have hdropped : ∀ r, I ended r id (decide (s.dropped i = some i)) := by
      intro r
      have hnot : s.dropped i ≠ some i := by
        unfold State.dropped
        split_ifs with h
        · nofun
        · exact h
      rw [decide_eq_false hnot]
      exact hI.ended r
    cases hstep with
    | select h =>
        rw [put_self]
        exact hI.select h hi
    | lock h free =>
        simp only [put_self, decide_true]
        exact hI.lock h (hsound rfl) hi
    | lockFree h free hwanted =>
        simp only [put_self, decide_true]
        exact hI.lockFree h hwanted hi
    | skip h hskip =>
        rw [put_self]
        exact hI.skip h hi
    | update h free =>
        simp only [put_self, decide_true]
        exact hI.update h hi
    | commit h =>
        simp only [put_self]
        exact hdropped _
    | rollback =>
        simp only [put_self]
        exact hdropped _
  · obtain ⟨hsame, hkept⟩ := hstep.frame hex hij
    have hex' := hstep.exclusive hex
    rw [hsame]
    by_cases hi : s.holder = some i
    · obtain ⟨hholder, hrows⟩ := hkept hi
      have hbefore := hs i
      rw [hi] at hbefore
      rw [hholder, hrows]
      exact hbefore
    · have hwrites := (hex i).resolve_right hi
      have hbefore := hs i
      rw [hwrites, decide_eq_false hi] at hbefore
      have hnot : s'.holder ≠ some i := by
        cases hstep with
        | select h | skip h hskip => exact hi
        | lock h free | lockFree h free hwanted | update h free =>
            intro h
            exact hij (Option.some.inj h).symm
        | commit h | rollback =>
            change s.dropped j ≠ some i
            unfold State.dropped
            split_ifs
            · nofun
            · exact hi
      rw [hwrites, decide_eq_false hnot]
      exact hI.elsewhere _ hbefore

/-! ### Runs -/

/-- Any number of statements, in which a transaction has the lock only after a statement
that was `Sound` where it stood. -/
def Run (next : τ → Statement ρ τ) (ended : τ) (Sound : τ → ρ → Prop) :
    State ι ρ τ → State ι ρ τ → Prop :=
  Relation.ReflTransGen fun s s' => ∃ i, Step next ended i s s' ∧
    (s'.holder = some i → Sound (s.transactions i).memory (s.view i))

/-- The committed rows change by a commit only. -/
theorem Step.rows (hstep : Step next ended i s s') : s'.rows = s.rows ∨ s'.rows = s.view i := by
  cases hstep with
  | commit h => exact .inr rfl
  | _ => exact .inl rfl

/-- Nobody holds the lock and nobody has written anything. -/
structure Idle (I : τ → ρ → (ρ → ρ) → Bool → Prop) (s : State ι ρ τ) : Prop where
  free : s.holder = none
  unwritten : ∀ i, (s.transactions i).writes = id
  initially : ∀ i, I (s.transactions i).memory s.rows id false

/-- **What a local invariant promises of a run**: it holds at the end, of every transaction. -/
theorem LocalInvariant.run {Sound : τ → ρ → Prop} {I : τ → ρ → (ρ → ρ) → Bool → Prop}
    (hI : LocalInvariant next ended Sound I) (hs : Idle I s) (hrun : Run next ended Sound s s') :
    Exclusive s' ∧ Everywhere I s' := by
  induction hrun with
  | refl =>
      refine ⟨fun i => .inl (hs.unwritten i), fun i => ?_⟩
      rw [hs.unwritten i, hs.free]
      exact hs.initially i
  | tail _ hstep ih =>
      obtain ⟨j, hstep, hsound⟩ := hstep
      exact ⟨hstep.exclusive ih.1, hI.step ih.1 ih.2 hsound hstep⟩

/-- **What the writes of every transaction keep, a run keeps.** -/
theorem LocalInvariant.keeps {Sound : τ → ρ → Prop} {I : τ → ρ → (ρ → ρ) → Bool → Prop}
    {K : ρ → Prop} (hI : LocalInvariant next ended Sound I)
    (hK : ∀ {m r f b}, I m r f b → K r → K (f r)) (hs : Idle I s) {s₁ : State ι ρ τ}
    (hbefore : Run next ended Sound s s₁) (hrun : Run next ended Sound s₁ s') (h : K s₁.rows) :
    K s'.rows := by
  induction hrun with
  | refl => exact h
  | tail hafter hstep ih =>
      obtain ⟨j, hstep, -⟩ := hstep
      obtain ⟨-, hall⟩ := hI.run hs (hbefore.trans hafter)
      rcases hstep.rows with hsame | hsame
      · rwa [hsame]
      · rw [hsame]
        exact hK (hall j) ih

/-! ### One transaction alone -/

/-- The transaction `i` has come to `m` with the writes `f`, and may take the lock. -/
structure State.At (s : State ι ρ τ) (i : ι) (m : τ) (f : ρ → ρ) (r : ρ) : Prop where
  transaction : s.transactions i = { memory := m, writes := f }
  rows : s.rows = r
  free : s.Free i

section

variable {m : τ} {f g : ρ → ρ} {r : ρ} {k : ρ → τ} (next ended)

omit [DecidableEq ι] in
theorem State.At.view (h : s.At i m f r) : s.view i = f r := by
  rw [State.view, h.transaction, h.rows]

theorem State.At.select (h : s.At i m f r) (hnext : next m = .select k) :
    ∃ s', Step next ended i s s' ∧ s'.At i (k (f r)) f r := by
  refine ⟨_, .select (k := k) (by rw [h.transaction]; exact hnext), ?_, h.rows, h.free⟩
  rw [put_self, h.view, h.transaction]

theorem State.At.lock (h : s.At i m f r) (hnext : next m = .selectForUpdate k) :
    ∃ s', Step next ended i s s' ∧ s'.At i (k (f r)) f r := by
  refine ⟨_, .lock (k := k) (by rw [h.transaction]; exact hnext) h.free, ?_, h.rows, .inr rfl⟩
  simp only [put_self, h.view, h.transaction]

theorem State.At.update (h : s.At i m f r) (hnext : next m = .update g k) :
    ∃ s', Step next ended i s s' ∧ s'.At i (k (f r)) (g ∘ f) r := by
  refine ⟨_, .update (f := g) (k := k) (by rw [h.transaction]; exact hnext) h.free, ?_, h.rows,
    .inr rfl⟩
  simp only [put_self, h.view, h.transaction]

theorem State.At.commit (h : s.At i m f r) (hnext : next m = .commit) :
    ∃ s', Step next ended i s s' ∧ s'.rows = f r :=
  ⟨_, .commit (by rw [h.transaction]; exact hnext), h.view⟩

end

end
end RowLocks
end Relational
