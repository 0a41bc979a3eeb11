/-
# Sessions

The state a service works on and the statements it issues.  A `World` is the
store together with the calls made to the provider; a rollback takes back the
store and never the calls.  `Env` holds what an operation gets from outside the
store: the readings of the clock, the identifiers `new_id` makes, the digests, what texts are
read as, and the provider.  The digests and the identifiers are parameters, so what is
proved holds for every such function, collisions included.

`request` is the unit of work of an API request (`get_db`, `_unit_of_work`): the
final commit flushes, and every exception rolls back.
-/

import AgenticCommerce.Payments.Provider
import AgenticCommerce.Policy.Engine
import AgenticCommerce.Relational.UnitOfWork

namespace AgenticCommerce

open Relational

/-- The store and the calls that left it. -/
structure World where
  db : Database
  calls : List ProviderCall := []

/-- `session.rollback()`: the calls made in between stay made. -/
def World.restore (old new : World) : World := { new with db := old.db }

/-- An operation of a service on an open session. -/
abbrev Op (α : Type) := Work World Failure α

/-- What Python and PostgreSQL read a text as. -/
structure Reading where
  /-- `text.strip()`. -/
  strip : String → String
  /-- `float(text)`, a finite number. -/
  float : String → Option ℚ
  /-- `int(text)`. -/
  int : String → Option ℤ
  /-- `datetime.fromisoformat(text)`, with `Z` for an offset of zero and UTC for none. -/
  time : String → Option Time
  /-- `json.loads` of every line of a file that is not blank. -/
  lines : List UInt8 → Option (List Json)
  /-- `CAST(text AS INTEGER)`. -/
  sqlInteger : String → Option ℤ

/-- Readers that read nothing. -/
instance : Inhabited Reading :=
  ⟨{ strip := id, float := fun _ => none, int := fun _ => none, time := fun _ => none, lines := fun _ => none,
     sqlInteger := fun _ => none }⟩

/-- What an operation gets from outside the store. -/
structure Env where
  /-- The successive readings of `datetime.now(UTC)`. -/
  clock : ℕ → Time
  /-- `new_id(prefix)`. -/
  newId : String → String
  /-- `compute_price_hash`. -/
  priceHash : PriceSnapshot → String
  /-- The hash of a payment request's checkout, authorization and amount. -/
  requestHash : String → String → ℤ → String
  /-- `PolicyInputs.compute_hash`. -/
  inputsHash : PolicyInputs → String
  reading : Reading
  /-- `hashlib.sha256(body).hexdigest()` of raw bytes. -/
  bodyHash : List UInt8 → String
  /-- The identifier of a dead-lettered webhook, a prefix of a hash of its body's hash. -/
  deadLetterId : String → String
  /-- `json.loads(raw_body.decode("utf-8"))`. -/
  loads : List UInt8 → Option Json
  /-- Python's `repr` of a list or a dict. -/
  repr : Json → String
  provider : Provider

instance : Inhabited Failure := ⟨.exception ""⟩

/-- A provider that answers no call. -/
instance : Inhabited Provider :=
  ⟨{ createOrder := fun _ _ => .error default, fetchPayment := fun _ _ => .error default,
     fetchOrder := fun _ _ => .error default, verifySignature := fun _ _ => false,
     verifyPaymentSignature := fun _ _ => false, refund := fun _ _ _ => .error default,
     paymentLink := fun _ _ => .error default }⟩

/-- An environment at time zero, whose identifiers are their prefixes. -/
instance : Inhabited Env :=
  ⟨{ clock := fun _ => 0, newId := id, priceHash := fun _ => "", requestHash := fun _ _ _ => "",
     inputsHash := fun _ => "", reading := default, bodyHash := fun _ => "", deadLetterId := id,
     loads := fun _ => none, repr := fun _ => "", provider := default }⟩

/-- The reading of the clock an operation starts with. -/
def Env.now (env : Env) : Time := env.clock 0

/-! ### Statements -/

/-- A query over the store. -/
def query {α : Type} (q : Database → α) : Op α := Work.ask fun w => .ok (q w.db)

/-- A query that must find a row. -/
def require {α : Type} (q : Database → Option α) (missing : Failure) : Op α :=
  Work.ask fun w => match q w.db with
    | some a => .ok a
    | none => .error missing

/-- An update of the store. -/
def update (f : Database → Database) : Op Unit := Work.write fun w => { w with db := f w.db }

/-- An insert, which a key may refuse. -/
def insert (f : Database → Option Database) : Op Unit :=
  Work.tryWrite (fun w => (f w.db).map fun db => { w with db })
    (.integrity "duplicate key value violates unique constraint")

/-- Raises when `c` holds. -/
def raiseIf (c : Prop) [Decidable c] (failure : Failure) : Op Unit := Work.raiseIf c failure

/-- `if not c: m`. -/
def unlessTrue (c : Bool) (m : Op Unit) : Op Unit := if c then pure () else m

@[simp] theorem unlessTrue_true (m : Op Unit) : unlessTrue true m = pure () := rfl

@[simp] theorem unlessTrue_false (m : Op Unit) : unlessTrue false m = m := rfl

/-- `session.flush()`, for the constraints that only a flush checks. -/
def flush : Op Unit := Work.ask fun w =>
  if w.db.flushable then .ok ()
  else .error (.integrity "duplicate key value violates unique constraint")

/-- Logs a call to the provider with its answer, and hands the answer on. -/
def call {α : Type} (answer : List ProviderCall → Except Failure α)
    (log : Except Failure α → ProviderCall) : Op (Except Failure α) := fun w =>
  .ok (answer w.calls) { w with calls := w.calls ++ [log (answer w.calls)] }

/-- Raises the failure of an answer that is one. -/
def ofAnswer {α : Type} (answer : Except Failure α) : Op α := Work.ask fun _ => answer

/-- `with session.begin_nested()`, catching what is raised inside it. -/
def nested {α : Type} (m : Op α) : Op (Except Failure α) := Work.savepoint World.restore m

/-- The unit of work of an API request. -/
def request {α : Type} (m : Op α) (w : World) : World :=
  Work.transaction World.restore (do let a ← m; flush; pure a) w

/-- A call returned, or raised and left a session that can go on, with the world `w'`. -/
def Leaves {α : Type} (m : Op α) (w w' : World) : Prop :=
  (∃ a, m w = .ok a w') ∨ ∃ e : Failure, e.usable = true ∧ m w = .error e w'

/-! ### What the statements do -/

section

variable {α : Type} {w w' : World} {e : Failure}

@[simp] theorem query_eq_ok {q : Database → α} {a : α} :
    query q w = .ok a w' ↔ q w.db = a ∧ w = w' := by
  simp [query]

@[simp] theorem query_eq_error {q : Database → α} : query q w = .error e w' ↔ False := by
  simp [query]

@[simp] theorem require_eq_ok {q : Database → Option α} {missing : Failure} {a : α} :
    require q missing w = .ok a w' ↔ q w.db = some a ∧ w = w' := by
  unfold require
  simp only [Work.ask_eq_ok]
  cases q w.db <;> simp

@[simp] theorem require_eq_error {q : Database → Option α} {missing : Failure} :
    require q missing w = .error e w' ↔ q w.db = none ∧ missing = e ∧ w = w' := by
  unfold require
  simp only [Work.ask_eq_error]
  cases q w.db <;> simp

@[simp] theorem update_eq_ok {f : Database → Database} {u : Unit} :
    update f w = .ok u w' ↔ { w with db := f w.db } = w' := by
  simp [update]

@[simp] theorem update_eq_error {f : Database → Database} : update f w = .error e w' ↔ False := by
  simp [update]

@[simp] theorem insert_eq_ok {f : Database → Option Database} {u : Unit} :
    insert f w = .ok u w' ↔ ∃ db, f w.db = some db ∧ { w with db } = w' := by
  simp [insert]

@[simp] theorem insert_eq_error {f : Database → Option Database} :
    insert f w = .error e w' ↔ f w.db = none ∧
      .integrity "duplicate key value violates unique constraint" = e ∧ w = w' := by
  simp [insert]

@[simp] theorem raiseIf_eq_ok {c : Prop} [Decidable c] {u : Unit} :
    raiseIf c e w = .ok u w' ↔ ¬c ∧ w = w' :=
  Work.raiseIf_eq_ok

@[simp] theorem raiseIf_eq_error {c : Prop} [Decidable c] {e' : Failure} :
    raiseIf c e w = .error e' w' ↔ c ∧ e = e' ∧ w = w' :=
  Work.raiseIf_eq_error

/-- A check that passes. -/
theorem raiseIf_of_not {c : Prop} [Decidable c] (h : ¬c) : raiseIf c e w = .ok () w :=
  raiseIf_eq_ok.2 ⟨h, rfl⟩

@[simp] theorem flush_eq_ok {u : Unit} : flush w = .ok u w' ↔ w.db.flushable = true ∧ w = w' := by
  unfold flush
  simp only [Work.ask_eq_ok]
  split <;> simp [*]

@[simp] theorem flush_eq_error :
    flush w = .error e w' ↔ w.db.flushable = false ∧
      .integrity "duplicate key value violates unique constraint" = e ∧ w = w' := by
  unfold flush
  simp only [Work.ask_eq_error]
  split <;> simp [*]

@[simp] theorem call_eq_ok {answer : List ProviderCall → Except Failure α}
    {log : Except Failure α → ProviderCall} {a : Except Failure α} :
    call answer log w = .ok a w' ↔
      answer w.calls = a ∧ { w with calls := w.calls ++ [log (answer w.calls)] } = w' := by
  simp [call]

@[simp] theorem call_eq_error {answer : List ProviderCall → Except Failure α}
    {log : Except Failure α → ProviderCall} : call answer log w = .error e w' ↔ False := by
  simp [call]

@[simp] theorem ofAnswer_eq_ok {answer : Except Failure α} {a : α} :
    ofAnswer answer w = .ok a w' ↔ answer = .ok a ∧ w = w' := by
  simp [ofAnswer]

@[simp] theorem ofAnswer_eq_error {answer : Except Failure α} :
    ofAnswer answer w = .error e w' ↔ answer = .error e ∧ w = w' := by
  simp [ofAnswer]

@[simp] theorem restore_db (old new : World) : (World.restore old new).db = old.db := rfl

/-- **A request commits or leaves the store alone.**  A property of the store
that held before, and holds after every return, holds after the request. -/
theorem request_induction {m : Op α} {P : Database → Prop} (h : P w.db)
    (hok : ∀ a w', m w = .ok a w' → w'.db.flushable = true → P w'.db) :
    P (request m w).db := by
  refine Work.transaction_induction (motive := fun u : World => P u.db) ?_ ?_
  · intro a w' hm
    simp only [Work.bind_eq_ok, flush_eq_ok, Work.pure_eq_ok] at hm
    obtain ⟨b, u, hb, _, v, ⟨hf, rfl⟩, rfl, rfl⟩ := hm
    exact hok b u hb hf
  · intro _ w' _
    exact h

/-- A request that returns, with a store that can be flushed, is committed. -/
theorem request_of_ok {m : Op α} {a : α} (h : m w = .ok a w') (hflush : w'.db.flushable = true) :
    request m w = w' := by
  have hf : flush w' = .ok () w' := flush_eq_ok.2 ⟨hflush, rfl⟩
  rw [request, Work.transaction_of_ok]
  rw [Work.bind_of_ok h]
  exact Work.bind_of_ok hf

/-- A request that raises leaves the store alone, but not the provider. -/
theorem request_of_error {m : Op α} (h : m w = .error e w') : request m w = World.restore w w' := by
  rw [request, Work.transaction_of_error (Work.bind_of_error h)]

end

end AgenticCommerce
