/-
# Readers of the cache and a writer

`cached` of `packages/cache.py`, by any number of readers, and a route that commits a change and
then invalidates.  A reader looks up, produces the value from the database, and writes it back; the
writer commits, drops the keys, and returns.  The steps come in any order.

A reader that missed before the commit may write its value back after the keys were dropped: the
next one reads it (`stale_after_invalidation`).  Where no reader does that, and the keys are really
dropped, a read that starts after the invalidation yields what was written (`read_after_write`).
-/

import AgenticCommerce.Cache.Keys
import AgenticCommerce.Relational.Machines

namespace AgenticCommerce
namespace Cache

open Relational

/-- `json.dumps` and `json.loads`. -/
structure Codec (Value : Type) where
  dumps : Value → String
  loads : String → Option Value

/-- What is read and written: the key of the readers, what the writer invalidates, and what it
writes. -/
structure Setting (Value : Type) where
  codec : Codec Value
  key : CacheKey
  ttlSeconds : ℕ
  target : CacheKey
  written : Value

/-- `InMemoryCacheBackend.get`: an entry that expired is deleted. -/
def InMemoryCacheBackend.get (backend : InMemoryCacheBackend) (key : String) (now : ℚ) :
    Option String × InMemoryCacheBackend :=
  match backend.lookup key with
  | none => (none, backend)
  | some (value, expiresAt) =>
      if expiresAt ≤ now then (none, backend.erase key) else (some value, backend)

section

variable {Value : Type} (setting : Setting Value)

/-- The read of `cached`, of a backend that answers or does not: what is no JSON is a miss. -/
def lookUp (now : ℚ) (answers : Bool) (backend : InMemoryCacheBackend) :
    Option Value × InMemoryCacheBackend :=
  if answers then
    let (hit, backend) := backend.get setting.key.text now
    (hit.bind setting.codec.loads, backend)
  else (none, backend)

/-- The write of `cached`, that may fail. -/
def writeBack (value : Value) (now : ℚ) (works : Bool) (backend : InMemoryCacheBackend) :
    InMemoryCacheBackend :=
  if works then
    backend.set setting.key.text (setting.codec.dumps value) setting.ttlSeconds now
  else backend

/-- `cached`, without interruption; `produced` is what `produce` returns, if it does not raise. -/
def cached (now later : ℚ) (answers works : Bool) (produced : Option Value)
    (backend : InMemoryCacheBackend) : Option Value × InMemoryCacheBackend :=
  match lookUp setting now answers backend with
  | (some value, backend) => (some value, backend)
  | (none, backend) =>
      match produced with
      | none => (none, backend)
      | some value => (some value, writeBack setting value later works backend)

end

/-! ### Interleavings -/

/-- Where a reader is, with whether it started after the invalidation had returned. -/
inductive Reader (Value : Type) where
  | idle
  | missed (late : Bool)
  | produced (late : Bool) (value : Value)
  | yielded (late : Bool) (value : Value)
  | raised
  deriving DecidableEq

/-- Where the writer is. -/
inductive Writer where
  | waiting
  | committed
  | dropped
  | returned
  deriving DecidableEq

/-- The cache, what the database holds, and where everyone is. -/
structure System (ι Value : Type) where
  backend : InMemoryCacheBackend
  database : Value
  writer : Writer := .waiting
  readers : ι → Reader Value := fun _ => .idle

/-- A step of a reader or of the writer; each call of the backend may fail. -/
inductive Step (ι : Type) where
  | lookUp (reader : ι) (now : ℚ) (answers : Bool)
  | produce (reader : ι) (raises : Bool)
  | writeBack (reader : ι) (now : ℚ) (works : Bool)
  | commit
  | drop (works : Bool)
  | finish

section

variable {ι Value : Type} [DecidableEq ι] (setting : Setting Value)

/-- The system with a reader gone on. -/
def System.put (s : System ι Value) (reader : ι) (state : Reader Value) : System ι Value :=
  { s with readers := Function.update s.readers reader state }

/-- The system after a step; who is not at that step does nothing. -/
def System.step (s : System ι Value) : Step ι → System ι Value
  | .lookUp reader now answers =>
      match s.readers reader with
      | .idle =>
          let late := decide (s.writer = .returned)
          match Cache.lookUp setting now answers s.backend with
          | (some value, backend) => { s with backend }.put reader (.yielded late value)
          | (none, backend) => { s with backend }.put reader (.missed late)
      | _ => s
  | .produce reader raises =>
      match s.readers reader with
      | .missed late => s.put reader (if raises then .raised else .produced late s.database)
      | _ => s
  | .writeBack reader now works =>
      match s.readers reader with
      | .produced late value =>
          { s with backend := Cache.writeBack setting value now works s.backend }.put reader
            (.yielded late value)
      | _ => s
  | .commit =>
      if s.writer = .waiting then { s with database := setting.written, writer := .committed }
      else s
  | .drop works =>
      if s.writer = .committed then
        { s with
          backend := if works then (s.backend.dropNamespace setting.target.start).2 else s.backend
          writer := .dropped }
      else s
  | .finish => if s.writer = .dropped then { s with writer := .returned } else s

/-- The system after steps. -/
def System.run (s : System ι Value) (steps : List (Step ι)) : System ι Value :=
  steps.foldl (System.step setting) s

/-- Once the keys are dropped, nobody writes back another value than the database holds; and the
keys are dropped. -/
def Spared (s : System ι Value) : Step ι → Prop
  | .writeBack reader _ works =>
      works = true → s.writer = .dropped ∨ s.writer = .returned →
        ∀ late value, s.readers reader = .produced late value → value = s.database
  | .drop works => s.writer = .committed → works = true
  | _ => True

end

/-! ### What the backend answers -/

section

variable {Value : Type} {setting : Setting Value} {backend : InMemoryCacheBackend}

/-- A read changes no entry that is left. -/
theorem lookup_of_get {key other : String} {now : ℚ} {entry : String × ℚ}
    (h : (backend.get key now).2.lookup other = some entry) :
    backend.lookup other = some entry := by
  rw [InMemoryCacheBackend.get] at h
  split at h
  · exact h
  · split_ifs at h
    · rw [AList.lookup_unset] at h
      split_ifs at h
      exact h
    · exact h

theorem lookup_of_lookUp {other : String} {now : ℚ} {answers : Bool} {entry : String × ℚ}
    (h : (lookUp setting now answers backend).2.lookup other = some entry) :
    backend.lookup other = some entry := by
  rw [lookUp] at h
  cases answers with
  | true => exact lookup_of_get h
  | false => exact h

/-- What a reader finds is what the text of an entry says. -/
theorem entry_of_lookUp {now : ℚ} {answers : Bool} {value : Value}
    (h : (lookUp setting now answers backend).1 = some value) :
    ∃ text expiresAt, backend.lookup setting.key.text = some (text, expiresAt) ∧
      setting.codec.loads text = some value := by
  rw [lookUp] at h
  cases answers with
  | false => cases h
  | true =>
      obtain ⟨text, hget, hloads⟩ := Option.bind_eq_some_iff.1 h
      split at hget
      · cases hget
      · rename_i found expiresAt hlookup
        split_ifs at hget
        cases hget
        exact ⟨_, expiresAt, hlookup, hloads⟩

/-- An entry is what was written back, or was there. -/
theorem entry_of_writeBack {value : Value} {now : ℚ} {works : Bool} {entry : String × ℚ}
    (h : (writeBack setting value now works backend).lookup setting.key.text = some entry) :
    works = true ∧ entry.1 = setting.codec.dumps value ∨
      backend.lookup setting.key.text = some entry := by
  rw [writeBack] at h
  cases works with
  | false => exact .inr h
  | true =>
      rw [if_pos rfl, InMemoryCacheBackend.set, AList.lookup_set, if_pos rfl] at h
      cases h
      exact .inl ⟨rfl, rfl⟩

/-- What is dropped is gone. -/
theorem lookup_dropNamespace {start key : String} (h : start.toList <+: key.toList) :
    (InMemoryCacheBackend.dropNamespace start backend).2.lookup key = none := by
  rw [InMemoryCacheBackend.dropNamespace, AList.lookup_keep]
  exact if_neg (by simp [Strings.startsWith_iff.2 h])

end

/-! ### The interleavings that spare the cache -/

section

variable {ι Value : Type} [DecidableEq ι] {setting : Setting Value} {s : System ι Value}

/-- A reader that is not interrupted does what `cached` does. -/
theorem run_cached {reader : ι} (h : s.readers reader = .idle) (now later : ℚ)
    (answers works raises : Bool) :
    let t := s.run setting
      [.lookUp reader now answers, .produce reader raises, .writeBack reader later works]
    let produced := if raises then none else some s.database
    let result := cached setting now later answers works produced s.backend
    t.backend = result.2 ∧
      t.readers reader =
        result.1.elim .raised (.yielded (decide (s.writer = .returned))) := by
  dsimp only
  rw [System.run, List.foldl_cons, List.foldl_cons, List.foldl_cons, List.foldl_nil, cached]
  cases hlook : lookUp setting now answers s.backend with
  | mk found backend =>
      cases found <;> cases raises <;> simp [System.step, System.put, h, hlook]

/-- What a reader that started after the invalidation may be at. -/
def Reader.Sound (setting : Setting Value) : Reader Value → Prop
  | .produced true value => value = setting.written
  | .yielded true value => value = setting.written
  | _ => True

/-- **The invariant.**  Once the writer has committed, the database holds what it wrote; once the
keys are dropped, the entry says nothing else; readers that started after that read nothing else. -/
structure Inv (setting : Setting Value) (s : System ι Value) : Prop where
  database : s.writer ≠ .waiting → s.database = setting.written
  entry : s.writer = .dropped ∨ s.writer = .returned → ∀ text expiresAt value,
    s.backend.lookup setting.key.text = some (text, expiresAt) →
      setting.codec.loads text = some value → value = setting.written
  missed : ∀ reader, s.readers reader = .missed true → s.writer = .returned
  readers : ∀ reader, (s.readers reader).Sound setting

/-- A reader goes on. -/
theorem Inv.put (h : Inv setting s) {reader : ι} {state : Reader Value}
    (hmissed : state = .missed true → s.writer = .returned) (hsound : state.Sound setting) :
    Inv setting (s.put reader state) := by
  refine ⟨h.database, h.entry, fun other hother => ?_, fun other => ?_⟩
  · by_cases heq : other = reader
    · subst heq
      have hself : Function.update s.readers other state other = .missed true := hother
      exact hmissed ((Function.update_self other state s.readers).symm.trans hself)
    · have hne : Function.update s.readers reader state other = .missed true := hother
      exact h.missed other ((Function.update_of_ne heq state s.readers).symm.trans hne)
  · show Reader.Sound setting (Function.update s.readers reader state other)
    by_cases heq : other = reader
    · rw [heq, Function.update_self]
      exact hsound
    · rw [Function.update_of_ne heq]
      exact h.readers other

omit [DecidableEq ι] in
/-- The backend changes, and says of the key what it said. -/
theorem Inv.withBackend (h : Inv setting s) {backend : InMemoryCacheBackend}
    (hentry : s.writer = .dropped ∨ s.writer = .returned → ∀ text expiresAt value,
      backend.lookup setting.key.text = some (text, expiresAt) →
        setting.codec.loads text = some value → value = setting.written) :
    Inv setting { s with backend } :=
  ⟨h.database, hentry, h.missed, h.readers⟩

/-- **A step that spares the cache** keeps the invariant. -/
theorem Inv.step (hround : ∀ value, setting.codec.loads (setting.codec.dumps value) = some value)
    (hcovers : setting.target.start.toList <+: setting.key.text.toList) (h : Inv setting s)
    {step : Step ι} (hspared : Spared s step) : Inv setting (s.step setting step) := by
  cases step with
  | lookUp reader now answers =>
      rw [System.step]
      cases hreader : s.readers reader with
      | idle =>
          dsimp only
          cases hlook : lookUp setting now answers s.backend with
          | mk found backend =>
              have hkept : Inv setting { s with backend } := by
                refine h.withBackend fun hdone text expiresAt value hlookup => ?_
                refine h.entry hdone text expiresAt value (@lookup_of_lookUp _ setting _ _ now answers
                  _ ?_)
                rw [hlook]
                exact hlookup
              cases found with
              | none =>
                  refine hkept.put (fun hlate => ?_) trivial
                  exact of_decide_eq_true (Reader.missed.inj hlate)
              | some value =>
                  refine hkept.put (fun hlate => nomatch hlate) ?_
                  by_cases hwriter : s.writer = .returned
                  · obtain ⟨text, expiresAt, hlookup, hloads⟩ := entry_of_lookUp
                      (congrArg Prod.fst hlook)
                    have hvalue := h.entry (.inr hwriter) text expiresAt value hlookup hloads
                    rw [decide_eq_true hwriter]
                    exact hvalue
                  · rw [decide_eq_false hwriter]
                    trivial
      | missed late => exact h
      | produced late value => exact h
      | yielded late value => exact h
      | raised => exact h
  | produce reader raises =>
      rw [System.step]
      cases hreader : s.readers reader with
      | missed late =>
          cases raises with
          | true => exact h.put (fun hlate => nomatch hlate) trivial
          | false =>
              refine h.put (fun hlate => nomatch hlate) ?_
              cases late with
              | false => trivial
              | true =>
                  have hreturned := h.missed reader hreader
                  exact h.database (by rw [hreturned]; decide)
      | idle => exact h
      | produced late value => exact h
      | yielded late value => exact h
      | raised => exact h
  | writeBack reader now works =>
      rw [System.step]
      cases hreader : s.readers reader with
      | produced late value =>
          have hkept : Inv setting
              { s with backend := writeBack setting value now works s.backend } := by
            refine h.withBackend fun hdone text expiresAt value' hlookup hloads => ?_
            rcases entry_of_writeBack hlookup with ⟨hworks, htext⟩ | hbefore
            · -- the value is the one that the database holds
              have hvalue : value = s.database := hspared hworks hdone late value hreader
              have hdatabase : s.database = setting.written := by
                refine h.database fun hwaiting => ?_
                rw [hwaiting] at hdone
                exact hdone.elim (nomatch ·) (nomatch ·)
              rw [show text = setting.codec.dumps value from htext, hround] at hloads
              rw [← Option.some.inj hloads, hvalue, hdatabase]
            · exact h.entry hdone text expiresAt value' hbefore hloads
          refine hkept.put (fun hlate => nomatch hlate) ?_
          have hsound := h.readers reader
          rw [hreader] at hsound
          cases late <;> exact hsound
      | idle => exact h
      | missed late => exact h
      | yielded late value => exact h
      | raised => exact h
  | commit =>
      rw [System.step]
      split_ifs with hwaiting
      · refine ⟨fun _ => rfl, fun hdone => ?_, fun reader hreader => ?_, h.readers⟩
        · exact hdone.elim (nomatch ·) (nomatch ·)
        · exact absurd ((h.missed reader hreader).symm.trans hwaiting) (by decide)
      · exact h
  | drop works =>
      rw [System.step]
      by_cases hcommitted : s.writer = .committed
      · obtain rfl : works = true := hspared hcommitted
        rw [if_pos hcommitted, if_pos rfl]
        refine ⟨fun _ => h.database (by rw [hcommitted]; decide), ?_, fun reader hreader => ?_,
          h.readers⟩
        · intro _ text expiresAt value hlookup
          exact nomatch (lookup_dropNamespace hcovers).symm.trans hlookup
        · exact absurd ((h.missed reader hreader).symm.trans hcommitted) (by decide)
      · rw [if_neg hcommitted]
        exact h
  | finish =>
      rw [System.step]
      split_ifs with hdropped
      · refine ⟨fun _ => h.database (by rw [hdropped]; decide), fun _ => h.entry (.inl hdropped),
          fun reader hreader => ?_, h.readers⟩
        exact absurd ((h.missed reader hreader).symm.trans hdropped) (by decide)
      · exact h

/-- **A read after the invalidation** yields what was written, in every run in which nobody writes
back another value once the keys are dropped, and in which they are dropped. -/
theorem read_after_write
    (hround : ∀ value, setting.codec.loads (setting.codec.dumps value) = some value)
    (hcovers : setting.target.start.toList <+: setting.key.text.toList)
    {backend : InMemoryCacheBackend} {old : Value} {steps : List (Step ι)}
    (hspared : Always (System.step setting) Spared { backend, database := old } steps)
    {reader : ι} {value : Value}
    (hread : (({ backend, database := old } : System ι Value).run setting steps).readers reader =
      .yielded true value) : value = setting.written := by
  have hstart : Inv setting ({ backend, database := old } : System ι Value) := by
    refine ⟨fun h => absurd rfl h, fun h => ?_, fun reader h => (nomatch h), fun reader => trivial⟩
    exact h.elim (nomatch ·) (nomatch ·)
  have hend := hspared.invariant (fun s step hs h => h.step hround hcovers hs) hstart
  have hsound := hend.readers reader
  rw [show (steps.foldl (System.step setting) { backend, database := old }).readers reader =
    .yielded true value from hread] at hsound
  exact hsound

end

/-! ### An offer that is sold out -/

/-- Truth values as JSON. -/
def boolCodec : Codec Bool where
  dumps value := if value then "true" else "false"
  loads text := if text = "true" then some true else if text = "false" then some false else none

/-- Whether an offer is in stock: it is sold out, and the offers of the merchant are invalidated. -/
def soldOut : Setting Bool where
  codec := boolCodec
  key := ⟨"offer", ["m1", "o1"], by decide⟩
  ttlSeconds := 15
  target := oneMerchant
  written := false

/-- Before that nothing is cached. -/
def inStock : System ℕ Bool := { backend := ∅, database := true }

/-- The offer is sold out, and read afterwards. -/
def lateRead : List (Step ℕ) :=
  [.commit, .drop true, .finish, .lookUp 1 0 true, .produce 1 false, .writeBack 1 0 true]

/-- A reader that starts after the invalidation finds the offer sold out. -/
theorem sold_out_read : (inStock.run soldOut lateRead).readers 1 = .yielded true false ∧
    false = soldOut.written := by
  have hread : (inStock.run soldOut lateRead).readers 1 = .yielded true false := by decide
  refine ⟨hread, @read_after_write _ _ _ soldOut ?_ (by decide) _ _ _ ?_ _ _ hread⟩
  · intro value
    cases value <;> decide
  · refine ⟨trivial, fun _ => rfl, trivial, trivial, trivial, ?_, trivial⟩
    intro _ _ late value hproduced
    cases (show Reader.produced true false = .produced late value from hproduced)
    rfl

/-- **A read after the invalidation that is stale**: a reader missed before the commit, and writes
back what it had read once the keys are dropped. -/
theorem stale_after_invalidation : ¬ ∀ (steps : List (Step ℕ)) (reader : ℕ) (value : Bool),
    (inStock.run soldOut steps).readers reader = .yielded true value → value ≠ true := by
  intro h
  refine h [.lookUp 0 0 true, .produce 0 false, .commit, .drop true, .finish, .writeBack 0 0 true,
    .lookUp 1 1 true] 1 true ?_ rfl
  decide +kernel

end Cache
end AgenticCommerce
