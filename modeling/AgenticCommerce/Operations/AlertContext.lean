/-
# The context of an alert

`AlertManager._redact` and `_is_secret_like` of `services/operations/alerts.py`.  A context is a
dictionary whose values may be dictionaries, lists and tuples in turn.

The redaction goes into every dictionary that it comes to, and into every list or tuple that is
the value of a dictionary.  The items of such a list are treated differently: a dictionary among
them is entered, a list is left as it is.  What stands there is the only thing that is not masked
(`redacted_iff`).
-/

import AgenticCommerce.Text.Regex

namespace AgenticCommerce
namespace Operations

/-- What a context holds. -/
inductive ContextValue where
  | text (s : String)
  /-- An object without parts, by its identity. -/
  | scalar (id : ℕ)
  | list (items : List ContextValue)
  | tuple (items : List ContextValue)
  | dict (items : List (String × ContextValue))
  deriving Inhabited

namespace ContextValue

mutual

/-- Whether two values are the same. -/
def decEq : (x y : ContextValue) → Decidable (x = y)
  | text a, text b => decidable_of_iff (a = b) (by rw [text.injEq])
  | scalar a, scalar b => decidable_of_iff (a = b) (by rw [scalar.injEq])
  | list a, list b => have := decEqItems a b; decidable_of_iff (a = b) (by rw [list.injEq])
  | tuple a, tuple b => have := decEqItems a b; decidable_of_iff (a = b) (by rw [tuple.injEq])
  | dict a, dict b => have := decEqFields a b; decidable_of_iff (a = b) (by rw [dict.injEq])
  | text _, scalar _ | text _, list _ | text _, tuple _ | text _, dict _
  | scalar _, text _ | scalar _, list _ | scalar _, tuple _ | scalar _, dict _
  | list _, text _ | list _, scalar _ | list _, tuple _ | list _, dict _
  | tuple _, text _ | tuple _, scalar _ | tuple _, list _ | tuple _, dict _
  | dict _, text _ | dict _, scalar _ | dict _, list _ | dict _, tuple _ => .isFalse nofun

/-- The same for the items of a list. -/
def decEqItems : (x y : List ContextValue) → Decidable (x = y)
  | [], [] => .isTrue rfl
  | [], _ :: _ | _ :: _, [] => .isFalse nofun
  | a :: x, b :: y =>
      have := decEq a b
      have := decEqItems x y
      decidable_of_iff (a = b ∧ x = y) (by rw [List.cons.injEq])

/-- The same for the bindings of a dictionary. -/
def decEqFields : (x y : List (String × ContextValue)) → Decidable (x = y)
  | [], [] => .isTrue rfl
  | [], _ :: _ | _ :: _, [] => .isFalse nofun
  | (k, a) :: x, (l, b) :: y =>
      have := decEq a b
      have := decEqFields x y
      decidable_of_iff ((k = l ∧ a = b) ∧ x = y) (by rw [List.cons.injEq, Prod.mk.injEq])

end

instance : DecidableEq ContextValue := decEq

mutual

/-- **Induction over a value**: over the items of lists and tuples and the values of
dictionaries. -/
@[elab_as_elim]
theorem induction {P : ContextValue → Prop} (text : ∀ s, P (text s)) (scalar : ∀ id, P (scalar id))
    (list : ∀ items, (∀ v ∈ items, P v) → P (list items))
    (tuple : ∀ items, (∀ v ∈ items, P v) → P (tuple items))
    (dict : ∀ items, (∀ kv ∈ items, P kv.2) → P (dict items)) : ∀ v : ContextValue, P v
  | .text s => text s
  | .scalar id => scalar id
  | .list items => list items (inductionItems text scalar list tuple dict items)
  | .tuple items => tuple items (inductionItems text scalar list tuple dict items)
  | .dict items => dict items (inductionFields text scalar list tuple dict items)

theorem inductionItems {P : ContextValue → Prop} (text : ∀ s, P (.text s))
    (scalar : ∀ id, P (.scalar id)) (list : ∀ items, (∀ v ∈ items, P v) → P (.list items))
    (tuple : ∀ items, (∀ v ∈ items, P v) → P (.tuple items))
    (dict : ∀ items, (∀ kv ∈ items, P kv.2) → P (.dict items)) :
    ∀ items : List ContextValue, ∀ v ∈ items, P v
  | [], _, h => nomatch h
  | item :: items, v, h =>
      (List.mem_cons.1 h).elim (fun heq => heq ▸ induction text scalar list tuple dict item)
        (inductionItems text scalar list tuple dict items v)

theorem inductionFields {P : ContextValue → Prop} (text : ∀ s, P (.text s))
    (scalar : ∀ id, P (.scalar id)) (list : ∀ items, (∀ v ∈ items, P v) → P (.list items))
    (tuple : ∀ items, (∀ v ∈ items, P v) → P (.tuple items))
    (dict : ∀ items, (∀ kv ∈ items, P kv.2) → P (.dict items)) :
    ∀ items : List (String × ContextValue), ∀ kv ∈ items, P kv.2
  | [], _, h => nomatch h
  | (_, v) :: items, kv, h =>
      (List.mem_cons.1 h).elim (fun heq => heq ▸ induction text scalar list tuple dict v)
        (inductionFields text scalar list tuple dict items kv)

end

end ContextValue

/-! ### Redaction -/

/-- `[A-Za-z0-9]`. -/
def isAlphanumeric (c : Char) : Bool := c.isUpper || c.isLower || c.isDigit

/-- `_KEY_PREFIX_PATTERNS`. -/
def keyPrefixPatterns : List Regex :=
  [.seq (.spelled (· == ·) "ak_") (.plus fun c => isAlphanumeric c || c == '_' || c == '-'),
   .all [.spelled (· == ·) "rzp_", .alt (.spelled (· == ·) "live") (.spelled (· == ·) "test"),
     .spelled (· == ·) "_", .plus isAlphanumeric],
   .exactly 64 fun c => ('a' ≤ c && c ≤ 'f') || c.isDigit]

/-- `_LONG_TOKEN_LENGTH`. -/
def longTokenLength : ℕ := 80

/-- `_is_secret_like`. -/
def isSecretLike : ContextValue → Bool
  | .text s => longTokenLength ≤ s.length || keyPrefixPatterns.any fun r => r.matchesLine s.toList
  | _ => false

/-- The value, or what is put in its place if it looks like a credential. -/
def mask (value : ContextValue) : ContextValue :=
  if isSecretLike value then .text "[redacted]" else value

mutual

/-- `_redact`. -/
def redact : List (String × ContextValue) → List (String × ContextValue)
  | [] => []
  | (key, value) :: context => (key, redactValue value) :: redact context

/-- The body of the loop of `_redact`. -/
def redactValue : ContextValue → ContextValue
  | .dict items => .dict (redact items)
  | .list items | .tuple items => .list (redactItems items)
  | value => mask value

/-- The items of a list, in which a list is left as it is. -/
def redactItems : List ContextValue → List ContextValue
  | [] => []
  | .dict items :: rest => .dict (redact items) :: redactItems rest
  | value :: rest => mask value :: redactItems rest

end

/-! ### Positions -/

/-- A step into a container. -/
inductive Place where
  | key (k : String)
  | item (n : ℕ)
  deriving DecidableEq

/-- The value at a position. -/
def ContextValue.at? : ContextValue → List Place → Option ContextValue
  | value, [] => some value
  | .dict items, .key k :: path => (items.lookup k).bind fun value => value.at? path
  | .list items, .item n :: path | .tuple items, .item n :: path =>
      items[n]?.bind fun value => value.at? path
  | _, _ :: _ => none

/-- A value is kept: it is the same, or a container with the same places. -/
def ContextValue.KeptAs : ContextValue → ContextValue → Prop
  | .dict items, .dict items' => items'.map Prod.fst = items.map Prod.fst
  | .list items, .list items' | .tuple items, .list items' | .tuple items, .tuple items' =>
      items'.length = items.length
  | value, value' => value' = value

/-- **A context is redacted**: no text in it looks like a credential, a second redaction changes
nothing, and what does not look like a credential is kept where it was. -/
structure Redacted (context : List (String × ContextValue)) : Prop where
  masked : ∀ path s, (ContextValue.dict (redact context)).at? path = some (.text s) →
    isSecretLike (.text s) = false
  idempotent : redact (redact context) = redact context
  kept : ∀ path value, (ContextValue.dict context).at? path = some value →
    isSecretLike value = false →
      ∃ value', (ContextValue.dict (redact context)).at? path = some value' ∧ value.KeptAs value'

/-- The position is inside a list that is an item of a list. -/
def TwiceNested (path : List Place) : Prop :=
  ∃ before n m after, path = before ++ .item n :: .item m :: after

/-! ### What becomes of a value at a position -/

/-- What becomes of the item of a list. -/
def redactItem : ContextValue → ContextValue
  | .dict items => .dict (redact items)
  | value => mask value

theorem redact_eq (context : List (String × ContextValue)) :
    redact context = context.map fun kv => (kv.1, redactValue kv.2) := by
  induction context with
  | nil => rfl
  | cons kv context ih => rw [redact, List.map_cons, ih]

theorem redactItems_eq (items : List ContextValue) : redactItems items = items.map redactItem := by
  induction items with
  | nil => rfl
  | cons value items ih =>
      rw [List.map_cons, ← ih]
      cases value <;> rfl

theorem lookup_redact (context : List (String × ContextValue)) (k : String) :
    (redact context).lookup k = (context.lookup k).map redactValue := by
  induction context with
  | nil => rfl
  | cons kv context ih =>
      rw [redact, List.lookup_cons, List.lookup_cons, ih]
      cases k == kv.1 <;> rfl

/-- What the redaction makes of the value at a position; the flag says that the step before led
to an item. -/
def madeOf : Bool → List Place → ContextValue → ContextValue
  | false, [] => redactValue
  | true, [] => redactItem
  | _, .key _ :: path => madeOf false path
  | false, .item _ :: path => madeOf true path
  | true, .item _ :: _ => id

/-- **The redaction keeps the positions**, and what it makes of a value depends on the way to it. -/
theorem at?_redacted (path : List Place) : ∀ value : ContextValue,
    (redactValue value).at? path = (value.at? path).map (madeOf false path) ∧
      (redactItem value).at? path = (value.at? path).map (madeOf true path) := by
  have hmask (s : String) (place : Place) (path : List Place) :
      (mask (.text s)).at? (place :: path) = none := by
    unfold mask
    cases place <;> split_ifs <;> rfl
  induction path with
  | nil => exact fun value => ⟨rfl, rfl⟩
  | cons place path ih =>
      intro value
      cases value with
      | text s =>
          have hnone : (ContextValue.text s).at? (place :: path) = none := by cases place <;> rfl
          rw [hnone]
          exact ⟨hmask s place path, hmask s place path⟩
      | scalar id => cases place <;> exact ⟨rfl, rfl⟩
      | dict items =>
          cases place with
          | item n => exact ⟨rfl, rfl⟩
          | key k =>
              have hlookup : ((redact items).lookup k).bind (fun value => value.at? path) =
                  ((items.lookup k).bind fun value => value.at? path).map (madeOf false path) := by
                rw [lookup_redact]
                cases items.lookup k with
                | none => rfl
                | some value => exact (ih value).1
              exact ⟨hlookup, hlookup⟩
      | list items | tuple items =>
          cases place with
          | key k => exact ⟨rfl, rfl⟩
          | item n =>
              refine ⟨?_, Option.map_id_fun.symm ▸ rfl⟩
              show (redactItems items)[n]?.bind (fun value => value.at? path) =
                (items[n]?.bind fun value => value.at? path).map (madeOf true path)
              rw [redactItems_eq, List.getElem?_map]
              cases items[n]? with
              | none => rfl
              | some value => exact (ih value).2

theorem twiceNested_key {k : String} {path : List Place} :
    TwiceNested (.key k :: path) ↔ TwiceNested path := by
  constructor
  · rintro ⟨before, n, m, after, h⟩
    cases before with
    | nil => cases h
    | cons place before => exact ⟨before, n, m, after, (List.cons.inj h).2⟩
  · rintro ⟨before, n, m, after, rfl⟩
    exact ⟨.key k :: before, n, m, after, rfl⟩

theorem twiceNested_item_key {n : ℕ} {k : String} {path : List Place} :
    TwiceNested (.item n :: .key k :: path) ↔ TwiceNested path := by
  constructor
  · rintro ⟨before, i, j, after, h⟩
    cases before with
    | nil => cases h
    | cons place before => exact twiceNested_key.1 ⟨before, i, j, after, (List.cons.inj h).2⟩
  · rintro ⟨before, i, j, after, rfl⟩
    exact ⟨.item n :: .key k :: before, i, j, after, rfl⟩

/-- **Only what is nested twice is left as it is.** -/
theorem madeOf_cases : ∀ path : List Place, TwiceNested path ∧ madeOf false path = id ∨
    ¬TwiceNested path ∧ (madeOf false path = redactValue ∨ madeOf false path = redactItem)
  | [] => .inr ⟨fun ⟨before, _, _, _, h⟩ => (by cases before <;> cases h), .inl rfl⟩
  | .key k :: path => by
      rw [twiceNested_key]
      exact madeOf_cases path
  | [.item n] => by
      refine .inr ⟨?_, .inr rfl⟩
      rintro ⟨before, i, j, after, h⟩
      have hlength := congrArg List.length h
      simp only [List.length_cons, List.length_nil, List.length_append] at hlength
      omega
  | .item n :: .key k :: path => by
      rw [twiceNested_item_key]
      exact madeOf_cases path
  | .item n :: .item m :: path => .inl ⟨⟨[], n, m, path, rfl⟩, rfl⟩

/-! ### What is made of a value -/

theorem not_isSecretLike_mark : isSecretLike (.text "[redacted]") = false := by decide

theorem not_isSecretLike_mask (value : ContextValue) : isSecretLike (mask value) = false := by
  unfold mask
  split_ifs with h
  · exact not_isSecretLike_mark
  · exact Bool.eq_false_iff.2 h

theorem mask_eq_self {value : ContextValue} (h : isSecretLike value = false) :
    mask value = value := by
  rw [mask, h]
  rfl

/-- A text that is made of something does not look like a credential. -/
theorem not_isSecretLike_made {f : ContextValue → ContextValue} (hf : f = redactValue ∨ f = redactItem)
    {value : ContextValue} {s : String} (h : f value = .text s) : isSecretLike (.text s) = false := by
  rw [← h]
  rcases hf with rfl | rfl
  · cases value with
    | text t => exact not_isSecretLike_mask _
    | scalar id => rfl
    | list items => rfl
    | tuple items => rfl
    | dict items => rfl
  · cases value with
    | text t => exact not_isSecretLike_mask _
    | scalar id => rfl
    | list items => rfl
    | tuple items => rfl
    | dict items => rfl

theorem keptAs_self (value : ContextValue) : value.KeptAs value := by
  cases value <;> rfl

/-- What does not look like a credential is kept, whatever is made of it. -/
theorem keptAs_made {f : ContextValue → ContextValue} (hf : f = redactValue ∨ f = redactItem)
    {value : ContextValue} (h : isSecretLike value = false) : value.KeptAs (f value) := by
  have hkeys (items : List (String × ContextValue)) :
      (ContextValue.dict items).KeptAs (.dict (redact items)) := by
    show (redact items).map Prod.fst = items.map Prod.fst
    rw [redact_eq, List.map_map]
    rfl
  have hlength (items : List ContextValue) : (redactItems items).length = items.length := by
    rw [redactItems_eq, List.length_map]
  rcases hf with rfl | rfl
  · cases value with
    | text s => exact mask_eq_self h
    | scalar id => rfl
    | list items => exact hlength items
    | tuple items => exact hlength items
    | dict items => exact hkeys items
  · cases value with
    | text s => exact mask_eq_self h
    | scalar id => rfl
    | list items => rfl
    | tuple items => rfl
    | dict items => exact hkeys items

/-- **A second redaction changes nothing.** -/
theorem redactValue_redactValue (value : ContextValue) :
    redactValue (redactValue value) = redactValue value ∧
      redactItem (redactItem value) = redactItem value := by
  have hmask (s : String) : redactValue (mask (.text s)) = mask (.text s) ∧
      redactItem (mask (.text s)) = mask (.text s) := by
    have hself := mask_eq_self (not_isSecretLike_mask (.text s))
    have htext : ∃ t, mask (.text s) = .text t := by
      unfold mask
      split_ifs
      · exact ⟨_, rfl⟩
      · exact ⟨s, rfl⟩
    obtain ⟨t, ht⟩ := htext
    rw [ht] at hself ⊢
    exact ⟨hself, hself⟩
  have hdict (items : List (String × ContextValue))
      (ih : ∀ kv ∈ items, redactValue (redactValue kv.2) = redactValue kv.2) :
      redact (redact items) = redact items := by
    rw [redact_eq (redact items), redact_eq, List.map_map]
    refine List.map_congr_left fun kv hkv => ?_
    rw [Function.comp_apply, ih kv hkv]
  have hlist (items : List ContextValue)
      (ih : ∀ v ∈ items, redactItem (redactItem v) = redactItem v) :
      redactItems (redactItems items) = redactItems items := by
    rw [redactItems_eq (redactItems items), redactItems_eq, List.map_map]
    exact List.map_congr_left fun v hv => ih v hv
  induction value using ContextValue.induction with
  | text s => exact hmask s
  | scalar id => exact ⟨rfl, rfl⟩
  | list items ih | tuple items ih =>
      have hsame := hlist items fun v hv => (ih v hv).2
      exact ⟨congrArg ContextValue.list hsame, rfl⟩
  | dict items ih =>
      have hsame := congrArg ContextValue.dict (hdict items fun kv hkv => (ih kv hkv).1)
      exact ⟨hsame, hsame⟩

/-- **When a context is redacted**: exactly when no text that looks like a credential stands
inside a list that is an item of a list. -/
theorem redacted_iff (context : List (String × ContextValue)) : Redacted context ↔
    ∀ path s, (ContextValue.dict context).at? path = some (.text s) → TwiceNested path →
      isSecretLike (.text s) = false := by
  have hat (path : List Place) : (ContextValue.dict (redact context)).at? path =
      ((ContextValue.dict context).at? path).map (madeOf false path) :=
    (at?_redacted path (.dict context)).1
  constructor
  · intro h path s hpath hnested
    refine h.masked path s ?_
    rcases madeOf_cases path with ⟨-, hmade⟩ | ⟨hnot, -⟩
    · rw [hat, hmade, Option.map_id, hpath]
      rfl
    · exact absurd hnested hnot
  · refine fun h => ⟨fun path s hpath => ?_, ?_, fun path value hpath hplain => ?_⟩
    · rw [hat, Option.map_eq_some_iff] at hpath
      obtain ⟨value, hvalue, hmade⟩ := hpath
      rcases madeOf_cases path with ⟨hnested, hid⟩ | ⟨-, hcases⟩
      · rw [hid] at hmade
        exact h path s (hvalue.trans (congrArg some hmade)) hnested
      · exact not_isSecretLike_made hcases hmade
    · exact ContextValue.dict.inj (redactValue_redactValue (.dict context)).1
    · refine ⟨_, by rw [hat, hpath, Option.map_some], ?_⟩
      rcases madeOf_cases path with ⟨-, hid⟩ | ⟨-, hcases⟩
      · rw [hid]
        exact keptAs_self value
      · exact keptAs_made hcases hplain

/-- A key in a list of lists is logged as it is. -/
theorem nested_key_leaks : ¬Redacted [("batch", .list [.list [.text "ak_secret"]])] := by
  rw [redacted_iff]
  intro h
  have hleak := h [.key "batch", .item 0, .item 0] "ak_secret" rfl ⟨[.key "batch"], 0, 0, [], rfl⟩
  exact absurd hleak (by decide)

end Operations
end AgenticCommerce
