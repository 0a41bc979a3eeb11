/-
# Decoded JSON, as the Python code handles it

The values `json.loads` returns and the few operations the services apply to
them: truth (`x or y`), `dict.get`, membership of a key, and `str`.  A float is
kept as its `repr`, since no service computes with one.  `str` of a list or a
dict is a matter of Python's `repr`, which nothing here depends on, so it is the
argument `repr` of `Json.str`.
-/

import Mathlib.Data.Int.Notation

namespace AgenticCommerce

/-- A decoded JSON value. -/
inductive Json where
  | null
  | bool (b : Bool)
  | int (n : ℤ)
  | float (repr : String)
  | str (s : String)
  | arr (items : List Json)
  | obj (items : List (String × Json))
  deriving Inhabited

namespace Json

mutual

/-- Whether two values are the same. -/
def decEq : (x y : Json) → Decidable (x = y)
  | null, null => .isTrue rfl
  | bool a, bool b => decidable_of_iff (a = b) (by rw [bool.injEq])
  | int a, int b => decidable_of_iff (a = b) (by rw [int.injEq])
  | float a, float b => decidable_of_iff (a = b) (by rw [float.injEq])
  | str a, str b => decidable_of_iff (a = b) (by rw [str.injEq])
  | arr a, arr b => have := decEqItems a b; decidable_of_iff (a = b) (by rw [arr.injEq])
  | obj a, obj b => have := decEqFields a b; decidable_of_iff (a = b) (by rw [obj.injEq])
  | null, bool _ | null, int _ | null, float _ | null, str _ | null, arr _ | null, obj _
  | bool _, null | bool _, int _ | bool _, float _ | bool _, str _ | bool _, arr _ | bool _, obj _
  | int _, null | int _, bool _ | int _, float _ | int _, str _ | int _, arr _ | int _, obj _
  | float _, null | float _, bool _ | float _, int _ | float _, str _ | float _, arr _
  | float _, obj _ | str _, null | str _, bool _ | str _, int _ | str _, float _ | str _, arr _
  | str _, obj _ | arr _, null | arr _, bool _ | arr _, int _ | arr _, float _ | arr _, str _
  | arr _, obj _ | obj _, null | obj _, bool _ | obj _, int _ | obj _, float _ | obj _, str _
  | obj _, arr _ => .isFalse nofun

/-- The same for the items of an array. -/
def decEqItems : (x y : List Json) → Decidable (x = y)
  | [], [] => .isTrue rfl
  | [], _ :: _ | _ :: _, [] => .isFalse nofun
  | a :: x, b :: y =>
      have := decEq a b
      have := decEqItems x y
      decidable_of_iff (a = b ∧ x = y) (by rw [List.cons.injEq])

/-- The same for the bindings of an object. -/
def decEqFields : (x y : List (String × Json)) → Decidable (x = y)
  | [], [] => .isTrue rfl
  | [], _ :: _ | _ :: _, [] => .isFalse nofun
  | (k, a) :: x, (l, b) :: y =>
      have := decEq a b
      have := decEqFields x y
      decidable_of_iff ((k = l ∧ a = b) ∧ x = y) (by rw [List.cons.injEq, Prod.mk.injEq])

end

instance : DecidableEq Json := decEq

mutual

/-- **Induction over a value**: over the items of arrays and the values of objects. -/
@[elab_as_elim]
theorem induction {P : Json → Prop}
    (scalar : ∀ v, (∀ items, v ≠ .arr items) → (∀ items, v ≠ .obj items) → P v)
    (arr : ∀ items, (∀ v ∈ items, P v) → P (.arr items))
    (obj : ∀ items, (∀ kv ∈ items, P kv.2) → P (.obj items)) : ∀ v : Json, P v
  | null => scalar _ nofun nofun
  | bool _ => scalar _ nofun nofun
  | int _ => scalar _ nofun nofun
  | float _ => scalar _ nofun nofun
  | str _ => scalar _ nofun nofun
  | .arr items => arr items (inductionItems scalar arr obj items)
  | .obj items => obj items (inductionFields scalar arr obj items)

theorem inductionItems {P : Json → Prop}
    (scalar : ∀ v, (∀ items, v ≠ .arr items) → (∀ items, v ≠ .obj items) → P v)
    (arr : ∀ items, (∀ v ∈ items, P v) → P (.arr items))
    (obj : ∀ items, (∀ kv ∈ items, P kv.2) → P (.obj items)) :
    ∀ items : List Json, ∀ v ∈ items, P v
  | [], _, h => nomatch h
  | item :: items, v, h => (List.mem_cons.1 h).elim (fun heq => heq ▸ induction scalar arr obj item)
      (inductionItems scalar arr obj items v)

theorem inductionFields {P : Json → Prop}
    (scalar : ∀ v, (∀ items, v ≠ .arr items) → (∀ items, v ≠ .obj items) → P v)
    (arr : ∀ items, (∀ v ∈ items, P v) → P (.arr items))
    (obj : ∀ items, (∀ kv ∈ items, P kv.2) → P (.obj items)) :
    ∀ items : List (String × Json), ∀ kv ∈ items, P kv.2
  | [], _, h => nomatch h
  | (_, v) :: items, kv, h => (List.mem_cons.1 h).elim (fun heq => heq ▸ induction scalar arr obj v)
      (inductionFields scalar arr obj items kv)

end

/-- Python's truth value. -/
def truthy : Json → Bool
  | null => false
  | bool b => b
  | int n => n != 0
  | float r => r != "0.0" && r != "-0.0"
  | str s => s != ""
  | arr l => !l.isEmpty
  | obj l => !l.isEmpty

/-- `x or y`. -/
def orElse (x y : Json) : Json := if x.truthy then x else y

/-- `str(x)`, with `repr` for the containers. -/
def toStr (repr : Json → String) : Json → String
  | null => "None"
  | bool b => if b then "True" else "False"
  | int n => toString n
  | float r => r
  | str s => s
  | x => repr x

/-- The value of the last binding of a key, which is the one a decoded object keeps. -/
def lookup (items : List (String × Json)) (k : String) : Option Json :=
  items.foldl (fun found kv => if kv.1 = k then some kv.2 else found) none

/-- `x.get(k, default)`; only a dict has the method. -/
def get (x : Json) (k : String) (default : Json) : Option Json :=
  match x with
  | obj items => some ((lookup items k).getD default)
  | _ => none

/-- `k in x`, for a dict. -/
def hasKey (x : Json) (k : String) : Bool :=
  match x with
  | obj items => (lookup items k).isSome
  | _ => false

/-- The text a value is. -/
def str? : Json → Option String
  | str s => some s
  | _ => none

/-- `x[k]`; only a dict has items by name. -/
def item? (x : Json) (k : String) : Option Json :=
  match x with
  | obj items => lookup items k
  | _ => none

/-- The whole number a value is. -/
def int? : Json → Option ℤ
  | int n => some n
  | _ => none

/-- The items of a list. -/
def arr? : Json → Option (List Json)
  | arr items => some items
  | _ => none

/-- A text or `None`. -/
def strOrNull? : Json → Option (Option String)
  | null => some none
  | str s => some (some s)
  | _ => none

/-- A string, when there is one. -/
def ofOption : Option String → Json
  | some s => str s
  | none => null

end Json
end AgenticCommerce
