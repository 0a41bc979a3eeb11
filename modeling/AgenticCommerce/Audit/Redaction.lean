/-
# What the ledger keeps of metadata

What `_safe_metadata` of `services/audit/repository.py` leaves of a value, however it is nested.
Every value under a sensitive key is redacted, and so is every text that looks like a credential;
all else stays, and a second pass changes nothing.

Only values are redacted, though: a key is written as it is, even one that is a credential
(`key_leaks`).  `redaction_iff` says that this is the only way in which a credential gets through.
-/

import AgenticCommerce.Audit

namespace AgenticCommerce
namespace Audit

/-- The key is sensitive, and not one of those known to be safe. -/
def sensitiveKey (key : String) : Bool := unsafeKey key && sensitive key

/-- What is redacted under a key: everything if that is sensitive, and texts like credentials. -/
def mustRedact (key : String) : Json → Bool
  | .str s => sensitiveKey key || hasSecret s.toList || (unsafeKey key && isEntropy s.toList)
  | _ => sensitiveKey key

mutual

/-- The texts of a value, keys and values, at any depth. -/
def texts : Json → List String
  | .str s => [s]
  | .arr items => textsOfItems items
  | .obj items => textsOfFields items
  | _ => []

/-- The same of the items of an array. -/
def textsOfItems : List Json → List String
  | [] => []
  | v :: items => texts v ++ textsOfItems items

/-- The same of the bindings of an object, with the keys. -/
def textsOfFields : List (String × Json) → List String
  | [] => []
  | (k, v) :: items => k :: texts v ++ textsOfFields items

end

mutual

/-- The keys that are written for a value under a key: those that are in nothing redacted. -/
def writtenKeys (key : String) : Json → List String
  | .arr items => if sensitiveKey key then [] else writtenKeysOfItems items
  | .obj items => if sensitiveKey key then [] else writtenKeysOfFields items
  | _ => []

/-- The same of the items of an array. -/
def writtenKeysOfItems : List Json → List String
  | [] => []
  | v :: items => writtenKeys "" v ++ writtenKeysOfItems items

/-- The same of the bindings of an object. -/
def writtenKeysOfFields : List (String × Json) → List String
  | [] => []
  | (k, v) :: items => k :: writtenKeys k v ++ writtenKeysOfFields items

end

/-- A binding stands somewhere in a value. -/
inductive Binds (k : String) (x : Json) : Json → Prop
  | here {items : List (String × Json)} (h : (k, x) ∈ items) : Binds k x (.obj items)
  | item {v : Json} {items : List Json} (hv : v ∈ items) (h : Binds k x v) : Binds k x (.arr items)
  | field {l : String} {v : Json} {items : List (String × Json)} (hv : (l, v) ∈ items)
      (h : Binds k x v) : Binds k x (.obj items)

/-- What is left of a value under a key: the mark, if it must be redacted, or else the value, with
what is in it treated so. -/
inductive Leaves : String → Json → Json → Prop
  | mark {key : String} {v : Json} (h : mustRedact key v = true) : Leaves key v redacted
  | same {key : String} {v : Json} (h : mustRedact key v = false) (harr : ∀ items, v ≠ .arr items)
      (hobj : ∀ items, v ≠ .obj items) : Leaves key v v
  | arr {key : String} {items items' : List Json} (h : mustRedact key (.arr items) = false)
      (hitems : List.Forall₂ (Leaves "") items items') : Leaves key (.arr items) (.arr items')
  | obj {key : String} {items items' : List (String × Json)}
      (h : mustRedact key (.obj items) = false) (hkeys : items'.map Prod.fst = items.map Prod.fst)
      (hitems : List.Forall₂ (fun kv kv' => Leaves kv.1 kv.2 kv'.2) items items') :
      Leaves key (.obj items) (.obj items')

/-- **Redaction is complete**, for a value under a key: no text of the result, key or value, has a
credential in it; what is bound to a sensitive key is the mark; a second pass changes nothing; and
everything else is as it was. -/
structure Complete (key : String) (v : Json) : Prop where
  clean : ∀ s ∈ texts (safeMetadata key v), hasSecret s.toList = false
  sensitive : ∀ k x, Binds k x (safeMetadata key v) → sensitiveKey k = true → x = redacted
  idempotent : safeMetadata key (safeMetadata key v) = safeMetadata key v
  preserves : Leaves key v (safeMetadata key v)

/-! ### What the function does -/

section

variable {key : String} {v : Json} {items : List Json} {fields : List (String × Json)}

theorem safeItems_eq : ∀ items : List Json, safeItems items = items.map (safeMetadata "")
  | [] => rfl
  | _ :: items => by rw [safeItems, safeItems_eq items, List.map_cons]

theorem safeFields_eq : ∀ fields : List (String × Json),
    safeFields fields = fields.map fun kv => (kv.1, safeMetadata kv.1 kv.2)
  | [] => rfl
  | (_, _) :: fields => by rw [safeFields, safeFields_eq fields, List.map_cons]

theorem textsOfItems_eq : ∀ items : List Json, textsOfItems items = items.flatMap texts
  | [] => rfl
  | _ :: items => by rw [textsOfItems, textsOfItems_eq items, List.flatMap_cons]

theorem textsOfFields_eq : ∀ fields : List (String × Json),
    textsOfFields fields = fields.flatMap fun kv => kv.1 :: texts kv.2
  | [] => rfl
  | (_, _) :: fields => by rw [textsOfFields, textsOfFields_eq fields, List.flatMap_cons]

theorem writtenKeysOfItems_eq : ∀ items : List Json,
    writtenKeysOfItems items = items.flatMap (writtenKeys "")
  | [] => rfl
  | _ :: items => by rw [writtenKeysOfItems, writtenKeysOfItems_eq items, List.flatMap_cons]

theorem writtenKeysOfFields_eq : ∀ fields : List (String × Json),
    writtenKeysOfFields fields = fields.flatMap fun kv => kv.1 :: writtenKeys kv.1 kv.2
  | [] => rfl
  | (_, _) :: fields => by
      rw [writtenKeysOfFields, writtenKeysOfFields_eq fields, List.flatMap_cons]

/-- What must be redacted is. -/
theorem safeMetadata_of_must (h : mustRedact key v = true) : safeMetadata key v = redacted := by
  cases v with
  | str s =>
      rw [safeMetadata]
      rw [mustRedact, sensitiveKey, Bool.or_eq_true, Bool.or_eq_true] at h
      split_ifs with hsensitive hsecret hentropy
      · rfl
      · rfl
      · rfl
      · simp_all
  | null => exact if_pos h
  | bool b => exact if_pos h
  | int n => exact if_pos h
  | float r => exact if_pos h
  | arr items =>
      rw [safeMetadata]
      exact if_pos h
  | obj fields =>
      rw [safeMetadata]
      exact if_pos h

theorem mustRedact_of_sensitive (h : sensitiveKey key = true) : mustRedact key v = true := by
  cases v <;> simp [mustRedact, h]

/-- Everything under a sensitive key is redacted. -/
theorem safeMetadata_of_sensitive (h : sensitiveKey key = true) : safeMetadata key v = redacted :=
  safeMetadata_of_must (mustRedact_of_sensitive h)

/-- A value without parts stays. -/
theorem safeMetadata_of_scalar (h : mustRedact key v = false) (harr : ∀ items, v ≠ .arr items)
    (hobj : ∀ fields, v ≠ .obj fields) : safeMetadata key v = v := by
  cases v with
  | str s =>
      rw [mustRedact, sensitiveKey, Bool.or_eq_false_iff, Bool.or_eq_false_iff] at h
      rw [safeMetadata, h.1.1, h.1.2, h.2]
      rfl
  | null => exact if_neg (Bool.eq_false_iff.1 h)
  | bool b => exact if_neg (Bool.eq_false_iff.1 h)
  | int n => exact if_neg (Bool.eq_false_iff.1 h)
  | float r => exact if_neg (Bool.eq_false_iff.1 h)
  | arr items => exact absurd rfl (harr items)
  | obj fields => exact absurd rfl (hobj fields)

/-- The items of an array are treated under no key. -/
theorem safeMetadata_arr (h : sensitiveKey key = false) :
    safeMetadata key (.arr items) = .arr (items.map (safeMetadata "")) := by
  rw [safeMetadata, ← safeItems_eq]
  exact if_neg (Bool.eq_false_iff.1 h)

/-- The values of an object are treated under their keys. -/
theorem safeMetadata_obj (h : sensitiveKey key = false) :
    safeMetadata key (.obj fields) =
      .obj (fields.map fun kv => (kv.1, safeMetadata kv.1 kv.2)) := by
  rw [safeMetadata, ← safeFields_eq]
  exact if_neg (Bool.eq_false_iff.1 h)

/-- The mark looks like no credential. -/
theorem mark_clean : hasSecret "***REDACTED***".toList = false ∧
    isEntropy "***REDACTED***".toList = false := by
  decide

/-- The mark stays, under any key. -/
theorem safeMetadata_redacted : safeMetadata key redacted = redacted := by
  cases h : mustRedact key redacted with
  | true => exact safeMetadata_of_must h
  | false => exact safeMetadata_of_scalar h nofun nofun

end

/-! ### What the result is like -/

/-- **What is written**: a text of the result is a key that is written, or has no credential. -/
theorem texts_safeMetadata (v : Json) : ∀ key, ∀ s ∈ texts (safeMetadata key v),
    s ∈ writtenKeys key v ∨ hasSecret s.toList = false := by
  have hmark : ∀ s ∈ texts redacted, hasSecret s.toList = false := by
    intro s hs
    rw [List.mem_singleton.1 hs]
    exact mark_clean.1
  induction v using Json.induction with
  | scalar v harr hobj =>
      intro key s hs
      cases h : mustRedact key v with
      | true =>
          rw [safeMetadata_of_must h] at hs
          exact .inr (hmark s hs)
      | false =>
          rw [safeMetadata_of_scalar h harr hobj] at hs
          cases v with
          | str text =>
              rw [List.mem_singleton.1 hs]
              rw [mustRedact, Bool.or_eq_false_iff, Bool.or_eq_false_iff] at h
              exact .inr h.1.2
          | null => cases hs
          | bool b => cases hs
          | int n => cases hs
          | float r => cases hs
          | arr items => exact absurd rfl (harr items)
          | obj fields => exact absurd rfl (hobj fields)
  | arr items ih =>
      intro key s hs
      cases h : sensitiveKey key with
      | true =>
          rw [safeMetadata_of_sensitive h] at hs
          exact .inr (hmark s hs)
      | false =>
          rw [safeMetadata_arr h, texts, textsOfItems_eq, List.mem_flatMap] at hs
          obtain ⟨v', hv', hs⟩ := hs
          obtain ⟨v, hv, rfl⟩ := List.mem_map.1 hv'
          refine (ih v hv "" s hs).imp_left fun hkey => ?_
          rw [writtenKeys, if_neg (Bool.eq_false_iff.1 h), writtenKeysOfItems_eq]
          exact List.mem_flatMap.2 ⟨v, hv, hkey⟩
  | obj fields ih =>
      intro key s hs
      cases h : sensitiveKey key with
      | true =>
          rw [safeMetadata_of_sensitive h] at hs
          exact .inr (hmark s hs)
      | false =>
          rw [safeMetadata_obj h, texts, textsOfFields_eq, List.mem_flatMap] at hs
          obtain ⟨kv', hkv', hs⟩ := hs
          obtain ⟨kv, hkv, rfl⟩ := List.mem_map.1 hkv'
          rw [writtenKeys, if_neg (Bool.eq_false_iff.1 h), writtenKeysOfFields_eq]
          rcases List.mem_cons.1 hs with rfl | hs
          · exact .inl (List.mem_flatMap.2 ⟨kv, hkv, List.mem_cons_self⟩)
          · refine (ih kv hkv kv.1 s hs).imp_left fun hkey => ?_
            exact List.mem_flatMap.2 ⟨kv, hkv, List.mem_cons_of_mem _ hkey⟩

/-- The keys that are written are texts of the result. -/
theorem writtenKeys_subset (v : Json) : ∀ key, ∀ k ∈ writtenKeys key v,
    k ∈ texts (safeMetadata key v) := by
  induction v using Json.induction with
  | scalar v harr hobj =>
      intro key k hk
      cases v with
      | arr items => exact absurd rfl (harr items)
      | obj fields => exact absurd rfl (hobj fields)
      | null => cases hk
      | bool b => cases hk
      | int n => cases hk
      | float r => cases hk
      | str s => cases hk
  | arr items ih =>
      intro key k hk
      rw [writtenKeys] at hk
      split_ifs at hk with h
      · cases hk
      · rw [safeMetadata_arr (Bool.eq_false_iff.2 h), texts, textsOfItems_eq]
        rw [writtenKeysOfItems_eq] at hk
        obtain ⟨v, hv, hk⟩ := List.mem_flatMap.1 hk
        exact List.mem_flatMap.2 ⟨_, List.mem_map_of_mem hv, ih v hv "" k hk⟩
  | obj fields ih =>
      intro key k hk
      rw [writtenKeys] at hk
      split_ifs at hk with h
      · cases hk
      · rw [safeMetadata_obj (Bool.eq_false_iff.2 h), texts, textsOfFields_eq]
        rw [writtenKeysOfFields_eq] at hk
        obtain ⟨kv, hkv, hk⟩ := List.mem_flatMap.1 hk
        refine List.mem_flatMap.2 ⟨_, List.mem_map_of_mem hkv, ?_⟩
        rcases List.mem_cons.1 hk with rfl | hk
        · exact List.mem_cons_self
        · exact List.mem_cons_of_mem _ (ih kv hkv kv.1 k hk)

/-- **What is bound to a sensitive key is the mark.** -/
theorem eq_redacted_of_binds (v : Json) : ∀ key k x, Binds k x (safeMetadata key v) →
    sensitiveKey k = true → x = redacted := by
  induction v using Json.induction with
  | scalar v harr hobj =>
      intro key k x hbinds
      cases h : mustRedact key v with
      | true =>
          rw [safeMetadata_of_must h] at hbinds
          cases hbinds
      | false =>
          rw [safeMetadata_of_scalar h harr hobj] at hbinds
          cases hbinds with
          | here hmem => exact absurd rfl (hobj _)
          | item hmem hbinds => exact absurd rfl (harr _)
          | field hmem hbinds => exact absurd rfl (hobj _)
  | arr items ih =>
      intro key k x hbinds
      cases h : sensitiveKey key with
      | true =>
          rw [safeMetadata_of_sensitive h] at hbinds
          cases hbinds
      | false =>
          rw [safeMetadata_arr h] at hbinds
          cases hbinds with
          | item hmem hbinds =>
              obtain ⟨v, hv, rfl⟩ := List.mem_map.1 hmem
              exact ih v hv "" k x hbinds
  | obj fields ih =>
      intro key k x hbinds hk
      cases h : sensitiveKey key with
      | true =>
          rw [safeMetadata_of_sensitive h] at hbinds
          cases hbinds
      | false =>
          rw [safeMetadata_obj h] at hbinds
          cases hbinds with
          | here hmem =>
              obtain ⟨kv, hkv, heq⟩ := List.mem_map.1 hmem
              obtain ⟨rfl, rfl⟩ := Prod.mk.inj heq
              exact safeMetadata_of_sensitive hk
          | field hmem hbinds =>
              obtain ⟨kv, hkv, heq⟩ := List.mem_map.1 hmem
              obtain ⟨rfl, rfl⟩ := Prod.mk.inj heq
              exact ih kv hkv kv.1 k x hbinds hk

/-- **A second pass changes nothing.** -/
theorem safeMetadata_idem (v : Json) :
    ∀ key, safeMetadata key (safeMetadata key v) = safeMetadata key v := by
  induction v using Json.induction with
  | scalar v harr hobj =>
      intro key
      cases h : mustRedact key v with
      | true => rw [safeMetadata_of_must h, safeMetadata_redacted]
      | false => rw [safeMetadata_of_scalar h harr hobj, safeMetadata_of_scalar h harr hobj]
  | arr items ih =>
      intro key
      cases h : sensitiveKey key with
      | true => rw [safeMetadata_of_sensitive h, safeMetadata_of_sensitive h]
      | false =>
          rw [safeMetadata_arr h, safeMetadata_arr h, List.map_map]
          exact congrArg Json.arr (List.map_congr_left fun v hv => ih v hv "")
  | obj fields ih =>
      intro key
      cases h : sensitiveKey key with
      | true => rw [safeMetadata_of_sensitive h, safeMetadata_of_sensitive h]
      | false =>
          rw [safeMetadata_obj h, safeMetadata_obj h, List.map_map]
          refine congrArg Json.obj (List.map_congr_left fun kv hkv => ?_)
          exact congrArg (Prod.mk kv.1) (ih kv hkv kv.1)

/-- **Everything else is as it was.** -/
theorem leaves_safeMetadata (v : Json) : ∀ key, Leaves key v (safeMetadata key v) := by
  induction v using Json.induction with
  | scalar v harr hobj =>
      intro key
      cases h : mustRedact key v with
      | true =>
          rw [safeMetadata_of_must h]
          exact .mark h
      | false =>
          rw [safeMetadata_of_scalar h harr hobj]
          exact .same h harr hobj
  | arr items ih =>
      intro key
      cases h : sensitiveKey key with
      | true =>
          rw [safeMetadata_of_sensitive h]
          exact .mark (mustRedact_of_sensitive h)
      | false =>
          rw [safeMetadata_arr h]
          refine .arr h (List.forall₂_map_right_iff.2 (List.forall₂_same.2 fun v hv => ih v hv ""))
  | obj fields ih =>
      intro key
      cases h : sensitiveKey key with
      | true =>
          rw [safeMetadata_of_sensitive h]
          exact .mark (mustRedact_of_sensitive h)
      | false =>
          rw [safeMetadata_obj h]
          refine .obj h (by rw [List.map_map]; rfl) ?_
          exact List.forall₂_map_right_iff.2 (List.forall₂_same.2 fun kv hkv => ih kv hkv kv.1)

/-- **When redaction is complete**, for a value under a key, however nested: no key that is written
has a credential in it. -/
theorem redaction_iff (key : String) (v : Json) :
    Complete key v ↔ ∀ k ∈ writtenKeys key v, hasSecret k.toList = false := by
  constructor
  · exact fun h k hk => h.clean k (writtenKeys_subset v key k hk)
  · refine fun h => ⟨fun s hs => ?_, eq_redacted_of_binds v key, safeMetadata_idem v key,
      leaves_safeMetadata v key⟩
    exact (texts_safeMetadata v key s hs).elim (h s) id

/-- Metadata with an API key for a key. -/
def keyedMetadata : Json := .obj [("sk-live12345678", .int 1)]

/-- **A key leaks**: a key that is a credential is written as it is. -/
theorem key_leaks : ¬ Complete "" keyedMetadata := by
  intro h
  have hwritten : "sk-live12345678" ∈ writtenKeys "" keyedMetadata := by decide +kernel
  have hleaked := h.clean _ (writtenKeys_subset keyedMetadata "" _ hwritten)
  exact absurd hleaked (by decide)

end Audit
end AgenticCommerce
