/-
# What redaction leaves of a value

What `redact` of `packages/observability/logging.py` writes of a value, however nested: the keys
that are texts, as they are, and the texts that are not too deep and under no sensitive key,
scrubbed.
So redaction gives nothing away exactly when the former have no credential and the latter no odd URL
(`discreet_redact_iff`).
-/

import AgenticCommerce.Audit.Redaction
import AgenticCommerce.Observability.Scrubbing

namespace AgenticCommerce
namespace Logging

open Audit (texts textsOfItems_eq textsOfFields_eq Binds)

/-- **A JSON value gives no credential away**, at any depth. -/
structure Discreet (words : WordChars) (line : Json) : Prop where
  clean : ∀ s ∈ texts line, Clean words s.toList
  sensitive : ∀ k v, Binds k v line → isSensitiveKey k = true → v = .str redactedMark

/-- A text that is written: as it is, or scrubbed. -/
inductive Written where
  | shown (s : String)
  | scrubbed (s : String)

/-- What is written. -/
def Written.text (words : WordChars) : Written → String
  | shown s => s
  | scrubbed s => scrubValueShape words s

/-- No credential is written: there is none, or, of a text that is scrubbed, it has no odd URL. -/
def Written.Fine (words : WordChars) : Written → Prop
  | shown s => Clean words s.toList
  | scrubbed s => ¬ OddUrl words s.toList

/-- The keys that are texts are written as they are. -/
def LogKey.written : LogKey → List Written
  | text s => [.shown s]
  | _ => []

mutual

/-- The texts of a value that redaction writes: those not too deep, and under no sensitive key. -/
def written (depth : ℕ) : LogValue → List Written
  | .dict items => if maxDepth < depth then [] else writtenFields (depth + 1) items
  | .list items => if maxDepth < depth then [] else writtenItems (depth + 1) items
  | .set items _ => if maxDepth < depth then [] else writtenItems (depth + 1) items
  | .text s => if maxDepth < depth then [] else [.scrubbed s]
  | .object repr _ => if maxDepth < depth then [] else [.scrubbed repr]
  | _ => []

/-- The same of the items of a sequence. -/
def writtenItems (depth : ℕ) : List LogValue → List Written
  | [] => []
  | item :: items => written depth item ++ writtenItems depth items

/-- The same of the bindings of a dictionary, with the keys. -/
def writtenFields (depth : ℕ) : List (LogKey × LogValue) → List Written
  | [] => []
  | (key, item) :: items =>
      key.written ++ (if key.sensitive then [] else written depth item) ++ writtenFields depth items

end

/-! ### Texts without letters of a pattern -/

section

variable {words : WordChars}

/-- What an expression does not find anywhere it does not find behind a boundary. -/
theorem wordSearch_eq_false {r : Regex} : ∀ {text : List Char} {before : Option Char},
    r.search text = false → Regex.wordSearch words.isWord r before text = false
  | [], before, h => by
      have hnil := Regex.matchesHere_eq_false_iff.1 h
      rw [Regex.wordSearch, Regex.wordRests, hnil, ite_self]
      rfl
  | c :: text, before, h => by
      obtain ⟨hhere, hthere⟩ := Bool.or_eq_false_iff.1 h
      rw [Regex.wordSearch, Regex.wordRests, Regex.matchesHere_eq_false_iff.1 hhere, ite_self,
        wordSearch_eq_false hthere]
      rfl

/-- A text without a slash in which no pattern matches is clean. -/
theorem clean_of_search {text : List Char} (hslash : '/' ∉ text)
    (h : ∀ p ∈ valuePatterns, p.search text = false) : Clean words text := by
  refine ⟨fun p hp => wordSearch_eq_false (h p hp), ?_⟩
  rintro ⟨user, password, ⟨⟨before, after, rfl⟩, -, -, -⟩, -⟩
  exact hslash (by simp)

theorem clean_redactedMark : Clean words redactedMark.toList :=
  clean_of_search (by decide) (by decide)

theorem clean_truncatedMark : Clean words truncatedMark.toList :=
  clean_of_search (by decide) (by decide)

/-- No match begins where only characters follow with which none does. -/
theorem search_eq_false_of_mayBegin {q : Regex} (hq : q.consumes = true) {text : List Char}
    (h : ∀ c ∈ text, q.mayBegin c = false) : q.search text = false := by
  refine Bool.eq_false_iff.2 fun hsearch => ?_
  obtain ⟨rest, hrest, hhere⟩ := (Regex.search_iff q).1 hsearch
  have hnil : q.rests rest = [] := Regex.rests_eq_nil_of_mayBegin hq fun c hc =>
    h c (hrest.subset (List.mem_of_mem_head? hc))
  rw [Regex.matchesHere_eq_false_iff.2 hnil] at hhere
  cases hhere

theorem jwt_rests : ∀ {text : List Char}, 'y' ∉ text → jwt.rests text = []
  | [], _ => rfl
  | [c], _ => by simp [jwt, verbatim, Regex.spelled, Regex.all, Regex.rests]
  | c :: d :: text, h => by
      have hd : d ≠ 'y' := fun heq => h (by simp [heq])
      by_cases hc : c = 'e' <;>
        simp [jwt, verbatim, Regex.spelled, Regex.all, Regex.rests, hc, hd]

/-- Of the letters with which a credential begins a number has but one. -/
theorem eq_e_of_numeral : ∀ c ∈ firstLetters, isNumeralChar c = true → c = 'e' :=
  Strings.forall_mem_of_all (by decide)

/-- A number or a point in time is clean. -/
theorem clean_numeral (n : Numeral) : Clean words n.text.toList := by
  refine clean_of_search (fun h => absurd (n.plain _ h) (by decide)) ?_
  have hother : ∀ p ∈ valuePatterns, p.mayBegin 'e' = false → p.search n.text.toList = false := by
    intro p hp he
    refine search_eq_false_of_mayBegin (patterns_mark p hp).1 fun c hc => ?_
    refine Bool.eq_false_iff.2 fun hbegin => ?_
    rw [eq_e_of_numeral c (mem_firstLetters p hp c hbegin) (n.plain c hc), he] at hbegin
    cases hbegin
  -- a JWT begins so, and goes on with another letter
  have hjwt : jwt.search n.text.toList = false := by
    have hy : 'y' ∉ n.text.toList := fun h => absurd (n.plain _ h) (by decide)
    refine Bool.eq_false_iff.2 fun hsearch => ?_
    obtain ⟨rest, hrest, hhere⟩ := (Regex.search_iff jwt).1 hsearch
    have hnil := jwt_rests fun h => hy (hrest.subset h)
    rw [Regex.matchesHere_eq_false_iff.2 hnil] at hhere
    cases hhere
  refine forall_patterns (hother _ ?_ ?_) (hother _ ?_ ?_) (hother _ ?_ ?_) (hother _ ?_ ?_) hjwt
    (hother _ ?_ ?_)
  all_goals first
    | decide
    | simp [valuePatterns]

/-- In small letters a number has one letter more. -/
theorem toLower_of_numeral {c : Char} (h : isNumeralChar c = true) :
    (isNumeralChar c.toLower || c.toLower == 't') = true := by
  by_cases hT : c = 'T'
  · rw [hT]
    rfl
  · have hlower : c.toLower = c := by
      refine dif_neg ?_
      rintro ⟨hlow, hhigh⟩
      simp only [isNumeralChar, Bool.or_eq_true, beq_iff_eq, hT, or_false] at h
      rcases h with (((((h | rfl) | rfl) | rfl) | rfl) | rfl)
      · simp only [Char.isDigit, Bool.and_eq_true, decide_eq_true_eq] at h
        exact absurd (UInt32.le_trans hlow h.2) (by decide)
      all_goals revert hlow hhigh; decide
    rw [hlower, h]
    rfl

/-- A number is not a sensitive key. -/
theorem isSensitiveKey_numeral (n : Numeral) : isSensitiveKey n.text = false := by
  have hparts : (sensitiveKeyParts.all fun part =>
      part.toList.any fun c => !(isNumeralChar c || c == 't')) = true := by decide
  have hlower : ∀ c ∈ (Audit.lowerKey n.text).toList, (isNumeralChar c || c == 't') = true := by
    intro c hc
    rw [Audit.lowerKey, String.toList_map] at hc
    obtain ⟨d, hd, rfl⟩ := List.mem_map.1 hc
    have hkelvin : d ≠ Regex.kelvin := fun h => absurd (h ▸ n.plain d hd) (by decide)
    rw [if_neg hkelvin]
    exact toLower_of_numeral (n.plain d hd)
  rw [isSensitiveKey, Bool.and_eq_false_iff]
  refine .inr (Bool.eq_false_iff.2 fun hany => ?_)
  obtain ⟨part, hpart, hcontains⟩ := List.any_eq_true.1 hany
  obtain ⟨c, hc, hnot⟩ := List.any_eq_true.1 (List.all_eq_true.1 hparts part hpart)
  rw [Bool.not_eq_true'] at hnot
  have hmem := hlower c ((Strings.contains_iff.1 hcontains).subset hc)
  rw [hnot] at hmem
  cases hmem

/-- A key that is no text is clean. -/
theorem LogKey.shown_or_clean (key : LogKey) :
    (∃ w ∈ key.written, w.text words = key.dumps) ∨ Clean words key.dumps.toList := by
  cases key with
  | text s => exact .inl ⟨.shown s, List.mem_singleton_self _, rfl⟩
  | number n => exact .inr (clean_numeral n)
  | bool b => cases b <;> exact .inr (clean_of_search (by decide) (by decide))
  | none => exact .inr (clean_of_search (by decide) (by decide))

/-- A key that is no text is not sensitive. -/
theorem LogKey.isSensitiveKey_dumps (key : LogKey) : isSensitiveKey key.dumps = key.sensitive := by
  cases key with
  | text s => rfl
  | number n => exact isSensitiveKey_numeral n
  | bool b => cases b <;> decide +kernel
  | none => decide +kernel

theorem LogKey.text_of_written {key : LogKey} {w : Written} (h : w ∈ key.written) :
    w.text words = key.dumps := by
  cases key with
  | text s =>
      rw [List.mem_singleton.1 h]
      rfl
  | number n => cases h
  | bool b => cases h
  | none => cases h

/-- **What is written is clean when it is fine.** -/
theorem Written.clean_text_iff (w : Written) :
    Clean words (w.text words).toList ↔ w.Fine words := by
  cases w with
  | shown s => exact Iff.rfl
  | scrubbed s =>
      rw [Written.text, scrubValueShape, String.toList_ofList]
      exact clean_scrub_iff words s.toList

/-! ### What redaction leaves of a value -/

mutual

/-- **Induction over a value**: over the items of sequences and the values of dictionaries. -/
@[elab_as_elim]
theorem LogValue.induction {P : LogValue → Prop}
    (scalar : ∀ v, (∀ items, v ≠ .list items) → (∀ items str, v ≠ .set items str) →
      (∀ items, v ≠ .dict items) → P v)
    (list : ∀ items, (∀ v ∈ items, P v) → P (.list items))
    (set : ∀ items str, (∀ v ∈ items, P v) → P (.set items str))
    (dict : ∀ items, (∀ kv ∈ items, P kv.2) → P (.dict items)) : ∀ v : LogValue, P v
  | .none => scalar _ nofun nofun nofun
  | .bool _ => scalar _ nofun nofun nofun
  | .int _ => scalar _ nofun nofun nofun
  | .float _ => scalar _ nofun nofun nofun
  | .text _ => scalar _ nofun nofun nofun
  | .object _ _ => scalar _ nofun nofun nofun
  | .list items => list items (LogValue.inductionItems scalar list set dict items)
  | .set items str => set items str (LogValue.inductionItems scalar list set dict items)
  | .dict items => dict items (LogValue.inductionFields scalar list set dict items)

theorem LogValue.inductionItems {P : LogValue → Prop}
    (scalar : ∀ v, (∀ items, v ≠ .list items) → (∀ items str, v ≠ .set items str) →
      (∀ items, v ≠ .dict items) → P v)
    (list : ∀ items, (∀ v ∈ items, P v) → P (.list items))
    (set : ∀ items str, (∀ v ∈ items, P v) → P (.set items str))
    (dict : ∀ items, (∀ kv ∈ items, P kv.2) → P (.dict items)) :
    ∀ items : List LogValue, ∀ v ∈ items, P v
  | [], _, h => nomatch h
  | item :: items, v, h => (List.mem_cons.1 h).elim
      (fun heq => heq ▸ LogValue.induction scalar list set dict item)
      (LogValue.inductionItems scalar list set dict items v)

theorem LogValue.inductionFields {P : LogValue → Prop}
    (scalar : ∀ v, (∀ items, v ≠ .list items) → (∀ items str, v ≠ .set items str) →
      (∀ items, v ≠ .dict items) → P v)
    (list : ∀ items, (∀ v ∈ items, P v) → P (.list items))
    (set : ∀ items str, (∀ v ∈ items, P v) → P (.set items str))
    (dict : ∀ items, (∀ kv ∈ items, P kv.2) → P (.dict items)) :
    ∀ items : List (LogKey × LogValue), ∀ kv ∈ items, P kv.2
  | [], _, h => nomatch h
  | (_, v) :: items, kv, h => (List.mem_cons.1 h).elim
      (fun heq => heq ▸ LogValue.induction scalar list set dict v)
      (LogValue.inductionFields scalar list set dict items kv)

end

theorem dumpsItems_eq : ∀ items : List LogValue, dumpsItems items = items.map dumps
  | [] => rfl
  | _ :: items => by rw [dumpsItems, dumpsItems_eq items, List.map_cons]

theorem dumpsFields_eq : ∀ items : List (LogKey × LogValue),
    dumpsFields items = items.map fun kv => (kv.1.dumps, dumps kv.2)
  | [] => rfl
  | (_, _) :: items => by rw [dumpsFields, dumpsFields_eq items, List.map_cons]

theorem redactItems_eq (depth : ℕ) : ∀ items : List LogValue,
    redactItems words depth items = items.map (redact words depth)
  | [] => rfl
  | _ :: items => by rw [redactItems, redactItems_eq depth items, List.map_cons]

/-- What is made of a value under a key. -/
def redactUnder (words : WordChars) (depth : ℕ) (kv : LogKey × LogValue) : LogKey × LogValue :=
  (kv.1, if kv.1.sensitive then .text redactedMark else redact words depth kv.2)

theorem redactFields_eq (depth : ℕ) : ∀ items : List (LogKey × LogValue),
    redactFields words depth items = items.map (redactUnder words depth)
  | [] => rfl
  | (_, _) :: items => by
      rw [redactFields, redactFields_eq depth items, List.map_cons]
      rfl

theorem writtenItems_eq (depth : ℕ) : ∀ items : List LogValue,
    writtenItems depth items = items.flatMap (written depth)
  | [] => rfl
  | _ :: items => by rw [writtenItems, writtenItems_eq depth items, List.flatMap_cons]

theorem writtenFields_eq (depth : ℕ) : ∀ items : List (LogKey × LogValue),
    writtenFields depth items = items.flatMap fun kv =>
      kv.1.written ++ if kv.1.sensitive then [] else written depth kv.2
  | [] => rfl
  | (_, _) :: items => by rw [writtenFields, writtenFields_eq depth items, List.flatMap_cons]

/-- What is too deep is cut off. -/
theorem redact_of_deep {depth : ℕ} (h : maxDepth < depth) (v : LogValue) :
    redact words depth v = .text truncatedMark := by
  cases v <;> simp [redact, h]

theorem written_of_deep {depth : ℕ} (h : maxDepth < depth) (v : LogValue) :
    written depth v = [] := by
  cases v <;> simp [written, h]

theorem redact_list {depth : ℕ} (h : ¬ maxDepth < depth) (items : List LogValue) :
    redact words depth (.list items) = .list (items.map (redact words (depth + 1))) := by
  rw [redact, if_neg h, redactItems_eq]

theorem redact_set {depth : ℕ} (h : ¬ maxDepth < depth) (items : List LogValue) (str : String) :
    redact words depth (.set items str) = .list (items.map (redact words (depth + 1))) := by
  rw [redact, if_neg h, redactItems_eq]

theorem redact_dict {depth : ℕ} (h : ¬ maxDepth < depth) (items : List (LogKey × LogValue)) :
    redact words depth (.dict items) = .dict (items.map (redactUnder words (depth + 1))) := by
  rw [redact, if_neg h, redactFields_eq]

theorem texts_list (items : List LogValue) :
    texts (dumps (.list items)) = items.flatMap fun v => texts (dumps v) := by
  rw [dumps, texts, textsOfItems_eq, dumpsItems_eq, List.flatMap_map]

theorem texts_dict (items : List (LogKey × LogValue)) :
    texts (dumps (.dict items)) = items.flatMap fun kv => kv.1.dumps :: texts (dumps kv.2) := by
  rw [dumps, texts, textsOfFields_eq, dumpsFields_eq, List.flatMap_map]

/-- A text of the result is one that is written, or clean. -/
theorem texts_redact (v : LogValue) : ∀ depth, ∀ s ∈ texts (dumps (redact words depth v)),
    (∃ w ∈ written depth v, w.text words = s) ∨ Clean words s.toList := by
  have hdeep : ∀ depth v, maxDepth < depth → ∀ s ∈ texts (dumps (redact words depth v)),
      Clean words s.toList := by
    intro depth v h s hs
    rw [redact_of_deep h v] at hs
    rw [List.mem_singleton.1 hs]
    exact clean_truncatedMark
  have hitems : ∀ depth (items : List LogValue),
      (∀ v ∈ items, ∀ s ∈ texts (dumps (redact words depth v)),
        (∃ w ∈ written depth v, w.text words = s) ∨ Clean words s.toList) →
      ∀ s ∈ texts (dumps (.list (items.map (redact words depth)))),
        (∃ w ∈ writtenItems depth items, w.text words = s) ∨ Clean words s.toList := by
    intro depth items ih s hs
    rw [texts_list, List.flatMap_map] at hs
    obtain ⟨v, hv, hs⟩ := List.mem_flatMap.1 hs
    refine (ih v hv s hs).imp_left fun ⟨w, hw, heq⟩ => ⟨w, ?_, heq⟩
    rw [writtenItems_eq]
    exact List.mem_flatMap.2 ⟨v, hv, hw⟩
  induction v using LogValue.induction with
  | scalar v hlist hset hdict =>
      intro depth s hs
      by_cases h : maxDepth < depth
      · exact .inr (hdeep depth v h s hs)
      · cases v with
        | text t =>
            rw [redact, if_neg h] at hs
            refine .inl ⟨.scrubbed t, ?_, (List.mem_singleton.1 hs).symm⟩
            rw [written, if_neg h]
            exact List.mem_singleton_self _
        | object repr str =>
            rw [redact, if_neg h] at hs
            refine .inl ⟨.scrubbed repr, ?_, (List.mem_singleton.1 hs).symm⟩
            rw [written, if_neg h]
            exact List.mem_singleton_self _
        | none | bool b | int n | float n =>
            rw [redact, if_neg h] at hs
            cases hs
        | list items => exact absurd rfl (hlist items)
        | set items str => exact absurd rfl (hset items str)
        | dict items => exact absurd rfl (hdict items)
  | list items ih =>
      intro depth s hs
      by_cases h : maxDepth < depth
      · exact .inr (hdeep depth _ h s hs)
      · rw [redact_list h] at hs
        rw [written, if_neg h]
        exact hitems (depth + 1) items (fun v hv => ih v hv (depth + 1)) s hs
  | set items str ih =>
      intro depth s hs
      by_cases h : maxDepth < depth
      · exact .inr (hdeep depth _ h s hs)
      · rw [redact_set h] at hs
        rw [written, if_neg h]
        exact hitems (depth + 1) items (fun v hv => ih v hv (depth + 1)) s hs
  | dict items ih =>
      intro depth s hs
      by_cases h : maxDepth < depth
      · exact .inr (hdeep depth _ h s hs)
      · rw [redact_dict h, texts_dict, List.flatMap_map] at hs
        rw [written, if_neg h, writtenFields_eq]
        obtain ⟨⟨key, v⟩, hkv, hs⟩ := List.mem_flatMap.1 hs
        rcases List.mem_cons.1 hs with rfl | hs
        · refine (key.shown_or_clean).imp_left fun ⟨w, hw, heq⟩ => ⟨w, ?_, heq⟩
          exact List.mem_flatMap.2 ⟨_, hkv, List.mem_append_left _ hw⟩
        · rw [redactUnder] at hs
          dsimp only at hs
          split_ifs at hs with hsensitive
          · rw [List.mem_singleton.1 hs]
            exact .inr clean_redactedMark
          · refine (ih _ hkv (depth + 1) s hs).imp_left fun ⟨w, hw, heq⟩ => ⟨w, ?_, heq⟩
            refine List.mem_flatMap.2 ⟨_, hkv, List.mem_append_right _ ?_⟩
            rw [if_neg hsensitive]
            exact hw

/-- What is written is a text of the result. -/
theorem mem_texts_of_written (v : LogValue) : ∀ depth, ∀ w ∈ written depth v,
    w.text words ∈ texts (dumps (redact words depth v)) := by
  have hshallow : ∀ {depth v w}, w ∈ written depth v → ¬ maxDepth < depth := by
    intro depth v w hw h
    rw [written_of_deep h v] at hw
    cases hw
  have hitems : ∀ depth (items : List LogValue),
      (∀ v ∈ items, ∀ w ∈ written depth v, w.text words ∈ texts (dumps (redact words depth v))) →
      ∀ w ∈ writtenItems depth items,
        w.text words ∈ texts (dumps (.list (items.map (redact words depth)))) := by
    intro depth items ih w hw
    rw [writtenItems_eq] at hw
    obtain ⟨v, hv, hw⟩ := List.mem_flatMap.1 hw
    rw [texts_list, List.flatMap_map]
    exact List.mem_flatMap.2 ⟨v, hv, ih v hv w hw⟩
  induction v using LogValue.induction with
  | scalar v hlist hset hdict =>
      intro depth w hw
      have h := hshallow hw
      cases v with
      | text t =>
          rw [written, if_neg h] at hw
          rw [redact, if_neg h, List.mem_singleton.1 hw]
          exact List.mem_singleton_self _
      | object repr str =>
          rw [written, if_neg h] at hw
          rw [redact, if_neg h, List.mem_singleton.1 hw]
          exact List.mem_singleton_self _
      | none | bool b | int n | float n => cases hw
      | list items => exact absurd rfl (hlist items)
      | set items str => exact absurd rfl (hset items str)
      | dict items => exact absurd rfl (hdict items)
  | list items ih =>
      intro depth w hw
      have h := hshallow hw
      rw [written, if_neg h] at hw
      rw [redact_list h]
      exact hitems (depth + 1) items (fun v hv => ih v hv (depth + 1)) w hw
  | set items str ih =>
      intro depth w hw
      have h := hshallow hw
      rw [written, if_neg h] at hw
      rw [redact_set h]
      exact hitems (depth + 1) items (fun v hv => ih v hv (depth + 1)) w hw
  | dict items ih =>
      intro depth w hw
      have h := hshallow hw
      rw [written, if_neg h, writtenFields_eq] at hw
      rw [redact_dict h, texts_dict, List.flatMap_map]
      obtain ⟨⟨key, v⟩, hkv, hw⟩ := List.mem_flatMap.1 hw
      refine List.mem_flatMap.2 ⟨_, hkv, ?_⟩
      rcases List.mem_append.1 hw with hw | hw
      · rw [key.text_of_written hw]
        exact List.mem_cons_self
      · dsimp only at hw
        split_ifs at hw with hsensitive
        · cases hw
        · refine List.mem_cons_of_mem _ ?_
          rw [redactUnder, if_neg hsensitive]
          exact ih _ hkv (depth + 1) w hw

/-- **What is bound to a sensitive key is the mark.** -/
theorem binds_redact (v : LogValue) : ∀ depth k x, Binds k x (dumps (redact words depth v)) →
    isSensitiveKey k = true → x = .str redactedMark := by
  have hdeep : ∀ depth v k x, maxDepth < depth → ¬ Binds k x (dumps (redact words depth v)) := by
    intro depth v k x h hbinds
    rw [redact_of_deep h v] at hbinds
    cases hbinds
  have hitems : ∀ depth (items : List LogValue),
      (∀ v ∈ items, ∀ k x, Binds k x (dumps (redact words depth v)) →
        isSensitiveKey k = true → x = .str redactedMark) →
      ∀ k x, Binds k x (dumps (.list (items.map (redact words depth)))) →
        isSensitiveKey k = true → x = .str redactedMark := by
    intro depth items ih k x hbinds hk
    rw [dumps, dumpsItems_eq, List.map_map] at hbinds
    cases hbinds with
    | item hmem hbinds =>
        obtain ⟨v, hv, rfl⟩ := List.mem_map.1 hmem
        exact ih v hv k x hbinds hk
  induction v using LogValue.induction with
  | scalar v hlist hset hdict =>
      intro depth k x hbinds hk
      by_cases h : maxDepth < depth
      · exact absurd hbinds (hdeep depth v k x h)
      · cases v with
        | none | bool b | int n | float n =>
            rw [redact, if_neg h] at hbinds
            cases hbinds
        | text t | object t str => cases hbinds
        | list items => exact absurd rfl (hlist items)
        | set items str => exact absurd rfl (hset items str)
        | dict items => exact absurd rfl (hdict items)
  | list items ih =>
      intro depth k x hbinds hk
      by_cases h : maxDepth < depth
      · exact absurd hbinds (hdeep depth _ k x h)
      · rw [redact_list h] at hbinds
        exact hitems (depth + 1) items (fun v hv => ih v hv (depth + 1)) k x hbinds hk
  | set items str ih =>
      intro depth k x hbinds hk
      by_cases h : maxDepth < depth
      · exact absurd hbinds (hdeep depth _ k x h)
      · rw [redact_set h] at hbinds
        exact hitems (depth + 1) items (fun v hv => ih v hv (depth + 1)) k x hbinds hk
  | dict items ih =>
      intro depth k x hbinds hk
      by_cases h : maxDepth < depth
      · exact absurd hbinds (hdeep depth _ k x h)
      · rw [redact_dict h, dumps, dumpsFields_eq, List.map_map] at hbinds
        cases hbinds with
        | here hmem =>
            obtain ⟨⟨key, v⟩, hkv, heq⟩ := List.mem_map.1 hmem
            obtain ⟨rfl, rfl⟩ := Prod.mk.inj heq
            have hsensitive : key.sensitive = true := key.isSensitiveKey_dumps.symm.trans hk
            rw [redactUnder, if_pos hsensitive]
            rfl
        | field hmem hbinds =>
            obtain ⟨⟨key, v⟩, hkv, heq⟩ := List.mem_map.1 hmem
            obtain ⟨rfl, rfl⟩ := Prod.mk.inj heq
            rw [redactUnder] at hbinds
            dsimp only at hbinds
            split_ifs at hbinds with hsensitive
            · cases hbinds
            · exact ih _ hkv (depth + 1) k x hbinds hk

/-- **When redaction gives nothing away.** -/
theorem discreet_redact_iff (depth : ℕ) (v : LogValue) :
    Discreet words (dumps (redact words depth v)) ↔ ∀ w ∈ written depth v, w.Fine words := by
  constructor
  · intro h w hw
    exact w.clean_text_iff.1 (h.clean _ (mem_texts_of_written v depth w hw))
  · refine fun h => ⟨fun s hs => ?_, binds_redact v depth⟩
    rcases texts_redact v depth s hs with ⟨w, hw, rfl⟩ | hclean
    · exact w.clean_text_iff.2 (h w hw)
    · exact hclean

end

end Logging
end AgenticCommerce
