/-
# What a log line gives away

Whether the JSON object that `JsonFormatter.format` makes of a record has a credential in it: a key
or a token, the password of a URL, or a value under a sensitive key.  What is redacted or scrubbed
has none, but for odd URLs.  Some of what is written is neither: the event, which is the message of
a record that names no event, so that **a credential in a message is printed** (`message_leaks`);
the level, the names of the service and of the logger, and the correlation identifiers.
`format_iff` says that there is no other way out.
-/

import AgenticCommerce.Observability.Redaction

namespace AgenticCommerce
namespace Logging

open Audit (texts textsOfFields_eq Binds)

/-- Where a field of the line comes from. -/
inductive Source where
  /-- It is written as it is. -/
  | shown (v : LogValue)
  /-- It was supplied by the caller, and is redacted. -/
  | extra (v : LogValue)
  /-- It is a text that is scrubbed. -/
  | scrubbed (s : String)

section

variable (words : WordChars)

/-- The value of a field. -/
def Source.value (key : String) : Source → LogValue
  | shown v => v
  | extra v => if isSensitiveKey key then .text redactedMark else redact words 1 v
  | scrubbed s => .text (scrubValueShape words s)

/-- A field gives no credential away: what is written as it is has none, nor has the name of an
extra field; and what is redacted or scrubbed is fine. -/
def Source.Fine (key : String) : Source → Prop
  | shown v => Discreet words (dumps v)
  | extra v => Clean words key.toList ∧
      (isSensitiveKey key = false → ∀ w ∈ written 1 v, w.Fine words)
  | scrubbed s => ¬ OddUrl words s.toList

variable (service : String) (ids : CorrelationIds) (record : LogRecord)

/-- Where the fields of a line come from, up to those that the caller supplied. -/
def planFields : Map String Source :=
  let plan := putAll ∅ [("timestamp", .shown (.text record.created.text)),
    ("level", .shown (.text record.levelname)), ("service", .shown (.text service)),
    ("logger", .shown (.text record.name)), ("event", .shown record.event)]
  let plan := putAll plan (ids.asDict.map fun kv => (kv.1, .shown (.text kv.2)))
  putAll plan (record.extras.entries.map fun e => (e.1, .extra e.2))

/-- Where the fields of a line come from. -/
def plan : Map String Source :=
  let plan := planFields service ids record
  let plan :=
    if record.message != "" && !record.event.isText record.message then
      plan.insert "message" (.scrubbed record.message)
    else plan
  let plan :=
    match record.exception with
    | some text => plan.insert "exception" (.scrubbed text)
    | none => plan
  if record.stackInfo != "" then plan.insert "stack" (.scrubbed record.stackInfo) else plan

end

section

variable {words : WordChars}

/-! ### The fields of a line -/

/-- The fields are those of a plan. -/
def Follows (words : WordChars) (fields : Map String LogValue) (plan : Map String Source) : Prop :=
  ∀ k, fields.lookup k = (plan.lookup k).map (Source.value words k)

theorem Follows.insert {fields : Map String LogValue} {plan : Map String Source}
    (h : Follows words fields plan) (key : String) (source : Source) :
    Follows words (fields.insert key (source.value words key)) (plan.insert key source) := by
  intro k
  rw [AList.lookup_set, AList.lookup_set]
  split_ifs with hk
  · rw [hk]
    rfl
  · exact h k

theorem follows_putAll {fields : Map String LogValue} {plan : Map String Source}
    (h : Follows words fields plan) (items : List (String × Source)) :
    Follows words (putAll fields (items.map fun kv => (kv.1, kv.2.value words kv.1)))
      (putAll plan items) := by
  induction items generalizing fields plan with
  | nil => exact h
  | cons kv items ih => exact ih (h.insert kv.1 kv.2)

/-- What is put under other keys changes nothing. -/
theorem lookup_putAll_of_notMem {V : Type} {k : String} {m : Map String V}
    {items : List (String × V)} (h : k ∉ items.map Prod.fst) :
    (putAll m items).lookup k = m.lookup k := by
  induction items generalizing m with
  | nil => rfl
  | cons kv items ih =>
      rw [List.map_cons, List.mem_cons, not_or] at h
      exact (ih h.2).trans (AList.lookup_insert_ne h.1)

theorem ne_event_of_extras {record : LogRecord} {e : Sigma fun _ : String => LogValue}
    (he : e ∈ record.extras.entries) : e.1 ≠ "event" := by
  intro heq
  have hlookup : record.extras.lookup e.1 = some e.2 := AList.mem_lookup_iff.2 he
  rw [LogRecord.extras, AList.lookup_unset, if_pos heq] at hlookup
  cases hlookup

theorem asDict_keys {ids : CorrelationIds} : ∀ kv ∈ ids.asDict,
    kv.1 ∈ ["trace_id", "request_id", "agent_run_id", "checkout_id", "payment_id",
      "provider_event_id", "actor_id"] := by
  intro kv hkv
  obtain ⟨⟨key, value⟩, hmem, hsome⟩ := List.mem_filterMap.1 hkv
  obtain ⟨text, -, rfl⟩ := Option.map_eq_some_iff.1 hsome
  have hkeys := List.mem_map_of_mem (f := Prod.fst) hmem
  exact hkeys

variable (words) (service : String) (ids : CorrelationIds) (record : LogRecord)

/-- The event of a line is that of the record: no other field has this name. -/
theorem lookup_event : (fields words service ids record).lookup "event" = some record.event := by
  rw [fields, lookup_putAll_of_notMem, lookup_putAll_of_notMem]
  · rfl
  · intro hmem
    rw [List.map_map] at hmem
    obtain ⟨kv, hkv, heq⟩ := List.mem_map.1 hmem
    have hkey := asDict_keys kv hkv
    rw [show kv.1 = "event" from heq] at hkey
    exact absurd hkey (by decide)
  · intro hmem
    rw [List.map_map] at hmem
    obtain ⟨e, he, heq⟩ := List.mem_map.1 hmem
    exact ne_event_of_extras he heq

theorem fields_follow :
    Follows words (fields words service ids record) (planFields service ids record) := by
  have hbase : Follows words ∅ ∅ := fun _ => rfl
  have hfirst := follows_putAll hbase
    [("timestamp", .shown (.text record.created.text)), ("level", .shown (.text record.levelname)),
      ("service", .shown (.text service)), ("logger", .shown (.text record.name)),
      ("event", .shown record.event)]
  have hids := follows_putAll hfirst (ids.asDict.map fun kv => (kv.1, .shown (.text kv.2)))
  have hextras := follows_putAll hids (record.extras.entries.map fun e => (e.1, .extra e.2))
  rw [List.map_map, List.map_map] at hextras
  exact hextras

/-- **The fields of a line are those of its plan.** -/
theorem payload_follows :
    Follows words (payload words service ids record) (plan service ids record) := by
  have hfields := fields_follow words service ids record
  have hevent := lookup_event words service ids record
  unfold payload plan
  generalize fields words service ids record = fields at hfields hevent
  generalize planFields service ids record = plan at hfields
  dsimp only
  rw [hevent, Option.any_some]
  have hmessage : Follows words
      (if record.message != "" && !record.event.isText record.message then
        fields.insert "message" (.text (scrubValueShape words record.message)) else fields)
      (if record.message != "" && !record.event.isText record.message then
        plan.insert "message" (.scrubbed record.message) else plan) := by
    split_ifs
    · exact hfields.insert "message" (.scrubbed record.message)
    · exact hfields
  generalize (if record.message != "" && !record.event.isText record.message then
    fields.insert "message" (.text (scrubValueShape words record.message)) else fields) = fields
    at hmessage
  generalize (if record.message != "" && !record.event.isText record.message then
    plan.insert "message" (.scrubbed record.message) else plan) = plan at hmessage
  cases record.exception with
  | none =>
      dsimp only
      split_ifs
      · exact hmessage.insert "stack" (.scrubbed record.stackInfo)
      · exact hmessage
  | some text =>
      have hexception := hmessage.insert "exception" (.scrubbed text)
      dsimp only
      split_ifs
      · exact hexception.insert "stack" (.scrubbed record.stackInfo)
      · exact hexception

/-- The names of the fields that the caller does not supply. -/
def fixedKeys : List String :=
  ["timestamp", "level", "service", "logger", "event", "trace_id", "request_id", "agent_run_id",
    "checkout_id", "payment_id", "provider_event_id", "actor_id", "message", "exception", "stack"]

/-- Every field but those of the caller has one of these names. -/
def Named (plan : Map String Source) : Prop :=
  ∀ k source, plan.lookup k = some source → k ∈ fixedKeys ∨ ∃ v, source = .extra v

theorem Named.insert {plan : Map String Source} (h : Named plan) {key : String} {source : Source}
    (hkey : key ∈ fixedKeys ∨ ∃ v, source = .extra v) : Named (plan.insert key source) := by
  intro k other hother
  rw [AList.lookup_set] at hother
  split_ifs at hother with hk
  · rw [hk, ← Option.some.inj hother]
    exact hkey
  · exact h k other hother

theorem named_putAll {plan : Map String Source} (h : Named plan) {items : List (String × Source)}
    (hitems : ∀ kv ∈ items, kv.1 ∈ fixedKeys ∨ ∃ v, kv.2 = .extra v) :
    Named (putAll plan items) := by
  induction items generalizing plan with
  | nil => exact h
  | cons kv items ih =>
      exact ih (h.insert (hitems kv List.mem_cons_self)) fun kv' hkv' =>
        hitems kv' (List.mem_cons_of_mem kv hkv')

theorem named_planFields : Named (planFields service ids record) := by
  have hempty : Named ∅ := fun k source h => by cases h
  have hfirst : Named (putAll ∅ [("timestamp", .shown (.text record.created.text)),
      ("level", .shown (.text record.levelname)), ("service", .shown (.text service)),
      ("logger", .shown (.text record.name)), ("event", .shown record.event)]) := by
    refine named_putAll hempty fun kv hkv => .inl ?_
    have hkey := List.mem_map_of_mem (f := Prod.fst) hkv
    have hsub : ["timestamp", "level", "service", "logger", "event"] ⊆ fixedKeys := by decide
    exact hsub hkey
  refine named_putAll (named_putAll hfirst fun kv hkv => .inl ?_) fun kv hkv => .inr ?_
  · obtain ⟨id, hid, rfl⟩ := List.mem_map.1 hkv
    have hsub : ["trace_id", "request_id", "agent_run_id", "checkout_id", "payment_id",
      "provider_event_id", "actor_id"] ⊆ fixedKeys := by decide
    exact hsub (asDict_keys id hid)
  · obtain ⟨e, he, rfl⟩ := List.mem_map.1 hkv
    exact ⟨e.2, rfl⟩

theorem named_plan : Named (plan service ids record) := by
  have hfields := named_planFields service ids record
  unfold plan
  generalize planFields service ids record = plan at hfields
  dsimp only
  have hmessage : Named (if record.message != "" && !record.event.isText record.message then
      plan.insert "message" (.scrubbed record.message) else plan) := by
    split_ifs
    · exact hfields.insert (.inl (by decide))
    · exact hfields
  generalize (if record.message != "" && !record.event.isText record.message then
    plan.insert "message" (.scrubbed record.message) else plan) = plan at hmessage
  cases record.exception with
  | none =>
      dsimp only
      split_ifs
      · exact hmessage.insert (.inl (by decide))
      · exact hmessage
  | some text =>
      have hexception : Named (plan.insert "exception" (.scrubbed text)) :=
        hmessage.insert (.inl (by decide))
      dsimp only
      split_ifs
      · exact hexception.insert (.inl (by decide))
      · exact hexception

/-- The names of the fields are clean, and not sensitive. -/
theorem fixedKeys_fine : ∀ k ∈ fixedKeys, isSensitiveKey k = false ∧ '/' ∉ k.toList ∧
    ∀ p ∈ valuePatterns, p.search k.toList = false := by
  decide +kernel

end

/-! ### What a line gives away -/

section

variable {words : WordChars} {key : String}

/-- A text is discreet when it is clean. -/
theorem discreet_text_iff {s : String} :
    Discreet words (dumps (.text s)) ↔ Clean words s.toList := by
  constructor
  · exact fun h => h.clean s (List.mem_singleton_self _)
  · intro h
    refine ⟨fun t ht => ?_, fun k v hbinds _ => by cases hbinds⟩
    rw [List.mem_singleton.1 ht]
    exact h

/-- **When a field gives nothing away**: its name and its value. -/
theorem Source.discreet_iff (source : Source) (hkey : key ∈ fixedKeys ∨ ∃ v, source = .extra v) :
    Clean words key.toList ∧ Discreet words (dumps (source.value words key)) ↔
      source.Fine words key := by
  have hclean : key ∈ fixedKeys → Clean words key.toList := fun hmem =>
    clean_of_search (fixedKeys_fine key hmem).2.1 (fixedKeys_fine key hmem).2.2
  cases source with
  | shown v =>
      have hname := hclean (hkey.resolve_right (by rintro ⟨v, h⟩; cases h))
      exact ⟨fun h => h.2, fun h => ⟨hname, h⟩⟩
  | scrubbed s =>
      have hname := hclean (hkey.resolve_right (by rintro ⟨v, h⟩; cases h))
      have hiff : Discreet words (dumps (.text (scrubValueShape words s))) ↔ _ :=
        discreet_text_iff.trans (Written.clean_text_iff (.scrubbed s))
      exact ⟨fun h => hiff.1 h.2, fun h => ⟨hname, hiff.2 h⟩⟩
  | extra v =>
      rw [Source.value, Source.Fine]
      refine and_congr_right fun _ => ?_
      cases hsensitive : isSensitiveKey key with
      | true =>
          refine iff_of_true (discreet_text_iff.2 clean_redactedMark) fun h => ?_
          cases h
      | false =>
          refine (discreet_redact_iff 1 v).trans ⟨fun h _ => h, fun h => h rfl⟩

end

section

variable (words : WordChars) (service : String) (ids : CorrelationIds) (record : LogRecord)

/-- **What a log line gives away**: nothing exactly when no field does.  A field that is written as
it is (the event, the level, the names of the service and of the logger, the correlation
identifiers) must have no credential; nor may the name of an extra field, or a key in it that is not
redacted; and a text that is scrubbed must have no odd URL. -/
theorem format_iff :
    Discreet words (format words service ids record) ↔
      ∀ key source, (plan service ids record).lookup key = some source → source.Fine words key := by
  have hfollows := payload_follows words service ids record
  have hnamed := named_plan service ids record
  have hvalue : ∀ key source, (plan service ids record).lookup key = some source →
      (⟨key, source.value words key⟩ : Sigma fun _ : String => LogValue) ∈
        (payload words service ids record).entries := by
    intro key source hsource
    refine AList.mem_lookup_iff.1 ?_
    rw [hfollows key, hsource]
    rfl
  constructor
  · intro h key source hsource
    have hmem := hvalue key source hsource
    have hfield : (key, dumps (source.value words key)) ∈
        (payload words service ids record).entries.map fun e => (e.1, dumps e.2) :=
      List.mem_map_of_mem hmem
    refine (source.discreet_iff (hnamed key source hsource)).1 ⟨?_, fun s hs => ?_, ?_⟩
    · refine h.clean key ?_
      rw [format, texts, textsOfFields_eq]
      exact List.mem_flatMap.2 ⟨_, hfield, List.mem_cons_self⟩
    · refine h.clean s ?_
      rw [format, texts, textsOfFields_eq]
      exact List.mem_flatMap.2 ⟨_, hfield, List.mem_cons_of_mem _ hs⟩
    · exact fun k v hbinds hk => h.sensitive k v (.field hfield hbinds) hk
  · intro h
    have hentry : ∀ e ∈ (payload words service ids record).entries, ∃ source,
        (plan service ids record).lookup e.1 = some source ∧ source.value words e.1 = e.2 := by
      intro e he
      have hlookup : (payload words service ids record).lookup e.1 = some e.2 :=
        AList.mem_lookup_iff.2 he
      rw [hfollows e.1] at hlookup
      exact Option.map_eq_some_iff.1 hlookup
    have hfine : ∀ e ∈ (payload words service ids record).entries,
        Clean words e.1.toList ∧ Discreet words (dumps e.2) := by
      intro e he
      obtain ⟨source, hsource, hval⟩ := hentry e he
      rw [← hval]
      exact (source.discreet_iff (hnamed e.1 source hsource)).2 (h e.1 source hsource)
    refine ⟨fun s hs => ?_, fun k v hbinds hk => ?_⟩
    · rw [format, texts, textsOfFields_eq, List.flatMap_map] at hs
      obtain ⟨e, he, hs⟩ := List.mem_flatMap.1 hs
      rcases List.mem_cons.1 hs with rfl | hs
      · exact (hfine e he).1
      · exact (hfine e he).2.clean s hs
    · cases hbinds with
      | here hmem =>
          obtain ⟨e, he, heq⟩ := List.mem_map.1 hmem
          obtain ⟨rfl, rfl⟩ := Prod.mk.inj heq
          obtain ⟨source, hsource, hval⟩ := hentry e he
          rcases hnamed e.1 source hsource with hfixed | ⟨v, rfl⟩
          · rw [(fixedKeys_fine e.1 hfixed).1] at hk
            cases hk
          · rw [← hval, Source.value, if_pos hk]
            rfl
      | field hmem hbinds =>
          obtain ⟨e, he, heq⟩ := List.mem_map.1 hmem
          obtain ⟨rfl, rfl⟩ := Prod.mk.inj heq
          exact (hfine e he).2.sensitive k v hbinds hk

end

/-- The word characters of ASCII. -/
def asciiWords : WordChars where
  isWord c := c.isAlphanum || c == '_'
  ascii _ _ := rfl

/-- A record whose message has a bearer token in it. -/
def tokenRecord : LogRecord where
  created := ⟨"2026-01-01T00:00:00+00:00", Strings.forall_mem_of_all (by decide)⟩
  levelname := "ERROR"
  name := "services.payments"
  message := "refused: Bearer abcdefghijklmnop"
  dict := ∅
  exception := none
  stackInfo := ""

/-- **A message leaks**: it is the event of a record that names none, and that is not scrubbed. -/
theorem message_leaks : ¬ Discreet asciiWords
    (format asciiWords "agentpay" ⟨none, none, none, none, none, none, none⟩ tokenRecord) := by
  intro h
  have hshown : "refused: Bearer abcdefghijklmnop" ∈ texts (format asciiWords "agentpay"
      ⟨none, none, none, none, none, none, none⟩ tokenRecord) := by decide
  have hclean := (h.clean _ hshown).values bearerToken (by simp [valuePatterns])
  exact absurd hclean (by decide)

end Logging
end AgenticCommerce
