/-
# Keys of the cache, and what an invalidation removes

`build_key` and `invalidate` of `packages/cache.py`, over the in-process backend and the Redis one.
A key is one text: the namespace and the parts with colons between them.  Parts with a colon are
refused, but a namespace may have some, a single empty part leaves no trace, and an invalidation
goes by the beginning of the text.

So two entries may share a key, and an invalidation may remove entries of others: those whose part
at the last place given only begins with it (`prefix_removes_sibling`).  `invalidate_iff` says when
the keys tell the entries apart and the invalidation removes what it should.
-/

import AgenticCommerce.Cache.RedisBackend
import AgenticCommerce.Relational.Maps
import AgenticCommerce.Text.Segments
import AgenticCommerce.Text.Strings

namespace AgenticCommerce
namespace Cache

open Relational Segments Work

/-- `KEY_PREFIX`. -/
def keyPrefix : String := "agentpay:cache:v1"

/-- The `ValueError` of `build_key`, with the part it is about. -/
inductive KeyError where
  | ambiguous (part : String)
  deriving DecidableEq

/-- The text of the error, for the `repr` of texts. -/
def KeyError.text (repr : String → String) : KeyError → String
  | .ambiguous part =>
      "cache key part may not contain ':' (got " ++ repr part ++
        "); it would make the key ambiguous and could collide with another namespace"

/-- The key of parts that were checked. -/
def compose (namespaceName : String) (parts : List String) : String :=
  let suffix := ":".intercalate parts
  keyPrefix ++ ":" ++ namespaceName ++ if suffix = "" then "" else ":" ++ suffix

/-- `build_key`. -/
def buildKey (namespaceName : String) (parts : List String) : Except KeyError String :=
  match parts.find? fun part => decide (':' ∈ part.toList) with
  | some part => .error (.ambiguous part)
  | none => .ok (compose namespaceName parts)

/-- `invalidate`, over a backend that answers. -/
def invalidate {Store : Type} (dropNamespace : String → Store → ℕ × Store) (namespaceName : String)
    (parts : List String) (store : Store) : Except KeyError (ℕ × Store) := do
  let key ← buildKey namespaceName parts
  pure (dropNamespace (if parts.isEmpty then key ++ ":" else key) store)

/-- `InMemoryCacheBackend`: the values, with the times at which they expire. -/
abbrev InMemoryCacheBackend : Type := Map String (String × ℚ)

/-- `InMemoryCacheBackend.set`. -/
def InMemoryCacheBackend.set (backend : InMemoryCacheBackend) (key value : String) (ttlSeconds : ℕ)
    (now : ℚ) : InMemoryCacheBackend :=
  backend.insert key (value, now + ttlSeconds)

/-- `InMemoryCacheBackend.drop_namespace`, with the number of keys removed. -/
def InMemoryCacheBackend.dropNamespace (start : String) (backend : InMemoryCacheBackend) :
    ℕ × InMemoryCacheBackend :=
  let doomed (key : String) : Bool := Strings.startsWith start.toList key.toList
  ((backend.keep doomed).size, backend.keep fun key => !doomed key)

/-- `RedisCacheBackend.drop_namespace`, on the keys that the server holds: `scanIter` are the keys
that the server yields for a pattern, and `served` is how many of them it yields and unlinks before
it fails, none of them when it is not asked. -/
def redisDropNamespace (scanIter : String → List String → List String) (served : ℕ)
    (start : String) (keys : List String) : ℕ × List String :=
  let unlinked := (scanIter (start ++ "*") keys).take served
  (unlinked.length, keys.filter fun key => decide (key ∉ unlinked))

/-- The number that a scan reports is the number of its steps before the first failure. -/
theorem dropWith_removed {call : Call} {backend t : RedisCacheBackend} {answer : Answer}
    {steps : List Bool} {before : ℕ} (h : dropWith call before steps backend = .ok answer t) :
    answer = .removed (before + (steps.takeWhile id).length) := by
  induction steps generalizing before with
  | nil =>
      cases h
      rfl
  | cons works steps ih =>
      cases works with
      | true =>
          rw [ih h, List.takeWhile_cons_of_pos rfl, List.length_cons, Nat.add_assoc,
            Nat.add_comm 1]
      | false =>
          cases hdegrade : degrade call backend with
          | ok a u =>
              have hpure := (bind_of_ok hdegrade).symm.trans h
              cases hpure
              rfl
          | error e u => cases (bind_of_error hdegrade).symm.trans h

/-! ### Keys -/

/-- A namespace with parts that `build_key` accepts. -/
structure CacheKey where
  namespaceName : String
  parts : List String
  accepted : ∀ part ∈ parts, ':' ∉ part.toList

theorem CacheKey.ext' {a b : CacheKey} (hname : a.namespaceName = b.namespaceName)
    (hparts : a.parts = b.parts) : a = b := by
  obtain ⟨nameA, partsA, acceptedA⟩ := a
  obtain ⟨nameB, partsB, acceptedB⟩ := b
  obtain rfl : nameA = nameB := hname
  obtain rfl : partsA = partsB := hparts
  rfl

namespace CacheKey

/-- The key. -/
def text (key : CacheKey) : String := compose key.namespaceName key.parts

/-- What the keys begin with that an invalidation removes. -/
def start (key : CacheKey) : String := if key.parts.isEmpty then key.text ++ ":" else key.text

/-- The parts that leave a trace in the key: a single empty one does not. -/
def traced (key : CacheKey) : List String := if key.parts = [""] then [] else key.parts

/-- What stands between the colons of the key, behind its prefix. -/
def segments (key : CacheKey) : List (List Char) :=
  key.namespaceName.toList.splitOn ':' ++ key.traced.map String.toList

/-- The entry is under the namespace of the target, and its parts start with those given. -/
def Under (target entry : CacheKey) : Prop :=
  entry.namespaceName = target.namespaceName ∧ target.parts <+: entry.parts

/-- The segments of the entry continue those of the target, the last one of which may be cut short
when parts are given. -/
def Continues (target entry : CacheKey) : Prop :=
  if target.parts = [] then ∃ x rest, entry.segments = target.segments ++ x :: rest
  else ∃ first last x rest,
    target.segments = first ++ [last] ∧ entry.segments = first ++ x :: rest ∧ last <+: x

end CacheKey

/-- A call of `set`. -/
structure SetCall where
  key : CacheKey
  value : String
  ttlSeconds : ℕ
  now : ℚ

/-- The in-process backend after calls of `set`. -/
def InMemoryCacheBackend.filled (calls : List SetCall) : InMemoryCacheBackend :=
  calls.foldl (fun backend call => backend.set call.key.text call.value call.ttlSeconds call.now) ∅

/-- The keys that Redis holds after them, before any of them expires. -/
def redisFilled (calls : List SetCall) : List String :=
  calls.foldl (fun keys call => keys.insert call.key.text) []

/-- **The law of the cache**, for an invalidation after calls of `set`: keys are the same only for
the same namespace and parts, and the entries removed are those under the namespace whose parts
start with the ones given. -/
structure Lawful (scanIter : String → List String → List String) (served : ℕ) (target : CacheKey)
    (calls : List SetCall) : Prop where
  injective : ∀ a ∈ target :: calls.map (·.key), ∀ b ∈ target :: calls.map (·.key),
    buildKey a.namespaceName a.parts = buildKey b.namespaceName b.parts → a = b
  memory : ∃ removed after,
    invalidate InMemoryCacheBackend.dropNamespace target.namespaceName target.parts
      (InMemoryCacheBackend.filled calls) = .ok (removed, after) ∧
    ∀ call ∈ calls, call.key.text ∉ after ↔ target.Under call.key
  redis : ∃ removed after,
    invalidate (redisDropNamespace scanIter served) target.namespaceName target.parts
      (redisFilled calls) = .ok (removed, after) ∧
    ∀ call ∈ calls, call.key.text ∉ after ↔ target.Under call.key

/-- What sets an entry apart from a target that does not mean it, and lets one find it that does. -/
structure Apart (target entry : CacheKey) : Prop where
  /-- Under the same namespace, the part at the last place given does not just begin with it. -/
  uncut : entry.namespaceName = target.namespaceName → ∀ first last x rest,
    target.parts = first ++ [last] → entry.parts = first ++ x :: rest →
      last.toList <+: x.toList → last = x
  /-- Under another namespace, the segments do not continue those of the target. -/
  elsewhere : entry.namespaceName ≠ target.namespaceName → ¬ target.Continues entry
  /-- When the whole namespace is meant, the entry has a part that leaves a trace. -/
  traced : entry.namespaceName = target.namespaceName → target.parts = [] → entry.traced ≠ []

/-- Redis unlinks those of the keys that begin with the text it is asked for. -/
def Answered (scanIter : String → List String → List String) (served : ℕ) (target : CacheKey)
    (calls : List SetCall) : Prop :=
  ∀ call ∈ calls,
    call.key.text ∈ (scanIter (target.start ++ "*") (redisFilled calls)).take served ↔
      target.start.toList <+: call.key.text.toList

/-! ### The text of a key -/

section

variable {key target entry : CacheKey}

/-- `build_key` of accepted parts. -/
theorem buildKey_eq (key : CacheKey) : buildKey key.namespaceName key.parts = .ok key.text := by
  have hnone : key.parts.find? (fun part => decide (':' ∈ part.toList)) = none := by
    rw [List.find?_eq_none]
    intro part hpart
    rw [decide_eq_true_eq]
    exact key.accepted part hpart
  rw [buildKey, hnone]
  rfl

/-- `invalidate` drops what begins with the start of the target. -/
theorem invalidate_eq {Store : Type} (dropNamespace : String → Store → ℕ × Store)
    (target : CacheKey) (store : Store) :
    invalidate dropNamespace target.namespaceName target.parts store =
      .ok (dropNamespace target.start store) := by
  rw [invalidate, buildKey_eq]
  rfl

/-- The error of `build_key` names a part that has a colon. -/
theorem colon_of_buildKey_error {namespaceName part : String} {parts : List String}
    (h : buildKey namespaceName parts = .error (.ambiguous part)) :
    part ∈ parts ∧ ':' ∈ part.toList := by
  rw [buildKey] at h
  split at h
  · rename_i found hfind
    cases h
    have hcolon := List.find?_some hfind
    exact ⟨List.mem_of_find?_eq_some hfind, of_decide_eq_true hcolon⟩
  · cases h

theorem clean_traced (key : CacheKey) : Clean ':' (key.traced.map String.toList) := by
  intro segment hsegment
  obtain ⟨part, hpart, rfl⟩ := List.mem_map.1 hsegment
  refine key.accepted part ?_
  rw [CacheKey.traced] at hpart
  split_ifs at hpart
  · exact absurd hpart List.not_mem_nil
  · exact hpart

theorem clean_segments (key : CacheKey) : Clean ':' key.segments := by
  intro segment hsegment
  rcases List.mem_append.1 hsegment with h | h
  · exact clean_splitOn _ segment h
  · exact clean_traced key segment h

theorem segments_ne_nil (key : CacheKey) : key.segments ≠ [] :=
  List.append_ne_nil_of_left_ne_nil (List.splitOn_ne_nil _ _) _

/-- The parts leave no trace exactly when the text behind the namespace is empty. -/
theorem intercalate_eq_empty (key : CacheKey) :
    ":".intercalate key.parts = "" ↔ key.traced = [] := by
  rw [← String.toList_inj, String.toList_intercalate, CacheKey.traced]
  obtain ⟨name, parts, accepted⟩ := key
  cases parts with
  | nil => simp
  | cons part rest =>
      cases rest with
      | nil => simp
      | cons next more => simp

/-- **The segments of a key**, with colons between them, are its text behind the prefix. -/
theorem text_toList (key : CacheKey) :
    key.text.toList = keyPrefix.toList ++ ':' :: join ':' key.segments := by
  have hname : join ':' (key.namespaceName.toList.splitOn ':') = key.namespaceName.toList :=
    join_splitOn _
  rw [CacheKey.text, compose, CacheKey.segments]
  by_cases htraced : key.traced = []
  · rw [if_pos ((intercalate_eq_empty key).2 htraced), htraced, List.map_nil, List.append_nil,
      hname]
    simp
  · have hparts : key.traced = key.parts := by
      rw [CacheKey.traced] at htraced ⊢
      split_ifs at htraced ⊢ with h
      · exact absurd rfl htraced
      · rfl
    rw [if_neg fun h => htraced ((intercalate_eq_empty key).1 h),
      join_append (List.splitOn_ne_nil _ _) (by simpa using htraced), hname, hparts]
    simp [join, String.toList_intercalate]

/-- Keys are the same when their segments are. -/
theorem text_inj : target.text = entry.text ↔ target.segments = entry.segments := by
  rw [← String.toList_inj, text_toList, text_toList, List.append_cancel_left_eq,
    List.cons.injEq]
  constructor
  · exact fun h => join_injective (clean_segments _) (segments_ne_nil _) (clean_segments _)
      (segments_ne_nil _) h.2
  · exact fun h => ⟨rfl, by rw [h]⟩

/-- **A key begins with the start of the target** exactly when its segments continue those of the
target. -/
theorem start_prefix_iff :
    target.start.toList <+: entry.text.toList ↔ target.Continues entry := by
  have hclean := clean_segments target
  rw [CacheKey.start, CacheKey.Continues]
  by_cases hparts : target.parts = []
  · rw [if_pos (by rw [hparts]; rfl), if_pos hparts, String.toList_append, text_toList, text_toList,
      List.append_assoc, List.prefix_append_right_inj, List.cons_append, List.cons_prefix_cons,
      ← join_sep_prefix_iff hclean (segments_ne_nil _) (clean_segments _) (segments_ne_nil _)]
    exact and_iff_right rfl
  · obtain ⟨first, last, hlast⟩ : ∃ first last, target.segments = first ++ [last] :=
      ⟨_, _, (List.dropLast_concat_getLast (segments_ne_nil target)).symm⟩
    rw [if_neg (by simpa using hparts), if_neg hparts, text_toList, text_toList,
      List.prefix_append_right_inj, List.cons_prefix_cons, and_iff_right rfl]
    rw [hlast] at hclean ⊢
    rw [join_prefix_iff hclean (clean_segments _) (segments_ne_nil _)]
    constructor
    · rintro ⟨x, rest, h, hinitial⟩
      exact ⟨first, last, x, rest, rfl, h, hinitial⟩
    · rintro ⟨first', last', x, rest, heq, h, hinitial⟩
      obtain ⟨rfl, hlist⟩ := List.append_inj' heq rfl
      obtain rfl := List.singleton_inj.1 hlist
      exact ⟨x, rest, h, hinitial⟩

/-! ### What an invalidation reaches -/

theorem traced_eq_nil : entry.traced = [] ↔ entry.parts = [] ∨ entry.parts = [""] := by
  rw [CacheKey.traced]
  split_ifs with h
  · exact iff_of_true rfl (.inr h)
  · rw [or_iff_left h]

theorem traced_eq_cons {first rest : List String} {x : String}
    (h : entry.traced = first ++ x :: rest) : entry.parts = first ++ x :: rest := by
  rw [CacheKey.traced] at h
  split_ifs at h
  · exact absurd h (by simp)
  · exact h

/-- What continues the target under its namespace, when parts are given that leave a trace. -/
theorem continues_iff_of_parts {first : List String} {last : String}
    (hname : entry.namespaceName = target.namespaceName) (hparts : target.parts = first ++ [last])
    (htraced : target.parts ≠ [""]) :
    target.Continues entry ↔
      ∃ x rest, entry.parts = first ++ x :: rest ∧ last.toList <+: x.toList := by
  have htarget : target.segments = (target.namespaceName.toList.splitOn ':' ++
      first.map String.toList) ++ [last.toList] := by
    rw [CacheKey.segments, CacheKey.traced, if_neg htraced, hparts, List.map_append,
      List.append_assoc]
    rfl
  rw [CacheKey.Continues, if_neg (by rw [hparts]; simp)]
  constructor
  · rintro ⟨first', last', x, rest, heq, hentry, hinitial⟩
    obtain ⟨rfl, hlist⟩ := List.append_inj' (htarget.symm.trans heq) rfl
    obtain rfl := List.singleton_inj.1 hlist
    rw [CacheKey.segments, hname, List.append_assoc, List.append_cancel_left_eq] at hentry
    obtain ⟨front, back, hsplit, hfront, hback⟩ := List.map_eq_append_iff.1 hentry
    obtain ⟨y, more, rfl, rfl, rfl⟩ := List.map_eq_cons_iff.1 hback
    obtain rfl := (List.map_injective_iff.2 fun a b h => String.toList_inj.1 h) hfront
    exact ⟨y, more, traced_eq_cons hsplit, hinitial⟩
  · rintro ⟨x, rest, hentry, hinitial⟩
    have hne : entry.parts ≠ [""] := by
      intro hempty
      rw [hempty] at hentry
      obtain ⟨rfl, hcons⟩ | ⟨front, -, hfront⟩ := List.append_eq_cons_iff.1 hentry.symm
      · obtain ⟨rfl, -⟩ := List.cons.inj hcons
        have hlast : last = "" := String.toList_inj.1 (List.prefix_nil.1 hinitial)
        exact htraced (by rw [hparts, hlast]; rfl)
      · exact absurd hfront (by simp)
    refine ⟨_, _, x.toList, rest.map String.toList, htarget, ?_, hinitial⟩
    rw [CacheKey.segments, CacheKey.traced, if_neg hne, hentry, hname, List.map_append,
      List.append_assoc]
    rfl

/-- Everything under the namespace continues a target whose only part is empty. -/
theorem continues_of_empty_part (hname : entry.namespaceName = target.namespaceName)
    (hparts : target.parts = [""]) : target.Continues entry := by
  have htarget : target.segments = target.namespaceName.toList.splitOn ':' := by
    rw [CacheKey.segments, CacheKey.traced, if_pos hparts]
    exact List.append_nil _
  obtain ⟨first, last, hlast⟩ : ∃ first last, target.segments = first ++ [last] :=
    ⟨_, _, (List.dropLast_concat_getLast (segments_ne_nil target)).symm⟩
  rw [CacheKey.Continues, if_neg (by rw [hparts]; simp)]
  refine ⟨first, last, last, entry.traced.map String.toList, hlast, ?_, List.prefix_refl _⟩
  rw [CacheKey.segments, hname, ← htarget, hlast, List.append_assoc]
  rfl

/-- The whole namespace: what leaves a trace behind it. -/
theorem continues_iff_of_no_parts (hname : entry.namespaceName = target.namespaceName)
    (hparts : target.parts = []) : target.Continues entry ↔ entry.traced ≠ [] := by
  have htarget : target.segments = target.namespaceName.toList.splitOn ':' := by
    rw [CacheKey.segments, CacheKey.traced, hparts]
    exact List.append_nil _
  rw [CacheKey.Continues, if_pos hparts, htarget, CacheKey.segments, hname]
  constructor
  · rintro ⟨x, rest, h⟩ hnil
    rw [hnil, List.append_cancel_left_eq] at h
    exact absurd h.symm (by simp)
  · intro h
    obtain ⟨x, rest, hcons⟩ := List.exists_cons_of_ne_nil h
    exact ⟨x.toList, rest.map String.toList, by rw [hcons]; rfl⟩

/-- **When an invalidation reaches what it should**: an entry that has the segments of the target
only if it is the target is reached exactly when it is meant, if and only if it stands apart. -/
theorem continues_iff_under (hdistinct : target.segments = entry.segments → target = entry) :
    (target.Continues entry ↔ target.Under entry) ↔ Apart target entry := by
  by_cases hname : entry.namespaceName = target.namespaceName
  · by_cases hparts : target.parts = []
    · -- the whole namespace
      have hunder : target.Under entry := ⟨hname, by rw [hparts]; exact List.nil_prefix⟩
      rw [continues_iff_of_no_parts hname hparts, iff_true_right hunder]
      constructor
      · refine fun h => ⟨fun _ first last x rest hsplit => ?_, fun h' => absurd hname h',
          fun _ _ => h⟩
        rw [hparts] at hsplit
        exact absurd hsplit (by simp)
      · exact fun h => h.traced hname hparts
    · obtain ⟨first, last, hlast⟩ : ∃ first last, target.parts = first ++ [last] :=
        ⟨_, _, (List.dropLast_concat_getLast hparts).symm⟩
      have hunder : target.Under entry ↔ ∃ rest, entry.parts = first ++ last :: rest := by
        rw [CacheKey.Under, and_iff_right hname, hlast]
        constructor
        · rintro ⟨rest, h⟩
          exact ⟨rest, by rw [← h, List.append_assoc]; rfl⟩
        · rintro ⟨rest, h⟩
          exact ⟨rest, by rw [h, List.append_assoc]; rfl⟩
      have hapart : Apart target entry ↔ ∀ x rest, entry.parts = first ++ x :: rest →
          last.toList <+: x.toList → last = x := by
        constructor
        · exact fun h x rest => h.uncut hname first last x rest hlast
        · refine fun h => ⟨fun _ first' last' x rest hsplit => ?_, fun h' => absurd hname h',
            fun _ h' => absurd h' hparts⟩
          obtain ⟨rfl, hlist⟩ := List.append_inj' (hlast.symm.trans hsplit) rfl
          obtain rfl := List.singleton_inj.1 hlist
          exact h x rest
      rw [hunder, hapart]
      by_cases htraced : target.parts = [""]
      · -- a single empty part: everything under the namespace is reached
        obtain ⟨rfl, hlist⟩ := List.append_inj'
          (show [] ++ [""] = first ++ [last] from htraced.symm.trans hlast) rfl
        obtain rfl := List.singleton_inj.1 hlist
        rw [iff_true_left (continues_of_empty_part hname htraced)]
        constructor
        · rintro ⟨rest, h⟩ x rest' h' -
          rw [h] at h'
          exact (List.cons.inj h').1
        · intro h
          cases hentry : entry.parts with
          | nil =>
              -- the entry would have the segments of the target
              have htarget : target = entry := by
                refine hdistinct ?_
                rw [CacheKey.segments, CacheKey.segments, hname, CacheKey.traced, CacheKey.traced,
                  if_pos htraced, hentry]
                rfl
              rw [htarget, hentry] at htraced
              cases htraced
          | cons x rest =>
              have hx : "" = x := h x rest hentry List.nil_prefix
              exact ⟨rest, by rw [← hx]; rfl⟩
      · rw [continues_iff_of_parts hname hlast htraced]
        constructor
        · intro h x rest hentry hinitial
          obtain ⟨rest', h'⟩ := h.1 ⟨x, rest, hentry, hinitial⟩
          rw [hentry, List.append_cancel_left_eq] at h'
          exact (List.cons.inj h').1.symm
        · refine fun h => ⟨?_, ?_⟩
          · rintro ⟨x, rest, hentry, hinitial⟩
            obtain rfl := h x rest hentry hinitial
            exact ⟨rest, hentry⟩
          · rintro ⟨rest, hentry⟩
            exact ⟨last, rest, hentry, List.prefix_refl _⟩
  · have hunder : ¬ target.Under entry := fun h => hname h.1
    rw [iff_false_right hunder]
    constructor
    · exact fun h => ⟨fun h' => absurd h' hname, fun _ => h, fun h' => absurd h' hname⟩
    · exact fun h => h.elsewhere hname

end

/-! ### The law -/

section

variable {scanIter : String → List String → List String} {served : ℕ} {target : CacheKey}
  {calls : List SetCall} {text : String}

/-- The keys in the in-process backend are those that were set. -/
theorem mem_filled :
    text ∈ InMemoryCacheBackend.filled calls ↔ ∃ call ∈ calls, call.key.text = text := by
  have hfold : ∀ backend : InMemoryCacheBackend,
      text ∈ calls.foldl (fun backend call =>
          backend.set call.key.text call.value call.ttlSeconds call.now) backend ↔
        text ∈ backend ∨ ∃ call ∈ calls, call.key.text = text := by
    induction calls with
    | nil => simp
    | cons call rest ih =>
        intro backend
        rw [List.foldl_cons, ih, InMemoryCacheBackend.set, AList.mem_insert]
        simp only [List.mem_cons, exists_eq_or_imp]
        grind
  rw [InMemoryCacheBackend.filled, hfold]
  exact or_iff_right (AList.notMem_empty _)

/-- The keys in Redis are those that were set. -/
theorem mem_redisFilled : text ∈ redisFilled calls ↔ ∃ call ∈ calls, call.key.text = text := by
  have hfold : ∀ keys : List String,
      text ∈ calls.foldl (fun keys call => keys.insert call.key.text) keys ↔
        text ∈ keys ∨ ∃ call ∈ calls, call.key.text = text := by
    induction calls with
    | nil => simp
    | cons call rest ih =>
        intro keys
        rw [List.foldl_cons, ih, List.mem_insert_iff]
        simp only [List.mem_cons, exists_eq_or_imp]
        grind
  rw [redisFilled, hfold]
  exact or_iff_right List.not_mem_nil

/-- The in-process backend removes what begins with the text. -/
theorem notMem_dropNamespace {start : String} (call : SetCall) (hcall : call ∈ calls) :
    call.key.text ∉ (InMemoryCacheBackend.dropNamespace start
        (InMemoryCacheBackend.filled calls)).2 ↔
      start.toList <+: call.key.text.toList := by
  have hmem : call.key.text ∈ InMemoryCacheBackend.filled calls := mem_filled.2 ⟨call, hcall, rfl⟩
  rw [InMemoryCacheBackend.dropNamespace, ← AList.lookup_eq_none, AList.lookup_keep,
    ← Strings.startsWith_iff]
  cases hstart : Strings.startsWith start.toList call.key.text.toList with
  | true => exact iff_of_true (if_neg (by simpa using hstart)) rfl
  | false =>
      refine iff_of_false ?_ (by simp)
      rw [if_pos (by simpa using hstart), AList.lookup_eq_none]
      exact fun h => h hmem

/-- Redis removes what it unlinks. -/
theorem notMem_redisDropNamespace {start : String} (call : SetCall) (hcall : call ∈ calls) :
    call.key.text ∉ (redisDropNamespace scanIter served start (redisFilled calls)).2 ↔
      call.key.text ∈ (scanIter (start ++ "*") (redisFilled calls)).take served := by
  have hmem : call.key.text ∈ redisFilled calls := mem_redisFilled.2 ⟨call, hcall, rfl⟩
  rw [redisDropNamespace, List.mem_filter, and_iff_right hmem, decide_eq_true_eq, not_not]

/-- A server that answers until its scan is over unlinks what begins with the text, when that has no
character that a pattern gives a meaning to. -/
theorem answered_of_plain {globMatches : String → String → Prop}
    (hscan : ∀ pattern keys key, key ∈ scanIter pattern keys ↔ key ∈ keys ∧ globMatches pattern key)
    (hplain : ∀ start key : String, (∀ c ∈ start.toList, c ∉ ['*', '?', '[', '\\']) →
      (globMatches (start ++ "*") key ↔ start.toList <+: key.toList))
    (htarget : ∀ c ∈ target.start.toList, c ∉ ['*', '?', '[', '\\'])
    (hserved : (scanIter (target.start ++ "*") (redisFilled calls)).length ≤ served) :
    Answered scanIter served target calls := by
  intro call hcall
  have hmem : call.key.text ∈ redisFilled calls := mem_redisFilled.2 ⟨call, hcall, rfl⟩
  rw [List.take_of_length_le hserved, hscan, and_iff_right hmem, hplain _ _ htarget]

/-- Where the law holds, what begins with the start of the target is what is meant. -/
theorem Lawful.reaches (h : Lawful scanIter served target calls) (call : SetCall)
    (hcall : call ∈ calls) :
    target.start.toList <+: call.key.text.toList ↔ target.Under call.key := by
  obtain ⟨removed, after, hafter, hremoved⟩ := h.memory
  rw [invalidate_eq] at hafter
  obtain rfl : _ = after := congrArg Prod.snd (Except.ok.inj hafter)
  exact (notMem_dropNamespace call hcall).symm.trans (hremoved call hcall)

/-- Where the law holds, what Redis unlinks is what is meant. -/
theorem Lawful.unlinks (h : Lawful scanIter served target calls) (call : SetCall)
    (hcall : call ∈ calls) :
    call.key.text ∈ (scanIter (target.start ++ "*") (redisFilled calls)).take served ↔
      target.Under call.key := by
  obtain ⟨removed, after, hafter, hremoved⟩ := h.redis
  rw [invalidate_eq] at hafter
  obtain rfl : _ = after := congrArg Prod.snd (Except.ok.inj hafter)
  exact (notMem_redisDropNamespace call hcall).symm.trans (hremoved call hcall)

/-- **When the law of the cache holds**: no two keys have the same segments, every entry stands
apart from the target, and Redis unlinks what begins with the text it is asked for. -/
theorem invalidate_iff :
    Lawful scanIter served target calls ↔
      (∀ a ∈ target :: calls.map (·.key), ∀ b ∈ target :: calls.map (·.key),
        a.segments = b.segments → a = b) ∧
      (∀ call ∈ calls, Apart target call.key) ∧ Answered scanIter served target calls := by
  have hinjective (a b : CacheKey) :
      buildKey a.namespaceName a.parts = buildKey b.namespaceName b.parts ↔
        a.segments = b.segments := by
    rw [buildKey_eq, buildKey_eq, Except.ok.injEq, text_inj]
  constructor
  · intro h
    have hdistinct : ∀ a ∈ target :: calls.map (·.key), ∀ b ∈ target :: calls.map (·.key),
        a.segments = b.segments → a = b :=
      fun a ha b hb hsegments => h.injective a ha b hb ((hinjective a b).2 hsegments)
    refine ⟨hdistinct, fun call hcall => ?_, fun call hcall => ?_⟩
    · have hkey := List.mem_cons_of_mem target (List.mem_map_of_mem (f := (·.key)) hcall)
      exact (continues_iff_under (hdistinct target List.mem_cons_self call.key hkey)).1
        (start_prefix_iff.symm.trans (h.reaches call hcall))
    · exact (h.unlinks call hcall).trans (h.reaches call hcall).symm
  · rintro ⟨hdistinct, hapart, hanswered⟩
    have hreaches (call : SetCall) (hcall : call ∈ calls) :
        target.start.toList <+: call.key.text.toList ↔ target.Under call.key := by
      have hkey := List.mem_cons_of_mem target (List.mem_map_of_mem (f := (·.key)) hcall)
      exact start_prefix_iff.trans ((continues_iff_under
        (hdistinct target List.mem_cons_self call.key hkey)).2 (hapart call hcall))
    refine ⟨fun a ha b hb h => hdistinct a ha b hb ((hinjective a b).1 h),
      ⟨_, _, invalidate_eq _ _ _, fun call hcall => ?_⟩,
      ⟨_, _, invalidate_eq _ _ _, fun call hcall => ?_⟩⟩
    · exact (notMem_dropNamespace call hcall).trans (hreaches call hcall)
    · exact (notMem_redisDropNamespace call hcall).trans
        ((hanswered call hcall).trans (hreaches call hcall))

end

/-- A merchant whose offers are invalidated. -/
def oneMerchant : CacheKey := ⟨"offer", ["m1"], by decide⟩

/-- An offer of another one, whose id begins with the id of the first. -/
def otherOffer : SetCall :=
  { key := ⟨"offer", ["m10", "o1"], by decide⟩, value := "64999", ttlSeconds := 15, now := 0 }

/-- **An invalidation removes the entries of another merchant**, when the id of that one begins with
the id given. -/
theorem prefix_removes_sibling : ¬ Lawful
    (fun pattern keys => keys.filter fun key =>
      Strings.startsWith pattern.toList.dropLast key.toList) 1 oneMerchant [otherOffer] := by
  intro h
  have hreached : oneMerchant.start.toList <+: otherOffer.key.text.toList := by decide
  have hunder := (h.reaches otherOffer (List.mem_singleton_self _)).1 hreached
  exact absurd hunder.2 (by decide)

end Cache
end AgenticCommerce
