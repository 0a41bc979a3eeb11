/-
# The research cache

`ResearchCache` of `services/research/cache/research_cache.py`: answers by merchant, product and
question, under the hash of one text that has the three with colons between them.  A merchant that
is not given counts as `default`, and the ids are stripped.

So two merchants may share an entry (`answer_of_other_merchant`).  `get_iff` says when `get`
answers with the last entry of the same merchant, product and normalised question, as long as it
lives: exactly when the last entry of the same text is of them, or no entry in question lives.
-/

import AgenticCommerce.Json
import AgenticCommerce.Relational.Maps
import AgenticCommerce.Text.Segments
import AgenticCommerce.Text.Strings
import Mathlib.Algebra.Order.Ring.Rat
import Mathlib.Data.List.Induction
import Mathlib.Logic.Function.Basic

namespace AgenticCommerce
namespace ResearchCache

open Strings

/-- `TTL_STATIC_SPECS`. -/
def ttlStaticSpecs : ℤ := 30 * 86400

/-- A call of `set`, with the time of it. -/
structure SetCall where
  productId : String
  question : String
  answer : String
  evidence : List Json
  sourceUrl : Option String := none
  sourceDomain : Option String := none
  sourceType : Option String := none
  confidenceScore : ℚ := 1
  confidenceLevel : String := "HIGH"
  ttlSeconds : ℤ := ttlStaticSpecs
  merchantId : Option String := none
  now : ℚ

/-- What `get` asks for. -/
structure Query where
  productId : String
  question : String
  merchantId : Option String := none

/-- A call. -/
inductive Call where
  | set (call : SetCall)
  | get (query : Query) (now : ℚ)

/-- The time of a call. -/
def Call.now : Call → ℚ
  | .set call => call.now
  | .get _ now => now

/-- `CachedResearchEntry`. -/
structure CachedResearchEntry where
  queryHash : String
  productId : String
  question : String
  answer : String
  evidence : List Json
  sourceUrl : Option String
  sourceDomain : Option String
  sourceType : Option String
  confidenceScore : ℚ
  confidenceLevel : String
  createdAt : ℚ
  expiresAt : ℚ

/-- `CachedResearchEntry.is_expired`. -/
def CachedResearchEntry.isExpired (entry : CachedResearchEntry) (now : ℚ) : Bool :=
  decide (entry.expiresAt < now)

/-- An entry of the store, with the call that stored it. -/
structure Stored where
  entry : CachedResearchEntry
  source : SetCall

/-- `text.split()`. -/
def words (text : List Char) : List (List Char) := (text.splitOnP isSpace).filter (· ≠ [])

section

variable (sha256 : String → String) (lower : List Char → List Char)

/-- `norm_q`: the words of the question in lower case, with one space between them. -/
def normalizeQuestion (question : String) : List Char :=
  [' '].intercalate (words (strip (lower question.toList)))

/-- `namespace`: the merchant that is given, or `default`. -/
def namespaceOf (merchantId : Option String) : List Char :=
  let given := strip (merchantId.getD "").toList
  if given = [] then "default".toList else given

/-- `raw_key`. -/
def rawKey (query : Query) : List Char :=
  namespaceOf query.merchantId ++ ':' :: (strip query.productId.toList ++ ':' ::
    normalizeQuestion lower query.question)

/-- `compute_key`. -/
def computeKey (query : Query) : String := sha256 (String.ofList (rawKey lower query))

/-- What a call of `set` is an answer to. -/
def SetCall.query (call : SetCall) : Query where
  productId := call.productId
  question := call.question
  merchantId := call.merchantId

/-- The entry that a call of `set` stores. -/
def SetCall.entry (call : SetCall) : CachedResearchEntry where
  queryHash := computeKey sha256 lower call.query
  productId := call.productId
  question := call.question
  answer := call.answer
  evidence := call.evidence
  sourceUrl := call.sourceUrl
  sourceDomain := call.sourceDomain
  sourceType := call.sourceType
  confidenceScore := call.confidenceScore
  confidenceLevel := call.confidenceLevel
  createdAt := call.now
  expiresAt := call.now + call.ttlSeconds

/-- `_store`. -/
abbrev Store : Type := Map String Stored

/-- `set`. -/
def set (call : SetCall) (store : Store) : Store :=
  store.insert (computeKey sha256 lower call.query) ⟨call.entry sha256 lower, call⟩

/-- `get`: an entry that expired is deleted. -/
def get (query : Query) (now : ℚ) (store : Store) : Option Stored × Store :=
  let key := computeKey sha256 lower query
  match store.lookup key with
  | none => (none, store)
  | some stored =>
      if stored.entry.isExpired now then (none, store.erase key) else (some stored, store)

/-- The store after a call. -/
def step (store : Store) : Call → Store
  | .set call => set sha256 lower call store
  | .get query now => (get sha256 lower query now store).2

/-- The store after calls. -/
def run (calls : List Call) : Store := calls.foldl (step sha256 lower) ∅

end

/-! ### What should be answered -/

/-- The calls of `set`. -/
def sets (calls : List Call) : List SetCall :=
  calls.filterMap fun
    | .set call => some call
    | .get _ _ => none

/-- The last call of `set` that is such that `p`. -/
def lastSet (p : SetCall → Bool) (calls : List Call) : Option SetCall :=
  (sets calls).reverse.find? p

/-- The merchant, the product and the normalised question are those of the query. -/
def SetCall.answers (lower : List Char → List Char) (query : Query) (call : SetCall) : Bool :=
  decide (call.merchantId = query.merchantId ∧ call.productId = query.productId ∧
    normalizeQuestion lower call.question = normalizeQuestion lower query.question)

/-- The text that is hashed is that of the query. -/
def SetCall.framedAs (lower : List Char → List Char) (query : Query) (call : SetCall) : Bool :=
  decide (rawKey lower call.query = rawKey lower query)

/-- The entry has not expired. -/
def SetCall.lives (now : ℚ) (call : SetCall) : Bool := decide (now ≤ call.now + call.ttlSeconds)

/-- The clock does not go back. -/
def Ordered (calls : List Call) : Prop := calls.Pairwise fun a b => a.now ≤ b.now

/-- **The law of the research cache**, for a call of `get` after others: it returns the entry of the
last call of `set` with the same merchant, product and normalised question, if that has not expired,
and nothing otherwise; and no entry of another merchant. -/
structure Lawful (sha256 : String → String) (lower : List Char → List Char) (calls : List Call)
    (query : Query) (now : ℚ) : Prop where
  answers : (get sha256 lower query now (run sha256 lower calls)).1 =
    ((lastSet (SetCall.answers lower query) calls).filter (SetCall.lives now)).map fun call =>
      ⟨call.entry sha256 lower, call⟩
  isolates : ∀ stored, (get sha256 lower query now (run sha256 lower calls)).1 = some stored →
    stored.source.merchantId = query.merchantId

/-! ### What is in the store -/

section

variable {sha256 : String → String} {lower : List Char → List Char} {calls : List Call}
  {query : Query} {now : ℚ} {p : SetCall → Bool}

theorem lastSet_set {call : SetCall} :
    lastSet p (calls ++ [.set call]) = if p call then some call else lastSet p calls := by
  rw [lastSet, sets, List.filterMap_append]
  show (_ ++ [call]).reverse.find? p = _
  rw [List.reverse_append, List.reverse_singleton, List.singleton_append, List.find?_cons]
  cases p call <;> rfl

theorem lastSet_get : lastSet p (calls ++ [.get query now]) = lastSet p calls := by
  rw [lastSet, lastSet, sets, sets, List.filterMap_append]
  exact congrArg (fun l => l.reverse.find? p) (List.append_nil _)

/-- Of a more special kind, the last one is the last one of the general kind if that is special. -/
theorem lastSet_of_special {q : SetCall → Bool} (h : ∀ call, q call = true → p call = true)
    {call : SetCall} (hlast : lastSet p calls = some call) (hcall : q call = true) :
    lastSet q calls = some call := by
  rw [lastSet, List.find?_eq_some_iff_append] at hlast ⊢
  obtain ⟨-, before, after, hsplit, hbefore⟩ := hlast
  refine ⟨hcall, before, after, hsplit, fun other hother => ?_⟩
  have hnot := hbefore other hother
  cases hq : q other with
  | false => rfl
  | true =>
      rw [h other hq] at hnot
      cases hnot

/-- What answers a query is framed as it is. -/
theorem framedAs_of_answers {call : SetCall} (h : call.answers lower query = true) :
    call.framedAs lower query = true := by
  obtain ⟨hmerchant, hproduct, hquestion⟩ := of_decide_eq_true h
  refine decide_eq_true ?_
  rw [rawKey, rawKey]
  show namespaceOf call.merchantId ++ ':' :: (strip call.productId.toList ++ ':' ::
    normalizeQuestion lower call.question) = _
  rw [hmerchant, hproduct, hquestion]

/-- **What the store holds**: under the hash of a text, the last entry of that text, unless it
expired and was deleted. -/
def Holds (sha256 : String → String) (lower : List Char → List Char) (calls : List Call)
    (store : Store) : Prop :=
  ∀ query : Query, match store.lookup (computeKey sha256 lower query) with
    | some stored => ∃ call, lastSet (SetCall.framedAs lower query) calls = some call ∧
        stored = ⟨call.entry sha256 lower, call⟩
    | none => ∀ call, lastSet (SetCall.framedAs lower query) calls = some call →
        ∃ seen ∈ calls, call.lives seen.now = false

theorem isExpired_entry {call : SetCall} :
    (call.entry sha256 lower).isExpired now = !call.lives now := by
  rw [CachedResearchEntry.isExpired, SetCall.lives, SetCall.entry, ← decide_not]
  exact decide_eq_decide.2 not_le.symm

theorem computeKey_inj (hsha : Function.Injective sha256) {query' : Query} :
    computeKey sha256 lower query = computeKey sha256 lower query' ↔
      rawKey lower query = rawKey lower query' := by
  rw [computeKey, computeKey, hsha.eq_iff, String.ofList_inj]

theorem get_of_missing {store : Store}
    (h : store.lookup (computeKey sha256 lower query) = none) :
    get sha256 lower query now store = (none, store) := by
  unfold get
  dsimp only
  rw [h]

theorem get_of_expired {store : Store} {stored : Stored}
    (h : store.lookup (computeKey sha256 lower query) = some stored)
    (hexpired : stored.entry.isExpired now = true) :
    get sha256 lower query now store = (none, store.erase (computeKey sha256 lower query)) := by
  unfold get
  dsimp only
  rw [h]
  exact if_pos hexpired

theorem get_of_live {store : Store} {stored : Stored}
    (h : store.lookup (computeKey sha256 lower query) = some stored)
    (hexpired : stored.entry.isExpired now = false) :
    get sha256 lower query now store = (some stored, store) := by
  unfold get
  dsimp only
  rw [h]
  exact if_neg (by rw [hexpired]; exact Bool.false_ne_true)

/-- Under a key that a call leaves alone, the store holds what it held. -/
theorem Holds.of_same {store store' : Store} (h : Holds sha256 lower calls store) (call : Call)
    (hlookup : store'.lookup (computeKey sha256 lower query) =
      store.lookup (computeKey sha256 lower query))
    (hlast : lastSet (SetCall.framedAs lower query) (calls ++ [call]) =
      lastSet (SetCall.framedAs lower query) calls) :
    match store'.lookup (computeKey sha256 lower query) with
      | some stored => ∃ found,
          lastSet (SetCall.framedAs lower query) (calls ++ [call]) = some found ∧
            stored = ⟨found.entry sha256 lower, found⟩
      | none => ∀ found, lastSet (SetCall.framedAs lower query) (calls ++ [call]) = some found →
          ∃ seen ∈ calls ++ [call], found.lives seen.now = false := by
  have hbefore := h query
  rw [hlookup, hlast]
  cases hfound : store.lookup (computeKey sha256 lower query) with
  | some stored =>
      rw [hfound] at hbefore
      exact hbefore
  | none =>
      rw [hfound] at hbefore
      intro found hfound'
      obtain ⟨seen, hseen, hdead⟩ := hbefore found hfound'
      exact ⟨seen, List.mem_append_left _ hseen, hdead⟩

/-- What a call of `set` stores is the last entry of its text. -/
theorem Holds.set (hsha : Function.Injective sha256) {store : Store}
    (h : Holds sha256 lower calls store) (call : SetCall) :
    Holds sha256 lower (calls ++ [.set call]) (ResearchCache.set sha256 lower call store) := by
  intro query
  by_cases hkey : rawKey lower call.query = rawKey lower query
  · have hlookup : (ResearchCache.set sha256 lower call store).lookup
        (computeKey sha256 lower query) = some ⟨call.entry sha256 lower, call⟩ := by
      rw [ResearchCache.set, AList.lookup_set, if_pos ((computeKey_inj hsha).2 hkey.symm)]
    rw [hlookup]
    exact ⟨call, by rw [lastSet_set, SetCall.framedAs, if_pos (decide_eq_true hkey)], rfl⟩
  · refine h.of_same _ ?_ ?_
    · rw [ResearchCache.set, AList.lookup_set,
        if_neg fun heq => hkey ((computeKey_inj hsha).1 heq).symm]
    · rw [lastSet_set, SetCall.framedAs, if_neg (by simpa using hkey)]

/-- What a call of `get` deletes has expired. -/
theorem Holds.get {store : Store}
    (h : Holds sha256 lower calls store) (query : Query) (now : ℚ) :
    Holds sha256 lower (calls ++ [.get query now])
      (ResearchCache.get sha256 lower query now store).2 := by
  intro query'
  cases hfound : store.lookup (computeKey sha256 lower query) with
  | none =>
      rw [get_of_missing hfound]
      exact h.of_same _ rfl lastSet_get
  | some stored =>
      cases hexpired : stored.entry.isExpired now with
      | false =>
          rw [get_of_live hfound hexpired]
          exact h.of_same _ rfl lastSet_get
      | true =>
          rw [get_of_expired hfound hexpired]
          by_cases hkey : computeKey sha256 lower query' = computeKey sha256 lower query
          · -- the entry that is deleted is the last one of this text
            have hbefore := h query'
            rw [hkey, hfound] at hbefore
            obtain ⟨call, hlast, rfl⟩ := hbefore
            rw [hkey, AList.lookup_erase]
            intro found hlast'
            rw [lastSet_get, hlast] at hlast'
            obtain rfl := Option.some.inj hlast'
            rw [isExpired_entry, Bool.not_eq_true'] at hexpired
            exact ⟨.get query now, List.mem_append_right _ (List.mem_singleton_self _), hexpired⟩
          · refine h.of_same _ ?_ lastSet_get
            rw [AList.lookup_unset, if_neg hkey]

/-- **Every run** leaves the store as it should be. -/
theorem holds_run (hsha : Function.Injective sha256) (calls : List Call) :
    Holds sha256 lower calls (run sha256 lower calls) := by
  induction calls using List.reverseRecOn with
  | nil => exact fun query call hcall => nomatch hcall
  | append_singleton calls call ih =>
      rw [run, List.foldl_append]
      cases call with
      | set call => exact ih.set hsha call
      | get query now => exact ih.get query now

/-- **What `get` returns**: the last entry of the same text, if it lives. -/
theorem get_eq (hsha : Function.Injective sha256) (hordered : Ordered (calls ++ [.get query now])) :
    (get sha256 lower query now (run sha256 lower calls)).1 =
      ((lastSet (SetCall.framedAs lower query) calls).filter (SetCall.lives now)).map fun call =>
        ⟨call.entry sha256 lower, call⟩ := by
  have hbefore (seen : Call) (hseen : seen ∈ calls) : seen.now ≤ now :=
    (List.pairwise_append.1 hordered).2.2 seen hseen _ (List.mem_singleton_self _)
  have hholds := @holds_run _ lower hsha calls query
  cases hfound : (run sha256 lower calls).lookup (computeKey sha256 lower query) with
  | none =>
      rw [hfound] at hholds
      rw [get_of_missing hfound]
      cases hlast : lastSet (SetCall.framedAs lower query) calls with
      | none => rfl
      | some call =>
          obtain ⟨seen, hseen, hdead⟩ := hholds call hlast
          have hlives : call.lives now = false := by
            have hlt := of_decide_eq_false hdead
            exact decide_eq_false fun hle => hlt ((hbefore seen hseen).trans hle)
          rw [Option.filter_some, hlives]
          rfl
  | some stored =>
      rw [hfound] at hholds
      obtain ⟨call, hlast, rfl⟩ := hholds
      rw [hlast, Option.filter_some]
      cases hlives : call.lives now with
      | true => rw [get_of_live hfound (by rw [isExpired_entry, hlives]; rfl)]; rfl
      | false => rw [get_of_expired hfound (by rw [isExpired_entry, hlives]; rfl)]; rfl

/-! ### When the law holds -/

/-- **When a call of `get` answers as it should**: the last entry of the same text is one of the
same merchant, product and normalised question; or it has expired, and so has the last entry of
these. -/
theorem get_iff (hsha : Function.Injective sha256)
    (hordered : Ordered (calls ++ [.get query now])) :
    Lawful sha256 lower calls query now ↔
      ∀ last, lastSet (SetCall.framedAs lower query) calls = some last →
        last.answers lower query = true ∨
          last.lives now = false ∧
            ∀ call, lastSet (SetCall.answers lower query) calls = some call →
              call.lives now = false := by
  have hget := @get_eq _ lower _ _ _ hsha hordered
  constructor
  · intro h last hlast
    refine or_iff_not_imp_left.2 fun hother => ?_
    have hanswer := hget.symm.trans h.answers
    rw [hlast, Option.filter_some] at hanswer
    cases hlives : last.lives now with
    | true =>
        rw [hlives, if_pos rfl, Option.map_some] at hanswer
        obtain ⟨call, hcall, heq⟩ := Option.map_eq_some_iff.1 hanswer.symm
        obtain rfl : call = last := (Stored.mk.inj heq).2
        have hfind := (Option.filter_eq_some_iff.1 hcall).1
        exact absurd (List.find?_some hfind) hother
    | false =>
        refine ⟨rfl, fun call hcall => ?_⟩
        rw [hlives, if_neg Bool.false_ne_true, hcall, Option.filter_some,
          Option.map_none] at hanswer
        cases hcallLives : call.lives now with
        | false => rfl
        | true =>
            rw [hcallLives, if_pos rfl] at hanswer
            cases hanswer
  · intro h
    have hanswers : (get sha256 lower query now (run sha256 lower calls)).1 =
        ((lastSet (SetCall.answers lower query) calls).filter (SetCall.lives now)).map
          fun call => ⟨call.entry sha256 lower, call⟩ := by
      rw [hget]
      cases hlast : lastSet (SetCall.framedAs lower query) calls with
      | none =>
          have hnone : lastSet (SetCall.answers lower query) calls = none := by
            refine List.find?_eq_none.2 fun call hcall hanswers => ?_
            exact List.find?_eq_none.1 hlast call hcall (framedAs_of_answers hanswers)
          rw [hnone]
      | some last =>
          rcases h last hlast with hsame | ⟨hdead, hothers⟩
          · rw [lastSet_of_special (fun _ => framedAs_of_answers) hlast hsame]
          · rw [Option.filter_some, hdead]
            cases hcall : lastSet (SetCall.answers lower query) calls with
            | none => rfl
            | some call =>
                rw [Option.filter_some, hothers call hcall]
                rfl
    refine ⟨hanswers, fun stored hstored => ?_⟩
    obtain ⟨call, hcall, rfl⟩ := Option.map_eq_some_iff.1 (hanswers.symm.trans hstored)
    have hfind := (Option.filter_eq_some_iff.1 hcall).1
    have hsame := List.find?_some hfind
    exact (of_decide_eq_true hsame).1

/-- **Ids without colons keep the texts apart**: merchants that are given without white space around
them, and are not the default, share no text with others, and neither do products. -/
theorem answers_of_framedAs {call : SetCall} {merchant merchant' : String}
    (hcall : call.merchantId = some merchant) (hquery : query.merchantId = some merchant')
    (hproper : ∀ id ∈ [merchant, merchant', call.productId, query.productId],
      ':' ∉ id.toList ∧ strip id.toList = id.toList)
    (hnonempty : merchant ≠ "" ∧ merchant' ≠ "")
    (hframed : call.framedAs lower query = true) : call.answers lower query = true := by
  have hnamespace {id : String} (hid : id ≠ "") (hstrip : strip id.toList = id.toList) :
      namespaceOf (some id) = id.toList := by
    rw [namespaceOf, Option.getD_some, hstrip, if_neg]
    exact fun h => hid (String.toList_inj.1 h)
  simp only [List.forall_mem_cons] at hproper
  obtain ⟨⟨hcolon, hstrip⟩, ⟨hcolon', hstrip'⟩, ⟨hproduct, hstripped⟩, ⟨hproduct', hstripped'⟩,
    -⟩ := hproper
  have hraw := of_decide_eq_true hframed
  rw [rawKey, rawKey, hquery, show call.query.merchantId = some merchant from hcall,
    hnamespace hnonempty.1 hstrip, hnamespace hnonempty.2 hstrip',
    show call.query.productId = call.productId from rfl, hstripped, hstripped'] at hraw
  obtain ⟨hmerchant, hrest⟩ := (Segments.cut_inj hcolon hcolon').1 hraw
  obtain ⟨hproductId, hquestion⟩ := (Segments.cut_inj hproduct hproduct').1 hrest
  refine decide_eq_true ⟨?_, String.toList_inj.1 hproductId, hquestion⟩
  rw [hcall, hquery, String.toList_inj.1 hmerchant]

end

/-! ### Two shops -/

/-- An answer that a shop stored. -/
def dockAnswer : SetCall where
  productId := "dock"
  question := "Does it charge?"
  answer := "Yes, with 100 W."
  evidence := []
  merchantId := some "shop:eu"
  now := 0

/-- A question of another shop, whose product has the rest of that id. -/
def otherQuestion : Query where
  productId := "eu:dock"
  question := "Does it charge?"
  merchantId := some "shop"

/-- The shop that stored it reads it again. -/
theorem own_answer : Lawful id id [.set dockAnswer] dockAnswer.query 60 := by
  refine (get_iff Function.injective_id ?_).2 fun last hlast => .inl ?_
  · refine List.pairwise_pair.2 ?_
    show (0 : ℚ) ≤ 60
    decide
  · obtain rfl : last = dockAnswer :=
      List.mem_singleton.1 (List.mem_of_find?_eq_some hlast)
    decide

/-- **An answer of another merchant**, whose id and product have the same text between them. -/
theorem answer_of_other_merchant :
    ¬ Lawful id id [.set dockAnswer] otherQuestion 60 := by
  intro h
  have hordered : Ordered ([.set dockAnswer] ++ [.get otherQuestion 60]) := by
    refine List.pairwise_pair.2 ?_
    show (0 : ℚ) ≤ 60
    decide
  have hlast : lastSet (SetCall.framedAs id otherQuestion) [.set dockAnswer] = some dockAnswer := by
    have hframed : dockAnswer.framedAs id otherQuestion = true := by decide
    exact List.find?_cons_of_pos hframed
  have hget := @get_eq _ id _ _ _ Function.injective_id hordered
  rw [hlast, Option.filter_some, if_pos (by decide +kernel)] at hget
  exact absurd (h.isolates _ hget) (by decide)

end ResearchCache
end AgenticCommerce
