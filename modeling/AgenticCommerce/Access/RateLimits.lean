/-
# The rate limits of the routes

The middleware of `apps/api/middleware/ratelimit.py`: a rule is looked up for the method and the
path of a request, exactly or by the longest prefix, the request is counted in a bucket of the
counter store, and it is refused when the count is over the limit of the rule.

The bucket is named after the concrete path.  A rule for a prefix is looked up for many paths, each
of which has a bucket of its own, so its limit holds as long as a caller keeps to one path
(`admitted_le_limit`), and not otherwise (`path_after_path`).
-/

import AgenticCommerce.Relational.Maps
import Mathlib.Algebra.Order.Floor.Ring
import Mathlib.Data.List.Induction
import Mathlib.Data.Rat.Floor

namespace AgenticCommerce
namespace Access
namespace RateLimits

/-- `RateLimitRule`, with what `__post_init__` demands. -/
structure RateLimitRule where
  limit : ℕ
  windowSeconds : ℕ := 60
  limit_pos : 1 ≤ limit := by decide
  window_pos : 1 ≤ windowSeconds := by decide
  deriving DecidableEq

/-- `window_start`. -/
def RateLimitRule.windowStart (rule : RateLimitRule) (now : ℚ) : ℤ :=
  ⌊now / rule.windowSeconds⌋ * rule.windowSeconds

/-- `retry_after_seconds`. -/
def RateLimitRule.retryAfterSeconds (rule : RateLimitRule) (now : ℚ) : ℤ :=
  max 1 ⌈(rule.windowSeconds : ℚ) - (now - rule.windowStart now)⌉

/-- `DEFAULT_RULE`. -/
def defaultRule : RateLimitRule := { limit := 120, windowSeconds := 60 }

/-- `EXEMPT_PATH_PREFIXES`. -/
def exemptPathPrefixes : List String :=
  ["/health", "/docs", "/redoc", "/openapi.json", "/favicon.ico"]

/-- An entry of the table of rules.  The key `"METHOD /path"` is kept in its two parts, into which
`partition` cuts it, since a method holds no blank. -/
structure Entry where
  method : String
  path : String
  rule : RateLimitRule
  deriving DecidableEq

/-- An entry for a method and a path. -/
def declare (method path : String) (limit windowSeconds : ℕ) (hlimit : 1 ≤ limit := by decide)
    (hwindow : 1 ≤ windowSeconds := by decide) : Entry :=
  { method, path, rule := ⟨limit, windowSeconds, hlimit, hwindow⟩ }

/-- `_ROUTE_RULES`, with what the routers declare. -/
def routeRules : List Entry :=
  [declare "POST" "/api/v1/payments" 10 60,
   declare "POST" "/api/v1/payments/*" 10 60,
   declare "POST" "/api/v1/authorizations" 20 60,
   declare "POST" "/api/v1/authorization" 20 60,
   declare "POST" "/api/v1/authorization/*" 20 60,
   declare "POST" "/api/v1/agent/payment" 10 60,
   declare "POST" "/api/v1/agent/payments" 10 60,
   declare "POST" "/api/v1/agent/authorization" 20 60,
   declare "POST" "/api/v1/agent/authorizations" 20 60,
   declare "POST" "/api/v1/agent/auth/token" 20 60,
   declare "POST" "/api/v1/catalog/search" 60 60,
   declare "GET" "/api/v1/catalog/*" 60 60,
   declare "POST" "/api/v1/agent/search" 60 60,
   declare "POST" "/api/v1/agent/offers/*" 60 60,
   declare "POST" "/api/explore" 20 60,
   declare "POST" "/api/v1/agent/explore" 20 60,
   declare "POST" "/api/v1/research/ask" 20 60,
   declare "POST" "/api/v1/connectors/*" 30 60,
   declare "POST" "/api/v1/checkouts" 30 60,
   declare "POST" "/api/v1/checkout" 30 60,
   declare "POST" "/api/v1/checkout/*" 30 60,
   declare "POST" "/api/v1/agent/checkout" 30 60,
   declare "POST" "/api/v1/agent/checkouts" 30 60,
   declare "POST" "/api/v1/webhooks/*" 300 60,
   declare "POST" "/api/create-order" 10 60,
   declare "POST" "/api/v1/payments/razorpay/create-order" 10 60,
   declare "POST" "/api/v1/payments/razorpay/checkout-url" 10 60,
   declare "POST" "/api/verify-payment" 20 60,
   declare "POST" "/api/v1/payments/razorpay/verify-signature" 20 60,
   declare "POST" "/api/v1/agent/tools/execute" 30 60,
   declare "POST" "/api/v1/agent/tool/execute" 30 60,
   declare "POST" "/api/v1/agent/converse" 20 60,
   declare "POST" "/api/v1/auth/login" 10 300,
   declare "POST" "/api/v1/auth/signup" 10 300,
   declare "POST" "/api/v1/auth/change-password" 10 300,
   declare "POST" "/api/v1/auth/demo-session" 120 300,
   declare "GET" "/api/v1/auth/me" 600 60]

/-! ### The rule of a request -/

/-- `method.upper()`; a method is a token of ASCII. -/
def upper (method : String) : String := String.ofList (method.toList.map Char.toUpper)

/-- `text.startswith(start)`. -/
def startsWith (start text : String) : Bool := start.toList.isPrefixOf text.toList

/-- `is_exempt`. -/
def isExempt (path : String) : Bool :=
  exemptPathPrefixes.any fun start => path == start || startsWith start path

/-- What a path begins with under a key that ends in a star. -/
def Entry.stem (entry : Entry) : Option (List Char) :=
  if entry.path.toList.getLast? = some '*' then some entry.path.toList.dropLast else none

/-- The body of the loop of `rule_for`, over the best entry so far. -/
def better (method path : String) (best : Option (ℕ × Entry)) (entry : Entry) :
    Option (ℕ × Entry) :=
  match entry.stem with
  | none => best
  | some stem =>
      if entry.method = upper method ∧ stem.isPrefixOf path.toList = true ∧
          best.all (fun best => decide (best.1 < stem.length)) = true then
        some (stem.length, entry)
      else best

/-- The entry that `rule_for` finds. -/
def entryFor (method path : String) : Option Entry :=
  match routeRules.find? fun entry =>
      decide (entry.method = upper method ∧ entry.path = path) with
  | some entry => some entry
  | none => (routeRules.foldl (better method path) none).map Prod.snd

/-- `rule_for`. -/
def ruleFor (method path : String) (default : RateLimitRule) : RateLimitRule :=
  ((entryFor method path).map Entry.rule).getD default

/-! ### Counting -/

/-- A request, with whom it is counted against: `actor_identity`. -/
structure Request where
  method : String
  path : String
  identity : String
  now : ℚ

/-- `_bucket_key`. -/
def bucketKey (rule : RateLimitRule) (identity method path : String) (now : ℚ) : String :=
  "ratelimit:" ++ upper method ++ ":" ++ path ++ ":" ++ identity ++ ":" ++
    toString (rule.windowStart now)

/-- What becomes of a request. -/
inductive Outcome where
  /-- The path is exempt, or the limiter is off. -/
  | uncounted
  /-- The store did not answer. -/
  | failedOpen
  /-- It passes, with the headers that say what remains. -/
  | passed (limit remaining : ℕ)
  /-- `RATE_LIMITED`, with the details. -/
  | refused (limit windowSeconds : ℕ) (retryAfterSeconds : ℤ)
  deriving DecidableEq

/-- The request reaches its handler. -/
def Outcome.admitted : Outcome → Bool
  | refused .. => false
  | _ => true

/-- `RateLimitMiddleware`. -/
structure Middleware where
  enabled : Bool := true
  default : RateLimitRule := defaultRule

/-- The rule of a request. -/
def Middleware.rule (middleware : Middleware) (request : Request) : RateLimitRule :=
  ruleFor request.method request.path middleware.default

/-- The bucket of a request. -/
def Middleware.bucket (middleware : Middleware) (request : Request) : String :=
  bucketKey (middleware.rule request) request.identity request.method request.path request.now

/-- A counter store: `hit`, without an answer where it raises. -/
abbrev Hit (σ : Type) := σ → String → ℕ → Option ℕ × σ

section

variable {σ : Type} (middleware : Middleware) (hit : Hit σ)

/-- What a request that is counted comes to. -/
def Middleware.judge (request : Request) : Option ℕ → Outcome
  | none => .failedOpen
  | some count =>
      if (middleware.rule request).limit < count then
        .refused (middleware.rule request).limit (middleware.rule request).windowSeconds
          ((middleware.rule request).retryAfterSeconds request.now)
      else .passed (middleware.rule request).limit ((middleware.rule request).limit - count)

/-- `dispatch`. -/
def Middleware.dispatch (state : σ) (request : Request) : Outcome × σ :=
  if middleware.enabled = false ∨ isExempt request.path = true then (.uncounted, state)
  else
    let answer := hit state (middleware.bucket request) (middleware.rule request).windowSeconds
    (middleware.judge request answer.1, answer.2)

/-! ### Runs -/

/-- The store, with the requests that were answered so far. -/
structure Log (σ : Type) where
  state : σ
  answers : List (Request × Outcome) := []

/-- One more request. -/
def Middleware.step (log : Log σ) (request : Request) : Log σ :=
  { state := (middleware.dispatch hit log.state request).2
    answers := log.answers ++ [(request, (middleware.dispatch hit log.state request).1)] }

/-- A run of requests, from a store. -/
def Middleware.run (state : σ) (requests : List Request) : Log σ :=
  requests.foldl (middleware.step hit) { state }

/-- The requests that are counted in a bucket. -/
def Middleware.inBucket (key : String) (request : Request) : Bool :=
  middleware.enabled && !isExempt request.path && decide (middleware.bucket request = key)

/-- **The store counts the requests**: it answers each of them with the number of those in its
bucket so far, itself among them. -/
def Middleware.Counts (state : σ) (requests : List Request) : Prop :=
  ∀ done request, done ++ [request] <+: requests →
    middleware.inBucket (middleware.bucket request) request = true →
      (hit (middleware.run hit state done).state (middleware.bucket request)
        (middleware.rule request).windowSeconds).1 =
          some (done.countP (middleware.inBucket (middleware.bucket request)) + 1)

end

/-- The request is one of the actor, and its rule is that of the entry. -/
def Request.resolves (request : Request) (actor : String) (entry : Entry) : Bool :=
  decide (request.identity = actor ∧ entryFor request.method request.path = some entry)

/-- The requests of an actor that pass under an entry. -/
def admitted {σ : Type} (log : Log σ) (actor : String) (entry : Entry) :
    List (Request × Outcome) :=
  log.answers.filter fun answer => answer.1.resolves actor entry && answer.2.admitted

/-- `InMemoryRateLimitBackend`. -/
structure InMemoryBackend where
  counts : Map String ℕ := ∅
  maxKeys : ℕ := 4096

/-- The counters, dropped where there are too many of them. -/
def InMemoryBackend.pruned (backend : InMemoryBackend) : InMemoryBackend :=
  if backend.maxKeys < backend.counts.size then { backend with counts := ∅ } else backend

/-- The count of a key with one more hit. -/
def InMemoryBackend.count (backend : InMemoryBackend) (key : String) : ℕ :=
  (backend.counts.lookup key).getD 0 + 1

/-- The counters after one more hit. -/
def InMemoryBackend.add (backend : InMemoryBackend) (key : String) : InMemoryBackend :=
  { backend with counts := backend.counts.insert key (backend.count key) }

/-- `hit`. -/
def InMemoryBackend.hit : Hit InMemoryBackend := fun backend key _ =>
  (some (backend.pruned.count key), backend.pruned.add key)

/-! ### The entries of the table -/

/-- The entry that is found is one of the table, for the method and the path. -/
theorem mem_of_entryFor {method path : String} {entry : Entry}
    (h : entryFor method path = some entry) :
    entry ∈ routeRules ∧ entry.method = upper method ∧
      (entry.path = path ∨ ∃ stem, entry.stem = some stem ∧ stem <+: path.toList) := by
  unfold entryFor at h
  split at h
  · rename_i found hfound
    obtain rfl := Option.some.inj h
    have hmatch := List.find?_some hfound
    rw [decide_eq_true_eq] at hmatch
    exact ⟨List.mem_of_find?_eq_some hfound, hmatch.1, .inl hmatch.2⟩
  · obtain ⟨best, hbest, rfl⟩ := Option.map_eq_some_iff.1 h
    have hfold : ∀ (entries : List Entry) (start : Option (ℕ × Entry)),
        entries.foldl (better method path) start = some best →
          start = some best ∨ best.2 ∈ entries ∧ best.2.method = upper method ∧
            ∃ stem, best.2.stem = some stem ∧ stem <+: path.toList := by
      intro entries
      induction entries with
      | nil => exact fun start h => .inl h
      | cons entry entries ih =>
          intro start hrun
          rcases ih _ hrun with hstart | ⟨hmem, hrest⟩
          · unfold better at hstart
            split at hstart
            · exact .inl hstart
            · rename_i stem hstem
              split_ifs at hstart with hbetter
              · obtain rfl := Option.some.inj hstart
                exact .inr ⟨List.mem_cons_self, hbetter.1, stem, hstem,
                  List.isPrefixOf_iff_prefix.1 hbetter.2.1⟩
              · exact .inl hstart
          · exact .inr ⟨List.mem_cons_of_mem _ hmem, hrest⟩
    rcases hfold _ _ hbest with hnone | ⟨hmem, hmethod, hstem⟩
    · cases hnone
    · exact ⟨hmem, hmethod, .inr hstem⟩

/-- No entry is for a path that is exempt. -/
theorem not_isExempt {method path : String} {entry : Entry} (h : entryFor method path = some entry) :
    isExempt path = false := by
  have htable : ∀ entry ∈ routeRules, entry.path.toList.take 2 = ['/', 'a'] ∧
      ∀ stem, entry.stem = some stem → stem.take 2 = ['/', 'a'] := by
    have hdecide : (routeRules.all fun entry => decide (entry.path.toList.take 2 = ['/', 'a']) &&
        entry.stem.all fun stem => decide (stem.take 2 = ['/', 'a'])) = true := by decide +kernel
    intro entry hentry
    have := List.all_eq_true.1 hdecide entry hentry
    rw [Bool.and_eq_true, decide_eq_true_eq] at this
    refine ⟨this.1, fun stem hstem => ?_⟩
    rw [hstem] at this
    exact of_decide_eq_true this.2
  have hexempt : ∀ start ∈ exemptPathPrefixes, start.toList.take 2 ≠ ['/', 'a'] ∧
      2 ≤ start.toList.length := by decide +kernel
  -- what begins with the start of an entry begins otherwise than what is exempt
  have hbegins : path.toList.take 2 = ['/', 'a'] := by
    obtain ⟨hmem, -, rfl | ⟨stem, hstem, rest, hrest⟩⟩ := mem_of_entryFor h
    · exact (htable entry hmem).1
    · have htake := (htable entry hmem).2 stem hstem
      have hlength : 2 ≤ stem.length := by
        have := congrArg List.length htake
        rw [List.length_take] at this
        simp only [List.length_cons, List.length_nil] at this
        omega
      rw [← hrest, List.take_append_of_le_length hlength, htake]
  rw [Bool.eq_false_iff]
  intro htrue
  obtain ⟨start, hstart, hmatch⟩ := List.any_eq_true.1 htrue
  obtain ⟨hne, hlength⟩ := hexempt start hstart
  have hinitial : start.toList <+: path.toList := by
    rcases Bool.or_eq_true _ _ ▸ hmatch with hsame | hbefore
    · exact eq_of_beq hsame ▸ List.prefix_refl _
    · exact List.isPrefixOf_iff_prefix.1 hbefore
  obtain ⟨rest, hrest⟩ := hinitial
  rw [← hrest, List.take_append_of_le_length hlength] at hbegins
  exact hne hbegins

/-! ### What passes under an entry -/

section

variable {σ : Type} {middleware : Middleware} {hit : Hit σ} {state : σ}
  {requests done : List Request} {request : Request} {actor : String} {entry : Entry}

theorem run_concat : middleware.run hit state (done ++ [request]) =
    middleware.step hit (middleware.run hit state done) request := by
  rw [Middleware.run, List.foldl_append]
  rfl

/-- The requests of an actor under an entry. -/
def resolving (actor : String) (entry : Entry) (requests : List Request) : List Request :=
  requests.filter fun request => request.resolves actor entry

theorem admitted_step (log : Log σ) : admitted (middleware.step hit log request) actor entry =
    admitted log actor entry ++
      if request.resolves actor entry = true ∧
        (middleware.dispatch hit log.state request).1.admitted = true then
          [(request, (middleware.dispatch hit log.state request).1)] else [] := by
  rw [admitted, Middleware.step, List.filter_append, ← admitted]
  congr 1
  by_cases h : request.resolves actor entry = true ∧
    (middleware.dispatch hit log.state request).1.admitted = true
  · rw [if_pos h, List.filter_cons_of_pos (by simpa using h)]
    rfl
  · rw [if_neg h, List.filter_cons_of_neg (by simpa using h)]
    rfl

/-- What passes is among what is asked. -/
theorem admitted_le_resolving (requests : List Request) :
    (admitted (middleware.run hit state requests) actor entry).length ≤
      (resolving actor entry requests).length := by
  induction requests using List.reverseRecOn with
  | nil => exact Nat.le_refl _
  | append_singleton done request ih =>
      rw [run_concat, admitted_step, resolving, List.filter_append, ← resolving, List.length_append,
        List.length_append]
      refine Nat.add_le_add ih ?_
      split_ifs with h
      · have hkept : [request].filter (fun r => r.resolves actor entry) = [request] :=
          List.filter_cons_of_pos h.1
        rw [hkept]
        exact Nat.le_refl 1
      · exact Nat.zero_le _

/-- Under an entry a request is counted by the rule of the entry. -/
theorem rule_of_resolves (h : request.resolves actor entry = true) :
    middleware.rule request = entry.rule := by
  rw [Request.resolves, decide_eq_true_eq] at h
  rw [Middleware.rule, ruleFor, h.2]
  rfl

/-- Two requests of an actor under an entry, for one path and in one window, share a bucket. -/
theorem bucket_eq {other : Request} (h : request.resolves actor entry = true)
    (h' : other.resolves actor entry = true) (hpath : request.path = other.path)
    (hwindow : entry.rule.windowStart request.now = entry.rule.windowStart other.now) :
    middleware.bucket request = middleware.bucket other := by
  have hmethod : upper request.method = upper other.method := by
    rw [Request.resolves, decide_eq_true_eq] at h h'
    rw [← (mem_of_entryFor h.2).2.1, ← (mem_of_entryFor h'.2).2.1]
  have hidentity : request.identity = other.identity := by
    rw [Request.resolves, decide_eq_true_eq] at h h'
    rw [h.1, h'.1]
  unfold Middleware.bucket bucketKey
  rw [rule_of_resolves h, rule_of_resolves h', hmethod, hidentity, hpath, hwindow]

/-- A request that passes under an entry was counted within the limit. -/
theorem count_le_of_admitted {state' : σ} (henabled : middleware.enabled = true)
    (h : request.resolves actor entry = true) {count : ℕ}
    (hcount : (hit state' (middleware.bucket request) (middleware.rule request).windowSeconds).1 =
      some count)
    (hadmitted : (middleware.dispatch hit state' request).1.admitted = true) :
    count ≤ entry.rule.limit := by
  have hexempt : isExempt request.path = false := by
    rw [Request.resolves, decide_eq_true_eq] at h
    exact not_isExempt h.2
  rw [Middleware.dispatch, if_neg (by simp [henabled, hexempt])] at hadmitted
  dsimp only at hadmitted
  rw [hcount, Middleware.judge, rule_of_resolves h] at hadmitted
  split_ifs at hadmitted with hover
  · cases hadmitted
  · omega

/-- The actor keeps to one path under the entry. -/
def OnePath (actor : String) (entry : Entry) (requests : List Request) : Prop :=
  ∀ request ∈ requests, ∀ other ∈ requests, request.resolves actor entry = true →
    other.resolves actor entry = true → request.path = other.path

/-- **The limit of an entry holds in a window** for an actor that keeps to one path under it, or
asks no more often than it allows. -/
theorem admitted_le_limit (henabled : middleware.enabled = true)
    (hcounts : middleware.Counts hit state requests) (start : ℤ)
    (hwindow : ∀ request ∈ requests, request.resolves actor entry = true →
      entry.rule.windowStart request.now = start)
    (hkeeps : OnePath actor entry requests ∨
      (resolving actor entry requests).length ≤ entry.rule.limit) :
    (admitted (middleware.run hit state requests) actor entry).length ≤ entry.rule.limit := by
  rcases hkeeps with hpath | hfew
  · induction requests using List.reverseRecOn with
    | nil => exact Nat.zero_le _
    | append_singleton done request ih =>
        have hdone := ih (fun before r hinitial => hcounts before r
            (hinitial.trans (List.prefix_append _ _)))
          (fun r hr => hwindow r (List.mem_append_left _ hr))
          (fun r hr r' hr' => hpath r (List.mem_append_left _ hr) r' (List.mem_append_left _ hr'))
        rw [run_concat, admitted_step]
        split_ifs with h
        · obtain ⟨hresolves, hadmitted⟩ := h
          have hlast : request ∈ done ++ [request] := by simp
          have hexempt : isExempt request.path = false := by
            have hentry := hresolves
            rw [Request.resolves, decide_eq_true_eq] at hentry
            exact not_isExempt hentry.2
          have hcount := count_le_of_admitted henabled hresolves
            (hcounts done request (List.prefix_refl _)
              (by simp [Middleware.inBucket, henabled, hexempt])) hadmitted
          -- the bucket holds every request of the actor under the entry
          have hbucket : (resolving actor entry done).length ≤
              done.countP (middleware.inBucket (middleware.bucket request)) := by
            rw [resolving, ← List.countP_eq_length_filter]
            refine List.countP_mono_left fun r hr hr' => ?_
            have hexempt' : isExempt r.path = false := by
              have hentry := hr'
              rw [Request.resolves, decide_eq_true_eq] at hentry
              exact not_isExempt hentry.2
            have hsame := @bucket_eq middleware _ _ _ _ hr' hresolves
              (hpath r (List.mem_append_left _ hr) request hlast hr' hresolves)
              ((hwindow r (List.mem_append_left _ hr) hr').trans
                (hwindow request hlast hresolves).symm)
            simp [Middleware.inBucket, henabled, hexempt', hsame]
          have hbefore := @admitted_le_resolving _ middleware hit state actor entry done
          rw [List.length_append, List.length_singleton]
          omega
        · rw [List.append_nil]
          exact hdone
  · exact (admitted_le_resolving requests).trans hfew

end

/-! ### The store in memory -/

/-- The bucket that a request is counted in, if it is counted. -/
def Middleware.counted (middleware : Middleware) (request : Request) : Option String :=
  if middleware.enabled = false ∨ isExempt request.path = true then none
  else some (middleware.bucket request)

theorem inBucket_iff {middleware : Middleware} {key : String} {request : Request} :
    middleware.inBucket key request = true ↔ middleware.counted request = some key := by
  rw [Middleware.inBucket, Middleware.counted]
  cases middleware.enabled <;> cases isExempt request.path <;> simp

/-- **The store in memory counts the requests** until it holds more buckets than it may. -/
theorem counts_requests (middleware : Middleware) {requests : List Request}
    (hsize : requests.length ≤ 4096) :
    middleware.Counts InMemoryBackend.hit {} requests := by
  have hrun : ∀ done, done <+: requests →
      (middleware.run InMemoryBackend.hit {} done).state.maxKeys = 4096 ∧
        (middleware.run InMemoryBackend.hit {} done).state.counts.size ≤ done.length ∧
          ∀ key, ((middleware.run InMemoryBackend.hit {} done).state.counts.lookup key).getD 0 =
            done.countP (middleware.inBucket key) := by
    intro done
    induction done using List.reverseRecOn with
    | nil => exact fun _ => ⟨rfl, Nat.le_refl 0, fun _ => rfl⟩
    | append_singleton done request ih =>
        intro hinitial
        obtain ⟨hmax, hcount, hlookup⟩ := ih ((List.prefix_append _ _).trans hinitial)
        have hlength := hinitial.length_le
        rw [List.length_append, List.length_singleton] at hlength
        generalize hbefore : (middleware.run InMemoryBackend.hit {} done).state = before
          at hmax hcount hlookup
        have hstep : (middleware.run InMemoryBackend.hit {} (done ++ [request])).state =
            (middleware.dispatch InMemoryBackend.hit before request).2 := by
          rw [run_concat, ← hbefore]
          rfl
        rw [hstep, Middleware.dispatch, List.length_append, List.length_singleton]
        split_ifs with hexempt
        · refine ⟨hmax, hcount.trans (Nat.le_succ _), fun key => ?_⟩
          have hnone : middleware.inBucket key request = false := by
            rw [Bool.eq_false_iff, Ne, inBucket_iff, Middleware.counted, if_pos hexempt]
            exact nofun
          rw [hlookup, List.countP_append, List.countP_singleton, hnone]
          rfl
        · have hroom : before.pruned = before := if_neg (by omega)
          show ((InMemoryBackend.pruned before).add _).maxKeys = _ ∧
            ((InMemoryBackend.pruned before).add _).counts.size ≤ _ ∧
              ∀ key, (((InMemoryBackend.pruned before).add _).counts.lookup key).getD 0 = _
          rw [hroom]
          refine ⟨hmax, AList.size_insert_le.trans (Nat.add_le_add_right hcount 1), fun key => ?_⟩
          rw [InMemoryBackend.add, AList.lookup_set, List.countP_append, List.countP_singleton,
            ← hlookup]
          by_cases hkey : key = middleware.bucket request
          · have hin : middleware.inBucket key request = true := by
              rw [inBucket_iff, Middleware.counted, if_neg hexempt, hkey]
            rw [if_pos hkey, if_pos hin, hkey]
            rfl
          · have hin : ¬middleware.inBucket key request = true := by
              rw [inBucket_iff, Middleware.counted, if_neg hexempt]
              exact fun h => hkey (Option.some.inj h).symm
            rw [if_neg hkey, if_neg hin]
            rfl
  intro done request hinitial hin
  obtain ⟨hmax, hcount, hlookup⟩ := hrun done ((List.prefix_append _ _).trans hinitial)
  have hlength := hinitial.length_le
  rw [List.length_append, List.length_singleton] at hlength
  have hroom : (middleware.run InMemoryBackend.hit {} done).state.pruned =
      (middleware.run InMemoryBackend.hit {} done).state := if_neg (by omega)
  rw [InMemoryBackend.hit, hroom, InMemoryBackend.count, hlookup]

/-! ### Path after path -/

/-- The entry of the payments. -/
private def paymentsEntry : Entry := declare "POST" "/api/v1/payments/*" 10 60

/-- A buyer. -/
private def buyer : String := "actor:merchant_a:buyer_1"

/-- A request for a payment. -/
private def payment (name : String) : Request :=
  { method := "POST", path := "/api/v1/payments/" ++ name, identity := buyer, now := 0 }

/-- Ten requests of one payment, and one of another. -/
private def elevenPayments : List Request := List.replicate 10 (payment "pay_1") ++ [payment "pay_2"]

/-- A caller that keeps to one payment is held to the limit. -/
theorem one_payment : (admitted (Middleware.run {} InMemoryBackend.hit {}
    (List.replicate 12 (payment "pay_1"))) buyer paymentsEntry).length ≤ paymentsEntry.rule.limit := by
  refine admitted_le_limit rfl (counts_requests _ (by decide)) 0 ?_ (.inl ?_)
  · intro request hrequest _
    rw [List.eq_of_mem_replicate hrequest]
    decide +kernel
  · intro request hrequest other hother _ _
    rw [List.eq_of_mem_replicate hrequest, List.eq_of_mem_replicate hother]

/-- **A caller passes the limit path after path**: an eleventh request in the window passes under
the same rule when it is for another payment. -/
theorem path_after_path : ¬ ∀ (requests : List Request) (actor : String) (entry : Entry) (start : ℤ),
    Middleware.Counts {} InMemoryBackend.hit {} requests → entry ∈ routeRules →
      (∀ request ∈ requests, entry.rule.windowStart request.now = start) →
        (admitted (Middleware.run {} InMemoryBackend.hit {} requests) actor entry).length ≤
          entry.rule.limit := by
  intro hclaim
  have hlimit := hclaim elevenPayments buyer paymentsEntry 0 (counts_requests _ (by decide))
    (by decide +kernel) (by decide +kernel)
  have heleven : (admitted (Middleware.run {} InMemoryBackend.hit {} elevenPayments) buyer
      paymentsEntry).length = 11 := by decide +kernel
  rw [heleven] at hlimit
  exact absurd hlimit (by decide)

end RateLimits
end Access
end AgenticCommerce
