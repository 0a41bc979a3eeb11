/-
# A sliding window in one process

`isRateLimited` of `apps/web/src/lib/simpleRateLimit.ts`: the times of the calls under each key, of
which a call counts those inside its window.  Past ten thousand keys a call sweeps the whole map,
and drops from every history what is outside of its own window.

Under a key that is always used with one limit and one window, no more calls pass in any interval
of that length than the limit says, provided that no sweep of a caller with a shorter window drops
a time that still counts (`admitted_le`).  Without that more calls pass (`sweep_forgets`).
-/

import AgenticCommerce.Relational.Maps
import Mathlib.Data.Rat.Lemmas
import Mathlib.Algebra.Order.Ring.Rat
import Mathlib.Data.List.Induction
import Mathlib.Tactic.Linarith

namespace AgenticCommerce
namespace Access
namespace SlidingWindow

/-- The times of the calls under each key. -/
abbrev Buckets := Map String (List ℚ)

/-- A call, at the time of the clock. -/
structure Call where
  key : String
  max : ℚ
  windowMs : ℚ
  now : ℚ

/-- A time counts at a later one if it is inside the window. -/
def live (windowMs now : ℚ) (times : List ℚ) : List ℚ :=
  times.filter fun t => decide (now - t < windowMs)

/-- The number of keys past which a call sweeps the map. -/
def sweepAt : ℕ := 10000

/-- The sweep of a call. -/
def sweep (windowMs now : ℚ) (buckets : Buckets) : Buckets :=
  buckets.sift fun _ times =>
    let kept := times.filter fun t => decide (now - windowMs < t)
    if kept = [] then none else some kept

/-- The times that a call counts, itself among them. -/
def hits (buckets : Buckets) (call : Call) : List ℚ :=
  live call.windowMs call.now ((buckets.lookup call.key).getD []) ++ [call.now]

/-- The map with these times. -/
def recorded (buckets : Buckets) (call : Call) : Buckets :=
  buckets.insert call.key (hits buckets call)

/-- `isRateLimited`: the answer, and the map after it. -/
def isRateLimited (buckets : Buckets) (call : Call) : Bool × Buckets :=
  (decide (call.max < (hits buckets call).length),
    if sweepAt < (recorded buckets call).size then
      sweep call.windowMs call.now (recorded buckets call)
    else recorded buckets call)

/-! ### Runs -/

/-- The map, with the calls that were answered so far. -/
structure Log where
  buckets : Buckets := ∅
  answers : List (Call × Bool) := []

/-- One more call. -/
def Log.step (log : Log) (call : Call) : Log :=
  { buckets := (isRateLimited log.buckets call).2
    answers := log.answers ++ [(call, (isRateLimited log.buckets call).1)] }

/-- A run of calls. -/
def run (calls : List Call) : Log := calls.foldl Log.step {}

/-- The calls under a key that pass in an interval. -/
def admitted (key : String) (start windowMs : ℚ) (log : Log) : List (Call × Bool) :=
  log.answers.filter fun answer =>
    decide (answer.1.key = key ∧ (start ≤ answer.1.now ∧ answer.1.now < start + windowMs) ∧
      answer.2 = false)

/-- The times that are kept under a key. -/
def kept (buckets : Buckets) (key : String) : List ℚ := (buckets.lookup key).getD []

/-- The times of the calls under a key. -/
def times (key : String) (calls : List Call) : List ℚ :=
  (calls.filter fun call => decide (call.key = key)).map Call.now

/-- The clock does not go back. -/
def Ordered (calls : List Call) : Prop := calls.Pairwise fun a b => a.now ≤ b.now

/-- The key is always used with this limit and this window. -/
def Uses (key : String) (max windowMs : ℚ) (calls : List Call) : Prop :=
  ∀ call ∈ calls, call.key = key → call.max = max ∧ call.windowMs = windowMs

/-- No sweep drops a time under the key that is inside its window. -/
def Spared (key : String) (windowMs : ℚ) (calls : List Call) : Prop :=
  ∀ done call, done ++ [call] <+: calls → sweepAt < (recorded (run done).buckets call).size →
    ∀ t ∈ kept (recorded (run done).buckets call) key,
      call.now - t < windowMs → call.now - t < call.windowMs

/-! ### What is kept -/

variable {key : String} {max windowMs now start : ℚ} {buckets : Buckets} {call : Call}
  {calls done : List Call}

theorem run_concat : run (done ++ [call]) = (run done).step call := by
  rw [run, List.foldl_append]
  rfl

theorem step_buckets (log : Log) :
    (log.step call).buckets = (isRateLimited log.buckets call).2 := rfl

theorem times_concat : times key (done ++ [call]) =
    times key done ++ if call.key = key then [call.now] else [] := by
  rw [times, List.filter_append, List.map_append, ← times]
  by_cases h : call.key = key <;> simp [h]

theorem live_append (l l' : List ℚ) :
    live windowMs now (l ++ l') = live windowMs now l ++ live windowMs now l' :=
  List.filter_append _ _

/-- What counts later counted before. -/
theorem live_live {later : ℚ} (h : now ≤ later) (l : List ℚ) :
    live windowMs later (live windowMs now l) = live windowMs later l := by
  rw [live, live, List.filter_filter]
  refine List.filter_congr fun t _ => ?_
  by_cases hlater : later - t < windowMs
  · have hnow : now - t < windowMs := by linarith
    simp [hlater, hnow]
  · simp [hlater]

/-- What a sweep keeps of a history. -/
theorem kept_sweep : kept (sweep windowMs now buckets) key =
    (kept buckets key).filter fun t => decide (now - windowMs < t) := by
  rw [kept, kept, sweep, AList.lookup_sift]
  cases buckets.lookup key with
  | none => rfl
  | some times =>
      show (if _ then none else some _ : Option (List ℚ)).getD [] = _
      split_ifs with h
      · exact h.symm
      · rfl

theorem kept_recorded : kept (recorded buckets call) key =
    if key = call.key then hits buckets call else kept buckets key := by
  rw [kept, recorded, AList.lookup_set]
  split_ifs <;> rfl

/-- **What is kept under the key counts as the calls do**, at any later time. -/
def Faithful (key : String) (windowMs : ℚ) (calls : List Call) : Prop :=
  ∀ now, (∀ call ∈ calls, call.now ≤ now) →
    live windowMs now (kept (run calls).buckets key) = live windowMs now (times key calls)

/-- Recording a call keeps the map faithful. -/
theorem Faithful.recorded (h : Faithful key windowMs done)
    (hcall : call.key = key → call.windowMs = windowMs) (hnow : ∀ c ∈ done ++ [call], c.now ≤ now) :
    live windowMs now (kept (recorded (run done).buckets call) key) =
      live windowMs now (times key (done ++ [call])) := by
  have hlast : call.now ≤ now := hnow call (by simp)
  have hdone := h now fun c hc => hnow c (List.mem_append_left _ hc)
  rw [kept_recorded, times_concat]
  by_cases hkey : call.key = key
  · rw [if_pos hkey.symm, if_pos hkey, hits, hcall hkey, hkey, ← kept, live_append, live_append,
      live_live hlast, hdone]
  · rw [if_neg (Ne.symm hkey), if_neg hkey, List.append_nil, hdone]

/-- **A call keeps the map faithful**, if its sweep spares the key. -/
theorem Faithful.step (h : Faithful key windowMs done)
    (hcall : call.key = key → call.windowMs = windowMs)
    (hspared : sweepAt < (SlidingWindow.recorded (run done).buckets call).size →
      ∀ t ∈ kept (SlidingWindow.recorded (run done).buckets call) key,
        call.now - t < windowMs → call.now - t < call.windowMs) :
    Faithful key windowMs (done ++ [call]) := by
  intro now hnow
  have hlast : call.now ≤ now := hnow call (by simp)
  have hrecorded := h.recorded hcall hnow
  rw [run_concat, ← hrecorded, step_buckets, isRateLimited]
  dsimp only
  split_ifs with hsize
  · rw [kept_sweep, live, live, List.filter_filter]
    refine List.filter_congr fun t ht => ?_
    by_cases hlive : now - t < windowMs
    · have hkeeps := hspared hsize t ht (by linarith)
      have hcutoff : call.now - call.windowMs < t := by linarith
      simp [hlive, hcutoff]
    · simp [hlive]
  · rfl

theorem Spared.of_prefix (h : Spared key windowMs calls) (hinitial : done <+: calls) :
    Spared key windowMs done :=
  fun before call hbefore => h before call (hbefore.trans hinitial)

theorem faithful_run (huses : Uses key max windowMs calls) (hspared : Spared key windowMs calls) :
    Faithful key windowMs calls := by
  induction calls using List.reverseRecOn with
  | nil => exact fun _ _ => rfl
  | append_singleton done call ih =>
      have hdone := ih (fun c hc => huses c (List.mem_append_left _ hc))
        (hspared.of_prefix (List.prefix_append _ _))
      exact hdone.step (fun hkey => (huses call (by simp) hkey).2)
        (hspared done call (List.prefix_refl _))

/-- There are no more keys than calls. -/
theorem size_run_le (calls : List Call) : (run calls).buckets.size ≤ calls.length := by
  induction calls using List.reverseRecOn with
  | nil => exact Nat.le_refl 0
  | append_singleton done call ih =>
      have hrecorded : (recorded (run done).buckets call).size ≤ (run done).buckets.size + 1 :=
        AList.size_insert_le
      rw [run_concat, step_buckets, isRateLimited, List.length_append, List.length_singleton]
      dsimp only
      split_ifs
      · exact (AList.size_sift_le _).trans (hrecorded.trans (Nat.add_le_add_right ih 1))
      · exact hrecorded.trans (Nat.add_le_add_right ih 1)

/-- Few calls are never swept. -/
theorem spared_of_length (h : calls.length ≤ sweepAt) : Spared key windowMs calls := by
  intro done call hinitial hsweep
  have hrecorded : (recorded (run done).buckets call).size ≤ (run done).buckets.size + 1 :=
    AList.size_insert_le
  have hsize := size_run_le done
  have hlength := hinitial.length_le
  rw [List.length_append, List.length_singleton] at hlength
  omega

/-! ### What passes -/

theorem admitted_step (log : Log) : admitted key start windowMs (log.step call) =
    admitted key start windowMs log ++
      if call.key = key ∧ (start ≤ call.now ∧ call.now < start + windowMs) ∧
        (isRateLimited log.buckets call).1 = false then [(call, false)] else [] := by
  rw [admitted, Log.step, List.filter_append, ← admitted]
  congr 1
  by_cases h : call.key = key ∧ (start ≤ call.now ∧ call.now < start + windowMs) ∧
    (isRateLimited log.buckets call).1 = false
  · rw [if_pos h, List.filter_cons_of_pos (by simpa using h), h.2.2]
    rfl
  · rw [if_neg h, List.filter_cons_of_neg (by simpa using h)]
    rfl

/-- What passes in an interval is among the calls in it. -/
theorem admitted_le_times (calls : List Call) :
    (admitted key start windowMs (run calls)).length ≤
      ((times key calls).filter fun t => decide (start ≤ t ∧ t < start + windowMs)).length := by
  induction calls using List.reverseRecOn with
  | nil => exact Nat.le_refl _
  | append_singleton done call ih =>
      rw [run_concat, admitted_step, times_concat, List.filter_append, List.length_append,
        List.length_append]
      refine Nat.add_le_add ih ?_
      split_ifs with h hkey hkey
      · rw [List.filter_cons_of_pos (by simpa using h.2.1)]
        exact Nat.le_refl 1
      · exact absurd h.1 hkey
      · exact Nat.zero_le _
      · exact Nat.zero_le _

/-- **The limit holds in every interval of the length of the window**, under a key that is always
used with one limit and one window, if no sweep drops a time of it that still counts. -/
theorem admitted_le (hordered : Ordered calls) (huses : Uses key max windowMs calls)
    (hspared : Spared key windowMs calls) (start : ℚ) :
    ((admitted key start windowMs (run calls)).length : ℚ) ≤ 0 ⊔ max := by
  induction calls using List.reverseRecOn with
  | nil => exact le_sup_left
  | append_singleton done call ih =>
      obtain ⟨hdone, -, hlast⟩ := List.pairwise_append.1 hordered
      have husesDone : Uses key max windowMs done := fun c hc => huses c (List.mem_append_left _ hc)
      have hsparedDone := hspared.of_prefix (List.prefix_append _ _)
      have hbefore := ih hdone husesDone hsparedDone
      rw [run_concat, admitted_step]
      split_ifs with h
      · obtain ⟨hkey, hinterval, hpasses⟩ := h
        obtain ⟨hmax, hwindow⟩ := huses call (by simp) hkey
        -- the call counts at least the calls of the interval before it, and itself
        have hfaithful := faithful_run husesDone hsparedDone call.now
          fun c hc => hlast c hc call (by simp)
        have hcounted : ((hits (run done).buckets call).length : ℚ) ≤ max := by
          rw [← hmax]
          exact not_lt.1 (of_decide_eq_false hpasses)
        rw [hits, hwindow, hkey, ← kept, hfaithful, List.length_append, List.length_singleton]
          at hcounted
        have hinside : ((times key done).filter fun t =>
            decide (start ≤ t ∧ t < start + windowMs)).length ≤
              (live windowMs call.now (times key done)).length := by
          refine List.Sublist.length_le (List.monotone_filter_right _ fun t ht => ?_)
          rw [decide_eq_true_eq] at ht ⊢
          linarith [ht.1, hinterval.2]
        have hadmitted := (@admitted_le_times key _ _ done).trans hinside
        refine le_trans ?_ (hcounted.trans le_sup_right)
        rw [List.length_append, List.length_singleton]
        exact_mod_cast Nat.add_le_add_right hadmitted 1
      · rw [List.append_nil]
        exact hbefore

/-- Two calls in one window of which one may pass. -/
theorem admitted_twice : ((admitted "ai-test:local" 0 100 (run
    [{ key := "ai-test:local", max := 1, windowMs := 100, now := 0 },
      { key := "ai-test:local", max := 1, windowMs := 100, now := 20 }])).length : ℚ) ≤ 0 ⊔ 1 := by
  refine admitted_le ?_ ?_ (spared_of_length (by decide)) 0
  · exact List.pairwise_cons.2 ⟨by simp, List.pairwise_singleton _ _⟩
  · intro call hcall _
    rcases List.mem_pair.1 hcall with rfl | rfl <;> exact ⟨rfl, rfl⟩

/-! ### A sweep that forgets -/

/-- A name for each client. -/
private def client (n : ℕ) : String := String.ofList (List.replicate n 'c')

private theorem client_injective : Function.Injective client := fun n n' h => by
  have hlength := congrArg List.length (String.ofList_injective h)
  rwa [List.length_replicate, List.length_replicate] at hlength

/-- One call of each client in a window of a hundred milliseconds, at the start. -/
private def crowd (n : ℕ) : List Call :=
  (List.range n).map fun k => { key := client k, max := 1, windowMs := 100, now := 0 }

private theorem crowd_succ (n : ℕ) : crowd (n + 1) =
    crowd n ++ [{ key := client n, max := 1, windowMs := 100, now := 0 }] := by
  rw [crowd, List.range_succ, List.map_append]
  rfl

/-- As long as there is no sweep, each client has its call. -/
private theorem run_crowd : ∀ {n : ℕ}, n ≤ sweepAt → (run (crowd n)).buckets.size = n ∧
    ∀ k, (run (crowd n)).buckets.lookup (client k) = if k < n then some [0] else none
  | 0, _ => ⟨rfl, fun _ => rfl⟩
  | n + 1, hn => by
      obtain ⟨hsize, hlookup⟩ := run_crowd (Nat.le_of_succ_le hn)
      have hnew : (run (crowd n)).buckets.lookup (client n) = none := by
        rw [hlookup, if_neg (Nat.lt_irrefl n)]
      have hhits : hits (run (crowd n)).buckets
          { key := client n, max := 1, windowMs := 100, now := 0 } = [0] := by
        rw [hits, hnew]
        rfl
      have hrecorded : (recorded (run (crowd n)).buckets
          { key := client n, max := 1, windowMs := 100, now := 0 }).size = n + 1 := by
        rw [recorded, AList.size_insert hnew, hsize]
      have hrun : (run (crowd (n + 1))).buckets = recorded (run (crowd n)).buckets
          { key := client n, max := 1, windowMs := 100, now := 0 } := by
        rw [crowd_succ, run_concat, step_buckets, isRateLimited, if_neg (by omega)]
      refine ⟨by rw [hrun, hrecorded], fun k => ?_⟩
      rw [hrun, recorded, AList.lookup_set, hhits, hlookup]
      by_cases hk : k = n
      · rw [if_pos (congrArg client hk), if_pos (by omega)]
      · rw [if_neg fun h => hk (client_injective h)]
        by_cases hlt : k < n
        · rw [if_pos hlt, if_pos (by omega)]
        · rw [if_neg hlt, if_neg (by omega)]

/-- The client that makes one too many, in a window of a millisecond. -/
private def lateClient : Call := { key := client sweepAt, max := 1, windowMs := 1, now := 10 }

/-- The first client again. -/
private def again : Call := { key := client 0, max := 1, windowMs := 100, now := 20 }

/-- The sweep of the late client drops the time of the first one. -/
private theorem kept_swept : kept (run (crowd sweepAt ++ [lateClient])).buckets (client 0) = [] := by
  obtain ⟨hsize, hlookup⟩ := run_crowd (le_refl sweepAt)
  have hnew : (run (crowd sweepAt)).buckets.lookup (client sweepAt) = none := by
    rw [hlookup, if_neg (Nat.lt_irrefl _)]
  have hrecorded : (recorded (run (crowd sweepAt)).buckets lateClient).size = sweepAt + 1 := by
    rw [recorded, lateClient, AList.size_insert hnew, hsize]
  have hne : client 0 ≠ lateClient.key := fun h => by
    have := client_injective h
    exact absurd this (by decide)
  rw [run_concat, step_buckets, isRateLimited, if_pos (by omega), kept_sweep, kept_recorded, if_neg hne, kept, hlookup,
    if_pos (by decide)]
  decide +kernel

/-- The first client passes a second time within its window. -/
private theorem again_passes :
    (isRateLimited (run (crowd sweepAt ++ [lateClient])).buckets again).1 = false := by
  have hhits : hits (run (crowd sweepAt ++ [lateClient])).buckets again = [20] := by
    rw [hits, show again.key = client 0 from rfl, ← kept, kept_swept]
    rfl
  rw [isRateLimited, hhits]
  decide

private theorem first_passes : (isRateLimited ∅
    { key := client 0, max := 1, windowMs := 100, now := 0 }).1 = false := by
  decide

/-- The calls are in order, and the first client uses one limit and one window. -/
private theorem crowd_uses : Ordered (crowd sweepAt ++ [lateClient, again]) ∧
    Uses (client 0) 1 100 (crowd sweepAt ++ [lateClient, again]) := by
  have hcrowd {call : Call} (h : call ∈ crowd sweepAt) :
      call.max = 1 ∧ call.windowMs = 100 ∧ call.now = 0 := by
    obtain ⟨k, -, rfl⟩ := List.mem_map.1 h
    exact ⟨rfl, rfl, rfl⟩
  constructor
  · refine List.pairwise_append.2 ⟨?_, ?_, ?_⟩
    · refine List.pairwise_of_forall_mem_list fun a ha b hb => ?_
      rw [(hcrowd ha).2.2, (hcrowd hb).2.2]
    · exact List.pairwise_cons.2 ⟨by decide, List.pairwise_singleton _ _⟩
    · intro a ha b hb
      rw [(hcrowd ha).2.2]
      rcases List.mem_pair.1 hb with rfl | rfl <;> decide
  · intro call hcall hkey
    rcases List.mem_append.1 hcall with hcall | hcall
    · exact ⟨(hcrowd hcall).1, (hcrowd hcall).2.1⟩
    · rcases List.mem_pair.1 hcall with rfl | rfl
      · exact absurd (client_injective hkey) (by decide)
      · exact ⟨rfl, rfl⟩

/-- What passes in a longer run passed in a shorter one already. -/
private theorem le_admitted (calls : List Call) (call : Call) :
    (admitted key start windowMs (run calls)).length ≤
      (admitted key start windowMs (run (calls ++ [call]))).length := by
  rw [run_concat, admitted_step, List.length_append]
  exact Nat.le_add_right _ _

/-- **A sweep of another caller lets a second call pass**: ten thousand clients call once, and the
one after them, whose window is short, sweeps away what counts for the others. -/
theorem sweep_forgets : ¬ ∀ (calls : List Call) (key : String) (max windowMs start : ℚ),
    Ordered calls → Uses key max windowMs calls →
      ((admitted key start windowMs (run calls)).length : ℚ) ≤ 0 ⊔ max := by
  intro hclaim
  have hlimit := hclaim _ (client 0) 1 100 0 crowd_uses.1 crowd_uses.2
  have hfirst : ∀ n, 1 ≤ (admitted (client 0) 0 100 (run (crowd (n + 1)))).length := by
    intro n
    induction n with
    | zero =>
        rw [crowd_succ, run_concat, admitted_step, if_pos ⟨rfl, by decide +kernel, first_passes⟩,
          List.length_append]
        exact Nat.le_add_left _ _
    | succ n ih =>
        rw [crowd_succ (n + 1)]
        exact ih.trans (le_admitted _ _)
  have hbefore := (hfirst (sweepAt - 1)).trans (le_admitted _ lateClient)
  have hlist : crowd sweepAt ++ [lateClient, again] = (crowd sweepAt ++ [lateClient]) ++ [again] := by
    simp
  rw [hlist, run_concat, admitted_step, if_pos ⟨rfl, by decide +kernel, again_passes⟩,
    List.length_append, List.length_singleton, sup_eq_right.2 zero_le_one] at hlimit
  have : (admitted (client 0) 0 100 (run (crowd sweepAt ++ [lateClient]))).length + 1 ≤ 1 := by
    exact_mod_cast hlimit
  have hone : crowd (sweepAt - 1 + 1) = crowd sweepAt := rfl
  rw [hone] at hbefore
  omega

end SlidingWindow
end Access
end AgenticCommerce
