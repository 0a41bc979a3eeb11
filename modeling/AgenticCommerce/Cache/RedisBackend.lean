/-
# The Redis backend of the cache

`RedisCacheBackend` of `packages/cache.py`: a client that is connected when it is first needed, a
cooldown after every failure, and a lock around the two.  What the client does at each call is
given by the call: whether a connection comes about, what is answered, where a scan breaks off.

No connection is attempted during a cooldown.  But a connection that fails does so under the lock,
and the failure is noted under the same lock, which is not reentrant: the call never returns
(`connect_deadlocks`).  Calls return exactly when no attempt to connect fails and what is read is
text (`returns_iff`).
-/

import AgenticCommerce.Relational.UnitOfWork
import Mathlib.Algebra.Order.Ring.Rat
import Mathlib.Tactic.Linarith

namespace AgenticCommerce
namespace Cache

open Relational Work

/-- What is noted of a run: when a connection was attempted, and when a failure was noted. -/
inductive Event where
  | attempted (time : ℚ)
  | failed (time : ℚ)
  deriving DecidableEq

/-- `RedisCacheBackend`, with whether its lock is held and what happened so far. -/
structure RedisCacheBackend where
  cooldownSeconds : ℚ := 5
  connected : Bool := false
  unavailableUntil : ℚ := 0
  locked : Bool := false
  trace : List Event := []

/-- Why a call does not return: it waits for a lock that it holds itself, or it raises on what it
reads. -/
inductive Stop where
  | deadlock
  | undecodable
  deriving DecidableEq

/-- A step of a call. -/
abbrev CacheOp (α : Type) := Work RedisCacheBackend Stop α

/-- What the client answers to `get`. -/
inductive Reply where
  | failed
  | missing
  | bytes (raw : List UInt8)

/-- What is asked of the backend, with what the client does: whether `set` succeeds, and whether
each step of a scan does. -/
inductive Request where
  | get (reply : Reply)
  | set (succeeds : Bool)
  | dropNamespace (steps : List Bool)

/-- A call: the clock when it begins and when it notes a failure, and whether a connection can be
made. -/
structure Call where
  now : ℚ
  later : ℚ
  connects : Bool
  request : Request

/-- What a call returns. -/
inductive Answer where
  | value (text : Option String)
  | stored
  | removed (count : ℕ)
  deriving DecidableEq

/-- `with self._lock`, of a lock that is not reentrant.  A body that does not return keeps it. -/
def withLock {α : Type} (body : CacheOp α) : CacheOp α := fun backend =>
  if backend.locked then .error .deadlock backend
  else
    match body { backend with locked := true } with
    | .ok a t => .ok a { t with locked := false }
    | .error e t => .error e t

/-- `degraded`. -/
def RedisCacheBackend.degraded (backend : RedisCacheBackend) (now : ℚ) : Bool :=
  decide (now < backend.unavailableUntil)

/-- The backend after a failure. -/
def RedisCacheBackend.fail (backend : RedisCacheBackend) (time : ℚ) : RedisCacheBackend :=
  { backend with
    unavailableUntil := time + backend.cooldownSeconds
    connected := false
    trace := backend.trace ++ [.failed time] }

/-- The backend with a connection attempted. -/
def RedisCacheBackend.attempt (backend : RedisCacheBackend) (time : ℚ) : RedisCacheBackend :=
  { backend with trace := backend.trace ++ [.attempted time] }

/-- The backend with a client. -/
def RedisCacheBackend.connect (backend : RedisCacheBackend) : RedisCacheBackend :=
  { backend with connected := true }

/-- `_degrade`; the client is closed outside of the lock, and a failure of that is ignored. -/
def degrade (call : Call) : CacheOp Unit := withLock (write fun backend => backend.fail call.later)

/-- The body of `_live_client` under the lock, with whether there is a client. -/
def connectIfNeeded (call : Call) : CacheOp Bool := do
  let connected ← ask fun backend => .ok backend.connected
  if connected then pure true
  else do
    write fun backend => backend.attempt call.now
    if call.connects then do
      write RedisCacheBackend.connect
      pure true
    else do
      degrade call
      pure false

/-- `_live_client`. -/
def liveClient (call : Call) : CacheOp Bool := do
  let degraded ← ask fun backend => .ok (backend.degraded call.now)
  if degraded then pure false else withLock (connectIfNeeded call)

/-- `raw.decode("utf-8")`. -/
def decode (raw : List UInt8) : Option String := String.fromUTF8? ⟨raw.toArray⟩

/-- `get`, with a client. -/
def getWith (call : Call) : Reply → CacheOp Answer
  | .failed => do
      degrade call
      pure (.value none)
  | .missing => pure (.value none)
  | .bytes raw =>
      match decode raw with
      | some text => pure (.value (some text))
      | none => throw .undecodable

/-- `set`, with a client. -/
def setWith (call : Call) (succeeds : Bool) : CacheOp Answer := do
  if succeeds then pure .stored
  else do
    degrade call
    pure .stored

/-- The loop of `drop_namespace`, with a client: each step deletes a key, or fails. -/
def dropWith (call : Call) (removed : ℕ) : List Bool → CacheOp Answer
  | [] => pure (.removed removed)
  | true :: steps => dropWith call (removed + 1) steps
  | false :: _ => do
      degrade call
      pure (.removed removed)

/-- What a call does with a client. -/
def performWith (call : Call) : CacheOp Answer :=
  match call.request with
  | .get reply => getWith call reply
  | .set succeeds => setWith call succeeds
  | .dropNamespace steps => dropWith call 0 steps

/-- What a call returns without one. -/
def missed : Request → Answer
  | .get _ => .value none
  | .set _ => .stored
  | .dropNamespace _ => .removed 0

/-- `get`, `set` and `drop_namespace`. -/
def perform (call : Call) : CacheOp Answer := do
  let live ← liveClient call
  if live then performWith call else pure (missed call.request)

/-! ### Runs -/

/-- The backends that a run of calls can come to: each of them returned. -/
inductive Reached (cooldown : ℚ) : List Call → RedisCacheBackend → Prop where
  | start : Reached cooldown [] { cooldownSeconds := cooldown }
  | step {done : List Call} {call : Call} {backend t : RedisCacheBackend} {answer : Answer}
      (h : Reached cooldown done backend) (hrun : perform call backend = .ok answer t) :
      Reached cooldown (done ++ [call]) t

/-- A connection is attempted only when the cooldowns of all failures before it are over. -/
def Rests (cooldown : ℚ) (trace : List Event) : Prop :=
  trace.Pairwise fun before event =>
    ∀ failed attempted, before = .failed failed → event = .attempted attempted →
      failed + cooldown ≤ attempted

/-- Every call of a run returns, and rests after failures. -/
def Returns (cooldown : ℚ) (calls : List Call) : Prop :=
  ∀ done call backend, done ++ [call] <+: calls → Reached cooldown done backend →
    ∃ answer t, perform call backend = .ok answer t ∧ Rests cooldown t.trace

/-- The clock does not go back. -/
def Ordered (calls : List Call) : Prop := calls.Pairwise fun a b => a.later ≤ b.later

/-- What is read is text. -/
def Request.readable : Request → Bool
  | .get (.bytes raw) => (decode raw).isSome
  | _ => true

/-- The call finds the backend in a cooldown, or it finds a client or can connect one, and what it
reads is text. -/
def Safe (backend : RedisCacheBackend) (call : Call) : Prop :=
  backend.degraded call.now = true ∨
    (backend.connected = true ∨ call.connects = true) ∧ call.request.readable = true

/-! ### One call -/

section

variable {backend t : RedisCacheBackend} {call : Call} {answer : Answer}

/-- The backend when its client is asked. -/
def RedisCacheBackend.reached (backend : RedisCacheBackend) (call : Call) : RedisCacheBackend :=
  if backend.connected then backend else (backend.attempt call.now).connect

@[simp] theorem reached_locked : (backend.reached call).locked = backend.locked := by
  unfold RedisCacheBackend.reached
  split_ifs <;> rfl

/-- A failure is noted where the lock is free. -/
theorem degrade_of_unlocked (h : backend.locked = false) :
    degrade call backend = .ok () (backend.fail call.later) := by
  obtain ⟨cooldownSeconds, connected, unavailableUntil, locked, trace⟩ := backend
  obtain rfl : locked = false := h
  rfl

/-- **A failure that is noted under the lock is never noted.** -/
theorem degrade_of_locked (h : backend.locked = true) :
    degrade call backend = .error .deadlock backend := by
  rw [degrade, withLock, if_pos h]

theorem liveClient_of_degraded (h : backend.degraded call.now = true) :
    liveClient call backend = .ok false backend := by
  have hask : (ask fun backend => .ok (backend.degraded call.now) : CacheOp Bool) backend =
      .ok true backend := by
    rw [← h]
    rfl
  exact (bind_of_ok hask).trans rfl

/-- Outside of a cooldown the rest runs under the lock. -/
theorem liveClient_eq (h : backend.degraded call.now = false) :
    liveClient call backend = withLock (connectIfNeeded call) backend := by
  have hask : (ask fun backend => .ok (backend.degraded call.now) : CacheOp Bool) backend =
      .ok false backend := by
    rw [← h]
    rfl
  exact (bind_of_ok hask).trans rfl

/-- There is a client, or one is connected. -/
theorem liveClient_of_connects (hunlocked : backend.locked = false)
    (h : backend.degraded call.now = false)
    (hconnects : backend.connected = true ∨ call.connects = true) :
    liveClient call backend = .ok true (backend.reached call) := by
  obtain ⟨cooldownSeconds, connected, unavailableUntil, locked, trace⟩ := backend
  obtain rfl : locked = false := hunlocked
  rw [liveClient_eq h]
  cases connected with
  | true => rfl
  | false =>
      have hcall : call.connects = true := hconnects.resolve_left (by simp)
      unfold withLock connectIfNeeded
      rw [hcall]
      rfl

/-- **A connection that fails blocks the call.** -/
theorem liveClient_of_refused (hunlocked : backend.locked = false)
    (h : backend.degraded call.now = false) (hconnected : backend.connected = false)
    (hrefused : call.connects = false) : ∃ t, liveClient call backend = .error .deadlock t := by
  obtain ⟨cooldownSeconds, connected, unavailableUntil, locked, trace⟩ := backend
  obtain rfl : locked = false := hunlocked
  obtain rfl : connected = false := hconnected
  rw [liveClient_eq h]
  unfold withLock connectIfNeeded
  rw [hrefused]
  exact ⟨_, rfl⟩

/-- With a client a call returns, and has noted a failure or not, if what it reads is text. -/
theorem performWith_of_readable (hunlocked : backend.locked = false)
    (hreadable : call.request.readable = true) :
    ∃ answer t, performWith call backend = .ok answer t ∧
      (t = backend ∨ t = backend.fail call.later) := by
  have hdegrade := @degrade_of_unlocked _ call hunlocked
  have hdrop : ∀ (steps : List Bool) (removed : ℕ), ∃ answer t,
      dropWith call removed steps backend = .ok answer t ∧
        (t = backend ∨ t = backend.fail call.later) := by
    intro steps
    induction steps with
    | nil => exact fun removed => ⟨_, backend, rfl, .inl rfl⟩
    | cons works steps ih =>
        intro removed
        cases works with
        | true => exact ih (removed + 1)
        | false => exact ⟨_, _, bind_of_ok hdegrade, .inr rfl⟩
  unfold performWith
  cases hrequest : call.request with
  | get reply =>
      cases reply with
      | failed => exact ⟨_, _, bind_of_ok hdegrade, .inr rfl⟩
      | missing => exact ⟨_, backend, rfl, .inl rfl⟩
      | bytes raw =>
          rw [hrequest] at hreadable
          obtain ⟨text, htext⟩ := Option.isSome_iff_exists.1 hreadable
          refine ⟨.value (some text), backend, ?_, .inl rfl⟩
          show getWith call (.bytes raw) backend = _
          rw [getWith, htext]
          rfl
  | set succeeds =>
      cases succeeds with
      | true => exact ⟨_, backend, rfl, .inl rfl⟩
      | false => exact ⟨_, _, bind_of_ok hdegrade, .inr rfl⟩
  | dropNamespace steps => exact hdrop steps 0

/-- What is read is not text: the call raises. -/
theorem performWith_of_unreadable (hunreadable : call.request.readable = false) :
    performWith call backend = .error .undecodable backend := by
  unfold performWith
  cases hrequest : call.request with
  | get reply =>
      rw [hrequest] at hunreadable
      cases reply with
      | failed => cases hunreadable
      | missing => cases hunreadable
      | bytes raw =>
          have hnone : decode raw = none := by
            cases hdecode : decode raw with
            | none => rfl
            | some text =>
                rw [Request.readable, hdecode] at hunreadable
                cases hunreadable
          show getWith call (.bytes raw) backend = _
          rw [getWith, hnone]
          rfl
  | set succeeds =>
      rw [hrequest] at hunreadable
      cases hunreadable
  | dropNamespace steps =>
      rw [hrequest] at hunreadable
      cases hunreadable

/-- **What a call does** that is safe: nothing in a cooldown, and otherwise it has a client and may
note a failure. -/
theorem perform_of_safe (hunlocked : backend.locked = false) (hsafe : Safe backend call) :
    ∃ answer t, perform call backend = .ok answer t ∧
      (t = backend ∨ backend.degraded call.now = false ∧
        (t = backend.reached call ∨ t = (backend.reached call).fail call.later)) := by
  cases hdegraded : backend.degraded call.now with
  | true =>
      have hlive := liveClient_of_degraded hdegraded
      exact ⟨_, backend, bind_of_ok hlive, .inl rfl⟩
  | false =>
      obtain hcooling | ⟨hconnects, hreadable⟩ := hsafe
      · rw [hcooling] at hdegraded
        cases hdegraded
      · have hlive := liveClient_of_connects hunlocked hdegraded hconnects
        obtain ⟨answer, t, hperform, ht⟩ := @performWith_of_readable
          (backend.reached call) _ (by rw [reached_locked, hunlocked]) hreadable
        exact ⟨answer, t, (bind_of_ok hlive).trans hperform, .inr ⟨rfl, ht⟩⟩

/-- **A call that returns is safe.** -/
theorem safe_of_returns (hunlocked : backend.locked = false)
    (h : perform call backend = .ok answer t) : Safe backend call := by
  by_contra hunsafe
  rw [Safe, not_or, Bool.not_eq_true] at hunsafe
  obtain ⟨hdegraded, hunsafe⟩ := hunsafe
  by_cases hconnects : backend.connected = true ∨ call.connects = true
  · have hreadable : call.request.readable = false := by
      rw [← Bool.not_eq_true]
      exact fun hreadable => hunsafe ⟨hconnects, hreadable⟩
    have hlive := liveClient_of_connects hunlocked hdegraded hconnects
    have herror : perform call backend = .error .undecodable _ :=
      (bind_of_ok hlive).trans (performWith_of_unreadable hreadable)
    rw [herror] at h
    cases h
  · rw [not_or, Bool.not_eq_true, Bool.not_eq_true] at hconnects
    obtain ⟨t', hlive⟩ := liveClient_of_refused hunlocked hdegraded hconnects.1 hconnects.2
    have herror : perform call backend = .error .deadlock t' := bind_of_error hlive
    rw [herror] at h
    cases h

end

/-! ### Runs -/

section

variable {cooldown : ℚ} {done calls : List Call} {backend t : RedisCacheBackend} {call : Call}

/-- What holds of a backend that a run comes to: its lock is free, the cooldowns of the failures so
far are over when it says so, and it rested during each of them. -/
structure Sound (cooldown : ℚ) (done : List Call) (backend : RedisCacheBackend) : Prop where
  cooldownSeconds : backend.cooldownSeconds = cooldown
  unlocked : backend.locked = false
  noted : ∀ time, .failed time ∈ backend.trace → ∃ call ∈ done, call.later = time
  covered : ∀ time, .failed time ∈ backend.trace → time + cooldown ≤ backend.unavailableUntil
  rests : Rests cooldown backend.trace

theorem Sound.mono (h : Sound cooldown done backend) : Sound cooldown (done ++ [call]) backend := by
  refine ⟨h.cooldownSeconds, h.unlocked, fun time htime => ?_, h.covered, h.rests⟩
  obtain ⟨before, hbefore, hlater⟩ := h.noted time htime
  exact ⟨before, List.mem_append_left _ hbefore, hlater⟩

/-- A connection is attempted after the cooldown. -/
theorem Sound.attempt (h : Sound cooldown done backend)
    (hdegraded : backend.degraded call.now = false) :
    Sound cooldown done (backend.attempt call.now).connect := by
  have hover : backend.unavailableUntil ≤ call.now := not_lt.1 (of_decide_eq_false hdegraded)
  have hold {time : ℚ} (htime : .failed time ∈ backend.trace ++ [.attempted call.now]) :
      .failed time ∈ backend.trace := by
    rcases List.mem_append.1 htime with htime | htime
    · exact htime
    · exact nomatch List.mem_singleton.1 htime
  refine ⟨h.cooldownSeconds, h.unlocked, fun time htime => h.noted time (hold htime),
    fun time htime => h.covered time (hold htime), ?_⟩
  refine List.pairwise_append.2 ⟨h.rests, List.pairwise_singleton _ _, ?_⟩
  rintro before hbefore event hevent failed attempted rfl rfl
  obtain rfl := Event.attempted.inj (List.mem_singleton.1 hevent)
  exact (h.covered failed hbefore).trans hover

theorem Sound.reached (h : Sound cooldown done backend)
    (hdegraded : backend.degraded call.now = false) :
    Sound cooldown done (backend.reached call) := by
  unfold RedisCacheBackend.reached
  split_ifs
  · exact h
  · exact h.attempt hdegraded

/-- A failure begins a cooldown that outlasts those before it. -/
theorem Sound.fail (h : Sound cooldown done backend)
    (hordered : ∀ before ∈ done, before.later ≤ call.later) :
    Sound cooldown (done ++ [call]) (backend.fail call.later) := by
  have hcases {time : ℚ} (htime : .failed time ∈ backend.trace ++ [.failed call.later]) :
      .failed time ∈ backend.trace ∨ time = call.later := by
    rcases List.mem_append.1 htime with htime | htime
    · exact .inl htime
    · exact .inr (Event.failed.inj (List.mem_singleton.1 htime))
  refine ⟨h.cooldownSeconds, h.unlocked, fun time htime => ?_, fun time htime => ?_, ?_⟩
  · rcases hcases htime with htime | rfl
    · exact (@Sound.mono _ _ _ call h).noted time htime
    · exact ⟨call, by simp, rfl⟩
  · show time + cooldown ≤ call.later + backend.cooldownSeconds
    rw [h.cooldownSeconds]
    rcases hcases htime with htime | rfl
    · obtain ⟨before, hbefore, rfl⟩ := h.noted time htime
      linarith [hordered before hbefore]
    · exact le_refl _
  · refine List.pairwise_append.2 ⟨h.rests, List.pairwise_singleton _ _, ?_⟩
    rintro before - event hevent failed attempted - rfl
    exact nomatch List.mem_singleton.1 hevent

/-- **A call that returns** leaves the backend sound. -/
theorem Sound.step (h : Sound cooldown done backend)
    (hordered : ∀ before ∈ done, before.later ≤ call.later) {answer : Answer}
    (hrun : perform call backend = .ok answer t) : Sound cooldown (done ++ [call]) t := by
  obtain ⟨answer', t', hrun', ht⟩ := perform_of_safe h.unlocked (safe_of_returns h.unlocked hrun)
  obtain ⟨-, rfl⟩ := EStateM.Result.ok.inj (hrun.symm.trans hrun')
  rcases ht with rfl | ⟨hdegraded, rfl | rfl⟩
  · exact h.mono
  · exact (h.reached hdegraded).mono
  · exact (h.reached hdegraded).fail hordered

/-- **Whatever a run comes to** is sound. -/
theorem Reached.sound (h : Reached cooldown done backend) (hordered : Ordered done) :
    Sound cooldown done backend := by
  induction h with
  | start =>
      have hnone {time : ℚ} (h : Event.failed time ∈ ([] : List Event)) : False :=
        List.not_mem_nil h
      exact ⟨rfl, rfl, fun _ h => (hnone h).elim, fun _ h => (hnone h).elim, List.Pairwise.nil⟩
  | step h hrun ih =>
      obtain ⟨hbefore, -, hlast⟩ := List.pairwise_append.1 hordered
      exact (ih hbefore).step (fun before hmem => hlast before hmem _ (by simp)) hrun

/-- **Every call of a run returns, and rests after failures,** exactly when each of them finds the
backend in a cooldown, or finds a client or can connect one and reads text. -/
theorem returns_iff (hordered : Ordered calls) :
    Returns cooldown calls ↔ ∀ done call backend, done ++ [call] <+: calls →
      Reached cooldown done backend → Safe backend call := by
  have hinitial {before : List Call} (h : before <+: calls) : Ordered before :=
    List.Pairwise.sublist h.sublist hordered
  constructor
  · intro h done call backend hcalls hreached
    obtain ⟨answer, t, hrun, -⟩ := h done call backend hcalls hreached
    have hsound := hreached.sound (hinitial ((List.prefix_append _ _).trans hcalls))
    exact safe_of_returns hsound.unlocked hrun
  · intro h done call backend hcalls hreached
    have hsound := hreached.sound (hinitial ((List.prefix_append _ _).trans hcalls))
    obtain ⟨answer, t, hrun, -⟩ := perform_of_safe hsound.unlocked
      (h done call backend hcalls hreached)
    exact ⟨answer, t, hrun, ((hreached.step hrun).sound (hinitial hcalls)).rests⟩

end

/-! ### A connection that fails -/

/-- A `get` while the client works. -/
private def answered : Call :=
  { now := 1, later := 1, connects := true, request := .get (.bytes [0x7b, 0x7d]) }

/-- A `get` that cannot connect. -/
private def unconnected : Call :=
  { now := 1, later := 1, connects := false, request := .get .missing }

/-- A call returns while the client works. -/
theorem answered_returns : Returns 5 [answered] := by
  refine (returns_iff (List.pairwise_singleton _ _)).2 fun done call backend hcalls _ => ?_
  obtain ⟨rest, hrest⟩ := hcalls
  cases done with
  | nil =>
      obtain ⟨rfl, -⟩ := List.cons.inj hrest
      exact .inr ⟨.inr rfl, by decide⟩
  | cons first more =>
      have hlength := congrArg List.length hrest
      simp only [List.length_append, List.length_cons, List.length_nil] at hlength
      omega

/-- **A call that cannot connect never returns**: it notes the failure under the lock that it holds
for the connection. -/
theorem connect_deadlocks : ¬ ∀ (cooldown : ℚ) (calls : List Call), Ordered calls →
    Returns cooldown calls := by
  intro hclaim
  obtain ⟨answer, t, hrun, -⟩ := hclaim 5 [unconnected] (List.pairwise_singleton _ _) [] unconnected
    _ (List.prefix_refl _) .start
  have hdeadlock : ∃ t, perform unconnected { cooldownSeconds := 5 } = .error .deadlock t := by
    obtain ⟨t, hlive⟩ := @liveClient_of_refused { cooldownSeconds := 5 } unconnected
      rfl (by decide) rfl rfl
    exact ⟨t, bind_of_error hlive⟩
  obtain ⟨t', herror⟩ := hdeadlock
  rw [herror] at hrun
  cases hrun

end Cache
end AgenticCommerce
