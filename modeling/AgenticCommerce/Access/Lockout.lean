/-
# The lockout that is rolled back

The policy of `operator_auth` is sound: where the count of a failure is kept, no window
of the length of a lockout sees more than `maxFailedLogins` checks of an operator's
password (`kept_failures_bounded`).  The invariant ties the count, the instant of the last
failure and the end of the lock to the checks in the window (`Guarded`).

The login route does not keep it.  It answers a wrong password by raising, the request is
rolled back, and the count, the instant and the lock of the row are what they were
(`postLogin_wrong`).  So a run checks a password at every request that comes after the lock
stored before the run, and the bound holds only as long as the requests themselves are
that rare (`lockout_bound_iff`).
-/

import AgenticCommerce.Access.Operators
import Mathlib.Tactic.Linarith

namespace AgenticCommerce
namespace Access

open Relational

/-- The instants at which an operator's password was checked. -/
def verifiedAt (operatorId : String) (checks : List PasswordCheck) : List Time :=
  checks.filterMap fun check => match check with
    | .verify id now => if id = operatorId then some now else none
    | .dummy _ => none

/-- The instants in the window of the length of a lockout that starts at `start`. -/
def inWindow (start : Time) (times : List Time) : List Time :=
  times.filter fun t => decide (start ≤ t) && decide (t < start + lockoutDuration)

/-- Every such window holds at most `maxFailedLogins` instants. -/
def LockoutBound (times : List Time) : Prop :=
  ∀ start, (inWindow start times).length ≤ maxFailedLogins

theorem verifiedAt_append (operatorId : String) (l m : List PasswordCheck) :
    verifiedAt operatorId (l ++ m) = verifiedAt operatorId l ++ verifiedAt operatorId m :=
  List.filterMap_append

theorem verifiedAt_verify (operatorId : String) (now : Time) :
    verifiedAt operatorId [.verify operatorId now] = [now] := by
  simp [verifiedAt]

theorem verifiedAt_dummy (operatorId : String) (now : Time) :
    verifiedAt operatorId [.dummy now] = [] := rfl

theorem inWindow_append (start : Time) (l m : List Time) :
    inWindow start (l ++ m) = inWindow start l ++ inWindow start m :=
  List.filter_append ..

/-! ### What a wrong password does -/

section

variable {vault : Vault} {email password : String} {now : Time} {w : Desk} {a : OperatorAccount}

/-- The check an attempt on an account makes. -/
def checkOf (a : OperatorAccount) (now : Time) : PasswordCheck :=
  if a.isLocked now then .dummy now else .verify a.operatorId now

/-- The account after an attempt with a wrong password. -/
def OperatorAccount.attempted (a : OperatorAccount) (now : Time) : OperatorAccount :=
  if a.isLocked now then a else a.afterFailure now

theorem OperatorAccount.attempted_key (a : OperatorAccount) (now : Time) :
    Keyed.key (a.attempted now) = Keyed.key a := by
  unfold attempted
  split_ifs
  · rfl
  · exact a.afterFailure_key now

/-- An attempt with a wrong password raises, having made one check. -/
theorem authenticate_wrong (hfind : findByEmail vault email w.accounts = some a)
    (hwrong : verifyPassword vault password a.passwordHash = false) :
    ∃ w', authenticate vault email password now w = .error invalidCredentials w' ∧
      w'.checks = w.checks ++ [checkOf a now] ∧
      w'.accounts = if a.isLocked now then w.accounts else
        (w.modifyAccount a.operatorId (fun a => a.afterFailure now)
          fun a => a.afterFailure_key now).accounts := by
  cases hl : a.isLocked now with
  | true =>
      refine ⟨{ w with checks := w.checks ++ [.dummy now] }, ?_, ?_, ?_⟩
      · simp [authenticate, hfind, hl, dummyVerify]
      · simp [checkOf, hl]
      · simp
  | false =>
      refine ⟨({ w with checks := w.checks ++ [.verify a.operatorId now] } : Desk).modifyAccount
        a.operatorId (fun a => a.afterFailure now) fun a => a.afterFailure_key now, ?_, ?_, ?_⟩
      · simp [authenticate, hfind, hl, checkPassword, recordFailure, hwrong]
      · simp [checkOf, hl, Desk.modifyAccount]
      · simp [Desk.modifyAccount]

end

/-! ### The policy, where the count is kept -/

/-- What ties an account to the checks made in a window up to an instant: none were made;
or it is locked to the window's end; or it has counted them all; or the window is over. -/
def Guarded (start now : Time) (a : OperatorAccount) (n : ℕ) : Prop :=
  n = 0 ∨ (n ≤ maxFailedLogins ∧ ∃ u, a.lockedUntil = some u ∧ start + lockoutDuration ≤ u) ∨
    (n < maxFailedLogins ∧ n ≤ a.failedLoginCount ∧
      ∃ last, a.lastFailedLoginAt = some last ∧ start ≤ last ∧ last ≤ now) ∨
    (n ≤ maxFailedLogins ∧ start + lockoutDuration ≤ now)

theorem Guarded.le {start now : Time} {a : OperatorAccount} {n : ℕ} (h : Guarded start now a n) :
    n ≤ maxFailedLogins := by
  rcases h with rfl | ⟨h, -⟩ | ⟨h, -⟩ | ⟨h, -⟩
  · exact Nat.zero_le _
  · exact h
  · exact h.le
  · exact h

/-- The account that is counted in a window, once more. -/
theorem guarded_afterFailure {start now : Time} {a : OperatorAccount} {n : ℕ}
    (hstart : start ≤ now) (hn : n < maxFailedLogins)
    (hcount : n = 0 ∨ n ≤ a.failedLoginCount ∧
      ∃ last, a.lastFailedLoginAt = some last ∧ now - last ≤ failureMemory) :
    Guarded start now (a.afterFailure now) (n + 1) := by
  have hprevious : n ≤ a.previous now := by
    rcases hcount with rfl | ⟨hle, last, hlast, hrecent⟩
    · exact Nat.zero_le _
    · unfold OperatorAccount.previous
      rw [hlast]
      dsimp only
      rw [if_neg (not_lt.2 hrecent)]
      exact hle
  unfold OperatorAccount.afterFailure
  split_ifs with hfull
  · refine .inr (.inl ⟨hn, _, rfl, ?_⟩)
    linarith
  · have hcounted : n + 1 ≤ a.previous now + 1 := Nat.succ_le_succ hprevious
    exact .inr (.inr (.inl ⟨by omega, hcounted, now, rfl, hstart, le_rfl⟩))

/-- **One attempt keeps the invariant.** -/
theorem Guarded.attempted {start now now' : Time} {a : OperatorAccount} {times : List Time}
    (h : Guarded start now a (inWindow start times).length) (hnow : now ≤ now') :
    Guarded start now' (a.attempted now')
      (inWindow start (times ++ if a.isLocked now' then [] else [now'])).length := by
  have hlong : lockoutDuration ≤ failureMemory := by decide
  cases hl : a.isLocked now' with
  | true =>
      simp only [OperatorAccount.attempted, hl, if_true, List.append_nil]
      rcases h with h | h | ⟨hn, hc, last, hlast, hs, hle⟩ | ⟨hn, hover⟩
      · exact .inl h
      · exact .inr (.inl h)
      · exact .inr (.inr (.inl ⟨hn, hc, last, hlast, hs, hle.trans hnow⟩))
      · exact .inr (.inr (.inr ⟨hn, hover.trans hnow⟩))
  | false =>
      have hlock : ∀ u, a.lockedUntil = some u → u ≤ now' := fun u hu => by
        unfold OperatorAccount.isLocked at hl
        rw [hu] at hl
        simpa using hl
      have hle : (inWindow start times).length ≤ maxFailedLogins := h.le
      simp only [OperatorAccount.attempted, hl, Bool.false_eq_true, if_false, inWindow_append,
        List.length_append]
      by_cases hin : start ≤ now' ∧ now' < start + lockoutDuration
      · have hone : inWindow start [now'] = [now'] := by
          simp [inWindow, hin.1, hin.2]
        rw [hone, List.length_singleton]
        rcases h with h | ⟨hn, u, hu, hend⟩ | ⟨hn, hc, last, hlast, hs, -⟩ | ⟨hn, hover⟩
        · rw [h]
          exact guarded_afterFailure hin.1 (by decide) (.inl rfl)
        · exact absurd (hlock u hu) (by linarith)
        · exact guarded_afterFailure hin.1 hn (.inr ⟨hc, last, hlast, by linarith⟩)
        · exact absurd hin.2 (by linarith)
      · have hnone : inWindow start [now'] = [] := by
          rw [inWindow, List.filter_cons_of_neg]
          · rfl
          · simpa using hin
        rw [hnone, List.length_nil, Nat.add_zero]
        by_cases hover : start + lockoutDuration ≤ now'
        · exact .inr (.inr (.inr ⟨hle, hover⟩))
        · have hbefore : now' < start := by
            by_contra hs
            exact hin ⟨by linarith, by linarith⟩
          -- a window that has not begun has seen no check
          rcases h with h | ⟨-, u, hu, hend⟩ | ⟨-, -, last, -, hs, hlast⟩ | ⟨-, hend⟩
          · exact .inl h
          · exact absurd (hlock u hu) (by linarith)
          · exact absurd hs (by linarith)
          · exact absurd hend (by linarith)

/-- Attempts with wrong passwords of which each is committed. -/
def keptAttempts (vault : Vault) (w : Desk) (attempts : List (String × String × Time)) : Desk :=
  attempts.foldl (fun w t => Work.final (authenticate vault t.1 t.2.1 t.2.2) w) w

/-- **The policy keeps its bound where the count of a failure is kept**: at non-decreasing
instants, no window of the length of a lockout sees more than `maxFailedLogins` checks. -/
theorem kept_failures_bounded {vault : Vault} {a : OperatorAccount}
    {attempts : List (String × String × Time)} {w : Desk}
    (hmono : (attempts.map fun t => t.2.2).Pairwise (· ≤ ·))
    (hfor : ∀ t ∈ attempts, vault.strip t.1 ≠ "" ∧ normalizeEmail vault t.1 = a.email)
    (hwrong : ∀ t ∈ attempts, verifyPassword vault t.2.1 a.passwordHash = false)
    (ha : w.accounts.first (fun b => b.email == a.email) = some a)
    (hstart : verifiedAt a.operatorId w.checks = []) :
    LockoutBound (verifiedAt a.operatorId (keptAttempts vault w attempts).checks) := by
  intro start
  -- every suffix of the run starts from an account that is guarded so far
  suffices h : ∀ (attempts : List (String × String × Time)) (w : Desk) (b : OperatorAccount)
      (now : Time), b.operatorId = a.operatorId → b.email = a.email →
      b.passwordHash = a.passwordHash →
      (attempts.map fun t => t.2.2).Pairwise (· ≤ ·) → (∀ t ∈ attempts, now ≤ t.2.2) →
      (∀ t ∈ attempts, vault.strip t.1 ≠ "" ∧ normalizeEmail vault t.1 = a.email) →
      (∀ t ∈ attempts, verifyPassword vault t.2.1 a.passwordHash = false) →
      w.accounts.first (fun c => c.email == a.email) = some b →
      Guarded start now b (inWindow start (verifiedAt a.operatorId w.checks)).length →
      (inWindow start (verifiedAt a.operatorId (keptAttempts vault w attempts).checks)).length ≤
        maxFailedLogins by
    cases attempts with
    | nil =>
        show (inWindow start (verifiedAt a.operatorId w.checks)).length ≤ maxFailedLogins
        rw [hstart]
        exact Nat.zero_le _
    | cons t rest =>
        refine h (t :: rest) w a t.2.2 rfl rfl rfl hmono ?_ hfor hwrong ha (.inl ?_)
        · intro u hu
          rcases List.mem_cons.1 hu with rfl | hu
          · exact le_rfl
          · exact (List.pairwise_cons.1 hmono).1 _ (List.mem_map_of_mem hu)
        · rw [hstart]
          rfl
  intro attempts
  induction attempts with
  | nil => exact fun w b now _ _ _ _ _ _ _ _ hg => hg.le
  | cons t rest ih =>
      intro w b now hid hemail hhash hmono hnow hfor hwrong hb hg
      obtain ⟨ht, hmono⟩ := List.pairwise_cons.1 hmono
      obtain ⟨hstrip, hnorm⟩ := hfor t (List.mem_cons_self ..)
      have hfind : findByEmail vault t.1 w.accounts = some b := by
        rw [findByEmail, if_neg hstrip, hnorm]
        exact hb
      obtain ⟨w', hrun, hchecks, haccounts⟩ := @authenticate_wrong _ _ _ t.2.2 _ _ hfind
        (hhash ▸ hwrong t (List.mem_cons_self ..))
      have hfinal : Work.final (authenticate vault t.1 t.2.1 t.2.2) w = w' := by
        rw [Work.final, hrun]
      have hverified : verifiedAt a.operatorId w'.checks = verifiedAt a.operatorId w.checks ++
          if b.isLocked t.2.2 then [] else [t.2.2] := by
        rw [hchecks, verifiedAt_append, checkOf, ← hid]
        cases b.isLocked t.2.2
        · exact congrArg _ (verifiedAt_verify ..)
        · exact congrArg _ (verifiedAt_dummy ..)
      have hkept : w'.accounts.first (fun c => c.email == a.email) = some (b.attempted t.2.2) := by
        rw [haccounts]
        unfold OperatorAccount.attempted
        cases hl : b.isLocked t.2.2 with
        | true => exact hb
        | false =>
            simp only [Bool.false_eq_true, if_false]
            rw [Desk.modifyAccount, Table.first_modify _ _ _ _ fun c => ?_, hb]
            · simp
            · unfold OperatorAccount.afterFailure
              split_ifs <;> rfl
      have hfields : (b.attempted t.2.2).operatorId = b.operatorId ∧
          (b.attempted t.2.2).email = b.email ∧
          (b.attempted t.2.2).passwordHash = b.passwordHash := by
        unfold OperatorAccount.attempted OperatorAccount.afterFailure
        split_ifs <;> exact ⟨rfl, rfl, rfl⟩
      rw [keptAttempts, List.foldl_cons, hfinal]
      refine ih w' (b.attempted t.2.2) t.2.2 (hfields.1.trans hid) (hfields.2.1.trans hemail)
        (hfields.2.2.trans hhash) hmono (fun u hu => ht _ (List.mem_map_of_mem hu))
        (fun u hu => hfor u (List.mem_cons_of_mem _ hu))
        (fun u hu => hwrong u (List.mem_cons_of_mem _ hu)) hkept ?_
      rw [hverified]
      exact hg.attempted (hnow t (List.mem_cons_self ..))

/-! ### The route, which rolls the count back -/

/-- The request is for that account. -/
def LoginRequest.Names (vault : Vault) (body : LoginRequest) (a : OperatorAccount) : Prop :=
  ∃ email, body.address? vault = some email ∧ vault.strip email ≠ "" ∧
    normalizeEmail vault email = a.email

/-- Whenever the stored account is locked, a request checks no password against it. -/
def NoneWhileLocked (post : Desk → LoginRequest → Desk) (operatorId : String) (w : Desk)
    (bodies : List LoginRequest) : Prop :=
  ∀ before body after, bodies = before ++ body :: after →
    ∀ b ∈ (before.foldl post w).accounts, b.operatorId = operatorId → b.isLocked body.now = true →
      verifiedAt operatorId (post (before.foldl post w) body).checks =
        verifiedAt operatorId (before.foldl post w).checks

section

variable {vault : Vault} {mac : Mac} {newId : String → String} {settings : Settings} {w : Desk}
  {a : OperatorAccount}

/-- The stored account with an email is the one a login finds. -/
theorem first_email (ha : a ∈ w.accounts) :
    w.accounts.first (fun b => b.email == a.email) = some a := by
  refine Table.first_of_mem ha (beq_self_eq_true _) fun b hb hemail => ?_
  refine Table.eq_of_clash hb ha ?_
  simp only [clashes, Keyed.clash, Keyed.key, Bool.or_eq_true, decide_eq_true_eq]
  exact .inr (by simpa using hemail)

/-- **A request with a wrong password leaves the accounts as they were**, and its check. -/
theorem postLogin_wrong {body : LoginRequest} (ha : a ∈ w.accounts) (hfor : body.Names vault a)
    (hwrong : verifyPassword vault body.password a.passwordHash = false) :
    postLogin vault mac newId settings w body =
      { w with checks := w.checks ++ [checkOf a body.now] } := by
  obtain ⟨email, haddress, hstrip, hnorm⟩ := hfor
  have hfind : findByEmail vault email w.accounts = some a := by
    rw [findByEmail, if_neg hstrip, hnorm]
    exact first_email ha
  obtain ⟨w', hrun, hchecks, -⟩ := @authenticate_wrong _ _ _ body.now _ _ hfind hwrong
  have hlogin : login vault mac newId settings email body.password body.now w =
      .error (refused invalidCredentialsMessage "invalid_credentials") w' := by
    rw [login, hrun]
    rfl
  rw [postLogin, haddress]
  dsimp only
  rw [Work.transaction_of_error hlogin, Desk.restore, hchecks]

/-- A run of such requests. -/
theorem postLogins_wrong {bodies : List LoginRequest} (ha : a ∈ w.accounts)
    (hfor : ∀ body ∈ bodies, body.Names vault a)
    (hwrong : ∀ body ∈ bodies, verifyPassword vault body.password a.passwordHash = false) :
    postLogins vault mac newId settings w bodies =
      { w with checks := w.checks ++ bodies.map fun body => checkOf a body.now } := by
  induction bodies generalizing w with
  | nil => simp [postLogins]
  | cons body rest ih =>
      rw [postLogins, List.foldl_cons, postLogin_wrong ha (hfor body (List.mem_cons_self ..))
        (hwrong body (List.mem_cons_self ..))]
      have hrest := ih (w := { w with checks := w.checks ++ [checkOf a body.now] }) ha
        (fun b hb => hfor b (List.mem_cons_of_mem _ hb))
        (fun b hb => hwrong b (List.mem_cons_of_mem _ hb))
      rw [postLogins] at hrest
      rw [hrest, List.append_assoc]
      rfl

/-- The password is checked at every request that comes while the account is not locked. -/
theorem verifiedAt_map_checkOf (a : OperatorAccount) (bodies : List LoginRequest) :
    verifiedAt a.operatorId (bodies.map fun body => checkOf a body.now) =
      (bodies.map LoginRequest.now).filter fun t => !a.isLocked t := by
  induction bodies with
  | nil => rfl
  | cons body rest ih =>
      rw [List.map_cons, List.map_cons, ← List.singleton_append, verifiedAt_append, ih, checkOf]
      cases hl : a.isLocked body.now with
      | true =>
          rw [List.filter_cons_of_neg (by simp [hl]), if_pos rfl, verifiedAt_dummy,
            List.nil_append]
      | false =>
          rw [List.filter_cons_of_pos (by simp [hl]), if_neg Bool.false_ne_true,
            verifiedAt_verify, List.singleton_append]

end

/-- **The lockout bounds nothing the requests do not.**  For a run of login requests with
wrong passwords for one operator: no window of the length of a lockout sees more than
`maxFailedLogins` checks of the password, and none is made while the account is locked, if
and only if no such window sees more requests than that, of those that come when the lock
stored before the run is over. -/
theorem lockout_bound_iff (vault : Vault) (mac : Mac) (newId : String → String)
    (settings : Settings) (accounts : Table OperatorAccount) (a : OperatorAccount)
    (ha : a ∈ accounts) (bodies : List LoginRequest)
    (hfor : ∀ body ∈ bodies, body.Names vault a)
    (hwrong : ∀ body ∈ bodies, verifyPassword vault body.password a.passwordHash = false) :
    (LockoutBound (verifiedAt a.operatorId
        (postLogins vault mac newId settings { accounts } bodies).checks) ∧
      NoneWhileLocked (postLogin vault mac newId settings) a.operatorId { accounts } bodies) ↔
    LockoutBound ((bodies.map LoginRequest.now).filter fun t => !a.isLocked t) := by
  have hrun := @postLogins_wrong _ mac newId settings { accounts } _ _ ha hfor hwrong
  have hverified : verifiedAt a.operatorId
      (postLogins vault mac newId settings { accounts } bodies).checks =
      (bodies.map LoginRequest.now).filter fun t => !a.isLocked t := by
    rw [hrun]
    exact verifiedAt_map_checkOf a bodies
  have hlocked : NoneWhileLocked (postLogin vault mac newId settings) a.operatorId { accounts }
      bodies := by
    rintro before body after rfl b hb hid hl
    have hbefore := @postLogins_wrong _ mac newId settings { accounts } _ _ ha (fun c hc => hfor c (List.mem_append_left _ hc))
      (fun c hc => hwrong c (List.mem_append_left _ hc))
    rw [postLogins] at hbefore
    have hmem : body ∈ before ++ body :: after :=
      List.mem_append_right _ (List.mem_cons_self ..)
    rw [hbefore] at hb ⊢
    have hba : b = a := by
      refine Table.eq_of_clash hb ha ?_
      simp only [clashes, Keyed.clash, Keyed.key, Bool.or_eq_true, decide_eq_true_eq]
      exact .inl hid
    rw [postLogin_wrong ha (hfor body hmem) (hwrong body hmem), verifiedAt_append, checkOf,
      ← hba, hl, if_pos rfl, verifiedAt_dummy, List.append_nil]
  rw [hverified]
  exact and_iff_left hlocked

/-! An operator, and guesses at the password one minute apart. -/

/-- Argon2 with hashes that are the passwords themselves. -/
def demoVault : Vault :=
  { lower := id, strip := id, isSpace := fun c => c == ' ', argon := fun hash presented =>
      hash == presented, needsRehash := fun _ => false, hash := id }

def demoOperator : OperatorAccount :=
  { operatorId := "opr", merchantId := "m", email := "ada@shop.example", displayName := "Ada"
    passwordHash := "correct horse", role := "merchant_admin" }

def demoAccounts : Table OperatorAccount := ⟨[demoOperator], List.pairwise_singleton _ _⟩

def guesses (n : ℕ) : List LoginRequest :=
  (List.range n).map fun k => { email := "ada@shop.example", password := "guess", now := minutes k }

def demoTokens : Settings :=
  { jwtSecret := "jwt", sessionSecret := "session", accessTokenTtlSeconds := 3600,
    sessionTtlSeconds := 86400 }

theorem guesses_names {n : ℕ} : ∀ body ∈ guesses n, body.Names demoVault demoOperator := by
  intro body hbody
  obtain ⟨k, -, rfl⟩ := List.mem_map.1 hbody
  refine ⟨"ada@shop.example", ?_, by decide, rfl⟩
  show (if 3 ≤ "ada@shop.example".length ∧ "ada@shop.example".length ≤ 320 ∧
    1 ≤ "guess".length ∧ "guess".length ≤ 1024 then checkEmail demoVault "ada@shop.example"
    else none) = some "ada@shop.example"
  decide

theorem guesses_wrong {n : ℕ} : ∀ body ∈ guesses n,
    verifyPassword demoVault body.password demoOperator.passwordHash = false := by
  intro body hbody
  obtain ⟨k, -, rfl⟩ := List.mem_map.1 hbody
  show verifyPassword demoVault "guess" demoOperator.passwordHash = false
  decide

/-- Five guesses stay within the bound. -/
theorem five_guesses_bounded :
    LockoutBound (verifiedAt "opr" (postLogins demoVault (fun _ _ => []) id demoTokens
        { accounts := demoAccounts } (guesses 5)).checks) ∧
      NoneWhileLocked (postLogin demoVault (fun _ _ => []) id demoTokens) "opr"
        { accounts := demoAccounts } (guesses 5) :=
  (lockout_bound_iff demoVault (fun _ _ => []) id demoTokens demoAccounts demoOperator
    (List.mem_singleton_self _) (guesses 5) guesses_names guesses_wrong).2 fun start =>
      (List.length_filter_le _ _).trans (by decide)

/-- Six guesses in six minutes, at increasing instants, are all checked: the lock never comes. -/
theorem six_guesses_checked :
    (∀ body ∈ guesses 6, body.Names demoVault demoOperator ∧
        verifyPassword demoVault body.password demoOperator.passwordHash = false) ∧
      ((guesses 6).map LoginRequest.now).Pairwise (· ≤ ·) ∧
      ¬LockoutBound (verifiedAt "opr" (postLogins demoVault (fun _ _ => []) id demoTokens
        { accounts := demoAccounts } (guesses 6)).checks) := by
  refine ⟨fun body hbody => ⟨guesses_names body hbody, guesses_wrong body hbody⟩, by decide,
    fun h => absurd (h 0) ?_⟩
  decide

end Access
end AgenticCommerce
