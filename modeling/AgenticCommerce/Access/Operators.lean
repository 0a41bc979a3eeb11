/-
# Operator logins

`services/connectors/operator_auth.py`, `packages/security/passwords.py`, and the login route
of `apps/api/routers/auth.py`.  A `Desk` is the table of operator accounts together with
the password checks made so far; a rollback takes back the rows and never the checks.

A failed attempt is counted on the account's row (`recordFailure`) in the session of the
request that is about to answer 401.  The route answers by raising, and `get_db` rolls back
whatever raises (`postLogin`).
-/

import AgenticCommerce.Access.Tokens
import AgenticCommerce.Relational.Table
import AgenticCommerce.Relational.UnitOfWork

namespace AgenticCommerce
namespace Access

open Relational

/-- `operator_account.status`. -/
inductive AccountStatus where
  | active | disabled
  deriving DecidableEq, Repr

structure OperatorAccount where
  operatorId : String
  merchantId : String
  email : String
  displayName : String
  passwordHash : String
  role : String
  status : AccountStatus := .active
  mustChangePassword : Bool := false
  failedLoginCount : ℕ := 0
  lastFailedLoginAt : Option Time := none
  lockedUntil : Option Time := none
  lastLoginAt : Option Time := none
  deriving DecidableEq

instance : Keyed OperatorAccount :=
  keyedByEither OperatorAccount.operatorId OperatorAccount.email

def maxFailedLogins : ℕ := 5

/-- `LOCKOUT_DURATION`, `FAILURE_MEMORY`. -/
def lockoutDuration : Time := minutes 15
def failureMemory : Time := minutes (24 * 60)

/-- `MIN_PASSWORD_LENGTH`, `MAX_PASSWORD_LENGTH`. -/
def minPasswordLength : ℕ := 12
def maxPasswordLength : ℕ := 1024

/-- What a login takes from Python's `str` and from Argon2. -/
structure Vault where
  /-- `text.lower()`, `text.strip()`, `char.isspace()`. -/
  lower : String → String
  strip : String → String
  isSpace : Char → Bool
  /-- `_HASHER.verify(stored_hash, presented)` does not raise. -/
  argon : String → String → Bool
  /-- `_HASHER.check_needs_rehash(stored_hash)`, false where it raises. -/
  needsRehash : String → Bool
  /-- `_HASHER.hash(password)`. -/
  hash : String → String

/-- A use of Argon2: to verify a password against an account's hash, or to spend its time. -/
inductive PasswordCheck where
  | verify (operatorId : String) (now : Time)
  | dummy (now : Time)
  deriving DecidableEq, Repr

structure Desk where
  accounts : Table OperatorAccount
  checks : List PasswordCheck := []

/-- `session.rollback()`: the checks stay made. -/
def Desk.restore (old new : Desk) : Desk := { new with accounts := old.accounts }

/-- An update of one account, of columns outside its keys. -/
def Desk.modifyAccount (w : Desk) (operatorId : String) (f : OperatorAccount → OperatorAccount)
    (h : ∀ a, Keyed.key (f a) = Keyed.key a) : Desk :=
  { w with accounts := w.accounts.modify (fun a => a.operatorId == operatorId) f h }

/-- How `authenticate` ends when it does not return: by `LoginError`, or by the
`ValueError` of a password that may not be hashed. -/
inductive AuthFailure where
  | loginError (text : String)
  | valueError (text : String)
  deriving DecidableEq, Repr

/-! ### `operator_auth` -/

/-- `verify_password`. -/
def verifyPassword (vault : Vault) (presented storedHash : String) : Bool :=
  storedHash != "" && presented != "" && decide (presented.length ≤ maxPasswordLength) &&
    vault.argon storedHash presented

/-- `password_problem`. -/
def passwordProblem (password : String) : Option String :=
  if password.length < minPasswordLength then
    some ("password must be at least " ++ toString minPasswordLength ++ " characters")
  else if maxPasswordLength < password.length then
    some ("password must be at most " ++ toString maxPasswordLength ++ " characters")
  else none

/-- `normalize_email`. -/
def normalizeEmail (vault : Vault) (email : String) : String := vault.lower (vault.strip email)

/-- `find_by_email`. -/
def findByEmail (vault : Vault) (email : String) (accounts : Table OperatorAccount) :
    Option OperatorAccount :=
  if vault.strip email = "" then none
  else accounts.first fun a => a.email == normalizeEmail vault email

/-- `is_locked`. -/
def OperatorAccount.isLocked (account : OperatorAccount) (now : Time) : Bool :=
  match account.lockedUntil with
  | some lockedUntil => decide (now < lockedUntil)
  | none => false

/-- The failures that still count. -/
def OperatorAccount.previous (account : OperatorAccount) (now : Time) : ℕ :=
  match account.lastFailedLoginAt with
  | some last => if failureMemory < now - last then 0 else account.failedLoginCount
  | none => account.failedLoginCount

/-- The account after a failed attempt. -/
def OperatorAccount.afterFailure (account : OperatorAccount) (now : Time) : OperatorAccount :=
  if maxFailedLogins ≤ account.previous now + 1 then
    { account with lastFailedLoginAt := some now, lockedUntil := some (now + lockoutDuration),
                   failedLoginCount := 0 }
  else { account with lastFailedLoginAt := some now, failedLoginCount := account.previous now + 1 }

/-- The account after a login; `hash` replaces one that is stale. -/
def OperatorAccount.afterLogin (account : OperatorAccount) (now : Time) (hash : Option String) :
    OperatorAccount :=
  { account with failedLoginCount := 0, lockedUntil := none, lastFailedLoginAt := none,
                 lastLoginAt := some now, passwordHash := hash.getD account.passwordHash }

theorem OperatorAccount.afterFailure_key (account : OperatorAccount) (now : Time) :
    Keyed.key (account.afterFailure now) = Keyed.key account := by
  unfold afterFailure
  split_ifs <;> rfl

/-- The result of a successful credential check. -/
structure AuthenticatedOperator where
  operatorId : String
  email : String
  displayName : String
  role : Role
  merchantId : String
  mustChangePassword : Bool
  needsRehash : Bool

/-- Spends the time of a check. -/
def dummyVerify (now : Time) : Work Desk AuthFailure Unit :=
  Work.write fun w => { w with checks := w.checks ++ [.dummy now] }

/-- `passwords.verify_password(password, account.password_hash)`. -/
def checkPassword (vault : Vault) (account : OperatorAccount) (password : String) (now : Time) :
    Work Desk AuthFailure Bool := do
  Work.write fun w => { w with checks := w.checks ++ [.verify account.operatorId now] }
  pure (verifyPassword vault password account.passwordHash)

/-- `_record_failure`. -/
def recordFailure (account : OperatorAccount) (now : Time) : Work Desk AuthFailure Unit :=
  Work.write fun w => w.modifyAccount account.operatorId (fun a => a.afterFailure now)
    fun a => a.afterFailure_key now

def invalidCredentials : AuthFailure := .loginError "invalid credentials"

/-- `authenticate`. -/
def authenticate (vault : Vault) (email password : String) (now : Time) :
    Work Desk AuthFailure AuthenticatedOperator := do
  match ← Work.ask fun w => .ok (findByEmail vault email w.accounts) with
  | none =>
      dummyVerify now
      throw invalidCredentials
  | some account =>
      if account.isLocked now then
        dummyVerify now
        throw invalidCredentials
      else if !(← checkPassword vault account password now) then
        recordFailure account now
        throw invalidCredentials
      else if account.status ≠ .active then throw invalidCredentials
      else match Role.ofString? account.role with
        | none => throw (.loginError "account role is not recognised by this build")
        | some role =>
            let stale := account.passwordHash != "" && vault.needsRehash account.passwordHash
            match (passwordProblem password).filter fun _ => stale with
            | some problem => throw (.valueError problem)
            | none =>
                Work.write fun w => w.modifyAccount account.operatorId
                  (fun a => a.afterLogin now (if stale then some (vault.hash password) else none))
                  fun _ => rfl
                pure { operatorId := account.operatorId, email := account.email,
                       displayName := account.displayName, role, merchantId := account.merchantId,
                       mustChangePassword := account.mustChangePassword, needsRehash := stale }

/-! ### The route -/

/-- `normalized.rpartition("@")`: what stands before the last `@` and after it. -/
def rpartition (text : List Char) : Option (List Char × List Char) :=
  match text.reverse.dropWhile (· != '@') with
  | [] => none
  | _ :: before => some (before.reverse, (text.reverse.takeWhile (· != '@')).reverse)

/-- `_check_email`. -/
def checkEmail (vault : Vault) (value : String) : Option String :=
  let normalized := vault.lower (vault.strip value)
  match rpartition normalized.toList with
  | none => none
  | some (before, domain) =>
      if before = [] ∨ domain = [] ∨ '.' ∉ domain then none
      else if normalized.toList.any vault.isSpace then none
      else some normalized

/-- `POST /api/v1/auth/login` at an instant. -/
structure LoginRequest where
  email : String
  password : String
  now : Time
  deriving DecidableEq

/-- The address of a request whose body is valid. -/
def LoginRequest.address? (vault : Vault) (body : LoginRequest) : Option String :=
  if 3 ≤ body.email.length ∧ body.email.length ≤ 320 ∧ 1 ≤ body.password.length ∧
      body.password.length ≤ 1024 then checkEmail vault body.email
  else none

/-- The answer to a login, with the session its cookie carries. -/
structure LoginResponse where
  session : IssuedToken
  email : String
  displayName : String
  mustChangePassword : Bool

def invalidCredentialsMessage : String := "Email or password is incorrect."

/-- `login`. -/
def login (vault : Vault) (mac : Mac) (newId : String → String) (settings : Settings)
    (email password : String) (now : Time) : Work Desk Failure LoginResponse := fun w =>
  match authenticate vault email password now w with
  | .error (.loginError _) w => .error (refused invalidCredentialsMessage "invalid_credentials") w
  | .error (.valueError text) w => .error (.exception text) w
  | .ok operator w =>
      match issueSessionToken mac newId settings.sessionSecret operator.operatorId operator.role
        operator.merchantId settings.sessionTtlSeconds none now with
      | .error e => .error e w
      | .ok session => .ok { session, email := operator.email,
                             displayName := operator.displayName,
                             mustChangePassword := operator.mustChangePassword } w

/-- The request: an invalid body is refused before the route runs, and the route is one
unit of work of `get_db`. -/
def postLogin (vault : Vault) (mac : Mac) (newId : String → String) (settings : Settings)
    (w : Desk) (body : LoginRequest) : Desk :=
  match body.address? vault with
  | none => w
  | some email =>
      Work.transaction Desk.restore (login vault mac newId settings email body.password body.now) w

/-- A sequence of requests. -/
def postLogins (vault : Vault) (mac : Mac) (newId : String → String) (settings : Settings)
    (w : Desk) (bodies : List LoginRequest) : Desk :=
  bodies.foldl (postLogin vault mac newId settings) w

end Access
end AgenticCommerce
