/-
# Roles, scopes and principals

`packages/security/principals.py`.  A `Principal` carries what its constructor checks, so
one whose scopes exceed the ceiling of its role, or a buyer without a `buyer_id`, cannot
be built; `Principal.make` is the constructor, with the text of every refusal.
-/

import AgenticCommerce.Errors
import Mathlib.Data.Finset.Insert
import Mathlib.Data.Finset.SDiff

namespace AgenticCommerce
namespace Access

/-- `Role`: who the caller is. -/
inductive Role where
  | buyer | merchantAdmin | merchantOperator | platformAdmin
  deriving DecidableEq, Repr

/-- `Scope`: what a credential may do. -/
inductive Scope where
  | catalogRead | checkoutWrite | paymentWrite | settlementRead
  deriving DecidableEq, Repr

/-- `AuthMethod`: how the caller proved who they are. -/
inductive AuthMethod where
  | session | token
  deriving DecidableEq, Repr

namespace Role

def value : Role → String
  | buyer => "buyer"
  | merchantAdmin => "merchant_admin"
  | merchantOperator => "merchant_operator"
  | platformAdmin => "platform_admin"

/-- `Role(text)`. -/
def ofString? : String → Option Role
  | "buyer" => some buyer
  | "merchant_admin" => some merchantAdmin
  | "merchant_operator" => some merchantOperator
  | "platform_admin" => some platformAdmin
  | _ => none

@[simp] theorem ofString?_value (r : Role) : ofString? r.value = some r := by
  cases r <;> rfl

/-- `ROLE_SCOPES`: the ceiling on what a credential of a role may carry. -/
def scopes : Role → Finset Scope
  | buyer => {.catalogRead, .checkoutWrite, .paymentWrite}
  | merchantAdmin => {.catalogRead}
  | merchantOperator => {.catalogRead}
  | platformAdmin => {.catalogRead, .settlementRead}

end Role

namespace Scope

def value : Scope → String
  | catalogRead => "catalog:read"
  | checkoutWrite => "checkout:write"
  | paymentWrite => "payment:write"
  | settlementRead => "settlement:read"

/-- `Scope(text)`. -/
def ofString? : String → Option Scope
  | "catalog:read" => some catalogRead
  | "checkout:write" => some checkoutWrite
  | "payment:write" => some paymentWrite
  | "settlement:read" => some settlementRead
  | _ => none

@[simp] theorem ofString?_value (s : Scope) : ofString? s.value = some s := by
  cases s <;> rfl

/-- The scopes in the order of their values. -/
def all : List Scope := [catalogRead, checkoutWrite, paymentWrite, settlementRead]

theorem mem_all (s : Scope) : s ∈ all := by
  cases s <;> decide

/-- `sorted(scope.value for scope in scopes)`. -/
def sorted (scopes : Finset Scope) : List String := (all.filter (· ∈ scopes)).map value

end Scope

/-- The `repr` of a list of texts without quotes in them. -/
def reprList (texts : List String) : String :=
  "[" ++ String.intercalate ", " (texts.map fun t => "'" ++ t ++ "'") ++ "]"

/-- `bool(text)`, of a text that may be missing. -/
def given : Option String → Bool
  | some s => s != ""
  | none => false

/-- `grant_scopes`: the scopes a credential is issued with. -/
def grantScopes (role : Role) (requested : Option (Finset Scope)) :
    Except Failure (Finset Scope) :=
  match requested with
  | none => .ok role.scopes
  | some requested =>
      if requested ⊆ role.scopes then .ok requested
      else
        let excess := requested \ role.scopes
        .error (.domain
          { code := .forbidden
            message := "Requested scopes " ++ reprList (Scope.sorted excess) ++
              " exceed role ceiling for " ++ role.value
            details := [("requested", reprList (Scope.sorted requested)),
              ("permitted", reprList (Scope.sorted role.scopes)),
              ("excess", reprList (Scope.sorted excess))] })

/-- What is granted stays under the ceiling, and is what was requested. -/
theorem grantScopes_eq_ok {role : Role} {requested : Option (Finset Scope)}
    {granted : Finset Scope} : grantScopes role requested = .ok granted ↔
      granted = requested.getD role.scopes ∧ granted ⊆ role.scopes := by
  cases requested with
  | none =>
      simp only [grantScopes, Except.ok.injEq, Option.getD_none]
      constructor
      · rintro rfl
        exact ⟨rfl, fun _ h => h⟩
      · exact fun h => h.1.symm
  | some r =>
      simp only [grantScopes, Option.getD_some]
      split_ifs with h
      · simp only [Except.ok.injEq]
        constructor
        · rintro rfl
          exact ⟨rfl, h⟩
        · exact fun h => h.1.symm
      · simp only [false_iff]
        rintro ⟨rfl, hsub⟩
        exact h hsub

/-- An authenticated caller. -/
structure Principal where
  subject : String
  role : Role
  merchantId : String
  buyerId : Option String
  scopes : Finset Scope
  method : AuthMethod
  /-- Seconds since the epoch. -/
  expiresAt : Option ℤ
  /-- The client a token was exchanged for. -/
  clientId : Option String
  subject_ne : subject ≠ ""
  merchantId_ne : merchantId ≠ ""
  buyer_given : role = .buyer → given buyerId = true
  scopes_le : scopes ⊆ role.scopes
  deriving DecidableEq

namespace Principal

/-- `Principal(...)`, with what `__post_init__` raises. -/
def make (subject : String) (role : Role) (merchantId : String) (buyerId : Option String)
    (scopes : Finset Scope) (method : AuthMethod) (expiresAt : Option ℤ)
    (clientId : Option String) : Except Failure Principal :=
  if hs : subject = "" then .error (.exception "a principal must have a subject")
  else if hm : merchantId = "" then
    .error (.exception "a principal must belong to a merchant tenant")
  else if hb : role = .buyer ∧ given buyerId = false then
    .error (.exception "a buyer principal must carry a buyer_id")
  else if he : scopes ⊆ role.scopes then
    .ok { subject, role, merchantId, buyerId, scopes, method, expiresAt, clientId,
          subject_ne := hs, merchantId_ne := hm,
          buyer_given := fun hr => by
            cases hg : given buyerId with
            | false => exact absurd ⟨hr, hg⟩ hb
            | true => rfl
          scopes_le := he }
  else .error (.exception ("role " ++ role.value ++ " may not hold " ++
    reprList (Scope.sorted (scopes \ role.scopes))))

section

variable {subject merchantId : String} {role : Role} {buyerId clientId : Option String}
  {scopes : Finset Scope} {method : AuthMethod} {expiresAt : Option ℤ} {p : Principal}

/-- A principal that is built has the fields it was built from. -/
theorem make_eq_ok (h : make subject role merchantId buyerId scopes method expiresAt clientId =
    .ok p) : p.subject = subject ∧ p.role = role ∧ p.merchantId = merchantId ∧
      p.buyerId = buyerId ∧ p.scopes = scopes ∧ p.method = method ∧ p.expiresAt = expiresAt ∧
      p.clientId = clientId := by
  unfold make at h
  split_ifs at h
  obtain rfl := Except.ok.inj h
  exact ⟨rfl, rfl, rfl, rfl, rfl, rfl, rfl, rfl⟩

end

/-- A principal is built from its own fields. -/
theorem make_self (p : Principal) : make p.subject p.role p.merchantId p.buyerId p.scopes p.method
    p.expiresAt p.clientId = .ok p := by
  have hb : ¬(p.role = .buyer ∧ given p.buyerId = false) := fun h => by
    have := p.buyer_given h.1
    rw [h.2] at this
    exact Bool.noConfusion this
  rw [make, dif_neg p.subject_ne, dif_neg p.merchantId_ne, dif_neg hb, dif_pos p.scopes_le]

/-- `acting_on`: the same caller in another tenant, which only a platform administrator
may enter. -/
def actingOn (p : Principal) (merchantId : String) : Except Failure Principal :=
  if merchantId = p.merchantId then .ok p
  else if p.role ≠ .platformAdmin then
    .error (.domain { code := .forbidden, message := "This account cannot act on another tenant.",
                      details := [("reason", "cross_tenant")] })
  else make p.subject p.role merchantId p.buyerId p.scopes p.method p.expiresAt p.clientId

/-- The tenant that is acted on is the one that was named. -/
theorem actingOn_merchantId {p q : Principal} {merchantId : String}
    (h : p.actingOn merchantId = .ok q) : q.merchantId = merchantId := by
  unfold actingOn at h
  split_ifs at h with hm
  · obtain rfl := Except.ok.inj h
    exact hm.symm
  · exact (make_eq_ok h).2.2.1

end Principal
end Access
end AgenticCommerce
