/-
# Tenant-scoped repositories

`packages/db/repository.py`: a repository is declared for a table and its merchant column,
and, where a row belongs to a buyer, its buyer column; every statement it builds starts from
the rows of its scope (`scopedSelect`).  The stamp that tells such a statement from another
is what `scalars` stands for: a statement is a function of the scoped rows.

A read of a merchant's scope depends on the merchant's rows only (`scopedSelect_congr`).
-/

import AgenticCommerce.Schema

namespace AgenticCommerce

open Relational

/-- `TenantScope`. -/
structure TenantScope where
  merchantId : String
  buyerId : Option String := none
  deriving DecidableEq

/-- A declared `TenantScopedRepository`. -/
structure Repository (α : Type) [Keyed α] where
  table : Database → Table α
  /-- The primary key. -/
  identity : α → String
  merchantColumn : α → String
  buyerColumn : Option (α → String) := none
  requiresBuyerScope : Bool := false

namespace Repository

variable {α : Type} [Keyed α]

/-- The repository is not refused for the scope (`TenantScopeMissingBuyerError`). -/
def opens (repo : Repository α) (scope : TenantScope) : Bool :=
  !repo.requiresBuyerScope || scope.buyerId.isSome

/-- `tenant_predicates`. -/
def tenantPredicates (repo : Repository α) (scope : TenantScope) (row : α) : Bool :=
  repo.merchantColumn row == scope.merchantId &&
  match repo.buyerColumn, scope.buyerId with
  | some column, some buyerId => column row == buyerId
  | _, _ => true

/-- `scoped_select`. -/
def scopedSelect (repo : Repository α) (scope : TenantScope) (db : Database) : List α :=
  (repo.table db).select (repo.tenantPredicates scope)

/-- `scalars` of a statement that refines the scoped one. -/
def scalars (repo : Repository α) (scope : TenantScope) (statement : List α → List α)
    (db : Database) : Option (List α) :=
  if repo.opens scope then some (statement (repo.scopedSelect scope db)) else none

/-- `list_all`. -/
def listAll (repo : Repository α) (scope : TenantScope) (limit : Option ℕ) (db : Database) :
    Option (List α) :=
  repo.scalars scope (fun rows => limit.elim rows rows.take) db

/-- `find_by`, of columns that are compared with given values. -/
def findBy (repo : Repository α) (scope : TenantScope) (columns : α → Bool) (db : Database) :
    Option (List α) :=
  repo.scalars scope (List.filter columns) db

/-- `get`. -/
def get (repo : Repository α) (scope : TenantScope) (identity : String) (db : Database) :
    Option (Option α) :=
  (repo.findBy scope (fun row => repo.identity row == identity) db).map List.head?

/-- `count`. -/
def count (repo : Repository α) (scope : TenantScope) (db : Database) : Option ℕ :=
  (repo.scalars scope id db).map List.length

/-- The rows of a merchant. -/
def owned (repo : Repository α) (merchantId : String) (db : Database) : List α :=
  (repo.table db).select fun row => repo.merchantColumn row == merchantId

/-- **A scope reads the merchant's rows.** -/
theorem scopedSelect_eq (repo : Repository α) (scope : TenantScope) (db : Database) :
    repo.scopedSelect scope db =
      (repo.owned scope.merchantId db).filter (repo.tenantPredicates scope) := by
  rw [scopedSelect, owned, Table.select, Table.select, List.filter_filter]
  refine List.filter_congr fun row _ => ?_
  rw [tenantPredicates]
  cases repo.merchantColumn row == scope.merchantId <;> simp

theorem scopedSelect_congr {repo : Repository α} {scope : TenantScope} {db db' : Database}
    (h : repo.owned scope.merchantId db = repo.owned scope.merchantId db') :
    repo.scopedSelect scope db = repo.scopedSelect scope db' := by
  rw [scopedSelect_eq, scopedSelect_eq, h]

theorem scalars_congr {repo : Repository α} {scope : TenantScope} {db db' : Database}
    {statement : List α → List α}
    (h : repo.owned scope.merchantId db = repo.owned scope.merchantId db') :
    repo.scalars scope statement db = repo.scalars scope statement db' := by
  rw [scalars, scalars, scopedSelect_congr h]

end Repository

/-! ### The declared repositories -/

def importRunRepository : Repository ImportRun where
  table := Database.importRuns
  identity := ImportRun.importRunId
  merchantColumn := ImportRun.merchantId

def catalogVersionRepository : Repository CatalogVersion where
  table := Database.catalogVersions
  identity := CatalogVersion.catalogVersionId
  merchantColumn := CatalogVersion.merchantId

def productRepository : Repository Product where
  table := Database.products
  identity := Product.productId
  merchantColumn := Product.merchantId

def offerRepository : Repository Offer where
  table := Database.offers
  identity := Offer.offerId
  merchantColumn := Offer.merchantId

def merchantRulesRepository : Repository MerchantRules where
  table := Database.merchantRules
  identity := MerchantRules.merchantId
  merchantColumn := MerchantRules.merchantId

def checkoutRepository : Repository Checkout where
  table := Database.checkouts
  identity := Checkout.checkoutId
  merchantColumn := Checkout.merchantId
  buyerColumn := some Checkout.buyerId
  requiresBuyerScope := true

def authorizationRepository : Repository Authorization where
  table := Database.authorizations
  identity := Authorization.authorizationId
  merchantColumn := Authorization.merchantId
  buyerColumn := some Authorization.buyerId
  requiresBuyerScope := true

def paymentRepository : Repository Payment where
  table := Database.payments
  identity := Payment.paymentId
  merchantColumn := Payment.merchantId
  buyerColumn := some Payment.buyerId
  requiresBuyerScope := true

def orderRepository : Repository Order where
  table := Database.orders
  identity := Order.orderId
  merchantColumn := Order.merchantId
  buyerColumn := some Order.buyerId
  requiresBuyerScope := true

/-- The repositories there are. -/
inductive Declared : {α : Type} → [Keyed α] → Repository α → Prop
  | importRun : Declared importRunRepository
  | catalogVersion : Declared catalogVersionRepository
  | product : Declared productRepository
  | offer : Declared offerRepository
  | merchantRules : Declared merchantRulesRepository
  | checkout : Declared checkoutRepository
  | authorization : Declared authorizationRepository
  | payment : Declared paymentRepository
  | order : Declared orderRepository

end AgenticCommerce
