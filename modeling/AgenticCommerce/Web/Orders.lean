/-
# Orders of the web tier's own backend

`POST /api/v1/checkout` and `POST /api/v1/payments/razorpay/verify-signature` of
`apps/web/src/app/api/[...path]/route.ts`, with the writers of
`apps/web/src/lib/serverDb.ts`.  A body is what was posted: each field is a JSON value, a
missing one `null`.  A value that a text column cannot take makes the request fail where it
is written, which leaves what was written before.  Every writer is an `INSERT OR REPLACE`:
a row replaces all rows it shares a unique column with.  The audit events, the answers'
other fields and the columns nothing reads are left out.
-/

import AgenticCommerce.Json
import AgenticCommerce.Schema
import AgenticCommerce.Web.Catalog

namespace Relational

/-- `INSERT OR REPLACE`: the rows that share a key with the new one go. -/
def Table.insertOrReplace {α : Type} [Keyed α] (t : Table α) (a : α) : Table α :=
  ⟨t.rows.filter (fun b => !clashes b a) ++ [a], List.pairwise_append.2
    ⟨t.unique.filter _, List.pairwise_singleton _ _, fun b hb c hc => by
      obtain rfl := List.mem_singleton.1 hc
      simpa using (List.mem_filter.1 hb).2⟩⟩

theorem Table.mem_insertOrReplace {α : Type} [Keyed α] {t : Table α} {a b : α} :
    b ∈ t.insertOrReplace a ↔ b = a ∨ b ∈ t ∧ clashes b a = false := by
  rw [mem_def, insertOrReplace, List.mem_append, List.mem_filter, List.mem_singleton, or_comm,
    Bool.not_eq_true', mem_def]

end Relational

namespace AgenticCommerce

open Relational

namespace Web

/-! ### The tables -/

/-- A frozen checkout. -/
structure CheckoutRow where
  checkoutId : String
  totalMinor : ℤ
  currency : String := "INR"
  deriving DecidableEq

/-- The currency a checkout is shown with. -/
def CheckoutRow.shownCurrency (c : CheckoutRow) : String :=
  if c.currency = "" then "INR" else c.currency

structure PaymentRow where
  paymentId : String
  checkoutId : String
  status : String := "verified"
  amountMinor : ℤ
  currency : String
  providerOrderId : String
  deriving DecidableEq

structure OrderRow where
  orderId : String
  orderNumber : String
  checkoutId : String
  paymentId : String
  status : String := "confirmed"
  totalMinor : ℤ
  amountMinor : ℤ
  currency : String
  deriving DecidableEq

instance : Keyed CheckoutRow := keyedBy CheckoutRow.checkoutId
instance : Keyed PaymentRow := keyedBy PaymentRow.paymentId

/-- The order's identifier is the primary key; its number, its checkout and its payment are
`UNIQUE` besides. -/
instance : Keyed OrderRow where
  Key := String × String × String × String
  key o := (o.orderId, o.orderNumber, o.checkoutId, o.paymentId)
  clash k l := decide (k.1 = l.1) || decide (k.2.1 = l.2.1) || decide (k.2.2.1 = l.2.2.1) ||
    decide (k.2.2.2 = l.2.2.2)
  clash_self := @Keyed.clash_self Order _
  clash_comm := @Keyed.clash_comm Order _

/-- The tables of checkouts, payments and orders. -/
structure Store where
  checkouts : Table CheckoutRow := .empty
  payments : Table PaymentRow := .empty
  orders : Table OrderRow := .empty

/-! ### The surroundings -/

/-- The environment variables and what the runtime makes of values: the keyed hash in
hexadecimal, a value in a template string, `Number(value)` where it is an integer, and a
number in a text column. -/
structure Runtime where
  nodeEnv : Option String := none
  allowSimPayments : Option String := none
  allowUnsignedPayments : Option String := none
  razorpayKeyId : Option String := none
  razorpayKeySecret : Option String := none
  hmac : (key message : String) → String
  template : Json → String
  integerOf : Json → Option ℤ
  numeral : Json → String

/-- What a request takes from the clock and from chance: the order number, which is the last
six digits of the milliseconds, the identifiers made of the clock, and those with random
digits besides. -/
structure Moment where
  orderNumber : String
  stamped : (kind : String) → String
  minted : (kind : String) → String

/-- JavaScript's truth value. -/
def truth : Json → Bool
  | .null => false
  | .bool b => b
  | .int n => n != 0
  | .float r => r != "0.0" && r != "-0.0"
  | .str s => s != ""
  | .arr _ | .obj _ => true

/-- `x || y`. -/
def orElse (x y : Json) : Json := if truth x then x else y

/-- `x ?? y`. -/
def nullish (x y : Json) : Json :=
  match x with
  | .null => y
  | x => x

/-- A value as a text column takes it, if it does. -/
def Runtime.column (runtime : Runtime) : Json → Option String
  | .str s => some s
  | .int n => some (runtime.numeral (.int n))
  | .float r => some (runtime.numeral (.float r))
  | _ => none

/-- `${value}`. -/
def Runtime.text (runtime : Runtime) : Json → String
  | .str s => s
  | value => runtime.template value

/-! ### Checkouts -/

/-- A line of a cart, as posted. -/
structure CheckoutLine where
  offerId : Json := .null
  quantity : Json := .null

structure CheckoutBody where
  items : List CheckoutLine := []
  offerId : Json := .null
  quantity : Json := .null

/-- What a request is answered. -/
inductive Answer where
  | checkout (row : CheckoutRow)
  | replayed (payment : PaymentRow) (order : Option OrderRow)
  | verified (order : OrderRow)
  | refused (code : String)
  | failed
  deriving DecidableEq

/-- The price of a line: the catalog's, times a quantity of 1 to 100. -/
def linePrice (runtime : Runtime) (unitPrice : String → Option ℤ) (line : CheckoutLine) :
    Except String ℤ :=
  match line.offerId with
  | .str offerId =>
      if offerId = "" then .error "VALIDATION_ERROR"
      else match unitPrice offerId with
        | none => .error "OFFER_NOT_FOUND"
        | some price => match runtime.integerOf line.quantity with
          | none => .error "VALIDATION_ERROR"
          | some quantity =>
              if quantity < 1 ∨ 100 < quantity then .error "VALIDATION_ERROR"
              else .ok (price * quantity)
  | _ => .error "VALIDATION_ERROR"

/-- The lines of a cart: 25 at most, or the one line of the body. -/
def cartLines (body : CheckoutBody) : List CheckoutLine :=
  match body.items with
  | [] => [{ offerId := orElse body.offerId (.str ""), quantity := body.quantity }]
  | items => items.take 25

/-- `saveCheckout`. -/
def Store.saveCheckout (s : Store) (row : CheckoutRow) : Store :=
  { s with checkouts := s.checkouts.insertOrReplace row }

/-- `POST /api/v1/checkout`, with the prices of the catalog. -/
def postCheckout (runtime : Runtime) (moment : Moment) (unitPrice : String → Option ℤ)
    (body : CheckoutBody) (s : Store) : Answer × Store :=
  match (cartLines body).mapM (linePrice runtime unitPrice) with
  | .error code => (.refused code, s)
  | .ok prices =>
      let row : CheckoutRow := { checkoutId := moment.minted "chk", totalMinor := prices.sum }
      (.checkout row, s.saveCheckout row)

/-! ### Verification -/

structure VerifyBody where
  razorpayOrderId : Json := .null
  razorpayPaymentId : Json := .null
  razorpaySignature : Json := .null
  confirmedOrderId : Json := .null
  checkoutId : Json := .null
  amount : Json := .null
  amountMinor : Json := .null
  currency : Json := .null

/-- `process.env.NAME` is set to something. -/
def isSet (value : Option String) : Bool := value.any (· != "")

/-- `simulatedPaymentsAllowed`. -/
def Runtime.simulatedPaymentsAllowed (runtime : Runtime) : Bool :=
  if runtime.nodeEnv = some "production" ∧ runtime.allowSimPayments ≠ some "1" then false
  else !(isSet runtime.razorpayKeyId && isSet runtime.razorpayKeySecret)

/-- `unsignedPaymentsAllowed`. -/
def Runtime.unsignedPaymentsAllowed (runtime : Runtime) : Bool :=
  runtime.allowUnsignedPayments = some "1" && runtime.nodeEnv ≠ some "production"

/-- `signSimPayment`. -/
def Runtime.signSimPayment (runtime : Runtime) (message : String) : String :=
  runtime.hmac ((truthy runtime.razorpayKeySecret).getD "sim_secret") message

/-- `verifyPaymentSignature`, of a payment identifier that is a text; `none` is a success. -/
def verifyPaymentSignature (runtime : Runtime) (orderId : Json) (paymentId : String)
    (signature : Json) : Option String :=
  let message := runtime.text orderId ++ "|" ++ paymentId
  match signature with
  | .str presented =>
      if paymentId = "" ∨ presented = "" then some "VALIDATION_ERROR"
      else if "pay_sim_".toList.isPrefixOf paymentId.toList then
        if !runtime.simulatedPaymentsAllowed then some "FORBIDDEN"
        else if presented = runtime.signSimPayment message then none
        else some "WEBHOOK_SIGNATURE_INVALID"
      else match truthy runtime.razorpayKeySecret with
        | none => if runtime.unsignedPaymentsAllowed then none else some "SERVICE_UNAVAILABLE"
        | some secret =>
            if presented = runtime.hmac secret message then none
            else some "WEBHOOK_SIGNATURE_INVALID"
  | _ => some "VALIDATION_ERROR"

/-- `getPaymentById`. -/
def Store.paymentById (s : Store) (paymentId : String) : Option PaymentRow :=
  if trim paymentId = "" then none
  else s.payments.first fun p => p.paymentId == trim paymentId

/-- `getCheckoutById`. -/
def Store.checkoutById (s : Store) (checkoutId : String) : Option CheckoutRow :=
  if trim checkoutId = "" then none
  else s.checkouts.first fun c => c.checkoutId == trim checkoutId

/-- `replayedVerification`. -/
def Store.replayedVerification (s : Store) (paymentId : String) : Option Answer :=
  (s.paymentById paymentId).map fun existing =>
    if existing.status = "verified" ∨ existing.status = "paid" ∨ existing.status = "captured" then
      .replayed existing ((s.orders.rows.take 200).find? fun o => o.paymentId == paymentId)
    else .refused "CONFLICT"

/-- `authoritativeAmountMinor`. -/
def authoritativeAmountMinor (runtime : Runtime) (s : Store) (checkoutId requestedMinor : Json) :
    Option (ℤ × String) :=
  let requested := match runtime.integerOf requestedMinor with
    | some n => if 0 < n then some (n, "INR") else none
    | none => none
  match checkoutId with
  | .str id =>
      if trim id = "" then requested
      else match s.checkoutById (trim id) with
        | some c => if 0 < c.totalMinor then some (c.totalMinor, c.shownCurrency) else none
        | none => none
  | _ => requested

/-- `savePayment`. -/
def Store.savePayment (s : Store) (row : PaymentRow) : Store :=
  { s with payments := s.payments.insertOrReplace row }

/-- `saveOrder`. -/
def Store.saveOrder (s : Store) (row : OrderRow) : Store :=
  { s with orders := s.orders.insertOrReplace row }

/-- The writes of a verified payment of a settled amount. -/
def confirm (runtime : Runtime) (moment : Moment) (body : VerifyBody) (paymentId : String)
    (settled : ℤ × String) (s : Store) : Answer × Store :=
  let checkoutId := runtime.column (orElse body.checkoutId (.str (moment.stamped "chk")))
  let currency := runtime.column (orElse body.currency (.str settled.2))
  let orderId := runtime.column (orElse body.razorpayOrderId (.str (moment.stamped "order")))
  match checkoutId, currency, orderId with
  | some checkoutId, some currency, some providerOrderId =>
      let s₁ := s.savePayment
        { paymentId, checkoutId, amountMinor := settled.1, currency, providerOrderId }
      match runtime.column (orElse body.confirmedOrderId (.str (moment.minted "ord"))) with
      | none => (.failed, s₁)
      | some orderId =>
          let row : OrderRow :=
            { orderId, orderNumber := moment.orderNumber, checkoutId, paymentId,
              totalMinor := settled.1, amountMinor := settled.1, currency }
          (.verified row, s₁.saveOrder row)
  | _, _, _ => (.failed, s)

/-- `POST /api/v1/payments/razorpay/verify-signature`. -/
def postVerification (runtime : Runtime) (moment : Moment) (body : VerifyBody) (s : Store) :
    Answer × Store :=
  match orElse body.razorpayPaymentId (.str (moment.stamped "pay")) with
  | .str paymentId =>
      match s.replayedVerification paymentId with
      | some answer => (answer, s)
      | none =>
          let presented := match body.razorpayPaymentId with
            | .str id => id
            | _ => ""
          match verifyPaymentSignature runtime
              (orElse body.razorpayOrderId (.str (moment.stamped "order"))) presented
              body.razorpaySignature with
          | some code => (.refused code, s)
          | none =>
              match authoritativeAmountMinor runtime s body.checkoutId
                  (nullish body.amount body.amountMinor) with
              | none => (.refused "VALIDATION_ERROR", s)
              | some settled => confirm runtime moment body paymentId settled s
  | _ => (.failed, s)

/-! ### Requests -/

/-- A request to the backend. -/
inductive Request where
  | checkout (unitPrice : String → Option ℤ) (body : CheckoutBody)
  | verification (body : VerifyBody)

/-- The store after a request. -/
def Request.run (runtime : Runtime) (moment : Moment) (s : Store) : Request → Store
  | checkout unitPrice body => (postCheckout runtime moment unitPrice body s).2
  | verification body => (postVerification runtime moment body s).2

end Web
end AgenticCommerce
