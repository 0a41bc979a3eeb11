/-
# The arguments of a tool

`services/agent/tools.py` with `ToolArgumentsV1` and `IntentV1` of `packages/schemas/v1.py`.
A model names a tool by a text and passes any JSON object; `validateToolArguments` lets
through the names of the allowlist and the twelve keys of the closed schema, each of its
strict type, so a number is no text and a truth value no number.

What the schema says in its refusals is a parameter, and so is the policy for URLs.
-/

import AgenticCommerce.Errors
import AgenticCommerce.Json
import AgenticCommerce.Schema

namespace AgenticCommerce
namespace Agent

/-- `ToolName`. -/
inductive ToolName where
  | searchProducts | getProduct | getOffer | compareOffers | checkInventory | getDeliveryOptions
  | getReturnPolicy | searchWeb | openUrl | extractPage | createCheckout | requestAuthorization
  | createPayment | checkPayment
  deriving DecidableEq, Repr

namespace ToolName

/-- The spelling of a name. -/
def value : ToolName → String
  | searchProducts => "search_products"
  | getProduct => "get_product"
  | getOffer => "get_offer"
  | compareOffers => "compare_offers"
  | checkInventory => "check_inventory"
  | getDeliveryOptions => "get_delivery_options"
  | getReturnPolicy => "get_return_policy"
  | searchWeb => "search_web"
  | openUrl => "open_url"
  | extractPage => "extract_page"
  | createCheckout => "create_checkout"
  | requestAuthorization => "request_authorization"
  | createPayment => "create_payment"
  | checkPayment => "check_payment"

/-- `ALLOWLISTED_TOOLS`. -/
def allowlisted : List ToolName :=
  [searchProducts, getProduct, getOffer, compareOffers, checkInventory, getDeliveryOptions,
    getReturnPolicy, searchWeb, openUrl, extractPage, createCheckout, requestAuthorization,
    createPayment, checkPayment]

/-- The tool of the allowlist that a text names. -/
def ofString? (name : String) : Option ToolName := allowlisted.find? fun t => t.value == name

/-- **A text names at most the tool it spells.** -/
theorem ofString?_eq_some {name : String} {tool : ToolName} :
    ofString? name = some tool ↔ tool.value = name := by
  constructor
  · intro h
    have hspelled : (tool.value == name) = true := by
      simpa only using List.find?_some h
    exact eq_of_beq hspelled
  · rintro rfl
    cases tool <;> decide

end ToolName

/-! ### The schema -/

/-- `NonNegativeInt`. -/
abbrev NonNegativeInt := {n : ℤ // 0 ≤ n}

/-- `PositiveInt`. -/
abbrev PositiveInt := {n : ℤ // 1 ≤ n}

/-- `IntentFinancialConstraintsV1`. -/
structure IntentFinancialConstraintsV1 where
  budgetMinor : Option NonNegativeInt
  currency : Option CurrencyCode
  deriving DecidableEq

/-- `IntentV1`. -/
structure IntentV1 where
  query : String
  category : Option String
  financial : IntentFinancialConstraintsV1
  minMemoryGb : Option NonNegativeInt
  minStorageGb : Option NonNegativeInt
  maxDeliveryDays : Option NonNegativeInt
  quantity : PositiveInt
  deriving DecidableEq

/-- `ToolArgumentsV1`. -/
structure ToolArgumentsV1 where
  toolName : ToolName
  intent : Option IntentV1
  query : Option String
  productId : Option String
  offerId : Option String
  offerIds : Option (List String)
  checkoutId : Option String
  authorizationId : Option String
  paymentId : Option String
  quantity : Option PositiveInt
  proposedPriceMinor : Option NonNegativeInt
  url : Option String
  confirmationToken : Option String
  deriving DecidableEq

/-! ### Strict readings, `none` where validation fails -/

namespace Strict

/-- `int` with a lower bound; a truth value is no number here. -/
def atLeast (bound : ℤ) : Json → Option {n : ℤ // bound ≤ n}
  | .int n => if h : bound ≤ n then some ⟨n, h⟩ else none
  | _ => none

/-- `T | None`. -/
def orNull {α : Type} (read : Json → Option α) : Json → Option (Option α)
  | .null => some none
  | value => (read value).map some

/-- `list[str]`. -/
def texts : Json → Option (List String)
  | .arr items => items.mapM Json.str?
  | _ => none

/-- `CurrencyCode`. -/
def currency (value : Json) : Option CurrencyCode := value.str?.bind CurrencyCode.ofString?

/-- The fields of a closed object: every one of them is there, and no other. -/
def closed (keys : List String) : Json → Option (List (String × Json))
  | .obj items =>
      if (∀ k ∈ keys, (Json.lookup items k).isSome) ∧ (∀ item ∈ items, item.1 ∈ keys) then some items
      else none
  | _ => none

/-- The field of a closed object. -/
def field (items : List (String × Json)) (key : String) : Json :=
  (Json.lookup items key).getD .null

/-- `IntentFinancialConstraintsV1.model_validate`. -/
def financial (value : Json) : Option IntentFinancialConstraintsV1 := do
  let items ← closed ["budget_minor", "currency"] value
  pure
    { budgetMinor := ← orNull (atLeast 0) (field items "budget_minor")
      currency := ← orNull currency (field items "currency") }

/-- `IntentV1.model_validate`. -/
def intent (value : Json) : Option IntentV1 := do
  let items ← closed ["schema_version", "query", "category", "financial", "min_memory_gb",
    "min_storage_gb", "max_delivery_days", "quantity"] value
  if field items "schema_version" = .str "1.0" then
    pure
      { query := ← (field items "query").str?
        category := ← orNull Json.str? (field items "category")
        financial := ← financial (field items "financial")
        minMemoryGb := ← orNull (atLeast 0) (field items "min_memory_gb")
        minStorageGb := ← orNull (atLeast 0) (field items "min_storage_gb")
        maxDeliveryDays := ← orNull (atLeast 0) (field items "max_delivery_days")
        quantity := ← atLeast 1 (field items "quantity") }
  else none

/-- `ToolArgumentsV1.model_validate` of the defaults updated with the known keys of a dict:
other keys are dropped before, and a missing one is `None`. -/
def arguments (tool : ToolName) (items : List (String × Json)) : Option ToolArgumentsV1 := do
  pure
    { toolName := tool
      intent := ← orNull intent (field items "intent")
      query := ← orNull Json.str? (field items "query")
      productId := ← orNull Json.str? (field items "product_id")
      offerId := ← orNull Json.str? (field items "offer_id")
      offerIds := ← orNull texts (field items "offer_ids")
      checkoutId := ← orNull Json.str? (field items "checkout_id")
      authorizationId := ← orNull Json.str? (field items "authorization_id")
      paymentId := ← orNull Json.str? (field items "payment_id")
      quantity := ← orNull (atLeast 1) (field items "quantity")
      proposedPriceMinor := ← orNull (atLeast 0) (field items "proposed_price_minor")
      url := ← orNull Json.str? (field items "url")
      confirmationToken := ← orNull Json.str? (field items "confirmation_token") }

end Strict

/-! ### The registry -/

/-- A text Python takes for true. -/
def filled (text : Option String) : Bool := text.any fun s => s != ""

/-- What a tool needs of its arguments. -/
def requiredParameters : ToolName → List (String × (ToolArgumentsV1 → Bool))
  | .getProduct => [("product_id is required for get_product", fun a => filled a.productId)]
  | .getOffer => [("offer_id is required for get_offer", fun a => filled a.offerId)]
  | .createCheckout => [("offer_id is required for create_checkout", fun a => filled a.offerId)]
  | .requestAuthorization =>
      [("checkout_id is required for request_authorization", fun a => filled a.checkoutId)]
  | .createPayment => [("checkout_id and authorization_id are required for create_payment",
      fun a => filled a.checkoutId && filled a.authorizationId)]
  | .checkPayment => [("payment_id is required for check_payment", fun a => filled a.paymentId)]
  | .openUrl => [("url is required for open_url", fun a => filled a.url)]
  | .extractPage => [("url is required for extract_page", fun a => filled a.url)]
  | _ => []

/-- The tools that reach out to a URL. -/
def fetching (tool : ToolName) : Bool := tool = .openUrl ∨ tool = .extractPage

/-- What the registry takes from the schema library and from the research service. -/
structure Screening where
  /-- `str(exc)` of the refusal of a tool's arguments. -/
  refusal : ToolName → List (String × Json) → String
  /-- `is_safe_public_url`. -/
  isSafePublicUrl : String → Bool

/-- `validate_tool_arguments`. -/
def validateToolArguments (screening : Screening) (toolName : String)
    (arguments : List (String × Json)) : Except Failure ToolArgumentsV1 :=
  match ToolName.ofString? toolName with
  | none => .error (.raised ("The requested tool '" ++ toolName ++ "' is not in the allowlist.")
      .toolBlocked)
  | some tool =>
      match Strict.arguments tool arguments with
      | none => .error (.raised ("Invalid arguments for tool '" ++ toolName ++ "': " ++
          screening.refusal tool arguments) .validationError)
      | some validated =>
          match (requiredParameters tool).find? fun p => !p.2 validated with
          | some (message, _) => .error (.raised message .validationError)
          | none =>
              if fetching tool ∧ screening.isSafePublicUrl (validated.url.getD "") = false then
                .error (.raised ("URL '" ++ validated.url.getD "" ++ "' violates anti-SSRF " ++
                  "policy: access to local, internal, or cloud metadata addresses is blocked.")
                  .forbidden)
              else .ok validated

/-- **What passes names a tool of the allowlist**, and the arguments carry that tool. -/
theorem validateToolArguments_ok {screening : Screening} {toolName : String}
    {arguments : List (String × Json)} {validated : ToolArgumentsV1}
    (h : validateToolArguments screening toolName arguments = .ok validated) :
    ToolName.ofString? toolName = some validated.toolName := by
  unfold validateToolArguments at h
  split at h
  · exact nomatch h
  · rename_i tool htool
    split at h
    · exact nomatch h
    · rename_i checked hchecked
      have hname : checked.toolName = tool := by
        simp only [Strict.arguments, Option.bind_eq_bind, Option.bind_eq_some_iff] at hchecked
        obtain ⟨_, -, _, -, _, -, _, -, _, -, _, -, _, -, _, -, _, -, _, -, _, -, _, -, h⟩ :=
          hchecked
        obtain rfl := Option.some.inj h
        rfl
      split at h
      · exact nomatch h
      · split_ifs at h
        obtain rfl := Except.ok.inj h
        rw [htool, hname]

end Agent
end AgenticCommerce
