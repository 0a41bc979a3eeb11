/-
# The bounded agent loop

`services/agent/loop.py`.  `executeTool` validates a tool call, blocks it where it needs a
confirmation that is not given, and routes it to the commerce port; `runBoundedAgent` asks a
model for a plan and executes it, at most `maxSteps` tools of it and not past the deadline.

A `Run` is the world together with what the agent did to it: the calls it made to the port
and the tools it began, in their order.  The guard, the model, the extraction of an intent, the
web and the clock are parameters: whatever they answer, the plan is what a model returned.
-/

import AgenticCommerce.Agent.Facade
import AgenticCommerce.Agent.Tools

namespace AgenticCommerce
namespace Agent

open Relational Work

/-- `MAX_STEPS`. -/
def maxSteps : ℕ := 10

/-- `MAX_WALL_CLOCK_SECONDS`. -/
def maxWallClockSeconds : ℚ := 30

/-- `STATE_CHANGING_TOOLS`. -/
def stateChangingTools : List ToolName := [.createCheckout, .createPayment]

/-- `ResearchEvidence`. -/
structure ResearchEvidence where
  claim : String
  citationType : String
  sourceUrl : Option String
  confidence : ℚ
  deriving DecidableEq

/-- What the web answers: `execute_product_research` of a product and a query, with the steps
it took, and `fetch_page` of a URL. -/
structure Web where
  research : String → String → Except Failure (List ResearchEvidence × ℕ)
  fetchPage : String → Except Failure String

/-- What a model answers. -/
structure ModelResponse where
  parsedJson : Json
  modelVersion : String

/-- What the agent stands on. -/
structure Runtime where
  /-- The environment of each call to the port. -/
  env : ℕ → Env
  seed : SeedSearch
  screening : Screening
  /-- The web at the time of each tool. -/
  web : ℕ → Web
  /-- `PromptSafetyClassifier.assert_safe`. -/
  assertSafe : String → Except Failure Unit
  /-- `ModelProvider.generate`. -/
  generate : String → Except Failure ModelResponse
  /-- `IntentValidator.validate_dict`. -/
  validateIntent : List (String × Json) → String → Except Failure IntentV1
  /-- `new_id("run")`. -/
  runId : String
  /-- The seconds since the start of the run, before each step. -/
  elapsed : ℕ → ℚ
  /-- Python's `repr` of a list or a dict. -/
  repr : Json → String

/-- What an agent has done, and the world it did it to. -/
structure Run where
  world : World
  calls : List FacadeCall := []
  begun : List String := []

/-- A step of the agent. -/
abbrev AgentOp (α : Type) := Work Run Failure α

/-- One call to the port. -/
def invoke (runtime : Runtime) (call : FacadeCall) : AgentOp call.Answer := fun s =>
  match serve (runtime.env s.calls.length) runtime.seed call s.world with
  | .ok a w => .ok a { s with world := w, calls := s.calls ++ [call] }
  | .error e w => .error e { s with world := w, calls := s.calls ++ [call] }

/-- `with contextlib.suppress(Exception): record_agent_event(...)`. -/
def recordSuppressed (runtime : Runtime) (event : AgentEvent) : AgentOp Unit := do
  let _ ← attempt (invoke runtime (.recordAgentEvent event))
  pure ()

/-- What does not touch the state, and may raise. -/
def outcome {α : Type} (answer : Except Failure α) : AgentOp α := ask fun _ => answer

@[simp] theorem outcome_eq_ok {α : Type} {answer : Except Failure α} {a : α} {s t : Run} :
    outcome answer s = .ok a t ↔ answer = .ok a ∧ s = t := by
  simp [outcome]

@[simp] theorem outcome_eq_error {α : Type} {answer : Except Failure α} {e : Failure} {s t : Run} :
    outcome answer s = .error e t ↔ answer = .error e ∧ s = t := by
  simp [outcome]

/-! ### Executing a tool -/

/-- `ToolExecutionResult.result`. -/
inductive ToolOutput where
  | confirmationRequired
  | offers (offers : List OfferV1)
  | offer (offer : Option OfferV1)
  | productOffers (productId : Option String) (offers : List OfferV1)
  | payment (payment : PaymentV1)
  | stock (offerId : String) (availableQuantity unitPriceMinor : ℤ) (currency : CurrencyCode)
  | deliveryDays (days : ℤ)
  | returnPeriodDays (days : ℤ)
  | checkout (checkout : CheckoutV1)
  | authorization (authorization : AuthorizationV1)
  | evidence (query : Option String) (evidence : List ResearchEvidence) (stepCount : ℕ)
  | page (url extractedText : String)
  deriving DecidableEq

/-- `ToolExecutionResult`. -/
structure ToolExecutionResult where
  toolName : String
  arguments : ToolArgumentsV1
  result : ToolOutput
  isStateChanging : Bool
  requiresConfirmation : Bool
  deriving DecidableEq

/-- A text that has to be there and not empty. -/
def requireText (text : Option String) (missing : Failure) : AgentOp String :=
  outcome ((given text).elim (.error missing) .ok)

/-- The refusal of a tool that needs an offer. -/
def offerRequired (tool : ToolName) : Failure :=
  .raised ("offer_id is required for " ++ tool.value) .validationError

/-- Who is to buy. -/
def requireBuyer (buyerId : Option String) (purpose : String) : AgentOp String :=
  requireText buyerId (.raised ("Buyer ID required for " ++ purpose) .forbidden)

/-- Step 3 of `execute_tool`: the services a tool is routed to. -/
def route (runtime : Runtime) (args : ToolArgumentsV1) (merchantId : String)
    (buyerId : Option String) : AgentOp ToolOutput :=
  match args.toolName with
  | .searchProducts => do
      let offers ← invoke runtime (.searchOffers
        { merchantId, category := args.intent.bind IntentV1.category,
          quantity := args.quantity.elim 1 Subtype.val, limit := 10 })
      pure (.offers offers)
  | .getOffer =>
      match given args.offerId with
      | some offerId => do
          let offer ← invoke runtime (.getOffer merchantId offerId)
          pure (.offer (some offer))
      | none => do
          let offers ← invoke runtime (.searchOffers { merchantId, limit := 1 })
          pure (.offer (List.head? offers))
  | .compareOffers =>
      match (args.offerIds.filter fun l => !l.isEmpty).getD (given args.offerId).toList with
      | [] => do
          let offers ← invoke runtime (.searchOffers { merchantId, limit := 3 })
          pure (.offers offers)
      | offerIds => do
          let offers ← invoke runtime (.compareOffers merchantId offerIds)
          pure (.offers offers)
  | .getProduct => do
      let offers ← invoke runtime (.searchOffers { merchantId, limit := 5 })
      pure (.productOffers args.productId offers)
  | .checkPayment => do
      let paymentId ← requireText args.paymentId
        (.raised "payment_id is required for check_payment" .validationError)
      let payment ← invoke runtime (.getPayment merchantId paymentId buyerId)
      pure (.payment payment)
  | .checkInventory => do
      let offerId ← requireText args.offerId (offerRequired .checkInventory)
      let offer ← invoke runtime (.getOffer merchantId offerId)
      pure (.stock offerId (OfferV1.availableQuantity offer) (OfferV1.unitPriceMinor offer)
        (OfferV1.currency offer))
  | .getDeliveryOptions => do
      let offerId ← requireText args.offerId (offerRequired .getDeliveryOptions)
      let offer ← invoke runtime (.getOffer merchantId offerId)
      pure (.deliveryDays (OfferV1.deliveryDays offer))
  | .getReturnPolicy => do
      let offerId ← requireText args.offerId (offerRequired .getReturnPolicy)
      let offer ← invoke runtime (.getOffer merchantId offerId)
      pure (.returnPeriodDays (OfferV1.returnPeriodDays offer))
  | .createCheckout => do
      let buyer ← requireBuyer buyerId "checkout"
      let checkout ← invoke runtime (.createCheckout buyer merchantId (args.offerId.getD "")
        (args.quantity.elim 1 Subtype.val))
      pure (.checkout checkout)
  | .requestAuthorization => do
      let buyer ← requireBuyer buyerId "authorization"
      let authorization ← invoke runtime
        (.requestAuthorization buyer merchantId (args.checkoutId.getD ""))
      pure (.authorization authorization)
  | .createPayment => do
      let buyer ← requireBuyer buyerId "payment"
      let payment ← invoke runtime (.createPayment buyer merchantId (args.checkoutId.getD "")
        (args.authorizationId.getD "") none)
      pure (.payment payment)
  | .searchWeb => do
      let answer ← ask fun s => (runtime.web s.begun.length).research
        ((given args.productId).getD "general") (args.query.getD "")
      pure (.evidence args.query answer.1 answer.2)
  | .openUrl | .extractPage => do
      let text ← ask fun s => (runtime.web s.begun.length).fetchPage (args.url.getD "")
      pure (.page (args.url.getD "") text)

/-- The `TOOL_BLOCKED` event. -/
def blockedEvent (toolName merchantId : String) (buyerId : Option String) : AgentEvent :=
  { eventType := "TOOL_BLOCKED", aggregateId := toolName, actorType := "buyer",
    actorId := buyerId, merchantId := some merchantId,
    metadata := [("tool_name", .str toolName), ("reason", .str "confirmation_required")] }

/-- `execute_tool`. -/
def executeTool (runtime : Runtime) (toolName : String) (arguments : List (String × Json))
    (merchantId : String) (buyerId : Option String := none) (confirmed : Bool := false) :
    AgentOp ToolExecutionResult := do
  let args ← outcome (validateToolArguments runtime.screening toolName arguments)
  let isMutating := decide (args.toolName ∈ stateChangingTools)
  if isMutating && !confirmed then
    recordSuppressed runtime (blockedEvent toolName merchantId buyerId)
    pure
      { toolName, arguments := args, result := .confirmationRequired, isStateChanging := true,
        requiresConfirmation := true }
  else
    let result ← route runtime args merchantId buyerId
    pure
      { toolName, arguments := args, result, isStateChanging := isMutating,
        requiresConfirmation := false }

/-! ### Planning -/

/-- A tool a plan names, with its arguments. -/
abbrev PlannedTool := String × List (String × Json)

/-- The two elements of an item that `dict` takes for a binding. -/
def pairOf : Json → Except Failure (List Json)
  | .arr items => .ok items
  | .str s => .ok (s.toList.map fun c => .str (String.singleton c))
  | .obj items => .ok ((items.map Prod.fst).eraseDups.map Json.str)
  | .null | .bool _ | .int _ | .float _ =>
      .error (.exception "cannot convert dictionary update sequence element to a sequence")

/-- A binding of `dict(items)`, where its key is a text; other keys are no tool's. -/
def bindingOf (item : Json) : Except Failure (List (String × Json)) :=
  match pairOf item with
  | .error e => .error e
  | .ok [.str key, value] => .ok [(key, value)]
  | .ok [.arr _, _] | .ok [.obj _, _] => .error (.exception "unhashable type")
  | .ok [_, _] => .ok []
  | .ok _ => .error (.exception "dictionary update sequence element has a wrong length; 2 is required")

/-- `dict(value)`. -/
def dictOf : Json → Except Failure (List (String × Json))
  | .obj items => .ok items
  | .arr items => (items.mapM bindingOf).map List.flatten
  | .str s =>
      if s = "" then .ok []
      else .error (.exception
        "dictionary update sequence element has a wrong length; 2 is required")
  | .null | .bool _ | .int _ | .float _ => .error (.exception "object is not iterable")

/-- The tool that an element of `tool_calls` asks for, if it does. -/
def plannedTool (repr : Json → String) : Json → Except Failure (List PlannedTool)
  | .obj items =>
      match Json.lookup items "tool_name" with
      | none => .ok []
      | some toolName => (dictOf ((Json.lookup items "arguments").getD (.obj []))).map fun args =>
          [(toolName.toStr repr, args)]
  | _ => .ok []

/-- The plan of a model. -/
def planOf (repr : Json → String) (raw : List (String × Json)) :
    Except Failure (List PlannedTool) :=
  match Json.lookup raw "tool_calls" with
  | some (.arr toolCalls) => (toolCalls.mapM (plannedTool repr)).map List.flatten
  | _ => .ok []

/-- `model_dump(mode="json")` of an optional number. -/
def dumpNumber (n : Option NonNegativeInt) : Json := n.elim .null fun n => .int n.val

/-- `intent.model_dump(mode="json")`. -/
def IntentV1.dump (intent : IntentV1) : Json :=
  .obj
    [("schema_version", .str "1.0"), ("query", .str intent.query),
      ("category", .ofOption intent.category),
      ("financial", .obj [("budget_minor", dumpNumber intent.financial.budgetMinor),
        ("currency", .ofOption (intent.financial.currency.map CurrencyCode.value))]),
      ("min_memory_gb", dumpNumber intent.minMemoryGb),
      ("min_storage_gb", dumpNumber intent.minStorageGb),
      ("max_delivery_days", dumpNumber intent.maxDeliveryDays),
      ("quantity", .int intent.quantity.val)]

/-- What is executed without a plan. -/
def defaultPlan (intent : IntentV1) : List PlannedTool :=
  [("search_products", [("query", .str intent.query), ("intent", intent.dump)])]

/-! ### The run -/

/-- The guard, the intent and the plan of a run, as far as the loop. -/
def prepare (runtime : Runtime) (userPrompt merchantId : String) (buyerId : Option String) :
    AgentOp (IntentV1 × List PlannedTool) := do
  outcome (runtime.assertSafe userPrompt)
  recordSuppressed runtime
    { eventType := "PROMPT_SAFETY_CHECKED", aggregateId := runtime.runId, actorType := "buyer",
      actorId := buyerId, merchantId := some merchantId, metadata := [("is_safe", .bool true)] }
  let response ← outcome (runtime.generate userPrompt)
  let raw := match response.parsedJson with
    | .obj items => items
    | _ => []
  let intent ← outcome (runtime.validateIntent raw userPrompt)
  recordSuppressed runtime
    { eventType := "INTENT_EXTRACTED", aggregateId := runtime.runId, actorType := "buyer",
      actorId := buyerId, merchantId := some merchantId,
      metadata := [("query", .str intent.query), ("category", .ofOption intent.category)] }
  let plan ← outcome (planOf runtime.repr raw)
  pure (intent, if plan.isEmpty then defaultPlan intent else plan)

/-- A tool is begun: the counter of steps goes up. -/
def begin (toolName : String) : AgentOp Unit :=
  write fun s => { s with begun := s.begun ++ [toolName] }

/-- The limits let another step begin. -/
def WithinLimits (runtime : Runtime) (stepCount : ℕ) : Prop :=
  stepCount < maxSteps ∧ runtime.elapsed stepCount < maxWallClockSeconds

instance (runtime : Runtime) (stepCount : ℕ) : Decidable (WithinLimits runtime stepCount) :=
  inferInstanceAs (Decidable (_ ∧ _))

/-- The loop over the planned tools: the tools executed, the steps, and whether it came to the
end of the plan. -/
def runTools (runtime : Runtime) (merchantId : String) (buyerId : Option String) :
    List PlannedTool → ℕ → List ToolExecutionResult →
      AgentOp (List ToolExecutionResult × ℕ × Bool)
  | [], stepCount, executed => pure (executed, stepCount, true)
  | (toolName, args) :: rest, stepCount, executed =>
      if ¬WithinLimits runtime stepCount then pure (executed, stepCount, false)
      else do
        begin toolName
        let result ← executeTool runtime toolName args merchantId buyerId
        if result.requiresConfirmation then pure (executed ++ [result], stepCount + 1, false)
        else runTools runtime merchantId buyerId rest (stepCount + 1) (executed ++ [result])

/-- `AgentRunSummary`. -/
structure AgentRunSummary where
  runId : String
  query : String
  stepsExecuted : ℕ
  toolCalls : List ToolExecutionResult
  isCompleted : Bool
  intent : IntentV1
  deriving DecidableEq

/-- `run_bounded_agent`. -/
def runBoundedAgent (runtime : Runtime) (userPrompt merchantId : String)
    (buyerId : Option String := none) : AgentOp AgentRunSummary := do
  let (intent, plan) ← prepare runtime userPrompt merchantId buyerId
  let (toolCalls, stepsExecuted, isCompleted) ← runTools runtime merchantId buyerId plan 0 []
  pure { runId := runtime.runId, query := userPrompt, stepsExecuted, toolCalls, isCompleted, intent }

end Agent
end AgenticCommerce
