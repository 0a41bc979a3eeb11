/-
# The policy engine

`services/policy/engine.py`: a pure decision over explicit inputs and the rules of
a merchant and a buyer, taken in a fixed order of checks.  An empty list of
allowed values allows everything; of two ceilings the lower one counts.
-/

import AgenticCommerce.Errors
import AgenticCommerce.Schema

namespace AgenticCommerce

/-- `PolicyInputs`. -/
structure PolicyInputs where
  buyerId : String
  merchantId : String
  categoryId : String
  amountMinor : ℤ
  currency : String
  offerStatus : OfferStatus
  offerExpiresAt : Time
  availableQuantity : ℤ
  policyVersion : String
  paymentMethod : String := "card"
  deriving DecidableEq

/-- `PolicyDecisionResult`. -/
structure PolicyDecisionResult where
  decision : Decision
  reasonCode : String
  policyVersion : String
  inputsHash : String
  deriving DecidableEq

/-- A list of allowed values that is given and does not have the value. -/
def excludes (allowed : List String) (value : String) : Bool :=
  !allowed.isEmpty && !allowed.contains value

/-- The decision and the reason, for the rules in their order. -/
def decidePolicy (inputs : PolicyInputs) (merchantRules : MerchantRules)
    (buyerPolicy : BuyerPolicy) (now : Time) : Decision × String :=
  if inputs.offerStatus ≠ .active ∨ inputs.offerExpiresAt ≤ now then
    (.block, ErrorCode.offerExpired.value)
  else if inputs.availableQuantity ≤ 0 ∧ merchantRules.allowOutOfStock = false then
    (.block, ErrorCode.inventoryUnavailable.value)
  else if sameCurrency inputs.currency .inr = false ∧ sameCurrency inputs.currency .usd = false then
    (.block, ErrorCode.validationError.value)
  else if merchantRules.blockedCategories.contains inputs.categoryId then
    (.block, ErrorCode.categoryNotAllowed.value)
  else if excludes merchantRules.allowedCategories inputs.categoryId then
    (.block, ErrorCode.categoryNotAllowed.value)
  else if excludes buyerPolicy.allowedCategories inputs.categoryId then
    (.block, ErrorCode.categoryNotAllowed.value)
  else if excludes buyerPolicy.allowedMerchants inputs.merchantId then
    (.block, ErrorCode.merchantNotAllowed.value)
  else if excludes merchantRules.allowedPaymentMethods inputs.paymentMethod then
    (.block, ErrorCode.policyBlocked.value)
  else if min merchantRules.maxTransactionMinor buyerPolicy.maxTransactionMinor <
      inputs.amountMinor then
    (.block, ErrorCode.amountAboveMaxLimit.value)
  else if buyerPolicy.version ≠ merchantRules.version then
    (.block, ErrorCode.policyVersionMismatch.value)
  else if min merchantRules.autoApprovalLimitMinor buyerPolicy.autoApprovalLimitMinor <
      inputs.amountMinor then
    (.requireApproval, ErrorCode.amountAboveAutoLimit.value)
  else (.allow, "OK")

/-- A check that was passed on the way to `ALLOW`. -/
theorem passed_of_allow {c : Prop} [Decidable c] {d : Decision} {reason : String}
    {rest : Decision × String} (hd : d ≠ .allow)
    (h : (if c then (d, reason) else rest).1 = .allow) : ¬c ∧ rest.1 = .allow := by
  by_cases hc : c
  · rw [if_pos hc] at h
    exact absurd h hd
  · rw [if_neg hc] at h
    exact ⟨hc, h⟩

/-- **What `ALLOW` says of the amount**: it is within both maxima and both limits of
automatic approval, under policies of one version. -/
theorem within_of_allow {inputs : PolicyInputs} {merchantRules : MerchantRules}
    {buyerPolicy : BuyerPolicy} {now : Time}
    (h : (decidePolicy inputs merchantRules buyerPolicy now).1 = .allow) :
    (inputs.amountMinor ≤ merchantRules.maxTransactionMinor ∧
      inputs.amountMinor ≤ buyerPolicy.maxTransactionMinor) ∧
    (inputs.amountMinor ≤ merchantRules.autoApprovalLimitMinor ∧
      inputs.amountMinor ≤ buyerPolicy.autoApprovalLimitMinor) ∧
    buyerPolicy.version = merchantRules.version := by
  rw [decidePolicy] at h
  obtain ⟨-, h⟩ := passed_of_allow (d := .block) nofun h
  obtain ⟨-, h⟩ := passed_of_allow (d := .block) nofun h
  obtain ⟨-, h⟩ := passed_of_allow (d := .block) nofun h
  obtain ⟨-, h⟩ := passed_of_allow (d := .block) nofun h
  obtain ⟨-, h⟩ := passed_of_allow (d := .block) nofun h
  obtain ⟨-, h⟩ := passed_of_allow (d := .block) nofun h
  obtain ⟨-, h⟩ := passed_of_allow (d := .block) nofun h
  obtain ⟨-, h⟩ := passed_of_allow (d := .block) nofun h
  obtain ⟨hmax, h⟩ := passed_of_allow (d := .block) nofun h
  obtain ⟨hversion, h⟩ := passed_of_allow (d := .block) nofun h
  obtain ⟨hauto, -⟩ := passed_of_allow (d := .requireApproval) nofun h
  exact ⟨le_min_iff.1 (not_lt.1 hmax), le_min_iff.1 (not_lt.1 hauto), not_not.1 hversion⟩

/-- `evaluate_policy`, given `inputs.compute_hash()`. -/
def evaluatePolicy (inputsHash : PolicyInputs → String) (inputs : PolicyInputs)
    (merchantRules : MerchantRules) (buyerPolicy : BuyerPolicy) (now : Time) :
    PolicyDecisionResult :=
  let outcome := decidePolicy inputs merchantRules buyerPolicy now
  { decision := outcome.1, reasonCode := outcome.2, policyVersion := buyerPolicy.version,
    inputsHash := inputsHash inputs }

end AgenticCommerce
