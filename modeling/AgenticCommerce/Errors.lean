/-
# Error codes and failures

`packages/errors/registry.py` and `packages/errors/exceptions.py`: the codes a
client may observe, the status and default text the registry gives each of them,
and `DomainError`, which pairs a code with a text.

A service can end in three ways that are not a return.  It raises a domain
error; it raises some other exception (a provider's, a type error), with a
session that can still be used; or a flush hits a constraint, which leaves the
session's transaction inactive, so that nothing can be written or committed
through it any more.  `Failure` keeps the three apart, because a caller that
catches an exception can only go on after the first two.
-/

import Mathlib.Data.Nat.Notation

namespace AgenticCommerce

/-- `ErrorCode`: every code a client may observe. -/
inductive ErrorCode where
  | offerNotFound | offerExpired | inventoryUnavailable | versionConflict | priceChanged
  | checkoutExpired | policyBlocked | amountAboveMaxLimit | amountAboveAutoLimit
  | categoryNotAllowed | merchantNotAllowed | policyVersionMismatch | authorizationExpired
  | authorizationCheckoutMismatch | authorizationAlreadyConsumed
  | idempotencyKeyReusedWithDifferentRequest | requestInProgress | paymentTimeout
  | paymentUnknown | webhookSignatureInvalid | maxDiscountExceeded | negotiationRoundsExceeded
  | toolBlocked | promptInjectionSuspected | illegalTransition | alreadyFinalized
  | connectorUnauthorized | connectorUnreachable | connectorRateLimited | connectorError
  | forbidden | rateLimited | badRequest | unauthenticated | notFound | methodNotAllowed
  | conflict | payloadTooLarge | validationError | internalError | serviceUnavailable
  | gatewayTimeout
  deriving DecidableEq, Repr

namespace ErrorCode

/-- The spelling of a code on the wire. -/
def value : ErrorCode → String
  | offerNotFound => "OFFER_NOT_FOUND"
  | offerExpired => "OFFER_EXPIRED"
  | inventoryUnavailable => "INVENTORY_UNAVAILABLE"
  | versionConflict => "VERSION_CONFLICT"
  | priceChanged => "PRICE_CHANGED"
  | checkoutExpired => "CHECKOUT_EXPIRED"
  | policyBlocked => "POLICY_BLOCKED"
  | amountAboveMaxLimit => "AMOUNT_ABOVE_MAX_LIMIT"
  | amountAboveAutoLimit => "AMOUNT_ABOVE_AUTO_LIMIT"
  | categoryNotAllowed => "CATEGORY_NOT_ALLOWED"
  | merchantNotAllowed => "MERCHANT_NOT_ALLOWED"
  | policyVersionMismatch => "POLICY_VERSION_MISMATCH"
  | authorizationExpired => "AUTHORIZATION_EXPIRED"
  | authorizationCheckoutMismatch => "AUTHORIZATION_CHECKOUT_MISMATCH"
  | authorizationAlreadyConsumed => "AUTHORIZATION_ALREADY_CONSUMED"
  | idempotencyKeyReusedWithDifferentRequest => "IDEMPOTENCY_KEY_REUSED_WITH_DIFFERENT_REQUEST"
  | requestInProgress => "REQUEST_IN_PROGRESS"
  | paymentTimeout => "PAYMENT_TIMEOUT"
  | paymentUnknown => "PAYMENT_UNKNOWN"
  | webhookSignatureInvalid => "WEBHOOK_SIGNATURE_INVALID"
  | maxDiscountExceeded => "MAX_DISCOUNT_EXCEEDED"
  | negotiationRoundsExceeded => "NEGOTIATION_ROUNDS_EXCEEDED"
  | toolBlocked => "TOOL_BLOCKED"
  | promptInjectionSuspected => "PROMPT_INJECTION_SUSPECTED"
  | illegalTransition => "ILLEGAL_TRANSITION"
  | alreadyFinalized => "ALREADY_FINALIZED"
  | connectorUnauthorized => "CONNECTOR_UNAUTHORIZED"
  | connectorUnreachable => "CONNECTOR_UNREACHABLE"
  | connectorRateLimited => "CONNECTOR_RATE_LIMITED"
  | connectorError => "CONNECTOR_ERROR"
  | forbidden => "FORBIDDEN"
  | rateLimited => "RATE_LIMITED"
  | badRequest => "BAD_REQUEST"
  | unauthenticated => "UNAUTHENTICATED"
  | notFound => "NOT_FOUND"
  | methodNotAllowed => "METHOD_NOT_ALLOWED"
  | conflict => "CONFLICT"
  | payloadTooLarge => "PAYLOAD_TOO_LARGE"
  | validationError => "VALIDATION_ERROR"
  | internalError => "INTERNAL_ERROR"
  | serviceUnavailable => "SERVICE_UNAVAILABLE"
  | gatewayTimeout => "GATEWAY_TIMEOUT"

/-- `ErrorSpec.http_status` of the registry row of a code. -/
def httpStatus : ErrorCode → ℕ
  | offerNotFound | notFound => 404
  | offerExpired | inventoryUnavailable | versionConflict | priceChanged | checkoutExpired
  | policyVersionMismatch | authorizationExpired | authorizationCheckoutMismatch
  | authorizationAlreadyConsumed | requestInProgress | negotiationRoundsExceeded
  | illegalTransition | alreadyFinalized | conflict => 409
  | policyBlocked | amountAboveMaxLimit | categoryNotAllowed | merchantNotAllowed
  | toolBlocked | forbidden => 403
  | amountAboveAutoLimit | paymentUnknown | maxDiscountExceeded => 200
  | idempotencyKeyReusedWithDifferentRequest | validationError => 422
  | paymentTimeout | gatewayTimeout => 504
  | webhookSignatureInvalid | promptInjectionSuspected | badRequest => 400
  | connectorUnauthorized | unauthenticated => 401
  | connectorUnreachable | serviceUnavailable => 503
  | connectorRateLimited | rateLimited => 429
  | connectorError => 502
  | methodNotAllowed => 405
  | payloadTooLarge => 413
  | internalError => 500

/-- `ErrorSpec.message` of the registry row of a code. -/
def message : ErrorCode → String
  | offerNotFound => "The requested offer does not exist."
  | offerExpired => "The selected offer is no longer valid."
  | inventoryUnavailable => "The requested quantity is not available."
  | versionConflict => "The record changed while this request was in flight."
  | priceChanged => "The price changed after approval, so no charge was made."
  | checkoutExpired => "This checkout has expired."
  | policyBlocked => "This action is not permitted by policy."
  | amountAboveMaxLimit => "The amount is above the maximum permitted for this buyer."
  | amountAboveAutoLimit =>
      "The amount is above the automatic approval limit and needs explicit approval."
  | categoryNotAllowed => "This product category is not permitted for this buyer."
  | merchantNotAllowed => "This merchant is not permitted for this buyer."
  | policyVersionMismatch => "Policy changed since this approval was granted."
  | authorizationExpired => "The approval has expired."
  | authorizationCheckoutMismatch => "The approval does not belong to this checkout."
  | authorizationAlreadyConsumed => "The approval has already been used."
  | idempotencyKeyReusedWithDifferentRequest =>
      "This idempotency key was already used with a different request body."
  | requestInProgress => "An identical request is still being processed."
  | paymentTimeout => "The payment provider did not answer in time."
  | paymentUnknown => "The payment outcome is not confirmed yet. No second payment was created."
  | webhookSignatureInvalid => "The webhook signature did not verify."
  | maxDiscountExceeded =>
      "The requested discount is beyond what can be offered. A counter-offer is included."
  | negotiationRoundsExceeded => "The negotiation round limit for this offer has been reached."
  | toolBlocked => "That tool is not permitted in this context."
  | promptInjectionSuspected => "The request contained instructions that cannot be followed."
  | illegalTransition => "That change is not allowed from the current state."
  | alreadyFinalized => "This record is already final."
  | connectorUnauthorized => "The store rejected the configured credential."
  | connectorUnreachable => "The store could not be reached."
  | connectorRateLimited => "The store is rate-limiting this sync. Retry shortly."
  | connectorError => "The store returned an unexpected response."
  | forbidden => "You do not have access to this resource."
  | rateLimited => "Too many requests. Retry after the interval in the Retry-After header."
  | badRequest => "The request could not be processed as sent."
  | unauthenticated => "Authentication is required."
  | notFound => "The requested resource does not exist."
  | methodNotAllowed => "That method is not supported for this resource."
  | conflict => "The request conflicts with the current state."
  | payloadTooLarge => "The request payload is too large."
  | validationError => "The request failed validation."
  | internalError => "An internal error occurred."
  | serviceUnavailable => "The service is temporarily unavailable."
  | gatewayTimeout => "An upstream dependency timed out."

end ErrorCode

/-- `DomainError`: a code, the text a client is shown, and structured details. -/
structure DomainError where
  code : ErrorCode
  message : String
  details : List (String × String) := []
  deriving DecidableEq, Repr

/-- `DomainError(code=...)`: the registry's text for the code. -/
def DomainError.ofCode (code : ErrorCode) : DomainError := { code, message := code.message }

/-- How an operation ends when it does not return. -/
inductive Failure where
  | domain (error : DomainError)
  | exception (message : String)
  | integrity (message : String)
  deriving DecidableEq, Repr

namespace Failure

/-- `raise DomainError(message, code=code)`. -/
def raised (message : String) (code : ErrorCode) : Failure := .domain { code, message }

/-- `raise DomainError(code=code)`. -/
def ofCode (code : ErrorCode) : Failure := .domain (.ofCode code)

/-- `str(exc)`. -/
def text : Failure → String
  | .domain e => e.message
  | .exception m => m
  | .integrity m => m

/-- `getattr(exc, "code", SERVICE_UNAVAILABLE)`. -/
def code : Failure → ErrorCode
  | .domain e => e.code
  | _ => .serviceUnavailable

/-- `getattr(exc, "http_status", 503)`. -/
def httpStatus : Failure → ℕ
  | .domain e => e.code.httpStatus
  | _ => 503

/-- Whether the session can still be written through after the failure. -/
def usable : Failure → Bool
  | .integrity _ => false
  | _ => true

end Failure
end AgenticCommerce
