/-
# The audit ledger

`services/audit/repository.py`: the append-only table of audit events, and
`_safe_metadata`, which every metadata value passes before it is stored.  A value
is redacted for its key when the key contains a sensitive word and is not one of
the exact names known to be safe, and for its text when the text contains a
credential, or, under a key that is not known to be safe, consists of at least 32
base64 characters.  The identifiers and the trace columns of an event are left
out: nothing reads them back.
-/

import AgenticCommerce.Session
import AgenticCommerce.Text.Regex
import AgenticCommerce.Text.Strings

namespace AgenticCommerce
namespace Audit

/-- `_SAFE_KEY_EXACT`. -/
def safeKeyExact : List String :=
  ["authorization_id", "authorization_hash", "authorization_status",
    "authorization_expiry_seconds", "idempotency_key", "price_hash", "input_hash", "inputs_hash",
    "raw_body_hash", "extracted_text_hash", "storage_key", "signature_valid", "auth_required",
    "authenticated"]

/-- `_SENSITIVE`. -/
def sensitivePattern : Regex :=
  .any (.literal "secret") [.literal "token", .literal "password", .literal "passwd",
    .literal "passphrase", .literal "authorization", .literal "cookie", .literal "credential",
    .literal "signature", .literal "key_secret", .literal "private",
    .all [.literal "api", .opt (.one fun c => c == '-' || c == '_'), .literal "key"]]

/-- `[A-Za-z0-9._-]`, under `re.I`. -/
def isSecretChar (c : Char) : Bool :=
  c.isAlphanum || c == '.' || c == '_' || c == '-' || c == 'ſ' || c == Regex.kelvin || c == 'İ' ||
    c == 'ı'

/-- `_SECRET_VALUE`. -/
def secretPattern : Regex :=
  .seq
    (.any (.literal "sk-") [.literal "gsk_", .seq (.literal "bearer") (.plus Strings.isSpace),
      .literal "eyj", .literal "rzp_test_", .literal "rzp_live_", .literal "rzp_sec_"])
    (.atLeast 8 isSecretChar)

/-- `[A-Za-z0-9+/=_-]`. -/
def isEntropyChar (c : Char) : Bool :=
  c.isAlphanum || c == '+' || c == '/' || c == '=' || c == '_' || c == '-'

/-- `word` occurs in `text`. -/
def contains (word : List Char) : List Char → Bool
  | [] => word.isEmpty
  | c :: text => word.isPrefixOf (c :: text) || contains word text

/-- `_SECRET_VALUE.search(value)`. -/
def hasSecret (text : List Char) : Bool := secretPattern.search text

/-- `_ENTROPY_VALUE.match(value)`: `$` also matches before a final newline. -/
def isEntropy (text : List Char) : Bool :=
  let body := if text.getLast? = some '\n' then text.dropLast else text
  decide (32 ≤ body.length) && body.all isEntropyChar

def redacted : Json := .str "***REDACTED***"

/-- `key.lower()`, as far as the result has ASCII letters: of the other letters only the Kelvin sign
has such a small one. -/
def lowerKey (key : String) : String := key.map fun c => if c = Regex.kelvin then 'k' else c.toLower

/-- `lower_key not in _SAFE_KEY_EXACT`. -/
def unsafeKey (key : String) : Bool := !safeKeyExact.contains (lowerKey key)

/-- `_SENSITIVE.search(key)`. -/
def sensitive (key : String) : Bool := sensitivePattern.search key.toList

mutual

/-- `_safe_metadata(value, key)`. -/
def safeMetadata (key : String) : Json → Json
  | .str s =>
      if unsafeKey key && sensitive key then redacted
      else if hasSecret s.toList then redacted
      else if unsafeKey key && isEntropy s.toList then redacted
      else .str s
  | .obj items =>
      if unsafeKey key && sensitive key then redacted else .obj (safeFields items)
  | .arr items =>
      if unsafeKey key && sensitive key then redacted else .arr (safeItems items)
  | value => if unsafeKey key && sensitive key then redacted else value

/-- The items of a sequence carry no key. -/
def safeItems : List Json → List Json
  | [] => []
  | item :: items => safeMetadata "" item :: safeItems items

def safeFields : List (String × Json) → List (String × Json)
  | [] => []
  | (key, value) :: items => (key, safeMetadata key value) :: safeFields items

end

end Audit

/-- The store with one more row in the ledger. -/
def Database.appendAudit (db : Database) (event : AuditEvent) : Database :=
  { db with
    auditEvents := db.auditEvents ++ [{ event with metadata := Audit.safeFields event.metadata }] }

/-- `append_event`. -/
def appendEvent (event : AuditEvent) : Op Unit := update fun db => db.appendAudit event

/-- `append_transition_event`. -/
def appendTransitionEvent (aggregateType aggregateId eventType actorType : String)
    (actorId merchantId : Option String) (metadata : List (String × Json)) : Op Unit :=
  appendEvent { merchantId, actorType, actorId, eventType, aggregateType, aggregateId, metadata }

section

variable {w w' : World} {event : AuditEvent} {u : Unit} {e : Failure}

@[simp] theorem appendEvent_eq_ok :
    appendEvent event w = .ok u w' ↔ { w with db := w.db.appendAudit event } = w' :=
  update_eq_ok

@[simp] theorem appendEvent_eq_error : appendEvent event w = .error e w' ↔ False :=
  update_eq_error

end

end AgenticCommerce
