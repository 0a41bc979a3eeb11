/-
# Log lines

`packages/observability/logging.py`: the JSON object that a log record becomes, and the redaction on
its way there.  A value is masked for the name of its key, and a text for the credentials in it:
first the passwords of URLs, then what looks like a key or a token.

A record has its message already put together (`getMessage`), and the texts of its traceback and
its stack.  The order of the fields of a line is left out.
-/

import AgenticCommerce.Audit
import AgenticCommerce.Relational.Maps
import AgenticCommerce.Text.WordBoundary

namespace AgenticCommerce
namespace Logging

/-- `REDACTED`. -/
def redactedMark : String := "***REDACTED***"

/-- What is put in place of a value too deep. -/
def truncatedMark : String := "***TRUNCATED***"

/-- `SENSITIVE_KEY_PARTS`. -/
def sensitiveKeyParts : List String :=
  ["secret", "password", "passwd", "token", "api_key", "apikey", "key_id", "key_secret",
    "authorization", "auth", "cookie", "session", "signature", "private", "credential", "card",
    "cvv", "cvc", "pan", "otp", "pin", "jwt", "bearer", "webhook_secret"]

/-- `SAFE_KEY_EXACT`. -/
def safeKeyExact : List String :=
  ["authorization_id", "authorization_hash", "authorization_status",
    "authorization_expiry_seconds", "idempotency_key", "price_hash", "input_hash", "inputs_hash",
    "raw_body_hash", "extracted_text_hash", "storage_key", "signature_valid", "auth_required",
    "authenticated"]

/-- `_STDLIB_RECORD_ATTRS`. -/
def stdlibRecordAttrs : List String :=
  ["args", "asctime", "created", "exc_info", "exc_text", "filename", "funcName", "levelname",
    "levelno", "lineno", "module", "msecs", "message", "msg", "name", "pathname", "process",
    "processName", "relativeCreated", "stack_info", "thread", "threadName", "taskName"]

/-- `_MAX_DEPTH`. -/
def maxDepth : ℕ := 6

/-! ### The shapes of credentials -/

/-- `\w`: of the ASCII characters, the letters, the digits and the underscore. -/
structure WordChars where
  isWord : Char → Bool
  ascii : ∀ c : Char, c.toNat < 128 → isWord c = (c.isAlphanum || c == '_')

/-- `[A-Za-z0-9]`, under `re.I`. -/
def isAlnumIgnoringCase (c : Char) : Bool :=
  c.isAlphanum || c == 'ſ' || c == Regex.kelvin || c == 'İ' || c == 'ı'

/-- `[A-Za-z0-9._\-]`, under `re.I`. -/
def isBearerChar (c : Char) : Bool := isAlnumIgnoringCase c || c == '.' || c == '_' || c == '-'

/-- `[A-Za-z0-9_\-]`. -/
def isKeyChar (c : Char) : Bool := c.isAlphanum || c == '_' || c == '-'

/-- `[A-Za-z0-9._\-]`. -/
def isTokenChar (c : Char) : Bool := c.isAlphanum || c == '.' || c == '_' || c == '-'

/-- A literal part of a pattern. -/
def verbatim (text : String) : Regex := .spelled (fun letter c => c == letter) text

/-- Razorpay key id. -/
def razorpayKeyId : Regex :=
  .seq (.literal "rzp_") (.seq (.alt (.literal "test") (.literal "live"))
    (.seq (.literal "_") (.plus isAlnumIgnoringCase)))

/-- OpenAI-style secret key. -/
def openAiKey : Regex := .seq (verbatim "sk-") (.atLeast 16 isKeyChar)

/-- Groq secret key. -/
def groqKey : Regex := .seq (verbatim "gsk_") (.atLeast 16 isKeyChar)

/-- A bearer token. -/
def bearerToken : Regex :=
  .seq (.literal "bearer") (.seq (.plus Strings.isSpace) (.atLeast 16 isBearerChar))

/-- JWT. -/
def jwt : Regex := .seq (verbatim "eyJ") (.atLeast 20 isTokenChar)

/-- The API key of an external agent. -/
def agentApiKey : Regex := .seq (verbatim "ak_") (.atLeast 20 isKeyChar)

/-- `_VALUE_PATTERNS`, without the word boundary before each. -/
def valuePatterns : List Regex := [razorpayKeyId, openAiKey, groqKey, bearerToken, jwt, agentApiKey]

/-- `\s`, in ASCII. -/
def isBlank (c : Char) : Bool :=
  c == ' ' || c == '\t' || c == '\n' || c == '\r' || c == '\x0b' || c == '\x0c'

/-- `[^/\s:@]`. -/
def isUserChar (c : Char) : Bool := c != '/' && !isBlank c && c != ':' && c != '@'

/-- `[^/\s@]`. -/
def isPasswordChar (c : Char) : Bool := c != '/' && !isBlank c && c != '@'

/-- What `_URL_CREDENTIALS` matches at a place: the user, and what is left over behind the `@`.
Each run ends before a character outside of its class, so there is one way to match. -/
def urlCredentials : List Char → Option (List Char × List Char)
  | ':' :: '/' :: '/' :: text =>
      match text.dropWhile isUserChar with
      | ':' :: text' =>
          match text'.dropWhile isPasswordChar with
          | '@' :: rest => some (text.takeWhile isUserChar, rest)
          | _ => none
      | _ => none
  | _ => none

/-- `_URL_CREDENTIALS.sub(…, value)`, but for so many characters that are skipped first. -/
def maskUrlsFrom : ℕ → List Char → List Char
  | _, [] => []
  | skip + 1, _ :: text => maskUrlsFrom skip text
  | 0, c :: text =>
      match urlCredentials (c :: text) with
      | some (user, rest) =>
          ':' :: '/' :: '/' :: (user ++ ':' :: (redactedMark.toList ++
            '@' :: maskUrlsFrom (text.length - rest.length) text))
      | none => c :: maskUrlsFrom 0 text

/-- `_URL_CREDENTIALS.sub(rf"\1:{REDACTED}@", value)`. -/
def maskUrls (text : List Char) : List Char := maskUrlsFrom 0 text

section

variable (words : WordChars)

/-- The pass over `_VALUE_PATTERNS`. -/
def maskValues (text : List Char) : List Char :=
  Regex.wordSubAll words.isWord valuePatterns redactedMark.toList text

/-- `_scrub_value_shape`, of the characters. -/
def scrub (text : List Char) : List Char := maskValues words (maskUrls text)

/-- `_scrub_value_shape`. -/
def scrubValueShape (value : String) : String := String.ofList (scrub words value.toList)

/-- `_is_sensitive_key`. -/
def isSensitiveKey (key : String) : Bool :=
  !safeKeyExact.contains (Audit.lowerKey key) &&
    sensitiveKeyParts.any fun part => Strings.contains part.toList (Audit.lowerKey key).toList

end

/-! ### Values -/

/-- Digits, signs, points, and no letter but that of an exponent and the one between a date and a
time of day. -/
def isNumeralChar (c : Char) : Bool :=
  c.isDigit || c == '-' || c == '+' || c == '.' || c == ':' || c == 'e' || c == 'T'

/-- A number or a point in time, as it is written. -/
structure Numeral where
  text : String
  plain : ∀ c ∈ text.toList, isNumeralChar c = true

/-- A key of a dictionary, of those that `json` writes. -/
inductive LogKey where
  | text (s : String)
  | number (n : Numeral)
  | bool (b : Bool)
  | none

/-- A value that is logged.  A set comes with its `str`, which is what is written of one that is not
redacted, and an object of another type with its `repr` and its `str`. -/
inductive LogValue where
  | none
  | bool (b : Bool)
  | int (n : ℤ)
  | float (n : Numeral)
  | text (s : String)
  /-- A list or a tuple. -/
  | list (items : List LogValue)
  | set (items : List LogValue) (str : String)
  | dict (items : List (LogKey × LogValue))
  | object (repr str : String)

/-- `isinstance(key, str) and _is_sensitive_key(key)`. -/
def LogKey.sensitive : LogKey → Bool
  | text s => isSensitiveKey s
  | _ => false

/-- The key, as `json` writes it. -/
def LogKey.dumps : LogKey → String
  | text s => s
  | number n => n.text
  | bool b => if b then "true" else "false"
  | none => "null"

/-- Whether a value is a certain text. -/
def LogValue.isText (s : String) : LogValue → Bool
  | text t => t == s
  | _ => false

mutual

/-- What `json.dumps(value, default=str)` writes. -/
def dumps : LogValue → Json
  | .none => .null
  | .bool b => .bool b
  | .int n => .int n
  | .float n => .float n.text
  | .text s => .str s
  | .list items => .arr (dumpsItems items)
  | .set _ str => .str str
  | .dict items => .obj (dumpsFields items)
  | .object _ str => .str str

/-- The items of a list. -/
def dumpsItems : List LogValue → List Json
  | [] => []
  | item :: items => dumps item :: dumpsItems items

/-- The bindings of a dictionary. -/
def dumpsFields : List (LogKey × LogValue) → List (String × Json)
  | [] => []
  | (key, item) :: items => (key.dumps, dumps item) :: dumpsFields items

end

section

variable (words : WordChars)

mutual

/-- `redact(value, _depth=depth)`. -/
def redact (depth : ℕ) : LogValue → LogValue
  | .dict items =>
      if maxDepth < depth then .text truncatedMark else .dict (redactFields (depth + 1) items)
  | .list items =>
      if maxDepth < depth then .text truncatedMark else .list (redactItems (depth + 1) items)
  | .set items _ =>
      if maxDepth < depth then .text truncatedMark else .list (redactItems (depth + 1) items)
  | .text s => .text (if maxDepth < depth then truncatedMark else scrubValueShape words s)
  | .object repr _ => .text (if maxDepth < depth then truncatedMark else scrubValueShape words repr)
  | .none => if maxDepth < depth then .text truncatedMark else .none
  | .bool b => if maxDepth < depth then .text truncatedMark else .bool b
  | .int n => if maxDepth < depth then .text truncatedMark else .int n
  | .float n => if maxDepth < depth then .text truncatedMark else .float n

/-- The items of a sequence. -/
def redactItems (depth : ℕ) : List LogValue → List LogValue
  | [] => []
  | item :: items => redact depth item :: redactItems depth items

/-- The bindings of a dictionary. -/
def redactFields (depth : ℕ) : List (LogKey × LogValue) → List (LogKey × LogValue)
  | [] => []
  | (key, item) :: items =>
      (key, if key.sensitive then .text redactedMark else redact depth item) ::
        redactFields depth items

end

end

/-! ### Records -/

/-- `CorrelationIds`. -/
structure CorrelationIds where
  traceId : Option String
  requestId : Option String
  agentRunId : Option String
  checkoutId : Option String
  paymentId : Option String
  providerEventId : Option String
  actorId : Option String

/-- `as_dict`. -/
def CorrelationIds.asDict (ids : CorrelationIds) : List (String × String) :=
  [("trace_id", ids.traceId), ("request_id", ids.requestId), ("agent_run_id", ids.agentRunId),
    ("checkout_id", ids.checkoutId), ("payment_id", ids.paymentId),
    ("provider_event_id", ids.providerEventId), ("actor_id", ids.actorId)].filterMap fun kv =>
      kv.2.map fun value => (kv.1, value)

/-- A log record: when it was created, in ISO form, its message and its traceback as texts, and
what else is in its `__dict__`. -/
structure LogRecord where
  created : Numeral
  levelname : String
  name : String
  message : String
  dict : Map String LogValue
  /-- `formatException(record.exc_info)`, when there is one. -/
  exception : Option String
  /-- `record.stack_info`, which may be empty. -/
  stackInfo : String

/-- `payload.update(…)`. -/
def putAll {V : Type} (payload : Map String V) (items : List (String × V)) : Map String V :=
  items.foldl (fun payload kv => payload.insert kv.1 kv.2) payload

section

variable (words : WordChars) (service : String) (ids : CorrelationIds) (record : LogRecord)

/-- The fields that the caller supplied. -/
def LogRecord.extras : Map String LogValue :=
  (record.dict.keep fun key => !stdlibRecordAttrs.contains key && !key.startsWith "_").erase "event"

/-- `getattr(record, "event", record.getMessage())`. -/
def LogRecord.event : LogValue := (record.dict.lookup "event").getD (.text record.message)

/-- The fields of the line up to those that the caller supplied, which are redacted: the dictionary
of them is at depth 0. -/
def fields : Map String LogValue :=
  let payload := putAll ∅ [("timestamp", .text record.created.text),
    ("level", .text record.levelname), ("service", .text service), ("logger", .text record.name),
    ("event", record.event)]
  let payload := putAll payload (ids.asDict.map fun kv => (kv.1, .text kv.2))
  putAll payload (record.extras.entries.map fun e =>
    (e.1, if isSensitiveKey e.1 then .text redactedMark else redact words 1 e.2))

/-- The fields of the line, before they are written. -/
def payload : Map String LogValue :=
  let payload := fields words service ids record
  let payload :=
    if record.message != "" && !(payload.lookup "event").any (·.isText record.message) then
      payload.insert "message" (.text (scrubValueShape words record.message))
    else payload
  let payload :=
    match record.exception with
    | some text => payload.insert "exception" (.text (scrubValueShape words text))
    | none => payload
  if record.stackInfo != "" then
    payload.insert "stack" (.text (scrubValueShape words record.stackInfo))
  else payload

/-- `JsonFormatter.format`. -/
def format : Json :=
  .obj ((payload words service ids record).entries.map fun e => (e.1, dumps e.2))

end

end Logging
end AgenticCommerce
