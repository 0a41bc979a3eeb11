/-
# The intent validator

`IntentValidator.validate_dict` of `services/agent/intent.py`: the decoded answer of a model and the
buyer's prompt are turned into an `IntentV1`.  Every field of the answer is looked for under several
names, taken as it comes, and where it is missing the prompt is searched instead.

What Python makes of texts is a parameter (`Python`).  A float of the answer is the one its text
writes (`double`), and its arithmetic is that of `nearest`.
-/

import AgenticCommerce.Agent.Tools
import AgenticCommerce.Money
import AgenticCommerce.Pipeline.Records
import AgenticCommerce.Text.HostAddresses
import AgenticCommerce.Text.Regex

namespace AgenticCommerce
namespace Agent
namespace Intent

open Pipeline (PyFloat intOfFloat)
open Strict (field)

/-- A decoded object. -/
abbrev Raw := List (String × Json)

/-- What Python makes of texts and of values. -/
structure Python where
  chars : Money.Charset
  /-- `text.lower()`. -/
  lower : String → String
  /-- `str(value)` of a list or a dict. -/
  repr : Json → String
  /-- `str(exc)` of the refusal of fields by the schema. -/
  refusal : Raw → String
  lower_empty : lower "" = ""

/-! ### Floats -/

/-- `e±n` at the end of the text of a float. -/
def exponentValue : List Char → Option ℤ
  | [] => some 0
  | 'e' :: '+' :: ds => some (Json.readNat ds)
  | 'e' :: '-' :: ds => some (-Json.readNat ds)
  | _ => none

/-- The number that the text of a float writes, without its sign. -/
def unsignedValue (text : List Char) : Option ℚ :=
  let whole := text.takeWhile Char.isDigit
  let rest := text.dropWhile Char.isDigit
  let fraction := match rest with
    | '.' :: ds => ds.takeWhile Char.isDigit
    | _ => []
  let rest := match rest with
    | '.' :: ds => ds.dropWhile Char.isDigit
    | _ => rest
  if whole = [] then none
  else (exponentValue rest).map fun (e : ℤ) =>
    (Json.readNat (whole ++ fraction) : ℚ) * 10 ^ (e - (fraction.length : ℤ))

/-- The number that the text of a finite float writes. -/
def decimalValue : List Char → Option ℚ
  | '-' :: text => (unsignedValue text).map fun q => -q
  | text => unsignedValue text

/-- The result of an operation on floats. -/
def rounded (q : ℚ) : PyFloat :=
  if |nearest q| < 2 ^ 1024 then .finite (nearest q) else .infinite (decide (q < 0))

/-- The float with a text. -/
def double (text : String) : PyFloat :=
  match decimalValue text.toList with
  | some q => rounded q
  | none => if text = "inf" then .infinite false else if text = "-inf" then .infinite true else .nan

/-- `x < bound`. -/
def below (bound : ℚ) : PyFloat → Bool
  | .finite q => decide (q < bound)
  | .infinite negative => negative
  | .nan => false

/-- `x * k`, for a positive integer. -/
def times (k : ℕ) : PyFloat → PyFloat
  | .finite q => rounded (q * k)
  | x => x

/-- `int | float`; a truth value is an `int`. -/
inductive Number where
  | whole (n : ℤ)
  | real (x : PyFloat)
  deriving DecidableEq

namespace Number

/-- `int(value)`. -/
def toInt : Number → Except Failure ℤ
  | whole n => .ok n
  | real x => intOfFloat x

/-- `int(value * 100) if value < 1_000_000 else int(value)`. -/
def minorUnits : Number → Except Failure ℤ
  | whole n => .ok (if n < 1000000 then n * 100 else n)
  | real x => if below 1000000 x then intOfFloat (times 100 x) else intOfFloat x

end Number

/-- The number a value is, by `isinstance(value, int | float)`. -/
def number? : Json → Option Number
  | .bool b => some (.whole (if b then 1 else 0))
  | .int n => some (.whole n)
  | .float r => some (.real (double r))
  | _ => none

/-! ### Integers in texts -/

section

variable (chars : Money.Charset)

/-- `int(digits)`: CPython converts no more than 4300 digits. -/
def intOfDigits (digits : List Char) : Except Failure ℤ :=
  if 4300 < digits.length then
    .error (.exception "Exceeds the limit (4300 digits) for integer string conversion")
  else .ok (Money.number chars digits)

/-- A number without its sign, in decimal digits. -/
def unsignedInt (text : List Char) : Option ℕ :=
  if 4300 < (text.filter (· ≠ '_')).length then none else HostAddresses.separated 10 text

/-- `int(text)`, `none` where it raises. -/
def intOfText (text : List Char) : Option ℤ :=
  match ((text.map (HostAddresses.transformed chars.digit)).dropWhile
      HostAddresses.isAsciiSpace).rdropWhile HostAddresses.isAsciiSpace with
  | '-' :: text => (unsignedInt text).map fun n => -(n : ℤ)
  | '+' :: text => (unsignedInt text).map fun n => (n : ℤ)
  | text => (unsignedInt text).map fun n => (n : ℤ)

/-- `int(value)`. -/
def intOf : Json → Except Failure ℤ
  | .bool b => .ok (if b then 1 else 0)
  | .int n => .ok n
  | .float r => intOfFloat (double r)
  | .str s => (intOfText chars s.toList).elim
      (.error (.exception "invalid literal for int() with base 10")) .ok
  | .null | .arr _ | .obj _ => .error (.exception
      "int() argument must be a string, a bytes-like object or a real number")

/-- `\d`. -/
abbrev digit : Char → Bool := Money.isDigit chars

/-- `re.search(r"(\d+)", text)`, with the group converted. -/
def firstInt (text : List Char) : Except Failure (Option ℤ) :=
  match Regex.searchGroups [.plus (digit chars)] text with
  | some (digits :: _, _) => (intOfDigits chars digits).map some
  | _ => .ok none

end

/-! ### The patterns -/

/-- A literal part of a pattern. -/
abbrev word (text : String) : Regex := .literal text

/-- `\s*`. -/
def gap : Regex := .star Strings.isSpace

/-- The parts of the pattern of a price ceiling; the fifth is the amount, the seventh the unit. -/
def ceilingPattern (chars : Money.Charset) : List Regex :=
  [.any (word "under") [word "below", word "less than",
      .all [word "max", .opt (word "imum"), gap, .opt (.alt (word "price") (word "budget"))],
      .all [word "budget", gap, word "of"], word "upto", word "up to"],
    gap, .opt (.one (· == '₹')), gap, .plus (fun c => digit chars c || c == ','), gap,
    .opt (.any (word "k") [word "thousand", word "lakh", word "lac"])]

/-- `(\d+)\s*(?:gb|gigabyte)?\s*(?:ram|memory)`. -/
def memoryBefore (chars : Money.Charset) : List Regex :=
  [.plus (digit chars), gap, .opt (.alt (word "gb") (word "gigabyte")), gap,
    .alt (word "ram") (word "memory")]

/-- `(?:ram|memory)\s*(?:of|at least)?\s*(\d+)\s*gb`. -/
def memoryBehind (chars : Money.Charset) : List Regex :=
  [.alt (word "ram") (word "memory"), gap, .opt (.alt (word "of") (word "at least")), gap,
    .plus (digit chars), gap, word "gb"]

/-- `(\d+)\s*(?:gb|tb)\s*(?:ssd|storage|rom|hdd)`. -/
def storagePattern (chars : Money.Charset) : List Regex :=
  [.plus (digit chars), gap, .alt (word "gb") (word "tb"), gap,
    .any (word "ssd") [word "storage", word "rom", word "hdd"]]

/-! ### The fields -/

variable (python : Python)

/-- `str(value)`. -/
def str (value : Json) : String := value.toStr python.repr

/-- `items.get(first) or items.get(second) or …`. -/
def firstTrue (items : Raw) (keys : List String) : Json :=
  keys.foldl (fun value key => value.orElse (field items key)) .null

/-- The prompt that the fallbacks search. -/
def promptText (raw : Raw) (prompt : Option String) : String :=
  match prompt with
  | some text => if text ≠ "" then text
      else str python ((firstTrue raw ["user_prompt", "query"]).orElse (.str ""))
  | none => str python ((firstTrue raw ["user_prompt", "query"]).orElse (.str ""))

/-- `narrow_currency`. -/
def narrowCurrency (value : Json) : Except Failure CurrencyCode :=
  if value.truthy then
    let candidate := String.ofList
      ((Strings.strip (str python value).toList).flatMap python.chars.upper)
    if candidate = "" ∨ candidate = "INR" then .ok .inr
    else if candidate = "USD" then .ok .usd
    else .error (.domain
      { code := .validationError
        message := "Extracted intent declares a currency this merchant does not support."
        details := [("currency", candidate), ("supported", "['INR', 'USD']")] })
  else .ok .inr

/-- The names of a budget, in the order in which they are tried. -/
def budgetKeys : List String :=
  ["max_budget", "max_price_limit", "budget_limit", "budget_max", "price_max", "max_price",
    "max_cost", "budget", "price", "amount"]

/-- The names of an amount in a nested budget. -/
def amountKeys : List String := ["max", "amount", "max_price", "price_max"]

/-- What is under the first name of a budget that has an object or a number. -/
def budgetEntry (raw : Raw) : List String → Option Json
  | [] => none
  | key :: keys =>
      match Json.lookup raw key with
      | some (.obj items) => some (.obj items)
      | some value => if (number? value).isSome then some value else budgetEntry raw keys
      | none => budgetEntry raw keys

/-- The number that is read of such an entry. -/
def entryNumber : Option Json → Option Number
  | some (.obj items) => number? (firstTrue items amountKeys)
  | some value => number? value
  | none => none

/-- The currency that goes with it. -/
def entryCurrency (raw : Raw) : Option Json → Json
  | some (.obj items) => (field items "currency").orElse (field raw "currency")
  | _ => field raw "currency"

/-- The multiplier of a unit. -/
def multiplier (unit : List Char) : ℕ :=
  let unit := python.lower (String.ofList unit)
  if unit = "k" ∨ unit = "thousand" then 1000
  else if unit = "lakh" ∨ unit = "lac" then 100000
  else 1

/-- The number that is read of a price ceiling in a prompt; `float` refuses a text without
digits. -/
def ceilingNumber (text : List Char) : Option Number :=
  match Regex.searchGroups (ceilingPattern python.chars) text with
  | some ([_, _, _, _, amount, _, unit], _) =>
      let digits := amount.filter (· ≠ ',')
      if digits = [] then none
      else some (.real (times (multiplier python unit)
        (rounded (Money.number python.chars digits))))
  | _ => none

/-- `str(exc)` of a refusal, wrapped. -/
def violation (fields : Raw) : Failure :=
  .raised ("Extracted intent violates schema: " ++ python.refusal fields) .validationError

/-- The number that is converted to a budget. -/
def budgetNumber (raw : Raw) (text : String) : Option Number :=
  (entryNumber (budgetEntry raw budgetKeys)).or
    (if text = "" then none else ceilingNumber python text.toList)

/-- The budget in minor units, before the schema sees it. -/
def budgetMinor (raw : Raw) (text : String) : Except Failure (Option ℤ) :=
  match budgetNumber python raw text with
  | some number => number.minorUnits.map some
  | none => .ok none

/-- The constraints that are put together from the answer and the prompt; the constructor is called
outside of the `try`. -/
def extractFinancial (raw : Raw) (text : String) :
    Except Failure IntentFinancialConstraintsV1 := do
  let minor ← budgetMinor python raw text
  let currency ← narrowCurrency python (entryCurrency raw (budgetEntry raw budgetKeys))
  match minor with
  | none => .ok { budgetMinor := none, currency := some currency }
  | some n =>
      if h : 0 ≤ n then .ok { budgetMinor := some ⟨n, h⟩, currency := some currency }
      else .error (.exception (python.refusal [("budget_minor", .int n),
        ("currency", .str currency.value)]))

/-- The object under `financial`. -/
def givenFinancial (raw : Raw) : Option Raw :=
  match Json.lookup raw "financial" with
  | some (.obj items) => some items
  | _ => none

/-- The financial constraints. -/
def financial (raw : Raw) (text : String) : Except Failure IntentFinancialConstraintsV1 :=
  match givenFinancial raw with
  | some items => (Strict.financial (.obj items)).elim (.error (violation python items)) .ok
  | none => extractFinancial python raw text

/-- The first number under some names. -/
def firstNumber (raw : Raw) (keys : List String) : Option Number :=
  keys.findSome? fun key => (Json.lookup raw key).bind number?

/-- An integer under some names, or else the first one in the text of a specification. -/
def specified (raw : Raw) (keys specificationKeys : List String) : Except Failure (Option ℤ) :=
  match firstNumber raw keys with
  | some number => number.toInt.map some
  | none =>
      match field raw "specifications" with
      | .obj specifications =>
          let value := firstTrue specifications specificationKeys
          if value.truthy then firstInt python.chars (str python value).toList else .ok none
      | _ => .ok none

/-- The memory that a prompt asks for. -/
def promptMemory (text : List Char) : Except Failure (Option ℤ) :=
  match Regex.searchGroups (memoryBefore python.chars) text with
  | some (digits :: _, _) => (intOfDigits python.chars digits).map some
  | _ =>
      match Regex.searchGroups (memoryBehind python.chars) text with
      | some (_ :: _ :: _ :: _ :: digits :: _, _) => (intOfDigits python.chars digits).map some
      | _ => .ok none

/-- The storage that a prompt asks for, in gigabytes. -/
def promptStorage (text : List Char) : Except Failure (Option ℤ) :=
  match Regex.searchGroups (storagePattern python.chars) text with
  | some (digits :: more, _) => (intOfDigits python.chars digits).map fun n =>
      let found := python.lower (String.ofList (digits :: more).flatten)
      some (if Strings.contains "tb".toList found.toList then n * 1024 else n)
  | _ => .ok none

/-- A field, or else what the prompt says. -/
def orPrompt (found : Except Failure (Option ℤ)) (text : String)
    (search : List Char → Except Failure (Option ℤ)) : Except Failure (Option ℤ) :=
  found.bind fun value =>
    match value with
    | some n => .ok (some n)
    | none => if text = "" then .ok none else search text.toList

/-- `min_memory_gb`. -/
def minMemoryGb (raw : Raw) (text : String) : Except Failure (Option ℤ) :=
  orPrompt (specified python raw ["min_memory_gb", "ram_gb", "ram", "memory_gb", "memory"]
    ["RAM", "memory", "ram"]) text (promptMemory python)

/-- `min_storage_gb`. -/
def minStorageGb (raw : Raw) (text : String) : Except Failure (Option ℤ) :=
  orPrompt (specified python raw
    ["min_storage_gb", "storage_gb", "ssd_gb", "storage", "ssd", "rom"]
    ["storage", "SSD", "storage_gb"]) text (promptStorage python)

/-- `max_delivery_days`. -/
def maxDeliveryDays (raw : Raw) : Except Failure (Option ℤ) :=
  match firstNumber raw ["max_delivery_days", "delivery_days", "delivery_max_days",
      "delivery_max"] with
  | some number => number.toInt.map some
  | none =>
      let value := field raw "delivery"
      if value.truthy then
        if Strings.contains "fast".toList (python.lower (str python value)).toList then .ok (some 3)
        else firstInt python.chars (str python value).toList
      else .ok none

/-- `quantity`, before it is raised to one. -/
def quantity (raw : Raw) : Except Failure ℤ :=
  intOf python.chars ((field raw "quantity").orElse (.int 1))

/-- The first category with a part in a text. -/
def classify (table : List (List String × String)) (text : String) : Option String :=
  (table.find? fun row => row.1.any fun part => Strings.contains part.toList text.toList).map
    Prod.snd

/-- What a category that the model names stands for. -/
def categoryParts : List (List String × String) :=
  [(["laptop", "ultrabook", "notebook"], "laptop"), (["phone_accessory"], "phone_accessory"),
    (["phone", "smartphone", "mobile"], "smartphone"),
    (["monitor", "display", "screen"], "monitor"), (["audio", "headphone", "earbuds"], "audio"),
    (["camera", "dslr", "lens"], "camera"), (["appliance", "kitchen"], "appliance"),
    (["home_electronics", "tv"], "home_electronics"),
    (["accessory", "cable", "sleeve", "keyboard", "mouse"], "computer_accessory")]

/-- What the words of a prompt stand for. -/
def promptParts : List (List String × String) :=
  [(["laptop", "notebook", "ultrabook", "macbook"], "laptop"),
    (["smartphone", "phone", "iphone", "android"], "smartphone"),
    (["monitor", "display", "screen", "4k", "uhd"], "monitor"),
    (["audio", "headphone", "earphone", "earbuds", "speaker"], "audio"),
    (["camera", "dslr", "lens", "optics", "gopro"], "camera"),
    (["appliance", "kitchen", "cooker", "blender", "fridge", "purifier"], "appliance"),
    (["charger", "case", "cover", "magsafe", "power bank"], "phone_accessory"),
    (["accessory", "cable", "mouse", "keyboard", "sleeve", "trackpad", "dock", "ipad"],
      "computer_accessory")]

/-- `category`. -/
def category (raw : Raw) (text : String) : Json :=
  let named := firstTrue raw ["category", "product_category", "item_category"]
  let product := field raw "product"
  let named := if (named = .str "electronics" ∨ named = .null) ∧ product.truthy = true then
      .str (python.lower (str python product))
    else named
  if named.truthy then
    let name := String.ofList (Strings.strip (python.lower (str python named)).toList)
    .str ((classify categoryParts name).getD name)
  else if text ≠ "" then
    ((classify promptParts (python.lower text)).map Json.str).getD named
  else named

/-- `query`. -/
def query (raw : Raw) : String :=
  let value := (firstTrue raw ["query", "product", "intent"]).orElse (.str "general_shopping")
  String.ofList ((str python value).toList.take 200)

/-- A field of the schema that is an integer from zero on, or nothing. -/
def nonNegative : Option ℤ → Option (Option NonNegativeInt)
  | none => some none
  | some n => if h : 0 ≤ n then some (some ⟨n, h⟩) else none

/-- `IntentV1(…)`, `none` where the schema refuses it. -/
def construct (query : String) (category : Json) (financial : IntentFinancialConstraintsV1)
    (memory storage delivery : Option ℤ) (quantity : ℤ) : Option IntentV1 := do
  pure
    { query, financial
      category := ← category.strOrNull?
      minMemoryGb := ← nonNegative memory
      minStorageGb := ← nonNegative storage
      maxDeliveryDays := ← nonNegative delivery
      quantity := ⟨max quantity 1, le_max_right _ _⟩ }

/-- `validate_dict`. -/
def validateDict (raw : Raw) (prompt : Option String) : Except Failure IntentV1 := do
  let text := promptText python raw prompt
  let financial ← financial python raw text
  let memory ← minMemoryGb python raw text
  let storage ← minStorageGb python raw text
  let delivery ← maxDeliveryDays python raw
  let quantity ← quantity python raw
  (construct (query python raw) (category python raw text) financial memory storage delivery
    quantity).elim (.error (violation python raw)) .ok

end Intent
end Agent
end AgenticCommerce
