/-
# The prompt guard

`PromptSafetyClassifier` of `services/agent/guard.py`: the heuristic layer, and the layer that
posts the prompt to a chat completion endpoint and reads a verdict out of the answer.  The verdict
is a bare number or a word, so the text of the answer is read by two grammars, one after the
other.

What Python makes of a text is a parameter (`Reader`), and so is the endpoint, a function from the
request to what comes of it.
-/

import AgenticCommerce.Errors
import AgenticCommerce.Json
import AgenticCommerce.Pipeline.Records
import AgenticCommerce.Text.Regex
import AgenticCommerce.Text.Strings

namespace AgenticCommerce
namespace Agent
namespace Guard

open Pipeline (PyFloat)

/-- What Python makes of a text, apart from its white space. -/
structure Reader where
  /-- `text.lower()`. -/
  lower : List Char → List Char
  /-- `float(text)`, `none` where it raises. -/
  float : List Char → Option PyFloat
  /-- `f"{score * 100:.2f}"`. -/
  percent : PyFloat → String

/-! ### The heuristic layer -/

/-- The characters that a letter of a pattern matches under `re.I`. -/
abbrev folds (letter c : Char) : Bool := Regex.ignoreCase letter c

/-- A literal part of a pattern, in small letters. -/
def word (text : String) : Regex := .spelled folds text

/-- `\s+`. -/
def gap : Regex := .plus Strings.isSpace

/-- `(?:word\s+)?`. -/
def maybe (text : String) : Regex := .opt (.seq (word text) gap)

/-- `(?:first|…)`, of literal parts. -/
def oneOf (first : String) (more : List String) : Regex := .any (word first) (more.map word)

/-- `_INJECTION_PATTERNS`. -/
def injectionPatterns : List Regex :=
  [.all [word "ignore", gap, maybe "all", oneOf "previous" ["above", "system"], gap,
      word "instruction", .opt (word "s")],
   .all [word "disregard", gap, maybe "all", oneOf "previous" ["above", "system"], gap,
      .alt (.seq (word "instruction") (.opt (word "s"))) (.seq (word "prompt") (.opt (word "s")))],
   .all [oneOf "bypass" ["override", "disable"], gap,
      oneOf "policy" ["budget", "checks", "guardrails"]],
   .all [oneOf "set" ["make"], gap, word "price", gap, maybe "to",
      .any (word "0") [word "zero", word "free", .all [word "1", gap, word "rupee"]]],
   .all [oneOf "exfiltrate" ["leak", "print", "display", "reveal"], gap,
      oneOf "api_key" ["token", "secret", "credential"]],
   .all [oneOf "report" ["mark"], gap, word "payment", gap, maybe "as",
      oneOf "successful" ["verified", "confirmed"]],
   .all [oneOf "show" ["reveal", "display", "print", "output"], gap, maybe "me", maybe "the",
      word "system", gap, word "prompt"],
   .all [oneOf "developer" ["admin", "god", "jailbreak"], gap, word "mode"],
   oneOf "<system>" ["[inst]", "```system"]]

/-- `MAX_INPUT_LENGTH`. -/
def maxInputLength : ℕ := 4000

/-- `SafetyAssessment`. -/
structure SafetyAssessment where
  isSafe : Bool
  threatCategory : Option String := none
  reason : Option String := none
  evaluator : String := "heuristic_passed"
  deriving DecidableEq, Repr

/-- `evaluate_heuristic`. -/
def evaluateHeuristic (prompt : List Char) : SafetyAssessment :=
  if maxInputLength < prompt.length then
    { isSafe := false
      threatCategory := some "OVERSIZED_INPUT"
      reason := some s!"Input length {prompt.length} exceeds maximum of {maxInputLength} characters."
      evaluator := "heuristic_bounds" }
  else if injectionPatterns.any fun pattern => pattern.search prompt then
    { isSafe := false
      threatCategory := some "PROMPT_INJECTION"
      reason := some "Prompt injection pattern detected."
      evaluator := "heuristic_regex" }
  else { isSafe := true, evaluator := "heuristic_passed" }

/-! ### The layer behind an endpoint -/

/-- `ModelBackedGuardProvider`: the providers that consult a model. -/
inductive ModelBackedGuardProvider where
  | onHost
  | remote
  deriving DecidableEq, Repr

/-- The spelling of a provider in an evaluator. -/
def ModelBackedGuardProvider.value : ModelBackedGuardProvider → String
  | onHost => "local"
  | remote => "remote"

/-- The settings of the guard; `provider` is `none` under `heuristic`. -/
structure GuardConfig where
  provider : Option ModelBackedGuardProvider := none
  baseUrl : String := "http://localhost:11434/v1"
  modelName : String := "llama-guard3:1b"
  apiKey : String := ""
  timeoutSeconds : ℚ := 5
  deriving DecidableEq

/-- A request to the endpoint. -/
structure Post where
  url : String
  headers : List (String × String)
  payload : Json
  timeoutSeconds : ℚ

/-- What comes of a request: an exception of some type, or a response with its status and its
body, `none` where the body is not JSON. -/
inductive Outcome where
  | raised (type : String)
  | response (status : ℤ) (body : Option Json)

/-- `base_url.rstrip("/")`. -/
def withoutSlashes (url : String) : String :=
  String.ofList (url.toList.reverse.dropWhile (· == '/')).reverse

/-- The request that carries a prompt. -/
def postOf (config : GuardConfig) (prompt : List Char) : Post where
  url := withoutSlashes config.baseUrl ++ "/chat/completions"
  headers := ("Content-Type", "application/json") ::
    if config.apiKey = "" then [] else [("Authorization", "Bearer " ++ config.apiKey)]
  payload := .obj [("model", .str config.modelName),
    ("messages", .arr [.obj [("role", .str "user"), ("content", .str (String.ofList prompt))]]),
    ("temperature", .float "0.0")]
  timeoutSeconds := config.timeoutSeconds

/-- `value.get(key, default)`, or the type of what it raises. -/
def getOr (value : Json) (key : String) (default : Json) : Except String Json :=
  match value.get key default with
  | some found => .ok found
  | none => .error "AttributeError"

/-- `value[0]`, or the type of what it raises. -/
def first : Json → Except String Json
  | .arr (item :: _) => .ok item
  | .arr [] => .error "IndexError"
  | .str text =>
      match text.toList with
      | c :: _ => .ok (.str (String.ofList [c]))
      | [] => .error "IndexError"
  | .obj _ => .error "KeyError"
  | _ => .error "TypeError"

/-- The text of the answer in a body, stripped, or the type of what reading it raises. -/
def rawDecision (body : Option Json) : Except String (List Char) := do
  let data ← match body with
    | some data => .ok data
    | none => .error "JSONDecodeError"
  let choices ← getOr data "choices" (.arr [.obj []])
  let choice ← first choices
  let message ← getOr choice "message" (.obj [])
  match ← getOr message "content" (.str "") with
  | .str text => .ok (Strings.strip text.toList)
  | _ => .error "AttributeError"

/-- `PROMPT_GUARD_UNSAFE_THRESHOLD`. -/
def promptGuardUnsafeThreshold : ℚ := 1 / 2

/-- `LLAMA_GUARD_CATEGORIES`. -/
def llamaGuardCategories : List (String × String) :=
  [("S1", "Violent Crimes"), ("S2", "Non-Violent Crimes"), ("S3", "Sex-Related Crimes"),
   ("S4", "Child Sexual Exploitation"), ("S5", "Defamation"), ("S6", "Specialized Advice"),
   ("S7", "Privacy / PII Leakage"), ("S8", "Intellectual Property"),
   ("S9", "Indiscriminate Weapons"), ("S10", "Hate Speech"), ("S11", "Suicide & Self-Harm"),
   ("S12", "Sexual Content"), ("S13", "Elections & Political Interference"),
   ("S14", "Code Interpreter Abuse / Prompt Injection")]

/-- The category code under an `unsafe` label. -/
def categoryCode (raw : List Char) : String :=
  match raw.splitOn '\n' with
  | _ :: line :: _ => String.ofList (Strings.strip line)
  | _ => "S14"

variable (reader : Reader)

/-- What a verdict says, once the answer has a text. -/
def readVerdict (provider : ModelBackedGuardProvider) (raw : List Char) : SafetyAssessment :=
  match reader.float raw with
  | some score =>
      if score.reaches promptGuardUnsafeThreshold then
        { isSafe := false
          threatCategory := some "META_PROMPT_GUARD_INJECTION"
          reason := some
            s!"Meta Prompt Guard detected injection attempt (confidence: {reader.percent score}%)"
          evaluator := s!"{provider.value}_prompt_guard_score" }
      else { isSafe := true, evaluator := s!"{provider.value}_prompt_guard_score" }
  | none =>
      let decision := reader.lower raw
      if Strings.startsWith "unsafe".toList decision then
        let code := categoryCode raw
        let name := (llamaGuardCategories.lookup code).getD "Unsafe Policy Violation"
        { isSafe := false
          threatCategory := some s!"META_LLAMA_GUARD_{code}"
          reason := some s!"Meta Llama Guard classified input as unsafe ({name})"
          evaluator := s!"{provider.value}_llama_guard_verdict" }
      else if Strings.startsWith "safe".toList decision then
        { isSafe := true, evaluator := s!"{provider.value}_llama_guard_verdict" }
      else
        { isSafe := false
          threatCategory := some "GUARD_VERDICT_UNPARSED"
          reason := some
            "Meta Llama Guard returned 200 with no recognisable verdict; failing closed for safety."
          evaluator := s!"{provider.value}_guard_unparsed" }

/-- The answer to an exception. -/
def transportError (provider : ModelBackedGuardProvider) (type : String) : SafetyAssessment where
  isSafe := false
  threatCategory := some "GUARD_TRANSPORT_ERROR"
  reason := some s!"Meta Llama Guard safety check failed ({type}); failing closed for safety."
  evaluator := s!"{provider.value}_guard_failclosed_transport"

/-- `evaluate_meta_llama_guard`. -/
def evaluateMetaLlamaGuard (post : Post → Outcome) (provider : ModelBackedGuardProvider)
    (config : GuardConfig) (prompt : List Char) : SafetyAssessment :=
  if provider = .remote ∧ config.apiKey = "" then
    { isSafe := true, evaluator := "remote_guard_skipped_no_key" }
  else
    match post (postOf config prompt) with
    | .raised type => transportError provider type
    | .response status body =>
        if status = 200 then
          match rawDecision body with
          | .ok raw => readVerdict reader provider raw
          | .error type => transportError provider type
        else
          { isSafe := false
            threatCategory := some "GUARD_SERVICE_UNAVAILABLE"
            reason := some s!"Meta Llama Guard endpoint returned non-200 status ({status}); failing closed for safety."
            evaluator := s!"{provider.value}_guard_failclosed_unavailable" }

/-- `evaluate`, once its settings are a `GuardConfig` or absent. -/
def evaluate (post : Post → Outcome) (config : Option GuardConfig) (prompt : List Char) :
    SafetyAssessment :=
  let l1 := evaluateHeuristic prompt
  if l1.isSafe then
    match config with
    | none => l1
    | some config =>
        match config.provider with
        | none => l1
        | some provider => evaluateMetaLlamaGuard reader post provider config prompt
  else l1

/-- The error that a refused prompt raises. -/
structure SafetyViolation where
  code : ErrorCode
  message : String
  threatCategory : Option String
  evaluator : String

/-- `assert_safe`. -/
def assertSafe (post : Post → Outcome) (config : Option GuardConfig) (prompt : List Char) :
    Except SafetyViolation Unit :=
  let assessment := evaluate reader post config prompt
  if assessment.isSafe then .ok ()
  else
    let reason := assessment.reason.getD "None"
    .error { code := .promptInjectionSuspected
             message := s!"Prompt safety violation: {reason}"
             threatCategory := assessment.threatCategory
             evaluator := assessment.evaluator }

/-! ### What clears a prompt -/

/-- `EVALUATORS`. -/
def evaluators : List String :=
  ["heuristic_bounds", "heuristic_regex", "heuristic_passed", "local_llama_guard_verdict",
   "local_prompt_guard_score", "local_guard_unparsed", "local_guard_failclosed_unavailable",
   "local_guard_failclosed_transport", "remote_llama_guard_verdict", "remote_prompt_guard_score",
   "remote_guard_unparsed", "remote_guard_failclosed_unavailable",
   "remote_guard_failclosed_transport", "remote_guard_skipped_no_key"]

theorem evaluateHeuristic_evaluator (prompt : List Char) :
    (evaluateHeuristic prompt).evaluator ∈ evaluators := by
  unfold evaluateHeuristic
  split_ifs <;> simp [evaluators]

/-- Both halves of the list have the same labels. -/
theorem label_mem (provider : ModelBackedGuardProvider) : ∀ kind ∈ ["_llama_guard_verdict",
    "_prompt_guard_score", "_guard_unparsed", "_guard_failclosed_unavailable",
    "_guard_failclosed_transport"], provider.value ++ kind ∈ evaluators := by
  cases provider <;> decide

theorem readVerdict_evaluator (provider : ModelBackedGuardProvider) (raw : List Char) :
    (readVerdict reader provider raw).evaluator ∈ evaluators := by
  unfold readVerdict
  cases reader.float raw with
  | some score =>
      dsimp only
      split_ifs
      · exact label_mem provider "_prompt_guard_score" (by decide)
      · exact label_mem provider "_prompt_guard_score" (by decide)
  | none =>
      dsimp only
      split_ifs
      · exact label_mem provider "_llama_guard_verdict" (by decide)
      · exact label_mem provider "_llama_guard_verdict" (by decide)
      · exact label_mem provider "_guard_unparsed" (by decide)

theorem evaluateMetaLlamaGuard_evaluator (post : Post → Outcome)
    (provider : ModelBackedGuardProvider) (config : GuardConfig) (prompt : List Char) :
    (evaluateMetaLlamaGuard reader post provider config prompt).evaluator ∈ evaluators := by
  have htransport : ∀ type, (transportError provider type).evaluator ∈ evaluators :=
    fun _ => label_mem provider "_guard_failclosed_transport" (by decide)
  unfold evaluateMetaLlamaGuard
  split_ifs
  · decide
  · split
    · exact htransport _
    · split_ifs
      · split
        · exact readVerdict_evaluator reader provider _
        · exact htransport _
      · exact label_mem provider "_guard_failclosed_unavailable" (by decide)

/-- **Every assessment names a listed evaluator.** -/
theorem evaluate_evaluator (post : Post → Outcome) (config : Option GuardConfig)
    (prompt : List Char) : (evaluate reader post config prompt).evaluator ∈ evaluators := by
  unfold evaluate
  dsimp only
  split_ifs
  · split
    · exact evaluateHeuristic_evaluator prompt
    · split
      · exact evaluateHeuristic_evaluator prompt
      · exact evaluateMetaLlamaGuard_evaluator reader post _ _ prompt
  · exact evaluateHeuristic_evaluator prompt

/-- The verdict text of a response with status 200. -/
def verdictText : Outcome → Option (List Char)
  | .raised _ => none
  | .response status body => if status = 200 then (rawDecision body).toOption else none

/-- A number that is not negative and below the threshold. -/
def InRange : PyFloat → Prop
  | .finite q => 0 ≤ q ∧ q < promptGuardUnsafeThreshold
  | _ => False

/-- A verdict that concludes that a prompt is safe: a number in range, or the word itself. -/
def SaysSafe (raw : List Char) : Prop :=
  (∃ score, reader.float raw = some score ∧ InRange score) ∨ reader.lower raw = "safe".toList

/-- A verdict that concludes nothing and is taken for a safe one: no number and a text that only
begins with the word, or a number that is no probability and compares below the threshold. -/
def Misread (raw : List Char) : Prop :=
  reader.lower raw ≠ "safe".toList ∧
    match reader.float raw with
    | some (.finite q) => q < 0
    | some (.infinite negative) => negative = true
    | some .nan => True
    | none => Strings.startsWith "safe".toList (reader.lower raw) = true

/-- A verdict that clears a prompt. -/
def Clears (raw : List Char) : Prop :=
  match reader.float raw with
  | some score => score.reaches promptGuardUnsafeThreshold = false
  | none => Strings.startsWith "safe".toList (reader.lower raw) = true

/-- No text begins with both words. -/
theorem not_unsafe_of_safe {text : List Char}
    (h : Strings.startsWith "safe".toList text = true) :
    Strings.startsWith "unsafe".toList text = false := by
  obtain ⟨rest, rfl⟩ := Strings.startsWith_iff.1 h
  rfl

theorem readVerdict_isSafe_iff (provider : ModelBackedGuardProvider) (raw : List Char) :
    (readVerdict reader provider raw).isSafe = true ↔ Clears reader raw := by
  unfold readVerdict Clears
  cases reader.float raw with
  | some score => cases hr : score.reaches promptGuardUnsafeThreshold <;> simp [hr]
  | none =>
      by_cases hs : Strings.startsWith "safe".toList (reader.lower raw) = true
      · have hu := not_unsafe_of_safe hs
        simp only [hu, hs, Bool.false_eq_true, if_false, if_true]
      · rw [Bool.not_eq_true] at hs
        simp only [hs, Bool.false_eq_true, if_false, iff_false]
        split_ifs <;> exact not_false

/-- **A verdict clears a prompt without saying safe exactly when it is misread.** -/
theorem misread_iff (raw : List Char) :
    Misread reader raw ↔ Clears reader raw ∧ ¬ SaysSafe reader raw := by
  unfold Misread Clears SaysSafe
  cases reader.float raw with
  | none => simp [and_comm]
  | some score =>
      cases score with
      | finite q =>
          have hthreshold : (0 : ℚ) < promptGuardUnsafeThreshold := by
            norm_num [promptGuardUnsafeThreshold]
          simp only [PyFloat.reaches, InRange, Option.some.injEq, exists_eq_left',
            decide_eq_false_iff_not, not_le, not_or, not_and, not_lt]
          constructor
          · rintro ⟨hl, hq⟩
            exact ⟨hq.trans hthreshold, fun h => absurd hq (not_lt.2 h), hl⟩
          · rintro ⟨hq, hrange, hl⟩
            exact ⟨hl, not_le.1 fun h => absurd hq (not_lt.2 (hrange h))⟩
      | infinite negative => simp [PyFloat.reaches, InRange, and_comm]
      | nan => simp [PyFloat.reaches, InRange]

/-- A request that is made: the provider is on this host, or there is a key. -/
def Attempted (provider : ModelBackedGuardProvider) (config : GuardConfig) : Prop :=
  provider = .onHost ∨ config.apiKey ≠ ""

/-- **A guard that asked the endpoint clears a prompt by the verdict of a response alone.** -/
theorem evaluateMetaLlamaGuard_isSafe_iff {post : Post → Outcome}
    {provider : ModelBackedGuardProvider} {config : GuardConfig} {prompt : List Char}
    (h : Attempted provider config) :
    (evaluateMetaLlamaGuard reader post provider config prompt).isSafe = true ↔
      ∃ raw, verdictText (post (postOf config prompt)) = some raw ∧ Clears reader raw := by
  have hasked : ¬ (provider = .remote ∧ config.apiKey = "") := by
    rintro ⟨rfl, hkey⟩
    rcases h with h | h
    · cases h
    · exact h hkey
  rw [evaluateMetaLlamaGuard, if_neg hasked]
  cases post (postOf config prompt) with
  | raised type => simp [transportError, verdictText]
  | response status body =>
      dsimp only
      split_ifs with hstatus
      · rw [verdictText, if_pos hstatus]
        cases rawDecision body with
        | ok raw => simp [Except.toOption, readVerdict_isSafe_iff]
        | error type => simp [Except.toOption, transportError]
      · simp [verdictText, hstatus]

/-- `evaluate` asks the endpoint about the prompts that pass the heuristics. -/
theorem evaluate_eq {post : Post → Outcome} {provider : ModelBackedGuardProvider}
    {config : GuardConfig} (hprovider : config.provider = some provider) (prompt : List Char) :
    evaluate reader post (some config) prompt =
      if (evaluateHeuristic prompt).isSafe then
        evaluateMetaLlamaGuard reader post provider config prompt
      else evaluateHeuristic prompt := by
  simp only [evaluate, hprovider]

/-- **A prompt is cleared on a verdict that says safe, unless the verdict is misread.**  Of both
functions, at a provider that is asked: what they clear is cleared by a response whose verdict is
a number in range or the word, exactly when no misread verdict reaches them. -/
theorem cleared_only_if_safe_iff {post : Post → Outcome} {provider : ModelBackedGuardProvider}
    {config : GuardConfig} {prompt : List Char} (h : Attempted provider config)
    (hprovider : config.provider = some provider) :
    (((evaluateMetaLlamaGuard reader post provider config prompt).isSafe = true →
        ∃ raw, verdictText (post (postOf config prompt)) = some raw ∧ SaysSafe reader raw) ↔
      ∀ raw, verdictText (post (postOf config prompt)) = some raw → ¬ Misread reader raw) ∧
    (((evaluate reader post (some config) prompt).isSafe = true →
        ∃ raw, verdictText (post (postOf config prompt)) = some raw ∧ SaysSafe reader raw) ↔
      (evaluateHeuristic prompt).isSafe = true →
        ∀ raw, verdictText (post (postOf config prompt)) = some raw → ¬ Misread reader raw) := by
  have hlayer : ((evaluateMetaLlamaGuard reader post provider config prompt).isSafe = true →
        ∃ raw, verdictText (post (postOf config prompt)) = some raw ∧ SaysSafe reader raw) ↔
      ∀ raw, verdictText (post (postOf config prompt)) = some raw → ¬ Misread reader raw := by
    rw [evaluateMetaLlamaGuard_isSafe_iff reader h]
    constructor
    · intro hsafe raw hraw hmisread
      obtain ⟨hclears, hnot⟩ := (misread_iff reader raw).1 hmisread
      obtain ⟨raw', hraw', hsays⟩ := hsafe ⟨raw, hraw, hclears⟩
      rw [hraw, Option.some.injEq] at hraw'
      exact hnot (hraw' ▸ hsays)
    · rintro hnone ⟨raw, hraw, hclears⟩
      refine ⟨raw, hraw, ?_⟩
      by_contra hnot
      exact hnone raw hraw ((misread_iff reader raw).2 ⟨hclears, hnot⟩)
  refine ⟨hlayer, ?_⟩
  rw [evaluate_eq reader hprovider, ← hlayer]
  cases hl : (evaluateHeuristic prompt).isSafe <;> simp [hl]

/-- A reader of texts of letters, which takes none but `nan` for a number. -/
def letterReader : Reader where
  lower text := text.map Char.toLower
  float text := if text.map Char.toLower = "nan".toList then some .nan else none
  percent _ := "nan"

/-- An endpoint that gives one answer to every prompt. -/
def answering (content : String) (_ : Post) : Outcome :=
  .response 200 (some (.obj [("choices", .arr [.obj [("message",
    .obj [("role", .str "assistant"), ("content", .str content)])]])]))

/-- The settings of a guard on this host. -/
def hostConfig : GuardConfig := { provider := some .onHost }

/-- What `answering` answers with has its content for a verdict. -/
theorem verdictText_answering (content : String) (post : Post) :
    verdictText (answering content post) = some (Strings.strip content.toList) := rfl

/-- The word clears a prompt, and is not misread. -/
theorem cleared_only_if_safe_hosted :
    ¬ ∃ raw, verdictText (answering " Safe\n" (postOf hostConfig "laptop".toList)) = some raw ∧
      Misread letterReader raw := by
  rintro ⟨raw, hraw, hmisread⟩
  refine (cleared_only_if_safe_iff letterReader (.inl rfl) rfl).1.1 (fun _ => ?_) raw hraw hmisread
  exact ⟨_, verdictText_answering _ _, .inr (by decide)⟩

/-- A guard on this host clears a prompt on an answer that does not say safe. -/
def ClearedUnsaid (content : String) : Prop :=
  (evaluateMetaLlamaGuard letterReader (answering content) .onHost hostConfig
    "laptop".toList).isSafe = true ∧
  (evaluate letterReader (answering content) (some hostConfig) "laptop".toList).isSafe = true ∧
  ¬ ∃ raw, verdictText (answering content (postOf hostConfig "laptop".toList)) = some raw ∧
    SaysSafe letterReader raw

theorem ClearedUnsaid.of_misread {content : String}
    (h : Misread letterReader (Strings.strip content.toList)) : ClearedUnsaid content := by
  obtain ⟨hclears, hnot⟩ := (misread_iff letterReader _).1 h
  have hsafe : (evaluateMetaLlamaGuard letterReader (answering content) .onHost hostConfig
      "laptop".toList).isSafe = true :=
    (evaluateMetaLlamaGuard_isSafe_iff letterReader (.inl rfl)).2
      ⟨_, verdictText_answering _ _, hclears⟩
  have hpassed : (evaluateHeuristic "laptop".toList).isSafe = true := by decide
  refine ⟨hsafe, ?_, ?_⟩
  · rw [evaluate_eq letterReader rfl, if_pos hpassed]
    exact hsafe
  · rintro ⟨raw, hraw, hsays⟩
    rw [verdictText_answering, Option.some.injEq] at hraw
    exact hnot (hraw ▸ hsays)

/-- **A refusal and a number that is none both clear a prompt.**  The endpoint declines to answer
in a sentence that begins with the letters of the word, or it answers `nan`. -/
theorem refusal_clears :
    ClearedUnsaid "Safety could not be assessed." ∧ ClearedUnsaid "nan" := by
  have hword : letterReader.float (Strings.strip "Safety could not be assessed.".toList) = none := by
    decide
  constructor
  · refine .of_misread ⟨by decide, ?_⟩
    rw [hword]
    decide
  · exact .of_misread ⟨by decide, trivial⟩

end Guard
end Agent
end AgenticCommerce
