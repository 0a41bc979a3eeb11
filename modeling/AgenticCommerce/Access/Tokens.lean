/-
# Signed tokens

`packages/security/tokens.py`: the compact form `header.payload.signature`, the issuer of
access and session tokens, and the verifier, which looks at the shape, the signature, the
header and the claims, in this order.  The MAC is a parameter, a function of a key and a
message; so is the runtime that decodes bytes and reads JSON, of which only one thing is
assumed, that ASCII bytes are read as the text they spell.

`decodeSignedToken_encode` is the round trip of the codec, and `principalFrom_issued` that of
the principal: what the verifier rebuilds from an issued token, for as long as it is live,
is the principal the token was issued for.
-/

import AgenticCommerce.Access.Principals
import AgenticCommerce.Schema
import AgenticCommerce.Text.Base64
import AgenticCommerce.Text.JsonText
import Mathlib.Tactic.SplitIfs

namespace AgenticCommerce
namespace Access

/-- The bytes of an ASCII text. -/
def asciiBytes (text : List Char) : List UInt8 := text.map fun c => UInt8.ofNat c.toNat

/-- How a tier decodes bytes and reads JSON. -/
structure Runtime where
  dialect : Json.Dialect
  /-- The text that bytes spell. -/
  text : List UInt8 → Option (List Char)
  text_ascii : ∀ cs : List Char, (∀ c ∈ cs, 0 < c.toNat ∧ c.toNat < 128) →
    text (asciiBytes cs) = some cs

/-- `json.loads` of bytes. -/
def Runtime.loads (runtime : Runtime) (raw : List UInt8) : Option Json :=
  (runtime.text raw).bind (Json.loads runtime.dialect)

/-- A runtime that reads ASCII only. -/
def asciiRuntime : Runtime where
  dialect := { float := id, constants := true }
  text raw := if raw.all fun b => b < 128 then some (raw.map fun b => Char.ofNat b.toNat) else none
  text_ascii cs h := by
    have hlt : ∀ c ∈ cs, (UInt8.ofNat c.toNat).toNat = c.toNat := fun c hc => by
      have := (h c hc).2
      rw [UInt8.toNat_ofNat']
      omega
    have hall : (asciiBytes cs).all (fun b => b < 128) = true := by
      rw [List.all_eq_true]
      intro b hb
      obtain ⟨c, hc, rfl⟩ := List.mem_map.1 hb
      have := (h c hc).2
      rw [decide_eq_true_eq, UInt8.lt_iff_toNat_lt, hlt c hc]
      exact this
    rw [if_pos hall, asciiBytes, List.map_map]
    refine congrArg some ((List.map_congr_left fun c hc => ?_).trans cs.map_id)
    rw [Function.comp, hlt c hc, Char.ofNat_toNat]
    rfl

def isOk {ε α : Type} : Except ε α → Bool
  | .ok _ => true
  | .error _ => false

/-- HMAC-SHA256 of a text under the key another text is. -/
abbrev Mac := String → List Char → List UInt8

def algorithm : String := "HS256"

/-- `TOKEN_TYPE_ACCESS`, `TOKEN_TYPE_SESSION`. -/
def typeAccess : String := "access"
def typeSession : String := "session"

def maxTokenLength : ℕ := 4096

/-- `CLOCK_SKEW_SECONDS`, `MAX_TTL_SECONDS`, `MAX_ACCESS_TTL_SECONDS`. -/
def clockSkewSeconds : ℤ := 60
def maxTtlSeconds : ℤ := 30 * 86400
def maxAccessTtlSeconds : ℤ := 86400

/-- The claims of a credential or its header: a decoded JSON object. -/
abbrev Claims := List (String × Json)

/-- `_HEADER`. -/
def header : Claims := [("alg", .str algorithm), ("typ", .str "JWT")]

/-- A `TokenError`. -/
def refused (message reason : String) : Failure :=
  .domain { code := .unauthenticated, message, details := [("reason", reason)] }

def malformed : Failure := refused "The credential could not be read." "malformed"

/-- What the credentials are signed with and how long they live. -/
structure Settings where
  jwtSecret : String
  sessionSecret : String
  accessTokenTtlSeconds : ℤ
  sessionTtlSeconds : ℤ

/-! ### Codec -/

/-- `_json_segment`; every dictionary it is given lists its keys in their order. -/
def jsonSegment (claims : Claims) : List Char :=
  Base64.encode (asciiBytes (Json.dumps (.obj claims)))

/-- `f"{header_segment}.{payload_segment}"`. -/
def signingInput (headerSegment payloadSegment : List Char) : List Char :=
  headerSegment ++ '.' :: payloadSegment

/-- `encode_signed_token`. -/
def encodeSignedToken (mac : Mac) (claims : Claims) (secret : String) : Except Failure String :=
  if secret = "" then .error (.exception "refusing to sign a token with an empty secret")
  else
    let input := signingInput (jsonSegment header) (jsonSegment claims)
    .ok (String.ofList (input ++ '.' :: Base64.encode (mac secret input)))

/-- The characters of a segment. -/
def isSegmentChar (c : Char) : Bool := c.isAlphanum || c == '_' || c == '-'

/-- `_SEGMENT_PATTERN.match`, whose `$` also matches before a line feed at the end. -/
def isSegment (segment : List Char) : Bool :=
  segment.all isSegmentChar ||
    segment.getLast? == some '\n' && segment.dropLast.all isSegmentChar

/-- `_b64url_decode`. -/
def b64urlDecode (segment : List Char) : Option (List UInt8) :=
  Base64.a2b (segment ++ Base64.padding segment.length)

/-- `_decode_json_segment`. -/
def decodeJsonSegment (runtime : Runtime) (segment : List Char) : Except Failure Claims :=
  match (b64urlDecode segment).bind runtime.loads with
  | some (.obj items) => .ok items
  | _ => .error malformed

/-- `_int_claim`. -/
def intClaim (claims : Claims) (name : String) : Except Failure ℤ :=
  match Json.lookup claims name with
  | some (.int n) => .ok n
  | _ => .error (refused "The credential is not usable." ("bad_" ++ name))

/-- The claims of a token that verified: its type, its expiry and its date. -/
def checkClaims (claims : Claims) (expectedType : String) (now : Time) : Except Failure Claims :=
  if Json.lookup claims "typ" ≠ some (.str expectedType) then
    .error (refused "The credential is not valid for this surface." "wrong_type")
  else match intClaim claims "exp" with
    | .error e => .error e
    | .ok expiresAt =>
        if expiresAt * 1000000 ≤ now then
          .error (refused "The credential has expired." "expired")
        else match intClaim claims "iat" with
          | .error e => .error e
          | .ok issuedAt =>
              if now < (issuedAt - clockSkewSeconds) * 1000000 then
                .error (refused "The credential is not valid yet." "issued_in_future")
              else .ok claims

/-- The signature, the header and the claims of a token of the right shape. -/
def verifySegments (runtime : Runtime) (mac : Mac) (secret expectedType : String) (now : Time)
    (headerSegment payloadSegment signatureSegment : List Char) : Except Failure Claims :=
  match b64urlDecode signatureSegment with
  | none => .error malformed
  | some presented =>
      if mac secret (signingInput headerSegment payloadSegment) ≠ presented then
        .error (refused "The credential could not be verified." "signature")
      else match decodeJsonSegment runtime headerSegment with
        | .error e => .error e
        | .ok header =>
            if Json.lookup header "alg" ≠ some (.str algorithm) then
              .error (refused "The credential could not be verified." "algorithm")
            else match decodeJsonSegment runtime payloadSegment with
              | .error e => .error e
              | .ok claims => checkClaims claims expectedType now

/-- `decode_signed_token`. -/
def decodeSignedToken (runtime : Runtime) (mac : Mac) (token secret expectedType : String)
    (now : Time) : Except Failure Claims :=
  if secret = "" then .error (.exception "refusing to verify a token with an empty secret")
  else if token = "" then .error (refused "A credential is required." "missing")
  else if maxTokenLength < token.length then
    .error (refused "The credential could not be read." "too_large")
  else match token.toList.splitOn '.' with
    | [headerSegment, payloadSegment, signatureSegment] =>
        if isSegment headerSegment && isSegment payloadSegment && isSegment signatureSegment then
          verifySegments runtime mac secret expectedType now headerSegment payloadSegment
            signatureSegment
        else .error malformed
    | _ => .error malformed

/-! ### Issuing -/

/-- A freshly minted credential and what it grants. -/
structure IssuedToken where
  token : String
  expiresAt : ℤ
  principal : Principal

/-- The claims of a principal, in the order of their names. -/
def claimsOf (p : Principal) (tokenType jti : String) (issuedAt expiresAt : ℤ) : Claims :=
  (match p.buyerId with
    | some b => [("buyer", .str b)]
    | none => []) ++
  (match p.clientId with
    | some c => [("cid", .str c)]
    | none => []) ++
  [("exp", .int expiresAt), ("iat", .int issuedAt), ("jti", .str jti),
    ("role", .str p.role.value),
    ("scopes", .arr ((Scope.sorted p.scopes).map .str)), ("sub", .str p.subject),
    ("tenant", .str p.merchantId), ("typ", .str tokenType)]

/-- `int(now)`. -/
def seconds (now : Time) : ℤ := now.tdiv 1000000

/-- `_issue`. -/
def issue (mac : Mac) (newId : String → String) (tokenType : String) (method : AuthMethod)
    (secret subject : String) (role : Role) (merchantId : String) (buyerId : Option String)
    (scopes : Option (Finset Scope)) (ttlSeconds : ℤ) (now : Time) (clientId : Option String) :
    Except Failure IssuedToken :=
  if ttlSeconds < 1 then .error (.exception "token ttl must be at least one second")
  else if maxTtlSeconds < ttlSeconds then
    .error (.exception ("token ttl must not exceed " ++ toString maxTtlSeconds ++ " seconds"))
  else
    let expiresAt := seconds now + ttlSeconds
    match grantScopes role scopes with
    | .error e => .error e
    | .ok granted =>
        match Principal.make subject role merchantId buyerId granted method (some expiresAt)
          clientId with
        | .error e => .error e
        | .ok principal =>
            match encodeSignedToken mac
              (claimsOf principal tokenType (newId "cred") (seconds now) expiresAt) secret with
            | .error e => .error e
            | .ok token => .ok { token, expiresAt, principal }

/-- `issue_access_token`. -/
def issueAccessToken (mac : Mac) (newId : String → String) (secret subject : String) (role : Role)
    (merchantId : String) (ttlSeconds : ℤ) (buyerId : Option String)
    (scopes : Option (Finset Scope)) (now : Time) (clientId : Option String) :
    Except Failure IssuedToken :=
  if maxAccessTtlSeconds < ttlSeconds then
    .error (.exception ("access token ttl must not exceed " ++ toString maxAccessTtlSeconds ++
      " seconds"))
  else issue mac newId typeAccess .token secret subject role merchantId buyerId scopes ttlSeconds
    now clientId

/-- `issue_session_token`. -/
def issueSessionToken (mac : Mac) (newId : String → String) (secret subject : String) (role : Role)
    (merchantId : String) (ttlSeconds : ℤ) (buyerId : Option String) (now : Time) :
    Except Failure IssuedToken :=
  issue mac newId typeSession .session secret subject role merchantId buyerId none ttlSeconds now
    none

/-! ### Verifying -/

def unusable (reason : String) : Failure := refused "The credential is not usable." reason

/-- A claim that must be a text. -/
def textClaim (claims : Claims) (name : String) : Option String :=
  match Json.lookup claims name with
  | some (.str s) => some s
  | _ => none

/-- A claim that may be missing or `null`, and is a text otherwise. -/
def optionalClaim (claims : Claims) (name reason : String) : Except Failure (Option String) :=
  match Json.lookup claims name with
  | none | some .null => .ok none
  | some (.str s) => .ok (some s)
  | _ => .error (unusable reason)

/-- `Scope(value)`. -/
def scopeOf? : Json → Option Scope
  | .str s => Scope.ofString? s
  | _ => none

/-- `_principal_from_claims`. -/
def principalFromClaims (claims : Claims) (method : AuthMethod) : Except Failure Principal :=
  match (textClaim claims "sub").filter (· != "") with
  | none => .error (unusable "bad_subject")
  | some subject => match (textClaim claims "tenant").filter (· != "") with
    | none => .error (unusable "bad_tenant")
    | some tenant => match (textClaim claims "role").bind Role.ofString? with
      | none => .error (unusable "unknown_role")
      | some role => match (Json.lookup claims "scopes").getD (.arr []) with
        | .arr raw => match raw.mapM scopeOf? with
          | none => .error (unusable "unknown_scope")
          | some scopes => match optionalClaim claims "buyer" "bad_buyer" with
            | .error e => .error e
            | .ok buyerId => match optionalClaim claims "cid" "bad_client" with
              | .error e => .error e
              | .ok clientId => match intClaim claims "exp" with
                | .error e => .error e
                | .ok expiresAt =>
                    match Principal.make subject role tenant buyerId scopes.toFinset method
                      (some expiresAt) clientId with
                    | .error _ => .error (unusable "invalid_claims")
                    | .ok p => .ok p
        | _ => .error (unusable "bad_scopes")

/-- `principal_from_access_token`, `principal_from_session_token`. -/
def principalFrom (runtime : Runtime) (mac : Mac) (tokenType : String) (method : AuthMethod)
    (token secret : String) (now : Time) : Except Failure Principal :=
  match decodeSignedToken runtime mac token secret tokenType now with
  | .error e => .error e
  | .ok claims => principalFromClaims claims method

def principalFromAccessToken (runtime : Runtime) (mac : Mac) (token secret : String) (now : Time) :
    Except Failure Principal :=
  principalFrom runtime mac typeAccess .token token secret now

def principalFromSessionToken (runtime : Runtime) (mac : Mac) (token secret : String)
    (now : Time) : Except Failure Principal :=
  principalFrom runtime mac typeSession .session token secret now

/-! ### Segments -/

theorem isSegmentChar_digit : ∀ n < 64, isSegmentChar (Base64.digit n) = true := by decide

theorem toNat_lt_of_isSegmentChar {c : Char} (h : isSegmentChar c = true) : c.toNat < 128 := by
  have digit : ∀ n m : UInt32, n ≤ m → n.toNat ≤ m.toNat := fun n m => UInt32.le_iff_toNat_le.1
  change (((decide (c.val ≥ 'A'.val ∧ c.val ≤ 'Z'.val) ||
    decide (c.val ≥ 'a'.val) && decide (c.val ≤ 'z'.val)) ||
    decide (c.val ≥ '0'.val) && decide (c.val ≤ '9'.val)) || c == '_' || c == '-') = true at h
  simp only [Bool.or_eq_true, Bool.and_eq_true, decide_eq_true_eq, beq_iff_eq] at h
  rcases h with ((((⟨-, h⟩ | ⟨-, h⟩) | ⟨-, h⟩)) | rfl) | rfl
  · exact lt_of_le_of_lt (digit _ _ h) (by decide)
  · exact lt_of_le_of_lt (digit _ _ h) (by decide)
  · exact lt_of_le_of_lt (digit _ _ h) (by decide)
  · decide
  · decide

theorem encode_isSegmentChar (bs : List UInt8) : ∀ c ∈ Base64.encode bs, isSegmentChar c = true := by
  intro c hc
  obtain ⟨n, hn, rfl⟩ := List.mem_map.1 hc
  exact isSegmentChar_digit n (Base64.sextets_lt bs n hn)

theorem encode_isSegment (bs : List UInt8) : isSegment (Base64.encode bs) = true := by
  rw [isSegment, List.all_eq_true.2 (encode_isSegmentChar bs), Bool.true_or]

theorem dot_not_mem_encode (bs : List UInt8) : '.' ∉ Base64.encode bs := fun h =>
  absurd (encode_isSegmentChar bs '.' h) (by decide)

theorem jsonSegment_isSegment (claims : Claims) : isSegment (jsonSegment claims) = true :=
  encode_isSegment _

theorem dot_not_mem_jsonSegment (claims : Claims) : '.' ∉ jsonSegment claims := dot_not_mem_encode _

theorem b64urlDecode_encode (bs : List UInt8) : b64urlDecode (Base64.encode bs) = some bs :=
  Base64.a2b_encode bs

/-- What a runtime reads in a segment is what was written into it. -/
theorem decodeJsonSegment_jsonSegment (runtime : Runtime) {claims : Claims}
    (h : Json.exactFields claims = true) :
    decodeJsonSegment runtime (jsonSegment claims) = .ok claims := by
  have hexact : (Json.obj claims).exact = true := by simpa only [Json.exact] using h
  have htext := runtime.text_ascii _ (Json.dumps_ascii _ hexact)
  have hloads : runtime.loads (asciiBytes (Json.dumps (.obj claims))) = some (.obj claims) := by
    rw [Runtime.loads, htext, Option.bind_some, Json.loads_dumps _ hexact]
  rw [decodeJsonSegment, jsonSegment, b64urlDecode_encode, Option.bind_some, hloads]

/-- Three segments are what a token is split into. -/
theorem splitOn_segments {h p s : List Char} (hh : '.' ∉ h) (hp : '.' ∉ p) (hs : '.' ∉ s) :
    (signingInput h p ++ '.' :: s).splitOn '.' = [h, p, s] := by
  rw [signingInput, List.append_assoc, List.cons_append,
    List.splitOn_append_cons_self_of_not_mem hh, List.splitOn_append_cons_self_of_not_mem hp,
    List.splitOn_eq_singleton hs]

section

variable {runtime : Runtime} {mac : Mac} {secret tokenType : String} {claims : Claims}
  {now : Time}

/-- A token of three segments is verified, unless it is too long. -/
theorem decodeSignedToken_segments (hsecret : secret ≠ "") {h p s : List Char} (hh : '.' ∉ h)
    (hp : '.' ∉ p) (hs : '.' ∉ s)
    (hseg : (isSegment h && isSegment p && isSegment s) = true) :
    decodeSignedToken runtime mac (String.ofList (signingInput h p ++ '.' :: s)) secret tokenType
        now =
      if maxTokenLength < (signingInput h p ++ '.' :: s).length then
        .error (refused "The credential could not be read." "too_large")
      else verifySegments runtime mac secret tokenType now h p s := by
  have hne : String.ofList (signingInput h p ++ '.' :: s) ≠ "" := fun he => by
    have := congrArg String.toList he
    simp [signingInput] at this
  rw [decodeSignedToken, if_neg hsecret, if_neg hne, String.length_ofList, String.toList_ofList,
    splitOn_segments hh hp hs]
  simp only [hseg, if_true]

/-- Segments the issuer wrote, under any signature. -/
theorem verifySegments_jsonSegment (h : Json.exactFields claims = true) (s : List Char) :
    verifySegments runtime mac secret tokenType now (jsonSegment header) (jsonSegment claims) s =
      match b64urlDecode s with
      | none => .error malformed
      | some presented =>
          if mac secret (signingInput (jsonSegment header) (jsonSegment claims)) ≠ presented then
            .error (refused "The credential could not be verified." "signature")
          else checkClaims claims tokenType now := by
  rw [verifySegments, decodeJsonSegment_jsonSegment runtime h,
    decodeJsonSegment_jsonSegment runtime (show Json.exactFields header = true from rfl)]
  rfl

/-- **The codec's round trip.**  A token that is not too long is opened, and its claims are
checked. -/
theorem decodeSignedToken_encode {token : String} (h : Json.exactFields claims = true)
    (htoken : encodeSignedToken mac claims secret = .ok token) :
    decodeSignedToken runtime mac token secret tokenType now =
      if maxTokenLength < token.length then
        .error (refused "The credential could not be read." "too_large")
      else checkClaims claims tokenType now := by
  unfold encodeSignedToken at htoken
  split_ifs at htoken with hsecret
  obtain rfl := Except.ok.inj htoken
  rw [decodeSignedToken_segments hsecret (dot_not_mem_jsonSegment _) (dot_not_mem_jsonSegment _)
    (dot_not_mem_encode _) (by
      rw [jsonSegment_isSegment, jsonSegment_isSegment, encode_isSegment]
      rfl), String.length_ofList, verifySegments_jsonSegment h, b64urlDecode_encode]
  simp

end

/-! ### What is issued is rebuilt -/

section

variable (p : Principal) (tokenType jti : String) (issuedAt expiresAt : ℤ)

theorem exactItems_map_str (l : List String) : Json.exactItems (l.map .str) = true := by
  induction l with
  | nil => rfl
  | cons s l ih =>
      rw [List.map_cons, Json.exactItems, ih]
      rfl

theorem exactFields_claimsOf :
    Json.exactFields (claimsOf p tokenType jti issuedAt expiresAt) = true := by
  have h := exactItems_map_str (Scope.sorted p.scopes)
  unfold claimsOf
  cases p.buyerId <;> cases p.clientId <;>
    simp [Json.exactFields, Json.exact, h]

/-- What the verifier reads in the claims of a principal. -/
theorem lookup_claimsOf :
    Json.lookup (claimsOf p tokenType jti issuedAt expiresAt) "exp" = some (.int expiresAt) ∧
    Json.lookup (claimsOf p tokenType jti issuedAt expiresAt) "iat" = some (.int issuedAt) ∧
    Json.lookup (claimsOf p tokenType jti issuedAt expiresAt) "role" = some (.str p.role.value) ∧
    Json.lookup (claimsOf p tokenType jti issuedAt expiresAt) "scopes" =
      some (.arr ((Scope.sorted p.scopes).map .str)) ∧
    Json.lookup (claimsOf p tokenType jti issuedAt expiresAt) "sub" = some (.str p.subject) ∧
    Json.lookup (claimsOf p tokenType jti issuedAt expiresAt) "tenant" =
      some (.str p.merchantId) ∧
    Json.lookup (claimsOf p tokenType jti issuedAt expiresAt) "typ" = some (.str tokenType) ∧
    Json.lookup (claimsOf p tokenType jti issuedAt expiresAt) "buyer" = p.buyerId.map .str ∧
    Json.lookup (claimsOf p tokenType jti issuedAt expiresAt) "cid" = p.clientId.map .str := by
  unfold claimsOf
  cases p.buyerId <;> cases p.clientId <;> simp [Json.lookup]

theorem optionalClaim_of_lookup {claims : Claims} {name reason : String} {value : Option String}
    (h : Json.lookup claims name = value.map .str) :
    optionalClaim claims name reason = .ok value := by
  rw [optionalClaim, h]
  cases value <;> rfl

theorem mapM_scopeOf? (l : List Scope) :
    (l.map fun s => Json.str s.value).mapM scopeOf? = some l := by
  induction l with
  | nil => rfl
  | cons s l ih =>
      rw [List.map_cons, List.mapM_cons, ih, scopeOf?, Scope.ofString?_value]
      rfl

theorem toFinset_all (scopes : Finset Scope) :
    (Scope.all.filter (· ∈ scopes)).toFinset = scopes := by
  ext s
  simp [Scope.mem_all]

/-- **The claims of a principal name it.** -/
theorem principalFromClaims_claimsOf (h : p.expiresAt = some expiresAt) :
    principalFromClaims (claimsOf p tokenType jti issuedAt expiresAt) p.method = .ok p := by
  obtain ⟨hexp, -, hrole, hscopes, hsub, htenant, -, hbuyer, hcid⟩ :=
    lookup_claimsOf p tokenType jti issuedAt expiresAt
  have hs : (textClaim (claimsOf p tokenType jti issuedAt expiresAt) "sub").filter (· != "") =
      some p.subject := by simp [textClaim, hsub, p.subject_ne]
  have ht : (textClaim (claimsOf p tokenType jti issuedAt expiresAt) "tenant").filter (· != "") =
      some p.merchantId := by simp [textClaim, htenant, p.merchantId_ne]
  have hr : (textClaim (claimsOf p tokenType jti issuedAt expiresAt) "role").bind Role.ofString? =
      some p.role := by simp [textClaim, hrole]
  have hraw : (Scope.sorted p.scopes).map Json.str =
      (Scope.all.filter (· ∈ p.scopes)).map fun s => Json.str s.value := by
    rw [Scope.sorted, List.map_map]
    rfl
  have hmake := p.make_self
  rw [h] at hmake
  rw [principalFromClaims, hs, ht, hr, hscopes, Option.getD_some, hraw]
  simp only [mapM_scopeOf?, optionalClaim_of_lookup hbuyer, optionalClaim_of_lookup hcid, intClaim,
    hexp, toFinset_all, hmake]

end

section

variable {mac : Mac} {newId : String → String} {tokenType secret subject merchantId : String}
  {method : AuthMethod} {role : Role} {buyerId clientId : Option String}
  {scopes : Option (Finset Scope)} {ttlSeconds : ℤ} {now : Time} {t : IssuedToken}

/-- What an issued token is: the claims of the principal it was issued for, signed. -/
theorem issue_eq_ok (h : issue mac newId tokenType method secret subject role merchantId buyerId
    scopes ttlSeconds now clientId = .ok t) :
    t.principal.subject = subject ∧ t.principal.role = role ∧
      t.principal.merchantId = merchantId ∧ t.principal.buyerId = buyerId ∧
      t.principal.scopes = scopes.getD role.scopes ∧ t.principal.method = method ∧
      t.principal.expiresAt = some t.expiresAt ∧ t.principal.clientId = clientId ∧
      t.expiresAt = seconds now + ttlSeconds ∧ 1 ≤ ttlSeconds ∧
      encodeSignedToken mac (claimsOf t.principal tokenType (newId "cred") (seconds now)
        t.expiresAt) secret = .ok t.token := by
  unfold issue at h
  split_ifs at h with hlow hhigh
  dsimp only at h
  cases hg : grantScopes role scopes with
  | error e =>
      rw [hg] at h
      exact nomatch h
  | ok granted =>
      rw [hg] at h
      dsimp only at h
      cases hp : Principal.make subject role merchantId buyerId granted method
        (some (seconds now + ttlSeconds)) clientId with
      | error e =>
          rw [hp] at h
          exact nomatch h
      | ok principal =>
          rw [hp] at h
          dsimp only at h
          cases ht : encodeSignedToken mac (claimsOf principal tokenType (newId "cred")
            (seconds now) (seconds now + ttlSeconds)) secret with
          | error e =>
              rw [ht] at h
              exact nomatch h
          | ok token =>
              rw [ht] at h
              obtain rfl := Except.ok.inj h
              obtain ⟨h₁, h₂, h₃, h₄, h₅, h₆, h₇, h₈⟩ := Principal.make_eq_ok hp
              exact ⟨h₁, h₂, h₃, h₄, h₅.trans (grantScopes_eq_ok.1 hg).1, h₆, h₇, h₈, rfl,
                by omega, ht⟩

/-- **An issued token is rebuilt as the principal it was issued for**, as long as it is
live; before and after that it is refused, and so it is when it is too long. -/
theorem principalFrom_issued (runtime : Runtime) (at' : Time)
    (h : issue mac newId tokenType method secret subject role merchantId buyerId scopes ttlSeconds
      now clientId = .ok t) :
    principalFrom runtime mac tokenType method t.token secret at' =
      if maxTokenLength < t.token.length then
        .error (refused "The credential could not be read." "too_large")
      else if t.expiresAt * 1000000 ≤ at' then
        .error (refused "The credential has expired." "expired")
      else if at' < (seconds now - clockSkewSeconds) * 1000000 then
        .error (refused "The credential is not valid yet." "issued_in_future")
      else .ok t.principal := by
  obtain ⟨-, -, -, -, -, hmethod, hexp, -, -, -, htoken⟩ := issue_eq_ok h
  obtain ⟨hlexp, hliat, -, -, -, -, htyp, -, -⟩ :=
    lookup_claimsOf t.principal tokenType (newId "cred") (seconds now) t.expiresAt
  have hclaims := principalFromClaims_claimsOf t.principal tokenType (newId "cred") (seconds now)
    t.expiresAt hexp
  rw [hmethod] at hclaims
  rw [principalFrom, decodeSignedToken_encode (exactFields_claimsOf _ _ _ _ _) htoken]
  unfold checkClaims
  simp only [htyp, ne_eq, not_true_eq_false, if_false, intClaim, hlexp, hliat]
  split_ifs
  · rfl
  · rfl
  · rfl
  · exact hclaims

end

end Access
end AgenticCommerce
