/-
# The session verifier of the web tier

`apps/web/src/lib/sessionToken.ts`, against `principal_from_session_token`.  The two read
one format with two decoders, two limits on the length, and two ways to compare a
signature: the API decodes the one it is presented with, the web tier encodes the one it
expects.

A MAC that cannot be forged is the hypothesis `Genuine` about a string: if its signature
verifies, the issuer has signed what it signs.  Then **the verifiers agree on the string**,
up to a date in the future, **unless it is a live session token of the issuer whose
signature is spelled in another way, or one too long for the API alone**
(`verifiers_agree_iff`).
-/

import AgenticCommerce.Access.Tokens

namespace AgenticCommerce
namespace Access

/-- The runtime of the web tier. -/
structure WebRuntime extends Runtime where
  /-- `exp * 1000 <= Date.now()`, of a number with a fraction or an exponent. -/
  floatExpired : String → ℤ → Bool

/-- `TokenVerdict`. -/
inductive TokenVerdict where
  | valid (role : String)
  | invalid
  | unknown
  deriving DecidableEq, Repr

/-- The code units of a text. -/
def codeUnits (text : List Char) : List ℕ :=
  text.flatMap fun c =>
    if c.toNat < 65536 then [c.toNat]
    else [55296 + (c.toNat - 65536) / 1024, 56320 + (c.toNat - 65536) % 1024]

/-- `base64UrlToBytes`. -/
def base64UrlToBytes (value : List Char) : Option (List UInt8) :=
  Base64.atob (value.map Base64.toStandard ++ Base64.padding (codeUnits value).length)

/-- `decodeSegment`; an array has none of the names that are asked for. -/
def decodeSegment (web : WebRuntime) (segment : List Char) : Option Claims :=
  match (base64UrlToBytes segment).bind web.loads with
  | some (.obj items) => some items
  | some (.arr _) => some []
  | _ => none

/-- `constantTimeEquals`: the differences of the code units, collected. -/
def constantTimeEquals (a b : List ℕ) : Bool :=
  if a.length ≠ b.length then false
  else (List.zipWith (fun x y => x ^^^ y) a b).foldl (fun diff d => diff ||| d) 0 == 0

/-- `exp * 1000 <= Date.now()`, and the check that `exp` is a number. -/
def expired? (web : WebRuntime) (payload : Claims) (now : Time) : Option Bool :=
  match Json.lookup payload "exp" with
  | some (.int n) => some (decide (n * 1000 ≤ now / 1000))
  | some (.float r) => some (web.floatExpired r (now / 1000))
  | _ => none

/-- `verifySessionToken`. -/
def verifySessionToken (web : WebRuntime) (mac : Mac) (token : String) (secret : Option String)
    (now : Time) : TokenVerdict :=
  match secret.filter (· != "") with
  | none => .unknown
  | some secret =>
      if (codeUnits token.toList).length = 0 ∨ 8192 < (codeUnits token.toList).length then .invalid
      else match token.toList.splitOn '.' with
        | [header, payload, signature] =>
            match decodeSegment web header, decodeSegment web payload with
            | some headerClaims, some payloadClaims =>
                if Json.lookup headerClaims "alg" ≠ some (.str "HS256") then .invalid
                else if Json.lookup payloadClaims "typ" ≠ some (.str "session") then .invalid
                else if !constantTimeEquals
                    (codeUnits (Base64.encode (mac secret (signingInput header payload))))
                    (codeUnits signature) then .invalid
                else match expired? web payloadClaims now with
                  | some false => match Json.lookup payloadClaims "role" with
                    | some (.str role) => .valid role
                    | _ => .invalid
                  | _ => .invalid
            | _, _ => .invalid
        | _ => .invalid

/-! ### Code units -/

theorem codeUnits_of_lt {text : List Char} (h : ∀ c ∈ text, c.toNat < 65536) :
    codeUnits text = text.map Char.toNat := by
  induction text with
  | nil => rfl
  | cons c text ih =>
      rw [codeUnits, List.flatMap_cons, if_pos (h c (List.mem_cons_self ..)), List.map_cons]
      exact congrArg _ (ih fun d hd => h d (List.mem_cons_of_mem _ hd))

theorem length_codeUnits {text : List Char} (h : ∀ c ∈ text, c.toNat < 65536) :
    (codeUnits text).length = text.length := by
  rw [codeUnits_of_lt h, List.length_map]

theorem encode_lt (bs : List UInt8) : ∀ c ∈ Base64.encode bs, c.toNat < 128 := fun c hc =>
  toNat_lt_of_isSegmentChar (encode_isSegmentChar bs c hc)

/-- A text whose code units are all in the first plane is told by them from every other. -/
theorem eq_of_codeUnits {a b : List Char} (ha : ∀ c ∈ a, c.toNat < 55296)
    (h : codeUnits a = codeUnits b) : a = b := by
  induction a generalizing b with
  | nil =>
      cases b with
      | nil => rfl
      | cons c b =>
          rw [codeUnits, codeUnits, List.flatMap_nil, List.flatMap_cons] at h
          split_ifs at h <;> exact nomatch h
  | cons c a ih =>
      have hc := ha c (List.mem_cons_self ..)
      cases b with
      | nil =>
          rw [codeUnits, List.flatMap_cons, if_pos (by omega)] at h
          exact nomatch h
      | cons d b =>
          rw [codeUnits, codeUnits, List.flatMap_cons, List.flatMap_cons, if_pos (by omega)] at h
          split_ifs at h with hd
          · obtain ⟨hcd, hrest⟩ := List.cons.inj h
            have hcd : c = d := Char.ext (UInt32.toNat_inj.1 hcd)
            rw [hcd, ih (fun e he => ha e (List.mem_cons_of_mem _ he)) hrest]
          · obtain ⟨hcd, -⟩ := List.cons.inj h
            omega

theorem foldl_or_eq_zero (l : List ℕ) (n : ℕ) :
    l.foldl (fun diff d => diff ||| d) n = 0 ↔ n = 0 ∧ ∀ d ∈ l, d = 0 := by
  induction l generalizing n with
  | nil => simp
  | cons d l ih =>
      rw [List.foldl_cons, ih, Nat.or_eq_zero_iff, List.forall_mem_cons, and_assoc]

theorem eq_of_xor {x y : ℕ} (h : x ^^^ y = 0) : x = y :=
  calc x = x ^^^ (y ^^^ y) := by rw [Nat.xor_self, Nat.xor_zero]
    _ = (x ^^^ y) ^^^ y := (Nat.xor_assoc x y y).symm
    _ = y := by rw [h, Nat.zero_xor]

/-- The comparison is equality. -/
theorem constantTimeEquals_iff {a b : List ℕ} : constantTimeEquals a b = true ↔ a = b := by
  unfold constantTimeEquals
  split_ifs with h
  · simp only [false_iff]
    rintro rfl
    exact h rfl
  · rw [beq_iff_eq, foldl_or_eq_zero]
    have hlen : a.length = b.length := not_not.1 h
    constructor
    · rintro ⟨-, hz⟩
      refine List.ext_getElem hlen fun i h₁ h₂ => ?_
      have hi : i < (List.zipWith (fun x y => x ^^^ y) a b).length := by
        rw [List.length_zipWith]
        omega
      have := hz _ (List.getElem_mem hi)
      rw [List.getElem_zipWith] at this
      exact eq_of_xor this
    · rintro rfl
      refine ⟨rfl, fun d hd => ?_⟩
      obtain ⟨i, hi, rfl⟩ := List.getElem_of_mem hd
      rw [List.getElem_zipWith, Nat.xor_self]

/-! ### Tokens of the issuer -/

/-- `t` is a token of the issuer under the secret, of that type and issued at that instant. -/
inductive Issued (mac : Mac) (secret : String) : String → Time → IssuedToken → Prop where
  | access {newId : String → String} {subject : String} {role : Role} {merchantId : String}
      {ttlSeconds : ℤ} {buyerId : Option String} {scopes : Option (Finset Scope)} {now : Time}
      {clientId : Option String} {t : IssuedToken}
      (h : issueAccessToken mac newId secret subject role merchantId ttlSeconds buyerId scopes now
        clientId = .ok t) : Issued mac secret typeAccess now t
  | session {newId : String → String} {subject : String} {role : Role} {merchantId : String}
      {ttlSeconds : ℤ} {buyerId : Option String} {now : Time} {t : IssuedToken}
      (h : issueSessionToken mac newId secret subject role merchantId ttlSeconds buyerId now =
        .ok t) : Issued mac secret typeSession now t

/-- **A MAC that cannot be forged**, of one string: if its signature verifies, the issuer
signed what it signs. -/
def Genuine (mac : Mac) (secret token : String) : Prop :=
  ∀ h p s, token.toList.splitOn '.' = [h, p, s] →
    b64urlDecode s = some (mac secret (signingInput h p)) →
    ∃ tokenType now t, Issued mac secret tokenType now t ∧
      t.token.toList.splitOn '.' = [h, p, Base64.encode (mac secret (signingInput h p))]

/-- A session token of the issuer that is unexpired and not dated ahead. -/
def LiveSession (mac : Mac) (secret : String) (now : Time) (t : IssuedToken) : Prop :=
  ∃ issuedAt, Issued mac secret typeSession issuedAt t ∧ now < t.expiresAt * 1000000 ∧
    (seconds issuedAt - clockSkewSeconds) * 1000000 ≤ now

/-- The string is a live session token whose signature is spelled in another way. -/
def Respelled (mac : Mac) (secret token : String) (now : Time) : Prop :=
  token.length ≤ maxTokenLength ∧ ∃ t h p s s', LiveSession mac secret now t ∧
    t.token.toList.splitOn '.' = [h, p, s] ∧ token.toList.splitOn '.' = [h, p, s'] ∧ s' ≠ s ∧
    isSegment s' = true ∧ b64urlDecode s' = b64urlDecode s

/-- The string is a live session token that only the web tier is long enough for. -/
def Oversized (mac : Mac) (secret token : String) (now : Time) : Prop :=
  maxTokenLength < token.length ∧ token.length ≤ 8192 ∧
    ∃ t, LiveSession mac secret now t ∧ t.token = token

/-- The date of the token lies more than the leeway ahead. -/
def DatedAhead (runtime : Runtime) (token : String) (now : Time) : Prop :=
  ∃ h p s claims issuedAt, token.toList.splitOn '.' = [h, p, s] ∧
    decodeJsonSegment runtime p = .ok claims ∧
    Json.lookup claims "iat" = some (.int issuedAt) ∧
    now < (issuedAt - clockSkewSeconds) * 1000000

/-- The two verifiers agree, up to tokens that are dated ahead. -/
def VerifiersAgree (runtime : Runtime) (web : WebRuntime) (mac : Mac) (secret token : String)
    (now : Time) : Prop :=
  ∀ role, (verifySessionToken web mac token (some secret) now = .valid role →
      (∃ p, principalFromSessionToken runtime mac token secret now = .ok p ∧ p.role.value = role) ∨
        DatedAhead runtime token now) ∧
    ((∃ p, principalFromSessionToken runtime mac token secret now = .ok p ∧ p.role.value = role) →
      verifySessionToken web mac token (some secret) now = .valid role)

section

variable {mac : Mac} {secret tokenType : String} {issuedAt : Time} {t : IssuedToken}

/-- What an issued token is split into. -/
theorem Issued.splitOn (h : Issued mac secret tokenType issuedAt t) :
    ∃ jti, secret ≠ "" ∧ t.principal.expiresAt = some t.expiresAt ∧
      (tokenType = typeSession → t.principal.method = .session) ∧
      t.token.toList.splitOn '.' = [jsonSegment header,
        jsonSegment (claimsOf t.principal tokenType jti (seconds issuedAt) t.expiresAt),
        Base64.encode (mac secret (signingInput (jsonSegment header)
          (jsonSegment (claimsOf t.principal tokenType jti (seconds issuedAt) t.expiresAt))))] := by
  have split : ∀ {claims token}, encodeSignedToken mac claims secret = .ok token → secret ≠ "" ∧
      token.toList.splitOn '.' = [jsonSegment header, jsonSegment claims,
        Base64.encode (mac secret (signingInput (jsonSegment header) (jsonSegment claims)))] := by
    intro claims token htoken
    unfold encodeSignedToken at htoken
    split_ifs at htoken with hsecret
    obtain rfl := Except.ok.inj htoken
    rw [String.toList_ofList]
    exact ⟨hsecret, splitOn_segments (dot_not_mem_jsonSegment _) (dot_not_mem_jsonSegment _)
      (dot_not_mem_encode _)⟩
  cases h with
  | @access newId _ _ _ _ _ _ _ _ _ h =>
      unfold issueAccessToken at h
      split_ifs at h
      obtain ⟨-, -, -, -, -, -, hexp, -, -, -, htoken⟩ := issue_eq_ok h
      exact ⟨newId "cred", (split htoken).1, hexp, fun h => absurd h (by decide), (split htoken).2⟩
  | @session newId _ _ _ _ _ _ _ h =>
      obtain ⟨-, -, -, -, -, hmethod, hexp, -, -, -, htoken⟩ := issue_eq_ok h
      exact ⟨newId "cred", (split htoken).1, hexp, fun _ => hmethod, (split htoken).2⟩

/-- The claims of two payload segments that are one are the same. -/
theorem jsonSegment_injective {claims claims' : Claims} (h : Json.exactFields claims = true)
    (h' : Json.exactFields claims' = true) (he : jsonSegment claims = jsonSegment claims') :
    claims = claims' := by
  have h₁ := decodeJsonSegment_jsonSegment asciiRuntime h
  rw [he, decodeJsonSegment_jsonSegment asciiRuntime h'] at h₁
  exact (Except.ok.inj h₁).symm

theorem decodeSegment_jsonSegment (web : WebRuntime) {claims : Claims}
    (h : Json.exactFields claims = true) : decodeSegment web (jsonSegment claims) = some claims := by
  have hexact : (Json.obj claims).exact = true := by simpa only [Json.exact] using h
  have htext := web.text_ascii _ (Json.dumps_ascii _ hexact)
  have hloads : web.loads (asciiBytes (Json.dumps (.obj claims))) = some (.obj claims) := by
    rw [Runtime.loads, htext, Option.bind_some, Json.loads_dumps _ hexact]
  have hbytes : base64UrlToBytes (jsonSegment claims) =
      some (asciiBytes (Json.dumps (.obj claims))) := by
    rw [base64UrlToBytes, jsonSegment,
      length_codeUnits fun c hc => (encode_lt _ c hc).trans (by decide), Base64.atob_encode]
  rw [decodeSegment, hbytes, Option.bind_some, hloads]

/-! ### What each verifier says of segments the issuer wrote -/

variable {runtime : Runtime} {web : WebRuntime} {token : String} {p : Principal} {jti role : String}
  {iat exp : ℤ} {s : List Char} {now : Time}

/-- The web tier accepts the one spelling it computes. -/
theorem verifySessionToken_issued (hsecret : secret ≠ "")
    (hsplit : token.toList.splitOn '.' =
      [jsonSegment header, jsonSegment (claimsOf p tokenType jti iat exp), s]) :
    verifySessionToken web mac token (some secret) now = .valid role ↔
      (codeUnits token.toList).length ≤ 8192 ∧ tokenType = typeSession ∧
        s = Base64.encode (mac secret (signingInput (jsonSegment header)
          (jsonSegment (claimsOf p tokenType jti iat exp)))) ∧
        now < exp * 1000000 ∧ p.role.value = role := by
  have hne : (codeUnits token.toList).length ≠ 0 := fun h => by
    have hnil : codeUnits token.toList = codeUnits [] := List.length_eq_zero_iff.1 h
    have htoken : [] = token.toList := eq_of_codeUnits (fun c hc => nomatch hc) hnil.symm
    rw [← htoken] at hsplit
    exact absurd hsplit (by simp)
  have hsecret' : (some secret).filter (· != "") = some secret := by simp [hsecret]
  obtain ⟨hexp, -, hrole, -, -, -, htyp, -, -⟩ := lookup_claimsOf p tokenType jti iat exp
  have hequals : constantTimeEquals
      (codeUnits (Base64.encode (mac secret (signingInput (jsonSegment header)
        (jsonSegment (claimsOf p tokenType jti iat exp)))))) (codeUnits s) = true ↔
      s = Base64.encode (mac secret (signingInput (jsonSegment header)
        (jsonSegment (claimsOf p tokenType jti iat exp)))) := by
    rw [constantTimeEquals_iff]
    constructor
    · exact fun h => (eq_of_codeUnits (fun c hc => (encode_lt _ c hc).trans (by decide)) h).symm
    · rintro rfl
      rfl
  unfold verifySessionToken
  rw [hsecret']
  simp only [hsplit, decodeSegment_jsonSegment web (exactFields_claimsOf p tokenType jti iat exp),
    decodeSegment_jsonSegment web (show Json.exactFields header = true from rfl)]
  have halg : Json.lookup header "alg" = some (.str "HS256") := rfl
  simp only [hne, false_or, halg, htyp, hrole, expired?, hexp, ne_eq, not_true_eq_false, if_false]
  have hms : exp * 1000 ≤ now / 1000 ↔ exp * 1000000 ≤ now := by
    have h : ∀ e n : ℤ, e * 1000 ≤ n / 1000 ↔ e * 1000000 ≤ n := fun e n => by omega
    exact h exp now
  by_cases hlen : 8192 < (codeUnits token.toList).length
  · rw [if_pos hlen]
    exact ⟨nofun, fun h => absurd h.1 (by omega)⟩
  rw [if_neg hlen]
  by_cases hty : tokenType = typeSession
  · have htyp' : ¬(¬some (Json.str tokenType) = some (Json.str "session")) := by
      rw [hty]
      exact not_not.2 rfl
    rw [if_neg htyp']
    by_cases hsig : s = Base64.encode (mac secret (signingInput (jsonSegment header)
        (jsonSegment (claimsOf p tokenType jti iat exp))))
    · rw [hequals.2 hsig, Bool.not_true, if_neg Bool.false_ne_true]
      by_cases hlate : exp * 1000 ≤ now / 1000
      · rw [decide_eq_true hlate]
        exact ⟨nofun, fun h => absurd h.2.2.2.1 (not_lt.2 (hms.1 hlate))⟩
      · rw [decide_eq_false hlate]
        simp only [TokenVerdict.valid.injEq]
        exact ⟨fun h => ⟨not_lt.1 hlen, hty, hsig, not_le.1 fun h => hlate (hms.2 h), h⟩,
          fun h => h.2.2.2.2⟩
    · have hfalse := Bool.eq_false_iff.2 fun h => hsig (hequals.1 h)
      rw [hfalse, Bool.not_false, if_pos rfl]
      exact ⟨nofun, fun h => absurd h.2.2.1 hsig⟩
  · have htyp' : ¬some (Json.str tokenType) = some (Json.str "session") := fun h =>
      hty (Json.str.inj (Option.some.inj h))
    rw [if_pos htyp']
    exact ⟨nofun, fun h => absurd h.2.1 hty⟩

/-- The API accepts every spelling that decodes to the signature it computes. -/
theorem principalFromSessionToken_issued (hsecret : secret ≠ "")
    (hexpires : p.expiresAt = some exp) (hmethod : tokenType = typeSession → p.method = .session)
    (hsplit : token.toList.splitOn '.' =
      [jsonSegment header, jsonSegment (claimsOf p tokenType jti iat exp), s]) :
    (∃ q, principalFromSessionToken runtime mac token secret now = .ok q ∧ q.role.value = role) ↔
      token.length ≤ maxTokenLength ∧ isSegment s = true ∧
        b64urlDecode s = some (mac secret (signingInput (jsonSegment header)
          (jsonSegment (claimsOf p tokenType jti iat exp)))) ∧
        tokenType = typeSession ∧ now < exp * 1000000 ∧
        (iat - clockSkewSeconds) * 1000000 ≤ now ∧ p.role.value = role := by
  have hne : token ≠ "" := by
    rintro rfl
    exact absurd hsplit (by simp)
  obtain ⟨hexp, hiat, -, -, -, -, htyp, -, -⟩ := lookup_claimsOf p tokenType jti iat exp
  rw [principalFromSessionToken, principalFrom, decodeSignedToken, if_neg hsecret, if_neg hne,
    hsplit]
  dsimp only
  rw [jsonSegment_isSegment, jsonSegment_isSegment, Bool.true_and, Bool.true_and,
    verifySegments_jsonSegment (exactFields_claimsOf p tokenType jti iat exp)]
  by_cases hlen : maxTokenLength < token.length
  · rw [if_pos hlen]
    exact ⟨by rintro ⟨_, ⟨⟩, -⟩, fun h => absurd h.1 (by omega)⟩
  rw [if_neg hlen]
  cases hseg : isSegment s with
  | false => exact ⟨by rintro ⟨_, ⟨⟩, -⟩, fun h => absurd h.2.1 Bool.false_ne_true⟩
  | true =>
    rw [if_pos rfl]
    cases hsig : b64urlDecode s with
    | none => exact ⟨by rintro ⟨_, ⟨⟩, -⟩, fun h => by cases h.2.2.1⟩
    | some presented =>
      dsimp only
      by_cases hmac : mac secret (signingInput (jsonSegment header)
          (jsonSegment (claimsOf p tokenType jti iat exp))) = presented
      · rw [if_neg (not_not.2 hmac)]
        unfold checkClaims
        rw [htyp]
        by_cases hty : tokenType = typeSession
        · have hclaims := principalFromClaims_claimsOf p tokenType jti iat exp hexpires
          rw [hmethod hty] at hclaims
          rw [if_neg (not_not.2 (congrArg (fun x => some (Json.str x)) hty))]
          simp only [intClaim, hexp, hiat]
          by_cases hlate : exp * 1000000 ≤ now
          · rw [if_pos hlate]
            exact ⟨by rintro ⟨_, ⟨⟩, -⟩, fun h => absurd h.2.2.2.2.1 (not_lt.2 hlate)⟩
          rw [if_neg hlate]
          by_cases hearly : now < (iat - clockSkewSeconds) * 1000000
          · rw [if_pos hearly]
            exact ⟨by rintro ⟨_, ⟨⟩, -⟩, fun h => absurd h.2.2.2.2.2.1 (not_le.2 hearly)⟩
          rw [if_neg hearly]
          dsimp only
          rw [hclaims]
          constructor
          · rintro ⟨q, hq, hr⟩
            obtain rfl := Except.ok.inj hq
            exact ⟨not_lt.1 hlen, trivial, congrArg some hmac.symm, hty, not_le.1 hlate,
              not_lt.1 hearly, hr⟩
          · exact fun h => ⟨p, rfl, h.2.2.2.2.2.2⟩
        · rw [if_pos fun h => hty (Json.str.inj (Option.some.inj h))]
          exact ⟨by rintro ⟨_, ⟨⟩, -⟩, fun h => absurd h.2.2.2.1 hty⟩
      · rw [if_pos hmac]
        exact ⟨by rintro ⟨_, ⟨⟩, -⟩, fun h => absurd (Option.some.inj h.2.2.1).symm hmac⟩

/-! ### Strings whose signature verifies -/

/-- The API has verified the signature of a token it accepts. -/
theorem verified_of_principal {q : Principal}
    (h : principalFromSessionToken runtime mac token secret now = .ok q) :
    ∃ h p s, token.toList.splitOn '.' = [h, p, s] ∧
      b64urlDecode s = some (mac secret (signingInput h p)) := by
  unfold principalFromSessionToken principalFrom at h
  cases hd : decodeSignedToken runtime mac token secret typeSession now with
  | error e =>
      rw [hd] at h
      exact nomatch h
  | ok claims =>
      unfold decodeSignedToken at hd
      split_ifs at hd
      split at hd
      · next hs ps ss hsplit =>
          split_ifs at hd
          refine ⟨hs, ps, ss, hsplit, ?_⟩
          unfold verifySegments at hd
          split at hd
          · exact nomatch hd
          · next presented hsig =>
              split_ifs at hd with hmac
              rw [hsig, ← not_not.1 hmac]
      · exact nomatch hd

/-- So has the web tier. -/
theorem verified_of_valid (h : verifySessionToken web mac token (some secret) now = .valid role) :
    ∃ h p s, token.toList.splitOn '.' = [h, p, s] ∧
      b64urlDecode s = some (mac secret (signingInput h p)) := by
  unfold verifySessionToken at h
  cases hsecret : (some secret).filter (· != "") with
  | none =>
      rw [hsecret] at h
      exact nomatch h
  | some secret' =>
      have hsame : secret' = secret :=
        (Option.some.inj (Option.filter_eq_some_iff.1 hsecret).1).symm
      rw [hsecret, hsame] at h
      dsimp only at h
      split_ifs at h
      split at h
      · next hs ps ss hsplit =>
          refine ⟨hs, ps, ss, hsplit, ?_⟩
          split at h
          · split_ifs at h with _ _ hequals
            have heq := constantTimeEquals_iff.1 (by simpa using hequals)
            rw [← eq_of_codeUnits (fun c hc => (encode_lt _ c hc).trans (by decide)) heq,
              b64urlDecode_encode]
          · exact nomatch h
      · exact nomatch h

/-- Two issued tokens of one payload are of one type, one date and one expiry. -/
theorem Issued.eq_of_payload {tokenType' : String} {issuedAt' : Time} {t' : IssuedToken}
    {h₁ s₁ : List Char} (h : Issued mac secret tokenType' issuedAt' t')
    (hsplit : t'.token.toList.splitOn '.' =
      [h₁, jsonSegment (claimsOf p tokenType jti iat exp), s₁]) :
    tokenType' = tokenType ∧ t'.expiresAt = exp ∧ seconds issuedAt' = iat ∧
      s₁ = Base64.encode (mac secret (signingInput (jsonSegment header)
        (jsonSegment (claimsOf p tokenType jti iat exp)))) := by
  obtain ⟨jti', -, -, -, hsplit'⟩ := h.splitOn
  rw [hsplit'] at hsplit
  simp only [List.cons.injEq, and_true] at hsplit
  obtain ⟨-, hpayload, hsig⟩ := hsplit
  have hclaims := jsonSegment_injective (exactFields_claimsOf ..) (exactFields_claimsOf ..) hpayload
  obtain ⟨hexp, hiat, -, -, -, -, htyp, -, -⟩ := lookup_claimsOf p tokenType jti iat exp
  obtain ⟨hexp', hiat', -, -, -, -, htyp', -, -⟩ := lookup_claimsOf t'.principal tokenType' jti'
    (seconds issuedAt') t'.expiresAt
  rw [hclaims] at hexp' hiat' htyp'
  rw [hclaims] at hsig
  exact ⟨Json.str.inj (Option.some.inj (htyp'.symm.trans htyp)),
    Json.int.inj (Option.some.inj (hexp'.symm.trans hexp)),
    Json.int.inj (Option.some.inj (hiat'.symm.trans hiat)), hsig.symm⟩

/-- A string is what its segments say. -/
theorem eq_of_splitOn {a b : String} (h : a.toList.splitOn '.' = b.toList.splitOn '.') : a = b := by
  have ha := @List.intercalate_splitOn _ a.toList _ _ '.'
  rw [h, List.intercalate_splitOn] at ha
  exact (String.toList_inj.1 ha).symm

/-- The code units of an issued token are its characters. -/
theorem length_codeUnits_issued (h : Issued mac secret tokenType issuedAt t) :
    (codeUnits t.token.toList).length = t.token.length := by
  obtain ⟨jti, -, -, -, hsplit⟩ := h.splitOn
  have htoken := @List.intercalate_splitOn _ t.token.toList _ _ '.'
  rw [hsplit] at htoken
  rw [length_codeUnits, String.length_toList]
  rw [← htoken]
  intro c hc
  simp only [List.intercalate, List.intersperse_cons_cons, List.intersperse_singleton,
    List.flatten_cons, List.flatten_nil, List.append_nil, List.mem_append, List.mem_singleton] at hc
  rcases hc with hc | rfl | hc | rfl | hc
  · exact (encode_lt _ c hc).trans (by decide)
  · decide
  · exact (encode_lt _ c hc).trans (by decide)
  · decide
  · exact (encode_lt _ c hc).trans (by decide)

/-! ### Where they differ -/

section

variable {h₀ p₀ : List Char} (hissued : Issued mac secret tokenType issuedAt t)
  (hsigned : t.token.toList.splitOn '.' =
    [h₀, p₀, Base64.encode (mac secret (signingInput h₀ p₀))])
  (hsplit : token.toList.splitOn '.' = [h₀, p₀, s])
include hissued hsigned hsplit

/-- What the API says of a token of the issuer under any signature. -/
theorem principal_iff :
    (∃ q, principalFromSessionToken runtime mac token secret now = .ok q ∧ q.role.value = role) ↔
      token.length ≤ maxTokenLength ∧ isSegment s = true ∧
        b64urlDecode s = some (mac secret (signingInput h₀ p₀)) ∧
        tokenType = typeSession ∧ now < t.expiresAt * 1000000 ∧
        (seconds issuedAt - clockSkewSeconds) * 1000000 ≤ now ∧
        t.principal.role.value = role := by
  obtain ⟨jti, hsecret, hexpires, hmethod, hsegments⟩ := hissued.splitOn
  rw [hsegments] at hsigned
  simp only [List.cons.injEq, and_true] at hsigned
  obtain ⟨rfl, rfl, -⟩ := hsigned
  exact principalFromSessionToken_issued hsecret hexpires hmethod hsplit

/-- What the web tier says of it. -/
theorem valid_iff :
    verifySessionToken web mac token (some secret) now = .valid role ↔
      (codeUnits token.toList).length ≤ 8192 ∧ tokenType = typeSession ∧
        s = Base64.encode (mac secret (signingInput h₀ p₀)) ∧
        now < t.expiresAt * 1000000 ∧ t.principal.role.value = role := by
  obtain ⟨jti, hsecret, -, -, hsegments⟩ := hissued.splitOn
  rw [hsegments] at hsigned
  simp only [List.cons.injEq, and_true] at hsigned
  obtain ⟨rfl, rfl, -⟩ := hsigned
  exact verifySessionToken_issued hsecret hsplit

theorem datedAhead_iff :
    DatedAhead runtime token now ↔ now < (seconds issuedAt - clockSkewSeconds) * 1000000 := by
  obtain ⟨jti, -, -, -, hsegments⟩ := hissued.splitOn
  rw [hsegments] at hsigned
  simp only [List.cons.injEq, and_true] at hsigned
  obtain ⟨rfl, rfl, -⟩ := hsigned
  have hclaims := decodeJsonSegment_jsonSegment runtime
    (exactFields_claimsOf t.principal tokenType jti (seconds issuedAt) t.expiresAt)
  obtain ⟨-, hiat, -⟩ :=
    lookup_claimsOf t.principal tokenType jti (seconds issuedAt) t.expiresAt
  constructor
  · rintro ⟨h, p, s', claims, date, hs, hd, hi, hlt⟩
    rw [hsplit] at hs
    simp only [List.cons.injEq, and_true] at hs
    obtain ⟨rfl, rfl, rfl⟩ := hs
    rw [hclaims] at hd
    obtain rfl := Except.ok.inj hd
    rw [hiat] at hi
    obtain rfl := Json.int.inj (Option.some.inj hi)
    exact hlt
  · exact fun hlt => ⟨_, _, _, _, _, hsplit, hclaims, hiat, hlt⟩

/-- Tokens of the issuer with these segments are one token. -/
theorem Issued.same {tokenType' : String} {issuedAt' : Time} {t' : IssuedToken} {h₁ s₁ : List Char}
    (h : Issued mac secret tokenType' issuedAt' t')
    (hs : t'.token.toList.splitOn '.' = [h₁, p₀, s₁]) :
    tokenType' = tokenType ∧ t'.expiresAt = t.expiresAt ∧ seconds issuedAt' = seconds issuedAt ∧
      s₁ = Base64.encode (mac secret (signingInput h₀ p₀)) := by
  obtain ⟨jti, -, -, -, hsegments⟩ := hissued.splitOn
  rw [hsegments] at hsigned
  simp only [List.cons.injEq, and_true] at hsigned
  obtain ⟨rfl, rfl, -⟩ := hsigned
  exact h.eq_of_payload hs

/-- Every signature on these segments is genuine. -/
theorem genuine_of_issued : Genuine mac secret token := by
  intro h p s' hs _
  rw [hsplit] at hs
  simp only [List.cons.injEq, and_true] at hs
  obtain ⟨rfl, rfl, rfl⟩ := hs
  exact ⟨tokenType, issuedAt, t, hissued, hsigned⟩

theorem respelled_iff :
    Respelled mac secret token now ↔
      token.length ≤ maxTokenLength ∧ tokenType = typeSession ∧ now < t.expiresAt * 1000000 ∧
        (seconds issuedAt - clockSkewSeconds) * 1000000 ≤ now ∧
        s ≠ Base64.encode (mac secret (signingInput h₀ p₀)) ∧ isSegment s = true ∧
        b64urlDecode s = some (mac secret (signingInput h₀ p₀)) := by
  constructor
  · rintro ⟨hlen, t', h, p, s₁, s', ⟨issuedAt', hissued', hlive, hdated⟩, hs₁, hs', hne, hseg,
      hdec⟩
    rw [hsplit] at hs'
    simp only [List.cons.injEq, and_true] at hs'
    obtain ⟨rfl, rfl, rfl⟩ := hs'
    obtain ⟨rfl, hexp, hiat, rfl⟩ := Issued.same hissued hsigned hsplit hissued' hs₁
    rw [hexp] at hlive
    rw [hiat] at hdated
    rw [b64urlDecode_encode] at hdec
    exact ⟨hlen, rfl, hlive, hdated, hne, hseg, hdec⟩
  · rintro ⟨hlen, rfl, hlive, hdated, hne, hseg, hdec⟩
    exact ⟨hlen, t, _, _, _, s, ⟨issuedAt, hissued, hlive, hdated⟩, hsigned, hsplit, hne, hseg,
      by rw [hdec, b64urlDecode_encode]⟩

theorem oversized_iff :
    Oversized mac secret token now ↔
      maxTokenLength < token.length ∧ token.length ≤ 8192 ∧ tokenType = typeSession ∧
        now < t.expiresAt * 1000000 ∧ (seconds issuedAt - clockSkewSeconds) * 1000000 ≤ now ∧
        s = Base64.encode (mac secret (signingInput h₀ p₀)) := by
  constructor
  · rintro ⟨hlong, hshort, t', ⟨issuedAt', hissued', hlive, hdated⟩, rfl⟩
    obtain ⟨rfl, hexp, hiat, rfl⟩ := Issued.same hissued hsigned hsplit hissued' hsplit
    rw [hexp] at hlive
    rw [hiat] at hdated
    exact ⟨hlong, hshort, rfl, hlive, hdated, rfl⟩
  · rintro ⟨hlong, hshort, rfl, hlive, hdated, rfl⟩
    exact ⟨hlong, hshort, t, ⟨issuedAt, hissued, hlive, hdated⟩,
      eq_of_splitOn (hsigned.trans hsplit.symm)⟩

end

/-- **When the two verifiers agree** on a string whose signature is genuine: unless it is a live
session token under another spelling of its signature, or one that only the web tier has room
for. -/
theorem verifiers_agree_iff (runtime : Runtime) (web : WebRuntime) (mac : Mac)
    (secret token : String) (now : Time) (hgenuine : Genuine mac secret token) :
    VerifiersAgree runtime web mac secret token now ↔
      ¬Respelled mac secret token now ∧ ¬Oversized mac secret token now := by
  by_cases hverifies : ∃ h p s, token.toList.splitOn '.' = [h, p, s] ∧
      b64urlDecode s = some (mac secret (signingInput h p))
  · obtain ⟨h, p, s, hsplit, hdec⟩ := hverifies
    obtain ⟨tokenType, issuedAt, t, hissued, hsigned⟩ := hgenuine h p s hsplit hdec
    unfold VerifiersAgree
    simp only [principal_iff hissued hsigned hsplit, valid_iff hissued hsigned hsplit,
      datedAhead_iff hissued hsigned hsplit, respelled_iff hissued hsigned hsplit,
      oversized_iff hissued hsigned hsplit, hdec]
    have hcanonical : s = Base64.encode (mac secret (signingInput h p)) →
        isSegment s = true ∧ (codeUnits token.toList).length = token.length := by
      rintro rfl
      rw [← eq_of_splitOn (hsigned.trans hsplit.symm)]
      exact ⟨encode_isSegment _, length_codeUnits_issued hissued⟩
    have hmax : maxTokenLength ≤ 8192 := by decide
    constructor
    · intro hagree
      refine ⟨?_, ?_⟩
      · rintro ⟨hlen, hty, hlive, hdated, hne, hseg, -⟩
        exact hne ((hagree _).2 ⟨hlen, hseg, trivial, hty, hlive, hdated, rfl⟩).2.2.1
      · rintro ⟨hlong, hshort, hty, hlive, hdated, hs⟩
        rcases (hagree _).1 ⟨(hcanonical hs).2.trans_le hshort, hty, hs, hlive, rfl⟩ with
          ⟨hlen, -⟩ | hahead
        · exact absurd hlen (not_le.2 hlong)
        · exact absurd hahead (not_lt.2 hdated)
    · rintro ⟨hspelled, hsized⟩ role
      refine ⟨?_, ?_⟩
      · rintro ⟨hlen, hty, hs, hlive, hrole⟩
        rw [(hcanonical hs).2] at hlen
        rcases lt_or_ge now ((seconds issuedAt - clockSkewSeconds) * 1000000) with hahead | hdated
        · exact .inr hahead
        · refine .inl ⟨?_, (hcanonical hs).1, trivial, hty, hlive, hdated, hrole⟩
          exact not_lt.1 fun hlong => hsized ⟨hlong, hlen, hty, hlive, hdated, hs⟩
      · rintro ⟨hlen, hseg, -, hty, hlive, hdated, hrole⟩
        have hs : s = Base64.encode (mac secret (signingInput h p)) :=
          not_not.1 fun hne => hspelled ⟨hlen, hty, hlive, hdated, hne, hseg, trivial⟩
        exact ⟨(hcanonical hs).2.trans_le (hlen.trans hmax), hty, hs, hlive, hrole⟩
  · -- a string whose signature verifies nowhere is refused by both
    refine ⟨fun _ => ⟨?_, ?_⟩, fun _ role => ⟨fun h => ?_, ?_⟩⟩
    · rintro ⟨-, t, h, p, s, s', ⟨issuedAt, hissued, -, -⟩, hs, hs', -, -, hdec⟩
      obtain ⟨jti, -, -, -, hsegments⟩ := hissued.splitOn
      rw [hsegments] at hs
      simp only [List.cons.injEq, and_true] at hs
      obtain ⟨rfl, rfl, rfl⟩ := hs
      exact hverifies ⟨_, _, s', hs', by rw [hdec, b64urlDecode_encode]⟩
    · rintro ⟨-, -, t, ⟨issuedAt, hissued, -, -⟩, rfl⟩
      obtain ⟨jti, -, -, -, hsegments⟩ := hissued.splitOn
      exact hverifies ⟨_, _, _, hsegments, b64urlDecode_encode _⟩
    · exact absurd (verified_of_valid h) hverifies
    · rintro ⟨q, hq, -⟩
      exact absurd (verified_of_principal hq) hverifies

/-! A session of an operator, under a MAC of thirty-two bytes. -/

def zeroMac : Mac := fun _ _ => List.replicate 32 0

def demoWeb : WebRuntime := { asciiRuntime with floatExpired := fun _ _ => true }

def demoSession : Except Failure IssuedToken :=
  issueSessionToken zeroMac id "session" "op" .merchantAdmin "m" 3600 none 0

/-- What the session says, and what of it is signed. -/
def demoClaims : Claims :=
  [("exp", .int 3600), ("iat", .int 0), ("jti", .str "cred"), ("role", .str "merchant_admin"),
    ("scopes", .arr ((Scope.sorted Role.merchantAdmin.scopes).map .str)), ("sub", .str "op"),
    ("tenant", .str "m"), ("typ", .str "session")]

def demoInput : List Char := signingInput (jsonSegment header) (jsonSegment demoClaims)

/-- The signature under another spelling: of its last character four bits are used. -/
def respelledSignature : List Char := List.replicate 42 'A' ++ ['B']

/-- The session of the example under the respelled signature. -/
def respelledSession : String := String.ofList (demoInput ++ '.' :: respelledSignature)

theorem demoSession_issued : ∃ t, demoSession = .ok t ∧ t.expiresAt = 3600 ∧
    t.principal.role = .merchantAdmin ∧
    Issued zeroMac "session" typeSession 0 t ∧
    t.token.toList.splitOn '.' = [jsonSegment header, jsonSegment demoClaims,
      Base64.encode (zeroMac "session" demoInput)] := by
  have hrun : isOk demoSession = true := by decide
  cases hdemo : demoSession with
  | error e =>
      rw [hdemo] at hrun
      exact nomatch hrun
  | ok t =>
      have hissue := hdemo
      unfold demoSession issueSessionToken at hissue
      obtain ⟨hsub, hrole, htenant, hbuyer, hscopes, -, -, hclient, hexp, -, htoken⟩ :=
        issue_eq_ok hissue
      have hclaims : claimsOf t.principal typeSession (id "cred") (seconds 0) t.expiresAt =
          demoClaims := by
        rw [claimsOf, hbuyer, hclient, hrole, hscopes, hsub, htenant, hexp]
        rfl
      rw [hclaims] at htoken
      have hspelled : String.ofList (demoInput ++ '.' :: Base64.encode (zeroMac "session"
          demoInput)) = t.token := Except.ok.inj htoken
      exact ⟨t, rfl, hexp, hrole, .session hdemo, by
        rw [← hspelled, String.toList_ofList]
        exact splitOn_segments (dot_not_mem_jsonSegment _) (dot_not_mem_jsonSegment _)
          (dot_not_mem_encode _)⟩

theorem session_verifiers_agree : ∃ t, demoSession = .ok t ∧
    (VerifiersAgree asciiRuntime demoWeb zeroMac "session" t.token 1000000 ↔
      ¬Respelled zeroMac "session" t.token 1000000 ∧
        ¬Oversized zeroMac "session" t.token 1000000) := by
  obtain ⟨t, hdemo, -, -, hissued, hsigned⟩ := demoSession_issued
  exact ⟨t, hdemo, verifiers_agree_iff asciiRuntime demoWeb zeroMac "session" t.token 1000000
    (genuine_of_issued hissued hsigned hsigned)⟩

/-- The session under the respelled signature passes the API and not the edge. -/
theorem respelled_session_disagrees :
    Genuine zeroMac "session" respelledSession ∧
      ¬VerifiersAgree asciiRuntime demoWeb zeroMac "session" respelledSession 1000000 := by
  obtain ⟨t, -, hexp, hrole, hissued, hsigned⟩ := demoSession_issued
  have hsplit : respelledSession.toList.splitOn '.' =
      [jsonSegment header, jsonSegment demoClaims, respelledSignature] := by
    rw [respelledSession, String.toList_ofList]
    exact splitOn_segments (dot_not_mem_jsonSegment _) (dot_not_mem_jsonSegment _) (by decide)
  have hlen : respelledSession.length ≤ maxTokenLength := by
    rw [respelledSession, String.length_ofList]
    decide +kernel
  have hdecodes : b64urlDecode respelledSignature = some (List.replicate 32 0) := by
    decide
  refine ⟨genuine_of_issued hissued hsigned hsplit, fun hagree => ?_⟩
  have hprincipal := (@principal_iff _ _ _ _ _ asciiRuntime _ "merchant_admin" _ 1000000 _ _
    hissued hsigned hsplit).2
    ⟨hlen, by decide, hdecodes, rfl, by rw [hexp]; decide, by decide, by rw [hrole]; rfl⟩
  have hvalid := (hagree _).2 hprincipal
  have hspelling := ((valid_iff hissued hsigned hsplit).1 hvalid).2.2.1
  exact absurd hspelling (by decide)

end

end Access
end AgenticCommerce
