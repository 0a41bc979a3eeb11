/-
# One token for each payload

Whether a text that the decoder accepts is the one that the encoder writes for what was decoded.
The decoder is tolerant in three places: the last character of a segment has bits that no byte
holds, a segment may end in a line feed, and any JSON that says the same is read alike.  A token
without these liberties is the only one for its payload (`accepted_canonical_iff`); one whose
signature ends in another character is accepted all the same (`respelled_token_accepted`).
-/

import AgenticCommerce.Access.Issued

namespace AgenticCommerce
namespace Access

/-- `encode_signed_token` of decoded claims, whose keys it sorts. -/
def reencode (mac : Mac) (claims : Claims) (secret : String) : Except Failure String :=
  encodeSignedToken mac (Json.sortFields claims) secret

/-- What is accepted is what the encoder writes for what was decoded. -/
def Unmalleable (runtime : Runtime) (mac : Mac) (token secret tokenType : String) (now : Time) :
    Prop :=
  ∀ claims, decodeSignedToken runtime mac token secret tokenType now = .ok claims →
    reencode mac claims secret = .ok token

/-- A segment in the alphabet alone, whose last character has no stray bits. -/
def Tight (segment : List Char) : Prop :=
  segment.all isSegmentChar = true ∧ Base64.trimmed (Base64.groups segment) = true

/-- A segment whose bytes spell an object as `_json_segment` writes it. -/
def SpellsCompactly (runtime : Runtime) (segment : List Char) : Prop :=
  ∃ raw items, b64urlDecode segment = some raw ∧ runtime.loads raw = some (.obj items) ∧
    raw = asciiBytes (Json.dumps (.obj (Json.sortFields items)))

/-- A segment whose bytes spell the header of the issuer. -/
def SpellsHeader (segment : List Char) : Prop :=
  b64urlDecode segment = some (asciiBytes (Json.dumps (.obj header)))

/-- A token that takes no liberty. -/
structure Canonical (runtime : Runtime) (token : String) : Prop where
  tight : ∀ segment ∈ token.toList.splitOn '.', Tight segment
  header : ∀ segment ∈ (token.toList.splitOn '.')[0]?, SpellsHeader segment
  payload : ∀ segment ∈ (token.toList.splitOn '.')[1]?, SpellsCompactly runtime segment

/-! ### Segments -/

/-- Every character of the alphabet is a digit. -/
theorem exists_digit {c : Char} (h : isSegmentChar c = true) : ∃ v < 64, Base64.digit v = c := by
  have hascii : ∀ n < 128, isSegmentChar (Char.ofNat n) = true →
      ∃ v < 64, Base64.digit v = Char.ofNat n := by decide +kernel
  have hc : Char.ofNat c.toNat = c := Char.ofNat_toNat c
  obtain ⟨v, hv, hdigit⟩ := hascii c.toNat (toNat_lt_of_isSegmentChar h) (by rwa [hc])
  exact ⟨v, hv, hdigit.trans hc⟩

/-- A text of the alphabet is written with digits. -/
theorem exists_digits {segment : List Char} (h : segment.all isSegmentChar = true) :
    ∃ vs : List ℕ, (∀ v ∈ vs, v < 64) ∧ vs.map Base64.digit = segment := by
  induction segment with
  | nil => exact ⟨[], nofun, rfl⟩
  | cons c segment ih =>
      rw [List.all_cons, Bool.and_eq_true] at h
      obtain ⟨v, hv, hc⟩ := exists_digit h.1
      obtain ⟨vs, hvs, hsegment⟩ := ih h.2
      refine ⟨v :: vs, fun w hw => ?_, by rw [List.map_cons, hc, hsegment]⟩
      rcases List.mem_cons.1 hw with rfl | hw
      · exact hv
      · exact hvs w hw

/-- **A tight segment is the text of its bytes**, and no other segment is. -/
theorem tight_iff {segment : List Char} {raw : List UInt8}
    (h : b64urlDecode segment = some raw) : Tight segment ↔ segment = Base64.encode raw := by
  constructor
  · rintro ⟨hchars, htrimmed⟩
    obtain ⟨vs, hvs, rfl⟩ := exists_digits hchars
    rw [b64urlDecode, List.length_map] at h
    rw [Base64.groups_digits hvs] at htrimmed
    exact (Base64.eq_encode_iff hvs h).2 htrimmed
  · rintro rfl
    refine ⟨List.all_eq_true.2 (encode_isSegmentChar raw), ?_⟩
    rw [Base64.encode, Base64.groups_digits (Base64.sextets_lt raw)]
    exact Base64.trimmed_sextets raw

section

variable {runtime : Runtime} {mac : Mac} {token secret tokenType : String} {now : Time}
  {claims : Claims}

/-- A token is its three segments. -/
theorem eq_of_segments {h p s : List Char} (hsplit : token.toList.splitOn '.' = [h, p, s]) :
    String.ofList (signingInput h p ++ '.' :: s) = token := by
  have hjoin := @List.intercalate_splitOn _ token.toList _ _ '.'
  rw [hsplit] at hjoin
  have hlist : signingInput h p ++ '.' :: s = token.toList := by
    rw [← hjoin, signingInput]
    simp [List.intercalate]
  rw [hlist, String.ofList_toList]

/-- What is accepted and takes no liberty is what the encoder writes. -/
theorem Canonical.reencode
    (hdecode : decodeSignedToken runtime mac token secret tokenType now = .ok claims)
    (hcanonical : Canonical runtime token) : reencode mac claims secret = .ok token := by
  have hsecret : secret ≠ "" := fun hempty => by
    rw [decodeSignedToken, if_pos hempty] at hdecode
    cases hdecode
  obtain ⟨h, p, s, hsplit, -, hsigned, hclaims, -⟩ := decodeSignedToken_eq_ok hdecode
  have htight := hcanonical.tight
  have hheader := hcanonical.header
  have hpayload := hcanonical.payload
  rw [hsplit] at htight hheader hpayload
  have hspells : SpellsHeader h := hheader h rfl
  obtain ⟨raw, items, hraw, hloads, hcompact⟩ := hpayload p rfl
  have hitems : items = claims := by
    rw [decodeJsonSegment, hraw, Option.bind_some, hloads] at hclaims
    exact Except.ok.inj hclaims
  subst hitems
  have hh : h = jsonSegment Access.header :=
    (tight_iff hspells).1 (htight h List.mem_cons_self)
  have hp : p = jsonSegment (Json.sortFields items) := by
    have hencoded := (tight_iff hraw).1 (htight p (List.mem_cons_of_mem _ List.mem_cons_self))
    rwa [hcompact] at hencoded
  have hs : s = Base64.encode (mac secret (signingInput h p)) :=
    (tight_iff hsigned).1 (htight s (by simp))
  rw [Access.reencode, encodeSignedToken, if_neg hsecret, ← hh, ← hp]
  show Except.ok (String.ofList (signingInput h p ++ '.' ::
    Base64.encode (mac secret (signingInput h p)))) = _
  rw [← hs, eq_of_segments hsplit]

/-- What the encoder writes takes no liberty. -/
theorem canonical_of_reencode
    (hdecode : decodeSignedToken runtime mac token secret tokenType now = .ok claims)
    (h : Access.reencode mac claims secret = .ok token) : Canonical runtime token := by
  rw [Access.reencode, encodeSignedToken] at h
  split_ifs at h with hsecret
  have htoken := Except.ok.inj h
  have hsplit : token.toList.splitOn '.' = [jsonSegment header,
      jsonSegment (Json.sortFields claims), Base64.encode (mac secret (signingInput
        (jsonSegment header) (jsonSegment (Json.sortFields claims))))] := by
    rw [← htoken, String.toList_ofList]
    exact splitOn_segments (dot_not_mem_jsonSegment _) (dot_not_mem_jsonSegment _)
      (dot_not_mem_encode _)
  obtain ⟨head, payload, signature, hsplit', -, -, hclaims, -⟩ := decodeSignedToken_eq_ok hdecode
  have hsegments := hsplit.symm.trans hsplit'
  rw [List.cons.injEq, List.cons.injEq] at hsegments
  obtain rfl := hsegments.2.1
  refine ⟨?_, ?_, ?_⟩
  · intro segment hsegment
    rw [hsplit] at hsegment
    have hencoded : ∃ raw, segment = Base64.encode raw := by
      rcases List.mem_cons.1 hsegment with rfl | hsegment
      · exact ⟨_, rfl⟩
      · rcases List.mem_cons.1 hsegment with rfl | hsegment
        · exact ⟨_, rfl⟩
        · exact ⟨_, List.mem_singleton.1 hsegment⟩
    obtain ⟨raw, rfl⟩ := hencoded
    exact (tight_iff (b64urlDecode_encode raw)).2 rfl
  · intro segment hsegment
    rw [hsplit] at hsegment
    obtain rfl := Option.some.inj hsegment
    exact b64urlDecode_encode _
  · intro segment hsegment
    rw [hsplit] at hsegment
    obtain rfl := Option.some.inj hsegment
    refine ⟨_, claims, b64urlDecode_encode _, ?_, rfl⟩
    rw [decodeJsonSegment, jsonSegment, b64urlDecode_encode, Option.bind_some] at hclaims
    split at hclaims
    · rename_i items hloads
      obtain rfl := Except.ok.inj hclaims
      exact hloads
    · cases hclaims

/-- **An accepted token is the encoder's exactly when it takes no liberty**, and there is one such
token for a payload. -/
theorem accepted_canonical_iff (runtime : Runtime) (mac : Mac) (secret tokenType : String)
    (now : Time) :
    (∀ token, Unmalleable runtime mac token secret tokenType now ↔
      (isOk (decodeSignedToken runtime mac token secret tokenType now) = true →
        Canonical runtime token)) ∧
    ∀ token token' claims, Canonical runtime token → Canonical runtime token' →
      decodeSignedToken runtime mac token secret tokenType now = .ok claims →
      decodeSignedToken runtime mac token' secret tokenType now = .ok claims → token = token' := by
  refine ⟨fun token => ⟨fun h haccepted => ?_, fun h claims hdecode => ?_⟩, ?_⟩
  · cases hdecode : decodeSignedToken runtime mac token secret tokenType now with
    | error e =>
        rw [hdecode] at haccepted
        exact absurd haccepted Bool.false_ne_true
    | ok claims => exact canonical_of_reencode hdecode (h claims hdecode)
  · exact (h (by rw [hdecode]; rfl)).reencode hdecode
  · intro token token' claims hcanonical hcanonical' hdecode hdecode'
    exact Except.ok.inj ((hcanonical.reencode hdecode).symm.trans (hcanonical'.reencode hdecode'))

end

/-! ### Another last character -/

section

/-- The header and the payload of a token without a principal. -/
private def plainSegments : List Char :=
  "eyJhbGciOiJIUzI1NiIsInR5cCI6IkpXVCJ9.eyJleHAiOjM2MDAsImlhdCI6MCwidHlwIjoiYWNjZXNzIn0".toList

/-- HMAC-SHA256 of this message under the key `secret`. -/
private def plainMac : Mac := fun _ _ =>
  [198, 197, 140, 208, 189, 189, 98, 56, 254, 1, 83, 4, 44, 201, 138, 90, 206, 84, 33, 242, 26, 116,
    83, 132, 37, 18, 30, 115, 119, 14, 128, 46]

/-- The token that is issued, if the last character is `4`, and its other spellings. -/
private def plainToken (last : Char) : String :=
  String.ofList (plainSegments ++ ".xsWM0L29Yjj-AVMELMmKWs5UIfIadFOEJRIec3cOgC".toList ++ [last])

/-- The claims of the token. -/
private def plainClaims : Claims := [("exp", .int 3600), ("iat", .int 0), ("typ", .str typeAccess)]

/-- **A second token for one payload** is accepted: the last character of a signature of 32 bytes
holds two bits that nobody reads. -/
theorem respelled_token_accepted :
    decodeSignedToken asciiRuntime plainMac (plainToken '5') "secret" typeAccess 0 =
      .ok plainClaims ∧
    (reencode plainMac plainClaims "secret").toOption = some (plainToken '4') ∧
    ¬Unmalleable asciiRuntime plainMac (plainToken '5') "secret" typeAccess 0 := by
  have haccepted : (decodeSignedToken asciiRuntime plainMac (plainToken '5') "secret" typeAccess
      0).toOption = some plainClaims := by decide +kernel
  have hdecode : decodeSignedToken asciiRuntime plainMac (plainToken '5') "secret" typeAccess 0 =
      .ok plainClaims := by
    cases h : decodeSignedToken asciiRuntime plainMac (plainToken '5') "secret" typeAccess 0 with
    | error e =>
        rw [h] at haccepted
        exact nomatch haccepted
    | ok claims =>
        rw [h] at haccepted
        rw [Option.some.inj haccepted]
  have hwritten : (reencode plainMac plainClaims "secret").toOption = some (plainToken '4') := by
    decide +kernel
  refine ⟨hdecode, hwritten, fun h => ?_⟩
  rw [h _ hdecode] at hwritten
  have hlists := congrArg String.toList (Option.some.inj hwritten)
  rw [plainToken, plainToken] at hlists
  generalize plainSegments ++ _ = body at hlists
  rw [String.toList_ofList, String.toList_ofList] at hlists
  exact absurd (List.append_cancel_left hlists) (by decide)

end

end Access
end AgenticCommerce
