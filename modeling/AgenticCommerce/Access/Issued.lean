/-
# The life of an issued token

An issued token names the principal it was issued for from a minute before its date until its
expiry, and is refused from then on.  With a MAC that tells keys apart, no token at all is accepted
under two secrets, and since the type is among the signed claims, none is by the decoders of two
types (`token_life`).
-/

import AgenticCommerce.Access.Tokens

namespace AgenticCommerce
namespace Access

/-- A MAC under which no two keys sign a message alike. -/
def TellsKeysApart (mac : Mac) : Prop :=
  ∀ key key' message, mac key message = mac key' message → key = key'

/-- A token names the principal while it is live, and is refused once it has expired. -/
structure Lives (verify : Time → Except Failure Principal) (issuedAt : ℤ) (t : IssuedToken) :
    Prop where
  live : ∀ now, (issuedAt - clockSkewSeconds) * 1000000 ≤ now → now < t.expiresAt * 1000000 →
    verify now = .ok t.principal
  expired : ∀ now, t.expiresAt * 1000000 ≤ now → ∃ e, verify now = .error e

/-- What is promised of the tokens that are issued, and of the texts that are accepted. -/
structure TokensHold (runtime : Runtime) (mac : Mac) : Prop where
  access : ∀ newId secret subject role merchantId ttlSeconds buyerId scopes now clientId t,
    issueAccessToken mac newId secret subject role merchantId ttlSeconds buyerId scopes now
      clientId = .ok t → t.token.length ≤ maxTokenLength →
    Lives (principalFromAccessToken runtime mac t.token secret) (seconds now) t ∧
      t.principal.subject = subject ∧ t.principal.role = role ∧
      t.principal.merchantId = merchantId ∧ t.principal.buyerId = buyerId ∧
      t.principal.scopes = scopes.getD role.scopes ∧ t.principal.clientId = clientId ∧
      t.expiresAt = seconds now + ttlSeconds
  session : ∀ newId secret subject role merchantId ttlSeconds buyerId now t,
    issueSessionToken mac newId secret subject role merchantId ttlSeconds buyerId now = .ok t →
    t.token.length ≤ maxTokenLength →
    Lives (principalFromSessionToken runtime mac t.token secret) (seconds now) t ∧
      t.principal.subject = subject ∧ t.principal.role = role ∧
      t.principal.merchantId = merchantId ∧ t.principal.buyerId = buyerId ∧
      t.principal.scopes = role.scopes ∧ t.expiresAt = seconds now + ttlSeconds
  apart : ∀ token secret tokenType now claims,
    decodeSignedToken runtime mac token secret tokenType now = .ok claims →
    ∀ secret' tokenType' now', secret' ≠ secret ∨ tokenType' ≠ tokenType →
      ∃ e, decodeSignedToken runtime mac token secret' tokenType' now' = .error e

variable {runtime : Runtime} {mac : Mac} {token secret secret' tokenType tokenType' : String}
  {now now' : Time} {claims claims' : Claims}

/-- What is accepted consists of three segments, the third of them the MAC of the others, and
its claims are those of the second. -/
theorem decodeSignedToken_eq_ok
    (h : decodeSignedToken runtime mac token secret tokenType now = .ok claims) :
    ∃ h p s, token.toList.splitOn '.' = [h, p, s] ∧
      (isSegment h && isSegment p && isSegment s) = true ∧
      b64urlDecode s = some (mac secret (signingInput h p)) ∧
      decodeJsonSegment runtime p = .ok claims ∧
      Json.lookup claims "typ" = some (.str tokenType) := by
  unfold decodeSignedToken at h
  split_ifs at h
  split at h
  · rename_i head payload signature hsplit
    split_ifs at h with hsegments
    unfold verifySegments at h
    split at h
    · exact nomatch h
    · rename_i presented hpresented
      split_ifs at h with hmac
      split at h
      · exact nomatch h
      · split_ifs at h
        split at h
        · exact nomatch h
        · rename_i decoded hdecoded
          unfold checkClaims at h
          split_ifs at h with htype
          have hclaims : decoded = claims := by
            split at h
            · exact nomatch h
            · split_ifs at h
              split at h
              · exact nomatch h
              · split_ifs at h
                exact Except.ok.inj h
          subst hclaims
          refine ⟨head, payload, signature, hsplit, hsegments, ?_, hdecoded, not_not.1 htype⟩
          rw [hpresented, not_not.1 hmac]
  · exact nomatch h

/-- **No text is accepted under two secrets, or by the decoders of two types.** -/
theorem decodeSignedToken_apart (hmac : TellsKeysApart mac)
    (h : decodeSignedToken runtime mac token secret tokenType now = .ok claims)
    (h' : decodeSignedToken runtime mac token secret' tokenType' now' = .ok claims') :
    secret' = secret ∧ tokenType' = tokenType := by
  obtain ⟨head, payload, signature, hsplit, -, hsigned, hclaims, htype⟩ := decodeSignedToken_eq_ok h
  obtain ⟨head', payload', signature', hsplit', -, hsigned', hclaims', htype'⟩ :=
    decodeSignedToken_eq_ok h'
  obtain ⟨rfl, rfl, rfl⟩ : head = head' ∧ payload = payload' ∧ signature = signature' := by
    have hsegments := hsplit.symm.trans hsplit'
    rw [List.cons.injEq, List.cons.injEq, List.cons.injEq] at hsegments
    exact ⟨hsegments.1, hsegments.2.1, hsegments.2.2.1⟩
  constructor
  · exact hmac _ _ _ (Option.some.inj (hsigned'.symm.trans hsigned))
  · obtain rfl := Except.ok.inj (hclaims.symm.trans hclaims')
    exact Json.str.inj (Option.some.inj (htype'.symm.trans htype))

/-- An issued token that is not too long lives from a minute before its date to its expiry. -/
theorem lives_of_issue {newId : String → String} {method : AuthMethod} {subject merchantId : String}
    {role : Role} {buyerId clientId : Option String} {scopes : Option (Finset Scope)}
    {ttlSeconds : ℤ} {t : IssuedToken}
    (h : issue mac newId tokenType method secret subject role merchantId buyerId scopes ttlSeconds
      now clientId = .ok t) (hlength : t.token.length ≤ maxTokenLength) :
    Lives (principalFrom runtime mac tokenType method t.token secret) (seconds now) t := by
  constructor
  · intro at' hfrom huntil
    rw [principalFrom_issued runtime at' h, if_neg (not_lt.2 hlength), if_neg (not_le.2 huntil),
      if_neg (not_lt.2 hfrom)]
  · intro at' hexpired
    rw [principalFrom_issued runtime at' h, if_neg (not_lt.2 hlength), if_pos hexpired]
    exact ⟨_, rfl⟩

/-- **The life of a token.**  It names its principal as long as it is live, and under no other
secret or type is any token accepted. -/
theorem token_life (runtime : Runtime) (mac : Mac) (hmac : TellsKeysApart mac) :
    TokensHold runtime mac where
  access newId secret subject role merchantId ttlSeconds buyerId scopes now clientId t h hlength := by
    unfold issueAccessToken at h
    split_ifs at h
    obtain ⟨hsubject, hrole, hmerchant, hbuyer, hscopes, -, -, hclient, hexpires, -, -⟩ :=
      issue_eq_ok h
    exact ⟨lives_of_issue h hlength, hsubject, hrole, hmerchant, hbuyer, hscopes, hclient, hexpires⟩
  session newId secret subject role merchantId ttlSeconds buyerId now t h hlength := by
    obtain ⟨hsubject, hrole, hmerchant, hbuyer, hscopes, -, -, -, hexpires, -, -⟩ := issue_eq_ok h
    exact ⟨lives_of_issue h hlength, hsubject, hrole, hmerchant, hbuyer, hscopes, hexpires⟩
  apart token secret tokenType now claims h secret' tokenType' now' hother := by
    cases h' : decodeSignedToken runtime mac token secret' tokenType' now' with
    | error e => exact ⟨e, rfl⟩
    | ok claims' =>
        obtain ⟨hsecret, htype⟩ := decodeSignedToken_apart hmac h h'
        rcases hother with hother | hother
        · exact absurd hsecret hother
        · exact absurd htype hother

/-- Three bytes for each character of a key. -/
private def keyBytes (key : String) : List UInt8 :=
  key.toList.flatMap fun c =>
    [UInt8.ofNat (c.toNat / 65536), UInt8.ofNat (c.toNat / 256), UInt8.ofNat c.toNat]

private theorem keyBytes_inj {key key' : String} (h : keyBytes key = keyBytes key') :
    key = key' := by
  have hchar (c : Char) : c.toNat < 1114112 := by
    have := c.valid
    simp only [UInt32.isValidChar, Nat.isValidChar] at this
    change c.val.toNat < _
    omega
  have hlist : ∀ l l' : List Char, (l.flatMap fun c =>
      [UInt8.ofNat (c.toNat / 65536), UInt8.ofNat (c.toNat / 256), UInt8.ofNat c.toNat]) =
      (l'.flatMap fun c => [UInt8.ofNat (c.toNat / 65536), UInt8.ofNat (c.toNat / 256),
        UInt8.ofNat c.toNat]) → l = l' := by
    intro l
    induction l with
    | nil =>
        intro l' h
        cases l' with
        | nil => rfl
        | cons c l' => exact nomatch h
    | cons c l ih =>
        intro l' h
        cases l' with
        | nil => exact nomatch h
        | cons c' l' =>
            simp only [List.flatMap_cons, List.cons_append, List.nil_append, List.cons.injEq] at h
            obtain ⟨hhigh, hmiddle, hlow, hrest⟩ := h
            have h₁ := congrArg UInt8.toNat hhigh
            have h₂ := congrArg UInt8.toNat hmiddle
            have h₃ := congrArg UInt8.toNat hlow
            simp only [UInt8.toNat_ofNat'] at h₁ h₂ h₃
            have hc := hchar c
            have hc' := hchar c'
            have hnat : c.toNat = c'.toNat := by omega
            rw [ih l' hrest, Char.toNat_inj.1 hnat]
  exact String.toList_inj.1 (hlist _ _ h)

/-- The key and the message, one after the other, tell keys apart. -/
theorem token_life_keyed :
    TokensHold asciiRuntime fun key message => keyBytes key ++ asciiBytes message :=
  token_life asciiRuntime _ fun _ _ _ h => keyBytes_inj (List.append_cancel_right h)

end Access
end AgenticCommerce
