/-
# What opens as a channel secret

`decrypt_secret` of `services/connectors/models.py` says that it raises on any tampered envelope.
The tag is a MAC of the nonce and the ciphertext in a row, with nothing that says where the nonce
ends.  An envelope whose nonce part is the nonce and the ciphertext of another, and whose
ciphertext part is empty, has the same tag, and is opened as the empty text
(`decryptSecret_shifted`), which `encrypt_secret` never encrypts.

A nonce part of 16 bytes would be enough (`recovers_of_length`).
-/

import AgenticCommerce.Channels.Secrets

namespace AgenticCommerce
namespace Channels

/-- A secret that was encrypted, with the nonce that was drawn for it. -/
structure Secret where
  nonce : List UInt8
  plaintext : String
  length_nonce : nonce.length = 16
  plaintext_ne : plaintext ≠ ""

section

variable (crypto : Crypto) (key : List UInt8)

/-- The ciphertext of a secret. -/
def Secret.ciphertext (secret : Secret) : List UInt8 :=
  xor (utf8 secret.plaintext)
    (keystream crypto key secret.nonce (utf8 secret.plaintext).length)

/-- An envelope of these parts. -/
def envelopeOf (nonce tag ciphertext : List UInt8) : String :=
  String.ofList (envelopeVersion ++ '.' :: (urlsafeB64encode nonce ++
    '.' :: (urlsafeB64encode tag ++ '.' :: urlsafeB64encode ciphertext)))

/-- An envelope has these parts, and their tag. -/
def Authentic (envelope : String) (nonce ciphertext : List UInt8) : Prop :=
  ∃ a b c, envelope.toList.splitOn '.' = [envelopeVersion, a, b, c] ∧
    urlsafeB64decode a = some nonce ∧
    urlsafeB64decode b = some (crypto.hmac key (nonce ++ ciphertext)) ∧
    urlsafeB64decode c = some ciphertext

variable (secrets : List Secret)

/-- The envelope is that of a secret. -/
def Produced (envelope : String) : Prop :=
  ∃ secret ∈ secrets, encryptSecret crypto secret.nonce secret.plaintext key = .ok envelope

/-- **An ideal MAC**: the tag of an envelope is right only if the MAC of the same bytes was
computed for a secret. -/
def Unforged (envelope : String) : Prop :=
  ∀ nonce ciphertext, Authentic crypto key envelope nonce ciphertext →
    ∃ secret ∈ secrets, nonce ++ ciphertext = secret.nonce ++ secret.ciphertext crypto key

/-- The envelope is refused, or opened as a secret. -/
def Recovers (envelope : String) : Prop :=
  ∀ plaintext, decryptSecret crypto envelope key = .ok plaintext →
    ∃ secret ∈ secrets, secret.plaintext = plaintext

end

section

variable {crypto : Crypto} {key : List UInt8} {envelope : String}

/-- The parts of an envelope. -/
theorem splitOn_envelopeOf (nonce tag ciphertext : List UInt8) :
    (envelopeOf nonce tag ciphertext).toList.splitOn '.' =
      [envelopeVersion, urlsafeB64encode nonce, urlsafeB64encode tag,
        urlsafeB64encode ciphertext] := by
  have dot : ∀ raw, '.' ∉ urlsafeB64encode raw := fun raw hmem =>
    (urlsafeB64encode_chars raw '.' hmem).1 rfl
  rw [envelopeOf, String.toList_ofList, List.splitOn_append_cons_self_of_not_mem (by decide),
    List.splitOn_append_cons_self_of_not_mem (dot _),
    List.splitOn_append_cons_self_of_not_mem (dot _), List.splitOn_eq_singleton (dot _)]

/-- An envelope with the right tag. -/
theorem authentic_envelopeOf (crypto : Crypto) (key nonce ciphertext : List UInt8) :
    Authentic crypto key (envelopeOf nonce (crypto.hmac key (nonce ++ ciphertext)) ciphertext)
      nonce ciphertext :=
  ⟨_, _, _, splitOn_envelopeOf _ _ _, urlsafeB64decode_encode _, urlsafeB64decode_encode _,
    urlsafeB64decode_encode _⟩

/-- The parts of an envelope are its own. -/
theorem Authentic.unique {nonce nonce' ciphertext ciphertext' : List UInt8}
    (h : Authentic crypto key envelope nonce ciphertext)
    (h' : Authentic crypto key envelope nonce' ciphertext') :
    nonce = nonce' ∧ ciphertext = ciphertext' := by
  obtain ⟨a, b, c, hsplit, ha, -, hc⟩ := h
  obtain ⟨a', b', c', hsplit', ha', -, hc'⟩ := h'
  rw [hsplit] at hsplit'
  simp only [List.cons.injEq, and_true, true_and] at hsplit'
  obtain ⟨rfl, rfl, rfl⟩ := hsplit'
  exact ⟨Option.some.inj (ha.symm.trans ha'), Option.some.inj (hc.symm.trans hc')⟩

/-- **What opens**: an envelope with the right tag, whose deciphered bytes are a text. -/
theorem decryptSecret_eq_ok {plaintext : String} :
    decryptSecret crypto envelope key = .ok plaintext ↔ key ≠ [] ∧ ∃ nonce ciphertext,
      Authentic crypto key envelope nonce ciphertext ∧
        fromUtf8 (xor ciphertext (keystream crypto key nonce ciphertext.length)) =
          some plaintext := by
  constructor
  · intro h
    unfold decryptSecret at h
    split_ifs at h with hkey
    refine ⟨hkey, ?_⟩
    split at h
    · rename_i version a b c hsplit
      split_ifs at h with hversion
      split at h
      · rename_i nonce tag ciphertext ha hb hc
        split_ifs at h with htag
        split at h
        · rename_i text htext
          obtain rfl := Except.ok.inj h
          refine ⟨nonce, ciphertext, ⟨a, b, c, ?_, ha, ?_, hc⟩, htext⟩
          · rw [hsplit, not_not.1 hversion]
          · rw [hb, not_not.1 htag]
        · exact nomatch h
      · exact nomatch h
    · exact nomatch h
  · rintro ⟨hkey, nonce, ciphertext, ⟨a, b, c, hsplit, ha, hb, hc⟩, htext⟩
    unfold decryptSecret
    rw [if_neg hkey, hsplit]
    dsimp only
    rw [if_neg (not_not.2 rfl), ha, hb, hc]
    dsimp only
    rw [if_neg (not_not.2 rfl), htext]

/-- The envelope of a secret. -/
theorem encryptSecret_eq (hkey : key ≠ []) (secret : Secret) :
    encryptSecret crypto secret.nonce secret.plaintext key =
      .ok (envelopeOf secret.nonce (crypto.hmac key (secret.nonce ++ secret.ciphertext crypto key))
        (secret.ciphertext crypto key)) := by
  rw [encryptSecret, if_neg secret.plaintext_ne, if_neg hkey]
  rfl

/-- A ciphertext is not empty. -/
theorem Secret.ciphertext_ne (crypto : Crypto) (key : List UInt8) (secret : Secret) :
    secret.ciphertext crypto key ≠ [] := by
  have hlength : (secret.ciphertext crypto key).length = (utf8 secret.plaintext).length :=
    length_xor (length_keystream crypto key secret.nonce _).symm
  intro h
  rw [h] at hlength
  have hnil : utf8 secret.plaintext = utf8 "" := List.eq_nil_of_length_eq_zero hlength.symm
  have htext := congrArg fromUtf8 hnil
  rw [fromUtf8_utf8, fromUtf8_utf8] at htext
  exact secret.plaintext_ne (Option.some.inj htext)

/-- The envelope whose nonce part is all that the tag of a secret is for. -/
def Secret.shifted (crypto : Crypto) (key : List UInt8) (secret : Secret) : String :=
  envelopeOf (secret.nonce ++ secret.ciphertext crypto key)
    (crypto.hmac key (secret.nonce ++ secret.ciphertext crypto key)) []

theorem authentic_shifted (secret : Secret) : Authentic crypto key (secret.shifted crypto key)
    (secret.nonce ++ secret.ciphertext crypto key) [] := by
  have h := authentic_envelopeOf crypto key (secret.nonce ++ secret.ciphertext crypto key) []
  rwa [List.append_nil] at h

/-- **A shifted envelope is opened as the empty text.** -/
theorem decryptSecret_shifted (hkey : key ≠ []) (secret : Secret) :
    decryptSecret crypto (secret.shifted crypto key) key = .ok "" :=
  decryptSecret_eq_ok.2 ⟨hkey, _, _, authentic_shifted secret, fromUtf8_utf8 ""⟩

variable {secrets : List Secret}

/-- Its tag was computed for a secret. -/
theorem unforged_shifted {secret : Secret} (h : secret ∈ secrets) :
    Unforged crypto key secrets (secret.shifted crypto key) := by
  intro nonce ciphertext hparts
  obtain ⟨rfl, rfl⟩ := hparts.unique (authentic_shifted secret)
  exact ⟨secret, h, List.append_nil _⟩

/-- It is not the envelope of a secret, whose nonce is shorter. -/
theorem not_produced_shifted (hkey : key ≠ []) (secret : Secret) :
    ¬Produced crypto key secrets (secret.shifted crypto key) := by
  rintro ⟨other, -, hother⟩
  rw [encryptSecret_eq hkey] at hother
  have hparts := authentic_envelopeOf crypto key other.nonce (other.ciphertext crypto key)
  rw [Except.ok.inj hother] at hparts
  have hlength := congrArg List.length (hparts.unique (authentic_shifted secret)).1
  rw [List.length_append, other.length_nonce, secret.length_nonce] at hlength
  have hpos := List.length_pos_iff.2 (secret.ciphertext_ne crypto key)
  omega

/-- It is not opened as a secret. -/
theorem not_recovers_shifted (hkey : key ≠ []) (secret : Secret) :
    ¬Recovers crypto key secrets (secret.shifted crypto key) := by
  intro h
  obtain ⟨other, -, hother⟩ := h "" (decryptSecret_shifted hkey secret)
  exact other.plaintext_ne hother

/-- **An envelope with a nonce of 16 bytes** is refused, or opened as a secret. -/
theorem recovers_of_length (hunforged : Unforged crypto key secrets envelope)
    (hlength : ∀ nonce ciphertext, Authentic crypto key envelope nonce ciphertext →
      nonce.length = 16) : Recovers crypto key secrets envelope := by
  intro plaintext h
  obtain ⟨-, nonce, ciphertext, hparts, htext⟩ := decryptSecret_eq_ok.1 h
  obtain ⟨secret, hsecret, hbytes⟩ := hunforged nonce ciphertext hparts
  have hnonce : nonce.length = secret.nonce.length := by
    rw [hlength nonce ciphertext hparts, secret.length_nonce]
  obtain ⟨rfl, rfl⟩ := List.append_inj hbytes hnonce
  have hstream := (length_keystream crypto key secret.nonce (utf8 secret.plaintext).length).symm
  rw [Secret.ciphertext, length_xor hstream, xor_xor hstream, fromUtf8_utf8] at htext
  exact ⟨secret, hsecret, Option.some.inj htext⟩

/-- **Secrets come back, and one of them is enough for an envelope that opens as none.**  What is
encrypted is decrypted; with an ideal MAC an envelope with a nonce of 16 bytes is refused, or opened
as a secret; every other envelope is so only where no secret was encrypted. -/
theorem decryptSecret_iff (hkey : key ≠ []) (secrets : List Secret) :
    (∀ nonce plaintext envelope, encryptSecret crypto nonce plaintext key = .ok envelope →
      decryptSecret crypto envelope key = .ok plaintext) ∧
    (∀ envelope, Unforged crypto key secrets envelope →
      (∀ nonce ciphertext, Authentic crypto key envelope nonce ciphertext → nonce.length = 16) →
        Recovers crypto key secrets envelope) ∧
    ((∀ envelope, ¬Produced crypto key secrets envelope → Unforged crypto key secrets envelope →
      Recovers crypto key secrets envelope) ↔ secrets = []) := by
  refine ⟨fun _ _ _ => decryptSecret_encryptSecret, fun _ => recovers_of_length, ?_, ?_⟩
  · intro h
    cases secrets with
    | nil => rfl
    | cons secret secrets =>
        refine absurd (h (secret.shifted crypto key) (not_produced_shifted hkey secret) ?_)
          (not_recovers_shifted hkey secret)
        exact unforged_shifted List.mem_cons_self
  · rintro rfl envelope - hunforged plaintext h
    obtain ⟨-, nonce, ciphertext, hparts, -⟩ := decryptSecret_eq_ok.1 h
    obtain ⟨secret, hsecret, -⟩ := hunforged nonce ciphertext hparts
    exact absurd hsecret List.not_mem_nil

end

/-- A digest of zeros, and the message itself as its MAC. -/
private def plainCrypto : Crypto where
  sha256 _ := List.replicate 32 0
  length_sha256 _ := List.length_replicate
  hmac _ message := message

/-- A token, with a nonce of zeros. -/
private def token : Secret where
  nonce := List.replicate 16 0
  plaintext := "shpat_1"
  length_nonce := List.length_replicate
  plaintext_ne := by decide

/-- One token was encrypted, by `decryptSecret_iff`. -/
theorem decryptSecret_token : ¬∀ envelope, ¬Produced plainCrypto [1] [token] envelope →
    Unforged plainCrypto [1] [token] envelope → Recovers plainCrypto [1] [token] envelope := by
  intro h
  have hnone := (decryptSecret_iff (by decide) [token]).2.2.1 h
  exact nomatch hnone

/-- **A tampered envelope that opens**: the ciphertext of a token, moved to the end of its nonce. -/
theorem shifted_token_opens : ¬∀ (crypto : Crypto) (key : List UInt8) (secrets : List Secret)
    (envelope : String), key ≠ [] → ¬Produced crypto key secrets envelope →
      Unforged crypto key secrets envelope → Recovers crypto key secrets envelope := by
  intro hclaim
  have hkey : ([1] : List UInt8) ≠ [] := nofun
  exact not_recovers_shifted hkey token (hclaim plainCrypto [1] [token]
    (token.shifted plainCrypto [1]) hkey (not_produced_shifted hkey token)
    (unforged_shifted List.mem_cons_self))

end Channels
end AgenticCommerce
