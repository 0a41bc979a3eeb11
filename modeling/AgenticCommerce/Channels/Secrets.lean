/-
# Stored channel tokens

`encrypt_secret` and `decrypt_secret` of `services/connectors/models.py`: an envelope
`v1.<nonce>.<tag>.<ciphertext>` of a keystream cipher under a MAC.  The digest and the MAC are
parameters, of which only the length of a digest is assumed.

`decryptSecret_encryptSecret` is the round trip.
-/

import AgenticCommerce.Errors
import AgenticCommerce.Text.Base64
import Mathlib.Data.List.Lemmas
import Mathlib.Tactic.SplitIfs

namespace AgenticCommerce
namespace Channels

/-- SHA-256 and HMAC-SHA256. -/
structure Crypto where
  sha256 : List UInt8 → List UInt8
  length_sha256 : ∀ message, (sha256 message).length = 32
  /-- The MAC of a message under a key. -/
  hmac : List UInt8 → List UInt8 → List UInt8

/-- `text.encode("utf-8")`. -/
def utf8 (text : String) : List UInt8 := text.toUTF8.data.toList

/-- `bytes.decode("utf-8")`. -/
def fromUtf8 (raw : List UInt8) : Option String := String.fromUTF8? ⟨raw.toArray⟩

theorem fromUtf8_utf8 (text : String) : fromUtf8 (utf8 text) = some text := by
  rw [fromUtf8, utf8, Array.toArray_toList, String.fromUTF8?]
  exact dif_pos text.isValidUTF8

/-! ### The cipher -/

/-- `counter.to_bytes(4, "big")`. -/
def bigEndian (counter : ℕ) : List UInt8 :=
  [UInt8.ofNat (counter / 16777216), UInt8.ofNat (counter / 65536), UInt8.ofNat (counter / 256),
    UInt8.ofNat counter]

/-- `_keystream`: as many blocks of 32 bytes as it takes. -/
def keystream (crypto : Crypto) (key nonce : List UInt8) (length : ℕ) : List UInt8 :=
  ((List.range ((length + 31) / 32)).flatMap fun counter =>
    crypto.sha256 (key ++ nonce ++ bigEndian counter)).take length

theorem length_keystream (crypto : Crypto) (key nonce : List UInt8) (length : ℕ) :
    (keystream crypto key nonce length).length = length := by
  have hblocks : ∀ l : List ℕ, (l.flatMap fun counter =>
      crypto.sha256 (key ++ nonce ++ bigEndian counter)).length = 32 * l.length := by
    intro l
    induction l with
    | nil => rfl
    | cons counter l ih =>
        rw [List.flatMap_cons, List.length_append, ih, crypto.length_sha256, List.length_cons]
        omega
  rw [keystream, List.length_take, hblocks, List.length_range]
  omega

/-- `_xor`. -/
def xor (data stream : List UInt8) : List UInt8 := List.zipWith (· ^^^ ·) data stream

theorem length_xor {data stream : List UInt8} (h : data.length = stream.length) :
    (xor data stream).length = data.length := by
  rw [xor, List.length_zipWith, h, Nat.min_self]

/-- What a stream has changed it changes back. -/
theorem xor_xor {data stream : List UInt8} (h : data.length = stream.length) :
    xor (xor data stream) stream = data := by
  induction data generalizing stream with
  | nil => rfl
  | cons d data ih =>
      cases stream with
      | nil => exact nomatch h
      | cons s stream =>
          have hrest := @ih stream (Nat.succ.inj h)
          have hhead : (d ^^^ s) ^^^ s = d := by
            rw [UInt8.xor_assoc, UInt8.xor_self, UInt8.xor_zero]
          rw [xor, xor, List.zipWith_cons_cons, List.zipWith_cons_cons, hhead]
          exact congrArg _ hrest

/-! ### The envelope -/

/-- `base64.urlsafe_b64encode`. -/
def urlsafeB64encode (raw : List UInt8) : List Char :=
  Base64.encode raw ++ Base64.padding (Base64.encode raw).length

/-- `base64.urlsafe_b64decode`. -/
def urlsafeB64decode (text : List Char) : Option (List UInt8) :=
  if text.all fun c => c.toNat < 128 then Base64.a2b text else none

/-- The characters of the alphabet and of padding. -/
theorem urlsafeB64encode_chars (raw : List UInt8) :
    ∀ c ∈ urlsafeB64encode raw, c ≠ '.' ∧ c.toNat < 128 := by
  have digit : ∀ n < 64, Base64.digit n ≠ '.' ∧ (Base64.digit n).toNat < 128 := by decide
  intro c hc
  rcases List.mem_append.1 hc with hc | hc
  · obtain ⟨n, hn, rfl⟩ := List.mem_map.1 hc
    exact digit n (Base64.sextets_lt raw n hn)
  · rw [(List.mem_replicate.1 hc).2]
    decide

theorem urlsafeB64decode_encode (raw : List UInt8) :
    urlsafeB64decode (urlsafeB64encode raw) = some raw := by
  have hascii : (urlsafeB64encode raw).all (fun c => c.toNat < 128) = true :=
    List.all_eq_true.2 fun c hc => decide_eq_true (urlsafeB64encode_chars raw c hc).2
  rw [urlsafeB64decode, if_pos hascii, urlsafeB64encode, Base64.a2b_encode]

/-- `_ENVELOPE_VERSION`. -/
def envelopeVersion : List Char := ['v', '1']

/-- `encrypt_secret`, with the nonce it draws. -/
def encryptSecret (crypto : Crypto) (nonce : List UInt8) (plaintext : String) (key : List UInt8) :
    Except Failure String :=
  if plaintext = "" then .error (.exception "a secret to encrypt must be a non-empty string")
  else if key = [] then .error (.exception "a channel encryption key is required")
  else
    let raw := utf8 plaintext
    let ciphertext := xor raw (keystream crypto key nonce raw.length)
    let tag := crypto.hmac key (nonce ++ ciphertext)
    .ok (String.ofList (envelopeVersion ++ '.' :: (urlsafeB64encode nonce ++
      '.' :: (urlsafeB64encode tag ++ '.' :: urlsafeB64encode ciphertext))))

/-- `decrypt_secret`. -/
def decryptSecret (crypto : Crypto) (envelope : String) (key : List UInt8) :
    Except Failure String :=
  if key = [] then .error (.exception "an envelope and a channel encryption key are required")
  else match envelope.toList.splitOn '.' with
    | [version, nonce, tag, ciphertext] =>
        if version ≠ envelopeVersion then
          .error (.exception "not a recognised channel secret envelope")
        else match urlsafeB64decode nonce, urlsafeB64decode tag, urlsafeB64decode ciphertext with
          | some nonce, some tag, some ciphertext =>
              if tag ≠ crypto.hmac key (nonce ++ ciphertext) then
                .error (.exception
                  "channel secret failed authentication; the key does not match this row")
              else match fromUtf8 (xor ciphertext (keystream crypto key nonce ciphertext.length)) with
                | some plaintext => .ok plaintext
                | none => .error (.exception "invalid utf-8")
          | _, _, _ => .error (.exception "invalid base64")
    | _ => .error (.exception "not a recognised channel secret envelope")

/-- **A stored token is recovered under the key it was stored under.** -/
theorem decryptSecret_encryptSecret {crypto : Crypto} {nonce key : List UInt8}
    {plaintext envelope : String}
    (h : encryptSecret crypto nonce plaintext key = .ok envelope) :
    decryptSecret crypto envelope key = .ok plaintext := by
  unfold encryptSecret at h
  split_ifs at h with hplain hkey
  dsimp only at h
  obtain rfl := Except.ok.inj h
  have dot : ∀ raw, '.' ∉ urlsafeB64encode raw := fun raw hmem =>
    (urlsafeB64encode_chars raw '.' hmem).1 rfl
  rw [decryptSecret, if_neg hkey, String.toList_ofList,
    List.splitOn_append_cons_self_of_not_mem (by decide),
    List.splitOn_append_cons_self_of_not_mem (dot _),
    List.splitOn_append_cons_self_of_not_mem (dot _), List.splitOn_eq_singleton (dot _)]
  dsimp only
  have hlen := (length_keystream crypto key nonce (utf8 plaintext).length).symm
  rw [if_neg (not_not.2 rfl), urlsafeB64decode_encode, urlsafeB64decode_encode,
    urlsafeB64decode_encode]
  dsimp only
  rw [if_neg (not_not.2 rfl), length_xor hlen, xor_xor hlen, fromUtf8_utf8]

end Channels
end AgenticCommerce
