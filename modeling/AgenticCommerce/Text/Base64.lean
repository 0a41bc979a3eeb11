/-
# Base64 in the URL alphabet

Bytes as groups of six bits (`sextets`) and back (`bytes`), the text that carries them
(`encode`), and the two decoders the program meets.  `a2b` is the loop of Python's
`binascii.a2b_base64`: it skips what is outside the alphabet, stops at a padding that
completes a group, and refuses a group that is left open.  `atob` is the decoder of a
web runtime: it skips white space only and refuses every other foreign character.

Both read `encode` back (`a2b_encode`, `atob_encode`).  They do not read it alone: the
last group of a text has bits that end up in no byte, and `a2b` does not look at them.  A text
in which these are zero is the one that its bytes are written as (`eq_encode_iff`).
-/

import Mathlib.Data.List.Basic
import Mathlib.Data.Nat.Notation
import Mathlib.Tactic.IntervalCases

namespace Base64

/-! ### Groups of six bits -/

/-- The groups of six bits of a list of bytes, the last one filled up with zeros. -/
def sextets : List UInt8 → List ℕ
  | [] => []
  | [a] => [a.toNat / 4, a.toNat % 4 * 16]
  | [a, b] => [a.toNat / 4, a.toNat % 4 * 16 + b.toNat / 16, b.toNat % 16 * 4]
  | a :: b :: c :: rest =>
      a.toNat / 4 :: (a.toNat % 4 * 16 + b.toNat / 16) :: (b.toNat % 16 * 4 + c.toNat / 64) ::
        c.toNat % 64 :: sextets rest

/-- The whole bytes in a list of groups; what is left of the last one is dropped. -/
def bytes : List ℕ → List UInt8
  | w :: x :: y :: z :: rest =>
      UInt8.ofNat (w * 4 + x / 16) :: UInt8.ofNat (x % 16 * 16 + y / 4) ::
        UInt8.ofNat (y % 4 * 64 + z) :: bytes rest
  | [w, x, y] => [UInt8.ofNat (w * 4 + x / 16), UInt8.ofNat (x % 16 * 16 + y / 4)]
  | [w, x] => [UInt8.ofNat (w * 4 + x / 16)]
  | _ => []

theorem ofNat_eq {a : UInt8} {n : ℕ} (h : n = a.toNat) : UInt8.ofNat n = a := by
  rw [h, UInt8.ofNat_toNat]

theorem sextets_lt : ∀ bs : List UInt8, ∀ v ∈ sextets bs, v < 64
  | [] => by simp [sextets]
  | [a] => by
      have := a.toNat_lt
      simp only [sextets, List.mem_cons, List.not_mem_nil, or_false]
      rintro v (rfl | rfl) <;> omega
  | [a, b] => by
      have := a.toNat_lt
      have := b.toNat_lt
      simp only [sextets, List.mem_cons, List.not_mem_nil, or_false]
      rintro v (rfl | rfl | rfl) <;> omega
  | a :: b :: c :: rest => by
      have := a.toNat_lt
      have := b.toNat_lt
      have := c.toNat_lt
      have ih := sextets_lt rest
      simp only [sextets, List.mem_cons]
      rintro v (rfl | rfl | rfl | rfl | hv)
      · omega
      · omega
      · omega
      · omega
      · exact ih v hv

/-- No group stands alone. -/
theorem length_sextets : ∀ bs : List UInt8, (sextets bs).length % 4 ≠ 1
  | [] => by simp [sextets]
  | [_] => by simp [sextets]
  | [_, _] => by simp [sextets]
  | _ :: _ :: _ :: rest => by
      have ih := length_sextets rest
      simp only [sextets, List.length_cons]
      omega

theorem bytes_sextets : ∀ bs : List UInt8, bytes (sextets bs) = bs
  | [] => rfl
  | [a] => by
      have := a.toNat_lt
      simp only [sextets, bytes]
      rw [ofNat_eq (a := a) (by omega)]
  | [a, b] => by
      have := a.toNat_lt
      have := b.toNat_lt
      simp only [sextets, bytes]
      rw [ofNat_eq (a := a) (by omega), ofNat_eq (a := b) (by omega)]
  | a :: b :: c :: rest => by
      have := a.toNat_lt
      have := b.toNat_lt
      have := c.toNat_lt
      simp only [sextets, bytes]
      rw [ofNat_eq (a := a) (by omega), ofNat_eq (a := b) (by omega),
        ofNat_eq (a := c) (by omega), bytes_sextets rest]

/-! ### The alphabet -/

/-- The character of a group, in the URL alphabet. -/
def digit (n : ℕ) : Char :=
  if n < 26 then Char.ofNat (65 + n)
  else if n < 52 then Char.ofNat (71 + n)
  else if n < 62 then Char.ofNat (n - 4)
  else if n = 62 then '-' else '_'

/-- The group of a character, of the URL alphabet or of the standard one. -/
def group? (c : Char) : Option ℕ :=
  if 65 ≤ c.toNat ∧ c.toNat ≤ 90 then some (c.toNat - 65)
  else if 97 ≤ c.toNat ∧ c.toNat ≤ 122 then some (c.toNat - 71)
  else if 48 ≤ c.toNat ∧ c.toNat ≤ 57 then some (c.toNat + 4)
  else if c = '+' ∨ c = '-' then some 62
  else if c = '/' ∨ c = '_' then some 63
  else none

theorem group?_digit : ∀ n < 64, group? (digit n) = some n := by decide

theorem digit_ne_pad : ∀ n < 64, digit n ≠ '=' := by decide

/-- The text of a list of bytes, without padding. -/
def encode (bs : List UInt8) : List Char := (sextets bs).map digit

/-- The padding that completes the last group of four of a text of that length. -/
def padding (length : ℕ) : List Char := List.replicate ((4 - length % 4) % 4) '='

/-! ### `binascii.a2b_base64` -/

/-- The loop: `quad` characters of the group of four are read, `left` holds the bits of
them that are in no byte yet, and `pads` counts the padding after them. -/
def a2bLoop : (quad left pads : ℕ) → List Char → Option (List UInt8)
  | quad, _, _, [] => if quad = 0 then some [] else none
  | quad, left, pads, c :: rest =>
      if c = '=' then
        if 2 ≤ quad then
          if 4 ≤ quad + (pads + 1) then some [] else a2bLoop quad left (pads + 1) rest
        else a2bLoop quad left pads rest
      else match group? c with
        | none => a2bLoop quad left pads rest
        | some v => match quad with
          | 0 => a2bLoop 1 v 0 rest
          | 1 => (a2bLoop 2 (v % 16) 0 rest).map (UInt8.ofNat (left * 4 + v / 16) :: ·)
          | 2 => (a2bLoop 3 (v % 4) 0 rest).map (UInt8.ofNat (left * 16 + v / 4) :: ·)
          | _ => (a2bLoop 0 0 0 rest).map (UInt8.ofNat (left * 64 + v) :: ·)

/-- `base64.urlsafe_b64decode`. -/
def a2b (text : List Char) : Option (List UInt8) := a2bLoop 0 0 0 text

section

variable {left pads v : ℕ} {rest : List Char}

theorem a2bLoop_zero (hv : v < 64) : a2bLoop 0 left pads (digit v :: rest) = a2bLoop 1 v 0 rest := by
  rw [a2bLoop, if_neg (digit_ne_pad v hv), group?_digit v hv]
  rfl

theorem a2bLoop_one (hv : v < 64) : a2bLoop 1 left pads (digit v :: rest) =
    (a2bLoop 2 (v % 16) 0 rest).map (UInt8.ofNat (left * 4 + v / 16) :: ·) := by
  rw [a2bLoop, if_neg (digit_ne_pad v hv), group?_digit v hv]
  rfl

theorem a2bLoop_two (hv : v < 64) : a2bLoop 2 left pads (digit v :: rest) =
    (a2bLoop 3 (v % 4) 0 rest).map (UInt8.ofNat (left * 16 + v / 4) :: ·) := by
  rw [a2bLoop, if_neg (digit_ne_pad v hv), group?_digit v hv]
  rfl

theorem a2bLoop_three (hv : v < 64) : a2bLoop 3 left pads (digit v :: rest) =
    (a2bLoop 0 0 0 rest).map (UInt8.ofNat (left * 64 + v) :: ·) := by
  rw [a2bLoop, if_neg (digit_ne_pad v hv), group?_digit v hv]
  rfl

end

/-- **The groups of a padded text are read as its bytes**, whatever the last group holds
beyond them. -/
theorem a2b_digits : ∀ vs : List ℕ, (∀ v ∈ vs, v < 64) → vs.length % 4 ≠ 1 →
    a2b (vs.map digit ++ padding vs.length) = some (bytes vs)
  | [], _, _ => rfl
  | [_], _, h => absurd rfl h
  | [w, x], hv, _ => by
      simp only [List.mem_cons, List.not_mem_nil, or_false, forall_eq_or_imp, forall_eq] at hv
      rw [a2b, List.map_cons, List.cons_append, a2bLoop_zero hv.1, List.map_cons, List.cons_append,
        a2bLoop_one hv.2]
      rfl
  | [w, x, y], hv, _ => by
      simp only [List.mem_cons, List.not_mem_nil, or_false, forall_eq_or_imp, forall_eq] at hv
      rw [a2b, List.map_cons, List.cons_append, a2bLoop_zero hv.1, List.map_cons, List.cons_append,
        a2bLoop_one hv.2.1, List.map_cons, List.cons_append, a2bLoop_two hv.2.2]
      rfl
  | w :: x :: y :: z :: rest, hv, hl => by
      simp only [List.mem_cons, forall_eq_or_imp] at hv
      obtain ⟨hw, hx, hy, hz, hrest⟩ := hv
      have hl' : rest.length % 4 ≠ 1 := by simp only [List.length_cons] at hl; omega
      have hp : padding (w :: x :: y :: z :: rest).length = padding rest.length := by
        rw [padding, padding, List.length_cons, List.length_cons, List.length_cons,
          List.length_cons, show (rest.length + 1 + 1 + 1 + 1) % 4 = rest.length % 4 by omega]
      have ih := a2b_digits rest hrest hl'
      rw [a2b] at ih
      rw [hp, a2b, List.map_cons, List.cons_append, a2bLoop_zero hw, List.map_cons,
        List.cons_append, a2bLoop_one hx, List.map_cons, List.cons_append, a2bLoop_two hy,
        List.map_cons, List.cons_append, a2bLoop_three hz, ih]
      rfl

/-- **A text is read back.** -/
theorem a2b_encode (bs : List UInt8) : a2b (encode bs ++ padding (encode bs).length) = some bs := by
  have h := a2b_digits (sextets bs) (sextets_lt bs) (length_sextets bs)
  rw [bytes_sextets] at h
  rwa [encode, List.length_map]

/-! ### One text for each list of bytes -/

/-- The bits of the last group that are in no byte are zero. -/
def trimmed : List ℕ → Bool
  | _ :: _ :: _ :: _ :: rest => trimmed rest
  | [_, _, y] => y % 4 == 0
  | [_, x] => x % 16 == 0
  | _ => true

theorem trimmed_sextets : ∀ bs : List UInt8, trimmed (sextets bs) = true
  | [] => rfl
  | [a] => by
      rw [sextets, trimmed, beq_iff_eq]
      omega
  | [a, b] => by
      rw [sextets, trimmed, beq_iff_eq]
      omega
  | _ :: _ :: _ :: rest => trimmed_sextets rest

/-- **Groups without stray bits are those of their bytes.** -/
theorem sextets_bytes : ∀ vs : List ℕ, (∀ v ∈ vs, v < 64) → vs.length % 4 ≠ 1 →
    trimmed vs = true → sextets (bytes vs) = vs
  | [], _, _, _ => rfl
  | [_], _, h, _ => absurd rfl h
  | [w, x], hv, _, ht => by
      simp only [List.mem_cons, List.not_mem_nil, or_false, forall_eq_or_imp, forall_eq] at hv
      rw [trimmed, beq_iff_eq] at ht
      have hbyte : (UInt8.ofNat (w * 4 + x / 16)).toNat = w * 4 + x / 16 := by
        rw [UInt8.toNat_ofNat']
        omega
      rw [bytes, sextets, hbyte, List.cons.injEq, List.cons.injEq]
      exact ⟨by omega, by omega, rfl⟩
  | [w, x, y], hv, _, ht => by
      simp only [List.mem_cons, List.not_mem_nil, or_false, forall_eq_or_imp, forall_eq] at hv
      rw [trimmed, beq_iff_eq] at ht
      have hfirst : (UInt8.ofNat (w * 4 + x / 16)).toNat = w * 4 + x / 16 := by
        rw [UInt8.toNat_ofNat']
        omega
      have hsecond : (UInt8.ofNat (x % 16 * 16 + y / 4)).toNat = x % 16 * 16 + y / 4 := by
        rw [UInt8.toNat_ofNat']
        omega
      rw [bytes, sextets, hfirst, hsecond, List.cons.injEq, List.cons.injEq, List.cons.injEq]
      exact ⟨by omega, by omega, by omega, rfl⟩
  | w :: x :: y :: z :: rest, hv, hl, ht => by
      simp only [List.mem_cons, forall_eq_or_imp] at hv
      obtain ⟨hw, hx, hy, hz, hrest⟩ := hv
      have hl' : rest.length % 4 ≠ 1 := by simp only [List.length_cons] at hl; omega
      have hfirst : (UInt8.ofNat (w * 4 + x / 16)).toNat = w * 4 + x / 16 := by
        rw [UInt8.toNat_ofNat']
        omega
      have hsecond : (UInt8.ofNat (x % 16 * 16 + y / 4)).toNat = x % 16 * 16 + y / 4 := by
        rw [UInt8.toNat_ofNat']
        omega
      have hthird : (UInt8.ofNat (y % 4 * 64 + z)).toNat = y % 4 * 64 + z := by
        rw [UInt8.toNat_ofNat']
        omega
      rw [bytes, sextets, hfirst, hsecond, hthird, sextets_bytes rest hrest hl' ht, List.cons.injEq,
        List.cons.injEq, List.cons.injEq, List.cons.injEq]
      exact ⟨by omega, by omega, by omega, by omega, rfl⟩

/-- A group that stands alone is refused. -/
theorem a2b_lone : ∀ vs : List ℕ, (∀ v ∈ vs, v < 64) → vs.length % 4 = 1 →
    a2b (vs.map digit ++ padding vs.length) = none
  | [], _, h => absurd h (by decide)
  | [v], hv, _ => by
      rw [a2b, List.map_cons, List.cons_append, a2bLoop_zero (hv v List.mem_cons_self)]
      rfl
  | [_, _], _, h => absurd h (by simp)
  | [_, _, _], _, h => absurd h (by simp)
  | w :: x :: y :: z :: rest, hv, hl => by
      simp only [List.mem_cons, forall_eq_or_imp] at hv
      obtain ⟨hw, hx, hy, hz, hrest⟩ := hv
      have hl' : rest.length % 4 = 1 := by simp only [List.length_cons] at hl; omega
      have hp : padding (w :: x :: y :: z :: rest).length = padding rest.length := by
        rw [padding, padding, List.length_cons, List.length_cons, List.length_cons,
          List.length_cons, show (rest.length + 1 + 1 + 1 + 1) % 4 = rest.length % 4 by omega]
      have ih := a2b_lone rest hrest hl'
      rw [a2b] at ih
      rw [hp, a2b, List.map_cons, List.cons_append, a2bLoop_zero hw, List.map_cons,
        List.cons_append, a2bLoop_one hx, List.map_cons, List.cons_append, a2bLoop_two hy,
        List.map_cons, List.cons_append, a2bLoop_three hz, ih]
      rfl

/-- The groups of a text. -/
def groups (text : List Char) : List ℕ := text.filterMap group?

theorem groups_digits {vs : List ℕ} (hv : ∀ v ∈ vs, v < 64) : groups (vs.map digit) = vs := by
  induction vs with
  | nil => rfl
  | cons v vs ih =>
      have hrest := ih fun w hw => hv w (List.mem_cons_of_mem _ hw)
      rw [groups, List.map_cons, List.filterMap_cons_some (group?_digit v (hv v List.mem_cons_self))]
      exact congrArg (v :: ·) hrest

/-- **A text of digits that is read as bytes is their text exactly if it has no stray bits.** -/
theorem eq_encode_iff {vs : List ℕ} (hv : ∀ v ∈ vs, v < 64) {bs : List UInt8}
    (h : a2b (vs.map digit ++ padding vs.length) = some bs) :
    vs.map digit = encode bs ↔ trimmed vs = true := by
  have hlength : vs.length % 4 ≠ 1 := fun hlone => by
    rw [a2b_lone vs hv hlone] at h
    exact nomatch h
  rw [a2b_digits vs hv hlength] at h
  obtain rfl := Option.some.inj h
  constructor
  · intro hencode
    have hgroups := congrArg groups hencode
    rw [encode, groups_digits hv, groups_digits (sextets_lt _)] at hgroups
    rw [hgroups]
    exact trimmed_sextets _
  · intro htrimmed
    rw [encode, sextets_bytes vs hv hlength htrimmed]

/-! ### `atob` -/

/-- The white space that `atob` skips. -/
def isBlank (c : Char) : Bool :=
  c == ' ' || c == '\t' || c == '\n' || c == '\r' || c == Char.ofNat 12

/-- The group of a character of the standard alphabet. -/
def standard? (c : Char) : Option ℕ := if c = '-' ∨ c = '_' then none else group? c

/-- At most two characters of padding, taken off the end. -/
def dropPadding (text : List Char) : List Char :=
  match text.reverse with
  | '=' :: '=' :: rest => rest.reverse
  | '=' :: rest => rest.reverse
  | _ => text

/-- `atob`. -/
def atob (text : List Char) : Option (List UInt8) :=
  let text := text.filter fun c => !isBlank c
  let text := if text.length % 4 = 0 then dropPadding text else text
  if text.length % 4 = 1 then none else (text.mapM standard?).map bytes

/-- The character of the standard alphabet for one of the URL alphabet. -/
def toStandard (c : Char) : Char := if c = '-' then '+' else if c = '_' then '/' else c

theorem standard?_digit : ∀ n < 64, standard? (toStandard (digit n)) = some n := by decide

theorem digit_not_blank : ∀ n < 64, isBlank (toStandard (digit n)) = false := by decide

theorem toStandard_digit_ne_pad : ∀ n < 64, toStandard (digit n) ≠ '=' := by decide

theorem mapM_standard? : ∀ vs : List ℕ, (∀ v ∈ vs, v < 64) →
    (vs.map fun v => toStandard (digit v)).mapM standard? = some vs
  | [], _ => rfl
  | v :: vs, h => by
      rw [List.map_cons, List.mapM_cons, standard?_digit v (h v (List.mem_cons_self ..)),
        mapM_standard? vs fun u hu => h u (List.mem_cons_of_mem _ hu)]
      rfl

/-- Padding that completes a group is taken off again. -/
theorem dropPadding_padding {text : List Char} (hpad : ∀ c ∈ text, c ≠ '=')
    (hlen : text.length % 4 ≠ 1) : dropPadding (text ++ padding text.length) = text := by
  have hlast : ∀ c rest, text.reverse = c :: rest → c ≠ '=' := fun c rest h =>
    hpad c (List.mem_reverse.1 (h ▸ List.mem_cons_self ..))
  have hkeep : dropPadding text = text := by
    unfold dropPadding
    split
    · next h => exact absurd rfl (hlast _ _ h)
    · next h => exact absurd rfl (hlast _ _ h)
    · rfl
  have hlt : text.length % 4 < 4 := Nat.mod_lt _ (by omega)
  unfold padding
  generalize text.length % 4 = n at hlen hlt
  interval_cases n
  · simpa using hkeep
  · exact absurd rfl hlen
  · show dropPadding (text ++ ['=', '=']) = text
    simp [dropPadding]
  · show dropPadding (text ++ ['=']) = text
    unfold dropPadding
    rw [List.reverse_append]
    cases hr : text.reverse with
    | nil =>
        rw [List.reverse_eq_nil_iff.1 hr]
        rfl
    | cons c rest =>
        have hc := hlast c rest hr
        have ht : text = (c :: rest).reverse := by rw [← hr, List.reverse_reverse]
        simp [hc, ht]

/-- **The web runtime reads a text back.** -/
theorem atob_encode (bs : List UInt8) :
    atob ((encode bs).map toStandard ++ padding (encode bs).length) = some bs := by
  have hv := sextets_lt bs
  have hmap : (encode bs).map toStandard = (sextets bs).map fun v => toStandard (digit v) := by
    rw [encode, List.map_map]
    rfl
  have hlen : (encode bs).length = ((encode bs).map toStandard).length := List.length_map _ |>.symm
  have hl : ((encode bs).map toStandard).length % 4 ≠ 1 := by
    rw [hmap, List.length_map]
    exact length_sextets bs
  have hpad : ∀ c ∈ (encode bs).map toStandard, c ≠ '=' := by
    rw [hmap]
    intro c hc
    obtain ⟨v, hv', rfl⟩ := List.mem_map.1 hc
    exact toStandard_digit_ne_pad v (hv v hv')
  have hfilter : ((encode bs).map toStandard ++ padding (encode bs).length).filter
      (fun c => !isBlank c) = (encode bs).map toStandard ++ padding (encode bs).length := by
    refine List.filter_eq_self.2 fun c hc => ?_
    rcases List.mem_append.1 hc with hc | hc
    · rw [hmap] at hc
      obtain ⟨v, hv', rfl⟩ := List.mem_map.1 hc
      rw [digit_not_blank v (hv v hv')]
      rfl
    · rw [List.eq_of_mem_replicate hc]
      rfl
  have hfull : ((encode bs).map toStandard ++ padding (encode bs).length).length % 4 = 0 := by
    rw [List.length_append, padding, List.length_replicate, ← hlen]
    omega
  unfold atob
  simp only [hfilter, hfull, if_true]
  rw [hlen, dropPadding_padding hpad hl, if_neg hl, hmap, mapM_standard? _ hv, Option.map_some,
    bytes_sextets]

end Base64
