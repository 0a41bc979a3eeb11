/-
# Internet addresses and how a URL writes them

IPv4 and IPv6 addresses, the ranges of them that are not public, and the texts that the URL
standard serialises them to: four decimal bytes with dots between them, and eight hexadecimal
pieces with colons between them, of which the first longest run of two or more zeros is left out.
-/

import Mathlib.Data.List.Basic
import AgenticCommerce.Text.JsonText

namespace AgenticCommerce
namespace Addresses

/-- An IPv4 address, byte by byte. -/
structure Ipv4 where
  a : Fin 256
  b : Fin 256
  c : Fin 256
  d : Fin 256
  deriving DecidableEq

namespace Ipv4

/-- The bytes of an address. -/
def bytes (x : Ipv4) : List ℕ := [x.a, x.b, x.c, x.d]

/-- The ranges set aside for private networks. -/
def isPrivate (x : Ipv4) : Bool :=
  x.a.val == 10 || (x.a.val == 172 && 16 ≤ x.b.val && x.b.val ≤ 31) ||
    (x.a.val == 192 && x.b.val == 168)

/-- `169.254.0.0/16`. -/
def isLinkLocal (x : Ipv4) : Bool := x.a.val == 169 && x.b.val == 254

/-- `0.0.0.0`. -/
def isUnspecified (x : Ipv4) : Bool := x.bytes == [0, 0, 0, 0]

/-- The addresses at which clouds serve the metadata of a machine. -/
def isMetadata (x : Ipv4) : Bool :=
  [[169, 254, 169, 254], [100, 100, 100, 200], [192, 0, 0, 192]].contains x.bytes

/-- An address of one of these kinds. -/
def isInternal (x : Ipv4) : Bool :=
  x.isPrivate || x.isLinkLocal || x.isUnspecified || x.isMetadata

/-- The text of an address. -/
def serialize (x : Ipv4) : List Char := ['.'].intercalate (x.bytes.map Json.decimal)

end Ipv4

/-- An IPv6 address, piece by piece. -/
structure Ipv6 where
  pieces : List ℕ
  length : pieces.length = 8
  lt : ∀ piece ∈ pieces, piece < 65536

/-- The hexadecimal digits of a piece, without leading zeros. -/
def hex (n : ℕ) : List Char :=
  if n < 16 then [Json.hexDigit n]
  else if n < 256 then [Json.hexDigit (n / 16), Json.hexDigit (n % 16)]
  else if n < 4096 then
    [Json.hexDigit (n / 256), Json.hexDigit (n / 16 % 16), Json.hexDigit (n % 16)]
  else [Json.hexDigit (n / 4096), Json.hexDigit (n / 256 % 16), Json.hexDigit (n / 16 % 16),
    Json.hexDigit (n % 16)]

/-- How many zeros a list of pieces begins with. -/
def zeros : List ℕ → ℕ
  | 0 :: pieces => zeros pieces + 1
  | _ => 0

/-- Where the first longest run of zeros begins, and how long it is. -/
def longestRun : List ℕ → ℕ × ℕ
  | [] => (0, 0)
  | piece :: pieces =>
      let (start, length) := longestRun pieces
      if length ≤ zeros (piece :: pieces) then (0, zeros (piece :: pieces)) else (start + 1, length)

/-- Pieces with colons between them. -/
def colons (pieces : List ℕ) : List Char := [':'].intercalate (pieces.map hex)

/-- The text of a list of pieces: a run of two or more zeros is left out, the first longest. -/
def compressed (pieces : List ℕ) : List Char :=
  let (start, length) := longestRun pieces
  if length < 2 then colons pieces
  else (pieces.take start).flatMap (fun piece => hex piece ++ [':']) ++
    (if start = 0 then [':', ':'] else [':']) ++ colons (pieces.drop (start + length))

namespace Ipv6

/-- The text of an address in a URL, with its brackets. -/
def serialize (x : Ipv6) : List Char := '[' :: compressed x.pieces ++ [']']

/-- The IPv6 address that stands for an IPv4 address. -/
def mapped (x : Ipv4) : Ipv6 where
  pieces := [0, 0, 0, 0, 0, 65535, x.a * 256 + x.b, x.c * 256 + x.d]
  length := rfl
  lt := by
    have := x.a.isLt
    have := x.b.isLt
    have := x.c.isLt
    have := x.d.isLt
    simp only [List.mem_cons, List.not_mem_nil, or_false]
    rintro piece (rfl | rfl | rfl | rfl | rfl | rfl | rfl | rfl) <;> omega

/-- The first piece. -/
def head (x : Ipv6) : ℕ := x.pieces.headD 0

/-- `::`. -/
def isUnspecified (x : Ipv6) : Bool := x.pieces == [0, 0, 0, 0, 0, 0, 0, 0]

/-- `fc00::/7`, the range of unique local addresses. -/
def isUniqueLocal (x : Ipv6) : Bool := 0xfc00 ≤ x.head && x.head < 0xfe00

/-- `fe80::/10`. -/
def isLinkLocal (x : Ipv6) : Bool := 0xfe80 ≤ x.head && x.head < 0xfec0

/-- An address of one of these kinds, or one that stands for an IPv4 address of such a kind. -/
def Internal (x : Ipv6) : Prop :=
  x.isUnspecified = true ∨ x.isUniqueLocal = true ∨ x.isLinkLocal = true ∨
    ∃ y : Ipv4, x = mapped y ∧ y.isInternal = true

end Ipv6

/-! ### The texts of addresses -/

/-- Lower-case hexadecimal digits. -/
def isHex (c : Char) : Bool := c.isDigit || ('a' ≤ c && c ≤ 'f')

theorem isHex_hexDigit : ∀ n < 16, isHex (Json.hexDigit n) = true := by decide

theorem hex_isHex {n : ℕ} (h : n < 65536) : ∀ c ∈ hex n, isHex c = true := by
  unfold hex
  split_ifs <;> simp only [List.mem_cons, List.not_mem_nil, or_false]
  · rintro c rfl
    exact isHex_hexDigit _ (by omega)
  · rintro c (rfl | rfl) <;> exact isHex_hexDigit _ (by omega)
  · rintro c (rfl | rfl | rfl) <;> exact isHex_hexDigit _ (by omega)
  · rintro c (rfl | rfl | rfl | rfl) <;> exact isHex_hexDigit _ (by omega)

/-- A character of the text of an address. -/
def isAddressChar (c : Char) : Bool := isHex c || c == ':' || c == '.' || c == '[' || c == ']'

theorem isAddressChar_of_isHex {c : Char} (h : isHex c = true) : isAddressChar c = true := by
  simp [isAddressChar, h]

/-- Hexadecimal digits by their code points. -/
theorem isHex_iff {c : Char} : isHex c = true ↔
    (48 ≤ c.toNat ∧ c.toNat ≤ 57) ∨ (97 ≤ c.toNat ∧ c.toNat ≤ 102) := by
  simp only [isHex, Char.isDigit, Bool.or_eq_true, Bool.and_eq_true, decide_eq_true_eq,
    Char.le_def, ge_iff_le, UInt32.le_iff_toNat_le]
  rfl

/-- The text of an address has no capital letter. -/
theorem toLower_of_isAddressChar {c : Char} (h : isAddressChar c = true) : c.toLower = c := by
  have hlow : ¬ (65 ≤ c.toNat ∧ c.toNat ≤ 90) := by
    simp only [isAddressChar, Bool.or_eq_true, isHex_iff, beq_iff_eq] at h
    rcases h with (((h | rfl) | rfl) | rfl) | rfl
    · omega
    all_goals decide
  refine dif_neg fun hc => hlow ?_
  simp only [ge_iff_le, UInt32.le_iff_toNat_le] at hc
  exact hc

/-- What a text put together of parts holds is of the separator or of a part. -/
theorem mem_intercalate {α : Type} {sep : List α} {x : α} : ∀ {parts : List (List α)},
    x ∈ sep.intercalate parts → x ∈ sep ∨ ∃ part ∈ parts, x ∈ part
  | [], h => by cases h
  | [part], h => by
      rw [List.intercalate_singleton] at h
      exact .inr ⟨part, List.mem_cons_self .., h⟩
  | part :: next :: parts, h => by
      rw [List.intercalate_cons_cons, List.mem_append, List.mem_append] at h
      rcases h with (h | h) | h
      · exact .inr ⟨part, List.mem_cons_self .., h⟩
      · exact .inl h
      · rcases mem_intercalate h with h | ⟨p, hp, h⟩
        · exact .inl h
        · exact .inr ⟨p, List.mem_cons_of_mem _ hp, h⟩

/-- The text of an IPv4 address is digits and dots. -/
theorem Ipv4.serialize_chars (x : Ipv4) : ∀ c ∈ x.serialize, c.isDigit = true ∨ c = '.' := by
  intro c hc
  rcases mem_intercalate hc with h | ⟨part, hpart, h⟩
  · exact .inr (List.mem_singleton.1 h)
  · obtain ⟨n, -, rfl⟩ := List.mem_map.1 hpart
    exact .inl (Json.decimal_isDigit n c h)

theorem colons_chars {pieces : List ℕ} (hlt : ∀ piece ∈ pieces, piece < 65536) :
    ∀ c ∈ colons pieces, isHex c = true ∨ c = ':' := by
  intro c hc
  rcases mem_intercalate hc with h | ⟨part, hpart, h⟩
  · exact .inr (List.mem_singleton.1 h)
  · obtain ⟨n, hn, rfl⟩ := List.mem_map.1 hpart
    exact .inl (hex_isHex (hlt n hn) c h)

/-- The text of an IPv6 address between its brackets is hexadecimal digits and colons. -/
theorem compressed_chars {pieces : List ℕ} (hlt : ∀ piece ∈ pieces, piece < 65536) :
    ∀ c ∈ compressed pieces, isHex c = true ∨ c = ':' := by
  intro c hc
  unfold compressed at hc
  dsimp only at hc
  split_ifs at hc
  · exact colons_chars hlt c hc
  all_goals
    simp only [List.mem_append, List.mem_flatMap, List.mem_cons, List.not_mem_nil,
      or_false] at hc
    rcases hc with (⟨piece, hpiece, h | h⟩ | h) | h
  · exact .inl (hex_isHex (hlt _ (List.mem_of_mem_take hpiece)) c h)
  · exact .inr h
  · exact .inr (h.elim id id)
  · exact colons_chars (fun piece hp => hlt piece (List.mem_of_mem_drop hp)) c h
  · exact .inl (hex_isHex (hlt _ (List.mem_of_mem_take hpiece)) c h)
  · exact .inr h
  · exact .inr h
  · exact colons_chars (fun piece hp => hlt piece (List.mem_of_mem_drop hp)) c h

theorem hex_of_large {n : ℕ} (h : 4096 ≤ n) : hex n =
    [Json.hexDigit (n / 4096), Json.hexDigit (n / 256 % 16), Json.hexDigit (n / 16 % 16),
      Json.hexDigit (n % 16)] := by
  rw [hex, if_neg (by omega), if_neg (by omega), if_neg (by omega)]

/-- No run of zeros is longer than the longest. -/
theorem zeros_le_longestRun (pieces : List ℕ) : zeros pieces ≤ (longestRun pieces).2 := by
  cases pieces with
  | nil => exact Nat.le_refl _
  | cons piece pieces =>
      rw [longestRun]
      dsimp only
      split_ifs with h
      · exact Nat.le_refl _
      · dsimp only
        omega

/-- A run of zeros that begins with a piece other than zero begins further on. -/
theorem longestRun_start_pos {piece : ℕ} {pieces : List ℕ} (h : piece ≠ 0)
    (hrun : 2 ≤ (longestRun (piece :: pieces)).2) : 0 < (longestRun (piece :: pieces)).1 := by
  have hzeros : zeros (piece :: pieces) = 0 := by
    cases piece with
    | zero => exact absurd rfl h
    | succ n => rfl
  rw [longestRun, hzeros] at hrun ⊢
  dsimp only at hrun ⊢
  split_ifs at hrun ⊢
  · omega
  · exact Nat.succ_pos _

theorem colons_cons (piece next : ℕ) (pieces : List ℕ) :
    colons (piece :: next :: pieces) = hex piece ++ ':' :: colons (next :: pieces) := by
  simp [colons, List.intercalate]

/-- **A text of pieces whose first is not zero begins with it and a colon.** -/
theorem compressed_cons {piece next : ℕ} {pieces : List ℕ} (h : piece ≠ 0) :
    ∃ rest, compressed (piece :: next :: pieces) = hex piece ++ ':' :: rest := by
  unfold compressed
  dsimp only
  split_ifs with hshort hstart
  · exact ⟨_, colons_cons piece next pieces⟩
  · exact absurd hstart (longestRun_start_pos h (by omega)).ne'
  · obtain ⟨start, hstart⟩ := Nat.exists_eq_succ_of_ne_zero hstart
    rw [hstart, List.take_succ_cons, List.flatMap_cons]
    simp only [List.append_assoc, List.cons_append, List.nil_append]
    exact ⟨_, rfl⟩

/-- **The text of an address that stands for an IPv4 address.** -/
theorem compressed_mapped (m n : ℕ) : compressed [0, 0, 0, 0, 0, 65535, m, n] =
    "::ffff:".toList ++ (hex m ++ ':' :: hex n) := by
  have hrun : longestRun [0, 0, 0, 0, 0, 65535, m, n] = (0, 5) := by
    cases m <;> cases n <;> rfl
  have hffff : hex 65535 = "ffff".toList := by decide
  simp only [compressed, hrun]
  rw [if_neg (by omega), if_pos trivial, List.take_zero, List.flatMap_nil]
  show [':', ':'] ++ colons [65535, m, n] = _
  rw [colons_cons, colons_cons, hffff]
  simp [colons]

end Addresses
end AgenticCommerce
