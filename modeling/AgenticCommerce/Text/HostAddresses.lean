/-
# Addresses in the texts of hosts

Three readings of a text as a number or an address: `int(text, 0)` and `ipaddress.ip_address` of
Python 3.12, and the one of the C resolver, where an IPv4 address has one to four parts, each
decimal, octal or hexadecimal, and the last part fills what is left.  The text of an IPv6 address is
read by the same grammar in both, with the zone split off.

The ranges are those of the `ipaddress` module.  The decimal digits beyond ASCII are the argument
`digit`.
-/

import AgenticCommerce.Text.Addresses
import AgenticCommerce.Text.Strings

namespace AgenticCommerce
namespace HostAddresses

/-! ### Numerals -/

/-- The value of a decimal or hexadecimal digit. -/
def digitValue (c : Char) : Option ℕ :=
  if c.isDigit then some (c.toNat - 48)
  else if 'a' ≤ c ∧ c ≤ 'f' then some (c.toNat - 87)
  else if 'A' ≤ c ∧ c ≤ 'F' then some (c.toNat - 55)
  else none

/-- Whether a character is a digit to a base. -/
def isDigitOf (base : ℕ) (c : Char) : Bool := (digitValue c).any fun d => decide (d < base)

/-- The number that digits write. -/
def value (base : ℕ) (ds : List Char) : ℕ :=
  ds.foldl (fun n c => n * base + (digitValue c).getD 0) 0

/-- A text of digits, one or more. -/
def numeral (base : ℕ) (ds : List Char) : Option ℕ :=
  if ds ≠ [] ∧ ds.all (isDigitOf base) then some (value base ds) else none

/-! ### `int(text, 0)` -/

/-- Digits with single underscores between them. -/
def separated (base : ℕ) (text : List Char) : Option ℕ :=
  let groups := text.splitOn '_'
  if [] ∈ groups then none else numeral base groups.flatten

/-- What stands behind `0x`, `0o` or `0b`. -/
def prefixed (base : ℕ) : List Char → Option ℕ
  | '_' :: text => separated base text
  | text => separated base text

/-- A number without its sign: the base is read off its start, and decimal numbers have no zeros
before them. -/
def unsigned : List Char → Option ℕ
  | '0' :: c :: text =>
      if c = 'x' ∨ c = 'X' then prefixed 16 text
      else if c = 'o' ∨ c = 'O' then prefixed 8 text
      else if c = 'b' ∨ c = 'B' then prefixed 2 text
      else (separated 10 ('0' :: c :: text)).filter (· = 0)
  | text => separated 10 text

/-- White space of ASCII. -/
def isAsciiSpace (c : Char) : Bool := (9 ≤ c.toNat && c.toNat ≤ 13) || c == ' '

/-- A character beyond ASCII as the number reader takes it: a space, a digit, or neither. -/
def transformed (digit : Char → Option ℕ) (c : Char) : Char :=
  if c.toNat < 128 then c
  else if Strings.isSpace c then ' '
  else match digit c with
    | some d => Json.hexDigit d
    | none => '?'

/-- `int(text, 0)`, `none` where it raises. -/
def int0 (digit : Char → Option ℕ) (text : List Char) : Option ℤ :=
  match ((text.map (transformed digit)).dropWhile isAsciiSpace).rdropWhile isAsciiSpace with
  | '-' :: text => (unsigned text).map fun n => -(n : ℤ)
  | '+' :: text => (unsigned text).map fun n => (n : ℤ)
  | text => (unsigned text).map fun n => (n : ℤ)

/-! ### `ipaddress` -/

/-- An address: its number of 32 or 128 bits. -/
inductive Address where
  | v4 (n : ℕ)
  | v6 (n : ℕ)
  deriving DecidableEq

/-- The number of four bytes. -/
def ofBytes (a b c d : ℕ) : ℕ := a * 2 ^ 24 + b * 2 ^ 16 + c * 2 ^ 8 + d

/-- A byte in decimal, without zeros before it. -/
def octet (text : List Char) : Option ℕ :=
  if text.length ≤ 3 ∧ (text = ['0'] ∨ text.head? ≠ some '0') then
    (numeral 10 text).filter (· ≤ 255)
  else none

/-- `IPv4Address(text)`. -/
def ipv4 (text : List Char) : Option ℕ :=
  match (text.splitOn '.').mapM octet with
  | some [a, b, c, d] => some (ofBytes a b c d)
  | _ => none

/-- Up to four hexadecimal digits. -/
def hextet (text : List Char) : Option ℕ :=
  if text.length ≤ 4 then numeral 16 text else none

/-- The parts of an IPv6 address, an IPv4 address at the end taken as two of them. -/
def ipv6Parts (text : List Char) : Option (List (List Char)) :=
  let parts := text.splitOn ':'
  if parts.length < 3 then none
  else
    let last := parts.getLastD []
    if '.' ∈ last then
      (ipv4 last).map fun n =>
        parts.dropLast ++ [Addresses.hex (n / 2 ^ 16), Addresses.hex (n % 2 ^ 16)]
    else some parts

/-- The number of pieces. -/
def ofPieces (pieces : List ℕ) : ℕ := pieces.foldl (fun n piece => n * 2 ^ 16 + piece) 0

/-- The pieces of an IPv6 address of these parts: `::` may stand once, for one zero or more. -/
def ipv6Pieces (parts : List (List Char)) : Option (List ℕ) :=
  if 9 < parts.length then none
  else
    match (List.range parts.length).filter fun i =>
        0 < i && i + 1 < parts.length && parts.getD i [] == [] with
    | [] =>
        if parts.length = 8 ∧ parts.headD [] ≠ [] ∧ parts.getLastD [] ≠ [] then parts.mapM hextet
        else none
    | [skip] =>
        let high := if parts.headD [] = [] then [] else parts.take skip
        let low := if parts.getLastD [] = [] then [] else parts.drop (skip + 1)
        -- an empty part at an end stands next to `::` only
        if (parts.headD [] = [] ∧ skip ≠ 1) ∨ (parts.getLastD [] = [] ∧ skip + 2 ≠ parts.length) ∨
            8 ≤ high.length + low.length then none
        else do
          let high ← high.mapM hextet
          let low ← low.mapM hextet
          return high ++ List.replicate (8 - (high.length + low.length)) 0 ++ low
    | _ => none

/-- `IPv6Address(text)`, with its zone. -/
def ipv6 (text : List Char) : Option ℕ :=
  let zone := text.dropWhile (· ≠ '%')
  if zone = ['%'] ∨ '%' ∈ zone.tail then none
  else ((ipv6Parts (text.takeWhile (· ≠ '%'))).bind ipv6Pieces).map ofPieces

/-- `ipaddress.ip_address`, of a text. -/
def ipAddress (text : List Char) : Option Address :=
  ((ipv4 text).map Address.v4).or ((ipv6 text).map Address.v6)

/-- `ipaddress.ip_address`, of a number. -/
def ipAddressOfInt (n : ℤ) : Option Address :=
  if 0 ≤ n ∧ n < 2 ^ 32 then some (.v4 n.toNat)
  else if 0 ≤ n ∧ n < 2 ^ 128 then some (.v6 n.toNat)
  else none

/-- A network: the bits behind its prefix, and the prefix as a number. -/
structure Network where
  shift : ℕ
  start : ℕ
  deriving DecidableEq

/-- Whether a network has an address. -/
def Network.contains (net : Network) (n : ℕ) : Bool := n / 2 ^ net.shift == net.start

/-- `IPv4Network`. -/
def net4 (a b c d length : ℕ) : Network := ⟨32 - length, ofBytes a b c d / 2 ^ (32 - length)⟩

/-- `IPv6Network`, of the first pieces; the others are zero. -/
def net6 (pieces : List ℕ) (length : ℕ) : Network :=
  ⟨128 - length, ofPieces pieces * 2 ^ (16 * (8 - pieces.length)) / 2 ^ (128 - length)⟩

/-- Whether one of the networks has an address. -/
def within (nets : List Network) (n : ℕ) : Bool := nets.any fun net => net.contains n

/-- `_IPv4Constants._private_networks`. -/
def private4 : List Network :=
  [net4 0 0 0 0 8, net4 10 0 0 0 8, net4 127 0 0 0 8, net4 169 254 0 0 16, net4 172 16 0 0 12,
    net4 192 0 0 0 24, net4 192 0 0 170 31, net4 192 0 2 0 24, net4 192 168 0 0 16,
    net4 198 18 0 0 15, net4 198 51 100 0 24, net4 203 0 113 0 24, net4 240 0 0 0 4,
    net4 255 255 255 255 32]

/-- `_IPv4Constants._private_networks_exceptions`. -/
def publicAgain4 : List Network := [net4 192 0 0 9 32, net4 192 0 0 10 32]

/-- `IPv4Address.is_private`. -/
def isPrivate4 (n : ℕ) : Bool := within private4 n && !within publicAgain4 n

/-- `_IPv6Constants._private_networks`. -/
def private6 : List Network :=
  [net6 [0, 0, 0, 0, 0, 0, 0, 1] 128, net6 [] 128, net6 [0, 0, 0, 0, 0, 0xffff] 96,
    net6 [0x64, 0xff9b, 1] 48, net6 [0x100] 64, net6 [0x2001] 23, net6 [0x2001, 0xdb8] 32,
    net6 [0x2002] 16, net6 [0xfc00] 7, net6 [0xfe80] 10]

/-- `_IPv6Constants._private_networks_exceptions`. -/
def publicAgain6 : List Network :=
  [net6 [0x2001, 1, 0, 0, 0, 0, 0, 1] 128, net6 [0x2001, 1, 0, 0, 0, 0, 0, 2] 128,
    net6 [0x2001, 3] 32, net6 [0x2001, 4, 0x112] 48, net6 [0x2001, 0x20] 28,
    net6 [0x2001, 0x30] 28]

/-- `_IPv6Constants._reserved_networks`. -/
def reserved6 : List Network :=
  [net6 [] 8, net6 [0x100] 8, net6 [0x200] 7, net6 [0x400] 6, net6 [0x800] 5, net6 [0x1000] 4,
    net6 [0x4000] 3, net6 [0x6000] 3, net6 [0x8000] 3, net6 [0xa000] 3, net6 [0xc000] 3,
    net6 [0xe000] 4, net6 [0xf000] 5, net6 [0xf800] 6, net6 [0xfe00] 9]

namespace Address

/-- `is_private`: an IPv6 address that stands for an IPv4 address is what that is. -/
def isPrivate : Address → Bool
  | .v4 n => isPrivate4 n
  | .v6 n =>
      if n / 2 ^ 32 = 0xffff then isPrivate4 (n % 2 ^ 32)
      else within private6 n && !within publicAgain6 n

/-- `is_loopback`. -/
def isLoopback : Address → Bool
  | .v4 n => (net4 127 0 0 0 8).contains n
  | .v6 n => n == 1

/-- `is_link_local`. -/
def isLinkLocal : Address → Bool
  | .v4 n => (net4 169 254 0 0 16).contains n
  | .v6 n => (net6 [0xfe80] 10).contains n

/-- `is_multicast`. -/
def isMulticast : Address → Bool
  | .v4 n => (net4 224 0 0 0 4).contains n
  | .v6 n => (net6 [0xff00] 8).contains n

/-- `is_reserved`. -/
def isReserved : Address → Bool
  | .v4 n => (net4 240 0 0 0 4).contains n
  | .v6 n => within reserved6 n

end Address

/-! ### The resolver -/

/-- A part of an IPv4 address as `strtoul` reads it. -/
def part : List Char → Option ℕ
  | '0' :: c :: ds => if c = 'x' ∨ c = 'X' then numeral 16 ds else numeral 8 ('0' :: c :: ds)
  | ds => numeral 10 ds

/-- `inet_aton`. -/
def inetAton (text : List Char) : Option ℕ :=
  match (text.splitOn '.').mapM part with
  | some [d] => if d < 2 ^ 32 then some d else none
  | some [a, d] => if a < 256 ∧ d < 2 ^ 24 then some (a * 2 ^ 24 + d) else none
  | some [a, b, d] =>
      if a < 256 ∧ b < 256 ∧ d < 2 ^ 16 then some (a * 2 ^ 24 + b * 2 ^ 16 + d) else none
  | some [a, b, c, d] =>
      if a < 256 ∧ b < 256 ∧ c < 256 ∧ d < 256 then some (ofBytes a b c d) else none
  | _ => none

/-- **The address that the resolver reads in a host**, without asking a server: the text of one, or
the name of the machine itself. -/
def resolved (host : List Char) : Option Address :=
  if host = "localhost".toList ∨ host = "localhost.".toList then some (.v4 (ofBytes 127 0 0 1))
  else ((inetAton host).map Address.v4).or ((ipv6 host).map Address.v6)

/-- The IPv4 addresses of the machine itself, of private networks and of a link, and those at which
clouds serve the metadata of a machine. -/
def Internal4 (n : ℕ) : Prop :=
  within [net4 127 0 0 0 8, net4 10 0 0 0 8, net4 172 16 0 0 12, net4 192 168 0 0 16,
    net4 169 254 0 0 16, net4 100 100 100 200 32, net4 192 0 0 192 32] n = true

instance (n : ℕ) : Decidable (Internal4 n) := inferInstanceAs (Decidable (_ = true))

/-- An address of one of these kinds, or one that stands for such an IPv4 address. -/
def Address.Internal : Address → Prop
  | .v4 n => Internal4 n
  | .v6 n => n = 1 ∨ (net6 [0xfc00] 7).contains n = true ∨ (net6 [0xfe80] 10).contains n = true ∨
      (n / 2 ^ 32 = 0xffff ∧ Internal4 (n % 2 ^ 32))

/-- What the resolver reads beside addresses is the machine itself. -/
example : ipv6 "::ffff:127.0.0.1".toList = some (0xffff * 2 ^ 32 + ofBytes 127 0 0 1) := by
  decide

/-! ### The characters of an IPv4 address -/

/-- A character that the resolver takes in an IPv4 address. -/
def isSpelling (c : Char) : Bool := isDigitOf 16 c || c == 'x' || c == 'X' || c == '.'

theorem all_of_numeral {base n : ℕ} {ds : List Char} (h : numeral base ds = some n) :
    ds ≠ [] ∧ (∀ c ∈ ds, isDigitOf base c = true) ∧ value base ds = n := by
  rw [numeral] at h
  split_ifs at h with hds
  exact ⟨hds.1, List.all_eq_true.1 hds.2, Option.some.inj h⟩

theorem numeral_of_all {base : ℕ} {ds : List Char} (hne : ds ≠ [])
    (h : ∀ c ∈ ds, isDigitOf base c = true) : numeral base ds = some (value base ds) :=
  if_pos ⟨hne, List.all_eq_true.2 h⟩

theorem isDigitOf_iff {base : ℕ} {c : Char} :
    isDigitOf base c = true ↔ ∃ d, digitValue c = some d ∧ d < base := by
  rw [isDigitOf, Option.any_eq_true]
  simp only [decide_eq_true_eq]

/-- A digit to a base is one to a larger base. -/
theorem isDigitOf_mono {base base' : ℕ} (hle : base ≤ base') {c : Char}
    (h : isDigitOf base c = true) : isDigitOf base' c = true := by
  obtain ⟨d, hd, hlt⟩ := isDigitOf_iff.1 h
  exact isDigitOf_iff.2 ⟨d, hd, by omega⟩

/-- Digits by their code points. -/
theorem of_digitValue {c : Char} {d : ℕ} (h : digitValue c = some d) :
    (48 ≤ c.toNat ∧ c.toNat ≤ 57 ∧ d = c.toNat - 48) ∨
      (97 ≤ c.toNat ∧ c.toNat ≤ 102 ∧ d = c.toNat - 87) ∨
      (65 ≤ c.toNat ∧ c.toNat ≤ 70 ∧ d = c.toNat - 55) := by
  rw [digitValue] at h
  split_ifs at h with hdigit hsmall hcapital
  · refine .inl ?_
    simp only [Char.isDigit, Bool.and_eq_true, decide_eq_true_eq, ge_iff_le,
      UInt32.le_iff_toNat_le] at hdigit
    exact ⟨hdigit.1, hdigit.2, (Option.some.inj h).symm⟩
  · exact .inr (.inl ⟨hsmall.1, hsmall.2, (Option.some.inj h).symm⟩)
  · exact .inr (.inr ⟨hcapital.1, hcapital.2, (Option.some.inj h).symm⟩)

/-- The characters of an IPv4 address by their code points. -/
theorem of_isSpelling {c : Char} (h : isSpelling c = true) :
    (48 ≤ c.toNat ∧ c.toNat ≤ 57) ∨ (97 ≤ c.toNat ∧ c.toNat ≤ 102) ∨
      (65 ≤ c.toNat ∧ c.toNat ≤ 70) ∨ c.toNat = 120 ∨ c.toNat = 88 ∨ c.toNat = 46 := by
  simp only [isSpelling, Bool.or_eq_true, beq_iff_eq] at h
  rcases h with ((h | rfl) | rfl) | rfl
  · obtain ⟨d, hd, -⟩ := isDigitOf_iff.1 h
    rcases of_digitValue hd with h | h | h
    · exact .inl ⟨h.1, h.2.1⟩
    · exact .inr (.inl ⟨h.1, h.2.1⟩)
    · exact .inr (.inr (.inl ⟨h.1, h.2.1⟩))
  · exact .inr (.inr (.inr (.inl rfl)))
  · exact .inr (.inr (.inr (.inr (.inl rfl))))
  · exact .inr (.inr (.inr (.inr (.inr rfl))))

theorem isSpelling_of_isDigitOf {base : ℕ} (hle : base ≤ 16) {c : Char}
    (h : isDigitOf base c = true) : isSpelling c = true := by
  rw [isSpelling, isDigitOf_mono hle h]
  rfl

theorem ne_dot_of_isDigitOf {base : ℕ} {c : Char} (h : isDigitOf base c = true) : c ≠ '.' := by
  rintro rfl
  cases h

/-- The parts that are read one by one. -/
theorem forall₂_of_mapM {α β : Type} {f : α → Option β} : ∀ {l : List α} {l' : List β},
    l.mapM f = some l' → List.Forall₂ (fun a b => f a = some b) l l'
  | [], l', h => by
      obtain rfl := Option.some.inj h
      exact .nil
  | a :: l, l', h => by
      rw [List.mapM_cons] at h
      obtain ⟨b, hb, h⟩ := Option.bind_eq_some_iff.1 h
      obtain ⟨bs, hbs, h⟩ := Option.bind_eq_some_iff.1 h
      obtain rfl := Option.some.inj h
      exact .cons hb (forall₂_of_mapM hbs)

theorem mapM_of_forall₂ {α β : Type} {f : α → Option β} {l : List α} {l' : List β}
    (h : List.Forall₂ (fun a b => f a = some b) l l') : l.mapM f = some l' := by
  induction h with
  | nil => rfl
  | cons hb _ ih => rw [List.mapM_cons, hb, ih]; rfl

/-- What a part is: hexadecimal digits behind `0x`, octal digits behind a zero, or a number without
zeros before it. -/
theorem part_eq_some {ds : List Char} {n : ℕ} (h : part ds = some n) :
    (∃ c es, ds = '0' :: c :: es ∧ (c = 'x' ∨ c = 'X') ∧ numeral 16 es = some n) ∨
      (∃ c es, ds = '0' :: c :: es ∧ c ≠ 'x' ∧ c ≠ 'X' ∧ numeral 8 ds = some n) ∨
      ((ds = ['0'] ∨ ds.head? ≠ some '0') ∧ numeral 10 ds = some n) := by
  rw [part.eq_def] at h
  split at h
  · rename_i c es
    split_ifs at h with hmark
    · exact .inl ⟨c, es, rfl, hmark, h⟩
    · exact .inr (.inl ⟨c, es, rfl, fun hc => hmark (.inl hc), fun hc => hmark (.inr hc), h⟩)
  · rename_i hshape
    refine .inr (.inr ⟨?_, h⟩)
    rcases ds with _ | ⟨d, _ | ⟨c, es⟩⟩
    · exact .inr (by simp)
    · rcases eq_or_ne d '0' with rfl | hd
      · exact .inl rfl
      · exact .inr (by simpa using hd)
    · exact .inr (by simpa using fun hd => hshape c es (by rw [hd]))

theorem part_spelling {ds : List Char} {n : ℕ} (h : part ds = some n) :
    ∀ c ∈ ds, isSpelling c = true ∧ c ≠ '.' := by
  intro c hc
  rcases part_eq_some h with ⟨mark, es, rfl, hmark, hn⟩ | ⟨mark, es, -, -, -, hn⟩ | ⟨-, hn⟩
  · rcases List.mem_cons.1 hc with rfl | hc
    · exact ⟨rfl, by decide⟩
    · rcases List.mem_cons.1 hc with rfl | hc
      · rcases hmark with rfl | rfl <;> exact ⟨rfl, by decide⟩
      · have hdigit := (all_of_numeral hn).2.1 c hc
        exact ⟨isSpelling_of_isDigitOf le_rfl hdigit, ne_dot_of_isDigitOf hdigit⟩
  · have hdigit := (all_of_numeral hn).2.1 c hc
    exact ⟨isSpelling_of_isDigitOf (by omega) hdigit, ne_dot_of_isDigitOf hdigit⟩
  · have hdigit := (all_of_numeral hn).2.1 c hc
    exact ⟨isSpelling_of_isDigitOf (by omega) hdigit, ne_dot_of_isDigitOf hdigit⟩

/-- Every part of a text that the resolver reads is a number. -/
theorem parts_of_inetAton {host : List Char} {n : ℕ} (h : inetAton host = some n) :
    ∃ ns, List.Forall₂ (fun p m => part p = some m) (host.splitOn '.') ns := by
  rw [inetAton] at h
  cases hns : (host.splitOn '.').mapM part with
  | none =>
      rw [hns] at h
      cases h
  | some ns => exact ⟨ns, forall₂_of_mapM hns⟩

/-- **An address that the resolver reads is digits, dots and the marks of hexadecimal parts.** -/
theorem inetAton_spelling {host : List Char} {n : ℕ} (h : inetAton host = some n) :
    ∀ c ∈ host, isSpelling c = true := by
  obtain ⟨ns, hns⟩ := parts_of_inetAton h
  intro c hc
  rw [← @List.intercalate_splitOn _ host _ _ '.'] at hc
  rcases Addresses.mem_intercalate hc with h | ⟨p, hp, h⟩
  · obtain rfl := List.mem_singleton.1 h
    rfl
  · obtain ⟨i, hi, rfl⟩ := List.mem_iff_getElem.1 hp
    have hlength := hns.length_eq
    exact (part_spelling (hns.get hi (by omega)) c h).1

/-- No address is larger than 32 bits. -/
theorem inetAton_lt {host : List Char} {n : ℕ} (h : inetAton host = some n) : n < 2 ^ 32 := by
  rw [inetAton] at h
  unfold ofBytes at h
  split at h
  · split_ifs at h with hlt
    obtain rfl := Option.some.inj h
    exact hlt
  · split_ifs at h with hlt
    obtain rfl := Option.some.inj h
    omega
  · split_ifs at h with hlt
    obtain rfl := Option.some.inj h
    omega
  · split_ifs at h with hlt
    obtain rfl := Option.some.inj h
    omega
  · cases h

/-! ### What else reads them -/

/-- A byte in decimal is a part. -/
theorem part_of_octet {text : List Char} {n : ℕ} (h : octet text = some n) :
    part text = some n ∧ n < 256 := by
  rw [octet] at h
  split_ifs at h with hshape
  obtain ⟨hn, hle⟩ := Option.filter_eq_some_iff.1 h
  refine ⟨?_, by simpa [Nat.lt_succ_iff] using hle⟩
  rw [part.eq_def]
  split
  · rename_i c es
    rcases hshape.2 with h | h
    · cases h
    · exact absurd rfl h
  · exact hn

/-- **Four plain bytes are read alike.** -/
theorem inetAton_of_ipv4 {host : List Char} {n : ℕ} (h : ipv4 host = some n) :
    inetAton host = some n := by
  rw [ipv4] at h
  split at h
  · rename_i a b c d hbytes
    obtain rfl := Option.some.inj h
    have hparts := (forall₂_of_mapM hbytes).imp fun _ _ hp => (part_of_octet hp).1
    have hlt : ∀ m ∈ [a, b, c, d], m < 256 := by
      intro m hm
      obtain ⟨i, hi, rfl⟩ := List.mem_iff_getElem.1 hm
      have hlength := (forall₂_of_mapM hbytes).length_eq
      exact (part_of_octet ((forall₂_of_mapM hbytes).get (by omega) hi)).2
    rw [inetAton, mapM_of_forall₂ hparts]
    exact if_pos ⟨hlt a (by simp), hlt b (by simp), hlt c (by simp), hlt d (by simp)⟩
  · cases h

theorem ipv6Parts_eq_none {text : List Char} (hcolon : ':' ∉ text) : ipv6Parts text = none := by
  rw [ipv6Parts, List.splitOn_eq_singleton hcolon]
  exact if_pos (by rw [List.length_singleton]; omega)

/-- An IPv6 address has colons, so it is no IPv4 address. -/
theorem ipv6_eq_none {host : List Char} (hcolon : ':' ∉ host) : ipv6 host = none := by
  rw [ipv6, ipv6Parts_eq_none fun h => hcolon ((List.takeWhile_prefix _).subset h)]
  split_ifs <;> rfl

theorem separated_eq_numeral {base : ℕ} {text : List Char} (h : '_' ∉ text) :
    separated base text = numeral base text := by
  rw [separated, List.splitOn_eq_singleton h]
  simp only [List.flatten_singleton, List.mem_singleton]
  split_ifs with hnil
  · obtain rfl := hnil
    rfl
  · rfl

/-- A number has no dot. -/
theorem separated_dot {base : ℕ} {text : List Char} (h : '.' ∈ text) :
    separated base text = none := by
  simp only [separated]
  split_ifs with hnil
  · rfl
  · refine if_neg fun hall => ?_
    rw [← @List.intercalate_splitOn _ text _ _ '_'] at h
    rcases Addresses.mem_intercalate h with h | ⟨p, hp, h⟩
    · cases List.mem_singleton.1 h
    · exact ne_dot_of_isDigitOf
        (List.all_eq_true.1 hall.2 '.' (List.mem_flatten.2 ⟨p, hp, h⟩)) rfl

theorem prefixed_dot {base : ℕ} {text : List Char} (h : '.' ∈ text) :
    prefixed base text = none := by
  rw [prefixed.eq_def]
  split
  · exact separated_dot (by simpa using h)
  · exact separated_dot h

theorem unsigned_dot {text : List Char} (h : '.' ∈ text) : unsigned text = none := by
  rw [unsigned.eq_def]
  split
  · rename_i c text
    split_ifs with hx ho hb
    · exact prefixed_dot (by rcases hx with rfl | rfl <;> simpa using h)
    · exact prefixed_dot (by rcases ho with rfl | rfl <;> simpa using h)
    · exact prefixed_dot (by rcases hb with rfl | rfl <;> simpa using h)
    · rw [separated_dot h]
      rfl
  · exact separated_dot h

/-- What is not white space is not stripped. -/
theorem mem_strip {c : Char} {text : List Char} (h : c ∈ text) (hc : isAsciiSpace c = false) :
    c ∈ (text.dropWhile isAsciiSpace).rdropWhile isAsciiSpace := by
  have hdrop {l : List Char} (hl : c ∈ l) : c ∈ l.dropWhile isAsciiSpace := by
    rw [← List.takeWhile_append_dropWhile (p := isAsciiSpace) (l := l)] at hl
    rcases List.mem_append.1 hl with hl | hl
    · have hspace := List.mem_takeWhile_imp hl
      rw [hc] at hspace
      cases hspace
    · exact hl
  rw [List.rdropWhile, List.mem_reverse]
  exact hdrop (List.mem_reverse.2 (hdrop h))

/-- **`int(text, 0)` reads no text with a dot.** -/
theorem int0_dot (digit : Char → Option ℕ) {text : List Char} (h : '.' ∈ text) :
    int0 digit text = none := by
  have hmem : '.' ∈ ((text.map (transformed digit)).dropWhile isAsciiSpace).rdropWhile
      isAsciiSpace := mem_strip (List.mem_map.2 ⟨'.', h, rfl⟩) rfl
  rw [int0]
  generalize ((text.map (transformed digit)).dropWhile isAsciiSpace).rdropWhile isAsciiSpace =
    stripped at hmem ⊢
  split
  · rw [unsigned_dot (by simpa using hmem)]
    rfl
  · rw [unsigned_dot (by simpa using hmem)]
    rfl
  · rw [unsigned_dot hmem]
    rfl

/-- Nothing is stripped of a text without white space. -/
theorem strip_eq_self {text : List Char} (h : ∀ c ∈ text, isAsciiSpace c = false) :
    (text.dropWhile isAsciiSpace).rdropWhile isAsciiSpace = text := by
  have hdrop {l : List Char} (hl : ∀ c ∈ l, isAsciiSpace c = false) :
      l.dropWhile isAsciiSpace = l := by
    cases l with
    | nil => rfl
    | cons c l =>
        refine List.dropWhile_cons_of_neg ?_
        rw [hl c List.mem_cons_self]
        exact Bool.false_ne_true
  rw [hdrop h, List.rdropWhile, hdrop fun c hc => h c (List.mem_reverse.1 hc), List.reverse_reverse]

theorem not_isAsciiSpace_of_isSpelling {c : Char} (h : isSpelling c = true) :
    isAsciiSpace c = false := by
  have hcode := of_isSpelling h
  rw [isAsciiSpace, Bool.or_eq_false_iff]
  constructor
  · rw [Bool.and_eq_false_iff, decide_eq_false_iff_not, decide_eq_false_iff_not]
    omega
  · refine beq_false_of_ne ?_
    rintro rfl
    revert hcode
    decide

/-- Of the text of an IPv4 address `int(text, 0)` reads all. -/
theorem int0_spelling (digit : Char → Option ℕ) {text : List Char}
    (h : ∀ c ∈ text, isSpelling c = true) :
    int0 digit text = (unsigned text).map fun n => (n : ℤ) := by
  have hascii : text.map (transformed digit) = text := by
    have heq : ∀ c ∈ text, transformed digit c = id c := fun c hc => by
      have hcode := of_isSpelling (h c hc)
      exact if_pos (by omega)
    rw [List.map_congr_left heq, List.map_id]
  rw [int0, hascii, strip_eq_self fun c hc => not_isAsciiSpace_of_isSpelling (h c hc)]
  split
  · cases h '-' List.mem_cons_self
  · cases h '+' List.mem_cons_self
  · rfl

/-- A number that begins with a zero and no mark of another base than eight. -/
def OctalLed (text : List Char) : Prop :=
  ∃ c es, text = '0' :: c :: es ∧ c ≠ 'x' ∧ c ≠ 'X'

/-- A text without dots is one part. -/
theorem part_of_inetAton {host : List Char} {n : ℕ} (hdot : '.' ∉ host)
    (h : inetAton host = some n) : part host = some n := by
  rw [inetAton, List.splitOn_eq_singleton hdot, List.mapM_cons] at h
  cases hpart : part host with
  | none =>
      rw [hpart] at h
      cases h
  | some m =>
      have hm : (if m < 2 ^ 32 then some m else none) = some n := by
        rw [hpart] at h
        exact h
      split_ifs at hm
      exact hm

theorem underscore_notMem {host : List Char} (h : ∀ c ∈ host, isSpelling c = true) :
    '_' ∉ host := fun hmem => by cases h '_' hmem

/-- **A hexadecimal or a decimal number is read alike.** -/
theorem int0_of_inetAton (digit : Char → Option ℕ) {host : List Char} {n : ℕ}
    (h : inetAton host = some n) (hdot : '.' ∉ host) (hoctal : ¬ OctalLed host) :
    int0 digit host = some (n : ℤ) := by
  have hspelling := inetAton_spelling h
  have hno := underscore_notMem hspelling
  rw [int0_spelling digit hspelling]
  rcases part_eq_some (part_of_inetAton hdot h) with
    ⟨c, es, rfl, hmark, hn⟩ | ⟨c, es, heq, hx, hX, -⟩ | ⟨hshape, hn⟩
  · have hes : '_' ∉ es := fun hmem =>
      hno (List.mem_cons_of_mem _ (List.mem_cons_of_mem _ hmem))
    have hprefixed : prefixed 16 es = some n := by
      rw [prefixed.eq_def]
      split
      · exact absurd List.mem_cons_self hes
      · rw [separated_eq_numeral hes, hn]
    rw [unsigned, if_pos hmark, hprefixed]
    rfl
  · exact absurd ⟨c, es, heq, hx, hX⟩ hoctal
  · have hunsigned : unsigned host = separated 10 host := by
      rw [unsigned.eq_def]
      split
      · rcases hshape with h | h
        · cases h
        · exact absurd rfl h
      · rfl
    rw [hunsigned, separated_eq_numeral hno, hn]
    rfl

/-- A number is zero when all its digits are, to whatever base. -/
theorem value_eq_zero_iff {base : ℕ} (hbase : 0 < base) {ds : List Char} :
    value base ds = 0 ↔ ∀ c ∈ ds, (digitValue c).getD 0 = 0 := by
  induction ds using List.reverseRecOn with
  | nil => simp [value]
  | append_singleton ds d ih =>
      have hsnoc : value base (ds ++ [d]) = value base ds * base + (digitValue d).getD 0 := by
        rw [value, List.foldl_append]
        rfl
      rw [hsnoc, Nat.add_eq_zero_iff, Nat.mul_eq_zero, ih]
      simp only [List.mem_append, List.mem_singleton]
      constructor
      · rintro ⟨hds | hbase', hd⟩ c (hc | rfl)
        · exact hds c hc
        · exact hd
        · omega
        · exact hd
      · exact fun hall => ⟨.inl fun c hc => hall c (.inl hc), hall d (.inr rfl)⟩

/-- **A number that begins with a zero is not read**, unless it is zero. -/
theorem int0_octal (digit : Char → Option ℕ) {host : List Char} {n : ℕ}
    (h : inetAton host = some n) (hdot : '.' ∉ host) (hoctal : OctalLed host) (hn : n ≠ 0) :
    int0 digit host = none := by
  have hspelling := inetAton_spelling h
  have hno := underscore_notMem hspelling
  obtain ⟨c, es, rfl, hx, hX⟩ := hoctal
  have hpart : numeral 8 ('0' :: c :: es) = some n := by
    have hpart := part_of_inetAton hdot h
    rw [part, if_neg (not_or.2 ⟨hx, hX⟩)] at hpart
    exact hpart
  obtain ⟨hne, hdigits, hvalue⟩ := all_of_numeral hpart
  have hc := hdigits c (.tail _ List.mem_cons_self)
  have hdecimal : separated 10 ('0' :: c :: es) = some (value 10 ('0' :: c :: es)) := by
    rw [separated_eq_numeral hno, numeral_of_all hne fun d hd => isDigitOf_mono (by omega) (hdigits d hd)]
  have hnonzero : value 10 ('0' :: c :: es) ≠ 0 := fun hzero => by
    rw [value_eq_zero_iff (by omega), ← @value_eq_zero_iff 8 (by omega), hvalue] at hzero
    exact hn hzero
  have hb : ¬ (c = 'b' ∨ c = 'B') := by
    rintro (rfl | rfl) <;> cases hc
  have ho : ¬ (c = 'o' ∨ c = 'O') := by
    rintro (rfl | rfl) <;> cases hc
  rw [int0_spelling digit hspelling, unsigned, if_neg (not_or.2 ⟨hx, hX⟩), if_neg ho, if_neg hb,
    hdecimal, Option.filter_some, if_neg (by simpa using hnonzero)]
  rfl

/-! ### The ranges -/

theorem ipAddressOfInt_of_lt {n : ℕ} (h : n < 2 ^ 32) : ipAddressOfInt n = some (.v4 n) := by
  rw [ipAddressOfInt, if_pos ⟨by omega, by exact_mod_cast h⟩, Int.toNat_natCast]

/-- One of the flags by which an address is not public. -/
def Address.isSpecial (address : Address) : Bool :=
  address.isPrivate || address.isLoopback || address.isLinkLocal || address.isMulticast ||
    address.isReserved

/-- The address at which one of the clouds serves metadata, in the range shared by carriers. -/
def sharedMetadata : ℕ := ofBytes 100 100 100 200

theorem within_of_mem {nets : List Network} {net : Network} {n : ℕ} (hnet : net ∈ nets)
    (h : net.contains n = true) : within nets n = true := List.any_eq_true.2 ⟨net, hnet, h⟩

/-- A network of one address. -/
theorem eq_of_contains_32 {a b c d n : ℕ} (h : (net4 a b c d 32).contains n = true) :
    n = ofBytes a b c d := by
  rw [Network.contains, beq_iff_eq] at h
  simpa [net4] using h

/-- An internal IPv4 address is private, but for one. -/
theorem isPrivate4_of_internal {n : ℕ} (h : Internal4 n) (hne : n ≠ sharedMetadata) :
    isPrivate4 n = true := by
  have hout : within publicAgain4 n = false := by
    rw [Bool.eq_false_iff]
    intro hin
    simp only [within, publicAgain4, List.any_cons, List.any_nil, Bool.or_false,
      Bool.or_eq_true] at hin
    rcases hin with hin | hin <;> obtain rfl := eq_of_contains_32 hin <;>
      exact absurd h (by decide)
  have hprivate : within private4 n = true := by
    simp only [Internal4, within, List.any_cons, List.any_nil, Bool.or_false,
      Bool.or_eq_true] at h
    rcases h with h | h | h | h | h | h | h
    · exact within_of_mem (by decide) h
    · exact within_of_mem (by decide) h
    · exact within_of_mem (by decide) h
    · exact within_of_mem (by decide) h
    · exact within_of_mem (by decide) h
    · exact absurd (eq_of_contains_32 h) hne
    · obtain rfl := eq_of_contains_32 h
      decide
  rw [isPrivate4, hout, hprivate]
  rfl

theorem isSpecial_sharedMetadata : (Address.v4 sharedMetadata).isSpecial = false := by
  decide

/-- A unique local address is private. -/
theorem isPrivate_of_uniqueLocal {n : ℕ} (h : (net6 [0xfc00] 7).contains n = true) :
    (Address.v6 n).isPrivate = true := by
  have hbound : n / 2 ^ 121 = 126 := by
    rw [Network.contains, beq_iff_eq] at h
    exact h
  have hout : within publicAgain6 n = false := by
    rw [Bool.eq_false_iff]
    intro hin
    obtain ⟨net, hnet, hcontains⟩ := List.any_eq_true.1 hin
    have hsmall : ∀ net ∈ publicAgain6, (net.start + 1) * 2 ^ net.shift ≤ 2 ^ 127 := by
      decide
    rw [Network.contains, beq_iff_eq] at hcontains
    have hlt : n < (net.start + 1) * 2 ^ net.shift := by
      rw [← hcontains]
      exact Nat.lt_mul_of_div_lt (Nat.lt_succ_self _) (Nat.two_pow_pos _)
    have := hsmall net hnet
    omega
  rw [Address.isPrivate, if_neg (by omega), within_of_mem (by decide) h, hout]
  rfl

/-- **Every internal address has one of the flags**, but for the shared one. -/
theorem isSpecial_of_internal {address : Address} (h : address.Internal)
    (hne : address ≠ .v4 sharedMetadata) : address.isSpecial = true := by
  cases address with
  | v4 n =>
      have hprivate : (Address.v4 n).isPrivate = true :=
        isPrivate4_of_internal h fun hn => hne (by rw [hn])
      rw [Address.isSpecial, hprivate]
      rfl
  | v6 n =>
      rcases h with rfl | hunique | hlink | ⟨hmapped, -⟩
      · decide
      · rw [Address.isSpecial, isPrivate_of_uniqueLocal hunique]
        rfl
      · have hlink' : (Address.v6 n).isLinkLocal = true := hlink
        rw [Address.isSpecial, hlink']
        simp
      · have hreserved : (Address.v6 n).isReserved = true := by
          refine @within_of_mem _ (net6 [] 8) _ (by decide) ?_
          rw [Network.contains, beq_iff_eq]
          show n / 2 ^ 120 = 0
          omega
        rw [Address.isSpecial, hreserved]
        simp

/-- A host that the resolver reads as an internal address. -/
def ReadsInternal (host : List Char) : Prop :=
  ∃ address, resolved host = some address ∧ address.Internal

/-- **A text of which the resolver makes an IPv4 address is one for Python** when it is four plain
bytes. -/
theorem ipAddress_of_inetAton {host : List Char} {n : ℕ} (h : inetAton host = some n) :
    ipAddress host = if (ipv4 host).isSome then some (.v4 n) else none := by
  have hcolon : ':' ∉ host := fun hmem => by cases inetAton_spelling h ':' hmem
  rw [ipAddress, ipv6_eq_none hcolon]
  cases hipv4 : ipv4 host with
  | none => rfl
  | some m =>
      obtain rfl := Option.some.inj (h.symm.trans (inetAton_of_ipv4 hipv4))
      rfl

/-- **An IPv6 address is the same for both.** -/
theorem ipAddress_of_resolved_v6 {host : List Char} {n : ℕ} (h : resolved host = some (.v6 n)) :
    ipAddress host = some (.v6 n) := by
  rw [resolved] at h
  split_ifs at h with hlocal
  · cases h
  · cases haton : inetAton host with
    | some m =>
        rw [haton] at h
        cases h
    | none =>
        rw [haton] at h
        have hipv4 : ipv4 host = none := by
          cases hipv4 : ipv4 host with
          | none => rfl
          | some m =>
              rw [inetAton_of_ipv4 hipv4] at haton
              cases haton
        rw [ipAddress, hipv4]
        exact h

/-- The capital letters of IPv4 addresses have small ones that are no digits. -/
theorem toLower_of_capital : ∀ k ∈ [65, 66, 67, 68, 69, 70, 88],
    isSpelling (Char.ofNat k).toLower = true ∧ 97 ≤ (Char.ofNat k).toLower.toNat := by decide

/-- A character of an IPv4 address is itself in small letters or becomes a letter of one. -/
theorem toLower_of_isSpelling {c : Char} (h : isSpelling c = true) :
    c.toLower = c ∨ (isSpelling c.toLower = true ∧ 97 ≤ c.toLower.toNat) := by
  have hcode := of_isSpelling h
  by_cases hcapital : c.toNat ∈ [65, 66, 67, 68, 69, 70, 88]
  · have hsmall := toLower_of_capital c.toNat hcapital
    rw [Char.ofNat_toNat] at hsmall
    exact .inr hsmall
  · refine .inl (dif_neg fun hupper => hcapital ?_)
    have hrange : 65 ≤ c.toNat ∧ c.toNat ≤ 90 := hupper
    simp only [List.mem_cons, List.not_mem_nil, or_false]
    omega

end HostAddresses
end AgenticCommerce
