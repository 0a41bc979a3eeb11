/-
# The guard of caller-supplied base URLs

`checkOutboundUrl` of `apps/web/src/lib/outboundUrl.ts`: the URL is parsed by the platform's
parser, and its host is then looked at as a text, by patterns for IPv4 and IPv6 literals.

The parser is the argument `parse`.  What the standard says of it is in the type of a host: a
domain in small letters, an IPv4 address or an IPv6 address, with the text that the standard
serialises it to.
-/

import AgenticCommerce.Text.Addresses
import AgenticCommerce.Text.Regex
import AgenticCommerce.Text.Strings

namespace AgenticCommerce
namespace Access
namespace OutboundUrl

open Addresses

/-- The host of a parsed URL; `other` is a host of a scheme that is not special. -/
inductive Host where
  | domain (name : List Char) (lower : name.map Char.toLower = name)
  | ipv4 (x : Ipv4)
  | ipv6 (x : Ipv6)
  | other (text : List Char)

/-- `url.hostname`. -/
def Host.hostname : Host → List Char
  | domain name _ => name
  | ipv4 x => x.serialize
  | ipv6 x => x.serialize
  | other text => text

/-- A parsed URL, as far as the guard reads it. -/
structure URL where
  protocol : List Char
  username : List Char
  password : List Char
  host : Host

/-- `OutboundUrlCheck`. -/
inductive OutboundUrlCheck where
  | ok (url : URL)
  | refused (reason : String)

/-- `BLOCKED_HOSTNAMES`. -/
def blockedHostnames : List (List Char) :=
  ["metadata.google.internal", "metadata.goog", "metadata", "instance-data",
   "instance-data.ec2.internal"].map String.toList

/-- `LOOPBACK_HOSTNAMES`. -/
def loopbackHostnames : List (List Char) :=
  ["localhost", "ip6-localhost", "ip6-loopback"].map String.toList

/-- The numbers of `^(\d{1,3})\.(\d{1,3})\.(\d{1,3})\.(\d{1,3})$`. -/
def dottedQuad (host : List Char) : Option (List ℕ) :=
  let parts := host.splitOn '.'
  if parts.length = 4 ∧ ∀ part ∈ parts, part.all Char.isDigit ∧ 1 ≤ part.length ∧ part.length ≤ 3
  then some (parts.map Json.readNat) else none

/-- The ranges of `isBlockedIpv4`, by the first two numbers of an address. -/
def blockedRange (a b : ℕ) : Bool :=
  a == 0 || a == 10 || (a == 100 && 64 ≤ b && b ≤ 127) || (a == 169 && b == 254) ||
    (a == 172 && 16 ≤ b && b ≤ 31) || (a == 192 && b == 0) || (a == 192 && b == 168) ||
    (a == 198 && (b == 18 || b == 19)) || 224 ≤ a

/-- `isBlockedIpv4`. -/
def isBlockedIpv4 (host : List Char) : Bool :=
  match dottedQuad host with
  | some (a :: b :: _) => blockedRange a b
  | _ => false

/-- A literal character of a pattern. -/
def literal (c : Char) : Regex := .one (· == c)

/-- `^f[cd][0-9a-f]{2}:`. -/
def uniqueLocalPattern : Regex :=
  .all [literal 'f', .one fun c => c == 'c' || c == 'd', .one isHex, .one isHex, literal ':']

/-- `^fe[89ab][0-9a-f]:`. -/
def linkLocalPattern : Regex :=
  .all [literal 'f', literal 'e', .one fun c => c == '8' || c == '9' || c == 'a' || c == 'b',
    .one isHex, literal ':']

/-- `host.replace(/^\[/, "").replace(/\]$/, "")`. -/
def withoutBrackets (host : List Char) : List Char :=
  let host := if host.head? = some '[' then host.tail else host
  if host.getLast? = some ']' then host.dropLast else host

/-- `isBlockedIpv6`. -/
def isBlockedIpv6 (host : List Char) : Bool :=
  let h := (withoutBrackets host).map Char.toLower
  if h = "::1".toList ∨ h = "0:0:0:0:0:0:0:1".toList then false
  else if h = "::".toList ∨ h = "0:0:0:0:0:0:0:0".toList then true
  else if Strings.startsWith "::ffff:".toList h then isBlockedIpv4 (h.drop 7)
  else uniqueLocalPattern.matchesHere h || linkLocalPattern.matchesHere h

/-- What is left of `checkOutboundUrl` once the URL is parsed. -/
def checkUrl (url : URL) : OutboundUrlCheck :=
  if url.protocol ≠ "http:".toList ∧ url.protocol ≠ "https:".toList then
    .refused "Only http and https base URLs are supported."
  else if url.username ≠ [] ∨ url.password ≠ [] then
    .refused "Credentials in the base URL are not supported."
  else
    let host := url.host.hostname.map Char.toLower
    if host = [] then .refused "The base URL is missing a host."
    else if host ∈ blockedHostnames then
      .refused "That host is not an allowed inference endpoint."
    else if host ∈ loopbackHostnames ∨ Strings.endsWith ".localhost".toList host then .ok url
    else if isBlockedIpv4 host || isBlockedIpv6 host then
      .refused ("Private, link-local, and cloud-metadata addresses are blocked. Only a loopback " ++
        "address (for Ollama / LM Studio) or a public endpoint host is allowed.")
    else .ok url

/-- The white space that `trim` of JavaScript drops. -/
def isJsSpace (c : Char) : Bool :=
  let n := c.toNat
  (9 ≤ n && n ≤ 13) || n == 32 || n == 0xa0 || n == 0x1680 || (0x2000 ≤ n && n ≤ 0x200a) ||
    n == 0x2028 || n == 0x2029 || n == 0x202f || n == 0x205f || n == 0x3000 || n == 0xfeff

/-- `raw.trim()`. -/
def trim (raw : List Char) : List Char :=
  ((raw.dropWhile isJsSpace).reverse.dropWhile isJsSpace).reverse

variable (parse : List Char → Option URL)

/-- `checkOutboundUrl`; a value that is no string is `none`. -/
def checkOutboundUrl (raw : Option (List Char)) : OutboundUrlCheck :=
  match raw.map trim with
  | none | some [] => .refused "A base URL is required."
  | some text =>
      match parse text with
      | none => .refused "The base URL is not a valid absolute URL."
      | some url => checkUrl url

/-! ### What a host stands for -/

/-- A host that stands for a private, link-local, unspecified or metadata address, loopback
apart: an address of such a kind, or the name of a metadata service, whose last dot says
nothing. -/
def Forbidden : Host → Prop
  | .domain name _ => name ∈ blockedHostnames ∨ ∃ known ∈ blockedHostnames, name = known ++ ['.']
  | .ipv4 x => x.isInternal = true
  | .ipv6 x => x.Internal
  | .other _ => False

/-- The forbidden hosts that the patterns miss: an IPv4 address written as IPv6, and the name of a
metadata service with a last dot. -/
def Slips : Host → Prop
  | .domain name _ => ∃ known ∈ blockedHostnames, name = known ++ ['.']
  | .ipv6 x => ∃ y : Ipv4, x = Ipv6.mapped y ∧ y.isInternal = true
  | _ => False

/-- A URL of a web scheme without credentials. -/
def Plain (url : URL) : Prop :=
  (url.protocol = "http:".toList ∨ url.protocol = "https:".toList) ∧
    url.username = [] ∧ url.password = []

/-- A URL that the guard lets through. -/
def Accepted (url : URL) : Prop := checkUrl url = .ok url

/-- What the guard refuses in a host, once the URL is plain. -/
def hostRefused (host : List Char) : Bool :=
  host == [] || blockedHostnames.contains host ||
    (!(loopbackHostnames.contains host || Strings.endsWith ".localhost".toList host) &&
      (isBlockedIpv4 host || isBlockedIpv6 host))

/-- **A URL is accepted when it is plain and its host is not refused.** -/
theorem accepted_iff (url : URL) : Accepted url ↔
    Plain url ∧ hostRefused (url.host.hostname.map Char.toLower) = false := by
  unfold Accepted checkUrl Plain hostRefused
  dsimp only
  generalize url.host.hostname.map Char.toLower = host
  split_ifs <;> grind

theorem checkUrl_eq_ok {url url' : URL} (h : checkUrl url = .ok url') : url' = url := by
  unfold checkUrl at h
  dsimp only at h
  split_ifs at h <;> cases h <;> rfl

/-! ### Texts of IPv4 addresses -/

/-- The digits of a byte: one to three. -/
theorem decimal_byte : ∀ n < 256, (Json.decimal n).all Char.isDigit ∧
    1 ≤ (Json.decimal n).length ∧ (Json.decimal n).length ≤ 3 := by
  decide +kernel

theorem dot_notMem_decimal (n : ℕ) : '.' ∉ Json.decimal n := by
  intro h
  have := Json.decimal_isDigit n '.' h
  revert this
  decide

theorem splitOn_serialize (x : Ipv4) :
    x.serialize.splitOn '.' = x.bytes.map Json.decimal := by
  have hparts : ∀ part ∈ x.bytes.map Json.decimal, '.' ∉ part := by
    intro part hpart
    obtain ⟨n, -, rfl⟩ := List.mem_map.1 hpart
    exact dot_notMem_decimal n
  exact List.splitOn_intercalate '.' hparts (by simp [Ipv4.bytes])

/-- **The pattern reads the bytes of an address out of its text.** -/
theorem dottedQuad_serialize (x : Ipv4) : dottedQuad x.serialize = some x.bytes := by
  have hparts : ∀ part ∈ x.bytes.map Json.decimal, part.all Char.isDigit ∧ 1 ≤ part.length ∧
      part.length ≤ 3 := by
    intro part hpart
    obtain ⟨n, hn, rfl⟩ := List.mem_map.1 hpart
    refine decimal_byte n ?_
    have := x.a.isLt
    have := x.b.isLt
    have := x.c.isLt
    have := x.d.isLt
    simp only [Ipv4.bytes, List.mem_cons, List.not_mem_nil, or_false] at hn
    omega
  have hread : (x.bytes.map Json.decimal).map Json.readNat = x.bytes := by
    simp [Ipv4.bytes, Json.readNat_decimal]
  unfold dottedQuad
  dsimp only
  rw [splitOn_serialize, if_pos ⟨by simp [Ipv4.bytes], hparts⟩, hread]

theorem isBlockedIpv4_serialize (x : Ipv4) :
    isBlockedIpv4 x.serialize = blockedRange x.a x.b := by
  unfold isBlockedIpv4
  rw [dottedQuad_serialize]
  rfl

/-- The ranges of the guard hold every internal address. -/
theorem blockedRange_of_isInternal {x : Ipv4} (h : x.isInternal = true) :
    blockedRange x.a x.b = true := by
  simp only [Ipv4.isInternal, Ipv4.isPrivate, Ipv4.isLinkLocal, Ipv4.isUnspecified,
    Ipv4.isMetadata, Ipv4.bytes, Bool.or_eq_true, Bool.and_eq_true, beq_iff_eq,
    decide_eq_true_eq, List.contains_iff_mem, List.mem_cons, List.cons.injEq, List.not_mem_nil,
    or_false, and_true] at h
  generalize x.a.val = a at h
  generalize x.b.val = b at h
  rcases h with ((((rfl | ⟨⟨rfl, hlow⟩, hhigh⟩) | ⟨rfl, rfl⟩) | ⟨rfl, rfl⟩) | ⟨rfl, -⟩) |
    ⟨rfl, rfl, -⟩ | ⟨rfl, rfl, -⟩ | ⟨rfl, rfl, -⟩
  · rfl
  · simp [blockedRange, hlow, hhigh]
  all_goals rfl

/-! ### Texts of addresses among the names -/

/-- Every name that the guard knows has a letter that no address is written with. -/
theorem names_not_address : ∀ known ∈ ".localhost".toList :: (blockedHostnames ++ loopbackHostnames),
    known.all isAddressChar = false := by
  decide

/-- **The text of an address is looked at by the two patterns alone.** -/
theorem hostRefused_address {host : List Char} (hne : host ≠ [])
    (h : ∀ c ∈ host, isAddressChar c = true) :
    hostRefused (host.map Char.toLower) = (isBlockedIpv4 host || isBlockedIpv6 host) := by
  have hlower : host.map Char.toLower = host := by
    rw [List.map_congr_left fun c hc => toLower_of_isAddressChar (h c hc), List.map_id']
  have hname : ∀ known ∈ ".localhost".toList :: (blockedHostnames ++ loopbackHostnames),
      ¬ known <:+: host := by
    intro known hknown hinside
    have hall : known.all isAddressChar = true :=
      List.all_eq_true.2 fun c hc => h c (hinside.mem hc)
    rw [names_not_address known hknown] at hall
    cases hall
  have hblocked : host ∉ blockedHostnames := fun hmem =>
    hname host (by simp [hmem]) (List.infix_refl _)
  have hloopback : host ∉ loopbackHostnames := fun hmem =>
    hname host (by simp [hmem]) (List.infix_refl _)
  have hends : Strings.endsWith ".localhost".toList host = false :=
    Bool.eq_false_iff.2 fun hends =>
      hname _ (List.mem_cons_self ..) (Strings.endsWith_iff.1 hends).isInfix
  have hempty : (host == []) = false := beq_false_of_ne hne
  simp only [hlower, hostRefused, hempty, hends, List.contains_eq_mem, decide_eq_false hblocked,
    decide_eq_false hloopback, Bool.or_self, Bool.not_false, Bool.true_and, Bool.false_or]

/-- What the IPv4 pattern takes is digits and dots. -/
theorem isBlockedIpv4_of_other {host : List Char} {c : Char} (hc : c ∈ host)
    (hdigit : c.isDigit = false) (hdot : c ≠ '.') : isBlockedIpv4 host = false := by
  have hnone : dottedQuad host = none := by
    unfold dottedQuad
    dsimp only
    refine if_neg ?_
    rintro ⟨-, hparts⟩
    have hjoin : ['.'].intercalate (host.splitOn '.') = host := List.intercalate_splitOn '.'
    rw [← hjoin] at hc
    rcases mem_intercalate hc with h | ⟨part, hpart, h⟩
    · exact hdot (List.mem_singleton.1 h)
    · have := List.all_eq_true.1 (hparts part hpart).1 c h
      rw [hdigit] at this
      cases this
  rw [isBlockedIpv4, hnone]

/-- A text without brackets stays as it is. -/
theorem withoutBrackets_eq {host : List Char} (hopen : '[' ∉ host) (hclose : ']' ∉ host) :
    withoutBrackets host = host := by
  have hhead : host.head? ≠ some '[' := fun h => hopen (List.mem_of_head? h)
  have hlast : host.getLast? ≠ some ']' := fun h => hclose (List.mem_of_getLast? h)
  simp [withoutBrackets, hhead, hlast]

theorem withoutBrackets_serialize (x : Ipv6) : withoutBrackets x.serialize = compressed x.pieces := by
  simp [withoutBrackets, Ipv6.serialize]

/-- The patterns of IPv6 begin with one letter. -/
theorem pattern_head {c : Char} {text : List Char} (h : c ≠ 'f') :
    uniqueLocalPattern.matchesHere (c :: text) = false ∧
      linkLocalPattern.matchesHere (c :: text) = false := by
  have hc : (c == 'f') = false := beq_false_of_ne h
  constructor
  · rw [uniqueLocalPattern, Regex.all, List.foldr_cons, literal, Regex.matchesHere_one, hc,
      Bool.false_and]
  · rw [linkLocalPattern, Regex.all, List.foldr_cons, literal, Regex.matchesHere_one, hc,
      Bool.false_and]

/-- The IPv6 patterns refuse no IPv4 address. -/
theorem isBlockedIpv6_serialize_ipv4 (x : Ipv4) : isBlockedIpv6 x.serialize = false := by
  have hchars := x.serialize_chars
  have hnot : ∀ c, c.isDigit = false → c ≠ '.' → c ∉ x.serialize := by
    intro c hdigit hdot hc
    rcases hchars c hc with h | h
    · rw [hdigit] at h
      cases h
    · exact hdot h
  have hcolon : ':' ∉ x.serialize := hnot ':' (by decide) (by decide)
  have hlower : x.serialize.map Char.toLower = x.serialize := by
    refine (List.map_congr_left fun c hc => toLower_of_isAddressChar ?_).trans (List.map_id' _)
    rcases hchars c hc with h | rfl
    · exact isAddressChar_of_isHex (by rw [isHex, h, Bool.true_or])
    · decide
  have hword : ∀ word : List Char, ':' ∈ word → x.serialize ≠ word := by
    rintro word hmem rfl
    exact hcolon hmem
  have hstart : Strings.startsWith "::ffff:".toList x.serialize = false :=
    Bool.eq_false_iff.2 fun h => hcolon ((Strings.startsWith_iff.1 h).mem (by decide))
  unfold isBlockedIpv6
  dsimp only
  rw [withoutBrackets_eq (hnot '[' (by decide) (by decide)) (hnot ']' (by decide) (by decide)), hlower,
    if_neg (not_or.2 ⟨hword _ (by decide), hword _ (by decide)⟩),
    if_neg (not_or.2 ⟨hword _ (by decide), hword _ (by decide)⟩), if_neg (by rw [hstart]; simp)]
  cases htext : x.serialize with
  | nil => rfl
  | cons c text =>
      have hc : c ≠ 'f' := by
        rintro rfl
        exact hnot 'f' (by decide) (by decide) (htext ▸ List.mem_cons_self ..)
      rw [(pattern_head hc).1, (pattern_head hc).2, Bool.or_false]

/-! ### Texts of IPv6 addresses -/

/-- The texts that the IPv6 test reads are in small letters. -/
theorem compressed_lower (x : Ipv6) :
    (compressed x.pieces).map Char.toLower = compressed x.pieces := by
  refine (List.map_congr_left fun c hc => toLower_of_isAddressChar ?_).trans (List.map_id' _)
  rcases compressed_chars x.lt c hc with h | rfl
  · exact isAddressChar_of_isHex h
  · decide

theorem pieces_eq (x : Ipv6) : ∃ next pieces, x.pieces = x.head :: next :: pieces := by
  have hlength := x.length
  unfold Ipv6.head
  match hpieces : x.pieces with
  | [] | [_] => rw [hpieces] at hlength; cases hlength
  | piece :: next :: pieces => exact ⟨next, pieces, rfl⟩

theorem head_lt (x : Ipv6) : x.head < 65536 := by
  obtain ⟨next, pieces, hpieces⟩ := pieces_eq x
  exact x.lt x.head (hpieces ▸ List.mem_cons_self ..)

/-- **An address whose first piece has four digits is looked at by the two patterns of IPv6.** -/
theorem isBlockedIpv6_of_large {x : Ipv6} (h : 4096 ≤ x.head) :
    ∃ rest, isBlockedIpv6 x.serialize =
      (uniqueLocalPattern.matchesHere (hex x.head ++ ':' :: rest) ||
        linkLocalPattern.matchesHere (hex x.head ++ ':' :: rest)) := by
  obtain ⟨next, pieces, hpieces⟩ := pieces_eq x
  have hhead : x.head ≠ 0 := by omega
  obtain ⟨rest, hrest⟩ : ∃ rest, compressed (x.head :: next :: pieces) = hex x.head ++ ':' :: rest :=
    compressed_cons hhead
  have hfirst : hex x.head ++ ':' :: rest =
      Json.hexDigit (x.head / 4096) :: (Json.hexDigit (x.head / 256 % 16) ::
        Json.hexDigit (x.head / 16 % 16) :: Json.hexDigit (x.head % 16) :: ':' :: rest) := by
    rw [hex_of_large h]
    rfl
  have hdigit : ∀ n < 16, n ≠ 0 → Json.hexDigit n ≠ ':' ∧ Json.hexDigit n ≠ '0' := by decide
  obtain ⟨hcolon, hzero⟩ := hdigit (x.head / 4096) (by have := head_lt x; omega) (by omega)
  have hword : ∀ word : List Char, word.head? = some ':' ∨ word.head? = some '0' →
      hex x.head ++ ':' :: rest ≠ word := by
    rintro word hc rfl
    rw [hfirst, List.head?_cons, Option.some.injEq, Option.some.injEq] at hc
    exact hc.elim hcolon hzero
  have hstart : Strings.startsWith "::ffff:".toList (hex x.head ++ ':' :: rest) = false := by
    refine Bool.eq_false_iff.2 fun hstart => ?_
    obtain ⟨t, ht⟩ := Strings.startsWith_iff.1 hstart
    exact hword _ (.inl rfl) ht.symm
  refine ⟨rest, ?_⟩
  unfold isBlockedIpv6
  dsimp only
  rw [withoutBrackets_serialize, compressed_lower, hpieces, hrest,
    if_neg (not_or.2 ⟨hword _ (.inl rfl), hword _ (.inr rfl)⟩),
    if_neg (not_or.2 ⟨hword _ (.inl rfl), hword _ (.inr rfl)⟩), if_neg (by rw [hstart]; simp)]

/-- The unique local addresses are refused. -/
theorem isBlockedIpv6_of_isUniqueLocal {x : Ipv6} (h : x.isUniqueLocal = true) :
    isBlockedIpv6 x.serialize = true := by
  simp only [Ipv6.isUniqueLocal, Bool.and_eq_true, decide_eq_true_eq] at h
  obtain ⟨rest, hrest⟩ := isBlockedIpv6_of_large (x := x) (by omega)
  have hf : x.head / 4096 = 15 := by omega
  have hcd : x.head / 256 % 16 = 12 ∨ x.head / 256 % 16 = 13 := by omega
  have hhex : ∀ n, isHex (Json.hexDigit (n % 16)) = true :=
    fun n => isHex_hexDigit _ (Nat.mod_lt _ (by omega))
  rw [hrest, hex_of_large (by omega), hf, Bool.or_eq_true]
  refine .inl ?_
  simp only [uniqueLocalPattern, Regex.all, literal, List.foldr_cons, List.foldr_nil,
    List.cons_append, List.nil_append, Regex.matchesHere_one, Regex.matchesHere_empty, hhex,
    Bool.and_true, BEq.rfl]
  rcases hcd with h | h <;> rw [h] <;> decide

/-- The link-local addresses are refused. -/
theorem isBlockedIpv6_of_isLinkLocal {x : Ipv6} (h : x.isLinkLocal = true) :
    isBlockedIpv6 x.serialize = true := by
  simp only [Ipv6.isLinkLocal, Bool.and_eq_true, decide_eq_true_eq] at h
  obtain ⟨rest, hrest⟩ := isBlockedIpv6_of_large (x := x) (by omega)
  have hf : x.head / 4096 = 15 := by omega
  have he : x.head / 256 % 16 = 14 := by omega
  have h89ab : x.head / 16 % 16 = 8 ∨ x.head / 16 % 16 = 9 ∨ x.head / 16 % 16 = 10 ∨
      x.head / 16 % 16 = 11 := by omega
  have hhex : isHex (Json.hexDigit (x.head % 16)) = true :=
    isHex_hexDigit _ (Nat.mod_lt _ (by omega))
  rw [hrest, hex_of_large (by omega), hf, he, Bool.or_eq_true]
  refine .inr ?_
  simp only [linkLocalPattern, Regex.all, literal, List.foldr_cons, List.foldr_nil,
    List.cons_append, List.nil_append, Regex.matchesHere_one, Regex.matchesHere_empty, hhex,
    Bool.and_true, BEq.rfl]
  rcases h89ab with h | h | h | h <;> rw [h] <;> decide

/-- `::` is refused. -/
theorem isBlockedIpv6_of_isUnspecified {x : Ipv6} (h : x.isUnspecified = true) :
    isBlockedIpv6 x.serialize = true := by
  have htext : x.serialize = "[::]".toList := by
    rw [Ipv6.serialize, beq_iff_eq.1 h]
    decide
  rw [htext]
  decide

/-- **No address is refused that is an IPv4 address written as IPv6.**  What follows `::ffff:` in
its text is two hexadecimal pieces, which the pattern for four decimal numbers does not match. -/
theorem isBlockedIpv6_mapped (x : Ipv4) : isBlockedIpv6 (Ipv6.mapped x).serialize = false := by
  have htext : compressed (Ipv6.mapped x).pieces = "::ffff:".toList ++
      (hex (x.a * 256 + x.b) ++ ':' :: hex (x.c * 256 + x.d)) := compressed_mapped _ _
  have hquad : isBlockedIpv4 (hex (x.a * 256 + x.b) ++ ':' :: hex (x.c * 256 + x.d)) = false :=
    isBlockedIpv4_of_other (c := ':') (by simp) (by decide) (by decide)
  unfold isBlockedIpv6
  dsimp only
  rw [withoutBrackets_serialize, compressed_lower, htext]
  generalize hex (x.a * 256 + x.b) ++ ':' :: hex (x.c * 256 + x.d) = tail at hquad
  have hstart : Strings.startsWith "::ffff:".toList ("::ffff:".toList ++ tail) = true :=
    Strings.startsWith_iff.2 (List.prefix_append _ _)
  have hnone : ∀ word ∈ ["::1", "0:0:0:0:0:0:0:1", "::", "0:0:0:0:0:0:0:0"],
      Strings.startsWith "::ffff:".toList word.toList = false := by
    decide
  have hword : ∀ word ∈ ["::1", "0:0:0:0:0:0:0:1", "::", "0:0:0:0:0:0:0:0"],
      "::ffff:".toList ++ tail ≠ word.toList := by
    intro word hmem heq
    rw [heq, hnone word hmem] at hstart
    cases hstart
  rw [if_neg (not_or.2 ⟨hword _ (by simp), hword _ (by simp)⟩),
    if_neg (not_or.2 ⟨hword _ (by simp), hword _ (by simp)⟩), if_pos hstart]
  exact hquad

/-! ### What the guard lets through -/

theorem hostRefused_ipv4 (x : Ipv4) :
    hostRefused (x.serialize.map Char.toLower) = blockedRange x.a x.b := by
  have hne : x.serialize ≠ [] := by
    intro h
    have := dottedQuad_serialize x
    rw [h] at this
    cases this
  rw [hostRefused_address hne, isBlockedIpv4_serialize, isBlockedIpv6_serialize_ipv4, Bool.or_false]
  intro c hc
  rcases x.serialize_chars c hc with h | rfl
  · exact isAddressChar_of_isHex (by rw [isHex, h, Bool.true_or])
  · decide

theorem hostRefused_ipv6 (x : Ipv6) :
    hostRefused (x.serialize.map Char.toLower) = isBlockedIpv6 x.serialize := by
  have hne : x.serialize ≠ [] := List.cons_ne_nil _ _
  have hbracket : isBlockedIpv4 x.serialize = false :=
    isBlockedIpv4_of_other (c := '[') (List.mem_cons_self ..) (by decide) (by decide)
  rw [hostRefused_address hne, hbracket, Bool.false_or]
  intro c hc
  simp only [Ipv6.serialize, List.cons_append, List.mem_cons, List.mem_append, List.not_mem_nil,
    or_false] at hc
  rcases hc with rfl | hc | rfl
  · decide
  · rcases compressed_chars x.lt c hc with h | rfl
    · exact isAddressChar_of_isHex h
    · decide
  · decide

/-- The name of a metadata service passes with a dot behind it. -/
theorem hostRefused_dotted : ∀ known ∈ blockedHostnames,
    hostRefused ((known ++ ['.']).map Char.toLower) = false := by
  decide

/-- **A forbidden host is refused, unless it slips.** -/
theorem hostRefused_of_forbidden {host : Host} (h : Forbidden host) (hslip : ¬ Slips host) :
    hostRefused (host.hostname.map Char.toLower) = true := by
  cases host with
  | domain name lower =>
      have hmem := h.resolve_right hslip
      simp [Host.hostname, hostRefused, lower, hmem]
  | ipv4 x => exact (hostRefused_ipv4 x).trans (blockedRange_of_isInternal h)
  | ipv6 x =>
      refine (hostRefused_ipv6 x).trans ?_
      rcases h with h | h | h | h
      · exact isBlockedIpv6_of_isUnspecified h
      · exact isBlockedIpv6_of_isUniqueLocal h
      · exact isBlockedIpv6_of_isLinkLocal h
      · exact absurd h hslip
  | other text => exact h.elim

/-- **A host that slips is not refused.** -/
theorem hostRefused_of_slips {host : Host} (h : Slips host) :
    hostRefused (host.hostname.map Char.toLower) = false := by
  cases host with
  | domain name lower =>
      obtain ⟨known, hknown, rfl⟩ := h
      exact hostRefused_dotted known hknown
  | ipv6 x =>
      obtain ⟨y, rfl, -⟩ := h
      exact (hostRefused_ipv6 _).trans (isBlockedIpv6_mapped y)
  | ipv4 x => exact h.elim
  | other text => exact h.elim

theorem Slips.forbidden {host : Host} (h : Slips host) : Forbidden host := by
  cases host with
  | domain name lower => exact .inr h
  | ipv6 x => exact .inr (.inr (.inr h))
  | ipv4 x => exact h.elim
  | other text => exact h.elim

/-- The URL that a value is parsed to. -/
def Parsed (raw : Option (List Char)) (url : URL) : Prop :=
  ∃ text, raw.map trim = some text ∧ text ≠ [] ∧ parse text = some url

theorem checkOutboundUrl_eq_ok {raw : Option (List Char)} {url : URL} :
    checkOutboundUrl parse raw = .ok url ↔ Parsed parse raw url ∧ Accepted url := by
  unfold checkOutboundUrl Parsed
  cases raw.map trim with
  | none => simp
  | some text =>
      cases text with
      | nil => simp
      | cons c text =>
          cases hp : parse (c :: text) with
          | none => simp [hp]
          | some parsed =>
              simp only [Option.some.injEq, exists_eq_left', ne_eq, reduceCtorEq, not_false_eq_true,
                true_and, hp]
              constructor
              · intro h
                obtain rfl := checkUrl_eq_ok h
                exact ⟨rfl, h⟩
              · rintro ⟨rfl, h⟩
                exact h

/-- **The guard lets forbidden hosts through in two spellings, and no others.**  What it accepts
stands for no internal address exactly when the URL is not a plain one whose host is an internal
IPv4 address written as IPv6, or the name of a metadata service with a dot behind it.  The verdict
on an IPv4 address is the same in both spellings exactly when the URL is not plain or the address is
outside the blocked ranges. -/
theorem accepts_no_internal_iff (raw : Option (List Char)) :
    ((∀ url, checkOutboundUrl parse raw = .ok url → ¬ Forbidden url.host) ↔
      ¬ ∃ url, Parsed parse raw url ∧ Plain url ∧ Slips url.host) ∧
    ∀ (url : URL) (x : Ipv4),
      (Accepted { url with host := .ipv4 x } ↔ Accepted { url with host := .ipv6 (.mapped x) }) ↔
        ¬ (Plain url ∧ blockedRange x.a x.b = true) := by
  refine ⟨?_, fun url x => ?_⟩
  · constructor
    · rintro h ⟨url, hparsed, hplain, hslips⟩
      have haccepted := (accepted_iff url).2 ⟨hplain, hostRefused_of_slips hslips⟩
      exact h url ((checkOutboundUrl_eq_ok parse).2 ⟨hparsed, haccepted⟩) hslips.forbidden
    · intro h url hok hforbidden
      obtain ⟨hparsed, haccepted⟩ := (checkOutboundUrl_eq_ok parse).1 hok
      obtain ⟨hplain, hnot⟩ := (accepted_iff url).1 haccepted
      refine h ⟨url, hparsed, hplain, ?_⟩
      by_contra hslip
      rw [hostRefused_of_forbidden hforbidden hslip] at hnot
      cases hnot
  · have h₄ : Accepted { url with host := .ipv4 x } ↔ Plain url ∧ blockedRange x.a x.b = false := by
      rw [accepted_iff]
      exact and_congr_right' (by rw [Host.hostname, hostRefused_ipv4])
    have h₆ : Accepted { url with host := .ipv6 (.mapped x) } ↔ Plain url := by
      rw [accepted_iff]
      exact and_iff_left (by rw [Host.hostname, hostRefused_ipv6, isBlockedIpv6_mapped])
    rw [h₄, h₆]
    cases blockedRange x.a x.b <;> simp

/-- `169.254.169.254`, where clouds serve the metadata of a machine. -/
def metadataAddress : Ipv4 := ⟨169, 254, 169, 254⟩

/-- The URL that `http://[::ffff:169.254.169.254]/latest` is parsed to. -/
def mappedUrl : URL where
  protocol := "http:".toList
  username := []
  password := []
  host := .ipv6 (.mapped metadataAddress)

/-- A parser that knows this URL. -/
def sampleParse (text : List Char) : Option URL :=
  if text = "http://[::ffff:169.254.169.254]/latest".toList then some mappedUrl else none

/-- **The metadata address passes when it is written as IPv6.** -/
theorem mapped_metadata_accepted :
    (∃ url, checkOutboundUrl sampleParse
        (some "http://[::ffff:169.254.169.254]/latest".toList) = .ok url ∧ Forbidden url.host) ∧
      ¬ (Accepted { mappedUrl with host := .ipv4 metadataAddress } ↔ Accepted mappedUrl) := by
  have hplain : Plain mappedUrl := ⟨.inl rfl, rfl, rfl⟩
  have hslips : Slips mappedUrl.host := ⟨metadataAddress, rfl, by decide⟩
  have haccepted := (accepted_iff mappedUrl).2 ⟨hplain, hostRefused_of_slips hslips⟩
  refine ⟨⟨mappedUrl, (checkOutboundUrl_eq_ok sampleParse).2 ⟨⟨_, rfl, ?_, ?_⟩, haccepted⟩,
    hslips.forbidden⟩, fun h => ?_⟩
  · decide
  · refine if_pos ?_
    decide
  · have hrefused := ((accepted_iff _).1 (h.2 haccepted)).2
    rw [Host.hostname, hostRefused_ipv4] at hrefused
    revert hrefused
    decide

end OutboundUrl
end Access
end AgenticCommerce
