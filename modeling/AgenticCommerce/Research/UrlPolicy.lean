/-
# Research fetches

`is_safe_public_url` of `services/research/safety/url_policy.py`, and `PageFetcher.fetch_page` of
`services/research/tools/open_url.py`, which asks it about the URL it is given and then lets the
HTTP client follow up to three redirects.

Two things are missed.  The policy is not asked about the targets of the redirects.  And it knows
an address only where `int(host, 0)` or `ip_address` does, which read neither a shortened IPv4
address nor one with zeros before a byte; the resolver reads both.

What the HTTP client makes of a URL and of a `Location` is the argument `Client`.
-/

import AgenticCommerce.Errors
import AgenticCommerce.Text.HostAddresses
import AgenticCommerce.Text.Urls
import Mathlib.Logic.Relation

namespace AgenticCommerce
namespace UrlPolicy

open HostAddresses

/-- The tables of Unicode that the policy reads. -/
structure Tables extends Urls.Rules where
  /-- The value of a decimal digit beyond ASCII. -/
  digit : Char → Option ℕ
  lower_ascii : ∀ text : List Char, (∀ c ∈ text, c.toNat < 128) →
    lower text = text.map Char.toLower

/-- `_BLOCKED_HOSTNAMES`. -/
def blockedHostnames : List (List Char) :=
  ["localhost".toList, "127.0.0.1".toList, "0.0.0.0".toList, "::1".toList,
    "169.254.169.254".toList]

/-- The endings of local domains. -/
def localSuffixes : List (List Char) :=
  [".local".toList, ".internal".toList, ".localhost".toList, ".lan".toList]

variable (tables : Tables)

/-- The checks that are made of a host. -/
def hostAllowed (hostname : List Char) : Bool :=
  let lowerHost := tables.lower hostname
  !blockedHostnames.contains lowerHost &&
    !localSuffixes.any (fun suffix => Strings.endsWith suffix lowerHost) &&
    !((int0 tables.digit hostname).bind ipAddressOfInt).any Address.isSpecial &&
    !(ipAddress hostname).any Address.isSpecial

/-- `is_safe_public_url`. -/
def isSafePublicUrl (url : List Char) : Bool :=
  if url = [] then false
  else match Urls.urlsplit tables.toRules (Strings.strip url) with
    | none => false
    | some parsed =>
        if parsed.scheme ∉ ["http".toList, "https".toList] then false
        else match Urls.hostname tables.toRules parsed with
          | none => false
          | some hostname => hostAllowed tables hostname

/-! ### Fetching -/

/-- A response, as far as it is read. -/
structure Response where
  status : ℕ
  location : Option (List Char)
  contentType : List Char
  text : List Char

/-- `has_redirect_location`, with the location. -/
def Response.redirect (r : Response) : Option (List Char) :=
  if r.status ∈ [301, 302, 303, 307, 308] then r.location else none

/-- How an exchange ends: with a response, a timeout, or another exception. -/
inductive Answer where
  | response (r : Response)
  | timeout
  | failure (text : String)

/-- The HTTP client. -/
structure Client where
  /-- The exception for a URL that it sends no request to. -/
  rejects : List Char → Option String
  /-- The URL of the next request: the requested one, and the `Location` of its response. -/
  join : List Char → List Char → Except String (List Char)

/-- `client.get`, with so many requests left and so many sent: the URLs that requests are sent to,
and how it ends. -/
def get (client : Client) (answers : ℕ → Answer) : ℕ → ℕ → List Char → List (List Char) × Answer
  | 0, _, _ => ([], .failure "Exceeded maximum allowed redirects.")
  | left + 1, sent, url =>
      match client.rejects url with
      | some text => ([], .failure text)
      | none =>
          match answers sent with
          | .response r =>
              match r.redirect with
              | none => ([url], .response r)
              | some location =>
                  match client.join url location with
                  | .error text => ([url], .failure text)
                  | .ok target =>
                      let (requests, outcome) := get client answers left (sent + 1) target
                      (url :: requests, outcome)
          | answer => ([url], answer)

/-- `max_redirects`. -/
def maxRedirects : ℕ := 3

/-- `PageFetcher.fetch_page`: the URLs of its requests, and what it returns. -/
def fetchPage (client : Client) (answers : ℕ → Answer) (url : List Char) (maxBytes : ℕ) :
    List (List Char) × Except Failure (List Char) :=
  if isSafePublicUrl tables url then
    let (requests, outcome) := get client answers (maxRedirects + 1) 0 url
    (requests,
      match outcome with
      | .timeout => .error (.raised "External page fetch timed out" .gatewayTimeout)
      | .failure text =>
          .error (.raised s!"Failed to fetch external page: {text}" .serviceUnavailable)
      | .response r =>
          let contentType := tables.lower r.contentType
          if r.status ≠ 200 then
            .error (.raised s!"External page returned HTTP status {r.status}" .serviceUnavailable)
          else if !Strings.contains "text".toList contentType &&
              !Strings.contains "json".toList contentType &&
              !Strings.contains "xml".toList contentType then
            .error (.raised
              s!"Unsupported content type '{String.ofList contentType}' for research page"
              .validationError)
          else .ok (r.text.take maxBytes))
  else ([], .error (.raised (s!"URL '{String.ofList url}' violates anti-SSRF policy: " ++
    "access to local, internal, or cloud metadata addresses is blocked.") .forbidden))

/-! ### The requests of a fetch -/

/-- The client is redirected from a URL to the next; each with its place among the requests. -/
def Redirects (client : Client) (answers : ℕ → Answer) (here next : ℕ × List Char) : Prop :=
  next.1 = here.1 + 1 ∧ client.rejects here.2 = none ∧ ∃ r location,
    answers here.1 = .response r ∧ r.redirect = some location ∧
      client.join here.2 location = .ok next.2

/-- A fetch goes from one URL to another by redirects. -/
abbrev Leads (client : Client) (answers : ℕ → Answer) :
    ℕ × List Char → ℕ × List Char → Prop := Relation.ReflTransGen (Redirects client answers)

variable {client : Client} {answers : ℕ → Answer}

theorem Leads.le {here there : ℕ × List Char} (h : Leads client answers here there) :
    here.1 ≤ there.1 := by
  induction h with
  | refl => exact le_rfl
  | tail _ hstep ih => exact ih.trans (by rw [hstep.1]; omega)

/-- No redirect leads back to the first place. -/
theorem Leads.eq_of_zero {url target : List Char}
    (h : Leads client answers (0, url) (0, target)) : target = url := by
  rcases Relation.ReflTransGen.cases_head h with heq | ⟨next, hstep, hrest⟩
  · exact (Prod.mk.inj heq).2.symm
  · have hle := Leads.le hrest
    rw [hstep.1] at hle
    omega

/-- Nothing is sent to a URL that the client rejects, nor after it. -/
theorem eq_of_leads_of_rejects {here there : ℕ × List Char} {text : String}
    (h : Leads client answers here there) (hrejects : client.rejects here.2 = some text) :
    here = there := by
  rcases Relation.ReflTransGen.cases_head h with heq | ⟨next, hstep, -⟩
  · exact heq
  · have hnone := hstep.2.1
    rw [hrejects] at hnone
    cases hnone

/-- The requests of an exchange: the first, and those of the exchange with the URL that its
response redirects to. -/
theorem mem_get_succ {target : List Char} {left sent : ℕ} {url : List Char}
    (hsends : client.rejects url = none) :
    target ∈ (get client answers (left + 1) sent url).1 ↔ target = url ∨
      ∃ next, Redirects client answers (sent, url) (sent + 1, next) ∧
        target ∈ (get client answers left (sent + 1) next).1 := by
  have hstop (h : ∀ r location, answers sent = .response r → r.redirect = some location →
      ∀ next, client.join url location ≠ .ok next) : ¬ ∃ next,
        Redirects client answers (sent, url) (sent + 1, next) ∧
          target ∈ (get client answers left (sent + 1) next).1 := by
    rintro ⟨next, ⟨-, -, r, location, hr, hlocation, hjoin⟩, -⟩
    exact h r location hr hlocation next hjoin
  rw [get, hsends]
  dsimp only
  split
  · rename_i r hr
    split
    · rename_i hnone
      rw [List.mem_singleton, or_iff_left (hstop fun r' location hr' hlocation => ?_)]
      obtain rfl := Answer.response.inj (hr.symm.trans hr')
      rw [hnone] at hlocation
      cases hlocation
    · rename_i location hlocation
      split
      · rename_i text herror
        rw [List.mem_singleton, or_iff_left (hstop fun r' location' hr' hlocation' next hok => ?_)]
        obtain rfl := Answer.response.inj (hr.symm.trans hr')
        obtain rfl := Option.some.inj (hlocation.symm.trans hlocation')
        rw [herror] at hok
        cases hok
      · rename_i next hok
        rw [List.mem_cons]
        refine or_congr_right ⟨fun h => ⟨next, ⟨rfl, hsends, r, location, hr, hlocation, hok⟩, h⟩,
          ?_⟩
        rintro ⟨next', ⟨-, -, r', location', hr', hlocation', hok'⟩, h⟩
        obtain rfl := Answer.response.inj (hr.symm.trans hr')
        obtain rfl := Option.some.inj (hlocation.symm.trans hlocation')
        obtain rfl := Except.ok.inj (hok.symm.trans hok')
        exact h
  · rename_i hother
    rw [List.mem_singleton, or_iff_left (hstop fun r location hr => absurd hr (hother r))]

/-- **A request is sent to every URL that the redirects lead to**, as far as their number and the
client go. -/
theorem mem_requests_iff {target : List Char} : ∀ {left sent : ℕ} {url : List Char},
    target ∈ (get client answers left sent url).1 ↔
      ∃ i, Leads client answers (sent, url) (i, target) ∧ i < sent + left ∧
        client.rejects target = none
  | 0, sent, url => by
      constructor
      · intro h
        cases h
      · rintro ⟨i, hleads, hlt, -⟩
        have hle : sent ≤ i := hleads.le
        omega
  | left + 1, sent, url => by
      cases hrejects : client.rejects url with
      | some text =>
          rw [get, hrejects]
          constructor
          · intro h
            cases h
          · rintro ⟨i, hleads, -, hsends⟩
            obtain ⟨-, rfl⟩ := Prod.mk.inj (eq_of_leads_of_rejects hleads hrejects)
            rw [hrejects] at hsends
            cases hsends
      | none =>
          rw [mem_get_succ hrejects]
          constructor
          · rintro (rfl | ⟨next, hstep, hmem⟩)
            · exact ⟨sent, .refl, by omega, hrejects⟩
            · obtain ⟨i, hleads, hlt, hsends⟩ := mem_requests_iff.1 hmem
              exact ⟨i, .head hstep hleads, by omega, hsends⟩
          · rintro ⟨i, hleads, hlt, hsends⟩
            rcases Relation.ReflTransGen.cases_head hleads with heq | ⟨⟨j, next⟩, hstep, hrest⟩
            · exact .inl (Prod.mk.inj heq).2.symm
            · obtain rfl : j = sent + 1 := hstep.1
              exact .inr ⟨next, hstep, mem_requests_iff.2 ⟨i, hrest, by omega, hsends⟩⟩

/-! ### The hosts that pass -/

/-- An HTTP URL with a host. -/
def Hosted (url hostname : List Char) : Prop :=
  ∃ parsed, Urls.urlsplit tables.toRules (Strings.strip url) = some parsed ∧
    parsed.scheme ∈ ["http".toList, "https".toList] ∧
    Urls.hostname tables.toRules parsed = some hostname

variable {tables}

theorem not_hosted_nil (hostname : List Char) : ¬ Hosted tables [] hostname := by
  rintro ⟨parsed, hparsed, hscheme, -⟩
  have hsplit : Urls.urlsplit tables.toRules (Strings.strip []) =
      if tables.admits [] then some ⟨[], [], []⟩ else none := rfl
  rw [hsplit] at hparsed
  split_ifs at hparsed
  obtain rfl := Option.some.inj hparsed
  revert hscheme
  decide

/-- **A URL passes when it is an HTTP URL and its host passes.** -/
theorem isSafePublicUrl_iff {url : List Char} : isSafePublicUrl tables url = true ↔
    ∃ hostname, Hosted tables url hostname ∧ hostAllowed tables hostname = true := by
  rw [isSafePublicUrl]
  constructor
  · intro h
    split_ifs at h
    split at h
    · cases h
    · rename_i parsed hparsed
      split_ifs at h with hscheme
      split at h
      · cases h
      · rename_i hostname hhostname
        exact ⟨hostname, ⟨parsed, hparsed, hscheme, hhostname⟩, h⟩
  · rintro ⟨hostname, hhosted, hallowed⟩
    have hne : url ≠ [] := by
      rintro rfl
      exact not_hosted_nil hostname hhosted
    obtain ⟨parsed, hparsed, hscheme, hhostname⟩ := hhosted
    rw [if_neg hne, hparsed]
    dsimp only
    rw [if_neg (not_not.2 hscheme), hhostname]
    exact hallowed

/-- The host of a URL is one. -/
theorem Hosted.unique {url hostname hostname' : List Char} (h : Hosted tables url hostname)
    (h' : Hosted tables url hostname') : hostname = hostname' := by
  obtain ⟨parsed, hparsed, -, hhostname⟩ := h
  obtain ⟨parsed', hparsed', -, hhostname'⟩ := h'
  obtain rfl := Option.some.inj (hparsed.symm.trans hparsed')
  exact Option.some.inj (hhostname.symm.trans hhostname')

/-- The hosts that the policy takes for names although the resolver reads an address in them: the
machine's own name with a dot behind it, and an internal IPv4 address that is shortened, has a zero
before a byte or hexadecimal bytes, or is one octal number; and the one address outside the ranges
of the policy. -/
def Slips (hostname : List Char) : Prop :=
  hostname = "localhost.".toList ∨ ∃ n, inetAton hostname = some n ∧ Internal4 n ∧
    (n = sharedMetadata ∨ (ipv4 hostname = none ∧ ('.' ∈ hostname ∨ OctalLed hostname)))

/-- In a host that slips through Python reads no address of a special range. -/
theorem not_isSpecial_of_slips {hostname : List Char} {n : ℕ} (h : inetAton hostname = some n)
    (hinternal : Internal4 n) (hslips : n = sharedMetadata ∨
      (ipv4 hostname = none ∧ ('.' ∈ hostname ∨ OctalLed hostname))) :
    ((int0 tables.digit hostname).bind ipAddressOfInt).any Address.isSpecial = false ∧
      (ipAddress hostname).any Address.isSpecial = false := by
  have hzero : n ≠ 0 := by
    rintro rfl
    exact absurd hinternal (by decide)
  have hshared (hn : n = sharedMetadata) : (some (Address.v4 n)).any Address.isSpecial = false := by
    rw [hn]
    exact isSpecial_sharedMetadata
  constructor
  · by_cases hdot : '.' ∈ hostname
    · rw [int0_dot tables.digit hdot]
      rfl
    · by_cases hoctal : OctalLed hostname
      · rw [int0_octal tables.digit h hdot hoctal hzero]
        rfl
      · rw [int0_of_inetAton tables.digit h hdot hoctal, Option.bind_some,
          ipAddressOfInt_of_lt (inetAton_lt h)]
        rcases hslips with hn | ⟨-, hdot' | hoctal'⟩
        · exact hshared hn
        · exact absurd hdot' hdot
        · exact absurd hoctal' hoctal
  · rw [ipAddress_of_inetAton h]
    rcases hslips with hn | ⟨hnone, -⟩
    · split_ifs
      · exact hshared hn
      · rfl
    · rw [hnone]
      rfl

/-- A host with an IPv4 address is in small letters what it is but for the digits above nine and
the marks of hexadecimal parts. -/
theorem mem_lower_of_inetAton {hostname : List Char} {n : ℕ} (h : inetAton hostname = some n) :
    (∀ c ∈ tables.lower hostname, isSpelling c = true) ∧
      ((∀ c ∈ tables.lower hostname, c.toNat < 97) → tables.lower hostname = hostname) := by
  have hspelling := inetAton_spelling h
  have hlower : tables.lower hostname = hostname.map Char.toLower :=
    tables.lower_ascii hostname fun c hc => by
      have hcode := of_isSpelling (hspelling c hc)
      omega
  rw [hlower]
  constructor
  · intro c hc
    obtain ⟨d, hd, rfl⟩ := List.mem_map.1 hc
    rcases toLower_of_isSpelling (hspelling d hd) with heq | hsmall
    · rw [heq]
      exact hspelling d hd
    · exact hsmall.1
  · intro hcapital
    have heq : ∀ c ∈ hostname, c.toLower = id c := fun c hc => by
      have hcode := hcapital c.toLower (List.mem_map_of_mem hc)
      rcases toLower_of_isSpelling (hspelling c hc) with heq | hsmall
      · exact heq
      · omega
    rw [List.map_congr_left heq, List.map_id]

/-- A host that slips through is none of the names that the policy knows. -/
theorem not_blocked_of_inetAton {hostname : List Char} {n : ℕ} (h : inetAton hostname = some n)
    (hslips : n = sharedMetadata ∨ ipv4 hostname = none) :
    blockedHostnames.contains (tables.lower hostname) = false ∧
      localSuffixes.any (fun suffix => Strings.endsWith suffix (tables.lower hostname)) = false := by
  obtain ⟨hspelling, hself⟩ := @mem_lower_of_inetAton tables _ _ h
  have hplain (name : List Char) (hname : tables.lower hostname = name)
      (hcode : ∀ c ∈ name, c.toNat < 97) (hbytes : ipv4 name ≠ none)
      (hother : inetAton name ≠ some sharedMetadata) : False := by
    have heq : hostname = name := by rw [← hself (by rw [hname]; exact hcode), hname]
    rcases hslips with rfl | hnone
    · exact hother (heq ▸ h)
    · exact hbytes (heq ▸ hnone)
  constructor
  · rw [Bool.eq_false_iff]
    intro hblocked
    have hmem : tables.lower hostname ∈ blockedHostnames := by simpa using hblocked
    simp only [blockedHostnames, List.mem_cons, List.not_mem_nil, or_false] at hmem
    rcases hmem with hname | hname | hname | hname | hname
    · cases hspelling 'l' (by rw [hname]; decide)
    · exact hplain _ hname (Strings.forall_mem_of_all (by decide)) (by decide) (by decide)
    · exact hplain _ hname (Strings.forall_mem_of_all (by decide)) (by decide) (by decide)
    · cases hspelling ':' (by rw [hname]; decide)
    · exact hplain _ hname (Strings.forall_mem_of_all (by decide)) (by decide) (by decide)
  · rw [Bool.eq_false_iff]
    intro hsuffix
    obtain ⟨suffix, hmem, hends⟩ := List.any_eq_true.1 hsuffix
    have hin := (Strings.endsWith_iff.1 hends).subset
    simp only [localSuffixes, List.mem_cons, List.not_mem_nil, or_false] at hmem
    rcases hmem with rfl | rfl | rfl | rfl
    · cases hspelling 'l' (hin (by decide))
    · cases hspelling 'l' (hin (by decide))
    · cases hspelling 'l' (hin (by decide))
    · cases hspelling 'l' (hin (by decide))

/-- A host in which Python reads an address of a special range does not pass. -/
theorem not_allowed_of_isSpecial {hostname : List Char}
    (h : ((int0 tables.digit hostname).bind ipAddressOfInt).any Address.isSpecial = true ∨
      (ipAddress hostname).any Address.isSpecial = true) :
    hostAllowed tables hostname = false := by
  simp only [hostAllowed]
  rcases h with h | h <;> rw [h] <;> simp

/-- An internal IPv4 address that Python reads does not pass. -/
theorem not_allowed_of_not_slips {hostname : List Char} {n : ℕ} (h : inetAton hostname = some n)
    (hinternal : Internal4 n) (hslips : ¬ (n = sharedMetadata ∨
      (ipv4 hostname = none ∧ ('.' ∈ hostname ∨ OctalLed hostname)))) :
    hostAllowed tables hostname = false := by
  rw [not_or] at hslips
  have hspecial : (Address.v4 n).isSpecial = true :=
    isSpecial_of_internal hinternal fun heq => hslips.1 (Address.v4.inj heq)
  refine not_allowed_of_isSpecial ?_
  cases hipv4 : ipv4 hostname with
  | some m =>
      right
      rw [ipAddress_of_inetAton h, hipv4]
      exact hspecial
  | none =>
      left
      rw [not_and, not_or] at hslips
      obtain ⟨hdot, hoctal⟩ := hslips.2 hipv4
      rw [int0_of_inetAton tables.digit h hdot hoctal, Option.bind_some,
        ipAddressOfInt_of_lt (inetAton_lt h)]
      exact hspecial

/-- The name of the machine does not pass. -/
theorem hostAllowed_localhost : hostAllowed tables "localhost".toList = false := by
  have hlower : tables.lower "localhost".toList = "localhost".toList :=
    tables.lower_ascii _ (Strings.forall_mem_of_all (by decide))
  simp only [hostAllowed]
  rw [hlower]
  have hblocked : blockedHostnames.contains "localhost".toList = true := by decide
  rw [hblocked]
  rfl

/-- With a dot behind it, it does. -/
theorem hostAllowed_localhost_dot : hostAllowed tables "localhost.".toList = true := by
  have hlower : tables.lower "localhost.".toList = "localhost.".toList :=
    tables.lower_ascii _ (Strings.forall_mem_of_all (by decide))
  have hblocked : blockedHostnames.contains "localhost.".toList = false := by decide
  have hsuffix : localSuffixes.any (fun suffix => Strings.endsWith suffix "localhost.".toList) =
      false := by decide
  have haddress : ipAddress "localhost.".toList = none := by decide
  simp only [hostAllowed]
  rw [hlower, hblocked, hsuffix, int0_dot tables.digit (by decide), haddress]
  rfl

/-- **Of the hosts that are read as internal addresses those pass that slip through.** -/
theorem hostAllowed_iff {hostname : List Char} (h : ReadsInternal hostname) :
    hostAllowed tables hostname = true ↔ Slips hostname := by
  obtain ⟨address, hresolved, hinternal⟩ := h
  rcases eq_or_ne hostname "localhost.".toList with rfl | hdot
  · exact iff_of_true hostAllowed_localhost_dot (.inl rfl)
  rcases eq_or_ne hostname "localhost".toList with rfl | hlocal
  · refine iff_of_false (by rw [hostAllowed_localhost]; exact Bool.false_ne_true) ?_
    rintro (heq | ⟨n, haton, -⟩)
    · exact hdot heq
    · exact absurd haton (by rw [show inetAton "localhost".toList = none by decide]; simp)
  rw [resolved, if_neg (not_or.2 ⟨hlocal, hdot⟩)] at hresolved
  cases haton : inetAton hostname with
  | some n =>
      rw [haton] at hresolved
      obtain rfl : Address.v4 n = address := Option.some.inj hresolved
      by_cases hslips : n = sharedMetadata ∨
          (ipv4 hostname = none ∧ ('.' ∈ hostname ∨ OctalLed hostname))
      · refine iff_of_true ?_ (.inr ⟨n, haton, hinternal, hslips⟩)
        obtain ⟨hblocked, hsuffix⟩ := @not_blocked_of_inetAton tables _ _ haton
          (hslips.imp_right And.left)
        obtain ⟨hint, haddress⟩ := @not_isSpecial_of_slips tables _ _ haton hinternal hslips
        simp only [hostAllowed]
        rw [hblocked, hsuffix, hint, haddress]
        rfl
      · refine iff_of_false ?_ ?_
        · rw [not_allowed_of_not_slips haton hinternal hslips]
          exact Bool.false_ne_true
        · rintro (heq | ⟨m, hm, -, hslips'⟩)
          · exact hdot heq
          · obtain rfl := Option.some.inj (haton.symm.trans hm)
            exact hslips hslips'
  | none =>
      rw [haton] at hresolved
      cases hipv6 : ipv6 hostname with
      | none =>
          rw [hipv6] at hresolved
          cases hresolved
      | some n =>
          rw [hipv6] at hresolved
          obtain rfl : Address.v6 n = address := Option.some.inj hresolved
          have haddress : ipAddress hostname = some (.v6 n) := by
            refine ipAddress_of_resolved_v6 ?_
            rw [resolved, if_neg (not_or.2 ⟨hlocal, hdot⟩), haton, hipv6]
            rfl
          refine iff_of_false ?_ ?_
          · rw [not_allowed_of_isSpecial (.inr ?_)]
            · exact Bool.false_ne_true
            · rw [haddress]
              exact isSpecial_of_internal hinternal (by simp)
          · rintro (heq | ⟨m, hm, -⟩)
            · exact hdot heq
            · rw [haton] at hm
              cases hm

theorem internal4_loopback : Internal4 (ofBytes 127 0 0 1) := by decide

/-- A host that slips through is an internal address for the resolver. -/
theorem Slips.readsInternal {hostname : List Char} (h : Slips hostname) :
    ReadsInternal hostname := by
  rcases h with rfl | ⟨n, haton, hinternal, -⟩
  · exact ⟨.v4 (ofBytes 127 0 0 1), if_pos (.inr rfl), internal4_loopback⟩
  · refine ⟨.v4 n, ?_, hinternal⟩
    have hspelling := inetAton_spelling haton
    have hlocal : ¬ (hostname = "localhost".toList ∨ hostname = "localhost.".toList) := by
      rintro (rfl | rfl) <;> cases hspelling 'l' (by decide)
    rw [resolved, if_neg hlocal, haton]
    rfl

variable (tables) (client answers)

/-- **Research fetches stay on public hosts** exactly where no redirect that the client follows
leads to a URL that the policy refuses, and the host of the URL is none that slips through it. -/
theorem stays_public_iff (url : List Char) (maxBytes : ℕ) :
    ((∀ target ∈ (fetchPage tables client answers url maxBytes).1,
        isSafePublicUrl tables target = true) ∧
      (isSafePublicUrl tables url = true → ∀ hostname, Hosted tables url hostname →
        ¬ ReadsInternal hostname)) ↔
    ((isSafePublicUrl tables url = true → ∀ i target, Leads client answers (0, url) (i, target) →
        0 < i → i ≤ maxRedirects → client.rejects target = none →
          isSafePublicUrl tables target = true) ∧
      ∀ hostname, Hosted tables url hostname → ¬ Slips hostname) := by
  refine and_congr ?_ ?_
  · rw [fetchPage]
    split_ifs with hsafe
    · simp only [mem_requests_iff]
      constructor
      · intro hall _ i target hleads _ hle hsends
        exact hall target ⟨i, hleads, by omega, hsends⟩
      · rintro hall target ⟨i, hleads, hlt, hsends⟩
        rcases Nat.eq_zero_or_pos i with rfl | hpos
        · rw [hleads.eq_of_zero]
          exact hsafe
        · exact hall hsafe i target hleads hpos (by omega) hsends
    · constructor
      · exact fun _ hyes => absurd hyes hsafe
      · rintro - target htarget
        cases htarget
  · constructor
    · intro hno hostname hhosted hslips
      have hinternal := hslips.readsInternal
      exact hno (isSafePublicUrl_iff.2 ⟨hostname, hhosted, (hostAllowed_iff hinternal).2 hslips⟩)
        hostname hhosted hinternal
    · intro hno hsafe hostname hhosted hinternal
      obtain ⟨hostname', hhosted', hallowed⟩ := isSafePublicUrl_iff.1 hsafe
      obtain rfl := hhosted.unique hhosted'
      exact hno hostname hhosted ((hostAllowed_iff hinternal).1 hallowed)

/-- The tables of ASCII. -/
def asciiTables : Tables where
  toRules := Urls.asciiRules
  digit _ := none
  lower_ascii _ _ := rfl

/-- A client as far as absolute URLs go. -/
def absoluteClient : Client where
  rejects url :=
    if Strings.startsWith "http://".toList url || Strings.startsWith "https://".toList url then none
    else some "Request URL is missing an 'http://' or 'https://' protocol."
  join _ location := .ok location

/-- A server that redirects to the metadata of the machine, and what answers there. -/
def redirecting : ℕ → Answer
  | 0 => .response ⟨302, some "http://169.254.169.254/latest/meta-data/".toList, [], []⟩
  | _ => .response ⟨200, none, "text/plain".toList, "credentials".toList⟩

/-- **A redirect and a shortened address both get around the policy**: the metadata of the machine
is fetched although the policy refuses its URL, and `127.1` passes although it is the machine. -/
theorem redirect_and_shortened_pass :
    ((fetchPage asciiTables absoluteClient redirecting "https://reviews.example/".toList 100).1 =
        ["https://reviews.example/".toList, "http://169.254.169.254/latest/meta-data/".toList] ∧
      isSafePublicUrl asciiTables "http://169.254.169.254/latest/meta-data/".toList = false) ∧
    (isSafePublicUrl asciiTables "http://127.1:8000/".toList = true ∧
      Hosted asciiTables "http://127.1:8000/".toList "127.1".toList ∧
      resolved "127.1".toList = some (.v4 (ofBytes 127 0 0 1)) ∧
      ReadsInternal "127.1".toList) := by
  have hresolved : resolved "127.1".toList = some (.v4 (ofBytes 127 0 0 1)) := by decide
  refine ⟨⟨by decide, by decide⟩, by decide, ?_, hresolved,
    _, hresolved, internal4_loopback⟩
  exact ⟨⟨"http".toList, "127.1:8000".toList, "/".toList⟩, by decide, by decide,
    by decide⟩

end UrlPolicy
end AgenticCommerce
