/-
# The return URL of a checkout

`resolve_checkout_return_url` of `apps/api/routers/razorpay_checkout.py`: a root-relative path, or
an absolute URL of an allowed origin, is handed to the provider as the callback and to the page.

The absolute URLs are read by `urlsplit` and the browser alike (`Browser.originOf_of_urlsplit`).
The paths are not: the prefix `//` is refused before the browser has dropped the tabs and the line
feeds between two slashes.
-/

import AgenticCommerce.Errors
import AgenticCommerce.Text.BrowserUrls

namespace AgenticCommerce
namespace ReturnUrl

open Strings Urls

/-- The refusal of a return URL. -/
def refusal : Failure :=
  .raised "return_url must be a root-relative path or an absolute URL on this origin."
    .validationError

/-- `resolve_checkout_return_url`; the exception is the `ValueError` of `urlparse`. -/
def resolveCheckoutReturnUrl (rules : Rules) (allowedOrigins : List (List Char))
    (raw : Option (List Char)) : Except Failure (Option (List Char)) :=
  match raw with
  | none => .ok none
  | some raw =>
      let candidate := strip raw
      if candidate = [] then .ok none
      else if '\\' ∈ candidate ∨ startsWith "//".toList candidate then .error refusal
      else if startsWith "/".toList candidate then
        if contains "://".toList candidate then .error refusal else .ok (some candidate)
      else match urlsplit rules candidate with
        | none => .error (.exception "ValueError")
        | some parsed =>
            if parsed.scheme ∉ ["http".toList, "https".toList] ∨ parsed.netloc = [] then
              .error refusal
            else if parsed.scheme ++ "://".toList ++ parsed.netloc ∉ allowedOrigins then
              .error refusal
            else .ok (some candidate)

/-- A candidate that is returned as a path. -/
def IsPath (candidate : List Char) : Prop :=
  startsWith "/".toList candidate = true ∧ startsWith "//".toList candidate = false ∧
    '\\' ∉ candidate ∧ contains "://".toList candidate = false

/-- A candidate that is returned as an absolute URL, `parsed`. -/
structure IsAbsolute (rules : Rules) (allowedOrigins : List (List Char)) (candidate : List Char)
    (parsed : SplitResult) : Prop where
  parses : urlsplit rules candidate = some parsed
  scheme : parsed.scheme = "http".toList ∨ parsed.scheme = "https".toList
  netloc : parsed.netloc ≠ []
  allowed : parsed.scheme ++ "://".toList ++ parsed.netloc ∈ allowedOrigins
  noBackslash : '\\' ∉ candidate
  noPath : startsWith "/".toList candidate = false

/-- **What is returned is the stripped text, taken as a path or as an absolute URL.** -/
theorem returned_iff {rules : Rules} {allowedOrigins : List (List Char)}
    {raw : Option (List Char)} {url : List Char} :
    resolveCheckoutReturnUrl rules allowedOrigins raw = .ok (some url) ↔
      ∃ text, raw = some text ∧ url = strip text ∧
        (IsPath url ∨ ∃ parsed, IsAbsolute rules allowedOrigins url parsed) := by
  constructor
  · intro h
    cases raw with
    | none => cases h
    | some text =>
        simp only [resolveCheckoutReturnUrl] at h
        split_ifs at h with hnil hno hpath hcolon
        · cases h
        · obtain rfl := Option.some.inj (Except.ok.inj h)
          rw [not_or, Bool.not_eq_true] at hno
          exact ⟨text, rfl, rfl, .inl ⟨hpath, hno.2, hno.1, Bool.eq_false_iff.2 hcolon⟩⟩
        · split at h
          · cases h
          · rename_i parsed hparsed
            split_ifs at h with hparts hallowed
            obtain rfl := Option.some.inj (Except.ok.inj h)
            rw [not_or, Bool.not_eq_true] at hno
            rw [not_or, not_not] at hparts
            refine ⟨text, rfl, rfl, .inr ⟨parsed, hparsed, ?_, hparts.2, hallowed,
              hno.1, Bool.eq_false_iff.2 hpath⟩⟩
            have hscheme := hparts.1
            rwa [List.mem_pair] at hscheme
  · rintro ⟨text, rfl, rfl, hpath | ⟨parsed, habsolute⟩⟩
    · obtain ⟨hpath, hdouble, hback, hcolon⟩ := hpath
      have hne : strip text ≠ [] := fun h => by
        rw [h] at hpath
        cases hpath
      simp only [resolveCheckoutReturnUrl]
      rw [if_neg hne, if_neg (by rw [hdouble]; simp [hback]), if_pos hpath,
        if_neg (by rw [hcolon]; exact Bool.false_ne_true)]
    · obtain ⟨hparses, hscheme, hnetloc, hallowed, hback, hpath⟩ := habsolute
      have hne : strip text ≠ [] := fun h => by
        have hsome : parsed.scheme ≠ [] := by
          rcases hscheme with h | h <;> rw [h] <;> decide
        rw [h] at hparses
        obtain ⟨before, -, -, hclean, -⟩ := of_urlsplit hparses hsome hnetloc
        exact List.append_ne_nil_of_right_ne_nil before (List.cons_ne_nil _ _) hclean.symm
      have hdouble : startsWith "//".toList (strip text) = false := by
        rw [Bool.eq_false_iff] at hpath ⊢
        intro h
        refine hpath (startsWith_iff.2 (.trans ?_ (startsWith_iff.1 h)))
        exact ⟨['/'], rfl⟩
      simp only [resolveCheckoutReturnUrl]
      rw [if_neg hne, if_neg (by rw [hdouble]; simp [hback]),
        if_neg (by rw [hpath]; exact Bool.false_ne_true), hparses]
      dsimp only
      rw [if_neg (not_or.2 ⟨not_not.2 (List.mem_pair.2 hscheme), hnetloc⟩),
        if_neg (not_not.2 hallowed)]

/-! ### What a browser makes of it -/

variable {Endpoint : Type} (browser : Browser Endpoint) (page : Page Endpoint)
  (allowedOrigins : List (List Char))

/-- The page's origin, or an allowed one. -/
def Known (origin : Origin Endpoint) : Prop :=
  origin = page.origin ∨ ∃ allowed ∈ allowedOrigins, browser.originOf allowed = some origin

/-- On the page a text resolves to a URL of a known origin. -/
def Stays (url : List Char) : Prop :=
  ∃ origin, browser.resolve page url = some origin ∧ Known browser page allowedOrigins origin

/-- A browser reads a slash at the start of a text as it stands. -/
theorem read_path {url : List Char} (h : startsWith "/".toList url = true) :
    ∃ more, read url = '/' :: more ∧ ∀ c ∈ more, c ∈ url := by
  obtain ⟨rest, hrest⟩ := startsWith_iff.1 h
  have hclean : clean url = '/' :: rest.filter fun c => !isRemoved c := by
    rw [← hrest]
    rfl
  obtain ⟨back, hread, hback⟩ := clean_eq_read_append url
  rw [hclean] at hread
  cases hshape : read url with
  | nil =>
      rw [hshape, List.nil_append] at hread
      have hslash := hback '/' (by rw [← hread]; exact List.mem_cons_self)
      cases hslash
  | cons c more =>
      rw [hshape, List.cons_append, List.cons.injEq] at hread
      refine ⟨more, by rw [hread.1], fun d hd => ?_⟩
      have hfilter : d ∈ rest.filter fun c => !isRemoved c := by
        rw [hread.2]
        exact List.mem_append_left _ hd
      rw [← hrest]
      exact List.mem_append_right _ (List.mem_of_mem_filter hfilter)

/-- **A path resolves to the page's origin**, but where it begins with two slashes once the tabs
and the line feeds are dropped. -/
theorem resolve_path {url : List Char} (h : IsPath url) :
    browser.resolve page url =
      if startsWith "//".toList (read url) then browser.named page.scheme (read url)
      else some page.origin := by
  obtain ⟨more, hread, hmem⟩ := read_path h.1
  have hslashes : beginsLocation ('/' :: more) = startsWith "//".toList ('/' :: more) := by
    cases more with
    | nil => rfl
    | cons c more =>
        have hc : (c == '\\') = false :=
          beq_false_of_ne fun hc => h.2.2.1 (hc ▸ hmem c List.mem_cons_self)
        have hcomm : (c == '/') = ('/' == c) := Bool.beq_comm
        have hnil : [].isPrefixOf more = true := rfl
        simp [beginsLocation, startsWith, isSlash, hc, hcomm, List.isPrefixOf]
  rw [Browser.resolve, hread, splitScheme_cons (by decide)]
  dsimp only
  rw [if_pos (.inl rfl), hslashes]

/-- An absolute URL that is returned resolves to an allowed origin or is none. -/
theorem stays_absolute_iff {rules : Rules} {url : List Char} {parsed : SplitResult}
    (h : IsAbsolute rules allowedOrigins url parsed) :
    Stays browser page allowedOrigins url ↔ (browser.originOf url).isSome = true := by
  obtain ⟨hresolve, horigin⟩ :=
    browser.originOf_of_urlsplit h.parses h.scheme h.netloc h.noBackslash page
  rw [Stays, hresolve]
  constructor
  · rintro ⟨origin, hsome, -⟩
    rw [hsome]
    rfl
  · intro hsome
    obtain ⟨origin, hsome⟩ := Option.isSome_iff_exists.1 hsome
    rcases horigin with hnone | heq
    · rw [hnone] at hsome
      cases hsome
    · exact ⟨origin, hsome, .inr ⟨_, h.allowed, by rw [← heq, hsome]⟩⟩

/-- A browser reads the scheme of such a URL first. -/
theorem startsWith_read_absolute {rules : Rules} {url : List Char} {parsed : SplitResult}
    (h : IsAbsolute rules allowedOrigins url parsed) :
    startsWith "//".toList (read url) = false := by
  have hscheme : parsed.scheme ≠ [] := by rcases h.scheme with h | h <;> rw [h] <;> decide
  obtain ⟨before, hbefore, -, hclean, -⟩ := of_urlsplit h.parses hscheme h.netloc
  obtain ⟨front, -, hread, -⟩ := read_of_clean hbefore hclean
  obtain ⟨hne, hchars⟩ := of_isScheme hbefore
  obtain ⟨c, before, rfl⟩ := List.exists_cons_of_ne_nil hne
  rw [Bool.eq_false_iff]
  intro hslash
  obtain ⟨rest, hrest⟩ := startsWith_iff.1 hslash
  rw [hread] at hrest
  have hc : '/' = c := (List.cons.inj hrest).1
  have hchar := hchars c List.mem_cons_self
  rw [← hc] at hchar
  cases hchar

/-- **A returned URL stays on the origin of the page or an allowed one** exactly where, once the
tabs and line feeds are dropped, it does not begin with two slashes that lead to a location of
another origin, and where it is absolute, a browser can read its location at all. -/
theorem returned_stays_iff {rules : Rules} {raw : Option (List Char)} {url : List Char}
    (h : resolveCheckoutReturnUrl rules allowedOrigins raw = .ok (some url)) :
    Stays browser page allowedOrigins url ↔
      (startsWith "//".toList (read url) = true → ∃ origin,
        browser.named page.scheme (read url) = some origin ∧
          Known browser page allowedOrigins origin) ∧
      (startsWith "/".toList url = false → (browser.originOf url).isSome = true) := by
  obtain ⟨text, -, -, hpath | ⟨parsed, habsolute⟩⟩ := returned_iff.1 h
  · rw [Stays, resolve_path browser page hpath, hpath.1]
    split_ifs with hdouble
    · constructor
      · exact fun hstays => ⟨fun _ => hstays, fun hno => (by cases hno)⟩
      · exact fun hcond => hcond.1 hdouble
    · constructor
      · exact fun _ => ⟨fun hyes => absurd hyes hdouble, fun hno => (by cases hno)⟩
      · exact fun _ => ⟨page.origin, rfl, .inl rfl⟩
  · rw [stays_absolute_iff browser page allowedOrigins habsolute,
      startsWith_read_absolute allowedOrigins habsolute]
    constructor
    · exact fun hsome => ⟨fun hno => (by cases hno), fun _ => hsome⟩
    · exact fun hcond => hcond.2 habsolute.noPath

/-- A browser as far as locations of letters, digits, dots and hyphens go. -/
def plainBrowser : Browser (List Char) where
  endpoint _ location :=
    if location ≠ [] ∧ location.all fun c => isLetter c || c.isDigit || c == '.' || c == '-' then
      some (location.map Char.toLower)
    else none
  not_controlOrSpace scheme location c hc := by
    refine if_neg fun h => ?_
    have hall := List.all_eq_true.1 h.2 c (List.mem_append_right _ (List.mem_singleton_self c))
    have hscheme : isSchemeChar c = true := by
      rw [isSchemeChar]
      simp only [Bool.or_eq_true] at hall ⊢
      tauto
    rw [(of_isSchemeChar hscheme).1] at hc
    cases hc

/-- A page of a shop. -/
def shopPage : Page (List Char) := ⟨true, "shop.example".toList⟩

/-- The shop's own origin. -/
def shopOrigins : List (List Char) := ["https://shop.example".toList]

theorem returned_stays_orders :
    Stays plainBrowser shopPage shopOrigins "https://shop.example/orders?id=7".toList := by
  have hreturned : resolveCheckoutReturnUrl asciiRules shopOrigins
      (some " https://shop.example/orders?id=7".toList) =
        .ok (some "https://shop.example/orders?id=7".toList) := by decide
  have hread : startsWith "//".toList (read "https://shop.example/orders?id=7".toList) = false := by
    decide
  refine (returned_stays_iff plainBrowser shopPage shopOrigins hreturned).2
    ⟨fun hslash => ?_, fun _ => by decide⟩
  rw [hread] at hslash
  cases hslash

/-- **A tab between two slashes leads off the site**: the path is returned, and the browser that
drops the tab reads a network location. -/
theorem tab_leaves_origin :
    resolveCheckoutReturnUrl asciiRules shopOrigins (some "/\t/evil.example/pay".toList) =
        .ok (some "/\t/evil.example/pay".toList) ∧
      plainBrowser.resolve shopPage "/\t/evil.example/pay".toList =
        some ⟨"https".toList, "evil.example".toList⟩ ∧
      ¬ Stays plainBrowser shopPage shopOrigins "/\t/evil.example/pay".toList := by
  have hresolve : plainBrowser.resolve shopPage "/\t/evil.example/pay".toList =
      some ⟨"https".toList, "evil.example".toList⟩ := by decide
  have hshop : plainBrowser.originOf "https://shop.example".toList =
      some ⟨"https".toList, "shop.example".toList⟩ := by decide
  refine ⟨by decide, hresolve, ?_⟩
  rintro ⟨origin, hsome, hknown⟩
  obtain rfl := Option.some.inj (hresolve.symm.trans hsome)
  rcases hknown with hpage | ⟨allowed, hallowed, horigin⟩
  · revert hpage
    decide
  · obtain rfl := List.mem_singleton.1 hallowed
    have heq := hshop.symm.trans horigin
    revert heq
    decide

end ReturnUrl
end AgenticCommerce
