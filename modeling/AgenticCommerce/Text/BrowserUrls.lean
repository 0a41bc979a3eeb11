/-
# The origin of a URL, as a browser reads it

The part of the URL standard that decides on the origin of what a text resolves to on a page:
control characters and spaces are trimmed at both ends and tabs and line feeds dropped everywhere;
a text without a scheme, or with the page's own, is relative unless two slashes follow; a backslash
is a slash; and every slash before the network location is skipped.

What a browser makes of a network location (the credentials, the host, the port) is the argument
`Browser`; the one thing used of it is that no location ends in a control character or a space.
-/

import AgenticCommerce.Text.Urls

namespace AgenticCommerce
namespace Urls

/-- How a browser reads the network location of a special scheme: the host and the port, or that
there is no such URL. -/
structure Browser (Endpoint : Type) where
  endpoint : List Char → List Char → Option Endpoint
  /-- Neither a host nor a port ends in a control character or a space. -/
  not_controlOrSpace : ∀ scheme location c, isControlOrSpace c = true →
    endpoint scheme (location ++ [c]) = none

/-- A tuple origin. -/
structure Origin (Endpoint : Type) where
  scheme : List Char
  endpoint : Endpoint
  deriving DecidableEq

/-- A page that was loaded over HTTP. -/
structure Page (Endpoint : Type) where
  secure : Bool
  endpoint : Endpoint

variable {Endpoint : Type}

/-- The scheme of a page. -/
def Page.scheme (page : Page Endpoint) : List Char :=
  if page.secure then "https".toList else "http".toList

/-- The origin of a page. -/
def Page.origin (page : Page Endpoint) : Origin Endpoint := ⟨page.scheme, page.endpoint⟩

/-- The characters that a browser parses. -/
def read (text : List Char) : List Char :=
  ((text.dropWhile isControlOrSpace).rdropWhile isControlOrSpace).filter fun c => !isRemoved c

/-- A slash of either kind. -/
def isSlash (c : Char) : Bool := c == '/' || c == '\\'

/-- The network location: behind all slashes, up to the path, the query or the fragment. -/
def authority (rest : List Char) : List Char :=
  (rest.dropWhile isSlash).takeWhile fun c => !(isSlash c || c == '?' || c == '#')

/-- The schemes whose URLs have a tuple origin. -/
def tupleSchemes : List (List Char) :=
  ["http".toList, "https".toList, "ws".toList, "wss".toList, "ftp".toList]

/-- Whether what follows a scheme begins a network location. -/
def beginsLocation : List Char → Bool
  | c :: d :: _ => isSlash c && isSlash d
  | _ => false

namespace Browser

variable (browser : Browser Endpoint)

/-- The origin that a scheme and what follows it name. -/
def named (scheme rest : List Char) : Option (Origin Endpoint) :=
  (browser.endpoint scheme (authority rest)).map (Origin.mk scheme)

/-- The tuple origin of an absolute URL. -/
def originOf (text : List Char) : Option (Origin Endpoint) :=
  let (scheme, rest) := splitScheme (read text)
  if scheme ∈ tupleSchemes then browser.named scheme rest else none

/-- The tuple origin of what a text resolves to on a page; `none` where it is no URL, or one whose
origin equals no other. -/
def resolve (page : Page Endpoint) (text : List Char) : Option (Origin Endpoint) :=
  let (scheme, rest) := splitScheme (read text)
  if scheme = [] ∨ scheme = page.scheme then
    if beginsLocation rest then browser.named page.scheme rest else some page.origin
  else if scheme ∈ tupleSchemes then browser.named scheme rest
  else none

end Browser

/-! ### What is read of a text -/

/-- A browser reads what `urlsplit` splits but for control characters and spaces at the end. -/
theorem clean_eq_read_append (text : List Char) :
    ∃ back, clean text = read text ++ back ∧ ∀ c ∈ back, isControlOrSpace c = true := by
  have hsplit := List.rdropWhile_append_rtakeWhile (p := isControlOrSpace)
    (l := text.dropWhile isControlOrSpace)
  refine ⟨((text.dropWhile isControlOrSpace).rtakeWhile isControlOrSpace).filter
    fun c => !isRemoved c, ?_, fun c hc => ?_⟩
  · rw [clean, ← hsplit, List.filter_append, hsplit, read]
  · exact List.mem_rtakeWhile_imp (List.mem_of_mem_filter hc)

theorem isControlOrSpace_of_isRemoved {c : Char} (h : isRemoved c = true) :
    isControlOrSpace c = true := by
  simp only [isRemoved, Bool.or_eq_true, beq_iff_eq] at h
  rcases h with (rfl | rfl) | rfl <;> rfl

/-- A filter keeps a last element that it admits. -/
theorem getLast?_filter {α : Type} {p : α → Bool} {l : List α} {a : α} (h : l.getLast? = some a)
    (ha : p a = true) : (l.filter p).getLast? = some a := by
  obtain ⟨front, rfl⟩ := List.getLast?_eq_some_iff.1 h
  rw [List.filter_append, List.filter_cons_of_pos ha, List.filter_nil, List.getLast?_concat]

/-- What a browser reads ends in no control character and no space. -/
theorem isControlOrSpace_of_getLast?_read {text : List Char} {c : Char}
    (h : (read text).getLast? = some c) : isControlOrSpace c = false := by
  rcases List.eq_nil_or_concat
    ((text.dropWhile isControlOrSpace).rdropWhile isControlOrSpace) with hnil | ⟨front, d, hd⟩
  · rw [read, hnil] at h
    cases h
  · have hlast : isControlOrSpace d = false := by
      have hne : (text.dropWhile isControlOrSpace).rdropWhile isControlOrSpace ≠ [] := by
        rw [hd]
        simp
      have := List.rdropWhile_last_not isControlOrSpace (text.dropWhile isControlOrSpace) hne
      simp only [hd, List.concat_eq_append, List.getLast_append_singleton] at this
      exact Bool.eq_false_iff.2 this
    have hkept : (!isRemoved d) = true := by
      rw [Bool.not_eq_true', Bool.eq_false_iff]
      intro hremoved
      rw [isControlOrSpace_of_isRemoved hremoved] at hlast
      cases hlast
    have hd' : (read text).getLast? = some d :=
      getLast?_filter (by rw [hd, List.concat_eq_append, List.getLast?_concat]) hkept
    rw [hd', Option.some.injEq] at h
    exact h ▸ hlast

/-! ### Schemes -/

theorem isControlOrSpace_eq_false_of_lt {c : Char} (h : 32 < c.toNat) :
    isControlOrSpace c = false := decide_eq_false (by omega)

/-- A character of a scheme is visible and no colon. -/
theorem of_isSchemeChar {c : Char} (h : isSchemeChar c = true) :
    isControlOrSpace c = false ∧ c ≠ ':' := by
  have hclass : (65 ≤ c.toNat ∧ c.toNat ≤ 90) ∨ (97 ≤ c.toNat ∧ c.toNat ≤ 122) ∨
      (48 ≤ c.toNat ∧ c.toNat ≤ 57) ∨ c = '+' ∨ c = '-' ∨ c = '.' := by
    change (((decide (c.val ≥ 'A'.val ∧ c.val ≤ 'Z'.val) ||
      decide (c.val ≥ 'a'.val) && decide (c.val ≤ 'z'.val)) ||
      decide (c.val ≥ '0'.val) && decide (c.val ≤ '9'.val)) ||
      c == '+' || c == '-' || c == '.') = true at h
    simp only [Bool.or_eq_true, Bool.and_eq_true, decide_eq_true_eq, beq_iff_eq] at h
    have hnat (n : UInt32) : c.val ≤ n ↔ c.toNat ≤ n.toNat := Iff.rfl
    have hnat' (n : UInt32) : n ≤ c.val ↔ n.toNat ≤ c.toNat := Iff.rfl
    simp only [ge_iff_le, hnat, hnat'] at h
    tauto
  rcases hclass with h | h | h | rfl | rfl | rfl
  any_goals exact ⟨rfl, by decide⟩
  all_goals
    refine ⟨isControlOrSpace_eq_false_of_lt (by omega), ?_⟩
    rintro rfl
    revert h
    decide

/-- A scheme is not empty, and of characters of a scheme. -/
theorem of_isScheme {text : List Char} (h : isScheme text = true) :
    text ≠ [] ∧ ∀ c ∈ text, isSchemeChar c = true := by
  cases text with
  | nil => cases h
  | cons c text =>
      rw [isScheme, Bool.and_eq_true, List.all_eq_true] at h
      exact ⟨List.cons_ne_nil _ _, h.2⟩

/-- Where there is a scheme, it stands before the first colon. -/
theorem splitScheme_append {before rest : List Char} (h : isScheme before = true) :
    splitScheme (before ++ ':' :: rest) = (before.map Char.toLower, rest) := by
  have hcolon (c : Char) (hc : c ∈ before) : decide (c ≠ ':') = true :=
    decide_eq_true (of_isSchemeChar ((of_isScheme h).2 c hc)).2
  have hspan : (before ++ ':' :: rest).span (· ≠ ':') = (before, ':' :: rest) := by
    rw [List.span_eq_takeWhile_dropWhile, List.takeWhile_append_of_pos hcolon,
      List.dropWhile_append_of_pos hcolon]
    simp
  rw [splitScheme, hspan]
  exact if_pos h

/-- **What `splitScheme` takes off is a scheme and a colon.** -/
theorem eq_of_splitScheme {url scheme rest : List Char} (h : splitScheme url = (scheme, rest))
    (hne : scheme ≠ []) : ∃ before, isScheme before = true ∧ before.map Char.toLower = scheme ∧
      url = before ++ ':' :: rest := by
  rw [splitScheme] at h
  have hsplit : (url.span (· ≠ ':')).1 ++ (url.span (· ≠ ':')).2 = url := by
    rw [List.span_eq_takeWhile_dropWhile]
    exact List.takeWhile_append_dropWhile
  generalize hspan : url.span (· ≠ ':') = span at h hsplit
  obtain ⟨before, after⟩ := span
  cases after with
  | nil => exact absurd (Prod.mk.inj h).1.symm hne
  | cons colon after =>
      have hcolon : colon = ':' := by
        rw [List.span_eq_takeWhile_dropWhile, Prod.mk.injEq] at hspan
        have hstop := List.head?_dropWhile_not (fun c => decide (c ≠ ':')) url
        rw [hspan.2] at hstop
        simpa using hstop
      dsimp only at h
      split_ifs at h with hscheme
      · obtain ⟨rfl, rfl⟩ := Prod.mk.inj h
        exact ⟨before, hscheme, rfl, by rw [← hsplit, hcolon]⟩
      · exact absurd (Prod.mk.inj h).1.symm hne

/-- A text that begins with a character of no scheme has none. -/
theorem splitScheme_cons {c : Char} {rest : List Char} (h : isSchemeChar c = false) :
    splitScheme (c :: rest) = ([], c :: rest) := by
  have hno : isScheme ((c :: rest).takeWhile (· ≠ ':')) = false := by
    rw [List.takeWhile_cons]
    split_ifs with hcolon
    · rw [Bool.eq_false_iff]
      intro hscheme
      rw [(of_isScheme hscheme).2 c List.mem_cons_self] at h
      cases h
    · rfl
  rw [splitScheme, List.span_eq_takeWhile_dropWhile]
  generalize (c :: rest).dropWhile (fun c => decide (c ≠ ':')) = after
  cases after with
  | nil => rfl
  | cons colon after => exact if_neg (Bool.eq_false_iff.1 hno)

/-! ### Where the two readings agree -/

theorem takeWhile_congr {α : Type} {p q : α → Bool} : ∀ {l : List α}, (∀ a ∈ l, p a = q a) →
    l.takeWhile p = l.takeWhile q
  | [], _ => rfl
  | a :: l, h => by
      rw [List.takeWhile_cons, List.takeWhile_cons, h a List.mem_cons_self,
        takeWhile_congr fun b hb => h b (List.mem_cons_of_mem a hb)]

/-- Where nothing in a text is a backslash and it begins with no slash, its network location ends
where `urlsplit` ends it. -/
theorem authority_eq {text : List Char} (hback : '\\' ∉ text) (hhead : text.head? ≠ some '/') :
    authority ('/' :: '/' :: text) = text.takeWhile fun c => !endsLocation c := by
  have hslash : text.dropWhile isSlash = text := by
    cases text with
    | nil => rfl
    | cons c text =>
        refine List.dropWhile_cons_of_neg ?_
        rw [Bool.not_eq_true, isSlash, Bool.or_eq_false_iff, beq_eq_false_iff_ne,
          beq_eq_false_iff_ne]
        exact ⟨fun h => hhead (by rw [h, List.head?_cons]),
          fun h => hback (by rw [h]; exact List.mem_cons_self)⟩
  rw [authority, List.dropWhile_cons_of_pos rfl, List.dropWhile_cons_of_pos rfl, hslash]
  refine takeWhile_congr fun c hc => ?_
  have hc' : (c == '\\') = false := beq_false_of_ne fun h => hback (h ▸ hc)
  simp [isSlash, endsLocation, hc']

/-- A text that ends in control characters or spaces is the rest of it and these. -/
theorem rdropWhile_append {front back : List Char} (hback : ∀ c ∈ back, isControlOrSpace c = true)
    (hlast : ∀ c, front.getLast? = some c → isControlOrSpace c = false) :
    (front ++ back).rdropWhile isControlOrSpace = front := by
  induction back using List.reverseRecOn with
  | nil =>
      rw [List.append_nil]
      refine List.rdropWhile_eq_self_iff.2 fun hne => ?_
      rw [hlast _ (List.getLast?_eq_some_getLast hne)]
      exact Bool.false_ne_true
  | append_singleton back c ih =>
      have hc : isControlOrSpace c = true :=
        hback c (List.mem_append_right _ (List.mem_singleton_self c))
      rw [← List.append_assoc, List.rdropWhile_concat_pos _ _ _ hc]
      exact ih fun d hd => hback d (List.mem_append_left _ hd)

/-- A text without a backslash and without the characters that end a network location is one. -/
theorem authority_eq_self {front : List Char} (hback : '\\' ∉ front) (hhead : front.head? ≠ some '/')
    (hin : ∀ c ∈ front, endsLocation c = false) : authority ('/' :: '/' :: front) = front := by
  rw [authority_eq hback hhead, List.takeWhile_eq_self_iff]
  intro c hc
  rw [hin c hc]
  rfl

theorem head?_of_prefix {front back : List Char} {c : Char} (h : front.head? = some c) :
    (front ++ back).head? = some c := by
  rw [List.head?_append, h]
  rfl

theorem not_isRemoved_of_mem_clean {url : List Char} {c : Char} (h : c ∈ clean url) :
    isRemoved c = false := by
  have hkept := (List.mem_filter.1 h).2
  rwa [Bool.not_eq_true'] at hkept

/-- **The network location that a browser reads.**  It is the one that `urlsplit` finds, or what is
left of that when its end is trimmed. -/
theorem authority_of_split {netloc rest front back : List Char}
    (hsplit : netloc ++ rest = front ++ back) (hback : ∀ c ∈ back, isControlOrSpace c = true)
    (hlast : ∀ c, front.getLast? = some c → isControlOrSpace c = false)
    (hin : ∀ c ∈ netloc, endsLocation c = false)
    (hrest : ∀ c, rest.head? = some c → endsLocation c = true)
    (hne : netloc ≠ []) (hno : '\\' ∉ netloc ++ rest) :
    authority ('/' :: '/' :: front) = netloc ∨
      authority ('/' :: '/' :: front) = netloc.rdropWhile isControlOrSpace := by
  have hno' : '\\' ∉ front := fun h => hno (by rw [hsplit]; exact List.mem_append_left _ h)
  have hhead : front.head? ≠ some '/' := by
    intro h
    obtain ⟨c, netloc, rfl⟩ := List.exists_cons_of_ne_nil hne
    have hc : (c :: netloc ++ rest).head? = some '/' := by
      rw [hsplit]
      exact head?_of_prefix h
    have hslash := hin c List.mem_cons_self
    obtain rfl := Option.some.inj hc
    cases hslash
  rcases List.append_eq_append_iff.1 hsplit with ⟨between, rfl, hover⟩ | ⟨between, rfl, hover⟩
  · left
    rw [authority_eq hno' hhead, List.takeWhile_append_of_pos fun c hc => by rw [hin c hc]; rfl]
    cases between with
    | nil => rw [List.takeWhile_nil, List.append_nil]
    | cons c between =>
        have hc := hrest c (by rw [hover]; rfl)
        rw [List.takeWhile_cons_of_neg (by rw [hc]; decide), List.append_nil]
  · right
    rw [authority_eq_self hno' hhead fun c hc => hin c (List.mem_append_left _ hc)]
    exact (rdropWhile_append
      (fun c hc => hback c (by rw [hover]; exact List.mem_append_left _ hc)) hlast).symm

/-- Where `splitLocation` finds a network location, two slashes stand before it, and it ends where
the path, the query or the fragment begins. -/
theorem of_splitLocation {url netloc rest : List Char} (h : splitLocation url = (netloc, rest))
    (hne : netloc ≠ []) : url = '/' :: '/' :: (netloc ++ rest) ∧
      (∀ c ∈ netloc, endsLocation c = false) ∧
      ∀ c, rest.head? = some c → endsLocation c = true := by
  rw [splitLocation.eq_def] at h
  split at h
  · rename_i url
    rw [List.span_eq_takeWhile_dropWhile, Prod.mk.injEq] at h
    obtain ⟨rfl, rfl⟩ := h
    refine ⟨by rw [List.takeWhile_append_dropWhile], fun c hc => ?_, fun c hc => ?_⟩
    · have hin := List.mem_takeWhile_imp hc
      rwa [Bool.not_eq_true'] at hin
    · have hstop := List.head?_dropWhile_not (fun c => !endsLocation c) url
      rw [hc] at hstop
      dsimp only at hstop
      rwa [Bool.not_eq_false'] at hstop
  · exact absurd (Prod.mk.inj h).1.symm hne

/-- The parts that `urlsplit` finds in a text with a network location. -/
theorem of_urlsplit {rules : Rules} {url : List Char} {parsed : SplitResult}
    (h : urlsplit rules url = some parsed) (hscheme : parsed.scheme ≠ [])
    (hnetloc : parsed.netloc ≠ []) : ∃ before, isScheme before = true ∧
      before.map Char.toLower = parsed.scheme ∧
      clean url = before ++ ':' :: '/' :: '/' :: (parsed.netloc ++ parsed.rest) ∧
      (∀ c ∈ parsed.netloc, endsLocation c = false) ∧
      ∀ c, parsed.rest.head? = some c → endsLocation c = true := by
  rw [urlsplit] at h
  rcases hsplit : splitScheme (clean url) with ⟨scheme, rest⟩
  rcases hlocation : splitLocation rest with ⟨netloc, rest'⟩
  simp only [hsplit, hlocation] at h
  split_ifs at h
  obtain rfl := Option.some.inj h
  obtain ⟨before, hbefore, hlower, heq⟩ := eq_of_splitScheme hsplit hscheme
  obtain ⟨rfl, hin, hout⟩ := of_splitLocation hlocation hnetloc
  exact ⟨before, hbefore, hlower, heq, hin, hout⟩

/-- What a browser reads of a text that has a scheme and two slashes: the same, and of what stands
behind all but the end. -/
theorem read_of_clean {url before rest : List Char} (hbefore : isScheme before = true)
    (hclean : clean url = before ++ ':' :: '/' :: '/' :: rest) :
    ∃ front back, read url = before ++ ':' :: '/' :: '/' :: front ∧ rest = front ++ back ∧
      (∀ c ∈ back, isControlOrSpace c = true) ∧
      ∀ c, front.getLast? = some c → isControlOrSpace c = false := by
  obtain ⟨back, hread, hback⟩ := clean_eq_read_append url
  have hsplit : (before ++ [':', '/', '/']) ++ rest = read url ++ back := by
    rw [← hread, hclean, List.append_assoc]
    rfl
  have hvisible (c : Char) (hc : c ∈ before ++ [':', '/', '/']) : isControlOrSpace c = false := by
    rcases List.mem_append.1 hc with hc | hc
    · exact (of_isSchemeChar ((of_isScheme hbefore).2 c hc)).1
    · simp only [List.mem_cons, List.not_mem_nil, or_false] at hc
      rcases hc with rfl | rfl | rfl <;> rfl
  have hfront : ∃ front, read url = (before ++ [':', '/', '/']) ++ front ∧
      rest = front ++ back := by
    rcases List.append_eq_append_iff.1 hsplit with ⟨between, hover, hrest⟩ | ⟨between, hover, hrest⟩
    · exact ⟨between, hover, hrest⟩
    · cases between with
      | nil =>
          rw [List.append_nil] at hover
          exact ⟨[], by rw [hover, List.append_nil], hrest.symm⟩
      | cons c between =>
          have hc := hvisible c (by
            rw [hover]
            exact List.mem_append_right _ List.mem_cons_self)
          rw [hback c (by rw [hrest]; exact List.mem_cons_self)] at hc
          cases hc
  obtain ⟨front, hfront, hrest⟩ := hfront
  have hshape : read url = before ++ ':' :: '/' :: '/' :: front := by
    rw [hfront, List.append_assoc]
    rfl
  refine ⟨front, back, hshape, hrest, hback, fun c hc => ?_⟩
  refine @isControlOrSpace_of_getLast?_read url _ ?_
  rw [hfront, List.getLast?_append, hc]
  rfl

namespace Browser

variable (browser : Browser Endpoint)

/-- The origin of a text that a browser reads as a scheme, two slashes and more. -/
theorem originOf_eq {url before front : List Char} (hbefore : isScheme before = true)
    (hhttp : before.map Char.toLower = "http".toList ∨ before.map Char.toLower = "https".toList)
    (hread : read url = before ++ ':' :: '/' :: '/' :: front) :
    browser.originOf url = browser.named (before.map Char.toLower) ('/' :: '/' :: front) := by
  rw [originOf, hread, splitScheme_append hbefore]
  refine if_pos ?_
  rcases hhttp with h | h <;> rw [h] <;> decide

/-- On every page such a text resolves to that origin. -/
theorem resolve_eq {url before front : List Char} (page : Page Endpoint)
    (hbefore : isScheme before = true)
    (hhttp : before.map Char.toLower = "http".toList ∨ before.map Char.toLower = "https".toList)
    (hread : read url = before ++ ':' :: '/' :: '/' :: front) :
    browser.resolve page url = browser.originOf url := by
  rw [browser.originOf_eq hbefore hhttp hread, resolve, hread, splitScheme_append hbefore]
  dsimp only
  split_ifs with hpage hslashes hscheme
  · rcases hpage with hnil | hpage
    · rw [hnil] at hhttp
      rcases hhttp with h | h <;> cases h
    · rw [hpage]
  · exact absurd rfl hslashes
  · rfl
  · refine absurd ?_ hscheme
    rcases hhttp with h | h <;> rw [h] <;> decide

/-- The origin of a scheme and a network location alone: the end of the location is trimmed. -/
theorem originOf_location {scheme netloc : List Char}
    (hhttp : scheme = "http".toList ∨ scheme = "https".toList) (hne : netloc ≠ [])
    (hin : ∀ c ∈ netloc, endsLocation c = false) (hno : '\\' ∉ netloc)
    (hkept : ∀ c ∈ netloc, isRemoved c = false) :
    browser.originOf (scheme ++ "://".toList ++ netloc) =
      (browser.endpoint scheme (netloc.rdropWhile isControlOrSpace)).map (Origin.mk scheme) := by
  have hscheme : isScheme scheme = true ∧ scheme.map Char.toLower = scheme ∧
      clean (scheme ++ "://".toList ++ netloc) = scheme ++ "://".toList ++ netloc := by
    have hfilter : netloc.filter (fun c => !isRemoved c) = netloc := by
      rw [List.filter_eq_self]
      intro c hc
      rw [hkept c hc]
      rfl
    rcases hhttp with rfl | rfl
    · refine ⟨by decide, by decide, ?_⟩
      show 'h' :: 't' :: 't' :: 'p' :: ':' :: '/' :: '/' :: netloc.filter (fun c => !isRemoved c) =
        _
      rw [hfilter]
      rfl
    · refine ⟨by decide, by decide, ?_⟩
      show 'h' :: 't' :: 't' :: 'p' :: 's' :: ':' :: '/' :: '/' :: netloc.filter (fun c => !isRemoved c) =
        _
      rw [hfilter]
      rfl
  obtain ⟨hscheme, hlower, hclean⟩ := hscheme
  have hclean' : clean (scheme ++ "://".toList ++ netloc) =
      scheme ++ ':' :: '/' :: '/' :: netloc := by
    rw [hclean, List.append_assoc]
    rfl
  obtain ⟨front, back, hread, rfl, hcontrol, hlast⟩ := read_of_clean hscheme hclean'
  have hhead : front.head? ≠ some '/' := fun h => by
    have hslash := hin '/' (List.mem_append_left _ (List.mem_of_mem_head? h))
    cases hslash
  rw [browser.originOf_eq hscheme (by rwa [hlower]) hread, hlower, named,
    rdropWhile_append hcontrol hlast,
    authority_eq_self (fun h => hno (List.mem_append_left _ h)) hhead
      fun c hc => hin c (List.mem_append_left _ hc)]

/-- **The two grammars agree on absolute URLs.**  Where `urlsplit` finds `http` or `https` and a
network location in a text without a backslash, a browser reads no URL there, or one with the
origin of that scheme and that location alone. -/
theorem originOf_of_urlsplit {rules : Rules} {url : List Char} {parsed : SplitResult}
    (h : urlsplit rules url = some parsed)
    (hhttp : parsed.scheme = "http".toList ∨ parsed.scheme = "https".toList)
    (hnetloc : parsed.netloc ≠ []) (hback : '\\' ∉ url) (page : Page Endpoint) :
    browser.resolve page url = browser.originOf url ∧
      (browser.originOf url = none ∨ browser.originOf url =
        browser.originOf (parsed.scheme ++ "://".toList ++ parsed.netloc)) := by
  have hscheme : parsed.scheme ≠ [] := by rcases hhttp with h | h <;> rw [h] <;> decide
  obtain ⟨before, hbefore, hlower, hclean, hin, hout⟩ := of_urlsplit h hscheme hnetloc
  obtain ⟨front, back, hread, hsplit, hcontrol, hlast⟩ := read_of_clean hbefore hclean
  have hhttp' : before.map Char.toLower = "http".toList ∨
      before.map Char.toLower = "https".toList := by rwa [hlower]
  have hno : '\\' ∉ parsed.netloc ++ parsed.rest := fun hmem => by
    have hclean' : '\\' ∈ clean url := by
      rw [hclean]
      exact List.mem_append_right _ (.tail _ (.tail _ (.tail _ hmem)))
    exact hback ((List.dropWhile_sublist _).subset (List.mem_of_mem_filter hclean'))
  refine ⟨browser.resolve_eq page hbefore hhttp' hread, ?_⟩
  rw [browser.originOf_eq hbefore hhttp' hread, hlower,
    browser.originOf_location hhttp hnetloc hin (fun hmem => hno (List.mem_append_left _ hmem))
      fun c hc => not_isRemoved_of_mem_clean (by
        rw [hclean]
        exact List.mem_append_right _ (.tail _ (.tail _ (.tail _ (List.mem_append_left _ hc)))))]
  rcases authority_of_split hsplit hcontrol hlast hin hout hnetloc hno with hwhole | htrimmed
  · rcases List.eq_nil_or_concat parsed.netloc with hnil | ⟨location, c, hlocation⟩
    · exact absurd hnil hnetloc
    rw [List.concat_eq_append] at hlocation
    rcases hc : isControlOrSpace c with _ | _
    · right
      rw [named, hwhole, hlocation,
        List.rdropWhile_concat_neg _ _ _ (by rw [hc]; exact Bool.false_ne_true)]
    · left
      rw [named, hwhole, hlocation, browser.not_controlOrSpace _ _ _ hc]
      rfl
  · right
    rw [named, htrimmed]

end Browser

end Urls
end AgenticCommerce
