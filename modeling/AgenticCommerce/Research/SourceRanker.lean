/-
# The trust of a source

`SourceRanker.evaluate_source` of `services/research/ranking/source_ranker.py`: a cascade of
tests of a host name, of its parts and of its ends, in which the first test that holds decides the
type of the source and its score.
-/

import Mathlib.Tactic.NormNum
import AgenticCommerce.Text.Urls

namespace AgenticCommerce
namespace Research
namespace SourceRanker

/-- `SourceType`. -/
inductive SourceType where
  | manufacturer | officialDocumentation | officialSupport | majorRetailer
  | establishedTechReview | forum | unknownBlog
  deriving DecidableEq, Repr

/-- `_MANUFACTURER_DOMAINS`. -/
def manufacturerDomains : List (List Char) :=
  ["lenovo.com", "apple.com", "dell.com", "hp.com", "asus.com", "acer.com", "sony.com",
   "samsung.com", "bose.com", "logitech.com", "intel.com", "amd.com", "nvidia.com"].map
    String.toList

/-- `_DOCUMENTATION_SUBDOMAINS`. -/
def documentationSubdomains : List (List Char) :=
  ["psref.lenovo.com", "support.lenovo.com", "support.apple.com", "developer.apple.com",
   "support.dell.com", "manuals.playstation.net", "docs.sony.com"].map String.toList

/-- `_ESTABLISHED_REVIEWS`. -/
def establishedReviews : List (List Char) :=
  ["notebookcheck.net", "rtings.com", "gsmarena.com", "anandtech.com", "tomshardware.com",
   "theverge.com", "cnet.com", "pcmag.com"].map String.toList

/-- `_RETAILER_DOMAINS`. -/
def retailerDomains : List (List Char) :=
  ["amazon.in", "amazon.com", "flipkart.com", "bestbuy.com", "croma.com",
   "reliancedigital.in"].map String.toList

/-- `_FORUM_DOMAINS`. -/
def forumDomains : List (List Char) :=
  ["reddit.com", "quora.com", "forums.lenovo.com", "discussions.apple.com",
   "linustechtips.com", "xda-developers.com"].map String.toList

/-- `SOURCE_WEIGHTS`. -/
def sourceWeights : SourceType → ℚ
  | .manufacturer => 1
  | .officialDocumentation => 1
  | .officialSupport => 95 / 100
  | .majorRetailer => 75 / 100
  | .establishedTechReview => 70 / 100
  | .forum => 45 / 100
  | .unknownBlog => 30 / 100

/-- `ScoredSource`. -/
structure ScoredSource where
  url : List Char
  domain : List Char
  sourceType : SourceType
  trustScore : ℚ
  deriving DecidableEq

/-- A host that is a domain or a subdomain of it. -/
def under (host domain : List Char) : Bool :=
  host == domain || Strings.endsWith ('.' :: domain) host

/-- A host that is a domain of a set or a subdomain of one. -/
def inSet (domains : List (List Char)) (host : List Char) : Bool := domains.any (under host)

/-- `"support." in hostname or "help." in hostname`. -/
def namesSupport (host : List Char) : Bool :=
  Strings.contains "support.".toList host || Strings.contains "help.".toList host

/-- The words that make a host a source of documentation. -/
def namesDocumentation (host : List Char) : Bool :=
  Strings.contains "psref.".toList host || Strings.contains "docs.".toList host ||
    Strings.contains "developer.".toList host || Strings.contains "manual".toList host

/-- A host without a leading `www.`. -/
def withoutWww (host : List Char) : List Char :=
  if Strings.startsWith "www.".toList host then host.drop 4 else host

variable (rules : Urls.Rules)

/-- The host of a URL in small letters, empty where there is none. -/
def hostOf (url : List Char) : List Char :=
  match Urls.urlsplit rules url with
  | some split => rules.lower ((Urls.hostname rules split).getD [])
  | none => []

/-- The type of the source at a host. -/
def classify (hostname : List Char) : SourceType :=
  if namesSupport hostname then .officialSupport
  else if documentationSubdomains.contains hostname || namesDocumentation hostname then
    .officialDocumentation
  else if inSet manufacturerDomains hostname then .manufacturer
  else if inSet retailerDomains hostname then .majorRetailer
  else if inSet establishedReviews hostname then .establishedTechReview
  else if inSet forumDomains hostname then .forum
  else .unknownBlog

/-- `evaluate_source`. -/
def evaluateSource (url : List Char) : ScoredSource :=
  let hostname := withoutWww (hostOf rules url)
  let sourceType := classify hostname
  { url
    domain := if sourceType = .unknownBlog ∧ hostname = [] then "external".toList else hostname
    sourceType
    trustScore := sourceWeights sourceType }

/-! ### Domains and their subdomains -/

theorem under_iff {host domain : List Char} :
    under host domain = true ↔ host = domain ∨ '.' :: domain <:+ host := by
  rw [under, Bool.or_eq_true, beq_iff_eq, Strings.endsWith_iff]

/-- A subdomain of a subdomain is one. -/
theorem under_trans {a b c : List Char} (h : under a b = true) (h' : under b c = true) :
    under a c = true := by
  rw [under_iff] at h h' ⊢
  rcases h with rfl | h
  · exact h'
  · rcases h' with rfl | h'
    · exact .inr h
    · exact .inr (h'.trans ((List.suffix_cons '.' b).trans h))

/-- Two domains above one host are one above the other. -/
theorem under_or_under {host a b : List Char} (ha : under host a = true)
    (hb : under host b = true) : under a b = true ∨ under b a = true := by
  have hsuffix : ∀ {d}, under host d = true → d <:+ host := by
    intro d hd
    rcases under_iff.1 hd with rfl | h
    · exact List.suffix_refl _
    · exact (List.suffix_cons '.' d).trans h
  -- The shorter one ends the longer one, and a dot stands before it.
  have hshort : ∀ {a b}, under host a = true → under host b = true → a.length ≤ b.length →
      under b a = true := by
    intro a b ha hb hlen
    rcases hlen.eq_or_lt with heq | hlt
    · have := (List.suffix_of_suffix_length_le (hsuffix ha) (hsuffix hb) hlen).eq_of_length heq
      exact under_iff.2 (.inl this.symm)
    · rcases under_iff.1 ha with rfl | h
      · exact absurd (hsuffix hb).length_le (by omega)
      · exact under_iff.2 (.inr (List.suffix_of_suffix_length_le h (hsuffix hb) hlt))
  rcases le_total a.length b.length with h | h
  · exact .inr (hshort ha hb h)
  · exact .inl (hshort hb ha h)

theorem inSet_iff {domains : List (List Char)} {host : List Char} :
    inSet domains host = true ↔ ∃ domain ∈ domains, under host domain = true := by
  rw [inSet, List.any_eq_true]

/-- A host under two sets is under two domains of them, one above the other. -/
theorem inSet_and_inSet {host : List Char} {xs ys : List (List Char)} (hx : inSet xs host = true)
    (hy : inSet ys host = true) :
    ∃ x ∈ xs, ∃ y ∈ ys, under host x = true ∧ (under x y = true ∨ under y x = true) := by
  obtain ⟨x, hmemx, hx⟩ := inSet_iff.1 hx
  obtain ⟨y, hmemy, hy⟩ := inSet_iff.1 hy
  exact ⟨x, hmemx, y, hmemy, hx, under_or_under hx hy⟩

/-! ### A leading `www.` decides nothing -/

/-- What follows `www.` holds the parts of the whole that begin with no letter of it. -/
theorem contains_www {first : Char} {part rest : List Char} (hw : first ≠ 'w') (hdot : first ≠ '.') :
    Strings.contains (first :: part) ('w' :: 'w' :: 'w' :: '.' :: rest) =
      Strings.contains (first :: part) rest := by
  simp only [Strings.contains, List.isPrefixOf, beq_false_of_ne hw, beq_false_of_ne hdot,
    Bool.false_and, Bool.false_or]

/-- A host that begins with `www.` is that and the rest. -/
theorem eq_www {host : List Char} (h : Strings.startsWith "www.".toList host = true) :
    ∃ rest, host = 'w' :: 'w' :: 'w' :: '.' :: rest ∧ withoutWww host = rest := by
  obtain ⟨rest, rfl⟩ := Strings.startsWith_iff.1 h
  exact ⟨rest, rfl, by rw [withoutWww, if_pos h]; rfl⟩

theorem contains_withoutWww {word host : List Char}
    (hword : (word.head?.any fun c => c != 'w' && c != '.') = true) :
    Strings.contains word (withoutWww host) = Strings.contains word host := by
  by_cases h : Strings.startsWith "www.".toList host = true
  · obtain ⟨rest, rfl, hrest⟩ := eq_www h
    cases word with
    | nil => cases hword
    | cons first part =>
        simp only [List.head?_cons, Option.any_some, Bool.and_eq_true, bne_iff_ne] at hword
        rw [hrest, contains_www hword.1 hword.2]
  · rw [withoutWww, if_neg h]

/-- A domain that does not begin with `www.` is above a host with and without it. -/
theorem under_withoutWww {host domain : List Char}
    (hdomain : Strings.startsWith "www.".toList domain = false) :
    under (withoutWww host) domain = under host domain := by
  by_cases h : Strings.startsWith "www.".toList host = true
  · obtain ⟨rest, rfl, hrest⟩ := eq_www h
    rw [hrest, Bool.eq_iff_iff, under_iff, under_iff]
    constructor
    · rintro (rfl | hsuffix)
      · exact .inr ⟨['w', 'w', 'w'], rfl⟩
      · exact .inr (hsuffix.trans ⟨['w', 'w', 'w', '.'], rfl⟩)
    · rintro (rfl | hsuffix)
      · rw [h] at hdomain
        cases hdomain
      · simp only [List.suffix_cons_iff, List.cons.injEq, Char.reduceEq, false_and, true_and,
          false_or] at hsuffix
        exact hsuffix.imp_left Eq.symm
  · rw [withoutWww, if_neg h]

theorem inSet_withoutWww {host : List Char} {domains : List (List Char)}
    (h : ∀ domain ∈ domains, Strings.startsWith "www.".toList domain = false) :
    inSet domains (withoutWww host) = inSet domains host := by
  rw [Bool.eq_iff_iff, inSet_iff, inSet_iff]
  exact exists_congr fun domain => and_congr_right fun hmem => by rw [under_withoutWww (h _ hmem)]

/-! ### What a name earns -/

/-- A host that holds a word of official support or documentation. -/
def named (host : List Char) : Bool := namesSupport host || namesDocumentation host

/-- A host that is a listed domain or a subdomain of one. -/
def listed (host : List Char) : Bool :=
  inSet manufacturerDomains host || inSet documentationSubdomains host ||
    inSet establishedReviews host || inSet retailerDomains host || inSet forumDomains host

/-- The forums of two manufacturers, which stand below a listed manufacturer. -/
def manufacturerForums : List (List Char) :=
  ["forums.lenovo.com", "discussions.apple.com"].map String.toList

theorem named_withoutWww (host : List Char) : named (withoutWww host) = named host := by
  have h : ∀ word ∈ ["support.", "help.", "psref.", "docs.", "developer.", "manual"],
      (word.toList.head?.any fun c => c != 'w' && c != '.') = true := by decide
  simp only [List.forall_mem_cons, List.not_mem_nil, false_implies, implies_true, and_true] at h
  obtain ⟨h₁, h₂, h₃, h₄, h₅, h₆⟩ := h
  simp only [named, namesSupport, namesDocumentation, contains_withoutWww h₁,
    contains_withoutWww h₂, contains_withoutWww h₃, contains_withoutWww h₄,
    contains_withoutWww h₅, contains_withoutWww h₆]

/-- No listed domain begins with `www.`. -/
theorem no_listed_www : ∀ domains ∈ [manufacturerDomains, documentationSubdomains,
    establishedReviews, retailerDomains, forumDomains, manufacturerForums], ∀ domain ∈ domains,
      Strings.startsWith "www.".toList domain = false := by
  decide

theorem listed_withoutWww (host : List Char) : listed (withoutWww host) = listed host := by
  have h : ∀ domains ∈ [manufacturerDomains, documentationSubdomains, establishedReviews,
      retailerDomains, forumDomains, manufacturerForums],
      inSet domains (withoutWww host) = inSet domains host :=
    fun domains hmem => inSet_withoutWww (no_listed_www domains hmem)
  rw [listed, h _ (by simp), h _ (by simp), h _ (by simp), h _ (by simp), h _ (by simp), listed]

/-- The forums that a listed manufacturer stands above, or that stand above a domain of another
set, are the forums of the manufacturers. -/
theorem forums_below : ∀ domains ∈ [manufacturerDomains, documentationSubdomains,
    establishedReviews, retailerDomains], ∀ forum ∈ forumDomains, ∀ domain ∈ domains,
      (under forum domain || under domain forum) = true → forum ∈ manufacturerForums := by
  decide

/-- Each forum of a manufacturer is below a manufacturer. -/
theorem manufacturerForums_below :
    ∀ forum ∈ manufacturerForums, inSet manufacturerDomains forum = true := by
  decide

/-- A host below a forum and below another set is below the forum of a manufacturer. -/
theorem inSet_manufacturerForums {host : List Char} {domains : List (List Char)}
    (hmem : domains ∈ [manufacturerDomains, documentationSubdomains, establishedReviews,
      retailerDomains]) (hforum : inSet forumDomains host = true)
    (hother : inSet domains host = true) : inSet manufacturerForums host = true := by
  obtain ⟨forum, hf, domain, hd, hunder, hor⟩ := inSet_and_inSet hforum hother
  rw [← Bool.or_eq_true] at hor
  exact inSet_iff.2 ⟨forum, forums_below domains hmem forum hf domain hd hor, hunder⟩

/-- **A source is unknown exactly when its host has no name and is not listed**, apart from the
documentation hosts, whose subdomains are not looked for. -/
theorem classify_eq_unknownBlog {host : List Char} : classify host = .unknownBlog ↔
    named host = false ∧ host ∉ documentationSubdomains ∧ inSet manufacturerDomains host = false ∧
      inSet retailerDomains host = false ∧ inSet establishedReviews host = false ∧
        inSet forumDomains host = false := by
  unfold classify named
  split_ifs <;> grind

/-- **A source is a forum exactly when its host is below one and no test before that holds.** -/
theorem classify_eq_forum {host : List Char} : classify host = .forum ↔
    named host = false ∧ host ∉ documentationSubdomains ∧ inSet manufacturerDomains host = false ∧
      inSet retailerDomains host = false ∧ inSet establishedReviews host = false ∧
        inSet forumDomains host = true := by
  unfold classify named
  split_ifs <;> grind

theorem weight_unknownBlog_lt {type : SourceType} :
    sourceWeights .unknownBlog < sourceWeights type ↔ type ≠ .unknownBlog := by
  cases type <;> norm_num [sourceWeights] <;> decide

theorem weight_eq_forum {type : SourceType} :
    sourceWeights type = sourceWeights .forum ↔ type = .forum := by
  cases type <;> norm_num [sourceWeights] <;> decide

/-- A documentation host is below itself. -/
theorem inSet_of_mem {host : List Char} {domains : List (List Char)} (h : host ∈ domains) :
    inSet domains host = true :=
  inSet_iff.2 ⟨host, h, under_iff.2 (.inl rfl)⟩

/-- **What lifts a source above an unknown one is its listing, unless its host has a name.** -/
theorem lifted_only_if_listed_iff {host : List Char} :
    (classify host ≠ .unknownBlog → listed host = true) ↔
      ¬ (named host = true ∧ listed host = false) := by
  constructor
  · rintro h ⟨hnamed, hlisted⟩
    rw [h fun hblog => ?_] at hlisted
    · cases hlisted
    · rw [(classify_eq_unknownBlog.1 hblog).1] at hnamed
      cases hnamed
  · intro h hne
    by_contra hlisted
    rw [Bool.not_eq_true] at hlisted
    refine hne (classify_eq_unknownBlog.2 ?_)
    have hnamed : named host = false := Bool.eq_false_iff.2 fun hn => h ⟨hn, hlisted⟩
    simp only [listed, Bool.or_eq_false_iff] at hlisted
    obtain ⟨⟨⟨⟨hman, hdoc⟩, hrev⟩, hret⟩, hforum⟩ := hlisted
    refine ⟨hnamed, fun hmem => ?_, hman, hret, hrev, hforum⟩
    rw [inSet_of_mem hmem] at hdoc
    cases hdoc

/-- **A host below a forum is a forum, unless it has a name or is the forum of a manufacturer.** -/
theorem forum_iff {host : List Char} (h : inSet forumDomains host = true) :
    classify host = .forum ↔ named host = false ∧ inSet manufacturerForums host = false := by
  rw [classify_eq_forum]
  constructor
  · rintro ⟨hnamed, -, hman, -, -, -⟩
    refine ⟨hnamed, Bool.eq_false_iff.2 fun hforum => ?_⟩
    obtain ⟨forum, hmem, hunder⟩ := inSet_iff.1 hforum
    obtain ⟨domain, hdomain, habove⟩ := inSet_iff.1 (manufacturerForums_below forum hmem)
    rw [inSet_iff.2 ⟨domain, hdomain, under_trans hunder habove⟩] at hman
    cases hman
  · rintro ⟨hnamed, hforums⟩
    have hother : ∀ domains ∈ [manufacturerDomains, documentationSubdomains, establishedReviews,
        retailerDomains], inSet domains host = false := by
      intro domains hmem
      refine Bool.eq_false_iff.2 fun hother => ?_
      rw [inSet_manufacturerForums hmem h hother] at hforums
      cases hforums
    refine ⟨hnamed, fun hmem => ?_, hother _ (by simp), hother _ (by simp), hother _ (by simp), h⟩
    have := hother documentationSubdomains (by simp)
    rw [inSet_of_mem hmem] at this
    cases this

/-- **Trust goes with the listing of a host, for the hosts that no word decides.**  A source scores
above an unknown one only when its host is a listed domain or below one, and a host below a forum
scores as a forum, exactly when the host holds no word of support or documentation without being
listed and is not below a forum that holds one or that is the forum of a manufacturer. -/
theorem trust_follows_listing_iff (url : List Char) :
    ((sourceWeights .unknownBlog < (evaluateSource rules url).trustScore →
        listed (hostOf rules url) = true) ∧
      (inSet forumDomains (hostOf rules url) = true →
        (evaluateSource rules url).trustScore = sourceWeights .forum)) ↔
    ¬ (named (hostOf rules url) = true ∧ listed (hostOf rules url) = false) ∧
      ¬ (inSet forumDomains (hostOf rules url) = true ∧
        (named (hostOf rules url) = true ∨ inSet manufacturerForums (hostOf rules url) = true)) := by
  generalize hhost : hostOf rules url = host
  have hscore : (evaluateSource rules url).trustScore =
      sourceWeights (classify (withoutWww host)) := by
    rw [← hhost]
    rfl
  have hforums : ∀ domains ∈ [manufacturerDomains, documentationSubdomains, establishedReviews,
      retailerDomains, forumDomains, manufacturerForums],
      inSet domains (withoutWww host) = inSet domains host :=
    fun domains hmem => inSet_withoutWww (no_listed_www domains hmem)
  rw [hscore, weight_unknownBlog_lt, weight_eq_forum, ← listed_withoutWww host,
    ← named_withoutWww host, ← hforums forumDomains (by simp),
    ← hforums manufacturerForums (by simp), lifted_only_if_listed_iff]
  refine and_congr_right fun _ => ?_
  constructor
  · rintro h ⟨hforum, hor⟩
    obtain ⟨hnamed, hman⟩ := (forum_iff hforum).1 (h hforum)
    rcases hor with hor | hor
    · rw [hnamed] at hor
      cases hor
    · rw [hman] at hor
      cases hor
  · intro h hforum
    rw [forum_iff hforum, Bool.eq_false_iff, Bool.eq_false_iff]
    exact ⟨fun hn => h ⟨hforum, .inl hn⟩, fun hm => h ⟨hforum, .inr hm⟩⟩

/-- **A word in the host earns trust, and hides a forum.**  The host of the first address is listed
nowhere and scores as official support; the second is the listed forum of a manufacturer and scores
as the manufacturer. -/
theorem support_by_name :
    ((evaluateSource Urls.asciiRules "https://support.evil-deals.example/x".toList).trustScore =
        sourceWeights .officialSupport ∧
      listed (hostOf Urls.asciiRules "https://support.evil-deals.example/x".toList) = false) ∧
    ((evaluateSource Urls.asciiRules "https://forums.lenovo.com/t5/x".toList).trustScore =
        sourceWeights .manufacturer ∧
      inSet forumDomains (hostOf Urls.asciiRules "https://forums.lenovo.com/t5/x".toList) = true) := by
  decide +kernel

end SourceRanker
end Research
end AgenticCommerce
