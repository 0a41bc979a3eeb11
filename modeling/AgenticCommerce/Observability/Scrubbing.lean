/-
# What scrubbing leaves of a text

`_scrub_value_shape` leaves nothing that looks like a key or a token (`wordSearch_scrub`).  The
password of a URL, though, gets through when the URL is an odd one: where an `@` or white space
stands in the user or the password, the expression for URLs does not match, or it stops early
(`showsPassword_scrub_iff`).
-/

import AgenticCommerce.Observability.Logging
import AgenticCommerce.Text.Segments

namespace AgenticCommerce
namespace Logging

/-- What follows on a scheme. -/
abbrev url (rest : List Char) : List Char := ':' :: '/' :: '/' :: rest

/-- A URL with a user and a password stands in a text: the user ends at the first colon, the
password at an `@`, and neither goes beyond a slash. -/
structure UrlIn (user password text : List Char) : Prop where
  stands : ∃ before after, text = before ++ url (user ++ ':' :: (password ++ '@' :: after))
  user_colon : ':' ∉ user
  user_slash : '/' ∉ user
  password_slash : '/' ∉ password

/-- A text shows the password of a URL: one without white space, and not the mark. -/
def ShowsPassword (text : List Char) : Prop :=
  ∃ user password, UrlIn user password text ∧ (∀ c ∈ user ++ password, isBlank c = false) ∧
    password ≠ redactedMark.toList

section

variable (words : WordChars)

/-- A text has an odd URL: one with an `@` or white space in its user or its password, of which no
white space is left once keys and tokens are masked, and which is then not a mark. -/
def OddUrl (text : List Char) : Prop :=
  ∃ user password, UrlIn user password text ∧
    (∃ c ∈ user ++ password, c = '@' ∨ isBlank c = true) ∧
    (∀ c ∈ maskValues words user ++ maskValues words password, isBlank c = false) ∧
    maskValues words password ≠ redactedMark.toList

/-- A text has no credential: no key or token, and no password of a URL. -/
structure Clean (text : List Char) : Prop where
  values : ∀ p ∈ valuePatterns, Regex.wordSearch words.isWord p none text = false
  passwords : ¬ ShowsPassword text

end

/-! ### Keys and tokens -/

/-- The mark is in no pattern's way: all avoid its ends, and none matches within. -/
theorem patterns_mark : ∀ q ∈ valuePatterns, q.consumes = true ∧ q.avoids '*' = true ∧
    q.avoids '*' = true ∧ q.search ('*' :: "**REDACTED**".toList) = false := by
  decide

theorem forall_patterns {P : Regex → Prop} (hrazorpay : P razorpayKeyId) (hopenAi : P openAiKey)
    (hgroq : P groqKey) (hbearer : P bearerToken) (hjwt : P jwt) (hagent : P agentApiKey) :
    ∀ q ∈ valuePatterns, P q := by
  simp only [valuePatterns, List.forall_mem_cons]
  exact ⟨hrazorpay, hopenAi, hgroq, hbearer, hjwt, hagent, nofun⟩

/-- The letters with which a credential begins. -/
def firstLetters : List Char := ['r', 'R', 's', 'g', 'b', 'B', 'e', 'a']

theorem mem_firstLetters : ∀ q ∈ valuePatterns, ∀ c, q.mayBegin c = true → c ∈ firstLetters := by
  refine forall_patterns ?_ ?_ ?_ ?_ ?_ ?_ <;> intro c hc
  · have hc' : c = 'r' ∨ c = 'R' := by
      simpa [razorpayKeyId, Regex.literal, Regex.spelled, Regex.all, Regex.mayBegin,
        Regex.consumes, Regex.ignoreCase] using hc
    rcases hc' with rfl | rfl <;> decide
  · have hc' : c = 's' := by
      simpa [openAiKey, verbatim, Regex.spelled, Regex.all, Regex.mayBegin, Regex.consumes] using hc
    rw [hc']
    decide
  · have hc' : c = 'g' := by
      simpa [groqKey, verbatim, Regex.spelled, Regex.all, Regex.mayBegin, Regex.consumes] using hc
    rw [hc']
    decide
  · have hc' : c = 'b' ∨ c = 'B' := by
      simpa [bearerToken, Regex.literal, Regex.spelled, Regex.all, Regex.mayBegin, Regex.consumes,
        Regex.ignoreCase] using hc
    rcases hc' with rfl | rfl <;> decide
  · have hc' : c = 'e' := by
      simpa [jwt, verbatim, Regex.spelled, Regex.all, Regex.mayBegin, Regex.consumes] using hc
    rw [hc']
    decide
  · have hc' : c = 'a' := by
      simpa [agentApiKey, verbatim, Regex.spelled, Regex.all, Regex.mayBegin, Regex.consumes]
        using hc
    rw [hc']
    decide

theorem isAlphanum_of_firstLetters : ∀ c ∈ firstLetters, c.isAlphanum = true :=
  Strings.forall_mem_of_all (by decide)

/-- Every pattern ends with a run of a class that has all letters. -/
theorem exists_lastRun : ∀ q ∈ valuePatterns, ∃ p, q.lastRun = some p ∧
    ∀ c : Char, c.isAlphanum = true → p c = true := by
  have hfolded : ∀ c : Char, c.isAlphanum = true → isAlnumIgnoringCase c = true := fun c hc => by
    simp [isAlnumIgnoringCase, hc]
  refine forall_patterns ⟨_, rfl, hfolded⟩ ⟨_, rfl, fun c hc => ?_⟩ ⟨_, rfl, fun c hc => ?_⟩
    ⟨_, rfl, fun c hc => ?_⟩ ⟨_, rfl, fun c hc => ?_⟩ ⟨_, rfl, fun c hc => ?_⟩
  · simp [isKeyChar, hc]
  · simp [isKeyChar, hc]
  · simp [isBearerChar, hfolded c hc]
  · simp [isTokenChar, hc]
  · simp [isKeyChar, hc]

/-- Where one pattern ends no other begins. -/
theorem rests_behind_pattern : ∀ q ∈ valuePatterns, ∀ r ∈ valuePatterns, ∀ text rest more,
    r.rests text = rest :: more → q.rests rest = [] := by
  intro q hq r hr text rest more hrests
  obtain ⟨p, hlast, hp⟩ := exists_lastRun r hr
  refine Regex.rests_eq_nil_of_mayBegin (patterns_mark q hq).1 fun c hc => ?_
  have hstop := Regex.head_of_lastRun hlast hrests c hc
  refine Bool.eq_false_iff.2 fun hbegin => ?_
  have hgo := hp c (isAlphanum_of_firstLetters c (mem_firstLetters q hq c hbegin))
  exact Bool.false_ne_true (hstop.symm.trans hgo)

/-- The mark, with its ends apart. -/
theorem mark_eq : redactedMark.toList = '*' :: ("**REDACTED**".toList ++ ['*']) := by decide

section

variable (words : WordChars)

/-- **Nothing that looks like a key or a token is left.** -/
theorem wordSearch_maskValues (text : List Char) : ∀ p ∈ valuePatterns,
    Regex.wordSearch words.isWord p none (maskValues words text) = false := by
  rw [maskValues, mark_eq]
  exact Regex.wordSearch_wordSubAll patterns_mark rests_behind_pattern text

/-! ### Characters of URLs -/

/-- The characters that cut a URL into its parts stay where they are. -/
theorem passes_maskValues {b : Char} (hb : b = ':' ∨ b = '/' ∨ b = '@') :
    Regex.Passes b (maskValues words) := by
  have hword : words.isWord b = false := by
    rw [words.ascii b (by rcases hb with rfl | rfl | rfl <;> decide)]
    rcases hb with rfl | rfl | rfl <;> decide
  have hmark : b ∉ redactedMark.toList := by
    rcases hb with rfl | rfl | rfl <;> decide
  refine Regex.passes_wordSubAll hword hmark fun q hq => ⟨(patterns_mark q hq).1, ?_⟩
  rcases hb with rfl | rfl | rfl <;> revert q <;> decide

@[simp] theorem maskValues_nil : maskValues words [] = [] :=
  Regex.wordSubAll_eq_self (by decide)

/-- A mark stays. -/
theorem maskValues_mark : maskValues words redactedMark.toList = redactedMark.toList :=
  Regex.wordSubAll_eq_self (by decide)

theorem eq_nil_of_maskValues {text : List Char} (h : maskValues words text = []) : text = [] :=
  Regex.wordSubAll_eq_nil (by decide) h

theorem isBlank_mark : ∀ c ∈ redactedMark.toList, isBlank c = false :=
  Strings.forall_mem_of_all (by decide)

/-- A text without white space does not get any. -/
theorem isBlank_maskValues {text : List Char} (h : ∀ c ∈ text, isBlank c = false) :
    ∀ c ∈ maskValues words text, isBlank c = false := fun c hc =>
  (Regex.mem_wordSubAll hc).elim (isBlank_mark c) (h c)

theorem maskValues_cons {b : Char} (hb : b = ':' ∨ b = '/' ∨ b = '@') (text : List Char) :
    maskValues words (b :: text) = b :: maskValues words text := by
  have hsplit := (passes_maskValues words hb).split [] text
  rwa [maskValues_nil] at hsplit

/-- A text that begins with such a character does so before. -/
theorem exists_of_maskValues_cons {b : Char} (hb : b = ':' ∨ b = '/' ∨ b = '@')
    {text y : List Char} (h : maskValues words text = b :: y) :
    ∃ text', text = b :: text' ∧ maskValues words text' = y := by
  have hcut : maskValues words text = [] ++ b :: y := h
  obtain ⟨x, text', rfl, hx, hy⟩ := (passes_maskValues words hb).exists_split hcut
  obtain rfl := eq_nil_of_maskValues words hx
  exact ⟨text', rfl, hy⟩

/-! ### The pass over URLs -/

end

/-- The mark has no character that cuts a URL. -/
theorem notMem_mark : '@' ∉ redactedMark.toList ∧ '/' ∉ redactedMark.toList ∧
    ':' ∉ redactedMark.toList := by
  decide

/-- What the expression for URLs matches. -/
theorem urlCredentials_eq_some_iff {text user rest : List Char} :
    urlCredentials text = some (user, rest) ↔ ∃ password,
      text = url (user ++ ':' :: (password ++ '@' :: rest)) ∧
        (∀ c ∈ user, isUserChar c = true) ∧ ∀ c ∈ password, isPasswordChar c = true := by
  constructor
  · intro h
    unfold urlCredentials at h
    split at h
    · rename_i text
      split at h
      · rename_i text' huser
        split at h
        · rename_i rest' hpassword
          obtain ⟨rfl, rfl⟩ := Prod.mk.inj (Option.some.inj h)
          refine ⟨text'.takeWhile isPasswordChar, ?_, fun c => List.mem_takeWhile_imp,
            fun c => List.mem_takeWhile_imp⟩
          rw [← hpassword, List.takeWhile_append_dropWhile, ← huser,
            List.takeWhile_append_dropWhile]
        · cases h
      · cases h
    · cases h
  · rintro ⟨password, rfl, huser, hpassword⟩
    have hcolon : isUserChar ':' = false := rfl
    have hat : isPasswordChar '@' = false := rfl
    simp only [urlCredentials, List.dropWhile_append_of_pos huser,
      List.takeWhile_append_of_pos huser, List.dropWhile_cons, List.takeWhile_cons, hcolon,
      List.dropWhile_append_of_pos hpassword, hat, Bool.false_eq_true, if_false, List.append_nil]

theorem maskUrlsFrom_eq_drop : ∀ (skip : ℕ) (text : List Char),
    maskUrlsFrom skip text = maskUrls (text.drop skip)
  | 0, _ => rfl
  | _ + 1, [] => rfl
  | skip + 1, _ :: text => maskUrlsFrom_eq_drop skip text

theorem maskUrls_of_none {c : Char} {text : List Char} (h : urlCredentials (c :: text) = none) :
    maskUrls (c :: text) = c :: maskUrls text := by
  rw [maskUrls, maskUrlsFrom, h]
  rfl

theorem maskUrls_of_some {text user rest : List Char}
    (h : urlCredentials text = some (user, rest)) :
    maskUrls text = url (user ++ ':' :: (redactedMark.toList ++ '@' :: maskUrls rest)) := by
  obtain ⟨password, rfl, -, -⟩ := urlCredentials_eq_some_iff.1 h
  have hdrop : ('/' :: '/' :: (user ++ ':' :: (password ++ '@' :: rest))).drop
      (('/' :: '/' :: (user ++ ':' :: (password ++ '@' :: rest))).length - rest.length) = rest := by
    refine (List.suffix_iff_eq_drop.1 ?_).symm
    exact ⟨'/' :: '/' :: (user ++ ':' :: (password ++ ['@'])), by simp⟩
  rw [maskUrls, maskUrlsFrom, h]
  dsimp only
  rw [maskUrlsFrom_eq_drop, hdrop]

/-- A URL begins with a colon and two slashes. -/
theorem urlCredentials_eq_none {c : Char} {text : List Char}
    (h : ∀ rest, c :: text ≠ url rest) : urlCredentials (c :: text) = none := by
  refine Option.eq_none_iff_forall_not_mem.2 fun ⟨user, rest⟩ hsome => ?_
  obtain ⟨password, heq, -, -⟩ := urlCredentials_eq_some_iff.1 hsome
  exact h _ heq

/-- A text without a slash goes through, up to an `@`. -/
theorem maskUrls_append_at (y : List Char) : ∀ {x : List Char}, '/' ∉ x →
    maskUrls (x ++ '@' :: y) = x ++ '@' :: maskUrls y
  | [], _ => maskUrls_of_none (urlCredentials_eq_none fun rest h => by cases h)
  | c :: x, hx => by
      have hx := List.not_mem_of_not_mem_cons hx
      rw [List.cons_append, maskUrls_of_none, maskUrls_append_at y hx, List.cons_append]
      refine urlCredentials_eq_none fun rest h => ?_
      cases x with
      | nil => cases h
      | cons d x =>
          obtain ⟨rfl, -⟩ := List.cons.inj (List.cons.inj h).2
          exact hx List.mem_cons_self

/-- What begins with something else than a colon did so before. -/
theorem exists_of_maskUrls_cons {c : Char} (hc : c ≠ ':') {text y : List Char}
    (h : maskUrls text = c :: y) : ∃ text', text = c :: text' ∧ maskUrls text' = y := by
  cases text with
  | nil => cases h
  | cons d text =>
      cases hmatch : urlCredentials (d :: text) with
      | some found =>
          rw [maskUrls_of_some hmatch] at h
          exact absurd (List.cons.inj h).1.symm hc
      | none =>
          rw [maskUrls_of_none hmatch] at h
          obtain ⟨rfl, htext⟩ := List.cons.inj h
          exact ⟨text, rfl, htext⟩

/-- What is a text without a slash up to an `@` was so before. -/
theorem exists_of_maskUrls_append_at {y' : List Char} : ∀ {x text : List Char}, '/' ∉ x →
    maskUrls text = x ++ '@' :: y' → ∃ y, text = x ++ '@' :: y ∧ maskUrls y = y'
  | [], _, _, h => exists_of_maskUrls_cons (by decide) h
  | c :: x, [], _, h => by cases h
  | c :: x, d :: text, hx, h => by
      have hx := List.not_mem_of_not_mem_cons hx
      cases hmatch : urlCredentials (d :: text) with
      | some found =>
          -- a URL would have its slashes in the text
          rw [maskUrls_of_some hmatch] at h
          cases x with
          | nil => cases h
          | cons e x =>
              obtain ⟨rfl, -⟩ := List.cons.inj (List.cons.inj h).2
              exact absurd List.mem_cons_self hx
      | none =>
          rw [maskUrls_of_none hmatch] at h
          obtain ⟨hd, htext⟩ := List.cons.inj h
          obtain ⟨y, hy, hmask⟩ := exists_of_maskUrls_append_at hx htext
          exact ⟨y, by rw [hd, hy]; rfl, hmask⟩

/-- A URL does not begin in a text without a slash, up to an `@`. -/
theorem exists_of_append_url {r w : List Char} : ∀ {m x : List Char}, '/' ∉ m →
    m ++ '@' :: r = x ++ url w → ∃ x', x = m ++ '@' :: x' ∧ r = x' ++ url w
  | [], [], _, h => by cases h
  | [], c :: x, _, h => by
      obtain ⟨rfl, hr⟩ := List.cons.inj h
      exact ⟨x, rfl, hr⟩
  | [c], [], _, h => by cases h
  | c :: d :: m, [], hm, h => by
      obtain ⟨-, hd⟩ := List.cons.inj h
      obtain ⟨rfl, -⟩ := List.cons.inj hd
      exact absurd (List.mem_cons_of_mem c List.mem_cons_self) hm
  | c :: m, d :: x, hm, h => by
      obtain ⟨rfl, hmx⟩ := List.cons.inj h
      obtain ⟨x', hx, hr⟩ := exists_of_append_url (List.not_mem_of_not_mem_cons hm) hmx
      exact ⟨x', by rw [hx]; rfl, hr⟩

/-- Of two URLs with an `@`, the second begins with the first or behind its `@`. -/
theorem exists_of_url_append_url {m r w : List Char} (hm : '/' ∉ m) : ∀ {x : List Char},
    url (m ++ '@' :: r) = x ++ url w →
      x = [] ∨ ∃ x', x = url (m ++ '@' :: x') ∧ r = x' ++ url w
  | [], _ => .inl rfl
  | [_], h => by cases h
  | [_, _], h => by cases h
  | c :: d :: e :: x, h => by
      obtain ⟨hc, hd⟩ := List.cons.inj h
      obtain ⟨hd, he⟩ := List.cons.inj hd
      obtain ⟨he, hx⟩ := List.cons.inj he
      obtain ⟨x', hx', hr⟩ := exists_of_append_url hm hx
      exact .inr ⟨x', by rw [← hc, ← hd, ← he, hx'], hr⟩

/-- A match of the expression for URLs has a slash nowhere but in front. -/
theorem notMem_of_chars {user password : List Char} (huser : ∀ c ∈ user, isUserChar c = true)
    (hpassword : ∀ c ∈ password, isPasswordChar c = true) : '/' ∉ user ++ ':' :: password := by
  intro h
  rcases List.mem_append.1 h with h | h
  · exact absurd (huser _ h) (by decide)
  · rcases List.mem_cons.1 h with h | h
    · cases h
    · exact absurd (hpassword _ h) (by decide)

/-- A URL stays at the end of what is before it. -/
theorem exists_maskUrls_append_url (w b : List Char) :
    ∃ b', maskUrls (b ++ url w) = b' ++ maskUrls (url w) := by
  induction hn : b.length using Nat.strong_induction_on generalizing b with
  | _ n ih =>
      cases b with
      | nil => exact ⟨[], rfl⟩
      | cons c b =>
          rw [List.length_cons] at hn
          cases hmatch : urlCredentials (c :: b ++ url w) with
          | none =>
              obtain ⟨b', hb'⟩ := ih b.length (by omega) b rfl
              exact ⟨c :: b', (maskUrls_of_none hmatch).trans (congrArg (List.cons c) hb')⟩
          | some found =>
              obtain ⟨user, rest⟩ := found
              obtain ⟨password, heq, huser, hpassword⟩ := urlCredentials_eq_some_iff.1 hmatch
              have heq' : url ((user ++ ':' :: password) ++ '@' :: rest) = c :: b ++ url w := by
                rw [heq, List.append_assoc, List.cons_append]
              rcases exists_of_url_append_url (notMem_of_chars huser hpassword) heq'
                with hnil | ⟨x, hx, rfl⟩
              · cases hnil
              · have hlength := congrArg List.length hx
                simp only [List.length_cons, List.length_append] at hlength
                obtain ⟨b', hb'⟩ := ih x.length (by omega) x rfl
                refine ⟨url (user ++ ':' :: (redactedMark.toList ++ '@' :: b')), ?_⟩
                rw [maskUrls_of_some hmatch, hb']
                simp

/-- A URL in the result was one in the text. -/
theorem exists_of_maskUrls_url (w' : List Char) : ∀ {b' text : List Char},
    maskUrls text = b' ++ url w' → ∃ b w, text = b ++ url w ∧ maskUrls (url w) = url w' := by
  intro b' text
  induction hn : text.length using Nat.strong_induction_on generalizing b' text with
  | _ n ih =>
      intro h
      cases text with
      | nil => exact absurd h.symm (List.append_ne_nil_of_right_ne_nil _ (List.cons_ne_nil _ _))
      | cons c text =>
          rw [List.length_cons] at hn
          cases hmatch : urlCredentials (c :: text) with
          | none =>
              rw [maskUrls_of_none hmatch] at h
              cases b' with
              | nil =>
                  obtain ⟨rfl, htext⟩ := List.cons.inj h
                  obtain ⟨text', rfl, htext'⟩ := exists_of_maskUrls_cons (by decide) htext
                  obtain ⟨w, rfl, -⟩ := exists_of_maskUrls_cons (by decide) htext'
                  exact ⟨[], w, rfl, by rw [maskUrls_of_none hmatch, htext]⟩
              | cons d b' =>
                  obtain ⟨rfl, htext⟩ := List.cons.inj h
                  obtain ⟨b, w, rfl, hw⟩ := ih text.length (by omega) rfl htext
                  exact ⟨c :: b, w, rfl, hw⟩
          | some found =>
              obtain ⟨user, rest⟩ := found
              obtain ⟨password, heq, huser, hpassword⟩ := urlCredentials_eq_some_iff.1 hmatch
              have hm : '/' ∉ user ++ ':' :: redactedMark.toList := by
                intro hmem
                rcases List.mem_append.1 hmem with hmem | hmem
                · exact absurd (huser _ hmem) (by decide)
                · exact notMem_mark.2.1 (by simpa using hmem)
              rw [maskUrls_of_some hmatch] at h
              have h' : url ((user ++ ':' :: redactedMark.toList) ++ '@' :: maskUrls rest) =
                  b' ++ url w' := by
                rw [← h, List.append_assoc, List.cons_append]
              rcases exists_of_url_append_url hm h' with rfl | ⟨x, rfl, hrest⟩
              · exact ⟨[], _, heq, by rw [← heq, maskUrls_of_some hmatch, h]; rfl⟩
              · have hlength := congrArg List.length heq
                simp only [List.length_cons, List.length_append] at hlength
                obtain ⟨b, w, hb, hw⟩ := ih rest.length (by omega) rfl hrest
                refine ⟨url (user ++ ':' :: (password ++ '@' :: b)), w, ?_, hw⟩
                rw [heq, hb]
                simp

/-! ### Passwords of URLs -/

/-- Where the expression for URLs does not match, the URL stays. -/
theorem maskUrls_url_of_none {w : List Char} (h : urlCredentials (url w) = none) :
    maskUrls (url w) = url (maskUrls w) := by
  have hslash : ∀ text, urlCredentials ('/' :: text) = none := fun text =>
    urlCredentials_eq_none fun rest h => by cases h
  rw [maskUrls_of_none h, maskUrls_of_none (hslash _), maskUrls_of_none (hslash _)]

/-- The expression for URLs matches when the user and the password have none of its stops. -/
theorem urlCredentials_of_chars {user password rest : List Char} (hcolon : ':' ∉ user)
    (huser : '/' ∉ user) (hpassword : '/' ∉ password)
    (h : ∀ c ∈ user ++ password, c ≠ '@' ∧ isBlank c = false) :
    urlCredentials (url (user ++ ':' :: (password ++ '@' :: rest))) = some (user, rest) := by
  refine urlCredentials_eq_some_iff.2 ⟨password, rfl, fun c hc => ?_, fun c hc => ?_⟩
  · obtain ⟨hat, hblank⟩ := h c (List.mem_append_left _ hc)
    have hc₁ : c ≠ '/' := fun heq => huser (heq ▸ hc)
    have hc₂ : c ≠ ':' := fun heq => hcolon (heq ▸ hc)
    simp [isUserChar, hat, hblank, hc₁, hc₂]
  · obtain ⟨hat, hblank⟩ := h c (List.mem_append_right _ hc)
    have hc₁ : c ≠ '/' := fun heq => hpassword (heq ▸ hc)
    simp [isPasswordChar, hat, hblank, hc₁]

section

variable (words : WordChars)

theorem maskValues_at (x y : List Char) :
    maskValues words (x ++ '@' :: y) = maskValues words x ++ '@' :: maskValues words y :=
  (passes_maskValues words (.inr (.inr rfl))).split x y

/-- A text with an `@` is not masked as a whole. -/
theorem ne_mark_of_at {text : List Char} (h : '@' ∈ text) :
    maskValues words text ≠ redactedMark.toList := by
  intro heq
  have hmem := (passes_maskValues words (.inr (.inr rfl))).mem_iff.2 h
  rw [heq] at hmem
  exact notMem_mark.1 hmem

/-- A URL behind the pass over the values was one before it. -/
theorem UrlIn.of_maskValues {user' password' text : List Char}
    (h : UrlIn user' password' (maskValues words text)) : ∃ user password,
      UrlIn user password text ∧ maskValues words user = user' ∧
        maskValues words password = password' := by
  obtain ⟨before, after, hstands⟩ := h.stands
  have hcolon : Regex.Passes ':' _ := passes_maskValues words (.inl rfl)
  have hslash : Regex.Passes '/' _ := passes_maskValues words (.inr (.inl rfl))
  obtain ⟨b, t₁, rfl, -, h₁⟩ := hcolon.exists_split hstands
  obtain ⟨t₂, rfl, h₂⟩ := exists_of_maskValues_cons words (.inr (.inl rfl)) h₁
  obtain ⟨t₃, rfl, h₃⟩ := exists_of_maskValues_cons words (.inr (.inl rfl)) h₂
  obtain ⟨user, t₄, rfl, rfl, h₄⟩ := hcolon.exists_split h₃
  obtain ⟨password, after, rfl, rfl, -⟩ :=
    (passes_maskValues words (.inr (.inr rfl))).exists_split h₄
  exact ⟨user, password, ⟨⟨b, after, rfl⟩, fun hmem => h.user_colon (hcolon.mem_iff.2 hmem),
    fun hmem => h.user_slash (hslash.mem_iff.2 hmem),
    fun hmem => h.password_slash (hslash.mem_iff.2 hmem)⟩, rfl, rfl⟩

theorem UrlIn.to_maskValues {user password text : List Char} (h : UrlIn user password text) :
    UrlIn (maskValues words user) (maskValues words password) (maskValues words text) := by
  obtain ⟨before, after, rfl⟩ := h.stands
  have hcolon : Regex.Passes ':' _ := passes_maskValues words (.inl rfl)
  have hslash : Regex.Passes '/' _ := passes_maskValues words (.inr (.inl rfl))
  refine ⟨⟨maskValues words before, maskValues words after, ?_⟩,
    fun hmem => h.user_colon (hcolon.mem hmem), fun hmem => h.user_slash (hslash.mem hmem),
    fun hmem => h.password_slash (hslash.mem hmem)⟩
  rw [hcolon.split, maskValues_cons words (.inr (.inl rfl)),
    maskValues_cons words (.inr (.inl rfl)), hcolon.split, maskValues_at]

end

/-- **What the pass over URLs leaves of a URL**: it stays, and then the expression for URLs does not
match it, or its password is masked up to the first `@`. -/
theorem UrlIn.of_maskUrls {user password' text : List Char}
    (h : UrlIn user password' (maskUrls text)) :
    (UrlIn user password' text ∧ ∃ c ∈ user ++ password', c = '@' ∨ isBlank c = true) ∨
      password' = redactedMark.toList ∨
        ∃ first second, password' = redactedMark.toList ++ '@' :: second ∧
          UrlIn user (first ++ '@' :: second) text ∧ ∀ c ∈ first, isBlank c = false := by
  obtain ⟨before, after, hstands⟩ := h.stands
  obtain ⟨b, w, rfl, hw⟩ := exists_of_maskUrls_url _ hstands
  have hslash : '/' ∉ user ++ ':' :: password' := by
    intro hmem
    rcases List.mem_append.1 hmem with hmem | hmem
    · exact h.user_slash hmem
    · exact h.password_slash (by simpa using hmem)
  cases hmatch : urlCredentials (url w) with
  | none =>
      rw [maskUrls_url_of_none hmatch] at hw
      have hw' : maskUrls w = (user ++ ':' :: password') ++ '@' :: after := by
        rw [List.append_assoc]
        exact List.cons.inj (List.cons.inj (List.cons.inj hw).2).2 |>.2
      obtain ⟨after', rfl, -⟩ := exists_of_maskUrls_append_at hslash hw'
      rw [List.append_assoc, List.cons_append] at hmatch
      refine .inl ⟨⟨⟨b, after', by rw [List.append_assoc, List.cons_append]⟩, h.user_colon,
        h.user_slash, h.password_slash⟩, ?_⟩
      by_contra hnone
      push Not at hnone
      rw [urlCredentials_of_chars h.user_colon h.user_slash h.password_slash fun c hc =>
        ⟨(hnone c hc).1, Bool.eq_false_iff.2 (hnone c hc).2⟩] at hmatch
      cases hmatch
  | some found =>
      obtain ⟨user₀, rest⟩ := found
      obtain ⟨first, heq, huser, hfirst⟩ := urlCredentials_eq_some_iff.1 hmatch
      rw [maskUrls_of_some hmatch] at hw
      have hw' := (List.cons.inj (List.cons.inj (List.cons.inj hw).2).2).2
      have hcolon : ':' ∉ user₀ := fun hmem => absurd (huser _ hmem) (by decide)
      obtain ⟨rfl, hpassword⟩ := (Segments.cut_inj hcolon h.user_colon).1 hw'
      rcases Segments.cut_first notMem_mark.1 hpassword.symm with ⟨rfl, -⟩ | ⟨second, rfl, hrest⟩
      · exact .inr (.inl rfl)
      · have hsecond : '/' ∉ second := fun hmem =>
          h.password_slash (List.mem_append_right _ (List.mem_cons_of_mem _ hmem))
        obtain ⟨after', rfl, -⟩ := exists_of_maskUrls_append_at hsecond hrest
        refine .inr (.inr ⟨first, second, rfl, ⟨⟨b, after', ?_⟩, h.user_colon, h.user_slash, ?_⟩,
          fun c hc => ?_⟩)
        · rw [heq, List.append_assoc, List.cons_append]
        · intro hmem
          rcases List.mem_append.1 hmem with hmem | hmem
          · exact absurd (hfirst _ hmem) (by decide)
          · exact hsecond (by simpa using hmem)
        · have hc := hfirst c hc
          rw [isPasswordChar, Bool.and_eq_true, Bool.and_eq_true, Bool.not_eq_true'] at hc
          exact hc.1.2

/-- A URL with an `@` or white space in its user or its password stays, or keeps what is behind the
first `@` of the password. -/
theorem UrlIn.to_maskUrls {user password text : List Char} (h : UrlIn user password text)
    (hodd : ∃ c ∈ user ++ password, c = '@' ∨ isBlank c = true) :
    UrlIn user password (maskUrls text) ∨ ∃ first second, password = first ++ '@' :: second ∧
      UrlIn user (redactedMark.toList ++ '@' :: second) (maskUrls text) := by
  obtain ⟨before, after, rfl⟩ := h.stands
  obtain ⟨before', hbefore⟩ :=
    exists_maskUrls_append_url (user ++ ':' :: (password ++ '@' :: after)) before
  rw [hbefore]
  cases hmatch : urlCredentials (url (user ++ ':' :: (password ++ '@' :: after))) with
  | none =>
      have hslash : '/' ∉ user ++ ':' :: password := by
        intro hmem
        rcases List.mem_append.1 hmem with hmem | hmem
        · exact h.user_slash hmem
        · exact h.password_slash (by simpa using hmem)
      have hmask := maskUrls_append_at after hslash
      rw [List.append_assoc, List.cons_append, List.append_assoc, List.cons_append] at hmask
      refine .inl ⟨⟨before', maskUrls after, ?_⟩, h.user_colon, h.user_slash,
        h.password_slash⟩
      rw [maskUrls_url_of_none hmatch, hmask]
  | some found =>
      obtain ⟨user₀, rest⟩ := found
      obtain ⟨first, heq, huser, hfirst⟩ := urlCredentials_eq_some_iff.1 hmatch
      have hcolon : ':' ∉ user₀ := fun hmem => absurd (huser _ hmem) (by decide)
      have hat : '@' ∉ first := fun hmem => absurd (hfirst _ hmem) (by decide)
      have heq' := (List.cons.inj (List.cons.inj (List.cons.inj heq).2).2).2
      obtain ⟨rfl, hpassword⟩ := (Segments.cut_inj h.user_colon hcolon).1 heq'
      rcases Segments.cut_first hat hpassword with ⟨rfl, -⟩ | ⟨second, rfl, rfl⟩
      · -- the expression would not match
        obtain ⟨c, hc, hstop⟩ := hodd
        exfalso
        rcases List.mem_append.1 hc with hc | hc
        · have hchar := huser c hc
          rcases hstop with rfl | hstop
          · exact absurd hchar (by decide)
          · simp [isUserChar, hstop] at hchar
        · have hchar := hfirst c hc
          rcases hstop with rfl | hstop
          · exact absurd hchar (by decide)
          · simp [isPasswordChar, hstop] at hchar
      · have hsecond : '/' ∉ second := fun hmem =>
          h.password_slash (List.mem_append_right _ (List.mem_cons_of_mem _ hmem))
        refine .inr ⟨first, second, rfl, ⟨⟨before', maskUrls after, ?_⟩, h.user_colon,
          h.user_slash, ?_⟩⟩
        · rw [maskUrls_of_some hmatch, maskUrls_append_at after hsecond, List.append_assoc,
            List.cons_append]
        · intro hmem
          rcases List.mem_append.1 hmem with hmem | hmem
          · exact notMem_mark.2.1 hmem
          · exact hsecond (by simpa using hmem)

section

variable (words : WordChars)

/-- **Which texts show the password of a URL once scrubbed**: those with an odd URL. -/
theorem showsPassword_scrub_iff (text : List Char) :
    ShowsPassword (scrub words text) ↔ OddUrl words text := by
  constructor
  · rintro ⟨user', password', hshown, hblank, hne⟩
    obtain ⟨user, password, hmasked, rfl, rfl⟩ := hshown.of_maskValues words
    rcases hmasked.of_maskUrls with ⟨hurl, hodd⟩ | rfl | ⟨first, second, rfl, hurl, hfirst⟩
    · exact ⟨user, password, hurl, hodd, hblank, hne⟩
    · exact absurd (maskValues_mark words) hne
    · refine ⟨user, first ++ '@' :: second, hurl, ⟨'@', by simp, .inl rfl⟩, fun c hc => ?_,
        ne_mark_of_at words (by simp)⟩
      rw [maskValues_at] at hblank hc
      rcases List.mem_append.1 hc with hc | hc
      · exact hblank c (List.mem_append_left _ hc)
      · rcases List.mem_append.1 hc with hc | hc
        · exact isBlank_maskValues words hfirst c hc
        · exact hblank c (List.mem_append_right _ (List.mem_append_right _ hc))
  · rintro ⟨user, password, hurl, hodd, hblank, hne⟩
    rcases hurl.to_maskUrls hodd with hmasked | ⟨first, second, rfl, hmasked⟩
    · exact ⟨_, _, hmasked.to_maskValues words, hblank, hne⟩
    · refine ⟨_, _, hmasked.to_maskValues words, fun c hc => ?_, ne_mark_of_at words (by simp)⟩
      rw [maskValues_at] at hblank hc
      rcases List.mem_append.1 hc with hc | hc
      · exact hblank c (List.mem_append_left _ hc)
      · rcases List.mem_append.1 hc with hc | hc
        · exact isBlank_maskValues words isBlank_mark c hc
        · exact hblank c (List.mem_append_right _ (List.mem_append_right _ hc))

/-- **Which texts are clean once scrubbed**: those without an odd URL. -/
theorem clean_scrub_iff (text : List Char) :
    Clean words (scrub words text) ↔ ¬ OddUrl words text := by
  constructor
  · exact fun h hodd => h.passwords ((showsPassword_scrub_iff words text).2 hodd)
  · exact fun h => ⟨wordSearch_maskValues words _, fun hshown =>
      h ((showsPassword_scrub_iff words text).1 hshown)⟩

end

end Logging
end AgenticCommerce
