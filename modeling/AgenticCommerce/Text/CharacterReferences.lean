/-
# Character references of HTML

`html.unescape` of Python: `&` before a number, in decimal or hexadecimal, or before the longest
name of the standard is replaced by the character, with or without a semicolon.

The table of names is the argument `Names`, with the facts about it that are used.  A reference
is recognised by the few characters it begins with (`reference_isSome_iff`), and to unescape a text
that has one makes it lighter in a weight that nothing else increases (`weight_unescape_lt`).
-/

import AgenticCommerce.Text.HostAddresses

namespace AgenticCommerce
namespace CharacterReferences

open HostAddresses (isDigitOf value)

/-- A letter or a digit of ASCII. -/
def isAlnum (c : Char) : Bool := c.isDigit || c.isLower || c.isUpper

/-- `html.entities.html5`. -/
structure Names where
  names : List (List Char × List Char)
  /-- Names are two letters and digits or more, some with a semicolon behind them. -/
  shape : ∀ entry ∈ names, 2 ≤ entry.1.length ∧ ∃ stem : List Char, stem.length ≤ 32 ∧
    (∀ c ∈ stem, isAlnum c = true) ∧ (entry.1 = stem ∨ entry.1 = stem ++ [';'])
  /-- A name stands for one or two characters. -/
  short : ∀ entry ∈ names, entry.2.length ≤ 2
  /-- Those of the ampersand have an `m` in them. -/
  ampersand : ∀ entry ∈ names, '&' ∈ entry.2 →
    entry.2 = ['&'] ∧ ('m' ∈ entry.1 ∨ 'M' ∈ entry.1)

/-- `_invalid_charrefs`. -/
def invalidCharrefs : List (ℕ × ℕ) :=
  [(0x00, 0xfffd), (0x0d, 0x0d), (0x80, 0x20ac), (0x81, 0x81), (0x82, 0x201a), (0x83, 0x0192),
    (0x84, 0x201e), (0x85, 0x2026), (0x86, 0x2020), (0x87, 0x2021), (0x88, 0x02c6),
    (0x89, 0x2030), (0x8a, 0x0160), (0x8b, 0x2039), (0x8c, 0x0152), (0x8d, 0x8d), (0x8e, 0x017d),
    (0x8f, 0x8f), (0x90, 0x90), (0x91, 0x2018), (0x92, 0x2019), (0x93, 0x201c), (0x94, 0x201d),
    (0x95, 0x2022), (0x96, 0x2013), (0x97, 0x2014), (0x98, 0x02dc), (0x99, 0x2122),
    (0x9a, 0x0161), (0x9b, 0x203a), (0x9c, 0x0153), (0x9d, 0x9d), (0x9e, 0x017e), (0x9f, 0x0178)]

/-- `_invalid_codepoints`: control characters and the code points that are no characters. -/
def isInvalidCodepoint (n : ℕ) : Bool :=
  (1 ≤ n && n ≤ 8) || n == 0xb || (0xe ≤ n && n ≤ 0x1f) || (0x7f ≤ n && n ≤ 0x9f) ||
    (0xfdd0 ≤ n && n ≤ 0xfdef) || n % 0x10000 == 0xfffe || n % 0x10000 == 0xffff

/-- What the number of a reference stands for. -/
def ofNumber (n : ℕ) : List Char :=
  match invalidCharrefs.lookup n with
  | some code => [Char.ofNat code]
  | none =>
      if (0xd800 ≤ n ∧ n ≤ 0xdfff) ∨ 0x10ffff < n then [Char.ofNat 0xfffd]
      else if isInvalidCodepoint n then []
      else [Char.ofNat n]

/-- How long the digits before an end are, with a semicolon that follows. -/
def withSemicolon (length : ℕ) (text : List Char) : ℕ :=
  if (text.drop length).head? = some ';' then length + 1 else length

/-- A reference by number behind `&`: what it stands for, and its length. -/
def numeric : List Char → Option (List Char × ℕ)
  | '#' :: c :: text =>
      if c = 'x' ∨ c = 'X' then
        let ds := text.takeWhile (isDigitOf 16)
        if ds = [] then none
        else some (ofNumber (value 16 ds), 2 + withSemicolon ds.length text)
      else
        let ds := (c :: text).takeWhile (isDigitOf 10)
        if ds = [] then none
        else some (ofNumber (value 10 ds), 1 + withSemicolon ds.length (c :: text))
  | _ => none

/-- `[^\t\n\f <&#;]`. -/
def isNameChar (c : Char) : Bool := !"\t\n\x0c <&#;".toList.contains c

/-- Up to 32 characters of a name. -/
def nameRun (text : List Char) : List Char := (text.takeWhile isNameChar).take 32

/-- The text in which a name is looked for. -/
def nameText (text : List Char) : List Char := text.take (withSemicolon (nameRun text).length text)

variable (table : Names)

/-- A reference by name behind `&`: the text whole, or the longest part of it that is a name. -/
def named (text : List Char) : Option (List Char × ℕ) :=
  if nameRun text = [] then none
  else
    let s := nameText text
    match table.names.lookup s with
    | some replacement => some (replacement, s.length)
    | none => (List.range (s.length - 2)).findSome? fun i =>
        (table.names.lookup (s.take (s.length - 1 - i))).map fun replacement =>
          (replacement, s.length - 1 - i)

/-- What a reference behind `&` stands for, and its length. -/
def reference (text : List Char) : Option (List Char × ℕ) := (numeric text).or (named table text)

/-- The text with its references replaced, but for so many characters that are skipped first. -/
def unescapeFrom : ℕ → List Char → List Char
  | _, [] => []
  | skip + 1, _ :: text => unescapeFrom skip text
  | 0, c :: text =>
      if c = '&' then
        match reference table text with
        | some (replacement, length) => replacement ++ unescapeFrom length text
        | none => c :: unescapeFrom 0 text
      else c :: unescapeFrom 0 text

/-- `html.unescape`. -/
def unescape (text : List Char) : List Char := unescapeFrom table 0 text

/-- No `&` of a text begins a reference. -/
def Free (text : List Char) : Prop :=
  ∀ rest, ('&' :: rest) <:+ text → reference table rest = none

variable {table}

theorem unescapeFrom_eq_drop : ∀ (skip : ℕ) (text : List Char),
    unescapeFrom table skip text = unescape table (text.drop skip)
  | 0, _ => rfl
  | _ + 1, [] => rfl
  | skip + 1, _ :: text => unescapeFrom_eq_drop skip text

theorem unescape_cons {c : Char} {text : List Char} (h : c = '&' → reference table text = none) :
    unescape table (c :: text) = c :: unescape table text := by
  rw [unescape, unescapeFrom]
  split_ifs with hc
  · rw [h hc]
    rfl
  · rfl

theorem unescape_reference {text replacement : List Char} {length : ℕ}
    (h : reference table text = some (replacement, length)) :
    unescape table ('&' :: text) = replacement ++ unescape table (text.drop length) := by
  rw [unescape, unescapeFrom, if_pos rfl, h]
  dsimp only
  rw [unescapeFrom_eq_drop]

/-- A text without references is left as it is. -/
theorem unescape_eq_self : ∀ {text : List Char}, Free table text → unescape table text = text
  | [], _ => rfl
  | c :: text, h => by
      rw [unescape_cons fun hc => h text (hc ▸ List.suffix_refl _),
        unescape_eq_self fun rest hrest => h rest (hrest.trans (List.suffix_cons c text))]

/-! ### How a reference begins -/

/-- What a reference can begin with: `#` and a digit, or a name. -/
def Begins (table : Names) (stem : List Char) : Prop :=
  (∃ d, stem = ['#', d] ∧ isDigitOf 10 d = true) ∨
    (∃ x d, stem = ['#', x, d] ∧ (x = 'x' ∨ x = 'X') ∧ isDigitOf 16 d = true) ∨
      ∃ replacement, (stem, replacement) ∈ table.names

theorem mem_of_lookup {name replacement : List Char}
    (h : table.names.lookup name = some replacement) : (name, replacement) ∈ table.names := by
  obtain ⟨before, after, heq, -⟩ := List.lookup_eq_some_iff.1 h
  rw [heq]
  exact List.mem_append_right _ List.mem_cons_self

/-- The name that is looked for is a part of the text. -/
theorem take_nameText {text : List Char} {k : ℕ} (hk : k ≤ (nameText text).length) :
    (nameText text).take k = text.take k := by
  rw [nameText, List.length_take] at hk
  rw [nameText, List.take_take, min_eq_left (by omega)]

/-- What is named is a name at the start of the text. -/
theorem mem_of_named {text replacement : List Char} {length : ℕ}
    (h : named table text = some (replacement, length)) :
    (text.take length, replacement) ∈ table.names := by
  rw [named] at h
  split_ifs at h
  dsimp only at h
  cases hwhole : table.names.lookup (nameText text) with
  | some whole =>
      rw [hwhole] at h
      obtain ⟨rfl, rfl⟩ := Prod.mk.inj (Option.some.inj h)
      rw [← take_nameText le_rfl, List.take_length]
      exact mem_of_lookup hwhole
  | none =>
      rw [hwhole] at h
      obtain ⟨i, -, hi⟩ := List.exists_of_findSome?_eq_some h
      obtain ⟨part, hpart, heq⟩ := Option.map_eq_some_iff.1 hi
      obtain ⟨rfl, rfl⟩ := Prod.mk.inj heq
      rw [← take_nameText (by omega)]
      exact mem_of_lookup hpart

theorem isNameChar_of_isAlnum {c : Char} (h : isAlnum c = true) : isNameChar c = true := by
  rw [isNameChar, Bool.not_eq_true', Bool.eq_false_iff]
  intro hmem
  have hmem' : c ∈ "\t\n\x0c <&#;".toList := by simpa using hmem
  have hall : ∀ d ∈ "\t\n\x0c <&#;".toList, isAlnum d = false :=
    Strings.forall_mem_of_all (by decide)
  rw [hall c hmem'] at h
  cases h

theorem lookup_isSome {name replacement : List Char}
    (h : (name, replacement) ∈ table.names) : (table.names.lookup name).isSome = true := by
  rw [Option.isSome_iff_ne_none]
  intro hnone
  have hne := List.lookup_eq_none_iff.1 hnone _ h
  simp at hne

theorem le_withSemicolon (length : ℕ) (text : List Char) : length ≤ withSemicolon length text := by
  rw [withSemicolon]
  split_ifs <;> omega

/-- The text in which a name is looked for has the names that the text begins with. -/
theorem length_le_nameText {text name replacement : List Char}
    (hname : (name, replacement) ∈ table.names) (hinitial : name <+: text) :
    nameRun text ≠ [] ∧ name.length ≤ (nameText text).length := by
  obtain ⟨htwo, stem, hlength, hchars, hstem⟩ := table.shape _ hname
  have hkept : ∀ c ∈ stem, isNameChar c = true := fun c hc => isNameChar_of_isAlnum (hchars c hc)
  have hrun (more : List Char) : nameRun (stem ++ more) =
      stem ++ (more.takeWhile isNameChar).take (32 - stem.length) := by
    rw [nameRun, List.takeWhile_append_of_pos hkept, List.take_append,
      List.take_of_length_le hlength]
  obtain ⟨rest, rfl⟩ := hinitial
  dsimp only at htwo hstem
  rcases hstem with rfl | rfl
  · have hne : name ≠ [] := by
      rintro rfl
      exact absurd htwo (by decide)
    have hle := le_withSemicolon (nameRun (name ++ rest)).length (name ++ rest)
    rw [nameText, List.length_take, List.length_append]
    rw [hrun, List.length_append] at hle
    refine ⟨by rw [hrun]; exact List.append_ne_nil_of_left_ne_nil hne _, ?_⟩
    rw [hrun, List.length_append]
    omega
  · have hne : stem ≠ [] := by
      rintro rfl
      exact absurd htwo (by decide)
    have hwhole : nameRun (stem ++ [';'] ++ rest) = stem := by
      have hstop : ([';'] ++ rest).takeWhile isNameChar = [] :=
        List.takeWhile_cons_of_neg (by decide)
      rw [List.append_assoc, hrun, hstop, List.take_nil, List.append_nil]
    have hsemicolon : withSemicolon stem.length (stem ++ [';'] ++ rest) = stem.length + 1 := by
      rw [withSemicolon, List.append_assoc, List.drop_left]
      exact if_pos rfl
    refine ⟨by rw [hwhole]; exact hne, ?_⟩
    rw [nameText, hwhole, hsemicolon, List.length_take]
    simp only [List.length_append, List.length_singleton]
    omega

/-- **A name at the start of the text is found**, or a longer one is. -/
theorem named_isSome {text name replacement : List Char}
    (hname : (name, replacement) ∈ table.names) (hinitial : name <+: text) :
    (named table text).isSome = true := by
  obtain ⟨hrun, hle⟩ := length_le_nameText hname hinitial
  have htwo := (table.shape _ hname).1
  dsimp only at htwo
  have hpart : (nameText text).take name.length = name := by
    rw [take_nameText hle]
    exact (List.prefix_iff_eq_take.1 hinitial).symm
  rw [named, if_neg hrun]
  dsimp only
  cases hwhole : table.names.lookup (nameText text) with
  | some whole => rfl
  | none =>
      have hlt : name.length ≠ (nameText text).length := by
        intro heq
        rw [heq, List.take_length] at hpart
        have hsome := lookup_isSome hname
        rw [← hpart, hwhole] at hsome
        cases hsome
      dsimp only
      rw [List.isSome_findSome?, List.any_eq_true]
      refine ⟨(nameText text).length - 1 - name.length, List.mem_range.2 (by omega), ?_⟩
      have hindex : (nameText text).length - 1 - ((nameText text).length - 1 - name.length) =
          name.length := by omega
      rw [hindex, hpart, Option.isSome_map]
      exact lookup_isSome hname

/-- Digits at the start of a text. -/
theorem takeWhile_ne_nil_iff {p : Char → Bool} {text : List Char} :
    text.takeWhile p ≠ [] ↔ ∃ d rest, text = d :: rest ∧ p d = true := by
  cases text with
  | nil => simp
  | cons d rest => by_cases hd : p d = true <;> simp [hd]

/-- A number at the start of the text is found. -/
theorem numeric_isSome_iff {text : List Char} : (numeric text).isSome = true ↔
    (∃ d, isDigitOf 10 d = true ∧ ['#', d] <+: text) ∨
      ∃ x d, (x = 'x' ∨ x = 'X') ∧ isDigitOf 16 d = true ∧ ['#', x, d] <+: text := by
  constructor
  · intro h
    rw [numeric.eq_def] at h
    split at h
    · rename_i c text
      dsimp only at h
      split_ifs at h with hx hds hds
      · cases h
      · obtain ⟨d, rest, rfl, hd⟩ := takeWhile_ne_nil_iff.1 hds
        exact .inr ⟨c, d, hx, hd, rest, rfl⟩
      · cases h
      · obtain ⟨d, rest, heq, hd⟩ := takeWhile_ne_nil_iff.1 hds
        obtain ⟨rfl, rfl⟩ := List.cons.inj heq
        exact .inl ⟨c, hd, text, rfl⟩
    · cases h
  · rintro (⟨d, hd, rest, rfl⟩ | ⟨x, d, hx, hd, rest, rfl⟩)
    · have hmark : ¬ (d = 'x' ∨ d = 'X') := by
        rintro (rfl | rfl) <;> cases hd
      have hds : (d :: rest).takeWhile (isDigitOf 10) ≠ [] :=
        takeWhile_ne_nil_iff.2 ⟨d, rest, rfl, hd⟩
      show (numeric ('#' :: d :: rest)).isSome = true
      rw [numeric, if_neg hmark, if_neg hds]
      rfl
    · have hds : (d :: rest).takeWhile (isDigitOf 16) ≠ [] :=
        takeWhile_ne_nil_iff.2 ⟨d, rest, rfl, hd⟩
      show (numeric ('#' :: x :: d :: rest)).isSome = true
      rw [numeric, if_pos hx, if_neg hds]
      rfl

/-- **A reference is there when the text begins like one.** -/
theorem reference_isSome_iff {text : List Char} :
    (reference table text).isSome = true ↔ ∃ stem, Begins table stem ∧ stem <+: text := by
  rw [reference, Option.isSome_or, Bool.or_eq_true, numeric_isSome_iff]
  constructor
  · rintro ((⟨d, hd, hinitial⟩ | ⟨x, d, hx, hd, hinitial⟩) | hnamed)
    · exact ⟨_, .inl ⟨d, rfl, hd⟩, hinitial⟩
    · exact ⟨_, .inr (.inl ⟨x, d, rfl, hx, hd⟩), hinitial⟩
    · obtain ⟨⟨replacement, length⟩, h⟩ := Option.isSome_iff_exists.1 hnamed
      exact ⟨_, .inr (.inr ⟨replacement, mem_of_named h⟩), List.take_prefix length text⟩
  · rintro ⟨stem, ⟨d, rfl, hd⟩ | ⟨x, d, rfl, hx, hd⟩ | ⟨replacement, hname⟩, hinitial⟩
    · exact .inl (.inl ⟨d, hd, hinitial⟩)
    · exact .inl (.inr ⟨x, d, hx, hd, hinitial⟩)
    · exact .inr (named_isSome hname hinitial)

/-- The letters and digits by their numbers. -/
theorem isAlnum_iff {c : Char} : isAlnum c = true ↔
    (48 ≤ c.toNat ∧ c.toNat ≤ 57) ∨ (97 ≤ c.toNat ∧ c.toNat ≤ 122) ∨
      65 ≤ c.toNat ∧ c.toNat ≤ 90 := by
  change ((decide (c.val ≥ '0'.val) && decide (c.val ≤ '9'.val) ||
    decide (c.val ≥ 'a'.val) && decide (c.val ≤ 'z'.val)) ||
    decide (c.val ≥ 'A'.val ∧ c.val ≤ 'Z'.val)) = true ↔ _
  simp only [Bool.or_eq_true, Bool.and_eq_true, decide_eq_true_eq, ge_iff_le,
    UInt32.le_iff_toNat_le, or_assoc]
  exact Iff.rfl

theorem isSpace_of_isAlnum {c : Char} (h : isAlnum c = true) :
    Strings.isSpace c = false := by
  rw [isAlnum_iff] at h
  rw [Bool.eq_false_iff]
  intro hspace
  simp only [Strings.isSpace, Bool.or_eq_true, Bool.and_eq_true, decide_eq_true_eq, beq_iff_eq] at hspace
  omega

theorem isAlnum_of_isDigitOf {base : ℕ} {d : Char} (h : isDigitOf base d = true) :
    isAlnum d = true := by
  rw [isDigitOf, HostAddresses.digitValue] at h
  split_ifs at h with hdigit hlower hupper
  · rw [isAlnum, hdigit]
    rfl
  · have hlow : 97 ≤ d.toNat := UInt32.le_iff_toNat_le.1 hlower.1
    have hhigh : d.toNat ≤ 102 := UInt32.le_iff_toNat_le.1 hlower.2
    exact isAlnum_iff.2 (by omega)
  · have hlow : 65 ≤ d.toNat := UInt32.le_iff_toNat_le.1 hupper.1
    have hhigh : d.toNat ≤ 70 := UInt32.le_iff_toNat_le.1 hupper.2
    exact isAlnum_iff.2 (by omega)
  · cases h

/-- The beginning of a reference ends in something visible. -/
theorem getLast?_of_begins {stem : List Char} (h : Begins table stem) :
    ∃ c, stem.getLast? = some c ∧ Strings.isSpace c = false := by
  rcases h with ⟨d, rfl, hd⟩ | ⟨x, d, rfl, -, hd⟩ | ⟨replacement, hname⟩
  · exact ⟨d, rfl, isSpace_of_isAlnum (isAlnum_of_isDigitOf hd)⟩
  · exact ⟨d, rfl, isSpace_of_isAlnum (isAlnum_of_isDigitOf hd)⟩
  · obtain ⟨htwo, letters, -, hletters, rfl | rfl⟩ := table.shape _ hname
    · have hne : stem ≠ [] := by
        rintro rfl
        exact absurd htwo (by simp)
      have hlast := List.getLast?_eq_some_getLast hne
      exact ⟨_, hlast, isSpace_of_isAlnum (hletters _ (List.mem_of_getLast? hlast))⟩
    · exact ⟨';', List.getLast?_concat, by decide⟩
/-! ### The weight of a text -/

/-- An ampersand weighs as much as what it takes to write one. -/
def charWeight (c : Char) : ℕ :=
  if c = '&' then 3 else if c = 'm' ∨ c = 'M' ∨ c = '#' then 1 else 0

/-- The weight of a text. -/
def weight (text : List Char) : ℕ := (text.map charWeight).sum

theorem weight_cons (c : Char) (text : List Char) :
    weight (c :: text) = charWeight c + weight text := by
  rw [weight, List.map_cons, List.sum_cons, weight]

theorem weight_append (x y : List Char) : weight (x ++ y) = weight x + weight y := by
  rw [weight, List.map_append, List.sum_append, weight, weight]

theorem charWeight_le (c : Char) : charWeight c ≤ 3 := by
  unfold charWeight
  split_ifs <;> omega

theorem charWeight_le_one {c : Char} (hc : c ≠ '&') : charWeight c ≤ 1 := by
  rw [charWeight, if_neg hc]
  split_ifs <;> omega

theorem charWeight_le_weight {c : Char} {text : List Char} (h : c ∈ text) :
    charWeight c ≤ weight text := by
  obtain ⟨before, after, rfl⟩ := List.append_of_mem h
  rw [weight_append, weight_cons]
  omega

theorem weight_take_add_drop (n : ℕ) (text : List Char) :
    weight (text.take n) + weight (text.drop n) = weight text := by
  rw [← weight_append, List.take_append_drop]

/-- A number stands for one character at most. -/
theorem length_ofNumber (n : ℕ) : (ofNumber n).length ≤ 1 := by
  unfold ofNumber
  split
  · exact le_rfl
  · split_ifs <;> simp

theorem weight_le_of_length {text : List Char} (h : text.length ≤ 1) : weight text ≤ 3 := by
  rcases text with _ | ⟨c, _ | ⟨d, text⟩⟩
  · exact Nat.zero_le _
  · rw [weight_cons]
    exact charWeight_le c
  · simp at h

/-- What a reference by number stands for. -/
theorem of_numeric {text replacement : List Char} {length : ℕ}
    (h : numeric text = some (replacement, length)) :
    replacement.length ≤ 1 ∧ '#' ∈ text.take length := by
  rw [numeric.eq_def] at h
  split at h
  · rename_i c text
    dsimp only at h
    split_ifs at h
    · obtain ⟨rfl, rfl⟩ := Prod.mk.inj (Option.some.inj h)
      refine ⟨length_ofNumber _, ?_⟩
      rw [Nat.add_comm, List.take_succ_cons]
      exact List.mem_cons_self
    · obtain ⟨rfl, rfl⟩ := Prod.mk.inj (Option.some.inj h)
      refine ⟨length_ofNumber _, ?_⟩
      rw [Nat.add_comm, List.take_succ_cons]
      exact List.mem_cons_self
  · cases h

/-- **A reference weighs more than what it stands for.** -/
theorem weight_reference {text replacement : List Char} {length : ℕ}
    (h : reference table text = some (replacement, length)) :
    weight replacement < 3 + weight (text.take length) := by
  rw [reference] at h
  rcases Option.or_eq_some_iff.1 h with hnumeric | ⟨-, hnamed⟩
  · obtain ⟨hlength, hmark⟩ := of_numeric hnumeric
    have hle := weight_le_of_length hlength
    have hone := charWeight_le_weight hmark
    have hmark' : charWeight '#' = 1 := rfl
    omega
  · have hmem := mem_of_named hnamed
    by_cases hand : '&' ∈ replacement
    · obtain ⟨rfl, hm⟩ := table.ampersand _ hmem hand
      have hone : 1 ≤ weight (text.take length) := by
        rcases hm with hm | hm <;> exact charWeight_le_weight hm
      show 3 < 3 + _
      omega
    · have hshort := table.short _ hmem
      rcases replacement with _ | ⟨c, _ | ⟨d, _ | ⟨e, more⟩⟩⟩
      · exact Nat.lt_add_right _ (by decide)
      · have hc : charWeight c ≤ 1 := charWeight_le_one fun hc => hand (by simp [hc])
        rw [weight_cons]
        show charWeight c + 0 < _
        omega
      · have hc : charWeight c ≤ 1 := charWeight_le_one fun hc => hand (by simp [hc])
        have hd : charWeight d ≤ 1 := charWeight_le_one fun hd => hand (by simp [hd])
        rw [weight_cons, weight_cons]
        show charWeight c + (charWeight d + 0) < _
        omega
      · simp at hshort

/-- **To replace references makes a text lighter.** -/
theorem weight_unescape (text : List Char) : weight (unescape table text) ≤ weight text ∧
    (¬ Free table text → weight (unescape table text) < weight text) := by
  induction hlength : text.length using Nat.strong_induction_on generalizing text with
  | _ n ih =>
    cases text with
    | nil => exact ⟨le_rfl, fun h => absurd (fun rest hrest => by simp at hrest) h⟩
    | cons c text =>
        by_cases hreference : c = '&' ∧ (reference table text).isSome = true
        · obtain ⟨rfl, hsome⟩ := hreference
          obtain ⟨⟨replacement, length⟩, hreference⟩ := Option.isSome_iff_exists.1 hsome
          have hless := weight_reference hreference
          have hrest := (ih (text.drop length).length (by
            rw [← hlength, List.length_cons, List.length_drop]
            omega) (text.drop length) rfl).1
          have hsplit := weight_take_add_drop length text
          have hand : charWeight '&' = 3 := rfl
          rw [unescape_reference hreference, weight_append, weight_cons]
          constructor
          · omega
          · intro _
            omega
        · have hnone : c = '&' → reference table text = none := fun hc =>
            Option.not_isSome_iff_eq_none.1 fun hsome => hreference ⟨hc, hsome⟩
          obtain ⟨hle, hlt⟩ := ih text.length (by rw [← hlength, List.length_cons]; omega) text rfl
          rw [unescape_cons hnone, weight_cons, weight_cons]
          refine ⟨by omega, fun hfree => ?_⟩
          have hless := hlt fun hfree' => hfree fun rest hrest => by
            rcases List.suffix_cons_iff.1 hrest with heq | hrest
            · obtain ⟨hc, rfl⟩ := List.cons.inj heq
              exact hnone hc.symm
            · exact hfree' rest hrest
          omega

end CharacterReferences
end AgenticCommerce
