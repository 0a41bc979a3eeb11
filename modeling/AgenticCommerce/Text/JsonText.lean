/-
# JSON as text

`json.dumps(value, separators=(",", ":"))`, which writes ASCII only, and the reader of
`json.loads` and `JSON.parse`: white space between the tokens, escapes and pairs of
surrogates in strings, no control character in a string, no leading zero, nothing after
the value.  What the two readers do differently is a `Dialect`: Python also reads `NaN`
and the infinities, and each has its own `repr` of a number with a fraction or an
exponent.  A lone surrogate, which no `String` holds, is refused.

`loads_dumps` is the round trip: a value without floats is read back from its text.
-/

import AgenticCommerce.Json
import Mathlib.Data.Nat.Digits.Lemmas
import Mathlib.Tactic.Ring

namespace AgenticCommerce
namespace Json

/-- What the readers do differently. -/
structure Dialect where
  /-- The `repr` of the number that a numeral with a fraction or an exponent denotes. -/
  float : String → String
  /-- Whether `NaN`, `Infinity` and `-Infinity` are values. -/
  constants : Bool

/-! ### Writing -/

/-- The decimal digits of a number. -/
def decimal (n : ℕ) : List Char :=
  if n = 0 then ['0'] else (Nat.digits 10 n).reverse.map fun d => Char.ofNat (48 + d)

/-- `str(n)`. -/
def printInt : ℤ → List Char
  | .ofNat n => decimal n
  | .negSucc n => '-' :: decimal (n + 1)

/-- A hexadecimal digit. -/
def hexDigit (n : ℕ) : Char := if n < 10 then Char.ofNat (48 + n) else Char.ofNat (87 + n)

/-- `\uXXXX`. -/
def unit (n : ℕ) : List Char :=
  ['\\', 'u', hexDigit (n / 4096 % 16), hexDigit (n / 256 % 16), hexDigit (n / 16 % 16),
    hexDigit (n % 16)]

/-- A character of a string. -/
def escape (c : Char) : List Char :=
  if c = '"' then ['\\', '"']
  else if c = '\\' then ['\\', '\\']
  else if c = '\n' then ['\\', 'n']
  else if c = '\r' then ['\\', 'r']
  else if c = '\t' then ['\\', 't']
  else if c = Char.ofNat 12 then ['\\', 'f']
  else if c = Char.ofNat 8 then ['\\', 'b']
  else if 32 ≤ c.toNat ∧ c.toNat < 127 then [c]
  else if c.toNat < 65536 then unit c.toNat
  else unit (55296 + (c.toNat - 65536) / 1024) ++ unit (56320 + (c.toNat - 65536) % 1024)

/-- A string with its quotes. -/
def quote (s : String) : List Char := '"' :: s.toList.flatMap escape ++ ['"']

mutual

/-- `json.dumps(value, separators=(",", ":"))`. -/
def dumps : Json → List Char
  | null => ['n', 'u', 'l', 'l']
  | bool true => ['t', 'r', 'u', 'e']
  | bool false => ['f', 'a', 'l', 's', 'e']
  | int n => printInt n
  | float r => r.toList
  | str s => quote s
  | arr items => '[' :: dumpsItems items ++ [']']
  | obj items => '{' :: dumpsFields items ++ ['}']

/-- The items of an array. -/
def dumpsItems : List Json → List Char
  | [] => []
  | [v] => dumps v
  | v :: rest => dumps v ++ ',' :: dumpsItems rest

/-- The bindings of an object. -/
def dumpsFields : List (String × Json) → List Char
  | [] => []
  | [(k, v)] => quote k ++ ':' :: dumps v
  | (k, v) :: rest => quote k ++ ':' :: dumps v ++ ',' :: dumpsFields rest

end

/-! ### The order of the keys -/

/-- The order of texts, by the code points of their characters. -/
def precedes : List Char → List Char → Bool
  | [], text => !text.isEmpty
  | _ :: _, [] => false
  | c :: s, d :: t => if c = d then precedes s t else decide (c.toNat < d.toNat)

/-- A binding put in the order of its key, over an older one. -/
def insertField (k : String) (v : Json) : List (String × Json) → List (String × Json)
  | [] => [(k, v)]
  | (l, w) :: rest =>
      if precedes k.toList l.toList then (k, v) :: (l, w) :: rest
      else if k = l then (k, v) :: rest
      else (l, w) :: insertField k v rest

mutual

/-- A value whose keys are sorted all the way down, as `sort_keys=True` writes it. -/
def sorted : Json → Json
  | arr items => arr (sortedItems items)
  | obj items => obj ((sortedFields items).foldl (fun done kv => insertField kv.1 kv.2 done) [])
  | v => v

/-- The items of an array. -/
def sortedItems : List Json → List Json
  | [] => []
  | v :: rest => sorted v :: sortedItems rest

/-- The bindings of an object, in their own order. -/
def sortedFields : List (String × Json) → List (String × Json)
  | [] => []
  | (k, v) :: rest => (k, sorted v) :: sortedFields rest

end

/-- The bindings of an object, sorted by their keys. -/
def sortFields (items : List (String × Json)) : List (String × Json) :=
  (sortedFields items).foldl (fun done kv => insertField kv.1 kv.2 done) []

/-! ### Reading -/

/-- White space between tokens. -/
def isBlank (c : Char) : Bool := c == ' ' || c == '\t' || c == '\n' || c == '\r'

/-- The text after its leading white space. -/
def skip (text : List Char) : List Char := text.dropWhile isBlank

/-- The value of a run of digits. -/
def readNat (ds : List Char) : ℕ := ds.foldl (fun n c => n * 10 + (c.toNat - 48)) 0

/-- The fraction of a numeral, and what follows it. -/
def fraction : List Char → List Char × List Char
  | '.' :: d :: rest =>
      if d.isDigit then ('.' :: d :: rest.takeWhile Char.isDigit, rest.dropWhile Char.isDigit)
      else ([], '.' :: d :: rest)
  | text => ([], text)

/-- The exponent of a numeral, and what follows it. -/
def exponent : List Char → List Char × List Char
  | e :: s :: rest =>
      if e = 'e' ∨ e = 'E' then
        if s.isDigit then (e :: s :: rest.takeWhile Char.isDigit, rest.dropWhile Char.isDigit)
        else match rest with
          | d :: more =>
              if (s = '+' ∨ s = '-') ∧ d.isDigit then
                (e :: s :: d :: more.takeWhile Char.isDigit, more.dropWhile Char.isDigit)
              else ([], e :: s :: rest)
          | [] => ([], e :: s :: rest)
      else ([], e :: s :: rest)
  | text => ([], text)

/-- The whole part of a numeral without its sign, and what follows it. -/
def whole : List Char → Option (List Char × List Char)
  | [] => none
  | c :: rest =>
      if c = '0' then some (['0'], rest)
      else if c.isDigit then some (c :: rest.takeWhile Char.isDigit, rest.dropWhile Char.isDigit)
      else none

/-- A number. -/
def number (dialect : Dialect) (text : List Char) : Option (Json × List Char) :=
  let negative := text.head? == some '-'
  match whole (if negative then text.tail else text) with
  | none => none
  | some (ds, rest) =>
      let (frac, rest) := fraction rest
      let (exp, rest) := exponent rest
      if frac = [] ∧ exp = [] then some (int (if negative then -readNat ds else readNat ds), rest)
      else
        let sign := if negative then ['-'] else []
        some (float (dialect.float (String.ofList (sign ++ ds ++ frac ++ exp))), rest)

/-- The value of a hexadecimal digit. -/
def hex? (c : Char) : Option ℕ :=
  if 48 ≤ c.toNat ∧ c.toNat ≤ 57 then some (c.toNat - 48)
  else if 97 ≤ c.toNat ∧ c.toNat ≤ 102 then some (c.toNat - 87)
  else if 65 ≤ c.toNat ∧ c.toNat ≤ 70 then some (c.toNat - 55)
  else none

/-- The code unit four digits spell. -/
def unit? (a b c d : Char) : Option ℕ :=
  match hex? a, hex? b, hex? c, hex? d with
  | some a, some b, some c, some d => some (a * 4096 + b * 256 + c * 16 + d)
  | _, _, _, _ => none

/-- The character of an escape of one letter. -/
def escaped? (c : Char) : Option Char :=
  if c = '"' ∨ c = '\\' ∨ c = '/' then some c
  else if c = 'n' then some '\n'
  else if c = 'r' then some '\r'
  else if c = 't' then some '\t'
  else if c = 'f' then some (Char.ofNat 12)
  else if c = 'b' then some (Char.ofNat 8)
  else none

/-- A string after its opening quote. -/
def stringBody : List Char → Option (List Char × List Char)
  | [] => none
  | c :: rest =>
      if c = '"' then some ([], rest)
      else if c = '\\' then match rest with
        | [] => none
        | e :: rest =>
            if e = 'u' then match rest with
              | a :: b :: c :: d :: rest => match unit? a b c d with
                | none => none
                | some n =>
                    if 55296 ≤ n ∧ n < 56320 then match rest with
                      | '\\' :: 'u' :: a :: b :: c :: d :: rest => match unit? a b c d with
                        | some m =>
                            if 56320 ≤ m ∧ m < 57344 then
                              (stringBody rest).map fun s =>
                                (Char.ofNat (65536 + (n - 55296) * 1024 + (m - 56320)) :: s.1, s.2)
                            else none
                        | none => none
                      | _ => none
                    else if 56320 ≤ n ∧ n < 57344 then none
                    else (stringBody rest).map fun s => (Char.ofNat n :: s.1, s.2)
              | _ => none
            else match escaped? e with
              | some c => (stringBody rest).map fun s => (c :: s.1, s.2)
              | none => none
      else if c.toNat < 32 then none
      else (stringBody rest).map fun s => (c :: s.1, s.2)

/-- The text after a word it starts with. -/
def after? : (word text : List Char) → Option (List Char)
  | [], text => some text
  | _ :: _, [] => none
  | c :: word, d :: text => if c = d then after? word text else none

/-- A value that is neither a string nor a container. -/
def scalar (dialect : Dialect) (text : List Char) : Option (Json × List Char) :=
  if text.head? = some 'n' then (after? "null".toList text).map (null, ·)
  else if text.head? = some 't' then (after? "true".toList text).map (bool true, ·)
  else if text.head? = some 'f' then (after? "false".toList text).map (bool false, ·)
  else
    let constant := if dialect.constants then
        ((after? "NaN".toList text).map (float "nan", ·)).or
          (((after? "Infinity".toList text).map (float "inf", ·)).or
            ((after? "-Infinity".toList text).map (float "-inf", ·)))
      else none
    constant.or (number dialect text)

mutual

/-- A value at the head of a text, and what follows it. -/
def value (dialect : Dialect) : ℕ → List Char → Option (Json × List Char)
  | 0, _ => none
  | _ + 1, [] => none
  | fuel + 1, c :: rest =>
      if c = '"' then (stringBody rest).map fun s => (str (String.ofList s.1), s.2)
      else if c = '[' then match after? [']'] (skip rest) with
        | some rest => some (arr [], rest)
        | none => (valueItems dialect fuel (skip rest)).map fun l => (arr l.1, l.2)
      else if c = '{' then match after? ['}'] (skip rest) with
        | some rest => some (obj [], rest)
        | none => (valueFields dialect fuel (skip rest)).map fun l => (obj l.1, l.2)
      else scalar dialect (c :: rest)

/-- The items of an array from the first one on, to its closing bracket. -/
def valueItems (dialect : Dialect) : ℕ → List Char → Option (List Json × List Char)
  | 0, _ => none
  | fuel + 1, text => (value dialect fuel text).bind fun (v, rest) =>
      match after? [','] (skip rest) with
      | some rest => (valueItems dialect fuel (skip rest)).map fun l => (v :: l.1, l.2)
      | none => (after? [']'] (skip rest)).map ([v], ·)

/-- The bindings of an object from the first one on, to its closing brace. -/
def valueFields (dialect : Dialect) : ℕ → List Char → Option (List (String × Json) × List Char)
  | 0, _ => none
  | fuel + 1, text =>
      ((after? ['"'] text).bind stringBody).bind fun (k, rest) =>
        ((after? [':'] (skip rest)).bind fun rest => value dialect fuel (skip rest)).bind
          fun (v, rest) => match after? [','] (skip rest) with
            | some rest => (valueFields dialect fuel (skip rest)).map fun l =>
                ((String.ofList k, v) :: l.1, l.2)
            | none => (after? ['}'] (skip rest)).map ([(String.ofList k, v)], ·)

end

/-- `json.loads(text)`.  Every two characters open at most one value. -/
def loads (dialect : Dialect) (text : List Char) : Option Json :=
  match value dialect (2 * text.length + 2) (skip text) with
  | some (v, rest) => if skip rest = [] then some v else none
  | none => none

/-! ### Numbers are read back -/

/-- What follows a value inside an array or an object, or at the end of a text. -/
def Ends (rest : List Char) : Prop :=
  rest = [] ∨ ∃ c t, rest = c :: t ∧ (c = ',' ∨ c = ']' ∨ c = '}')

theorem Ends.head {rest : List Char} (h : Ends rest) {c : Char} {t : List Char}
    (hr : rest = c :: t) : c.isDigit = false ∧ c ≠ '.' ∧ c ≠ 'e' ∧ c ≠ 'E' := by
  rcases h with rfl | ⟨d, u, rfl, hd⟩
  · exact nomatch hr
  · obtain ⟨rfl, rfl⟩ := List.cons.inj hr
    rcases hd with rfl | rfl | rfl <;> decide

theorem Ends.fraction {rest : List Char} (h : Ends rest) : fraction rest = ([], rest) := by
  unfold Json.fraction
  split
  · exact absurd rfl (h.head rfl).2.1
  · rfl

theorem Ends.exponent {rest : List Char} (h : Ends rest) : exponent rest = ([], rest) := by
  unfold Json.exponent
  split
  · have hc := h.head rfl
    rw [if_neg (by rintro (rfl | rfl); exacts [hc.2.2.1 rfl, hc.2.2.2 rfl])]
  · rfl

theorem isDigit_ofNat : ∀ d < 10, (Char.ofNat (48 + d)).isDigit = true := by decide

theorem toNat_ofNat_digit : ∀ d < 10, (Char.ofNat (48 + d)).toNat - 48 = d := by decide

theorem decimal_isDigit (n : ℕ) : ∀ c ∈ decimal n, c.isDigit = true := by
  unfold decimal
  split
  · simp only [List.mem_singleton]
    rintro c rfl
    decide
  · intro c hc
    obtain ⟨d, hd, rfl⟩ := List.mem_map.1 hc
    exact isDigit_ofNat d (Nat.digits_lt_base (by omega) (List.mem_reverse.1 hd))

theorem readNat_append (ds : List Char) (c : Char) :
    readNat (ds ++ [c]) = readNat ds * 10 + (c.toNat - 48) := by
  simp [readNat]

/-- Digits, the lowest first, read from the highest. -/
theorem readNat_digits : ∀ ds : List ℕ, (∀ d ∈ ds, d < 10) →
    readNat (ds.reverse.map fun d => Char.ofNat (48 + d)) = Nat.ofDigits 10 ds
  | [], _ => rfl
  | d :: ds, h => by
      have ih := readNat_digits ds fun e he => h e (List.mem_cons_of_mem _ he)
      rw [List.reverse_cons, List.map_append, List.map_singleton, readNat_append, ih,
        toNat_ofNat_digit d (h d (List.mem_cons_self ..)), Nat.ofDigits_cons]
      ring

theorem readNat_decimal (n : ℕ) : readNat (decimal n) = n := by
  unfold decimal
  split
  · next h => rw [h]; rfl
  · rw [readNat_digits _ fun d hd => Nat.digits_lt_base (by omega) hd, Nat.ofDigits_digits]

/-- A decimal starts with `0` only when it is `0`. -/
theorem decimal_cases (n : ℕ) :
    decimal n = ['0'] ∨ ∃ c t, decimal n = c :: t ∧ c.isDigit = true ∧ c ≠ '0' := by
  by_cases hn : n = 0
  · exact .inl (by rw [decimal, if_pos hn])
  refine .inr ?_
  have hne : Nat.digits 10 n ≠ [] := Nat.digits_ne_nil_iff_ne_zero.2 hn
  have hlt : (Nat.digits 10 n).getLast hne < 10 :=
    Nat.digits_lt_base (by omega) (List.getLast_mem hne)
  have hzero : (Nat.digits 10 n).getLast hne ≠ 0 := Nat.getLast_digit_ne_zero 10 hn
  have hrev : (Nat.digits 10 n).reverse =
      (Nat.digits 10 n).getLast hne :: (Nat.digits 10 n).dropLast.reverse := by
    conv_lhs => rw [← List.dropLast_append_getLast hne]
    rw [List.reverse_append, List.reverse_singleton, List.singleton_append]
  refine ⟨_, _, by rw [decimal, if_neg hn, hrev, List.map_cons], isDigit_ofNat _ hlt, ?_⟩
  have : ∀ d < 10, d ≠ 0 → Char.ofNat (48 + d) ≠ '0' := by decide
  exact this _ hlt hzero

theorem takeWhile_append {ds rest : List Char} (hd : ∀ c ∈ ds, c.isDigit = true) (hr : Ends rest) :
    (ds ++ rest).takeWhile Char.isDigit = ds ∧ (ds ++ rest).dropWhile Char.isDigit = rest := by
  have hrest : rest.takeWhile Char.isDigit = [] ∧ rest.dropWhile Char.isDigit = rest := by
    cases rest with
    | nil => exact ⟨rfl, rfl⟩
    | cons c t =>
        have hc := (hr.head rfl).1
        simp [hc]
  constructor
  · rw [List.takeWhile_append_of_pos hd, hrest.1, List.append_nil]
  · rw [List.dropWhile_append_of_pos hd, hrest.2]

theorem whole_decimal (n : ℕ) {rest : List Char} (hr : Ends rest) :
    whole (decimal n ++ rest) = some (decimal n, rest) := by
  rcases decimal_cases n with h | ⟨c, t, h, hc, hne⟩
  · rw [h]
    rfl
  · have hd := decimal_isDigit n
    rw [h] at hd
    have ht := takeWhile_append (fun d hd' => hd d (List.mem_cons_of_mem _ hd')) hr
    rw [h, List.cons_append, whole, if_neg hne, if_pos hc, ht.1, ht.2]

/-- A number is read back. -/
theorem number_printInt (dialect : Dialect) (n : ℤ) {rest : List Char} (hr : Ends rest) :
    number dialect (printInt n ++ rest) = some (int n, rest) := by
  cases n with
  | ofNat n =>
      have hminus : ((decimal n ++ rest).head? == some '-') = false := by
        rcases decimal_cases n with h | ⟨c, t, h, hc, -⟩
        · rw [h]
          rfl
        · have : c ≠ '-' := by rintro rfl; exact absurd hc (by decide)
          simpa [h] using this
      simp only [printInt, number, hminus, Bool.false_eq_true, if_false, whole_decimal n hr,
        hr.fraction, hr.exponent, and_self, if_true, readNat_decimal]
      rfl
  | negSucc n =>
      simp only [printInt, List.cons_append, number, List.head?_cons, beq_self_eq_true, if_true,
        List.tail_cons, whole_decimal (n + 1) hr, hr.fraction, hr.exponent, and_self,
        readNat_decimal]
      rw [Int.negSucc_eq]
      push_cast
      rfl

/-! ### Strings are read back -/

theorem hex?_hexDigit : ∀ n < 16, hex? (hexDigit n) = some n := by decide

theorem unit?_unit {n : ℕ} (hn : n < 65536) :
    unit? (hexDigit (n / 4096 % 16)) (hexDigit (n / 256 % 16)) (hexDigit (n / 16 % 16))
      (hexDigit (n % 16)) = some n := by
  simp only [unit?, hex?_hexDigit _ (Nat.mod_lt _ (show 0 < 16 by omega))]
  congr 1
  omega

/-- A code unit that is no surrogate stands for a character. -/
theorem stringBody_unit {n : ℕ} (hn : n < 65536) (hs : n < 55296 ∨ 57344 ≤ n) (rest : List Char) :
    stringBody (unit n ++ rest) = (stringBody rest).map fun s => (Char.ofNat n :: s.1, s.2) := by
  rw [unit, List.cons_append, List.cons_append, List.cons_append, List.cons_append,
    List.cons_append, List.cons_append, List.nil_append, stringBody]
  simp only [Char.reduceEq, if_false, if_true, unit?_unit hn]
  rw [if_neg (by omega), if_neg (by omega)]

/-- Two surrogates stand for a character beyond the first plane. -/
theorem stringBody_pair {n m : ℕ} (hn : 55296 ≤ n ∧ n < 56320) (hm : 56320 ≤ m ∧ m < 57344)
    (rest : List Char) : stringBody (unit n ++ unit m ++ rest) = (stringBody rest).map fun s =>
      (Char.ofNat (65536 + (n - 55296) * 1024 + (m - 56320)) :: s.1, s.2) := by
  simp only [unit, List.cons_append, List.nil_append]
  rw [stringBody]
  simp only [Char.reduceEq, if_false, if_true, unit?_unit (show n < 65536 by omega), hn, and_self,
    unit?_unit (show m < 65536 by omega), hm]

/-- An escape of one letter. -/
theorem stringBody_escaped {e c : Char} (hu : e ≠ 'u') (he : escaped? e = some c)
    (rest : List Char) :
    stringBody (['\\', e] ++ rest) = (stringBody rest).map fun s => (c :: s.1, s.2) := by
  rw [List.cons_append, List.cons_append, List.nil_append, stringBody.eq_def]
  simp only [Char.reduceEq, if_false, if_true, hu, he]

theorem stringBody_escape (c : Char) (rest : List Char) :
    stringBody (escape c ++ rest) = (stringBody rest).map fun s => (c :: s.1, s.2) := by
  unfold escape
  split_ifs with h₁ h₂ h₃ h₄ h₅ h₆ h₇ h₈ h₉
  · rw [h₁]; exact stringBody_escaped (by decide) rfl rest
  · rw [h₂]; exact stringBody_escaped (by decide) rfl rest
  · rw [h₃]; exact stringBody_escaped (by decide) rfl rest
  · rw [h₄]; exact stringBody_escaped (by decide) rfl rest
  · rw [h₅]; exact stringBody_escaped (by decide) rfl rest
  · rw [h₆]; exact stringBody_escaped (by decide) rfl rest
  · rw [h₇]; exact stringBody_escaped (by decide) rfl rest
  · rw [List.cons_append, List.nil_append, stringBody.eq_def]
    simp only [h₁, h₂, if_false]
    rw [if_neg (by omega)]
  · have hvalid : c.toNat < 55296 ∨ 57344 ≤ c.toNat := by
      rcases c.valid with h | h
      · exact .inl h
      · exact .inr (by have := h.1; simp only [Char.toNat, UInt32.toNat] at *; omega)
    rw [stringBody_unit h₉ hvalid, Char.ofNat_toNat]
  · have hlt : c.toNat < 1114112 := by
      rcases c.valid with h | h
      · simp only [Char.toNat, UInt32.toNat] at *; omega
      · exact h.2
    rw [stringBody_pair ⟨by omega, by omega⟩ ⟨by omega, by omega⟩]
    have : 65536 + (55296 + (c.toNat - 65536) / 1024 - 55296) * 1024 +
        (56320 + (c.toNat - 65536) % 1024 - 56320) = c.toNat := by omega
    rw [this, Char.ofNat_toNat]

/-- The characters of a string are read back up to its closing quote. -/
theorem stringBody_flatMap : ∀ (s rest : List Char),
    stringBody (s.flatMap escape ++ '"' :: rest) = some (s, rest)
  | [], rest => by
      rw [List.flatMap_nil, List.nil_append, stringBody.eq_def]
      rfl
  | c :: s, rest => by
      rw [List.flatMap_cons, List.append_assoc, stringBody_escape, stringBody_flatMap s rest]
      rfl

theorem stringBody_quote (s : String) (rest : List Char) :
    stringBody ((quote s).tail ++ rest) = some (s.toList, rest) := by
  rw [quote, List.cons_append, List.tail_cons, List.append_assoc]
  exact stringBody_flatMap s.toList rest

/-! ### Values are read back -/

mutual

/-- There is no float in the value. -/
def exact : Json → Bool
  | float _ => false
  | arr items => exactItems items
  | obj items => exactFields items
  | _ => true

def exactItems : List Json → Bool
  | [] => true
  | v :: rest => exact v && exactItems rest

def exactFields : List (String × Json) → Bool
  | [] => true
  | (_, v) :: rest => exact v && exactFields rest

end

theorem skip_cons {c : Char} {t : List Char} (h : isBlank c = false) : skip (c :: t) = c :: t := by
  rw [skip, List.dropWhile_cons_of_neg (by rw [h]; exact Bool.false_ne_true)]

theorem after?_self (c : Char) (rest : List Char) : after? [c] (c :: rest) = some rest := by
  simp [after?]

theorem after?_ne {c d : Char} (h : c ≠ d) (word rest : List Char) :
    after? (c :: word) (d :: rest) = none := by
  rw [after?, if_neg h]

/-- A number starts with a sign or a digit, and no sign stands before a letter. -/
theorem printInt_head (n : ℤ) : ∃ c t, printInt n = c :: t ∧ (c = '-' ∨ c.isDigit = true) ∧
    (c = '-' → ∃ d u, t = d :: u ∧ d.isDigit = true) := by
  have hc : ∀ n, ∃ c t, decimal n = c :: t ∧ c.isDigit = true := fun n => by
    rcases decimal_cases n with h | ⟨c, t, h, hc, -⟩
    · exact ⟨'0', [], h, by decide⟩
    · exact ⟨c, t, h, hc⟩
  cases n with
  | ofNat n =>
      obtain ⟨c, t, h, hc⟩ := hc n
      refine ⟨c, t, h, .inr hc, ?_⟩
      rintro rfl
      exact absurd hc (by decide)
  | negSucc n => exact ⟨'-', decimal (n + 1), rfl, .inl rfl, fun _ => hc (n + 1)⟩

/-- A number is read as one. -/
theorem scalar_printInt (dialect : Dialect) (n : ℤ) {rest : List Char} (hr : Ends rest) :
    scalar dialect (printInt n ++ rest) = some (int n, rest) := by
  have hnum := number_printInt dialect n hr
  obtain ⟨c, t, h, hc, hminus⟩ := printInt_head n
  rw [h, List.cons_append] at hnum ⊢
  have hne : ∀ d : Char, d ≠ '-' → d.isDigit = false → c ≠ d := by
    rintro d hd hdd rfl
    rcases hc with rfl | hc
    · exact hd rfl
    · rw [hdd] at hc
      exact Bool.noConfusion hc
  have hinf : after? "-Infinity".toList (c :: (t ++ rest)) = none := by
    by_cases hcm : c = '-'
    · obtain ⟨d, u, rfl, hd⟩ := hminus hcm
      have hdI : 'I' ≠ d := by rintro rfl; exact absurd hd (by decide)
      rw [hcm]
      show after? ('I' :: "nfinity".toList) (d :: (u ++ rest)) = none
      exact after?_ne hdI _ _
    · exact after?_ne (Ne.symm hcm) _ _
  have hnan : after? "NaN".toList (c :: (t ++ rest)) = none :=
    after?_ne (hne 'N' (by decide) (by decide)).symm _ _
  have hpos : after? "Infinity".toList (c :: (t ++ rest)) = none :=
    after?_ne (hne 'I' (by decide) (by decide)).symm _ _
  unfold scalar
  simp only [List.head?_cons, Option.some.injEq, hne 'n' (by decide) (by decide),
    hne 't' (by decide) (by decide), hne 'f' (by decide) (by decide), if_false, hinf, hnan, hpos,
    Option.map_none, Option.or_none, ite_self, Option.none_or, hnum]

/-- A value starts with a character that closes nothing and is no white space. -/
theorem dumps_head : ∀ v : Json, v.exact = true →
    ∃ c t, dumps v = c :: t ∧ isBlank c = false ∧ c ≠ ']' ∧ c ≠ '}'
  | null, _ => ⟨_, _, rfl, by decide⟩
  | bool true, _ => ⟨_, _, rfl, by decide⟩
  | bool false, _ => ⟨_, _, rfl, by decide⟩
  | int n, _ => by
      obtain ⟨c, t, h, hc, -⟩ := printInt_head n
      refine ⟨c, t, h, ?_⟩
      rcases hc with rfl | hc
      · decide
      · refine ⟨?_, ?_, ?_⟩
        · by_contra hb
          simp only [isBlank, Bool.not_eq_false, Bool.or_eq_true, beq_iff_eq] at hb
          rcases hb with ((rfl | rfl) | rfl) | rfl <;> exact absurd hc (by decide)
        · rintro rfl; exact absurd hc (by decide)
        · rintro rfl; exact absurd hc (by decide)
  | str _, _ => ⟨_, _, rfl, by decide⟩
  | arr _, _ => ⟨_, _, rfl, by decide⟩
  | obj _, _ => ⟨_, _, rfl, by decide⟩

theorem skip_dumps {v : Json} (h : v.exact = true) (rest : List Char) :
    skip (dumps v ++ rest) = dumps v ++ rest := by
  obtain ⟨c, t, hv, hc, -⟩ := dumps_head v h
  rw [hv, List.cons_append]
  exact skip_cons hc

theorem one_le_length_dumps {v : Json} (h : v.exact = true) : 1 ≤ (dumps v).length := by
  obtain ⟨c, t, hv, -⟩ := dumps_head v h
  rw [hv, List.length_cons]
  omega

/-- The items of an array start as the first of them does. -/
theorem items_head {v : Json} {l : List Json} {rest : List Char} (h : v.exact = true) :
    ∃ c t, dumpsItems (v :: l) ++ ']' :: rest = c :: t ∧ isBlank c = false ∧ c ≠ ']' := by
  obtain ⟨c, t, hv, hb, hclose, -⟩ := dumps_head v h
  cases l with
  | nil => exact ⟨c, t ++ ']' :: rest, by simp [dumpsItems, hv], hb, hclose⟩
  | cons u l => exact ⟨c, t ++ ',' :: dumpsItems (u :: l) ++ ']' :: rest, by
      simp [dumpsItems, hv], hb, hclose⟩

/-- The bindings of an object start with the quote of a key. -/
theorem fields_head (k : String) (v : Json) (l : List (String × Json)) (rest : List Char) :
    ∃ t, dumpsFields ((k, v) :: l) ++ '}' :: rest = '"' :: t := by
  cases l <;> simp [dumpsFields, quote]

theorem ends_cons {c : Char} (h : c = ',' ∨ c = ']' ∨ c = '}') (rest : List Char) :
    Ends (c :: rest) := .inr ⟨c, rest, rfl, h⟩

/-- A value that opens no bracket and no quote is read as a scalar. -/
theorem value_scalar (dialect : Dialect) (fuel : ℕ) {c : Char} {rest : List Char} (hq : c ≠ '"')
    (ha : c ≠ '[') (ho : c ≠ '{') :
    value dialect (fuel + 1) (c :: rest) = scalar dialect (c :: rest) := by
  rw [value, if_neg hq, if_neg ha, if_neg ho]

mutual

/-- **A value is read back from its text**, and the reading stops where the text does. -/
theorem value_dumps (dialect : Dialect) : ∀ (v : Json) (fuel : ℕ) (rest : List Char),
    v.exact = true → 2 * (dumps v).length ≤ fuel → Ends rest →
      value dialect fuel (dumps v ++ rest) = some (v, rest)
  | v, 0, rest, hv, hf, _ => absurd (one_le_length_dumps hv) (by omega)
  | null, fuel + 1, rest, _, _, _ => by
      rw [dumps, List.cons_append, value_scalar _ _ (by decide) (by decide) (by decide)]
      rfl
  | bool true, fuel + 1, rest, _, _, _ => by
      rw [dumps, List.cons_append, value_scalar _ _ (by decide) (by decide) (by decide)]
      rfl
  | bool false, fuel + 1, rest, _, _, _ => by
      rw [dumps, List.cons_append, value_scalar _ _ (by decide) (by decide) (by decide)]
      rfl
  | int n, fuel + 1, rest, _, _, hr => by
      have hnum := scalar_printInt dialect n hr
      obtain ⟨c, t, h, hc, -⟩ := printInt_head n
      have hne : ∀ d : Char, d ≠ '-' → d.isDigit = false → c ≠ d := by
        rintro d hd hdd rfl
        rcases hc with rfl | hc
        · exact hd rfl
        · rw [hdd] at hc
          exact Bool.noConfusion hc
      rw [dumps]
      rw [h, List.cons_append] at hnum ⊢
      rw [value_scalar _ _ (hne _ (by decide) (by decide)) (hne _ (by decide) (by decide))
        (hne _ (by decide) (by decide)), hnum]
  | str s, fuel + 1, rest, _, _, _ => by
      have h := stringBody_quote s rest
      rw [quote, List.cons_append, List.tail_cons] at h
      rw [dumps, quote, List.cons_append, List.cons_append, value, if_pos rfl, h, Option.map_some,
        String.ofList_toList]
  | arr [], fuel + 1, rest, _, _, _ => by
      simp [dumps, dumpsItems, value, skip_cons (show isBlank ']' = false by decide), after?_self]
  | arr (v :: l), fuel + 1, rest, hv, hf, _ => by
      have hlen : 2 * (dumpsItems (v :: l)).length + 1 ≤ fuel := by
        simp only [dumps, List.length_append, List.length_cons, List.length_nil] at hf
        omega
      have ih := valueItems_dumps dialect v l fuel rest hv hlen
      obtain ⟨c, t, hitems, hb, hclose⟩ := @items_head _ l rest
        (show v.exact = true by
          simp only [exact, exactItems, Bool.and_eq_true] at hv
          exact hv.1)
      have htext : dumps (arr (v :: l)) ++ rest = '[' :: (dumpsItems (v :: l) ++ ']' :: rest) := by
        simp [dumps]
      rw [htext, value, if_neg (by decide), if_pos rfl]
      rw [hitems] at ih ⊢
      rw [skip_cons hb, after?_ne hclose.symm, ih]
      rfl
  | obj [], fuel + 1, rest, _, _, _ => by
      simp [dumps, dumpsFields, value, skip_cons (show isBlank '}' = false by decide), after?_self]
  | obj ((k, v) :: l), fuel + 1, rest, hv, hf, _ => by
      have hlen : 2 * (dumpsFields ((k, v) :: l)).length + 1 ≤ fuel := by
        simp only [dumps, List.length_append, List.length_cons, List.length_nil] at hf
        omega
      have ih := valueFields_dumps dialect k v l fuel rest hv hlen
      obtain ⟨t, hfields⟩ := fields_head k v l rest
      have htext : dumps (obj ((k, v) :: l)) ++ rest =
          '{' :: (dumpsFields ((k, v) :: l) ++ '}' :: rest) := by
        simp [dumps]
      rw [htext, value, if_neg (by decide), if_neg (by decide), if_pos rfl]
      rw [hfields] at ih ⊢
      rw [skip_cons (by decide), after?_ne (by decide), ih]
      rfl

/-- The items of an array are read back up to its closing bracket. -/
theorem valueItems_dumps (dialect : Dialect) : ∀ (v : Json) (l : List Json) (fuel : ℕ)
    (rest : List Char), exactItems (v :: l) = true → 2 * (dumpsItems (v :: l)).length + 1 ≤ fuel →
      valueItems dialect fuel (dumpsItems (v :: l) ++ ']' :: rest) = some (v :: l, rest)
  | _, _, 0, _, _, hf => absurd hf (by omega)
  | v, [], fuel + 1, rest, hv, hf => by
      simp only [exactItems, Bool.and_eq_true] at hv
      simp only [dumpsItems] at hf ⊢
      rw [valueItems, value_dumps dialect v fuel _ hv.1 (by omega) (ends_cons (by decide) rest)]
      simp only [Option.bind_some, skip_cons (show isBlank ']' = false by decide),
        after?_ne (show ',' ≠ ']' by decide), after?_self, Option.map_some]
  | v, u :: l, fuel + 1, rest, hv, hf => by
      simp only [exactItems, Bool.and_eq_true] at hv
      have hlen : (dumpsItems (v :: u :: l)).length =
          (dumps v).length + (1 + (dumpsItems (u :: l)).length) := by
        simp only [dumpsItems, List.length_append, List.length_cons]
        omega
      have ih := valueItems_dumps dialect u l fuel rest
        (by simp only [exactItems, Bool.and_eq_true]; exact hv.2) (by omega)
      obtain ⟨c, t, hitems, hb, -⟩ := @items_head _ l rest hv.2.1
      rw [show dumpsItems (v :: u :: l) = dumps v ++ ',' :: dumpsItems (u :: l) from rfl,
        List.append_assoc, List.cons_append, valueItems,
        value_dumps dialect v fuel _ hv.1 (by omega) (ends_cons (by decide) _)]
      rw [hitems] at ih ⊢
      simp only [Option.bind_some, skip_cons (show isBlank ',' = false by decide), after?_self,
        skip_cons hb, ih, Option.map_some]

/-- The bindings of an object are read back up to its closing brace. -/
theorem valueFields_dumps (dialect : Dialect) : ∀ (k : String) (v : Json) (l : List (String × Json))
    (fuel : ℕ) (rest : List Char), exactFields ((k, v) :: l) = true →
      2 * (dumpsFields ((k, v) :: l)).length + 1 ≤ fuel →
      valueFields dialect fuel (dumpsFields ((k, v) :: l) ++ '}' :: rest) = some ((k, v) :: l, rest)
  | _, _, _, 0, _, _, hf => absurd hf (by omega)
  | k, v, [], fuel + 1, rest, hv, hf => by
      simp only [exactFields, Bool.and_eq_true] at hv
      have hk := stringBody_quote k (':' :: (dumps v ++ '}' :: rest))
      have hlen : (dumpsFields [(k, v)]).length = (quote k).length + (1 + (dumps v).length) := by
        simp only [dumpsFields, List.length_append, List.length_cons]
        omega
      have htext : dumpsFields [(k, v)] ++ '}' :: rest =
          '"' :: ((quote k).tail ++ ':' :: (dumps v ++ '}' :: rest)) := by
        simp [dumpsFields, quote]
      have hval := value_dumps dialect v fuel ('}' :: rest) hv.1 (by omega)
        (ends_cons (by decide) rest)
      rw [htext, valueFields]
      simp only [after?_self, Option.bind_some, hk, skip_cons (show isBlank ':' = false by decide),
        skip_dumps hv.1, hval, skip_cons (show isBlank '}' = false by decide), after?_ne (show ',' ≠ '}' by decide),
        Option.map_some, String.ofList_toList]
  | k, v, (k', v') :: l, fuel + 1, rest, hv, hf => by
      simp only [exactFields, Bool.and_eq_true] at hv
      have hk := stringBody_quote k
        (':' :: (dumps v ++ ',' :: (dumpsFields ((k', v') :: l) ++ '}' :: rest)))
      have hlen : (dumpsFields ((k, v) :: (k', v') :: l)).length =
          (quote k).length + (1 + ((dumps v).length + (1 + (dumpsFields ((k', v') :: l)).length))) := by
        simp only [dumpsFields, List.length_append, List.length_cons]
        omega
      have ih := valueFields_dumps dialect k' v' l fuel rest
        (by simp only [exactFields, Bool.and_eq_true]; exact hv.2) (by omega)
      have htext : dumpsFields ((k, v) :: (k', v') :: l) ++ '}' :: rest =
          '"' :: ((quote k).tail ++
            ':' :: (dumps v ++ ',' :: (dumpsFields ((k', v') :: l) ++ '}' :: rest))) := by
        simp [dumpsFields, quote]
      obtain ⟨t, hfields⟩ := fields_head k' v' l rest
      have hskip : skip (dumpsFields ((k', v') :: l) ++ '}' :: rest) =
          dumpsFields ((k', v') :: l) ++ '}' :: rest := by
        rw [hfields]
        exact skip_cons (by decide)
      have hval := value_dumps dialect v fuel
        (',' :: (dumpsFields ((k', v') :: l) ++ '}' :: rest)) hv.1 (by omega)
        (ends_cons (by decide) _)
      rw [htext, valueFields]
      simp only [after?_self, Option.bind_some, hk, skip_cons (show isBlank ':' = false by decide),
        skip_dumps hv.1, hval, skip_cons (show isBlank ',' = false by decide), hskip, ih, Option.map_some,
        String.ofList_toList]

end

/-- **The round trip.** -/
theorem loads_dumps (dialect : Dialect) {v : Json} (h : v.exact = true) :
    loads dialect (dumps v) = some v := by
  have hskip : skip (dumps v) = dumps v := by simpa using skip_dumps h []
  have hv : value dialect (2 * (dumps v).length + 2) (dumps v) = some (v, []) := by
    simpa using value_dumps dialect v (2 * (dumps v).length + 2) [] h (by omega) (.inl rfl)
  rw [loads, hskip, hv]
  rfl

/-! ### The text is ASCII -/

/-- An ASCII character other than `NUL`. -/
def IsAscii (c : Char) : Prop := 0 < c.toNat ∧ c.toNat < 128

theorem hexDigit_ascii : ∀ n < 16, IsAscii (hexDigit n) := by
  unfold IsAscii
  decide

theorem unit_ascii (n : ℕ) : ∀ c ∈ unit n, IsAscii c := by
  have h : ∀ k, IsAscii (hexDigit (k % 16)) := fun k => hexDigit_ascii _ (Nat.mod_lt _ (by omega))
  simp only [unit, List.mem_cons, List.not_mem_nil, or_false]
  rintro c (rfl | rfl | rfl | rfl | rfl | rfl)
  · exact ⟨by decide, by decide⟩
  · exact ⟨by decide, by decide⟩
  · exact h _
  · exact h _
  · exact h _
  · exact h _

theorem escape_ascii (c : Char) : ∀ d ∈ escape c, IsAscii d := by
  have short : ∀ e : Char, IsAscii e → ∀ d ∈ ['\\', e], IsAscii d := fun e he d hd => by
    simp only [List.mem_cons, List.not_mem_nil, or_false] at hd
    rcases hd with rfl | rfl
    · exact ⟨by decide, by decide⟩
    · exact he
  unfold escape
  split_ifs with h₁ h₂ h₃ h₄ h₅ h₆ h₇ h₈ h₉
  · exact short _ ⟨by decide, by decide⟩
  · exact short _ ⟨by decide, by decide⟩
  · exact short _ ⟨by decide, by decide⟩
  · exact short _ ⟨by decide, by decide⟩
  · exact short _ ⟨by decide, by decide⟩
  · exact short _ ⟨by decide, by decide⟩
  · exact short _ ⟨by decide, by decide⟩
  · intro d hd
    rw [List.mem_singleton.1 hd]
    exact ⟨by omega, by omega⟩
  · exact unit_ascii _
  · intro d hd
    rcases List.mem_append.1 hd with hd | hd
    · exact unit_ascii _ d hd
    · exact unit_ascii _ d hd

theorem quote_ascii (s : String) : ∀ c ∈ quote s, IsAscii c := by
  intro c hc
  rw [quote, List.cons_append, List.mem_cons, List.mem_append, List.mem_flatMap,
    List.mem_singleton] at hc
  rcases hc with rfl | ⟨d, -, hc⟩ | rfl
  · exact ⟨by decide, by decide⟩
  · exact escape_ascii d c hc
  · exact ⟨by decide, by decide⟩

theorem printInt_ascii (n : ℤ) : ∀ c ∈ printInt n, IsAscii c := by
  have digit : ∀ c : Char, c.isDigit = true → IsAscii c := fun c hc => by
    simp only [Char.isDigit, Bool.and_eq_true, decide_eq_true_eq] at hc
    have h₁ := UInt32.le_iff_toNat_le.1 hc.1
    have h₂ := UInt32.le_iff_toNat_le.1 hc.2
    simp only [IsAscii, Char.toNat]
    change 48 ≤ _ at h₁
    change _ ≤ 57 at h₂
    omega
  cases n with
  | ofNat n => exact fun c hc => digit c (decimal_isDigit n c hc)
  | negSucc n =>
      intro c hc
      rcases List.mem_cons.1 hc with rfl | hc
      · exact ⟨by decide, by decide⟩
      · exact digit c (decimal_isDigit (n + 1) c hc)

mutual

theorem dumps_ascii : ∀ v : Json, v.exact = true → ∀ c ∈ dumps v, IsAscii c
  | null, _ => by simp [dumps, IsAscii]
  | bool true, _ => by simp [dumps, IsAscii]
  | bool false, _ => by simp [dumps, IsAscii]
  | int n, _ => by rw [dumps]; exact printInt_ascii n
  | str s, _ => by rw [dumps]; exact quote_ascii s
  | arr l, h => by
      intro c hc
      rw [dumps, List.cons_append, List.mem_cons, List.mem_append, List.mem_singleton] at hc
      rcases hc with rfl | hc | rfl
      · exact ⟨by decide, by decide⟩
      · exact dumpsItems_ascii l (by simpa only [exact] using h) c hc
      · exact ⟨by decide, by decide⟩
  | obj l, h => by
      intro c hc
      rw [dumps, List.cons_append, List.mem_cons, List.mem_append, List.mem_singleton] at hc
      rcases hc with rfl | hc | rfl
      · exact ⟨by decide, by decide⟩
      · exact dumpsFields_ascii l (by simpa only [exact] using h) c hc
      · exact ⟨by decide, by decide⟩

theorem dumpsItems_ascii : ∀ l : List Json, exactItems l = true → ∀ c ∈ dumpsItems l, IsAscii c
  | [], _ => by simp [dumpsItems]
  | [v], h => by
      simp only [exactItems, Bool.and_eq_true] at h
      rw [dumpsItems]
      exact dumps_ascii v h.1
  | v :: u :: l, h => by
      simp only [exactItems, Bool.and_eq_true] at h
      intro c hc
      rw [dumpsItems, List.mem_append, List.mem_cons] at hc
      · rcases hc with hc | rfl | hc
        · exact dumps_ascii v h.1 c hc
        · exact ⟨by decide, by decide⟩
        · exact dumpsItems_ascii (u :: l) (by simp only [exactItems, Bool.and_eq_true]; exact h.2) c hc
      · exact fun h => nomatch h

theorem dumpsFields_ascii : ∀ l : List (String × Json), exactFields l = true →
    ∀ c ∈ dumpsFields l, IsAscii c
  | [], _ => by simp [dumpsFields]
  | [(k, v)], h => by
      simp only [exactFields, Bool.and_eq_true] at h
      intro c hc
      rw [dumpsFields, List.mem_append, List.mem_cons] at hc
      rcases hc with hc | rfl | hc
      · exact quote_ascii k c hc
      · exact ⟨by decide, by decide⟩
      · exact dumps_ascii v h.1 c hc
  | (k, v) :: (k', v') :: l, h => by
      simp only [exactFields, Bool.and_eq_true] at h
      intro c hc
      have htext : dumpsFields ((k, v) :: (k', v') :: l) =
          quote k ++ ':' :: (dumps v ++ ',' :: dumpsFields ((k', v') :: l)) := by
        simp [dumpsFields]
      rw [htext, List.mem_append, List.mem_cons, List.mem_append, List.mem_cons] at hc
      rcases hc with hc | rfl | hc | rfl | hc
      · exact quote_ascii k c hc
      · exact ⟨by decide, by decide⟩
      · exact dumps_ascii v h.1 c hc
      · exact ⟨by decide, by decide⟩
      · exact dumpsFields_ascii ((k', v') :: l)
          (by simp only [exactFields, Bool.and_eq_true]; exact h.2) c hc

end

end Json
end AgenticCommerce
