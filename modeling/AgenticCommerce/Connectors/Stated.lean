/-
# What the records state

An offer is told by its record when it costs what the record states, which is more than
nothing, and has the stock that the record states, or none below zero where it states none.
The connectors differ in what they make of a price or a count that is missing, zero, negative
or no integer, and for each the records are given whose offers are told by them (`Careful`,
`offers_told_iff`).  A line with the stock zero makes an offer of ten (`sold_out_offers_ten`).
-/

import AgenticCommerce.Connectors.Offers
import AgenticCommerce.Text.Rounding

namespace AgenticCommerce
namespace Connectors

open Agent.Intent (intOf intOfText rounded times)
open Pipeline (PyFloat intOfFloat)

variable (python : Python)

/-! ### What is stated -/

/-- A value that is given: neither missing nor the empty text. -/
def given : Json → Bool
  | .null => false
  | .str s => s != ""
  | _ => true

/-- The first value that is given under some names. -/
def Raw.firstGiven (raw : Raw) (keys : List String) : Option Json :=
  (keys.map fun key => raw.get key).find? given

/-- The integer a number is. -/
def wholeNumber (q : ℚ) : Option ℤ := if q.den = 1 then some q.num else none

/-- The count that a value states: an integer, a float or a text without a fraction. -/
def statedCount : Json → Option ℤ
  | .int n => some n
  | .float r => match Agent.Intent.double r with
    | .finite q => wholeNumber q
    | _ => none
  | .str s => (intOfText python.chars s.toList).or
      ((Decimals.decimal? python.chars.digit s.toList).bind wholeNumber)
  | .null | .bool _ | .arr _ | .obj _ => none

/-- The price in minor units that a number of major units states, to the nearest. -/
def minorOf (price : ℚ) : ℤ := Decimals.halfUp (price * 100)

/-- The price in minor units that a value of a platform states. -/
def statedPrice (value : Json) : Option ℤ :=
  ((numeral? value).bind fun text =>
    Decimals.decimal? python.chars.digit (priceText text)).map minorOf

/-- The number that a price of a line writes. -/
def writtenPrice : Json → Option ℚ
  | .int n => some n
  | .float r => Decimals.written? python.chars.digit r.toList
  | .str s => Decimals.written? python.chars.digit s.toList
  | .null | .bool _ | .arr _ | .obj _ => none

/-- The price in minor units that a line states, in minor units or else in major ones. -/
def linePrice (raw : Raw) : Option ℤ :=
  if given (raw.get "price_minor") then statedCount python (raw.get "price_minor")
  else (writtenPrice python (raw.get "price")).map minorOf

/-- What a record states of an offer. -/
structure Stated where
  price : Option ℤ
  stock : Option ℤ

/-- An offer of a record, with what the record states of it: of a Shopify product the variant
does. -/
inductive Emitted (merchantId : String) (index : ℕ) : Record → Stated → Offer → Prop
  | shopify {raw : Raw} {variants : List Raw} {v : Raw} {o : Offer}
      (hread : shopifyVariants raw = some variants) (hv : v ∈ variants)
      (ho : variantOffer python merchantId raw v = some o) :
      Emitted merchantId index (.shopify (.obj raw))
        ⟨statedPrice python (v.get "price"), statedCount python (v.get "inventory_quantity")⟩ o
  | wooCommerce {raw : Raw} {offers : List Offer} {o : Offer}
      (hread : parseWooCommerceProduct python merchantId raw = .ok offers) (ho : o ∈ offers) :
      Emitted merchantId index (.wooCommerce (.obj raw))
        ⟨(raw.firstGiven ["price", "regular_price"]).bind (statedPrice python),
          statedCount python (raw.get "stock_quantity")⟩ o
  | csv {row : Row} {o : Offer} (ho : parseCsvRow python merchantId index row = .ok o) :
      Emitted merchantId index (.csv row)
        ⟨intOfText python.chars (row.cell "price_minor").toList,
          (row.firstCell ["stock", "quantity"]).bind fun text => statedCount python (.str text)⟩ o
  | jsonl {raw : Raw} {o : Offer} (ho : parseJsonlLine python merchantId index raw = .ok o) :
      Emitted merchantId index (.jsonl (.obj raw))
        ⟨linePrice python raw, statedCount python (raw.get "stock")⟩ o
  | rest {raw : Raw} {o : Offer} (ho : transformRawOffer python merchantId raw = .ok o) :
      Emitted merchantId index (.rest (.obj raw))
        ⟨(raw.get "price_minor").int?,
          (raw.firstGiven ["stock", "quantity", "inventory_level"]).bind (statedCount python)⟩ o

/-- **An offer is told by its record**: it has the stated price, above zero, and the stated
stock. -/
structure Told (stated : Stated) (o : Offer) : Prop where
  price_pos : 0 < o.unitPriceMinor
  price : stated.price = some o.unitPriceMinor
  stock_nonneg : 0 ≤ o.availableStock
  stock : ∀ n ∈ stated.stock, o.availableStock = n

/-! ### The records that tell their offers -/

/-- A price that can be sold at: positive, and of no more digits than are reckoned with. -/
def Sellable (value : Json) : Prop :=
  ∃ n, statedPrice python value = some n ∧ 0 < n ∧ n < 10 ^ 28

/-- A count of a platform, if one is stated, is not negative, and it is zero or the integer that
its text reads as. -/
def CountReads (value : Json) : Prop :=
  ∀ n, statedCount python value = some n → 0 ≤ n ∧
    (match (numeral? value).bind fun text =>
        intOfText python.chars (Strings.strip text.toList) with
      | some m => m = n ∨ (n = 0 ∧ m < 0)
      | none => n = 0)

/-- A float times a hundred does not fall short of a price, nor reach the next one. -/
def Exact (price : ℚ) : Prop :=
  (minorOf price : ℚ) ≤ nearest (nearest price * 100) ∧
    nearest (nearest price * 100) < minorOf price + 1

/-- The row states a price above zero; if it states a count, the count is not negative and is an
integer, or it is the ten that is taken where there is none. -/
def CsvCareful (row : Row) : Prop :=
  row.cell "price_minor" ≠ "" ∧
    ∀ n, intOfText python.chars (row.cell "price_minor").toList = some n → 0 ≤ n → 0 < n ∧
      ∀ text ∈ row.firstCell ["stock", "quantity"],
        match intOfText python.chars text.toList with
        | some m => 0 ≤ m
        | none => ∀ m ∈ statedCount python (.str text), m = 10

/-- The line states a price above zero, in minor units or else in major ones whose float is
exact enough; its count is not negative and not a zero, for which ten is taken. -/
def JsonlCareful (raw : Raw) : Prop :=
  (if (raw.get "price_minor").truthy then
      ∃ n, statedCount python (raw.get "price_minor") = some n ∧ 0 < n
    else given (raw.get "price_minor") = false ∧
      ∃ price, writtenPrice python (raw.get "price") = some price ∧ 0 < minorOf price ∧
        Exact price) ∧
  if (raw.get "stock").truthy then
    ∀ n, intOf python.chars (raw.get "stock") = .ok n → 0 ≤ n
  else ∀ n ∈ statedCount python (raw.get "stock"), n = 10

/-- The record has an integer above zero for its price; its count is not negative, and behind a
count of zero there is no other. -/
def RestCareful (raw : Raw) : Prop :=
  (∃ n, raw.get "price_minor" = .int n ∧ 0 < n) ∧
  (∀ n, intOf python.chars (restStock raw) = .ok n → 0 ≤ n) ∧
  ∀ value ∈ raw.firstGiven ["stock", "quantity", "inventory_level"], value.truthy = false →
    ∀ n ∈ statedCount python value, intOf python.chars (restStock raw) = .ok n

/-- **The records that tell their offers**, if they make any. -/
def Careful (merchantId : String) (index : ℕ) : Record → Prop
  | .shopify raw => ∀ items variants, raw = .obj items → shopifyVariants items = some variants →
      ∀ v ∈ variants, Sellable python (v.get "price") →
        CountReads python (v.get "inventory_quantity")
  | .wooCommerce raw => ∀ items : Raw, raw = .obj items → wooReads items = true →
      (∃ price ∈ items.firstGiven ["price", "regular_price"], Sellable python price) ∧
        CountReads python (items.get "stock_quantity")
  | .csv row => CsvCareful python row
  | .jsonl raw => ∀ items : Raw, raw = .obj items →
      (parseJsonlLine python merchantId index items).toBool = true → JsonlCareful python items
  | .rest raw => ∀ items : Raw, raw = .obj items →
      (transformRawOffer python merchantId items).toBool = true → RestCareful python items

variable {python} {merchantId : String} {index : ℕ}

/-! ### Values -/

theorem given_of_truthy {value : Json} (h : value.truthy = true) : given value = true := by
  cases value with
  | null => exact h
  | str s => exact h
  | _ => rfl

/-- A value that is there is the one that is got. -/
theorem getD_of_get {raw : Raw} {key : String} {default : Json} (h : raw.get key ≠ .null) :
    raw.getD key default = raw.get key := by
  unfold Raw.get Raw.getD at *
  cases hfound : Json.lookup raw key with
  | none =>
      rw [hfound] at h
      exact absurd rfl h
  | some value => rfl

/-- `int(value)` is the count that the value states, if it states one. -/
theorem intOf_of_statedCount {value : Json} {m n : ℤ} (hm : intOf python.chars value = .ok m)
    (hn : statedCount python value = some n) : m = n := by
  cases value with
  | int k => exact (Except.ok.inj hm).symm.trans (Option.some.inj hn)
  | float r =>
      simp only [statedCount] at hn
      simp only [intOf] at hm
      cases hx : Agent.Intent.double r with
      | finite q =>
          rw [hx] at hm hn
          simp only [wholeNumber] at hn
          split_ifs at hn with hden
          rw [← Except.ok.inj hm, ← Option.some.inj hn, truncate, hden]
          exact Int.tdiv_one _
      | infinite negative => simp [hx] at hn
      | nan => simp [hx] at hn
  | str s =>
      simp only [statedCount] at hn
      simp only [intOf] at hm
      cases hs : intOfText python.chars s.toList with
      | none => simp [hs] at hm
      | some k =>
          rw [hs] at hm hn
          exact (Except.ok.inj hm).symm.trans (Option.some.inj hn)
  | _ => cases hn

/-- **What `parse_price_minor` accepts** is the price that is stated, where it can be sold
at. -/
theorem parsePriceMinor_eq_ok {value : Json} {n : ℤ} :
    parsePriceMinor python value = .ok n ↔ statedPrice python value = some n ∧ 0 < n ∧
      n < 10 ^ 28 := by
  unfold parsePriceMinor statedPrice
  cases hq : (numeral? value).bind fun text =>
      Decimals.decimal? python.chars.digit (priceText text) with
  | none => simp
  | some q =>
      simp only [Option.bind_some, Option.map_some, Option.some.injEq]
      cases hr : Decimals.quantize q with
      | none =>
          have hlarge : ¬|minorOf q| < 10 ^ 28 := Decimals.quantize_eq_none.1 hr
          refine ⟨nofun, ?_⟩
          rintro ⟨heq, hpos, hsmall⟩
          rw [heq, abs_of_pos hpos] at hlarge
          exact absurd hsmall hlarge
      | some r =>
          have hsmall : |minorOf q| < 10 ^ 28 := by
            by_contra hlarge
            rw [Decimals.quantize_eq_none.2 hlarge] at hr
            exact nomatch hr
          simp only [Decimals.halfUp_quantize hr]
          show (if minorOf q ≤ 0 then _ else _) = _ ↔ minorOf q = n ∧ _
          split_ifs with hpos
          · refine ⟨nofun, ?_⟩
            rintro ⟨heq, hpos', -⟩
            omega
          · have hpos' : 0 < minorOf q := not_le.1 hpos
            rw [abs_of_pos hpos'] at hsmall
            rw [Except.ok.injEq]
            exact ⟨fun heq => ⟨heq, heq ▸ hpos', heq ▸ hsmall⟩, fun h => h.1⟩

/-- A count of a platform is the one that is stated exactly where it reads. -/
theorem parseStockQuantity_iff {value : Json} {default : ℤ} :
    (∀ n ∈ statedCount python value, parseStockQuantity python value default = n) ↔
      CountReads python value := by
  refine forall_congr' fun n => ?_
  refine forall_congr' fun hn => ?_
  have hnull : value ≠ .null := by
    rintro rfl
    exact nomatch hn
  rw [parseStockQuantity, if_neg hnull]
  cases (numeral? value).bind fun text => intOfText python.chars (Strings.strip text.toList) with
  | none =>
      show 0 = n ↔ 0 ≤ n ∧ n = 0
      omega
  | some m =>
      show max 0 m = n ↔ 0 ≤ n ∧ (m = n ∨ n = 0 ∧ m < 0)
      omega

theorem parseStockQuantity_nonneg {value : Json} {default : ℤ} (hdefault : 0 ≤ default) :
    0 ≤ parseStockQuantity python value default := by
  rw [parseStockQuantity]
  split_ifs
  · exact hdefault
  · split <;> omega

/-! ### The platforms -/

/-- The texts of zero state no price above zero. -/
theorem statedText_zero {text : String} (h : text = "0" ∨ text = "0.0" ∨ text = "-0.0") :
    Decimals.decimal? python.chars.digit (priceText text) = some 0 := by
  have hzero : ∀ number : List Char, number = "0".toList ∨ number = "0.0".toList ∨
      number = "-0.0".toList → Decimals.signed? number = some 0 := by
    rintro number (rfl | rfl | rfl)
    all_goals
      show (some _ : Option ℚ) = _
      simp
      decide
  rw [@Decimals.decimal?_of_ascii python.chars.digit _ text.toList]
  · exact hzero _ (h.imp (congrArg String.toList) (Or.imp (congrArg String.toList)
      (congrArg String.toList)))
  · rcases h with rfl | rfl | rfl <;> decide
  · exact Strings.forall_mem_of_all (by rcases h with rfl | rfl | rfl <;> decide)

theorem not_sellable_zero {value : Json} {text : String} (hvalue : numeral? value = some text)
    (h : text = "0" ∨ text = "0.0" ∨ text = "-0.0") : ¬Sellable python value := by
  rintro ⟨n, hn, hpos, -⟩
  rw [statedPrice, hvalue, Option.bind_some, statedText_zero h, Option.map_some,
    Option.some.injEq] at hn
  have hzero : minorOf 0 = 0 := by
    rw [minorOf, zero_mul]
    exact_mod_cast Decimals.halfUp_intCast 0
  omega

/-- A price that can be sold at is not passed over. -/
theorem truthy_of_sellable {value : Json} (hgiven : given value = true)
    (h : Sellable python value) : value.truthy = true := by
  by_contra hfalse
  cases value with
  | int n =>
      have hn : n = 0 := by simpa [Json.truthy] using hfalse
      exact not_sellable_zero rfl (.inl (by rw [hn]; rfl)) h
  | float r =>
      have hr : r = "0.0" ∨ r = "-0.0" := by
        by_contra hne
        rw [not_or] at hne
        exact hfalse (by simp [Json.truthy, hne.1, hne.2])
      exact not_sellable_zero rfl (.inr hr) h
  | str s => exact hfalse hgiven
  | _ =>
      obtain ⟨n, hn, -⟩ := h
      exact nomatch hn

/-- A missing price is as good as the text zero. -/
theorem getD_price {raw : Raw} {n : ℤ} :
    parsePriceMinor python (raw.getD "price" (.str "0")) = .ok n ↔
      parsePriceMinor python (raw.get "price") = .ok n := by
  by_cases hnull : raw.get "price" = .null
  · have hget : ¬parsePriceMinor python (raw.get "price") = .ok n := by
      rw [hnull]
      exact nofun
    refine iff_of_false ?_ hget
    unfold Raw.get Raw.getD at *
    cases hfound : Json.lookup raw "price" with
    | none =>
        intro h
        have hprice := parsePriceMinor_eq_ok.1 h
        exact not_sellable_zero rfl (.inl rfl) ⟨n, hprice⟩
    | some value =>
        rw [hfound] at hget
        exact hget
  · rw [getD_of_get hnull]

/-- The offers of variants: those with a price that can be sold at. -/
theorem variantOffer_eq_some {raw v : Raw} :
    (∃ o, variantOffer python merchantId raw v = some o) ↔ Sellable python (v.get "price") := by
  rw [variantOffer]
  constructor
  · rintro ⟨o, ho⟩
    split at ho
    · exact nomatch ho
    · rename_i n hn
      exact ⟨n, parsePriceMinor_eq_ok.1 (getD_price.1 hn)⟩
  · rintro ⟨n, hn⟩
    rw [getD_price.2 (parsePriceMinor_eq_ok.2 hn)]
    exact ⟨_, rfl⟩

theorem told_variant_iff {raw v : Raw} {o : Offer}
    (ho : variantOffer python merchantId raw v = some o) :
    Told ⟨statedPrice python (v.get "price"), statedCount python (v.get "inventory_quantity")⟩ o ↔
      CountReads python (v.get "inventory_quantity") := by
  rw [← @parseStockQuantity_iff python _ 0]
  rw [variantOffer] at ho
  split at ho
  · exact nomatch ho
  · rename_i n hn
    obtain ⟨hprice, hpos, -⟩ := parsePriceMinor_eq_ok.1 (getD_price.1 hn)
    obtain rfl := (Option.some.inj ho).symm
    exact ⟨fun h => h.stock, fun h => ⟨hpos, hprice, parseStockQuantity_nonneg le_rfl, h⟩⟩

/-- A first value that is given and not false is the one that is taken. -/
theorem firstTrue_of_firstGiven {raw : Raw} {keys : List String} {value default : Json}
    (h : raw.firstGiven keys = some value) (htruthy : value.truthy = true) :
    raw.firstTrue keys default = value := by
  unfold Raw.firstGiven Raw.firstTrue at *
  induction keys with
  | nil => exact nomatch h
  | cons key keys ih =>
      rw [List.map_cons, List.find?_cons] at h
      rw [List.map_cons, List.foldr_cons, Json.orElse]
      cases hgiven : given (raw.get key) with
      | true =>
          rw [hgiven] at h
          obtain rfl := Option.some.inj h
          rw [if_pos htruthy]
      | false =>
          rw [hgiven] at h
          have hfalse : ¬(raw.get key).truthy = true := fun htrue => by
            rw [given_of_truthy htrue] at hgiven
            exact Bool.noConfusion hgiven
          rw [if_neg hfalse]
          exact ih h

/-- The one offer of a WooCommerce product that can be read: its price is zero where that of the
record is refused. -/
theorem parseWooCommerceProduct_eq_ok {raw : Raw} {offers : List Offer}
    (h : parseWooCommerceProduct python merchantId raw = .ok offers) :
    wooReads raw = true ∧ ∃ o default, offers = [o] ∧ 0 ≤ default ∧
      o.availableStock = parseStockQuantity python (raw.get "stock_quantity") default ∧
      ∀ n : ℤ, 0 < n →
        (o.unitPriceMinor = n ↔ parsePriceMinor python (wooPrice raw) = .ok n) := by
  by_cases hreads : wooReads raw = true
  · rw [parseWooCommerceProduct] at h
    simp only [if_pos hreads] at h
    have hdefault : (0 : ℤ) ≤ if (raw.getD "in_stock" (.bool true)).truthy then 10 else 0 := by
      split_ifs <;> omega
    refine ⟨hreads, _, _, (Except.ok.inj h).symm, hdefault,
      max_eq_right (parseStockQuantity_nonneg hdefault), fun n hn => ?_⟩
    cases parsePriceMinor python (wooPrice raw) with
    | ok m =>
        rw [Except.ok.injEq]
    | error failure =>
        refine iff_of_false (fun h => ?_) nofun
        have hzero : (0 : ℤ) = n := h
        omega
  · rw [parseWooCommerceProduct] at h
    simp only [if_neg hreads] at h
    exact nomatch h

theorem told_wooCommerce_iff {raw : Raw} {offers : List Offer}
    (hoffers : parseWooCommerceProduct python merchantId raw = .ok offers) :
    (∀ o ∈ offers, Told ⟨(raw.firstGiven ["price", "regular_price"]).bind (statedPrice python),
      statedCount python (raw.get "stock_quantity")⟩ o) ↔
      (∃ price ∈ raw.firstGiven ["price", "regular_price"], Sellable python price) ∧
        CountReads python (raw.get "stock_quantity") := by
  obtain ⟨-, o, default, rfl, hdefault, hstock, hprice⟩ := parseWooCommerceProduct_eq_ok hoffers
  rw [← @parseStockQuantity_iff python _ default, ← hstock, List.forall_mem_singleton]
  constructor
  · intro h
    obtain ⟨price, hgiven, hstated⟩ := Option.bind_eq_some_iff.1 h.price
    have hparsed := parsePriceMinor_eq_ok.1 ((hprice _ h.price_pos).1 rfl)
    exact ⟨⟨price, hgiven, _, hstated, h.price_pos, hparsed.2.2⟩, h.stock⟩
  · rintro ⟨⟨price, hfirst, n, hn, hpos, hsmall⟩, hcount⟩
    have hgiven : given price = true := List.find?_some hfirst
    have htaken : wooPrice raw = price :=
      firstTrue_of_firstGiven hfirst (truthy_of_sellable hgiven ⟨n, hn, hpos, hsmall⟩)
    have hunit : o.unitPriceMinor = n := (hprice n hpos).2 (by
      rw [htaken]
      exact parsePriceMinor_eq_ok.2 ⟨hn, hpos, hsmall⟩)
    refine ⟨hunit ▸ hpos, ?_, ?_, hcount⟩
    · show (raw.firstGiven ["price", "regular_price"]).bind (statedPrice python) = _
      rw [show raw.firstGiven ["price", "regular_price"] = some price from hfirst, hunit]
      exact hn
    · rw [hstock]
      exact parseStockQuantity_nonneg hdefault

/-! ### The feeds -/

theorem csvPrice_eq_ok {row : Row} {n : ℤ} : csvPrice python row = .ok n ↔
    row.cell "price_minor" = "" ∧ 0 = n ∨ row.cell "price_minor" ≠ "" ∧
      intOfText python.chars (row.cell "price_minor").toList = some n ∧ 0 ≤ n := by
  rw [csvPrice]
  by_cases hempty : row.cell "price_minor" = ""
  · simp [hempty]
  · rw [if_neg hempty]
    cases hread : intOfText python.chars (row.cell "price_minor").toList with
    | none => simp [hempty]
    | some m =>
        by_cases hneg : m < 0
        · simp only [if_pos hneg, hempty, reduceCtorEq, false_and, ne_eq, not_false_eq_true,
            true_and, false_or, false_iff, not_and, Option.some.injEq]
          omega
        · simp only [if_neg hneg, hempty, Except.ok.injEq, Option.some.injEq, false_and, ne_eq,
            not_false_eq_true, true_and, false_or]
          omega

/-- The offer of a row whose price is accepted. -/
theorem parseCsvRow_eq_ok {row : Row} {n c : ℤ} :
    (∃ o, parseCsvRow python merchantId index row = .ok o ∧ o.unitPriceMinor = n ∧
      o.availableStock = c) ↔ csvPrice python row = .ok n ∧ csvStock python row = c := by
  rw [parseCsvRow]
  cases csvPrice python row with
  | error failure => exact ⟨fun ⟨o, ho, _⟩ => (nomatch ho), fun h => (nomatch h.1)⟩
  | ok m =>
      constructor
      · rintro ⟨o, ho, rfl, rfl⟩
        obtain rfl := Except.ok.inj ho
        exact ⟨rfl, rfl⟩
      · rintro ⟨hm, rfl⟩
        obtain rfl := Except.ok.inj hm
        exact ⟨_, rfl, rfl, rfl⟩

/-- The stock of a row is the stated one exactly where it is an integer that is not negative, or
ten. -/
theorem csvStock_iff {row : Row} : (0 ≤ csvStock python row ∧
      ∀ n ∈ (row.firstCell ["stock", "quantity"]).bind fun text => statedCount python (.str text),
        csvStock python row = n) ↔
      ∀ text ∈ row.firstCell ["stock", "quantity"],
        match intOfText python.chars text.toList with
        | some m => 0 ≤ m
        | none => ∀ m ∈ statedCount python (.str text), m = 10 := by
  rw [csvStock]
  cases row.firstCell ["stock", "quantity"] with
  | none =>
      have hten : (0 : ℤ) ≤ 10 := by omega
      exact iff_of_true ⟨hten, fun n hn => nomatch hn⟩ fun text htext => nomatch htext
  | some text =>
      simp only [Option.bind_some, Option.mem_some_iff, forall_eq']
      cases hread : intOfText python.chars text.toList with
      | some m =>
          have hstated : statedCount python (.str text) = some m := by
            rw [statedCount, hread, Option.some_or]
          rw [hstated]
          exact ⟨fun h => h.1, fun h => ⟨h, fun n hn => Option.some.inj hn⟩⟩
      | none =>
          have hten : (0 : ℤ) ≤ 10 := by omega
          exact ⟨fun h n hn => (h.2 n hn).symm, fun h => ⟨hten, fun n hn => (h n hn).symm⟩⟩

theorem told_csv_iff {row : Row} :
    (∀ o, parseCsvRow python merchantId index row = .ok o →
      Told ⟨intOfText python.chars (row.cell "price_minor").toList,
        (row.firstCell ["stock", "quantity"]).bind fun text => statedCount python (.str text)⟩ o) ↔
      CsvCareful python row := by
  rw [CsvCareful]
  constructor
  · intro h
    have hnonempty : row.cell "price_minor" ≠ "" := by
      intro hempty
      obtain ⟨o, ho, hprice, -⟩ :=
        parseCsvRow_eq_ok.2 ⟨csvPrice_eq_ok.2 (.inl ⟨hempty, rfl⟩), rfl⟩
      have := (h o ho).price_pos
      omega
    refine ⟨hnonempty, fun n hn hn' => ?_⟩
    obtain ⟨o, ho, hprice, hstock⟩ :=
      parseCsvRow_eq_ok.2 ⟨csvPrice_eq_ok.2 (.inr ⟨hnonempty, hn, hn'⟩), rfl⟩
    have htold := h o ho
    refine ⟨hprice ▸ htold.price_pos, csvStock_iff.1 ⟨hstock ▸ htold.stock_nonneg, fun m hm => ?_⟩⟩
    rw [← hstock]
    exact htold.stock m hm
  · rintro ⟨hnonempty, h⟩ o ho
    obtain ⟨hprice, hstock⟩ := parseCsvRow_eq_ok.1 ⟨o, ho, rfl, rfl⟩
    rcases csvPrice_eq_ok.1 hprice with ⟨hempty, -⟩ | ⟨-, hread, hnonneg⟩
    · exact absurd hempty hnonempty
    · obtain ⟨hpos, hcount⟩ := h _ hread hnonneg
      have htold := csvStock_iff.2 hcount
      rw [hstock] at htold
      exact ⟨hpos, hread, htold.1, htold.2⟩

/-- What is cut off to a number above zero. -/
theorem truncate_eq_iff {q : ℚ} {n : ℤ} (hn : 0 < n) :
    truncate q = n ↔ (n : ℚ) ≤ q ∧ q < n + 1 := by
  have hn' : (1 : ℚ) ≤ n := by exact_mod_cast hn
  rcases le_total 0 q with hq | hq
  · rw [truncate_of_nonneg hq, Int.floor_eq_iff]
  · have hcut : truncate q = -⌊-q⌋ := by
      rw [← truncate_of_nonneg (neg_nonneg.2 hq), truncate_neg, neg_neg]
    have hfloor : 0 ≤ ⌊-q⌋ := Int.floor_nonneg.2 (neg_nonneg.2 hq)
    refine iff_of_false (fun heq => ?_) fun h => ?_
    · omega
    · linarith [h.1]

/-- A count that is given and false is zero. -/
theorem statedCount_falsy {value : Json} (hgiven : given value = true)
    (hfalse : value.truthy = false) {n : ℤ} (h : statedCount python value = some n) : n = 0 := by
  cases value with
  | int m =>
      have hm : m = 0 := by simpa [Json.truthy] using hfalse
      exact (Option.some.inj h).symm.trans hm
  | float r =>
      have hr : r = "0.0" ∨ r = "-0.0" := by
        by_contra hne
        rw [not_or] at hne
        simp [Json.truthy, hne.1, hne.2] at hfalse
      have hdecimal : Agent.Intent.decimalValue r.toList = some 0 := by
        rcases hr with rfl | rfl
        all_goals
          show (some _ : Option ℚ) = _
          simp
          decide
      have hzero : Agent.Intent.double r = .finite 0 := by
        rw [Agent.Intent.double, hdecimal]
        show rounded 0 = _
        rw [rounded, nearest_zero, abs_zero, if_pos (by positivity)]
      rw [statedCount, hzero] at h
      exact (Option.some.inj h).symm
  | str s =>
      have htrue : (Json.str s).truthy = true := hgiven
      rw [htrue] at hfalse
      exact Bool.noConfusion hfalse
  | _ => exact nomatch h

theorem floatOfText_written {text : String} {q : ℚ}
    (h : Decimals.written? python.chars.digit text.toList = some q) :
    floatOfText python text = some (rounded q) := by
  rw [floatOfText, h]
  rfl

theorem eq_of_ofInteger {x y : PyFloat} (h : ofInteger y = .ok x) : x = y := by
  cases y with
  | finite q => exact (Except.ok.inj h).symm
  | _ => exact nomatch h

/-- `float(price)` is the float of the number that the price writes. -/
theorem floatOf_written {value : Json} {q : ℚ} {x : PyFloat}
    (hwritten : writtenPrice python value = some q) (h : floatOf python value = .ok x) :
    x = rounded q := by
  cases value with
  | int n =>
      obtain rfl := Option.some.inj hwritten
      rw [floatOf] at h
      exact eq_of_ofInteger h
  | float r =>
      simp only [floatOf, floatOfText_written hwritten] at h
      exact (Except.ok.inj h).symm
  | str s =>
      simp only [floatOf, floatOfText_written hwritten] at h
      exact (Except.ok.inj h).symm
  | _ => exact nomatch hwritten

/-- The price of a line that is made of a number in major units. -/
theorem jsonlPrice_of_written {raw : Raw} {q : ℚ} {m : ℤ}
    (hfalse : (raw.get "price_minor").truthy = false)
    (hwritten : writtenPrice python (raw.get "price") = some q)
    (h : jsonlPrice python raw = .ok m) : truncate (nearest (nearest q * 100)) = m := by
  have hthere : raw.get "price" ≠ .null := by
    intro hnull
    rw [hnull] at hwritten
    exact nomatch hwritten
  rw [jsonlPrice, hfalse, if_neg Bool.false_ne_true, getD_of_get hthere] at h
  cases hx : floatOf python (raw.get "price") with
  | error failure =>
      rw [hx] at h
      exact nomatch h
  | ok x =>
      rw [hx, floatOf_written hwritten hx] at h
      unfold rounded at h
      split_ifs at h with hfinite
      · have hproduct : intOfFloat (rounded (nearest q * (100 : ℕ))) = .ok m := h
        unfold rounded at hproduct
        split_ifs at hproduct with hfinite'
        · exact Except.ok.inj hproduct
        · exact nomatch hproduct
      · exact nomatch h

/-- The price of a line is told exactly where it is stated above zero, and exactly enough. -/
theorem jsonlPrice_iff {raw : Raw} {m : ℤ} (h : jsonlPrice python raw = .ok m) :
    (0 < m ∧ linePrice python raw = some m) ↔
      if (raw.get "price_minor").truthy then
        ∃ n, statedCount python (raw.get "price_minor") = some n ∧ 0 < n
      else given (raw.get "price_minor") = false ∧
        ∃ price, writtenPrice python (raw.get "price") = some price ∧ 0 < minorOf price ∧
          Exact price := by
  cases htruthy : (raw.get "price_minor").truthy with
  | true =>
      rw [if_pos rfl, linePrice, if_pos (given_of_truthy htruthy)]
      rw [jsonlPrice, if_pos htruthy] at h
      constructor
      · rintro ⟨hpos, hstated⟩
        exact ⟨m, hstated, hpos⟩
      · rintro ⟨n, hstated, hpos⟩
        obtain rfl := intOf_of_statedCount h hstated
        exact ⟨hpos, hstated⟩
  | false =>
      rw [if_neg Bool.false_ne_true, linePrice]
      cases hgiven : given (raw.get "price_minor") with
      | true =>
          rw [if_pos rfl]
          refine iff_of_false ?_ fun h => (nomatch h.1)
          rintro ⟨hpos, hstated⟩
          have := statedCount_falsy hgiven htruthy hstated
          omega
      | false =>
          rw [if_neg Bool.false_ne_true, and_iff_right rfl]
          constructor
          · rintro ⟨hpos, hstated⟩
            obtain ⟨price, hwritten, hminor⟩ := Option.map_eq_some_iff.1 hstated
            have hcut := jsonlPrice_of_written htruthy hwritten h
            refine ⟨price, hwritten, hminor ▸ hpos, ?_⟩
            rw [Exact, hminor]
            exact (truncate_eq_iff hpos).1 hcut
          · rintro ⟨price, hwritten, hpos, hexact⟩
            have hcut := jsonlPrice_of_written htruthy hwritten h
            have hminor : minorOf price = m := ((truncate_eq_iff hpos).2 hexact).symm.trans hcut
            rw [hwritten, Option.map_some, hminor]
            exact ⟨hminor ▸ hpos, rfl⟩

/-- The stock of a line is told exactly where it is not negative, and not a zero that ten is
taken for. -/
theorem jsonlStock_iff {raw : Raw} {c : ℤ} (h : jsonlStock python raw = .ok c) :
    (0 ≤ c ∧ ∀ n ∈ statedCount python (raw.get "stock"), c = n) ↔
      if (raw.get "stock").truthy then ∀ n, intOf python.chars (raw.get "stock") = .ok n → 0 ≤ n
      else ∀ n ∈ statedCount python (raw.get "stock"), n = 10 := by
  rw [jsonlStock, Json.orElse] at h
  cases htruthy : (raw.get "stock").truthy with
  | true =>
      rw [htruthy, if_pos rfl] at h
      rw [if_pos rfl]
      constructor
      · rintro ⟨hnonneg, -⟩ n hn
        obtain rfl := Except.ok.inj (h.symm.trans hn)
        exact hnonneg
      · intro hnonneg
        exact ⟨hnonneg c h, fun n hn => intOf_of_statedCount h hn⟩
  | false =>
      rw [htruthy, if_neg Bool.false_ne_true] at h
      obtain rfl : 10 = c := Except.ok.inj h
      rw [if_neg Bool.false_ne_true]
      refine ⟨fun h n hn => (h.2 n hn).symm, fun h => ⟨by omega, fun n hn => (h n hn).symm⟩⟩

/-- The offer of a line whose price and stock can be read. -/
theorem parseJsonlLine_eq_ok {raw : Raw} {o : Offer}
    (h : parseJsonlLine python merchantId index raw = .ok o) :
    jsonlPrice python raw = .ok o.unitPriceMinor ∧
      jsonlStock python raw = .ok o.availableStock := by
  rw [parseJsonlLine] at h
  cases hprice : jsonlPrice python raw with
  | error failure =>
      rw [hprice] at h
      exact nomatch h
  | ok m =>
      cases hstock : jsonlStock python raw with
      | error failure =>
          rw [hprice, hstock] at h
          exact nomatch h
      | ok c =>
          rw [hprice, hstock] at h
          obtain rfl := Except.ok.inj h
          exact ⟨rfl, rfl⟩

theorem told_jsonl_iff {raw : Raw} {o : Offer}
    (ho : parseJsonlLine python merchantId index raw = .ok o) :
    Told ⟨linePrice python raw, statedCount python (raw.get "stock")⟩ o ↔
      JsonlCareful python raw := by
  obtain ⟨hprice, hstock⟩ := parseJsonlLine_eq_ok ho
  rw [JsonlCareful, ← jsonlPrice_iff hprice, ← jsonlStock_iff hstock]
  exact ⟨fun h => ⟨⟨h.price_pos, h.price⟩, h.stock_nonneg, h.stock⟩,
    fun h => ⟨h.1.1, h.1.2, h.2.1, h.2.2⟩⟩

/-! ### Generic REST -/

/-- What `transform_raw_offer` reads of a record that it accepts. -/
theorem transformRawOffer_eq_ok {raw : Raw} {o : Offer}
    (h : transformRawOffer python merchantId raw = .ok o) :
    restPrice raw = .ok o.unitPriceMinor ∧
      intOf python.chars (restStock raw) = .ok o.availableStock := by
  rw [transformRawOffer] at h
  cases hprice : restPrice raw with
  | error failure =>
      rw [hprice] at h
      exact nomatch h
  | ok m =>
      cases hstock : intOf python.chars (restStock raw) with
      | error failure =>
          rw [hprice, hstock] at h
          exact nomatch h
      | ok c =>
          rw [hprice, hstock] at h
          cases hdelivery : intOf python.chars ((raw.get "delivery_days").orElse (.int 2)) with
          | error failure =>
              rw [hdelivery] at h
              exact nomatch h
          | ok days =>
              cases hreturn :
                  intOf python.chars ((raw.get "return_period_days").orElse (.int 14)) with
              | error failure =>
                  rw [hdelivery, hreturn] at h
                  exact nomatch h
              | ok period =>
                  rw [hdelivery, hreturn] at h
                  obtain rfl := Except.ok.inj h
                  exact ⟨rfl, rfl⟩

/-- The price of a record is the stated one exactly where it is an integer above zero. -/
theorem restPrice_iff {raw : Raw} {m : ℤ} (h : restPrice raw = .ok m) :
    (0 < m ∧ (raw.get "price_minor").int? = some m) ↔
      ∃ n, raw.get "price_minor" = .int n ∧ 0 < n := by
  rw [restPrice] at h
  split_ifs at h
  cases hvalue : raw.get "price_minor" with
  | int n =>
      simp only [hvalue] at h
      split_ifs at h
      obtain rfl := Except.ok.inj h
      constructor
      · exact fun h => ⟨n, rfl, h.1⟩
      · rintro ⟨k, hk, hpos⟩
        exact ⟨Json.int.inj hk ▸ hpos, rfl⟩
  | _ =>
      refine iff_of_false (fun h => by cases h.2) ?_
      rintro ⟨n, ⟨⟩, -⟩

theorem told_rest_iff {raw : Raw} {o : Offer}
    (ho : transformRawOffer python merchantId raw = .ok o) :
    Told ⟨(raw.get "price_minor").int?,
      (raw.firstGiven ["stock", "quantity", "inventory_level"]).bind (statedCount python)⟩ o ↔
      RestCareful python raw := by
  obtain ⟨hprice, hstock⟩ := transformRawOffer_eq_ok ho
  rw [RestCareful, ← restPrice_iff hprice]
  constructor
  · intro h
    refine ⟨⟨h.price_pos, h.price⟩, fun n hn => ?_, fun value hvalue _ n hn => ?_⟩
    · obtain rfl := Except.ok.inj (hstock.symm.trans hn)
      exact h.stock_nonneg
    · rw [hstock, h.stock n (Option.bind_eq_some_iff.2 ⟨value, hvalue, hn⟩)]
  · rintro ⟨⟨hpos, hstated⟩, hnonneg, hzero⟩
    refine ⟨hpos, hstated, hnonneg _ hstock, fun n hn => ?_⟩
    obtain ⟨value, hvalue, hcount⟩ := Option.bind_eq_some_iff.1 hn
    cases htruthy : value.truthy with
    | true =>
        have htaken : restStock raw = value := firstTrue_of_firstGiven hvalue htruthy
        rw [htaken] at hstock
        exact intOf_of_statedCount hstock hcount
    | false => exact Except.ok.inj (hstock.symm.trans (hzero value hvalue htruthy n hcount))

/-! ### All connectors -/

theorem mem_map_singleton {made : Except Failure Offer} {offers : List Offer}
    (h : (made.map fun o => [o]) = .ok offers) {o : Offer} : o ∈ offers ↔ made = .ok o := by
  cases made with
  | error failure => exact nomatch h
  | ok o' =>
      obtain rfl := Except.ok.inj h
      rw [List.mem_singleton, Except.ok.injEq, eq_comm]

/-- What a record makes are the offers that are emitted for it. -/
theorem mem_offers {record : Record} {offers : List Offer}
    (h : record.offers python merchantId index = .ok offers) {o : Offer} :
    o ∈ offers ↔ ∃ stated, Emitted python merchantId index record stated o := by
  cases record with
  | shopify raw =>
      cases raw with
      | obj items =>
          have hparsed : parseShopifyProduct python merchantId items = .ok offers := h
          rw [parseShopifyProduct] at hparsed
          cases hread : shopifyVariants items with
          | none =>
              rw [hread] at hparsed
              exact nomatch hparsed
          | some variants =>
              rw [hread] at hparsed
              obtain rfl := Except.ok.inj hparsed
              rw [List.mem_filterMap]
              constructor
              · rintro ⟨v, hv, ho⟩
                exact ⟨_, .shopify hread hv ho⟩
              · rintro ⟨stated, ⟨hread', hv, ho⟩⟩
                obtain rfl := Option.some.inj (hread.symm.trans hread')
                exact ⟨_, hv, ho⟩
      | _ => exact nomatch h
  | wooCommerce raw =>
      cases raw with
      | obj items =>
          have hparsed : parseWooCommerceProduct python merchantId items = .ok offers := h
          constructor
          · exact fun ho => ⟨_, .wooCommerce hparsed ho⟩
          · rintro ⟨stated, ⟨⟩⟩
            rename_i offers' hread ho
            obtain rfl := Except.ok.inj (hparsed.symm.trans hread)
            exact ho
      | _ => exact nomatch h
  | csv row =>
      rw [mem_map_singleton (h : (parseCsvRow python merchantId index row).map _ = .ok offers)]
      constructor
      · exact fun ho => ⟨_, .csv ho⟩
      · rintro ⟨stated, ⟨⟩⟩
        assumption
  | jsonl raw =>
      cases raw with
      | obj items =>
          rw [mem_map_singleton (h : (parseJsonlLine python merchantId index items).map _ = _)]
          constructor
          · exact fun ho => ⟨_, .jsonl ho⟩
          · rintro ⟨stated, ⟨⟩⟩
            assumption
      | _ => exact nomatch h
  | rest raw =>
      cases raw with
      | obj items =>
          rw [mem_map_singleton (h : (transformRawOffer python merchantId items).map _ = _)]
          constructor
          · exact fun ho => ⟨_, .rest ho⟩
          · rintro ⟨stated, ⟨⟩⟩
            assumption
      | _ => exact nomatch h

/-- What comes of a list comes of one of its items. -/
theorem of_mem_mapM {α β ε : Type} {f : α → Except ε β} {items : List α} {results : List β}
    (h : items.mapM f = .ok results) {b : β} (hb : b ∈ results) : ∃ a ∈ items, f a = .ok b := by
  induction items generalizing results with
  | nil =>
      obtain rfl : [] = results := Except.ok.inj h
      exact nomatch hb
  | cons a items ih =>
      rw [List.mapM_cons] at h
      cases ha : f a with
      | error failure =>
          rw [ha] at h
          exact nomatch h
      | ok c =>
          cases hrest : items.mapM f with
          | error failure =>
              rw [ha, hrest] at h
              exact nomatch h
          | ok rest =>
              rw [ha, hrest] at h
              obtain rfl : c :: rest = results := Except.ok.inj h
              rcases List.mem_cons.1 hb with rfl | hb
              · exact ⟨a, List.mem_cons_self, ha⟩
              · obtain ⟨a', ha', hb'⟩ := ih hrest hb
                exact ⟨a', List.mem_cons_of_mem _ ha', hb'⟩

/-- Every offer of a feed is emitted for one of its records. -/
theorem emitted_of_mem_feedOffers {records : List Record} {offers : List Offer}
    (h : feedOffers python merchantId records = .ok offers) {o : Offer} (ho : o ∈ offers) :
    ∃ record ∈ records, ∃ k stated, Emitted python merchantId k record stated o := by
  rw [feedOffers] at h
  cases hmade : records.zipIdx.mapM fun entry : Record × ℕ =>
      entry.1.offers python merchantId entry.2 with
  | error failure =>
      rw [hmade] at h
      exact nomatch h
  | ok made =>
      rw [hmade] at h
      obtain rfl := Except.ok.inj h
      obtain ⟨part, hpart, ho⟩ := List.mem_flatten.1 ho
      obtain ⟨⟨record, k⟩, hentry, hoffers⟩ := of_mem_mapM hmade hpart
      obtain ⟨stated, hemitted⟩ := (mem_offers hoffers).1 ho
      exact ⟨record, List.fst_mem_of_mem_zipIdx hentry, k, stated, hemitted⟩

/-- **A record tells its offers exactly where it is careful**: for every record of every
connector. -/
theorem offers_told_iff (python : Python) (merchantId : String) (index : ℕ) (record : Record) :
    (∀ stated o, Emitted python merchantId index record stated o → Told stated o) ↔
      Careful python merchantId index record := by
  cases record with
  | shopify raw =>
      constructor
      · rintro h items variants rfl hread v hv hsellable
        obtain ⟨o, ho⟩ := variantOffer_eq_some.2 hsellable
        exact (told_variant_iff ho).1 (h _ _ (.shopify hread hv ho))
      · rintro h stated o ⟨hread, hv, ho⟩
        exact (told_variant_iff ho).2 (h _ _ rfl hread _ hv (variantOffer_eq_some.1 ⟨o, ho⟩))
  | wooCommerce raw =>
      constructor
      · rintro h items rfl hreads
        cases hoffers : parseWooCommerceProduct python merchantId items with
        | error failure =>
            rw [parseWooCommerceProduct] at hoffers
            simp only [if_pos hreads] at hoffers
            exact nomatch hoffers
        | ok offers =>
            exact (told_wooCommerce_iff hoffers).1 fun o ho => h _ _ (.wooCommerce hoffers ho)
      · rintro h stated o ⟨⟩
        rename_i raw offers hread ho
        exact (told_wooCommerce_iff hread).2
          (h raw rfl (parseWooCommerceProduct_eq_ok hread).1) o ho
  | csv row =>
      rw [Careful, ← @told_csv_iff python merchantId index]
      constructor
      · exact fun h o ho => h _ _ (.csv ho)
      · rintro h stated o ⟨⟩
        rename_i ho
        exact h o ho
  | jsonl raw =>
      constructor
      · rintro h items rfl hok
        cases ho : parseJsonlLine python merchantId index items with
        | error failure =>
            rw [ho] at hok
            exact nomatch hok
        | ok o => exact (told_jsonl_iff ho).1 (h _ _ (.jsonl ho))
      · rintro h stated o ⟨⟩
        rename_i raw ho
        exact (told_jsonl_iff ho).2 (h raw rfl (by rw [ho]; rfl))
  | rest raw =>
      constructor
      · rintro h items rfl hok
        cases ho : transformRawOffer python merchantId items with
        | error failure =>
            rw [ho] at hok
            exact nomatch hok
        | ok o => exact (told_rest_iff ho).1 (h _ _ (.rest ho))
      · rintro h stated o ⟨⟩
        rename_i raw ho
        exact (told_rest_iff ho).2 (h raw rfl (by rw [ho]; rfl))

/-! ### A line that is sold out -/

/-- Python on ASCII texts. -/
def asciiPython : Python where
  chars := Money.asciiCharset
  repr _ := ""
  upper text := text

/-- A line with a stock of zero. -/
def soldOut : Raw := [("product_id", .str "prd_1"), ("price_minor", .int 500), ("stock", .int 0)]

/-- The offer that is made of it. -/
def offerOfSoldOut : Offer where
  offerId := "ofr_1"
  productId := "prd_1"
  merchantId := "mer_1"
  unitPriceMinor := 500
  currency := .str "INR"
  availableStock := 10

/-- A line that states a stock of zero makes an offer that has ten. -/
theorem sold_out_offers_ten : ¬∀ stated o,
    Emitted asciiPython "mer_1" 0 (.jsonl (.obj soldOut)) stated o → Told stated o := by
  intro h
  have hmade : parseJsonlLine asciiPython "mer_1" 0 soldOut = .ok offerOfSoldOut := rfl
  have hten : (10 : ℤ) = 0 := (h _ _ (.jsonl hmade)).stock 0 rfl
  omega

end Connectors
end AgenticCommerce
