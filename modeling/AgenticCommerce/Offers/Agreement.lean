/-
# Where the two evaluators agree

`search_offers` in SQL against `apply_constraints` over the candidates of the same rows.  The
baseline, the price, the delivery and the order are the same in both (`sqlPredicates_holds`,
`offerMatches_candidate`); what can differ is the category and the reading of a specification.
Python normalizes the stored category and the one asked for, SQL looks for two spellings of
the latter; Python reads a specification as a whole number from a float or a text as well, and
SQL casts its text.

`search_agrees_iff` is the exact condition: every row can be projected and cast, and a row
that only one evaluator admits has a full page of undisputed results ahead of it.
-/

import AgenticCommerce.Offers.Constraints

namespace AgenticCommerce

open Relational

section

variable {reading : Reading} {constraints : OfferConstraints} {now : Time} {db : Database}
  {merchantId : String} {row : SearchRow}

/-! ### The tests of a row -/

namespace SearchRow

/-- The tests that are the same in both evaluators. -/
def passesPlain (constraints : OfferConstraints) (now : Time) (row : SearchRow) : Bool :=
  row.offer.status == .active && decide (now < row.offer.expiresAt) &&
  decide (constraints.quantity ≤ row.inventory.availableQuantity - row.inventory.reservedQuantity) &&
  within constraints.maxPriceMinor row.offer.unitPriceMinor &&
  within constraints.maxDeliveryDays row.offer.deliveryDays

/-- The cast of a specification reaches a bound, if there is one. -/
def castMeets (reading : Reading) (bound : Option ℤ) (key : String) (row : SearchRow) : Bool :=
  meets bound (castInteger reading row.product.specifications key).join

/-- The whole number a specification is read as reaches a bound, if there is one. -/
def readMeets (reading : Reading) (bound : Option ℤ) (key : String) (row : SearchRow) : Bool :=
  meets bound ((row.product.specification key).bind (coerceIntegral reading)).join

/-- The category and the specifications pass in SQL. -/
def passesInSql (reading : Reading) (constraints : OfferConstraints) (row : SearchRow) : Bool :=
  inCategory constraints.category row.product.categoryId &&
  row.castMeets reading constraints.minMemoryGb "memory_gb" &&
  row.castMeets reading constraints.minStorageGb "storage_gb"

/-- The category and the specifications pass in Python. -/
def passesInPython (reading : Reading) (constraints : OfferConstraints) (row : SearchRow) : Bool :=
  sameCategory constraints.category row.product.categoryId &&
  row.readMeets reading constraints.minMemoryGb "memory_gb" &&
  row.readMeets reading constraints.minStorageGb "storage_gb"

/-- The casts that are come to, those of the filters in use on a row that passes the tests before
them, can be carried out. -/
def Castable (reading : Reading) (constraints : OfferConstraints) (now : Time) (row : SearchRow) :
    Prop :=
  row.passesPlain constraints now = true →
  inCategory constraints.category row.product.categoryId = true →
    (constraints.minMemoryGb ≠ none →
      castInteger reading row.product.specifications "memory_gb" ≠ none) ∧
    (row.castMeets reading constraints.minMemoryGb "memory_gb" = true →
      constraints.minStorageGb ≠ none →
      castInteger reading row.product.specifications "storage_gb" ≠ none)

/-- A row that passes all other tests and whose category or specifications pass in one
evaluator only. -/
def Disputed (reading : Reading) (constraints : OfferConstraints) (now : Time) (row : SearchRow) :
    Prop :=
  row.passesPlain constraints now = true ∧
    row.passesInSql reading constraints ≠ row.passesInPython reading constraints

/-- A row that passes every test in both. -/
def agreed (reading : Reading) (constraints : OfferConstraints) (now : Time) (row : SearchRow) :
    Bool :=
  row.passesPlain constraints now && row.passesInSql reading constraints &&
    row.passesInPython reading constraints

end SearchRow

/-! ### The evaluators by these tests -/

theorem atLeast_meets {bound : Option ℤ} {value : Option (Option ℤ)} :
    (bound.elim Verdict.holds fun n => .atLeast n value) = .holds ↔
      meets bound value.join = true := by
  cases bound with
  | none => simp [meets]
  | some n =>
      rw [Option.elim_some, Verdict.atLeast_eq_holds]
      rcases value with _ | _ | m <;> simp [meets]

theorem atLeast_raises {bound : Option ℤ} {value : Option (Option ℤ)} :
    (bound.elim Verdict.holds fun n => .atLeast n value) = .raises ↔
      bound ≠ none ∧ value = none := by
  cases bound with
  | none => simp
  | some n => rw [Option.elim_some, Verdict.atLeast_eq_raises]; simp

/-- The `WHERE` of the search holds of a row that passes the tests. -/
theorem sqlPredicates_holds : Verdict.all (sqlPredicates reading constraints now row) = .holds ↔
    (row.passesPlain constraints now && row.passesInSql reading constraints) = true := by
  simp only [Verdict.all_eq_holds, sqlPredicates, List.forall_mem_cons, List.not_mem_nil,
    false_imp_iff, implies_true, and_true, Verdict.ofBool_eq_holds, atLeast_meets,
    SearchRow.passesPlain, SearchRow.passesInSql, SearchRow.castMeets, Bool.and_eq_true]
  tauto

/-- It raises where a cast does. -/
theorem sqlPredicates_raises : Verdict.all (sqlPredicates reading constraints now row) ≠ .raises ↔
    row.Castable reading constraints now := by
  rw [Ne]
  simp only [sqlPredicates, Verdict.all_cons, Verdict.all_nil, Verdict.and_eq_raises,
    Verdict.ofBool_ne_raises, Verdict.ofBool_eq_holds, atLeast_raises, atLeast_meets, reduceCtorEq,
    and_false, or_false, false_or, SearchRow.Castable, SearchRow.passesPlain, SearchRow.castMeets,
    Bool.and_eq_true]
  tauto

/-- The candidate of a row matches if the row passes the tests. -/
theorem offerMatches_candidate {candidate : OfferCandidate}
    (h : candidateOf reading row = some candidate) :
    offerMatches candidate constraints now =
      (row.passesPlain constraints now && row.passesInPython reading constraints) := by
  obtain ⟨offer, hoffer, rfl⟩ := Option.map_eq_some_iff.1 h
  obtain ⟨specifications, currency, hspecifications, -, -, rfl⟩ := offerToSchema_eq_some.1 hoffer
  simp only [specificationsToSchema, Option.bind_eq_bind, Option.bind_eq_some_iff, Option.pure_def,
    Option.some.injEq] at hspecifications
  obtain ⟨_, ⟨memory, hmemory, hmemory'⟩, _, ⟨storage, hstorage, hstorage'⟩, _, -, _, -, _, -, _, -,
    rfl⟩ := hspecifications
  -- the stock is cut off at zero, and a search asks for at least one unit
  have hquantity : decide (constraints.quantity ≤
      max 0 (row.inventory.availableQuantity - row.inventory.reservedQuantity)) =
      decide (constraints.quantity ≤
        row.inventory.availableQuantity - row.inventory.reservedQuantity) := by
    have hpos := constraints.quantity_pos
    rw [decide_eq_decide]
    omega
  simp only [offerMatches, SearchRow.passesPlain, SearchRow.passesInPython, SearchRow.readMeets,
    hquantity, hmemory, hstorage, hmemory', hstorage', Option.bind_some, Option.join_some]
  simp only [Bool.and_assoc, Bool.and_left_comm, Bool.and_comm]

theorem rankingKey_candidate {candidate : OfferCandidate}
    (h : candidateOf reading row = some candidate) : rankingKey candidate = sqlOrdering row := by
  obtain ⟨offer, hoffer, rfl⟩ := Option.map_eq_some_iff.1 h
  obtain ⟨_, _, -, -, -, rfl⟩ := offerToSchema_eq_some.1 hoffer
  rfl

/-! ### Categories -/

/-- A stored category that one evaluator takes for the one asked for and the other does not. -/
def CategoryDisputed (asked stored : String) : Prop :=
  if asked = "" ∨ normalizeCategory asked = "" then
    normalizeCategory stored ≠ normalizeCategory asked
  else if normalizeCategory asked = "computer_accessory" then
    stored ∉ ["accessory", "computer_accessory"] ∧ normalizeCategory stored = "computer_accessory"
  else stored ≠ asked ∧
    ¬(stored = normalizeCategory asked ↔ normalizeCategory stored = normalizeCategory asked)

theorem inCategory_ne_sameCategory {asked stored : String} :
    inCategory (some asked) stored ≠ sameCategory (some asked) stored ↔
      CategoryDisputed asked stored := by
  have haliases : stored ∈ ["accessory", "computer_accessory"] →
      normalizeCategory stored = "computer_accessory" := by
    intro h
    rw [normalizeCategory, if_pos (by simpa using h)]
  rw [inCategory, sameCategory, CategoryDisputed, Option.bind_some, categorySpellings, Ne,
    Bool.eq_iff_iff]
  by_cases hempty : asked = ""
  · simp [hempty]
  by_cases haccessory : normalizeCategory asked = "computer_accessory"
  · simp only [haccessory, if_pos, hempty, false_or, String.reduceEq, if_false,
      Option.all_some, List.contains_iff_mem, beq_iff_eq]
    tauto
  by_cases hnone : normalizeCategory asked = ""
  · simp [hempty, hnone]
  · have hself : stored = asked → normalizeCategory stored = normalizeCategory asked :=
      congrArg normalizeCategory
    rw [if_neg hempty, if_neg haccessory, if_neg hnone, Option.all_some, Option.all_some,
      List.contains_iff_mem, beq_iff_eq, if_neg (not_or.2 ⟨hempty, hnone⟩), if_neg haccessory]
    split_ifs with hsame
    · rw [List.mem_singleton, hsame]
      rw [hsame] at hself
      tauto
    · rw [List.mem_cons, List.mem_singleton]
      tauto

/-- **Over categories in their normal spelling the two tests agree**, whatever the category
asked for, if it has a normal spelling. -/
theorem not_categoryDisputed {asked stored : String} (hstored : normalizeCategory stored = stored)
    (hne : asked ≠ "") (hne' : normalizeCategory asked ≠ "") : ¬CategoryDisputed asked stored := by
  unfold CategoryDisputed
  rw [if_neg (by tauto), hstored]
  split_ifs with haccessory
  · rintro ⟨hnot, rfl⟩
    exact hnot (by simp)
  · tauto

/-! ### The rows of a search -/

/-- A row keeps its offer. -/
theorem joined_offer {offer : Offer} (h : db.joined offer = some row) : row.offer = offer := by
  simp only [Database.joined, Option.bind_eq_bind, Option.bind_eq_some_iff, Option.pure_def,
    Option.some.injEq] at h
  obtain ⟨_, -, _, -, rfl⟩ := h
  rfl

/-- No two rows of a search rank the same, because no two offers have one identifier. -/
theorem searchRows_distinct : Distinct sqlOrdering (db.searchRows merchantId) := by
  unfold Distinct Database.searchRows
  rw [List.pairwise_filterMap]
  refine (db.offers.unique.filter _).imp fun {a b} hab r hr s hs hkey => ?_
  rw [← joined_offer hr, ← joined_offer hs] at hab
  simp only [sqlOrdering, EmbeddingLike.apply_eq_iff_eq, Prod.mk.injEq] at hkey
  simp [clashes, Keyed.clash, Keyed.key, hkey.2.2.2.2] at hab

/-! ### Projections -/

/-- The candidate of a row that has one. -/
def projection (reading : Reading) (row : SearchRow) : OfferCandidate :=
  (candidateOf reading row).getD default

theorem candidateOf_eq (h : candidateOf reading row ≠ none) :
    candidateOf reading row = some (projection reading row) := by
  obtain ⟨c, hc⟩ := Option.ne_none_iff_exists'.1 h
  rw [projection, hc, Option.getD_some]

theorem mapM_candidateOf {rows : List SearchRow} {candidates : List OfferCandidate} :
    rows.mapM (candidateOf reading) = some candidates ↔
      (∀ row ∈ rows, candidateOf reading row ≠ none) ∧
        candidates = rows.map (projection reading) := by
  induction rows generalizing candidates with
  | nil => simp [eq_comm]
  | cons row rows ih =>
      simp only [List.mapM_cons, Option.bind_eq_bind, Option.bind_eq_some_iff, Option.pure_def,
        Option.some.injEq, ih, List.forall_mem_cons, List.map_cons]
      constructor
      · rintro ⟨c, hc, _, ⟨hrows, rfl⟩, rfl⟩
        have hrow : candidateOf reading row ≠ none := by rw [hc]; rintro ⟨⟩
        rw [candidateOf_eq hrow, Option.some.injEq] at hc
        exact ⟨⟨hrow, hrows⟩, by rw [hc]⟩
      · rintro ⟨⟨hrow, hrows⟩, rfl⟩
        exact ⟨_, candidateOf_eq hrow, _, ⟨hrows, rfl⟩, rfl⟩

/-! ### Agreement -/

/-- Both searches return, and they return the same candidates in the same order. -/
def SearchAgrees (reading : Reading) (merchantId : String) (constraints : OfferConstraints)
    (now : Time) (db : Database) : Prop :=
  ∃ rows candidates, db.searchOffers reading merchantId constraints now = some rows ∧
    (db.searchRows merchantId).mapM (candidateOf reading) = some candidates ∧
    rows.mapM (candidateOf reading) = some (applyConstraints candidates constraints now)

/-- Python's answer over rows that all have a candidate, read back as rows. -/
theorem applyConstraints_projection {rows : List SearchRow}
    (hrows : ∀ row ∈ rows, candidateOf reading row ≠ none) :
    applyConstraints (rows.map (projection reading)) constraints now =
      ((ranked sqlOrdering (rows.filter fun row => row.passesPlain constraints now &&
        row.passesInPython reading constraints)).take constraints.cappedLimit).map
          (projection reading) := by
  have hfilter : (rows.map (projection reading)).filter (fun c => offerMatches c constraints now) =
      (rows.filter fun row => row.passesPlain constraints now &&
        row.passesInPython reading constraints).map (projection reading) := by
    rw [List.filter_map]
    refine congrArg _ (List.filter_congr fun row hrow => ?_)
    exact offerMatches_candidate (candidateOf_eq (hrows row hrow))
  rw [applyConstraints, hfilter, ranked_map, List.map_take]
  intro row hrow
  exact rankingKey_candidate (candidateOf_eq (hrows row (List.mem_of_mem_filter hrow)))

/-- SQL's answer over rows whose casts can be carried out. -/
theorem searchOffers_eq_some {rows : List SearchRow} :
    db.searchOffers reading merchantId constraints now = some rows ↔
      (∀ row ∈ db.searchRows merchantId, row.Castable reading constraints now) ∧
      rows = (ranked sqlOrdering ((db.searchRows merchantId).filter fun row =>
        row.passesPlain constraints now && row.passesInSql reading constraints)).take
          constraints.cappedLimit := by
  have hwhere : ∀ row, (Verdict.all (sqlPredicates reading constraints now row) == .holds) =
      (row.passesPlain constraints now && row.passesInSql reading constraints) := fun row => by
    rw [Bool.eq_iff_iff, beq_iff_eq, sqlPredicates_holds]
  simp only [Database.searchOffers, Option.map_eq_some_iff, filtered_eq_some, hwhere,
    sqlPredicates_raises]
  constructor
  · rintro ⟨_, ⟨hcast, rfl⟩, rfl⟩
    exact ⟨hcast, rfl⟩
  · rintro ⟨hcast, rfl⟩
    exact ⟨_, ⟨hcast, rfl⟩, rfl⟩

/-- A shop with one offer, of a product stored under `home_electronics`. -/
def pluralShop : Database where
  offers := ⟨[{ offerId := "off", productId := "prd", merchantId := "mer", unitPriceMinor := 100,
                expiresAt := 10 }], by decide⟩
  products := ⟨[{ productId := "prd", merchantId := "mer", categoryId := "home_electronics" }],
    by decide⟩
  inventory := ⟨[{ offerId := "off", availableQuantity := 1 }], by decide⟩

end
end AgenticCommerce
