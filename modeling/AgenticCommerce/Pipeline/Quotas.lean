/-
# The selection is the top of each subcategory

`stage_select` of `pipeline/build_catalog.py` writes, of every subcategory, as many candidates as
its quota and the supply allow, and those are the first by score, rating count and identifier
(`ExactTop`).

`parse_currency_minor` says that it returns `None` for what it cannot parse.  A decimal of more
than 28 digits makes `quantize` raise instead, and so does an infinite price, which stage 1 keeps
where a source says `inf` or `1e999`.  One such candidate among those that are selected ends the
stage before its report (`stageSelect_exact_iff`).
-/

import AgenticCommerce.Pipeline.Selection

namespace AgenticCommerce
namespace Pipeline

open Relational Program Work

/-! ### Prices -/

/-- `ROUND_HALF_UP` to an integer, of a positive number. -/
def roundHalfUp (q : ℚ) : ℤ := ⌊q + 1 / 2⌋

/-- What has more digits than the precision of the decimal context. -/
def tooLong : ℤ := 10 ^ 28

/-- `parse_currency_minor` of a float in dollars, where `decimal` is the number that the `str` of a
float writes.  An infinity is larger than zero, and NaN cannot be compared with it. -/
def parseCurrencyMinor (decimal : ℚ → ℚ) : PyFloat → Except Failure (Option ℤ)
  | .finite q =>
      if decimal q ≤ 0 then .ok none
      else if tooLong ≤ roundHalfUp (decimal q * 100) then .error (.exception "InvalidOperation")
      else .ok (some (roundHalfUp (decimal q * 100)))
  | .infinite negative => if negative then .ok none else .error (.exception "InvalidOperation")
  | .nan => .error (.exception "InvalidOperation")

/-- A price is missing, or can be written in cents. -/
def Convertible (decimal : ℚ → ℚ) : Option PyFloat → Prop
  | none => True
  | some (.finite q) => roundHalfUp (decimal q * 100) < tooLong
  | some (.infinite negative) => negative = true
  | some .nan => False

section

variable {config : Config} {decimal : ℚ → ℚ}

/-- What is not positive has no digits too many. -/
theorem roundHalfUp_lt_tooLong {q : ℚ} (h : q ≤ 0) : roundHalfUp (q * 100) < tooLong := by
  have hle : roundHalfUp (q * 100) ≤ 0 := by
    rw [roundHalfUp]
    have hlt : ⌊q * 100 + 1 / 2⌋ < 1 := Int.floor_lt.2 (by push_cast; linarith)
    omega
  exact hle.trans_lt (by decide)

/-- **A price is converted** unless it is infinite or too long. -/
theorem sourcePriceReference_ok_iff (htools : config.tools.parseCurrencyMinor =
    parseCurrencyMinor decimal) (price : Option PyFloat) :
    (∃ reference, sourcePriceReference config.tools price = .ok reference) ↔
      Convertible decimal price := by
  have hbind : (∃ reference, sourcePriceReference config.tools price = .ok reference) ↔
      ∃ minor, price.elim (.ok none) (parseCurrencyMinor decimal) = .ok minor := by
    unfold sourcePriceReference
    rw [htools]
    cases price.elim (.ok none) (parseCurrencyMinor decimal) with
    | error e => exact ⟨fun ⟨_, h⟩ => (nomatch h), fun ⟨_, h⟩ => (nomatch h)⟩
    | ok minor => exact ⟨fun _ => ⟨minor, rfl⟩, fun _ => ⟨_, rfl⟩⟩
  rw [hbind]
  rcases price with _ | q | negative | _
  · exact ⟨fun _ => trivial, fun _ => ⟨none, rfl⟩⟩
  · show (∃ minor, parseCurrencyMinor decimal (.finite q) = .ok minor) ↔
      roundHalfUp (decimal q * 100) < tooLong
    unfold parseCurrencyMinor
    dsimp only
    split_ifs with hzero hlong
    · exact ⟨fun _ => roundHalfUp_lt_tooLong hzero, fun _ => ⟨none, rfl⟩⟩
    · exact ⟨fun ⟨_, h⟩ => (nomatch h), fun h => absurd hlong (not_le.2 h)⟩
    · exact ⟨fun _ => not_le.1 hlong, fun _ => ⟨_, rfl⟩⟩
  · cases negative
    · exact ⟨fun ⟨_, h⟩ => (nomatch h), fun h => nomatch h⟩
    · exact ⟨fun _ => rfl, fun _ => ⟨none, rfl⟩⟩
  · exact ⟨fun ⟨_, h⟩ => (nomatch h), fun h => h.elim⟩

/-- A product can be built of the candidate. -/
def Buildable (config : Config) (decimal : ℚ → ℚ) (row : Candidate) : Prop :=
  asOptionalStr config.py (.str row.parentAsin) ≠ none ∧ Convertible decimal row.priceUsd

/-- `build_product` returns, and so there is a line. -/
theorem productLine_ok_iff (htools : config.tools.parseCurrencyMinor = parseCurrencyMinor decimal)
    (row : Candidate) : (∃ line, productLine config row = .ok line) ↔
      Buildable config decimal row := by
  rw [Buildable, ← sourcePriceReference_ok_iff htools, productLine, buildProduct, deriveProductId]
  cases asOptionalStr config.py (.str row.parentAsin) with
  | none =>
      constructor
      · rintro ⟨_, ⟨⟩⟩
      · exact fun h => absurd rfl h.1
  | some key =>
      cases sourcePriceReference config.tools row.priceUsd with
      | error e =>
          constructor
          · rintro ⟨_, ⟨⟩⟩
          · rintro ⟨_, _, ⟨⟩⟩
      | ok reference => exact ⟨fun _ => ⟨Option.some_ne_none key, _, rfl⟩, fun _ => ⟨_, rfl⟩⟩

end

/-! ### What a selection is -/

/-- **The exact top of a subcategory**: as many as the quota and the supply allow, in the order of
the ranks, and nothing that is left ranks before. -/
structure ExactTop (candidates : List Candidate) (quota : String × ℤ) (rows : List Candidate) :
    Prop where
  length : (rows.length : ℤ) = min quota.2 (availableCount candidates quota.1)
  ordered : rows.Pairwise fun a b => a.rank < b.rank
  members : ∀ row ∈ rows, row ∈ inSubcategory candidates quota.1
  rest : ∀ row ∈ inSubcategory candidates quota.1, row ∉ rows → ∀ top ∈ rows, top.rank < row.rank

/-- What is reported of a quota and what was selected under it. -/
structure Reports (candidates : List Candidate) (selection : (String × ℤ) × List Candidate)
    (outcome : QuotaOutcome) : Prop where
  subcategory : outcome.subcategory = selection.1.1
  quota : (outcome.quota : ℤ) = selection.1.2
  available : outcome.available = availableCount candidates selection.1.1
  selected : outcome.selected = selection.2.length
  shortfall : (outcome.shortfall : ℤ) = selection.1.2 - selection.2.length

/-- What `stage_select` has written when it returns: the tops of the subcategories, as lines of
`products.jsonl`, and the outcomes. -/
structure ExactSelection (config : Config) (candidates : List Candidate)
    (tops : List (List Candidate)) (result : SelectionResult) (d : Disk) : Prop where
  exact : List.Forall₂ (ExactTop candidates) config.quotas tops
  once : (tops.flatten.map Candidate.parentAsin).Nodup
  written : ∃ lines, tops.flatten.mapM (productLine config) = .ok lines ∧
    d.productsJsonl = some lines
  reported : List.Forall₂ (Reports candidates) (config.quotas.zip tops) result.outcomes
  recorded : ∀ outcome ∈ result.outcomes,
    d.db.selectionQuota outcome.subcategory = some outcome

/-- A run of `stage_select` returns what it should. -/
def SelectsExactly (config : Config) (cap : Option ℕ) (force : Bool) (d : Disk) : Prop :=
  ∃ tops result j, (stageSelect config).run cap force { state := d } = .ok (true, result) j ∧
    ExactSelection config d.db.candidates tops result j.state

/-! ### The tops -/

section

variable {candidates : List Candidate}

/-- The candidates that a quota selects. -/
def topOf (candidates : List Candidate) (quota : String × ℤ) : List Candidate :=
  (ranked Candidate.rank (inSubcategory candidates quota.1)).take quota.2.toNat

/-- `parent_asin` is the primary key of the table, so no two candidates have one rank. -/
theorem distinct_rank (hkey : (candidates.map Candidate.parentAsin).Nodup) (subcategory : String) :
    Distinct Candidate.rank (inSubcategory candidates subcategory) := by
  have hasins : candidates.Pairwise fun a b => a.parentAsin ≠ b.parentAsin :=
    List.pairwise_map.1 hkey
  refine (hasins.filter _).imp fun hne hrank => hne ?_
  exact congrArg (fun key => (ofLex (ofLex key).2).2) hrank

/-- **The candidates that a quota selects are the exact top.** -/
theorem exactTop_topOf (hkey : (candidates.map Candidate.parentAsin).Nodup) {quota : String × ℤ}
    (hquota : 0 ≤ quota.2) : ExactTop candidates quota (topOf candidates quota) := by
  have hdistinct := distinct_rank hkey quota.1
  refine ⟨?_, hdistinct.ranked_lt.sublist (List.take_sublist _ _), fun row hrow => ?_,
    fun row hrow hcut => (hdistinct.lt_of_not_mem_take hrow hcut).2⟩
  · have hlength : (ranked Candidate.rank (inSubcategory candidates quota.1)).length =
        availableCount candidates quota.1 := List.length_insertionSort _ _
    rw [topOf, List.length_take, hlength]
    omega
  · exact mem_ranked.1 (List.mem_of_mem_take hrow)

/-- No candidate is selected twice. -/
theorem tops_once (hkey : (candidates.map Candidate.parentAsin).Nodup) :
    ∀ quotas : List (String × ℤ), (quotas.map Prod.fst).Nodup →
      ((quotas.map (topOf candidates)).flatten.map Candidate.parentAsin).Nodup
  | [], _ => List.nodup_nil
  | quota :: quotas, hquotas => by
      obtain ⟨hfirst, hrest⟩ := List.nodup_cons.1 hquotas
      have hmem {q : String × ℤ} {row : Candidate} (hrow : row ∈ topOf candidates q) :
          row ∈ candidates ∧ row.subcategory = q.1 := by
        obtain ⟨hrow, hsubcategory⟩ :=
          List.mem_filter.1 (mem_ranked.1 (List.mem_of_mem_take hrow))
        exact ⟨hrow, of_decide_eq_true hsubcategory⟩
      rw [List.map_cons, List.flatten_cons, List.map_append, List.nodup_append]
      refine ⟨?_, tops_once hkey quotas hrest, ?_⟩
      · have hasins : ((inSubcategory candidates quota.1).map Candidate.parentAsin).Nodup :=
          List.pairwise_map.2 ((List.pairwise_map.1 hkey).filter _)
        have hranked : ((ranked Candidate.rank (inSubcategory candidates quota.1)).map
            Candidate.parentAsin).Nodup := ((List.perm_insertionSort _ _).map _).nodup_iff.2 hasins
        exact hranked.sublist ((List.take_sublist _ _).map _)
      · intro asin hasin other hother heq
        obtain ⟨row, hrow, rfl⟩ := List.mem_map.1 hasin
        obtain ⟨row', hrow', rfl⟩ := List.mem_map.1 hother
        obtain ⟨_, htop, hrow'⟩ := List.mem_flatten.1 hrow'
        obtain ⟨quota', hquota', rfl⟩ := List.mem_map.1 htop
        -- candidates with one identifier are one candidate, which has one subcategory
        have hsame : row = row' :=
          List.inj_on_of_nodup_map hkey (hmem hrow).1 (hmem hrow').1 heq
        refine hfirst (List.mem_map.2 ⟨quota', hquota', ?_⟩)
        rw [← (hmem hrow).2, hsame, (hmem hrow').2]

end

/-! ### The run -/

section

variable {config : Config} {candidates : List Candidate}

/-- What is reported of a quota. -/
def quotaOutcome (candidates : List Candidate) (quota : String × ℤ) : QuotaOutcome where
  subcategory := quota.1
  quota := quota.2.toNat
  available := availableCount candidates quota.1
  selected := (topOf candidates quota).length

theorem selectForSubcategory_eq {quota : String × ℤ} (h : 0 ≤ quota.2) :
    selectForSubcategory candidates quota.1 quota.2 = .ok (topOf candidates quota) :=
  if_neg (not_lt.2 h)

/-- The inner loop returns when every row has a line. -/
theorem selectRows_returns {rows : List Candidate}
    (hrows : ∀ row ∈ rows, ∃ line, productLine config row = .ok line) (n : ℕ) (j : Journal Disk) :
    ∃ j', rows.foldlM (selectRow config) n j = .ok (n + rows.length) j' ∧
      j'.state.candidatesDb = j.state.candidatesDb := by
  induction rows generalizing n j with
  | nil => exact ⟨j, rfl, rfl⟩
  | cons row rows ih =>
      obtain ⟨line, hline⟩ := hrows row List.mem_cons_self
      rw [productLine] at hline
      cases hproduct : buildProduct config.py config.tools row with
      | error e =>
          rw [hproduct] at hline
          cases hline
      | ok product =>
          have hrow : ∃ j', selectRow config n row j = .ok (n + 1) j' ∧
              j'.state.candidatesDb = j.state.candidatesDb := by
            unfold selectRow
            rw [hproduct]
            exact ⟨_, rfl, rfl⟩
          obtain ⟨j', hrow, hdb⟩ := hrow
          obtain ⟨j'', hloop, hdb'⟩ :=
            ih (fun row h => hrows row (List.mem_cons_of_mem _ h)) (n + 1) j'
          refine ⟨j'', ?_, hdb'.trans hdb⟩
          rw [List.foldlM_cons, Work.bind_of_ok hrow, hloop, List.length_cons, Nat.add_right_comm]
          rfl

/-- A subcategory returns when every row of its top has a line. -/
theorem selectSubcategory_returns {quota : String × ℤ} {j : Journal Disk} (hquota : 0 ≤ quota.2)
    (hrows : ∀ row ∈ topOf j.state.db.candidates quota, ∃ line, productLine config row = .ok line)
    (result : SelectionResult) :
    ∃ result' j', selectSubcategory config result quota j = .ok result' j' ∧
      result'.outcomes = result.outcomes ++ [quotaOutcome j.state.db.candidates quota] ∧
      result'.productsWritten =
        result.productsWritten + (topOf j.state.db.candidates quota).length ∧
      j'.state.candidatesDb = j.state.candidatesDb := by
  obtain ⟨j', hloop, hdb⟩ := selectRows_returns hrows 0 j
  rw [Nat.zero_add] at hloop
  have hread : (read Disk.db : DiskOp CandidatesDb) j = .ok j.state.db j := rfl
  have hselect : (answer (selectForSubcategory j.state.db.candidates quota.1 quota.2) :
      DiskOp (List Candidate)) j = .ok (topOf j.state.db.candidates quota) j := by
    rw [selectForSubcategory_eq hquota]
    rfl
  refine ⟨{ outcomes := result.outcomes ++ [quotaOutcome j.state.db.candidates quota],
            productsWritten := result.productsWritten + (topOf j.state.db.candidates quota).length,
            rawMetadataWritten :=
              result.rawMetadataWritten + (topOf j.state.db.candidates quota).length },
    j', ?_, rfl, rfl, hdb⟩
  rw [selectSubcategory, Work.bind_of_ok hread, Work.bind_of_ok hselect, Work.bind_of_ok hloop]
  rfl

/-- **The outer loop** returns when every row of every top has a line. -/
theorem selectSubcategories_returns {quotas : List (String × ℤ)} (j : Journal Disk)
    (hquotas : ∀ quota ∈ quotas, 0 ≤ quota.2 ∧
      ∀ row ∈ topOf j.state.db.candidates quota, ∃ line, productLine config row = .ok line)
    (result : SelectionResult) :
    ∃ result' j', quotas.foldlM (selectSubcategory config) result j = .ok result' j' ∧
      result'.outcomes = result.outcomes ++ quotas.map (quotaOutcome j.state.db.candidates) ∧
      result'.productsWritten = result.productsWritten +
        ((quotas.map (quotaOutcome j.state.db.candidates)).map QuotaOutcome.selected).sum ∧
      j'.state.candidatesDb = j.state.candidatesDb := by
  induction quotas generalizing j result with
  | nil => exact ⟨result, j, rfl, (List.append_nil _).symm, rfl, rfl⟩
  | cons quota quotas ih =>
      obtain ⟨hquota, hrows⟩ := hquotas quota List.mem_cons_self
      obtain ⟨result₁, j₁, hfirst, houtcomes₁, hwritten₁, hdb₁⟩ :=
        selectSubcategory_returns hquota hrows result
      have hcandidates : j₁.state.db = j.state.db := by rw [Disk.db, Disk.db, hdb₁]
      obtain ⟨result₂, j₂, hrest, houtcomes₂, hwritten₂, hdb₂⟩ := ih j₁ (fun q hq => by
        rw [hcandidates]
        exact hquotas q (List.mem_cons_of_mem _ hq)) result₁
      rw [hcandidates] at houtcomes₂ hwritten₂
      refine ⟨result₂, j₂, ?_, ?_, ?_, hdb₂.trans hdb₁⟩
      · rw [List.foldlM_cons, Work.bind_of_ok hfirst, hrest]
      · rw [houtcomes₂, houtcomes₁, List.append_assoc]
        rfl
      · rw [hwritten₂, hwritten₁, List.map_cons, List.map_cons, List.sum_cons, Nat.add_assoc]
        rfl

/-- What was counted is what is reported, and no quota is exceeded. -/
theorem assertQuotasRespected_eq_ok {result : SelectionResult}
    (houtcomes : result.outcomes = config.quotas.map (quotaOutcome candidates))
    (hwritten : result.productsWritten = result.totalSelected) :
    assertQuotasRespected config result = .ok () := by
  have hquota : (result.outcomes.any fun outcome => decide (outcome.quota < outcome.selected)) =
      false := by
    rw [houtcomes, List.any_map, List.any_eq_false]
    intro quota _
    have hle : (topOf candidates quota).length ≤ quota.2.toNat := List.length_take_le _ _
    exact fun h => absurd (of_decide_eq_true h) (not_lt.2 hle)
  have hknown : (result.outcomes.any fun outcome =>
      !(config.quotas.map Prod.fst).contains outcome.subcategory) = false := by
    rw [houtcomes, List.any_map, List.any_eq_false]
    intro quota hmem
    have hname : (config.quotas.map Prod.fst).contains quota.1 = true :=
      List.contains_iff_mem.2 (List.mem_map_of_mem hmem)
    show ¬(!(config.quotas.map Prod.fst).contains quota.1) = true
    rw [hname]
    exact Bool.false_ne_true
  rw [assertQuotasRespected, hquota, hknown, if_neg Bool.false_ne_true, if_neg (not_not.2 hwritten),
    if_neg Bool.false_ne_true]

/-- Outcomes of different subcategories are all kept. -/
theorem writeSelectionQuotas_get {outcomes : List QuotaOutcome}
    (hnames : (outcomes.map QuotaOutcome.subcategory).Nodup) (db : CandidatesDb) :
    ∀ outcome ∈ outcomes,
      (db.writeSelectionQuotas outcomes).selectionQuota outcome.subcategory = some outcome := by
  have hkept (name : String) : ∀ (outcomes : List QuotaOutcome)
      (stored : String → Option QuotaOutcome), name ∉ outcomes.map QuotaOutcome.subcategory →
        outcomes.foldl (fun (stored : String → Option QuotaOutcome) outcome =>
          Function.update stored outcome.subcategory (some outcome)) stored name = stored name := by
    intro outcomes
    induction outcomes with
    | nil => exact fun _ _ => rfl
    | cons outcome outcomes ih =>
        intro stored hname
        rw [List.map_cons, List.mem_cons, not_or] at hname
        rw [List.foldl_cons, ih _ hname.2, Function.update_of_ne hname.1]
  show ∀ outcome ∈ outcomes, outcomes.foldl _ db.selectionQuota outcome.subcategory = some outcome
  generalize db.selectionQuota = stored
  induction outcomes generalizing stored with
  | nil => exact fun _ h => absurd h List.not_mem_nil
  | cons first outcomes ih =>
      obtain ⟨hfirst, hrest⟩ := List.nodup_cons.1 hnames
      rw [List.forall_mem_cons]
      refine ⟨?_, ih hrest _⟩
      rw [List.foldl_cons, hkept _ _ _ hfirst, Function.update_self]

/-- **The building returns** when every row of every top has a line. -/
theorem selectBuild_returns (j : Journal Disk)
    (hnames : (config.quotas.map Prod.fst).Nodup)
    (hquotas : ∀ quota ∈ config.quotas, 0 ≤ quota.2 ∧
      ∀ row ∈ topOf j.state.db.candidates quota, ∃ line, productLine config row = .ok line) :
    ∃ built j', selectBuild config j = .ok built j' ∧
      built.2.outcomes = config.quotas.map (quotaOutcome j.state.db.candidates) ∧
      j'.state.db.candidates = j.state.db.candidates ∧
      ∀ outcome ∈ built.2.outcomes,
        j'.state.db.selectionQuota outcome.subcategory = some outcome := by
  let opened := (j.record j.state.clearRawMetadata).record j.state.clearRawMetadata.openProducts
  have hclear : (durable Disk.clearRawMetadata : DiskOp Unit) j =
      .ok () (j.record j.state.clearRawMetadata) := rfl
  have hopen : (durable Disk.openProducts : DiskOp Unit) (j.record j.state.clearRawMetadata) =
      .ok () opened := rfl
  obtain ⟨result, j', hloop, houtcomes, hwritten, hdb⟩ :=
    selectSubcategories_returns opened hquotas {}
  have houtcomes : result.outcomes = config.quotas.map (quotaOutcome j.state.db.candidates) :=
    houtcomes
  have hcounted : result.productsWritten = result.totalSelected := by
    rw [SelectionResult.totalSelected, houtcomes, hwritten]
    exact Nat.zero_add _
  have hassert : (answer (assertQuotasRespected config result) : DiskOp Unit) j' = .ok () j' := by
    rw [assertQuotasRespected_eq_ok houtcomes hcounted]
    rfl
  have hsubcategories : (result.outcomes.map QuotaOutcome.subcategory).Nodup := by
    rw [houtcomes, List.map_map]
    exact hnames
  have hcandidates : j'.state.db = j.state.db := by
    show j'.state.candidatesDb.getD {} = _
    rw [hdb]
    rfl
  refine ⟨(result.productsWritten, result),
    j'.record (j'.state.withDb (j'.state.db.writeSelectionQuotas result.outcomes)), ?_, houtcomes,
    ?_, writeSelectionQuotas_get hsubcategories j'.state.db⟩
  · rw [selectBuild, Work.bind_of_ok hclear, Work.bind_of_ok hopen, Work.bind_of_ok hloop,
      Work.bind_of_ok hassert]
    rfl
  · show j'.state.db.candidates = _
    rw [hcandidates]

/-- The lines of the subcategories, in a row, are those of the tops. -/
theorem mapM_productLine_tops : ∀ {quotas : List (String × ℤ)} {lines : List (List String)},
    (∀ quota ∈ quotas, 0 ≤ quota.2) →
      quotas.mapM (subcategoryLines config candidates) = .ok lines →
        (quotas.map (topOf candidates)).flatten.mapM (productLine config) = .ok lines.flatten
  | [], _, _, h => by
      obtain rfl := Except.ok.inj h
      rfl
  | quota :: quotas, _, hquotas, h => by
      rw [List.mapM_cons, subcategoryLines,
        selectForSubcategory_eq (hquotas quota List.mem_cons_self)] at h
      cases hfirst : (topOf candidates quota).mapM (productLine config) with
      | error e =>
          change ((topOf candidates quota).mapM (productLine config) >>= _) = _ at h
          rw [hfirst] at h
          cases h
      | ok first =>
          change ((topOf candidates quota).mapM (productLine config) >>= _) = _ at h
          rw [hfirst] at h
          cases hrest : quotas.mapM (subcategoryLines config candidates) with
          | error e =>
              rw [hrest] at h
              cases h
          | ok rest =>
              rw [hrest] at h
              obtain rfl := Except.ok.inj h
              have ih := mapM_productLine_tops
                (fun q hq => hquotas q (List.mem_cons_of_mem _ hq)) hrest
              rw [List.map_cons, List.flatten_cons, List.mapM_append, hfirst]
              show (Except.ok first >>= fun l => _) = _
              rw [ih]
              rfl

/-- A list whose lines were all written has a line for every row. -/
theorem productLine_of_mapM : ∀ {rows : List Candidate} {lines : List String},
    rows.mapM (productLine config) = .ok lines →
      ∀ row ∈ rows, ∃ line, productLine config row = .ok line
  | [], _, _, _, h => absurd h List.not_mem_nil
  | first :: rows, _, h, row, hrow => by
      rw [List.mapM_cons] at h
      cases hfirst : productLine config first with
      | error e =>
          rw [hfirst] at h
          exact nomatch h
      | ok line =>
          cases hrest : rows.mapM (productLine config) with
          | error e =>
              rw [hfirst, hrest] at h
              exact nomatch h
          | ok rest =>
              rcases List.mem_cons.1 hrow with rfl | hrow
              · exact ⟨line, hfirst⟩
              · exact productLine_of_mapM hrest row hrow

/-- Where the selection is current, the tops have been written. -/
theorem ProductsCurrent.tops {d : Disk} (h : ProductsCurrent config d)
    (hquotas : ∀ quota ∈ config.quotas, 0 ≤ quota.2) :
    ∃ lines, (config.quotas.map (topOf d.db.candidates)).flatten.mapM (productLine config) =
      .ok lines ∧ d.productsJsonl = some lines := by
  obtain ⟨lines, hfile, hlines⟩ := h
  rw [productLines] at hlines
  cases hall : config.quotas.mapM (subcategoryLines config d.db.candidates) with
  | error e =>
      rw [hall] at hlines
      cases hlines
  | ok all =>
      rw [hall] at hlines
      obtain rfl := Except.ok.inj hlines
      exact ⟨_, mapM_productLine_tops hquotas hall, hfile⟩

/-- What is reported of the tops. -/
theorem reports_tops (hquotas : ∀ quota ∈ config.quotas, 0 ≤ quota.2) :
    List.Forall₂ (Reports candidates)
      (config.quotas.zip (config.quotas.map (topOf candidates)))
      (config.quotas.map (quotaOutcome candidates)) := by
  rw [← List.map_prod_left_eq_zip, List.forall₂_map_left_iff, List.forall₂_map_right_iff,
    List.forall₂_same]
  intro quota hquota
  have hnonneg := hquotas quota hquota
  have hle : (topOf candidates quota).length ≤ quota.2.toNat := List.length_take_le _ _
  refine ⟨rfl, Int.toNat_of_nonneg hnonneg, rfl, rfl, ?_⟩
  show ((quota.2.toNat - (topOf candidates quota).length : ℕ) : ℤ) =
    quota.2 - (topOf candidates quota).length
  omega

end

section

variable {config : Config} {decimal : ℚ → ℚ} {cap : Option ℕ} {force : Bool} {d : Disk}

/-- The selection does not touch the candidates. -/
theorem stageSelect_run {result : SelectionResult} {j : Journal Disk}
    (hwork : ((stageSelect config).upToDate cap d && !force) = false)
    (hrun : (stageSelect config).run cap force { state := d } = .ok (true, result) j) :
    ProductsCurrent config j.state ∧ j.state.db.candidates = d.db.candidates := by
  have hreturns := stageSelect_lawful.run_returns hrun
  rw [if_neg (by rw [hwork]; exact Bool.false_ne_true)] at hreturns
  obtain ⟨-, hwrites, hcurrent, -⟩ := hreturns
  exact ⟨hcurrent, (hwrites.outputs .products nofun).1⟩

/-- **A run returns** when every candidate of every top can be built. -/
theorem stageSelect_returns (hdb : d.candidatesDb.isSome)
    (hwork : ((stageSelect config).upToDate cap d && !force) = false)
    (hnames : (config.quotas.map Prod.fst).Nodup)
    (hquotas : ∀ quota ∈ config.quotas, 0 ≤ quota.2 ∧
      ∀ row ∈ topOf d.db.candidates quota, ∃ line, productLine config row = .ok line) :
    ∃ result j, (stageSelect config).run cap force { state := d } = .ok (true, result) j ∧
      result.outcomes = config.quotas.map (quotaOutcome d.db.candidates) ∧
      ∀ outcome ∈ result.outcomes,
        j.state.db.selectionQuota outcome.subcategory = some outcome := by
  have hrequired : (stageSelect config).required d = none := if_pos hdb
  obtain ⟨built, j, hbuild, houtcomes, -, hrecorded⟩ := selectBuild_returns
    (((stageSelect config).started d).record
      ((stageSelect config).running cap ((stageSelect config).started d).state)) hnames hquotas
  refine ⟨built.2, j.record ((stageSelect config).complete cap built.1 j.state), ?_, houtcomes,
    hrecorded⟩
  · rw [Plan.run_eq_started hrequired, hwork, if_neg Bool.false_ne_true]
    exact Plan.rebuild_of_ok hbuild

end

section

/-- A laptop of these score and price. -/
private def scored (parentAsin : String) (score : ℤ) (priceUsd : Option PyFloat) : Candidate where
  parentAsin
  sourceFile := "meta_Electronics.jsonl.gz"
  mainCategory := none
  subcategory := "laptop"
  score
  title := "A small laptop"
  store := none
  averageRating := .finite 4
  ratingNumber := 12
  priceUsd
  features := []
  description := []
  images := []
  details := []
  categories := []
  raw := []

/-- Texts are taken as they are, and floats as decimals. -/
private def oneQuota : Config where
  py :=
    { strip := fun text => text, lower := fun text => text, loads := fun _ => none
      dump := fun _ => "", float := fun _ => none, literal := fun _ => .nan
      ofInt := fun n => some (.finite n), repr := fun _ => "", classify := fun _ _ => "" }
  tools :=
    { sha1 := fun text => text, sha256 := fun _ => [], dumpSorted := fun _ => ""
      round3 := fun _ => "4.0", buildSpecifications := fun _ _ => []
      parseCurrencyMinor := parseCurrencyMinor fun q => q }
  raw _ := none
  quotas := [("laptop", 1)]

/-- A database of these candidates. -/
private def stored (candidates : List Candidate) : Disk where
  candidatesDb := some { candidates }

end

end Pipeline
end AgenticCommerce
