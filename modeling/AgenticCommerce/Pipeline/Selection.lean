/-
# Stage 2: the selection

`stage_select` of `pipeline/build_catalog.py`: under a quota for each subcategory, the candidates
with the best score become products, one line of `products.jsonl` each, with the source record
beside it.
-/

import AgenticCommerce.Pipeline.Stages
import AgenticCommerce.Relational.Ranking
import Mathlib.Data.Prod.Lex
import Mathlib.Data.String.Basic
import Mathlib.Algebra.Order.Ring.Int

namespace AgenticCommerce
namespace Pipeline

open Relational Program Work

/-- `SelectionResult`. -/
structure SelectionResult where
  outcomes : List QuotaOutcome := []
  productsWritten : ℕ := 0
  rawMetadataWritten : ℕ := 0

/-- `SelectionResult.total_selected`. -/
def SelectionResult.totalSelected (result : SelectionResult) : ℕ :=
  (result.outcomes.map QuotaOutcome.selected).sum

/-- `QuotaOutcome.shortfall`. -/
def QuotaOutcome.shortfall (outcome : QuotaOutcome) : ℕ := outcome.quota - outcome.selected

/-- `ORDER BY score DESC, rating_number DESC, parent_asin ASC`. -/
def Candidate.rank (row : Candidate) : ℤ ×ₗ ℤ ×ₗ String :=
  toLex (-row.score, toLex (-row.ratingNumber, row.parentAsin))

/-- The candidates of a subcategory. -/
def inSubcategory (candidates : List Candidate) (subcategory : String) : List Candidate :=
  candidates.filter fun row => decide (row.subcategory = subcategory)

/-- `available_count`. -/
def availableCount (candidates : List Candidate) (subcategory : String) : ℕ :=
  (inSubcategory candidates subcategory).length

/-- `select_for_subcategory`. -/
def selectForSubcategory (candidates : List Candidate) (subcategory : String) (quota : ℤ) :
    Except Failure (List Candidate) :=
  if quota < 0 then .error (.exception ("quota must be non-negative, got " ++ toString quota))
  else .ok ((ranked Candidate.rank (inSubcategory candidates subcategory)).take quota.toNat)

/-- `_clear_raw_metadata`. -/
def Disk.clearRawMetadata (d : Disk) : Disk :=
  { d with rawMetadata := fun productId =>
      if startsWith productIdPrefix productId then none else d.rawMetadata productId }

/-- `_write_raw_metadata`. -/
def Disk.writeRawMetadata (productId rawJson : String) (d : Disk) : Disk :=
  { d with rawMetadata := Function.update d.rawMetadata productId (some rawJson) }

/-- `products.jsonl`, opened for writing. -/
def Disk.openProducts (d : Disk) : Disk := { d with productsJsonl := some [] }

/-- A line more of `products.jsonl`. -/
def Disk.writeProduct (line : String) (d : Disk) : Disk :=
  { d with productsJsonl := d.productsJsonl.map fun lines => lines ++ [line] }

section

variable (config : Config)

/-- The line of a selected candidate. -/
def productLine (row : Candidate) : Except Failure String :=
  (buildProduct config.py config.tools row).map fun product => config.py.dump product.2

/-- The body of the inner loop of `stage_select`. -/
def selectRow (selected : ℕ) (row : Candidate) : DiskOp ℕ := do
  let product ← answer (buildProduct config.py config.tools row)
  durable (Disk.writeProduct (config.py.dump product.2))
  durable (Disk.writeRawMetadata product.1 (config.py.dump (.obj row.raw)))
  pure (selected + 1)

/-- The body of the outer loop of `stage_select`. -/
def selectSubcategory (result : SelectionResult) (quota : String × ℤ) : DiskOp SelectionResult := do
  let db ← read Disk.db
  let rows ← answer (selectForSubcategory db.candidates quota.1 quota.2)
  let selected ← rows.foldlM (selectRow config) 0
  pure
    { outcomes := result.outcomes ++
        [{ subcategory := quota.1, quota := quota.2.toNat
           available := availableCount db.candidates quota.1, selected }]
      productsWritten := result.productsWritten + selected
      rawMetadataWritten := result.rawMetadataWritten + selected }

/-- `_assert_quotas_respected`. -/
def assertQuotasRespected (result : SelectionResult) : Except Failure Unit :=
  if result.outcomes.any fun outcome => decide (outcome.quota < outcome.selected) then
    .error (.exception "quota exceeded")
  else if result.productsWritten ≠ result.totalSelected then
    .error (.exception "products written does not match the sum of per-subcategory selections")
  else if result.outcomes.any fun outcome =>
      !(config.quotas.map Prod.fst).contains outcome.subcategory then
    .error (.exception "selection produced subcategories with no quota")
  else .ok ()

/-- `write_selection_quotas`. -/
def CandidatesDb.writeSelectionQuotas (outcomes : List QuotaOutcome) (db : CandidatesDb) :
    CandidatesDb :=
  let upsert := fun (stored : String → Option QuotaOutcome) outcome =>
    Function.update stored outcome.subcategory (some outcome)
  { db with selectionQuota := outcomes.foldl upsert db.selectionQuota }

/-- `read_selection_quotas`. -/
def CandidatesDb.readSelectionQuotas (db : CandidatesDb) : List QuotaOutcome :=
  subcategoryQuotas.filterMap fun quota => db.selectionQuota quota.1

/-- What `stage_select` does when there is something to do. -/
def selectBuild : DiskOp (ℕ × SelectionResult) := do
  durable Disk.clearRawMetadata
  durable Disk.openProducts
  let result ← config.quotas.foldlM (selectSubcategory config) {}
  answer (assertQuotasRespected config result)
  transact (CandidatesDb.writeSelectionQuotas result.outcomes)
  pure (result.productsWritten, result)

/-- What `stage_select` reports when there is nothing to do. -/
def keptSelection (d : Disk) : SelectionResult :=
  let outcomes := d.db.readSelectionQuotas
  let total := (outcomes.map QuotaOutcome.selected).sum
  { outcomes, productsWritten := total, rawMetadataWritten := total }

/-- `stage_select`. -/
def stageSelect : Plan SelectionResult where
  stage := .select
  required d := if d.candidatesDb.isSome then none
    else some (.exception "candidates.sqlite does not exist; run 'products' (stage 1) first")
  artifact d := d.productsJsonl.isSome
  kept d := .ok (keptSelection d)
  build := selectBuild config

/-! ### What it computes -/

/-- The lines of a subcategory. -/
def subcategoryLines (candidates : List Candidate) (quota : String × ℤ) :
    Except Failure (List String) := do
  let rows ← selectForSubcategory candidates quota.1 quota.2
  rows.mapM (productLine config)

/-- The lines of `products.jsonl`. -/
def productLines (candidates : List Candidate) : Except Failure (List String) :=
  (config.quotas.mapM (subcategoryLines config candidates)).map List.flatten

/-- The products are those of the candidates. -/
def ProductsCurrent (d : Disk) : Prop :=
  ∃ lines, d.productsJsonl = some lines ∧ productLines config d.db.candidates = .ok lines

end

variable {config : Config}

theorem mapM_snoc {α β ε : Type} {f : α → Except ε β} {l : List α} {a : α} {bs : List β} {b : β}
    (hl : l.mapM f = .ok bs) (ha : f a = .ok b) : (l ++ [a]).mapM f = .ok (bs ++ [b]) := by
  rw [List.mapM_append, hl, List.mapM_cons, ha]
  rfl

/-- `products.jsonl` holds the lines that were there before, and those of the rows. -/
def RowsWritten (config : Config) (candidates : List Candidate) (before : List String)
    (rows : List Candidate) (d : Disk) : Prop :=
  ∃ lines, rows.mapM (productLine config) = .ok lines ∧
    d.productsJsonl = some (before ++ lines) ∧ d.db.candidates = candidates

/-- `products.jsonl` holds the lines of the subcategories. -/
def QuotasWritten (config : Config) (candidates : List Candidate) (quotas : List (String × ℤ))
    (d : Disk) : Prop :=
  ∃ lines, quotas.mapM (subcategoryLines config candidates) = .ok lines ∧
    d.productsJsonl = some lines.flatten ∧ d.db.candidates = candidates

variable {candidates : List Candidate}

/-- A row writes its line. -/
theorem selectRow_delivers {before : List String} (done : List Candidate) (row : Candidate)
    (n : ℕ) :
    Delivers (fun j : Journal Disk => RowsWritten config candidates before done j.state)
      (selectRow config n row)
      fun _ j => RowsWritten config candidates before (done ++ [row]) j.state := by
  refine Delivers.bind (Delivers.answer fun product hproduct j hj => And.intro hproduct hj)
    fun product => ?_
  have hwrite : Delivers (fun j : Journal Disk =>
      buildProduct config.py config.tools row = .ok product ∧
        RowsWritten config candidates before done j.state)
      (durable (Disk.writeProduct (config.py.dump product.2)) : DiskOp Unit)
      fun _ j => RowsWritten config candidates before (done ++ [row]) j.state := by
    refine .durable fun j ⟨hproduct, lines, hlines, hfile, hcandidates⟩ => ?_
    have hline : productLine config row = .ok (config.py.dump product.2) := by
      rw [productLine, hproduct]
      rfl
    refine ⟨_, mapM_snoc hlines hline, ?_, hcandidates⟩
    show j.state.productsJsonl.map _ = _
    rw [hfile, Option.map_some, List.append_assoc]
  have hraw : Delivers
      (fun j : Journal Disk => RowsWritten config candidates before (done ++ [row]) j.state)
      (durable (Disk.writeRawMetadata product.1 (config.py.dump (.obj row.raw))) : DiskOp Unit)
      fun _ j => RowsWritten config candidates before (done ++ [row]) j.state :=
    .durable fun j hj => hj
  exact hwrite.bind fun _ => hraw.bind fun _ => .pure fun j hj => hj

/-- A subcategory writes the lines of its rows. -/
theorem selectSubcategory_delivers (done : List (String × ℤ)) (quota : String × ℤ)
    (result : SelectionResult) :
    Delivers (fun j : Journal Disk => QuotasWritten config candidates done j.state)
      (selectSubcategory config result quota)
      fun _ j => QuotasWritten config candidates (done ++ [quota]) j.state := by
  intro j result' j' ⟨lines, hlines, hfile, hcandidates⟩ hrun
  obtain ⟨db, j₁, hread, hrest⟩ := bind_eq_ok.1 hrun
  obtain ⟨hdb, rfl⟩ := ask_eq_ok.1 hread
  obtain rfl := Except.ok.inj hdb
  obtain ⟨rows, j₂, hselect, hrest⟩ := bind_eq_ok.1 hrest
  obtain ⟨hrows, rfl⟩ := ask_eq_ok.1 hselect
  obtain ⟨selected, j₃, hloop, hpure⟩ := bind_eq_ok.1 hrest
  obtain ⟨-, rfl⟩ := pure_eq_ok.1 hpure
  have hstart : RowsWritten config candidates lines.flatten [] j.state :=
    ⟨[], rfl, by rw [List.append_nil]; exact hfile, hcandidates⟩
  obtain ⟨new, hnew, hfile', hcandidates'⟩ :=
    Delivers.foldlM selectRow_delivers 0 j selected j₃ hstart hloop
  have hquota : subcategoryLines config candidates quota = .ok new := by
    rw [subcategoryLines, ← hcandidates, hrows]
    exact hnew
  refine ⟨_, mapM_snoc hlines hquota, ?_, hcandidates'⟩
  rw [hfile', List.flatten_append, List.flatten_singleton]

/-- **What the selection writes** are the lines of the candidates that are selected. -/
theorem selectBuild_delivers : Delivers (fun _ => True) (selectBuild config)
    fun _ j => ProductsCurrent config j.state := by
  intro j built j' _ hrun
  obtain ⟨_, j₁, hclear, hrest⟩ := bind_eq_ok.1 hrun
  obtain rfl := durable_eq_ok.1 hclear
  obtain ⟨_, j₂, hopen, hrest⟩ := bind_eq_ok.1 hrest
  obtain rfl := durable_eq_ok.1 hopen
  obtain ⟨result, j₃, hloop, hrest⟩ := bind_eq_ok.1 hrest
  obtain ⟨_, j₄, hassert, hrest⟩ := bind_eq_ok.1 hrest
  obtain rfl := (ask_eq_ok.1 hassert).2
  obtain ⟨_, j₅, hquotas, hpure⟩ := bind_eq_ok.1 hrest
  obtain rfl := durable_eq_ok.1 hquotas
  obtain ⟨-, rfl⟩ := pure_eq_ok.1 hpure
  have hstart : QuotasWritten config j.state.db.candidates [] j.state.clearRawMetadata.openProducts :=
    ⟨[], rfl, rfl, rfl⟩
  obtain ⟨lines, hlines, hfile, hcandidates⟩ :=
    Delivers.foldlM selectSubcategory_delivers {} _ result j₃ hstart hloop
  refine ⟨lines.flatten, hfile, ?_⟩
  show productLines config j₃.state.db.candidates = _
  rw [hcandidates, productLines, hlines]
  rfl

/-! ### What it touches -/

theorem selectRow_moves (n : ℕ) (row : Candidate) :
    Moves (Journal.Along (Produces .select)) (selectRow config n row) := by
  refine Moves.ask.bind fun product => ?_
  refine (moves_durable fun d => ⟨fun _ => rfl, fun T hT => ?_⟩).bind fun _ =>
    (moves_durable fun d => ⟨fun _ => rfl, fun T hT => ?_⟩).bind fun _ => .pure
  · cases T <;> first | exact absurd rfl hT | exact ⟨rfl, rfl⟩ | exact .inl rfl | rfl
  · cases T <;> first | exact absurd rfl hT | exact ⟨rfl, rfl⟩ | exact .inl rfl | rfl

theorem selectBuild_moves : Moves (Journal.Along (Produces .select)) (selectBuild config) := by
  have hsubcategory (result : SelectionResult) (quota : String × ℤ) :
      Moves (Journal.Along (Produces .select)) (selectSubcategory config result quota) :=
    Moves.ask.bind fun db => Moves.ask.bind fun rows =>
      (Moves.foldlM selectRow_moves _).bind fun _ => .pure
  refine (moves_durable fun d => ⟨fun _ => rfl, fun T hT => ?_⟩).bind fun _ =>
    (moves_durable fun d => ⟨fun _ => rfl, fun T hT => ?_⟩).bind fun _ =>
      (Moves.foldlM hsubcategory _).bind fun result => Moves.ask.bind fun _ =>
        (moves_durable fun d => ⟨fun _ => rfl, fun T hT => ?_⟩).bind fun _ => .pure
  · cases T <;> first | exact absurd rfl hT | exact ⟨rfl, rfl⟩ | exact .inl rfl | rfl
  · cases T <;> first | exact absurd rfl hT | exact ⟨rfl, rfl⟩ | exact .inl rfl | rfl
  · cases T <;> first | exact absurd rfl hT | exact ⟨rfl, rfl⟩ | exact .inl rfl | rfl

/-- The selection fills the frame. -/
theorem stageSelect_lawful {cap : Option ℕ} :
    (stageSelect config).Lawful (fun _ => ProductsCurrent config) cap where
  prepare d := refl_of Idle d
  build := selectBuild_moves
  builds := selectBuild_delivers
  mark _ _ h := h

end Pipeline
end AgenticCommerce
