/-
# Stage 1: the scan of the sources

`stage_products` of `pipeline/build_catalog.py`.  It streams the sources one line at a time,
evaluates each record against the identifiers seen so far, and inserts the candidates in batches;
a source that was read to its end is marked as done at this cap, and is skipped from then on.

A batch is inserted with `INSERT OR IGNORE`, which passes over a row that breaks any constraint,
not only the key: SQLite stores a NaN as `NULL`, and the rating of a candidate must not be
`NULL` (`insertOrIgnore`).
-/

import AgenticCommerce.Pipeline.Disk

namespace AgenticCommerce
namespace Pipeline

open Relational Program

/-! ### The lines of a source -/

/-- What a line is read as. -/
inductive Line where
  | blank
  | malformed
  | record (record : Record)

/-- The body of the loop of `iter_jsonl_gz`. -/
def readLine (py : Python) (line : String) : Line :=
  if py.strip line = "" then .blank
  else match py.loads (py.strip line) with
    | some (.obj items) => .record items
    | _ => .malformed

/-- `itertools.islice(handle, max_lines)`. -/
def capped (cap : Option ℕ) (lines : List String) : List String :=
  cap.elim lines fun n => lines.take n

/-- `iter_jsonl_gz`: the records of the lines that are read. -/
def iterJsonl (py : Python) (cap : Option ℕ) (lines : List String) : List Record :=
  (capped cap lines).filterMap fun line => match readLine py line with
    | .record record => some record
    | _ => none

/-- How many of the lines that are read are malformed. -/
def malformedLines (py : Python) (cap : Option ℕ) (lines : List String) : ℕ :=
  (capped cap lines).countP fun line => match readLine py line with
    | .malformed => true
    | _ => false

/-! ### Storing a batch -/

/-- The numbers that fit an `INTEGER` of SQLite. -/
def FitsInteger (n : ℤ) : Prop := -2 ^ 63 ≤ n ∧ n < 2 ^ 63

instance (n : ℤ) : Decidable (FitsInteger n) := inferInstanceAs (Decidable (_ ∧ _))

/-- `INSERT OR IGNORE INTO candidates`.  A number that does not fit raises before the statement
is run. -/
def insertOrIgnore (table : List Candidate) (row : Candidate) : Except Failure (List Candidate) :=
  if ¬FitsInteger row.ratingNumber then
    .error (.exception "Python int too large to convert to SQLite INTEGER")
  else if row.averageRating = .nan then .ok table
  else if row.parentAsin ∈ table.map Candidate.parentAsin then .ok table
  else .ok (table ++ [row])

/-- `executemany`. -/
def insertBatch (table batch : List Candidate) : Except Failure (List Candidate) :=
  batch.foldlM insertOrIgnore table

/-- `StageResult`. -/
structure StageResult where
  linesRead : ℕ := 0
  malformed : ℕ := 0
  kept : ℕ := 0
  rejected : List Reject := []
  filesProcessed : List String := []
  filesSkipped : List String := []
  filesMissing : List String := []
  peakPending : ℕ := 0
  alreadyComplete : Bool := false

/-- What a run holds in memory: the identifiers it has seen, the batch of its `CandidateWriter`,
and its result. -/
structure Scan where
  seen : List String
  pending : List Candidate := []
  result : StageResult := {}

/-- `CandidateWriter.flush`. -/
def Scan.flush (scan : Scan) : DiskOp Scan :=
  if scan.pending = [] then pure scan
  else do
    tryDurable fun d => (insertBatch d.db.candidates scan.pending).map fun candidates =>
      d.withDb { d.db with candidates }
    pure { scan with pending := [] }

/-- `CandidateWriter.add`. -/
def Scan.add (batchSize : ℕ) (scan : Scan) (candidate : Candidate) : DiskOp Scan :=
  let pending := scan.pending ++ [candidate]
  let scan := { scan with
    pending
    result := { scan.result with peakPending := max scan.result.peakPending pending.length } }
  if batchSize ≤ pending.length then scan.flush else pure scan

/-! ### A source -/

/-- The database with the progress of a source. -/
def CandidatesDb.setProgress (db : CandidatesDb) (sourceName : String) (progress : SourceProgress) :
    CandidatesDb :=
  { db with sourceProgress := Function.update db.sourceProgress sourceName (some progress) }

/-- `_completed_sources`: the source was streamed to its end under the cap. -/
def CandidatesDb.sourceDone (db : CandidatesDb) (cap : Option ℕ) (sourceName : String) : Bool :=
  (db.sourceProgress sourceName).any fun progress => decide (progress.maxLinesDebug = cap)

/-- A source is done if it is the one whose progress was set, or was done before. -/
theorem CandidatesDb.sourceDone_setProgress {db : CandidatesDb} {sourceName other : String}
    {progress : SourceProgress} :
    (db.setProgress sourceName progress).sourceDone progress.maxLinesDebug other =
      (decide (other = sourceName) || db.sourceDone progress.maxLinesDebug other) := by
  unfold CandidatesDb.sourceDone CandidatesDb.setProgress
  by_cases hother : other = sourceName
  · subst hother
    simp
  · simp [hother]

/-- The body of the loop of `_scan_source`. -/
def scanRecord (py : Python) (batchSize : ℕ) (sourceName : String) (scan : Scan)
    (record : Record) : DiskOp Scan := do
  let evaluation ← answer (evaluateRecord py record sourceName scan.seen)
  match evaluation with
  | .rejected reason =>
      pure { scan with result := { scan.result with rejected := scan.result.rejected ++ [reason] } }
  | .accepted candidate => do
      let scan ← { scan with seen := candidate.parentAsin :: scan.seen }.add batchSize candidate
      pure { scan with result := { scan.result with kept := scan.result.kept + 1 } }

/-- `_scan_source`. -/
def scanSource (setting : Setting) (batchSize : ℕ) (sourceName : String) (lines : List String)
    (start : Scan) : DiskOp Scan := do
  let read ← (iterJsonl setting.py setting.cap lines).foldlM
    (scanRecord setting.py batchSize sourceName) start
  let scan ← read.flush
  let linesRead := (capped setting.cap lines).length
  let malformed := malformedLines setting.py setting.cap lines
  transact fun db => db.setProgress sourceName
    { linesRead, malformed, kept := scan.result.kept - start.result.kept,
      maxLinesDebug := setting.cap }
  pure { scan with result := { scan.result with
    linesRead := scan.result.linesRead + linesRead
    malformed := scan.result.malformed + malformed
    filesProcessed := scan.result.filesProcessed ++ [sourceName] } }

/-- The body of the loop of `stage_products` over the sources. -/
def visitSource (setting : Setting) (batchSize : ℕ) (completed : String → Bool) (scan : Scan)
    (sourceName : String) : DiskOp Scan :=
  match setting.raw sourceName with
  | none => pure { scan with result := { scan.result with
      filesMissing := scan.result.filesMissing ++ [sourceName] } }
  | some lines =>
      if completed sourceName then pure { scan with result := { scan.result with
        filesSkipped := scan.result.filesSkipped ++ [sourceName] } }
      else scanSource setting batchSize sourceName lines scan

/-! ### The stage -/

/-- `_all_sources_done`. -/
def allSourcesDone (setting : Setting) (sources : List String) (completed : String → Bool) : Bool :=
  sources.all fun sourceName => (setting.raw sourceName).isNone || completed sourceName

/-- `stage_products`, where there is something to do. -/
def scanSources (setting : Setting) (batchSize : ℕ) (sources : List String)
    (completed : String → Bool) (seen : List String) : DiskOp StageResult := do
  writeStageState .products .running setting.cap
  if batchSize < 1 then throw (.exception "batch_size must be at least 1")
  else
    let read ← sources.foldlM (visitSource setting batchSize completed) { seen }
    let scan ← read.flush
    if scan.result.filesMissing.length = sources.length then
      writeStageState .products .failed setting.cap
      throw (.exception "no metadata source found in the raw directory")
    else
      let total ← Program.read fun d => d.db.candidates.length
      writeStageState .products .complete setting.cap total
      pure scan.result

/-- What a run takes for done: nothing if it is forced. -/
def completedSources (setting : Setting) (force : Bool) (db : CandidatesDb) (sourceName : String) :
    Bool := !force && db.sourceDone setting.cap sourceName

/-- The stage has nothing to do. -/
def productsUpToDate (setting : Setting) (sources : List String) (force : Bool)
    (db : CandidatesDb) : Bool :=
  db.completeAt .products setting.cap && !force &&
    allSourcesDone setting sources (completedSources setting force db)

/-- What a run with nothing to do reports. -/
def keptResult (db : CandidatesDb) : StageResult :=
  { alreadyComplete := true, kept := ((db.stageState .products).map StageState.records).getD 0 }

/-- `stage_products`. -/
def stageProducts (setting : Setting) (batchSize : ℕ) (sources : List String)
    (force : Bool := false) : DiskOp StageResult := do
  ensureSchema
  let db ← read Disk.db
  if productsUpToDate setting sources force db then pure (keptResult db)
  else
    scanSources setting batchSize sources (completedSources setting force db)
      (db.candidates.map Candidate.parentAsin)

variable {setting : Setting} {batchSize : ℕ} {sources : List String} {force : Bool} {j : Journal Disk}

/-- The stage reads the database, and has nothing to do or scans the sources. -/
theorem stageProducts_eq : stageProducts setting batchSize sources force j =
    (if productsUpToDate setting sources force j.state.db then pure (keptResult j.state.db)
      else scanSources setting batchSize sources (completedSources setting force j.state.db)
        (j.state.db.candidates.map Candidate.parentAsin))
      (j.record (j.state.withDb j.state.db)) := by
  have hschema : ensureSchema j = .ok () (j.record (j.state.withDb j.state.db)) := rfl
  have hread : (read Disk.db : DiskOp CandidatesDb) (j.record (j.state.withDb j.state.db)) =
      .ok j.state.db (j.record (j.state.withDb j.state.db)) := rfl
  unfold stageProducts
  exact (Work.bind_of_ok hschema).trans (Work.bind_of_ok hread)

end Pipeline
end AgenticCommerce
