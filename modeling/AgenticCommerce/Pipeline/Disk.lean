/-
# What the pipeline has on disk

The two SQLite files and the artifacts of `pipeline/build_catalog.py`, as far as a stage reads
them back.  A stage can be killed at any moment, so a stage is a program over a journal: a commit
of a transaction and a write to a file are durable steps, and everything else a stage holds is
gone with it.

`stage_state` says of each stage whether it is running, complete or failed, and at which cap
of lines (`writeStageState`); a stage is skipped when its own row says that it is complete at this
cap and its own artifact is there (`stageIsComplete`).
-/

import AgenticCommerce.Pipeline.Records
import AgenticCommerce.Relational.Journal

namespace AgenticCommerce
namespace Pipeline

open Relational

/-- The stages, as `STAGE_ORDER` has them. -/
inductive Stage where
  | products | select | images | offers | reviews | report
  deriving DecidableEq, Repr

/-- `stage_state.status`. -/
inductive StageStatus where
  | running | complete | failed
  deriving DecidableEq, Repr

/-- A row of `stage_state`. -/
structure StageState where
  status : StageStatus
  maxLinesDebug : Option ℕ
  records : ℕ
  deriving DecidableEq

/-- A row of `source_progress`. -/
structure SourceProgress where
  linesRead : ℕ
  malformed : ℕ
  kept : ℕ
  maxLinesDebug : Option ℕ
  deriving DecidableEq

/-- `QuotaOutcome`, a row of `selection_quota`. -/
structure QuotaOutcome where
  subcategory : String
  quota : ℕ
  available : ℕ
  selected : ℕ
  deriving DecidableEq

/-- `candidates.sqlite`: the candidates in the order of their insertion, and the tables that are
updated by key. -/
structure CandidatesDb where
  candidates : List Candidate := []
  stageState : Stage → Option StageState := fun _ => none
  sourceProgress : String → Option SourceProgress := fun _ => none
  selectionQuota : String → Option QuotaOutcome := fun _ => none

/-- A row of `review`. -/
structure Review where
  reviewId : String
  productId : String
  parentAsin : String
  rating : Option ℤ
  title : Option String
  body : Option String
  verifiedPurchase : Bool
  reviewedAt : Option String
  sourceFile : String
  raw : Record
  deriving DecidableEq

/-- The files of the output directory, a text file as its lines. -/
structure Disk where
  candidatesDb : Option CandidatesDb := none
  /-- `catalog/products.jsonl`. -/
  productsJsonl : Option (List String) := none
  /-- `catalog/raw_metadata/{product_id}.json`. -/
  rawMetadata : String → Option String := fun _ => none
  /-- `catalog/images_manifest.jsonl`. -/
  imagesManifestJsonl : Option (List String) := none
  /-- `catalog/offers.jsonl`. -/
  offersJsonl : Option (List String) := none
  /-- `reviews.sqlite`. -/
  reviewsDb : Option (List Review) := none
  /-- `catalog/quality_report.json`. -/
  qualityReportJson : Option String := none

/-- What a stage is run with: Python, the raw directory, a source file as its lines, and the
cap of lines. -/
structure Setting where
  py : Python
  raw : String → Option (List String)
  cap : Option ℕ

/-- A program on the disk. -/
abbrev DiskOp (α : Type) := Program Disk Failure α

/-- The candidates database, which a connection creates where it is not there. -/
def Disk.db (d : Disk) : CandidatesDb := d.candidatesDb.getD {}

/-- The disk with another candidates database. -/
def Disk.withDb (d : Disk) (db : CandidatesDb) : Disk := { d with candidatesDb := some db }

@[simp] theorem Disk.withDb_db (d : Disk) (db : CandidatesDb) : (d.withDb db).db = db := rfl

/-- A transaction on the candidates database. -/
def transact (f : CandidatesDb → CandidatesDb) : DiskOp Unit :=
  Program.durable fun d => d.withDb (f d.db)

/-- `connect` and `ensure_schema`. -/
def ensureSchema : DiskOp Unit := transact id

/-- The database with another row for a stage. -/
def CandidatesDb.setStageState (db : CandidatesDb) (stage : Stage) (state : StageState) :
    CandidatesDb :=
  { db with stageState := Function.update db.stageState stage (some state) }

/-- `write_stage_state`. -/
def writeStageState (stage : Stage) (status : StageStatus) (maxLinesDebug : Option ℕ)
    (records : ℕ := 0) : DiskOp Unit :=
  transact fun db => db.setStageState stage { status, maxLinesDebug, records }

/-- The row of a stage says that it is complete at the cap. -/
def CandidatesDb.completeAt (db : CandidatesDb) (stage : Stage) (cap : Option ℕ) : Bool :=
  (db.stageState stage).any fun state =>
    decide (state.status = .complete) && decide (state.maxLinesDebug = cap)

/-- `_stage_is_complete`. -/
def stageIsComplete (stage : Stage) (cap : Option ℕ) (artifact : Disk → Bool) : DiskOp Bool :=
  Program.read fun d => d.db.completeAt stage cap && artifact d

end Pipeline
end AgenticCommerce
