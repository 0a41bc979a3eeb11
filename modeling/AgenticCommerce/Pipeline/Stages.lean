/-
# What the later stages share

Stages 2 to 6 of `pipeline/build_catalog.py` have one frame: they refuse to run where an input is
missing, report what is there when their own row of `stage_state` says that they are complete at
this cap and their own artifact is there, and otherwise mark themselves as running, build, and
mark themselves as complete (`Plan.run`).

Wherever such a run is stopped, either it changed nothing of note (`Idle`), or it wrote to its own
output and its own row alone (`Writes`), and it is not marked as complete before its end
(`Plan.Lawful.run_open`).
-/

import AgenticCommerce.Pipeline.Products
import AgenticCommerce.Pipeline.Scan

namespace AgenticCommerce
namespace Pipeline

open Relational Program Work

/-- `UNCATEGORIZED`. -/
def uncategorized : String := "uncategorized_review"

/-- `META_SOURCES`. -/
def metaSources : List String :=
  ["meta_Electronics.jsonl.gz", "meta_Cell_Phones_and_Accessories.jsonl.gz",
    "meta_Appliances.jsonl.gz", "meta_Home_and_Kitchen.jsonl.gz"]

/-- `REVIEW_SOURCES`. -/
def reviewSources : List String :=
  ["Electronics.jsonl.gz", "Cell_Phones_and_Accessories.jsonl.gz", "Appliances.jsonl.gz",
    "Home_and_Kitchen.jsonl.gz"]

/-- `SUBCATEGORY_QUOTAS`. -/
def subcategoryQuotas : List (String × ℤ) :=
  [("laptop", 3000), ("smartphone", 2500), ("monitor", 2000), ("audio", 2500),
    ("computer_accessory", 2500), ("phone_accessory", 2000), ("camera", 1500),
    ("home_electronics", 2000), ("appliance", 1500), (uncategorized, 500)]

/-- What the pipeline is run with, the cap apart. -/
structure Config where
  py : Python
  tools : Toolbox
  /-- A source file of the raw directory, as its lines. -/
  raw : String → Option (List String)
  metaSources : List String := Pipeline.metaSources
  reviewSources : List String := Pipeline.reviewSources
  quotas : List (String × ℤ) := subcategoryQuotas
  batchSize : ℕ := 2000

/-- What stage 1 is run with. -/
def Config.setting (config : Config) (cap : Option ℕ) : Setting :=
  { py := config.py, raw := config.raw, cap }

/-! ### What a step leaves as it was -/

/-- The output of a stage is the same, or the review file was created. -/
def SameOutput : Stage → Disk → Disk → Prop
  | .products, d, d' => d'.db.candidates = d.db.candidates ∧
      d'.db.sourceProgress = d.db.sourceProgress
  | .select, d, d' => d'.productsJsonl = d.productsJsonl
  | .images, d, d' => d'.imagesManifestJsonl = d.imagesManifestJsonl
  | .offers, d, d' => d'.offersJsonl = d.offersJsonl
  | .reviews, d, d' => d'.reviewsDb = d.reviewsDb ∨ d.reviewsDb = none ∧ d'.reviewsDb = some []
  | .report, d, d' => d'.qualityReportJson = d.qualityReportJson

theorem SameOutput.refl (T : Stage) (d : Disk) : SameOutput T d d := by
  cases T
  case products => exact ⟨rfl, rfl⟩
  case reviews => exact .inl rfl
  all_goals exact rfl

theorem SameOutput.trans {T : Stage} {d d' d'' : Disk} (h : SameOutput T d d')
    (h' : SameOutput T d' d'') : SameOutput T d d'' := by
  cases T
  case products => exact ⟨h'.1.trans h.1, h'.2.trans h.2⟩
  case reviews =>
    rcases h' with h' | ⟨hnone, hnil⟩
    · rcases h with h | ⟨hnone, hnil⟩
      · exact .inl (h'.trans h)
      · exact .inr ⟨hnone, h'.trans hnil⟩
    · rcases h with h | ⟨-, hsome⟩
      · exact .inr ⟨h.symm.trans hnone, hnil⟩
      · exact nomatch hsome.symm.trans hnone
  all_goals exact Eq.trans h' h

/-- No output and no mark changed. -/
structure Idle (d d' : Disk) : Prop where
  marks : ∀ T, d'.db.stageState T = d.db.stageState T
  outputs : ∀ T, SameOutput T d d'

/-- Nothing changed but the output of `S`. -/
structure Produces (S : Stage) (d d' : Disk) : Prop where
  marks : ∀ T, d'.db.stageState T = d.db.stageState T
  outputs : ∀ T, T ≠ S → SameOutput T d d'

/-- Nothing changed but the output and the mark of `S`. -/
structure Writes (S : Stage) (d d' : Disk) : Prop where
  marks : ∀ T, T ≠ S → d'.db.stageState T = d.db.stageState T
  outputs : ∀ T, T ≠ S → SameOutput T d d'

instance : IsPreorder Disk Idle where
  refl d := ⟨fun _ => rfl, fun T => .refl T d⟩
  trans _ _ _ h h' := ⟨fun T => (h'.marks T).trans (h.marks T),
    fun T => (h.outputs T).trans (h'.outputs T)⟩

instance (S : Stage) : IsPreorder Disk (Produces S) where
  refl d := ⟨fun _ => rfl, fun T _ => .refl T d⟩
  trans _ _ _ h h' := ⟨fun T => (h'.marks T).trans (h.marks T),
    fun T hT => (h.outputs T hT).trans (h'.outputs T hT)⟩

instance (S : Stage) : IsPreorder Disk (Writes S) where
  refl d := ⟨fun _ _ => rfl, fun T _ => .refl T d⟩
  trans _ _ _ h h' := ⟨fun T hT => (h'.marks T hT).trans (h.marks T hT),
    fun T hT => (h.outputs T hT).trans (h'.outputs T hT)⟩

variable {S : Stage} {d d' : Disk} {cap : Option ℕ}

theorem Idle.writes (h : Idle d d') : Writes S d d' :=
  ⟨fun T _ => h.marks T, fun T _ => h.outputs T⟩

theorem Produces.writes (h : Produces S d d') : Writes S d d' := ⟨fun T _ => h.marks T, h.outputs⟩

/-- Connecting to the database changes nothing of note. -/
theorem idle_withDb (d : Disk) : Idle d (d.withDb d.db) :=
  ⟨fun _ => rfl, fun T => by cases T <;> first | exact ⟨rfl, rfl⟩ | exact .inl rfl | rfl⟩

/-- The disk with another mark for a stage. -/
def Disk.mark (S : Stage) (state : StageState) (d : Disk) : Disk :=
  d.withDb (d.db.setStageState S state)

theorem sameOutput_mark {state : StageState} (T : Stage) : SameOutput T d (d.mark S state) := by
  cases T <;> first | exact ⟨rfl, rfl⟩ | exact .inl rfl | rfl

theorem stageState_mark {state : StageState} {T : Stage} (hT : T ≠ S) :
    (d.mark S state).db.stageState T = d.db.stageState T := Function.update_of_ne hT _ _

theorem stageState_mark_self {state : StageState} :
    (d.mark S state).db.stageState S = some state := Function.update_self _ _ _

theorem writes_mark {state : StageState} : Writes S d (d.mark S state) :=
  ⟨fun _ hT => stageState_mark hT, fun T _ => sameOutput_mark T⟩

/-- What a stage is marked as is read off its row. -/
theorem completeAt_congr {T : Stage} {db db' : CandidatesDb}
    (h : db'.stageState T = db.stageState T) : db'.completeAt T cap = db.completeAt T cap := by
  rw [CandidatesDb.completeAt, CandidatesDb.completeAt, h]

/-- A stage that is marked as running is not complete. -/
theorem completeAt_of_running {c : Option ℕ} {records : ℕ}
    (h : d.db.stageState S = some { status := .running, maxLinesDebug := c, records }) :
    d.db.completeAt S cap = false := by
  rw [CandidatesDb.completeAt, h]
  rfl

/-- A stage that is marked as complete is so at the cap of the mark. -/
theorem completeAt_of_complete {c : Option ℕ} {records : ℕ}
    (h : d.db.stageState S = some { status := .complete, maxLinesDebug := c, records }) :
    d.db.completeAt S cap = decide (c = cap) := by
  rw [CandidatesDb.completeAt, h]
  rfl

/-! ### The frame -/

/-- What a stage fills the frame with. -/
structure Plan (α : Type) where
  stage : Stage
  /-- What it raises where an input is missing. -/
  required : Disk → Option Failure
  /-- What it does before it looks at its mark. -/
  prepare : Disk → Disk := id
  /-- Its artifact is there. -/
  artifact : Disk → Bool
  /-- What it reports when there is nothing to do. -/
  kept : Disk → Except Failure α
  /-- What it does otherwise, with the number of its records. -/
  build : DiskOp (ℕ × α)

namespace Plan

variable {α : Type} (plan : Plan α)

/-- The stage is marked, built, and marked again. -/
def rebuild (cap : Option ℕ) : DiskOp (Bool × α) := do
  writeStageState plan.stage .running cap
  let (records, result) ← plan.build
  writeStageState plan.stage .complete cap records
  pure (true, result)

/-- The stage reports what is there. -/
def report : DiskOp (Bool × α) := do
  let kept ← read plan.kept
  let result ← answer kept
  pure (false, result)

/-- A run of the stage, with whether it was rebuilt. -/
def run (cap : Option ℕ) (force : Bool) : DiskOp (Bool × α) := do
  let missing ← read plan.required
  answer (missing.elim (.ok ()) .error)
  ensureSchema
  durable plan.prepare
  let complete ← stageIsComplete plan.stage cap plan.artifact
  if complete && !force then plan.report else plan.rebuild cap

/-- The disk on which the stage looks at its mark. -/
def prepared (d : Disk) : Disk := plan.prepare (d.withDb d.db)

/-- The stage has nothing to do. -/
def upToDate (cap : Option ℕ) (d : Disk) : Bool :=
  (plan.prepared d).db.completeAt plan.stage cap && plan.artifact (plan.prepared d)

/-- What a stage must do to fill the frame: `current` says of its output that it is what the stage
computes at a cap. -/
structure Lawful (current : Option ℕ → Disk → Prop) (cap : Option ℕ) : Prop where
  prepare : ∀ d, Idle d (plan.prepare d)
  build : Moves (Journal.Along (Produces plan.stage)) plan.build
  builds : Delivers (fun _ => True) plan.build fun _ j => current cap j.state
  mark : ∀ d state, current cap d → current cap (d.mark plan.stage state)

variable {plan} {current : Option ℕ → Disk → Prop} {force : Bool} {j : Journal Disk}

theorem Lawful.prepared (h : plan.Lawful current cap) (d : Disk) : Idle d (plan.prepared d) :=
  trans_of Idle (idle_withDb d) (h.prepare _)

/-- The stage refuses, has nothing to do, or is rebuilt. -/
theorem run_eq : plan.run cap force j =
    match plan.required j.state with
    | some e => .error e j
    | none =>
        (if plan.upToDate cap j.state && !force then plan.report else plan.rebuild cap)
          ((j.record (j.state.withDb j.state.db)).record (plan.prepared j.state)) := by
  cases hrequired : plan.required j.state with
  | some e =>
      have hread : (read plan.required : DiskOp _) j = .ok (some e) j := by rw [← hrequired]; rfl
      exact (Work.bind_of_ok hread).trans rfl
  | none =>
      have hread : (read plan.required : DiskOp _) j = .ok none j := by rw [← hrequired]; rfl
      exact (Work.bind_of_ok hread).trans rfl

/-- The mark that a rebuilding begins with. -/
def running (cap : Option ℕ) (d : Disk) : Disk :=
  d.mark plan.stage { status := .running, maxLinesDebug := cap, records := 0 }

/-- The mark that a rebuilding ends with. -/
def complete (cap : Option ℕ) (records : ℕ) (d : Disk) : Disk :=
  d.mark plan.stage { status := .complete, maxLinesDebug := cap, records }

/-- The rebuilding raises where the building does. -/
theorem rebuild_of_error {e : Failure} {j' : Journal Disk}
    (h : plan.build (j.record (plan.running cap j.state)) = .error e j') :
    plan.rebuild cap j = .error e j' := by
  have hstart : writeStageState plan.stage .running cap 0 j =
      .ok () (j.record (plan.running cap j.state)) := rfl
  exact (Work.bind_of_ok hstart).trans (Work.bind_of_error h)

/-- The rebuilding marks what was built. -/
theorem rebuild_of_ok {records : ℕ} {result : α} {j' : Journal Disk}
    (h : plan.build (j.record (plan.running cap j.state)) = .ok (records, result) j') :
    plan.rebuild cap j = .ok (true, result) (j'.record (plan.complete cap records j'.state)) := by
  have hstart : writeStageState plan.stage .running cap 0 j =
      .ok () (j.record (plan.running cap j.state)) := rfl
  exact (Work.bind_of_ok hstart).trans (Work.bind_of_ok h)

/-- What is built after the first mark is not marked as complete. -/
theorem produces_running {t : Disk} (h : Produces plan.stage (plan.running cap d) t) :
    Writes plan.stage d t ∧ ∀ c, t.db.completeAt plan.stage c = false := by
  refine ⟨trans_of (Writes plan.stage) writes_mark h.writes, fun c => ?_⟩
  exact completeAt_of_running ((h.marks plan.stage).trans stageState_mark_self)

/-- **A rebuilding that returns** leaves the output current, and marked at the cap. -/
theorem Lawful.rebuild_returns (h : plan.Lawful current cap) {rebuilt : Bool × α}
    {j' : Journal Disk} (hrun : plan.rebuild cap j = .ok rebuilt j') :
    rebuilt.1 = true ∧ Writes plan.stage j.state j'.state ∧ current cap j'.state ∧
      ∀ c, j'.state.db.completeAt plan.stage c = decide (cap = c) := by
  cases hbuild : plan.build (j.record (plan.running cap j.state)) with
  | error e jb =>
      rw [rebuild_of_error hbuild] at hrun
      exact nomatch hrun
  | ok built jb =>
      rw [rebuild_of_ok hbuild] at hrun
      obtain ⟨rfl, rfl⟩ := EStateM.Result.ok.inj hrun
      have hproduced := (h.build.1 _ _ _ hbuild).state
      have hcurrent := h.builds _ _ _ trivial hbuild
      refine ⟨rfl, trans_of _ (produces_running hproduced).1 writes_mark, h.mark _ _ hcurrent, ?_⟩
      exact fun c => completeAt_of_complete stageState_mark_self

/-! ### A run -/

/-- Reporting leaves everything as it is. -/
theorem moves_report : Moves Eq plan.report := Moves.ask.bind fun _ => Moves.ask.bind fun _ => .pure

/-- **A run that returns** found nothing to do, or rebuilt. -/
theorem Lawful.run_returns (h : plan.Lawful current cap) {rebuilt : Bool × α} {j' : Journal Disk}
    (hrun : plan.run cap force j = .ok rebuilt j') :
    if plan.upToDate cap j.state && !force then rebuilt.1 = false ∧ Idle j.state j'.state
    else rebuilt.1 = true ∧ Writes plan.stage j.state j'.state ∧ current cap j'.state ∧
      ∀ c, j'.state.db.completeAt plan.stage c = decide (cap = c) := by
  rw [run_eq] at hrun
  split at hrun
  · exact nomatch hrun
  · split
    · rename_i hdone
      rw [if_pos hdone] at hrun
      obtain ⟨kept, j₁, hkept, hrest⟩ := bind_eq_ok.1 hrun
      obtain ⟨result, j₂, hresult, hpure⟩ := bind_eq_ok.1 hrest
      obtain rfl := (ask_eq_ok.1 hkept).2
      obtain rfl := (ask_eq_ok.1 hresult).2
      obtain ⟨rfl, rfl⟩ := pure_eq_ok.1 hpure
      exact ⟨rfl, h.prepared j.state⟩
    · rename_i hdone
      rw [if_neg hdone] at hrun
      obtain ⟨hrebuilt, hwrites, hrest⟩ := h.rebuild_returns hrun
      exact ⟨hrebuilt, trans_of _ (h.prepared j.state).writes hwrites, hrest⟩

/-- Wherever a rebuilding is before its last mark, its output is not marked as complete. -/
theorem Lawful.rebuild_open (h : plan.Lawful current cap) {t : Disk}
    (ht : t ∈ (final (plan.rebuild cap) j).log.dropLast ∨
      ∃ e j', plan.rebuild cap j = .error e j' ∧ t = j'.state) :
    t ∈ j.log ∨ Writes plan.stage j.state t ∧ ∀ c, t.db.completeAt plan.stage c = false := by
  have hbuilt {j' : Journal Disk} (halong : Journal.Along (Produces plan.stage)
      (j.record (plan.running cap j.state)) j') {t : Disk} (ht : t ∈ j'.log) :
      t ∈ j.log ∨ Writes plan.stage j.state t ∧ ∀ c, t.db.completeAt plan.stage c = false := by
    obtain ⟨-, new, hlog, hnew⟩ := halong
    rw [hlog] at ht
    rcases List.mem_append.1 ht with ht | ht
    · rcases List.mem_append.1 ht with ht | ht
      · exact .inl ht
      · obtain rfl := List.mem_singleton.1 ht
        exact .inr (produces_running (refl_of _ _))
    · exact .inr (produces_running (hnew t ht))
  cases hbuild : plan.build (j.record (plan.running cap j.state)) with
  | error e jb =>
      have halong := h.build.2 _ _ _ hbuild
      rcases ht with ht | ⟨e', j', hrun, rfl⟩
      · rw [final, rebuild_of_error hbuild] at ht
        exact hbuilt halong (List.mem_of_mem_dropLast ht)
      · rw [rebuild_of_error hbuild] at hrun
        obtain ⟨-, rfl⟩ := EStateM.Result.error.inj hrun
        exact .inr (produces_running halong.state)
  | ok built jb =>
      rcases ht with ht | ⟨e', j', hrun, -⟩
      · rw [final, rebuild_of_ok hbuild] at ht
        have hlog : (jb.record (plan.complete cap built.1 jb.state)).log.dropLast = jb.log :=
          List.dropLast_concat
        rw [hlog] at ht
        exact hbuilt (h.build.1 _ _ _ hbuild) ht
      · rw [rebuild_of_ok hbuild] at hrun
        cases hrun

/-- What a run has done when it looks at its mark. -/
def started (d : Disk) : Journal Disk :=
  { state := plan.prepared d, log := [d.withDb d.db, plan.prepared d] }

theorem run_eq_started {d : Disk} (hrequired : plan.required d = none) :
    plan.run cap force { state := d } =
      (if plan.upToDate cap d && !force then plan.report else plan.rebuild cap)
        (plan.started d) := by
  rw [run_eq, hrequired]
  rfl

/-- **Wherever a run is stopped** before its end, or raises, it changed nothing of note, or its
output is not marked as complete. -/
theorem Lawful.run_open (h : plan.Lawful current cap) {d t : Disk}
    (ht : t ∈ (leaves (plan.run cap force) d).dropLast ∨
      ∃ e j', plan.run cap force { state := d } = .error e j' ∧ t = j'.state) :
    Idle d t ∨ Writes plan.stage d t ∧ ∀ c, t.db.completeAt plan.stage c = false := by
  have hidle {t : Disk} (ht : t ∈ (plan.started d).log) : Idle d t := by
    rcases List.mem_cons.1 ht with rfl | ht
    · exact idle_withDb d
    · obtain rfl := List.mem_singleton.1 ht
      exact h.prepared d
  have hhead {l : List Disk} (ht : t ∈ (d :: l).dropLast) : t = d ∨ t ∈ l.dropLast := by
    cases l with
    | nil => exact absurd ht List.not_mem_nil
    | cons e l => exact List.mem_cons.1 ht
  cases hrequired : plan.required d with
  | some e =>
      have hrun : plan.run cap force { state := d } = .error e { state := d } := by
        rw [run_eq, hrequired]
      rcases ht with ht | ⟨e', j', herror, rfl⟩
      · rw [leaves, final, hrun] at ht
        exact absurd ht List.not_mem_nil
      · rw [hrun] at herror
        obtain ⟨-, rfl⟩ := EStateM.Result.error.inj herror
        exact .inl (refl_of _ _)
  | none =>
      have hrun : plan.run cap force { state := d } = _ := run_eq_started hrequired
      by_cases hdone : (plan.upToDate cap d && !force) = true
      · rw [if_pos hdone] at hrun
        rcases ht with ht | ⟨e', j', herror, rfl⟩
        · rw [leaves, final, hrun] at ht
          change t ∈ (d :: (final plan.report (plan.started d)).log).dropLast at ht
          rw [← moves_report.final] at ht
          rcases hhead ht with rfl | ht
          · exact .inl (refl_of _ _)
          · exact .inl (hidle (List.mem_of_mem_dropLast ht))
        · rw [hrun] at herror
          obtain rfl := moves_report.2 _ _ _ herror
          exact .inl (h.prepared d)
      · rw [if_neg hdone] at hrun
        have hopen {t : Disk} (ht : t ∈ (final (plan.rebuild cap) (plan.started d)).log.dropLast ∨
            ∃ e j', plan.rebuild cap (plan.started d) = .error e j' ∧ t = j'.state) :
            Idle d t ∨ Writes plan.stage d t ∧ ∀ c, t.db.completeAt plan.stage c = false := by
          rcases h.rebuild_open ht with ht | ⟨hwrites, hincomplete⟩
          · exact .inl (hidle ht)
          · exact .inr ⟨trans_of _ (h.prepared d).writes hwrites, hincomplete⟩
        rcases ht with ht | ⟨e', j', herror, rfl⟩
        · rw [leaves, final, hrun] at ht
          rcases hhead ht with rfl | ht
          · exact .inl (refl_of _ _)
          · exact hopen (.inl ht)
        · rw [hrun] at herror
          exact hopen (.inr ⟨e', j', herror, rfl⟩)

end Plan

end Pipeline
end AgenticCommerce
