/-
# Runs of the stages

The command line of `pipeline/build_catalog.py`: one stage, or all in order, where a stage that was
rebuilt forces those that follow (`runAll`).  A session at the command line is any sequence of
stages, with any flags, each of them run to its end, refused on the way or killed (`History`).
-/

import AgenticCommerce.Pipeline.Artifacts
import AgenticCommerce.Pipeline.Selection

namespace AgenticCommerce
namespace Pipeline

open Relational Program Work Journal

variable (config : Config)

/-- A run of a stage, with whether it did anything: `not result.already_complete`. -/
def runStage (cap : Option ℕ) (force : Bool) : Stage → DiskOp Bool
  | .products => do
      let result ← stageProducts (config.setting cap) config.batchSize config.metaSources force
      pure (!result.alreadyComplete)
  | .select => do
      let result ← (stageSelect config).run cap force
      pure result.1
  | .images => do
      let result ← (stageImages config).run cap force
      pure result.1
  | .offers => do
      let result ← (stageOffers config).run cap force
      pure result.1
  | .reviews => do
      let result ← (stageReviews config cap).run cap force
      pure result.1
  | .report => do
      let result ← (stageReport config).run cap force
      pure result.1

/-- `STAGE_HANDLERS`: a run of a stage, with `last_stage_rebuilt`, which is `False` for the
report. -/
def handleStage (cap : Option ℕ) (force : Bool) (stage : Stage) : DiskOp Bool := do
  let rebuilt ← runStage config cap force stage
  pure (rebuilt && !decide (stage = .report))

/-- `STAGE_ORDER`. -/
def stageOrder : List Stage := [.products, .select, .images, .offers, .reviews, .report]

/-- The body of the loop of `main`, over `args.force` and `_downstream_dirty`. -/
def runNext (cap : Option ℕ) (flags : Bool × Bool) (stage : Stage) : DiskOp (Bool × Bool) := do
  let force := flags.1 || flags.2
  let rebuilt ← handleStage config cap force stage
  pure (force, flags.2 || rebuilt)

/-- `main` with `all`. -/
def runAll (cap : Option ℕ) (force : Bool) : DiskOp (Bool × Bool) :=
  stageOrder.foldlM (runNext config cap) (force, false)

/-- A disk that a session can come to, with the disk on which each stage was last rebuilt: a
stage is run to its end, raises, or is killed before its last durable step. -/
inductive History : Disk → (Stage → Option Disk) → Prop where
  | fresh : History {} fun _ => none
  | returned {built : Stage → Option Disk} {cap : Option ℕ} {force : Bool} {stage : Stage}
      {rebuilt : Bool} {j j' : Journal Disk} (h : History j.state built)
      (hrun : runStage config cap force stage j = .ok rebuilt j') :
      History j'.state (if rebuilt then Function.update built stage (some j'.state) else built)
  | raised {d : Disk} {built : Stage → Option Disk} {cap : Option ℕ} {force : Bool} {stage : Stage}
      {e : Failure} {j : Journal Disk} (h : History d built)
      (hrun : runStage config cap force stage { state := d } = .error e j) : History j.state built
  | killed {d t : Disk} {built : Stage → Option Disk} {cap : Option ℕ} {force : Bool}
      {stage : Stage} (h : History d built)
      (ht : t ∈ (leaves (runStage config cap force stage) d).dropLast) : History t built

/-- What is computed from what is on the disk. -/
def Current (cap : Option ℕ) : Stage → Disk → Prop
  | .products, _ => True
  | .select, d => ProductsCurrent config d
  | .images, d => ManifestCurrent config d
  | .offers, d => OffersCurrent config d
  | .reviews, d => ReviewsCurrent config cap d
  | .report, d => ReportCurrent config d

/-- The stage finds nothing to do at the cap. -/
def upToDate (cap : Option ℕ) (d : Disk) : Stage → Bool
  | .products => productsUpToDate (config.setting cap) config.metaSources false d.db
  | .select => (stageSelect config).upToDate cap d
  | .images => (stageImages config).upToDate cap d
  | .offers => (stageOffers config).upToDate cap d
  | .reviews => (stageReviews config cap).upToDate cap d
  | .report => (stageReport config).upToDate cap d

/-! ### What a run of a stage does -/

variable {config} {cap : Option ℕ} {force : Bool} {stage : Stage}

/-- What a run of a stage that returns does. -/
structure Returns (config : Config) (cap : Option ℕ) (stage : Stage) (rebuilt : Bool)
    (d d' : Disk) : Prop where
  kept : rebuilt = false → Idle d d' ∧ upToDate config cap d stage = true
  writes : rebuilt = true → Writes stage d d' ∧ Current config cap stage d'
  marks : rebuilt = true → stage ≠ .products →
    ∀ c, d'.db.completeAt stage c = decide (cap = c)

/-- A program whose answer is changed leaves the same. -/
theorem final_map {σ ε α β : Type} {m : Work σ ε α} {f : α → β} (s : σ) :
    final (do let a ← m; pure (f a) : Work σ ε β) s = final m s := by
  rcases final_cases m s with ⟨a, ha⟩ | ⟨e, he⟩
  · have hrun : (do let a ← m; pure (f a) : Work σ ε β) s = .ok (f a) (final m s) :=
      (bind_of_ok ha).trans rfl
    rw [final, hrun]
  · have hrun : (do let a ← m; pure (f a) : Work σ ε β) s = .error e (final m s) :=
      bind_of_error he
    rw [final, hrun]

/-! ### Stage 1 -/

theorem writes_products {d : Disk} {db : CandidatesDb}
    (h : ∀ T, T ≠ .products → db.stageState T = d.db.stageState T) :
    Writes .products d (d.withDb db) :=
  ⟨h, fun T hT => by
    cases T <;> first | exact absurd rfl hT | exact .inl rfl | rfl⟩

theorem transact_writes {f : CandidatesDb → CandidatesDb}
    (h : ∀ db T, T ≠ .products → (f db).stageState T = db.stageState T) :
    Moves (Along (Writes .products)) (transact f) :=
  moves_durable fun d => writes_products (h d.db)

theorem writeStageState_writes {status : StageStatus} {records : ℕ} :
    Moves (Along (Writes .products)) (writeStageState .products status cap records) :=
  transact_writes fun _ _ hT => Function.update_of_ne hT _ _

theorem flush_writes (scan : Scan) : Moves (Along (Writes .products)) scan.flush := by
  refine Moves.ite (fun _ => .pure) fun _ => Moves.bind (moves_tryDurable fun j s hs => ?_)
    fun _ => .pure
  cases hbatch : insertBatch j.state.db.candidates scan.pending with
  | error e =>
      rw [hbatch] at hs
      exact nomatch hs
  | ok candidates =>
      rw [hbatch] at hs
      obtain rfl := Except.ok.inj hs
      exact .record (writes_products fun _ _ => rfl)

theorem stageProducts_writes {setting : Setting} {batchSize : ℕ} {sources : List String} :
    Moves (Along (Writes .products)) (stageProducts setting batchSize sources force) := by
  have hrecord (sourceName : String) (scan : Scan) (record : Record) :
      Moves (Along (Writes .products)) (scanRecord setting.py batchSize sourceName scan record) := by
    refine Moves.bind .ask fun evaluation => ?_
    cases evaluation with
    | rejected reason => exact .pure
    | accepted row =>
        refine Moves.bind ?_ fun _ => .pure
        exact Moves.ite (fun _ => flush_writes _) fun _ => .pure
  have hvisit (completed : String → Bool) (scan : Scan) (sourceName : String) :
      Moves (Along (Writes .products)) (visitSource setting batchSize completed scan sourceName) := by
    unfold visitSource
    split
    · exact .pure
    · refine Moves.ite (fun _ => .pure) fun _ => ?_
      refine (Moves.foldlM (hrecord sourceName) _).bind fun _ => (flush_writes _).bind fun scan => ?_
      show Moves (Along (Writes .products)) (transact _ >>= _)
      exact (transact_writes (by exact fun _ _ _ => rfl)).bind fun _ => .pure
  refine (transact_writes (by exact fun _ _ _ => rfl)).bind fun _ => Moves.bind .ask fun db => ?_
  refine Moves.ite (fun _ => .pure) fun _ => writeStageState_writes.bind fun _ => ?_
  refine Moves.ite (fun _ => .throw) fun _ => ?_
  refine (Moves.foldlM (hvisit _) _).bind fun _ => (flush_writes _).bind fun scan => ?_
  refine Moves.ite (fun _ => writeStageState_writes.bind fun _ => .throw) fun _ => ?_
  exact Moves.bind .ask fun _ => writeStageState_writes.bind fun _ => .pure

/-- Whatever is read, the result says that there was something to do. -/
def Scan.Busy (scan : Scan) : Prop := scan.result.alreadyComplete = false

/-- The program answers with such a scan, wherever it is run. -/
def KeepsBusy (m : DiskOp Scan) : Prop := ∀ j scan j', m j = .ok scan j' → scan.Busy

theorem KeepsBusy.pure {scan : Scan} (h : scan.Busy) : KeepsBusy (pure scan) := by
  intro j scan' j' hrun
  obtain ⟨rfl, -⟩ := pure_eq_ok.1 hrun
  exact h

theorem KeepsBusy.bind {m : DiskOp Scan} {f : Scan → DiskOp Scan} (h : KeepsBusy m)
    (hf : ∀ scan, scan.Busy → KeepsBusy (f scan)) : KeepsBusy (m >>= f) := by
  intro j scan' j' hrun
  obtain ⟨scan, j₁, hm, hrest⟩ := bind_eq_ok.1 hrun
  exact hf scan (h j scan j₁ hm) j₁ scan' j' hrest

/-- After a step whose answer does not matter. -/
theorem KeepsBusy.after {α : Type} {m : DiskOp α} {f : α → DiskOp Scan}
    (hf : ∀ a, KeepsBusy (f a)) : KeepsBusy (m >>= f) := by
  intro j scan' j' hrun
  obtain ⟨a, j₁, -, hrest⟩ := bind_eq_ok.1 hrun
  exact hf a j₁ scan' j' hrest

theorem KeepsBusy.foldlM {α : Type} {f : Scan → α → DiskOp Scan}
    (hf : ∀ scan a, scan.Busy → KeepsBusy (f scan a)) : ∀ (l : List α) {scan : Scan},
      scan.Busy → KeepsBusy (l.foldlM f scan)
  | [], _, h => .pure h
  | a :: l, scan, h => by
      rw [List.foldlM_cons]
      exact (hf scan a h).bind fun _ h => foldlM hf l h

theorem flush_busy {scan : Scan} (h : scan.Busy) : KeepsBusy scan.flush := by
  unfold Scan.flush
  split_ifs
  · exact .pure h
  · exact .after fun _ => .pure h

theorem scanRecord_busy {py : Python} {batchSize : ℕ} {sourceName : String} (scan : Scan)
    (record : Record) (h : scan.Busy) : KeepsBusy (scanRecord py batchSize sourceName scan record) := by
  refine .after fun evaluation => ?_
  cases evaluation with
  | rejected reason => exact .pure h
  | accepted row =>
      refine KeepsBusy.bind ?_ fun scan h => .pure h
      unfold Scan.add
      dsimp only
      split_ifs
      · exact flush_busy h
      · exact .pure h

theorem visitSource_busy {setting : Setting} {batchSize : ℕ} {completed : String → Bool}
    (scan : Scan) (sourceName : String) (h : scan.Busy) :
    KeepsBusy (visitSource setting batchSize completed scan sourceName) := by
  unfold visitSource
  split
  · exact .pure h
  · split_ifs
    · exact .pure h
    · exact (KeepsBusy.foldlM scanRecord_busy _ h).bind fun scan h => (flush_busy h).bind
        fun scan h => .after fun _ => .pure h

/-- A scan does not report that there was nothing to do. -/
theorem scanSources_busy {setting : Setting} {batchSize : ℕ} {sources seen : List String}
    {completed : String → Bool} {j j' : Journal Disk} {result : StageResult}
    (hrun : scanSources setting batchSize sources completed seen j = .ok result j') :
    result.alreadyComplete = false := by
  obtain ⟨_, j₁, -, hrest⟩ := bind_eq_ok.1 hrun
  split_ifs at hrest with hsize
  · exact (throw_eq_ok.1 hrest).elim
  · obtain ⟨read, j₂, hread, hrest⟩ := bind_eq_ok.1 hrest
    have hstart : Scan.Busy { seen } := rfl
    have hbusy := KeepsBusy.foldlM visitSource_busy sources hstart j₁ read j₂ hread
    obtain ⟨scan, j₃, hflush, hrest⟩ := bind_eq_ok.1 hrest
    have hbusy' := flush_busy hbusy j₂ scan j₃ hflush
    split_ifs at hrest with hmissing
    · obtain ⟨_, j₄, -, hthrow⟩ := bind_eq_ok.1 hrest
      exact (throw_eq_ok.1 hthrow).elim
    · obtain ⟨total, j₄, -, hrest⟩ := bind_eq_ok.1 hrest
      obtain ⟨_, j₅, -, hpure⟩ := bind_eq_ok.1 hrest
      obtain ⟨rfl, -⟩ := pure_eq_ok.1 hpure
      exact hbusy'

/-- **A run of stage 1 that returns** found nothing to do, or wrote candidates. -/
theorem products_returns {j j' : Journal Disk} {rebuilt : Bool}
    (hrun : runStage config cap force .products j = .ok rebuilt j') :
    Returns config cap .products rebuilt j.state j'.state ∧ (force = true → rebuilt = true) := by
  obtain ⟨result, j₁, hproducts, hpure⟩ := bind_eq_ok.1 hrun
  obtain ⟨rfl, rfl⟩ := pure_eq_ok.1 hpure
  have hwrites : Writes .products j.state j₁.state := (stageProducts_writes.1 _ _ _ hproducts).state
  rw [stageProducts_eq] at hproducts
  split_ifs at hproducts with hdone
  · obtain ⟨rfl, rfl⟩ := pure_eq_ok.1 hproducts
    have hforce : force = false := by
      rw [productsUpToDate, Bool.and_eq_true, Bool.and_eq_true] at hdone
      simpa using hdone.1.2
    subst hforce
    exact ⟨⟨fun _ => ⟨idle_withDb _, hdone⟩, fun h => (by cases h), fun h => (by cases h)⟩,
      fun h => (by cases h)⟩
  · have hbusy := scanSources_busy hproducts
    rw [hbusy]
    exact ⟨⟨fun h => (by cases h), fun _ => ⟨hwrites, trivial⟩, fun _ h => absurd rfl h⟩,
      fun _ => rfl⟩

/-! ### Any stage -/

/-- A run of a plan that returns. -/
theorem Plan.Lawful.returns {α : Type} {plan : Plan α} {current : Option ℕ → Disk → Prop}
    (h : plan.Lawful current cap)
    (hcurrent : ∀ d, current cap d → Current config cap plan.stage d)
    (hdone : ∀ d, Pipeline.upToDate config cap d plan.stage = plan.upToDate cap d) {j j' : Journal Disk}
    {rebuilt : Bool}
    (hrun : (do let result ← plan.run cap force; pure result.1 : DiskOp Bool) j = .ok rebuilt j') :
    Returns config cap plan.stage rebuilt j.state j'.state ∧ (force = true → rebuilt = true) := by
  obtain ⟨result, j₁, hplan, hpure⟩ := bind_eq_ok.1 hrun
  obtain ⟨rfl, rfl⟩ := pure_eq_ok.1 hpure
  have hreturns := h.run_returns hplan
  split_ifs at hreturns with hkept
  · obtain ⟨hrebuilt, hidle⟩ := hreturns
    rw [Bool.and_eq_true, Bool.not_eq_true'] at hkept
    rw [hrebuilt, hkept.2]
    exact ⟨⟨fun _ => ⟨hidle, (hdone _).trans hkept.1⟩, fun h => (by cases h),
      fun h => (by cases h)⟩, id⟩
  · obtain ⟨hrebuilt, hwrites, hnow, hmarks⟩ := hreturns
    rw [hrebuilt]
    exact ⟨⟨fun h => (by cases h), fun _ => ⟨hwrites, hcurrent _ hnow⟩, fun _ _ => hmarks⟩,
      fun _ => rfl⟩

/-- **What a run of a stage that returns does.** -/
theorem runStage_returns {j j' : Journal Disk} {rebuilt : Bool}
    (hrun : runStage config cap force stage j = .ok rebuilt j') :
    Returns config cap stage rebuilt j.state j'.state ∧ (force = true → rebuilt = true) := by
  cases stage
  case products => exact products_returns hrun
  case select => exact stageSelect_lawful.returns (fun _ => id) (fun _ => rfl) hrun
  case images => exact stageImages_lawful.returns (fun _ => id) (fun _ => rfl) hrun
  case offers => exact stageOffers_lawful.returns (fun _ => id) (fun _ => rfl) hrun
  case reviews => exact stageReviews_lawful.returns (fun _ => id) (fun _ => rfl) hrun
  case report => exact stageReport_lawful.returns (fun _ => id) (fun _ => rfl) hrun

/-- The run of a plan that is stopped, or raises. -/
theorem Plan.Lawful.opens {α : Type} {plan : Plan α} {current : Option ℕ → Disk → Prop}
    (h : plan.Lawful current cap) {d t : Disk}
    (ht : t ∈ (leaves (do let result ← plan.run cap force; pure result.1 : DiskOp Bool) d).dropLast ∨
      ∃ e j, (do let result ← plan.run cap force; pure result.1 : DiskOp Bool) { state := d } =
        .error e j ∧ t = j.state) :
    Idle d t ∨ Writes plan.stage d t ∧ ∀ c, t.db.completeAt plan.stage c = false := by
  refine @Plan.Lawful.run_open _ _ _ _ force h _ _ ?_
  rcases ht with ht | ⟨e, j, herror, rfl⟩
  · rw [leaves, final_map] at ht
    exact .inl ht
  · rcases bind_eq_error.1 herror with herror | ⟨result, j₁, -, hpure⟩
    · exact .inr ⟨e, j, herror, rfl⟩
    · cases hpure

/-- **Where a run of a stage is stopped**, or raises, nothing of note changed, or its output is not
marked as complete. -/
theorem runStage_opens {d t : Disk} (hstage : stage ≠ .products)
    (ht : t ∈ (leaves (runStage config cap force stage) d).dropLast ∨
      ∃ e j, runStage config cap force stage { state := d } = .error e j ∧ t = j.state) :
    Idle d t ∨ Writes stage d t ∧ ∀ c, t.db.completeAt stage c = false := by
  cases stage
  case products => exact absurd rfl hstage
  case select => exact stageSelect_lawful.opens ht
  case images => exact stageImages_lawful.opens ht
  case offers => exact stageOffers_lawful.opens ht
  case reviews => exact stageReviews_lawful.opens ht
  case report => exact stageReport_lawful.opens ht

end Pipeline
end AgenticCommerce
