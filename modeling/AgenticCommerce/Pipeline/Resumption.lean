/-
# Resuming the scan

The scan may be killed at any moment and run again, any number of times, with any batch size.
A sighting is a record that is past the rejects which look at nothing else, and the table should
come to hold one row for the first sighting of every identifier, in the order of the sources
(`firstSightings`).

What a run has kept at any moment is what some prefix of the sightings fills (`Midway`): the
committed rows and the batch together, while the committed rows alone are always what a
prefix fills too (`Resumable`).  So a run that is begun anew passes over what is there and goes
on behind it.  That fails for one kind of row only, the one that SQLite passes over: the run
remembers its identifier, the table does not, and a later run takes another sighting
(`scanResumes_iff`, `nan_rating_lost`).
-/

import AgenticCommerce.Pipeline.Scan
import AgenticCommerce.Relational.FirstKept
import AgenticCommerce.Relational.Frames

namespace AgenticCommerce
namespace Pipeline

open Relational Program Work

/-- A record that is past the rejects which look at nothing else. -/
structure Sighting where
  sourceFile : String
  record : Record
  parentAsin : String

/-- The sighting that a record of a source is. -/
def sightingOf (py : Python) (sourceFile : String) (record : Record) : Option Sighting :=
  (identified py record).map fun parentAsin => { sourceFile, record, parentAsin }

/-- The row of a sighting. -/
def Sighting.row (py : Python) (s : Sighting) : Except Failure Candidate :=
  describe py s.record s.sourceFile s.parentAsin

/-- The sightings of a source, under the cap. -/
def sourceSightings (setting : Setting) (sourceFile : String) : List Sighting :=
  ((setting.raw sourceFile).elim [] (iterJsonl setting.py setting.cap)).filterMap
    (sightingOf setting.py sourceFile)

/-- The sightings in the order of the scan. -/
def sightings (setting : Setting) (sources : List String) : List Sighting :=
  sources.flatMap (sourceSightings setting)

/-- The first sighting of every identifier, in the order of the scan. -/
def firstSightings (setting : Setting) (sources : List String) : List Sighting :=
  keepAll Sighting.parentAsin [] (sightings setting sources)

/-- A row that SQLite takes. -/
def Storable (candidate : Candidate) : Prop :=
  FitsInteger candidate.ratingNumber ∧ candidate.averageRating ≠ .nan

/-- The disks that runs of the stage leave, each killed at some moment, or not. -/
inductive Reached (setting : Setting) (sources : List String) : Disk → Prop
  | fresh : Reached setting sources {}
  | run {d d' : Disk} (batchSize : ℕ) (hsize : 1 ≤ batchSize) (hd : Reached setting sources d)
      (hleft : d' ∈ leaves (stageProducts setting batchSize sources) d) :
      Reached setting sources d'

/-- What is promised of a run that is not killed, from a disk. -/
structure Completes (setting : Setting) (sources : List String) (batchSize : ℕ) (d : Disk) :
    Prop where
  returns : (∀ sourceFile ∈ sources, setting.raw sourceFile = none) ∨
    ∃ result j, stageProducts setting batchSize sources false { state := d } = .ok result j
  rows : (firstSightings setting sources).map (Sighting.row setting.py) =
    (ending (stageProducts setting batchSize sources) d).db.candidates.map .ok
  same : (ending (stageProducts setting batchSize sources) d).db.candidates =
    (ending (stageProducts setting batchSize sources) {}).db.candidates

/-- However often it was killed before, a run that is not killed leaves one row for every first
sighting, as a run does that was never killed. -/
def ScanResumes (setting : Setting) (sources : List String) : Prop :=
  ∀ d, Reached setting sources d → ∀ batchSize, 1 ≤ batchSize →
    Completes setting sources batchSize d

/-! ### Rows -/

section

variable {setting : Setting} {sources : List String} {batchSize : ℕ} {completed : String → Bool}
  {part passed : List Sighting} {scan : Scan} {j : Journal Disk}

/-- The rows of sightings, those that have one. -/
def rowsOf (py : Python) (l : List Sighting) : List Candidate :=
  l.filterMap fun s => (s.row py).toOption

/-- Every first sighting has a row that SQLite takes. -/
def AllStorable (setting : Setting) (sources : List String) : Prop :=
  ∀ s ∈ firstSightings setting sources, ∃ row, s.row setting.py = .ok row ∧ Storable row

theorem mem_rowsOf {py : Python} {l : List Sighting} {row : Candidate} :
    row ∈ rowsOf py l ↔ ∃ s ∈ l, s.row py = .ok row := by
  rw [rowsOf, List.mem_filterMap]
  refine exists_congr fun s => and_congr_right fun _ => ?_
  cases s.row py with
  | error e => simp [Except.toOption]
  | ok r => simp [Except.toOption]

/-- The rows carry the identifiers of their sightings, in the same order. -/
theorem parentAsins_rowsOf (py : Python) (l : List Sighting) :
    ((rowsOf py l).map Candidate.parentAsin).Sublist (l.map Sighting.parentAsin) := by
  induction l with
  | nil => exact List.Sublist.slnil
  | cons s l ih =>
      cases hrow : s.row py with
      | error e =>
          have hskip : rowsOf py (s :: l) = rowsOf py l := by
            rw [rowsOf, List.filterMap_cons_none (by rw [hrow]; rfl)]
            rfl
          rw [hskip]
          exact ih.cons _
      | ok row =>
          have htake : rowsOf py (s :: l) = row :: rowsOf py l := by
            rw [rowsOf, List.filterMap_cons_some (by rw [hrow]; rfl)]
            rfl
          rw [htake, List.map_cons, List.map_cons, describe_parentAsin hrow]
          exact ih.cons_cons _

theorem rowsOf_append (py : Python) (l l' : List Sighting) :
    rowsOf py (l ++ l') = rowsOf py l ++ rowsOf py l' := List.filterMap_append

/-- Sightings that all have a row have their rows, one for one. -/
theorem map_row_eq {py : Python} {l : List Sighting} (h : ∀ s ∈ l, ∃ row, s.row py = .ok row) :
    l.map (Sighting.row py) = (rowsOf py l).map .ok := by
  induction l with
  | nil => rfl
  | cons s l ih =>
      obtain ⟨row, hrow⟩ := h s List.mem_cons_self
      have htake : rowsOf py (s :: l) = row :: rowsOf py l := by
        rw [rowsOf, List.filterMap_cons_some (by rw [hrow]; rfl)]
        rfl
      rw [htake, List.map_cons, List.map_cons, hrow, ih fun t ht => h t (List.mem_cons_of_mem _ ht)]

/-! ### A batch -/

/-- **Rows that SQLite takes are all stored**, where their identifiers are new and differ. -/
theorem insertBatch_of_storable {table batch : List Candidate} (hstorable : ∀ row ∈ batch, Storable row)
    (hnodup : ((table ++ batch).map Candidate.parentAsin).Nodup) :
    insertBatch table batch = .ok (table ++ batch) := by
  induction batch generalizing table with
  | nil =>
      rw [List.append_nil]
      rfl
  | cons row batch ih =>
      obtain ⟨hfits, hrating⟩ := hstorable row List.mem_cons_self
      have hnew : row.parentAsin ∉ table.map Candidate.parentAsin := by
        rw [List.map_append, List.nodup_append] at hnodup
        intro hmem
        exact hnodup.2.2 _ hmem _ (List.mem_map_of_mem List.mem_cons_self) rfl
      have hrow : insertOrIgnore table row = .ok (table ++ [row]) := by
        rw [insertOrIgnore, if_neg (not_not.2 hfits), if_neg hrating, if_neg hnew]
      have hnodup' : (((table ++ [row]) ++ batch).map Candidate.parentAsin).Nodup := by
        rwa [List.append_assoc]
      change (insertOrIgnore table row).bind (fun t => insertBatch t batch) = _
      rw [hrow]
      refine (ih (fun r hr => hstorable r (List.mem_cons_of_mem _ hr)) hnodup').trans ?_
      rw [List.append_assoc]
      rfl

/-! ### What holds on the way -/

/-- **A disk from which the scan can be resumed**: the table is what a prefix of the sightings
fills, and of the sources that are marked as done every identifier is in it. -/
def Resumable (setting : Setting) (sources : List String) (d : Disk) : Prop :=
  ∃ part, part <+: sightings setting sources ∧
    d.db.candidates = rowsOf setting.py (keepAll Sighting.parentAsin [] part) ∧
    ∀ sourceFile, d.db.sourceDone setting.cap sourceFile = true →
      ∀ s ∈ sourceSightings setting sourceFile, s.parentAsin ∈ part.map Sighting.parentAsin

/-- **A run on its way**, which has passed some sightings: its table and its batch are what a
prefix fills. -/
structure Midway (setting : Setting) (sources : List String) (completed : String → Bool)
    (passed part : List Sighting) (scan : Scan) (j : Journal Disk) : Prop where
  holds : j.Holds (Resumable setting sources)
  part_prefix : part <+: sightings setting sources
  rows : j.state.db.candidates ++ scan.pending =
    rowsOf setting.py (keepAll Sighting.parentAsin [] part)
  seen : ∀ k, k ∈ scan.seen ↔ k ∈ part.map Sighting.parentAsin
  passed : ∀ s ∈ passed, s.parentAsin ∈ part.map Sighting.parentAsin
  done : ∀ sourceFile, j.state.db.sourceDone setting.cap sourceFile = true →
    ∀ s ∈ sourceSightings setting sourceFile, s.parentAsin ∈ part.map Sighting.parentAsin
  completed : ∀ sourceFile, completed sourceFile = true →
    j.state.db.sourceDone setting.cap sourceFile = true

theorem Midway.storable (hall : AllStorable setting sources)
    (h : Midway setting sources completed passed part scan j) : ∀ row ∈ scan.pending, Storable row := by
  intro row hrow
  have hmem : row ∈ rowsOf setting.py (keepAll Sighting.parentAsin [] part) := by
    rw [← h.rows]
    exact List.mem_append_right _ hrow
  obtain ⟨s, hs, hsrow⟩ := mem_rowsOf.1 hmem
  obtain ⟨row', hrow', hstorable⟩ := hall s ((keepAll_isPrefix h.part_prefix).subset hs)
  obtain rfl := Except.ok.inj (hsrow.symm.trans hrow')
  exact hstorable

theorem Midway.nodup (h : Midway setting sources completed passed part scan j) :
    ((j.state.db.candidates ++ scan.pending).map Candidate.parentAsin).Nodup := by
  rw [h.rows]
  have hnone : (([] : List Sighting).map Sighting.parentAsin).Nodup := List.nodup_nil
  exact (nodup_keys_keepAll hnone).sublist (parentAsins_rowsOf _ _)

/-- With its batch written, a run leaves a disk from which the scan can be resumed. -/
theorem Midway.resumable (h : Midway setting sources completed passed part scan j)
    (hpending : scan.pending = []) : Resumable setting sources j.state := by
  refine ⟨part, h.part_prefix, ?_, h.done⟩
  rw [← h.rows, hpending, List.append_nil]

/-- A flush writes the batch. -/
theorem flush_midway (hall : AllStorable setting sources) :
    Ensures (Midway setting sources completed passed part scan) scan.flush fun scan' j =>
      Midway setting sources completed passed part scan' j ∧ scan'.pending = [] := by
  refine Ensures.ite (fun hempty => Ensures.pure fun j h => ⟨h, hempty⟩) fun _ => ?_
  refine Ensures.bind (Ensures.tryDurable (Q := fun _ j =>
    Midway setting sources completed passed part { scan with pending := [] } j) fun j h => ?_)
    fun _ => Ensures.pure fun j h => ⟨h, rfl⟩
  have hinsert := insertBatch_of_storable (h.storable hall) h.nodup
  refine ⟨j.state.withDb { j.state.db with
    candidates := j.state.db.candidates ++ scan.pending }, ?_, ?_⟩
  · rw [hinsert]
    rfl
  · have hresumable : Resumable setting sources (j.state.withDb { j.state.db with
        candidates := j.state.db.candidates ++ scan.pending }) :=
      ⟨part, h.part_prefix, h.rows, h.done⟩
    exact
      { holds := h.holds.record hresumable
        part_prefix := h.part_prefix
        rows := (List.append_nil _).trans h.rows
        seen := h.seen
        passed := h.passed
        done := h.done
        completed := h.completed }

/-- The result of a run is of no concern. -/
theorem Midway.result (h : Midway setting sources completed passed part scan j)
    (result : StageResult) :
    Midway setting sources completed passed part { scan with result } j :=
  ⟨h.holds, h.part_prefix, h.rows, h.seen, h.passed, h.done, h.completed⟩

/-- The row of a sighting whose identifier is new goes into the batch. -/
theorem Midway.accept (h : Midway setting sources completed passed part scan j) {s : Sighting}
    {row : Candidate} (hpassed : passed ++ [s] <+: sightings setting sources)
    (hnew : s.parentAsin ∉ scan.seen) (hrow : s.row setting.py = .ok row) (result : StageResult) :
    Midway setting sources completed (passed ++ [s]) (passed ++ [s])
      { seen := s.parentAsin :: scan.seen, pending := scan.pending ++ [row], result } j := by
  have hnew' : s.parentAsin ∉ part.map Sighting.parentAsin := mt (h.seen _).2 hnew
  have hsub : part <+: passed := prefix_of_next h.part_prefix hpassed hnew'
  have hkeys : ∀ k, k ∈ part.map Sighting.parentAsin → k ∈ (passed ++ [s]).map Sighting.parentAsin := by
    intro k hk
    rw [List.map_append]
    exact List.mem_append_left _ ((hsub.map _).subset hk)
  refine
    { holds := h.holds
      part_prefix := hpassed
      rows := ?_
      seen := fun k => ?_
      passed := fun t ht => List.mem_map_of_mem ht
      done := fun sourceFile hdone t ht => hkeys _ (h.done sourceFile hdone t ht)
      completed := h.completed }
  · have hnext := keepAll_next h.part_prefix hpassed h.passed hnew'
    have hsingle : rowsOf setting.py [s] = [row] := by
      rw [rowsOf, List.filterMap_cons_some (by rw [hrow]; rfl)]
      rfl
    rw [hnext, rowsOf_append, hsingle, ← h.rows, List.append_assoc]
  · rw [List.map_append, List.mem_append, List.map_singleton, List.mem_singleton, List.mem_cons,
      h.seen, or_comm]
    refine or_congr_left ⟨fun hk => (hsub.map _).subset hk, fun hk => ?_⟩
    obtain ⟨t, ht, rfl⟩ := List.mem_map.1 hk
    exact h.passed t ht

/-- A sighting whose identifier is not new changes nothing. -/
theorem Midway.pass (h : Midway setting sources completed passed part scan j) {l : List Sighting}
    (hold : ∀ s ∈ l, s.parentAsin ∈ part.map Sighting.parentAsin) :
    Midway setting sources completed (passed ++ l) part scan j := by
  refine ⟨h.holds, h.part_prefix, h.rows, h.seen, fun s hs => ?_, h.done, h.completed⟩
  rcases List.mem_append.1 hs with hs | hs
  · exact h.passed s hs
  · exact hold s hs

/-- **One record.** -/
theorem scanRecord_midway (hall : AllStorable setting sources) {sourceFile : String}
    {record : Record} (hpassed : passed ++ (sightingOf setting.py sourceFile record).toList <+:
      sightings setting sources) :
    Ensures (fun j => ∃ part, Midway setting sources completed passed part scan j)
      (scanRecord setting.py batchSize sourceFile scan record) fun scan' j =>
        ∃ part, Midway setting sources completed
          (passed ++ (sightingOf setting.py sourceFile record).toList) part scan' j := by
  rintro j ⟨part, h⟩
  cases hidentified : identified setting.py record with
  | none =>
      obtain ⟨reason, hevaluation⟩ :=
        @evaluateRecord_of_unidentified setting.py record sourceFile scan.seen hidentified
      have hnone : sightingOf setting.py sourceFile record = none := by
        rw [sightingOf, hidentified]
        rfl
      have hanswer : answer (evaluateRecord setting.py record sourceFile scan.seen) j =
          .ok (.rejected reason) j := by
        rw [hevaluation]
        rfl
      refine ⟨_, j, bind_of_ok hanswer, part, ?_⟩
      rw [hnone, Option.toList_none, List.append_nil]
      exact h.result _
  | some parentAsin =>
      have hsome : sightingOf setting.py sourceFile record =
          some { sourceFile, record, parentAsin } := by
        rw [sightingOf, hidentified]
        rfl
      rw [hsome, Option.toList_some] at hpassed ⊢
      have hevaluation := @evaluateRecord_of_identified setting.py record sourceFile parentAsin
        scan.seen hidentified
      by_cases hseen : parentAsin ∈ scan.seen
      · rw [if_pos hseen] at hevaluation
        have hanswer : answer (evaluateRecord setting.py record sourceFile scan.seen) j =
            .ok (.rejected .duplicateParentAsin) j := by
          rw [hevaluation]
          rfl
        refine ⟨_, j, bind_of_ok hanswer, part, (h.pass fun s hs => ?_).result _⟩
        obtain rfl := List.mem_singleton.1 hs
        exact (h.seen _).1 hseen
      · rw [if_neg hseen] at hevaluation
        have hnew : parentAsin ∉ part.map Sighting.parentAsin := mt (h.seen _).2 hseen
        have hfirst : ({ sourceFile, record, parentAsin } : Sighting) ∈
            firstSightings setting sources := by
          refine (keepAll_isPrefix hpassed).subset ?_
          rw [keepAll_next h.part_prefix hpassed h.passed hnew]
          exact List.mem_append_right _ (List.mem_singleton_self _)
        obtain ⟨row, hrow, -⟩ := hall _ hfirst
        have hanswer : answer (evaluateRecord setting.py record sourceFile scan.seen) j =
            .ok (.accepted row) j := by
          rw [hevaluation]
          change answer ((Sighting.row setting.py ⟨sourceFile, record, parentAsin⟩).map _) j = _
          rw [hrow]
          rfl
        have hasin : row.parentAsin = parentAsin := describe_parentAsin hrow
        have hadd : Ensures (fun j' => j' = j)
            ({ scan with seen := row.parentAsin :: scan.seen }.add batchSize row) fun scan' j' =>
              Midway setting sources completed (passed ++ [⟨sourceFile, record, parentAsin⟩])
                (passed ++ [⟨sourceFile, record, parentAsin⟩]) scan' j' := by
          have haccept := fun result => h.accept hpassed hseen hrow result
          unfold Scan.add
          rw [hasin]
          refine Ensures.ite (fun _ => (flush_midway hall).weaken ?_ fun _ _ hflush => hflush.1)
            fun _ => Ensures.pure ?_
          · rintro j' rfl
            exact haccept _
          · rintro j' rfl
            exact haccept _
        obtain ⟨scan', j', hrun, hmid⟩ := hadd j rfl
        exact ⟨_, j', (bind_of_ok hanswer).trans ((bind_of_ok hrun).trans rfl), _, hmid.result _⟩

/-- **One source**: read to its end, it is marked as done. -/
theorem scanSource_midway (hall : AllStorable setting sources) {sourceFile : String}
    {lines : List String} (hraw : setting.raw sourceFile = some lines)
    (hpassed : passed ++ sourceSightings setting sourceFile <+: sightings setting sources) :
    Ensures (fun j => ∃ part, Midway setting sources completed passed part scan j)
      (scanSource setting batchSize sourceFile lines scan) fun scan' j =>
        ∃ part, Midway setting sources completed
          (passed ++ sourceSightings setting sourceFile) part scan' j := by
  have hsightings : sourceSightings setting sourceFile =
      (iterJsonl setting.py setting.cap lines).filterMap (sightingOf setting.py sourceFile) := by
    rw [sourceSightings, hraw]
    rfl
  have hread : Ensures (fun j => ∃ part, Midway setting sources completed passed part scan j)
      ((iterJsonl setting.py setting.cap lines).foldlM
        (scanRecord setting.py batchSize sourceFile) scan) fun scan' j =>
          ∃ part, Midway setting sources completed
            (passed ++ sourceSightings setting sourceFile) part scan' j := by
    have hloop := Ensures.foldlM (f := scanRecord setting.py batchSize sourceFile)
      (l := iterJsonl setting.py setting.cap lines)
      (I := fun done scan' j => ∃ part, Midway setting sources completed
        (passed ++ done.filterMap (sightingOf setting.py sourceFile)) part scan' j)
      (fun done record rest hl scan' => ?_) scan
    · rw [hsightings]
      refine hloop.weaken (fun j hj => ?_) fun _ _ hj => hj
      rwa [List.filterMap_nil, List.append_nil]
    · have hone : (done ++ [record]).filterMap (sightingOf setting.py sourceFile) =
          done.filterMap (sightingOf setting.py sourceFile) ++
            (sightingOf setting.py sourceFile record).toList := by
        rw [List.filterMap_append]
        cases hsighting : sightingOf setting.py sourceFile record with
        | none => rw [List.filterMap_cons_none hsighting]; rfl
        | some s => rw [List.filterMap_cons_some hsighting]; rfl
      have hnext : passed ++ done.filterMap (sightingOf setting.py sourceFile) ++
          (sightingOf setting.py sourceFile record).toList <+: sightings setting sources := by
        refine List.IsPrefix.trans ?_ hpassed
        rw [List.append_assoc, ← hone, hsightings, hl]
        refine List.prefix_append_right_inj passed |>.2 ?_
        rw [List.append_cons done record rest]
        exact (List.prefix_append (done ++ [record]) rest).filterMap _
      rw [hone, ← List.append_assoc]
      exact scanRecord_midway hall hnext
  intro j hj
  obtain ⟨read, j₁, hrun₁, part, h₁⟩ := hread j hj
  obtain ⟨flushed, j₂, hrun₂, h₂, hpending⟩ := flush_midway hall j₁ h₁
  obtain ⟨progress, hcap, hrun₃⟩ : ∃ progress : SourceProgress, progress.maxLinesDebug = setting.cap ∧
      ∃ result, scanSource setting batchSize sourceFile lines scan j = .ok { flushed with result }
        (j₂.record (j₂.state.withDb (j₂.state.db.setProgress sourceFile progress))) :=
    ⟨_, rfl, _, (bind_of_ok hrun₁).trans ((bind_of_ok hrun₂).trans rfl)⟩
  obtain ⟨result, hrun₃⟩ := hrun₃
  refine ⟨_, _, hrun₃, part, Midway.result ?_ result⟩
  have hdone (other : String) :
      (j₂.state.db.setProgress sourceFile progress).sourceDone setting.cap other =
        (decide (other = sourceFile) || j₂.state.db.sourceDone setting.cap other) := by
    rw [← hcap]
    exact CandidatesDb.sourceDone_setProgress
  have hkeys : ∀ other,
      (j₂.state.db.setProgress sourceFile progress).sourceDone setting.cap other = true →
        ∀ s ∈ sourceSightings setting other, s.parentAsin ∈ part.map Sighting.parentAsin := by
    intro other hother s hs
    rw [hdone, Bool.or_eq_true, decide_eq_true_eq] at hother
    rcases hother with rfl | hbefore
    · exact h₂.passed s (List.mem_append_right _ hs)
    · exact h₂.done other hbefore s hs
  have hrows : j₂.state.db.candidates = rowsOf setting.py (keepAll Sighting.parentAsin [] part) := by
    rw [← h₂.rows, hpending, List.append_nil]
  exact
    { holds := h₂.holds.record ⟨part, h₂.part_prefix, hrows, hkeys⟩
      part_prefix := h₂.part_prefix
      rows := h₂.rows
      seen := h₂.seen
      passed := h₂.passed
      done := hkeys
      completed := fun other hother => by
        have hbefore := h₂.completed other hother
        change (j₂.state.db.setProgress sourceFile progress).sourceDone setting.cap other = true
        rw [hdone, hbefore, Bool.or_true] }

/-! ### The sources that are not there -/

/-- What is written of a source does not concern which sources are missing. -/
theorem flush_filesMissing {scan' : Scan} {j' : Journal Disk} (h : scan.flush j = .ok scan' j') :
    scan'.result.filesMissing = scan.result.filesMissing := by
  unfold Scan.flush at h
  split_ifs at h
  · obtain ⟨rfl, -⟩ := pure_eq_ok.1 h
    rfl
  · obtain ⟨_, _, -, h⟩ := bind_eq_ok.1 h
    obtain ⟨rfl, -⟩ := pure_eq_ok.1 h
    rfl

theorem scanRecord_filesMissing {py : Python} {sourceFile : String} {record : Record} {scan' : Scan}
    {j' : Journal Disk} (h : scanRecord py batchSize sourceFile scan record j = .ok scan' j') :
    scan'.result.filesMissing = scan.result.filesMissing := by
  rw [scanRecord, bind_eq_ok] at h
  obtain ⟨evaluation, _, -, h⟩ := h
  cases evaluation with
  | rejected reason =>
      obtain ⟨rfl, -⟩ := pure_eq_ok.1 h
      rfl
  | accepted row =>
      obtain ⟨added, _, hadd, h⟩ := bind_eq_ok.1 h
      obtain ⟨rfl, -⟩ := pure_eq_ok.1 h
      unfold Scan.add at hadd
      split_ifs at hadd
      · exact (flush_filesMissing hadd).trans rfl
      · obtain ⟨rfl, -⟩ := pure_eq_ok.1 hadd
        rfl

theorem scanSource_filesMissing {sourceFile : String} {lines : List String} {scan' : Scan}
    {j' : Journal Disk}
    (h : scanSource setting batchSize sourceFile lines scan j = .ok scan' j') :
    scan'.result.filesMissing = scan.result.filesMissing := by
  have hloop : ∀ (records : List Record) (start read : Scan) (j j' : Journal Disk),
      records.foldlM (scanRecord setting.py batchSize sourceFile) start j = .ok read j' →
        read.result.filesMissing = start.result.filesMissing := by
    intro records
    induction records with
    | nil =>
        intro start read j j' h
        obtain ⟨rfl, -⟩ := pure_eq_ok.1 h
        rfl
    | cons record records ih =>
        intro start read j j' h
        rw [List.foldlM_cons] at h
        obtain ⟨next, k, hnext, h⟩ := bind_eq_ok.1 h
        exact (ih next read k j' h).trans (scanRecord_filesMissing hnext)
  rw [scanSource, bind_eq_ok] at h
  obtain ⟨read, k, hread, h⟩ := h
  obtain ⟨flushed, l, hflush, h⟩ := bind_eq_ok.1 h
  obtain ⟨_, _, -, h⟩ := bind_eq_ok.1 h
  obtain ⟨rfl, -⟩ := pure_eq_ok.1 h
  exact (flush_filesMissing hflush).trans (hloop _ _ _ _ _ hread)

/-! ### The stage -/

/-- A run that has passed some of the sources. -/
def Visited (setting : Setting) (sources : List String) (completed : String → Bool)
    (done : List String) (scan : Scan) (j : Journal Disk) : Prop :=
  (∃ part, Midway setting sources completed (sightings setting done) part scan j) ∧
    scan.result.filesMissing = done.filter fun sourceFile => (setting.raw sourceFile).isNone

/-- **All sources.** -/
theorem visitSources_midway (hall : AllStorable setting sources) (start : Scan) :
    Ensures (Visited setting sources completed [] start)
      (sources.foldlM (visitSource setting batchSize completed) start)
      (Visited setting sources completed sources) := by
  refine Ensures.foldlM (fun done sourceFile rest hl scan => ?_) start
  have hnext : sightings setting (done ++ [sourceFile]) =
      sightings setting done ++ sourceSightings setting sourceFile := by
    rw [sightings, List.flatMap_append, List.flatMap_singleton]
    rfl
  have hpassed : sightings setting done ++ sourceSightings setting sourceFile <+:
      sightings setting sources := by
    have hsplit : sightings setting sources =
        sightings setting (done ++ [sourceFile]) ++ sightings setting rest := by
      rw [hl, List.append_cons done sourceFile rest]
      exact List.flatMap_append
    rw [← hnext, hsplit]
    exact List.prefix_append _ _
  rintro j ⟨⟨part, h⟩, hmissing⟩
  cases hraw : setting.raw sourceFile with
  | none =>
      have hnone : sourceSightings setting sourceFile = [] := by
        rw [sourceSightings, hraw]
        rfl
      have hrun : visitSource setting batchSize completed scan sourceFile j =
          .ok { scan with result := { scan.result with
            filesMissing := scan.result.filesMissing ++ [sourceFile] } } j := by
        rw [visitSource, hraw]
        rfl
      refine ⟨_, j, hrun, ⟨part, ?_⟩, ?_⟩
      · rw [hnext, hnone, List.append_nil]
        exact h.result _
      · rw [List.filter_append, ← hmissing, List.filter_singleton, hraw]
        rfl
  | some lines =>
      have hkept : (done ++ [sourceFile]).filter (fun s => (setting.raw s).isNone) =
          done.filter fun s => (setting.raw s).isNone := by
        rw [List.filter_append, List.filter_singleton, hraw]
        exact List.append_nil _
      by_cases hcompleted : completed sourceFile = true
      · have hrun : visitSource setting batchSize completed scan sourceFile j =
            .ok { scan with result := { scan.result with
              filesSkipped := scan.result.filesSkipped ++ [sourceFile] } } j := by
          rw [visitSource, hraw]
          dsimp only
          rw [if_pos hcompleted]
          rfl
        refine ⟨_, j, hrun, ⟨part, ?_⟩, ?_⟩
        · rw [hnext]
          exact (h.pass (h.done sourceFile (h.completed sourceFile hcompleted))).result _
        · rw [hkept]
          exact hmissing
      · obtain ⟨scan', j', hrun, h'⟩ :
            ∃ scan' j', scanSource setting batchSize sourceFile lines scan j = .ok scan' j' ∧ _ :=
          scanSource_midway hall hraw hpassed j ⟨part, h⟩
        refine ⟨scan', j', ?_, ?_, ?_⟩
        · rw [visitSource, hraw]
          dsimp only
          rw [if_neg hcompleted]
          exact hrun
        · rw [hnext]
          exact h'
        · rw [hkept, scanSource_filesMissing hrun]
          exact hmissing

/-- A prefix in which every identifier occurs fills all there is. -/
theorem keepAll_of_all_keys (hpart : part <+: sightings setting sources)
    (hkeys : ∀ s ∈ sightings setting sources, s.parentAsin ∈ part.map Sighting.parentAsin) :
    keepAll Sighting.parentAsin [] part = firstSightings setting sources := by
  rw [firstSightings, ← keepAll_resume hpart]
  refine (keepAll_of_forall_mem fun s hs => ?_).symm
  exact mem_keys_keepAll.2 (.inr (hkeys s hs))

/-- The identifiers in the table are those of the prefix. -/
theorem mem_parentAsins_rowsOf (hall : AllStorable setting sources)
    (hpart : part <+: sightings setting sources) {k : String} :
    k ∈ (rowsOf setting.py (keepAll Sighting.parentAsin [] part)).map Candidate.parentAsin ↔
      k ∈ part.map Sighting.parentAsin := by
  have hkept : k ∈ (keepAll Sighting.parentAsin [] part).map Sighting.parentAsin ↔
      k ∈ part.map Sighting.parentAsin := by
    rw [mem_keys_keepAll]
    simp
  rw [← hkept]
  constructor
  · exact fun hk => (parentAsins_rowsOf _ _).subset hk
  · intro hk
    obtain ⟨s, hs, rfl⟩ := List.mem_map.1 hk
    obtain ⟨row, hrow, -⟩ := hall s ((keepAll_isPrefix hpart).subset hs)
    exact List.mem_map.2 ⟨row, mem_rowsOf.2 ⟨s, hs, hrow⟩, describe_parentAsin hrow⟩

/-- Only the database matters to resuming. -/
theorem Resumable.of_db {d d' : Disk} (h : Resumable setting sources d)
    (hcandidates : d'.db.candidates = d.db.candidates)
    (hprogress : d'.db.sourceProgress = d.db.sourceProgress) : Resumable setting sources d' := by
  obtain ⟨part, hpart, hrows, hdone⟩ := h
  refine ⟨part, hpart, hcandidates.trans hrows, fun sourceFile hsource => hdone sourceFile ?_⟩
  rwa [CandidatesDb.sourceDone, ← hprogress]

/-- How the stage ends, from a disk from which the scan can be resumed. -/
structure EndsWell (setting : Setting) (sources : List String) (j : Journal Disk) : Prop where
  holds : j.Holds (Resumable setting sources)
  rows : j.state.db.candidates = rowsOf setting.py (firstSightings setting sources)

/-- Marking a stage keeps that. -/
theorem EndsWell.mark (h : EndsWell setting sources j) (stage : Stage) (state : StageState) :
    EndsWell setting sources (j.record (j.state.withDb (j.state.db.setStageState stage state))) :=
  ⟨h.holds.record (h.holds.state.of_db rfl rfl), h.rows⟩

/-- **The scan of the sources** returns, or finds none, and has stored all first sightings then. -/
theorem scanSources_endsWell (hall : AllStorable setting sources) (hsize : 1 ≤ batchSize)
    (hholds : j.Holds (Resumable setting sources)) (hpart : part <+: sightings setting sources)
    (hrows : j.state.db.candidates = rowsOf setting.py (keepAll Sighting.parentAsin [] part))
    (hdone : ∀ sourceFile, j.state.db.sourceDone setting.cap sourceFile = true →
      ∀ s ∈ sourceSightings setting sourceFile, s.parentAsin ∈ part.map Sighting.parentAsin)
    (hcompleted : ∀ sourceFile, completed sourceFile = true →
      j.state.db.sourceDone setting.cap sourceFile = true) :
    (∃ result j', scanSources setting batchSize sources completed
        (j.state.db.candidates.map Candidate.parentAsin) j = .ok result j' ∧
      EndsWell setting sources j') ∨
    ((∀ sourceFile ∈ sources, setting.raw sourceFile = none) ∧
      ∃ e j', scanSources setting batchSize sources completed
          (j.state.db.candidates.map Candidate.parentAsin) j = .error e j' ∧
        EndsWell setting sources j') := by
  have hstart : Visited setting sources completed []
      { seen := j.state.db.candidates.map Candidate.parentAsin }
      (j.record (j.state.withDb (j.state.db.setStageState .products
        ⟨.running, setting.cap, 0⟩))) := by
    refine ⟨⟨part, hholds.record (hholds.state.of_db rfl rfl), hpart, ?_, fun k => ?_, nofun, hdone,
      hcompleted⟩, rfl⟩
    · exact (List.append_nil _).trans hrows
    · rw [hrows]
      exact mem_parentAsins_rowsOf hall hpart
  obtain ⟨scan, j₁, hscan, ⟨part', hmid⟩, hmissing⟩ := visitSources_midway hall _ _ hstart
  obtain ⟨flushed, j₂, hflush, hmid', hpending⟩ := flush_midway hall j₁ hmid
  have hends : EndsWell setting sources j₂ := by
    refine ⟨hmid'.holds, ?_⟩
    rw [← keepAll_of_all_keys hmid'.part_prefix hmid'.passed, ← hmid'.rows, hpending,
      List.append_nil]
  have hfiles : flushed.result.filesMissing =
      sources.filter fun sourceFile => (setting.raw sourceFile).isNone :=
    (flush_filesMissing hflush).trans hmissing
  have hrun : scanSources setting batchSize sources completed
      (j.state.db.candidates.map Candidate.parentAsin) j =
      (if flushed.result.filesMissing.length = sources.length then do
        writeStageState .products .failed setting.cap
        throw (.exception "no metadata source found in the raw directory")
      else do
        let total ← Program.read fun d => d.db.candidates.length
        writeStageState .products .complete setting.cap total
        pure flushed.result : DiskOp StageResult) j₂ := by
    unfold scanSources
    rw [if_neg (Nat.not_lt.2 hsize)]
    exact (bind_of_ok rfl).trans ((bind_of_ok hscan).trans (bind_of_ok hflush))
  rw [hrun]
  by_cases hlength : flushed.result.filesMissing.length = sources.length
  · rw [if_pos hlength]
    rw [hfiles, List.length_filter_eq_length_iff] at hlength
    refine .inr ⟨fun sourceFile hsource => ?_, _, _, rfl, hends.mark _ _⟩
    exact Option.isNone_iff_eq_none.1 (hlength sourceFile hsource)
  · rw [if_neg hlength]
    exact .inl ⟨_, _, rfl, hends.mark _ _⟩

/-- **The stage** returns, or finds no source, and has stored all first sightings then. -/
theorem stageProducts_endsWell (hall : AllStorable setting sources) (hsize : 1 ≤ batchSize)
    {d : Disk} (hd : Resumable setting sources d) :
    (∃ result j, stageProducts setting batchSize sources false { state := d } = .ok result j ∧
      EndsWell setting sources j) ∨
    ((∀ sourceFile ∈ sources, setting.raw sourceFile = none) ∧
      ∃ e j, stageProducts setting batchSize sources false { state := d } = .error e j ∧
        EndsWell setting sources j) := by
  obtain ⟨part, hpart, hrows, hdone⟩ := id hd
  have hstart : (Journal.record { state := d } (d.withDb d.db)).Holds (Resumable setting sources) :=
    (Journal.Holds.start hd).record (hd.of_db rfl rfl)
  by_cases hcomplete : productsUpToDate setting sources false d.db = true
  · -- every source that is there is done, so that every identifier is in the table
    refine .inl ⟨_, _, stageProducts_eq.trans (by rw [if_pos hcomplete]; rfl), hstart, ?_⟩
    have hkeys : ∀ s ∈ sightings setting sources, s.parentAsin ∈ part.map Sighting.parentAsin := by
      intro s hs
      obtain ⟨sourceFile, hsource, hmem⟩ := List.mem_flatMap.1 hs
      rw [productsUpToDate, Bool.and_eq_true, allSourcesDone, List.all_eq_true] at hcomplete
      have hvisited := hcomplete.2 sourceFile hsource
      rw [Bool.or_eq_true] at hvisited
      rcases hvisited with hnone | hsourceDone
      · rw [Option.isNone_iff_eq_none] at hnone
        rw [sourceSightings, hnone] at hmem
        exact absurd hmem List.not_mem_nil
      · exact hdone sourceFile hsourceDone s hmem
    rw [← keepAll_of_all_keys hpart hkeys]
    exact hrows
  · have hrun : stageProducts setting batchSize sources false { state := d } = _ := stageProducts_eq
    rw [if_neg hcomplete] at hrun
    have hcompleted (sourceFile : String)
        (hsource : completedSources setting false d.db sourceFile = true) :
        d.db.sourceDone setting.cap sourceFile = true := hsource
    have hscan := scanSources_endsWell hall hsize hstart hpart hrows hdone hcompleted
    rcases hscan with ⟨result, j, hresult, hends⟩ | ⟨hmissing, e, j, herror, hends⟩
    · exact .inl ⟨result, j, hrun.trans hresult, hends⟩
    · exact .inr ⟨hmissing, e, j, hrun.trans herror, hends⟩

/-! ### What is stored can be stored -/

/-- Every row of the table is one that SQLite takes. -/
def RowsStorable (d : Disk) : Prop := ∀ row ∈ d.db.candidates, Storable row

/-- A step that keeps the rows storable. -/
def KeepsStorable (j j' : Journal Disk) : Prop := RowsStorable j.state → RowsStorable j'.state

instance : IsPreorder (Journal Disk) KeepsStorable where
  refl _ h := h
  trans _ _ _ h h' hj := h' (h hj)

theorem insertOrIgnore_storable {table table' : List Candidate} {row : Candidate}
    (h : insertOrIgnore table row = .ok table') (htable : ∀ r ∈ table, Storable r) :
    ∀ r ∈ table', Storable r := by
  unfold insertOrIgnore at h
  split_ifs at h with hfits hnan hmem
  · obtain rfl := Except.ok.inj h
    exact htable
  · obtain rfl := Except.ok.inj h
    exact htable
  · obtain rfl := Except.ok.inj h
    intro r hr
    rcases List.mem_append.1 hr with hr | hr
    · exact htable r hr
    · obtain rfl := List.mem_singleton.1 hr
      exact ⟨hfits, hnan⟩

theorem insertBatch_storable {table table' batch : List Candidate}
    (h : insertBatch table batch = .ok table') (htable : ∀ r ∈ table, Storable r) :
    ∀ r ∈ table', Storable r := by
  induction batch generalizing table with
  | nil =>
      obtain rfl := Except.ok.inj h
      exact htable
  | cons row batch ih =>
      change (insertOrIgnore table row).bind (fun t => insertBatch t batch) = _ at h
      cases hrow : insertOrIgnore table row with
      | error e =>
          rw [hrow] at h
          exact nomatch h
      | ok next =>
          rw [hrow] at h
          exact ih h (insertOrIgnore_storable hrow htable)

/-- A transaction that leaves the candidates alone. -/
theorem transact_keepsStorable {f : CandidatesDb → CandidatesDb}
    (hf : ∀ db, (f db).candidates = db.candidates) : Moves KeepsStorable (transact f) :=
  Moves.write fun j h row hrow => h row (by rwa [← hf])

theorem flush_keepsStorable (scan : Scan) : Moves KeepsStorable scan.flush := by
  refine Moves.ite (fun _ => .pure) fun _ => Moves.bind (moves_tryDurable fun j s hs => ?_)
    fun _ => .pure
  cases hbatch : insertBatch j.state.db.candidates scan.pending with
  | error e =>
      rw [hbatch] at hs
      exact nomatch hs
  | ok candidates =>
      rw [hbatch] at hs
      obtain rfl := Except.ok.inj hs
      exact fun hj => insertBatch_storable hbatch hj

theorem scanRecord_keepsStorable {py : Python} {sourceFile : String} (scan : Scan)
    (record : Record) : Moves KeepsStorable (scanRecord py batchSize sourceFile scan record) := by
  refine Moves.bind .ask fun evaluation => ?_
  cases evaluation with
  | rejected reason => exact .pure
  | accepted row =>
      refine Moves.bind ?_ fun _ => .pure
      exact Moves.ite (fun _ => flush_keepsStorable _) fun _ => .pure

theorem visitSource_keepsStorable {completed : String → Bool} (scan : Scan) (sourceFile : String) :
    Moves KeepsStorable (visitSource setting batchSize completed scan sourceFile) := by
  unfold visitSource
  split
  · exact .pure
  · refine Moves.ite (fun _ => .pure) fun _ => ?_
    refine (Moves.foldlM scanRecord_keepsStorable _).bind fun _ =>
      (flush_keepsStorable _).bind fun scan => ?_
    show Moves KeepsStorable (transact _ >>= _)
    exact (transact_keepsStorable (by exact fun _ => rfl)).bind fun _ => .pure

theorem scanSources_keepsStorable (completed : String → Bool) (seen : List String) :
    Moves KeepsStorable (scanSources setting batchSize sources completed seen) := by
  refine (transact_keepsStorable (by exact fun _ => rfl)).bind fun _ => ?_
  refine Moves.ite (fun _ => .throw) fun _ => ?_
  refine (Moves.foldlM visitSource_keepsStorable _).bind fun _ =>
    (flush_keepsStorable _).bind fun scan => ?_
  refine Moves.ite (fun _ => ?_) fun _ => ?_
  · exact (transact_keepsStorable (by exact fun _ => rfl)).bind fun _ => .throw
  · exact Moves.bind .ask fun _ => (transact_keepsStorable (by exact fun _ => rfl)).bind fun _ => .pure

theorem stageProducts_keepsStorable (force : Bool) :
    Moves KeepsStorable (stageProducts setting batchSize sources force) := by
  refine (transact_keepsStorable (by exact fun _ => rfl)).bind fun _ => Moves.bind .ask fun db => ?_
  exact Moves.ite (fun _ => .pure) fun _ => scanSources_keepsStorable _ _

/-! ### Resuming -/

theorem EndsWell.of_final (hall : AllStorable setting sources) (hsize : 1 ≤ batchSize) {d : Disk}
    (hd : Resumable setting sources d) :
    EndsWell setting sources (final (stageProducts setting batchSize sources) { state := d }) := by
  rcases stageProducts_endsWell hall hsize hd with ⟨_, j, hrun, hends⟩ | ⟨-, _, j, hrun, hends⟩
  · rwa [final, hrun]
  · rwa [final, hrun]

/-- **Whenever a run is killed**, the scan can be resumed. -/
theorem Reached.resumable (hall : AllStorable setting sources) {d : Disk}
    (h : Reached setting sources d) : Resumable setting sources d := by
  induction h with
  | fresh => exact ⟨[], List.nil_prefix, rfl, nofun⟩
  | run batchSize hsize _ hleft ih =>
      rcases List.mem_cons.1 hleft with rfl | hleft
      · exact ih
      · exact (EndsWell.of_final hall hsize ih).holds.log _ hleft

/-- **The scan resumes** exactly when SQLite takes the row of every first sighting: each can be
made, its numbers fit, and its rating is a number. -/
theorem scanResumes_iff (setting : Setting) (sources : List String) :
    ScanResumes setting sources ↔ AllStorable setting sources := by
  constructor
  · intro h s hs
    have hrows := (h {} .fresh 1 le_rfl).rows
    have hmem : s.row setting.py ∈
        (ending (stageProducts setting 1 sources) {}).db.candidates.map .ok := by
      rw [← hrows]
      exact List.mem_map_of_mem hs
    obtain ⟨row, hrow, hsrow⟩ := List.mem_map.1 hmem
    have hstorable : RowsStorable (ending (stageProducts setting 1 sources) {}) := by
      rcases final_cases (stageProducts setting 1 sources) { state := {} } with ⟨a, ha⟩ | ⟨e, he⟩
      · exact (stageProducts_keepsStorable false).1 _ a _ ha nofun
      · exact (stageProducts_keepsStorable false).2 _ e _ he nofun
    exact ⟨row, hsrow.symm, hstorable row hrow⟩
  · intro hall d hd batchSize hsize
    have hends := EndsWell.of_final hall hsize (hd.resumable hall)
    have hfresh := EndsWell.of_final hall hsize (Reached.fresh.resumable hall)
    refine ⟨?_, ?_, hends.rows.trans hfresh.rows.symm⟩
    · rcases stageProducts_endsWell hall hsize (hd.resumable hall) with
        ⟨result, j, hrun, -⟩ | ⟨hmissing, -⟩
      · exact .inr ⟨result, j, hrun⟩
      · exact .inl hmissing
    · rw [map_row_eq fun s hs => (hall s hs).imp fun _ h => h.1]
      exact congrArg _ hends.rows.symm

end

/-! ### A rating that is not a number -/

section

/-- What is listed of a laptop. -/
private def listing (parentAsin rating : String) : Json :=
  .obj [("parent_asin", .str parentAsin), ("title", .str "A small laptop"),
    ("average_rating", .float rating), ("rating_number", .int 12),
    ("images", .arr [.obj [("large", .str "https://images.example/a.jpg")]])]

/-- The line that a listing is written as. -/
private def lineOf (parentAsin rating : String) : String :=
  "\x7b\"parent_asin\": \"" ++ parentAsin ++ "\", \"title\": \"A small laptop\", " ++
    "\"average_rating\": " ++ rating ++ ", \"rating_number\": 12, " ++
    "\"images\": [\x7b\"large\": \"https://images.example/a.jpg\"\x7d]\x7d"

/-- A Python that reads these lines, and no text as a number. -/
private def reader : Python where
  strip text := text
  lower text := text
  loads text := [(lineOf "B1" "NaN", listing "B1" "nan"), (lineOf "B2" "4.5", listing "B2" "4.5"),
    (lineOf "B1" "4.5", listing "B1" "4.5")].lookup text
  dump _ := ""
  float _ := none
  literal r := if r = "nan" then .nan else .finite (9 / 2)
  ofInt n := some (.finite n)
  repr _ := ""
  classify _ _ := "laptop"

/-- One laptop is listed twice, the first time with a rating that is not a number. -/
private def twiceListed : Setting where
  py := reader
  raw sourceFile :=
    [("meta_Electronics.jsonl.gz", [lineOf "B1" "NaN"]),
      ("meta_Appliances.jsonl.gz", [lineOf "B2" "4.5", lineOf "B1" "4.5"])].lookup sourceFile
  cap := none

/-- The sources of the example. -/
private def twoSources : List String := ["meta_Electronics.jsonl.gz", "meta_Appliances.jsonl.gz"]

/-- **A candidate is lost, and comes back**: the first sighting of `B1` is not stored, since its
rating is a NaN.  The run remembers it, so the later sighting is a duplicate; but a run that is
killed in the second source and begun anew stores the later sighting. -/
theorem nan_rating_lost : ¬ScanResumes twiceListed twoSources ∧
    ((ending (stageProducts twiceListed 1 twoSources) {}).db.candidates.map Candidate.parentAsin,
      ((leaves (stageProducts twiceListed 1 twoSources) {})[5]?).map fun d =>
        ((ending (stageProducts twiceListed 1 twoSources) d).db.candidates.map
          Candidate.parentAsin)) = (["B2"], some ["B2", "B1"]) := by
  constructor
  · intro h
    have hrows := congrArg List.length (h {} .fresh 1 le_rfl).rows
    rw [List.length_map, List.length_map] at hrows
    have hfirst : (firstSightings twiceListed twoSources).length = 2 := by decide +kernel
    have hkept : (ending (stageProducts twiceListed 1 twoSources) {}).db.candidates.length = 1 := by
      decide +kernel
    omega
  · decide +kernel

end

end Pipeline
end AgenticCommerce
