/-
# What an `all` run leaves

After an `all` run that returns, every file is the one that its stage computes from what is on the
disk (`all_current`), provided that no stage that the run finds up to date has had its inputs
changed since it was last built.  A stage is skipped when its own row of `stage_state` says that it
is complete at this cap: that its inputs were rebuilt in between, by single stages at another cap,
is not looked at (`stale_after_all`).

The row of a stage that says that it is complete says that its output is what it computed then
(`Marked`); this holds throughout a session (`History.marked`).
-/

import AgenticCommerce.Pipeline.Runs

namespace AgenticCommerce
namespace Pipeline

open Relational Program Work Journal

/-- The inputs of a stage are what they were. -/
def Unchanged : Stage → Disk → Disk → Prop
  | .products, _, _ => True
  | .select, d, d' => d'.db.candidates = d.db.candidates
  | .images, d, d' | .offers, d, d' | .reviews, d, d' => d'.productsJsonl = d.productsJsonl
  | .report, d, d' => d'.productsJsonl = d.productsJsonl ∧ d'.offersJsonl = d.offersJsonl ∧
      d'.reviewCount = d.reviewCount

/-- The stages whose outputs a stage reads. -/
def inputs : Stage → List Stage
  | .products => []
  | .select => [.products]
  | .images | .offers | .reviews => [.select]
  | .report => [.select, .offers, .reviews]

/-- The stages that an `all` run finds up to date: those before the first that is not. -/
def skippedStages (config : Config) (cap : Option ℕ) (d : Disk) : List Stage :=
  stageOrder.takeWhile (upToDate config cap d)

variable {config : Config} {cap : Option ℕ} {force : Bool} {stage : Stage} {d d' : Disk}

theorem Unchanged.trans {d'' : Disk} (h : Unchanged stage d d') (h' : Unchanged stage d' d'') :
    Unchanged stage d d'' := by
  cases stage
  case products => trivial
  case report => exact ⟨h'.1.trans h.1, h'.2.1.trans h.2.1, h'.2.2.trans h.2.2⟩
  all_goals exact Eq.trans h' h

/-- The number of reviews is the same when the table is the same, or was created. -/
theorem reviewCount_eq (h : SameOutput .reviews d d') : d'.reviewCount = d.reviewCount := by
  rcases h with h | ⟨hnone, hnil⟩
  · rw [Disk.reviewCount, h, Disk.reviewCount]
  · rw [Disk.reviewCount, hnil, Disk.reviewCount, hnone]
    rfl

theorem unchanged_of_inputs (h : ∀ T ∈ inputs stage, SameOutput T d d') :
    Unchanged stage d d' := by
  cases stage
  case products => trivial
  case select => exact (h .products (by decide)).1
  case report => exact ⟨h .select (by decide), h .offers (by decide),
    reviewCount_eq (h .reviews (by decide))⟩
  all_goals exact h .select (by decide)

/-- **What is current stays so** while the inputs and the output are as they were. -/
theorem Current.congr (h : Current config cap stage d) (hinputs : Unchanged stage d d')
    (houtput : SameOutput stage d d') : Current config cap stage d' := by
  cases stage
  case products => trivial
  case select =>
    obtain ⟨lines, hlines, hcomputed⟩ := h
    have hfile : d'.productsJsonl = d.productsJsonl := houtput
    have hcandidates : d'.db.candidates = d.db.candidates := hinputs
    exact ⟨lines, hfile.trans hlines, by rw [hcandidates, hcomputed]⟩
  case images =>
    obtain ⟨products, lines, hproducts, hlines, hcomputed⟩ := h
    exact ⟨products, lines, Eq.trans hinputs hproducts, Eq.trans houtput hlines, hcomputed⟩
  case offers =>
    obtain ⟨products, lines, hproducts, hlines, hcomputed⟩ := h
    exact ⟨products, lines, Eq.trans hinputs hproducts, Eq.trans houtput hlines, hcomputed⟩
  case reviews =>
    obtain ⟨products, table, hproducts, htable, hcomputed⟩ := h
    refine ⟨products, table, Eq.trans hinputs hproducts, ?_, hcomputed⟩
    rcases houtput with houtput | ⟨hnone, -⟩
    · exact houtput.trans htable
    · exact nomatch htable.symm.trans hnone
  case report =>
    obtain ⟨products, offers, hproducts, hoffers, htext⟩ := h
    obtain ⟨hproducts', hoffers', hcount⟩ := hinputs
    refine ⟨products, offers, hproducts'.trans hproducts, hoffers'.trans hoffers, ?_⟩
    rw [hcount]
    exact Eq.trans houtput htext

theorem mem_stageOrder (stage : Stage) : stage ∈ stageOrder := by
  cases stage <;> decide

/-- The stages from a later one on are not among the inputs of a stage. -/
theorem not_mem_inputs {T : Stage} {rest : List Stage} (hsuffix : (T :: rest) <:+ stageOrder)
    (hstage : stage ∉ T :: rest) : T ∉ inputs stage := by
  have horder : ∀ tail ∈ stageOrder.tails, ∀ T ∈ tail.head?, ∀ stage ∈ stageOrder,
      stage ∉ tail → T ∉ inputs stage := by decide
  exact horder _ ((List.mem_tails _ _).2 hsuffix) T rfl stage (mem_stageOrder stage) hstage

/-- A stage that is written leaves the earlier ones current. -/
theorem Current.of_later {T : Stage} {rest : List Stage} (h : Current config cap stage d)
    (hsuffix : (T :: rest) <:+ stageOrder) (hstage : stage ∉ T :: rest) (hwrites : Writes T d d') :
    Current config cap stage d' := by
  have hne : stage ≠ T := fun heq => hstage (heq ▸ List.mem_cons_self)
  refine h.congr (unchanged_of_inputs fun S hS => hwrites.outputs S ?_) (hwrites.outputs stage hne)
  rintro rfl
  exact not_mem_inputs hsuffix hstage hS

/-! ### Marks -/

/-- **What a mark says**: a stage that is marked as complete at a cap has the output that it
computed when it was last built. -/
def Marked (config : Config) (d : Disk) (built : Stage → Option Disk) : Prop :=
  ∀ T, T ≠ .products → ∀ c, d.db.completeAt T c = true →
    ∃ d₀, built T = some d₀ ∧ SameOutput T d₀ d ∧ Current config c T d₀

variable {built : Stage → Option Disk}

/-- A mark outlives what leaves the stage alone. -/
theorem Marked.of_same (h : Marked config d built) {T : Stage} (hT : T ≠ .products)
    (hmark : d'.db.stageState T = d.db.stageState T) (houtput : SameOutput T d d') :
    ∀ c, d'.db.completeAt T c = true →
      ∃ d₀, built T = some d₀ ∧ SameOutput T d₀ d' ∧ Current config c T d₀ := by
  intro c hc
  rw [completeAt_congr hmark] at hc
  obtain ⟨d₀, hbuilt, hsame, hcurrent⟩ := h T hT c hc
  exact ⟨d₀, hbuilt, hsame.trans houtput, hcurrent⟩

theorem Marked.idle (h : Marked config d built) (hidle : Idle d d') : Marked config d' built :=
  fun T hT => h.of_same hT (hidle.marks T) (hidle.outputs T)

/-- A stage that is written and not marked as complete takes no other mark away. -/
theorem Marked.opened (h : Marked config d built) (hwrites : Writes stage d d')
    (hincomplete : stage ≠ .products → ∀ c, d'.db.completeAt stage c = false) :
    Marked config d' built := by
  intro T hT c hc
  by_cases hstage : T = stage
  · subst hstage
    rw [hincomplete hT c] at hc
    cases hc
  · exact h.of_same hT (hwrites.marks T hstage) (hwrites.outputs T hstage) c hc

/-- A stage that was rebuilt is marked with what it was built from. -/
theorem Marked.returned (h : Marked config d built) {rebuilt : Bool}
    (hreturns : Returns config cap stage rebuilt d d') :
    Marked config d' (if rebuilt then Function.update built stage (some d') else built) := by
  cases rebuilt with
  | false => exact h.idle (hreturns.kept rfl).1
  | true =>
      obtain ⟨hwrites, hcurrent⟩ := hreturns.writes rfl
      intro T hT c hc
      by_cases hstage : T = stage
      · subst hstage
        rw [hreturns.marks rfl hT c] at hc
        obtain rfl := of_decide_eq_true hc
        exact ⟨d', Function.update_self _ _ _, .refl T d', hcurrent⟩
      · obtain ⟨d₀, hbuilt, hrest⟩ :=
          h.of_same hT (hwrites.marks T hstage) (hwrites.outputs T hstage) c hc
        exact ⟨d₀, (Function.update_of_ne hstage _ _).trans hbuilt, hrest⟩

/-- A run of a stage that is stopped takes no mark away. -/
theorem Marked.stopped (h : Marked config d built) {t : Disk}
    (ht : t ∈ (leaves (runStage config cap force stage) d).dropLast ∨
      ∃ e j, runStage config cap force stage { state := d } = .error e j ∧ t = j.state) :
    Marked config t built := by
  by_cases hstage : stage = .products
  · subst hstage
    have hmoves : Moves (Along (Writes .products)) (runStage config cap force .products) :=
      stageProducts_writes.bind fun _ => .pure
    have hwrites : Writes .products d t := by
      rcases ht with ht | ⟨e, j, herror, rfl⟩
      · exact of_mem_leaves hmoves (List.mem_of_mem_dropLast ht)
      · exact (hmoves.2 _ _ _ herror).state
    exact h.opened hwrites fun hne => absurd rfl hne
  · rcases runStage_opens hstage ht with hidle | ⟨hwrites, hincomplete⟩
    · exact h.idle hidle
    · exact h.opened hwrites fun _ => hincomplete

/-- **Throughout a session, marks say what they say.** -/
theorem History.marked (h : History config d built) : Marked config d built := by
  induction h with
  | fresh => exact fun T _ c hc => by cases hc
  | returned _ hrun ih => exact ih.returned (runStage_returns hrun).1
  | raised _ hrun ih => exact ih.stopped (.inr ⟨_, _, hrun, rfl⟩)
  | killed _ ht ih => exact ih.stopped (.inl ht)

/-! ### The run -/

/-- Nothing of note changed, and the stages are up to date as they were. -/
theorem upToDate_of_idle (h : Idle d d') (T : Stage) :
    upToDate config cap d' T = upToDate config cap d T := by
  have hmark (S : Stage) : d'.db.completeAt S cap = d.db.completeAt S cap :=
    completeAt_congr (h.marks S)
  cases T
  case products =>
    obtain ⟨-, hprogress⟩ : _ ∧ d'.db.sourceProgress = d.db.sourceProgress := h.outputs .products
    have hdone : completedSources (config.setting cap) false d'.db =
        completedSources (config.setting cap) false d.db := by
      funext sourceName
      rw [completedSources, completedSources, CandidatesDb.sourceDone, CandidatesDb.sourceDone,
        hprogress]
    rw [upToDate, upToDate, productsUpToDate, productsUpToDate, hdone]
    exact congrArg (· && _ && _) (hmark .products)
  case select =>
    have hfile : d'.productsJsonl = d.productsJsonl := h.outputs .select
    show (d'.db.completeAt .select cap && d'.productsJsonl.isSome) = _
    rw [hmark, hfile]
    rfl
  case images =>
    have hfile : d'.imagesManifestJsonl = d.imagesManifestJsonl := h.outputs .images
    show (d'.db.completeAt .images cap && d'.imagesManifestJsonl.isSome) = _
    rw [hmark, hfile]
    rfl
  case offers =>
    have hfile : d'.offersJsonl = d.offersJsonl := h.outputs .offers
    show (d'.db.completeAt .offers cap && d'.offersJsonl.isSome) = _
    rw [hmark, hfile]
    rfl
  case reviews =>
    show (d'.db.completeAt .reviews cap && true) = _
    rw [hmark]
    rfl
  case report =>
    have hfile : d'.qualityReportJson = d.qualityReportJson := h.outputs .report
    show (d'.db.completeAt .report cap && d'.qualityReportJson.isSome) = _
    rw [hmark, hfile]
    rfl

/-- A stage that is up to date is marked as complete. -/
theorem completeAt_of_upToDate (hstage : stage ≠ .products)
    (h : upToDate config cap d stage = true) : d.db.completeAt stage cap = true := by
  cases stage
  case products => exact absurd rfl hstage
  all_goals exact (Bool.and_eq_true _ _ ▸ h).1

/-- A stage that is skipped is current if its inputs are what it was built from. -/
theorem Marked.current (h : Marked config d built) (hdone : upToDate config cap d stage = true)
    (hfresh : ∀ d₀, built stage = some d₀ → Unchanged stage d₀ d) :
    Current config cap stage d := by
  by_cases hstage : stage = .products
  · rw [hstage]
    trivial
  · obtain ⟨d₀, hbuilt, hsame, hcurrent⟩ := h stage hstage cap (completeAt_of_upToDate hstage hdone)
    exact hcurrent.congr (hfresh d₀ hbuilt) hsame

/-- A stage of an `all` run. -/
theorem runNext_eq_ok {flags flags' : Bool × Bool} {j j' : Journal Disk}
    (h : runNext config cap flags stage j = .ok flags' j') :
    ∃ rebuilt, runStage config cap (flags.1 || flags.2) stage j = .ok rebuilt j' ∧
      flags' = (flags.1 || flags.2, flags.2 || (rebuilt && !decide (stage = .report))) := by
  obtain ⟨handled, j₁, hhandle, hpure⟩ := bind_eq_ok.1 h
  obtain ⟨rfl, rfl⟩ := pure_eq_ok.1 hpure
  obtain ⟨rebuilt, j₂, hrun, hpure⟩ := bind_eq_ok.1 hhandle
  obtain ⟨rfl, rfl⟩ := pure_eq_ok.1 hpure
  exact ⟨rebuilt, hrun, rfl⟩

/-- **The stages that are forced** are built from what those before them left. -/
theorem forced_current : ∀ {stages : List Stage}, stages <:+ stageOrder →
    ∀ {flags flags' : Bool × Bool} {j j' : Journal Disk}, (flags.1 || flags.2) = true →
      (∀ T ∉ stages, Current config cap T j.state) →
        stages.foldlM (runNext config cap) flags j = .ok flags' j' →
          ∀ T, Current config cap T j'.state
  | [], _, flags, flags', j, j', _, hcurrent, hrun, T => by
      obtain ⟨-, rfl⟩ := pure_eq_ok.1 hrun
      exact hcurrent T List.not_mem_nil
  | stage :: stages, hsuffix, flags, flags', j, j', hforce, hcurrent, hrun, T => by
      rw [List.foldlM_cons] at hrun
      obtain ⟨flags₁, j₁, hnext, hrest⟩ := bind_eq_ok.1 hrun
      obtain ⟨rebuilt, hstage, rfl⟩ := runNext_eq_ok hnext
      obtain ⟨hreturns, hrebuilt⟩ := runStage_returns hstage
      obtain ⟨hwrites, hnow⟩ := hreturns.writes (hrebuilt hforce)
      refine forced_current ((List.suffix_cons stage stages).trans hsuffix) ?_ ?_ hrest T
      · show ((flags.1 || flags.2) || _) = true
        rw [hforce]
        rfl
      · intro T hT
        by_cases heq : T = stage
        · rw [heq]
          exact hnow
        · have hT' : T ∉ stage :: stages := by
            intro hmem
            rcases List.mem_cons.1 hmem with h | h
            · exact heq h
            · exact hT h
          exact (hcurrent T hT').of_later hsuffix hT' hwrites

/-- **The stages that are skipped** are current if their inputs are what they were built from, and
the others are built. -/
theorem unforced_current (hmarked : Marked config d built) : ∀ {stages : List Stage},
    stages <:+ stageOrder → (∀ T ∈ stages.takeWhile (upToDate config cap d), ∀ d₀,
      built T = some d₀ → Unchanged T d₀ d) → ∀ {flags' : Bool × Bool} {j j' : Journal Disk},
        Idle d j.state → (∀ T ∉ stages, Current config cap T j.state) →
          stages.foldlM (runNext config cap) (false, false) j = .ok flags' j' →
            ∀ T, Current config cap T j'.state
  | [], _, _, flags', j, j', _, hcurrent, hrun, T => by
      obtain ⟨-, rfl⟩ := pure_eq_ok.1 hrun
      exact hcurrent T List.not_mem_nil
  | stage :: stages, hsuffix, hfresh, flags', j, j', hidle, hcurrent, hrun, T => by
      rw [List.foldlM_cons] at hrun
      obtain ⟨flags₁, j₁, hnext, hrest⟩ := bind_eq_ok.1 hrun
      obtain ⟨rebuilt, hstage, rfl⟩ := runNext_eq_ok hnext
      obtain ⟨hreturns, -⟩ := runStage_returns hstage
      have htail : stages <:+ stageOrder := (List.suffix_cons stage stages).trans hsuffix
      -- the stage is current, and those before it are still
      have hall {d' : Disk} (hnow : Current config cap stage d')
          (hbefore : ∀ T ∉ stage :: stages, Current config cap T d') :
          ∀ T ∉ stages, Current config cap T d' := by
        intro T hT
        by_cases heq : T = stage
        · rw [heq]
          exact hnow
        · exact hbefore T (List.not_mem_cons_of_ne_of_not_mem heq hT)
      cases rebuilt with
      | false =>
          obtain ⟨hkept, hdone⟩ := hreturns.kept rfl
          have hidle' : Idle d j₁.state := trans_of Idle hidle hkept
          rw [upToDate_of_idle hidle] at hdone
          rw [List.takeWhile_cons_of_pos hdone] at hfresh
          refine unforced_current hmarked htail
            (fun T hT => hfresh T (List.mem_cons_of_mem stage hT)) hidle' ?_ hrest T
          refine hall ?_ fun T hT => ?_
          · refine (hmarked.idle hidle').current ((upToDate_of_idle hidle' stage).trans hdone) ?_
            intro d₀ hbuilt
            exact (hfresh stage List.mem_cons_self d₀ hbuilt).trans
              (unchanged_of_inputs fun S _ => hidle'.outputs S)
          · exact (hcurrent T hT).congr (unchanged_of_inputs fun S _ => hkept.outputs S)
              (hkept.outputs T)
      | true =>
          obtain ⟨hwrites, hnow⟩ := hreturns.writes rfl
          have hcurrent' := hall hnow fun T hT => (hcurrent T hT).of_later hsuffix hT hwrites
          by_cases hreport : stage = .report
          · -- nothing comes after the report
            have htails : ∀ tail ∈ stageOrder.tails, tail.head? = some .report → tail.tail = [] := by
              decide
            have hlast : stages = [] :=
              htails _ ((List.mem_tails _ _).2 hsuffix) (congrArg some hreport)
            subst hlast
            obtain ⟨-, rfl⟩ := pure_eq_ok.1 hrest
            exact hcurrent' T List.not_mem_nil
          · refine forced_current htail ?_ hcurrent' hrest T
            simp [hreport]

/-- **After an `all` run that returns everything is current**, if the run is forced, or the inputs
of the stages that it finds up to date are what these were last built from. -/
theorem all_current (h : History config d built)
    (hfresh : force = false → ∀ T ∈ skippedStages config cap d, ∀ d₀, built T = some d₀ →
      Unchanged T d₀ d) {flags : Bool × Bool} {j : Journal Disk}
    (hrun : runAll config cap force { state := d } = .ok flags j) :
    ∀ T, Current config cap T j.state := by
  have hnone : ∀ T ∉ stageOrder, Current config cap T d := fun T hT =>
    absurd (mem_stageOrder T) hT
  cases force with
  | true => exact forced_current (List.suffix_refl _) rfl hnone hrun
  | false =>
      exact unforced_current h.marked (List.suffix_refl _) (hfresh rfl) (refl_of Idle d) hnone hrun

/-! ### A session that leaves old products -/

/-- A session goes on with any stage, however that ends. -/
theorem History.ran (h : History config d built) (cap : Option ℕ) (force : Bool) (stage : Stage) :
    ∃ built', History config (ending (runStage config cap force stage) d) built' := by
  rcases final_cases (runStage config cap force stage) { state := d } with ⟨_, hrun⟩ | ⟨_, hrun⟩
  · exact ⟨_, .returned h hrun⟩
  · exact ⟨_, .raised h hrun⟩

section

/-- What is listed of a laptop. -/
private def laptop (parentAsin : String) : Json :=
  .obj [("parent_asin", .str parentAsin), ("title", .str "A small laptop"),
    ("average_rating", .float "4.5"), ("rating_number", .int 12),
    ("images", .arr [.obj [("large", .str "https://images.example/a.jpg")]])]

/-- The line of the source that it is listed in. -/
private def laptopLine (parentAsin : String) : String :=
  "\x7b\"parent_asin\":\"" ++ parentAsin ++ "\",\"title\":\"A small laptop\"," ++
    "\"average_rating\":4.5,\"rating_number\":12," ++
    "\"images\":[\x7b\"large\":\"https://images.example/a.jpg\"\x7d]\x7d"

/-- The product of the first laptop. -/
private def laptopProduct : Json :=
  .obj [("product_id", .str "prod_eacda943a4c4a2e5909f5149"), ("external_product_id", .str "B1"),
    ("category_id", .str "laptop"), ("main_category", .null), ("title", .str "A small laptop"),
    ("store", .null), ("status", .str "valid"), ("normalized_features", .arr []),
    ("description", .arr []), ("specifications", .obj []),
    ("images", .arr [.obj [("position", .int 0), ("variant", .null), ("resolution", .str "large"),
      ("url", .str "https://images.example/a.jpg")]]),
    ("average_rating", .float "4.5"), ("rating_number", .int 12), ("completeness_score", .int 30),
    ("source_price", .null), ("provenance", .obj [("parent_asin", .str "B1"),
      ("source_file", .str "meta_Electronics.jsonl.gz"), ("source_categories", .arr []),
      ("raw_metadata_path", .str "raw_metadata/prod_eacda943a4c4a2e5909f5149.json")])]

/-- The line of the product. -/
private def laptopProductLine : String :=
  "\x7b\"product_id\":\"prod_eacda943a4c4a2e5909f5149\",\"external_product_id\":\"B1\"," ++
    "\"category_id\":\"laptop\",\"main_category\":null,\"title\":\"A small laptop\"," ++
    "\"store\":null,\"status\":\"valid\",\"normalized_features\":[],\"description\":[]," ++
    "\"specifications\":\x7b\x7d,\"images\":[\x7b\"position\":0,\"variant\":null," ++
    "\"resolution\":\"large\",\"url\":\"https://images.example/a.jpg\"\x7d]," ++
    "\"average_rating\":4.5,\"rating_number\":12,\"completeness_score\":30," ++
    "\"source_price\":null,\"provenance\":\x7b\"parent_asin\":\"B1\"," ++
    "\"source_file\":\"meta_Electronics.jsonl.gz\",\"source_categories\":[]," ++
    "\"raw_metadata_path\":\"raw_metadata/prod_eacda943a4c4a2e5909f5149.json\"\x7d\x7d"

/-- What is read, with the lines that it is written as. -/
private def laptopLines : List (Json × String) :=
  [(laptopProduct, laptopProductLine), (laptop "B1", laptopLine "B1"),
    (laptop "B2", laptopLine "B2")]

/-- A Python that reads and writes these lines. -/
private def laptopPython : Python where
  strip text := text
  lower text := text
  loads text := (laptopLines.find? fun line => decide (line.2 = text)).map Prod.fst
  dump value := (laptopLines.lookup value).getD (String.ofList (Json.dumps value))
  float _ := none
  literal _ := .finite (9 / 2)
  ofInt n := some (.finite n)
  repr _ := ""
  classify _ _ := "laptop"

/-- The digests of the identifiers; no price is converted, and no offer or review made. -/
private def laptopTools : Toolbox where
  sha1 text := if text = "agentpay:product:B1" then "eacda943a4c4a2e5909f51494adf82dbe47bcc12"
    else "2b0ffb110304f905a583911da39299b49627b29c"
  sha256 _ := []
  dumpSorted := laptopPython.dump
  round3 _ := "4.5"
  buildSpecifications _ _ := []
  parseCurrencyMinor _ := .ok none

/-- Two laptops are listed in one source, and nothing in the others. -/
private def twoLaptops : Config where
  py := laptopPython
  tools := laptopTools
  raw name :=
    if name = "meta_Electronics.jsonl.gz" then
      some [laptopLine "B1", laptopLine "B2"]
    else if name ∈ metaSources then some [] else none

/-- The disk after these stages. -/
private def session (d : Disk) (stages : List (Option ℕ × Stage)) : Disk :=
  stages.foldl (fun d next => ending (runStage twoLaptops next.1 false next.2) d) d

/-- Stage 1 is run once more at a larger cap, and at the first again. -/
private def enlarged : Disk :=
  session {} [(some 1, .products), (some 1, .select), (some 2, .products), (some 1, .products)]

theorem exists_history_session {d : Disk} {built : Stage → Option Disk}
    (h : History twoLaptops d built) (stages : List (Option ℕ × Stage)) :
    ∃ built', History twoLaptops (session d stages) built' := by
  induction stages generalizing d built with
  | nil => exact ⟨built, h⟩
  | cons next stages ih =>
      obtain ⟨built', hnext⟩ := h.ran next.1 false next.2
      exact ih hnext

/-- A first `all` run makes everything. -/
theorem first_all_current : ∃ flags j, runAll twoLaptops (some 1) false { state := {} } = .ok flags j ∧
    j.state.productsJsonl.map List.length = some 1 ∧ ∀ T, Current twoLaptops (some 1) T j.state := by
  have hreturns : returns (runAll twoLaptops (some 1) false) { state := {} } = true := by decide +kernel
  have hlength : (ending (runAll twoLaptops (some 1) false) {}).productsJsonl.map List.length =
      some 1 := by decide +kernel
  have hskipped : skippedStages twoLaptops (some 1) {} = [] := by decide +kernel
  obtain ⟨flags, j, hrun⟩ := exists_of_returns hreturns
  rw [ending, final, hrun] at hlength
  refine ⟨flags, j, hrun, hlength, all_current .fresh (fun _ T hT => ?_) hrun⟩
  rw [hskipped] at hT
  exact absurd hT List.not_mem_nil

/-- **An `all` run that leaves old products**: products were made of one candidate; stage 1 was run
at a larger cap, which found another, and at the first cap again.  Both stages are marked as
complete at that cap, so the run takes up the products that were made before. -/
theorem stale_after_all : ¬ ∀ (config : Config) (cap : Option ℕ) (force : Bool) (d : Disk)
    (built : Stage → Option Disk) (flags : Bool × Bool) (j : Journal Disk),
    History config d built → runAll config cap force { state := d } = .ok flags j →
      ∀ T, Current config cap T j.state := by
  intro hclaim
  have hreturns : returns (runAll twoLaptops (some 1) false) { state := enlarged } = true := by
    decide +kernel
  have hwritten : (ending (runAll twoLaptops (some 1) false) enlarged).productsJsonl.map
      List.length = some 1 := by decide +kernel
  have hcomputed : (productLines twoLaptops (ending (runAll twoLaptops (some 1) false)
      enlarged).db.candidates).toOption.map List.length = some 2 := by decide +kernel
  obtain ⟨built, hhistory⟩ := exists_history_session .fresh
    [(some 1, .products), (some 1, .select), (some 2, .products), (some 1, .products)]
  obtain ⟨flags, j, hrun⟩ := exists_of_returns hreturns
  rw [ending, final, hrun] at hwritten hcomputed
  obtain ⟨lines, hlines, hlinesOf⟩ := hclaim twoLaptops (some 1) false enlarged built flags j
    hhistory hrun .select
  rw [hlines] at hwritten
  rw [hlinesOf] at hcomputed
  cases (Option.some.inj hwritten).symm.trans (Option.some.inj hcomputed)

end

end Pipeline
end AgenticCommerce
