/-
# Importing the same files again

A sequence of imports of one merchant, and what its store holds of each of them: the rows its files
describe, less those that a later import describes again (`Holds`), for a row belongs to the version
that wrote it last.

An import of files that were imported before is skipped, and answers with the version it had then,
whatever became of its rows (`faithful_of_undisturbed`, `overwritten_import`).
-/

import AgenticCommerce.Catalog.Checksum
import AgenticCommerce.Catalog.Imports
import Mathlib.Data.List.ReduceOption

namespace AgenticCommerce
namespace Catalog

open Relational

/-! ### What is left of an import -/

/-- The offers an import describes, without their stock. -/
def Import.described (x : Import) : Option (List Offer) := x.offers.map (List.map Prod.fst)

/-- The row is under no identifier that one of the imports describes. -/
def Unwritten {α : Type} [Keyed α] (rows : Import → Option (List α)) (since : List Import) (a : α) :
    Prop :=
  ∀ z ∈ since, ∀ l, rows z = some l → ∀ b ∈ l, clashes b a = false

/-- What a table holds of the imports that were carried out. -/
structure Holds {α : Type} [Keyed α] (version : α → String) (rows : Import → Option (List α))
    (log : List Import) (t : Table α) : Prop where
  owned : ∀ a ∈ t, ∃ y ∈ log, version a = y.draws.catalogVersionId
  stored : ∀ before y since, log = before ++ y :: since → ∃ l, rows y = some l ∧ ∀ a,
    a ∈ t ∧ version a = y.draws.catalogVersionId ↔ LastWritten l a ∧ Unwritten rows since a

section

variable {α : Type} [Keyed α] {version : α → String} {rows : Import → Option (List α)}
  {log : List Import} {t t' : Table α} {x : Import} {l : List α}

theorem unwritten_concat {since : List Import} {a : α} (hl : rows x = some l) :
    Unwritten rows (since ++ [x]) a ↔
      Unwritten rows since a ∧ ∀ b ∈ l, clashes b a = false := by
  constructor
  · intro h
    exact ⟨fun z hz => h z (List.mem_append_left _ hz),
      h x (List.mem_append_right _ (List.mem_singleton.2 rfl)) l hl⟩
  · rintro ⟨h, hlast⟩ z hz m hm
    rcases List.mem_append.1 hz with hz | hz
    · exact h z hz m hm
    · obtain rfl := List.mem_singleton.1 hz
      rw [hl] at hm
      obtain rfl := Option.some.inj hm
      exact hlast

/-- **One more import** takes over the rows it describes, and no others. -/
theorem Holds.concat (h : Holds version rows log t) (hl : rows x = some l)
    (hversion : ∀ a ∈ l, version a = x.draws.catalogVersionId)
    (hnew : ∀ y ∈ log, y.draws.catalogVersionId ≠ x.draws.catalogVersionId)
    (hwritten : WrittenOver l t t') : Holds version rows (log ++ [x]) t' := by
  have hlast : x ∈ log ++ [x] := List.mem_append_right _ (List.mem_singleton.2 rfl)
  refine ⟨fun a ha => ?_, fun before y since hlog => ?_⟩
  · rcases (hwritten a).1 ha with hwrote | ⟨hold, -⟩
    · exact ⟨x, hlast, hversion a hwrote.mem⟩
    · obtain ⟨y, hy, howned⟩ := h.owned a hold
      exact ⟨y, List.mem_append_left _ hy, howned⟩
  · rcases List.eq_nil_or_concat since with rfl | ⟨since, z, rfl⟩
    · -- the import that was carried out last
      obtain ⟨-, hsame⟩ := List.append_inj' hlog rfl
      obtain rfl := (List.cons.inj hsame).1
      refine ⟨l, hl, fun a => ⟨?_, ?_⟩⟩
      · rintro ⟨ha, hown⟩
        rcases (hwritten a).1 ha with hwrote | ⟨hold, -⟩
        · exact ⟨hwrote, fun z hz => absurd hz List.not_mem_nil⟩
        · obtain ⟨y, hy, howned⟩ := h.owned a hold
          exact absurd (howned.symm.trans hown) (hnew y hy)
      · rintro ⟨hwrote, -⟩
        exact ⟨(hwritten a).2 (.inl hwrote), hversion a hwrote.mem⟩
    · -- one before it, of which it took over what it describes
      rw [List.concat_eq_append, ← List.cons_append, ← List.append_assoc] at hlog
      obtain ⟨hbefore, hsame⟩ := List.append_inj' hlog rfl
      obtain rfl := (List.cons.inj hsame).1
      obtain ⟨m, hm, hstored⟩ := h.stored before y since hbefore
      have hy : y ∈ log := hbefore ▸ List.mem_append_right _ List.mem_cons_self
      refine ⟨m, hm, fun a => ?_⟩
      rw [List.concat_eq_append, unwritten_concat hl, ← and_assoc, ← hstored, hwritten]
      constructor
      · rintro ⟨hwrote | ⟨hold, hother⟩, hown⟩
        · exact absurd (hown.symm.trans (hversion a hwrote.mem)) (hnew y hy)
        · exact ⟨⟨hold, hown⟩, hother⟩
      · rintro ⟨⟨hold, hown⟩, hother⟩
        exact ⟨.inr ⟨hold, hother⟩, hown⟩

end

/-! ### The rows of a version -/

section

variable {x : Import}

/-- A row comes from a line. -/
theorem exists_line {β : Type} {row : ℕ → Json → Option β} {n : ℕ} {lines : List Json} {l : List β}
    (h : rowsFrom row n lines = some l) : ∀ b ∈ l, ∃ k data, row k data = some b := by
  induction lines generalizing n l with
  | nil =>
      obtain rfl := Option.some.inj h
      exact fun b hb => absurd hb List.not_mem_nil
  | cons data rest ih =>
      obtain ⟨b, m, hrow, hrest, rfl⟩ := rowsFrom_cons.1 h
      intro c hc
      rcases List.mem_cons.1 hc with rfl | hc
      · exact ⟨n, data, hrow⟩
      · exact ih hrest c hc

theorem products_version {l : List Product} (h : x.products = some l) :
    ∀ p ∈ l, p.catalogVersionId = x.draws.catalogVersionId := by
  obtain ⟨lines, -, hrows⟩ := Option.bind_eq_some_iff.1 h
  intro p hp
  obtain ⟨k, data, hrow⟩ := exists_line hrows p hp
  simp only [productRow, Option.bind_eq_bind, Option.bind_eq_some_iff, Option.pure_def,
    Option.some.injEq] at hrow
  obtain ⟨_, -, _, -, _, -, _, -, _, -, _, -, _, -, hrow⟩ := hrow
  obtain ⟨_, -, _, -, _, -, _, -, _, -, _, -, _, -, rfl⟩ := hrow
  rfl

theorem offerRow_version {reading : Reading} {merchantId catalogVersionId drawn : String}
    {now : Time} {data : Json} {o : Offer}
    (h : offerRow reading merchantId catalogVersionId drawn now data = some (some o)) :
    o.catalogVersionId = catalogVersionId := by
  rw [offerRow] at h
  obtain ⟨product, -, h⟩ := Option.bind_eq_some_iff.1 h
  by_cases htruthy : product.truthy = true
  · rw [if_pos htruthy] at h
    iterate 17 obtain ⟨_, -, h⟩ := Option.bind_eq_some_iff.1 h
    obtain rfl := Option.some.inj (Option.some.inj h)
    rfl
  · rw [if_neg htruthy] at h
    cases h

theorem described_version {l : List Offer} (h : x.described = some l) :
    ∀ o ∈ l, o.catalogVersionId = x.draws.catalogVersionId := by
  obtain ⟨rows, hrows, rfl⟩ := Option.map_eq_some_iff.1 h
  obtain ⟨lines, all, -, hall, rfl⟩ := offers_eq_some.1 hrows
  intro o ho
  obtain ⟨row, hrow, rfl⟩ := List.mem_map.1 ho
  obtain ⟨k, data, hline⟩ := exists_line hall _ (List.reduceOption_mem_iff.1 hrow)
  simp only [Import.offerLine, Option.bind_eq_bind, Option.bind_eq_some_iff, Option.pure_def,
    Option.some.injEq] at hline
  obtain ⟨offer, hoffer, quantity, -, hsome⟩ := hline
  obtain ⟨o, rfl, hpair⟩ := Option.map_eq_some_iff.1 hsome
  obtain rfl := hpair
  exact offerRow_version hoffer

end

/-! ### Runs -/

/-- The store of a merchant's imports, and the imports that were carried out. -/
abbrev History := Database × List Import

/-- The call is neither skipped nor rolled back. -/
def carriesOut (engine : Engine) (x : Import) (db : Database) : Bool :=
  (importedBefore x db).isNone && (importAnew engine x).returns { db }

/-- A call in a transaction of its own. -/
def History.call (engine : Engine) (s : History) (x : Import) : History :=
  ((Work.transaction World.restore (importCatalogArtifacts engine x) { db := s.1 }).db,
    if carriesOut engine x s.1 then s.2 ++ [x] else s.2)

/-- A sequence of calls from an empty store. -/
def history (engine : Engine) (calls : List Import) : History :=
  calls.foldl (History.call engine) ({}, [])

/-- The store holds under the version what the files describe, as they are read by the merchant at
some time, with some identifiers drawn for the lines that have none. -/
def Faithful (x : Import) (v : CatalogVersion) (db : Database) : Prop :=
  ∃ y : Import, y.merchantId = x.merchantId ∧ y.files = x.files ∧ y.env.reading = x.env.reading ∧
    (∃ l, y.products = some l ∧ ∀ p,
      p ∈ db.products ∧ p.catalogVersionId = v.catalogVersionId ↔ LastWritten l p) ∧
    ∃ l, y.described = some l ∧ ∀ o,
      o ∈ db.offers ∧ o.catalogVersionId = v.catalogVersionId ↔ LastWritten l o

/-- What is known of a history: the runs and the versions are those of the imports that were
carried out, and so are the rows. -/
structure Recorded (s : History) : Prop where
  runs : ∀ r ∈ s.1.importRuns, ∃ y ∈ s.2, r = { y.run with status := .completed }
  ran : ∀ y ∈ s.2, { y.run with status := .completed } ∈ s.1.importRuns
  versions : ∀ v ∈ s.1.catalogVersions, ∃ y ∈ s.2,
    v.catalogVersionId = y.draws.catalogVersionId ∧ v.importRunId = some y.draws.importRunId
  known : ∀ y ∈ s.2, ∃ v ∈ s.1.catalogVersions, v.catalogVersionId = y.draws.catalogVersionId
  products : Holds Product.catalogVersionId Import.products s.2 s.1.products
  offers : Holds Offer.catalogVersionId Import.described s.2 s.1.offers

section

variable {engine : Engine} {s : History} {x : Import} {v : CatalogVersion} {w' : World}

theorem Recorded.empty : Recorded ({}, []) where
  runs _ hr := absurd hr List.not_mem_nil
  ran _ hy := absurd hy List.not_mem_nil
  versions _ hv := absurd hv List.not_mem_nil
  known _ hy := absurd hy List.not_mem_nil
  products := ⟨fun _ ha => absurd ha List.not_mem_nil, fun _ _ _ h => absurd h (by simp)⟩
  offers := ⟨fun _ ha => absurd ha List.not_mem_nil, fun _ _ _ h => absurd h (by simp)⟩

/-- **An import that is carried out** is recorded. -/
theorem Recorded.stores {db' : Database} (h : Recorded s) (hstores : Stores x v s.1 db') :
    Recorded (db', s.2 ++ [x]) := by
  have hlast : x ∈ s.2 ++ [x] := List.mem_append_right _ (List.mem_singleton.2 rfl)
  have hnew (y : Import) (hy : y ∈ s.2) : y.draws.catalogVersionId ≠ x.draws.catalogVersionId := by
    obtain ⟨v', hv', hid⟩ := h.known y hy
    exact fun hsame => hstores.versionNew v' hv' (hid.trans hsame)
  refine ⟨fun r hr => ?_, fun y hy => ?_, fun v' hv' => ?_, fun y hy => ?_, ?_, ?_⟩
  · rcases (hstores.runs r).1 hr with hr | rfl
    · obtain ⟨y, hy, hrun⟩ := h.runs r hr
      exact ⟨y, List.mem_append_left _ hy, hrun⟩
    · exact ⟨x, hlast, rfl⟩
  · refine (hstores.runs _).2 ?_
    rcases List.mem_append.1 hy with hy | hy
    · exact .inl (h.ran y hy)
    · exact .inr (by rw [List.mem_singleton.1 hy])
  · rcases (hstores.versions v').1 hv' with hv' | rfl
    · obtain ⟨y, hy, hversion⟩ := h.versions v' hv'
      exact ⟨y, List.mem_append_left _ hy, hversion⟩
    · exact ⟨x, hlast, hstores.version.1, hstores.version.2.2.1⟩
  · rcases List.mem_append.1 hy with hy | hy
    · obtain ⟨v', hv', hid⟩ := h.known y hy
      exact ⟨v', (hstores.versions v').2 (.inl hv'), hid⟩
    · rw [List.mem_singleton.1 hy]
      exact ⟨v, (hstores.versions v).2 (.inr rfl), hstores.version.1⟩
  · obtain ⟨l, hl, hwritten⟩ := hstores.products
    exact h.products.concat hl (products_version hl) hnew hwritten
  · obtain ⟨rows, hrows, hwritten, -⟩ := hstores.offers
    have hl : x.described = some (rows.map Prod.fst) := by rw [Import.described, hrows]; rfl
    exact h.offers.concat hl (described_version hl) hnew hwritten

/-- A call that returns was skipped, or is carried out. -/
theorem importCatalogArtifacts_ok {w : World}
    (h : importCatalogArtifacts engine x w = .ok v w') :
    importedBefore x w.db = some v ∧ w' = w ∨
      importedBefore x w.db = none ∧ importAnew engine x w = .ok v w' := by
  obtain ⟨found, w₁, hquery, hrest⟩ := Work.bind_eq_ok.1 h
  obtain ⟨rfl, rfl⟩ := query_eq_ok.1 hquery
  cases hfound : importedBefore x w.db with
  | some v' =>
      rw [hfound] at hrest
      obtain ⟨rfl, rfl⟩ := Work.pure_eq_ok.1 hrest
      exact .inl ⟨rfl, rfl⟩
  | none =>
      rw [hfound] at hrest
      exact .inr ⟨rfl, hrest⟩

theorem importCatalogArtifacts_new {w : World} (h : importedBefore x w.db = none) :
    importCatalogArtifacts engine x w = importAnew engine x w := by
  rw [importCatalogArtifacts, Work.bind_of_ok (query_eq_ok.2 ⟨rfl, rfl⟩), h]

/-- **Every call is recorded**, whether it is carried out, skipped or rolled back. -/
theorem Recorded.call (h : Recorded s) : Recorded (s.call engine x) := by
  cases hrun : importCatalogArtifacts engine x { db := s.1 } with
  | error e w' =>
      have hnot : carriesOut engine x s.1 = false := by
        cases hfound : importedBefore x s.1 with
        | some v =>
            rw [carriesOut, hfound]
            rfl
        | none =>
            rw [importCatalogArtifacts_new (w := { db := s.1 }) hfound] at hrun
            rw [carriesOut, Work.returns, hrun, Bool.and_false]
      rw [History.call, hnot, Work.transaction_of_error hrun]
      exact h
  | ok v w' =>
      rw [History.call, Work.transaction_of_ok hrun]
      rcases importCatalogArtifacts_ok hrun with ⟨hfound, rfl⟩ | ⟨hfound, hanew⟩
      · have hnot : carriesOut engine x s.1 = false := by
          rw [carriesOut, hfound]
          rfl
        rw [hnot]
        exact h
      · have hout : carriesOut engine x s.1 = true := by
          rw [carriesOut, hfound, Work.returns, hanew]
          rfl
        rw [hout]
        exact h.stores (stores_of_importAnew hanew)

theorem recorded_history (engine : Engine) (calls : List Import) :
    Recorded (history engine calls) := by
  induction calls using List.reverseRecOn with
  | nil => exact Recorded.empty
  | append_singleton calls x ih =>
      rw [history, List.foldl_append]
      exact ih.call

theorem log_concat {calls : List Import} (h : carriesOut engine x (history engine calls).1 = true) :
    (history engine (calls ++ [x])).2 = (history engine calls).2 ++ [x] := by
  rw [history, List.foldl_append]
  exact if_pos h

theorem mem_history {calls : List Import} {y : Import} (h : y ∈ (history engine calls).2) :
    y ∈ calls := by
  induction calls using List.reverseRecOn with
  | nil => exact absurd h List.not_mem_nil
  | append_singleton calls x ih =>
      rw [history, List.foldl_append] at h
      change y ∈ if carriesOut engine x (history engine calls).1 = true then
        (history engine calls).2 ++ [x] else (history engine calls).2 at h
      split_ifs at h with hout
      · rcases List.mem_append.1 h with hy | hy
        · exact List.mem_append_left _ (ih hy)
        · exact List.mem_append_right _ hy
      · exact List.mem_append_left _ (ih h)

/-- **What a skipped call answers** is the version of an import with its checksum. -/
theorem exists_of_importedBefore (h : Recorded s) (hfound : importedBefore x s.1 = some v) :
    ∃ y ∈ s.2, y.merchantId = x.merchantId ∧
      y.files.checksum y.env = x.files.checksum x.env ∧
      v.catalogVersionId = y.draws.catalogVersionId := by
  obtain ⟨r, hr, hrest⟩ := Option.bind_eq_some_iff.1 hfound
  by_cases hcompleted : r.status = .completed
  · rw [if_pos hcompleted] at hrest
    obtain ⟨hrun, hmatch⟩ := Table.first_eq_some hr
    obtain ⟨hv, hmatch'⟩ := Table.first_eq_some hrest
    rw [Bool.and_eq_true, beq_iff_eq, beq_iff_eq] at hmatch hmatch'
    obtain ⟨y, hy, hid, himport⟩ := h.versions v hv
    -- the run of the version is the run that was found
    have hsame : { y.run with status := .completed } = r := by
      refine Table.eq_of_clash (h.ran y hy) hrun ?_
      have hid' : y.draws.importRunId = r.importRunId :=
        Option.some.inj (himport.symm.trans hmatch'.2)
      simp [clashes, Keyed.clash, Keyed.key, Import.run, hid']
    refine ⟨y, hy, ?_, ?_, hid⟩
    · rw [← hmatch.1, ← hsame]
      rfl
    · rw [← hmatch.2, ← hsame]
      rfl
  · rw [if_neg hcompleted] at hrest
    cases hrest

/-- The import with the checksum of the call was one of the same files, and no import that was
carried out since describes a product or an offer again that it described. -/
def Undisturbed (log : List Import) (x : Import) : Prop :=
  ∀ before y since, log = before ++ y :: since → y.merchantId = x.merchantId →
    y.files.checksum y.env = x.files.checksum x.env → y.files = x.files ∧
      (∀ l, y.products = some l → ∀ p ∈ l, Unwritten Import.products since p) ∧
      ∀ l, y.described = some l → ∀ o ∈ l, Unwritten Import.described since o

/-- Every call of a sequence that returns answers with a version of what its files describe. -/
def FaithfulThroughout (engine : Engine) (calls : List Import) : Prop :=
  ∀ earlier x later v w', calls = earlier ++ x :: later →
    importCatalogArtifacts engine x { db := (history engine earlier).1 } = .ok v w' →
      Faithful x v w'.db

/-- What is held of an import, whose rows nothing describes again. -/
theorem Holds.lastWritten {α : Type} [Keyed α] {version : α → String}
    {rows : Import → Option (List α)} {log before since : List Import} {t : Table α} {y : Import}
    (h : Holds version rows log t) (hlog : log = before ++ y :: since)
    (hkept : ∀ l, rows y = some l → ∀ a ∈ l, Unwritten rows since a) :
    ∃ l, rows y = some l ∧ ∀ a,
      a ∈ t ∧ version a = y.draws.catalogVersionId ↔ LastWritten l a := by
  obtain ⟨l, hl, hstored⟩ := h.stored before y since hlog
  exact ⟨l, hl, fun a => (hstored a).trans
    (and_iff_left_of_imp fun hlast => hkept l hl a hlast.mem)⟩

/-- **A call after a history** answers faithfully where the history leaves its files alone. -/
theorem faithful_of_recorded (h : Recorded s)
    (hreading : ∀ y ∈ s.2, y.env.reading = x.env.reading) (hundisturbed : Undisturbed s.2 x)
    (hrun : importCatalogArtifacts engine x { db := s.1 } = .ok v w') : Faithful x v w'.db := by
  rcases importCatalogArtifacts_ok hrun with ⟨hfound, rfl⟩ | ⟨hfound, hanew⟩
  · obtain ⟨y, hy, hmerchant, hchecksum, hid⟩ := exists_of_importedBefore h hfound
    obtain ⟨before, since, hlog⟩ := List.append_of_mem hy
    obtain ⟨hfiles, hproducts, hoffers⟩ := hundisturbed before y since hlog hmerchant hchecksum
    refine ⟨y, hmerchant, hfiles, hreading y hy, ?_, ?_⟩
    · rw [hid]
      exact h.products.lastWritten hlog hproducts
    · rw [hid]
      exact h.offers.lastWritten hlog hoffers
  · have hstores := stores_of_importAnew hanew
    have hlater := h.stores hstores
    have hnothing {α : Type} [Keyed α] {rows : Import → Option (List α)} (a : α) :
        Unwritten rows [] a := fun z hz => absurd hz List.not_mem_nil
    refine ⟨x, rfl, rfl, rfl, ?_, ?_⟩
    · rw [hstores.version.1]
      exact hlater.products.lastWritten rfl fun _ _ a _ => hnothing a
    · rw [hstores.version.1]
      exact hlater.offers.lastWritten rfl fun _ _ a _ => hnothing a

/-- **When importing is faithful under repetition**: where every call finds that the import it
repeats, if it repeats one, was of its files and was left alone by those since. -/
theorem faithful_of_undisturbed (engine : Engine) (calls : List Import) (reading : Reading)
    (hreading : ∀ y ∈ calls, y.env.reading = reading)
    (hundisturbed : ∀ earlier x later, calls = earlier ++ x :: later →
      Undisturbed (history engine earlier).2 x) :
    FaithfulThroughout engine calls := by
  intro earlier x later v w' hcalls hrun
  refine faithful_of_recorded (recorded_history engine earlier) (fun y hy => ?_)
    (hundisturbed earlier x later hcalls) hrun
  have hx : x ∈ calls := hcalls ▸ List.mem_append_right _ List.mem_cons_self
  have hy' : y ∈ calls := hcalls ▸ List.mem_append_left _ (mem_history hy)
  rw [hreading y hy', hreading x hx]

end

/-! ### A keyboard and a mouse -/

/-- The line of a product. -/
def productLine (productId title : String) : Json :=
  .obj [("product_id", .str productId), ("title", .str title),
    ("category_id", .str "computer_accessory")]

/-- A file of one byte is one line: a keyboard, the keyboard under another title, or a mouse. -/
def shopReading : Reading :=
  { (default : Reading) with
    lines := fun bytes => some [
      if bytes = [0] then productLine "prd_1" "A keyboard"
      else if bytes = [1] then productLine "prd_1" "Another keyboard"
      else productLine "prd_2" "A trackball"] }

/-- The import of a products file of one byte. -/
def shopImport (file : UInt8) (importRunId catalogVersionId : String) : Import where
  merchantId := "mer_1"
  files := ⟨some [file], none⟩
  env := { (default : Env) with reading := shopReading, bodyHash := byteText }
  draws := ⟨importRunId, catalogVersionId, fun _ => "prd", fun _ _ => "img", fun _ => "off"⟩

/-- The keyboard, then another product or another title, then the keyboard again. -/
def shopCalls (file : UInt8) : List Import :=
  [shopImport 0 "run_1" "cat_1", shopImport file "run_2" "cat_2", shopImport 0 "run_3" "cat_3"]

theorem shop_reading (file : UInt8) : ∀ y ∈ shopCalls file, y.env.reading = shopReading := by
  intro y hy
  simp only [shopCalls, List.mem_cons, List.not_mem_nil, or_false] at hy
  rcases hy with rfl | rfl | rfl
  · rfl
  · rfl
  · rfl

theorem before_singleton {α : Type} {before since : List α} {y z : α}
    (h : [z] = before ++ y :: since) : before = [] ∧ y = z ∧ since = [] := by
  rcases before with _ | ⟨c, before⟩
  · obtain ⟨rfl, rfl⟩ := List.cons.inj h
    exact ⟨rfl, rfl, rfl⟩
  · exact absurd (List.cons.inj h).2 (by simp)

/-- The first two imports are carried out. -/
theorem shop_log {file : UInt8} (h : carriesOut ⟨true, []⟩ (shopImport file "run_2" "cat_2")
    (history ⟨true, []⟩ [shopImport 0 "run_1" "cat_1"]).1 = true) :
    (history ⟨true, []⟩ [shopImport 0 "run_1" "cat_1"]).2 = [shopImport 0 "run_1" "cat_1"] ∧
      (history ⟨true, []⟩ [shopImport 0 "run_1" "cat_1", shopImport file "run_2" "cat_2"]).2 =
        [shopImport 0 "run_1" "cat_1", shopImport file "run_2" "cat_2"] := by
  have hfirst : (history ⟨true, []⟩ [shopImport 0 "run_1" "cat_1"]).2 =
      [shopImport 0 "run_1" "cat_1"] :=
    @log_concat ⟨true, []⟩ _ [] (by decide +kernel)
  refine ⟨hfirst, ?_⟩
  have hsecond := log_concat h
  rwa [hfirst] at hsecond

/-- The keyboard, the trackball, and the keyboard again, by `faithful_of_undisturbed`. -/
theorem faithful_keyboard_trackball : FaithfulThroughout ⟨true, []⟩ (shopCalls 2) := by
  obtain ⟨hfirst, hsecond⟩ := @shop_log 2 (by decide +kernel)
  have hother : byteText [2] ≠ byteText [0] := by decide
  have hnone : ∀ l ∈ (shopImport 0 "run_1" "cat_1").described, l = [] := by decide +kernel
  have hapart : ∀ l ∈ (shopImport 0 "run_1" "cat_1").products, ∀ m ∈
      (shopImport 2 "run_2" "cat_2").products, ∀ p ∈ l, ∀ b ∈ m, clashes b p = false := by
    decide +kernel
  refine faithful_of_undisturbed ⟨true, []⟩ (shopCalls 2) shopReading (shop_reading 2)
    fun earlier x later hcalls before y since hlog hmerchant hchecksum => ?_
  rcases earlier with _ | ⟨a, _ | ⟨b, _ | ⟨c, earlier⟩⟩⟩
  · exact absurd hlog (by simp [history])
  · -- the trackball has another checksum than the keyboard
    simp only [shopCalls, List.cons_append, List.nil_append, List.cons.injEq] at hcalls
    obtain ⟨rfl, rfl, -⟩ := hcalls
    rw [hfirst] at hlog
    obtain ⟨-, rfl, -⟩ := before_singleton hlog
    exact absurd hchecksum.symm hother
  · -- the keyboard was imported before, and the trackball since
    simp only [shopCalls, List.cons_append, List.nil_append, List.cons.injEq] at hcalls
    obtain ⟨rfl, rfl, rfl, -⟩ := hcalls
    rw [hsecond] at hlog
    rcases before with _ | ⟨c, before⟩
    · obtain ⟨rfl, rfl⟩ := List.cons.inj hlog
      refine ⟨rfl, fun l hl p hp z hz m hm => ?_, fun l hl o ho z hz m hm => ?_⟩
      · obtain rfl := List.mem_singleton.1 hz
        exact hapart l hl m hm p hp
      · rw [hnone l hl] at ho
        exact absurd ho List.not_mem_nil
    · obtain ⟨-, rfl, -⟩ := before_singleton (List.cons.inj hlog).2
      exact absurd hchecksum hother
  · have hlength := congrArg List.length hcalls
    simp only [shopCalls, List.length_append, List.length_cons, List.length_nil] at hlength
    omega

/-- **The keyboard is imported, and renamed; imported again, it keeps the new name.** -/
theorem overwritten_import : ¬ ∀ (engine : Engine) (calls : List Import) (reading : Reading),
    (∀ y ∈ calls, y.env.reading = reading) → (∀ y ∈ calls, y.merchantId = "mer_1") →
      FaithfulThroughout engine calls := by
  intro h
  have hmerchant : ∀ y ∈ shopCalls 1, y.merchantId = "mer_1" := by decide
  have hfaithful := h ⟨true, []⟩ (shopCalls 1) shopReading (shop_reading 1) hmerchant
    [shopImport 0 "run_1" "cat_1", shopImport 1 "run_2" "cat_2"] (shopImport 0 "run_3" "cat_3") []
  have hbefore : (importedBefore (shopImport 0 "run_3" "cat_3") (history ⟨true, []⟩
      [shopImport 0 "run_1" "cat_1", shopImport 1 "run_2" "cat_2"]).1).map
        CatalogVersion.catalogVersionId = some "cat_1" := by
    decide +kernel
  have hrenamed : ∀ p ∈ (history ⟨true, []⟩ [shopImport 0 "run_1" "cat_1",
      shopImport 1 "run_2" "cat_2"]).1.products, p.catalogVersionId ≠ "cat_1" := by
    decide +kernel
  obtain ⟨v, hfound, hid⟩ := Option.map_eq_some_iff.1 hbefore
  obtain ⟨y, -, hfiles, hreading, ⟨l, hl, hstored⟩, -⟩ := hfaithful v _ rfl (by
    rw [importCatalogArtifacts, Work.bind_of_ok (query_eq_ok.2 ⟨rfl, rfl⟩), hfound]
    rfl)
  have hlines : readLines (shopImport 0 "run_3" "cat_3").env.reading
      (shopImport 0 "run_3" "cat_3").files.products = some [productLine "prd_1" "A keyboard"] := rfl
  rw [Import.products, hfiles, hreading, hlines, Option.bind_some] at hl
  obtain ⟨p, m, -, hnil, rfl⟩ := rowsFrom_cons.1 hl
  obtain rfl := Option.some.inj hnil
  obtain ⟨hp, hversion⟩ := (hstored p).2
    (lastWritten_of_pairwise (List.pairwise_singleton _ _) List.mem_cons_self)
  exact hrenamed p hp (hversion.trans hid)

end Catalog
end AgenticCommerce
