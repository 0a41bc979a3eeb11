/-
# What an import stores

The loops of `import_catalog_artifacts` are folds over the rows that the lines of the files
describe.  A call that is not skipped and returns (`stored_of_importAnew`) has written these rows
over the stored ones, each under a new draft version; it has left every other product and offer
alone, and has raised the stock of the offers it describes at most to what it describes.
-/

import AgenticCommerce.Catalog.Service

namespace AgenticCommerce
namespace Catalog

open Relational

/-! ### The loops -/

/-- The offers loop at a described offer and its stock. -/
def OfferShelf.shelve (s : OfferShelf) (row : Offer × ℤ) : OfferShelf :=
  { s with offers := s.offers.put row.1 }.stock row.1.offerId row.2

/-- What a line of the offers file describes. -/
def Import.offerLine (x : Import) (n : ℕ) (data : Json) : Option (Option (Offer × ℤ)) := do
  let offer ← offerRow x.env.reading x.merchantId x.draws.catalogVersionId (x.draws.offerId n)
    x.env.now data
  let quantity ← quantityOf x.env.reading data
  pure (offer.map fun o => (o, quantity))

section

variable {x : Import}

theorem offers_eq_some {l : List (Offer × ℤ)} : x.offers = some l ↔
    ∃ lines rows, readLines x.env.reading x.files.offers = some lines ∧
      rowsFrom x.offerLine 0 lines = some rows ∧ rows.reduceOption = l := by
  simp only [Import.offers, Option.bind_eq_bind, Option.bind_eq_some_iff, Option.pure_def,
    Option.some.injEq]
  constructor
  · rintro ⟨lines, hlines, rows, hrows, rfl⟩
    exact ⟨lines, rows, hlines, hrows, rfl⟩
  · rintro ⟨lines, rows, hlines, hrows, rfl⟩
    exact ⟨lines, hlines, rows, hrows, rfl⟩

theorem rowsFrom_cons {α : Type} {row : ℕ → Json → Option α} {n : ℕ} {data : Json}
    {rest : List Json} {l : List α} : rowsFrom row n (data :: rest) = some l ↔
      ∃ a m, row n data = some a ∧ rowsFrom row (n + 1) rest = some m ∧ a :: m = l := by
  simp only [rowsFrom, Option.bind_eq_bind, Option.bind_eq_some_iff, Option.pure_def,
    Option.some.injEq]
  constructor
  · rintro ⟨a, ha, m, hm, rfl⟩
    exact ⟨a, m, ha, hm, rfl⟩
  · rintro ⟨a, m, ha, hm, rfl⟩
    exact ⟨a, ha, m, hm, rfl⟩

theorem stageProduct_ok {n : ℕ} {data : Json} {s t : ProductShelf}
    (h : stageProduct x n data s = .ok t) :
    ∃ product, productRow x.env.reading x.merchantId x.draws.catalogVersionId
        (x.draws.productId n) data = some product ∧ t.products = s.products.put product := by
  rw [stageProduct] at h
  split at h
  · cases h
  · rename_i product hproduct
    refine ⟨product, hproduct, ?_⟩
    by_cases hforeign : ∃ stored ∈ s.products.table, stored.productId = product.productId ∧
        stored.merchantId ≠ x.merchantId
    · rw [if_pos hforeign] at h
      cases h
    · rw [if_neg hforeign] at h
      split at h
      · cases h
      · obtain rfl := Except.ok.inj h
        rfl

theorem stageOffer_ok {n : ℕ} {data : Json} {s t : OfferShelf} (h : stageOffer x n data s = .ok t) :
    ∃ row, x.offerLine n data = some row ∧ t = row.toList.foldl OfferShelf.shelve s := by
  rw [stageOffer] at h
  cases hoffer : offerRow x.env.reading x.merchantId x.draws.catalogVersionId (x.draws.offerId n)
      x.env.now data with
  | none =>
      rw [hoffer] at h
      cases h
  | some offer =>
      cases hquantity : quantityOf x.env.reading data with
      | none =>
          cases data with
          | obj items => cases hquantity
          | _ => cases hoffer
      | some quantity =>
          refine ⟨offer.map fun o => (o, quantity), ?_, ?_⟩
          · simp [Import.offerLine, hoffer, hquantity]
          · rw [hoffer, hquantity] at h
            cases offer with
            | none => exact (Except.ok.inj h).symm
            | some offer =>
                dsimp only at h
                split_ifs at h
                exact (Except.ok.inj h).symm

/-- **The products loop writes the described products**, one after the other. -/
theorem stageProducts_ok {n : ℕ} {lines : List Json} {s s' : ProductShelf}
    (h : stageProducts x n lines s = .ok s') :
    ∃ rows, rowsFrom (fun n => productRow x.env.reading x.merchantId x.draws.catalogVersionId
        (x.draws.productId n)) n lines = some rows ∧
      s'.products = rows.foldl Staged.put s.products := by
  induction lines generalizing n s with
  | nil =>
      obtain rfl := Except.ok.inj h
      exact ⟨[], rfl, rfl⟩
  | cons data rest ih =>
      rw [stageProducts] at h
      cases hstep : stageProduct x n data s with
      | error e =>
          rw [hstep] at h
          cases h
      | ok t =>
          rw [hstep] at h
          obtain ⟨product, hproduct, hput⟩ := stageProduct_ok hstep
          obtain ⟨rows, hrows, hfold⟩ := ih h
          refine ⟨product :: rows, rowsFrom_cons.2 ⟨product, rows, hproduct, hrows, rfl⟩, ?_⟩
          rw [hfold, hput, List.foldl_cons]

/-- **The offers loop shelves the described offers**, one after the other. -/
theorem stageOffers_ok {n : ℕ} {lines : List Json} {s s' : OfferShelf}
    (h : stageOffers x n lines s = .ok s') :
    ∃ rows, rowsFrom x.offerLine n lines = some rows ∧
      s' = rows.reduceOption.foldl OfferShelf.shelve s := by
  induction lines generalizing n s with
  | nil =>
      obtain rfl := Except.ok.inj h
      exact ⟨[], rfl, rfl⟩
  | cons data rest ih =>
      rw [stageOffers] at h
      cases hstep : stageOffer x n data s with
      | error e =>
          rw [hstep] at h
          cases h
      | ok t =>
          rw [hstep] at h
          obtain ⟨row, hrow, rfl⟩ := stageOffer_ok hstep
          obtain ⟨rows, hrows, rfl⟩ := ih h
          refine ⟨row :: rows, rowsFrom_cons.2 ⟨row, rows, hrow, hrows, rfl⟩, ?_⟩
          cases row with
          | none => rfl
          | some offer => rfl

/-! ### The shelf -/

theorem offers_shelve {l : List (Offer × ℤ)} {s : OfferShelf} :
    (l.foldl OfferShelf.shelve s).offers = (l.map Prod.fst).foldl Staged.put s.offers := by
  induction l generalizing s with
  | nil => rfl
  | cons row l ih =>
      rw [List.foldl_cons, ih, List.map_cons, List.foldl_cons, OfferShelf.shelve, OfferShelf.stock]
      split_ifs
      · rfl
      · rfl

/-- What is known of the stock while the offers are shelved: a stored row keeps what is reserved,
and has what it had or what was described for it; a row that waits has what was described. -/
structure StockFrom (described : List (Offer × ℤ)) (t : Table Inventory) (s : OfferShelf) :
    Prop where
  stored : ∀ i' ∈ s.inventory, ∃ i ∈ t, i'.offerId = i.offerId ∧
    i'.reservedQuantity = i.reservedQuantity ∧
      (i' = i ∨ ∃ row ∈ described, row.1.offerId = i.offerId ∧
        (i'.availableQuantity = i.availableQuantity ∨ ∃ row ∈ described,
          row.1.offerId = i.offerId ∧ i'.availableQuantity = row.2))
  pending : ∀ i' ∈ s.pendingInventory, ∃ row ∈ described,
    i' = { offerId := row.1.offerId, availableQuantity := row.2 }
  kept : ∀ i ∈ t, ∃ i' ∈ s.inventory, i'.offerId = i.offerId

theorem StockFrom.shelve {described : List (Offer × ℤ)} {t : Table Inventory} {s : OfferShelf}
    {row : Offer × ℤ} (h : StockFrom described t s) :
    StockFrom (described ++ [row]) t (s.shelve row) := by
  have hmore {P : Offer × ℤ → Prop} (hold : ∃ row ∈ described, P row) :
      ∃ row' ∈ described ++ [row], P row' := by
    obtain ⟨row', hrow', hp⟩ := hold
    exact ⟨row', List.mem_append_left _ hrow', hp⟩
  have hlast : row ∈ described ++ [row] := List.mem_append_right _ (List.mem_singleton.2 rfl)
  have hstored : ∀ i' ∈ s.inventory, ∃ i ∈ t, i'.offerId = i.offerId ∧
      i'.reservedQuantity = i.reservedQuantity ∧
        (i' = i ∨ ∃ row' ∈ described ++ [row], row'.1.offerId = i.offerId ∧
          (i'.availableQuantity = i.availableQuantity ∨ ∃ row' ∈ described ++ [row],
            row'.1.offerId = i.offerId ∧ i'.availableQuantity = row'.2)) := by
    intro i' hi'
    obtain ⟨i, hi, hid, hreserved, hsame | ⟨row', hrow', hid', hquantity⟩⟩ := h.stored i' hi'
    · exact ⟨i, hi, hid, hreserved, .inl hsame⟩
    · exact ⟨i, hi, hid, hreserved, .inr ⟨row', List.mem_append_left _ hrow', hid',
        hquantity.imp_right hmore⟩⟩
  rw [OfferShelf.shelve, OfferShelf.stock]
  split_ifs with hany
  · refine ⟨fun i' hi' => ?_, fun i' hi' => hmore (h.pending i' hi'), fun i hi => ?_⟩
    swap
    · obtain ⟨j, hj, hid⟩ := h.kept i hi
      refine ⟨_, List.mem_map.2 ⟨j, hj, rfl⟩, ?_⟩
      split_ifs
      · exact hid
      · exact hid
    obtain ⟨j, hj, rfl⟩ := List.mem_map.1 hi'
    split_ifs with hmatch
    · obtain ⟨i, hi, hid, hreserved, hcase⟩ := hstored j hj
      have hrow : row.1.offerId = i.offerId := (beq_iff_eq.1 hmatch).symm.trans hid
      refine ⟨i, hi, hid, hreserved, .inr ⟨row, hlast, hrow, ?_⟩⟩
      rcases max_choice j.availableQuantity row.2 with hmax | hmax
      · rcases hcase with rfl | ⟨-, -, -, hquantity⟩
        · exact .inl hmax
        · rcases hquantity with hquantity | ⟨row', hrow', hid', hquantity⟩
          · exact .inl (hmax.trans hquantity)
          · exact .inr ⟨row', hrow', hid', hmax.trans hquantity⟩
      · exact .inr ⟨row, hlast, hrow, hmax⟩
    · exact hstored j hj
  · refine ⟨hstored, fun i' hi' => ?_, h.kept⟩
    rcases List.mem_append.1 hi' with hi' | hi'
    · exact hmore (h.pending i' hi')
    · exact ⟨row, hlast, List.mem_singleton.1 hi'⟩

theorem stockFrom_shelve {l described : List (Offer × ℤ)} {t : Table Inventory} {s : OfferShelf}
    (h : StockFrom described t s) :
    StockFrom (described ++ l) t (l.foldl OfferShelf.shelve s) := by
  induction l generalizing described s with
  | nil => rwa [List.append_nil]
  | cons row l ih =>
      rw [List.append_cons, List.foldl_cons]
      exact ih h.shelve

end

/-! ### The import -/

/-- A row that is inserted and then rewritten, alone. -/
theorem mem_modify_insert {α : Type} [Keyed α] {t u : Table α} {a b : α}
    (hinsert : t.insert? a = some u) {p : α → Bool} {f : α → α}
    (hf : ∀ a, Keyed.key (f a) = Keyed.key a) (hp : p a = true) (hold : ∀ c ∈ t, p c = false) :
    b ∈ u.modify p f hf ↔ b ∈ t ∨ b = f a := by
  rw [Table.mem_modify]
  constructor
  · rintro ⟨c, hc, rfl⟩
    rcases (Table.mem_insert hinsert).1 hc with hc | rfl
    · rw [hold c hc, if_neg Bool.false_ne_true]
      exact .inl hc
    · rw [if_pos hp]
      exact .inr rfl
  · rintro (hb | rfl)
    · refine ⟨b, (Table.mem_insert hinsert).2 (.inl hb), ?_⟩
      rw [hold b hb, if_neg Bool.false_ne_true]
    · exact ⟨a, (Table.mem_insert hinsert).2 (.inr rfl), if_pos hp⟩

/-- The rows were written over those of a table: of the rows under one identifier the last one is
stored, and what is stored under no identifier of theirs is as it was. -/
def WrittenOver {α : Type} [Keyed α] (rows : List α) (t t' : Table α) : Prop :=
  ∀ a, a ∈ t' ↔ LastWritten rows a ∨ a ∈ t ∧ ∀ b ∈ rows, clashes b a = false

/-- The stock after an import that describes the offers. -/
def Stocked (described : List (Offer × ℤ)) (t t' : Table Inventory) : Prop :=
  ∀ i' ∈ t', (∃ i ∈ t, i'.offerId = i.offerId ∧ i'.reservedQuantity = i.reservedQuantity ∧
      (i' = i ∨ ∃ row ∈ described, row.1.offerId = i.offerId ∧
        (i'.availableQuantity = i.availableQuantity ∨ ∃ row ∈ described,
          row.1.offerId = i.offerId ∧ i'.availableQuantity = row.2))) ∨
    (∀ i ∈ t, i.offerId ≠ i'.offerId) ∧ ∃ row ∈ described,
      i' = { offerId := row.1.offerId, availableQuantity := row.2 }

/-- **What a call that imports its files stores.** -/
structure Stores (x : Import) (v : CatalogVersion) (db db' : Database) : Prop where
  version : v.catalogVersionId = x.draws.catalogVersionId ∧ v.merchantId = x.merchantId ∧
    v.importRunId = some x.draws.importRunId ∧ v.status = .draft
  versionNew : ∀ v' ∈ db.catalogVersions, v'.catalogVersionId ≠ x.draws.catalogVersionId
  versions : ∀ v', v' ∈ db'.catalogVersions ↔ v' ∈ db.catalogVersions ∨ v' = v
  runNew : ∀ r ∈ db.importRuns, r.importRunId ≠ x.draws.importRunId ∧
    (r.merchantId = x.merchantId → r.sourceChecksum ≠ x.files.checksum x.env)
  runs : ∀ r, r ∈ db'.importRuns ↔ r ∈ db.importRuns ∨ r = { x.run with status := .completed }
  products : ∃ rows, x.products = some rows ∧ WrittenOver rows db.products db'.products
  offers : ∃ rows, x.offers = some rows ∧
    WrittenOver (rows.map Prod.fst) db.offers db'.offers ∧
    Stocked rows db.inventory db'.inventory

section

variable {engine : Engine} {x : Import} {w w' : World} {v : CatalogVersion} {db db' : Database}

theorem importProducts_ok {counts : ℤ × ℤ} (h : importProducts x db = .ok (counts, db')) :
    (∃ rows, x.products = some rows ∧ WrittenOver rows db.products db'.products) ∧
      ∃ products productImages, db' = { db with products, productImages } := by
  rw [importProducts] at h
  cases hlines : readLines x.env.reading x.files.products with
  | none =>
      rw [hlines] at h
      cases h
  | some lines =>
      rw [hlines] at h
      dsimp only at h
      cases hstage : stageProducts x 0 lines
          { products := { table := db.products }, images := db.productImages } with
      | error e =>
          rw [hstage] at h
          cases h
      | ok s =>
          rw [hstage] at h
          dsimp only at h
          obtain ⟨rows, hrows, hproducts⟩ := stageProducts_ok hstage
          cases hflush : s.products.flush with
          | none =>
              rw [hflush] at h
              cases h
          | some products =>
              rw [hflush] at h
              cases himages : s.images.insertAll s.pendingImages with
              | none =>
                  rw [himages] at h
                  cases h
              | some productImages =>
                  rw [himages] at h
                  obtain ⟨-, rfl⟩ := Prod.mk.inj (Except.ok.inj h)
                  refine ⟨⟨rows, ?_, fun a => ?_⟩, products, productImages, rfl⟩
                  · rw [Import.products, hlines, Option.bind_some, hrows]
                  · rw [hproducts] at hflush
                    exact mem_of_flush hflush

theorem importOffers_ok (h : importOffers x db = .ok ((), db')) :
    (∃ rows, x.offers = some rows ∧ WrittenOver (rows.map Prod.fst) db.offers db'.offers ∧
      Stocked rows db.inventory db'.inventory) ∧
      ∃ offers inventory, db' = { db with offers, inventory } := by
  rw [importOffers] at h
  cases hlines : readLines x.env.reading x.files.offers with
  | none =>
      rw [hlines] at h
      cases h
  | some lines =>
      rw [hlines] at h
      dsimp only at h
      cases hstage : stageOffers x 0 lines
          { offers := { table := db.offers }, inventory := db.inventory } with
      | error e =>
          rw [hstage] at h
          cases h
      | ok s =>
          rw [hstage] at h
          dsimp only at h
          obtain ⟨rows, hrows, hshelf⟩ := stageOffers_ok hstage
          have hstock : StockFrom rows.reduceOption db.inventory s := by
            rw [hshelf]
            exact @stockFrom_shelve _ [] _ _ ⟨fun i hi => ⟨i, hi, rfl, rfl, .inl rfl⟩,
              fun i hi => absurd hi List.not_mem_nil, fun i hi => ⟨i, hi, rfl⟩⟩
          cases hflush : s.offers.flush with
          | none =>
              rw [hflush] at h
              cases h
          | some offers =>
              rw [hflush] at h
              cases hinsert : s.inventory.insertAll s.pendingInventory with
              | none =>
                  rw [hinsert] at h
                  cases h
              | some inventory =>
                  rw [hinsert] at h
                  obtain ⟨-, rfl⟩ := Prod.mk.inj (Except.ok.inj h)
                  refine ⟨⟨_, offers_eq_some.2 ⟨lines, rows, hlines, hrows, rfl⟩, fun a => ?_,
                    fun i' hi' => ?_⟩, offers, inventory, rfl⟩
                  · rw [hshelf, offers_shelve] at hflush
                    exact mem_of_flush hflush
                  · obtain ⟨hmem, -, hnew⟩ := Table.insertAll_eq_some hinsert
                    rcases (hmem i').1 hi' with hi' | hi'
                    · exact .inl (hstock.stored i' hi')
                    · refine .inr ⟨fun i hi hid => ?_, hstock.pending i' hi'⟩
                      obtain ⟨j, hj, hjid⟩ := hstock.kept i hi
                      exact absurd (decide_eq_true (hjid.trans hid))
                        (Bool.eq_false_iff.1 (hnew i' hi' j hj))

/-- **A call that is not skipped and returns** has stored what its files describe. -/
theorem stores_of_importAnew (h : importAnew engine x w = .ok v w') : Stores x v w.db w'.db := by
  obtain ⟨_, w₁, hrun, h₁⟩ := Work.bind_eq_ok.1 h
  obtain ⟨db₁, hmapped, rfl⟩ := insert_eq_ok.1 hrun
  obtain ⟨importRuns, hruns, rfl⟩ := Option.map_eq_some_iff.1 hmapped
  obtain ⟨_, w₂, hversion, h₂⟩ := Work.bind_eq_ok.1 h₁
  obtain ⟨db₂, hmapped', rfl⟩ := insert_eq_ok.1 hversion
  obtain ⟨catalogVersions, hversions, rfl⟩ := Option.map_eq_some_iff.1 hmapped'
  obtain ⟨counts, w₃, hproducts, h₃⟩ := Work.bind_eq_ok.1 h₂
  obtain ⟨db₃, himported, rfl⟩ := rewrite_eq_ok.1 hproducts
  obtain ⟨_, w₄, hflush, h₄⟩ := Work.bind_eq_ok.1 h₃
  obtain ⟨-, rfl⟩ := Work.ask_eq_ok.1 hflush
  obtain ⟨_, w₅, hoffers, h₅⟩ := Work.bind_eq_ok.1 h₄
  obtain ⟨db₄, hshelved, rfl⟩ := rewrite_eq_ok.1 hoffers
  obtain ⟨_, w₆, hflush', h₆⟩ := Work.bind_eq_ok.1 h₅
  obtain ⟨-, rfl⟩ := Work.ask_eq_ok.1 hflush'
  obtain ⟨_, w₇, hcomplete, h₇⟩ := Work.bind_eq_ok.1 h₆
  obtain rfl := update_eq_ok.1 hcomplete
  obtain ⟨rfl, rfl⟩ := Work.pure_eq_ok.1 h₇
  obtain ⟨hwritten, products, images, rfl⟩ := importProducts_ok himported
  obtain ⟨hoffered, offers, inventory, rfl⟩ := importOffers_ok hshelved
  have hclash := (Table.insert?_eq_some.1 hruns).1
  have hversionNew : ∀ v' ∈ w.db.catalogVersions,
      v'.catalogVersionId ≠ x.draws.catalogVersionId := fun v' hv' hid =>
    Bool.false_ne_true (((Table.insert?_eq_some.1 hversions).1 v' hv').symm.trans
      (decide_eq_true hid))
  have hrunNew : ∀ r ∈ w.db.importRuns, r.importRunId ≠ x.draws.importRunId ∧
      (r.merchantId = x.merchantId → r.sourceChecksum ≠ x.files.checksum x.env) := by
    intro r hr
    have hno := hclash r hr
    simp only [clashes, Keyed.clash, Keyed.key, Import.run, Bool.or_eq_false_iff,
      decide_eq_false_iff_not, Prod.mk.injEq, not_and] at hno
    exact ⟨of_decide_eq_false hno.1, hno.2⟩
  refine ⟨⟨rfl, rfl, rfl, rfl⟩, hversionNew, fun v' => ?_, hrunNew, fun r => ?_, hwritten, hoffered⟩
  · exact mem_modify_insert (p := fun v => v.catalogVersionId == x.draws.catalogVersionId)
      (f := fun v => { v with productCount := counts.1 + counts.2, validCount := counts.1,
                              needsReviewCount := counts.2 })
      hversions (fun _ => rfl) (beq_self_eq_true _)
      fun v₀ hv₀ => beq_false_of_ne (hversionNew v₀ hv₀)
  · exact mem_modify_insert (p := fun r => r.importRunId == x.draws.importRunId)
      (f := fun r => { r with status := .completed }) hruns (fun _ => rfl) (beq_self_eq_true _)
      fun r₀ hr₀ => beq_false_of_ne (hrunNew r₀ hr₀).1

end

end Catalog
end AgenticCommerce
