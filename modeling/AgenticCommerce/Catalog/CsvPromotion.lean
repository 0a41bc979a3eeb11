/-
# What an import creates

The products, the offers and the stock of a CSV import, where the store does not refuse them: the
loop over the valid rows keeps `Describe`, a row at a time (`Promotes.step`), and the flush writes
what the loop has collected (`rows_created`).  Only the count of the products is wrong.
-/

import AgenticCommerce.Catalog.CsvImport

namespace AgenticCommerce
namespace Catalog

open Relational

variable {x : Publication} {n : ℕ} {row : CatalogImportRow} {rows : List CatalogImportRow}
  {s s' : Promoted} {db : Database}

/-! ### A row without errors -/

/-- A row without errors passes each check. -/
theorem check_none (h : rowErrors row = []) {field : String} {error : Option String}
    (hcheck : (field, error) ∈ rowChecks row) : error = none := by
  have hnone := List.filterMap_eq_nil_iff.1 h _ hcheck
  simpa using hnone

/-- A number that passes its check is there. -/
theorem exists_of_numberError {field : String} {most value : Option ℤ}
    (h : numberError field most value = none) : ∃ number, value = some number := by
  cases value with
  | none => exact absurd h nofun
  | some number => exact ⟨number, rfl⟩

/-- A text that passes its check is one of the choices. -/
theorem mem_of_choiceError {choices : List String} {message : String} {value : Option String}
    (h : choiceError choices message value = none) : ∃ choice ∈ choices, value = some choice := by
  rw [choiceError] at h
  split_ifs at h with hmem
  obtain ⟨choice, hchoice, rfl⟩ := List.mem_map.1 hmem
  exact ⟨choice, hchoice, rfl⟩

/-- What a row without errors holds. -/
structure Sound (row : CatalogImportRow) (sku title currency status : String) (price stock : ℤ)
    (offerStatus : OfferStatus) : Prop where
  sku_eq : row.sku = some sku
  sku_ne : sku ≠ ""
  title_eq : row.title = some title
  title_ne : title ≠ ""
  price_eq : row.priceMinor = some price
  currency_eq : row.currency = some currency
  currency_ne : currency ≠ ""
  stock_eq : row.inventory = some stock
  status_eq : row.status = some status
  status_ne : status ≠ ""
  status_known : OfferStatus.ofString? status = some offerStatus

/-- **A row without errors** has all the data of a product, an offer and its stock. -/
theorem exists_sound (h : rowErrors row = []) :
    ∃ sku title currency status price stock offerStatus,
      Sound row sku title currency status price stock offerStatus := by
  have hcheck (field : String) (error : Option String) (hmem : (field, error) ∈ rowChecks row) :
      error = none := check_none h hmem
  have hsku := hcheck "sku" _ (by rw [rowChecks]; exact List.mem_cons_self)
  have htitle := hcheck "title" (titleError row) (by simp [rowChecks])
  have hprice := hcheck "price_minor"
    (numberError "price_minor" (some maxPriceMinor) row.priceMinor) (by simp [rowChecks])
  have hcurrency := hcheck "currency"
    (choiceError ["INR", "USD"] "currency must be INR or USD" row.currency) (by simp [rowChecks])
  have hstock := hcheck "inventory" (numberError "inventory" none row.inventory)
    (by simp [rowChecks])
  have hstatus := hcheck "status" (choiceError ["active", "inactive"]
    "status must be 'active' or 'inactive'" row.status) (by simp [rowChecks])
  obtain ⟨sku, hsku, hskuNe⟩ : ∃ sku, row.sku = some sku ∧ sku ≠ "" := by
    cases hrow : row.sku with
    | none =>
        rw [hrow] at hsku
        exact absurd hsku nofun
    | some sku =>
        refine ⟨sku, rfl, fun hempty => ?_⟩
        rw [hrow, hempty] at hsku
        exact absurd hsku nofun
  obtain ⟨title, htitle, htitleNe⟩ : ∃ title, row.title = some title ∧ title ≠ "" := by
    cases hrow : row.title with
    | none =>
        rw [titleError, hrow] at htitle
        exact absurd htitle nofun
    | some title =>
        refine ⟨title, rfl, fun hempty => ?_⟩
        rw [titleError, hrow, hempty] at htitle
        exact absurd htitle nofun
  obtain ⟨price, hprice⟩ := exists_of_numberError hprice
  obtain ⟨stock, hstock⟩ := exists_of_numberError hstock
  obtain ⟨currency, hcurrencyMem, hcurrency⟩ := mem_of_choiceError hcurrency
  obtain ⟨status, hstatusMem, hstatus⟩ := mem_of_choiceError hstatus
  have hcurrencyNe : currency ≠ "" := fun hempty => by
    rw [hempty] at hcurrencyMem
    exact absurd hcurrencyMem (by decide)
  have hknown : status ≠ "" ∧ ∃ offerStatus, OfferStatus.ofString? status = some offerStatus := by
    rcases List.mem_cons.1 hstatusMem with rfl | hrest
    · exact ⟨by decide, .active, rfl⟩
    · obtain rfl := List.mem_singleton.1 hrest
      exact ⟨by decide, .inactive, rfl⟩
  obtain ⟨hstatusNe, offerStatus, hofferStatus⟩ := hknown
  exact ⟨sku, title, currency, status, price, stock, offerStatus, hsku, hskuNe, htitle, htitleNe,
    hprice, hcurrency, hcurrencyNe, hstock, hstatus, hstatusNe, hofferStatus⟩

theorem orText_some {text other : String} (h : text ≠ "") : orText (some text) other = text := by
  simp [orText, Option.filter, h]

/-! ### One row -/

/-- What the rows promoted so far come to describes them; the identifiers are those that were
drawn, each once. -/
structure Promotes (x : Publication) (n : ℕ) (rows : List CatalogImportRow) (s : Promoted) :
    Prop where
  describes : Describe rows s.products s.offers s.inventory
  seen : s.seen = s.products.map fun p => (p.externalProductId, p.productId)
  products_drawn : ∀ p ∈ s.products, ∃ k < n, p.productId = x.draws.productId k
  images_drawn : ∀ i ∈ s.images, ∃ k < n,
    i.productImageId = x.draws.imageId k 0 ∧ i.productId = x.draws.productId k
  offers_drawn : ∀ o ∈ s.offers, ∃ k < n, o.offerId = x.draws.offerId k
  products_apart : s.products.Pairwise fun p q => clashes p q = false
  images_apart : s.images.Pairwise fun i j => clashes i j = false
  offers_apart : s.offers.Pairwise fun o p => clashes o p = false

/-- The identifiers are drawn anew: no two are the same, and none is stored. -/
structure Fresh (x : Publication) (db : Database) : Prop where
  productId : Function.Injective x.draws.productId
  imageId : Function.Injective fun k => x.draws.imageId k 0
  offerId : Function.Injective x.draws.offerId
  products : ∀ p ∈ db.products, ∀ k, p.productId ≠ x.draws.productId k
  images : ∀ i ∈ db.productImages, ∀ k, i.productImageId ≠ x.draws.imageId k 0 ∧
    i.productId ≠ x.draws.productId k
  offers : ∀ o ∈ db.offers, ∀ k, o.offerId ≠ x.draws.offerId k
  inventory : ∀ i ∈ db.inventory, ∀ k, i.offerId ≠ x.draws.offerId k
  versions : ∀ v ∈ db.catalogVersions, v.catalogVersionId ≠ x.draws.catalogVersionId

/-- Drawn later than all of a list. -/
theorem pairwise_concat {α : Type} {r : α → α → Prop} {l : List α} {a : α} (hl : l.Pairwise r)
    (ha : ∀ b ∈ l, r b a) : (l ++ [a]).Pairwise r :=
  List.pairwise_append.2 ⟨hl, List.pairwise_singleton _ _, fun b hb c hc => by
    rw [List.mem_singleton.1 hc]
    exact ha b hb⟩

/-- The offer that a row is promoted to. -/
theorem exists_offer {sku title currency status : String} {price stock : ℤ}
    {offerStatus : OfferStatus} (h : Sound row sku title currency status price stock offerStatus)
    (productId : String) :
    ∃ offer, x.offerOf n productId row = some offer ∧ OfferedBy offer row ∧
      offer.offerId = x.draws.offerId n ∧ offer.productId = productId := by
  rw [Publication.offerOf, h.status_eq, orText_some h.status_ne, h.status_known]
  refine ⟨_, rfl, ⟨?_, ?_, ?_⟩, rfl, rfl⟩
  · rw [h.price_eq]
    rfl
  · rw [h.currency_eq, orText_some h.currency_ne]
  · rw [h.status_eq]
    exact h.status_known

/-- The stock is that of the offers. -/
theorem Describe.stock_ids {products : List Product} {offers : List Offer} {stock : List Inventory}
    (h : Describe rows products offers stock) :
    stock.map Inventory.offerId = offers.map Offer.offerId := by
  have hstocked := h.stocked
  clear h
  induction hstocked with
  | nil => rfl
  | cons hfirst _ ih => rw [List.map_cons, List.map_cons, hfirst.1, ih]

/-- The offers and the stock with those of one more row. -/
theorem Describe.concat {products : List Product} {offers : List Offer} {stock : List Inventory}
    {p : Product} {o : Offer} {i : Inventory} {more : List Product}
    (h : Describe rows products offers stock)
    (hmore : more = products ∨ more = products ++ [p] ∧ DescribedBy p row ∧
      ∀ q ∈ products, q.externalProductId ≠ p.externalProductId)
    (hp : p ∈ more) (hsku : row.sku = some p.externalProductId)
    (hproduct : p.productId = o.productId)
    (ho : OfferedBy o row) (hi : i.offerId = o.offerId ∧ i.reservedQuantity = 0)
    (hquantity : some i.availableQuantity = row.inventory) :
    Describe (rows ++ [row]) more (offers ++ [o]) (stock ++ [i]) := by
  have hsub : ∀ q ∈ products, q ∈ more := fun q hq => by
    rcases hmore with rfl | ⟨rfl, -, -⟩
    · exact hq
    · exact List.mem_append_left _ hq
  refine ⟨?_, ?_, ?_, List.rel_append h.offered (.cons ho .nil), ?_,
    List.rel_append h.stocked (.cons hi .nil), ?_⟩
  · rcases hmore with rfl | ⟨rfl, -, hnew⟩
    · exact h.distinct
    · rw [List.map_append, List.map_singleton]
      refine pairwise_concat h.distinct fun sku hmem => ?_
      obtain ⟨q, hq, rfl⟩ := List.mem_map.1 hmem
      exact hnew q hq
  · intro r hr
    rcases List.mem_append.1 hr with hr | hr
    · obtain ⟨q, hq, hqr⟩ := h.skus r hr
      exact ⟨q, hsub q hq, hqr⟩
    · rw [List.mem_singleton.1 hr]
      exact ⟨p, hp, hsku⟩
  · intro q hq
    have hold : q ∈ products → ∃ r,
        (rows ++ [row]).find? (fun r => r.sku == some q.externalProductId) = some r ∧
          DescribedBy q r := fun hq => by
      obtain ⟨r, hfind, hdescribed⟩ := h.described q hq
      exact ⟨r, by rw [List.find?_append, hfind, Option.some_or], hdescribed⟩
    rcases hmore with rfl | ⟨rfl, hdescribed, hnew⟩
    · exact hold hq
    · rcases List.mem_append.1 hq with hq | hq
      · exact hold hq
      · obtain rfl := List.mem_singleton.1 hq
        have hnone : rows.find? (fun r => r.sku == some q.externalProductId) = none := by
          refine List.find?_eq_none.2 fun r hr hmatch => ?_
          obtain ⟨q', hq', hskus⟩ := h.skus r hr
          rw [beq_iff_eq, hskus, Option.some.injEq] at hmatch
          exact hnew q' hq' hmatch
        refine ⟨row, ?_, hdescribed⟩
        rw [List.find?_append, hnone, Option.none_or, List.find?_cons_of_pos]
        rw [beq_iff_eq, hsku]
  · intro entry hentry
    rw [List.zip_append h.offered.length_eq] at hentry
    rcases List.mem_append.1 hentry with hold | hnew
    · obtain ⟨q, hq, hqe⟩ := h.product_of entry hold
      exact ⟨q, hsub q hq, hqe⟩
    · obtain rfl := List.mem_singleton.1 hnew
      exact ⟨p, hp, hproduct, hsku⟩
  · rw [List.map_append, List.map_append, h.quantities, List.map_singleton, List.map_singleton,
      hquantity]

/-- What was drawn before a position was drawn before the next. -/
theorem drawn_succ {α : Type} {l : List α} {P : α → ℕ → Prop} (h : ∀ a ∈ l, ∃ k < n, P a k) :
    ∀ a ∈ l, ∃ k < n + 1, P a k := fun a ha => by
  obtain ⟨k, hk, hP⟩ := h a ha
  exact ⟨k, by omega, hP⟩

/-- What is drawn at a position, after what was drawn before it. -/
theorem drawn_concat {α : Type} {l : List α} {a : α} {P : α → ℕ → Prop}
    (h : ∀ b ∈ l, ∃ k < n, P b k) (ha : P a n) : ∀ b ∈ l ++ [a], ∃ k < n + 1, P b k := by
  intro b hb
  rcases List.mem_append.1 hb with hb | hb
  · exact drawn_succ h b hb
  · rw [List.mem_singleton.1 hb]
    exact ⟨n, by omega, ha⟩

/-- **One more valid row** is promoted, and what was promoted describes the rows with it. -/
theorem Promotes.step (hfresh : Fresh x db) (h : Promotes x n rows s) (hrow : rowErrors row = []) :
    ∃ s', promoteRow x n row s = some s' ∧ Promotes x (n + 1) (rows ++ [row]) s' := by
  obtain ⟨sku, title, currency, status, price, stock, offerStatus, hsound⟩ := exists_sound hrow
  have hsku : orText row.sku ("sku_" ++ toString row.rowNumber) = sku := by
    rw [hsound.sku_eq, orText_some hsound.sku_ne]
  have htitle (other : String) : orText row.title other = title := by
    rw [hsound.title_eq, orText_some hsound.title_ne]
  have hquantity (o : Offer) : some (Inventory.availableQuantity
      { offerId := o.offerId, availableQuantity := row.inventory.getD 0 }) = row.inventory := by
    rw [hsound.stock_eq]
    rfl
  have hofferNew {o : Offer} (ho : o.offerId = x.draws.offerId n) :
      ∀ p ∈ s.offers, clashes p o = false := fun p hp => by
    obtain ⟨k, hk, hpk⟩ := h.offers_drawn p hp
    refine decide_eq_false fun heq => ?_
    have hkn := hfresh.offerId (hpk.symm.trans (heq.trans ho))
    omega
  cases hseen : s.seen.find? (fun entry => entry.1 == sku) with
  | some entry =>
      have hmatch : entry.1 = sku := by simpa using List.find?_some hseen
      have hmem := List.mem_of_find?_eq_some hseen
      rw [h.seen] at hmem
      obtain ⟨p, hp, rfl⟩ := List.mem_map.1 hmem
      obtain ⟨offer, hoffer, hofferedBy, hofferId, hproductId⟩ :=
        exists_offer hsound p.productId
      have hskuOf : row.sku = some p.externalProductId :=
        hsound.sku_eq.trans (congrArg some hmatch.symm)
      have hpromoted : promoteRow x n row s = some { s with
          offers := s.offers ++ [offer]
          inventory := s.inventory ++
            [{ offerId := offer.offerId, availableQuantity := row.inventory.getD 0 }]
          assigned := s.assigned ++ [(row.rowId, offer.offerId)] } := by
        rw [promoteRow, hsku, hseen]
        exact congrArg (Option.map _) hoffer
      refine ⟨_, hpromoted, ?_⟩
      exact
        { describes := h.describes.concat (.inl rfl) hp hskuOf hproductId.symm hofferedBy
            ⟨rfl, rfl⟩ (hquantity offer)
          seen := h.seen
          products_drawn := drawn_succ h.products_drawn
          images_drawn := drawn_succ h.images_drawn
          offers_drawn := drawn_concat h.offers_drawn hofferId
          products_apart := h.products_apart
          images_apart := h.images_apart
          offers_apart := pairwise_concat h.offers_apart (hofferNew hofferId) }
  | none =>
      obtain ⟨offer, hoffer, hofferedBy, hofferId, hproductId⟩ :=
        exists_offer hsound (x.draws.productId n)
      have hpromoted : promoteRow x n row s = some
          { seen := s.seen ++ [(sku, x.draws.productId n)]
            products := s.products ++ [x.productOf n sku row]
            images := s.images ++ x.imageOf n row
            offers := s.offers ++ [offer]
            inventory := s.inventory ++
              [{ offerId := offer.offerId, availableQuantity := row.inventory.getD 0 }]
            assigned := s.assigned ++ [(row.rowId, offer.offerId)] } := by
        rw [promoteRow, hsku, hseen]
        exact congrArg (Option.map _) hoffer
      refine ⟨_, hpromoted, ?_⟩
      have hdescribed : DescribedBy (x.productOf n sku row) row :=
        ⟨hsound.sku_eq, by rw [hsound.title_eq]; exact congrArg some (htitle sku).symm, rfl, rfl⟩
      have hnew : ∀ q ∈ s.products, q.externalProductId ≠ sku := fun q hq heq => by
        have hnot := List.find?_eq_none.1 hseen (q.externalProductId, q.productId) (by
          rw [h.seen]
          exact List.mem_map_of_mem hq)
        exact hnot (beq_iff_eq.2 heq)
      have himages : x.imageOf n row = [] ∨ ∃ i, x.imageOf n row = [i] ∧
          i.productImageId = x.draws.imageId n 0 ∧ i.productId = x.draws.productId n := by
        rw [Publication.imageOf]
        cases row.imageUrl.filter fun u => u != "" with
        | none => exact .inl rfl
        | some url => exact .inr ⟨_, rfl, rfl, rfl⟩
      exact
        { describes := h.describes.concat
            (.inr ⟨rfl, hdescribed, hnew⟩) (List.mem_append_right _ List.mem_cons_self)
            hsound.sku_eq hproductId.symm hofferedBy ⟨rfl, rfl⟩ (hquantity offer)
          seen := by
            rw [List.map_append, ← h.seen]
            rfl
          products_drawn := drawn_concat h.products_drawn rfl
          images_drawn := by
            rcases himages with hnone | ⟨i, hi, hid, hproduct⟩
            · rw [hnone, List.append_nil]
              exact drawn_succ h.images_drawn
            · rw [hi]
              exact drawn_concat h.images_drawn ⟨hid, hproduct⟩
          offers_drawn := drawn_concat h.offers_drawn hofferId
          products_apart := pairwise_concat h.products_apart fun q hq => by
            obtain ⟨k, hk, hqk⟩ := h.products_drawn q hq
            refine decide_eq_false fun heq => ?_
            have hkn := hfresh.productId (hqk.symm.trans heq)
            omega
          images_apart := by
            rcases himages with hnone | ⟨i, hi, hid, hproduct⟩
            · rw [hnone, List.append_nil]
              exact h.images_apart
            · rw [hi]
              refine pairwise_concat h.images_apart fun j hj => ?_
              obtain ⟨k, hk, hjk, hjp⟩ := h.images_drawn j hj
              have hidNe : j.productImageId ≠ i.productImageId := fun heq => by
                have hkn := hfresh.imageId (hjk.symm.trans (heq.trans hid))
                omega
              have hproductNe : j.productId ≠ i.productId := fun heq => by
                have hkn := hfresh.productId (hjp.symm.trans (heq.trans hproduct))
                omega
              exact Bool.or_eq_false_iff.2 ⟨decide_eq_false hidNe,
                decide_eq_false fun heq => hproductNe (Prod.mk.inj heq).1⟩
          offers_apart := pairwise_concat h.offers_apart (hofferNew hofferId) }

/-! ### All rows -/

theorem Promotes.nil : Promotes x 0 [] {} where
  describes :=
    { distinct := List.nodup_nil
      skus := fun _ hrow => absurd hrow List.not_mem_nil
      described := fun _ hp => absurd hp List.not_mem_nil
      offered := .nil
      product_of := fun _ hentry => absurd hentry List.not_mem_nil
      stocked := .nil
      quantities := rfl }
  seen := rfl
  products_drawn := fun _ hp => absurd hp List.not_mem_nil
  images_drawn := fun _ hi => absurd hi List.not_mem_nil
  offers_drawn := fun _ ho => absurd ho List.not_mem_nil
  products_apart := .nil
  images_apart := .nil
  offers_apart := .nil

/-- **Valid rows** are all promoted, and what they are promoted to describes them. -/
theorem Promotes.run (hfresh : Fresh x db) {more : List CatalogImportRow}
    (hmore : ∀ row ∈ more, rowErrors row = []) (h : Promotes x n rows s) :
    ∃ s', promoteRows x n more s = some s' ∧ Promotes x (n + more.length) (rows ++ more) s' := by
  induction more generalizing n rows s with
  | nil => exact ⟨s, rfl, by rwa [List.append_nil]⟩
  | cons row more ih =>
      obtain ⟨hrow, hrest⟩ := List.forall_mem_cons.1 hmore
      obtain ⟨s₁, hstep, h₁⟩ := h.step hfresh hrow
      obtain ⟨s', hrun, h'⟩ := ih hrest h₁
      refine ⟨s', by rw [promoteRows, hstep, Option.bind_some, hrun], ?_⟩
      rw [List.length_cons, Nat.add_comm more.length, ← Nat.add_assoc, ← List.singleton_append,
        ← List.append_assoc]
      exact h'

/-- The marks of the validation do not matter to the promotion. -/
theorem promoteRows_markRow (rows : List CatalogImportRow) :
    promoteRows x n (rows.map markRow) s = promoteRows x n rows s := by
  induction rows generalizing n s with
  | nil => rfl
  | cons row rows ih =>
      rw [List.map_cons, promoteRows, promoteRows]
      exact congrArg (Option.bind (promoteRow x n row s)) (funext fun s => ih)

/-- **What is right about an import**: under fresh identifiers, a store that knows the keys only
gets the products, the offers and the stock that the valid rows describe, and the offers are
counted; so the products would be, if the answer counted them. -/
theorem rows_created {engine : Engine} (hengine : engine.constrained = false) {w : World}
    (himport : ∃ i ∈ w.db.catalogImports, i.importId = x.importId ∧ i.merchantId = x.merchantId)
    (hfresh : Fresh x w.db) :
    ∃ answer w' products offers stock, importCsv engine x w = .ok answer w' ∧
      Creates (validOf x.importId w.db) w.db w'.db (answer.1, (products.length : ℤ), answer.2.2)
        products offers stock := by
  obtain ⟨counts, hvalidated⟩ := validateImport_ok himport
  obtain ⟨imp, himp⟩ := exists_validated himport
  obtain ⟨versions, hversions⟩ := exists_insert_version hfresh.versions
  have hvalid : ∀ row ∈ validOf x.importId w.db, rowErrors row = [] := fun row hrow => by
    have hselected := (List.mem_filter.1 (mem_ranked.1 hrow)).2
    rw [Bool.and_eq_true] at hselected
    exact of_decide_eq_true hselected.2
  obtain ⟨s, hpromoted, h⟩ := Promotes.nil.run hfresh hvalid
  rw [List.nil_append] at h
  have hrows : promoteRows x 0 (validRows x.importId
      (validated x.merchantId x.importId w.db)) {} = some s := by
    rw [validRows_validated, promoteRows_markRow, hpromoted]
  have hids := h.describes.stock_ids
  have hstocked {i : Inventory} (hi : i ∈ s.inventory) : ∃ o ∈ s.offers, o.offerId = i.offerId := by
    rw [← List.mem_map, ← hids]
    exact List.mem_map_of_mem hi
  have hinventoryApart : s.inventory.Pairwise fun i j => clashes i j = false := by
    have hpairwise : (s.inventory.map Inventory.offerId).Pairwise
        fun a b => decide (a = b) = false := by
      rw [hids, List.pairwise_map]
      exact h.offers_apart
    exact List.pairwise_map.1 hpairwise
  obtain ⟨products, hproducts, hproductRows⟩ := Table.insertAll_of_fresh (t := w.db.products)
    (fun p hp q hq => by
      obtain ⟨k, -, hpk⟩ := h.products_drawn p hp
      exact decide_eq_false fun heq => hfresh.products q hq k (heq.trans hpk)) h.products_apart
  obtain ⟨images, himages, -⟩ := Table.insertAll_of_fresh (t := w.db.productImages)
    (fun i hi j hj => by
      obtain ⟨k, -, hid, hproduct⟩ := h.images_drawn i hi
      obtain ⟨hidNe, hproductNe⟩ := hfresh.images j hj k
      exact Bool.or_eq_false_iff.2 ⟨decide_eq_false fun heq => hidNe (heq.trans hid),
        decide_eq_false fun heq => hproductNe ((Prod.mk.inj heq).1.trans hproduct)⟩) h.images_apart
  obtain ⟨offers, hoffers, hofferRows⟩ := Table.insertAll_of_fresh (t := w.db.offers)
    (fun o ho p hp => by
      obtain ⟨k, -, hok⟩ := h.offers_drawn o ho
      exact decide_eq_false fun heq => hfresh.offers p hp k (heq.trans hok)) h.offers_apart
  obtain ⟨inventory, hinventory, hstockRows⟩ := Table.insertAll_of_fresh (t := w.db.inventory)
    (l := s.inventory) (fun i hi j hj => by
      obtain ⟨o, ho, hio⟩ := hstocked hi
      obtain ⟨k, -, hok⟩ := h.offers_drawn o ho
      exact decide_eq_false fun heq => hfresh.inventory j hj k (heq.trans (hio.symm.trans hok)))
    hinventoryApart
  obtain ⟨db', hflush, rfl, rfl, rfl⟩ := flushPromoted_of
    { validated x.merchantId x.importId w.db with catalogVersions := versions }
    (fun hrefused => absurd hrefused.1 (by rw [hengine]; exact Bool.false_ne_true))
    hproducts himages hoffers hinventory
  refine ⟨_, _, s.products, s.offers, s.inventory, Work.bind_eq_ok.2 ⟨_, _, hvalidated,
    publishImport_eq_ok.2 ⟨imp, versions, s, db', himp, status_validated himp, hversions, hrows,
      hflush, rfl, rfl⟩⟩, ?_⟩
  exact
    { h.describes with
      products_new := hproductRows
      offers_new := hofferRows
      stock_new := hstockRows
      productsCounted := rfl
      offersCounted := rfl }

end Catalog
end AgenticCommerce
