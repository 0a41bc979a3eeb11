/-
# Paging through the web catalog

The pages of `searchCatalog` at the offsets `0`, `limit`, `2 * limit`, … are the offers that
match, each once, when the page query has one row for each of them and no page ends among
rows that tie (`pagesPartition_iff`).  Neither is assured: a product with two images of
position zero doubles the rows of its offers, which the count does not see, and the keys of
`ORDER BY` do not end in an identifier, as those of the offers service do.
-/

import AgenticCommerce.Web.Catalog

namespace AgenticCommerce

open Relational

namespace Web

/-- What the pages list: the identifiers of their offers, page by page. -/
def listed (engine : Engine) (db : Catalog) (options : DbSearchOptions) (orders : ℕ → List Row)
    (n : ℕ) : List String :=
  (List.range n).flatMap fun k : ℕ =>
    (searchCatalog engine db { options with offset := k * options.limit } (orders k)).1.map
      fun row => row.offer.offerId

/-- **Paging is a partition**: whatever order each query gives the rows that tie, enough
pages list every offer that matches exactly once, as many as the total says. -/
def PagesPartition (engine : Engine) (db : Catalog) (options : DbSearchOptions) : Prop :=
  ∀ orders : ℕ → List Row, (∀ k, Arranges Row.key (rows engine db options) (orders k)) →
    ∃ N, ∀ n ≥ N,
      (listed engine db options orders n).Perm
        ((matching engine db options).map fun row => row.2.offerId) ∧
      (listed engine db options orders n).length = total engine db options

variable {engine : Engine} {db : Catalog} {options : DbSearchOptions}

/-! ### The rows of an offer -/

theorem one_le_length_rowsOf (row : Product × Offer) : 1 ≤ (db.rowsOf row).length := by
  rw [Catalog.rowsOf, List.length_map]
  cases db.frontImages row.1.productId with
  | nil => exact le_rfl
  | cons _ _ => exact Nat.le_add_left _ _

theorem length_rowsOf_eq_one {row : Product × Offer} :
    (db.rowsOf row).length = 1 ↔ (db.frontImages row.1.productId).length ≤ 1 := by
  rw [Catalog.rowsOf, List.length_map]
  cases db.frontImages row.1.productId with
  | nil => exact iff_of_true rfl (Nat.zero_le _)
  | cons image rest =>
      have hlength : (orNull (image :: rest)).length = rest.length + 1 := List.length_map _
      rw [hlength, List.length_cons]
      omega

theorem of_mem_rowsOf {row : Product × Offer} {r : Row} (h : r ∈ db.rowsOf row) :
    r.product = row.1 ∧ r.offer = row.2 := by
  obtain ⟨_, -, rfl⟩ := List.mem_map.1 h
  exact ⟨rfl, rfl⟩

/-- Where every part has a row, the parts have one each when there are as many rows. -/
theorem length_eq_one_of_flatMap {α β : Type} {g : α → List β} {l : List α}
    (hone : ∀ a ∈ l, 1 ≤ (g a).length) (h : (l.flatMap g).length = l.length) :
    ∀ a ∈ l, (g a).length = 1 := by
  have hle : ∀ m : List α, (∀ a ∈ m, 1 ≤ (g a).length) → m.length ≤ (m.flatMap g).length := by
    intro m
    induction m with
    | nil => exact fun _ => le_rfl
    | cons a t ih =>
        intro hm
        have ha := hm a List.mem_cons_self
        have ht := ih fun b hb => hm b (List.mem_cons_of_mem _ hb)
        rw [List.flatMap_cons, List.length_append, List.length_cons]
        omega
  induction l with
  | nil => exact fun _ ha => absurd ha List.not_mem_nil
  | cons a t ih =>
      have ha := hone a List.mem_cons_self
      have ht := hle t fun b hb => hone b (List.mem_cons_of_mem _ hb)
      rw [List.flatMap_cons, List.length_append, List.length_cons] at h
      intro b hb
      rcases List.mem_cons.1 hb with rfl | hb
      · omega
      · exact ih (fun b hb => hone b (List.mem_cons_of_mem _ hb)) (by omega) b hb

/-- With one row for each offer the rows tie, and are counted, as the offers do. -/
theorem countP_rows (hone : ∀ row ∈ matching engine db options, (db.rowsOf row).length = 1)
    (p : Product → Offer → Bool) : (rows engine db options).countP (fun r => p r.product r.offer) =
      (matching engine db options).countP fun row => p row.1 row.2 := by
  rw [rows]
  generalize matching engine db options = l at hone
  induction l with
  | nil => rfl
  | cons row t ih =>
      obtain ⟨r, hr⟩ := List.length_eq_one_iff.1 (hone row List.mem_cons_self)
      obtain ⟨hproduct, hoffer⟩ := of_mem_rowsOf (hr ▸ List.mem_singleton_self r :
        r ∈ db.rowsOf row)
      have hrest := ih fun row' hrow' => hone row' (List.mem_cons_of_mem _ hrow')
      rw [List.flatMap_cons, List.countP_append, hr, hrest, List.countP_cons, List.countP_nil,
        List.countP_cons, hproduct, hoffer]
      omega

theorem rows_map_offerId (hone : ∀ row ∈ matching engine db options, (db.rowsOf row).length = 1) :
    (rows engine db options).map (fun r => r.offer.offerId) =
      (matching engine db options).map fun row => row.2.offerId := by
  rw [rows]
  generalize matching engine db options = l at hone
  induction l with
  | nil => rfl
  | cons row t ih =>
      obtain ⟨r, hr⟩ := List.length_eq_one_iff.1 (hone row List.mem_cons_self)
      obtain ⟨-, hoffer⟩ := of_mem_rowsOf (hr ▸ List.mem_singleton_self r : r ∈ db.rowsOf row)
      rw [List.flatMap_cons, List.map_append, hr, List.map_cons, List.map_nil, List.map_cons,
        List.singleton_append, hoffer]
      exact congrArg _ (ih fun row' hrow' => hone row' (List.mem_cons_of_mem _ hrow'))

/-- No offer matches twice. -/
theorem matching_nodup : ((matching engine db options).map fun row => row.2.offerId).Nodup := by
  have hkeys : (db.offers.rows.map Offer.offerId).Nodup := by
    refine List.pairwise_map.2 (db.offers.unique.imp fun hclash hsame => ?_)
    simp [clashes, Keyed.clash, Keyed.key, hsame] at hclash
  have hjoined : (db.joined.map fun row => row.2.offerId).Sublist
      (db.offers.rows.map Offer.offerId) := by
    rw [Catalog.joined]
    induction db.offers.rows with
    | nil => exact .slnil
    | cons o t ih =>
        cases hfound : db.products.first fun p => p.productId == o.productId with
        | none =>
            rw [List.filterMap_cons_none (by rw [hfound]; rfl)]
            exact ih.cons _
        | some p =>
            rw [@List.filterMap_cons_some _ _ _ _ _ (p, o) (by rw [hfound]; rfl)]
            exact ih.cons_cons _
  exact hkeys.sublist ((List.filter_sublist.map _).trans hjoined)

theorem rows_eq_nil : rows engine db options = [] ↔ matching engine db options = [] := by
  constructor
  · intro hnil
    by_contra hsome
    obtain ⟨row, t, hcons⟩ := List.exists_cons_of_ne_nil hsome
    rw [rows, hcons, List.flatMap_cons, List.append_eq_nil_iff] at hnil
    have hrow : 1 ≤ (db.rowsOf row).length := one_le_length_rowsOf row
    rw [hnil.1] at hrow
    exact absurd hrow (by decide)
  · intro hnil
    rw [rows, hnil, List.flatMap_nil]

/-- With one row for each offer the rows tie where the offers do. -/
theorem straddles_rows (hone : ∀ row ∈ matching engine db options, (db.rowsOf row).length = 1)
    {place : ℕ} : Straddles Row.key (rows engine db options) place ↔
      Straddles (fun row => orderKey row.1 row.2) (matching engine db options) place := by
  have hlt := fun x : OrderKey => countP_rows hone fun p o => decide (orderKey p o < x)
  have hle := fun x : OrderKey => countP_rows hone fun p o => decide (orderKey p o ≤ x)
  constructor
  · rintro ⟨r, hr, hbelow, hupTo⟩
    obtain ⟨row, hrow, hmem⟩ := List.mem_flatMap.1 hr
    obtain ⟨hproduct, hoffer⟩ := of_mem_rowsOf hmem
    have hkey : r.key = orderKey row.1 row.2 := by rw [Row.key, hproduct, hoffer]
    rw [hkey] at hbelow hupTo
    exact ⟨row, hrow, (hlt _).symm.trans_lt hbelow, hupTo.trans_eq (hle _)⟩
  · rintro ⟨row, hrow, hbelow, hupTo⟩
    obtain ⟨r, hr⟩ := List.length_eq_one_iff.1 (hone row hrow)
    have hmem : r ∈ db.rowsOf row := hr ▸ List.mem_singleton_self r
    obtain ⟨hproduct, hoffer⟩ := of_mem_rowsOf hmem
    have hkey : r.key = orderKey row.1 row.2 := by rw [Row.key, hproduct, hoffer]
    refine ⟨r, List.mem_flatMap.2 ⟨row, hrow, hmem⟩, ?_⟩
    rw [hkey]
    exact ⟨(hlt _).trans_lt hbelow, hupTo.trans_eq (hle _).symm⟩

/-- Paging in terms of the rows of the page query. -/
theorem pagesPartition_rows (engine : Engine) (db : Catalog) (options : DbSearchOptions) :
    PagesPartition engine db options ↔
      ((rows engine db options).map fun row => row.offer.offerId).Perm
        ((matching engine db options).map fun row => row.2.offerId) ∧
      (rows engine db options = [] ∨ (0 < options.limit ∧
        ∀ k : ℕ, ¬Straddles Row.key (rows engine db options) (k * options.limit.toNat))) := by
  have hlisted : ∀ orders n, listed engine db options orders n =
      (pages options.limit orders n).map fun row => row.offer.offerId := by
    intro orders n
    rw [listed, pages, List.map_flatMap]
    rfl
  have hpartition : PagesPartition engine db options ↔
      ∀ orders : ℕ → List Row, (∀ k, Arranges Row.key (rows engine db options) (orders k)) →
        ∃ N, ∀ n ≥ N, ((pages options.limit orders n).map fun row => row.offer.offerId).Perm
          ((matching engine db options).map fun row => row.2.offerId) := by
    refine forall₂_congr fun orders _ => exists_congr fun N => forall₂_congr fun n _ => ?_
    rw [hlisted]
    refine ⟨fun h => h.1, fun h => ⟨h, ?_⟩⟩
    rw [h.length_eq, List.length_map, total]
  rw [hpartition, pages_iff matching_nodup fun hnil => rows_eq_nil.2 (List.map_eq_nil_iff.1 hnil)]

/-- **When paging is a partition**: nothing matches, or the page size is positive, no product
that matches has two images of position zero, and no page ends among offers that tie. -/
theorem pagesPartition_iff (engine : Engine) (db : Catalog) (options : DbSearchOptions) :
    PagesPartition engine db options ↔
      matching engine db options = [] ∨
        0 < options.limit ∧
        (∀ row ∈ matching engine db options, (db.frontImages row.1.productId).length ≤ 1) ∧
        ∀ k : ℕ, ¬Straddles (fun row => orderKey row.1 row.2) (matching engine db options)
          (k * options.limit.toNat) := by
  rw [pagesPartition_rows]
  constructor
  · rintro ⟨hall, hnil | ⟨hsize, hcut⟩⟩
    · exact .inl (rows_eq_nil.1 hnil)
    · have hlength : (rows engine db options).length = (matching engine db options).length := by
        have := hall.length_eq
        rwa [List.length_map, List.length_map] at this
      have hone := length_eq_one_of_flatMap (fun row _ => one_le_length_rowsOf row) hlength
      refine .inr ⟨hsize, fun row hrow => length_rowsOf_eq_one.1 (hone row hrow), fun k => ?_⟩
      rw [← straddles_rows hone]
      exact hcut k
  · rintro (hnil | ⟨hsize, himages, hcut⟩)
    · have hnone := rows_eq_nil.2 hnil
      refine ⟨?_, .inl hnone⟩
      rw [hnone, hnil, List.map_nil, List.map_nil]
    · have hone : ∀ row ∈ matching engine db options, (db.rowsOf row).length = 1 :=
        fun row hrow => length_rowsOf_eq_one.2 (himages row hrow)
      refine ⟨by rw [rows_map_offerId hone], .inr ⟨hsize, fun k => ?_⟩⟩
      rw [straddles_rows hone]
      exact hcut k

/-- An engine for texts in ASCII. -/
def asciiEngine : Engine :=
  { lower := fun text => String.ofList (text.toList.map Char.toLower)
    render := fun _ => "16"
    specifiedAtLeast := fun _ _ _ => false }

/-- An offer of a phone case. -/
def caseOffer (offerId productId : String) : Offer where
  offerId := offerId
  productId := productId
  merchantId := "mer"
  unitPriceMinor := 49900
  expiresAt := 0

/-- Two cases at one price, of which neither has been rated. -/
def twoCases : Catalog where
  products := ⟨[{ productId := "prd_a", categoryId := "phone_accessory" },
    { productId := "prd_b", categoryId := "phone_accessory" }], by decide⟩
  offers := ⟨[caseOffer "ofr_a" "prd_a", caseOffer "ofr_b" "prd_b"], by decide⟩

/-- **Two pages may show one of two offers that tie twice**, and the other one never. -/
theorem tied_offers_on_both_pages :
    ¬∀ db options, 0 < options.limit → PagesPartition asciiEngine db options := by
  intro hclaim
  let tied : List Row := rows asciiEngine twoCases { limit := 1 }
  have hseed : ∀ r ∈ tied, like "prd_seed_%".toList r.product.productId.toList = false := by
    decide +kernel
  have hsame : ∀ r ∈ tied, r.product.categoryId = "phone_accessory" ∧
      r.product.ratingNumber = 0 ∧ r.product.averageRating = 0 ∧
        r.offer.unitPriceMinor = 49900 := by decide
  obtain ⟨first, hfirst⟩ : ∃ r, r ∈ tied := ⟨_, List.mem_cons_self⟩
  have htied : ∀ r ∈ tied, r.key = first.key := by
    intro r hr
    obtain ⟨hcategory, hnumber, haverage, hprice⟩ := hsame r hr
    obtain ⟨hcategory', hnumber', haverage', hprice'⟩ := hsame first hfirst
    simp only [Row.key, orderKey, hseed r hr, hseed first hfirst, hcategory, hcategory', hnumber,
      hnumber', haverage, haverage', hprice, hprice']
  have hcut : Straddles Row.key tied 1 := straddles_of_tied hfirst htied (by decide) (by decide)
  rcases ((pagesPartition_rows _ _ _).1 (hclaim twoCases { limit := 1 } (by decide))).2 with
    hnil | ⟨-, hnot⟩
  · exact List.ne_nil_of_mem hfirst hnil
  · exact hnot 1 hcut

end Web
end AgenticCommerce
