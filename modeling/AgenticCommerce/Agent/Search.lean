/-
# The search of the default plan

Where a model plans no tool, the agent searches for the intent it extracted.  The plan passes
the whole intent, and the arguments are validated whole (`validate_default`); but the executor
hands the category on and nothing else, with a quantity that the plan does not set.  The budget,
the memory, the storage, the delivery and the quantity of the intent are dropped there, on the
way to the database and to its fallback alike.

`searchHonours_iff` says for which intents nothing is lost: those that state no more than a
category, in a spelling that the database reads as the catalog does.
-/

import AgenticCommerce.Agent.Confirmation
import AgenticCommerce.Offers.Agreement
import AgenticCommerce.Offers.Spelling
import Mathlib.Data.List.ReduceOption

namespace AgenticCommerce
namespace Agent

open Relational Work

/-- `search_seed_candidates`, over what `load_seed_candidates` makes of the artifacts. -/
def searchSeedCandidates (load : String → Except Failure (List OfferCandidate)) (now : Time) :
    SeedSearch := fun merchantId constraints =>
  (load merchantId).map fun candidates => applyConstraints candidates constraints now

/-- The offers a merchant's search is over: those of the store, and those of the artifacts. -/
def InCatalog (reading : Reading) (load : String → Except Failure (List OfferCandidate))
    (merchantId : String) (db : Database) (candidate : OfferCandidate) : Prop :=
  (∃ row ∈ db.searchRows merchantId, candidateOf reading row = some candidate) ∨
    ∃ candidates, load merchantId = .ok candidates ∧ candidate ∈ candidates

/-- An offer satisfies every constraint that an intent states. -/
structure Satisfies (intent : IntentV1) (candidate : OfferCandidate) : Prop where
  category : sameCategory intent.category candidate.categoryId = true
  budget : ∀ budget, intent.financial.budgetMinor = some budget →
    candidate.offer.currency = intent.financial.currency.getD .inr ∧
      candidate.offer.unitPriceMinor ≤ budget
  memory : meets (intent.minMemoryGb.map Subtype.val) candidate.offer.specifications.memoryGb = true
  storage :
    meets (intent.minStorageGb.map Subtype.val) candidate.offer.specifications.storageGb = true
  delivery : within (intent.maxDeliveryDays.map Subtype.val) candidate.offer.deliveryDays = true
  quantity : intent.quantity.val ≤ candidate.offer.availableQuantity

/-- Whatever the catalog, and wherever the answer comes from, the search of the default plan
shows offers of the catalog that satisfy the intent. -/
def SearchHonours (intent : IntentV1) : Prop :=
  ∀ (runtime : Runtime) (load : String → Except Failure (List OfferCandidate)) (now : Time)
    (merchantId : String) (buyerId : Option String) (s t : Run)
    (toolCalls : List ToolExecutionResult) (steps : ℕ) (completed : Bool),
    runtime.seed = searchSeedCandidates load now →
    runTools runtime merchantId buyerId (defaultPlan intent) 0 [] s =
      .ok (toolCalls, steps, completed) t →
    ∀ toolCall ∈ toolCalls, ∃ candidates : List OfferCandidate,
      toolCall.result = .offers (candidates.map OfferCandidate.offer) ∧
      ∀ candidate ∈ candidates, Satisfies intent candidate ∧
        InCatalog (runtime.env s.calls.length).reading load merchantId s.world.db candidate

/-! ### The arguments of the plan -/

/-- What the default plan's arguments are validated to. -/
def defaultArguments (intent : IntentV1) : ToolArgumentsV1 :=
  { toolName := .searchProducts, intent := some intent, query := some intent.query,
    productId := none, offerId := none, offerIds := none, checkoutId := none,
    authorizationId := none, paymentId := none, quantity := none, proposedPriceMinor := none,
    url := none, confirmationToken := none }

theorem orNull_null {α : Type} (read : Json → Option α) : Strict.orNull read .null = some none := rfl

theorem orNull_ofOption (category : Option String) :
    Strict.orNull Json.str? (.ofOption category) = some category := by
  cases category with
  | none => rfl
  | some category => rfl

theorem orNull_dumpNumber (n : Option NonNegativeInt) :
    Strict.orNull (Strict.atLeast 0) (dumpNumber n) = some n := by
  cases n with
  | none => rfl
  | some n =>
      change (if h : 0 ≤ n.val then some (⟨n.val, h⟩ : NonNegativeInt) else none).map some = _
      rw [dif_pos n.property]
      rfl

theorem atLeast_int (bound : ℤ) (n : {n : ℤ // bound ≤ n}) :
    Strict.atLeast bound (.int n.val) = some n := by
  change (if h : bound ≤ n.val then some (⟨n.val, h⟩ : {n : ℤ // bound ≤ n}) else none) = _
  rw [dif_pos n.property]

theorem orNull_currency (currency : Option CurrencyCode) :
    Strict.orNull Strict.currency (.ofOption (currency.map CurrencyCode.value)) = some currency := by
  rcases currency with _ | currency
  · rfl
  · cases currency <;> rfl

/-- **What an intent is dumped to is validated to that intent.** -/
theorem intent_dump (intent : IntentV1) : Strict.intent intent.dump = some intent := by
  have hfinancial : Strict.financial (.obj
      [("budget_minor", dumpNumber intent.financial.budgetMinor),
        ("currency", .ofOption (intent.financial.currency.map CurrencyCode.value))]) =
      some intent.financial := by
    have hbudget := orNull_dumpNumber intent.financial.budgetMinor
    have hcurrency := orNull_currency intent.financial.currency
    simp [Strict.financial, Strict.closed, Strict.field, Json.lookup, hbudget, hcurrency]
  have hcategory := orNull_ofOption intent.category
  have hmemory := orNull_dumpNumber intent.minMemoryGb
  have hstorage := orNull_dumpNumber intent.minStorageGb
  have hdelivery := orNull_dumpNumber intent.maxDeliveryDays
  have hquantity := atLeast_int 1 intent.quantity
  simp [Strict.intent, IntentV1.dump, Strict.closed, Strict.field, Json.lookup, Json.str?,
    hfinancial, hcategory, hmemory, hstorage, hdelivery, hquantity]

theorem validate_default (screening : Screening) (intent : IntentV1) :
    validateToolArguments screening "search_products"
      [("query", .str intent.query), ("intent", intent.dump)] = .ok (defaultArguments intent) := by
  have hintent : Strict.orNull Strict.intent intent.dump = some (some intent) := by
    change (Strict.intent intent.dump).map some = _
    rw [intent_dump]
    rfl
  have harguments : Strict.arguments .searchProducts
      [("query", .str intent.query), ("intent", intent.dump)] = some (defaultArguments intent) := by
    have hquery : Strict.orNull Json.str? (.str intent.query) = some (some intent.query) := rfl
    simp [Strict.arguments, Strict.field, Json.lookup, hintent, hquery, defaultArguments,
      orNull_null]
  have hname : ToolName.ofString? "search_products" = some .searchProducts := by decide
  simp [validateToolArguments, hname, harguments, requiredParameters, fetching]

/-! ### What is searched for -/

section

variable {runtime : Runtime} {merchantId : String} {buyerId : Option String} {intent : IntentV1}
  {s t : Run}

/-- The request that the executor makes of an intent. -/
def defaultRequest (merchantId : String) (intent : IntentV1) : SearchRequest :=
  { merchantId, category := intent.category, quantity := 1, limit := 10 }

theorem one_quantity : (1 : ℤ) ≤ 1 := le_rfl

/-- The constraints it comes to. -/
def defaultConstraints (intent : IntentV1) : OfferConstraints :=
  { category := intent.category, quantity := 1, limit := 10, quantity_pos := one_quantity }

theorem defaultRequest_constraints :
    (defaultRequest merchantId intent).constraints = .ok (defaultConstraints intent) := by
  unfold SearchRequest.constraints
  rw [dif_pos (by simp [defaultRequest, List.reduceOption]), dif_pos (by simp [defaultRequest])]
  rfl

/-- **The search step makes one call**, for the category of the intent. -/
theorem executeTool_default :
    executeTool runtime "search_products" [("query", .str intent.query), ("intent", intent.dump)]
      merchantId buyerId false s =
    (do let offers ← invoke runtime (.searchOffers (defaultRequest merchantId intent))
        pure (ToolExecutionResult.mk "search_products" (defaultArguments intent) (.offers offers)
          false false) : AgentOp ToolExecutionResult) s := by
  have hroute : route runtime (defaultArguments intent) merchantId buyerId =
      (invoke runtime (.searchOffers (defaultRequest merchantId intent)) >>= fun offers =>
        pure (.offers offers)) := rfl
  have hrouted : (defaultArguments intent).toolName ∉ stateChangingTools := by
    change ToolName.searchProducts ∉ stateChangingTools
    decide
  rw [executeTool_of_routed (validate_default _ _) hrouted, hroute, bind_assoc]
  rfl

/-- The one tool of the default plan, where it is executed. -/
theorem runTools_default {toolCalls : List ToolExecutionResult} {steps : ℕ} {completed : Bool}
    (h : runTools runtime merchantId buyerId (defaultPlan intent) 0 [] s =
      .ok (toolCalls, steps, completed) t) {toolCall : ToolExecutionResult}
    (hmem : toolCall ∈ toolCalls) :
    ∃ offers w, toolCall.result = .offers offers ∧
      serve (runtime.env s.calls.length) runtime.seed
        (.searchOffers (defaultRequest merchantId intent)) s.world = .ok offers w := by
  rw [defaultPlan, runTools] at h
  split_ifs at h with hlimits
  · obtain ⟨_, u, hbegin, h⟩ := bind_eq_ok.1 h
    obtain rfl := write_eq_ok.1 hbegin
    obtain ⟨result, v, hresult, h⟩ := bind_eq_ok.1 h
    rw [executeTool_default] at hresult
    obtain ⟨offers, u, hoffers, hresult⟩ := bind_eq_ok.1 hresult
    obtain ⟨rfl, rfl⟩ := pure_eq_ok.1 hresult
    obtain ⟨hanswer, -⟩ := pure_eq_ok.1 h
    obtain ⟨rfl, -⟩ := Prod.mk.inj hanswer
    obtain rfl := List.mem_singleton.1 hmem
    unfold invoke at hoffers
    cases hserve : serve (runtime.env s.calls.length) runtime.seed
        (.searchOffers (defaultRequest merchantId intent)) s.world with
    | ok a w =>
        rw [hserve] at hoffers
        obtain ⟨rfl, -⟩ := EStateM.Result.ok.inj hoffers
        exact ⟨a, w, rfl, rfl⟩
    | error e w =>
        rw [hserve] at hoffers
        cases hoffers
  · obtain ⟨hanswer, -⟩ := pure_eq_ok.1 h
    obtain ⟨rfl, -⟩ := Prod.mk.inj hanswer
    exact absurd hmem List.not_mem_nil

/-- The candidates that an answer is made of: those of the rows the store finds, or those of the
artifacts. -/
def Found (env : Env) (seed : SeedSearch) (r : SearchRequest) (constraints : OfferConstraints)
    (db : Database) (candidates : List OfferCandidate) : Prop :=
  (∃ rows, db.searchOffers env.reading r.merchantId constraints env.now = some rows ∧
    rows.mapM (candidateOf env.reading) = some candidates) ∨
  seed r.merchantId constraints = .ok candidates

theorem searchOfferCandidates_ok {env : Env} {constraints : OfferConstraints} {w w' : World}
    {candidates : List OfferCandidate}
    (h : searchOfferCandidates env merchantId constraints w = .ok candidates w') :
    ∃ rows, w.db.searchOffers env.reading merchantId constraints env.now = some rows ∧
      rows.mapM (candidateOf env.reading) = some candidates := by
  rw [searchOfferCandidates] at h
  obtain ⟨rows, u, hrows, h⟩ := bind_eq_ok.1 h
  obtain ⟨hfound, rfl⟩ := require_eq_ok.1 hrows
  obtain ⟨h, -⟩ := ofAnswer_eq_ok.1 h
  refine ⟨rows, hfound, ?_⟩
  cases hcandidates : rows.mapM (candidateOf env.reading) with
  | none =>
      rw [hcandidates] at h
      exact nomatch h
  | some c =>
      rw [hcandidates] at h
      exact congrArg some (Except.ok.inj h)

theorem unitOfWork_ok {α : Type} {m : Op α} {w w' : World} {a : α} (h : unitOfWork m w = .ok a w') :
    ∃ u, m w = .ok a u := by
  rw [unitOfWork] at h
  obtain ⟨answer, v, hnested, h⟩ := bind_eq_ok.1 h
  obtain ⟨rfl, -⟩ := ofAnswer_eq_ok.1 h
  rcases savepoint_eq_ok.1 hnested with ⟨b, hrun, hb⟩ | ⟨_, _, -, hno, -⟩
  · obtain rfl := Except.ok.inj hb
    obtain ⟨c, u, hm, hflush⟩ := bind_eq_ok.1 hrun
    obtain ⟨_, x, -, hpure⟩ := bind_eq_ok.1 hflush
    obtain ⟨rfl, -⟩ := pure_eq_ok.1 hpure
    exact ⟨u, hm⟩
  · exact nomatch hno

theorem unitOfWork_error {α : Type} {m : Op α} {w w' : World} {e : Failure}
    (h : unitOfWork m w = .error e w') : w'.db = w.db := by
  rw [unitOfWork] at h
  rcases bind_eq_error.1 h with hnested | ⟨answer, v, hnested, hanswer⟩
  · exact (savepoint_eq_error.1 hnested).elim
  · obtain ⟨rfl, rfl⟩ := ofAnswer_eq_error.1 hanswer
    rcases savepoint_eq_ok.1 hnested with ⟨b, -, hno⟩ | ⟨_, u, -, -, rfl⟩
    · exact nomatch hno
    · rfl

theorem searchOffers_ok {env : Env} {r : SearchRequest} {constraints : OfferConstraints}
    (hconstraints : r.constraints = .ok constraints) {w w' : World} {offers : List OfferV1}
    (h : searchOffers env r w = .ok offers w') :
    ∃ rows candidates, w.db.searchOffers env.reading r.merchantId constraints env.now = some rows ∧
      rows.mapM (candidateOf env.reading) = some candidates ∧
      offers = candidates.map OfferCandidate.offer := by
  rw [searchOffers, bind_eq_ok] at h
  obtain ⟨_, u, hevent, h⟩ := h
  rw [appendEvent, update_eq_ok] at hevent
  subst hevent
  obtain ⟨k, v, hk, h⟩ := bind_eq_ok.1 h
  obtain ⟨hread, rfl⟩ := ofAnswer_eq_ok.1 hk
  obtain rfl := Except.ok.inj (hconstraints.symm.trans hread)
  obtain ⟨candidates, x, hcandidates, h⟩ := bind_eq_ok.1 h
  obtain ⟨_, _, -, h⟩ := bind_eq_ok.1 h
  obtain ⟨rfl, -⟩ := pure_eq_ok.1 h
  obtain ⟨rows, hrows, hmapped⟩ := searchOfferCandidates_ok hcandidates
  exact ⟨rows, candidates, hrows, hmapped, rfl⟩

theorem searchCatalog_ok {env : Env} {seed : SeedSearch} {constraints : OfferConstraints}
    {w w' : World} {candidates : List OfferCandidate}
    (h : searchCatalog env seed merchantId constraints w = .ok candidates w') :
    (∃ rows, w.db.searchOffers env.reading merchantId constraints env.now = some rows ∧
      rows.mapM (candidateOf env.reading) = some candidates) ∨
    seed merchantId constraints = .ok candidates := by
  rw [searchCatalog, bind_eq_ok] at h
  obtain ⟨answer, u, hanswer, h⟩ := h
  rcases savepoint_eq_ok.1 hanswer with ⟨found, hfound, rfl⟩ | ⟨e, _, -, rfl, -⟩
  · obtain ⟨rfl, -⟩ := pure_eq_ok.1 h
    exact .inl (searchOfferCandidates_ok hfound)
  · obtain ⟨hseed, -⟩ := ofAnswer_eq_ok.1 h
    exact .inr hseed

/-- **A search shows what was found**, on its first way or on the fallback, under constraints that
are the same for one unit. -/
theorem serve_searchOffers_ok {env : Env} {seed : SeedSearch} {r : SearchRequest}
    {constraints : OfferConstraints} (hconstraints : r.constraints = .ok constraints)
    (hquantity : r.quantity = 1) {w w' : World} {offers : List OfferV1}
    (h : serve env seed (.searchOffers r) w = .ok offers w') :
    ∃ candidates, offers = candidates.map OfferCandidate.offer ∧
      Found env seed r constraints w.db candidates := by
  have hone : ({ r with quantity := 1 } : SearchRequest).constraints = .ok constraints := by
    rw [← hconstraints, ← hquantity]
  rw [serve, bind_eq_ok] at h
  obtain ⟨answer, u, hanswer, h⟩ := h
  rcases attempt_eq_ok.1 hanswer with ⟨found, hwork, rfl⟩ | ⟨e, hwork, rfl⟩
  · obtain ⟨rfl, -⟩ := pure_eq_ok.1 h
    obtain ⟨v, hsearch⟩ := unitOfWork_ok hwork
    obtain ⟨rows, candidates, hrows, hcandidates, rfl⟩ := searchOffers_ok hconstraints hsearch
    exact ⟨candidates, rfl, .inl ⟨rows, hrows, hcandidates⟩⟩
  · have hdb : u.db = w.db := unitOfWork_error hwork
    have hfallback : (do
        let constraints ← ofAnswer ({ r with quantity := 1 } : SearchRequest).constraints
        let candidates ← searchCatalog env seed r.merchantId constraints
        pure (candidates.map OfferCandidate.offer) : Op (List OfferV1)) u = .ok offers w' := by
      cases e with
      | domain e => exact (throw_eq_ok.1 h).elim
      | integrity => exact h
      | exception => exact h
    rw [bind_of_ok (ofAnswer_eq_ok.2 ⟨hone, rfl⟩), bind_eq_ok] at hfallback
    obtain ⟨candidates, v, hcatalog, hpure⟩ := hfallback
    obtain ⟨rfl, -⟩ := pure_eq_ok.1 hpure
    have hfound := searchCatalog_ok hcatalog
    rw [hdb] at hfound
    exact ⟨candidates, rfl, hfound⟩

/-! ### What is shown -/

/-- The categories that the database reads in another way than the catalog does. -/
def oddCategories : List String := ["", "s", "accessories", "accessorys"]

/-- A row that the database takes for one of the category is one of it, where the category is
no odd one. -/
theorem sameCategory_of_inCategory {category : Option String} {stored : String}
    (h : ∀ asked, category = some asked → asked ∉ oddCategories)
    (hin : inCategory category stored = true) : sameCategory category stored = true := by
  cases category with
  | none => rfl
  | some asked =>
      have hodd := h asked rfl
      simp only [oddCategories, List.mem_cons, List.not_mem_nil, or_false, not_or] at hodd
      have hidem := (normalizeCategory_idem_iff asked).2 ⟨hodd.2.2.1, hodd.2.2.2⟩
      have hnormal : normalizeCategory asked ≠ "" := fun hempty => by
        rcases normalizeCategory_eq_empty.1 hempty with hasked | hasked
        · exact hodd.1 hasked
        · exact hodd.2.1 hasked
      by_contra hnot
      have hne : inCategory (some asked) stored ≠ sameCategory (some asked) stored := by
        rw [hin]
        exact Ne.symm hnot
      have hdisputed := inCategory_ne_sameCategory.1 hne
      rw [CategoryDisputed, if_neg (not_or.2 ⟨hodd.1, hnormal⟩)] at hdisputed
      have hother : normalizeCategory stored ≠ normalizeCategory asked := fun hsame =>
        hnot (beq_iff_eq.2 hsame)
      split_ifs at hdisputed with hbucket
      · exact hother (hdisputed.2.trans hbucket.symm)
      · refine hdisputed.2 (iff_of_false (fun hstored => hother ?_) hother)
        rw [hstored, hidem]

/-- What a row that was found is known to be. -/
theorem candidate_of_row {reading : Reading} {row : SearchRow} {candidate : OfferCandidate}
    (h : candidateOf reading row = some candidate) :
    candidate.categoryId = row.product.categoryId ∧ candidate.offer.availableQuantity =
      max 0 (row.inventory.availableQuantity - row.inventory.reservedQuantity) := by
  obtain ⟨offer, hoffer, rfl⟩ := Option.map_eq_some_iff.1 h
  obtain ⟨_, _, -, -, -, rfl⟩ := offerToSchema_eq_some.1 hoffer
  exact ⟨rfl, rfl⟩

/-- **What the search finds is in the catalog**, of the category where that is no odd one, and
one unit of it is there. -/
theorem found_mem {env : Env} {load : String → Except Failure (List OfferCandidate)} {now : Time}
    {db : Database} {candidates : List OfferCandidate}
    (hodd : ∀ asked, intent.category = some asked → asked ∉ oddCategories)
    (h : Found env (searchSeedCandidates load now) (defaultRequest merchantId intent)
      (defaultConstraints intent) db candidates)
    {candidate : OfferCandidate} (hmem : candidate ∈ candidates) :
    InCatalog env.reading load merchantId db candidate ∧
      sameCategory intent.category candidate.categoryId = true ∧
      1 ≤ candidate.offer.availableQuantity := by
  rcases h with ⟨rows, hrows, hcandidates⟩ | hseed
  · obtain ⟨hprojected, rfl⟩ := mapM_candidateOf.1 hcandidates
    obtain ⟨row, hrow, rfl⟩ := List.mem_map.1 hmem
    have hcandidate := candidateOf_eq (hprojected row hrow)
    obtain ⟨hcategory, hquantity⟩ := candidate_of_row hcandidate
    obtain ⟨-, rfl⟩ := searchOffers_eq_some.1 hrows
    obtain ⟨hsearched, hpasses⟩ :=
      List.mem_filter.1 (mem_ranked.1 (List.mem_of_mem_take hrow))
    simp only [SearchRow.passesPlain, SearchRow.passesInSql, Bool.and_eq_true,
      decide_eq_true_eq] at hpasses
    obtain ⟨⟨⟨⟨-, hstock⟩, -⟩, -⟩, ⟨hin, -⟩, -⟩ := hpasses
    refine ⟨.inl ⟨row, hsearched, hcandidate⟩, ?_, ?_⟩
    · rw [hcategory]
      exact sameCategory_of_inCategory hodd hin
    · have hone : (1 : ℤ) ≤ row.inventory.availableQuantity - row.inventory.reservedQuantity :=
        hstock
      rw [hquantity]
      omega
  · obtain ⟨all, hload, rfl⟩ : ∃ all, load merchantId = .ok all ∧
        applyConstraints all (defaultConstraints intent) now = candidates := by
      change (load merchantId).map _ = _ at hseed
      cases hall : load merchantId with
      | error e =>
          rw [hall] at hseed
          cases hseed
      | ok all =>
          rw [hall] at hseed
          exact ⟨all, rfl, Except.ok.inj hseed⟩
    obtain ⟨hall, hmatches⟩ := List.mem_filter.1 (mem_ranked.1 (List.mem_of_mem_take hmem))
    simp only [offerMatches, Bool.and_eq_true, decide_eq_true_eq] at hmatches
    obtain ⟨⟨⟨⟨⟨⟨-, hstock⟩, hcategory⟩, -⟩, -⟩, -⟩, -⟩ := hmatches
    exact ⟨.inr ⟨all, hload, hall⟩, hcategory, hstock⟩

/-! ### An offer that misses every bound -/

/-- A shop with one offer, one minor unit and one day beyond the bounds of an intent, of a product
whose memory and storage are not known, with one unit in stock. -/
def strayShop (intent : IntentV1) (stored : String) : Database where
  offers := ⟨[{ offerId := "off", productId := "prd", merchantId := "mer", expiresAt := 1,
                unitPriceMinor := intent.financial.budgetMinor.elim 0 Subtype.val + 1,
                deliveryDays := intent.maxDeliveryDays.elim 0 Subtype.val + 1 }],
    List.pairwise_singleton _ _⟩
  products := ⟨[{ productId := "prd", merchantId := "mer", categoryId := stored }],
    List.pairwise_singleton _ _⟩
  inventory := pluralShop.inventory

/-- The offer as it is shown. -/
def strayCandidate (intent : IntentV1) (stored : String) : OfferCandidate where
  offer :=
    { offerId := "off", productId := "prd", merchantId := "mer", status := .active,
      unitPriceMinor := intent.financial.budgetMinor.elim 0 Subtype.val + 1, currency := .inr,
      availableQuantity := 1, deliveryDays := intent.maxDeliveryDays.elim 0 Subtype.val + 1,
      returnPeriodDays := 14, expiresAt := 1, offerVersion := 1,
      pricingSource := "synthetic_band_random", specifications := ⟨none, none, none, none, none, none⟩ }
  categoryId := stored
  title := ""
  averageRating := 0
  ratingNumber := 0
  imageUrl := none
  specifications := .obj []

/-- An agent over no artifacts. -/
def searchRuntime : Runtime := { eagerRuntime with seed := searchSeedCandidates (fun _ => .ok []) 0 }

theorem elim_nonneg (n : Option NonNegativeInt) : 0 ≤ n.elim 0 Subtype.val := by
  cases n with
  | none => exact le_rfl
  | some n => exact n.property

theorem searchRows_stray (intent : IntentV1) (stored : String) :
    ∃ row, (strayShop intent stored).searchRows "mer" = [row] ∧
      candidateOf shopEnv.reading row = some (strayCandidate intent stored) ∧
      row.passesPlain (defaultConstraints intent) shopEnv.now = true ∧
      row.product.categoryId = stored := by
  refine ⟨_, rfl, ?_, rfl, rfl⟩
  refine Option.map_eq_some_iff.2 ⟨_, offerToSchema_eq_some.2 ⟨_, _, rfl, rfl, ?_, rfl⟩, rfl⟩
  have hprice := elim_nonneg intent.financial.budgetMinor
  have hdelivery := elim_nonneg intent.maxDeliveryDays
  refine ⟨?_, ?_, (by decide : (0 : ℤ) ≤ 14), (by decide : (1 : ℤ) ≤ 1),
    (by decide : "synthetic_band_random" ∈ pricingSources)⟩
  · change 0 ≤ intent.financial.budgetMinor.elim 0 Subtype.val + 1
    omega
  · change 0 ≤ intent.maxDeliveryDays.elim 0 Subtype.val + 1
    omega

/-- The store finds it under every category it takes for the product's. -/
theorem searchOffers_stray {stored : String} (hin : inCategory intent.category stored = true) :
    ∃ rows, (strayShop intent stored).searchOffers shopEnv.reading "mer" (defaultConstraints intent)
        shopEnv.now = some rows ∧
      rows.mapM (candidateOf shopEnv.reading) = some [strayCandidate intent stored] := by
  obtain ⟨row, hrows, hcandidate, hplain, hcategory⟩ := searchRows_stray intent stored
  have hpasses : (row.passesPlain (defaultConstraints intent) shopEnv.now &&
      row.passesInSql shopEnv.reading (defaultConstraints intent)) = true := by
    rw [hplain, SearchRow.passesInSql, hcategory]
    change (true && (inCategory intent.category stored && true && true)) = true
    rw [hin]
    rfl
  have hfilter : [row].filter (fun r => r.passesPlain (defaultConstraints intent) shopEnv.now &&
      r.passesInSql shopEnv.reading (defaultConstraints intent)) = [row] :=
    List.filter_eq_self.2 fun r hr => by
      obtain rfl := List.mem_singleton.1 hr
      exact hpasses
  refine ⟨[row], searchOffers_eq_some.2 ⟨?_, ?_⟩, ?_⟩
  · rw [hrows]
    intro r _ _ _
    exact ⟨fun h => absurd rfl h, fun _ h => absurd rfl h⟩
  · rw [hrows, hfilter]
    rfl
  · rw [List.mapM_cons, hcandidate]
    rfl

theorem searchOfferCandidates_of_found {env : Env} {constraints : OfferConstraints} {w : World}
    {rows : List SearchRow} {candidates : List OfferCandidate}
    (hrows : w.db.searchOffers env.reading merchantId constraints env.now = some rows)
    (hcandidates : rows.mapM (candidateOf env.reading) = some candidates) :
    searchOfferCandidates env merchantId constraints w = .ok candidates w := by
  rw [searchOfferCandidates, bind_of_ok (require_eq_ok.2 ⟨hrows, rfl⟩), hcandidates]
  rfl

/-- What the store finds is shown. -/
theorem serve_searchOffers_of_found {env : Env} {seed : SeedSearch} {r : SearchRequest}
    {constraints : OfferConstraints} {w : World} {rows : List SearchRow}
    {candidates : List OfferCandidate} (hconstraints : r.constraints = .ok constraints)
    (hrows : w.db.searchOffers env.reading r.merchantId constraints env.now = some rows)
    (hcandidates : rows.mapM (candidateOf env.reading) = some candidates)
    (hflush : w.db.flushable = true) :
    ∃ w', serve env seed (.searchOffers r) w = .ok (candidates.map OfferCandidate.offer) w' := by
  have hsearch : ∃ w', searchOffers env r w = .ok (candidates.map OfferCandidate.offer) w' ∧
      w'.db.flushable = true := by
    have hfound : searchOfferCandidates env r.merchantId constraints
        { w with db := w.db.appendAudit (searchedEvent r) } = .ok candidates
          { w with db := w.db.appendAudit (searchedEvent r) } :=
      searchOfferCandidates_of_found hrows hcandidates
    have hevent : appendEvent (searchedEvent r) w =
        .ok () { w with db := w.db.appendAudit (searchedEvent r) } := rfl
    unfold searchOffers
    refine ⟨_, (bind_of_ok hevent).trans ((bind_of_ok
      (ofAnswer_eq_ok.2 ⟨hconstraints, rfl⟩)).trans ((bind_of_ok hfound).trans rfl)), hflush⟩
  obtain ⟨w', hsearch, hflush'⟩ := hsearch
  have hwork : unitOfWork (searchOffers env r) w = .ok (candidates.map OfferCandidate.offer) w' := by
    have hnested : nested (do let a ← searchOffers env r; flush; pure a) w =
        .ok (.ok (candidates.map OfferCandidate.offer)) w' := by
      have hflushed : flush w' = .ok () w' := flush_eq_ok.2 ⟨hflush', rfl⟩
      exact savepoint_eq_ok.2 (.inl ⟨_, (bind_of_ok hsearch).trans (bind_of_ok hflushed), rfl⟩)
    exact bind_of_ok hnested
  exact ⟨w', bind_of_ok (attempt_eq_ok.2 (.inl ⟨_, hwork, rfl⟩))⟩

/-- **The default plan shows it.** -/
theorem runTools_stray {stored : String} (hin : inCategory intent.category stored = true) :
    ∃ toolCall t, runTools searchRuntime "mer" none (defaultPlan intent) 0 []
        { world := { db := strayShop intent stored } } = .ok ([toolCall], 1, true) t ∧
      toolCall.result = .offers [(strayCandidate intent stored).offer] := by
  obtain ⟨rows, hrows, hcandidates⟩ := searchOffers_stray hin
  obtain ⟨w', hserve⟩ := @serve_searchOffers_of_found shopEnv searchRuntime.seed
    (defaultRequest "mer" intent) _ { db := strayShop intent stored } _ _
    defaultRequest_constraints hrows hcandidates rfl
  have hinvoke : invoke searchRuntime (.searchOffers (defaultRequest "mer" intent))
      { world := { db := strayShop intent stored }, begun := ["search_products"] } =
      .ok [(strayCandidate intent stored).offer]
        { world := w', calls := [.searchOffers (defaultRequest "mer" intent)],
          begun := ["search_products"] } := by
    unfold invoke
    have henv : searchRuntime.env 0 = shopEnv := rfl
    simp only [List.length_nil, henv, hserve, List.nil_append, List.map_cons, List.map_nil]
  have hlimits : ¬¬WithinLimits searchRuntime 0 := not_not.2 (by decide)
  have htool : executeTool searchRuntime "search_products"
      [("query", .str intent.query), ("intent", intent.dump)] "mer" none false
      { world := { db := strayShop intent stored }, begun := ["search_products"] } = .ok
        { toolName := "search_products", arguments := defaultArguments intent,
          result := .offers [(strayCandidate intent stored).offer], isStateChanging := false,
          requiresConfirmation := false }
        { world := w', calls := [.searchOffers (defaultRequest "mer" intent)],
          begun := ["search_products"] } := by
    rw [executeTool_default]
    exact bind_of_ok hinvoke
  have hbegin : begin "search_products" { world := { db := strayShop intent stored } } =
      .ok () { world := { db := strayShop intent stored }, begun := ["search_products"] } := rfl
  refine ⟨{ toolName := "search_products", arguments := defaultArguments intent,
            result := .offers [(strayCandidate intent stored).offer], isStateChanging := false,
            requiresConfirmation := false },
    { world := w', calls := [.searchOffers (defaultRequest "mer" intent)],
      begun := ["search_products"] }, ?_, rfl⟩
  rw [defaultPlan, runTools, if_neg hlimits]
  exact (bind_of_ok hbegin).trans ((bind_of_ok htool).trans rfl)

/-- So it has to satisfy the intent. -/
theorem satisfies_stray {stored : String} (h : SearchHonours intent)
    (hin : inCategory intent.category stored = true) :
    Satisfies intent (strayCandidate intent stored) := by
  obtain ⟨toolCall, t, hrun, hresult⟩ := runTools_stray hin
  obtain ⟨candidates, hoffers, hall⟩ := h searchRuntime (fun _ => .ok []) 0 "mer" none _ t _ 1 true
    rfl hrun toolCall (List.mem_singleton_self _)
  rw [hresult, ToolOutput.offers.injEq] at hoffers
  obtain ⟨candidate, rfl, -⟩ := List.map_eq_singleton_iff.1 hoffers.symm
  obtain ⟨hsatisfies, hcatalog⟩ := hall candidate (List.mem_singleton_self _)
  obtain ⟨row, hrows, hcandidate, -, -⟩ := searchRows_stray intent stored
  rcases hcatalog with ⟨row', hrow', hcandidate'⟩ | ⟨all, hall, hmem⟩
  · have hsame : row' = row := by
      have hmem : row' ∈ (strayShop intent stored).searchRows "mer" := hrow'
      rw [hrows] at hmem
      exact List.mem_singleton.1 hmem
    rw [hsame] at hcandidate'
    obtain rfl := Option.some.inj (hcandidate.symm.trans hcandidate')
    exact hsatisfies
  · obtain rfl := Except.ok.inj hall
    exact absurd hmem List.not_mem_nil

/-! ### The intents that are honoured -/

/-- An intent that states no more than a category, and no odd one. -/
structure StatesCategoryOnly (intent : IntentV1) : Prop where
  budget : intent.financial.budgetMinor = none
  memory : intent.minMemoryGb = none
  storage : intent.minStorageGb = none
  delivery : intent.maxDeliveryDays = none
  quantity : intent.quantity.val = 1
  category : ∀ asked, intent.category = some asked → asked ∉ oddCategories

/-- Some product is found under every category. -/
theorem exists_inCategory (category : Option String) :
    ∃ stored, inCategory category stored = true := by
  cases hspellings : category.bind categorySpellings with
  | none => exact ⟨"", by rw [inCategory, hspellings]; rfl⟩
  | some spellings =>
      obtain ⟨asked, -, hasked⟩ := Option.bind_eq_some_iff.1 hspellings
      have hne : spellings ≠ [] := by
        unfold categorySpellings at hasked
        split_ifs at hasked
        · obtain rfl := Option.some.inj hasked
          exact List.cons_ne_nil _ _
        · obtain rfl := Option.some.inj hasked
          exact List.cons_ne_nil _ _
        · obtain rfl := Option.some.inj hasked
          exact List.cons_ne_nil _ _
      refine ⟨spellings.head hne, ?_⟩
      rw [inCategory, hspellings]
      exact List.contains_iff_mem.2 (List.head_mem hne)

/-- Under an odd category the database finds a product of another one. -/
theorem odd_inCategory {asked : String} (h : asked ∈ oddCategories) :
    ∃ stored, inCategory (some asked) stored = true ∧ sameCategory (some asked) stored = false := by
  simp only [oddCategories, List.mem_cons, List.not_mem_nil, or_false] at h
  rcases h with rfl | rfl | rfl | rfl
  · exact ⟨"laptop", by decide, by decide⟩
  · exact ⟨"laptop", by decide, by decide⟩
  · exact ⟨"accessory", by decide, by decide⟩
  · exact ⟨"accessory", by decide, by decide⟩

/-- **The search of the default plan honours an intent** exactly when it states no more than a
category, and no odd one. -/
theorem searchHonours_iff (intent : IntentV1) :
    SearchHonours intent ↔ StatesCategoryOnly intent := by
  constructor
  · intro h
    obtain ⟨stored, hin⟩ := exists_inCategory intent.category
    have hstray := satisfies_stray h hin
    refine ⟨?_, ?_, ?_, ?_, ?_, fun asked hasked hodd => ?_⟩
    · cases hbudget : intent.financial.budgetMinor with
      | none => rfl
      | some budget =>
          have hprice := (hstray.budget budget hbudget).2
          simp only [strayCandidate, hbudget, Option.elim_some] at hprice
          omega
    · cases hmemory : intent.minMemoryGb with
      | none => rfl
      | some bound =>
          have hmeets := hstray.memory
          rw [hmemory] at hmeets
          exact nomatch hmeets
    · cases hstorage : intent.minStorageGb with
      | none => rfl
      | some bound =>
          have hmeets := hstray.storage
          rw [hstorage] at hmeets
          exact nomatch hmeets
    · cases hdelivery : intent.maxDeliveryDays with
      | none => rfl
      | some bound =>
          have hwithin := hstray.delivery
          simp only [strayCandidate, hdelivery, Option.elim_some, Option.map_some, within,
            Option.all_some, decide_eq_true_eq] at hwithin
          omega
    · have hone : intent.quantity.val ≤ 1 := hstray.quantity
      have hpos := intent.quantity.property
      omega
    · rw [hasked] at hin
      obtain ⟨other, hother, hnot⟩ := odd_inCategory hodd
      rw [← hasked] at hother hnot
      have hsame := (satisfies_stray h hother).category
      exact absurd (hsame.symm.trans hnot) (by decide)
  · intro h runtime load now merchantId buyerId s t toolCalls steps completed hseed hrun toolCall
      hmem
    obtain ⟨offers, w, hresult, hserve⟩ := runTools_default hrun hmem
    rw [hseed] at hserve
    obtain ⟨candidates, rfl, hfound⟩ :=
      serve_searchOffers_ok defaultRequest_constraints rfl hserve
    refine ⟨candidates, hresult, fun candidate hcandidate => ?_⟩
    obtain ⟨hcatalog, hcategory, hstock⟩ := found_mem h.category hfound hcandidate
    refine ⟨⟨hcategory, fun budget hbudget => ?_, ?_, ?_, ?_, ?_⟩, hcatalog⟩
    · rw [h.budget] at hbudget
      exact nomatch hbudget
    · rw [h.memory]
      rfl
    · rw [h.storage]
      rfl
    · rw [h.delivery]
      rfl
    · rw [h.quantity]
      exact hstock

end

/-- **A budget is dropped**: asked for something for at most 500, the agent shows an offer
for 501. -/
theorem budget_dropped :
    ¬SearchHonours
      { query := "a laptop under 500", category := some "laptop",
        financial := ⟨some ⟨500, by decide⟩, some .inr⟩, minMemoryGb := none, minStorageGb := none,
        maxDeliveryDays := none, quantity := ⟨1, by decide⟩ } := by
  intro h
  have hprice := ((@satisfies_stray _ "laptop" h (by decide)).budget _ rfl).2
  exact absurd hprice (by decide)

end Agent
end AgenticCommerce
