/-
# What the policy engine decides

The rules of `evaluate_policy` without their order: those that block (`PolicyRule`), what asks
for an approval, and what has to hold for `ALLOW` (`AllowRules`).  A decision is the verdict on
the two questions whether a rule blocks and whether an approval is asked for
(`decidePolicy_decidedBy`), so that it moves with the amount and with the limits as they do.
-/

import AgenticCommerce.Policy.Engine
import Mathlib.Order.Basic

namespace AgenticCommerce

/-- How far a decision lets a purchase go. -/
def Decision.rank : Decision → ℕ
  | .block => 0
  | .requireApproval => 1
  | .allow => 2

/-- The rules that block. -/
inductive PolicyRule where
  | offer | stock | currency | blockedCategory | merchantCategory | buyerCategory | merchant
  | paymentMethod | ceiling | version
  deriving DecidableEq, Repr

section Rules

variable (inputs : PolicyInputs) (merchantRules : MerchantRules) (buyerPolicy : BuyerPolicy)
variable (now : Time)

/-- When a rule blocks. -/
def PolicyRule.Fires : PolicyRule → Prop
  | offer => inputs.offerStatus ≠ .active ∨ inputs.offerExpiresAt ≤ now
  | stock => inputs.availableQuantity ≤ 0 ∧ merchantRules.allowOutOfStock = false
  | currency => ∀ code : CurrencyCode, sameCurrency inputs.currency code = false
  | blockedCategory => inputs.categoryId ∈ merchantRules.blockedCategories
  | merchantCategory =>
      merchantRules.allowedCategories ≠ [] ∧ inputs.categoryId ∉ merchantRules.allowedCategories
  | buyerCategory =>
      buyerPolicy.allowedCategories ≠ [] ∧ inputs.categoryId ∉ buyerPolicy.allowedCategories
  | merchant => buyerPolicy.allowedMerchants ≠ [] ∧ inputs.merchantId ∉ buyerPolicy.allowedMerchants
  | paymentMethod => merchantRules.allowedPaymentMethods ≠ [] ∧
      inputs.paymentMethod ∉ merchantRules.allowedPaymentMethods
  | ceiling => merchantRules.maxTransactionMinor < inputs.amountMinor ∨
      buyerPolicy.maxTransactionMinor < inputs.amountMinor
  | version => buyerPolicy.version ≠ merchantRules.version

/-- The amount is above a limit of automatic approval. -/
def AsksApproval : Prop :=
  merchantRules.autoApprovalLimitMinor < inputs.amountMinor ∨
    buyerPolicy.autoApprovalLimitMinor < inputs.amountMinor

/-- The rules of `ALLOW`. -/
structure AllowRules : Prop where
  active : inputs.offerStatus = .active
  unexpired : now < inputs.offerExpiresAt
  stocked : 0 < inputs.availableQuantity ∨ merchantRules.allowOutOfStock = true
  currency : ∃ code : CurrencyCode, sameCurrency inputs.currency code = true
  not_blocked : inputs.categoryId ∉ merchantRules.blockedCategories
  merchant_category : merchantRules.allowedCategories = [] ∨
    inputs.categoryId ∈ merchantRules.allowedCategories
  buyer_category : buyerPolicy.allowedCategories = [] ∨
    inputs.categoryId ∈ buyerPolicy.allowedCategories
  merchant : buyerPolicy.allowedMerchants = [] ∨ inputs.merchantId ∈ buyerPolicy.allowedMerchants
  payment_method : merchantRules.allowedPaymentMethods = [] ∨
    inputs.paymentMethod ∈ merchantRules.allowedPaymentMethods
  merchant_ceiling : inputs.amountMinor ≤ merchantRules.maxTransactionMinor
  buyer_ceiling : inputs.amountMinor ≤ buyerPolicy.maxTransactionMinor
  version : buyerPolicy.version = merchantRules.version
  merchant_limit : inputs.amountMinor ≤ merchantRules.autoApprovalLimitMinor
  buyer_limit : inputs.amountMinor ≤ buyerPolicy.autoApprovalLimitMinor

end Rules

variable {inputs inputs' : PolicyInputs} {merchantRules merchantRules' : MerchantRules}
variable {buyerPolicy buyerPolicy' : BuyerPolicy} {now : Time}

/-! ### The verdict -/

/-- The verdict on whether a rule blocks and whether an approval is asked for. -/
inductive DecidedBy (blocks asks : Prop) : Decision → Prop
  | block (h : blocks) : DecidedBy blocks asks .block
  | requireApproval (h : ¬blocks) (hasks : asks) : DecidedBy blocks asks .requireApproval
  | allow (h : ¬blocks) (hasks : ¬asks) : DecidedBy blocks asks .allow

namespace DecidedBy

variable {blocks asks blocks' asks' : Prop} {d d' : Decision}

theorem eq_block_iff (h : DecidedBy blocks asks d) : d = .block ↔ blocks := by
  cases h with
  | block h => exact ⟨fun _ => h, fun _ => rfl⟩
  | requireApproval h => exact ⟨nofun, fun hblocks => absurd hblocks h⟩
  | allow h => exact ⟨nofun, fun hblocks => absurd hblocks h⟩

theorem eq_allow_iff (h : DecidedBy blocks asks d) : d = .allow ↔ ¬blocks ∧ ¬asks := by
  cases h with
  | block h => exact ⟨nofun, fun hnot => absurd h hnot.1⟩
  | requireApproval _ hasks => exact ⟨nofun, fun hnot => absurd hasks hnot.2⟩
  | allow h hasks => exact ⟨fun _ => ⟨h, hasks⟩, fun _ => rfl⟩

theorem congr (h : DecidedBy blocks asks d) (hblocks : blocks ↔ blocks') (hasks : asks ↔ asks') :
    DecidedBy blocks' asks' d := by
  rwa [← propext hblocks, ← propext hasks]

/-- The reasons determine the decision. -/
theorem eq (h : DecidedBy blocks asks d) (h' : DecidedBy blocks' asks' d')
    (hblocks : blocks ↔ blocks') (hasks : asks ↔ asks') : d = d' := by
  have h := h.congr hblocks hasks
  cases h with
  | block hb => exact (h'.eq_block_iff.2 hb).symm
  | requireApproval hb ha =>
      cases h' with
      | block hb' => exact absurd hb' hb
      | requireApproval => rfl
      | allow _ ha' => exact absurd ha ha'
  | allow hb ha => exact (h'.eq_allow_iff.2 ⟨hb, ha⟩).symm

/-- **Fewer reasons**, a decision that is no stricter. -/
theorem rank_le (h : DecidedBy blocks asks d) (h' : DecidedBy blocks' asks' d')
    (hblocks : blocks' → blocks) (hasks : asks' → asks) : d.rank ≤ d'.rank := by
  cases h' with
  | block h' => rw [h.eq_block_iff.2 (hblocks h')]
  | requireApproval _ hasks' =>
      cases h with
      | block => exact Nat.zero_le _
      | requireApproval => exact le_refl _
      | allow _ hnot => exact absurd (hasks hasks') hnot
  | allow =>
      cases d with
      | block | requireApproval | allow => decide

/-- A check of the engine: it blocks, or the rest decides. -/
theorem checked {c : Prop} [Decidable c] {reason : String} {rest : Decision × String}
    (hc : c → blocks) (h : ¬c → DecidedBy blocks asks rest.1) :
    DecidedBy blocks asks (if c then (.block, reason) else rest).1 := by
  split
  · rename_i hfires
    exact .block (hc hfires)
  · rename_i hpassed
    exact h hpassed

end DecidedBy

/-- A list of allowed values excludes what it lists the others without. -/
theorem excludes_iff {allowed : List String} {value : String} :
    excludes allowed value = true ↔ allowed ≠ [] ∧ value ∉ allowed := by
  simp [excludes]

theorem unsupported_iff {text : String} :
    sameCurrency text .inr = false ∧ sameCurrency text .usd = false ↔
      ∀ code : CurrencyCode, sameCurrency text code = false := by
  constructor
  · rintro ⟨hinr, husd⟩ (_ | _)
    · exact hinr
    · exact husd
  · intro h
    exact ⟨h .inr, h .usd⟩

/-- **The decision is the verdict** on the rules that block and on the limits of automatic
approval, whatever the order of the checks. -/
theorem decidePolicy_decidedBy (inputs : PolicyInputs) (merchantRules : MerchantRules)
    (buyerPolicy : BuyerPolicy) (now : Time) :
    DecidedBy (∃ rule, PolicyRule.Fires inputs merchantRules buyerPolicy now rule)
      (AsksApproval inputs merchantRules buyerPolicy)
      (decidePolicy inputs merchantRules buyerPolicy now).1 := by
  unfold decidePolicy
  refine .checked (fun h => ⟨.offer, h⟩) fun hoffer => ?_
  refine .checked (fun h => ⟨.stock, h⟩) fun hstock => ?_
  refine .checked (fun h => ⟨.currency, unsupported_iff.1 h⟩) fun hcurrency => ?_
  refine .checked (fun h => ⟨.blockedCategory, List.contains_iff_mem.1 h⟩) fun hblocked => ?_
  refine .checked (fun h => ⟨.merchantCategory, excludes_iff.1 h⟩) fun hmerchant => ?_
  refine .checked (fun h => ⟨.buyerCategory, excludes_iff.1 h⟩) fun hbuyer => ?_
  refine .checked (fun h => ⟨.merchant, excludes_iff.1 h⟩) fun hseller => ?_
  refine .checked (fun h => ⟨.paymentMethod, excludes_iff.1 h⟩) fun hrail => ?_
  refine .checked (fun h => ⟨.ceiling, min_lt_iff.1 h⟩) fun hmax => ?_
  refine .checked (fun h => ⟨.version, h⟩) fun hversion => ?_
  have hnone : ¬∃ rule, PolicyRule.Fires inputs merchantRules buyerPolicy now rule := by
    rintro ⟨rule, h⟩
    cases rule with
    | offer => exact hoffer h
    | stock => exact hstock h
    | currency => exact hcurrency (unsupported_iff.2 h)
    | blockedCategory => exact hblocked (List.contains_iff_mem.2 h)
    | merchantCategory => exact hmerchant (excludes_iff.2 h)
    | buyerCategory => exact hbuyer (excludes_iff.2 h)
    | merchant => exact hseller (excludes_iff.2 h)
    | paymentMethod => exact hrail (excludes_iff.2 h)
    | ceiling => exact hmax (min_lt_iff.2 h)
    | version => exact hversion h
  split
  · rename_i hauto
    exact .requireApproval hnone (min_lt_iff.1 hauto)
  · rename_i hauto
    exact .allow hnone fun h => hauto (min_lt_iff.2 h)

/-- No rule blocks and no approval is asked for exactly under the rules of `ALLOW`. -/
theorem allowRules_iff :
    AllowRules inputs merchantRules buyerPolicy now ↔
      (¬∃ rule, PolicyRule.Fires inputs merchantRules buyerPolicy now rule) ∧
        ¬AsksApproval inputs merchantRules buyerPolicy := by
  constructor
  · intro h
    constructor
    · rintro ⟨rule, hrule⟩
      cases rule with
      | offer => exact hrule.elim (fun hne => hne h.active) (not_le.2 h.unexpired)
      | stock => exact h.stocked.elim (not_lt.2 hrule.1) (by simp [hrule.2])
      | currency =>
          obtain ⟨code, hcode⟩ := h.currency
          exact absurd hcode (by simp [hrule code])
      | blockedCategory => exact h.not_blocked hrule
      | merchantCategory => exact h.merchant_category.elim hrule.1 hrule.2
      | buyerCategory => exact h.buyer_category.elim hrule.1 hrule.2
      | merchant => exact h.merchant.elim hrule.1 hrule.2
      | paymentMethod => exact h.payment_method.elim hrule.1 hrule.2
      | ceiling => exact hrule.elim (not_lt.2 h.merchant_ceiling) (not_lt.2 h.buyer_ceiling)
      | version => exact hrule h.version
    · exact fun hasks => hasks.elim (not_lt.2 h.merchant_limit) (not_lt.2 h.buyer_limit)
  · rintro ⟨hrules, hasks⟩
    have hrule (rule : PolicyRule) :
        ¬PolicyRule.Fires inputs merchantRules buyerPolicy now rule := fun h => hrules ⟨rule, h⟩
    obtain ⟨hactive, hunexpired⟩ := not_or.1 (hrule .offer)
    obtain ⟨hmerchant, hbuyer⟩ := not_or.1 (hrule .ceiling)
    obtain ⟨hmerchantAuto, hbuyerAuto⟩ := not_or.1 hasks
    have hlisted {p q : Prop} (h : ¬(¬p ∧ ¬q)) : p ∨ q := by
      by_contra hnot
      exact h (not_or.1 hnot)
    refine ⟨not_not.1 hactive, not_le.1 hunexpired, ?_, ?_, hrule .blockedCategory,
      hlisted (hrule .merchantCategory), hlisted (hrule .buyerCategory), hlisted (hrule .merchant),
      hlisted (hrule .paymentMethod), not_lt.1 hmerchant, not_lt.1 hbuyer,
      not_not.1 (hrule .version), not_lt.1 hmerchantAuto, not_lt.1 hbuyerAuto⟩
    · refine (not_and_or.1 (hrule .stock)).imp not_le.1 fun h => ?_
      exact Bool.not_eq_false _ |>.mp h
    · obtain ⟨code, hcode⟩ := not_forall.1 (hrule .currency)
      exact ⟨code, Bool.not_eq_false _ |>.mp hcode⟩

/-! ### Two decisions -/

/-- A lower amount has no reason against it that the higher one has not. -/
theorem rank_le_of_amount {amount : ℤ} (h : amount ≤ inputs.amountMinor) :
    (decidePolicy inputs merchantRules buyerPolicy now).1.rank ≤
      (decidePolicy { inputs with amountMinor := amount } merchantRules buyerPolicy now).1.rank := by
  refine (decidePolicy_decidedBy _ _ _ _).rank_le (decidePolicy_decidedBy _ _ _ _) ?_ ?_
  · rintro ⟨rule, hrule⟩
    refine ⟨rule, ?_⟩
    cases rule with
    | ceiling => exact Or.imp (fun hlt => hlt.trans_le h) (fun hlt => hlt.trans_le h) hrule
    | offer | stock | currency | blockedCategory | merchantCategory | buyerCategory | merchant
    | paymentMethod | version => exact hrule
  · exact Or.imp (fun hlt => hlt.trans_le h) (fun hlt => hlt.trans_le h)

/-- Lower limits have every reason against a purchase that the higher ones have. -/
theorem rank_le_of_limits {merchantMax merchantAuto buyerMax buyerAuto : ℤ}
    (hmerchantMax : merchantMax ≤ merchantRules.maxTransactionMinor)
    (hmerchantAuto : merchantAuto ≤ merchantRules.autoApprovalLimitMinor)
    (hbuyerMax : buyerMax ≤ buyerPolicy.maxTransactionMinor)
    (hbuyerAuto : buyerAuto ≤ buyerPolicy.autoApprovalLimitMinor) :
    (decidePolicy inputs
      { merchantRules with maxTransactionMinor := merchantMax, autoApprovalLimitMinor := merchantAuto }
      { buyerPolicy with maxTransactionMinor := buyerMax, autoApprovalLimitMinor := buyerAuto }
      now).1.rank ≤ (decidePolicy inputs merchantRules buyerPolicy now).1.rank := by
  refine (decidePolicy_decidedBy _ _ _ _).rank_le (decidePolicy_decidedBy _ _ _ _) ?_ ?_
  · rintro ⟨rule, hrule⟩
    refine ⟨rule, ?_⟩
    cases rule with
    | ceiling => exact Or.imp hmerchantMax.trans_lt hbuyerMax.trans_lt hrule
    | offer | stock | currency | blockedCategory | merchantCategory | buyerCategory | merchant
    | paymentMethod | version => exact hrule
  · exact Or.imp hmerchantAuto.trans_lt hbuyerAuto.trans_lt

/-- **The engine decides by its rules, monotonically**: `ALLOW` exactly when every rule of
`ALLOW` holds, `BLOCK` exactly when a rule blocks; a lower amount is decided no more strictly,
and a lower limit, whichever of the four it is, no more loosely. -/
theorem evaluatePolicy_monotone (inputsHash : PolicyInputs → String) (inputs : PolicyInputs)
    (merchantRules : MerchantRules) (buyerPolicy : BuyerPolicy) (now : Time) :
    let decided := fun inputs merchantRules buyerPolicy =>
      (evaluatePolicy inputsHash inputs merchantRules buyerPolicy now).decision
    (decided inputs merchantRules buyerPolicy = .allow ↔
      AllowRules inputs merchantRules buyerPolicy now) ∧
    (decided inputs merchantRules buyerPolicy = .block ↔
      ∃ rule, PolicyRule.Fires inputs merchantRules buyerPolicy now rule) ∧
    (∀ amount ≤ inputs.amountMinor,
      (decided inputs merchantRules buyerPolicy).rank ≤
        (decided { inputs with amountMinor := amount } merchantRules buyerPolicy).rank) ∧
    (∀ limit ≤ merchantRules.maxTransactionMinor,
      (decided inputs { merchantRules with maxTransactionMinor := limit } buyerPolicy).rank ≤
        (decided inputs merchantRules buyerPolicy).rank) ∧
    (∀ limit ≤ merchantRules.autoApprovalLimitMinor,
      (decided inputs { merchantRules with autoApprovalLimitMinor := limit } buyerPolicy).rank ≤
        (decided inputs merchantRules buyerPolicy).rank) ∧
    (∀ limit ≤ buyerPolicy.maxTransactionMinor,
      (decided inputs merchantRules { buyerPolicy with maxTransactionMinor := limit }).rank ≤
        (decided inputs merchantRules buyerPolicy).rank) ∧
    (∀ limit ≤ buyerPolicy.autoApprovalLimitMinor,
      (decided inputs merchantRules { buyerPolicy with autoApprovalLimitMinor := limit }).rank ≤
        (decided inputs merchantRules buyerPolicy).rank) := by
  have hdecided := decidePolicy_decidedBy inputs merchantRules buyerPolicy now
  refine ⟨?_, ?_, ?_, ?_, ?_, ?_, ?_⟩
  · exact hdecided.eq_allow_iff.trans allowRules_iff.symm
  · exact hdecided.eq_block_iff
  · exact fun _ h => rank_le_of_amount h
  · exact fun _ h => rank_le_of_limits h le_rfl le_rfl le_rfl
  · exact fun _ h => rank_le_of_limits le_rfl h le_rfl le_rfl
  · exact fun _ h => rank_le_of_limits le_rfl le_rfl h le_rfl
  · exact fun _ h => rank_le_of_limits le_rfl le_rfl le_rfl h

/-- At the limit of automatic approval a purchase is allowed, and one unit above it is not:
the amount and the limit move the decision. -/
theorem evaluatePolicy_monotone_at_limit :
    let inputs : PolicyInputs :=
      { buyerId := "buy_1", merchantId := "mer_1", categoryId := "laptop", amountMinor := 500001,
        currency := "INR", offerStatus := .active, offerExpiresAt := 10, availableQuantity := 3,
        policyVersion := "1.0" }
    let merchantRules : MerchantRules :=
      { merchantId := "mer_1", version := "1.0", maxTransactionMinor := 10000000,
        autoApprovalLimitMinor := 500000 }
    let buyerPolicy : BuyerPolicy :=
      { buyerId := "buy_1", version := "1.0", maxTransactionMinor := 10000000,
        autoApprovalLimitMinor := 500000 }
    let rank := fun inputs merchantRules =>
      (evaluatePolicy (fun _ => "") inputs merchantRules buyerPolicy 0).decision.rank
    rank inputs merchantRules ≤ rank { inputs with amountMinor := 500000 } merchantRules ∧
    rank inputs { merchantRules with maxTransactionMinor := 400000 } ≤ rank inputs merchantRules ∧
    (rank inputs merchantRules, rank { inputs with amountMinor := 500000 } merchantRules,
      rank inputs { merchantRules with maxTransactionMinor := 400000 }) = (1, 2, 0) := by
  intro inputs merchantRules buyerPolicy rank
  obtain ⟨-, -, hamount, hlimit, -⟩ :=
    evaluatePolicy_monotone (fun _ => "") inputs merchantRules buyerPolicy 0
  exact ⟨hamount 500000 (by decide), hlimit 400000 (by decide), by decide⟩

end AgenticCommerce
