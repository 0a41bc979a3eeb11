/-
# Price negotiations

`NegotiationEngine` of `services/negotiation/engine.py`.  A bid is taken from the floor price on,
which is the list price less the largest discount, and is answered with the floor price below it;
after the third round no bid is taken.

The floor is rounded down.  Where the discount leaves a fraction of a minor unit the floor itself
is a price below the largest discount, and a bid of exactly that price is the only one that is
taken at such a price (`respects_iff`).
-/

import AgenticCommerce.Errors
import Mathlib.Data.Int.Order.Basic

namespace AgenticCommerce
namespace Negotiation

/-- `MAX_NEGOTIATION_ROUNDS`. -/
def maxNegotiationRounds : ℤ := 3

/-- The `status` of a result. -/
inductive Status where
  | accepted | counterOffered | rejected
  deriving DecidableEq, Repr

/-- `NegotiationResult`. -/
structure NegotiationResult where
  status : Status
  agreedPriceMinor : Option ℤ
  counterPriceMinor : Option ℤ
  roundNumber : ℤ
  message : String
  deriving DecidableEq, Repr

/-- `calculate_floor_price`. -/
def calculateFloorPrice (listPriceMinor maxDiscountBasisPoints : ℤ) : ℤ :=
  let cappedBps := min (max maxDiscountBasisPoints 0) 10000
  listPriceMinor * (10000 - cappedBps) / 10000

/-- `evaluate_bid`. -/
def evaluateBid (roundNumber proposedPriceMinor listPriceMinor maxDiscountBasisPoints : ℤ) :
    Except Failure NegotiationResult :=
  if maxNegotiationRounds < roundNumber then
    .error (.raised ("Maximum negotiation rounds (" ++ toString maxNegotiationRounds ++
      ") exceeded.") .negotiationRoundsExceeded)
  else
    let floorPriceMinor := calculateFloorPrice listPriceMinor maxDiscountBasisPoints
    if floorPriceMinor ≤ proposedPriceMinor then
      let agreed := min proposedPriceMinor listPriceMinor
      .ok { status := .accepted, agreedPriceMinor := some agreed, counterPriceMinor := none,
            roundNumber, message := "Offer of " ++ toString agreed ++ " accepted." }
    else if roundNumber < maxNegotiationRounds then
      .ok { status := .counterOffered, agreedPriceMinor := none,
            counterPriceMinor := some floorPriceMinor, roundNumber,
            message := "Proposed amount is below discount limit. Counter offer: " ++
              toString floorPriceMinor ++ "." }
    else
      .error (.raised ("Proposed price is below the merchant floor price of " ++
        toString floorPriceMinor ++ ".") .maxDiscountExceeded)

/-- What is negotiated: a price, and how much of it may be let off. -/
structure Terms where
  listPriceMinor : ℤ
  maxDiscountBasisPoints : ℤ
  list_nonneg : 0 ≤ listPriceMinor := by decide
  discount_nonneg : 0 ≤ maxDiscountBasisPoints := by decide
  discount_le : maxDiscountBasisPoints ≤ 10000 := by decide

namespace Terms

variable (terms : Terms)

/-- The floor price. -/
def floor : ℤ := calculateFloorPrice terms.listPriceMinor terms.maxDiscountBasisPoints

/-- The answer to a bid in a round. -/
def answer (round bid : ℤ) : Except Failure NegotiationResult :=
  evaluateBid round bid terms.listPriceMinor terms.maxDiscountBasisPoints

/-- The list price less the largest discount, in ten-thousandths of a minor unit. -/
def least : ℤ := terms.listPriceMinor * (10000 - terms.maxDiscountBasisPoints)

/-- **A negotiation respects the terms**, in every round of a sequence of bids: no price is agreed
below the largest discount or above the list price, a counter-offer is accepted in the next round,
and no bid below the floor is accepted. -/
structure Respects (bids : List (ℤ × ℤ)) : Prop where
  bounded : ∀ round bid result price, (round, bid) ∈ bids → terms.answer round bid = .ok result →
    result.agreedPriceMinor = some price →
      terms.least ≤ price * 10000 ∧ price ≤ terms.listPriceMinor
  counter : ∀ round bid result price, (round, bid) ∈ bids → terms.answer round bid = .ok result →
    result.counterPriceMinor = some price →
      ∃ next, terms.answer (round + 1) price = .ok next ∧ next.agreedPriceMinor = some price
  refused : ∀ round bid result, (round, bid) ∈ bids → bid < terms.floor →
    terms.answer round bid = .ok result → result.status ≠ .accepted

variable {terms}

theorem floor_eq : terms.floor = terms.least / 10000 := by
  have hcap : min (max terms.maxDiscountBasisPoints 0) 10000 = terms.maxDiscountBasisPoints := by
    rw [max_eq_left terms.discount_nonneg, min_eq_left terms.discount_le]
  show terms.listPriceMinor * (10000 - min (max terms.maxDiscountBasisPoints 0) 10000) / 10000 = _
  rw [hcap]
  rfl

/-- The floor is at most one minor unit below the largest discount. -/
theorem floor_bounds : terms.floor * 10000 ≤ terms.least ∧ terms.least < (terms.floor + 1) * 10000 := by
  rw [floor_eq]
  omega

theorem least_le : terms.least ≤ terms.listPriceMinor * 10000 :=
  Int.mul_le_mul_of_nonneg_left (by have := terms.discount_nonneg; omega) terms.list_nonneg

theorem floor_le_list : terms.floor ≤ terms.listPriceMinor := by
  have hbounds := terms.floor_bounds
  have hleast := terms.least_le
  omega

/-- A bid from the floor on is accepted, at the list price at most. -/
theorem answer_accepted {round bid : ℤ} (hround : round ≤ maxNegotiationRounds)
    (hbid : terms.floor ≤ bid) : ∃ result, terms.answer round bid = .ok result ∧
      result.agreedPriceMinor = some (min bid terms.listPriceMinor) := by
  have hanswer : terms.answer round bid = .ok
      { status := .accepted, agreedPriceMinor := some (min bid terms.listPriceMinor),
        counterPriceMinor := none, roundNumber := round,
        message := "Offer of " ++ toString (min bid terms.listPriceMinor) ++ " accepted." } := by
    rw [answer, evaluateBid, if_neg (by omega)]
    exact if_pos hbid
  exact ⟨_, hanswer, rfl⟩

/-- **What an answer is**: an acceptance from the floor on, or the floor before the last round. -/
theorem answer_cases {round bid : ℤ} {result : NegotiationResult}
    (h : terms.answer round bid = .ok result) : round ≤ maxNegotiationRounds ∧
      (terms.floor ≤ bid ∧ result.status = .accepted ∧ result.counterPriceMinor = none ∧
          result.agreedPriceMinor = some (min bid terms.listPriceMinor) ∨
        bid < terms.floor ∧ round < maxNegotiationRounds ∧ result.status = .counterOffered ∧
          result.agreedPriceMinor = none ∧ result.counterPriceMinor = some terms.floor) := by
  simp only [answer, evaluateBid] at h
  split_ifs at h with hrounds hfloor hlast
  · refine ⟨by omega, .inl ⟨hfloor, ?_⟩⟩
    obtain rfl := Except.ok.inj h
    exact ⟨rfl, rfl, rfl⟩
  · refine ⟨by omega, .inr ⟨?_, hlast, ?_⟩⟩
    · exact not_le.1 hfloor
    · obtain rfl := Except.ok.inj h
      exact ⟨rfl, rfl, rfl⟩

/-- **When a negotiation respects the terms**: when the discount leaves no fraction of a minor unit,
or nobody bids the floor exactly while bids are taken. -/
theorem respects_iff (terms : Terms) (bids : List (ℤ × ℤ)) : terms.Respects bids ↔
    10000 ∣ terms.least ∨
      ∀ round, round ≤ maxNegotiationRounds → (round, terms.floor) ∉ bids := by
  have hbounds := terms.floor_bounds
  have hlist := terms.floor_le_list
  have hleast := terms.least_le
  constructor
  · refine fun h => or_iff_not_imp_right.2 fun hbid => ?_
    push Not at hbid
    obtain ⟨round, hround, hmem⟩ := hbid
    obtain ⟨result, hanswer, hagreed⟩ := terms.answer_accepted hround le_rfl
    have hprice := (h.bounded round _ result _ hmem hanswer hagreed).1
    rw [min_eq_left hlist] at hprice
    exact ⟨terms.floor, by omega⟩
  · refine fun h => ⟨fun round bid result price hmem hanswer hprice => ?_,
      fun round bid result price hmem hanswer hprice => ?_,
      fun round bid result hmem hbelow hanswer hstatus => ?_⟩
    · obtain ⟨hround, ⟨hfloor, -, -, hagreed⟩ | ⟨-, -, -, hagreed, -⟩⟩ :=
        answer_cases hanswer
      · obtain rfl := Option.some.inj (hagreed.symm.trans hprice)
        refine ⟨?_, min_le_right _ _⟩
        have hexact : terms.floor * 10000 = terms.least ∨ terms.floor < bid := by
          rcases h with hdvd | hnever
          · rw [floor_eq]
            exact .inl (Int.ediv_mul_cancel hdvd)
          · refine .inr (lt_of_le_of_ne hfloor fun heq => ?_)
            exact hnever round hround (heq ▸ hmem)
        omega
      · rw [hagreed] at hprice
        cases hprice
    · obtain ⟨-, ⟨-, -, hnone, -⟩ | ⟨-, hround, -, -, hcounter⟩⟩ := answer_cases hanswer
      · rw [hnone] at hprice
        cases hprice
      · obtain rfl := Option.some.inj (hcounter.symm.trans hprice)
        obtain ⟨next, hnext, hagreed⟩ := @answer_accepted terms (round + 1) _ (by omega) le_rfl
        rw [min_eq_left hlist] at hagreed
        exact ⟨next, hnext, hagreed⟩
    · obtain ⟨-, ⟨hfloor, -⟩ | ⟨-, -, hcounter, -⟩⟩ := answer_cases hanswer
      · omega
      · rw [hcounter] at hstatus
        cases hstatus

/-- A tenth off 99 minor units is 89.1, and 89 is agreed. -/
theorem floor_undercuts : ¬(Terms.mk 99 1000).Respects [(1, 89)] := by
  rw [respects_iff]
  rintro (hdvd | hnever)
  · exact absurd hdvd (by decide)
  · exact hnever 1 (by decide) (by decide)

end Terms
end Negotiation
end AgenticCommerce
