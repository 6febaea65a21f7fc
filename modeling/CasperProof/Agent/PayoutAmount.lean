/-
  What a claim is paid.

  `payoutAmount` caps the coverage at the loss, and a loss may be given as a
  negative number: the amount that `evaluateClaim` returns is sound exactly if
  it is not (`payout_sound_iff`).
-/
import CasperProof.Agent.ClaimOracle

namespace CasperProof.Agent

open Js Sdk

/-- The integers that the amounts of the evidence denote. -/
structure Amounts (e : ClaimEvidence) (coverage : ℤ) (loss : Option ℤ) : Prop where
  coverage : bigInt e.coverage = some coverage
  loss : Option.Rel (fun text n => bigInt text = some n) e.lossAmount loss

/-- The amount is at most the coverage and the loss, a payout is for a covered
    trigger, and nothing else has an amount. -/
structure PayoutSound (e : ClaimEvidence) (coverage : ℤ) (loss : Option ℤ) (r : ClaimOracleResult) : Prop where
  amount : ∃ a, bigInt r.amount = some a ∧ 0 ≤ a ∧ a ≤ coverage ∧ ∀ n ∈ loss, a ≤ n
  covered : r.decision = .payout → (∃ t ∈ e.coveredTriggers, r.triggerType = some t) ∧ 0.7 ≤ r.confidence
  unpaid : r.decision ≠ .payout → r.amount = lit "0"

section
variable {e : ClaimEvidence} {coverage : ℤ} {loss : Option ℤ} (h : Amounts e coverage loss)
include h

theorem payoutAmount_returns :
    ∃ text, payoutAmount e = .ok text ∧ bigInt text = some (loss.elim coverage fun n => min n coverage) := by
  have hloss := h.loss
  unfold payoutAmount
  cases hl : e.lossAmount with
  | none =>
    rw [hl] at hloss
    cases hloss
    exact ⟨_, rfl, h.coverage⟩
  | some text =>
    rw [hl] at hloss
    obtain _ | hn := hloss
    rename_i n hn
    refine ⟨_, ?_, bigInt_intText _⟩
    simp only [hn, h.coverage, orFail, ok_bind, Option.elim_some]
    congr 2
    rcases lt_or_ge n coverage with hlt | hge
    · rw [if_pos hlt, min_eq_left hlt.le]
    · rw [if_neg (not_lt.2 hge), min_eq_right hge]

theorem evaluateClaim_returns (round : ℚ → ℚ) : ∃ r, evaluateClaim round e = .ok r := by
  obtain ⟨text, htext, -⟩ := payoutAmount_returns h
  simp only [evaluateClaim, htext, ok_bind]
  split_ifs
  all_goals exact ⟨_, rfl⟩

/-- **Payouts are sound** exactly if the loss is not negative. -/
theorem payout_sound_iff (hpos : 0 ≤ coverage) :
    (∃ r, evaluateClaim id e = .ok r ∧ PayoutSound e coverage loss r) ↔ ∀ n ∈ loss, 0 ≤ n := by
  constructor
  · rintro ⟨r, -, hsound⟩ n hn
    obtain ⟨a, -, hnonneg, -, hle⟩ := hsound.amount
    exact hnonneg.trans (hle n hn)
  · intro hloss
    obtain ⟨r, hr⟩ := evaluateClaim_returns h id
    refine ⟨r, hr, ?_⟩
    rcases evaluateClaim_ok hr with ⟨hpay, hcovered, hconfidence, hamount⟩ | ⟨hunpaid, hzero⟩
    · obtain ⟨text, htext, hdenotes⟩ := payoutAmount_returns h
      cases hamount.symm.trans htext
      refine ⟨⟨_, hdenotes, ?_⟩, fun _ => ⟨hcovered, hconfidence⟩, fun hnot => absurd hpay hnot⟩
      cases loss with
      | none => exact ⟨hpos, le_rfl, nofun⟩
      | some n =>
        refine ⟨le_min (hloss n rfl) hpos, min_le_right _ _, fun m hm => ?_⟩
        cases hm
        exact min_le_left _ _
    · have hdenotes : bigInt (lit "0") = some 0 := by decide
      exact ⟨⟨0, by rw [hzero, hdenotes], le_rfl, hpos, hloss⟩, fun hpay => absurd hpay hunpaid, fun _ => hzero⟩

end

/-- A drained protocol, with a loss amount. -/
def drained (lossAmount : JsString) : ClaimEvidence where
  policyId := number 7
  coveredTriggers := [.exploit]
  coverage := lit "1000000000"
  lossAmount := some lossAmount
  fundsDrained := true
  exploitDetected := true

theorem payout_sound_iff_demo :
    (∃ r, evaluateClaim id (drained (lit " 0xfa ")) = .ok r ∧
      PayoutSound (drained (lit " 0xfa ")) 1000000000 (some 250) r) ↔ ∀ n ∈ some (250 : ℤ), 0 ≤ n :=
  payout_sound_iff ⟨by decide +kernel, .some (by decide +kernel)⟩ (by decide)

/-- A negative loss is paid out as it is. -/
theorem negative_payout : ¬ ∀ (e : ClaimEvidence) (coverage : ℤ) (loss : Option ℤ), Amounts e coverage loss →
    0 ≤ coverage → ∃ r, evaluateClaim id e = .ok r ∧ PayoutSound e coverage loss r := by
  intro hall
  have hamounts : Amounts (drained (lit "-5")) 1000000000 (some (-5)) :=
    ⟨by decide +kernel, .some (by decide +kernel)⟩
  have hpaid : evaluateClaim id (drained (lit "-5")) = .ok ⟨.payout, some .exploit, 1, lit "-5"⟩ := by decide +kernel
  obtain ⟨r, hr, hsound⟩ := hall _ _ _ hamounts (by decide)
  cases hpaid.symm.trans hr
  obtain ⟨a, ha, hnonneg, -⟩ := hsound.amount
  have hfive : bigInt (lit "-5") = some (-5) := by decide +kernel
  cases hfive.symm.trans ha
  exact absurd hnonneg (by decide)

end CasperProof.Agent
