/-
  More evidence — what it does to a payout.

  Every score grows with the evidence, and so does the highest of them
  (`MoreEvidence.confidence_le`).  But the highest may become another one, and
  only its trigger is looked up in the policy: with more evidence a payout
  stays a payout or, if the new trigger is not covered, goes to review.
-/
import CasperProof.Agent.ClaimOracle
import CasperProof.Sdk.MockBackend

namespace CasperProof.Agent

open Js Sdk

/-- The same policy, and evidence with every signal of the first record and an
    oracle deviation at least as large. -/
structure MoreEvidence (e e' : ClaimEvidence) : Prop where
  coveredTriggers : e'.coveredTriggers = e.coveredTriggers
  coverage : e'.coverage = e.coverage
  lossAmount : e'.lossAmount = e.lossAmount
  fundsDrained : e.fundsDrained → e'.fundsDrained
  exploitDetected : e.exploitDetected → e'.exploitDetected
  oracleDeviationBps : ∀ bps ∈ e.oracleDeviationBps, ∃ bps' ∈ e'.oracleDeviationBps, numberLe bps bps'
  oracleStale : e.oracleStale → e'.oracleStale
  agentMisbehaved : e.agentMisbehaved → e'.agentMisbehaved
  agentSlashed : e.agentSlashed → e'.agentSlashed
  maliciousProposal : e.maliciousProposal → e'.maliciousProposal
  governanceTakeover : e.governanceTakeover → e'.governanceTakeover

/-! ## The highest score -/

section
variable (best : TriggerScore) (scores : List TriggerScore)

/-- `scores.reduce` with the higher of two scores, the first of equal ones. -/
def highest : TriggerScore :=
  scores.foldl (fun best current => if best.confidence < current.confidence then current else best) best

theorem highest_mem : highest best scores ∈ best :: scores := by
  induction scores generalizing best with
  | nil => exact List.mem_cons_self ..
  | cons s scores ih =>
    rw [highest, List.foldl_cons]
    split_ifs
    · exact List.mem_cons_of_mem _ (ih s)
    · rcases List.mem_cons.1 (ih best) with h | h
      · exact List.mem_cons.2 (.inl h)
      · exact List.mem_cons_of_mem _ (List.mem_cons_of_mem _ h)

theorem le_highest : ∀ s ∈ best :: scores, s.confidence ≤ (highest best scores).confidence := by
  induction scores generalizing best with
  | nil =>
    intro s hs
    rw [List.mem_singleton.1 hs]
    exact le_rfl
  | cons c scores ih =>
    intro s hs
    rw [highest, List.foldl_cons]
    split_ifs with hlt
    · have hrest := ih c
      rcases List.mem_cons.1 hs with rfl | hs
      · exact hlt.le.trans (hrest c (List.mem_cons_self ..))
      · exact hrest s hs
    · have hrest := ih best
      rcases List.mem_cons.1 hs with rfl | hs
      · exact hrest s (List.mem_cons_self ..)
      rcases List.mem_cons.1 hs with rfl | hs
      · exact (not_lt.1 hlt).trans (hrest best (List.mem_cons_self ..))
      · exact hrest s (List.mem_cons_of_mem _ hs)

end

/-- The higher scores of the second record, one by one. -/
theorem highest_mono {b b' : TriggerScore} {scores scores' : List TriggerScore}
    (h : List.Forall₂ (fun s s' => s.confidence ≤ s'.confidence) (b :: scores) (b' :: scores')) :
    (highest b scores).confidence ≤ (highest b' scores').confidence := by
  obtain ⟨i, hi, heq⟩ := List.getElem_of_mem (highest_mem b scores)
  have hi' : i < (b' :: scores').length := h.length_eq ▸ hi
  rw [← heq]
  exact (h.get hi hi').trans (le_highest b' scores' _ (List.getElem_mem hi'))

/-! ## Scores -/

theorem addSignal_mono {signal signal' : Bool} {k c c' : ℚ} (h : signal → signal') (hk : 0 ≤ k) (hc : c ≤ c') :
    addSignal id signal k c ≤ addSignal id signal' k c' := by
  cases signal with
  | true =>
    have hsignal' : signal' = true := h rfl
    simp only [addSignal, hsignal', if_true, id_eq]
    linarith
  | false =>
    simp only [addSignal, Bool.false_eq_true, if_false, id_eq]
    split_ifs
    · linarith
    · exact hc

/-- The ramp of the deviation score grows, up to its cap. -/
theorem deviationScore_mono {x y : JsNumber} (h : numberLe x y) {k : ℚ} (hk : deviationScore id x = some k) :
    ∃ k', deviationScore id y = some k' ∧ k ≤ k' := by
  cases x with
  | real q =>
    rw [deviationScore] at hk
    split_ifs at hk with hq
    obtain rfl := Option.some.inj hk
    cases y with
    | real r =>
      have hqr : q ≤ r := of_decide_eq_true h
      refine ⟨_, if_pos (hq.trans hqr), min_le_min_left _ ?_⟩
      simp only [id_eq]
      linarith
    | posInf => exact ⟨_, rfl, min_le_left _ _⟩
    | negZero =>
      have hq0 : q ≤ 0 := of_decide_eq_true h
      linarith
    | negInf | nan => cases h
  | posInf =>
    cases y with
    | posInf => exact ⟨k, hk, le_rfl⟩
    | real | negZero | negInf | nan => cases h
  | negZero | negInf | nan => cases hk

theorem deviationScore_nonneg {x : JsNumber} {k : ℚ} (hk : deviationScore id x = some k) : 0 ≤ k := by
  cases x with
  | real q =>
    rw [deviationScore] at hk
    split_ifs at hk with hq
    obtain rfl := Option.some.inj hk
    refine le_min (by norm_num) ?_
    simp only [id_eq]
    linarith
  | posInf =>
    obtain rfl := Option.some.inj hk
    norm_num
  | negZero | negInf | nan => cases hk

section
variable {e e' : ClaimEvidence} (h : MoreEvidence e e')
include h

theorem MoreEvidence.exploit_le : scoreExploit id e ≤ scoreExploit id e' :=
  addSignal_mono h.fundsDrained (by norm_num) (addSignal_mono h.exploitDetected (by norm_num) le_rfl)

theorem MoreEvidence.agentError_le : scoreAgentError id e ≤ scoreAgentError id e' :=
  addSignal_mono h.agentMisbehaved (by norm_num) (addSignal_mono h.agentSlashed (by norm_num) le_rfl)

theorem MoreEvidence.governanceAttack_le : scoreGovernanceAttack id e ≤ scoreGovernanceAttack id e' :=
  addSignal_mono h.governanceTakeover (by norm_num) (addSignal_mono h.maliciousProposal (by norm_num) le_rfl)

theorem MoreEvidence.oracleFailure_le : scoreOracleFailure id e ≤ scoreOracleFailure id e' := by
  have hstale : addSignal id e.oracleStale 0.55 0 ≤ addSignal id e'.oracleStale 0.55 0 :=
    addSignal_mono h.oracleStale (by norm_num) le_rfl
  unfold scoreOracleFailure
  cases hk : e.oracleDeviationBps.bind (deviationScore id) with
  | none =>
    cases hk' : e'.oracleDeviationBps.bind (deviationScore id) with
    | none => exact hstale
    | some k' =>
      obtain ⟨bps', -, hscore⟩ := Option.bind_eq_some_iff.1 hk'
      exact hstale.trans (le_add_of_nonneg_right (deviationScore_nonneg hscore))
  | some k =>
    obtain ⟨bps, hbps, hscore⟩ := Option.bind_eq_some_iff.1 hk
    obtain ⟨bps', hbps', hle⟩ := h.oracleDeviationBps bps hbps
    obtain ⟨k', hscore', hkk⟩ := deviationScore_mono hle hscore
    have hk' : e'.oracleDeviationBps.bind (deviationScore id) = some k' :=
      Option.bind_eq_some_iff.2 ⟨bps', hbps', hscore'⟩
    rw [hk']
    exact add_le_add hstale hkk

/-- **The highest score grows** with the evidence. -/
theorem MoreEvidence.confidence_le : (classify id e).confidence ≤ (classify id e').confidence :=
  highest_mono (.cons h.exploit_le (.cons h.oracleFailure_le (.cons h.agentError_le
    (.cons h.governanceAttack_le .nil))))

end

theorem round2_mono {x y : ℚ} (h : x ≤ y) : round2 id x ≤ round2 id y := by
  have hfloor : ⌊x * 100 + 1 / 2⌋ ≤ ⌊y * 100 + 1 / 2⌋ := Int.floor_mono (by linarith)
  have hcast : (⌊x * 100 + 1 / 2⌋ : ℚ) ≤ ⌊y * 100 + 1 / 2⌋ := by exact_mod_cast hfloor
  exact div_le_div_of_nonneg_right hcast (by norm_num)

/-- The confidence of a record, as it is reported. -/
def reported (e : ClaimEvidence) : ℚ := round2 id (min 1 (classify id e).confidence)

/-- Confident evaluations are decided by the trigger of the highest score. -/
theorem evaluateClaim_confident {e : ClaimEvidence} (h : 0.7 ≤ reported e) :
    evaluateClaim id e =
      if (classify id e).trigger ∉ e.coveredTriggers then
        .ok ⟨.review, some (classify id e).trigger, reported e, lit "0"⟩
      else (payoutAmount e).map fun amount => ⟨.payout, some (classify id e).trigger, reported e, amount⟩ := by
  have hpos : ¬ reported e ≤ 0 := by
    intro hle
    exact absurd (h.trans hle) (by norm_num)
  unfold evaluateClaim
  change (if reported e ≤ 0 then _ else if 0.7 ≤ reported e then _ else _) = _
  rw [if_neg hpos, if_pos h]
  rfl

/-- A payout is of a confident evaluation. -/
theorem confident_of_payout {e : ClaimEvidence} {r : ClaimOracleResult} (h : evaluateClaim id e = .ok r)
    (hpay : r.decision = .payout) : 0.7 ≤ reported e := by
  by_contra hnot
  simp only [evaluateClaim] at h
  change (if reported e ≤ 0 then _ else if 0.7 ≤ reported e then _ else _) = _ at h
  rw [if_neg hnot] at h
  split_ifs at h
  all_goals
    cases h
    cases hpay

/-- **What more evidence does to a payout**: it is made as before, unless the
    trigger with the highest score is one that the policy does not cover; then
    the claim goes to review. -/
theorem more_evidence {e e' : ClaimEvidence} {r : ClaimOracleResult} (h : MoreEvidence e e')
    (hr : evaluateClaim id e = .ok r) (hpay : r.decision = .payout) :
    ∃ r', evaluateClaim id e' = .ok r' ∧ r'.triggerType = some (classify id e').trigger ∧
      ((classify id e').trigger ∈ e'.coveredTriggers ∧ r'.decision = .payout ∧ r'.amount = r.amount ∨
        (classify id e').trigger ∉ e'.coveredTriggers ∧ r'.decision = .review ∧ r'.amount = lit "0") := by
  have hconfident : 0.7 ≤ reported e' :=
    (confident_of_payout hr hpay).trans (round2_mono (min_le_min_left 1 h.confidence_le))
  rw [evaluateClaim_confident hconfident]
  by_cases hcovered : (classify id e').trigger ∈ e'.coveredTriggers
  · have hamount : payoutAmount e = .ok r.amount := by
      rcases evaluateClaim_ok hr with ⟨-, -, -, hamount⟩ | ⟨hnot, -⟩
      · exact hamount
      · exact absurd hpay hnot
    have hsame : payoutAmount e' = payoutAmount e := by
      unfold payoutAmount
      rw [h.coverage, h.lossAmount]
    rw [if_neg (not_not.2 hcovered), hsame, hamount]
    exact ⟨_, rfl, rfl, .inl ⟨hcovered, rfl, rfl⟩⟩
  · rw [if_pos hcovered]
    exact ⟨_, rfl, rfl, .inr ⟨hcovered, rfl, rfl⟩⟩

/-- A stale oracle that deviates by 500 basis points, for a policy that covers
    oracle failures; and the same with an exploit. -/
def staleOracle (exploit : Bool) : ClaimEvidence where
  policyId := number 7
  coveredTriggers := [.oracleFailure]
  coverage := lit "100"
  oracleDeviationBps := some (number 500)
  oracleStale := true
  fundsDrained := exploit
  exploitDetected := exploit

theorem staleOracle_more (exploit : Bool) : MoreEvidence (staleOracle false) (staleOracle exploit) := by
  refine ⟨rfl, rfl, rfl, nofun, nofun, ?_, id, id, id, id, id⟩
  rintro _ ⟨⟩
  exact ⟨number 500, rfl, by decide +kernel⟩

theorem staleOracle_paid : evaluateClaim id (staleOracle false) =
    .ok ⟨.payout, some .oracleFailure, 0.85, lit "100"⟩ := by decide +kernel

theorem more_evidence_demo :
    ∃ r', evaluateClaim id (staleOracle true) = .ok r' ∧
      r'.triggerType = some (classify id (staleOracle true)).trigger ∧
      ((classify id (staleOracle true)).trigger ∈ (staleOracle true).coveredTriggers ∧
          r'.decision = .payout ∧ r'.amount = lit "100" ∨
        (classify id (staleOracle true)).trigger ∉ (staleOracle true).coveredTriggers ∧
          r'.decision = .review ∧ r'.amount = lit "0") :=
  more_evidence (staleOracle_more true) staleOracle_paid rfl

/-- The exploit scores higher than the oracle failure and is not covered. -/
theorem exploit_hides_oracle_failure : ¬ ∀ e e' r r', MoreEvidence e e' → evaluateClaim id e = .ok r →
    evaluateClaim id e' = .ok r' → r.decision = .payout → r'.decision = .payout := by
  intro h
  have hreview : evaluateClaim id (staleOracle true) = .ok ⟨.review, some .exploit, 1, lit "0"⟩ := by decide +kernel
  exact absurd (h _ _ _ _ (staleOracle_more true) staleOracle_paid hreview rfl) (by decide)

end CasperProof.Agent
