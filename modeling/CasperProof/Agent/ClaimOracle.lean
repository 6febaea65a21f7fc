/-
  The claim oracle — `evaluateClaim` of `claim-oracle.ts`.

  Every arithmetic operation is followed by `round`: the identity for exact
  decimal arithmetic, the nearest double for the machine's.
-/
import CasperProof.Sdk.Types

namespace CasperProof.Agent

open Js Sdk

inductive ClaimDecision where
  | payout
  | reject
  | review
deriving DecidableEq, Repr

/-- The string that a decision is. -/
def ClaimDecision.text : ClaimDecision → JsString
  | payout => lit "payout"
  | reject => lit "reject"
  | review => lit "review"

/-- Observed evidence; an absent signal counts as `false`. -/
structure ClaimEvidence where
  policyId : JsNumber
  coveredTriggers : List TriggerType
  coverage : JsString
  lossAmount : Option JsString := none
  fundsDrained : Bool := false
  exploitDetected : Bool := false
  oracleDeviationBps : Option JsNumber := none
  oracleStale : Bool := false
  agentMisbehaved : Bool := false
  agentSlashed : Bool := false
  maliciousProposal : Bool := false
  governanceTakeover : Bool := false

structure ClaimOracleResult where
  decision : ClaimDecision
  triggerType : Option TriggerType
  confidence : ℚ
  amount : JsString
deriving DecidableEq

structure TriggerScore where
  trigger : TriggerType
  confidence : ℚ

section
variable (round : ℚ → ℚ)

/-- `c += k` if the signal is there. -/
def addSignal (signal : Bool) (k c : ℚ) : ℚ := if signal then round (c + round k) else c

def scoreExploit (e : ClaimEvidence) : ℚ :=
  addSignal round e.fundsDrained 0.5 (addSignal round e.exploitDetected 0.6 0)

/-- What an oracle deviation contributes, from 500 basis points on. -/
def deviationScore : JsNumber → Option ℚ
  | .real q =>
    if 500 ≤ q then some (min (round 0.6) (round (round 0.3 + round (round (q - 500) / 10000)))) else none
  | .posInf => some (round 0.6)
  | .negZero | .negInf | .nan => none

def scoreOracleFailure (e : ClaimEvidence) : ℚ :=
  let c := addSignal round e.oracleStale 0.55 0
  match e.oracleDeviationBps.bind (deviationScore round) with
  | some k => round (c + k)
  | none => c

def scoreAgentError (e : ClaimEvidence) : ℚ :=
  addSignal round e.agentMisbehaved 0.45 (addSignal round e.agentSlashed 0.6 0)

def scoreGovernanceAttack (e : ClaimEvidence) : ℚ :=
  addSignal round e.governanceTakeover 0.5 (addSignal round e.maliciousProposal 0.55 0)

/-- The highest confidence; the first of several. -/
def classify (e : ClaimEvidence) : TriggerScore :=
  [⟨.oracleFailure, scoreOracleFailure round e⟩, ⟨.agentError, scoreAgentError round e⟩,
    ⟨.governanceAttack, scoreGovernanceAttack round e⟩].foldl
      (fun best current => if best.confidence < current.confidence then current else best)
      (⟨.exploit, scoreExploit round e⟩ : TriggerScore)

/-- `Math.round(value * 100) / 100`. -/
def round2 (value : ℚ) : ℚ := round (⌊round (value * 100) + 1 / 2⌋ / 100)

/-- The payout, capped at the loss; `BigInt` throws on the text that it cannot
    read. -/
def payoutAmount (e : ClaimEvidence) : Except JsString JsString :=
  match e.lossAmount with
  | none => .ok e.coverage
  | some lossAmount => do
    let loss ← orFail (bigInt lossAmount) lossAmount
    let coverage ← orFail (bigInt e.coverage) e.coverage
    pure (intText (if loss < coverage then loss else coverage))

def evaluateClaim (evidence : ClaimEvidence) : Except JsString ClaimOracleResult :=
  let best := classify round evidence
  let confidence := round2 round (min 1 best.confidence)
  if confidence ≤ 0 then .ok ⟨.reject, none, 0, lit "0"⟩
  else if round 0.7 ≤ confidence then
    if best.trigger ∉ evidence.coveredTriggers then .ok ⟨.review, some best.trigger, confidence, lit "0"⟩
    else do
      let amount ← payoutAmount evidence
      pure ⟨.payout, some best.trigger, confidence, amount⟩
  else if round 0.4 ≤ confidence then .ok ⟨.review, some best.trigger, confidence, lit "0"⟩
  else .ok ⟨.reject, some best.trigger, confidence, lit "0"⟩

end

/-- **A payout** is for a covered trigger, with the payout amount; nothing else
    has an amount. -/
theorem evaluateClaim_ok {round : ℚ → ℚ} {e : ClaimEvidence} {r : ClaimOracleResult}
    (h : evaluateClaim round e = .ok r) :
    (r.decision = .payout ∧ (∃ t ∈ e.coveredTriggers, r.triggerType = some t) ∧ round 0.7 ≤ r.confidence ∧
      payoutAmount e = .ok r.amount) ∨
    r.decision ≠ .payout ∧ r.amount = lit "0" := by
  simp only [evaluateClaim] at h
  split_ifs at h with hzero hhigh hcovered hmid
  · cases h
    exact .inr ⟨by simp, rfl⟩
  · simp only [bind_eq_ok, pure_eq_ok] at h
    obtain ⟨amount, hamount, rfl⟩ := h
    exact .inl ⟨rfl, ⟨_, hcovered, rfl⟩, hhigh, hamount⟩
  all_goals
    cases h
    exact .inr ⟨by simp, rfl⟩

end CasperProof.Agent
