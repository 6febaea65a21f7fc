/-
  Oracle decisions and payouts on chain.

  The registry holds hashes of what the claim oracle decided, and `claim` does
  not look at them: of an attestation it reads the model id and the status
  (`claim_congr`).  `claim_ignores_decision`: in every reachable state in which
  the attestations under the claim model commit to evaluations of the oracle, a
  claim succeeds exactly if the policy is payable and its trigger covered, and
  some such attestation stands — whatever was decided, for whatever policy.
-/
import CasperProof.Agent.ClaimOracle
import CasperProof.Commitment.Commitment
import CasperProof.Contracts.System

namespace CasperProof.Agent

open Js Commitment Sdk
open CasperProof.System (Deployment World Label Initial Step InsuranceCall Payable Backing Configured)

/-! ## Committed evaluations -/

/-- A trigger type, or `null`. -/
def triggerValue (triggerType : Option TriggerType) : Value := triggerType.elim .null fun t => .str t.text

/-- The attested input of an evaluation. -/
def claimInput (evidence : ClaimEvidence) (result : ClaimOracleResult) : Value :=
  .obj [(lit "policyId", .num evidence.policyId), (lit "trigger", triggerValue result.triggerType)]

/-- The attested output. -/
def claimOutput (result : ClaimOracleResult) : Value :=
  .obj [(lit "decision", .str result.decision.text), (lit "triggerType", triggerValue result.triggerType),
    (lit "amount", .str result.amount)]

/-- The attestation has the hashes of the oracle's evaluation of some evidence. -/
def Commits (blake2b256 : Blake2b) (round : ℚ → ℚ) (att : CasperProof.Attestation) (evidence : ClaimEvidence)
    (result : ClaimOracleResult) : Prop :=
  evaluateClaim round evidence = .ok result ∧ ∃ timestamp,
    computeCommitment blake2b256 ⟨claimInput evidence result, claimOutput result, lit att.modelId, timestamp⟩ =
      .ok ⟨toHex att.inputHash.toList, toHex att.outputHash.toList, toHex att.commitment.toList⟩

/-! ## What a claim reads -/

/-- The part of an attestation that `claim` reads. -/
def visible (att : CasperProof.Attestation) : String × AttestationStatus := (att.modelId, att.status)

section
variable {τ τ₁ τ₂ : Type}

/-- **Nothing else of an attestation is read.** -/
theorem claim_congr {tok : Insurance.UsdcRef (Insurance.State τ)}
    {reg reg' : Address → U64 → Except Revert CasperProof.Attestation}
    (h : ∀ a id, (reg a id).map visible = (reg' a id).map visible) (env : CallEnv) (policyId attestationId : U64)
    (triggerType : String) (s : Insurance.State τ) :
    Insurance.claim tok reg env policyId attestationId triggerType s =
      Insurance.claim tok reg' env policyId attestationId triggerType s := by
  have hread : ∀ {β : Type} (a : Address) (f : String × AttestationStatus → Except Revert β),
      (reg a attestationId >>= fun att => f (visible att)) = reg' a attestationId >>= fun att => f (visible att) := by
    intro β a f
    have ha := h a attestationId
    cases hr : reg a attestationId with
    | error e =>
      cases hr' : reg' a attestationId with
      | error e' => rw [hr, hr'] at ha; cases ha; rfl
      | ok att' => rw [hr, hr'] at ha; cases ha
    | ok att =>
      cases hr' : reg' a attestationId with
      | error e' => rw [hr, hr'] at ha; cases ha
      | ok att' =>
        rw [hr, hr'] at ha
        rw [ok_bind, ok_bind, Except.ok.inj ha]
  unfold Insurance.claim
  refine bind_congr fun policy => bind_congr fun _ => bind_congr fun _ => bind_congr fun _ => bind_congr fun _ =>
    bind_congr fun registry => ?_
  exact hread registry fun x => do
    let claimModel ← orFail s.claimModelId Insurance.Error.badConfig
    failIf (x.1 ≠ claimModel) Insurance.Error.unauthorized
    failIf (¬ Insurance.backs x.2) Insurance.Error.attestationNotActive
    let balance ← Insurance.vaultBalance tok env s
    failIf (balance < policy.coverage) Insurance.Error.vaultInsolvent
    let s := s.setPolicy policyId (Insurance.claimedPolicy policy)
    let _ ← s.usdc
    let s ← tok.transfer 0 policy.holder policy.coverage s
    pure (s.emit (.claimPaid policyId attestationId policy.holder policy.coverage triggerType))

/-- Two states that differ in their attestations only, and only in what `claim`
    does not read: the evaluations committed to, for example. -/
structure SameForClaims (w w' : World τ₁ τ₂) : Prop where
  vault : w.vault = w'.vault
  clock : w.registry.clock = w'.registry.clock
  visible : ∀ id, (w.registry.reg.attestations.get id).map visible = (w'.registry.reg.attestations.get id).map visible

theorem insuranceCall_claim_congr {d : Deployment τ₁ τ₂} {w w' : World τ₁ τ₂} (h : SameForClaims w w') (env : CallEnv)
    (policyId attestationId : U64) (triggerType : String) (ins : Insurance.State (Tracked τ₂)) :
    InsuranceCall d w env (.claim policyId attestationId triggerType) ins ↔
      InsuranceCall d w' env (.claim policyId attestationId triggerType) ins := by
  have hlookup : ∀ a id, (System.lookup d w a id).map visible = (System.lookup d w' a id).map visible := by
    intro a id
    unfold System.lookup
    split
    · have hid := h.visible id
      unfold Registry.getAttestation
      cases hw : w.registry.reg.attestations.get id with
      | none =>
        cases hw' : w'.registry.reg.attestations.get id with
        | none => rfl
        | some att' => rw [hw, hw'] at hid; cases hid
      | some att =>
        cases hw' : w'.registry.reg.attestations.get id with
        | none => rw [hw, hw'] at hid; cases hid
        | some att' =>
          rw [hw, hw'] at hid
          exact congrArg Except.ok (Option.some.inj hid)
    · rfl
  simp only [InsuranceCall, Insurance.Call.run, h.vault, h.clock, claim_congr hlookup]

/-! ## Claims -/

theorem run_wellFormed {d : Deployment τ₁ τ₂} {w₀ w : World τ₁ τ₂} {ls : List Label} (h₀ : Initial d w₀)
    (h : Run (Step d) w₀ ls w) : Registry.WellFormed d.cfg w.registry.reg :=
  h.inv h₀.registry.wellFormed fun _ _ _ hw hs => hs.wellFormed hw

/-- **Claims and decisions.**  In a reachable state in which every attestation
    under the claim model commits to an evaluation of the oracle, a claim
    succeeds exactly if the policy is the caller's and payable, the trigger is in
    its list, and the attestation is one of these and stands; the evaluation
    may be any.  And the same claims succeed in every state that differs in
    what attestations commit to. -/
theorem claim_ignores_decision {blake2b256 : Blake2b} {round : ℚ → ℚ} {d : Deployment τ₁ τ₂} {w₀ w : World τ₁ τ₂}
    {ls : List Label} (ht : d.usdcToken.Standard) (h₀ : Initial d w₀) (hrun : Run (Step d) w₀ ls w)
    (hcommit : ∀ id att, w.registry.reg.attestations.get id = some att → att.modelId = d.claimModelId →
      ∃ evidence result, Commits blake2b256 round att evidence result)
    {env : CallEnv} (hself : env.selfAddress = d.vault) (hcaller : env.caller ≠ d.vault)
    (hclock : w.registry.clock ≤ env.blockTime) (policyId attestationId : U64) (triggerType : String) :
    ((∃ ins, InsuranceCall d w env (.claim policyId attestationId triggerType) ins) ↔
      ∃ policy att evidence result, Payable d w env policyId policy ∧ triggerType ∈ policy.triggerTypes ∧
        Backing d w attestationId att ∧ Commits blake2b256 round att evidence result) ∧
    ∀ w', SameForClaims w w' → ∀ ins, InsuranceCall d w env (.claim policyId attestationId triggerType) ins ↔
      InsuranceCall d w' env (.claim policyId attestationId triggerType) ins := by
  have hw := System.run_configured ht h₀ hrun
  refine ⟨?_, fun w' h ins => insuranceCall_claim_congr h env policyId attestationId triggerType ins⟩
  rw [System.claim_succeeds_iff ht hw hself hcaller hclock]
  constructor
  · rintro ⟨policy, att, hp, hb, hcov⟩
    obtain ⟨evidence, result, hc⟩ := hcommit _ att hb.1 hb.2.1
    exact ⟨policy, att, evidence, result, hp, hcov, hb, hc⟩
  · rintro ⟨policy, att, -, -, hp, hcov, hb, -⟩
    exact ⟨policy, att, hp, hb, hcov⟩

end

/-! ## A rejected claim -/

/-- No evidence, about policy 7. -/
def noEvidence : ClaimEvidence where
  policyId := number 7
  coveredTriggers := [.exploit]
  coverage := lit "100"

def rejection : ClaimOracleResult := ⟨.reject, none, 0, lit "0"⟩

/-- The digest of a value that is accepted. -/
def demoHash (v : Value) : Hash := demoDigest ((canonicalBytes v).toOption.getD [])

/-- The rejection, attested under the claim model. -/
def rejectionArgs : Registry.SubmitArgs where
  modelId := System.demoClaimModel
  inputHash := demoHash (claimInput noEvidence rejection)
  outputHash := demoHash (claimOutput rejection)
  commitment := demoDigest (concatBytes [(demoHash (claimInput noEvidence rejection)).toList,
    (demoHash (claimOutput rejection)).toList, textEncode (lit System.demoClaimModel), leBytes 8 1718600000])
  uri := "s3://casperproof-payloads/claim"
  stake := 1000

def rejectionAtt : CasperProof.Attestation :=
  Registry.newAttestation ⟨System.demoOracle, System.demoRegistry, 1⟩ rejectionArgs 0

theorem commits_rejection : Commits demoDigest id rejectionAtt noEvidence rejection :=
  ⟨by decide +kernel, number 1718600000, by decide +kernel⟩

/-- The oracle attests the rejection; an LP stakes and the holder buys policy 0. -/
def rejectedCover : List System.Action :=
  .registry System.demoOracle 1 (.submitAttestation rejectionArgs) :: (System.demoCover System.demoOracle).drop 1

theorem rejected_run : ∃ ls w ls' w',
    Run (Step System.demoDeployment) System.demoWorld ls w ∧ Run (Step System.demoDeployment) w ls' w' ∧
    w.registry.clock = 3 ∧
    (∀ id att, w.registry.reg.attestations.get id = some att ↔ id = 0 ∧ att = rejectionAtt) ∧
    Insurance.Event.claimPaid 0 0 System.demoHolder 100 "oracle_failure" ∈ w'.vault.ins.events := by
  have h : ((System.execAll System.demoDeployment rejectedCover System.demoWorld).bind fun w =>
      (System.execAll System.demoDeployment [.insurance System.demoHolder 4 (.claim 0 0 "oracle_failure")] w).map
        fun w' => (w.registry.clock, w.registry.reg.count, w.registry.reg.attestations.get 0,
          w'.vault.ins.events.getLast?)) =
      some (3, 1, some rejectionAtt, some (.claimPaid 0 0 System.demoHolder 100 "oracle_failure")) := by
    decide +kernel
  obtain ⟨w, hw, h⟩ := Option.bind_eq_some_iff.1 h
  obtain ⟨w', hw', hout⟩ := Option.map_eq_some_iff.1 h
  simp only [Prod.mk.injEq] at hout
  obtain ⟨hclock, hcount, hatt, hpaid⟩ := hout
  obtain ⟨ls, hr⟩ := System.execAll_run hw
  obtain ⟨ls', hr'⟩ := System.execAll_run hw'
  refine ⟨ls, w, ls', w', hr, hr', hclock, fun id att => ?_, List.mem_of_getLast? hpaid⟩
  constructor
  · intro hget
    have hlt := Registry.stored_lt (run_wellFormed System.demo_initial hr) hget
    obtain rfl : id = 0 := by
      rw [hcount, Fin.lt_def] at hlt
      exact Fin.ext (Nat.lt_one_iff.1 hlt)
    exact ⟨rfl, Option.some.inj (hget.symm.trans hatt)⟩
  · rintro ⟨rfl, rfl⟩
    exact hatt

theorem claim_ignores_decision_demo : ∃ ls w, Run (Step System.demoDeployment) System.demoWorld ls w ∧
    ((∃ ins, InsuranceCall System.demoDeployment w ⟨System.demoHolder, System.demoVault, 4⟩
        (.claim 0 0 "oracle_failure") ins) ↔
      ∃ policy att evidence result,
        Payable System.demoDeployment w ⟨System.demoHolder, System.demoVault, 4⟩ 0 policy ∧
        "oracle_failure" ∈ policy.triggerTypes ∧ Backing System.demoDeployment w 0 att ∧
        Commits demoDigest id att evidence result) ∧
    ∀ w', SameForClaims w w' → ∀ ins,
      InsuranceCall System.demoDeployment w ⟨System.demoHolder, System.demoVault, 4⟩
          (.claim 0 0 "oracle_failure") ins ↔
        InsuranceCall System.demoDeployment w' ⟨System.demoHolder, System.demoVault, 4⟩
          (.claim 0 0 "oracle_failure") ins := by
  obtain ⟨ls, w, -, -, hr, -, hclock, hatts, -⟩ := rejected_run
  refine ⟨ls, w, hr, claim_ignores_decision (d := System.demoDeployment) Cep18.basic_standard System.demo_initial hr
    ?_ rfl (by decide) (by rw [hclock]; decide +kernel) 0 0 "oracle_failure"⟩
  intro id att hget _
  obtain ⟨-, rfl⟩ := (hatts id att).1 hget
  exact ⟨noEvidence, rejection, commits_rejection⟩

/-- The holder of policy 0 is paid on the rejection of a claim on policy 7. -/
theorem rejected_claim_is_paid : ∃ ls w ls' w',
    Run (Step System.demoDeployment) System.demoWorld ls w ∧ Run (Step System.demoDeployment) w ls' w' ∧
    (∀ id att, w.registry.reg.attestations.get id = some att ↔ id = 0 ∧ att = rejectionAtt) ∧
    Commits demoDigest id rejectionAtt noEvidence rejection ∧
    rejection.decision = .reject ∧ rejection.triggerType = none ∧ noEvidence.policyId ≠ number 0 ∧
    Insurance.Event.claimPaid 0 0 System.demoHolder 100 "oracle_failure" ∈ w'.vault.ins.events := by
  obtain ⟨ls, w, ls', w', hr, hr', -, hatts, hpaid⟩ := rejected_run
  exact ⟨ls, w, ls', w', hr, hr', hatts, commits_rejection, rfl, rfl, by decide, hpaid⟩

end CasperProof.Agent
