/-
  When a policy is expired — on chain, and in the mock backend.

  The descriptor passes the expiry through as it is, in Unix seconds; `claim`
  compares it with a block time in milliseconds, `submitClaim` with a clock in
  seconds.  `expiry_agrees_iff`: the two agree while neither has expired and
  after both have, and never in between.
-/
import CasperProof.Contracts.System
import CasperProof.Sdk.MockBackend
import CasperProof.Sdk.Onchain

namespace CasperProof.Sdk

open Js

variable {τ H : Type}

/-- The claim meets every condition but the expiry's: it succeeds at some block time. -/
def OtherwiseClaimable (tok : Insurance.UsdcRef (Insurance.State τ))
    (reg : Address → U64 → Except Revert CasperProof.Attestation) (env : CallEnv) (policyId attestationId : U64)
    (triggerType : String) (s : Insurance.State τ) : Prop :=
  ∃ blockTime s', Insurance.claim tok reg { env with blockTime } policyId attestationId triggerType s = .ok s'

/-- **The contract's expiry check.** -/
theorem claim_expired_iff {tok : Insurance.UsdcRef (Insurance.State τ)}
    {reg : Address → U64 → Except Revert CasperProof.Attestation} {env : CallEnv} {policyId attestationId : U64}
    {triggerType : String} {policy : Insurance.Policy} {s : Insurance.State τ}
    (hget : s.policies.get policyId = some policy)
    (h : OtherwiseClaimable tok reg env policyId attestationId triggerType s) :
    Insurance.claim tok reg env policyId attestationId triggerType s = .error Insurance.Error.policyExpired ↔
      policy.expiry < env.blockTime := by
  obtain ⟨_, _, hclaim⟩ := h
  obtain ⟨policy', s₁, hget', hc, hpay, -⟩ := Insurance.claim_ok.1 hclaim
  obtain rfl : policy' = policy := Option.some.inj (hget'.symm.trans hget)
  constructor
  · intro herr
    by_contra hle
    have hc' : Insurance.Claimable tok reg env policy' attestationId triggerType s :=
      ⟨hc.holder, hc.active, not_lt.1 hle, hc.covered, hc.backed, hc.solvent, hc.configured⟩
    have hok := Insurance.claim_ok.2 ⟨policy', s₁, hget, hc', hpay, rfl⟩
    rw [hok] at herr
    cases herr
  · intro hlt
    have hstored : Insurance.getPolicy s policyId = .ok policy' := Insurance.getPolicy_ok.2 hget
    rw [Insurance.claim, hstored]
    simp only [ok_bind, failIf_neg (not_not.2 hc.holder), failIf_neg (not_not.2 hc.active), failIf_pos hlt,
      error_bind]

/-- An active policy is expired at the whole second of `ms` milliseconds iff its
    expiry is not later. -/
theorem isExpired_iff {env : MockEnv H} {policy : Policy} {t ms : ℕ} (hactive : policy.status = .active)
    (ht : policy.expiry.toInt? = some (t : ℤ)) (hnow : env.now = number (ms / 1000)) :
    isExpired env policy ↔ 1000 * t ≤ ms := by
  have hle : numberLe policy.expiry env.now ↔ t ≤ ms / 1000 := by
    rw [hnow, number]
    cases hx : policy.expiry with
    | real q =>
      rw [hx, JsNumber.toInt?, Option.ite_none_right_eq_some, Option.some.injEq] at ht
      obtain ⟨hden, hnum⟩ := ht
      have hq : q = (t : ℚ) := by rw [← Rat.num_div_den q, hden, hnum]; simp
      rw [numberLe, hq, decide_eq_true_eq, Nat.cast_le]
    | negZero =>
      rw [hx, JsNumber.toInt?, Option.some.injEq] at ht
      have ht0 : t = 0 := by exact_mod_cast ht.symm
      simp [numberLe, ht0]
    | posInf | negInf | nan => rw [hx] at ht; cases ht
  rw [isExpired, hactive]
  simp only [reduceCtorEq, false_or, hle]
  omega

theorem createPolicy_returns {args : CreatePolicyArgs} {m m' : MockState H} {policy : Policy} :
    (createPolicy args).Returns m policy m' ↔ newPolicy args m.nextPolicyId = policy ∧
      (m.setNextPolicyId (m.nextPolicyId + 1)).setPolicy m.nextPolicyId policy = m' := by
  simp only [createPolicy, Op.bind_returns, Op.get_returns, Op.modify_returns, Op.pure_returns]
  constructor
  · rintro ⟨_, _, ⟨rfl, rfl⟩, _, _, h, rfl, rfl⟩
    exact ⟨rfl, h⟩
  · rintro ⟨rfl, h⟩
    exact ⟨m, m, ⟨rfl, rfl⟩, ⟨⟩, m', h, rfl, rfl⟩

/-- **Expiry across the stack.**  A policy is bought through the descriptor and
    created in the mock, both with the expiry `t` in seconds (`expiry` in the
    descriptor).  At a block time of `ms` milliseconds the contract and the
    mock agree on whether it is expired iff it is not, by either measure, or is
    by both. -/
theorem expiry_agrees_iff {args : BuyPolicyCallArgs} {call : ContractCall} {coverage : U256}
    {triggerTypes : List String} {expiry : U64} (hcall : buyPolicyCall args = .ok call)
    (hparams : buyPolicyParams call = some (coverage, triggerTypes, expiry))
    {tok : Insurance.UsdcRef (Insurance.State τ)} {reg : Address → U64 → Except Revert CasperProof.Attestation}
    {buyEnv env : CallEnv} {s₀ s₁ s : Insurance.State τ} {policyId attestationId : U64} {triggerType : String}
    (hbuy : Insurance.buyPolicy tok buyEnv coverage triggerTypes expiry s₀ = .ok (policyId, s₁))
    (hkept : s.policies.get policyId = s₁.policies.get policyId)
    (hclaim : OtherwiseClaimable tok reg env policyId attestationId triggerType s)
    {menv : MockEnv H} {margs : CreatePolicyArgs} {m₀ m₁ m : MockState H} {mpolicy : Policy}
    (hcreate : (createPolicy margs).Returns m₀ mpolicy m₁) (hsame : margs.expiry = args.expiry)
    (hmkept : m.policies.get mpolicy.id = m₁.policies.get mpolicy.id)
    (hnow : menv.now = number (env.blockTime.val / 1000)) (mattestationId : ℕ) :
    ∃ t : ℕ, args.expiry.toInt? = some (t : ℤ) ∧ (t ≤ maxSafeInteger → expiry.val = t) ∧
      ((Insurance.claim tok reg env policyId attestationId triggerType s = .error Insurance.Error.policyExpired ↔
          ∃ m', (submitClaim menv mpolicy.id mattestationId).Throws m (.policyExpired mpolicy.id) m') ↔
        env.blockTime.val ≤ expiry.val ∧ env.blockTime.val < 1000 * t ∨
          expiry.val < env.blockTime.val ∧ 1000 * t ≤ env.blockTime.val) := by
  obtain ⟨t, ht, hexpiry⟩ := buyPolicyCall_expiry hcall hparams
  refine ⟨t, ht, hexpiry, ?_⟩
  obtain ⟨policy, hget, hpolicy⟩ : ∃ policy, s.policies.get policyId = some policy ∧ policy.expiry = expiry := by
    obtain ⟨a, s', count, bps, -, -, -, -, rfl, -, rfl⟩ := Insurance.buyPolicy_ok.1 hbuy
    exact ⟨_, hkept.trans (Mapping.get_set_self _ _ _), rfl⟩
  obtain ⟨rfl, rfl⟩ := createPolicy_returns.1 hcreate
  have hstored : m.policies.get (newPolicy margs m₀.nextPolicyId).id = some (newPolicy margs m₀.nextPolicyId) :=
    hmkept.trans (Mapping.get_set_self _ _ _)
  have hexp : (newPolicy margs m₀.nextPolicyId).expiry.toInt? = some (t : ℤ) := (congrArg _ hsame).trans ht
  rw [claim_expired_iff hget hclaim, submitClaim_expired_iff hstored, isExpired_iff rfl hexp hnow, hpolicy, Fin.lt_def]
  omega

/-! ## The year 2100, in seconds -/

/-- The call environment of a claim by the holder. -/
def demoClaimEnv (blockTime : U64) : CallEnv := ⟨System.demoHolder, System.demoVault, blockTime⟩

def demoUsdcRef : Insurance.UsdcRef (Insurance.State (Tracked Cep18State)) :=
  Insurance.usdcRef System.demoDeployment.usdcToken System.demoVault

def demoCallArgs : BuyPolicyCallArgs := ⟨.text (lit "100"), [lit "oracle_failure"], number 4102444800⟩

def demoCall : ContractCall where
  contract := .insurance
  entryPoint := lit "buy_policy"
  args := [
    ⟨lit "coverage", .u256, .text (lit "100")⟩,
    ⟨lit "trigger_types", .stringList, .texts [lit "oracle_failure"]⟩,
    ⟨lit "expiry", .u64, .text (lit "4102444800")⟩]

theorem demo_call : buyPolicyCall demoCallArgs = .ok demoCall := by decide +kernel

theorem demo_params : buyPolicyParams demoCall = some (100, ["oracle_failure"], 4102444800) := by decide +kernel

/-- The holder buys the policy of `demoCall`; an oracle attestation and stake are there to pay it. -/
theorem demo_bought : ∃ reg s₀ s₁,
    Insurance.buyPolicy demoUsdcRef (demoClaimEnv 3) 100 ["oracle_failure"] 4102444800 s₀ = .ok (0, s₁) ∧
      ∀ now, OtherwiseClaimable demoUsdcRef reg (demoClaimEnv now) 0 0 "oracle_failure" s₁ := by
  have h : ((System.execAll System.demoDeployment ((System.demoCover System.demoOracle).take 2)
      System.demoWorld).bind fun w =>
        (Insurance.buyPolicy demoUsdcRef (demoClaimEnv 3) 100 ["oracle_failure"] 4102444800
          w.vault.ins.fresh).toOption.bind fun (id, s) =>
            (Insurance.claim demoUsdcRef (System.lookup System.demoDeployment w) (demoClaimEnv 4) 0 0
              "oracle_failure" s).toOption.map fun _ => id) = some 0 := by decide +kernel
  obtain ⟨w, -, h⟩ := Option.bind_eq_some_iff.1 h
  obtain ⟨⟨id, s₁⟩, hbuy, h⟩ := Option.bind_eq_some_iff.1 h
  obtain ⟨s', hclaim, rfl⟩ := Option.map_eq_some_iff.1 h
  exact ⟨_, _, s₁, toOption_eq_some.1 hbuy, fun _ => ⟨4, s', toOption_eq_some.1 hclaim⟩⟩

/-- A mock at a time in seconds, without event handlers. -/
def demoMock (now : ℕ) : MockEnv Empty where
  blake2b256 := fun _ => .replicate 32 0
  now := number now
  throws := fun h => h.elim

def demoPolicyArgs : CreatePolicyArgs where
  coverage := lit "100"
  premium := lit "5"
  triggerTypes := [.oracleFailure]
  expiry := number 4102444800
  holder := none

def demoAttestationArgs : SubmitAttestationArgs where
  modelId := lit "casperproof-claimoracle-v1"
  input := .null
  output := .null
  timestamp := none
  uri := lit "mem://1#trigger=oracle_failure"
  stake := lit "1000000000"
  attestor := none

theorem expiry_agrees_iff_demo : ∃ reg s m, ∃ t : ℕ, demoCallArgs.expiry.toInt? = some (t : ℤ) ∧
    (t ≤ maxSafeInteger → (4102444800 : U64).val = t) ∧
      ((Insurance.claim demoUsdcRef reg (demoClaimEnv 1718600000000) 0 0 "oracle_failure" s =
            .error Insurance.Error.policyExpired ↔
          ∃ m', (submitClaim (demoMock 1718600000) 1 1).Throws m (.policyExpired 1) m') ↔
        (1718600000000 : U64).val ≤ (4102444800 : U64).val ∧ (1718600000000 : U64).val < 1000 * t ∨
          (4102444800 : U64).val < (1718600000000 : U64).val ∧ 1000 * t ≤ (1718600000000 : U64).val) := by
  obtain ⟨reg, s₀, s₁, hbuy, hclaim⟩ := demo_bought
  exact ⟨reg, s₁, _, expiry_agrees_iff demo_call demo_params hbuy rfl (hclaim 1718600000000)
    (createPolicy_returns.2 ⟨rfl, rfl⟩ : (createPolicy demoPolicyArgs).Returns .fresh _ _) rfl rfl rfl 1⟩

/-- In June 2024 a policy until the year 2100 is expired on chain, and the mock pays it. -/
theorem seconds_expired_on_chain :
    buyPolicyCall demoCallArgs = .ok demoCall ∧
    buyPolicyParams demoCall = some (100, ["oracle_failure"], 4102444800) ∧
    (∃ reg s₀ s₁,
      Insurance.buyPolicy demoUsdcRef (demoClaimEnv 3) 100 ["oracle_failure"] 4102444800 s₀ = .ok (0, s₁) ∧
      OtherwiseClaimable demoUsdcRef reg (demoClaimEnv 1718600000000) 0 0 "oracle_failure" s₁ ∧
      Insurance.claim demoUsdcRef reg (demoClaimEnv 1718600000000) 0 0 "oracle_failure" s₁ =
        .error Insurance.Error.policyExpired) ∧
    demoPolicyArgs.expiry = demoCallArgs.expiry ∧
    ((do
      let policy ← createPolicy demoPolicyArgs
      let attestation ← submitAttestation (demoMock 1718600000) demoAttestationArgs
      let result ← submitClaim (demoMock 1718600000) policy.id attestation.id
      pure result.paid : BackendOp Empty Bool) .fresh).1.toOption = some true := by
  refine ⟨demo_call, demo_params, ?_, rfl, by decide +kernel⟩
  obtain ⟨reg, s₀, s₁, hbuy, hclaim⟩ := demo_bought
  obtain ⟨a, s', count, bps, -, -, -, -, hid, -, hs₁⟩ := Insurance.buyPolicy_ok.1 hbuy
  have hget : s₁.policies.get 0 = some (Insurance.newPolicy (demoClaimEnv 3) 100 ["oracle_failure"] 4102444800
      (wordDiv bps bpsDenom) 0) := by
    rw [hs₁]
    exact Mapping.get_set_self _ _ _
  have hlt : (4102444800 : U64) < 1718600000000 := by decide +kernel
  exact ⟨reg, s₀, s₁, hbuy, hclaim _, (claim_expired_iff hget (hclaim _)).2 hlt⟩

end CasperProof.Sdk
