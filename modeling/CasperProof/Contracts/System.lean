/-
  The registry and the insurance vault together.

  The vault reads attestations from the registry of the same state; calls of
  both contracts, by any accounts, interleave at block times that do not go
  back.

  `claim` compares the model id of the backing attestation, which every
  submitter chooses freely, and not its attestor.  `selfBacked_iff` says when an
  account can claim with an attestation of its own.
-/
import CasperProof.Contracts.Custody
import CasperProof.Contracts.Vault

namespace CasperProof.System

variable {τ₁ τ₂ : Type}

/-- The addresses of the two contracts, their tokens, and the claim model. -/
structure Deployment (τ₁ τ₂ : Type) where
  stakeToken : Cep18 τ₁
  usdcToken : Cep18 τ₂
  registry : Address
  vault : Address
  cfg : RegistryConfig
  claimModelId : String

structure World (τ₁ τ₂ : Type) where
  registry : Registry.World τ₁
  vault : Insurance.World τ₂

inductive Label where
  | registry (a : Registry.Label)
  | insurance (env : CallEnv) (c : Insurance.Call) (moves : List Move)
  | usdc (received : ℕ)

/-- `get_attestation` of the contract at an address: the registry's, if it is
    there. -/
def lookup (d : Deployment τ₁ τ₂) (w : World τ₁ τ₂) (a : Address) (id : U64) : Except Revert Attestation :=
  if a = d.registry then Registry.getAttestation w.registry.reg id else .error Registry.Error.notFound

/-- An insurance call reaches `ins`. -/
def InsuranceCall (d : Deployment τ₁ τ₂) (w : World τ₁ τ₂) (env : CallEnv) (c : Insurance.Call)
    (ins : Insurance.State (Tracked τ₂)) : Prop :=
  env.selfAddress = d.vault ∧ env.caller ≠ d.vault ∧ w.registry.clock ≤ env.blockTime ∧
    c.run (Insurance.usdcRef d.usdcToken d.vault) (lookup d w) env w.vault.ins.fresh = .ok ins

inductive Step (d : Deployment τ₁ τ₂) : World τ₁ τ₂ → Label → World τ₁ τ₂ → Prop
  | registry {w a reg} : Registry.Step d.stakeToken d.registry w.registry a reg →
      Step d w (.registry a) ⟨reg, w.vault⟩
  | insurance {w env c ins} : InsuranceCall d w env c ins →
      Step d w (.insurance env c ins.token.moves)
        ⟨⟨w.registry.reg, env.blockTime, w.registry.direct⟩, ⟨ins, w.vault.direct⟩⟩
  | usdc {w n vault} : Insurance.Step d.usdcToken d.vault w.vault (.direct n) vault →
      Step d w (.usdc n) ⟨w.registry, vault⟩

/-- Both contracts just initialised, the vault with the registry's address. -/
structure Initial (d : Deployment τ₁ τ₂) (w : World τ₁ τ₂) : Prop where
  registry : Registry.Initial d.stakeToken d.registry d.cfg w.registry
  vault : ∃ usdcToken premiumBps chain, Insurance.init usdcToken d.registry premiumBps d.claimModelId
    (Insurance.State.deployed (Tracked.mk chain [])) = .ok w.vault.ins
  direct : w.vault.direct = (d.usdcToken.balanceOf w.vault.ins.token.chain d.vault).val

/-- The vault's books balance, and it is configured as deployed. -/
structure Configured (d : Deployment τ₁ τ₂) (w : World τ₁ τ₂) : Prop where
  accounts : Insurance.Accounts d.usdcToken d.vault w.vault
  registry : w.vault.ins.registry = some d.registry
  claimModelId : w.vault.ins.claimModelId = some d.claimModelId

section
variable {d : Deployment τ₁ τ₂} {w₀ w w' : World τ₁ τ₂} {ls : List Label} {a : Label}

theorem Initial.configured (h : Initial d w) : Configured d w := by
  obtain ⟨usdcToken, premiumBps, chain, hi⟩ := h.vault
  obtain ⟨-, hins⟩ := Insurance.init_ok.1 hi
  exact ⟨Insurance.Initial.accounts ⟨⟨_, _, _, _, _, hi⟩, h.direct⟩, by rw [← hins], by rw [← hins]⟩

theorem Step.configured (ht : d.usdcToken.Standard) (hw : Configured d w) (h : Step d w a w') :
    Configured d w' := by
  cases h with
  | registry => exact ⟨hw.accounts, hw.registry, hw.claimModelId⟩
  | insurance hc =>
    obtain ⟨hself, hcaller, -, hr⟩ := hc
    have he := Insurance.call_effect rfl hr
    exact ⟨(Insurance.Step.call hself hcaller hr).accounts ht hw.accounts, he.registry.trans hw.registry,
      he.claimModelId.trans hw.claimModelId⟩
  | usdc hs =>
    refine ⟨hs.accounts ht hw.accounts, ?_, ?_⟩
    · cases hs with | direct => exact hw.registry
    · cases hs with | direct => exact hw.claimModelId

theorem run_configured (ht : d.usdcToken.Standard) (h₀ : Initial d w₀) (h : Run (Step d) w₀ ls w) :
    Configured d w :=
  h.inv h₀.configured fun _ _ _ hw hs => hs.configured ht hw

theorem lookup_ok {id : U64} {att : Attestation} :
    lookup d w d.registry id = .ok att ↔ w.registry.reg.attestations.get id = some att := by
  rw [lookup, if_pos rfl, Registry.getAttestation_ok]

/-! ## Claims -/

/-- The attestation `id` can back a payout of the vault. -/
def Backing (d : Deployment τ₁ τ₂) (w : World τ₁ τ₂) (id : U64) (att : Attestation) : Prop :=
  w.registry.reg.attestations.get id = some att ∧ att.modelId = d.claimModelId ∧ Insurance.backs att.status

/-- A policy of `env.caller` that the vault can pay at `env.blockTime`. -/
structure Payable (d : Deployment τ₁ τ₂) (w : World τ₁ τ₂) (env : CallEnv) (policyId : U64)
    (policy : Insurance.Policy) : Prop where
  stored : w.vault.ins.policies.get policyId = some policy
  holder : policy.holder = env.caller
  active : policy.status = .active
  unexpired : env.blockTime ≤ policy.expiry
  solvent : policy.coverage ≤ d.usdcToken.balanceOf w.vault.ins.token.chain d.vault

/-- **When a claim succeeds.**  The attestor of the backing attestation does not
    occur. -/
theorem claim_succeeds_iff (ht : d.usdcToken.Standard) (hw : Configured d w) {env : CallEnv}
    (hself : env.selfAddress = d.vault) (hcaller : env.caller ≠ d.vault)
    (hclock : w.registry.clock ≤ env.blockTime) {policyId attestationId : U64} {triggerType : String} :
    (∃ ins, InsuranceCall d w env (.claim policyId attestationId triggerType) ins) ↔
      ∃ policy att, Payable d w env policyId policy ∧ Backing d w attestationId att ∧
        triggerType ∈ policy.triggerTypes := by
  constructor
  · rintro ⟨ins, -, -, -, hr⟩
    obtain ⟨policy, s₁, hget, hcl, -, -⟩ := Insurance.claim_ok.1 hr
    obtain ⟨r, att, hreg, hatt, hmodel, hback⟩ := hcl.backed
    obtain rfl : d.registry = r := Option.some.inj (hw.registry.symm.trans hreg)
    have hid : d.claimModelId = att.modelId := Option.some.inj (hw.claimModelId.symm.trans hmodel)
    refine ⟨policy, att, ⟨hget, hcl.holder.symm, hcl.active, hcl.unexpired, ?_⟩,
      ⟨lookup_ok.1 hatt, hid.symm, hback⟩, hcl.covered⟩
    exact hself ▸ hcl.solvent
  · rintro ⟨policy, att, hp, ⟨hatt, hmodel, hback⟩, hcov⟩
    have hne : policy.holder ≠ d.vault := by rw [hp.holder]; exact hcaller
    obtain ⟨k, hk⟩ := Cep18.pay_succeeds (k := w.vault.ins.fresh.token) ht hp.solvent hne
    refine ⟨_, hself, hcaller, hclock, Insurance.claim_ok.2 ⟨policy, _, hp.stored, ?_,
      Insurance.usdcRef_transfer.2 ⟨k, hk, rfl⟩, rfl⟩⟩
    refine ⟨hp.holder.symm, hp.active, hp.unexpired, hcov,
      ⟨d.registry, att, hw.registry, lookup_ok.2 hatt, ?_, hback⟩, hself ▸ hp.solvent, hw.accounts.usdcToken⟩
    rw [hmodel]
    exact hw.claimModelId

/-! ## Claims backed by the claimant -/

/-- The caller could claim with an attestation of its own: it holds a payable
    policy, and it submitted an attestation that can back a payout. -/
def Conflict (d : Deployment τ₁ τ₂) (w : World τ₁ τ₂) (env : CallEnv) : Prop :=
  (∃ policyId policy, Payable d w env policyId policy ∧ policy.triggerTypes ≠ []) ∧
    ∃ id att, Backing d w id att ∧ att.attestor = env.caller

/-- The claims paid so far were backed by others' attestations. -/
def BackedByOthers (w : World τ₁ τ₂) : Prop :=
  ∀ policyId id holder amount triggerType,
    Insurance.Event.claimPaid policyId id holder amount triggerType ∈ w.vault.ins.events →
      ∃ att, w.registry.reg.attestations.get id = some att ∧ att.attestor ≠ holder

/-- A claim is made by an account without a conflict. -/
def Label.unconflicted (d : Deployment τ₁ τ₂) (w : World τ₁ τ₂) : Label → Prop
  | .insurance env (.claim _ _ _) _ => ¬ Conflict d w env
  | _ => True

/-- **Who can claim with an attestation of its own.** -/
theorem selfBacked_iff (ht : d.usdcToken.Standard) (hw : Configured d w) {env : CallEnv}
    (hself : env.selfAddress = d.vault) (hcaller : env.caller ≠ d.vault)
    (hclock : w.registry.clock ≤ env.blockTime) :
    (∃ policyId id triggerType ins att, InsuranceCall d w env (.claim policyId id triggerType) ins ∧
      w.registry.reg.attestations.get id = some att ∧ att.attestor = env.caller) ↔ Conflict d w env := by
  constructor
  · rintro ⟨policyId, id, triggerType, ins, att, hc, hatt, hown⟩
    obtain ⟨policy, att', hp, hb, hcov⟩ := (claim_succeeds_iff ht hw hself hcaller hclock).1 ⟨ins, hc⟩
    obtain rfl : att' = att := Option.some.inj (hb.1.symm.trans hatt)
    exact ⟨⟨policyId, policy, hp, List.ne_nil_of_mem hcov⟩, id, att', hb, hown⟩
  · rintro ⟨⟨policyId, policy, hp, hne⟩, id, att, hb, hown⟩
    obtain ⟨triggerType, hmem⟩ := List.exists_mem_of_ne_nil _ hne
    obtain ⟨ins, hc⟩ := (claim_succeeds_iff ht hw hself hcaller hclock).2 ⟨policy, att, hp, hb, hmem⟩
    exact ⟨policyId, id, triggerType, ins, att, hc, hb.1, hown⟩

/-- The attestor of an attestation never changes. -/
theorem Step.attestor (hw : Registry.WellFormed d.cfg w.registry.reg) (h : Step d w a w') {id : U64}
    {att : Attestation} (hget : w.registry.reg.attestations.get id = some att) :
    ∃ att', w'.registry.reg.attestations.get id = some att' ∧ att'.attestor = att.attestor := by
  cases h with
  | registry hs => exact hs.attestor hw hget
  | insurance => exact ⟨att, hget, rfl⟩
  | usdc => exact ⟨att, hget, rfl⟩

theorem Step.wellFormed (hw : Registry.WellFormed d.cfg w.registry.reg) (h : Step d w a w') :
    Registry.WellFormed d.cfg w'.registry.reg := by
  cases h with
  | registry hs => exact hs.wellFormed hw
  | insurance => exact hw
  | usdc => exact hw

theorem Step.backedByOthers (ht : d.usdcToken.Standard) (hw : Configured d w)
    (hr : Registry.WellFormed d.cfg w.registry.reg) (hb : BackedByOthers w) (hu : a.unconflicted d w)
    (h : Step d w a w') : BackedByOthers w' := by
  intro policyId id holder amount triggerType he
  have hold : Insurance.Event.claimPaid policyId id holder amount triggerType ∈ w.vault.ins.events →
      ∃ att, w'.registry.reg.attestations.get id = some att ∧ att.attestor ≠ holder := by
    intro hmem
    obtain ⟨att, hget, hne⟩ := hb _ _ _ _ _ hmem
    obtain ⟨att', hget', heq⟩ := h.attestor hr hget
    exact ⟨att', hget', heq ▸ hne⟩
  cases h with
  | registry => exact hold he
  | usdc hs => cases hs with | direct => exact hold he
  | @insurance env c ins hc =>
    obtain ⟨e, hev, hholder, hclaim⟩ := Insurance.call_events hc.2.2.2
    rw [show ins.events = w.vault.ins.events ++ [e] from hev, List.mem_append, List.mem_singleton] at he
    rcases he with he | rfl
    · exact hold he
    · obtain rfl := hclaim _ _ _ _ _ rfl
      obtain rfl : holder = env.caller := hholder
      obtain ⟨policy, att, hp, hback, hcov⟩ := (claim_succeeds_iff ht hw hc.1 hc.2.1 hc.2.2.1).1 ⟨ins, hc⟩
      refine ⟨att, hback.1, fun hown => hu ?_⟩
      exact ⟨⟨policyId, policy, hp, List.ne_nil_of_mem hcov⟩, id, att, hback, hown⟩

theorem Initial.backedByOthers (h : Initial d w) : BackedByOthers w := by
  obtain ⟨usdcToken, premiumBps, chain, hi⟩ := h.vault
  obtain ⟨-, hins⟩ := Insurance.init_ok.1 hi
  intro _ _ _ _ _ he
  rw [← hins] at he
  cases he

/-- **Self-backed claims.**  In a run in which no claim is made by an account
    with a conflict, every claim paid was backed by another account's
    attestation; and in every reachable state the claims open to an account are
    all backed by others' attestations exactly if it has no conflict. -/
theorem claims_backed_by_others (ht : d.usdcToken.Standard) (h₀ : Initial d w₀) :
    (∀ ls w, Run (fun w a w' => Step d w a w' ∧ a.unconflicted d w) w₀ ls w → BackedByOthers w) ∧
    ∀ ls w, Run (Step d) w₀ ls w → ∀ env : CallEnv, env.selfAddress = d.vault → env.caller ≠ d.vault →
      w.registry.clock ≤ env.blockTime →
      ((∀ policyId id triggerType ins, InsuranceCall d w env (.claim policyId id triggerType) ins →
        ∃ policy att, w.vault.ins.policies.get policyId = some policy ∧
          w.registry.reg.attestations.get id = some att ∧ att.attestor ≠ policy.holder) ↔
        ¬ Conflict d w env) := by
  constructor
  · intro ls w h
    have hinv : Configured d w ∧ Registry.WellFormed d.cfg w.registry.reg ∧ BackedByOthers w := by
      induction h with
      | nil => exact ⟨h₀.configured, h₀.registry.wellFormed, h₀.backedByOthers⟩
      | snoc _ hs ih =>
        obtain ⟨hc, hr, hb⟩ := ih
        exact ⟨hs.1.configured ht hc, hs.1.wellFormed hr, hs.1.backedByOthers ht hc hr hb hs.2⟩
    exact hinv.2.2
  · intro ls w h env hself hcaller hclock
    have hw := run_configured ht h₀ h
    rw [← selfBacked_iff ht hw hself hcaller hclock]
    constructor
    · rintro hall ⟨policyId, id, triggerType, ins, att, hc, hatt, hown⟩
      obtain ⟨policy, att', hp, hatt', hne⟩ := hall _ _ _ _ hc
      obtain ⟨policy', _, hpay, -, -⟩ := (claim_succeeds_iff ht hw hself hcaller hclock).1 ⟨ins, hc⟩
      obtain rfl : att' = att := Option.some.inj (hatt'.symm.trans hatt)
      obtain rfl : policy = policy' := Option.some.inj (hp.symm.trans hpay.stored)
      exact hne (hown.trans hpay.holder.symm)
    · intro hno policyId id triggerType ins hc
      obtain ⟨policy, att, hp, hb, -⟩ := (claim_succeeds_iff ht hw hself hcaller hclock).1 ⟨ins, hc⟩
      refine ⟨policy, att, hp.stored, hb.1, fun hown => hno ?_⟩
      exact ⟨policyId, id, triggerType, ins, att, hc, hb.1, hown.trans hp.holder⟩

end

/-! ## Concrete runs -/

def demoHolder : Address := .account 1
def demoLp : Address := .account 2
def demoOracle : Address := .account 3

def demoRegistry : Address := .contract 9
def demoVault : Address := .contract 8

def demoClaimModel : String := "casperproof-claimoracle-v1"

def demoDeployment : Deployment Cep18State Cep18State where
  stakeToken := .basic
  usdcToken := .basic
  registry := demoRegistry
  vault := demoVault
  cfg := {
    minStake := 1000
    challengeBond := 500
    disputeWindow := 3600
    treasury := .account 4
    resolver := .account 5
    rewardBps := 5000 }
  claimModelId := demoClaimModel

/-- `a` pays `b` the amount `n`, if it can. -/
def demoFund (a b : Address) (n : U256) (s : Cep18State) : Cep18State :=
  (s.transfer a b n).toOption.getD s

def demoStake : Cep18State :=
  ((demoFund demoHolder demoOracle 5000 (.init demoHolder 10000)).approve demoHolder demoRegistry 5000).approve
    demoOracle demoRegistry 5000

def demoUsdc : Cep18State :=
  ((demoFund demoLp demoHolder 1000 (.init demoLp 10000)).approve demoHolder demoVault 1000).approve
    demoLp demoVault 9000

def demoWorld : World Cep18State Cep18State where
  registry := {
    reg := { Registry.State.deployed ⟨demoStake, []⟩ with
      stakeToken := some (.contract 6)
      config := some demoDeployment.cfg }
    clock := 0
    direct := 0 }
  vault := {
    ins := { Insurance.State.deployed ⟨demoUsdc, []⟩ with
      usdcToken := some (.contract 5)
      registry := some demoRegistry
      premiumBps := 500
      claimModelId := some demoClaimModel }
    direct := 0 }

theorem demo_initial : Initial demoDeployment demoWorld where
  registry := ⟨⟨.contract 6, demoStake, rfl⟩, by decide +kernel⟩
  vault := ⟨.contract 5, 500, demoUsdc, rfl⟩
  direct := by decide +kernel

/-- A call of either contract, by `caller` at `now`. -/
inductive Action where
  | registry (caller : Address) (now : U64) (c : Registry.Call)
  | insurance (caller : Address) (now : U64) (c : Insurance.Call)

/-- Make one call; `none` if it is not possible or reverts. -/
def Action.exec (d : Deployment τ₁ τ₂) (w : World τ₁ τ₂) : Action → Option (World τ₁ τ₂)
  | registry caller now c =>
    if caller ≠ d.registry ∧ w.registry.clock ≤ now then do
      let (_, reg) ← (c.run (Registry.stakeRef d.stakeToken d.registry) ⟨caller, d.registry, now⟩
        w.registry.reg.fresh).toOption
      pure ⟨⟨reg, now, w.registry.direct⟩, w.vault⟩
    else none
  | insurance caller now c =>
    if caller ≠ d.vault ∧ w.registry.clock ≤ now then do
      let ins ← (c.run (Insurance.usdcRef d.usdcToken d.vault) (lookup d w) ⟨caller, d.vault, now⟩
        w.vault.ins.fresh).toOption
      pure ⟨⟨w.registry.reg, now, w.registry.direct⟩, ⟨ins, w.vault.direct⟩⟩
    else none

/-- Make the calls in order. -/
def execAll (d : Deployment τ₁ τ₂) : List Action → World τ₁ τ₂ → Option (World τ₁ τ₂)
  | [], w => some w
  | a :: as, w => do
    let w ← a.exec d w
    execAll d as w

theorem Action.exec_step {d : Deployment τ₁ τ₂} {w w' : World τ₁ τ₂} {a : Action}
    (h : a.exec d w = some w') : ∃ l, Step d w l w' := by
  cases a with
  | registry caller now c =>
    simp only [exec] at h
    split at h
    · rename_i hc
      simp only [Option.bind_eq_bind, Option.bind_eq_some_iff, toOption_eq_some, Option.pure_def,
        Option.some.injEq] at h
      obtain ⟨⟨id, reg⟩, hr, rfl⟩ := h
      have hs := @Registry.Step.call _ d.stakeToken d.registry w.registry ⟨caller, d.registry, now⟩ c id reg
        rfl hc.1 hc.2 hr
      exact ⟨_, .registry hs⟩
    · cases h
  | insurance caller now c =>
    simp only [exec] at h
    split at h
    · rename_i hc
      simp only [Option.bind_eq_bind, Option.bind_eq_some_iff, toOption_eq_some, Option.pure_def,
        Option.some.injEq] at h
      obtain ⟨ins, hr, rfl⟩ := h
      have hcall : InsuranceCall d w ⟨caller, d.vault, now⟩ c ins := ⟨rfl, hc.1, hc.2, hr⟩
      exact ⟨_, .insurance hcall⟩
    · cases h

theorem execAll_run {d : Deployment τ₁ τ₂} {w w' : World τ₁ τ₂} {as : List Action}
    (h : execAll d as w = some w') : ∃ ls, Run (Step d) w ls w' := by
  induction as generalizing w with
  | nil => cases h; exact ⟨[], .nil⟩
  | cons a as ih =>
    simp only [execAll, Option.bind_eq_bind, Option.bind_eq_some_iff] at h
    obtain ⟨w₁, h₁, h₂⟩ := h
    obtain ⟨l, hs⟩ := a.exec_step h₁
    obtain ⟨ls, hr⟩ := ih h₂
    exact ⟨[l] ++ ls, (Run.single hs).append hr⟩

/-- `attestor` submits under the claim model, an LP stakes, and the holder buys
    a policy. -/
def demoCover (attestor : Address) : List Action :=
  [.registry attestor 1 (.submitAttestation {
      modelId := demoClaimModel
      inputHash := .replicate 32 9
      outputHash := .replicate 32 8
      commitment := .replicate 32 7
      uri := "s3://casperproof/claim"
      stake := 1000 }),
   .insurance demoLp 2 (.stake 300),
   .insurance demoHolder 3 (.buyPolicy 100 ["oracle_failure"] 1000)]

theorem demo_cover_run : ∃ ls w, Run (Step demoDeployment) demoWorld ls w ∧ w.registry.clock = 3 := by
  have h : (execAll demoDeployment (demoCover demoOracle) demoWorld).map (fun w => w.registry.clock) =
      some 3 := by decide +kernel
  obtain ⟨w, hw, hclock⟩ := Option.map_eq_some_iff.1 h
  obtain ⟨ls, hr⟩ := execAll_run hw
  exact ⟨ls, w, hr, hclock⟩

theorem claims_backed_by_others_demo : ∃ ls w, Run (Step demoDeployment) demoWorld ls w ∧
    ((∀ policyId id triggerType ins,
        InsuranceCall demoDeployment w ⟨demoHolder, demoVault, 4⟩ (.claim policyId id triggerType) ins →
        ∃ policy att, w.vault.ins.policies.get policyId = some policy ∧
          w.registry.reg.attestations.get id = some att ∧ att.attestor ≠ policy.holder) ↔
      ¬ Conflict demoDeployment w ⟨demoHolder, demoVault, 4⟩) := by
  obtain ⟨ls, w, hr, hclock⟩ := demo_cover_run
  exact ⟨ls, w, hr, (claims_backed_by_others (d := demoDeployment) Cep18.basic_standard demo_initial).2 ls w hr
    ⟨demoHolder, demoVault, 4⟩ rfl (by decide) (by rw [hclock]; decide +kernel)⟩

/-- The holder attests under the claim model himself and drains his coverage. -/
theorem holder_backs_own_claim : ∃ ls w, Run (Step demoDeployment) demoWorld ls w ∧
    Insurance.Event.claimPaid 0 0 demoHolder 100 "oracle_failure" ∈ w.vault.ins.events ∧
    (w.registry.reg.attestations.get 0).map (fun att => att.attestor) = some demoHolder := by
  have h : (execAll demoDeployment
      (demoCover demoHolder ++ [.insurance demoHolder 4 (.claim 0 0 "oracle_failure")]) demoWorld).map
        (fun w => (w.vault.ins.events.getLast?, (w.registry.reg.attestations.get 0).map fun att => att.attestor)) =
      some (some (.claimPaid 0 0 demoHolder 100 "oracle_failure"), some demoHolder) := by decide +kernel
  obtain ⟨w, hw, hout⟩ := Option.map_eq_some_iff.1 h
  obtain ⟨ls, hr⟩ := execAll_run hw
  obtain ⟨hev, hatt⟩ := Prod.mk.inj hout
  exact ⟨ls, w, hr, List.mem_of_getLast? hev, hatt⟩

end CasperProof.System
