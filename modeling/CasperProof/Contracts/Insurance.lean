/-
  The `Insurance` contract.

  Every entry point of `insurance.rs` is a function from the contract's state to
  its next state or a `Revert`.  The USDC token and the registry are parameters:
  `UsdcRef` for the token calls, and a lookup for the cross-contract read of the
  backing attestation.

  `buyPolicy_ok`, `claim_ok`, `stake_ok` and `unstake_ok` say exactly when a call
  succeeds and what it does; nothing else unfolds the entry points.
-/
import CasperProof.Contracts.Token
import Mathlib.Tactic.Simps.Basic

namespace CasperProof.Insurance

/-- `insurance::Error`. -/
inductive Error where
  | policyNotFound
  | policyExpired
  | triggerNotCovered
  | policyNotActive
  | unauthorized
  | vaultInsolvent
  | attestationNotActive
  | insufficientStakedBalance
  | badConfig
  | zeroAmount
deriving DecidableEq, Repr

def Error.code : Error → ℕ
  | policyNotFound => 20
  | policyExpired => 21
  | triggerNotCovered => 22
  | policyNotActive => 23
  | unauthorized => 24
  | vaultInsolvent => 25
  | attestationNotActive => 26
  | insufficientStakedBalance => 27
  | badConfig => 28
  | zeroAmount => 29

instance : Coe Error Revert := ⟨fun e => .user e.code⟩

/-- Lifecycle of a policy. -/
inductive PolicyStatus where
  | active
  | claimed
  | expired
deriving DecidableEq, Repr

structure Policy where
  id : U64
  holder : Address
  coverage : U256
  premium : U256
  triggerTypes : List String
  expiry : U64
  status : PolicyStatus
deriving DecidableEq

inductive Event where
  | policyPurchased (id : U64) (holder : Address) (coverage premium : U256) (expiry : U64)
  | claimPaid (policyId attestationId : U64) (holder : Address) (amount : U256) (triggerType : String)
  | staked (staker : Address) (amount totalStaked : U256)
  | unstaked (staker : Address) (amount totalStaked : U256)
deriving DecidableEq

/-- The contract's storage and emitted events, and the token's state. -/
structure State (τ : Type) where
  policyCount : U64
  policies : Mapping U64 Policy
  positions : Mapping Address U256
  totalStaked : U256
  usdcToken : Option Address
  registry : Option Address
  premiumBps : U64
  claimModelId : Option String
  token : τ
  events : List Event

/-- A reference to the USDC token. -/
structure UsdcRef (σ : Type) extends TokenRef σ where
  balanceOf : Address → σ → U256

variable {τ : Type}

namespace State

/-- Nothing stored yet. -/
def deployed (token : τ) : State τ where
  policyCount := 0
  policies := .empty
  positions := .empty
  totalStaked := 0
  usdcToken := none
  registry := none
  premiumBps := 0
  claimModelId := none
  token := token
  events := []

@[simps] def setPolicy (s : State τ) (id : U64) (policy : Policy) : State τ :=
  { s with policies := s.policies.set id policy }

@[simps] def setPolicyCount (s : State τ) (policyCount : U64) : State τ := { s with policyCount }

@[simps] def setPosition (s : State τ) (staker : Address) (pos : U256) : State τ :=
  { s with positions := s.positions.set staker pos }

@[simps] def setTotalStaked (s : State τ) (totalStaked : U256) : State τ := { s with totalStaked }

@[simps] def emit (s : State τ) (e : Event) : State τ := { s with events := s.events ++ [e] }

/-- `self.usdc()`. -/
def usdc (s : State τ) : Except Revert Address := orFail s.usdcToken Error.badConfig

/-- `self.registry_addr()`. -/
def registryAddr (s : State τ) : Except Revert Address := orFail s.registry Error.badConfig

end State

def init (usdcToken registry : Address) (premiumBps : U64) (claimModelId : String) (s : State τ) :
    Except Revert (State τ) := do
  failIf (bpsDenom < premiumBps.val) Error.badConfig
  pure { s with
    policyCount := 0
    totalStaked := 0
    usdcToken := some usdcToken
    registry := some registry
    premiumBps
    claimModelId := some claimModelId }

/-- The policy `buy_policy` stores. -/
def newPolicy (env : CallEnv) (coverage : U256) (triggerTypes : List String) (expiry : U64)
    (premium : U256) (id : U64) : Policy where
  id := id
  holder := env.caller
  coverage := coverage
  premium := premium
  triggerTypes := triggerTypes
  expiry := expiry
  status := .active

def buyPolicy (tok : UsdcRef (State τ)) (env : CallEnv) (coverage : U256) (triggerTypes : List String)
    (expiry : U64) (s : State τ) : Except Revert (U64 × State τ) := do
  failIf (coverage = 0) Error.zeroAmount
  let holder := env.caller
  let bps ← checkedMul .overflow coverage (U256.ofU64 s.premiumBps)
  let premium := wordDiv bps bpsDenom
  let _ ← s.usdc
  let s ← tok.transferFrom 0 holder env.selfAddress premium s
  let id := s.policyCount
  let s := s.setPolicy id (newPolicy env coverage triggerTypes expiry premium id)
  let count ← checkedAdd .overflow id 1
  let s := s.setPolicyCount count
  pure (id, s.emit (.policyPurchased id holder coverage premium expiry))

def vaultBalance (tok : UsdcRef (State τ)) (env : CallEnv) (s : State τ) : Except Revert U256 := do
  let _ ← s.usdc
  pure (tok.balanceOf env.selfAddress s)

def getPolicy (s : State τ) (id : U64) : Except Revert Policy :=
  orFail (s.policies.get id) Error.policyNotFound

def policyCount (s : State τ) : U64 := s.policyCount

def totalStaked (s : State τ) : U256 := s.totalStaked

def stakedOf (s : State τ) (staker : Address) : U256 := s.positions.getD staker 0

/-- The statuses of an attestation that can back a payout. -/
def backs : AttestationStatus → Prop
  | .active | .finalized => True
  | .challenged | .slashed => False

instance : DecidablePred backs := fun st => by
  cases st <;> unfold backs <;> infer_instance

/-- The policy `claim` stores. -/
def claimedPolicy (policy : Policy) : Policy := { policy with status := .claimed }

/-- `reg` is the registry's `get_attestation`, by the registry's address. -/
def claim (tok : UsdcRef (State τ)) (reg : Address → U64 → Except Revert Attestation) (env : CallEnv)
    (policyId attestationId : U64) (triggerType : String) (s : State τ) : Except Revert (State τ) := do
  let policy ← getPolicy s policyId
  failIf (env.caller ≠ policy.holder) Error.unauthorized
  failIf (policy.status ≠ .active) Error.policyNotActive
  failIf (policy.expiry < env.blockTime) Error.policyExpired
  failIf (triggerType ∉ policy.triggerTypes) Error.triggerNotCovered
  let registry ← s.registryAddr
  let attestation ← reg registry attestationId
  let claimModel ← orFail s.claimModelId Error.badConfig
  failIf (attestation.modelId ≠ claimModel) Error.unauthorized
  failIf (¬ backs attestation.status) Error.attestationNotActive
  let payout := policy.coverage
  let balance ← vaultBalance tok env s
  failIf (balance < payout) Error.vaultInsolvent
  let holder := policy.holder
  let s := s.setPolicy policyId (claimedPolicy policy)
  let _ ← s.usdc
  let s ← tok.transfer 0 holder payout s
  pure (s.emit (.claimPaid policyId attestationId holder payout triggerType))

def stake (tok : UsdcRef (State τ)) (env : CallEnv) (amount : U256) (s : State τ) :
    Except Revert (State τ) := do
  failIf (amount = 0) Error.zeroAmount
  let staker := env.caller
  let _ ← s.usdc
  let s ← tok.transferFrom 0 staker env.selfAddress amount s
  let pos ← checkedAdd .overflow (s.positions.getD staker 0) amount
  let s := s.setPosition staker pos
  let total ← checkedAdd .overflow s.totalStaked amount
  let s := s.setTotalStaked total
  pure (s.emit (.staked staker amount total))

def unstake (tok : UsdcRef (State τ)) (env : CallEnv) (amount : U256) (s : State τ) :
    Except Revert (State τ) := do
  failIf (amount = 0) Error.zeroAmount
  let staker := env.caller
  let pos := s.positions.getD staker 0
  failIf (pos < amount) Error.insufficientStakedBalance
  let balance ← vaultBalance tok env s
  failIf (balance < amount) Error.vaultInsolvent
  let rest ← checkedSub .overflow pos amount
  let s := s.setPosition staker rest
  let total ← checkedSub .overflow s.totalStaked amount
  let s := s.setTotalStaked total
  let _ ← s.usdc
  let s ← tok.transfer 0 staker amount s
  pure (s.emit (.unstaked staker amount total))

/-- A state-changing entry-point call. -/
inductive Call where
  | buyPolicy (coverage : U256) (triggerTypes : List String) (expiry : U64)
  | claim (policyId attestationId : U64) (triggerType : String)
  | stake (amount : U256)
  | unstake (amount : U256)
deriving DecidableEq

/-- One entry-point call. -/
def Call.run (tok : UsdcRef (State τ)) (reg : Address → U64 → Except Revert Attestation) (env : CallEnv) :
    Call → State τ → Except Revert (State τ)
  | buyPolicy coverage triggerTypes expiry, s => do
    let (_, s) ← Insurance.buyPolicy tok env coverage triggerTypes expiry s
    pure s
  | claim policyId attestationId triggerType, s => Insurance.claim tok reg env policyId attestationId triggerType s
  | stake amount, s => Insurance.stake tok env amount s
  | unstake amount, s => Insurance.unstake tok env amount s

/-! ## When a call succeeds -/

variable {tok : UsdcRef (State τ)} {reg : Address → U64 → Except Revert Attestation} {env : CallEnv}
  {s s' : State τ} {id : U64}

@[simp] theorem usdc_ok {a : Address} : s.usdc = .ok a ↔ s.usdcToken = some a := by
  simp [State.usdc]

@[simp] theorem registryAddr_ok {a : Address} : s.registryAddr = .ok a ↔ s.registry = some a := by
  simp [State.registryAddr]

@[simp] theorem getPolicy_ok {policy : Policy} :
    getPolicy s id = .ok policy ↔ s.policies.get id = some policy := by
  simp [getPolicy]

@[simp] theorem vaultBalance_ok {n : U256} :
    vaultBalance tok env s = .ok n ↔ (∃ a, s.usdcToken = some a) ∧ tok.balanceOf env.selfAddress s = n := by
  simp only [vaultBalance, bind_eq_ok, usdc_ok, pure_eq_ok, exists_and_right]

theorem init_ok {usdcToken registry : Address} {premiumBps : U64} {claimModelId : String} :
    init usdcToken registry premiumBps claimModelId s = .ok s' ↔ premiumBps.val ≤ bpsDenom ∧
      { s with policyCount := 0, totalStaked := 0, usdcToken := some usdcToken, registry := some registry,
               premiumBps, claimModelId := some claimModelId } = s' := by
  simp only [init, bind_eq_ok, failIf_eq_ok, pure_eq_ok, not_lt, exists_and_left, exists_const]

theorem buyPolicy_ok {coverage : U256} {triggerTypes : List String} {expiry : U64} :
    buyPolicy tok env coverage triggerTypes expiry s = .ok (id, s') ↔
      ∃ a s₁ count, ∃ bps : U256, coverage ≠ 0 ∧ bps.val = coverage.val * s.premiumBps.val ∧
        s.usdcToken = some a ∧
        tok.transferFrom 0 env.caller env.selfAddress (wordDiv bps bpsDenom) s = .ok s₁ ∧
        s₁.policyCount = id ∧ count.val = id.val + 1 ∧
        s' = ((s₁.setPolicy id (newPolicy env coverage triggerTypes expiry (wordDiv bps bpsDenom) id)).setPolicyCount
          count).emit (.policyPurchased id env.caller coverage (wordDiv bps bpsDenom) expiry) := by
  simp only [buyPolicy, bind_eq_ok, failIf_eq_ok, checkedMul_eq_ok, U256.ofU64_val, usdc_ok,
    checkedAdd_eq_ok, pure_eq_ok, Prod.mk.injEq]
  constructor
  · rintro ⟨-, hne, bps, hbps, a, ha, s₁, ht, count, hcount, rfl, rfl⟩
    exact ⟨a, s₁, count, bps, hne, hbps, ha, ht, rfl, hcount, rfl⟩
  · rintro ⟨a, s₁, count, bps, hne, hbps, ha, ht, rfl, hcount, rfl⟩
    exact ⟨⟨⟩, hne, bps, hbps, a, ha, s₁, ht, count, hcount, rfl, rfl⟩

/-- What `claim` checks before it pays: the policy, the backing attestation and
    the vault's balance. -/
structure Claimable (tok : UsdcRef (State τ)) (reg : Address → U64 → Except Revert Attestation)
    (env : CallEnv) (policy : Policy) (attestationId : U64) (triggerType : String) (s : State τ) : Prop where
  holder : env.caller = policy.holder
  active : policy.status = .active
  unexpired : env.blockTime ≤ policy.expiry
  covered : triggerType ∈ policy.triggerTypes
  backed : ∃ registry att, s.registry = some registry ∧ reg registry attestationId = .ok att ∧
    s.claimModelId = some att.modelId ∧ backs att.status
  solvent : policy.coverage ≤ tok.balanceOf env.selfAddress s
  configured : ∃ a, s.usdcToken = some a

theorem claim_ok {policyId attestationId : U64} {triggerType : String} :
    claim tok reg env policyId attestationId triggerType s = .ok s' ↔
      ∃ policy s₁, s.policies.get policyId = some policy ∧
        Claimable tok reg env policy attestationId triggerType s ∧
        tok.transfer 0 policy.holder policy.coverage (s.setPolicy policyId (claimedPolicy policy)) = .ok s₁ ∧
        s' = s₁.emit (.claimPaid policyId attestationId policy.holder policy.coverage triggerType) := by
  simp only [claim, bind_eq_ok, getPolicy_ok, failIf_eq_ok, registryAddr_ok, orFail_eq_ok, vaultBalance_ok,
    usdc_ok, pure_eq_ok, not_not, not_lt]
  constructor
  · rintro ⟨policy, hp, -, hh, -, ha, -, hx, -, hc, r, hr, att, hatt, m, hm, -, hmod, -, hb, n, ⟨hu, rfl⟩, -,
      hsol, a, hu', s₁, ht, rfl⟩
    exact ⟨policy, s₁, hp, ⟨hh, ha, hx, hc, ⟨r, att, hr, hatt, hmod ▸ hm, hb⟩, hsol, hu⟩, ht, rfl⟩
  · rintro ⟨policy, s₁, hp, ⟨hh, ha, hx, hc, ⟨r, att, hr, hatt, hm, hb⟩, hsol, ⟨a, hu⟩⟩, ht, rfl⟩
    exact ⟨policy, hp, ⟨⟩, hh, ⟨⟩, ha, ⟨⟩, hx, ⟨⟩, hc, r, hr, att, hatt, _, hm, ⟨⟩, rfl, ⟨⟩, hb, _, ⟨⟨a, hu⟩, rfl⟩, ⟨⟩,
      hsol, a, hu, s₁, ht, rfl⟩

theorem stake_ok {amount : U256} :
    stake tok env amount s = .ok s' ↔
      ∃ a s₁, ∃ pos total : U256, amount ≠ 0 ∧ s.usdcToken = some a ∧
        tok.transferFrom 0 env.caller env.selfAddress amount s = .ok s₁ ∧
        pos.val = (s₁.positions.getD env.caller 0).val + amount.val ∧
        total.val = s₁.totalStaked.val + amount.val ∧
        s' = ((s₁.setPosition env.caller pos).setTotalStaked total).emit (.staked env.caller amount total) := by
  simp only [stake, bind_eq_ok, failIf_eq_ok, usdc_ok, checkedAdd_eq_ok, pure_eq_ok,
    State.setPosition_totalStaked]
  constructor
  · rintro ⟨-, hne, a, ha, s₁, ht, pos, hpos, total, htotal, rfl⟩
    exact ⟨a, s₁, pos, total, hne, ha, ht, hpos, htotal, rfl⟩
  · rintro ⟨a, s₁, pos, total, hne, ha, ht, hpos, htotal, rfl⟩
    exact ⟨⟨⟩, hne, a, ha, s₁, ht, pos, hpos, total, htotal, rfl⟩

theorem unstake_ok {amount : U256} :
    unstake tok env amount s = .ok s' ↔
      ∃ a s₁, ∃ rest total : U256, amount ≠ 0 ∧ s.usdcToken = some a ∧
        amount ≤ tok.balanceOf env.selfAddress s ∧
        rest.val + amount.val = (s.positions.getD env.caller 0).val ∧
        total.val + amount.val = s.totalStaked.val ∧
        tok.transfer 0 env.caller amount ((s.setPosition env.caller rest).setTotalStaked total) = .ok s₁ ∧
        s' = s₁.emit (.unstaked env.caller amount total) := by
  simp only [unstake, bind_eq_ok, failIf_eq_ok, vaultBalance_ok, usdc_ok, checkedSub_eq_ok, pure_eq_ok,
    State.setPosition_totalStaked, State.setTotalStaked_usdcToken, State.setPosition_usdcToken, not_lt]
  constructor
  · rintro ⟨-, hne, -, hpos, n, ⟨-, rfl⟩, -, hbal, rest, hrest, total, htotal, a, ha, s₁, ht, rfl⟩
    exact ⟨a, s₁, rest, total, hne, ha, hbal, hrest, htotal, ht, rfl⟩
  · rintro ⟨a, s₁, rest, total, hne, ha, hbal, hrest, htotal, ht, rfl⟩
    refine ⟨⟨⟩, hne, ⟨⟩, ?_, _, ⟨⟨a, ha⟩, rfl⟩, ⟨⟩, hbal, rest, hrest, total, htotal, a, ha, s₁, ht, rfl⟩
    rw [Fin.le_def]; omega

end CasperProof.Insurance
