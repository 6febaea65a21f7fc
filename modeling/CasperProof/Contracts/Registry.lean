/-
  The `AttestationRegistry` contract.

  Every entry point of `attestation_registry.rs` is a function from the
  contract's state to its next state or a `Revert`; the token is a parameter
  (`TokenRef`), called where the source calls it.  `Call.run` is one entry-point
  call.

  `submitAttestation_ok`, `challenge_ok`, `resolve_ok` and `finalize_ok` say
  exactly when a call succeeds and what it does; nothing else unfolds the
  entry points.
-/
import CasperProof.Contracts.Token
import Mathlib.Tactic.Simps.Basic

namespace CasperProof.Registry

/-- `attestation_registry::Error`. -/
inductive Error where
  | notFound
  | insufficientStake
  | windowClosed
  | alreadyChallenged
  | unauthorized
  | notActive
  | alreadyResolved
  | badConfig
deriving DecidableEq, Repr

def Error.code : Error → ℕ
  | notFound => 1
  | insufficientStake => 2
  | windowClosed => 3
  | alreadyChallenged => 4
  | unauthorized => 5
  | notActive => 6
  | alreadyResolved => 7
  | badConfig => 8

instance : Coe Error Revert := ⟨fun e => .user e.code⟩

inductive Event where
  | attestationSubmitted (id : U64) (attestor : Address) (modelId : String) (commitment : Hash)
      (stake : U256) (createdAt : U64)
  | challenged (id : U64) (challenger : Address) (bond : U256) (challengedAt : U64)
  | resolved (id : U64) (fraudulent : Bool) (challenger : Address) (slashedAmount : U256)
      (challengerReward : U256)
  | finalized (id : U64) (attestor : Address) (stakeReturned : U256)
deriving DecidableEq

/-- The contract's storage and emitted events, the token's state, and the
    journal of the statuses written to `attestations`, oldest first. -/
structure State (τ : Type) where
  count : U64
  attestations : Mapping U64 Attestation
  reputations : Mapping Address Reputation
  config : Option RegistryConfig
  stakeToken : Option Address
  token : τ
  events : List Event
  journal : List (U64 × AttestationStatus)

variable {τ : Type}

namespace State

/-- Nothing stored yet. -/
def deployed (token : τ) : State τ where
  count := 0
  attestations := .empty
  reputations := .empty
  config := none
  stakeToken := none
  token := token
  events := []
  journal := []

/-- `self.cfg()`. -/
def cfg (s : State τ) : Except Revert RegistryConfig := orFail s.config Error.badConfig

/-- `self.stake_token()`. -/
def stakeTokenAddr (s : State τ) : Except Revert Address := orFail s.stakeToken Error.badConfig

/-- `self.attestations.set(&id, att)`. -/
@[simps] def setAttestation (s : State τ) (id : U64) (att : Attestation) : State τ :=
  { s with attestations := s.attestations.set id att, journal := s.journal ++ [(id, att.status)] }

@[simps] def setCount (s : State τ) (count : U64) : State τ := { s with count }

@[simps] def setReputation (s : State τ) (a : Address) (rep : Reputation) : State τ :=
  { s with reputations := s.reputations.set a rep }

@[simps] def emit (s : State τ) (e : Event) : State τ := { s with events := s.events ++ [e] }

end State

/-- The arguments of `submit_attestation`. -/
structure SubmitArgs where
  modelId : String
  inputHash : Hash
  outputHash : Hash
  commitment : Hash
  uri : String
  stake : U256
deriving DecidableEq

def init (stakeToken : Address) (minStake challengeBond : U256) (disputeWindow : U64)
    (treasury resolver : Address) (rewardBps : U64) (s : State τ) : Except Revert (State τ) := do
  failIf (bpsDenom < rewardBps.val) Error.badConfig
  pure { s with
    count := 0
    stakeToken := some stakeToken
    config := some { minStake, challengeBond, disputeWindow, treasury, resolver, rewardBps } }

def getAttestation (s : State τ) (id : U64) : Except Revert Attestation :=
  orFail (s.attestations.get id) Error.notFound

/-- The dispute window is configured in seconds; block time is milliseconds. -/
def windowClosed (cfg : RegistryConfig) (now : U64) (att : Attestation) : Prop :=
  saturatingAdd att.createdAt (saturatingMul cfg.disputeWindow 1000) < now

instance (cfg : RegistryConfig) (now : U64) (att : Attestation) : Decidable (windowClosed cfg now att) :=
  inferInstanceAs (Decidable (_ < _))

def bumpReputation (attestor : Address) (f : Reputation → Except Revert Reputation) (s : State τ) :
    Except Revert (State τ) := do
  let rep ← f (s.reputations.getD attestor {})
  pure (s.setReputation attestor rep)

/-- `x += 1` on a counter. -/
def bump (x : U64) : Except Revert U64 := checkedAdd .overflow x 1

/-- The counter `submit_attestation` bumps. -/
def submitReputation (r : Reputation) : Except Revert Reputation := do
  pure { r with total := ← bump r.total }

/-- The record `submit_attestation` stores. -/
def newAttestation (env : CallEnv) (args : SubmitArgs) (id : U64) : Attestation where
  id := id
  attestor := env.caller
  modelId := args.modelId
  inputHash := args.inputHash
  outputHash := args.outputHash
  commitment := args.commitment
  uri := args.uri
  stake := args.stake
  createdAt := env.blockTime
  status := .active
  challenger := none
  challengeBond := 0
  challengedAt := 0

def submitAttestation (tok : TokenRef (State τ)) (env : CallEnv) (args : SubmitArgs) (s : State τ) :
    Except Revert (U64 × State τ) := do
  let cfg ← s.cfg
  failIf (args.stake < cfg.minStake) Error.insufficientStake
  let attestor := env.caller
  let _ ← s.stakeTokenAddr
  let s ← tok.transferFrom 0 attestor env.selfAddress args.stake s
  let id := s.count
  let s := s.setAttestation id (newAttestation env args id)
  let count ← checkedAdd .overflow id 1
  let s := s.setCount count
  let s ← bumpReputation attestor submitReputation s
  pure (id, s.emit (.attestationSubmitted id attestor args.modelId args.commitment args.stake env.blockTime))

/-- The status check of `challenge`. -/
def checkChallengeable : AttestationStatus → Except Revert PUnit
  | .challenged => .error Error.alreadyChallenged
  | .active => .ok ⟨⟩
  | _ => .error Error.notActive

/-- `att` with another status. -/
def withStatus (att : Attestation) (status : AttestationStatus) : Attestation := { att with status }

/-- The fields `challenge` overwrites. -/
def challengedAttestation (cfg : RegistryConfig) (env : CallEnv) (att : Attestation) : Attestation :=
  { att with
    status := .challenged
    challenger := some env.caller
    challengeBond := cfg.challengeBond
    challengedAt := env.blockTime }

/-- The record is read before the token call and stored back after it. -/
def challenge (tok : TokenRef (State τ)) (env : CallEnv) (id : U64) (s : State τ) :
    Except Revert (State τ) := do
  let att ← getAttestation s id
  checkChallengeable att.status
  let wcfg ← s.cfg
  failIf (windowClosed wcfg env.blockTime att) Error.windowClosed
  let cfg ← s.cfg
  let challenger := env.caller
  let _ ← s.stakeTokenAddr
  let s ← tok.transferFrom 0 challenger env.selfAddress cfg.challengeBond s
  let s := s.setAttestation id (challengedAttestation cfg env att)
  pure (s.emit (.challenged id challenger cfg.challengeBond env.blockTime))

/-- The status check of `resolve`. -/
def checkResolvable : AttestationStatus → Except Revert PUnit
  | .challenged => .ok ⟨⟩
  | .slashed | .finalized => .error Error.alreadyResolved
  | _ => .error Error.notActive

/-- The counters `resolve` bumps. -/
def resolveReputation (fraudulent : Bool) (r : Reputation) : Except Revert Reputation :=
  if fraudulent then do pure { r with slashed := ← bump r.slashed }
  else do
    let successful ← bump r.successful
    let challengesDefended ← bump r.challengesDefended
    pure { r with successful, challengesDefended }

/-- The status `resolve` writes. -/
def verdict (fraudulent : Bool) : AttestationStatus := if fraudulent then .slashed else .finalized

/-- The token calls of `resolve`: a slash pays the challenger and the treasury,
    an honest verdict the attestor and the treasury; a zero treasury part is
    skipped. -/
def payouts (tok : TokenRef (State τ)) (cfg : RegistryConfig) (att : Attestation) (challenger : Address)
    (fraudulent : Bool) (reward treasuryCut : U256) (s : State τ) : Except Revert (State τ) :=
  if fraudulent then do
    let payout ← checkedAdd .overflow reward att.challengeBond
    let s ← tok.transfer 0 challenger payout s
    if 0 < treasuryCut then tok.transfer 1 cfg.treasury treasuryCut s else pure s
  else do
    let s ← tok.transfer 0 att.attestor att.stake s
    if 0 < att.challengeBond then tok.transfer 1 cfg.treasury att.challengeBond s else pure s

def resolve (tok : TokenRef (State τ)) (env : CallEnv) (id : U64) (fraudulent : Bool) (s : State τ) :
    Except Revert (State τ) := do
  let cfg ← s.cfg
  failIf (env.caller ≠ cfg.resolver) Error.unauthorized
  let att ← getAttestation s id
  checkResolvable att.status
  let challenger ← orFail att.challenger Error.notActive
  let attestor := att.attestor
  let stake := att.stake
  let bps ← checkedMul .overflow stake (U256.ofU64 cfg.rewardBps)
  let reward := wordDiv bps bpsDenom
  let treasuryCut ← checkedSub .overflow stake reward
  let s := s.setAttestation id (withStatus att (verdict fraudulent))
  let s ← bumpReputation attestor (resolveReputation fraudulent) s
  let _ ← s.stakeTokenAddr
  let s ← payouts tok cfg att challenger fraudulent reward treasuryCut s
  pure (s.emit (.resolved id fraudulent challenger (if fraudulent then stake else 0)
    (if fraudulent then reward else 0)))

/-- The counter `finalize` bumps. -/
def finalizeReputation (r : Reputation) : Except Revert Reputation := do
  pure { r with successful := ← bump r.successful }

def finalize (tok : TokenRef (State τ)) (env : CallEnv) (id : U64) (s : State τ) :
    Except Revert (State τ) := do
  let att ← getAttestation s id
  failIf (att.status ≠ .active) Error.notActive
  let wcfg ← s.cfg
  failIf (¬ windowClosed wcfg env.blockTime att) Error.windowClosed
  let attestor := att.attestor
  let stake := att.stake
  let s := s.setAttestation id (withStatus att .finalized)
  let s ← bumpReputation attestor finalizeReputation s
  let _ ← s.stakeTokenAddr
  let s ← tok.transfer 0 attestor stake s
  pure (s.emit (.finalized id attestor stake))

def attestationCount (s : State τ) : U64 := s.count

def attestorReputation (s : State τ) (attestor : Address) : Reputation := s.reputations.getD attestor {}

/-- A state-changing entry-point call. -/
inductive Call where
  | submitAttestation (args : SubmitArgs)
  | challenge (id : U64)
  | resolve (id : U64) (fraudulent : Bool)
  | finalize (id : U64)
deriving DecidableEq

/-- One entry-point call, with the id of the attestation it is about. -/
def Call.run (tok : TokenRef (State τ)) (env : CallEnv) : Call → State τ → Except Revert (U64 × State τ)
  | submitAttestation args, s => Registry.submitAttestation tok env args s
  | challenge id, s => do pure (id, ← Registry.challenge tok env id s)
  | resolve id fraudulent, s => do pure (id, ← Registry.resolve tok env id fraudulent s)
  | finalize id, s => do pure (id, ← Registry.finalize tok env id s)

/-! ## When a call succeeds -/

variable {tok : TokenRef (State τ)} {env : CallEnv} {s s' : State τ} {id : U64}

@[simp] theorem cfg_ok {cfg : RegistryConfig} : s.cfg = .ok cfg ↔ s.config = some cfg := by
  simp [State.cfg]

@[simp] theorem stakeTokenAddr_ok {a : Address} : s.stakeTokenAddr = .ok a ↔ s.stakeToken = some a := by
  simp [State.stakeTokenAddr]

@[simp] theorem getAttestation_ok {att : Attestation} :
    getAttestation s id = .ok att ↔ s.attestations.get id = some att := by
  simp [getAttestation]

@[simp] theorem checkChallengeable_ok {st : AttestationStatus} {u : PUnit} :
    checkChallengeable st = .ok u ↔ st = .active := by
  cases st <;> simp [checkChallengeable]

@[simp] theorem checkResolvable_ok {st : AttestationStatus} {u : PUnit} :
    checkResolvable st = .ok u ↔ st = .challenged := by
  cases st <;> simp [checkResolvable]

@[simp] theorem bumpReputation_ok {a : Address} {f : Reputation → Except Revert Reputation} :
    bumpReputation a f s = .ok s' ↔
      ∃ rep, f (s.reputations.getD a {}) = .ok rep ∧ s.setReputation a rep = s' := by
  simp only [bumpReputation, bind_eq_ok, pure_eq_ok]

theorem submitAttestation_ok {args : SubmitArgs} :
    submitAttestation tok env args s = .ok (id, s') ↔
      ∃ cfg a s₁ count rep, s.config = some cfg ∧ cfg.minStake ≤ args.stake ∧ s.stakeToken = some a ∧
        tok.transferFrom 0 env.caller env.selfAddress args.stake s = .ok s₁ ∧ s₁.count = id ∧
        count.val = id.val + 1 ∧ submitReputation (s₁.reputations.getD env.caller {}) = .ok rep ∧
        s' = (((s₁.setAttestation id (newAttestation env args id)).setCount count).setReputation
          env.caller rep).emit
            (.attestationSubmitted id env.caller args.modelId args.commitment args.stake env.blockTime) := by
  simp only [submitAttestation, bind_eq_ok, pure_eq_ok, cfg_ok, failIf_eq_ok, stakeTokenAddr_ok,
    checkedAdd_eq_ok, bumpReputation_ok, Prod.mk.injEq, not_lt]
  constructor
  · rintro ⟨cfg, hc, -, hmin, a, ha, s₁, ht, count, hcount, s₂, ⟨rep, hrep, rfl⟩, rfl, rfl⟩
    exact ⟨cfg, a, s₁, count, rep, hc, hmin, ha, ht, rfl, hcount, hrep, rfl⟩
  · rintro ⟨cfg, a, s₁, count, rep, hc, hmin, ha, ht, rfl, hcount, hrep, rfl⟩
    exact ⟨cfg, hc, ⟨⟩, hmin, a, ha, s₁, ht, count, hcount, _, ⟨rep, hrep, rfl⟩, rfl, rfl⟩

theorem challenge_ok :
    challenge tok env id s = .ok s' ↔
      ∃ att cfg a s₁, s.attestations.get id = some att ∧ att.status = .active ∧ s.config = some cfg ∧
        ¬ windowClosed cfg env.blockTime att ∧ s.stakeToken = some a ∧
        tok.transferFrom 0 env.caller env.selfAddress cfg.challengeBond s = .ok s₁ ∧
        s' = (s₁.setAttestation id (challengedAttestation cfg env att)).emit
          (.challenged id env.caller cfg.challengeBond env.blockTime) := by
  simp only [challenge, bind_eq_ok, pure_eq_ok, getAttestation_ok, checkChallengeable_ok, cfg_ok,
    failIf_eq_ok, stakeTokenAddr_ok]
  constructor
  · rintro ⟨att, hatt, -, hst, cfg, hc, -, hw, cfg', hc', a, ha, s₁, ht, rfl⟩
    cases hc.symm.trans hc'
    exact ⟨att, cfg, a, s₁, hatt, hst, hc, hw, ha, ht, rfl⟩
  · rintro ⟨att, cfg, a, s₁, hatt, hst, hc, hw, ha, ht, rfl⟩
    exact ⟨att, hatt, ⟨⟩, hst, cfg, hc, ⟨⟩, hw, cfg, hc, a, ha, s₁, ht, rfl⟩

/-- A payment of `n` to `a`, then one of `m` to `b` unless it is zero. -/
def Pays (tok : TokenRef (State τ)) (a : Address) (n : U256) (b : Address) (m : U256) (s s' : State τ) : Prop :=
  ∃ s₁, tok.transfer 0 a n s = .ok s₁ ∧ if 0 < m then tok.transfer 1 b m s₁ = .ok s' else s₁ = s'

theorem payouts_slash {cfg : RegistryConfig} {att : Attestation} {challenger : Address} {rew cut : U256} :
    payouts tok cfg att challenger true rew cut s = .ok s' ↔
      ∃ payout : U256, payout.val = rew.val + att.challengeBond.val ∧
        Pays tok challenger payout cfg.treasury cut s s' := by
  simp only [payouts, if_true, bind_eq_ok, checkedAdd_eq_ok, Pays]
  by_cases hpos : 0 < cut
  · simp only [if_pos hpos]
  · simp only [if_neg hpos, pure_eq_ok]

theorem payouts_honest {cfg : RegistryConfig} {att : Attestation} {challenger : Address} {rew cut : U256} :
    payouts tok cfg att challenger false rew cut s = .ok s' ↔
      Pays tok att.attestor att.stake cfg.treasury att.challengeBond s s' := by
  simp only [payouts, Bool.false_eq_true, if_false, bind_eq_ok, Pays]
  by_cases hpos : 0 < att.challengeBond
  · simp only [if_pos hpos]
  · simp only [if_neg hpos, pure_eq_ok]

/-- The challenger's part of a slashed stake. -/
def reward (cfg : RegistryConfig) (att : Attestation) : ℕ := att.stake.val * cfg.rewardBps.val / bpsDenom

theorem resolve_ok {fraudulent : Bool} :
    resolve tok env id fraudulent s = .ok s' ↔
      ∃ cfg att challenger a s₁ rep, ∃ bps rew cut : U256, s.config = some cfg ∧ env.caller = cfg.resolver ∧
        s.attestations.get id = some att ∧ att.status = .challenged ∧ att.challenger = some challenger ∧
        bps.val = att.stake.val * cfg.rewardBps.val ∧ rew.val = reward cfg att ∧
        cut.val + rew.val = att.stake.val ∧ s.stakeToken = some a ∧
        resolveReputation fraudulent (s.reputations.getD att.attestor {}) = .ok rep ∧
        payouts tok cfg att challenger fraudulent rew cut
          ((s.setAttestation id (withStatus att (verdict fraudulent))).setReputation att.attestor rep) =
            .ok s₁ ∧
        s' = s₁.emit (.resolved id fraudulent challenger (if fraudulent then att.stake else 0)
          (if fraudulent then rew else 0)) := by
  simp only [resolve, bind_eq_ok, pure_eq_ok, cfg_ok, failIf_eq_ok, getAttestation_ok,
    checkResolvable_ok, orFail_eq_ok, checkedMul_eq_ok, checkedSub_eq_ok, bumpReputation_ok,
    stakeTokenAddr_ok, ne_eq, not_not, State.setAttestation_reputations]
  constructor
  · rintro ⟨cfg, hc, -, hcl, att, hatt, -, hst, ch, hch, bps, hbps, cut, hcut, _, ⟨rep, hrep, rfl⟩, a, ha,
      s₁, hpay, rfl⟩
    exact ⟨cfg, att, ch, a, s₁, rep, bps, wordDiv bps bpsDenom, cut, hc, hcl, hatt, hst, hch, hbps,
      by simp [reward, hbps], hcut, ha, hrep, hpay, rfl⟩
  · rintro ⟨cfg, att, ch, a, s₁, rep, bps, rew, cut, hc, hcl, hatt, hst, hch, hbps, hrew, hcut, ha, hrep, hpay, rfl⟩
    obtain rfl : rew = wordDiv bps bpsDenom := Fin.ext (by simp [hrew, reward, hbps])
    exact ⟨cfg, hc, ⟨⟩, hcl, att, hatt, ⟨⟩, hst, ch, hch, bps, hbps, cut, hcut, _, ⟨rep, hrep, rfl⟩, a, ha,
      s₁, hpay, rfl⟩

theorem finalize_ok :
    finalize tok env id s = .ok s' ↔
      ∃ att cfg a rep s₁, s.attestations.get id = some att ∧ att.status = .active ∧ s.config = some cfg ∧
        windowClosed cfg env.blockTime att ∧ s.stakeToken = some a ∧
        finalizeReputation (s.reputations.getD att.attestor {}) = .ok rep ∧
        tok.transfer 0 att.attestor att.stake
          ((s.setAttestation id (withStatus att .finalized)).setReputation att.attestor rep) = .ok s₁ ∧
        s' = s₁.emit (.finalized id att.attestor att.stake) := by
  simp only [finalize, bind_eq_ok, pure_eq_ok, getAttestation_ok, cfg_ok, failIf_eq_ok,
    bumpReputation_ok, stakeTokenAddr_ok, ne_eq, not_not, State.setAttestation_reputations]
  constructor
  · rintro ⟨att, hatt, -, hst, cfg, hc, -, hw, _, ⟨rep, hrep, rfl⟩, a, ha, s₁, ht, rfl⟩
    exact ⟨att, cfg, a, rep, s₁, hatt, hst, hc, hw, ha, hrep, ht, rfl⟩
  · rintro ⟨att, cfg, a, rep, s₁, hatt, hst, hc, hw, ha, hrep, ht, rfl⟩
    exact ⟨att, hatt, ⟨⟩, hst, cfg, hc, ⟨⟩, hw, _, ⟨rep, hrep, rfl⟩, a, ha, s₁, ht, rfl⟩

end CasperProof.Registry
