/-
  `MockBackend` — the in-memory backend of the SDK.

  * An operation that throws keeps the changes made before (`Op`).
  * Event handlers are in `H`; the environment says which events they throw on.
    They run last in an operation, so that what they call on the backend is a
    later operation.
  * `*_returns` and `*_throws` say what an operation does; nothing else unfolds
    the operations.
-/
import CasperProof.Lib.EventBus
import CasperProof.Lib.Mapping
import CasperProof.Lib.Op
import CasperProof.Sdk.Types

namespace CasperProof.Sdk

open Js Commitment

def mockAccount : JsString :=
  lit "account-hash-0000000000000000000000000000000000000000000000000000000000000001"

def mockMinStake : ℕ := 1000000000

/-- Mutable reputation counters. -/
structure RepCounters where
  successful : ℕ := 0
  slashed : ℕ := 0
  challengesDefended : ℕ := 0
deriving DecidableEq

/-- What the backend uses: the digest function, the clock, and its event
    handlers' behaviour. -/
structure MockEnv (H : Type) where
  blake2b256 : Blake2b
  now : JsNumber
  throws : H → CasperProofEvent → Bool

structure MockState (H : Type) where
  attestations : Mapping ℕ Attestation
  policies : Mapping ℕ Policy
  reputations : Mapping JsString RepCounters
  handlers : List H
  recentEvents : List CasperProofEvent
  nextAttestationId : ℕ
  nextPolicyId : ℕ
  deployCounter : ℕ
  stakedTotal : ℤ

namespace MockState
variable {H : Type}

/-- `new MockBackend()`. -/
def fresh : MockState H where
  attestations := .empty
  policies := .empty
  reputations := .empty
  handlers := []
  recentEvents := []
  nextAttestationId := 1
  nextPolicyId := 1
  deployCounter := 0
  stakedTotal := 0

@[simps] def setAttestation (s : MockState H) (id : ℕ) (a : Attestation) : MockState H :=
  { s with attestations := s.attestations.set id a }

@[simps] def setPolicy (s : MockState H) (id : ℕ) (p : Policy) : MockState H :=
  { s with policies := s.policies.set id p }

@[simps] def setNextAttestationId (s : MockState H) (nextAttestationId : ℕ) : MockState H :=
  { s with nextAttestationId }

@[simps] def setNextPolicyId (s : MockState H) (nextPolicyId : ℕ) : MockState H := { s with nextPolicyId }

@[simps] def setReputation (s : MockState H) (address : JsString) (counters : RepCounters) : MockState H :=
  { s with reputations := s.reputations.set address counters }

@[simps] def setHandlers (s : MockState H) (handlers : List H) : MockState H := { s with handlers }

@[simps] def setStakedTotal (s : MockState H) (stakedTotal : ℤ) : MockState H := { s with stakedTotal }

@[simps] def setDeployCounter (s : MockState H) (deployCounter : ℕ) : MockState H := { s with deployCounter }

@[simps] def record (s : MockState H) (e : CasperProofEvent) : MockState H :=
  let recentEvents := s.recentEvents ++ [e]
  { s with recentEvents := if recentEvents.length > 100 then recentEvents.drop 1 else recentEvents }

end MockState

/-- A backend operation. -/
abbrev BackendOp (H α : Type) := Op (MockState H) SdkError α

section
variable {H : Type} (env : MockEnv H)

/-- `n += 1` on a number; from `2 ^ 53` on the sum is rounded back to `n`. -/
def nextCount (n : ℕ) : ℕ := min (n + 1) (2 ^ 53)

/-- `private deployHash`. -/
def deployHash (label : JsString) (payload : Value) : BackendOp H JsString := do
  let s ← Op.get
  let counter := nextCount s.deployCounter
  Op.modify fun s => s.setDeployCounter counter
  let count ← Op.lift (fun e => .commitment (.hash e)) (leU64 (number counter))
  let text ← Op.lift (fun e => .commitment (.canonical e)) (canonicalize payload)
  pure (toHex (env.blake2b256 (concatBytes [textEncode label, count, textEncode text])).toList)

/-- `private emit`: the event is recorded, then passed to the handlers. -/
def emit (event : CasperProofEvent) : BackendOp H PUnit := do
  Op.modify fun s => s.record event
  let s ← Op.get
  Op.failIf (s.handlers.any fun h => env.throws h event) .handler

/-- The record that `submitAttestation` stores. -/
def newAttestation (args : SubmitAttestationArgs) (hashes : CommitmentResult) (timestamp : JsNumber) (id : ℕ) :
    Attestation where
  id := id
  attestor := args.attestor.getD mockAccount
  modelId := args.modelId
  inputHash := hashes.inputHash
  outputHash := hashes.outputHash
  commitment := hashes.commitment
  uri := args.uri
  stake := args.stake
  createdAt := timestamp
  status := .active
  challenger := none

def submitAttestation (args : SubmitAttestationArgs) : BackendOp H SubmitAttestationResult := do
  let stake ← Op.orFail (bigInt args.stake) (.notBigInt args.stake)
  Op.failIf (stake < mockMinStake) (.insufficientStake (decimal mockMinStake) args.stake)
  let timestamp := args.timestamp.getD env.now
  let hashes ← Op.lift .commitment
    (computeCommitment env.blake2b256 ⟨args.input, args.output, args.modelId, timestamp⟩)
  let s ← Op.get
  let id := s.nextAttestationId
  let attestation := newAttestation args hashes timestamp id
  Op.modify fun s => (s.setNextAttestationId (id + 1)).setAttestation id attestation
  let hash ← deployHash env (lit "submit_attestation")
    (.obj [(lit "id", .num (number id)), (lit "commitment", .str hashes.commitment)])
  emit env ⟨.attestationSubmitted, id, timestamp,
    .obj [(lit "attestor", .str attestation.attestor), (lit "modelId", .str args.modelId)]⟩
  pure ⟨id, hash, hashes.commitment, hashes.inputHash, hashes.outputHash, .active⟩

def getAttestation (id : ℕ) : BackendOp H Attestation := do
  let s ← Op.get
  Op.orFail (s.attestations.get id) (.attestationNotFound id)

/-- `this.attestations.size`; the ids are below `nextAttestationId`. -/
def attestationCount : BackendOp H ℕ := do
  let s ← Op.get
  pure ((List.range s.nextAttestationId).countP fun id => (s.attestations.get id).isSome)

def attestorReputation (address : JsString) : BackendOp H Reputation := do
  let s ← Op.get
  let counters := s.reputations.getD address {}
  let resolved := counters.successful + counters.slashed
  let score : ℚ := if resolved = 0 then 1 else counters.successful / resolved
  pure ⟨address, counters.successful, counters.slashed, counters.challengesDefended, score⟩

/-- The record that `challenge` stores. -/
def challengedAttestation (attestation : Attestation) : Attestation :=
  { attestation with status := .challenged, challenger := some mockAccount }

def challenge (id : ℕ) : BackendOp H DeployResult := do
  let s ← Op.get
  let attestation ← Op.orFail (s.attestations.get id) (.attestationNotFound id)
  Op.failIf (attestation.status = .challenged) (.alreadyChallenged id)
  Op.failIf (attestation.status ≠ .active) (.attestationNotActive id (statusText attestation.status))
  Op.modify fun s => s.setAttestation id (challengedAttestation attestation)
  let hash ← deployHash env (lit "challenge") (.obj [(lit "id", .num (number id))])
  emit env ⟨.challenged, id, env.now, .obj [(lit "challenger", .str mockAccount)]⟩
  pure ⟨hash, some id, some .challenged⟩

/-- `private rep`: the counters of an address, created if there are none. -/
def rep (address : JsString) : BackendOp H RepCounters := do
  let s ← Op.get
  match s.reputations.get address with
  | some counters => pure counters
  | none =>
    Op.modify fun s => s.setReputation address {}
    pure {}

/-- The counters that `resolve` bumps. -/
def resolvedCounters (fraudulent : Bool) (counters : RepCounters) : RepCounters :=
  if fraudulent then { counters with slashed := counters.slashed + 1 }
  else { counters with
    successful := counters.successful + 1
    challengesDefended := counters.challengesDefended + 1 }

/-- The status that `resolve` writes. -/
def verdict (fraudulent : Bool) : AttestationStatus := if fraudulent then .slashed else .finalized

def resolve (id : ℕ) (fraudulent : Bool) : BackendOp H DeployResult := do
  let s ← Op.get
  let attestation ← Op.orFail (s.attestations.get id) (.attestationNotFound id)
  Op.failIf (attestation.status ≠ .challenged) (.attestationNotActive id (statusText attestation.status))
  let counters ← rep attestation.attestor
  let status := verdict fraudulent
  Op.modify fun s => (s.setAttestation id { attestation with status }).setReputation attestation.attestor
    (resolvedCounters fraudulent counters)
  let hash ← deployHash env (lit "resolve")
    (.obj [(lit "id", .num (number id)), (lit "fraudulent", .bool fraudulent)])
  emit env ⟨.resolved, id, env.now, .obj [(lit "fraudulent", .bool fraudulent)]⟩
  pure ⟨hash, some id, some status⟩

/-- The record that `createPolicy` stores. -/
def newPolicy (args : CreatePolicyArgs) (id : ℕ) : Policy where
  id := id
  holder := args.holder.getD mockAccount
  coverage := args.coverage
  premium := args.premium
  triggerTypes := args.triggerTypes
  expiry := args.expiry
  status := .active

def createPolicy (args : CreatePolicyArgs) : BackendOp H Policy := do
  let s ← Op.get
  let id := s.nextPolicyId
  let policy := newPolicy args id
  Op.modify fun s => (s.setNextPolicyId (id + 1)).setPolicy id policy
  pure policy

def getPolicy (id : ℕ) : BackendOp H Policy := do
  let s ← Op.get
  Op.orFail (s.policies.get id) (.policyNotFound id)

/-- The letters of a trigger tag. -/
def isTagLetter (c : CodeUnit) : Bool := 0x61 ≤ c.val && c.val ≤ 0x7A || c.val = 0x5F

/-- The first match of `#trigger=([a-z_]+)`. -/
def triggerTag : JsString → Option JsString
  | [] => none
  | c :: s =>
    let tag := ((c :: s).drop 9).takeWhile isTagLetter
    if (lit "#trigger=").isPrefixOf (c :: s) ∧ tag ≠ [] then some tag else triggerTag s

def triggerFromOutput (attestation : Attestation) : Option TriggerType :=
  [TriggerType.exploit, .oracleFailure, .agentError, .governanceAttack].find? fun t =>
    triggerTag attestation.uri = some t.text

/-- `a <= b` of numbers. -/
def numberLe : JsNumber → JsNumber → Bool
  | .nan, _ | _, .nan => false
  | .negInf, _ | _, .posInf => true
  | .posInf, _ | _, .negInf => false
  | .real p, .real q => p ≤ q
  | .real p, .negZero => p ≤ 0
  | .negZero, .real q => 0 ≤ q
  | .negZero, .negZero => true

/-- The policy is expired, or expires now. -/
def isExpired (policy : Policy) : Prop := policy.status = .expired ∨ numberLe policy.expiry env.now

instance (policy : Policy) : Decidable (isExpired env policy) :=
  inferInstanceAs (Decidable (_ ∨ _))

def submitClaim (policyId attestationId : ℕ) : BackendOp H ClaimResult := do
  let s ← Op.get
  let policy ← Op.orFail (s.policies.get policyId) (.policyNotFound policyId)
  if isExpired env policy then
    Op.modify fun s => s.setPolicy policyId { policy with status := .expired }
    Op.throw (.policyExpired policyId)
  else
    let attestation ← Op.orFail (s.attestations.get attestationId) (.attestationNotFound attestationId)
    match triggerFromOutput attestation with
    | none => Op.throw (.triggerNotCovered policyId (lit "unknown"))
    | some trigger =>
      Op.failIf (trigger ∉ policy.triggerTypes) (.triggerNotCovered policyId trigger.text)
      Op.modify fun s => s.setPolicy policyId { policy with status := .claimed }
      let hash ← deployHash env (lit "claim")
        (.obj [(lit "policyId", .num (number policyId)), (lit "attestationId", .num (number attestationId))])
      emit env ⟨.claimPaid, policyId, env.now,
        .obj [(lit "attestationId", .num (number attestationId)), (lit "amount", .str policy.coverage)]⟩
      pure ⟨hash, policyId, attestationId, true, policy.coverage⟩

def getRiskScore (address : JsString) : BackendOp H RiskScore :=
  let digest := env.blake2b256 (textEncode address)
  let score := digest[0].toNat % 101
  pure ⟨address, score, if score < 34 then .low else if score < 67 then .medium else .high⟩

def stake (amount : JsString) : BackendOp H DeployResult := do
  let staked ← Op.orFail (bigInt amount) (.notBigInt amount)
  Op.modify fun s => s.setStakedTotal (s.stakedTotal + staked)
  let hash ← deployHash env (lit "stake") (.obj [(lit "amount", .str amount)])
  pure ⟨hash, none, none⟩

def unstake (amount : JsString) : BackendOp H DeployResult := do
  let requested ← Op.orFail (bigInt amount) (.notBigInt amount)
  let s ← Op.get
  Op.failIf (s.stakedTotal < requested) (.insufficientStake (intText requested) (intText s.stakedTotal))
  Op.modify fun s => s.setStakedTotal (s.stakedTotal - requested)
  let hash ← deployHash env (lit "unstake") (.obj [(lit "amount", .str amount)])
  pure ⟨hash, none, none⟩

/-- The recent events are replayed to the handler before it is added. -/
def subscribeEvents [DecidableEq H] (handler : H) : BackendOp H PUnit := do
  let s ← Op.get
  Op.failIf (s.recentEvents.any (env.throws handler)) .handler
  Op.modify fun s => s.setHandlers (EventBus.setAdd s.handlers handler)

/-- What `subscribeEvents` returns. -/
def unsubscribe [DecidableEq H] (handler : H) : BackendOp H PUnit :=
  Op.modify fun s => s.setHandlers (s.handlers.erase handler)

/-! ## What the operations do -/

variable {env : MockEnv H} {s s' : MockState H} {e : SdkError}

theorem deployHash_returns {label hash : JsString} {payload : Value}
    (h : (deployHash env label payload).Returns s hash s') : s' = s.setDeployCounter (nextCount s.deployCounter) := by
  simp only [deployHash, Op.bind_returns, Op.get_returns, Op.modify_returns, Op.lift_returns, Op.pure_returns] at h
  obtain ⟨_, _, ⟨rfl, rfl⟩, _, _, rfl, _, _, ⟨-, rfl⟩, _, _, ⟨-, rfl⟩, -, rfl⟩ := h
  rfl

theorem emit_returns {event : CasperProofEvent} {u : PUnit} (h : (emit env event).Returns s u s') :
    s' = s.record event := by
  simp only [emit, Op.bind_returns, Op.get_returns, Op.modify_returns, Op.failIf_returns] at h
  obtain ⟨_, _, rfl, _, _, ⟨rfl, rfl⟩, -, rfl⟩ := h
  rfl

theorem getAttestation_returns {id : ℕ} {a : Attestation} :
    (getAttestation id).Returns s a s' ↔ s.attestations.get id = some a ∧ s = s' := by
  simp only [getAttestation, Op.bind_returns, Op.get_returns, Op.orFail_returns]
  constructor
  · rintro ⟨_, _, ⟨rfl, rfl⟩, h⟩
    exact h
  · intro h
    exact ⟨s, s, ⟨rfl, rfl⟩, h⟩

/-- **What `submitAttestation` stores**, under the next id. -/
theorem submitAttestation_returns {args : SubmitAttestationArgs} {r : SubmitAttestationResult}
    (h : (submitAttestation env args).Returns s r s') :
    ∃ hashes, computeCommitment env.blake2b256
        ⟨args.input, args.output, args.modelId, args.timestamp.getD env.now⟩ = .ok hashes ∧
      r.id = s.nextAttestationId ∧
      s'.attestations = s.attestations.set r.id (newAttestation args hashes (args.timestamp.getD env.now) r.id) := by
  simp only [submitAttestation, Op.bind_returns, Op.get_returns, Op.modify_returns, Op.orFail_returns,
    Op.failIf_returns, Op.lift_returns, Op.pure_returns] at h
  obtain ⟨stake, _, ⟨-, rfl⟩, _, _, ⟨-, rfl⟩, hashes, _, ⟨hh, rfl⟩, _, _, ⟨rfl, rfl⟩, _, _, rfl, hash, s₁, hd, _, s₂,
    he, rfl, rfl⟩ := h
  refine ⟨hashes, hh, rfl, ?_⟩
  rw [emit_returns he, deployHash_returns hd]
  rfl

/-! ## What the operations throw -/

theorem deployHash_throws {label : JsString} {payload : Value}
    (h : (deployHash env label payload).Throws s e s') : ∃ c, e = .commitment c := by
  simp only [deployHash, Op.bind_throws, Op.get_throws, Op.get_returns, Op.modify_throws, Op.modify_returns,
    Op.lift_throws, Op.pure_throws, false_or, and_false, exists_false, or_false] at h
  obtain ⟨_, _, ⟨rfl, rfl⟩, _, _, rfl, ⟨⟨c, -, rfl⟩, -⟩ | ⟨_, _, -, ⟨c, -, rfl⟩, -⟩⟩ := h
  · exact ⟨_, rfl⟩
  · exact ⟨_, rfl⟩

theorem emit_throws {event : CasperProofEvent} (h : (emit env event).Throws s e s') : e = .handler := by
  simp only [emit, Op.bind_throws, Op.get_throws, Op.get_returns, Op.modify_throws, Op.modify_returns,
    Op.failIf_throws, false_or] at h
  obtain ⟨_, _, rfl, _, _, ⟨rfl, rfl⟩, -, rfl, -⟩ := h
  rfl

/-- **When `submitClaim` rejects a policy as expired.** -/
theorem submitClaim_expired_iff {policyId attestationId : ℕ} {policy : Policy}
    (hget : s.policies.get policyId = some policy) :
    (∃ s', (submitClaim env policyId attestationId).Throws s (.policyExpired policyId) s') ↔ isExpired env policy := by
  constructor
  · rintro ⟨s', h⟩
    by_contra hne
    simp only [submitClaim, Op.bind_throws, Op.get_throws, Op.get_returns, Op.orFail_throws, Op.orFail_returns,
      false_or] at h
    obtain ⟨_, _, ⟨rfl, rfl⟩, ⟨hnone, -⟩ | ⟨p, _, ⟨hp, rfl⟩, h⟩⟩ := h
    · cases hget.symm.trans hnone
    · cases hget.symm.trans hp
      simp only [if_neg hne, Op.bind_throws, Op.orFail_throws, Op.orFail_returns] at h
      rcases h with ⟨-, h, -⟩ | ⟨att, _, ⟨-, rfl⟩, h⟩
      · cases h
      · split at h
        · cases (Op.throw_throws.1 h).1
        · simp only [Op.bind_throws, Op.failIf_throws, Op.modify_throws, Op.pure_throws, and_false, exists_false,
            or_false, false_or] at h
          rcases h with ⟨-, h, -⟩ | ⟨_, _, -, _, _, -, h | ⟨_, _, -, h⟩⟩
          · cases h
          · obtain ⟨c, hc⟩ := deployHash_throws h
            cases hc
          · cases emit_throws h
  · intro hexp
    refine ⟨s.setPolicy policyId { policy with status := .expired }, ?_⟩
    simp only [submitClaim, Op.bind_throws, Op.get_throws, Op.get_returns, Op.orFail_throws, Op.orFail_returns,
      false_or]
    refine ⟨s, s, ⟨rfl, rfl⟩, .inr ⟨policy, s, ⟨hget, rfl⟩, ?_⟩⟩
    rw [if_pos hexp]
    simp only [Op.bind_throws, Op.modify_throws, Op.modify_returns, Op.throw_throws, false_or]
    exact ⟨⟨⟩, _, rfl, trivial, rfl⟩

end

end CasperProof.Sdk
