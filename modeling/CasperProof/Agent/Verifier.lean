/-
  The attestor and the verifier — `attest` and `verify` over the mock backend
  and the in-memory store.

  * `checkPayload`: what `verify` computes from an attestation and the payload
    it fetched.
  * `checkPayload_valid`: a payload is valid iff its output has the attested
    hash and, if it is a full wrapper, it commits to the attested hashes.
-/
import CasperProof.Agent.Store
import CasperProof.Commitment.Binding
import CasperProof.Sdk.MockBackend

namespace CasperProof.Agent

open Js Commitment Sdk
open Json (lookup)

inductive AgentError where
  | sdk (e : SdkError)
  | store (e : StoreError)
  | commitment (e : CommitmentError)

variable {H : Type}

/-- The state of the SDK's backend, and the stored objects. -/
abbrev AgentState (H : Type) := MockState H × MemoryBackend

abbrev AgentOp (H α : Type) := Op (AgentState H) AgentError α

/-! ## Attesting -/

structure AttestArgs where
  input : Value
  output : Value
  modelId : JsString
  timestamp : Option JsNumber := none
  stake : Option JsString := none
  attestor : Option JsString := none

structure AttestResult extends SubmitAttestationResult where
  uri : JsString

/-- The stake of `AgentConfig`. -/
structure AgentConfig where
  attestationStake : JsString := lit "2000000000"

/-- The full off-chain payload. -/
def attestPayload (args : AttestArgs) (timestamp : JsNumber) : Value :=
  .obj [(lit "modelId", .str args.modelId), (lit "input", args.input), (lit "output", args.output),
    (lit "timestamp", .num timestamp)]

/-- `now` is the time in seconds. -/
def attest (env : MockEnv H) (bucket : JsString) (now : JsNumber) (args : AttestArgs) (config : AgentConfig) :
    AgentOp H AttestResult := do
  let timestamp := args.timestamp.getD now
  let uri ← Op.onSnd .store (PayloadStore.put env.blake2b256 bucket (.json (attestPayload args timestamp)))
  let submit ← Op.onFst .sdk (submitAttestation env {
    modelId := args.modelId
    input := args.input
    output := args.output
    timestamp := some timestamp
    uri
    stake := args.stake.getD config.attestationStake
    attestor := args.attestor })
  pure { submit with uri }

/-! ## Verifying -/

structure VerifyResult where
  valid : Bool
  recomputedHash : JsString
  onchainHash : JsString
  attestor : JsString
  stake : JsString
  reputation : Sdk.Reputation
  uri : JsString

structure PayloadWrapper where
  modelId : JsString
  input : Value
  output : Value
  timestamp : JsNumber

def extractOutput : Value → Value
  | .obj ms => (lookup (lit "output") ms).getD (.obj ms)
  | payload => payload

def asWrapper : Value → Option PayloadWrapper
  | .obj ms =>
    match lookup (lit "modelId") ms, lookup (lit "timestamp") ms, lookup (lit "input") ms, lookup (lit "output") ms with
    | some (.str modelId), some (.num timestamp), some input, some output => some ⟨modelId, input, output, timestamp⟩
    | _, _, _, _ => none
  | _ => none

/-- The recomputed output hash, and whether the payload is valid. -/
def checkPayload (blake2b256 : Blake2b) (attestation : Sdk.Attestation) (payload : Value) :
    Except CommitmentError (JsString × Bool) := do
  let recomputedHash ← (hashPayload blake2b256 (extractOutput payload)).mapError .canonical
  let valid := verifyOutputHash recomputedHash attestation.outputHash
  match asWrapper payload with
  | none => pure (recomputedHash, valid)
  | some wrapper =>
    let recomputedInput ← (hashPayload blake2b256 wrapper.input).mapError .canonical
    let recomputedCommitment ←
      (commitmentFromHashes blake2b256 recomputedInput recomputedHash wrapper.modelId wrapper.timestamp).mapError .hash
    pure (recomputedHash, valid && verifyOutputHash recomputedInput attestation.inputHash &&
      verifyOutputHash recomputedCommitment attestation.commitment)

def verify (env : MockEnv H) (id : ℕ) : AgentOp H VerifyResult := do
  let attestation ← Op.onFst .sdk (getAttestation id)
  let payload ← Op.onSnd .store (PayloadStore.getJson attestation.uri)
  let (recomputedHash, valid) ← Op.lift .commitment (checkPayload env.blake2b256 attestation payload)
  let reputation ← Op.onFst .sdk (attestorReputation attestation.attestor)
  pure {
    valid
    recomputedHash
    onchainHash := attestation.outputHash
    attestor := attestation.attestor
    stake := attestation.stake
    reputation
    uri := attestation.uri }

/-! ## What is checked -/

/-- The hashes of an attestation. -/
def hashesOf (a : Sdk.Attestation) : CommitmentResult := ⟨a.inputHash, a.outputHash, a.commitment⟩

theorem asWrapper_output {payload : Value} {wrapper : PayloadWrapper} (h : asWrapper payload = some wrapper) :
    extractOutput payload = wrapper.output := by
  unfold asWrapper at h
  split at h
  · split at h
    · rename_i houtput
      cases h
      rw [extractOutput, houtput, Option.getD_some]
    · cases h
  · cases h

/-- The commitment of a wrapper. -/
def PayloadWrapper.commit (wrapper : PayloadWrapper) : CommitmentInput :=
  ⟨wrapper.input, wrapper.output, wrapper.modelId, wrapper.timestamp⟩

variable {blake2b256 : Blake2b} {a : Sdk.Attestation} {payload : Value} {h : JsString}

/-- Computed hashes are compared as they are. -/
theorem hashes_valid_iff {x y : CommitmentInput} {r r' : CommitmentResult}
    (hx : computeCommitment blake2b256 x = .ok r) (hy : computeCommitment blake2b256 y = .ok r') :
    (verifyOutputHash r.outputHash r'.outputHash && verifyOutputHash r.inputHash r'.inputHash &&
      verifyOutputHash r.commitment r'.commitment) = true ↔ r = r' := by
  obtain ⟨i, o, p, -, -, -, rfl⟩ := computeCommitment_digest.1 hx
  obtain ⟨i', o', q, -, -, -, rfl⟩ := computeCommitment_digest.1 hy
  simp only [Bool.and_eq_true, verifyOutputHash_digest, CommitmentResult.mk.injEq]
  constructor
  · rintro ⟨⟨rfl, rfl⟩, hpq⟩
    exact ⟨rfl, rfl, by rw [hpq]⟩
  · rintro ⟨hi, ho, hp⟩
    exact ⟨⟨toHex_digest_injective ho, toHex_digest_injective hi⟩, toHex_digest_injective hp⟩

theorem checkPayload_none {valid : Bool} (hw : asWrapper payload = none) :
    checkPayload blake2b256 a payload = .ok (h, valid) ↔
      hashPayload blake2b256 (extractOutput payload) = .ok h ∧ verifyOutputHash h a.outputHash = valid := by
  simp only [checkPayload, hw, bind_eq_ok, mapError_eq_ok, pure_eq_ok, Prod.mk.injEq]
  constructor
  · rintro ⟨_, hh, rfl, hv⟩
    exact ⟨hh, hv⟩
  · rintro ⟨hh, hv⟩
    exact ⟨h, hh, rfl, hv⟩

theorem checkPayload_some {wrapper : PayloadWrapper} {valid : Bool} (hw : asWrapper payload = some wrapper) :
    checkPayload blake2b256 a payload = .ok (h, valid) ↔
      ∃ r, computeCommitment blake2b256 wrapper.commit = .ok r ∧ r.outputHash = h ∧
        (verifyOutputHash r.outputHash a.outputHash && verifyOutputHash r.inputHash a.inputHash &&
          verifyOutputHash r.commitment a.commitment) = valid := by
  simp only [checkPayload, hw, asWrapper_output hw, computeCommitment, PayloadWrapper.commit, bind_eq_ok,
    mapError_eq_ok, pure_eq_ok, Prod.mk.injEq]
  constructor
  · rintro ⟨_, ho, _, hi, _, hc, rfl, hv⟩
    exact ⟨_, ⟨_, hi, _, ho, _, hc, rfl⟩, rfl, hv⟩
  · rintro ⟨_, ⟨_, hi, _, ho, _, hc, rfl⟩, rfl, hv⟩
    exact ⟨_, ho, _, hi, _, hc, rfl, hv⟩

/-- **When a payload is valid** for an attestation with computed hashes. -/
theorem checkPayload_valid {x : CommitmentInput} (hx : computeCommitment blake2b256 x = .ok (hashesOf a)) :
    checkPayload blake2b256 a payload = .ok (h, true) ↔ h = a.outputHash ∧
      hashPayload blake2b256 (extractOutput payload) = .ok a.outputHash ∧
      ∀ wrapper, asWrapper payload = some wrapper →
        computeCommitment blake2b256 wrapper.commit = .ok (hashesOf a) := by
  cases hw : asWrapper payload with
  | none =>
    rw [checkPayload_none hw]
    have hdigest : ∃ d : Vector UInt8 hashLength, a.outputHash = toHex d.toList := by
      obtain ⟨i, o, p, -, -, -, heq⟩ := computeCommitment_digest.1 hx
      exact ⟨o, congrArg CommitmentResult.outputHash heq⟩
    obtain ⟨d, hd⟩ := hdigest
    constructor
    · rintro ⟨hh, hv⟩
      obtain ⟨d', -, rfl⟩ := hashPayload_digest.1 hh
      rw [hd, verifyOutputHash_digest] at hv
      subst hv
      exact ⟨hd.symm, hd ▸ hh, by simp⟩
    · rintro ⟨rfl, hh, -⟩
      exact ⟨hh, by rw [hd, verifyOutputHash_digest]⟩
  | some wrapper =>
    rw [checkPayload_some hw]
    constructor
    · rintro ⟨r, hr, rfl, hv⟩
      obtain rfl := (hashes_valid_iff hr hx).1 hv
      refine ⟨rfl, ?_, ?_⟩
      · rw [asWrapper_output hw]
        exact (computeCommitment_ok.1 hr).2.1
      · rintro _ ⟨rfl⟩
        exact hr
    · rintro ⟨rfl, -, hall⟩
      have hr := hall wrapper rfl
      exact ⟨_, hr, rfl, (hashes_valid_iff hr hx).2 rfl⟩

end CasperProof.Agent
