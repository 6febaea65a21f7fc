/-
  The data of the SDK — `types.ts` and the errors of `errors.ts`.
-/
import CasperProof.Contracts.Types
import CasperProof.Commitment.Commitment

namespace CasperProof.Sdk

open Js Commitment

/-- The insurance trigger taxonomy. -/
inductive TriggerType where
  | exploit
  | oracleFailure
  | agentError
  | governanceAttack
deriving DecidableEq, Repr

/-- The string that a trigger type is. -/
def TriggerType.text : TriggerType → JsString
  | exploit => lit "exploit"
  | oracleFailure => lit "oracle_failure"
  | agentError => lit "agent_error"
  | governanceAttack => lit "governance_attack"

inductive PolicyStatus where
  | active
  | claimed
  | expired
deriving DecidableEq, Repr

structure Attestation where
  id : ℕ
  attestor : JsString
  modelId : JsString
  inputHash : JsString
  outputHash : JsString
  commitment : JsString
  uri : JsString
  stake : JsString
  createdAt : JsNumber
  status : AttestationStatus
  challenger : Option JsString
deriving DecidableEq

structure SubmitAttestationArgs where
  modelId : JsString
  input : Value
  output : Value
  timestamp : Option JsNumber
  uri : JsString
  stake : JsString
  attestor : Option JsString

structure SubmitAttestationResult where
  id : ℕ
  deployHash : JsString
  commitment : JsString
  inputHash : JsString
  outputHash : JsString
  status : AttestationStatus
deriving DecidableEq

/-- A reputation record; `score` is an exact quotient. -/
structure Reputation where
  address : JsString
  successful : ℕ
  slashed : ℕ
  challengesDefended : ℕ
  score : ℚ
deriving DecidableEq

/-- The name of a lifecycle status. -/
def statusText : AttestationStatus → JsString
  | .active => lit "Active"
  | .challenged => lit "Challenged"
  | .slashed => lit "Slashed"
  | .finalized => lit "Finalized"

structure DeployResult where
  deployHash : JsString
  id : Option ℕ
  status : Option AttestationStatus
deriving DecidableEq

structure CreatePolicyArgs where
  coverage : JsString
  premium : JsString
  triggerTypes : List TriggerType
  expiry : JsNumber
  holder : Option JsString

structure Policy where
  id : ℕ
  holder : JsString
  coverage : JsString
  premium : JsString
  triggerTypes : List TriggerType
  expiry : JsNumber
  status : PolicyStatus
deriving DecidableEq

structure ClaimResult where
  deployHash : JsString
  policyId : ℕ
  attestationId : ℕ
  paid : Bool
  amount : JsString
deriving DecidableEq

/-- A coarse risk tier. -/
inductive RiskTier where
  | low
  | medium
  | high
deriving DecidableEq, Repr

structure RiskScore where
  address : JsString
  score : ℕ
  tier : RiskTier
deriving DecidableEq

inductive EventName where
  | attestationSubmitted
  | challenged
  | resolved
  | claimPaid
deriving DecidableEq, Repr

structure CasperProofEvent where
  name : EventName
  id : ℕ
  timestamp : JsNumber
  data : Value

/-- What a backend operation throws: the `CasperProofSdkError`s with their
    detail, the errors of the commitment package, a `SyntaxError` of `BigInt`,
    and what an event handler throws. -/
inductive SdkError where
  | attestationNotFound (id : ℕ)
  | policyNotFound (id : ℕ)
  | insufficientStake (required provided : JsString)
  | alreadyChallenged (id : ℕ)
  | attestationNotActive (id : ℕ) (status : JsString)
  | policyExpired (id : ℕ)
  | triggerNotCovered (policyId : ℕ) (trigger : JsString)
  | commitment (e : CommitmentError)
  | notBigInt (text : JsString)
  | handler
deriving DecidableEq

/-- The number that an id or a counter is. -/
def number (n : ℕ) : JsNumber := .real n

end CasperProof.Sdk
