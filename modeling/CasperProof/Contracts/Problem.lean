/-
  The error taxonomy of the contracts — `CasperProofError` of
  `contracts/problem`, and the RFC 7807 problem of each error.

  Texts are UTF-16, as the body's readers see them.
-/
import CasperProof.Contracts.Types
import CasperProof.Lib.Js.Object

namespace CasperProof.Rfc7807

open Js

inductive CasperProofError where
  | attestationNotFound (id : U64)
  | insufficientStake (required provided : String)
  | disputeWindowClosed (id : U64)
  | alreadyChallenged (id : U64)
  | unauthorized (action : String)
  | attestationNotActive (id : U64) (status : String)
  | tamperedPayload (id : U64) (onchainHash recomputedHash : String)
  | payloadUnavailable (uri : String)
  | policyNotFound (id : U64)
  | policyExpired (id : U64)
  | triggerNotCovered (policyId : U64) (trigger : String)
  | vaultInsolvent (required available : String)
  | paymentRequired (priceUsd payTo : String)
  | internal (detail : String)
deriving DecidableEq

/-- The value of an extension member. -/
inductive Extension where
  | number (n : U64)
  | text (s : String)
  | flag (b : Bool)
deriving DecidableEq

/-- A `Problem`, without the internal cause, which is never serialized. -/
structure Problem where
  type_ : JsString
  title : JsString
  status : ℕ
  detail : Option JsString
  code : JsString
  extensions : List (JsString × Extension)

def typeUri (slug : JsString) : JsString := lit "https://casperproof.com/problems/" ++ slug

namespace CasperProofError

def code : CasperProofError → JsString
  | attestationNotFound _ => lit "ATTESTATION_NOT_FOUND"
  | insufficientStake _ _ => lit "INSUFFICIENT_STAKE"
  | disputeWindowClosed _ => lit "DISPUTE_WINDOW_CLOSED"
  | alreadyChallenged _ => lit "ALREADY_CHALLENGED"
  | unauthorized _ => lit "UNAUTHORIZED"
  | attestationNotActive _ _ => lit "ATTESTATION_NOT_ACTIVE"
  | tamperedPayload _ _ _ => lit "TAMPERED_PAYLOAD"
  | payloadUnavailable _ => lit "PAYLOAD_UNAVAILABLE"
  | policyNotFound _ => lit "POLICY_NOT_FOUND"
  | policyExpired _ => lit "POLICY_EXPIRED"
  | triggerNotCovered _ _ => lit "TRIGGER_NOT_COVERED"
  | vaultInsolvent _ _ => lit "VAULT_INSOLVENT"
  | paymentRequired _ _ => lit "PAYMENT_REQUIRED"
  | internal _ => lit "INTERNAL_ERROR"

def slug : CasperProofError → JsString
  | attestationNotFound _ => lit "attestation-not-found"
  | insufficientStake _ _ => lit "insufficient-stake"
  | disputeWindowClosed _ => lit "dispute-window-closed"
  | alreadyChallenged _ => lit "already-challenged"
  | unauthorized _ => lit "unauthorized"
  | attestationNotActive _ _ => lit "attestation-not-active"
  | tamperedPayload _ _ _ => lit "tampered-payload"
  | payloadUnavailable _ => lit "payload-unavailable"
  | policyNotFound _ => lit "policy-not-found"
  | policyExpired _ => lit "policy-expired"
  | triggerNotCovered _ _ => lit "trigger-not-covered"
  | vaultInsolvent _ _ => lit "vault-insolvent"
  | paymentRequired _ _ => lit "payment-required"
  | internal _ => lit "internal-error"

def status : CasperProofError → ℕ
  | attestationNotFound _ | policyNotFound _ => 404
  | insufficientStake _ _ | tamperedPayload _ _ _ | triggerNotCovered _ _ => 422
  | disputeWindowClosed _ | alreadyChallenged _ | attestationNotActive _ _ | policyExpired _ | vaultInsolvent _ _ => 409
  | unauthorized _ => 403
  | payloadUnavailable _ => 502
  | paymentRequired _ _ => 402
  | internal _ => 500

def title : CasperProofError → JsString
  | attestationNotFound _ => lit "Attestation not found"
  | insufficientStake _ _ => lit "Insufficient stake"
  | disputeWindowClosed _ => lit "Dispute window closed"
  | alreadyChallenged _ => lit "Attestation already challenged"
  | unauthorized _ => lit "Unauthorized"
  | attestationNotActive _ _ => lit "Attestation not active"
  | tamperedPayload _ _ _ => lit "Tampered payload — verification failed"
  | payloadUnavailable _ => lit "Payload unavailable"
  | policyNotFound _ => lit "Policy not found"
  | policyExpired _ => lit "Policy expired"
  | triggerNotCovered _ _ => lit "Trigger not covered"
  | vaultInsolvent _ _ => lit "Vault insolvent"
  | paymentRequired _ _ => lit "Payment required"
  | internal _ => lit "Internal error"

def detail : CasperProofError → Option JsString
  | attestationNotFound id => some (lit "No attestation exists with id " ++ decimal id.val ++ lit ".")
  | insufficientStake required provided => some (lit "Attached stake " ++ lit provided ++
      lit " is below the required minimum " ++ lit required ++ lit ".")
  | disputeWindowClosed id => some (lit "The dispute window for attestation " ++ decimal id.val ++
      lit " has elapsed; it can no longer be challenged.")
  | alreadyChallenged id => some (lit "Attestation " ++ decimal id.val ++ lit " is already under challenge.")
  | unauthorized action => some (lit "Caller is not permitted to perform action `" ++ lit action ++ lit "`.")
  | attestationNotActive id status => some (lit "Attestation " ++ decimal id.val ++ lit " is in state `" ++
      lit status ++ lit "` and cannot be acted upon.")
  | tamperedPayload _ _ _ => some (lit ("The recomputed output hash does not match the on-chain commitment. " ++
      "The off-chain payload has been altered."))
  | payloadUnavailable _ => some (lit "The off-chain payload could not be fetched from the object store.")
  | policyNotFound id => some (lit "No insurance policy exists with id " ++ decimal id.val ++ lit ".")
  | policyExpired id => some (lit "Policy " ++ decimal id.val ++ lit " has expired and cannot be claimed against.")
  | triggerNotCovered policyId trigger => some (lit "Trigger `" ++ lit trigger ++ lit "` is not covered by policy " ++
      decimal policyId.val ++ lit ".")
  | vaultInsolvent required available => some (lit "Vault cannot cover payout of " ++ lit required ++ lit "; only " ++
      lit available ++ lit " is available above the solvency guard.")
  | paymentRequired priceUsd payTo => some (lit "This resource is x402-gated. Pay " ++ lit priceUsd ++
      lit " USD to `" ++ lit payTo ++ lit "` then retry with an X-PAYMENT header.")
  | internal _ => none

def extensions : CasperProofError → List (JsString × Extension)
  | attestationNotFound id | disputeWindowClosed id | alreadyChallenged id => [(lit "attestation_id", .number id)]
  | insufficientStake required provided =>
    [(lit "required_stake", .text required), (lit "provided_stake", .text provided)]
  | unauthorized action => [(lit "action", .text action)]
  | attestationNotActive id status => [(lit "attestation_id", .number id), (lit "attestation_status", .text status)]
  | tamperedPayload id onchainHash recomputedHash =>
    [(lit "attestation_id", .number id), (lit "onchain_hash", .text onchainHash),
      (lit "recomputed_hash", .text recomputedHash), (lit "valid", .flag false)]
  | payloadUnavailable uri => [(lit "uri", .text uri)]
  | policyNotFound id | policyExpired id => [(lit "policy_id", .number id)]
  | triggerNotCovered policyId trigger => [(lit "policy_id", .number policyId), (lit "trigger", .text trigger)]
  | vaultInsolvent required available => [(lit "required", .text required), (lit "available", .text available)]
  | paymentRequired priceUsd payTo => [(lit "price_usd", .text priceUsd), (lit "pay_to", .text payTo)]
  | internal _ => []

def intoProblem (e : CasperProofError) : Problem where
  type_ := typeUri e.slug
  title := e.title
  status := e.status
  detail := e.detail
  code := e.code
  extensions := e.extensions

end CasperProofError

/-! ## The body -/

/-- The value that `JSON.parse` reads; an id is rounded to a double. -/
def Extension.value : Extension → Value
  | number n => .num (ofDecimal false n.val)
  | text s => .str (lit s)
  | flag b => .bool b

/-- The members of the serialized problem. -/
def Problem.members (p : Problem) : List (JsString × Value) :=
  [(lit "type", .str p.type_), (lit "title", .str p.title), (lit "status", .num (.real p.status))] ++
    (p.detail.map fun detail => (lit "detail", .str detail)).toList ++ [(lit "code", .str p.code)] ++
    p.extensions.map fun m => (m.1, m.2.value)

/-- What the body of a response is parsed to: an object with the members of the
    problem, in the order in which they were serialized. -/
def Problem.Body (p : Problem) (body : Value) : Prop := ∃ ms, body = .obj ms ∧ ms.Perm p.members

end CasperProof.Rfc7807
