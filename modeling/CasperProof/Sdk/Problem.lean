/-
  The typed errors of the SDK — `errors.ts`, with the decoding of RFC 7807
  problem bodies.
-/
import CasperProof.Lib.Js.Object

namespace CasperProof.Sdk

open Js
open Json (lookup)

inductive ErrorCode where
  | attestationNotFound
  | insufficientStake
  | disputeWindowClosed
  | alreadyChallenged
  | unauthorized
  | attestationNotActive
  | tamperedPayload
  | payloadUnavailable
  | policyNotFound
  | policyExpired
  | triggerNotCovered
  | vaultInsolvent
  | paymentRequired
  | internalError
deriving DecidableEq, Repr

namespace ErrorCode

/-- The string that a code is. -/
def text : ErrorCode → JsString
  | attestationNotFound => lit "ATTESTATION_NOT_FOUND"
  | insufficientStake => lit "INSUFFICIENT_STAKE"
  | disputeWindowClosed => lit "DISPUTE_WINDOW_CLOSED"
  | alreadyChallenged => lit "ALREADY_CHALLENGED"
  | unauthorized => lit "UNAUTHORIZED"
  | attestationNotActive => lit "ATTESTATION_NOT_ACTIVE"
  | tamperedPayload => lit "TAMPERED_PAYLOAD"
  | payloadUnavailable => lit "PAYLOAD_UNAVAILABLE"
  | policyNotFound => lit "POLICY_NOT_FOUND"
  | policyExpired => lit "POLICY_EXPIRED"
  | triggerNotCovered => lit "TRIGGER_NOT_COVERED"
  | vaultInsolvent => lit "VAULT_INSOLVENT"
  | paymentRequired => lit "PAYMENT_REQUIRED"
  | internalError => lit "INTERNAL_ERROR"

/-- `ERROR_CODES`. -/
def errorCodes : List ErrorCode :=
  [attestationNotFound, insufficientStake, disputeWindowClosed, alreadyChallenged, unauthorized,
    attestationNotActive, tamperedPayload, payloadUnavailable, policyNotFound, policyExpired, triggerNotCovered,
    vaultInsolvent, paymentRequired, internalError]

/-- `STATUS_BY_CODE`. -/
def statusForCode : ErrorCode → ℕ
  | attestationNotFound | policyNotFound => 404
  | insufficientStake | tamperedPayload | triggerNotCovered => 422
  | disputeWindowClosed | alreadyChallenged | attestationNotActive | policyExpired | vaultInsolvent => 409
  | unauthorized => 403
  | payloadUnavailable => 502
  | paymentRequired => 402
  | internalError => 500

theorem mem_errorCodes (code : ErrorCode) : code ∈ errorCodes := by
  cases code <;> decide

/-- No two codes have the same text. -/
theorem text_injective {code code' : ErrorCode} (h : code.text = code'.text) : code = code' := by
  have hnodup : (errorCodes.map text).Nodup := by decide +kernel
  exact List.inj_on_of_nodup_map hnodup code.mem_errorCodes code'.mem_errorCodes h

end ErrorCode

/-- `CODE_BY_STATUS`. -/
def codeByStatus (status : ℕ) : Option ErrorCode :=
  if status = 402 then some .paymentRequired
  else if status = 403 then some .unauthorized
  else if status = 404 then some .attestationNotFound
  else if status = 409 then some .attestationNotActive
  else if status = 422 then some .tamperedPayload
  else if status = 502 then some .payloadUnavailable
  else none

/-- `isErrorCode`, with the code that the value is. -/
def isErrorCode : Option Value → Option ErrorCode
  | some (.str s) => ErrorCode.errorCodes.find? fun code => code.text = s
  | _ => none

structure CasperProofSdkError where
  code : ErrorCode
  message : JsString
  detail : Option (List (JsString × Value))
  status : ℕ

def internalError (message : JsString) : CasperProofSdkError :=
  ⟨.internalError, message, none, ErrorCode.statusForCode .internalError⟩

/-- `Object.entries` of a parsed body, none for what is not an object. -/
def entries : Value → List (JsString × Value)
  | .obj ms => ms
  | .arr xs => xs.zipIdx.map fun x => (decimal x.2, x.1)
  | _ => []

/-- The string member under a key. -/
def stringMember (problem : List (JsString × Value)) (key : JsString) : Option JsString :=
  match lookup key problem with
  | some (.str s) => some s
  | _ => none

/-- The members that are no extension members. -/
def standardMembers : List JsString := [lit "type", lit "title", lit "status", lit "detail", lit "code"]

def errorFromProblem (status : ℕ) (body : Value) : CasperProofSdkError :=
  let problem := entries body
  let code := (isErrorCode (lookup (lit "code") problem)).getD ((codeByStatus status).getD .internalError)
  let title := stringMember problem (lit "title")
  let detailText := stringMember problem (lit "detail")
  let message := (detailText.or title).getD (lit "Request failed with status " ++ decimal status ++ lit ".")
  let detail := assignAll (problem.filter fun m => m.1 ∉ standardMembers)
  ⟨code, message, if 0 < detail.length then some detail else none, status⟩

/-- Every code is recognised by its own text. -/
theorem isErrorCode_text (code : ErrorCode) : isErrorCode (some (.str code.text)) = some code := by
  cases hfind : ErrorCode.errorCodes.find? fun code' => code'.text = code.text with
  | none =>
    have hnone := List.find?_eq_none.1 hfind code code.mem_errorCodes
    simp at hnone
  | some code' =>
    have htext : code'.text = code.text := by simpa using List.find?_some hfind
    rw [isErrorCode, hfind, ErrorCode.text_injective htext]

end CasperProof.Sdk
