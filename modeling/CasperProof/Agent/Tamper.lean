/-
  What the verifier detects.

  The object under the URI of an attestation is replaced by arbitrary bytes
  that parse as JSON.  `verify_sound`: if the verifier still answers `valid`,
  then the output is the attested one, and so are the input, the model id and
  the timestamp if the payload is a full wrapper.  A payload that is not —
  without a model id, say, or with a timestamp that is no number — is only
  asked for its output (`unwrapped_payload_passes`).
-/
import CasperProof.Agent.Verifier
import CasperProof.Commitment.RoundTrip

namespace CasperProof.Agent

open Js Commitment Sdk
open Json (lookup)

variable {H : Type} {env : MockEnv H} {w w' : AgentState H}

/-! ## The operations -/

theorem attestorReputation_returns {s s' : MockState H} {address : JsString} {r : Sdk.Reputation}
    (h : (attestorReputation address).Returns s r s') : s = s' := by
  simp only [attestorReputation, Op.bind_returns, Op.get_returns, Op.pure_returns] at h
  obtain ⟨_, _, ⟨-, rfl⟩, -, rfl⟩ := h
  rfl

/-- **What `verify` computes.** -/
theorem verify_returns {id : ℕ} {v : VerifyResult} (h : (verify env id).Returns w v w') :
    ∃ a bytes payload, w.1.attestations.get id = some a ∧ Holds w.2 a.uri bytes ∧
      jsonParse (textDecode bytes) = some payload ∧
      checkPayload env.blake2b256 a payload = .ok (v.recomputedHash, v.valid) ∧ w = w' := by
  simp only [verify, Op.bind_returns, Op.onFst_returns, Op.onSnd_returns, getAttestation_returns,
    PayloadStore.getJson_returns, Op.lift_returns, Op.pure_returns] at h
  obtain ⟨a, w₁, ⟨⟨ha, h₁⟩, h₂⟩, payload, w₂, ⟨⟨⟨bytes, hb, hp⟩, h₃⟩, h₄⟩, ⟨rh, valid⟩, _, ⟨hc, rfl⟩, rep, w₃,
    ⟨hr, h₅⟩, rfl, rfl⟩ := h
  have h₆ := attestorReputation_returns hr
  refine ⟨a, bytes, payload, ha, h₂ ▸ hb, hp, hc, Prod.ext ?_ ?_⟩
  · exact h₁.trans (h₄.trans h₆)
  · exact h₂.trans (h₃.trans h₅)

/-- What an attestation says of its payload: its hashes and where it is. -/
def recordOf (a : Sdk.Attestation) : CommitmentResult × JsString := (hashesOf a, a.uri)

theorem submitAttestation_record {args : SubmitAttestationArgs} {r : SubmitAttestationResult} {s s' : MockState H}
    (h : (submitAttestation env args).Returns s r s') :
    ∃ a, s'.attestations.get r.id = some a ∧ a.uri = args.uri ∧
      computeCommitment env.blake2b256 ⟨args.input, args.output, args.modelId, args.timestamp.getD env.now⟩ =
        .ok (hashesOf a) := by
  obtain ⟨hashes, hcommit, -, hset⟩ := submitAttestation_returns h
  refine ⟨_, by rw [hset]; exact Mapping.get_set_self .., rfl, ?_⟩
  exact hcommit

/-- **What `attest` records.** -/
theorem attest_returns {bucket : JsString} {now : JsNumber} {args : AttestArgs} {config : AgentConfig}
    {r : AttestResult} (h : (attest env bucket now args config).Returns w r w') :
    ∃ a, w'.1.attestations.get r.id = some a ∧ a.uri = r.uri ∧
      computeCommitment env.blake2b256 ⟨args.input, args.output, args.modelId, args.timestamp.getD now⟩ =
        .ok (hashesOf a) := by
  simp only [attest, Op.bind_returns, Op.onFst_returns, Op.onSnd_returns, Op.pure_returns] at h
  obtain ⟨uri, w₁, -, submit, w₂, ⟨hs, -⟩, rfl, rfl⟩ := h
  exact submitAttestation_record hs

/-! ## Parts of a payload -/

theorem distinct_lookup {ms : Json.Members JsNumber JsString} (h : (Json.obj ms : Value).Distinct) {k : JsString}
    {v : Value} (hk : lookup k ms = some v) : v.Distinct := by
  rw [Json.Distinct, Json.every_obj] at h
  exact (h.2 _ ((Json.lookup_eq_some h.1).1 hk)).2

theorem distinct_extractOutput {payload : Value} (h : payload.Distinct) : (extractOutput payload).Distinct := by
  cases payload with
  | obj ms =>
    rw [extractOutput]
    cases hk : lookup (lit "output") ms with
    | none => exact h
    | some v => exact distinct_lookup h hk
  | _ => exact h

theorem distinct_wrapper {payload : Value} {wrapper : PayloadWrapper} (h : payload.Distinct)
    (hw : asWrapper payload = some wrapper) : wrapper.input.Distinct := by
  unfold asWrapper at hw
  split at hw
  · split at hw
    · rename_i hinput _
      cases hw
      exact distinct_lookup h hinput
    · cases hw
  · cases hw

/-! ## Soundness -/

/-- The digest function has no collision between the attested payload and what
    `payload` is asked for. -/
structure NoCollision (blake2b256 : Blake2b) (payload : Value) (attested : CommitmentInput) : Prop where
  output : ∀ a b, canonicalBytes (extractOutput payload) = .ok a → canonicalBytes attested.output = .ok b →
    Separates blake2b256 a b
  wrapper : ∀ wrapper, asWrapper payload = some wrapper → Separated blake2b256 wrapper.commit attested

/-- **The verifier is sound.**  Someone attests, and later the object under the
    URI is one that parses as `payload`.  If the verifier finds it valid, its
    output is the attested output; if it is a full wrapper, its input, model id
    and timestamp are the attested ones too. -/
theorem verify_sound {bucket : JsString} {now : JsNumber} {args : AttestArgs} {config : AgentConfig}
    {r : AttestResult} {w₀ w₁ : AgentState H} (hattest : (attest env bucket now args config).Returns w₀ r w₁)
    (hin : args.input.Distinct) (hout : args.output.Distinct)
    (hkept : (w.1.attestations.get r.id).map recordOf = (w₁.1.attestations.get r.id).map recordOf)
    {bytes : Bytes} {payload : Value} (hbytes : Holds w.2 r.uri bytes)
    (hpayload : jsonParse (textDecode bytes) = some payload)
    (hsep : NoCollision env.blake2b256 payload
      ⟨args.input, args.output, args.modelId, args.timestamp.getD now⟩)
    {v : VerifyResult} (hverify : (verify env r.id).Returns w v w') (hvalid : v.valid = true) :
    Same (dropProto (extractOutput payload)) (dropProto args.output) ∧
    ∀ wrapper, asWrapper payload = some wrapper →
      Same (dropProto wrapper.input) (dropProto args.input) ∧ scalars wrapper.modelId = scalars args.modelId ∧
        wrapper.timestamp.unsigned = (args.timestamp.getD now).unsigned := by
  obtain ⟨a₁, ha₁, huri, hcommit⟩ := attest_returns hattest
  obtain ⟨a, bytes', payload', ha, hbytes', hpayload', hcheck, -⟩ := verify_returns hverify
  have hrecord : recordOf a = recordOf a₁ := by
    rw [ha, ha₁, Option.map_some, Option.map_some] at hkept
    exact Option.some.inj hkept
  obtain ⟨hhashes, huris⟩ := Prod.mk.inj hrecord
  obtain rfl := hbytes.unique (huri ▸ huris ▸ hbytes')
  obtain rfl := Option.some.inj (hpayload.symm.trans hpayload')
  rw [hvalid] at hcheck
  rw [← hhashes] at hcommit
  obtain ⟨-, houtput, hwrapper⟩ := (checkPayload_valid hcommit).1 hcheck
  have hd := jsonParse_distinct hpayload
  have hattested := (computeCommitment_ok.1 hcommit).2.1
  constructor
  · obtain ⟨b, hb, -⟩ := hashPayload_ok.1 houtput
    obtain ⟨b', hb', -⟩ := hashPayload_ok.1 hattested
    obtain rfl := canonicalBytes_eq_of_hashPayload hb hb' (hsep.output b b' hb hb') houtput hattested
    exact same_of_canonicalBytes_eq (distinct_extractOutput hd) hout hb hb'
  · intro wrapper hw
    obtain ⟨⟨i, hi, hi'⟩, -, hmodel, htime⟩ :=
      computeCommitment_inj (hsep.wrapper wrapper hw) (hwrapper wrapper hw) hcommit
    exact ⟨same_of_canonicalBytes_eq (distinct_wrapper hd hw) hin hi hi', hmodel, htime⟩

/-! ## Replaced payloads -/

/-- A mock in June 2024, without event handlers. -/
def demoEnv : MockEnv Empty where
  blake2b256 := demoDigest
  now := number 1718600000
  throws := fun h => h.elim

def demoInput : Value := .obj [(lit "address", .str (lit "account-hash-pass"))]

def demoOutput : Value := .obj [(lit "score", .num (number 12)), (lit "tier", .str (lit "LOW"))]

def demoArgs : AttestArgs where
  input := demoInput
  output := demoOutput
  modelId := lit "casperproof-riskscorer-v1"

/-- Attest, and replace the payload. -/
def demoTamper (replacement : Value) : AgentOp Empty AttestResult := do
  let r ← attest demoEnv (lit "casperproof-payloads") (number 1718600000) demoArgs {}
  let _ ← Op.onSnd .store (PayloadStore.corrupt r.uri (some (.json replacement)))
  pure r

/-- Then verify. -/
def demoVerify (replacement : Value) : Option Bool :=
  ((do
    let r ← demoTamper replacement
    let v ← verify demoEnv r.id
    pure v.valid : AgentOp Empty Bool) (.fresh, .empty)).1.toOption

/-- The payload as it was stored, but with its keys in another order. -/
def reordered : Value :=
  .obj [(lit "timestamp", .num (number 1718600000)), (lit "output", demoOutput), (lit "input", demoInput),
    (lit "modelId", .str (lit "casperproof-riskscorer-v1"))]

theorem verify_sound_demo : ∃ payload, Same (dropProto (extractOutput payload)) (dropProto demoArgs.output) ∧
    ∀ wrapper, asWrapper payload = some wrapper →
      Same (dropProto wrapper.input) (dropProto demoArgs.input) ∧ scalars wrapper.modelId = scalars demoArgs.modelId ∧
        wrapper.timestamp.unsigned = (number 1718600000).unsigned := by
  have hrun : demoVerify reordered = some true := by decide +kernel
  obtain ⟨w', hrun⟩ := Op.toOption_eq_some.1 hrun
  simp only [demoTamper, Op.bind_returns, Op.onSnd_returns, Op.pure_returns] at hrun
  obtain ⟨r, w, ⟨_, w₁, hattest, _, w₂, ⟨hcorrupt, hkept⟩, rfl, rfl⟩, v, _, hverify, hvalid, rfl⟩ := hrun
  obtain ⟨bytes, bucket, key, hbytes, huri, -, hobjects⟩ := PayloadStore.corrupt_returns hcorrupt
  have hd : reordered.Distinct := by unfold Json.Distinct; decide +kernel
  have hpayload := jsonParse_canonicalBytes hd (toBytes_json.1 hbytes)
  have hparts : asWrapper (reordered.rebuild JsNumber.unsigned id arrange) =
      some ⟨demoArgs.modelId, demoInput, demoOutput, number 1718600000⟩ := by rfl
  refine ⟨_, verify_sound hattest ?_ ?_ (by rw [hkept]) (hobjects ▸ holds_set huri) hpayload ⟨?_, ?_⟩ hverify hvalid⟩
  · unfold Json.Distinct; decide +kernel
  · unfold Json.Distinct; decide +kernel
  · rw [asWrapper_output hparts]
    exact (Separated.refl _ ⟨demoInput, demoOutput, demoArgs.modelId, number 1718600000⟩).output
  · intro wrapper hw
    obtain rfl := Option.some.inj (hparts.symm.trans hw)
    exact Separated.refl _ _

/-- Another input, under another model id, with the attested output. -/
def forged : Json.Members JsNumber JsString :=
  [(lit "modelId", .str (lit "other")), (lit "input", .null), (lit "output", demoOutput),
    (lit "timestamp", .str (lit "none"))]

/-- The verifier finds the forged payload valid, and the bare output. -/
theorem unwrapped_payload_passes :
    demoVerify (.obj forged) = some true ∧ lookup (lit "input") forged = some .null ∧ ¬ Same .null demoInput ∧
      lookup (lit "modelId") forged = some (.str (lit "other")) ∧ demoArgs.modelId ≠ lit "other" ∧
    demoVerify demoOutput = some true ∧ asWrapper demoOutput = none := by
  refine ⟨by decide +kernel, rfl, ?_, rfl, by decide, by decide +kernel, rfl⟩
  intro h
  unfold Same Json.normalForm demoInput at h
  rw [Json.rebuild_obj] at h
  cases h

end CasperProof.Agent
