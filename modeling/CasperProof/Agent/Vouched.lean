/-
  Attestations whose payload is in the store.

  * `attest_effect`, `challenge_effect`: what an operation writes, whether it
    returns or throws.
  * `Vouched`: the payload is stored under the URI of the attestation and
    commits to its hashes.  That is what `attest` leaves behind, even if it
    throws, and `Vouched.verifies`: it is what `verify` checks.
-/
import CasperProof.Agent.Honest

namespace CasperProof.Agent

open Js Commitment Sdk

variable {H : Type}

/-! ## Attesting -/

/-- What `attest` submits. -/
def submissionArgs (args : AttestArgs) (config : AgentConfig) (timestamp : JsNumber) (uri : JsString) :
    SubmitAttestationArgs where
  modelId := args.modelId
  input := args.input
  output := args.output
  timestamp := some timestamp
  uri
  stake := args.stake.getD config.attestationStake
  attestor := args.attestor

/-- What `attest` does to the state: nothing if the payload is not canonical;
    else the payload is stored, and then attested if the SDK's checks pass. -/
inductive AttestEffect (env : MockEnv H) (bucket : JsString) (args : AttestArgs) (config : AgentConfig)
    (timestamp : JsNumber) (w : AgentState H) : AgentState H → Prop
  | refused : AttestEffect env bucket args config timestamp w w
  | stored {bytes : Bytes} {s : MockState H} (hbytes : canonicalBytes (attestPayload args timestamp) = .ok bytes)
    (hbooks : s.books = w.1.books) : AttestEffect env bucket args config timestamp w
      (s, w.2.set (MemoryBackend.ref bucket (PayloadStore.contentKey env.blake2b256 bytes)) bytes)
  | attested {bytes : Bytes} {s : MockState H} {hashes : CommitmentResult}
    (hbytes : canonicalBytes (attestPayload args timestamp) = .ok bytes)
    (hpasses : Passes env (submissionArgs args config timestamp
      (PayloadStore.objectUri bucket (PayloadStore.contentKey env.blake2b256 bytes))) hashes)
    (hbooks : s.books = (w.1.submitted env (submissionArgs args config timestamp
      (PayloadStore.objectUri bucket (PayloadStore.contentKey env.blake2b256 bytes))) hashes).books) :
    AttestEffect env bucket args config timestamp w
      (s, w.2.set (MemoryBackend.ref bucket (PayloadStore.contentKey env.blake2b256 bytes)) bytes)

/-- What `submitAttestation` does to the books, whether it returns or throws. -/
theorem submitAttestation_effect (env : MockEnv H) (args : SubmitAttestationArgs) (s : MockState H) :
    (submitAttestation env args s).2.books = s.books ∨ ∃ hashes, Passes env args hashes ∧
      (submitAttestation env args s).2.books = (s.submitted env args hashes).books := by
  by_cases hpasses : ∃ hashes, Passes env args hashes
  · obtain ⟨hashes, hp⟩ := hpasses
    rw [submitAttestation_announces hp]
    exact .inr ⟨hashes, hp, announcement_books _⟩
  · obtain ⟨e, he⟩ := submitAttestation_refused (s := s) env (not_exists.1 hpasses)
    rw [he]
    exact .inl rfl

/-- **What `attest` writes.** -/
theorem attest_effect (env : MockEnv H) (bucket : JsString) (now : JsNumber) (args : AttestArgs)
    (config : AgentConfig) (w : AgentState H) :
    AttestEffect env bucket args config (args.timestamp.getD now) w (attest env bucket now args config w).2 := by
  cases hbytes : toBytes (.json (attestPayload args (args.timestamp.getD now))) with
  | error e =>
    have hput : (PayloadStore.put env.blake2b256 bucket (.json (attestPayload args (args.timestamp.getD now)))).Throws
        w.2 e w.2 := Op.Throws.bind (Op.lift_throws.2 ⟨⟨e, hbytes, rfl⟩, rfl⟩)
    have hthrows : (attest env bucket now args config).Throws w (.store e) w := by
      refine Op.Throws.bind ?_
      rw [Op.Throws, Op.onSnd, hput]
      rfl
    rw [hthrows]
    exact .refused
  | ok bytes =>
    have hput : (PayloadStore.put env.blake2b256 bucket (.json (attestPayload args (args.timestamp.getD now)))).Returns
        w.2 _ _ := PayloadStore.put_returns.2 ⟨bytes, hbytes, rfl, rfl⟩
    have hstored : (Op.onSnd AgentError.store (PayloadStore.put env.blake2b256 bucket
        (.json (attestPayload args (args.timestamp.getD now)))) : AgentOp H JsString).Returns w _ (w.1, _) :=
      Op.onSnd_returns.2 ⟨hput, rfl⟩
    rw [attest, Op.bind_of_returns hstored, Op.bind_pure]
    rcases submitAttestation_effect env (submissionArgs args config (args.timestamp.getD now)
      (PayloadStore.objectUri bucket (PayloadStore.contentKey env.blake2b256 bytes))) w.1 with hbooks | ⟨hashes, hp, hbooks⟩
    · exact .stored (toBytes_json.1 hbytes) hbooks
    · exact .attested (toBytes_json.1 hbytes) hp hbooks

/-- When `attest` throws. -/
theorem attest_throws {env : MockEnv H} {bucket : JsString} {now : JsNumber} {args : AttestArgs} {config : AgentConfig}
    {w w' : AgentState H} {e : AgentError} (h : (attest env bucket now args config).Throws w e w') :
    w' = w ∨ ∃ bytes e', canonicalBytes (attestPayload args (args.timestamp.getD now)) = .ok bytes ∧
      (submitAttestation env (submissionArgs args config (args.timestamp.getD now)
        (PayloadStore.objectUri bucket (PayloadStore.contentKey env.blake2b256 bytes)))).Throws w.1 e' w'.1 ∧
      w'.2 = w.2.set (MemoryBackend.ref bucket (PayloadStore.contentKey env.blake2b256 bytes)) bytes := by
  obtain ⟨s, st⟩ := w
  obtain ⟨s', st'⟩ := w'
  simp only [attest, Op.bind_throws, Op.onSnd_throws, Op.onSnd_returns, Op.onFst_throws, Op.pure_throws, and_false,
    exists_false, or_false] at h
  rcases h with ⟨⟨e', hput, -⟩, rfl⟩ | ⟨uri, w₁, ⟨hput, hfst⟩, ⟨⟨e', hsubmit, -⟩, hsnd⟩⟩
  · simp only [PayloadStore.put, MemoryBackend.putBytes, Op.bind_throws, Op.lift_throws, Op.lift_returns,
      Op.modify_throws, Op.modify_returns, Op.pure_throws, and_false, exists_false, or_false] at hput
    exact .inl (by rw [hput.2])
  · obtain ⟨bytes, hbytes, rfl, hstore⟩ := PayloadStore.put_returns.1 hput
    obtain ⟨s₁, st₁⟩ := w₁
    subst hfst hsnd
    exact .inr ⟨bytes, e', toBytes_json.1 hbytes, hsubmit, hstore.symm⟩

/-- What `challenge` does to the books. -/
theorem challenge_effect (env : MockEnv H) (id : ℕ) (s : MockState H) :
    (challenge env id s).2.books = s.books ∨ ∃ a, s.attestations.get id = some a ∧ a.status = .active ∧
      (challenge env id s).2.books = (s.setAttestation id (challengedAttestation a)).books := by
  by_cases hactive : ∃ a, s.attestations.get id = some a ∧ a.status = .active
  · obtain ⟨a, hget, hst⟩ := hactive
    rw [challenge_announces hget hst]
    exact .inr ⟨a, hget, hst, announcement_books _⟩
  · obtain ⟨e, he⟩ := challenge_rejects (s := s) env id fun a hget hst => hactive ⟨a, hget, hst⟩
    rw [he]
    exact .inl rfl

theorem getAttestation_keeps (id : ℕ) :
    Op.Keeps (fun w => w) (Op.onFst AgentError.sdk (getAttestation id) : AgentOp H Sdk.Attestation) := by
  have hget : Op.Keeps (fun s => s) (getAttestation id : BackendOp H Sdk.Attestation) := .bind .get fun _ => .orFail
  exact fun w => congrArg (·, w.2) (hget w.1)

theorem getJson_keeps (uri : JsString) :
    Op.Keeps (fun w => w) (Op.onSnd AgentError.store (PayloadStore.getJson uri) : AgentOp H Value) := by
  have hjson : Op.Keeps (fun s => s) (PayloadStore.getJson uri) :=
    .bind (.bind .lift fun _ => .bind .get fun _ => .orFail) fun _ => .orFail
  exact fun w => congrArg (w.1, ·) (hjson w.2)

/-- Verifying changes nothing. -/
theorem verify_keeps (env : MockEnv H) (id : ℕ) : Op.Keeps (fun w => w) (verify env id) := by
  have hreputation : ∀ address, Op.Keeps (fun s => s) (attestorReputation address : BackendOp H Sdk.Reputation) :=
    fun _ => .bind .get fun _ => .pure _
  exact .bind (getAttestation_keeps id) fun _ => .bind (getJson_keeps _) fun _ => .bind .lift fun _ =>
    .bind (fun w => congrArg (·, w.2) (hreputation _ w.1)) fun _ => .pure _

/-! ## Vouching -/

/-- The payload of the attestation, as the attestor stored it. -/
structure Vouched (blake2b256 : Blake2b) (bucket : JsString) (s : MemoryBackend) (a : Sdk.Attestation)
    (args : AttestArgs) (timestamp : JsNumber) (bytes : Bytes) : Prop where
  input : args.input.Distinct
  output : args.output.Distinct
  canonical : canonicalBytes (attestPayload args timestamp) = .ok bytes
  hashes : computeCommitment blake2b256 ⟨args.input, args.output, args.modelId, timestamp⟩ = .ok (hashesOf a)
  uri : a.uri = PayloadStore.objectUri bucket (PayloadStore.contentKey blake2b256 bytes)
  held : s.get (MemoryBackend.ref bucket (PayloadStore.contentKey blake2b256 bytes)) = some bytes

section
variable {blake2b256 : Blake2b} {env : MockEnv H} {bucket : JsString} {w : AgentState H} {id : ℕ}
  {a : Sdk.Attestation} {args : AttestArgs} {timestamp : JsNumber} {bytes : Bytes}

/-- The payload reads back. -/
theorem Vouched.getJson {s : MemoryBackend} (h : Vouched blake2b256 bucket s a args timestamp bytes)
    (hbucket : Addressable bucket) :
    (PayloadStore.getJson a.uri).Returns s (readBack (attestPayload args timestamp)) s := by
  have hholds : Holds s a.uri bytes := by
    rw [h.uri, holds_objectUri]
    exact ⟨hbucket, h.held⟩
  exact PayloadStore.getJson_returns.2
    ⟨⟨bytes, hholds, jsonParse_canonicalBytes (distinct_attestPayload _ h.input h.output) h.canonical⟩, rfl⟩

/-- What is read back is valid. -/
theorem Vouched.checkPayload {s : MemoryBackend} (h : Vouched blake2b256 bucket s a args timestamp bytes) :
    checkPayload blake2b256 a (readBack (attestPayload args timestamp)) = .ok (a.outputHash, true) := by
  have hwrapper := asWrapper_readBack timestamp h.input h.output
  have hback := computeCommitment_readBack h.input h.output h.hashes
  rw [checkPayload_valid h.hashes]
  refine ⟨rfl, ?_, ?_⟩
  · rw [asWrapper_output hwrapper]
    exact (computeCommitment_ok.1 hback).2.1
  · intro wrapper hw
    cases hwrapper.symm.trans hw
    exact hback

/-- **A vouched attestation is valid.** -/
theorem Vouched.verifies (hget : w.1.attestations.get id = some a)
    (h : Vouched env.blake2b256 bucket w.2 a args timestamp bytes) (hbucket : Addressable bucket) :
    ∃ v, (verify env id).Returns w v w ∧ v.recomputedHash = a.outputHash ∧ v.valid = true := by
  obtain ⟨⟨content, hholds, hparse⟩, -⟩ := PayloadStore.getJson_returns.1 (h.getJson hbucket)
  exact verify_accepts hget hholds hparse h.checkPayload

end

end CasperProof.Agent
