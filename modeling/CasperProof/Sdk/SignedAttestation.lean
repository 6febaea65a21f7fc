/-
  From a payload to the registry: the hashes that `computeCommitment` makes of
  a payload, in a write that is signed in a browser, in the record that the
  registry keeps of it.

  * `Certifies`: a record of the registry carries a payload's hashes.
  * `signed_attestation_certifies`: it does so from the moment the call is
    received, whatever is called afterwards, and an output has the record's
    output hash only if it is the one that was committed to.
-/
import CasperProof.Commitment.Binding
import CasperProof.Contracts.Records
import CasperProof.Sdk.Calls

namespace CasperProof.Sdk

open Js Commitment

/-- The arguments of a write for a payload with the given hashes. -/
def SubmitAttestationCallArgs.ofHashes (r : CommitmentResult) (modelId uri : JsString) (stake : Amount) :
    SubmitAttestationCallArgs where
  modelId := modelId
  inputHash := r.inputHash
  outputHash := r.outputHash
  commitment := r.commitment
  uri := uri
  stake := stake

/-- A record carries the hashes and the metadata of a submission. -/
structure Certifies (r : CommitmentResult) (modelId uri : JsString) (stake : Amount) (attestor : Address)
    (att : CasperProof.Attestation) : Prop where
  attestor : att.attestor = attestor
  modelId : att.modelId = clString modelId
  uri : att.uri = clString uri
  stake : stake.IsNat att.stake.val
  inputHash : toHex att.inputHash.toList = r.inputHash
  outputHash : toHex att.outputHash.toList = r.outputHash
  commitment : toHex att.commitment.toList = r.commitment

/-- The hash that a digest's text stands for is the digest. -/
theorem isHash_toHex {d h : Hash} : IsHash (toHex d.toList) h ↔ h = d := by
  rw [IsHash, normalizeHex, stripPrefix_toHex, toLowerCase_toHex]
  exact ⟨toHex_digest_injective, fun heq => by rw [heq]⟩

section
variable {blake2b256 : Blake2b} {x : CommitmentInput} {r : CommitmentResult} {sdk : CasperSdk}
  {ctx : OnchainContext} {deployed : JsString → Option OnchainContract} {modelId uri : JsString} {stake : Amount}
  {caller : Address} {c : Registry.Call}

/-- A submission of digests. -/
theorem means_submission (sdk : CasperSdk) (modelId uri : JsString) (i o d : Hash) {n : U256}
    (hn : stake.IsNat n.val) :
    (Write.submitAttestation (.ofHashes ⟨toHex i.toList, toHex o.toList, toHex d.toList⟩ modelId uri stake)).Means sdk
      (.registry (.submitAttestation ⟨clString modelId, i, o, d, clString uri, n⟩)) :=
  .submitAttestation (isHash_toHex.2 rfl) (isHash_toHex.2 rfl) (isHash_toHex.2 rfl) hn

/-- What the registry is called with. -/
theorem signed_submission (hsdk : sdk.Documented) (hctx : ctx.Configured deployed)
    (hr : computeCommitment blake2b256 x = .ok r)
    (hsigned : Signed sdk ctx deployed (.submitAttestation (.ofHashes r modelId uri stake)) caller (.registry c)) :
    ∃ args, c = .submitAttestation args ∧ ∀ env id, env.caller = caller →
      Certifies r modelId uri stake caller (Registry.newAttestation env args id) := by
  obtain ⟨i, o, p, -, -, -, rfl⟩ := computeCommitment_digest.1 hr
  obtain ⟨-, -, hmeans⟩ := hsigned.means hsdk hctx
  cases hmeans with
  | submitAttestation hi ho hd hn =>
    obtain rfl := isHash_toHex.1 hi
    obtain rfl := isHash_toHex.1 ho
    obtain rfl := isHash_toHex.1 hd
    refine ⟨_, rfl, fun env id henv => ?_⟩
    exact ⟨henv, rfl, rfl, hn, rfl, rfl, rfl⟩

theorem Certifies.same {att att' : CasperProof.Attestation} (h : Certifies r modelId uri stake caller att)
    (hsame : Registry.SameSubmission att att') : Certifies r modelId uri stake caller att' where
  attestor := hsame.attestor.trans h.attestor
  modelId := hsame.modelId.trans h.modelId
  uri := hsame.uri.trans h.uri
  stake := hsame.stake ▸ h.stake
  inputHash := hsame.inputHash ▸ h.inputHash
  outputHash := hsame.outputHash ▸ h.outputHash
  commitment := hsame.commitment ▸ h.commitment

/-- An output has the output hash of a record only if it is encoded like the one
    that was committed to. -/
theorem Certifies.output_iff {att : CasperProof.Attestation} (h : Certifies r modelId uri stake caller att)
    (hr : computeCommitment blake2b256 x = .ok r) {output : Value} {bs bs' : Bytes} {d : JsString}
    (hbs : canonicalBytes x.output = .ok bs) (hbs' : canonicalBytes output = .ok bs')
    (hsep : Separates blake2b256 bs' bs) (hd : hashPayload blake2b256 output = .ok d) :
    verifyOutputHash d (toHex att.outputHash.toList) = true ↔ bs' = bs := by
  obtain ⟨o, ⟨_, hbs₀, rfl⟩, hro⟩ := hashPayload_digest.1 (computeCommitment_ok.1 hr).2.1
  obtain ⟨o', ⟨_, hbs₁, rfl⟩, rfl⟩ := hashPayload_digest.1 hd
  cases hbs.symm.trans hbs₀
  cases hbs'.symm.trans hbs₁
  rw [h.outputHash, ← hro, verifyOutputHash_digest]
  exact ⟨hsep, fun heq => by rw [heq]⟩

variable {τ : Type} {t : Cep18 τ} {me : Address} {cfg : RegistryConfig} {w₀ w w' w'' : Registry.World τ}
  {ls ls' : List Registry.Label} {env : CallEnv} {id : U64} {moves : List Move}

/-- **What was attested is what can be verified.**  A payload's hashes are
    computed, put into a write, signed and received; in every later state of
    the registry the record under the id that the call returned carries these
    hashes and the signer, and an output is verified against it exactly if it
    is encoded like the one that was committed to, unless their digests
    collide. -/
theorem signed_attestation_certifies (hsdk : sdk.Documented) (h₀ : Registry.Initial t me cfg w₀)
    (hrun : Run (Registry.Step t me) w₀ ls w) (hctx : ctx.Configured deployed) (hr : computeCommitment blake2b256 x = .ok r)
    (hsigned : Signed sdk ctx deployed (.submitAttestation (.ofHashes r modelId uri stake)) env.caller (.registry c))
    (hstep : Registry.Step t me w (.call env c id moves) w') (hlater : Run (Registry.Step t me) w' ls' w'') :
    ∃ att, Registry.getAttestation w''.reg id = .ok att ∧ Certifies r modelId uri stake env.caller att ∧
      ∀ output bs bs' d, canonicalBytes x.output = .ok bs → canonicalBytes output = .ok bs' →
        Separates blake2b256 bs' bs → hashPayload blake2b256 output = .ok d →
        (verifyOutputHash d (toHex att.outputHash.toList) = true ↔ bs' = bs) := by
  obtain ⟨args, rfl, hnew⟩ := signed_submission hsdk hctx hr hsigned
  have hwf := Registry.run_wellFormed h₀ hrun
  have hget : w'.reg.attestations.get id = some (Registry.newAttestation env args id) := by
    obtain ⟨heffect, -⟩ := hstep.effect hwf
    obtain ⟨att, hl, hset⟩ := heffect.record
    generalize w.reg.fresh.attestations.get id = o, w'.reg.token.moves = ms at hl
    cases hl
    rw [hset, Mapping.get_set_self]
  have hrec : Registry.Recorded id (Registry.newAttestation env args id) :=
    ⟨rfl, fun _ => rfl, by simp [Registry.newAttestation]⟩
  have hlocal := Registry.local_run_from (hstep.wellFormed hwf) hlater id
  rw [hget] at hlocal
  obtain ⟨att, hatt, -, hadv⟩ := Registry.advances_of_run hrec hlocal
  have hcert := (hnew env id rfl).same hadv.same
  exact ⟨att, Registry.getAttestation_ok.2 hatt, hcert, fun _ _ _ _ hbs hbs' hsep hd =>
    hcert.output_iff hr hbs hbs' hsep hd⟩

end

/-- Alice commits to a score. -/
def demoPayload : CommitmentInput where
  input := .obj [(lit "b", .null), (lit "a", .bool true)]
  output := .obj [(lit "score", .num (.real 7))]
  modelId := lit "casperproof-riskscorer-v1"
  timestamp := .real 0

def demoBytes : Bytes := (canonicalBytes demoPayload.output).toOption.getD []

/-- Another score. -/
def demoOther : Value := .obj [(lit "score", .num (.real 8))]

def demoOtherBytes : Bytes := (canonicalBytes demoOther).toOption.getD []

theorem demo_encoded : canonicalBytes demoPayload.output = .ok demoBytes ∧
    canonicalBytes demoOther = .ok demoOtherBytes ∧ demoOtherBytes ≠ demoBytes ∧
    demoDigest demoOtherBytes ≠ demoDigest demoBytes := by
  have haccepted : (canonicalBytes demoPayload.output).toOption.isSome ∧
      (canonicalBytes demoOther).toOption.isSome := by
    decide +kernel
  refine ⟨?_, ?_, by decide +kernel, by decide +kernel⟩
  · obtain ⟨bs, hbs⟩ := Option.isSome_iff_exists.1 haccepted.1
    rw [demoBytes, hbs]
    exact toOption_eq_some.1 hbs
  · obtain ⟨bs, hbs⟩ := Option.isSome_iff_exists.1 haccepted.2
    rw [demoOtherBytes, hbs]
    exact toOption_eq_some.1 hbs

theorem demo_stake : (Amount.bigint 1001).IsNat (1001 : U256).val := .bigint 1001

/-- Alice can pay the stake and a bond. -/
theorem demo_pulls : ∃ k k', Cep18.basic.pull Registry.demoRegistry Registry.demoAlice 1001
      ⟨Registry.demoToken, []⟩ = .ok k ∧
    Cep18.basic.pull Registry.demoRegistry Registry.demoAlice 500 ⟨k.chain, []⟩ = .ok k' :=
  ⟨_, _, rfl, rfl⟩

/-- Alice can submit any hashes, and challenge them. -/
theorem demo_submission (modelId uri : String) (i o d : Hash) : ∃ w w',
    Registry.Step Cep18.basic Registry.demoRegistry Registry.demoWorld
      (.call (Registry.demoEnv Registry.demoAlice 5) (.submitAttestation ⟨modelId, i, o, d, uri, 1001⟩) 0
        [.pull Registry.demoAlice 1001]) w ∧
    Registry.Step Cep18.basic Registry.demoRegistry w
      (.call (Registry.demoEnv Registry.demoAlice 6) (.challenge 0) 0 [.pull Registry.demoAlice 500]) w' := by
  obtain ⟨k, k', hk, hk'⟩ := demo_pulls
  have hmoves : k.moves = [.pull Registry.demoAlice 1001] := Cep18.pull_moves hk
  have hmoves' : k'.moves = [.pull Registry.demoAlice 500] := Cep18.pull_moves hk'
  have hmin : Registry.demoConfig.minStake ≤ (1001 : U256) := by decide
  have hsubmit := @Registry.Step.call _ Cep18.basic Registry.demoRegistry Registry.demoWorld
    (Registry.demoEnv Registry.demoAlice 5) (.submitAttestation ⟨modelId, i, o, d, uri, 1001⟩) 0 _ rfl (by decide)
    (by decide) (Registry.submitAttestation_ok.2 ⟨Registry.demoConfig, _, _, 1, { total := 1 }, rfl, hmin, rfl,
      Registry.stakeRef_transferFrom.2 ⟨k, hk, rfl⟩, rfl, rfl, rfl, rfl⟩)
  obtain ⟨w, att, hsubmit, hclock, hget, hst, hcreated, hcfg, htoken, hchain⟩ : ∃ w att,
      Registry.Step Cep18.basic Registry.demoRegistry Registry.demoWorld
        (.call (Registry.demoEnv Registry.demoAlice 5) (.submitAttestation ⟨modelId, i, o, d, uri, 1001⟩) 0 k.moves) w ∧
      w.clock = 5 ∧ w.reg.attestations.get 0 = some att ∧ att.status = .active ∧ att.createdAt = 5 ∧
      w.reg.config = some Registry.demoConfig ∧ w.reg.stakeToken = some (.contract 7) ∧ w.reg.token.chain = k.chain :=
    ⟨_, _, hsubmit, rfl, rfl, rfl, rfl, rfl, rfl, rfl⟩
  have hopen : ¬ Registry.windowClosed Registry.demoConfig 6 att := by
    rw [Registry.windowClosed, hcreated]
    decide
  rw [← hchain] at hk'
  have hchallenge := @Registry.Step.call _ Cep18.basic Registry.demoRegistry w
    (Registry.demoEnv Registry.demoAlice 6) (.challenge 0) 0 _ rfl (by decide) (hclock ▸ by decide)
    (bind_eq_ok.2 ⟨_, Registry.challenge_ok.2 ⟨att, Registry.demoConfig, _, _, hget, hst, hcfg, hopen, htoken,
      Registry.stakeRef_transferFrom.2 ⟨k', hk', rfl⟩, rfl⟩, rfl⟩)
  exact ⟨w, _, hmoves ▸ hsubmit, hmoves' ▸ hchallenge⟩

/-- Alice's score is on record and challenged; it is verified, and the other one
    is not. -/
theorem signed_attestation_certifies_demo : ∃ (r : CommitmentResult) (c : Registry.Call)
    (w w' : Registry.World Cep18State) (att : CasperProof.Attestation),
    computeCommitment demoDigest demoPayload = .ok r ∧
    Signed demoCasperSdk demoContext demoDeployed
      (.submitAttestation (.ofHashes r demoPayload.modelId (lit "s3://casperproof/abc") (.bigint 1001)))
      Registry.demoAlice (.registry c) ∧
    Registry.Step Cep18.basic Registry.demoRegistry Registry.demoWorld
      (.call (Registry.demoEnv Registry.demoAlice 5) c 0 [.pull Registry.demoAlice 1001]) w ∧
    Run (Registry.Step Cep18.basic Registry.demoRegistry) w
      [.call (Registry.demoEnv Registry.demoAlice 6) (.challenge 0) 0 [.pull Registry.demoAlice 500]] w' ∧
    Registry.getAttestation w'.reg 0 = .ok att ∧
    (∃ d, hashPayload demoDigest demoPayload.output = .ok d ∧
      verifyOutputHash d (toHex att.outputHash.toList) = true) ∧
    ∃ d, hashPayload demoDigest demoOther = .ok d ∧ verifyOutputHash d (toHex att.outputHash.toList) = false := by
  obtain ⟨hencoded, hother, hne, hdigest⟩ := demo_encoded
  obtain ⟨r, hr⟩ : ∃ r, computeCommitment demoDigest demoPayload = .ok r := by
    have hsome : (computeCommitment demoDigest demoPayload).toOption.isSome := by decide +kernel
    obtain ⟨r, hr⟩ := Option.isSome_iff_exists.1 hsome
    exact ⟨r, toOption_eq_some.1 hr⟩
  obtain ⟨i, o, p, -, -, -, rfl⟩ := computeCommitment_digest.1 hr
  have hmeans := means_submission demoCasperSdk demoPayload.modelId (lit "s3://casperproof/abc") i o (demoDigest p)
    demo_stake
  have haccount : demoCasperSdk.account demoContext.senderPublicKeyHex = some Registry.demoAlice := by decide +kernel
  have hsigned := hmeans.signed demo_documented demo_configured haccount demo_hasPackage
  obtain ⟨w, w', hstep, hchallenge⟩ := demo_submission (clString demoPayload.modelId)
    (clString (lit "s3://casperproof/abc")) i o (demoDigest p)
  obtain ⟨att, hatt, -, hverify⟩ := signed_attestation_certifies demo_documented Registry.demo_initial .nil
    demo_configured hr hsigned hstep (.single hchallenge)
  have hhash : hashPayload demoDigest demoPayload.output = .ok (toHex (demoDigest demoBytes).toList) :=
    hashPayload_digest.2 ⟨_, ⟨_, hencoded, rfl⟩, rfl⟩
  have hhash' : hashPayload demoDigest demoOther = .ok (toHex (demoDigest demoOtherBytes).toList) :=
    hashPayload_digest.2 ⟨_, ⟨_, hother, rfl⟩, rfl⟩
  refine ⟨_, _, w, w', att, hr, hsigned, hstep, .single hchallenge, hatt, ⟨_, hhash, ?_⟩, ⟨_, hhash', ?_⟩⟩
  · exact (hverify demoPayload.output demoBytes demoBytes _ hencoded hencoded (fun _ => rfl) hhash).2 rfl
  · refine Bool.eq_false_iff.2 fun hv => hne ?_
    exact (hverify demoOther demoBytes demoOtherBytes _ hencoded hother (fun h => absurd h hdigest) hhash').1 hv

end CasperProof.Sdk
