/-
  Raw payloads — an output that was stored without a wrapper.

  `extractOutput` takes an object with a property `output` for a wrapper.
  `raw_verifies_iff`: a raw output verifies exactly if it is no such object.
-/
import CasperProof.Agent.Honest

namespace CasperProof.Agent

open Js Commitment Sdk
open Json (lookup)

variable {H : Type} {env env' : MockEnv H} {bucket uri : JsString} {output : Value}
  {ms : Json.Members JsNumber JsString}

/-- The value is an object with an own property `output`. -/
def hasOutput : Value → Bool
  | .obj ms => (lookup (lit "output") ms).isSome
  | _ => false

theorem hasOutput_eq_true : hasOutput output = true ↔
    ∃ ms property, output = .obj ms ∧ lookup (lit "output") ms = some property := by
  constructor
  · intro h
    cases output with
    | obj ms =>
      obtain ⟨property, hlookup⟩ := Option.isSome_iff_exists.1 h
      exact ⟨ms, property, rfl, hlookup⟩
    | null | bool | num | str | arr => cases h
  · rintro ⟨ms, property, rfl, hlookup⟩
    rw [hasOutput, hlookup]
    rfl

/-! ## What is extracted -/

/-- No value is a property of itself. -/
theorem member_ne {k : JsString} {v : Value} (h : (k, v) ∈ ms) : v ≠ .obj ms := by
  rintro rfl
  have hlt := List.sizeOf_lt_of_mem h
  simp only [Prod.mk.sizeOf_spec, Json.obj.sizeOf_spec] at hlt
  omega

/-- Without the property, the payload that is read back is the output. -/
theorem extractOutput_readBack (hd : output.Distinct) (h : hasOutput output = false) :
    extractOutput (readBack output) = readBack output ∧ asWrapper (readBack output) = none := by
  cases output with
  | obj ms =>
    have hnone : lookup (lit "output") ms = none := by simpa [hasOutput] using h
    have hback : lookup (lit "output") (Commitment.arrange (ms.map fun m => (m.1, readBack m.2))) = none := by
      rw [lookup_readBack hd (by decide), hnone]
      rfl
    rw [readBack_obj, extractOutput, asWrapper, hback]
    refine ⟨rfl, ?_⟩
    split
    · rename_i heq
      cases heq
    · rfl
  | arr xs =>
    rw [readBack, Json.rebuild_arr]
    exact ⟨rfl, rfl⟩
  | null | bool | num | str => exact ⟨rfl, rfl⟩

variable {blake2b256 : Blake2b} {property : Value} {bytes : Bytes} {hash : JsString}

/-- A property of an accepted object is accepted. -/
theorem canonicalBytes_property (hd : (Json.obj ms : Value).Distinct)
    (hlookup : lookup (lit "output") ms = some property) (hb : canonicalBytes (.obj ms) = .ok bytes) :
    ∃ bytes', canonicalBytes property = .ok bytes' := by
  obtain ⟨s, hs, -⟩ := canonicalBytes_ok.1 hb
  obtain ⟨ha, -⟩ := canonicalize_ok.1 hs
  rw [Json.Distinct, Json.every_obj] at hd
  rw [Accepted, Json.every_obj] at ha
  have hmem := (Json.lookup_eq_some hd.1).1 hlookup
  exact ⟨_, canonicalBytes_ok.2 ⟨_, canonicalize_ok.2 ⟨(ha.2 _ hmem).2, rfl⟩, rfl⟩⟩

/-- An object and its property have different encodings. -/
theorem canonicalBytes_property_ne (hd : (Json.obj ms : Value).Distinct)
    (hlookup : lookup (lit "output") ms = some property) (hb : canonicalBytes (.obj ms) = .ok bytes) :
    canonicalBytes property ≠ .ok bytes := by
  intro hb'
  have hread := (jsonParse_canonicalBytes hd hb).symm.trans (jsonParse_canonicalBytes (distinct_lookup hd hlookup) hb')
  have hsame : readBack (.obj ms) = readBack property := Option.some.inj hread
  have hback := lookup_readBack hd (k := lit "output") (by decide)
  rw [hlookup, Option.map_some] at hback
  rw [readBack_obj] at hsame
  have hmem := Json.mem_of_lookup hback
  exact member_ne hmem hsame.symm

/-- The property is not mistaken for the output, where their digests differ. -/
theorem hashPayload_property (hd : (Json.obj ms : Value).Distinct)
    (hlookup : lookup (lit "output") ms = some property)
    (hsep : ∀ a b, canonicalBytes (.obj ms) = .ok a → canonicalBytes property = .ok b → Separates blake2b256 a b)
    (hhash : hashPayload blake2b256 (.obj ms) = .ok hash) : hashPayload blake2b256 (readBack property) ≠ .ok hash := by
  intro hback
  obtain ⟨a, ha, -⟩ := hashPayload_ok.1 hhash
  obtain ⟨b, hb⟩ := canonicalBytes_property hd hlookup ha
  have hdp := distinct_lookup hd hlookup
  have hown : hashPayload blake2b256 property = .ok (toHex (blake2b256 b).toList) := hashPayload_ok.2 ⟨b, hb, rfl⟩
  have hproperty : hashPayload blake2b256 property = .ok hash := by
    rwa [← (hashPayload_readBack hdp hown).symm.trans hback]
  have heq := canonicalBytes_eq_of_hashPayload ha hb (hsep a b ha hb) hhash hproperty
  exact canonicalBytes_property_ne hd hlookup ha (heq ▸ hb)

/-- With the property, it is taken for the output. -/
theorem extractOutput_property (hd : (Json.obj ms : Value).Distinct)
    (hlookup : lookup (lit "output") ms = some property) :
    extractOutput (.obj ms) = property ∧ extractOutput (readBack (.obj ms)) = readBack property := by
  have hback := lookup_readBack hd (k := lit "output") (by decide)
  rw [hlookup, Option.map_some] at hback
  rw [readBack_obj, extractOutput, extractOutput, hlookup, hback]
  exact ⟨rfl, rfl⟩

/-! ## Verification -/

/-- **When an output that was read back is valid** for its own attestation. -/
theorem checkPayload_raw {a : Sdk.Attestation} {x : CommitmentInput} (hd : x.output.Distinct)
    (hx : computeCommitment blake2b256 x = .ok (hashesOf a))
    (hsep : ∀ bs bs', canonicalBytes x.output = .ok bs → canonicalBytes (extractOutput x.output) = .ok bs' →
      Separates blake2b256 bs bs') :
    (∃ h, checkPayload blake2b256 a (readBack x.output) = .ok (h, true)) ↔ hasOutput x.output = false := by
  have hattested := (computeCommitment_ok.1 hx).2.1
  simp only [checkPayload_valid hx]
  constructor
  · rintro ⟨_, -, hhash, -⟩
    by_contra hhas
    obtain ⟨ms, property, hobj, hlookup⟩ := hasOutput_eq_true.1 (Bool.not_eq_false _ ▸ hhas)
    rw [hobj] at hd hsep hattested hhash
    obtain ⟨hextract, hback⟩ := extractOutput_property hd hlookup
    rw [hextract] at hsep
    rw [hback] at hhash
    exact hashPayload_property hd hlookup hsep hattested hhash
  · intro hnone
    obtain ⟨hextract, hwrapper⟩ := extractOutput_readBack hd hnone
    refine ⟨_, rfl, ?_, ?_⟩
    · rw [hextract]
      exact hashPayload_readBack hd hattested
    · intro wrapper hw
      cases hwrapper.symm.trans hw

/-- **When a raw output verifies.**  The output itself is stored, and attested
    with the URI it got: `verify` finds it valid exactly if it is no object with
    a property `output`, and the URI can be read. -/
theorem raw_verifies_iff (hd : output.Distinct) {st st' : MemoryBackend}
    (hput : (PayloadStore.put env.blake2b256 bucket (.json output)).Returns st uri st')
    {args : SubmitAttestationArgs} (houtput : args.output = output) (huri : args.uri = uri)
    {r : SubmitAttestationResult} {s s' : MockState H} (hsubmit : (submitAttestation env args).Returns s r s')
    (hsep : ∀ a b, canonicalBytes output = .ok a → canonicalBytes (extractOutput output) = .ok b →
      Separates env.blake2b256 a b) (henv : env'.blake2b256 = env.blake2b256) :
    (∃ v w', (verify env' r.id).Returns (s', st') v w' ∧ v.valid = true) ↔
      Addressable bucket ∧ hasOutput output = false := by
  subst houtput
  obtain ⟨bytes, hb, rfl, rfl⟩ := PayloadStore.put_returns.1 hput
  obtain ⟨a, hget, hauri, hcommit⟩ := submitAttestation_record hsubmit
  rw [huri] at hauri
  have hread := jsonParse_canonicalBytes hd (toBytes_json.1 hb)
  have hcheck := checkPayload_raw hd hcommit hsep
  constructor
  · rintro ⟨v, w', hverify, hvalid⟩
    obtain ⟨a', bytes', payload, hget', hholds, hpayload, hchecked, -⟩ := verify_returns hverify
    cases hget.symm.trans hget'
    rw [hauri, holds_objectUri] at hholds
    obtain ⟨hbucket, hheld⟩ := hholds
    cases (Mapping.get_set_self _ _ _).symm.trans hheld
    cases hread.symm.trans hpayload
    rw [hvalid, henv] at hchecked
    exact ⟨hbucket, hcheck.1 ⟨_, hchecked⟩⟩
  · rintro ⟨hbucket, hnone⟩
    have hholds : Holds (st.set (MemoryBackend.ref bucket (PayloadStore.contentKey env.blake2b256 bytes)) bytes)
        a.uri bytes := by
      rw [hauri, holds_objectUri]
      exact ⟨hbucket, Mapping.get_set_self _ _ _⟩
    obtain ⟨h, hvalid⟩ := hcheck.2 hnone
    rw [← henv] at hvalid
    obtain ⟨v, hverify, -, hv⟩ := verify_accepts (w := (s', _)) hget hholds hread hvalid
    exact ⟨v, _, hverify, hv⟩

/-! ## Two outputs -/

def demoRawArgs (output : Value) (uri : JsString) : SubmitAttestationArgs where
  modelId := lit "casperproof-riskscorer-v1"
  input := demoInput
  output := output
  timestamp := none
  uri := uri
  stake := lit "2000000000"
  attestor := none

/-- Store an output, attest it, and verify. -/
def demoRaw (output : Value) : AgentOp Empty Bool := do
  let uri ← Op.onSnd .store (PayloadStore.put demoDigest (lit "casperproof-payloads") (.json output))
  let r ← Op.onFst .sdk (submitAttestation demoEnv (demoRawArgs output uri))
  let v ← verify demoEnv r.id
  pure v.valid

theorem raw_verifies_iff_demo : ∃ (uri : JsString) (r : SubmitAttestationResult) (s : MockState Empty)
    (st : MemoryBackend) (v : VerifyResult) (w' : AgentState Empty),
    (submitAttestation demoEnv (demoRawArgs demoOutput uri)).Returns .fresh r s ∧
      (verify demoEnv r.id).Returns (s, st) v w' ∧ v.valid = true := by
  have hrun : ((demoRaw demoOutput) (.fresh, .empty)).1.toOption = some true := by decide +kernel
  obtain ⟨w', hrun⟩ := Op.toOption_eq_some.1 hrun
  simp only [demoRaw, Op.bind_returns, Op.onSnd_returns, Op.onFst_returns] at hrun
  obtain ⟨uri, w₁, ⟨hput, hfresh⟩, r, w, ⟨hsubmit, hstored⟩, -⟩ := hrun
  have hd : demoOutput.Distinct := by
    unfold Json.Distinct
    decide +kernel
  have hsep : ∀ a b, canonicalBytes demoOutput = .ok a → canonicalBytes (extractOutput demoOutput) = .ok b →
      Separates demoDigest a b := by
    intro a b ha hb
    have hsame : extractOutput demoOutput = demoOutput := rfl
    rw [hsame] at hb
    cases ha.symm.trans hb
    exact fun _ => rfl
  rw [← hfresh] at hsubmit
  have hplain : Addressable (lit "casperproof-payloads") ∧ hasOutput demoOutput = false := by decide +kernel
  have hiff := @raw_verifies_iff Empty demoEnv demoEnv _ _ _ hd _ _ hput _ rfl rfl _ _ _ hsubmit hsep rfl
  obtain ⟨v, w', hverify, hvalid⟩ := hiff.2 hplain
  exact ⟨uri, r, _, _, v, w', hsubmit, hverify, hvalid⟩

/-- `{ output: 1 }`. -/
def nestedOutput : Value := .obj [(lit "output", .num (number 1))]

/-- The output is canonical, but it is taken for a wrapper. -/
theorem nested_output_fails : canonicalize nestedOutput = .ok (lit "\x7b\"output\":1\x7d") ∧
    ((demoRaw nestedOutput) (.fresh, .empty)).1.toOption = some false ∧
    ((demoRaw (.obj [(lit "score", .num (number 1))])) (.fresh, .empty)).1.toOption = some true := by
  refine ⟨?_, ?_, ?_⟩ <;> decide +kernel

end CasperProof.Agent
