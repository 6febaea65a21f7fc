/-
  The commitment scheme — `commitment.ts`.

  * `hashPayload`: the digest of the canonical encoding of a value.
  * `computeCommitment`: the digests of input and output, and of both together
    with the model id and the timestamp.
-/
import CasperProof.Commitment.Canonical
import CasperProof.Commitment.Hash

namespace CasperProof.Commitment

open Js

/-- What the functions of the package throw. -/
inductive CommitmentError where
  | canonical (e : CanonicalizationError)
  | hash (e : HashError)
deriving DecidableEq

section
variable (blake2b256 : Blake2b)

def hashPayload (value : Value) : Except CanonicalizationError JsString := do
  let bytes ← canonicalBytes value
  pure (toHex (blake2b256 bytes).toList)

def commitmentFromHashes (inputHash outputHash modelId : JsString) (timestamp : JsNumber) :
    Except HashError JsString := do
  let input ← fromHex inputHash
  let output ← fromHex outputHash
  let time ← leU64 timestamp
  let preimage := concatBytes [input, output, textEncode modelId, time]
  pure (toHex (blake2b256 preimage).toList)

structure CommitmentInput where
  input : Value
  output : Value
  modelId : JsString
  timestamp : JsNumber

structure CommitmentResult where
  inputHash : JsString
  outputHash : JsString
  commitment : JsString
deriving DecidableEq

def computeCommitment (args : CommitmentInput) : Except CommitmentError CommitmentResult := do
  let inputHash ← (hashPayload blake2b256 args.input).mapError .canonical
  let outputHash ← (hashPayload blake2b256 args.output).mapError .canonical
  let commitment ← (commitmentFromHashes blake2b256 inputHash outputHash args.modelId args.timestamp).mapError .hash
  pure ⟨inputHash, outputHash, commitment⟩

end

/-- `toLowerCase` on ASCII text. -/
def toLowerCase (s : JsString) : JsString :=
  s.map fun c => if h : 0x41 ≤ c.val ∧ c.val ≤ 0x5A then ⟨c.val + 0x20, by omega⟩ else c

def normalizeHex (hex : JsString) : JsString := toLowerCase (stripPrefix (lit "0x") hex)

def verifyOutputHash (recomputed onchain : JsString) : Bool := normalizeHex recomputed = normalizeHex onchain

/-! ## Digests that agree -/

/-- The digest function has no collision on `a` and `b`. -/
def Separates (blake2b256 : Blake2b) (a b : Bytes) : Prop := blake2b256 a = blake2b256 b → a = b

section
variable {blake2b256 : Blake2b}

theorem hashPayload_ok {v : Value} {d : JsString} :
    hashPayload blake2b256 v = .ok d ↔ ∃ bs, canonicalBytes v = .ok bs ∧ toHex (blake2b256 bs).toList = d := by
  simp only [hashPayload, bind_eq_ok, pure_eq_ok]

theorem computeCommitment_ok {x : CommitmentInput} {r : CommitmentResult} :
    computeCommitment blake2b256 x = .ok r ↔ hashPayload blake2b256 x.input = .ok r.inputHash ∧
      hashPayload blake2b256 x.output = .ok r.outputHash ∧
      commitmentFromHashes blake2b256 r.inputHash r.outputHash x.modelId x.timestamp = .ok r.commitment := by
  simp only [computeCommitment, bind_eq_ok, mapError_eq_ok, pure_eq_ok]
  constructor
  · rintro ⟨_, hi, _, ho, _, hc, rfl⟩
    exact ⟨hi, ho, hc⟩
  · rintro ⟨hi, ho, hc⟩
    exact ⟨_, hi, _, ho, _, hc, rfl⟩

theorem canonicalBytes_ok {v : Value} {bs : Bytes} :
    canonicalBytes v = .ok bs ↔ ∃ s, canonicalize v = .ok s ∧ textEncode s = bs := by
  simp only [canonicalBytes, bind_eq_ok, pure_eq_ok]

theorem toHex_digest_injective {a b : Vector UInt8 hashLength} (h : toHex a.toList = toHex b.toList) : a = b :=
  Vector.toList_inj.1 (toHex_injective h)

/-- Equal digests of separated encodings. -/
theorem canonicalBytes_eq_of_hashPayload {v w : Value} {a b : Bytes} {d : JsString}
    (ha : canonicalBytes v = .ok a) (hb : canonicalBytes w = .ok b) (hsep : Separates blake2b256 a b)
    (hv : hashPayload blake2b256 v = .ok d) (hw : hashPayload blake2b256 w = .ok d) : a = b := by
  obtain ⟨a', ha', hda⟩ := hashPayload_ok.1 hv
  obtain ⟨b', hb', hdb⟩ := hashPayload_ok.1 hw
  cases ha.symm.trans ha'
  cases hb.symm.trans hb'
  exact hsep (toHex_digest_injective (hda.trans hdb.symm))

end

end CasperProof.Commitment
