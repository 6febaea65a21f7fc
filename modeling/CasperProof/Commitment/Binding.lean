/-
  What the commitment binds.

  `computeCommitment_inj`: two payloads with the same digests and commitment,
  without a collision among what was hashed, have inputs and outputs with the
  same canonical encoding, model ids with the same text, and the same timestamp.
-/
import CasperProof.Commitment.Commitment

namespace CasperProof.Commitment

open Js

theorem toLowerCase_toHex (bytes : Bytes) : toLowerCase (toHex bytes) = toHex bytes := by
  have hdigit : ∀ d : Fin 16, toLowerCase [hexDigit d] = [hexDigit d] := by decide
  have hbyte : ∀ b, toLowerCase (hexByte b) = hexByte b := by
    intro b
    have happend : hexByte b = [hexDigit ⟨b.toNat / 16, by have := b.toNat_lt; omega⟩] ++
        [hexDigit ⟨b.toNat % 16, by omega⟩] := rfl
    rw [happend, toLowerCase, List.map_append, ← toLowerCase, ← toLowerCase, hdigit, hdigit]
  induction bytes with
  | nil => rfl
  | cons b bytes ih =>
    have hcons : toHex (b :: bytes) = hexByte b ++ toHex bytes := List.flatMap_cons
    rw [hcons, toLowerCase, List.map_append, ← toLowerCase, ← toLowerCase, hbyte, ih]

/-- Digests are compared as bytes. -/
theorem verifyOutputHash_digest {a b : Vector UInt8 hashLength} :
    verifyOutputHash (toHex a.toList) (toHex b.toList) = true ↔ a = b := by
  rw [verifyOutputHash, decide_eq_true_eq, normalizeHex, normalizeHex, stripPrefix_toHex, stripPrefix_toHex,
    toLowerCase_toHex, toLowerCase_toHex]
  exact ⟨toHex_digest_injective, fun h => by rw [h]⟩

section
variable {blake2b256 : Blake2b} {v input output : Value} {modelId : JsString} {timestamp : JsNumber}

/-- The digest of a value. -/
def DigestOf (blake2b256 : Blake2b) (v : Value) (d : Vector UInt8 hashLength) : Prop :=
  ∃ bs, canonicalBytes v = .ok bs ∧ blake2b256 bs = d

theorem DigestOf.unique {d d' : Vector UInt8 hashLength} (h : DigestOf blake2b256 v d)
    (h' : DigestOf blake2b256 v d') : d = d' := by
  obtain ⟨a, ha, rfl⟩ := h
  obtain ⟨a', ha', rfl⟩ := h'
  rw [Except.ok.inj (ha.symm.trans ha')]

/-- What the commitment to a payload is the digest of. -/
def Preimage (blake2b256 : Blake2b) (input output : Value) (modelId : JsString) (timestamp : JsNumber)
    (bs : Bytes) : Prop :=
  ∃ i o t, DigestOf blake2b256 input i ∧ DigestOf blake2b256 output o ∧ leU64 timestamp = .ok t ∧
    concatBytes [i.toList, o.toList, textEncode modelId, t] = bs

theorem Preimage.unique {a b : Bytes} (ha : Preimage blake2b256 input output modelId timestamp a)
    (hb : Preimage blake2b256 input output modelId timestamp b) : a = b := by
  obtain ⟨i, o, t, hi, ho, ht, rfl⟩ := ha
  obtain ⟨i', o', t', hi', ho', ht', rfl⟩ := hb
  rw [hi.unique hi', ho.unique ho', Except.ok.inj (ht.symm.trans ht')]

theorem hashPayload_digest {h : JsString} :
    hashPayload blake2b256 v = .ok h ↔ ∃ d, DigestOf blake2b256 v d ∧ toHex d.toList = h := by
  rw [hashPayload_ok]
  constructor
  · rintro ⟨bs, hbs, rfl⟩
    exact ⟨_, ⟨bs, hbs, rfl⟩, rfl⟩
  · rintro ⟨_, ⟨bs, hbs, rfl⟩, rfl⟩
    exact ⟨bs, hbs, rfl⟩

theorem commitmentFromHashes_digest {i o : Vector UInt8 hashLength} {h : JsString} :
    commitmentFromHashes blake2b256 (toHex i.toList) (toHex o.toList) modelId timestamp = .ok h ↔
      ∃ t, leU64 timestamp = .ok t ∧
        toHex (blake2b256 (concatBytes [i.toList, o.toList, textEncode modelId, t])).toList = h := by
  simp only [commitmentFromHashes, fromHex_toHex, ok_bind, bind_eq_ok, pure_eq_ok]

theorem computeCommitment_digest {hashes : CommitmentResult} :
    computeCommitment blake2b256 ⟨input, output, modelId, timestamp⟩ = .ok hashes ↔
      ∃ i o bs, DigestOf blake2b256 input i ∧ DigestOf blake2b256 output o ∧
        Preimage blake2b256 input output modelId timestamp bs ∧
        hashes = ⟨toHex i.toList, toHex o.toList, toHex (blake2b256 bs).toList⟩ := by
  simp only [computeCommitment, bind_eq_ok, mapError_eq_ok, hashPayload_digest, pure_eq_ok]
  constructor
  · rintro ⟨_, ⟨i, hi, rfl⟩, _, ⟨o, ho, rfl⟩, c, hc, rfl⟩
    obtain ⟨t, ht, rfl⟩ := commitmentFromHashes_digest.1 hc
    exact ⟨i, o, _, hi, ho, ⟨i, o, t, hi, ho, ht, rfl⟩, rfl⟩
  · rintro ⟨i, o, bs, hi, ho, ⟨i', o', t, hi', ho', ht, rfl⟩, rfl⟩
    obtain rfl := hi.unique hi'
    obtain rfl := ho.unique ho'
    exact ⟨_, ⟨i, hi, rfl⟩, _, ⟨o, ho, rfl⟩, _, commitmentFromHashes_digest.2 ⟨t, ht, rfl⟩, rfl⟩

end

/-! ## Binding -/

/-- The digest function has no collision between what is hashed for `x` and
    for `y`. -/
structure Separated (blake2b256 : Blake2b) (x y : CommitmentInput) : Prop where
  input : ∀ a b, canonicalBytes x.input = .ok a → canonicalBytes y.input = .ok b → Separates blake2b256 a b
  output : ∀ a b, canonicalBytes x.output = .ok a → canonicalBytes y.output = .ok b → Separates blake2b256 a b
  preimage : ∀ a b, Preimage blake2b256 x.input x.output x.modelId x.timestamp a →
    Preimage blake2b256 y.input y.output y.modelId y.timestamp b → Separates blake2b256 a b

theorem Separated.refl (blake2b256 : Blake2b) (x : CommitmentInput) : Separated blake2b256 x x where
  input _ _ ha hb _ := Except.ok.inj (ha.symm.trans hb)
  output _ _ ha hb _ := Except.ok.inj (ha.symm.trans hb)
  preimage _ _ ha hb _ := ha.unique hb

/-- Integral numbers with the same value. -/
theorem unsigned_eq_of_toInt? {m n : JsNumber} {i : ℤ} (hm : m.toInt? = some i) (hn : n.toInt? = some i) :
    m.unsigned = n.unsigned := by
  have hreal : ∀ {n : JsNumber}, n.toInt? = some i → n.unsigned = .real i := by
    intro n hn
    cases n with
    | real q =>
      rw [JsNumber.toInt?, Option.ite_none_right_eq_some, Option.some.injEq] at hn
      obtain ⟨hden, rfl⟩ := hn
      exact congrArg JsNumber.real ((Rat.den_eq_one_iff q).1 hden).symm
    | negZero =>
      cases hn
      rfl
    | posInf | negInf | nan => cases hn
  rw [hreal hm, hreal hn]

theorem leU64_inj {m n : JsNumber} {bs : Bytes} (hm : leU64 m = .ok bs) (hn : leU64 n = .ok bs) :
    m.unsigned = n.unsigned := by
  obtain ⟨i, hi, hlt, rfl⟩ := leU64_eq_ok.1 hm
  obtain ⟨j, hj, hlt', heq⟩ := leU64_eq_ok.1 hn
  obtain rfl := leBytes_inj hlt' hlt heq
  exact unsigned_eq_of_toInt? hi hj

/-- The parts of a preimage. -/
theorem preimage_inj {i i' o o' : Vector UInt8 hashLength} {m m' t t' : Bytes} (ht : t.length = t'.length)
    (h : concatBytes [i.toList, o.toList, m, t] = concatBytes [i'.toList, o'.toList, m', t']) :
    i = i' ∧ o = o' ∧ m = m' ∧ t = t' := by
  simp only [concatBytes, List.flatten_cons, List.flatten_nil, List.append_nil] at h
  obtain ⟨hi, h⟩ := List.append_inj h (by simp)
  obtain ⟨ho, h⟩ := List.append_inj h (by simp)
  obtain ⟨hm, ht⟩ := List.append_inj' h ht
  exact ⟨Vector.toList_inj.1 hi, Vector.toList_inj.1 ho, hm, ht⟩

theorem scalars_eq_of_textEncode {s t : JsString} (h : textEncode s = textEncode t) : scalars s = scalars t := by
  have hs := utf8Decode_encode (scalars s)
  rw [show (scalars s).flatMap String.utf8EncodeChar = textEncode t from h] at hs
  exact hs.symm.trans (utf8Decode_encode (scalars t))

/-- **The commitment binds** input, output, model id and timestamp. -/
theorem computeCommitment_inj {blake2b256 : Blake2b} {x y : CommitmentInput} {hashes : CommitmentResult}
    (hsep : Separated blake2b256 x y) (hx : computeCommitment blake2b256 x = .ok hashes)
    (hy : computeCommitment blake2b256 y = .ok hashes) :
    (∃ bs, canonicalBytes x.input = .ok bs ∧ canonicalBytes y.input = .ok bs) ∧
    (∃ bs, canonicalBytes x.output = .ok bs ∧ canonicalBytes y.output = .ok bs) ∧
    scalars x.modelId = scalars y.modelId ∧ x.timestamp.unsigned = y.timestamp.unsigned := by
  obtain ⟨i, o, p, hi, ho, hp, rfl⟩ := computeCommitment_digest.1 hx
  obtain ⟨i', o', q, hi', ho', hq, heq⟩ := computeCommitment_digest.1 hy
  simp only [CommitmentResult.mk.injEq] at heq
  obtain ⟨hii, hoo, hpq⟩ := heq
  obtain rfl := toHex_digest_injective hii
  obtain rfl := toHex_digest_injective hoo
  obtain rfl := hsep.preimage p q hp hq (toHex_digest_injective hpq)
  obtain ⟨a, ha, hai⟩ := hi
  obtain ⟨a', ha', hai'⟩ := hi'
  obtain rfl := hsep.input a a' ha ha' (hai.trans hai'.symm)
  obtain ⟨b, hb, hbo⟩ := ho
  obtain ⟨b', hb', hbo'⟩ := ho'
  obtain rfl := hsep.output b b' hb hb' (hbo.trans hbo'.symm)
  obtain ⟨_, _, t, -, -, ht, hpre⟩ := hp
  obtain ⟨_, _, t', -, -, ht', hpre'⟩ := hq
  have hlen : t.length = t'.length := by rw [length_leU64 ht, length_leU64 ht']
  obtain ⟨-, -, hm, rfl⟩ := preimage_inj hlen (hpre.trans hpre'.symm)
  exact ⟨⟨a, ha, ha'⟩, ⟨b, hb, hb'⟩, scalars_eq_of_textEncode hm, leU64_inj ht ht'⟩

end CasperProof.Commitment
