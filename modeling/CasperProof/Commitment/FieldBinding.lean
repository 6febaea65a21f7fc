/-
  What `commitmentFromHashes` binds: all four arguments.

  Its preimage has no length prefixes, but the two digests in front and the
  timestamp at the end have fixed widths, so the model id is what lies between.
-/
import CasperProof.Commitment.Binding

namespace CasperProof.Commitment

open Js

/-- Text as `toHex` writes it for a digest. -/
def IsHash (s : JsString) : Prop := s.length = 2 * hashLength ∧ ∀ c ∈ s, ∃ d, hexDigit d = c

instance (s : JsString) : Decidable (IsHash s) := inferInstanceAs (Decidable (_ ∧ _))

theorem isHash_toHex (v : Vector UInt8 hashLength) : IsHash (toHex v.toList) := by
  refine ⟨by rw [length_toHex, Vector.length_toList], fun c hc => ?_⟩
  obtain ⟨b, -, hc⟩ := List.mem_flatMap.1 hc
  rcases List.mem_pair.1 hc with rfl | rfl
  · exact ⟨_, rfl⟩
  · exact ⟨_, rfl⟩

/-- Two digits are the text of a byte. -/
theorem hexByte_pair (d e : Fin 16) : hexByte (UInt8.ofNat (16 * d.val + e.val)) = [hexDigit d, hexDigit e] := by
  have hbyte : (UInt8.ofNat (16 * d.val + e.val)).toNat = 16 * d.val + e.val := toNat_byte (by omega)
  have hd : (16 * d.val + e.val) / 16 = d.val := by omega
  have he : (16 * d.val + e.val) % 16 = e.val := by omega
  simp only [hexByte, hbyte, hd, he]

theorem exists_toHex {s : JsString} {n : ℕ} (hlen : s.length = 2 * n) (hs : ∀ c ∈ s, ∃ d, hexDigit d = c) :
    ∃ bs : Bytes, bs.length = n ∧ toHex bs = s := by
  induction n generalizing s with
  | zero => exact ⟨[], rfl, (List.eq_nil_of_length_eq_zero hlen).symm⟩
  | succ n ih =>
    obtain ⟨c, s, rfl⟩ := List.exists_cons_of_length_pos (l := s) (by omega)
    rw [List.length_cons] at hlen
    obtain ⟨c', s, rfl⟩ := List.exists_cons_of_length_pos (l := s) (by omega)
    rw [List.length_cons] at hlen
    obtain ⟨d, rfl⟩ := hs c (by simp)
    obtain ⟨e, rfl⟩ := hs c' (by simp)
    have hrest : s.length = 2 * n := by omega
    obtain ⟨bs, rfl, rfl⟩ := ih hrest fun c hc => hs c (by simp [hc])
    refine ⟨UInt8.ofNat (16 * d.val + e.val) :: bs, rfl, ?_⟩
    rw [toHex, List.flatMap_cons, hexByte_pair]
    rfl

/-- The digest that a hash is the text of. -/
theorem IsHash.digest {s : JsString} (h : IsHash s) : ∃ v : Vector UInt8 hashLength, toHex v.toList = s := by
  obtain ⟨bs, hlen, rfl⟩ := exists_toHex h.1 h.2
  exact ⟨⟨bs.toArray, by simpa using hlen⟩, rfl⟩

/-- The arguments of `commitmentFromHashes`. -/
structure CommitmentFields where
  inputHash : JsString
  outputHash : JsString
  modelId : JsString
  timestamp : JsNumber

namespace CommitmentFields

/-- Two hashes, a text without lone surrogates, and a safe integer from `0`
    on. -/
structure WellFormed (x : CommitmentFields) : Prop where
  inputHash : IsHash x.inputHash
  outputHash : IsHash x.outputHash
  modelId : IsText x.modelId
  timestamp : ∃ n : ℕ, x.timestamp.toInt? = some (n : ℤ) ∧ n ≤ maxSafeInteger

def commitment (blake2b256 : Blake2b) (x : CommitmentFields) : Except HashError JsString :=
  commitmentFromHashes blake2b256 x.inputHash x.outputHash x.modelId x.timestamp

/-- The bytes that `commitmentFromHashes` hashes. -/
def preimage (x : CommitmentFields) : Except HashError Bytes := do
  let input ← fromHex x.inputHash
  let output ← fromHex x.outputHash
  let time ← leU64 x.timestamp
  pure (concatBytes [input, output, textEncode x.modelId, time])

theorem commitment_ok {blake2b256 : Blake2b} {x : CommitmentFields} {h : JsString} :
    x.commitment blake2b256 = .ok h ↔ ∃ p, x.preimage = .ok p ∧ toHex (blake2b256 p).toList = h := by
  simp only [commitment, commitmentFromHashes, preimage, bind_eq_ok, pure_eq_ok]
  constructor
  · rintro ⟨i, hi, o, ho, t, ht, rfl⟩
    exact ⟨_, ⟨i, hi, o, ho, t, ht, rfl⟩, rfl⟩
  · rintro ⟨_, ⟨i, hi, o, ho, t, ht, rfl⟩, rfl⟩
    exact ⟨i, hi, o, ho, t, ht, rfl⟩

/-- The preimage of well-formed arguments. -/
theorem WellFormed.preimage_eq {x : CommitmentFields} (hx : x.WellFormed) :
    ∃ (i o : Vector UInt8 hashLength) (t : Bytes), toHex i.toList = x.inputHash ∧ toHex o.toList = x.outputHash ∧
      leU64 x.timestamp = .ok t ∧ x.preimage = .ok (concatBytes [i.toList, o.toList, textEncode x.modelId, t]) := by
  obtain ⟨i, hi⟩ := hx.inputHash.digest
  obtain ⟨o, ho⟩ := hx.outputHash.digest
  obtain ⟨n, hn, hmax⟩ := hx.timestamp
  have ht : leU64 x.timestamp = .ok (leBytes 8 n) :=
    leU64_eq_ok.2 ⟨n, hn, hmax.trans_lt (by norm_num [maxSafeInteger]), rfl⟩
  refine ⟨i, o, _, hi, ho, ht, ?_⟩
  rw [preimage, ← hi, ← ho, ht, fromHex_toHex, fromHex_toHex]
  rfl

theorem WellFormed.commitment_returns (blake2b256 : Blake2b) {x : CommitmentFields} (hx : x.WellFormed) :
    ∃ h, x.commitment blake2b256 = .ok h := by
  obtain ⟨i, o, t, -, -, -, hp⟩ := hx.preimage_eq
  exact ⟨_, commitment_ok.2 ⟨_, hp, rfl⟩⟩

end CommitmentFields

/-- **The commitment binds all four fields**; `-0` is the timestamp `0`. -/
theorem commitmentFromHashes_inj {blake2b256 : Blake2b} {x y : CommitmentFields} (hx : x.WellFormed)
    (hy : y.WellFormed)
    (hsep : ∀ p q, x.preimage = .ok p → y.preimage = .ok q → Separates blake2b256 p q)
    (h : commitmentFromHashes blake2b256 x.inputHash x.outputHash x.modelId x.timestamp =
      commitmentFromHashes blake2b256 y.inputHash y.outputHash y.modelId y.timestamp) :
    x.inputHash = y.inputHash ∧ x.outputHash = y.outputHash ∧ x.modelId = y.modelId ∧
      x.timestamp.unsigned = y.timestamp.unsigned := by
  obtain ⟨i, o, t, hi, ho, ht, hp⟩ := hx.preimage_eq
  obtain ⟨i', o', t', hi', ho', ht', hq⟩ := hy.preimage_eq
  obtain ⟨c, hc⟩ := hx.commitment_returns blake2b256
  obtain ⟨p, hp', hpc⟩ := CommitmentFields.commitment_ok.1 hc
  obtain ⟨q, hq', hqc⟩ := CommitmentFields.commitment_ok.1 (h.symm.trans hc)
  -- Both digests are the same text, so both preimages are the same bytes.
  have hpq : p = q := hsep p q hp' hq' (toHex_digest_injective (hpc.trans hqc.symm))
  have hbytes := Except.ok.inj (hp.symm.trans (hp'.trans (hpq ▸ hq'.symm.trans hq)))
  have hlen : t.length = t'.length := by rw [length_leU64 ht, length_leU64 ht']
  obtain ⟨rfl, rfl, hm, rfl⟩ := preimage_inj hlen hbytes
  exact ⟨hi.symm.trans hi', ho.symm.trans ho', textEncode_inj hx.modelId hy.modelId hm, leU64_inj ht ht'⟩

/-- The same fields, with the two spellings of the timestamp `0`. -/
theorem commitmentFromHashes_inj_demo :
    let d := toHex (demoDigest []).toList
    d = d ∧ d = d ∧ lit "m" = lit "m" ∧ (JsNumber.real 0).unsigned = JsNumber.negZero.unsigned := by
  intro d
  have hd : IsHash d := isHash_toHex _
  have hx : (⟨d, d, lit "m", .real 0⟩ : CommitmentFields).WellFormed :=
    ⟨hd, hd, isText_lit "m", 0, rfl, Nat.zero_le _⟩
  have hy : (⟨d, d, lit "m", .negZero⟩ : CommitmentFields).WellFormed :=
    ⟨hd, hd, isText_lit "m", 0, rfl, Nat.zero_le _⟩
  exact @commitmentFromHashes_inj demoDigest _ _ hx hy
    (fun p q hp hq _ => Except.ok.inj (hp.symm.trans hq)) rfl

end CasperProof.Commitment
