/-
  Values that were encoded and read back.

  `readBack v` is what `JSON.parse` makes of the encoding of `v`.  It is
  encoded as `v` is, so that its hashes are those of `v`.
-/
import CasperProof.Commitment.RoundTrip

namespace CasperProof.Commitment

open Js Json

/-- The value that its encoding reads back as. -/
def readBack (v : Value) : Value := v.rebuild JsNumber.unsigned id arrange

theorem readBack_obj (ms : Members JsNumber JsString) :
    readBack (.obj ms) = .obj (arrange (ms.map fun m => (m.1, readBack m.2))) := rebuild_obj ms

/-! ## Properties -/

section
variable {A : Type} {ms : List (JsString × A)} {k : JsString}

theorem arrange_arrange (h : (keys ms).Nodup) : arrange (arrange ms) = arrange ms := by
  have hfilter : ((ms.filter fun m => m.1 ≠ protoKey).filter fun m => m.1 ≠ protoKey) =
      ms.filter fun m => m.1 ≠ protoKey := by
    rw [List.filter_filter]
    simp
  calc arrange (arrange ms) = arrange (ms.filter fun m => m.1 ≠ protoKey) := by
        rw [arrange, sortKeys_arrange h, arrange]
    _ = arrange ms := by rw [arrange_eq (keys_filter_nodup h), arrange_eq h, hfilter]

/-- Arranging keeps the properties but `__proto__`. -/
theorem lookup_arrange (h : (keys ms).Nodup) (hk : k ≠ protoKey) : lookup k (arrange ms) = lookup k ms := by
  have hnodup : (keys (arrange ms)).Nodup := ((arrange_perm h).map Prod.fst).nodup_iff.2 (keys_filter_nodup h)
  ext v
  rw [lookup_eq_some hnodup, lookup_eq_some h, (arrange_perm h).mem_iff, List.mem_filter]
  simp [hk]

end

/-- What is read under a key is what was written there. -/
theorem lookup_readBack {ms : Members JsNumber JsString} (hd : (Json.obj ms : Value).Distinct) {k : JsString}
    (hk : k ≠ protoKey) :
    lookup k (arrange (ms.map fun m => (m.1, readBack m.2))) = (lookup k ms).map readBack := by
  rw [Json.Distinct, every_obj] at hd
  rw [lookup_arrange (by rw [keys_map]; exact hd.1) hk, lookup_map]

/-! ## Hashes -/

theorem toSafe_unsigned (n : JsNumber) : toSafe n.unsigned = toSafe n := by
  cases n with
  | negZero => decide +kernel
  | real | posInf | negInf | nan => rfl

theorem leU64_unsigned (n : JsNumber) : leU64 n.unsigned = leU64 n := by
  cases n with
  | negZero => decide +kernel
  | real | posInf | negInf | nan => rfl

variable {v : Value} {s : JsString}

/-- Reading back does not change what is rebuilt. -/
theorem rebuild_readBack (hd : v.Distinct) :
    (readBack v).rebuild toSafe id arrange = v.rebuild toSafe id arrange := by
  rw [readBack, rebuild_rebuild (h := fun _ => arrange) keywise_arrange]
  refine rebuild_congr (everyNumber_true v) hd ?_ ?_
  · intro n _
    exact toSafe_unsigned n
  · intro ms hms
    exact arrange_arrange hms

theorem accepted_readBack (hd : v.Distinct) (ha : Accepted v) : Accepted (readBack v) := by
  -- the numbers read back are those that were written
  have hparse := jsonParse_canonicalize hd (canonicalize_ok.2 ⟨ha, rfl⟩)
  rw [jsonParse_stringify, Option.some.injEq] at hparse
  rw [readBack, ← hparse]
  refine everyNumber_rebuild ?_ ?_ _
  · intro i
    exact ⟨i, assertCanonicalNumber_ofSafe i⟩
  · intro ms m hm
    exact mem_createObject hm

/-- **What was read back is encoded as before.** -/
theorem canonicalize_readBack (hd : v.Distinct) (hs : canonicalize v = .ok s) : canonicalize (readBack v) = .ok s := by
  obtain ⟨ha, rfl⟩ := canonicalize_ok.1 hs
  exact canonicalize_ok.2 ⟨accepted_readBack hd ha, by rw [rebuild_readBack hd]⟩

theorem hashPayload_readBack {blake2b256 : Blake2b} {d : JsString} (hd : v.Distinct)
    (h : hashPayload blake2b256 v = .ok d) : hashPayload blake2b256 (readBack v) = .ok d := by
  obtain ⟨bs, hb, hdigest⟩ := hashPayload_ok.1 h
  obtain ⟨s, hs, hbs⟩ := canonicalBytes_ok.1 hb
  exact hashPayload_ok.2 ⟨bs, canonicalBytes_ok.2 ⟨s, canonicalize_readBack hd hs, hbs⟩, hdigest⟩

/-- **The hashes of what was read back.** -/
theorem computeCommitment_readBack {blake2b256 : Blake2b} {x : CommitmentInput} {r : CommitmentResult}
    (hin : x.input.Distinct) (hout : x.output.Distinct) (h : computeCommitment blake2b256 x = .ok r) :
    computeCommitment blake2b256 ⟨readBack x.input, readBack x.output, x.modelId, x.timestamp.unsigned⟩ = .ok r := by
  obtain ⟨hi, ho, hc⟩ := computeCommitment_ok.1 h
  refine computeCommitment_ok.2 ⟨hashPayload_readBack hin hi, hashPayload_readBack hout ho, ?_⟩
  rw [← hc, commitmentFromHashes, commitmentFromHashes, leU64_unsigned]

end CasperProof.Commitment
