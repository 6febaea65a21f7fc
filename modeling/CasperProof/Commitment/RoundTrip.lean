/-
  What the canonical encoding keeps of a value.

  * `jsonParse_canonicalize`: reading the encoding back gives the value with
    the properties of its objects arranged.
  * `same_dropProto`: that is the value without its `__proto__` keys, up to the
    order of keys — the assignment in `normalize` loses them.
  * `canonicalize_lossless`: so nothing is lost exactly when there are none.
-/
import CasperProof.Commitment.Commitment

namespace CasperProof.Commitment

open Js Json

/-- No object, at any depth, has the key `__proto__`. -/
def NoProto (v : Value) : Prop := v.EveryKeys fun ks => protoKey ∉ ks

/-- The value without its `__proto__` keys. -/
def dropProto (v : Value) : Value := v.rebuild id id fun ms => ms.filter fun m => m.1 ≠ protoKey

/-! ## Arranged objects -/

section
variable {A : Type} {ms : List (JsString × A)}

theorem arrange_perm (h : (keys ms).Nodup) : (arrange ms).Perm (ms.filter fun m => m.1 ≠ protoKey) := by
  rw [arrange_eq h]
  exact (enumerate_perm _).trans (sortKeys_perm _)

theorem keys_filter_nodup (h : (keys ms).Nodup) : (keys (ms.filter fun m => m.1 ≠ protoKey)).Nodup :=
  (List.filter_sublist.map _).nodup h

/-- Reading back does not move the properties again. -/
theorem createObject_arrange (h : (keys ms).Nodup) : createObject (arrange ms) = arrange ms := by
  have hnodup : (keys (arrange ms)).Nodup := ((arrange_perm h).map Prod.fst).nodup_iff.2 (keys_filter_nodup h)
  rw [createObject_eq hnodup, arrange_eq h]
  exact enumerate_eq_self (enumerate_pairwise _)

theorem sortKeys_arrange (h : (keys ms).Nodup) :
    sortKeys (arrange ms) = sortKeys (ms.filter fun m => m.1 ≠ protoKey) :=
  sortKeys_eq_of_perm (arrange_perm h) (keys_filter_nodup h)

theorem filter_keys_eq_self (h : protoKey ∉ keys ms) : (ms.filter fun m => m.1 ≠ protoKey) = ms := by
  rw [List.filter_eq_self]
  intro m hm
  have hne : m.1 ≠ protoKey := fun heq => h (heq ▸ List.mem_map_of_mem hm)
  simpa using hne

end

theorem unsigned_unsigned (n : JsNumber) : n.unsigned.unsigned = n.unsigned := by cases n <;> rfl

/-- A value that is accepted, read back from its encoding. -/
theorem jsonParse_canonicalize {v : Value} {s : JsString} (hd : v.Distinct) (hs : canonicalize v = .ok s) :
    jsonParse s = some (v.rebuild JsNumber.unsigned id arrange) := by
  obtain ⟨ha, rfl⟩ := canonicalize_ok.1 hs
  rw [jsonParse_stringify, rebuild_rebuild (h := fun _ => arrange) keywise_arrange]
  refine congrArg some (rebuild_congr ha hd ?_ ?_)
  · intro n hn
    exact assertCanonicalNumber_ok (toSafe_ok hn)
  · intro ms hms
    exact createObject_arrange hms

/-- Likewise from the bytes. -/
theorem jsonParse_canonicalBytes {v : Value} {bs : Bytes} (hd : v.Distinct) (hb : canonicalBytes v = .ok bs) :
    jsonParse (textDecode bs) = some (v.rebuild JsNumber.unsigned id arrange) := by
  obtain ⟨s, hs, rfl⟩ := canonicalBytes_ok.1 hb
  have hdecode : textDecode (textEncode s) = s := by
    obtain ⟨-, rfl⟩ := canonicalize_ok.1 hs
    exact textDecode_stringify _
  rw [hdecode]
  exact jsonParse_canonicalize hd hs

/-! ## Dropping `__proto__` -/

theorem keywise_filter : Keywise JsString fun _ ms => ms.filter fun m => m.1 ≠ protoKey := by
  intro A B φ ms
  exact List.filter_map

/-- **What is read back is the value without its `__proto__` keys.** -/
theorem same_dropProto {v : Value} (hd : v.Distinct) :
    Same (v.rebuild JsNumber.unsigned id arrange) (dropProto v) := by
  unfold Same normalForm dropProto
  rw [rebuild_rebuild (h := fun _ => arrange) keywise_arrange, rebuild_rebuild keywise_filter]
  refine rebuild_congr (everyNumber_true v) hd ?_ ?_
  · intro n _
    exact unsigned_unsigned n
  · intro ms hms
    exact sortKeys_arrange hms

theorem dropProto_eq {v : Value} (h : NoProto v) : dropProto v = v :=
  calc dropProto v = v.rebuild id id id :=
        rebuild_congr (everyNumber_true v) h (fun _ _ => rfl) fun _ hms => filter_keys_eq_self hms
    _ = v := rebuild_id v

theorem noProto_dropProto (v : Value) : NoProto (dropProto v) := by
  refine every_rebuild (everyKeys_true v) (fun ms => List.filter_subset_self _) ?_
  intro ms _ hmem
  obtain ⟨m, hm, heq⟩ := List.mem_map.1 hmem
  simp [heq] at hm

/-- The same data has the same keys. -/
theorem noProto_of_same {v w : Value} (h : Same v w) (hv : NoProto v) : NoProto w := by
  have hw : NoProto (w.normalForm JsNumber.unsigned) := by
    rw [← h]
    refine every_rebuild hv (fun ms => (sortKeys_perm ms).subset) fun ms hms => ?_
    rwa [((sortKeys_perm ms).map Prod.fst).mem_iff]
  refine every_of_rebuild hw (fun ms => (sortKeys_perm ms).symm.subset) fun ms hms => ?_
  rwa [← ((sortKeys_perm ms).map Prod.fst).mem_iff]

/-- A value reads back from its encoding exactly when it has no `__proto__`
    key. -/
theorem reads_back_iff {v : Value} {s : JsString} (hd : v.Distinct) (hs : canonicalize v = .ok s) :
    (∃ v', jsonParse s = some v' ∧ Same v' v) ↔ NoProto v := by
  rw [jsonParse_canonicalize hd hs]
  constructor
  · rintro ⟨_, ⟨rfl⟩, h⟩
    exact noProto_of_same ((same_dropProto hd).symm.trans h) (noProto_dropProto v)
  · intro h
    refine ⟨_, rfl, ?_⟩
    have hsame := same_dropProto hd
    rwa [dropProto_eq h] at hsame

/-- Equal encodings, apart from the keys that are lost. -/
theorem same_of_canonicalBytes_eq {v w : Value} {bs : Bytes} (hv : v.Distinct) (hw : w.Distinct)
    (hb : canonicalBytes v = .ok bs) (hb' : canonicalBytes w = .ok bs) : Same (dropProto v) (dropProto w) := by
  obtain ⟨s, hs, hbs⟩ := canonicalBytes_ok.1 hb
  obtain ⟨t, ht, hbt⟩ := canonicalBytes_ok.1 hb'
  have hst : s = t := by
    obtain ⟨-, rfl⟩ := canonicalize_ok.1 hs
    obtain ⟨-, rfl⟩ := canonicalize_ok.1 ht
    exact textEncode_inj (isText_stringify _) (isText_stringify _) (hbs.trans hbt.symm)
  have hparse := (jsonParse_canonicalize hv hs).symm.trans (hst ▸ jsonParse_canonicalize hw ht)
  have hdrop := same_dropProto hv
  rw [Option.some.inj hparse] at hdrop
  exact hdrop.symm.trans (same_dropProto hw)

/-- **What the canonical encoding keeps.**  A value that `JSON.parse` makes and
    `canonicalize` accepts reads back iff no object in it has the key
    `__proto__`; and two such values that share an encoding, or an output hash
    without a collision, are the same data. -/
theorem canonicalize_lossless {text s : JsString} {v : Value} (hv : jsonParse text = some v)
    (hs : canonicalize v = .ok s) :
    ((∃ v', jsonParse s = some v' ∧ Same v' v) ↔ NoProto v) ∧
    ∀ (text' : JsString) (w : Value), jsonParse text' = some w → NoProto v → NoProto w →
      (canonicalize w = .ok s → Same w v) ∧
      (∀ bs, canonicalBytes v = .ok bs → canonicalBytes w = .ok bs → Same w v) ∧
      ∀ (blake2b256 : Blake2b) (a b : Bytes) (d : JsString), canonicalBytes v = .ok a → canonicalBytes w = .ok b →
        Separates blake2b256 a b → hashPayload blake2b256 v = .ok d → hashPayload blake2b256 w = .ok d →
          Same w v := by
  have hd := jsonParse_distinct hv
  refine ⟨reads_back_iff hd hs, fun text' w hw hnv hnw => ?_⟩
  have hd' := jsonParse_distinct hw
  have hsame : ∀ bs, canonicalBytes v = .ok bs → canonicalBytes w = .ok bs → Same w v := by
    intro bs hb hb'
    have h := same_of_canonicalBytes_eq hd' hd hb' hb
    rwa [dropProto_eq hnv, dropProto_eq hnw] at h
  refine ⟨fun hs' => ?_, hsame, fun H a b d ha hb hsep hda hdb => ?_⟩
  · exact hsame (textEncode s) (canonicalBytes_ok.2 ⟨s, hs, rfl⟩) (canonicalBytes_ok.2 ⟨s, hs', rfl⟩)
  · cases canonicalBytes_eq_of_hashPayload ha hb hsep hda hdb
    exact hsame a ha hb

/-- Two keys, in the order `b`, `a`. -/
def twoKeys : Value := .obj [(lit "b", .arr []), (lit "a", .num (.real 0))]

theorem canonicalize_lossless_demo :
    ∃ v, jsonParse (lit "\x7b\"a\":0,\"b\":[]\x7d") = some v ∧ Same v twoKeys := by
  have htext : lit "\x7b\"b\":[],\"a\":0\x7d" =
      stringify (.obj [(lit "b", .arr []), (lit "a", .num ⟨0, by decide⟩)]) := by decide +kernel
  have hparse : jsonParse (lit "\x7b\"b\":[],\"a\":0\x7d") = some twoKeys := by
    rw [htext, jsonParse_stringify]
    rfl
  have hcanonical : canonicalize twoKeys = .ok (lit "\x7b\"a\":0,\"b\":[]\x7d") := by decide +kernel
  have hno : NoProto twoKeys := by unfold NoProto; decide +kernel
  exact (canonicalize_lossless hparse hcanonical).1.2 hno

/-- An object with the own property `__proto__`, as `JSON.parse` makes it. -/
def protoObject : Value := .obj [(protoKey, .num (.real 1))]

/-- `JSON.parse` reads the object from a text, but its encoding is that of the
    empty object, and so is its hash. -/
theorem proto_key_is_lost :
    jsonParse (lit "\x7b\"__proto__\":1\x7d") = some protoObject ∧ jsonParse (lit "\x7b\x7d") = some (.obj []) ∧
    canonicalize protoObject = .ok (lit "\x7b\x7d") ∧ canonicalize (.obj []) = .ok (lit "\x7b\x7d") ∧
    (∀ blake2b256, hashPayload blake2b256 protoObject = hashPayload blake2b256 (.obj [])) ∧
    ¬ Same (.obj []) protoObject := by
  have htext : lit "\x7b\"__proto__\":1\x7d" = stringify (.obj [(protoKey, .num ⟨1, by decide⟩)]) := by
    decide +kernel
  have hempty : lit "\x7b\x7d" = stringify (.obj []) := by decide +kernel
  have hlost : canonicalize protoObject = .ok (lit "\x7b\x7d") := by decide +kernel
  have hnone : canonicalize (.obj []) = .ok (lit "\x7b\x7d") := by decide +kernel
  refine ⟨?_, ?_, hlost, hnone, fun H => ?_, ?_⟩
  · rw [htext, jsonParse_stringify]
    rfl
  · rw [hempty, jsonParse_stringify]
    rfl
  · unfold hashPayload canonicalBytes
    rw [hlost, hnone]
  · intro h
    unfold Same normalForm at h
    rw [protoObject, rebuild_obj, rebuild_obj, Json.obj.injEq] at h
    exact absurd (congrArg List.length h) (by decide)

end CasperProof.Commitment
