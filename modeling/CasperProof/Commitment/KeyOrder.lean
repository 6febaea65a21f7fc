/-
  The order of keys — two values that differ in it only have the same
  canonical text, or are rejected for the same number.

  The trees below list the members of an object in the order of insertion;
  `created` are the JavaScript objects made in that order, which enumerate
  integer-like keys first.
-/
import CasperProof.Commitment.Commitment
import CasperProof.Lib.Json.Reorder

namespace CasperProof.Commitment

open Js Json

/-- The value whose objects get their members in the order listed. -/
def created (v : Json JsNumber JsString) : Value := v.rebuild id id createObject

theorem reordered_created {v : Json JsNumber JsString} (hv : v.Distinct) : Reordered v (created v) :=
  reordered_rebuild (fun ms hms => by rw [createObject_eq hms]; exact enumerate_perm ms) hv

theorem normalizeElements_congr {x y : Value} (h : normalize x = normalize y) (xs ys : List Value) :
    normalizeElements (xs ++ x :: ys) = normalizeElements (xs ++ y :: ys) := by
  induction xs with
  | nil => rw [List.nil_append, List.nil_append, normalizeElements, normalizeElements, h]
  | cons z xs ih => rw [List.cons_append, List.cons_append, normalizeElements, normalizeElements, ih]

theorem normalizeMembers_congr {x y : Value} (h : normalize x = normalize y) (k : JsString)
    (ms ns : Members JsNumber JsString) :
    normalizeMembers (ms ++ (k, x) :: ns) = normalizeMembers (ms ++ (k, y) :: ns) := by
  rw [normalizeMembers_eq, normalizeMembers_eq, List.map_append, List.map_append, List.map_cons, List.map_cons, h]

/-- **`normalize` forgets the order of keys**: the results for the members are
    used in sorted order. -/
theorem normalize_reordered {v w : Value} (h : Reordered v w) (hv : v.Distinct) : normalize v = normalize w := by
  induction h with
  | refl v => rfl
  | @members ms ns hp =>
    have hkeys : (keys (normalizeMembers ns)).Nodup := by
      rw [normalizeMembers_eq, keys, List.map_map]
      exact (hp.map Prod.fst).nodup_iff.1 ((every_obj _).1 hv).1
    have hperm : (normalizeMembers ms).Perm (normalizeMembers ns) := by
      rw [normalizeMembers_eq, normalizeMembers_eq]
      exact hp.map _
    rw [normalize, normalize, sortKeys_eq_of_perm hperm hkeys]
  | element xs ys _ ih =>
    have hx := (every_arr _).1 hv _ (List.mem_append_right xs (List.mem_cons_self ..))
    rw [normalize, normalize, normalizeElements_congr (ih hx)]
  | member ms k ns _ ih =>
    have hx := ((every_obj _).1 hv).2 _ (List.mem_append_right ms (List.mem_cons_self ..))
    rw [normalize, normalize, normalizeMembers_congr (ih hx.2)]
  | trans h _ ih ih' => exact (ih hv).trans (ih' (h.distinct hv))

theorem canonicalize_reordered {v w : Value} (h : Reordered v w) (hv : v.Distinct) :
    canonicalize v = canonicalize w := by
  rw [canonicalize, canonicalize, normalize_reordered h hv]

theorem hashPayload_reordered (blake2b256 : Blake2b) {v w : Value} (h : Reordered v w) (hv : v.Distinct) :
    hashPayload blake2b256 v = hashPayload blake2b256 w := by
  rw [hashPayload, hashPayload, canonicalBytes, canonicalBytes, canonicalize_reordered h hv]

/-- What is made of a reordering is a reordering. -/
theorem created_reordered {v w : Json JsNumber JsString} (h : Reordered v w) (hv : v.Distinct) :
    Reordered (created v) (created w) :=
  (reordered_created hv).symm.trans (h.trans (reordered_created (h.distinct hv)))

theorem distinct_created {v : Json JsNumber JsString} (hv : v.Distinct) : (created v).Distinct :=
  (reordered_created hv).distinct hv

/-- **Key order never matters.** -/
theorem key_order_irrelevant (blake2b256 : Blake2b) {input input' output output' : Json JsNumber JsString}
    (hinput : Reordered input input') (houtput : Reordered output output')
    (hi : input.Distinct) (ho : output.Distinct) (modelId : JsString) (timestamp : JsNumber) :
    canonicalize (created input) = canonicalize (created input') ∧
    computeCommitment blake2b256 ⟨created input, created output, modelId, timestamp⟩ =
      computeCommitment blake2b256 ⟨created input', created output', modelId, timestamp⟩ := by
  have hinput' := created_reordered hinput hi
  have houtput' := created_reordered houtput ho
  refine ⟨canonicalize_reordered hinput' (distinct_created hi), ?_⟩
  rw [computeCommitment, computeCommitment, hashPayload_reordered blake2b256 hinput' (distinct_created hi),
    hashPayload_reordered blake2b256 houtput' (distinct_created ho)]

/-- Two objects inside an array, one with an integer-like key. -/
theorem key_order_irrelevant_demo :
    let input : Json JsNumber JsString :=
      .arr [.obj [(lit "b", .num (.real 1)), (lit "1", .null)], .obj [(lit "y", .num (.real 2)), (lit "x", .bool true)]]
    let input' : Json JsNumber JsString :=
      .arr [.obj [(lit "1", .null), (lit "b", .num (.real 1))], .obj [(lit "x", .bool true), (lit "y", .num (.real 2))]]
    (∃ s, canonicalize (created input) = .ok s ∧ canonicalize (created input') = .ok s) ∧
    computeCommitment demoDigest ⟨created input, created input, lit "m", .real 1⟩ =
      computeCommitment demoDigest ⟨created input', created input', lit "m", .real 1⟩ := by
  intro input input'
  have hswap : Reordered input input' :=
    .arr (.cons (.members (.swap ..)) (.cons (.members (.swap ..)) .nil))
  have hdistinct : input.Distinct := by unfold Distinct; decide +kernel
  have haccepted : (canonicalize (created input)).toOption.isSome := by decide +kernel
  obtain ⟨s, hs⟩ := Option.isSome_iff_exists.1 haccepted
  have hs := toOption_eq_some.1 hs
  obtain ⟨hcanonical, hcommitment⟩ := key_order_irrelevant demoDigest hswap hswap hdistinct hdistinct (lit "m") (.real 1)
  exact ⟨⟨s, hs, hcanonical ▸ hs⟩, hcommitment⟩

end CasperProof.Commitment
