/-
  Canonical JSON — `normalize` and `canonicalize` of `canonical.ts`.

  `normalize_ok` says what a successful `normalize` returns: the value with the
  properties of every object assigned to a fresh object in sorted order.
-/
import CasperProof.Lib.Fallible
import CasperProof.Lib.Js.Object
import CasperProof.Lib.Js.Encoding

namespace CasperProof.Commitment

open Js Json

/-- `CanonicalizationError`, with the number that caused it. -/
inductive CanonicalizationError where
  | nonFinite (n : JsNumber)
  | notInteger (n : JsNumber)
  | unsafeInteger (n : JsNumber)
deriving DecidableEq

/-- The number that passes is a safe integer, and `JSON.stringify` prints it as
    one (`-0` as `0`). -/
def assertCanonicalNumber (n : JsNumber) : Except CanonicalizationError SafeInteger :=
  if !n.isFinite then .error (.nonFinite n)
  else
    match n.toInt? with
    | none => .error (.notInteger n)
    | some i => if h : i.natAbs ≤ maxSafeInteger then .ok ⟨i, h⟩ else .error (.unsafeInteger n)

/-- `sorted[key] = normalize(obj[key])` for the keys in the given order. -/
def assignNormalized (results : List (JsString × Except CanonicalizationError (Json SafeInteger JsString)))
    (sorted : Members SafeInteger JsString) : Except CanonicalizationError (Members SafeInteger JsString) :=
  match results with
  | [] => .ok sorted
  | (key, result) :: results => do
    let v ← result
    assignNormalized results (assign sorted key v)

mutual

def normalize : Value → Except CanonicalizationError (Json SafeInteger JsString)
  | .null => .ok .null
  | .bool b => .ok (.bool b)
  | .num n => do pure (.num (← assertCanonicalNumber n))
  | .str s => .ok (.str s)
  | .arr xs => do pure (.arr (← normalizeElements xs))
  | .obj ms => do pure (.obj (enumerate (← assignNormalized (sortKeys (normalizeMembers ms)) [])))

/-- `value.map(normalize)`. -/
def normalizeElements : List Value → Except CanonicalizationError (List (Json SafeInteger JsString))
  | [] => .ok []
  | x :: xs => do pure ((← normalize x) :: (← normalizeElements xs))

/-- `normalize(obj[key])` for every key; the results are used in sorted order. -/
def normalizeMembers : Members JsNumber JsString →
    List (JsString × Except CanonicalizationError (Json SafeInteger JsString))
  | [] => []
  | (k, v) :: ms => (k, normalize v) :: normalizeMembers ms

end

def canonicalize (v : Value) : Except CanonicalizationError JsString := do
  pure (stringify (← normalize v))

def canonicalBytes (v : Value) : Except CanonicalizationError Bytes := do
  pure (textEncode (← canonicalize v))

/-! ## What `normalize` returns -/

/-- The safe integer a number stands for; `0` for the numbers that are
    rejected. -/
def toSafe (n : JsNumber) : SafeInteger :=
  match assertCanonicalNumber n with
  | .ok i => i
  | .error _ => ⟨0, Nat.zero_le _⟩

/-- All numbers of the value are accepted. -/
def Accepted (v : Value) : Prop :=
  v.Every (fun n => ∃ i, assertCanonicalNumber n = .ok i) (fun _ => True) fun _ => True

/-- The properties of an object after normalization. -/
def arrange {A : Type} (ms : List (JsString × A)) : List (JsString × A) := assignAll (sortKeys ms)

theorem keywise_arrange : Keywise JsString fun _ => arrange := by
  intro A B φ ms
  show assignAll (sortKeys (ms.map fun m => (m.1, φ m.2))) = (assignAll (sortKeys ms)).map fun m => (m.1, φ m.2)
  rw [← keywise_assignAll A B φ (sortKeys ms)]
  exact congrArg assignAll (keywise_sortKeys A B φ ms)

theorem arrange_eq {A : Type} {ms : List (JsString × A)} (h : (keys ms).Nodup) :
    arrange ms = enumerate (sortKeys (ms.filter fun m => m.1 ≠ protoKey)) := by
  have hnodup : (keys (sortKeys (ms.filter fun m => m.1 ≠ protoKey))).Nodup :=
    ((sortKeys_perm _).map Prod.fst).nodup_iff.2 ((List.filter_sublist.map _).nodup h)
  rw [arrange, assignAll_eq, sortKeys_filter _ h, createObject_eq hnodup]

theorem assertCanonicalNumber_ok {n : JsNumber} {i : SafeInteger} (h : assertCanonicalNumber n = .ok i) :
    JsNumber.ofSafe i = n.unsigned := by
  unfold assertCanonicalNumber at h
  split at h
  · cases h
  cases n with
  | real q =>
    by_cases hq : q.den = 1
    · simp only [JsNumber.toInt?, if_pos hq] at h
      split at h
      · cases h
        simp only [JsNumber.ofSafe, JsNumber.unsigned, JsNumber.real.injEq]
        exact (Rat.den_eq_one_iff q).1 hq
      · cases h
    · simp only [JsNumber.toInt?, if_neg hq] at h
      cases h
  | negZero =>
    simp only [JsNumber.toInt?, maxSafeInteger] at h
    cases h
    rfl
  | posInf | negInf | nan => cases h

theorem assertCanonicalNumber_ofSafe (i : SafeInteger) : assertCanonicalNumber (.ofSafe i) = .ok i := by
  simp only [assertCanonicalNumber, JsNumber.ofSafe, JsNumber.isFinite, JsNumber.toInt?, Rat.den_intCast,
    Rat.num_intCast, Bool.not_true, Bool.false_eq_true, if_false, if_true]
  exact dif_pos i.property

theorem normalizeElements_ok {xs : List Value} {ys : List (Json SafeInteger JsString)} :
    normalizeElements xs = .ok ys ↔ List.Forall₂ (fun x y => normalize x = .ok y) xs ys := by
  induction xs generalizing ys with
  | nil => simp [normalizeElements, eq_comm]
  | cons x xs ih =>
    simp only [normalizeElements, bind_eq_ok, pure_eq_ok]
    constructor
    · rintro ⟨y, hy, ys', hys, rfl⟩
      exact .cons hy (ih.1 hys)
    · rintro (_ | ⟨hy, hys⟩)
      exact ⟨_, hy, _, ih.2 hys, rfl⟩

theorem normalizeMembers_eq (ms : Members JsNumber JsString) :
    normalizeMembers ms = ms.map fun m => (m.1, normalize m.2) := by
  induction ms with
  | nil => rfl
  | cons m ms ih => rw [normalizeMembers, ih, List.map_cons]

/-- Assigning results that are all fine. -/
theorem assignNormalized_ok {rs : List (JsString × Except CanonicalizationError (Json SafeInteger JsString))}
    {o o' : Members SafeInteger JsString} :
    assignNormalized rs o = .ok o' ↔ ∃ ms : Members SafeInteger JsString,
      rs = ms.map (fun m => (m.1, .ok m.2)) ∧ ms.foldl (fun o m => assign o m.1 m.2) o = o' := by
  induction rs generalizing o with
  | nil =>
    simp only [assignNormalized, Except.ok.injEq]
    constructor
    · rintro rfl
      exact ⟨[], rfl, rfl⟩
    · rintro ⟨ms, hms, rfl⟩
      rw [List.map_eq_nil_iff.1 hms.symm]
      rfl
  | cons r rs ih =>
    obtain ⟨k, r⟩ := r
    simp only [assignNormalized, bind_eq_ok, ih]
    constructor
    · rintro ⟨v, rfl, ms, rfl, h⟩
      exact ⟨(k, v) :: ms, rfl, h⟩
    · rintro ⟨_ | ⟨m, ms⟩, hms, h⟩
      · cases hms
      · simp only [List.map_cons, List.cons.injEq, Prod.mk.injEq] at hms
        obtain ⟨⟨rfl, rfl⟩, rfl⟩ := hms
        exact ⟨m.2, rfl, ms, rfl, h⟩

theorem toSafe_ok {n : JsNumber} (h : ∃ i, assertCanonicalNumber n = .ok i) :
    assertCanonicalNumber n = .ok (toSafe n) := by
  obtain ⟨i, hi⟩ := h
  rw [toSafe, hi]

/-- An accepted value is normalized. -/
theorem normalize_accepted {v : Json JsNumber JsString} (h : Accepted v) :
    normalize v = .ok (v.rebuild toSafe id arrange) := by
  induction v with
  | null | bool | str => rfl
  | num n =>
    rw [normalize, toSafe_ok h]
    rfl
  | arr xs ih =>
    rw [Accepted, every_arr] at h
    have hxs : normalizeElements xs = .ok (xs.map (rebuild toSafe id arrange)) := by
      rw [normalizeElements_ok, List.forall₂_map_right_iff, List.forall₂_same]
      exact fun x hx => ih x hx (h x hx)
    rw [normalize, hxs, rebuild_arr]
    rfl
  | obj ms ih =>
    rw [Accepted, every_obj] at h
    have hms : sortKeys (normalizeMembers ms) =
        (sortKeys (ms.map fun m => (m.1, m.2.rebuild toSafe id arrange))).map fun m => (m.1, .ok m.2) := by
      rw [← keywise_sortKeys, List.map_map, normalizeMembers_eq]
      refine congrArg sortKeys (List.map_congr_left fun m hm => ?_)
      rw [ih m hm (h.2 m hm).2]
      rfl
    rw [normalize, assignNormalized_ok.2 ⟨_, hms, rfl⟩, rebuild_obj]
    rfl

theorem accepted_of_normalize {v : Json JsNumber JsString} {w : Json SafeInteger JsString}
    (h : normalize v = .ok w) : Accepted v := by
  induction v generalizing w with
  | null | bool | str => trivial
  | num n =>
    simp only [normalize, bind_eq_ok] at h
    obtain ⟨i, hi, -⟩ := h
    exact ⟨i, hi⟩
  | arr xs ih =>
    simp only [normalize, bind_eq_ok, normalizeElements_ok] at h
    obtain ⟨ys, hys, -⟩ := h
    rw [Accepted, every_arr]
    intro x hx
    obtain ⟨i, hi, rfl⟩ := List.getElem_of_mem hx
    have hlen := hys.length_eq
    exact ih _ hx (hys.get hi (hlen ▸ hi))
  | obj ms ih =>
    simp only [normalize, bind_eq_ok, assignNormalized_ok, normalizeMembers_eq] at h
    obtain ⟨o, ⟨ms', hms', -⟩, -⟩ := h
    rw [Accepted, every_obj]
    refine ⟨trivial, fun m hm => ⟨trivial, ?_⟩⟩
    have hmem : (m.1, normalize m.2) ∈ sortKeys (ms.map fun m => (m.1, normalize m.2)) :=
      (sortKeys_perm _).mem_iff.2 (List.mem_map_of_mem (f := fun m => (m.1, normalize m.2)) hm)
    rw [hms'] at hmem
    obtain ⟨m', -, heq⟩ := List.mem_map.1 hmem
    exact ih m hm (Prod.mk.inj heq).2.symm

/-- **What `normalize` returns.** -/
theorem normalize_ok {v : Json JsNumber JsString} {w : Json SafeInteger JsString} :
    normalize v = .ok w ↔ Accepted v ∧ v.rebuild toSafe id arrange = w := by
  constructor
  · intro h
    have ha := accepted_of_normalize h
    exact ⟨ha, Except.ok.inj ((normalize_accepted ha).symm.trans h)⟩
  · rintro ⟨ha, rfl⟩
    exact normalize_accepted ha

theorem canonicalize_ok {v : Json JsNumber JsString} {s : JsString} :
    canonicalize v = .ok s ↔ Accepted v ∧ stringify (v.rebuild toSafe id arrange) = s := by
  simp only [canonicalize, bind_eq_ok, normalize_ok, pure_eq_ok]
  constructor
  · rintro ⟨w, ⟨ha, rfl⟩, rfl⟩
    exact ⟨ha, rfl⟩
  · rintro ⟨ha, rfl⟩
    exact ⟨_, ⟨ha, rfl⟩, rfl⟩

end CasperProof.Commitment
