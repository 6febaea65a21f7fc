/-
  Plain JavaScript objects — their own properties, in the order in which they
  are enumerated.

  * `enumerate`: `OrdinaryOwnPropertyKeys`, array indices first and ascending,
    then the other keys in the order of creation.
  * `createObject`: definition of properties one by one, as `JSON.parse` does;
    `assignAll`: assignment to a fresh object, where `__proto__` is a setter
    and makes no property.
  * `jsonParse`: `JSON.parse`.  `jsonParse_stringify`: a value reads back with
    its objects created anew.
-/
import CasperProof.Lib.Js.Text
import CasperProof.Lib.Json.Sorted

namespace CasperProof.Js

open Json (keys Keywise)

variable {A B : Type}

/-! ## Enumeration -/

/-- The array index that a key denotes. -/
def arrayIndex (k : JsString) : Option ℕ :=
  if decimal (digitsValue k) = k ∧ digitsValue k < 2 ^ 32 - 1 then some (digitsValue k) else none

def isIndex (k : JsString) : Bool := (arrayIndex k).isSome

/-- Numeric order of array indices. -/
def IndexLe (a b : JsString × A) : Prop := digitsValue a.1 ≤ digitsValue b.1

instance : DecidableRel (IndexLe (A := A)) := fun a b =>
  inferInstanceAs (Decidable (digitsValue a.1 ≤ digitsValue b.1))
instance : Std.Total (IndexLe (A := A)) := ⟨fun a b => le_total (digitsValue a.1) (digitsValue b.1)⟩
instance : IsTrans (JsString × A) IndexLe := ⟨fun _ _ _ h h' => le_trans h h'⟩

/-- Properties given in the order of creation, as they are enumerated. -/
def enumerate (ms : List (JsString × A)) : List (JsString × A) :=
  (ms.filter fun m => isIndex m.1).insertionSort IndexLe ++ ms.filter fun m => !isIndex m.1

/-- An enumeration lists `a` before `b`. -/
def Precedes (a b : JsString) : Prop := isIndex b → isIndex a ∧ digitsValue a ≤ digitsValue b

theorem enumerate_perm (ms : List (JsString × A)) : (enumerate ms).Perm ms :=
  ((List.perm_insertionSort _ _).append_right _).trans (List.filter_append_perm _ _)

theorem keywise_enumerate : Keywise JsString fun _ => enumerate := by
  intro A B φ ms
  have hindex : (fun m : JsString × B => isIndex m.1) ∘ (fun m : JsString × A => (m.1, φ m.2)) =
      fun m => isIndex m.1 := rfl
  have hrest : (fun m : JsString × B => !isIndex m.1) ∘ (fun m : JsString × A => (m.1, φ m.2)) =
      fun m => !isIndex m.1 := rfl
  show enumerate (ms.map fun m => (m.1, φ m.2)) = (enumerate ms).map fun m => (m.1, φ m.2)
  unfold enumerate
  rw [List.map_append, List.filter_map, List.filter_map, hindex, hrest]
  congr 1
  exact (List.map_insertionSort IndexLe IndexLe (fun m : JsString × A => (m.1, φ m.2)) _
    fun _ _ _ _ => Iff.rfl).symm

/-- An enumeration is in order. -/
theorem enumerate_pairwise (ms : List (JsString × A)) :
    (enumerate ms).Pairwise fun a b => Precedes a.1 b.1 := by
  have hindex : ∀ a ∈ (ms.filter fun m => isIndex m.1).insertionSort IndexLe, isIndex a.1 := fun a ha =>
    (List.mem_filter.1 ((List.perm_insertionSort _ _).mem_iff.1 ha)).2
  have hother : ∀ b ∈ ms.filter fun m => !isIndex m.1, ¬ isIndex b.1 := fun b hb => by
    simpa using (List.mem_filter.1 hb).2
  rw [enumerate, List.pairwise_append]
  refine ⟨?_, ?_, fun a _ b hb h => absurd h (hother b hb)⟩
  · refine (List.pairwise_insertionSort IndexLe _).imp_of_mem ?_
    intro a b ha _ hab _
    exact ⟨hindex a ha, hab⟩
  · exact List.Pairwise.imp_of_mem (fun _ hb _ h => absurd h (hother _ hb)) (List.pairwise_of_forall fun _ _ => trivial)

/-- **What is in order is enumerated as it is.** -/
theorem enumerate_eq_self {ms : List (JsString × A)} (h : ms.Pairwise fun a b => Precedes a.1 b.1) :
    enumerate ms = ms := by
  induction ms with
  | nil => rfl
  | cons m ms ih =>
    obtain ⟨hm, hms⟩ := List.pairwise_cons.1 h
    have ih' := ih hms
    cases hi : isIndex m.1 with
    | true =>
      have hindex : (m :: ms).filter (fun m => isIndex m.1) = m :: ms.filter fun m => isIndex m.1 :=
        List.filter_cons_of_pos hi
      have hrest : (m :: ms).filter (fun m => !isIndex m.1) = ms.filter fun m => !isIndex m.1 :=
        List.filter_cons_of_neg (by simp [hi])
      rw [enumerate, hindex, hrest, List.insertionSort_cons_of_forall_rel, List.cons_append, ← enumerate, ih']
      intro b hb
      obtain ⟨hb, hbi⟩ := List.mem_filter.1 hb
      exact (hm b hb hbi).2
    | false =>
      have hnone : ms.filter (fun m => isIndex m.1) = [] := by
        rw [List.filter_eq_nil_iff]
        intro b hb hbi
        have := (hm b hb hbi).1
        rw [hi] at this
        cases this
      have hall : ms.filter (fun m => !isIndex m.1) = ms := by
        rw [List.filter_eq_self]
        intro b hb
        rw [List.filter_eq_nil_iff] at hnone
        simpa using hnone b hb
      have hindex : (m :: ms).filter (fun m => isIndex m.1) = [] := by
        rw [← hnone]
        exact List.filter_cons_of_neg (by simp [hi])
      have hrest : (m :: ms).filter (fun m => !isIndex m.1) = m :: ms := by
        conv_rhs => rw [← hall]
        exact List.filter_cons_of_pos (by simp [hi])
      rw [enumerate, hindex, hrest]
      rfl

/-! ## Creating properties -/

/-- `CreateDataProperty`: a new property, or a new value for an old one. -/
def defineOwn (o : List (JsString × A)) (k : JsString) (v : A) : List (JsString × A) :=
  if k ∈ keys o then o.map fun m => if m.1 = k then (k, v) else m else o ++ [(k, v)]

/-- The object with the given properties defined one after the other. -/
def createObject (ms : List (JsString × A)) : List (JsString × A) :=
  enumerate (ms.foldl (fun o m => defineOwn o m.1 m.2) [])

def protoKey : JsString := lit "__proto__"

/-- `o[k] = v` on a plain object.  For `__proto__` this calls the setter that
    every plain object inherits, which changes the prototype or does nothing. -/
def assign (o : List (JsString × A)) (k : JsString) (v : A) : List (JsString × A) :=
  if k = protoKey then o else defineOwn o k v

/-- A fresh object after the given assignments. -/
def assignAll (ms : List (JsString × A)) : List (JsString × A) :=
  enumerate (ms.foldl (fun o m => assign o m.1 m.2) [])

theorem foldl_defineOwn {ms o : List (JsString × A)} (h : (keys (o ++ ms)).Nodup) :
    ms.foldl (fun o m => defineOwn o m.1 m.2) o = o ++ ms := by
  induction ms generalizing o with
  | nil => simp
  | cons m ms ih =>
    have hnot : m.1 ∉ keys o := by
      rw [keys, List.map_append, List.nodup_append] at h
      exact fun hm => h.2.2 _ hm _ (by simp) rfl
    rw [List.foldl_cons, defineOwn, if_neg hnot, ih (by simpa using h)]
    simp

theorem createObject_eq {ms : List (JsString × A)} (h : (keys ms).Nodup) : createObject ms = enumerate ms := by
  rw [createObject, foldl_defineOwn (by simpa using h), List.nil_append]

/-- **Assignment drops `__proto__`** and nothing else. -/
theorem assignAll_eq (ms : List (JsString × A)) :
    assignAll ms = createObject (ms.filter fun m => m.1 ≠ protoKey) := by
  have hfold : ∀ (ms o : List (JsString × A)), ms.foldl (fun o m => assign o m.1 m.2) o =
      (ms.filter fun m => m.1 ≠ protoKey).foldl (fun o m => defineOwn o m.1 m.2) o := by
    intro ms
    induction ms with
    | nil => intro o; rfl
    | cons m ms ih =>
      intro o
      by_cases hm : m.1 = protoKey
      · rw [List.foldl_cons, assign, if_pos hm, ih, List.filter_cons_of_neg (by simp [hm])]
      · rw [List.foldl_cons, assign, if_neg hm, ih, List.filter_cons_of_pos (by simp [hm]), List.foldl_cons]
  rw [assignAll, hfold]
  rfl

/-- Assigning distinct properties, none of them `__proto__`. -/
theorem assignAll_perm {ms : List (JsString × A)} (h : (keys ms).Nodup) (hproto : protoKey ∉ keys ms) :
    (assignAll ms).Perm ms := by
  have hfilter : (ms.filter fun m => m.1 ≠ protoKey) = ms := by
    rw [List.filter_eq_self]
    intro m hm
    exact decide_eq_true fun heq => hproto (List.mem_map.2 ⟨m, hm, heq⟩)
  rw [assignAll_eq, hfilter, createObject_eq h]
  exact enumerate_perm ms

theorem keys_map (φ : A → B) (ms : List (JsString × A)) : keys (ms.map fun m => (m.1, φ m.2)) = keys ms := by
  simp [keys]

theorem defineOwn_map (φ : A → B) (o : List (JsString × A)) (k : JsString) (v : A) :
    defineOwn (o.map fun m => (m.1, φ m.2)) k (φ v) = (defineOwn o k v).map fun m => (m.1, φ m.2) := by
  unfold defineOwn
  rw [keys_map]
  split
  · rw [List.map_map, List.map_map]
    refine List.map_congr_left fun m _ => ?_
    by_cases hk : m.1 = k <;> simp [hk]
  · simp

theorem keywise_createObject : Keywise JsString fun _ => createObject := by
  intro A B φ ms
  have hfold : ∀ (ms o : List (JsString × A)), (ms.map fun m => (m.1, φ m.2)).foldl (fun o m => defineOwn o m.1 m.2)
      (o.map fun m => (m.1, φ m.2)) =
        (ms.foldl (fun o m => defineOwn o m.1 m.2) o).map fun m => (m.1, φ m.2) := by
    intro ms
    induction ms with
    | nil => intro o; rfl
    | cons m ms ih =>
      intro o
      rw [List.map_cons, List.foldl_cons, List.foldl_cons, defineOwn_map, ih]
  have h := hfold ms []
  simp only [List.map_nil] at h
  simp only [createObject, h]
  exact keywise_enumerate A B φ _

theorem keywise_assignAll : Keywise JsString fun _ => assignAll := by
  intro A B φ ms
  have hfold : ∀ (ms o : List (JsString × A)), (ms.map fun m => (m.1, φ m.2)).foldl (fun o m => assign o m.1 m.2)
      (o.map fun m => (m.1, φ m.2)) =
        (ms.foldl (fun o m => assign o m.1 m.2) o).map fun m => (m.1, φ m.2) := by
    intro ms
    induction ms with
    | nil => intro o; rfl
    | cons m ms ih =>
      intro o
      have hassign : assign (o.map fun m => (m.1, φ m.2)) m.1 (φ m.2) =
          (assign o m.1 m.2).map fun m => (m.1, φ m.2) := by
        unfold assign
        split
        · rfl
        · exact defineOwn_map φ o m.1 m.2
      rw [List.map_cons, List.foldl_cons, List.foldl_cons, hassign, ih]
  have h := hfold ms []
  simp only [List.map_nil] at h
  simp only [assignAll, h]
  exact keywise_enumerate A B φ _

/-- Defined properties have distinct keys. -/
theorem nodup_defineOwn {o : List (JsString × A)} (h : (keys o).Nodup) (k : JsString) (v : A) :
    (keys (defineOwn o k v)).Nodup := by
  unfold defineOwn
  split
  · have hkeys : keys (o.map fun m => if m.1 = k then (k, v) else m) = keys o := by
      rw [keys, List.map_map]
      refine List.map_congr_left fun m _ => ?_
      by_cases hk : m.1 = k <;> simp [hk]
    rwa [hkeys]
  · rename_i hk
    rw [keys, List.map_append, List.nodup_append]
    refine ⟨h, by simp, fun a ha b hb => ?_⟩
    rw [List.map_singleton, List.mem_singleton] at hb
    subst hb
    rintro rfl
    exact hk ha

theorem nodup_createObject (ms : List (JsString × A)) : (keys (createObject ms)).Nodup := by
  have hfold : ∀ (ms o : List (JsString × A)), (keys o).Nodup →
      (keys (ms.foldl (fun o m => defineOwn o m.1 m.2) o)).Nodup := by
    intro ms
    induction ms with
    | nil => intro o h; exact h
    | cons m ms ih => intro o h; exact ih _ (nodup_defineOwn h m.1 m.2)
  exact ((enumerate_perm _).map Prod.fst).nodup_iff.2 (hfold ms [] (by simp))

theorem mem_defineOwn {o : List (JsString × A)} {k : JsString} {v : A} {m : JsString × A}
    (h : m ∈ defineOwn o k v) : m ∈ o ∨ m = (k, v) := by
  unfold defineOwn at h
  split at h
  · obtain ⟨a, ha, rfl⟩ := List.mem_map.1 h
    split
    · exact .inr rfl
    · exact .inl ha
  · simpa using h

/-- The properties of an object are among those that were defined. -/
theorem mem_createObject {ms : List (JsString × A)} {m : JsString × A} (h : m ∈ createObject ms) : m ∈ ms := by
  have hfold : ∀ (ms o : List (JsString × A)), m ∈ ms.foldl (fun o m => defineOwn o m.1 m.2) o →
      m ∈ o ∨ m ∈ ms := by
    intro ms
    induction ms with
    | nil => intro o h; exact .inl h
    | cons m' ms ih =>
      intro o h
      rcases ih _ h with h | h
      · rcases mem_defineOwn h with h | rfl
        · exact .inl h
        · exact .inr (List.mem_cons_self ..)
      · exact .inr (List.mem_cons_of_mem _ h)
  rcases hfold ms [] ((enumerate_perm _).mem_iff.1 h) with h | h
  · cases h
  · exact h

/-- Properties with distinct names are all found. -/
theorem lookup_createObject {ms : List (JsString × A)} (h : (keys ms).Nodup) (k : JsString) :
    Json.lookup k (createObject ms) = Json.lookup k ms := by
  refine Option.ext fun v => ?_
  rw [Json.lookup_eq_some (nodup_createObject ms), Json.lookup_eq_some h, createObject_eq h,
    (enumerate_perm ms).mem_iff]

/-! ## Values -/

/-- A JavaScript value that is JSON data; members are listed as they are
    enumerated. -/
abbrev Value := Json JsNumber JsString

/-- `-0` as `0`. -/
def JsNumber.unsigned : JsNumber → JsNumber
  | .negZero => .real 0
  | n => n

/-- Equality as JSON data: up to the order of keys, with `-0` as `0`. -/
def Same (v w : Value) : Prop := v.normalForm JsNumber.unsigned = w.normalForm JsNumber.unsigned

theorem Same.refl (v : Value) : Same v v := rfl
theorem Same.symm {v w : Value} (h : Same v w) : Same w v := Eq.symm h
theorem Same.trans {u v w : Value} (h : Same u v) (h' : Same v w) : Same u w := Eq.trans h h'

/-- `JSON.parse`. -/
def jsonParse (s : JsString) : Option Value := (parseText s).map (Json.rebuild id id createObject)

/-- The keys that `JSON.parse` makes are distinct. -/
theorem distinct_rebuild_createObject (v : Json JsNumber JsString) :
    (v.rebuild id id createObject).Distinct := by
  induction v with
  | null | bool | num | str => trivial
  | arr xs ih =>
    rw [Json.rebuild_arr, Json.Distinct, Json.every_arr]
    intro x hx
    obtain ⟨y, hy, rfl⟩ := List.mem_map.1 hx
    exact ih y hy
  | obj ms ih =>
    rw [Json.rebuild_obj, Json.Distinct, Json.every_obj]
    refine ⟨nodup_createObject _, fun m hm => ⟨trivial, ?_⟩⟩
    obtain ⟨m', hm', rfl⟩ := List.mem_map.1 (mem_createObject hm)
    exact ih m' hm'

theorem jsonParse_distinct {s : JsString} {v : Value} (h : jsonParse s = some v) : v.Distinct := by
  obtain ⟨t, -, rfl⟩ := Option.map_eq_some_iff.1 h
  exact distinct_rebuild_createObject t

/-- **A value reads back** with its objects created anew. -/
theorem jsonParse_stringify (v : Json SafeInteger JsString) :
    jsonParse (stringify v) = some (v.rebuild .ofSafe id createObject) := by
  rw [jsonParse, parseText_stringify, Option.map_some, Json.map,
    Json.rebuild_rebuild (h := fun _ => id) (fun _ _ _ _ => rfl)]
  rfl

end CasperProof.Js
