/-
  Members sorted by key, and equality up to the order of members.

  `Json.normalForm f` sorts the members of every object and applies `f` to the
  numbers; two values with distinct keys are the same data if their normal
  forms agree.
-/
import CasperProof.Lib.Json.Tree
import Mathlib.Data.List.Lex

namespace CasperProof.Json

variable {N N' S S' A B : Type}

/-- The keys of an object. -/
abbrev keys (ms : List (S × A)) : List S := ms.map Prod.fst

/-- Members with distinct keys are determined by their keys. -/
theorem eq_of_key_eq {ms : List (S × A)} (h : (keys ms).Nodup) {a b : S × A} (ha : a ∈ ms) (hb : b ∈ ms)
    (hab : a.1 = b.1) : a = b := List.inj_on_of_nodup_map h ha hb hab

section
variable [LinearOrder S] [LinearOrder S']

def KeyLe (a b : S × A) : Prop := a.1 ≤ b.1

instance : DecidableRel (KeyLe (S := S) (A := A)) := fun a b => inferInstanceAs (Decidable (a.1 ≤ b.1))
instance : Std.Total (KeyLe (S := S) (A := A)) := ⟨fun a b => le_total a.1 b.1⟩
instance : IsTrans (S × A) KeyLe := ⟨fun _ _ _ h h' => le_trans h h'⟩

/-- The members in ascending order of their keys. -/
def sortKeys (ms : List (S × A)) : List (S × A) := ms.insertionSort KeyLe

theorem sortKeys_perm (ms : List (S × A)) : (sortKeys ms).Perm ms := List.perm_insertionSort _ ms

theorem sortKeys_pairwise (ms : List (S × A)) : (sortKeys ms).Pairwise KeyLe :=
  List.pairwise_insertionSort _ ms

theorem keywise_sortKeys : Keywise S fun _ => sortKeys := by
  intro A B φ ms
  exact (List.map_insertionSort KeyLe KeyLe (fun m : S × A => (m.1, φ m.2)) ms fun _ _ _ _ => Iff.rfl).symm

/-- **Sorting forgets the order of members.** -/
theorem sortKeys_eq_of_perm {ms ms' : List (S × A)} (hp : ms.Perm ms') (h : (keys ms').Nodup) :
    sortKeys ms = sortKeys ms' := by
  refine List.Perm.eq_of_pairwise (fun a b ha hb hab hba => ?_) (sortKeys_pairwise ms) (sortKeys_pairwise ms')
    ((sortKeys_perm ms).trans (hp.trans (sortKeys_perm ms').symm))
  have ha' := hp.mem_iff.1 ((sortKeys_perm ms).mem_iff.1 ha)
  have hb' := (sortKeys_perm ms').mem_iff.1 hb
  exact eq_of_key_eq h ha' hb' (le_antisymm hab hba)

/-- Sorting after a monotone change of keys. -/
theorem sortKeys_map {g : S → S'} (φ : A → B) (ms : List (S × A))
    (hg : ∀ a ∈ keys ms, ∀ b ∈ keys ms, a ≤ b ↔ g a ≤ g b) :
    sortKeys (ms.map fun m => (g m.1, φ m.2)) = (sortKeys ms).map fun m => (g m.1, φ m.2) := by
  refine (List.map_insertionSort KeyLe KeyLe _ ms fun a ha b hb => ?_).symm
  exact hg a.1 (List.mem_map_of_mem ha) b.1 (List.mem_map_of_mem hb)

/-- Distinct keys, sorted, are strictly ascending. -/
theorem sortKeys_strict {ms : List (S × A)} (h : (keys ms).Nodup) :
    (sortKeys ms).Pairwise fun a b => a.1 < b.1 := by
  have hnodup : (keys (sortKeys ms)).Nodup := ((sortKeys_perm ms).map Prod.fst).nodup_iff.2 h
  rw [keys, List.Nodup, List.pairwise_map] at hnodup
  exact ((sortKeys_pairwise ms).and hnodup).imp fun hab => lt_of_le_of_ne hab.1 hab.2

theorem sortKeys_filter (p : S × A → Bool) {ms : List (S × A)} (h : (keys ms).Nodup) :
    (sortKeys ms).filter p = sortKeys (ms.filter p) := by
  have hnodup : (keys (ms.filter p)).Nodup := (List.filter_sublist.map _).nodup h
  have hsorted : ((sortKeys ms).filter p).Pairwise KeyLe := (sortKeys_pairwise ms).filter p
  rw [← sortKeys_eq_of_perm ((sortKeys_perm ms).filter p) hnodup]
  exact hsorted.insertionSort_eq.symm

end

/-! ## Normal forms -/

/-- The value with its members sorted and its numbers changed by `f`. -/
def normalForm [LinearOrder S] (f : N → N') : Json N S → Json N' S := rebuild f id sortKeys

/-- The keys of every object are distinct. -/
def Distinct (v : Json N S) : Prop := v.Every (fun _ => True) (fun _ => True) List.Nodup

/-- The value stored under a key. -/
def lookup [DecidableEq S] (k : S) (ms : List (S × A)) : Option A :=
  (ms.find? fun m => m.1 = k).map Prod.snd

theorem lookup_eq_some [DecidableEq S] {ms : List (S × A)} (h : (keys ms).Nodup) {k : S} {v : A} :
    lookup k ms = some v ↔ (k, v) ∈ ms := by
  induction ms with
  | nil => simp [lookup]
  | cons m ms ih =>
    obtain ⟨k', v'⟩ := m
    rw [keys, List.map_cons, List.nodup_cons] at h
    by_cases hk : k' = k
    · subst hk
      have hnot : (k', v) ∉ ms := fun hm => h.1 (List.mem_map.2 ⟨_, hm, rfl⟩)
      simp [lookup, hnot, eq_comm]
    · have := ih h.2
      simpa [lookup, hk, Ne.symm hk, List.find?_cons] using this

theorem mem_of_lookup [DecidableEq S] {ms : List (S × A)} {k : S} {v : A} (h : lookup k ms = some v) :
    (k, v) ∈ ms := by
  obtain ⟨m, hm, rfl⟩ := Option.map_eq_some_iff.1 h
  have hkey : m.1 = k := by simpa using List.find?_some hm
  exact hkey ▸ List.mem_of_find?_eq_some hm

/-- A member of a value whose objects have distinct members. -/
theorem Distinct.lookup [DecidableEq S] {ms : Members N S} (h : (obj ms : Json N S).Distinct) {k : S} {v : Json N S}
    (hv : Json.lookup k ms = some v) : v.Distinct :=
  (((every_obj _).1 h).2 _ (mem_of_lookup hv)).2

/-- The order of members does not matter for what is found under a key. -/
theorem lookup_perm [DecidableEq S] {ms ns : List (S × A)} (hperm : ms.Perm ns) (h : (keys ns).Nodup) (k : S) :
    lookup k ms = lookup k ns := by
  have h' : (keys ms).Nodup := (hperm.map Prod.fst).nodup_iff.2 h
  refine Option.ext fun v => ?_
  rw [lookup_eq_some h', lookup_eq_some h, hperm.mem_iff]

theorem lookup_map [DecidableEq S] (φ : A → B) (k : S) (ms : List (S × A)) :
    lookup k (ms.map fun m => (m.1, φ m.2)) = (lookup k ms).map φ := by
  rw [lookup, lookup, List.find?_map, Option.map_map, Option.map_map]
  rfl

end CasperProof.Json
