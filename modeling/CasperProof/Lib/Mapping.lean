/-
  Storage mappings — unbounded tables of optional values, and sums over them.

  `Mapping.sum m f` adds up `f` over all stored values.  Accounting invariants
  are sums of this kind; `sum_set` says how one write changes them.
  `Mapping.count m p` is the number of stored values with `p`.
-/
import Mathlib.Algebra.BigOperators.Group.Finset.Basic
import Mathlib.Algebra.Order.BigOperators.Group.Finset
import Mathlib.Data.Fintype.BigOperators
import Mathlib.Data.Fintype.Fin
import Mathlib.Tactic.Common

namespace CasperProof

/-- A table from keys to stored values. -/
def Mapping (K V : Type) : Type := K → Option V

namespace Mapping
variable {K V : Type}

/-- The empty table. -/
def empty : Mapping K V := fun _ => none

/-- The value stored at `k`. -/
def get (m : Mapping K V) (k : K) : Option V := m k

/-- The value stored at `k`, or a default. -/
def getD (m : Mapping K V) (k : K) (d : V) : V := (m.get k).getD d

/-- Store `v` at `k`. -/
def set [DecidableEq K] (m : Mapping K V) (k : K) (v : V) : Mapping K V :=
  fun k' => if k' = k then some v else m k'

@[simp] theorem get_empty (k : K) : (empty : Mapping K V).get k = none := rfl

@[simp] theorem get_set_self [DecidableEq K] (m : Mapping K V) (k : K) (v : V) :
    (m.set k v).get k = some v := by simp [get, set]

theorem get_set_ne [DecidableEq K] (m : Mapping K V) {k k' : K} (v : V) (h : k' ≠ k) :
    (m.set k v).get k' = m.get k' := by simp [get, set, h]

theorem get_set [DecidableEq K] (m : Mapping K V) (k k' : K) (v : V) :
    (m.set k v).get k' = if k' = k then some v else m.get k' := rfl

/-- What holds of every entry, and of the one that is written, holds after the write. -/
theorem forall_set [DecidableEq K] {m : Mapping K V} {P : K → V → Prop} {k : K} {v : V}
    (h : ∀ k v, m.get k = some v → P k v) (hv : P k v) : ∀ k' v', (m.set k v).get k' = some v' → P k' v' := by
  intro k' v' hget
  rw [get_set] at hget
  by_cases hk : k' = k
  · rw [if_pos hk] at hget
    obtain rfl := Option.some.inj hget
    exact hk ▸ hv
  · rw [if_neg hk] at hget
    exact h k' v' hget

theorem getD_set [DecidableEq K] (m : Mapping K V) (k k' : K) (v d : V) :
    (m.set k v).getD k' d = if k' = k then v else m.getD k' d := by
  rw [getD, getD, get_set]
  split <;> rfl

theorem set_set [DecidableEq K] (m : Mapping K V) (k : K) (v v' : V) : (m.set k v).set k v' = m.set k v' := by
  funext k'
  unfold set
  split <;> rfl

/-- The table of the values `f v`. -/
def map {W : Type} (f : V → W) (m : Mapping K V) : Mapping K W := fun k => (m.get k).map f

@[simp] theorem get_map {W : Type} (f : V → W) (m : Mapping K V) (k : K) : (m.map f).get k = (m.get k).map f := rfl

@[simp] theorem map_empty {W : Type} (f : V → W) : (empty : Mapping K V).map f = empty := rfl

theorem map_set {W : Type} [DecidableEq K] (f : V → W) (m : Mapping K V) (k : K) (v : V) :
    (m.set k v).map f = (m.map f).set k (f v) := by
  funext k'
  show (if k' = k then some v else m k').map f = if k' = k then some (f v) else (m k').map f
  split <;> rfl

@[ext] theorem ext {m m' : Mapping K V} (h : ∀ k, m.get k = m'.get k) : m = m' := funext h

section Sum
variable [Fintype K]

/-- The sum of `f` over the stored values. -/
def sum (m : Mapping K V) (f : V → ℕ) : ℕ := ∑ k, (m.get k).elim 0 f

@[simp] theorem sum_empty (f : V → ℕ) : (empty : Mapping K V).sum f = 0 := by
  simp [sum]

theorem sum_map {W : Type} (g : V → W) (m : Mapping K V) (f : W → ℕ) : (m.map g).sum f = m.sum fun v => f (g v) := by
  refine Finset.sum_congr rfl fun k _ => ?_
  rw [get_map]
  cases m.get k <;> rfl

/-- A write replaces the contribution of the old value by that of the new one. -/
theorem sum_set [DecidableEq K] (m : Mapping K V) (k : K) (v : V) (f : V → ℕ) :
    (m.set k v).sum f + (m.get k).elim 0 f = m.sum f + f v := by
  have hrest : ∑ x ∈ Finset.univ.erase k, ((m.set k v).get x).elim 0 f =
      ∑ x ∈ Finset.univ.erase k, (m.get x).elim 0 f :=
    Finset.sum_congr rfl fun x hx => by rw [get_set_ne m v (Finset.ne_of_mem_erase hx)]
  rw [sum, sum, ← Finset.add_sum_erase _ _ (Finset.mem_univ k), hrest,
    ← Finset.add_sum_erase _ (fun x => (m.get x).elim 0 f) (Finset.mem_univ k), get_set_self]
  simp only [Option.elim_some]; omega

/-- Writing a fresh key adds the contribution of the new value. -/
theorem sum_set_none [DecidableEq K] {m : Mapping K V} {k : K} (h : m.get k = none) (v : V)
    (f : V → ℕ) : (m.set k v).sum f = m.sum f + f v := by
  have := sum_set m k v f
  rw [h] at this; simpa using this

/-- The sum over one stored value. -/
theorem sum_set_empty [DecidableEq K] (k : K) (v : V) (f : V → ℕ) : ((empty : Mapping K V).set k v).sum f = f v := by
  rw [sum_set_none (get_empty k), sum_empty, Nat.zero_add]

/-- Every stored value contributes. -/
theorem le_sum [DecidableEq K] {m : Mapping K V} {k : K} {v : V} (h : m.get k = some v) (f : V → ℕ) :
    f v ≤ m.sum f := by
  have hk := Finset.add_sum_erase Finset.univ (fun x => (m.get x).elim 0 f) (Finset.mem_univ k)
  simp only [h, Option.elim_some] at hk
  exact (Nat.le_add_right _ _).trans hk.le

/-- A sum of contributions that are all zero is zero. -/
theorem sum_eq_zero {m : Mapping K V} {f : V → ℕ} (h : ∀ k v, m.get k = some v → f v = 0) :
    m.sum f = 0 :=
  Finset.sum_eq_zero fun k _ => by
    cases hk : m.get k with
    | none => rfl
    | some v => exact h k v hk

/-- The sum over a table that is empty from `k` on. -/
theorem sum_le_mul {n : ℕ} {m : Mapping (Fin n) V} {f : V → ℕ} {c k : ℕ} (hf : ∀ v, f v ≤ c)
    (hm : ∀ i : Fin n, k ≤ i.val → m.get i = none) : m.sum f ≤ c * k := by
  have hpart : ∀ i : Fin n, (m.get i).elim 0 f ≤ if i.val < k then c else 0 := by
    intro i
    split
    · cases m.get i with
      | none => exact Nat.zero_le _
      | some v => exact hf v
    · rename_i hlt
      rw [hm i (not_lt.1 hlt)]
      exact le_rfl
  have hcard : (Finset.univ.filter fun i : Fin n => i.val < k).card ≤ k := by
    rw [Fin.card_filter_val_lt]
    exact min_le_right n k
  calc m.sum f ≤ ∑ i : Fin n, if i.val < k then c else 0 := Finset.sum_le_sum fun i _ => hpart i
    _ = (Finset.univ.filter fun i : Fin n => i.val < k).card * c := by
      rw [← Finset.sum_filter]
      exact Finset.sum_const_nat fun _ _ => rfl
    _ ≤ k * c := Nat.mul_le_mul_right c hcard
    _ = c * k := Nat.mul_comm k c

theorem sum_add (m : Mapping K V) (f g : V → ℕ) : m.sum (fun v => f v + g v) = m.sum f + m.sum g := by
  rw [sum, sum, sum, ← Finset.sum_add_distrib]
  exact Finset.sum_congr rfl fun k _ => by cases m.get k <;> rfl

/-- The number of stored values with `p`. -/
def count (m : Mapping K V) (p : V → Bool) : ℕ := (Finset.univ.filter fun k => (m.get k).any p).card

theorem count_eq_sum (m : Mapping K V) (p : V → Bool) : m.count p = m.sum fun v => if p v then 1 else 0 := by
  rw [count, sum, Finset.card_filter]
  refine Finset.sum_congr rfl fun k _ => ?_
  cases m.get k <;> rfl

@[simp] theorem count_empty (p : V → Bool) : (empty : Mapping K V).count p = 0 := by
  rw [count_eq_sum, sum_empty]

/-- A write replaces the old value in the count. -/
theorem count_set [DecidableEq K] (m : Mapping K V) (k : K) (v : V) (p : V → Bool) :
    (m.set k v).count p + (if (m.get k).any p then 1 else 0) = m.count p + if p v then 1 else 0 := by
  have h := sum_set m k v fun v => if p v then 1 else 0
  rw [count_eq_sum, count_eq_sum, ← h]
  cases m.get k <;> rfl

/-- Two predicates that split a third one split its count. -/
theorem count_add (m : Mapping K V) {p q r : V → Bool} (hr : ∀ v, r v = (p v || q v))
    (hdisj : ∀ v, p v → q v = false) : m.count r = m.count p + m.count q := by
  rw [count_eq_sum, count_eq_sum, count_eq_sum, ← sum_add]
  congr 1
  funext v
  rw [hr]
  cases hp : p v
  · simp
  · simp [hdisj v hp]

theorem count_congr (m : Mapping K V) {p q : V → Bool} (h : ∀ v, p v = q v) : m.count p = m.count q := by
  rw [funext h]

theorem count_pos [DecidableEq K] {m : Mapping K V} {k : K} {v : V} (h : m.get k = some v) {p : V → Bool}
    (hp : p v) : 0 < m.count p := by
  have hle := le_sum h fun v => if p v then 1 else 0
  rw [if_pos hp, ← count_eq_sum] at hle
  exact hle

theorem count_le (m : Mapping K V) {p q : V → Bool} (h : ∀ v, p v → q v) : m.count p ≤ m.count q := by
  refine Finset.card_le_card fun k hk => ?_
  rw [Finset.mem_filter] at hk ⊢
  refine ⟨hk.1, ?_⟩
  cases hget : m.get k with
  | none => simp [hget] at hk
  | some v =>
    rw [hget] at hk
    exact h v hk.2

end Sum

end Mapping

end CasperProof
