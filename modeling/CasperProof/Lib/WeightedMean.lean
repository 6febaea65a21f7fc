/-
  Weighted means of finite families.

  * `weightedSum l w x`: the sum of `x i * w i` over the indices in `l`;
    `foldl_weightedSum` is the loop that adds it up.
  * `Weights l w`: the weights are not negative and sum to one, so that the mean
    is monotone, keeps constants, and lies between bounds of the values.
-/
import Mathlib.Algebra.Order.BigOperators.Group.List
import Mathlib.Algebra.BigOperators.Ring.List
import Mathlib.Algebra.Order.Field.Basic
import Mathlib.Algebra.Order.AbsoluteValue.Basic
import Mathlib.Tactic.Linarith
import Mathlib.Tactic.Ring

namespace CasperProof

variable {ι K : Type} [Field K]

def weightedSum (l : List ι) (w x : ι → K) : K := (l.map fun i => x i * w i).sum

/-- Adding up in a loop. -/
theorem foldl_weightedSum (l : List ι) (w x : ι → K) :
    l.foldl (fun sum i => sum + x i * w i) 0 = weightedSum l w x := by
  rw [weightedSum, List.sum_eq_foldl, List.foldl_map]

section
variable {l : List ι} {w x y : ι → K}

theorem weightedSum_add : weightedSum l w (fun i => x i + y i) = weightedSum l w x + weightedSum l w y := by
  simp only [weightedSum, add_mul]
  exact List.sum_map_add

theorem weightedSum_mul (c : K) : weightedSum l w (fun i => x i * c) = weightedSum l w x * c := by
  have hterm : ∀ i, x i * c * w i = x i * w i * c := fun i => mul_right_comm _ _ _
  simp only [weightedSum, hterm]
  exact List.sum_map_mul_right ..

end

/-- Weights of a mean. -/
structure Weights [LinearOrder K] (l : List ι) (w : ι → K) : Prop where
  nonneg : ∀ i ∈ l, 0 ≤ w i
  total : (l.map w).sum = 1

namespace Weights
variable [LinearOrder K] {l : List ι} {w x y : ι → K} (hw : Weights l w)
include hw

theorem mean_const (c : K) : weightedSum l w (fun _ => c) = c := by
  rw [weightedSum, List.sum_map_mul_left, hw.total, mul_one]

theorem mean_sub_const (c : K) : weightedSum l w (fun i => x i - c) = weightedSum l w x - c := by
  simp only [sub_eq_add_neg]
  rw [weightedSum_add, hw.mean_const]

theorem const_sub_mean (c : K) : weightedSum l w (fun i => c - x i) = c - weightedSum l w x := by
  have hterm : ∀ i, c - x i = c + x i * -1 := fun i => by ring
  simp only [hterm]
  rw [weightedSum_add, hw.mean_const, weightedSum_mul]
  ring

variable [IsStrictOrderedRing K]

theorem mean_mono (h : ∀ i ∈ l, x i ≤ y i) : weightedSum l w x ≤ weightedSum l w y :=
  List.sum_le_sum fun i hi => mul_le_mul_of_nonneg_right (h i hi) (hw.nonneg i hi)

/-- **A mean lies between** bounds of the values. -/
theorem le_mean {c : K} (h : ∀ i ∈ l, c ≤ x i) : c ≤ weightedSum l w x := by
  have hmono := hw.mean_mono h
  rwa [hw.mean_const] at hmono

theorem mean_le {c : K} (h : ∀ i ∈ l, x i ≤ c) : weightedSum l w x ≤ c := by
  have hmono := hw.mean_mono h
  rwa [hw.mean_const] at hmono

/-- Close values have close means. -/
theorem abs_mean_sub_le {c : K} (h : ∀ i ∈ l, |x i - y i| ≤ c) : |weightedSum l w x - weightedSum l w y| ≤ c := by
  have hupper : weightedSum l w x ≤ weightedSum l w (fun i => y i + c) := by
    refine hw.mean_mono fun i hi => ?_
    have := (abs_le.1 (h i hi)).2
    linarith
  have hlower : weightedSum l w y ≤ weightedSum l w (fun i => x i + c) := by
    refine hw.mean_mono fun i hi => ?_
    have := (abs_le.1 (h i hi)).1
    linarith
  rw [weightedSum_add, hw.mean_const] at hupper hlower
  rw [abs_le]
  constructor <;> linarith

end Weights

end CasperProof
