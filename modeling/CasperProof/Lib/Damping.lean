/-
  Repeated correction by a shift that is cut off at zero.

  The values `v i` are to get the mean `t`, but may not become negative: shifted
  down by `s` they are `lowered v s`, and their mean is still too high by
  `excess l w v t s`, which is the next correction.  `shift k` is the sum of the
  first `k` corrections.

  * `excess_chord`: the excess is convex in the shift, and it is not positive
    at a shift that takes every value down to `t`.
  * `residual_le`: what is taken off a quantity `d`, one `e k` after the other
    and in proportions `e k / d k` that do not grow, gets small:
    `e n * (n + 1) ^ (n + 1) ≤ d 0 * n ^ n`.
  * `excess_shift_le`: so do the corrections.
-/
import CasperProof.Lib.WeightedMean
import Mathlib.Algebra.Order.Ring.Pow
import Mathlib.Tactic.FieldSimp
import Mathlib.Tactic.Positivity

namespace CasperProof.Damping

variable {ι K : Type} [Field K] [LinearOrder K] [IsStrictOrderedRing K]

/-! ## Proportions that do not grow -/

/-- The mean of `n` times `x / n` and `y`, against their product. -/
theorem pow_mul_le (n : ℕ) {x y : K} (hx : 0 ≤ x) (hy : 0 ≤ y) :
    x ^ n * y * (n + 1) ^ (n + 1) ≤ n ^ n * (x + y) ^ (n + 1) := by
  cases n with
  | zero => simpa using hx
  | succ n =>
    rcases hx.eq_or_lt with rfl | hx
    · rw [zero_pow (Nat.succ_ne_zero n), zero_mul, zero_mul]
      positivity
    -- Bernoulli's inequality for the ratio of the mean and `x / (n + 1)`.
    have hn : (0 : K) < n + 1 := by positivity
    have hratio : 0 ≤ (n + 1) * (x + y) / ((n + 2) * x) := by positivity
    have hbernoulli := one_add_mul_sub_le_pow (n := n + 2)
      (show -1 ≤ (n + 1) * (x + y) / ((n + 2) * x) by linarith)
    have hleft : 1 + ((n + 2 : ℕ) : K) * ((n + 1) * (x + y) / ((n + 2) * x) - 1) = (n + 1) * y / x := by
      push_cast
      field_simp
      ring
    rw [hleft, div_pow, div_le_div_iff₀ hx (by positivity), mul_pow, mul_pow] at hbernoulli
    have hcast : ((n + 1 : ℕ) : K) + 1 = n + 2 := by push_cast; ring
    rw [hcast, Nat.cast_succ]
    refine le_of_mul_le_mul_right ?_ (mul_pos hn hx)
    calc x ^ (n + 1) * y * (n + 2) ^ (n + 2) * ((n + 1) * x)
        = (n + 1) * y * ((n + 2) ^ (n + 2) * x ^ (n + 2)) := by ring
      _ ≤ (n + 1) ^ (n + 2) * (x + y) ^ (n + 2) * x := hbernoulli
      _ = (n + 1) ^ (n + 1) * (x + y) ^ (n + 2) * ((n + 1) * x) := by ring

section
variable {d e : ℕ → K} {n : ℕ}

theorem pow_mul_le_start (hd : ∀ k < n, d (k + 1) = d k - e k) (hchord : ∀ k < n, e n * d k ≤ e k * d n)
    (hpos : 0 ≤ d n) (hle : e n ≤ d n) {k : ℕ} (hk : k ≤ n) : d k * d n ^ k ≤ d 0 * (d n - e n) ^ k := by
  induction k with
  | zero => simp
  | succ k ih =>
    have hstep : d (k + 1) * d n ≤ d k * (d n - e n) := by
      rw [hd k hk]
      have := hchord k hk
      linarith
    calc d (k + 1) * d n ^ (k + 1) = d (k + 1) * d n * d n ^ k := by ring
      _ ≤ d k * (d n - e n) * d n ^ k := mul_le_mul_of_nonneg_right hstep (pow_nonneg hpos k)
      _ = d k * d n ^ k * (d n - e n) := by ring
      _ ≤ d 0 * (d n - e n) ^ k * (d n - e n) :=
        mul_le_mul_of_nonneg_right (ih (Nat.le_of_lt hk)) (sub_nonneg.2 hle)
      _ = d 0 * (d n - e n) ^ (k + 1) := by ring

/-- **The last one taken off is small.** -/
theorem residual_le (hd : ∀ k < n, d (k + 1) = d k - e k) (hchord : ∀ k < n, e n * d k ≤ e k * d n)
    (hstart : 0 ≤ d 0) (he : 0 ≤ e n) (hle : e n ≤ d n) : e n * (n + 1) ^ (n + 1) ≤ d 0 * n ^ n := by
  rcases (he.trans hle).eq_or_lt with hzero | hpos
  · have hen : e n = 0 := le_antisymm (hzero ▸ hle) he
    rw [hen, zero_mul]
    positivity
  have hdamped := pow_mul_le_start hd hchord hpos.le hle le_rfl
  have hmean := pow_mul_le n (sub_nonneg.2 hle) he
  rw [sub_add_cancel] at hmean
  refine le_of_mul_le_mul_right ?_ (pow_pos hpos (n + 1))
  have hfactor : (0 : K) ≤ e n * (n + 1) ^ (n + 1) := by positivity
  calc e n * (n + 1) ^ (n + 1) * d n ^ (n + 1) = e n * (n + 1) ^ (n + 1) * (d n * d n ^ n) := by ring
    _ ≤ e n * (n + 1) ^ (n + 1) * (d 0 * (d n - e n) ^ n) := mul_le_mul_of_nonneg_left hdamped hfactor
    _ = d 0 * ((d n - e n) ^ n * e n * (n + 1) ^ (n + 1)) := by ring
    _ ≤ d 0 * (n ^ n * d n ^ (n + 1)) := mul_le_mul_of_nonneg_left hmean hstart
    _ = d 0 * n ^ n * d n ^ (n + 1) := by ring

end

/-! ## Corrections -/

/-- The values shifted down by `s`. -/
def lowered (v : ι → K) (s : K) (i : ι) : K := max 0 (v i - s)

variable (l : List ι) (w v : ι → K) (t : K)

/-- How far the mean is still above `t`. -/
def excess (s : K) : K := weightedSum l w (lowered v s) - t

/-- The first corrections together. -/
def shift : ℕ → K
  | 0 => 0
  | k + 1 => shift k + excess l w v t (shift k)

variable {l w v t}

section
variable (hw : Weights l w)
include hw

/-- A shift takes at most its own amount off the mean. -/
theorem excess_sub_le {s s' : K} (h : s ≤ s') : excess l w v t s - (s' - s) ≤ excess l w v t s' := by
  have hmean : weightedSum l w (fun i => lowered v s i - (s' - s)) ≤ weightedSum l w (lowered v s') := by
    refine hw.mean_mono fun i _ => ?_
    unfold lowered
    rcases max_cases 0 (v i - s) with ⟨heq, -⟩ | ⟨heq, -⟩
    · exact (by linarith : max 0 (v i - s) - (s' - s) ≤ 0).trans (le_max_left _ _)
    · exact (by linarith : max 0 (v i - s) - (s' - s) ≤ v i - s').trans (le_max_right _ _)
  rw [hw.mean_sub_const] at hmean
  unfold excess
  linarith

theorem excess_shift_nonneg (h : 0 ≤ excess l w v t 0) (k : ℕ) : 0 ≤ excess l w v t (shift l w v t k) := by
  induction k with
  | zero => exact h
  | succ k ih =>
    have hstep := excess_sub_le hw (v := v) (t := t) (le_add_of_nonneg_right (a := shift l w v t k) ih)
    rw [add_sub_cancel_left, sub_self] at hstep
    exact hstep

theorem shift_mono (h : 0 ≤ excess l w v t 0) {k n : ℕ} (hk : k ≤ n) : shift l w v t k ≤ shift l w v t n :=
  monotone_nat_of_le_succ (fun k => le_add_of_nonneg_right (excess_shift_nonneg hw h k)) hk

variable {r : K} (ht : 0 ≤ t) (hv : ∀ i ∈ l, v i ≤ t + r)
include ht hv

theorem excess_nonpos : excess l w v t r ≤ 0 := by
  have hmean : weightedSum l w (lowered v r) ≤ t := by
    refine hw.mean_le fun i hi => max_le ht ?_
    have := hv i hi
    linarith
  exact sub_nonpos.2 hmean

/-- The excess is at most what is left of the largest shift. -/
theorem excess_le {s : K} (hs : s ≤ r) : excess l w v t s ≤ r - s := by
  have hstep := excess_sub_le hw (v := v) (t := t) hs
  have hend := excess_nonpos hw ht hv
  linarith

/-- **The excess is convex**, and below the chord that ends in `r`. -/
theorem excess_chord {s s' : K} (h : s ≤ s') (h' : s' ≤ r) :
    excess l w v t s' * (r - s) ≤ excess l w v t s * (r - s') := by
  have hmean : weightedSum l w (fun i => (lowered v s' i - t) * (r - s)) ≤
      weightedSum l w (fun i => (lowered v s i - t) * (r - s')) := by
    refine hw.mean_mono fun i hi => ?_
    have hi := hv i hi
    unfold lowered
    rcases max_cases 0 (v i - s') with ⟨heq, -⟩ | ⟨heq, hlt⟩
    · rw [heq]
      calc (0 - t) * (r - s) ≤ (0 - t) * (r - s') := mul_le_mul_of_nonpos_left (by linarith) (by linarith)
        _ ≤ (max 0 (v i - s) - t) * (r - s') :=
          mul_le_mul_of_nonneg_right (sub_le_sub_right (le_max_left _ _) t) (by linarith)
    · rw [heq, max_eq_right (by linarith)]
      have hgap : 0 ≤ (s' - s) * (t + r - v i) := mul_nonneg (by linarith) (by linarith)
      linarith
  rw [weightedSum_mul, weightedSum_mul, hw.mean_sub_const, hw.mean_sub_const] at hmean
  exact hmean

theorem shift_le (hr : 0 ≤ r) (k : ℕ) : shift l w v t k ≤ r := by
  induction k with
  | zero => exact hr
  | succ k ih =>
    have := excess_le hw ht hv ih
    rw [shift]
    linarith

/-- **The corrections get small.** -/
theorem excess_shift_le (hr : 0 ≤ r) (h : 0 ≤ excess l w v t 0) (n : ℕ) :
    excess l w v t (shift l w v t n) * (n + 1) ^ (n + 1) ≤ r * n ^ n := by
  have hle := shift_le hw ht hv hr
  have hresidual := residual_le (d := fun k => r - shift l w v t k) (e := fun k => excess l w v t (shift l w v t k))
    (n := n) (fun k _ => by rw [shift]; ring) (fun k hk => ?_) (sub_nonneg.2 (hle 0)) (excess_shift_nonneg hw h n)
    (excess_le hw ht hv (hle n))
  · simpa only [shift, sub_zero] using hresidual
  · exact excess_chord hw ht hv (shift_mono hw h hk.le) (hle n)

end

end CasperProof.Damping
