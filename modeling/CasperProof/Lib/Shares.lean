/-
  Shares of a pool, each rounded down.

  * `share pool t w`: what a weight `w` gets of a pool of which `t` gets all.
  * `sum_share_add_rounding`: what the shares lack, in parts of `t`.
  * `sum_share_le`, `undistributed_lt`: the shares are within the pool, and
    leave less than one for each of them.
-/
import Mathlib.Algebra.BigOperators.Group.List.Basic
import Mathlib.Algebra.Order.Ring.Int
import Mathlib.Tactic.Linarith
import Mathlib.Tactic.Ring

namespace CasperProof

variable {pool t : ℤ} {ws : List ℤ}

def share (pool t w : ℤ) : ℤ := pool * w / t

/-- What is rounded off a share, in parts of `t`. -/
def rounding (pool t w : ℤ) : ℤ := pool * w % t

/-- The shares of a list of weights. -/
def distributed (pool t : ℤ) (ws : List ℤ) : ℤ := (ws.map (share pool t)).sum

/-- The weights that get a share. -/
def shareholders (ws : List ℤ) : ℕ := ws.countP (0 < ·)

theorem sum_share_add_rounding (pool t : ℤ) (ws : List ℤ) :
    t * distributed pool t ws + (ws.map (rounding pool t)).sum = pool * ws.sum := by
  induction ws with
  | nil => simp [distributed]
  | cons w ws ih =>
    have hw : t * share pool t w + rounding pool t w = pool * w := Int.mul_ediv_add_emod _ _
    simp only [distributed, List.map_cons, List.sum_cons, mul_add] at ih ⊢
    linarith

theorem sum_rounding_nonneg (pool : ℤ) (ht : 0 < t) (ws : List ℤ) : 0 ≤ (ws.map (rounding pool t)).sum := by
  induction ws with
  | nil => rfl
  | cons w ws ih => exact add_nonneg (Int.emod_nonneg _ ht.ne') ih

/-- Nothing is rounded off the share of no weight. -/
theorem sum_rounding_le (pool : ℤ) (ht : 0 < t) (hws : ∀ w ∈ ws, 0 ≤ w) :
    (ws.map (rounding pool t)).sum ≤ (t - 1) * shareholders ws := by
  induction ws with
  | nil => simp [shareholders]
  | cons w ws ih =>
    obtain ⟨hw, hws⟩ := List.forall_mem_cons.1 hws
    have hrest := ih hws
    rw [List.map_cons, List.sum_cons]
    rcases hw.eq_or_lt with rfl | hpos
    · have hzero : rounding pool t 0 = 0 := by simp [rounding]
      have hcount : shareholders (0 :: ws) = shareholders ws := List.countP_cons_of_neg (by decide)
      rw [hzero, hcount, zero_add]
      exact hrest
    · have hlt : rounding pool t w < t := Int.emod_lt_of_pos _ ht
      have hcount : shareholders (w :: ws) = shareholders ws + 1 := List.countP_cons_of_pos (by simpa using hpos)
      rw [hcount, Nat.cast_succ, mul_add, mul_one]
      linarith

/-- **No pool is over-distributed.** -/
theorem sum_share_le (ht : 0 < t) (hpool : 0 ≤ pool) (hsum : ws.sum ≤ t) : distributed pool t ws ≤ pool := by
  have hround := sum_share_add_rounding pool t ws
  have hnonneg := sum_rounding_nonneg pool ht ws
  refine le_of_mul_le_mul_left ?_ ht
  calc t * distributed pool t ws ≤ pool * ws.sum := by linarith
    _ ≤ pool * t := mul_le_mul_of_nonneg_left hsum hpool
    _ = t * pool := mul_comm _ _

/-- **What is left over** when the weights get it all. -/
theorem undistributed_lt (ht : 0 < t) (hws : ∀ w ∈ ws, 0 ≤ w) (hsum : ws.sum = t) :
    pool - distributed pool t ws < shareholders ws ∨ shareholders ws = 0 ∧ pool - distributed pool t ws = 0 := by
  have hround := sum_share_add_rounding pool t ws
  have hnonneg := sum_rounding_nonneg pool ht ws
  have hle := sum_rounding_le pool ht hws
  have hleft : t * (pool - distributed pool t ws) = (ws.map (rounding pool t)).sum := by
    rw [hsum] at hround
    linarith
  rcases Nat.eq_zero_or_pos (shareholders ws) with hzero | hpos
  · right
    rw [hzero, Nat.cast_zero, mul_zero] at hle
    exact ⟨hzero, (mul_eq_zero.1 (hleft.trans (le_antisymm hle hnonneg))).resolve_left ht.ne'⟩
  · left
    have hcount : (0 : ℤ) < shareholders ws := Int.natCast_pos.2 hpos
    refine lt_of_mul_lt_mul_left ?_ ht.le
    calc t * (pool - distributed pool t ws) ≤ (t - 1) * shareholders ws := hleft ▸ hle
      _ < t * shareholders ws := mul_lt_mul_of_pos_right (sub_one_lt t) hcount

end CasperProof
