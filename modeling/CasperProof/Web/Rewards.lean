/-
  The rewards of the staking view — `pendingRewardsMotes` of `staking.ts`.

  A staker's reward is their share of the pool, rounded down; so the rewards of
  all stakers are within the pool (`rewards_distributed`).
-/
import CasperProof.Lib.Shares
import CasperProof.Web.Motes

namespace CasperProof.Web

/-- `REWARDS_POOL_MOTES`. -/
def rewardsPoolMotes : ℤ := 3200 * motesPerCspr

/-- `BigInt` division truncates. -/
def pendingRewardsMotes (userStakedMotes totalStakedMotes : ℤ) (rewardsPoolMotes : ℤ := Web.rewardsPoolMotes) : ℤ :=
  if totalStakedMotes ≤ 0 ∨ userStakedMotes ≤ 0 then 0
  else (rewardsPoolMotes * userStakedMotes).tdiv totalStakedMotes

/-- With no position the share is zero as well, so the guard makes no difference. -/
theorem pendingRewardsMotes_eq {userStakedMotes totalStakedMotes rewardsPoolMotes : ℤ} (htotal : 0 < totalStakedMotes)
    (hpool : 0 ≤ rewardsPoolMotes) (huser : 0 ≤ userStakedMotes) :
    pendingRewardsMotes userStakedMotes totalStakedMotes rewardsPoolMotes =
      share rewardsPoolMotes totalStakedMotes userStakedMotes := by
  rw [pendingRewardsMotes, share]
  rcases huser.eq_or_lt with rfl | hpos
  · rw [if_pos (.inr le_rfl), mul_zero, Int.zero_ediv]
  · have hguard : ¬ (totalStakedMotes ≤ 0 ∨ userStakedMotes ≤ 0) := by
      rintro (h | h)
      · exact htotal.not_ge h
      · exact hpos.not_ge h
    rw [if_neg hguard, Int.tdiv_eq_ediv_of_nonneg (mul_nonneg hpool hpos.le)]

/-- The rewards pool, and the positions of the stakers in the staked total. -/
structure Stakers where
  totalStakedMotes : ℤ
  rewardsPoolMotes : ℤ
  positions : List ℤ
  total_pos : 0 < totalStakedMotes
  rewards_nonneg : 0 ≤ rewardsPoolMotes
  positions_nonneg : ∀ p ∈ positions, 0 ≤ p
  within_total : positions.sum ≤ totalStakedMotes

namespace Stakers
variable (s : Stakers)

/-- The rewards of all stakers. -/
def rewards : ℤ :=
  (s.positions.map fun userStakedMotes =>
    pendingRewardsMotes userStakedMotes s.totalStakedMotes s.rewardsPoolMotes).sum

/-- The number of stakers with a position. -/
def withPosition : ℕ := s.positions.countP (0 < ·)

theorem rewards_eq : s.rewards = distributed s.rewardsPoolMotes s.totalStakedMotes s.positions := by
  refine congrArg List.sum (List.map_congr_left fun p hp => ?_)
  exact pendingRewardsMotes_eq s.total_pos s.rewards_nonneg (s.positions_nonneg p hp)

/-- What the rewards are to the pool. -/
structure Distributed : Prop where
  within : s.rewards ≤ s.rewardsPoolMotes
  leftover : s.positions.sum = s.totalStakedMotes → s.rewardsPoolMotes - s.rewards < s.withPosition ∨
    s.withPosition = 0 ∧ s.rewardsPoolMotes - s.rewards = 0

/-- **The rewards are within the pool**, and leave less than a mote for each
    staker if the positions make up the total. -/
theorem rewards_distributed : s.Distributed := by
  refine ⟨?_, ?_⟩
  · rw [rewards_eq]
    exact sum_share_le s.total_pos s.rewards_nonneg s.within_total
  · intro hsum
    rw [rewards_eq]
    exact undistributed_lt s.total_pos s.positions_nonneg hsum

end Stakers

/-- Three equal stakers, and ten motes for them. -/
def threeStakers : Stakers := ⟨3, 10, [1, 1, 1], by decide, by decide, by decide, by decide⟩

example : threeStakers.rewards = 9 := by decide

end CasperProof.Web
