/-
  The withdrawal guard of the staking view — `staking.ts`.

  `withdrawableMotes` rounds the required collateral down.  A staker who may
  withdraw up to that amount, and whose pool has a fraction of a mote left
  above it, takes the pool below its floor.
-/
import Mathlib.Data.Int.Init
import Mathlib.Algebra.Order.Ring.Int
import Mathlib.Tactic.NormNum
import Mathlib.Tactic.Linarith

namespace CasperProof.Web

/-- `MIN_SOLVENCY_RATIO_BPS`. -/
def minSolvencyRatioBps : ℤ := 12000

/-- `BigInt` division truncates. -/
def withdrawableMotes (totalStakedMotes coverageMotes userStakedMotes : ℤ)
    (minRatioBps : ℤ := minSolvencyRatioBps) : ℤ :=
  let required := (coverageMotes * minRatioBps).tdiv 10000
  let free := totalStakedMotes - required
  let surplus := if free > 0 then free else 0
  if surplus < userStakedMotes then surplus else userStakedMotes

def isWithdrawable (requestedMotes withdrawable : ℤ) : Bool := requestedMotes > 0 && requestedMotes ≤ withdrawable

theorem isWithdrawable_iff {requested withdrawable : ℤ} :
    isWithdrawable requested withdrawable = true ↔ 0 < requested ∧ requested ≤ withdrawable := by
  rw [isWithdrawable, Bool.and_eq_true, decide_eq_true_eq, decide_eq_true_eq]

/-- A pool at or above its floor, and the position of one of its stakers. -/
structure Pool where
  totalStakedMotes : ℤ
  coverageMotes : ℤ
  userStakedMotes : ℤ
  minRatioBps : ℤ
  coverage_nonneg : 0 ≤ coverageMotes
  user_nonneg : 0 ≤ userStakedMotes
  ratio_nonneg : 0 ≤ minRatioBps
  user_le_total : userStakedMotes ≤ totalStakedMotes
  atFloor : coverageMotes * minRatioBps ≤ totalStakedMotes * 10000

namespace Pool

def withdrawable (p : Pool) : ℤ :=
  withdrawableMotes p.totalStakedMotes p.coverageMotes p.userStakedMotes p.minRatioBps

/-- The pool is still collateralised after the withdrawal. -/
def KeepsFloor (p : Pool) (requested : ℤ) : Prop :=
  p.coverageMotes * p.minRatioBps ≤ (p.totalStakedMotes - requested) * 10000

instance (p : Pool) (requested : ℤ) : Decidable (p.KeepsFloor requested) := inferInstanceAs (Decidable (_ ≤ _))

/-- What the guard is for: it accepts the positive requests within the position
    that keep the pool at its floor. -/
structure GuardExact (p : Pool) : Prop where
  sound : ∀ requested, isWithdrawable requested p.withdrawable = true →
    p.KeepsFloor requested ∧ requested ≤ p.userStakedMotes
  complete : ∀ requested, 0 < requested → requested ≤ p.userStakedMotes → p.KeepsFloor requested →
    isWithdrawable requested p.withdrawable = true

/-- The required collateral, rounded down to motes. -/
def required (p : Pool) : ℤ := p.coverageMotes * p.minRatioBps / 10000

variable (p : Pool)

theorem required_bounds : p.required * 10000 ≤ p.coverageMotes * p.minRatioBps ∧
    p.coverageMotes * p.minRatioBps < (p.required + 1) * 10000 := by
  unfold required
  constructor <;> omega

theorem required_le_total : p.required ≤ p.totalStakedMotes := by
  have hbounds := p.required_bounds
  have hfloor := p.atFloor
  omega

/-- The surplus above the rounded requirement, capped at the position. -/
theorem withdrawable_eq : p.withdrawable = min (p.totalStakedMotes - p.required) p.userStakedMotes := by
  have hnonneg : 0 ≤ p.coverageMotes * p.minRatioBps := mul_nonneg p.coverage_nonneg p.ratio_nonneg
  have hrequired : (p.coverageMotes * p.minRatioBps).tdiv 10000 = p.required := Int.tdiv_eq_ediv_of_nonneg hnonneg
  have hle := p.required_le_total
  simp only [withdrawable, withdrawableMotes, hrequired]
  split_ifs <;> omega

theorem keepsFloor_iff {requested : ℤ} : p.KeepsFloor requested ↔
    requested ≤ p.totalStakedMotes - p.required - (if 10000 ∣ p.coverageMotes * p.minRatioBps then 0 else 1) := by
  have hbounds := p.required_bounds
  unfold KeepsFloor
  split_ifs with hdvd
  · obtain ⟨n, hn⟩ := hdvd
    omega
  · omega

/-- What keeps the pool at its floor is accepted. -/
theorem isWithdrawable_of_keepsFloor {requested : ℤ} (hpos : 0 < requested) (huser : requested ≤ p.userStakedMotes)
    (hfloor : p.KeepsFloor requested) : isWithdrawable requested p.withdrawable = true := by
  rw [isWithdrawable_iff, p.withdrawable_eq]
  refine ⟨hpos, le_min ?_ huser⟩
  rw [keepsFloor_iff] at hfloor
  split_ifs at hfloor <;> omega

theorem le_userStaked {requested : ℤ} (h : isWithdrawable requested p.withdrawable = true) :
    requested ≤ p.userStakedMotes := by
  rw [isWithdrawable_iff, p.withdrawable_eq] at h
  exact h.2.trans (min_le_right _ _)

/-- **When the guard keeps the pool at its floor**: the requirement is a whole
    number of motes, or the pool can spare the whole position. -/
theorem withdrawal_guard_iff : p.GuardExact ↔
    10000 ∣ p.coverageMotes * p.minRatioBps ∨
      p.coverageMotes * p.minRatioBps ≤ (p.totalStakedMotes - p.userStakedMotes) * 10000 := by
  have hspare : p.coverageMotes * p.minRatioBps ≤ (p.totalStakedMotes - p.userStakedMotes) * 10000 ↔
      p.KeepsFloor p.userStakedMotes := Iff.rfl
  rw [hspare]
  constructor
  · intro hguard
    by_contra hnot
    obtain ⟨hdvd, huser⟩ := not_or.1 hnot
    have hfloor := p.atFloor
    -- The whole surplus may be withdrawn, and it includes the fraction.
    have hall : isWithdrawable p.withdrawable p.withdrawable = true := by
      rw [isWithdrawable_iff, p.withdrawable_eq]
      rw [keepsFloor_iff, if_neg hdvd] at huser
      have htotal : p.KeepsFloor 0 := by rw [KeepsFloor, sub_zero]; exact hfloor
      rw [keepsFloor_iff, if_neg hdvd] at htotal
      omega
    have hkeeps := (hguard.sound _ hall).1
    rw [keepsFloor_iff, if_neg hdvd] at huser hkeeps
    rw [p.withdrawable_eq] at hkeeps
    omega
  · intro h
    refine ⟨fun requested hreq => ⟨?_, p.le_userStaked hreq⟩, fun _ => p.isWithdrawable_of_keepsFloor⟩
    rw [isWithdrawable_iff, p.withdrawable_eq] at hreq
    rcases h with hdvd | huser
    · rw [keepsFloor_iff, if_pos hdvd]
      omega
    · rw [keepsFloor_iff] at huser ⊢
      omega

end Pool

/-- Two motes staked, one of them by the staker, and one mote of coverage. -/
def smallPool : Pool :=
  ⟨2, 1, 1, minSolvencyRatioBps, by decide, by decide, by decide, by decide, by decide⟩

/-- The one mote may be withdrawn, and the other is less than 120 % of the
    coverage. -/
theorem withdrawal_below_floor : ¬ ∀ p : Pool, p.GuardExact := by
  intro h
  have haccepted : isWithdrawable 1 smallPool.withdrawable = true := by decide
  have hbelow : ¬ smallPool.KeepsFloor 1 := by decide
  exact hbelow ((h smallPool).sound 1 haccepted).1

end CasperProof.Web
