/-
  The factor breakdown of a risk score — `computeFactors` of `riskFactors.ts`,
  in exact arithmetic.

  The source keeps the values in an array parallel to `FACTORS`; here they are
  a function of the factor.  `unit`, the hash that the jitters come from, is a
  parameter.

  Below a target of 50 no value is cut off at 100, so a mean that is too low is
  corrected by one pass, and one that is too high by passes that are cut off at
  0 only (`Damping`).  Above 50 everything is mirrored.
-/
import CasperProof.Lib.Js.String
import CasperProof.Lib.Damping
import Mathlib.Data.Rat.Floor
import Mathlib.Tactic.NormNum

namespace CasperProof.Web

open Js Damping

inductive Tier where
  | low
  | medium
  | high
  | extreme
deriving DecidableEq, Repr

def tierForScore (score : ℤ) : Tier :=
  if score < 40 then .low else if score < 60 then .medium else if score < 80 then .high else .extreme

inductive FactorGroup where
  | transaction
  | protocol
  | security
  | identity
deriving DecidableEq, Repr

structure FactorDef where
  key : JsString
  group : FactorGroup
  /-- In percentage points. -/
  weight : ℕ
deriving DecidableEq

/-- `FACTORS`. -/
def factors : List FactorDef :=
  [⟨lit "failureRate", .transaction, 5⟩, ⟨lit "txVelocity", .transaction, 5⟩, ⟨lit "volatility", .transaction, 9⟩,
    ⟨lit "oracleDeviation", .protocol, 9⟩, ⟨lit "counterpartyRisk", .protocol, 8⟩,
    ⟨lit "bridgeExposure", .protocol, 6⟩, ⟨lit "leverageRatio", .protocol, 7⟩,
    ⟨lit "exploitHistory", .security, 10⟩, ⟨lit "slashingHistory", .security, 6⟩,
    ⟨lit "upgradeRisk", .security, 4⟩, ⟨lit "auditCoverage", .security, 4⟩,
    ⟨lit "age", .identity, 4⟩, ⟨lit "liquidity", .identity, 10⟩, ⟨lit "concentration", .identity, 8⟩,
    ⟨lit "governanceActivity", .identity, 5⟩]

structure FactorResult extends FactorDef where
  value : ℤ
  tier : Tier
deriving DecidableEq

def clamp (n min max : ℚ) : ℚ := if n < min then min else if n > max then max else n

/-- `Math.round`. -/
def round (x : ℚ) : ℤ := ⌊x + 1 / 2⌋

/-- A number in `[0, 1)`. -/
abbrev UnitFloat := { u : ℚ // 0 ≤ u ∧ u < 1 }

/-- The 32-bit hash `xmur3`. -/
def hashString (str : JsString) : UInt32 :=
  let h := str.foldl
    (fun h c =>
      let h := (h ^^^ UInt32.ofNat c.val) * 3432918353
      (h <<< 13) ||| (h >>> 19))
    (1779033703 ^^^ UInt32.ofNat str.length)
  let h := (h ^^^ (h >>> 16)) * 2246822507
  let h := (h ^^^ (h >>> 13)) * 3266489909
  h ^^^ (h >>> 16)

def unit (str : JsString) : UnitFloat :=
  ⟨(hashString str).toNat / 4294967296, by positivity, by
    rw [div_lt_one (by norm_num)]
    exact_mod_cast (hashString str).toNat_lt⟩

def weightedMean (values : FactorDef → ℚ) : ℚ :=
  factors.foldl (fun sum f => sum + values f * (f.weight / 100)) 0

/-- `JITTER_SPREAD`. -/
def jitterSpread : ℚ := 22

/-- The passes that pull the mean back to the target. -/
def reconcile (target : ℚ) : ℕ → (FactorDef → ℚ) → FactorDef → ℚ
  | 0, values => values
  | passes + 1, values =>
    let bias := target - weightedMean values
    if |bias| < 0.05 then values else reconcile target passes fun f => clamp (values f + bias) 0 100

section
variable (unit : JsString → UnitFloat)

/-- The value of a factor before the passes. -/
def jittered (seed : JsString) (target : ℚ) (f : FactorDef) : ℚ :=
  let u := (unit (seed ++ lit "::" ++ f.key)).val
  clamp (target + (u * 2 - 1) * jitterSpread) 0 100

/-- The rounded score, from 0 to 100. -/
def targetScore (overallScore : ℚ) : ℚ := clamp (round overallScore) 0 100

def computeFactors (seed : JsString) (overallScore : ℚ) : List FactorResult :=
  let target := targetScore overallScore
  let values := reconcile target 6 (jittered unit seed target)
  factors.map fun f => { f with value := round (values f), tier := tierForScore (round (values f)) }

end

/-! ## Clamping and rounding -/

theorem clamp_eq {n lo hi : ℚ} (h : lo ≤ hi) : clamp n lo hi = max lo (min n hi) := by
  unfold clamp
  split_ifs with hlo hhi
  · rw [min_eq_left (hlo.le.trans h), max_eq_left hlo.le]
  · rw [min_eq_right (le_of_lt hhi), max_eq_right h]
  · rw [min_eq_left (not_lt.1 hhi), max_eq_right (not_lt.1 hlo)]

theorem clamp_mem (n : ℚ) {lo hi : ℚ} (h : lo ≤ hi) : lo ≤ clamp n lo hi ∧ clamp n lo hi ≤ hi := by
  rw [clamp_eq h]
  exact ⟨le_max_left _ _, max_le h (min_le_right _ _)⟩

theorem clamp_of_le {n lo hi : ℚ} (hn : n ≤ hi) (h : lo ≤ hi) : clamp n lo hi = max lo n := by
  rw [clamp_eq h, min_eq_left hn]

theorem clamp_of_mem {n lo hi : ℚ} (hlo : lo ≤ n) (hhi : n ≤ hi) : clamp n lo hi = n := by
  rw [clamp_of_le hhi (hlo.trans hhi), max_eq_right hlo]

theorem clamp_mirror (n : ℚ) : clamp (100 - n) 0 100 = 100 - clamp n 0 100 := by
  unfold clamp
  split_ifs <;> linarith

theorem round_mono {x y : ℚ} (h : x ≤ y) : round x ≤ round y := Int.floor_mono (by linarith)

theorem round_int (n : ℤ) : round n = n := by
  rw [round, Int.floor_eq_iff]
  constructor <;> norm_num

theorem abs_round_sub_le (x : ℚ) : |(round x : ℚ) - x| ≤ 1 / 2 := by
  have hle := Int.floor_le (x + 1 / 2)
  have hlt := Int.lt_floor_add_one (x + 1 / 2)
  rw [round, abs_le]
  constructor <;> linarith

/-! ## The mean -/

def share (f : FactorDef) : ℚ := f.weight / 100

theorem weightedMean_eq (values : FactorDef → ℚ) : weightedMean values = weightedSum factors share values :=
  foldl_weightedSum factors share values

/-- The weights sum to 100. -/
theorem factorWeights : Weights factors share where
  nonneg f _ := by unfold share; positivity
  total := by
    simp only [factors, share, List.map_cons, List.map_nil, List.sum_cons, List.sum_nil]
    norm_num

theorem weightedMean_mirror (values : FactorDef → ℚ) :
    weightedMean (fun f => 100 - values f) = 100 - weightedMean values := by
  rw [weightedMean_eq, weightedMean_eq, factorWeights.const_sub_mean]

/-! ## The passes -/

theorem reconcile_mirror (target : ℚ) (passes : ℕ) (values : FactorDef → ℚ) :
    reconcile (100 - target) passes (fun f => 100 - values f) = fun f => 100 - reconcile target passes values f := by
  induction passes generalizing values with
  | zero => rfl
  | succ passes ih =>
    have hbias : 100 - target - weightedMean (fun f => 100 - values f) = -(target - weightedMean values) := by
      rw [weightedMean_mirror]
      ring
    have hnext : (fun f => clamp (100 - values f + -(target - weightedMean values)) 0 100) =
        fun f => 100 - clamp (values f + (target - weightedMean values)) 0 100 := by
      ext f
      rw [← clamp_mirror]
      congr 1
      ring
    simp only [reconcile, hbias, abs_neg, hnext, ih]
    split_ifs <;> rfl

theorem reconcile_mem (target : ℚ) (passes : ℕ) {values : FactorDef → ℚ}
    (h : ∀ f, 0 ≤ values f ∧ values f ≤ 100) (f : FactorDef) :
    0 ≤ reconcile target passes values f ∧ reconcile target passes values f ≤ 100 := by
  induction passes generalizing values with
  | zero => exact h f
  | succ passes ih =>
    rw [reconcile]
    split_ifs
    · exact h f
    · exact ih fun f => clamp_mem _ (by norm_num)

/-- A mean on target stays. -/
theorem reconcile_exact {target : ℚ} {values : FactorDef → ℚ} (h : weightedMean values = target) (passes : ℕ) :
    reconcile target passes values = values := by
  cases passes with
  | zero => rfl
  | succ passes =>
    have hbias : |target - weightedMean values| < 0.05 := by
      rw [h, sub_self, abs_zero]
      norm_num
    rw [reconcile]
    exact if_pos hbias

/-- Values around the target, as the jitters leave them. -/
structure Around (target : ℚ) (values : FactorDef → ℚ) : Prop where
  mem : ∀ f, 0 ≤ values f ∧ values f ≤ 100
  near : ∀ f, target - jitterSpread ≤ values f ∧ values f ≤ target + jitterSpread

theorem Around.mirror {target : ℚ} {values : FactorDef → ℚ} (h : Around target values) :
    Around (100 - target) fun f => 100 - values f where
  mem f := by
    have := h.mem f
    constructor <;> linarith
  near f := by
    have := h.near f
    constructor <;> linarith

/-- A mean that is too low is corrected by one pass. -/
theorem reconcile_low {target : ℚ} {values : FactorDef → ℚ} (hhalf : target ≤ 50) (h : Around target values)
    (hlow : weightedMean values ≤ target) (passes : ℕ) :
    |weightedMean (reconcile target (passes + 1) values) - target| < 0.05 := by
  rw [reconcile]
  split_ifs with hbias
  · rwa [abs_sub_comm]
  have hmean : target - jitterSpread ≤ weightedMean values := by
    rw [weightedMean_eq]
    exact factorWeights.le_mean fun f _ => (h.near f).1
  have hshift : (fun f => clamp (values f + (target - weightedMean values)) 0 100) =
      fun f => values f - (weightedMean values - target) := by
    ext f
    have hmem := h.mem f
    have hnear := h.near f
    unfold jitterSpread at hnear hmean
    rw [clamp_of_mem (by linarith) (by linarith)]
    ring
  have htarget : weightedMean (fun f => values f - (weightedMean values - target)) = target := by
    rw [weightedMean_eq, factorWeights.mean_sub_const, ← weightedMean_eq]
    ring
  rw [hshift, reconcile_exact htarget, htarget, sub_self, abs_zero]
  norm_num

/-- The excess over the target after the first `k` corrections. -/
def excessAfter (target : ℚ) (values : FactorDef → ℚ) (k : ℕ) : ℚ :=
  excess factors share values target (shift factors share values target k)

/-- A mean that is too high is corrected by shifts that are cut off at 0. -/
theorem reconcile_high {target : ℚ} {values : FactorDef → ℚ} (h : ∀ f, 0 ≤ values f ∧ values f ≤ 100)
    (hhigh : 0 ≤ excessAfter target values 0) (passes k : ℕ) :
    ∃ n ≤ passes, reconcile target passes (lowered values (shift factors share values target k)) =
        lowered values (shift factors share values target (k + n)) ∧
      (n = passes ∨ excessAfter target values (k + n) < 0.05) := by
  induction passes generalizing k with
  | zero => exact ⟨0, le_rfl, rfl, .inl rfl⟩
  | succ passes ih =>
    have hnonneg : 0 ≤ excessAfter target values k := excess_shift_nonneg factorWeights hhigh k
    have hbias : target - weightedMean (lowered values (shift factors share values target k)) =
        -excessAfter target values k := by
      rw [weightedMean_eq, excessAfter, excess]
      ring
    rw [reconcile]
    simp only [hbias, abs_neg, abs_of_nonneg hnonneg]
    split_ifs with hsmall
    · exact ⟨0, Nat.zero_le _, rfl, .inr hsmall⟩
    · have hnext : (fun f => clamp (lowered values (shift factors share values target k) f +
          -excessAfter target values k) 0 100) = lowered values (shift factors share values target (k + 1)) := by
        ext f
        have hshift := shift_mono factorWeights hhigh (Nat.zero_le k)
        have hmem := h f
        have hle : lowered values (shift factors share values target k) f ≤ 100 := by
          rw [shift] at hshift
          exact max_le (by norm_num) (by linarith)
        rw [clamp_of_le (by linarith) (by norm_num), shift, lowered, lowered]
        change max 0 (max 0 _ + -excessAfter target values k) = max 0 (values f - (_ + excessAfter target values k))
        rw [max_add, ← max_assoc, zero_add, max_eq_left (neg_nonpos.2 hnonneg)]
        congr 1
        ring
      obtain ⟨n, hn, heq, hend⟩ := ih (k + 1)
      refine ⟨n + 1, Nat.succ_le_succ hn, ?_, ?_⟩
      · rw [hnext, heq, Nat.add_right_comm]
        rfl
      · rcases hend with rfl | hend
        · exact .inl rfl
        · refine .inr ?_
          rwa [Nat.add_right_comm] at hend

theorem lowered_zero {values : FactorDef → ℚ} (h : ∀ f, 0 ≤ values f) : lowered values 0 = values := by
  ext f
  rw [lowered, sub_zero, max_eq_right (h f)]

/-- Up to a target of 50 the six passes bring the mean close to it. -/
theorem reconcile_near_half {target : ℚ} {values : FactorDef → ℚ} (hpos : 0 ≤ target) (hhalf : target ≤ 50)
    (h : Around target values) : |weightedMean (reconcile target 6 values) - target| ≤ 3 / 2 := by
  rcases le_total (weightedMean values) target with hlow | hhigh
  · exact (reconcile_low hhalf h hlow 5).le.trans (by norm_num)
  have hstart : lowered values (shift factors share values target 0) = values := lowered_zero fun f => (h.mem f).1
  have hexcess : 0 ≤ excessAfter target values 0 := by
    rw [excessAfter, excess, hstart, ← weightedMean_eq]
    exact sub_nonneg.2 hhigh
  obtain ⟨n, -, heq, hend⟩ := reconcile_high h.mem hexcess 6 0
  rw [hstart, zero_add] at heq
  rw [zero_add] at hend
  have herror : weightedMean (reconcile target 6 values) - target = excessAfter target values n := by
    rw [heq, weightedMean_eq]
    rfl
  have hnonneg : 0 ≤ excessAfter target values n := excess_shift_nonneg factorWeights hexcess n
  rw [herror, abs_of_nonneg hnonneg]
  rcases hend with rfl | hsmall
  · have hbound := excess_shift_le factorWeights hpos (fun f _ => (h.near f).2) (by norm_num [jitterSpread]) hexcess 6
    norm_num [jitterSpread] at hbound
    unfold excessAfter
    linarith
  · exact hsmall.le.trans (by norm_num)

theorem reconcile_near {target : ℚ} {values : FactorDef → ℚ} (hpos : 0 ≤ target) (hmax : target ≤ 100)
    (h : Around target values) : |weightedMean (reconcile target 6 values) - target| ≤ 3 / 2 := by
  rcases le_total target 50 with hhalf | hhalf
  · exact reconcile_near_half hpos hhalf h
  have hnear := reconcile_near_half (by linarith) (by linarith) h.mirror
  rw [reconcile_mirror, weightedMean_mirror] at hnear
  rw [abs_sub_comm]
  exact (congrArg abs (by ring)).trans_le hnear

section
variable (unit : JsString → UnitFloat) (seed : JsString)

theorem jittered_around {target : ℚ} (hpos : 0 ≤ target) (hmax : target ≤ 100) :
    Around target (jittered unit seed target) := by
  refine ⟨fun f => clamp_mem _ (by norm_num), fun f => ?_⟩
  obtain ⟨hu, hu'⟩ := (unit (seed ++ lit "::" ++ f.key)).property
  rw [jittered, clamp_eq (by norm_num)]
  unfold jitterSpread
  constructor
  · exact le_max_of_le_right (le_min (by linarith) (by linarith))
  · exact max_le (by linarith) (min_le_of_left_le (by linarith))

theorem targetScore_mem (overallScore : ℚ) : 0 ≤ targetScore overallScore ∧ targetScore overallScore ≤ 100 :=
  clamp_mem _ (by norm_num)

/-- **The breakdown reconciles with the score.** -/
theorem computeFactors_reconciles (overallScore : ℚ) :
    (∀ f ∈ computeFactors unit seed overallScore, 0 ≤ f.value ∧ f.value ≤ 100) ∧
    |((computeFactors unit seed overallScore).map fun f => (f.value : ℚ) * (f.weight / 100)).sum -
      targetScore overallScore| ≤ 2 := by
  obtain ⟨hpos, hmax⟩ := targetScore_mem overallScore
  have haround := jittered_around unit seed hpos hmax
  have hmem := reconcile_mem (targetScore overallScore) 6 haround.mem
  constructor
  · intro f hf
    obtain ⟨f, -, rfl⟩ := List.mem_map.1 hf
    have h0 := round_mono (hmem f).1
    have h100 := round_mono (hmem f).2
    exact ⟨(round_int 0).symm.trans_le (by exact_mod_cast h0), h100.trans (round_int 100).le⟩
  · have hmean : ((computeFactors unit seed overallScore).map fun f => (f.value : ℚ) * (f.weight / 100)).sum =
        weightedSum factors share fun f =>
          round (reconcile (targetScore overallScore) 6 (jittered unit seed (targetScore overallScore)) f) := by
      rw [computeFactors, List.map_map]
      rfl
    have hround := factorWeights.abs_mean_sub_le fun f _ => abs_round_sub_le
      (reconcile (targetScore overallScore) 6 (jittered unit seed (targetScore overallScore)) f)
    have hnear := reconcile_near hpos hmax haround
    rw [weightedMean_eq] at hnear
    rw [hmean]
    refine (abs_sub_le _ _ _).trans ((add_le_add hround hnear).trans ?_)
    norm_num

end

/-- A low score: eight values are cut off at 0. -/
example : (computeFactors unit (lit "agent-x") 5).map (fun f => f.value) =
    [3, 1, 0, 0, 0, 11, 19, 12, 0, 0, 0, 20, 0, 0, 17] := by decide +kernel

end CasperProof.Web
