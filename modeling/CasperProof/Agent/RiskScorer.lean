/-
  The risk scorer — `scoreRisk` of `risk-scorer.ts`, in exact arithmetic.

  Everything is monotone in the signals: clamping, the weighted sum, clamping
  again, and the tiers — whatever the order of the thresholds, since they are
  tried from the most severe tier down (`scoreRisk_mono`).
-/
import CasperProof.Commitment.Hash
import CasperProof.Lib.WeightedMean
import CasperProof.Sdk.MockBackend
import Mathlib.Data.Fintype.Lattice

namespace CasperProof.Agent

open Js Commitment
open Sdk (numberLe)

/-- The names of the `RiskSignals`. -/
inductive SignalName where
  | liquidity
  | volatility
  | concentration
  | counterpartyRisk
  | oracleDeviation
  | governanceActivity
  | exploitHistory
  | age
  | txVelocity
  | failureRate
  | bridgeExposure
  | leverageRatio
  | slashingHistory
  | upgradeRisk
  | auditCoverage
deriving DecidableEq, Repr

/-- `SIGNAL_WEIGHTS`. -/
def signalWeights : SignalName → ℚ
  | .liquidity => 0.1
  | .volatility => 0.09
  | .concentration => 0.08
  | .counterpartyRisk => 0.08
  | .oracleDeviation => 0.09
  | .governanceActivity => 0.05
  | .exploitHistory => 0.1
  | .age => 0.04
  | .txVelocity => 0.05
  | .failureRate => 0.05
  | .bridgeExposure => 0.06
  | .leverageRatio => 0.07
  | .slashingHistory => 0.06
  | .upgradeRisk => 0.04
  | .auditCoverage => 0.04

/-- `SIGNAL_NAMES`. -/
def signalNames : List SignalName :=
  [.liquidity, .volatility, .concentration, .counterpartyRisk, .oracleDeviation, .governanceActivity,
    .exploitHistory, .age, .txVelocity, .failureRate, .bridgeExposure, .leverageRatio, .slashingHistory,
    .upgradeRisk, .auditCoverage]

inductive RiskTier where
  | low
  | medium
  | high
  | extreme
deriving DecidableEq, Repr

inductive RiskDecision where
  | allow
  | monitor
  | restrict
  | block
deriving DecidableEq, Repr

structure RiskThresholds where
  medium : JsNumber
  high : JsNumber
  extreme : JsNumber

/-- Explicit signals; absent ones are derived from the address. -/
abbrev Overlay := SignalName → Option JsNumber

structure ScoreRiskOptions where
  signals : Option Overlay := none
  thresholds : Option RiskThresholds := none
  /-- The thresholds of the configuration; nothing else of it is read. -/
  config : Option RiskThresholds := none

structure RiskScoreResult where
  address : JsString
  score : ℤ
  tier : RiskTier
  decision : RiskDecision
  signals : SignalName → ℤ

def clamp100 : JsNumber → ℤ
  | .nan => 0
  | .negInf => 0
  | .posInf => 100
  | .negZero => 0
  | .real q => if q < 0 then 0 else if q > 100 then 100 else ⌊q + 1 / 2⌋

def tierForScore (score : ℤ) (thresholds : RiskThresholds) : RiskTier :=
  if numberLe thresholds.extreme (.real score) then .extreme
  else if numberLe thresholds.high (.real score) then .high
  else if numberLe thresholds.medium (.real score) then .medium
  else .low

def decisionForTier : RiskTier → RiskDecision
  | .low => .allow
  | .medium => .monitor
  | .high => .restrict
  | .extreme => .block

section
variable (blake2b256 : Blake2b)

/-- One byte of the hash for each signal. -/
def deriveSignals (address : JsString) (name : SignalName) : ℤ :=
  let digest := (blake2b256 (textEncode address)).toList
  let byte := (digest[signalNames.idxOf name]?).getD 0
  ⌊(byte.toNat : ℚ) / 255 * 100 + 1 / 2⌋

variable (defaultThresholds : RiskThresholds)

def scoreRisk (address : JsString) (options : ScoreRiskOptions := {}) : RiskScoreResult :=
  let thresholds := (options.thresholds <|> options.config).getD defaultThresholds
  let signals := fun name =>
    clamp100 ((options.signals.bind fun overlay => overlay name).getD (.real (deriveSignals blake2b256 address name)))
  let weighted := signalNames.foldl (fun weighted name => weighted + (signals name : ℚ) * signalWeights name) 0
  let score := clamp100 (.real weighted)
  let tier := tierForScore score thresholds
  ⟨address, score, tier, decisionForTier tier, signals⟩

end

/-! ## Severity -/

def RiskTier.severity : RiskTier → ℕ
  | low => 0
  | medium => 1
  | high => 2
  | extreme => 3

def RiskDecision.strictness : RiskDecision → ℕ
  | allow => 0
  | monitor => 1
  | restrict => 2
  | block => 3

theorem decisionForTier_mono {t t' : RiskTier} (h : t.severity ≤ t'.severity) :
    (decisionForTier t).strictness ≤ (decisionForTier t').strictness := by
  have hsame : ∀ t, (decisionForTier t).strictness = t.severity := fun t => by cases t <;> rfl
  rwa [hsame, hsame]

/-- A threshold that a score reaches is reached by a higher score. -/
theorem numberLe_mono {threshold : JsNumber} {s s' : ℤ} (h : s ≤ s')
    (hs : numberLe threshold (.real s)) : numberLe threshold (.real s') := by
  have hq : (s : ℚ) ≤ s' := by exact_mod_cast h
  cases threshold with
  | real q =>
    simp only [numberLe, decide_eq_true_eq] at hs ⊢
    exact hs.trans hq
  | negZero =>
    simp only [numberLe, decide_eq_true_eq] at hs ⊢
    exact hs.trans hq
  | negInf => rfl
  | posInf | nan => cases hs

/-- **Tiers are monotone**, in whatever order the thresholds are. -/
theorem tierForScore_mono (thresholds : RiskThresholds) {s s' : ℤ} (h : s ≤ s') :
    (tierForScore s thresholds).severity ≤ (tierForScore s' thresholds).severity := by
  unfold tierForScore
  by_cases hextreme : numberLe thresholds.extreme (.real s)
  · rw [if_pos hextreme, if_pos (numberLe_mono h hextreme)]
  rw [if_neg hextreme]
  by_cases hhigh : numberLe thresholds.high (.real s)
  · rw [if_pos hhigh, if_pos (numberLe_mono h hhigh)]
    split_ifs <;> decide
  rw [if_neg hhigh]
  by_cases hmedium : numberLe thresholds.medium (.real s)
  · rw [if_pos hmedium, if_pos (numberLe_mono h hmedium)]
    split_ifs <;> decide
  rw [if_neg hmedium]
  exact Nat.zero_le _

/-! ## Clamping -/

theorem clamp100_mem (x : JsNumber) : 0 ≤ clamp100 x ∧ clamp100 x ≤ 100 := by
  cases x with
  | real q =>
    rw [clamp100]
    split_ifs with hneg hbig
    · decide
    · decide
    · have hle : ⌊q + 1 / 2⌋ < 101 := Int.floor_lt.2 (by push_cast; linarith)
      exact ⟨Int.floor_nonneg.2 (by linarith), by omega⟩
  | negZero | posInf | negInf | nan => decide

theorem clamp100_int {n : ℤ} (h : 0 ≤ n) (h' : n ≤ 100) : clamp100 (.real n) = n := by
  have hn : (0 : ℚ) ≤ n := by exact_mod_cast h
  have hn' : (n : ℚ) ≤ 100 := by exact_mod_cast h'
  rw [clamp100, if_neg (not_lt.2 hn), if_neg (not_lt.2 hn'), Int.floor_eq_iff]
  constructor <;> linarith

theorem clamp100_real_mono {p q : ℚ} (h : p ≤ q) : clamp100 (.real p) ≤ clamp100 (.real q) := by
  by_cases hneg : p < 0
  · rw [clamp100, if_pos hneg]
    exact (clamp100_mem _).1
  by_cases hbig : q > 100
  · have hq : clamp100 (.real q) = 100 := by rw [clamp100, if_neg (by linarith), if_pos hbig]
    rw [hq]
    exact (clamp100_mem _).2
  · rw [clamp100, clamp100, if_neg hneg, if_neg (by linarith), if_neg (by linarith), if_neg hbig]
    exact Int.floor_mono (by linarith)

theorem clamp100_mono {x y : JsNumber} (h : numberLe x y) : clamp100 x ≤ clamp100 y := by
  have hzero : clamp100 (.real 0) = 0 := clamp100_int (n := 0) le_rfl (by decide)
  cases x with
  | real p =>
    cases y with
    | real q => exact clamp100_real_mono (of_decide_eq_true h)
    | negZero => exact (clamp100_real_mono (of_decide_eq_true h)).trans hzero.le
    | posInf => exact (clamp100_mem _).2
    | negInf | nan => cases h
  | negZero =>
    cases y with
    | real | negZero | posInf => exact (clamp100_mem _).1
    | negInf | nan => cases h
  | posInf =>
    cases y with
    | posInf => exact le_rfl
    | real | negZero | negInf | nan => cases h
  | negInf =>
    cases y with
    | nan => cases h
    | real | negZero | posInf | negInf => exact (clamp100_mem _).1
  | nan => cases h

/-! ## The score -/

/-- The weights sum to 1. -/
theorem signal_weights : Weights signalNames signalWeights where
  nonneg name _ := by cases name <;> norm_num [signalWeights]
  total := by
    simp only [signalNames, List.map_cons, List.map_nil, List.sum_cons, List.sum_nil, signalWeights]
    norm_num

theorem mem_signalNames (name : SignalName) : name ∈ signalNames := by cases name <;> decide

section
variable (blake2b256 : Blake2b) (defaultThresholds : RiskThresholds) (address : JsString) (options : ScoreRiskOptions)

theorem score_eq : (scoreRisk blake2b256 defaultThresholds address options).score =
    clamp100 (.real (weightedSum signalNames signalWeights fun name =>
      ((scoreRisk blake2b256 defaultThresholds address options).signals name : ℚ))) := by
  rw [← foldl_weightedSum]
  rfl

theorem signals_mem (name : SignalName) : 0 ≤ (scoreRisk blake2b256 defaultThresholds address options).signals name ∧
    (scoreRisk blake2b256 defaultThresholds address options).signals name ≤ 100 := clamp100_mem _

/-- The score is an integer between bounds of the signals. -/
theorem le_score {n : ℤ} (h0 : 0 ≤ n) (h100 : n ≤ 100)
    (h : ∀ name, n ≤ (scoreRisk blake2b256 defaultThresholds address options).signals name) :
    n ≤ (scoreRisk blake2b256 defaultThresholds address options).score := by
  rw [score_eq]
  refine (clamp100_int h0 h100).symm.trans_le (clamp100_real_mono (signal_weights.le_mean fun name _ => ?_))
  exact_mod_cast h name

theorem score_le {n : ℤ} (h0 : 0 ≤ n) (h100 : n ≤ 100)
    (h : ∀ name, (scoreRisk blake2b256 defaultThresholds address options).signals name ≤ n) :
    (scoreRisk blake2b256 defaultThresholds address options).score ≤ n := by
  rw [score_eq]
  refine (clamp100_real_mono (signal_weights.mean_le fun name _ => ?_)).trans (clamp100_int h0 h100).le
  exact_mod_cast h name

instance : Fintype SignalName := ⟨signalNames.toFinset, fun name => List.mem_toFinset.2 (mem_signalNames name)⟩
instance : Nonempty SignalName := ⟨.liquidity⟩

variable {o o' : Overlay}

/-- The value that the inputs give a signal: the overlay's, if it names the
    signal, else the one derived from the address. -/
def inputSignal (o : Overlay) (name : SignalName) : ℤ :=
  match o name with
  | some x => clamp100 x
  | none => clamp100 (.real (deriveSignals blake2b256 address name))

/-- The result reports the given signals, and its score lies between the
    smallest and the largest of them. -/
structure Between (signals : SignalName → ℤ) (r : RiskScoreResult) : Prop where
  reported : r.signals = signals
  bounds : ∃ lo hi, (∀ name, signals lo ≤ signals name ∧ signals name ≤ signals hi) ∧
    signals lo ≤ r.score ∧ r.score ≤ signals hi

theorem scoreRisk_signals (o : Overlay) :
    (scoreRisk blake2b256 defaultThresholds address { options with signals := some o }).signals =
      inputSignal blake2b256 address o := by
  funext name
  simp only [scoreRisk, inputSignal, Option.bind_some]
  cases o name with
  | none => rfl
  | some x => rfl

theorem scoreRisk_between (o : Overlay) : Between (inputSignal blake2b256 address o)
    (scoreRisk blake2b256 defaultThresholds address { options with signals := some o }) := by
  rw [← scoreRisk_signals blake2b256 defaultThresholds address options o]
  obtain ⟨lo, hlo⟩ := Finite.exists_min
    (scoreRisk blake2b256 defaultThresholds address { options with signals := some o }).signals
  obtain ⟨hi, hhi⟩ := Finite.exists_max
    (scoreRisk blake2b256 defaultThresholds address { options with signals := some o }).signals
  have hlomem := signals_mem blake2b256 defaultThresholds address { options with signals := some o } lo
  have hhimem := signals_mem blake2b256 defaultThresholds address { options with signals := some o } hi
  exact ⟨rfl, lo, hi, fun name => ⟨hlo name, hhi name⟩, le_score _ _ _ _ hlomem.1 hlomem.2 hlo,
    score_le _ _ _ _ hhimem.1 hhimem.2 hhi⟩

/-- Two overlays that name the same signals, the second with values at least
    as large. -/
def OverlayLe (o o' : Overlay) : Prop := ∀ name, Option.Rel (fun x y => numberLe x y) (o name) (o' name)

/-- At least as high a score, as severe a tier and as strict an action. -/
structure AtLeastAsRisky (r r' : RiskScoreResult) : Prop where
  score : r.score ≤ r'.score
  tier : r.tier.severity ≤ r'.tier.severity
  decision : r.decision.strictness ≤ r'.decision.strictness

theorem inputSignal_mono (h : OverlayLe o o') (name : SignalName) :
    inputSignal blake2b256 address o name ≤ inputSignal blake2b256 address o' name := by
  have hname := h name
  unfold inputSignal
  cases ho : o name with
  | none =>
    cases ho' : o' name with
    | none => exact le_rfl
    | some y => rw [ho, ho'] at hname; cases hname
  | some x =>
    cases ho' : o' name with
    | none => rw [ho, ho'] at hname; cases hname
    | some y =>
      rw [ho, ho'] at hname
      cases hname with
      | some hxy => exact clamp100_mono hxy

/-- **Risk scoring is monotone and bounded**, for all thresholds and options:
    the bounds are the smallest and the largest of the clamped signals that the
    overlay and the address give. -/
theorem scoreRisk_mono (h : OverlayLe o o') :
    AtLeastAsRisky (scoreRisk blake2b256 defaultThresholds address { options with signals := some o })
      (scoreRisk blake2b256 defaultThresholds address { options with signals := some o' }) ∧
    Between (inputSignal blake2b256 address o)
      (scoreRisk blake2b256 defaultThresholds address { options with signals := some o }) ∧
    Between (inputSignal blake2b256 address o')
      (scoreRisk blake2b256 defaultThresholds address { options with signals := some o' }) := by
  have hscore : (scoreRisk blake2b256 defaultThresholds address { options with signals := some o }).score ≤
      (scoreRisk blake2b256 defaultThresholds address { options with signals := some o' }).score := by
    rw [score_eq, score_eq, scoreRisk_signals, scoreRisk_signals]
    refine clamp100_real_mono (signal_weights.mean_mono fun name _ => ?_)
    exact_mod_cast inputSignal_mono blake2b256 address h name
  have htier := tierForScore_mono ((options.thresholds <|> options.config).getD defaultThresholds) hscore
  exact ⟨⟨hscore, htier, decisionForTier_mono htier⟩, scoreRisk_between .., scoreRisk_between ..⟩

end

/-- One signal goes up, beyond 100, with the thresholds the wrong way round. -/
theorem scoreRisk_mono_demo :
    let thresholds : RiskThresholds := ⟨.real 90, .real 60, .real 30⟩
    let low : Overlay := fun name => if name = .exploitHistory then some (.real (-5)) else none
    let high : Overlay := fun name => if name = .exploitHistory then some (.real 250) else none
    AtLeastAsRisky (scoreRisk demoDigest thresholds (lit "account-hash-aabb") { signals := some low })
      (scoreRisk demoDigest thresholds (lit "account-hash-aabb") { signals := some high }) ∧
    Between (inputSignal demoDigest (lit "account-hash-aabb") low)
      (scoreRisk demoDigest thresholds (lit "account-hash-aabb") { signals := some low }) ∧
    Between (inputSignal demoDigest (lit "account-hash-aabb") high)
      (scoreRisk demoDigest thresholds (lit "account-hash-aabb") { signals := some high }) := by
  intro thresholds low high
  refine scoreRisk_mono demoDigest thresholds (lit "account-hash-aabb") {} fun name => ?_
  by_cases hname : name = .exploitHistory
  · simp only [low, high, if_pos hname]
    exact .some (by decide +kernel)
  · simp only [low, high, if_neg hname]
    exact .none

end CasperProof.Agent
