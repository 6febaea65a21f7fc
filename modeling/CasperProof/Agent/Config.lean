/-
  The configuration of the agent — `agent.config.ts`.

  A text is taken from the environment if anything is left of it after
  trimming, a number if it is a non-negative integer; else the default is.
  `loadConfig_wellFormed`: so no environment makes a configuration that the
  runtime cannot use.
-/
import CasperProof.Agent.RiskScorer
import CasperProof.Agent.Verifier
import CasperProof.Lib.Js.ToNumber

namespace CasperProof.Agent

open Js
open Sdk (number)

/-- An environment record. -/
abbrev Environment := JsString → Option JsString

inductive LlmBackendKind where
  | ollama
  | none
  | openai
  | anthropic
deriving DecidableEq, Repr

def LlmBackendKind.text : LlmBackendKind → JsString
  | .ollama => lit "ollama"
  | .none => lit "none"
  | .openai => lit "openai"
  | .anthropic => lit "anthropic"

/-- The whole of `AgentConfig`. -/
structure RuntimeConfig extends AgentConfig where
  llmBackend : LlmBackendKind
  ollamaHost : JsString
  ollamaModel : JsString
  pollIntervalMs : JsNumber
  riskScorerModelId : JsString
  claimOracleModelId : JsString
  thresholds : RiskThresholds

def clean (value : Option JsString) : Option JsString :=
  value.bind fun text => if trim text = [] then none else some (trim text)

def intEnv (value : Option JsString) (fallback : ℕ) : JsNumber :=
  match clean value with
  | none => number fallback
  | some cleaned => if (toNumber cleaned).toNat?.isSome then toNumber cleaned else number fallback

/-- `backendSchema.safeParse`. -/
def backendSchema (raw : Option JsString) : Option LlmBackendKind :=
  [LlmBackendKind.ollama, .none, .openai, .anthropic].find? fun kind => raw = some kind.text

def loadConfig (env : Environment) : RuntimeConfig where
  llmBackend := (backendSchema (clean (env (lit "LLM_BACKEND")))).getD .ollama
  ollamaHost := (clean (env (lit "OLLAMA_HOST"))).getD (lit "http://ollama:11434")
  ollamaModel := (clean (env (lit "OLLAMA_MODEL"))).getD (lit "llama3.1:8b")
  pollIntervalMs := intEnv (env (lit "AGENT_POLL_INTERVAL_MS")) 5000
  riskScorerModelId := (clean (env (lit "RISK_SCORER_MODEL_ID"))).getD (lit "casperproof-riskscorer-v1")
  claimOracleModelId := (clean (env (lit "CLAIM_ORACLE_MODEL_ID"))).getD (lit "casperproof-claimoracle-v1")
  attestationStake := (clean (env (lit "ATTESTATION_STAKE"))).getD (lit "2000000000")
  thresholds := {
    medium := intEnv (env (lit "RISK_THRESHOLD_MEDIUM")) 34
    high := intEnv (env (lit "RISK_THRESHOLD_HIGH")) 67
    extreme := intEnv (env (lit "RISK_THRESHOLD_EXTREME")) 85 }

/-- Nothing is blank, and the numbers are non-negative integers. -/
structure RuntimeConfig.WellFormed (config : RuntimeConfig) : Prop where
  texts : [] ∉ [config.ollamaHost, config.ollamaModel, config.riskScorerModelId, config.claimOracleModelId,
    config.attestationStake]
  numbers : ∀ x ∈ [config.pollIntervalMs, config.thresholds.medium, config.thresholds.high,
    config.thresholds.extreme], x.toNat?.isSome

theorem clean_ne_nil {value : Option JsString} {text : JsString} (h : clean value = some text) : text ≠ [] := by
  obtain ⟨t, -, ht⟩ := Option.bind_eq_some_iff.1 h
  split at ht
  · cases ht
  · rename_i hne
    cases ht
    exact hne

theorem clean_getD_ne_nil {value : Option JsString} {fallback : JsString} (h : fallback ≠ []) :
    (clean value).getD fallback ≠ [] := by
  cases hclean : clean value with
  | none => exact h
  | some text => exact clean_ne_nil hclean

theorem intEnv_natural (value : Option JsString) (fallback : ℕ) : (intEnv value fallback).toNat?.isSome := by
  have hfallback : (number fallback).toNat?.isSome := by rw [number, toNat?_real]; rfl
  unfold intEnv
  split
  · exact hfallback
  · split_ifs with hn
    · exact hn
    · exact hfallback

/-- **Every environment makes a usable configuration.** -/
theorem loadConfig_wellFormed (env : Environment) : (loadConfig env).WellFormed where
  texts := by
    have hne : ∀ {value fallback}, fallback ≠ [] → [] ≠ (clean value).getD fallback :=
      fun h => (clean_getD_ne_nil h).symm
    simp only [loadConfig, List.mem_cons, List.not_mem_nil, or_false, not_or]
    exact ⟨hne (by decide), hne (by decide), hne (by decide), hne (by decide), hne (by decide)⟩
  numbers := by
    simp only [loadConfig, List.forall_mem_cons, List.not_mem_nil, false_implies, implies_true, and_true]
    exact ⟨intEnv_natural _ _, intEnv_natural _ _, intEnv_natural _ _, intEnv_natural _ _⟩

end CasperProof.Agent
