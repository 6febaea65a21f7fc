/-
  The decisions of the agent runtime — `runtime.ts`.

  * `NoneBackend.decide`: the deterministic policy.
  * `OllamaBackend.decide`: the first tool call of the model's answer, which is
    any JSON data.
  * `Endpoint.Readable`: what the answer has to be for `decide` to resolve.
-/
import CasperProof.Lib.Fallible
import CasperProof.Lib.Js.ToString

namespace CasperProof.Agent.Runtime

open Js
open Json (lookup)

/-! ## The source -/

inductive AgentAction where
  | score
  | attest
  | verify
  | challenge
  | noop
deriving DecidableEq, Repr

structure AgentDecision where
  action : AgentAction
  address : Option JsString
  attestationId : Option JsNumber
  reason : JsString
deriving DecidableEq

/-- The context of a cycle, without the claim, which no backend reads. -/
structure RuntimeContext where
  address : Option JsString
  attestationId : Option JsNumber
  lastVerifyFailed : Option Bool

def NoneBackend.decide (ctx : RuntimeContext) : AgentDecision :=
  match ctx.attestationId with
  | some id =>
    if ctx.lastVerifyFailed = some true then
      ⟨.challenge, none, some id, lit "Verification failed (tampered payload); challenge the attestation."⟩
    else ⟨.verify, none, some id, lit "Attestation present; verify its payload against the on-chain hash."⟩
  | none =>
    match ctx.address with
    | some address =>
      ⟨.attest, some address, none, lit "Address present; score its risk and anchor the result on-chain."⟩
    | none => ⟨.noop, none, none, lit "No work to do this cycle."⟩

/-- What `decide` is rejected with. -/
inductive Rejection where
  /-- `response.json()` is rejected -/
  | body
  /-- a `TypeError` -/
  | typeError
  /-- a `SyntaxError` of `JSON.parse` -/
  | syntaxError
deriving DecidableEq, Repr

/-- `v?.[key]`, `none` for `undefined`; the keys are no inherited ones. -/
def property (key : JsString) : Option Value → Option Value
  | some (.obj ms) => lookup key ms
  | some (.arr xs) => (arrayIndex key).bind fun i => xs[i]?
  | some (.str s) => (arrayIndex key).bind fun i => s[i]?.map fun c => .str [c]
  | _ => none

/-- `args[key]`. -/
def argument (args : Value) (key : JsString) : Except Rejection (Option Value) :=
  if isNull args then .error .typeError else .ok (property key (some args))

def stringOf : Option Value → Option JsString
  | some (.str s) => some s
  | _ => none

def numberOf : Option Value → Option JsNumber
  | some (.num n) => some n
  | _ => none

def unknownTool (name : Value) : Except Rejection AgentDecision :=
  match valueText name with
  | some text => .ok ⟨.noop, none, none, lit "Ollama returned unknown tool " ++ text ++ lit "."⟩
  | none => .error .typeError

def decisionFromToolCall (name args : Value) : Except Rejection AgentDecision :=
  match name with
  | .str s =>
    if s = lit "score_and_attest" then do
      let address ← argument args (lit "address")
      .ok ⟨.attest, stringOf address, none, lit "Ollama chose score_and_attest."⟩
    else if s = lit "verify_attestation" then do
      let attestationId ← argument args (lit "attestationId")
      .ok ⟨.verify, none, numberOf attestationId, lit "Ollama chose verify_attestation."⟩
    else if s = lit "challenge_attestation" then do
      let attestationId ← argument args (lit "attestationId")
      .ok ⟨.challenge, none, numberOf attestationId, lit "Ollama chose challenge_attestation."⟩
    else unknownTool (.str s)
  | name => unknownTool name

/-- What the endpoint does; `json` is the parsed body, if it is JSON. -/
inductive Endpoint where
  | rejects
  | responds (ok : Bool) (status : ℕ) (json : Option Value)

def truthy : Option Value → Bool
  | none | some .null => false
  | some (.bool b) => b
  | some (.num n) => n ≠ .real 0 && n ≠ .negZero && n ≠ .nan
  | some (.str s) => s ≠ []
  | some (.arr _) | some (.obj _) => true

/-- `data.message?.tool_calls?.[0]?.function`. -/
def toolCall (data : Value) : Option Value :=
  property (lit "function") (property (lit "0") (property (lit "tool_calls") (property (lit "message") (some data))))

/-- `call?.name`. -/
def toolName (data : Value) : Option Value := property (lit "name") (toolCall data)

/-- `call.arguments`. -/
def toolArguments (data : Value) : Option Value := property (lit "arguments") (toolCall data)

/-- `typeof rawArgs === 'string' ? JSON.parse(rawArgs) : (rawArgs ?? {})`. -/
def parseArguments : Option Value → Except Rejection Value
  | some (.str s) =>
    match jsonParse s with
    | some v => .ok v
    | none => .error .syntaxError
  | none | some .null => .ok (.obj [])
  | some v => .ok v

def OllamaBackend.decide (ctx : RuntimeContext) : Endpoint → Except Rejection AgentDecision
  | .rejects => .ok (NoneBackend.decide ctx)
  | .responds false _ _ => .ok (NoneBackend.decide ctx)
  | .responds true _ none => .error .body
  | .responds true _ (some data) =>
    if isNull data then .error .typeError
    else
      match toolName data with
      | none => .ok (NoneBackend.decide ctx)
      | some name =>
        if truthy (some name) then do
          let args ← parseArguments (toolArguments data)
          decisionFromToolCall name args
        else .ok (NoneBackend.decide ctx)

/-! ## Tool calls -/

def toolNames : List JsString := [lit "score_and_attest", lit "verify_attestation", lit "challenge_attestation"]

/-- A call of a known tool, with arguments that can be read. -/
def Usable (name args : Value) : Prop := (∃ t ∈ toolNames, name = .str t) ∧ isNull args = false

/-- The model's answer has a usable tool call. -/
def Endpoint.HasUsableCall : Endpoint → Prop
  | .responds true _ (some data) =>
    ∃ name args, toolName data = some name ∧ parseArguments (toolArguments data) = .ok args ∧ Usable name args
  | _ => False

/-- A tool call that `decide` can deal with. -/
structure ReadableCall (name : Value) (rawArgs : Option Value) : Prop where
  /-- arguments given as a string are JSON, -/
  json : ∀ s, rawArgs = some (.str s) → ∃ v, jsonParse s = some v
  /-- and for a known tool not `null` -/
  notNull : (∃ t ∈ toolNames, name = .str t) → ∀ s, rawArgs = some (.str s) → jsonParse s ≠ some .null
  /-- the name has a text -/
  text : HasText name

/-- An answer that is no stumbling block: the body is JSON but not `null`, and
    the tool call, if there is one, can be dealt with. -/
def Endpoint.Readable : Endpoint → Prop
  | .rejects | .responds false _ _ => True
  | .responds true _ none => False
  | .responds true _ (some data) => isNull data = false ∧
    ∀ name, toolName data = some name → truthy (some name) → ReadableCall name (toolArguments data)

/-- `decide` resolves, and without a usable tool call to the deterministic
    decision or to `noop`. -/
def Resolves (ctx : RuntimeContext) (endpoint : Endpoint) : Prop :=
  ∃ d, OllamaBackend.decide ctx endpoint = .ok d ∧
    (¬ endpoint.HasUsableCall → d = NoneBackend.decide ctx ∨ d.action = .noop)

/-! ## Arguments -/

theorem isNull_iff {v : Value} : isNull v = true ↔ v = .null := by
  cases v <;> simp [isNull]

theorem argument_ok {args : Value} (h : isNull args = false) (key : JsString) :
    argument args key = .ok (property key (some args)) := by
  rw [argument, h]
  rfl

theorem argument_null {args : Value} (h : isNull args = true) (key : JsString) :
    argument args key = .error .typeError := if_pos h

/-- Arguments are read unless they are a string that is not JSON. -/
theorem parseArguments_ok (rawArgs : Option Value) : (∃ args, parseArguments rawArgs = .ok args) ↔
    ∀ s, rawArgs = some (.str s) → ∃ v, jsonParse s = some v := by
  cases rawArgs with
  | none => exact ⟨fun _ _ h => (nomatch h), fun _ => ⟨_, rfl⟩⟩
  | some v =>
    cases v with
    | str s =>
      constructor
      · rintro ⟨args, hargs⟩ _ ⟨⟩
        rw [parseArguments] at hargs
        cases hparse : jsonParse s with
        | none => rw [hparse] at hargs; cases hargs
        | some v => exact ⟨v, rfl⟩
      · intro h
        obtain ⟨v, hv⟩ := h s rfl
        exact ⟨v, by rw [parseArguments, hv]⟩
    | null | bool | num | arr | obj => exact ⟨fun _ _ h => (nomatch h), fun _ => ⟨_, rfl⟩⟩

/-- They are `null` only if they are the string of `null`. -/
theorem parseArguments_null {rawArgs : Option Value} : parseArguments rawArgs = .ok .null ↔
    ∃ s, rawArgs = some (.str s) ∧ jsonParse s = some .null := by
  constructor
  · intro h
    cases rawArgs with
    | none => cases h
    | some v =>
      cases v with
      | str s =>
        refine ⟨s, rfl, ?_⟩
        rw [parseArguments] at h
        cases hparse : jsonParse s with
        | none => rw [hparse] at h; cases h
        | some v => rw [hparse] at h; cases h; rfl
      | null | bool | num | arr | obj => cases h
  · rintro ⟨s, rfl, hs⟩
    rw [parseArguments, hs]

/-! ## From a tool call to a decision -/

variable {name args : Value}

theorem decisionFromToolCall_known {t : JsString} (ht : t ∈ toolNames) :
    (∃ d, decisionFromToolCall (.str t) args = .ok d) ↔ isNull args = false := by
  have hcases : t = lit "score_and_attest" ∨ t = lit "verify_attestation" ∨ t = lit "challenge_attestation" := by
    rcases List.mem_cons.1 ht with h | ht
    · exact .inl h
    rcases List.mem_cons.1 ht with h | ht
    · exact .inr (.inl h)
    · exact .inr (.inr (List.mem_singleton.1 ht))
  have hverify : lit "verify_attestation" ≠ lit "score_and_attest" := by decide
  have hchallenge : lit "challenge_attestation" ≠ lit "score_and_attest" := by decide
  have hchallenge' : lit "challenge_attestation" ≠ lit "verify_attestation" := by decide
  cases hnull : isNull args with
  | true =>
    refine ⟨?_, fun h => by cases h⟩
    rintro ⟨d, hd⟩
    rcases hcases with rfl | rfl | rfl <;>
      simp only [decisionFromToolCall, hverify, hchallenge, hchallenge', if_true, if_false,
        argument_null hnull, error_bind] at hd <;> cases hd
  | false =>
    refine ⟨fun _ => rfl, fun _ => ?_⟩
    rcases hcases with rfl | rfl | rfl <;>
      simp only [decisionFromToolCall, hverify, hchallenge, hchallenge', if_true, if_false,
        argument_ok hnull, ok_bind] <;> exact ⟨_, rfl⟩

theorem decisionFromToolCall_unknown (h : ∀ t ∈ toolNames, name ≠ .str t) :
    decisionFromToolCall name args = unknownTool name := by
  cases name with
  | str s =>
    have hne : ∀ t ∈ toolNames, s ≠ t := by
      rintro t ht rfl
      exact h s ht rfl
    simp only [toolNames, List.forall_mem_cons] at hne
    rw [decisionFromToolCall, if_neg hne.1, if_neg hne.2.1, if_neg hne.2.2.1]
  | null | bool | num | arr | obj => rfl

theorem unknownTool_ok : (∃ d, unknownTool name = .ok d) ↔ HasText name := by
  rw [← valueText_isSome, unknownTool]
  cases valueText name with
  | none => exact ⟨fun ⟨d, hd⟩ => (nomatch hd), fun ⟨t, ht⟩ => (nomatch ht)⟩
  | some t => exact ⟨fun _ => ⟨t, rfl⟩, fun _ => ⟨_, rfl⟩⟩

/-- An unknown tool is no action. -/
theorem unknownTool_noop {d : AgentDecision} (h : unknownTool name = .ok d) : d.action = .noop := by
  rw [unknownTool] at h
  cases htext : valueText name with
  | none => rw [htext] at h; cases h
  | some t => rw [htext] at h; cases h; rfl

/-! ## When `decide` resolves -/

/-- The arguments of a readable call of a known tool are not `null`. -/
theorem ReadableCall.args_ne_null {rawArgs : Option Value} (h : ReadableCall name rawArgs)
    (hknown : ∃ t ∈ toolNames, name = .str t) (hargs : parseArguments rawArgs = .ok args) : isNull args = false := by
  rw [Bool.eq_false_iff]
  intro hnull
  rw [isNull_iff.1 hnull] at hargs
  obtain ⟨s, hs, hparse⟩ := parseArguments_null.1 hargs
  exact h.notNull hknown s hs hparse

/-- Which tool calls make a decision. -/
theorem call_ok_iff (name : Value) (rawArgs : Option Value) :
    (∃ d, (parseArguments rawArgs >>= decisionFromToolCall name) = .ok d) ↔ ReadableCall name rawArgs := by
  constructor
  · rintro ⟨d, hd⟩
    obtain ⟨args, hargs, hd⟩ := bind_eq_ok.1 hd
    refine ⟨(parseArguments_ok rawArgs).1 ⟨args, hargs⟩, ?_, ?_⟩
    · rintro ⟨t, ht, rfl⟩ s hs hnull
      obtain rfl : args = .null := Except.ok.inj (hargs.symm.trans (parseArguments_null.2 ⟨s, hs, hnull⟩))
      have hfalse : isNull .null = false := (decisionFromToolCall_known ht).1 ⟨d, hd⟩
      cases hfalse
    · by_cases hknown : ∃ t ∈ toolNames, name = .str t
      · obtain ⟨t, -, rfl⟩ := hknown
        exact .str t
      · rw [decisionFromToolCall_unknown fun t ht h => hknown ⟨t, ht, h⟩] at hd
        exact unknownTool_ok.1 ⟨d, hd⟩
  · intro h
    obtain ⟨args, hargs⟩ := (parseArguments_ok rawArgs).2 h.json
    rw [hargs, ok_bind]
    by_cases hknown : ∃ t ∈ toolNames, name = .str t
    · have hnull := h.args_ne_null hknown hargs
      obtain ⟨t, ht, rfl⟩ := hknown
      exact (decisionFromToolCall_known ht).2 hnull
    · rw [decisionFromToolCall_unknown fun t ht h => hknown ⟨t, ht, h⟩]
      exact unknownTool_ok.2 h.text

/-- A decision that is not `noop` comes from a usable call. -/
theorem usable_or_noop {rawArgs : Option Value} {d : AgentDecision}
    (h : (parseArguments rawArgs >>= decisionFromToolCall name) = .ok d) :
    (∃ args, parseArguments rawArgs = .ok args ∧ Usable name args) ∨ d.action = .noop := by
  have hread := (call_ok_iff name rawArgs).1 ⟨d, h⟩
  obtain ⟨args, hargs, hd⟩ := bind_eq_ok.1 h
  by_cases hknown : ∃ t ∈ toolNames, name = .str t
  · exact .inl ⟨args, hargs, hknown, hread.args_ne_null hknown hargs⟩
  · rw [decisionFromToolCall_unknown fun t ht h => hknown ⟨t, ht, h⟩] at hd
    exact .inr (unknownTool_noop hd)

/-- Without a usable call in sight, the fallback is right. -/
theorem resolves_fallback {ctx : RuntimeContext} {endpoint : Endpoint}
    (h : OllamaBackend.decide ctx endpoint = .ok (NoneBackend.decide ctx)) : Resolves ctx endpoint :=
  ⟨_, h, fun _ => .inl rfl⟩

theorem decide_responds (ctx : RuntimeContext) (status : ℕ) {data : Value} (hnull : isNull data = false) :
    OllamaBackend.decide ctx (.responds true status (some data)) =
      match toolName data with
      | none => .ok (NoneBackend.decide ctx)
      | some name =>
        if truthy (some name) then parseArguments (toolArguments data) >>= decisionFromToolCall name
        else .ok (NoneBackend.decide ctx) := by
  rw [OllamaBackend.decide, if_neg (by rw [hnull]; exact Bool.noConfusion)]

/-- An answer with a tool call resolves if the call can be read. -/
theorem call_resolves_iff {ctx : RuntimeContext} {status : ℕ} {data : Value} (hname : toolName data = some name)
    (hdecide : OllamaBackend.decide ctx (.responds true status (some data)) =
      (parseArguments (toolArguments data) >>= decisionFromToolCall name)) :
    Resolves ctx (.responds true status (some data)) ↔ ReadableCall name (toolArguments data) := by
  constructor
  · rintro ⟨d, hd, -⟩
    exact (call_ok_iff name _).1 ⟨d, hdecide ▸ hd⟩
  · intro hread
    obtain ⟨d, hd⟩ := (call_ok_iff name _).2 hread
    refine ⟨d, hdecide.trans hd, fun hnone => .inr ?_⟩
    rcases usable_or_noop hd with ⟨args, hargs, husable⟩ | hnoop
    · exact absurd ⟨name, args, hname, hargs, husable⟩ hnone
    · exact hnoop

/-- **When `decide` resolves**: the answer is readable. -/
theorem decide_resolves_iff (ctx : RuntimeContext) (endpoint : Endpoint) :
    Resolves ctx endpoint ↔ endpoint.Readable := by
  cases endpoint with
  | rejects => exact ⟨fun _ => trivial, fun _ => resolves_fallback rfl⟩
  | responds ok status json =>
    cases ok with
    | false => exact ⟨fun _ => trivial, fun _ => resolves_fallback rfl⟩
    | true =>
      cases json with
      | none => exact ⟨fun ⟨d, hd, _⟩ => (nomatch hd), False.elim⟩
      | some data =>
        rw [Endpoint.Readable]
        cases hnull : isNull data with
        | true =>
          refine ⟨?_, fun h => absurd h.1 Bool.noConfusion⟩
          rintro ⟨d, hd, -⟩
          rw [OllamaBackend.decide, if_pos hnull] at hd
          cases hd
        | false =>
          have hdecide := decide_responds ctx status hnull
          cases hname : toolName data with
          | none =>
            rw [hname] at hdecide
            exact ⟨fun _ => ⟨rfl, fun _ h => (nomatch h)⟩, fun _ => resolves_fallback hdecide⟩
          | some name =>
            rw [hname] at hdecide
            by_cases htruthy : truthy (some name) = true
            · simp only [if_pos htruthy] at hdecide
              rw [call_resolves_iff hname hdecide]
              refine ⟨fun hread => ⟨rfl, ?_⟩, fun h => h.2 name rfl htruthy⟩
              rintro _ ⟨⟩ -
              exact hread
            · simp only [if_neg htruthy] at hdecide
              refine ⟨fun _ => ⟨rfl, ?_⟩, fun _ => resolves_fallback hdecide⟩
              rintro _ ⟨⟩ h
              exact absurd h htruthy

/-- The body `null` is JSON, and has no `message`. -/
theorem null_body_rejects : ¬ ∀ ctx endpoint, Resolves ctx endpoint := by
  intro h
  obtain ⟨d, hd, -⟩ := h ⟨some (lit "account-hash-1"), none, none⟩ (.responds true 200 (some .null))
  cases hd

end CasperProof.Agent.Runtime
