/-
  The tools of the MCP server — `tools.ts`.

  A call is validated by the schema of its tool, and its handler is guarded:
  what it throws becomes an error result.

  * `ToolCall.effect`: what a call does to the books and the store.
  * `failure_harmless`: in a run of calls, one that is answered with an error
    has changed no book but a policy that it found expired.
-/
import CasperProof.Agent.Lifecycle
import CasperProof.Sdk.Taxonomy

namespace CasperProof.Mcp

open Js Commitment Sdk Agent
open Json (lookup)

/-! ## The source -/

/-- The configuration and the store's bucket; the SDK and the objects are the state. -/
structure ToolContext where
  config : RuntimeConfig
  bucket : JsString

/-- What a handler throws; `syntaxError` is that of `JSON.parse`. -/
inductive ToolError where
  | agent (e : AgentError)
  | syntaxError

abbrev ToolOp (H α : Type) := Op (AgentState H) ToolError α

/-- The `structuredContent` of a result. -/
inductive ToolOutput where
  | attestation (a : Sdk.Attestation)
  | verdict (r : VerifyResult)
  | attested (r : AttestResult)
  | riskScore (r : RiskScoreResult)
  | policy (p : Policy)
  | claim (r : ClaimResult)
  | deployed (r : DeployResult)

/-- The `structuredContent` of an error result. -/
structure Failure where
  code : JsString
  status : Option ℕ
  message : JsString
  detail : Option (List (JsString × Value))

inductive ToolResult where
  | ok (structured : ToolOutput)
  | isError (f : Failure)

/-- The error, if it is a `CasperProofSdkError`. -/
def ToolError.typed : ToolError → Option CasperProofSdkError
  | .agent (.sdk e) => e.typed
  | .agent (.store _) | .agent (.commitment _) | .syntaxError => none

/-- `describe` gives the messages of the other errors. -/
def fail (describe : ToolError → JsString) (error : ToolError) : Failure :=
  match error.typed with
  | some e => ⟨e.code.text, some e.status, e.message, e.detail⟩
  | none => ⟨lit "INTERNAL_ERROR", none, describe error, none⟩

/-- Defaults to `{}`. -/
def parsePayload : Option Value → Except ToolError Value
  | none => .ok (.obj [])
  | some (.str s) =>
    match jsonParse s with
    | some v => .ok v
    | none => .error .syntaxError
  | some raw => .ok raw

/-! ### Schemas -/

/-- `z.number().int().nonnegative()`. -/
def readNatural : Option Value → Option ℕ
  | some (.num n) => n.toNat?
  | _ => none

/-- `z.string()`. -/
def readString : Option Value → Option JsString
  | some (.str s) => some s
  | _ => none

/-- `z.string().min(1)`. -/
def readText (v : Option Value) : Option JsString := (readString v).filter (· ≠ [])

/-- `.optional()`. -/
def readOptional {α : Type} (read : Option Value → Option α) : Option Value → Option (Option α)
  | none => some none
  | v => (read v).map some

def triggerEnum : List TriggerType := [.exploit, .oracleFailure, .agentError, .governanceAttack]

def readTrigger : Value → Option TriggerType
  | .str s => triggerEnum.find? fun t => s = t.text
  | _ => none

/-- `z.array(triggerEnum).min(1)`. -/
def readTriggers : Option Value → Option (List TriggerType)
  | some (.arr xs) => (xs.mapM readTrigger).filter (· ≠ [])
  | _ => none

/-! ### Tools -/

structure SubmitArgs where
  modelId : JsString
  input : Option Value
  output : Option Value
  stake : Option JsString
  timestamp : Option ℕ

/-- A tool with its arguments. -/
inductive ToolCall where
  | getAttestation (id : ℕ)
  | verify (id : ℕ)
  | submitAttestation (args : SubmitArgs)
  | getRiskScore (address : JsString)
  | buyPolicy (args : CreatePolicyArgs)
  | submitClaim (policyId attestationId : ℕ)
  | challenge (id : ℕ)

/-- The call of the tool with this name, if the arguments fit its schema. -/
def ToolCall.validate (name : JsString) : Option Value → Option ToolCall
  | some (.obj ms) =>
    let arg := fun key => lookup (lit key) ms
    if name = lit "get_attestation" then (readNatural (arg "id")).map .getAttestation
    else if name = lit "verify" then (readNatural (arg "id")).map .verify
    else if name = lit "submit_attestation" then do
      let modelId ← readText (arg "modelId")
      let stake ← readOptional readString (arg "stake")
      let timestamp ← readOptional readNatural (arg "timestamp")
      some (.submitAttestation ⟨modelId, arg "input", arg "output", stake, timestamp⟩)
    else if name = lit "get_risk_score" then (readText (arg "address")).map .getRiskScore
    else if name = lit "buy_policy" then do
      let coverage ← readText (arg "coverage")
      let premium ← readText (arg "premium")
      let triggerTypes ← readTriggers (arg "triggerTypes")
      let expiry ← readNatural (arg "expiry")
      let holder ← readOptional readString (arg "holder")
      some (.buyPolicy ⟨coverage, premium, triggerTypes, number expiry, holder⟩)
    else if name = lit "submit_claim" then do
      let policyId ← readNatural (arg "policyId")
      let attestationId ← readNatural (arg "attestationId")
      some (.submitClaim policyId attestationId)
    else if name = lit "challenge" then (readNatural (arg "id")).map .challenge
    else none
  | _ => none

section
variable {H : Type}

/-- An operation of the SDK. -/
def sdkOp {α : Type} (x : BackendOp H α) : ToolOp H α := Op.onFst (fun e => .agent (.sdk e)) x

/-- What `submit_attestation` attests. -/
def attestArgs (args : SubmitArgs) : Except ToolError AttestArgs := do
  let input ← parsePayload args.input
  let output ← parsePayload args.output
  pure {
    modelId := args.modelId
    input
    output
    stake := args.stake
    timestamp := args.timestamp.map number }

def ToolCall.handler (ctx : ToolContext) (env : MockEnv H) (now : JsNumber) : ToolCall → ToolOp H ToolOutput
  | .getAttestation id => do
    let attestation ← sdkOp (Sdk.getAttestation id)
    pure (.attestation attestation)
  | .verify id => do
    let result ← Op.mapError .agent (Agent.verify env id)
    pure (.verdict result)
  | .submitAttestation args => do
    let args ← Op.lift id (attestArgs args)
    let result ← Op.mapError .agent (attest env ctx.bucket now args ctx.config.toAgentConfig)
    pure (.attested result)
  | .getRiskScore address =>
    pure (.riskScore (scoreRisk env.blake2b256 ctx.config.thresholds address { config := some ctx.config.thresholds }))
  | .buyPolicy args => do
    let policy ← sdkOp (createPolicy args)
    pure (.policy policy)
  | .submitClaim policyId attestationId => do
    let result ← sdkOp (Sdk.submitClaim env policyId attestationId)
    pure (.claim result)
  | .challenge id => do
    let result ← sdkOp (Sdk.challenge env id)
    pure (.deployed result)

/-- `guard`, of what the body leads to. -/
def guarded (describe : ToolError → JsString) : Except ToolError ToolOutput → ToolResult
  | .ok structured => .ok structured
  | .error e => .isError (fail describe e)

/-- The handler, guarded. -/
def ToolCall.run (describe : ToolError → JsString) (ctx : ToolContext) (env : MockEnv H) (now : JsNumber)
    (call : ToolCall) : Op (AgentState H) Empty ToolResult := do
  let result ← Op.attempt (call.handler ctx env now)
  pure (guarded describe result)

/-- A call of a tool by its name; `none` is the library's answer to an unknown
    tool or to arguments that do not fit. -/
def callTool (describe : ToolError → JsString) (ctx : ToolContext) (env : MockEnv H) (now : JsNumber)
    (name : JsString) (arguments : Option Value) : Op (AgentState H) Empty (Option ToolResult) :=
  match ToolCall.validate name arguments with
  | none => pure none
  | some call => do
    let result ← call.run describe ctx env now
    pure (some result)

end

/-! ## What a call does -/

section
variable {H : Type} {env : MockEnv H}

/-- What a call does to the books. -/
inductive BooksEffect (b : Books) : Books → Prop
  | none : BooksEffect b b
  | attested (a : Sdk.Attestation) : BooksEffect b { b with
      attestations := b.attestations.set b.nextAttestationId a
      nextAttestationId := b.nextAttestationId + 1 }
  | challenged {id : ℕ} {a : Sdk.Attestation} (hget : b.attestations.get id = some a) :
    BooksEffect b { b with attestations := b.attestations.set id (challengedAttestation a) }
  | created (p : Policy) : BooksEffect b { b with
      policies := b.policies.set b.nextPolicyId p
      nextPolicyId := b.nextPolicyId + 1 }
  | claimed {id : ℕ} {p : Policy} (hget : b.policies.get id = some p) (status : PolicyStatus) :
    BooksEffect b { b with policies := b.policies.set id { p with status } }

theorem submitClaim_effect_books (env : MockEnv H) (policyId attestationId : ℕ) (s : MockState H) :
    BooksEffect s.books (submitClaim env policyId attestationId s).2.books := by
  by_cases hrefused : Refused env s policyId attestationId
  · obtain ⟨e, -, hthrows⟩ := submitClaim_refused hrefused
    rw [hthrows]
    exact .none
  · obtain ⟨policy, hget, hexp | ⟨hexp, attestation, hatt, hc⟩⟩ := not_refused hrefused
    · rw [submitClaim_expires hget hexp]
      exact .claimed hget .expired
    · rw [submitClaim_pays hget hexp hatt hc, announcement_books _]
      exact .claimed hget .claimed

theorem createPolicy_effect_books (args : CreatePolicyArgs) (s : MockState H) :
    BooksEffect s.books (createPolicy args s).2.books := .created _

theorem challenge_effect_books (env : MockEnv H) (id : ℕ) (s : MockState H) :
    BooksEffect s.books (challenge env id s).2.books := by
  rcases challenge_effect env id s with hbooks | ⟨a, hget, -, hbooks⟩
  · rw [hbooks]
    exact .none
  · rw [hbooks]
    exact .challenged hget

theorem attest_effect_books (env : MockEnv H) (bucket : JsString) (now : JsNumber) (args : AttestArgs)
    (config : AgentConfig) :
    Op.Effects (fun w w' => BooksEffect w.1.books w'.1.books) (attest env bucket now args config) := by
  intro w
  have heffect := attest_effect env bucket now args config w
  generalize (attest _ _ _ _ _ w).2 = w' at heffect ⊢
  rcases heffect with _ | ⟨-, hbooks⟩ | ⟨-, -, hbooks⟩
  · exact .none
  · rw [hbooks]
    exact .none
  · rw [hbooks]
    exact .attested _

theorem sdkOp_getAttestation_keeps (id : ℕ) :
    Op.Keeps (fun w => w) (sdkOp (Sdk.getAttestation id) : ToolOp H Sdk.Attestation) := getAttestation_keeps id

/-- **What a call does** is what `attest` and three operations of the SDK do. -/
theorem ToolCall.handler_effects {R : AgentState H → AgentState H → Prop} (hR : ∀ w, R w w) (ctx : ToolContext)
    (now : JsNumber) (call : ToolCall)
    (hattest : ∀ args a, call = .submitAttestation args → attestArgs args = .ok a →
      Op.Effects R (attest env ctx.bucket now a ctx.config.toAgentConfig))
    (hcreate : ∀ args, Op.Effects R (sdkOp (createPolicy args)))
    (hclaim : ∀ policyId attestationId, Op.Effects R (sdkOp (Sdk.submitClaim env policyId attestationId)))
    (hchallenge : ∀ id, Op.Effects R (sdkOp (Sdk.challenge env id))) : Op.Effects R (call.handler ctx env now) := by
  cases call with
  | getAttestation id => exact (Op.Effects.of_keeps hR (sdkOp_getAttestation_keeps id)).map _
  | verify id => exact (Op.Effects.of_keeps hR (verify_keeps env id)).mapError.map _
  | submitAttestation args => exact .lift_bind hR fun a hargs => (hattest args a rfl hargs).mapError.map _
  | getRiskScore address => exact .pure hR _
  | buyPolicy args => exact (hcreate args).map _
  | submitClaim policyId attestationId => exact (hclaim policyId attestationId).map _
  | challenge id => exact (hchallenge id).map _

theorem ToolCall.books_effect (ctx : ToolContext) (env : MockEnv H) (now : JsNumber) (call : ToolCall) :
    Op.Effects (fun w w' => BooksEffect w.1.books w'.1.books) (call.handler ctx env now) :=
  call.handler_effects (fun _ => .none) ctx now (fun _ a _ _ => attest_effect_books env ctx.bucket now a _)
    (fun args w => createPolicy_effect_books args w.1) (fun p id w => submitClaim_effect_books env p id w.1)
    fun id w => challenge_effect_books env id w.1

/-- The ids on record are below the counters, which are at most `n`. -/
structure InOrder (n : ℕ) (b : Books) : Prop where
  attestations : ∀ id, (b.attestations.get id).isSome → id < b.nextAttestationId
  policies : ∀ id, (b.policies.get id).isSome → id < b.nextPolicyId
  nextAttestationId : b.nextAttestationId ≤ n
  nextPolicyId : b.nextPolicyId ≤ n

/-- What is set in a mapping. -/
theorem isSome_set {A : Type} {f : Mapping ℕ A} {k id n n' : ℕ} {a : A} (hf : ∀ id, (f.get id).isSome → id < n)
    (hle : n ≤ n') (hk : k < n') (h : ((f.set k a).get id).isSome) : id < n' := by
  rw [Mapping.get_set] at h
  split_ifs at h with hid
  · rwa [hid]
  · exact (hf id h).trans_le hle

theorem InOrder.step {n : ℕ} {b b' : Books} (hb : InOrder n b) (h : BooksEffect b b') : InOrder (n + 1) b' := by
  obtain ⟨hatt, hpol, hnatt, hnpol⟩ := hb
  cases h with
  | none => exact ⟨hatt, hpol, hnatt.trans (Nat.le_succ _), hnpol.trans (Nat.le_succ _)⟩
  | attested a =>
    refine ⟨fun id => isSome_set hatt (Nat.le_succ _) (Nat.lt_succ_self _), hpol, Nat.succ_le_succ hnatt, ?_⟩
    exact hnpol.trans (Nat.le_succ _)
  | challenged hget =>
    refine ⟨fun id => isSome_set hatt le_rfl (hatt _ (Option.isSome_iff_exists.2 ⟨_, hget⟩)), hpol, ?_, ?_⟩
    · exact hnatt.trans (Nat.le_succ _)
    · exact hnpol.trans (Nat.le_succ _)
  | created p =>
    refine ⟨hatt, fun id => isSome_set hpol (Nat.le_succ _) (Nat.lt_succ_self _), ?_, Nat.succ_le_succ hnpol⟩
    exact hnatt.trans (Nat.le_succ _)
  | claimed hget status =>
    refine ⟨hatt, fun id => isSome_set hpol le_rfl (hpol _ (Option.isSome_iff_exists.2 ⟨_, hget⟩)), ?_, ?_⟩
    · exact hnatt.trans (Nat.le_succ _)
    · exact hnpol.trans (Nat.le_succ _)

end

/-! ## Failures -/

/-- What a call that failed has changed.  The SDK has no event handlers. -/
structure Failed (ctx : ToolContext) (env : MockEnv Empty) (now : JsNumber) (call : ToolCall) (e : ToolError)
    (w w' : AgentState Empty) : Prop where
  /-- no book, or a policy that it found expired -/
  books : w'.1.books = w.1.books ∨ ∃ policyId attestationId policy, call = .submitClaim policyId attestationId ∧
    w.1.policies.get policyId = some policy ∧ isExpired env policy ∧ e = .agent (.sdk (.policyExpired policyId)) ∧
    w'.1.books = (w.1.setPolicy policyId { policy with status := .expired }).books
  /-- no object, or the one that it was to attest -/
  store : w'.2 = w.2 ∨ ∃ args a bytes, call = .submitAttestation args ∧ attestArgs args = .ok a ∧
    canonicalBytes (attestPayload a (a.timestamp.getD now)) = .ok bytes ∧
    w'.2 = w.2.set (MemoryBackend.ref ctx.bucket (PayloadStore.contentKey env.blake2b256 bytes)) bytes

section
variable {env : MockEnv Empty} {w w' : AgentState Empty} {e : ToolError} {n : ℕ}

theorem quiet (env : MockEnv Empty) (s : MockState Empty) (event : CasperProofEvent) : Quiet env s event :=
  fun h => h.elim

theorem Failed.of_eq {ctx : ToolContext} {now : JsNumber} {call : ToolCall} (h : w' = w) :
    Failed ctx env now call e w w' := ⟨.inl (h ▸ rfl), .inl (h ▸ rfl)⟩

theorem submitClaim_failed {policyId attestationId : ℕ} {s s' : MockState Empty} {e : SdkError}
    (hs : InOrder n s.books) (hn : n ≤ maxSafeInteger) (h : (submitClaim env policyId attestationId).Throws s e s') :
    s' = s ∨ ∃ policy, s.policies.get policyId = some policy ∧ isExpired env policy ∧ e = .policyExpired policyId ∧
      s' = s.setPolicy policyId { policy with status := .expired } := by
  by_cases hrefused : Refused env s policyId attestationId
  · obtain ⟨e', -, hthrows⟩ := submitClaim_refused hrefused
    cases hthrows.symm.trans h
    exact .inl rfl
  · obtain ⟨policy, hget, hexp | ⟨hexp, attestation, hatt, hc⟩⟩ := not_refused hrefused
    · cases (submitClaim_expires hget hexp).symm.trans h
      exact .inr ⟨policy, hget, hexp, rfl, rfl⟩
    · -- a claim that is paid is announced, and nothing is in the way of that
      have hpolicy : policyId ≤ maxSafeInteger :=
        ((hs.policies _ (Option.isSome_iff_exists.2 ⟨_, hget⟩)).trans_le hs.nextPolicyId).le.trans hn
      have hid : attestationId ≤ maxSafeInteger :=
        ((hs.attestations _ (Option.isSome_iff_exists.2 ⟨_, hatt⟩)).trans_le hs.nextAttestationId).le.trans hn
      rw [Op.Throws, submitClaim_pays hget hexp hatt hc] at h
      exact absurd ⟨claim_canonical.2 ⟨hpolicy, hid⟩, quiet _ _ _⟩ (announcement_throws_iff.1 ⟨e, s', h⟩)

/-- **A call that fails is harmless.** -/
theorem ToolCall.failed (ctx : ToolContext) (now : JsNumber) (call : ToolCall) (hw : InOrder n w.1.books)
    (hn : n ≤ maxSafeInteger) (h : (call.handler ctx env now).Throws w e w') : Failed ctx env now call e w w' := by
  cases call with
  | getAttestation id => exact .of_eq (((sdkOp_getAttestation_keeps id).bind fun _ => .pure _).run h)
  | verify id => exact .of_eq (((verify_keeps env id).mapError.bind fun _ => .pure _).run h)
  | getRiskScore address => cases h
  | buyPolicy args => cases h
  | submitAttestation args =>
    rcases Op.bind_throws.1 h with hlift | ⟨a, w₁, hlift, hrest⟩
    · exact .of_eq (Op.lift_throws.1 hlift).2.symm
    obtain ⟨hargs, rfl⟩ := Op.lift_returns.1 hlift
    rcases Op.bind_throws.1 hrest with hmap | ⟨_, _, _, hpure⟩
    swap
    · cases hpure
    obtain ⟨e', hattest, -⟩ := Op.mapError_throws.1 hmap
    rcases attest_throws hattest with rfl | ⟨bytes, e'', hbytes, hsubmit, hstore⟩
    · exact .of_eq rfl
    · refine ⟨.inl ?_, .inr ⟨args, a, bytes, rfl, hargs, hbytes, hstore⟩⟩
      exact submitAttestation_harmless.2 (fun _ _ => ⟨hw.nextAttestationId.trans hn, quiet _ _ _⟩) _ _ hsubmit
  | submitClaim policyId attestationId =>
    rcases Op.bind_throws.1 h with hsdk | ⟨_, _, _, hpure⟩
    swap
    · cases hpure
    obtain ⟨⟨e', hclaim, rfl⟩, hstore⟩ := Op.onFst_throws.1 hsdk
    refine ⟨?_, .inl hstore.symm⟩
    rcases submitClaim_failed hw hn hclaim with hsame | ⟨policy, hget, hexp, rfl, hset⟩
    · exact .inl (by rw [hsame])
    · exact .inr ⟨policyId, attestationId, policy, rfl, hget, hexp, rfl, by rw [hset]⟩
  | challenge id =>
    rcases Op.bind_throws.1 h with hsdk | ⟨_, _, _, hpure⟩
    swap
    · cases hpure
    obtain ⟨⟨e', hchallenge, -⟩, hstore⟩ := Op.onFst_throws.1 hsdk
    refine ⟨.inl ?_, .inl hstore.symm⟩
    refine challenge_harmless.2 (fun a hget _ => ⟨?_, quiet _ _ _⟩) _ _ hchallenge
    exact ((hw.attestations id (Option.isSome_iff_exists.2 ⟨a, hget⟩)).trans_le hw.nextAttestationId).le.trans hn

end

/-! ## Runs -/

/-- A request of a client, and the clocks at it.  The arguments are what
    `JSON.parse` returned: no object has a member twice. -/
structure Request (H : Type) where
  env : MockEnv H
  now : JsNumber
  name : JsString
  arguments : Option Value
  distinct : ∀ v, arguments = some v → v.Distinct

def Request.serve {H : Type} (describe : ToolError → JsString) (ctx : ToolContext) (q : Request H) :
    Op (AgentState H) Empty (Option ToolResult) :=
  callTool describe ctx q.env q.now q.name q.arguments

def Step {H : Type} (describe : ToolError → JsString) (ctx : ToolContext) (w : AgentState H) (q : Request H)
    (w' : AgentState H) : Prop :=
  (q.serve describe ctx w).2 = w'

/-- The state of `createToolContext()` in mock mode. -/
def start {H : Type} : AgentState H := (.fresh, .empty)

section
variable {H : Type} {describe : ToolError → JsString} {ctx : ToolContext} {w w' : AgentState H}

/-- **A call of a tool** runs its handler. -/
theorem callTool_eq {env : MockEnv H} {now : JsNumber} {name : JsString} {arguments : Option Value} {call : ToolCall}
    (h : ToolCall.validate name arguments = some call) : callTool describe ctx env now name arguments w =
      (.ok (some (guarded describe (call.handler ctx env now w).1)), (call.handler ctx env now w).2) := by
  have hrun : call.run describe ctx env now w =
      (.ok (guarded describe (call.handler ctx env now w).1), (call.handler ctx env now w).2) := Op.bind_pure
  have hcall : callTool describe ctx env now name arguments =
      call.run describe ctx env now >>= fun result => pure (some result) := by rw [callTool, h]
  rw [hcall, Op.bind_pure, hrun]
  rfl

/-- A call that does not fit a tool changes nothing. -/
theorem callTool_none {env : MockEnv H} {now : JsNumber} {name : JsString} {arguments : Option Value}
    (h : ToolCall.validate name arguments = none) : callTool describe ctx env now name arguments w = (.ok none, w) := by
  rw [callTool, h]
  rfl

theorem Step.inOrder {n : ℕ} {q : Request H} (hw : InOrder n w.1.books) (h : Step describe ctx w q w') :
    InOrder (n + 1) w'.1.books := by
  subst h
  unfold Request.serve
  cases hcall : ToolCall.validate q.name q.arguments with
  | none =>
    rw [callTool_none hcall]
    exact hw.step .none
  | some call =>
    rw [callTool_eq hcall]
    exact hw.step (call.books_effect ctx q.env q.now w)

theorem run_inOrder {qs : List (Request H)} (h : Run (Step describe ctx) start qs w) :
    InOrder (qs.length + 1) w.1.books := by
  induction h with
  | nil =>
    have hnone : ∀ {A : Type} (id : ℕ), ((Mapping.empty : Mapping ℕ A).get id).isSome → id < 1 := by simp
    exact ⟨hnone, hnone, le_rfl, le_rfl⟩
  | snoc _ hs ih =>
    rw [List.length_append]
    exact hs.inOrder ih

end

/-- **Failures are harmless.**  A request that is answered with an error
    changes no book, but for a policy that a claim found expired, and stores
    nothing, but for the payload of an attestation that was refused. -/
theorem failure_harmless {describe : ToolError → JsString} {ctx : ToolContext} {qs : List (Request Empty)}
    {w w' : AgentState Empty} (h : Run (Step describe ctx) start qs w) (hlength : qs.length < maxSafeInteger)
    {q : Request Empty} {f : Failure} (hq : (q.serve describe ctx).Returns w (some (.isError f)) w') :
    ∃ call e, ToolCall.validate q.name q.arguments = some call ∧ f = fail describe e ∧
      Failed ctx q.env q.now call e w w' := by
  unfold Op.Returns Request.serve at hq
  cases hcall : ToolCall.validate q.name q.arguments with
  | none =>
    rw [callTool_none hcall] at hq
    cases hq
  | some call =>
    rw [callTool_eq hcall] at hq
    cases hrun : call.handler ctx q.env q.now w with
    | mk result w₁ =>
      rw [hrun] at hq
      cases result with
      | ok structured => cases hq
      | error e =>
        obtain ⟨hresult, rfl⟩ := Prod.mk.inj hq
        cases hresult
        exact ⟨call, e, rfl, rfl, call.failed ctx q.now (run_inOrder h) hlength hrun⟩

def demoContext : ToolContext := ⟨loadConfig fun _ => none, lit "casperproof-payloads"⟩

def demoArguments : Value :=
  .obj [(lit "modelId", .str (lit "casperproof-riskscorer-v1")), (lit "input", demoInput), (lit "output", demoOutput)]

theorem demoArguments_distinct (v : Value) (h : some demoArguments = some v) : v.Distinct := by
  cases h
  unfold Json.Distinct
  decide +kernel

/-- A client attests a payload. -/
def demoSubmission : Request Empty :=
  ⟨demoEnv, number 1718600000, lit "submit_attestation", some demoArguments, demoArguments_distinct⟩

/-- After that, a challenge of an attestation that is not on record. -/
theorem failure_harmless_demo : ∃ (w w' : AgentState Empty) (call : ToolCall) (e : ToolError),
    Run (Step (fun _ => []) demoContext) start [demoSubmission] w ∧ (w.1.attestations.get 1).isSome ∧
      ToolCall.validate (lit "challenge") (some (.obj [(lit "id", .num (number 7))])) = some call ∧
      Failed demoContext demoEnv (number 1718600001) call e w w' := by
  have hdistinct : ∀ v : Value, some (.obj [(lit "id", .num (number 7))]) = some v → v.Distinct := by
    rintro _ ⟨rfl⟩
    simp [Json.Distinct]
  have hcall : ToolCall.validate (lit "challenge") (some (.obj [(lit "id", .num (number 7))])) = some (.challenge 7) := by
    have hid : (number 7).toNat? = some 7 := toNat?_real 7
    simp [ToolCall.validate, lit_inj, lookup, readNatural, hid]
  have hrun : ∃ w, Run (Step (fun _ => []) demoContext) start [demoSubmission] w ∧
      (w.1.attestations.get 1).isSome ∧ (w.1.attestations.get 7).isNone :=
    ⟨_, .single rfl, by decide +kernel, by decide +kernel⟩
  obtain ⟨w, hrun, hstored, hnone⟩ := hrun
  have hthrows : ((ToolCall.challenge 7).handler demoContext demoEnv (number 1718600001)).Throws w
      (.agent (.sdk (.attestationNotFound 7))) w := by
    refine Op.Throws.bind (Op.onFst_throws.2 ⟨⟨_, Op.returns_get.bind_throws (Op.Throws.bind ?_), rfl⟩, rfl⟩)
    rw [Option.isNone_iff_eq_none.1 hnone]
    exact Op.throws_orFail rfl
  have hq : ((⟨demoEnv, number 1718600001, lit "challenge", _, hdistinct⟩ : Request Empty).serve (fun _ => [])
      demoContext).Returns w _ _ := callTool_eq hcall
  rw [hthrows] at hq
  obtain ⟨call, e, hvalid, -, hfailed⟩ := failure_harmless hrun (by decide) hq
  exact ⟨w, w, call, e, hrun, hstored, hvalid, hfailed⟩

/-! ## Sound records -/

section
variable {H : Type} {describe : ToolError → JsString} {ctx : ToolContext} {env : MockEnv H} {now : JsNumber}
  {blake2b256 : Blake2b} {bucket : JsString} {P : Set Bytes} {w w' : AgentState H}

/-- What is parsed has no object with a member twice. -/
theorem parsePayload_distinct {raw : Option Value} {v : Value} (hraw : ∀ v, raw = some v → v.Distinct)
    (h : parsePayload raw = .ok v) : v.Distinct := by
  unfold parsePayload at h
  split at h
  · cases h
    simp [Json.Distinct]
  · split at h
    · rename_i hparse
      cases h
      exact jsonParse_distinct hparse
    · cases h
  · cases h
    exact hraw _ rfl

/-- The arguments of `submit_attestation` are those of the request. -/
theorem validate_submit {name : JsString} {arguments : Option Value} {args : SubmitArgs}
    (h : ToolCall.validate name arguments = some (.submitAttestation args)) :
    ∃ ms, arguments = some (.obj ms) ∧ args.input = lookup (lit "input") ms ∧ args.output = lookup (lit "output") ms := by
  cases arguments with
  | none => cases h
  | some v =>
    cases v with
    | null | bool | num | str | arr => cases h
    | obj ms =>
      have hmap : ∀ {A : Type} {o : Option A} {f : A → ToolCall}, (∀ x, f x ≠ .submitAttestation args) →
          o.map f ≠ some (.submitAttestation args) := by
        intro A o f hf hmap
        obtain ⟨x, -, hx⟩ := Option.map_eq_some_iff.1 hmap
        exact hf x hx
      unfold ToolCall.validate at h
      simp only [Option.bind_eq_bind] at h
      split_ifs at h
      · exact absurd h (hmap (by simp))
      · exact absurd h (hmap (by simp))
      · simp only [Option.bind_eq_some_iff, Option.some.injEq, ToolCall.submitAttestation.injEq] at h
        obtain ⟨modelId, -, stake, -, timestamp, -, rfl⟩ := h
        exact ⟨ms, rfl, rfl, rfl⟩
      · exact absurd h (hmap (by simp))
      · simp [Option.bind_eq_some_iff] at h
      · simp [Option.bind_eq_some_iff] at h
      · exact absurd h (hmap (by simp))

/-- What is attested for a request has no object with a member twice. -/
theorem Request.attestArgs_distinct (q : Request H) {args : SubmitArgs} {a : AttestArgs}
    (hcall : ToolCall.validate q.name q.arguments = some (.submitAttestation args)) (h : attestArgs args = .ok a) :
    a.input.Distinct ∧ a.output.Distinct := by
  obtain ⟨ms, harguments, hinput, houtput⟩ := validate_submit hcall
  have hdistinct := q.distinct _ harguments
  simp only [attestArgs, bind_eq_ok, pure_eq_ok] at h
  obtain ⟨input, hin, output, hout, rfl⟩ := h
  exact ⟨parsePayload_distinct (fun v hv => hdistinct.lookup (hinput.symm.trans hv)) hin,
    parsePayload_distinct (fun v hv => hdistinct.lookup (houtput.symm.trans hv)) hout⟩

theorem handler_evolves (ctx : ToolContext) (env : MockEnv H) (now : JsNumber) (call : ToolCall) :
    Op.Effects (fun w w' => Evolves w.1.books w'.1.books) (call.handler ctx env now) := by
  classical
  refine call.handler_effects (fun _ => .refl _) ctx now (fun _ a _ _ => attest_evolves env ctx.bucket now a _) ?_ ?_ ?_
  · intro args w
    exact .of_same rfl rfl
  · intro policyId attestationId w
    have hclaim : Op.Effects (fun s s' => Evolves s.books s'.books) (MockOp.run env (.submitClaim policyId attestationId)) :=
      mockOp_evolves _
    exact hclaim.of_map w.1
  · exact fun id w => challenge_evolves id w.1

/-- The payload that a call stores. -/
def ToolCall.Writes (now : JsNumber) (bytes : Bytes) : ToolCall → Prop
  | .submitAttestation args => ∃ a, attestArgs args = .ok a ∧
    canonicalBytes (attestPayload a (a.timestamp.getD now)) = .ok bytes
  | _ => False

theorem handler_sound (hinj : Set.InjOn env.blake2b256 P) {call : ToolCall}
    (hP : ∀ bytes, call.Writes now bytes → bytes ∈ P)
    (hdistinct : ∀ args a, call = .submitAttestation args → attestArgs args = .ok a →
      a.input.Distinct ∧ a.output.Distinct) :
    Op.Preserves (Sound env.blake2b256 ctx.bucket P) (call.handler ctx env now) := by
  have hsdk : ∀ {α : Type} {x : BackendOp H α}, Op.Keeps records x →
      Op.Preserves (Sound env.blake2b256 ctx.bucket P) (sdkOp x) := fun hx w hw => hw.of_records (hx w.1) rfl
  show Op.Effects (fun w w' => Sound env.blake2b256 ctx.bucket P w → Sound env.blake2b256 ctx.bucket P w')
    (call.handler ctx env now)
  refine call.handler_effects (fun _ => id) ctx now ?_ ?_ ?_ ?_
  · intro args a hcall hargs
    obtain ⟨hin, hout⟩ := hdistinct args a hcall hargs
    refine attest_sound hinj now hin hout _ fun bytes hbytes => hP bytes ?_
    rw [hcall]
    exact ⟨a, hargs, hbytes⟩
  · exact fun args => hsdk fun _ => rfl
  · exact fun policyId attestationId => hsdk (submitClaim_records policyId attestationId)
  · exact fun id => hsdk (challenge_records id)

end

end CasperProof.Mcp
