/-
  The agent runtime — `AgentRuntime` of `runtime.ts`.

  The backend decides, `execute` acts.  Which action it is, and on what, may be
  up to a language model; what the action does is not.

  * `CycleEffect`: what a cycle does to the books; it is all that is known of
    the model's answer.
  * `runLoop_confined`: after any number of cycles, a record that was not there
    before is an attestation of the risk scorer's own result, and of the others
    some active ones are challenged; there is no more than one new record for
    each cycle.
-/
import CasperProof.Agent.Config
import CasperProof.Agent.Runtime
import CasperProof.Agent.Vouched

namespace CasperProof.Agent

open Js Commitment Sdk

variable {H : Type}

namespace Runtime

/-! ## The source -/

/-- A backend that could be built. -/
inductive LlmBackend where
  | none
  | ollama (host model : JsString)

inductive BackendError where
  | noFetch
  | paidBackendsDisabled
deriving DecidableEq, Repr

/-- `fetch` says whether there is a global or an injected `fetch`. -/
def createBackend (config : RuntimeConfig) (fetch : Bool) : Except BackendError LlmBackend :=
  match config.llmBackend with
  | .none => .ok .none
  | .ollama => if fetch then .ok (.ollama config.ollamaHost config.ollamaModel) else .error .noFetch
  | .openai | .anthropic => .error .paidBackendsDisabled

/-- `endpoint` is what the endpoint does if it is asked. -/
def LlmBackend.decide (ctx : RuntimeContext) (endpoint : Endpoint) : LlmBackend → Except Rejection AgentDecision
  | .none => .ok (NoneBackend.decide ctx)
  | .ollama _ _ => OllamaBackend.decide ctx endpoint

/-- A runtime over the mock backend and the in-memory store. -/
structure AgentRuntime where
  config : RuntimeConfig
  backend : LlmBackend
  bucket : JsString

/-- The result of an action. -/
inductive CycleOutcome where
  | nothing
  | scored (r : RiskScoreResult)
  | attested (r : AttestResult)
  | verified (r : VerifyResult)
  | challenged (r : DeployResult)

structure CycleResult where
  decision : AgentDecision
  result : CycleOutcome

inductive RuntimeError where
  | decide (e : Rejection)
  | agent (e : AgentError)
  /-- the SDK's error for an id that none of its maps has as a key -/
  | attestationNotFound (id : JsNumber)

abbrev RuntimeOp (H α : Type) := Op (AgentState H) RuntimeError α

/-- What a cycle meets: the time in seconds and the SDK's clock, the event
    handlers' behaviour, and the endpoint's. -/
structure Surroundings (H : Type) where
  now : JsNumber
  clock : JsNumber
  throws : H → CasperProofEvent → Bool
  endpoint : Endpoint

def Surroundings.env (blake2b256 : Blake2b) (m : Surroundings H) : MockEnv H := ⟨blake2b256, m.clock, m.throws⟩

def tierText : RiskTier → JsString
  | .low => lit "LOW"
  | .medium => lit "MEDIUM"
  | .high => lit "HIGH"
  | .extreme => lit "EXTREME"

def decisionText : RiskDecision → JsString
  | .allow => lit "allow"
  | .monitor => lit "monitor"
  | .restrict => lit "restrict"
  | .block => lit "block"

namespace AgentRuntime

section
variable (r : AgentRuntime) (blake2b256 : Blake2b) (m : Surroundings H)

/-- `scoreRisk(address, { config: this.config })`; its arithmetic is exact. -/
def scoreRisk (address : JsString) : RiskScoreResult :=
  Agent.scoreRisk blake2b256 r.config.thresholds address { config := some r.config.thresholds }

/-- What the runtime attests about an address. -/
def attestArgs (address : JsString) : AttestArgs :=
  let score := r.scoreRisk blake2b256 address
  { modelId := r.config.riskScorerModelId
    input := .obj [(lit "address", .str address)]
    output := .obj [(lit "score", .num (.real score.score)), (lit "tier", .str (tierText score.tier)),
      (lit "decision", .str (decisionText score.decision))] }

/-- An operation on the attestation with this id; the ids of attestations are integers. -/
def onAttestation {α : Type} (id : JsNumber) (x : ℕ → AgentOp H α) : RuntimeOp H α :=
  match id.toNat? with
  | some n => Op.mapError .agent (x n)
  | none => Op.throw (.attestationNotFound id)

def execute (decision : AgentDecision) (ctx : RuntimeContext) : RuntimeOp H CycleOutcome :=
  match decision.action with
  | .score =>
    match decision.address.or ctx.address with
    | none => pure .nothing
    | some address => pure (.scored (r.scoreRisk blake2b256 address))
  | .attest =>
    match decision.address.or ctx.address with
    | none => pure .nothing
    | some address => do
      let result ← Op.mapError .agent
        (attest (m.env blake2b256) r.bucket m.now (r.attestArgs blake2b256 address) r.config.toAgentConfig)
      pure (.attested result)
  | .verify =>
    match decision.attestationId.or ctx.attestationId with
    | none => pure .nothing
    | some id => do
      let result ← onAttestation id fun id => verify (m.env blake2b256) id
      pure (.verified result)
  | .challenge =>
    match decision.attestationId.or ctx.attestationId with
    | none => pure .nothing
    | some id => do
      let result ← onAttestation id fun id => Op.onFst .sdk (challenge (m.env blake2b256) id)
      pure (.challenged result)
  | .noop => pure .nothing

def runOnce (ctx : RuntimeContext) : RuntimeOp H CycleResult := do
  let decision ← Op.lift .decide (r.backend.decide ctx m.endpoint)
  let result ← r.execute blake2b256 m decision ctx
  pure ⟨decision, result⟩

end

/-- A cycle of `runLoop`: what it meets, the context that `next` gives, and
    whether `stop` is called before the cycle after it. -/
structure Cycle (H : Type) extends Surroundings H where
  ctx : RuntimeContext
  stop : Bool

/-- `runLoop` from the given number of cycles on, as far as the cycles are given. -/
def runLoop (r : AgentRuntime) (blake2b256 : Blake2b) (maxCycles : Option ℕ) :
    ℕ → List (Cycle H) → RuntimeOp H (List CycleResult)
  | _, [] => pure []
  | cycle, c :: cs =>
    if maxCycles.any (· ≤ cycle) then pure []
    else do
      let result ← r.runOnce blake2b256 c.toSurroundings c.ctx
      let results ← (if c.stop then pure [] else r.runLoop blake2b256 maxCycles (cycle + 1) cs)
      pure (result :: results)

end AgentRuntime

/-! ## What a cycle does -/

variable {r : AgentRuntime} {blake2b256 : Blake2b} {w w' w₀ : AgentState H}

/-- The attestation says what the risk scorer finds about some address. -/
structure RiskAttestation (r : AgentRuntime) (blake2b256 : Blake2b) (a : Sdk.Attestation) : Prop where
  attestor : a.attestor = mockAccount
  modelId : a.modelId = r.config.riskScorerModelId
  stake : a.stake = r.config.attestationStake
  payload : ∃ address bytes, canonicalBytes (attestPayload (r.attestArgs blake2b256 address) a.createdAt) = .ok bytes ∧
    a.uri = PayloadStore.objectUri r.bucket (PayloadStore.contentKey blake2b256 bytes) ∧
    computeCommitment blake2b256 ⟨(r.attestArgs blake2b256 address).input, (r.attestArgs blake2b256 address).output,
      r.config.riskScorerModelId, a.createdAt⟩ = .ok (hashesOf a)

/-- What a cycle does to the books. -/
inductive BooksEffect (r : AgentRuntime) (blake2b256 : Blake2b) (b : Books) : Books → Prop
  | none : BooksEffect r blake2b256 b b
  | attested {a : Sdk.Attestation} (hrisk : RiskAttestation r blake2b256 a) (hst : a.status = .active) :
    BooksEffect r blake2b256 b { b with
      attestations := b.attestations.set b.nextAttestationId a
      nextAttestationId := b.nextAttestationId + 1 }
  | challenged {id : ℕ} {a : Sdk.Attestation} (hget : b.attestations.get id = some a) (hst : a.status = .active) :
    BooksEffect r blake2b256 b { b with attestations := b.attestations.set id (challengedAttestation a) }

/-- What a cycle does to the store: it stores a payload of the risk scorer, or nothing. -/
inductive StoreEffect (r : AgentRuntime) (blake2b256 : Blake2b) (s : MemoryBackend) : MemoryBackend → Prop
  | none : StoreEffect r blake2b256 s s
  | stored {address : JsString} {timestamp : JsNumber} {bytes : Bytes}
    (hbytes : canonicalBytes (attestPayload (r.attestArgs blake2b256 address) timestamp) = .ok bytes) :
    StoreEffect r blake2b256 s (s.set (MemoryBackend.ref r.bucket (PayloadStore.contentKey blake2b256 bytes)) bytes)

structure CycleEffect (r : AgentRuntime) (blake2b256 : Blake2b) (w w' : AgentState H) : Prop where
  books : BooksEffect r blake2b256 w.1.books w'.1.books
  store : StoreEffect r blake2b256 w.2 w'.2

theorem CycleEffect.of_eq (hbooks : w'.1.books = w.1.books) (hstore : w'.2 = w.2) :
    CycleEffect r blake2b256 w w' := ⟨hbooks ▸ .none, hstore ▸ .none⟩

theorem CycleEffect.refl (w : AgentState H) : CycleEffect r blake2b256 w w := .of_eq rfl rfl

theorem attest_cycle (r : AgentRuntime) (blake2b256 : Blake2b) (m : Surroundings H) (address : JsString) :
    Op.Effects (CycleEffect r blake2b256) (attest (m.env blake2b256) r.bucket m.now
      (r.attestArgs blake2b256 address) r.config.toAgentConfig) := by
  intro w
  have heffect := attest_effect (m.env blake2b256) r.bucket m.now (r.attestArgs blake2b256 address)
    r.config.toAgentConfig w
  generalize (attest _ _ _ _ _ w).2 = w' at heffect ⊢
  rcases heffect with _ | ⟨hbytes, hbooks⟩ | ⟨hbytes, hpasses, hbooks⟩
  · exact .of_eq rfl rfl
  · exact ⟨hbooks ▸ .none, .stored hbytes⟩
  · refine ⟨?_, .stored hbytes⟩
    rw [hbooks]
    exact .attested ⟨rfl, rfl, rfl, address, _, hbytes, rfl, hpasses.hashes⟩ rfl

theorem challenge_cycle (m : Surroundings H) (id : ℕ) :
    Op.Effects (CycleEffect r blake2b256) (Op.onFst AgentError.sdk (challenge (m.env blake2b256) id)) := by
  refine fun w => ⟨?_, .none⟩
  show BooksEffect r blake2b256 w.1.books (challenge (m.env blake2b256) id w.1).2.books
  rcases challenge_effect (m.env blake2b256) id w.1 with hbooks | ⟨a, hget, hst, hbooks⟩
  · rw [hbooks]
    exact .none
  · rw [hbooks]
    exact .challenged hget hst

theorem onAttestation_effects {α : Type} {R : AgentState H → AgentState H → Prop} (hR : ∀ w, R w w) (id : JsNumber)
    {x : ℕ → AgentOp H α} (hx : ∀ n, Op.Effects R (x n)) : Op.Effects R (AgentRuntime.onAttestation id x) := by
  unfold AgentRuntime.onAttestation
  split
  · exact .mapError (hx _)
  · exact .throw hR _

theorem onAttestation_keeps {α : Type} (id : JsNumber) {x : ℕ → AgentOp H α}
    (hx : ∀ n, Op.Keeps (fun w => w) (x n)) : Op.Keeps (fun w => w) (AgentRuntime.onAttestation id x) := by
  unfold AgentRuntime.onAttestation
  split
  · exact .mapError (hx _)
  · exact .throw

/-- **A cycle's action**, whatever the decision is. -/
theorem execute_effects {R : AgentState H → AgentState H → Prop} (hR : ∀ w, R w w) (m : Surroundings H)
    (decision : AgentDecision) (ctx : RuntimeContext)
    (hattest : ∀ address, decision.action = .attest → decision.address.or ctx.address = some address →
      Op.Effects R (attest (m.env blake2b256) r.bucket m.now (r.attestArgs blake2b256 address) r.config.toAgentConfig))
    (hchallenge : ∀ id, Op.Effects R (Op.onFst AgentError.sdk (challenge (m.env blake2b256) id))) :
    Op.Effects R (r.execute blake2b256 m decision ctx) := by
  have hnothing : ∀ outcome, Op.Effects R (pure outcome : RuntimeOp H CycleOutcome) := .pure hR
  unfold AgentRuntime.execute
  cases haction : decision.action with
  | noop => exact hnothing _
  | score => cases decision.address.or ctx.address <;> exact hnothing _
  | attest =>
    cases haddress : decision.address.or ctx.address with
    | none => exact hnothing _
    | some address => exact (hattest address haction haddress).mapError.map _
  | verify =>
    cases decision.attestationId.or ctx.attestationId with
    | none => exact hnothing _
    | some id => exact (onAttestation_effects hR id fun n => .of_keeps hR (verify_keeps _ n)).map _
  | challenge =>
    cases decision.attestationId.or ctx.attestationId with
    | none => exact hnothing _
    | some id => exact (onAttestation_effects hR id hchallenge).map _

theorem runOnce_effects (m : Surroundings H) (ctx : RuntimeContext) :
    Op.Effects (CycleEffect r blake2b256) (r.runOnce blake2b256 m ctx) :=
  .lift_bind .refl fun decision _ => (execute_effects .refl m decision ctx
    (fun address _ _ => attest_cycle r blake2b256 m address) fun id => challenge_cycle m id).map _

/-! ## Runs -/

/-- The loop makes a run of its first cycles, one effect for each. -/
theorem runLoop_run (r : AgentRuntime) (blake2b256 : Blake2b) (maxCycles : Option ℕ) (cycle : ℕ)
    (cs : List (AgentRuntime.Cycle H)) (w : AgentState H) :
    ∃ n ≤ cs.length, (∀ m, maxCycles = some m → n ≤ m - cycle) ∧
      Run (fun w (_ : AgentRuntime.Cycle H) w' => CycleEffect r blake2b256 w w') w (cs.take n)
        (r.runLoop blake2b256 maxCycles cycle cs w).2 := by
  induction cs generalizing cycle w with
  | nil => exact ⟨0, le_rfl, fun _ _ => Nat.zero_le _, .nil⟩
  | cons c cs ih =>
    rw [AgentRuntime.runLoop]
    by_cases hmax : maxCycles.any (· ≤ cycle)
    · rw [if_pos hmax]
      exact ⟨0, Nat.zero_le _, fun _ _ => Nat.zero_le _, .nil⟩
    rw [if_neg hmax]
    have hmore : ∀ m, maxCycles = some m → 1 ≤ m - cycle := by
      rintro m rfl
      simp only [Option.any_some, decide_eq_true_eq] at hmax
      omega
    have hfirst : CycleEffect r blake2b256 w (r.runOnce blake2b256 c.toSurroundings c.ctx w).2 :=
      runOnce_effects c.toSurroundings c.ctx w
    cases hrun : r.runOnce blake2b256 c.toSurroundings c.ctx w with
    | mk result w₁ =>
      rw [hrun] at hfirst
      cases result with
      | error e =>
        rw [Op.bind_of_throws hrun]
        exact ⟨1, by simp, hmore, .single hfirst⟩
      | ok result =>
        rw [Op.bind_of_returns hrun, Op.bind_pure]
        cases hstop : c.stop with
        | true => exact ⟨1, by simp, hmore, .single hfirst⟩
        | false =>
          obtain ⟨n, hn, hle, hrest⟩ := ih (cycle + 1) w₁
          refine ⟨n + 1, Nat.succ_le_succ hn, ?_, .cons hfirst hrest⟩
          intro m hm
          have := hmore m hm
          have := hle m hm
          omega

/-- What `w` has that `w₀` has not is the runtime's own. -/
structure Confined (r : AgentRuntime) (blake2b256 : Blake2b) (w₀ w : AgentState H) : Prop where
  /-- a record is an old one, perhaps challenged by now, or a new risk attestation -/
  records : ∀ id a, w.1.attestations.get id = some a →
    (∃ a₀, w₀.1.attestations.get id = some a₀ ∧ (a = a₀ ∨ a₀.status = .active ∧ a = challengedAttestation a₀)) ∨
    w₀.1.nextAttestationId ≤ id ∧ RiskAttestation r blake2b256 a ∧ (a.status = .active ∨ a.status = .challenged)
  /-- no record is lost -/
  kept : ∀ id a₀, w₀.1.attestations.get id = some a₀ → (w.1.attestations.get id).isSome
  /-- policies, reputations and stakes are left alone -/
  others : (w.1.policies, w.1.nextPolicyId, w.1.reputations, w.1.stakedTotal) =
    (w₀.1.policies, w₀.1.nextPolicyId, w₀.1.reputations, w₀.1.stakedTotal)
  next : w₀.1.nextAttestationId ≤ w.1.nextAttestationId
  /-- an object is an old one, or a payload of the risk scorer under its digest -/
  objects : ∀ ref, w.2.get ref = w₀.2.get ref ∨ ∃ address timestamp bytes,
    canonicalBytes (attestPayload (r.attestArgs blake2b256 address) timestamp) = .ok bytes ∧
      ref = MemoryBackend.ref r.bucket (PayloadStore.contentKey blake2b256 bytes) ∧ w.2.get ref = some bytes

theorem Confined.refl (w : AgentState H) : Confined r blake2b256 w w where
  records _ a hget := .inl ⟨a, hget, .inl rfl⟩
  kept _ _ hget := Option.isSome_iff_exists.2 ⟨_, hget⟩
  others := rfl
  next := le_rfl
  objects _ := .inl rfl

/-- A challenge does not change what is attested. -/
theorem RiskAttestation.challenged {a : Sdk.Attestation} (h : RiskAttestation r blake2b256 a) :
    RiskAttestation r blake2b256 (challengedAttestation a) := ⟨h.attestor, h.modelId, h.stake, h.payload⟩

/-- The parts of the books. -/
theorem books_eq_iff {s : MockState H} {b : Books} : s.books = b ↔ s.attestations = b.attestations ∧
    s.nextAttestationId = b.nextAttestationId ∧
    (s.policies, s.nextPolicyId, s.reputations, s.stakedTotal) =
      (b.policies, b.nextPolicyId, b.reputations, b.stakedTotal) := by
  cases b
  simp only [MockState.books, Books.mk.injEq, Prod.mk.injEq]
  tauto

theorem Confined.step (hw : Confined r blake2b256 w₀ w) (h : CycleEffect r blake2b256 w w') :
    Confined r blake2b256 w₀ w' := by
  obtain ⟨hbooks, hstore⟩ := h
  have hobjects : ∀ ref, w'.2.get ref = w₀.2.get ref ∨ ∃ address timestamp bytes,
      canonicalBytes (attestPayload (r.attestArgs blake2b256 address) timestamp) = .ok bytes ∧
        ref = MemoryBackend.ref r.bucket (PayloadStore.contentKey blake2b256 bytes) ∧ w'.2.get ref = some bytes := by
    intro ref
    generalize w'.2 = s at hstore
    rcases hstore with _ | ⟨hbytes⟩
    · exact hw.objects ref
    · rw [Mapping.get_set]
      split_ifs with href
      · exact .inr ⟨_, _, _, hbytes, href, rfl⟩
      · exact hw.objects ref
  generalize hb : w'.1.books = b at hbooks
  obtain ⟨hattestations, hnext, hothers⟩ := books_eq_iff.1 hb
  rcases hbooks with _ | ⟨hrisk, hst⟩ | ⟨hget, hst⟩
  · exact ⟨hattestations ▸ hw.records, hattestations ▸ hw.kept, hothers.trans hw.others, hnext ▸ hw.next, hobjects⟩
  · refine ⟨?_, ?_, hothers.trans hw.others, hnext ▸ hw.next.trans (Nat.le_succ _), hobjects⟩
    · intro id a' hget
      rw [hattestations, Mapping.get_set] at hget
      split_ifs at hget with hid
      · cases hget
        exact .inr ⟨hid ▸ hw.next, hrisk, .inl hst⟩
      · exact hw.records id a' hget
    · intro id a₀ hget
      rw [hattestations, Mapping.get_set]
      split_ifs
      · rfl
      · exact hw.kept id a₀ hget
  · rename_i id a
    refine ⟨?_, ?_, hothers.trans hw.others, hnext ▸ hw.next, hobjects⟩
    · intro id' a' hget'
      rw [hattestations, Mapping.get_set] at hget'
      split_ifs at hget' with hid
      · cases hget'
        subst hid
        rcases hw.records _ a hget with ⟨a₀, hget₀, rfl | ⟨-, rfl⟩⟩ | ⟨hle, hrisk, -⟩
        · exact .inl ⟨a, hget₀, .inr ⟨hst, rfl⟩⟩
        · cases hst
        · exact .inr ⟨hle, hrisk.challenged, .inr rfl⟩
      · exact hw.records id' a' hget'
    · intro id' a₀ hget₀
      rw [hattestations, Mapping.get_set]
      split_ifs
      · rfl
      · exact hw.kept id' a₀ hget₀

/-- A cycle makes one record at most. -/
theorem CycleEffect.next_le (h : CycleEffect r blake2b256 w w') :
    w'.1.nextAttestationId ≤ w.1.nextAttestationId + 1 := by
  have hbooks := h.books
  generalize hb : w'.1.books = b at hbooks
  rw [(books_eq_iff.1 hb).2.1]
  rcases hbooks with _ | _ | _
  · exact Nat.le_succ _
  · exact le_rfl
  · exact Nat.le_succ _

/-- **The model is confined.**  Whatever the endpoint answers, and however the
    loop ends: what it changes is the runtime's own, and it makes one record for
    each of its cycles at most. -/
theorem runLoop_confined (r : AgentRuntime) (blake2b256 : Blake2b) (maxCycles : Option ℕ)
    (cs : List (AgentRuntime.Cycle H)) (w : AgentState H) :
    Confined r blake2b256 w (r.runLoop blake2b256 maxCycles 0 cs w).2 ∧
      (r.runLoop blake2b256 maxCycles 0 cs w).2.1.nextAttestationId ≤
        w.1.nextAttestationId + min cs.length (maxCycles.getD cs.length) := by
  obtain ⟨n, hn, hmax, hrun⟩ := runLoop_run r blake2b256 maxCycles 0 cs w
  constructor
  · exact hrun.inv (.refl w) fun _ _ _ hw h => hw.step h
  · have hle : ∀ {ls w'}, Run (fun w (_ : AgentRuntime.Cycle H) w' => CycleEffect r blake2b256 w w') w ls w' →
        w'.1.nextAttestationId ≤ w.1.nextAttestationId + ls.length := by
      intro ls w' h
      induction h with
      | nil => exact le_rfl
      | snoc _ hs ih =>
        have := hs.next_le
        rw [List.length_append, List.length_singleton]
        omega
    have hlen : (cs.take n).length ≤ min cs.length (maxCycles.getD cs.length) := by
      rw [List.length_take]
      cases maxCycles with
      | none => simp
      | some m =>
        have := hmax m rfl
        rw [Option.getD_some]
        omega
    exact (hle hrun).trans (Nat.add_le_add_left hlen _)

end Runtime

end CasperProof.Agent
