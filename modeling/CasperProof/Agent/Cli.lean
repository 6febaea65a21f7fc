/-
  The demo cycle — `cli.ts`.

  With the deterministic backend the outcome does not depend on anything but
  the stake and the bucket: `runCli_verifies`.
-/
import CasperProof.Agent.Loop

namespace CasperProof.Agent

open Js Json Commitment Sdk CasperProof.Agent.Runtime

variable {H : Type}

/-! ## The source -/

def demoAddress : JsString :=
  lit "account-hash-0000000000000000000000000000000000000000000000000000000000000abc"

/-- `{ ...env, LLM_BACKEND: env['LLM_BACKEND'] ?? 'none' }`. -/
def resolvedEnv (env : Environment) : Environment := fun key =>
  if key = lit "LLM_BACKEND" then some ((env key).getD (lit "none")) else env key

structure CliResult where
  attestationId : Option JsNumber
  verified : Option Bool
deriving DecidableEq

inductive CliError where
  | backend (e : BackendError)
  | cycle (e : RuntimeError)
  /-- a property of `null` -/
  | typeError

/-- `(result as { id: number }).id`, whatever the result is. -/
def attestationIdOf : CycleOutcome → Except CliError (Option JsNumber)
  | .nothing => .error .typeError
  | .attested r => .ok (some (number r.id))
  | .challenged r => .ok (r.id.map number)
  | .scored _ | .verified _ => .ok none

/-- `(result as { valid: boolean }).valid`. -/
def validOf : CycleOutcome → Except CliError (Option Bool)
  | .nothing => .error .typeError
  | .verified r => .ok (some r.valid)
  | .scored _ | .attested _ | .challenged _ => .ok none

/-- `runCli` over the mock backend and the in-memory store, which it does not
    get from `env`. -/
def runCli (blake2b256 : Blake2b) (bucket : JsString) (fetch : Bool) (argv : List JsString) (env : Environment)
    (m₁ m₂ : Surroundings H) : Op (AgentState H) CliError CliResult := do
  let config := loadConfig (resolvedEnv env)
  let backend ← Op.lift .backend (createBackend config fetch)
  let runtime : AgentRuntime := ⟨config, backend, bucket⟩
  let attestCycle ← Op.mapError .cycle (runtime.runOnce blake2b256 m₁ ⟨some (argv.headD demoAddress), none, none⟩)
  let attestationId ← Op.lift id (attestationIdOf attestCycle.result)
  let verifyCycle ← Op.mapError .cycle (runtime.runOnce blake2b256 m₂ ⟨none, attestationId, none⟩)
  let verified ← Op.lift id (validOf verifyCycle.result)
  pure ⟨attestationId, verified⟩

/-! ## Risk scores are attestable -/

section
variable {args : AttestArgs} {timestamp : JsNumber}

theorem canonicalBytes_accepts {v : Value} (h : Accepted v) : ∃ bytes, canonicalBytes v = .ok bytes :=
  ⟨_, canonicalBytes_ok.2 ⟨_, canonicalize_ok.2 ⟨h, rfl⟩, rfl⟩⟩

theorem attestPayload_accepted (hin : Accepted args.input) (hout : Accepted args.output)
    (htime : ∃ i, assertCanonicalNumber timestamp = .ok i) : Accepted (attestPayload args timestamp) := by
  unfold Accepted at hin hout ⊢
  simp [attestPayload, Every, hin, hout, htime]

theorem computeCommitment_accepts (blake2b256 : Blake2b) {input output : Value} (modelId : JsString)
    (hin : Accepted input) (hout : Accepted output) (htime : ∃ t, leU64 timestamp = .ok t) :
    ∃ hashes, computeCommitment blake2b256 ⟨input, output, modelId, timestamp⟩ = .ok hashes := by
  obtain ⟨i, hi⟩ := canonicalBytes_accepts hin
  obtain ⟨o, ho⟩ := canonicalBytes_accepts hout
  obtain ⟨t, ht⟩ := htime
  exact ⟨_, computeCommitment_digest.2 ⟨_, _, _, ⟨i, hi, rfl⟩, ⟨o, ho, rfl⟩, ⟨_, _, t, ⟨i, hi, rfl⟩, ⟨o, ho, rfl⟩, ht, rfl⟩,
    rfl⟩⟩

theorem number_leU64 {n : ℕ} (h : n ≤ maxSafeInteger) : ∃ t, leU64 (number n) = .ok t :=
  ⟨_, leU64_eq_ok.2 ⟨n, by simp [number, JsNumber.toInt?], h.trans_lt (by norm_num [maxSafeInteger]), rfl⟩⟩

variable (r : AgentRuntime) (blake2b256 : Blake2b) (address : JsString)

theorem score_canonical : ∃ i, assertCanonicalNumber (.real (r.scoreRisk blake2b256 address).score) = .ok i := by
  have hscore : 0 ≤ (r.scoreRisk blake2b256 address).score ∧ (r.scoreRisk blake2b256 address).score ≤ 100 := by
    rw [AgentRuntime.scoreRisk, score_eq]
    exact clamp100_mem _
  obtain ⟨n, hn⟩ := Int.eq_ofNat_of_zero_le hscore.1
  have hreal : (JsNumber.real (r.scoreRisk blake2b256 address).score) = number n := by rw [hn]; rfl
  rw [hreal, number_canonical]
  have hle : (n : ℤ) ≤ 100 := hn ▸ hscore.2
  exact (Int.ofNat_le.1 hle).trans (by norm_num [maxSafeInteger])

theorem attestArgs_accepted : Accepted (r.attestArgs blake2b256 address).input ∧
    Accepted (r.attestArgs blake2b256 address).output := by
  have hscore := score_canonical r blake2b256 address
  constructor
  · simp [AgentRuntime.attestArgs, Accepted, Every]
  · simp [AgentRuntime.attestArgs, Accepted, Every, hscore]

theorem attestArgs_distinct : (r.attestArgs blake2b256 address).input.Distinct ∧
    (r.attestArgs blake2b256 address).output.Distinct := by
  have hkeys : [lit "score", lit "tier", lit "decision"].Nodup := by decide
  constructor
  · simp [AgentRuntime.attestArgs, Json.Distinct, Every]
  · simpa [AgentRuntime.attestArgs, Json.Distinct, Every, EveryMember, keys] using hkeys

end

/-! ## Attesting and verifying -/

section
variable {env : MockEnv H} {bucket : JsString} {now : JsNumber} {args : AttestArgs} {config : AgentConfig}
  {result : AttestResult} {w w' : AgentState H}

/-- **`attest` vouches for what it attests.** -/
theorem attest_vouched (hin : args.input.Distinct) (hout : args.output.Distinct)
    (h : (attest env bucket now args config).Returns w result w') :
    ∃ a bytes, w'.1.attestations.get result.id = some a ∧
      Vouched env.blake2b256 bucket w'.2 a args (args.timestamp.getD now) bytes := by
  obtain ⟨bytes, hashes, hbytes, hcommit, hstored⟩ := attest_stored h
  obtain ⟨a, hget, hrecord⟩ := Option.map_eq_some_iff.1 hstored.recorded.kept
  obtain ⟨rfl, huri⟩ := Prod.mk.inj hrecord
  exact ⟨a, bytes, hget, hin, hout, hbytes, hcommit, huri, hstored.held⟩

/-- What `attest` gets through, and the id it gives. -/
theorem attest_passes (h : (attest env bucket now args config).Returns w result w') :
    result.id = w.1.nextAttestationId ∧
      ∃ stake, bigInt (args.stake.getD config.attestationStake) = some stake ∧ ¬ stake < mockMinStake := by
  simp only [attest, Op.bind_returns, Op.onFst_returns, Op.onSnd_returns, Op.pure_returns] at h
  obtain ⟨uri, w₁, ⟨-, hfst⟩, submit, w₂, ⟨hsubmit, -⟩, rfl, -⟩ := h
  obtain ⟨hashes, -, hid, -⟩ := submitAttestation_returns hsubmit
  obtain ⟨_, hpasses, -⟩ := submitAttestation_books hsubmit
  exact ⟨hid.trans (by rw [hfst]), hpasses.stake⟩

/-- **When `attest` succeeds**, if no handler is in the way. -/
theorem attest_succeeds (hhandlers : w.1.handlers = []) (hid : w.1.nextAttestationId ≤ maxSafeInteger) {stake : ℤ}
    (hstake : bigInt (args.stake.getD config.attestationStake) = some stake) (hmin : ¬ stake < mockMinStake)
    (hin : Accepted args.input) (hout : Accepted args.output)
    (hcanonical : ∃ i, assertCanonicalNumber (args.timestamp.getD now) = .ok i)
    (htime : ∃ t, leU64 (args.timestamp.getD now) = .ok t) :
    ∃ result w', (attest env bucket now args config).Returns w result w' := by
  obtain ⟨bytes, hbytes⟩ := canonicalBytes_accepts (attestPayload_accepted hin hout hcanonical)
  obtain ⟨hashes, hhashes⟩ := computeCommitment_accepts env.blake2b256 args.modelId hin hout htime
  have hput : (PayloadStore.put env.blake2b256 bucket (.json (attestPayload args (args.timestamp.getD now)))).Returns
      w.2 _ _ := PayloadStore.put_returns.2 ⟨bytes, toBytes_json.2 hbytes, rfl, rfl⟩
  obtain ⟨submit, e, hsubmit⟩ := @submitAttestation_accepts H w.1 (submissionArgs args config (args.timestamp.getD now)
    (PayloadStore.objectUri bucket (PayloadStore.contentKey env.blake2b256 bytes))) stake hashes env hhandlers hstake
    hmin hhashes hid
  exact ⟨_, _, (hput.onSnd w.1).bind (Op.bind_returns.2 ⟨submit, _, hsubmit.onFst _, Op.returns_pure⟩)⟩

end

/-! ## The demo -/

section
variable {r : AgentRuntime} {blake2b256 : Blake2b} {m : Surroundings H} {result : CycleResult} {w w' : AgentState H}

theorem runOnce_attests (hr : r.backend = .none) {address : JsString} :
    (r.runOnce blake2b256 m ⟨some address, none, none⟩).Returns w result w' ↔ ∃ attested,
      (attest (m.env blake2b256) r.bucket m.now (r.attestArgs blake2b256 address) r.config.toAgentConfig).Returns
        w attested w' ∧ ⟨NoneBackend.decide ⟨some address, none, none⟩, .attested attested⟩ = result := by
  have hdecide : r.backend.decide ⟨some address, none, none⟩ m.endpoint =
      .ok (NoneBackend.decide ⟨some address, none, none⟩) := by rw [hr, LlmBackend.decide]
  have hexecute : r.execute blake2b256 m (NoneBackend.decide ⟨some address, none, none⟩) ⟨some address, none, none⟩ =
      (Op.mapError .agent (attest (m.env blake2b256) r.bucket m.now (r.attestArgs blake2b256 address)
        r.config.toAgentConfig) >>= fun attested => pure (.attested attested)) := rfl
  rw [AgentRuntime.runOnce, hdecide]
  simp only [Op.bind_returns, Op.lift_returns, Op.pure_returns]
  constructor
  · rintro ⟨_, _, ⟨⟨⟩, rfl⟩, outcome, _, hrun, rfl, rfl⟩
    rw [hexecute] at hrun
    obtain ⟨attested, _, hattest, hpure⟩ := Op.bind_returns.1 hrun
    obtain ⟨rfl, rfl⟩ := Op.pure_returns.1 hpure
    exact ⟨attested, Op.mapError_returns.1 hattest, rfl⟩
  · rintro ⟨attested, hattest, rfl⟩
    refine ⟨_, _, ⟨rfl, rfl⟩, .attested attested, _, ?_, rfl, rfl⟩
    rw [hexecute]
    exact (Op.mapError_returns.2 hattest).bind Op.returns_pure

theorem runOnce_verifies (hr : r.backend = .none) {id : ℕ} :
    (r.runOnce blake2b256 m ⟨none, some (number id), none⟩).Returns w result w' ↔ ∃ v,
      (verify (m.env blake2b256) id).Returns w v w' ∧
        ⟨NoneBackend.decide ⟨none, some (number id), none⟩, .verified v⟩ = result := by
  have hdecide : r.backend.decide ⟨none, some (number id), none⟩ m.endpoint =
      .ok (NoneBackend.decide ⟨none, some (number id), none⟩) := by rw [hr, LlmBackend.decide]
  have hexecute : r.execute blake2b256 m (NoneBackend.decide ⟨none, some (number id), none⟩)
      ⟨none, some (number id), none⟩ =
      (Op.mapError .agent (verify (m.env blake2b256) id) >>= fun v => pure (.verified v)) := by
    have hid : (number id).toNat? = some id := toNat?_real id
    show (AgentRuntime.onAttestation (number id) (fun id => verify (m.env blake2b256) id) >>= fun v =>
      pure (CycleOutcome.verified v)) = _
    rw [AgentRuntime.onAttestation, hid]
  rw [AgentRuntime.runOnce, hdecide]
  simp only [Op.bind_returns, Op.lift_returns, Op.pure_returns]
  constructor
  · rintro ⟨_, _, ⟨⟨⟩, rfl⟩, outcome, _, hrun, rfl, rfl⟩
    rw [hexecute] at hrun
    obtain ⟨v, _, hverify, hpure⟩ := Op.bind_returns.1 hrun
    obtain ⟨rfl, rfl⟩ := Op.pure_returns.1 hpure
    exact ⟨v, Op.mapError_returns.1 hverify, rfl⟩
  · rintro ⟨v, hverify, rfl⟩
    refine ⟨_, _, ⟨rfl, rfl⟩, .verified v, _, ?_, rfl, rfl⟩
    rw [hexecute]
    exact (Op.mapError_returns.2 hverify).bind Op.returns_pure

end

section
variable {blake2b256 : Blake2b} {bucket : JsString} {fetch : Bool} {argv : List JsString} {env : Environment}
  {m₁ m₂ : Surroundings H} {result : CliResult} {w : AgentState H}

/-- The runtime of the demo. -/
def demoRuntime (env : Environment) (bucket : JsString) : AgentRuntime := ⟨loadConfig (resolvedEnv env), .none, bucket⟩

/-- What the demo does: it attests the risk of the address, and verifies it. -/
theorem runCli_returns (hbackend : (loadConfig (resolvedEnv env)).llmBackend = .none) :
    (runCli blake2b256 bucket fetch argv env m₁ m₂).Returns (.fresh, .empty) result w ↔ ∃ attested w₁ v,
      (attest (m₁.env blake2b256) bucket m₁.now ((demoRuntime env bucket).attestArgs blake2b256 (argv.headD demoAddress))
        (loadConfig (resolvedEnv env)).toAgentConfig).Returns (.fresh, .empty) attested w₁ ∧
      (verify (m₂.env blake2b256) attested.id).Returns w₁ v w ∧ ⟨some (number attested.id), some v.valid⟩ = result := by
  have hcreate : createBackend (loadConfig (resolvedEnv env)) fetch = .ok .none := by rw [createBackend, hbackend]
  simp only [runCli, Op.bind_returns, Op.lift_returns, Op.mapError_returns, Op.pure_returns, hcreate]
  constructor
  · rintro ⟨_, _, ⟨⟨⟩, rfl⟩, _, w₁, hfirst, _, _, ⟨hid, rfl⟩, _, w₂, hsecond, _, _, ⟨hvalid, rfl⟩, rfl, rfl⟩
    obtain ⟨attested, hattest, rfl⟩ := (runOnce_attests rfl).1 hfirst
    obtain rfl := Except.ok.inj hid
    obtain ⟨v, hverify, rfl⟩ := (runOnce_verifies rfl).1 hsecond
    obtain rfl := Except.ok.inj hvalid
    exact ⟨attested, _, v, hattest, hverify, rfl⟩
  · rintro ⟨attested, w₁, v, hattest, hverify, rfl⟩
    exact ⟨_, _, ⟨rfl, rfl⟩, _, w₁, (runOnce_attests rfl).2 ⟨attested, hattest, rfl⟩, _, _, ⟨rfl, rfl⟩, _, w,
      (runOnce_verifies rfl).2 ⟨v, hverify, rfl⟩, _, _, ⟨rfl, rfl⟩, rfl, rfl⟩

/-- The configured stake is enough. -/
def EnoughStake (env : Environment) : Prop :=
  ∃ stake, bigInt (loadConfig env).attestationStake = some stake ∧ ¬ stake < mockMinStake

theorem enoughStake_resolved : EnoughStake (resolvedEnv env) ↔ EnoughStake env := by
  have hkey : lit "ATTESTATION_STAKE" ≠ lit "LLM_BACKEND" := by decide
  have hstake : (loadConfig (resolvedEnv env)).attestationStake = (loadConfig env).attestationStake := by
    show (clean (resolvedEnv env (lit "ATTESTATION_STAKE"))).getD _ = _
    rw [resolvedEnv, if_neg hkey]
    rfl
  rw [EnoughStake, EnoughStake, hstake]

/-- What was attested is found valid, if its URI can be read. -/
theorem vouched_verify {a : Sdk.Attestation} {args : AttestArgs} {timestamp : JsNumber} {bytes : Bytes} {id : ℕ}
    {menv : MockEnv H} {w₁ : AgentState H} {v : VerifyResult} (hget : w₁.1.attestations.get id = some a)
    (h : Vouched menv.blake2b256 bucket w₁.2 a args timestamp bytes) (hverify : (verify menv id).Returns w₁ v w) :
    Addressable bucket ∧ v.valid = true := by
  obtain ⟨a', content, -, hget', hholds, -, -, -⟩ := verify_returns hverify
  obtain rfl := Option.some.inj (hget.symm.trans hget')
  rw [h.uri, holds_objectUri] at hholds
  obtain ⟨v', hverify', -, hvalid⟩ := h.verifies hget hholds.1
  obtain ⟨hv, -⟩ := Prod.mk.inj (hverify.symm.trans hverify')
  exact ⟨hholds.1, Except.ok.inj hv ▸ hvalid⟩

/-- **The demo.**  With the deterministic backend it never reports a failed
    verification: it reports attestation 1 and that it is valid, or it throws;
    and it throws only because of the stake or the bucket. -/
theorem runCli_verifies (hbackend : (loadConfig (resolvedEnv env)).llmBackend = .none) {now : ℕ}
    (hnow : now ≤ maxSafeInteger) (hm : m₁.now = number now) :
    (∀ result w, (runCli blake2b256 bucket fetch argv env m₁ m₂).Returns (.fresh, .empty) result w →
      result = ⟨some (number 1), some true⟩) ∧
    ((∃ result w, (runCli blake2b256 bucket fetch argv env m₁ m₂).Returns (.fresh, .empty) result w) ↔
      EnoughStake env ∧ Addressable bucket) := by
  obtain ⟨hin, hout⟩ := attestArgs_distinct (demoRuntime env bucket) blake2b256 (argv.headD demoAddress)
  refine ⟨?_, ?_, ?_⟩
  · intro result w hrun
    obtain ⟨attested, w₁, v, hattest, hverify, rfl⟩ := (runCli_returns hbackend).1 hrun
    obtain ⟨hid, -⟩ := attest_passes hattest
    obtain ⟨a, bytes, hget, hvouched⟩ := attest_vouched hin hout hattest
    obtain ⟨-, hvalid⟩ := vouched_verify hget hvouched hverify
    rw [hid, hvalid]
    rfl
  · rintro ⟨result, w, hrun⟩
    obtain ⟨attested, w₁, v, hattest, hverify, -⟩ := (runCli_returns hbackend).1 hrun
    obtain ⟨-, hstake⟩ := attest_passes hattest
    obtain ⟨a, bytes, hget, hvouched⟩ := attest_vouched hin hout hattest
    exact ⟨enoughStake_resolved.1 hstake, (vouched_verify hget hvouched hverify).1⟩
  · rintro ⟨hstake, hbucket⟩
    obtain ⟨stake, hstake, hmin⟩ := enoughStake_resolved.2 hstake
    obtain ⟨hin', hout'⟩ := attestArgs_accepted (demoRuntime env bucket) blake2b256 (argv.headD demoAddress)
    have hattest : ∃ attested w₁, (attest (m₁.env blake2b256) bucket m₁.now
        ((demoRuntime env bucket).attestArgs blake2b256 (argv.headD demoAddress))
        (loadConfig (resolvedEnv env)).toAgentConfig).Returns (.fresh, .empty) attested w₁ := by
      refine attest_succeeds rfl (show 1 ≤ maxSafeInteger by decide) hstake hmin hin' hout' ?_ ?_
      · show ∃ i, assertCanonicalNumber m₁.now = .ok i
        rw [hm]
        exact number_canonical.2 hnow
      · show ∃ t, leU64 m₁.now = .ok t
        rw [hm]
        exact number_leU64 hnow
    obtain ⟨attested, w₁, hattest⟩ := hattest
    obtain ⟨a, bytes, hget, hvouched⟩ := attest_vouched hin hout hattest
    have hvouched' : Vouched (m₂.env blake2b256).blake2b256 bucket w₁.2 a _ _ bytes := hvouched
    obtain ⟨v, hverify, -⟩ := hvouched'.verifies hget hbucket
    exact ⟨_, _, (runCli_returns hbackend).2 ⟨attested, w₁, v, hattest, hverify, rfl⟩⟩

end

/-- Nobody listens, and there is no endpoint. -/
def demoSurroundings : Surroundings Empty := ⟨number 1718600000, number 1718600000, fun h => h.elim, .rejects⟩

/-- Nothing is configured. -/
theorem runCli_verifies_demo : ∃ w : AgentState Empty,
    (runCli demoDigest (lit "casperproof-payloads") false [] (fun _ => none) demoSurroundings demoSurroundings).Returns
      (.fresh, .empty) ⟨some (number 1), some true⟩ w := by
  obtain ⟨honly, hiff⟩ := @runCli_verifies Empty demoDigest (lit "casperproof-payloads") false [] (fun _ => none)
    demoSurroundings demoSurroundings (by decide +kernel) 1718600000 (by decide) rfl
  have hstake : EnoughStake fun _ => none := ⟨2000000000, by decide +kernel, by decide⟩
  obtain ⟨result, w, hrun⟩ := hiff.2 ⟨hstake, by decide +kernel⟩
  exact ⟨w, honly result w hrun ▸ hrun⟩

end CasperProof.Agent
