/-
  Runs of the mock backend — its claims against those of the contract.

  * A step is one call at a time of the clock, which does not go back
    (`MockStep`); the event handlers it calls come after it.
  * Only `createPolicy` and `submitClaim` touch the policies (`MockOp.keeps`);
    `submitClaim_effect` says what a claim does to them.
  * `submitClaim` does not look at the statuses that `Insurance.claim` checks.
    A claim that meets both checks, where they matter, is `LikeContract`.
-/
import CasperProof.Contracts.Insurance
import CasperProof.Lib.Run
import CasperProof.Sdk.Expiry
import CasperProof.Sdk.MockDispute

namespace CasperProof.Sdk

open Js Commitment

/-- One call of the backend. -/
inductive MockOp (H : Type) where
  | submitAttestation (args : SubmitAttestationArgs)
  | getAttestation (id : ℕ)
  | attestationCount
  | attestorReputation (address : JsString)
  | challenge (id : ℕ)
  | resolve (id : ℕ) (fraudulent : Bool)
  | createPolicy (args : CreatePolicyArgs)
  | getPolicy (id : ℕ)
  | submitClaim (policyId attestationId : ℕ)
  | getRiskScore (address : JsString)
  | stake (amount : JsString)
  | unstake (amount : JsString)
  | subscribeEvents (handler : H)
  | unsubscribe (handler : H)

/-- What a call returns. -/
inductive MockResult where
  | submitted (r : SubmitAttestationResult)
  | attestation (a : Attestation)
  | count (n : ℕ)
  | reputation (r : Reputation)
  | deployed (r : DeployResult)
  | policy (p : Policy)
  | claim (r : ClaimResult)
  | riskScore (r : RiskScore)
  | none
deriving DecidableEq

variable {H : Type} {env : MockEnv H} {p id policyId attestationId : ℕ} {policy : Policy} {s s' : MockState H}

def MockOp.run [DecidableEq H] (env : MockEnv H) : MockOp H → BackendOp H MockResult
  | .submitAttestation args => do pure (.submitted (← Sdk.submitAttestation env args))
  | .getAttestation id => do pure (.attestation (← Sdk.getAttestation id))
  | .attestationCount => do pure (.count (← Sdk.attestationCount))
  | .attestorReputation address => do pure (.reputation (← Sdk.attestorReputation address))
  | .challenge id => do pure (.deployed (← Sdk.challenge env id))
  | .resolve id fraudulent => do pure (.deployed (← Sdk.resolve env id fraudulent))
  | .createPolicy args => do pure (.policy (← Sdk.createPolicy args))
  | .getPolicy id => do pure (.policy (← Sdk.getPolicy id))
  | .submitClaim policyId attestationId => do pure (.claim (← Sdk.submitClaim env policyId attestationId))
  | .getRiskScore address => do pure (.riskScore (← Sdk.getRiskScore env address))
  | .stake amount => do pure (.deployed (← Sdk.stake env amount))
  | .unstake amount => do pure (.deployed (← Sdk.unstake env amount))
  | .subscribeEvents handler => do
    Sdk.subscribeEvents env handler
    pure .none
  | .unsubscribe handler => do
    Sdk.unsubscribe handler
    pure .none

/-! ## Frames -/

/-- The records, the counters and the stake; neither handlers nor events. -/
structure Books where
  attestations : Mapping ℕ Attestation
  policies : Mapping ℕ Policy
  reputations : Mapping JsString RepCounters
  stakedTotal : ℤ
  nextAttestationId : ℕ
  nextPolicyId : ℕ

def MockState.books (s : MockState H) : Books :=
  ⟨s.attestations, s.policies, s.reputations, s.stakedTotal, s.nextAttestationId, s.nextPolicyId⟩

/-- The deploy counter is counted up, whether the hash is computed or not. -/
theorem deployHash_state (env : MockEnv H) (label : JsString) (payload : Value) (s : MockState H) :
    (deployHash env label payload s).2 = s.setDeployCounter (nextCount s.deployCounter) := by
  rw [deployHash, Op.bind_of_returns Op.returns_get, Op.bind_of_returns Op.returns_modify]
  have hrest : Op.Keeps id (do
      let count ← Op.lift (fun e => .commitment (.hash e)) (leU64 (number (nextCount s.deployCounter)))
      let text ← Op.lift (fun e => .commitment (.canonical e)) (canonicalize payload)
      pure (toHex (env.blake2b256 (concatBytes [textEncode label, count, textEncode text])).toList) :
        BackendOp H JsString) := .bind .lift fun _ => .bind .lift fun _ => .pure _
  exact hrest _

/-- The operations that call `emit`. -/
def MockOp.emits : MockOp H → Bool
  | .submitAttestation _ | .challenge _ | .resolve _ _ | .submitClaim _ _ => true
  | _ => false

/-- One write of an operation. -/
inductive MockOp.Writes : MockOp H → MockState H → MockState H → Prop
  | hash (op : MockOp H) (s : MockState H) : Writes op s (s.setDeployCounter (nextCount s.deployCounter))
  | event {op : MockOp H} (h : op.emits = true) (s : MockState H) (e : CasperProofEvent) : Writes op s (s.record e)
  | submission (args : SubmitAttestationArgs) (s : MockState H) (id : ℕ) (a : Attestation) :
    Writes (.submitAttestation args) s ((s.setNextAttestationId (id + 1)).setAttestation id a)
  | challenge (id : ℕ) (s : MockState H) (a : Attestation) : Writes (.challenge id) s (s.setAttestation id a)
  | rep (id : ℕ) (fraudulent : Bool) (s : MockState H) (address : JsString) (counters : RepCounters) :
    Writes (.resolve id fraudulent) s (s.setReputation address counters)
  | resolve (id : ℕ) (fraudulent : Bool) (s : MockState H) (a : Attestation) (address : JsString)
    (counters : RepCounters) :
    Writes (.resolve id fraudulent) s ((s.setAttestation id a).setReputation address counters)
  | create (args : CreatePolicyArgs) (s : MockState H) (id : ℕ) (policy : Policy) :
    Writes (.createPolicy args) s ((s.setNextPolicyId (id + 1)).setPolicy id policy)
  | claim (policyId attestationId : ℕ) (s : MockState H) (policy : Policy) :
    Writes (.submitClaim policyId attestationId) s (s.setPolicy policyId policy)
  | stake (amount : JsString) (s : MockState H) (n : ℤ) : Writes (.stake amount) s (s.setStakedTotal n)
  | unstake (amount : JsString) (s : MockState H) (n : ℤ) : Writes (.unstake amount) s (s.setStakedTotal n)
  | subscribe (handler : H) (s : MockState H) (handlers : List H) :
    Writes (.subscribeEvents handler) s (s.setHandlers handlers)
  | unsubscribe (handler : H) (s : MockState H) (handlers : List H) :
    Writes (.unsubscribe handler) s (s.setHandlers handlers)

section
variable {P : MockState H → Prop} {label : JsString} {payload : Value} {event : CasperProofEvent}

theorem deployHash_preserves (h : ∀ s, P s → P (s.setDeployCounter (nextCount s.deployCounter))) :
    Op.Preserves P (deployHash env label payload) := by
  intro s hs
  rw [deployHash_state]
  exact h s hs

theorem emit_preserves (h : ∀ s, P s → P (s.record event)) : Op.Preserves P (emit env event) :=
  .bind (.modify h) fun _ => .bind .get fun _ => .failIf

theorem rep_preserves {address : JsString} (h : ∀ s, P s → P (s.setReputation address {})) :
    Op.Preserves P (Sdk.rep address) := by
  refine .bind .get fun s => ?_
  split
  · exact .pure _
  · exact .bind (.modify h) fun _ => .pure _

/-- **Frame.**  An operation preserves what each of its writes preserves. -/
theorem MockOp.preserves [DecidableEq H] (op : MockOp H) (h : ∀ s s', op.Writes s s' → P s → P s') :
    Op.Preserves P (op.run env) := by
  have hhash : ∀ {label : JsString} {payload : Value}, Op.Preserves P (deployHash env label payload) :=
    deployHash_preserves fun s => h _ _ (.hash op s)
  have hemit : op.emits = true → ∀ {event : CasperProofEvent}, Op.Preserves P (emit env event) :=
    fun hop => emit_preserves fun s => h _ _ (.event hop s _)
  cases op with
  | submitAttestation args =>
    refine .bind (.bind .orFail fun _ => .bind .failIf fun _ => .bind .lift fun _ => .bind .get fun _ => ?_) fun _ =>
      .pure _
    refine .bind (.modify fun s => h _ _ (.submission args s _ _)) fun _ => .bind hhash fun _ => ?_
    exact .bind (hemit rfl) fun _ => .pure _
  | challenge id =>
    refine .bind (.bind .get fun _ => .bind .orFail fun _ => .bind .failIf fun _ => .bind .failIf fun _ => ?_) fun _ =>
      .pure _
    refine .bind (.modify fun s => h _ _ (.challenge id s _)) fun _ => .bind hhash fun _ => ?_
    exact .bind (hemit rfl) fun _ => .pure _
  | resolve id fraudulent =>
    have hrep : ∀ address, Op.Preserves P (Sdk.rep address) :=
      fun _ => rep_preserves fun s => h _ _ (.rep id fraudulent s _ _)
    refine .bind (.bind .get fun _ => .bind .orFail fun _ => .bind .failIf fun _ => .bind (hrep _) fun _ => ?_) fun _ =>
      .pure _
    refine .bind (.modify fun s => h _ _ (.resolve id fraudulent s _ _ _)) fun _ => .bind hhash fun _ => ?_
    exact .bind (hemit rfl) fun _ => .pure _
  | createPolicy args =>
    refine .bind (.bind .get fun _ => ?_) fun _ => .pure _
    exact .bind (.modify fun s => h _ _ (.create args s _ _)) fun _ => .pure _
  | submitClaim policyId attestationId =>
    refine .bind (.bind .get fun _ => .bind .orFail fun _ => ?_) fun _ => .pure _
    split
    · exact .bind (.modify fun s => h _ _ (.claim policyId attestationId s _)) fun _ => .throw
    · refine .bind .orFail fun _ => ?_
      split
      · exact .throw
      · refine .bind .failIf fun _ => .bind (.modify fun s => h _ _ (.claim policyId attestationId s _)) fun _ => ?_
        exact .bind hhash fun _ => .bind (hemit rfl) fun _ => .pure _
  | stake amount =>
    refine .bind (.bind .orFail fun _ => ?_) fun _ => .pure _
    exact .bind (.modify fun s => h _ _ (.stake amount s _)) fun _ => .bind hhash fun _ => .pure _
  | unstake amount =>
    refine .bind (.bind .orFail fun _ => .bind .get fun _ => .bind .failIf fun _ => ?_) fun _ => .pure _
    exact .bind (.modify fun s => h _ _ (.unstake amount s _)) fun _ => .bind hhash fun _ => .pure _
  | subscribeEvents handler =>
    refine .bind (.bind .get fun _ => .bind .failIf fun _ => ?_) fun _ => .pure _
    exact .modify fun s => h _ _ (.subscribe handler s _)
  | unsubscribe handler => exact .bind (.modify fun s => h _ _ (.unsubscribe handler s _)) fun _ => .pure _
  | getAttestation _ | getPolicy _ => exact .bind (.bind .get fun _ => .orFail) fun _ => .pure _
  | attestationCount | attestorReputation _ => exact .bind (.bind .get fun _ => .pure _) fun _ => .pure _
  | getRiskScore _ => exact .bind (.pure _) fun _ => .pure _

end

/-- An operation leaves a view alone if each of its writes does. -/
theorem MockOp.keeps_of_writes {α : Type} {f : MockState H → α} [DecidableEq H] (op : MockOp H)
    (h : ∀ s s', op.Writes s s' → f s' = f s) : Op.Keeps f (op.run env) :=
  .of_preserves fun _ => op.preserves fun s s' hs hf => (h s s' hs).trans hf

theorem announcement_books {α : Type} {label : JsString} {payload : Value} {event : CasperProofEvent}
    {f : JsString → α} : Op.Keeps MockState.books (announcement env label payload event f) := by
  refine .of_preserves fun _ => .bind (deployHash_preserves fun _ hs => hs) fun _ => ?_
  exact .bind (emit_preserves fun _ hs => hs) fun _ => .pure _

/-- The operations that write no books. -/
def MockOp.reads : MockOp H → Bool
  | .getAttestation _ | .attestationCount | .attestorReputation _ | .getPolicy _ | .getRiskScore _
  | .subscribeEvents _ | .unsubscribe _ => true
  | _ => false

theorem MockOp.reads_books [DecidableEq H] {op : MockOp H} (h : op.reads = true) :
    Op.Keeps MockState.books (op.run env) := by
  refine op.keeps_of_writes fun s s' hw => ?_
  cases hw with
  | hash | event | subscribe | unsubscribe => rfl
  | submission | challenge | rep | resolve | create | claim | stake | unstake => cases h

/-- The policies and their counter. -/
def MockState.insurance (s : MockState H) : Mapping ℕ Policy × ℕ := (s.policies, s.nextPolicyId)

/-- **Frame.**  Only `createPolicy` and `submitClaim` touch the policies. -/
theorem MockOp.keeps [DecidableEq H] (op : MockOp H) (hcreate : ∀ args, op ≠ .createPolicy args)
    (hclaim : ∀ policyId attestationId, op ≠ .submitClaim policyId attestationId) :
    Op.Keeps MockState.insurance (op.run env) := by
  refine op.keeps_of_writes fun s s' hw => ?_
  cases hw with
  | create args => exact absurd rfl (hcreate args)
  | claim policyId attestationId => exact absurd rfl (hclaim policyId attestationId)
  | hash | event | submission | challenge | rep | resolve | stake | unstake | subscribe | unsubscribe => rfl

/-! ## What a claim does -/

/-- The attestation carries one of the policy's triggers. -/
def Covers (policy : Policy) (attestation : Attestation) : Prop :=
  ∃ trigger ∈ policy.triggerTypes, triggerFromOutput attestation = some trigger

/-- The errors of the deploy hash and of the event handlers. -/
def SdkError.afterwards : SdkError → Bool
  | .commitment _ | .handler => true
  | _ => false

/-- A claim with this result was paid; what comes after the payment may throw. -/
def wasPaid {α : Type} : Except SdkError α → Bool
  | .ok _ => true
  | .error e => e.afterwards

theorem wasPaid_map {α β : Type} {f : α → β} {r : Except SdkError α} : wasPaid (r.map f) = wasPaid r := by
  cases r <;> rfl

/-- The policy cannot be claimed for the attestation, and is not past its expiry. -/
def Refused (env : MockEnv H) (s : MockState H) (policyId attestationId : ℕ) : Prop :=
  ∀ policy, s.policies.get policyId = some policy → ¬ isExpired env policy ∧
    ∀ attestation, s.attestations.get attestationId = some attestation → ¬ Covers policy attestation

/-- What `submitClaim` does to the policies. -/
inductive ClaimEffect (env : MockEnv H) (s s' : MockState H) (policyId attestationId : ℕ)
    (r : Except SdkError ClaimResult) : Prop
  | refused : wasPaid r = false → Refused env s policyId attestationId → s'.insurance = s.insurance →
    ClaimEffect env s s' policyId attestationId r
  | expired {policy : Policy} : wasPaid r = false → s.policies.get policyId = some policy → isExpired env policy →
    s'.insurance = (s.setPolicy policyId { policy with status := .expired }).insurance →
      ClaimEffect env s s' policyId attestationId r
  | paid {policy : Policy} {attestation : Attestation} : wasPaid r = true → s.policies.get policyId = some policy →
    ¬ isExpired env policy → s.attestations.get attestationId = some attestation → Covers policy attestation →
    s'.insurance = (s.setPolicy policyId { policy with status := .claimed }).insurance →
      ClaimEffect env s s' policyId attestationId r

/-- Whatever an announcement throws comes afterwards. -/
theorem announcement_paid {label : JsString} {payload : Value} {event : CasperProofEvent} {f : JsString → ClaimResult}
    {r : Except SdkError ClaimResult} (h : announcement env label payload event f s = (r, s')) :
    wasPaid r = true := by
  cases r with
  | ok _ => rfl
  | error e =>
    rcases Op.bind_throws.1 h with h | ⟨_, _, -, h⟩
    · obtain ⟨c, rfl⟩ := deployHash_throws h
      rfl
    · rcases Op.bind_throws.1 h with h | ⟨_, _, -, h⟩
      · rw [emit_throws h]
        rfl
      · cases Op.pure_throws h

section
variable {attestation : Attestation}

/-- A refused claim changes nothing. -/
theorem submitClaim_refused (h : Refused env s p id) :
    ∃ e, e.afterwards = false ∧ (submitClaim env p id).Throws s e s := by
  unfold Op.Throws
  rw [submitClaim, Op.bind_of_returns Op.returns_get]
  cases hget : s.policies.get p with
  | none => exact ⟨.policyNotFound p, rfl, rfl⟩
  | some policy =>
    obtain ⟨hexp, hno⟩ := h policy hget
    rw [Op.bind_of_returns (Op.returns_orFail rfl), if_neg hexp]
    cases hatt : s.attestations.get id with
    | none => exact ⟨.attestationNotFound id, rfl, rfl⟩
    | some attestation =>
      rw [Op.bind_of_returns (Op.returns_orFail rfl)]
      cases htrigger : triggerFromOutput attestation with
      | none => exact ⟨.triggerNotCovered p (lit "unknown"), rfl, rfl⟩
      | some trigger =>
        have huncovered : trigger ∉ policy.triggerTypes := by
          intro hmem
          exact hno attestation hatt ⟨trigger, hmem, htrigger⟩
        exact ⟨.triggerNotCovered p trigger.text, rfl, Op.bind_of_throws (Op.throws_failIf huncovered)⟩

/-- A claim of an expired policy marks it. -/
theorem submitClaim_expires (hget : s.policies.get p = some policy) (hexp : isExpired env policy) :
    (submitClaim env p id).Throws s (.policyExpired p) (s.setPolicy p { policy with status := .expired }) := by
  refine Op.returns_get.bind_throws ((Op.returns_orFail hget).bind_throws ?_)
  rw [if_pos hexp]
  exact Op.returns_modify.bind_throws (Op.throw_throws.2 ⟨rfl, rfl⟩)

/-- Any other claim is paid, and announced. -/
theorem submitClaim_pays (hget : s.policies.get p = some policy) (hexp : ¬ isExpired env policy)
    (hatt : s.attestations.get id = some attestation) (hc : Covers policy attestation) :
    submitClaim env p id s = announcement env (lit "claim")
      (.obj [(lit "policyId", .num (number p)), (lit "attestationId", .num (number id))])
      ⟨.claimPaid, p, env.now,
        .obj [(lit "attestationId", .num (number id)), (lit "amount", .str policy.coverage)]⟩
      (fun hash => ⟨hash, p, id, true, policy.coverage⟩) (s.setPolicy p { policy with status := .claimed }) := by
  obtain ⟨trigger, hmem, htrigger⟩ := hc
  rw [submitClaim, Op.bind_of_returns Op.returns_get, Op.bind_of_returns (Op.returns_orFail hget), if_neg hexp,
    Op.bind_of_returns (Op.returns_orFail hatt)]
  simp only [htrigger]
  rw [Op.bind_of_returns (Op.returns_failIf (not_not.2 hmem)), Op.bind_of_returns Op.returns_modify]
  rfl

theorem not_refused (h : ¬ Refused env s p id) : ∃ policy, s.policies.get p = some policy ∧
    (isExpired env policy ∨ ¬ isExpired env policy ∧ ∃ attestation, s.attestations.get id = some attestation ∧
      Covers policy attestation) := by
  unfold Refused at h
  push Not at h
  obtain ⟨policy, hget, hcase⟩ := h
  refine ⟨policy, hget, ?_⟩
  by_cases hexp : isExpired env policy
  · exact .inl hexp
  · exact .inr ⟨hexp, hcase hexp⟩

end

theorem submitClaim_effect {r : Except SdkError ClaimResult}
    (h : submitClaim env policyId attestationId s = (r, s')) : ClaimEffect env s s' policyId attestationId r := by
  by_cases hrefused : Refused env s policyId attestationId
  · obtain ⟨e, hbefore, hthrows⟩ := submitClaim_refused hrefused
    cases h.symm.trans hthrows
    exact .refused hbefore hrefused rfl
  · obtain ⟨policy, hget, hexp | ⟨hexp, attestation, hatt, hc⟩⟩ := not_refused hrefused
    · cases h.symm.trans (submitClaim_expires hget hexp)
      exact .expired rfl hget hexp rfl
    · rw [submitClaim_pays hget hexp hatt hc] at h
      exact .paid (announcement_paid h) hget hexp hatt hc
        ((announcement_books.comp fun b => (b.policies, b.nextPolicyId)).run h)

/-! ## Steps -/

/-- The backend, and the last time its clock showed. -/
structure Clocked (H : Type) where
  mock : MockState H
  clock : JsNumber

/-- `new MockBackend(now)`. -/
def Clocked.fresh : Clocked H := ⟨.fresh, .negInf⟩

/-- One call, the time at it, and what came of it. -/
structure MockCall (H : Type) where
  now : JsNumber
  op : MockOp H
  result : Except SdkError MockResult

def MockEnv.at (env : MockEnv H) (now : JsNumber) : MockEnv H := { env with now }

/-- The call is a claim of the policy, and it was paid. -/
def MockCall.pays (p : ℕ) (c : MockCall H) : Bool :=
  match c.op with
  | .submitClaim policyId _ => policyId = p && wasPaid c.result
  | _ => false

/-- One call at a time that is not before the last. -/
structure MockStep [DecidableEq H] (env : MockEnv H) (w : Clocked H) (c : MockCall H) (w' : Clocked H) : Prop where
  forward : numberLe w.clock c.now
  run : c.op.run (env.at c.now) w.mock = (c.result, w'.mock)
  clock : w'.clock = c.now

variable {w w' : Clocked H} {c : MockCall H} {cs : List (MockCall H)}

/-- What a call does to the policies. -/
inductive PolicyEffect (env : MockEnv H) (s s' : MockState H) (c : MockCall H) : Prop
  | quiet : (∀ p, c.pays p = false) → (∀ p id, c.op = .submitClaim p id → Refused env s p id) →
    s'.insurance = s.insurance → PolicyEffect env s s' c
  | created {args : CreatePolicyArgs} : c.op = .createPolicy args → (∀ p, c.pays p = false) →
    s'.insurance = ((s.setNextPolicyId (s.nextPolicyId + 1)).setPolicy s.nextPolicyId
      (newPolicy args s.nextPolicyId)).insurance → PolicyEffect env s s' c
  | expired {p id : ℕ} {policy : Policy} : c.op = .submitClaim p id → (∀ p, c.pays p = false) →
    s.policies.get p = some policy → isExpired env policy →
    s'.insurance = (s.setPolicy p { policy with status := .expired }).insurance →
      PolicyEffect env s s' c
  | paid {p id : ℕ} {policy : Policy} {attestation : Attestation} : c.op = .submitClaim p id →
    (∀ p', c.pays p' = decide (p = p')) → s.policies.get p = some policy → ¬ isExpired env policy →
    s.attestations.get id = some attestation → Covers policy attestation →
    s'.insurance = (s.setPolicy p { policy with status := .claimed }).insurance →
      PolicyEffect env s s' c

theorem MockStep.effect [DecidableEq H] (h : MockStep env w c w') : PolicyEffect (env.at c.now) w.mock w'.mock c := by
  obtain ⟨now, op, result⟩ := c
  obtain ⟨-, hrun, -⟩ := h
  by_cases hcreate : ∃ args, op = .createPolicy args
  · obtain ⟨args, rfl⟩ := hcreate
    exact .created rfl (fun _ => rfl) (congrArg (fun r => r.2.insurance) hrun).symm
  · by_cases hclaim : ∃ p id, op = .submitClaim p id
    · obtain ⟨p, id, rfl⟩ := hclaim
      simp only [MockOp.run, Op.bind_pure, Prod.mk.injEq] at hrun
      generalize hr : submitClaim (env.at now) p id w.mock = r at hrun
      obtain ⟨r, s'⟩ := r
      obtain ⟨rfl, rfl⟩ := hrun
      have hquiet : wasPaid r = false →
          ∀ p', MockCall.pays (H := H) p' ⟨now, .submitClaim p id, r.map .claim⟩ = false := by
        intro hunpaid p'
        simp [MockCall.pays, wasPaid_map, hunpaid]
      rcases submitClaim_effect hr with ⟨hunpaid, hrefused, hi⟩ | ⟨hunpaid, hget, hexp, hi⟩ |
        ⟨hpaid, hget, hexp, hatt, hc, hi⟩
      · refine .quiet (hquiet hunpaid) (fun p' id' hop => ?_) hi
        cases hop
        exact hrefused
      · exact .expired rfl (hquiet hunpaid) hget hexp hi
      · refine .paid rfl (fun p' => ?_) hget hexp hatt hc hi
        simp [MockCall.pays, wasPaid_map, hpaid]
    · push Not at hcreate hclaim
      refine .quiet (fun p => ?_) (fun p id hop => absurd hop (hclaim p id)) ((op.keeps hcreate hclaim).run hrun)
      unfold MockCall.pays
      split
      · rename_i policyId id hop
        exact absurd hop (hclaim policyId id)
      · rfl

/-! ## Claims along a run -/

/-- The policy is stored as claimed. -/
def MockState.claimed (s : MockState H) (p : ℕ) : Bool := (s.policies.get p).any fun policy => policy.status = .claimed

/-- No policy is stored from `nextPolicyId` on. -/
def MockState.Fresh (s : MockState H) : Prop := ∀ p, s.nextPolicyId ≤ p → s.policies.get p = none

theorem MockState.claimed_congr (h : s'.insurance = s.insurance) (p : ℕ) : s'.claimed p = s.claimed p := by
  have hp : s'.policies = s.policies := congrArg Prod.fst h
  rw [claimed, claimed, hp]

theorem MockState.claimed_of_get (hget : s.policies.get p = some policy) :
    s.claimed p = decide (policy.status = .claimed) := by
  rw [claimed, hget, Option.any_some]

theorem MockState.claimed_setPolicy (p p' : ℕ) (policy : Policy) :
    (s.setPolicy p policy).claimed p' = if p' = p then decide (policy.status = .claimed) else s.claimed p' := by
  rw [claimed, setPolicy_policies, Mapping.get_set]
  split <;> rfl

theorem MockState.Fresh.congr (hs : s.Fresh) (h : s'.insurance = s.insurance) : s'.Fresh := by
  obtain ⟨hp, hn⟩ := Prod.ext_iff.1 h
  intro p hle
  rw [show s'.policies = s.policies from hp]
  have hn' : s'.nextPolicyId = s.nextPolicyId := hn
  exact hs p (by omega)

/-- An id below `nextPolicyId` may be overwritten. -/
theorem MockState.Fresh.setPolicy (hs : s.Fresh) {p : ℕ} (policy : Policy) (hp : p < s.nextPolicyId) :
    (s.setPolicy p policy).Fresh := by
  intro p' hle
  rw [setPolicy_policies, Mapping.get_set_ne _ _ (by simp only [setPolicy_nextPolicyId] at hle; omega)]
  exact hs p' hle

theorem MockState.Fresh.lt (hs : s.Fresh) (hget : s.policies.get p = some policy) : p < s.nextPolicyId := by
  by_contra hle
  cases hget.symm.trans (hs p (not_lt.1 hle))

theorem PolicyEffect.fresh (hs : s.Fresh) (h : PolicyEffect env s s' c) : s'.Fresh := by
  rcases h with ⟨-, -, hi⟩ | ⟨-, -, hi⟩ | ⟨-, -, hget, -, hi⟩ | ⟨-, -, hget, -, -, -, hi⟩
  · exact hs.congr hi
  · have hnext : (s.setNextPolicyId (s.nextPolicyId + 1)).Fresh := fun p hle => hs p (by
      simp only [MockState.setNextPolicyId_nextPolicyId] at hle
      omega)
    exact (hnext.setPolicy _ (Nat.lt_succ_self _)).congr hi
  · exact (hs.setPolicy _ (hs.lt hget)).congr hi
  · exact (hs.setPolicy _ (hs.lt hget)).congr hi

/-- Storing a policy claims at most that one. -/
theorem MockState.claimed_of_setPolicy {p' : ℕ} (h : (s.setPolicy p policy).claimed p') :
    s.claimed p' ∨ p' = p ∧ policy.status = .claimed := by
  rw [claimed_setPolicy] at h
  split_ifs at h with hp
  · exact .inr ⟨hp, of_decide_eq_true h⟩
  · exact .inl h

/-- A policy becomes claimed by being paid only. -/
theorem PolicyEffect.paid_of_claimed (h : PolicyEffect env s s' c) (hclaimed : s'.claimed p) :
    s.claimed p ∨ c.pays p := by
  rcases h with ⟨-, -, hi⟩ | ⟨-, -, hi⟩ | ⟨-, -, -, -, hi⟩ | ⟨-, hpays, -, -, -, -, hi⟩ <;>
    rw [MockState.claimed_congr hi] at hclaimed
  · exact .inl hclaimed
  · rcases MockState.claimed_of_setPolicy hclaimed with hold | ⟨-, hst⟩
    · exact .inl hold
    · cases hst
  · rcases MockState.claimed_of_setPolicy hclaimed with hold | ⟨-, hst⟩
    · exact .inl hold
    · cases hst
  · rcases MockState.claimed_of_setPolicy hclaimed with hold | ⟨rfl, -⟩
    · exact .inl hold
    · rw [hpays]
      exact .inr (decide_eq_true rfl)

/-- If a claim leaves a claimed policy claimed, the policy is not expired. -/
theorem PolicyEffect.not_expired {id : ℕ} (h : PolicyEffect env s s' c) (hop : c.op = .submitClaim p id)
    (hget : s.policies.get p = some policy) (hclaimed : s'.claimed p) : ¬ isExpired env policy := by
  rcases h with ⟨-, hrefused, -⟩ | ⟨hop', -, -⟩ | ⟨hop', -, -, -, hi⟩ | ⟨hop', -, hget', hexp, -, -, -⟩
  · exact (hrefused p id hop policy hget).1
  · cases hop.symm.trans hop'
  · cases hop.symm.trans hop'
    rw [MockState.claimed_congr hi, MockState.claimed_setPolicy, if_pos rfl] at hclaimed
    cases hclaimed
  · cases hop.symm.trans hop'
    cases hget.symm.trans hget'
    exact hexp

/-- A claim that covers a policy that is not expired is paid. -/
theorem PolicyEffect.pays_of_covers {id : ℕ} (h : PolicyEffect env s s' c) (hop : c.op = .submitClaim p id)
    (hget : s.policies.get p = some policy) (hexp : ¬ isExpired env policy) {attestation : Attestation}
    (hatt : s.attestations.get id = some attestation) (hc : Covers policy attestation) : c.pays p := by
  rcases h with ⟨-, hrefused, -⟩ | ⟨hop', -, -⟩ | ⟨hop', -, hget', hexp', -⟩ | ⟨hop', hpays, -⟩
  · exact absurd hc ((hrefused p id hop policy hget).2 attestation hatt)
  · cases hop.symm.trans hop'
  · cases hop.symm.trans hop'
    cases hget.symm.trans hget'
    exact absurd hexp' hexp
  · cases hop.symm.trans hop'
    simp [hpays]

/-- The call meets the two checks of `Insurance.claim` that `submitClaim` lacks:
    a claimed policy is not claimed again after its expiry; and a policy that
    the attestation would be paid for is not claimed, and the attestation is
    active or finalized. -/
def MockCall.LikeContract (env : MockEnv H) (s : MockState H) (c : MockCall H) : Prop :=
  ∀ p id policy, c.op = .submitClaim p id → s.policies.get p = some policy →
    (policy.status = .claimed → ¬ isExpired (env.at c.now) policy) ∧
    ∀ attestation, s.attestations.get id = some attestation → Covers policy attestation →
      ¬ isExpired (env.at c.now) policy → policy.status ≠ .claimed ∧ Insurance.backs attestation.status

/-- A call like the contract's claims the policies it pays, which were not claimed,
    and no others. -/
theorem PolicyEffect.claimed (hs : s.Fresh) (hlike : c.LikeContract env s) (h : PolicyEffect (env.at c.now) s s' c) :
    s'.claimed p = (s.claimed p || c.pays p) ∧ (c.pays p → s.claimed p = false) := by
  rcases h with ⟨hpays, -, hi⟩ | @⟨args, -, hpays, hi⟩ | @⟨p', id, policy, hop, hpays, hget, hexp, hi⟩ |
    @⟨p', id, policy, attestation, hop, hpays, hget, hexp, hatt, hc, hi⟩
  · simp [hpays, MockState.claimed_congr hi]
  · rw [MockState.claimed_congr hi, MockState.claimed_setPolicy, hpays]
    by_cases hp : p = s.nextPolicyId
    · rw [if_pos hp]
      simp [MockState.claimed, hs p hp.ge, newPolicy]
    · rw [if_neg hp]
      simp [MockState.claimed]
  · rw [MockState.claimed_congr hi, MockState.claimed_setPolicy, hpays]
    by_cases hp : p = p'
    · subst hp
      have hne : policy.status ≠ .claimed := fun hst => (hlike p id policy hop hget).1 hst hexp
      simp [MockState.claimed_of_get hget, hne]
    · simp [hp]
  · rw [MockState.claimed_congr hi, MockState.claimed_setPolicy, hpays]
    by_cases hp : p = p'
    · subst hp
      obtain ⟨hne, -⟩ := (hlike p id policy hop hget).2 attestation hatt hc hexp
      simp [MockState.claimed_of_get hget, hne]
    · simp [hp, Ne.symm hp]

theorem PolicyEffect.backed (hlike : c.LikeContract env s) (h : PolicyEffect (env.at c.now) s s' c)
    (hop : c.op = .submitClaim p id) (hp : c.pays p) :
    ∃ attestation, s.attestations.get id = some attestation ∧ Insurance.backs attestation.status := by
  rcases h with ⟨hpays, -, -⟩ | ⟨-, hpays, -⟩ | ⟨-, hpays, -, -, -⟩ |
    @⟨p', id', policy, attestation, hop', -, hget, hexp, hatt, hc, -⟩
  · rw [hpays] at hp
    cases hp
  · rw [hpays] at hp
    cases hp
  · rw [hpays] at hp
    cases hp
  · cases hop.symm.trans hop'
    exact ⟨attestation, hatt, ((hlike p id policy hop hget).2 attestation hatt hc hexp).2⟩

section
variable [DecidableEq H]

theorem MockStep.fresh (hs : w.mock.Fresh) (h : MockStep env w c w') : w'.mock.Fresh := h.effect.fresh hs

theorem run_fresh (h : Run (MockStep env) .fresh cs w) : w.mock.Fresh :=
  h.inv (fun _ _ => rfl) fun _ _ _ hs hstep => hstep.fresh hs

/-- A claimed policy was paid. -/
theorem run_claimed (h : Run (MockStep env) .fresh cs w) (hp : w.mock.claimed p) :
    0 < cs.countP (MockCall.pays p) := by
  induction h with
  | nil => cases hp
  | @snoc cs c w w' hr hs ih =>
    rw [List.countP_append, List.countP_singleton]
    rcases hs.effect.paid_of_claimed hp with hp | hp
    · have hpos := ih hp
      omega
    · rw [if_pos hp]
      omega

/-- The claims of a run pay like the contract. -/
structure PaidLikeContract (env : MockEnv H) (cs : List (MockCall H)) : Prop where
  once : ∀ p, cs.countP (MockCall.pays p) ≤ 1
  stays : ∀ c₁ c₂ c₃ w₁ w₂, cs = c₁ ++ c₂ ++ c₃ → Run (MockStep env) .fresh c₁ w₁ → Run (MockStep env) w₁ c₂ w₂ →
    ∀ p, w₁.mock.claimed p → w₂.mock.claimed p
  backed : ∀ c₁ c c₂ w₁ w₂, cs = c₁ ++ c :: c₂ → Run (MockStep env) .fresh c₁ w₁ → MockStep env w₁ c w₂ →
    ∀ p id, c.op = .submitClaim p id → c.pays p →
      ∃ attestation, w₁.mock.attestations.get id = some attestation ∧ Insurance.backs attestation.status

/-- A step like the contract's. -/
abbrev LikeStep (env : MockEnv H) (w : Clocked H) (c : MockCall H) (w' : Clocked H) : Prop :=
  MockStep env w c w' ∧ c.LikeContract env w.mock

theorem run_paid (h : Run (LikeStep env) .fresh cs w) (p : ℕ) :
    cs.countP (MockCall.pays p) = if w.mock.claimed p then 1 else 0 := by
  induction h with
  | nil => rfl
  | @snoc cs c w w' hr hs ih =>
    obtain ⟨hs, hlike⟩ := hs
    have hfresh := run_fresh (hr.mono fun _ _ _ hs => hs.1)
    obtain ⟨hclaimed, hnot⟩ := hs.effect.claimed hfresh hlike (p := p)
    rw [List.countP_append, List.countP_singleton, ih, hclaimed]
    by_cases hp : c.pays p
    · simp [hp, hnot hp]
    · simp [hp]

theorem run_stays (hfresh : w.mock.Fresh) (h : Run (LikeStep env) w cs w') (hp : w.mock.claimed p) :
    w'.mock.claimed p := by
  induction h with
  | nil => exact hp
  | @snoc cs c w₁ w₂ hr hs ih =>
    have hf : w₁.mock.Fresh := hr.inv hfresh fun _ _ _ hf hs => hs.1.fresh hf
    rw [(hs.1.effect.claimed hf hs.2).1, ih, Bool.true_or]

/-- **The claims of the mock.**  A run pays its claims like the contract exactly
    if all its claims meet the two checks that `submitClaim` lacks. -/
theorem paid_like_contract_iff (h : Run (MockStep env) .fresh cs w) :
    PaidLikeContract env cs ↔ ∀ c₁ c c₂ w₁ w₂, cs = c₁ ++ c :: c₂ → Run (MockStep env) .fresh c₁ w₁ →
      MockStep env w₁ c w₂ → c.LikeContract env w₁.mock := by
  constructor
  · rintro hlike c₁ c c₂ w₁ w₂ rfl h₁ hs p id policy hop hget
    have hclaimed := MockState.claimed_of_get hget
    constructor
    · intro hst hexp
      have hstays := hlike.stays c₁ [c] c₂ w₁ w₂ (by simp) h₁ (Run.single hs) p (by simp [hclaimed, hst])
      exact hs.effect.not_expired hop hget hstays hexp
    · intro attestation hatt hc hexp
      have hp := hs.effect.pays_of_covers hop hget hexp hatt hc
      constructor
      · intro hst
        have hpos := run_claimed h₁ (p := p) (by simp [hclaimed, hst])
        have honce := hlike.once p
        rw [List.countP_append, List.countP_cons, if_pos hp] at honce
        omega
      · obtain ⟨attestation', hatt', hb⟩ := hlike.backed c₁ c c₂ w₁ w₂ rfl h₁ hs p id hop hp
        cases hatt.symm.trans hatt'
        exact hb
  · intro hlike
    refine ⟨fun p => ?_, ?_, ?_⟩
    · rw [run_paid (h.strengthen hlike) p]
      split <;> omega
    · rintro c₁ c₂ c₃ w₁ w₂ rfl h₁ h₂ p hp
      refine run_stays (run_fresh h₁) (h₂.strengthen fun d₁ c d₂ t t' hd ht hs => ?_) hp
      exact hlike (c₁ ++ d₁) c (d₂ ++ c₃) t t' (by simp [hd]) (h₁.append ht) hs
    · intro c₁ c c₂ w₁ w₂ hcs h₁ hs p id hop hp
      exact hs.effect.backed (hlike c₁ c c₂ w₁ w₂ hcs h₁ hs) hop hp

/-! ## Concrete runs -/

/-- The calls of a run, one after the other, and the backend after them. -/
def execCalls (env : MockEnv H) : List (JsNumber × MockOp H) → Clocked H → List (MockCall H) × Clocked H
  | [], w => ([], w)
  | (now, op) :: ops, w =>
    let r := op.run (env.at now) w.mock
    let rest := execCalls env ops ⟨r.2, now⟩
    (⟨now, op, r.1⟩ :: rest.1, rest.2)

/-- The times of the calls do not go back. -/
def forward : JsNumber → List (JsNumber × MockOp H) → Bool
  | _, [] => true
  | clock, (now, _) :: ops => numberLe clock now && forward now ops

theorem MockStep.of_run (now : JsNumber) (op : MockOp H) (h : numberLe w.clock now) :
    MockStep env w ⟨now, op, (op.run (env.at now) w.mock).1⟩ ⟨(op.run (env.at now) w.mock).2, now⟩ := ⟨h, rfl, rfl⟩

theorem execCalls_run {ops : List (JsNumber × MockOp H)} (h : forward w.clock ops) :
    Run (MockStep env) w (execCalls env ops w).1 (execCalls env ops w).2 := by
  induction ops generalizing w with
  | nil => exact .nil
  | cons call ops ih =>
    obtain ⟨now, op⟩ := call
    obtain ⟨hclock, hrest⟩ := Bool.and_eq_true_iff.1 h
    exact .cons (.of_run now op hclock) (ih hrest)

theorem MockStep.functional {w₁ w₂ : Clocked H} (h₁ : MockStep env w c w₁) (h₂ : MockStep env w c w₂) : w₁ = w₂ := by
  obtain ⟨mock₁, clock₁⟩ := w₁
  obtain ⟨mock₂, clock₂⟩ := w₂
  have hmock : mock₁ = mock₂ := (Prod.ext_iff.1 (h₁.run.symm.trans h₂.run)).2
  have hclock : clock₁ = clock₂ := h₁.clock.trans h₂.clock.symm
  rw [hmock, hclock]

theorem run_functional {w₁ w₂ : Clocked H} (h₁ : Run (MockStep env) w cs w₁) (h₂ : Run (MockStep env) w cs w₂) :
    w₁ = w₂ := by
  refine h₁.functional ?_ h₂
  intro w c w₁ w₂ hs₁ hs₂
  exact hs₁.functional hs₂

end

/-- A policy, an attestation, and a claim. -/
def demoClaimed : List (JsNumber × MockOp Empty) := [
  (number 1, .createPolicy demoPolicyArgs),
  (number 2, .submitAttestation demoAttestationArgs),
  (number 3, .submitClaim 1 1)]

/-- Then the attestation is slashed. -/
def demoSlashed : List (JsNumber × MockOp Empty) := demoClaimed ++ [
  (number 4, .challenge 1),
  (number 5, .resolve 1 true)]

theorem demo_run (ops : List (JsNumber × MockOp Empty)) (h : forward .negInf ops) :
    Run (MockStep (demoMock 0)) .fresh (execCalls (demoMock 0) ops .fresh).1 (execCalls (demoMock 0) ops .fresh).2 :=
  execCalls_run h

/-- A claim of an active policy with a backing attestation. -/
theorem LikeContract.of_statuses (hop : c.op = .submitClaim p id)
    (hp : (s.policies.get p).all fun policy => policy.status = .active)
    (ha : (s.attestations.get id).all fun attestation => Insurance.backs attestation.status) :
    c.LikeContract env s := by
  intro p' id' policy hop' hget
  cases hop.symm.trans hop'
  have hactive : policy.status = .active := by simpa [hget] using hp
  refine ⟨fun hst => (by cases hactive.symm.trans hst), fun attestation hatt _ _ => ⟨?_, ?_⟩⟩
  · rw [hactive]
    nofun
  · simpa [hatt] using ha

/-- One policy, paid once. -/
theorem paid_like_contract_iff_demo : ∃ cs w, Run (MockStep (demoMock 0)) .fresh cs w ∧
    cs.countP (MockCall.pays 1) = 1 ∧ PaidLikeContract (demoMock 0) cs := by
  have h := demo_run demoClaimed (by decide +kernel)
  refine ⟨_, _, h, by decide +kernel, (paid_like_contract_iff h).2 fun c₁ c c₂ w₁ w₂ hcs h₁ _ => ?_⟩
  rcases c₁ with _ | ⟨a, _ | ⟨b, _ | ⟨d, c₁⟩⟩⟩
  · obtain ⟨rfl, -⟩ := List.cons.inj hcs
    nofun
  · obtain ⟨-, htail⟩ := List.cons.inj hcs
    obtain ⟨rfl, -⟩ := List.cons.inj htail
    nofun
  · obtain ⟨rfl, htail⟩ := List.cons.inj hcs
    obtain ⟨rfl, htail'⟩ := List.cons.inj htail
    obtain ⟨rfl, -⟩ := List.cons.inj htail'
    have h₂ := demo_run (demoClaimed.take 2) (by decide +kernel)
    rw [run_functional h₁ h₂]
    exact LikeContract.of_statuses rfl (by decide +kernel) (by decide +kernel)
  · simp [demoClaimed, execCalls] at hcs

/-- A policy is paid twice; it is paid for a slashed attestation; and claimed
    again after its expiry it is no longer claimed. -/
theorem claimed_paid_again :
    (∃ cs w, Run (MockStep (demoMock 0)) .fresh cs w ∧ cs.countP (MockCall.pays 1) = 2) ∧
    (∃ cs w c w', Run (MockStep (demoMock 0)) .fresh cs w ∧ MockStep (demoMock 0) w c w' ∧ c.op = .submitClaim 1 1 ∧
      c.pays 1 ∧ (w.mock.attestations.get 1).map (fun attestation => attestation.status) = some .slashed) ∧
    ∃ cs w c w', Run (MockStep (demoMock 0)) .fresh cs w ∧ MockStep (demoMock 0) w c w' ∧
      w.mock.claimed 1 ∧ w'.mock.claimed 1 = false := by
  refine ⟨?_, ?_, ?_⟩
  · have h := demo_run (demoClaimed ++ [(number 4, .submitClaim 1 1)]) (by decide +kernel)
    exact ⟨_, _, h, by decide +kernel⟩
  · have h := demo_run demoSlashed (by decide +kernel)
    exact ⟨_, _, _, _, h, .of_run (number 6) (.submitClaim 1 1) (by decide +kernel), rfl, by decide +kernel,
      by decide +kernel⟩
  · have h := demo_run demoClaimed (by decide +kernel)
    exact ⟨_, _, _, _, h, .of_run (number 4102444800) (.submitClaim 1 1) (by decide +kernel),
      by decide +kernel, by decide +kernel⟩

end CasperProof.Sdk
