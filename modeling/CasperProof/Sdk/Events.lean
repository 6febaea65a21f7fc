/-
  The events of the mock backend.

  * `MockOp.prepare`: an operation up to its call of `emit`, with the event it
    emits.  `MockOp.run_eq`: the operation is that, and then `emit`.
  * `SilentCall`: a call while no handler throws.  It acts on the handlers and
    the recent events like an event bus with a replay of 100 events
    (`SilentCall.run_bus`).
-/
import CasperProof.Lib.EventBus
import CasperProof.Sdk.MockRun

namespace CasperProof.Sdk

open Js Commitment
open EventBus (Bus Act received emitted)

section
variable {H : Type} (env : MockEnv H)

/-! ## The source, up to `emit` -/

def prepareSubmission (args : SubmitAttestationArgs) : BackendOp H (CasperProofEvent × SubmitAttestationResult) := do
  let stake ← Op.orFail (bigInt args.stake) (.notBigInt args.stake)
  Op.failIf (stake < mockMinStake) (.insufficientStake (decimal mockMinStake) args.stake)
  let timestamp := args.timestamp.getD env.now
  let hashes ← Op.lift .commitment
    (computeCommitment env.blake2b256 ⟨args.input, args.output, args.modelId, timestamp⟩)
  let s ← Op.get
  let id := s.nextAttestationId
  let attestation := newAttestation args hashes timestamp id
  Op.modify fun s => (s.setNextAttestationId (id + 1)).setAttestation id attestation
  let hash ← deployHash env (lit "submit_attestation")
    (.obj [(lit "id", .num (number id)), (lit "commitment", .str hashes.commitment)])
  pure (⟨.attestationSubmitted, id, timestamp,
    .obj [(lit "attestor", .str attestation.attestor), (lit "modelId", .str args.modelId)]⟩,
    ⟨id, hash, hashes.commitment, hashes.inputHash, hashes.outputHash, .active⟩)

def prepareChallenge (id : ℕ) : BackendOp H (CasperProofEvent × DeployResult) := do
  let s ← Op.get
  let attestation ← Op.orFail (s.attestations.get id) (.attestationNotFound id)
  Op.failIf (attestation.status = .challenged) (.alreadyChallenged id)
  Op.failIf (attestation.status ≠ .active) (.attestationNotActive id (statusText attestation.status))
  Op.modify fun s => s.setAttestation id (challengedAttestation attestation)
  let hash ← deployHash env (lit "challenge") (.obj [(lit "id", .num (number id))])
  pure (⟨.challenged, id, env.now, .obj [(lit "challenger", .str mockAccount)]⟩, ⟨hash, some id, some .challenged⟩)

def prepareResolution (id : ℕ) (fraudulent : Bool) : BackendOp H (CasperProofEvent × DeployResult) := do
  let s ← Op.get
  let attestation ← Op.orFail (s.attestations.get id) (.attestationNotFound id)
  Op.failIf (attestation.status ≠ .challenged) (.attestationNotActive id (statusText attestation.status))
  let counters ← rep attestation.attestor
  let status := verdict fraudulent
  Op.modify fun s => (s.setAttestation id { attestation with status }).setReputation attestation.attestor
    (resolvedCounters fraudulent counters)
  let hash ← deployHash env (lit "resolve")
    (.obj [(lit "id", .num (number id)), (lit "fraudulent", .bool fraudulent)])
  pure (⟨.resolved, id, env.now, .obj [(lit "fraudulent", .bool fraudulent)]⟩, ⟨hash, some id, some status⟩)

def prepareClaim (policyId attestationId : ℕ) : BackendOp H (CasperProofEvent × ClaimResult) := do
  let s ← Op.get
  let policy ← Op.orFail (s.policies.get policyId) (.policyNotFound policyId)
  if isExpired env policy then
    Op.modify fun s => s.setPolicy policyId { policy with status := .expired }
    Op.throw (.policyExpired policyId)
  else
    let attestation ← Op.orFail (s.attestations.get attestationId) (.attestationNotFound attestationId)
    match triggerFromOutput attestation with
    | none => Op.throw (.triggerNotCovered policyId (lit "unknown"))
    | some trigger =>
      Op.failIf (trigger ∉ policy.triggerTypes) (.triggerNotCovered policyId trigger.text)
      Op.modify fun s => s.setPolicy policyId { policy with status := .claimed }
      let hash ← deployHash env (lit "claim")
        (.obj [(lit "policyId", .num (number policyId)), (lit "attestationId", .num (number attestationId))])
      pure (⟨.claimPaid, policyId, env.now,
        .obj [(lit "attestationId", .num (number attestationId)), (lit "amount", .str policy.coverage)]⟩,
        ⟨hash, policyId, attestationId, true, policy.coverage⟩)

/-- An operation up to its call of `emit`: the event, and the result.  The
    others do not call it. -/
def MockOp.prepare : MockOp H → Option (BackendOp H (CasperProofEvent × MockResult))
  | .submitAttestation args => some do
    let p ← prepareSubmission env args
    pure (p.1, .submitted p.2)
  | .challenge id => some do
    let p ← prepareChallenge env id
    pure (p.1, .deployed p.2)
  | .resolve id fraudulent => some do
    let p ← prepareResolution env id fraudulent
    pure (p.1, .deployed p.2)
  | .submitClaim policyId attestationId => some do
    let p ← prepareClaim env policyId attestationId
    pure (p.1, .claim p.2)
  | _ => none

variable {env : MockEnv H}

theorem submitAttestation_eq (args : SubmitAttestationArgs) : submitAttestation env args = (do
    let p ← prepareSubmission env args
    emit env p.1
    pure p.2) := by
  simp only [submitAttestation, prepareSubmission, Op.bind_bind, Op.unit_bind]

theorem challenge_eq (id : ℕ) : challenge env id = (do
    let p ← prepareChallenge env id
    emit env p.1
    pure p.2) := by
  simp only [challenge, prepareChallenge, Op.bind_bind, Op.unit_bind]

theorem resolve_eq (id : ℕ) (fraudulent : Bool) : resolve env id fraudulent = (do
    let p ← prepareResolution env id fraudulent
    emit env p.1
    pure p.2) := by
  simp only [resolve, prepareResolution, Op.bind_bind, Op.unit_bind]

theorem submitClaim_eq (policyId attestationId : ℕ) : submitClaim env policyId attestationId = (do
    let p ← prepareClaim env policyId attestationId
    emit env p.1
    pure p.2) := by
  simp only [submitClaim, prepareClaim, Op.bind_bind]
  congr 1
  funext s
  congr 1
  funext policy
  split_ifs with hexp
  · rfl
  · simp only [Op.bind_bind]
    congr 1
    funext attestation
    cases triggerFromOutput attestation with
    | none => rfl
    | some trigger => simp only [Op.bind_bind, Op.unit_bind]

/-- **An operation is its preparation**, and then `emit`. -/
theorem MockOp.run_eq [DecidableEq H] {op : MockOp H} {x : BackendOp H (CasperProofEvent × MockResult)}
    (h : op.prepare env = some x) : op.run env = (do
      let p ← x
      emit env p.1
      pure p.2) := by
  cases op with
  | submitAttestation args => cases h; simp only [run, submitAttestation_eq, Op.bind_bind, Op.unit_bind]
  | challenge id => cases h; simp only [run, challenge_eq, Op.bind_bind, Op.unit_bind]
  | resolve id fraudulent => cases h; simp only [run, resolve_eq, Op.bind_bind, Op.unit_bind]
  | submitClaim policyId attestationId => cases h; simp only [run, submitClaim_eq, Op.bind_bind, Op.unit_bind]
  | getAttestation | attestationCount | attestorReputation | createPolicy | getPolicy | getRiskScore | stake | unstake
  | subscribeEvents | unsubscribe => cases h

end

variable {H : Type}

/-! ## The event bus -/

/-- The handlers and the recent events. -/
def MockState.bus (s : MockState H) : Bus H CasperProofEvent := ⟨s.handlers, s.recentEvents⟩

/-- The replay is bounded by 100 events. -/
abbrev replayCap : ℕ := 100

section
variable {env : MockEnv H} {op : MockOp H} {s : MockState H}

theorem deployHash_bus {label : JsString} {payload : Value} : Op.Keeps MockState.bus (deployHash env label payload) :=
  Op.Keeps.bind .get fun _ => .bind (.modify fun _ => rfl) fun _ => .bind .lift fun _ => .bind .lift fun _ => .pure _

theorem rep_bus {address : JsString} : Op.Keeps MockState.bus (rep (H := H) address) := by
  refine Op.Keeps.bind .get fun s => ?_
  split
  · exact .pure _
  · exact Op.Keeps.bind (.modify fun _ => rfl) fun _ => .pure _

theorem prepareClaim_bus {policyId attestationId : ℕ} :
    Op.Keeps MockState.bus (prepareClaim env policyId attestationId) := by
  refine Op.Keeps.bind .get fun _ => .bind .orFail fun policy => ?_
  split_ifs
  · exact Op.Keeps.bind (.modify fun _ => rfl) fun _ => .throw
  · refine Op.Keeps.bind .orFail fun attestation => ?_
    cases triggerFromOutput attestation with
    | none => exact .throw
    | some trigger =>
      refine Op.Keeps.bind .failIf fun _ => .bind (.modify fun _ => rfl) fun _ => ?_
      exact .bind deployHash_bus fun _ => .pure _

/-- Up to `emit` an operation touches neither handlers nor events. -/
theorem MockOp.prepare_bus {x : BackendOp H (CasperProofEvent × MockResult)} (h : op.prepare env = some x) :
    Op.Keeps MockState.bus x := by
  cases op with
  | submitAttestation args =>
    cases h
    refine .bind (Op.Keeps.bind .orFail fun _ => .bind .failIf fun _ => .bind .lift fun _ => ?_) fun _ => .pure _
    refine .bind .get fun _ => .bind (.modify fun _ => rfl) fun _ => ?_
    exact .bind deployHash_bus fun _ => .pure _
  | challenge id =>
    cases h
    refine .bind (Op.Keeps.bind .get fun _ => .bind .orFail fun _ => .bind .failIf fun _ => ?_) fun _ => .pure _
    refine .bind .failIf fun _ => .bind (.modify fun _ => rfl) fun _ => ?_
    exact .bind deployHash_bus fun _ => .pure _
  | resolve id fraudulent =>
    cases h
    refine .bind (Op.Keeps.bind .get fun _ => .bind .orFail fun _ => .bind .failIf fun _ => ?_) fun _ => .pure _
    refine .bind rep_bus fun _ => .bind (.modify fun _ => rfl) fun _ => ?_
    exact .bind deployHash_bus fun _ => .pure _
  | submitClaim policyId attestationId =>
    cases h
    exact prepareClaim_bus.bind fun _ => .pure _
  | getAttestation | attestationCount | attestorReputation | createPolicy | getPolicy | getRiskScore | stake | unstake
  | subscribeEvents | unsubscribe => cases h

/-- The operations that are nothing to the bus. -/
def MockOp.offBus : MockOp H → Bool
  | .getAttestation _ | .attestationCount | .attestorReputation _ | .createPolicy _ | .getPolicy _ | .getRiskScore _
  | .stake _ | .unstake _ => true
  | _ => false

theorem MockOp.offBus_bus [DecidableEq H] (h : op.offBus = true) : Op.Keeps MockState.bus (op.run env) := by
  refine op.keeps_of_writes fun s s' hw => ?_
  cases hw with
  | event hemits =>
    cases op with
    | submitAttestation | challenge | resolve | submitClaim => cases h
    | getAttestation | attestationCount | attestorReputation | createPolicy | getPolicy | getRiskScore | stake
    | unstake | subscribeEvents | unsubscribe => cases hemits
  | hash | create | stake | unstake => rfl
  | submission | challenge | rep | resolve | claim | subscribe | unsubscribe => cases h

end

/-! ## Calls -/

/-- A call while no handler throws. -/
structure SilentCall (H : Type) where
  env : MockEnv H
  op : MockOp H
  silent : ∀ h e, env.throws h e = false

namespace SilentCall
variable (c : SilentCall H) (s : MockState H)

/-- The call of `emit`, if there is one: the event, and the state at that time. -/
def emission : Option (CasperProofEvent × MockState H) :=
  (c.op.prepare c.env).bind fun x =>
    match x s with
    | (.ok p, s₁) => some (p.1, s₁)
    | (.error _, _) => none

/-- The calls of the handlers, in order: those of the new handler with the
    recent events, or those of all handlers with the event. -/
def deliveries : List (H × CasperProofEvent) :=
  match c.op with
  | .subscribeEvents h => s.recentEvents.map fun e => (h, e)
  | _ =>
    match c.emission s with
    | some (e, s₁) => s₁.handlers.map fun h => (h, e)
    | none => []

/-- What the call is to the bus. -/
def act : Option (Act H CasperProofEvent) :=
  match c.op with
  | .subscribeEvents h => some (.subscribe h)
  | .unsubscribe h => some (.unsubscribe h)
  | _ => (c.emission s).map fun p => .emit p.1

variable [DecidableEq H]

/-- The backend after the call. -/
def next : MockState H := (c.op.run c.env s).2

variable {c s}

/-- A call that emits is recorded. -/
theorem next_of_emission {e : CasperProofEvent} {s₁ : MockState H} (h : c.emission s = some (e, s₁)) :
    c.next s = s₁.record e := by
  obtain ⟨x, hx, h⟩ := Option.bind_eq_some_iff.1 h
  rcases hr : x s with ⟨r, t⟩
  rw [hr] at h
  cases r with
  | error e' => cases h
  | ok p =>
    obtain ⟨rfl, rfl⟩ := Prod.mk.inj (Option.some.inj h)
    have hquiet : Quiet c.env t p.1 := fun h _ => c.silent h p.1
    rw [next, MockOp.run_eq hx, Op.bind_of_returns hr, Op.bind_of_returns (emit_accepts hquiet)]
    rfl

omit [DecidableEq H] in
/-- `emit` is reached with the bus as it was. -/
theorem emission_bus {e : CasperProofEvent} {s₁ : MockState H} (h : c.emission s = some (e, s₁)) :
    s₁.bus = s.bus := by
  obtain ⟨x, hx, h⟩ := Option.bind_eq_some_iff.1 h
  have hbus := MockOp.prepare_bus hx s
  rcases hr : x s with ⟨r, t⟩
  rw [hr] at h hbus
  cases r with
  | error e' => cases h
  | ok p =>
    obtain ⟨rfl, rfl⟩ := Prod.mk.inj (Option.some.inj h)
    exact hbus

/-- An operation that may emit, and does not, leaves the bus alone. -/
theorem next_of_no_emission {x : BackendOp H (CasperProofEvent × MockResult)} (hx : c.op.prepare c.env = some x)
    (h : c.emission s = none) : (c.next s).bus = s.bus := by
  have hbus := MockOp.prepare_bus hx s
  rw [emission, hx, Option.bind_some] at h
  rcases hr : x s with ⟨r, t⟩
  rw [hr] at h hbus
  cases r with
  | error e' => rw [next, MockOp.run_eq hx, Op.bind_of_throws hr]; exact hbus
  | ok p => cases h

theorem next_of_prepare {x : BackendOp H (CasperProofEvent × MockResult)} (hx : c.op.prepare c.env = some x) :
    (c.next s).bus = EventBus.run replayCap s.bus ((c.emission s).map fun p => Act.emit p.1).toList := by
  cases h : c.emission s with
  | none => exact next_of_no_emission hx h
  | some p =>
    rw [next_of_emission h, ← emission_bus h]
    rfl

/-- **A call is an action on the bus**, or none. -/
theorem next_bus (c : SilentCall H) (s : MockState H) :
    (c.next s).bus = EventBus.run replayCap s.bus (c.act s).toList := by
  obtain ⟨env, op, silent⟩ := c
  cases op with
  | submitAttestation | challenge | resolve | submitClaim => exact next_of_prepare rfl
  | subscribeEvents h =>
    have hsilent : ¬ s.recentEvents.any (env.throws h) = true := by
      rw [List.any_eq_true]
      rintro ⟨e, -, he⟩
      rw [silent h e] at he
      cases he
    have hsubscribe : (subscribeEvents env h).Returns s ⟨⟩ (s.setHandlers (EventBus.setAdd s.handlers h)) :=
      Op.returns_get.bind ((Op.returns_failIf hsilent).bind Op.returns_modify)
    rw [next, MockOp.run, Op.bind_of_returns hsubscribe]
    rfl
  | unsubscribe h => rfl
  | getAttestation | attestationCount | attestorReputation | createPolicy | getPolicy | getRiskScore | stake
  | unstake =>
    exact MockOp.offBus_bus rfl s

/-- The handlers are called as the bus calls them. -/
theorem deliveries_eq (c : SilentCall H) (s : MockState H) :
    c.deliveries s = EventBus.log replayCap s.bus (c.act s).toList := by
  have hemits : (match c.emission s with
      | some (e, s₁) => s₁.handlers.map fun h => (h, e)
      | none => []) = EventBus.log replayCap s.bus ((c.emission s).map fun p => Act.emit p.1).toList := by
    cases h : c.emission s with
    | none => rfl
    | some p =>
      have hhandlers : p.2.handlers = s.handlers := congrArg Bus.handlers (emission_bus h)
      simp only [hhandlers]
      exact (List.append_nil _).symm
  obtain ⟨env, op, silent⟩ := c
  cases op with
  | subscribeEvents h => exact (List.append_nil _).symm
  | unsubscribe h => rfl
  | submitAttestation | challenge | resolve | submitClaim | getAttestation | attestationCount | attestorReputation
  | createPolicy | getPolicy | getRiskScore | stake | unstake => exact hemits

end SilentCall

/-! ## Runs -/

section
variable [DecidableEq H]

/-- The backend after a list of calls. -/
def stateAfter (s : MockState H) (cs : List (SilentCall H)) : MockState H := cs.foldl (fun s c => c.next s) s

/-- The calls of the handlers in a list of calls of the backend. -/
def deliveries : MockState H → List (SilentCall H) → List (H × CasperProofEvent)
  | _, [] => []
  | s, c :: cs => c.deliveries s ++ deliveries (c.next s) cs

/-- The events emitted in a list of calls. -/
def events : MockState H → List (SilentCall H) → List CasperProofEvent
  | _, [] => []
  | s, c :: cs => ((c.emission s).map Prod.fst).toList ++ events (c.next s) cs

/-- The actions on the bus. -/
def acts : MockState H → List (SilentCall H) → List (Act H CasperProofEvent)
  | _, [] => []
  | s, c :: cs => (c.act s).toList ++ acts (c.next s) cs

theorem acts_append (s : MockState H) (cs cs' : List (SilentCall H)) :
    acts s (cs ++ cs') = acts s cs ++ acts (stateAfter s cs) cs' := by
  induction cs generalizing s with
  | nil => rfl
  | cons c cs ih =>
    rw [List.cons_append, acts, acts, ih, List.append_assoc]
    rfl

theorem deliveries_eq (s : MockState H) (cs : List (SilentCall H)) :
    deliveries s cs = EventBus.log replayCap s.bus (acts s cs) := by
  induction cs generalizing s with
  | nil => rfl
  | cons c cs ih => rw [deliveries, acts, EventBus.log_append, ih, c.deliveries_eq, c.next_bus]

theorem events_eq (s : MockState H) (cs : List (SilentCall H)) : events s cs = emitted (acts s cs) := by
  induction cs generalizing s with
  | nil => rfl
  | cons c cs ih =>
    have hact : ((c.emission s).map Prod.fst).toList = emitted (c.act s).toList := by
      obtain ⟨env, op, silent⟩ := c
      cases op with
      | subscribeEvents | unsubscribe | getAttestation | attestationCount | attestorReputation | createPolicy
      | getPolicy | getRiskScore | stake | unstake => rfl
      | submitAttestation | challenge | resolve | submitClaim =>
        rw [SilentCall.act]
        cases SilentCall.emission ⟨env, _, silent⟩ s <;> rfl
    rw [events, acts, EventBus.emitted_append, ih, hact]

/-- The call subscribes or unsubscribes the handler. -/
def SilentCall.Concerns (h : H) (c : SilentCall H) : Prop := c.op = .subscribeEvents h ∨ c.op = .unsubscribe h

omit [DecidableEq H] in
theorem concerns_of_act {h : H} {c : SilentCall H} {s : MockState H} {a : Act H CasperProofEvent}
    (ha : a ∈ (c.act s).toList) (hc : a.Concerns h) : c.Concerns h := by
  obtain ⟨env, op, silent⟩ := c
  have hact := Option.mem_toList.1 ha
  cases op with
  | subscribeEvents h' =>
    obtain rfl : Act.subscribe h' = a := Option.some.inj hact
    rcases hc with hc | hc
    · obtain rfl := Act.subscribe.inj hc
      exact .inl rfl
    · cases hc
  | unsubscribe h' =>
    obtain rfl : Act.unsubscribe h' = a := Option.some.inj hact
    rcases hc with hc | hc
    · cases hc
    · obtain rfl := Act.unsubscribe.inj hc
      exact .inr rfl
  | submitAttestation | challenge | resolve | submitClaim =>
    obtain ⟨p, -, rfl⟩ := Option.map_eq_some_iff.1 hact
    rcases hc with hc | hc <;> cases hc
  | getAttestation | attestationCount | attestorReputation | createPolicy | getPolicy | getRiskScore | stake
  | unstake =>
    cases hact

theorem acts_concern {h : H} {s : MockState H} {cs : List (SilentCall H)} (hcs : ∀ c ∈ cs, ¬ c.Concerns h) :
    ∀ a ∈ acts s cs, ¬ a.Concerns h := by
  induction cs generalizing s with
  | nil => exact fun a ha => absurd ha List.not_mem_nil
  | cons c cs ih =>
    obtain ⟨hc, hcs⟩ := List.forall_mem_cons.1 hcs
    intro a ha
    rcases List.mem_append.1 ha with ha | ha
    · exact fun hconcerns => hc (concerns_of_act ha hconcerns)
    · exact ih hcs a ha

theorem acts_snoc (s : MockState H) (before during : List (SilentCall H)) (c : SilentCall H) :
    acts s (before ++ c :: during) = acts s before ++ (c.act (stateAfter s before)).toList ++
      acts (stateAfter s (before ++ [c])) during := by
  rw [acts_append, acts, stateAfter, stateAfter, List.foldl_append, List.append_assoc]
  rfl

/-- What a handler function receives, from `new MockBackend()` on. -/
structure ReceivesEvents (H : Type) [DecidableEq H] : Prop where
  /-- nothing without being subscribed -/
  never : ∀ (h : H) (cs : List (SilentCall H)), (∀ c ∈ cs, ¬ c.Concerns h) → received h (deliveries .fresh cs) = []
  /-- from a subscription on, the last events and then every event, -/
  subscribed : ∀ (h : H) (before during : List (SilentCall H)) (c : SilentCall H), c.op = .subscribeEvents h →
    (∀ d ∈ during, ¬ d.Concerns h) → received h (deliveries .fresh (before ++ c :: during)) =
      received h (deliveries .fresh before) ++ (events .fresh before).rtake 100 ++
        events (stateAfter .fresh (before ++ [c])) during
  /-- and from the call of an `unsubscribe` function on nothing -/
  unsubscribed : ∀ (h : H) (before during : List (SilentCall H)) (c : SilentCall H), c.op = .unsubscribe h →
    (∀ d ∈ during, ¬ d.Concerns h) →
      received h (deliveries .fresh (before ++ c :: during)) = received h (deliveries .fresh before)

/-- **Events are delivered to the handlers that are subscribed.** -/
theorem receives_events : ReceivesEvents H := by
  have hempty : (MockState.fresh : MockState H).bus = .empty := rfl
  refine ⟨?_, ?_, ?_⟩
  · intro h cs hcs
    rw [deliveries_eq, hempty, EventBus.received_log List.nodup_nil (acts_concern hcs)]
    exact if_neg List.not_mem_nil
  · intro h before during c hop hduring
    have hact : c.act (stateAfter .fresh before) = some (.subscribe h) := by rw [SilentCall.act, hop]
    rw [deliveries_eq, deliveries_eq, events_eq, events_eq, acts_snoc, hact, hempty, List.append_assoc]
    exact EventBus.received_subscribed (acts_concern hduring)
  · intro h before during c hop hduring
    have hact : c.act (stateAfter .fresh before) = some (.unsubscribe h) := by rw [SilentCall.act, hop]
    rw [deliveries_eq, deliveries_eq, acts_snoc, hact, hempty, List.append_assoc]
    exact EventBus.received_unsubscribed (acts_concern hduring)

/-! ## Subscriptions of the same handler -/

/-- The operation of the `i`-th call. -/
def opAt (cs : List (SilentCall H)) (i : ℕ) : Option (MockOp H) := cs[i]?.map SilentCall.op

/-- The `j`-th call, if it is one of an `unsubscribe` function, is one of the
    function that the `own j`-th call returned. -/
def Owns (cs : List (SilentCall H)) (own : ℕ → ℕ) : Prop :=
  ∀ j h, opAt cs j = some (.unsubscribe h) → own j < j ∧ opAt cs (own j) = some (.subscribeEvents h)

/-- Every subscription receives the events until its own `unsubscribe` function
    is called. -/
def PerSubscription (cs : List (SilentCall H)) (own : ℕ → ℕ) : Prop :=
  ∀ i k h c e s, i < k → opAt cs i = some (.subscribeEvents h) →
    (∀ j, i < j → j < k → opAt cs j = some (.unsubscribe h) → own j ≠ i) → cs[k]? = some c →
    c.emission (stateAfter .fresh (cs.take k)) = some (e, s) → (h, e) ∈ c.deliveries (stateAfter .fresh (cs.take k))

end

/-- The one handler there is never throws. -/
def demoSilent (op : MockOp Unit) : SilentCall Unit where
  env := ⟨fun _ => .replicate 32 0, number 3, fun _ _ => false⟩
  op := op
  silent := fun _ _ => rfl

/-- The handler is subscribed twice, and the first subscription ended. -/
def demoTwice : List (SilentCall Unit) :=
  [demoSilent (.subscribeEvents ()), demoSilent (.subscribeEvents ()), demoSilent (.unsubscribe ()),
    demoSilent (.submitAttestation demoAttestationArgs)]

/-- The second subscription ends with the first. -/
theorem second_subscription_ends :
    ¬ ∀ (cs : List (SilentCall Unit)) (own : ℕ → ℕ), Owns cs own → PerSubscription cs own := by
  intro hall
  have howns : Owns demoTwice fun _ => 0 := by
    intro j h hop
    match j with
    | 0 | 1 | 3 => cases hop
    | 2 => exact ⟨Nat.two_pos, rfl⟩
    | j + 4 => cases hop
  have hemits : ((demoSilent (.submitAttestation demoAttestationArgs)).emission
      (stateAfter .fresh (demoTwice.take 3))).isSome := by decide +kernel
  have hnone : (demoSilent (.submitAttestation demoAttestationArgs)).deliveries
      (stateAfter .fresh (demoTwice.take 3)) = [] := List.isEmpty_iff.1 (by decide +kernel)
  obtain ⟨⟨e, s⟩, hes⟩ := Option.isSome_iff_exists.1 hemits
  have hsecond := hall demoTwice _ howns 1 3 () _ e s (by decide) rfl (fun j _ _ _ => Nat.zero_ne_one) rfl hes
  rw [hnone] at hsecond
  cases hsecond

end CasperProof.Sdk
