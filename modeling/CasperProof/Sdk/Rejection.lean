/-
  Rejected calls of the mock backend.

  An operation checks its arguments, then writes, and then computes the deploy
  hash and passes the event to the handlers.  Both may throw: the hash if the
  id is no safe integer, and a handler whenever it likes.  A rejected call has
  changed nothing exactly if the announcement of what it did went through
  (`Uninterrupted`).
-/
import CasperProof.Sdk.MockDispute
import CasperProof.Sdk.MockRun

namespace CasperProof.Sdk

open Js Json Commitment

variable {H : Type} {env : MockEnv H} {s s' s₁ : MockState H} {id p : ℕ} {label : JsString} {payload : Value}
  {event : CasperProofEvent}

/-! ## Announcements -/

theorem emit_quiet {u : PUnit} (h : (emit env event).Returns s u s') : Quiet env s event := by
  simp only [emit, Op.bind_returns, Op.get_returns, Op.modify_returns, Op.failIf_returns] at h
  obtain ⟨_, _, rfl, _, _, ⟨rfl, rfl⟩, hnone, -⟩ := h
  simpa [Quiet] using hnone

section
variable {α : Type} {f : JsString → α} {e : SdkError}

/-- **When an announcement throws.** -/
theorem announcement_throws_iff : (∃ e s', (announcement env label payload event f).Throws s e s') ↔
    ¬ (Accepted payload ∧ Quiet env s event) := by
  constructor
  · rintro ⟨e, s', h⟩ ⟨ha, hquiet⟩
    obtain ⟨hash, hreturns⟩ := announcement_accepts label ha hquiet f
    cases h.symm.trans hreturns
  · intro hnot
    by_contra hnone
    refine hnot ?_
    cases hrun : announcement env label payload event f s with
    | mk r s' =>
      cases r with
      | error e => exact absurd ⟨e, s', hrun⟩ hnone
      | ok a =>
        obtain ⟨hash, s₁, hhash, h⟩ := Op.bind_returns.1 hrun
        obtain ⟨_, _, hemit, -⟩ := Op.bind_returns.1 h
        have hquiet := emit_quiet hemit
        rw [deployHash_returns hhash] at hquiet
        exact ⟨deployHash_accepted hhash, hquiet⟩

/-- An operation that writes `s₁` and announces it leaves the books as they were
    exactly if it does not throw. -/
theorem harmless_iff {x : BackendOp H α} (hx : x s = announcement env label payload event f s₁)
    (hbooks : s₁.books ≠ s.books) :
    (∀ e s', x.Throws s e s' → s'.books = s.books) ↔ Accepted payload ∧ Quiet env s₁ event := by
  have hthrows : ∀ e s', x.Throws s e s' ↔ (announcement env label payload event f).Throws s₁ e s' := by
    intro e s'
    unfold Op.Throws
    rw [hx]
  constructor
  · intro h
    by_contra hnot
    obtain ⟨e, s', ht⟩ := announcement_throws_iff.2 hnot
    exact hbooks ((announcement_books.run ht).symm.trans (h e s' ((hthrows e s').2 ht)))
  · intro h e s' ht
    exact absurd h (announcement_throws_iff.1 ⟨e, s', (hthrows e s').1 ht⟩)

/-- An operation that fails a check changes nothing. -/
theorem harmless_of_refused {x : BackendOp H α} (h : ∃ e, x.Throws s e s) :
    ∀ e s', x.Throws s e s' → s'.books = s.books := by
  obtain ⟨e, he⟩ := h
  intro e' s' h'
  cases he.symm.trans h'
  rfl

end

/-! ## The operations -/

def submissionEvent (env : MockEnv H) (s : MockState H) (args : SubmitAttestationArgs) : CasperProofEvent :=
  ⟨.attestationSubmitted, s.nextAttestationId, args.timestamp.getD env.now,
    .obj [(lit "attestor", .str (args.attestor.getD mockAccount)), (lit "modelId", .str args.modelId)]⟩

def challengeEvent (env : MockEnv H) (id : ℕ) : CasperProofEvent :=
  ⟨.challenged, id, env.now, .obj [(lit "challenger", .str mockAccount)]⟩

def resolutionEvent (env : MockEnv H) (id : ℕ) (fraudulent : Bool) : CasperProofEvent :=
  ⟨.resolved, id, env.now, .obj [(lit "fraudulent", .bool fraudulent)]⟩

def claimEvent (env : MockEnv H) (policy : Policy) (policyId attestationId : ℕ) : CasperProofEvent :=
  ⟨.claimPaid, policyId, env.now,
    .obj [(lit "attestationId", .num (number attestationId)), (lit "amount", .str policy.coverage)]⟩

/-- If the call passes its checks, its ids are safe integers and no handler
    throws on its event; and a claim does not find a paid policy expired. -/
def Uninterrupted (env : MockEnv H) (s : MockState H) : MockOp H → Prop
  | .submitAttestation args => ∀ hashes, Passes env args hashes →
    s.nextAttestationId ≤ maxSafeInteger ∧ Quiet env s (submissionEvent env s args)
  | .challenge id => ∀ attestation, s.attestations.get id = some attestation → attestation.status = .active →
    id ≤ maxSafeInteger ∧ Quiet env s (challengeEvent env id)
  | .resolve id fraudulent => ∀ attestation, s.attestations.get id = some attestation →
    attestation.status = .challenged → id ≤ maxSafeInteger ∧ Quiet env s (resolutionEvent env id fraudulent)
  | .submitClaim policyId attestationId => ∀ policy, s.policies.get policyId = some policy →
    (isExpired env policy → policy.status ≠ .claimed) ∧
    (¬ isExpired env policy → policy.status = .active →
      ∀ attestation, s.attestations.get attestationId = some attestation → Covers policy attestation →
        (policyId ≤ maxSafeInteger ∧ attestationId ≤ maxSafeInteger) ∧
          Quiet env s (claimEvent env policy policyId attestationId))
  | _ => True

section
variable {args : SubmitAttestationArgs} {attestation : Attestation} {fraudulent : Bool}

theorem submitAttestation_harmless : (∀ e s', (submitAttestation env args).Throws s e s' → s'.books = s.books) ↔
    ∀ hashes, Passes env args hashes →
      s.nextAttestationId ≤ maxSafeInteger ∧ Quiet env s (submissionEvent env s args) := by
  by_cases hpasses : ∃ hashes, Passes env args hashes
  · obtain ⟨hashes, hp⟩ := hpasses
    have hbooks : (s.submitted env args hashes).books ≠ s.books := by
      intro h
      exact absurd (congrArg Books.nextAttestationId h) (Nat.succ_ne_self _)
    rw [harmless_iff (submitAttestation_announces hp) hbooks, submission_canonical]
    constructor
    · intro h _ _
      exact h
    · intro h
      exact h hashes hp
  · rw [not_exists] at hpasses
    refine iff_of_true (harmless_of_refused (submitAttestation_refused env hpasses)) ?_
    intro hashes hp
    exact absurd hp (hpasses hashes)

/-- A record that changes changes the books. -/
theorem setAttestation_books {a : Attestation} (hget : s.attestations.get id = some attestation)
    (hstatus : a.status ≠ attestation.status) (t : MockState H)
    (ht : t.attestations = s.attestations.set id a) : t.books ≠ s.books := by
  intro h
  have hsame := congrArg (fun b => (Books.attestations b).get id) h
  simp only [MockState.books, ht, Mapping.get_set_self, hget, Option.some.injEq] at hsame
  exact hstatus (congrArg Attestation.status hsame)

theorem challenge_harmless : (∀ e s', (challenge env id).Throws s e s' → s'.books = s.books) ↔
    ∀ attestation, s.attestations.get id = some attestation → attestation.status = .active →
      id ≤ maxSafeInteger ∧ Quiet env s (challengeEvent env id) := by
  by_cases hactive : ∃ attestation, s.attestations.get id = some attestation ∧ attestation.status = .active
  · obtain ⟨attestation, hget, hst⟩ := hactive
    rw [harmless_iff (challenge_announces hget hst)
      (setAttestation_books hget (by simp [challengedAttestation, hst]) _ rfl), challenge_canonical]
    constructor
    · intro h _ _ _
      exact h
    · intro h
      exact h attestation hget hst
  · refine iff_of_true (harmless_of_refused (challenge_rejects env id fun attestation hget hst => ?_)) ?_
    · exact hactive ⟨attestation, hget, hst⟩
    · intro attestation hget hst
      exact absurd ⟨attestation, hget, hst⟩ hactive

theorem resolve_harmless : (∀ e s', (resolve env id fraudulent).Throws s e s' → s'.books = s.books) ↔
    ∀ attestation, s.attestations.get id = some attestation → attestation.status = .challenged →
      id ≤ maxSafeInteger ∧ Quiet env s (resolutionEvent env id fraudulent) := by
  by_cases hchallenged : ∃ attestation, s.attestations.get id = some attestation ∧ attestation.status = .challenged
  · obtain ⟨attestation, hget, hst⟩ := hchallenged
    have hverdict : verdict fraudulent ≠ attestation.status := by
      rw [hst]
      cases fraudulent <;> decide
    rw [harmless_iff (resolve_announces hget hst) (setAttestation_books hget hverdict _ rfl),
      resolution_canonical]
    constructor
    · intro h _ _ _
      exact h
    · intro h
      exact h attestation hget hst
  · refine iff_of_true (harmless_of_refused (resolve_rejects env id fraudulent fun attestation hget hst => ?_)) ?_
    · exact hchallenged ⟨attestation, hget, hst⟩
    · intro attestation hget hst
      exact absurd ⟨attestation, hget, hst⟩ hchallenged

end

/-! ## Claims -/

section
variable {policy : Policy} {attestation : Attestation}

/-- The payload of a claim's hash. -/
theorem claim_canonical :
    Accepted (.obj [(lit "policyId", .num (number p)), (lit "attestationId", .num (number id))]) ↔
      p ≤ maxSafeInteger ∧ id ≤ maxSafeInteger := by
  rw [← number_canonical, ← number_canonical]
  simp [Accepted, Every, EveryMember]

theorem setPolicy_books (hget : s.policies.get p = some policy) {status : PolicyStatus} :
    (s.setPolicy p { policy with status }).books = s.books ↔ status = policy.status := by
  constructor
  · intro h
    have hsame := congrArg (fun b => (Books.policies b).get p) h
    simp only [MockState.books, MockState.setPolicy_policies, Mapping.get_set_self, hget, Option.some.injEq] at hsame
    exact congrArg Policy.status hsame
  · rintro rfl
    have hset : s.policies.set p policy = s.policies := by
      ext k : 1
      rw [Mapping.get_set]
      split_ifs with hk
      · rw [hk, hget]
      · rfl
    simp only [MockState.books, MockState.setPolicy, hset]

/-- The claim found its policy expired, and marked it. -/
def MarksExpired (env : MockEnv H) (policyId : ℕ) (s s' : MockState H) : Prop :=
  ∃ policy, s.policies.get policyId = some policy ∧ policy.status = .active ∧ isExpired env policy ∧
    s'.books = (s.setPolicy policyId { policy with status := .expired }).books

/-- A claim that finds its policy expired may change it only if it was active. -/
theorem expired_harmless (hget : s.policies.get p = some policy) (hexp : isExpired env policy) :
    (∀ e s', (submitClaim env p id).Throws s e s' → s'.books = s.books ∨ MarksExpired env p s s') ↔
      policy.status ≠ .claimed := by
  have hthrows : (submitClaim env p id).Throws s _ _ := submitClaim_expires hget hexp
  constructor
  · intro h hclaimed
    rcases h _ _ hthrows with hbooks | ⟨policy', hget', hactive, -⟩
    · cases ((setPolicy_books hget).1 hbooks).trans hclaimed
    · cases hget.symm.trans hget'
      cases hactive.symm.trans hclaimed
  · intro hne e s' h
    cases hthrows.symm.trans h
    cases hstatus : policy.status with
    | active => exact .inr ⟨policy, hget, hstatus, hexp, rfl⟩
    | claimed => exact absurd hstatus hne
    | expired => exact .inl ((setPolicy_books hget).2 hstatus.symm)

/-- A claim that is paid changes its policy only if it was active. -/
theorem paid_harmless (hget : s.policies.get p = some policy) (hexp : ¬ isExpired env policy)
    (hatt : s.attestations.get id = some attestation) (hc : Covers policy attestation) :
    (∀ e s', (submitClaim env p id).Throws s e s' → s'.books = s.books ∨ MarksExpired env p s s') ↔
      (policy.status = .active →
        (p ≤ maxSafeInteger ∧ id ≤ maxSafeInteger) ∧ Quiet env s (claimEvent env policy p id)) := by
  have hrun := submitClaim_pays hget hexp hatt hc
  have hnot : ∀ s', ¬ MarksExpired env p s s' := by
    rintro s' ⟨policy', hget', -, hexp', -⟩
    cases hget.symm.trans hget'
    exact hexp hexp'
  simp only [hnot, or_false]
  by_cases hactive : policy.status = .active
  · have hbooks : (s.setPolicy p { policy with status := .claimed }).books ≠ s.books := by
      rw [Ne, setPolicy_books hget, hactive]
      decide
    rw [harmless_iff hrun hbooks, claim_canonical]
    exact ⟨fun h _ => h, fun h => h hactive⟩
  · refine iff_of_true (fun e s' h => ?_) fun h => absurd h hactive
    -- a policy that is neither active nor expired was claimed before
    have hclaimed : .claimed = policy.status := by
      cases hstatus : policy.status with
      | active => exact absurd hstatus hactive
      | claimed => rfl
      | expired => exact absurd (.inl hstatus) hexp
    rw [Op.Throws, hrun] at h
    exact (announcement_books.run h).trans ((setPolicy_books hget).2 hclaimed)

theorem submitClaim_harmless :
    (∀ e s', (submitClaim env p id).Throws s e s' → s'.books = s.books ∨ MarksExpired env p s s') ↔
    ∀ policy, s.policies.get p = some policy → (isExpired env policy → policy.status ≠ .claimed) ∧
      (¬ isExpired env policy → policy.status = .active →
        ∀ attestation, s.attestations.get id = some attestation → Covers policy attestation →
          (p ≤ maxSafeInteger ∧ id ≤ maxSafeInteger) ∧ Quiet env s (claimEvent env policy p id)) := by
  by_cases hrefused : Refused env s p id
  · obtain ⟨e, -, hthrows⟩ := submitClaim_refused hrefused
    refine iff_of_true (fun e s' h => .inl (harmless_of_refused ⟨_, hthrows⟩ e s' h)) ?_
    intro policy hget
    obtain ⟨hexp, hno⟩ := hrefused policy hget
    exact ⟨fun h => absurd h hexp, fun _ _ attestation hatt hc => absurd hc (hno attestation hatt)⟩
  · obtain ⟨policy, hget, hcase⟩ := not_refused hrefused
    rcases hcase with hexp | ⟨hexp, attestation, hatt, hc⟩
    · rw [expired_harmless hget hexp]
      simp [hget, hexp]
    · rw [paid_harmless hget hexp hatt hc]
      simp only [hget, Option.some.injEq, forall_eq', hexp, false_implies, not_false_eq_true, true_implies, true_and,
        hatt, hc]

end

/-! ## Stakes -/

section
variable {amount : JsString} {e : SdkError}

/-- A hash of an accepted payload is the last that may throw. -/
theorem hashed_throws {α : Type} {f : JsString → α} (ha : Accepted payload) :
    ¬ (do
      let hash ← deployHash env label payload
      pure (f hash) : BackendOp H α).Throws s e s' := by
  obtain ⟨hash, hhash⟩ := deployHash_accepts (s := s) env label ha
  intro h
  cases h.symm.trans (hhash.bind (f := fun hash => pure (f hash)) Op.returns_pure)

/-- The payload of a stake's hash. -/
theorem stake_accepted (amount : JsString) : Accepted (.obj [(lit "amount", .str amount)]) := by
  simp [Accepted, Every, EveryMember]

theorem stake_throws (h : (stake env amount).Throws s e s') : s' = s := by
  simp only [stake, Op.bind_throws, Op.orFail_throws, Op.orFail_returns, Op.modify_throws, Op.modify_returns] at h
  rcases h with ⟨-, -, rfl⟩ | ⟨_, _, ⟨-, rfl⟩, h | ⟨_, _, rfl, h⟩⟩
  · rfl
  · exact h.elim
  · exact absurd (Op.bind_throws.2 h) (hashed_throws (stake_accepted amount))

theorem unstake_throws (h : (unstake env amount).Throws s e s') : s' = s := by
  simp only [unstake, Op.bind_throws, Op.get_throws, Op.get_returns, Op.orFail_throws, Op.orFail_returns,
    Op.failIf_throws, Op.failIf_returns, Op.modify_throws, Op.modify_returns] at h
  rcases h with ⟨-, -, rfl⟩ | ⟨_, _, ⟨-, rfl⟩, h | ⟨_, _, ⟨rfl, rfl⟩, ⟨-, -, rfl⟩ | ⟨_, _, ⟨-, rfl⟩, h⟩⟩⟩
  · rfl
  · exact h.elim
  · rfl
  · rcases h with h | ⟨_, _, rfl, h⟩
    · exact h.elim
    · exact absurd (Op.bind_throws.2 h) (hashed_throws (stake_accepted amount))

end

/-! ## Calls -/

/-- One call, the clock and the handlers' behaviour at it, and what came of it. -/
structure HandledCall (H : Type) where
  env : MockEnv H
  op : MockOp H
  result : Except SdkError MockResult

section
variable [DecidableEq H] {c : HandledCall H}

def Calls (s : MockState H) (c : HandledCall H) (s' : MockState H) : Prop := c.op.run c.env s = (c.result, s')

/-- If the call was rejected, it has changed nothing; but a claim may have
    marked its policy expired. -/
def HandledCall.Harmless (c : HandledCall H) (s s' : MockState H) : Prop :=
  ∀ e, c.result = .error e →
    s'.books = s.books ∨ ∃ p id, c.op = .submitClaim p id ∧ MarksExpired c.env p s s'

/-- **What an operation that throws has changed.** -/
theorem MockOp.run_harmless (op : MockOp H) :
    (∀ e s', (op.run env).Throws s e s' →
      s'.books = s.books ∨ ∃ p id, op = .submitClaim p id ∧ MarksExpired env p s s') ↔ Uninterrupted env s op := by
  cases op with
  | submitAttestation args =>
    rw [Uninterrupted, ← submitAttestation_harmless]
    simp [MockOp.run]
  | challenge id =>
    rw [Uninterrupted, ← challenge_harmless]
    simp [MockOp.run]
  | resolve id fraudulent =>
    rw [Uninterrupted, ← resolve_harmless]
    simp [MockOp.run]
  | submitClaim p id =>
    rw [Uninterrupted, ← submitClaim_harmless]
    simp [MockOp.run]
  | stake amount =>
    refine iff_of_true (fun e s' h => ?_) trivial
    simp only [MockOp.run, Op.bind_throws, Op.pure_throws, and_false, exists_false, or_false] at h
    exact .inl (by rw [stake_throws h])
  | unstake amount =>
    refine iff_of_true (fun e s' h => ?_) trivial
    simp only [MockOp.run, Op.bind_throws, Op.pure_throws, and_false, exists_false, or_false] at h
    exact .inl (by rw [unstake_throws h])
  | createPolicy args =>
    refine iff_of_true (fun e s' h => ?_) trivial
    cases h
  | getAttestation _ | attestationCount | attestorReputation _ | getPolicy _ | getRiskScore _ | subscribeEvents _
  | unsubscribe _ => exact iff_of_true (fun _ _ h => .inl ((MockOp.reads_books rfl).run h)) trivial

theorem Calls.harmless_iff (h : Calls s c s') : c.Harmless s s' ↔ Uninterrupted c.env s c.op := by
  rw [← MockOp.run_harmless]
  constructor
  · intro hc e s₁ hthrows
    obtain ⟨hresult, rfl⟩ := Prod.mk.inj (h.symm.trans hthrows)
    exact hc e hresult
  · intro hop e he
    exact hop e s' (by rw [Op.Throws, ← he]; exact h)

variable {c₁ c₂ : List (HandledCall H)}

/-- **Rejected calls.**  In every run, a call has changed nothing in case it was
    rejected — but for a policy that a claim marks expired — exactly if it was
    not interrupted. -/
theorem rejected_harmless_iff (h : Run Calls .fresh (c₁ ++ c :: c₂) s) :
    ∃ s₁ s₂, Run Calls .fresh c₁ s₁ ∧ Calls s₁ c s₂ ∧ Run Calls s₂ c₂ s ∧
      (c.Harmless s₁ s₂ ↔ Uninterrupted c.env s₁ c.op) := by
  obtain ⟨s₁, s₂, h₁, hc, h₂⟩ := h.split_cons
  exact ⟨s₁, s₂, h₁, hc, h₂, hc.harmless_iff⟩

end

/-! ## A handler that throws -/

/-- The clock stands still; the only handler there is throws on every event. -/
def demoThrowing : MockEnv Unit where
  blake2b256 := fun _ => .replicate 32 0
  now := number 3
  throws := fun _ _ => true

def demoCallAt (s : MockState Unit) (op : MockOp Unit) : HandledCall Unit :=
  ⟨demoThrowing, op, (op.run demoThrowing s).1⟩

theorem demoCallAt_calls (s : MockState Unit) (op : MockOp Unit) :
    Calls s (demoCallAt s op) (op.run demoThrowing s).2 := rfl

/-- A handler is subscribed before any event. -/
def demoSubscribed : MockState Unit := MockState.fresh.setHandlers [()]

theorem demo_subscribed : Run Calls .fresh [demoCallAt .fresh (.subscribeEvents ())] demoSubscribed :=
  Run.single (demoCallAt_calls .fresh (.subscribeEvents ()))

/-- An attestation is on record; a challenge of another one changes nothing. -/
theorem rejected_harmless_iff_demo : ∃ (s s' : MockState Unit) (c : HandledCall Unit),
    Run Calls .fresh [demoCallAt .fresh (.submitAttestation demoAttestationArgs)] s ∧ Calls s c s' ∧
    (s.attestations.get 1).isSome ∧ c.op = .challenge 7 ∧ c.result.toOption = none ∧ c.Harmless s s' := by
  have hstored := Run.single (demoCallAt_calls .fresh (.submitAttestation demoAttestationArgs))
  have hrun := hstored.snoc (demoCallAt_calls _ (.challenge 7))
  obtain ⟨s₁, s₂, h₁, hc, -, hiff⟩ := rejected_harmless_iff hrun
  obtain rfl := h₁.functional (fun _ _ _ _ h h' => (Prod.mk.inj (h.symm.trans h')).2) hstored
  refine ⟨_, _, _, hstored, hc, by decide +kernel, rfl, by decide +kernel, hiff.2 ?_⟩
  intro attestation hget
  cases hget

/-- An attestation is rejected because of the handler, and it is stored. -/
theorem rejected_attestation_stored : ∃ s c s', Run Calls .fresh [demoCallAt .fresh (.subscribeEvents ())] s ∧
    Calls s c s' ∧ c.op = .submitAttestation demoAttestationArgs ∧ c.result.toOption = none ∧
    s.attestations.get 1 = none ∧ (s'.attestations.get 1).isSome ∧ s'.nextAttestationId = 2 ∧ ¬ c.Harmless s s' := by
  have hresult : (demoCallAt demoSubscribed (.submitAttestation demoAttestationArgs)).result.toOption = none := by
    decide +kernel
  refine ⟨demoSubscribed, demoCallAt demoSubscribed (.submitAttestation demoAttestationArgs), _, demo_subscribed,
    demoCallAt_calls _ _, rfl, hresult, rfl, by decide +kernel, by decide +kernel, ?_⟩
  intro hharmless
  cases hr : (demoCallAt demoSubscribed (.submitAttestation demoAttestationArgs)).result with
  | ok r => rw [hr] at hresult; cases hresult
  | error e =>
    rcases hharmless e hr with hbooks | ⟨p, id, hop, -⟩
    · have hnext := congrArg Books.nextAttestationId hbooks
      revert hnext
      decide +kernel
    · cases hop

end CasperProof.Sdk
