/-
  The dispute protocol in the mock backend — exactly when `submitAttestation`,
  `challenge` and `resolve` return, and what they leave behind.

  A backend without event handlers throws before it changes anything, but for
  the deploy hash, whose payload has to be canonical: an id that is no safe
  integer has none.
-/
import CasperProof.Sdk.MockBackend

namespace CasperProof.Sdk

open Js Json Commitment

variable {H : Type} {env : MockEnv H} {s s' : MockState H} {id n : ℕ} {label : JsString} {payload : Value}

/-! ## The deploy hash -/

theorem number_canonical : (∃ i, assertCanonicalNumber (number n) = .ok i) ↔ n ≤ maxSafeInteger := by
  have hint : (number n).toInt? = some (n : ℤ) := by simp [number, JsNumber.toInt?]
  have hfin : (number n).isFinite = true := rfl
  simp only [assertCanonicalNumber, hfin, hint, Bool.not_true, Bool.false_eq_true, if_false, Int.natAbs_natCast]
  constructor
  · rintro ⟨i, hi⟩
    split at hi
    · assumption
    · cases hi
  · intro hle
    exact ⟨_, dif_pos hle⟩

/-- The deploy counter always fits. -/
theorem nextCount_leU64 (n : ℕ) : ∃ bs, leU64 (number (nextCount n)) = .ok bs :=
  ⟨_, leU64_eq_ok.2 ⟨nextCount n, by simp [number, JsNumber.toInt?],
    (min_le_right _ _).trans_lt (by norm_num), rfl⟩⟩

/-- The hash of an accepted payload. -/
theorem deployHash_accepts (env : MockEnv H) (label : JsString) (ha : Accepted payload) :
    ∃ hash, (deployHash env label payload).Returns s hash (s.setDeployCounter (nextCount s.deployCounter)) := by
  obtain ⟨bs, hbs⟩ := nextCount_leU64 s.deployCounter
  obtain ⟨text, htext⟩ : ∃ text, canonicalize payload = .ok text := ⟨_, canonicalize_ok.2 ⟨ha, rfl⟩⟩
  refine ⟨toHex (env.blake2b256 (concatBytes [textEncode label, bs, textEncode text])).toList, ?_⟩
  simp only [deployHash, Op.bind_returns, Op.get_returns, Op.modify_returns, Op.lift_returns, Op.pure_returns]
  exact ⟨s, s, ⟨rfl, rfl⟩, ⟨⟩, _, rfl, bs, _, ⟨hbs, rfl⟩, text, _, ⟨htext, rfl⟩, rfl, rfl⟩

theorem deployHash_accepted {hash : JsString} (h : (deployHash env label payload).Returns s hash s') :
    Accepted payload := by
  simp only [deployHash, Op.bind_returns, Op.get_returns, Op.modify_returns, Op.lift_returns, Op.pure_returns] at h
  obtain ⟨_, _, ⟨rfl, rfl⟩, _, _, rfl, _, _, ⟨-, rfl⟩, _, _, ⟨hc, -⟩, -⟩ := h
  exact (canonicalize_ok.1 hc).1

/-- No handler throws on the event. -/
def Quiet (env : MockEnv H) (s : MockState H) (event : CasperProofEvent) : Prop :=
  ∀ h ∈ s.handlers, env.throws h event = false

theorem quiet_of_no_handlers {event : CasperProofEvent} (hh : s.handlers = []) : Quiet env s event := by
  intro h hmem
  rw [hh] at hmem
  cases hmem

/-- An event on which no handler throws is only recorded. -/
theorem emit_accepts {event : CasperProofEvent} (hq : Quiet env s event) :
    (emit env event).Returns s ⟨⟩ (s.record event) := by
  refine Op.Returns.bind Op.returns_modify (Op.Returns.bind Op.returns_get (Op.returns_failIf ?_))
  simpa [Quiet] using hq

/-- The end of an operation that has written its part of the state: the hash,
    the event, and the result. -/
def announcement {α : Type} (env : MockEnv H) (label : JsString) (payload : Value) (event : CasperProofEvent)
    (f : JsString → α) : BackendOp H α := do
  let hash ← deployHash env label payload
  emit env event
  pure (f hash)

theorem announcement_accepts {α : Type} (label : JsString) {event : CasperProofEvent} (ha : Accepted payload)
    (hq : Quiet env s event) (f : JsString → α) :
    ∃ hash, (announcement env label payload event f).Returns s (f hash)
      ((s.setDeployCounter (nextCount s.deployCounter)).record event) := by
  obtain ⟨hash, hhash⟩ := deployHash_accepts env label ha
  have hquiet : Quiet env (s.setDeployCounter (nextCount s.deployCounter)) event := hq
  exact ⟨hash, hhash.bind ((emit_accepts hquiet).bind (f := fun _ => pure (f hash)) Op.returns_pure)⟩

/-! ## Submissions -/

section
variable {args : SubmitAttestationArgs} {stake : ℤ} {hashes : CommitmentResult}

/-- A stake below the minimum changes nothing. -/
theorem submitAttestation_rejects (env : MockEnv H) (hstake : bigInt args.stake = some stake)
    (hmin : stake < mockMinStake) :
    (submitAttestation env args).Throws s (.insufficientStake (decimal mockMinStake) args.stake) s := by
  exact (Op.returns_orFail hstake).bind_throws (Op.throws_failIf hmin).bind

/-- The checks of `submitAttestation`, with the hashes it computes. -/
structure Passes (env : MockEnv H) (args : SubmitAttestationArgs) (hashes : CommitmentResult) : Prop where
  stake : ∃ stake, bigInt args.stake = some stake ∧ ¬ stake < mockMinStake
  hashes : computeCommitment env.blake2b256
    ⟨args.input, args.output, args.modelId, args.timestamp.getD env.now⟩ = .ok hashes

/-- The backend with one more attestation. -/
def MockState.submitted (env : MockEnv H) (s : MockState H) (args : SubmitAttestationArgs)
    (hashes : CommitmentResult) : MockState H :=
  (s.setNextAttestationId (s.nextAttestationId + 1)).setAttestation s.nextAttestationId
    (newAttestation args hashes (args.timestamp.getD env.now) s.nextAttestationId)

theorem submitAttestation_refused (env : MockEnv H) (h : ∀ hashes, ¬ Passes env args hashes) :
    ∃ e, (submitAttestation env args).Throws s e s := by
  cases hstake : bigInt args.stake with
  | none => exact ⟨_, (Op.throws_orFail hstake).bind⟩
  | some stake =>
    by_cases hmin : stake < mockMinStake
    · exact ⟨_, submitAttestation_rejects env hstake hmin⟩
    cases hhashes : computeCommitment env.blake2b256
        ⟨args.input, args.output, args.modelId, args.timestamp.getD env.now⟩ with
    | ok hashes => exact absurd ⟨⟨stake, hstake, hmin⟩, hhashes⟩ (h hashes)
    | error e =>
      exact ⟨.commitment e, (Op.returns_orFail hstake).bind_throws ((Op.returns_failIf hmin).bind_throws
        (Op.Throws.bind (Op.lift_throws.2 ⟨⟨e, hhashes, rfl⟩, rfl⟩)))⟩

/-- A submission that passes its checks is stored, and announced. -/
theorem submitAttestation_announces (h : Passes env args hashes) :
    submitAttestation env args s = announcement env (lit "submit_attestation")
      (.obj [(lit "id", .num (number s.nextAttestationId)), (lit "commitment", .str hashes.commitment)])
      ⟨.attestationSubmitted, s.nextAttestationId, args.timestamp.getD env.now,
        .obj [(lit "attestor", .str (args.attestor.getD mockAccount)), (lit "modelId", .str args.modelId)]⟩
      (fun hash => ⟨s.nextAttestationId, hash, hashes.commitment, hashes.inputHash, hashes.outputHash, .active⟩)
      (s.submitted env args hashes) := by
  obtain ⟨⟨stake, hstake, hmin⟩, hhashes⟩ := h
  rw [submitAttestation, Op.bind_of_returns (Op.returns_orFail hstake),
    Op.bind_of_returns (Op.returns_failIf hmin), Op.bind_of_returns (Op.lift_returns.2 ⟨hhashes, rfl⟩),
    Op.bind_of_returns Op.returns_get, Op.bind_of_returns Op.returns_modify]
  rfl

/-- The payload of a submission's hash. -/
theorem submission_canonical (commitment : JsString) :
    Accepted (.obj [(lit "id", .num (number id)), (lit "commitment", .str commitment)]) ↔ id ≤ maxSafeInteger := by
  rw [← number_canonical]
  simp [Accepted, Every, EveryMember]

/-- **When a submission is accepted**, and what it leaves behind. -/
theorem submitAttestation_accepts (env : MockEnv H) (hh : s.handlers = [])
    (hstake : bigInt args.stake = some stake) (hmin : ¬ stake < mockMinStake)
    (hhashes : computeCommitment env.blake2b256
      ⟨args.input, args.output, args.modelId, args.timestamp.getD env.now⟩ = .ok hashes)
    (hid : s.nextAttestationId ≤ maxSafeInteger) :
    ∃ r e, (submitAttestation env args).Returns s r
      ((((s.setNextAttestationId (s.nextAttestationId + 1)).setAttestation s.nextAttestationId
        (newAttestation args hashes (args.timestamp.getD env.now) s.nextAttestationId)).setDeployCounter
          (nextCount s.deployCounter)).record e) := by
  have hquiet : ∀ event, Quiet env (s.submitted env args hashes) event := fun _ => quiet_of_no_handlers hh
  obtain ⟨hash, htail⟩ := announcement_accepts (lit "submit_attestation")
    ((submission_canonical hashes.commitment).2 hid) (hquiet _) _
  exact ⟨_, _, (submitAttestation_announces ⟨⟨stake, hstake, hmin⟩, hhashes⟩).trans htail⟩

/-- An id that is no safe integer is not accepted. -/
theorem submitAttestation_safe {r : SubmitAttestationResult} (h : (submitAttestation env args).Returns s r s') :
    s.nextAttestationId ≤ maxSafeInteger := by
  simp only [submitAttestation, Op.bind_returns, Op.get_returns, Op.modify_returns, Op.orFail_returns,
    Op.failIf_returns, Op.lift_returns, Op.pure_returns] at h
  obtain ⟨_, _, ⟨-, rfl⟩, _, _, ⟨-, rfl⟩, _, _, ⟨-, rfl⟩, _, _, ⟨rfl, rfl⟩, _, _, rfl, _, _, hd, -⟩ := h
  exact (submission_canonical _).1 (deployHash_accepted hd)

end

/-! ## Challenges and resolutions -/

section
variable {α : Type} {k : MockState H → Attestation → BackendOp H α} {r : α} {attestation : Attestation}
  {fraudulent : Bool}

/-- Both look their attestation up first. -/
theorem lookup_throws
    (h : ∀ attestation, s.attestations.get id = some attestation → ∃ e, (k s attestation).Throws s e s) :
    ∃ e, (do
      let s ← Op.get
      let attestation ← Op.orFail (s.attestations.get id) (.attestationNotFound id)
      k s attestation : BackendOp H α).Throws s e s := by
  cases hget : s.attestations.get id with
  | none => exact ⟨_, Op.returns_get.bind_throws (Op.throws_orFail hget).bind⟩
  | some attestation =>
    obtain ⟨e, he⟩ := h attestation hget
    exact ⟨e, Op.returns_get.bind_throws ((Op.returns_orFail hget).bind_throws he)⟩

/-- The payload of a challenge's hash. -/
theorem challenge_canonical : Accepted (.obj [(lit "id", .num (number id))]) ↔ id ≤ maxSafeInteger := by
  rw [← number_canonical]
  simp [Accepted, Every, EveryMember]

/-- A challenge of an active attestation is stored, and announced. -/
theorem challenge_announces (hget : s.attestations.get id = some attestation) (hst : attestation.status = .active) :
    challenge env id s = announcement env (lit "challenge") (.obj [(lit "id", .num (number id))])
      ⟨.challenged, id, env.now, .obj [(lit "challenger", .str mockAccount)]⟩
      (fun hash => ⟨hash, some id, some .challenged⟩)
      (s.setAttestation id (challengedAttestation attestation)) := by
  have hnot : ¬ attestation.status = .challenged := by simp [hst]
  rw [challenge, Op.bind_of_returns Op.returns_get, Op.bind_of_returns (Op.returns_orFail hget),
    Op.bind_of_returns (Op.returns_failIf hnot), Op.bind_of_returns (Op.returns_failIf (not_not.2 hst)),
    Op.bind_of_returns Op.returns_modify]
  rfl

theorem challenge_accepts (env : MockEnv H) (hh : s.handlers = [])
    (hget : s.attestations.get id = some attestation) (hst : attestation.status = .active)
    (hid : id ≤ maxSafeInteger) :
    ∃ r e, (challenge env id).Returns s r (((s.setAttestation id (challengedAttestation attestation)).setDeployCounter
      (nextCount s.deployCounter)).record e) := by
  have hquiet : ∀ event, Quiet env (s.setAttestation id (challengedAttestation attestation)) event :=
    fun _ => quiet_of_no_handlers hh
  obtain ⟨hash, htail⟩ := announcement_accepts (lit "challenge") (challenge_canonical.2 hid) (hquiet _) _
  exact ⟨_, _, (challenge_announces hget hst).trans htail⟩

/-- Only an active attestation is challenged; else nothing changes. -/
theorem challenge_rejects (env : MockEnv H) (id : ℕ)
    (h : ∀ attestation, s.attestations.get id = some attestation → attestation.status ≠ .active) :
    ∃ e, (challenge env id).Throws s e s := by
  refine lookup_throws fun attestation hget => ?_
  by_cases hst : attestation.status = .challenged
  · exact ⟨_, (Op.throws_failIf hst).bind⟩
  · have hactive : attestation.status ≠ .active := h attestation hget
    exact ⟨_, (Op.returns_failIf hst).bind_throws (Op.throws_failIf hactive).bind⟩

/-- The payload of a resolution's hash. -/
theorem resolution_canonical :
    Accepted (.obj [(lit "id", .num (number id)), (lit "fraudulent", .bool fraudulent)]) ↔ id ≤ maxSafeInteger := by
  rw [← number_canonical]
  simp [Accepted, Every, EveryMember]

/-- `rep` returns the counters of an address, and makes sure that they are
    stored, where `resolve` overwrites them. -/
theorem rep_returns (address : JsString) :
    ∃ s', (rep address).Returns s (s.reputations.getD address {}) s' ∧ ∀ id a counters,
      (s'.setAttestation id a).setReputation address counters =
        (s.setAttestation id a).setReputation address counters := by
  cases hget : s.reputations.get address with
  | none =>
    refine ⟨s.setReputation address {}, Op.returns_get.bind ?_, fun id a counters => ?_⟩
    · simp only [hget, Mapping.getD, Option.getD_none]
      exact Op.returns_modify.bind Op.returns_pure
    · simp only [MockState.setReputation, MockState.setAttestation, Mapping.set_set]
  | some counters =>
    refine ⟨s, Op.returns_get.bind ?_, fun _ _ _ => rfl⟩
    simp only [hget, Mapping.getD, Option.getD_some]
    exact Op.returns_pure

/-- The backend with a resolved attestation. -/
def MockState.resolved (s : MockState H) (id : ℕ) (attestation : Attestation) (fraudulent : Bool) : MockState H :=
  (s.setAttestation id { attestation with status := verdict fraudulent }).setReputation attestation.attestor
    (resolvedCounters fraudulent (s.reputations.getD attestation.attestor {}))

/-- A resolution of a challenged attestation is stored, and announced. -/
theorem resolve_announces (hget : s.attestations.get id = some attestation)
    (hst : attestation.status = .challenged) :
    resolve env id fraudulent s = announcement env (lit "resolve")
      (.obj [(lit "id", .num (number id)), (lit "fraudulent", .bool fraudulent)])
      ⟨.resolved, id, env.now, .obj [(lit "fraudulent", .bool fraudulent)]⟩
      (fun hash => ⟨hash, some id, some (verdict fraudulent)⟩) (s.resolved id attestation fraudulent) := by
  obtain ⟨s₁, hrep, hset⟩ := rep_returns (s := s) attestation.attestor
  have hset₁ := hset id { attestation with status := verdict fraudulent }
    (resolvedCounters fraudulent (s.reputations.getD attestation.attestor {}))
  rw [resolve, Op.bind_of_returns Op.returns_get, Op.bind_of_returns (Op.returns_orFail hget),
    Op.bind_of_returns (Op.returns_failIf (not_not.2 hst)), Op.bind_of_returns hrep,
    Op.bind_of_returns Op.returns_modify, hset₁]
  rfl

theorem resolve_accepts (env : MockEnv H) (fraudulent : Bool) (hh : s.handlers = [])
    (hget : s.attestations.get id = some attestation)
    (hst : attestation.status = .challenged) (hid : id ≤ maxSafeInteger) :
    ∃ r e, (resolve env id fraudulent).Returns s r
      ((((s.setAttestation id { attestation with status := verdict fraudulent }).setReputation attestation.attestor
        (resolvedCounters fraudulent (s.reputations.getD attestation.attestor {}))).setDeployCounter
          (nextCount s.deployCounter)).record e) := by
  have hquiet : ∀ event, Quiet env (s.resolved id attestation fraudulent) event := fun _ => quiet_of_no_handlers hh
  obtain ⟨hash, htail⟩ := announcement_accepts (lit "resolve") (resolution_canonical.2 hid) (hquiet _) _
  exact ⟨_, _, (resolve_announces hget hst).trans htail⟩

/-- Only a challenged attestation is resolved; else nothing changes. -/
theorem resolve_rejects (env : MockEnv H) (id : ℕ) (fraudulent : Bool)
    (h : ∀ attestation, s.attestations.get id = some attestation → attestation.status ≠ .challenged) :
    ∃ e, (resolve env id fraudulent).Throws s e s := by
  refine lookup_throws fun attestation hget => ?_
  have hopen : attestation.status ≠ .challenged := h attestation hget
  exact ⟨_, (Op.throws_failIf hopen).bind⟩

end

end CasperProof.Sdk
