/-
  The records and the store together.

  * `Sound`: every attestation on record is vouched for by a payload in the
    store.  All that the SDK, an agent and the store do keeps this, as long as
    attestations are made by `attest` and no two payloads have the same digest.
  * `Sound.verdict`: then `verify` finds every attestation on record valid, and
    throws for no other reason than that there is none.
-/
import CasperProof.Agent.Cli
import Mathlib.Data.Set.Function

namespace CasperProof.Agent

open Js Commitment Sdk

variable {H : Type} {blake2b256 : Blake2b} {env : MockEnv H} {bucket : JsString} {P : Set Bytes} {w w' : AgentState H}

/-- The attestations on record are vouched for, by payloads in `P`. -/
def Sound (blake2b256 : Blake2b) (bucket : JsString) (P : Set Bytes) (w : AgentState H) : Prop :=
  ∀ id a, w.1.attestations.get id = some a →
    ∃ args timestamp bytes, bytes ∈ P ∧ Vouched blake2b256 bucket w.2 a args timestamp bytes

/-- What is on record, by id. -/
def records (s : MockState H) : ℕ → Option (CommitmentResult × JsString) := fun id =>
  (s.attestations.get id).map recordOf

/-! ## Vouching is kept -/

section
variable {s : MemoryBackend} {a a' : Sdk.Attestation} {args : AttestArgs} {timestamp : JsNumber} {bytes bytes' : Bytes}

theorem Vouched.of_record (h : Vouched blake2b256 bucket s a args timestamp bytes) (ha : recordOf a' = recordOf a) :
    Vouched blake2b256 bucket s a' args timestamp bytes := by
  obtain ⟨hhashes, huri⟩ := Prod.mk.inj ha
  exact ⟨h.input, h.output, h.canonical, hhashes ▸ h.hashes, huri.trans h.uri, h.held⟩

/-- A payload is only overwritten by itself. -/
theorem Vouched.put (hinj : Set.InjOn blake2b256 P) (h : Vouched blake2b256 bucket s a args timestamp bytes)
    (hbytes : bytes ∈ P) (hbytes' : bytes' ∈ P) :
    Vouched blake2b256 bucket (s.set (MemoryBackend.ref bucket (PayloadStore.contentKey blake2b256 bytes')) bytes')
      a args timestamp bytes := by
  refine ⟨h.input, h.output, h.canonical, h.hashes, h.uri, ?_⟩
  rw [Mapping.get_set]
  split_ifs with href
  · rw [hinj hbytes' hbytes (toHex_digest_injective (ref_inj href.symm))]
  · exact h.held

end

theorem Sound.of_records (hw : Sound blake2b256 bucket P w) (hrecords : records w'.1 = records w.1)
    (hstore : w'.2 = w.2) : Sound blake2b256 bucket P w' := by
  intro id a' hget
  have hid : (w'.1.attestations.get id).map recordOf = (w.1.attestations.get id).map recordOf := congrFun hrecords id
  rw [hget, Option.map_some] at hid
  obtain ⟨a, hget₀, hrecord⟩ := Option.map_eq_some_iff.1 hid.symm
  obtain ⟨args, timestamp, bytes, hbytes, hvouched⟩ := hw id a hget₀
  exact ⟨args, timestamp, bytes, hbytes, hstore ▸ hvouched.of_record hrecord.symm⟩

theorem Sound.put (hinj : Set.InjOn blake2b256 P) (hw : Sound blake2b256 bucket P w) {s : MockState H}
    (hattestations : s.attestations = w.1.attestations) {bytes' : Bytes} (hbytes' : bytes' ∈ P) :
    Sound blake2b256 bucket P
      (s, w.2.set (MemoryBackend.ref bucket (PayloadStore.contentKey blake2b256 bytes')) bytes') := by
  intro id a hget
  rw [hattestations] at hget
  obtain ⟨args, timestamp, bytes, hbytes, hvouched⟩ := hw id a hget
  exact ⟨args, timestamp, bytes, hbytes, hvouched.put hinj hbytes hbytes'⟩

theorem books_attestations {s s' : MockState H} (h : s'.books = s.books) : s'.attestations = s.attestations :=
  congrArg Books.attestations h

/-- **`attest` makes no unsound record**, whether it returns or throws. -/
theorem attest_sound (hinj : Set.InjOn env.blake2b256 P) (now : JsNumber) {args : AttestArgs}
    (hin : args.input.Distinct) (hout : args.output.Distinct) (config : AgentConfig)
    (hP : ∀ bytes, canonicalBytes (attestPayload args (args.timestamp.getD now)) = .ok bytes → bytes ∈ P) :
    Op.Preserves (Sound env.blake2b256 bucket P) (attest env bucket now args config) := by
  intro w hw
  have heffect := attest_effect env bucket now args config w
  generalize (attest _ _ _ _ _ w).2 = w' at heffect ⊢
  rcases heffect with _ | ⟨hbytes, hbooks⟩ | ⟨hbytes, hpasses, hbooks⟩
  · exact hw
  · exact hw.put hinj (books_attestations hbooks) (hP _ hbytes)
  · rename_i bytes s hashes
    intro id a hget
    rw [books_attestations hbooks] at hget
    change (w.1.attestations.set w.1.nextAttestationId _).get id = some a at hget
    rw [Mapping.get_set] at hget
    split_ifs at hget with hid
    · cases hget
      refine ⟨args, _, bytes, hP _ hbytes, hin, hout, hbytes, hpasses.hashes, rfl, ?_⟩
      rw [Mapping.get_set, if_pos rfl]
    · exact hw.put hinj rfl (hP _ hbytes) id a hget

/-! ## The SDK -/

theorem records_set {s s' : MockState H} {id : ℕ} {a : Sdk.Attestation} (hget : s.attestations.get id = some a)
    (a' : Sdk.Attestation) (ha : recordOf a' = recordOf a) (hset : s'.attestations = s.attestations.set id a') :
    records s' = records s := by
  funext id'
  rw [records, records, hset, Mapping.get_set]
  split_ifs with hid
  · rw [hid, hget, Option.map_some, Option.map_some, ha]
  · rfl

theorem records_of_books {s s' : MockState H} (h : s'.books = s.books) : records s' = records s := by
  unfold records
  rw [books_attestations h]

theorem challenge_records (id : ℕ) : Op.Keeps records (challenge env id) := by
  intro s
  rcases challenge_effect env id s with hbooks | ⟨a, hget, -, hbooks⟩
  · exact records_of_books hbooks
  · exact records_set hget (challengedAttestation a) rfl (books_attestations hbooks)

theorem resolve_records (id : ℕ) (fraudulent : Bool) : Op.Keeps records (resolve env id fraudulent) := by
  intro s
  by_cases hchallenged : ∃ a, s.attestations.get id = some a ∧ a.status = .challenged
  · obtain ⟨a, hget, hst⟩ := hchallenged
    rw [resolve_announces hget hst]
    exact (records_of_books (announcement_books _)).trans
      (records_set hget { a with status := verdict fraudulent } rfl rfl)
  · obtain ⟨e, he⟩ := resolve_rejects (s := s) env id fraudulent fun a hget hst => hchallenged ⟨a, hget, hst⟩
    rw [he]

/-- A bare `submitAttestation`, which stores no payload. -/
def Submits (op : MockOp H) : Prop := ∃ args, op = .submitAttestation args

/-- **No other SDK call makes or changes a record.** -/
theorem mockOp_records [DecidableEq H] {op : MockOp H} (hop : ¬ Submits op) : Op.Keeps records (op.run env) := by
  cases op with
  | submitAttestation args => exact absurd ⟨args, rfl⟩ hop
  | challenge id => exact (challenge_records id).bind fun _ => .pure _
  | resolve id fraudulent => exact (resolve_records id fraudulent).bind fun _ => .pure _
  | createPolicy _ | submitClaim _ _ | stake _ | unstake _ | getAttestation _ | attestationCount
  | attestorReputation _ | getPolicy _ | getRiskScore _ | subscribeEvents _ | unsubscribe _ =>
    refine MockOp.keeps_of_writes _ fun s s' hw => ?_
    cases hw <;> rfl

theorem submitClaim_records (policyId attestationId : ℕ) :
    Op.Keeps records (submitClaim env policyId attestationId) := by
  classical
  have hclaim : Op.Keeps records (MockOp.run env (.submitClaim policyId attestationId)) :=
    mockOp_records (by rintro ⟨_, h⟩; cases h)
  exact hclaim.of_map

theorem sdk_sound {α : Type} {x : BackendOp H α} (hx : Op.Keeps records x) :
    Op.Preserves (Sound blake2b256 bucket P) (Op.onFst AgentError.sdk x) :=
  fun w hw => hw.of_records (hx w.1) rfl

/-! ## The runtime -/

namespace Runtime

variable {r : AgentRuntime} {m : Surroundings H} {ctx : RuntimeContext}

/-- The payload that a cycle stores. -/
def AgentRuntime.Writes (r : AgentRuntime) (blake2b256 : Blake2b) (m : Surroundings H) (ctx : RuntimeContext)
    (bytes : Bytes) : Prop :=
  ∃ decision address, r.backend.decide ctx m.endpoint = .ok decision ∧ decision.action = .attest ∧
    decision.address.or ctx.address = some address ∧
    canonicalBytes (attestPayload (r.attestArgs blake2b256 address) m.now) = .ok bytes

/-- **A cycle makes no unsound record.** -/
theorem runOnce_sound (hinj : Set.InjOn blake2b256 P) (hP : ∀ bytes, r.Writes blake2b256 m ctx bytes → bytes ∈ P) :
    Op.Preserves (Sound blake2b256 r.bucket P) (r.runOnce blake2b256 m ctx) := by
  show Op.Effects (fun w w' => Sound blake2b256 r.bucket P w → Sound blake2b256 r.bucket P w') (r.runOnce blake2b256 m ctx)
  refine .lift_bind (fun _ => id) fun decision hdecision => (execute_effects (fun _ => id) m decision ctx ?_ ?_).map _
  · intro address haction haddress
    obtain ⟨hin, hout⟩ := attestArgs_distinct r blake2b256 address
    have hsame : Set.InjOn (m.env blake2b256).blake2b256 P := hinj
    exact attest_sound hsame m.now hin hout _ fun bytes hbytes =>
      hP bytes ⟨decision, address, hdecision, haction, haddress, hbytes⟩
  · exact fun id w => sdk_sound (challenge_records id) w

end Runtime

/-! ## What is found -/

section
variable {id : ℕ} {a : Sdk.Attestation}

/-- The verdict says that the attestation is valid. -/
structure Certifies (a : Sdk.Attestation) (v : VerifyResult) : Prop where
  valid : v.valid = true
  recomputed : v.recomputedHash = a.outputHash
  onchain : v.onchainHash = a.outputHash
  about : (v.attestor, v.stake, v.uri) = (a.attestor, a.stake, a.uri)

/-- What a verdict repeats of the attestation. -/
theorem verify_repeats {v : VerifyResult} (hget : w.1.attestations.get id = some a)
    (h : (verify env id).Returns w v w') :
    v.onchainHash = a.outputHash ∧ (v.attestor, v.stake, v.uri) = (a.attestor, a.stake, a.uri) := by
  simp only [verify, Op.bind_returns, Op.onFst_returns, Op.onSnd_returns, getAttestation_returns, Op.pure_returns] at h
  obtain ⟨a', _, ⟨⟨hget', -⟩, -⟩, _, _, -, _, _, -, _, _, -, rfl, -⟩ := h
  cases hget.symm.trans hget'
  exact ⟨rfl, rfl⟩

/-- **What is on record is valid.** -/
theorem Sound.verdict (hw : Sound env.blake2b256 bucket P w) (hbucket : Addressable bucket)
    (hget : w.1.attestations.get id = some a) : ∃ v, (verify env id).Returns w v w ∧ Certifies a v := by
  obtain ⟨args, timestamp, bytes, -, hvouched⟩ := hw id a hget
  obtain ⟨v, hv, hrecomputed, hvalid⟩ := hvouched.verifies hget hbucket
  obtain ⟨honchain, habout⟩ := verify_repeats hget hv
  exact ⟨v, hv, hvalid, hrecomputed, honchain, habout⟩

/-- What is served under its URI is valid for it. -/
theorem Sound.payload (hw : Sound blake2b256 bucket P w) (hbucket : Addressable bucket)
    (hget : w.1.attestations.get id = some a) : ∃ payload, (PayloadStore.getJson a.uri).Returns w.2 payload w.2 ∧
      checkPayload blake2b256 a payload = .ok (a.outputHash, true) := by
  obtain ⟨args, timestamp, bytes, -, hvouched⟩ := hw id a hget
  exact ⟨_, hvouched.getJson hbucket, hvouched.checkPayload⟩

theorem getAttestation_found (hget : w.1.attestations.get id = some a) :
    (Op.onFst AgentError.sdk (getAttestation id) : AgentOp H Sdk.Attestation).Returns w a w :=
  Op.onFst_returns.2 ⟨getAttestation_returns.2 ⟨hget, rfl⟩, rfl⟩

theorem getAttestation_notFound (hget : w.1.attestations.get id = none) :
    (Op.onFst AgentError.sdk (getAttestation id) : AgentOp H Sdk.Attestation).Throws w
      (.sdk (.attestationNotFound id)) w :=
  Op.onFst_throws.2 ⟨⟨_, Op.returns_get.bind_throws (Op.throws_orFail hget), rfl⟩, rfl⟩

/-- What is not on record is not found. -/
theorem verify_notFound (env : MockEnv H) (hget : w.1.attestations.get id = none) :
    (verify env id).Throws w (.sdk (.attestationNotFound id)) w := (getAttestation_notFound hget).bind

end

end CasperProof.Agent
