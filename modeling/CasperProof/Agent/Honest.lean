/-
  The honest path — an attestation whose payload nobody touches is valid.

  * `AgentStep`: one call of the attestor, the store or the SDK, whether it
    returns or throws.
  * `Stored`: the attestation is on record, and its payload is in the store.
    Every step keeps this (`Stored.step`): a payload is only overwritten by
    one with the same digest.
  * `attested_verifies`: so the payload reads back, and `verify` finds it
    valid.
-/
import CasperProof.Agent.Tamper
import CasperProof.Commitment.ReadBack
import CasperProof.Lib.Run
import CasperProof.Sdk.Rejection

namespace CasperProof.Agent

open Js Commitment Sdk
open Json (lookup)

variable {H : Type} {env : MockEnv H} {blake2b256 : Blake2b} {bucket : JsString} {id : ℕ}
  {record : CommitmentResult × JsString} {bytes bytes' : Bytes}

/-! ## Records -/

/-- The attestation `id` says `record`, and its id is not given again. -/
structure Recorded (id : ℕ) (record : CommitmentResult × JsString) (s : MockState H) : Prop where
  kept : (s.attestations.get id).map recordOf = some record
  older : id < s.nextAttestationId

theorem Recorded.of_books {s s' : MockState H} (h : s'.books = s.books) (hs : Recorded id record s) :
    Recorded id record s' := by
  have hattestations : s'.attestations = s.attestations := congrArg Books.attestations h
  have hnext : s'.nextAttestationId = s.nextAttestationId := congrArg Books.nextAttestationId h
  exact ⟨hattestations ▸ hs.kept, hnext ▸ hs.older⟩

/-- Another attestation may be stored, or the same with another status. -/
theorem Recorded.set {s s' : MockState H} {id' : ℕ} {a : Sdk.Attestation} (hs : Recorded id record s)
    (hset : s'.attestations = s.attestations.set id' a) (hnext : s.nextAttestationId ≤ s'.nextAttestationId)
    (ha : id = id' → recordOf a = record) : Recorded id record s' := by
  refine ⟨?_, hs.older.trans_le hnext⟩
  rw [hset, Mapping.get_set]
  split_ifs with hid
  · rw [Option.map_some, ha hid]
  · exact hs.kept

theorem Recorded.of_get {s : MockState H} {a : Sdk.Attestation} (hs : Recorded id record s)
    (hget : s.attestations.get id = some a) : recordOf a = record := by
  have hkept := hs.kept
  rwa [hget, Option.map_some, Option.some.injEq] at hkept

theorem submitAttestation_recorded {args : SubmitAttestationArgs} :
    Op.Preserves (Recorded id record) (submitAttestation env args) := by
  intro s hs
  by_cases hpasses : ∃ hashes, Passes env args hashes
  · obtain ⟨hashes, hp⟩ := hpasses
    rw [submitAttestation_announces hp]
    refine Recorded.of_books (announcement_books _) (hs.set rfl (Nat.le_succ _) ?_)
    intro hid
    exact absurd hid hs.older.ne
  · obtain ⟨e, he⟩ := submitAttestation_refused env (not_exists.1 hpasses)
    rwa [he]

/-- A change of an attestation that keeps its record, and its announcement. -/
theorem Recorded.announce {α : Type} {s t : MockState H} {id' : ℕ} {a a' : Sdk.Attestation} {label : JsString}
    {payload : Value} {event : CasperProofEvent} {f : JsString → α} (hs : Recorded id record s)
    (hget : s.attestations.get id' = some a) (hset : t.attestations = s.attestations.set id' a')
    (hnext : t.nextAttestationId = s.nextAttestationId) (ha : recordOf a' = recordOf a) :
    Recorded id record (announcement env label payload event f t).2 := by
  refine Recorded.of_books (announcement_books t) (hs.set hset hnext.ge ?_)
  rintro rfl
  exact ha.trans (hs.of_get hget)

theorem challenge_recorded {id' : ℕ} : Op.Preserves (Recorded id record) (challenge env id') := by
  intro s hs
  by_cases hactive : ∃ a, s.attestations.get id' = some a ∧ a.status = .active
  · obtain ⟨a, hget, hst⟩ := hactive
    rw [challenge_announces hget hst]
    exact hs.announce hget rfl rfl rfl
  · obtain ⟨e, he⟩ := challenge_rejects (s := s) env id' fun a hget hst => hactive ⟨a, hget, hst⟩
    rwa [he]

theorem resolve_recorded {id' : ℕ} {fraudulent : Bool} :
    Op.Preserves (Recorded id record) (resolve env id' fraudulent) := by
  intro s hs
  by_cases hchallenged : ∃ a, s.attestations.get id' = some a ∧ a.status = .challenged
  · obtain ⟨a, hget, hst⟩ := hchallenged
    rw [resolve_announces hget hst]
    exact hs.announce hget rfl rfl rfl
  · obtain ⟨e, he⟩ := resolve_rejects (s := s) env id' fraudulent fun a hget hst => hchallenged ⟨a, hget, hst⟩
    rwa [he]

/-- The attestations and their counter. -/
def registry (s : MockState H) : Mapping ℕ Sdk.Attestation × ℕ := (s.attestations, s.nextAttestationId)

theorem recorded_of_keeps {α : Type} {x : BackendOp H α} (hx : Op.Keeps registry x) :
    Op.Preserves (Recorded id record) x := by
  refine .of_keeps hx fun s s' h hs => ?_
  obtain ⟨hattestations, hnext⟩ := Prod.mk.inj h
  exact ⟨hattestations ▸ hs.kept, hnext ▸ hs.older⟩

/-- **No SDK call changes a record.** -/
theorem mockOp_recorded [DecidableEq H] (op : MockOp H) : Op.Preserves (Recorded id record) (op.run env) := by
  cases op with
  | submitAttestation args => exact submitAttestation_recorded.bind fun _ => .pure _
  | challenge id' => exact challenge_recorded.bind fun _ => .pure _
  | resolve id' fraudulent => exact resolve_recorded.bind fun _ => .pure _
  | createPolicy _ | submitClaim _ _ | stake _ | unstake _ | getAttestation _ | attestationCount
  | attestorReputation _ | getPolicy _ | getRiskScore _ | subscribeEvents _ | unsubscribe _ =>
    refine recorded_of_keeps (MockOp.keeps_of_writes _ fun s s' hw => ?_)
    cases hw <;> rfl

/-! ## Steps -/

/-- What an agent and others do with the SDK and the store; nobody corrupts it. -/
inductive AgentAction (H : Type) where
  | attest (now : JsNumber) (args : AttestArgs) (config : AgentConfig)
  | put (payload : Payload)
  | sdk (op : MockOp H)

/-- The action, and the clock and the handlers' behaviour at it. -/
structure AgentCall (H : Type) where
  env : MockEnv H
  action : AgentAction H

def AgentAction.run [DecidableEq H] (env : MockEnv H) (bucket : JsString) : AgentAction H → AgentOp H PUnit
  | .attest now args config => do
    let _ ← Agent.attest env bucket now args config
    pure ⟨⟩
  | .put payload => do
    let _ ← Op.onSnd .store (PayloadStore.put env.blake2b256 bucket payload)
    pure ⟨⟩
  | .sdk op => do
    let _ ← Op.onFst .sdk (op.run env)
    pure ⟨⟩

/-- The bytes that the action puts into the store. -/
def AgentAction.Writes : AgentAction H → Bytes → Prop
  | .attest now args _, bytes => toBytes (.json (attestPayload args (args.timestamp.getD now))) = .ok bytes
  | .put payload, bytes => toBytes payload = .ok bytes
  | .sdk _, _ => False

/-- One call, whether it returns or throws. -/
structure AgentStep [DecidableEq H] (blake2b256 : Blake2b) (bucket : JsString) (w : AgentState H) (c : AgentCall H)
    (w' : AgentState H) : Prop where
  digest : c.env.blake2b256 = blake2b256
  run : (c.action.run c.env bucket w).2 = w'

/-- The attestation is on record, and its payload is in the store. -/
structure Stored (blake2b256 : Blake2b) (bucket : JsString) (id : ℕ) (record : CommitmentResult × JsString)
    (bytes : Bytes) (w : AgentState H) : Prop where
  recorded : Recorded id record w.1
  held : w.2.get (MemoryBackend.ref bucket (PayloadStore.contentKey blake2b256 bytes)) = some bytes

theorem ref_inj {key key' : JsString} (h : MemoryBackend.ref bucket key = MemoryBackend.ref bucket key') :
    key = key' := by
  have hcons := List.append_cancel_left h
  exact (List.cons.inj hcons).2

/-- A payload is only overwritten by one with the same digest. -/
theorem put_stored {payload : Payload}
    (hsep : ∀ bytes', toBytes payload = .ok bytes' → Separates blake2b256 bytes bytes') :
    Op.Preserves (Stored (H := H) blake2b256 bucket id record bytes)
      (Op.onSnd AgentError.store (PayloadStore.put blake2b256 bucket payload)) := by
  intro w hw
  show Stored blake2b256 bucket id record bytes (w.1, (PayloadStore.put blake2b256 bucket payload w.2).2)
  cases hp : toBytes payload with
  | error e =>
    have hthrows : (PayloadStore.put blake2b256 bucket payload).Throws w.2 e w.2 :=
      Op.Throws.bind (Op.lift_throws.2 ⟨⟨e, hp, rfl⟩, rfl⟩)
    rwa [hthrows]
  | ok bytes' =>
    have hreturns : (PayloadStore.put blake2b256 bucket payload).Returns w.2 _ _ :=
      PayloadStore.put_returns.2 ⟨bytes', hp, rfl, rfl⟩
    rw [hreturns]
    refine ⟨hw.recorded, ?_⟩
    rw [Mapping.get_set]
    split_ifs with href
    · rw [hsep bytes' hp (toHex_digest_injective (ref_inj href))]
    · exact hw.held

/-- The SDK does not touch the store. -/
theorem sdk_stored {α : Type} {x : BackendOp H α} (hx : Op.Preserves (Recorded id record) x) :
    Op.Preserves (Stored blake2b256 bucket id record bytes) (Op.onFst AgentError.sdk x) := by
  intro w hw
  exact ⟨hx w.1 hw.recorded, hw.held⟩

/-- **Every action keeps the attestation and its payload.** -/
theorem AgentAction.stored [DecidableEq H] (action : AgentAction H)
    (hsep : ∀ bytes', action.Writes bytes' → Separates env.blake2b256 bytes bytes') :
    Op.Preserves (Stored env.blake2b256 bucket id record bytes) (action.run env bucket) := by
  cases action with
  | attest now args config =>
    have hsubmit : ∀ args', Op.Preserves (Stored env.blake2b256 bucket id record bytes)
        (Op.onFst AgentError.sdk (submitAttestation env args')) := fun _ => sdk_stored submitAttestation_recorded
    exact Op.Preserves.bind ((put_stored hsep).bind fun _ => (hsubmit _).bind fun _ => .pure _) fun _ => .pure _
  | put payload => exact (put_stored hsep).bind fun _ => .pure _
  | sdk op => exact (sdk_stored (mockOp_recorded op)).bind fun _ => .pure _

theorem Stored.run [DecidableEq H] {cs : List (AgentCall H)} {w w' : AgentState H}
    (hw : Stored blake2b256 bucket id record bytes w) (h : Run (AgentStep blake2b256 bucket) w cs w')
    (hsep : ∀ c ∈ cs, ∀ bytes', c.action.Writes bytes' → Separates blake2b256 bytes bytes') :
    Stored blake2b256 bucket id record bytes w' := by
  induction h with
  | nil => exact hw
  | @snoc cs c w₁ w₂ _ hs ih =>
    have hw₁ := ih fun c hc => hsep c (List.mem_append_left _ hc)
    obtain ⟨rfl, rfl⟩ := hs
    exact c.action.stored (hsep c (by simp)) w₁ hw₁

/-! ## Attesting -/

variable {now : JsNumber} {args : AttestArgs} {config : AgentConfig} {r : AttestResult} {w w' w₀ w₁ : AgentState H}

theorem submitAttestation_books {sargs : SubmitAttestationArgs} {result : SubmitAttestationResult}
    {s s' : MockState H} (h : (submitAttestation env sargs).Returns s result s') :
    ∃ hashes, Passes env sargs hashes ∧ s'.books = (s.submitted env sargs hashes).books := by
  by_cases hpasses : ∃ hashes, Passes env sargs hashes
  · obtain ⟨hashes, hp⟩ := hpasses
    rw [Op.Returns, submitAttestation_announces hp] at h
    exact ⟨hashes, hp, announcement_books.run h⟩
  · obtain ⟨e, he⟩ := submitAttestation_refused (s := s) env (not_exists.1 hpasses)
    cases he.symm.trans h

/-- **What `attest` leaves behind.** -/
theorem attest_stored (h : (attest env bucket now args config).Returns w₀ r w₁) :
    ∃ bytes hashes, canonicalBytes (attestPayload args (args.timestamp.getD now)) = .ok bytes ∧
      computeCommitment env.blake2b256 ⟨args.input, args.output, args.modelId, args.timestamp.getD now⟩ = .ok hashes ∧
      Stored env.blake2b256 bucket r.id
        (hashes, PayloadStore.objectUri bucket (PayloadStore.contentKey env.blake2b256 bytes)) bytes w₁ := by
  simp only [attest, Op.bind_returns, Op.onFst_returns, Op.onSnd_returns, Op.pure_returns,
    PayloadStore.put_returns] at h
  obtain ⟨uri, w, ⟨⟨bytes, hb, rfl, hput⟩, -⟩, submit, w', ⟨hs, hw⟩, rfl, rfl⟩ := h
  obtain ⟨hashes, hp, hbooks⟩ := submitAttestation_books hs
  have hid : submit.id = w.1.nextAttestationId := by
    obtain ⟨_, -, hid, -⟩ := submitAttestation_returns hs
    exact hid
  refine ⟨bytes, hashes, toBytes_json.1 hb, hp.hashes, Recorded.of_books hbooks ⟨?_, ?_⟩, ?_⟩
  · rw [hid, MockState.submitted, MockState.setAttestation_attestations, MockState.setNextAttestationId_attestations,
      Mapping.get_set_self]
    rfl
  · rw [hid]
    exact Nat.lt_succ_self _
  · rw [← hw, ← hput]
    exact Mapping.get_set_self _ _ _

/-! ## Verifying -/

/-- `verify` returns once the payload is read and checked. -/
theorem verify_accepts {a : Sdk.Attestation} {payload : Value} {hash : JsString} {valid : Bool}
    (hget : w.1.attestations.get id = some a) (hbytes : Holds w.2 a.uri bytes)
    (hpayload : jsonParse (textDecode bytes) = some payload)
    (hcheck : checkPayload env.blake2b256 a payload = .ok (hash, valid)) :
    ∃ v, (verify env id).Returns w v w ∧ v.recomputedHash = hash ∧ v.valid = valid := by
  have hreputation : ∃ rep, (attestorReputation a.attestor).Returns w.1 rep w.1 := ⟨_, rfl⟩
  obtain ⟨rep, hrep⟩ := hreputation
  refine ⟨⟨valid, hash, a.outputHash, a.attestor, a.stake, rep, a.uri⟩, ?_, rfl, rfl⟩
  simp only [verify, Op.bind_returns, Op.onFst_returns, Op.onSnd_returns, getAttestation_returns,
    PayloadStore.getJson_returns, Op.lift_returns, Op.pure_returns]
  exact ⟨a, w, ⟨⟨hget, rfl⟩, rfl⟩, payload, w, ⟨⟨⟨bytes, hbytes, hpayload⟩, rfl⟩, rfl⟩, (hash, valid), w,
    ⟨hcheck, rfl⟩, rep, w, ⟨hrep, rfl⟩, rfl, rfl⟩

theorem distinct_attestPayload (timestamp : JsNumber) (hin : args.input.Distinct) (hout : args.output.Distinct) :
    (attestPayload args timestamp).Distinct := by
  have hkeys : [lit "modelId", lit "input", lit "output", lit "timestamp"].Nodup := by decide
  rw [attestPayload, Json.Distinct, Json.every_obj]
  refine ⟨hkeys, ?_⟩
  intro m hm
  simp only [List.mem_cons, List.not_mem_nil, or_false] at hm
  rcases hm with rfl | rfl | rfl | rfl
  · exact ⟨trivial, trivial⟩
  · exact ⟨trivial, hin⟩
  · exact ⟨trivial, hout⟩
  · exact ⟨trivial, trivial⟩

/-- The payload is recognized after it was read back. -/
theorem asWrapper_readBack (timestamp : JsNumber) (hin : args.input.Distinct) (hout : args.output.Distinct) :
    asWrapper (readBack (attestPayload args timestamp)) =
      some ⟨args.modelId, readBack args.input, readBack args.output, timestamp.unsigned⟩ := by
  have hd := distinct_attestPayload timestamp hin hout
  unfold attestPayload at hd ⊢
  rw [readBack_obj, asWrapper, lookup_readBack hd (by decide), lookup_readBack hd (by decide),
    lookup_readBack hd (by decide), lookup_readBack hd (by decide)]
  rfl

/-- **The honest path.**  Whoever attests with an addressable bucket, and
    whatever is attested, stored and disputed afterwards: `verify` returns and
    finds the attestation valid, unless a payload with the same digest was
    stored. -/
theorem attested_verifies [DecidableEq H] (hne : bucket ≠ []) (hslash : slash ∉ bucket)
    (hin : args.input.Distinct) (hout : args.output.Distinct)
    (hattest : (attest env bucket now args config).Returns w₀ r w₁) {cs : List (AgentCall H)}
    (hrun : Run (AgentStep env.blake2b256 bucket) w₁ cs w)
    (hsep : ∀ bytes, canonicalBytes (attestPayload args (args.timestamp.getD now)) = .ok bytes →
      ∀ c ∈ cs, ∀ bytes', c.action.Writes bytes' → Separates env.blake2b256 bytes bytes')
    {env' : MockEnv H} (henv : env'.blake2b256 = env.blake2b256) :
    ∃ v a, (verify env' r.id).Returns w v w ∧ w.1.attestations.get r.id = some a ∧
      v.valid = true ∧ v.recomputedHash = a.outputHash := by
  obtain ⟨bytes, hashes, hb, hcommit, hstored⟩ := attest_stored hattest
  have hkept := hstored.run hrun (hsep bytes hb)
  obtain ⟨a, hget, hrecord⟩ := Option.map_eq_some_iff.1 hkept.recorded.kept
  obtain ⟨rfl, huri⟩ := Prod.mk.inj hrecord
  have hholds : Holds w.2 a.uri bytes := by
    rw [huri, holds_objectUri]
    exact ⟨addressable_of_no_slash hne hslash, hkept.held⟩
  have hparse := jsonParse_canonicalBytes (distinct_attestPayload _ hin hout) hb
  have hwrapper := asWrapper_readBack (args.timestamp.getD now) hin hout
  have hback := computeCommitment_readBack hin hout hcommit
  have hcheck : checkPayload env'.blake2b256 a (readBack (attestPayload args (args.timestamp.getD now))) =
      .ok (a.outputHash, true) := by
    rw [henv, checkPayload_valid hcommit]
    refine ⟨rfl, ?_, ?_⟩
    · rw [asWrapper_output hwrapper]
      exact (computeCommitment_ok.1 hback).2.1
    · intro wrapper hw
      cases hwrapper.symm.trans hw
      exact hback
  obtain ⟨v, hverify, hhash, hvalid⟩ := verify_accepts hget hholds hparse hcheck
  exact ⟨v, a, hverify, hget, hvalid, hhash⟩

/-- The attestation is challenged, attested again, and slashed; an empty object is stored. -/
def demoCalls : List (AgentCall Empty) := [
  ⟨demoEnv, .sdk (.challenge 1)⟩,
  ⟨demoEnv, .attest (number 1718600000) demoArgs {}⟩,
  ⟨demoEnv, .sdk (.resolve 1 true)⟩,
  ⟨demoEnv, .put (.bytes [])⟩]

theorem attested_verifies_demo : ∃ (w : AgentState Empty) (v : VerifyResult) (a : Sdk.Attestation),
    (verify demoEnv 1).Returns w v w ∧ w.1.attestations.get 1 = some a ∧ v.valid = true ∧
      v.recomputedHash = a.outputHash := by
  have hattest : (attest demoEnv (lit "casperproof-payloads") (number 1718600000) demoArgs {}
      (.fresh, .empty)).1.toOption.map (fun r => r.id) = some 1 := by decide +kernel
  obtain ⟨r, hr, hid⟩ := Option.map_eq_some_iff.1 hattest
  obtain ⟨w₁, hattest⟩ := Op.toOption_eq_some.1 hr
  have hrun : ∃ w, Run (AgentStep demoDigest (lit "casperproof-payloads")) w₁ demoCalls w :=
    ⟨_, (((Run.nil.snoc ⟨rfl, rfl⟩).snoc ⟨rfl, rfl⟩).snoc ⟨rfl, rfl⟩).snoc ⟨rfl, rfl⟩⟩
  obtain ⟨w, hrun⟩ := hrun
  have hdistinct : demoArgs.input.Distinct ∧ demoArgs.output.Distinct := by
    unfold Json.Distinct
    decide +kernel
  have hsep : ∀ bytes, canonicalBytes (attestPayload demoArgs (number 1718600000)) = .ok bytes →
      ∀ c ∈ demoCalls, ∀ bytes', c.action.Writes bytes' → Separates demoDigest bytes bytes' := by
    have hother : (canonicalBytes (attestPayload demoArgs (number 1718600000))).toOption.map demoDigest ≠
        some (demoDigest []) := by decide +kernel
    intro bytes hb c hc bytes' hw
    simp only [demoCalls, List.mem_cons, List.not_mem_nil, or_false] at hc
    rcases hc with rfl | rfl | rfl | rfl
    · exact hw.elim
    · cases hb.symm.trans (toBytes_json.1 hw)
      exact fun _ => rfl
    · exact hw.elim
    · cases hw
      intro hdigest
      rw [hb] at hother
      exact absurd (congrArg some hdigest) hother
  obtain ⟨v, a, hverify, hget, hvalid, hhash⟩ := attested_verifies (by decide) (by decide) hdistinct.1 hdistinct.2
    hattest hrun hsep (rfl : demoEnv.blake2b256 = demoDigest)
  exact ⟨w, v, a, hid ▸ hverify, hid ▸ hget, hvalid, hhash⟩

end CasperProof.Agent
