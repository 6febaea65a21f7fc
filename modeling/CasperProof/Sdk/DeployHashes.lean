/-
  The deploy hashes of the mock backend.

  A hash is made of the label of the write, the deploy counter, and the
  canonical payload, without separators.  No label begins another, so that two
  writes of a run have different hashes as long as the counter grows.  It is a
  double, and stops at `2 ^ 53` (`deploy_hashes_differ`).
-/
import CasperProof.Lib.Framing
import CasperProof.Sdk.StakeTotal

namespace CasperProof.Sdk

open Js Commitment

variable {H : Type} {env : MockEnv H} {s s' t : MockState H} {label hash : JsString} {payload : Value}

/-! ## What is hashed -/

/-- The label and the payload that the operation passes to `deployHash`. -/
def MockOp.hashed (env : MockEnv H) (s : MockState H) : MockOp H → Option (JsString × Value)
  | .submitAttestation args =>
    match computeCommitment env.blake2b256 ⟨args.input, args.output, args.modelId, args.timestamp.getD env.now⟩ with
    | .ok hashes => some (lit "submit_attestation",
      .obj [(lit "id", .num (number s.nextAttestationId)), (lit "commitment", .str hashes.commitment)])
    | .error _ => none
  | .challenge id => some (lit "challenge", .obj [(lit "id", .num (number id))])
  | .resolve id fraudulent =>
    some (lit "resolve", .obj [(lit "id", .num (number id)), (lit "fraudulent", .bool fraudulent)])
  | .submitClaim policyId attestationId => some (lit "claim",
    .obj [(lit "policyId", .num (number policyId)), (lit "attestationId", .num (number attestationId))])
  | .stake amount => some (lit "stake", .obj [(lit "amount", .str amount)])
  | .unstake amount => some (lit "unstake", .obj [(lit "amount", .str amount)])
  | _ => none

/-- The label and the canonical payload. -/
def MockOp.written (env : MockEnv H) (s : MockState H) (op : MockOp H) : Option (JsString × Bytes) := do
  let (label, payload) ← op.hashed env s
  let bytes ← (canonicalBytes payload).toOption
  some (label, bytes)

/-- The bytes of a deploy hash. -/
def preimageOf (counter : ℕ) (w : JsString × Bytes) : Bytes := textEncode w.1 ++ (leBytes 8 (nextCount counter) ++ w.2)

def MockOp.preimage (env : MockEnv H) (s : MockState H) (op : MockOp H) : Option Bytes :=
  (op.written env s).map (preimageOf s.deployCounter)

def labels : List JsString :=
  [lit "submit_attestation", lit "challenge", lit "resolve", lit "claim", lit "stake", lit "unstake"]

/-- No label begins another. -/
theorem labels_prefixFree : PrefixFree (labels.map textEncode) := by
  unfold PrefixFree
  decide +kernel

theorem labels_injective : ∀ a ∈ labels, ∀ b ∈ labels, textEncode a = textEncode b → a = b := by decide +kernel

/-- The preimage determines the label, the count and the payload. -/
theorem preimageOf_inj {m n : ℕ} {w w' : JsString × Bytes} (hw : w.1 ∈ labels) (hw' : w'.1 ∈ labels)
    (h : preimageOf m w = preimageOf n w') : nextCount m = nextCount n ∧ w = w' := by
  have hlen : (leBytes 8 (nextCount m)).length = (leBytes 8 (nextCount n)).length := by simp only [length_leBytes]
  obtain ⟨hlabel, hcount, hpayload⟩ :=
    frame_inj labels_prefixFree (List.mem_map_of_mem hw) (List.mem_map_of_mem hw') hlen h
  have hbound : ∀ n, nextCount n < 256 ^ 8 := fun n => (min_le_right _ _).trans_lt (by norm_num)
  exact ⟨leBytes_inj (hbound m) (hbound n) hcount, Prod.ext (labels_injective _ hw _ hw' hlabel) hpayload⟩

/-! ## The hash of a write -/

theorem deployHash_hash (h : (deployHash env label payload).Returns s hash s') : ∃ bytes,
    canonicalBytes payload = .ok bytes ∧
      hash = toHex (env.blake2b256 (preimageOf s.deployCounter (label, bytes))).toList := by
  simp only [deployHash, Op.bind_returns, Op.get_returns, Op.modify_returns, Op.lift_returns, Op.pure_returns] at h
  obtain ⟨_, _, ⟨rfl, rfl⟩, _, _, rfl, count, _, ⟨hcount, rfl⟩, text, _, ⟨htext, rfl⟩, rfl, -⟩ := h
  obtain ⟨n, hn, -, rfl⟩ := leU64_eq_ok.1 hcount
  have hint : (number (nextCount s.deployCounter)).toInt? = some (nextCount s.deployCounter : ℤ) := by
    simp [number, JsNumber.toInt?]
  obtain rfl : nextCount s.deployCounter = n := by exact_mod_cast Option.some.inj (hint.symm.trans hn)
  refine ⟨textEncode text, canonicalBytes_ok.2 ⟨text, htext, rfl⟩, ?_⟩
  simp only [concatBytes, preimageOf, List.flatten_cons, List.flatten_nil, List.append_nil]

/-- A write that leaves the state `s'` was hashed as it should be. -/
structure Hashed (env : MockEnv H) (s s' : MockState H) (op : MockOp H) (hash : JsString) : Prop where
  counted : s'.deployCounter = nextCount s.deployCounter
  written : ∃ w, op.written env s = some w ∧ w.1 ∈ labels ∧
    hash = toHex (env.blake2b256 (preimageOf s.deployCounter w)).toList

theorem deployHash_hashed {op : MockOp H} (h : (deployHash env label payload).Returns t hash s')
    (hop : op.hashed env s = some (label, payload)) (hlabel : label ∈ labels)
    (hcounter : t.deployCounter = s.deployCounter) : Hashed env s s' op hash := by
  obtain ⟨bytes, hbytes, rfl⟩ := deployHash_hash h
  refine ⟨?_, (label, bytes), ?_, hlabel, by rw [hcounter]⟩
  · rw [deployHash_returns h, MockState.setDeployCounter_deployCounter, hcounter]
  · simp [MockOp.written, hop, hbytes, Except.toOption]

theorem announcement_hashed {α : Type} {event : CasperProofEvent} {f : JsString → α} {r : α} {op : MockOp H}
    (h : (announcement env label payload event f).Returns t r s') (hop : op.hashed env s = some (label, payload))
    (hlabel : label ∈ labels) (hcounter : t.deployCounter = s.deployCounter) :
    ∃ hash, r = f hash ∧ Hashed env s s' op hash := by
  obtain ⟨hash, t₁, hhash, h⟩ := Op.bind_returns.1 h
  obtain ⟨_, t₂, hemit, h⟩ := Op.bind_returns.1 h
  obtain ⟨rfl, rfl⟩ := Op.pure_returns.1 h
  obtain ⟨hcounted, hwritten⟩ := deployHash_hashed hhash hop hlabel hcounter
  refine ⟨hash, rfl, ?_, hwritten⟩
  rw [emit_returns hemit, ← hcounted]
  rfl

section
variable {args : SubmitAttestationArgs} {id policyId attestationId : ℕ} {fraudulent : Bool} {amount : JsString}

theorem submitAttestation_hashed {r : SubmitAttestationResult} (h : (submitAttestation env args).Returns s r s') :
    Hashed env s s' (.submitAttestation args) r.deployHash := by
  by_cases hpasses : ∃ hashes, Passes env args hashes
  · obtain ⟨hashes, hp⟩ := hpasses
    rw [Op.Returns, submitAttestation_announces hp] at h
    have hop : (MockOp.submitAttestation args).hashed env s = some (lit "submit_attestation",
        .obj [(lit "id", .num (number s.nextAttestationId)), (lit "commitment", .str hashes.commitment)]) := by
      simp only [MockOp.hashed, hp.hashes]
    obtain ⟨hash, rfl, hhashed⟩ := announcement_hashed h hop (by decide +kernel) rfl
    exact hhashed
  · obtain ⟨e, he⟩ := submitAttestation_refused env (not_exists.1 hpasses)
    cases h.symm.trans he

theorem challenge_hashed {r : DeployResult} (h : (challenge env id).Returns s r s') :
    Hashed env s s' (.challenge id) r.deployHash := by
  by_cases hactive : ∃ a, s.attestations.get id = some a ∧ a.status = .active
  · obtain ⟨a, hget, hst⟩ := hactive
    rw [Op.Returns, challenge_announces hget hst] at h
    have hop : (MockOp.challenge id).hashed env s = some _ := rfl
    obtain ⟨hash, rfl, hhashed⟩ := announcement_hashed h hop (by decide +kernel) rfl
    exact hhashed
  · obtain ⟨e, he⟩ := challenge_rejects (s := s) env id fun a hget hst => hactive ⟨a, hget, hst⟩
    cases h.symm.trans he

theorem resolve_hashed {r : DeployResult} (h : (resolve env id fraudulent).Returns s r s') :
    Hashed env s s' (.resolve id fraudulent) r.deployHash := by
  by_cases hchallenged : ∃ a, s.attestations.get id = some a ∧ a.status = .challenged
  · obtain ⟨a, hget, hst⟩ := hchallenged
    rw [Op.Returns, resolve_announces hget hst] at h
    have hop : (MockOp.resolve id fraudulent).hashed env s = some _ := rfl
    obtain ⟨hash, rfl, hhashed⟩ := announcement_hashed h hop (by decide +kernel) rfl
    exact hhashed
  · obtain ⟨e, he⟩ := resolve_rejects (s := s) env id fraudulent fun a hget hst => hchallenged ⟨a, hget, hst⟩
    cases h.symm.trans he

theorem submitClaim_hashed {r : ClaimResult} (h : (submitClaim env policyId attestationId).Returns s r s') :
    Hashed env s s' (.submitClaim policyId attestationId) r.deployHash := by
  by_cases hrefused : Refused env s policyId attestationId
  · obtain ⟨e, -, he⟩ := submitClaim_refused hrefused
    cases h.symm.trans he
  · obtain ⟨policy, hget, hexp | ⟨hexp, attestation, hatt, hc⟩⟩ := not_refused hrefused
    · cases h.symm.trans (submitClaim_expires hget hexp)
    · rw [Op.Returns, submitClaim_pays hget hexp hatt hc] at h
      have hop : (MockOp.submitClaim policyId attestationId).hashed env s = some _ := rfl
      obtain ⟨hash, rfl, hhashed⟩ := announcement_hashed h hop (by decide +kernel) rfl
      exact hhashed

theorem stake_hashed {r : DeployResult} (h : (stake env amount).Returns s r s') :
    Hashed env s s' (.stake amount) r.deployHash := by
  simp only [stake, Op.bind_returns, Op.orFail_returns, Op.modify_returns, Op.pure_returns] at h
  obtain ⟨_, _, ⟨-, rfl⟩, _, _, rfl, hash, _, hhash, rfl, rfl⟩ := h
  exact deployHash_hashed hhash rfl (by decide +kernel) rfl

theorem unstake_hashed {r : DeployResult} (h : (unstake env amount).Returns s r s') :
    Hashed env s s' (.unstake amount) r.deployHash := by
  simp only [unstake, Op.bind_returns, Op.get_returns, Op.orFail_returns, Op.failIf_returns, Op.modify_returns,
    Op.pure_returns] at h
  obtain ⟨_, _, ⟨-, rfl⟩, _, _, ⟨rfl, rfl⟩, _, _, ⟨-, rfl⟩, _, _, rfl, hash, _, hhash, rfl, rfl⟩ := h
  exact deployHash_hashed hhash rfl (by decide +kernel) rfl

end

/-! ## Calls -/

/-- The deploy hash in what a write returns. -/
def MockResult.deployHash : MockResult → Option JsString
  | .submitted r => some r.deployHash
  | .deployed r => some r.deployHash
  | .claim r => some r.deployHash
  | _ => .none

/-- The deploy hash that a call returned; only an accepted write returns one. -/
def HandledCall.deployHash (c : HandledCall H) : Option JsString := c.result.toOption.bind MockResult.deployHash

section
variable [DecidableEq H] {c : HandledCall H}

/-- What the operation of an accepted write returned. -/
theorem Calls.returned {α : Type} {x : BackendOp H α} {g : α → MockResult} (h : Calls s c s')
    (hrun : c.op.run c.env = x >>= fun a => pure (g a)) (hhash : c.deployHash = some hash) :
    ∃ a, x.Returns s a s' ∧ (g a).deployHash = some hash := by
  obtain ⟨r, hr, hrhash⟩ := Option.bind_eq_some_iff.1 hhash
  rw [Calls, hrun] at h
  obtain ⟨result, hresult⟩ : ∃ result, c.result = .ok result := by
    cases hc : c.result with
    | ok result => exact ⟨result, rfl⟩
    | error e => rw [hc] at hr; cases hr
  rw [hresult] at h hr
  obtain ⟨a, t, hreturns, hpure⟩ := Op.bind_returns.1 h
  obtain ⟨rfl, rfl⟩ := Op.pure_returns.1 hpure
  cases hr
  exact ⟨a, hreturns, hrhash⟩

/-- **An accepted write** is hashed with the counter one higher. -/
theorem Calls.hashed (h : Calls s c s') (hhash : c.deployHash = some hash) : Hashed c.env s s' c.op hash := by
  obtain ⟨env, op, result⟩ := c
  cases op with
  | submitAttestation args =>
    obtain ⟨r, hr, hrhash⟩ := h.returned rfl hhash
    cases hrhash
    exact submitAttestation_hashed hr
  | challenge id =>
    obtain ⟨r, hr, hrhash⟩ := h.returned rfl hhash
    cases hrhash
    exact challenge_hashed hr
  | resolve id fraudulent =>
    obtain ⟨r, hr, hrhash⟩ := h.returned rfl hhash
    cases hrhash
    exact resolve_hashed hr
  | submitClaim policyId attestationId =>
    obtain ⟨r, hr, hrhash⟩ := h.returned rfl hhash
    cases hrhash
    exact submitClaim_hashed hr
  | stake amount =>
    obtain ⟨r, hr, hrhash⟩ := h.returned rfl hhash
    cases hrhash
    exact stake_hashed hr
  | unstake amount =>
    obtain ⟨r, hr, hrhash⟩ := h.returned rfl hhash
    cases hrhash
    exact unstake_hashed hr
  | getAttestation | attestationCount | attestorReputation | createPolicy | getPolicy | getRiskScore
  | subscribeEvents | unsubscribe =>
    obtain ⟨r, -, hrhash⟩ := h.returned rfl hhash
    cases hrhash

/-- The counter is `n` at least, and `2 ^ 53` at most. -/
def MockState.CountsFrom (n : ℕ) (s : MockState H) : Prop := n ≤ s.deployCounter ∧ s.deployCounter ≤ 2 ^ 53

/-- The counter does not go back. -/
theorem MockOp.countsFrom (op : MockOp H) (env : MockEnv H) (n : ℕ) :
    Op.Preserves (MockState.CountsFrom n) (op.run env) := by
  refine op.preserves fun s s' hw hs => ?_
  cases hw with
  | hash =>
    obtain ⟨hn, hmax⟩ := hs
    simp only [MockState.CountsFrom, MockState.setDeployCounter_deployCounter, nextCount]
    omega
  | event | submission | challenge | rep | resolve | create | claim | stake | unstake | subscribe | unsubscribe =>
    exact hs

theorem Calls.countsFrom (h : Calls s c s') {n : ℕ} (hs : s.CountsFrom n) : s'.CountsFrom n := by
  have hop := c.op.countsFrom c.env n s hs
  rwa [h] at hop

/-! ## Runs -/

variable {blake2b256 : Blake2b} {cs : List (HandledCall H)}

/-- What is hashed in a run of a new backend. -/
def preimages (cs : List (HandledCall H)) : Set Bytes :=
  {a | ∃ c₁ c c₂ s, cs = c₁ ++ c :: c₂ ∧ Run Calls .fresh c₁ s ∧ c.op.preimage c.env s = some a}

/-- Any two accepted writes have different hashes. -/
def AllDiffer (cs : List (HandledCall H)) : Prop :=
  ∀ c₁ c c₂ d c₃ hash hash', cs = c₁ ++ c :: (c₂ ++ d :: c₃) → c.deployHash = some hash →
    d.deployHash = some hash' → hash ≠ hash'

/-- The counter stood still between two writes that are the same. -/
def Repeats (c d : HandledCall H) (s t : MockState H) : Prop :=
  2 ^ 53 ≤ s.deployCounter + 1 ∧ c.op.written c.env s = d.op.written d.env t

/-- Two accepted writes have the same hash only if the second repeats the first. -/
def DifferUnlessRepeated (cs : List (HandledCall H)) : Prop :=
  ∀ c₁ c c₂ d c₃ s t hash hash', cs = c₁ ++ c :: (c₂ ++ d :: c₃) → Run Calls .fresh c₁ s →
    Run Calls .fresh (c₁ ++ c :: c₂) t → c.deployHash = some hash → d.deployHash = some hash' →
      (hash = hash' ↔ Repeats c d s t)

theorem counter_le (h : Run Calls .fresh cs s) : s.deployCounter ≤ 2 ^ 53 := by
  have hfresh : (MockState.fresh : MockState H).CountsFrom 0 := ⟨le_rfl, Nat.zero_le _⟩
  exact (h.inv hfresh fun _ _ _ hs hc => hc.countsFrom hs).2

theorem Calls.functional (h : Calls s c s') (h' : Calls s c t) : s' = t := (Prod.mk.inj (h.symm.trans h')).2

/-- A call of a run starts where the calls before it end. -/
theorem call_at {c₁ c₂ : List (HandledCall H)} (h : Run Calls .fresh (c₁ ++ c :: c₂) s') (hs : Run Calls .fresh c₁ s) :
    ∃ s₂, Calls s c s₂ ∧ Run Calls s₂ c₂ s' := by
  obtain ⟨s₁, s₂, hs₁, hc, hrest⟩ := h.split_cons
  obtain rfl := hs₁.functional (fun _ _ _ _ h h' => h.functional h') hs
  exact ⟨s₂, hc, hrest⟩

/-- **Deploy hashes.**  Two accepted writes of a run have the same hash exactly
    if the counter had stopped, and they have the same label and payload. -/
theorem deploy_hashes_differ (h : Run Calls .fresh cs s') (hdigest : ∀ c ∈ cs, c.env.blake2b256 = blake2b256)
    (hinj : Set.InjOn blake2b256 (preimages cs)) : DifferUnlessRepeated cs := by
  rintro c₁ c c₂ d c₃ s t hash hash' rfl hs ht hc hd
  obtain ⟨s₂, hrun, hbetween⟩ := call_at ht hs
  obtain ⟨t₂, hrun', -⟩ : ∃ t₂, Calls t d t₂ ∧ Run Calls t₂ c₃ s' := call_at (by simpa using h) ht
  obtain ⟨hcounted, w, hw, hlabel, rfl⟩ := hrun.hashed hc
  obtain ⟨-, w', hw', hlabel', rfl⟩ := hrun'.hashed hd
  rw [hdigest c (by simp), hdigest d (by simp)]
  have hlater : t.CountsFrom (nextCount s.deployCounter) := by
    have hstart : s₂.CountsFrom (nextCount s.deployCounter) := ⟨hcounted.ge, counter_le (hs.snoc hrun)⟩
    exact hbetween.inv hstart fun _ _ _ hu hcall => hcall.countsFrom hu
  have hcounts : nextCount s.deployCounter = nextCount t.deployCounter ↔ 2 ^ 53 ≤ s.deployCounter + 1 := by
    obtain ⟨hge, hmax⟩ := hlater
    simp only [nextCount] at hge ⊢
    omega
  constructor
  · intro heq
    have hpre := hinj ⟨c₁, c, c₂ ++ d :: c₃, s, rfl, hs, by rw [MockOp.preimage, hw]; rfl⟩
      ⟨c₁ ++ c :: c₂, d, c₃, t, by simp, ht, by rw [MockOp.preimage, hw']; rfl⟩ (toHex_digest_injective heq)
    obtain ⟨hcount, rfl⟩ := preimageOf_inj hlabel hlabel' hpre
    exact ⟨hcounts.1 hcount, hw.trans hw'.symm⟩
  · rintro ⟨hmax, hsame⟩
    obtain rfl : w = w' := Option.some.inj (hw.symm.trans (hsame.trans hw'))
    rw [preimageOf, preimageOf, hcounts.2 hmax]

end

/-! ## A counter that has stopped -/

/-- The first 32 bytes. -/
def copyDigest : Blake2b := fun bs => Vector.ofFn fun i => bs.getD i 0

theorem copyDigest_inj {a b : Bytes} (hlen : a.length = b.length) (ha : a.length ≤ 32)
    (h : copyDigest a = copyDigest b) : a = b := by
  refine List.ext_getElem hlen fun i hi hi' => ?_
  have hbyte := congrArg (fun v => v[i]?) h
  simpa [copyDigest, hi, hi', hi.trans_le ha] using hbyte

def demoCopying : MockEnv Unit := { demoThrowing with blake2b256 := copyDigest }

/-- A stake of nothing. -/
def stakeCall (s : MockState Unit) : HandledCall Unit :=
  ⟨demoCopying, .stake (lit "0"), (MockOp.run demoCopying (.stake (lit "0")) s).1⟩

theorem stakeCall_calls (s : MockState Unit) :
    Calls s (stakeCall s) (MockOp.run demoCopying (.stake (lit "0")) s).2 := rfl

theorem stakeCall_hash (s : MockState Unit) : ∃ hash, (stakeCall s).deployHash = some hash := by
  have hzero : bigInt (lit "0") = some 0 := by decide +kernel
  obtain ⟨r, s', hreturns, -⟩ := stake_accepts demoCopying s hzero
  have hrun := hreturns.bind (f := fun r => pure (MockResult.deployed r)) Op.returns_pure
  have hresult : (stakeCall s).result = .ok (.deployed r) := congrArg Prod.fst hrun
  exact ⟨r.deployHash, by rw [HandledCall.deployHash, hresult]; rfl⟩

/-- The label and the payload of such a stake. -/
def stakeWritten : JsString × Bytes := (lit "stake", textEncode (lit "\x7b\"amount\":\"0\"\x7d"))

theorem stakeCall_written (s t : MockState Unit) :
    (stakeCall s).op.written (stakeCall s).env t = some stakeWritten := by
  have hbytes : (canonicalBytes (.obj [(lit "amount", .str (lit "0"))])).toOption = some stakeWritten.2 := by
    decide +kernel
  simp only [stakeCall, MockOp.written, MockOp.hashed, hbytes, Option.bind_eq_bind, Option.bind_some]
  rfl

/-- Any number of such stakes. -/
theorem stakes_run (n : ℕ) : ∃ cs s, (∀ c ∈ cs, ∃ t, c = stakeCall t) ∧ Run Calls .fresh cs s ∧
    s.deployCounter = min n (2 ^ 53) := by
  induction n with
  | zero => exact ⟨[], .fresh, by simp, .nil, by simp [MockState.fresh]⟩
  | succ n ih =>
    obtain ⟨cs, s, hcs, hrun, hcounter⟩ := ih
    obtain ⟨hash, hhash⟩ := stakeCall_hash s
    refine ⟨cs ++ [stakeCall s], _, ?_, hrun.snoc (stakeCall_calls s), ?_⟩
    · intro c hc
      rcases List.mem_append.1 hc with hc | hc
      · exact hcs c hc
      · exact ⟨s, List.mem_singleton.1 hc⟩
    · rw [((stakeCall_calls s).hashed hhash).counted, hcounter, nextCount]
      omega

/-- Their preimages differ in the count only. -/
theorem stakes_injOn {cs : List (HandledCall Unit)} (hcs : ∀ c ∈ cs, ∃ t, c = stakeCall t) :
    Set.InjOn copyDigest (preimages cs) := by
  have hpre : ∀ a ∈ preimages cs, ∃ n, a = preimageOf n stakeWritten := by
    rintro a ⟨c₁, c, c₂, s, rfl, -, ha⟩
    obtain ⟨t, rfl⟩ := hcs c (by simp)
    rw [MockOp.preimage, stakeCall_written] at ha
    exact ⟨s.deployCounter, (Option.some.inj ha).symm⟩
  have hlen : ∀ n, (preimageOf n stakeWritten).length = 27 := by
    intro n
    have hlabel : (textEncode stakeWritten.1).length = 5 := by decide +kernel
    have hpayload : stakeWritten.2.length = 14 := by decide +kernel
    simp only [preimageOf, List.length_append, length_leBytes, hlabel, hpayload]
  intro a ha b hb
  obtain ⟨m, rfl⟩ := hpre a ha
  obtain ⟨n, rfl⟩ := hpre b hb
  exact copyDigest_inj ((hlen m).trans (hlen n).symm) (by rw [hlen]; decide)

/-- Two stakes of a new backend have different hashes. -/
theorem deploy_hashes_differ_demo : DifferUnlessRepeated
    [stakeCall .fresh, stakeCall (MockOp.run demoCopying (.stake (lit "0")) (.fresh : MockState Unit)).2] := by
  have hcs : ∀ c ∈ [stakeCall .fresh,
      stakeCall (MockOp.run demoCopying (.stake (lit "0")) (.fresh : MockState Unit)).2], ∃ t, c = stakeCall t := by
    simp
  refine deploy_hashes_differ ((Run.single (stakeCall_calls _)).snoc (stakeCall_calls _)) ?_ (stakes_injOn hcs)
  intro c hc
  obtain ⟨t, rfl⟩ := hcs c hc
  rfl

/-- The stakes after the `2 ^ 53`rd all have the same hash. -/
theorem stopped_counter_repeats : ¬ ∀ (blake2b256 : Blake2b) (cs : List (HandledCall Unit)) (s : MockState Unit),
    Run Calls .fresh cs s → (∀ c ∈ cs, c.env.blake2b256 = blake2b256) → Set.InjOn blake2b256 (preimages cs) →
      AllDiffer cs := by
  intro hall
  obtain ⟨cs, s, hcs, hrun, hcounter⟩ := stakes_run (2 ^ 53)
  rw [min_self] at hcounter
  obtain ⟨s₁, hcall⟩ : ∃ s₁, Calls s (stakeCall s) s₁ := ⟨_, stakeCall_calls s⟩
  obtain ⟨s₂, hcall₁⟩ : ∃ s₂, Calls s₁ (stakeCall s₁) s₂ := ⟨_, stakeCall_calls s₁⟩
  obtain ⟨hash, hhash⟩ := stakeCall_hash s
  obtain ⟨hash₁, hhash₁⟩ := stakeCall_hash s₁
  have hcs₂ : ∀ c ∈ cs ++ stakeCall s :: ([] ++ stakeCall s₁ :: []), ∃ t, c = stakeCall t := by
    intro c hc
    rcases List.mem_append.1 hc with hc | hc
    · exact hcs c hc
    · rcases List.mem_cons.1 hc with rfl | hc
      · exact ⟨s, rfl⟩
      · exact ⟨s₁, List.mem_singleton.1 hc⟩
  have hrun₂ := hrun.append (Run.cons hcall (Run.single hcall₁))
  refine hall copyDigest _ s₂ hrun₂ ?_ (stakes_injOn hcs₂) cs (stakeCall s) [] (stakeCall s₁) [] hash hash₁ rfl hhash
    hhash₁ ?_
  · intro c hc
    obtain ⟨t, rfl⟩ := hcs₂ c hc
    rfl
  · obtain ⟨hcounted, w, hw, -, hhashed⟩ := hcall.hashed hhash
    obtain ⟨-, w₁, hw₁, -, hhashed₁⟩ := hcall₁.hashed hhash₁
    have hsame : w = w₁ := by
      rw [stakeCall_written] at hw hw₁
      exact Option.some.inj (hw.symm.trans hw₁)
    have hstopped : nextCount s₁.deployCounter = nextCount s.deployCounter := by
      rw [hcounted, hcounter, nextCount, nextCount]
      omega
    rw [hhashed, hhashed₁, preimageOf, preimageOf, hstopped, hsame]
    rfl

end CasperProof.Sdk
