/-
  The live reads of the REST backend — `getAttestation` and `getPolicy` of
  `rest-backend.ts`, with their mapping helpers.

  A service may spell the names of a record in either way, and add to them
  (`Shows`).  `live_reads_agree`: if it has the records of the mock backend,
  and answers before the retries are spent, the live reads end as the mock's.
-/
import CasperProof.Lib.Fallible
import CasperProof.Lib.Js.ToNumber
import CasperProof.Sdk.MockRun
import CasperProof.Sdk.RestBackend
import CasperProof.Sdk.Taxonomy

namespace CasperProof.Sdk.RestBackend

open Js Rfc7807
open Json (lookup)

/-! ## The source -/

/-- The members of `raw`.  The names that are read are no properties of an
    array, a string, a number or a boolean; the first one is read of `null`. -/
def members (first : String) : Value → Except Thrown (List (JsString × Value))
  | .null => .error (.error (lit "Cannot read properties of null (reading '" ++ lit first ++ lit "')"))
  | .obj ms => .ok ms
  | .bool _ | .num _ | .str _ | .arr _ => .ok []

/-- `v ?? w`. -/
def coalesce (v w : Option Value) : Option Value :=
  match v with
  | none | some .null => w
  | some v => some v

/-- `ToString` in `String(v)` and `Number(v)`. -/
def toText (v : Value) : Except Thrown JsString :=
  match valueText v with
  | some text => .ok text
  | none => .error (.error (lit "Cannot convert object to primitive value"))

/-- `String(v ?? dflt)`. -/
def string (v : Option Value) (dflt : String) : Except Thrown JsString :=
  match coalesce v none with
  | some v => toText v
  | none => .ok (lit dflt)

/-- `Number(v)`. -/
def numberOf : Option Value → Except Thrown JsNumber
  | none => .ok .nan
  | some .null => .ok (.real 0)
  | some (.bool b) => .ok (.real (if b then 1 else 0))
  | some (.num n) => .ok n
  | some v => do
    let text ← toText v
    pure (toNumber text)

def num : Option Value → Except Thrown JsNumber
  | some (.num n) => .ok n
  | value => do
    let parsed ← numberOf value
    pure (if parsed.isFinite then parsed else .real 0)

def toAttestationStatus : Option Value → AttestationStatus
  | some (.str s) =>
    ([.active, .challenged, .slashed, .finalized].find? fun status => statusText status = s).getD .active
  | _ => .active

/-- The string that a policy's status is. -/
def policyStatusText : PolicyStatus → JsString
  | .active => lit "Active"
  | .claimed => lit "Claimed"
  | .expired => lit "Expired"

def toPolicyStatus : Option Value → PolicyStatus
  | some (.str s) => ([.active, .claimed, .expired].find? fun status => policyStatusText status = s).getD .active
  | _ => .active

/-- The trigger type that an element is. -/
def toTrigger : Value → Option TriggerType
  | .str s => [TriggerType.exploit, .oracleFailure, .agentError, .governanceAttack].find? fun t => t.text = s
  | _ => none

def toTriggers : Option Value → List TriggerType
  | some (.arr vs) => vs.filterMap toTrigger
  | _ => []

/-- The challenger, if it is a string that is not empty. -/
def toChallenger : Option Value → Option JsString
  | some (.str s) => if 0 < s.length then some s else none
  | _ => none

def toAttestation (id : ℕ) (body : Value) : Except Thrown Attestation := do
  let raw ← members "attestor" body
  let attestor ← string (lookup (lit "attestor") raw) ""
  let modelId ← string (coalesce (lookup (lit "modelId") raw) (lookup (lit "model_id") raw)) ""
  let inputHash ← string (coalesce (lookup (lit "inputHash") raw) (lookup (lit "input_hash") raw)) ""
  let outputHash ← string (coalesce (lookup (lit "outputHash") raw) (lookup (lit "output_hash") raw)) ""
  let commitment ← string (lookup (lit "commitment") raw) ""
  let uri ← string (lookup (lit "uri") raw) ""
  let stake ← string (lookup (lit "stake") raw) "0"
  let createdAt ← num (coalesce (lookup (lit "createdAt") raw) (lookup (lit "created_at") raw))
  let status := toAttestationStatus (lookup (lit "status") raw)
  let challenger := toChallenger (lookup (lit "challenger") raw)
  pure ⟨id, attestor, modelId, inputHash, outputHash, commitment, uri, stake, createdAt, status, challenger⟩

/-- The record that `getPolicy` returns. -/
def toPolicy (id : ℕ) (body : Value) : Except Thrown Policy := do
  let raw ← members "holder" body
  let holder ← string (lookup (lit "holder") raw) ""
  let coverage ← string (lookup (lit "coverage") raw) "0"
  let premium ← string (lookup (lit "premium") raw) "0"
  let triggerTypes := toTriggers (coalesce (lookup (lit "triggerTypes") raw) (lookup (lit "trigger_types") raw))
  let expiry ← num (lookup (lit "expiry") raw)
  let status := toPolicyStatus (lookup (lit "status") raw)
  pure ⟨id, holder, coverage, premium, triggerTypes, expiry, status⟩

def getAttestation (retries : ℕ) (fetch : ℕ → Outcome) (id : ℕ) : Except Thrown Attestation := do
  let raw ← (get (lit "/attestations/" ++ numberText (number id)) retries fetch).result
  toAttestation id raw

def getPolicy (retries : ℕ) (fetch : ℕ → Outcome) (id : ℕ) : Except Thrown Policy := do
  let raw ← (get (lit "/policies/" ++ numberText (number id)) retries fetch).result
  toPolicy id raw

/-! ## Records -/

/-- How a service spells the names of two words. -/
inductive Spelling where
  | camel
  | snake

def Spelling.name (camel snake : String) : Spelling → JsString
  | .camel => lit camel
  | .snake => lit snake

def attestationRecord (c : Spelling) (a : Attestation) : List (JsString × Value) :=
  [(lit "id", .num (number a.id)), (lit "attestor", .str a.attestor), (c.name "modelId" "model_id", .str a.modelId),
    (c.name "inputHash" "input_hash", .str a.inputHash), (c.name "outputHash" "output_hash", .str a.outputHash),
    (lit "commitment", .str a.commitment), (lit "uri", .str a.uri), (lit "stake", .str a.stake),
    (c.name "createdAt" "created_at", .num a.createdAt), (lit "status", .str (statusText a.status))] ++
    (a.challenger.map fun challenger => (lit "challenger", .str challenger)).toList

def policyRecord (c : Spelling) (p : Policy) : List (JsString × Value) :=
  [(lit "id", .num (number p.id)), (lit "holder", .str p.holder), (lit "coverage", .str p.coverage),
    (lit "premium", .str p.premium),
    (c.name "triggerTypes" "trigger_types", .arr (p.triggerTypes.map fun t => .str t.text)),
    (lit "expiry", .num p.expiry), (lit "status", .str (policyStatusText p.status))]

/-- The names that are read. -/
def attestationNames : List JsString :=
  [lit "attestor", lit "modelId", lit "model_id", lit "inputHash", lit "input_hash", lit "outputHash",
    lit "output_hash", lit "commitment", lit "uri", lit "stake", lit "createdAt", lit "created_at", lit "status",
    lit "challenger"]

def policyNames : List JsString :=
  [lit "holder", lit "coverage", lit "premium", lit "triggerTypes", lit "trigger_types", lit "expiry", lit "status"]

/-- A body with the members of a record, in any order; it may have others. -/
def Shows (names : List JsString) (record : Spelling → List (JsString × Value)) (body : Value) : Prop :=
  ∃ c ms, body = .obj ms ∧ ∀ k ∈ names, lookup k ms = lookup k (record c)

theorem toAttestation_record (c : Spelling) (a : Attestation) :
    toAttestation a.id (.obj (attestationRecord c a)) = .ok { a with
      status := toAttestationStatus (some (.str (statusText a.status)))
      challenger := toChallenger (a.challenger.map .str) } := by
  -- a name that is not in the record is looked for up to the challenger
  obtain ⟨id, attestor, modelId, inputHash, outputHash, commitment, uri, stake, createdAt, status, challenger⟩ := a
  cases challenger with
  | none | some challenger => cases c <;> rfl

theorem toAttestation_shows {a : Attestation} {body : Value} (hne : a.challenger ≠ some [])
    (h : Shows attestationNames (fun c => attestationRecord c a) body) : toAttestation a.id body = .ok a := by
  obtain ⟨c, ms, rfl, hlookup⟩ := h
  have hrecord : toAttestation a.id (.obj ms) = toAttestation a.id (.obj (attestationRecord c a)) := by
    simp only [attestationNames, List.forall_mem_cons] at hlookup
    simp only [toAttestation, members, ok_bind, hlookup]
  have hstatus : toAttestationStatus (some (.str (statusText a.status))) = a.status := by
    cases a.status <;> decide +kernel
  have hchallenger : toChallenger (a.challenger.map .str) = a.challenger := by
    cases hchallenger : a.challenger with
    | none => rfl
    | some x =>
      have hlen : 0 < x.length := List.length_pos_iff.2 fun hx => hne (by rw [hchallenger, hx])
      exact if_pos hlen
  rw [hrecord, toAttestation_record, hstatus, hchallenger]

theorem toTriggers_texts (ts : List TriggerType) :
    (ts.map fun t => (.str t.text : Value)).filterMap toTrigger = ts := by
  have htrigger : ∀ t : TriggerType, toTrigger (.str t.text) = some t := by
    intro t
    cases t <;> decide +kernel
  rw [List.filterMap_map, show toTrigger ∘ (fun t => .str t.text) = some from funext htrigger, List.filterMap_some]

theorem toPolicy_shows {p : Policy} {body : Value} (h : Shows policyNames (fun c => policyRecord c p) body) :
    toPolicy p.id body = .ok p := by
  obtain ⟨c, ms, rfl, hlookup⟩ := h
  have hrecord : toPolicy p.id (.obj ms) = .ok { p with
      triggerTypes := (p.triggerTypes.map fun t => (.str t.text : Value)).filterMap toTrigger
      status := toPolicyStatus (some (.str (policyStatusText p.status))) } := by
    simp only [policyNames, List.forall_mem_cons] at hlookup
    simp only [toPolicy, members, ok_bind, hlookup]
    cases c <;> rfl
  have hstatus : toPolicyStatus (some (.str (policyStatusText p.status))) = p.status := by
    cases p.status <;> decide +kernel
  rw [hrecord, toTriggers_texts, hstatus]

/-! ## The records of the mock backend -/

variable {H : Type} {env : MockEnv H}

/-- Every record is stored under its id, and no challenger is empty. -/
structure Stored (s : MockState H) : Prop where
  attestation : ∀ id a, s.attestations.get id = some a → a.id = id ∧ a.challenger ≠ some []
  policy : ∀ id p, s.policies.get id = some p → p.id = id

section
variable {s : MockState H} {id : ℕ} {a : Attestation} {p : Policy}

theorem Stored.setAttestation (hs : Stored s) (hid : a.id = id) (hne : a.challenger ≠ some []) :
    Stored (s.setAttestation id a) where
  attestation := Mapping.forall_set hs.attestation ⟨hid, hne⟩
  policy := hs.policy

theorem Stored.setPolicy (hs : Stored s) (hid : p.id = id) : Stored (s.setPolicy id p) where
  attestation := hs.attestation
  policy := Mapping.forall_set hs.policy hid

end

/-- Every operation keeps the records where they are; one that writes to a record
    has looked it up. -/
theorem stored_preserved [DecidableEq H] (env : MockEnv H) (op : MockOp H) : Op.Preserves Stored (op.run env) := by
  have hhash : ∀ {label : JsString} {payload : Value}, Op.Preserves Stored (deployHash env label payload) :=
    deployHash_preserves fun _ hs => ⟨hs.attestation, hs.policy⟩
  have hemit : ∀ {event : CasperProofEvent}, Op.Preserves Stored (emit env event) :=
    emit_preserves fun _ hs => ⟨hs.attestation, hs.policy⟩
  cases op with
  | submitAttestation args =>
    refine .bind (.bind .orFail fun _ => .bind .failIf fun _ => .bind .lift fun _ => .bind .get fun _ => ?_) fun _ =>
      .pure _
    refine .bind (.modify fun _ hs => ?_) fun _ => .bind hhash fun _ => .bind hemit fun _ => .pure _
    exact Stored.setAttestation ⟨hs.attestation, hs.policy⟩ rfl (Option.some_ne_none _).symm
  | challenge id =>
    refine .bind (.lookup fun s a hs hget => ?_) fun _ => .pure _
    obtain ⟨hid, -⟩ := hs.attestation id a hget
    refine .bind .failIf fun _ => .bind .failIf fun _ => .bind (.modify fun _ hs => ?_) fun _ => ?_
    · exact hs.setAttestation hid fun hempty => absurd (Option.some.inj hempty) (by decide +kernel)
    · exact .bind hhash fun _ => .bind hemit fun _ => .pure _
  | resolve id fraudulent =>
    have hrep : ∀ address, Op.Preserves (Stored (H := H)) (Sdk.rep address) :=
      fun _ => rep_preserves fun _ hs => ⟨hs.attestation, hs.policy⟩
    refine .bind (.lookup fun s a hs hget => ?_) fun _ => .pure _
    obtain ⟨hid, hne⟩ := hs.attestation id a hget
    refine .bind .failIf fun _ => .bind (hrep _) fun _ => .bind (.modify fun _ hs => ?_) fun _ => ?_
    · have hset := hs.setAttestation (a := { a with status := verdict fraudulent }) hid hne
      exact ⟨hset.attestation, hset.policy⟩
    · exact .bind hhash fun _ => .bind hemit fun _ => .pure _
  | createPolicy args =>
    refine .bind (.bind .get fun s => .bind (.modify fun _ hs => ?_) fun _ => .pure _) fun _ => .pure _
    exact Stored.setPolicy ⟨hs.attestation, hs.policy⟩ rfl
  | submitClaim policyId attestationId =>
    refine .bind (.lookup fun s p hs hget => ?_) fun _ => .pure _
    have hid := hs.policy policyId p hget
    split
    · exact .bind (.modify fun _ hs => hs.setPolicy hid) fun _ => .throw
    · refine .bind .orFail fun _ => ?_
      split
      · exact .throw
      · refine .bind .failIf fun _ => .bind (.modify fun _ hs => hs.setPolicy hid) fun _ => ?_
        exact .bind hhash fun _ => .bind hemit fun _ => .pure _
  | stake _ | unstake _ | subscribeEvents _ | unsubscribe _ | getAttestation _ | getPolicy _ | attestationCount
  | attestorReputation _ | getRiskScore _ =>
    refine MockOp.preserves _ fun s s' hw hs => ?_
    cases hw <;> exact ⟨hs.attestation, hs.policy⟩

theorem run_stored [DecidableEq H] {w : Clocked H} {cs : List (MockCall H)} (h : Run (MockStep env) .fresh cs w) :
    Stored w.mock := by
  have hfresh : Stored (MockState.fresh (H := H)) := by
    refine ⟨?_, ?_⟩
    · intro id a hget
      cases hget
    · intro id p hget
      cases hget
  refine h.inv (P := fun w => Stored w.mock) hfresh fun w c w' hs hstep => ?_
  have hrun := stored_preserved (env.at c.now) c.op w.mock hs
  rwa [hstep.run] at hrun

/-! ## The two backends -/

/-- A live read ends as a read of the mock backend. -/
inductive EndsAs {α : Type} : Except SdkError α → Except Thrown α → Prop
  | returns (a : α) : EndsAs (.ok a) (.ok a)
  | throws {e : SdkError} {x x' : CasperProofSdkError} (h : e.typed = some x) (hsame : SameError x x') :
    EndsAs (.error e) (.error (.sdk x'))

/-- The answer of a service: the record that it has, or the problem. -/
inductive Answers {α : Type} (found : Option α) (shows : α → Value → Prop) (missing : CasperProofError) :
    Outcome → Prop
  | found {a : α} {body : Value} (h : found = some a) (hbody : shows a body) (status : ℕ)
    (text : Except Thrown JsString) : Answers found shows missing (.ok ⟨true, status, .ok body, text⟩)
  | missing {body : Value} (h : found = none) (hbody : missing.intoProblem.Body body) (text : Except Thrown JsString) :
    Answers found shows missing (.ok ⟨false, missing.status, .ok body, text⟩)

section
variable {α : Type} {found : Option α} {shows : α → Value → Prop} {missing : CasperProofError} {e : SdkError}
  {parse : Value → Except Thrown α} {path : JsString} {retries k : ℕ} {fetch : ℕ → Outcome}

/-- A read whose answer comes before the retries are spent. -/
theorem read_endsAs (hm : MirrorsError e missing) (hs : Safe missing) (hstatus : missing.status ∉ retryableStatuses)
    (hparse : ∀ a body, found = some a → shows a body → parse body = .ok a) (hk : k ≤ retries)
    (hbusy : ∀ j < k, (fetch j).kind.settled = none) (h : Answers found shows missing (fetch k)) :
    EndsAs (found.elim (.error e) .ok) ((get path retries fetch).result >>= parse) := by
  generalize hfetch : fetch k = outcome at h
  cases h with
  | @found a body hfound hbody status text =>
    have hsettled : (fetch k).kind.settled = some (.ok body) := by rw [hfetch]; rfl
    rw [get, readLoop_settled hk hbusy hsettled, hfound]
    show EndsAs (.ok a) (parse body)
    rw [hparse a body hfound hbody]
    exact .returns a
  | @missing body hnone hbody text =>
    have hsettled : (fetch k).kind.settled = some (.error (.sdk (errorFromProblem missing.status body))) := by
      rw [hfetch]
      show Kind.settled (if missing.status ∈ retryableStatuses then _ else _) = _
      rw [if_neg hstatus]
      rfl
    rw [get, readLoop_settled hk hbusy hsettled, hnone]
    obtain ⟨x, htyped, hdescribes, hne⟩ := hm.describes hs
    exact .throws htyped ((errorFromProblem_decodes hbody).sameError hdescribes hne)

end

theorem getAttestation_result (s : MockState H) (id : ℕ) :
    (Sdk.getAttestation id s).1 = (s.attestations.get id).elim (.error (.attestationNotFound id)) .ok := by
  rw [Sdk.getAttestation, Op.bind_of_returns Op.returns_get]
  cases s.attestations.get id <;> rfl

theorem getPolicy_result (s : MockState H) (id : ℕ) :
    (Sdk.getPolicy id s).1 = (s.policies.get id).elim (.error (.policyNotFound id)) .ok := by
  rw [Sdk.getPolicy, Op.bind_of_returns Op.returns_get]
  cases s.policies.get id <;> rfl

/-- The service answers with the attestation of the mock backend. -/
def AnswersAttestation (s : MockState H) (id : U64) : Outcome → Prop :=
  Answers (s.attestations.get id.val) (fun a => Shows attestationNames fun c => attestationRecord c a)
    (.attestationNotFound id)

/-- The service answers with the policy of the mock backend. -/
def AnswersPolicy (s : MockState H) (id : U64) : Outcome → Prop :=
  Answers (s.policies.get id.val) (fun p => Shows policyNames fun c => policyRecord c p) (.policyNotFound id)

/-- **The live reads end as the mock's**, after every run of the mock backend
    whose records the service has. -/
theorem live_reads_agree [DecidableEq H] {w : Clocked H} {cs : List (MockCall H)} {id : U64} {retries k : ℕ}
    {fetch : ℕ → Outcome} (hrun : Run (MockStep env) .fresh cs w) (hid : id.val ≤ maxSafeInteger)
    (hk : k ≤ retries) (hbusy : ∀ j < k, (fetch j).kind.settled = none) :
    (AnswersAttestation w.mock id (fetch k) →
      EndsAs (Sdk.getAttestation id.val w.mock).1 (getAttestation retries fetch id.val)) ∧
    (AnswersPolicy w.mock id (fetch k) →
      EndsAs (Sdk.getPolicy id.val w.mock).1 (getPolicy retries fetch id.val)) := by
  have hstored := run_stored hrun
  have hsafe : ∀ {key : JsString}, ∀ m ∈ [(key, Extension.number id)], ∀ n, m.2 = .number n →
      n.val ≤ maxSafeInteger := by
    intro key m hm n hn
    obtain rfl := List.mem_singleton.1 hm
    cases hn
    exact hid
  refine ⟨fun hanswer => ?_, fun hanswer => ?_⟩
  · rw [getAttestation_result]
    refine read_endsAs (.attestationNotFound id) hsafe (show 404 ∉ retryableStatuses by decide) ?_ hk hbusy hanswer
    intro a body hget hshows
    obtain ⟨ha, hne⟩ := hstored.attestation id.val a hget
    rw [← ha]
    exact toAttestation_shows hne hshows
  · rw [getPolicy_result]
    refine read_endsAs (.policyNotFound id) hsafe (show 404 ∉ retryableStatuses by decide) ?_ hk hbusy hanswer
    intro p body hget hshows
    rw [← hstored.policy id.val p hget]
    exact toPolicy_shows hshows

/-- A service that is unavailable once, and then has the record of an attestation. -/
def demoFetch (a : Attestation) : ℕ → Outcome
  | 0 => .ok ⟨false, 503, .ok (.obj []), .ok []⟩
  | _ + 1 => .ok ⟨true, 200, .ok (.obj (attestationRecord .snake a)), .ok []⟩

theorem live_reads_agree_demo : ∃ cs w a, Run (MockStep (demoMock 0)) .fresh cs w ∧
    w.mock.attestations.get 1 = some a ∧ a.status = .slashed ∧
    EndsAs (Sdk.getAttestation 1 w.mock).1 (getAttestation 1 (demoFetch a) 1) := by
  have hrun := demo_run demoSlashed (by decide +kernel)
  have hslashed : ((execCalls (demoMock 0) demoSlashed .fresh).2.mock.attestations.get 1).any
      (fun a => a.status = .slashed) := by decide +kernel
  obtain ⟨a, hget, hstatus⟩ := (Option.any_eq_true _ _).1 hslashed
  refine ⟨_, _, a, hrun, hget, of_decide_eq_true hstatus, ?_⟩
  have hid : (1 : U64).val ≤ maxSafeInteger := by decide +kernel
  have hbusy : ∀ j < 1, (demoFetch a j).kind.settled = none := by
    intro j hj
    obtain rfl := Nat.lt_one_iff.1 hj
    rfl
  exact (live_reads_agree hrun hid le_rfl hbusy).1 (.found hget ⟨.snake, _, rfl, fun _ _ => rfl⟩ 200 _)

end CasperProof.Sdk.RestBackend
