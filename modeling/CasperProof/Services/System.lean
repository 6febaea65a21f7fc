/-
  The services over one SDK and one store.

  Any number of MCP clients, x402 clients, agent runtimes and other users of
  the SDK take turns.  As long as attestations come with their payload and no
  two payloads have the same digest, what is on record is valid in every state
  that is reached:

  * `http_answers`: the answers of the x402 server to paid requests;
  * `tool_answers`: the verdicts of the MCP server.

  `records_last`: and what is once on record stays there.
-/
import CasperProof.Services.Mcp
import CasperProof.Services.X402

namespace CasperProof.Services

open Js Commitment Sdk Agent
open Agent.Runtime (AgentRuntime Surroundings RuntimeContext)

variable {H : Type} {blake2b256 : Blake2b} {bucket : JsString} {P : Set Bytes} {w w' : AgentState H}

/-! ## The answers of the x402 server -/

section
open X402

/-- The reply to a paid request, by what is on record. -/
inductive Expected (blake2b256 : Blake2b) (w : AgentState H) : Route → Reply → Prop
  | health : Expected blake2b256 w .health ⟨200, .health (lit "mock")⟩
  | noId {rawId : JsString} (hid : parseId rawId = none) : Expected blake2b256 w (.attestation rawId)
      (sendProblem (badRequest (lit "Invalid attestation id: " ++ rawId)))
  | missing {rawId : JsString} {id : ℕ} (hid : parseId rawId = some id) (hget : w.1.attestations.get id = none) :
    Expected blake2b256 w (.attestation rawId) (sendProblem (X402.attestationNotFound (number id)))
  | served {rawId : JsString} {id : ℕ} {a : Sdk.Attestation} {payload : Value} (hid : parseId rawId = some id)
    (hget : w.1.attestations.get id = some a) (hpayload : checkPayload blake2b256 a payload = .ok (a.outputHash, true)) :
    Expected blake2b256 w (.attestation rawId) ⟨200, .attestation a payload⟩
  | textless {body : Option Value} {e : Uncaught} (hid : bodyId body = .error e) :
    Expected blake2b256 w (.verify body) ⟨500, .uncaught⟩
  | noBodyId {body : Option Value} (hid : bodyId body = .ok none) : Expected blake2b256 w (.verify body)
      (sendProblem (badRequest (lit "Body must include a numeric `id`.")))
  | unknown {body : Option Value} {id : JsNumber} (hid : bodyId body = .ok (some id))
    (hget : ∀ n, id.toNat? = some n → w.1.attestations.get n = none) :
    Expected blake2b256 w (.verify body) (sendProblem (X402.attestationNotFound id))
  | verified {body : Option Value} {id : JsNumber} {n : ℕ} {a : Sdk.Attestation} {v : VerifyResult}
    (hid : bodyId body = .ok (some id)) (hn : id.toNat? = some n) (hget : w.1.attestations.get n = some a)
    (hv : Certifies a v) : Expected blake2b256 w (.verify body) ⟨200, .verdict v⟩

theorem attestationRoute_sound (hw : Sound blake2b256 bucket P w) (hbucket : Addressable bucket) (rawId : JsString) :
    ∃ reply, (attestationRoute rawId : HandlerOp H Reply).Returns w reply w ∧
      Expected blake2b256 w (.attestation rawId) reply := by
  unfold attestationRoute
  cases hid : parseId rawId with
  | none => exact ⟨_, Op.returns_pure, .noId hid⟩
  | some id =>
    cases hget : w.1.attestations.get id with
    | none => exact ⟨_, (Op.attempt_returns.2 (getAttestation_notFound hget)).bind Op.returns_pure, .missing hid hget⟩
    | some a =>
      obtain ⟨payload, hjson, hcheck⟩ := hw.payload hbucket hget
      have hserved : (Op.onSnd AgentError.store (PayloadStore.getJson a.uri) : AgentOp H Value).Returns w payload w :=
        Op.onSnd_returns.2 ⟨hjson, rfl⟩
      refine ⟨_, (Op.attempt_returns.2 (getAttestation_found hget)).bind ?_, .served hid hget hcheck⟩
      exact (Op.attempt_returns.2 hserved).bind Op.returns_pure

/-- Verifying what a number is the id of. -/
theorem onAttestation_sound {env : MockEnv H} (hw : Sound env.blake2b256 bucket P w) (hbucket : Addressable bucket)
    (id : JsNumber) :
    (∃ e, (AgentRuntime.onAttestation id fun n => Agent.verify env n).Throws w e w ∧
      handleError e id = sendProblem (X402.attestationNotFound id) ∧
      ∀ n, id.toNat? = some n → w.1.attestations.get n = none) ∨
    ∃ n a v, id.toNat? = some n ∧ w.1.attestations.get n = some a ∧
      (AgentRuntime.onAttestation id fun n => Agent.verify env n).Returns w v w ∧ Certifies a v := by
  unfold AgentRuntime.onAttestation
  cases hn : id.toNat? with
  | none => exact .inl ⟨_, Op.throw_throws.2 ⟨rfl, rfl⟩, rfl, by simp⟩
  | some n =>
    cases hget : w.1.attestations.get n with
    | none =>
      refine .inl ⟨_, Op.mapError_throws.2 ⟨_, verify_notFound env hget, rfl⟩, rfl, ?_⟩
      rintro _ ⟨rfl⟩
      exact hget
    | some a =>
      obtain ⟨v, hv, hcertifies⟩ := hw.verdict hbucket hget
      exact .inr ⟨n, a, v, rfl, hget, Op.mapError_returns.2 hv, hcertifies⟩

theorem verifyRoute_sound {env : MockEnv H} (hw : Sound env.blake2b256 bucket P w) (hbucket : Addressable bucket)
    (body : Option Value) : (∃ reply, (verifyRoute env body).Returns w reply w ∧
      Expected env.blake2b256 w (.verify body) reply) ∨ ∃ e, (verifyRoute env body).Throws w e w ∧
      Expected env.blake2b256 w (.verify body) ⟨500, .uncaught⟩ := by
  unfold verifyRoute
  cases hid : bodyId body with
  | error e =>
    have hlift : (Op.lift id (.error e) : HandlerOp H (Option JsNumber)).Throws w e w := Op.lift_throws.2 ⟨⟨e, rfl, rfl⟩, rfl⟩
    exact .inr ⟨e, hlift.bind, .textless hid⟩
  | ok o =>
    have hlift : (Op.lift id (.ok o) : HandlerOp H (Option JsNumber)).Returns w o w := Op.lift_returns.2 ⟨rfl, rfl⟩
    refine .inl ?_
    cases o with
    | none => exact ⟨_, hlift.bind Op.returns_pure, .noBodyId hid⟩
    | some id =>
      rcases onAttestation_sound hw hbucket id with ⟨e, hrun, he, hget⟩ | ⟨n, a, v, hn, hget, hrun, hv⟩
      · refine ⟨handleError e id, hlift.bind ((Op.attempt_returns.2 hrun).bind Op.returns_pure), ?_⟩
        exact he ▸ .unknown hid hget
      · exact ⟨_, hlift.bind ((Op.attempt_returns.2 hrun).bind Op.returns_pure), .verified hid hn hget hv⟩

theorem gated_sound {srv : Server} {req : X402.Request} (hpaid : srv.Paid req) {handler : HandlerOp H Reply}
    (h : (∃ reply, handler.Returns w reply w ∧ Expected blake2b256 w req.route reply) ∨
      ∃ e, handler.Throws w e w ∧ Expected blake2b256 w req.route ⟨500, .uncaught⟩) :
    ∃ reply settlement, (srv.gated req handler).Returns w ⟨reply, settlement⟩ w ∧
      Expected blake2b256 w req.route reply := by
  obtain ⟨settlement, hok⟩ := requirePayment_paid hpaid
  unfold Server.gated
  rw [hok]
  rcases h with ⟨reply, hrun, hexpected⟩ | ⟨e, hrun, hexpected⟩
  · exact ⟨reply, settlement, (Op.attempt_returns.2 hrun).bind Op.returns_pure, hexpected⟩
  · exact ⟨⟨500, .uncaught⟩, settlement, (Op.attempt_returns.2 hrun).bind Op.returns_pure, hexpected⟩

/-- **The reply to a paid request.** -/
theorem respond_sound {env : MockEnv H} (hw : Sound env.blake2b256 bucket P w) (hbucket : Addressable bucket)
    {srv : Server} {req : X402.Request} (hpaid : srv.Paid req) :
    ∃ reply settlement, (srv.respond env req).Returns w ⟨reply, settlement⟩ w ∧
      Expected env.blake2b256 w req.route reply := by
  obtain ⟨route, url, header⟩ := req
  cases route with
  | health => exact ⟨_, _, Op.returns_pure, .health⟩
  | attestation rawId => exact gated_sound hpaid (.inl (attestationRoute_sound hw hbucket rawId))
  | verify body => exact gated_sound hpaid (verifyRoute_sound hw hbucket body)

end

/-! ## The verdicts of the MCP server -/

section
open Mcp

/-- The verdict of the `verify` tool, by what is on record. -/
inductive Verdict (describe : ToolError → JsString) (w : AgentState H) (id : ℕ) : ToolResult → Prop
  | missing (hget : w.1.attestations.get id = none) :
    Verdict describe w id (.isError (fail describe (.agent (.sdk (.attestationNotFound id)))))
  | verified {a : Sdk.Attestation} {v : VerifyResult} (hget : w.1.attestations.get id = some a)
    (hv : Certifies a v) : Verdict describe w id (.ok (.verdict v))

theorem verify_verdict {env : MockEnv H} (hw : Sound env.blake2b256 bucket P w) (hbucket : Addressable bucket)
    (describe : ToolError → JsString) (ctx : ToolContext) (now : JsNumber) (id : ℕ) :
    ∃ result, ((ToolCall.verify id).run describe ctx env now).Returns w result w ∧ Verdict describe w id result := by
  cases hget : w.1.attestations.get id with
  | none =>
    have hthrows : ((ToolCall.verify id).handler ctx env now).Throws w (.agent (.sdk (.attestationNotFound id))) w :=
      (Op.mapError_throws.2 ⟨_, verify_notFound env hget, rfl⟩).bind
    exact ⟨_, (Op.attempt_returns.2 hthrows).bind Op.returns_pure, .missing hget⟩
  | some a =>
    obtain ⟨v, hv, hcertifies⟩ := hw.verdict hbucket hget
    have hreturns : ((ToolCall.verify id).handler ctx env now).Returns w (.verdict v) w :=
      (Op.mapError_returns.2 hv).bind Op.returns_pure
    exact ⟨_, (Op.attempt_returns.2 hreturns).bind Op.returns_pure, .verified hget hcertifies⟩

end

/-! ## Runs -/

/-- What one of the users does. -/
inductive Event (H : Type) where
  | tool (ctx : Mcp.ToolContext) (q : Mcp.Request H)
  | http (srv : X402.Server) (env : MockEnv H) (req : X402.Request)
  | cycle (r : AgentRuntime) (m : Surroundings H) (ctx : RuntimeContext)
  | sdk (env : MockEnv H) (op : MockOp H)

/-- The users share the store's bucket and the digest function, and none calls
    `submitAttestation` but by `attest`. -/
def Event.Fits (blake2b256 : Blake2b) (bucket : JsString) : Event H → Prop
  | .tool ctx q => q.env.blake2b256 = blake2b256 ∧ ctx.bucket = bucket
  | .http _ env _ => env.blake2b256 = blake2b256
  | .cycle r _ _ => r.bucket = bucket
  | .sdk env op => env.blake2b256 = blake2b256 ∧ ¬ Submits op

/-- The state after an event, whatever its result is. -/
def Event.run [DecidableEq H] (describe : Mcp.ToolError → JsString) (blake2b256 : Blake2b) (w : AgentState H) :
    Event H → AgentState H
  | .tool ctx q => (q.serve describe ctx w).2
  | .http srv env req => (srv.respond env req w).2
  | .cycle r m ctx => (r.runOnce blake2b256 m ctx w).2
  | .sdk env op => ((op.run env w.1).2, w.2)

/-- The payloads that an event stores. -/
def Event.Writes (blake2b256 : Blake2b) (bytes : Bytes) : Event H → Prop
  | .tool _ q => ∃ call, Mcp.ToolCall.validate q.name q.arguments = some call ∧ call.Writes q.now bytes
  | .cycle r m ctx => r.Writes blake2b256 m ctx bytes
  | .http _ _ _ | .sdk _ _ => False

/-- An event stores one payload at most. -/
theorem Event.writes_unique {e : Event H} {bytes bytes' : Bytes} (h : e.Writes blake2b256 bytes)
    (h' : e.Writes blake2b256 bytes') : bytes = bytes' := by
  cases e with
  | tool ctx q =>
    obtain ⟨call, hcall, hwrites⟩ := h
    obtain ⟨call', hcall', hwrites'⟩ := h'
    cases hcall.symm.trans hcall'
    cases call with
    | submitAttestation args =>
      obtain ⟨a, ha, hbytes⟩ := hwrites
      obtain ⟨a', ha', hbytes'⟩ := hwrites'
      cases ha.symm.trans ha'
      exact Except.ok.inj (hbytes.symm.trans hbytes')
    | getAttestation | verify | getRiskScore | buyPolicy | submitClaim | challenge => cases hwrites
  | cycle r m ctx =>
    obtain ⟨d, address, hd, -, haddress, hbytes⟩ := h
    obtain ⟨d', address', hd', -, haddress', hbytes'⟩ := h'
    cases hd.symm.trans hd'
    cases haddress.symm.trans haddress'
    exact Except.ok.inj (hbytes.symm.trans hbytes')
  | http | sdk => cases h

/-- The payloads of a run. -/
def payloads (blake2b256 : Blake2b) (es : List (Event H)) : Set Bytes :=
  {bytes | ∃ e ∈ es, e.Writes blake2b256 bytes}

def Step [DecidableEq H] (describe : Mcp.ToolError → JsString) (blake2b256 : Blake2b) (bucket : JsString)
    (w : AgentState H) (e : Event H) (w' : AgentState H) : Prop :=
  e.Fits blake2b256 bucket ∧ e.run describe blake2b256 w = w'

theorem Event.sound [DecidableEq H] (describe : Mcp.ToolError → JsString) (hinj : Set.InjOn blake2b256 P)
    {e : Event H} (hfits : e.Fits blake2b256 bucket) (hP : ∀ bytes, e.Writes blake2b256 bytes → bytes ∈ P)
    (hw : Sound blake2b256 bucket P w) : Sound blake2b256 bucket P (e.run describe blake2b256 w) := by
  cases e with
  | tool ctx q =>
    obtain ⟨rfl, rfl⟩ := hfits
    show Sound _ _ _ (q.serve describe ctx w).2
    unfold Mcp.Request.serve
    cases hcall : Mcp.ToolCall.validate q.name q.arguments with
    | none => rwa [Mcp.callTool_none hcall]
    | some call =>
      rw [Mcp.callTool_eq hcall]
      refine Mcp.handler_sound hinj (fun bytes hbytes => hP bytes ⟨call, hcall, hbytes⟩) ?_ w hw
      rintro args a rfl hargs
      exact q.attestArgs_distinct hcall hargs
  | http srv env req =>
    show Sound _ _ _ (srv.respond env req w).2
    have hsame : (srv.respond env req w).2 = w := X402.respond_keeps srv env req w
    rwa [hsame]
  | cycle r m ctx =>
    obtain rfl := hfits
    exact Agent.Runtime.runOnce_sound hinj hP w hw
  | sdk env op =>
    obtain ⟨rfl, hop⟩ := hfits
    exact hw.of_records (mockOp_records hop w.1) rfl

/-- **What is on record is vouched for**, in every state that is reached. -/
theorem run_sound [DecidableEq H] {describe : Mcp.ToolError → JsString} {es : List (Event H)}
    (h : Run (Step describe blake2b256 bucket) Mcp.start es w)
    (hinj : Set.InjOn blake2b256 (payloads blake2b256 es)) :
    Sound blake2b256 bucket (payloads blake2b256 es) w := by
  refine h.inv_of_mem (fun id a hget => ?_) ?_
  · cases hget
  · rintro w e _ he hw ⟨hfits, rfl⟩
    exact e.sound describe hinj hfits (fun bytes hbytes => ⟨e, he, hbytes⟩) hw

/-! ### An attestation -/

/-- A client attests a payload. -/
def demoEvent : Event Empty := .tool Mcp.demoContext Mcp.demoSubmission

theorem demo_run : Run (Step (fun _ => []) demoDigest (lit "casperproof-payloads")) Mcp.start [demoEvent]
    (demoEvent.run (fun _ => []) demoDigest Mcp.start) := Run.single ⟨⟨rfl, rfl⟩, rfl⟩

theorem demo_digest : demoEnv.blake2b256 = demoDigest := rfl

theorem demo_addressable : Addressable (lit "casperproof-payloads") := by decide +kernel

/-- Nothing else is stored. -/
theorem demo_injOn : Set.InjOn demoDigest (payloads demoDigest [demoEvent]) := by
  rintro bytes ⟨e, he, h⟩ bytes' ⟨e', he', h'⟩ -
  cases List.mem_singleton.1 he
  cases List.mem_singleton.1 he'
  exact Event.writes_unique h h'

/-- **The x402 server.**  In every state that is reached, a paid request is
    answered by what is on record. -/
theorem http_answers [DecidableEq H] {describe : Mcp.ToolError → JsString} {es : List (Event H)}
    (h : Run (Step describe blake2b256 bucket) Mcp.start es w)
    (hinj : Set.InjOn blake2b256 (payloads blake2b256 es)) (hbucket : Addressable bucket) {env : MockEnv H}
    (henv : env.blake2b256 = blake2b256) {srv : X402.Server} {req : X402.Request} (hpaid : srv.Paid req) :
    ∃ reply settlement, (srv.respond env req).Returns w ⟨reply, settlement⟩ w ∧
      Expected blake2b256 w req.route reply := by
  subst henv
  exact respond_sound (run_sound h hinj) hbucket hpaid

theorem http_answers_demo : ∃ (w : AgentState Empty) (reply : X402.Reply) (settlement : Option Value),
    ((X402.createServer (fun _ => none) fun _ _ => .error []).respond demoEnv
      ⟨.attestation (lit "1"), lit "/attestation/1", .one (lit "token")⟩).Returns w ⟨reply, settlement⟩ w ∧
      Expected demoDigest w (.attestation (lit "1")) reply := by
  have hpays : X402.MockMode (fun _ => none) ∧ trim (lit "token") ≠ [] := ⟨.inr ⟨rfl, by simp⟩, by decide +kernel⟩
  have hpaid : (X402.createServer (fun _ => none) fun _ _ => .error []).Paid
      ⟨.attestation (lit "1"), lit "/attestation/1", .one (lit "token")⟩ :=
    (X402.createServer_paid _ _ _).2 ⟨_, rfl, .inl hpays⟩
  obtain ⟨reply, settlement, hrun, hexpected⟩ := http_answers demo_run demo_injOn demo_addressable demo_digest hpaid
  exact ⟨_, reply, settlement, hrun, hexpected⟩

/-- **The MCP server.**  In every state that is reached, the verdict on an
    attestation on record is that it is valid. -/
theorem tool_answers [DecidableEq H] {describe : Mcp.ToolError → JsString} {es : List (Event H)}
    (h : Run (Step describe blake2b256 bucket) Mcp.start es w)
    (hinj : Set.InjOn blake2b256 (payloads blake2b256 es)) (hbucket : Addressable bucket) {env : MockEnv H}
    (henv : env.blake2b256 = blake2b256) (ctx : Mcp.ToolContext) (now : JsNumber) (id : ℕ) :
    ∃ result, ((Mcp.ToolCall.verify id).run describe ctx env now).Returns w result w ∧
      Verdict describe w id result := by
  subst henv
  exact verify_verdict (run_sound h hinj) hbucket describe ctx now id

theorem tool_answers_demo : ∃ (w : AgentState Empty) (result : Mcp.ToolResult),
    ((Mcp.ToolCall.verify 1).run (fun _ => []) Mcp.demoContext demoEnv (number 1718600001)).Returns w result w ∧
      Verdict (fun _ => []) w 1 result := by
  obtain ⟨result, hrun, hverdict⟩ :=
    tool_answers demo_run demo_injOn demo_addressable demo_digest Mcp.demoContext (number 1718600001) 1
  exact ⟨_, result, hrun, hverdict⟩

/-! ## Records last -/

theorem Event.evolves [DecidableEq H] (describe : Mcp.ToolError → JsString) (blake2b256 : Blake2b) (e : Event H)
    (w : AgentState H) : Evolves w.1.books (e.run describe blake2b256 w).1.books := by
  cases e with
  | tool ctx q =>
    show Evolves _ (q.serve describe ctx w).2.1.books
    unfold Mcp.Request.serve
    cases hcall : Mcp.ToolCall.validate q.name q.arguments with
    | none =>
      rw [Mcp.callTool_none hcall]
      exact .refl _
    | some call =>
      rw [Mcp.callTool_eq hcall]
      exact Mcp.handler_evolves ctx q.env q.now call w
  | http srv env req =>
    show Evolves _ (srv.respond env req w).2.1.books
    have hsame : (srv.respond env req w).2 = w := X402.respond_keeps srv env req w
    rw [hsame]
    exact .refl _
  | cycle r m ctx => exact runOnce_evolves r blake2b256 m ctx w
  | sdk env op => exact mockOp_evolves op w.1

theorem run_evolves [DecidableEq H] {describe : Mcp.ToolError → JsString} {es : List (Event H)}
    (h : Run (Step describe blake2b256 bucket) w es w') : Evolves w.1.books w'.1.books := by
  refine h.inv (P := fun w' => Evolves w.1.books w'.1.books) (.refl _) ?_
  rintro w₁ e _ hw ⟨-, rfl⟩
  exact hw.trans (e.evolves describe blake2b256 w₁)

/-- **Records last.**  What is on record in a state that is reached is on
    record ever after, and valid. -/
theorem records_last [DecidableEq H] {describe : Mcp.ToolError → JsString} {es es' : List (Event H)}
    (h : Run (Step describe blake2b256 bucket) Mcp.start es w) (h' : Run (Step describe blake2b256 bucket) w es' w')
    (hinj : Set.InjOn blake2b256 (payloads blake2b256 (es ++ es'))) (hbucket : Addressable bucket) {id : ℕ}
    {a : Sdk.Attestation} (hget : w.1.attestations.get id = some a) {env : MockEnv H}
    (henv : env.blake2b256 = blake2b256) :
    ∃ a' v, w'.1.attestations.get id = some a' ∧ Advances a a' ∧ (Agent.verify env id).Returns w' v w' ∧
      Certifies a' v := by
  subst henv
  have hstart : Given (Mcp.start : AgentState H).1.books := fun id h => by cases h
  obtain ⟨a', hget', hadv⟩ := (run_evolves h' (run_evolves h hstart).1).2 id a hget
  obtain ⟨v, hv, hcertifies⟩ := (run_sound (h.append h') hinj).verdict hbucket hget'
  exact ⟨a', v, hget', hadv, hv, hcertifies⟩

/-- The attestation is challenged, and still valid. -/
theorem records_last_demo : ∃ (w' : AgentState Empty) (a' : Sdk.Attestation) (v : VerifyResult),
    w'.1.attestations.get 1 = some a' ∧ (Agent.verify demoEnv 1).Returns w' v w' ∧ Certifies a' v := by
  have hinj : Set.InjOn demoDigest (payloads demoDigest ([demoEvent] ++ [.sdk demoEnv (.challenge 1)])) := by
    refine demo_injOn.mono ?_
    rintro bytes ⟨e, he, h⟩
    rcases List.mem_append.1 he with he | he
    · exact ⟨e, he, h⟩
    · cases List.mem_singleton.1 he
      cases h
  have hchallenge : Run (Step (fun _ => []) demoDigest (lit "casperproof-payloads"))
      (demoEvent.run (fun _ => []) demoDigest Mcp.start) [.sdk demoEnv (.challenge 1)] _ :=
    Run.single ⟨⟨rfl, by rintro ⟨_, h⟩; cases h⟩, rfl⟩
  have hrecorded : ((demoEvent.run (fun _ => []) demoDigest Mcp.start).1.attestations.get 1).isSome := by
    decide +kernel
  obtain ⟨a, hget⟩ := Option.isSome_iff_exists.1 hrecorded
  obtain ⟨a', v, hget', -, hv, hcertifies⟩ :=
    records_last demo_run hchallenge hinj demo_addressable hget demo_digest
  exact ⟨_, a', v, hget', hv, hcertifies⟩

end CasperProof.Services
