/-
  The x402-gated resource server — `x402-server`.

  A gated route is handled only if the payment verifier accepts the payment
  header of the request.

  * `createServer_paid`: which headers that is, by the environment; without
    a facilitator, in production, none.
  * `respond_gate`: an unpaid request is answered with the same problem
    whatever is on record, a paid one never with that problem, and no request
    changes anything.
-/
import CasperProof.Agent.Loop
import CasperProof.Sdk.Taxonomy

namespace CasperProof.X402

open Js Sdk Agent
open Agent.Runtime (property truthy)

/-! ## Configuration -/

/-- The configuration, without the port. -/
structure X402Config where
  priceUsd : JsString
  payTo : JsString
  facilitatorUrl : JsString
  mock : Bool

def loadConfig (env : Environment) : X402Config :=
  let facilitatorUrl := (env (lit "X402_FACILITATOR_URL")).getD []
  { priceUsd := (env (lit "X402_PRICE_USD")).getD (lit "0.01")
    payTo := (env (lit "X402_PAY_TO")).getD (lit "casperproof-treasury")
    facilitatorUrl
    mock := env (lit "X402_MOCK") = some (lit "true") ||
      facilitatorUrl = [] && env (lit "NODE_ENV") ≠ some (lit "production") }

/-! ## Payment -/

structure PaymentContext where
  resource : JsString
  priceUsd : JsString

/-- The `settlement` of a facilitator is any JSON value. -/
structure PaymentResult where
  ok : Bool
  reason : Option JsString
  settlement : Option Value

/-- What the facilitator answers, with what `json()` leads to. -/
structure FacilitatorResponse where
  ok : Bool
  status : ℕ
  json : Except JsString Value

/-- What a `POST` of a body to a URL leads to; the messages are those of the errors. -/
abbrev Facilitator := (url body : JsString) → Except JsString FacilitatorResponse

def missingHeader : PaymentResult := ⟨false, some (lit "missing X-PAYMENT header"), none⟩

def MockPaymentVerifier.verify : Option JsString → PaymentResult
  | some header =>
    if trim header ≠ [] then
      ⟨true, none, some (.str (lit "mock-" ++ (stripPrefix (lit "mock:") header).take 16))⟩
    else missingHeader
  | none => missingHeader

namespace FacilitatorPaymentVerifier

/-- `replace(/\/$/, '')`. -/
def baseUrl (url : JsString) : JsString := if url.getLast? = some slash then url.dropLast else url

def requestBody (header : JsString) (ctx : PaymentContext) : JsString :=
  stringify (.obj [(lit "payment", .str header), (lit "resource", .str ctx.resource),
    (lit "priceUsd", .str ctx.priceUsd)])

def unreachable (message : JsString) : PaymentResult :=
  ⟨false, some (lit "facilitator unreachable: " ++ message), none⟩

def verify (url : JsString) (facilitator : Facilitator) (ctx : PaymentContext) : Option JsString → PaymentResult
  | none | some [] => missingHeader
  | some header =>
    match facilitator (baseUrl url ++ lit "/verify") (requestBody header ctx) with
    | .error message => unreachable message
    | .ok res =>
      if ¬ res.ok then ⟨false, some (lit "facilitator returned " ++ decimal res.status), none⟩
      else
        match res.json with
        | .error message => unreachable message
        | .ok .null => unreachable (lit "Cannot read properties of null (reading 'valid')")
        | .ok body =>
          if truthy (property (lit "valid") (some body)) then ⟨true, none, property (lit "settlement") (some body)⟩
          else ⟨false, some (lit "facilitator rejected payment"), none⟩

end FacilitatorPaymentVerifier

def DenyPaymentVerifier.verify : PaymentResult :=
  ⟨false, some (lit "no payment verifier configured (fail closed)"), none⟩

inductive PaymentVerifier where
  | mock
  | facilitator (url : JsString)
  | deny

def PaymentVerifier.verify (facilitator : Facilitator) (ctx : PaymentContext) (header : Option JsString) :
    PaymentVerifier → PaymentResult
  | mock => MockPaymentVerifier.verify header
  | .facilitator url => FacilitatorPaymentVerifier.verify url facilitator ctx header
  | deny => DenyPaymentVerifier.verify

def createPaymentVerifier (mock : Bool) (facilitatorUrl : JsString) : PaymentVerifier :=
  if mock then .mock else if facilitatorUrl ≠ [] then .facilitator facilitatorUrl else .deny

/-! ## Problems -/

structure Problem where
  type_ : JsString
  title : JsString
  status : ℕ
  code : JsString
  extra : List (JsString × Value)

def problem (slug code : JsString) (status : ℕ) (title : JsString) (extra : List (JsString × Value)) : Problem :=
  ⟨lit "https://casperproof.com/problems/" ++ slug, title, status, code, extra⟩

def Problem.members (p : Problem) : List (JsString × Value) :=
  [(lit "type", .str p.type_), (lit "title", .str p.title), (lit "status", .num (number p.status)),
    (lit "code", .str p.code)] ++ p.extra

def paymentRequired (priceUsd payTo url : JsString) : Problem :=
  problem (lit "payment-required") (lit "PAYMENT_REQUIRED") 402 (lit "Payment required")
    [(lit "detail", .str (lit "This resource is x402-gated. Pay " ++ priceUsd ++ lit " USD to `" ++ payTo ++
        lit "` then retry with an X-PAYMENT header.")),
      (lit "instance", .str url), (lit "price_usd", .str priceUsd), (lit "pay_to", .str payTo)]

def attestationNotFound (id : JsNumber) : Problem :=
  problem (lit "attestation-not-found") (lit "ATTESTATION_NOT_FOUND") 404 (lit "Attestation not found")
    [(lit "detail", .str (lit "No attestation exists with id " ++ numberText id ++ lit ".")),
      (lit "attestation_id", .num id)]

def payloadUnavailable (uri : JsString) : Problem :=
  problem (lit "payload-unavailable") (lit "PAYLOAD_UNAVAILABLE") 502 (lit "Payload unavailable")
    [(lit "detail", .str (lit "The off-chain payload could not be fetched from the object store.")),
      (lit "uri", .str uri)]

def badRequest (detail : JsString) : Problem :=
  problem (lit "bad-request") (lit "BAD_REQUEST") 400 (lit "Bad request") [(lit "detail", .str detail)]

def internalError : Problem :=
  problem (lit "internal-error") (lit "INTERNAL_ERROR") 500 (lit "Internal error")
    [(lit "detail", .str (lit "An unexpected error occurred."))]

/-! ## The server -/

/-- `req.headers['x-payment']`. -/
inductive Header where
  | absent
  | one (value : JsString)
  | many (values : List JsString)

/-- `Array.isArray(header) ? header[0] : header`. -/
def Header.value : Header → Option JsString
  | absent => none
  | one value => some value
  | many values => values.head?

/-- The routes; `body` is the parsed body, if there is one. -/
inductive Route where
  | health
  | attestation (rawId : JsString)
  | verify (body : Option Value)

structure Request where
  route : Route
  url : JsString
  header : Header

def Request.method (req : Request) : JsString :=
  match req.route with
  | .health | .attestation _ => lit "GET"
  | .verify _ => lit "POST"

inductive Body where
  | health (mode : JsString)
  | attestation (attestation : Sdk.Attestation) (payload : Value)
  | verdict (result : VerifyResult)
  | problem (p : Problem)
  /-- what is sent for an error that a handler throws -/
  | uncaught

structure Reply where
  status : ℕ
  body : Body

/-- A reply with the `x-payment-settlement` header. -/
structure Response extends Reply where
  settlement : Option Value

/-- What a handler throws: a `TypeError` of `String`. -/
inductive Uncaught where
  | typeError

abbrev HandlerOp (H α : Type) := Op (AgentState H) Uncaught α

abbrev ServerOp (H α : Type) := Op (AgentState H) Empty α

def sendProblem (p : Problem) : Reply := ⟨p.status, .problem p⟩

def parseId (raw : JsString) : Option ℕ := (toNumber raw).toNat?

/-- The error, if it is a `CasperProofSdkError`. -/
def typed : Agent.Runtime.RuntimeError → Option CasperProofSdkError
  | .agent (.sdk e) => e.typed
  | .attestationNotFound id => some (Sdk.attestationNotFound id)
  | .agent (.store _) | .agent (.commitment _) | .decide _ => none

def handleError (e : Agent.Runtime.RuntimeError) (id : JsNumber) : Reply :=
  if (typed e).map CasperProofSdkError.code = some .attestationNotFound then sendProblem (attestationNotFound id)
  else sendProblem internalError

section
variable {H : Type}

/-- The handler of `GET /attestation/:id`. -/
def attestationRoute (rawId : JsString) : HandlerOp H Reply :=
  match parseId rawId with
  | none => pure (sendProblem (badRequest (lit "Invalid attestation id: " ++ rawId)))
  | some id => do
    let attestation ← Op.attempt (Op.onFst AgentError.sdk (getAttestation id) : AgentOp H Sdk.Attestation)
    match attestation with
    | .error e => pure (handleError (.agent e) (number id))
    | .ok attestation =>
      let payload ← Op.attempt (Op.onSnd AgentError.store (PayloadStore.getJson attestation.uri) : AgentOp H Value)
      match payload with
      | .error _ => pure (sendProblem (payloadUnavailable attestation.uri))
      | .ok payload => pure ⟨200, .attestation attestation payload⟩

/-- `typeof body.id === 'number' ? body.id : parseId(String(body.id))`. -/
def bodyId (body : Option Value) : Except Uncaught (Option JsNumber) :=
  let body : Value := match body with
    | none | some .null => .obj []
    | some body => body
  match property (lit "id") (some body) with
  | some (.num n) => .ok (some n)
  | none => .ok ((parseId (lit "undefined")).map number)
  | some v =>
    match valueText v with
    | some text => .ok ((parseId text).map number)
    | none => .error .typeError

/-- The handler of `POST /verify`. -/
def verifyRoute (env : MockEnv H) (body : Option Value) : HandlerOp H Reply := do
  let id ← Op.lift id (bodyId body)
  match id with
  | none => pure (sendProblem (badRequest (lit "Body must include a numeric `id`.")))
  | some id =>
    let result ← Op.attempt (Agent.Runtime.AgentRuntime.onAttestation id fun id => verify env id)
    match result with
    | .error e => pure (handleError e id)
    | .ok result => pure ⟨200, .verdict result⟩

structure Server where
  config : X402Config
  paymentVerifier : PaymentVerifier
  facilitator : Facilitator

namespace Server
variable (srv : Server)

/-- The problem that is sent instead, or the settlement. -/
def requirePayment (req : Request) : Except Problem (Option Value) :=
  let result := srv.paymentVerifier.verify srv.facilitator
    ⟨req.method ++ lit " " ++ req.url, srv.config.priceUsd⟩ req.header.value
  if ¬ result.ok then .error (paymentRequired srv.config.priceUsd srv.config.payTo req.url)
  else .ok (if truthy result.settlement then result.settlement else none)

/-- A route with the payment hook; what the handler throws is a `500`. -/
def gated (req : Request) (handler : HandlerOp H Reply) : ServerOp H Response :=
  match srv.requirePayment req with
  | .error p => pure ⟨sendProblem p, none⟩
  | .ok settlement => do
    let reply ← Op.attempt handler
    match reply with
    | .error _ => pure ⟨⟨500, .uncaught⟩, settlement⟩
    | .ok reply => pure ⟨reply, settlement⟩

def respond (env : MockEnv H) (req : Request) : ServerOp H Response :=
  match req.route with
  | .health => pure ⟨⟨200, .health (lit "mock")⟩, none⟩
  | .attestation rawId => srv.gated req (attestationRoute rawId)
  | .verify body => srv.gated req (verifyRoute env body)

end Server

end

def createServer (env : Environment) (facilitator : Facilitator) : Server :=
  let config := loadConfig env
  ⟨config, createPaymentVerifier config.mock config.facilitatorUrl, facilitator⟩

/-! ## Payments -/

/-- The facilitator accepts the payment. -/
def Settles (facilitator : Facilitator) (ctx : PaymentContext) (url header : JsString) : Prop :=
  header ≠ [] ∧ ∃ status body,
    facilitator (FacilitatorPaymentVerifier.baseUrl url ++ lit "/verify")
      (FacilitatorPaymentVerifier.requestBody header ctx) = .ok ⟨true, status, .ok body⟩ ∧
    truthy (property (lit "valid") (some body)) = true

/-- The headers that a verifier accepts. -/
def PaymentVerifier.Accepts (facilitator : Facilitator) (ctx : PaymentContext) (header : JsString) :
    PaymentVerifier → Prop
  | mock => trim header ≠ []
  | .facilitator url => Settles facilitator ctx url header
  | deny => False

section
variable {facilitator : Facilitator} {ctx : PaymentContext} {header : Option JsString} {url : JsString}

theorem mockVerifier_ok : (MockPaymentVerifier.verify header).ok = true ↔ ∃ text, header = some text ∧ trim text ≠ [] := by
  cases header with
  | none => simp [MockPaymentVerifier.verify, missingHeader]
  | some text => by_cases htext : trim text = [] <;> simp [MockPaymentVerifier.verify, missingHeader, htext]

theorem facilitatorVerifier_ok : (FacilitatorPaymentVerifier.verify url facilitator ctx header).ok = true ↔
    ∃ text, header = some text ∧ Settles facilitator ctx url text := by
  cases header with
  | none => simp [FacilitatorPaymentVerifier.verify, missingHeader]
  | some text =>
    simp only [Option.some.injEq, exists_eq_left', Settles]
    cases text with
    | nil => simp [FacilitatorPaymentVerifier.verify, missingHeader]
    | cons c text =>
      simp only [FacilitatorPaymentVerifier.verify, ne_eq, List.cons_ne_nil, not_false_eq_true, true_and]
      cases hres : facilitator (FacilitatorPaymentVerifier.baseUrl url ++ lit "/verify")
        (FacilitatorPaymentVerifier.requestBody (c :: text) ctx) with
      | error message => simp [FacilitatorPaymentVerifier.unreachable]
      | ok res =>
        obtain ⟨ok, status, json⟩ := res
        cases ok with
        | false => simp
        | true =>
          cases json with
          | error message => simp [FacilitatorPaymentVerifier.unreachable]
          | ok body =>
            have hvalid : (∃ status' body', (Except.ok ⟨true, status, .ok body⟩ : Except JsString FacilitatorResponse) =
                .ok ⟨true, status', .ok body'⟩ ∧ truthy (property (lit "valid") (some body')) = true) ↔
                truthy (property (lit "valid") (some body)) = true := by
              constructor
              · rintro ⟨_, _, ⟨⟩, h⟩
                exact h
              · exact fun h => ⟨_, _, rfl, h⟩
            rw [hvalid]
            cases body with
            | null => simp [FacilitatorPaymentVerifier.unreachable, property, truthy]
            | bool | num | str | arr | obj =>
              simp only [not_true_eq_false, if_false]
              split_ifs with h
              · exact iff_of_true rfl h
              · exact iff_of_false id h

/-- **Which payments are accepted.** -/
theorem PaymentVerifier.verify_ok (v : PaymentVerifier) :
    (v.verify facilitator ctx header).ok = true ↔ ∃ text, header = some text ∧ v.Accepts facilitator ctx text := by
  cases v with
  | mock => exact mockVerifier_ok
  | facilitator url => exact facilitatorVerifier_ok
  | deny => exact iff_of_false Bool.false_ne_true fun ⟨_, _, h⟩ => h

end

/-! ## The gate -/

section
variable {H : Type} {srv : Server} {env : MockEnv H} {req : Request} {w w' : AgentState H} {reply : Reply}

/-- The request carries an accepted payment. -/
def Server.Paid (srv : Server) (req : Request) : Prop :=
  ∃ header, req.header.value = some header ∧ srv.paymentVerifier.Accepts srv.facilitator
    ⟨req.method ++ lit " " ++ req.url, srv.config.priceUsd⟩ header

/-- The problem of an unpaid request. -/
def Server.demand (srv : Server) (req : Request) : Problem :=
  paymentRequired srv.config.priceUsd srv.config.payTo req.url

theorem requirePayment_paid (h : srv.Paid req) : ∃ settlement, srv.requirePayment req = .ok settlement := by
  have hok := (srv.paymentVerifier.verify_ok).2 h
  rw [Server.requirePayment, if_neg (not_not.2 hok)]
  exact ⟨_, rfl⟩

theorem requirePayment_unpaid (h : ¬ srv.Paid req) : srv.requirePayment req = .error (srv.demand req) := by
  have hok := mt (srv.paymentVerifier.verify_ok).1 h
  rw [Server.requirePayment, if_pos hok]
  rfl

/-- Handling an error is no demand for payment. -/
theorem handleError_status (e : Agent.Runtime.RuntimeError) (id : JsNumber) : (handleError e id).status ≠ 402 := by
  unfold handleError
  split_ifs
  · exact (by decide : 404 ≠ 402)
  · exact (by decide : 500 ≠ 402)

/-- What a handler may do: it changes nothing and demands no payment. -/
structure Serves (x : HandlerOp H Reply) : Prop where
  keeps : Op.Keeps (fun w => w) x
  status : ∀ w reply w', x.Returns w reply w' → reply.status ≠ 402

theorem Serves.pure (h : reply.status ≠ 402) : Serves (Pure.pure reply : HandlerOp H Reply) where
  keeps := .pure _
  status _ _ _ hr := by
    obtain ⟨rfl, -⟩ := Op.pure_returns.1 hr
    exact h

theorem Serves.bind {α : Type} {x : HandlerOp H α} {k : α → HandlerOp H Reply} (hx : Op.Keeps (fun w => w) x)
    (hk : ∀ a, Serves (k a)) : Serves (x >>= k) where
  keeps := hx.bind fun a => (hk a).keeps
  status _ _ _ hr := by
    obtain ⟨a, w₁, -, h⟩ := Op.bind_returns.1 hr
    exact (hk a).status _ _ _ h

theorem attestationRoute_serves (rawId : JsString) : Serves (attestationRoute rawId : HandlerOp H Reply) := by
  unfold attestationRoute
  split
  · exact .pure (by decide : 400 ≠ 402)
  · refine .bind (Op.Keeps.attempt (getAttestation_keeps _)) fun attestation => ?_
    cases attestation with
    | error e => exact .pure (handleError_status _ _)
    | ok attestation =>
      refine .bind (Op.Keeps.attempt (getJson_keeps _)) fun payload => ?_
      cases payload with
      | error e => exact .pure (by decide : 502 ≠ 402)
      | ok payload => exact .pure (by decide : 200 ≠ 402)

theorem verifyRoute_serves (env : MockEnv H) (body : Option Value) : Serves (verifyRoute env body) := by
  refine .bind .lift fun id => ?_
  cases id with
  | none => exact .pure (by decide : 400 ≠ 402)
  | some id =>
    refine .bind (Op.Keeps.attempt (Agent.Runtime.onAttestation_keeps id fun n => verify_keeps env n)) fun result => ?_
    cases result with
    | error e => exact .pure (handleError_status _ _)
    | ok result => exact .pure (by decide : 200 ≠ 402)

/-- **The payment hook.** -/
theorem gated_returns (srv : Server) (req : Request) (w : AgentState H) {handler : HandlerOp H Reply}
    (hserves : Serves handler) : ∃ res, (srv.gated req handler).Returns w res w ∧
      (srv.Paid req → res.status ≠ 402) ∧ (¬ srv.Paid req → res = ⟨sendProblem (srv.demand req), none⟩) := by
  by_cases hpaid : srv.Paid req
  · obtain ⟨settlement, hok⟩ := requirePayment_paid hpaid
    cases hrun : handler w with
    | mk result w' =>
      obtain rfl : w' = w := hserves.keeps.run hrun
      cases result with
      | error e =>
        refine ⟨⟨⟨500, .uncaught⟩, settlement⟩, ?_, fun _ => (by decide : 500 ≠ 402), absurd hpaid⟩
        rw [Server.gated, hok]
        exact (Op.attempt_returns.2 hrun).bind Op.returns_pure
      | ok reply =>
        refine ⟨⟨reply, settlement⟩, ?_, fun _ => hserves.status _ _ _ hrun, absurd hpaid⟩
        rw [Server.gated, hok]
        exact (Op.attempt_returns.2 hrun).bind Op.returns_pure
  · refine ⟨_, ?_, fun h => absurd h hpaid, fun _ => rfl⟩
    rw [Server.gated, requirePayment_unpaid hpaid]
    exact Op.returns_pure

/-- **The gate.** -/
theorem respond_gate (srv : Server) (env : MockEnv H) (hgated : req.route ≠ .health) (w : AgentState H) :
    ∃ res, (srv.respond env req).Returns w res w ∧
      (srv.Paid req → res.status ≠ 402) ∧ (¬ srv.Paid req → res = ⟨sendProblem (srv.demand req), none⟩) := by
  unfold Server.respond
  cases hroute : req.route with
  | health => exact absurd hroute hgated
  | attestation rawId => exact gated_returns srv req w (attestationRoute_serves rawId)
  | verify body => exact gated_returns srv req w (verifyRoute_serves env body)

/-- No request changes anything. -/
theorem respond_keeps (srv : Server) (env : MockEnv H) (req : Request) : Op.Keeps (fun w => w) (srv.respond env req) := by
  intro w
  by_cases hroute : req.route = .health
  · rw [Server.respond, hroute]
    rfl
  · obtain ⟨res, hres, -⟩ := respond_gate srv env hroute w
    rw [hres]

end

/-! ## Environments -/

/-- The environment selects the mock verifier. -/
def MockMode (env : Environment) : Prop := env (lit "X402_MOCK") = some (lit "true") ∨
  (loadConfig env).facilitatorUrl = [] ∧ env (lit "NODE_ENV") ≠ some (lit "production")

/-- The header is accepted in the environment: it has some text, if the mock
    verifier is selected, and else a facilitator is configured and accepts it. -/
def Pays (env : Environment) (facilitator : Facilitator) (ctx : PaymentContext) (header : JsString) : Prop :=
  MockMode env ∧ trim header ≠ [] ∨ ¬ MockMode env ∧ (loadConfig env).facilitatorUrl ≠ [] ∧
    Settles facilitator ctx (loadConfig env).facilitatorUrl header

theorem mock_iff (env : Environment) : (loadConfig env).mock = true ↔ MockMode env := by
  simp [loadConfig, MockMode]

/-- **Which requests are paid**, by the environment. -/
theorem createServer_paid (env : Environment) (facilitator : Facilitator) (req : Request) :
    (createServer env facilitator).Paid req ↔ ∃ header, req.header.value = some header ∧
      Pays env facilitator ⟨req.method ++ lit " " ++ req.url, (loadConfig env).priceUsd⟩ header := by
  have haccepts : ∀ ctx header, (createServer env facilitator).paymentVerifier.Accepts facilitator ctx header ↔
      Pays env facilitator ctx header := by
    intro ctx header
    show (createPaymentVerifier (loadConfig env).mock (loadConfig env).facilitatorUrl).Accepts _ _ _ ↔ _
    unfold createPaymentVerifier Pays
    rw [← mock_iff]
    split_ifs with hmock hurl
    · simp [PaymentVerifier.Accepts, hmock]
    · simp [PaymentVerifier.Accepts, hmock, hurl]
    · simp [PaymentVerifier.Accepts, hmock, hurl]
  simp only [Server.Paid]
  exact exists_congr fun header => and_congr_right fun _ => haccepts _ _

/-- A route without the payment hook, or an accepted payment. -/
def Served (env : Environment) (facilitator : Facilitator) (req : Request) : Prop :=
  req.route = .health ∨ ∃ header, req.header.value = some header ∧
    Pays env facilitator ⟨req.method ++ lit " " ++ req.url, (loadConfig env).priceUsd⟩ header

/-- **The gate.**  No request changes anything; what is not served is answered
    with the demand for payment, whatever is on record. -/
theorem served_or_demanded {H : Type} (env : Environment) (facilitator : Facilitator) (sdkEnv : MockEnv H)
    (req : Request) (w : AgentState H) :
    ∃ res, ((createServer env facilitator).respond sdkEnv req).Returns w res w ∧
      (Served env facilitator req → res.status ≠ 402) ∧
      (¬ Served env facilitator req → res =
        ⟨sendProblem (paymentRequired (loadConfig env).priceUsd (loadConfig env).payTo req.url), none⟩) := by
  by_cases hroute : req.route = .health
  · refine ⟨⟨⟨200, .health (lit "mock")⟩, none⟩, ?_, fun _ => (by decide : 200 ≠ 402), absurd (.inl hroute)⟩
    rw [Server.respond, hroute]
    exact Op.returns_pure
  · obtain ⟨res, hres, hpaid, hunpaid⟩ := respond_gate (createServer env facilitator) sdkEnv hroute w
    have hserved : Served env facilitator req ↔ (createServer env facilitator).Paid req := by
      rw [createServer_paid, Served, or_iff_right hroute]
    rw [hserved]
    exact ⟨res, hres, hpaid, hunpaid⟩

/-- **Fail closed.** -/
theorem production_unpaid {env : Environment} (hmock : env (lit "X402_MOCK") ≠ some (lit "true"))
    (hproduction : env (lit "NODE_ENV") = some (lit "production")) (hurl : (loadConfig env).facilitatorUrl = [])
    (facilitator : Facilitator) (req : Request) : ¬ (createServer env facilitator).Paid req := by
  have hmode : ¬ MockMode env := by
    rintro (h | ⟨-, h⟩)
    · exact hmock h
    · exact h hproduction
  rw [createServer_paid]
  rintro ⟨header, -, ⟨h, -⟩ | ⟨-, h, -⟩⟩
  · exact hmode h
  · exact h hurl

end CasperProof.X402
