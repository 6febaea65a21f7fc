/-
  The read loop of the REST backend — `get` of `rest-backend.ts`.

  An error thrown on purpose inside the `try` block goes through the `catch`
  block that implements the retries.  `round_eq` says what a round makes of
  each kind of outcome; `get_retryContract` is the contract of the loop.

  * `Outcome.settled`: the result of `get`, if this outcome is final;
  * `Outcome.lastError`: the error of `get`, if this outcome is retried until
    the budget is spent.
-/
import CasperProof.Lib.Attempts
import CasperProof.Sdk.Problem

namespace CasperProof.Sdk.RestBackend

open Js
open Attempts (Exit loop GoesOn)

/-! ## The source -/

/-- What a promise is rejected with. -/
inductive Thrown where
  | sdk (e : CasperProofSdkError)
  /-- another `Error` -/
  | error (message : JsString)
  /-- no `Error`; `text` is what `String` makes of it -/
  | value (text : JsString)

/-- A response, with what its `json()` and `text()` lead to. -/
structure FetchResponse where
  ok : Bool
  status : ℕ
  json : Except Thrown Value
  text : Except Thrown JsString

/-- What a call of `fetch` leads to. -/
abbrev Outcome := Except Thrown FetchResponse

/-- `RETRYABLE_STATUSES`. -/
def retryableStatuses : List ℕ := [429, 502, 503, 504]

def isTyped : Thrown → Bool
  | .sdk _ => true
  | .error _ | .value _ => false

def describe : Thrown → JsString
  | .sdk e => e.message
  | .error message => message
  | .value text => text

def safeJson (res : FetchResponse) : Value :=
  match res.json with
  | .ok body => body
  | .error _ =>
    match res.text with
    | .ok text => .obj [(lit "detail", .str text)]
    | .error _ => .obj []

/-- How a statement leaves the body of the loop. -/
inductive Completion where
  | returns (body : Value)
  | throws (err : Thrown)
  | continues (lastError : Thrown)

/-- The `try` block; what it throws goes to `catchBlock`. -/
def tryBlock (retries attempt : ℕ) : Outcome → Except Thrown Completion
  | .error err => .error err
  | .ok res =>
    if res.ok then
      match res.json with
      | .ok body => .ok (.returns body)
      | .error err => .error err
    else
      let body := safeJson res
      if res.status ∈ retryableStatuses ∧ attempt < retries then
        .ok (.continues (.sdk (errorFromProblem res.status body)))
      else .error (.sdk (errorFromProblem res.status body))

def failedMessage (path : JsString) (attempts : ℕ) (err : Thrown) : JsString :=
  lit "CSPR.cloud request to " ++ path ++ lit " failed after " ++ decimal attempts ++ lit " attempt(s): " ++
    describe err

def catchBlock (path : JsString) (retries attempt : ℕ) (err : Thrown) : Completion :=
  if isTyped err then .throws err
  else if attempt < retries then .continues err
  else .throws (.sdk (internalError (failedMessage path (attempt + 1) err)))

/-- The variables of the loop: the number of calls of `fetch` so far, and
    `lastError`. -/
structure LoopState where
  fetches : ℕ
  lastError : Option Thrown

/-- The number of calls of `fetch`, and what `get` returns or throws. -/
structure GetResult where
  fetches : ℕ
  result : Except Thrown Value

/-- The body of the loop.  The `n`-th call of `fetch` leads to `fetch n`. -/
def round (path : JsString) (retries : ℕ) (fetch : ℕ → Outcome) (attempt : ℕ) (s : LoopState) :
    Exit LoopState GetResult :=
  let completion := match tryBlock retries attempt (fetch s.fetches) with
    | .ok completion => completion
    | .error err => catchBlock path retries attempt err
  match completion with
  | .returns body => .done ⟨s.fetches + 1, .ok body⟩
  | .throws err => .done ⟨s.fetches + 1, .error err⟩
  | .continues err => .next ⟨s.fetches + 1, some err⟩

/-- `for (let attempt = 0; attempt <= retries; attempt++)`. -/
def readLoop (path : JsString) (retries : ℕ) (fetch : ℕ → Outcome) : Exit LoopState GetResult :=
  loop (round path retries fetch) (retries + 1) 0 ⟨0, none⟩

/-- The code after the loop. -/
def afterLoop (path : JsString) (s : LoopState) : GetResult :=
  match s.lastError with
  | some (.sdk e) => ⟨s.fetches, .error (.sdk e)⟩
  | _ => ⟨s.fetches, .error (.sdk (internalError (lit "CSPR.cloud request to " ++ path ++ lit " exhausted retries.")))⟩

def get (path : JsString) (retries : ℕ) (fetch : ℕ → Outcome) : GetResult :=
  match readLoop path retries fetch with
  | .done r => r
  | .next s => afterLoop path s

/-! ## Kinds of outcomes -/

/-- What an outcome tells the caller. -/
inductive Kind where
  /-- a parsed body -/
  | body (v : Value)
  /-- a status that is not retried -/
  | problem (e : CasperProofSdkError)
  /-- a typed error -/
  | typed (e : CasperProofSdkError)
  /-- a status that is retried -/
  | busy (e : CasperProofSdkError)
  /-- a network, abort or parse error -/
  | failed (err : Thrown)

/-- A rejected promise. -/
def Thrown.kind : Thrown → Kind
  | .sdk e => .typed e
  | .error message => .failed (.error message)
  | .value text => .failed (.value text)

def Outcome.kind : Outcome → Kind
  | .error err => err.kind
  | .ok ⟨true, _, .ok body, _⟩ => .body body
  | .ok ⟨true, _, .error err, _⟩ => err.kind
  | .ok res =>
    if res.status ∈ retryableStatuses then .busy (errorFromProblem res.status (safeJson res))
    else .problem (errorFromProblem res.status (safeJson res))

/-- The result of a final outcome. -/
def Kind.settled : Kind → Option (Except Thrown Value)
  | body v => some (.ok v)
  | problem e | typed e => some (.error (.sdk e))
  | busy _ | failed _ => none

/-- The error that a round goes on with. -/
def Kind.retried : Kind → Option Thrown
  | busy e => some (.sdk e)
  | failed err => some err
  | body _ | problem _ | typed _ => none

/-! ## Rounds -/

variable {path : JsString} {retries : ℕ} {fetch : ℕ → Outcome} {attempt : ℕ} {s : LoopState}

/-- How a round ends, by the kind of its outcome. -/
def Kind.exit (path : JsString) (retries attempt fetches : ℕ) : Kind → Exit LoopState GetResult
  | body v => .done ⟨fetches, .ok v⟩
  | problem e | typed e => .done ⟨fetches, .error (.sdk e)⟩
  | busy e => if attempt < retries then .next ⟨fetches, some (.sdk e)⟩ else .done ⟨fetches, .error (.sdk e)⟩
  | failed err =>
    if attempt < retries then .next ⟨fetches, some err⟩
    else .done ⟨fetches, .error (.sdk (internalError (failedMessage path (attempt + 1) err)))⟩

/-- What a completion does to the loop. -/
def Completion.exit (fetches : ℕ) : Completion → Exit LoopState GetResult
  | returns body => .done ⟨fetches, .ok body⟩
  | throws err => .done ⟨fetches, .error err⟩
  | continues err => .next ⟨fetches, some err⟩

theorem exit_catchBlock (path : JsString) (retries attempt fetches : ℕ) (err : Thrown) :
    (catchBlock path retries attempt err).exit fetches = err.kind.exit path retries attempt fetches := by
  cases err with
  | sdk e => rfl
  | error message | value text =>
    by_cases hlt : attempt < retries <;> simp [catchBlock, isTyped, Thrown.kind, Completion.exit, Kind.exit, hlt]

/-- What a round makes of each kind of outcome. -/
theorem round_eq (path : JsString) (retries : ℕ) (fetch : ℕ → Outcome) (attempt : ℕ) (s : LoopState) :
    round path retries fetch attempt s = (fetch s.fetches).kind.exit path retries attempt (s.fetches + 1) := by
  have hround : round path retries fetch attempt s = (match tryBlock retries attempt (fetch s.fetches) with
      | .ok completion => completion
      | .error err => catchBlock path retries attempt err).exit (s.fetches + 1) := rfl
  rw [hround]
  rcases fetch s.fetches with err | ⟨ok, status, json, text⟩
  · exact exit_catchBlock path retries attempt _ err
  cases ok with
  | true =>
    cases json with
    | ok body => rfl
    | error err => exact exit_catchBlock path retries attempt _ err
  | false =>
    -- A problem error thrown in the `try` block is typed: it is thrown again.
    by_cases hretry : status ∈ retryableStatuses
    · by_cases hlt : attempt < retries <;>
        simp [tryBlock, Outcome.kind, catchBlock, isTyped, Completion.exit, Kind.exit, hretry, hlt]
    · simp [tryBlock, Outcome.kind, catchBlock, isTyped, Completion.exit, Kind.exit, hretry]

/-! ## The loop -/

/-- The state of the loop before each round, as long as it goes on. -/
def stateAt (fetch : ℕ → Outcome) : ℕ → LoopState
  | 0 => ⟨0, none⟩
  | n + 1 => ⟨n + 1, (fetch n).kind.retried⟩

theorem stateAt_fetches (fetch : ℕ → Outcome) (n : ℕ) : (stateAt fetch n).fetches = n := by
  cases n <;> rfl

/-- A retried outcome, with budget left. -/
theorem round_goesOn (h : (fetch attempt).kind.settled = none) (hlt : attempt < retries) :
    round path retries fetch attempt (stateAt fetch attempt) = .next (stateAt fetch (attempt + 1)) := by
  rw [round_eq, stateAt_fetches, stateAt]
  cases hkind : (fetch attempt).kind with
  | body | problem | typed => rw [hkind] at h; cases h
  | busy | failed => simp only [Kind.exit, Kind.retried, if_pos hlt]

/-- A final outcome. -/
theorem round_settled {result : Except Thrown Value} (h : (fetch attempt).kind.settled = some result) :
    round path retries fetch attempt (stateAt fetch attempt) = .done ⟨attempt + 1, result⟩ := by
  rw [round_eq, stateAt_fetches]
  cases hkind : (fetch attempt).kind with
  | body | problem | typed =>
    rw [hkind] at h
    obtain rfl := Option.some.inj h
    rfl
  | busy | failed => rw [hkind] at h; cases h

/-- Without budget left no outcome is retried. -/
theorem exit_spent (path : JsString) (retries fetches : ℕ) (kind : Kind) :
    ∃ r, kind.exit path retries retries fetches = .done r := by
  cases kind with
  | body v => exact ⟨_, rfl⟩
  | problem e | typed e => exact ⟨_, rfl⟩
  | busy e | failed e => exact ⟨_, if_neg (Nat.lt_irrefl _)⟩

/-- Up to its budget the loop goes on while nothing is final. -/
theorem goesOn {k : ℕ} (hk : k ≤ retries) (h : ∀ j < k, (fetch j).kind.settled = none) :
    GoesOn (round path retries fetch) (stateAt fetch) k := by
  intro n hn
  exact round_goesOn (h n hn) (hn.trans_le hk)

/-- The loop is left at the first final outcome. -/
theorem readLoop_settled {k : ℕ} (hk : k ≤ retries) (h : ∀ j < k, (fetch j).kind.settled = none)
    {result : Except Thrown Value} (hresult : (fetch k).kind.settled = some result) :
    readLoop path retries fetch = .done ⟨k + 1, result⟩ :=
  Attempts.loop_done (goesOn hk h) (round_settled hresult) (Nat.lt_succ_of_le hk)

/-- Without a final outcome it ends as its last round does. -/
theorem readLoop_spent (h : ∀ j ≤ retries, (fetch j).kind.settled = none) :
    readLoop path retries fetch = (fetch retries).kind.exit path retries retries (retries + 1) := by
  have hround := round_eq path retries fetch retries (stateAt fetch retries)
  rw [stateAt_fetches] at hround
  obtain ⟨r, hr⟩ := exit_spent path retries (retries + 1) (fetch retries).kind
  rw [hr] at hround ⊢
  exact Attempts.loop_done (goesOn le_rfl fun j hj => h j hj.le) hround (Nat.lt_succ_self retries)

/-- There is a first final outcome within the budget, or none. -/
theorem firstFinal (retries : ℕ) (fetch : ℕ → Outcome) :
    (∃ k ≤ retries, (∀ j < k, (fetch j).kind.settled = none) ∧ ∃ result, (fetch k).kind.settled = some result) ∨
      ∀ j ≤ retries, (fetch j).kind.settled = none := by
  by_cases hall : ∀ j ≤ retries, (fetch j).kind.settled = none
  · exact .inr hall
  left
  push Not at hall
  have hex : ∃ k, k ≤ retries ∧ (fetch k).kind.settled ≠ none := hall
  classical
  obtain ⟨hle, hne⟩ := Nat.find_spec hex
  refine ⟨Nat.find hex, hle, ?_, Option.ne_none_iff_exists'.1 hne⟩
  intro j hj
  by_contra hj'
  exact Nat.find_min hex hj ⟨hj.le.trans hle, hj'⟩

/-- What the retry loop is for, with the budget `retries`. -/
structure RetryContract (path : JsString) (retries : ℕ) (fetch : ℕ → Outcome) : Prop where
  /-- the first final outcome `k`, within the budget: its result after `k + 1` calls -/
  settles : ∀ k ≤ retries, (∀ j < k, (fetch j).kind.settled = none) →
    ∀ result, (fetch k).kind.settled = some result → get path retries fetch = ⟨k + 1, result⟩
  /-- no final outcome within the budget: `retries + 1` calls, and the problem error of the last one, -/
  busy : (∀ j ≤ retries, (fetch j).kind.settled = none) → ∀ e, (fetch retries).kind = .busy e →
    get path retries fetch = ⟨retries + 1, .error (.sdk e)⟩
  /-- or `INTERNAL_ERROR` -/
  failed : (∀ j ≤ retries, (fetch j).kind.settled = none) → ∀ err, (fetch retries).kind = .failed err →
    get path retries fetch =
      ⟨retries + 1, .error (.sdk (internalError (failedMessage path (retries + 1) err)))⟩
  /-- the code after the loop is not reached -/
  leaves : ∀ s, readLoop path retries fetch ≠ .next s

/-- **The read loop meets its retry contract.** -/
theorem get_retryContract (path : JsString) (retries : ℕ) (fetch : ℕ → Outcome) :
    RetryContract path retries fetch := by
  refine ⟨?_, ?_, ?_, ?_⟩
  · intro k hk hbefore result hresult
    rw [get, readLoop_settled hk hbefore hresult]
  · intro hall e hkind
    rw [get, readLoop_spent hall, hkind, Kind.exit, if_neg (Nat.lt_irrefl _)]
  · intro hall err hkind
    rw [get, readLoop_spent hall, hkind, Kind.exit, if_neg (Nat.lt_irrefl _)]
  · intro s hs
    rcases firstFinal retries fetch with ⟨k, hk, hbefore, result, hresult⟩ | hall
    · rw [readLoop_settled hk hbefore hresult] at hs
      cases hs
    · obtain ⟨r, hr⟩ := exit_spent path retries (retries + 1) (fetch retries).kind
      rw [readLoop_spent hall, hr] at hs
      cases hs

end CasperProof.Sdk.RestBackend
