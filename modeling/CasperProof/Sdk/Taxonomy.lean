/-
  The SDK's errors against those of the contracts — the constructors of
  `errors.ts`, and the decoding of `CasperProofError`s.

  * `Decodes`: what `errorFromProblem` makes of the problem of an error.
  * `errorFromProblem_injective`: no two errors are taken for one another,
    except internal ones, whose detail is not served.
  * `mock_error_decodes`: the mock backend throws the error to which the
    problem of the contracts' error is decoded.
-/
import CasperProof.Contracts.Problem
import CasperProof.Lib.Js.ToString
import CasperProof.Sdk.Problem
import CasperProof.Sdk.Types

namespace CasperProof.Sdk

open Js Rfc7807
open Json (keys lookup)

/-! ## The source -/

/-- `new CasperProofSdkError(code, message, detail)`. -/
def newError (code : ErrorCode) (message : JsString) (detail : List (JsString × Value)) : CasperProofSdkError :=
  ⟨code, message, some detail, code.statusForCode⟩

def attestationNotFound (id : JsNumber) : CasperProofSdkError :=
  newError .attestationNotFound (lit "No attestation exists with id " ++ numberText id ++ lit ".")
    [(lit "attestation_id", .num id)]

def policyNotFound (id : JsNumber) : CasperProofSdkError :=
  newError .policyNotFound (lit "No insurance policy exists with id " ++ numberText id ++ lit ".")
    [(lit "policy_id", .num id)]

def insufficientStake (required provided : JsString) : CasperProofSdkError :=
  newError .insufficientStake
    (lit "Attached stake " ++ provided ++ lit " is below the required minimum " ++ required ++ lit ".")
    [(lit "required_stake", .str required), (lit "provided_stake", .str provided)]

def tamperedPayload (id : JsNumber) (onchainHash recomputedHash : JsString) : CasperProofSdkError :=
  newError .tamperedPayload (lit "The recomputed output hash does not match the on-chain commitment.")
    [(lit "attestation_id", .num id), (lit "onchain_hash", .str onchainHash),
      (lit "recomputed_hash", .str recomputedHash), (lit "valid", .bool false)]

def alreadyChallenged (id : JsNumber) : CasperProofSdkError :=
  newError .alreadyChallenged (lit "Attestation " ++ numberText id ++ lit " is already under challenge.")
    [(lit "attestation_id", .num id)]

def attestationNotActive (id : JsNumber) (status : JsString) : CasperProofSdkError :=
  newError .attestationNotActive
    (lit "Attestation " ++ numberText id ++ lit " is in state `" ++ status ++ lit "` and cannot be acted upon.")
    [(lit "attestation_id", .num id), (lit "attestation_status", .str status)]

def policyExpired (id : JsNumber) : CasperProofSdkError :=
  newError .policyExpired (lit "Policy " ++ numberText id ++ lit " has expired and cannot be claimed against.")
    [(lit "policy_id", .num id)]

def triggerNotCovered (policyId : JsNumber) (trigger : JsString) : CasperProofSdkError :=
  newError .triggerNotCovered
    (lit "Trigger `" ++ trigger ++ lit "` is not covered by policy " ++ numberText policyId ++ lit ".")
    [(lit "policy_id", .num policyId), (lit "trigger", .str trigger)]

def vaultInsolvent (required available : JsString) : CasperProofSdkError :=
  newError .vaultInsolvent
    (lit "Vault cannot cover payout of " ++ required ++ lit "; only " ++ available ++ lit " is available.")
    [(lit "required", .str required), (lit "available", .str available)]

/-- The errors of the mock backend that are `CasperProofSdkError`s. -/
def SdkError.typed : SdkError → Option CasperProofSdkError
  | .attestationNotFound id => some (Sdk.attestationNotFound (number id))
  | .policyNotFound id => some (Sdk.policyNotFound (number id))
  | .insufficientStake required provided => some (Sdk.insufficientStake required provided)
  | .alreadyChallenged id => some (Sdk.alreadyChallenged (number id))
  | .attestationNotActive id status => some (Sdk.attestationNotActive (number id) status)
  | .policyExpired id => some (Sdk.policyExpired (number id))
  | .triggerNotCovered policyId trigger => some (Sdk.triggerNotCovered (number policyId) trigger)
  | .commitment _ | .notBigInt _ | .handler => none

/-- `SLUG_BY_CODE`. -/
def ErrorCode.slug : ErrorCode → JsString
  | attestationNotFound => lit "attestation-not-found"
  | insufficientStake => lit "insufficient-stake"
  | disputeWindowClosed => lit "dispute-window-closed"
  | alreadyChallenged => lit "already-challenged"
  | unauthorized => lit "unauthorized"
  | attestationNotActive => lit "attestation-not-active"
  | tamperedPayload => lit "tampered-payload"
  | payloadUnavailable => lit "payload-unavailable"
  | policyNotFound => lit "policy-not-found"
  | policyExpired => lit "policy-expired"
  | triggerNotCovered => lit "trigger-not-covered"
  | vaultInsolvent => lit "vault-insolvent"
  | paymentRequired => lit "payment-required"
  | internalError => lit "internal-error"

def typeUriForCode (code : ErrorCode) : JsString := lit "https://casperproof.com/problems/" ++ code.slug

/-! ## Decoding -/

/-- The code of a contract error. -/
def codeOf : CasperProofError → ErrorCode
  | .attestationNotFound _ => .attestationNotFound
  | .insufficientStake _ _ => .insufficientStake
  | .disputeWindowClosed _ => .disputeWindowClosed
  | .alreadyChallenged _ => .alreadyChallenged
  | .unauthorized _ => .unauthorized
  | .attestationNotActive _ _ => .attestationNotActive
  | .tamperedPayload _ _ _ => .tamperedPayload
  | .payloadUnavailable _ => .payloadUnavailable
  | .policyNotFound _ => .policyNotFound
  | .policyExpired _ => .policyExpired
  | .triggerNotCovered _ _ => .triggerNotCovered
  | .vaultInsolvent _ _ => .vaultInsolvent
  | .paymentRequired _ _ => .paymentRequired
  | .internal _ => .internalError

/-- The two tables of codes, statuses and type URIs are the same. -/
theorem codeOf_agrees (e : CasperProofError) : (codeOf e).text = e.code ∧ (codeOf e).statusForCode = e.status ∧
    typeUriForCode (codeOf e) = e.intoProblem.type_ := by
  cases e <;> exact ⟨rfl, rfl, rfl⟩

/-- The extension members as they are read. -/
def extensionMembers (e : CasperProofError) : List (JsString × Value) := e.extensions.map fun m => (m.1, m.2.value)

/-- What the decoded error says. -/
structure Decodes (e : CasperProofError) (x : CasperProofSdkError) : Prop where
  code : x.code = codeOf e
  status : x.status = e.status
  message : x.message = e.detail.getD e.title
  detail : (x.detail.getD []).Perm (extensionMembers e)
  nonempty : x.detail ≠ some []

section
variable {e e' : CasperProofError} {body body' : Value} {x x' : CasperProofSdkError}

/-- The names of the extension members. -/
def extensionNames : ErrorCode → List JsString
  | .attestationNotFound | .disputeWindowClosed | .alreadyChallenged => [lit "attestation_id"]
  | .insufficientStake => [lit "required_stake", lit "provided_stake"]
  | .unauthorized => [lit "action"]
  | .attestationNotActive => [lit "attestation_id", lit "attestation_status"]
  | .tamperedPayload => [lit "attestation_id", lit "onchain_hash", lit "recomputed_hash", lit "valid"]
  | .payloadUnavailable => [lit "uri"]
  | .policyNotFound | .policyExpired => [lit "policy_id"]
  | .triggerNotCovered => [lit "policy_id", lit "trigger"]
  | .vaultInsolvent => [lit "required", lit "available"]
  | .paymentRequired => [lit "price_usd", lit "pay_to"]
  | .internalError => []

/-- The names of all members. -/
def memberNames (code : ErrorCode) : List JsString :=
  [lit "type", lit "title", lit "status"] ++ (if code = .internalError then [] else [lit "detail"]) ++ [lit "code"] ++
    extensionNames code

theorem names_distinct (code : ErrorCode) : (memberNames code).Nodup ∧
    ∀ k ∈ extensionNames code, k ∉ standardMembers ∧ k ≠ protoKey := by
  have hall : ∀ code ∈ ErrorCode.errorCodes, (memberNames code).Nodup ∧
      ∀ k ∈ extensionNames code, k ∉ standardMembers ∧ k ≠ protoKey := by decide +kernel
  exact hall code code.mem_errorCodes

theorem members_keys (e : CasperProofError) : (keys e.intoProblem.members).Nodup := by
  have hkeys : keys e.intoProblem.members = memberNames (codeOf e) := by cases e <;> rfl
  exact hkeys ▸ (names_distinct (codeOf e)).1

theorem keys_extensionMembers (e : CasperProofError) : keys (extensionMembers e) = extensionNames (codeOf e) := by
  cases e <;> rfl

theorem extension_keys (e : CasperProofError) : (keys (extensionMembers e)).Nodup ∧
    ∀ k ∈ keys (extensionMembers e), k ∉ standardMembers ∧ k ≠ protoKey := by
  obtain ⟨hnodup, hnot⟩ := names_distinct (codeOf e)
  rw [keys_extensionMembers]
  exact ⟨(List.nodup_append.1 hnodup).2.1, hnot⟩

/-- What is not a standard member is an extension. -/
theorem filter_members (e : CasperProofError) :
    (e.intoProblem.members.filter fun m => m.1 ∉ standardMembers) = extensionMembers e := by
  have hext : (extensionMembers e).filter (fun m => m.1 ∉ standardMembers) = extensionMembers e := by
    rw [List.filter_eq_self]
    intro m hm
    exact decide_eq_true ((extension_keys e).2 m.1 (List.mem_map_of_mem hm)).1
  have hdetail : ((e.detail.map fun detail => (lit "detail", (.str detail : Value))).toList.filter
      fun m => m.1 ∉ standardMembers) = [] := by
    cases e.detail <;> rfl
  rw [Problem.members, List.filter_append, List.filter_append, List.filter_append]
  show _ ++ (e.detail.map fun detail => (lit "detail", (.str detail : Value))).toList.filter _ ++ _ ++
    (extensionMembers e).filter _ = _
  rw [hdetail, hext]
  rfl

/-- A detail is left out if it is empty. -/
theorem nonempty_or_none {A : Type} (l : List A) : (if 0 < l.length then some l else none).getD [] = l ∧
    (if 0 < l.length then some l else none) ≠ some [] := by
  cases l <;> simp

/-- **What is decoded.** -/
theorem errorFromProblem_decodes (h : e.intoProblem.Body body) : Decodes e (errorFromProblem e.status body) := by
  obtain ⟨ms, rfl, hperm⟩ := h
  have hlookup := fun k => Json.lookup_perm hperm (members_keys e) k
  have hmem : ∀ {k v}, (k, v) ∈ e.intoProblem.members → lookup k ms = some v := by
    intro k v hm
    rw [hlookup, Json.lookup_eq_some (members_keys e)]
    exact hm
  have hcode : isErrorCode (lookup (lit "code") ms) = some (codeOf e) := by
    rw [hmem (v := .str e.code) (by simp [Problem.members, CasperProofError.intoProblem]), ← (codeOf_agrees e).1,
      isErrorCode_text]
  have htitle : stringMember ms (lit "title") = some e.title := by
    rw [stringMember, hmem (v := .str e.title) (by simp [Problem.members, CasperProofError.intoProblem])]
  have hdetail : stringMember ms (lit "detail") = e.detail := by
    cases hd : e.detail with
    | some detail =>
      rw [stringMember, hmem (v := .str detail) (by simp [Problem.members, CasperProofError.intoProblem, hd])]
    | none =>
      have hinternal : ∃ detail, e = .internal detail := by
        cases e <;> cases hd
        exact ⟨_, rfl⟩
      obtain ⟨detail, rfl⟩ := hinternal
      rw [stringMember, hlookup]
      rfl
  have hfilter : (ms.filter fun m => m.1 ∉ standardMembers).Perm (extensionMembers e) :=
    filter_members e ▸ hperm.filter _
  have hkeys := (hfilter.map Prod.fst).nodup_iff.2 (extension_keys e).1
  have hassigned : (assignAll (ms.filter fun m => m.1 ∉ standardMembers)).Perm (extensionMembers e) :=
    (assignAll_perm hkeys fun hmem => ((extension_keys e).2 _ ((hfilter.map Prod.fst).mem_iff.1 hmem)).2 rfl).trans
      hfilter
  refine ⟨?_, rfl, ?_, ?_, ?_⟩
  · show (isErrorCode (lookup (lit "code") ms)).getD _ = codeOf e
    rw [hcode]
    rfl
  · show ((stringMember ms (lit "detail")).or (stringMember ms (lit "title"))).getD _ = _
    rw [hdetail, htitle]
    cases e.detail <;> rfl
  · show ((if 0 < _ then some _ else none).getD []).Perm _
    rwa [(nonempty_or_none _).1]
  · exact (nonempty_or_none _).2

end

/-! ## Errors that are taken for one another -/

/-- The same error, up to the order of its detail. -/
structure SameError (x x' : CasperProofSdkError) : Prop where
  code : x.code = x'.code
  status : x.status = x'.status
  message : x.message = x'.message
  detail : Option.Rel List.Perm x.detail x'.detail

/-- The ids are safe integers. -/
def Safe (e : CasperProofError) : Prop := ∀ m ∈ e.extensions, ∀ n, m.2 = .number n → n.val ≤ maxSafeInteger

/-- The error with the given code and values of extension members. -/
def ofExtensions : ErrorCode → List Extension → Option CasperProofError
  | .attestationNotFound, [.number id] => some (.attestationNotFound id)
  | .insufficientStake, [.text required, .text provided] => some (.insufficientStake required provided)
  | .disputeWindowClosed, [.number id] => some (.disputeWindowClosed id)
  | .alreadyChallenged, [.number id] => some (.alreadyChallenged id)
  | .unauthorized, [.text action] => some (.unauthorized action)
  | .attestationNotActive, [.number id, .text status] => some (.attestationNotActive id status)
  | .tamperedPayload, [.number id, .text onchainHash, .text recomputedHash, .flag _] =>
    some (.tamperedPayload id onchainHash recomputedHash)
  | .payloadUnavailable, [.text uri] => some (.payloadUnavailable uri)
  | .policyNotFound, [.number id] => some (.policyNotFound id)
  | .policyExpired, [.number id] => some (.policyExpired id)
  | .triggerNotCovered, [.number policyId, .text trigger] => some (.triggerNotCovered policyId trigger)
  | .vaultInsolvent, [.text required, .text available] => some (.vaultInsolvent required available)
  | .paymentRequired, [.text priceUsd, .text payTo] => some (.paymentRequired priceUsd payTo)
  | _, _ => none

theorem ofExtensions_eq (e : CasperProofError) :
    ofExtensions (codeOf e) (e.extensions.map Prod.snd) = some e ∨ ∃ detail, e = .internal detail := by
  cases e with
  | internal detail => exact .inr ⟨detail, rfl⟩
  | _ => exact .inl rfl

section
variable {e e' : CasperProofError} {body body' : Value} {x x' : CasperProofSdkError}

/-- The value of a member, if an id is a safe integer. -/
theorem value_inj {v v' : Extension} (hv : ∀ n, v = .number n → n.val ≤ maxSafeInteger)
    (hv' : ∀ n, v' = .number n → n.val ≤ maxSafeInteger) (h : v.value = v'.value) : v = v' := by
  have hreal : ∀ {n : U64}, n.val ≤ maxSafeInteger → ofDecimal false n.val = .real n.val := by
    intro n hn
    rw [ofDecimal, toDouble_nat hn]
    rfl
  cases v with
  | number n =>
    cases v' with
    | number n' =>
      rw [Extension.value, Extension.value, hreal (hv n rfl), hreal (hv' n' rfl)] at h
      have hn : (n.val : ℚ) = n'.val := by simpa using h
      rw [Fin.ext (by exact_mod_cast hn : n.val = n'.val)]
    | text s => cases h
    | flag b => cases h
  | text s =>
    cases v' with
    | text s' => rw [lit_inj.1 (Json.str.inj h)]
    | number n => cases h
    | flag b => cases h
  | flag b =>
    cases v' with
    | flag b' => rw [Json.bool.inj h]
    | number n => cases h
    | text s => cases h

/-- Members are determined by their values. -/
theorem extensions_inj {ms ns : List (JsString × Extension)}
    (hm : ∀ m ∈ ms, ∀ n, m.2 = .number n → n.val ≤ maxSafeInteger)
    (hn : ∀ m ∈ ns, ∀ n, m.2 = .number n → n.val ≤ maxSafeInteger)
    (h : (ms.map fun m => (m.1, m.2.value)) = ns.map fun m => (m.1, m.2.value)) : ms = ns := by
  induction ms generalizing ns with
  | nil => exact (List.map_eq_nil_iff.1 h.symm).symm
  | cons m ms ih =>
    cases ns with
    | nil => cases h
    | cons n ns =>
      obtain ⟨hhead, htail⟩ := List.cons.inj h
      obtain ⟨hname, hvalue⟩ := Prod.mk.inj hhead
      rw [List.forall_mem_cons] at hm hn
      rw [ih hm.2 hn.2 htail, Prod.ext hname (value_inj hm.1 hn.1 hvalue)]

/-- Members with the same names in the same order. -/
theorem eq_of_perm {A : Type} {ms ns : List (JsString × A)} (hkeys : keys ms = keys ns) (hnodup : (keys ns).Nodup)
    (h : ms.Perm ns) : ms = ns := by
  induction ms generalizing ns with
  | nil => exact (List.perm_nil.1 h.symm).symm
  | cons m ms ih =>
    cases ns with
    | nil => cases hkeys
    | cons n ns =>
      obtain ⟨hname, hrest⟩ := List.cons.inj hkeys
      have hnot := (List.nodup_cons.1 hnodup).1
      have hmn : m = n := by
        rcases List.mem_cons.1 (h.subset (List.mem_cons_self ..)) with heq | hmem
        · exact heq
        · exact absurd (List.mem_map.2 ⟨m, hmem, hname⟩) hnot
      subst hmn
      rw [ih hrest (List.nodup_cons.1 hnodup).2 h.cons_inv]

theorem getD_perm {A : Type} {o o' : Option (List A)} (h : Option.Rel List.Perm o o') : (o.getD []).Perm (o'.getD []) := by
  cases h with
  | some hperm => exact hperm
  | none => rfl

/-- Two bodies of one problem are decoded to the same error. -/
theorem Decodes.same (h : Decodes e x) (h' : Decodes e x') : SameError x x' where
  code := h.code.trans h'.code.symm
  status := h.status.trans h'.status.symm
  message := h.message.trans h'.message.symm
  detail := by
    have hperm := h.detail.trans h'.detail.symm
    have hne := h.nonempty
    have hne' := h'.nonempty
    cases hx : x.detail with
    | some ds =>
      cases hx' : x'.detail with
      | some ds' => exact .some (by rwa [hx, hx'] at hperm)
      | none =>
        rw [hx, hx'] at hperm
        obtain rfl : ds = [] := hperm.eq_nil
        exact absurd hx hne
    | none =>
      cases hx' : x'.detail with
      | some ds' =>
        rw [hx, hx'] at hperm
        obtain rfl : ds' = [] := hperm.nil_eq.symm
        exact absurd hx' hne'
      | none => exact .none

/-- **No two errors are confused.** -/
theorem errorFromProblem_injective (hs : Safe e) (hs' : Safe e') (h : e.intoProblem.Body body)
    (h' : e'.intoProblem.Body body')
    (hsame : SameError (errorFromProblem e.status body) (errorFromProblem e'.status body')) :
    e = e' ∨ ∃ detail detail', e = .internal detail ∧ e' = .internal detail' := by
  have hd := errorFromProblem_decodes h
  have hd' := errorFromProblem_decodes h'
  have hcode : codeOf e = codeOf e' := hd.code.symm.trans (hsame.code.trans hd'.code)
  have hdetail : (extensionMembers e).Perm (extensionMembers e') := by
    exact hd.detail.symm.trans ((getD_perm hsame.detail).trans hd'.detail)
  have hmembers : extensionMembers e = extensionMembers e' :=
    eq_of_perm (by rw [keys_extensionMembers, keys_extensionMembers, hcode]) (extension_keys e').1 hdetail
  have hextensions := extensions_inj hs hs' hmembers
  rcases ofExtensions_eq e with heq | ⟨detail, rfl⟩
  · rcases ofExtensions_eq e' with heq' | ⟨detail', rfl⟩
    · rw [hcode, hextensions, heq'] at heq
      exact .inl (Option.some.inj heq).symm
    · rw [hcode, hextensions] at heq
      cases heq
  · rcases ofExtensions_eq e' with heq' | ⟨detail', rfl⟩
    · rw [← hcode, ← hextensions] at heq'
      cases heq'
    · exact .inr ⟨detail, detail', rfl, rfl⟩

/-- An error with a small id. -/
theorem safe_demo : Safe (.attestationNotActive 7 "Slashed") := by
  intro m hm n hn
  rcases List.mem_cons.1 hm with rfl | hm
  · obtain rfl : (7 : U64) = n := by simpa using hn
    decide +kernel
  · obtain rfl := List.mem_singleton.1 hm
    cases hn

/-- The serialized problem of an error. -/
theorem body_demo (e : CasperProofError) : e.intoProblem.Body (.obj e.intoProblem.members) := ⟨_, rfl, .rfl⟩

theorem errorFromProblem_injective_demo :
    CasperProofError.attestationNotActive 7 "Slashed" = .attestationNotActive 7 "Slashed" ∨
      ∃ detail detail', CasperProofError.attestationNotActive 7 "Slashed" = .internal detail ∧
        CasperProofError.attestationNotActive 7 "Slashed" = .internal detail' :=
  errorFromProblem_injective safe_demo safe_demo (body_demo _) ⟨_, rfl, List.reverse_perm _⟩
    ((errorFromProblem_decodes (body_demo _)).same (errorFromProblem_decodes ⟨_, rfl, List.reverse_perm _⟩))

/-! ## The mock backend's errors -/

/-- The contract error that an error of the mock backend stands for. -/
inductive MirrorsError : SdkError → CasperProofError → Prop
  | attestationNotFound (id : U64) : MirrorsError (.attestationNotFound id.val) (.attestationNotFound id)
  | policyNotFound (id : U64) : MirrorsError (.policyNotFound id.val) (.policyNotFound id)
  | insufficientStake (required provided : String) :
    MirrorsError (.insufficientStake (lit required) (lit provided)) (.insufficientStake required provided)
  | alreadyChallenged (id : U64) : MirrorsError (.alreadyChallenged id.val) (.alreadyChallenged id)
  | attestationNotActive (id : U64) (status : String) :
    MirrorsError (.attestationNotActive id.val (lit status)) (.attestationNotActive id status)
  | policyExpired (id : U64) : MirrorsError (.policyExpired id.val) (.policyExpired id)
  | triggerNotCovered (policyId : U64) (trigger : String) :
    MirrorsError (.triggerNotCovered policyId.val (lit trigger)) (.triggerNotCovered policyId trigger)

/-- An error with exactly what the problem says. -/
structure Describes (e : CasperProofError) (x : CasperProofSdkError) : Prop where
  code : x.code = codeOf e
  status : x.status = e.status
  message : x.message = e.detail.getD e.title
  detail : x.detail = some (extensionMembers e)

/-- What the factories make of an error. -/
theorem MirrorsError.describes {m : SdkError} (hm : MirrorsError m e) (hs : Safe e) :
    ∃ x, m.typed = some x ∧ Describes e x ∧ e.extensions ≠ [] := by
  -- a safe id is its digits in the messages, and is not rounded in the body
  have hid : ∀ {k} {id : U64}, (k, Extension.number id) ∈ e.extensions →
      numberText (number id.val) = decimal id.val ∧ ofDecimal false id.val = number id.val := by
    intro k id hmem
    have hle := hs _ hmem id rfl
    refine ⟨numberText_nat hle, ?_⟩
    rw [ofDecimal, toDouble_nat hle]
    rfl
  cases hm with
  | insufficientStake required provided => exact ⟨_, rfl, ⟨rfl, rfl, rfl, rfl⟩, by simp [CasperProofError.extensions]⟩
  | attestationNotFound id | policyNotFound id | alreadyChallenged id | policyExpired id
  | attestationNotActive id _ | triggerNotCovered id _ =>
    obtain ⟨htext, hvalue⟩ := hid (List.mem_cons_self ..)
    refine ⟨_, rfl, ⟨rfl, rfl, ?_, ?_⟩, by simp [CasperProofError.extensions]⟩
    · simp [newError, CasperProofError.detail, htext, Sdk.attestationNotFound, Sdk.policyNotFound,
        Sdk.alreadyChallenged, Sdk.policyExpired, Sdk.attestationNotActive, Sdk.triggerNotCovered]
    · simp [newError, extensionMembers, CasperProofError.extensions, Extension.value, hvalue, Sdk.attestationNotFound,
        Sdk.policyNotFound, Sdk.alreadyChallenged, Sdk.policyExpired, Sdk.attestationNotActive,
        Sdk.triggerNotCovered]

/-- Errors that say the same are the same. -/
theorem Decodes.sameError (h : Decodes e x') (hdescribes : Describes e x) (hne : e.extensions ≠ []) : SameError x x' where
  code := hdescribes.code.trans h.code.symm
  status := hdescribes.status.trans h.status.symm
  message := hdescribes.message.trans h.message.symm
  detail := by
    have hdetail := h.detail
    rw [hdescribes.detail]
    cases hx : x'.detail with
    | some ds =>
      rw [hx] at hdetail
      exact .some hdetail.symm
    | none =>
      rw [hx] at hdetail
      exact absurd (List.map_eq_nil_iff.1 hdetail.nil_eq.symm) hne

/-- **The mock backend throws what is decoded** from the contracts' problem. -/
theorem mock_error_decodes {m : SdkError} (hm : MirrorsError m e) (hs : Safe e) (h : e.intoProblem.Body body) :
    ∃ x, m.typed = some x ∧ SameError x (errorFromProblem e.status body) := by
  obtain ⟨x, htyped, hdescribes, hne⟩ := hm.describes hs
  exact ⟨x, htyped, (errorFromProblem_decodes h).sameError hdescribes hne⟩

end

theorem mock_error_decodes_demo :
    ∃ x, (SdkError.attestationNotActive 7 (lit "Slashed")).typed = some x ∧
      SameError x (errorFromProblem 409
        (.obj (CasperProofError.attestationNotActive 7 "Slashed").intoProblem.members)) :=
  mock_error_decodes (.attestationNotActive 7 "Slashed") safe_demo (body_demo _)

end CasperProof.Sdk
