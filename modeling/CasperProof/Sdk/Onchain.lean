/-
  Call descriptors — `buyPolicyCall` of `onchain.ts`, and the runtime arguments
  that a descriptor stands for.
-/
import CasperProof.Contracts.Types
import CasperProof.Lib.Fallible
import CasperProof.Lib.Js.Encoding
import CasperProof.Lib.Js.Integer

namespace CasperProof.Sdk

open Js

/-- The CLValue kind of a runtime argument. -/
inductive AbiArgType where
  | string
  | u64
  | u256
  | byteArray
  | stringList
  | key
  | bool
deriving DecidableEq, Repr

inductive AbiValue where
  | text (s : JsString)
  | texts (ss : List JsString)
  | flag (b : Bool)
deriving DecidableEq

structure AbiArg where
  name : JsString
  type : AbiArgType
  value : AbiValue
deriving DecidableEq

inductive OnchainContract where
  | registry
  | insurance
  | stakeToken
  | usdcToken
deriving DecidableEq, Repr

structure ContractCall where
  contract : OnchainContract
  entryPoint : JsString
  args : List AbiArg
deriving DecidableEq

/-- `string | number | bigint`. -/
inductive Amount where
  | text (s : JsString)
  | number (n : JsNumber)
  | bigint (i : ℤ)
deriving DecidableEq

/-- `expected a non-negative integer amount`, with the value. -/
structure AmountError where
  value : Amount
deriving DecidableEq

/-- The text of a non-negative integer. -/
def amount (value : Amount) : Except AmountError JsString :=
  match value with
  | .text s => if trim s ≠ [] ∧ (trim s).all isDigit then .ok (trim s) else .error ⟨value⟩
  | .number n => orFail (digitsText n) ⟨value⟩
  | .bigint i => if 0 ≤ i then .ok (decimal i.toNat) else .error ⟨value⟩

structure BuyPolicyCallArgs where
  coverage : Amount
  triggerTypes : List JsString
  expiry : JsNumber

def buyPolicyCall (args : BuyPolicyCallArgs) : Except AmountError ContractCall := do
  let coverage ← amount args.coverage
  let expiry ← amount (.number args.expiry)
  pure {
    contract := .insurance
    entryPoint := lit "buy_policy"
    args := [
      ⟨lit "coverage", .u256, .text coverage⟩,
      ⟨lit "trigger_types", .stringList, .texts args.triggerTypes⟩,
      ⟨lit "expiry", .u64, .text expiry⟩] }

/-! ## Runtime arguments -/

/-- The number below `bound` that a stringified integer stands for. -/
def argNat (bound : ℕ) [NeZero bound] (s : JsString) : Option (Fin bound) :=
  (natOfDigits 10 s).bind fun n => if h : n < bound then some ⟨n, h⟩ else none

/-- The parameters of `buy_policy` in a descriptor. -/
def buyPolicyParams (call : ContractCall) : Option (U256 × List String × U64) :=
  match call.args with
  | [⟨_, .u256, .text coverage⟩, ⟨_, .stringList, .texts triggerTypes⟩, ⟨_, .u64, .text expiry⟩] => do
    let coverage ← argNat (2 ^ 256) coverage
    let expiry ← argNat (2 ^ 64) expiry
    some (coverage, triggerTypes.map fun s => String.ofList (scalars s), expiry)
  | _ => none

theorem argNat_decimal {bound : ℕ} [NeZero bound] {n : ℕ} {x : Fin bound}
    (h : argNat bound (decimal n) = some x) : x.val = n := by
  rw [argNat, natOfDigits_decimal, Option.bind_some, Option.dite_none_right_eq_some] at h
  obtain ⟨_, h⟩ := h
  rw [← Option.some.inj h]

/-- **The expiry in a descriptor.** -/
theorem buyPolicyCall_expiry {args : BuyPolicyCallArgs} {call : ContractCall} {coverage : U256}
    {triggerTypes : List String} {expiry : U64} (hcall : buyPolicyCall args = .ok call)
    (hparams : buyPolicyParams call = some (coverage, triggerTypes, expiry)) :
    ∃ t : ℕ, args.expiry.toInt? = some (t : ℤ) ∧ (t ≤ maxSafeInteger → expiry.val = t) := by
  simp only [buyPolicyCall, amount, bind_eq_ok, orFail_eq_ok, pure_eq_ok] at hcall
  obtain ⟨c, -, s, hs, rfl⟩ := hcall
  obtain ⟨t, m, ht, rfl, hm⟩ := digitsText_eq_some hs
  simp only [buyPolicyParams, Option.bind_eq_bind, Option.bind_eq_some_iff, Option.some.injEq,
    Prod.mk.injEq] at hparams
  obtain ⟨_, -, e, he, -, -, rfl⟩ := hparams
  exact ⟨t, ht, fun hle => (argNat_decimal he).trans (hm hle)⟩

end CasperProof.Sdk
