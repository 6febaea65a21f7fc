/-
  Signed calls — the descriptors of `onchain.ts`, the transaction that
  `onchain-tx.ts` makes of a descriptor, and the entry point that receives it.

  * `Write`: a call of one of the descriptor functions, with its arguments.
  * `buildTransaction`: the transaction that is signed; what `casper-js-sdk`
    makes of keys and of integers is a parameter, of which only the decimal
    texts are known (`CasperSdk.Documented`).
  * `receivedCall`: the contract that a transaction reaches, and the call that its
    runtime arguments are to that contract.
  * `Write.Means`: the call that the arguments of a write stand for.
  * `signed_iff`: a write reaches the chain as the call it stands for, and only
    as that.
-/
import CasperProof.Commitment.HexText
import CasperProof.Contracts.System
import CasperProof.Lib.Js.Object
import CasperProof.Sdk.Onchain

namespace CasperProof.Sdk

open Js Commitment

/-! ## Descriptors -/

/-- What a descriptor function throws. -/
inductive CallError where
  | amount (e : AmountError)
  | hash (hex : JsString)
deriving DecidableEq

def normalizeHash (hex : JsString) : Except CallError JsString :=
  let h := stripPrefix (lit "0x") hex
  if h.length = 64 ∧ h.all isHexDigit then .ok (toLowerCase h) else .error (.hash hex)

/-- The tokens that can be approved. -/
inductive Cep18Token where
  | stakeToken
  | usdcToken
deriving DecidableEq, Repr

def Cep18Token.contract : Cep18Token → OnchainContract
  | stakeToken => .stakeToken
  | usdcToken => .usdcToken

structure SubmitAttestationCallArgs where
  modelId : JsString
  inputHash : JsString
  outputHash : JsString
  commitment : JsString
  uri : JsString
  stake : Amount

/-- An argument of type `u64` or `u256`. -/
def integerArg (name : String) (type : AbiArgType) (value : Amount) : Except CallError AbiArg := do
  let s ← (amount value).mapError .amount
  pure ⟨lit name, type, .text s⟩

/-- An argument of type `byte_array`. -/
def hashArg (name : String) (hex : JsString) : Except CallError AbiArg := do
  let h ← normalizeHash hex
  pure ⟨lit name, .byteArray, .text h⟩

namespace Onchain

def approveCall (token : Cep18Token) (spender : JsString) (value : Amount) : Except CallError ContractCall := do
  let amount ← integerArg "amount" .u256 value
  pure ⟨token.contract, lit "approve", [⟨lit "spender", .key, .text spender⟩, amount]⟩

def submitAttestationCall (args : SubmitAttestationCallArgs) : Except CallError ContractCall := do
  let inputHash ← hashArg "input_hash" args.inputHash
  let outputHash ← hashArg "output_hash" args.outputHash
  let commitment ← hashArg "commitment" args.commitment
  let stake ← integerArg "stake" .u256 args.stake
  pure ⟨.registry, lit "submit_attestation",
    [⟨lit "model_id", .string, .text args.modelId⟩, inputHash, outputHash, commitment,
      ⟨lit "uri", .string, .text args.uri⟩, stake]⟩

def challengeCall (id : JsNumber) : Except CallError ContractCall := do
  let id ← integerArg "id" .u64 (.number id)
  pure ⟨.registry, lit "challenge", [id]⟩

def resolveCall (id : JsNumber) (fraudulent : Bool) : Except CallError ContractCall := do
  let id ← integerArg "id" .u64 (.number id)
  pure ⟨.registry, lit "resolve", [id, ⟨lit "fraudulent", .bool, .flag fraudulent⟩]⟩

def finalizeCall (id : JsNumber) : Except CallError ContractCall := do
  let id ← integerArg "id" .u64 (.number id)
  pure ⟨.registry, lit "finalize", [id]⟩

def claimCall (policyId attestationId : JsNumber) (triggerType : JsString) : Except CallError ContractCall := do
  let policyId ← integerArg "policy_id" .u64 (.number policyId)
  let attestationId ← integerArg "attestation_id" .u64 (.number attestationId)
  pure ⟨.insurance, lit "claim", [policyId, attestationId, ⟨lit "trigger_type", .string, .text triggerType⟩]⟩

def stakeCall (value : Amount) : Except CallError ContractCall := do
  let amount ← integerArg "amount" .u256 value
  pure ⟨.insurance, lit "stake", [amount]⟩

def unstakeCall (value : Amount) : Except CallError ContractCall := do
  let amount ← integerArg "amount" .u256 value
  pure ⟨.insurance, lit "unstake", [amount]⟩

end Onchain

/-- A call of one of the descriptor functions. -/
inductive Write where
  | approve (token : Cep18Token) (spender : JsString) (value : Amount)
  | submitAttestation (args : SubmitAttestationCallArgs)
  | challenge (id : JsNumber)
  | resolve (id : JsNumber) (fraudulent : Bool)
  | finalize (id : JsNumber)
  | buyPolicy (args : BuyPolicyCallArgs)
  | claim (policyId attestationId : JsNumber) (triggerType : JsString)
  | stake (value : Amount)
  | unstake (value : Amount)

def Write.descriptor : Write → Except CallError ContractCall
  | approve token spender value => Onchain.approveCall token spender value
  | submitAttestation args => Onchain.submitAttestationCall args
  | challenge id => Onchain.challengeCall id
  | resolve id fraudulent => Onchain.resolveCall id fraudulent
  | finalize id => Onchain.finalizeCall id
  | buyPolicy args => (buyPolicyCall args).mapError .amount
  | claim policyId attestationId triggerType => Onchain.claimCall policyId attestationId triggerType
  | stake value => Onchain.stakeCall value
  | unstake value => Onchain.unstakeCall value

/-! ## Transactions -/

inductive CLValue where
  | string (s : String)
  | u64 (n : U64)
  | u256 (n : U256)
  | byteArray (bytes : Bytes)
  | bool (b : Bool)
  | key (a : Address)
  | stringList (ss : List String)

inductive TransactionError where
  | noPackageHash (contract : OnchainContract)
  | invalidPackageHash (addr : JsString)
  | casperSdk
deriving DecidableEq

/-- What `casper-js-sdk` makes of texts: `Key.newKey` and `PublicKey.fromHex`,
    the latter with the account of the key, and the values of the integers. -/
structure CasperSdk where
  key : JsString → Option Address
  account : JsString → Option Address
  newCLUint64 : JsString → Option U64
  newCLUInt256 : JsString → Option U256

/-- Decimal digits are read as the number, if it fits; of other texts nothing is
    said (`0x10` is 16). -/
structure CasperSdk.Documented (sdk : CasperSdk) : Prop where
  newCLUint64 : ∀ s, s ≠ [] → (∀ c ∈ s, isDigit c) → sdk.newCLUint64 s = argNat (2 ^ 64) s
  newCLUInt256 : ∀ s, s ≠ [] → (∀ c ∈ s, isDigit c) → sdk.newCLUInt256 s = argNat (2 ^ 256) s

structure OnchainContext where
  senderPublicKeyHex : JsString
  chainName : JsString
  packageHashes : OnchainContract → Option JsString
  paymentMotes : Option ℕ

def defaultCallPaymentMotes : ℕ := 10000000000

/-- A `Uint8Array` has `0` where `parseInt` is not a number, and keeps the
    lowest byte otherwise. -/
def hexBytes : JsString → Bytes
  | c :: d :: s => UInt8.ofNat (((parseInt16 [c, d]).getD 0) % 256).toNat :: hexBytes s
  | _ => []

def hexToBytes (hex : JsString) : Bytes := hexBytes (stripPrefix (lit "0x") hex)

def packageHex (addr : JsString) : Except TransactionError JsString :=
  let tail := addr.drop (addr.length - 64)
  if tail.length = 64 ∧ tail.all isHexDigit then .ok (toLowerCase tail) else .error (.invalidPackageHash addr)

/-- A CLString carries UTF-8. -/
def clString (s : JsString) : String := String.ofList (scalars s)

def toCLValue (sdk : CasperSdk) (arg : AbiArg) : Except TransactionError CLValue :=
  match arg.type, arg.value with
  | .string, .text s => .ok (.string (clString s))
  | .u64, .text s => orFail ((sdk.newCLUint64 s).map .u64) .casperSdk
  | .u256, .text s => orFail ((sdk.newCLUInt256 s).map .u256) .casperSdk
  | .byteArray, .text s => .ok (.byteArray (hexToBytes s))
  | .bool, .flag b => .ok (.bool b)
  | .key, .text s => orFail ((sdk.key s).map .key) .casperSdk
  | .stringList, .texts ss => .ok (.stringList (ss.map clString))
  | _, _ => .error .casperSdk

structure Transaction where
  sender : Address
  packageHash : JsString
  entryPoint : JsString
  runtimeArgs : List (JsString × CLValue)
  chainName : JsString
  payment : ℕ

def buildTransaction (sdk : CasperSdk) (call : ContractCall) (ctx : OnchainContext) :
    Except TransactionError Transaction := do
  -- An empty text is as good as none.
  let pkg ← orFail ((ctx.packageHashes call.contract).filter (· ≠ [])) (.noPackageHash call.contract)
  let entries ← call.args.mapM fun a => do pure (a.name, ← toCLValue sdk a)
  let sender ← orFail (sdk.account ctx.senderPublicKeyHex) .casperSdk
  let packageHash ← packageHex pkg
  pure {
    sender := sender
    packageHash := packageHash
    entryPoint := call.entryPoint
    runtimeArgs := createObject entries
    chainName := ctx.chainName
    payment := ctx.paymentMotes.getD defaultCallPaymentMotes }

/-! ## What the chain receives -/

/-- A call of an entry point that writes. -/
inductive EntryCall where
  | approve (token : Cep18Token) (spender : Address) (amount : U256)
  | registry (c : Registry.Call)
  | insurance (c : Insurance.Call)
deriving DecidableEq

namespace CLValue

def string? : CLValue → Option String
  | string s => some s
  | _ => none

def u64? : CLValue → Option U64
  | u64 n => some n
  | _ => none

def u256? : CLValue → Option U256
  | u256 n => some n
  | _ => none

/-- `[u8; 32]`. -/
def hash? : CLValue → Option Hash
  | byteArray bytes => if bytes.length = 32 then some (Vector.ofFn fun i => bytes.getD i.val 0) else none
  | _ => none

def bool? : CLValue → Option Bool
  | bool b => some b
  | _ => none

def key? : CLValue → Option Address
  | key a => some a
  | _ => none

def stringList? : CLValue → Option (List String)
  | stringList ss => some ss
  | _ => none

end CLValue

/-- A parameter of an entry point, by its name. -/
def param {A : Type} (args : List (JsString × CLValue)) (name : String) (read : CLValue → Option A) : Option A :=
  (Json.lookup (lit name) args).bind read

/-- `approve` of `tokens.rs`. -/
def tokenCall (token : Cep18Token) (entryPoint : JsString) (args : List (JsString × CLValue)) : Option EntryCall :=
  if entryPoint = lit "approve" then do
    let spender ← param args "spender" CLValue.key?
    let amount ← param args "amount" CLValue.u256?
    pure (.approve token spender amount)
  else none

/-- The entry points of `attestation_registry.rs`. -/
def registryCall (entryPoint : JsString) (args : List (JsString × CLValue)) : Option Registry.Call :=
  if entryPoint = lit "submit_attestation" then do
    let modelId ← param args "model_id" CLValue.string?
    let inputHash ← param args "input_hash" CLValue.hash?
    let outputHash ← param args "output_hash" CLValue.hash?
    let commitment ← param args "commitment" CLValue.hash?
    let uri ← param args "uri" CLValue.string?
    let stake ← param args "stake" CLValue.u256?
    pure (.submitAttestation { modelId, inputHash, outputHash, commitment, uri, stake })
  else if entryPoint = lit "challenge" then do
    let id ← param args "id" CLValue.u64?
    pure (.challenge id)
  else if entryPoint = lit "resolve" then do
    let id ← param args "id" CLValue.u64?
    let fraudulent ← param args "fraudulent" CLValue.bool?
    pure (.resolve id fraudulent)
  else if entryPoint = lit "finalize" then do
    let id ← param args "id" CLValue.u64?
    pure (.finalize id)
  else none

/-- The entry points of `insurance.rs`. -/
def insuranceCall (entryPoint : JsString) (args : List (JsString × CLValue)) : Option Insurance.Call :=
  if entryPoint = lit "buy_policy" then do
    let coverage ← param args "coverage" CLValue.u256?
    let triggerTypes ← param args "trigger_types" CLValue.stringList?
    let expiry ← param args "expiry" CLValue.u64?
    pure (.buyPolicy coverage triggerTypes expiry)
  else if entryPoint = lit "claim" then do
    let policyId ← param args "policy_id" CLValue.u64?
    let attestationId ← param args "attestation_id" CLValue.u64?
    let triggerType ← param args "trigger_type" CLValue.string?
    pure (.claim policyId attestationId triggerType)
  else if entryPoint = lit "stake" then do
    let amount ← param args "amount" CLValue.u256?
    pure (.stake amount)
  else if entryPoint = lit "unstake" then do
    let amount ← param args "amount" CLValue.u256?
    pure (.unstake amount)
  else none

def entryCall (contract : OnchainContract) (entryPoint : JsString) (args : List (JsString × CLValue)) :
    Option EntryCall :=
  match contract with
  | .stakeToken => tokenCall .stakeToken entryPoint args
  | .usdcToken => tokenCall .usdcToken entryPoint args
  | .registry => (registryCall entryPoint args).map .registry
  | .insurance => (insuranceCall entryPoint args).map .insurance

/-- The call that a transaction makes, and by whom; `deployed` says which
    contract is at a package hash. -/
def receivedCall (deployed : JsString → Option OnchainContract) (tx : Transaction) : Option (Address × EntryCall) := do
  let contract ← deployed tx.packageHash
  let call ← entryCall contract tx.entryPoint tx.runtimeArgs
  pure (tx.sender, call)

/-! ## What a write stands for -/

/-- The integer that an amount stands for: the digits of a text, with white
    space around them, or a number as it is printed. -/
inductive Amount.IsNat : Amount → ℕ → Prop
  | text {s : JsString} : trim s ≠ [] → (∀ c ∈ trim s, isDigit c) → IsNat (.text s) (digitsValue (trim s))
  | number {x : JsNumber} {n : ℕ} : x.toInt? = some (n : ℤ) → n < 10 ^ 21 →
      IsNat (.number x) (if n ≤ maxSafeInteger then n else shortest n 21)
  | bigint (n : ℕ) : IsNat (.bigint n) n

/-- A hash in hexadecimal digits of either case, with or without `0x`. -/
def IsHash (hex : JsString) (h : Hash) : Prop := toHex h.toList = normalizeHex hex

/-- The call that the arguments of a write stand for. -/
inductive Write.Means (sdk : CasperSdk) : Write → EntryCall → Prop
  | approve {token spender value a} {n : U256} : sdk.key spender = some a → value.IsNat n.val →
      Means sdk (.approve token spender value) (.approve token a n)
  | submitAttestation {args : SubmitAttestationCallArgs} {inputHash outputHash commitment : Hash} {stake : U256} :
      IsHash args.inputHash inputHash → IsHash args.outputHash outputHash → IsHash args.commitment commitment →
      args.stake.IsNat stake.val →
      Means sdk (.submitAttestation args) (.registry (.submitAttestation
        ⟨clString args.modelId, inputHash, outputHash, commitment, clString args.uri, stake⟩))
  | challenge {id : JsNumber} {i : U64} : (Amount.number id).IsNat i.val →
      Means sdk (.challenge id) (.registry (.challenge i))
  | resolve {id : JsNumber} {fraudulent : Bool} {i : U64} : (Amount.number id).IsNat i.val →
      Means sdk (.resolve id fraudulent) (.registry (.resolve i fraudulent))
  | finalize {id : JsNumber} {i : U64} : (Amount.number id).IsNat i.val →
      Means sdk (.finalize id) (.registry (.finalize i))
  | buyPolicy {args : BuyPolicyCallArgs} {coverage : U256} {expiry : U64} : args.coverage.IsNat coverage.val →
      (Amount.number args.expiry).IsNat expiry.val →
      Means sdk (.buyPolicy args) (.insurance (.buyPolicy coverage (args.triggerTypes.map clString) expiry))
  | claim {policyId attestationId : JsNumber} {triggerType : JsString} {p a : U64} :
      (Amount.number policyId).IsNat p.val → (Amount.number attestationId).IsNat a.val →
      Means sdk (.claim policyId attestationId triggerType) (.insurance (.claim p a (clString triggerType)))
  | stake {value : Amount} {n : U256} : value.IsNat n.val → Means sdk (.stake value) (.insurance (.stake n))
  | unstake {value : Amount} {n : U256} : value.IsNat n.val → Means sdk (.unstake value) (.insurance (.unstake n))

/-! ## Arguments -/

section
variable {sdk : CasperSdk}

/-- The text of an amount has its digits. -/
theorem amount_digits {value : Amount} {n : ℕ} :
    (∃ s, amount value = .ok s ∧ natOfDigits 10 s = some n) ↔ value.IsNat n := by
  constructor
  · rintro ⟨s, hs, hn⟩
    cases value with
    | text t =>
      rw [amount] at hs
      split_ifs at hs with hdigits
      obtain rfl := Except.ok.inj hs
      have hall := List.all_eq_true.1 hdigits.2
      rw [natOfDigits_eq hdigits.1 hall] at hn
      obtain rfl := Option.some.inj hn
      exact .text hdigits.1 hall
    | number x =>
      rw [amount, orFail_eq_ok] at hs
      unfold digitsText at hs
      cases hx : x.toInt? with
      | none => rw [hx] at hs; cases hs
      | some i =>
        rw [hx] at hs
        simp only [Option.ite_none_right_eq_some, Option.some.injEq] at hs
        obtain ⟨⟨hpos, hlt⟩, rfl⟩ := hs
        obtain ⟨i, rfl⟩ := Int.eq_ofNat_of_zero_le hpos
        rw [natOfDigits_decimal] at hn
        obtain rfl := Option.some.inj hn
        have hif : (if (i : ℤ) ≤ maxSafeInteger then (i : ℤ).toNat else shortest (i : ℤ).toNat 21) =
            if i ≤ maxSafeInteger then i else shortest i 21 := by
          simp only [Nat.cast_le, Int.toNat_natCast]
        rw [hif]
        exact .number hx (by exact_mod_cast hlt)
    | bigint i =>
      rw [amount] at hs
      split_ifs at hs with hpos
      obtain rfl := Except.ok.inj hs
      obtain ⟨i, rfl⟩ := Int.eq_ofNat_of_zero_le hpos
      rw [Int.toNat_natCast, natOfDigits_decimal] at hn
      obtain rfl := Option.some.inj hn
      exact .bigint i
  · intro h
    cases h with
    | text hne hdigits =>
      refine ⟨_, ?_, natOfDigits_eq hne hdigits⟩
      rw [amount, if_pos ⟨hne, List.all_eq_true.2 hdigits⟩]
    | @number x i hx hlt =>
      refine ⟨decimal (if i ≤ maxSafeInteger then i else shortest i 21), ?_, natOfDigits_decimal _⟩
      have hbound : (0 : ℤ) ≤ i ∧ (i : ℤ) < 10 ^ 21 := ⟨Int.natCast_nonneg i, by exact_mod_cast hlt⟩
      simp only [amount, orFail_eq_ok, digitsText, hx, if_pos hbound, Nat.cast_le, Int.toNat_natCast]
    | bigint =>
      refine ⟨decimal n, ?_, natOfDigits_decimal n⟩
      rw [amount, if_pos (Int.natCast_nonneg n), Int.toNat_natCast]

theorem argNat_eq_some {bound : ℕ} [NeZero bound] {s : JsString} {x : Fin bound} :
    argNat bound s = some x ↔ natOfDigits 10 s = some x.val := by
  rw [argNat, Option.bind_eq_some_iff]
  constructor
  · rintro ⟨n, hn, h⟩
    obtain ⟨_, h⟩ := Option.dite_none_right_eq_some.1 h
    rw [hn, ← Option.some.inj h]
  · intro h
    exact ⟨x.val, h, dif_pos x.isLt⟩

theorem integerArg_ok {name : String} {type : AbiArgType} {value : Amount} {a : AbiArg} :
    integerArg name type value = .ok a ↔ ∃ s, amount value = .ok s ∧ ⟨lit name, type, .text s⟩ = a := by
  simp only [integerArg, bind_eq_ok, mapError_eq_ok, pure_eq_ok]

theorem hashArg_ok {name : String} {hex : JsString} {a : AbiArg} :
    hashArg name hex = .ok a ↔ ∃ s, normalizeHash hex = .ok s ∧ ⟨lit name, .byteArray, .text s⟩ = a := by
  simp only [hashArg, bind_eq_ok, pure_eq_ok]

/-- An amount is sent as decimal digits. -/
theorem amount_decimal {value : Amount} {s : JsString} (h : amount value = .ok s) : s ≠ [] ∧ ∀ c ∈ s, isDigit c := by
  cases value with
  | text t =>
    rw [amount] at h
    split_ifs at h with hdigits
    obtain rfl := Except.ok.inj h
    exact ⟨hdigits.1, List.all_eq_true.1 hdigits.2⟩
  | number x =>
    obtain ⟨t, m, -, rfl, -⟩ := digitsText_eq_some (orFail_eq_ok.1 h)
    exact ⟨decimal_ne_nil m, isDigit_decimal m⟩
  | bigint i =>
    rw [amount] at h
    split_ifs at h
    obtain rfl := Except.ok.inj h
    exact ⟨decimal_ne_nil _, isDigit_decimal _⟩

/-- An integer is read as it was written, by a reader of decimal digits. -/
theorem integer_read {bound : ℕ} [NeZero bound] {read : JsString → Option (Fin bound)} {value : Amount} {n : Fin bound}
    (hread : ∀ s, s ≠ [] → (∀ c ∈ s, isDigit c) → read s = argNat bound s) :
    (∃ s, amount value = .ok s ∧ read s = some n) ↔ value.IsNat n.val := by
  rw [← amount_digits]
  refine exists_congr fun s => and_congr_right fun hs => ?_
  obtain ⟨hne, hdigits⟩ := amount_decimal hs
  rw [hread s hne hdigits, argNat_eq_some]

/-- Hexadecimal digits are those of some bytes. -/
theorem exists_toHex {t : JsString} (heven : t.length % 2 = 0) (ht : ∀ c ∈ t, isHexDigit c) :
    ∃ bs, toHex bs = toLowerCase t := by
  obtain ⟨bs, hbs⟩ := (hexPairs_ok_iff 0 t).2 fun p hp => parsesPair_of_hex ((forall_pairs heven).2 ht p hp)
  exact ⟨bs, toHex_hexPairs heven ht hbs⟩

theorem hexToBytes_toHex (bs : Bytes) : hexToBytes (toHex bs) = bs := by
  rw [hexToBytes, stripPrefix_toHex]
  induction bs with
  | nil => rfl
  | cons b bs ih =>
    have hb : ((b.toNat : ℤ) % 256).toNat = b.toNat := by have := b.toNat_lt; omega
    have hpair := parseInt16_hexByte b
    rw [toHex, List.flatMap_cons, ← toHex]
    unfold hexByte at hpair ⊢
    rw [List.cons_append, List.cons_append, List.nil_append, hexBytes, hpair, ih, Option.getD_some, hb, UInt8.ofNat_toNat]

/-- Thirty-two bytes are a hash. -/
theorem hash?_byteArray {bs : Bytes} {h : Hash} : (CLValue.byteArray bs).hash? = some h ↔ bs = h.toList := by
  rw [CLValue.hash?, Option.ite_none_right_eq_some, Option.some.injEq]
  constructor
  · rintro ⟨hlen, rfl⟩
    refine List.ext_getElem (by simp [hlen]) fun i hi _ => ?_
    simp [List.getD_eq_getElem?_getD, List.getElem?_eq_getElem hi]
  · rintro rfl
    refine ⟨h.length_toList, Vector.ext fun i hi => ?_⟩
    simp [List.getD_eq_getElem?_getD]

/-- Only hexadecimal digits are hexadecimal digits in lower case. -/
theorem isHexDigit_of_lower {c : CodeUnit} {d : Fin 16} (h : toLowerCase [c] = [hexDigit d]) : isHexDigit c := by
  have hval : (if 0x41 ≤ c.val ∧ c.val ≤ 0x5A then c.val + 0x20 else c.val) = (hexDigit d).val := by
    rw [toLowerCase, List.map_singleton, List.singleton_inj] at h
    rw [← h]
    split_ifs <;> rfl
  have hd : 0x30 ≤ (hexDigit d).val ∧ (hexDigit d).val ≤ 0x39 ∨ 0x61 ≤ (hexDigit d).val ∧ (hexDigit d).val ≤ 0x66 := by
    have := d.isLt
    simp only [hexDigit]
    split <;> omega
  simp only [isHexDigit, isDigit, Bool.or_eq_true, Bool.and_eq_true, decide_eq_true_eq]
  split_ifs at hval <;> omega

theorem forall_isHexDigit {t : JsString} {bs : Bytes} (h : toHex bs = toLowerCase t) : ∀ c ∈ t, isHexDigit c := by
  intro c hc
  have hmem : ∃ d ∈ toHex bs, toLowerCase [c] = [d] := by
    rw [h]
    exact ⟨_, List.mem_map.2 ⟨c, hc, rfl⟩, rfl⟩
  obtain ⟨d, hd, hcd⟩ := hmem
  obtain ⟨b, -, hb⟩ := List.mem_flatMap.1 hd
  rcases List.mem_pair.1 hb with rfl | rfl
  · exact isHexDigit_of_lower hcd
  · exact isHexDigit_of_lower hcd

theorem hash_read {hex : JsString} {h : Hash} :
    (∃ s, normalizeHash hex = .ok s ∧ (CLValue.byteArray (hexToBytes s)).hash? = some h) ↔ IsHash hex h := by
  simp only [hash?_byteArray, IsHash, normalizeHex, normalizeHash]
  constructor
  · rintro ⟨s, hs, hbytes⟩
    split_ifs at hs with hdigits
    obtain rfl := Except.ok.inj hs
    obtain ⟨bs, hbs⟩ := exists_toHex (by rw [hdigits.1]) (List.all_eq_true.1 hdigits.2)
    rw [← hbs, hexToBytes_toHex] at hbytes
    rw [← hbytes, hbs]
  · intro hh
    have hlen : (stripPrefix (lit "0x") hex).length = 64 := by
      have := congrArg List.length hh
      rwa [length_toHex, Vector.length_toList, toLowerCase, List.length_map, eq_comm] at this
    refine ⟨_, if_pos ⟨hlen, List.all_eq_true.2 (forall_isHexDigit hh)⟩, ?_⟩
    rw [← hh, hexToBytes_toHex]

/-- An argument as it arrives: its name, and what is read of its value. -/
def Arrives (sdk : CasperSdk) {A : Type} (arg : Except CallError AbiArg) (name : String) (read : CLValue → Option A)
    (x : A) : Prop :=
  ∃ a v, arg = .ok a ∧ a.name = lit name ∧ toCLValue sdk a = .ok v ∧ read v = some x

section
variable {name : String} {value : Amount} {s : JsString}

theorem arrives_u64 (hsdk : sdk.Documented) {n : U64} :
    Arrives sdk (integerArg name .u64 value) name CLValue.u64? n ↔ value.IsNat n.val := by
  rw [← integer_read hsdk.newCLUint64]
  simp [Arrives, integerArg_ok, toCLValue, CLValue.u64?]

theorem arrives_u256 (hsdk : sdk.Documented) {n : U256} :
    Arrives sdk (integerArg name .u256 value) name CLValue.u256? n ↔ value.IsNat n.val := by
  rw [← integer_read hsdk.newCLUInt256]
  simp [Arrives, integerArg_ok, toCLValue, CLValue.u256?]

theorem arrives_hash {h : Hash} : Arrives sdk (hashArg name s) name CLValue.hash? h ↔ IsHash s h := by
  rw [← hash_read]
  simp [Arrives, hashArg_ok, toCLValue]

theorem arrives_string {t : String} :
    Arrives sdk (.ok ⟨lit name, .string, .text s⟩) name CLValue.string? t ↔ clString s = t := by
  simp [Arrives, toCLValue, CLValue.string?]

theorem arrives_stringList {ss : List JsString} {ts : List String} :
    Arrives sdk (.ok ⟨lit name, .stringList, .texts ss⟩) name CLValue.stringList? ts ↔ ss.map clString = ts := by
  simp [Arrives, toCLValue, CLValue.stringList?]

theorem arrives_bool {b b' : Bool} :
    Arrives sdk (.ok ⟨lit name, .bool, .flag b⟩) name CLValue.bool? b' ↔ b = b' := by
  simp [Arrives, toCLValue, CLValue.bool?]

theorem arrives_key {a : Address} :
    Arrives sdk (.ok ⟨lit name, .key, .text s⟩) name CLValue.key? a ↔ sdk.key s = some a := by
  simp [Arrives, toCLValue, CLValue.key?]

end

/-! ## From a write to a call -/

namespace Write

def contract : Write → OnchainContract
  | approve token _ _ => token.contract
  | submitAttestation _ | challenge _ | resolve _ _ | finalize _ => .registry
  | buyPolicy _ | claim _ _ _ | stake _ | unstake _ => .insurance

def entryPoint : Write → String
  | approve _ _ _ => "approve"
  | submitAttestation _ => "submit_attestation"
  | challenge _ => "challenge"
  | resolve _ _ => "resolve"
  | finalize _ => "finalize"
  | buyPolicy _ => "buy_policy"
  | claim _ _ _ => "claim"
  | stake _ => "stake"
  | unstake _ => "unstake"

/-- The arguments, under the names of the parameters. -/
def args : Write → List (String × Except CallError AbiArg)
  | approve _ spender value =>
    [("spender", .ok ⟨lit "spender", .key, .text spender⟩), ("amount", integerArg "amount" .u256 value)]
  | submitAttestation args =>
    [("model_id", .ok ⟨lit "model_id", .string, .text args.modelId⟩),
      ("input_hash", hashArg "input_hash" args.inputHash), ("output_hash", hashArg "output_hash" args.outputHash),
      ("commitment", hashArg "commitment" args.commitment), ("uri", .ok ⟨lit "uri", .string, .text args.uri⟩),
      ("stake", integerArg "stake" .u256 args.stake)]
  | challenge id | finalize id => [("id", integerArg "id" .u64 (.number id))]
  | resolve id fraudulent =>
    [("id", integerArg "id" .u64 (.number id)), ("fraudulent", .ok ⟨lit "fraudulent", .bool, .flag fraudulent⟩)]
  | buyPolicy args =>
    [("coverage", integerArg "coverage" .u256 args.coverage),
      ("trigger_types", .ok ⟨lit "trigger_types", .stringList, .texts args.triggerTypes⟩),
      ("expiry", integerArg "expiry" .u64 (.number args.expiry))]
  | claim policyId attestationId triggerType =>
    [("policy_id", integerArg "policy_id" .u64 (.number policyId)),
      ("attestation_id", integerArg "attestation_id" .u64 (.number attestationId)),
      ("trigger_type", .ok ⟨lit "trigger_type", .string, .text triggerType⟩)]
  | stake value | unstake value => [("amount", integerArg "amount" .u256 value)]

/-- A descriptor is made of its arguments, or fails with the first that fails. -/
theorem descriptor_eq (w : Write) :
    w.descriptor = (w.args.mapM Prod.snd).map fun as => ⟨w.contract, lit w.entryPoint, as⟩ := by
  cases w with
  | buyPolicy args =>
    simp only [descriptor, buyPolicyCall, Write.args, integerArg, List.mapM_cons, List.mapM_nil]
    cases amount args.coverage with
    | error => rfl
    | ok =>
      cases amount (.number args.expiry) with
      | error => rfl
      | ok => rfl
  | submitAttestation args =>
    simp only [descriptor, Onchain.submitAttestationCall, Write.args, List.mapM_cons, List.mapM_nil]
    cases hashArg "input_hash" args.inputHash with
    | error => rfl
    | ok =>
      cases hashArg "output_hash" args.outputHash with
      | error => rfl
      | ok =>
        cases hashArg "commitment" args.commitment with
        | error => rfl
        | ok =>
          cases integerArg "stake" .u256 args.stake with
          | error => rfl
          | ok => rfl
  | claim policyId attestationId triggerType =>
    simp only [descriptor, Onchain.claimCall, Write.args, List.mapM_cons, List.mapM_nil]
    cases integerArg "policy_id" .u64 (.number policyId) with
    | error => rfl
    | ok =>
      cases integerArg "attestation_id" .u64 (.number attestationId) with
      | error => rfl
      | ok => rfl
  | approve token spender value =>
    simp only [descriptor, Onchain.approveCall, Write.args, List.mapM_cons, List.mapM_nil]
    cases integerArg "amount" .u256 value <;> rfl
  | stake value | unstake value =>
    simp only [descriptor, Onchain.stakeCall, Onchain.unstakeCall, Write.args, List.mapM_cons, List.mapM_nil]
    cases integerArg "amount" .u256 value <;> rfl
  | challenge id | finalize id | resolve id =>
    simp only [descriptor, Onchain.challengeCall, Onchain.finalizeCall, Onchain.resolveCall, Write.args,
      List.mapM_cons, List.mapM_nil]
    cases integerArg "id" .u64 (.number id) <;> rfl

theorem descriptor_ok {w : Write} {call : ContractCall} : w.descriptor = .ok call ↔
    ∃ as, List.Forall₂ (fun p a => p.2 = .ok a) w.args as ∧ ⟨w.contract, lit w.entryPoint, as⟩ = call := by
  simp only [← mapM_eq_ok (f := Prod.snd)]
  rw [descriptor_eq]
  cases w.args.mapM Prod.snd <;> simp [Except.map]

theorem args_nodup (w : Write) : (w.args.map Prod.fst).Nodup := by
  cases w <;> simp [args]

theorem args_name {w : Write} {p : String × Except CallError AbiArg} {a : AbiArg} (hp : p ∈ w.args)
    (ha : p.2 = .ok a) : a.name = lit p.1 := by
  have hinteger : ∀ {name type value}, integerArg name type value = .ok a → a.name = lit name := by
    intro name type value h
    obtain ⟨s, -, rfl⟩ := integerArg_ok.1 h
    rfl
  have hhash : ∀ {name hex}, hashArg name hex = .ok a → a.name = lit name := by
    intro name hex h
    obtain ⟨s, -, rfl⟩ := hashArg_ok.1 h
    rfl
  have hok : ∀ {b : AbiArg}, (Except.ok b : Except CallError AbiArg) = .ok a → a.name = b.name := by
    rintro b ⟨⟩
    rfl
  cases w <;> simp only [args, List.mem_cons, List.not_mem_nil, or_false] at hp
  case challenge | finalize | stake | unstake =>
    subst hp
    exact hinteger ha
  case resolve | approve =>
    rcases hp with rfl | rfl
    all_goals first | exact hinteger ha | exact hok ha
  case buyPolicy | claim =>
    rcases hp with rfl | rfl | rfl
    all_goals first | exact hinteger ha | exact hok ha
  case submitAttestation =>
    rcases hp with rfl | rfl | rfl | rfl | rfl | rfl
    all_goals first | exact hinteger ha | exact hhash ha | exact hok ha

end Write

/-- An argument as it is put into a transaction. -/
def Sent (sdk : CasperSdk) (p : String × Except CallError AbiArg) (e : JsString × CLValue) : Prop :=
  ∃ a, p.2 = .ok a ∧ a.name = e.1 ∧ toCLValue sdk a = .ok e.2

variable {w : Write} {entries : List (JsString × CLValue)}

theorem Sent.name {p : String × Except CallError AbiArg} {e : JsString × CLValue} (h : Sent sdk p e)
    (hp : p ∈ w.args) : e.1 = lit p.1 := by
  obtain ⟨a, ha, hname, -⟩ := h
  rw [← hname, Write.args_name hp ha]

theorem sent_keys (h : List.Forall₂ (Sent sdk) w.args entries) :
    Json.keys entries = (w.args.map Prod.fst).map lit := by
  have hsub : ∀ ps : List (String × Except CallError AbiArg), (∀ p ∈ ps, p ∈ w.args) →
      ∀ es, List.Forall₂ (Sent sdk) ps es → Json.keys es = (ps.map Prod.fst).map lit := by
    intro ps
    induction ps with
    | nil =>
      rintro - es ⟨⟩
      rfl
    | cons p ps ih =>
      rintro hps (_ | ⟨e, es⟩) (_ | ⟨he, hes⟩)
      rw [Json.keys, List.map_cons, ← Json.keys, ih (fun q hq => hps q (List.mem_cons_of_mem _ hq)) es hes,
        he.name (hps p (List.mem_cons_self ..))]
      rfl
  exact hsub w.args (fun _ => id) entries h

/-- **A parameter is the argument of its name.** -/
theorem param_sent {A : Type} (h : List.Forall₂ (Sent sdk) w.args entries) {name : String}
    {arg : Except CallError AbiArg} (hp : (name, arg) ∈ w.args) (read : CLValue → Option A) {x : A} :
    param (createObject entries) name read = some x ↔ Arrives sdk arg name read x := by
  have hnodup : (Json.keys entries).Nodup := by
    rw [sent_keys h]
    exact (Write.args_nodup w).map fun s t hst => lit_inj.1 hst
  obtain ⟨e, he, hsent⟩ := forall₂_mem h hp
  have hlook : Json.lookup (lit name) (createObject entries) = some e.2 := by
    rw [lookup_createObject hnodup, Json.lookup_eq_some hnodup]
    exact hsent.name hp ▸ he
  obtain ⟨a, rfl, hname, hvalue⟩ := hsent
  rw [param, hlook, Option.bind_some]
  constructor
  · intro hread
    exact ⟨a, e.2, rfl, Write.args_name hp rfl, hvalue, hread⟩
  · rintro ⟨_, v, ⟨⟩, -, hv, hread⟩
    cases hvalue.symm.trans hv
    exact hread

theorem sent_of_args {ps : List (String × Except CallError AbiArg)} {as : List AbiArg}
    (has : List.Forall₂ (fun p a => p.2 = .ok a) ps as)
    (hes : List.Forall₂ (fun a e => a.name = e.1 ∧ toCLValue sdk a = .ok e.2) as entries) :
    List.Forall₂ (Sent sdk) ps entries := by
  induction has generalizing entries with
  | nil =>
    cases hes
    exact .nil
  | cons ha _ ih =>
    obtain ⟨e, es, he, hrest, rfl⟩ := List.forall₂_cons_left_iff.1 hes
    exact .cons ⟨_, ha, he⟩ (ih hrest)

theorem args_of_sent {ps : List (String × Except CallError AbiArg)} (h : List.Forall₂ (Sent sdk) ps entries) :
    ∃ as, List.Forall₂ (fun p a => p.2 = .ok a) ps as ∧
      List.Forall₂ (fun a e => a.name = e.1 ∧ toCLValue sdk a = .ok e.2) as entries := by
  induction h with
  | nil => exact ⟨[], .nil, .nil⟩
  | cons hsent _ ih =>
    obtain ⟨a, ha, he⟩ := hsent
    obtain ⟨as, has, hes⟩ := ih
    exact ⟨a :: as, .cons ha has, .cons he hes⟩

/-- **The entry point receives what the write stands for.** -/
theorem receives_iff (hsdk : sdk.Documented) {c : EntryCall} (h : List.Forall₂ (Sent sdk) w.args entries) :
    entryCall w.contract (lit w.entryPoint) (createObject entries) = some c ↔ w.Means sdk c := by
  have hp : ∀ p ∈ w.args, ∀ (A : Type) (read : CLValue → Option A) (x : A),
      param (createObject entries) p.1 read = some x ↔ Arrives sdk p.2 p.1 read x :=
    fun _ hp _ read _ => param_sent h hp read
  cases w <;>
    simp only [Write.args, List.forall_mem_cons, List.not_mem_nil, false_implies, implies_true, and_true] at hp <;>
    simp only [Write.contract, Write.entryPoint, entryCall, registryCall, insuranceCall, lit_inj, String.reduceEq,
      if_true, if_false, Option.map_eq_some_iff, Option.bind_eq_bind, Option.bind_eq_some_iff, Option.pure_def,
      Option.some.injEq, hp, arrives_u64 hsdk, arrives_u256 hsdk, arrives_hash, arrives_string, arrives_stringList,
      arrives_bool]
  case approve token spender value =>
    have htoken : entryCall token.contract (lit "approve") (createObject entries) =
        tokenCall token (lit "approve") (createObject entries) := by
      cases token <;> rfl
    refine (Iff.of_eq (congrArg (· = some c) htoken)).trans ?_
    simp only [tokenCall, if_true, Option.bind_eq_bind, Option.bind_eq_some_iff, Option.pure_def, Option.some.injEq,
      hp, arrives_u256 hsdk, arrives_key]
    constructor
    · rintro ⟨a, ha, n, hn, rfl⟩
      exact .approve ha hn
    · rintro ⟨⟩
      exact ⟨_, ‹_›, _, ‹_›, rfl⟩
  case submitAttestation =>
    constructor
    · rintro ⟨_, ⟨_, rfl, i, hi, o, ho, d, hd, _, rfl, n, hn, rfl⟩, rfl⟩
      exact .submitAttestation hi ho hd hn
    · rintro ⟨⟩
      exact ⟨_, ⟨_, rfl, _, ‹_›, _, ‹_›, _, ‹_›, _, rfl, _, ‹_›, rfl⟩, rfl⟩
  case challenge =>
    constructor
    · rintro ⟨_, ⟨i, hi, rfl⟩, rfl⟩
      exact .challenge hi
    · rintro ⟨⟩
      exact ⟨_, ⟨_, ‹_›, rfl⟩, rfl⟩
  case resolve =>
    constructor
    · rintro ⟨_, ⟨i, hi, _, rfl, rfl⟩, rfl⟩
      exact .resolve hi
    · rintro ⟨⟩
      exact ⟨_, ⟨_, ‹_›, _, rfl, rfl⟩, rfl⟩
  case finalize =>
    constructor
    · rintro ⟨_, ⟨i, hi, rfl⟩, rfl⟩
      exact .finalize hi
    · rintro ⟨⟩
      exact ⟨_, ⟨_, ‹_›, rfl⟩, rfl⟩
  case buyPolicy =>
    constructor
    · rintro ⟨_, ⟨n, hn, _, rfl, i, hi, rfl⟩, rfl⟩
      exact .buyPolicy hn hi
    · rintro ⟨⟩
      exact ⟨_, ⟨_, ‹_›, _, rfl, _, ‹_›, rfl⟩, rfl⟩
  case claim =>
    constructor
    · rintro ⟨_, ⟨p, hp, a, ha, _, rfl, rfl⟩, rfl⟩
      exact .claim hp ha
    · rintro ⟨⟩
      exact ⟨_, ⟨_, ‹_›, _, ‹_›, _, rfl, rfl⟩, rfl⟩
  case stake =>
    constructor
    · rintro ⟨_, ⟨n, hn, rfl⟩, rfl⟩
      exact .stake hn
    · rintro ⟨⟩
      exact ⟨_, ⟨_, ‹_›, rfl⟩, rfl⟩
  case unstake =>
    constructor
    · rintro ⟨_, ⟨n, hn, rfl⟩, rfl⟩
      exact .unstake hn
    · rintro ⟨⟩
      exact ⟨_, ⟨_, ‹_›, rfl⟩, rfl⟩

theorem Arrives.sent {A : Type} {arg : Except CallError AbiArg} {name : String} {read : CLValue → Option A} {x : A}
    (h : Arrives sdk arg name read x) : ∃ e, Sent sdk (name, arg) e := by
  obtain ⟨a, v, ha, hname, hv, -⟩ := h
  exact ⟨(lit name, v), a, ha, hname, hv⟩

/-- A write that stands for a call can be sent. -/
theorem Write.Means.sent (hsdk : sdk.Documented) {c : EntryCall} (h : w.Means sdk c) :
    ∃ entries, List.Forall₂ (Sent sdk) w.args entries := by
  refine exists_forall₂ ?_
  cases h <;> simp only [args, List.forall_mem_cons, List.not_mem_nil, false_implies, implies_true, and_true]
  case approve ha hn => exact ⟨(arrives_key.2 ha).sent, ((arrives_u256 hsdk).2 hn).sent⟩
  case submitAttestation hi ho hd hn =>
    exact ⟨(arrives_string.2 rfl).sent, (arrives_hash.2 hi).sent, (arrives_hash.2 ho).sent, (arrives_hash.2 hd).sent,
      (arrives_string.2 rfl).sent, ((arrives_u256 hsdk).2 hn).sent⟩
  case challenge hi | finalize hi => exact ((arrives_u64 hsdk).2 hi).sent
  case resolve hi => exact ⟨((arrives_u64 hsdk).2 hi).sent, (arrives_bool.2 rfl).sent⟩
  case buyPolicy hn hi =>
    exact ⟨((arrives_u256 hsdk).2 hn).sent, (arrives_stringList.2 rfl).sent, ((arrives_u64 hsdk).2 hi).sent⟩
  case claim hp ha =>
    exact ⟨((arrives_u64 hsdk).2 hp).sent, ((arrives_u64 hsdk).2 ha).sent, (arrives_string.2 rfl).sent⟩
  case stake hn | unstake hn => exact ((arrives_u256 hsdk).2 hn).sent

theorem packageHex_nil {h : JsString} : packageHex [] ≠ .ok h := by
  intro hh
  rw [packageHex] at hh
  cases hh

theorem buildTransaction_ok {call : ContractCall} {ctx : OnchainContext} {tx : Transaction} :
    buildTransaction sdk call ctx = .ok tx ↔ ∃ pkg h sender entries, ctx.packageHashes call.contract = some pkg ∧
      packageHex pkg = .ok h ∧ sdk.account ctx.senderPublicKeyHex = some sender ∧
      List.Forall₂ (fun a e => a.name = e.1 ∧ toCLValue sdk a = .ok e.2) call.args entries ∧
      ⟨sender, h, call.entryPoint, createObject entries, ctx.chainName,
        ctx.paymentMotes.getD defaultCallPaymentMotes⟩ = tx := by
  have hentry : ∀ (a : AbiArg) (e : JsString × CLValue),
      (do pure (a.name, ← toCLValue sdk a) : Except TransactionError (JsString × CLValue)) = .ok e ↔
        a.name = e.1 ∧ toCLValue sdk a = .ok e.2 := by
    intro a e
    simp only [bind_eq_ok, pure_eq_ok, Prod.ext_iff]
    constructor
    · rintro ⟨v, hv, hname, rfl⟩
      exact ⟨hname, hv⟩
    · rintro ⟨hname, hv⟩
      exact ⟨e.2, hv, hname, rfl⟩
  simp only [buildTransaction, bind_eq_ok, orFail_eq_ok, pure_eq_ok, mapM_eq_ok, hentry, Option.filter_eq_some_iff,
    decide_eq_true_eq]
  constructor
  · rintro ⟨pkg, ⟨hpkg, -⟩, entries, hentries, sender, hsender, h, hh, rfl⟩
    exact ⟨pkg, h, sender, entries, hpkg, hh, hsender, hentries, rfl⟩
  · rintro ⟨pkg, h, sender, entries, hpkg, hh, hsender, hentries, rfl⟩
    refine ⟨pkg, ⟨hpkg, ?_⟩, entries, hentries, sender, hsender, h, hh, rfl⟩
    rintro rfl
    exact packageHex_nil hh

/-- A write, signed in a context, is received as a call. -/
def Signed (sdk : CasperSdk) (ctx : OnchainContext) (deployed : JsString → Option OnchainContract) (w : Write)
    (caller : Address) (c : EntryCall) : Prop :=
  ∃ call tx, w.descriptor = .ok call ∧ buildTransaction sdk call ctx = .ok tx ∧
    receivedCall deployed tx = some (caller, c)

/-- A context has the package of a contract. -/
def OnchainContext.HasPackage (ctx : OnchainContext) (contract : OnchainContract) : Prop :=
  ∃ pkg h, ctx.packageHashes contract = some pkg ∧ packageHex pkg = .ok h

/-- The packages of a context are those of the contracts. -/
def OnchainContext.Configured (ctx : OnchainContext) (deployed : JsString → Option OnchainContract) : Prop :=
  ∀ contract pkg h, ctx.packageHashes contract = some pkg → packageHex pkg = .ok h → deployed h = some contract

section
variable {ctx : OnchainContext} {deployed : JsString → Option OnchainContract} {caller : Address} {c : EntryCall}

theorem Signed.means (hsdk : sdk.Documented) (hctx : ctx.Configured deployed)
    (h : Signed sdk ctx deployed w caller c) :
    sdk.account ctx.senderPublicKeyHex = some caller ∧ ctx.HasPackage w.contract ∧ w.Means sdk c := by
  obtain ⟨call, tx, hcall, htx, hrec⟩ := h
  obtain ⟨as, has, rfl⟩ := Write.descriptor_ok.1 hcall
  obtain ⟨pkg, h, sender, entries, hpkg, hh, hsender, hentries, rfl⟩ := buildTransaction_ok.1 htx
  have hsent : List.Forall₂ (Sent sdk) w.args entries := sent_of_args has hentries
  simp only [receivedCall, hctx _ _ _ hpkg hh, Option.bind_eq_bind, Option.bind_some, Option.bind_eq_some_iff,
    Option.pure_def, Option.some.injEq, Prod.mk.injEq] at hrec
  obtain ⟨_, hc, rfl, rfl⟩ := hrec
  exact ⟨hsender, ⟨pkg, h, hpkg, hh⟩, (receives_iff hsdk hsent).1 hc⟩

theorem Write.Means.signed (hsdk : sdk.Documented) (hmeans : w.Means sdk c) (hctx : ctx.Configured deployed)
    (hsender : sdk.account ctx.senderPublicKeyHex = some caller) (hpackage : ctx.HasPackage w.contract) :
    Signed sdk ctx deployed w caller c := by
  obtain ⟨pkg, h, hpkg, hh⟩ := hpackage
  obtain ⟨entries, hsent⟩ := hmeans.sent hsdk
  obtain ⟨as, has, hentries⟩ := args_of_sent hsent
  refine ⟨_, _, Write.descriptor_ok.2 ⟨as, has, rfl⟩,
    buildTransaction_ok.2 ⟨pkg, h, caller, entries, hpkg, hh, hsender, hentries, rfl⟩, ?_⟩
  simp only [receivedCall, hctx _ _ _ hpkg hh, Option.bind_eq_bind, Option.bind_some,
    (receives_iff hsdk hsent).2 hmeans]
  rfl

end

/-- **A write is received as the call that it stands for**, by the contract it
    is for, from the account that signs, and as nothing else; it cannot be
    signed only if it stands for no call or the context lacks an account or a
    package. -/
theorem signed_iff (hsdk : sdk.Documented) {ctx : OnchainContext} {deployed : JsString → Option OnchainContract}
    (hctx : ctx.Configured deployed) (w : Write) (caller : Address) (c : EntryCall) :
    Signed sdk ctx deployed w caller c ↔
      sdk.account ctx.senderPublicKeyHex = some caller ∧ ctx.HasPackage w.contract ∧ w.Means sdk c :=
  ⟨fun h => h.means hsdk hctx, fun ⟨hsender, hpackage, hmeans⟩ => hmeans.signed hsdk hctx hsender hpackage⟩

end

/-- The number below `bound` that a text stands for, in hexadecimal digits after
    `0x`. -/
def demoUint (bound : ℕ) [NeZero bound] (s : JsString) : Option (Fin bound) :=
  if (lit "0x").isPrefixOf s then
    (natOfDigits 16 (s.drop 2)).bind fun n => if h : n < bound then some ⟨n, h⟩ else none
  else argNat bound s

/-- A key names the account of its digits. -/
def demoCasperSdk : CasperSdk where
  key _ := none
  account hex := (natOfDigits 10 hex).bind fun n => if n = 1 then some (.account 1) else none
  newCLUint64 := demoUint (2 ^ 64)
  newCLUInt256 := demoUint (2 ^ 256)

theorem demoUint_digits {bound : ℕ} [NeZero bound] {s : JsString} (h : ∀ c ∈ s, isDigit c) :
    demoUint bound s = argNat bound s := by
  have hnot : (0x78 : CodeUnit) ∉ s := fun hc => absurd (h _ hc) (by decide)
  rw [demoUint, isPrefixOf_eq_false (p := lit "0x") (by decide) hnot]
  rfl

theorem demo_documented : demoCasperSdk.Documented :=
  ⟨fun _ _ h => demoUint_digits h, fun _ _ h => demoUint_digits h⟩

example : demoCasperSdk.newCLUInt256 (lit "0x10") = some 16 := by decide +kernel

/-- A registry at the package `hash-aa…a`. -/
def demoContext : OnchainContext where
  senderPublicKeyHex := lit "01"
  chainName := lit "casper-test"
  packageHashes
    | .registry => some (lit "hash-" ++ List.replicate 64 0x61)
    | _ => none
  paymentMotes := none

def demoDeployed (h : JsString) : Option OnchainContract := if h = List.replicate 64 0x61 then some .registry else none

theorem demo_package : packageHex (lit "hash-" ++ List.replicate 64 0x61) = .ok (List.replicate 64 0x61) := by
  decide +kernel

theorem demo_configured : demoContext.Configured demoDeployed := by
  intro contract pkg h hpkg hh
  cases contract with
  | registry =>
    obtain rfl := Option.some.inj hpkg
    obtain rfl := Except.ok.inj (demo_package.symm.trans hh)
    exact if_pos rfl
  | insurance | stakeToken | usdcToken => cases hpkg

theorem demo_hasPackage : demoContext.HasPackage .registry := ⟨_, _, rfl, demo_package⟩

theorem signed_iff_demo : Signed demoCasperSdk demoContext demoDeployed (.challenge (.real 3)) (.account 1)
    (.registry (.challenge 3)) := by
  have hid : (Amount.number (.real 3)).IsNat (if 3 ≤ maxSafeInteger then 3 else shortest 3 21) :=
    .number (n := 3) (by decide +kernel) (by decide)
  exact (signed_iff demo_documented demo_configured _ _ _).2 ⟨by decide +kernel, demo_hasPackage, .challenge hid⟩

end CasperProof.Sdk
