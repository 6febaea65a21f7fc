/-
  The on-chain data — addresses, machine words, call environments, and the
  records of `commitment.rs`.
-/
import CasperProof.Lib.Word
import CasperProof.Lib.Mapping
import Mathlib.Algebra.GroupWithZero.Nat
import Mathlib.Tactic.DeriveFintype

namespace CasperProof

/-- `u64`. -/
abbrev U64 := Fin (2 ^ 64)

/-- `casper_types::U256`, whose arithmetic reverts on overflow. -/
abbrev U256 := Fin (2 ^ 256)

instance instNeZeroU64 : NeZero (2 ^ 64) := ⟨by decide⟩

instance instNeZeroU256 : NeZero (2 ^ 256) := ⟨by decide⟩

/-- `U256::from`. -/
def U256.ofU64 (a : U64) : U256 := ⟨a.val, a.isLt.trans (by decide)⟩

@[simp] theorem U256.ofU64_val (a : U64) : (U256.ofU64 a).val = a.val := rfl

/-- A 32-byte digest. -/
abbrev Hash := Vector UInt8 32

/-- The basis-points denominator `BPS_DENOM`. -/
def bpsDenom : ℕ := 10000

/-- An address of the chain: an account hash or a contract package hash. -/
inductive Address where
  | account (hash : Fin (2 ^ 256))
  | contract (hash : Fin (2 ^ 256))
deriving DecidableEq, Fintype

/-- Why a call reverts: a contract error with its code, or an arithmetic
    overflow (the contracts are compiled with overflow checks). -/
inductive Revert where
  | user (code : ℕ)
  | overflow
deriving DecidableEq, Repr

/-- What an entry point reads from `self.env()`: its caller, the contract's own
    address and the block time (milliseconds). -/
structure CallEnv where
  caller : Address
  selfAddress : Address
  blockTime : U64
deriving DecidableEq

/-- Lifecycle of an attestation. -/
inductive AttestationStatus where
  | active
  | challenged
  | slashed
  | finalized
deriving DecidableEq, Repr

/-- An attestation record. -/
structure Attestation where
  id : U64
  attestor : Address
  modelId : String
  inputHash : Hash
  outputHash : Hash
  commitment : Hash
  uri : String
  stake : U256
  createdAt : U64
  status : AttestationStatus
  challenger : Option Address
  challengeBond : U256
  challengedAt : U64
deriving DecidableEq

/-- Per-attestor reputation. -/
structure Reputation where
  total : U64 := 0
  successful : U64 := 0
  slashed : U64 := 0
  challengesDefended : U64 := 0
deriving DecidableEq

/-- Registry configuration; the dispute window is in seconds. -/
structure RegistryConfig where
  minStake : U256
  challengeBond : U256
  disputeWindow : U64
  treasury : Address
  resolver : Address
  rewardBps : U64
deriving DecidableEq

end CasperProof
