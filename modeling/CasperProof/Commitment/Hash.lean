/-
  Bytes and hexadecimal text — the helpers of `hash.ts`.

  blake2b-256 itself is a parameter of what follows: a function from bytes to
  32 bytes.
-/
import CasperProof.Lib.Fallible
import CasperProof.Lib.Js.Encoding
import CasperProof.Lib.Js.Integer

namespace CasperProof.Commitment

open Js

/-- `HASH_LENGTH`. -/
abbrev hashLength : ℕ := 32

/-- What `blake2b(data, { dkLen: HASH_LENGTH })` computes. -/
abbrev Blake2b := Bytes → Vector UInt8 hashLength

/-- A digest function to run examples with. -/
def demoDigest : Blake2b := fun bs =>
  let n := bs.foldl (fun n b => 257 * n + b.toNat + 1) 0
  Vector.ofFn fun i => UInt8.ofNat (n / 256 ^ i.val)

/-- The errors of `fromHex` and `leU64`, with the value that caused them. -/
inductive HashError where
  | hexLength (length : ℕ)
  | hexDigits (offset : ℕ) (digits : JsString)
  | notBigInt (value : JsNumber)
  | negativeU64 (value : JsNumber)
  | overflowU64 (value : JsNumber)
deriving DecidableEq

/-! ## Hexadecimal text -/

/-- `b.toString(16).padStart(2, '0')`. -/
def hexByte (b : UInt8) : JsString :=
  [hexDigit ⟨b.toNat / 16, by have := b.toNat_lt; omega⟩, hexDigit ⟨b.toNat % 16, by omega⟩]

def toHex (bytes : Bytes) : JsString := bytes.flatMap hexByte

/-- The bytes of the digit pairs from `offset` on. -/
def hexPairs (offset : ℕ) : JsString → Except HashError Bytes
  | c :: d :: s =>
    match parseInt16 [c, d] with
    | none => .error (.hexDigits offset [c, d])
    | some byte => do
      let bytes ← hexPairs (offset + 2) s
      pure (UInt8.ofNat (byte % 256).toNat :: bytes)
  | _ => .ok []

def fromHex (hex : JsString) : Except HashError Bytes :=
  let clean := stripPrefix (lit "0x") hex
  if clean.length % 2 ≠ 0 then .error (.hexLength clean.length) else hexPairs 0 clean

theorem hexByte_value (b : UInt8) : 16 * (b.toNat / 16) + b.toNat % 16 = b.toNat := by omega

/-- A pair of digits that `toHex` wrote. -/
theorem parseInt16_hexByte (b : UInt8) : parseInt16 (hexByte b) = some (b.toNat : ℤ) := by
  have hdigits : ∀ d e : Fin 16, parseInt16 [hexDigit d, hexDigit e] = some ((16 * d.val + e.val : ℕ) : ℤ) := by
    decide +kernel
  rw [hexByte, hdigits, hexByte_value]

theorem hexPairs_toHex (offset : ℕ) (bytes : Bytes) : hexPairs offset (toHex bytes) = .ok bytes := by
  induction bytes generalizing offset with
  | nil => rfl
  | cons b bytes ih =>
    have hb : (((b.toNat : ℤ) % 256).toNat) = b.toNat := by have := b.toNat_lt; omega
    have hcons : toHex (b :: bytes) = hexByte b ++ toHex bytes := List.flatMap_cons
    have hpair := parseInt16_hexByte b
    rw [hcons]
    unfold hexByte at hpair ⊢
    rw [List.cons_append, List.cons_append, List.nil_append, hexPairs, hpair]
    simp only [ih, ok_bind, hb, UInt8.ofNat_toNat]
    rfl

theorem length_toHex (bytes : Bytes) : (toHex bytes).length = 2 * bytes.length := by
  induction bytes with
  | nil => rfl
  | cons b bytes ih =>
    rw [toHex, List.flatMap_cons, List.length_append, ← toHex, ih]
    simp only [hexByte, List.length_cons, List.length_nil]
    omega

/-- Hexadecimal text does not begin with `0x`. -/
theorem stripPrefix_toHex (bytes : Bytes) : stripPrefix (lit "0x") (toHex bytes) = toHex bytes := by
  refine if_neg ?_
  cases bytes with
  | nil => decide
  | cons b bytes =>
    have hx : ∀ d : Fin 16, hexDigit d ≠ 0x78 := by decide
    have hlit : lit "0x" = [0x30, 0x78] := by decide
    rw [toHex, List.flatMap_cons, hexByte, hlit]
    simp [Ne.symm (hx _)]

/-- **Hexadecimal text reads back** as the bytes it was made from. -/
theorem fromHex_toHex (bytes : Bytes) : fromHex (toHex bytes) = .ok bytes := by
  rw [fromHex, stripPrefix_toHex]
  simp only [length_toHex, Nat.mul_mod_right, ne_eq, not_true, if_false]
  exact hexPairs_toHex 0 bytes

theorem toHex_injective : Function.Injective toHex := by
  intro a b h
  have hab := (fromHex_toHex a).symm.trans ((congrArg fromHex h).trans (fromHex_toHex b))
  exact Except.ok.inj hab

/-! ## Little-endian integers -/

/-- The `count` lowest bytes, lowest first. -/
def leBytes : ℕ → ℕ → Bytes
  | 0, _ => []
  | count + 1, n => UInt8.ofNat (n % 256) :: leBytes count (n / 256)

def leU64 (value : JsNumber) : Except HashError Bytes :=
  match value.toInt? with
  | none => .error (.notBigInt value)
  | some n =>
    if n < 0 then .error (.negativeU64 value)
    else if n > 0xffffffffffffffff then .error (.overflowU64 value)
    else .ok (leBytes 8 n.toNat)

def concatBytes (parts : List Bytes) : Bytes := parts.flatten

@[simp] theorem length_leBytes (count n : ℕ) : (leBytes count n).length = count := by
  induction count generalizing n with
  | zero => rfl
  | succ count ih => rw [leBytes, List.length_cons, ih]

theorem leBytes_inj {count m n : ℕ} (hm : m < 256 ^ count) (hn : n < 256 ^ count)
    (h : leBytes count m = leBytes count n) : m = n := by
  induction count generalizing m n with
  | zero => rw [pow_zero] at hm hn; omega
  | succ count ih =>
    rw [leBytes, leBytes, List.cons.injEq] at h
    have hlow : m % 256 = n % 256 := by
      have := congrArg UInt8.toNat h.1
      rwa [toNat_byte (Nat.mod_lt _ (by omega)), toNat_byte (Nat.mod_lt _ (by omega))] at this
    rw [pow_succ] at hm hn
    have hhigh := ih (Nat.div_lt_of_lt_mul (by omega)) (Nat.div_lt_of_lt_mul (by omega)) h.2
    omega

/-- The numbers that `leU64` accepts. -/
theorem leU64_eq_ok {value : JsNumber} {bs : Bytes} :
    leU64 value = .ok bs ↔ ∃ n : ℕ, value.toInt? = some (n : ℤ) ∧ n < 256 ^ 8 ∧ leBytes 8 n = bs := by
  unfold leU64
  cases hv : value.toInt? with
  | none => simp
  | some i =>
    simp only [Option.some.injEq]
    split_ifs with hneg hbig
    · simp only [false_iff, not_exists, not_and]
      intro n hn
      omega
    · simp only [false_iff, not_exists, not_and]
      intro n hn hlt
      omega
    · simp only [Except.ok.injEq]
      constructor
      · rintro rfl
        exact ⟨i.toNat, by omega, by omega, rfl⟩
      · rintro ⟨n, rfl, -, rfl⟩
        rfl

theorem length_leU64 {value : JsNumber} {bs : Bytes} (h : leU64 value = .ok bs) : bs.length = 8 := by
  obtain ⟨_, -, -, rfl⟩ := leU64_eq_ok.1 h
  exact length_leBytes 8 _

end CasperProof.Commitment
