/-
  Machine words — unsigned integers below a bound `n`, with the checked and
  saturating operations of overflow-checked code.

  A word is a `Fin n`; the wrapping operations of `Fin` are not used.  Each
  operation has one lemma that gives the value of a successful result.
-/
import CasperProof.Lib.Fallible
import Mathlib.Data.Fin.Basic

namespace CasperProof

variable {ε : Type} {n : ℕ}

/-- `a + b`, or `e` on overflow. -/
def checkedAdd (e : ε) (a b : Fin n) : Except ε (Fin n) :=
  if h : a.val + b.val < n then .ok ⟨a.val + b.val, h⟩ else .error e

/-- `a - b`, or `e` on underflow. -/
def checkedSub (e : ε) (a b : Fin n) : Except ε (Fin n) :=
  if b.val ≤ a.val then .ok ⟨a.val - b.val, by omega⟩ else .error e

/-- `a * b`, or `e` on overflow. -/
def checkedMul (e : ε) (a b : Fin n) : Except ε (Fin n) :=
  if h : a.val * b.val < n then .ok ⟨a.val * b.val, h⟩ else .error e

/-- `a / k` for a literal divisor `k`. -/
def wordDiv (a : Fin n) (k : ℕ) : Fin n := ⟨a.val / k, (Nat.div_le_self ..).trans_lt a.isLt⟩

/-- `a + b`, clipped at the largest word. -/
def saturatingAdd (a b : Fin n) : Fin n := ⟨min (a.val + b.val) (n - 1), by omega⟩

/-- `a * k`, clipped at the largest word. -/
def saturatingMul (a : Fin n) (k : ℕ) : Fin n := ⟨min (a.val * k) (n - 1), by have := a.isLt; omega⟩

@[simp] theorem checkedAdd_eq_ok {e : ε} {a b c : Fin n} :
    checkedAdd e a b = .ok c ↔ c.val = a.val + b.val := by
  unfold checkedAdd
  split
  · simp [Fin.ext_iff, eq_comm]
  · simp only [reduceCtorEq, false_iff]; have := c.isLt; omega

@[simp] theorem checkedSub_eq_ok {e : ε} {a b c : Fin n} :
    checkedSub e a b = .ok c ↔ c.val + b.val = a.val := by
  unfold checkedSub
  split
  · simp only [Except.ok.injEq, Fin.ext_iff]; omega
  · simp only [reduceCtorEq, false_iff]; omega

@[simp] theorem checkedMul_eq_ok {e : ε} {a b c : Fin n} :
    checkedMul e a b = .ok c ↔ c.val = a.val * b.val := by
  unfold checkedMul
  split
  · simp [Fin.ext_iff, eq_comm]
  · simp only [reduceCtorEq, false_iff]; have := c.isLt; omega

@[simp] theorem wordDiv_val (a : Fin n) (k : ℕ) : (wordDiv a k).val = a.val / k := rfl

@[simp] theorem saturatingAdd_val (a b : Fin n) :
    (saturatingAdd a b).val = min (a.val + b.val) (n - 1) := rfl

@[simp] theorem saturatingMul_val (a : Fin n) (k : ℕ) :
    (saturatingMul a k).val = min (a.val * k) (n - 1) := rfl

end CasperProof
