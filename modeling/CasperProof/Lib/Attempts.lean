/-
  Counted loops that may be left early — what one round does, and what a whole
  loop does.

  * `loop body left n s`: the rounds `n`, `n + 1`, … of `body` from the state
    `s`, at most `left` of them.
  * `loop_done`: the first round with a result ends the loop.
-/
import Mathlib.Tactic.Common

namespace CasperProof.Attempts

variable {σ ρ : Type}

/-- What a round does: leave the loop with a result, or go on. -/
inductive Exit (σ ρ : Type) where
  | done (r : ρ)
  | next (s : σ)

variable {body : ℕ → σ → Exit σ ρ}

/-- The rounds from `n` on. -/
def loop (body : ℕ → σ → Exit σ ρ) : ℕ → ℕ → σ → Exit σ ρ
  | 0, _, s => .next s
  | left + 1, n, s =>
    match body n s with
    | .done r => .done r
    | .next s => loop body left (n + 1) s

theorem loop_of_done {left n : ℕ} {s : σ} {r : ρ} (h : body n s = .done r) :
    loop body (left + 1) n s = .done r := by
  rw [loop, h]

theorem loop_of_next {left n : ℕ} {s s' : σ} (h : body n s = .next s') :
    loop body (left + 1) n s = loop body left (n + 1) s' := by
  rw [loop, h]

/-- The first rounds go on through the states `st`. -/
def GoesOn (body : ℕ → σ → Exit σ ρ) (st : ℕ → σ) (rounds : ℕ) : Prop :=
  ∀ n < rounds, body n (st n) = .next (st (n + 1))

/-- The loop after rounds that go on. -/
theorem loop_goesOn {st : ℕ → σ} {rounds : ℕ} (h : GoesOn body st rounds) (left : ℕ) :
    loop body (rounds + left) 0 (st 0) = loop body left rounds (st rounds) := by
  induction rounds generalizing left with
  | zero => rw [Nat.zero_add]
  | succ rounds ih =>
    have hbefore : GoesOn body st rounds := fun n hn => h n (Nat.lt_succ_of_lt hn)
    rw [Nat.add_assoc, ih hbefore, Nat.add_comm 1 left]
    exact loop_of_next (h rounds (Nat.lt_succ_self rounds))

/-- **The first round with a result ends the loop.** -/
theorem loop_done {st : ℕ → σ} {total k : ℕ} {r : ρ} (h : GoesOn body st k) (hk : body k (st k) = .done r)
    (hlt : k < total) : loop body total 0 (st 0) = .done r := by
  obtain ⟨left, rfl⟩ := Nat.exists_eq_add_of_lt hlt
  rw [Nat.add_assoc, loop_goesOn h]
  exact loop_of_done hk

end CasperProof.Attempts
