/-
  CEP-18 tokens as the contracts use them.

  * `TokenRef σ`: a `Cep18ContractRef` held by a contract whose world is `σ`.
    A call may do anything to `σ`, so that a token that calls back is a
    `TokenRef` too; the number tells the token calls of one entry point apart.
  * `Cep18 τ`: a token contract with state `τ`, and `Cep18.Standard`, the
    CEP-18 behaviour the contracts rely on: a call moves exactly the requested
    amount or reverts.
  * `Cep18.basic`: balances and allowances as the CEP-18 module keeps them, an
    instance of `Standard`.
-/
import CasperProof.Contracts.Types

namespace CasperProof

/-- A reference to a token contract. -/
structure TokenRef (σ : Type) where
  transferFrom : ℕ → Address → Address → U256 → σ → Except Revert σ
  transfer : ℕ → Address → U256 → σ → Except Revert σ

/-- A CEP-18 token contract; the first address is the caller. -/
structure Cep18 (τ : Type) where
  balanceOf : τ → Address → U256
  transfer : Address → Address → U256 → τ → Except Revert τ
  transferFrom : Address → Address → Address → U256 → τ → Except Revert τ

/-- `b'` is `b` with `n` moved from `x` to `y`. -/
def Moves (b b' : Address → U256) (x y : Address) (n : U256) : Prop :=
  n ≤ b x ∧ ∀ a, (b' a).val + (if a = x then n.val else 0) = (b a).val + (if a = y then n.val else 0)

/-- The CEP-18 standard: a transfer moves the requested amount or reverts, and
    succeeds if the sender has the amount and is not the recipient. -/
structure Cep18.Standard {τ : Type} (t : Cep18 τ) : Prop where
  transfer_moves : ∀ {x y n s s'}, t.transfer x y n s = .ok s' → Moves (t.balanceOf s) (t.balanceOf s') x y n
  transferFrom_moves : ∀ {c x y n s s'}, t.transferFrom c x y n s = .ok s' →
    Moves (t.balanceOf s) (t.balanceOf s') x y n
  transfer_succeeds : ∀ {x y n s}, n ≤ t.balanceOf s x → x ≠ y → ∃ s', t.transfer x y n s = .ok s'

namespace Moves
variable {b b' : Address → U256} {x y : Address} {n : U256}

theorem recipient (h : Moves b b' x y n) (hne : y ≠ x) : (b' y).val = (b y).val + n.val := by
  have := h.2 y
  simpa [hne] using this

theorem sender (h : Moves b b' x y n) (hne : x ≠ y) : (b' x).val + n.val = (b x).val := by
  have := h.2 x
  simpa [hne] using this

/-- A movement keeps the total supply. -/
theorem sum_eq (h : Moves b b' x y n) : ∑ a, (b' a).val = ∑ a, (b a).val := by
  have hs : ∑ a, ((b' a).val + if a = x then n.val else 0) =
      ∑ a, ((b a).val + if a = y then n.val else 0) := Finset.sum_congr rfl fun a _ => h.2 a
  simpa [Finset.sum_add_distrib] using hs

end Moves

/-! ## Token movements -/

/-- A token movement of a contract: an amount pulled from an account, or paid
    to one. -/
inductive Move where
  | pull (owner : Address) (amount : ℕ)
  | pay (recipient : Address) (amount : ℕ)
deriving DecidableEq

namespace Move

def pulled : Move → ℕ
  | pull _ n => n
  | pay _ _ => 0

def paid : Move → ℕ
  | pull _ _ => 0
  | pay _ n => n

/-- The other party of a movement. -/
def party : Move → Address
  | pull a _ | pay a _ => a

/-- What `a` receives from a movement. -/
def paidTo (a : Address) : Move → ℕ
  | pull _ _ => 0
  | pay b n => if b = a then n else 0

/-- What `a` gives in a movement. -/
def pulledFrom (a : Address) : Move → ℕ
  | pull b n => if b = a then n else 0
  | pay _ _ => 0

/-- The total pulled in by a list of movements. -/
def totalPulled (ms : List Move) : ℕ := (ms.map pulled).sum

/-- The total paid out by a list of movements. -/
def totalPaid (ms : List Move) : ℕ := (ms.map paid).sum

/-- The total paid out to `a`. -/
def totalPaidTo (a : Address) (ms : List Move) : ℕ := (ms.map (paidTo a)).sum

/-- The total pulled in from `a`. -/
def totalPulledFrom (a : Address) (ms : List Move) : ℕ := (ms.map (pulledFrom a)).sum

section
variable (a : Address) (n : ℕ) (ms ms' : List Move)

@[simp] theorem totalPulled_nil : totalPulled [] = 0 := rfl
@[simp] theorem totalPulled_pull : totalPulled (.pull a n :: ms) = n + totalPulled ms := by
  simp [totalPulled, pulled]
@[simp] theorem totalPulled_pay : totalPulled (.pay a n :: ms) = totalPulled ms := by
  simp [totalPulled, pulled]
@[simp] theorem totalPulled_append : totalPulled (ms ++ ms') = totalPulled ms + totalPulled ms' := by
  simp [totalPulled]

@[simp] theorem totalPaid_nil : totalPaid [] = 0 := rfl
@[simp] theorem totalPaid_pull : totalPaid (.pull a n :: ms) = totalPaid ms := by
  simp [totalPaid, paid]
@[simp] theorem totalPaid_pay : totalPaid (.pay a n :: ms) = n + totalPaid ms := by
  simp [totalPaid, paid]
@[simp] theorem totalPaid_append : totalPaid (ms ++ ms') = totalPaid ms + totalPaid ms' := by
  simp [totalPaid]

variable (b : Address)

@[simp] theorem totalPaidTo_nil : totalPaidTo a [] = 0 := rfl
@[simp] theorem totalPaidTo_pull : totalPaidTo b (.pull a n :: ms) = totalPaidTo b ms := by
  simp [totalPaidTo, paidTo]
@[simp] theorem totalPaidTo_pay : totalPaidTo b (.pay a n :: ms) = (if a = b then n else 0) + totalPaidTo b ms := by
  simp [totalPaidTo, paidTo]
@[simp] theorem totalPaidTo_append : totalPaidTo b (ms ++ ms') = totalPaidTo b ms + totalPaidTo b ms' := by
  simp [totalPaidTo]

@[simp] theorem totalPulledFrom_nil : totalPulledFrom a [] = 0 := rfl
@[simp] theorem totalPulledFrom_pull :
    totalPulledFrom b (.pull a n :: ms) = (if a = b then n else 0) + totalPulledFrom b ms := by
  simp [totalPulledFrom, pulledFrom]
@[simp] theorem totalPulledFrom_pay : totalPulledFrom b (.pay a n :: ms) = totalPulledFrom b ms := by
  simp [totalPulledFrom, pulledFrom]
@[simp] theorem totalPulledFrom_append :
    totalPulledFrom b (ms ++ ms') = totalPulledFrom b ms + totalPulledFrom b ms' := by
  simp [totalPulledFrom]

end

end Move

/-- A token state with the movements of the current call. -/
structure Tracked (τ : Type) where
  chain : τ
  moves : List Move

/-- The token went from `c₀` to `c` by moving exactly `ms` in and out of `me`. -/
inductive Executed {τ : Type} (t : Cep18 τ) (me : Address) (c₀ : τ) : List Move → τ → Prop
  | nil : Executed t me c₀ [] c₀
  | pull {ms c c' a n} : Executed t me c₀ ms c → Moves (t.balanceOf c) (t.balanceOf c') a me n →
      Executed t me c₀ (ms ++ [.pull a n.val]) c'
  | pay {ms c c' a n} : Executed t me c₀ ms c → Moves (t.balanceOf c) (t.balanceOf c') me a n →
      Executed t me c₀ (ms ++ [.pay a n.val]) c'

/-- The balance changes by what was pulled in minus what was paid out. -/
theorem Executed.balance {τ : Type} {t : Cep18 τ} {me : Address} {c₀ c : τ} {ms : List Move}
    (h : Executed t me c₀ ms c) (hp : ∀ m ∈ ms, m.party ≠ me) :
    (t.balanceOf c me).val + Move.totalPaid ms = (t.balanceOf c₀ me).val + Move.totalPulled ms := by
  induction h with
  | nil => simp
  | @pull ms c c' a n _ hm ih =>
    have := hm.recipient (hp (.pull a n.val) (by simp)).symm
    have := ih fun m hm' => hp m (by simp [hm'])
    simp only [Move.totalPaid_append, Move.totalPulled_append, Move.totalPaid_pull, Move.totalPulled_pull,
      Move.totalPaid_nil, Move.totalPulled_nil]
    omega
  | @pay ms c c' a n _ hm ih =>
    have := hm.sender (hp (.pay a n.val) (by simp)).symm
    have := ih fun m hm' => hp m (by simp [hm'])
    simp only [Move.totalPaid_append, Move.totalPulled_append, Move.totalPaid_pay, Move.totalPulled_pay,
      Move.totalPaid_nil, Move.totalPulled_nil]
    omega

/-- The balance is at least what was pulled in minus what was paid out, also
    if something was paid to `me` itself. -/
theorem Executed.balance_ge {τ : Type} {t : Cep18 τ} {me : Address} {c₀ c : τ} {ms : List Move}
    (h : Executed t me c₀ ms c) (hp : ∀ a n, .pull a n ∈ ms → a ≠ me) :
    (t.balanceOf c₀ me).val + Move.totalPulled ms ≤ (t.balanceOf c me).val + Move.totalPaid ms := by
  induction h with
  | nil => simp
  | @pull ms c c' a n _ hm ih =>
    have := hm.recipient (hp a n.val (by simp)).symm
    have := ih fun b m hmem => hp b m (List.mem_append_left _ hmem)
    simp only [Move.totalPaid_append, Move.totalPulled_append, Move.totalPaid_pull, Move.totalPulled_pull,
      Move.totalPaid_nil, Move.totalPulled_nil]
    omega
  | @pay ms c c' a n _ hm ih =>
    have hb := hm.2 me
    rw [if_pos rfl] at hb
    have := ih fun b m hmem => hp b m (List.mem_append_left _ hmem)
    simp only [Move.totalPaid_append, Move.totalPulled_append, Move.totalPaid_pay, Move.totalPulled_pay,
      Move.totalPaid_nil, Move.totalPulled_nil]
    omega

/-- An account's balance changes by what it receives minus what it gives. -/
theorem Executed.balance_party {τ : Type} {t : Cep18 τ} {me : Address} {c₀ c : τ} {ms : List Move}
    (h : Executed t me c₀ ms c) {a : Address} (ha : a ≠ me) :
    (t.balanceOf c a).val + Move.totalPulledFrom a ms = (t.balanceOf c₀ a).val + Move.totalPaidTo a ms := by
  induction h with
  | nil => simp
  | @pull ms c c' b n _ hm ih =>
    have hb := hm.2 a
    rw [if_neg ha] at hb
    simp only [Move.totalPulledFrom_append, Move.totalPaidTo_append, Move.totalPulledFrom_pull,
      Move.totalPulledFrom_nil, Move.totalPaidTo_pull, Move.totalPaidTo_nil, eq_comm (a := b)]
    omega
  | @pay ms c c' b n _ hm ih =>
    have hb := hm.2 a
    rw [if_neg ha] at hb
    simp only [Move.totalPulledFrom_append, Move.totalPaidTo_append, Move.totalPulledFrom_pay,
      Move.totalPulledFrom_nil, Move.totalPaidTo_pay, Move.totalPaidTo_nil, eq_comm (a := b)]
    omega

namespace Cep18
variable {τ : Type} (t : Cep18 τ) (me : Address)

/-- `transfer_from` into `me`, recorded. -/
def pull (owner : Address) (n : U256) (k : Tracked τ) : Except Revert (Tracked τ) := do
  let chain ← t.transferFrom me owner me n k.chain
  pure ⟨chain, k.moves ++ [.pull owner n.val]⟩

/-- `transfer` from `me`, recorded. -/
def pay (recipient : Address) (n : U256) (k : Tracked τ) : Except Revert (Tracked τ) := do
  let chain ← t.transfer me recipient n k.chain
  pure ⟨chain, k.moves ++ [.pay recipient n.val]⟩

variable {t me} {a : Address} {n : U256} {k k' : Tracked τ}

theorem pull_moves (h : t.pull me a n k = .ok k') : k'.moves = k.moves ++ [.pull a n.val] := by
  simp only [pull, bind_eq_ok, pure_eq_ok] at h
  obtain ⟨c, -, rfl⟩ := h; rfl

theorem pay_moves (h : t.pay me a n k = .ok k') : k'.moves = k.moves ++ [.pay a n.val] := by
  simp only [pay, bind_eq_ok, pure_eq_ok] at h
  obtain ⟨c, -, rfl⟩ := h; rfl

theorem pull_chain (h : t.pull me a n k = .ok k') : t.transferFrom me a me n k.chain = .ok k'.chain := by
  simp only [pull, bind_eq_ok, pure_eq_ok] at h
  obtain ⟨c, hc, rfl⟩ := h; exact hc

theorem pay_chain (h : t.pay me a n k = .ok k') : t.transfer me a n k.chain = .ok k'.chain := by
  simp only [pay, bind_eq_ok, pure_eq_ok] at h
  obtain ⟨c, hc, rfl⟩ := h; exact hc

theorem pull_executed (ht : t.Standard) (h : t.pull me a n k = .ok k') {c₀ : τ}
    (hk : Executed t me c₀ k.moves k.chain) : Executed t me c₀ k'.moves k'.chain := by
  simp only [pull, bind_eq_ok, pure_eq_ok] at h
  obtain ⟨c, hc, rfl⟩ := h
  exact hk.pull (ht.transferFrom_moves hc)

theorem pay_executed (ht : t.Standard) (h : t.pay me a n k = .ok k') {c₀ : τ}
    (hk : Executed t me c₀ k.moves k.chain) : Executed t me c₀ k'.moves k'.chain := by
  simp only [pay, bind_eq_ok, pure_eq_ok] at h
  obtain ⟨c, hc, rfl⟩ := h
  exact hk.pay (ht.transfer_moves hc)

theorem pay_succeeds (ht : t.Standard) (hn : n ≤ t.balanceOf k.chain me) (hne : a ≠ me) :
    ∃ k', t.pay me a n k = .ok k' := by
  obtain ⟨c, hc⟩ := ht.transfer_succeeds hn hne.symm
  exact ⟨⟨c, k.moves ++ [.pay a n.val]⟩, by simp [pay, hc, pure, Except.pure]⟩

end Cep18

/-! ## A concrete token -/

/-- Balances and allowances; the total supply is a word. -/
structure Cep18State where
  balances : Address → U256
  allowances : Address → Address → U256
  supply : ∑ a, (balances a).val < 2 ^ 256

namespace Cep18State

theorem add_le_supply (s : Cep18State) {x y : Address} (h : x ≠ y) :
    (s.balances x).val + (s.balances y).val < 2 ^ 256 := by
  have h₁ := Finset.add_sum_erase Finset.univ (fun a => (s.balances a).val) (Finset.mem_univ x)
  have h₂ := Finset.add_sum_erase (Finset.univ.erase x) (fun a => (s.balances a).val)
    (Finset.mem_erase.2 ⟨h.symm, Finset.mem_univ y⟩)
  have := s.supply
  omega

/-- The balances after moving `n` from `x` to `y`. -/
def moved (s : Cep18State) {x y : Address} {n : U256} (hn : n ≤ s.balances x) (h : x ≠ y) :
    Address → U256 := fun a =>
  if a = x then ⟨(s.balances x).val - n.val, by omega⟩
  else if a = y then ⟨(s.balances y).val + n.val, by
    have := s.add_le_supply h; rw [Fin.le_def] at hn; omega⟩
  else s.balances a

theorem moved_moves (s : Cep18State) {x y : Address} {n : U256} (hn : n ≤ s.balances x) (h : x ≠ y) :
    Moves s.balances (s.moved hn h) x y n := by
  refine ⟨hn, fun a => ?_⟩
  rw [Fin.le_def] at hn
  by_cases hx : a = x
  · subst hx; simp [moved, h]; omega
  · by_cases hy : a = y
    · subst hy; simp [moved, hx]
    · simp [moved, hx, hy]

/-- `raw_transfer`: move `n` from `x` to `y`. -/
def rawTransfer {x y : Address} (h : x ≠ y) (n : U256) (s : Cep18State) : Except Revert Cep18State :=
  if hn : n ≤ s.balances x then
    .ok ⟨s.moved hn h, s.allowances, by rw [(s.moved_moves hn h).sum_eq]; exact s.supply⟩
  else .error (.user 60001)

/-- The allowance of `c` on `x`'s tokens becomes `n`. -/
def setAllowance (s : Cep18State) (x c : Address) (n : U256) : Cep18State :=
  { s with allowances := Function.update s.allowances x (Function.update (s.allowances x) c n) }

/-- `transfer` by `c`. -/
def transfer (c y : Address) (n : U256) (s : Cep18State) : Except Revert Cep18State :=
  if h : c = y then .error (.user 60003) else s.rawTransfer h n

/-- `transfer_from` of `x`'s tokens by the spender `c`. -/
def transferFrom (c x y : Address) (n : U256) (s : Cep18State) : Except Revert Cep18State :=
  if h : x = y then .error (.user 60003)
  else do
    let left ← checkedSub (.user 60002) (s.allowances x c) n
    (s.setAllowance x c left).rawTransfer h n

theorem rawTransfer_moves {x y : Address} {h : x ≠ y} {n : U256} {s s' : Cep18State}
    (hr : rawTransfer h n s = .ok s') : Moves s.balances s'.balances x y n := by
  unfold rawTransfer at hr
  split at hr
  · rename_i hn; cases hr; exact s.moved_moves hn h
  · cases hr

theorem transfer_moves {c y : Address} {n : U256} {s s' : Cep18State}
    (h : s.transfer c y n = .ok s') : Moves s.balances s'.balances c y n := by
  unfold transfer at h
  split at h
  · cases h
  · exact rawTransfer_moves h

theorem transferFrom_moves {c x y : Address} {n : U256} {s s' : Cep18State}
    (h : s.transferFrom c x y n = .ok s') : Moves s.balances s'.balances x y n := by
  unfold transferFrom at h
  split at h
  · cases h
  · obtain ⟨left, -, h⟩ := bind_eq_ok.1 h
    exact (rawTransfer_moves h : Moves (s.setAllowance x c left).balances _ _ _ _)

theorem transferFrom_succeeds {c x y : Address} {n : U256} {s : Cep18State} (h : x ≠ y) (hn : n ≤ s.balances x)
    (hallowed : n ≤ s.allowances x c) : ∃ s', s.transferFrom c x y n = .ok s' := by
  have hsub : checkedSub (Revert.user 60002) (s.allowances x c) n = .ok ⟨(s.allowances x c).val - n.val, by omega⟩ :=
    checkedSub_eq_ok.2 (Nat.sub_add_cancel hallowed)
  rw [transferFrom, dif_neg h, hsub, ok_bind, rawTransfer]
  exact ⟨_, dif_pos hn⟩

/-- `init`: the deployer receives the initial supply. -/
def init (deployer : Address) (initialSupply : U256) : Cep18State where
  balances a := if a = deployer then initialSupply else 0
  allowances _ _ := 0
  supply := by
    have h : ∀ a, (if a = deployer then initialSupply else (0 : U256)).val =
        if a = deployer then initialSupply.val else 0 := fun a => by split <;> rfl
    simp only [h, Finset.sum_ite_eq', Finset.mem_univ, if_true]
    exact initialSupply.isLt

/-- `approve` by `owner`. -/
def approve (owner spender : Address) (n : U256) (s : Cep18State) : Cep18State :=
  s.setAllowance owner spender n

end Cep18State

/-- The CEP-18 module as a token contract. -/
def Cep18.basic : Cep18 Cep18State where
  balanceOf s := s.balances
  transfer c y n s := s.transfer c y n
  transferFrom c x y n s := s.transferFrom c x y n

theorem Cep18.basic_standard : Cep18.basic.Standard where
  transfer_moves := Cep18State.transfer_moves
  transferFrom_moves := Cep18State.transferFrom_moves
  transfer_succeeds {x y n s} hn h := by
    simp [basic, Cep18State.transfer, Cep18State.rawTransfer, h, show n ≤ s.balances x from hn]

end CasperProof
