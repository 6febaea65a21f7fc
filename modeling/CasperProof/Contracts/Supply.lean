/-
  Tokens with a fixed supply.

  The contracts only see the `Cep18` part of a token.  Where its tokens come
  from is the rest of the module that `tokens.rs` wraps: the deployer gets the
  supply, and from then on it moves by calls of the accounts.

  * `Cep18Module τ`: a token module, and `Documented` what it promises.
  * `Issued out s`: the state was reached from a deployment by calls of the
    accounts in `out`.  They cannot move the tokens of an account that approved
    nobody (`Guarded`).
  * `Supplied`: the whole supply is in `out` and with one contract `me`, so that
    `out` can raise any payment to it (`Supplied.pull`) and any balance of it
    (`Supplied.top`).
-/
import CasperProof.Contracts.Token
import CasperProof.Lib.Run
import Mathlib.Logic.Relation

namespace CasperProof

variable {τ : Type}

/-- A token module; the first address of `approve` is the caller, that of `init`
    the deployer. -/
structure Cep18Module (τ : Type) extends Cep18 τ where
  allowance : τ → Address → Address → U256
  init : Address → U256 → τ
  approve : Address → Address → U256 → τ → Except Revert τ

/-- What the module documents: `init` mints the supply, `approve` sets an
    allowance, and `transfer_from` spends it. -/
structure Cep18Module.Documented (m : Cep18Module τ) : Prop extends m.toCep18.Standard where
  init_balance : ∀ deployer supply a, m.balanceOf (m.init deployer supply) a = if a = deployer then supply else 0
  init_allowance : ∀ deployer supply x c, m.allowance (m.init deployer supply) x c = 0
  transfer_allowance : ∀ {x y n s s'}, m.transfer x y n s = .ok s' → m.allowance s' = m.allowance s
  transferFrom_allowance : ∀ {c x y n s s'}, m.transferFrom c x y n s = .ok s' → ∀ a b,
    (m.allowance s' a b).val + (if a = x ∧ b = c then n.val else 0) = (m.allowance s a b).val
  transferFrom_succeeds : ∀ {c x y n s}, n ≤ m.balanceOf s x → n ≤ m.allowance s x c → x ≠ y →
    ∃ s', m.transferFrom c x y n s = .ok s'
  approve_sets : ∀ {x c n s s'}, m.approve x c n s = .ok s' → m.balanceOf s' = m.balanceOf s ∧
    ∀ a b, m.allowance s' a b = if a = x ∧ b = c then n else m.allowance s a b
  approve_succeeds : ∀ {x c n s}, x ≠ c → ∃ s', m.approve x c n s = .ok s'

/-- The entry points that change the token. -/
inductive TokenCall where
  | transfer (recipient : Address) (n : U256)
  | transferFrom (owner recipient : Address) (n : U256)
  | approve (spender : Address) (n : U256)

def TokenCall.run (m : Cep18Module τ) (caller : Address) : TokenCall → τ → Except Revert τ
  | transfer recipient n => m.transfer caller recipient n
  | transferFrom owner recipient n => m.transferFrom caller owner recipient n
  | approve spender n => m.approve caller spender n

/-- An account in `out` calls the token. -/
def Cep18Module.Called (m : Cep18Module τ) (out : Address → Prop) (s s' : τ) : Prop :=
  ∃ caller call, out caller ∧ TokenCall.run m caller call s = .ok s'

/-- A token that an account in `out` deployed, after any calls of `out`. -/
def Cep18Module.Issued (m : Cep18Module τ) (out : Address → Prop) (s : τ) : Prop :=
  ∃ deployer supply, out deployer ∧ Relation.ReflTransGen (m.Called out) (m.init deployer supply) s

/-- Nobody may move the tokens of `me`. -/
def Cep18Module.Guarded (m : Cep18Module τ) (me : Address) (s : τ) : Prop := ∀ c, m.allowance s me c = 0

/-- What `me` received from `s` to `s'`, if its balance did not fall. -/
def Cep18.received (t : Cep18 τ) (me : Address) (s s' : τ) : ℕ := (t.balanceOf s' me).val - (t.balanceOf s me).val

theorem Cep18.add_received {t : Cep18 τ} {me : Address} {s s' : τ} (h : t.balanceOf s me ≤ t.balanceOf s' me) :
    (t.balanceOf s me).val + t.received me s s' = (t.balanceOf s' me).val :=
  Nat.add_sub_cancel' h

theorem Cep18.received_add {t : Cep18 τ} {me : Address} {s s₁ s₂ : τ} (h₁ : t.balanceOf s me ≤ t.balanceOf s₁ me)
    (h₂ : t.balanceOf s₁ me ≤ t.balanceOf s₂ me) (direct : ℕ) :
    direct + t.received me s s₁ + t.received me s₁ s₂ = direct + t.received me s s₂ := by
  unfold received
  rw [Fin.le_def] at h₁ h₂
  omega

/-! ## Calls of the accounts -/

section
variable {m : Cep18Module τ} {out : Address → Prop} {me x y c : Address} {n : U256} {s s' : τ}

namespace Cep18Module

theorem Guarded.of_transfer (hm : m.Documented) (hg : m.Guarded me s) (h : m.transfer x y n s = .ok s') :
    m.Guarded me s' := by
  intro c
  rw [hm.transfer_allowance h]
  exact hg c

theorem Guarded.of_transferFrom (hm : m.Documented) (hg : m.Guarded me s) (h : m.transferFrom c x y n s = .ok s') :
    m.Guarded me s' := by
  intro b
  have hspent := hm.transferFrom_allowance h me b
  rw [hg b] at hspent
  exact Fin.ext (Nat.eq_zero_of_add_eq_zero_right hspent)

/-- Others do not move the tokens of `me`, and cannot approve in its name. -/
theorem Called.guarded (hm : m.Documented) (hme : ¬ out me) (hg : m.Guarded me s) (h : m.Called out s s') :
    m.Guarded me s' ∧ m.balanceOf s me ≤ m.balanceOf s' me := by
  obtain ⟨caller, call, hout, h⟩ := h
  have hne : me ≠ caller := fun heq => hme (heq ▸ hout)
  cases call with
  | transfer recipient n =>
    refine ⟨hg.of_transfer hm h, ?_⟩
    have hmoves := (hm.transfer_moves h).2 me
    rw [if_neg hne] at hmoves
    exact Fin.le_def.2 (by omega)
  | transferFrom owner recipient n =>
    refine ⟨hg.of_transferFrom hm h, ?_⟩
    have hmoves := (hm.transferFrom_moves h).2 me
    by_cases howner : me = owner
    · -- The spender has no allowance, so that it moved nothing.
      have hspent := hm.transferFrom_allowance h me caller
      rw [hg caller, if_pos ⟨howner, rfl⟩] at hspent
      rw [Nat.eq_zero_of_add_eq_zero_left hspent] at hmoves
      rw [Fin.le_def]
      split_ifs at hmoves <;> omega
    · rw [if_neg howner] at hmoves
      exact Fin.le_def.2 (by omega)
  | approve spender n =>
    obtain ⟨hbal, hallow⟩ := hm.approve_sets h
    refine ⟨fun c => ?_, by rw [hbal]⟩
    rw [hallow, if_neg fun heq => hne heq.1]
    exact hg c

theorem Issued.guarded (hm : m.Documented) (hme : ¬ out me) (h : m.Issued out s) : m.Guarded me s := by
  obtain ⟨deployer, supply, -, h⟩ := h
  induction h with
  | refl => exact hm.init_allowance deployer supply me
  | tail _ hcall ih => exact (hcall.guarded hm hme ih).1

/-- Calls of the token as steps of a larger system, which `after` describes once
    there was one. -/
theorem run_called {σ l : Type} {step : σ → l → σ → Prop} {w : σ} (after : τ → σ) (hm : m.Documented)
    (hme : ¬ out me) (hg : m.Guarded me s) (hfirst : ∀ {s₁}, m.Called out s s₁ → ∃ a, step w a (after s₁))
    (hnext : ∀ {s₁ s₂}, m.balanceOf s me ≤ m.balanceOf s₁ me → m.balanceOf s₁ me ≤ m.balanceOf s₂ me →
      m.Called out s₁ s₂ → ∃ a, step (after s₁) a (after s₂))
    (h : Relation.TransGen (m.Called out) s s') : ∃ ls, Run step w ls (after s') := by
  obtain ⟨ls, hr, -, -⟩ : ∃ ls, Run step w ls (after s') ∧ m.Guarded me s' ∧
      m.balanceOf s me ≤ m.balanceOf s' me := by
    induction h with
    | single hcalled =>
      obtain ⟨a, ha⟩ := hfirst hcalled
      exact ⟨[a], .single ha, hcalled.guarded hm hme hg⟩
    | tail _ hcalled ih =>
      obtain ⟨ls, hr, hg₁, hle₁⟩ := ih
      obtain ⟨hg₂, hle₂⟩ := hcalled.guarded hm hme hg₁
      obtain ⟨a, ha⟩ := hnext hle₁ hle₂ hcalled
      exact ⟨ls ++ [a], hr.snoc ha, hg₂, hle₁.trans hle₂⟩
  exact ⟨ls, hr⟩

end Cep18Module

/-! ## Raising funds -/

/-- The supply is the greatest word, and nobody but `me` and the accounts in
    `out` has any of it. -/
structure Supplied (m : Cep18Module τ) (out : Address → Prop) (me : Address) (s : τ) : Prop where
  total : ∑ a, (m.balanceOf s a).val = 2 ^ 256 - 1
  held : ∀ a, ¬ out a → a ≠ me → m.balanceOf s a = 0

/-- The greatest word. -/
def maxSupply : U256 := Fin.last _

theorem Supplied.init (hm : m.Documented) {deployer : Address} (h : out deployer) :
    Supplied m out me (m.init deployer maxSupply) := by
  constructor
  · have hval : ∀ a, (m.balanceOf (m.init deployer maxSupply) a).val = if a = deployer then 2 ^ 256 - 1 else 0 := by
      intro a
      rw [hm.init_balance]
      split <;> rfl
    simp only [hval, Finset.sum_ite_eq', Finset.mem_univ, if_true]
  · intro a ha _
    have hne : a ≠ deployer := fun heq => ha (heq ▸ h)
    rw [hm.init_balance, if_neg hne]

theorem Supplied.moves (h : Supplied m out me s) (hmoves : Moves (m.balanceOf s) (m.balanceOf s') x y n)
    (hx : out x ∨ x = me) (hy : out y ∨ y = me) : Supplied m out me s' := by
  refine ⟨hmoves.sum_eq.trans h.total, fun a ha hme => ?_⟩
  have hbal := hmoves.2 a
  have hnot : ∀ z, out z ∨ z = me → a ≠ z := by
    rintro z hz rfl
    exact hz.elim ha hme
  rw [if_neg (hnot x hx), if_neg (hnot y hy), h.held a ha hme] at hbal
  exact Fin.ext hbal

/-- What a contract moves to and from accounts in `out` stays there. -/
theorem Supplied.executed {ms : List Move} (h : Supplied m out me s) (hx : Executed m.toCep18 me s ms s')
    (hp : ∀ mv ∈ ms, out mv.party) : Supplied m out me s' := by
  induction hx with
  | nil => exact h
  | @pull ms c c' a n _ hmoves ih =>
    have ha : out a := hp (.pull a n.val) (by simp)
    exact (ih fun mv hmem => hp mv (List.mem_append_left _ hmem)).moves hmoves (.inl ha) (.inr rfl)
  | @pay ms c c' a n _ hmoves ih =>
    have ha : out a := hp (.pay a n.val) (by simp)
    exact (ih fun mv hmem => hp mv (List.mem_append_left _ hmem)).moves hmoves (.inr rfl) (.inl ha)

/-- One account sends another all it has. -/
theorem Supplied.give (hm : m.Documented) (h : Supplied m out me s) (hx : out x) (hy : out y) (hne : x ≠ y) :
    ∃ s', m.Called out s s' ∧ Supplied m out me s' ∧ m.balanceOf s' x = 0 ∧
      ∀ a, a ≠ x → a ≠ y → m.balanceOf s' a = m.balanceOf s a := by
  obtain ⟨s', hs'⟩ := hm.transfer_succeeds (le_refl (m.balanceOf s x)) hne
  have hmoves := hm.transfer_moves hs'
  refine ⟨s', ⟨x, .transfer y (m.balanceOf s x), hx, hs'⟩, h.moves hmoves (.inl hx) (.inl hy), ?_, fun a hax hay => ?_⟩
  · have hsent := hmoves.2 x
    rw [if_pos rfl, if_neg hne] at hsent
    exact Fin.ext (by rw [Fin.val_zero]; omega)
  · have hkeep := hmoves.2 a
    rw [if_neg hax, if_neg hay] at hkeep
    exact Fin.ext hkeep

/-- The accounts in `S` send all they have to the payer. -/
theorem exists_gathered (hm : m.Documented) {payer : Address} (S : Finset Address) (h : Supplied m out me s)
    (hme : ¬ out me) (hpayer : out payer) :
    ∃ s', Relation.ReflTransGen (m.Called out) s s' ∧ Supplied m out me s' ∧
      m.balanceOf s' me = m.balanceOf s me ∧ ∀ a ∈ S, out a → a ≠ payer → m.balanceOf s' a = 0 := by
  have hnot : ∀ a, out a → me ≠ a := by
    rintro a ha rfl
    exact hme ha
  induction S using Finset.induction_on with
  | empty => exact ⟨s, .refl, h, rfl, by simp⟩
  | insert x S _ ih =>
    obtain ⟨s₁, hcalls, hs₁, hbal, hzero⟩ := ih
    by_cases hx : out x ∧ x ≠ payer
    · obtain ⟨hout, hne⟩ := hx
      obtain ⟨s₂, hcall, hs₂, hx, hkeep⟩ := hs₁.give hm hout hpayer hne
      refine ⟨s₂, hcalls.tail hcall, hs₂, (hkeep me (hnot x hout) (hnot payer hpayer)).trans hbal,
        fun a ha haout hapayer => ?_⟩
      by_cases hax : a = x
      · rw [hax, hx]
      · rw [hkeep a hax hapayer]
        exact hzero a (Finset.mem_of_mem_insert_of_ne ha hax) haout hapayer
    · refine ⟨s₁, hcalls, hs₁, hbal, fun a ha haout hapayer => ?_⟩
      have hax : a ≠ x := fun heq => hx ⟨heq ▸ haout, heq ▸ hapayer⟩
      exact hzero a (Finset.mem_of_mem_insert_of_ne ha hax) haout hapayer

/-- One of them gets what the contract does not have. -/
theorem Supplied.gather (hm : m.Documented) {payer : Address} (h : Supplied m out me s) (hme : ¬ out me)
    (hpayer : out payer) : ∃ s', Relation.ReflTransGen (m.Called out) s s' ∧ Supplied m out me s' ∧
      m.balanceOf s' me = m.balanceOf s me ∧ (m.balanceOf s' payer).val + (m.balanceOf s me).val = 2 ^ 256 - 1 := by
  obtain ⟨s', hcalls, hs', hbal, hzero⟩ := exists_gathered hm Finset.univ h hme hpayer
  have hne : payer ≠ me := fun heq => hme (heq ▸ hpayer)
  have hsum : ∑ a, (m.balanceOf s' a).val = (m.balanceOf s' payer).val + (m.balanceOf s' me).val := by
    refine Finset.sum_eq_add payer me hne (fun a _ ha => ?_) (fun h => absurd (Finset.mem_univ _) h)
      fun h => absurd (Finset.mem_univ _) h
    by_cases hout : out a
    · rw [hzero a (Finset.mem_univ a) hout ha.1, Fin.val_zero]
    · rw [hs'.held a hout ha.2, Fin.val_zero]
  exact ⟨s', hcalls, hs', hbal, by rw [← hbal, ← hsum, hs'.total]⟩

/-- Every payment that the contract has room for can be made. -/
theorem Supplied.pull (hm : m.Documented) {payer : Address} (h : Supplied m out me s) (hme : ¬ out me)
    (hpayer : out payer) (hn : (m.balanceOf s me).val + n.val < 2 ^ 256) :
    ∃ s', Relation.TransGen (m.Called out) s s' ∧ Supplied m out me s' ∧ m.balanceOf s' me = m.balanceOf s me ∧
      ∃ k, m.pull me payer n ⟨s', []⟩ = .ok k := by
  obtain ⟨s₁, hcalls, hs₁, hbal, hrest⟩ := h.gather hm hme hpayer
  have hne : payer ≠ me := fun heq => hme (heq ▸ hpayer)
  obtain ⟨s', happrove⟩ := hm.approve_succeeds (n := n) (s := s₁) hne
  obtain ⟨hbal', hallow⟩ := hm.approve_sets happrove
  have hown : n ≤ m.balanceOf s' payer := by
    rw [hbal', Fin.le_def]
    omega
  have hallowed : n ≤ m.allowance s' payer me := by rw [hallow, if_pos ⟨rfl, rfl⟩]
  obtain ⟨s₂, hs₂⟩ := hm.transferFrom_succeeds hown hallowed hne
  refine ⟨s', .tail' hcalls ⟨payer, .approve me n, hpayer, happrove⟩, ⟨?_, ?_⟩, ?_, ⟨s₂, [.pull payer n.val]⟩, ?_⟩
  · rw [hbal']
    exact hs₁.total
  · rw [hbal']
    exact hs₁.held
  · rw [hbal', hbal]
  · simp only [Cep18.pull, bind_eq_ok, pure_eq_ok]
    exact ⟨s₂, hs₂, rfl⟩

/-- The contract can be sent what it lacks of an amount. -/
theorem Supplied.top (hm : m.Documented) {payer : Address} (h : Supplied m out me s) (hme : ¬ out me)
    (hpayer : out payer) (n : U256) :
    ∃ s', Relation.TransGen (m.Called out) s s' ∧ Supplied m out me s' ∧
      (m.balanceOf s' me).val = max (m.balanceOf s me).val n.val := by
  obtain ⟨s₁, hcalls, hs₁, hbal, hrest⟩ := h.gather hm hme hpayer
  have hne : payer ≠ me := fun heq => hme (heq ▸ hpayer)
  let lacks : U256 := ⟨n.val - (m.balanceOf s me).val, by omega⟩
  have hown : lacks ≤ m.balanceOf s₁ payer := by
    rw [Fin.le_def]
    show n.val - (m.balanceOf s me).val ≤ (m.balanceOf s₁ payer).val
    have hword := n.isLt
    omega
  obtain ⟨s', hs'⟩ := hm.transfer_succeeds hown hne
  have hmoves := hm.transfer_moves hs'
  refine ⟨s', .tail' hcalls ⟨payer, .transfer me lacks, hpayer, hs'⟩,
    hs₁.moves hmoves (.inl hpayer) (.inr rfl), ?_⟩
  rw [hmoves.recipient hne.symm, hbal]
  show (m.balanceOf s me).val + (n.val - (m.balanceOf s me).val) = _
  omega

end

/-! ## A concrete module -/

namespace Cep18State
variable {c x y : Address} {n : U256} {s s' : Cep18State}

theorem rawTransfer_allowances {h : x ≠ y} (hr : rawTransfer h n s = .ok s') : s'.allowances = s.allowances := by
  unfold rawTransfer at hr
  split at hr
  · cases hr
    rfl
  · cases hr

theorem transfer_allowances (h : s.transfer c y n = .ok s') : s'.allowances = s.allowances := by
  unfold transfer at h
  split at h
  · cases h
  · exact rawTransfer_allowances h

theorem setAllowance_allowances (s : Cep18State) (x c : Address) (n : U256) (a b : Address) :
    (s.setAllowance x c n).allowances a b = if a = x ∧ b = c then n else s.allowances a b := by
  by_cases ha : a = x
  · subst ha
    by_cases hb : b = c
    · subst hb
      simp [setAllowance]
    · simp [setAllowance, hb]
  · simp [setAllowance, ha]

theorem transferFrom_allowances (h : s.transferFrom c x y n = .ok s') (a b : Address) :
    (s'.allowances a b).val + (if a = x ∧ b = c then n.val else 0) = (s.allowances a b).val := by
  unfold transferFrom at h
  split at h
  · cases h
  · obtain ⟨left, hleft, h⟩ := bind_eq_ok.1 h
    rw [rawTransfer_allowances h, setAllowance_allowances]
    split
    · rename_i hab
      rw [hab.1, hab.2]
      exact checkedSub_eq_ok.1 hleft
    · rfl

end Cep18State

/-- Balances and allowances, as the module that `tokens.rs` wraps keeps them. -/
def Cep18Module.basic : Cep18Module Cep18State where
  toCep18 := .basic
  allowance s := s.allowances
  init := .init
  approve x c n s := if x = c then .error (.user 60003) else .ok (s.approve x c n)

theorem Cep18Module.basic_documented : Cep18Module.basic.Documented where
  toStandard := Cep18.basic_standard
  init_balance _ _ _ := rfl
  init_allowance _ _ _ _ := rfl
  transfer_allowance := Cep18State.transfer_allowances
  transferFrom_allowance := Cep18State.transferFrom_allowances
  transferFrom_succeeds hn hallowed h := Cep18State.transferFrom_succeeds h hn hallowed
  approve_sets {x c n s s'} h := by
    simp only [basic] at h
    split at h
    · cases h
    · cases h
      exact ⟨rfl, Cep18State.setAllowance_allowances s x c n⟩
  approve_succeeds {x c n s} h := ⟨s.approve x c n, if_neg h⟩

end CasperProof
