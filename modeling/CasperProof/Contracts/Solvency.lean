/-
  Solvency — what a withdrawal leaves in the vault.

  `State.liveCoverage` is what the vault owes at a block time: the coverage of
  the policies that are active and not expired.  `unstake` compares the vault's
  balance with the amount alone, so that a withdrawal keeps the live coverage in
  the vault exactly if it is paid from the surplus over it (`FromSurplus`).
-/
import CasperProof.Contracts.Vault

namespace CasperProof.Insurance

variable {τ : Type} {t : Cep18 τ} {me : Address} {env : CallEnv} {amount : U256} {moves : List Move} {ls : List Label}
  {s : State (Tracked τ)} {w w' w₀ : World τ}

/-- The coverage of the policies that can still be claimed at `now`. -/
def State.liveCoverage {σ : Type} (now : U64) (s : State σ) : ℕ :=
  s.policies.sum fun p => if p.status = .active ∧ now ≤ p.expiry then p.coverage.val else 0

/-- The vault holds its live coverage. -/
def Covered (t : Cep18 τ) (me : Address) (now : U64) (s : State (Tracked τ)) : Prop :=
  s.liveCoverage now ≤ (t.balanceOf s.token.chain me).val

/-- The amount is part of what the vault holds beyond its live coverage. -/
def FromSurplus (t : Cep18 τ) (me : Address) (now : U64) (amount : U256) (s : State (Tracked τ)) : Prop :=
  s.liveCoverage now + amount.val ≤ (t.balanceOf s.token.chain me).val

/-- A withdrawal from a vault that holds its live coverage is from the surplus. -/
def Label.fromSurplus (t : Cep18 τ) (me : Address) (s : State (Tracked τ)) : Label → Prop
  | .call env (.unstake amount) _ => Covered t me env.blockTime s → FromSurplus t me env.blockTime amount s
  | _ => True

/-- A withdrawal takes its amount from the balance, and leaves the policies
    alone. -/
theorem Step.unstake_balance (ht : t.Standard) (h : Step t me w (.call env (.unstake amount) moves) w') :
    w'.ins.policies = w.ins.policies ∧
      (t.balanceOf w'.ins.token.chain me).val + amount.val = (t.balanceOf w.ins.token.chain me).val := by
  generalize ha : Label.call env (.unstake amount) moves = a at h
  cases h with
  | direct => cases ha
  | @call env' reg c ins _ hcaller hr =>
    cases ha
    have he := call_effect rfl hr
    have hbal := he.balance ht hcaller
    have hentry := he.entry
    generalize hmoves : ins.token.moves = moves at hentry hbal
    cases hentry with
    | unstake hp =>
      refine ⟨hp, ?_⟩
      simpa using hbal

theorem Step.unstake_covered_iff (ht : t.Standard) (h : Step t me w (.call env (.unstake amount) moves) w') :
    Covered t me env.blockTime w'.ins ↔ FromSurplus t me env.blockTime amount w.ins := by
  obtain ⟨hp, hbal⟩ := h.unstake_balance ht
  unfold Covered FromSurplus State.liveCoverage
  rw [hp]
  omega

/-- **Solvency.**  In every reachable state a withdrawal keeps the live coverage
    in the vault exactly if it is paid from the surplus; so that in a run whose
    withdrawals are, no capital is withdrawn from under a live policy. -/
theorem unstake_keeps_cover (ht : t.Standard) :
    (∀ w₀ ls w, Initial t me w₀ → Run (Step t me) w₀ ls w → ∀ env amount moves w',
      Step t me w (.call env (.unstake amount) moves) w' →
        ((Covered t me env.blockTime w.ins → Covered t me env.blockTime w'.ins) ↔
          (Covered t me env.blockTime w.ins → FromSurplus t me env.blockTime amount w.ins))) ∧
    ∀ w₀ ls w, Initial t me w₀ → Run (fun w a w' => Step t me w a w' ∧ a.fromSurplus t me w.ins) w₀ ls w →
      ∀ l₁ env amount moves l₂, ls = l₁ ++ .call env (.unstake amount) moves :: l₂ → ∃ w₁ w₂,
        Run (Step t me) w₀ l₁ w₁ ∧ Step t me w₁ (.call env (.unstake amount) moves) w₂ ∧ Run (Step t me) w₂ l₂ w ∧
          (Covered t me env.blockTime w₁.ins → Covered t me env.blockTime w₂.ins) := by
  constructor
  · intro w₀ ls w _ _ env amount moves w' hs
    rw [hs.unstake_covered_iff ht]
  · rintro w₀ ls w - h l₁ env amount moves l₂ rfl
    obtain ⟨w₁, w₂, h₁, ⟨hs, hsurplus⟩, h₂⟩ := h.split_cons
    refine ⟨w₁, w₂, h₁.mono fun _ _ _ hs => hs.1, hs, h₂.mono fun _ _ _ hs => hs.1, fun hc => ?_⟩
    exact (hs.unstake_covered_iff ht).2 (hsurplus hc)

/-! ## A concrete run -/

def demoLp : Address := .account 2

/-- The LP and the holder hold USDC and let the vault move it. -/
def demoSharedUsdc : Cep18State :=
  ((((Cep18State.init demoLp 10000).transfer demoLp demoHolder 1000).toOption.getD (.init demoLp 0)).approve demoHolder
    demoVault 1000).approve demoLp demoVault 9000

def demoSharedWorld : World Cep18State := ⟨{ demoIns with token := ⟨demoSharedUsdc, []⟩ }, 0⟩

theorem demoShared_initial : Initial Cep18.basic demoVault demoSharedWorld :=
  ⟨⟨.contract 5, .contract 9, 500, "casperproof-claimoracle-v1", demoSharedUsdc, rfl⟩, by decide +kernel⟩

def demoLpEnv (blockTime : U64) : CallEnv := ⟨demoLp, demoVault, blockTime⟩

def demoPolicy : Policy := newPolicy (demoEnv 2) 101 ["oracle_failure"] 1000 5 0

theorem demoPolicy_live {s : State (Tracked Cep18State)} (hp : s.policies = Mapping.empty.set 0 demoPolicy) :
    s.liveCoverage 3 = 101 := by
  unfold State.liveCoverage
  rw [hp, Mapping.sum_set_empty, if_pos ⟨rfl, by decide⟩]
  rfl

theorem step_of_call {c : Call} {ins : State (Tracked τ)} (reg : Address → U64 → Except Revert Attestation)
    (hself : env.selfAddress = me) (hcaller : env.caller ≠ me) (hr : c.run (usdcRef t me) reg env w.ins.fresh = .ok ins)
    (hmoves : ins.token.moves = moves) : ∃ w', Step t me w (.call env c moves) w' := by
  subst hmoves
  exact ⟨_, .call hself hcaller hr⟩

/-- The LP stakes 300, and the holder buys the policy; the LP can withdraw the
    surplus, and its whole stake. -/
theorem demo_covered_run : ∃ w, Run (Step Cep18.basic demoVault) demoSharedWorld
    [.call (demoLpEnv 1) (.stake 300) [.pull demoLp 300],
     .call (demoEnv 2) (.buyPolicy 101 ["oracle_failure"] 1000) [.pull demoHolder 5]] w ∧
    w.ins.policies = Mapping.empty.set 0 demoPolicy ∧ Cep18.basic.balanceOf w.ins.token.chain demoVault = 305 ∧
    (∃ w', Step Cep18.basic demoVault w (.call (demoLpEnv 3) (.unstake 204) [.pay demoLp 204]) w') ∧
    ∃ w', Step Cep18.basic demoVault w (.call (demoLpEnv 3) (.unstake 300) [.pay demoLp 300]) w' := by
  have h₁ := Run.single (@Step.call _ Cep18.basic demoVault demoSharedWorld (demoLpEnv 1)
    (fun _ _ => .ok demoBacking) (.stake 300) _ rfl (by decide) rfl)
  have h₂ := h₁.snoc (@Step.call _ Cep18.basic demoVault _ (demoEnv 2)
    (fun _ _ => .ok demoBacking) (.buyPolicy 101 ["oracle_failure"] 1000) _ rfl (by decide) rfl)
  refine ⟨_, h₂, rfl, rfl, ?_, ?_⟩
  · exact step_of_call (fun _ _ => .ok demoBacking) rfl (by decide) rfl rfl
  · exact step_of_call (fun _ _ => .ok demoBacking) rfl (by decide) rfl rfl

theorem demo_covered {w : World Cep18State} (hp : w.ins.policies = Mapping.empty.set 0 demoPolicy)
    (hbal : Cep18.basic.balanceOf w.ins.token.chain demoVault = 305) : Covered Cep18.basic demoVault 3 w.ins := by
  rw [Covered, demoPolicy_live hp, hbal]
  decide

/-- A withdrawal of the surplus keeps the policy covered. -/
theorem unstake_keeps_cover_demo : ∃ ls w w', Run (Step Cep18.basic demoVault) demoSharedWorld ls w ∧
    Step Cep18.basic demoVault w (.call (demoLpEnv 3) (.unstake 204) [.pay demoLp 204]) w' ∧
    w.ins.liveCoverage 3 = 101 ∧ Covered Cep18.basic demoVault 3 w'.ins := by
  obtain ⟨w, h, hp, hbal, ⟨w', hs⟩, -⟩ := demo_covered_run
  have hsurplus : FromSurplus Cep18.basic demoVault 3 204 w.ins := by
    rw [FromSurplus, demoPolicy_live hp, hbal]
    decide
  have hkeeps := (unstake_keeps_cover Cep18.basic_standard).1 _ _ w demoShared_initial h _ _ _ _ hs
  exact ⟨_, w, w', h, hs, demoPolicy_live hp, hkeeps.2 (fun _ => hsurplus) (demo_covered hp hbal)⟩

/-- The LP withdraws its whole stake from under the live policy. -/
theorem stake_walks_out : ∃ ls w w', Initial Cep18.basic demoVault demoSharedWorld ∧
    Run (Step Cep18.basic demoVault) demoSharedWorld ls w ∧
    Step Cep18.basic demoVault w (.call (demoLpEnv 3) (.unstake 300) [.pay demoLp 300]) w' ∧
    Covered Cep18.basic demoVault 3 w.ins ∧ w'.ins.liveCoverage 3 = 101 ∧
    (Cep18.basic.balanceOf w'.ins.token.chain demoVault).val = 5 := by
  obtain ⟨w, h, hp, hbal, -, w', hs⟩ := demo_covered_run
  obtain ⟨hp', hleft⟩ := hs.unstake_balance Cep18.basic_standard
  rw [hbal] at hleft
  exact ⟨_, w, w', demoShared_initial, h, hs, demo_covered hp hbal, demoPolicy_live (hp'.trans hp),
    Nat.add_right_cancel hleft⟩

end CasperProof.Insurance
