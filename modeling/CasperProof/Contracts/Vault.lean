/-
  Vault accounting — the USDC held by the insurance contract.

  * `Step`: an entry-point call by any caller, with any registry to read
    attestations from, or a direct transfer to the vault.
  * `Entry`: what one call does to the books (policies, positions and the total
    stake) and to the token.
  * `vault_accounting`: the books balance after every run, and while no claim
    has been paid every LP can withdraw its position.
-/
import CasperProof.Lib.Run
import CasperProof.Contracts.Insurance

namespace CasperProof.Insurance

variable {τ : Type}

@[simps] def State.setToken (s : State τ) (token : τ) : State τ := { s with token }

/-- The USDC token `t` as the vault at `me` sees it. -/
def usdcRef (t : Cep18 τ) (me : Address) : UsdcRef (State (Tracked τ)) where
  transferFrom _ owner _ n s := do pure (s.setToken (← t.pull me owner n s.token))
  transfer _ recipient n s := do pure (s.setToken (← t.pay me recipient n s.token))
  balanceOf a s := t.balanceOf s.token.chain a

/-- The contract, and the total of direct transfers to it. -/
structure World (τ : Type) where
  ins : State (Tracked τ)
  direct : ℕ

inductive Label where
  | call (env : CallEnv) (c : Call) (moves : List Move)
  | direct (received : ℕ)
deriving DecidableEq

/-- The state in which a call starts: no movements yet. -/
def State.fresh (s : State (Tracked τ)) : State (Tracked τ) := s.setToken ⟨s.token.chain, []⟩

inductive Step (t : Cep18 τ) (me : Address) : World τ → Label → World τ → Prop
  | call {w env reg c ins} : env.selfAddress = me → env.caller ≠ me →
      c.run (usdcRef t me) reg env w.ins.fresh = .ok ins →
      Step t me w (.call env c ins.token.moves) ⟨ins, w.direct⟩
  | direct {w chain n} : (t.balanceOf chain me).val = (t.balanceOf w.ins.token.chain me).val + n →
      Step t me w (.direct n) ⟨w.ins.setToken ⟨chain, []⟩, w.direct + n⟩

/-- A vault just initialised. -/
structure Initial (t : Cep18 τ) (me : Address) (w : World τ) : Prop where
  deployed : ∃ usdcToken registry premiumBps claimModelId chain,
    init usdcToken registry premiumBps claimModelId (State.deployed (Tracked.mk chain [])) = .ok w.ins
  direct : w.direct = (t.balanceOf w.ins.token.chain me).val

/-! ## The books -/

def State.premiums (s : State τ) : ℕ := s.policies.sum fun p => p.premium.val

def State.claimedCoverage (s : State τ) : ℕ :=
  s.policies.sum fun p => if p.status = .claimed then p.coverage.val else 0

/-- What one call does to the books, and the movements it makes. -/
inductive Entry (env : CallEnv) (s s' : State τ) : Call → List Move → Prop
  | buyPolicy {coverage triggerTypes expiry} {premium : U256} :
      s'.policies = s.policies.set s.policyCount
        (newPolicy env coverage triggerTypes expiry premium s.policyCount) →
      s'.policyCount.val = s.policyCount.val + 1 →
      s'.positions = s.positions → s'.totalStaked = s.totalStaked →
      Entry env s s' (.buyPolicy coverage triggerTypes expiry) [.pull env.caller premium.val]
  | claim {policyId attestationId triggerType policy} :
      s.policies.get policyId = some policy → policy.status = .active →
      s'.policies = s.policies.set policyId (claimedPolicy policy) → s'.policyCount = s.policyCount →
      s'.positions = s.positions → s'.totalStaked = s.totalStaked →
      Entry env s s' (.claim policyId attestationId triggerType) [.pay env.caller policy.coverage.val]
  | stake {amount : U256} {pos : U256} :
      s'.policies = s.policies → s'.policyCount = s.policyCount →
      s'.positions = s.positions.set env.caller pos →
      pos.val = (s.positions.getD env.caller 0).val + amount.val →
      s'.totalStaked.val = s.totalStaked.val + amount.val →
      Entry env s s' (.stake amount) [.pull env.caller amount.val]
  | unstake {amount : U256} {pos : U256} :
      s'.policies = s.policies → s'.policyCount = s.policyCount →
      s'.positions = s.positions.set env.caller pos →
      pos.val + amount.val = (s.positions.getD env.caller 0).val →
      s'.totalStaked.val + amount.val = s.totalStaked.val →
      Entry env s s' (.unstake amount) [.pay env.caller amount.val]

/-- The total stake is the sum of the positions. -/
structure Balanced (s : State τ) : Prop where
  fresh : ∀ i, s.policyCount ≤ i → s.policies.get i = none
  positions : s.totalStaked.val = s.positions.sum Fin.val

section
variable {env : CallEnv} {s s' : State τ} {c : Call} {moves : List Move}

theorem getD_val (m : Mapping Address U256) (a : Address) :
    (m.getD a 0).val = (m.get a).elim 0 Fin.val := by
  rw [Mapping.getD]
  cases m.get a <;> rfl

/-- A policy is stored under an id that was handed out. -/
theorem Balanced.stored_lt (hs : Balanced s) {id : U64} {policy : Policy}
    (h : s.policies.get id = some policy) : id < s.policyCount := by
  by_contra hlt
  rw [hs.fresh id (not_lt.1 hlt)] at h
  cases h

/-- A position and the total stake change by the same amount. -/
theorem Balanced.setPosition (hs : Balanced s) {a : Address} {pos : U256} (hp : s'.policies = s.policies)
    (hc : s'.policyCount = s.policyCount) (hpos : s'.positions = s.positions.set a pos)
    (ht : s'.totalStaked.val + (s.positions.getD a 0).val = s.totalStaked.val + pos.val) : Balanced s' := by
  refine ⟨by rw [hp, hc]; exact hs.fresh, ?_⟩
  have hsum := Mapping.sum_set s.positions a pos Fin.val
  have hold := hs.positions
  rw [getD_val] at ht
  rw [hpos]
  omega

theorem Entry.balanced (h : Entry env s s' c moves) (hs : Balanced s) : Balanced s' := by
  cases h with
  | buyPolicy hp hc hpos ht =>
    refine ⟨fun i hi => ?_, by rw [ht, hpos, hs.positions]⟩
    rw [Fin.le_def] at hi
    have hne : i ≠ s.policyCount := by rintro rfl; omega
    rw [hp, Mapping.get_set_ne _ _ hne]
    exact hs.fresh i (by rw [Fin.le_def]; omega)
  | @claim policyId _ _ _ hget _ hp hc hpos ht =>
    refine ⟨fun i hi => ?_, by rw [ht, hpos, hs.positions]⟩
    rw [hc] at hi
    have hne : i ≠ policyId := fun h => absurd (hs.stored_lt hget) (not_lt.2 (h ▸ hi))
    rw [hp, Mapping.get_set_ne _ _ hne]
    exact hs.fresh i hi
  | stake hp hc hpos hval ht => exact hs.setPosition hp hc hpos (by omega)
  | unstake hp hc hpos hval ht => exact hs.setPosition hp hc hpos (by omega)

/-- **Conservation.**  The stake and the premiums grow by what comes in, the
    claimed coverage by what goes out. -/
theorem Entry.conserves (h : Entry env s s' c moves) (hs : Balanced s) :
    s'.totalStaked.val + s'.premiums + s.claimedCoverage + Move.totalPaid moves =
      s.totalStaked.val + s.premiums + s'.claimedCoverage + Move.totalPulled moves := by
  unfold State.premiums State.claimedCoverage
  cases h with
  | @buyPolicy coverage triggerTypes expiry premium hp hc hpos ht =>
    have hfresh := hs.fresh _ le_rfl
    rw [hp, ht, Mapping.sum_set_none hfresh, Mapping.sum_set_none hfresh]
    simp [newPolicy]; omega
  | @claim policyId attestationId triggerType policy hget hst hp hc hpos ht =>
    have hprem := Mapping.sum_set s.policies policyId (claimedPolicy policy) fun p => p.premium.val
    have hcov := Mapping.sum_set s.policies policyId (claimedPolicy policy)
      fun p => if p.status = .claimed then p.coverage.val else 0
    rw [hget] at hprem hcov
    simp [claimedPolicy, hst] at hprem hcov
    rw [hp, ht]
    simp [claimedPolicy]; omega
  | stake hp hc hpos hval ht => rw [hp]; simp; omega
  | unstake hp hc hpos hval ht => rw [hp]; simp; omega

/-- Every movement is with the caller. -/
theorem Entry.party (h : Entry env s s' c moves) : ∀ m ∈ moves, m.party = env.caller := by
  cases h <;> simp [Move.party]

end

/-! ## What one call does -/

/-- What a successful call does to the books, the configuration and the token. -/
structure Effect (t : Cep18 τ) (me : Address) (env : CallEnv) (c : Call) (s s' : State (Tracked τ)) : Prop where
  entry : Entry env s s' c s'.token.moves
  usdcToken : s'.usdcToken = s.usdcToken
  registry : s'.registry = s.registry
  claimModelId : s'.claimModelId = s.claimModelId
  executed : t.Standard → ∀ c₀, Executed t me c₀ s.token.moves s.token.chain →
    Executed t me c₀ s'.token.moves s'.token.chain

section
variable {t : Cep18 τ} {me : Address} {reg : Address → U64 → Except Revert Attestation} {env : CallEnv}
  {s s' : State (Tracked τ)}

@[simp] theorem usdcRef_transferFrom {n : ℕ} {a r : Address} {amount : U256} :
    (usdcRef t me).transferFrom n a r amount s = .ok s' ↔
      ∃ k, t.pull me a amount s.token = .ok k ∧ s.setToken k = s' := by
  simp only [usdcRef, bind_eq_ok, pure_eq_ok]

@[simp] theorem usdcRef_transfer {n : ℕ} {a : Address} {amount : U256} :
    (usdcRef t me).transfer n a amount s = .ok s' ↔
      ∃ k, t.pay me a amount s.token = .ok k ∧ s.setToken k = s' := by
  simp only [usdcRef, bind_eq_ok, pure_eq_ok]

/-- **What one call does.** -/
theorem call_effect {c : Call} (hm : s.token.moves = []) (h : c.run (usdcRef t me) reg env s = .ok s') :
    Effect t me env c s s' := by
  cases c with
  | buyPolicy coverage triggerTypes expiry =>
    simp only [Call.run, bind_eq_ok, pure_eq_ok] at h
    obtain ⟨⟨id, s''⟩, h, rfl⟩ := h
    obtain ⟨a, s₁, count, bps, -, -, -, ht, rfl, hcount, rfl⟩ := buyPolicy_ok.1 h
    obtain ⟨k, hk, rfl⟩ := usdcRef_transferFrom.1 ht
    have hmv := Cep18.pull_moves hk
    rw [hm] at hmv
    refine ⟨?_, rfl, rfl, rfl, fun ht' c₀ hx => Cep18.pull_executed ht' hk hx⟩
    simp only [State.emit_token, State.setPolicyCount_token, State.setPolicy_token, State.setToken_token, hmv,
      List.nil_append]
    exact .buyPolicy rfl hcount rfl rfl
  | claim policyId attestationId triggerType =>
    obtain ⟨policy, s₁, hget, hcl, ht, rfl⟩ := claim_ok.1 h
    obtain ⟨k, hk, rfl⟩ := usdcRef_transfer.1 ht
    have hmv := Cep18.pay_moves hk
    simp only [State.setPolicy_token, hm, List.nil_append] at hmv
    refine ⟨?_, rfl, rfl, rfl, fun ht' c₀ hx => Cep18.pay_executed ht' hk hx⟩
    simp only [State.emit_token, State.setToken_token, hmv, ← hcl.holder]
    exact .claim hget hcl.active rfl rfl rfl rfl
  | stake amount =>
    obtain ⟨a, s₁, pos, total, -, -, ht, hpos, htotal, rfl⟩ := stake_ok.1 h
    obtain ⟨k, hk, rfl⟩ := usdcRef_transferFrom.1 ht
    have hmv := Cep18.pull_moves hk
    rw [hm] at hmv
    refine ⟨?_, rfl, rfl, rfl, fun ht' c₀ hx => Cep18.pull_executed ht' hk hx⟩
    simp only [State.emit_token, State.setTotalStaked_token, State.setPosition_token, State.setToken_token, hmv,
      List.nil_append]
    exact .stake rfl rfl rfl hpos htotal
  | unstake amount =>
    obtain ⟨a, s₁, rest, total, -, -, -, hpos, htotal, ht, rfl⟩ := unstake_ok.1 h
    obtain ⟨k, hk, rfl⟩ := usdcRef_transfer.1 ht
    have hmv := Cep18.pay_moves hk
    simp only [State.setTotalStaked_token, State.setPosition_token, hm, List.nil_append] at hmv
    refine ⟨?_, rfl, rfl, rfl, fun ht' c₀ hx => Cep18.pay_executed ht' hk hx⟩
    simp only [State.emit_token, State.setToken_token, hmv]
    exact .unstake rfl rfl rfl hpos htotal

/-- The vault's balance follows the movements of a call. -/
theorem Effect.balance {c : Call} (he : Effect t me env c s.fresh s') (ht : t.Standard) (hcaller : env.caller ≠ me) :
    (t.balanceOf s'.token.chain me).val + Move.totalPaid s'.token.moves =
      (t.balanceOf s.token.chain me).val + Move.totalPulled s'.token.moves := by
  refine (he.executed ht s.token.chain .nil).balance fun m hmem => ?_
  rw [he.entry.party m hmem]
  exact hcaller

/-- Who made the call of an event. -/
def Event.caller : Event → Address
  | .policyPurchased _ holder _ _ _ | .claimPaid _ _ holder _ _ => holder
  | .staked staker _ _ | .unstaked staker _ _ => staker

/-- A call emits one event, for its caller; only claims emit `ClaimPaid`. -/
theorem call_events {c : Call} (h : c.run (usdcRef t me) reg env s = .ok s') :
    ∃ e, s'.events = s.events ++ [e] ∧ e.caller = env.caller ∧ ∀ policyId id holder amount triggerType,
      e = .claimPaid policyId id holder amount triggerType → c = .claim policyId id triggerType := by
  cases c with
  | buyPolicy coverage triggerTypes expiry =>
    simp only [Call.run, bind_eq_ok, pure_eq_ok] at h
    obtain ⟨⟨id, s''⟩, h, rfl⟩ := h
    obtain ⟨a, s₁, count, bps, -, -, -, ht, rfl, -, rfl⟩ := buyPolicy_ok.1 h
    obtain ⟨k, -, rfl⟩ := usdcRef_transferFrom.1 ht
    exact ⟨_, rfl, rfl, by simp⟩
  | claim policyId attestationId triggerType =>
    obtain ⟨policy, s₁, -, hcl, ht, rfl⟩ := claim_ok.1 h
    obtain ⟨k, -, rfl⟩ := usdcRef_transfer.1 ht
    refine ⟨_, rfl, hcl.holder.symm, ?_⟩
    rintro _ _ _ _ _ ⟨⟩
    rfl
  | stake amount =>
    obtain ⟨a, s₁, pos, total, -, -, ht, -, -, rfl⟩ := stake_ok.1 h
    obtain ⟨k, -, rfl⟩ := usdcRef_transferFrom.1 ht
    exact ⟨_, rfl, rfl, by simp⟩
  | unstake amount =>
    obtain ⟨a, s₁, rest, total, -, -, -, -, -, ht, rfl⟩ := unstake_ok.1 h
    obtain ⟨k, -, rfl⟩ := usdcRef_transfer.1 ht
    exact ⟨_, rfl, rfl, by simp⟩

/-- The vault pulls tokens in and pays them out; it does nothing else with the
    token. -/
theorem call_token {c : Call} {P : τ → Prop} (hpull : ∀ {a n k k'}, P k → t.transferFrom me a me n k = .ok k' → P k')
    (hpay : ∀ {a n k k'}, P k → t.transfer me a n k = .ok k' → P k')
    (h : c.run (usdcRef t me) reg env s = .ok s') (hs : P s.token.chain) : P s'.token.chain := by
  cases c with
  | buyPolicy coverage triggerTypes expiry =>
    simp only [Call.run, bind_eq_ok, pure_eq_ok] at h
    obtain ⟨⟨id, s''⟩, h, rfl⟩ := h
    obtain ⟨a, s₁, count, bps, -, -, -, ht, rfl, -, rfl⟩ := buyPolicy_ok.1 h
    obtain ⟨k, hk, rfl⟩ := usdcRef_transferFrom.1 ht
    exact hpull hs (Cep18.pull_chain hk)
  | claim policyId attestationId triggerType =>
    obtain ⟨policy, s₁, -, hcl, ht, rfl⟩ := claim_ok.1 h
    obtain ⟨k, hk, rfl⟩ := usdcRef_transfer.1 ht
    exact hpay hs (Cep18.pay_chain hk)
  | stake amount =>
    obtain ⟨a, s₁, pos, total, -, -, ht, -, -, rfl⟩ := stake_ok.1 h
    obtain ⟨k, hk, rfl⟩ := usdcRef_transferFrom.1 ht
    exact hpull hs (Cep18.pull_chain hk)
  | unstake amount =>
    obtain ⟨a, s₁, rest, total, -, -, -, -, -, ht, rfl⟩ := unstake_ok.1 h
    obtain ⟨k, hk, rfl⟩ := usdcRef_transfer.1 ht
    exact hpay hs (Cep18.pay_chain hk)

end

/-! ## The accounting invariant -/

structure Accounts (t : Cep18 τ) (me : Address) (w : World τ) : Prop where
  balanced : Balanced w.ins
  usdcToken : ∃ a, w.ins.usdcToken = some a
  balance : (t.balanceOf w.ins.token.chain me).val + w.ins.claimedCoverage =
    w.ins.totalStaked.val + w.ins.premiums + w.direct

section
variable {t : Cep18 τ} {me : Address} {w₀ w w' : World τ} {ls : List Label}

theorem Initial.accounts (h : Initial t me w) : Accounts t me w := by
  obtain ⟨⟨usdcToken, registry, premiumBps, claimModelId, chain, h⟩, hd⟩ := h
  obtain ⟨-, h⟩ := init_ok.1 h
  have hp : w.ins.policies = .empty := by rw [← h]; rfl
  have hpos : w.ins.positions = .empty := by rw [← h]; rfl
  have ht : w.ins.totalStaked = 0 := by rw [← h]
  refine ⟨⟨fun i _ => by rw [hp]; rfl, by rw [hpos, ht]; simp⟩, ⟨usdcToken, by rw [← h]⟩, ?_⟩
  rw [State.claimedCoverage, State.premiums, hp, ht, hd]
  simp

theorem Step.accounts {a : Label} (ht : t.Standard) (hw : Accounts t me w) (h : Step t me w a w') :
    Accounts t me w' := by
  cases h with
  | @call env reg c ins _ hcaller hr =>
    have he := call_effect rfl hr
    have hb : Balanced w.ins.fresh := ⟨hw.balanced.fresh, hw.balanced.positions⟩
    refine ⟨he.entry.balanced hb, ?_, ?_⟩
    · rw [show ins.usdcToken = w.ins.usdcToken from he.usdcToken]
      exact hw.usdcToken
    · have hbal := he.balance ht hcaller
      have hcons := he.entry.conserves hb
      have := hw.balance
      show (t.balanceOf ins.token.chain me).val + ins.claimedCoverage =
        ins.totalStaked.val + ins.premiums + w.direct
      have h₁ : w.ins.fresh.totalStaked = w.ins.totalStaked := rfl
      have h₂ : w.ins.fresh.premiums = w.ins.premiums := rfl
      have h₃ : w.ins.fresh.claimedCoverage = w.ins.claimedCoverage := rfl
      rw [h₁, h₂, h₃] at hcons
      omega
  | @direct chain n hbal =>
    refine ⟨⟨hw.balanced.fresh, hw.balanced.positions⟩, hw.usdcToken, ?_⟩
    have := hw.balance
    show (t.balanceOf chain me).val + w.ins.claimedCoverage =
      w.ins.totalStaked.val + w.ins.premiums + (w.direct + n)
    omega

theorem run_accounts (ht : t.Standard) (h₀ : Initial t me w₀) (h : Run (Step t me) w₀ ls w) :
    Accounts t me w :=
  h.inv h₀.accounts fun _ _ _ hw hs => hs.accounts ht hw

/-- A position is part of the total stake. -/
theorem Balanced.position_le {s : State τ} (h : Balanced s) (a : Address) :
    (s.positions.getD a 0).val ≤ s.totalStaked.val := by
  rw [h.positions, getD_val]
  cases hget : s.positions.get a with
  | none => exact Nat.zero_le _
  | some pos => exact Mapping.le_sum hget Fin.val

/-- A withdrawal of a whole position: the LP is paid it, and has none left. -/
structure Withdrawn (t : Cep18 τ) (env : CallEnv) (s s' : State (Tracked τ)) : Prop where
  position : stakedOf s' env.caller = 0
  totalStaked : s'.totalStaked.val + (stakedOf s env.caller).val = s.totalStaked.val
  paid : (t.balanceOf s'.token.chain env.caller).val =
    (t.balanceOf s.token.chain env.caller).val + (stakedOf s env.caller).val

/-- While nothing was claimed, an LP can withdraw its whole position. -/
theorem Accounts.can_withdraw (ht : t.Standard) (hw : Accounts t me w)
    (hclaim : w.ins.claimedCoverage = 0) {env : CallEnv} (hme : env.selfAddress = me)
    (hcaller : env.caller ≠ me) (hpos : stakedOf w.ins env.caller ≠ 0) :
    ∃ s', unstake (usdcRef t me) env (stakedOf w.ins env.caller) w.ins = .ok s' ∧ Withdrawn t env w.ins s' := by
  have hle : (stakedOf w.ins env.caller).val ≤ w.ins.totalStaked.val := hw.balanced.position_le env.caller
  have hbal := hw.balance
  obtain ⟨a, ha⟩ := hw.usdcToken
  set pos := stakedOf w.ins env.caller with hdef
  let total : U256 := ⟨w.ins.totalStaked.val - pos.val, by omega⟩
  have hfunds : pos ≤ t.balanceOf w.ins.token.chain me := by rw [Fin.le_def]; omega
  obtain ⟨k, hk⟩ := Cep18.pay_succeeds ht hfunds hcaller
  have htransfer : (usdcRef t me).transfer 0 env.caller pos ((w.ins.setPosition env.caller 0).setTotalStaked total) =
      .ok (((w.ins.setPosition env.caller 0).setTotalStaked total).setToken k) :=
    usdcRef_transfer.2 ⟨k, hk, rfl⟩
  have htotal : total.val + pos.val = w.ins.totalStaked.val := Nat.sub_add_cancel hle
  refine ⟨_, unstake_ok.2 ⟨a, _, 0, total, hpos, ha, hme ▸ hfunds, Nat.zero_add _, htotal, htransfer, rfl⟩, ?_, ?_, ?_⟩
  · simp [stakedOf, Mapping.getD, Mapping.get_set_self]
  · exact htotal
  · exact (ht.transfer_moves (Cep18.pay_chain hk)).recipient hcaller

/-- **Vault accounting.**  After every run the total stake is the sum of the
    positions and no withdrawal that passes the position check underflows it;
    the vault's balance and the coverage of the claimed policies are the total
    stake, the premiums and the direct transfers; and while no policy is claimed
    every LP can withdraw its whole position, and is paid it. -/
theorem vault_accounting (ht : t.Standard) (h₀ : Initial t me w₀) (h : Run (Step t me) w₀ ls w) :
    w.ins.totalStaked.val = w.ins.positions.sum Fin.val ∧
    (∀ a (amount : U256), amount ≤ w.ins.positions.getD a 0 → amount ≤ w.ins.totalStaked) ∧
    (t.balanceOf w.ins.token.chain me).val +
        w.ins.policies.sum (fun p => if p.status = .claimed then p.coverage.val else 0) =
      w.ins.totalStaked.val + w.ins.policies.sum (fun p => p.premium.val) + w.direct ∧
    ((∀ id p, w.ins.policies.get id = some p → p.status ≠ .claimed) →
      ∀ env : CallEnv, env.selfAddress = me → env.caller ≠ me → stakedOf w.ins env.caller ≠ 0 →
        ∃ s', unstake (usdcRef t me) env (stakedOf w.ins env.caller) w.ins = .ok s' ∧ Withdrawn t env w.ins s') := by
  have hw := run_accounts ht h₀ h
  refine ⟨hw.balanced.positions, fun a amount hle => ?_, hw.balance, fun hnone env hme hcaller hpos => ?_⟩
  · exact hle.trans (Fin.le_def.2 (hw.balanced.position_le a))
  · refine hw.can_withdraw ht (Mapping.sum_eq_zero fun id p hget => ?_) hme hcaller hpos
    rw [if_neg (hnone id p hget)]

end

/-! ## A concrete run -/

def demoHolder : Address := .account 1
def demoVault : Address := .contract 8

/-- The holder holds USDC and lets the vault move it. -/
def demoUsdc : Cep18State := (Cep18State.init demoHolder 10000).approve demoHolder demoVault 10000

def demoIns : State (Tracked Cep18State) :=
  { State.deployed ⟨demoUsdc, []⟩ with
    usdcToken := some (.contract 5)
    registry := some (.contract 9)
    premiumBps := 500
    claimModelId := some "casperproof-claimoracle-v1" }

def demoWorld : World Cep18State := ⟨demoIns, 0⟩

def demoBacking : Attestation where
  id := 0
  attestor := .account 2
  modelId := "casperproof-claimoracle-v1"
  inputHash := .replicate 32 9
  outputHash := .replicate 32 8
  commitment := .replicate 32 7
  uri := "s3://casperproof/claim"
  stake := 1000
  createdAt := 0
  status := .active
  challenger := none
  challengeBond := 0
  challengedAt := 0

def demoEnv (blockTime : U64) : CallEnv := ⟨demoHolder, demoVault, blockTime⟩

theorem demo_initial : Initial Cep18.basic demoVault demoWorld :=
  ⟨⟨.contract 5, .contract 9, 500, "casperproof-claimoracle-v1", demoUsdc, rfl⟩, rfl⟩

/-- Capital comes in, a policy is bought and claimed. -/
theorem demo_runs : ∃ w₁ w₂, Run (Step Cep18.basic demoVault) demoWorld
      [.call (demoEnv 1) (.stake 300) [.pull demoHolder 300],
       .call (demoEnv 2) (.buyPolicy 101 ["oracle_failure"] 1000) [.pull demoHolder 5]] w₁ ∧
    Run (Step Cep18.basic demoVault) demoWorld
      [.call (demoEnv 1) (.stake 300) [.pull demoHolder 300],
       .call (demoEnv 2) (.buyPolicy 101 ["oracle_failure"] 1000) [.pull demoHolder 5],
       .call (demoEnv 3) (.claim 0 0 "oracle_failure") [.pay demoHolder 101]] w₂ ∧
    (∀ id p, w₁.ins.policies.get id = some p → p.status ≠ .claimed) ∧ stakedOf w₁.ins demoHolder = 300 := by
  have h₁ := Run.single (@Step.call _ Cep18.basic demoVault demoWorld (demoEnv 1)
    (fun _ _ => .ok demoBacking) (.stake 300) _ rfl (by decide) rfl)
  have h₂ := h₁.snoc (@Step.call _ Cep18.basic demoVault _ (demoEnv 2)
    (fun _ _ => .ok demoBacking) (.buyPolicy 101 ["oracle_failure"] 1000) _ rfl (by decide) rfl)
  have h₃ := h₂.snoc (@Step.call _ Cep18.basic demoVault _ (demoEnv 3)
    (fun _ _ => .ok demoBacking) (.claim 0 0 "oracle_failure") _ rfl (by decide) rfl)
  refine ⟨_, _, h₂, h₃, Mapping.forall_set ?_ ?_, rfl⟩
  · intro id p hget
    cases hget
  · simp [newPolicy]

theorem demo_run : ∃ w, Run (Step Cep18.basic demoVault) demoWorld
    [.call (demoEnv 1) (.stake 300) [.pull demoHolder 300],
     .call (demoEnv 2) (.buyPolicy 101 ["oracle_failure"] 1000) [.pull demoHolder 5],
     .call (demoEnv 3) (.claim 0 0 "oracle_failure") [.pay demoHolder 101]] w := by
  obtain ⟨_, w, -, h, -⟩ := demo_runs
  exact ⟨w, h⟩

/-- With a policy sold and not claimed, the LP withdraws all of its 300. -/
theorem vault_accounting_demo : ∃ ls w s', Run (Step Cep18.basic demoVault) demoWorld ls w ∧ ls ≠ [] ∧
    w.ins.totalStaked.val = w.ins.positions.sum Fin.val ∧
    unstake (usdcRef Cep18.basic demoVault) (demoEnv 3) 300 w.ins = .ok s' ∧
    Withdrawn Cep18.basic (demoEnv 3) w.ins s' := by
  obtain ⟨w, _, h, -, hnone, hstaked⟩ := demo_runs
  obtain ⟨hsum, -, -, hwithdraw⟩ := vault_accounting Cep18.basic_standard demo_initial h
  have hpos : stakedOf w.ins (demoEnv 3).caller = 300 := hstaked
  obtain ⟨s', hs', hw⟩ := hwithdraw hnone (demoEnv 3) rfl (by decide) (by rw [hpos]; decide)
  rw [hpos] at hs'
  exact ⟨_, w, s', h, by simp, hsum, hs', hw⟩

end CasperProof.Insurance
