/-
  The event log of the vault, read by an auditor.

  The events say what is bought, claimed, staked and withdrawn, but not the
  triggers of a policy, nor when anything happens, nor what others send to the
  vault directly.  So the auditor's `balance` is the least that the vault may
  hold, and it is told the earliest time of an event (`clock`) by whoever reads
  the log.

  * `post`: one event is checked and posted.
  * `call_posts`: the event of every successful call is accepted, and the books
    then agree with the vault again.
-/
import CasperProof.Contracts.EventLog
import CasperProof.Contracts.Vault

namespace CasperProof.Insurance

open Registry (Refusal)

variable {τ : Type}

/-- What the log says about a policy. -/
structure LoggedPolicy where
  holder : Address
  coverage : U256
  premium : U256
  expiry : U64
  status : PolicyStatus
deriving DecidableEq

/-- The part of a policy that is logged. -/
@[simps] def loggedPolicy (policy : Policy) : LoggedPolicy where
  holder := policy.holder
  coverage := policy.coverage
  premium := policy.premium
  expiry := policy.expiry
  status := policy.status

/-- The auditor's books; `balance` is the least that the vault may hold. -/
structure VaultBooks where
  count : U64
  policies : Mapping U64 LoggedPolicy
  positions : Mapping Address U256
  totalStaked : U256
  balance : ℕ

def VaultBooks.empty : VaultBooks := ⟨0, .empty, .empty, 0, 0⟩

/-- One event is checked and posted; `bps` is the vault's premium rate, `me` its
    address. -/
def post (bps : U64) (me : Address) (clock : U64) (b : VaultBooks) : Event → Except Refusal VaultBooks
  | .policyPurchased id holder coverage premium expiry => do
    failIf (id ≠ b.count) .wrongId
    failIf (coverage = 0) .wrongAmount
    failIf (2 ^ 256 ≤ coverage.val * bps.val) .overflow
    failIf (premium.val ≠ coverage.val * bps.val / bpsDenom) .wrongAmount
    failIf (holder = me) .wrongParty
    failIf (2 ^ 256 ≤ b.balance + premium.val) .overflow
    let count ← checkedAdd .overflow id 1
    pure { b with
      count
      policies := b.policies.set id ⟨holder, coverage, premium, expiry, .active⟩
      balance := b.balance + premium.val }
  | .claimPaid policyId _ holder amount _ => do
    let policy ← orFail (b.policies.get policyId) .unknownRecord
    failIf (policy.status ≠ .active) .wrongStatus
    failIf (holder ≠ policy.holder) .wrongParty
    failIf (amount ≠ policy.coverage) .wrongAmount
    failIf (policy.expiry < clock) .wrongTime
    pure { b with
      policies := b.policies.set policyId { policy with status := .claimed }
      balance := b.balance - amount.val }
  | .staked staker amount total => do
    failIf (amount = 0) .wrongAmount
    failIf (staker = me) .wrongParty
    failIf (total.val ≠ b.totalStaked.val + amount.val) .wrongAmount
    failIf (2 ^ 256 ≤ b.balance + amount.val) .overflow
    let pos ← checkedAdd .overflow (b.positions.getD staker 0) amount
    pure { b with
      positions := b.positions.set staker pos
      totalStaked := total
      balance := b.balance + amount.val }
  | .unstaked staker amount total => do
    failIf (amount = 0) .wrongAmount
    failIf (staker = me) .wrongParty
    failIf (total.val + amount.val ≠ b.totalStaked.val) .wrongAmount
    let pos ← checkedSub .wrongAmount (b.positions.getD staker 0) amount
    pure { b with
      positions := b.positions.set staker pos
      totalStaked := total
      balance := b.balance - amount.val }

/-! ## When an event is accepted -/

section
variable {bps clock id policyId attestationId : U64} {me holder staker : Address} {b b' : VaultBooks}
  {coverage premium amount total : U256} {expiry : U64} {triggerType : String}

theorem post_purchased :
    post bps me clock b (.policyPurchased id holder coverage premium expiry) = .ok b' ↔
      id = b.count ∧ coverage ≠ 0 ∧ coverage.val * bps.val < 2 ^ 256 ∧
        premium.val = coverage.val * bps.val / bpsDenom ∧ holder ≠ me ∧ b.balance + premium.val < 2 ^ 256 ∧
        ∃ count, count.val = id.val + 1 ∧
          b' = { b with
            count
            policies := b.policies.set id ⟨holder, coverage, premium, expiry, .active⟩
            balance := b.balance + premium.val } := by
  simp only [post, bind_eq_ok, failIf_eq_ok, checkedAdd_eq_ok, pure_eq_ok, not_not, not_le, ne_eq]
  constructor
  · rintro ⟨-, hid, -, hne, -, hlt, -, hprem, -, hme, -, hbal, count, hcount, rfl⟩
    exact ⟨hid, hne, hlt, hprem, hme, hbal, count, hcount, rfl⟩
  · rintro ⟨hid, hne, hlt, hprem, hme, hbal, count, hcount, rfl⟩
    exact ⟨⟨⟩, hid, ⟨⟩, hne, ⟨⟩, hlt, ⟨⟩, hprem, ⟨⟩, hme, ⟨⟩, hbal, count, hcount, rfl⟩

theorem post_claimPaid :
    post bps me clock b (.claimPaid policyId attestationId holder amount triggerType) = .ok b' ↔
      ∃ policy, b.policies.get policyId = some policy ∧ policy.status = .active ∧ holder = policy.holder ∧
        amount = policy.coverage ∧ clock ≤ policy.expiry ∧
        b' = { b with
          policies := b.policies.set policyId { policy with status := .claimed }
          balance := b.balance - amount.val } := by
  simp only [post, bind_eq_ok, orFail_eq_ok, failIf_eq_ok, pure_eq_ok, not_not, not_lt, ne_eq]
  constructor
  · rintro ⟨policy, hget, -, hst, -, hholder, -, hamount, -, hclock, rfl⟩
    exact ⟨policy, hget, hst, hholder, hamount, hclock, rfl⟩
  · rintro ⟨policy, hget, hst, hholder, hamount, hclock, rfl⟩
    exact ⟨policy, hget, ⟨⟩, hst, ⟨⟩, hholder, ⟨⟩, hamount, ⟨⟩, hclock, rfl⟩

theorem post_staked :
    post bps me clock b (.staked staker amount total) = .ok b' ↔
      amount ≠ 0 ∧ staker ≠ me ∧ total.val = b.totalStaked.val + amount.val ∧ b.balance + amount.val < 2 ^ 256 ∧
        ∃ pos : U256, pos.val = (b.positions.getD staker 0).val + amount.val ∧
          b' = { b with
            positions := b.positions.set staker pos
            totalStaked := total
            balance := b.balance + amount.val } := by
  simp only [post, bind_eq_ok, failIf_eq_ok, checkedAdd_eq_ok, pure_eq_ok, not_not, not_le, ne_eq]
  constructor
  · rintro ⟨-, hne, -, hme, -, htotal, -, hbal, pos, hpos, rfl⟩
    exact ⟨hne, hme, htotal, hbal, pos, hpos, rfl⟩
  · rintro ⟨hne, hme, htotal, hbal, pos, hpos, rfl⟩
    exact ⟨⟨⟩, hne, ⟨⟩, hme, ⟨⟩, htotal, ⟨⟩, hbal, pos, hpos, rfl⟩

theorem post_unstaked :
    post bps me clock b (.unstaked staker amount total) = .ok b' ↔
      amount ≠ 0 ∧ staker ≠ me ∧ total.val + amount.val = b.totalStaked.val ∧
        ∃ pos : U256, pos.val + amount.val = (b.positions.getD staker 0).val ∧
          b' = { b with
            positions := b.positions.set staker pos
            totalStaked := total
            balance := b.balance - amount.val } := by
  simp only [post, bind_eq_ok, failIf_eq_ok, checkedSub_eq_ok, pure_eq_ok, not_not, ne_eq]
  constructor
  · rintro ⟨-, hne, -, hme, -, htotal, pos, hpos, rfl⟩
    exact ⟨hne, hme, htotal, pos, hpos, rfl⟩
  · rintro ⟨hne, hme, htotal, pos, hpos, rfl⟩
    exact ⟨⟨⟩, hne, ⟨⟩, hme, ⟨⟩, htotal, pos, hpos, rfl⟩

/-- The books after an event do not depend on when it happened. -/
theorem post_clock {clock' : U64} {b'' : VaultBooks} {e : Event} (h : post bps me clock b e = .ok b')
    (h' : post bps me clock' b e = .ok b'') : b' = b'' := by
  cases e with
  | claimPaid policyId attestationId holder amount triggerType =>
    obtain ⟨policy, hget, -, -, -, -, rfl⟩ := post_claimPaid.1 h
    obtain ⟨policy', hget', -, -, -, -, rfl⟩ := post_claimPaid.1 h'
    cases hget.symm.trans hget'
    rfl
  | policyPurchased => exact Except.ok.inj (h.symm.trans h')
  | staked => exact Except.ok.inj (h.symm.trans h')
  | unstaked => exact Except.ok.inj (h.symm.trans h')

end

/-! ## The vault's log is accepted -/

/-- The books agree with the vault, whose premium rate is `bps`. -/
structure Agrees (t : Cep18 τ) (me : Address) (bps : U64) (b : VaultBooks) (s : State (Tracked τ)) : Prop where
  rate : s.premiumBps = bps
  count : b.count = s.policyCount
  policies : b.policies = s.policies.map loggedPolicy
  positions : b.positions = s.positions
  totalStaked : b.totalStaked = s.totalStaked
  balance : b.balance ≤ (t.balanceOf s.token.chain me).val

section
variable {t : Cep18 τ} {me : Address} {reg : Address → U64 → Except Revert Attestation} {env : CallEnv}
  {bps clock : U64} {b : VaultBooks} {c : Call} {s s' : State (Tracked τ)}

/-- What an event says was paid out. -/
def Event.payment : Event → ℕ
  | .claimPaid _ _ _ amount _ | .unstaked _ amount _ => amount.val
  | .policyPurchased .. | .staked .. => 0

/-- A call logged `e`, and the auditor posts it.  If the vault held no more than
    the auditor knows of, or than it paid, the auditor then knows its balance. -/
structure Posts (t : Cep18 τ) (me : Address) (bps clock : U64) (b : VaultBooks) (s s' : State (Tracked τ)) (e : Event) :
    Prop where
  logged : s'.events = s.events ++ [e]
  posted : ∃ b', post bps me clock b e = .ok b' ∧ Agrees t me bps b' s' ∧
    ((t.balanceOf s.token.chain me).val ≤ max b.balance e.payment →
      (t.balanceOf s'.token.chain me).val ≤ b'.balance)

/-- The vault's balance follows the movements of the call. -/
def Settled (t : Cep18 τ) (me : Address) (s s' : State (Tracked τ)) : Prop :=
  (t.balanceOf s'.token.chain me).val + Move.totalPaid s'.token.moves =
    (t.balanceOf s.token.chain me).val + Move.totalPulled s'.token.moves

theorem Settled.pulled (h : Settled t me s s') {x : Address} {n : ℕ} (hmoves : s'.token.moves = [.pull x n]) :
    (t.balanceOf s'.token.chain me).val = (t.balanceOf s.token.chain me).val + n := by
  rw [Settled, hmoves] at h
  simpa using h

theorem Settled.paid (h : Settled t me s s') {x : Address} {n : ℕ} (hmoves : s'.token.moves = [.pay x n]) :
    (t.balanceOf s'.token.chain me).val + n = (t.balanceOf s.token.chain me).val := by
  rw [Settled, hmoves] at h
  simpa using h

theorem Agrees.policy (hb : Agrees t me bps b s) {id : U64} {policy : Policy} (hget : s.policies.get id = some policy) :
    b.policies.get id = some (loggedPolicy policy) := by
  rw [hb.policies, Mapping.get_map, hget]
  rfl

theorem Agrees.stored (hb : Agrees t me bps b s) {id : U64} {r : LoggedPolicy} (hget : b.policies.get id = some r) :
    ∃ policy, s.policies.get id = some policy ∧ r = loggedPolicy policy := by
  rw [hb.policies, Mapping.get_map, Option.map_eq_some_iff] at hget
  obtain ⟨policy, hget, rfl⟩ := hget
  exact ⟨policy, hget, rfl⟩

theorem buyPolicy_posts (hb : Agrees t me bps b s) (hcaller : env.caller ≠ me) {coverage : U256}
    {triggerTypes : List String} {expiry id : U64} (hbal : Settled t me s s')
    (h : buyPolicy (usdcRef t me) env coverage triggerTypes expiry s.fresh = .ok (id, s')) :
    ∃ premium, Posts t me bps clock b s s' (.policyPurchased id env.caller coverage premium expiry) := by
  obtain ⟨a, s₁, count, prod, hne, hprod, -, ht, rfl, hcount, rfl⟩ := buyPolicy_ok.1 h
  obtain ⟨k, hk, rfl⟩ := usdcRef_transferFrom.1 ht
  have hpulled : (t.balanceOf k.chain me).val = (t.balanceOf s.token.chain me).val + (wordDiv prod bpsDenom).val :=
    hbal.pulled (Cep18.pull_moves hk)
  have hrate : prod.val = coverage.val * bps.val := by
    rw [hprod, show s.fresh.premiumBps = bps from hb.rate]
  have hle := hb.balance
  have hword := (t.balanceOf k.chain me).isLt
  have hprem : (wordDiv prod bpsDenom).val = coverage.val * bps.val / bpsDenom := by rw [wordDiv_val, hrate]
  refine ⟨_, rfl, _, post_purchased.2 ⟨hb.count.symm, hne, hrate ▸ prod.isLt, hprem, hcaller, by omega, count, hcount,
    rfl⟩, ⟨hb.rate, rfl, ?_, hb.positions, hb.totalStaked, ?_⟩, fun htight => ?_⟩
  · rw [hb.policies]
    exact (Mapping.map_set loggedPolicy s.policies s.policyCount
      (newPolicy env coverage triggerTypes expiry (wordDiv prod bpsDenom) s.policyCount)).symm
  · show b.balance + _ ≤ (t.balanceOf k.chain me).val
    omega
  · show (t.balanceOf k.chain me).val ≤ b.balance + _
    simp only [Event.payment] at htight
    omega

/-- The books after a claim that the auditor may date at `clock`. -/
theorem claim_posts (hb : Agrees t me bps b s) (hclock : clock ≤ env.blockTime) {policyId attestationId : U64}
    {triggerType : String} (hbal : Settled t me s s')
    (h : claim (usdcRef t me) reg env policyId attestationId triggerType s.fresh = .ok s') :
    ∃ holder amount,
      Posts t me bps clock b s s' (.claimPaid policyId attestationId holder amount triggerType) := by
  obtain ⟨policy, s₁, hget, hcl, ht, rfl⟩ := claim_ok.1 h
  obtain ⟨k, hk, rfl⟩ := usdcRef_transfer.1 ht
  replace hget : s.policies.get policyId = some policy := hget
  have hpaid : (t.balanceOf k.chain me).val + policy.coverage.val = (t.balanceOf s.token.chain me).val :=
    hbal.paid (Cep18.pay_moves hk)
  have hle := hb.balance
  refine ⟨_, _, rfl, _, post_claimPaid.2 ⟨loggedPolicy policy, hb.policy hget, hcl.active, rfl, rfl,
    hclock.trans hcl.unexpired, rfl⟩, ⟨hb.rate, hb.count, ?_, hb.positions, hb.totalStaked, ?_⟩, fun htight => ?_⟩
  · rw [hb.policies]
    exact (Mapping.map_set loggedPolicy s.policies policyId (claimedPolicy policy)).symm
  · show b.balance - policy.coverage.val ≤ (t.balanceOf k.chain me).val
    omega
  · show (t.balanceOf k.chain me).val ≤ b.balance - policy.coverage.val
    simp only [Event.payment] at htight
    omega

theorem stake_posts (hb : Agrees t me bps b s) (hcaller : env.caller ≠ me) {amount : U256} (hbal : Settled t me s s')
    (h : stake (usdcRef t me) env amount s.fresh = .ok s') :
    ∃ total, Posts t me bps clock b s s' (.staked env.caller amount total) := by
  obtain ⟨a, s₁, pos, total, hne, -, ht, hpos, htotal, rfl⟩ := stake_ok.1 h
  obtain ⟨k, hk, rfl⟩ := usdcRef_transferFrom.1 ht
  have hpulled : (t.balanceOf k.chain me).val = (t.balanceOf s.token.chain me).val + amount.val :=
    hbal.pulled (Cep18.pull_moves hk)
  have hle := hb.balance
  have hword := (t.balanceOf k.chain me).isLt
  refine ⟨_, rfl, _, post_staked.2 ⟨hne, hcaller, hb.totalStaked ▸ htotal, by omega, pos, hb.positions ▸ hpos, rfl⟩,
    ⟨hb.rate, hb.count, hb.policies, ?_, rfl, ?_⟩, fun htight => ?_⟩
  · rw [hb.positions]
    rfl
  · show b.balance + amount.val ≤ (t.balanceOf k.chain me).val
    omega
  · show (t.balanceOf k.chain me).val ≤ b.balance + amount.val
    simp only [Event.payment] at htight
    omega

theorem unstake_posts (hb : Agrees t me bps b s) (hcaller : env.caller ≠ me) {amount : U256} (hbal : Settled t me s s')
    (h : unstake (usdcRef t me) env amount s.fresh = .ok s') :
    ∃ total, Posts t me bps clock b s s' (.unstaked env.caller amount total) := by
  obtain ⟨a, s₁, rest, total, hne, -, -, hrest, htotal, ht, rfl⟩ := unstake_ok.1 h
  obtain ⟨k, hk, rfl⟩ := usdcRef_transfer.1 ht
  have hpaid : (t.balanceOf k.chain me).val + amount.val = (t.balanceOf s.token.chain me).val :=
    hbal.paid (Cep18.pay_moves hk)
  have hle := hb.balance
  refine ⟨_, rfl, _, post_unstaked.2 ⟨hne, hcaller, hb.totalStaked ▸ htotal, rest, hb.positions ▸ hrest, rfl⟩,
    ⟨hb.rate, hb.count, hb.policies, ?_, rfl, ?_⟩, fun htight => ?_⟩
  · rw [hb.positions]
    rfl
  · show b.balance - amount.val ≤ (t.balanceOf k.chain me).val
    omega
  · show (t.balanceOf k.chain me).val ≤ b.balance - amount.val
    simp only [Event.payment] at htight
    omega

/-- **The event of a call.**  A successful call logs one event, which the
    auditor posts; if it is a claim, it is the event of the call. -/
theorem call_posts (ht : t.Standard) (hb : Agrees t me bps b s) (hcaller : env.caller ≠ me)
    (hclock : clock ≤ env.blockTime) (h : c.run (usdcRef t me) reg env s.fresh = .ok s') :
    ∃ e, Posts t me bps clock b s s' e ∧ ∀ policyId id holder amount triggerType,
      e = .claimPaid policyId id holder amount triggerType → c = .claim policyId id triggerType := by
  have hbal : Settled t me s s' := (call_effect rfl h).balance ht hcaller
  cases c with
  | buyPolicy coverage triggerTypes expiry =>
    simp only [Call.run, bind_eq_ok, pure_eq_ok] at h
    obtain ⟨⟨id, s''⟩, h, rfl⟩ := h
    obtain ⟨premium, hposts⟩ := buyPolicy_posts hb hcaller hbal h
    exact ⟨_, hposts, by simp⟩
  | claim policyId attestationId triggerType =>
    obtain ⟨holder, amount, hposts⟩ := claim_posts hb hclock hbal h
    refine ⟨_, hposts, ?_⟩
    rintro _ _ _ _ _ ⟨⟩
    rfl
  | stake amount =>
    obtain ⟨total, hposts⟩ := stake_posts hb hcaller hbal h
    exact ⟨_, hposts, by simp⟩
  | unstake amount =>
    obtain ⟨total, hposts⟩ := unstake_posts hb hcaller hbal h
    exact ⟨_, hposts, by simp⟩

end

end CasperProof.Insurance
