/-
  Claims — what is paid for a policy, over whole runs of both contracts.

  * `Chronicle ls s`: the vault's books after the run `ls` tell its story: as
    many policies as purchases, every policy as it was bought, and a policy
    claimed exactly if a claim of it was paid, which then happened once.
  * `slashed_stays`: a slashed attestation never changes again, and backs no
    claim.
  * `claim_safety` puts both together.
-/
import CasperProof.Contracts.System
import CasperProof.Contracts.Records

namespace CasperProof.System

variable {τ₁ τ₂ : Type} {d : Deployment τ₁ τ₂} {w w' w₀ : World τ₁ τ₂} {ls : List Label} {a : Label} {env : CallEnv}
  {c : Insurance.Call} {moves : List Move} {id p : U64} {triggerType : String} {policy : Insurance.Policy}

/-! ## The chronicle of the vault -/

/-- A purchase. -/
def Label.buys : Label → Bool
  | .insurance _ (.buyPolicy _ _ _) _ => true
  | _ => false

/-- A paid claim of the policy `p`. -/
def Label.claims (p : U64) : Label → Bool
  | .insurance _ (.claim policyId _ _) _ => policyId = p
  | _ => false

/-- `policy` is what the purchase after `p` others bought. -/
def Bought (ls : List Label) (p : U64) (policy : Insurance.Policy) : Prop :=
  ∃ l₁ env moves l₂, ls =
      l₁ ++ .insurance env (.buyPolicy policy.coverage policy.triggerTypes policy.expiry) moves :: l₂ ∧
    l₁.countP Label.buys = p.val ∧ env.caller = policy.holder

theorem Bought.snoc (h : Bought ls p policy) (a : Label) : Bought (ls ++ [a]) p policy := by
  obtain ⟨l₁, env, moves, l₂, rfl, hcount, hholder⟩ := h
  exact ⟨l₁, env, moves, l₂ ++ [a], by simp, hcount, hholder⟩

def isClaimed (policy : Insurance.Policy) : Bool := policy.status = .claimed

structure Chronicle (ls : List Label) (s : Insurance.State (Tracked τ₂)) : Prop where
  balanced : Insurance.Balanced s
  count : s.policyCount.val = ls.countP Label.buys
  bought : ∀ p policy, s.policies.get p = some policy → Bought ls p policy
  claimed : ∀ p, ls.countP (Label.claims p) = if (s.policies.get p).any isClaimed then 1 else 0

section
variable {s s' : Insurance.State (Tracked τ₂)}

/-- A step that leaves policies and positions alone. -/
theorem Chronicle.skip (h : Chronicle ls s) (hp : s'.policies = s.policies) (hc : s'.policyCount = s.policyCount)
    (hb : Insurance.Balanced s') (hbuys : a.buys = false) (hclaims : ∀ p, a.claims p = false) :
    Chronicle (ls ++ [a]) s' where
  balanced := hb
  count := by simp [hc, h.count, hbuys]
  bought p policy hget := by
    rw [hp] at hget
    exact (h.bought p policy hget).snoc a
  claimed p := by simp [hp, h.claimed, hclaims]

/-- What a call adds to the chronicle. -/
theorem Chronicle.entry (h : Chronicle ls s) (he : Insurance.Entry env s s' c moves) :
    Chronicle (ls ++ [.insurance env c moves]) s' := by
  have hb := he.balanced h.balanced
  cases he with
  | @buyPolicy coverage triggerTypes expiry premium hp hc hpos ht =>
    have hfresh := h.balanced.fresh _ le_rfl
    refine ⟨hb, by simp [hc, h.count, Label.buys], fun p policy hget => ?_, fun p => ?_⟩
    · rw [hp, Mapping.get_set] at hget
      by_cases hid : p = s.policyCount
      · subst hid
        rw [if_pos rfl] at hget
        cases hget
        exact ⟨ls, env, _, [], rfl, h.count.symm, rfl⟩
      · rw [if_neg hid] at hget
        exact (h.bought p policy hget).snoc _
    · rw [List.countP_append, List.countP_singleton, h.claimed, hp, Mapping.get_set]
      by_cases hid : p = s.policyCount
      · subst hid
        simp [hfresh, Label.claims, isClaimed, Insurance.newPolicy]
      · simp [hid, Label.claims]
  | @claim policyId attestationId triggerType policy hget hst hp hc hpos ht =>
    refine ⟨hb, by simp [hc, h.count, Label.buys], fun p policy' hget' => ?_, fun p => ?_⟩
    · rw [hp, Mapping.get_set] at hget'
      by_cases hid : p = policyId
      · subst hid
        rw [if_pos rfl] at hget'
        cases hget'
        exact (h.bought p policy hget).snoc _
      · rw [if_neg hid] at hget'
        exact (h.bought p policy' hget').snoc _
    · rw [List.countP_append, List.countP_singleton, h.claimed, hp, Mapping.get_set]
      by_cases hid : p = policyId
      · subst hid
        simp [hget, hst, Label.claims, isClaimed, Insurance.claimedPolicy]
      · simp [hid, Ne.symm hid, Label.claims]
  | stake hp hc => exact h.skip hp hc hb rfl fun _ => rfl
  | unstake hp hc => exact h.skip hp hc hb rfl fun _ => rfl

end

theorem Initial.chronicle (h : Initial d w) : Chronicle [] w.vault.ins := by
  obtain ⟨usdcToken, premiumBps, chain, hi⟩ := h.vault
  obtain ⟨-, hins⟩ := Insurance.init_ok.1 hi
  rw [← hins]
  refine ⟨⟨fun _ _ => rfl, ?_⟩, rfl, fun p policy hget => ?_, fun p => rfl⟩
  · show 0 = (Mapping.empty : Mapping Address U256).sum Fin.val
    rw [Mapping.sum_empty]
  · cases hget

theorem Step.chronicle (hc : Chronicle ls w.vault.ins) (h : Step d w a w') : Chronicle (ls ++ [a]) w'.vault.ins := by
  cases h with
  | registry => exact hc.skip rfl rfl hc.balanced rfl fun _ => rfl
  | @insurance env c ins hcall =>
    have hfresh : Chronicle ls w.vault.ins.fresh :=
    ⟨⟨hc.balanced.fresh, hc.balanced.positions⟩, hc.count, hc.bought, hc.claimed⟩
    exact hfresh.entry (Insurance.call_effect rfl hcall.2.2.2).entry
  | usdc hs =>
    cases hs with
    | direct => exact hc.skip rfl rfl ⟨hc.balanced.fresh, hc.balanced.positions⟩ rfl fun _ => rfl

theorem run_chronicle (h₀ : Initial d w₀) (h : Run (Step d) w₀ ls w) : Chronicle ls w.vault.ins := by
  induction h with
  | nil => exact h₀.chronicle
  | snoc _ hs ih => exact hs.chronicle ih

/-! ## One claim -/

/-- The vault reads the registry it was deployed with. -/
theorem Step.vault_registry (hr : w.vault.ins.registry = some d.registry) (h : Step d w a w') :
    w'.vault.ins.registry = some d.registry := by
  cases h with
  | registry => exact hr
  | insurance hc => exact (Insurance.call_effect rfl hc.2.2.2).registry.trans hr
  | usdc hs => cases hs with | direct => exact hr

theorem run_vault_registry (h₀ : Initial d w₀) (h : Run (Step d) w₀ ls w) :
    w.vault.ins.registry = some d.registry := by
  refine h.inv ?_ fun _ _ _ hr hs => hs.vault_registry hr
  obtain ⟨usdcToken, premiumBps, chain, hi⟩ := h₀.vault
  obtain ⟨-, hins⟩ := Insurance.init_ok.1 hi
  rw [← hins]

/-- What a paid claim of `policy` is. -/
structure Paid (d : Deployment τ₁ τ₂) (w w' : World τ₁ τ₂) (env : CallEnv) (triggerType : String) (moves : List Move)
    (policy : Insurance.Policy) : Prop where
  holder : env.caller = policy.holder
  unexpired : env.blockTime ≤ policy.expiry
  covered : triggerType ∈ policy.triggerTypes
  moves : moves = [.pay policy.holder policy.coverage.val]
  balance : d.usdcToken.Standard → (d.usdcToken.balanceOf w'.vault.ins.token.chain policy.holder).val =
    (d.usdcToken.balanceOf w.vault.ins.token.chain policy.holder).val + policy.coverage.val

theorem Step.claim (h : Step d w (.insurance env (.claim p id triggerType) moves) w') : ∃ policy,
    w.vault.ins.policies.get p = some policy ∧ Paid d w w' env triggerType moves policy ∧
    (w.vault.ins.registry = some d.registry →
      ∃ att, w.registry.reg.attestations.get id = some att ∧ Insurance.backs att.status) := by
  generalize ha : Label.insurance env (.claim p id triggerType) moves = a at h
  cases h with
  | registry => cases ha
  | usdc => cases ha
  | @insurance env' c ins hcall =>
    cases ha
    obtain ⟨hself, hcaller, -, hr⟩ := hcall
    have he := Insurance.call_effect rfl hr
    obtain ⟨policy, s₁, hget, hcl, -, -⟩ := Insurance.claim_ok.1 hr
    have hmoves : ins.token.moves = [.pay policy.holder policy.coverage.val] := by
      have hentry := he.entry
      generalize ins.token.moves = moves at hentry
      cases hentry with
      | claim hget' =>
        cases hget.symm.trans hget'
        rw [hcl.holder]
    refine ⟨policy, hget, ⟨hcl.holder, hcl.unexpired, hcl.covered, hmoves, fun ht => ?_⟩, fun hreg => ?_⟩
    · have hbal := (he.executed ht w.vault.ins.token.chain .nil).balance_party (hcl.holder ▸ hcaller)
      simpa [hmoves] using hbal
    · obtain ⟨r, att, hreg', hatt, -, hback⟩ := hcl.backed
      obtain rfl : d.registry = r := Option.some.inj (hreg.symm.trans hreg')
      exact ⟨att, lookup_ok.1 hatt, hback⟩

/-! ## Slashed attestations -/

theorem Step.resolved (hw : Registry.WellFormed d.cfg w.registry.reg) {i : U64}
    (h : Step d w (.registry (.call env (.resolve id true) i moves)) w') :
    ∃ att, w'.registry.reg.attestations.get id = some att ∧ att.status = .slashed := by
  cases h with
  | registry hs =>
    obtain ⟨he, hmoves⟩ := hs.effect hw
    obtain ⟨att, hl, hset⟩ := he.record
    rw [hmoves] at hl
    generalize w.registry.reg.fresh.attestations.get i = o at hl
    cases hl with
    | resolve => exact ⟨_, by rw [hset, Mapping.get_set_self], rfl⟩

theorem Step.slashed (hw : Registry.WellFormed d.cfg w.registry.reg) (h : Step d w a w') {att : Attestation}
    (hget : w.registry.reg.attestations.get id = some att) (hst : att.status = .slashed) :
    w'.registry.reg.attestations.get id = some att := by
  obtain ⟨att', hget', -⟩ := h.attestor hw hget
  cases h with
  | registry hs =>
    rcases hs.record hw hget hget' with rfl | hl
    · exact hget'
    · obtain ⟨-, hedge, -⟩ := hl.edge
      have hopen := hedge.not_settled
      rw [hst] at hopen
      cases hopen
  | insurance => exact hget
  | usdc => exact hget

/-- **A slashed attestation stays slashed.** -/
theorem slashed_stays (hw : Registry.WellFormed d.cfg w.registry.reg) (h : Run (Step d) w ls w') {att : Attestation}
    (hget : w.registry.reg.attestations.get id = some att) (hst : att.status = .slashed) :
    w'.registry.reg.attestations.get id = some att := by
  have hinv : Registry.WellFormed d.cfg w'.registry.reg ∧ w'.registry.reg.attestations.get id = some att := by
    induction h with
    | nil => exact ⟨hw, hget⟩
    | snoc _ hs ih => exact ⟨hs.wellFormed ih.1, hs.slashed ih.1 ih.2 hst⟩
  exact hinv.2

theorem run_wellFormed (h₀ : Initial d w₀) (h : Run (Step d) w₀ ls w) : Registry.WellFormed d.cfg w.registry.reg :=
  h.inv h₀.registry.wellFormed fun _ _ _ hw hs => hs.wellFormed hw

/-! ## Claim safety -/

/-- **Claim safety.**  In every run of the two contracts each policy is paid at
    most once, by the one payment of the coverage that its buyer bought, before
    its expiry and for one of its triggers; and once an attestation is resolved
    as fraudulent no claim names it any more. -/
theorem claim_safety (h₀ : Initial d w₀) (h : Run (Step d) w₀ ls w) :
    (∀ p, ls.countP (Label.claims p) ≤ 1) ∧
    (∀ l₁ env p id triggerType moves l₂, ls = l₁ ++ .insurance env (.claim p id triggerType) moves :: l₂ →
      ∃ w₁ w₂ policy, Run (Step d) w₀ l₁ w₁ ∧ Step d w₁ (.insurance env (.claim p id triggerType) moves) w₂ ∧
        Bought l₁ p policy ∧ Paid d w₁ w₂ env triggerType moves policy) ∧
    ∀ l₁ env id i moves l₂, ls = l₁ ++ .registry (.call env (.resolve id true) i moves) :: l₂ →
      ∀ env' p triggerType moves', .insurance env' (.claim p id triggerType) moves' ∉ l₂ := by
  refine ⟨fun p => ?_, ?_, ?_⟩
  · rw [(run_chronicle h₀ h).claimed p]
    split <;> omega
  · rintro l₁ env p id triggerType moves l₂ rfl
    obtain ⟨w₁, w₂, h₁, hs, -⟩ := h.split_cons
    obtain ⟨policy, hget, hpaid, -⟩ := hs.claim
    exact ⟨w₁, w₂, policy, h₁, hs, (run_chronicle h₀ h₁).bought p policy hget, hpaid⟩
  · rintro l₁ env id i moves l₂ rfl env' p triggerType moves' hmem
    obtain ⟨w₁, w₂, h₁, hs, h₂⟩ := h.split_cons
    have hw₁ := run_wellFormed h₀ h₁
    obtain ⟨att, hget, hst⟩ := hs.resolved hw₁
    obtain ⟨l₃, l₄, rfl⟩ := List.append_of_mem hmem
    obtain ⟨w₃, w₄, h₃, hs', -⟩ := h₂.split_cons
    have hget₃ := slashed_stays (hs.wellFormed hw₁) h₃ hget hst
    obtain ⟨policy, -, -, hback⟩ := hs'.claim
    obtain ⟨att', hget', hb⟩ := hback (run_vault_registry h₀ ((h₁.snoc hs).append h₃))
    cases hget₃.symm.trans hget'
    rw [hst] at hb
    exact hb

theorem claim_safety_demo : ∃ ls w, Run (Step demoDeployment) demoWorld ls w ∧
    (w.vault.ins.policies.get 0).map isClaimed = some true ∧ ∀ p, ls.countP (Label.claims p) ≤ 1 := by
  have h : (execAll demoDeployment
      (demoCover demoOracle ++ [.insurance demoHolder 4 (.claim 0 0 "oracle_failure")]) demoWorld).map
        (fun w => (w.vault.ins.policies.get 0).map isClaimed) = some (some true) := by decide +kernel
  obtain ⟨w, hw, hclaimed⟩ := Option.map_eq_some_iff.1 h
  obtain ⟨ls, hr⟩ := execAll_run hw
  exact ⟨ls, w, hr, hclaimed, (claim_safety demo_initial hr).1⟩

end CasperProof.System
