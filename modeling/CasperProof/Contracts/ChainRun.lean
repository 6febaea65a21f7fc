/-
  Every accepted log of the chain is a run's.

  The accounts in `out` call the registry, the vault and the two tokens, which
  they issued.  Neither contract is among them: the only call from one to the
  other is the vault's `get_attestation`.

  * `OpenStep`: one call by one of the accounts.
  * `chain_log_iff`: the logs of their runs are the logs that the auditor of
    both contracts accepts, if it knows who may call.
-/
import CasperProof.Contracts.ChainLog
import CasperProof.Contracts.LogRun

namespace CasperProof.Insurance

variable {τ : Type}

/-- The token came to `chain`, by a call of others. -/
@[simps] def World.afterToken (t : Cep18 τ) (me : Address) (w : World τ) (chain : τ) : World τ where
  ins := w.ins.setToken ⟨chain, []⟩
  direct := w.direct + t.received me w.ins.token.chain chain

theorem World.afterToken_afterToken {t : Cep18 τ} {me : Address} {w : World τ} {c₁ c₂ : τ}
    (h₁ : t.balanceOf w.ins.token.chain me ≤ t.balanceOf c₁ me) (h₂ : t.balanceOf c₁ me ≤ t.balanceOf c₂ me) :
    (w.afterToken t me c₁).afterToken t me c₂ = w.afterToken t me c₂ :=
  congrArg (World.mk (w.ins.setToken ⟨c₂, []⟩)) (Cep18.received_add h₁ h₂ w.direct)

end CasperProof.Insurance

namespace CasperProof.System

open Replay

variable {τ₁ τ₂ : Type}

/-! ## The calls of the accounts -/

/-- Where the contracts and their tokens are, and what they are configured
    with. -/
structure Site (τ₁ τ₂ : Type) where
  stakeToken : Cep18Module τ₁
  usdcToken : Cep18Module τ₂
  registry : Address
  vault : Address
  cfg : RegistryConfig
  claimModelId : String

/-- What the contracts see of it. -/
abbrev Site.deployment (d : Site τ₁ τ₂) : Deployment τ₁ τ₂ :=
  ⟨d.stakeToken.toCep18, d.usdcToken.toCep18, d.registry, d.vault, d.cfg, d.claimModelId⟩

/-- Who made the call of an event, if the event or the configuration tells. -/
def Event.caller (cfg : RegistryConfig) : Event → Option Address
  | .registry e => e.caller cfg
  | .vault e => some e.caller

/-- An account in `out` calls one of the contracts or one of the tokens. -/
inductive OpenStep (d : Site τ₁ τ₂) (out : Address → Prop) : World τ₁ τ₂ → Label → World τ₁ τ₂ → Prop
  | registry {w a reg} : Registry.OpenStep d.stakeToken out d.registry w.registry a reg →
      OpenStep d out w (.registry a) ⟨reg, w.vault⟩
  | insurance {w env c ins} : out env.caller → InsuranceCall d.deployment w env c ins →
      OpenStep d out w (.insurance env c ins.token.moves)
        ⟨⟨w.registry.reg, env.blockTime, w.registry.direct⟩, ⟨ins, w.vault.direct⟩⟩
  | usdc {w chain} : d.usdcToken.Called out w.vault.ins.token.chain chain →
      OpenStep d out w (.usdc (d.usdcToken.received d.vault w.vault.ins.token.chain chain))
        ⟨w.registry, w.vault.afterToken d.usdcToken.toCep18 d.vault chain⟩

inductive OpenChainStep (d : Site τ₁ τ₂) (out : Address → Prop) : Chain τ₁ τ₂ → Label → Chain τ₁ τ₂ → Prop
  | mk {w a w' log} : OpenStep d out w a w' → OpenChainStep d out ⟨w, log⟩ a ⟨w', log ++ emitted w w'⟩

/-- What holds while only the accounts in `out` call, and the tokens keep what
    they document. -/
structure Ready (d : Site τ₁ τ₂) (out : Address → Prop) (w : World τ₁ τ₂) : Prop where
  stakeToken : d.stakeToken.Documented
  usdcToken : d.usdcToken.Documented
  notRegistry : ¬ out d.registry
  notVault : ¬ out d.vault
  registry : Registry.OpenWorld d.stakeToken out d.registry d.cfg w.registry
  configured : Configured d.deployment w
  guarded : d.usdcToken.Guarded d.vault w.vault.ins.token.chain
  callers : ∀ e ∈ w.vault.ins.events, out e.caller

section
variable {d : Site τ₁ τ₂} {out : Address → Prop} {w w' w₀ : World τ₁ τ₂} {c c' : Chain τ₁ τ₂} {log : List Event}
  {ls : List Label} {a : Label}

/-- **The calls of the accounts.**  What they do is a step of the contracts. -/
theorem Ready.step (hw : Ready d out w) (h : OpenStep d out w a w') :
    Step d.deployment w a w' ∧ Ready d out w' := by
  cases h with
  | registry h =>
    obtain ⟨hs, hr⟩ := hw.registry.step hw.stakeToken hw.notRegistry h
    have hstep : Step d.deployment w _ _ := .registry hs
    exact ⟨hstep, hw.stakeToken, hw.usdcToken, hw.notRegistry, hw.notVault, hr,
      hstep.configured hw.usdcToken.toStandard hw.configured, hw.guarded, hw.callers⟩
  | @insurance env c ins hout hcall =>
    have hstep : Step d.deployment w _ _ := .insurance hcall
    have hr := hcall.2.2.2
    refine ⟨hstep, hw.stakeToken, hw.usdcToken, hw.notRegistry, hw.notVault,
      ⟨hw.registry.wellFormed, hw.registry.guarded, hw.registry.parties, hw.registry.callers⟩,
      hstep.configured hw.usdcToken.toStandard hw.configured, ?_, ?_⟩
    · exact Insurance.call_token (fun hg h => hg.of_transferFrom hw.usdcToken h)
        (fun hg h => hg.of_transfer hw.usdcToken h) hr hw.guarded
    · obtain ⟨e, hlog, he, -⟩ := Insurance.call_events hr
      intro e' hmem
      replace hmem : e' ∈ w.vault.ins.events ++ [e] := hlog ▸ hmem
      rcases List.mem_append.1 hmem with hmem | hmem
      · exact hw.callers e' hmem
      · rw [List.mem_singleton.1 hmem, he]
        exact hout
  | @usdc chain hcalled =>
    obtain ⟨hg, hle⟩ := hcalled.guarded hw.usdcToken hw.notVault hw.guarded
    have hstep : Step d.deployment w (.usdc (d.usdcToken.received d.vault w.vault.ins.token.chain chain))
        ⟨w.registry, w.vault.afterToken d.usdcToken.toCep18 d.vault chain⟩ := .usdc (.direct (Cep18.add_received hle).symm)
    exact ⟨hstep, hw.stakeToken, hw.usdcToken, hw.notRegistry, hw.notVault, hw.registry,
      hstep.configured hw.usdcToken.toStandard hw.configured, hg, hw.callers⟩

/-- Every event was made by a call of the accounts. -/
theorem Ready.emitted (hw : Ready d out w') {e : Event} (h : e ∈ emitted w w') : ∀ a ∈ e.caller d.cfg, out a := by
  rcases List.mem_append.1 h with h | h
  · obtain ⟨e, hmem, rfl⟩ := List.mem_map.1 h
    exact hw.registry.callers e (List.mem_of_mem_drop hmem)
  · obtain ⟨e, hmem, rfl⟩ := List.mem_map.1 h
    rintro a ⟨⟩
    exact hw.callers e (List.mem_of_mem_drop hmem)

theorem Ready.run (hw : Ready d out c.world) (h : Run (OpenChainStep d out) c ls c') :
    Run (ChainStep d.deployment) c ls c' ∧ Ready d out c'.world ∧
      ((∀ e ∈ c.log, ∀ a ∈ e.caller d.cfg, out a) → ∀ e ∈ c'.log, ∀ a ∈ e.caller d.cfg, out a) := by
  induction h with
  | nil => exact ⟨.nil, hw, id⟩
  | snoc _ hs ih =>
    obtain ⟨hr, hw₁, hcallers⟩ := ih
    cases hs with
    | mk hs =>
      obtain ⟨hs, hw₂⟩ := hw₁.step hs
      refine ⟨hr.snoc (.mk hs), hw₂, fun hlog e hmem => ?_⟩
      rcases List.mem_append.1 hmem with hmem | hmem
      · exact hcallers hlog e hmem
      · exact hw₂.emitted hmem

theorem Initial.ready (hs : d.stakeToken.Documented) (hu : d.usdcToken.Documented) (hregistry : ¬ out d.registry)
    (hvault : ¬ out d.vault) (h₀ : Initial d.deployment w₀)
    (hstake : d.stakeToken.Issued out w₀.registry.reg.token.chain)
    (husdc : d.usdcToken.Issued out w₀.vault.ins.token.chain) : Ready d out w₀ := by
  refine ⟨hs, hu, hregistry, hvault, h₀.registry.toOpenWorld hs hregistry hstake, h₀.configured,
    husdc.guarded hu hvault, fun e hmem => ?_⟩
  obtain ⟨usdcToken, premiumBps, chain, hi⟩ := h₀.vault
  obtain ⟨-, hins⟩ := Insurance.init_ok.1 hi
  rw [← hins] at hmem
  cases hmem

/-- A run of the registry alone is one of the chain. -/
theorem run_registry {r r' : Registry.World τ₁} {rls : List Registry.Label} (v : Insurance.World τ₂)
    (log : List Event) (h : Run (Registry.OpenStep d.stakeToken out d.registry) r rls r') :
    ∃ es, r'.reg.events = r.reg.events ++ es ∧
      Run (OpenChainStep d out) ⟨⟨r, v⟩, log⟩ (rls.map .registry) ⟨⟨r', v⟩, log ++ es.map .registry⟩ := by
  induction h with
  | nil => exact ⟨[], (List.append_nil _).symm, by simpa using Run.nil⟩
  | @snoc _ _ r₁ r₂ _ hs ih =>
    obtain ⟨es, hes, hr⟩ := ih
    obtain ⟨es', hes'⟩ := hs.logs
    refine ⟨es ++ es', by rw [hes', hes, List.append_assoc], ?_⟩
    have hemit : emitted ⟨r₁, v⟩ ⟨r₂, v⟩ = es'.map .registry := emitted_registry hes' rfl
    have hstep := hr.snoc (.mk (.registry hs))
    rw [hemit] at hstep
    simpa using hstep

/-- Some calls of the token, before a call of the vault. -/
theorem run_afterToken (hw : Ready d out w) (log : List Event) {chain : τ₂}
    (h : Relation.TransGen (d.usdcToken.Called out) w.vault.ins.token.chain chain) :
    ∃ ls, Run (OpenChainStep d out) ⟨w, log⟩ ls
      ⟨⟨w.registry, w.vault.afterToken d.usdcToken.toCep18 d.vault chain⟩, log⟩ := by
  have hsilent : ∀ {v v' : Insurance.World τ₂} {a}, v'.ins.events = v.ins.events →
      OpenStep d out ⟨w.registry, v⟩ a ⟨w.registry, v'⟩ →
        OpenChainStep d out ⟨⟨w.registry, v⟩, log⟩ a ⟨⟨w.registry, v'⟩, log⟩ := by
    intro v v' a hlog hs
    have hemit : emitted ⟨w.registry, v⟩ ⟨w.registry, v'⟩ = [].map .vault :=
      emitted_vault (by rw [hlog, List.append_nil]) rfl
    have hstep : OpenChainStep d out ⟨⟨w.registry, v⟩, log⟩ a _ := .mk hs
    rwa [hemit, List.map_nil, List.append_nil] at hstep
  let after (chain : τ₂) : Chain τ₁ τ₂ :=
    ⟨⟨w.registry, w.vault.afterToken d.usdcToken.toCep18 d.vault chain⟩, log⟩
  refine Cep18Module.run_called after hw.usdcToken hw.notVault hw.guarded
    (fun hcalled => ⟨_, hsilent rfl (.usdc hcalled)⟩) (fun {c₁ c₂} hle₁ hle₂ hcalled => ?_) h
  have hs : OpenStep d out ⟨w.registry, w.vault.afterToken d.usdcToken.toCep18 d.vault c₁⟩ _ _ := .usdc hcalled
  rw [Insurance.World.afterToken_afterToken hle₁ hle₂] at hs
  exact ⟨_, hsilent rfl hs⟩

end

/-! ## The chain follows the auditor -/

/-- The trigger that an event claims. -/
def Event.claimed : Event → Option String
  | .vault (.claimPaid _ _ _ _ triggerType) => some triggerType
  | _ => none

/-- A state of the run that follows the auditor: the registry came there by
    itself, the vault holds no more than the auditor knows of, the accounts have
    the rest of the supply, and all policies are theirs and have the same
    triggers. -/
structure Mirrors (d : Site τ₁ τ₂) (out : Address → Prop) (bps : U64) (triggers : List String)
    (r₀ : Registry.World τ₁) (b : ChainBooks) (w : World τ₁ τ₂) : Prop where
  reached : Registry.Ready d.stakeToken out d.registry d.cfg r₀ w.registry
  registry : Registry.Mirrors d.stakeToken out d.registry b.registry w.registry
  vault : Insurance.Agrees d.usdcToken.toCep18 d.vault bps b.vault w.vault.ins
  balance : (d.usdcToken.balanceOf w.vault.ins.token.chain d.vault).val ≤ b.vault.balance
  supplied : Supplied d.usdcToken out d.vault w.vault.ins.token.chain
  policies : ∀ i policy, w.vault.ins.policies.get i = some policy → policy.triggerTypes = triggers ∧ out policy.holder

/-- The accounts can make the event that the auditor accepted. -/
def CanLog (d : Site τ₁ τ₂) (out : Address → Prop) (bps : U64) (triggers : List String) (r₀ : Registry.World τ₁)
    (c : Chain τ₁ τ₂) (e : Event) (b' : ChainBooks) : Prop :=
  ∃ ls c', Run (OpenChainStep d out) c ls c' ∧ c'.log = c.log ++ [e] ∧ Mirrors d out bps triggers r₀ b' c'.world

/-- The vault's USDC is now `chain`. -/
abbrev supplied (d : Site τ₁ τ₂) (w : World τ₁ τ₂) (chain : τ₂) : World τ₁ τ₂ :=
  ⟨w.registry, w.vault.afterToken d.usdcToken.toCep18 d.vault chain⟩

section
variable {d : Site τ₁ τ₂} {out : Address → Prop} {bps : U64} {triggers : List String} {r₀ : Registry.World τ₁}
  {b b' : ChainBooks} {w : World τ₁ τ₂} {log : List Event} {chain : τ₂} {env : CallEnv} {call : Insurance.Call}
  {ins : Insurance.State (Tracked τ₂)} {e : Insurance.Event}

theorem Ready.ne (hw : Ready d out w) {a : Address} (ha : out a) : a ≠ d.vault := by
  rintro rfl
  exact hw.notVault ha

theorem Mirrors.balance_eq (hm : Mirrors d out bps triggers r₀ b w) :
    (d.usdcToken.balanceOf w.vault.ins.token.chain d.vault).val = b.vault.balance :=
  le_antisymm hm.balance hm.vault.balance

theorem canLog_registry {e : Registry.Event} (hm : Mirrors d out bps triggers r₀ b w)
    (hcaller : ∀ a ∈ e.caller d.cfg, out a) (hpost : post d.deployment bps b (.registry e) = .ok b') :
    CanLog d out bps triggers r₀ ⟨w, log⟩ (.registry e) b' := by
  obtain ⟨r, hr, rfl⟩ := post_registry.1 hpost
  obtain ⟨ls, r', hrun, hlog, hm'⟩ := Registry.canLog hm.reached hm.registry hcaller hr
  obtain ⟨es, hes, hchain⟩ := run_registry (d := d) w.vault log hrun
  obtain rfl : es = [e] := List.append_cancel_left (hes.symm.trans hlog)
  exact ⟨_, _, hchain, rfl, hm.reached.run hrun, hm', hm.vault, hm.balance, hm.supplied, hm.policies⟩

/-- What others gave the vault before a call: it now has what the call pays. -/
structure Raised (d : Site τ₁ τ₂) (out : Address → Prop) (b : ChainBooks) (e : Insurance.Event) (w : World τ₁ τ₂)
    (chain : τ₂) : Prop where
  calls : Relation.TransGen (d.usdcToken.Called out) w.vault.ins.token.chain chain
  supplied : Supplied d.usdcToken out d.vault chain
  balance : (d.usdcToken.balanceOf chain d.vault).val = max b.vault.balance e.payment

/-- A call of the vault that logs the event. -/
theorem canLog_of_call (hw : Ready d out w) (hm : Mirrors d out bps triggers r₀ b w) (hc : Raised d out b e w chain)
    (hout : out env.caller) (hcall : InsuranceCall d.deployment (supplied d w chain) env call ins)
    (htime : env.blockTime = w.registry.clock) (hlog : ins.events = w.vault.ins.events ++ [e])
    (hpost : post d.deployment bps b (.vault e) = .ok b')
    (hpolicies : ∀ i policy, ins.policies.get i = some policy → policy.triggerTypes = triggers ∧ out policy.holder) :
    CanLog d out bps triggers r₀ ⟨w, log⟩ (.vault e) b' := by
  have hle : b.vault.balance ≤ (d.usdcToken.balanceOf chain d.vault).val := hc.balance ▸ le_max_left _ _
  have hagrees : Insurance.Agrees d.usdcToken.toCep18 d.vault bps b.vault (supplied d w chain).vault.ins :=
    ⟨hm.vault.rate, hm.vault.count, hm.vault.policies, hm.vault.positions, hm.vault.totalStaked, hle⟩
  obtain ⟨-, vault, hvault, rfl⟩ := post_vault.1 hpost
  obtain ⟨e', ⟨hlog', vault', hvault', hagrees', hbalance⟩, -⟩ :=
    Insurance.call_posts hw.usdcToken.toStandard hagrees hcall.2.1 le_rfl hcall.2.2.2
  obtain rfl : e' = e := List.singleton_inj.1 (List.append_cancel_left (hlog'.symm.trans hlog))
  obtain rfl := Insurance.post_clock hvault hvault'
  obtain ⟨ls, hr⟩ := run_afterToken hw log hc.calls
  have hemit : emitted (supplied d w chain) ⟨⟨w.registry.reg, env.blockTime, w.registry.direct⟩,
      ⟨ins, (supplied d w chain).vault.direct⟩⟩ = [e'].map .vault := emitted_vault hlog rfl
  have hstep : OpenChainStep d out ⟨supplied d w chain, log⟩ _ _ := .mk (.insurance hout hcall)
  rw [hemit] at hstep
  -- The call leaves the registry where it was: its block time is the registry's clock.
  have hregistry : (⟨w.registry.reg, env.blockTime, w.registry.direct⟩ : Registry.World τ₁) = w.registry := by
    rw [htime]
  rw [hregistry] at hstep
  have he := Insurance.call_effect rfl hcall.2.2.2
  have hsupplied : Supplied d.usdcToken out d.vault ins.token.chain := by
    refine hc.supplied.executed (he.executed hw.usdcToken.toStandard chain .nil) fun mv hmem => ?_
    rw [he.entry.party mv hmem]
    exact hout
  exact ⟨_, _, hr.snoc hstep, rfl, hm.reached, hm.registry, hagrees', hbalance hc.balance.le, hsupplied, hpolicies⟩

/-- The payer of an event gets the tokens. -/
theorem exists_pulled (hw : Ready d out w) (hm : Mirrors d out bps triggers r₀ b w) (he : e.payment = 0)
    {payer : Address} {n : U256} (hpayer : out payer) (hroom : b.vault.balance + n.val < 2 ^ 256) :
    ∃ chain, Raised d out b e w chain ∧ ∃ k, d.usdcToken.pull d.vault payer n ⟨chain, []⟩ = .ok k := by
  obtain ⟨chain, hcalls, hs, hbal, hk⟩ := hm.supplied.pull hw.usdcToken hw.notVault hpayer (hm.balance_eq ▸ hroom)
  exact ⟨chain, ⟨hcalls, hs, by rw [hbal, hm.balance_eq, he, Nat.max_zero]⟩, hk⟩

/-- The vault gets what it is to pay. -/
theorem exists_topped (hw : Ready d out w) (hm : Mirrors d out bps triggers r₀ b w) {payer : Address} (amount : U256)
    (he : e.payment = amount.val) (hpayer : out payer) :
    ∃ chain, Raised d out b e w chain ∧ amount ≤ d.usdcToken.balanceOf chain d.vault := by
  obtain ⟨chain, hcalls, hs, hbal⟩ := hm.supplied.top hw.usdcToken hw.notVault hpayer amount
  refine ⟨chain, ⟨hcalls, hs, by rw [hbal, hm.balance_eq, he]⟩, ?_⟩
  rw [Fin.le_def, hbal]
  exact le_max_right _ _

theorem canLog_purchased (hw : Ready d out w) (hm : Mirrors d out bps triggers r₀ b w) {id : U64}
    {holder : Address} {coverage premium : U256} {expiry : U64} (hout : out holder)
    (hpost : post d.deployment bps b (.vault (.policyPurchased id holder coverage premium expiry)) = .ok b') :
    CanLog d out bps triggers r₀ ⟨w, log⟩ (.vault (.policyPurchased id holder coverage premium expiry)) b' := by
  obtain ⟨-, vault, hvault, -⟩ := post_vault.1 hpost
  obtain ⟨rfl, hne, hlt, hprem, hholder, hroom, count, hcount, -⟩ := Insurance.post_purchased.1 hvault
  obtain ⟨a, ha⟩ := hw.configured.accounts.usdcToken
  obtain rfl : premium = wordDiv ⟨coverage.val * bps.val, hlt⟩ bpsDenom := Fin.ext hprem
  obtain ⟨chain, hc, k, hk⟩ := exists_pulled
    (e := .policyPurchased b.vault.count holder coverage (wordDiv ⟨coverage.val * bps.val, hlt⟩ bpsDenom) expiry)
    hw hm rfl hout hroom
  have hrate : coverage.val * bps.val = coverage.val * w.vault.ins.premiumBps.val := by rw [hm.vault.rate]
  have hbuy : ∃ ins, Insurance.buyPolicy (Insurance.usdcRef d.usdcToken.toCep18 d.vault)
      ⟨holder, d.vault, w.registry.clock⟩ coverage triggers expiry (supplied d w chain).vault.ins.fresh =
        .ok (b.vault.count, ins) ∧ ins.events = w.vault.ins.events ++ [.policyPurchased b.vault.count holder coverage
          (wordDiv ⟨coverage.val * bps.val, hlt⟩ bpsDenom) expiry] ∧
      ins.policies = w.vault.ins.policies.set b.vault.count (Insurance.newPolicy ⟨holder, d.vault, w.registry.clock⟩
        coverage triggers expiry (wordDiv ⟨coverage.val * bps.val, hlt⟩ bpsDenom) b.vault.count) :=
    ⟨_, Insurance.buyPolicy_ok.2 ⟨a, _, count, ⟨_, hlt⟩, hne, hrate, ha,
      Insurance.usdcRef_transferFrom.2 ⟨k, hk, rfl⟩, hm.vault.count.symm, hcount, rfl⟩, rfl, rfl⟩
  obtain ⟨ins, hbuy, hlog, hp⟩ := hbuy
  have hr : (Insurance.Call.buyPolicy coverage triggers expiry).run (Insurance.usdcRef d.usdcToken.toCep18 d.vault)
      (lookup d.deployment (supplied d w chain)) ⟨holder, d.vault, w.registry.clock⟩
      (supplied d w chain).vault.ins.fresh = .ok ins := by
    rw [Insurance.Call.run, hbuy]
    rfl
  refine canLog_of_call hw hm hc hout ⟨rfl, hholder, le_rfl, hr⟩ rfl hlog hpost ?_
  rw [hp]
  exact Mapping.forall_set hm.policies ⟨rfl, hout⟩

theorem canLog_staked (hw : Ready d out w) (hm : Mirrors d out bps triggers r₀ b w) {staker : Address}
    {amount total : U256} (hout : out staker)
    (hpost : post d.deployment bps b (.vault (.staked staker amount total)) = .ok b') :
    CanLog d out bps triggers r₀ ⟨w, log⟩ (.vault (.staked staker amount total)) b' := by
  obtain ⟨-, vault, hvault, -⟩ := post_vault.1 hpost
  obtain ⟨hne, hstaker, htotal, hroom, pos, hpos, -⟩ := Insurance.post_staked.1 hvault
  obtain ⟨a, ha⟩ := hw.configured.accounts.usdcToken
  obtain ⟨chain, hc, k, hk⟩ := exists_pulled (e := .staked staker amount total) hw hm rfl hout hroom
  rw [hm.vault.positions] at hpos
  rw [hm.vault.totalStaked] at htotal
  have hr : ∃ ins, (Insurance.Call.stake amount).run (Insurance.usdcRef d.usdcToken.toCep18 d.vault)
      (lookup d.deployment (supplied d w chain)) ⟨staker, d.vault, w.registry.clock⟩
      (supplied d w chain).vault.ins.fresh = .ok ins ∧
      ins.events = w.vault.ins.events ++ [.staked staker amount total] ∧ ins.policies = w.vault.ins.policies :=
    ⟨_, Insurance.stake_ok.2 ⟨a, _, pos, total, hne, ha, Insurance.usdcRef_transferFrom.2 ⟨k, hk, rfl⟩, hpos,
      htotal, rfl⟩, by simp [Insurance.State.fresh], by simp [Insurance.State.fresh]⟩
  obtain ⟨ins, hr, hlog, hp⟩ := hr
  refine canLog_of_call hw hm hc hout ⟨rfl, hstaker, le_rfl, hr⟩ rfl hlog hpost ?_
  rw [hp]
  exact hm.policies

theorem canLog_unstaked (hw : Ready d out w) (hm : Mirrors d out bps triggers r₀ b w) {staker : Address}
    {amount total : U256} (hout : out staker)
    (hpost : post d.deployment bps b (.vault (.unstaked staker amount total)) = .ok b') :
    CanLog d out bps triggers r₀ ⟨w, log⟩ (.vault (.unstaked staker amount total)) b' := by
  obtain ⟨-, vault, hvault, -⟩ := post_vault.1 hpost
  obtain ⟨hne, hstaker, htotal, pos, hpos, -⟩ := Insurance.post_unstaked.1 hvault
  obtain ⟨a, ha⟩ := hw.configured.accounts.usdcToken
  obtain ⟨chain, hc, hfunds⟩ := exists_topped (e := .unstaked staker amount total) hw hm amount rfl hout
  rw [hm.vault.positions] at hpos
  rw [hm.vault.totalStaked] at htotal
  obtain ⟨k, hk⟩ := Cep18.pay_succeeds (k := ⟨chain, []⟩) hw.usdcToken.toStandard hfunds hstaker
  have hr : ∃ ins, (Insurance.Call.unstake amount).run (Insurance.usdcRef d.usdcToken.toCep18 d.vault)
      (lookup d.deployment (supplied d w chain)) ⟨staker, d.vault, w.registry.clock⟩
      (supplied d w chain).vault.ins.fresh = .ok ins ∧
      ins.events = w.vault.ins.events ++ [.unstaked staker amount total] ∧ ins.policies = w.vault.ins.policies :=
    ⟨_, Insurance.unstake_ok.2 ⟨a, _, pos, total, hne, ha, hfunds, hpos, htotal,
      Insurance.usdcRef_transfer.2 ⟨k, hk, rfl⟩, rfl⟩, by simp [Insurance.State.fresh],
      by simp [Insurance.State.fresh]⟩
  obtain ⟨ins, hr, hlog, hp⟩ := hr
  refine canLog_of_call hw hm hc hout ⟨rfl, hstaker, le_rfl, hr⟩ rfl hlog hpost ?_
  rw [hp]
  exact hm.policies

theorem canLog_claimPaid (hw : Ready d out w) (hm : Mirrors d out bps triggers r₀ b w)
    {policyId attestationId : U64} {holder : Address} {amount : U256} {triggerType : String}
    (htrigger : triggerType ∈ triggers)
    (hpost : post d.deployment bps b (.vault (.claimPaid policyId attestationId holder amount triggerType)) = .ok b') :
    CanLog d out bps triggers r₀ ⟨w, log⟩ (.vault (.claimPaid policyId attestationId holder amount triggerType)) b' := by
  obtain ⟨hback, vault, hvault, -⟩ := post_vault.1 hpost
  obtain ⟨r, hget, hst, rfl, rfl, hexpiry, -⟩ := Insurance.post_claimPaid.1 hvault
  obtain ⟨policy, hpolicy, rfl⟩ := hm.vault.stored hget
  obtain ⟨att, hatt⟩ := (Agrees.backing ⟨hm.registry.agrees, hm.vault⟩).1 hback
  obtain ⟨htriggers, hout⟩ := hm.policies policyId policy hpolicy
  obtain ⟨chain, hc, hfunds⟩ := exists_topped (e := .claimPaid policyId attestationId policy.holder policy.coverage
    triggerType) hw hm policy.coverage rfl hout
  obtain ⟨ls, hr⟩ := run_afterToken hw log hc.calls
  have hpay : Payable d.deployment (supplied d w chain) ⟨policy.holder, d.vault, w.registry.clock⟩ policyId policy :=
    ⟨hpolicy, rfl, hst, hm.registry.clock.trans hexpiry, hfunds⟩
  obtain ⟨ins, hcall⟩ := (claim_succeeds_iff hw.usdcToken.toStandard (hw.run hr).2.1.configured rfl
    (hw.ne hout) le_rfl).2 ⟨policy, att, hpay, hatt, htriggers ▸ htrigger⟩
  obtain ⟨policy', s₁, hpolicy', -, ht, rfl⟩ := Insurance.claim_ok.1 hcall.2.2.2
  obtain rfl : policy = policy' := Option.some.inj (hpolicy.symm.trans hpolicy')
  obtain ⟨k, -, rfl⟩ := Insurance.usdcRef_transfer.1 ht
  exact canLog_of_call hw hm hc hout hcall rfl rfl hpost (Mapping.forall_set hm.policies ⟨htriggers, hout⟩)

/-- The chain can follow the auditor, if the policies have the triggers that are
    claimed. -/
theorem canLog {e : Event} (hw : Ready d out w) (hm : Mirrors d out bps triggers r₀ b w)
    (hcaller : ∀ a ∈ e.caller d.cfg, out a) (htriggers : ∀ triggerType ∈ e.claimed, triggerType ∈ triggers)
    (hpost : post d.deployment bps b e = .ok b') : CanLog d out bps triggers r₀ ⟨w, log⟩ e b' := by
  cases e with
  | registry e => exact canLog_registry hm hcaller hpost
  | vault e =>
    cases e with
    | policyPurchased => exact canLog_purchased hw hm (hcaller _ rfl) hpost
    | claimPaid => exact canLog_claimPaid hw hm (htriggers _ rfl) hpost
    | staked => exact canLog_staked hw hm (hcaller _ rfl) hpost
    | unstaked => exact canLog_unstaked hw hm (hcaller _ rfl) hpost

end

/-- Both contracts are deployed, with tokens that the treasury issues. -/
theorem exists_initial {d : Site τ₁ τ₂} {out : Address → Prop} (hs : d.stakeToken.Documented)
    (hu : d.usdcToken.Documented) (hregistry : ¬ out d.registry) (hvault : ¬ out d.vault)
    (htreasury : out d.cfg.treasury) {bps : U64} (hreward : d.cfg.rewardBps.val ≤ bpsDenom)
    (hbps : bps.val ≤ bpsDenom) (triggers : List String) :
    ∃ w, Initial d.deployment w ∧ w.vault.ins.premiumBps = bps ∧ d.stakeToken.Issued out w.registry.reg.token.chain ∧
      d.usdcToken.Issued out w.vault.ins.token.chain ∧ Mirrors d out bps triggers w.registry .empty w := by
  obtain ⟨r, hr₀, hstake, hready, hmirrors⟩ := Registry.exists_initial hs hregistry htreasury hreward
  have hinit : ∃ ins, Insurance.init d.vault d.registry bps d.claimModelId
      (Insurance.State.deployed (Tracked.mk (d.usdcToken.init d.cfg.treasury maxSupply) [])) = .ok ins ∧
        ins.token.chain = d.usdcToken.init d.cfg.treasury maxSupply ∧ ins.premiumBps = bps ∧
        ins.policies = .empty := ⟨_, Insurance.init_ok.2 ⟨hbps, rfl⟩, rfl, rfl, rfl⟩
  obtain ⟨ins, hinit, hchain, hrate, hpolicies⟩ := hinit
  have hne : d.vault ≠ d.cfg.treasury := fun heq => hvault (heq ▸ htreasury)
  have hzero : (d.usdcToken.balanceOf ins.token.chain d.vault).val = 0 := by
    rw [hchain, hu.init_balance, if_neg hne]
    rfl
  have h : Initial d.deployment ⟨r, ⟨ins, 0⟩⟩ := ⟨hr₀, ⟨d.vault, bps, _, hinit⟩, hzero.symm⟩
  have hagrees := h.agrees
  rw [hrate] at hagrees
  refine ⟨_, h, hrate, hstake, ⟨d.cfg.treasury, maxSupply, htreasury, hchain ▸ .refl⟩, hready, hmirrors,
    hagrees.vault, hzero.le, ?_, ?_⟩
  · show Supplied d.usdcToken out d.vault ins.token.chain
    rw [hchain]
    exact .init hu htreasury
  · intro i policy hget
    rw [hpolicies] at hget
    cases hget

/-- **The logs are the accepted ones.**  The accounts in `out`, the treasury
    among them, call a registry, a vault and their tokens.  A list of events is
    the log of what they do exactly if its callers are among them and the
    auditor accepts it. -/
theorem chain_log_iff {d : Site τ₁ τ₂} {out : Address → Prop} (hs : d.stakeToken.Documented)
    (hu : d.usdcToken.Documented) (hregistry : ¬ out d.registry) (hvault : ¬ out d.vault)
    (htreasury : out d.cfg.treasury) {bps : U64} (hreward : d.cfg.rewardBps.val ≤ bpsDenom)
    (hbps : bps.val ≤ bpsDenom) (es : List Event) :
    (∃ w₀ ls c, Initial d.deployment w₀ ∧ w₀.vault.ins.premiumBps = bps ∧
        d.stakeToken.Issued out w₀.registry.reg.token.chain ∧ d.usdcToken.Issued out w₀.vault.ins.token.chain ∧
        Run (OpenChainStep d out) ⟨w₀, []⟩ ls c ∧ c.log = es) ↔
      (∀ e ∈ es, ∀ a ∈ e.caller d.cfg, out a) ∧ ∃ b, audit (post d.deployment bps) .empty es = .ok b := by
  constructor
  · rintro ⟨w₀, ls, c, h₀, rfl, hstake, husdc, h, rfl⟩
    have hready := h₀.ready hs hu hregistry hvault hstake husdc
    obtain ⟨hr, -, hcallers⟩ := Ready.run (c := ⟨w₀, []⟩) hready h
    obtain ⟨b, haudit, -⟩ := audit_of_run hr (fun ls c₁ a c₂ hr hs' => hs'.tracks hs.toStandard hu.toStandard
      (run_operating hs.toStandard hu.toStandard h₀ (run_world hr))) h₀.agrees rfl
    refine ⟨hcallers fun e hmem => ?_, b, haudit⟩
    cases hmem
  · rintro ⟨hcallers, b, haudit⟩
    -- The buyers foresee which triggers will be claimed.
    obtain ⟨w₀, h₀, hrate, hstake, husdc, hm⟩ := exists_initial hs hu hregistry hvault htreasury hreward hbps
      (es.filterMap Event.claimed)
    have hready := h₀.ready hs hu hregistry hvault hstake husdc
    have hfollow : ∀ ls c b e b', e ∈ es → Run (OpenChainStep d out) ⟨w₀, []⟩ ls c →
        Mirrors d out bps (es.filterMap Event.claimed) w₀.registry b c.world → post d.deployment bps b e = .ok b' →
        CanLog d out bps (es.filterMap Event.claimed) w₀.registry c e b' := by
      intro ls c b e b' hmem hr hm hpost
      refine canLog (Ready.run (c := ⟨w₀, []⟩) hready hr).2.1 hm (hcallers e hmem) ?_ hpost
      intro triggerType htrigger
      exact List.mem_filterMap.2 ⟨e, hmem, htrigger⟩
    obtain ⟨ls, c, hr, hlog, -⟩ := run_of_audit hfollow hm rfl haudit
    exact ⟨w₀, ls, c, h₀, hrate, hstake, husdc, hr, hlog⟩

/-- Where the demo contracts are. -/
def demoSite : Site Cep18State Cep18State :=
  ⟨.basic, .basic, demoRegistry, demoVault, demoDeployment.cfg, demoClaimModel⟩

/-- The accounts that are no contract. -/
def isAccount : Address → Prop
  | .account _ => True
  | .contract _ => False

/-- An accepted log: an attestation, capital, a policy and its claim. -/
theorem chain_log_iff_demo : ∃ w₀ ls c, Initial demoSite.deployment w₀ ∧ w₀.vault.ins.premiumBps = 500 ∧
    Cep18Module.basic.Issued isAccount w₀.registry.reg.token.chain ∧
    Cep18Module.basic.Issued isAccount w₀.vault.ins.token.chain ∧
    Run (OpenChainStep demoSite isAccount) ⟨w₀, []⟩ ls c ∧ c.log =
      [.registry (.attestationSubmitted 0 demoOracle demoClaimModel (.replicate 32 7) 1000 1),
       .vault (.staked demoLp 300 300), .vault (.policyPurchased 0 demoHolder 100 5 1000),
       .vault (.claimPaid 0 0 demoHolder 100 "oracle_failure")] := by
  have hcallers : ∀ e ∈ [Event.registry (.attestationSubmitted 0 demoOracle demoClaimModel (.replicate 32 7) 1000 1),
      .vault (.staked demoLp 300 300), .vault (.policyPurchased 0 demoHolder 100 5 1000),
      .vault (.claimPaid 0 0 demoHolder 100 "oracle_failure")],
      ∀ a ∈ e.caller demoSite.cfg, isAccount a := by
    simp [Event.caller, Registry.Event.caller, Insurance.Event.caller, demoOracle, demoLp, demoHolder, isAccount]
  exact (chain_log_iff (d := demoSite) Cep18Module.basic_documented Cep18Module.basic_documented id id trivial
    (by decide) (by decide) _).2 ⟨hcallers, _, rfl⟩

end CasperProof.System
