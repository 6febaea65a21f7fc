/-
  The events of the chain, read by an auditor.

  The auditor sees the events of both contracts, in the order of the chain, and
  nothing else.  The events of the vault have no time, and do not show what a
  claim was checked against; it takes both from the registry's.

  `chain_log_accounts`: the auditor accepts the log of every run of the two
  contracts, and its books agree with both.
-/
import CasperProof.Contracts.System
import CasperProof.Contracts.VaultLog

namespace CasperProof.System

open Registry (Refusal)
open Replay

variable {τ₁ τ₂ : Type}

/-! ## The log of the chain -/

/-- An event of either contract. -/
inductive Event where
  | registry (e : Registry.Event)
  | vault (e : Insurance.Event)
deriving DecidableEq

/-- The two contracts, and their events so far in the order of the chain. -/
structure Chain (τ₁ τ₂ : Type) where
  world : World τ₁ τ₂
  log : List Event

/-- What a step adds to the log. -/
def emitted (w w' : World τ₁ τ₂) : List Event :=
  (w'.registry.reg.events.drop w.registry.reg.events.length).map .registry ++
    (w'.vault.ins.events.drop w.vault.ins.events.length).map .vault

inductive ChainStep (d : Deployment τ₁ τ₂) : Chain τ₁ τ₂ → Label → Chain τ₁ τ₂ → Prop
  | mk {w a w' log} : Step d w a w' → ChainStep d ⟨w, log⟩ a ⟨w', log ++ emitted w w'⟩

theorem emitted_registry {w w' : World τ₁ τ₂} {es : List Registry.Event}
    (h : w'.registry.reg.events = w.registry.reg.events ++ es) (hv : w'.vault.ins.events = w.vault.ins.events) :
    emitted w w' = es.map .registry := by
  rw [emitted, h, hv, List.drop_left, List.drop_length, List.map_nil, List.append_nil]

theorem emitted_vault {w w' : World τ₁ τ₂} {es : List Insurance.Event}
    (h : w'.vault.ins.events = w.vault.ins.events ++ es) (hr : w'.registry.reg.events = w.registry.reg.events) :
    emitted w w' = es.map .vault := by
  rw [emitted, h, hr, List.drop_left, List.drop_length, List.map_nil, List.nil_append]

section
variable {d : Deployment τ₁ τ₂} {c c' : Chain τ₁ τ₂} {ls : List Label} {a : Label}

theorem ChainStep.step (h : ChainStep d c a c') : Step d c.world a c'.world := by
  cases h with
  | mk hs => exact hs

theorem run_world (h : Run (ChainStep d) c ls c') : Run (Step d) c.world ls c'.world := by
  induction h with
  | nil => exact .nil
  | snoc _ hs ih => exact ih.snoc hs.step

/-- Every run has a log. -/
theorem exists_log {w w' : World τ₁ τ₂} {log : List Event} (h : Run (Step d) w ls w') :
    ∃ log', Run (ChainStep d) ⟨w, log⟩ ls ⟨w', log'⟩ := by
  induction h with
  | nil => exact ⟨log, .nil⟩
  | snoc _ hs ih =>
    obtain ⟨log', hr⟩ := ih
    exact ⟨_, hr.snoc (.mk hs)⟩

end

/-! ## The auditor -/

/-- The books of the auditor. -/
structure ChainBooks where
  registry : Registry.AuditBooks
  vault : Insurance.VaultBooks

def ChainBooks.empty : ChainBooks := ⟨.empty, .empty⟩

/-- The attestation that a claim names has to be of the claim model, and open or
    finalized. -/
def ChainBooks.backing (d : Deployment τ₁ τ₂) (b : ChainBooks) : Insurance.Event → Except Refusal PUnit
  | .claimPaid _ attestationId _ _ _ => do
    let r ← orFail (b.registry.records.get attestationId) .unknownRecord
    failIf (r.modelId ≠ d.claimModelId) .wrongModel
    failIf (¬ Insurance.backs r.status) .wrongStatus
  | _ => pure ⟨⟩

/-- One event is checked and posted. -/
def post (d : Deployment τ₁ τ₂) (bps : U64) (b : ChainBooks) : Event → Except Refusal ChainBooks
  | .registry e => do
    let registry ← Registry.post d.cfg d.registry b.registry e
    pure { b with registry }
  | .vault e => do
    b.backing d e
    let vault ← Insurance.post bps d.vault b.registry.clock b.vault e
    pure { b with vault }

section
variable {d : Deployment τ₁ τ₂} {bps : U64} {b b' : ChainBooks}

theorem post_registry {e : Registry.Event} : post d bps b (.registry e) = .ok b' ↔
    ∃ registry, Registry.post d.cfg d.registry b.registry e = .ok registry ∧ ⟨registry, b.vault⟩ = b' := by
  simp only [post, bind_eq_ok, pure_eq_ok]

theorem post_vault {e : Insurance.Event} : post d bps b (.vault e) = .ok b' ↔
    b.backing d e = .ok ⟨⟩ ∧ ∃ vault, Insurance.post bps d.vault b.registry.clock b.vault e = .ok vault ∧
      ⟨b.registry, vault⟩ = b' := by
  simp only [post, bind_eq_ok, pure_eq_ok]
  constructor
  · rintro ⟨⟨⟩, hback, vault, hpost, rfl⟩
    exact ⟨hback, vault, hpost, rfl⟩
  · rintro ⟨hback, vault, hpost, rfl⟩
    exact ⟨⟨⟩, hback, vault, hpost, rfl⟩

theorem backing_claim {policyId id : U64} {holder : Address} {amount : U256} {triggerType : String} :
    b.backing d (.claimPaid policyId id holder amount triggerType) = .ok ⟨⟩ ↔
      ∃ r, b.registry.records.get id = some r ∧ r.modelId = d.claimModelId ∧ Insurance.backs r.status := by
  simp only [ChainBooks.backing, bind_eq_ok, orFail_eq_ok, failIf_eq_ok, not_not, ne_eq]
  constructor
  · rintro ⟨r, hget, -, hmodel, hback⟩
    exact ⟨r, hget, hmodel, hback⟩
  · rintro ⟨r, hget, hmodel, hback⟩
    exact ⟨r, hget, ⟨⟩, hmodel, hback⟩

/-- Only claims need a backing. -/
theorem backing_other {e : Insurance.Event}
    (he : ∀ policyId id holder amount triggerType, e ≠ .claimPaid policyId id holder amount triggerType) :
    b.backing d e = .ok ⟨⟩ := by
  cases e with
  | claimPaid => exact absurd rfl (he _ _ _ _ _)
  | _ => rfl

end

/-! ## The log of a run is accepted -/

/-- The books agree with both contracts. -/
structure Agrees (d : Deployment τ₁ τ₂) (bps : U64) (b : ChainBooks) (w : World τ₁ τ₂) : Prop where
  registry : Registry.Agrees b.registry w.registry
  vault : Insurance.Agrees d.usdcToken d.vault bps b.vault w.vault.ins

/-- The tokens behave, and the contracts are set up as deployed. -/
structure Operating (d : Deployment τ₁ τ₂) (w : World τ₁ τ₂) : Prop where
  registry : Registry.Funded d.stakeToken d.registry d.cfg w.registry
  vault : Configured d w

section
variable {d : Deployment τ₁ τ₂} {bps : U64} {b : ChainBooks} {w w' w₀ : World τ₁ τ₂} {c : Chain τ₁ τ₂}
  {ls : List Label} {a : Label}

theorem Step.operating (hs : d.stakeToken.Standard) (hu : d.usdcToken.Standard) (hw : Operating d w)
    (h : Step d w a w') : Operating d w' := by
  refine ⟨?_, h.configured hu hw.vault⟩
  cases h with
  | registry h => exact h.funded hs hw.registry
  | insurance => exact ⟨hw.registry.wellFormed, hw.registry.stakeToken, hw.registry.outside, hw.registry.balance⟩
  | usdc => exact hw.registry

theorem run_operating (hs : d.stakeToken.Standard) (hu : d.usdcToken.Standard) (h₀ : Initial d w₀)
    (h : Run (Step d) w₀ ls w) : Operating d w :=
  h.inv ⟨h₀.registry.funded, h₀.configured⟩ fun _ _ _ hw ha => ha.operating hs hu hw

/-- A record backs a claim as its logged part does. -/
theorem Agrees.backing (hb : Agrees d bps b w) {policyId id : U64} {holder : Address} {amount : U256}
    {triggerType : String} : b.backing d (.claimPaid policyId id holder amount triggerType) = .ok ⟨⟩ ↔
      ∃ att, Backing d w id att := by
  rw [backing_claim]
  constructor
  · rintro ⟨r, hget, hmodel, hback⟩
    obtain ⟨att, hatt, rfl⟩ := hb.registry.stored hget
    exact ⟨att, hatt, hmodel, hback⟩
  · rintro ⟨att, hatt, hmodel, hback⟩
    exact ⟨_, hb.registry.record hatt, hmodel, hback⟩

theorem insurance_tracks (hu : d.usdcToken.Standard) (hw : Configured d w) {env : CallEnv} {call : Insurance.Call}
    {ins : Insurance.State (Tracked τ₂)} (h : InsuranceCall d w env call ins) (hb : Agrees d bps b w) :
    ∃ e b', ins.events = w.vault.ins.events ++ [e] ∧ post d bps b (.vault e) = .ok b' ∧
      Agrees d bps b' ⟨⟨w.registry.reg, env.blockTime, w.registry.direct⟩, ⟨ins, w.vault.direct⟩⟩ := by
  obtain ⟨hself, hcaller, hclock, hr⟩ := h
  have hle := hb.registry.clock.trans hclock
  obtain ⟨e, ⟨hlog, vault, hpost, hv, -⟩, hclaim⟩ := Insurance.call_posts hu hb.vault hcaller hle hr
  have hback : b.backing d e = .ok ⟨⟩ := by
    by_cases he : ∃ policyId id holder amount triggerType, e = .claimPaid policyId id holder amount triggerType
    · obtain ⟨policyId, id, holder, amount, triggerType, rfl⟩ := he
      obtain rfl := hclaim _ _ _ _ _ rfl
      obtain ⟨policy, att, -, hatt, -⟩ := (claim_succeeds_iff hu hw hself hcaller hclock).1
        ⟨ins, hself, hcaller, hclock, hr⟩
      exact hb.backing.2 ⟨att, hatt⟩
    · push Not at he
      exact backing_other he
  refine ⟨e, _, hlog, post_vault.2 ⟨hback, vault, hpost, rfl⟩, ?_, hv⟩
  exact ⟨hb.registry.count, hb.registry.records, hb.registry.reputations, hb.registry.held, hle⟩

/-- **Every step of the chain is tracked.** -/
theorem ChainStep.tracks {c' : Chain τ₁ τ₂} (hs : d.stakeToken.Standard) (hu : d.usdcToken.Standard)
    (hw : Operating d c.world) (h : ChainStep d c a c') :
    Tracks (post d bps) Chain.log (fun b c => Agrees d bps b c.world) c c' := by
  cases h with
  | @mk w a w' log h =>
    intro b hb
    cases h with
    | registry hl =>
      obtain ⟨es, r, hes, haudit, hr⟩ := hl.tracks hs hw.registry b.registry hb.registry
      refine ⟨es.map .registry, ⟨r, b.vault⟩, ?_, ?_, hr, hb.vault⟩
      · exact congrArg (log ++ ·) (emitted_registry hes rfl)
      · exact audit_map Event.registry (fun r => ⟨r, b.vault⟩)
          (fun r₁ e r₂ he => post_registry.2 ⟨r₂, he, rfl⟩) haudit
    | @insurance env call ins hcall =>
      obtain ⟨e, b', hlog, hpost, hb'⟩ := insurance_tracks hu hw.vault hcall hb
      refine ⟨[.vault e], b', ?_, audit_singleton.2 hpost, hb'⟩
      have hemit : emitted w ⟨⟨w.registry.reg, env.blockTime, w.registry.direct⟩, ⟨ins, w.vault.direct⟩⟩ =
          [e].map .vault := emitted_vault hlog rfl
      exact congrArg (log ++ ·) hemit
    | usdc hv =>
      cases hv with
      | @direct chain n hbal =>
        refine ⟨[], b, ?_, rfl, hb.registry, ?_⟩
        · exact congrArg (log ++ ·) (emitted_vault (List.append_nil _).symm rfl)
        · refine ⟨hb.vault.rate, hb.vault.count, hb.vault.policies, hb.vault.positions, hb.vault.totalStaked, ?_⟩
          have hle : b.vault.balance ≤ (d.usdcToken.balanceOf w.vault.ins.token.chain d.vault).val := hb.vault.balance
          show b.vault.balance ≤ (d.usdcToken.balanceOf chain d.vault).val
          omega

theorem Initial.agrees (h : Initial d w) : Agrees d w.vault.ins.premiumBps .empty w := by
  refine ⟨h.registry.agrees.1, ?_⟩
  obtain ⟨usdcToken, premiumBps, chain, hi⟩ := h.vault
  obtain ⟨-, hins⟩ := Insurance.init_ok.1 hi
  rw [← hins]
  exact ⟨rfl, rfl, (Mapping.map_empty Insurance.loggedPolicy).symm, rfl, rfl, Nat.zero_le _⟩

/-- The premiums of the logged policies. -/
def premiums (b : Insurance.VaultBooks) : ℕ := b.policies.sum fun policy => policy.premium.val

/-- The coverage of the claimed policies. -/
def claimedCoverage (b : Insurance.VaultBooks) : ℕ :=
  b.policies.sum fun policy => if policy.status = .claimed then policy.coverage.val else 0

/-- **The log accounts for both contracts.**  The auditor accepts the log of
    every run; its books then have the logged part of every record and policy,
    every reputation and position, and a lower bound of what the vault holds;
    and what the vault was sent directly is what they do not explain. -/
theorem chain_log_accounts (hs : d.stakeToken.Standard) (hu : d.usdcToken.Standard) (h₀ : Initial d w₀)
    (h : Run (ChainStep d) ⟨w₀, []⟩ ls c) :
    ∃ b, audit (post d w₀.vault.ins.premiumBps) .empty c.log = .ok b ∧
      b.registry.count = Registry.attestationCount c.world.registry.reg ∧
      (∀ i, b.registry.records.get i = (c.world.registry.reg.attestations.get i).map Registry.loggedRecord) ∧
      (∀ x, b.registry.reputations.getD x {} = Registry.attestorReputation c.world.registry.reg x) ∧
      b.vault.count = Insurance.policyCount c.world.vault.ins ∧
      (∀ i, b.vault.policies.get i = (c.world.vault.ins.policies.get i).map Insurance.loggedPolicy) ∧
      (∀ x, b.vault.positions.getD x 0 = Insurance.stakedOf c.world.vault.ins x) ∧
      b.vault.totalStaked = Insurance.totalStaked c.world.vault.ins ∧
      b.vault.balance ≤ (d.usdcToken.balanceOf c.world.vault.ins.token.chain d.vault).val ∧
      (d.usdcToken.balanceOf c.world.vault.ins.token.chain d.vault).val + claimedCoverage b.vault =
        b.vault.totalStaked.val + premiums b.vault + c.world.vault.direct := by
  obtain ⟨b, haudit, hb⟩ := audit_of_run h
    (fun ls c₁ a c₂ hr hs' => hs'.tracks hs hu (run_operating hs hu h₀ (run_world hr))) h₀.agrees rfl
  have hacc := (run_configured hu h₀ (run_world h)).accounts.balance
  refine ⟨b, haudit, hb.registry.count, fun i => ?_, fun x => ?_, hb.vault.count, fun i => ?_, fun x => ?_,
    hb.vault.totalStaked, hb.vault.balance, ?_⟩
  · rw [hb.registry.records, Mapping.get_map]
  · rw [hb.registry.reputations]
    rfl
  · rw [hb.vault.policies, Mapping.get_map]
  · rw [hb.vault.positions]
    rfl
  · rw [claimedCoverage, premiums, hb.vault.policies, hb.vault.totalStaked, Mapping.sum_map, Mapping.sum_map]
    exact hacc

end

theorem chain_log_accounts_demo : ∃ ls c b, Run (ChainStep demoDeployment) ⟨demoWorld, []⟩ ls c ∧
    c.world.registry.clock = 3 ∧
    audit (post demoDeployment demoWorld.vault.ins.premiumBps) .empty c.log = .ok b := by
  obtain ⟨ls, w, hr, hclock⟩ := demo_cover_run
  obtain ⟨log, h⟩ := exists_log hr
  obtain ⟨b, haudit, -⟩ := chain_log_accounts (d := demoDeployment) Cep18.basic_standard Cep18.basic_standard
    demo_initial h
  exact ⟨ls, _, b, h, hclock, haudit⟩

end CasperProof.System
