/-
  Runs of the registry with a standard STAKE token.

  * `World`: the registry, the block time reached, and the tokens that others
    sent to the registry directly.
  * `Step`: a successful entry-point call at a block time that does not go
    back, or any change of the token state by others, which cannot lower the
    registry's balance.  A reverted call changes nothing and is no step.
  * `Local`: the life of one attestation, as a transition system of its own.
    `local_run`: every run of the registry, restricted to the calls about an
    id, is a run of `Local`; the proofs about single attestations only use
    this.
-/
import CasperProof.Lib.Run
import CasperProof.Contracts.Registry

namespace CasperProof.Registry

variable {τ : Type}

@[simps] def State.setToken (s : State τ) (token : τ) : State τ := { s with token }

/-- The STAKE token `t` as the registry at `me` sees it. -/
def stakeRef (t : Cep18 τ) (me : Address) : TokenRef (State (Tracked τ)) where
  transferFrom _ owner _ n s := do pure (s.setToken (← t.pull me owner n s.token))
  transfer _ recipient n s := do pure (s.setToken (← t.pay me recipient n s.token))

/-- The registry, the block time reached, and the total of direct transfers to
    the registry. -/
structure World (τ : Type) where
  reg : State (Tracked τ)
  clock : U64
  direct : ℕ

inductive Label where
  | call (env : CallEnv) (c : Call) (id : U64) (moves : List Move)
  | direct (received : ℕ)
deriving DecidableEq

/-- The state in which a call starts: no movements yet. -/
def State.fresh (s : State (Tracked τ)) : State (Tracked τ) := s.setToken ⟨s.token.chain, []⟩

inductive Step (t : Cep18 τ) (me : Address) : World τ → Label → World τ → Prop
  | call {w env c id reg} : env.selfAddress = me → env.caller ≠ me → w.clock ≤ env.blockTime →
      c.run (stakeRef t me) env w.reg.fresh = .ok (id, reg) →
      Step t me w (.call env c id reg.token.moves) ⟨reg, env.blockTime, w.direct⟩
  | direct {w chain n} : (t.balanceOf chain me).val = (t.balanceOf w.reg.token.chain me).val + n →
      Step t me w (.direct n) ⟨w.reg.setToken ⟨chain, []⟩, w.clock, w.direct + n⟩

/-- A registry just initialised with the configuration `cfg`. -/
structure Initial (t : Cep18 τ) (me : Address) (cfg : RegistryConfig) (w : World τ) : Prop where
  deployed : ∃ stakeToken chain, init stakeToken cfg.minStake cfg.challengeBond cfg.disputeWindow
    cfg.treasury cfg.resolver cfg.rewardBps (State.deployed (Tracked.mk chain [])) = .ok w.reg
  direct : w.direct = (t.balanceOf w.reg.token.chain me).val

theorem init_ok {stakeToken : Address} {cfg : RegistryConfig} {s s' : State τ} :
    init stakeToken cfg.minStake cfg.challengeBond cfg.disputeWindow cfg.treasury cfg.resolver
      cfg.rewardBps s = .ok s' ↔ cfg.rewardBps.val ≤ bpsDenom ∧
        { s with count := 0, stakeToken := some stakeToken, config := some cfg } = s' := by
  simp only [init, bind_eq_ok, failIf_eq_ok, pure_eq_ok, not_lt, exists_and_left, exists_const]

/-! ## One attestation -/

/-- What a resolution pays, in order. -/
def settlement (cfg : RegistryConfig) (att : Attestation) (challenger : Address) (fraudulent : Bool) :
    List Move :=
  if fraudulent then
    .pay challenger (reward cfg att + att.challengeBond.val) ::
      if reward cfg att < att.stake.val then [.pay cfg.treasury (att.stake.val - reward cfg att)] else []
  else
    .pay att.attestor att.stake.val ::
      if 0 < att.challengeBond.val then [.pay cfg.treasury att.challengeBond.val] else []

/-- The life of attestation `id`. -/
inductive Local (cfg : RegistryConfig) (id : U64) : Option Attestation → Label → Option Attestation → Prop
  | submit {env : CallEnv} {args : SubmitArgs} : cfg.minStake ≤ args.stake →
      Local cfg id none (.call env (.submitAttestation args) id [.pull env.caller args.stake.val])
        (some (newAttestation env args id))
  | challenge {env : CallEnv} {att} : att.status = .active → ¬ windowClosed cfg env.blockTime att →
      Local cfg id (some att) (.call env (.challenge id) id [.pull env.caller cfg.challengeBond.val])
        (some (challengedAttestation cfg env att))
  | resolve {env : CallEnv} {att challenger fraudulent} : env.caller = cfg.resolver →
      att.status = .challenged → att.challenger = some challenger → reward cfg att ≤ att.stake.val →
      Local cfg id (some att)
        (.call env (.resolve id fraudulent) id (settlement cfg att challenger fraudulent))
        (some (withStatus att (verdict fraudulent)))
  | finalize {env : CallEnv} {att} : att.status = .active → windowClosed cfg env.blockTime att →
      Local cfg id (some att) (.call env (.finalize id) id [.pay att.attestor att.stake.val])
        (some (withStatus att .finalized))

/-- The label is a call about `id`. -/
def Label.about (id : U64) : Label → Bool
  | call _ _ i _ => i = id
  | direct _ => false

/-- The invariant of the registry's table: `config` is set, and ids are handed
    out in order. -/
structure WellFormed (cfg : RegistryConfig) (s : State (Tracked τ)) : Prop where
  config : s.config = some cfg
  fresh : ∀ i, s.count ≤ i → s.attestations.get i = none

/-- What a successful call does: it rewrites the record of `id` as `Local`
    allows, and the token moves as recorded. -/
structure Effect (t : Cep18 τ) (me : Address) (cfg : RegistryConfig) (env : CallEnv) (c : Call)
    (id : U64) (s s' : State (Tracked τ)) : Prop where
  record : ∃ att, Local cfg id (s.attestations.get id) (.call env c id s'.token.moves) (some att) ∧
    s'.attestations = s.attestations.set id att
  config : s'.config = s.config
  stakeToken : s'.stakeToken = s.stakeToken
  count : s.count ≤ s'.count ∧ id < s'.count
  executed : t.Standard → ∀ c₀, Executed t me c₀ s.token.moves s.token.chain →
    Executed t me c₀ s'.token.moves s'.token.chain

section
variable {t : Cep18 τ} {me : Address} {cfg : RegistryConfig} {env : CallEnv} {id : U64}
  {s s' s₁ : State (Tracked τ)}

@[simp] theorem stakeRef_transferFrom {n : ℕ} {a r : Address} {amount : U256} :
    (stakeRef t me).transferFrom n a r amount s = .ok s' ↔
      ∃ k, t.pull me a amount s.token = .ok k ∧ s.setToken k = s' := by
  simp only [stakeRef, bind_eq_ok, pure_eq_ok]

@[simp] theorem stakeRef_transfer {n : ℕ} {a : Address} {amount : U256} :
    (stakeRef t me).transfer n a amount s = .ok s' ↔
      ∃ k, t.pay me a amount s.token = .ok k ∧ s.setToken k = s' := by
  simp only [stakeRef, bind_eq_ok, pure_eq_ok]

theorem submit_effect {args : SubmitArgs} (hs : WellFormed cfg s) (hm : s.token.moves = [])
    (h : submitAttestation (stakeRef t me) env args s = .ok (id, s')) :
    Effect t me cfg env (.submitAttestation args) id s s' := by
  obtain ⟨cfg', a, s₁, count, rep, hc, hmin, -, ht, rfl, hcount, -, rfl⟩ := submitAttestation_ok.1 h
  obtain ⟨k, hk, rfl⟩ := stakeRef_transferFrom.1 ht
  cases hs.config.symm.trans hc
  have hmv := Cep18.pull_moves hk
  rw [hm] at hmv
  have hfresh : s.attestations.get s.count = none := hs.fresh _ le_rfl
  refine ⟨⟨_, ?_, rfl⟩, rfl, rfl, ?_, fun ht' c₀ hx => ?_⟩
  · simp only [State.emit_token, State.setReputation_token, State.setCount_token,
      State.setAttestation_token, State.setToken, hmv, List.nil_append, hfresh]
    exact .submit hmin
  · simp only [State.emit_count, State.setReputation_count, State.setCount_count]
    constructor <;> simp only [Fin.le_def, Fin.lt_def, State.setToken] at * <;> omega
  · exact Cep18.pull_executed ht' hk hx

theorem challenge_effect (hs : WellFormed cfg s) (hm : s.token.moves = [])
    (h : challenge (stakeRef t me) env id s = .ok s') :
    Effect t me cfg env (.challenge id) id s s' := by
  obtain ⟨att, cfg', a, s₁, hatt, hst, hc, hw, -, ht, rfl⟩ := challenge_ok.1 h
  obtain ⟨k, hk, rfl⟩ := stakeRef_transferFrom.1 ht
  cases hs.config.symm.trans hc
  have hmv := Cep18.pull_moves hk
  rw [hm] at hmv
  refine ⟨⟨_, ?_, rfl⟩, rfl, rfl, ⟨le_rfl, ?_⟩, fun ht' c₀ hx => ?_⟩
  · simp only [State.emit_token, State.setAttestation_token, State.setToken, hmv, List.nil_append, hatt]
    exact .challenge hst hw
  · by_contra hlt
    rw [hs.fresh id (not_lt.1 hlt)] at hatt; cases hatt
  · exact Cep18.pull_executed ht' hk hx

/-- The movements of two payments. -/
theorem pays_moves {a b : Address} {n m : U256} (h : Pays (stakeRef t me) a n b m s s₁) :
    ∃ k, s₁ = s.setToken k ∧
      k.moves = s.token.moves ++ .pay a n.val :: (if 0 < m.val then [.pay b m.val] else []) ∧
      (t.Standard → ∀ c₀, Executed t me c₀ s.token.moves s.token.chain →
        Executed t me c₀ k.moves k.chain) := by
  obtain ⟨_, ht₁, h⟩ := h
  obtain ⟨k₁, h₁, rfl⟩ := stakeRef_transfer.1 ht₁
  have hm₁ := Cep18.pay_moves h₁
  by_cases hpos : 0 < m
  · rw [if_pos hpos, stakeRef_transfer] at h
    obtain ⟨k₂, h₂, rfl⟩ := h
    rw [if_pos (show 0 < m.val from hpos)]
    exact ⟨k₂, rfl, by rw [Cep18.pay_moves h₂]; simp [hm₁], fun ht c₀ hx =>
      Cep18.pay_executed ht h₂ (Cep18.pay_executed ht h₁ hx)⟩
  · rw [if_neg hpos] at h
    subst h
    rw [if_neg (show ¬ 0 < m.val from hpos)]
    exact ⟨k₁, rfl, hm₁, fun ht c₀ hx => Cep18.pay_executed ht h₁ hx⟩

/-- The token calls of `resolve` make the movements of `settlement`. -/
theorem payouts_moves {att : Attestation} {challenger : Address} {fraudulent : Bool} {rew cut : U256}
    (hrew : rew.val = reward cfg att) (hcut : cut.val + rew.val = att.stake.val)
    (h : payouts (stakeRef t me) cfg att challenger fraudulent rew cut s = .ok s₁) :
    ∃ k, s₁ = s.setToken k ∧ k.moves = s.token.moves ++ settlement cfg att challenger fraudulent ∧
      (t.Standard → ∀ c₀, Executed t me c₀ s.token.moves s.token.chain →
        Executed t me c₀ k.moves k.chain) := by
  cases fraudulent with
  | true =>
    obtain ⟨payout, hpay, h⟩ := payouts_slash.1 h
    have hcut' : cut.val = att.stake.val - reward cfg att := by omega
    have hset : settlement cfg att challenger true = .pay challenger payout.val ::
        if 0 < cut.val then [.pay cfg.treasury cut.val] else [] := by
      simp only [settlement, if_true, hpay, hrew, hcut', Nat.sub_pos_iff_lt]
    rw [hset]
    exact pays_moves h
  | false => exact pays_moves (payouts_honest.1 h)

theorem stored_lt (hs : WellFormed cfg s) {att : Attestation} (h : s.attestations.get id = some att) :
    id < s.count := by
  by_contra hlt
  rw [hs.fresh id (not_lt.1 hlt)] at h; cases h

theorem resolve_effect {fraudulent : Bool} (hs : WellFormed cfg s) (hm : s.token.moves = [])
    (h : resolve (stakeRef t me) env id fraudulent s = .ok s') :
    Effect t me cfg env (.resolve id fraudulent) id s s' := by
  obtain ⟨cfg', att, ch, a, s₁, rep, bps, rew, cut, hc, hcl, hatt, hst, hch, -, hrew, hcut, -, -, hp, rfl⟩ :=
    resolve_ok.1 h
  cases hs.config.symm.trans hc
  obtain ⟨k, rfl, hk, hx'⟩ := payouts_moves hrew hcut hp
  simp only [State.setReputation_token, State.setAttestation_token, hm, List.nil_append] at hk
  refine ⟨⟨_, ?_, rfl⟩, rfl, rfl, ⟨le_rfl, show id < s.count from stored_lt hs hatt⟩, fun ht' c₀ hx => ?_⟩
  · simp only [State.emit_token, State.setToken_token, hk, hatt]
    exact .resolve hcl hst hch (by omega)
  · exact hx' ht' c₀ hx

theorem finalize_effect (hs : WellFormed cfg s) (hm : s.token.moves = [])
    (h : finalize (stakeRef t me) env id s = .ok s') :
    Effect t me cfg env (.finalize id) id s s' := by
  obtain ⟨att, cfg', a, rep, s₁, hatt, hst, hc, hw, -, -, ht, rfl⟩ := finalize_ok.1 h
  cases hs.config.symm.trans hc
  obtain ⟨k, hk, rfl⟩ := stakeRef_transfer.1 ht
  have hmv := Cep18.pay_moves hk
  simp only [State.setReputation_token, State.setAttestation_token, hm, List.nil_append] at hmv
  refine ⟨⟨_, ?_, rfl⟩, rfl, rfl, ⟨le_rfl, show id < s.count from stored_lt hs hatt⟩, fun ht' c₀ hx => ?_⟩
  · simp only [State.emit_token, State.setToken_token, hmv, hatt]
    exact .finalize hst hw
  · exact Cep18.pay_executed ht' hk hx

/-- **What one call does.** -/
theorem call_effect {c : Call} (hs : WellFormed cfg s) (hm : s.token.moves = [])
    (h : c.run (stakeRef t me) env s = .ok (id, s')) : Effect t me cfg env c id s s' := by
  cases c with
  | submitAttestation args => exact submit_effect hs hm h
  | challenge i =>
    simp only [Call.run, bind_eq_ok, pure_eq_ok, Prod.mk.injEq] at h
    obtain ⟨_, h, rfl, rfl⟩ := h
    exact challenge_effect hs hm h
  | resolve i fraudulent =>
    simp only [Call.run, bind_eq_ok, pure_eq_ok, Prod.mk.injEq] at h
    obtain ⟨_, h, rfl, rfl⟩ := h
    exact resolve_effect hs hm h
  | finalize i =>
    simp only [Call.run, bind_eq_ok, pure_eq_ok, Prod.mk.injEq] at h
    obtain ⟨_, h, rfl, rfl⟩ := h
    exact finalize_effect hs hm h

theorem Effect.wellFormed {c : Call} (he : Effect t me cfg env c id s s') (hs : WellFormed cfg s) :
    WellFormed cfg s' := by
  obtain ⟨att, -, hset⟩ := he.record
  refine ⟨he.config.trans hs.config, fun i hi => ?_⟩
  have hne : i ≠ id := fun h => absurd he.count.2 (not_lt.2 (h ▸ hi))
  rw [hset, Mapping.get_set_ne _ _ hne]
  exact hs.fresh i (he.count.1.trans hi)

end

/-! ## Runs -/

section
variable {t : Cep18 τ} {me : Address} {cfg : RegistryConfig} {w w' : World τ} {ls : List Label} {a : Label}

theorem Initial.wellFormed (h : Initial t me cfg w) : WellFormed cfg w.reg := by
  obtain ⟨stakeToken, chain, h⟩ := h.deployed
  obtain ⟨-, h⟩ := init_ok.1 h
  rw [← h]
  exact ⟨rfl, fun _ _ => rfl⟩

theorem Initial.rewardBps (h : Initial t me cfg w) : cfg.rewardBps.val ≤ bpsDenom := by
  obtain ⟨stakeToken, chain, h⟩ := h.deployed
  exact (init_ok.1 h).1

theorem Initial.empty (h : Initial t me cfg w) : w.reg.attestations = .empty := by
  obtain ⟨stakeToken, chain, h⟩ := h.deployed
  obtain ⟨-, h⟩ := init_ok.1 h
  rw [← h]; rfl

theorem WellFormed.fresh_state {s : State (Tracked τ)} (h : WellFormed cfg s) : WellFormed cfg s.fresh :=
  ⟨h.config, h.fresh⟩

/-- The effect of the call that a label describes. -/
theorem Step.effect (hs : WellFormed cfg w.reg) {env : CallEnv} {c : Call} {id : U64} {moves : List Move}
    (h : Step t me w (.call env c id moves) w') :
    Effect t me cfg env c id w.reg.fresh w'.reg ∧ w'.reg.token.moves = moves := by
  cases h with
  | call _ _ _ hr => exact ⟨call_effect hs.fresh_state rfl hr, rfl⟩

theorem Step.wellFormed (hs : WellFormed cfg w.reg) (h : Step t me w a w') : WellFormed cfg w'.reg := by
  cases h with
  | call _ _ _ hr => exact (call_effect hs.fresh_state rfl hr).wellFormed hs.fresh_state
  | direct => exact ⟨hs.config, hs.fresh⟩

theorem Local.attestor {id : U64} {att att' : Attestation} (h : Local cfg id (some att) a (some att')) :
    att'.attestor = att.attestor := by
  cases h <;> rfl

/-- The attestor of an attestation never changes. -/
theorem Step.attestor (hs : WellFormed cfg w.reg) (h : Step t me w a w') {id : U64} {att : Attestation}
    (hget : w.reg.attestations.get id = some att) :
    ∃ att', w'.reg.attestations.get id = some att' ∧ att'.attestor = att.attestor := by
  cases h with
  | @call env c i reg _ _ _ hr =>
    obtain ⟨att', hl, hset⟩ := (call_effect hs.fresh_state rfl hr).record
    by_cases hid : id = i
    · subst hid
      refine ⟨att', by rw [hset, Mapping.get_set_self], ?_⟩
      rw [show w.reg.fresh.attestations.get id = some att from hget] at hl
      exact hl.attestor
    · exact ⟨att, by rw [hset, Mapping.get_set_ne _ _ hid]; exact hget, rfl⟩
  | direct => exact ⟨att, hget, rfl⟩

theorem run_wellFormed (h₀ : Initial t me cfg w) (h : Run (Step t me) w ls w') :
    WellFormed cfg w'.reg :=
  h.inv h₀.wellFormed fun _ _ _ hs hstep => hstep.wellFormed hs

/-- **Every run of the registry restricts to a run of each attestation.** -/
theorem local_run_from (hw : WellFormed cfg w.reg) (h : Run (Step t me) w ls w') (id : U64) :
    Run (Local cfg id) (w.reg.attestations.get id) (ls.filter (Label.about id)) (w'.reg.attestations.get id) := by
  refine h.project (fun w => WellFormed cfg w.reg) (fun w => w.reg.attestations.get id) _
    hw (fun _ _ _ hs hstep => hstep.wellFormed hs) ?_ ?_
  · rintro _ _ _ hs (@⟨env, c, i, reg, -, -, -, hr⟩ | _) hid
    · obtain ⟨att, hl, hset⟩ := (call_effect hs.fresh_state rfl hr).record
      simp only [Label.about, decide_eq_true_eq] at hid
      subst hid
      rw [hset, Mapping.get_set_self]
      exact hl
    · simp [Label.about] at hid
  · rintro _ _ _ hs (@⟨env, c, i, reg, -, -, -, hr⟩ | _) hid
    · obtain ⟨att, -, hset⟩ := (call_effect hs.fresh_state rfl hr).record
      simp only [Label.about, decide_eq_true_eq] at hid
      rw [hset, Mapping.get_set_ne _ _ (Ne.symm hid)]
      rfl
    · rfl

theorem local_run (h₀ : Initial t me cfg w) (h : Run (Step t me) w ls w') (id : U64) :
    Run (Local cfg id) none (ls.filter (Label.about id)) (w'.reg.attestations.get id) := by
  have hrun := local_run_from h₀.wellFormed h id
  rw [show w.reg.attestations.get id = none by rw [h₀.empty]; rfl] at hrun
  exact hrun

end

/-! ## A concrete run -/

def demoAlice : Address := .account 1
def demoResolver : Address := .account 3
def demoRegistry : Address := .contract 9

def demoConfig : RegistryConfig where
  minStake := 1000
  challengeBond := 500
  disputeWindow := 3600
  treasury := .account 4
  resolver := demoResolver
  rewardBps := 5000

/-- Alice holds STAKE and lets the registry move it. -/
def demoToken : Cep18State := (Cep18State.init demoAlice 10000).approve demoAlice demoRegistry 10000

def demoWorld : World Cep18State where
  reg := { State.deployed ⟨demoToken, []⟩ with stakeToken := some (.contract 7), config := some demoConfig }
  clock := 0
  direct := 0

def demoArgs : SubmitArgs where
  modelId := "risk-scorer-v1"
  inputHash := .replicate 32 1
  outputHash := .replicate 32 2
  commitment := .replicate 32 3
  uri := "s3://casperproof/abc"
  stake := 1001

def demoEnv (caller : Address) (blockTime : U64) : CallEnv := ⟨caller, demoRegistry, blockTime⟩

theorem demo_initial : Initial Cep18.basic demoRegistry demoConfig demoWorld :=
  ⟨⟨.contract 7, demoToken, rfl⟩, rfl⟩

/-- Alice submits and challenges herself; then she is slashed. -/
theorem demo_runs : ∃ w₁ w₂, Run (Step Cep18.basic demoRegistry) demoWorld
      [.call (demoEnv demoAlice 5) (.submitAttestation demoArgs) 0 [.pull demoAlice 1001],
       .call (demoEnv demoAlice 6) (.challenge 0) 0 [.pull demoAlice 500]] w₁ ∧
    Run (Step Cep18.basic demoRegistry) demoWorld
      [.call (demoEnv demoAlice 5) (.submitAttestation demoArgs) 0 [.pull demoAlice 1001],
       .call (demoEnv demoAlice 6) (.challenge 0) 0 [.pull demoAlice 500],
       .call (demoEnv demoResolver 7) (.resolve 0 true) 0
         [.pay demoAlice 1000, .pay demoConfig.treasury 501]] w₂ ∧
    (∃ att, w₁.reg.attestations.get 0 = some att ∧ att.status = .challenged ∧ att.stake = 1001) ∧
    (Cep18.basic.balanceOf w₂.reg.token.chain demoAlice).val + 501 =
      (Cep18.basic.balanceOf demoWorld.reg.token.chain demoAlice).val ∧
    w₂.reg.events.length = 3 ∧ attestationCount w₂.reg = 1 := by
  have h₁ := Run.single (@Step.call _ Cep18.basic demoRegistry demoWorld (demoEnv demoAlice 5)
    (.submitAttestation demoArgs) 0 _ rfl (by decide) (by decide) rfl)
  have h₂ := h₁.snoc (@Step.call _ Cep18.basic demoRegistry _ (demoEnv demoAlice 6)
    (.challenge 0) 0 _ rfl (by decide) (by decide) rfl)
  have h₃ := h₂.snoc (@Step.call _ Cep18.basic demoRegistry _ (demoEnv demoResolver 7)
    (.resolve 0 true) 0 _ rfl (by decide) (by decide) rfl)
  exact ⟨_, _, h₂, h₃, ⟨_, rfl, rfl, rfl⟩, by decide +kernel, rfl, rfl⟩

theorem demo_run : ∃ w, Run (Step Cep18.basic demoRegistry) demoWorld
    [.call (demoEnv demoAlice 5) (.submitAttestation demoArgs) 0 [.pull demoAlice 1001],
     .call (demoEnv demoAlice 6) (.challenge 0) 0 [.pull demoAlice 500],
     .call (demoEnv demoResolver 7) (.resolve 0 true) 0
       [.pay demoAlice 1000, .pay demoConfig.treasury 501]] w := by
  obtain ⟨_, w, -, h, -⟩ := demo_runs
  exact ⟨w, h⟩

end CasperProof.Registry
