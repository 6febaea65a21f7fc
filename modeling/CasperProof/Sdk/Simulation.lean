/-
  The dispute protocol on both sides — the mock backend against the registry.

  * `DisputeStep`: an operation goes to the registry and to the mock, where
    attestation `n` is attestation `n + 1`; a side that rejects it stays as it
    is.  Others may move STAKE in between.
  * `Simulates`: the two sides accept the same operations of a run, and agree
    after each of them.
  * `Sim` relates the two states; `Sim.accepts_iff` says when one more
    operation is accepted by both or by neither (`DisputeOp.Fits`).
-/
import CasperProof.Contracts.Liveness
import CasperProof.Sdk.MockDispute
import CasperProof.Sdk.MockRun

namespace CasperProof.Sdk

open Js Commitment

/-- An operation, with the arguments that either side receives. -/
inductive DisputeOp where
  | submit (args : Registry.SubmitArgs) (margs : SubmitAttestationArgs)
  | challenge (id : U64)
  | resolve (id : U64) (fraudulent : Bool)

/-- The id that the mock gives attestation `id`. -/
def mockId (id : U64) : ℕ := id.val + 1

def DisputeOp.call : DisputeOp → Registry.Call
  | submit args _ => .submitAttestation args
  | challenge id => .challenge id
  | resolve id fraudulent => .resolve id fraudulent

def DisputeOp.mockOp {H : Type} : DisputeOp → MockOp H
  | submit _ margs => .submitAttestation margs
  | challenge id => .challenge (mockId id)
  | resolve id fraudulent => .resolve (mockId id) fraudulent

/-- The registry and the mock. -/
structure Both (τ H : Type) where
  world : Registry.World τ
  mock : MockState H

inductive DisputeLabel where
  | call (env : CallEnv) (now : JsNumber) (op : DisputeOp)
  | direct (received : ℕ)

variable {τ H : Type}

section
variable (t : Cep18 τ) (me : Address) (cfg : RegistryConfig) (name : Address → JsString)

/-- The registry accepts the call. -/
def ContractAccepts (env : CallEnv) (c : Registry.Call) (w : Registry.World τ) : Prop :=
  ∃ r, c.run (Registry.stakeRef t me) env w.reg.fresh = .ok r

/-- The mock accepts the operation. -/
def MockAccepts [DecidableEq H] (menv : MockEnv H) (op : MockOp H) (m : MockState H) : Prop :=
  ∃ r m', (op.run menv).Returns m r m'

/-- The registry after a call; a rejected call changes nothing. -/
def afterCall (env : CallEnv) (c : Registry.Call) (w : Registry.World τ) : Registry.World τ :=
  match c.run (Registry.stakeRef t me) env w.reg.fresh with
  | .ok (_, reg) => ⟨reg, env.blockTime, w.direct⟩
  | .error _ => w

/-- The account has the balance and the allowance: the token grants the amount. -/
def Funds (w : Registry.World τ) (a : Address) (n : U256) : Prop := ∃ k, t.pull me a n w.reg.fresh.token = .ok k

/-- The stake meets both minima or none, the payload has a commitment, callers
    have the funds, and the resolver resolves. -/
inductive Admissible (menv : MockEnv H) (env : CallEnv) (w : Registry.World τ) : DisputeOp → Prop
  | submit {args : Registry.SubmitArgs} {margs : SubmitAttestationArgs} {hashes : CommitmentResult} :
    bigInt margs.stake = some (args.stake.val : ℤ) → (cfg.minStake ≤ args.stake ↔ mockMinStake ≤ args.stake.val) →
    margs.attestor.getD mockAccount = name env.caller →
    computeCommitment menv.blake2b256 ⟨margs.input, margs.output, margs.modelId, margs.timestamp.getD menv.now⟩ =
      .ok hashes →
    Funds t me w env.caller args.stake → Admissible menv env w (.submit args margs)
  | challenge {id : U64} : Funds t me w env.caller cfg.challengeBond → Admissible menv env w (.challenge id)
  | resolve {id : U64} {fraudulent : Bool} : env.caller = cfg.resolver → Admissible menv env w (.resolve id fraudulent)

/-- An operation on both sides, inside every dispute window; or a movement of
    STAKE by others. -/
inductive DisputeStep [DecidableEq H] (menv : MockEnv H) : Both τ H → DisputeLabel → Both τ H → Prop
  | call {p : Both τ H} {env : CallEnv} {now : JsNumber} {op : DisputeOp} : env.selfAddress = me → env.caller ≠ me →
    p.world.clock ≤ env.blockTime →
    (∀ id att, p.world.reg.attestations.get id = some att → ¬ Registry.windowClosed cfg env.blockTime att) →
    Admissible t me cfg name (menv.at now) env p.world op →
      DisputeStep menv p (.call env now op)
        ⟨afterCall t me env op.call p.world, (op.mockOp.run (menv.at now) p.mock).2⟩
  | direct {p : Both τ H} {n : ℕ} {w : Registry.World τ} : Registry.Step t me p.world (.direct n) w →
      DisputeStep menv p (.direct n) ⟨w, p.mock⟩

/-- What the two sides show agrees. -/
structure Agree (p : Both τ H) : Prop where
  statuses : ∀ id, (p.mock.attestations.get (mockId id)).map (fun a => a.status) =
    (p.world.reg.attestations.get id).map fun att => att.status
  count : attestationCount.Returns p.mock (Registry.attestationCount p.world.reg).val p.mock
  counters : ∀ a, ∃ r, (attestorReputation (name a)).Returns p.mock r p.mock ∧
    r.successful = (Registry.attestorReputation p.world.reg a).successful.val ∧
    r.slashed = (Registry.attestorReputation p.world.reg a).slashed.val ∧
    r.challengesDefended = (Registry.attestorReputation p.world.reg a).challengesDefended.val

/-- Along the run the two sides accept the same operations, and agree. -/
structure Simulates [DecidableEq H] (menv : MockEnv H) (p₀ : Both τ H) (ls : List DisputeLabel) : Prop where
  accepts : ∀ l₁ env now op l₂ p p', ls = l₁ ++ .call env now op :: l₂ →
    Run (DisputeStep t me cfg name menv) p₀ l₁ p → DisputeStep t me cfg name menv p (.call env now op) p' →
      (MockAccepts (menv.at now) op.mockOp p.mock ↔ ContractAccepts t me env op.call p.world)
  agrees : ∀ l₁ l₂ p, ls = l₁ ++ l₂ → Run (DisputeStep t me cfg name menv) p₀ l₁ p → Agree name p

/-- The ids of the mock are safe integers, and a settlement can be computed and
    paid. -/
def DisputeOp.Fits (w : Registry.World τ) : DisputeOp → Prop
  | submit args _ => cfg.minStake ≤ args.stake → w.reg.count.val + 1 ≤ maxSafeInteger
  | challenge _ => True
  | resolve id fraudulent => ∀ att, w.reg.attestations.get id = some att → att.status = .challenged →
    att.stake.val * cfg.rewardBps.val < 2 ^ 256 ∧ (0 < Registry.treasuryPart cfg att fraudulent → cfg.treasury ≠ me)

def DisputeLabel.Fits (w : Registry.World τ) : DisputeLabel → Prop
  | call _ _ op => op.Fits me cfg w
  | direct _ => True

end

/-! ## The registry's side -/

section
variable {t : Cep18 τ} {me : Address} {cfg : RegistryConfig} {env : CallEnv} {w : Registry.World τ} {id : U64}
  {c : Registry.Call} {r : U64 × Registry.State (Tracked τ)}

theorem afterCall_accepted (h : c.run (Registry.stakeRef t me) env w.reg.fresh = .ok r) :
    afterCall t me env c w = ⟨r.2, env.blockTime, w.direct⟩ := by
  unfold afterCall
  rw [h]

theorem afterCall_rejected (h : ¬ ContractAccepts t me env c w) : afterCall t me env c w = w := by
  unfold afterCall
  cases hr : c.run (Registry.stakeRef t me) env w.reg.fresh with
  | ok r => exact absurd ⟨r, hr⟩ h
  | error e => rfl

/-- The counters that the mock keeps too. -/
def counters (r : CasperProof.Reputation) : RepCounters := ⟨r.successful.val, r.slashed.val, r.challengesDefended.val⟩

/-- Both sides bump the same counters. -/
theorem counters_resolved {fraudulent : Bool} {rep rep' : CasperProof.Reputation}
    (h : Registry.resolveReputation fraudulent rep = .ok rep') :
    counters rep' = resolvedCounters fraudulent (counters rep) := by
  have hvalue := Registry.resolveReputation_ok h
  have hsuccessful := hvalue .successful
  have hslashed := hvalue .slashed
  have hdefended := hvalue .challengesDefended
  simp only [Registry.Counter.value] at hsuccessful hslashed hdefended
  cases fraudulent with
  | true => simp [counters, resolvedCounters, hsuccessful, hslashed, hdefended]
  | false => simp [counters, resolvedCounters, hsuccessful, hslashed, hdefended]

/-- A submission with the funds is accepted exactly if its stake is enough. -/
theorem submit_accepts_iff (hw : Registry.Reached t me cfg w) (hself : env.selfAddress = me)
    (hroom : w.reg.count.val + 1 < 2 ^ 64) {args : Registry.SubmitArgs} (hfunds : Funds t me w env.caller args.stake) :
    ContractAccepts t me env (.submitAttestation args) w ↔ cfg.minStake ≤ args.stake := by
  constructor
  · rintro ⟨r, hr⟩
    obtain ⟨cfg', _, _, _, _, hc, hmin, -⟩ := Registry.submitAttestation_ok.1 hr
    cases hw.wellFormed.config.symm.trans hc
    exact hmin
  · intro hmin
    obtain ⟨k, hk⟩ := hfunds
    obtain ⟨a, ha⟩ := hw.stakeToken
    have htotal : (Registry.attestorReputation w.reg env.caller).total.val + 1 < 2 ^ 64 := by
      have hledger := hw.ledger .total env.caller
      rw [Mapping.count_eq_sum] at hledger
      have hle := Mapping.sum_le_mul (c := 1) (k := w.reg.count.val) (m := w.reg.attestations)
        (f := fun att => if Registry.Counts .total env.caller att then 1 else 0)
        (fun att => by split <;> omega) fun i hi => hw.wellFormed.fresh i hi
      simp only [Registry.Counter.value] at hledger
      omega
    refine ⟨(w.reg.count, _), Registry.submitAttestation_ok.2 ⟨cfg, a, w.reg.fresh.setToken k,
      ⟨w.reg.count.val + 1, hroom⟩, { Registry.attestorReputation w.reg env.caller with total := ⟨_, htotal⟩ },
      hw.wellFormed.config, hmin, ha, ?_, rfl, rfl, ?_, rfl⟩⟩
    · rw [hself]
      exact Registry.stakeRef_transferFrom.2 ⟨k, hk, rfl⟩
    · simp only [Registry.submitReputation, bind_eq_ok, pure_eq_ok, Registry.bump_ok]
      exact ⟨_, rfl, rfl⟩

theorem submit_accepted {args : Registry.SubmitArgs}
    (h : (Registry.Call.submitAttestation args).run (Registry.stakeRef t me) env w.reg.fresh = .ok r) :
    r.2.attestations = w.reg.attestations.set w.reg.count (Registry.newAttestation env args w.reg.count) ∧
      r.2.count.val = w.reg.count.val + 1 ∧
      ∀ a, counters (Registry.attestorReputation r.2 a) = counters (Registry.attestorReputation w.reg a) := by
  obtain ⟨_, _, _, count, rep, -, -, -, ht, hid, hcount, hrep, hr⟩ :=
    Registry.submitAttestation_ok.1 (h : Registry.submitAttestation _ _ _ _ = .ok (r.1, r.2))
  obtain ⟨k, -, rfl⟩ := Registry.stakeRef_transferFrom.1 ht
  rw [hr, ← hid]
  refine ⟨rfl, by rw [← hid] at hcount; exact hcount, fun a => ?_⟩
  simp only [Registry.submitReputation, bind_eq_ok, pure_eq_ok] at hrep
  obtain ⟨total, -, rfl⟩ := hrep
  simp only [Registry.attestorReputation, Registry.State.emit_reputations, Registry.State.setReputation_reputations,
    Mapping.getD_set]
  split
  · rename_i ha
    rw [ha]
    rfl
  · rfl

/-- A challenge with the funds, inside the window, is accepted exactly if the
    attestation is active. -/
theorem challenge_accepts_iff (id : U64) (hw : Registry.Reached t me cfg w) (hself : env.selfAddress = me)
    (hopen : ∀ id att, w.reg.attestations.get id = some att → ¬ Registry.windowClosed cfg env.blockTime att)
    (hfunds : Funds t me w env.caller cfg.challengeBond) :
    ContractAccepts t me env (.challenge id) w ↔
      ∃ att, w.reg.attestations.get id = some att ∧ att.status = .active := by
  simp only [ContractAccepts, Registry.Call.run, bind_eq_ok, pure_eq_ok]
  constructor
  · rintro ⟨_, reg, hr, -⟩
    obtain ⟨att, _, _, _, hget, hst, -⟩ := Registry.challenge_ok.1 hr
    exact ⟨att, hget, hst⟩
  · rintro ⟨att, hget, hst⟩
    obtain ⟨k, hk⟩ := hfunds
    obtain ⟨a, ha⟩ := hw.stakeToken
    refine ⟨_, _, Registry.challenge_ok.2 ⟨att, cfg, a, w.reg.fresh.setToken k, hget, hst, hw.wellFormed.config,
      hopen id att hget, ha, ?_, rfl⟩, rfl⟩
    rw [hself]
    exact Registry.stakeRef_transferFrom.2 ⟨k, hk, rfl⟩

theorem challenge_accepted (hw : Registry.Reached t me cfg w) {att : CasperProof.Attestation}
    (hget : w.reg.attestations.get id = some att)
    (h : (Registry.Call.challenge id).run (Registry.stakeRef t me) env w.reg.fresh = .ok r) :
    r.2.attestations = w.reg.attestations.set id (Registry.challengedAttestation cfg env att) ∧
      r.2.count = w.reg.count ∧ r.2.reputations = w.reg.reputations := by
  simp only [Registry.Call.run, bind_eq_ok, pure_eq_ok] at h
  obtain ⟨reg, hr, rfl⟩ := h
  obtain ⟨att', cfg', _, _, hget', -, hc, -, -, ht, rfl⟩ := Registry.challenge_ok.1 hr
  cases hget.symm.trans hget'
  cases hw.wellFormed.config.symm.trans hc
  obtain ⟨k, -, rfl⟩ := Registry.stakeRef_transferFrom.1 ht
  exact ⟨rfl, rfl, rfl⟩

/-- A treasury's part cannot be paid to the registry itself. -/
theorem resolve_treasury (hw : Registry.Reached t me cfg w) (hown : ∀ n s s', t.transfer me me n s ≠ .ok s')
    {att : CasperProof.Attestation} (hget : w.reg.attestations.get id = some att) {fraudulent : Bool}
    {s' : Registry.State (Tracked τ)}
    (h : Registry.resolve (Registry.stakeRef t me) env id fraudulent w.reg.fresh = .ok s')
    (hpart : 0 < Registry.treasuryPart cfg att fraudulent) : cfg.treasury ≠ me := by
  obtain ⟨cfg', att', challenger, a, s₁, rep, bps, rew, cut, hc, -, hget', -, -, -, hrew, hcut, -, -, hp, -⟩ :=
    Registry.resolve_ok.1 h
  cases hw.wellFormed.config.symm.trans hc
  cases hget.symm.trans hget'
  have hpaid : ∀ {b : Address} {n m : U256} {s s' : Registry.State (Tracked τ)},
      Registry.Pays (Registry.stakeRef t me) b n cfg.treasury m s s' → 0 < m → cfg.treasury ≠ me := by
    rintro b n m s s' ⟨s₂, -, hpay⟩ hm htreasury
    rw [if_pos hm, htreasury] at hpay
    obtain ⟨k, hk, -⟩ := Registry.stakeRef_transfer.1 hpay
    simp only [Cep18.pay, bind_eq_ok] at hk
    obtain ⟨chain, hchain, -⟩ := hk
    exact hown _ _ _ hchain
  cases fraudulent with
  | true =>
    obtain ⟨payout, -, hpays⟩ := Registry.payouts_slash.1 hp
    simp only [Registry.treasuryPart, if_true] at hpart
    exact hpaid hpays (Fin.lt_def.2 (by simp only [Fin.val_zero]; omega))
  | false => exact hpaid (Registry.payouts_honest.1 hp) hpart

/-- A resolution by the resolver is accepted exactly if the attestation is
    challenged, and the settlement can be computed and paid. -/
theorem resolve_accepts_iff (id : U64) (fraudulent : Bool) (ht : t.Standard) (hw : Registry.Reached t me cfg w)
    (hown : ∀ n s s', t.transfer me me n s ≠ .ok s') (hcaller : env.caller = cfg.resolver) :
    ContractAccepts t me env (.resolve id fraudulent) w ↔
      ∃ att, w.reg.attestations.get id = some att ∧ att.status = .challenged ∧
        att.stake.val * cfg.rewardBps.val < 2 ^ 256 ∧
        (0 < Registry.treasuryPart cfg att fraudulent → cfg.treasury ≠ me) := by
  simp only [ContractAccepts, Registry.Call.run, bind_eq_ok, pure_eq_ok]
  constructor
  · rintro ⟨_, reg, hr, -⟩
    obtain ⟨cfg', att, _, _, _, _, _, _, _, -, -, hget, hst, -⟩ := Registry.resolve_ok.1 hr
    have htreasury := resolve_treasury hw hown hget hr
    exact ⟨att, hget, hst, (hw.resolve_iff ht hget hst fraudulent htreasury hcaller).1 ⟨reg, hr⟩, htreasury⟩
  · rintro ⟨att, hget, hst, hprod, htreasury⟩
    obtain ⟨reg, hr⟩ := (hw.resolve_iff ht hget hst fraudulent htreasury hcaller).2 hprod
    exact ⟨_, reg, hr, rfl⟩

theorem resolve_accepted (hw : Registry.Reached t me cfg w) {att : CasperProof.Attestation}
    (hget : w.reg.attestations.get id = some att) {fraudulent : Bool}
    (h : (Registry.Call.resolve id fraudulent).run (Registry.stakeRef t me) env w.reg.fresh = .ok r) :
    r.2.attestations = w.reg.attestations.set id (Registry.withStatus att (Registry.verdict fraudulent)) ∧
      r.2.count = w.reg.count ∧ ∃ rep, r.2.reputations = w.reg.reputations.set att.attestor rep ∧
        counters rep = resolvedCounters fraudulent (counters (Registry.attestorReputation w.reg att.attestor)) := by
  simp only [Registry.Call.run, bind_eq_ok, pure_eq_ok] at h
  obtain ⟨reg, hr, rfl⟩ := h
  obtain ⟨cfg', att', _, _, s₁, rep, _, rew, cut, hc, -, hget', -, -, -, hrew, hcut, -, hrep, hp, rfl⟩ :=
    Registry.resolve_ok.1 hr
  cases hget.symm.trans hget'
  cases hw.wellFormed.config.symm.trans hc
  obtain ⟨k, rfl, -, -⟩ := Registry.payouts_moves hrew hcut hp
  exact ⟨rfl, rfl, rep, rfl, counters_resolved hrep⟩

end

/-! ## The relation -/

structure Sim (t : Cep18 τ) (me : Address) (cfg : RegistryConfig) (name : Address → JsString) (p : Both τ H) :
    Prop where
  reached : ∃ w₀ ls, Registry.Initial t me cfg w₀ ∧ Run (Registry.Step t me) w₀ ls p.world
  handlers : p.mock.handlers = []
  ids : p.mock.nextAttestationId = p.world.reg.count.val + 1
  safe : p.world.reg.count.val ≤ maxSafeInteger
  stored : ∀ n, (p.mock.attestations.get n).isSome ↔ 0 < n ∧ n < p.mock.nextAttestationId
  records : ∀ id, (p.mock.attestations.get (mockId id)).map (fun a => (a.attestor, a.status)) =
    (p.world.reg.attestations.get id).map fun att => (name att.attestor, att.status)
  reputations : ∀ a, p.mock.reputations.getD (name a) {} = counters (Registry.attestorReputation p.world.reg a)

section
variable {t : Cep18 τ} {me : Address} {cfg : RegistryConfig} {name : Address → JsString} {id : U64} {p p' : Both τ H}
  {att : CasperProof.Attestation}

theorem mockId_inj {i j : U64} : mockId i = mockId j ↔ i = j := by
  rw [mockId, mockId, Nat.add_right_cancel_iff, Fin.val_inj]

theorem Sim.isReached (ht : t.Standard) (h : Sim t me cfg name p) : Registry.Reached t me cfg p.world := by
  obtain ⟨w₀, ls, h₀, hr⟩ := h.reached
  exact Registry.run_reached ht h₀ hr

/-- A record of the registry has its copy in the mock. -/
theorem Sim.copy (h : Sim t me cfg name p) (hget : p.world.reg.attestations.get id = some att) :
    ∃ a, p.mock.attestations.get (mockId id) = some a ∧ a.attestor = name att.attestor ∧ a.status = att.status := by
  have hrec := h.records id
  rw [hget] at hrec
  obtain ⟨a, ha, hview⟩ := Option.map_eq_some_iff.1 hrec
  exact ⟨a, ha, (Prod.mk.inj hview).1, (Prod.mk.inj hview).2⟩

/-- And the other way round. -/
theorem Sim.original (h : Sim t me cfg name p) {a : Attestation}
    (hget : p.mock.attestations.get (mockId id) = some a) :
    ∃ att, p.world.reg.attestations.get id = some att ∧ a.status = att.status := by
  have hrec := h.records id
  rw [hget] at hrec
  obtain ⟨att, hatt, hview⟩ := Option.map_eq_some_iff.1 hrec.symm
  exact ⟨att, hatt, (Prod.mk.inj hview).2.symm⟩

/-- The id of a stored attestation is a safe integer. -/
theorem Sim.safe_id (ht : t.Standard) (h : Sim t me cfg name p) (hget : p.world.reg.attestations.get id = some att) :
    mockId id ≤ maxSafeInteger := by
  have hlt := Registry.stored_lt (h.isReached ht).wellFormed hget
  have hsafe := h.safe
  rw [Fin.lt_def] at hlt
  rw [mockId]
  omega

/-- **What the relation shows.** -/
theorem Sim.agree (h : Sim t me cfg name p) : Agree name p where
  statuses id := by
    have hrec := congrArg (Option.map Prod.snd) (h.records id)
    simpa only [Option.map_map, Function.comp_def] using hrec
  count := by
    have hcount : (List.range p.mock.nextAttestationId).countP (fun id => (p.mock.attestations.get id).isSome) =
        p.world.reg.count.val := by
      have hstored : ∀ n ∈ List.range p.world.reg.count.val, (p.mock.attestations.get (n + 1)).isSome := by
        intro n hn
        have hlt := List.mem_range.1 hn
        exact (h.stored (n + 1)).2 ⟨Nat.succ_pos n, by rw [h.ids]; omega⟩
      have hzero : (p.mock.attestations.get 0).isSome = false := by
        rw [← Bool.not_eq_true, h.stored 0]
        omega
      have hall : (List.range p.world.reg.count.val).countP
          ((fun id => (p.mock.attestations.get id).isSome) ∘ Nat.succ) = (List.range p.world.reg.count.val).length :=
        List.countP_eq_length.2 hstored
      rw [h.ids, List.range_succ_eq_map, List.countP_cons, hzero, List.countP_map, hall, List.length_range]
      rfl
    exact Op.Returns.bind Op.returns_get (Op.pure_returns.2 ⟨hcount, rfl⟩)
  counters a := by
    refine ⟨_, Op.Returns.bind Op.returns_get Op.returns_pure, ?_⟩
    simp only [h.reputations a, counters, and_self]

/-- Both sides rewrite one record. -/
theorem Sim.update (h : Sim t me cfg name p) (id : U64) {a : Attestation} {att : CasperProof.Attestation}
    (hreached : ∃ w₀ ls, Registry.Initial t me cfg w₀ ∧ Run (Registry.Step t me) w₀ ls p'.world)
    (hatts : p'.world.reg.attestations = p.world.reg.attestations.set id att)
    (hmatts : p'.mock.attestations = p.mock.attestations.set (mockId id) a)
    (hattestor : a.attestor = name att.attestor) (hstatus : a.status = att.status)
    (hhandlers : p'.mock.handlers = p.mock.handlers)
    (hids : p'.mock.nextAttestationId = p'.world.reg.count.val + 1) (hsafe : p'.world.reg.count.val ≤ maxSafeInteger)
    (hnext : ∀ n, 0 < n ∧ n < p'.mock.nextAttestationId ↔ n = mockId id ∨ 0 < n ∧ n < p.mock.nextAttestationId)
    (hreps : ∀ a, p'.mock.reputations.getD (name a) {} = counters (Registry.attestorReputation p'.world.reg a)) :
    Sim t me cfg name p' where
  reached := hreached
  handlers := hhandlers.trans h.handlers
  ids := hids
  safe := hsafe
  stored n := by
    rw [hnext n, hmatts, Mapping.get_set]
    by_cases hn : n = mockId id
    · simp [hn]
    · simp [hn, h.stored n]
  records i := by
    rw [hatts, hmatts, Mapping.get_set, Mapping.get_set]
    by_cases hi : i = id
    · rw [if_pos hi, if_pos (mockId_inj.2 hi), Option.map_some, Option.map_some, hattestor, hstatus]
    · rw [if_neg hi, if_neg (mt mockId_inj.1 hi)]
      exact h.records i
  reputations := hreps

/-- Both sides rewrite a record that they store. -/
theorem Sim.rewrite (h : Sim t me cfg name p) {a a₀ : Attestation}
    (hmget : p.mock.attestations.get (mockId id) = some a₀)
    (hreached : ∃ w₀ ls, Registry.Initial t me cfg w₀ ∧ Run (Registry.Step t me) w₀ ls p'.world)
    (hatts : p'.world.reg.attestations = p.world.reg.attestations.set id att)
    (hmatts : p'.mock.attestations = p.mock.attestations.set (mockId id) a)
    (hattestor : a.attestor = name att.attestor) (hstatus : a.status = att.status)
    (hhandlers : p'.mock.handlers = p.mock.handlers)
    (hnext : p'.mock.nextAttestationId = p.mock.nextAttestationId) (hcount : p'.world.reg.count = p.world.reg.count)
    (hreps : ∀ a, p'.mock.reputations.getD (name a) {} = counters (Registry.attestorReputation p'.world.reg a)) :
    Sim t me cfg name p' := by
  have hold : 0 < mockId id ∧ mockId id < p.mock.nextAttestationId := (h.stored (mockId id)).1 (by rw [hmget]; rfl)
  refine h.update id hreached hatts hmatts hattestor hstatus hhandlers ?_ ?_ (fun n => ?_) hreps
  · rw [hnext, hcount]
    exact h.ids
  · rw [hcount]
    exact h.safe
  · rw [hnext]
    constructor
    · exact Or.inr
    · rintro (rfl | hn)
      · exact hold
      · exact hn

/-! ## One operation -/

variable [DecidableEq H] {menv : MockEnv H} {env : CallEnv} {op : DisputeOp} {m m' : MockState H}

theorem mockAccepts_of_returns (op : DisputeOp) {α : Type} {x : BackendOp H α} {f : α → MockResult} {a : α}
    (h : x.Returns m a m') (hop : op.mockOp.run menv = do pure (f (← x))) :
    MockAccepts menv op.mockOp m ∧ (op.mockOp.run menv m).2 = m' := by
  have hrun : (op.mockOp.run menv).Returns m (f a) m' := by
    rw [hop]
    exact Op.Returns.bind h Op.returns_pure
  exact ⟨⟨f a, m', hrun⟩, congrArg Prod.snd hrun⟩

theorem not_mockAccepts_of_throws (op : DisputeOp) {α : Type} {x : BackendOp H α} {f : α → MockResult} {e : SdkError}
    (h : x.Throws m e m') (hop : op.mockOp.run menv = do pure (f (← x))) :
    ¬ MockAccepts menv op.mockOp m ∧ (op.mockOp.run menv m).2 = m' := by
  have hrun : (op.mockOp.run menv).Throws m e m' := by
    rw [hop]
    exact Op.Throws.bind h
  refine ⟨?_, congrArg Prod.snd hrun⟩
  rintro ⟨r, m₁, hr⟩
  cases hrun.symm.trans hr

/-- What comes of an operation: it fits exactly if both sides accept it or
    neither does, and then it keeps the relation. -/
structure Outcome (t : Cep18 τ) (me : Address) (cfg : RegistryConfig) (name : Address → JsString) (menv : MockEnv H)
    (env : CallEnv) (op : DisputeOp) (p : Both τ H) : Prop where
  accepts : (MockAccepts menv op.mockOp p.mock ↔ ContractAccepts t me env op.call p.world) ↔ op.Fits me cfg p.world
  sim : op.Fits me cfg p.world →
    Sim t me cfg name ⟨afterCall t me env op.call p.world, (op.mockOp.run menv p.mock).2⟩

theorem Outcome.both {r : U64 × Registry.State (Tracked τ)} (hm : MockAccepts menv op.mockOp p.mock)
    (hm' : (op.mockOp.run menv p.mock).2 = m')
    (hr : op.call.run (Registry.stakeRef t me) env p.world.reg.fresh = .ok r) (hfits : op.Fits me cfg p.world)
    (hsim : Sim t me cfg name ⟨⟨r.2, env.blockTime, p.world.direct⟩, m'⟩) : Outcome t me cfg name menv env op p := by
  refine ⟨iff_of_true (iff_of_true hm ⟨r, hr⟩) hfits, fun _ => ?_⟩
  rw [afterCall_accepted hr, hm']
  exact hsim

theorem Outcome.neither (h : Sim t me cfg name p) (hm : ¬ MockAccepts menv op.mockOp p.mock)
    (hm' : (op.mockOp.run menv p.mock).2 = p.mock) (hc : ¬ ContractAccepts t me env op.call p.world)
    (hfits : op.Fits me cfg p.world) : Outcome t me cfg name menv env op p := by
  refine ⟨iff_of_true (iff_of_false hm hc) hfits, fun _ => ?_⟩
  rw [afterCall_rejected hc, hm']
  exact h

theorem Outcome.one (hone : ¬ (MockAccepts menv op.mockOp p.mock ↔ ContractAccepts t me env op.call p.world))
    (hfits : ¬ op.Fits me cfg p.world) : Outcome t me cfg name menv env op p :=
  ⟨iff_of_false hone hfits, fun hf => absurd hf hfits⟩

omit [DecidableEq H] in
/-- An accepted call is a step of the registry. -/
theorem Sim.reached_call (h : Sim t me cfg name p) (hself : env.selfAddress = me) (hcaller : env.caller ≠ me)
    (hclock : p.world.clock ≤ env.blockTime) {c : Registry.Call} {r : U64 × Registry.State (Tracked τ)}
    (hr : c.run (Registry.stakeRef t me) env p.world.reg.fresh = .ok r) :
    ∃ w₀ ls, Registry.Initial t me cfg w₀ ∧
      Run (Registry.Step t me) w₀ ls ⟨r.2, env.blockTime, p.world.direct⟩ := by
  obtain ⟨w₀, ls, h₀, hrun⟩ := h.reached
  exact ⟨w₀, _, h₀, hrun.snoc (.call hself hcaller hclock hr)⟩

theorem Sim.submit (ht : t.Standard) (h : Sim t me cfg name p) (hself : env.selfAddress = me)
    (hcaller : env.caller ≠ me) (hclock : p.world.clock ≤ env.blockTime) {args : Registry.SubmitArgs}
    {margs : SubmitAttestationArgs} {hashes : CommitmentResult}
    (hstake : bigInt margs.stake = some (args.stake.val : ℤ))
    (hminima : cfg.minStake ≤ args.stake ↔ mockMinStake ≤ args.stake.val)
    (hattestor : margs.attestor.getD mockAccount = name env.caller)
    (hhashes : computeCommitment menv.blake2b256
      ⟨margs.input, margs.output, margs.modelId, margs.timestamp.getD menv.now⟩ = .ok hashes)
    (hfunds : Funds t me p.world env.caller args.stake) :
    Outcome t me cfg name menv env (.submit args margs) p := by
  have hw := h.isReached ht
  have hsafe := h.safe
  have hroom : p.world.reg.count.val + 1 < 2 ^ 64 := by
    simp only [maxSafeInteger] at hsafe
    omega
  have hiff := submit_accepts_iff hw hself hroom hfunds
  by_cases hmin : cfg.minStake ≤ args.stake
  · have henough : ¬ (args.stake.val : ℤ) < mockMinStake := not_lt.2 (Nat.cast_le.2 (hminima.1 hmin))
    obtain ⟨r, hr⟩ := hiff.2 hmin
    by_cases hid : p.world.reg.count.val + 1 ≤ maxSafeInteger
    · have hnext : p.mock.nextAttestationId ≤ maxSafeInteger := h.ids ▸ hid
      obtain ⟨_, _, hret⟩ := submitAttestation_accepts menv h.handlers hstake henough hhashes hnext
      obtain ⟨hm, hm'⟩ := mockAccepts_of_returns (.submit args margs) hret rfl
      obtain ⟨hatts, hcount, hreps⟩ := submit_accepted hr
      refine .both hm hm' hr (fun _ => hid) ?_
      refine h.update p.world.reg.count
        (a := newAttestation margs hashes (margs.timestamp.getD menv.now) p.mock.nextAttestationId)
        (h.reached_call hself hcaller hclock hr) hatts ?_ hattestor rfl rfl ?_ ?_ ?_ ?_
      · rw [mockId, ← h.ids]
        rfl
      · rw [hcount, ← h.ids]
        rfl
      · rw [hcount]
        exact hid
      · intro n
        simp only [MockState.record_nextAttestationId, MockState.setDeployCounter_nextAttestationId,
          MockState.setAttestation_nextAttestationId, MockState.setNextAttestationId_nextAttestationId, mockId, h.ids]
        omega
      · intro a
        rw [hreps a]
        exact h.reputations a
    · refine .one (fun hacc => ?_) fun hfits => hid (hfits hmin)
      obtain ⟨r', m', hret⟩ := hacc.2 ⟨r, hr⟩
      obtain ⟨_, _, hret, -⟩ := Op.bind_returns.1 hret
      have hsafe := submitAttestation_safe hret
      rw [h.ids] at hsafe
      exact hid hsafe
  · have hlow : (args.stake.val : ℤ) < mockMinStake := Nat.cast_lt.2 (not_le.1 fun hle => hmin (hminima.2 hle))
    obtain ⟨hm, hm'⟩ := not_mockAccepts_of_throws (.submit args margs)
      (submitAttestation_rejects menv (s := p.mock) hstake hlow) rfl
    exact .neither h hm hm' (fun hc => hmin (hiff.1 hc)) fun hmin' => absurd hmin' hmin

theorem Sim.challenge (ht : t.Standard) (h : Sim t me cfg name p) (hself : env.selfAddress = me)
    (hcaller : env.caller ≠ me) (hclock : p.world.clock ≤ env.blockTime)
    (hopen : ∀ id att, p.world.reg.attestations.get id = some att → ¬ Registry.windowClosed cfg env.blockTime att)
    (hfunds : Funds t me p.world env.caller cfg.challengeBond) :
    Outcome t me cfg name menv env (.challenge id) p := by
  have hw := h.isReached ht
  have hiff := challenge_accepts_iff id hw hself hopen hfunds
  by_cases hactive : ∃ att, p.world.reg.attestations.get id = some att ∧ att.status = .active
  · obtain ⟨r, hr⟩ := hiff.2 hactive
    obtain ⟨att, hget, hst⟩ := hactive
    obtain ⟨a, ha, hattestor, hstatus⟩ := h.copy hget
    obtain ⟨_, _, hret⟩ := challenge_accepts menv h.handlers ha (hstatus.trans hst) (h.safe_id ht hget)
    obtain ⟨hm, hm'⟩ := mockAccepts_of_returns (.challenge id) hret rfl
    obtain ⟨hatts, hcount, hreps⟩ := challenge_accepted hw hget hr
    refine .both hm hm' hr trivial ?_
    refine h.rewrite ha (h.reached_call hself hcaller hclock hr) hatts (a := challengedAttestation a) rfl hattestor
      rfl rfl rfl hcount fun b => ?_
    rw [Registry.attestorReputation, hreps]
    exact h.reputations b
  · obtain ⟨e, he⟩ := challenge_rejects menv (mockId id) (s := p.mock) fun a ha hst => by
      obtain ⟨att, hget, hstatus⟩ := h.original ha
      exact hactive ⟨att, hget, hstatus.symm.trans hst⟩
    obtain ⟨hm, hm'⟩ := not_mockAccepts_of_throws (.challenge id) he rfl
    exact .neither h hm hm' (fun hc => hactive (hiff.1 hc)) trivial

theorem Sim.resolve (ht : t.Standard) (hown : ∀ n s s', t.transfer me me n s ≠ .ok s') (hname : Function.Injective name)
    (h : Sim t me cfg name p) (hself : env.selfAddress = me) (hcaller : env.caller ≠ me)
    (hclock : p.world.clock ≤ env.blockTime) (hresolver : env.caller = cfg.resolver) {fraudulent : Bool} :
    Outcome t me cfg name menv env (.resolve id fraudulent) p := by
  have hw := h.isReached ht
  have hiff := resolve_accepts_iff id fraudulent ht hw hown hresolver
  by_cases hchallenged : ∃ att, p.world.reg.attestations.get id = some att ∧ att.status = .challenged
  · obtain ⟨att, hget, hst⟩ := hchallenged
    obtain ⟨a, ha, hattestor, hstatus⟩ := h.copy hget
    obtain ⟨_, _, hret⟩ := resolve_accepts menv fraudulent h.handlers ha (hstatus.trans hst)
      (h.safe_id ht hget)
    obtain ⟨hm, hm'⟩ := mockAccepts_of_returns (.resolve id fraudulent) hret rfl
    by_cases hfits : DisputeOp.Fits me cfg p.world (.resolve id fraudulent)
    · obtain ⟨hprod, htreasury⟩ := hfits att hget hst
      obtain ⟨r, hr⟩ := hiff.2 ⟨att, hget, hst, hprod, htreasury⟩
      obtain ⟨hatts, hcount, rep, hreps, hrep⟩ := resolve_accepted hw hget hr
      refine .both hm hm' hr hfits ?_
      refine h.rewrite ha (h.reached_call hself hcaller hclock hr) hatts
        (a := { a with status := verdict fraudulent }) rfl hattestor ?_ rfl rfl hcount fun b => ?_
      · cases fraudulent <;> rfl
      · simp only [MockState.record_reputations, MockState.setDeployCounter_reputations,
          MockState.setReputation_reputations, MockState.setAttestation_reputations, Registry.attestorReputation, hreps,
          Mapping.getD_set, hattestor, hname.eq_iff]
        split
        · rw [hrep, h.reputations att.attestor]
        · exact h.reputations b
    · refine .one (fun hacc => hfits fun att' hget' _ => ?_) hfits
      obtain ⟨att₁, hget₁, -, hprod, htreasury⟩ := hiff.1 (hacc.1 hm)
      cases hget'.symm.trans hget₁
      exact ⟨hprod, htreasury⟩
  · obtain ⟨e, he⟩ := resolve_rejects menv (mockId id) fraudulent (s := p.mock) fun a ha hst => by
      obtain ⟨att, hget, hstatus⟩ := h.original ha
      exact hchallenged ⟨att, hget, hstatus.symm.trans hst⟩
    obtain ⟨hm, hm'⟩ := not_mockAccepts_of_throws (.resolve id fraudulent) he rfl
    refine .neither h hm hm' (fun hc => ?_) fun att hget hst => absurd ⟨att, hget, hst⟩ hchallenged
    obtain ⟨att, hget, hst, -⟩ := hiff.1 hc
    exact hchallenged ⟨att, hget, hst⟩

/-! ## Runs -/

omit [DecidableEq H] in
/-- Storage is left alone by direct transfers. -/
theorem Sim.direct (h : Sim t me cfg name p) {n : ℕ} {w : Registry.World τ}
    (hs : Registry.Step t me p.world (.direct n) w) : Sim t me cfg name ⟨w, p.mock⟩ := by
  obtain ⟨w₀, ls, h₀, hr⟩ := h.reached
  have hr' := hr.snoc hs
  cases hs with
  | direct => exact ⟨⟨w₀, _, h₀, hr'⟩, h.handlers, h.ids, h.safe, h.stored, h.records, h.reputations⟩

omit [DecidableEq H] in
theorem Sim.initial {w₀ : Registry.World τ} (h₀ : Registry.Initial t me cfg w₀) :
    Sim t me cfg name (⟨w₀, .fresh⟩ : Both τ H) := by
  have hfresh := h₀.empty
  obtain ⟨stakeToken, chain, hi⟩ := h₀.deployed
  obtain ⟨-, hreg⟩ := Registry.init_ok.1 hi
  have hcount : w₀.reg.count = 0 := by rw [← hreg]
  have hreps : w₀.reg.reputations = .empty := by
    rw [← hreg]
    rfl
  refine ⟨⟨w₀, [], h₀, .nil⟩, rfl, ?_, ?_, ?_, ?_, ?_⟩
  · rw [hcount]
    rfl
  · rw [hcount]
    exact Nat.zero_le _
  · intro n
    simp only [MockState.fresh, Mapping.get_empty, Option.isSome_none, Bool.false_eq_true, false_iff]
    omega
  · intro id
    rw [hfresh]
    rfl
  · intro a
    rw [Registry.attestorReputation, hreps]
    rfl

theorem Sim.outcome (ht : t.Standard) (hown : ∀ n s s', t.transfer me me n s ≠ .ok s')
    (hname : Function.Injective name) (h : Sim t me cfg name p) {now : JsNumber}
    (hs : DisputeStep t me cfg name menv p (.call env now op) p') :
    Outcome t me cfg name (menv.at now) env op p ∧
      p' = ⟨afterCall t me env op.call p.world, (op.mockOp.run (menv.at now) p.mock).2⟩ := by
  cases hs with
  | call hself hcaller hclock hopen hadm =>
    refine ⟨?_, rfl⟩
    cases hadm with
    | submit hstake hminima hattestor hhashes hfunds =>
      exact h.submit ht hself hcaller hclock hstake hminima hattestor hhashes hfunds
    | challenge hfunds => exact h.challenge ht hself hcaller hclock hopen hfunds
    | resolve hresolver => exact h.resolve ht hown hname hself hcaller hclock hresolver

theorem Sim.step (ht : t.Standard) (hown : ∀ n s s', t.transfer me me n s ≠ .ok s') (hname : Function.Injective name)
    (h : Sim t me cfg name p) {l : DisputeLabel} (hs : DisputeStep t me cfg name menv p l p')
    (hfits : l.Fits me cfg p.world) : Sim t me cfg name p' := by
  cases l with
  | call env now op =>
    obtain ⟨ho, rfl⟩ := h.outcome ht hown hname hs
    exact ho.sim hfits
  | direct n =>
    cases hs with
    | direct hs => exact h.direct hs

theorem run_sim (ht : t.Standard) (hown : ∀ n s s', t.transfer me me n s ≠ .ok s') (hname : Function.Injective name)
    {w₀ : Registry.World τ} (h₀ : Registry.Initial t me cfg w₀) {ls : List DisputeLabel}
    (h : Run (fun p l p' => DisputeStep t me cfg name menv p l p' ∧ l.Fits me cfg p.world) ⟨w₀, .fresh⟩ ls p) :
    Sim t me cfg name p :=
  h.inv (.initial h₀) fun _ _ _ hs hstep => hs.step ht hown hname hstep.1 hstep.2

section
variable {w₀ : Registry.World τ} {ls l₁ : List DisputeLabel}

/-- Where both sides accept the same operations, the operations fit. -/
theorem Simulates.fits (ht : t.Standard) (hown : ∀ n s s', t.transfer me me n s ≠ .ok s')
    (hname : Function.Injective name) (hsim : Simulates t me cfg name menv ⟨w₀, .fresh⟩ ls) {l : DisputeLabel}
    {l₂ : List DisputeLabel} (hls : ls = l₁ ++ l :: l₂)
    (hr : Run (DisputeStep t me cfg name menv) ⟨w₀, .fresh⟩ l₁ p) (h : Sim t me cfg name p)
    (hs : DisputeStep t me cfg name menv p l p') : l.Fits me cfg p.world := by
  cases l with
  | call env now op => exact (h.outcome ht hown hname hs).1.accepts.1 (hsim.accepts l₁ env now op l₂ p p' hls hr hs)
  | direct n => trivial

theorem Simulates.sim (ht : t.Standard) (hown : ∀ n s s', t.transfer me me n s ≠ .ok s')
    (hname : Function.Injective name) (h₀ : Registry.Initial t me cfg w₀)
    (hsim : Simulates t me cfg name menv ⟨w₀, .fresh⟩ ls)
    (hr : Run (DisputeStep t me cfg name menv) ⟨w₀, .fresh⟩ l₁ p) :
    ∀ l₂, ls = l₁ ++ l₂ → Sim t me cfg name p := by
  induction hr with
  | nil => exact fun _ _ => .initial h₀
  | snoc hr hs ih =>
    intro l₂ hls
    rw [List.append_assoc] at hls
    have h := ih _ hls
    exact h.step ht hown hname hs (hsim.fits ht hown hname hls hr h hs)

end

/-- **The mock simulates the registry.**  In every run the two sides accept the
    same operations and agree after each of them, exactly if all operations
    fit. -/
theorem mock_simulates_iff (ht : t.Standard) (hown : ∀ n s s', t.transfer me me n s ≠ .ok s')
    (hname : Function.Injective name) {w₀ : Registry.World τ} (h₀ : Registry.Initial t me cfg w₀)
    (ls : List DisputeLabel) :
    Simulates t me cfg name menv ⟨w₀, .fresh⟩ ls ↔ ∀ l₁ l l₂ p p', ls = l₁ ++ l :: l₂ →
      Run (DisputeStep t me cfg name menv) ⟨w₀, .fresh⟩ l₁ p → DisputeStep t me cfg name menv p l p' →
        l.Fits me cfg p.world := by
  constructor
  · intro hsim l₁ l l₂ p p' hls hr hs
    have h := hsim.sim ht hown hname h₀ hr _ hls
    exact hsim.fits ht hown hname hls hr h hs
  · intro hfits
    have hrun : ∀ l₁ l₂ p, ls = l₁ ++ l₂ → Run (DisputeStep t me cfg name menv) ⟨w₀, .fresh⟩ l₁ p →
        Sim t me cfg name p := by
      rintro l₁ l₂ p rfl hr
      refine run_sim ht hown hname h₀ (hr.strengthen fun d₁ l d₂ q q' hd hq hs => ?_)
      exact hfits d₁ l (d₂ ++ l₂) q q' (by simp [hd]) hq hs
    constructor
    · intro l₁ env now op l₂ p p' hls hr hs
      have ho := (hrun l₁ _ p hls hr).outcome ht hown hname hs
      exact ho.1.accepts.2 (hfits l₁ _ l₂ p p' hls hr hs)
    · intro l₁ l₂ p hls hr
      exact (hrun l₁ l₂ p hls hr).agree

end

/-! ## Concrete runs -/

/-- The texts of the addresses. -/
def demoName : Address → JsString
  | .account hash => lit "account-hash-" ++ decimal hash.val
  | .contract hash => lit "hash-" ++ decimal hash.val

theorem demoName_injective : Function.Injective demoName := by
  have hdecimal : ∀ {m n : Fin (2 ^ 256)}, decimal m.val = decimal n.val → m = n := by
    intro m n h
    rw [Fin.ext_iff, ← digitsValue_decimal m.val, h, digitsValue_decimal]
  intro a b h
  cases a with
  | account m =>
    cases b with
    | account n => rw [hdecimal (List.append_cancel_left h)]
    | contract n => cases (List.cons.inj h).1
  | contract m =>
    cases b with
    | account n => cases (List.cons.inj h).1
    | contract n => rw [hdecimal (List.append_cancel_left h)]

theorem basic_own (me : Address) (n : U256) (s s' : Cep18State) : Cep18.basic.transfer me me n s ≠ .ok s' := by
  show (if h : me = me then _ else _ : Except Revert Cep18State) ≠ _
  rw [dif_pos rfl]
  nofun

def demoDisputeArgs (stake : JsString) : SubmitAttestationArgs :=
  { demoAttestationArgs with stake, attestor := some (demoName Registry.demoAlice) }

/-- Alice submits a stake, given with its text. -/
def demoSubmission (stake : U256) (text : JsString) : DisputeLabel :=
  .call (Registry.demoEnv Registry.demoAlice 5) (number 1)
    (.submit { Registry.demoArgs with stake } (demoDisputeArgs text))

/-- She challenges herself. -/
def demoChallenge : DisputeLabel := .call (Registry.demoEnv Registry.demoAlice 6) (number 2) (.challenge 0)

/-- The resolver's verdict. -/
def demoVerdict (fraudulent : Bool) : DisputeLabel :=
  .call (Registry.demoEnv Registry.demoResolver 7) (number 3) (.resolve 0 fraudulent)

abbrev DemoStep : Both Cep18State Empty → DisputeLabel → Both Cep18State Empty → Prop :=
  DisputeStep Cep18.basic Registry.demoRegistry Registry.demoConfig demoName (demoMock 0)

def demoSubmitted (stake : U256) : Registry.World Cep18State :=
  afterCall Cep18.basic Registry.demoRegistry (Registry.demoEnv Registry.demoAlice 5)
    (.submitAttestation { Registry.demoArgs with stake }) Registry.whaleWorld

def demoChallenged (stake : U256) : Registry.World Cep18State :=
  afterCall Cep18.basic Registry.demoRegistry (Registry.demoEnv Registry.demoAlice 6) (.challenge 0)
    (demoSubmitted stake)

def demoMocked (text : JsString) : MockState Empty :=
  ((MockOp.challenge 1).run ((demoMock 0).at (number 2))
    ((MockOp.submitAttestation (demoDisputeArgs text)).run ((demoMock 0).at (number 1)) .fresh).2).2

/-- The records of the submission and of the challenge. -/
def demoRecord (stake : U256) : CasperProof.Attestation :=
  Registry.newAttestation (Registry.demoEnv Registry.demoAlice 5) { Registry.demoArgs with stake } 0

def demoDisputed (stake : U256) : CasperProof.Attestation :=
  Registry.challengedAttestation Registry.demoConfig (Registry.demoEnv Registry.demoAlice 6) (demoRecord stake)

/-- A stake that Alice can submit and challenge. -/
structure Disputable (stake : U256) (text : JsString) : Prop where
  text : bigInt text = some (stake.val : ℤ)
  minima : Registry.demoConfig.minStake ≤ stake ↔ mockMinStake ≤ stake.val
  stakeFunds : Funds Cep18.basic Registry.demoRegistry Registry.whaleWorld Registry.demoAlice stake
  bondFunds : Funds Cep18.basic Registry.demoRegistry (demoSubmitted stake) Registry.demoAlice 500
  submitted : (demoSubmitted stake).clock = 5 ∧
    (demoSubmitted stake).reg.attestations = Mapping.empty.set 0 (demoRecord stake)
  challenged : (demoChallenged stake).clock = 6 ∧
    (demoChallenged stake).reg.attestations = (Mapping.empty.set 0 (demoRecord stake)).set 0 (demoDisputed stake)

theorem demo_window {w : Registry.World Cep18State} {att : CasperProof.Attestation} {now : U64}
    (hatts : w.reg.attestations = Mapping.empty.set 0 att)
    (hopen : ¬ Registry.windowClosed Registry.demoConfig now att) :
    ∀ id att, w.reg.attestations.get id = some att → ¬ Registry.windowClosed Registry.demoConfig now att := by
  intro id att' hget
  rw [hatts, Mapping.get_set] at hget
  split at hget
  · cases hget
    exact hopen
  · cases hget

section
variable {stake : U256} {text : JsString}

theorem Disputable.run (h : Disputable stake text) :
    Run DemoStep ⟨Registry.whaleWorld, .fresh⟩ [demoSubmission stake text, demoChallenge]
      ⟨demoChallenged stake, demoMocked text⟩ := by
  obtain ⟨hclock, hatts⟩ := h.submitted
  have hopen : ¬ Registry.windowClosed Registry.demoConfig 6 (demoRecord stake) :=
    show ¬ saturatingAdd 5 (saturatingMul 3600 1000) < (6 : U64) by decide
  obtain ⟨hashes, hhashes⟩ : ∃ hashes, computeCommitment (demoMock 0).blake2b256
      ⟨.null, .null, demoAttestationArgs.modelId, number 1⟩ = .ok hashes := ⟨_, rfl⟩
  have h₁ : DemoStep ⟨Registry.whaleWorld, .fresh⟩ (demoSubmission stake text) ⟨demoSubmitted stake, _⟩ :=
    .call rfl (by decide) (by decide) (fun id att hget => by cases hget)
      (.submit h.text h.minima rfl hhashes h.stakeFunds)
  have h₂ : ∀ m, DemoStep ⟨demoSubmitted stake, m⟩ demoChallenge ⟨demoChallenged stake, _⟩ := fun m =>
    .call rfl (by decide) (by simp only [hclock]; decide) (demo_window hatts hopen) (.challenge h.bondFunds)
  exact (Run.single h₁).snoc (h₂ _)

theorem Disputable.resolved (h : Disputable stake text) (fraudulent : Bool) :
    ∃ p, DemoStep ⟨demoChallenged stake, demoMocked text⟩ (demoVerdict fraudulent) p := by
  obtain ⟨hclock, hatts⟩ := h.challenged
  have hopen : ¬ Registry.windowClosed Registry.demoConfig 7 (demoDisputed stake) :=
    show ¬ saturatingAdd 5 (saturatingMul 3600 1000) < (7 : U64) by decide
  exact ⟨_, .call rfl (by decide) (by simp only [hclock]; decide)
    (demo_window (hatts.trans (Mapping.set_set _ _ _ _)) hopen) (.resolve rfl)⟩

/-- Where the run leads. -/
theorem demo_run_world {p : Both Cep18State Empty}
    (h : Run DemoStep ⟨Registry.whaleWorld, .fresh⟩ [demoSubmission stake text, demoChallenge] p) :
    p.world = demoChallenged stake := by
  obtain ⟨p₁, h₁, hs₁⟩ : ∃ p₁, Run DemoStep ⟨Registry.whaleWorld, .fresh⟩ [demoSubmission stake text] p₁ ∧
      DemoStep p₁ demoChallenge p := Run.unsnoc h
  obtain ⟨p₀, h₀, hs₀⟩ : ∃ p₀, Run DemoStep ⟨Registry.whaleWorld, .fresh⟩ [] p₀ ∧
      DemoStep p₀ (demoSubmission stake text) p₁ := Run.unsnoc h₁
  obtain rfl := h₀.of_nil
  cases hs₁
  cases hs₀
  rfl

end

theorem whale_initial :
    Registry.Initial Cep18.basic Registry.demoRegistry Registry.demoConfig Registry.whaleWorld :=
  ⟨⟨.contract 7, Registry.whaleToken, rfl⟩, rfl⟩

theorem disputable_small : Disputable 2000000000 (lit "2000000000") :=
  ⟨by decide +kernel, by decide +kernel, ⟨_, rfl⟩, ⟨_, rfl⟩, ⟨rfl, rfl⟩, ⟨rfl, rfl⟩⟩

/-- The text of `2 ^ 255`. -/
def whaleText : JsString := lit "57896044618658097711785492504343953926634992332820282019728792003956564819968"

theorem disputable_whale : Disputable Registry.whaleStake whaleText :=
  ⟨by decide +kernel, by decide +kernel, ⟨_, rfl⟩, ⟨_, rfl⟩, ⟨rfl, rfl⟩, ⟨rfl, rfl⟩⟩

/-- A submission, a challenge and a verdict that both sides accept. -/
theorem mock_simulates_iff_demo : ∃ ls p, Run DemoStep ⟨Registry.whaleWorld, .fresh⟩ ls p ∧ ls.length = 3 ∧
    Simulates Cep18.basic Registry.demoRegistry Registry.demoConfig demoName (demoMock 0)
      ⟨Registry.whaleWorld, .fresh⟩ ls := by
  obtain ⟨p, hs⟩ := disputable_small.resolved true
  refine ⟨_, p, disputable_small.run.snoc hs, rfl, ?_⟩
  refine (mock_simulates_iff Cep18.basic_standard (basic_own _) demoName_injective whale_initial _).2 ?_
  intro l₁ l l₂ p p' hls hr _
  rcases l₁ with _ | ⟨a, _ | ⟨b, _ | ⟨c, l₁⟩⟩⟩
  · obtain ⟨rfl, -⟩ := List.cons.inj hls
    obtain rfl := hr.of_nil
    exact fun _ => show 0 + 1 ≤ maxSafeInteger by decide
  · obtain ⟨-, htail⟩ := List.cons.inj hls
    obtain ⟨rfl, -⟩ := List.cons.inj htail
    trivial
  · obtain ⟨rfl, htail⟩ := List.cons.inj hls
    obtain ⟨rfl, htail'⟩ := List.cons.inj htail
    obtain ⟨rfl, -⟩ := List.cons.inj htail'
    intro att hget _
    rw [demo_run_world hr, disputable_small.challenged.2, Mapping.get_set_self] at hget
    cases hget
    exact ⟨by decide +kernel, fun _ => by decide⟩
  · simp at hls

/-- The mock resolves the whale's attestation. -/
theorem whale_mock_accepts :
    MockAccepts ((demoMock 0).at (number 3)) (DisputeOp.resolve 0 true).mockOp (demoMocked whaleText) := by
  have hsome : ((DisputeOp.resolve 0 true).mockOp.run ((demoMock 0).at (number 3))
      (demoMocked whaleText)).1.toOption.isSome := by decide +kernel
  obtain ⟨r, hr⟩ := Option.isSome_iff_exists.1 hsome
  obtain ⟨m, hm⟩ := Op.toOption_eq_some.1 hr
  exact ⟨r, m, hm⟩

/-- The mock slashes a stake that the registry cannot settle. -/
theorem whale_verdict_diverges : ∃ p p', Run DemoStep ⟨Registry.whaleWorld, .fresh⟩
      [demoSubmission Registry.whaleStake whaleText, demoChallenge] p ∧
    DemoStep p (demoVerdict true) p' ∧
    MockAccepts ((demoMock 0).at (number 3)) (DisputeOp.resolve 0 true).mockOp p.mock ∧
    ¬ ContractAccepts Cep18.basic Registry.demoRegistry (Registry.demoEnv Registry.demoResolver 7)
      (DisputeOp.resolve 0 true).call p.world := by
  obtain ⟨p', hs⟩ := disputable_whale.resolved true
  refine ⟨_, p', disputable_whale.run, hs, ?_, ?_⟩
  · dsimp only
    exact whale_mock_accepts
  · have herr : (DisputeOp.resolve 0 true).call.run (Registry.stakeRef Cep18.basic Registry.demoRegistry)
        (Registry.demoEnv Registry.demoResolver 7) (demoChallenged Registry.whaleStake).reg.fresh =
          .error .overflow := rfl
    rintro ⟨r, hr⟩
    cases herr.symm.trans hr

end CasperProof.Sdk
