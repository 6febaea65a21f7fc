/-
  Liveness — every deposit has a way out.

  * `Funded`: the registry's balance covers the deposits, whoever the treasury
    is.
  * `Ledger.room`: no counter is full while an attestation of its account is
    open.
  * `way_out_iff`: in every reachable state the resolver's and the attestor's
    ways out are open, but for the product of stake and `rewardBps`, which
    `resolve` computes on both paths and which has to be a word.
-/
import CasperProof.Contracts.Reputation

namespace CasperProof.Registry

variable {τ : Type} {t : Cep18 τ} {me : Address} {cfg : RegistryConfig} {id : U64} {env : CallEnv} {c : Call}
  {ls : List Label} {moves : List Move} {o o' : Option Attestation} {att : Attestation} {s s' : State (Tracked τ)}
  {w w' w₀ : World τ} {r : Reputation}

/-! ## The balance -/

structure Funded (t : Cep18 τ) (me : Address) (cfg : RegistryConfig) (w : World τ) : Prop where
  wellFormed : WellFormed cfg w.reg
  stakeToken : ∃ a, w.reg.stakeToken = some a
  outside : ∀ i att, w.reg.attestations.get i = some att → Outside me att
  balance : w.reg.attestations.sum deposit ≤ (t.balanceOf w.reg.token.chain me).val

theorem Initial.funded (h : Initial t me cfg w) : Funded t me cfg w where
  wellFormed := h.wellFormed
  stakeToken := by
    obtain ⟨stakeToken, chain, hi⟩ := h.deployed
    obtain ⟨-, hreg⟩ := init_ok.1 hi
    exact ⟨stakeToken, by rw [← hreg]⟩
  outside i att hi := by
    rw [h.empty] at hi
    cases hi
  balance := by
    rw [h.empty, Mapping.sum_empty]
    exact Nat.zero_le _

/-- Tokens are pulled from the caller only. -/
theorem Local.pull_caller (h : Local cfg id o (.call env c id moves) o') {a : Address} {n : ℕ}
    (hmem : .pull a n ∈ moves) : a = env.caller := by
  cases h with
  | submit =>
    rw [List.mem_singleton] at hmem
    cases hmem
    rfl
  | challenge =>
    rw [List.mem_singleton] at hmem
    cases hmem
    rfl
  | resolve =>
    unfold settlement at hmem
    split at hmem <;> split at hmem <;> simp at hmem
  | finalize => simp at hmem

theorem Step.funded {a : Label} (ht : t.Standard) (hw : Funded t me cfg w) (h : Step t me w a w') :
    Funded t me cfg w' := by
  have hwf := h.wellFormed hw.wellFormed
  have ho := h.outside hw.wellFormed hw.outside
  cases h with
  | @call env c id reg _ hc _ hr =>
    have he := call_effect hw.wellFormed.fresh_state rfl hr
    obtain ⟨att, hl, hset⟩ := he.record
    refine ⟨hwf, ?_, ho, ?_⟩
    · rw [show reg.stakeToken = w.reg.stakeToken from he.stakeToken]
      exact hw.stakeToken
    · have hpull : ∀ a n, .pull a n ∈ reg.token.moves → a ≠ me := by
        intro a n hmem
        rw [hl.pull_caller hmem]
        exact hc
      have hbal := (he.executed ht w.reg.token.chain .nil).balance_ge hpull
      have hsum := Mapping.sum_set w.reg.attestations id att deposit
      have hdep := hl.conserves
      have hle := hw.balance
      simp only [State.fresh, State.setToken_attestations] at hdep hset
      show reg.attestations.sum deposit ≤ (t.balanceOf reg.token.chain me).val
      rw [hset]
      omega
  | direct hbal =>
    refine ⟨hwf, hw.stakeToken, ho, ?_⟩
    have hle := hw.balance
    simp only [State.setToken_token, State.setToken_attestations]
    omega

theorem run_funded (ht : t.Standard) (h₀ : Initial t me cfg w₀) (h : Run (Step t me) w₀ ls w) : Funded t me cfg w :=
  h.inv h₀.funded fun _ _ _ hw hs => hs.funded ht hw

/-- The deposit of a record is covered. -/
theorem Funded.covers (hw : Funded t me cfg w) (hget : w.reg.attestations.get id = some att) :
    deposit att ≤ (t.balanceOf w.reg.token.chain me).val := (Mapping.le_sum hget deposit).trans hw.balance

/-! ## The counters -/

/-- All counters but the total count settled records only. -/
theorem Counter.settled {k : Counter} (hk : k ≠ .total) (hc : k.counts att) : isSettled att.status := by
  cases k with
  | total => exact absurd rfl hk
  | successful =>
    simp only [Counter.counts, decide_eq_true_eq] at hc
    rw [hc]
    rfl
  | slashed =>
    simp only [Counter.counts, decide_eq_true_eq] at hc
    rw [hc]
    rfl
  | challengesDefended =>
    simp only [Counter.counts, decide_eq_true_eq] at hc
    rw [hc.1]
    rfl

/-- The counters that settling an open record bumps are not full: the total,
    which is a word, counts the open record too. -/
theorem Ledger.room (hl : Ledger s) (hget : s.attestations.get id = some att) (hopen : ¬ isSettled att.status)
    {k : Counter} (hk : k ≠ .total) : ∃ y, bump (k.value (attestorReputation s att.attestor)) = .ok y := by
  have hone : 0 < s.attestations.count (OpenOf att.attestor) :=
    Mapping.count_pos hget (by simp [OpenOf, hopen])
  have hsplit : s.attestations.count (fun att' => Counts k att.attestor att' || OpenOf att.attestor att') =
      s.attestations.count (Counts k att.attestor) + s.attestations.count (OpenOf att.attestor) := by
    refine Mapping.count_add _ (fun _ => rfl) fun att' hc => ?_
    simp only [Counts, decide_eq_true_eq] at hc
    simp [OpenOf, Counter.settled hk hc.2]
  have hle : s.attestations.count (fun att' => Counts k att.attestor att' || OpenOf att.attestor att') ≤
      s.attestations.count (Counts .total att.attestor) := by
    refine Mapping.count_le _ fun att' hc => ?_
    simp only [Counts, OpenOf, Bool.or_eq_true, decide_eq_true_eq] at hc
    have hown : att'.attestor = att.attestor := by rcases hc with hc | hc <;> exact hc.1
    simp [Counts, Counter.counts, hown]
  have htotal := hl .total att.attestor
  have hcount := hl k att.attestor
  have hword := (attestorReputation s att.attestor).total.isLt
  simp only [Counter.value] at htotal
  have hlt : (k.value (attestorReputation s att.attestor)).val + 1 < 2 ^ 64 := by omega
  exact ⟨⟨_, hlt⟩, bump_ok.2 rfl⟩

theorem resolveReputation_succeeds (hl : Ledger s) (hget : s.attestations.get id = some att)
    (hopen : ¬ isSettled att.status) (fraudulent : Bool) :
    ∃ rep, resolveReputation fraudulent (attestorReputation s att.attestor) = .ok rep := by
  have hroom := fun {k} => hl.room hget hopen (k := k)
  cases fraudulent with
  | true =>
    obtain ⟨slashed, hs⟩ := hroom (k := .slashed) (by decide)
    refine ⟨{ attestorReputation s att.attestor with slashed }, ?_⟩
    simp only [resolveReputation, if_true, bind_eq_ok, pure_eq_ok]
    exact ⟨slashed, hs, rfl⟩
  | false =>
    obtain ⟨successful, hs⟩ := hroom (k := .successful) (by decide)
    obtain ⟨challengesDefended, hd⟩ := hroom (k := .challengesDefended) (by decide)
    refine ⟨{ attestorReputation s att.attestor with successful, challengesDefended }, ?_⟩
    simp only [resolveReputation, Bool.false_eq_true, if_false, bind_eq_ok, pure_eq_ok]
    exact ⟨successful, hs, challengesDefended, hd, rfl⟩

theorem finalizeReputation_succeeds (hl : Ledger s) (hget : s.attestations.get id = some att)
    (hopen : ¬ isSettled att.status) : ∃ rep, finalizeReputation (attestorReputation s att.attestor) = .ok rep := by
  obtain ⟨successful, hs⟩ := hl.room hget hopen (k := .successful) (by decide)
  refine ⟨{ attestorReputation s att.attestor with successful }, ?_⟩
  simp only [finalizeReputation, bind_eq_ok, pure_eq_ok]
  exact ⟨successful, hs, rfl⟩

/-! ## The payments -/

/-- A payment that the registry's balance covers succeeds, and takes the amount
    from it. -/
theorem pay_succeeds (ht : t.Standard) {a : Address} {n : U256} {k : Tracked τ}
    (hcover : n.val ≤ (t.balanceOf k.chain me).val) (ha : a ≠ me) :
    ∃ k', t.pay me a n k = .ok k' ∧ (t.balanceOf k'.chain me).val + n.val = (t.balanceOf k.chain me).val := by
  obtain ⟨chain, hc⟩ := ht.transfer_succeeds (Fin.le_def.2 hcover) ha.symm
  refine ⟨⟨chain, k.moves ++ [.pay a n.val]⟩, ?_, (ht.transfer_moves hc).sender ha.symm⟩
  simp only [Cep18.pay, bind_eq_ok, pure_eq_ok]
  exact ⟨chain, hc, rfl⟩

/-- Only an actual payment needs a recipient other than the registry. -/
theorem pays_succeed (ht : t.Standard) {a b : Address} {n m : U256}
    (hcover : n.val + m.val ≤ (t.balanceOf s.token.chain me).val) (ha : a ≠ me) (hb : 0 < m → b ≠ me) :
    ∃ s', Pays (stakeRef t me) a n b m s s' := by
  obtain ⟨k, hk, hleft⟩ := pay_succeeds (k := s.token) (n := n) ht (by omega) ha
  by_cases hpos : 0 < m
  · obtain ⟨k', hk', -⟩ := pay_succeeds (k := k) (n := m) ht (by omega) (hb hpos)
    refine ⟨s.setToken k', s.setToken k, stakeRef_transfer.2 ⟨k, hk, rfl⟩, ?_⟩
    rw [if_pos hpos]
    exact stakeRef_transfer.2 ⟨k', hk', rfl⟩
  · refine ⟨s.setToken k, s.setToken k, stakeRef_transfer.2 ⟨k, hk, rfl⟩, ?_⟩
    rw [if_neg hpos]

/-- The treasury's part of a settlement. -/
def treasuryPart (cfg : RegistryConfig) (att : Attestation) (fraudulent : Bool) : ℕ :=
  if fraudulent then att.stake.val - reward cfg att else att.challengeBond.val

theorem payouts_succeed (ht : t.Standard) {challenger : Address} {fraudulent : Bool} {rew cut : U256}
    (hrew : rew.val = reward cfg att) (hcut : cut.val + rew.val = att.stake.val)
    (hcover : att.stake.val + att.challengeBond.val ≤ (t.balanceOf s.token.chain me).val)
    (hattestor : att.attestor ≠ me) (hchallenger : challenger ≠ me)
    (htreasury : 0 < treasuryPart cfg att fraudulent → cfg.treasury ≠ me) :
    ∃ s', payouts (stakeRef t me) cfg att challenger fraudulent rew cut s = .ok s' := by
  cases fraudulent with
  | true =>
    have hword := (t.balanceOf s.token.chain me).isLt
    have hpart : 0 < cut → cfg.treasury ≠ me := by
      intro hpos
      refine htreasury ?_
      have : 0 < cut.val := hpos
      simp only [treasuryPart, if_true]
      omega
    obtain ⟨s', hs'⟩ := pays_succeed (s := s) (n := ⟨rew.val + att.challengeBond.val, by omega⟩) (m := cut) ht
      (by simp only; omega) hchallenger hpart
    exact ⟨s', payouts_slash.2 ⟨_, rfl, hs'⟩⟩
  | false =>
    obtain ⟨s', hs'⟩ := pays_succeed (s := s) (n := att.stake) (m := att.challengeBond) ht hcover hattestor
      htreasury
    exact ⟨s', payouts_honest.2 hs'⟩

/-! ## The ways out -/

theorem reward_le (hbps : cfg.rewardBps.val ≤ bpsDenom) (att : Attestation) : reward cfg att ≤ att.stake.val := by
  unfold reward
  refine Nat.div_le_of_le_mul ?_
  rw [Nat.mul_comm]
  exact Nat.mul_le_mul_right _ hbps

/-- What the ways out of a registry rest on. -/
structure Reached (t : Cep18 τ) (me : Address) (cfg : RegistryConfig) (w : World τ) : Prop extends
    Funded t me cfg w where
  ledger : Ledger w.reg
  recorded : ∀ i att, w.reg.attestations.get i = some att → Recorded i att
  rewardBps : cfg.rewardBps.val ≤ bpsDenom

theorem run_reached (ht : t.Standard) (h₀ : Initial t me cfg w₀) (h : Run (Step t me) w₀ ls w) :
    Reached t me cfg w where
  toFunded := run_funded ht h₀ h
  ledger := run_ledger h₀ h
  recorded _ _ hget := (life_of_stored h₀ h hget).recorded
  rewardBps := h₀.rewardBps

/-- **When the resolver's way out is open.**  Of all the arithmetic of `resolve`
    only the product of the stake and `rewardBps` can overflow. -/
theorem Reached.resolve_iff (ht : t.Standard) (hw : Reached t me cfg w) (hget : w.reg.attestations.get id = some att)
    (hst : att.status = .challenged) (fraudulent : Bool)
    (htreasury : 0 < treasuryPart cfg att fraudulent → cfg.treasury ≠ me) (hcaller : env.caller = cfg.resolver) :
    (∃ s', resolve (stakeRef t me) env id fraudulent w.reg.fresh = .ok s') ↔
      att.stake.val * cfg.rewardBps.val < 2 ^ 256 := by
  constructor
  · rintro ⟨s', h⟩
    obtain ⟨cfg', att', _, _, _, _, bps, _, _, hc, -, hget', -, -, hbps, -⟩ := resolve_ok.1 h
    cases hw.wellFormed.config.symm.trans hc
    cases hget.symm.trans hget'
    rw [← hbps]
    exact bps.isLt
  · intro hprod
    obtain ⟨challenger, hch⟩ := Option.isSome_iff_exists.1 ((hw.recorded id att hget).disputed (.inl hst))
    obtain ⟨hattestor, hme⟩ := hw.outside id att hget
    have hchallenger : challenger ≠ me := by
      rintro rfl
      exact hme hch
    obtain ⟨a, ha⟩ := hw.stakeToken
    have hopen : ¬ isSettled att.status := by simp [hst, isSettled]
    obtain ⟨rep, hrep⟩ := resolveReputation_succeeds hw.ledger hget hopen fraudulent
    have hle := reward_le hw.rewardBps att
    have hcover := hw.covers hget
    simp only [deposit, hst] at hcover
    have hword := att.stake.isLt
    have hpay : ∃ s₁, payouts (stakeRef t me) cfg att challenger fraudulent ⟨reward cfg att, by omega⟩
        ⟨att.stake.val - reward cfg att, by omega⟩
        ((w.reg.fresh.setAttestation id (withStatus att (verdict fraudulent))).setReputation att.attestor rep) =
          .ok s₁ :=
      payouts_succeed ht rfl (Nat.sub_add_cancel hle) hcover hattestor hchallenger htreasury
    obtain ⟨s₁, hs₁⟩ := hpay
    exact ⟨_, resolve_ok.2 ⟨cfg, att, challenger, a, s₁, rep, ⟨_, hprod⟩, ⟨reward cfg att, by omega⟩,
      ⟨att.stake.val - reward cfg att, by omega⟩, hw.wellFormed.config, hcaller, hget, hst, hch, rfl, rfl,
      Nat.sub_add_cancel hle, ha, hrep, hs₁, rfl⟩⟩

/-- The attestor's way out is open once the window is closed. -/
theorem Reached.finalize_succeeds (ht : t.Standard) (hw : Reached t me cfg w)
    (hget : w.reg.attestations.get id = some att) (hst : att.status = .active)
    (hclosed : windowClosed cfg env.blockTime att) :
    ∃ s', finalize (stakeRef t me) env id w.reg.fresh = .ok s' := by
  obtain ⟨a, ha⟩ := hw.stakeToken
  have hopen : ¬ isSettled att.status := by simp [hst, isSettled]
  obtain ⟨rep, hrep⟩ := finalizeReputation_succeeds hw.ledger hget hopen
  have hcover := hw.covers hget
  simp only [deposit, hst] at hcover
  obtain ⟨k, hk, -⟩ := pay_succeeds (k := w.reg.fresh.token) (n := att.stake) ht hcover (hw.outside id att hget).1
  exact ⟨_, finalize_ok.2 ⟨att, cfg, a, rep, _, hget, hst, hw.wellFormed.config, hclosed, ha, hrep,
    stakeRef_transfer.2 ⟨k, hk, rfl⟩, rfl⟩⟩

/-- The deposit of `id` can leave the registry: by either verdict of the
    resolver if it is challenged, and by anyone's `finalize` if it is active and
    its window is closed. -/
structure WayOut (t : Cep18 τ) (me : Address) (cfg : RegistryConfig) (id : U64) (att : Attestation)
    (s : State (Tracked τ)) : Prop where
  resolve : att.status = .challenged → ∀ (env : CallEnv) fraudulent, env.selfAddress = me →
    env.caller = cfg.resolver → ∃ s', resolve (stakeRef t me) env id fraudulent s = .ok s'
  finalize : att.status = .active → ∀ env : CallEnv, env.selfAddress = me → windowClosed cfg env.blockTime att →
    ∃ s', finalize (stakeRef t me) env id s = .ok s'

/-- **Liveness.**  In every reachable state a deposit has a way out exactly if
    the product of stake and `rewardBps` is a word once it is challenged. -/
theorem way_out_iff (ht : t.Standard) (h₀ : Initial t me cfg w₀) (htreasury : cfg.treasury ≠ me)
    (h : Run (Step t me) w₀ ls w) :
    ∀ id att, w.reg.attestations.get id = some att →
      (WayOut t me cfg id att w.reg.fresh ↔
        (att.status = .challenged → att.stake.val * cfg.rewardBps.val < 2 ^ 256)) := by
  intro id att hget
  have hw := run_reached ht h₀ h
  constructor
  · intro hout hst
    have hcaller : (CallEnv.mk cfg.resolver me 0).caller = cfg.resolver := rfl
    refine (hw.resolve_iff ht hget hst true (fun _ => htreasury) hcaller).1 ?_
    exact hout.resolve hst _ true rfl rfl
  · intro hprod
    constructor
    · intro hst env fraudulent _ hcaller
      exact (hw.resolve_iff ht hget hst fraudulent (fun _ => htreasury) hcaller).2 (hprod hst)
    · intro hst env _ hclosed
      exact hw.finalize_succeeds ht hget hst hclosed

/-! ## Concrete runs -/

theorem way_out_iff_demo : ∃ ls w att, Run (Step Cep18.basic demoRegistry) demoWorld ls w ∧
    w.reg.attestations.get 0 = some att ∧ att.status = .challenged ∧
    WayOut Cep18.basic demoRegistry demoConfig 0 att w.reg.fresh := by
  obtain ⟨w, -, h, -, ⟨att, hget, hst, hstake⟩, -⟩ := demo_runs
  refine ⟨_, w, att, h, hget, hst, ?_⟩
  refine (way_out_iff Cep18.basic_standard demo_initial (by decide) h 0 att hget).2 fun _ => ?_
  rw [hstake]
  decide +kernel

def whaleStake : U256 := ⟨2 ^ 255, by decide +kernel⟩

/-- Half of all amounts is staked; 500 more are there for the bond. -/
def whaleToken : Cep18State :=
  (Cep18State.init demoAlice ⟨2 ^ 255 + 500, by decide +kernel⟩).approve demoAlice demoRegistry
    ⟨2 ^ 255 + 500, by decide +kernel⟩

def whaleWorld : World Cep18State :=
  { demoWorld with
    reg := { State.deployed ⟨whaleToken, []⟩ with stakeToken := some (.contract 7), config := some demoConfig } }

/-- An admitted stake of half of all words: both verdicts overflow, and stake
    and bond stay in the registry. -/
theorem challenged_stake_stuck : ∃ w, Initial Cep18.basic demoRegistry demoConfig whaleWorld ∧
    Run (Step Cep18.basic demoRegistry) whaleWorld
      [.call (demoEnv demoAlice 5) (.submitAttestation { demoArgs with stake := whaleStake }) 0
         [.pull demoAlice whaleStake.val],
       .call (demoEnv demoAlice 6) (.challenge 0) 0 [.pull demoAlice 500]] w ∧
    demoConfig.treasury ≠ demoRegistry ∧
    (w.reg.attestations.get 0).map (fun att => att.status) = some .challenged ∧
    ∀ fraudulent, resolve (stakeRef Cep18.basic demoRegistry) (demoEnv demoResolver 7) 0 fraudulent w.reg.fresh =
      .error .overflow := by
  have h₁ := Run.single (@Step.call _ Cep18.basic demoRegistry whaleWorld (demoEnv demoAlice 5)
    (.submitAttestation { demoArgs with stake := whaleStake }) 0 _ rfl (by decide) (by decide) rfl)
  have h₂ := h₁.snoc (@Step.call _ Cep18.basic demoRegistry _ (demoEnv demoAlice 6)
    (.challenge 0) 0 _ rfl (by decide) (by decide) rfl)
  refine ⟨_, ⟨⟨.contract 7, whaleToken, rfl⟩, rfl⟩, h₂, by decide, rfl, ?_⟩
  intro fraudulent
  cases fraudulent <;> rfl

end CasperProof.Registry
