/-
  Every accepted log is a registry's.

  The registry is called by the accounts in `out`, which also call the token
  that they issued; the registry itself is not among them.

  * `OpenStep`: one call by one of the accounts, to the registry or to the
    token.  A token whose module keeps what it documents then moves as `Step`
    allows (`OpenWorld.step`).
  * `log_iff`: the logs of these runs are the logs that the auditor accepts, if
    it knows who may call; so its checks say exactly which logs there are.
-/
import CasperProof.Contracts.EventLog
import CasperProof.Contracts.Supply

namespace CasperProof.Registry

open Replay

variable {τ : Type}

/-! ## The calls of the accounts -/

/-- Who made the call of an event, if the event or the configuration tells. -/
def Event.caller (cfg : RegistryConfig) : Event → Option Address
  | .attestationSubmitted _ attestor _ _ _ _ => some attestor
  | .challenged _ challenger _ _ => some challenger
  | .resolved .. => some cfg.resolver
  | .finalized .. => none

/-- The token came to `chain`, by a call of others. -/
@[simps] def World.afterToken (t : Cep18 τ) (me : Address) (w : World τ) (chain : τ) : World τ where
  reg := w.reg.setToken ⟨chain, []⟩
  clock := w.clock
  direct := w.direct + t.received me w.reg.token.chain chain

theorem World.afterToken_afterToken {t : Cep18 τ} {me : Address} {w : World τ} {c₁ c₂ : τ}
    (h₁ : t.balanceOf w.reg.token.chain me ≤ t.balanceOf c₁ me) (h₂ : t.balanceOf c₁ me ≤ t.balanceOf c₂ me) :
    (w.afterToken t me c₁).afterToken t me c₂ = w.afterToken t me c₂ :=
  congrArg (World.mk (w.reg.setToken ⟨c₂, []⟩) w.clock) (Cep18.received_add h₁ h₂ w.direct)

/-- An account in `out` calls the registry or its token. -/
inductive OpenStep (m : Cep18Module τ) (out : Address → Prop) (me : Address) : World τ → Label → World τ → Prop
  | call {w w' env c id moves} : out env.caller → Step m.toCep18 me w (.call env c id moves) w' →
      OpenStep m out me w (.call env c id moves) w'
  | token {w chain} : m.Called out w.reg.token.chain chain →
      OpenStep m out me w (.direct (m.received me w.reg.token.chain chain)) (w.afterToken m.toCep18 me chain)

section
variable {t : Cep18 τ} {me : Address} {cfg : RegistryConfig} {env : CallEnv} {c : Call} {id : U64}
  {s s' : State (Tracked τ)}

/-- A call logs one event, and its caller is the event's. -/
theorem call_logs (h : c.run (stakeRef t me) env s = .ok (id, s')) :
    ∃ e, s'.events = s.events ++ [e] ∧ ∀ cfg, s.config = some cfg → ∀ a ∈ e.caller cfg, a = env.caller := by
  cases c with
  | submitAttestation args =>
    obtain ⟨_, _, s₁, _, _, -, -, -, ht, -, -, -, rfl⟩ := submitAttestation_ok.1 h
    obtain ⟨k, -, rfl⟩ := stakeRef_transferFrom.1 ht
    exact ⟨_, rfl, fun _ _ a ha => (Option.some.inj ha).symm⟩
  | challenge i =>
    simp only [Call.run, bind_eq_ok, pure_eq_ok, Prod.mk.injEq] at h
    obtain ⟨_, h, rfl, rfl⟩ := h
    obtain ⟨_, _, _, s₁, -, -, -, -, -, ht, rfl⟩ := challenge_ok.1 h
    obtain ⟨k, -, rfl⟩ := stakeRef_transferFrom.1 ht
    exact ⟨_, rfl, fun _ _ a ha => (Option.some.inj ha).symm⟩
  | resolve i fraudulent =>
    simp only [Call.run, bind_eq_ok, pure_eq_ok, Prod.mk.injEq] at h
    obtain ⟨_, h, rfl, rfl⟩ := h
    obtain ⟨cfg', _, _, _, s₁, _, _, _, _, hc', hcaller, -, -, -, -, hrew, hcut, -, -, hp, rfl⟩ := resolve_ok.1 h
    obtain ⟨k, rfl, -, -⟩ := payouts_moves hrew hcut hp
    refine ⟨_, rfl, fun cfg hc a ha => ?_⟩
    cases hc.symm.trans hc'
    exact (Option.some.inj ha).symm.trans hcaller.symm
  | finalize i =>
    simp only [Call.run, bind_eq_ok, pure_eq_ok, Prod.mk.injEq] at h
    obtain ⟨_, h, rfl, rfl⟩ := h
    obtain ⟨_, _, _, _, s₁, -, -, -, -, -, -, ht, rfl⟩ := finalize_ok.1 h
    obtain ⟨k, -, rfl⟩ := stakeRef_transfer.1 ht
    exact ⟨_, rfl, by simp [Event.caller]⟩

theorem pays_token {P : τ → Prop} (hpay : ∀ {a n c c'}, P c → t.transfer me a n c = .ok c' → P c')
    {x y : Address} {n k : U256} (h : Pays (stakeRef t me) x n y k s s') (hs : P s.token.chain) : P s'.token.chain := by
  obtain ⟨_, ht₁, ht₂⟩ := h
  obtain ⟨k₁, hk₁, rfl⟩ := stakeRef_transfer.1 ht₁
  have hs₁ := hpay hs (Cep18.pay_chain hk₁)
  split at ht₂
  · obtain ⟨k₂, hk₂, rfl⟩ := stakeRef_transfer.1 ht₂
    exact hpay hs₁ (Cep18.pay_chain hk₂)
  · rw [← ht₂]
    exact hs₁

/-- The registry pulls tokens in and pays them out; it does nothing else with
    the token. -/
theorem call_token {P : τ → Prop} (hpull : ∀ {a n c c'}, P c → t.transferFrom me a me n c = .ok c' → P c')
    (hpay : ∀ {a n c c'}, P c → t.transfer me a n c = .ok c' → P c')
    (h : c.run (stakeRef t me) env s = .ok (id, s')) (hs : P s.token.chain) : P s'.token.chain := by
  cases c with
  | submitAttestation args =>
    obtain ⟨_, _, s₁, _, _, -, -, -, ht, -, -, -, rfl⟩ := submitAttestation_ok.1 h
    obtain ⟨k, hk, rfl⟩ := stakeRef_transferFrom.1 ht
    exact hpull hs (Cep18.pull_chain hk)
  | challenge i =>
    simp only [Call.run, bind_eq_ok, pure_eq_ok, Prod.mk.injEq] at h
    obtain ⟨_, h, rfl, rfl⟩ := h
    obtain ⟨_, _, _, s₁, -, -, -, -, -, ht, rfl⟩ := challenge_ok.1 h
    obtain ⟨k, hk, rfl⟩ := stakeRef_transferFrom.1 ht
    exact hpull hs (Cep18.pull_chain hk)
  | resolve i fraudulent =>
    simp only [Call.run, bind_eq_ok, pure_eq_ok, Prod.mk.injEq] at h
    obtain ⟨_, h, rfl, rfl⟩ := h
    obtain ⟨_, _, _, _, s₁, _, _, _, _, -, -, -, -, -, -, -, -, -, -, hp, rfl⟩ := resolve_ok.1 h
    have hs₁ : P s₁.token.chain := by
      cases fraudulent with
      | true =>
        obtain ⟨payout, -, hp⟩ := payouts_slash.1 hp
        exact pays_token hpay hp hs
      | false => exact pays_token hpay (payouts_honest.1 hp) hs
    exact hs₁
  | finalize i =>
    simp only [Call.run, bind_eq_ok, pure_eq_ok, Prod.mk.injEq] at h
    obtain ⟨_, h, rfl, rfl⟩ := h
    obtain ⟨_, _, _, _, s₁, -, -, -, -, -, -, ht, rfl⟩ := finalize_ok.1 h
    obtain ⟨k, hk, rfl⟩ := stakeRef_transfer.1 ht
    exact hpay hs (Cep18.pay_chain hk)

/-- Steps only append to the log. -/
theorem OpenStep.logs {m : Cep18Module τ} {out : Address → Prop} {w w' : World τ} {a : Label}
    (h : OpenStep m out me w a w') : ∃ es, w'.reg.events = w.reg.events ++ es := by
  cases h with
  | call _ hs =>
    cases hs with
    | call _ _ _ hr =>
      obtain ⟨e, hlog, -⟩ := call_logs hr
      exact ⟨[e], hlog⟩
  | token => exact ⟨[], (List.append_nil _).symm⟩

end

/-- What holds while only the accounts in `out` call. -/
structure OpenWorld (m : Cep18Module τ) (out : Address → Prop) (me : Address) (cfg : RegistryConfig) (w : World τ) :
    Prop where
  wellFormed : WellFormed cfg w.reg
  guarded : m.Guarded me w.reg.token.chain
  parties : ∀ i att, w.reg.attestations.get i = some att → Among out att
  callers : ∀ e ∈ w.reg.events, ∀ a ∈ e.caller cfg, out a

section
variable {m : Cep18Module τ} {out : Address → Prop} {me : Address} {cfg : RegistryConfig} {w w' w₀ : World τ}
  {ls : List Label} {a : Label}

/-- **The calls of the accounts.**  What they do is a step of the registry. -/
theorem OpenWorld.step (hm : m.Documented) (hme : ¬ out me) (hw : OpenWorld m out me cfg w)
    (h : OpenStep m out me w a w') : Step m.toCep18 me w a w' ∧ OpenWorld m out me cfg w' := by
  cases h with
  | @call _ env c id moves hout hs =>
    have hcaller : ∀ env' c' i ms, Label.call env c id moves = .call env' c' i ms → out env'.caller := by
      rintro _ _ _ _ ⟨⟩
      exact hout
    refine ⟨hs, hs.wellFormed hw.wellFormed, ?_, hs.among hw.wellFormed hcaller hw.parties, ?_⟩
    · cases hs with
      | call _ _ _ hr =>
        exact call_token (fun hg h => hg.of_transferFrom hm h) (fun hg h => hg.of_transfer hm h) hr hw.guarded
    · cases hs with
      | call _ _ _ hr =>
        obtain ⟨e, hlog, he⟩ := call_logs hr
        intro e' hmem a ha
        rw [hlog] at hmem
        rcases List.mem_append.1 hmem with hmem | hmem
        · exact hw.callers e' hmem a ha
        · obtain rfl := List.mem_singleton.1 hmem
          exact he cfg hw.wellFormed.config a ha ▸ hout
  | @token chain hcalled =>
    obtain ⟨hg, hle⟩ := hcalled.guarded hm hme hw.guarded
    exact ⟨.direct (Cep18.add_received hle).symm, ⟨hw.wellFormed.config, hw.wellFormed.fresh⟩, hg, hw.parties, hw.callers⟩

theorem Initial.toOpenWorld (hm : m.Documented) (hme : ¬ out me) (h₀ : Initial m.toCep18 me cfg w₀)
    (htoken : m.Issued out w₀.reg.token.chain) : OpenWorld m out me cfg w₀ := by
  refine ⟨h₀.wellFormed, htoken.guarded hm hme, fun i att hget => ?_, fun e hmem => ?_⟩
  · rw [h₀.empty] at hget
    cases hget
  · rw [h₀.agrees.2] at hmem
    cases hmem

theorem OpenWorld.run (hm : m.Documented) (hme : ¬ out me) (hw : OpenWorld m out me cfg w)
    (h : Run (OpenStep m out me) w ls w') : Run (Step m.toCep18 me) w ls w' ∧ OpenWorld m out me cfg w' := by
  induction h with
  | nil => exact ⟨.nil, hw⟩
  | snoc _ hs ih =>
    obtain ⟨hr, hw₁⟩ := ih
    obtain ⟨hs, hw₂⟩ := hw₁.step hm hme hs
    exact ⟨hr.snoc hs, hw₂⟩

/-- Some calls of the token, before a call of the registry. -/
theorem run_afterToken (hm : m.Documented) (hme : ¬ out me) {chain : τ} (hg : m.Guarded me w.reg.token.chain)
    (h : Relation.TransGen (m.Called out) w.reg.token.chain chain) :
    ∃ ls, Run (OpenStep m out me) w ls (w.afterToken m.toCep18 me chain) := by
  refine Cep18Module.run_called (w.afterToken m.toCep18 me) hm hme hg (fun hcalled => ⟨_, .token hcalled⟩)
    (fun {c₁ c₂} hle₁ hle₂ hcalled => ?_) h
  have hs : OpenStep m out me (w.afterToken m.toCep18 me c₁) _ _ := .token hcalled
  rw [World.afterToken_afterToken hle₁ hle₂] at hs
  exact ⟨_, hs⟩

end

/-! ## The registry follows the auditor -/

/-- A state of the run that follows the auditor: the clock is the auditor's, and
    the accounts, who sent nothing to the registry directly, have the rest of
    the supply. -/
structure Mirrors (m : Cep18Module τ) (out : Address → Prop) (me : Address) (b : AuditBooks) (w : World τ) : Prop where
  agrees : Agrees b w
  clock : w.clock ≤ b.clock
  direct : w.direct = 0
  supplied : Supplied m out me w.reg.token.chain

/-- The accounts can make the event that the auditor accepted. -/
def CanLog (m : Cep18Module τ) (out : Address → Prop) (me : Address) (w : World τ) (e : Event) (b' : AuditBooks) :
    Prop :=
  ∃ ls w', Run (OpenStep m out me) w ls w' ∧ w'.reg.events = w.reg.events ++ [e] ∧ Mirrors m out me b' w'

/-- What the constructed runs rest on: the module, and a registry in a state
    that the accounts reached. -/
structure Ready (m : Cep18Module τ) (out : Address → Prop) (me : Address) (cfg : RegistryConfig) (w₀ w : World τ) :
    Prop extends OpenWorld m out me cfg w where
  documented : m.Documented
  outside : ¬ out me
  treasury : out cfg.treasury
  initial : Initial m.toCep18 me cfg w₀
  reached : ∃ ls, Run (Step m.toCep18 me) w₀ ls w

section
variable {m : Cep18Module τ} {out : Address → Prop} {me : Address} {cfg : RegistryConfig} {b b' : AuditBooks}
  {env : CallEnv} {c : Call} {id : U64} {reg : State (Tracked τ)} {w w' w₀ : World τ} {ls : List Label} {e : Event}

theorem Ready.ne (hw : Ready m out me cfg w₀ w) {a : Address} (ha : out a) : a ≠ me := by
  rintro rfl
  exact hw.outside ha

theorem Ready.run (hw : Ready m out me cfg w₀ w) (h : Run (OpenStep m out me) w ls w') :
    Ready m out me cfg w₀ w' := by
  obtain ⟨hr, hw'⟩ := hw.toOpenWorld.run hw.documented hw.outside h
  obtain ⟨ls₀, hr₀⟩ := hw.reached
  exact ⟨hw', hw.documented, hw.outside, hw.treasury, hw.initial, _, hr₀.append hr⟩

/-- The deposits have their ways out. -/
theorem Ready.toReached (hw : Ready m out me cfg w₀ w) : Reached m.toCep18 me cfg w := by
  obtain ⟨ls, h⟩ := hw.reached
  exact run_reached hw.documented.toStandard hw.initial h

/-- What is in custody is all that the registry holds. -/
theorem Ready.balance (hw : Ready m out me cfg w₀ w) (hmir : Mirrors m out me b w) :
    (m.balanceOf w.reg.token.chain me).val = b.held := by
  obtain ⟨ls, h⟩ := hw.reached
  have hbal := (run_custody hw.documented.toStandard hw.initial (hw.ne hw.treasury) h).balance
  rw [hmir.direct, Nat.add_zero] at hbal
  rw [hmir.agrees.held]
  exact hbal

/-- The tokens stay with the accounts. -/
theorem Ready.supplied (hw : Ready m out me cfg w₀ w) (hs : Supplied m out me w.reg.token.chain)
    (hcaller : out env.caller) (hr : c.run (stakeRef m.toCep18 me) env w.reg.fresh = .ok (id, reg)) :
    Supplied m out me reg.token.chain := by
  have he := call_effect hw.wellFormed.fresh_state rfl hr
  obtain ⟨att, hl, -⟩ := he.record
  exact hs.executed (he.executed hw.documented.toStandard _ .nil) (hl.party hcaller hw.treasury (hw.parties id))

/-- A call that logs the event. -/
theorem canLog_of_call (hw : Ready m out me cfg w₀ w) (hmir : Mirrors m out me b w) (hself : env.selfAddress = me)
    (hcaller : out env.caller) (hclock : w.clock ≤ env.blockTime)
    (hr : c.run (stakeRef m.toCep18 me) env w.reg.fresh = .ok (id, reg))
    (hposts : Posts cfg me b w ⟨reg, env.blockTime, w.direct⟩ e) (hpost : post cfg me b e = .ok b')
    (hle : env.blockTime ≤ b'.clock) : CanLog m out me w e b' := by
  obtain ⟨hlog, b₁, hpost', hagrees⟩ := hposts
  cases hpost'.symm.trans hpost
  exact ⟨_, _, .single (.call hcaller (.call hself (hw.ne hcaller) hclock hr)), hlog, hagrees, hle, hmir.direct,
    hw.supplied hmir.supplied hcaller hr⟩

/-- Before a call, its caller gets the tokens that it is to pay, and lets the
    registry have them. -/
theorem Mirrors.raise (hw : Ready m out me cfg w₀ w) (hmir : Mirrors m out me b w) {payer : Address} {n : U256}
    (hpayer : out payer) (hroom : b.held + n.val < 2 ^ 256) :
    ∃ ls w₁, Run (OpenStep m out me) w ls w₁ ∧ Ready m out me cfg w₀ w₁ ∧ Mirrors m out me b w₁ ∧
      w₁.clock = w.clock ∧ w₁.reg.events = w.reg.events ∧
      ∃ k, m.pull me payer n w₁.reg.fresh.token = .ok k := by
  obtain ⟨chain, hcalls, hs, hbal, hk⟩ := hmir.supplied.pull hw.documented hw.outside hpayer
    (hw.balance hmir ▸ hroom)
  obtain ⟨ls, hr⟩ := run_afterToken hw.documented hw.outside hw.guarded hcalls
  refine ⟨ls, _, hr, hw.run hr, ⟨?_, hmir.clock, ?_, hs⟩, rfl, rfl, hk⟩
  · exact ⟨hmir.agrees.count, hmir.agrees.records, hmir.agrees.reputations, hmir.agrees.held, hmir.agrees.clock⟩
  · rw [World.afterToken_direct, hmir.direct, Cep18.received, hbal, Nat.sub_self]

theorem CanLog.after {w₁ : World τ} (h : CanLog m out me w₁ e b') (hr : Run (OpenStep m out me) w ls w₁)
    (hlog : w₁.reg.events = w.reg.events) : CanLog m out me w e b' := by
  obtain ⟨ls', w', hr', hlog', hmir⟩ := h
  exact ⟨_, w', hr.append hr', hlog ▸ hlog', hmir⟩

theorem canLog_submitted (hw : Ready m out me cfg w₀ w) (hmir : Mirrors m out me b w) {attestor : Address}
    {modelId : String} {commitment : Hash} {stake : U256} {now : U64} (hout : out attestor)
    (hpost : post cfg me b (.attestationSubmitted id attestor modelId commitment stake now) = .ok b') :
    CanLog m out me w (.attestationSubmitted id attestor modelId commitment stake now) b' := by
  obtain ⟨rfl, hmin, hme, hclock, hheld, count, rep, hcount, hrep, rfl⟩ := post_submitted.1 hpost
  obtain ⟨ls, w₁, hraise, hw₁, hmir₁, hclock₁, hevents, k, hk⟩ := hmir.raise hw hout hheld
  have hf := hw₁.toReached.toFunded
  obtain ⟨a, ha⟩ := hf.stakeToken
  have hid := hmir₁.agrees.count
  have hr : ∃ reg, (Call.submitAttestation ⟨modelId, .replicate 32 0, .replicate 32 0, commitment, "", stake⟩).run
      (stakeRef m.toCep18 me) ⟨attestor, me, now⟩ w₁.reg.fresh = .ok (b.count, reg) := by
    refine ⟨_, submitAttestation_ok.2 ⟨cfg, a, _, count, rep, hf.wellFormed.config, hmin, ha,
      stakeRef_transferFrom.2 ⟨k, hk, rfl⟩, hid.symm, hcount, ?_, rfl⟩⟩
    rw [← hrep, hmir₁.agrees.reputations]
    rfl
  obtain ⟨reg, hr⟩ := hr
  have hle : w₁.clock ≤ (CallEnv.mk attestor me now).blockTime := hclock₁ ▸ hmir.clock.trans hclock
  have hstep := Step.call rfl hme hle hr
  have hposts := submit_posts hf hmir₁.agrees hme hle (hstep.funded hw.documented.toStandard hf) hr
  exact (canLog_of_call hw₁ hmir₁ rfl hout hle hr hposts hpost le_rfl).after hraise hevents

theorem canLog_challenged (hw : Ready m out me cfg w₀ w) (hmir : Mirrors m out me b w) {challenger : Address}
    {bond : U256} {now : U64} (hout : out challenger)
    (hpost : post cfg me b (.challenged id challenger bond now) = .ok b') :
    CanLog m out me w (.challenged id challenger bond now) b' := by
  obtain ⟨r, hget, hst, rfl, hme, hclock, hend, hheld, rfl⟩ := post_challenged.1 hpost
  obtain ⟨ls, w₁, hraise, hw₁, hmir₁, hclock₁, hevents, k, hk⟩ := hmir.raise hw hout hheld
  have hf := hw₁.toReached.toFunded
  obtain ⟨a, ha⟩ := hf.stakeToken
  obtain ⟨att, hatt, rfl⟩ := hmir₁.agrees.stored hget
  have hchallenge : ∃ reg, challenge (stakeRef m.toCep18 me) ⟨challenger, me, now⟩ id w₁.reg.fresh = .ok reg :=
    ⟨_, challenge_ok.2 ⟨att, cfg, a, _, hatt, hst, hf.wellFormed.config,
      fun hclosed => absurd (windowClosed_iff.1 hclosed) (not_lt.2 hend), ha,
      stakeRef_transferFrom.2 ⟨k, hk, rfl⟩, rfl⟩⟩
  obtain ⟨reg, hchallenge⟩ := hchallenge
  have hr : (Call.challenge id).run (stakeRef m.toCep18 me) ⟨challenger, me, now⟩ w₁.reg.fresh = .ok (id, reg) := by
    rw [Call.run, hchallenge]
    rfl
  have hle : w₁.clock ≤ (CallEnv.mk challenger me now).blockTime := hclock₁ ▸ hmir.clock.trans hclock
  have hstep := Step.call rfl hme hle hr
  have hposts := challenge_posts hf hmir₁.agrees hme hle (hstep.funded hw.documented.toStandard hf) hchallenge
  exact (canLog_of_call hw₁ hmir₁ rfl hout hle hr hposts hpost le_rfl).after hraise hevents

theorem canLog_resolved (hw : Ready m out me cfg w₀ w) (hmir : Mirrors m out me b w) {fraudulent : Bool}
    {challenger : Address} {slashedAmount challengerReward : U256} (hout : out cfg.resolver)
    (hpost : post cfg me b (.resolved id fraudulent challenger slashedAmount challengerReward) = .ok b') :
    CanLog m out me w (.resolved id fraudulent challenger slashedAmount challengerReward) b' := by
  obtain ⟨r, rep, hget, hst, hch, hme, hbps, rfl, hrew, hrep, hb'⟩ := post_resolved.1 hpost
  have hf := hw.toReached
  obtain ⟨att, hatt, rfl⟩ := hmir.agrees.stored hget
  have hresolve : ∃ reg, resolve (stakeRef m.toCep18 me) ⟨cfg.resolver, me, w.clock⟩ id fraudulent w.reg.fresh =
      .ok reg :=
    (hf.resolve_iff hw.documented.toStandard hatt hst fraudulent (fun _ => hw.ne hw.treasury) rfl).2 hbps
  obtain ⟨reg, hresolve⟩ := hresolve
  have hr : (Call.resolve id fraudulent).run (stakeRef m.toCep18 me) ⟨cfg.resolver, me, w.clock⟩ w.reg.fresh =
      .ok (id, reg) := by
    rw [Call.run, hresolve]
    rfl
  obtain ⟨ch, slashed, rew, hposts⟩ := resolve_posts hf.toFunded hmir.agrees hme le_rfl hresolve
  -- The books determine the event: its challenger and the two amounts.
  obtain ⟨b₁, hpost₁, -⟩ := hposts.2
  obtain ⟨r', -, hget', -, hch', -, -, rfl, hrew', -, -⟩ := post_resolved.1 hpost₁
  cases hget.symm.trans hget'
  cases hch.symm.trans hch'
  obtain rfl : challengerReward = rew := Fin.ext (hrew.trans hrew'.symm)
  refine canLog_of_call hw hmir rfl hout le_rfl hr hposts hpost ?_
  rw [hb']
  exact hmir.clock

theorem canLog_finalized (hw : Ready m out me cfg w₀ w) (hmir : Mirrors m out me b w) {attestor : Address}
    {stakeReturned : U256} (hpost : post cfg me b (.finalized id attestor stakeReturned) = .ok b') :
    CanLog m out me w (.finalized id attestor stakeReturned) b' := by
  obtain ⟨r, closed, rep, hget, hst, rfl, rfl, hclosed, hrep, hb'⟩ := post_finalized.1 hpost
  have hf := hw.toReached
  obtain ⟨att, hatt, rfl⟩ := hmir.agrees.stored hget
  have hlt : windowEnd cfg att.createdAt < closed := Fin.lt_def.2 (hclosed ▸ Nat.lt_succ_self _)
  have hle : w.clock ≤ max b.clock closed := hmir.clock.trans (le_max_left _ _)
  have hfinalize : ∃ reg, finalize (stakeRef m.toCep18 me) ⟨att.attestor, me, max b.clock closed⟩ id w.reg.fresh =
      .ok reg :=
    hf.finalize_succeeds hw.documented.toStandard hatt hst (windowClosed_iff.2 (hlt.trans_le (le_max_right _ _)))
  obtain ⟨reg, hfinalize⟩ := hfinalize
  have hr : (Call.finalize id).run (stakeRef m.toCep18 me) ⟨att.attestor, me, max b.clock closed⟩ w.reg.fresh =
      .ok (id, reg) := by
    rw [Call.run, hfinalize]
    rfl
  obtain ⟨attestor, stakeReturned, hposts⟩ := finalize_posts hf.toFunded hmir.agrees hle hfinalize
  obtain ⟨b₁, hpost₁, -⟩ := hposts.2
  obtain ⟨r', -, -, hget', -, rfl, rfl, -⟩ := post_finalized.1 hpost₁
  cases hget.symm.trans hget'
  refine canLog_of_call hw hmir rfl (hw.parties id att hatt).1 hle hr hposts hpost ?_
  rw [hb']

/-- The registry can follow the auditor. -/
theorem canLog (hw : Ready m out me cfg w₀ w) (hmir : Mirrors m out me b w) (hcaller : ∀ a ∈ e.caller cfg, out a)
    (hpost : post cfg me b e = .ok b') : CanLog m out me w e b' := by
  cases e with
  | attestationSubmitted => exact canLog_submitted hw hmir (hcaller _ rfl) hpost
  | challenged => exact canLog_challenged hw hmir (hcaller _ rfl) hpost
  | resolved => exact canLog_resolved hw hmir (hcaller _ rfl) hpost
  | finalized => exact canLog_finalized hw hmir hpost

/-- The treasury issues the token, and then the registry is initialised. -/
theorem exists_initial (hm : m.Documented) (hme : ¬ out me) (htreasury : out cfg.treasury)
    (hbps : cfg.rewardBps.val ≤ bpsDenom) : ∃ w, Initial m.toCep18 me cfg w ∧ m.Issued out w.reg.token.chain ∧
      Ready m out me cfg w w ∧ Mirrors m out me .empty w := by
  have hinit : ∃ reg, init me cfg.minStake cfg.challengeBond cfg.disputeWindow cfg.treasury cfg.resolver
      cfg.rewardBps (State.deployed (Tracked.mk (m.init cfg.treasury maxSupply) [])) = .ok reg ∧
        reg.token.chain = m.init cfg.treasury maxSupply := ⟨_, init_ok.2 ⟨hbps, rfl⟩, rfl⟩
  obtain ⟨reg, hinit, hchain⟩ := hinit
  have hne : me ≠ cfg.treasury := fun heq => hme (heq ▸ htreasury)
  have hzero : (m.balanceOf reg.token.chain me).val = 0 := by
    rw [hchain, hm.init_balance, if_neg hne]
    rfl
  have h₀ : Initial m.toCep18 me cfg ⟨reg, 0, 0⟩ := ⟨⟨me, _, hinit⟩, hzero.symm⟩
  have htoken : m.Issued out reg.token.chain := ⟨cfg.treasury, maxSupply, htreasury, hchain ▸ .refl⟩
  refine ⟨_, h₀, htoken, ⟨h₀.toOpenWorld hm hme htoken, hm, hme, htreasury, h₀, [], .nil⟩, h₀.agrees.1, le_rfl,
    rfl, ?_⟩
  show Supplied m out me reg.token.chain
  rw [hchain]
  exact .init hm htreasury

/-- **The logs are the accepted ones.**  The accounts in `out`, the treasury
    among them, call a registry and its token.  A list of events is the log of
    what they do exactly if its callers are among them and the auditor accepts
    it. -/
theorem log_iff (hm : m.Documented) (hme : ¬ out me) (htreasury : out cfg.treasury)
    (hbps : cfg.rewardBps.val ≤ bpsDenom) (es : List Event) :
    (∃ w₀ ls w, Initial m.toCep18 me cfg w₀ ∧ m.Issued out w₀.reg.token.chain ∧ Run (OpenStep m out me) w₀ ls w ∧
        w.reg.events = es) ↔
      (∀ e ∈ es, ∀ a ∈ e.caller cfg, out a) ∧ ∃ b, audit (post cfg me) .empty es = .ok b := by
  constructor
  · rintro ⟨w₀, ls, w, h₀, htoken, h, rfl⟩
    obtain ⟨hr, hw⟩ := (h₀.toOpenWorld hm hme htoken).run hm hme h
    obtain ⟨hempty, hlog⟩ := h₀.agrees
    obtain ⟨b, haudit, -⟩ := audit_of_run hr
      (fun ls w₁ a w₂ hr hs => hs.tracks hm.toStandard (run_funded hm.toStandard h₀ hr)) hempty hlog
    exact ⟨hw.callers, b, haudit⟩
  · rintro ⟨hcallers, b, haudit⟩
    obtain ⟨w₀, h₀, htoken, hw₀, hmir⟩ := exists_initial hm hme htreasury hbps
    obtain ⟨ls, w, h, hlog, -⟩ := run_of_audit
      (fun _ _ _ e _ hmem h hmir hpost => canLog (hw₀.run h) hmir (hcallers e hmem) hpost) hmir h₀.agrees.2 haudit
    exact ⟨w₀, ls, w, h₀, htoken, h, hlog⟩

/-- Three events of an accepted log: a submission, a challenge and a slash. -/
theorem log_iff_demo : ∃ w₀ ls w, Initial Cep18.basic demoRegistry demoConfig w₀ ∧
    Cep18Module.basic.Issued (· ≠ demoRegistry) w₀.reg.token.chain ∧
    Run (OpenStep Cep18Module.basic (· ≠ demoRegistry) demoRegistry) w₀ ls w ∧ w.reg.events =
      [.attestationSubmitted 0 demoAlice "risk-scorer-v1" (.replicate 32 3) 1001 5,
       .challenged 0 demoAlice 500 6, .resolved 0 true demoAlice 1001 500] := by
  have hcallers : ∀ e ∈ [Event.attestationSubmitted 0 demoAlice "risk-scorer-v1" (.replicate 32 3) 1001 5,
      .challenged 0 demoAlice 500 6, .resolved 0 true demoAlice 1001 500],
      ∀ a ∈ e.caller demoConfig, a ≠ demoRegistry := by
    simp [Event.caller, demoConfig, demoAlice, demoResolver, demoRegistry]
  exact (log_iff Cep18Module.basic_documented (by simp) (by decide) (by decide) _).2 ⟨hcallers, _, rfl⟩

end

end CasperProof.Registry
