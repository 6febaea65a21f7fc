/-
  The event log of the registry, read by an auditor.

  The auditor sees the emitted events only.  It checks each of them against its
  books, and posts it.

  `log_accounts`: the auditor accepts the log of every run, and its books are
  then the registry's, but for the two payload hashes and the URI of a record,
  which no event contains.
-/
import CasperProof.Contracts.Dispute
import CasperProof.Contracts.Liveness
import CasperProof.Lib.Replay

namespace CasperProof.Registry

open Replay

variable {τ : Type}

/-! ## The auditor -/

/-- What the log says about an attestation. -/
structure LoggedRecord where
  attestor : Address
  modelId : String
  commitment : Hash
  stake : U256
  createdAt : U64
  status : AttestationStatus
  challenger : Option Address
  challengeBond : U256
  challengedAt : U64
deriving DecidableEq

/-- The part of a record that is logged. -/
@[simps] def loggedRecord (att : Attestation) : LoggedRecord where
  attestor := att.attestor
  modelId := att.modelId
  commitment := att.commitment
  stake := att.stake
  createdAt := att.createdAt
  status := att.status
  challenger := att.challenger
  challengeBond := att.challengeBond
  challengedAt := att.challengedAt

/-- The books of the auditor: `held` is what the registry has in custody, and
    `clock` the earliest time that the log allows for the next call. -/
structure AuditBooks where
  count : U64
  records : Mapping U64 LoggedRecord
  reputations : Mapping Address Reputation
  held : ℕ
  clock : U64

def AuditBooks.empty : AuditBooks := ⟨0, .empty, .empty, 0, 0⟩

/-- Why an event is refused. -/
inductive Refusal where
  | unknownRecord
  | wrongId
  | wrongStatus
  | wrongModel
  | wrongParty
  | wrongAmount
  | wrongTime
  | overflow
deriving DecidableEq, Repr

/-- The auditor bumps the counters as the registry does. -/
def AuditBooks.bump (b : AuditBooks) (attestor : Address) (f : Reputation → Except Revert Reputation) :
    Except Refusal (Mapping Address Reputation) := do
  let rep ← (f (b.reputations.getD attestor {})).mapError fun _ => .overflow
  pure (b.reputations.set attestor rep)

/-- The record of an id, which has to have the status. -/
def AuditBooks.recordIn (b : AuditBooks) (status : AttestationStatus) (id : U64) : Except Refusal LoggedRecord := do
  let r ← orFail (b.records.get id) .unknownRecord
  failIf (r.status ≠ status) .wrongStatus
  pure r

/-- What a challenger gets of a slashed stake. -/
def LoggedRecord.reward (cfg : RegistryConfig) (r : LoggedRecord) : ℕ := r.stake.val * cfg.rewardBps.val / bpsDenom

/-- One event is checked and posted; `me` is the registry's address. -/
def post (cfg : RegistryConfig) (me : Address) (b : AuditBooks) : Event → Except Refusal AuditBooks
  | .attestationSubmitted id attestor modelId commitment stake createdAt => do
    failIf (id ≠ b.count) .wrongId
    failIf (stake < cfg.minStake) .wrongAmount
    failIf (attestor = me) .wrongParty
    failIf (createdAt < b.clock) .wrongTime
    failIf (2 ^ 256 ≤ b.held + stake.val) .overflow
    let count ← checkedAdd .overflow id 1
    let reputations ← b.bump attestor submitReputation
    pure ⟨count, b.records.set id ⟨attestor, modelId, commitment, stake, createdAt, .active, none, 0, 0⟩,
      reputations, b.held + stake.val, createdAt⟩
  | .challenged id challenger bond challengedAt => do
    let r ← b.recordIn .active id
    failIf (bond ≠ cfg.challengeBond) .wrongAmount
    failIf (challenger = me) .wrongParty
    failIf (challengedAt < b.clock) .wrongTime
    failIf (windowEnd cfg r.createdAt < challengedAt) .wrongTime
    failIf (2 ^ 256 ≤ b.held + bond.val) .overflow
    pure { b with
      records := b.records.set id
        { r with status := .challenged, challenger := some challenger, challengeBond := bond, challengedAt }
      held := b.held + bond.val
      clock := challengedAt }
  | .resolved id fraudulent challenger slashedAmount challengerReward => do
    let r ← b.recordIn .challenged id
    failIf (r.challenger ≠ some challenger) .wrongParty
    failIf (cfg.resolver = me) .wrongParty
    failIf (2 ^ 256 ≤ r.stake.val * cfg.rewardBps.val) .overflow
    failIf (slashedAmount ≠ if fraudulent then r.stake else 0) .wrongAmount
    failIf (challengerReward.val ≠ if fraudulent then r.reward cfg else 0) .wrongAmount
    let reputations ← b.bump r.attestor (resolveReputation fraudulent)
    pure { b with
      records := b.records.set id { r with status := verdict fraudulent }
      reputations
      held := b.held - (r.stake.val + r.challengeBond.val) }
  | .finalized id attestor stakeReturned => do
    let r ← b.recordIn .active id
    failIf (attestor ≠ r.attestor) .wrongParty
    failIf (stakeReturned ≠ r.stake) .wrongAmount
    let closed ← checkedAdd .overflow (windowEnd cfg r.createdAt) 1
    let reputations ← b.bump attestor finalizeReputation
    pure { b with
      records := b.records.set id { r with status := .finalized }
      reputations
      held := b.held - r.stake.val
      clock := max b.clock closed }

/-! ## When an event is accepted -/

section
variable {cfg : RegistryConfig} {me : Address} {b b' : AuditBooks} {id : U64} {attestor challenger : Address}
  {stake bond : U256} {now : U64}

@[simp] theorem AuditBooks.bump_ok {f : Reputation → Except Revert Reputation} {m : Mapping Address Reputation} :
    b.bump attestor f = .ok m ↔ ∃ rep, f (b.reputations.getD attestor {}) = .ok rep ∧
      b.reputations.set attestor rep = m := by
  simp only [AuditBooks.bump, bind_eq_ok, mapError_eq_ok, pure_eq_ok]

@[simp] theorem AuditBooks.recordIn_ok {status : AttestationStatus} {r : LoggedRecord} :
    b.recordIn status id = .ok r ↔ b.records.get id = some r ∧ r.status = status := by
  simp only [AuditBooks.recordIn, bind_eq_ok, orFail_eq_ok, failIf_eq_ok, pure_eq_ok, not_not]
  constructor
  · rintro ⟨r, hget, -, hst, rfl⟩
    exact ⟨hget, hst⟩
  · rintro ⟨hget, hst⟩
    exact ⟨r, hget, ⟨⟩, hst, rfl⟩

theorem post_submitted {modelId : String} {commitment : Hash} :
    post cfg me b (.attestationSubmitted id attestor modelId commitment stake now) = .ok b' ↔
      id = b.count ∧ cfg.minStake ≤ stake ∧ attestor ≠ me ∧ b.clock ≤ now ∧ b.held + stake.val < 2 ^ 256 ∧
        ∃ count rep, count.val = id.val + 1 ∧ submitReputation (b.reputations.getD attestor {}) = .ok rep ∧
          b' = ⟨count, b.records.set id ⟨attestor, modelId, commitment, stake, now, .active, none, 0, 0⟩,
            b.reputations.set attestor rep, b.held + stake.val, now⟩ := by
  simp only [post, bind_eq_ok, failIf_eq_ok, checkedAdd_eq_ok, AuditBooks.bump_ok, pure_eq_ok, not_not, not_lt,
    not_le, ne_eq]
  constructor
  · rintro ⟨-, hid, -, hmin, -, hme, -, hclock, -, hheld, count, hcount, _, ⟨rep, hrep, rfl⟩, rfl⟩
    exact ⟨hid, hmin, hme, hclock, hheld, count, rep, hcount, hrep, rfl⟩
  · rintro ⟨hid, hmin, hme, hclock, hheld, count, rep, hcount, hrep, rfl⟩
    exact ⟨⟨⟩, hid, ⟨⟩, hmin, ⟨⟩, hme, ⟨⟩, hclock, ⟨⟩, hheld, count, hcount, _, ⟨rep, hrep, rfl⟩, rfl⟩

theorem post_challenged :
    post cfg me b (.challenged id challenger bond now) = .ok b' ↔
      ∃ r, b.records.get id = some r ∧ r.status = .active ∧ bond = cfg.challengeBond ∧ challenger ≠ me ∧
        b.clock ≤ now ∧ now ≤ windowEnd cfg r.createdAt ∧ b.held + bond.val < 2 ^ 256 ∧
        b' = { b with
          records := b.records.set id { r with
            status := .challenged, challenger := some challenger, challengeBond := bond, challengedAt := now }
          held := b.held + bond.val
          clock := now } := by
  simp only [post, bind_eq_ok, failIf_eq_ok, AuditBooks.recordIn_ok, pure_eq_ok, not_not, not_lt, not_le, ne_eq]
  constructor
  · rintro ⟨r, ⟨hget, hst⟩, -, hbond, -, hme, -, hclock, -, hend, -, hheld, rfl⟩
    exact ⟨r, hget, hst, hbond, hme, hclock, hend, hheld, rfl⟩
  · rintro ⟨r, hget, hst, hbond, hme, hclock, hend, hheld, rfl⟩
    exact ⟨r, ⟨hget, hst⟩, ⟨⟩, hbond, ⟨⟩, hme, ⟨⟩, hclock, ⟨⟩, hend, ⟨⟩, hheld, rfl⟩

theorem post_resolved {fraudulent : Bool} {slashedAmount challengerReward : U256} :
    post cfg me b (.resolved id fraudulent challenger slashedAmount challengerReward) = .ok b' ↔
      ∃ r rep, b.records.get id = some r ∧ r.status = .challenged ∧ r.challenger = some challenger ∧
        cfg.resolver ≠ me ∧ r.stake.val * cfg.rewardBps.val < 2 ^ 256 ∧
        slashedAmount = (if fraudulent then r.stake else 0) ∧
        challengerReward.val = (if fraudulent then r.reward cfg else 0) ∧
        resolveReputation fraudulent (b.reputations.getD r.attestor {}) = .ok rep ∧
        b' = { b with
          records := b.records.set id { r with status := verdict fraudulent }
          reputations := b.reputations.set r.attestor rep
          held := b.held - (r.stake.val + r.challengeBond.val) } := by
  simp only [post, bind_eq_ok, failIf_eq_ok, AuditBooks.recordIn_ok, AuditBooks.bump_ok, pure_eq_ok, not_not, not_le,
    ne_eq]
  constructor
  · rintro ⟨r, ⟨hget, hst⟩, -, hch, -, hme, -, hbps, -, hslash, -, hrew, _, ⟨rep, hrep, rfl⟩, rfl⟩
    exact ⟨r, rep, hget, hst, hch, hme, hbps, hslash, hrew, hrep, rfl⟩
  · rintro ⟨r, rep, hget, hst, hch, hme, hbps, hslash, hrew, hrep, rfl⟩
    exact ⟨r, ⟨hget, hst⟩, ⟨⟩, hch, ⟨⟩, hme, ⟨⟩, hbps, ⟨⟩, hslash, ⟨⟩, hrew, _, ⟨rep, hrep, rfl⟩, rfl⟩

theorem post_finalized :
    post cfg me b (.finalized id attestor stake) = .ok b' ↔
      ∃ r closed rep, b.records.get id = some r ∧ r.status = .active ∧ attestor = r.attestor ∧ stake = r.stake ∧
        closed.val = (windowEnd cfg r.createdAt).val + 1 ∧
        finalizeReputation (b.reputations.getD attestor {}) = .ok rep ∧
        b' = { b with
          records := b.records.set id { r with status := .finalized }
          reputations := b.reputations.set attestor rep
          held := b.held - r.stake.val
          clock := max b.clock closed } := by
  simp only [post, bind_eq_ok, failIf_eq_ok, checkedAdd_eq_ok, AuditBooks.recordIn_ok, AuditBooks.bump_ok,
    pure_eq_ok, not_not, ne_eq]
  constructor
  · rintro ⟨r, ⟨hget, hst⟩, -, ha, -, hstake, closed, hclosed, _, ⟨rep, hrep, rfl⟩, rfl⟩
    exact ⟨r, closed, rep, hget, hst, ha, hstake, hclosed, hrep, rfl⟩
  · rintro ⟨r, closed, rep, hget, hst, ha, hstake, hclosed, hrep, rfl⟩
    exact ⟨r, ⟨hget, hst⟩, ⟨⟩, ha, ⟨⟩, hstake, closed, hclosed, _, ⟨rep, hrep, rfl⟩, rfl⟩

end

/-! ## The registry's log is accepted -/

/-- The books agree with the registry. -/
structure Agrees (b : AuditBooks) (w : World τ) : Prop where
  count : b.count = w.reg.count
  records : b.records = w.reg.attestations.map loggedRecord
  reputations : b.reputations = w.reg.reputations
  held : b.held = w.reg.attestations.sum deposit
  clock : b.clock ≤ w.clock

/-- The call of an accepted step logged `e`, and the auditor posts it. -/
def Posts (cfg : RegistryConfig) (me : Address) (b : AuditBooks) (w w' : World τ) (e : Event) : Prop :=
  w'.reg.events = w.reg.events ++ [e] ∧ ∃ b', post cfg me b e = .ok b' ∧ Agrees b' w'

section
variable {t : Cep18 τ} {me : Address} {cfg : RegistryConfig} {b : AuditBooks} {env : CallEnv} {id : U64}
  {reg : State (Tracked τ)} {w w' w₀ : World τ} {ls : List Label} {a : Label} {att : Attestation}

theorem Agrees.record (hb : Agrees b w) (hget : w.reg.attestations.get id = some att) :
    b.records.get id = some (loggedRecord att) := by
  rw [hb.records, Mapping.get_map, hget]
  rfl

theorem Agrees.stored (hb : Agrees b w) {r : LoggedRecord} (hget : b.records.get id = some r) :
    ∃ att, w.reg.attestations.get id = some att ∧ r = loggedRecord att := by
  rw [hb.records, Mapping.get_map, Option.map_eq_some_iff] at hget
  obtain ⟨att, hget, rfl⟩ := hget
  exact ⟨att, hget, rfl⟩

/-- The sum of the deposits after the record of `id` is rewritten. -/
theorem sum_deposit_set {m : Mapping U64 Attestation} (hget : m.get id = some att) (att' : Attestation) :
    (m.set id att').sum deposit + deposit att = m.sum deposit + deposit att' := by
  have hsum := Mapping.sum_set m id att' deposit
  rwa [hget] at hsum

/-- The custody of a state is a word. -/
theorem Funded.held_lt (hw : Funded t me cfg w) : w.reg.attestations.sum deposit < 2 ^ 256 :=
  hw.balance.trans_lt (t.balanceOf w.reg.token.chain me).isLt

theorem submit_posts {args : SubmitArgs} (hw : Funded t me cfg w) (hb : Agrees b w) (hcaller : env.caller ≠ me)
    (hclock : w.clock ≤ env.blockTime) (hw' : Funded t me cfg ⟨reg, env.blockTime, w.direct⟩)
    (h : submitAttestation (stakeRef t me) env args w.reg.fresh = .ok (id, reg)) :
    Posts cfg me b w ⟨reg, env.blockTime, w.direct⟩
      (.attestationSubmitted id env.caller args.modelId args.commitment args.stake env.blockTime) := by
  obtain ⟨cfg', a, s₁, count, rep, hc, hmin, -, ht, rfl, hcount, hrep, rfl⟩ := submitAttestation_ok.1 h
  obtain ⟨k, -, rfl⟩ := stakeRef_transferFrom.1 ht
  cases hw.wellFormed.config.symm.trans hc
  have hsum : (w.reg.attestations.set w.reg.count (newAttestation env args w.reg.count)).sum deposit =
      w.reg.attestations.sum deposit + args.stake.val :=
    Mapping.sum_set_none (hw.wellFormed.fresh _ le_rfl) _ _
  have hheld : b.held + args.stake.val < 2 ^ 256 := by
    rw [hb.held, ← hsum]
    exact hw'.held_lt
  refine ⟨rfl, _, post_submitted.2 ⟨hb.count.symm, hmin, hcaller, hb.clock.trans hclock, hheld, count, rep, hcount,
    ?_, rfl⟩, ?_⟩
  · rw [hb.reputations]
    exact hrep
  · refine ⟨rfl, ?_, ?_, ?_, le_rfl⟩
    · rw [hb.records]
      exact (Mapping.map_set loggedRecord w.reg.attestations w.reg.count (newAttestation env args w.reg.count)).symm
    · rw [hb.reputations]
      rfl
    · rw [hb.held]
      exact hsum.symm

theorem challenge_posts (hw : Funded t me cfg w) (hb : Agrees b w) (hcaller : env.caller ≠ me)
    (hclock : w.clock ≤ env.blockTime) (hw' : Funded t me cfg ⟨reg, env.blockTime, w.direct⟩)
    (h : challenge (stakeRef t me) env id w.reg.fresh = .ok reg) :
    Posts cfg me b w ⟨reg, env.blockTime, w.direct⟩ (.challenged id env.caller cfg.challengeBond env.blockTime) := by
  obtain ⟨att, cfg', a, s₁, hatt, hst, hc, hwin, -, ht, rfl⟩ := challenge_ok.1 h
  obtain ⟨k, -, rfl⟩ := stakeRef_transferFrom.1 ht
  cases hw.wellFormed.config.symm.trans hc
  have hsum := sum_deposit_set hatt (challengedAttestation cfg env att)
  simp only [deposit, challengedAttestation, hst] at hsum
  have hheld : (w.reg.attestations.set id (challengedAttestation cfg env att)).sum deposit =
      b.held + cfg.challengeBond.val := by
    rw [hb.held]
    simp only [State.fresh, State.setToken_attestations] at hsum
    unfold challengedAttestation
    omega
  refine ⟨rfl, _, post_challenged.2 ⟨loggedRecord att, hb.record hatt, hst, rfl, hcaller, hb.clock.trans hclock,
    not_lt.1 fun hlt => hwin (windowClosed_iff.2 hlt), hheld ▸ hw'.held_lt, rfl⟩, ?_⟩
  refine ⟨hb.count, ?_, hb.reputations, hheld.symm, le_rfl⟩
  rw [hb.records]
  exact (Mapping.map_set loggedRecord w.reg.attestations id (challengedAttestation cfg env att)).symm

theorem deposit_verdict (att : Attestation) (fraudulent : Bool) :
    deposit (withStatus att (verdict fraudulent)) = 0 := by
  cases fraudulent <;> rfl

theorem resolve_posts {fraudulent : Bool} (hw : Funded t me cfg w) (hb : Agrees b w) (hcaller : env.caller ≠ me)
    (hclock : w.clock ≤ env.blockTime) (h : resolve (stakeRef t me) env id fraudulent w.reg.fresh = .ok reg) :
    ∃ challenger slashedAmount challengerReward, Posts cfg me b w ⟨reg, env.blockTime, w.direct⟩
      (.resolved id fraudulent challenger slashedAmount challengerReward) := by
  obtain ⟨cfg', att, ch, a, s₁, rep, bps, rew, cut, hc, hcl, hatt, hst, hch, hbps, hrew, hcut, -, hrep, hp, rfl⟩ :=
    resolve_ok.1 h
  cases hw.wellFormed.config.symm.trans hc
  obtain ⟨k, rfl, -, -⟩ := payouts_moves hrew hcut hp
  replace hatt : w.reg.attestations.get id = some att := hatt
  have hheld : w.reg.attestations.sum deposit - (att.stake.val + att.challengeBond.val) =
      (w.reg.attestations.set id (withStatus att (verdict fraudulent))).sum deposit := by
    have hsum := sum_deposit_set hatt (withStatus att (verdict fraudulent))
    rw [deposit_verdict] at hsum
    simp only [deposit, hst] at hsum
    omega
  have hreward : (if fraudulent then rew else 0 : U256).val =
      if fraudulent then (loggedRecord att).reward cfg else 0 := by
    split
    · exact hrew
    · rfl
  refine ⟨ch, _, _, rfl, _, post_resolved.2 ⟨loggedRecord att, rep, hb.record hatt, hst, hch, hcl ▸ hcaller,
    hbps ▸ bps.isLt, rfl, hreward, ?_, rfl⟩, ?_⟩
  · rw [hb.reputations]
    exact hrep
  · refine ⟨hb.count, ?_, ?_, ?_, hb.clock.trans hclock⟩
    · rw [hb.records]
      exact (Mapping.map_set loggedRecord w.reg.attestations id (withStatus att (verdict fraudulent))).symm
    · rw [hb.reputations]
      rfl
    · rw [hb.held]
      exact hheld

theorem finalize_posts (hw : Funded t me cfg w) (hb : Agrees b w) (hclock : w.clock ≤ env.blockTime)
    (h : finalize (stakeRef t me) env id w.reg.fresh = .ok reg) :
    ∃ attestor stakeReturned, Posts cfg me b w ⟨reg, env.blockTime, w.direct⟩
      (.finalized id attestor stakeReturned) := by
  obtain ⟨att, cfg', a, rep, s₁, hatt, hst, hc, hwin, -, hrep, ht, rfl⟩ := finalize_ok.1 h
  obtain ⟨k, -, rfl⟩ := stakeRef_transfer.1 ht
  cases hw.wellFormed.config.symm.trans hc
  replace hatt : w.reg.attestations.get id = some att := hatt
  have hheld : w.reg.attestations.sum deposit - att.stake.val =
      (w.reg.attestations.set id (withStatus att .finalized)).sum deposit := by
    have hsum := sum_deposit_set hatt (withStatus att .finalized)
    simp only [deposit, hst, withStatus] at hsum ⊢
    omega
  have hclosed : (windowEnd cfg att.createdAt).val + 1 ≤ env.blockTime.val := Fin.lt_def.1 (windowClosed_iff.1 hwin)
  refine ⟨_, _, rfl, _, post_finalized.2 ⟨loggedRecord att, ⟨_, hclosed.trans_lt env.blockTime.isLt⟩, rep,
    hb.record hatt, hst, rfl, rfl, rfl, ?_, rfl⟩, ?_⟩
  · rw [hb.reputations]
    exact hrep
  · refine ⟨hb.count, ?_, ?_, ?_, max_le (hb.clock.trans hclock) (Fin.le_def.2 hclosed)⟩
    · rw [hb.records]
      exact (Mapping.map_set loggedRecord w.reg.attestations id (withStatus att .finalized)).symm
    · rw [hb.reputations]
      rfl
    · rw [hb.held]
      exact hheld

/-- **Every step is tracked.** -/
theorem Step.tracks (ht : t.Standard) (hw : Funded t me cfg w) (h : Step t me w a w') :
    Tracks (post cfg me) (fun w => w.reg.events) Agrees w w' := by
  have hw' := h.funded ht hw
  cases h with
  | @call env c id reg _ hcaller hclock hr =>
    refine .single fun b hb => ?_
    have hposts : ∃ e, Posts cfg me b w ⟨reg, env.blockTime, w.direct⟩ e := by
      cases c with
      | submitAttestation args => exact ⟨_, submit_posts hw hb hcaller hclock hw' hr⟩
      | challenge i =>
        simp only [Call.run, bind_eq_ok, pure_eq_ok, Prod.mk.injEq] at hr
        obtain ⟨_, hr, rfl, rfl⟩ := hr
        exact ⟨_, challenge_posts hw hb hcaller hclock hw' hr⟩
      | resolve i fraudulent =>
        simp only [Call.run, bind_eq_ok, pure_eq_ok, Prod.mk.injEq] at hr
        obtain ⟨_, hr, rfl, rfl⟩ := hr
        obtain ⟨_, _, _, hposts⟩ := resolve_posts hw hb hcaller hclock hr
        exact ⟨_, hposts⟩
      | finalize i =>
        simp only [Call.run, bind_eq_ok, pure_eq_ok, Prod.mk.injEq] at hr
        obtain ⟨_, hr, rfl, rfl⟩ := hr
        obtain ⟨_, _, hposts⟩ := finalize_posts hw hb hclock hr
        exact ⟨_, hposts⟩
    obtain ⟨e, hlog, b', hpost, hb'⟩ := hposts
    exact ⟨e, b', hlog, hpost, hb'⟩
  | direct => exact .silent rfl fun b hb => ⟨hb.count, hb.records, hb.reputations, hb.held, hb.clock⟩

theorem Initial.agrees (h : Initial t me cfg w) : Agrees .empty w ∧ w.reg.events = [] := by
  obtain ⟨stakeToken, chain, hi⟩ := h.deployed
  obtain ⟨-, hreg⟩ := init_ok.1 hi
  refine ⟨⟨?_, ?_, ?_, ?_, Fin.zero_le _⟩, ?_⟩
  · rw [← hreg]
    rfl
  · rw [h.empty]
    exact (Mapping.map_empty loggedRecord).symm
  · rw [← hreg]
    rfl
  · rw [h.empty, Mapping.sum_empty]
    rfl
  · rw [← hreg]
    rfl

/-- **The log accounts for the registry.**  The auditor accepts the log of every
    run; its books then have the registry's count, the logged part of every
    record and the reputations, and what is in custody. -/
theorem log_accounts (ht : t.Standard) (h₀ : Initial t me cfg w₀) (h : Run (Step t me) w₀ ls w) :
    ∃ b, audit (post cfg me) .empty w.reg.events = .ok b ∧ b.count = attestationCount w.reg ∧
      (∀ i, b.records.get i = (w.reg.attestations.get i).map loggedRecord) ∧
      (∀ a, b.reputations.getD a {} = attestorReputation w.reg a) ∧
      b.held ≤ (t.balanceOf w.reg.token.chain me).val ∧
      (cfg.treasury ≠ me → (t.balanceOf w.reg.token.chain me).val = b.held + w.direct) := by
  obtain ⟨hempty, hlog⟩ := h₀.agrees
  obtain ⟨b, haudit, hb⟩ := audit_of_run h
    (fun ls w₁ a w₂ hr hs => hs.tracks ht (run_funded ht h₀ hr)) hempty hlog
  refine ⟨b, haudit, hb.count, fun i => ?_, fun a => ?_, ?_, fun htr => ?_⟩
  · rw [hb.records, Mapping.get_map]
  · rw [hb.reputations]
    rfl
  · rw [hb.held]
    exact (run_funded ht h₀ h).balance
  · rw [hb.held]
    exact (run_custody ht h₀ htr h).balance

end

/-- A submission, a challenge and a slash. -/
theorem log_accounts_demo : ∃ w b, Run (Step Cep18.basic demoRegistry) demoWorld
      [.call (demoEnv demoAlice 5) (.submitAttestation demoArgs) 0 [.pull demoAlice 1001],
       .call (demoEnv demoAlice 6) (.challenge 0) 0 [.pull demoAlice 500],
       .call (demoEnv demoResolver 7) (.resolve 0 true) 0
         [.pay demoAlice 1000, .pay demoConfig.treasury 501]] w ∧
    w.reg.events.length = 3 ∧ audit (post demoConfig demoRegistry) .empty w.reg.events = .ok b ∧ b.count = 1 := by
  obtain ⟨_, w, -, h, -, -, hlength, hcount⟩ := demo_runs
  obtain ⟨b, haudit, hb, -⟩ := log_accounts Cep18.basic_standard demo_initial h
  exact ⟨w, b, h, hlength, haudit, hb.trans hcount⟩

end CasperProof.Registry
