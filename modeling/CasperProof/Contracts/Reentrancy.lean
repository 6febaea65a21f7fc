/-
  Reentrancy — a STAKE token that calls back into the registry.

  * `NestedCall`: an entry-point call with the calls that the token makes on
    behalf of any accounts before and after each of its movements, each with
    nested calls of its own.  `NestedCall.exec` runs the entry points of
    `Registry` with such a token.
  * `Does d`: what a piece of execution guarantees; `d` is by how much the
    deposits and payments outgrow the amounts pulled in.  Every entry point is
    shown to do nothing (`d = 0`) if the token's own calls do.
  * `challenge` is the exception: it stores a record read before the token
    call.  Its case rests on `Keeps`: nothing but a challenge of the same
    attestation can touch an active attestation inside its dispute window.
-/
import CasperProof.Contracts.Custody
import CasperProof.Contracts.Journal
import Mathlib.Algebra.Ring.Int.Defs

namespace CasperProof.Registry

variable {τ : Type}

/-- A place in an entry point where the token runs: its token call, before or
    after the movement. -/
structure Site where
  tokenCall : ℕ
  after : Bool
deriving DecidableEq

mutual

/-- An entry-point call with the calls nested in it. -/
inductive NestedCall where
  | mk (caller : Address) (call : Call) (nested : Nested)

/-- The nested calls of one call, in order. -/
inductive Nested where
  | done
  | run (site : Site) (call : NestedCall) (rest : Nested)

end

/-- The token `t` with the calls it makes at each site. -/
def hookRef (t : Cep18 τ) (me : Address)
    (hook : Site → State (Tracked τ) → Except Revert (State (Tracked τ))) : TokenRef (State (Tracked τ)) where
  transferFrom n owner recipient amount s := do
    let s ← hook ⟨n, false⟩ s
    let s ← (stakeRef t me).transferFrom n owner recipient amount s
    hook ⟨n, true⟩ s
  transfer n recipient amount s := do
    let s ← hook ⟨n, false⟩ s
    let s ← (stakeRef t me).transfer n recipient amount s
    hook ⟨n, true⟩ s

mutual

/-- Run a call at block time `now`; a revert anywhere reverts everything. -/
def NestedCall.exec (t : Cep18 τ) (me : Address) (now : U64) :
    NestedCall → State (Tracked τ) → Except Revert (State (Tracked τ))
  | .mk caller call nested, s => do
    let (_, s) ← call.run (hookRef t me fun site => nested.exec t me now site) ⟨caller, me, now⟩ s
    pure s

/-- Run the calls nested at `site`. -/
def Nested.exec (t : Cep18 τ) (me : Address) (now : U64) (site : Site) :
    Nested → State (Tracked τ) → Except Revert (State (Tracked τ))
  | .done, s => pure s
  | .run site' call rest, s =>
    if site' = site then do
      let s ← call.exec t me now s
      rest.exec t me now site s
    else rest.exec t me now site s

end

mutual

/-- A `challenge` of `id` occurs in the call. -/
def NestedCall.challenges (id : U64) : NestedCall → Bool
  | .mk _ call nested => decide (call = .challenge id) || nested.challenges id

def Nested.challenges (id : U64) : Nested → Bool
  | .done => false
  | .run _ call rest => call.challenges id || rest.challenges id

end

/-- The attestation a call challenges. -/
def Call.challenged : Call → Option U64
  | .challenge id => some id
  | _ => none

mutual

/-- No `challenge` of an attestation is nested in a `challenge` of the same. -/
def NestedCall.disjoint : NestedCall → Bool
  | .mk _ call nested => (call.challenged.all fun id => !nested.challenges id) && nested.disjoint

def Nested.disjoint : Nested → Bool
  | .done => true
  | .run _ call rest => call.disjoint && rest.disjoint

end

/-! ## What execution guarantees -/

/-- By how much deposits and payments exceed what was pulled in. -/
def surplus (s : State (Tracked τ)) : ℤ :=
  s.attestations.sum deposit + Move.totalPaid s.token.moves - Move.totalPulled s.token.moves

/-- Settling writes for `id` whose call has not completed. -/
def pending (id : U64) (s : State τ) : ℤ := settledWrites id s.journal - settledEvents id s.events

/-- The registry's table agrees with its journal, and the journal is legal. -/
structure Sound (cfg : RegistryConfig) (s : State (Tracked τ)) : Prop extends WellFormed cfg s where
  last : ∀ i, (s.attestations.get i).map Attestation.status = lastStatus i s.journal
  legal : Legal s.journal

/-- From `s` to `s'` the surplus grows by `d` and the pending settlements by
    `p`. -/
structure Does (cfg : RegistryConfig) (d : ℤ) (p : U64 → ℤ) (s s' : State (Tracked τ)) : Prop where
  sound : Sound cfg s'
  count : s.count ≤ s'.count
  surplus : surplus s' = surplus s + d
  pending : ∀ id, pending id s' = pending id s + p id

/-- An active attestation inside its dispute window. -/
structure Open (cfg : RegistryConfig) (now : U64) (att : Attestation) : Prop where
  active : att.status = .active
  window : ¬ windowClosed cfg now att

/-- Execution that changes nothing in the balance, and the record of an open
    attestation only if it challenges it. -/
structure Harmless (cfg : RegistryConfig) (now : U64) (challenges : U64 → Bool)
    (ex : State (Tracked τ) → Except Revert (State (Tracked τ))) : Prop where
  does : ∀ {s s'}, Sound cfg s → ex s = .ok s' → Does cfg 0 0 s s'
  keeps : ∀ {s s' id att}, Sound cfg s → ex s = .ok s' → Open cfg now att → challenges id = false →
    s.attestations.get id = some att → s'.attestations.get id = some att

/-- A token that moves what was requested and is otherwise `Harmless`. -/
structure HarmlessToken (cfg : RegistryConfig) (now : U64) (challenges : U64 → Bool)
    (tok : TokenRef (State (Tracked τ))) : Prop where
  pull : ∀ {n owner recipient amount s s'}, Sound cfg s →
    tok.transferFrom n owner recipient amount s = .ok s' → Does cfg (-amount.val) 0 s s'
  pay : ∀ {n recipient amount s s'}, Sound cfg s →
    tok.transfer n recipient amount s = .ok s' → Does cfg amount.val 0 s s'
  pull_keeps : ∀ {n owner recipient amount s s' id att}, Sound cfg s →
    tok.transferFrom n owner recipient amount s = .ok s' → Open cfg now att → challenges id = false →
    s.attestations.get id = some att → s'.attestations.get id = some att
  pay_keeps : ∀ {n recipient amount s s' id att}, Sound cfg s →
    tok.transfer n recipient amount s = .ok s' → Open cfg now att → challenges id = false →
    s.attestations.get id = some att → s'.attestations.get id = some att

section
variable {cfg : RegistryConfig} {s s₁ s₂ : State (Tracked τ)} {d d₁ d₂ : ℤ} {p p₁ p₂ : U64 → ℤ}
  {id : U64} {att att' : Attestation}

theorem Does.refl (h : Sound cfg s) : Does cfg 0 0 s s := ⟨h, le_rfl, by simp, by simp⟩

theorem Does.trans (h : Does cfg d₁ p₁ s s₁) (h' : Does cfg d₂ p₂ s₁ s₂) :
    Does cfg (d₁ + d₂) (p₁ + p₂) s s₂ :=
  ⟨h'.sound, h.count.trans h'.count, by rw [h'.surplus, h.surplus, add_assoc],
    fun id => by rw [h'.pending, h.pending, add_assoc, Pi.add_apply]⟩

/-- Execution that is neutral on the whole. -/
theorem Does.neutral (h : Does cfg d p s s₁) (hd : d = 0) (hp : ∀ i, p i = 0) : Does cfg 0 0 s s₁ := by
  obtain rfl := hd
  obtain rfl : p = 0 := funext hp
  exact h

theorem Sound.setReputation (h : Sound cfg s) (a : Address) (rep : Reputation) :
    Sound cfg (s.setReputation a rep) := ⟨⟨h.config, h.fresh⟩, h.last, h.legal⟩

theorem Sound.setToken (h : Sound cfg s) (k : Tracked τ) : Sound cfg (s.setToken k) :=
  ⟨⟨h.config, h.fresh⟩, h.last, h.legal⟩

theorem Sound.lastStatus_eq (h : Sound cfg s) (hget : s.attestations.get id = some att) :
    lastStatus id s.journal = some att.status := by
  rw [← h.last id, hget]; rfl

/-- Writing a record along an edge of the lifecycle. -/
theorem write_does (h : Sound cfg s) (hget : s.attestations.get id = some att)
    (he : Edge (some att.status) att'.status) :
    Does cfg (deposit att' - deposit att) (fun i => if id = i ∧ isSettled att'.status then 1 else 0) s
      (s.setAttestation id att') := by
  have hlt := stored_lt h.toWellFormed hget
  refine ⟨⟨⟨h.config, fun i hi => ?_⟩, fun i => ?_, h.legal.snoc ?_⟩, le_rfl, ?_, fun i => ?_⟩
  · have hne : i ≠ id := fun hid => absurd hlt (not_lt.2 (hid ▸ hi))
    rw [State.setAttestation_attestations, Mapping.get_set_ne _ _ hne]
    exact h.fresh i hi
  · rw [State.setAttestation_attestations, State.setAttestation_journal, Mapping.get_set, lastStatus_snoc]
    by_cases hi : i = id
    · subst hi; simp
    · rw [if_neg hi, if_neg (Ne.symm hi)]
      exact h.last i
  · rw [h.lastStatus_eq hget]
    exact he
  · have hsum := Mapping.sum_set s.attestations id att' deposit
    rw [hget] at hsum
    simp only [surplus, State.setAttestation_attestations, State.setAttestation_token]
    simp only [Option.elim_some] at hsum
    omega
  · simp only [pending, State.setAttestation_journal, State.setAttestation_events, settledWrites_snoc]
    split <;> (push_cast; omega)

theorem emit_does (h : Sound cfg s) (e : Event) :
    Does cfg 0 (fun i => if e.settles i then -1 else 0) s (s.emit e) := by
  refine ⟨⟨⟨h.config, h.fresh⟩, h.last, h.legal⟩, le_rfl, (add_zero (surplus s)).symm, fun i => ?_⟩
  simp only [pending, State.emit_journal, State.emit_events, settledEvents_snoc]
  split <;> (push_cast; omega)

theorem setReputation_does (h : Sound cfg s) (a : Address) (rep : Reputation) :
    Does cfg 0 0 s (s.setReputation a rep) :=
  ⟨h.setReputation a rep, le_rfl, (add_zero (surplus s)).symm, fun i => (add_zero (pending i s)).symm⟩

/-- Storing a new attestation under the next id. -/
theorem store_does (h : Sound cfg s) {count : U64} (hcount : count.val = s.count.val + 1)
    (hst : att.status = .active) :
    Does cfg att.stake.val 0 s ((s.setAttestation s.count att).setCount count) := by
  have hfresh := h.fresh _ le_rfl
  have hlast := h.last s.count
  rw [hfresh] at hlast
  have hle : s.count ≤ count := by rw [Fin.le_def]; omega
  refine ⟨⟨⟨h.config, fun i hi => ?_⟩, fun i => ?_, h.legal.snoc ?_⟩, hle, ?_, fun i => ?_⟩
  · have hne : i ≠ s.count := by
      rintro rfl
      rw [Fin.le_def, State.setCount_count] at hi
      omega
    simp only [State.setCount_attestations, State.setAttestation_attestations]
    rw [Mapping.get_set_ne _ _ hne]
    exact h.fresh i (hle.trans hi)
  · simp only [State.setCount_attestations, State.setAttestation_attestations, State.setCount_journal,
      State.setAttestation_journal, Mapping.get_set, lastStatus_snoc]
    by_cases hi : i = s.count
    · subst hi; simp
    · rw [if_neg hi, if_neg (Ne.symm hi)]
      exact h.last i
  · rw [← hlast, hst]
    exact .submitted
  · have hsum := Mapping.sum_set_none hfresh att deposit
    simp only [surplus, State.setCount_attestations, State.setAttestation_attestations, State.setCount_token,
      State.setAttestation_token, hsum, deposit, hst]
    omega
  · simp [pending, settledWrites_snoc, hst, isSettled]

end

/-! ## The entry points with a harmless token -/

section
variable {cfg : RegistryConfig} {env : CallEnv} {challenges : U64 → Bool} {tok : TokenRef (State (Tracked τ))}
  {s s' s₁ : State (Tracked τ)} {id i : U64} {att : Attestation}

theorem submit_does (ht : HarmlessToken cfg env.blockTime challenges tok) {args : SubmitArgs} (hs : Sound cfg s)
    (h : submitAttestation tok env args s = .ok (id, s')) : Does cfg 0 0 s s' := by
  obtain ⟨cfg', a, s₁, count, rep, -, -, -, hp, rfl, hcount, -, rfl⟩ := submitAttestation_ok.1 h
  have h₁ := ht.pull hs hp
  have hstore : Does cfg (newAttestation env args s₁.count).stake.val 0 s₁
      ((s₁.setAttestation s₁.count (newAttestation env args s₁.count)).setCount count) :=
    store_does h₁.sound hcount rfl
  have h₂ := h₁.trans hstore
  have h₃ := h₂.trans (setReputation_does h₂.sound env.caller rep)
  refine (h₃.trans (emit_does h₃.sound _)).neutral ?_ fun i => ?_
  · simp [newAttestation]
  · simp [Event.settles]

theorem submit_keeps (ht : HarmlessToken cfg env.blockTime challenges tok) {args : SubmitArgs} (hs : Sound cfg s)
    (h : submitAttestation tok env args s = .ok (id, s')) (ho : Open cfg env.blockTime att)
    (hc : challenges i = false) (hget : s.attestations.get i = some att) :
    s'.attestations.get i = some att := by
  obtain ⟨cfg', a, s₁, count, rep, -, -, -, hp, rfl, -, -, rfl⟩ := submitAttestation_ok.1 h
  have hkeep := ht.pull_keeps hs hp ho hc hget
  have hne : i ≠ s₁.count := (stored_lt (ht.pull hs hp).sound.toWellFormed hkeep).ne
  exact (Mapping.get_set_ne _ _ hne).trans hkeep

/-- The record that `challenge` stores is up to date: the token cannot have
    touched it. -/
theorem challenge_does (ht : HarmlessToken cfg env.blockTime challenges tok) (hc : challenges id = false)
    (hs : Sound cfg s) (h : challenge tok env id s = .ok s') : Does cfg 0 0 s s' := by
  obtain ⟨att, cfg', a, s₁, hget, hst, hcfg, hw, -, hp, rfl⟩ := challenge_ok.1 h
  cases hs.config.symm.trans hcfg
  have hkeep := ht.pull_keeps hs hp ⟨hst, hw⟩ hc hget
  have h₁ := ht.pull hs hp
  have he : Edge (some att.status) (challengedAttestation cfg env att).status := hst ▸ .challenged
  have h₂ := h₁.trans (write_does h₁.sound hkeep he)
  refine (h₂.trans (emit_does h₂.sound _)).neutral ?_ fun i => ?_
  · simp [deposit, challengedAttestation, hst]
  · simp [Event.settles, challengedAttestation, isSettled]

theorem challenge_keeps (ht : HarmlessToken cfg env.blockTime challenges tok) (hs : Sound cfg s)
    (h : challenge tok env id s = .ok s') (ho : Open cfg env.blockTime att) (hne : i ≠ id)
    (hc : challenges i = false) (hget : s.attestations.get i = some att) :
    s'.attestations.get i = some att := by
  obtain ⟨att, cfg', a, s₁, -, -, -, -, -, hp, rfl⟩ := challenge_ok.1 h
  exact (Mapping.get_set_ne _ _ hne).trans (ht.pull_keeps hs hp ho hc hget)

theorem pays_does (ht : HarmlessToken cfg env.blockTime challenges tok) {a b : Address} {n m : U256}
    (hs : Sound cfg s) (h : Pays tok a n b m s s') : Does cfg (n.val + m.val) 0 s s' := by
  obtain ⟨s₁, h₁, h⟩ := h
  have d₁ := ht.pay hs h₁
  by_cases hpos : 0 < m
  · rw [if_pos hpos] at h
    simpa using d₁.trans (ht.pay d₁.sound h)
  · rw [if_neg hpos] at h
    subst h
    have hzero : m.val = 0 := by rw [Fin.lt_def] at hpos; simpa using hpos
    have heq : (n.val + m.val : ℤ) = n.val := by omega
    rwa [heq]

theorem pays_keeps (ht : HarmlessToken cfg env.blockTime challenges tok) {a b : Address} {n m : U256}
    (hs : Sound cfg s) (h : Pays tok a n b m s s') (ho : Open cfg env.blockTime att) (hc : challenges i = false)
    (hget : s.attestations.get i = some att) : s'.attestations.get i = some att := by
  obtain ⟨s₁, h₁, h⟩ := h
  have hkeep := ht.pay_keeps hs h₁ ho hc hget
  split at h
  · exact ht.pay_keeps (ht.pay hs h₁).sound h ho hc hkeep
  · subst h
    exact hkeep

theorem payouts_does (ht : HarmlessToken cfg env.blockTime challenges tok) {challenger : Address}
    {fraudulent : Bool} {rew cut : U256} (hcut : cut.val + rew.val = att.stake.val) (hs : Sound cfg s)
    (h : payouts tok cfg att challenger fraudulent rew cut s = .ok s') :
    Does cfg (att.stake.val + att.challengeBond.val) 0 s s' := by
  cases fraudulent with
  | true =>
    obtain ⟨payout, hpay, h⟩ := payouts_slash.1 h
    have hd := pays_does ht hs h
    have heq : (payout.val + cut.val : ℤ) = att.stake.val + att.challengeBond.val := by omega
    rwa [heq] at hd
  | false => exact pays_does ht hs (payouts_honest.1 h)

theorem payouts_keeps (ht : HarmlessToken cfg env.blockTime challenges tok) {att' : Attestation}
    {challenger : Address} {fraudulent : Bool} {rew cut : U256} (hs : Sound cfg s)
    (h : payouts tok cfg att' challenger fraudulent rew cut s = .ok s') (ho : Open cfg env.blockTime att)
    (hc : challenges i = false) (hget : s.attestations.get i = some att) :
    s'.attestations.get i = some att := by
  cases fraudulent with
  | true =>
    obtain ⟨payout, -, h⟩ := payouts_slash.1 h
    exact pays_keeps ht hs h ho hc hget
  | false => exact pays_keeps ht hs (payouts_honest.1 h) ho hc hget

theorem resolve_edge (hst : att.status = .challenged) (fraudulent : Bool) :
    Edge (some att.status) (withStatus att (verdict fraudulent)).status := by
  rw [hst]
  cases fraudulent
  · exact .upheld
  · exact .slashed

theorem resolve_does (ht : HarmlessToken cfg env.blockTime challenges tok) {fraudulent : Bool} (hs : Sound cfg s)
    (h : resolve tok env id fraudulent s = .ok s') : Does cfg 0 0 s s' := by
  obtain ⟨cfg', att, ch, a, s₁, rep, bps, rew, cut, hcfg, -, hget, hst, -, -, -, hcut, -, -, hp, rfl⟩ :=
    resolve_ok.1 h
  cases hs.config.symm.trans hcfg
  have h₁ := write_does hs hget (resolve_edge hst fraudulent)
  have h₂ := h₁.trans (setReputation_does h₁.sound att.attestor rep)
  have h₃ := h₂.trans (payouts_does ht hcut h₂.sound hp)
  refine (h₃.trans (emit_does h₃.sound _)).neutral ?_ fun i => ?_
  · cases fraudulent <;> simp [deposit, withStatus, verdict, hst]
  · by_cases hi : id = i <;> cases fraudulent <;> simp [Event.settles, withStatus, verdict, isSettled, hi]

theorem resolve_keeps (ht : HarmlessToken cfg env.blockTime challenges tok) {fraudulent : Bool} (hs : Sound cfg s)
    (h : resolve tok env id fraudulent s = .ok s') (ho : Open cfg env.blockTime att)
    (hc : challenges i = false) (hget : s.attestations.get i = some att) :
    s'.attestations.get i = some att := by
  obtain ⟨cfg', att', ch, a, s₁, rep, bps, rew, cut, hcfg, -, hget', hst, -, -, -, -, -, -, hp, rfl⟩ :=
    resolve_ok.1 h
  cases hs.config.symm.trans hcfg
  have hne : i ≠ id := by
    rintro rfl
    cases hget.symm.trans hget'
    cases hst.symm.trans ho.active
  have h₁ := write_does hs hget' (resolve_edge hst fraudulent)
  have h₂ := h₁.trans (setReputation_does h₁.sound att'.attestor rep)
  have hkeep := payouts_keeps ht h₂.sound hp ho hc ((Mapping.get_set_ne _ _ hne).trans hget)
  exact hkeep

theorem finalize_does (ht : HarmlessToken cfg env.blockTime challenges tok) (hs : Sound cfg s)
    (h : finalize tok env id s = .ok s') : Does cfg 0 0 s s' := by
  obtain ⟨att, cfg', a, rep, s₁, hget, hst, -, -, -, -, hp, rfl⟩ := finalize_ok.1 h
  have he : Edge (some att.status) (withStatus att .finalized).status := hst ▸ .finalized
  have h₁ := write_does hs hget he
  have h₂ := h₁.trans (setReputation_does h₁.sound att.attestor rep)
  have h₃ := h₂.trans (ht.pay h₂.sound hp)
  refine (h₃.trans (emit_does h₃.sound _)).neutral ?_ fun i => ?_
  · simp [deposit, withStatus, hst]
  · by_cases hi : id = i <;> simp [Event.settles, withStatus, isSettled, hi]

theorem finalize_keeps (ht : HarmlessToken cfg env.blockTime challenges tok) (hs : Sound cfg s)
    (h : finalize tok env id s = .ok s') (ho : Open cfg env.blockTime att) (hc : challenges i = false)
    (hget : s.attestations.get i = some att) : s'.attestations.get i = some att := by
  obtain ⟨att', cfg', a, rep, s₁, hget', hst, hcfg, hw, -, -, hp, rfl⟩ := finalize_ok.1 h
  cases hs.config.symm.trans hcfg
  have hne : i ≠ id := by
    rintro rfl
    cases hget.symm.trans hget'
    exact ho.window hw
  have he : Edge (some att'.status) (withStatus att' .finalized).status := hst ▸ .finalized
  have h₁ := write_does hs hget' he
  have h₂ := h₁.trans (setReputation_does h₁.sound att'.attestor rep)
  have hkeep := ht.pay_keeps h₂.sound hp ho hc ((Mapping.get_set_ne _ _ hne).trans hget)
  exact hkeep

/-- **An entry point is harmless if its token is**, unless it challenges an
    attestation that the token challenges too. -/
theorem call_harmless (ht : HarmlessToken cfg env.blockTime challenges tok) {c : Call}
    (hc : c.challenged.all fun id => !challenges id) {r : U64 × State (Tracked τ)} (hs : Sound cfg s)
    (h : c.run tok env s = .ok r) : Does cfg 0 0 s r.2 ∧ ∀ i att, Open cfg env.blockTime att →
      (decide (c = .challenge i) || challenges i) = false → s.attestations.get i = some att →
      r.2.attestations.get i = some att := by
  cases c with
  | submitAttestation args =>
    exact ⟨submit_does ht hs h, fun i att ho hi => submit_keeps ht hs h ho (by simpa using hi)⟩
  | challenge id =>
    simp only [Call.run, bind_eq_ok, pure_eq_ok] at h
    obtain ⟨s', h, rfl⟩ := h
    refine ⟨challenge_does ht (by simpa [Call.challenged] using hc) hs h, fun i att ho hi => ?_⟩
    simp only [Call.challenge.injEq, Bool.or_eq_false_iff, decide_eq_false_iff_not] at hi
    exact challenge_keeps ht hs h ho (Ne.symm hi.1) hi.2
  | resolve id fraudulent =>
    simp only [Call.run, bind_eq_ok, pure_eq_ok] at h
    obtain ⟨s', h, rfl⟩ := h
    exact ⟨resolve_does ht hs h, fun i att ho hi => resolve_keeps ht hs h ho (by simpa using hi)⟩
  | finalize id =>
    simp only [Call.run, bind_eq_ok, pure_eq_ok] at h
    obtain ⟨s', h, rfl⟩ := h
    exact ⟨finalize_does ht hs h, fun i att ho hi => finalize_keeps ht hs h ho (by simpa using hi)⟩

end

/-! ## Nested execution -/

section
variable {t : Cep18 τ} {me : Address} {cfg : RegistryConfig} {now : U64} {challenges : U64 → Bool}
  {hook : Site → State (Tracked τ) → Except Revert (State (Tracked τ))} {s s' : State (Tracked τ)}

theorem pull_does {n : ℕ} {owner recipient : Address} {amount : U256} (hs : Sound cfg s)
    (h : (stakeRef t me).transferFrom n owner recipient amount s = .ok s') :
    Does cfg (-amount.val) 0 s s' ∧ s'.attestations = s.attestations := by
  obtain ⟨k, hk, rfl⟩ := stakeRef_transferFrom.1 h
  refine ⟨⟨hs.setToken k, le_rfl, ?_, by simp [pending]⟩, rfl⟩
  simp only [surplus, State.setToken_attestations, State.setToken_token, Cep18.pull_moves hk,
    Move.totalPaid_append, Move.totalPulled_append, Move.totalPaid_pull, Move.totalPulled_pull,
    Move.totalPaid_nil, Move.totalPulled_nil]
  omega

theorem pay_does {n : ℕ} {recipient : Address} {amount : U256} (hs : Sound cfg s)
    (h : (stakeRef t me).transfer n recipient amount s = .ok s') :
    Does cfg amount.val 0 s s' ∧ s'.attestations = s.attestations := by
  obtain ⟨k, hk, rfl⟩ := stakeRef_transfer.1 h
  refine ⟨⟨hs.setToken k, le_rfl, ?_, by simp [pending]⟩, rfl⟩
  simp only [surplus, State.setToken_attestations, State.setToken_token, Cep18.pay_moves hk,
    Move.totalPaid_append, Move.totalPulled_append, Move.totalPaid_pay, Move.totalPulled_pay,
    Move.totalPaid_nil, Move.totalPulled_nil]
  omega

/-- A movement of the token between two harmless executions. -/
theorem between_harmless {d : ℤ} {ex₁ move ex₂ : State (Tracked τ) → Except Revert (State (Tracked τ))}
    (h₁ : Harmless cfg now challenges ex₁) (h₂ : Harmless cfg now challenges ex₂)
    (hmove : ∀ {s s'}, Sound cfg s → move s = .ok s' → Does cfg d 0 s s' ∧ s'.attestations = s.attestations)
    (hs : Sound cfg s) (h : (ex₁ s >>= fun s => move s >>= ex₂) = .ok s') :
    Does cfg d 0 s s' ∧ ∀ id att, Open cfg now att → challenges id = false → s.attestations.get id = some att →
      s'.attestations.get id = some att := by
  obtain ⟨s₁, hex₁, h⟩ := bind_eq_ok.1 h
  obtain ⟨s₂, hm, hex₂⟩ := bind_eq_ok.1 h
  have d₁ := h₁.does hs hex₁
  obtain ⟨dm, heq⟩ := hmove d₁.sound hm
  have d₂ := d₁.trans dm
  refine ⟨by simpa using d₂.trans (h₂.does dm.sound hex₂), fun id att ho hc hget => ?_⟩
  refine h₂.keeps dm.sound hex₂ ho hc ?_
  rw [heq]
  exact h₁.keeps hs hex₁ ho hc hget

/-- Harmless hooks make a harmless token. -/
theorem hookRef_harmless (hh : ∀ site, Harmless cfg now challenges (hook site)) :
    HarmlessToken cfg now challenges (hookRef t me hook) where
  pull hs h := (between_harmless (hh _) (hh _) pull_does hs h).1
  pay hs h := (between_harmless (hh _) (hh _) pay_does hs h).1
  pull_keeps hs h ho hc hget := (between_harmless (hh _) (hh _) pull_does hs h).2 _ _ ho hc hget
  pay_keeps hs h ho hc hget := (between_harmless (hh _) (hh _) pay_does hs h).2 _ _ ho hc hget

mutual

/-- **Nested execution is harmless** if no challenge is nested in a challenge of
    the same attestation. -/
theorem NestedCall.harmless (c : NestedCall) (hc : c.disjoint) :
    Harmless cfg now (fun id => c.challenges id) (c.exec t me now) := by
  cases c with
  | mk caller call nested =>
    simp only [NestedCall.disjoint, Bool.and_eq_true] at hc
    have ht : HarmlessToken cfg (CallEnv.mk caller me now).blockTime (fun id => nested.challenges id)
        (hookRef t me (nested.exec t me now)) := hookRef_harmless (nested.harmless hc.2)
    constructor
    · intro s s' hs h
      simp only [NestedCall.exec, bind_eq_ok, pure_eq_ok] at h
      obtain ⟨r, h, rfl⟩ := h
      exact (call_harmless ht hc.1 hs h).1
    · intro s s' id att hs h ho hch hget
      simp only [NestedCall.exec, bind_eq_ok, pure_eq_ok] at h
      obtain ⟨r, h, rfl⟩ := h
      exact (call_harmless ht hc.1 hs h).2 id att ho hch hget

theorem Nested.harmless (n : Nested) (hn : n.disjoint) (site : Site) :
    Harmless cfg now (fun id => n.challenges id) (n.exec t me now site) := by
  cases n with
  | done =>
    constructor
    · intro s s' hs h
      cases h
      exact .refl hs
    · intro s s' id att hs h ho hc hget
      cases h
      exact hget
  | run site' call rest =>
    simp only [Nested.disjoint, Bool.and_eq_true] at hn
    have hcall := call.harmless hn.1
    have hrest := rest.harmless hn.2 site
    constructor
    · intro s s' hs h
      rw [Nested.exec] at h
      split at h
      · obtain ⟨s₁, h₁, h₂⟩ := bind_eq_ok.1 h
        have d₁ := hcall.does hs h₁
        simpa using d₁.trans (hrest.does d₁.sound h₂)
      · exact hrest.does hs h
    · intro s s' id att hs h ho hc hget
      simp only [Nested.challenges, Bool.or_eq_false_iff] at hc
      rw [Nested.exec] at h
      split at h
      · obtain ⟨s₁, h₁, h₂⟩ := bind_eq_ok.1 h
        exact hrest.keeps (hcall.does hs h₁).sound h₂ ho hc.2 (hcall.keeps hs h₁ ho hc.1 hget)
      · exact hrest.keeps hs h ho hc.2 hget

end

end

/-! ## Runs with a reentrant token -/

inductive NestedLabel where
  | call (now : U64) (c : NestedCall)
  | token

/-- A completed call with everything nested in it, or any change of the token
    state by others. -/
inductive NestedStep (t : Cep18 τ) (me : Address) : State (Tracked τ) → NestedLabel → State (Tracked τ) → Prop
  | call {s now c s'} : c.exec t me now s = .ok s' → NestedStep t me s (.call now c) s'
  | token {s chain} : NestedStep t me s .token (s.setToken ⟨chain, s.token.moves⟩)

/-- A registry just initialised. -/
def NestedInitial (cfg : RegistryConfig) (s : State (Tracked τ)) : Prop :=
  ∃ stakeToken chain, init stakeToken cfg.minStake cfg.challengeBond cfg.disputeWindow cfg.treasury
    cfg.resolver cfg.rewardBps (State.deployed (Tracked.mk chain [])) = .ok s

/-- What reentrancy must not break. -/
structure ReentrancySafe (s : State (Tracked τ)) : Prop where
  /-- each attestation is settled at most once -/
  once : ∀ id, settledEvents id s.events ≤ 1
  /-- no status change is overwritten: every status was written over the one
      it follows in the lifecycle -/
  legal : Legal s.journal
  /-- the recorded deposits are what came in minus what went out -/
  conserved : s.attestations.sum deposit + Move.totalPaid s.token.moves = Move.totalPulled s.token.moves

/-- The invariant between calls. -/
structure Quiescent (cfg : RegistryConfig) (s : State (Tracked τ)) : Prop where
  sound : Sound cfg s
  surplus : surplus s = 0
  pending : ∀ id, pending id s = 0

/-- The condition under which the registry is safe. -/
def NestedLabel.disjoint : NestedLabel → Bool
  | .call _ c => c.disjoint
  | .token => true

section
variable {t : Cep18 τ} {me : Address} {cfg : RegistryConfig} {s s₀ s' : State (Tracked τ)} {a : NestedLabel}
  {ls : List NestedLabel}

theorem NestedInitial.quiescent (h : NestedInitial cfg s) : Quiescent cfg s := by
  obtain ⟨stakeToken, chain, h⟩ := h
  obtain ⟨-, rfl⟩ := init_ok.1 h
  refine ⟨⟨⟨rfl, fun _ _ => rfl⟩, fun _ => rfl, .nil⟩, ?_, fun id => rfl⟩
  simp [surplus, State.deployed]

theorem NestedStep.quiescent (hs : Quiescent cfg s) (hd : a.disjoint) (h : NestedStep t me s a s') :
    Quiescent cfg s' := by
  cases h with
  | call h =>
    have hdoes := (NestedCall.harmless _ hd).does hs.sound h
    exact ⟨hdoes.sound, by rw [hdoes.surplus, hs.surplus]; rfl, fun id => by rw [hdoes.pending, hs.pending]; rfl⟩
  | token => exact ⟨hs.sound.setToken _, hs.surplus, hs.pending⟩

theorem Quiescent.safe (hs : Quiescent cfg s) : ReentrancySafe s where
  once id := by
    have hle := hs.sound.legal.settledWrites_le_one id
    have := hs.pending id
    simp only [Registry.pending] at this
    omega
  legal := hs.sound.legal
  conserved := by
    have := hs.surplus
    simp only [Registry.surplus] at this
    omega

/-- **Reentrancy.**  Whatever the token executes, the registry stays safe as
    long as no challenge of an attestation is nested in a challenge of the
    same attestation. -/
theorem reentrancy_safe (h₀ : NestedInitial cfg s₀) (h : Run (NestedStep t me) s₀ ls s)
    (hd : ∀ a ∈ ls, a.disjoint) : ReentrancySafe s := by
  suffices Quiescent cfg s from this.safe
  induction h with
  | nil => exact h₀.quiescent
  | @snoc ls a s₁ s₂ _ hstep ih =>
    have hq := ih fun b hb => hd b (List.mem_append_left _ hb)
    exact hstep.quiescent hq (hd a (by simp))

end

/-! ## Concrete runs -/

def demoState : State (Tracked Cep18State) := demoWorld.reg

theorem demo_nestedInitial : NestedInitial demoConfig demoState := ⟨.contract 7, demoToken, rfl⟩

def demoSubmit : NestedCall := .mk demoAlice (.submitAttestation demoArgs) .done

/-- A submission whose token call makes another submission, which it then
    challenges. -/
def demoNested : NestedCall :=
  .mk demoAlice (.submitAttestation demoArgs)
    (.run ⟨0, true⟩ demoSubmit (.run ⟨0, true⟩ (.mk demoAlice (.challenge 0) .done) .done))

theorem reentrancy_safe_demo : ∃ s, Run (NestedStep Cep18.basic demoRegistry) demoState
    [.call 5 demoNested] s ∧ s.journal.length = 3 ∧ ReentrancySafe s := by
  have h := Run.single (@NestedStep.call _ Cep18.basic demoRegistry demoState 5 demoNested _ rfl)
  exact ⟨_, h, rfl, reentrancy_safe demo_nestedInitial h (by decide)⟩

/-- A challenge whose token call challenges the same attestation and has it
    resolved. -/
def staleChallenge : NestedCall :=
  .mk demoAlice (.challenge 0)
    (.run ⟨0, true⟩ (.mk demoAlice (.challenge 0) .done)
      (.run ⟨0, true⟩ (.mk demoResolver (.resolve 0 true) .done) .done))

/-- Run top-level calls one after the other. -/
def execCalls (t : Cep18 τ) (me : Address) :
    List (U64 × NestedCall) → State (Tracked τ) → Except Revert (State (Tracked τ))
  | [], s => pure s
  | (now, c) :: rest, s => do
    let s ← c.exec t me now s
    execCalls t me rest s

theorem execCalls_run {t : Cep18 τ} {me : Address} {cs : List (U64 × NestedCall)} {s s' : State (Tracked τ)}
    (h : execCalls t me cs s = .ok s') : Run (NestedStep t me) s (cs.map fun p => .call p.1 p.2) s' := by
  induction cs generalizing s with
  | nil => cases h; exact .nil
  | cons p rest ih =>
    obtain ⟨s₁, h₁, h₂⟩ := bind_eq_ok.1 h
    exact (Run.single (.call h₁)).append (ih h₂)

def staleRun : List (U64 × NestedCall) :=
  [(5, demoSubmit), (5, demoSubmit), (6, staleChallenge), (7, .mk demoResolver (.resolve 0 true) .done)]

/-- The deposit recorded for attestation 1, and what the properties of
    `ReentrancySafe` compare. -/
def staleOutcome (s : State (Tracked Cep18State)) : Option ℕ × ℕ × ℕ × ℕ × ℕ :=
  ((s.attestations.get 1).map deposit, settledEvents 0 s.events, settledWrites 0 s.journal,
    Move.totalPaid s.token.moves, Move.totalPulled s.token.moves)

theorem staleRun_outcome :
    (execCalls Cep18.basic demoRegistry staleRun demoState).toOption.map staleOutcome =
      some (some 1001, 2, 2, 3002, 3002) := by
  decide +kernel

/-- The outer challenge revives the slashed attestation, which is then paid out
    a second time from the deposit of attestation 1. -/
theorem stale_challenge_settles_twice : ∃ s, NestedInitial demoConfig demoState ∧
    Run (NestedStep Cep18.basic demoRegistry) demoState (staleRun.map fun p => .call p.1 p.2) s ∧
    settledEvents 0 s.events = 2 ∧ ¬ Legal s.journal ∧
    s.attestations.sum deposit + Move.totalPaid s.token.moves ≠ Move.totalPulled s.token.moves := by
  have hout := staleRun_outcome
  cases hrun : execCalls Cep18.basic demoRegistry staleRun demoState with
  | error e => rw [hrun] at hout; cases hout
  | ok s =>
    rw [hrun] at hout
    simp only [Except.toOption, Option.map_some, Option.some.injEq, staleOutcome, Prod.mk.injEq,
      Option.map_eq_some_iff] at hout
    obtain ⟨⟨att, hget, hdep⟩, hsettled, hwrites, hpaid, hpulled⟩ := hout
    refine ⟨s, demo_nestedInitial, execCalls_run hrun, hsettled, fun hl => ?_, fun heq => ?_⟩
    · have := hl.settledWrites_le_one 0
      omega
    · have := Mapping.le_sum hget deposit
      omega

end CasperProof.Registry
