/-
  Disputes — when an attestation can be challenged, who can settle it, and what
  a slash costs.

  * `run_ordered`: the calls of a run are ordered by their block times.
  * `no_slash_outside_rules`: nothing is challenged or slashed but through a
    challenge inside the dispute window.
  * `slash_cost`: what the attestor of a slashed attestation gets back.  Anyone
    may challenge, and so may the attestor.
-/
import CasperProof.Contracts.Records

namespace CasperProof.Registry

variable {τ : Type} {t : Cep18 τ} {me : Address} {cfg : RegistryConfig} {id : U64}
  {ls l₁ l₂ : List Label} {a : Label} {o : Option Attestation} {att att' : Attestation} {w w' w₀ : World τ}

/-! ## Block times -/

/-- The call was made at `now` or before. -/
def Label.madeBy (now : U64) : Label → Prop
  | .call env _ _ _ => env.blockTime ≤ now
  | .direct _ => True

/-- The call `a` was not made after the call `b`. -/
def Label.NotAfter (a b : Label) : Prop := ∀ env c id moves, b = .call env c id moves → a.madeBy env.blockTime

theorem Label.madeBy_mono {now now' : U64} (h : a.madeBy now) (hle : now ≤ now') : a.madeBy now' := by
  cases a with
  | call => exact le_trans h hle
  | direct => trivial

theorem Step.clock_le (h : Step t me w a w') : w.clock ≤ w'.clock := by
  cases h with
  | call _ _ hclock => exact hclock
  | direct => exact le_rfl

/-- **The calls of a run are ordered by time**, and none was made after the
    clock of its last state. -/
theorem run_ordered (h : Run (Step t me) w ls w') :
    ls.Pairwise Label.NotAfter ∧ ∀ b ∈ ls, b.madeBy w'.clock := by
  refine h.pairwise (B := fun a w => a.madeBy w.clock) ?_ ?_ ?_
  · intro w a w' hs
    cases hs with
    | call => exact le_rfl
    | direct => trivial
  · intro b w a w' hb hs
    exact Label.madeBy_mono hb hs.clock_le
  · rintro b w a w' hb hs env c id moves rfl
    cases hs with
    | call _ _ hclock => exact Label.madeBy_mono hb hclock

/-! ## The dispute window -/

/-- The last block time at which an attestation created at `createdAt` can be
    challenged. -/
def windowEnd (cfg : RegistryConfig) (createdAt : U64) : U64 :=
  saturatingAdd createdAt (saturatingMul cfg.disputeWindow 1000)

theorem windowClosed_iff {now : U64} : windowClosed cfg now att ↔ windowEnd cfg att.createdAt < now := Iff.rfl

/-- A challenge of `id` succeeded inside the dispute window of `att`. -/
def ChallengedInWindow (cfg : RegistryConfig) (id : U64) (att : Attestation) (ls : List Label) : Prop :=
  ∃ env moves, .call env (.challenge id) id moves ∈ ls ∧ att.createdAt ≤ env.blockTime ∧
    env.blockTime ≤ windowEnd cfg att.createdAt

theorem ChallengedInWindow.mono (h : ChallengedInWindow cfg id att l₁) (hsub : l₁ ⊆ l₂) :
    ChallengedInWindow cfg id att l₂ := by
  obtain ⟨env, moves, hmem, hle, hend⟩ := h
  exact ⟨env, moves, hsub hmem, hle, hend⟩

/-- The label of a challenge that was made after the submission `env₁` and
    before the end of the window. -/
theorem challenged_in_window {env₁ env₂ : CallEnv} {args : SubmitArgs}
    (hcreated : att.createdAt = env₁.blockTime)
    (hp : (Label.submitted env₁ args id :: .challenged cfg env₂ id :: l₂).Pairwise Label.NotAfter)
    (hw : ¬ windowClosed cfg env₂.blockTime (newAttestation env₁ args id)) :
    ChallengedInWindow cfg id att (Label.submitted env₁ args id :: .challenged cfg env₂ id :: l₂) := by
  have hle : env₁.blockTime ≤ env₂.blockTime :=
    (List.pairwise_cons.1 hp).1 (.challenged cfg env₂ id) List.mem_cons_self env₂ (.challenge id) id _ rfl
  refine ⟨env₂, _, List.mem_cons_of_mem _ List.mem_cons_self, hcreated ▸ hle, ?_⟩
  rw [hcreated]
  exact not_lt.1 (fun hlt => hw (windowClosed_iff.2 hlt))

/-- **Whoever has a challenger was challenged in time.** -/
theorem Life.challenged_in_window (h : Life cfg id ls (some att)) (hp : ls.Pairwise Label.NotAfter)
    (hc : att.challenger.isSome) : ChallengedInWindow cfg id att ls := by
  cases h with
  | active => cases hc
  | challenged hw => exact Registry.challenged_in_window rfl hp hw
  | resolved hw => exact Registry.challenged_in_window rfl hp hw
  | finalized => cases hc

/-- An attestation that nobody challenged is not slashed, and all it ever moves
    is its stake, back to its attestor. -/
theorem Life.unchallenged (h : Life cfg id ls (some att)) (hc : att.challenger = none) :
    att.status ≠ .slashed ∧ ∀ env c moves, .call env c id moves ∈ ls →
      (∃ args, c = .submitAttestation args) ∨ c = .finalize id ∧ moves = [.pay att.attestor att.stake.val] := by
  cases h with
  | active =>
    refine ⟨by simp [newAttestation], fun env c moves hmem => ?_⟩
    simp only [Label.submitted, List.mem_singleton, Label.call.injEq] at hmem
    exact .inl ⟨_, hmem.2.1⟩
  | challenged => cases hc
  | resolved => cases hc
  | finalized =>
    refine ⟨by simp [withStatus], fun env c moves hmem => ?_⟩
    simp only [Label.submitted, List.mem_cons, Label.call.injEq, List.not_mem_nil, or_false] at hmem
    rcases hmem with ⟨-, rfl, -⟩ | ⟨-, rfl, -, rfl⟩
    · exact .inl ⟨_, rfl⟩
    · exact .inr ⟨rfl, rfl⟩

/-- Only the resolver makes an attestation slashed, or settles a challenged
    one. -/
theorem Local.resolver (h : Local cfg id o a (some att'))
    (hst : att'.status = .slashed ∨ o.map Attestation.status = some .challenged) :
    ∃ env fraudulent moves, a = .call env (.resolve id fraudulent) id moves ∧ env.caller = cfg.resolver := by
  cases h with
  | submit => simp [newAttestation] at hst
  | challenge hact => simp [challengedAttestation, hact] at hst
  | resolve hcl => exact ⟨_, _, _, rfl, hcl⟩
  | finalize hact => simp [withStatus, hact] at hst

theorem Step.resolver (hs : WellFormed cfg w.reg) (h : Step t me w a w')
    (hget' : w'.reg.attestations.get id = some att')
    (hst : att'.status = .slashed ∧ (w.reg.attestations.get id).map Attestation.status ≠ some .slashed ∨
      att'.status = .finalized ∧ (w.reg.attestations.get id).map Attestation.status = some .challenged) :
    ∃ env fraudulent moves, a = .call env (.resolve id fraudulent) id moves ∧ env.caller = cfg.resolver := by
  rcases h.entry hs id with hsame | ⟨att₁, hget₁, hl⟩
  · rw [← hsame, hget'] at hst
    rcases hst with ⟨h₁, h₂⟩ | ⟨h₁, h₂⟩
    · exact absurd (congrArg some h₁) h₂
    · rw [Option.map_some, h₁] at h₂
      cases h₂
  · cases hget₁.symm.trans hget'
    exact hl.resolver (hst.imp And.left And.right)

/-- **No slash outside the rules.**  An attestation is challenged or slashed
    only if a challenge succeeded inside its window; only the resolver slashes
    it, or settles it once it is challenged; without such a challenge it is never
    slashed and moves nothing but its stake, back to its attestor; and challenge
    and finalization are never open at the same time. -/
theorem no_slash_outside_rules (h₀ : Initial t me cfg w₀) (h : Run (Step t me) w₀ ls w) (id : U64) :
    (∀ att, w.reg.attestations.get id = some att → att.status = .challenged ∨ att.status = .slashed →
      ChallengedInWindow cfg id att ls) ∧
    (∀ a w' att', Step t me w a w' → w'.reg.attestations.get id = some att' →
      (att'.status = .slashed ∧ (w.reg.attestations.get id).map Attestation.status ≠ some .slashed ∨
        att'.status = .finalized ∧ (w.reg.attestations.get id).map Attestation.status = some .challenged) →
      ∃ env fraudulent moves, a = .call env (.resolve id fraudulent) id moves ∧ env.caller = cfg.resolver) ∧
    (∀ att, w.reg.attestations.get id = some att → ¬ ChallengedInWindow cfg id att ls →
      att.status ≠ .slashed ∧ ∀ env c moves, .call env c id moves ∈ ls →
        (∃ args, c = .submitAttestation args) ∨ c = .finalize id ∧ moves = [.pay att.attestor att.stake.val]) ∧
    ∀ (env env' : CallEnv) s s', env.blockTime = env'.blockTime →
      challenge (stakeRef t me) env id w.reg.fresh = .ok s → finalize (stakeRef t me) env' id w.reg.fresh ≠ .ok s' := by
  have hsub : ls.filter (Label.about id) ⊆ ls := fun a ha => (List.mem_filter.1 ha).1
  have hinTime : ∀ att, w.reg.attestations.get id = some att → att.challenger.isSome →
      ChallengedInWindow cfg id att ls := by
    intro att hget hc
    have hp := (run_ordered h).1.filter (Label.about id)
    exact ((life_of_stored h₀ h hget).challenged_in_window hp hc).mono hsub
  refine ⟨fun att hget hst => ?_, fun a w' att' hs hget' hst => ?_, fun att hget hno => ?_, ?_⟩
  · exact hinTime att hget ((life_of_stored h₀ h hget).recorded.disputed hst)
  · exact hs.resolver (run_wellFormed h₀ h) hget' hst
  · have hnone : att.challenger = none := by
      by_contra hc
      exact hno (hinTime att hget (Option.isSome_iff_ne_none.2 hc))
    obtain ⟨hst, hcalls⟩ := (life_of_stored h₀ h hget).unchallenged hnone
    refine ⟨hst, fun env c moves hmem => hcalls env c moves ?_⟩
    exact List.mem_filter.2 ⟨hmem, by simp [Label.about]⟩
  · intro env env' s s' htime hch hfin
    obtain ⟨att, cfg₁, _, _, hget, -, hcfg, hopen, -⟩ := challenge_ok.1 hch
    obtain ⟨att', cfg₂, _, _, _, hget', -, hcfg', hclosed, -⟩ := finalize_ok.1 hfin
    cases hget.symm.trans hget'
    cases hcfg.symm.trans hcfg'
    rw [htime] at hopen
    exact hopen hclosed

theorem no_slash_outside_rules_demo : ∃ ls w, Run (Step Cep18.basic demoRegistry) demoWorld ls w ∧
    ∀ att, w.reg.attestations.get 0 = some att → att.status = .challenged ∨ att.status = .slashed →
      ChallengedInWindow demoConfig 0 att ls := by
  obtain ⟨w, h⟩ := demo_run
  exact ⟨_, w, h, (no_slash_outside_rules demo_initial h 0).1⟩

/-! ## What a slash costs -/

/-- What the attestor of a slashed attestation gets back of its stake: the
    challenger's part, if it challenged itself. -/
def stakeReturned (cfg : RegistryConfig) (att : Attestation) : ℕ :=
  if att.challenger = some att.attestor then reward cfg att else 0

/-- The attestor's own bond. -/
def bondReturned (att : Attestation) : ℕ :=
  if att.challenger = some att.attestor then att.challengeBond.val else 0

/-- What `who` received in the calls about `id`. -/
def receivedFor (who : Address) (id : U64) (ls : List Label) : ℕ :=
  ((ls.filter (Label.about id)).map fun a => Move.totalPaidTo who a.moves).sum

/-- What `who` gave in the calls about `id`. -/
def givenFor (who : Address) (id : U64) (ls : List Label) : ℕ :=
  ((ls.filter (Label.about id)).map fun a => Move.totalPulledFrom who a.moves).sum

theorem slash_paidTo {challenger : Address} (hch : att.challenger = some challenger)
    (htr : cfg.treasury ≠ att.attestor) :
    Move.totalPaidTo att.attestor (settlement cfg att challenger true) = stakeReturned cfg att + bondReturned att := by
  have hrest : Move.totalPaidTo att.attestor (if reward cfg att < att.stake.val then
      [.pay cfg.treasury (att.stake.val - reward cfg att)] else []) = 0 := by
    split <;> simp [htr]
  rw [settlement, if_pos rfl, Move.totalPaidTo_pay, hrest, stakeReturned, bondReturned, hch]
  by_cases hself : challenger = att.attestor
  · simp [hself]
  · simp [hself]

theorem settlement_pulledFrom (cfg : RegistryConfig) (att : Attestation) (challenger who : Address)
    (fraudulent : Bool) : Move.totalPulledFrom who (settlement cfg att challenger fraudulent) = 0 := by
  unfold settlement
  split <;> split <;> simp

/-- The calls about an attestation that is challenged. -/
theorem Life.of_challenged (h : Life cfg id ls (some att)) (hst : att.status = .challenged) :
    ∃ env₁ args env₂, ls = [.submitted env₁ args id, .challenged cfg env₂ id] ∧
      att = disputed cfg env₁ args env₂ id := by
  cases h with
  | active => cases hst
  | challenged => exact ⟨_, _, _, rfl, rfl⟩
  | @resolved _ _ _ _ fraudulent => cases fraudulent <;> cases hst
  | finalized => cases hst

theorem Life.attestor (h : Life cfg id ls (some att)) {env : CallEnv} {args : SubmitArgs}
    (hmem : .submitted env args id ∈ ls) : att.attestor = env.caller := by
  cases h <;> simp [Label.submitted, Label.challenged] at hmem <;> rw [hmem.1] <;> rfl

theorem Local.of_resolve {env : CallEnv} {fraudulent : Bool} {moves : List Move} {o' : Option Attestation}
    (h : Local cfg id o (.call env (.resolve id fraudulent) id moves) o') :
    ∃ att challenger, o = some att ∧ att.status = .challenged ∧ att.challenger = some challenger ∧
      moves = settlement cfg att challenger fraudulent := by
  cases h with
  | resolve _ hst hch => exact ⟨_, _, rfl, hst, hch, rfl⟩

theorem caller_ne {env : CallEnv} {c : Call} {moves : List Move} (h : Run (Step t me) w ls w')
    (hmem : .call env c id moves ∈ ls) : env.caller ≠ me := by
  obtain ⟨l₁, l₂, rfl⟩ := List.append_of_mem hmem
  obtain ⟨_, _, -, hs, -⟩ := h.split_cons
  cases hs with
  | call _ hc => exact hc

/-- **What a slash costs.**  Of the stake of a slashed attestation its attestor
    gets back the challenger's reward if it challenged itself, and nothing
    otherwise; and apart from the stake it gave, and its own bond, it gives
    nothing.  The treasury is another account. -/
theorem slash_cost (ht : t.Standard) (h₀ : Initial t me cfg w₀) {env : CallEnv} {moves : List Move}
    (h : Run (Step t me) w₀ (l₁ ++ .call env (.resolve id true) id moves :: l₂) w) :
    ∃ w₁ w₂ att, Run (Step t me) w₀ l₁ w₁ ∧ Step t me w₁ (.call env (.resolve id true) id moves) w₂ ∧
      w₁.reg.attestations.get id = some att ∧ (cfg.treasury ≠ att.attestor →
        Move.totalPaidTo att.attestor moves = stakeReturned cfg att + bondReturned att ∧
        (t.balanceOf w₂.reg.token.chain att.attestor).val =
          (t.balanceOf w₁.reg.token.chain att.attestor).val + stakeReturned cfg att + bondReturned att ∧
        receivedFor att.attestor id (l₁ ++ .call env (.resolve id true) id moves :: l₂) =
          stakeReturned cfg att + bondReturned att ∧
        givenFor att.attestor id (l₁ ++ .call env (.resolve id true) id moves :: l₂) =
          att.stake.val + bondReturned att) := by
  obtain ⟨w₁, w₂, h₁, hs, h₂⟩ := h.split_cons
  have hlife := life_of_run (local_run h₀ h id)
  have habout : Label.about id (.call env (.resolve id true) id moves) := by simp [Label.about]
  rw [List.filter_append, List.filter_cons_of_pos habout] at hlife
  have hnil := hlife.settles_last (by simp [Label.settles])
  obtain ⟨he, hmv⟩ := hs.effect (run_wellFormed h₀ h₁)
  obtain ⟨att', hl, -⟩ := he.record
  rw [hmv] at hl
  obtain ⟨att, challenger, hget, hst, hch, hmoves⟩ := hl.of_resolve
  replace hget : w₁.reg.attestations.get id = some att := hget
  obtain ⟨env₁, args, env₂, hcalls, rfl⟩ := (life_of_stored h₀ h₁ hget).of_challenged hst
  have hmem : Label.submitted env₁ args id ∈ l₁ := by
    have hmem : Label.submitted env₁ args id ∈ l₁.filter (Label.about id) := by simp [hcalls]
    exact (List.mem_filter.1 hmem).1
  refine ⟨w₁, w₂, _, h₁, hs, hget, fun htr => ?_⟩
  have hpaid := slash_paidTo hch htr
  have hnone := settlement_pulledFrom cfg (disputed cfg env₁ args env₂ id) challenger
    (disputed cfg env₁ args env₂ id).attestor true
  rw [← hmoves] at hpaid hnone
  have hbal := (he.executed ht w₁.reg.token.chain .nil).balance_party (caller_ne h₁ hmem)
  rw [hmv] at hbal
  have hfilter : (l₁ ++ Label.call env (.resolve id true) id moves :: l₂).filter (Label.about id) =
      [.submitted env₁ args id, .challenged cfg env₂ id, .call env (.resolve id true) id moves] := by
    rw [List.filter_append, List.filter_cons_of_pos habout, hnil, hcalls]
    rfl
  refine ⟨hpaid, ?_, ?_, ?_⟩
  · have hown : (disputed cfg env₁ args env₂ id).attestor = env₁.caller := rfl
    rw [hown] at hpaid hnone ⊢
    rw [hpaid, hnone] at hbal
    rw [add_assoc]
    exact hbal
  · rw [receivedFor, hfilter]
    simp [Label.moves, Label.submitted, Label.challenged, hpaid]
  · have hown : (disputed cfg env₁ args env₂ id).challenger = some env₂.caller := rfl
    rw [givenFor, hfilter, bondReturned, hown]
    simp [Label.moves, Label.submitted, Label.challenged, disputed, newAttestation, challengedAttestation]
    exact hnone

def demoSubmitted : Label := .submitted (demoEnv demoAlice 5) demoArgs 0

def demoChallenged : Label := .challenged demoConfig (demoEnv demoAlice 6) 0

/-- The moves of the slash of `demo_run`. -/
def demoSlash : List Move := [.pay demoAlice 1000, .pay demoConfig.treasury 501]

theorem slash_cost_demo : ∃ w₁ att, Run (Step Cep18.basic demoRegistry) demoWorld [demoSubmitted, demoChallenged] w₁ ∧
    w₁.reg.attestations.get 0 = some att ∧
    Move.totalPaidTo att.attestor demoSlash = stakeReturned demoConfig att + bondReturned att := by
  obtain ⟨w, h⟩ := demo_run
  have hrun : Run (Step Cep18.basic demoRegistry) demoWorld
      ([demoSubmitted, demoChallenged] ++ .call (demoEnv demoResolver 7) (.resolve 0 true) 0 demoSlash :: []) w := h
  obtain ⟨w₁, w₂, att, h₁, -, hget, hcost⟩ := slash_cost Cep18.basic_standard demo_initial hrun
  have hmem : demoSubmitted ∈ [demoSubmitted, demoChallenged].filter (Label.about 0) := by decide
  have hown : att.attestor = demoAlice := (life_of_stored demo_initial h₁ hget).attestor hmem
  have htr : demoConfig.treasury ≠ att.attestor := by rw [hown]; decide
  exact ⟨w₁, att, h₁, hget, (hcost htr).1⟩

/-- Alice challenges her own attestation and is slashed: of the stake of 1001
    she loses 501. -/
theorem self_challenge_returns_stake : ∃ w, Run (Step Cep18.basic demoRegistry) demoWorld
      [demoSubmitted, demoChallenged, .call (demoEnv demoResolver 7) (.resolve 0 true) 0 demoSlash] w ∧
    demoConfig.treasury ≠ demoAlice ∧ Move.totalPaidTo demoAlice demoSlash = demoConfig.challengeBond.val + 500 ∧
    (Cep18.basic.balanceOf w.reg.token.chain demoAlice).val + 501 =
      (Cep18.basic.balanceOf demoWorld.reg.token.chain demoAlice).val := by
  obtain ⟨_, w, -, h, -, hbal, -⟩ := demo_runs
  exact ⟨w, h, by decide, by decide, hbal⟩

end CasperProof.Registry
