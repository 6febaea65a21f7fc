/-
  Records — what the registry's table holds after a run.

  * `Recorded`: the invariant of one record; `Local.recorded` and
    `Local.advances` say what one call does to it.
  * `Advances att att'`: `att'` is a later state of the record `att`: what was
    submitted is the same, the status followed the lifecycle, and a challenge
    stays as it was recorded.
  * `record_integrity`: the table over whole runs.
-/
import CasperProof.Contracts.Settlement
import CasperProof.Contracts.Journal
import Mathlib.Logic.Relation

namespace CasperProof.Registry

variable {τ : Type} {t : Cep18 τ} {me : Address} {cfg : RegistryConfig} {id : U64}
  {ls : List Label} {a : Label} {o : Option Attestation} {att att' att'' : Attestation}

/-- The fields that a submission fixes. -/
structure SameSubmission (att att' : Attestation) : Prop where
  id : att'.id = att.id
  attestor : att'.attestor = att.attestor
  modelId : att'.modelId = att.modelId
  inputHash : att'.inputHash = att.inputHash
  outputHash : att'.outputHash = att.outputHash
  commitment : att'.commitment = att.commitment
  uri : att'.uri = att.uri
  stake : att'.stake = att.stake
  createdAt : att'.createdAt = att.createdAt

theorem SameSubmission.refl (att : Attestation) : SameSubmission att att :=
  ⟨rfl, rfl, rfl, rfl, rfl, rfl, rfl, rfl, rfl⟩

theorem SameSubmission.trans (h : SameSubmission att att') (h' : SameSubmission att' att'') :
    SameSubmission att att'' :=
  ⟨h'.id.trans h.id, h'.attestor.trans h.attestor, h'.modelId.trans h.modelId, h'.inputHash.trans h.inputHash,
    h'.outputHash.trans h.outputHash, h'.commitment.trans h.commitment, h'.uri.trans h.uri, h'.stake.trans h.stake,
    h'.createdAt.trans h.createdAt⟩

/-- The fields that a challenge sets: by whom, with which bond, and when. -/
def dispute (att : Attestation) : Option Address × U256 × U64 :=
  (att.challenger, att.challengeBond, att.challengedAt)

/-- One step of the lifecycle. -/
def Follows (st st' : AttestationStatus) : Prop := Edge (some st) st'

theorem Follows.not_settled {st st' : AttestationStatus} (h : Follows st st') : isSettled st = false :=
  Edge.not_settled h

/-- Settled statuses are absorbing. -/
theorem settled_absorbing {st st' : AttestationStatus} (hst : isSettled st)
    (h : Relation.ReflTransGen Follows st st') : st' = st := by
  rcases Relation.ReflTransGen.cases_head h with heq | ⟨st₁, hf, -⟩
  · exact heq.symm
  · rw [hf.not_settled] at hst
    cases hst

/-- `att'` is a later state of the record `att`. -/
structure Advances (att att' : Attestation) : Prop where
  same : SameSubmission att att'
  status : Relation.ReflTransGen Follows att.status att'.status
  dispute : att.challenger.isSome → dispute att' = dispute att

theorem Advances.refl (att : Attestation) : Advances att att := ⟨.refl att, .refl, fun _ => rfl⟩

theorem Advances.trans (h : Advances att att') (h' : Advances att' att'') : Advances att att'' where
  same := h.same.trans h'.same
  status := h.status.trans h'.status
  dispute hc := by
    have heq := h.dispute hc
    have hch : att'.challenger = att.challenger := congrArg Prod.fst heq
    rw [h'.dispute (hch ▸ hc), heq]

/-- The record of `id`: it carries its id, and has a challenger once it is
    disputed, and none before. -/
structure Recorded (id : U64) (att : Attestation) : Prop where
  id : att.id = id
  active : att.status = .active → att.challenger = none
  disputed : att.status = .challenged ∨ att.status = .slashed → att.challenger.isSome

/-- A `challenge` of `id`. -/
def Label.challenges (id : U64) : Label → Bool
  | .call _ (.challenge _) i _ => i = id
  | _ => false

/-! ## One call -/

theorem Local.recorded (h : Local cfg id o a (some att')) (ho : ∀ att, o = some att → Recorded id att) :
    Recorded id att' := by
  cases h with
  | submit => exact ⟨rfl, fun _ => rfl, by simp [newAttestation]⟩
  | @challenge _ att => exact ⟨(ho att rfl).id, by simp [challengedAttestation], by simp [challengedAttestation]⟩
  | @resolve _ att ch fraudulent _ hst hch =>
    refine ⟨(ho att rfl).id, fun hact => ?_, fun _ => ?_⟩
    · cases fraudulent <;> cases hact
    · rw [show (withStatus att (verdict fraudulent)).challenger = some ch from hch]
      rfl
  | @finalize _ att => exact ⟨(ho att rfl).id, by simp [withStatus], by simp [withStatus]⟩

/-- A call about a stored record moves it along one edge of the lifecycle, and
    a challenge is the only one that sets the dispute. -/
theorem Local.edge (h : Local cfg id (some att) a (some att')) :
    SameSubmission att att' ∧ Follows att.status att'.status ∧
      (dispute att' = dispute att ∧ a.challenges id = false ∨
        ∃ env : CallEnv, a = .challenged cfg env id ∧ att.status = .active ∧
          dispute att' = (some env.caller, cfg.challengeBond, env.blockTime)) := by
  cases h with
  | @challenge env _ hst =>
    refine ⟨⟨rfl, rfl, rfl, rfl, rfl, rfl, rfl, rfl, rfl⟩, ?_, .inr ⟨env, rfl, hst, rfl⟩⟩
    rw [hst]
    exact Edge.challenged
  | @resolve _ _ _ fraudulent _ hst =>
    refine ⟨⟨rfl, rfl, rfl, rfl, rfl, rfl, rfl, rfl, rfl⟩, ?_, .inl ⟨rfl, rfl⟩⟩
    rw [hst]
    cases fraudulent
    · exact Edge.upheld
    · exact Edge.slashed
  | finalize hst =>
    refine ⟨⟨rfl, rfl, rfl, rfl, rfl, rfl, rfl, rfl, rfl⟩, ?_, .inl ⟨rfl, rfl⟩⟩
    rw [hst]
    exact Edge.finalized

theorem Local.advances (hr : Recorded id att) (h : Local cfg id (some att) a (some att')) : Advances att att' := by
  obtain ⟨hsame, hedge, hdisp⟩ := h.edge
  refine ⟨hsame, .single hedge, fun hc => ?_⟩
  rcases hdisp with ⟨heq, -⟩ | ⟨env, -, hact, -⟩
  · exact heq
  · rw [hr.active hact] at hc
    cases hc

theorem Local.stored {o' : Option Attestation} (h : Local cfg id o a o') : ∃ att', o' = some att' := by
  cases h <;> exact ⟨_, rfl⟩

/-- A stored record stays stored, and every later state of it is an advance. -/
theorem advances_of_run (hr : Recorded id att) (h : Run (Local cfg id) (some att) ls o) :
    ∃ att', o = some att' ∧ Recorded id att' ∧ Advances att att' := by
  induction h with
  | nil => exact ⟨att, rfl, hr, .refl att⟩
  | snoc _ hs ih =>
    obtain ⟨att₁, rfl, hr₁, hadv⟩ := ih
    obtain ⟨att₂, rfl⟩ := hs.stored
    have hr₂ : Recorded id att₂ := by
      refine hs.recorded ?_
      rintro _ ⟨⟩
      exact hr₁
    exact ⟨att₂, rfl, hr₂, hadv.trans (hs.advances hr₁)⟩

/-- A record carries a challenger exactly after the one challenge of it. -/
theorem Life.challenges_eq (h : Life cfg id ls (some att)) :
    ls.countP (Label.challenges id) = if att.challenger.isSome then 1 else 0 := by
  cases h <;> simp [Label.submitted, Label.challenged, Label.challenges, newAttestation, disputed,
    challengedAttestation, withStatus]

theorem Life.recorded (h : Life cfg id ls (some att)) : Recorded id att := by
  cases h with
  | active => exact ⟨rfl, fun _ => rfl, by simp [newAttestation]⟩
  | challenged => exact ⟨rfl, by simp [disputed, challengedAttestation], fun _ => rfl⟩
  | @resolved _ _ _ _ fraudulent =>
    refine ⟨rfl, fun hact => ?_, fun _ => rfl⟩
    cases fraudulent <;> cases hact
  | finalized => exact ⟨rfl, by simp [withStatus], by simp [withStatus]⟩

/-! ## The table -/

section
variable {env : CallEnv} {s s' : State (Tracked τ)} {w w' w₀ : World τ}

/-- A submission stores its record under the next id; the other calls are about
    a stored one. -/
theorem call_count {c : Call} (hs : WellFormed cfg s)
    (h : c.run (stakeRef t me) env s = .ok (id, s')) :
    s.attestations.get id = none ∧ id = s.count ∧ s'.count.val = s.count.val + 1 ∨
      (∃ att, s.attestations.get id = some att) ∧ s'.count = s.count := by
  cases c with
  | submitAttestation args =>
    obtain ⟨cfg', a, s₁, count, rep, -, -, -, ht, rfl, hcount, -, rfl⟩ := submitAttestation_ok.1 h
    obtain ⟨k, hk, rfl⟩ := stakeRef_transferFrom.1 ht
    exact .inl ⟨hs.fresh _ le_rfl, rfl, hcount⟩
  | challenge i =>
    simp only [Call.run, bind_eq_ok, pure_eq_ok, Prod.mk.injEq] at h
    obtain ⟨_, h, rfl, rfl⟩ := h
    obtain ⟨att, cfg', a, s₁, hatt, -, -, -, -, ht, rfl⟩ := challenge_ok.1 h
    obtain ⟨k, hk, rfl⟩ := stakeRef_transferFrom.1 ht
    exact .inr ⟨⟨att, hatt⟩, rfl⟩
  | resolve i fraudulent =>
    simp only [Call.run, bind_eq_ok, pure_eq_ok, Prod.mk.injEq] at h
    obtain ⟨_, h, rfl, rfl⟩ := h
    obtain ⟨cfg', att, ch, a, s₁, rep, bps, rew, cut, hc, -, hatt, -, -, -, hrew, hcut, -, -, hp, rfl⟩ :=
      resolve_ok.1 h
    cases hs.config.symm.trans hc
    obtain ⟨k, rfl, -, -⟩ := payouts_moves hrew hcut hp
    exact .inr ⟨⟨att, hatt⟩, rfl⟩
  | finalize i =>
    simp only [Call.run, bind_eq_ok, pure_eq_ok, Prod.mk.injEq] at h
    obtain ⟨_, h, rfl, rfl⟩ := h
    obtain ⟨att, cfg', a, rep, s₁, hatt, -, -, -, -, -, ht, rfl⟩ := finalize_ok.1 h
    obtain ⟨k, hk, rfl⟩ := stakeRef_transfer.1 ht
    exact .inr ⟨⟨att, hatt⟩, rfl⟩

/-- Every id below the count is stored. -/
def Dense (s : State τ) : Prop := ∀ i < s.count, ∃ att, s.attestations.get i = some att

theorem Step.dense (hs : WellFormed cfg w.reg) (hd : Dense w.reg) (h : Step t me w a w') : Dense w'.reg := by
  cases h with
  | @call env c id reg _ _ _ hr =>
    obtain ⟨att, -, hset⟩ := (call_effect hs.fresh_state rfl hr).record
    intro i hi
    by_cases hid : i = id
    · subst hid
      exact ⟨att, by rw [hset, Mapping.get_set_self]⟩
    · have hlt : i < w.reg.count := by
        rcases call_count hs.fresh_state hr with ⟨-, heq, hcount⟩ | ⟨-, hcount⟩
        · have hne : i.val ≠ w.reg.count.val := fun h => hid (Fin.ext h |>.trans heq.symm)
          have hcount' : reg.count.val = w.reg.count.val + 1 := hcount
          have hlt : i.val < reg.count.val := hi
          rw [Fin.lt_def]
          omega
        · rw [hcount] at hi
          exact hi
      obtain ⟨att', hget⟩ := hd i hlt
      exact ⟨att', by rw [hset, Mapping.get_set_ne _ _ hid]; exact hget⟩
  | direct => exact hd

theorem run_dense (h₀ : Initial t me cfg w₀) (h : Run (Step t me) w₀ ls w) : Dense w.reg := by
  have hcount : Dense w₀.reg := by
    obtain ⟨stakeToken, chain, hi⟩ := h₀.deployed
    obtain ⟨-, hreg⟩ := init_ok.1 hi
    rw [← hreg]
    intro i hi
    cases Nat.not_lt_zero _ (Fin.lt_def.1 hi)
  have hinv : WellFormed cfg w.reg ∧ Dense w.reg :=
    h.inv (P := fun w => WellFormed cfg w.reg ∧ Dense w.reg) ⟨h₀.wellFormed, hcount⟩
      fun _ _ _ hs hstep => ⟨hstep.wellFormed hs.1, hstep.dense hs.1 hs.2⟩
  exact hinv.2

theorem life_of_stored (h₀ : Initial t me cfg w₀) (h : Run (Step t me) w₀ ls w)
    (hget : w.reg.attestations.get id = some att) : Life cfg id (ls.filter (Label.about id)) (some att) := by
  have hrun := life_of_run (local_run h₀ h id)
  rwa [hget] at hrun

theorem about_of_challenges (h : a.challenges id) : a.about id := by
  rcases a with ⟨_, _ | _ | _ | _, _, _⟩ | _ <;> simp_all [Label.challenges, Label.about]

theorem countP_challenges (id : U64) (ls : List Label) :
    (ls.filter (Label.about id)).countP (Label.challenges id) = ls.countP (Label.challenges id) := by
  rw [List.countP_filter]
  refine List.countP_congr fun a _ => ?_
  cases ha : a.challenges id
  · simp
  · simp [about_of_challenges ha]

/-- What one step does to the entry of `id`. -/
theorem Step.entry (hs : WellFormed cfg w.reg) (h : Step t me w a w') (id : U64) :
    w'.reg.attestations.get id = w.reg.attestations.get id ∨
      ∃ att', w'.reg.attestations.get id = some att' ∧ Local cfg id (w.reg.attestations.get id) a (some att') := by
  cases h with
  | @call env c i reg _ _ _ hr =>
    obtain ⟨att', hl, hset⟩ := (call_effect hs.fresh_state rfl hr).record
    by_cases hid : id = i
    · subst hid
      exact .inr ⟨att', by rw [hset, Mapping.get_set_self], hl⟩
    · exact .inl (by rw [hset, Mapping.get_set_ne _ _ hid]; rfl)
  | direct => exact .inl rfl

theorem Step.record (hs : WellFormed cfg w.reg) (h : Step t me w a w')
    (hget : w.reg.attestations.get id = some att) (hget' : w'.reg.attestations.get id = some att') :
    att' = att ∨ Local cfg id (some att) a (some att') := by
  rcases h.entry hs id with hsame | ⟨att₁, hget₁, hl⟩
  · exact .inl (Option.some.inj (hget'.symm.trans (hsame.trans hget)))
  · cases hget₁.symm.trans hget'
    rw [hget] at hl
    exact .inr hl

/-- The table of a registry. -/
structure TableIntact (s : State τ) : Prop where
  /-- exactly the ids below the count are stored -/
  stored : ∀ i, (∃ att, getAttestation s i = .ok att) ↔ i < attestationCount s
  /-- under their own ids -/
  own_id : ∀ i att, getAttestation s i = .ok att → att.id = i
  /-- an active record has no challenger -/
  active : ∀ i att, getAttestation s i = .ok att → att.status = .active → att.challenger = none
  /-- a challenged or slashed one has, and `resolve` finds it -/
  disputed : ∀ i att, getAttestation s i = .ok att → att.status = .challenged ∨ att.status = .slashed →
    ∃ challenger, orFail att.challenger (Error.notActive : Revert) = .ok challenger

/-- **Record integrity.**  After every run the table holds exactly the submitted
    records, each under its id; every later state of a record is an advance of
    it; its status moves along the lifecycle only, and its dispute is set by a
    challenge, once. -/
theorem record_integrity (h₀ : Initial t me cfg w₀) (h : Run (Step t me) w₀ ls w) :
    TableIntact w.reg ∧
    (∀ ls' w' i att, Run (Step t me) w ls' w' → getAttestation w.reg i = .ok att →
      ∃ att', getAttestation w'.reg i = .ok att' ∧ Advances att att' ∧
        (isSettled att.status → att'.status = att.status)) ∧
    (∀ a w' i att att', Step t me w a w' → getAttestation w.reg i = .ok att → getAttestation w'.reg i = .ok att' →
      (att'.status ≠ att.status → Edge (some att.status) att'.status) ∧
      (dispute att' ≠ dispute att → ∃ env, a = .challenged cfg env i ∧ att.challenger = none ∧
        dispute att' = (some env.caller, cfg.challengeBond, env.blockTime))) ∧
    ∀ i att, getAttestation w.reg i = .ok att →
      ls.countP (Label.challenges i) = if att.challenger.isSome then 1 else 0 := by
  have hrec : ∀ i att, getAttestation w.reg i = .ok att → Recorded i att := by
    intro i att hget
    exact (life_of_stored h₀ h (getAttestation_ok.1 hget)).recorded
  have hwf := run_wellFormed h₀ h
  refine ⟨⟨fun i => ?_, fun i att hget => (hrec i att hget).id, fun i att hget => (hrec i att hget).active,
    fun i att hget hst => ?_⟩, ?_, ?_, ?_⟩
  · constructor
    · rintro ⟨att, hget⟩
      exact stored_lt hwf (getAttestation_ok.1 hget)
    · intro hi
      obtain ⟨att, hget⟩ := run_dense h₀ h i hi
      exact ⟨att, getAttestation_ok.2 hget⟩
  · obtain ⟨challenger, hch⟩ := Option.isSome_iff_exists.1 ((hrec i att hget).disputed hst)
    exact ⟨challenger, orFail_eq_ok.2 hch⟩
  · intro ls' w' i att hrun hget
    have hlocal := local_run_from hwf hrun i
    rw [getAttestation_ok.1 hget] at hlocal
    obtain ⟨att', hget', -, hadv⟩ := advances_of_run (hrec i att hget) hlocal
    exact ⟨att', getAttestation_ok.2 hget', hadv, fun hst => settled_absorbing hst hadv.status⟩
  · intro a w' i att att' hs hget hget'
    rcases hs.record hwf (getAttestation_ok.1 hget) (getAttestation_ok.1 hget') with rfl | hl
    · exact ⟨fun hne => absurd rfl hne, fun hne => absurd rfl hne⟩
    · obtain ⟨-, hedge, hdisp⟩ := hl.edge
      refine ⟨fun _ => hedge, fun hne => ?_⟩
      rcases hdisp with ⟨heq, -⟩ | ⟨env, rfl, hact, heq⟩
      · exact absurd heq hne
      · exact ⟨env, rfl, (hrec i att hget).active hact, heq⟩
  · intro i att hget
    rw [← countP_challenges]
    exact (life_of_stored h₀ h (getAttestation_ok.1 hget)).challenges_eq

end

theorem record_integrity_demo : ∃ ls w, Run (Step Cep18.basic demoRegistry) demoWorld ls w ∧ ls ≠ [] ∧
    TableIntact w.reg := by
  obtain ⟨w, h⟩ := demo_run
  exact ⟨_, w, h, by simp, (record_integrity demo_initial h).1⟩

end CasperProof.Registry
