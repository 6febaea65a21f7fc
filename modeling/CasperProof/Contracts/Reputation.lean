/-
  Reputation — the counters of an attestor as counts over the table.

  * `Counter`: one of the four counters; `Counter.counts` says which records it
    counts.
  * `call_books`: one call changes a counter of an account by what the record
    it rewrites contributes to it.
  * `reputation_ledger`: after every run each counter is the number of the
    account's records that it counts.
-/
import CasperProof.Contracts.Records

namespace CasperProof.Registry

variable {τ : Type} {t : Cep18 τ} {me : Address} {cfg : RegistryConfig} {id : U64} {env : CallEnv}
  {ls : List Label} {att : Attestation} {s s' : State (Tracked τ)} {w w' w₀ : World τ} {r rep : Reputation}

inductive Counter where
  | total
  | successful
  | slashed
  | challengesDefended
deriving DecidableEq

namespace Counter

/-- The counter's value. -/
def value : Counter → Reputation → U64
  | total, r => r.total
  | successful, r => r.successful
  | slashed, r => r.slashed
  | challengesDefended, r => r.challengesDefended

/-- The records it counts. -/
def counts : Counter → Attestation → Bool
  | total, _ => true
  | successful, att => att.status = .finalized
  | slashed, att => att.status = .slashed
  | challengesDefended, att => att.status = .finalized ∧ att.challenger.isSome

end Counter

/-- The record is one of `a` that the counter counts. -/
def Counts (k : Counter) (a : Address) (att : Attestation) : Bool := att.attestor = a ∧ k.counts att

/-- What a record contributes to a counter of `a`. -/
def contribution (k : Counter) (a : Address) (o : Option Attestation) : ℕ := if o.any (Counts k a) then 1 else 0

/-- Each counter counts. -/
def Ledger (s : State (Tracked τ)) : Prop :=
  ∀ k a, (k.value (attestorReputation s a)).val = s.attestations.count (Counts k a)

/-! ## The bumps -/

@[simp] theorem bump_ok {x y : U64} : bump x = .ok y ↔ y.val = x.val + 1 := by
  rw [bump, checkedAdd_eq_ok]
  rfl

theorem submitReputation_ok (h : submitReputation r = .ok rep) (k : Counter) :
    (k.value rep).val = (k.value r).val + if k = .total then 1 else 0 := by
  simp only [submitReputation, bind_eq_ok, pure_eq_ok, bump_ok] at h
  obtain ⟨total, htotal, rfl⟩ := h
  cases k <;> simp [Counter.value, htotal]

theorem resolveReputation_ok {fraudulent : Bool} (h : resolveReputation fraudulent r = .ok rep) (k : Counter) :
    (k.value rep).val = (k.value r).val +
      if (if fraudulent then k = .slashed else k = .successful ∨ k = .challengesDefended) then 1 else 0 := by
  cases fraudulent with
  | true =>
    simp only [resolveReputation, if_true, bind_eq_ok, pure_eq_ok, bump_ok] at h
    obtain ⟨slashed, hslashed, rfl⟩ := h
    cases k <;> simp [Counter.value, hslashed]
  | false =>
    simp only [resolveReputation, Bool.false_eq_true, if_false, bind_eq_ok, pure_eq_ok, bump_ok] at h
    obtain ⟨successful, hsuccessful, defended, hdefended, rfl⟩ := h
    cases k <;> simp [Counter.value, hsuccessful, hdefended]

theorem finalizeReputation_ok (h : finalizeReputation r = .ok rep) (k : Counter) :
    (k.value rep).val = (k.value r).val + if k = .successful then 1 else 0 := by
  simp only [finalizeReputation, bind_eq_ok, pure_eq_ok, bump_ok] at h
  obtain ⟨successful, hsuccessful, rfl⟩ := h
  cases k <;> simp [Counter.value, hsuccessful]

/-! ## One call -/

/-- The books of a call that rewrites the record of `id`: every counter of every
    account changes by what the record contributes. -/
def Books (id : U64) (s s' : State (Tracked τ)) : Prop :=
  ∃ att', s'.attestations = s.attestations.set id att' ∧ ∀ k a,
    (k.value (attestorReputation s' a)).val + contribution k a (s.attestations.get id) =
      (k.value (attestorReputation s a)).val + contribution k a (some att')

theorem contribution_own (k : Counter) :
    contribution k att.attestor (some att) = if k.counts att then 1 else 0 := by
  simp [contribution, Counts]

theorem contribution_other {a : Address} (h : att.attestor ≠ a) (k : Counter) :
    contribution k a (some att) = 0 := by
  simp [contribution, Counts, h]

/-- A call that bumps the counters of the record's attestor. -/
theorem books_of_bump (att' : Attestation) (hatts : s'.attestations = s.attestations.set id att')
    (hreps : s'.reputations = s.reputations.set att'.attestor rep)
    (hold : ∀ att, s.attestations.get id = some att → att.attestor = att'.attestor)
    (hbump : ∀ k : Counter, (k.value rep).val + contribution k att'.attestor (s.attestations.get id) =
      (k.value (s.reputations.getD att'.attestor {})).val + if k.counts att' then 1 else 0) :
    Books id s s' := by
  refine ⟨att', hatts, fun k a => ?_⟩
  rw [attestorReputation, attestorReputation, hreps, Mapping.getD_set]
  by_cases ha : a = att'.attestor
  · subst ha
    rw [if_pos rfl, contribution_own]
    exact hbump k
  · rw [if_neg ha, contribution_other (Ne.symm ha)]
    congr 1
    cases hget : s.attestations.get id with
    | none => rfl
    | some att =>
      refine contribution_other ?_ k
      rw [hold att hget]
      exact Ne.symm ha

theorem submit_books {args : SubmitArgs} (hs : WellFormed cfg s)
    (h : submitAttestation (stakeRef t me) env args s = .ok (id, s')) : Books id s s' := by
  obtain ⟨cfg', a, s₁, count, rep, -, -, -, ht, rfl, -, hrep, rfl⟩ := submitAttestation_ok.1 h
  obtain ⟨token, -, rfl⟩ := stakeRef_transferFrom.1 ht
  have hfresh : s.attestations.get (s.setToken token).count = none := hs.fresh _ le_rfl
  refine books_of_bump (newAttestation env args (s.setToken token).count) rfl rfl ?_ fun k => ?_
  · intro att hget
    rw [hfresh] at hget
    cases hget
  · have hval := submitReputation_ok hrep k
    rw [hfresh]
    cases k <;> simpa [contribution, Counter.counts, newAttestation] using hval

theorem challenge_books (h : challenge (stakeRef t me) env id s = .ok s') : Books id s s' := by
  obtain ⟨att, cfg', a, s₁, hatt, hst, -, -, -, ht, rfl⟩ := challenge_ok.1 h
  obtain ⟨token, -, rfl⟩ := stakeRef_transferFrom.1 ht
  refine ⟨_, rfl, fun k a => ?_⟩
  have hsame : contribution k a (some (challengedAttestation cfg' env att)) = contribution k a (some att) := by
    cases k <;> simp [contribution, Counts, Counter.counts, challengedAttestation, hst]
  rw [hatt, hsame]
  rfl

theorem resolve_books {fraudulent : Bool} (hs : WellFormed cfg s)
    (h : resolve (stakeRef t me) env id fraudulent s = .ok s') : Books id s s' := by
  obtain ⟨cfg', att, ch, a, s₁, rep, bps, rew, cut, hc, -, hatt, hst, hch, -, hrew, hcut, -, hrep, hp, rfl⟩ :=
    resolve_ok.1 h
  cases hs.config.symm.trans hc
  obtain ⟨token, rfl, -, -⟩ := payouts_moves hrew hcut hp
  refine books_of_bump (withStatus att (verdict fraudulent)) rfl rfl ?_ fun k => ?_
  · intro att' hget
    cases hatt.symm.trans hget
    rfl
  · have hval := resolveReputation_ok hrep k
    rw [hatt, show (withStatus att (verdict fraudulent)).attestor = att.attestor from rfl, contribution_own]
    cases fraudulent <;> cases k <;> simpa [Counter.counts, withStatus, verdict, hst, hch] using hval

/-- An active record has no challenger, so that `finalize` counts no defended
    challenge. -/
theorem finalize_books (hr : ∀ att, s.attestations.get id = some att → Recorded id att)
    (h : finalize (stakeRef t me) env id s = .ok s') : Books id s s' := by
  obtain ⟨att, cfg', a, rep, s₁, hatt, hst, -, -, -, hrep, ht, rfl⟩ := finalize_ok.1 h
  obtain ⟨token, -, rfl⟩ := stakeRef_transfer.1 ht
  refine books_of_bump (withStatus att .finalized) rfl rfl ?_ fun k => ?_
  · intro att' hget
    cases hatt.symm.trans hget
    rfl
  · have hval := finalizeReputation_ok hrep k
    have hnone := (hr att hatt).active hst
    rw [hatt, show (withStatus att .finalized).attestor = att.attestor from rfl, contribution_own]
    cases k <;> simpa [Counter.counts, withStatus, hst, hnone] using hval

/-- **What one call does to the counters.** -/
theorem call_books {c : Call} (hs : WellFormed cfg s) (hr : ∀ i att, s.attestations.get i = some att → Recorded i att)
    (h : c.run (stakeRef t me) env s = .ok (id, s')) : Books id s s' := by
  cases c with
  | submitAttestation args => exact submit_books hs h
  | challenge i =>
    simp only [Call.run, bind_eq_ok, pure_eq_ok, Prod.mk.injEq] at h
    obtain ⟨_, h, rfl, rfl⟩ := h
    exact challenge_books h
  | resolve i fraudulent =>
    simp only [Call.run, bind_eq_ok, pure_eq_ok, Prod.mk.injEq] at h
    obtain ⟨_, h, rfl, rfl⟩ := h
    exact resolve_books hs h
  | finalize i =>
    simp only [Call.run, bind_eq_ok, pure_eq_ok, Prod.mk.injEq] at h
    obtain ⟨_, h, rfl, rfl⟩ := h
    exact finalize_books (hr i) h

theorem Books.ledger (h : Books id s s') (hl : Ledger s) : Ledger s' := by
  obtain ⟨att', hset, hbooks⟩ := h
  intro k a
  have hcount := Mapping.count_set s.attestations id att' (Counts k a)
  have hbook := hbooks k a
  have hold := hl k a
  rw [hset]
  simp only [contribution, Option.any_some] at hbook
  omega

/-! ## Runs -/

theorem run_ledger (h₀ : Initial t me cfg w₀) (h : Run (Step t me) w₀ ls w) : Ledger w.reg := by
  induction h with
  | nil =>
    have hreps : w₀.reg.reputations = .empty := by
      obtain ⟨stakeToken, chain, hi⟩ := h₀.deployed
      obtain ⟨-, hreg⟩ := init_ok.1 hi
      rw [← hreg]
      rfl
    intro k a
    rw [attestorReputation, hreps, h₀.empty, Mapping.count_empty]
    cases k <;> rfl
  | @snoc ls a w₁ w₂ hrun hs ih =>
    cases hs with
    | direct => exact ih
    | call _ _ _ hr =>
      have hrec : ∀ i att, w₁.reg.fresh.attestations.get i = some att → Recorded i att := by
        intro i att hget
        exact (life_of_stored h₀ hrun hget).recorded
      exact (call_books (run_wellFormed h₀ hrun).fresh_state hrec hr).ledger ih

/-- The open attestations of `a`. -/
def OpenOf (a : Address) (att : Attestation) : Bool := att.attestor = a ∧ ¬ isSettled att.status

/-- **Reputation is a ledger.**  After every run the counters of an account are
    the numbers of its records: all of them, the finalized, the slashed, and the
    finalized with a challenger. -/
theorem reputation_ledger (h₀ : Initial t me cfg w₀) (h : Run (Step t me) w₀ ls w) (a : Address) :
    (attestorReputation w.reg a).total.val = w.reg.attestations.count (fun att => att.attestor = a) ∧
    (attestorReputation w.reg a).slashed.val =
      w.reg.attestations.count (fun att => att.attestor = a ∧ att.status = .slashed) ∧
    (attestorReputation w.reg a).successful.val =
      w.reg.attestations.count (fun att => att.attestor = a ∧ att.status = .finalized) ∧
    (attestorReputation w.reg a).challengesDefended.val =
      w.reg.attestations.count (fun att => att.attestor = a ∧ att.status = .finalized ∧ att.challenger.isSome) ∧
    (attestorReputation w.reg a).total.val = (attestorReputation w.reg a).successful.val +
      (attestorReputation w.reg a).slashed.val + w.reg.attestations.count (OpenOf a) ∧
    (attestorReputation w.reg a).challengesDefended ≤ (attestorReputation w.reg a).successful := by
  have hl := run_ledger h₀ h
  have htotal := hl .total a
  have hslashed := hl .slashed a
  have hsuccessful := hl .successful a
  have hdefended := hl .challengesDefended a
  simp only [Counter.value] at htotal hslashed hsuccessful hdefended
  have hopen : w.reg.attestations.count (Counts .total a) = w.reg.attestations.count (Counts .successful a) +
      w.reg.attestations.count (Counts .slashed a) + w.reg.attestations.count (OpenOf a) := by
    have hsplit : w.reg.attestations.count (fun att => Counts .successful a att || Counts .slashed a att) =
        w.reg.attestations.count (Counts .successful a) + w.reg.attestations.count (Counts .slashed a) := by
      refine Mapping.count_add _ (fun _ => rfl) fun att hatt => ?_
      simp only [Counts, Counter.counts, decide_eq_true_eq] at hatt
      simp [Counts, Counter.counts, hatt.2]
    rw [← hsplit]
    refine Mapping.count_add _ (fun att => ?_) fun att hatt => ?_
    · cases hst : att.status <;> simp [Counts, Counter.counts, OpenOf, isSettled, hst]
    · cases hst : att.status <;> simp_all [Counts, Counter.counts, OpenOf, isSettled]
  have hle : w.reg.attestations.count (Counts .challengesDefended a) ≤
      w.reg.attestations.count (Counts .successful a) := by
    refine Mapping.count_le _ fun att hatt => ?_
    simp only [Counts, Counter.counts, decide_eq_true_eq] at hatt ⊢
    exact ⟨hatt.1, hatt.2.1⟩
  refine ⟨?_, ?_, ?_, ?_, by omega, by rw [Fin.le_def]; omega⟩
  · rw [htotal]
    exact Mapping.count_congr _ fun att => by simp [Counts, Counter.counts]
  · rw [hslashed]
    exact Mapping.count_congr _ fun att => by simp [Counts, Counter.counts]
  · rw [hsuccessful]
    exact Mapping.count_congr _ fun att => by simp [Counts, Counter.counts]
  · rw [hdefended]
    exact Mapping.count_congr _ fun att => by simp [Counts, Counter.counts]

theorem reputation_ledger_demo : ∃ ls w, Run (Step Cep18.basic demoRegistry) demoWorld ls w ∧ ls ≠ [] ∧
    (attestorReputation w.reg demoAlice).slashed.val =
      w.reg.attestations.count (fun att => att.attestor = demoAlice ∧ att.status = .slashed) := by
  obtain ⟨w, h⟩ := demo_run
  exact ⟨_, w, h, by simp, (reputation_ledger demo_initial h demoAlice).2.1⟩

end CasperProof.Registry
