/-
  Custody — what the registry holds and what it owes.

  `Local.conserves` is the accounting of one attestation: its deposit changes
  by what is pulled in minus what is paid out.  Summed over the table and
  compared with the token's books it gives `balance_eq_deposits`: the registry's balance is
  the sum of the unsettled deposits plus the direct transfers.
-/
import CasperProof.Contracts.RegistryRun

namespace CasperProof.Registry

variable {τ : Type} {t : Cep18 τ} {me : Address} {cfg : RegistryConfig} {env : CallEnv} {c : Call}
  {id : U64} {moves : List Move} {o : Option Attestation} {att : Attestation}

/-- What the registry holds for an attestation. -/
def deposit (att : Attestation) : ℕ :=
  match att.status with
  | .active => att.stake.val
  | .challenged => att.stake.val + att.challengeBond.val
  | .slashed | .finalized => 0

theorem settlement_paid (challenger : Address) (fraudulent : Bool) (h : reward cfg att ≤ att.stake.val) :
    Move.totalPaid (settlement cfg att challenger fraudulent) = att.stake.val + att.challengeBond.val := by
  cases fraudulent with
  | true =>
    simp only [settlement, if_true]
    split <;> (simp; omega)
  | false =>
    simp only [settlement, Bool.false_eq_true, if_false]
    split <;> (simp <;> omega)

theorem settlement_pulled (cfg : RegistryConfig) (att : Attestation) (challenger : Address)
    (fraudulent : Bool) :
    Move.totalPulled (settlement cfg att challenger fraudulent) = 0 := by
  unfold settlement
  split <;> split <;> simp

/-- The deposit of an attestation changes by what is pulled in minus what is
    paid out. -/
theorem Local.conserves (h : Local cfg id o (.call env c id moves) (some att)) :
    deposit att + Move.totalPaid moves = o.elim 0 deposit + Move.totalPulled moves := by
  cases h with
  | submit => simp [deposit, newAttestation]
  | challenge hst => simp [deposit, challengedAttestation, hst]
  | @resolve _ att _ fraudulent _ hst _ hle =>
    rw [settlement_paid _ _ hle, settlement_pulled]
    cases fraudulent <;> simp [deposit, withStatus, verdict, hst]
  | finalize hst => simp [deposit, withStatus, hst]

/-- A call pays at most the deposit of its attestation. -/
theorem Local.paid_le (h : Local cfg id o (.call env c id moves) (some att)) :
    Move.totalPaid moves ≤ o.elim 0 deposit := by
  cases h with
  | submit => simp
  | challenge => simp
  | @resolve _ att _ _ _ hst _ hle => rw [settlement_paid _ _ hle]; simp [deposit, hst]
  | finalize hst => simp [deposit, hst]

/-! ## The parties of an attestation -/

/-- The parties of a record satisfy `P`. -/
def Among (P : Address → Prop) (att : Attestation) : Prop := P att.attestor ∧ ∀ a ∈ att.challenger, P a

section
variable {P : Address → Prop}

theorem Local.among (hc : P env.caller) (ho : ∀ att, o = some att → Among P att)
    (h : Local cfg id o (.call env c id moves) (some att)) : Among P att := by
  cases h with
  | submit => exact ⟨hc, by simp [newAttestation]⟩
  | challenge => exact ⟨(ho _ rfl).1, by simpa [challengedAttestation] using hc⟩
  | @resolve _ att => exact ho att rfl
  | @finalize _ att => exact ho att rfl

/-- A call only moves tokens of its caller, of the parties of the record, and of
    the treasury. -/
theorem Local.party (hc : P env.caller) (htr : P cfg.treasury) (ho : ∀ att, o = some att → Among P att)
    (h : Local cfg id o (.call env c id moves) (some att)) : ∀ m ∈ moves, P m.party := by
  cases h with
  | submit => simpa [Move.party] using hc
  | challenge => simpa [Move.party] using hc
  | @resolve _ att ch fraudulent _ _ hch _ =>
    obtain ⟨ha, hch'⟩ := ho _ rfl
    have hparty : P ch := hch' ch hch
    intro m hm
    simp only [settlement] at hm
    split at hm <;> split at hm <;> simp at hm
    · rcases hm with rfl | rfl
      exacts [hparty, htr]
    · subst hm; exact hparty
    · rcases hm with rfl | rfl
      exacts [ha, htr]
    · subst hm; exact ha
  | finalize => simpa [Move.party] using (ho _ rfl).1

end

/-- The registry itself is no party of a record. -/
def Outside (me : Address) (att : Attestation) : Prop := att.attestor ≠ me ∧ att.challenger ≠ some me

theorem outside_iff : Outside me att ↔ Among (· ≠ me) att := by
  unfold Outside Among
  constructor
  · rintro ⟨ha, hc⟩
    exact ⟨ha, fun a hmem heq => hc (heq ▸ hmem)⟩
  · rintro ⟨ha, hc⟩
    exact ⟨ha, fun heq => hc me heq rfl⟩

/-! ## The custody invariant -/

/-- The registry's balance covers the deposits and the direct transfers. -/
structure Custody (t : Cep18 τ) (me : Address) (cfg : RegistryConfig) (w : World τ) : Prop where
  wellFormed : WellFormed cfg w.reg
  outside : ∀ i att, w.reg.attestations.get i = some att → Outside me att
  balance : (t.balanceOf w.reg.token.chain me).val = w.reg.attestations.sum deposit + w.direct

theorem Initial.custody {w : World τ} (h : Initial t me cfg w) : Custody t me cfg w where
  wellFormed := h.wellFormed
  outside i att hi := by rw [h.empty] at hi; cases hi
  balance := by rw [h.empty, h.direct]; simp

/-- A step stores no party but its caller. -/
theorem Step.among {P : Address → Prop} {w w' : World τ} {a : Label} (hs : WellFormed cfg w.reg)
    (hc : ∀ env c id moves, a = .call env c id moves → P env.caller)
    (ho : ∀ i att, w.reg.attestations.get i = some att → Among P att) (h : Step t me w a w') :
    ∀ i att, w'.reg.attestations.get i = some att → Among P att := by
  cases h with
  | @call env c id reg _ _ _ hr =>
    intro i att' hi
    obtain ⟨att, hl, hset⟩ := (call_effect hs.fresh_state rfl hr).record
    rw [hset, Mapping.get_set] at hi
    split at hi
    · cases hi
      exact hl.among (hc _ _ _ _ rfl) (ho id)
    · exact ho i att' hi
  | direct => exact ho

/-- A step stores no party that is the registry. -/
theorem Step.outside {w w' : World τ} {a : Label} (hs : WellFormed cfg w.reg)
    (ho : ∀ i att, w.reg.attestations.get i = some att → Outside me att) (h : Step t me w a w') :
    ∀ i att, w'.reg.attestations.get i = some att → Outside me att := by
  have hc : ∀ env c id moves, a = .call env c id moves → env.caller ≠ me := by
    rintro env c id moves rfl
    cases h with
    | call _ hcaller => exact hcaller
  intro i att hi
  exact outside_iff.2 (h.among hs hc (fun i att hi => outside_iff.1 (ho i att hi)) i att hi)

theorem Step.custody {w w' : World τ} {a : Label} (ht : t.Standard) (htr : cfg.treasury ≠ me)
    (hw : Custody t me cfg w) (h : Step t me w a w') : Custody t me cfg w' := by
  refine ⟨h.wellFormed hw.wellFormed, h.outside hw.wellFormed hw.outside, ?_⟩
  have hold := hw.balance
  cases h with
  | @call env c id reg _ hc _ hr =>
    have he := call_effect hw.wellFormed.fresh_state rfl hr
    obtain ⟨att, hl, hset⟩ := he.record
    have hparty := hl.party (P := (· ≠ me)) hc htr fun att hget => outside_iff.1 (hw.outside id att hget)
    have hbal := (he.executed ht _ .nil).balance hparty
    have hsum := Mapping.sum_set w.reg.attestations id att deposit
    have hdep := hl.conserves
    simp only [State.fresh, State.setToken_token, State.setToken_attestations] at hbal hdep hset
    show (t.balanceOf reg.token.chain me).val = reg.attestations.sum deposit + w.direct
    rw [hset]
    omega
  | direct hbal =>
    simp only [State.setToken_token, State.setToken_attestations]
    omega

theorem run_custody {w₀ w : World τ} {ls : List Label} (ht : t.Standard) (h₀ : Initial t me cfg w₀)
    (htr : cfg.treasury ≠ me) (h : Run (Step t me) w₀ ls w) : Custody t me cfg w :=
  h.inv h₀.custody fun _ _ _ hw hs => hs.custody ht htr hw

theorem deposit_eq (att : Attestation) :
    deposit att = (if att.status = .active then att.stake.val else 0) +
      (if att.status = .challenged then att.stake.val + att.challengeBond.val else 0) := by
  unfold deposit
  cases att.status <;> simp

/-- **Custody.**  After every run the registry's STAKE balance is the sum of the
    stakes of the active attestations, plus the stakes and bonds of the
    challenged ones, plus what was sent to it directly; and every call pays at
    most the deposit of the attestation it is about. -/
theorem balance_eq_deposits {w₀ w : World τ} {ls : List Label} (ht : t.Standard) (h₀ : Initial t me cfg w₀)
    (htr : cfg.treasury ≠ me) (h : Run (Step t me) w₀ ls w) :
    (t.balanceOf w.reg.token.chain me).val =
      w.reg.attestations.sum (fun att => if att.status = .active then att.stake.val else 0) +
      w.reg.attestations.sum
        (fun att => if att.status = .challenged then att.stake.val + att.challengeBond.val else 0) +
      w.direct ∧
    ∀ env c id moves w', Step t me w (.call env c id moves) w' →
      Move.totalPaid moves ≤ (w.reg.attestations.get id).elim 0 deposit := by
  have hw := run_custody ht h₀ htr h
  refine ⟨?_, fun env c id moves w' hs => ?_⟩
  · rw [hw.balance, ← Mapping.sum_add]
    simp only [← deposit_eq]
  · cases hs with
    | call _ _ _ hr =>
      obtain ⟨att, hl, -⟩ := (call_effect hw.wellFormed.fresh_state rfl hr).record
      exact hl.paid_le

theorem balance_eq_deposits_demo : ∃ ls w, Run (Step Cep18.basic demoRegistry) demoWorld ls w ∧ ls ≠ [] ∧
    (Cep18.basic.balanceOf w.reg.token.chain demoRegistry).val =
      w.reg.attestations.sum (fun att => if att.status = .active then att.stake.val else 0) +
      w.reg.attestations.sum
        (fun att => if att.status = .challenged then att.stake.val + att.challengeBond.val else 0) +
      w.direct := by
  obtain ⟨w, h⟩ := demo_run
  exact ⟨_, w, h, by simp, (balance_eq_deposits Cep18.basic_standard demo_initial (by decide) h).1⟩

end CasperProof.Registry
