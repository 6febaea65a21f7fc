/-
  Settlement — the life of an attestation, label by label.

  * `Life`: the five shapes that the calls about one attestation can have, each
    with the record they leave; `life_of_run` says that there are no others.
  * `settlement_law`: what `finalize` and `resolve` pay, that they pay once, and
    that no call about a settled attestation succeeds again.
-/
import CasperProof.Contracts.Custody

namespace CasperProof.Registry

variable {τ : Type} {t : Cep18 τ} {me : Address} {cfg : RegistryConfig} {id : U64}
  {ls : List Label} {o : Option Attestation}

namespace Label

/-- A successful `submit_attestation`. -/
def submitted (env : CallEnv) (args : SubmitArgs) (id : U64) : Label :=
  .call env (.submitAttestation args) id [.pull env.caller args.stake.val]

/-- A successful `challenge`. -/
def challenged (cfg : RegistryConfig) (env : CallEnv) (id : U64) : Label :=
  .call env (.challenge id) id [.pull env.caller cfg.challengeBond.val]

/-- A call that settles `id`. -/
def settles (id : U64) : Label → Bool
  | .call _ (.resolve _ _) i _ | .call _ (.finalize _) i _ => i = id
  | _ => false

def moves : Label → List Move
  | .call _ _ _ ms => ms
  | .direct _ => []

theorem about_of_settles {a : Label} (h : a.settles id) : a.about id := by
  rcases a with ⟨_, _ | _ | _ | _, _, _⟩ | _ <;> simp_all [settles, about]

end Label

/-- The record of a challenged attestation. -/
def disputed (cfg : RegistryConfig) (env₁ : CallEnv) (args : SubmitArgs) (env₂ : CallEnv) (id : U64) :
    Attestation := challengedAttestation cfg env₂ (newAttestation env₁ args id)

theorem disputed_stake (env₁ : CallEnv) (args : SubmitArgs) (env₂ : CallEnv) :
    (disputed cfg env₁ args env₂ id).stake = args.stake := rfl

theorem disputed_bond (env₁ : CallEnv) (args : SubmitArgs) (env₂ : CallEnv) :
    (disputed cfg env₁ args env₂ id).challengeBond = cfg.challengeBond := rfl

/-- The calls about attestation `id` so far, and its record. -/
inductive Life (cfg : RegistryConfig) (id : U64) : List Label → Option Attestation → Prop
  | unborn : Life cfg id [] none
  | active {env₁ : CallEnv} {args : SubmitArgs} : cfg.minStake ≤ args.stake →
      Life cfg id [.submitted env₁ args id] (some (newAttestation env₁ args id))
  | challenged {env₁ : CallEnv} {args : SubmitArgs} {env₂ : CallEnv} :
      ¬ windowClosed cfg env₂.blockTime (newAttestation env₁ args id) →
      Life cfg id [.submitted env₁ args id, .challenged cfg env₂ id] (some (disputed cfg env₁ args env₂ id))
  | resolved {env₁ : CallEnv} {args : SubmitArgs} {env₂ env₃ : CallEnv} {fraudulent : Bool} :
      ¬ windowClosed cfg env₂.blockTime (newAttestation env₁ args id) → env₃.caller = cfg.resolver →
      reward cfg (disputed cfg env₁ args env₂ id) ≤ args.stake.val →
      Life cfg id [.submitted env₁ args id, .challenged cfg env₂ id,
          .call env₃ (.resolve id fraudulent) id
            (settlement cfg (disputed cfg env₁ args env₂ id) env₂.caller fraudulent)]
        (some (withStatus (disputed cfg env₁ args env₂ id) (verdict fraudulent)))
  | finalized {env₁ : CallEnv} {args : SubmitArgs} {env₂ : CallEnv} :
      windowClosed cfg env₂.blockTime (newAttestation env₁ args id) →
      Life cfg id [.submitted env₁ args id, .call env₂ (.finalize id) id [.pay env₁.caller args.stake.val]]
        (some (withStatus (newAttestation env₁ args id) .finalized))

theorem life_of_run (h : Run (Local cfg id) none ls o) : Life cfg id ls o := by
  induction h with
  | nil => exact .unborn
  | snoc _ hs ih =>
    cases ih with
    | unborn => cases hs with | submit hmin => exact .active hmin
    | active hmin =>
      cases hs with
      | challenge _ hw => exact .challenged hw
      | resolve _ hst => cases hst
      | finalize _ hw => exact .finalized hw
    | challenged hw =>
      cases hs with
      | challenge hst => cases hst
      | resolve hcl _ hch hle => cases hch; exact .resolved hw hcl hle
      | finalize hst => cases hst
    | @resolved _ _ _ _ fraudulent =>
      cases hs with
      | challenge hst => cases fraudulent <;> cases hst
      | resolve _ hst => cases fraudulent <;> cases hst
      | finalize hst => cases fraudulent <;> cases hst
    | finalized =>
      cases hs with
      | challenge hst => cases hst
      | resolve _ hst => cases hst
      | finalize hst => cases hst

theorem Life.not_settles (h : Life cfg id ls o) : ∀ a ∈ ls.dropLast, ¬ a.settles id := by
  cases h <;> simp [Label.submitted, Label.challenged, Label.settles]

/-- Nothing follows a settling call. -/
theorem Life.settles_last {l₁ l₂ : List Label} {a : Label} (h : Life cfg id (l₁ ++ a :: l₂) o)
    (ha : a.settles id) : l₂ = [] := by
  by_contra hne
  obtain ⟨b, l₂, rfl⟩ := List.exists_cons_of_ne_nil hne
  refine h.not_settles a ?_ ha
  rw [List.dropLast_append_of_ne_nil (by simp), List.dropLast_cons_of_ne_nil (by simp)]
  simp

theorem Life.settles_once (h : Life cfg id ls o) : (ls.filter (Label.settles id)).length ≤ 1 := by
  cases h <;> simp [Label.submitted, Label.challenged, Label.settles]

/-- What the calls about `id` paid out and pulled in. -/
def paidFor (id : U64) (ls : List Label) : ℕ :=
  ((ls.filter (Label.about id)).map fun a => Move.totalPaid a.moves).sum

def pulledFor (id : U64) (ls : List Label) : ℕ :=
  ((ls.filter (Label.about id)).map fun a => Move.totalPulled a.moves).sum

/-- A settled attestation has paid out what was pulled in for it, an unsettled
    one nothing. -/
theorem Life.paid (h : Life cfg id ls o) :
    (ls.map fun a => Move.totalPaid a.moves).sum =
      if ls.any (Label.settles id) then (ls.map fun a => Move.totalPulled a.moves).sum else 0 := by
  cases h with
  | unborn => rfl
  | active => simp [Label.submitted, Label.settles, Label.moves]
  | challenged => simp [Label.submitted, Label.challenged, Label.settles, Label.moves]
  | @resolved env₁ args env₂ _ fraudulent _ _ hle =>
    have hp := settlement_paid env₂.caller fraudulent hle
    have hq := settlement_pulled cfg (disputed cfg env₁ args env₂ id) env₂.caller fraudulent
    simp [Label.submitted, Label.challenged, Label.settles, Label.moves, hp, hq, disputed_stake, disputed_bond]
  | finalized => simp [Label.submitted, Label.settles, Label.moves]

/-! ## The settlement law -/

/-- The settlement law for attestation `id` over a run with the labels `ls`. -/
structure SettlementLaw (cfg : RegistryConfig) (ls : List Label) (id : U64) : Prop where
  /-- it is settled at most once -/
  once : (ls.filter (Label.settles id)).length ≤ 1
  /-- no call about it succeeds after that -/
  last : ∀ l₁ a l₂, ls = l₁ ++ a :: l₂ → a.settles id → ∀ b ∈ l₂, b.about id = false
  /-- settled, it has paid out exactly what was deposited for it; unsettled, nothing -/
  exact : paidFor id ls = if ls.any (Label.settles id) then pulledFor id ls else 0
  finalize_pays : ∀ env moves, .call env (.finalize id) id moves ∈ ls → ∃ env₁ args,
    .submitted env₁ args id ∈ ls ∧ moves = [.pay env₁.caller args.stake.val]
  honest_pays : ∀ env moves, .call env (.resolve id false) id moves ∈ ls → ∃ env₁ args env₂,
    .submitted env₁ args id ∈ ls ∧ .challenged cfg env₂ id ∈ ls ∧
    moves = .pay env₁.caller args.stake.val ::
      if 0 < cfg.challengeBond.val then [.pay cfg.treasury cfg.challengeBond.val] else []
  slash_pays : ∀ env moves, .call env (.resolve id true) id moves ∈ ls → ∃ env₁ args env₂ toChallenger toTreasury,
    .submitted env₁ args id ∈ ls ∧ .challenged cfg env₂ id ∈ ls ∧
    toChallenger = args.stake.val * cfg.rewardBps.val / bpsDenom + cfg.challengeBond.val ∧
    toChallenger + toTreasury = args.stake.val + cfg.challengeBond.val ∧
    moves = .pay env₂.caller toChallenger :: if 0 < toTreasury then [.pay cfg.treasury toTreasury] else []

theorem filter_settles (id : U64) (ls : List Label) :
    (ls.filter (Label.about id)).filter (Label.settles id) = ls.filter (Label.settles id) := by
  rw [List.filter_filter]
  refine List.filter_congr fun a _ => ?_
  cases h : a.settles id <;> simp [Label.about_of_settles, h]

theorem any_settles (id : U64) (ls : List Label) :
    (ls.filter (Label.about id)).any (Label.settles id) = ls.any (Label.settles id) := by
  rw [List.any_filter]
  congr 1; funext a
  cases h : a.settles id <;> simp [Label.about_of_settles, h]

theorem Life.law (hlife : Life cfg id (ls.filter (Label.about id)) o) : SettlementLaw cfg ls id := by
  refine ⟨filter_settles id ls ▸ hlife.settles_once, ?_, by rw [paidFor, pulledFor, hlife.paid, any_settles],
    ?_, ?_, ?_⟩
  · rintro l₁ a l₂ rfl ha b hb
    rw [List.filter_append, List.filter_cons_of_pos (Label.about_of_settles ha)] at hlife
    have := hlife.settles_last ha
    rw [List.filter_eq_nil_iff] at this
    simpa using this b hb
  all_goals
    intro env moves h
    replace h := List.mem_filter.2 ⟨h, show Label.about id (.call env _ id moves) by simp [Label.about]⟩
    have hsub : ∀ a ∈ ls.filter (Label.about id), a ∈ ls := fun a ha => (List.mem_filter.1 ha).1
    generalize ls.filter (Label.about id) = L at hlife h hsub
  · cases hlife with
    | @finalized env₁ args =>
      simp [Label.submitted] at h
      exact ⟨env₁, args, hsub _ (by simp), h.2⟩
    | _ => simp [Label.submitted, Label.challenged] at h
  · cases hlife with
    | @resolved env₁ args env₂ =>
      simp [Label.submitted, Label.challenged] at h
      obtain ⟨-, rfl, rfl⟩ := h
      exact ⟨env₁, args, env₂, hsub _ (by simp), hsub _ (by simp), rfl⟩
    | _ => simp [Label.submitted, Label.challenged] at h
  · cases hlife with
    | @resolved env₁ args env₂ _ _ _ _ hle =>
      simp [Label.submitted, Label.challenged] at h
      obtain ⟨-, rfl, rfl⟩ := h
      refine ⟨env₁, args, env₂, _, args.stake.val - args.stake.val * cfg.rewardBps.val / bpsDenom,
        hsub _ (by simp), hsub _ (by simp), rfl, ?_, ?_⟩
      · have : args.stake.val * cfg.rewardBps.val / bpsDenom ≤ args.stake.val := hle
        omega
      · simp only [Nat.sub_pos_iff_lt]; rfl
    | _ => simp [Label.submitted, Label.challenged] at h

/-- **The settlement law.**  Over every run each attestation is settled at most
    once and then paid out exactly what was deposited for it: the full stake to
    its attestor, or the stake split between challenger and treasury, with the
    bond to whoever wins the dispute.  The split never underflows, and the
    recorded movements are executed by the token. -/
theorem settlement_law {w₀ w : World τ} (ht : t.Standard) (h₀ : Initial t me cfg w₀)
    (h : Run (Step t me) w₀ ls w) :
    (∀ id, SettlementLaw cfg ls id) ∧
    (∀ stake : U256, stake.val * cfg.rewardBps.val / bpsDenom ≤ stake.val) ∧
    ∀ l₁ a l₂, ls = l₁ ++ a :: l₂ → ∃ w₁ w₂, Run (Step t me) w₀ l₁ w₁ ∧ Step t me w₁ a w₂ ∧
      (∀ env c id moves, a = .call env c id moves →
        Executed t me w₁.reg.token.chain moves w₂.reg.token.chain) := by
  refine ⟨fun id => (life_of_run (local_run h₀ h id)).law, fun stake => ?_, ?_⟩
  · exact Nat.div_le_of_le_mul ((Nat.mul_le_mul_left _ h₀.rewardBps).trans (Nat.mul_comm ..).le)
  · rintro l₁ a l₂ rfl
    obtain ⟨w₁, w₂, h₁, hs, -⟩ := h.split_cons
    refine ⟨w₁, w₂, h₁, hs, ?_⟩
    rintro env c id moves rfl
    cases hs with
    | call _ _ _ hr =>
      have he := call_effect (run_wellFormed h₀ h₁).fresh_state rfl hr
      exact he.executed ht _ (show Executed t me w₁.reg.token.chain [] w₁.reg.token.chain from .nil)

theorem settlement_law_demo : ∃ ls w, Run (Step Cep18.basic demoRegistry) demoWorld ls w ∧ ls ≠ [] ∧
    ∀ id, SettlementLaw demoConfig ls id := by
  obtain ⟨w, h⟩ := demo_run
  exact ⟨_, w, h, by simp, (settlement_law Cep18.basic_standard demo_initial h).1⟩

end CasperProof.Registry
