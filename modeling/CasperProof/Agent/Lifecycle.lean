/-
  Records that last.

  Whatever is called, and whether it returns or throws: a record of the mock
  backend is not lost, what was submitted is not changed, and its status
  follows the lifecycle of the contract.

  `Evolves b b'`: so it is from the books `b` to `b'`.
-/
import CasperProof.Agent.Sound
import CasperProof.Contracts.Records

namespace CasperProof.Agent

open Js Commitment Sdk

variable {H : Type} {blake2b256 : Blake2b} {env : MockEnv H} {a a' a'' : Sdk.Attestation} {b b' b'' : Books}

/-- `a'` is a later state of the record `a`. -/
structure Advances (a a' : Sdk.Attestation) : Prop where
  same : { a' with status := a.status, challenger := a.challenger } = a
  status : Relation.ReflTransGen Registry.Follows a.status a'.status

theorem Advances.refl (a : Sdk.Attestation) : Advances a a := ⟨rfl, .refl⟩

theorem Advances.trans (h : Advances a a') (h' : Advances a' a'') : Advances a a'' where
  same := by
    rw [← h.same, ← h'.same]
  status := h.status.trans h'.status

/-- The ids on record have been given. -/
def Given (b : Books) : Prop := ∀ id, (b.attestations.get id).isSome → id < b.nextAttestationId

/-- Every record of `b` is one of `b'`, perhaps in a later state. -/
def Evolves (b b' : Books) : Prop := Given b → Given b' ∧
  ∀ id a, b.attestations.get id = some a → ∃ a', b'.attestations.get id = some a' ∧ Advances a a'

theorem Evolves.refl (b : Books) : Evolves b b := fun hb => ⟨hb, fun _ a hget => ⟨a, hget, .refl a⟩⟩

theorem Evolves.trans (h : Evolves b b') (h' : Evolves b' b'') : Evolves b b'' := by
  intro hb
  obtain ⟨hb', hkept⟩ := h hb
  obtain ⟨hb'', hkept'⟩ := h' hb'
  refine ⟨hb'', fun id a hget => ?_⟩
  obtain ⟨a', hget', hadv⟩ := hkept id a hget
  obtain ⟨a'', hget'', hadv'⟩ := hkept' id a' hget'
  exact ⟨a'', hget'', hadv.trans hadv'⟩

theorem Evolves.of_same (hattestations : b'.attestations = b.attestations)
    (hnext : b'.nextAttestationId = b.nextAttestationId) : Evolves b b' := by
  intro hb
  refine ⟨fun id h => ?_, fun id a hget => ⟨a, hattestations ▸ hget, .refl a⟩⟩
  rw [hattestations] at h
  exact hnext ▸ hb id h

/-- A new record. -/
theorem Evolves.submitted (hattestations : b'.attestations = b.attestations.set b.nextAttestationId a)
    (hnext : b'.nextAttestationId = b.nextAttestationId + 1) : Evolves b b' := by
  intro hb
  constructor
  · intro id h
    rw [hattestations, Mapping.get_set] at h
    rw [hnext]
    split_ifs at h with hid
    · exact hid ▸ Nat.lt_succ_self _
    · exact (hb id h).trans (Nat.lt_succ_self _)
  · intro id a₀ hget
    refine ⟨a₀, ?_, .refl a₀⟩
    have hne : id ≠ b.nextAttestationId := (hb id (Option.isSome_iff_exists.2 ⟨a₀, hget⟩)).ne
    rw [hattestations, Mapping.get_set, if_neg hne, hget]

/-- A record in a later state. -/
theorem Evolves.advanced {id : ℕ} (hget : b.attestations.get id = some a) (hadv : Advances a a')
    (hattestations : b'.attestations = b.attestations.set id a')
    (hnext : b'.nextAttestationId = b.nextAttestationId) : Evolves b b' := by
  intro hb
  constructor
  · intro id' h
    rw [hattestations, Mapping.get_set] at h
    rw [hnext]
    split_ifs at h with hid
    · exact hb id' (Option.isSome_iff_exists.2 ⟨a, hid ▸ hget⟩)
    · exact hb id' h
  · intro id' a₀ hget₀
    rw [hattestations, Mapping.get_set]
    split_ifs with hid
    · subst hid
      cases hget.symm.trans hget₀
      exact ⟨a', rfl, hadv⟩
    · exact ⟨a₀, hget₀, .refl a₀⟩

/-! ## The SDK -/

theorem submitAttestation_evolves (args : SubmitAttestationArgs) :
    Op.Effects (fun s s' => Evolves s.books s'.books) (submitAttestation env args) := by
  intro s
  rcases submitAttestation_effect env args s with hbooks | ⟨hashes, -, hbooks⟩
  · rw [hbooks]
    exact .refl _
  · rw [hbooks]
    exact .submitted rfl rfl

theorem challenge_evolves (id : ℕ) : Op.Effects (fun s s' => Evolves s.books s'.books) (challenge env id) := by
  intro s
  rcases challenge_effect env id s with hbooks | ⟨a, hget, hst, hbooks⟩
  · rw [hbooks]
    exact .refl _
  · have hadv : Advances a (challengedAttestation a) := ⟨rfl, .single (hst ▸ .challenged)⟩
    rw [hbooks]
    exact .advanced hget hadv rfl rfl

theorem resolve_evolves (id : ℕ) (fraudulent : Bool) :
    Op.Effects (fun s s' => Evolves s.books s'.books) (resolve env id fraudulent) := by
  intro s
  by_cases hchallenged : ∃ a, s.attestations.get id = some a ∧ a.status = .challenged
  · obtain ⟨a, hget, hst⟩ := hchallenged
    have hadv : Advances a { a with status := verdict fraudulent } := by
      refine ⟨rfl, .single ?_⟩
      rw [hst]
      cases fraudulent with
      | true => exact .slashed
      | false => exact .upheld
    have hset : Evolves s.books (s.resolved id a fraudulent).books := .advanced hget hadv rfl rfl
    rw [resolve_announces hget hst, announcement_books _]
    exact hset
  · obtain ⟨e, he⟩ := resolve_rejects (s := s) env id fraudulent fun a hget hst => hchallenged ⟨a, hget, hst⟩
    rw [he]
    exact .refl _

theorem evolves_of_keeps {α : Type} {x : BackendOp H α} (hx : Op.Keeps registry x) :
    Op.Effects (fun s s' => Evolves s.books s'.books) x := by
  intro s
  obtain ⟨hattestations, hnext⟩ := Prod.mk.inj (hx s)
  exact .of_same hattestations hnext

/-- **Every SDK call lets records last.** -/
theorem mockOp_evolves [DecidableEq H] (op : MockOp H) :
    Op.Effects (fun s s' => Evolves s.books s'.books) (op.run env) := by
  cases op with
  | submitAttestation args => exact (submitAttestation_evolves args).map _
  | challenge id => exact (challenge_evolves id).map _
  | resolve id fraudulent => exact (resolve_evolves id fraudulent).map _
  | createPolicy _ | submitClaim _ _ | stake _ | unstake _ | getAttestation _ | attestationCount
  | attestorReputation _ | getPolicy _ | getRiskScore _ | subscribeEvents _ | unsubscribe _ =>
    refine evolves_of_keeps (MockOp.keeps_of_writes _ fun s s' hw => ?_)
    cases hw <;> rfl

/-! ## The agent -/

theorem attest_evolves (env : MockEnv H) (bucket : JsString) (now : JsNumber) (args : AttestArgs)
    (config : AgentConfig) :
    Op.Effects (fun w w' => Evolves w.1.books w'.1.books) (attest env bucket now args config) := by
  intro w
  have heffect := attest_effect env bucket now args config w
  generalize (attest _ _ _ _ _ w).2 = w' at heffect ⊢
  rcases heffect with _ | ⟨-, hbooks⟩ | ⟨-, -, hbooks⟩
  · exact .refl _
  · rw [hbooks]
    exact .refl _
  · rw [hbooks]
    exact .submitted rfl rfl

theorem runOnce_evolves (r : Runtime.AgentRuntime) (blake2b256 : Blake2b) (m : Runtime.Surroundings H)
    (ctx : Runtime.RuntimeContext) :
    Op.Effects (fun w w' => Evolves w.1.books w'.1.books) (r.runOnce blake2b256 m ctx) := by
  refine .lift_bind (fun _ => .refl _) fun decision _ => (Runtime.execute_effects (fun _ => .refl _) m decision ctx ?_ ?_).map _
  · intro address _ _
    exact attest_evolves _ _ _ _ _
  · exact fun id w => challenge_evolves id w.1

end CasperProof.Agent
