/-
  Runs of labelled transition systems.

  * `Run step s ls s'`: from `s`, the steps labelled `ls` lead to `s'`.
  * `Run.inv`: an invariant that every step preserves holds at the end of
    every run.
  * `Run.telescope`: what every step adds to a quantity, a run adds up.
  * `Run.pairwise`: how the labels of a run are ordered, when the state
    remembers what happened before.
  * `Run.project`: a view of the state that only the labels satisfying `p` can
    change runs through the sub-list of these labels (a stuttering
    simulation).
-/
import Mathlib.Algebra.BigOperators.Group.List.Basic
import Mathlib.Data.List.Induction
import Mathlib.Tactic.Common

namespace CasperProof

variable {σ β l : Type}

/-- Runs, with the last step outermost. -/
inductive Run (step : σ → l → σ → Prop) (s : σ) : List l → σ → Prop
  | nil : Run step s [] s
  | snoc {ls a s₁ s₂} : Run step s ls s₁ → step s₁ a s₂ → Run step s (ls ++ [a]) s₂

namespace Run
variable {step : σ → l → σ → Prop} {s s₁ s₂ : σ} {ls ls' : List l}

theorem single {a : l} (h : step s a s₁) : Run step s [a] s₁ := nil.snoc h

theorem append (h : Run step s ls s₁) (h' : Run step s₁ ls' s₂) : Run step s (ls ++ ls') s₂ := by
  induction h' with
  | nil => simpa using h
  | snoc _ hs ih => rw [← List.append_assoc]; exact ih.snoc hs

theorem cons {a : l} (h : step s a s₁) (h' : Run step s₁ ls s₂) : Run step s (a :: ls) s₂ := (single h).append h'

theorem mono {step' : σ → l → σ → Prop} (h : Run step s ls s₁) (hstep : ∀ s a s', step s a s' → step' s a s') :
    Run step' s ls s₁ := by
  induction h with
  | nil => exact nil
  | snoc _ hs ih => exact ih.snoc (hstep _ _ _ hs)

/-- **Invariants.**  What holds initially and is preserved by every step holds
    after every run. -/
theorem inv {P : σ → Prop} (h : Run step s ls s₁) (h₀ : P s)
    (hstep : ∀ s a s', P s → step s a s' → P s') : P s₁ := by
  induction h with
  | nil => exact h₀
  | snoc _ hs ih => exact hstep _ _ _ ih hs

/-- An invariant of the runs with these labels. -/
theorem inv_of_mem {P : σ → Prop} (h : Run step s ls s₁) (h₀ : P s)
    (hstep : ∀ s a s', a ∈ ls → P s → step s a s' → P s') : P s₁ := by
  induction h with
  | nil => exact h₀
  | @snoc ls a s₁ s₂ _ hs ih =>
    have hinit : P s₁ := ih fun t b t' hb => hstep t b t' (List.mem_append_left _ hb)
    exact hstep _ a _ (by simp) hinit hs

/-- A quantity to which every step adds the weight of its label. -/
theorem telescope {M : Type} [AddMonoid M] (f : σ → M) (w : l → M)
    (hstep : ∀ s a s', step s a s' → f s' = f s + w a) (h : Run step s ls s₁) : f s₁ = f s + (ls.map w).sum := by
  induction h with
  | nil => exact (add_zero _).symm
  | @snoc ls a s₁ s₂ _ hs ih =>
    rw [List.map_append, List.sum_append, List.map_singleton, List.sum_singleton, ← add_assoc, ← ih]
    exact hstep _ _ _ hs

/-- **Order.**  `B a s`: the step labelled `a` was made by the time of `s`.  If
    a step comes after what was made by then, every label of a run comes after
    the labels before it. -/
theorem pairwise {B : l → σ → Prop} {R : l → l → Prop} (hmade : ∀ s a s', step s a s' → B a s')
    (hkeep : ∀ b s a s', B b s → step s a s' → B b s') (hafter : ∀ b s a s', B b s → step s a s' → R b a)
    (h : Run step s ls s₁) : ls.Pairwise R ∧ ∀ b ∈ ls, B b s₁ := by
  induction h with
  | nil => exact ⟨.nil, by simp⟩
  | @snoc ls a s₁ s₂ _ hs ih =>
    obtain ⟨hp, hb⟩ := ih
    constructor
    · rw [List.pairwise_append]
      refine ⟨hp, List.pairwise_singleton .., fun b hmem c hc => ?_⟩
      rw [List.mem_singleton] at hc
      subst hc
      exact hafter b _ _ _ (hb b hmem) hs
    · intro b hmem
      rcases List.mem_append.1 hmem with hmem | hmem
      · exact hkeep b _ _ _ (hb b hmem) hs
      · rw [List.mem_singleton] at hmem
        subst hmem
        exact hmade _ _ _ hs

theorem unsnoc {a : l} (h : Run step s (ls ++ [a]) s₂) : ∃ s₁, Run step s ls s₁ ∧ step s₁ a s₂ := by
  generalize hL : ls ++ [a] = L at h
  cases h with
  | nil => simp at hL
  | snoc hr hs =>
    obtain ⟨rfl, hab⟩ := List.append_inj' hL rfl
    cases hab
    exact ⟨_, hr, hs⟩

theorem of_nil (h : Run step s [] s₁) : s = s₁ := by
  generalize hL : ([] : List l) = L at h
  cases h with
  | nil => rfl
  | snoc => simp at hL

/-- If a step is determined by its label, so is a run by its labels. -/
theorem functional (hstep : ∀ s a t t', step s a t → step s a t' → t = t') (h₁ : Run step s ls s₁)
    (h₂ : Run step s ls s₂) : s₁ = s₂ := by
  induction h₁ generalizing s₂ with
  | nil => exact h₂.of_nil
  | snoc _ hs ih =>
    obtain ⟨t, ht, hs'⟩ := h₂.unsnoc
    obtain rfl := ih ht
    exact hstep _ _ _ _ hs hs'

/-- A run through a concatenation passes a state between its two parts. -/
theorem split (h : Run step s (ls ++ ls') s₂) : ∃ s₁, Run step s ls s₁ ∧ Run step s₁ ls' s₂ := by
  induction ls' using List.reverseRecOn generalizing s₂ with
  | nil => exact ⟨s₂, by simpa using h, nil⟩
  | append_singleton ls' a ih =>
    rw [← List.append_assoc] at h
    obtain ⟨s₁, hr, hs⟩ := h.unsnoc
    obtain ⟨m, h₁, h₂⟩ := ih hr
    exact ⟨m, h₁, h₂.snoc hs⟩

/-- Every label of a run comes from a step of it, between two of its states. -/
theorem split_cons {a : l} (h : Run step s (ls ++ a :: ls') s₂) :
    ∃ t t', Run step s ls t ∧ step t a t' ∧ Run step t' ls' s₂ := by
  rw [← List.singleton_append, ← List.append_assoc] at h
  obtain ⟨t', h₁, h₂⟩ := h.split
  obtain ⟨t, h₁, hs⟩ := h₁.unsnoc
  exact ⟨t, t', h₁, hs, h₂⟩

/-- A run all of whose steps satisfy `Q`. -/
theorem strengthen {Q : σ → l → Prop} (h : Run step s ls s₁)
    (hQ : ∀ ls₁ a ls₂ t t', ls = ls₁ ++ a :: ls₂ → Run step s ls₁ t → step t a t' → Q t a) :
    Run (fun s a s' => step s a s' ∧ Q s a) s ls s₁ := by
  induction h with
  | nil => exact nil
  | @snoc ls a s₁ s₂ hr hs ih =>
    refine (ih fun ls₁ b ls₂ t t' hls ht ht' => ?_).snoc ⟨hs, hQ ls a [] s₁ s₂ rfl hr hs⟩
    exact hQ ls₁ b (ls₂ ++ [a]) t t' (by simp [hls]) ht ht'

/-- **Projection.**  If the labels with `p` act on `view` as `lstep` and the
    other labels leave it alone, a run projects to a run of `lstep`.  `P` is an
    invariant of the run. -/
theorem project {lstep : β → l → β → Prop} (P : σ → Prop) (view : σ → β) (p : l → Bool)
    (h₀ : P s) (hP : ∀ s a s', P s → step s a s' → P s')
    (hon : ∀ s a s', P s → step s a s' → p a → lstep (view s) a (view s'))
    (hoff : ∀ s a s', P s → step s a s' → ¬ p a → view s' = view s)
    (h : Run step s ls s₁) : Run lstep (view s) (ls.filter p) (view s₁) := by
  induction h with
  | nil => exact nil
  | @snoc ls a s₁ s₂ hr hs ih =>
    have hPs := hr.inv h₀ hP
    rw [List.filter_append]
    cases ha : p a with
    | true => simpa [List.filter_cons, ha] using ih.snoc (hon _ _ _ hPs hs ha)
    | false => simpa [List.filter_cons, ha, hoff _ _ _ hPs hs (by simp [ha])] using ih

end Run

end CasperProof
