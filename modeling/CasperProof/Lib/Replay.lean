/-
  Event sourcing — systems that append to a log, and auditors that read it.

  * `audit post b es`: the books of an auditor after the events `es`, or why it
    refuses one of them.
  * `audit_of_run`: an auditor that can follow every step accepts the log of
    every run, and its books then agree with the state.
  * `run_of_audit`: if the system can follow the auditor, every log that the
    auditor accepts is the log of a run.
-/
import CasperProof.Lib.Fallible
import CasperProof.Lib.Run

namespace CasperProof.Replay

variable {σ l ε δ β : Type}

/-- The events are posted one by one. -/
def audit (post : β → ε → Except δ β) : β → List ε → Except δ β
  | b, [] => .ok b
  | b, e :: es => do
    let b ← post b e
    audit post b es

variable {post : β → ε → Except δ β} {b b' : β} {es es' : List ε}

theorem audit_append : audit post b (es ++ es') = .ok b' ↔
    ∃ b₁, audit post b es = .ok b₁ ∧ audit post b₁ es' = .ok b' := by
  induction es generalizing b with
  | nil => simp [audit]
  | cons e es ih =>
    simp only [List.cons_append, audit, bind_eq_ok, ih]
    constructor
    · rintro ⟨b₁, hpost, b₂, hes, hes'⟩
      exact ⟨b₂, ⟨b₁, hpost, hes⟩, hes'⟩
    · rintro ⟨b₂, ⟨b₁, hpost, hes⟩, hes'⟩
      exact ⟨b₁, hpost, b₂, hes, hes'⟩

theorem audit_singleton {e : ε} : audit post b [e] = .ok b' ↔ post b e = .ok b' := by
  simp [audit]

/-- An auditor that reads the events of another among its own. -/
theorem audit_map {β' ε' : Type} {post' : β' → ε' → Except δ β'} (f : ε → ε') (g : β → β')
    (hpost : ∀ b e b', post b e = .ok b' → post' (g b) (f e) = .ok (g b')) (h : audit post b es = .ok b') :
    audit post' (g b) (es.map f) = .ok (g b') := by
  induction es generalizing b with
  | nil =>
    cases h
    rfl
  | cons e es ih =>
    obtain ⟨b₁, he, hes⟩ := bind_eq_ok.1 h
    exact bind_eq_ok.2 ⟨g b₁, hpost b e b₁ he, ih hes⟩

section
variable {step : σ → l → σ → Prop} {log : σ → List ε} {Agrees : β → σ → Prop} {s s' : σ} {ls : List l}

/-- The auditor tracks the step from `s` to `s'`: from books that agree with
    the one it comes to books that agree with the other. -/
def Tracks (post : β → ε → Except δ β) (log : σ → List ε) (Agrees : β → σ → Prop) (s s' : σ) : Prop :=
  ∀ b, Agrees b s → ∃ es b', log s' = log s ++ es ∧ audit post b es = .ok b' ∧ Agrees b' s'

/-- A step that logs nothing. -/
theorem Tracks.silent (hlog : log s' = log s) (h : ∀ b, Agrees b s → Agrees b s') :
    Tracks post log Agrees s s' :=
  fun b hb => ⟨[], b, by rw [hlog, List.append_nil], rfl, h b hb⟩

/-- A step that logs one event. -/
theorem Tracks.single (h : ∀ b, Agrees b s → ∃ e b', log s' = log s ++ [e] ∧ post b e = .ok b' ∧ Agrees b' s') :
    Tracks post log Agrees s s' := by
  intro b hb
  obtain ⟨e, b', hlog, hpost, hb'⟩ := h b hb
  exact ⟨[e], b', hlog, audit_singleton.2 hpost, hb'⟩

/-- **The auditor follows runs.** -/
theorem audit_of_run (h : Run step s ls s')
    (hstep : ∀ ls s₁ a s₂, Run step s ls s₁ → step s₁ a s₂ → Tracks post log Agrees s₁ s₂)
    (hb : Agrees b s) (hs : log s = []) : ∃ b', audit post b (log s') = .ok b' ∧ Agrees b' s' := by
  induction h with
  | nil => exact ⟨b, by rw [hs]; rfl, hb⟩
  | snoc hr ha ih =>
    obtain ⟨b₁, haudit, hb₁⟩ := ih
    obtain ⟨es, b₂, hlog, hes, hb₂⟩ := hstep _ _ _ _ hr ha b₁ hb₁
    exact ⟨b₂, by rw [hlog]; exact audit_append.2 ⟨b₁, haudit, hes⟩, hb₂⟩

/-- **Runs follow the auditor.**  If every accepted event of a log can be logged
    by some steps, the log, if it is accepted, is the log of a run. -/
theorem run_of_audit
    (hstep : ∀ ls s₁ b e b', e ∈ es → Run step s ls s₁ → Agrees b s₁ → post b e = .ok b' →
      ∃ ls' s₂, Run step s₁ ls' s₂ ∧ log s₂ = log s₁ ++ [e] ∧ Agrees b' s₂)
    (hb : Agrees b s) (hs : log s = []) (h : audit post b es = .ok b') :
    ∃ ls s', Run step s ls s' ∧ log s' = es ∧ Agrees b' s' := by
  induction es using List.reverseRecOn generalizing b' with
  | nil =>
    cases h
    exact ⟨[], s, .nil, hs, hb⟩
  | append_singleton es e ih =>
    obtain ⟨b₁, hes, he⟩ := audit_append.1 h
    obtain ⟨ls, s₁, hr, hlog, hb₁⟩ := ih (fun ls s₁ b e b' hmem => hstep ls s₁ b e b' (List.mem_append_left _ hmem)) hes
    have hmem : e ∈ es ++ [e] := List.mem_append_right _ (List.mem_singleton_self e)
    obtain ⟨ls', s₂, hr', hlog', hb'⟩ := hstep ls s₁ b₁ e b' hmem hr hb₁ (audit_singleton.1 he)
    exact ⟨ls ++ ls', s₂, hr.append hr', by rw [hlog', hlog], hb'⟩

end

end CasperProof.Replay
