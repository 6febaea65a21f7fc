/-
  An event bus with a bounded replay.

  * A new handler is first called with the recent events, at most `cap` of
    them; then every handler is called once with every event.
  * The handlers form a set: a handler that is subscribed twice is called once,
    and one call of `unsubscribe` removes it.
  * `received h (log cap s as)`: what the handler `h` is called with, in order.
    `received_subscribed` and `received_unsubscribed` say what it receives
    between two actions that concern it.
-/
import Mathlib.Data.List.DropRight
import Mathlib.Data.List.Nodup
import Mathlib.Tactic.Common

namespace CasperProof.EventBus

variable {H E : Type}

inductive Act (H E : Type) where
  | emit (e : E)
  | subscribe (h : H)
  | unsubscribe (h : H)

structure Bus (H E : Type) where
  handlers : List H
  recent : List E

def Bus.empty : Bus H E := ⟨[], []⟩

/-- The event recorded, the oldest one dropped if there are too many. -/
def recordEvent (cap : ℕ) (recent : List E) (e : E) : List E :=
  if (recent ++ [e]).length > cap then (recent ++ [e]).drop 1 else recent ++ [e]

/-- The calls of the handlers in an action. -/
def calls (b : Bus H E) : Act H E → List (H × E)
  | .emit e => b.handlers.map fun h => (h, e)
  | .subscribe h => b.recent.map fun e => (h, e)
  | .unsubscribe _ => []

/-- The events of a list of actions. -/
def emitted : List (Act H E) → List E
  | [] => []
  | .emit e :: as => e :: emitted as
  | .subscribe _ :: as | .unsubscribe _ :: as => emitted as

theorem emitted_append (as bs : List (Act H E)) : emitted (as ++ bs) = emitted as ++ emitted bs := by
  induction as with
  | nil => rfl
  | cons a as ih => cases a <;> simp [emitted, ih]

/-- The action subscribes or unsubscribes the handler. -/
def Act.Concerns (h : H) (a : Act H E) : Prop := a = .subscribe h ∨ a = .unsubscribe h

variable [DecidableEq H]

/-- The elements of a set are in the order in which they were added. -/
def setAdd (hs : List H) (h : H) : List H := if h ∈ hs then hs else hs ++ [h]

def step (cap : ℕ) (b : Bus H E) : Act H E → Bus H E
  | .emit e => ⟨b.handlers, recordEvent cap b.recent e⟩
  | .subscribe h => ⟨setAdd b.handlers h, b.recent⟩
  | .unsubscribe h => ⟨b.handlers.erase h, b.recent⟩

def run (cap : ℕ) (b : Bus H E) (as : List (Act H E)) : Bus H E := as.foldl (step cap) b

/-- The calls of the handlers in a list of actions. -/
def log (cap : ℕ) : Bus H E → List (Act H E) → List (H × E)
  | _, [] => []
  | b, a :: as => calls b a ++ log cap (step cap b a) as

/-- What a handler is called with. -/
def received (h : H) (cs : List (H × E)) : List E := (cs.filter fun c => c.1 = h).map Prod.snd

variable {cap : ℕ} {b : Bus H E} {h : H} {a : Act H E} {as : List (Act H E)}

theorem received_append (cs cs' : List (H × E)) : received h (cs ++ cs') = received h cs ++ received h cs' := by
  rw [received, List.filter_append, List.map_append]
  rfl

theorem log_append (as as' : List (Act H E)) : log cap b (as ++ as') = log cap b as ++ log cap (run cap b as) as' := by
  induction as generalizing b with
  | nil => rfl
  | cons a as ih =>
    rw [List.cons_append, log, log, ih, List.append_assoc]
    rfl

/-! ## The replay -/

theorem recordEvent_rtake (es : List E) (e : E) :
    recordEvent cap (es.rtake cap) e = (es ++ [e]).rtake cap := by
  unfold recordEvent List.rtake
  rw [List.length_append, List.length_append, List.length_drop, List.length_singleton]
  by_cases hle : es.length < cap
  · have hkeep : es.length - cap = 0 := by omega
    rw [if_neg (by omega), hkeep, List.drop_zero, show es.length + 1 - cap = 0 by omega, List.drop_zero]
  · rw [if_pos (by omega), ← List.drop_append_of_le_length (by omega), List.drop_drop]
    congr 1
    omega

/-- **The recent events** are the last ones. -/
theorem run_recent (es : List E) (hb : b.recent = es.rtake cap) :
    (run cap b as).recent = (es ++ emitted as).rtake cap := by
  induction as generalizing b es with
  | nil => rw [emitted, List.append_nil]; exact hb
  | cons a as ih =>
    cases a with
    | emit e =>
      have hstep : (step cap b (.emit e)).recent = (es ++ [e]).rtake cap := by
        rw [← recordEvent_rtake, ← hb]
        rfl
      have htail := ih (es ++ [e]) hstep
      rw [List.append_assoc, List.singleton_append] at htail
      exact htail
    | subscribe h' | unsubscribe h' => exact ih es hb

/-! ## The handlers -/

theorem mem_setAdd {hs : List H} {h h' : H} : h' ∈ setAdd hs h ↔ h' ∈ hs ∨ h' = h := by
  unfold setAdd
  split_ifs with hmem
  · refine (or_iff_left_of_imp ?_).symm
    rintro rfl
    exact hmem
  · rw [List.mem_append, List.mem_singleton]

theorem nodup_setAdd {hs : List H} (hnodup : hs.Nodup) (h : H) : (setAdd hs h).Nodup := by
  unfold setAdd
  split_ifs with hmem
  · exact hnodup
  · rw [List.nodup_append]
    refine ⟨hnodup, List.nodup_singleton h, fun a ha b hb => ?_⟩
    rw [List.mem_singleton.1 hb]
    rintro rfl
    exact hmem ha

theorem step_nodup (hb : b.handlers.Nodup) (a : Act H E) : (step cap b a).handlers.Nodup := by
  cases a with
  | emit e => exact hb
  | subscribe h => exact nodup_setAdd hb h
  | unsubscribe h => exact hb.erase h

theorem run_nodup (hb : b.handlers.Nodup) : (run cap b as).handlers.Nodup := by
  induction as generalizing b with
  | nil => exact hb
  | cons a as ih => exact ih (step_nodup hb a)

/-- An action that does not concern a handler neither adds nor removes it. -/
theorem mem_step_iff (hb : b.handlers.Nodup) (ha : ¬ a.Concerns h) :
    h ∈ (step cap b a).handlers ↔ h ∈ b.handlers := by
  cases a with
  | emit e => exact Iff.rfl
  | subscribe h' =>
    have hne : h ≠ h' := by
      rintro rfl
      exact ha (.inl rfl)
    rw [step, mem_setAdd]
    exact or_iff_left hne
  | unsubscribe h' =>
    have hne : h ≠ h' := by
      rintro rfl
      exact ha (.inr rfl)
    rw [step, hb.mem_erase_iff]
    exact and_iff_right hne

/-! ## What a handler receives -/

theorem received_map_same (es : List E) : received h (es.map fun e => (h, e)) = es := by
  induction es with
  | nil => rfl
  | cons e es ih => simpa [received] using ih

theorem received_map_other {h' : H} (hne : h' ≠ h) (es : List E) : received h (es.map fun e => (h', e)) = [] := by
  have hnone : (es.map fun e => (h', e)).filter (fun c => c.1 = h) = [] := by
    rw [List.filter_eq_nil_iff]
    intro c hc
    obtain ⟨e, -, rfl⟩ := List.mem_map.1 hc
    rwa [decide_eq_true_eq]
  rw [received, hnone, List.map_nil]

/-- An event is passed to a handler once. -/
theorem received_emit (hb : b.handlers.Nodup) (e : E) :
    received h (calls b (.emit e)) = if h ∈ b.handlers then [e] else [] := by
  have hcalls : ∀ {hs : List H}, hs.Nodup → received h (hs.map fun h => (h, e)) = if h ∈ hs then [e] else [] := by
    intro hs hnodup
    induction hs with
    | nil => rfl
    | cons h' hs ih =>
      obtain ⟨hnot, hnodup⟩ := List.nodup_cons.1 hnodup
      have htail := ih hnodup
      rw [List.map_cons, ← List.singleton_append, received_append, htail]
      by_cases heq : h' = h
      · subst heq
        rw [if_neg hnot, if_pos (List.mem_cons_self ..), List.append_nil]
        exact received_map_same [e]
      · have hmem : h ∈ h' :: hs ↔ h ∈ hs := by
          rw [List.mem_cons]
          exact or_iff_right (Ne.symm heq)
        rw [show received h [(h', e)] = [] from received_map_other heq [e], List.nil_append]
        simp only [hmem]
  exact hcalls hb

theorem received_other (ha : ¬ a.Concerns h) (hb : b.handlers.Nodup) :
    received h (calls b a) = if h ∈ b.handlers then emitted [a] else [] := by
  cases a with
  | emit e => exact received_emit hb e
  | subscribe h' =>
    have hne : h' ≠ h := by
      rintro rfl
      exact ha (.inl rfl)
    rw [calls, received_map_other hne, emitted, emitted, ite_self]
  | unsubscribe h' => rw [emitted, emitted, ite_self]; rfl

/-- Between two actions that concern a handler, it receives every event if it
    is subscribed, and else nothing. -/
theorem received_log (hb : b.handlers.Nodup) (has : ∀ a ∈ as, ¬ a.Concerns h) :
    received h (log cap b as) = if h ∈ b.handlers then emitted as else [] := by
  induction as generalizing b with
  | nil => exact (ite_self _).symm
  | cons a as ih =>
    obtain ⟨ha, has⟩ := List.forall_mem_cons.1 has
    rw [log, received_append, received_other ha hb, ih (step_nodup hb a) has]
    simp only [mem_step_iff hb ha]
    split_ifs
    · rw [← emitted_append, List.singleton_append]
    · rfl

variable {before during : List (Act H E)}

/-- **A subscription**: the last events, then every event. -/
theorem received_subscribed (hduring : ∀ a ∈ during, ¬ a.Concerns h) :
    received h (log cap .empty (before ++ .subscribe h :: during)) =
      received h (log cap .empty before) ++ (emitted before).rtake cap ++ emitted during := by
  have hnodup : (run cap (.empty : Bus H E) before).handlers.Nodup := run_nodup List.nodup_nil
  have hrecent : (run cap (.empty : Bus H E) before).recent = (emitted before).rtake cap := by
    have h := @run_recent H E _ cap .empty before [] (List.rtake_nil cap).symm
    rwa [List.nil_append] at h
  have hmem : h ∈ (step cap (run cap .empty before) (.subscribe h)).handlers := mem_setAdd.2 (.inr rfl)
  rw [log_append, received_append, log, received_append, calls, received_map_same, hrecent,
    received_log (step_nodup hnodup _) hduring, if_pos hmem, List.append_assoc]

/-- **After it**: nothing. -/
theorem received_unsubscribed (hduring : ∀ a ∈ during, ¬ a.Concerns h) :
    received h (log cap .empty (before ++ .unsubscribe h :: during)) = received h (log cap .empty before) := by
  have hnodup : (run cap (.empty : Bus H E) before).handlers.Nodup := run_nodup List.nodup_nil
  have hnot : h ∉ (step cap (run cap (.empty : Bus H E) before) (.unsubscribe h)).handlers := hnodup.not_mem_erase
  rw [log_append, received_append, log, received_append, received_log (step_nodup hnodup _) hduring, if_neg hnot]
  simp [received, calls]

end CasperProof.EventBus
