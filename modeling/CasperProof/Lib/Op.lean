/-
  Operations on a state that may throw.  Unlike a reverting transaction, an
  operation that throws keeps what it did to the state before.

  * `bind_returns` and `bind_throws` take a run of a `do` block apart;
    `Returns.bind` and its kin put one together.
  * `Keeps f x`: the operation leaves the view `f` of the state alone, whether
    it returns or throws; `Preserves P x`: it preserves `P`.
-/
import Mathlib.Logic.Basic
import Mathlib.Tactic.Common

namespace CasperProof

/-- An operation on a state in `σ` that returns an `α` or throws an `ε`. -/
def Op (σ ε α : Type) : Type := σ → Except ε α × σ

namespace Op
variable {σ ε ε' α β : Type}

instance : Monad (Op σ ε) where
  pure a := fun s => (.ok a, s)
  bind x f := fun s =>
    match x s with
    | (.ok a, s) => f a s
    | (.error e, s) => (.error e, s)

def get : Op σ ε σ := fun s => (.ok s, s)

def modify (f : σ → σ) : Op σ ε PUnit := fun s => (.ok ⟨⟩, f s)

def throw (e : ε) : Op σ ε α := fun s => (.error e, s)

/-- A computation that does not look at the state. -/
def lift (f : ε' → ε) (x : Except ε' α) : Op σ ε α := fun s => (x.mapError f, s)

/-- Throw `e` if `c` holds. -/
def failIf (c : Prop) [Decidable c] (e : ε) : Op σ ε PUnit := if c then throw e else pure ⟨⟩

/-- The value of an option; throw `e` if there is none. -/
def orFail (o : Option α) (e : ε) : Op σ ε α :=
  match o with
  | some a => pure a
  | none => throw e

/-- An operation with its errors renamed. -/
def mapError (f : ε → ε') (x : Op σ ε α) : Op σ ε' α := fun s => ((x s).1.mapError f, (x s).2)

/-- The result of an operation, as a value; what it throws is caught. -/
def attempt (x : Op σ ε α) : Op σ ε' (Except ε α) := fun s => (.ok (x s).1, (x s).2)

/-- An operation on the first part of the state. -/
def onFst {τ : Type} (f : ε → ε') (x : Op σ ε α) : Op (σ × τ) ε' α :=
  fun s => ((x s.1).1.mapError f, (x s.1).2, s.2)

/-- An operation on the second part of the state. -/
def onSnd {τ : Type} (f : ε → ε') (x : Op τ ε α) : Op (σ × τ) ε' α :=
  fun s => ((x s.2).1.mapError f, s.1, (x s.2).2)

theorem bind_bind {γ : Type} (x : Op σ ε α) (f : α → Op σ ε β) (g : β → Op σ ε γ) :
    x >>= f >>= g = x >>= fun a => f a >>= g := by
  funext s
  show (match (match x s with | (.ok a, s) => f a s | (.error e, s) => (.error e, s)) with
    | (.ok b, s) => g b s
    | (.error e, s) => (.error e, s)) = match x s with
    | (.ok a, s) => (f a >>= g) s
    | (.error e, s) => (.error e, s)
  rcases x s with ⟨_ | a, s'⟩ <;> rfl

theorem unit_bind (a : α) (f : α → Op σ ε β) : pure a >>= f = f a := rfl

/-- The operation returns `a` and leaves the state `s'`. -/
def Returns (x : Op σ ε α) (s : σ) (a : α) (s' : σ) : Prop := x s = (.ok a, s')

/-- The operation throws `e` and leaves the state `s'`. -/
def Throws (x : Op σ ε α) (s : σ) (e : ε) (s' : σ) : Prop := x s = (.error e, s')

section
variable {x : Op σ ε α} {f : α → Op σ ε β} {s s' : σ} {a : α} {b : β} {e : ε}

@[simp] theorem bind_returns : Returns (x >>= f) s b s' ↔ ∃ a s₁, Returns x s a s₁ ∧ Returns (f a) s₁ b s' := by
  unfold Returns
  show (match x s with | (.ok a, s) => f a s | (.error e, s) => (.error e, s)) = (.ok b, s') ↔ _
  rcases x s with ⟨_ | a, s₁⟩ <;> simp

@[simp] theorem bind_throws : Throws (x >>= f) s e s' ↔
    Throws x s e s' ∨ ∃ a s₁, Returns x s a s₁ ∧ Throws (f a) s₁ e s' := by
  unfold Returns Throws
  show (match x s with | (.ok a, s) => f a s | (.error e, s) => (.error e, s)) = (.error e, s') ↔ _
  rcases x s with ⟨_ | a, s₁⟩ <;> simp

@[simp] theorem pure_returns {a' : α} : Returns (pure a : Op σ ε α) s a' s' ↔ a = a' ∧ s = s' := by
  show ((Except.ok a, s) = (Except.ok a', s')) ↔ _
  simp

@[simp] theorem pure_throws : ¬ Throws (pure a : Op σ ε α) s e s' := by
  show ¬ ((Except.ok a, s) = (Except.error e, s'))
  simp

@[simp] theorem get_returns {t : σ} : Returns (get : Op σ ε σ) s t s' ↔ s = t ∧ s = s' := by
  simp [Returns, get]

@[simp] theorem get_throws : ¬ Throws (get : Op σ ε σ) s e s' := by simp [Throws, get]

@[simp] theorem modify_returns {g : σ → σ} {u : PUnit} :
    Returns (modify g : Op σ ε PUnit) s u s' ↔ g s = s' := by
  simp [Returns, modify]

@[simp] theorem modify_throws {g : σ → σ} : ¬ Throws (modify g : Op σ ε PUnit) s e s' := by
  simp [Throws, modify]

@[simp] theorem throw_returns {e' : ε} : ¬ Returns (throw e' : Op σ ε α) s a s' := by simp [Returns, throw]

@[simp] theorem throw_throws {e' : ε} : Throws (throw e' : Op σ ε α) s e s' ↔ e' = e ∧ s = s' := by
  simp [Throws, throw]

@[simp] theorem lift_returns {g : ε' → ε} {y : Except ε' α} :
    Returns (lift g y) s a s' ↔ y = .ok a ∧ s = s' := by
  cases y <;> simp [Returns, lift, Except.mapError]

@[simp] theorem lift_throws {g : ε' → ε} {y : Except ε' α} :
    Throws (lift g y) s e s' ↔ (∃ e', y = .error e' ∧ g e' = e) ∧ s = s' := by
  cases y <;> simp [Throws, lift, Except.mapError]

@[simp] theorem failIf_returns {c : Prop} [Decidable c] {u : PUnit} :
    Returns (failIf c e : Op σ ε PUnit) s u s' ↔ ¬ c ∧ s = s' := by
  by_cases h : c <;> simp [failIf, h]

@[simp] theorem failIf_throws {c : Prop} [Decidable c] {e' : ε} :
    Throws (failIf c e' : Op σ ε PUnit) s e s' ↔ c ∧ e' = e ∧ s = s' := by
  by_cases h : c <;> simp [failIf, h]

@[simp] theorem orFail_returns {o : Option α} :
    Returns (orFail o e : Op σ ε α) s a s' ↔ o = some a ∧ s = s' := by
  cases o <;> simp [orFail]

@[simp] theorem orFail_throws {o : Option α} {e' : ε} :
    Throws (orFail o e' : Op σ ε α) s e s' ↔ o = none ∧ e' = e ∧ s = s' := by
  cases o <;> simp [orFail]

@[simp] theorem mapError_returns {g : ε → ε'} : Returns (mapError g x) s a s' ↔ Returns x s a s' := by
  unfold Returns mapError
  rcases x s with ⟨_ | b, t⟩ <;> simp [Except.mapError]

@[simp] theorem attempt_returns {r : Except ε α} : Returns (attempt x : Op σ ε' (Except ε α)) s r s' ↔ x s = (r, s') := by
  unfold Returns attempt
  rcases x s with ⟨r', t⟩
  simp

theorem mapError_throws {g : ε → ε'} {e : ε'} : Throws (mapError g x) s e s' ↔ ∃ e', Throws x s e' s' ∧ g e' = e := by
  unfold Throws mapError
  rcases x s with ⟨e' | b, t⟩
  · simp only [Except.mapError, Prod.mk.injEq, Except.error.injEq]
    constructor
    · rintro ⟨he, rfl⟩
      exact ⟨e', ⟨rfl, rfl⟩, he⟩
    · rintro ⟨_, ⟨rfl, rfl⟩, he⟩
      exact ⟨he, rfl⟩
  · simp [Except.mapError]

theorem returns_get : Returns (get : Op σ ε σ) s s s := rfl

theorem returns_pure : Returns (pure a : Op σ ε α) s a s := rfl

theorem returns_modify {g : σ → σ} : Returns (modify g : Op σ ε PUnit) s ⟨⟩ (g s) := rfl

theorem returns_failIf {c : Prop} [Decidable c] (h : ¬ c) : Returns (failIf c e : Op σ ε PUnit) s ⟨⟩ s :=
  failIf_returns.2 ⟨h, rfl⟩

theorem throws_failIf {c : Prop} [Decidable c] (h : c) : Throws (failIf c e : Op σ ε PUnit) s e s :=
  failIf_throws.2 ⟨h, rfl, rfl⟩

theorem returns_orFail {o : Option α} (h : o = some a) : Returns (orFail o e : Op σ ε α) s a s :=
  orFail_returns.2 ⟨h, rfl⟩

theorem throws_orFail {o : Option α} (h : o = none) : Throws (orFail o e : Op σ ε α) s e s :=
  orFail_throws.2 ⟨h, rfl, rfl⟩

theorem Returns.bind (hx : Returns x s a s') {s₁ : σ} (hf : Returns (f a) s' b s₁) : Returns (x >>= f) s b s₁ :=
  bind_returns.2 ⟨a, s', hx, hf⟩

theorem Returns.bind_throws (hx : Returns x s a s') {s₁ : σ} (hf : Throws (f a) s' e s₁) : Throws (x >>= f) s e s₁ :=
  Op.bind_throws.2 (.inr ⟨a, s', hx, hf⟩)

theorem Throws.bind (hx : Throws x s e s') : Throws (x >>= f) s e s' := Op.bind_throws.2 (.inl hx)

/-- A run up to the end of its first part. -/
theorem bind_of_returns (h : Returns x s a s') : (x >>= f) s = f a s' := by
  show (match x s with | (.ok a, s) => f a s | (.error e, s) => (.error e, s)) = f a s'
  rw [h]

theorem bind_of_throws (h : Throws x s e s') : (x >>= f) s = (.error e, s') := by
  show (match x s with | (.ok a, s) => f a s | (.error e, s) => (.error e, s)) = (.error e, s')
  rw [h]

/-- A run whose result is passed on as `g` of it. -/
theorem bind_pure {g : α → β} : (x >>= fun a => pure (g a)) s = ((x s).1.map g, (x s).2) := by
  show (match x s with | (.ok a, s) => (Except.ok (g a), s) | (.error e, s) => (.error e, s)) = _
  rcases x s with ⟨_ | a, s'⟩ <;> rfl

/-- A run by its result. -/
theorem toOption_eq_some : (x s).1.toOption = some a ↔ ∃ s', Returns x s a s' := by
  unfold Returns
  rcases x s with ⟨_ | b, t⟩ <;> simp [Except.toOption]

end

/-! ## Frames -/

/-- The operation leaves `f` of the state alone. -/
def Keeps (f : σ → β) (x : Op σ ε α) : Prop := ∀ s, f (x s).2 = f s

namespace Keeps
variable {γ : Type} {f : σ → γ} {x : Op σ ε α} {k : α → Op σ ε β} {e : ε}

theorem run (hx : Keeps f x) {s s' : σ} {r : Except ε α} (h : x s = (r, s')) : f s' = f s := by
  have hs := hx s
  rwa [h] at hs

theorem bind (hx : Keeps f x) (hk : ∀ a, Keeps f (k a)) : Keeps f (x >>= k) := by
  intro s
  have hfst := hx s
  show f (match x s with | (.ok a, s) => k a s | (.error e, s) => (.error e, s)).2 = f s
  generalize x s = r at hfst
  obtain ⟨e | a, s₁⟩ := r
  · exact hfst
  · exact (hk a s₁).trans hfst

/-- Passing the result on touches nothing. -/
theorem of_map {g : α → β} (h : Keeps f (x >>= fun a => Pure.pure (g a))) : Keeps f x := by
  intro s
  have hs := h s
  rwa [bind_pure] at hs

/-- What is computed from a view that is left alone. -/
theorem comp (hx : Keeps f x) (g : γ → β) : Keeps (fun s => g (f s)) x := fun s => congrArg g (hx s)

theorem pure (a : α) : Keeps f (Pure.pure a : Op σ ε α) := fun _ => rfl

theorem get : Keeps f (Op.get : Op σ ε σ) := fun _ => rfl

theorem throw : Keeps f (Op.throw e : Op σ ε α) := fun _ => rfl

theorem lift {g : ε' → ε} {y : Except ε' α} : Keeps f (Op.lift g y) := fun _ => rfl

theorem modify {g : σ → σ} (h : ∀ s, f (g s) = f s) : Keeps f (Op.modify g : Op σ ε PUnit) := h

theorem mapError {g : ε → ε'} (hx : Keeps f x) : Keeps f (Op.mapError g x) := hx

theorem attempt (hx : Keeps f x) : Keeps f (Op.attempt x : Op σ ε' (Except ε α)) := hx

theorem failIf {c : Prop} [Decidable c] : Keeps f (Op.failIf c e : Op σ ε PUnit) := by
  unfold Op.failIf
  split
  · exact throw
  · exact pure _

theorem orFail {o : Option α} : Keeps f (Op.orFail o e : Op σ ε α) := by
  cases o with
  | none => exact throw
  | some a => exact pure a

end Keeps

/-- The operation preserves `P`, whether it returns or throws. -/
def Preserves (P : σ → Prop) (x : Op σ ε α) : Prop := ∀ s, P s → P (x s).2

namespace Preserves
variable {P : σ → Prop} {x : Op σ ε α} {k : α → Op σ ε β}

theorem bind (hx : Preserves P x) (hk : ∀ a, Preserves P (k a)) : Preserves P (x >>= k) := by
  intro s hs
  have hfst := hx s hs
  show P (match x s with | (.ok a, s) => k a s | (.error e, s) => (.error e, s)).2
  generalize x s = r at hfst
  obtain ⟨e | a, s₁⟩ := r
  · exact hfst
  · exact hk a s₁ hfst

theorem pure (a : α) : Preserves P (Pure.pure a : Op σ ε α) := fun _ hs => hs

theorem get : Preserves P (Op.get : Op σ ε σ) := fun _ hs => hs

theorem throw {e : ε} : Preserves P (Op.throw e : Op σ ε α) := fun _ hs => hs

theorem lift {g : ε' → ε} {y : Except ε' α} : Preserves P (Op.lift g y) := fun _ hs => hs

theorem mapError {g : ε → ε'} (hx : Preserves P x) : Preserves P (Op.mapError g x) := hx

theorem modify {g : σ → σ} (h : ∀ s, P s → P (g s)) : Preserves P (Op.modify g : Op σ ε PUnit) := h

theorem failIf {c : Prop} [Decidable c] {e : ε} : Preserves P (Op.failIf c e : Op σ ε PUnit) := by
  unfold Op.failIf
  split
  · exact throw
  · exact pure _

theorem orFail {o : Option α} {e : ε} : Preserves P (Op.orFail o e : Op σ ε α) := by
  cases o with
  | none => exact throw
  | some a => exact pure a

/-- What follows a lookup may use what `P` says of the entry. -/
theorem lookup {entry : σ → Option α} {e : ε} {k : σ → α → Op σ ε β}
    (h : ∀ s a, P s → entry s = some a → Preserves P (k s a)) :
    Preserves P (Op.get >>= fun s => Op.orFail (entry s) e >>= k s) := by
  intro s hs
  show P ((Op.orFail (entry s) e >>= k s) s).2
  cases hentry : entry s with
  | none => exact hs
  | some a => exact h s a hs hentry s hs

/-- A property of a view that is left alone. -/
theorem of_keeps {γ : Type} {f : σ → γ} (hx : Keeps f x) (hP : ∀ s s', f s' = f s → P s → P s') : Preserves P x :=
  fun s hs => hP s _ (hx s) hs

end Preserves

/-- A view is left alone if each of its values is preserved. -/
theorem Keeps.of_preserves {γ : Type} {f : σ → γ} {x : Op σ ε α} (h : ∀ v, Preserves (fun s => f s = v) x) :
    Keeps f x := fun s => h (f s) s rfl

/-! ## Effects -/

/-- Whatever the result, the states before and after the operation are related by `R`. -/
def Effects (R : σ → σ → Prop) (x : Op σ ε α) : Prop := ∀ s, R s (x s).2

namespace Effects
variable {R : σ → σ → Prop} {x : Op σ ε α}

theorem run (hx : Effects R x) {s s' : σ} {r : Except ε α} (h : x s = (r, s')) : R s s' := by
  have hs := hx s
  rwa [h] at hs

theorem pure (hR : ∀ s, R s s) (a : α) : Effects R (Pure.pure a : Op σ ε α) := hR

theorem throw (hR : ∀ s, R s s) (e : ε) : Effects R (Op.throw e : Op σ ε α) := hR

theorem of_keeps (hR : ∀ s, R s s) (hx : Keeps (fun s => s) x) : Effects R x := by
  intro s
  have hs : (x s).2 = s := hx s
  exact hs.symm ▸ hR s

/-- Computing something first has no effect. -/
theorem lift_bind (hR : ∀ s, R s s) {g : ε' → ε} {y : Except ε' α} {k : α → Op σ ε β}
    (hk : ∀ a, y = .ok a → Effects R (k a)) : Effects R (Op.lift g y >>= k) := by
  intro s
  cases y with
  | error e => exact hR s
  | ok a => exact hk a rfl s

theorem map (hx : Effects R x) (g : α → β) : Effects R (x >>= fun a => Pure.pure (g a)) := by
  intro s
  rw [bind_pure]
  exact hx s

theorem of_map {g : α → β} (h : Effects R (x >>= fun a => Pure.pure (g a))) : Effects R x := by
  intro s
  have hs := h s
  rwa [bind_pure] at hs

theorem mapError {g : ε → ε'} (hx : Effects R x) : Effects R (Op.mapError g x) := hx

end Effects

section
variable {τ : Type} {g : ε → ε'} {a : α} {s s' : σ × τ}

@[simp] theorem onFst_returns {x : Op σ ε α} :
    Returns (onFst g x) s a s' ↔ Returns x s.1 a s'.1 ∧ s.2 = s'.2 := by
  obtain ⟨s₁, s₂⟩ := s
  obtain ⟨s₁', s₂'⟩ := s'
  show ((x s₁).1.mapError g, (x s₁).2, s₂) = (.ok a, s₁', s₂') ↔ x s₁ = (.ok a, s₁') ∧ s₂ = s₂'
  rcases x s₁ with ⟨_ | b, t⟩ <;> simp [Except.mapError, and_assoc]

@[simp] theorem onSnd_returns {x : Op τ ε α} :
    Returns (onSnd g x) s a s' ↔ Returns x s.2 a s'.2 ∧ s.1 = s'.1 := by
  obtain ⟨s₁, s₂⟩ := s
  obtain ⟨s₁', s₂'⟩ := s'
  show ((x s₂).1.mapError g, s₁, (x s₂).2) = (.ok a, s₁', s₂') ↔ x s₂ = (.ok a, s₂') ∧ s₁ = s₁'
  rcases x s₂ with ⟨_ | b, t⟩
  · simp [Except.mapError]
  · simp only [Except.mapError, Prod.mk.injEq, Except.ok.injEq]
    tauto

theorem onFst_throws {x : Op σ ε α} {e : ε'} :
    Throws (onFst g x) s e s' ↔ (∃ e', Throws x s.1 e' s'.1 ∧ g e' = e) ∧ s.2 = s'.2 := by
  obtain ⟨s₁, s₂⟩ := s
  obtain ⟨s₁', s₂'⟩ := s'
  show ((x s₁).1.mapError g, (x s₁).2, s₂) = (.error e, s₁', s₂') ↔
    (∃ e', x s₁ = (.error e', s₁') ∧ g e' = e) ∧ s₂ = s₂'
  rcases x s₁ with ⟨e' | b, t⟩
  · simp only [Except.mapError, Prod.mk.injEq, Except.error.injEq]
    constructor
    · rintro ⟨he, rfl, rfl⟩
      exact ⟨⟨e', ⟨rfl, rfl⟩, he⟩, rfl⟩
    · rintro ⟨⟨_, ⟨rfl, rfl⟩, he⟩, rfl⟩
      exact ⟨he, rfl, rfl⟩
  · simp [Except.mapError]

theorem onSnd_throws {x : Op τ ε α} {e : ε'} :
    Throws (onSnd g x) s e s' ↔ (∃ e', Throws x s.2 e' s'.2 ∧ g e' = e) ∧ s.1 = s'.1 := by
  obtain ⟨s₁, s₂⟩ := s
  obtain ⟨s₁', s₂'⟩ := s'
  show ((x s₂).1.mapError g, s₁, (x s₂).2) = (.error e, s₁', s₂') ↔
    (∃ e', x s₂ = (.error e', s₂') ∧ g e' = e) ∧ s₁ = s₁'
  rcases x s₂ with ⟨e' | b, t⟩
  · simp only [Except.mapError, Prod.mk.injEq, Except.error.injEq]
    constructor
    · rintro ⟨he, rfl, rfl⟩
      exact ⟨⟨e', ⟨rfl, rfl⟩, he⟩, rfl⟩
    · rintro ⟨⟨_, ⟨rfl, rfl⟩, he⟩, rfl⟩
      exact ⟨he, rfl, rfl⟩
  · simp [Except.mapError]

theorem Returns.onFst {x : Op σ ε α} {s₁ s₁' : σ} (h : Returns x s₁ a s₁') (t : τ) :
    Returns (onFst g x) (s₁, t) a (s₁', t) := onFst_returns.2 ⟨h, rfl⟩

theorem Returns.onSnd {x : Op τ ε α} {t t' : τ} (h : Returns x t a t') (s₁ : σ) :
    Returns (onSnd g x) (s₁, t) a (s₁, t') := onSnd_returns.2 ⟨h, rfl⟩

end

end Op

end CasperProof
