/-
  Journals — the status writes of a registry, and the lifecycle they follow.

  `Legal j` says that every write of the journal `j` is an edge of the
  lifecycle from the status that was last written for the same id.  A write
  computed from an outdated record breaks it.
-/
import CasperProof.Contracts.Registry

namespace CasperProof.Registry

/-- The status last written for `id`. -/
def lastStatus (id : U64) (j : List (U64 × AttestationStatus)) : Option AttestationStatus :=
  (j.reverse.find? fun e => e.1 = id).map Prod.snd

/-- The lifecycle of an attestation. -/
inductive Edge : Option AttestationStatus → AttestationStatus → Prop
  | submitted : Edge none .active
  | challenged : Edge (some .active) .challenged
  | finalized : Edge (some .active) .finalized
  | upheld : Edge (some .challenged) .finalized
  | slashed : Edge (some .challenged) .slashed

inductive Legal : List (U64 × AttestationStatus) → Prop
  | nil : Legal []
  | snoc {j id st} : Legal j → Edge (lastStatus id j) st → Legal (j ++ [(id, st)])

/-- No edge leaves these. -/
def isSettled : AttestationStatus → Bool
  | .slashed | .finalized => true
  | .active | .challenged => false

/-- The number of settling writes for `id`. -/
def settledWrites (id : U64) (j : List (U64 × AttestationStatus)) : ℕ :=
  j.countP fun e => decide (e.1 = id) && isSettled e.2

/-- An event of a call that settled `id`. -/
def Event.settles (id : U64) : Event → Bool
  | .resolved i _ _ _ _ | .finalized i _ _ => i = id
  | _ => false

/-- The number of times `id` was paid out by `resolve` or `finalize`. -/
def settledEvents (id : U64) (es : List Event) : ℕ := es.countP (Event.settles id)

variable {id i : U64} {j : List (U64 × AttestationStatus)} {st : AttestationStatus}

@[simp] theorem lastStatus_nil : lastStatus id [] = none := rfl

theorem lastStatus_snoc : lastStatus id (j ++ [(i, st)]) = if i = id then some st else lastStatus id j := by
  rw [lastStatus, List.reverse_append, List.reverse_singleton, List.singleton_append, List.find?_cons]
  by_cases h : i = id
  · simp [h]
  · simp [h, lastStatus]

theorem settledWrites_snoc : settledWrites id (j ++ [(i, st)]) =
    settledWrites id j + if i = id ∧ isSettled st then 1 else 0 := by
  simp [settledWrites, List.countP_append, List.countP_singleton]

theorem settledEvents_snoc {es : List Event} {e : Event} :
    settledEvents id (es ++ [e]) = settledEvents id es + if e.settles id then 1 else 0 := by
  simp [settledEvents, List.countP_append, List.countP_singleton]

theorem Edge.not_settled {o : Option AttestationStatus} (h : Edge o st) : o.elim false isSettled = false := by
  cases h <;> rfl

/-- **A legal journal settles every id at most once**, and then as its last
    write. -/
theorem Legal.settledWrites_eq (h : Legal j) (id : U64) :
    settledWrites id j = if (lastStatus id j).elim false isSettled then 1 else 0 := by
  induction h with
  | nil => rfl
  | @snoc j i st _ he ih =>
    rw [settledWrites_snoc, lastStatus_snoc, ih]
    by_cases hi : i = id
    · subst hi
      simp [he.not_settled]
    · simp [hi]

theorem Legal.settledWrites_le_one (h : Legal j) (id : U64) : settledWrites id j ≤ 1 := by
  rw [h.settledWrites_eq id]
  split <;> omega

end CasperProof.Registry
