/-
  The staked total of the mock backend — `stake` and `unstake`.

  An amount is whatever `BigInt` reads, also a negative integer.  Along a run
  the total does what it should exactly if no amount is negative
  (`total_sound_iff`).
-/
import CasperProof.Sdk.Rejection
import Mathlib.Algebra.Order.BigOperators.Group.List

namespace CasperProof.Sdk

open Js

variable {H : Type} {env : MockEnv H} {s s' : MockState H} {amount : JsString} {n : ℤ}

/-! ## The operations -/

/-- `stake` accepts what `BigInt` reads. -/
theorem stake_accepts (env : MockEnv H) (s : MockState H) (hn : bigInt amount = some n) :
    ∃ r s', (stake env amount).Returns s r s' ∧ s'.stakedTotal = s.stakedTotal + n := by
  obtain ⟨hash, hhash⟩ := deployHash_accepts (s := s.setStakedTotal (s.stakedTotal + n)) env (lit "stake")
    (stake_accepted amount)
  have hreturns : (stake env amount).Returns s ⟨hash, none, none⟩ _ :=
    (Op.returns_orFail hn).bind (Op.returns_modify.bind (hhash.bind Op.returns_pure))
  exact ⟨_, _, hreturns, rfl⟩

/-- `unstake` accepts what is in the total. -/
theorem unstake_accepts (env : MockEnv H) (hn : bigInt amount = some n) (hle : n ≤ s.stakedTotal) :
    ∃ r s', (unstake env amount).Returns s r s' ∧ s'.stakedTotal = s.stakedTotal - n := by
  obtain ⟨hash, hhash⟩ := deployHash_accepts (s := s.setStakedTotal (s.stakedTotal - n)) env (lit "unstake")
    (stake_accepted amount)
  have hreturns : (unstake env amount).Returns s ⟨hash, none, none⟩ _ :=
    (Op.returns_orFail hn).bind (Op.returns_get.bind ((Op.returns_failIf (not_lt.2 hle)).bind
      (Op.returns_modify.bind (hhash.bind Op.returns_pure))))
  exact ⟨_, _, hreturns, rfl⟩

theorem stake_unread (env : MockEnv H) (s : MockState H) (hn : bigInt amount = none) :
    (stake env amount).Throws s (.notBigInt amount) s := (Op.throws_orFail hn).bind

theorem unstake_unread (env : MockEnv H) (s : MockState H) (hn : bigInt amount = none) :
    (unstake env amount).Throws s (.notBigInt amount) s := (Op.throws_orFail hn).bind

theorem unstake_refused (env : MockEnv H) (hn : bigInt amount = some n) (hlt : s.stakedTotal < n) :
    (unstake env amount).Throws s (.insufficientStake (intText n) (intText s.stakedTotal)) s :=
  (Op.returns_orFail hn).bind_throws (Op.returns_get.bind_throws (Op.throws_failIf hlt).bind)

/-! ## Calls -/

namespace HandledCall
variable (c : HandledCall H)

/-- What the call staked. -/
def staked : ℤ :=
  match c.op, c.result with
  | .stake amount, .ok _ => (bigInt amount).getD 0
  | _, _ => 0

/-- What the call unstaked. -/
def unstaked : ℤ :=
  match c.op, c.result with
  | .unstake amount, .ok _ => (bigInt amount).getD 0
  | _, _ => 0

/-- The call stakes or unstakes this amount. -/
def Amounts (amount : JsString) : Prop := c.op = .stake amount ∨ c.op = .unstake amount

/-- The amount is no negative integer. -/
def NotNegative : Prop := ∀ amount n, c.Amounts amount → bigInt amount = some n → 0 ≤ n

/-- What the call may do to the total. -/
structure Sound (s s' : MockState H) : Prop where
  stake : ∀ amount r, c.op = .stake amount → c.result = .ok r → s.stakedTotal ≤ s'.stakedTotal
  unstake : ∀ amount r, c.op = .unstake amount → c.result = .ok r → s'.stakedTotal ≤ s.stakedTotal
  unread : ∀ amount, c.Amounts amount → bigInt amount = none → s'.stakedTotal = s.stakedTotal

end HandledCall

section
variable [DecidableEq H] {c : HandledCall H}

theorem Calls.stake_total (h : Calls s c s') (hop : c.op = .stake amount) :
    (∃ n r, bigInt amount = some n ∧ c.result = .ok r ∧ s'.stakedTotal = s.stakedTotal + n) ∨
      bigInt amount = none ∧ (∃ e, c.result = .error e) ∧ s' = s := by
  rw [Calls, hop] at h
  cases hn : bigInt amount with
  | some n =>
    obtain ⟨r, t, hreturns, htotal⟩ := stake_accepts c.env s hn
    obtain ⟨hresult, rfl⟩ := Prod.mk.inj (h.symm.trans (hreturns.bind Op.returns_pure))
    exact .inl ⟨n, _, rfl, hresult, htotal⟩
  | none =>
    obtain ⟨hresult, rfl⟩ := Prod.mk.inj (h.symm.trans (stake_unread c.env s hn).bind)
    exact .inr ⟨rfl, ⟨_, hresult⟩, rfl⟩

theorem Calls.unstake_total (h : Calls s c s') (hop : c.op = .unstake amount) :
    (∃ n r, bigInt amount = some n ∧ n ≤ s.stakedTotal ∧ c.result = .ok r ∧ s'.stakedTotal = s.stakedTotal - n) ∨
      (∀ n, bigInt amount = some n → s.stakedTotal < n) ∧ (∃ e, c.result = .error e) ∧ s' = s := by
  rw [Calls, hop] at h
  cases hn : bigInt amount with
  | some n =>
    rcases le_or_gt n s.stakedTotal with hle | hlt
    · obtain ⟨r, t, hreturns, htotal⟩ := unstake_accepts c.env hn hle
      obtain ⟨hresult, rfl⟩ := Prod.mk.inj (h.symm.trans (hreturns.bind Op.returns_pure))
      exact .inl ⟨n, _, rfl, hle, hresult, htotal⟩
    · obtain ⟨hresult, rfl⟩ := Prod.mk.inj (h.symm.trans (unstake_refused c.env hn hlt).bind)
      refine .inr ⟨?_, ⟨_, hresult⟩, rfl⟩
      intro m hm
      rwa [← Option.some.inj hm]
  | none =>
    obtain ⟨hresult, rfl⟩ := Prod.mk.inj (h.symm.trans (unstake_unread c.env s hn).bind)
    exact .inr ⟨fun _ hm => (nomatch hm), ⟨_, hresult⟩, rfl⟩

/-- **One call**: what it staked is added to the total, and what it unstaked
    taken off. -/
theorem Calls.total (h : Calls s c s') : s'.stakedTotal = s.stakedTotal + (c.staked - c.unstaked) := by
  cases hop : c.op with
  | stake amount =>
    rcases h.stake_total hop with ⟨n, r, hn, hresult, htotal⟩ | ⟨-, ⟨e, hresult⟩, rfl⟩
    · simp [HandledCall.staked, HandledCall.unstaked, hop, hresult, hn, htotal]
    · simp [HandledCall.staked, HandledCall.unstaked, hop, hresult]
  | unstake amount =>
    rcases h.unstake_total hop with ⟨n, r, hn, -, hresult, htotal⟩ | ⟨-, ⟨e, hresult⟩, rfl⟩
    · simp [HandledCall.staked, HandledCall.unstaked, hop, hresult, hn, htotal, sub_eq_add_neg]
    · simp [HandledCall.staked, HandledCall.unstaked, hop, hresult]
  | submitAttestation | getAttestation | attestationCount | attestorReputation | challenge | resolve | createPolicy
  | getPolicy | submitClaim | getRiskScore | subscribeEvents | unsubscribe =>
    have hkeeps : Op.Keeps MockState.stakedTotal (c.op.run c.env) := by
      refine MockOp.keeps_of_writes _ fun t t' hw => ?_
      rw [hop] at hw
      cases hw <;> rfl
    have hzero : c.staked - c.unstaked = 0 := by simp [HandledCall.staked, HandledCall.unstaked, hop]
    rw [hkeeps.run h, hzero, add_zero]

/-- A call whose amount is not negative does to the total what it may. -/
theorem Calls.sound (h : Calls s c s') (hc : c.NotNegative) : c.Sound s s' := by
  refine ⟨?_, ?_, ?_⟩
  · intro amount r hop hr
    rcases h.stake_total hop with ⟨n, -, hn, -, htotal⟩ | ⟨-, ⟨e, he⟩, -⟩
    · have hpos := hc amount n (.inl hop) hn
      omega
    · cases hr.symm.trans he
  · intro amount r hop hr
    rcases h.unstake_total hop with ⟨n, -, hn, -, -, htotal⟩ | ⟨-, ⟨e, he⟩, -⟩
    · have hpos := hc amount n (.inr hop) hn
      omega
    · cases hr.symm.trans he
  · rintro amount (hop | hop) hnone
    · rcases h.stake_total hop with ⟨n, -, hn, -⟩ | ⟨-, -, rfl⟩
      · cases hnone.symm.trans hn
      · rfl
    · rcases h.unstake_total hop with ⟨n, -, hn, -⟩ | ⟨-, -, rfl⟩
      · cases hnone.symm.trans hn
      · rfl

/-- No call with such an amount overdraws the total. -/
theorem Calls.nonneg (h : Calls s c s') (hc : c.NotNegative) (hs : 0 ≤ s.stakedTotal) : 0 ≤ s'.stakedTotal := by
  cases hop : c.op with
  | stake amount =>
    rcases h.stake_total hop with ⟨n, -, hn, -, htotal⟩ | ⟨-, -, rfl⟩
    · have hpos := hc amount n (.inl hop) hn
      omega
    · exact hs
  | unstake amount =>
    rcases h.unstake_total hop with ⟨n, -, -, hle, -, htotal⟩ | ⟨-, -, rfl⟩
    · omega
    · exact hs
  | submitAttestation | getAttestation | attestationCount | attestorReputation | challenge | resolve | createPolicy
  | getPolicy | submitClaim | getRiskScore | subscribeEvents | unsubscribe =>
    have htotal := h.total
    simp only [HandledCall.staked, HandledCall.unstaked, hop] at htotal
    omega

/-- A negative amount is accepted unless the total is below it, and then the
    total moves the wrong way. -/
theorem Calls.not_negative (h : Calls s c s') (hs : 0 ≤ s.stakedTotal) (hsound : c.Sound s s') : c.NotNegative := by
  rintro amount n (hop | hop) hn
  · rcases h.stake_total hop with ⟨m, r, hm, hr, htotal⟩ | ⟨hnone, -⟩
    · have hle := hsound.stake amount r hop hr
      obtain rfl := Option.some.inj (hn.symm.trans hm)
      omega
    · cases hn.symm.trans hnone
  · rcases h.unstake_total hop with ⟨m, r, hm, -, hr, htotal⟩ | ⟨hlt, -⟩
    · have hle := hsound.unstake amount r hop hr
      obtain rfl := Option.some.inj (hn.symm.trans hm)
      omega
    · have hn' := hlt n hn
      omega

/-! ## Runs -/

variable {cs : List (HandledCall H)}

/-- What holds of the total along a list of calls of a new backend. -/
structure TotalSound (cs : List (HandledCall H)) : Prop where
  nonneg : ∀ c₁ c₂ s, cs = c₁ ++ c₂ → Run Calls .fresh c₁ s → 0 ≤ s.stakedTotal
  calls : ∀ c₁ c c₂ s s', cs = c₁ ++ c :: c₂ → Run Calls .fresh c₁ s → Calls s c s' → c.Sound s s'
  covered : ∀ c₁ c₂, cs = c₁ ++ c₂ → (c₁.map HandledCall.unstaked).sum ≤ (c₁.map HandledCall.staked).sum

/-- The total is what was staked less what was unstaked. -/
theorem total_eq (h : Run Calls .fresh cs s) :
    s.stakedTotal = (cs.map HandledCall.staked).sum - (cs.map HandledCall.unstaked).sum := by
  have hsum := h.telescope MockState.stakedTotal (fun c => c.staked - c.unstaked) fun _ _ _ hc => hc.total
  have hadd : (cs.map fun c => c.staked - c.unstaked).sum + (cs.map HandledCall.unstaked).sum =
      (cs.map HandledCall.staked).sum := by
    rw [← List.sum_map_add]
    simp only [sub_add_cancel]
  rw [eq_sub_iff_add_eq, ← hadd, hsum]
  exact congrArg (· + _) (zero_add _)

theorem total_nonneg (h : Run Calls .fresh cs s) (hcs : ∀ c ∈ cs, c.NotNegative) : 0 ≤ s.stakedTotal :=
  h.inv_of_mem (P := fun t => 0 ≤ t.stakedTotal) le_rfl fun _ c _ hc hs hcall => hcall.nonneg (hcs c hc) hs

/-- **When the total does what it should**: no amount is negative. -/
theorem total_sound_iff (h : Run Calls .fresh cs s) : TotalSound cs ↔ ∀ c ∈ cs, c.NotNegative := by
  constructor
  · intro hsound c hc
    obtain ⟨c₁, c₂, rfl⟩ := List.append_of_mem hc
    obtain ⟨t, t', hrun, hcall, -⟩ := h.split_cons
    exact hcall.not_negative (hsound.nonneg c₁ _ t rfl hrun) (hsound.calls c₁ c c₂ t t' rfl hrun hcall)
  · intro hcs
    refine ⟨?_, ?_, ?_⟩
    · rintro c₁ c₂ t rfl hrun
      exact total_nonneg hrun fun c hc => hcs c (List.mem_append_left _ hc)
    · rintro c₁ c c₂ t t' rfl - hcall
      exact hcall.sound (hcs c (by simp))
    · rintro c₁ c₂ rfl
      obtain ⟨t, hrun, -⟩ := h.split
      have hpos := total_nonneg hrun fun c hc => hcs c (List.mem_append_left _ hc)
      rw [total_eq hrun] at hpos
      exact sub_nonneg.1 hpos

end

/-- Five motes staked, and three of them unstaked. -/
theorem five_staked_sound : ∃ (cs : List (HandledCall Unit)) (s : MockState Unit), Run Calls .fresh cs s ∧
    cs.map HandledCall.op = [.stake (lit "5"), .unstake (lit "3")] ∧
    (∀ c ∈ cs, c.result.toOption.isSome) ∧ s.stakedTotal = 2 ∧ TotalSound cs := by
  have hrun := (Run.single (demoCallAt_calls .fresh (.stake (lit "5")))).snoc
    (demoCallAt_calls _ (.unstake (lit "3")))
  refine ⟨_, _, hrun, rfl, by decide +kernel, by decide +kernel, (total_sound_iff hrun).2 ?_⟩
  have hfive : bigInt (lit "5") = some 5 := by decide +kernel
  have hthree : bigInt (lit "3") = some 3 := by decide +kernel
  intro c hc amount n hamount hn
  rcases List.mem_pair.1 hc with rfl | rfl
  · rcases hamount with hop | hop
    · cases hop
      obtain rfl := Option.some.inj (hfive.symm.trans hn)
      decide
    · cases hop
  · rcases hamount with hop | hop
    · cases hop
    · cases hop
      obtain rfl := Option.some.inj (hthree.symm.trans hn)
      decide

/-- Minus five motes are staked, and the total is below zero. -/
theorem negative_stake_accepted : ¬ ∀ (cs : List (HandledCall Unit)) (s : MockState Unit),
    Run Calls .fresh cs s → TotalSound cs := by
  intro h
  have hrun := Run.single (demoCallAt_calls .fresh (.stake (lit "-5")))
  have hnonneg := (h _ _ hrun).nonneg _ [] _ (List.append_nil _).symm hrun
  revert hnonneg
  decide +kernel

end CasperProof.Sdk
