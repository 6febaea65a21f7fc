/-
  Reentrancy — a USDC token that calls back into the vault.

  * `NestedCall`: an entry-point call of the vault with the calls that the token
    makes on behalf of any accounts before and after its movement, each with
    nested calls of its own and its own view of the registry.
  * `Logged`: the token's state, with every movement and the call it was made
    for.
  * `Does u d`: what a piece of execution guarantees; `u p` is by how much the
    booked claims of `p` outgrow the paid ones, and `d a` by how much what is
    left of the amounts that `a` staked outgrows its position.  Every entry
    point books before it pays, and is paid before it books, so that neither is
    ever negative, and both are zero between calls.
-/
import CasperProof.Contracts.Vault
import Mathlib.Algebra.Ring.Int.Defs

namespace CasperProof.Insurance

variable {τ : Type}

/-- A movement of the token, and the call it was made for. -/
structure LogEntry where
  caller : Address
  call : Call
  move : Move

/-- A token state with all movements so far, oldest first. -/
structure Logged (τ : Type) where
  chain : τ
  log : List LogEntry

mutual

/-- An entry-point call, with what it reads from the registry and the calls
    nested in it. -/
inductive NestedCall where
  | mk (caller : Address) (reg : Address → U64 → Except Revert Attestation) (call : Call) (nested : Nested)

/-- The nested calls of one call, in order, before or after the movement of its
    token call. -/
inductive Nested where
  | done
  | run (after : Bool) (call : NestedCall) (rest : Nested)

end

/-- The token `t` as a call of `caller` sees it, with the calls it makes before
    and after the movement.  Reading a balance has no effect. -/
def hookRef (t : Cep18 τ) (me caller : Address) (call : Call)
    (hook : Bool → State (Logged τ) → Except Revert (State (Logged τ))) : UsdcRef (State (Logged τ)) where
  transferFrom _ owner _ n s := do
    let s ← hook false s
    let chain ← t.transferFrom me owner me n s.token.chain
    hook true (s.setToken ⟨chain, s.token.log ++ [⟨caller, call, .pull owner n.val⟩]⟩)
  transfer _ recipient n s := do
    let s ← hook false s
    let chain ← t.transfer me recipient n s.token.chain
    hook true (s.setToken ⟨chain, s.token.log ++ [⟨caller, call, .pay recipient n.val⟩]⟩)
  balanceOf a s := t.balanceOf s.token.chain a

mutual

/-- Run a call at block time `now`; a revert anywhere reverts everything. -/
def NestedCall.exec (t : Cep18 τ) (me : Address) (now : U64) :
    NestedCall → State (Logged τ) → Except Revert (State (Logged τ))
  | .mk caller reg call nested, s =>
    call.run (hookRef t me caller call fun after => nested.exec t me now after) reg ⟨caller, me, now⟩ s

/-- Run the nested calls before or after the movement. -/
def Nested.exec (t : Cep18 τ) (me : Address) (now : U64) (after : Bool) :
    Nested → State (Logged τ) → Except Revert (State (Logged τ))
  | .done, s => pure s
  | .run after' call rest, s =>
    if after' = after then do
      let s ← call.exec t me now s
      rest.exec t me now after s
    else rest.exec t me now after s

end

/-! ## The accounts of the log -/

namespace LogEntry

/-- A payment for a claim of the policy `p`. -/
def paysFor (p : U64) (e : LogEntry) : Bool :=
  match e.call, e.move with
  | .claim policyId _ _, .pay _ _ => policyId = p
  | _, _ => false

/-- What `a` stakes by the movement. -/
def stakedBy (a : Address) (e : LogEntry) : ℕ :=
  match e.call with
  | .stake _ => e.move.pulledFrom a
  | _ => 0

/-- What `a` withdraws by the movement. -/
def withdrawnBy (a : Address) (e : LogEntry) : ℕ :=
  match e.call with
  | .unstake _ => e.move.paidTo a
  | _ => 0

/-- The change of the claims booked but not paid. -/
def settles (e : LogEntry) (p : U64) : ℤ := -if e.paysFor p then 1 else 0

/-- The change of what is left of the amounts staked. -/
def net (e : LogEntry) (a : Address) : ℤ := e.stakedBy a - e.withdrawnBy a

end LogEntry

/-- The number of payments for `p`. -/
def paid (p : U64) (log : List LogEntry) : ℕ := log.countP (LogEntry.paysFor p)

/-- The total that `a` staked. -/
def staked (a : Address) (log : List LogEntry) : ℕ := (log.map (LogEntry.stakedBy a)).sum

/-- The total that `a` withdrew. -/
def withdrawn (a : Address) (log : List LogEntry) : ℕ := (log.map (LogEntry.withdrawnBy a)).sum

/-- The claims of `p` booked but not paid. -/
def unpaid (p : U64) (s : State (Logged τ)) : ℤ :=
  (if (s.policies.get p).any fun policy => policy.status = .claimed then 1 else 0) - paid p s.token.log

/-- What `a` staked and did not withdraw, beyond its position. -/
def slack (a : Address) (s : State (Logged τ)) : ℤ :=
  staked a s.token.log - withdrawn a s.token.log - (s.positions.getD a 0).val

/-- The id that a purchase was given. -/
def Event.purchase : Event → Option U64
  | .policyPurchased id _ _ _ _ => some id
  | _ => none

def purchases (es : List Event) : List U64 := es.filterMap Event.purchase

/-- The policy that a purchase event announces is stored under its id. -/
def Stored (s : State τ) (e : Event) : Prop :=
  ∀ id holder coverage premium expiry, e = .policyPurchased id holder coverage premium expiry →
    ∃ policy, s.policies.get id = some policy ∧ policy.holder = holder ∧ policy.coverage = coverage ∧
      policy.premium = premium ∧ policy.expiry = expiry

/-- What holds wherever a nested call may be made. -/
structure Sound (s : State (Logged τ)) : Prop where
  balanced : Balanced s
  ownId : ∀ i policy, s.policies.get i = some policy → policy.id = i
  stored : ∀ e ∈ s.events, Stored s e
  ids : (purchases s.events).Nodup
  unpaid : ∀ p, 0 ≤ unpaid p s
  slack : ∀ a, 0 ≤ slack a s
  withdrawn : ∀ l, l <+: s.token.log → ∀ a, withdrawn a l ≤ staked a l

/-- From `s` to `s'` the unpaid claims grow by `u` and the slack by `d`. -/
structure Does (u : U64 → ℤ) (d : Address → ℤ) (s s' : State (Logged τ)) : Prop where
  sound : Sound s'
  unpaid : ∀ p, unpaid p s' = unpaid p s + u p
  slack : ∀ a, slack a s' = slack a s + d a

/-- The movement pays no more than what was booked. -/
structure Room (e : LogEntry) (s : State (Logged τ)) : Prop where
  claim : ∀ p, e.paysFor p → 0 < unpaid p s
  position : ∀ a, (e.withdrawnBy a : ℤ) ≤ slack a s

/-- Execution that changes nothing on the whole. -/
def Harmless (ex : State (Logged τ) → Except Revert (State (Logged τ))) : Prop :=
  ∀ {s s'}, Sound s → ex s = .ok s' → Does 0 0 s s'

/-- A token that moves what was requested for a call, and is otherwise
    `Harmless`. -/
structure HarmlessToken (caller : Address) (call : Call) (tok : UsdcRef (State (Logged τ))) : Prop where
  pull : ∀ {n owner recipient} {amount : U256} {s s'}, Sound s →
    tok.transferFrom n owner recipient amount s = .ok s' →
      Does (LogEntry.settles ⟨caller, call, .pull owner amount.val⟩)
        (LogEntry.net ⟨caller, call, .pull owner amount.val⟩) s s'
  pay : ∀ {n recipient} {amount : U256} {s s'}, Sound s → Room ⟨caller, call, .pay recipient amount.val⟩ s →
    tok.transfer n recipient amount s = .ok s' →
      Does (LogEntry.settles ⟨caller, call, .pay recipient amount.val⟩)
        (LogEntry.net ⟨caller, call, .pay recipient amount.val⟩) s s'

section
variable {s s₁ s₂ s' : State (Logged τ)} {u u₁ u₂ : U64 → ℤ} {d d₁ d₂ : Address → ℤ} {e : LogEntry} {p : U64}
  {policy : Policy}

theorem Does.refl (h : Sound s) : Does 0 0 s s := ⟨h, by simp, by simp⟩

theorem Does.trans (h : Does u₁ d₁ s s₁) (h' : Does u₂ d₂ s₁ s₂) : Does (u₁ + u₂) (d₁ + d₂) s s₂ :=
  ⟨h'.sound, fun p => by rw [h'.unpaid, h.unpaid, add_assoc, Pi.add_apply],
    fun a => by rw [h'.slack, h.slack, add_assoc, Pi.add_apply]⟩

/-- Execution that is neutral on the whole. -/
theorem Does.neutral (h : Does u d s s₁) (hu : ∀ p, u p = 0) (hd : ∀ a, d a = 0) : Does 0 0 s s₁ := by
  obtain rfl : u = 0 := funext hu
  obtain rfl : d = 0 := funext hd
  exact h

/-- One movement. -/
theorem log_does (hs : Sound s) (hroom : Room e s) (chain : τ) :
    Does e.settles e.net s (s.setToken ⟨chain, s.token.log ++ [e]⟩) := by
  have hunpaid : ∀ p, unpaid p (s.setToken ⟨chain, s.token.log ++ [e]⟩) = unpaid p s + e.settles p := by
    intro p
    simp only [unpaid, paid, State.setToken_policies, State.setToken_token, List.countP_append, List.countP_singleton,
      LogEntry.settles]
    split <;> split <;> (push_cast; omega)
  have hslack : ∀ a, slack a (s.setToken ⟨chain, s.token.log ++ [e]⟩) = slack a s + e.net a := by
    intro a
    simp only [slack, staked, withdrawn, State.setToken_positions, State.setToken_token, List.map_append,
      List.sum_append, List.map_singleton, List.sum_singleton, LogEntry.net]
    push_cast
    omega
  have hnet : ∀ a, 0 ≤ slack a s + e.net a := by
    intro a
    have := hroom.position a
    simp only [LogEntry.net]
    omega
  refine ⟨⟨⟨hs.balanced.fresh, hs.balanced.positions⟩, hs.ownId, hs.stored, hs.ids, fun p => ?_, fun a => ?_, ?_⟩,
    hunpaid, hslack⟩
  · rw [hunpaid, LogEntry.settles]
    split
    · rename_i hpays
      have := hroom.claim p hpays
      omega
    · simpa using hs.unpaid p
  · rw [hslack]
    exact hnet a
  · intro l hl a
    rcases List.prefix_concat_iff.1 hl with rfl | hl
    · have hleft := hnet a
      rw [← hslack] at hleft
      simp only [slack, State.setToken_token, State.setToken_positions] at hleft
      omega
    · exact hs.withdrawn l hl a

theorem emit_does (hs : Sound s) {e : Event} (he : e.purchase = none) : Does 0 0 s (s.emit e) := by
  refine ⟨⟨⟨hs.balanced.fresh, hs.balanced.positions⟩, hs.ownId, ?_, ?_, hs.unpaid, hs.slack, hs.withdrawn⟩,
    fun p => (add_zero _).symm, fun a => (add_zero _).symm⟩
  · intro e' hmem
    rcases List.mem_append.1 hmem with hmem | hmem
    · exact hs.stored e' hmem
    · rw [List.mem_singleton] at hmem
      rintro id holder coverage premium expiry rfl
      rw [← hmem] at he
      cases he
  · simpa [purchases, he] using hs.ids

/-- Booking a claim. -/
theorem book_does (hs : Sound s) (hget : s.policies.get p = some policy) (hst : policy.status = .active) :
    Does (fun q => if q = p then 1 else 0) 0 s (s.setPolicy p (claimedPolicy policy)) := by
  have hlt := hs.balanced.stored_lt hget
  have hunpaid : ∀ q, unpaid q (s.setPolicy p (claimedPolicy policy)) = unpaid q s + if q = p then 1 else 0 := by
    intro q
    simp only [unpaid, State.setPolicy_policies, State.setPolicy_token, Mapping.get_set]
    by_cases hq : q = p
    · subst hq
      simp [hget, hst, claimedPolicy]
      omega
    · simp [hq]
  refine ⟨⟨⟨fun i hi => ?_, hs.balanced.positions⟩, fun i policy' hget' => ?_, fun e he => ?_, hs.ids, fun q => ?_,
    hs.slack, hs.withdrawn⟩, hunpaid, fun a => (add_zero _).symm⟩
  · have hne : i ≠ p := fun h => absurd hlt (not_lt.2 (h ▸ hi))
    rw [State.setPolicy_policies, Mapping.get_set_ne _ _ hne]
    exact hs.balanced.fresh i hi
  · rw [State.setPolicy_policies, Mapping.get_set] at hget'
    by_cases hi : i = p
    · subst hi
      rw [if_pos rfl] at hget'
      cases hget'
      exact hs.ownId i policy hget
    · rw [if_neg hi] at hget'
      exact hs.ownId i policy' hget'
  · intro id holder coverage premium expiry heq
    obtain ⟨policy', hget', hfields⟩ := hs.stored e he id holder coverage premium expiry heq
    rw [State.setPolicy_policies, Mapping.get_set]
    by_cases hid : id = p
    · subst hid
      cases hget.symm.trans hget'
      exact ⟨claimedPolicy policy, if_pos rfl, hfields⟩
    · exact ⟨policy', by rw [if_neg hid]; exact hget', hfields⟩
  · rw [hunpaid]
    have := hs.unpaid q
    split <;> omega

/-- Booking a position. -/
theorem position_does (hs : Sound s) (a : Address) (pos total : U256)
    (htotal : total.val + (s.positions.getD a 0).val = s.totalStaked.val + pos.val)
    (hle : (pos.val : ℤ) ≤ slack a s + (s.positions.getD a 0).val) :
    Does 0 (fun b => if b = a then (s.positions.getD a 0).val - pos.val else 0) s
      ((s.setPosition a pos).setTotalStaked total) := by
  have hslack : ∀ b, slack b ((s.setPosition a pos).setTotalStaked total) =
      slack b s + if b = a then ((s.positions.getD a 0).val : ℤ) - pos.val else 0 := by
    intro b
    simp only [slack, State.setTotalStaked_token, State.setPosition_token, State.setTotalStaked_positions,
      State.setPosition_positions, Mapping.getD_set]
    by_cases hb : b = a
    · subst hb
      simp
    · simp [hb]
  have hbalanced : Balanced ((s.setPosition a pos).setTotalStaked total) :=
    hs.balanced.setPosition rfl rfl rfl htotal
  refine ⟨⟨hbalanced, hs.ownId, hs.stored, hs.ids, hs.unpaid, fun b => ?_, hs.withdrawn⟩,
    fun p => (add_zero _).symm, hslack⟩
  rw [hslack]
  have := hs.slack b
  by_cases hb : b = a
  · subst hb
    rw [if_pos rfl]
    omega
  · rw [if_neg hb]
    omega

/-- The next id was not handed out yet. -/
theorem Sound.next_id (hs : Sound s) : s.policyCount ∉ purchases s.events := by
  intro hmem
  obtain ⟨e, he, hid⟩ := List.mem_filterMap.1 hmem
  cases e with
  | policyPurchased id holder coverage premium expiry =>
    cases hid
    obtain ⟨policy, hget, -⟩ := hs.stored _ he _ _ _ _ _ rfl
    rw [hs.balanced.fresh _ le_rfl] at hget
    cases hget
  | claimPaid => cases hid
  | staked => cases hid
  | unstaked => cases hid

/-- Storing a new policy under the next id. -/
theorem store_does {env : CallEnv} {coverage premium : U256} {triggerTypes : List String} {expiry count : U64}
    (hs : Sound s) (hcount : count.val = s.policyCount.val + 1) :
    Does 0 0 s (((s.setPolicy s.policyCount (newPolicy env coverage triggerTypes expiry premium
      s.policyCount)).setPolicyCount count).emit
        (.policyPurchased s.policyCount env.caller coverage premium expiry)) := by
  have hfresh := hs.balanced.fresh _ le_rfl
  have hkept : ∀ i policy, s.policies.get i = some policy → (s.policies.set s.policyCount (newPolicy env coverage
      triggerTypes expiry premium s.policyCount)).get i = some policy := by
    intro i policy hget
    rw [Mapping.get_set_ne _ _ (hs.balanced.stored_lt hget).ne]
    exact hget
  have hunpaid : ∀ p, unpaid p (((s.setPolicy s.policyCount (newPolicy env coverage triggerTypes expiry premium
      s.policyCount)).setPolicyCount count).emit (.policyPurchased s.policyCount env.caller coverage premium expiry)) =
      unpaid p s := by
    intro p
    simp only [unpaid, State.emit_policies, State.setPolicyCount_policies, State.setPolicy_policies, State.emit_token,
      State.setPolicyCount_token, State.setPolicy_token, Mapping.get_set]
    by_cases hp : p = s.policyCount
    · subst hp
      simp [hfresh, newPolicy]
    · rw [if_neg hp]
  refine ⟨⟨⟨fun i hi => ?_, hs.balanced.positions⟩, fun i policy hget => ?_, fun e he => ?_, ?_, fun p => ?_, hs.slack,
    hs.withdrawn⟩, fun p => (hunpaid p).trans (add_zero _).symm, fun a => (add_zero _).symm⟩
  · simp only [State.emit_policyCount, State.setPolicyCount_policyCount, Fin.le_def] at hi
    have hne : i ≠ s.policyCount := by
      rintro rfl
      omega
    show (s.policies.set _ _).get i = none
    rw [Mapping.get_set_ne _ _ hne]
    exact hs.balanced.fresh i (by rw [Fin.le_def]; omega)
  · replace hget : (s.policies.set _ _).get i = some policy := hget
    rw [Mapping.get_set] at hget
    by_cases hi : i = s.policyCount
    · rw [if_pos hi] at hget
      cases hget
      exact hi.symm
    · rw [if_neg hi] at hget
      exact hs.ownId i policy hget
  · rcases List.mem_append.1 he with he | he
    · intro id holder coverage' premium' expiry' heq
      obtain ⟨policy, hget, hfields⟩ := hs.stored e he id holder coverage' premium' expiry' heq
      exact ⟨policy, hkept id policy hget, hfields⟩
    · rw [List.mem_singleton] at he
      rintro id holder coverage' premium' expiry' rfl
      cases he
      exact ⟨_, Mapping.get_set_self .., rfl, rfl, rfl, rfl⟩
  · have hsnoc : purchases (s.events ++ [.policyPurchased s.policyCount env.caller coverage premium expiry]) =
        purchases s.events ++ [s.policyCount] := List.filterMap_append
    show (purchases (s.events ++ [.policyPurchased s.policyCount env.caller coverage premium expiry])).Nodup
    rw [hsnoc]
    exact hs.ids.append (List.nodup_singleton _) (List.disjoint_singleton.2 hs.next_id)
  · rw [hunpaid]
    exact hs.unpaid p

end

/-! ## The entry points with a harmless token -/

section
variable {env : CallEnv} {reg : Address → U64 → Except Revert Attestation} {tok : UsdcRef (State (Logged τ))}
  {s s' : State (Logged τ)}

theorem buyPolicy_does {coverage : U256} {triggerTypes : List String} {expiry id : U64}
    (ht : HarmlessToken env.caller (.buyPolicy coverage triggerTypes expiry) tok) (hs : Sound s)
    (h : buyPolicy tok env coverage triggerTypes expiry s = .ok (id, s')) : Does 0 0 s s' := by
  obtain ⟨a, s₁, count, bps, -, -, -, hp, rfl, hcount, rfl⟩ := buyPolicy_ok.1 h
  have h₁ := ht.pull hs hp
  refine (h₁.trans (store_does h₁.sound hcount)).neutral (fun p => ?_) fun a => ?_
  · simp [LogEntry.settles, LogEntry.paysFor]
  · simp [LogEntry.net, LogEntry.stakedBy, LogEntry.withdrawnBy]

/-- The claim is booked before it is paid: a nested claim finds the policy
    claimed. -/
theorem claim_does {policyId attestationId : U64} {triggerType : String}
    (ht : HarmlessToken env.caller (.claim policyId attestationId triggerType) tok) (hs : Sound s)
    (h : claim tok reg env policyId attestationId triggerType s = .ok s') : Does 0 0 s s' := by
  obtain ⟨policy, s₁, hget, hcl, hp, rfl⟩ := claim_ok.1 h
  have h₁ := book_does hs hget hcl.active
  have hroom : Room ⟨env.caller, .claim policyId attestationId triggerType, .pay policy.holder policy.coverage.val⟩
      (s.setPolicy policyId (claimedPolicy policy)) := by
    constructor
    · intro p hpays
      obtain rfl : policyId = p := by simpa [LogEntry.paysFor] using hpays
      have hnew := h₁.unpaid policyId
      have := hs.unpaid policyId
      rw [if_pos rfl] at hnew
      omega
    · intro a
      simpa [LogEntry.withdrawnBy] using h₁.sound.slack a
  have h₂ := h₁.trans (ht.pay h₁.sound hroom hp)
  refine (h₂.trans (emit_does h₂.sound rfl)).neutral (fun p => ?_) fun a => ?_
  · by_cases hp : p = policyId
    · simp [hp, LogEntry.settles, LogEntry.paysFor]
    · simp [hp, Ne.symm hp, LogEntry.settles, LogEntry.paysFor]
  · simp [LogEntry.net, LogEntry.stakedBy, LogEntry.withdrawnBy]

/-- The stake arrives before the position is booked. -/
theorem stake_does {amount : U256} (ht : HarmlessToken env.caller (.stake amount) tok) (hs : Sound s)
    (h : stake tok env amount s = .ok s') : Does 0 0 s s' := by
  obtain ⟨a, s₁, pos, total, -, -, hp, hpos, htotal, rfl⟩ := stake_ok.1 h
  have h₁ := ht.pull hs hp
  have hleft : (amount.val : ℤ) ≤ slack env.caller s₁ := by
    have hnew := h₁.slack env.caller
    have := hs.slack env.caller
    simp [LogEntry.net, LogEntry.stakedBy, LogEntry.withdrawnBy, Move.pulledFrom] at hnew
    omega
  have h₂ := h₁.trans (position_does h₁.sound env.caller pos total (by omega) (by omega))
  refine (h₂.trans (emit_does h₂.sound rfl)).neutral (fun p => ?_) fun b => ?_
  · simp [LogEntry.settles, LogEntry.paysFor]
  · by_cases hb : b = env.caller
    · simp [hb, hpos, LogEntry.net, LogEntry.stakedBy, LogEntry.withdrawnBy, Move.pulledFrom]
    · simp [hb, Ne.symm hb, LogEntry.net, LogEntry.stakedBy, LogEntry.withdrawnBy, Move.pulledFrom]

/-- The position is booked before the stake leaves. -/
theorem unstake_does {amount : U256} (ht : HarmlessToken env.caller (.unstake amount) tok) (hs : Sound s)
    (h : unstake tok env amount s = .ok s') : Does 0 0 s s' := by
  obtain ⟨a, s₁, rest, total, -, -, -, hrest, htotal, hp, rfl⟩ := unstake_ok.1 h
  have hslack := hs.slack env.caller
  have h₁ := position_does hs env.caller rest total (by omega) (by omega)
  have hroom : Room ⟨env.caller, .unstake amount, .pay env.caller amount.val⟩
      ((s.setPosition env.caller rest).setTotalStaked total) := by
    constructor
    · intro p hpays
      simp [LogEntry.paysFor] at hpays
    · intro b
      have hnew := h₁.slack b
      have := hs.slack b
      by_cases hb : b = env.caller
      · subst hb
        rw [if_pos rfl] at hnew
        simp only [LogEntry.withdrawnBy, Move.paidTo, if_true]
        omega
      · rw [if_neg hb] at hnew
        simp only [LogEntry.withdrawnBy, Move.paidTo, if_neg (Ne.symm hb)]
        omega
  have h₂ := h₁.trans (ht.pay h₁.sound hroom hp)
  refine (h₂.trans (emit_does h₂.sound rfl)).neutral (fun p => ?_) fun b => ?_
  · simp [LogEntry.settles, LogEntry.paysFor]
  · by_cases hb : b = env.caller
    · subst hb
      simp [LogEntry.net, LogEntry.stakedBy, LogEntry.withdrawnBy, Move.paidTo]
      omega
    · simp [hb, Ne.symm hb, LogEntry.net, LogEntry.stakedBy, LogEntry.withdrawnBy, Move.paidTo]

theorem call_does {c : Call} (ht : HarmlessToken env.caller c tok) (hs : Sound s)
    (h : c.run tok reg env s = .ok s') : Does 0 0 s s' := by
  cases c with
  | buyPolicy coverage triggerTypes expiry =>
    simp only [Call.run, bind_eq_ok, pure_eq_ok] at h
    obtain ⟨⟨id, s''⟩, h, rfl⟩ := h
    exact buyPolicy_does ht hs h
  | claim policyId attestationId triggerType => exact claim_does ht hs h
  | stake amount => exact stake_does ht hs h
  | unstake amount => exact unstake_does ht hs h

end

/-! ## Nested execution -/

section
variable {t : Cep18 τ} {me caller : Address} {call : Call} {now : U64}
  {hook : Bool → State (Logged τ) → Except Revert (State (Logged τ))} {s s' : State (Logged τ)} {e : LogEntry}

theorem Room.of_does (h : Room e s) (hd : Does 0 0 s s') : Room e s' := by
  constructor
  · intro p hpays
    have := h.claim p hpays
    rw [hd.unpaid]
    simpa using this
  · intro a
    have := h.position a
    rw [hd.slack]
    simpa using this

/-- A movement between two harmless executions. -/
theorem between_does {chain : τ} (hb : Harmless (hook false)) (ha : Harmless (hook true)) (hs : Sound s)
    (hroom : Room e s) {s₁ : State (Logged τ)} (h₁ : hook false s = .ok s₁)
    (h₂ : hook true (s₁.setToken ⟨chain, s₁.token.log ++ [e]⟩) = .ok s') : Does e.settles e.net s s' := by
  have d₁ := hb hs h₁
  have d₂ := log_does d₁.sound (hroom.of_does d₁) chain
  simpa using d₁.trans (d₂.trans (ha d₂.sound h₂))

/-- Harmless hooks make a harmless token. -/
theorem hookRef_harmless (hh : ∀ after, Harmless (hook after)) :
    HarmlessToken caller call (hookRef t me caller call hook) where
  pull hs h := by
    simp only [hookRef, bind_eq_ok] at h
    obtain ⟨s₁, h₁, chain, -, h₂⟩ := h
    refine between_does (hh false) (hh true) hs ⟨fun p hpays => ?_, fun a => ?_⟩ h₁ h₂
    · cases call <;> simp [LogEntry.paysFor] at hpays
    · have := hs.slack a
      cases call <;> simpa [LogEntry.withdrawnBy, Move.paidTo] using this
  pay hs hroom h := by
    simp only [hookRef, bind_eq_ok] at h
    obtain ⟨s₁, h₁, chain, -, h₂⟩ := h
    exact between_does (hh false) (hh true) hs hroom h₁ h₂

mutual

/-- **Nested execution is harmless.** -/
theorem NestedCall.harmless (c : NestedCall) : Harmless (c.exec t me now) := by
  cases c with
  | mk caller reg call nested =>
    intro s s' hs h
    have ht : HarmlessToken (CallEnv.mk caller me now).caller call
        (hookRef t me caller call fun after => nested.exec t me now after) := hookRef_harmless nested.harmless
    rw [NestedCall.exec] at h
    exact call_does ht hs h

theorem Nested.harmless (n : Nested) (after : Bool) : Harmless (n.exec t me now after) := by
  cases n with
  | done =>
    intro s s' hs h
    cases h
    exact .refl hs
  | run after' call rest =>
    intro s s' hs h
    rw [Nested.exec] at h
    split at h
    · obtain ⟨s₁, h₁, h₂⟩ := bind_eq_ok.1 h
      have d₁ := call.harmless hs h₁
      simpa using d₁.trans (rest.harmless after d₁.sound h₂)
    · exact rest.harmless after hs h

end

end

/-! ## Runs with a reentrant token -/

inductive NestedLabel where
  | call (now : U64) (c : NestedCall)
  | token

/-- A completed call with everything nested in it, or any change of the token
    state by others. -/
inductive NestedStep (t : Cep18 τ) (me : Address) : State (Logged τ) → NestedLabel → State (Logged τ) → Prop
  | call {s now c s'} : c.exec t me now s = .ok s' → NestedStep t me s (.call now c) s'
  | token {s chain} : NestedStep t me s .token (s.setToken ⟨chain, s.token.log⟩)

/-- A vault just initialised. -/
def NestedInitial (s : State (Logged τ)) : Prop :=
  ∃ usdcToken registry premiumBps claimModelId chain,
    init usdcToken registry premiumBps claimModelId (State.deployed (Logged.mk chain [])) = .ok s

/-- What reentrancy must not break. -/
structure VaultSafe (s : State (Logged τ)) : Prop where
  /-- each policy is paid at most once -/
  once : ∀ p, paid p s.token.log ≤ 1
  /-- no two purchases got the same id, and no purchase was overwritten -/
  ids : (purchases s.events).Nodup ∧ (∀ i policy, s.policies.get i = some policy → policy.id = i) ∧
    ∀ e ∈ s.events, Stored s e
  /-- the total stake is the sum of the positions -/
  total : s.totalStaked.val = s.positions.sum Fin.val
  /-- at no time had anyone withdrawn more than it had staked -/
  withdrawn : ∀ l, l <+: s.token.log → ∀ a, withdrawn a l ≤ staked a l

/-- The invariant between calls. -/
structure Quiescent (s : State (Logged τ)) : Prop where
  sound : Sound s
  unpaid : ∀ p, unpaid p s = 0
  slack : ∀ a, slack a s = 0

section
variable {t : Cep18 τ} {me : Address} {s s₀ s' : State (Logged τ)} {a : NestedLabel} {ls : List NestedLabel}

theorem NestedInitial.quiescent (h : NestedInitial s) : Quiescent s := by
  obtain ⟨usdcToken, registry, premiumBps, claimModelId, chain, hi⟩ := h
  obtain ⟨-, rfl⟩ := init_ok.1 hi
  refine ⟨⟨⟨fun _ _ => rfl, ?_⟩, fun i policy hget => ?_, fun e he => ?_, List.nodup_nil, fun p => le_rfl,
    fun b => le_rfl, fun l hl b => ?_⟩, fun p => rfl, fun b => rfl⟩
  · show 0 = (Mapping.empty : Mapping Address U256).sum Fin.val
    rw [Mapping.sum_empty]
  · cases hget
  · cases he
  · rw [List.prefix_nil.1 hl]
    exact le_rfl

theorem NestedStep.quiescent (hs : Quiescent s) (h : NestedStep t me s a s') : Quiescent s' := by
  cases h with
  | call h =>
    have hdoes := NestedCall.harmless _ hs.sound h
    exact ⟨hdoes.sound, fun p => by rw [hdoes.unpaid, hs.unpaid]; rfl, fun b => by rw [hdoes.slack, hs.slack]; rfl⟩
  | token =>
    have hsound := hs.sound
    exact ⟨⟨⟨hsound.balanced.fresh, hsound.balanced.positions⟩, hsound.ownId, hsound.stored, hsound.ids, hsound.unpaid,
      hsound.slack, hsound.withdrawn⟩, hs.unpaid, hs.slack⟩

theorem Sound.once (hs : Sound s) (p : U64) : paid p s.token.log ≤ 1 := by
  have := hs.unpaid p
  simp only [Insurance.unpaid] at this
  split at this <;> omega

/-- **Reentrancy.**  Whatever calls of the vault the token makes, after every
    run each policy was paid at most once, ids are unique, the total stake is the
    sum of the positions, and nobody ever withdrew more than it had staked. -/
theorem vault_reentrancy_safe (h₀ : NestedInitial s₀) (h : Run (NestedStep t me) s₀ ls s) : VaultSafe s := by
  have hs : Sound s := (h.inv h₀.quiescent fun _ _ _ hs hstep => hstep.quiescent hs).sound
  exact ⟨hs.once, ⟨hs.ids, hs.ownId, hs.stored⟩, hs.balanced.positions, hs.withdrawn⟩

end

/-! ## A concrete run -/

def demoNestedState : State (Logged Cep18State) :=
  { State.deployed ⟨demoUsdc, []⟩ with
    usdcToken := some (.contract 5)
    registry := some (.contract 9)
    premiumBps := 500
    claimModelId := some "casperproof-claimoracle-v1" }

theorem demo_nestedInitial : NestedInitial demoNestedState :=
  ⟨.contract 5, .contract 9, 500, "casperproof-claimoracle-v1", demoUsdc, rfl⟩

def demoCall (call : Call) (nested : Nested) : NestedCall := .mk demoHolder (fun _ _ => .ok demoBacking) call nested

/-- A claim whose payment first withdraws some of the stake and stakes more
    afterwards. -/
def demoNestedClaim : NestedCall :=
  demoCall (.claim 0 0 "oracle_failure")
    (.run false (demoCall (.unstake 100) .done) (.run true (demoCall (.stake 50) .done) .done))

/-- Run top-level calls one after the other. -/
def execNested (t : Cep18 τ) (me : Address) :
    List (U64 × NestedCall) → State (Logged τ) → Except Revert (State (Logged τ))
  | [], s => pure s
  | (now, c) :: rest, s => do
    let s ← c.exec t me now s
    execNested t me rest s

theorem execNested_run {t : Cep18 τ} {me : Address} {cs : List (U64 × NestedCall)} {s s' : State (Logged τ)}
    (h : execNested t me cs s = .ok s') : Run (NestedStep t me) s (cs.map fun p => .call p.1 p.2) s' := by
  induction cs generalizing s with
  | nil => cases h; exact .nil
  | cons p rest ih =>
    obtain ⟨s₁, h₁, h₂⟩ := bind_eq_ok.1 h
    exact (Run.single (.call h₁)).append (ih h₂)

def demoNestedRun : List (U64 × NestedCall) :=
  [(1, demoCall (.stake 300) .done), (2, demoCall (.buyPolicy 101 ["oracle_failure"] 1000) .done), (3, demoNestedClaim)]

theorem vault_reentrancy_safe_demo : ∃ s, Run (NestedStep Cep18.basic demoVault) demoNestedState
    (demoNestedRun.map fun p => .call p.1 p.2) s ∧ paid 0 s.token.log = 1 ∧ VaultSafe s := by
  have hout : (execNested Cep18.basic demoVault demoNestedRun demoNestedState).toOption.map
      (fun s => paid 0 s.token.log) = some 1 := by decide +kernel
  obtain ⟨s, hs, hpaid⟩ := Option.map_eq_some_iff.1 hout
  have hrun := execNested_run (toOption_eq_some.1 hs)
  exact ⟨s, hrun, hpaid, vault_reentrancy_safe demo_nestedInitial hrun⟩

end CasperProof.Insurance
