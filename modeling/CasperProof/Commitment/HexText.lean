/-
  What `fromHex` accepts.

  The text is read two code units at a time by `Number.parseInt`, which skips
  white space, takes a sign, and stops at what is no digit.  A text that is not
  hexadecimal is thus accepted if all its pairs begin like a number
  (`readsHex_iff`).
-/
import CasperProof.Commitment.Commitment

namespace CasperProof.Commitment

open Js

/-- The text without an optional `0x`. -/
def digitText (hex : JsString) : JsString := stripPrefix (lit "0x") hex

/-- The text is read in pairs. -/
def pairs : JsString → List (CodeUnit × CodeUnit)
  | c :: d :: s => (c, d) :: pairs s
  | _ => []

/-- An even number of hexadecimal digits, of either case. -/
def IsHex (hex : JsString) : Prop := (digitText hex).length % 2 = 0 ∧ ∀ c ∈ digitText hex, isHexDigit c

/-- A pair that is not hexadecimal, and that `parseInt` makes a number of. -/
def Lenient (p : CodeUnit × CodeUnit) : Prop := ParsesPair p.1 p.2 ∧ ¬ (isHexDigit p.1 ∧ isHexDigit p.2)

/-! ## Pairs of digits -/

section
variable {c d : CodeUnit} {x y : Fin 16}

/-- A digit in lower case. -/
theorem toLowerCase_hexValue (hc : hexValue c = some x) : toLowerCase [c] = [hexDigit x] := by
  rw [toLowerCase, List.map_singleton, List.singleton_inj]
  unfold hexValue at hc
  ext
  split_ifs at hc with h₁ h₂ h₃
  all_goals
    obtain rfl := Option.some.inj hc
    split <;> simp only [hexDigit] <;> split <;> omega

theorem parseInt16_hexValue (hc : hexValue c = some x) (hd : hexValue d = some y) :
    parseInt16 [c, d] = some ((16 * x.val + y.val : ℕ) : ℤ) := by
  have hhex : ∀ {c : CodeUnit} {x : Fin 16}, hexValue c = some x → isHexDigit c := by
    intro c x h
    rw [← hexValue_isSome, h]
    rfl
  obtain ⟨hwhite, hplus, hminus, -⟩ := isHexDigit_spec (hhex hc)
  obtain ⟨-, -, -, hlower, hupper⟩ := isHexDigit_spec (hhex hd)
  have hsign : (lit "-").isPrefixOf [c, d] = (minus == c) := Bool.and_true _
  have hdrop : [c, d].dropWhile isWhite = [c, d] := List.dropWhile_cons_of_neg (Bool.eq_false_iff.1 hwhite)
  have hstrip : stripRadix (stripSign [c, d]) = [c, d] := by
    rw [stripSign_cons, if_neg fun h => h.elim hplus hminus, stripRadix_two, if_neg fun h => h.2.elim hlower hupper]
  rw [parseInt16, ← stripSign, ← stripRadix, hdrop, hstrip, hsign, beq_eq_false_iff_ne.2 hminus.symm]
  simp [hc, hd]

/-- A byte is written as it was read, in lower case. -/
theorem hexByte_read (hc : hexValue c = some x) (hd : hexValue d = some y) :
    hexByte (UInt8.ofNat ((16 * x.val + y.val : ℕ) % 256 : ℤ).toNat) = toLowerCase [c, d] := by
  have hbyte : ∀ x y : Fin 16, hexByte (UInt8.ofNat ((16 * x.val + y.val : ℕ) % 256 : ℤ).toNat) =
      [hexDigit x, hexDigit y] := by decide +kernel
  have hcons : toLowerCase [c, d] = toLowerCase [c] ++ toLowerCase [d] := rfl
  rw [hbyte, hcons, toLowerCase_hexValue hc, toLowerCase_hexValue hd]
  rfl

end

/-! ## Texts -/

/-- A text is accepted if all its pairs are numbers. -/
theorem hexPairs_ok_iff (offset : ℕ) (s : JsString) :
    (∃ bs, hexPairs offset s = .ok bs) ↔ ∀ p ∈ pairs s, ParsesPair p.1 p.2 := by
  induction s using pairs.induct generalizing offset with
  | case1 c d s ih =>
    rw [pairs, List.forall_mem_cons, ← ih (offset + 2), ← parseInt16_pair, hexPairs]
    cases hp : parseInt16 [c, d] with
    | none => simp
    | some byte =>
      cases hexPairs (offset + 2) s with
      | error e => simp [bind, Except.bind]
      | ok bs => simp [bind, Except.bind, pure, Except.pure]
  | case2 s hs =>
    have hnil : hexPairs offset s = .ok [] ∧ pairs s = [] := by
      rcases s with - | ⟨c, - | ⟨d, s⟩⟩
      · exact ⟨rfl, rfl⟩
      · exact ⟨rfl, rfl⟩
      · exact (hs c d s rfl).elim
    rw [hnil.1, hnil.2]
    exact ⟨fun _ => List.forall_mem_nil _, fun _ => ⟨[], rfl⟩⟩

/-- The pairs of a text of even length have all its code units. -/
theorem forall_pairs {P : CodeUnit → Prop} {s : JsString} (heven : s.length % 2 = 0) :
    (∀ p ∈ pairs s, P p.1 ∧ P p.2) ↔ ∀ c ∈ s, P c := by
  induction s using pairs.induct with
  | case1 c d s ih =>
    have hrest : s.length % 2 = 0 := by
      rw [List.length_cons, List.length_cons] at heven
      omega
    rw [pairs, List.forall_mem_cons, List.forall_mem_cons, List.forall_mem_cons, ih hrest, and_assoc]
  | case2 s hs =>
    rcases s with - | ⟨c, - | ⟨d, s⟩⟩
    · simp [pairs]
    · cases heven
    · exact (hs c d s rfl).elim

/-- Digits read back in lower case. -/
theorem toHex_hexPairs {offset : ℕ} {s : JsString} (heven : s.length % 2 = 0) (hs : ∀ c ∈ s, isHexDigit c)
    {bs : Bytes} (h : hexPairs offset s = .ok bs) : toHex bs = toLowerCase s := by
  induction s using pairs.induct generalizing offset bs with
  | case1 c d s ih =>
    obtain ⟨hc, hd, hs⟩ : isHexDigit c ∧ isHexDigit d ∧ ∀ c ∈ s, isHexDigit c := by simpa using hs
    obtain ⟨x, hx⟩ := Option.isSome_iff_exists.1 ((hexValue_isSome c).trans hc)
    obtain ⟨y, hy⟩ := Option.isSome_iff_exists.1 ((hexValue_isSome d).trans hd)
    have hrest : s.length % 2 = 0 := by
      rw [List.length_cons, List.length_cons] at heven
      omega
    simp only [hexPairs, parseInt16_hexValue hx hy, bind_eq_ok, pure_eq_ok] at h
    obtain ⟨bs, hbs, rfl⟩ := h
    have hcons : toLowerCase (c :: d :: s) = toLowerCase [c, d] ++ toLowerCase s := rfl
    rw [toHex, List.flatMap_cons, ← toHex, hexByte_read hx hy, ih hrest hs hbs, hcons]
  | case2 s hsmall =>
    rcases s with - | ⟨c, - | ⟨d, s⟩⟩
    · cases h
      rfl
    · cases heven
    · exact (hsmall c d s rfl).elim

/-- What is claimed of a text: it is accepted if it is hexadecimal, and then its
    bytes are those digits. -/
structure ReadsHex (hex : JsString) : Prop where
  accepts : (∃ bs, fromHex hex = .ok bs) ↔ IsHex hex
  digits : ∀ bs, IsHex hex → fromHex hex = .ok bs → toHex bs = toLowerCase (digitText hex)

/-- An accepted text has no lenient pair: its length is odd, or one of its pairs
    is no number, or all are hexadecimal. -/
def Unambiguous (hex : JsString) : Prop :=
  (digitText hex).length % 2 = 0 → (∀ p ∈ pairs (digitText hex), ParsesPair p.1 p.2) →
    ∀ p ∈ pairs (digitText hex), ¬ Lenient p

theorem fromHex_ok_iff {hex : JsString} : (∃ bs, fromHex hex = .ok bs) ↔
    (digitText hex).length % 2 = 0 ∧ ∀ p ∈ pairs (digitText hex), ParsesPair p.1 p.2 := by
  rw [← hexPairs_ok_iff 0, fromHex, ← digitText]
  split_ifs with hodd
  · simp [hodd]
  · simp [not_not.1 hodd]

theorem parsesPair_of_hex {p : CodeUnit × CodeUnit} (h : isHexDigit p.1 ∧ isHexDigit p.2) : ParsesPair p.1 p.2 := by
  obtain ⟨-, -, -, hlower, hupper⟩ := isHexDigit_spec h.2
  exact .inr ⟨h.1, fun hprefix => hprefix.2.elim hlower hupper⟩

/-- **Which texts are read as hexadecimal**, and that all bytes come back from
    their text. -/
theorem readsHex_iff (hex : JsString) (bs : Bytes) :
    (ReadsHex hex ↔ Unambiguous hex) ∧ fromHex (toHex bs) = .ok bs := by
  refine ⟨?_, fromHex_toHex bs⟩
  constructor
  · intro hreads heven hparse p hp hlenient
    have hhex : IsHex hex := hreads.accepts.1 (fromHex_ok_iff.2 ⟨heven, hparse⟩)
    exact hlenient.2 ((forall_pairs heven).2 hhex.2 p hp)
  · intro hun
    refine ⟨?_, ?_⟩
    · rw [fromHex_ok_iff]
      constructor
      · rintro ⟨heven, hparse⟩
        refine ⟨heven, (forall_pairs heven).1 fun p hp => ?_⟩
        by_contra hnot
        exact hun heven hparse p hp ⟨hparse p hp, hnot⟩
      · rintro ⟨heven, hhex⟩
        exact ⟨heven, fun p hp => parsesPair_of_hex ((forall_pairs heven).2 hhex p hp)⟩
    · rintro bs ⟨heven, hhex⟩ hok
      rw [fromHex, ← digitText, if_neg (not_not.2 heven)] at hok
      exact toHex_hexPairs heven hhex hok

/-- `1g` is accepted, as the byte one. -/
theorem lenient_pair_accepted : ¬ ∀ hex, ReadsHex hex := by
  intro h
  have haccepts : IsHex (lit "1g") := (h (lit "1g")).accepts.1 ⟨[1], by decide +kernel⟩
  exact absurd (haccepts.2 0x67 (by decide)) (by decide)

end CasperProof.Commitment
