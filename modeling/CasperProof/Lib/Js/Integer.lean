/-
  Integers in text — `parseInt`, `BigInt` of a string, and the decimal text of
  integral numbers.
-/
import CasperProof.Lib.Js.Number

namespace CasperProof.Js

/-- `WhiteSpace` and `LineTerminator` of ECMAScript. -/
def isWhite (c : CodeUnit) : Bool :=
  c.val ∈ [0x09, 0x0A, 0x0B, 0x0C, 0x0D, 0x20, 0xA0, 0x1680, 0x2028, 0x2029, 0x202F, 0x205F, 0x3000, 0xFEFF] ||
    0x2000 ≤ c.val && c.val ≤ 0x200A

/-- `trim`. -/
def trim (s : JsString) : JsString := ((s.dropWhile isWhite).reverse.dropWhile isWhite).reverse

/-- The text after an optional prefix. -/
def stripPrefix (p s : JsString) : JsString := if p.isPrefixOf s then s.drop p.length else s

/-- `Number.parseInt(s, 16)`, `none` for `NaN`. -/
def parseInt16 (s : JsString) : Option ℤ :=
  let s := s.dropWhile isWhite
  let sign : ℤ := if (lit "-").isPrefixOf s then -1 else 1
  let s := if (lit "-").isPrefixOf s then s.drop 1 else stripPrefix (lit "+") s
  let s := if (lit "0X").isPrefixOf s then s.drop 2 else stripPrefix (lit "0x") s
  let digits := (s.takeWhile fun c => (hexValue c).isSome).filterMap hexValue
  if digits = [] then none else some (sign * (digits.foldl (fun n d => 16 * n + d.val) 0 : ℕ))

/-- `0` to `9`, `a` to `f` and `A` to `F`. -/
def isHexDigit (c : CodeUnit) : Bool :=
  isDigit c || (0x61 ≤ c.val && c.val ≤ 0x66) || (0x41 ≤ c.val && c.val ≤ 0x46)

/-- One or more digits of the given radix. -/
def natOfDigits (radix : ℕ) (s : JsString) : Option ℕ :=
  if s ≠ [] ∧ s.all fun c => (hexValue c).any fun d => d.val < radix then
    some ((s.filterMap hexValue).foldl (fun n d => radix * n + d.val) 0)
  else none

/-- `BigInt(s)` of a string, `none` for a `SyntaxError`. -/
def bigInt (s : JsString) : Option ℤ :=
  let s := trim s
  if s = [] then some 0
  else if (lit "0x").isPrefixOf s || (lit "0X").isPrefixOf s then (natOfDigits 16 (s.drop 2)).map (↑)
  else if (lit "0o").isPrefixOf s || (lit "0O").isPrefixOf s then (natOfDigits 8 (s.drop 2)).map (↑)
  else if (lit "0b").isPrefixOf s || (lit "0B").isPrefixOf s then (natOfDigits 2 (s.drop 2)).map (↑)
  else if (lit "-").isPrefixOf s then (natOfDigits 10 (s.drop 1)).map fun n => -(n : ℤ)
  else (natOfDigits 10 (stripPrefix (lit "+") s)).map (↑)

/-- The integer with the fewest significant digits, at most `e` places zero,
    that reads back as the double `x`; the closest to `x` if there are two. -/
def shortest (x : ℕ) : ℕ → ℕ
  | 0 => x
  | e + 1 =>
    let low := x / 10 ^ (e + 1) * 10 ^ (e + 1)
    let high := low + 10 ^ (e + 1)
    if toDouble low = some (x : ℚ) ∧ toDouble high = some (x : ℚ) then
      if x - low < high - x then low
      else if high - x < x - low then high
      else if low / 10 ^ (e + 1) % 2 = 0 then low else high
    else if toDouble low = some (x : ℚ) then low
    else if toDouble high = some (x : ℚ) then high
    else shortest x e

/-- `Number::toString` of the integers that are written with digits only, from
    `0` up to `10²¹`; safe integers are written exactly. -/
def digitsText (n : JsNumber) : Option JsString :=
  match n.toInt? with
  | none => none
  | some i =>
    if 0 ≤ i ∧ i < 10 ^ 21 then
      some (decimal (if i ≤ maxSafeInteger then i.toNat else shortest i.toNat 21))
    else none

/-! ## `parseInt` of two code units -/

theorem hexValue_isSome (c : CodeUnit) : (hexValue c).isSome = isHexDigit c := by
  rw [Bool.eq_iff_iff]
  simp only [isHexDigit, isDigit, Bool.or_eq_true, Bool.and_eq_true, decide_eq_true_eq]
  unfold hexValue
  split_ifs with hdigit hlower hupper
  · simp [hdigit]
  · simp [hlower]
  · simp [hupper]
  · simp [hdigit, hlower, hupper]

def stripSign (s : JsString) : JsString := if (lit "-").isPrefixOf s then s.drop 1 else stripPrefix (lit "+") s

def stripRadix (s : JsString) : JsString := if (lit "0X").isPrefixOf s then s.drop 2 else stripPrefix (lit "0x") s

/-- Where `parseInt` looks for digits. -/
def hexBody (s : JsString) : JsString := stripRadix (stripSign (s.dropWhile isWhite))

/-- A text begins with a digit. -/
def Begins (s : JsString) : Prop := ∃ c t, s = c :: t ∧ isHexDigit c

theorem begins_cons {c : CodeUnit} {s : JsString} : Begins (c :: s) ↔ isHexDigit c := by
  constructor
  · rintro ⟨d, t, h, hd⟩
    obtain ⟨rfl, rfl⟩ := List.cons.inj h
    exact hd
  · intro hc
    exact ⟨c, s, rfl, hc⟩

theorem not_begins_nil : ¬ Begins [] := by
  rintro ⟨c, t, h, -⟩
  cases h

/-- One digit is enough, whatever comes after it. -/
theorem parseInt16_isSome (s : JsString) : (parseInt16 s).isSome ↔ Begins (hexBody s) := by
  have hparse : (parseInt16 s).isSome ↔
      ((hexBody s).takeWhile fun c => (hexValue c).isSome).filterMap hexValue ≠ [] := by
    rw [parseInt16, ← stripSign, ← stripRadix, ← hexBody]
    by_cases hnil : ((hexBody s).takeWhile fun c => (hexValue c).isSome).filterMap hexValue = []
    · simp [hnil]
    · rw [if_neg hnil]
      exact iff_of_true rfl hnil
  rw [hparse]
  cases hexBody s with
  | nil => simp [not_begins_nil]
  | cons c t =>
    rw [begins_cons, ← hexValue_isSome]
    cases hc : hexValue c with
    | none => simp [hc]
    | some d => simp [hc]

/-- `parseInt` makes a number of the two code units. -/
def ParsesPair (c d : CodeUnit) : Prop :=
  (isWhite c ∨ c = 0x2B ∨ c = minus) ∧ isHexDigit d ∨ isHexDigit c ∧ ¬ (c = 0x30 ∧ (d = 0x78 ∨ d = 0x58))

/-- A hexadecimal digit is neither skipped nor taken for a sign or a prefix. -/
theorem isHexDigit_spec {c : CodeUnit} (h : isHexDigit c) :
    isWhite c = false ∧ c ≠ 0x2B ∧ c ≠ minus ∧ c ≠ 0x78 ∧ c ≠ 0x58 := by
  have hne : ∀ n : CodeUnit, isHexDigit n = false → c ≠ n := by
    rintro n hn rfl
    rw [hn] at h
    cases h
  have hranges : (0x30 ≤ c.val ∧ c.val ≤ 0x39 ∨ 0x61 ≤ c.val ∧ c.val ≤ 0x66) ∨ 0x41 ≤ c.val ∧ c.val ≤ 0x46 := by
    simpa [isHexDigit, isDigit] using h
  refine ⟨?_, hne _ rfl, hne _ rfl, hne _ rfl, hne _ rfl⟩
  simp only [isWhite, List.mem_cons, List.not_mem_nil, or_false, Bool.or_eq_false_iff, decide_eq_false_iff_not,
    Bool.and_eq_false_iff]
  omega

theorem stripSign_cons (c : CodeUnit) (s : JsString) :
    stripSign (c :: s) = if c = 0x2B ∨ c = minus then s else c :: s := by
  have hminus : (lit "-").isPrefixOf (c :: s) = (minus == c) := Bool.and_true _
  have hplus : (lit "+").isPrefixOf (c :: s) = (0x2B == c) := Bool.and_true _
  rw [stripSign, stripPrefix, hminus, hplus]
  by_cases hm : c = minus
  · rw [if_pos (beq_iff_eq.2 hm.symm), if_pos (.inr hm)]
    rfl
  · rw [if_neg fun h => hm (beq_iff_eq.1 h).symm]
    by_cases hp : c = 0x2B
    · rw [if_pos (beq_iff_eq.2 hp.symm), if_pos (.inl hp)]
      rfl
    · rw [if_neg fun h => hp (beq_iff_eq.1 h).symm, if_neg fun h => h.elim hp hm]

theorem stripRadix_one (d : CodeUnit) : stripRadix [d] = [d] := by
  have hupper : (lit "0X").isPrefixOf [d] = false := Bool.and_false _
  have hlower : (lit "0x").isPrefixOf [d] = false := Bool.and_false _
  rw [stripRadix, stripPrefix, hupper, hlower]
  rfl

theorem stripRadix_two (c d : CodeUnit) :
    stripRadix [c, d] = if c = 0x30 ∧ (d = 0x78 ∨ d = 0x58) then [] else [c, d] := by
  have hprefix : ∀ x : CodeUnit, List.isPrefixOf [0x30, x] [c, d] = true ↔ c = 0x30 ∧ d = x := by
    intro x
    simp only [List.isPrefixOf, Bool.and_true, Bool.and_eq_true, beq_iff_eq]
    exact and_congr eq_comm eq_comm
  have hupper : (lit "0X").isPrefixOf [c, d] = true ↔ c = 0x30 ∧ d = 0x58 := hprefix 0x58
  have hlower : (lit "0x").isPrefixOf [c, d] = true ↔ c = 0x30 ∧ d = 0x78 := hprefix 0x78
  rw [stripRadix, stripPrefix]
  split_ifs with h₁ h₂ h₂ h₃ h₃
  · rfl
  · rw [hupper] at h₁
    exact absurd ⟨h₁.1, .inr h₁.2⟩ h₂
  · rfl
  · rw [hlower] at h₂
    exact absurd ⟨h₂.1, .inl h₂.2⟩ h₃
  · rw [hupper] at h₁
    rw [hlower] at h₂
    obtain ⟨hc, hd | hd⟩ := h₃
    · exact absurd ⟨hc, hd⟩ h₂
    · exact absurd ⟨hc, hd⟩ h₁
  · rfl

/-- What is skipped is no digit. -/
theorem begins_one (d : CodeUnit) : Begins (hexBody [d]) ↔ isHexDigit d := by
  rw [hexBody]
  by_cases hd : isWhite d
  · rw [List.dropWhile_cons_of_pos hd]
    refine iff_of_false not_begins_nil fun h => ?_
    rw [(isHexDigit_spec h).1] at hd
    cases hd
  · rw [List.dropWhile_cons_of_neg hd, stripSign_cons]
    split_ifs with hsign
    · refine iff_of_false not_begins_nil fun h => ?_
      exact hsign.elim (isHexDigit_spec h).2.1 (isHexDigit_spec h).2.2.1
    · rw [stripRadix_one, begins_cons]

/-- The pairs that make a number: a digit after white space or a sign, or a
    digit before anything. -/
theorem parseInt16_pair (c d : CodeUnit) : (parseInt16 [c, d]).isSome ↔ ParsesPair c d := by
  rw [parseInt16_isSome, ParsesPair]
  by_cases hskip : isWhite c ∨ c = 0x2B ∨ c = minus
  · have hnot : ¬ isHexDigit c := by
      intro h
      obtain ⟨hwhite, hplus, hminus, -⟩ := isHexDigit_spec h
      rcases hskip with hskip | hskip | hskip
      · rw [hwhite] at hskip
        cases hskip
      · exact hplus hskip
      · exact hminus hskip
    have hone : Begins (hexBody [c, d]) ↔ isHexDigit d := by
      by_cases hc : isWhite c
      · rw [← begins_one d, hexBody, List.dropWhile_cons_of_pos hc, ← hexBody]
      · rw [hexBody, List.dropWhile_cons_of_neg hc, stripSign_cons, if_pos (hskip.resolve_left hc), stripRadix_one,
          begins_cons]
    rw [hone]
    exact ⟨fun hd => .inl ⟨hskip, hd⟩, fun h => (h.resolve_right fun h => hnot h.1).2⟩
  · rw [not_or] at hskip
    rw [hexBody, List.dropWhile_cons_of_neg hskip.1, stripSign_cons, if_neg hskip.2, stripRadix_two]
    split_ifs with hprefix
    · exact iff_of_false not_begins_nil fun h => h.elim (fun h => h.1.elim hskip.1 hskip.2) fun h => h.2 hprefix
    · rw [begins_cons]
      exact ⟨fun hc => .inr ⟨hc, hprefix⟩, fun h => h.elim (fun h => (h.1.elim hskip.1 hskip.2).elim) And.left⟩

/-- A decimal digit as a hexadecimal one. -/
theorem hexValue_digit {c : CodeUnit} (h : isDigit c) :
    ∃ d : Fin 16, hexValue c = some d ∧ d.val = c.val - 0x30 ∧ d.val < 10 := by
  rw [isDigit, Bool.and_eq_true, decide_eq_true_eq, decide_eq_true_eq] at h
  exact ⟨⟨c.val - 0x30, by omega⟩, dif_pos h, rfl, by simp only; omega⟩

theorem natOfDigits_eq {s : JsString} (hne : s ≠ []) (h : ∀ c ∈ s, isDigit c) :
    natOfDigits 10 s = some (digitsValue s) := by
  have hall : s.all (fun c => (hexValue c).any fun d => d.val < 10) = true := by
    rw [List.all_eq_true]
    intro c hc
    obtain ⟨d, hd, -, hlt⟩ := hexValue_digit (h c hc)
    simpa [hd] using hlt
  have hfold : ∀ (s : JsString) (n : ℕ), (∀ c ∈ s, isDigit c) →
      (s.filterMap hexValue).foldl (fun n d => 10 * n + d.val) n = s.foldl (fun n c => 10 * n + (c.val - 0x30)) n := by
    intro s
    induction s with
    | nil => intro n _; rfl
    | cons c s ih =>
      intro n h
      obtain ⟨d, hd, hval, -⟩ := hexValue_digit (h c (List.mem_cons_self ..))
      rw [List.filterMap_cons_some hd, List.foldl_cons, List.foldl_cons, hval]
      exact ih _ fun c hc => h c (List.mem_cons_of_mem _ hc)
  rw [natOfDigits, if_pos ⟨hne, hall⟩, hfold s 0 h]
  rfl

theorem natOfDigits_decimal (n : ℕ) : natOfDigits 10 (decimal n) = some n := by
  rw [natOfDigits_eq (decimal_ne_nil n) (isDigit_decimal n), digitsValue_decimal]

theorem isPrefixOf_eq_false {p s : JsString} {c : CodeUnit} (hp : c ∈ p) (hs : c ∉ s) : p.isPrefixOf s = false := by
  rw [Bool.eq_false_iff]
  intro h
  exact hs ((List.isPrefixOf_iff_prefix.1 h).subset hp)

theorem trim_eq_self {s : JsString} (h : ∀ c ∈ s, isWhite c = false) : trim s = s := by
  have hdrop : ∀ {s : JsString}, (∀ c ∈ s, isWhite c = false) → s.dropWhile isWhite = s := by
    intro s h
    cases s with
    | nil => rfl
    | cons c s => exact List.dropWhile_cons_of_neg (by simp [h c (List.mem_cons_self ..)])
  rw [trim, hdrop h, hdrop fun c hc => h c (List.mem_reverse.1 hc), List.reverse_reverse]

theorem isWhite_digit {c : CodeUnit} (h : isDigit c) : isWhite c = false := by
  rw [isDigit, Bool.and_eq_true, decide_eq_true_eq, decide_eq_true_eq] at h
  simp only [isWhite, List.mem_cons, List.not_mem_nil, or_false, Bool.or_eq_false_iff, decide_eq_false_iff_not,
    Bool.and_eq_false_iff]
  omega

/-- A text without white space and radix prefixes: a sign and decimal digits. -/
theorem bigInt_plain {s : JsString} (hne : s ≠ []) (h : ∀ c ∈ s, c = minus ∨ isDigit c) : bigInt s =
    if (lit "-").isPrefixOf s then (natOfDigits 10 (s.drop 1)).map fun n => -(n : ℤ)
    else (natOfDigits 10 s).map (↑) := by
  have hwhite : ∀ c ∈ s, isWhite c = false := by
    intro c hc
    rcases h c hc with rfl | hc
    · decide
    · exact isWhite_digit hc
  have hprefix : ∀ p : JsString, (∃ c ∈ p, c ≠ minus ∧ isDigit c = false) → p.isPrefixOf s = false := by
    rintro p ⟨c, hc, hminus, hdigit⟩
    refine isPrefixOf_eq_false hc fun hs => ?_
    rcases h c hs with rfl | hs
    · exact hminus rfl
    · rw [hdigit] at hs
      cases hs
  have hplus : stripPrefix (lit "+") s = s := by
    rw [stripPrefix, hprefix (lit "+") ⟨0x2B, by decide, by decide, by decide⟩]
    rfl
  simp only [bigInt, trim_eq_self hwhite, if_neg hne, hprefix (lit "0x") ⟨0x78, by decide, by decide, by decide⟩,
    hprefix (lit "0X") ⟨0x58, by decide, by decide, by decide⟩,
    hprefix (lit "0o") ⟨0x6F, by decide, by decide, by decide⟩,
    hprefix (lit "0O") ⟨0x4F, by decide, by decide, by decide⟩,
    hprefix (lit "0b") ⟨0x62, by decide, by decide, by decide⟩,
    hprefix (lit "0B") ⟨0x42, by decide, by decide, by decide⟩, Bool.or_self, Bool.false_eq_true, if_false, hplus]

/-- `BigInt` of a string of digits. -/
theorem bigInt_digits {s : JsString} (hne : s ≠ []) (h : ∀ c ∈ s, isDigit c) : bigInt s = some (digitsValue s : ℤ) := by
  have hnot : minus ∉ s := fun hc => absurd (h _ hc) (by decide)
  have hminus : (lit "-").isPrefixOf s = false := isPrefixOf_eq_false (c := minus) (by decide) hnot
  rw [bigInt_plain hne fun c hc => .inr (h c hc), hminus, natOfDigits_eq hne h]
  rfl

/-- The characters of an integer's text. -/
theorem mem_intText {n : ℤ} {c : CodeUnit} (h : c ∈ intText n) : c = minus ∨ isDigit c := by
  unfold intText at h
  split at h
  · rcases List.mem_cons.1 h with rfl | h
    · exact .inl rfl
    · exact .inr (isDigit_decimal _ c h)
  · exact .inr (isDigit_decimal _ c h)

/-- **`BigInt` reads back** what it was printed as. -/
theorem bigInt_intText (n : ℤ) : bigInt (intText n) = some n := by
  by_cases hneg : n < 0
  · have htext : intText n = minus :: decimal n.natAbs := if_pos hneg
    have hminus : (lit "-").isPrefixOf (minus :: decimal n.natAbs) = true := rfl
    rw [bigInt_plain (by rw [htext]; exact List.cons_ne_nil _ _) fun _ => mem_intText, htext, if_pos hminus,
      List.drop_one, List.tail_cons, natOfDigits_decimal]
    exact congrArg some (by omega : -(n.natAbs : ℤ) = n)
  · have htext : intText n = decimal n.natAbs := if_neg hneg
    rw [htext, bigInt_digits (decimal_ne_nil _) (isDigit_decimal _), digitsValue_decimal]
    exact congrArg some (by omega : (n.natAbs : ℤ) = n)

/-- Only non-negative integers are written with digits only. -/
theorem digitsText_eq_some {n : JsNumber} {s : JsString} (h : digitsText n = some s) :
    ∃ i m : ℕ, n.toInt? = some (i : ℤ) ∧ s = decimal m ∧ (i ≤ maxSafeInteger → m = i) := by
  unfold digitsText at h
  cases hn : n.toInt? with
  | none => rw [hn] at h; cases h
  | some i =>
    rw [hn] at h
    simp only [Option.ite_none_right_eq_some, Option.some.injEq] at h
    obtain ⟨⟨hpos, -⟩, rfl⟩ := h
    obtain ⟨i, rfl⟩ := Int.eq_ofNat_of_zero_le hpos
    refine ⟨i, _, rfl, rfl, fun hle => ?_⟩
    exact if_pos (by exact_mod_cast hle)

end CasperProof.Js
