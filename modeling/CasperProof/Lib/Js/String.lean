/-
  JavaScript strings and their JSON quotation.

  * A string is a list of UTF-16 code units; lone surrogates are allowed.
  * `quote`: `QuoteJSONString` of ECMAScript, which escapes lone surrogates.
  * `stringBody`: the JSON string literal up to its closing quote.
    `stringBody_escape`: it reads back what `quote` wrote.
-/
import Mathlib.Algebra.GroupWithZero.Nat
import Mathlib.Data.Fin.Basic
import Mathlib.Tactic.Common

namespace CasperProof.Js

/-- A UTF-16 code unit. -/
abbrev CodeUnit := Fin 65536

/-- For the literals of code units. -/
instance instNeZeroCodeUnit : NeZero 65536 := ⟨by decide⟩

abbrev JsString := List CodeUnit

/-- For `∈` on lists of strings. -/
instance instLawfulBEqJsString : LawfulBEq JsString := inferInstance

/-- The UTF-16 encoding of a scalar value. -/
def utf16 (c : Char) : JsString :=
  if c.toNat < 0x10000 then [Fin.ofNat 65536 c.toNat]
  else [Fin.ofNat 65536 (0xD800 + (c.toNat - 0x10000) / 0x400),
    Fin.ofNat 65536 (0xDC00 + (c.toNat - 0x10000) % 0x400)]

/-- A string of scalar values as JavaScript holds it. -/
def ofChars (cs : List Char) : JsString := cs.flatMap utf16

/-- A string literal. -/
def lit (s : String) : JsString := ofChars s.toList

def isLeading (c : CodeUnit) : Bool := 0xD800 ≤ c.val && c.val ≤ 0xDBFF

def isTrailing (c : CodeUnit) : Bool := 0xDC00 ≤ c.val && c.val ≤ 0xDFFF

abbrev quotation : CodeUnit := 0x22
abbrev backslash : CodeUnit := 0x5C

/-! ## Hexadecimal escapes -/

/-- A lowercase hexadecimal digit. -/
def hexDigit (d : Fin 16) : CodeUnit :=
  ⟨if d.val < 10 then 0x30 + d.val else 0x57 + d.val, by have := d.isLt; split <;> omega⟩

/-- The value of a hexadecimal digit of either case. -/
def hexValue (c : CodeUnit) : Option (Fin 16) :=
  if h : 0x30 ≤ c.val ∧ c.val ≤ 0x39 then some ⟨c.val - 0x30, by omega⟩
  else if h : 0x61 ≤ c.val ∧ c.val ≤ 0x66 then some ⟨c.val - 0x57, by omega⟩
  else if h : 0x41 ≤ c.val ∧ c.val ≤ 0x46 then some ⟨c.val - 0x37, by omega⟩
  else none

@[simp] theorem hexValue_hexDigit (d : Fin 16) : hexValue (hexDigit d) = some d := by
  revert d; decide

/-- The code unit written with four hexadecimal digits. -/
def hex4 (h₃ h₂ h₁ h₀ : CodeUnit) : Option CodeUnit := do
  let d₃ ← hexValue h₃
  let d₂ ← hexValue h₂
  let d₁ ← hexValue h₁
  let d₀ ← hexValue h₀
  some ⟨d₃.val * 4096 + d₂.val * 256 + d₁.val * 16 + d₀.val, by omega⟩

/-- `UnicodeEscape`. -/
def unicodeEscape (c : CodeUnit) : JsString :=
  [backslash, 0x75, hexDigit ⟨c.val / 4096, by omega⟩, hexDigit ⟨c.val / 256 % 16, by omega⟩,
    hexDigit ⟨c.val / 16 % 16, by omega⟩, hexDigit ⟨c.val % 16, by omega⟩]

/-! ## Quotation -/

/-- A code unit that is not part of a surrogate pair, quoted. -/
def escapeUnit (c : CodeUnit) : JsString :=
  if c = 0x08 then [backslash, 0x62]
  else if c = 0x09 then [backslash, 0x74]
  else if c = 0x0A then [backslash, 0x6E]
  else if c = 0x0C then [backslash, 0x66]
  else if c = 0x0D then [backslash, 0x72]
  else if c = quotation then [backslash, quotation]
  else if c = backslash then [backslash, backslash]
  else if c.val < 0x20 || isLeading c || isTrailing c then unicodeEscape c
  else [c]

/-- The quotation of a string, without the quotation marks. -/
def escape : JsString → JsString
  | [] => []
  | [c] => escapeUnit c
  | c :: d :: s =>
    if isLeading c && isTrailing d then c :: d :: escape s else escapeUnit c ++ escape (d :: s)

/-- `QuoteJSONString`. -/
def quote (s : JsString) : JsString := quotation :: escape s ++ [quotation]

/-- The escapes of one letter. -/
def simpleEscape (e : CodeUnit) : Option CodeUnit :=
  if e = quotation ∨ e = backslash ∨ e = 0x2F then some e
  else if e = 0x62 then some 0x08
  else if e = 0x66 then some 0x0C
  else if e = 0x6E then some 0x0A
  else if e = 0x72 then some 0x0D
  else if e = 0x74 then some 0x09
  else none

/-- A string literal after its opening quotation mark: its value and the text
    after the closing one. -/
def stringBody : JsString → Option (JsString × JsString)
  | [] => none
  | c :: s =>
    if c = quotation then some ([], s)
    else if c = backslash then
      match s with
      | [] => none
      | e :: s =>
        if e = 0x75 then
          match s with
          | h₃ :: h₂ :: h₁ :: h₀ :: s => do
            let u ← hex4 h₃ h₂ h₁ h₀
            let (us, rest) ← stringBody s
            some (u :: us, rest)
          | _ => none
        else do
          let u ← simpleEscape e
          let (us, rest) ← stringBody s
          some (u :: us, rest)
    else if c.val < 0x20 then none
    else do
      let (us, rest) ← stringBody s
      some (c :: us, rest)
termination_by structural s => s

theorem stringBody_quotation (s : JsString) : stringBody (quotation :: s) = some ([], s) := by
  rw [stringBody.eq_def]
  exact if_pos rfl

/-- A code unit that stands for itself. -/
theorem stringBody_plain {c : CodeUnit} (hq : c ≠ quotation) (hb : c ≠ backslash) (hc : 0x20 ≤ c.val)
    (s : JsString) : stringBody (c :: s) = (stringBody s).bind fun p => some (c :: p.1, p.2) := by
  rw [stringBody.eq_def]
  simp only [hq, hb, if_false, Nat.not_lt.2 hc]
  rfl

theorem stringBody_simple {e u : CodeUnit} (hu : simpleEscape e = some u) (he : e ≠ 0x75) (s : JsString) :
    stringBody (backslash :: e :: s) = (stringBody s).bind fun p => some (u :: p.1, p.2) := by
  rw [stringBody.eq_def]
  simp only [show backslash ≠ quotation by decide, if_false, if_true, he, hu]
  rfl

theorem stringBody_unicodeEscape (c : CodeUnit) (s : JsString) :
    stringBody (unicodeEscape c ++ s) = (stringBody s).bind fun p => some (c :: p.1, p.2) := by
  have hc : c.val / 4096 * 4096 + c.val / 256 % 16 * 256 + c.val / 16 % 16 * 16 + c.val % 16 = c.val := by
    omega
  simp only [unicodeEscape, List.cons_append, List.nil_append]
  rw [stringBody.eq_def]
  simp only [show backslash ≠ quotation by decide, if_false, if_true, hex4, hexValue_hexDigit,
    Option.bind_eq_bind, Option.bind_some, hc]

/-- Reading back one quoted code unit. -/
theorem stringBody_escapeUnit (c : CodeUnit) (s : JsString) :
    stringBody (escapeUnit c ++ s) = (stringBody s).bind fun p => some (c :: p.1, p.2) := by
  unfold escapeUnit
  split
  · rename_i h; subst h; exact stringBody_simple (by decide) (by decide) s
  split
  · rename_i h; subst h; exact stringBody_simple (by decide) (by decide) s
  split
  · rename_i h; subst h; exact stringBody_simple (by decide) (by decide) s
  split
  · rename_i h; subst h; exact stringBody_simple (by decide) (by decide) s
  split
  · rename_i h; subst h; exact stringBody_simple (by decide) (by decide) s
  split
  · rename_i h; subst h; exact stringBody_simple (by decide) (by decide) s
  split
  · rename_i h; subst h; exact stringBody_simple (by decide) (by decide) s
  split
  · exact stringBody_unicodeEscape c s
  · rename_i hq hb hc
    simp only [Bool.or_eq_true, decide_eq_true_eq, not_or, not_lt] at hc
    exact stringBody_plain hq hb hc.1.1 s

theorem isLeading_plain {c : CodeUnit} (h : isLeading c) : c ≠ quotation ∧ c ≠ backslash ∧ 0x20 ≤ c.val := by
  simp only [isLeading, Bool.and_eq_true, decide_eq_true_eq] at h
  refine ⟨?_, ?_, by omega⟩ <;> (rintro rfl; exact absurd h.1 (by decide))

theorem isTrailing_plain {c : CodeUnit} (h : isTrailing c) : c ≠ quotation ∧ c ≠ backslash ∧ 0x20 ≤ c.val := by
  simp only [isTrailing, Bool.and_eq_true, decide_eq_true_eq] at h
  refine ⟨?_, ?_, by omega⟩ <;> (rintro rfl; exact absurd h.1 (by decide))

/-- **A quoted string reads back as itself.** -/
theorem stringBody_escape (s rest : JsString) :
    stringBody (escape s ++ quotation :: rest) = some (s, rest) := by
  induction s using escape.induct with
  | case1 => exact stringBody_quotation rest
  | case2 c => rw [escape, stringBody_escapeUnit, stringBody_quotation]; rfl
  | case3 c d s hpair ih =>
    have hpair' := hpair
    simp only [Bool.and_eq_true] at hpair'
    obtain ⟨hq, hb, hc⟩ := isLeading_plain hpair'.1
    obtain ⟨hq', hb', hd⟩ := isTrailing_plain hpair'.2
    rw [escape, if_pos hpair, List.cons_append, List.cons_append, stringBody_plain hq hb hc,
      stringBody_plain hq' hb' hd, ih]
    rfl
  | case4 c d s hpair ih =>
    rw [escape, if_neg hpair, List.append_assoc, stringBody_escapeUnit, ih]
    rfl

end CasperProof.Js
