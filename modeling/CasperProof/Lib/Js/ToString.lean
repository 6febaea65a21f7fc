/-
  `ToString` of ECMAScript, for numbers and JSON data.

  * `numberText`: `Number::toString`, the shortest decimal that reads back as
    the number.
  * `valueText`: arrays are joined, objects are `[object Object]`; an own
    property `toString` hides the method, and the conversion is a `TypeError`.
    `valueText_isSome`: the values that have a text.
-/
import CasperProof.Lib.Js.Integer
import CasperProof.Lib.Js.Object
import Mathlib.Data.List.DropRight

namespace CasperProof.Js

open Json (keys)

/-! ## Numbers -/

/-- The number of units `10 ^ e` that reads back as the double `x`; the closest
    if there are two, and of these the even one. -/
def unitsAt (x : ℚ) (e : ℤ) : Option ℕ :=
  let low := ⌊x / 10 ^ e⌋₊
  let high := low + 1
  if toDouble (low * 10 ^ e) = some x ∧ toDouble (high * 10 ^ e) = some x then
    if x - low * 10 ^ e < high * 10 ^ e - x then some low
    else if high * 10 ^ e - x < x - low * 10 ^ e then some high
    else if low % 2 = 0 then some low else some high
  else if toDouble (low * 10 ^ e) = some x then some low
  else if toDouble (high * 10 ^ e) = some x then some high
  else none

/-- The digits and the exponent of the shortest decimal that reads back as `x`,
    among those with at most the given number of places below `10 ^ e`. -/
def shortestDecimal (x : ℚ) : ℕ → ℤ → ℕ × ℤ
  | 0, e => (⌊x / 10 ^ e⌋₊, e)
  | places + 1, e =>
    match unitsAt x e with
    | some s => (s, e)
    | none => shortestDecimal x places (e - 1)

/-- The text of a positive number. -/
def magnitudeText (x : ℚ) : JsString :=
  let (s, e) := shortestDecimal x 17 (Int.log 10 x)
  let digits := (decimal s).rdropWhile (· = 0x30)
  let k := digits.length
  let n : ℤ := (decimal s).length + e
  if k ≤ n ∧ n ≤ 21 then digits ++ List.replicate (n - k).toNat 0x30
  else if 0 < n ∧ n ≤ 21 then digits.take n.toNat ++ lit "." ++ digits.drop n.toNat
  else if -6 < n ∧ n ≤ 0 then lit "0." ++ List.replicate (-n).toNat 0x30 ++ digits
  else digits.take 1 ++ (if k = 1 then [] else lit "." ++ digits.drop 1) ++
    (if n - 1 < 0 then lit "e-" else lit "e+") ++ decimal (n - 1).natAbs

def numberText : JsNumber → JsString
  | .real q => if q = 0 then lit "0" else if q < 0 then minus :: magnitudeText (-q) else magnitudeText q
  | .negZero => lit "0"
  | .posInf => lit "Infinity"
  | .negInf => lit "-Infinity"
  | .nan => lit "NaN"

/-! ### Safe integers -/

section
variable {n : ℕ}

/-- A multiple of a power of ten that reads back as a safe integer is that integer. -/
theorem unitsAt_eq_some (hn : n ≤ maxSafeInteger) {e s : ℕ} (h : unitsAt n e = some s) : s * 10 ^ e = n := by
  have hread : ∀ {m : ℕ}, toDouble (m * 10 ^ (e : ℤ)) = some (n : ℚ) → m * 10 ^ e = n := by
    intro m hm
    refine toDouble_eq_nat hn ?_
    rw [Nat.cast_mul, Nat.cast_pow, Nat.cast_ofNat, ← zpow_natCast]
    exact hm
  simp only [unitsAt] at h
  split_ifs at h with hboth hlow hhigh heven hlow hhigh
  · exact Option.some.inj h ▸ hread hboth.1
  · exact Option.some.inj h ▸ hread (by exact_mod_cast hboth.2)
  · exact Option.some.inj h ▸ hread hboth.1
  · exact Option.some.inj h ▸ hread (by exact_mod_cast hboth.2)
  · exact Option.some.inj h ▸ hread hlow
  · exact Option.some.inj h ▸ hread (by exact_mod_cast hhigh)

/-- The integer itself reads back. -/
theorem unitsAt_zero (hn : n ≤ maxSafeInteger) : unitsAt n (0 : ℕ) ≠ none := by
  have hlow : toDouble ((⌊(n : ℚ) / 10 ^ ((0 : ℕ) : ℤ)⌋₊ : ℚ) * 10 ^ ((0 : ℕ) : ℤ)) = some (n : ℚ) := by
    simpa using toDouble_nat hn
  simp only [unitsAt, hlow, true_and]
  split_ifs <;> exact Option.some_ne_none _

theorem shortestDecimal_nat (hn : n ≤ maxSafeInteger) {places e : ℕ} (hle : e < places) :
    ∃ s k : ℕ, shortestDecimal n places e = (s, (k : ℤ)) ∧ s * 10 ^ k = n := by
  induction e generalizing places with
  | zero =>
    obtain ⟨places, rfl⟩ := Nat.exists_eq_succ_of_ne_zero hle.ne'
    rw [shortestDecimal]
    cases h : unitsAt n (0 : ℕ) with
    | none => exact absurd h (unitsAt_zero hn)
    | some s => exact ⟨s, 0, rfl, unitsAt_eq_some hn h⟩
  | succ e ih =>
    obtain ⟨places, rfl⟩ := Nat.exists_eq_succ_of_ne_zero (Nat.ne_zero_of_lt hle)
    rw [shortestDecimal]
    cases h : unitsAt n (e + 1 : ℕ) with
    | none =>
      rw [show ((e + 1 : ℕ) : ℤ) - 1 = (e : ℤ) by omega]
      exact ih (Nat.lt_of_succ_lt_succ hle)
    | some s => exact ⟨s, e + 1, rfl, unitsAt_eq_some hn h⟩

/-- A factor `10 ^ k` is written as zeros. -/
theorem decimal_mul_pow {s : ℕ} (hs : 0 < s) (k : ℕ) : decimal (s * 10 ^ k) = decimal s ++ List.replicate k 0x30 := by
  have hpos : s * 10 ^ k ≠ 0 := Nat.mul_ne_zero hs.ne' (by positivity)
  rw [decimal, if_neg hpos, decimal, if_neg hs.ne', mul_comm, Nat.digits_base_pow_mul (by decide) hs,
    List.reverse_append, List.map_append, List.reverse_replicate, List.map_replicate]
  rfl

/-- Trailing zeros that are stripped may be put back. -/
theorem rdropWhile_zeros (ds : JsString) :
    ∃ k, ds = ds.rdropWhile (· = 0x30) ++ List.replicate k 0x30 := by
  have hzeros : ds.rtakeWhile (· = 0x30) = List.replicate (ds.rtakeWhile (· = 0x30)).length 0x30 := by
    rw [List.eq_replicate_iff]
    exact ⟨rfl, fun c hc => by simpa using List.mem_rtakeWhile_imp hc⟩
  exact ⟨_, by rw [← hzeros, List.rdropWhile_append_rtakeWhile]⟩

/-- **The text of a safe integer** is its digits. -/
theorem numberText_nat (hn : n ≤ maxSafeInteger) : numberText (.real n) = decimal n := by
  by_cases h0 : n = 0
  · subst h0
    rfl
  have hlog : Nat.log 10 n < 17 := (Nat.log_lt_iff_lt_pow (by decide) h0).2 (lt_of_le_of_lt hn (by decide))
  obtain ⟨s, e, hs, rfl⟩ := shortestDecimal_nat hn hlog
  have hspos : 0 < s := Nat.pos_of_ne_zero fun h => h0 (by rw [h, zero_mul])
  have hpos : (0 : ℚ) < (s * 10 ^ e : ℕ) := by exact_mod_cast Nat.pos_of_ne_zero h0
  obtain ⟨k, hk⟩ := rdropWhile_zeros (decimal s)
  have hlen : (decimal s).length = ((decimal s).rdropWhile (· = 0x30)).length + k := by
    rw [congrArg List.length hk, List.length_append, List.length_replicate]
  have hall : (decimal (s * 10 ^ e)).length ≤ 21 := length_decimal_le (by decide) (lt_of_le_of_lt hn (by decide))
  rw [decimal_mul_pow hspos, List.length_append, List.length_replicate] at hall
  rw [numberText, if_neg hpos.ne', if_neg hpos.not_gt, magnitudeText, Int.log_natCast, hs]
  simp only
  rw [if_pos ⟨by omega, by omega⟩, decimal_mul_pow hspos, show
    (((decimal s).length : ℤ) + e - ((decimal s).rdropWhile (· = 0x30)).length).toNat = k + e by omega,
    List.replicate_add, ← List.append_assoc, ← hk]

end

/-! ## JSON data -/

def toStringKey : JsString := lit "toString"

def isNull : Value → Bool
  | .null => true
  | _ => false

mutual

/-- `none` for a `TypeError`. -/
def valueText : Value → Option JsString
  | .null => some (lit "null")
  | .bool b => some (if b then lit "true" else lit "false")
  | .num n => some (numberText n)
  | .str s => some s
  | .arr xs => (elementTexts xs).map commaSep
  | .obj ms => if toStringKey ∈ keys ms then none else some (lit "[object Object]")

/-- The texts that `join` puts together. -/
def elementTexts : List Value → Option (List JsString)
  | [] => some []
  | x :: xs => do
    let t ← (if isNull x then some [] else valueText x)
    let ts ← elementTexts xs
    some (t :: ts)

end

/-- The values that have a text: no own property `toString`, also of an object
    inside arrays. -/
inductive HasText : Value → Prop where
  | null : HasText .null
  | bool (b : Bool) : HasText (.bool b)
  | num (n : JsNumber) : HasText (.num n)
  | str (s : JsString) : HasText (.str s)
  | arr {xs : List Value} (h : ∀ x ∈ xs, HasText x) : HasText (.arr xs)
  | obj {ms : Json.Members JsNumber JsString} (h : toStringKey ∉ keys ms) : HasText (.obj ms)

theorem elementTexts_isSome {xs : List Value} (ih : ∀ x ∈ xs, (∃ t, valueText x = some t) ↔ HasText x) :
    (∃ ts, elementTexts xs = some ts) ↔ ∀ x ∈ xs, HasText x := by
  induction xs with
  | nil => exact ⟨fun _ _ hx => absurd hx List.not_mem_nil, fun _ => ⟨[], rfl⟩⟩
  | cons x xs ihxs =>
    obtain ⟨ihx, ihrest⟩ := List.forall_mem_cons.1 ih
    have hfirst : (∃ t, (if isNull x then some [] else valueText x) = some t) ↔ HasText x := by
      cases x with
      | null => exact ⟨fun _ => .null, fun _ => ⟨[], rfl⟩⟩
      | bool | num | str | arr | obj => exact ihx
    rw [List.forall_mem_cons, ← hfirst, ← ihxs ihrest, elementTexts]
    constructor
    · rintro ⟨ts, hts⟩
      obtain ⟨t, ht, hrest⟩ := Option.bind_eq_some_iff.1 hts
      obtain ⟨ts, hts, -⟩ := Option.bind_eq_some_iff.1 hrest
      exact ⟨⟨t, ht⟩, ts, hts⟩
    · rintro ⟨⟨t, ht⟩, ts, hts⟩
      exact ⟨t :: ts, by rw [ht, hts]; rfl⟩

/-- **Which values have a text.** -/
theorem valueText_isSome (v : Json JsNumber JsString) : (∃ t, valueText v = some t) ↔ HasText v := by
  induction v with
  | null => exact ⟨fun _ => .null, fun _ => ⟨_, by rw [valueText]⟩⟩
  | bool b => exact ⟨fun _ => .bool b, fun _ => ⟨_, by rw [valueText]⟩⟩
  | num n => exact ⟨fun _ => .num n, fun _ => ⟨_, by rw [valueText]⟩⟩
  | str s => exact ⟨fun _ => .str s, fun _ => ⟨s, by rw [valueText]⟩⟩
  | arr xs ih =>
    have hxs := elementTexts_isSome ih
    rw [valueText]
    constructor
    · rintro ⟨t, ht⟩
      obtain ⟨ts, hts, -⟩ := Option.map_eq_some_iff.1 ht
      exact .arr (hxs.1 ⟨ts, hts⟩)
    · rintro (_ | _ | _ | _ | h | _)
      obtain ⟨ts, hts⟩ := hxs.2 h
      exact ⟨_, by rw [hts]; rfl⟩
  | obj ms ih =>
    rw [valueText]
    constructor
    · rintro ⟨t, ht⟩
      split at ht
      · cases ht
      · rename_i hkey
        exact .obj hkey
    · rintro (_ | _ | _ | _ | _ | h)
      exact ⟨_, if_neg h⟩

end CasperProof.Js
