/-
  Amounts of CSPR as text — `csprToMotes` of `staking.ts` and `formatMotes` of
  `format.ts`.

  * `IsAmount s q`: the text `s` is an amount of `q` CSPR, in digits with an
    optional point.
  * `csprToMotes_amount`, `csprToMotes_other`: what is entered is rounded down
    to motes.
  * `formatMotes_eq`: what is displayed is, without the grouping commas, an
    amount.
-/
import CasperProof.Lib.Js.Text
import CasperProof.Lib.Js.ToString
import Mathlib.Algebra.Order.Floor.Semifield
import Mathlib.Data.Rat.Floor

namespace CasperProof.Web

open Js

/-- `MOTES_PER_CSPR`. -/
def motesPerCspr : ℤ := 1000000000

/-! ## The source -/

/-- `/^\d*(\.\d*)?$/`. -/
def decimalPattern (s : JsString) : Bool :=
  match s.dropWhile isDigit with
  | [] => true
  | c :: frac => c = fullStop && frac.all isDigit

/-- `none` for a `SyntaxError` of `BigInt`. -/
def csprToMotes (input : JsString) : Option JsString :=
  let trimmed := trim input
  if trimmed = [] ∨ trimmed = lit "." ∨ ¬ decimalPattern trimmed then some (lit "0")
  else
    let parts := trimmed.splitOn fullStop
    let whole := parts[0]?.getD []
    let frac := parts[1]?.getD []
    let fracPadded := (frac ++ lit "000000000").take 9
    do
      let w ← bigInt (if whole = [] then lit "0" else whole)
      let f ← bigInt (if fracPadded = [] then lit "0" else fracPadded)
      some (intText (w * motesPerCspr + f))

/-- `\w`. -/
def isWord (c : CodeUnit) : Bool :=
  isDigit c || (0x41 ≤ c.val && c.val ≤ 0x5A) || (0x61 ≤ c.val && c.val ≤ 0x7A) || c = 0x5F

/-- `/\B(?=(\d{3})+(?!\d))/` between `before` and `rest`. -/
def groupingPoint (before : Option CodeUnit) (rest : JsString) : Bool :=
  before.any isWord == rest.head?.any isWord &&
    (0 < (rest.takeWhile isDigit).length && (rest.takeWhile isDigit).length % 3 = 0)

/-- `replace(/\B(?=(\d{3})+(?!\d))/g, ',')` of the text after `before`. -/
def insertCommas (before : Option CodeUnit) : JsString → JsString
  | [] => if groupingPoint before [] then [comma] else []
  | c :: s =>
    if groupingPoint before (c :: s) then comma :: c :: insertCommas (some c) s else c :: insertCommas (some c) s

def formatWithGrouping (value : ℤ) : JsString := insertCommas none (intText value)

def formatMotes (motes : JsString) (fractionDigits : ℤ := 2) : JsString :=
  match bigInt motes with
  | none => motes ++ lit " CSPR"
  | some value =>
    let whole := value.tdiv motesPerCspr
    let remainder := value.tmod motesPerCspr
    if remainder = 0 ∨ fractionDigits ≤ 0 then formatWithGrouping whole ++ lit " CSPR"
    else
      let fracFull := (intText remainder).leftpad 9 0x30
      let frac := (fracFull.take fractionDigits.toNat).rdropWhile (· = 0x30)
      if 0 < frac.length then formatWithGrouping whole ++ lit "." ++ frac ++ lit " CSPR"
      else formatWithGrouping whole ++ lit " CSPR"

/-! ## Amounts -/

/-- The amount, in CSPR, that a text stands for: digits, optionally a point and
    more digits, at least one digit in all. -/
inductive IsAmount : JsString → ℚ → Prop where
  | whole {ds : JsString} (hne : ds ≠ []) (hds : ∀ c ∈ ds, isDigit c) : IsAmount ds (digitsValue ds)
  | point {ds fs : JsString} (hne : ds ≠ [] ∨ fs ≠ []) (hds : ∀ c ∈ ds, isDigit c) (hfs : ∀ c ∈ fs, isDigit c) :
    IsAmount (ds ++ fullStop :: fs) (digitsValue ds + digitsValue fs / 10 ^ fs.length)

theorem not_isDigit_fullStop : ¬ isDigit fullStop := by decide

theorem dropWhile_digits {ds : JsString} (hds : ∀ c ∈ ds, isDigit c) (fs : JsString) :
    (ds ++ fullStop :: fs).dropWhile isDigit = fullStop :: fs := by
  rw [List.dropWhile_append_of_pos hds, List.dropWhile_cons_of_neg not_isDigit_fullStop]

/-- The two sides of the point. -/
theorem decimalPattern_iff {s : JsString} : decimalPattern s = true ↔
    (∀ c ∈ s, isDigit c) ∨ ∃ ds fs : JsString, s = ds ++ fullStop :: fs ∧ (∀ c ∈ ds, isDigit c) ∧ ∀ c ∈ fs, isDigit c := by
  constructor
  · intro h
    have hsplit := List.takeWhile_append_dropWhile (p := isDigit) (l := s)
    have hds : ∀ c ∈ s.takeWhile isDigit, isDigit c := fun c hc => List.mem_takeWhile_imp hc
    unfold decimalPattern at h
    split at h
    · rename_i hdrop
      rw [hdrop, List.append_nil] at hsplit
      rw [hsplit] at hds
      exact .inl hds
    · rename_i c fs hdrop
      rw [Bool.and_eq_true, decide_eq_true_eq, List.all_eq_true] at h
      obtain ⟨rfl, hfs⟩ := h
      rw [hdrop] at hsplit
      exact .inr ⟨_, fs, hsplit.symm, hds, hfs⟩
  · rintro (h | ⟨ds, fs, rfl, hds, hfs⟩)
    · have hdrop : s.dropWhile isDigit = [] := List.dropWhile_eq_nil_iff.2 h
      rw [decimalPattern, hdrop]
    · rw [decimalPattern, dropWhile_digits hds]
      rw [Bool.and_eq_true, decide_eq_true_eq, List.all_eq_true]
      exact ⟨rfl, hfs⟩

/-- The guard of `csprToMotes` lets the amounts pass. -/
theorem isAmount_iff {s : JsString} :
    (∃ q, IsAmount s q) ↔ ¬ (s = [] ∨ s = lit "." ∨ ¬ decimalPattern s) := by
  rw [not_or, not_or, not_not, decimalPattern_iff]
  constructor
  · rintro ⟨q, hq⟩
    cases hq with
    | whole hne hds =>
      refine ⟨hne, ?_, .inl hds⟩
      rintro rfl
      exact not_isDigit_fullStop (hds _ (List.mem_singleton_self _))
    | @point ds fs hne hds hfs =>
      refine ⟨by simp, ?_, .inr ⟨ds, fs, rfl, hds, hfs⟩⟩
      intro heq
      have hlen := congrArg List.length heq
      rw [List.length_append, List.length_cons, show (lit ".").length = 1 from rfl] at hlen
      rcases hne with hne | hne
      · have := List.length_pos_iff.2 hne
        omega
      · have := List.length_pos_iff.2 hne
        omega
  · rintro ⟨hne, hpoint, h | ⟨ds, fs, rfl, hds, hfs⟩⟩
    · exact ⟨_, .whole hne h⟩
    · refine ⟨_, .point ?_ hds hfs⟩
      by_contra hboth
      obtain ⟨rfl, rfl⟩ : ds = [] ∧ fs = [] := by simpa [not_or] using hboth
      exact hpoint rfl

/-! ## Entry -/

/-- Nine places behind the point, the missing ones zero. -/
theorem digitsValue_fracPadded {fs : JsString} (hfs : ∀ c ∈ fs, isDigit c) :
    digitsValue ((fs ++ lit "000000000").take 9) = digitsValue fs * 10 ^ 9 / 10 ^ fs.length := by
  have hzeros : lit "000000000" = List.replicate 9 0x30 := rfl
  have hdigits : ∀ c ∈ fs ++ List.replicate 9 0x30, isDigit c := by
    intro c hc
    rcases List.mem_append.1 hc with hc | hc
    · exact hfs c hc
    · rw [List.eq_of_mem_replicate hc]
      rfl
  rw [hzeros, digitsValue_take hdigits, digitsValue_append, digitsValue_zeros, List.length_append,
    List.length_replicate, Nat.add_sub_cancel, Nat.add_zero]

theorem isDigit_fracPadded {fs : JsString} (hfs : ∀ c ∈ fs, isDigit c) :
    ∀ c ∈ (fs ++ lit "000000000").take 9, isDigit c := by
  intro c hc
  rcases List.mem_append.1 (List.mem_of_mem_take hc) with hc | hc
  · exact hfs c hc
  · exact List.eq_of_mem_replicate (n := 9) (a := 0x30) hc ▸ rfl

/-- `BigInt(ds || '0')`. -/
theorem bigInt_orZero {ds : JsString} (hds : ∀ c ∈ ds, isDigit c) :
    bigInt (if ds = [] then lit "0" else ds) = some (digitsValue ds : ℤ) := by
  split_ifs with hnil
  · subst hnil
    rfl
  · exact bigInt_digits hnil hds

theorem intText_nat (n : ℕ) : intText n = decimal n := by
  rw [intText, if_neg (by omega), Int.natAbs_natCast]

/-- The motes of an amount, rounded down. -/
theorem floor_motes (w f k : ℕ) : ⌊((w : ℚ) + f / 10 ^ k) * 10 ^ 9⌋₊ = w * 10 ^ 9 + f * 10 ^ 9 / 10 ^ k := by
  have hpos : 0 < 10 ^ k := Nat.pow_pos (by decide)
  have hquot : ((w : ℚ) + f / 10 ^ k) * 10 ^ 9 = ((10 ^ k * (w * 10 ^ 9) + f * 10 ^ 9 : ℕ) : ℚ) / (10 ^ k : ℕ) := by
    have hne : ((10 : ℚ) ^ k) ≠ 0 := pow_ne_zero _ (by norm_num)
    push_cast
    field_simp
    norm_num
  rw [hquot, Nat.floor_div_eq_div, Nat.mul_add_div hpos]

/-- The two sides of the point, in motes. -/
theorem motes_of_parts {s ds fs : JsString} {parts : List JsString} (hamount : ∃ q, IsAmount (trim s) q)
    (hparts : (trim s).splitOn fullStop = ds :: parts) (hfs : parts[0]?.getD [] = fs) (hds : ∀ c ∈ ds, isDigit c)
    (hfsd : ∀ c ∈ fs, isDigit c) :
    csprToMotes s = some (decimal ⌊((digitsValue ds : ℚ) + digitsValue fs / 10 ^ fs.length) * 10 ^ 9⌋₊) := by
  have hsum : (digitsValue ds : ℤ) * motesPerCspr + ((digitsValue fs * 10 ^ 9 / 10 ^ fs.length : ℕ) : ℤ) =
      ((digitsValue ds * 10 ^ 9 + digitsValue fs * 10 ^ 9 / 10 ^ fs.length : ℕ) : ℤ) := by
    rw [Nat.cast_add, Nat.cast_mul]
    rfl
  simp only [csprToMotes]
  rw [if_neg (isAmount_iff.1 hamount), hparts, List.getElem?_cons_zero, List.getElem?_cons_succ, hfs, Option.getD_some,
    bigInt_orZero hds, bigInt_orZero (isDigit_fracPadded hfsd), digitsValue_fracPadded hfsd, Option.bind_eq_bind,
    Option.bind_some, Option.bind_some, hsum, intText_nat, floor_motes]

/-- **An amount is entered as its motes, rounded down.** -/
theorem csprToMotes_amount {s : JsString} {q : ℚ} (h : IsAmount (trim s) q) :
    csprToMotes s = some (decimal ⌊q * 10 ^ 9⌋₊) := by
  have hamount : ∃ q, IsAmount (trim s) q := ⟨q, h⟩
  generalize htrim : trim s = t at h
  cases h with
  | whole hne hds =>
    have hsplit : (trim s).splitOn fullStop = [t] := by
      rw [htrim]
      exact List.splitOn_eq_singleton fun hc => not_isDigit_fullStop (hds _ hc)
    have h := motes_of_parts hamount hsplit rfl hds fun c hc => absurd hc (List.not_mem_nil)
    rw [List.getElem?_nil, Option.getD_none, List.length_nil, pow_zero, div_one] at h
    rw [h]
    norm_num [digitsValue]
  | @point ds fs hne hds hfs =>
    have hsplit : (trim s).splitOn fullStop = [ds, fs] := by
      rw [htrim, List.splitOn_append_cons_self_of_not_mem fun hc => not_isDigit_fullStop (hds _ hc),
        List.splitOn_eq_singleton fun hc => not_isDigit_fullStop (hfs _ hc)]
    exact motes_of_parts hamount hsplit rfl hds hfs

/-- Everything else counts as nothing. -/
theorem csprToMotes_other {s : JsString} (h : ∀ q, ¬ IsAmount (trim s) q) : csprToMotes s = some (lit "0") := by
  have hguard := not_imp_not.2 isAmount_iff.2 (not_exists.2 h)
  simp only [csprToMotes, if_pos (not_not.1 hguard)]

/-! ## Display -/

/-- The commas are all that grouping adds. -/
theorem filter_insertCommas (before : Option CodeUnit) (s : JsString) :
    (insertCommas before s).filter (· ≠ comma) = s.filter (· ≠ comma) := by
  induction s generalizing before with
  | nil => unfold insertCommas; split <;> rfl
  | cons c s ih =>
    have htail : (c :: insertCommas (some c) s).filter (· ≠ comma) = (c :: s).filter (· ≠ comma) := by
      rw [List.filter_cons, List.filter_cons, ih]
    unfold insertCommas
    split
    · rw [List.filter_cons_of_neg (by simp), htail]
    · exact htail

theorem filter_digits {ds : JsString} (h : ∀ c ∈ ds, isDigit c) : ds.filter (· ≠ comma) = ds := by
  refine List.filter_eq_self.2 fun c hc => decide_eq_true ?_
  rintro rfl
  exact absurd (h _ hc) (by decide)

theorem filter_grouping (n : ℕ) : (formatWithGrouping n).filter (· ≠ comma) = decimal n := by
  rw [formatWithGrouping, filter_insertCommas, intText_nat, filter_digits (isDigit_decimal n)]

/-- The places behind the point, for `r` motes. -/
structure Fraction (r : ℕ) (frac : JsString) : Prop where
  digits : ∀ c ∈ frac, isDigit c
  value : digitsValue frac * 10 ^ 9 = r * 10 ^ frac.length

/-- `remainder` in nine places, without the trailing zeros. -/
def fractionText (r : ℕ) : JsString := (((intText r).leftpad 9 0x30).take 9).rdropWhile (· = 0x30)

theorem fractionText_spec {r : ℕ} (hr : r < 10 ^ 9) : Fraction r (fractionText r) := by
  have hlen : (decimal r).length ≤ 9 := length_decimal_le (by decide) hr
  have hpad : ((intText r).leftpad 9 0x30).take 9 = List.replicate (9 - (decimal r).length) 0x30 ++ decimal r := by
    rw [intText_nat, List.take_of_length_le (by rw [List.length_leftpad]; omega), List.leftpad]
  obtain ⟨k, hk⟩ := rdropWhile_zeros (List.replicate (9 - (decimal r).length) 0x30 ++ decimal r)
  rw [← hpad] at hk
  change _ = fractionText r ++ _ at hk
  rw [hpad] at hk
  refine ⟨?_, ?_⟩
  · intro c hc
    have hmem : c ∈ List.replicate (9 - (decimal r).length) 0x30 ++ decimal r := by
      rw [hk]
      exact List.mem_append_left _ hc
    rcases List.mem_append.1 hmem with hc | hc
    · rw [List.eq_of_mem_replicate hc]
      rfl
    · exact isDigit_decimal r c hc
  · -- The nine places are those kept and `k` zeros, and have the value `r`.
    have hplaces := congrArg List.length hk
    have hvalue := congrArg digitsValue hk
    rw [List.length_append, List.length_append, List.length_replicate, List.length_replicate] at hplaces
    rw [digitsValue_append, digitsValue_zeros, digitsValue_decimal, digitsValue_append, digitsValue_zeros,
      List.length_replicate, Nat.zero_mul, Nat.zero_add, Nat.add_zero] at hvalue
    calc digitsValue (fractionText r) * 10 ^ 9
        = digitsValue (fractionText r) * (10 ^ k * 10 ^ (fractionText r).length) := by
          rw [← pow_add]
          congr 2
          omega
      _ = r * 10 ^ (fractionText r).length := by rw [← Nat.mul_assoc, ← hvalue]

/-- A remainder is displayed unless it is zero. -/
theorem fractionText_ne_nil {r : ℕ} (hr : r < 10 ^ 9) (hne : r ≠ 0) : fractionText r ≠ [] := by
  intro hnil
  have hvalue := (fractionText_spec hr).value
  rw [hnil] at hvalue
  exact hne (by simpa [digitsValue] using hvalue.symm)

/-- **What is displayed is an amount**, once the commas are removed. -/
theorem formatMotes_amount (n : ℕ) : ∃ text, formatMotes (decimal n) 9 = text ++ lit " CSPR" ∧
    IsAmount (text.filter (· ≠ comma)) (n / 10 ^ 9) := by
  have hread : bigInt (decimal n) = some (n : ℤ) := by
    rw [bigInt_digits (decimal_ne_nil n) (isDigit_decimal n), digitsValue_decimal]
  have hwhole : (n : ℤ).tdiv motesPerCspr = ((n / 10 ^ 9 : ℕ) : ℤ) := rfl
  have hremainder : (n : ℤ).tmod motesPerCspr = ((n % 10 ^ 9 : ℕ) : ℤ) := rfl
  have hlt : n % 10 ^ 9 < 10 ^ 9 := Nat.mod_lt _ (by decide)
  have hsplit : 10 ^ 9 * (n / 10 ^ 9) + n % 10 ^ 9 = n := Nat.div_add_mod _ _
  by_cases hzero : n % 10 ^ 9 = 0
  · refine ⟨formatWithGrouping (n / 10 ^ 9 : ℕ), ?_, ?_⟩
    · simp only [formatMotes, hread, hwhole, hremainder]
      rw [if_pos (.inl (by rw [hzero]; rfl))]
    · have hvalue : ((digitsValue (decimal (n / 10 ^ 9)) : ℕ) : ℚ) = (n : ℚ) / 10 ^ 9 := by
        rw [digitsValue_decimal, eq_div_iff (by norm_num)]
        exact_mod_cast (by omega : n / 10 ^ 9 * 10 ^ 9 = n)
      rw [filter_grouping, ← hvalue]
      exact .whole (decimal_ne_nil _) (isDigit_decimal _)
  · have hfrac := fractionText_spec hlt
    have htext : (((intText (n % 10 ^ 9 : ℕ)).leftpad 9 0x30).take (Int.toNat 9)).rdropWhile (· = 0x30) =
        fractionText (n % 10 ^ 9) := rfl
    refine ⟨formatWithGrouping (n / 10 ^ 9 : ℕ) ++ lit "." ++ fractionText (n % 10 ^ 9), ?_, ?_⟩
    · simp only [formatMotes, hread, hwhole, hremainder]
      rw [if_neg (by rintro (h | h) <;> omega), htext, if_pos (List.length_pos_iff.2 (fractionText_ne_nil hlt hzero))]
    · have hvalue : ((digitsValue (decimal (n / 10 ^ 9)) : ℕ) : ℚ) +
          digitsValue (fractionText (n % 10 ^ 9)) / 10 ^ (fractionText (n % 10 ^ 9)).length = (n : ℚ) / 10 ^ 9 := by
        have hplaces : (digitsValue (fractionText (n % 10 ^ 9)) : ℚ) / 10 ^ (fractionText (n % 10 ^ 9)).length =
            (n % 10 ^ 9 : ℕ) / 10 ^ 9 := by
          rw [div_eq_div_iff (pow_ne_zero _ (by norm_num)) (by norm_num)]
          exact_mod_cast hfrac.value
        rw [hplaces, digitsValue_decimal, eq_div_iff (by norm_num), add_mul, div_mul_cancel₀ _ (by norm_num)]
        exact_mod_cast (by omega : n / 10 ^ 9 * 10 ^ 9 + n % 10 ^ 9 = n)
      rw [List.filter_append, List.filter_append, filter_grouping, filter_digits hfrac.digits, ← hvalue]
      rw [List.append_assoc]
      exact .point (.inl (decimal_ne_nil _)) (isDigit_decimal _) hfrac.digits

theorem trim_amount {s : JsString} {q : ℚ} (h : IsAmount s q) : trim s = s := by
  refine trim_eq_self fun c hc => ?_
  cases h with
  | whole hne hds => exact isWhite_digit (hds c hc)
  | point hne hds hfs =>
    rcases List.mem_append.1 hc with hc | hc
    · exact isWhite_digit (hds c hc)
    · rcases List.mem_cons.1 hc with rfl | hc
      · rfl
      · exact isWhite_digit (hfs c hc)

/-! ## Display and entry together -/

/-- What `formatMotes` and `csprToMotes` are for. -/
structure AmountsSurvive : Prop where
  shown : ∀ n : ℕ, ∃ text, formatMotes (decimal n) 9 = text ++ lit " CSPR" ∧
    csprToMotes (text.filter (· ≠ comma)) = some (decimal n)
  entered : ∀ s q, IsAmount (trim s) q → csprToMotes s = some (decimal ⌊q * 10 ^ 9⌋₊)
  other : ∀ s, (∀ q, ¬ IsAmount (trim s) q) → csprToMotes s = some (lit "0")

/-- **Amounts survive display and entry.** -/
theorem amounts_survive : AmountsSurvive := by
  refine ⟨?_, fun s q => csprToMotes_amount, fun s => csprToMotes_other⟩
  intro n
  obtain ⟨text, htext, hamount⟩ := formatMotes_amount n
  have hentered := csprToMotes_amount (by rw [trim_amount hamount]; exact hamount)
  refine ⟨text, htext, ?_⟩
  rw [hentered, div_mul_cancel₀ _ (by norm_num), Nat.floor_natCast]

/-- White space around an amount is not part of it. -/
theorem padded_not_amount (q : ℚ) : ¬ IsAmount (lit " 1") q := by
  intro h
  have htrim : trim (lit " 1") ≠ lit " 1" := by decide
  exact htrim (trim_amount h)

/-- Padded amounts are accepted. -/
theorem padded_amount_accepted :
    ¬ ∀ s : JsString, (∀ q, ¬ IsAmount s q) → csprToMotes s = some (lit "0") := by
  intro h
  have hzero := h (lit " 1") padded_not_amount
  have hone : csprToMotes (lit " 1") = some (lit "1000000000") := by decide +kernel
  rw [hone] at hzero
  exact absurd hzero (by decide)

end CasperProof.Web
