/-
  JavaScript numbers and their decimal text.

  * `JsNumber`: an IEEE 754 double, by its value; `toDouble` rounds a decimal
    literal to the nearest one, ties to even.
  * `SafeInteger`: the integers up to `Number.MAX_SAFE_INTEGER`.
  * `numberLiteral`: a JSON number.  `numberLiteral_intText`: it reads back the
    text of a safe integer.
-/
import CasperProof.Lib.Js.String
import Mathlib.Data.Int.Log
import Mathlib.Data.Rat.Floor
import Mathlib.Data.Nat.Digits.Lemmas
import Mathlib.Tactic.NormNum
import Mathlib.Tactic.FieldSimp
import Mathlib.Tactic.Linarith
import Mathlib.Tactic.Ring

namespace CasperProof.Js

/-- A number value.  `real 0` is `+0`. -/
inductive JsNumber where
  | real (q : ℚ)
  | negZero
  | posInf
  | negInf
  | nan
deriving DecidableEq

def maxSafeInteger : ℕ := 2 ^ 53 - 1

/-- An integer for which `Number.isSafeInteger` holds. -/
def SafeInteger := { n : ℤ // n.natAbs ≤ maxSafeInteger }
deriving DecidableEq

namespace JsNumber

/-- `Number.isFinite`. -/
def isFinite : JsNumber → Bool
  | real _ | negZero => true
  | posInf | negInf | nan => false

/-- The value of an integral number. -/
def toInt? : JsNumber → Option ℤ
  | real q => if q.den = 1 then some q.num else none
  | negZero => some 0
  | posInf | negInf | nan => none

/-- A safe integer as a number. -/
def ofSafe (n : SafeInteger) : JsNumber := real n.val

end JsNumber

/-! ## Rounding -/

/-- The nearest integer, ties to even. -/
def roundHalfEven (x : ℚ) : ℤ :=
  if x - ⌊x⌋ < 1 / 2 then ⌊x⌋
  else if 1 / 2 < x - ⌊x⌋ then ⌊x⌋ + 1
  else if ⌊x⌋ % 2 = 0 then ⌊x⌋ else ⌊x⌋ + 1

/-- The distance of doubles around `q`. -/
def ulp (q : ℚ) : ℚ := 2 ^ (max (Int.log 2 q) (-1022) - 52)

/-- The double nearest to `q ≥ 0`, or `none` if that is infinite. -/
def toDouble (q : ℚ) : Option ℚ :=
  if q = 0 then some 0
  else if roundHalfEven (q / ulp q) * ulp q < 2 ^ 1024 then some (roundHalfEven (q / ulp q) * ulp q)
  else none

/-- The number written with the sign `neg` and the magnitude `q`. -/
def ofDecimal (neg : Bool) (q : ℚ) : JsNumber :=
  match toDouble q with
  | none => if neg then .negInf else .posInf
  | some r => if neg then if r = 0 then .negZero else .real (-r) else .real r

theorem roundHalfEven_int (n : ℤ) : roundHalfEven n = n := by
  simp [roundHalfEven]

/-- Safe integers are doubles. -/
theorem toDouble_nat {n : ℕ} (h : n ≤ maxSafeInteger) : toDouble n = some (n : ℚ) := by
  by_cases hn : n = 0
  · subst hn; rfl
  have hlog : Nat.log 2 n ≤ 52 := by
    have hlt : n < 2 ^ 53 := by unfold maxSafeInteger at h; omega
    have := (Nat.log_lt_iff_lt_pow (by decide) hn).2 hlt
    omega
  obtain ⟨k, hk⟩ := Nat.exists_eq_add_of_le hlog
  have hulp : ulp n = ((2 : ℚ) ^ k)⁻¹ := by
    rw [ulp, Int.log_natCast, max_eq_left (by omega), show (Nat.log 2 n : ℤ) - 52 = -(k : ℤ) by omega,
      zpow_neg, zpow_natCast]
  have hq : (n : ℚ) / ulp n = ((n * 2 ^ k : ℤ) : ℚ) := by
    rw [hulp, div_inv_eq_mul]; push_cast; rfl
  have hr : (roundHalfEven ((n : ℚ) / ulp n) : ℚ) * ulp n = n := by
    rw [hq, roundHalfEven_int, hulp]; push_cast; field_simp
  have hbig : (n : ℚ) < 2 ^ 1024 := by
    have hlt : n < 2 ^ 53 := by unfold maxSafeInteger at h; omega
    have hlt' : (n : ℚ) < 2 ^ 53 := by exact_mod_cast hlt
    exact hlt'.trans_le (pow_le_pow_right₀ (by norm_num) (by norm_num))
  rw [toDouble, if_neg (by exact_mod_cast hn), hr, if_pos hbig]

theorem floor_le_roundHalfEven (x : ℚ) : ⌊x⌋ ≤ roundHalfEven x := by
  unfold roundHalfEven
  split_ifs <;> omega

/-- What is not below `2 ^ 53` is not rounded below it. -/
theorem toDouble_ge {m : ℕ} (h : 2 ^ 53 ≤ m) {q : ℚ} (hq : toDouble m = some q) : 2 ^ 53 ≤ q := by
  have hm : m ≠ 0 := by omega
  obtain ⟨k, hk⟩ := Nat.exists_eq_add_of_le (Nat.le_log_of_pow_le (by decide) h)
  have hulp : ulp m = 2 ^ (k + 1) := by
    rw [ulp, Int.log_natCast, max_eq_left (by omega), show (Nat.log 2 m : ℤ) - 52 = (k + 1 : ℕ) by omega, zpow_natCast]
  have hpow : (2 : ℚ) ^ (52 + (k + 1)) ≤ m := by
    have hlog := Nat.pow_log_le_self 2 hm
    rw [hk, show 53 + k = 52 + (k + 1) by omega] at hlog
    exact_mod_cast hlog
  have hfloor : (2 ^ 52 : ℤ) ≤ ⌊(m : ℚ) / ulp m⌋ := by
    rw [Int.le_floor, hulp, le_div_iff₀ (by positivity), Int.cast_pow, Int.cast_ofNat, ← pow_add]
    exact hpow
  have hround : (2 ^ 52 : ℚ) ≤ roundHalfEven ((m : ℚ) / ulp m) := by
    exact_mod_cast hfloor.trans (floor_le_roundHalfEven _)
  rw [toDouble, if_neg (by exact_mod_cast hm)] at hq
  split at hq
  · obtain rfl := Option.some.inj hq
    rw [hulp] at hround ⊢
    have hpow : (2 : ℚ) ^ 53 ≤ 2 ^ 52 * 2 ^ (k + 1) := by
      rw [← pow_add]
      exact pow_le_pow_right₀ (by norm_num) (by omega)
    exact hpow.trans (mul_le_mul_of_nonneg_right hround (by positivity))
  · cases hq

/-- Only a safe integer is rounded to it. -/
theorem toDouble_eq_nat {m n : ℕ} (hn : n ≤ maxSafeInteger) (h : toDouble m = some (n : ℚ)) : m = n := by
  by_cases hm : m ≤ maxSafeInteger
  · rw [toDouble_nat hm, Option.some.injEq] at h
    exact_mod_cast h
  · have hge : (2 ^ 53 : ℚ) ≤ (n : ℚ) := toDouble_ge (by unfold maxSafeInteger at hm; omega) h
    have hge' : 2 ^ 53 ≤ n := by exact_mod_cast hge
    unfold maxSafeInteger at hn
    omega

/-! ## Decimal text -/

abbrev minus : CodeUnit := 0x2D
abbrev fullStop : CodeUnit := 0x2E

def digit (d : ℕ) : CodeUnit := ⟨0x30 + d % 10, by omega⟩

def isDigit (c : CodeUnit) : Bool := 0x30 ≤ c.val && c.val ≤ 0x39

/-- The decimal digits of `n`. -/
def decimal (n : ℕ) : JsString := if n = 0 then [0x30] else (Nat.digits 10 n).reverse.map digit

/-- `Number::toString` on safe integers. -/
def intText (n : ℤ) : JsString := if n < 0 then minus :: decimal n.natAbs else decimal n.natAbs

def digitsValue (ds : JsString) : ℕ := ds.foldl (fun a c => 10 * a + (c.val - 0x30)) 0

theorem digit_val {d : ℕ} (h : d < 10) : (digit d).val - 0x30 = d := by
  simp only [digit]; omega

theorem digitsValue_map_digit {ds : List ℕ} (h : ∀ d ∈ ds, d < 10) :
    digitsValue (ds.reverse.map digit) = Nat.ofDigits 10 ds := by
  induction ds with
  | nil => rfl
  | cons d ds ih =>
    have hd := digit_val (h d (by simp))
    have ih' := ih fun e he => h e (by simp [he])
    rw [digitsValue] at ih' ⊢
    rw [List.reverse_cons, List.map_append, List.foldl_append, ih', Nat.ofDigits_cons]
    simp only [List.map_cons, List.map_nil, List.foldl_cons, List.foldl_nil, hd]
    exact Nat.add_comm _ _

theorem digitsValue_decimal (n : ℕ) : digitsValue (decimal n) = n := by
  unfold decimal
  split
  · rename_i h; subst h; rfl
  · rw [digitsValue_map_digit fun d hd => Nat.digits_lt_base (by decide) hd, Nat.ofDigits_digits]

theorem digitsValue_append (ds es : JsString) :
    digitsValue (ds ++ es) = digitsValue ds * 10 ^ es.length + digitsValue es := by
  induction es using List.reverseRecOn with
  | nil => rw [List.append_nil, List.length_nil, pow_zero, mul_one]; rfl
  | append_singleton es c ih =>
    have hstep : ∀ ds : JsString, digitsValue (ds ++ [c]) = 10 * digitsValue ds + (c.val - 0x30) := by
      intro ds
      rw [digitsValue, List.foldl_append]
      rfl
    rw [← List.append_assoc, hstep, hstep, ih, List.length_append, List.length_singleton, pow_succ]
    ring

theorem digitsValue_zeros (n : ℕ) : digitsValue (List.replicate n 0x30) = 0 := by
  induction n with
  | zero => rfl
  | succ n ih => rw [List.replicate_succ', digitsValue_append, ih]; rfl

theorem digitsValue_lt {ds : JsString} (h : ∀ c ∈ ds, isDigit c) : digitsValue ds < 10 ^ ds.length := by
  induction ds with
  | nil => exact Nat.one_pos
  | cons c ds ih =>
    have hc := h c (List.mem_cons_self ..)
    rw [isDigit, Bool.and_eq_true, decide_eq_true_eq, decide_eq_true_eq] at hc
    have htail := ih fun d hd => h d (List.mem_cons_of_mem _ hd)
    have hhead : digitsValue [c] ≤ 9 := by
      change 10 * 0 + (c.val - 0x30) ≤ 9
      omega
    have happ := digitsValue_append [c] ds
    rw [List.singleton_append] at happ
    rw [happ, List.length_cons, pow_succ]
    calc digitsValue [c] * 10 ^ ds.length + digitsValue ds
        < digitsValue [c] * 10 ^ ds.length + 10 ^ ds.length := Nat.add_lt_add_left htail _
      _ = (digitsValue [c] + 1) * 10 ^ ds.length := (Nat.succ_mul _ _).symm
      _ ≤ 10 * 10 ^ ds.length := Nat.mul_le_mul_right _ (by omega)
      _ = 10 ^ ds.length * 10 := Nat.mul_comm _ _

/-- The leading digits of a number are its quotient. -/
theorem digitsValue_take {ds : JsString} (h : ∀ c ∈ ds, isDigit c) (k : ℕ) :
    digitsValue (ds.take k) = digitsValue ds / 10 ^ (ds.length - k) := by
  have hsplit := digitsValue_append (ds.take k) (ds.drop k)
  have hlow := digitsValue_lt fun c (hc : c ∈ ds.drop k) => h c (List.mem_of_mem_drop hc)
  rw [List.take_append_drop, List.length_drop] at hsplit
  rw [List.length_drop] at hlow
  rw [hsplit, Nat.mul_comm, Nat.mul_add_div (Nat.pow_pos (by decide)), Nat.div_eq_of_lt hlow, Nat.add_zero]

theorem isDigit_digit (d : ℕ) : isDigit (digit d) := by
  rw [isDigit, Bool.and_eq_true, decide_eq_true_eq, decide_eq_true_eq]
  simp only [digit]
  omega

theorem isDigit_decimal (n : ℕ) : ∀ c ∈ decimal n, isDigit c := by
  unfold decimal
  split
  · simp [isDigit]
  · intro c hc
    obtain ⟨d, -, rfl⟩ := List.mem_map.1 hc
    exact isDigit_digit d

theorem decimal_ne_nil (n : ℕ) : decimal n ≠ [] := by
  unfold decimal
  split
  · simp
  · rename_i h
    simpa [Nat.digits_eq_nil_iff_eq_zero] using h

theorem length_decimal_le {n k : ℕ} (hk : 0 < k) (h : n < 10 ^ k) : (decimal n).length ≤ k := by
  unfold decimal
  split
  · exact hk
  · rw [List.length_map, List.length_reverse]
    exact (Nat.digits_length_le_iff (by decide) n).2 h

/-- No leading zero, except in `0` itself. -/
theorem decimal_head {n : ℕ} (h : (decimal n).head? = some 0x30) : decimal n = [0x30] := by
  by_cases hn : n = 0
  · rw [decimal, if_pos hn]
  · exfalso
    have hne : Nat.digits 10 n ≠ [] := Nat.digits_ne_nil_iff_ne_zero.2 hn
    rw [decimal, if_neg hn, List.head?_map, List.head?_reverse, List.getLast?_eq_some_getLast hne,
      Option.map_some, Option.some.injEq] at h
    have hlast := Nat.getLast_digit_ne_zero 10 hn
    have hlt : (Nat.digits 10 n).getLast hne < 10 := Nat.digits_lt_base (by decide) (List.getLast_mem hne)
    have := digit_val hlt
    rw [h] at this
    exact hlast this.symm

/-! ## Number literals -/

/-- The digits after a decimal point, if there is one. -/
def fraction : JsString → Option (JsString × JsString)
  | [] => some ([], [])
  | c :: s =>
    if c = fullStop then
      match s.span isDigit with
      | ([], _) => none
      | (ds, rest) => some (ds, rest)
    else some ([], c :: s)

/-- The sign of an exponent. -/
def exponentSign : JsString → ℤ × JsString
  | [] => (1, [])
  | c :: s => if c = minus then (-1, s) else if c = 0x2B then (1, s) else (1, c :: s)

/-- The exponent, if there is one. -/
def exponent : JsString → Option (ℤ × JsString)
  | [] => some (0, [])
  | c :: s =>
    if c = 0x65 ∨ c = 0x45 then
      match (exponentSign s).2.span isDigit with
      | ([], _) => none
      | (ds, rest) => some ((exponentSign s).1 * digitsValue ds, rest)
    else some (0, c :: s)

/-- A number literal without its sign. -/
def magnitude (neg : Bool) (s : JsString) : Option (JsNumber × JsString) := do
  let (ds, s) := s.span isDigit
  if ds = [] ∨ 1 < ds.length ∧ ds.head? = some 0x30 then none
  else do
    let (fs, s) ← fraction s
    let (e, s) ← exponent s
    some (ofDecimal neg (digitsValue (ds ++ fs) * 10 ^ (e - fs.length)), s)

/-- A number literal and the text after it. -/
def numberLiteral : JsString → Option (JsNumber × JsString)
  | [] => none
  | c :: s => if c = minus then magnitude true s else magnitude false (c :: s)

/-- The text does not go on with a number. -/
def Boundary (s : JsString) : Prop :=
  ∀ c ∈ s.head?, isDigit c = false ∧ c ≠ fullStop ∧ c ≠ 0x65 ∧ c ≠ 0x45

theorem span_decimal (n : ℕ) {rest : JsString} (h : Boundary rest) :
    (decimal n ++ rest).span isDigit = (decimal n, rest) := by
  rw [List.span_eq_takeWhile_dropWhile, List.takeWhile_append_of_pos (isDigit_decimal n),
    List.dropWhile_append_of_pos (isDigit_decimal n)]
  cases rest with
  | nil => simp
  | cons c s => simp [(h c rfl).1]

theorem fraction_boundary {s : JsString} (h : Boundary s) : fraction s = some ([], s) := by
  cases s with
  | nil => rfl
  | cons c s => exact if_neg (h c rfl).2.1

theorem exponent_boundary {s : JsString} (h : Boundary s) : exponent s = some (0, s) := by
  cases s with
  | nil => rfl
  | cons c s =>
    refine if_neg ?_
    rintro (hc | hc)
    · exact (h c rfl).2.2.1 hc
    · exact (h c rfl).2.2.2 hc

theorem magnitude_decimal (neg : Bool) (n : ℕ) {rest : JsString} (h : Boundary rest) :
    magnitude neg (decimal n ++ rest) = some (ofDecimal neg n, rest) := by
  have hwell : ¬ (decimal n = [] ∨ 1 < (decimal n).length ∧ (decimal n).head? = some 0x30) := by
    rintro (hnil | ⟨hlen, hhead⟩)
    · exact decimal_ne_nil n hnil
    · rw [decimal_head hhead] at hlen
      exact absurd hlen (by decide)
  simp only [magnitude, span_decimal n h, if_neg hwell, fraction_boundary h, exponent_boundary h,
    Option.bind_eq_bind, Option.bind_some, List.append_nil, digitsValue_decimal, List.length_nil]
  simp

/-- **The text of a safe integer reads back as the integer.** -/
theorem numberLiteral_intText (n : SafeInteger) {rest : JsString} (h : Boundary rest) :
    numberLiteral (intText n.val ++ rest) = some (.ofSafe n, rest) := by
  have hd := toDouble_nat n.property
  by_cases hneg : n.val < 0
  · have hne : (n.val.natAbs : ℚ) ≠ 0 := by
      have : n.val.natAbs ≠ 0 := by omega
      exact_mod_cast this
    have hval : -(n.val.natAbs : ℚ) = (n.val : ℚ) := by
      rw [Nat.cast_natAbs, abs_of_neg hneg, Int.cast_neg, neg_neg]
    rw [intText, if_pos hneg, List.cons_append, numberLiteral, if_pos rfl, magnitude_decimal true _ h, ofDecimal, hd]
    simp only [if_true, if_neg hne, hval, JsNumber.ofSafe]
  · have hval : (n.val.natAbs : ℚ) = (n.val : ℚ) := by
      rw [Nat.cast_natAbs, abs_of_nonneg (not_lt.1 hneg)]
    obtain ⟨c, s, hcs⟩ := List.exists_cons_of_ne_nil (decimal_ne_nil n.val.natAbs)
    have hc : c ≠ minus := by
      rintro rfl
      have := isDigit_decimal n.val.natAbs minus (by simp [hcs])
      exact absurd this (by decide)
    have hmag := magnitude_decimal false n.val.natAbs h
    rw [hcs, List.cons_append] at hmag
    rw [intText, if_neg hneg, hcs, List.cons_append, numberLiteral, if_neg hc, hmag, ofDecimal, hd]
    simp only [Bool.false_eq_true, if_false, hval, JsNumber.ofSafe]

end CasperProof.Js
