/-
  `ToNumber` of ECMAScript, for strings.
-/
import CasperProof.Lib.Js.Integer

namespace CasperProof.Js

/-- The digits before and after a decimal point, which may be absent, and the
    text after them. -/
def decimalDigits (s : JsString) : JsString × JsString × JsString :=
  let (ds, s) := s.span isDigit
  match s with
  | [] => (ds, [], [])
  | c :: rest => if c = fullStop then (ds, rest.span isDigit) else (ds, [], c :: rest)

/-- `StrUnsignedDecimalLiteral`. -/
def unsignedDecimal (neg : Bool) (s : JsString) : Option JsNumber :=
  if s = lit "Infinity" then some (if neg then .negInf else .posInf)
  else
    let (ds, fs, s) := decimalDigits s
    if ds = [] ∧ fs = [] then none
    else
      match exponent s with
      | some (e, []) => some (ofDecimal neg (digitsValue (ds ++ fs) * 10 ^ (e - fs.length)))
      | _ => none

/-- An integer in the given radix. -/
def radixInteger (radix : ℕ) (s : JsString) : Option JsNumber := (natOfDigits radix s).map fun n => ofDecimal false n

/-- `Number(s)` of a string. -/
def toNumber (s : JsString) : JsNumber :=
  let s := trim s
  let n :=
    if s = [] then some (.real 0)
    else if (lit "0x").isPrefixOf s || (lit "0X").isPrefixOf s then radixInteger 16 (s.drop 2)
    else if (lit "0o").isPrefixOf s || (lit "0O").isPrefixOf s then radixInteger 8 (s.drop 2)
    else if (lit "0b").isPrefixOf s || (lit "0B").isPrefixOf s then radixInteger 2 (s.drop 2)
    else if (lit "-").isPrefixOf s then unsignedDecimal true (s.drop 1)
    else unsignedDecimal false (stripPrefix (lit "+") s)
  n.getD .nan

/-- A non-negative integer, as `Number.isInteger(x) && x >= 0` has it. -/
def JsNumber.toNat? (x : JsNumber) : Option ℕ := x.toInt?.bind fun i => if 0 ≤ i then some i.toNat else none

theorem toNat?_real (n : ℕ) : (JsNumber.real n).toNat? = some n := by
  simp [JsNumber.toNat?, JsNumber.toInt?]

end CasperProof.Js
