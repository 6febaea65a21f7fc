/-
  JSON text — `JSON.stringify` on trees with safe integers, and the JSON
  grammar.

  * `stringify`: compact text, members in the order of the tree.
  * `parseText`: a whole text as a tree with its members in the order of the
    text, duplicates included.
  * `parseText_stringify`: a tree reads back as itself; so `stringify` is
    injective.
-/
import CasperProof.Lib.Js.Number
import CasperProof.Lib.Json.Tree

namespace CasperProof.Js

abbrev comma : CodeUnit := 0x2C
abbrev colon : CodeUnit := 0x3A
abbrev leftBracket : CodeUnit := 0x5B
abbrev rightBracket : CodeUnit := 0x5D
abbrev leftBrace : CodeUnit := 0x7B
abbrev rightBrace : CodeUnit := 0x7D

/-- The parts, with commas between them. -/
def commaSep (parts : List JsString) : JsString := [comma].intercalate parts

mutual

/-- `JSON.stringify`. -/
def stringify : Json SafeInteger JsString → JsString
  | .null => lit "null"
  | .bool true => lit "true"
  | .bool false => lit "false"
  | .num n => intText n.val
  | .str s => quote s
  | .arr xs => leftBracket :: commaSep (stringifyElements xs) ++ [rightBracket]
  | .obj ms => leftBrace :: commaSep (stringifyMembers ms) ++ [rightBrace]

def stringifyElements : List (Json SafeInteger JsString) → List JsString
  | [] => []
  | x :: xs => stringify x :: stringifyElements xs

def stringifyMembers : Json.Members SafeInteger JsString → List JsString
  | [] => []
  | (k, v) :: ms => (quote k ++ colon :: stringify v) :: stringifyMembers ms

end

/-! ## The grammar -/

def isSpace (c : CodeUnit) : Bool := c = 0x20 || c = 0x09 || c = 0x0A || c = 0x0D

def skipSpace (s : JsString) : JsString := s.dropWhile isSpace

/-- The text after a keyword. -/
def expect (word s : JsString) : Option JsString :=
  if word.isPrefixOf s then some (s.drop word.length) else none

/-- A keyword or a number. -/
def scalar (s : JsString) : Option (Json JsNumber JsString × JsString) :=
  match expect (lit "null") s with
  | some rest => some (.null, rest)
  | none =>
    match expect (lit "true") s with
    | some rest => some (.bool true, rest)
    | none =>
      match expect (lit "false") s with
      | some rest => some (.bool false, rest)
      | none => (numberLiteral s).map fun p => (.num p.1, p.2)

mutual

/-- A value and the text after it.  Every call needs more fuel than twice the
    length of the text. -/
def value : ℕ → JsString → Option (Json JsNumber JsString × JsString)
  | 0, _ => none
  | n + 1, s =>
    match skipSpace s with
    | [] => none
    | c :: s =>
      if c = leftBrace then
        match skipSpace s with
        | [] => none
        | d :: s =>
          if d = rightBrace then some (.obj [], s)
          else (members n (d :: s)).map fun p => (.obj p.1, p.2)
      else if c = leftBracket then
        match skipSpace s with
        | [] => none
        | d :: s =>
          if d = rightBracket then some (.arr [], s)
          else (elements n (d :: s)).map fun p => (.arr p.1, p.2)
      else if c = quotation then (stringBody s).map fun p => (.str p.1, p.2)
      else scalar (c :: s)

/-- One or more elements, up to the closing bracket. -/
def elements : ℕ → JsString → Option (List (Json JsNumber JsString) × JsString)
  | 0, _ => none
  | n + 1, s => do
    let (v, s) ← value n s
    match skipSpace s with
    | [] => none
    | c :: s =>
      if c = comma then (elements n s).map fun p => (v :: p.1, p.2)
      else if c = rightBracket then some ([v], s)
      else none

/-- One or more members, up to the closing brace. -/
def members : ℕ → JsString → Option (Json.Members JsNumber JsString × JsString)
  | 0, _ => none
  | n + 1, s =>
    match skipSpace s with
    | [] => none
    | c :: s =>
      if c = quotation then do
        let (k, s) ← stringBody s
        match skipSpace s with
        | [] => none
        | c :: s =>
          if c = colon then do
            let (v, s) ← value n s
            match skipSpace s with
            | [] => none
            | c :: s =>
              if c = comma then (members n s).map fun p => ((k, v) :: p.1, p.2)
              else if c = rightBrace then some ([(k, v)], s)
              else none
          else none
      else none

end

/-- A JSON text. -/
def parseText (s : JsString) : Option (Json JsNumber JsString) := do
  let (v, rest) ← value (2 * s.length + 3) s
  if skipSpace rest = [] then some v else none

/-! ## Reading back -/

theorem lit_null : lit "null" = [0x6E, 0x75, 0x6C, 0x6C] := by decide
theorem lit_true : lit "true" = [0x74, 0x72, 0x75, 0x65] := by decide
theorem lit_false : lit "false" = [0x66, 0x61, 0x6C, 0x73, 0x65] := by decide

theorem stringifyElements_eq (xs : List (Json SafeInteger JsString)) :
    stringifyElements xs = xs.map stringify := by
  induction xs with
  | nil => rfl
  | cons x xs ih => rw [stringifyElements, ih, List.map_cons]

theorem stringifyMembers_eq (ms : Json.Members SafeInteger JsString) :
    stringifyMembers ms = ms.map fun m => quote m.1 ++ colon :: stringify m.2 := by
  induction ms with
  | nil => rfl
  | cons m ms ih => rw [stringifyMembers, ih, List.map_cons]

theorem stringify_arr (xs : List (Json SafeInteger JsString)) :
    stringify (.arr xs) = leftBracket :: commaSep (xs.map stringify) ++ [rightBracket] := by
  rw [stringify, stringifyElements_eq]

theorem stringify_obj (ms : Json.Members SafeInteger JsString) : stringify (.obj ms) =
    leftBrace :: commaSep (ms.map fun m => quote m.1 ++ colon :: stringify m.2) ++ [rightBrace] := by
  rw [stringify, stringifyMembers_eq]

@[simp] theorem commaSep_singleton (p : JsString) : commaSep [p] = p := by
  simp [commaSep, List.intercalate]

theorem commaSep_cons_cons (p q : JsString) (ps : List JsString) :
    commaSep (p :: q :: ps) = p ++ comma :: commaSep (q :: ps) := by
  simp [commaSep, List.intercalate]

theorem skipSpace_cons {c : CodeUnit} (h : isSpace c = false) (s : JsString) : skipSpace (c :: s) = c :: s := by
  rw [skipSpace, List.dropWhile_cons_of_neg (by simp [h])]

/-- The first code unit of a number. -/
theorem intText_cons (n : ℤ) : ∃ c s, intText n = c :: s ∧ (c = minus ∨ isDigit c) := by
  by_cases hn : n < 0
  · exact ⟨minus, _, if_pos hn, .inl rfl⟩
  · obtain ⟨c, s, hcs⟩ := List.exists_cons_of_ne_nil (decimal_ne_nil n.natAbs)
    exact ⟨c, s, by rw [intText, if_neg hn, hcs], .inr (isDigit_decimal n.natAbs c (by simp [hcs]))⟩

/-- What a value can start with. -/
def Starts (c : CodeUnit) : Prop :=
  c = minus ∨ isDigit c ∨ c = quotation ∨ c = leftBracket ∨ c = leftBrace ∨ c = 0x6E ∨ c = 0x74 ∨ c = 0x66

theorem stringify_cons (v : Json SafeInteger JsString) : ∃ c s, stringify v = c :: s ∧ Starts c := by
  cases v with
  | null => exact ⟨_, _, lit_null, by simp [Starts]⟩
  | bool b =>
    cases b
    · exact ⟨_, _, lit_false, by simp [Starts]⟩
    · exact ⟨_, _, lit_true, by simp [Starts]⟩
  | num n =>
    obtain ⟨c, s, hcs, hc⟩ := intText_cons n.val
    exact ⟨c, s, hcs, hc.elim .inl fun h => .inr (.inl h)⟩
  | str s => exact ⟨_, _, rfl, by simp [Starts]⟩
  | arr xs => exact ⟨_, _, rfl, by simp [Starts]⟩
  | obj ms => exact ⟨_, _, rfl, by simp [Starts]⟩

theorem Starts.not_space {c : CodeUnit} (h : Starts c) : isSpace c = false := by
  rcases h with rfl | h | rfl | rfl | rfl | rfl | rfl | rfl <;> try rfl
  simp only [isDigit, Bool.and_eq_true, decide_eq_true_eq] at h
  have hne : ∀ d : CodeUnit, d.val < 0x30 → c ≠ d := by rintro d hd rfl; omega
  simp only [isSpace, Bool.or_eq_false_iff, decide_eq_false_iff_not]
  exact ⟨⟨⟨hne _ (by decide), hne _ (by decide)⟩, hne _ (by decide)⟩, hne _ (by decide)⟩

/-- A value is not mistaken for a closing bracket or brace. -/
theorem Starts.not_closing {c : CodeUnit} (h : Starts c) : c ≠ rightBracket ∧ c ≠ rightBrace := by
  rcases h with rfl | h | rfl | rfl | rfl | rfl | rfl | rfl
  case inr.inl =>
    simp only [isDigit, Bool.and_eq_true, decide_eq_true_eq] at h
    constructor <;> (rintro rfl; revert h; decide)
  all_goals decide

theorem expect_append (word rest : JsString) : expect word (word ++ rest) = some rest := by
  simp [expect]

/-- The head of the text rules the keyword out. -/
theorem expect_ne {c d : CodeUnit} (h : c ≠ d) (word s : JsString) : expect (c :: word) (d :: s) = none := by
  simp [expect, h]

theorem scalar_null (rest : JsString) : scalar (lit "null" ++ rest) = some (.null, rest) := by
  rw [scalar, expect_append]

theorem scalar_true (rest : JsString) : scalar (lit "true" ++ rest) = some (.bool true, rest) := by
  rw [scalar, expect_append]
  rw [show expect (lit "null") (lit "true" ++ rest) = none by
    rw [lit_null, lit_true]; exact expect_ne (by decide) _ _]

theorem scalar_false (rest : JsString) : scalar (lit "false" ++ rest) = some (.bool false, rest) := by
  rw [scalar, expect_append]
  rw [show expect (lit "null") (lit "false" ++ rest) = none by
    rw [lit_null, lit_false]; exact expect_ne (by decide) _ _]
  rw [show expect (lit "true") (lit "false" ++ rest) = none by
    rw [lit_true, lit_false]; exact expect_ne (by decide) _ _]

theorem scalar_num (n : SafeInteger) {rest : JsString} (h : Boundary rest) :
    scalar (intText n.val ++ rest) = some (.num (.ofSafe n), rest) := by
  obtain ⟨c, s, hcs, hc⟩ := intText_cons n.val
  have hne : c ≠ 0x6E ∧ c ≠ 0x74 ∧ c ≠ 0x66 := by
    rcases hc with rfl | hc
    · decide
    · refine ⟨?_, ?_, ?_⟩ <;> (rintro rfl; revert hc; decide)
  have hnum := numberLiteral_intText n h
  rw [hcs, List.cons_append] at hnum ⊢
  rw [scalar, lit_null, lit_true, lit_false, expect_ne hne.1.symm, expect_ne hne.2.1.symm,
    expect_ne hne.2.2.symm, hnum]
  rfl

/-- Dispatch on a value that is no string, array or object. -/
theorem value_scalar {n : ℕ} {c : CodeUnit} {s : JsString} (hc : Starts c) (hq : c ≠ quotation)
    (hl : c ≠ leftBracket) (hb : c ≠ leftBrace) : value (n + 1) (c :: s) = scalar (c :: s) := by
  rw [value, skipSpace_cons hc.not_space]
  simp only [if_neg hq, if_neg hl, if_neg hb]

theorem boundary_comma (s : JsString) : Boundary (comma :: s) := by
  intro c hc; cases hc; decide

theorem boundary_rightBracket (s : JsString) : Boundary (rightBracket :: s) := by
  intro c hc; cases hc; decide

theorem boundary_rightBrace (s : JsString) : Boundary (rightBrace :: s) := by
  intro c hc; cases hc; decide

/-- Enough fuel for a value, and for the elements or members of one. -/
def Fuel (k n : ℕ) (s : JsString) : Prop := 2 * s.length + k < n

/-- Reading back `v` after any text, with enough fuel. -/
def ReadsBack (v : Json SafeInteger JsString) : Prop :=
  ∀ n rest, Boundary rest → Fuel 1 n (stringify v ++ rest) →
    value n (stringify v ++ rest) = some (v.map .ofSafe id, rest)

theorem elements_stringify {xs : List (Json SafeInteger JsString)} (hxs : xs ≠ [])
    (ih : ∀ x ∈ xs, ReadsBack x) (n : ℕ) (rest : JsString)
    (hn : Fuel 2 n (commaSep (xs.map stringify) ++ rightBracket :: rest)) :
    elements n (commaSep (xs.map stringify) ++ rightBracket :: rest) =
      some (xs.map (Json.map .ofSafe id), rest) := by
  induction xs generalizing n with
  | nil => exact absurd rfl hxs
  | cons x xs ih' =>
    unfold Fuel at hn
    obtain ⟨n, rfl⟩ : ∃ m, n = m + 1 := ⟨n - 1, by omega⟩
    have hx := ih x (by simp)
    cases xs with
    | nil =>
      simp only [List.map_cons, List.map_nil, commaSep_singleton] at hn ⊢
      rw [elements, hx n _ (boundary_rightBracket rest) (by unfold Fuel; omega)]
      simp only [Option.bind_eq_bind, Option.bind_some, skipSpace_cons (show isSpace rightBracket = false by rfl)]
      rfl
    | cons y ys =>
      simp only [List.map_cons, commaSep_cons_cons, List.append_assoc, List.cons_append] at hn ⊢
      have hrec := ih' (by simp) (fun z hz => ih z (List.mem_cons_of_mem _ hz)) n
      simp only [List.map_cons] at hrec
      rw [elements, hx n _ (boundary_comma _) (by unfold Fuel; omega)]
      simp only [Option.bind_eq_bind, Option.bind_some, skipSpace_cons (show isSpace comma = false by rfl)]
      simp only [if_true]
      rw [hrec (by unfold Fuel; simp only [List.length_append, List.length_cons] at hn ⊢; omega)]
      rfl

theorem members_stringify {ms : Json.Members SafeInteger JsString} (hms : ms ≠ [])
    (ih : ∀ m ∈ ms, ReadsBack m.2) (n : ℕ) (rest : JsString)
    (hn : Fuel 2 n (commaSep (ms.map fun m => quote m.1 ++ colon :: stringify m.2) ++ rightBrace :: rest)) :
    members n (commaSep (ms.map fun m => quote m.1 ++ colon :: stringify m.2) ++ rightBrace :: rest) =
      some (ms.map fun m => (m.1, m.2.map .ofSafe id), rest) := by
  induction ms generalizing n with
  | nil => exact absurd rfl hms
  | cons m ms ih' =>
    unfold Fuel at hn
    obtain ⟨n, rfl⟩ : ∃ k, n = k + 1 := ⟨n - 1, by omega⟩
    have hm := ih m (by simp)
    have hquote : ∀ t, quote m.1 ++ t = quotation :: (escape m.1 ++ quotation :: t) := by simp [quote]
    cases ms with
    | nil =>
      simp only [List.map_cons, List.map_nil, commaSep_singleton, List.append_assoc, List.cons_append,
        hquote] at hn ⊢
      rw [members, skipSpace_cons (show isSpace quotation = false by rfl)]
      simp only [if_true, stringBody_escape, Option.bind_eq_bind, Option.bind_some,
        skipSpace_cons (show isSpace colon = false by rfl)]
      rw [hm n _ (boundary_rightBrace rest)
        (by unfold Fuel; simp only [List.length_append, List.length_cons] at hn ⊢; omega)]
      simp only [Option.bind_some, skipSpace_cons (show isSpace rightBrace = false by rfl)]
      rfl
    | cons m' ms =>
      simp only [List.map_cons, commaSep_cons_cons, List.append_assoc, List.cons_append, hquote] at hn ⊢
      have hrec := ih' (by simp) (fun z hz => ih z (List.mem_cons_of_mem _ hz)) n
      simp only [List.map_cons] at hrec
      rw [members, skipSpace_cons (show isSpace quotation = false by rfl)]
      simp only [if_true, stringBody_escape, Option.bind_eq_bind, Option.bind_some,
        skipSpace_cons (show isSpace colon = false by rfl)]
      rw [hm n _ (boundary_comma _)
        (by unfold Fuel; simp only [List.length_append, List.length_cons] at hn ⊢; omega)]
      simp only [Option.bind_some, skipSpace_cons (show isSpace comma = false by rfl), if_true]
      rw [hrec (by unfold Fuel; simp only [List.length_append, List.length_cons] at hn ⊢; omega)]
      rfl

/-- Values that are read by `scalar`. -/
theorem readsBack_of_scalar {v : Json SafeInteger JsString}
    (h : ∀ rest, Boundary rest → ∃ c s, stringify v ++ rest = c :: s ∧ Starts c ∧
      (c ≠ quotation ∧ c ≠ leftBracket ∧ c ≠ leftBrace) ∧ scalar (c :: s) = some (v.map .ofSafe id, rest)) :
    ReadsBack v := by
  intro n rest hrest hn
  obtain ⟨n, rfl⟩ : ∃ k, n = k + 1 := ⟨n - 1, by unfold Fuel at hn; omega⟩
  obtain ⟨c, s, hcs, hc, hne, hs⟩ := h rest hrest
  rw [hcs, value_scalar hc hne.1 hne.2.1 hne.2.2, hs]

theorem readsBack_str (s : JsString) : ReadsBack (.str s) := by
  intro n rest _ hn
  obtain ⟨n, rfl⟩ : ∃ k, n = k + 1 := ⟨n - 1, by unfold Fuel at hn; omega⟩
  have hquote : stringify (.str s) ++ rest = quotation :: (escape s ++ quotation :: rest) := by
    simp [stringify, quote]
  rw [hquote, value, skipSpace_cons (by rfl)]
  simp only [if_neg (show quotation ≠ leftBrace by decide), if_neg (show quotation ≠ leftBracket by decide),
    if_true, stringBody_escape]
  rfl

theorem readsBack_arr {xs : List (Json SafeInteger JsString)} (ih : ∀ x ∈ xs, ReadsBack x) :
    ReadsBack (.arr xs) := by
  intro n rest _ hn
  unfold Fuel at hn
  obtain ⟨n, rfl⟩ : ∃ k, n = k + 1 := ⟨n - 1, by omega⟩
  simp only [stringify_arr, List.append_assoc, List.cons_append, List.nil_append] at hn ⊢
  rw [value, skipSpace_cons (by rfl)]
  simp only [if_neg (show leftBracket ≠ leftBrace by decide), if_true]
  cases xs with
  | nil =>
    simp only [List.map_nil, commaSep, List.intercalate, List.intersperse_nil, List.flatten_nil, List.nil_append,
      skipSpace_cons (show isSpace rightBracket = false by rfl), if_true]
    rfl
  | cons x xs =>
    have helem := elements_stringify (List.cons_ne_nil x xs) ih n rest
      (by unfold Fuel; simp only [List.length_cons] at hn ⊢; omega)
    obtain ⟨c, s, hcs, hc⟩ := stringify_cons x
    obtain ⟨t, ht⟩ : ∃ t, commaSep ((x :: xs).map stringify) ++ rightBracket :: rest = c :: t := by
      cases xs <;> simp [commaSep_cons_cons, hcs]
    rw [ht] at helem ⊢
    rw [skipSpace_cons hc.not_space]
    simp only [if_neg hc.not_closing.1, helem]
    simp [Json.map]

theorem readsBack_obj {ms : Json.Members SafeInteger JsString} (ih : ∀ m ∈ ms, ReadsBack m.2) :
    ReadsBack (.obj ms) := by
  intro n rest _ hn
  unfold Fuel at hn
  obtain ⟨n, rfl⟩ : ∃ k, n = k + 1 := ⟨n - 1, by omega⟩
  simp only [stringify_obj, List.append_assoc, List.cons_append, List.nil_append] at hn ⊢
  rw [value, skipSpace_cons (by rfl)]
  simp only [if_true]
  cases ms with
  | nil =>
    simp only [List.map_nil, commaSep, List.intercalate, List.intersperse_nil, List.flatten_nil, List.nil_append,
      skipSpace_cons (show isSpace rightBrace = false by rfl), if_true]
    rfl
  | cons m ms =>
    have hmem := members_stringify (List.cons_ne_nil m ms) ih n rest
      (by unfold Fuel; simp only [List.length_cons] at hn ⊢; omega)
    obtain ⟨t, ht⟩ : ∃ t, commaSep ((m :: ms).map fun m => quote m.1 ++ colon :: stringify m.2) ++
        rightBrace :: rest = quotation :: t := by
      cases ms <;> simp [commaSep_cons_cons, quote]
    rw [ht] at hmem ⊢
    rw [skipSpace_cons (by rfl)]
    simp only [if_neg (show quotation ≠ rightBrace by decide), hmem]
    simp [Json.map]

/-- **A tree reads back as itself.** -/
theorem readsBack (v : Json SafeInteger JsString) : ReadsBack v := by
  induction v with
  | null =>
    refine readsBack_of_scalar fun rest _ => ⟨0x6E, [0x75, 0x6C, 0x6C] ++ rest, ?_, by simp [Starts], by decide, ?_⟩
    · rw [stringify, lit_null, List.cons_append]
    · exact scalar_null rest
  | bool b =>
    cases b with
    | false =>
      refine readsBack_of_scalar fun rest _ =>
        ⟨0x66, [0x61, 0x6C, 0x73, 0x65] ++ rest, ?_, by simp [Starts], by decide, ?_⟩
      · rw [stringify, lit_false, List.cons_append]
      · exact scalar_false rest
    | true =>
      refine readsBack_of_scalar fun rest _ =>
        ⟨0x74, [0x72, 0x75, 0x65] ++ rest, ?_, by simp [Starts], by decide, ?_⟩
      · rw [stringify, lit_true, List.cons_append]
      · exact scalar_true rest
  | num k =>
    obtain ⟨c, s, hcs, hc⟩ := intText_cons k.val
    refine readsBack_of_scalar fun rest hrest =>
      ⟨c, s ++ rest, ?_, hc.elim .inl fun h => .inr (.inl h), ?_, ?_⟩
    · rw [stringify, hcs, List.cons_append]
    · rcases hc with rfl | hc
      · decide
      · refine ⟨?_, ?_, ?_⟩ <;> (rintro rfl; revert hc; decide)
    · rw [← List.cons_append, ← hcs]
      exact scalar_num k hrest
  | str s => exact readsBack_str s
  | arr xs ih => exact readsBack_arr ih
  | obj ms ih => exact readsBack_obj ih

theorem parseText_stringify (v : Json SafeInteger JsString) :
    parseText (stringify v) = some (v.map .ofSafe id) := by
  have h := readsBack v (2 * (stringify v).length + 3) [] (by simp [Boundary]) (by simp [Fuel])
  rw [List.append_nil] at h
  rw [parseText, h]
  rfl

theorem ofSafe_injective : Function.Injective JsNumber.ofSafe := by
  intro m n h
  rw [JsNumber.ofSafe, JsNumber.ofSafe, JsNumber.real.injEq] at h
  exact Subtype.ext (Int.cast_injective h)

theorem stringify_injective : Function.Injective stringify := by
  have : Nonempty SafeInteger := ⟨⟨0, Nat.zero_le _⟩⟩
  intro v w h
  have hparse := (parseText_stringify v).symm.trans ((congrArg parseText h).trans (parseText_stringify w))
  exact Json.map_injective ofSafe_injective (Option.some.inj hparse)

end CasperProof.Js
