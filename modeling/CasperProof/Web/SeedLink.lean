/-
  Shared links to an assessment — `encodeSeed` and `decodeSeed` of
  `riskFactors.ts`.

  The id is the UTF-8 of the seed in base64url.  A `TextDecoder` drops a byte
  order mark, so that a seed which begins with one is not reproduced
  (`seed_survives_iff`).
-/
import CasperProof.Lib.Js.Base64
import Mathlib.Data.List.DropRight

namespace CasperProof.Web

open Js

/-! ## The source -/

/-- `s.replace(/c/g, d)` for two characters. -/
def replaceAll (c d : CodeUnit) (s : JsString) : JsString := s.map fun u => if u = c then d else u

abbrev plusSign : CodeUnit := 0x2B
abbrev solidus : CodeUnit := 0x2F
abbrev hyphen : CodeUnit := 0x2D
abbrev lowLine : CodeUnit := 0x5F

/-- `none` for an exception of `btoa`. -/
def encodeSeed (seed : JsString) : Option JsString := do
  let binary ← btoa (byteString (textEncode seed))
  some ((replaceAll solidus lowLine (replaceAll plusSign hyphen binary)).rdropWhile (· = equalsSign))

/-- `none` for an exception of `atob`. -/
def decodeSeed (id : JsString) : Option JsString := do
  let b64 := replaceAll lowLine solidus (replaceAll hyphen plusSign id)
  let binary ← atob (b64 ++ padding b64.length)
  some (textDecode (charCodes binary))

/-! ## The alphabet of links -/

/-- The digit of a group of six bits in a link. -/
def linkDigit (d : Fin 64) : CodeUnit :=
  if base64Digit d = plusSign then hyphen else if base64Digit d = solidus then lowLine else base64Digit d

/-- Letters, digits, `-` and `_`. -/
def isLinkChar (c : CodeUnit) : Bool :=
  (0x41 ≤ c.val && c.val ≤ 0x5A) || (0x61 ≤ c.val && c.val ≤ 0x7A) || isDigit c || c = hyphen || c = lowLine

theorem linkDigit_spec (d : Fin 64) : linkDigit d ≠ equalsSign ∧ isLinkChar (linkDigit d) ∧
    replaceAll lowLine solidus (replaceAll hyphen plusSign [linkDigit d]) = [base64Digit d] ∧
    replaceAll solidus lowLine (replaceAll plusSign hyphen [base64Digit d]) = [linkDigit d] := by
  revert d; decide

theorem replaceAll_append (c d : CodeUnit) (s t : JsString) :
    replaceAll c d (s ++ t) = replaceAll c d s ++ replaceAll c d t := List.map_append

/-- To the alphabet of links, and back. -/
theorem replace_digits (ds : List (Fin 64)) :
    replaceAll solidus lowLine (replaceAll plusSign hyphen (ds.map base64Digit)) = ds.map linkDigit ∧
      replaceAll lowLine solidus (replaceAll hyphen plusSign (ds.map linkDigit)) = ds.map base64Digit := by
  induction ds with
  | nil => exact ⟨rfl, rfl⟩
  | cons d ds ih =>
    obtain ⟨-, -, hback, hforth⟩ := linkDigit_spec d
    have hcons : ∀ f : Fin 64 → CodeUnit, (d :: ds).map f = [f d] ++ ds.map f := fun f => rfl
    simp only [hcons, replaceAll_append, hback, hforth, ih, and_self]

theorem replace_padding (n : ℕ) : replaceAll solidus lowLine (replaceAll plusSign hyphen
    (List.replicate n equalsSign)) = List.replicate n equalsSign := by
  rw [replaceAll, replaceAll, List.map_map, List.map_replicate]
  rfl

theorem rdropWhile_padding {s : JsString} (hs : equalsSign ∉ s) (n : ℕ) :
    (s ++ List.replicate n equalsSign).rdropWhile (· = equalsSign) = s := by
  induction n with
  | zero =>
    rw [List.replicate_zero, List.append_nil, List.rdropWhile_eq_self_iff]
    intro hne heq
    exact hs (of_decide_eq_true heq ▸ List.getLast_mem hne)
  | succ n ih =>
    rw [List.replicate_succ', ← List.append_assoc, List.rdropWhile_concat, if_pos (decide_eq_true rfl)]
    exact ih

/-! ## Round trip -/

/-- The id of a seed. -/
theorem encodeSeed_eq (seed : JsString) : encodeSeed seed = some ((sextets (textEncode seed)).map linkDigit) := by
  have hnot : equalsSign ∉ (sextets (textEncode seed)).map linkDigit := by
    intro h
    obtain ⟨d, -, hd⟩ := List.mem_map.1 h
    exact (linkDigit_spec d).1 hd
  rw [encodeSeed, btoa_byteString, Option.bind_eq_bind, Option.bind_some, replaceAll_append, replaceAll_append,
    (replace_digits _).1, padding, replace_padding, rdropWhile_padding hnot]

/-- The bytes come back; it remains to decode them. -/
theorem decodeSeed_encodeSeed (seed : JsString) :
    (encodeSeed seed).bind decodeSeed = some (textDecode (textEncode seed)) := by
  have hlen : ((sextets (textEncode seed)).map base64Digit).length = (sextets (textEncode seed)).length :=
    List.length_map _
  rw [encodeSeed_eq, Option.bind_some, decodeSeed]
  simp only [(replace_digits _).2, hlen, atob_digits, Option.bind_eq_bind, Option.bind_some, charCodes_byteString]

/-- Every character of an id is safe in a link. -/
theorem encodeSeed_safe {seed id : JsString} (h : encodeSeed seed = some id) : ∀ c ∈ id, isLinkChar c := by
  rw [encodeSeed_eq] at h
  obtain rfl := Option.some.inj h
  intro c hc
  obtain ⟨d, -, rfl⟩ := List.mem_map.1 hc
  exact (linkDigit_spec d).2.1

/-- What a link is for. -/
structure SeedSurvives (seed : JsString) : Prop where
  roundTrip : (encodeSeed seed).bind decodeSeed = some seed
  safe : ∀ id, encodeSeed seed = some id → ∀ c ∈ id, isLinkChar c

/-- U+FEFF. -/
def byteOrderMark : Char := Char.ofNat 0xFEFF

/-- A leading byte order mark is dropped. -/
theorem textDecode_mark (cs : List Char) : textDecode (textEncode (ofChars (byteOrderMark :: cs))) = ofChars cs := by
  rw [textDecode, textEncode, scalars_ofChars, utf8Decode_encode]
  rfl

/-- **When a link reproduces its seed**: the seed does not begin with a byte
    order mark. -/
theorem seed_survives_iff (cs : List Char) : SeedSurvives (ofChars cs) ↔ cs.head? ≠ some byteOrderMark := by
  constructor
  · rintro ⟨hround, -⟩ hhead
    obtain ⟨cs, rfl⟩ := List.head?_eq_some_iff.1 hhead
    rw [decodeSeed_encodeSeed, textDecode_mark, Option.some.injEq] at hround
    have hlength := congrArg List.length (ofChars_injective hround)
    rw [List.length_cons] at hlength
    omega
  · intro hhead
    refine ⟨?_, fun id => encodeSeed_safe⟩
    rw [decodeSeed_encodeSeed, textDecode, textEncode, scalars_ofChars, utf8Decode_encode]
    cases cs with
    | nil => rfl
    | cons c cs =>
      have hc : c.toNat ≠ 0xFEFF := by
        intro hc
        refine hhead (congrArg some ?_)
        rw [byteOrderMark, ← hc, Char.ofNat_toNat]
      simp only [if_neg hc]

/-- The byte order mark alone comes back as the empty seed. -/
theorem mark_not_reproduced : ¬ ∀ cs : List Char, SeedSurvives (ofChars cs) := by
  intro h
  have hround := (h [byteOrderMark]).roundTrip
  rw [decodeSeed_encodeSeed, textDecode_mark] at hround
  cases hround

end CasperProof.Web
