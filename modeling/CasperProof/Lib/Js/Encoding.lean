/-
  Text and bytes — `TextEncoder` and `TextDecoder`.

  * `scalars`: the scalar values of a string; a lone surrogate becomes U+FFFD.
  * `textEncode`: UTF-8.  It is injective on texts (`textEncode_inj`), the
    strings without lone surrogates; what `stringify` writes is a text.
  * `textDecode`: the decoder of the web standards, one byte at a time, which
    replaces what is malformed and drops a byte order mark.
    `textDecode_textEncode`: it reads back what was encoded.
-/
import CasperProof.Lib.Js.Text

namespace CasperProof.Js

abbrev Bytes := List UInt8

/-- U+FFFD. -/
def replacement : Char := Char.ofNat 0xFFFD

/-! ## Scalar values -/

/-- The scalar value of a code unit that is not part of a surrogate pair. -/
def unitChar (c : CodeUnit) : Char :=
  if isLeading c || isTrailing c then replacement else Char.ofNat c.val

def pairChar (c d : CodeUnit) : Char :=
  Char.ofNat (0x10000 + (c.val - 0xD800) * 0x400 + (d.val - 0xDC00))

/-- Conversion to a `USVString`. -/
def scalars : JsString → List Char
  | [] => []
  | [c] => [unitChar c]
  | c :: d :: s =>
    if isLeading c && isTrailing d then pairChar c d :: scalars s else unitChar c :: scalars (d :: s)

theorem scalars_cons {c : CodeUnit} (h : isLeading c = false) (s : JsString) :
    scalars (c :: s) = unitChar c :: scalars s := by
  cases s with
  | nil => rfl
  | cons d s => simp [scalars, h]

theorem toNat_ofNat_valid {n : ℕ} (h : n.isValidChar) : (Char.ofNat n).toNat = n := by
  rw [Char.ofNat, dif_pos h]
  rfl

theorem toNat_valid (c : Char) : c.toNat < 0xD800 ∨ 0xDFFF < c.toNat ∧ c.toNat < 0x110000 := c.valid

/-- A character below U+10000 is one code unit. -/
theorem utf16_bmp {c : Char} (h : c.toNat < 0x10000) :
    ∃ u : CodeUnit, utf16 c = [u] ∧ u.val = c.toNat ∧ isLeading u = false ∧ isTrailing u = false := by
  have hval : (Fin.ofNat 65536 c.toNat).val = c.toNat := Nat.mod_eq_of_lt h
  refine ⟨_, if_pos h, hval, ?_, ?_⟩
  all_goals
    have := toNat_valid c
    simp only [isLeading, isTrailing, hval, Bool.and_eq_false_iff, decide_eq_false_iff_not]
    omega

/-- The other characters are a surrogate pair. -/
theorem utf16_supplementary {c : Char} (h : ¬ c.toNat < 0x10000) :
    ∃ u d : CodeUnit, utf16 c = [u, d] ∧ isLeading u ∧ isTrailing d ∧ pairChar u d = c := by
  have hvalid := toNat_valid c
  refine ⟨_, _, if_neg h, ?_, ?_, ?_⟩
  · simp only [isLeading, Fin.ofNat, Bool.and_eq_true, decide_eq_true_eq]
    omega
  · simp only [isTrailing, Fin.ofNat, Bool.and_eq_true, decide_eq_true_eq]
    omega
  · rw [pairChar]
    simp only [Fin.ofNat]
    refine Eq.trans (congrArg Char.ofNat ?_) (Char.ofNat_toNat c)
    omega

theorem scalars_utf16 (c : Char) (s : JsString) : scalars (utf16 c ++ s) = c :: scalars s := by
  by_cases h : c.toNat < 0x10000
  · obtain ⟨u, hu, hval, hl, ht⟩ := utf16_bmp h
    rw [hu, List.singleton_append, scalars_cons hl, unitChar, hl, ht, hval]
    exact congrArg (· :: _) (Char.ofNat_toNat c)
  · obtain ⟨u, d, hu, hl, ht, hc⟩ := utf16_supplementary h
    rw [hu, List.cons_append, List.singleton_append, scalars, hl, ht, hc]
    rfl

theorem scalars_ofChars (cs : List Char) : scalars (ofChars cs) = cs := by
  induction cs with
  | nil => rfl
  | cons c cs ih => rw [ofChars, List.flatMap_cons, scalars_utf16, ← ofChars, ih]

theorem ofChars_injective : Function.Injective ofChars := by
  intro cs ds h
  rw [← scalars_ofChars cs, h, scalars_ofChars]

theorem lit_inj {s t : String} : lit s = lit t ↔ s = t :=
  ⟨fun h => String.ext (ofChars_injective h), congrArg lit⟩

@[simp] theorem ofChars_append (cs ds : List Char) : ofChars (cs ++ ds) = ofChars cs ++ ofChars ds :=
  List.flatMap_append

/-! ## Texts -/

/-- A string without lone surrogates. -/
def IsText (s : JsString) : Prop := ∃ cs, ofChars cs = s

theorem isText_lit (s : String) : IsText (lit s) := ⟨_, rfl⟩

theorem IsText.append {s t : JsString} (hs : IsText s) (ht : IsText t) : IsText (s ++ t) := by
  obtain ⟨cs, rfl⟩ := hs
  obtain ⟨ds, rfl⟩ := ht
  exact ⟨cs ++ ds, ofChars_append cs ds⟩

/-- A code unit that is no surrogate. -/
def Plain (c : CodeUnit) : Prop := isLeading c = false ∧ isTrailing c = false

theorem plain_of_lt {c : CodeUnit} (h : c.val < 0xD800) : Plain c := by
  simp only [Plain, isLeading, isTrailing, Bool.and_eq_false_iff, decide_eq_false_iff_not]
  omega

theorem ofChars_plain {c : CodeUnit} (h : Plain c) : ofChars [Char.ofNat c.val] = [c] := by
  obtain ⟨hl, ht⟩ := h
  simp only [isLeading, isTrailing, Bool.and_eq_false_iff, decide_eq_false_iff_not] at hl ht
  have hvalid : c.val.isValidChar := by
    simp only [Nat.isValidChar]
    omega
  have htoNat : (Char.ofNat c.val).toNat = c.val := toNat_ofNat_valid hvalid
  simp [ofChars, utf16, htoNat]

theorem isText_plain {s : JsString} (h : ∀ c ∈ s, Plain c) : IsText s := by
  induction s with
  | nil => exact ⟨[], rfl⟩
  | cons c s ih =>
    have hc : IsText [c] := ⟨_, ofChars_plain (h c (List.mem_cons_self ..))⟩
    exact hc.append (ih fun d hd => h d (List.mem_cons_of_mem _ hd))

theorem hexDigit_plain (d : Fin 16) : Plain (hexDigit d) :=
  plain_of_lt (by have := d.isLt; simp only [hexDigit]; split <;> omega)

/-- An escape sequence is plain ASCII, and what stands for itself is no
    surrogate. -/
theorem escapeUnit_plain (c : CodeUnit) : ∀ d ∈ escapeUnit c, Plain d := by
  have hletter : ∀ e : CodeUnit, e.val < 0xD800 → ∀ d ∈ [backslash, e], Plain d := by
    intro e he d hd
    rcases List.mem_pair.1 hd with rfl | rfl
    · exact plain_of_lt (by decide)
    · exact plain_of_lt he
  unfold escapeUnit
  split_ifs with _ _ _ _ _ _ _ hc
  iterate 7 exact hletter _ (by decide)
  · intro d hd
    simp only [unicodeEscape, List.mem_cons, List.not_mem_nil, or_false] at hd
    rcases hd with rfl | rfl | rfl | rfl | rfl | rfl
    · exact plain_of_lt (by decide)
    · exact plain_of_lt (by decide)
    all_goals exact hexDigit_plain _
  · simp only [Bool.or_eq_true, not_or, Bool.not_eq_true] at hc
    intro d hd
    rw [List.mem_singleton] at hd
    subst hd
    exact ⟨hc.1.2, hc.2⟩

/-- A surrogate pair is a text. -/
theorem isText_pair {c d : CodeUnit} (hc : isLeading c) (hd : isTrailing d) : IsText [c, d] := by
  simp only [isLeading, isTrailing, Bool.and_eq_true, decide_eq_true_eq] at hc hd
  have hvalid : (0x10000 + (c.val - 0xD800) * 0x400 + (d.val - 0xDC00)).isValidChar := by
    simp only [Nat.isValidChar]
    omega
  have htoNat : (pairChar c d).toNat = 0x10000 + (c.val - 0xD800) * 0x400 + (d.val - 0xDC00) :=
    toNat_ofNat_valid hvalid
  refine ⟨[pairChar c d], ?_⟩
  rw [ofChars, List.flatMap_singleton, utf16, if_neg (by omega), htoNat]
  refine List.cons_eq_cons.2 ⟨?_, List.cons_eq_cons.2 ⟨?_, rfl⟩⟩
  all_goals
    rw [Fin.ext_iff]
    simp only [Fin.ofNat]
    omega

theorem isText_escape (s : JsString) : IsText (escape s) := by
  induction s using escape.induct with
  | case1 => exact ⟨[], rfl⟩
  | case2 c => exact isText_plain (escapeUnit_plain c)
  | case3 c d s hpair ih =>
    rw [escape, if_pos hpair]
    rw [Bool.and_eq_true] at hpair
    exact (isText_pair hpair.1 hpair.2).append ih
  | case4 c d s hpair ih =>
    rw [escape, if_neg hpair]
    exact (isText_plain (escapeUnit_plain c)).append ih

theorem isText_singleton {c : CodeUnit} (h : c.val < 0xD800) : IsText [c] :=
  isText_plain fun d hd => by rw [List.mem_singleton.1 hd]; exact plain_of_lt h

theorem isText_quote (s : JsString) : IsText (quote s) :=
  ((isText_singleton (c := quotation) (by decide)).append (isText_escape s)).append (isText_singleton (by decide))

theorem isText_commaSep {parts : List JsString} (h : ∀ p ∈ parts, IsText p) : IsText (commaSep parts) := by
  induction parts with
  | nil => exact ⟨[], rfl⟩
  | cons p parts ih =>
    have hp := h p (List.mem_cons_self ..)
    cases parts with
    | nil => rwa [commaSep_singleton]
    | cons q qs =>
      rw [commaSep_cons_cons]
      exact hp.append ((isText_singleton (c := comma) (by decide)).append
        (ih fun r hr => h r (List.mem_cons_of_mem _ hr)))

theorem isText_intText (n : ℤ) : IsText (intText n) := by
  have hdigits : ∀ m, ∀ c ∈ decimal m, Plain c := by
    intro m c hc
    have := isDigit_decimal m c hc
    simp only [isDigit, Bool.and_eq_true, decide_eq_true_eq] at this
    exact plain_of_lt (by omega)
  refine isText_plain fun c hc => ?_
  unfold intText at hc
  split at hc
  · rcases List.mem_cons.1 hc with rfl | hc
    · exact plain_of_lt (by decide)
    · exact hdigits _ c hc
  · exact hdigits _ c hc

/-- **JSON text has no lone surrogates.** -/
theorem isText_stringify (v : Json SafeInteger JsString) : IsText (stringify v) := by
  induction v with
  | null => exact isText_lit _
  | bool b => cases b <;> exact isText_lit _
  | num n => exact isText_intText n.val
  | str s => exact isText_quote s
  | arr xs ih =>
    rw [stringify_arr]
    refine ((isText_singleton (c := leftBracket) (by decide)).append (isText_commaSep ?_)).append
      (isText_singleton (by decide))
    exact List.forall_mem_map.2 ih
  | obj ms ih =>
    rw [stringify_obj]
    refine ((isText_singleton (c := leftBrace) (by decide)).append (isText_commaSep ?_)).append
      (isText_singleton (by decide))
    refine List.forall_mem_map.2 fun m hm => ?_
    exact (isText_quote m.1).append ((isText_singleton (c := colon) (by decide)).append (ih m hm))

/-! ## Encoding -/

/-- `TextEncoder.encode`. -/
def textEncode (s : JsString) : Bytes := (scalars s).flatMap String.utf8EncodeChar

theorem textEncode_inj {s t : JsString} (hs : IsText s) (ht : IsText t) (h : textEncode s = textEncode t) :
    s = t := by
  obtain ⟨cs, rfl⟩ := hs
  obtain ⟨ds, rfl⟩ := ht
  rw [textEncode, textEncode, scalars_ofChars, scalars_ofChars] at h
  have hutf8 : cs.utf8Encode = ds.utf8Encode := congrArg List.toByteArray h
  have hdecode := congrArg ByteArray.utf8Decode? hutf8
  rw [List.utf8Decode?_utf8Encode, List.utf8Decode?_utf8Encode, Option.some.injEq] at hdecode
  exact congrArg ofChars (by simpa using congrArg Array.toList hdecode)

/-! ## Decoding -/

/-- A character of which some bytes are still to come: how many, the bits so
    far, and the bounds of the next byte. -/
structure Partial where
  needed : ℕ
  point : ℕ
  lower : ℕ
  upper : ℕ

/-- The first byte of a character: the characters that it completes, and what
    it begins. -/
def firstByte (b : UInt8) : List Char × Option Partial :=
  let b := b.toNat
  if b ≤ 0x7F then ([Char.ofNat b], none)
  else if 0xC2 ≤ b ∧ b ≤ 0xDF then ([], some ⟨1, b % 0x20, 0x80, 0xBF⟩)
  else if 0xE0 ≤ b ∧ b ≤ 0xEF then
    ([], some ⟨2, b % 0x10, if b = 0xE0 then 0xA0 else 0x80, if b = 0xED then 0x9F else 0xBF⟩)
  else if 0xF0 ≤ b ∧ b ≤ 0xF4 then
    ([], some ⟨3, b % 0x08, if b = 0xF0 then 0x90 else 0x80, if b = 0xF4 then 0x8F else 0xBF⟩)
  else ([replacement], none)

def nextByte : Option Partial → UInt8 → List Char × Option Partial
  | none, b => firstByte b
  | some p, b =>
    if p.lower ≤ b.toNat ∧ b.toNat ≤ p.upper then
      let point := p.point * 0x40 + b.toNat % 0x40
      if p.needed ≤ 1 then ([Char.ofNat point], none) else ([], some ⟨p.needed - 1, point, 0x80, 0xBF⟩)
    -- The byte is not a continuation: it starts anew.
    else (replacement :: (firstByte b).1, (firstByte b).2)

def utf8Decode : Option Partial → Bytes → List Char
  | none, [] => []
  | some _, [] => [replacement]
  | p, b :: bs => (nextByte p b).1 ++ utf8Decode (nextByte p b).2 bs

/-- `new TextDecoder().decode`. -/
def textDecode (bs : Bytes) : JsString :=
  match utf8Decode none bs with
  | [] => []
  | c :: cs => if c.toNat = 0xFEFF then ofChars cs else ofChars (c :: cs)

theorem toNat_byte {n : ℕ} (h : n < 256) : (UInt8.ofNat n).toNat = n := UInt8.toNat_ofNat_of_lt' h

theorem utf8Decode_one {n : ℕ} (h : n ≤ 0x7F) (bs : Bytes) :
    utf8Decode none (UInt8.ofNat n :: bs) = Char.ofNat n :: utf8Decode none bs := by
  rw [utf8Decode, nextByte, firstByte, toNat_byte (by omega), if_pos h]
  rfl

theorem utf8Decode_two {n : ℕ} (h : 0xC2 ≤ n ∧ n ≤ 0xDF) (bs : Bytes) :
    utf8Decode none (UInt8.ofNat n :: bs) = utf8Decode (some ⟨1, n % 0x20, 0x80, 0xBF⟩) bs := by
  rw [utf8Decode, nextByte, firstByte, toNat_byte (by omega), if_neg (by omega), if_pos h]
  rfl

theorem utf8Decode_three {n : ℕ} (h : 0xE0 ≤ n ∧ n ≤ 0xEF) (bs : Bytes) :
    utf8Decode none (UInt8.ofNat n :: bs) = utf8Decode
      (some ⟨2, n % 0x10, if n = 0xE0 then 0xA0 else 0x80, if n = 0xED then 0x9F else 0xBF⟩) bs := by
  rw [utf8Decode, nextByte, firstByte, toNat_byte (by omega), if_neg (by omega), if_neg (by omega), if_pos h]
  rfl

theorem utf8Decode_four {n : ℕ} (h : 0xF0 ≤ n ∧ n ≤ 0xF4) (bs : Bytes) :
    utf8Decode none (UInt8.ofNat n :: bs) = utf8Decode
      (some ⟨3, n % 0x08, if n = 0xF0 then 0x90 else 0x80, if n = 0xF4 then 0x8F else 0xBF⟩) bs := by
  rw [utf8Decode, nextByte, firstByte, toNat_byte (by omega), if_neg (by omega), if_neg (by omega),
    if_neg (by omega), if_pos h]
  rfl

/-- A byte that continues a character. -/
theorem utf8Decode_more {needed point lower upper n : ℕ} (hn : lower ≤ n ∧ n ≤ upper) (hb : n < 256)
    (bs : Bytes) : utf8Decode (some ⟨needed + 2, point, lower, upper⟩) (UInt8.ofNat n :: bs) =
      utf8Decode (some ⟨needed + 1, point * 0x40 + n % 0x40, 0x80, 0xBF⟩) bs := by
  rw [utf8Decode, nextByte, toNat_byte hb, if_pos hn, if_neg (show ¬ needed + 2 ≤ 1 by omega)]
  rfl

/-- The last byte of a character. -/
theorem utf8Decode_last {point lower upper n : ℕ} (hn : lower ≤ n ∧ n ≤ upper) (hb : n < 256) (bs : Bytes) :
    utf8Decode (some ⟨1, point, lower, upper⟩) (UInt8.ofNat n :: bs) =
      Char.ofNat (point * 0x40 + n % 0x40) :: utf8Decode none bs := by
  rw [utf8Decode, nextByte, toNat_byte hb, if_pos hn, if_pos (le_refl 1)]
  rfl

theorem utf8Decode_encodeChar (c : Char) (bs : Bytes) :
    utf8Decode none (String.utf8EncodeChar c ++ bs) = c :: utf8Decode none bs := by
  have hvalid := toNat_valid c
  have hchar : ∀ n, n = c.toNat → Char.ofNat n :: utf8Decode none bs = c :: utf8Decode none bs := by
    rintro _ rfl
    rw [Char.ofNat_toNat]
  unfold String.utf8EncodeChar
  simp only [show c.val.toNat = c.toNat from rfl]
  split_ifs with h₁ h₂ h₃
  · rw [List.singleton_append, utf8Decode_one h₁]
    exact hchar _ rfl
  · simp only [List.cons_append, List.nil_append]
    rw [utf8Decode_two (by omega), utf8Decode_last (by omega) (by omega)]
    exact hchar _ (by omega)
  · simp only [List.cons_append, List.nil_append]
    rw [utf8Decode_three (by omega), utf8Decode_more (by split_ifs <;> omega) (by omega),
      utf8Decode_last (by omega) (by omega)]
    exact hchar _ (by omega)
  · simp only [List.cons_append, List.nil_append]
    rw [utf8Decode_four (by omega), utf8Decode_more (by split_ifs <;> omega) (by omega),
      utf8Decode_more (by omega) (by omega), utf8Decode_last (by omega) (by omega)]
    exact hchar _ (by omega)

theorem utf8Decode_encode (cs : List Char) : utf8Decode none (cs.flatMap String.utf8EncodeChar) = cs := by
  induction cs with
  | nil => rfl
  | cons c cs ih => rw [List.flatMap_cons, utf8Decode_encodeChar, ih]

/-- **A text is decoded from its encoding**, unless it begins with a byte order
    mark. -/
theorem textDecode_textEncode {s : JsString} (hs : IsText s) (hmark : s.head? ≠ some 0xFEFF) :
    textDecode (textEncode s) = s := by
  obtain ⟨cs, rfl⟩ := hs
  rw [textDecode, textEncode, scalars_ofChars, utf8Decode_encode]
  cases cs with
  | nil => rfl
  | cons c cs =>
    refine if_neg fun hc => hmark ?_
    obtain ⟨u, hu, hval, -, -⟩ := utf16_bmp (show c.toNat < 0x10000 by omega)
    rw [ofChars, List.flatMap_cons, hu, List.singleton_append, List.head?_cons, Option.some.injEq]
    exact Fin.ext (hval.trans hc)

theorem textDecode_stringify (v : Json SafeInteger JsString) : textDecode (textEncode (stringify v)) = stringify v := by
  refine textDecode_textEncode (isText_stringify v) ?_
  obtain ⟨c, s, hcs, hc⟩ := stringify_cons v
  rw [hcs, List.head?_cons]
  rintro ⟨rfl⟩
  exact absurd hc (by unfold Starts; decide)

end CasperProof.Js
