/-
  The Rust mirror of the canonical encoding — `golden_parity` in
  `commitment.rs`.

  * `writeCanonical`: the text with the keys of every object sorted.
  * `ofChars_writeCanonical`: on BMP text it is `JSON.stringify` of the sorted
    tree.
  * `canonicalize_toJs_iff`: `canonicalize` writes the same text exactly when
    the plain objects that `normalize` fills keep the sorted order.
-/
import CasperProof.Commitment.RoundTrip
import Mathlib.Data.Char

namespace CasperProof.GoldenParity

open Js Json Commitment

/-- `serde_json::Value`, with integers as numbers. -/
abbrev RustValue := Json SafeInteger (List Char)

/-! ## Writing -/

/-- `to_string` of an integer. -/
def integerText (n : ℤ) : List Char :=
  if n < 0 then "-".toList ++ Nat.toDigits 10 n.natAbs else Nat.toDigits 10 n.natAbs

/-- The escapes of `serde_json`. -/
def escapeChar (c : Char) : List Char :=
  if c.toNat = 0x22 then "\\\"".toList
  else if c.toNat = 0x5C then "\\\\".toList
  else if c.toNat = 0x08 then "\\b".toList
  else if c.toNat = 0x0C then "\\f".toList
  else if c.toNat = 0x0A then "\\n".toList
  else if c.toNat = 0x0D then "\\r".toList
  else if c.toNat = 0x09 then "\\t".toList
  else if c.toNat < 0x20 then "\\u00".toList ++ [Nat.digitChar (c.toNat / 16), Nat.digitChar (c.toNat % 16)]
  else [c]

def writeJsonString (s : List Char) : List Char := "\"".toList ++ s.flatMap escapeChar ++ "\"".toList

/-- The parts, with commas between them. -/
def commas (parts : List (List Char)) : List Char := ",".toList.intercalate parts

/-- An entry of an object, its value already written. -/
def writeEntry (m : List Char × List Char) : List Char := writeJsonString m.1 ++ ":".toList ++ m.2

mutual

def writeCanonical : RustValue → List Char
  | .null => "null".toList
  | .bool true => "true".toList
  | .bool false => "false".toList
  | .num n => integerText n.val
  | .str s => writeJsonString s
  | .arr xs => "[".toList ++ commas (writeElements xs) ++ "]".toList
  | .obj ms => "\x7b".toList ++ commas ((sortKeys (writeMembers ms)).map writeEntry) ++ "\x7d".toList

def writeElements : List RustValue → List (List Char)
  | [] => []
  | x :: xs => writeCanonical x :: writeElements xs

/-- The text of the value under every key. -/
def writeMembers : Members SafeInteger (List Char) → List (List Char × List Char)
  | [] => []
  | (k, v) :: ms => (k, writeCanonical v) :: writeMembers ms

end

/-- The JavaScript value of the same JSON data, its objects created property by
    property. -/
def toJs (r : RustValue) : Value := r.rebuild .ofSafe ofChars createObject

/-! ## The same text -/

/-- Text of the basic multilingual plane. -/
def Bmp (s : List Char) : Prop := ∀ c ∈ s, c.toNat < 0x10000

instance : DecidablePred Bmp := fun s => List.decidableBAll (fun c : Char => c.toNat < 0x10000) s

theorem utf16_digitChar : ∀ d : Fin 16, utf16 (Nat.digitChar d) = [hexDigit d] := by decide

theorem ofChars_cons (c : Char) (s : List Char) : ofChars (c :: s) = utf16 c ++ ofChars s := List.flatMap_cons

/-- A character and its code unit are escaped alike. -/
theorem ofChars_escapeChar {c : Char} {u : CodeUnit} (hu : utf16 c = [u]) (hval : u.val = c.toNat)
    (hl : isLeading u = false) (ht : isTrailing u = false) : ofChars (escapeChar c) = escapeUnit u := by
  have hunit : ∀ k : CodeUnit, c.toNat = k.val → u = k := fun k hk => Fin.ext (hval.trans hk)
  have hne : ∀ k : CodeUnit, c.toNat ≠ k.val → u ≠ k := by
    rintro k hk rfl
    exact hk hval.symm
  unfold escapeChar
  split_ifs with h₁ h₂ h₃ h₄ h₅ h₆ h₇ h₈
  · rw [hunit 0x22 h₁]; decide
  · rw [hunit 0x5C h₂]; decide
  · rw [hunit 0x08 h₃]; decide
  · rw [hunit 0x0C h₄]; decide
  · rw [hunit 0x0A h₅]; decide
  · rw [hunit 0x0D h₆]; decide
  · rw [hunit 0x09 h₇]; decide
  · have hlow : ofChars "\\u00".toList = [backslash, 0x75, 0x30, 0x30] := by decide
    have hhigh := utf16_digitChar ⟨c.toNat / 16, by omega⟩
    have hlast := utf16_digitChar ⟨c.toNat % 16, by omega⟩
    rw [ofChars_append, hlow, ofChars_cons, ofChars_cons, hhigh, hlast]
    rw [escapeUnit, if_neg (hne 8 h₃), if_neg (hne 9 h₇), if_neg (hne 0xA h₅), if_neg (hne 0xC h₄),
      if_neg (hne 0xD h₆), if_neg (hne 0x22 h₁), if_neg (hne 0x5C h₂), if_pos (by simp [hval, h₈])]
    have h4096 : c.toNat / 4096 = 0 := by omega
    have h256 : c.toNat / 256 % 16 = 0 := by omega
    have h16 : c.toNat / 16 % 16 = c.toNat / 16 := by omega
    simp only [unicodeEscape, hval, h4096, h256, h16]
    rfl
  · rw [ofChars_cons, hu]
    rw [escapeUnit, if_neg (hne 8 h₃), if_neg (hne 9 h₇), if_neg (hne 0xA h₅), if_neg (hne 0xC h₄),
      if_neg (hne 0xD h₆), if_neg (hne 0x22 h₁), if_neg (hne 0x5C h₂), if_neg (by simpa [hval, hl, ht] using h₈)]
    rfl

theorem escape_cons {c : CodeUnit} (hc : isLeading c = false) (s : JsString) :
    escape (c :: s) = escapeUnit c ++ escape s := by
  cases s with
  | nil => simp [escape]
  | cons d s => rw [escape, if_neg (by simp [hc])]

theorem ofChars_escape {s : List Char} (hs : Bmp s) : ofChars (s.flatMap escapeChar) = escape (ofChars s) := by
  induction s with
  | nil => rfl
  | cons c s ih =>
    obtain ⟨hc, hs⟩ := List.forall_mem_cons.1 hs
    obtain ⟨u, hu, hval, hl, ht⟩ := utf16_bmp hc
    rw [List.flatMap_cons, ofChars_append, ofChars_escapeChar hu hval hl ht, ih hs, ofChars_cons, hu,
      List.singleton_append, escape_cons hl]

theorem ofChars_writeJsonString {s : List Char} (hs : Bmp s) : ofChars (writeJsonString s) = quote (ofChars s) := by
  have hquote : ofChars "\"".toList = [quotation] := by decide
  rw [writeJsonString, ofChars_append, ofChars_append, hquote, ofChars_escape hs, quote, List.singleton_append]

/-! ### Numbers -/

theorem decimal_of_lt {n : ℕ} (h : n < 10) : decimal n = [digit n] := by
  unfold decimal
  split
  · rename_i hn; subst hn; rfl
  · rename_i hn; rw [Nat.digits_of_lt 10 n hn h]; rfl

theorem decimal_append {n : ℕ} (h : 10 ≤ n) : decimal n = decimal (n / 10) ++ [digit (n % 10)] := by
  unfold decimal
  rw [if_neg (by omega), if_neg (by omega), Nat.digits_def' (by omega) (by omega)]
  simp

theorem ofChars_toDigits (n : ℕ) : ofChars (Nat.toDigits 10 n) = decimal n := by
  have hdigit : ∀ d : Fin 10, ofChars [Nat.digitChar d] = [digit d] := by decide
  induction n using Nat.strong_induction_on with
  | h n ih =>
    rw [Nat.toDigits_eq_if (by omega)]
    split
    · rename_i h
      rw [decimal_of_lt h]
      exact hdigit ⟨n, h⟩
    · rename_i h
      rw [ofChars_append, ih (n / 10) (by omega), decimal_append (n := n) (by omega)]
      exact congrArg _ (hdigit ⟨n % 10, by omega⟩)

theorem ofChars_integerText (n : ℤ) : ofChars (integerText n) = intText n := by
  have hminus : ofChars "-".toList = [minus] := by decide
  unfold integerText intText
  split
  · rw [ofChars_append, hminus, ofChars_toDigits, List.singleton_append]
  · exact ofChars_toDigits _

/-! ### The order of keys -/

/-- On BMP text, the order of code points is the order of code units. -/
theorem ofChars_lt_iff {s t : List Char} (hs : Bmp s) (ht : Bmp t) : ofChars s < ofChars t ↔ s < t := by
  induction s generalizing t with
  | nil =>
    cases t with
    | nil => simp
    | cons d t =>
      obtain ⟨v, hv, -⟩ := utf16_bmp (ht d (List.mem_cons_self ..))
      rw [ofChars_cons, hv]
      exact iff_of_true (List.nil_lt_cons _ _) (List.nil_lt_cons _ _)
  | cons c s ih =>
    obtain ⟨hc, hs⟩ := List.forall_mem_cons.1 hs
    obtain ⟨u, hu, hcu, -⟩ := utf16_bmp hc
    cases t with
    | nil => simp [ofChars]
    | cons d t =>
      obtain ⟨hd, ht⟩ := List.forall_mem_cons.1 ht
      obtain ⟨v, hv, hdv, -⟩ := utf16_bmp hd
      have hlt : u < v ↔ c < d := by
        rw [Fin.lt_def, hcu, hdv]
        exact Iff.rfl
      have heq : u = v ↔ c = d := by
        rw [Fin.ext_iff, hcu, hdv, Char.toNat_inj]
      rw [ofChars_cons, ofChars_cons, hu, hv, List.singleton_append, List.singleton_append, List.cons_lt_cons_iff,
        List.cons_lt_cons_iff, ih hs ht, hlt, heq]

theorem sortKeys_ofChars {A B : Type} (φ : A → B) {ms : List (List Char × A)} (h : ∀ m ∈ ms, Bmp m.1) :
    sortKeys (ms.map fun m => (ofChars m.1, φ m.2)) = (sortKeys ms).map fun m => (ofChars m.1, φ m.2) := by
  have hkey : ∀ k ∈ keys ms, Bmp k := List.forall_mem_map.2 h
  refine sortKeys_map φ ms fun a ha b hb => ?_
  rw [← not_lt, ← not_lt, ofChars_lt_iff (hkey b hb) (hkey a ha)]

/-! ### Trees -/

theorem writeElements_eq (xs : List RustValue) : writeElements xs = xs.map writeCanonical := by
  induction xs with
  | nil => rfl
  | cons x xs ih => rw [writeElements, ih, List.map_cons]

theorem writeMembers_eq (ms : Members SafeInteger (List Char)) :
    writeMembers ms = ms.map fun m => (m.1, writeCanonical m.2) := by
  induction ms with
  | nil => rfl
  | cons m ms ih => rw [writeMembers, ih, List.map_cons]

theorem ofChars_commas (parts : List (List Char)) : ofChars (commas parts) = commaSep (parts.map ofChars) := by
  induction parts with
  | nil => rfl
  | cons p parts ih =>
    cases parts with
    | nil => simp [commas, List.intercalate]
    | cons q qs =>
      have hcons : commas (p :: q :: qs) = p ++ ",".toList ++ commas (q :: qs) := by simp [commas, List.intercalate]
      have hcomma : ofChars ",".toList = [comma] := by decide
      rw [hcons, ofChars_append, ofChars_append, ih, hcomma]
      simp [commaSep_cons_cons]

/-- **`write_canonical` as a JavaScript string**: the text of the tree with its
    keys sorted. -/
theorem ofChars_writeCanonical {r : Json SafeInteger (List Char)} (hr : r.EveryString Bmp) :
    ofChars (writeCanonical r) = stringify (r.rebuild id ofChars sortKeys) := by
  induction r with
  | null => rfl
  | bool b => cases b <;> rfl
  | num n => exact ofChars_integerText n.val
  | str s => exact ofChars_writeJsonString hr
  | arr xs ih =>
    have hxs : xs.map (fun x => ofChars (writeCanonical x)) =
        xs.map fun x => stringify (x.rebuild id ofChars sortKeys) :=
      List.map_congr_left fun x hx => ih x hx ((every_arr xs).1 hr x hx)
    have hleft : ofChars "[".toList = [leftBracket] := by decide
    have hright : ofChars "]".toList = [rightBracket] := by decide
    rw [writeCanonical, writeElements_eq, ofChars_append, ofChars_append, ofChars_commas, hleft, hright,
      rebuild_arr, stringify_arr, List.map_map, List.map_map]
    simp only [Function.comp_def, hxs]
    rfl
  | obj ms ih =>
    obtain ⟨-, hms⟩ := (every_obj ms).1 hr
    have hleft : ofChars "\x7b".toList = [leftBrace] := by decide
    have hright : ofChars "\x7d".toList = [rightBrace] := by decide
    have hcolon : ofChars ":".toList = [colon] := by decide
    have hentry : ∀ m ∈ sortKeys ms, ofChars (writeEntry (m.1, writeCanonical m.2)) =
        quote (ofChars m.1) ++ colon :: stringify (m.2.rebuild id ofChars sortKeys) := by
      intro m hm
      have hm' := (sortKeys_perm ms).mem_iff.1 hm
      rw [writeEntry, ofChars_append, ofChars_append, hcolon, ofChars_writeJsonString (hms m hm').1,
        ih m hm' (hms m hm').2, List.append_assoc]
      rfl
    have hwritten : sortKeys (ms.map fun m => (m.1, writeCanonical m.2)) =
        (sortKeys ms).map fun m => (m.1, writeCanonical m.2) := sortKeys_map (g := id) _ ms fun _ _ _ _ => Iff.rfl
    rw [writeCanonical, writeMembers_eq, ofChars_append, ofChars_append, ofChars_commas, hleft, hright,
      rebuild_obj, stringify_obj, hwritten, sortKeys_ofChars _ fun m hm => (hms m hm).1]
    simp only [List.map_map, Function.comp_def, List.map_congr_left hentry]
    rfl

/-! ## When the texts agree -/

/-- In plain objects the keys stay as they are sorted: none is `__proto__`, and
    no array index comes after another key or a greater index. -/
def StaysSorted (ks : List JsString) : Prop :=
  protoKey ∉ ks ∧ ∀ a ∈ ks, ∀ b ∈ ks, a < b → Precedes a b

section
variable {A : Type} {ms : List (JsString × A)}

theorem arrange_createObject (h : (keys ms).Nodup) : arrange (createObject ms) = arrange ms := by
  have hperm : (createObject ms).Perm ms := by
    rw [createObject_eq h]
    exact enumerate_perm ms
  rw [arrange_eq (nodup_createObject ms), arrange_eq h,
    sortKeys_eq_of_perm (hperm.filter _) (keys_filter_nodup h)]

theorem arrange_eq_sortKeys (h : (keys ms).Nodup) (hs : StaysSorted (keys ms)) : arrange ms = sortKeys ms := by
  rw [arrange_eq h, filter_keys_eq_self hs.1]
  refine enumerate_eq_self ((sortKeys_strict h).imp_of_mem fun {a b} ha hb hab => ?_)
  have hmem : ∀ m ∈ sortKeys ms, m.1 ∈ keys ms := fun m hm =>
    List.mem_map_of_mem ((sortKeys_perm ms).mem_iff.1 hm)
  exact hs.2 _ (hmem a ha) _ (hmem b hb) hab

theorem staysSorted_of_keys_eq (h : (keys ms).Nodup) (heq : keys (arrange ms) = keys (sortKeys ms)) :
    StaysSorted (keys ms) := by
  have hkeys : (keys (arrange ms)).Perm (keys ms) := by
    rw [heq]
    exact (sortKeys_perm ms).map Prod.fst
  refine ⟨fun hproto => ?_, ?_⟩
  · rw [← hkeys.mem_iff, ((arrange_perm h).map Prod.fst).mem_iff] at hproto
    obtain ⟨m, hm, hm'⟩ := List.mem_map.1 hproto
    simp [hm'] at hm
  · -- The sorted keys are both in ascending order and in order of enumeration.
    have hlt : (keys (sortKeys ms)).Pairwise (· < ·) := List.pairwise_map.2 (sortKeys_strict h)
    have hprec : (keys (sortKeys ms)).Pairwise Precedes := by
      rw [← heq, arrange_eq h]
      exact List.pairwise_map.2 (enumerate_pairwise _)
    have hboth : (keys (sortKeys ms)).Pairwise fun a b => (a < b → Precedes a b) ∧ (b < a → Precedes b a) :=
      (hlt.and hprec).imp fun hab => ⟨fun _ => hab.2, fun hba => absurd hab.1 hba.asymm⟩
    have hsymm : Std.Symm fun a b : JsString => (a < b → Precedes a b) ∧ (b < a → Precedes b a) :=
      ⟨fun _ _ hab => hab.symm⟩
    rw [← heq] at hboth
    intro a ha b hb hab
    exact (hboth.forall (hkeys.mem_iff.2 ha) (hkeys.mem_iff.2 hb) hab.ne).1 hab

end

/-- What `canonicalize` writes for the JavaScript value. -/
theorem canonicalize_toJs (r : RustValue) :
    canonicalize (toJs r) = .ok (stringify (r.rebuild id ofChars fun ms => arrange (createObject ms))) := by
  have hsafe : toSafe ∘ JsNumber.ofSafe = id := funext fun i => by
    rw [Function.comp_apply, toSafe, assertCanonicalNumber_ofSafe, id]
  refine canonicalize_ok.2 ⟨?_, ?_⟩
  · refine everyNumber_rebuild (fun i => ⟨i, assertCanonicalNumber_ofSafe i⟩) ?_ r
    intro ms m hm
    exact mem_createObject hm
  · rw [toJs, rebuild_rebuild (h := fun _ => createObject) keywise_createObject, hsafe]

/-- **The two canonical encodings agree** on a value of BMP text iff in all its
    objects the keys stay sorted. -/
theorem canonicalize_toJs_iff {r : RustValue} (hbmp : r.EveryString Bmp) (hd : r.Distinct) :
    canonicalize (toJs r) = .ok (ofChars (writeCanonical r)) ↔ r.EveryKeys fun ks => StaysSorted (ks.map ofChars) := by
  rw [canonicalize_toJs, ofChars_writeCanonical hbmp, Except.ok.injEq, stringify_injective.eq_iff]
  refine rebuild_eq_iff (h := fun _ ms => arrange (createObject ms)) (k := fun _ => sortKeys) keywise_sortKeys
    ?_ ?_ (hd.mono (fun _ h => h) (fun _ h => h) fun ks hks => hks.map ofChars_injective)
  · intro A ms hnodup heq
    rw [arrange_createObject hnodup] at heq
    exact staysSorted_of_keys_eq hnodup heq
  · intro A ms hnodup hs
    rw [arrange_createObject hnodup, arrange_eq_sortKeys hnodup hs]
    exact ⟨rfl, sortKeys_perm ms⟩

/-- Two keys that stay sorted. -/
def wordKeys : RustValue := .obj [("b".toList, .num ⟨-3, by decide⟩), ("a".toList, .str "x".toList)]

theorem canonicalize_toJs_iff_demo : canonicalize (toJs wordKeys) = .ok (ofChars (writeCanonical wordKeys)) := by
  have hbmp : wordKeys.EveryString Bmp := by decide +kernel
  have hd : wordKeys.Distinct := by unfold Distinct; decide +kernel
  have hs : wordKeys.EveryKeys fun ks => StaysSorted (ks.map ofChars) := by
    unfold StaysSorted Precedes
    decide +kernel
  exact (canonicalize_toJs_iff hbmp hd).2 hs

/-- Two array indices as keys. -/
def indexKeys : RustValue := .obj [("9".toList, .null), ("10".toList, .null)]

/-- `"10"` sorts before `"9"`, but the index `9` is enumerated before `10`. -/
theorem index_keys_differ :
    canonicalize (toJs indexKeys) = .ok (lit "\x7b\"9\":null,\"10\":null\x7d") ∧
    writeCanonical indexKeys = "\x7b\"10\":null,\"9\":null\x7d".toList ∧
    canonicalize (toJs indexKeys) ≠ .ok (ofChars (writeCanonical indexKeys)) := by
  decide +kernel

end CasperProof.GoldenParity
