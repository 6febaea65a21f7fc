/-
  Base64 of byte strings — `btoa` and `atob`.

  * `sextets`, `octets`: bytes in groups of six bits and back.
    `octets_sextets`: the groups determine the bytes, for every length.
  * `atob_digits`: the digits of an encoding are decoded with any padding that
    `btoa` would give them.
-/
import CasperProof.Lib.Js.Encoding

namespace CasperProof.Js

/-! ## Groups of six bits -/

def sextet (n : ℕ) : Fin 64 := ⟨n % 64, Nat.mod_lt _ (by decide)⟩

/-- The bits of the bytes in groups of six, the last one filled with zeros. -/
def sextets : Bytes → List (Fin 64)
  | [] => []
  | [a] => [sextet (a.toNat / 4), sextet (a.toNat * 16)]
  | [a, b] => [sextet (a.toNat / 4), sextet (a.toNat * 16 + b.toNat / 16), sextet (b.toNat * 4)]
  | a :: b :: c :: bs =>
    sextet (a.toNat / 4) :: sextet (a.toNat * 16 + b.toNat / 16) :: sextet (b.toNat * 4 + c.toNat / 64) ::
      sextet c.toNat :: sextets bs

/-- The bytes of groups of six bits; what is left of the last group is dropped. -/
def octets : List (Fin 64) → Bytes
  | p :: q :: r :: t :: ds =>
    UInt8.ofNat (p * 4 + q / 16) :: UInt8.ofNat (q * 16 + r / 4) :: UInt8.ofNat (r * 64 + t) :: octets ds
  | [p, q, r] => [UInt8.ofNat (p * 4 + q / 16), UInt8.ofNat (q * 16 + r / 4)]
  | [p, q] => [UInt8.ofNat (p * 4 + q / 16)]
  | [_] | [] => []

theorem ofNat_eq {a : UInt8} {n : ℕ} (h : n % 256 = a.toNat) : UInt8.ofNat n = a := by
  rw [← UInt8.toNat_inj, UInt8.toNat_ofNat']
  exact h

/-- **The groups determine the bytes.** -/
theorem octets_sextets (bs : Bytes) : octets (sextets bs) = bs := by
  induction bs using sextets.induct with
  | case1 => rfl
  | case2 a =>
    have ha := a.toNat_lt
    rw [sextets, octets, ofNat_eq]
    simp only [sextet]
    omega
  | case3 a b =>
    have ha := a.toNat_lt
    have hb := b.toNat_lt
    rw [sextets, octets, ofNat_eq (a := a), ofNat_eq (a := b)]
    · simp only [sextet]
      omega
    · simp only [sextet]
      omega
  | case4 a b c bs ih =>
    have ha := a.toNat_lt
    have hb := b.toNat_lt
    have hc := c.toNat_lt
    rw [sextets, octets, ih, ofNat_eq (a := a), ofNat_eq (a := b), ofNat_eq (a := c)]
    · simp only [sextet]
      omega
    · simp only [sextet]
      omega
    · simp only [sextet]
      omega

/-- No encoding ends with a single group. -/
theorem length_sextets (bs : Bytes) : (sextets bs).length % 4 ≠ 1 := by
  induction bs using sextets.induct with
  | case1 | case2 | case3 => simp [sextets]
  | case4 a b c bs ih =>
    simp only [sextets, List.length_cons]
    omega

/-! ## The alphabet -/

/-- The digit of a group. -/
def base64Digit (d : Fin 64) : CodeUnit :=
  if d.val < 26 then Fin.ofNat 65536 (0x41 + d.val)
  else if d.val < 52 then Fin.ofNat 65536 (0x61 + (d.val - 26))
  else if d.val < 62 then Fin.ofNat 65536 (0x30 + (d.val - 52))
  else if d.val = 62 then 0x2B
  else 0x2F

def base64Value (c : CodeUnit) : Option (Fin 64) :=
  if 0x41 ≤ c.val ∧ c.val ≤ 0x5A then some (Fin.ofNat 64 (c.val - 0x41))
  else if 0x61 ≤ c.val ∧ c.val ≤ 0x7A then some (Fin.ofNat 64 (c.val - 0x61 + 26))
  else if 0x30 ≤ c.val ∧ c.val ≤ 0x39 then some (Fin.ofNat 64 (c.val - 0x30 + 52))
  else if c = 0x2B then some 62
  else if c = 0x2F then some 63
  else none

theorem base64Value_digit (d : Fin 64) : base64Value (base64Digit d) = some d := by
  revert d; decide

/-! ## The functions -/

abbrev equalsSign : CodeUnit := 0x3D

/-- The padding of so many digits, up to a multiple of four. -/
def padding (digits : ℕ) : JsString := List.replicate ((4 - digits % 4) % 4) equalsSign

/-- The string of the code units that the bytes are. -/
def byteString (bs : Bytes) : JsString := bs.map fun b => Fin.ofNat 65536 b.toNat

/-- The code units as bytes. -/
def charCodes (s : JsString) : Bytes := s.map fun c => UInt8.ofNat c.val

/-- `none` for an `InvalidCharacterError`. -/
def btoa (s : JsString) : Option JsString :=
  if s.all fun c => c.val ≤ 0xFF then
    let digits := (sextets (charCodes s)).map base64Digit
    some (digits ++ padding digits.length)
  else none

def isAsciiWhite (c : CodeUnit) : Bool := c.val ∈ [0x09, 0x0A, 0x0C, 0x0D, 0x20]

/-- The text without one or two equals signs at its end. -/
def dropPadding (s : JsString) : JsString :=
  if (lit "==").isSuffixOf s then s.take (s.length - 2)
  else if (lit "=").isSuffixOf s then s.take (s.length - 1)
  else s

/-- `none` for an `InvalidCharacterError`. -/
def atob (s : JsString) : Option JsString :=
  let s := s.filter fun c => !isAsciiWhite c
  let s := if s.length % 4 = 0 then dropPadding s else s
  if s.length % 4 = 1 then none else (s.mapM base64Value).map fun ds => byteString (octets ds)

theorem charCodes_byteString (bs : Bytes) : charCodes (byteString bs) = bs := by
  rw [charCodes, byteString, List.map_map]
  have hcode : ∀ b : UInt8, UInt8.ofNat (Fin.ofNat 65536 b.toNat).val = b := by
    intro b
    have hb := b.toNat_lt
    refine ofNat_eq ?_
    simp only [Fin.ofNat]
    omega
  exact (List.map_congr_left fun b _ => hcode b).trans (List.map_id bs)

/-- A byte string is encoded. -/
theorem btoa_byteString (bs : Bytes) :
    btoa (byteString bs) = some ((sextets bs).map base64Digit ++ padding (sextets bs).length) := by
  have hall : (byteString bs).all (fun c => c.val ≤ 0xFF) = true := by
    rw [List.all_eq_true]
    intro c hc
    obtain ⟨b, -, rfl⟩ := List.mem_map.1 hc
    have hb := b.toNat_lt
    simp only [Fin.ofNat, decide_eq_true_eq]
    omega
  simp only [btoa, if_pos hall, charCodes_byteString, List.length_map]

theorem base64Digit_ne (d : Fin 64) : base64Digit d ≠ equalsSign ∧ isAsciiWhite (base64Digit d) = false := by
  revert d; decide

theorem not_mem_digits (ds : List (Fin 64)) : equalsSign ∉ ds.map base64Digit := by
  intro h
  obtain ⟨d, -, hd⟩ := List.mem_map.1 h
  exact (base64Digit_ne d).1 hd

/-- The padding is dropped, where there is one. -/
theorem dropPadding_eq {s : JsString} (hs : equalsSign ∉ s) {n : ℕ} (hn : n ≤ 2) :
    dropPadding (s ++ List.replicate n equalsSign) = s := by
  have hend : ∀ {t u : JsString}, u ++ [equalsSign] ++ t = s ++ t → False := by
    intro t u h
    have heq := List.append_cancel_right h
    exact hs (heq ▸ List.mem_append_right u (List.mem_singleton_self _))
  match n with
  | 0 =>
    have hnot : ∀ p : JsString, equalsSign ∈ p → p.isSuffixOf s = false := by
      intro p hp
      rw [Bool.eq_false_iff]
      intro h
      exact hs ((List.isSuffixOf_iff_suffix.1 h).subset hp)
    rw [List.replicate_zero, List.append_nil, dropPadding, hnot (lit "==") (by decide), hnot (lit "=") (by decide)]
    rfl
  | 1 =>
    have htwo : (lit "==").isSuffixOf (s ++ [equalsSign]) = false := by
      rw [Bool.eq_false_iff]
      intro h
      obtain ⟨u, hu⟩ := List.isSuffixOf_iff_suffix.1 h
      have hu' : u ++ [equalsSign] ++ [equalsSign] = s ++ [equalsSign] := by rw [List.append_assoc]; exact hu
      exact hend hu'
    have hone : (lit "=").isSuffixOf (s ++ [equalsSign]) = true :=
      List.isSuffixOf_iff_suffix.2 (List.suffix_append s [equalsSign])
    rw [List.replicate_one, dropPadding, htwo, hone, List.length_append]
    exact List.take_left
  | 2 =>
    have htwo : (lit "==").isSuffixOf (s ++ [equalsSign, equalsSign]) = true :=
      List.isSuffixOf_iff_suffix.2 (List.suffix_append s [equalsSign, equalsSign])
    rw [show List.replicate 2 equalsSign = [equalsSign, equalsSign] from rfl, dropPadding, htwo, List.length_append]
    exact List.take_left

theorem mapM_base64Value (ds : List (Fin 64)) : (ds.map base64Digit).mapM base64Value = some ds := by
  induction ds with
  | nil => rfl
  | cons d ds ih => rw [List.map_cons, List.mapM_cons, base64Value_digit, ih]; rfl

/-- **What was encoded is decoded.** -/
theorem atob_digits (bs : Bytes) :
    atob ((sextets bs).map base64Digit ++ padding (sextets bs).length) = some (byteString bs) := by
  have hlen := length_sextets bs
  have hwhite : ((sextets bs).map base64Digit ++ padding (sextets bs).length).filter (fun c => !isAsciiWhite c) =
      (sextets bs).map base64Digit ++ padding (sextets bs).length := by
    rw [List.filter_eq_self]
    intro c hc
    rcases List.mem_append.1 hc with hc | hc
    · obtain ⟨d, -, rfl⟩ := List.mem_map.1 hc
      rw [(base64Digit_ne d).2]
      rfl
    · rw [List.eq_of_mem_replicate hc]
      rfl
  have hfour : ((sextets bs).map base64Digit ++ padding (sextets bs).length).length % 4 = 0 := by
    rw [List.length_append, List.length_map, padding, List.length_replicate]
    omega
  have hdrop : dropPadding ((sextets bs).map base64Digit ++ padding (sextets bs).length) =
      (sextets bs).map base64Digit := dropPadding_eq (not_mem_digits _) (by omega)
  simp only [atob, hwhite, if_pos hfour, hdrop, List.length_map, if_neg hlen, mapM_base64Value, Option.map_some,
    octets_sextets]

end CasperProof.Js
