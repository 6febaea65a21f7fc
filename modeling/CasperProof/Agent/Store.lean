/-
  `PayloadStore` — the content-addressed store of off-chain payloads, over the
  in-memory backend.

  `put_returns` and `getJson_returns` say what is stored and what is read; a
  `corrupt` changes the bytes under a URI and nothing else.
-/
import CasperProof.Lib.Mapping
import CasperProof.Lib.Op
import CasperProof.Commitment.Commitment
import Mathlib.Data.List.TakeWhile

namespace CasperProof.Agent

open Js Commitment

/-- What the store throws; `notJson` is the `SyntaxError` of `JSON.parse`. -/
inductive StoreError where
  | invalidUri (uri : JsString)
  | notFound (bucket key : JsString)
  | cannotCorrupt (uri : JsString)
  | canonical (e : CanonicalizationError)
  | notJson
deriving DecidableEq

/-- The objects of a `MemoryBackend`, by `bucket/key`. -/
abbrev MemoryBackend := Mapping JsString Bytes

abbrev StoreOp (α : Type) := Op MemoryBackend StoreError α

/-- Raw bytes, or a JSON value. -/
inductive Payload where
  | bytes (bs : Bytes)
  | json (v : Value)

def toBytes : Payload → Except StoreError Bytes
  | .bytes bs => .ok bs
  | .json v => (canonicalBytes v).mapError .canonical

theorem toBytes_json {v : Value} {bs : Bytes} : toBytes (.json v) = .ok bs ↔ canonicalBytes v = .ok bs :=
  mapError_eq_ok

/-! ## URIs -/

abbrev slash : CodeUnit := 0x2F

/-- What `.` does not match. -/
def isLineTerminator (c : CodeUnit) : Bool := c.val ∈ [0x0A, 0x0D, 0x2028, 0x2029]

/-- The match of `^s3:\/\/([^/]+)\/(.+)$`. -/
def parseUri (uri : JsString) : Except StoreError (JsString × JsString) :=
  let rest := uri.drop 5
  let bucket := rest.takeWhile (· ≠ slash)
  let key := (rest.dropWhile (· ≠ slash)).drop 1
  if (lit "s3://").isPrefixOf uri ∧ bucket ≠ [] ∧ key ≠ [] ∧ key.all (!isLineTerminator ·) then .ok (bucket, key)
  else .error (.invalidUri uri)

namespace MemoryBackend

/-- `private ref`. -/
def ref (bucket key : JsString) : JsString := bucket ++ slash :: key

def putBytes (bucket key : JsString) (bytes : Bytes) : StoreOp PUnit :=
  Op.modify fun s => s.set (ref bucket key) bytes

def getBytes (bucket key : JsString) : StoreOp Bytes := do
  let s ← Op.get
  Op.orFail (s.get (ref bucket key)) (.notFound bucket key)

/-- `false` when there is no such object. -/
def tamper (bucket key : JsString) (bytes : Bytes) : StoreOp Bool := do
  let s ← Op.get
  if (s.get (ref bucket key)).isNone then pure false
  else do
    putBytes bucket key bytes
    pure true

end MemoryBackend

/-! ## The store -/

namespace PayloadStore

section
variable (blake2b256 : Blake2b) (bucket : JsString)

def contentKey (bytes : Bytes) : JsString := toHex (blake2b256 bytes).toList

/-- The URI of an object. -/
def objectUri (bucket key : JsString) : JsString := lit "s3://" ++ bucket ++ slash :: key

def put (input : Payload) : StoreOp JsString := do
  let bytes ← Op.lift id (toBytes input)
  let key := contentKey blake2b256 bytes
  MemoryBackend.putBytes bucket key bytes
  pure (objectUri bucket key)

end

def get (uri : JsString) : StoreOp Bytes := do
  let (bucket, key) ← Op.lift id (parseUri uri)
  MemoryBackend.getBytes bucket key

def getJson (uri : JsString) : StoreOp Value := do
  let bytes ← get uri
  Op.orFail (jsonParse (textDecode bytes)) .notJson

/-- `{ tampered: true }`. -/
def tamperedMarker : Value := .obj [(lit "tampered", .bool true)]

def corrupt (uri : JsString) (replacement : Option Payload) : StoreOp JsString := do
  let (bucket, key) ← Op.lift id (parseUri uri)
  let bytes ← Op.lift id (toBytes (replacement.getD (.json tamperedMarker)))
  let ok ← MemoryBackend.tamper bucket key bytes
  Op.failIf (ok = false) (.cannotCorrupt uri)
  pure uri

end PayloadStore

/-! ## What is read -/

/-- The bytes under a URI. -/
def Holds (s : MemoryBackend) (uri : JsString) (bytes : Bytes) : Prop :=
  ∃ bucket key, parseUri uri = .ok (bucket, key) ∧ s.get (MemoryBackend.ref bucket key) = some bytes

namespace PayloadStore

variable {s s' : MemoryBackend} {uri uri' : JsString}

theorem put_returns {blake2b256 : Blake2b} {bucket : JsString} {input : Payload} :
    (put blake2b256 bucket input).Returns s uri s' ↔ ∃ bytes, toBytes input = .ok bytes ∧
      objectUri bucket (contentKey blake2b256 bytes) = uri ∧
      s.set (MemoryBackend.ref bucket (contentKey blake2b256 bytes)) bytes = s' := by
  simp only [put, MemoryBackend.putBytes, Op.bind_returns, Op.lift_returns, Op.modify_returns, Op.pure_returns]
  constructor
  · rintro ⟨bytes, _, ⟨hb, rfl⟩, -, _, rfl, rfl, rfl⟩
    exact ⟨bytes, hb, rfl, rfl⟩
  · rintro ⟨bytes, hb, rfl, rfl⟩
    exact ⟨bytes, s, ⟨hb, rfl⟩, ⟨⟩, _, rfl, rfl, rfl⟩

theorem get_returns {bytes : Bytes} : (get uri).Returns s bytes s' ↔ Holds s uri bytes ∧ s = s' := by
  simp only [get, MemoryBackend.getBytes, Op.bind_returns, Op.lift_returns, Op.get_returns, Op.orFail_returns]
  constructor
  · rintro ⟨⟨bucket, key⟩, _, ⟨hu, rfl⟩, _, _, ⟨rfl, rfl⟩, hget, rfl⟩
    exact ⟨⟨bucket, key, hu, hget⟩, rfl⟩
  · rintro ⟨⟨bucket, key, hu, hget⟩, rfl⟩
    exact ⟨(bucket, key), s, ⟨hu, rfl⟩, s, s, ⟨rfl, rfl⟩, hget, rfl⟩

theorem getJson_returns {v : Value} : (getJson uri).Returns s v s' ↔
    (∃ bytes, Holds s uri bytes ∧ jsonParse (textDecode bytes) = some v) ∧ s = s' := by
  simp only [getJson, Op.bind_returns, get_returns, Op.orFail_returns]
  constructor
  · rintro ⟨bytes, _, ⟨hb, rfl⟩, hv, rfl⟩
    exact ⟨⟨bytes, hb, hv⟩, rfl⟩
  · rintro ⟨⟨bytes, hb, hv⟩, rfl⟩
    exact ⟨bytes, s, ⟨hb, rfl⟩, hv, rfl⟩

/-- **A tampered object** keeps its URI. -/
theorem corrupt_returns {replacement : Payload} (h : (corrupt uri (some replacement)).Returns s uri' s') :
    ∃ bytes bucket key, toBytes replacement = .ok bytes ∧ parseUri uri = .ok (bucket, key) ∧ uri' = uri ∧
      s' = s.set (MemoryBackend.ref bucket key) bytes := by
  simp only [corrupt, MemoryBackend.tamper, MemoryBackend.putBytes, Option.getD_some, Op.bind_returns,
    Op.lift_returns, Op.get_returns, Op.failIf_returns, Op.pure_returns] at h
  obtain ⟨⟨bucket, key⟩, _, ⟨hu, rfl⟩, bytes, _, ⟨hb, rfl⟩, ok, _, ⟨_, _, ⟨rfl, rfl⟩, htamper⟩, _, _, ⟨hok, rfl⟩,
    rfl, rfl⟩ := h
  split at htamper
  · exact absurd (Op.pure_returns.1 htamper).1.symm hok
  · simp only [Op.bind_returns, Op.modify_returns, Op.pure_returns] at htamper
    obtain ⟨_, _, rfl, -, rfl⟩ := htamper
    exact ⟨bytes, bucket, key, hb, hu, rfl, rfl⟩

end PayloadStore

theorem holds_set {s : MemoryBackend} {uri bucket key : JsString} {bytes : Bytes}
    (h : parseUri uri = .ok (bucket, key)) : Holds (s.set (MemoryBackend.ref bucket key) bytes) uri bytes :=
  ⟨bucket, key, h, Mapping.get_set_self ..⟩

theorem Holds.unique {s : MemoryBackend} {uri : JsString} {a b : Bytes} (ha : Holds s uri a)
    (hb : Holds s uri b) : a = b := by
  obtain ⟨bucket, key, hu, ha⟩ := ha
  obtain ⟨bucket', key', hu', hb⟩ := hb
  cases hu.symm.trans hu'
  exact Option.some.inj (ha.symm.trans hb)

/-! ## Addresses -/

/-- `parseUri` reads the URIs of the bucket's objects: the bucket does not begin
    with a slash, and has no line terminator after one. -/
def Addressable (bucket : JsString) : Prop :=
  bucket.takeWhile (· ≠ slash) ≠ [] ∧ (bucket.dropWhile (· ≠ slash)).all (!isLineTerminator ·)

instance (bucket : JsString) : Decidable (Addressable bucket) := inferInstanceAs (Decidable (_ ∧ _))

theorem addressable_of_no_slash {bucket : JsString} (hne : bucket ≠ []) (hslash : slash ∉ bucket) :
    Addressable bucket := by
  have hall : ∀ c ∈ bucket, decide (c ≠ slash) = true := by
    intro c hc
    exact decide_eq_true fun h => hslash (h ▸ hc)
  constructor
  · rwa [List.takeWhile_eq_self_iff.2 hall]
  · rw [List.dropWhile_eq_nil_iff.2 hall]
    rfl

variable {blake2b256 : Blake2b} {bucket key : JsString} {bytes : Bytes}

theorem contentKey_ne_nil (blake2b256 : Blake2b) (bytes : Bytes) : PayloadStore.contentKey blake2b256 bytes ≠ [] := by
  intro h
  have hlen := length_toHex (blake2b256 bytes).toList
  rw [show toHex (blake2b256 bytes).toList = [] from h] at hlen
  simp at hlen

theorem contentKey_line (blake2b256 : Blake2b) (bytes : Bytes) :
    (PayloadStore.contentKey blake2b256 bytes).all (!isLineTerminator ·) := by
  have hdigit : ∀ d : Fin 16, isLineTerminator (hexDigit d) = false := by decide
  rw [PayloadStore.contentKey, toHex, List.all_flatMap, List.all_eq_true]
  intro b _
  simp [hexByte, hdigit]

/-- What follows the first slash. -/
theorem dropWhile_slash (bucket key : JsString) :
    ∃ rest, (bucket ++ slash :: key).dropWhile (· ≠ slash) = slash :: rest ∧
      (bucket ++ slash :: key).takeWhile (· ≠ slash) = bucket.takeWhile (· ≠ slash) ∧
      slash :: rest = bucket.dropWhile (· ≠ slash) ++ slash :: key := by
  induction bucket with
  | nil => exact ⟨key, by simp⟩
  | cons c bucket ih =>
    by_cases hc : c = slash
    · exact ⟨bucket ++ slash :: key, by simp [hc]⟩
    · obtain ⟨rest, hdrop, htake, hrest⟩ := ih
      exact ⟨rest, by simpa [hc] using hdrop, by simpa [hc] using htake, by simpa [hc] using hrest⟩

/-- **When the URI of an object is read**, and that it is read as its address. -/
theorem parseUri_objectUri (bucket : JsString) (hne : key ≠ []) (hline : key.all (!isLineTerminator ·)) :
    (Addressable bucket → ∃ b k, parseUri (PayloadStore.objectUri bucket key) = .ok (b, k) ∧
      MemoryBackend.ref b k = MemoryBackend.ref bucket key) ∧
    (¬ Addressable bucket → ∃ e, parseUri (PayloadStore.objectUri bucket key) = .error e) := by
  obtain ⟨rest, hdrop, htake, hrest⟩ := dropWhile_slash bucket key
  have hdrop5 : (PayloadStore.objectUri bucket key).drop 5 = bucket ++ slash :: key := by
    rw [PayloadStore.objectUri, List.append_assoc]
    exact List.drop_left' (by decide)
  have hprefix : (lit "s3://").isPrefixOf (PayloadStore.objectUri bucket key) := by
    rw [PayloadStore.objectUri, List.append_assoc, List.isPrefixOf_iff_prefix]
    exact List.prefix_append _ _
  have hall : rest.all (!isLineTerminator ·) = (bucket.dropWhile (· ≠ slash)).all (!isLineTerminator ·) := by
    have h := congrArg (List.all · (!isLineTerminator ·)) hrest
    simpa [hline, show isLineTerminator slash = false from by decide] using h
  have hrest_ne : rest ≠ [] := by
    rintro rfl
    have h := congrArg List.length hrest
    have hpos := List.length_pos_iff.2 hne
    simp at h
    omega
  have hparse : parseUri (PayloadStore.objectUri bucket key) =
      if Addressable bucket then .ok (bucket.takeWhile (· ≠ slash), rest)
      else .error (.invalidUri (PayloadStore.objectUri bucket key)) := by
    simp only [parseUri, hdrop5, hdrop, htake, List.drop_succ_cons, List.drop_zero, hall, hprefix, Addressable]
    refine if_congr ?_ rfl rfl
    simp [hrest_ne]
  constructor
  · intro hb
    refine ⟨_, _, by rw [hparse, if_pos hb], ?_⟩
    have hspan := List.takeWhile_append_dropWhile (p := fun c => decide (c ≠ slash)) (l := bucket ++ slash :: key)
    rw [hdrop, htake] at hspan
    exact hspan
  · intro hb
    exact ⟨_, by rw [hparse, if_neg hb]⟩

/-- What is held under the URI of an object. -/
theorem holds_objectUri {s : MemoryBackend} {content : Bytes} :
    Holds s (PayloadStore.objectUri bucket (PayloadStore.contentKey blake2b256 bytes)) content ↔
      Addressable bucket ∧
        s.get (MemoryBackend.ref bucket (PayloadStore.contentKey blake2b256 bytes)) = some content := by
  obtain ⟨hread, hunread⟩ := parseUri_objectUri bucket (contentKey_ne_nil blake2b256 bytes)
    (contentKey_line blake2b256 bytes)
  by_cases hb : Addressable bucket
  · obtain ⟨b, k, hu, href⟩ := hread hb
    constructor
    · rintro ⟨b', k', hu', hget⟩
      cases hu.symm.trans hu'
      exact ⟨hb, href ▸ hget⟩
    · rintro ⟨-, hget⟩
      exact ⟨b, k, hu, href ▸ hget⟩
  · obtain ⟨e, hu⟩ := hunread hb
    refine iff_of_false ?_ fun h => hb h.1
    rintro ⟨b', k', hu', -⟩
    cases hu.symm.trans hu'

end CasperProof.Agent
