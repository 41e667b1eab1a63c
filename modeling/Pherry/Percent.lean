import Pherry.Protocol.JsonText
import Pherry.TextFile

/-!
# Percent encoding

`encodeURIComponent`, and how its text is read: a percent sign and two digits are one byte, and the bytes are UTF-8.
-/

namespace Pherry

open Protocol (hexValue)

/-! ## `encodeURIComponent` -/

/-- A byte that stands for itself: a letter, a digit or one of `-_.!~*'()`. -/
def isMark (b : UInt8) : Bool :=
  (0x41 ≤ b && b ≤ 0x5A) || (0x61 ≤ b && b ≤ 0x7A) || (0x30 ≤ b && b ≤ 0x39) || b == 0x2D || b == 0x5F ||
    b == 0x2E || b == 0x21 || b == 0x7E || (0x27 ≤ b && b ≤ 0x2A)

/-- An uppercase hexadecimal digit. -/
def upperHex (n : ℕ) : UInt16 := UInt16.ofNat (if n < 10 then 0x30 + n else 0x37 + n)

/-- A byte as it is written. -/
def escapeByte (b : UInt8) : JsString :=
  if isMark b then [UInt16.ofNat b.toNat] else [0x25, upperHex (b.toNat / 16), upperHex (b.toNat % 16)]

/-- Bytes as they are written. -/
def escapeBytes (bytes : Bytes) : JsString := bytes.flatMap escapeByte

/-- `encodeURIComponent`, which throws at a lone surrogate. -/
def encodeURIComponent (s : JsString) : Except Unit JsString :=
  if isWellFormed s then .ok (escapeBytes (utf8 s)) else .error ()

/-! ## Reading it -/

/-- The bytes of an ASCII text; a percent sign needs two digits. -/
def percentBytes : JsString → Option Bytes
  | [] => some []
  | u :: rest =>
    if u = 0x25 then
      match rest with
      | a :: b :: rest => do
        let high ← hexValue a
        let low ← hexValue b
        let bytes ← percentBytes rest
        return UInt8.ofNat (high * 16 + low) :: bytes
      | _ => none
    else if u < 0x80 then (percentBytes rest).map (UInt8.ofNat u.toNat :: ·)
    else none

/-- Bytes as a string of Unicode scalars, where they are UTF-8. -/
def scalarString (bytes : Bytes) : Option String :=
  let points := decodePoints bytes.length bytes
  if points.flatMap utf8CodePoint = bytes then some (String.ofList (points.map Char.ofNat)) else none

/-- `removingPercentEncoding`. -/
def removingPercentEncoding (text : JsString) : Option String := (percentBytes text).bind scalarString

/-! ## Round trip -/

lemma hexValue_upperHex {n : ℕ} (h : n < 16) : hexValue (upperHex n) = some n := by
  revert n
  decide

lemma percentBytes_escapeByte (b : UInt8) (rest : JsString) :
    percentBytes (escapeByte b ++ rest) = (percentBytes rest).map (b :: ·) := by
  have hb : b.toNat < 256 := b.toNat_lt
  have hsame : UInt8.ofNat b.toNat = b := UInt8.ofNat_toNat
  unfold escapeByte
  split
  · next hmark =>
    have hunit : (UInt16.ofNat b.toNat).toNat = b.toNat := by
      rw [UInt16.toNat_ofNat']
      omega
    have hascii : UInt16.ofNat b.toNat ≠ 0x25 ∧ UInt16.ofNat b.toNat < 0x80 := by
      simp only [isMark, Bool.or_eq_true, Bool.and_eq_true, decide_eq_true_eq, beq_iff_eq, UInt8.le_iff_toNat_le,
        ← UInt8.toNat_inj, UInt8.reduceToNat] at hmark
      rw [Ne, ← UInt16.toNat_inj, UInt16.lt_iff_toNat_lt, hunit]
      simp only [UInt16.reduceToNat]
      omega
    rw [List.singleton_append, percentBytes.eq_def]
    dsimp only
    rw [if_neg hascii.1, if_pos hascii.2, hunit, hsame]
  · have hvalue : UInt8.ofNat (b.toNat / 16 * 16 + b.toNat % 16) = b := by
      rw [Nat.div_add_mod', hsame]
    rw [List.cons_append, List.cons_append, List.cons_append, List.nil_append, percentBytes, if_pos rfl]
    simp only [hexValue_upperHex (show b.toNat / 16 < 16 by omega), hexValue_upperHex (show b.toNat % 16 < 16 by omega),
      Option.bind_eq_bind, Option.bind_some, hvalue]
    cases percentBytes rest <;> rfl

lemma percentBytes_escapeBytes (bytes : Bytes) : percentBytes (escapeBytes bytes) = some bytes := by
  induction bytes with
  | nil => rfl
  | cons b bytes ih =>
    rw [escapeBytes, List.flatMap_cons, percentBytes_escapeByte]
    rw [escapeBytes] at ih
    rw [ih]
    rfl

lemma utf8_js (s : String) : utf8 (js s) = (s.toList.map Char.toNat).flatMap utf8CodePoint := by
  rw [js_eq]
  refine (wellFormed_flatMap fun c hc => ?_).2
  obtain ⟨d, -, rfl⟩ := List.mem_map.1 hc
  exact isScalar_toNat d

lemma scalarString_utf8 (s : String) : scalarString (utf8 (js s)) = some s := by
  have hpoints : decodePoints (utf8 (js s)).length (utf8 (js s)) = s.toList.map Char.toNat := by
    rw [utf8_js]
    apply decodePoints_flatMap
    · intro c hc
      obtain ⟨d, -, rfl⟩ := List.mem_map.1 hc
      exact isScalar_toNat d
    · exact length_flatMap_utf8CodePoint _
  rw [scalarString, hpoints, if_pos (utf8_js s).symm, List.map_map]
  have hsame : (Char.ofNat ∘ Char.toNat) = id := by
    funext c
    exact Char.ofNat_toNat c
  rw [hsame, List.map_id, String.ofList_toList]

lemma removingPercentEncoding_escape (s : String) :
    removingPercentEncoding (escapeBytes (utf8 (js s))) = some s := by
  rw [removingPercentEncoding, percentBytes_escapeBytes, Option.bind_some, scalarString_utf8]

lemma encodeURIComponent_js (s : String) : encodeURIComponent (js s) = .ok (escapeBytes (utf8 (js s))) :=
  if_pos (isWellFormed_js s)

lemma exists_js {s : JsString} (h : isWellFormed s = true) : ∃ t : String, js t = s := by
  have hscalar : ∀ c ∈ codePoints s, isScalar c := by
    intro c hc
    exact isScalar_codePoints s c hc
  refine ⟨String.ofList ((codePoints s).map Char.ofNat), ?_⟩
  rw [js_eq, String.toList_ofList, List.map_map]
  have hsame : (codePoints s).map (Char.toNat ∘ Char.ofNat) = codePoints s := by
    refine (List.map_congr_left fun c hc => ?_).trans (List.map_id _)
    have hvalid : c.isValidChar := by
      rcases hscalar c hc with hlow | ⟨hleast, hmost⟩
      · exact .inl hlow
      · exact .inr ⟨by omega, hmost⟩
    show (Char.ofNat c).toNat = c
    rw [Char.ofNat, dif_pos hvalid]
    rfl
  rw [hsame, flatMap_fromCodePoint h]

lemma not_mem_escapeBytes (bytes : Bytes) {u : UInt16} (h : u = 0x26 ∨ u = 0x3D ∨ u = 0x23 ∨ u = 0x3F) :
    u ∉ escapeBytes bytes := by
  intro hmem
  obtain ⟨b, -, hb⟩ := List.mem_flatMap.1 hmem
  have hlt : b.toNat < 256 := b.toNat_lt
  have hdigit : ∀ n < 16, upperHex n ≠ 0x26 ∧ upperHex n ≠ 0x3D ∧ upperHex n ≠ 0x23 ∧ upperHex n ≠ 0x3F := by
    decide
  unfold escapeByte at hb
  split at hb
  · next hmark =>
    simp only [isMark, Bool.or_eq_true, Bool.and_eq_true, decide_eq_true_eq, beq_iff_eq, UInt8.le_iff_toNat_le,
      ← UInt8.toNat_inj, UInt8.reduceToNat] at hmark
    have hunit : u.toNat = b.toNat := by
      rw [List.mem_singleton.1 hb, UInt16.toNat_ofNat']
      omega
    rcases h with rfl | rfl | rfl | rfl <;> simp only [UInt16.reduceToNat] at hunit <;> omega
  · simp only [List.mem_cons, List.not_mem_nil, or_false] at hb
    have hhigh := hdigit (b.toNat / 16) (by omega)
    have hlow := hdigit (b.toNat % 16) (by omega)
    rcases hb with rfl | rfl | rfl
    · revert h
      decide
    · rcases h with h | h | h | h
      · exact hhigh.1 h
      · exact hhigh.2.1 h
      · exact hhigh.2.2.1 h
      · exact hhigh.2.2.2 h
    · rcases h with h | h | h | h
      · exact hlow.1 h
      · exact hlow.2.1 h
      · exact hlow.2.2.1 h
      · exact hlow.2.2.2 h

end Pherry
