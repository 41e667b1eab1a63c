import Pherry.Utf8

/-!
# Decoding UTF-8

`TextDecoder.decode` reads any bytes: a sequence that is not UTF-8 becomes U+FFFD, and a byte order
mark in front is dropped. What `TextEncoder.encode` made of a well-formed string is read back.
-/

namespace Pherry

/-- What the first byte of a sequence announces: how many bytes follow, the bits it carries itself,
and the range of the byte behind it. -/
structure Lead where
  needed : ℕ
  bits : ℕ
  lower : ℕ
  upper : ℕ

/-- The sequence a byte starts, if it starts one. -/
def lead (a : ℕ) : Option Lead :=
  if a < 0x80 then some ⟨0, a, 0x80, 0xBF⟩
  else if 0xC2 ≤ a ∧ a ≤ 0xDF then some ⟨1, a - 0xC0, 0x80, 0xBF⟩
  else if 0xE0 ≤ a ∧ a ≤ 0xEF then
    some ⟨2, a - 0xE0, if a = 0xE0 then 0xA0 else 0x80, if a = 0xED then 0x9F else 0xBF⟩
  else if 0xF0 ≤ a ∧ a ≤ 0xF4 then
    some ⟨3, a - 0xF0, if a = 0xF0 then 0x90 else 0x80, if a = 0xF4 then 0x8F else 0xBF⟩
  else none

/-- Read the bytes a sequence still needs. One out of range ends it as U+FFFD, and is read again. -/
def continuation : ℕ → ℕ → ℕ → ℕ → Bytes → ℕ × Bytes
  | 0, _, _, value, rest => (value, rest)
  | _ + 1, _, _, _, [] => (0xFFFD, [])
  | needed + 1, lower, upper, value, b :: rest =>
    if lower ≤ b.toNat ∧ b.toNat ≤ upper then
      continuation needed 0x80 0xBF (value * 0x40 + (b.toNat - 0x80)) rest
    else (0xFFFD, b :: rest)

/-- The code points of at most `fuel` sequences. -/
def decodePoints : ℕ → Bytes → List ℕ
  | 0, _ => []
  | _ + 1, [] => []
  | fuel + 1, a :: rest =>
    match lead a.toNat with
    | none => 0xFFFD :: decodePoints fuel rest
    | some l =>
      (continuation l.needed l.lower l.upper l.bits rest).1 ::
        decodePoints fuel (continuation l.needed l.lower l.upper l.bits rest).2

/-- Drop a byte order mark in front. -/
def dropByteOrderMark : List ℕ → List ℕ
  | 0xFEFF :: rest => rest
  | points => points

/-- `TextDecoder.decode`. Every sequence takes a byte, so their number bounds the code points. -/
def decodeUtf8 (bytes : Bytes) : JsString :=
  (dropByteOrderMark (decodePoints bytes.length bytes)).flatMap fromCodePoint

example : decodeUtf8 (ascii "a" ++ [0xE2, 0x82, 0x41, 0xFF]) = js "a\uFFFDA\uFFFD" := by decide

/-! ## What an encoder wrote -/

/-- A Unicode scalar value: a code point that is no surrogate. -/
def isScalar (c : ℕ) : Prop := c < 0xD800 ∨ 0xE000 ≤ c ∧ c < 0x110000

lemma continuation_cons {needed lower upper value n : ℕ} (h : n < 0x40)
    (hlower : lower ≤ 0x80 + n) (hupper : 0x80 + n ≤ upper) (rest : Bytes) :
    continuation (needed + 1) lower upper value (UInt8.ofNat (0x80 + n) :: rest) =
      continuation needed 0x80 0xBF (value * 0x40 + n) rest := by
  have hbyte : (UInt8.ofNat (0x80 + n)).toNat = 0x80 + n := toNat_ofNat (by omega)
  rw [continuation, hbyte, if_pos ⟨hlower, hupper⟩]
  have hbits : 0x80 + n - 0x80 = n := by omega
  rw [hbits]

lemma decodePoints_of_lead {a needed bits lower upper : ℕ} (ha : a < 256)
    (hlead : lead a = some ⟨needed, bits, lower, upper⟩) {c : ℕ} {rest s : Bytes}
    (hrest : continuation needed lower upper bits rest = (c, s)) (fuel : ℕ) :
    decodePoints (fuel + 1) (UInt8.ofNat a :: rest) = c :: decodePoints fuel s := by
  rw [decodePoints, toNat_ofNat ha, hlead]
  simp only [hrest]

lemma decodePoints_utf8CodePoint {c : ℕ} (hc : isScalar c) (s : Bytes) (fuel : ℕ) :
    decodePoints (fuel + 1) (utf8CodePoint c ++ s) = c :: decodePoints fuel s := by
  unfold isScalar at hc
  have hsix : ∀ n, n % 0x40 < 0x40 := fun n => Nat.mod_lt n (by omega)
  have hlast := hsix c
  have hmiddle := hsix (c / 0x40)
  have hsecond := hsix (c / 0x1000)
  unfold utf8CodePoint
  split
  · next h =>
    have hlead : lead c = some ⟨0, c, 0x80, 0xBF⟩ := by rw [lead, if_pos h]
    have hbyte : c < 256 := by omega
    exact decodePoints_of_lead hbyte hlead rfl fuel
  · split
    · next h80 h800 =>
      have hlead : lead (0xC0 + c / 0x40) = some ⟨1, 0xC0 + c / 0x40 - 0xC0, 0x80, 0xBF⟩ := by
        rw [lead, if_neg (by omega), if_pos (by omega)]
      have hbyte : 0xC0 + c / 0x40 < 256 := by omega
      have hvalue : (0xC0 + c / 0x40 - 0xC0) * 0x40 + c % 0x40 = c := by omega
      refine decodePoints_of_lead hbyte hlead ?_ fuel
      refine (continuation_cons hlast (by omega) (by omega) s).trans ?_
      rw [continuation, hvalue]
    · split
      · next h80 h800 h10000 =>
        have hlead : lead (0xE0 + c / 0x1000) = some ⟨2, 0xE0 + c / 0x1000 - 0xE0,
            if 0xE0 + c / 0x1000 = 0xE0 then 0xA0 else 0x80,
            if 0xE0 + c / 0x1000 = 0xED then 0x9F else 0xBF⟩ := by
          rw [lead, if_neg (by omega), if_neg (by omega), if_pos (by omega)]
        have hbyte : 0xE0 + c / 0x1000 < 256 := by omega
        have hvalue : ((0xE0 + c / 0x1000 - 0xE0) * 0x40 + c / 0x40 % 0x40) * 0x40 + c % 0x40 = c := by
          omega
        refine decodePoints_of_lead hbyte hlead ?_ fuel
        -- below 0x800 the second byte would be under 0xA0, in the surrogates over 0x9F
        refine (continuation_cons hmiddle (by split <;> omega) (by split <;> omega) _).trans ?_
        refine (continuation_cons hlast (by omega) (by omega) s).trans ?_
        rw [continuation, hvalue]
      · next h80 h800 h10000 =>
        have hlead : lead (0xF0 + c / 0x40000) = some ⟨3, 0xF0 + c / 0x40000 - 0xF0,
            if 0xF0 + c / 0x40000 = 0xF0 then 0x90 else 0x80,
            if 0xF0 + c / 0x40000 = 0xF4 then 0x8F else 0xBF⟩ := by
          rw [lead, if_neg (by omega), if_neg (by omega), if_neg (by omega), if_pos (by omega)]
        have hbyte : 0xF0 + c / 0x40000 < 256 := by omega
        have hvalue : (((0xF0 + c / 0x40000 - 0xF0) * 0x40 + c / 0x1000 % 0x40) * 0x40
            + c / 0x40 % 0x40) * 0x40 + c % 0x40 = c := by omega
        refine decodePoints_of_lead hbyte hlead ?_ fuel
        refine (continuation_cons hsecond (by split <;> omega) (by split <;> omega) _).trans ?_
        refine (continuation_cons hmiddle (by omega) (by omega) _).trans ?_
        refine (continuation_cons hlast (by omega) (by omega) s).trans ?_
        rw [continuation, hvalue]

lemma decodePoints_flatMap {points : List ℕ} (h : ∀ c ∈ points, isScalar c) {fuel : ℕ}
    (hfuel : points.length ≤ fuel) : decodePoints fuel (points.flatMap utf8CodePoint) = points := by
  induction points generalizing fuel with
  | nil => cases fuel <;> rfl
  | cons c points ih =>
    obtain ⟨fuel, rfl⟩ : ∃ n, fuel = n + 1 := ⟨fuel - 1, by rw [List.length_cons] at hfuel; omega⟩
    have hrest : ∀ d ∈ points, isScalar d := fun d hd => h d (List.mem_cons_of_mem _ hd)
    rw [List.flatMap_cons, decodePoints_utf8CodePoint (h c List.mem_cons_self),
      ih hrest (by rw [List.length_cons] at hfuel; omega)]

lemma isScalar_unitCodePoint (u : UInt16) : isScalar (unitCodePoint u) := by
  have hu : u.toNat < 0x10000 := u.toNat_lt
  unfold unitCodePoint isScalar
  split
  · omega
  · next hlone =>
    simp only [isHighSurrogate, isLowSurrogate, Bool.or_eq_true, Bool.and_eq_true,
      decide_eq_true_eq, UInt16.le_iff_toNat_le, UInt16.lt_iff_toNat_lt] at hlone
    have hlow : (0xD800 : UInt16).toNat = 0xD800 := rfl
    have hmiddle : (0xDC00 : UInt16).toNat = 0xDC00 := rfl
    have hhigh : (0xE000 : UInt16).toNat = 0xE000 := rfl
    rw [hlow, hmiddle, hhigh] at hlone
    omega

lemma isScalar_codePoints (s : JsString) : ∀ c ∈ codePoints s, isScalar c := by
  induction s using codePoints.induct with
  | case1 =>
    intro c hc
    cases hc
  | case2 u =>
    intro c hc
    rw [codePoints, List.mem_singleton] at hc
    rw [hc]
    exact isScalar_unitCodePoint u
  | case3 u v rest h ih =>
    intro c hc
    rw [codePoints, if_pos h] at hc
    rw [Bool.and_eq_true] at h
    have hhigh := toNat_of_high h.1
    have hlow := toNat_of_low h.2
    rcases List.mem_cons.1 hc with hpair | hrest
    · rw [hpair]
      unfold isScalar
      omega
    · exact ih c hrest
  | case4 u v rest h ih =>
    intro c hc
    rw [codePoints, if_neg h] at hc
    rcases List.mem_cons.1 hc with rfl | hrest
    · exact isScalar_unitCodePoint u
    · exact ih c hrest

lemma length_flatMap_utf8CodePoint (points : List ℕ) :
    points.length ≤ (points.flatMap utf8CodePoint).length := by
  induction points with
  | nil => simp
  | cons c points ih =>
    have hc := utf8CodePoint_pos c
    rw [List.flatMap_cons, List.length_append, List.length_cons]
    omega

/-- **Text is read back.** A well-formed string that does not begin with a byte order mark is the
decoding of its encoding. -/
theorem decodeUtf8_utf8 {s : JsString} (h : isWellFormed s = true) (hmark : s.head? ≠ some 0xFEFF) :
    decodeUtf8 (utf8 s) = s := by
  have hpoints : decodePoints (utf8 s).length (utf8 s) = codePoints s := by
    rw [utf8_eq]
    exact decodePoints_flatMap (isScalar_codePoints s) (length_flatMap_utf8CodePoint _)
  have hkept : dropByteOrderMark (codePoints s) = codePoints s := by
    unfold dropByteOrderMark
    split
    · next rest hcons =>
      exfalso
      have hback := flatMap_fromCodePoint h
      rw [hcons, List.flatMap_cons] at hback
      rw [← hback] at hmark
      exact hmark rfl
    · rfl
  rw [decodeUtf8, hpoints, hkept, flatMap_fromCodePoint h]

end Pherry
