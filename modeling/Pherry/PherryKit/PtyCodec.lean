import Pherry.Protocol.PtyFrame

/-!
# The PTY codecs of the phone

`PtyFrame` and `PtyPayload` of PherryKit, over fixed-width integers, and what they have in common with
the codecs of the protocol package.
-/

namespace Pherry.PherryKit

open Lib Protocol

/-! ## Frames -/

/-- `PtyOpcode`. -/
inductive PtyOpcode
  | output
  | snapshotStart
  | snapshotChunk
  | snapshotEnd
  | resized
  | ended
  | gap
deriving DecidableEq

namespace PtyOpcode

/-- The opcode's byte. -/
def rawValue : PtyOpcode → UInt8
  | output => 1
  | snapshotStart => 2
  | snapshotChunk => 3
  | snapshotEnd => 4
  | resized => 5
  | ended => 6
  | gap => 7

/-- The seven opcodes. -/
def allCases : List PtyOpcode := [output, snapshotStart, snapshotChunk, snapshotEnd, resized, ended, gap]

/-- `PtyOpcode(rawValue:)`. -/
def ofRawValue (byte : UInt8) : Option PtyOpcode := allCases.find? fun opcode => opcode.rawValue = byte

lemma mem_allCases (opcode : PtyOpcode) : opcode ∈ allCases := by cases opcode <;> decide

lemma rawValue_of_ofRawValue {byte : UInt8} {opcode : PtyOpcode} (h : ofRawValue byte = some opcode) :
    opcode.rawValue = byte := by
  rw [ofRawValue] at h
  simpa using List.find?_some h

/-- A byte that is one of the seven opcodes. -/
def IsDefined (byte : UInt8) : Prop := ∃ opcode : PtyOpcode, opcode.rawValue = byte

lemma isSome_ofRawValue (byte : UInt8) : (ofRawValue byte).isSome = true ↔ IsDefined byte := by
  rw [ofRawValue, List.find?_isSome]
  constructor
  · rintro ⟨opcode, -, h⟩
    exact ⟨opcode, of_decide_eq_true h⟩
  · rintro ⟨opcode, h⟩
    exact ⟨opcode, opcode.mem_allCases, decide_eq_true h⟩

end PtyOpcode

/-- `PtyFrame`. -/
structure PtyFrame where
  opcode : PtyOpcode
  streamId : UInt32
  seq : UInt64
  payload : Bytes

/-- `le32`. -/
def le32 (value : UInt32) : Bytes :=
  [(value &&& 0xff).toUInt8, ((value >>> 8) &&& 0xff).toUInt8, ((value >>> 16) &&& 0xff).toUInt8,
    ((value >>> 24) &&& 0xff).toUInt8]

/-- `readLE32`, of the bytes at the offset. -/
def readLE32 (b0 b1 b2 b3 : UInt8) : UInt32 :=
  b0.toUInt32 ||| (b1.toUInt32 <<< 8) ||| (b2.toUInt32 <<< 16) ||| (b3.toUInt32 <<< 24)

namespace PtyFrame

/-- `encoded`. -/
def encoded (frame : PtyFrame) : Bytes :=
  [0x74, 1, frame.opcode.rawValue, 0] ++ le32 frame.streamId ++
    le32 (frame.seq &&& 0xffffffff).toUInt32 ++ le32 ((frame.seq >>> 32) &&& 0xffffffff).toUInt32 ++
    frame.payload

/-- `decode`. -/
def decode : Bytes → Option PtyFrame
  | kind :: version :: opcode :: _ :: i0 :: i1 :: i2 :: i3 ::
      l0 :: l1 :: l2 :: l3 :: h0 :: h1 :: h2 :: h3 :: payload =>
    if kind = 0x74 ∧ version = 1 then
      match PtyOpcode.ofRawValue opcode with
      | none => none
      | some opcode =>
        some { opcode
               streamId := readLE32 i0 i1 i2 i3
               seq := ((readLE32 h0 h1 h2 h3).toUInt64 <<< 32) ||| (readLE32 l0 l1 l2 l3).toUInt64
               payload }
    else none
  | _ => none

/-- The frame as the protocol package has it. -/
def plain (frame : PtyFrame) : Protocol.PtyFrame :=
  ⟨frame.opcode.rawValue, frame.streamId.toNat, frame.seq.toNat, frame.payload⟩

end PtyFrame

/-! ## Payloads -/

namespace PtyPayload

/-- `decodeSize`. Fewer than four bytes are the empty size. -/
def decodeSize : Bytes → Size
  | c0 :: c1 :: r0 :: r1 :: _ => ⟨c0.toNat ||| (c1.toNat <<< 8), r0.toNat ||| (r1.toNat <<< 8)⟩
  | _ => ⟨0, 0⟩

/-- `encodeSize`. -/
def encodeSize (size : Size) : Bytes :=
  [UInt8.ofNat (size.cols &&& 0xff), UInt8.ofNat ((size.cols >>> 8) &&& 0xff),
    UInt8.ofNat (size.rows &&& 0xff), UInt8.ofNat ((size.rows >>> 8) &&& 0xff)]

/-- `decodeExit`. Fewer than four bytes are no code. -/
def decodeExit : Bytes → Option ℤ
  | b0 :: b1 :: b2 :: b3 :: _ => some (readLE32 b0 b1 b2 b3).toBitVec.toInt
  | _ => none

end PtyPayload

/-! ## Bytes -/

lemma or_shiftLeft {a k : ℕ} (h : a < 2 ^ k) (b : ℕ) : a ||| (b <<< k) = a + b * 2 ^ k := by
  rw [Nat.or_comm, ← Nat.shiftLeft_add_eq_or_of_lt h, Nat.shiftLeft_eq, Nat.add_comm]

lemma toNat_readLE32 (b0 b1 b2 b3 : UInt8) :
    (readLE32 b0 b1 b2 b3).toNat = littleEndian [b0, b1, b2, b3] := by
  have h0 := b0.toNat_lt
  have h1 := b1.toNat_lt
  have h2 := b2.toNat_lt
  have h3 := b3.toNat_lt
  have hshift : ∀ (b : UInt8) (k : ℕ), k ≤ 24 → b.toNat <<< k % 2 ^ 32 = b.toNat <<< k := by
    intro b k hk
    have hb := b.toNat_lt
    rw [Nat.mod_eq_of_lt]
    rw [Nat.shiftLeft_eq]
    calc b.toNat * 2 ^ k < 2 ^ 8 * 2 ^ k := Nat.mul_lt_mul_of_pos_right hb (Nat.two_pow_pos k)
      _ = 2 ^ (8 + k) := (Nat.pow_add 2 8 k).symm
      _ ≤ 2 ^ 32 := Nat.pow_le_pow_right (by decide) (by omega)
  have hor : (readLE32 b0 b1 b2 b3).toNat =
      b0.toNat ||| (b1.toNat <<< 8) ||| (b2.toNat <<< 16) ||| (b3.toNat <<< 24) := by
    simp only [readLE32, UInt32.toNat_or, UInt32.toNat_shiftLeft, UInt8.toNat_toUInt32]
    have h8 : (8 : UInt32).toNat % 32 = 8 := rfl
    have h16 : (16 : UInt32).toNat % 32 = 16 := rfl
    have h24 : (24 : UInt32).toNat % 32 = 24 := rfl
    rw [h8, h16, h24, hshift b1 8 (by omega), hshift b2 16 (by omega), hshift b3 24 (by omega)]
  have hlow : b0.toNat ||| (b1.toNat <<< 8) = b0.toNat + b1.toNat * 2 ^ 8 := or_shiftLeft h0 _
  have hmiddle : (b0.toNat + b1.toNat * 2 ^ 8) ||| (b2.toNat <<< 16) =
      b0.toNat + b1.toNat * 2 ^ 8 + b2.toNat * 2 ^ 16 := or_shiftLeft (by omega) _
  rw [hor, hlow, hmiddle, or_shiftLeft (by omega)]
  simp only [littleEndian]
  omega

lemma le32_eq (value : UInt32) : le32 value = uint32LE value.toNat := by
  have hbyte : ∀ (v : UInt32), (v &&& 0xff).toUInt8 = UInt8.ofNat v.toNat := by
    intro v
    apply UInt8.toNat_inj.1
    have hand : v.toNat &&& 255 = v.toNat % 2 ^ 8 := Nat.and_two_pow_sub_one_eq_mod v.toNat 8
    have h255 : (0xff : UInt32).toNat = 255 := rfl
    rw [UInt32.toNat_toUInt8, UInt32.toNat_and, h255, hand, UInt8.toNat_ofNat']
    omega
  have hshift : ∀ k : UInt32, k.toNat < 32 → (value >>> k).toNat = value.toNat / 2 ^ k.toNat := by
    intro k hk
    rw [UInt32.toNat_shiftRight, Nat.mod_eq_of_lt hk, Nat.shiftRight_eq_div_pow]
  rw [le32, uint32LE, hbyte, hbyte, hbyte, hbyte, hshift 8 (by decide), hshift 16 (by decide),
    hshift 24 (by decide)]
  rfl

lemma littleEndian_inj {bytes bytes' : Bytes} (hlength : bytes.length = bytes'.length)
    (h : littleEndian bytes = littleEndian bytes') : bytes = bytes' := by
  induction bytes generalizing bytes' with
  | nil => exact (List.length_eq_zero_iff.1 hlength.symm).symm
  | cons b bytes ih =>
    cases bytes' with
    | nil => cases hlength
    | cons b' bytes' =>
      have hb := b.toNat_lt
      have hb' := b'.toNat_lt
      simp only [littleEndian] at h
      have hhead : b = b' := UInt8.toNat_inj.1 (by omega)
      rw [hhead, ih (by simpa using hlength) (by omega)]

lemma littleEndian_four_lt (b0 b1 b2 b3 : UInt8) : littleEndian [b0, b1, b2, b3] < 2 ^ 32 := by
  have h0 := b0.toNat_lt
  have h1 := b1.toNat_lt
  have h2 := b2.toNat_lt
  have h3 := b3.toNat_lt
  simp only [littleEndian]
  omega

lemma length_uint32LE (n : ℕ) : (uint32LE n).length = 4 := rfl

lemma uint32LE_littleEndian (b0 b1 b2 b3 : UInt8) :
    uint32LE (littleEndian [b0, b1, b2, b3]) = [b0, b1, b2, b3] := by
  refine littleEndian_inj rfl ?_
  rw [littleEndian_uint32LE]
  exact Nat.mod_eq_of_lt (littleEndian_four_lt b0 b1 b2 b3)

/-! ## Frames of the two codecs -/

lemma PtyFrame.encoded_eq (frame : PtyFrame) : frame.encoded = encodePtyFrame frame.plain := by
  have hmask : (0xffffffff : UInt64).toNat = 2 ^ 32 - 1 := rfl
  have hand : ∀ n : ℕ, n &&& (2 ^ 32 - 1) = n % 2 ^ 32 := fun n => Nat.and_two_pow_sub_one_eq_mod n 32
  have hlow : le32 (frame.seq &&& 0xffffffff).toUInt32 = uint32LE frame.seq.toNat := by
    refine littleEndian_inj rfl ?_
    rw [le32_eq, littleEndian_uint32LE, littleEndian_uint32LE, UInt64.toNat_toUInt32, UInt64.toNat_and,
      hmask, hand, Nat.mod_mod, Nat.mod_mod]
  have hhigh : le32 ((frame.seq >>> 32) &&& 0xffffffff).toUInt32 = uint32LE (frame.seq.toNat / 2 ^ 32) := by
    have hshift : (frame.seq >>> 32).toNat = frame.seq.toNat / 2 ^ 32 := by
      rw [UInt64.toNat_shiftRight]
      exact Nat.shiftRight_eq_div_pow _ 32
    refine littleEndian_inj rfl ?_
    rw [le32_eq, littleEndian_uint32LE, littleEndian_uint32LE, UInt64.toNat_toUInt32, UInt64.toNat_and,
      hmask, hand, Nat.mod_mod, Nat.mod_mod, hshift]
  rw [encoded, le32_eq, hlow, hhigh]
  rfl

lemma toNat_seq (high low : UInt32) :
    ((high.toUInt64 <<< 32) ||| low.toUInt64).toNat = high.toNat * 2 ^ 32 + low.toNat := by
  have hhigh := high.toNat_lt
  have hlow := low.toNat_lt
  have hshift : high.toNat <<< 32 % 2 ^ 64 = high.toNat <<< 32 := by
    rw [Nat.mod_eq_of_lt]
    rw [Nat.shiftLeft_eq]
    omega
  have h32 : (32 : UInt64).toNat % 64 = 32 := rfl
  rw [UInt64.toNat_or, UInt64.toNat_shiftLeft, UInt32.toNat_toUInt64, UInt32.toNat_toUInt64, h32,
    hshift, Nat.or_comm, or_shiftLeft hlow, Nat.add_comm]

lemma short_or_header (bytes : Bytes) : (PtyFrame.decode bytes = none ∧ decodePtyFrame bytes = none) ∨
    ∃ kind version opcode reserved i0 i1 i2 i3 l0 l1 l2 l3 h0 h1 h2 h3 payload,
      bytes = kind :: version :: opcode :: reserved :: i0 :: i1 :: i2 :: i3 ::
        l0 :: l1 :: l2 :: l3 :: h0 :: h1 :: h2 :: h3 :: payload := by
  refine or_iff_not_imp_right.2 fun hshort => ⟨?_, ?_⟩
  · unfold PtyFrame.decode
    split
    · exact absurd ⟨_, _, _, _, _, _, _, _, _, _, _, _, _, _, _, _, _, rfl⟩ hshort
    · rfl
  · unfold decodePtyFrame
    split
    · exact absurd ⟨_, _, _, _, _, _, _, _, _, _, _, _, _, _, _, _, _, rfl⟩ hshort
    · rfl

/-- Bytes are read as the protocol package reads them, where their opcode is one of the seven. -/
lemma PtyFrame.decode_eq (bytes : Bytes) : (PtyFrame.decode bytes).map plain =
    (decodePtyFrame bytes).filter fun frame => (PtyOpcode.ofRawValue frame.opcode).isSome := by
  rcases short_or_header bytes with ⟨hswift, hprotocol⟩ |
    ⟨kind, version, opcode, reserved, i0, i1, i2, i3, l0, l1, l2, l3, h0, h1, h2, h3, payload, rfl⟩
  · rw [hswift, hprotocol]
    rfl
  · rw [PtyFrame.decode, decodePtyFrame]
    by_cases hmagic : kind = 0x74 ∧ version = 1
    · rw [if_pos hmagic, if_neg (by simp [hmagic.1, ptyFrameKind]),
        if_neg (by simp [hmagic.2, ptyFrameVersion])]
      cases hopcode : PtyOpcode.ofRawValue opcode with
      | none => simp [Option.filter, hopcode]
      | some known =>
        have hbyte := PtyOpcode.rawValue_of_ofRawValue hopcode
        have hseq := toNat_seq (readLE32 h0 h1 h2 h3) (readLE32 l0 l1 l2 l3)
        simp only [Option.filter, hopcode, Option.isSome_some, if_true, Option.map_some, plain, hseq,
          toNat_readLE32, hbyte]
    · rw [if_neg hmagic]
      by_cases hkind : kind = 0x74
      · have hversion : version ≠ 1 := fun heq => hmagic ⟨hkind, heq⟩
        rw [if_neg (by simp [hkind, ptyFrameKind]), if_pos (by simpa [ptyFrameVersion] using hversion)]
        rfl
      · rw [if_pos (by simpa [ptyFrameKind] using hkind)]
        rfl

/-! ## Frames of the protocol package -/

/-- The high half of the sequence number in a header. -/
def highWord (bytes : Bytes) : ℕ := littleEndian ((bytes.drop 12).take 4)

lemma decode_encodePtyFrame {frame : Protocol.PtyFrame} (hstream : frame.streamId < 2 ^ 32)
    (hseq : frame.seq < 2 ^ 53) : decodePtyFrame (encodePtyFrame frame) = some frame := by
  rw [decode_encodePtyFrame_received, Protocol.PtyFrame.received, Nat.mod_eq_of_lt hstream,
    Nat.mod_eq_of_lt (Nat.lt_trans hseq (by decide))]

lemma halves {a b : ℕ} (hb : b < 2 ^ 32) :
    (a * 2 ^ 32 + b) / 2 ^ 32 = a ∧ (a * 2 ^ 32 + b) % 2 ^ 32 = b := by omega

lemma encode_decodePtyFrame {bytes : Bytes} {frame : Protocol.PtyFrame}
    (h : decodePtyFrame bytes = some frame) (hreserved : bytes[3]? = some 0) :
    encodePtyFrame frame = bytes ∧ frame.seq / 2 ^ 32 = highWord bytes := by
  unfold decodePtyFrame at h
  split at h
  · next kind version opcode reserved i0 i1 i2 i3 l0 l1 l2 l3 h0 h1 h2 h3 payload =>
    split at h
    · cases h
    next hkind =>
    split at h
    · cases h
    next hversion =>
    cases h
    have hzero : reserved = 0 := by simpa using hreserved
    have hlow := littleEndian_four_lt l0 l1 l2 l3
    obtain ⟨hdiv, hlowest⟩ := halves (a := littleEndian [h0, h1, h2, h3]) hlow
    have hmod : uint32LE (littleEndian [h0, h1, h2, h3] * 2 ^ 32 + littleEndian [l0, l1, l2, l3]) =
        [l0, l1, l2, l3] := by
      refine littleEndian_inj (length_uint32LE _) ?_
      rw [littleEndian_uint32LE]
      exact hlowest
    have hword : highWord (kind :: version :: opcode :: reserved :: i0 :: i1 :: i2 :: i3 ::
        l0 :: l1 :: l2 :: l3 :: h0 :: h1 :: h2 :: h3 :: payload) = littleEndian [h0, h1, h2, h3] := rfl
    constructor
    · simp only [encodePtyFrame, hdiv, hmod, uint32LE_littleEndian, hzero, ← not_ne_iff.1 hkind,
        ← not_ne_iff.1 hversion, List.cons_append, List.nil_append]
    · dsimp only
      rw [hword, hdiv]
  · cases h

/-! ## Payloads of the two codecs -/

lemma PtyPayload.encodeSize_eq (size : Size) : encodeSize size = encodeSizePayload size := by
  have hand : ∀ n : ℕ, UInt8.ofNat (n &&& 0xff) = UInt8.ofNat n := by
    intro n
    apply UInt8.toNat_inj.1
    rw [UInt8.toNat_ofNat', UInt8.toNat_ofNat', Nat.and_two_pow_sub_one_eq_mod n 8, Nat.mod_mod]
  rw [encodeSize, hand, hand, hand, hand, Nat.shiftRight_eq_div_pow, Nat.shiftRight_eq_div_pow]
  rfl

lemma PtyPayload.decodeSize_eq {bytes : Bytes} (h : 4 ≤ bytes.length) :
    decodeSizePayload bytes = some (decodeSize bytes) := by
  have hor : ∀ a b : UInt8, a.toNat ||| (b.toNat <<< 8) = littleEndian [a, b] := by
    intro a b
    rw [or_shiftLeft a.toNat_lt]
    simp only [littleEndian]
    omega
  rcases bytes with _ | ⟨c0, _ | ⟨c1, _ | ⟨r0, _ | ⟨r1, rest⟩⟩⟩⟩
  iterate 4 exact absurd h (by simp)
  rw [decodeSizePayload, decodeSize, hor, hor]

lemma PtyPayload.decodeExit_eq {bytes : Bytes} (h : bytes = [] ∨ 4 ≤ bytes.length) :
    decodeExitPayload bytes = some (decodeExit bytes) := by
  match bytes, h with
  | [], _ => rfl
  | b0 :: b1 :: b2 :: b3 :: rest, _ =>
    rw [decodeExitPayload, decodeExit, BitVec.toInt_eq_toNat_cond]
    have hnat : (readLE32 b0 b1 b2 b3).toBitVec.toNat = littleEndian [b0, b1, b2, b3] :=
      toNat_readLE32 b0 b1 b2 b3
    rw [hnat]
    congr 2
    split
    · next hlt => rw [if_pos (by omega)]
    · next hge =>
      rw [if_neg (by omega)]
      rfl

lemma decode_encodeExitPayload {code : Option ℤ} (h : ∀ n ∈ code, -2 ^ 31 ≤ n ∧ n < 2 ^ 31) :
    decodeExitPayload (encodeExitPayload code) = some code := by
  cases code with
  | none => rfl
  | some n =>
    obtain ⟨hleast, hmost⟩ := h n rfl
    have hvalue : littleEndian (uint32LE (n % 2 ^ 32).toNat) = (n % 2 ^ 32).toNat := by
      rw [littleEndian_uint32LE]
      omega
    calc decodeExitPayload (encodeExitPayload (some n))
        = some (some (if littleEndian (uint32LE (n % 2 ^ 32).toNat) < 2 ^ 31
            then (littleEndian (uint32LE (n % 2 ^ 32).toNat) : ℤ)
            else (littleEndian (uint32LE (n % 2 ^ 32).toNat) : ℤ) - 2 ^ 32)) := rfl
      _ = some (some n) := by
        rw [hvalue]
        congr 2
        split <;> omega

/-! ## The contract of the codecs -/

/-- What the codecs of the two sides promise each other. -/
structure PtyCodecs : Prop where
  frames : ∀ frame : Protocol.PtyFrame, frame.streamId < 2 ^ 32 → frame.seq < 2 ^ 53 →
    decodePtyFrame (encodePtyFrame frame) = some frame
  sizes : ∀ size : Size, size.cols < 2 ^ 16 → size.rows < 2 ^ 16 →
    decodeSizePayload (encodeSizePayload size) = some size
  codes : ∀ code : Option ℤ, (∀ n ∈ code, -2 ^ 31 ≤ n ∧ n < 2 ^ 31) →
    decodeExitPayload (encodeExitPayload code) = some code
  wire : ∀ bytes frame, decodePtyFrame bytes = some frame → bytes[3]? = some 0 →
    highWord bytes < 2 ^ 21 → encodePtyFrame frame = bytes
  injective : ∀ bytes bytes' frame, decodePtyFrame bytes = some frame → decodePtyFrame bytes' = some frame →
    bytes[3]? = some 0 → bytes'[3]? = some 0 → highWord bytes < 2 ^ 21 → highWord bytes' < 2 ^ 21 →
    bytes = bytes'
  written : ∀ frame : Protocol.PtyFrame, frame.streamId < 2 ^ 32 → frame.seq < 2 ^ 53 →
    PtyOpcode.IsDefined frame.opcode →
    ∃ swift : PtyFrame, swift.plain = frame ∧ swift.encoded = encodePtyFrame frame
  accepted : ∀ bytes, (PtyFrame.decode bytes).isSome = true ↔
    ∃ frame, decodePtyFrame bytes = some frame ∧ PtyOpcode.IsDefined frame.opcode
  read : ∀ bytes swift frame, PtyFrame.decode bytes = some swift → decodePtyFrame bytes = some frame →
    highWord bytes < 2 ^ 21 → swift.plain = frame
  sizesWritten : ∀ size : Size, PtyPayload.encodeSize size = encodeSizePayload size
  sizesRead : ∀ bytes : Bytes, 4 ≤ bytes.length →
    decodeSizePayload bytes = some (PtyPayload.decodeSize bytes)
  codesRead : ∀ bytes : Bytes, bytes = [] ∨ 4 ≤ bytes.length →
    decodeExitPayload bytes = some (PtyPayload.decodeExit bytes)

end Pherry.PherryKit
