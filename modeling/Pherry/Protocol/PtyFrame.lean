import Mathlib.Algebra.Group.Int.Defs
import Pherry.Js
import Pherry.Lib.Chunks

/-!
# PTY frames

The binary half of the wire: a header of 16 bytes and an opaque payload, and the payloads that have
a shape of their own.
-/

namespace Pherry.Protocol

open Lib

/-- `PTY_FRAME_KIND`. -/
def ptyFrameKind : UInt8 := 0x74

/-- `PTY_FRAME_VERSION`. -/
def ptyFrameVersion : UInt8 := 1

namespace PtyOpcode

def output : UInt8 := 1
def snapshotStart : UInt8 := 2
def snapshotChunk : UInt8 := 3
def snapshotEnd : UInt8 := 4
def resized : UInt8 := 5
def ended : UInt8 := 6
def gap : UInt8 := 7

end PtyOpcode

/-- A PTY frame. An unknown opcode is decoded as it is. -/
structure PtyFrame where
  opcode : UInt8
  streamId : ℕ
  seq : ℕ
  payload : Bytes
deriving Repr

/-- `encodePtyFrame`. -/
def encodePtyFrame (frame : PtyFrame) : Bytes :=
  [ptyFrameKind, ptyFrameVersion, frame.opcode, 0] ++ uint32LE frame.streamId ++
    uint32LE frame.seq ++ uint32LE (frame.seq / 2 ^ 32) ++ frame.payload

/-- `decodePtyFrame`. -/
def decodePtyFrame : Bytes → Option PtyFrame
  | kind :: version :: opcode :: _ :: i0 :: i1 :: i2 :: i3 ::
      l0 :: l1 :: l2 :: l3 :: h0 :: h1 :: h2 :: h3 :: payload =>
    if kind ≠ ptyFrameKind then none
    else if version ≠ ptyFrameVersion then none
    else
      some { opcode
             streamId := littleEndian [i0, i1, i2, i3]
             seq := littleEndian [h0, h1, h2, h3] * 2 ^ 32 + littleEndian [l0, l1, l2, l3]
             payload }
  | _ => none

/-- A frame as the header carries it. -/
def PtyFrame.received (frame : PtyFrame) : PtyFrame :=
  { frame with
    streamId := frame.streamId % 2 ^ 32
    seq := frame.seq % 2 ^ 64 }

lemma decode_encodePtyFrame_received (frame : PtyFrame) :
    decodePtyFrame (encodePtyFrame frame) = some frame.received := by
  have hstream : littleEndian (uint32LE frame.streamId) = frame.streamId % 2 ^ 32 :=
    littleEndian_uint32LE _
  have hvalue : littleEndian (uint32LE (frame.seq / 2 ^ 32)) * 2 ^ 32 +
      littleEndian (uint32LE frame.seq) = frame.seq % 2 ^ 64 := by
    rw [littleEndian_uint32LE, littleEndian_uint32LE]
    omega
  calc decodePtyFrame (encodePtyFrame frame)
      = some { opcode := frame.opcode
               streamId := littleEndian (uint32LE frame.streamId)
               seq := littleEndian (uint32LE (frame.seq / 2 ^ 32)) * 2 ^ 32 +
                 littleEndian (uint32LE frame.seq)
               payload := frame.payload } := rfl
    _ = some frame.received := by rw [hstream, hvalue]; rfl

/-! ## Payloads -/

/-- A terminal size. -/
structure Size where
  cols : ℕ
  rows : ℕ
deriving DecidableEq, Repr

/-- The bounds of the schema. -/
def Size.Valid (s : Size) : Prop := 1 ≤ s.cols ∧ s.cols ≤ 1000 ∧ 1 ≤ s.rows ∧ s.rows ≤ 1000

/-- `encodeSizePayload`. -/
def encodeSizePayload (s : Size) : Bytes := uint16LE s.cols ++ uint16LE s.rows

/-- `decodeSizePayload`. It throws on fewer than four bytes. -/
def decodeSizePayload : Bytes → Option Size
  | c0 :: c1 :: r0 :: r1 :: _ => some ⟨littleEndian [c0, c1], littleEndian [r0, r1]⟩
  | _ => none

lemma decode_encodeSizePayload {s : Size} (hcols : s.cols < 2 ^ 16) (hrows : s.rows < 2 ^ 16) :
    decodeSizePayload (encodeSizePayload s) = some s := by
  have hc : littleEndian (uint16LE s.cols) = s.cols := by rw [littleEndian_uint16LE]; omega
  have hr : littleEndian (uint16LE s.rows) = s.rows := by rw [littleEndian_uint16LE]; omega
  calc decodeSizePayload (encodeSizePayload s)
      = some ⟨littleEndian (uint16LE s.cols), littleEndian (uint16LE s.rows)⟩ := rfl
    _ = some s := by rw [hc, hr]

/-- `encodeExitPayload`. A negative code is written in two's complement. -/
def encodeExitPayload : Option ℤ → Bytes
  | none => []
  | some code => uint32LE (code % 2 ^ 32).toNat

/-- `decodeExitPayload`. It throws on one to three bytes. -/
def decodeExitPayload : Bytes → Option (Option ℤ)
  | [] => some none
  | b0 :: b1 :: b2 :: b3 :: _ =>
    let n := littleEndian [b0, b1, b2, b3]
    some (some (if n < 2 ^ 31 then n else n - 2 ^ 32))
  | _ => none

example : decodeExitPayload (encodeExitPayload (some (-1))) = some (some (-1)) := by decide

end Pherry.Protocol
