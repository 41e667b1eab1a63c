import Pherry.Lib.Machine
import Pherry.Protocol.PtyFrame

/-!
# The phone's event stream

`StreamSink`: PTY frames in, terminal events out, with the frame and payload decoders of the phone.
-/

namespace Pherry.Ios

open Lib Protocol

/-! ## Frames -/

/-- What a frame carries. -/
inductive PtyOpcode
  | output
  | snapshotStart
  | snapshotChunk
  | snapshotEnd
  | resized
  | ended
  | gap
deriving Repr

namespace PtyOpcode

/-- The byte of an opcode. -/
def rawValue : PtyOpcode → UInt8
  | output => 1
  | snapshotStart => 2
  | snapshotChunk => 3
  | snapshotEnd => 4
  | resized => 5
  | ended => 6
  | gap => 7

/-- The opcode of a byte. -/
def ofRawValue (byte : UInt8) : Option PtyOpcode :=
  [output, snapshotStart, snapshotChunk, snapshotEnd, resized, ended, gap].find? fun opcode =>
    opcode.rawValue = byte

end PtyOpcode

/-- A PTY frame. -/
structure PtyFrame where
  opcode : PtyOpcode
  streamId : ℕ
  seq : ℕ
  payload : Bytes

/-- `decode`. A byte that is no opcode is no frame. -/
def PtyFrame.decode : Bytes → Option PtyFrame
  | kind :: version :: opcode :: _ :: i0 :: i1 :: i2 :: i3 ::
      l0 :: l1 :: l2 :: l3 :: h0 :: h1 :: h2 :: h3 :: payload =>
    if kind = ptyFrameKind ∧ version = ptyFrameVersion then do
      let opcode ← PtyOpcode.ofRawValue opcode
      return { opcode
               streamId := littleEndian [i0, i1, i2, i3]
               seq := littleEndian [h0, h1, h2, h3] * 2 ^ 32 + littleEndian [l0, l1, l2, l3]
               payload }
    else none
  | _ => none

namespace PtyPayload

/-- `decodeSize`. Fewer than four bytes are no columns and no rows. -/
def decodeSize : Bytes → ℕ × ℕ
  | c0 :: c1 :: r0 :: r1 :: _ => (littleEndian [c0, c1], littleEndian [r0, r1])
  | _ => (0, 0)

/-- `decodeExit`. Fewer than four bytes are a signal. -/
def decodeExit : Bytes → Option ℤ
  | b0 :: b1 :: b2 :: b3 :: _ =>
    let raw := littleEndian [b0, b1, b2, b3]
    some (if raw < 2 ^ 31 then raw else raw - 2 ^ 32)
  | _ => none

end PtyPayload

/-! ## Events -/

/-- A decoded terminal event. -/
inductive PtyEvent
  | snapshot (data : Bytes)
  | output (data : Bytes)
  | resized (cols rows : ℕ)
  | ended (code : Option ℤ)
  | gap
deriving DecidableEq

/-- A sink, and whether its continuation is finished. -/
structure StreamSink where
  snapshotChunks : List Bytes
  inSnapshot : Bool
  finished : Bool

namespace StreamSink

/-- A new sink. -/
def new : StreamSink :=
  { snapshotChunks := []
    inSnapshot := false
    finished := false }

/-- `continuation.yield`. A continuation that is finished discards the event. -/
def yield (s : StreamSink) (event : PtyEvent) : List PtyEvent := if s.finished then [] else [event]

/-- `ingest`, and the events it yields. -/
def ingest (s : StreamSink) (frame : PtyFrame) : StreamSink × List PtyEvent :=
  match frame.opcode with
  | .snapshotStart => ({ s with inSnapshot := true, snapshotChunks := [] }, [])
  | .snapshotChunk =>
    (if s.inSnapshot then { s with snapshotChunks := s.snapshotChunks ++ [frame.payload] } else s, [])
  | .snapshotEnd =>
    ({ s with inSnapshot := false, snapshotChunks := [] },
      if s.inSnapshot then s.yield (.snapshot s.snapshotChunks.flatten) else [])
  | .output => (s, s.yield (.output frame.payload))
  | .resized =>
    let size := PtyPayload.decodeSize frame.payload
    (s, s.yield (.resized size.1 size.2))
  | .ended => ({ s with finished := true }, s.yield (.ended (PtyPayload.decodeExit frame.payload)))
  | .gap => (s, s.yield .gap)

/-- `handleFrame`, for the binary payloads of one stream. -/
def handleBinary (s : StreamSink) (payload : Bytes) : StreamSink × List PtyEvent :=
  match PtyFrame.decode payload with
  | none => (s, [])
  | some frame => s.ingest frame

end StreamSink

/-- A sink as a machine. -/
def sinkMachine : Machine StreamSink Bytes := ⟨.new, fun s payload => (s.handleBinary payload).1⟩

/-- The events a sink yields over payloads. -/
def sinkEvents (payloads : List Bytes) : List PtyEvent :=
  sinkMachine.outputs (fun s payload => (s.handleBinary payload).2) payloads

end Pherry.Ios
