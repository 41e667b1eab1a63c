import Pherry.Lib.InsertionMap
import Pherry.Protocol.PtyFrame

/-!
# The terminal of a session

The part of `Session` that has nothing to do with its subscribers: the mirror, the sequence
numbers, the size and who it belongs to. What it tells every subscriber is a live frame.
-/

namespace Pherry.Host

open Lib Protocol

/-- A terminal emulator and its serializer, which a `Mirror` wraps. -/
structure Emulator (σ : Type) where
  blank : Size → σ
  write : σ → Bytes → σ
  resize : σ → Size → σ
  serialize : σ → JsString

/-- `SNAPSHOT_CHUNK_BYTES`. -/
def snapshotChunkBytes : ℕ := 16 * 1024

/-- A viewer's viewport, with the tick it was recorded at. -/
structure Viewport where
  size : Size
  recorded : ℕ

/-- The state of a terminal. A viewer is a number; `authority` is whom the size belongs to. -/
structure Terminal (σ : Type) where
  streamId : ℕ
  mirror : σ
  size : Size
  seq : ℕ
  ended : Bool
  endedSeq : ℕ
  disposed : Bool
  viewports : InsertionMap ℕ Viewport
  viewportTick : ℕ
  authority : Option ℕ

/-- What is asked of a terminal. -/
inductive TerminalEvent
  | output (bytes : Bytes)
  | exit (code : Option ℤ)
  | resize (size : Size)
  | write (bytes : Bytes)
  | observeViewer (viewer : ℕ) (size : Size)
  | resizeViewer (viewer : ℕ) (size : Size)
  | releaseViewer (viewer : ℕ)
  | dispose

/-- What a terminal has its backend do. -/
inductive BackendEffect
  | write (bytes : Bytes)
  | resize (size : Size)
  | dispose
deriving Repr

namespace Terminal

variable {σ : Type} (em : Emulator σ)

/-- The terminal of a new session. -/
def new (streamId : ℕ) (size : Size) : Terminal σ :=
  { streamId
    mirror := em.blank size
    size
    seq := 0
    ended := false
    endedSeq := 0
    disposed := false
    viewports := .empty
    viewportTick := 0
    authority := none }

/-- A terminal that takes no more output. -/
def isOver (t : Terminal σ) : Bool := t.ended || t.disposed

/-! ## Frames -/

/-- The next live frame. -/
def live (t : Terminal σ) (opcode : UInt8) (payload : Bytes) : Terminal σ × PtyFrame :=
  ({ t with seq := t.seq + 1 },
    { opcode
      streamId := t.streamId
      seq := t.seq + 1
      payload })

/-- A frame at a sequence number. -/
def frameAt (t : Terminal σ) (seq : ℕ) (opcode : UInt8) (payload : Bytes) : PtyFrame :=
  { opcode
    streamId := t.streamId
    seq
    payload }

/-- The first frame of a snapshot. -/
def snapshotStart (t : Terminal σ) : PtyFrame :=
  t.frameAt t.seq PtyOpcode.snapshotStart (encodeSizePayload t.size)

/-- The frames of a snapshot behind the first. -/
def snapshotBody (t : Terminal σ) (seq : ℕ) : List PtyFrame :=
  (chunksOf snapshotChunkBytes (utf8 (em.serialize t.mirror))).map
      (t.frameAt seq PtyOpcode.snapshotChunk) ++
    [t.frameAt seq PtyOpcode.snapshotEnd []]

/-- `#emitSnapshot`. -/
def snapshot (t : Terminal σ) : List PtyFrame := t.snapshotStart :: t.snapshotBody em t.seq

/-- The frame behind which the session sends a snapshot again. -/
def gap (t : Terminal σ) : PtyFrame := t.frameAt t.seq PtyOpcode.gap []

/-- The last frame, to a subscriber that comes behind the end. -/
def endedFrame (t : Terminal σ) : PtyFrame :=
  t.frameAt t.endedSeq PtyOpcode.ended (encodeExitPayload none)

/-! ## Steps -/

/-- `resize`. -/
def resize (t : Terminal σ) (size : Size) : Terminal σ × List BackendEffect × Option PtyFrame :=
  if t.isOver then (t, [], none)
  else
    let r := { t with
      size
      mirror := em.resize t.mirror size }.live PtyOpcode.resized (encodeSizePayload size)
    (r.1, [.resize size], some r.2)

/-- The viewer whose record is the latest. -/
def heir (t : Terminal σ) : Option (ℕ × Viewport) :=
  t.viewports.entries.foldl (fun best candidate =>
    match best with
    | none => some candidate
    | some (viewer, record) =>
      if candidate.2.recorded > record.recorded then some candidate else some (viewer, record)) none

/-- Record a viewport. -/
def record (t : Terminal σ) (viewer : ℕ) (size : Size) : Terminal σ :=
  { t with
    viewportTick := t.viewportTick + 1
    viewports := t.viewports.set viewer ⟨size, t.viewportTick + 1⟩ }

/-- `releaseViewer`. -/
def releaseViewer (t : Terminal σ) (viewer : ℕ) :
    Terminal σ × List BackendEffect × Option PtyFrame :=
  let hadRecord := (t.viewports.get viewer).isSome
  let t := { t with viewports := t.viewports.erase viewer }
  if t.authority ≠ some viewer then (t, [], none)
  else
    let t := { t with authority := none }
    if !hadRecord then (t, [], none)
    else
      match t.heir with
      | none => (t, [], none)
      | some (heir, record) =>
        let t := { t with authority := some heir }
        if record.size ≠ t.size then t.resize em record.size else (t, [], none)

/-- One event: what the backend is told, and the live frame it broadcasts. -/
def react (t : Terminal σ) : TerminalEvent → Terminal σ × List BackendEffect × Option PtyFrame
  | .output bytes =>
    if t.isOver then (t, [], none)
    else
      let r := { t with mirror := em.write t.mirror bytes }.live PtyOpcode.output bytes
      (r.1, [], some r.2)
  | .exit code =>
    if t.isOver then (t, [], none)
    else
      let r := t.live PtyOpcode.ended (encodeExitPayload code)
      (r.1, [], some r.2)
  | .resize size => t.resize em size
  | .write bytes => (t, if t.isOver then [] else [.write bytes], none)
  | .observeViewer viewer size => (t.record viewer size, [], none)
  | .resizeViewer viewer size => { t.record viewer size with authority := some viewer }.resize em size
  | .releaseViewer viewer => t.releaseViewer em viewer
  | .dispose =>
    if t.disposed then (t, [], none)
    else ({ t with disposed := true }, if t.ended then [] else [.dispose], none)

/-- `#onExit` behind the broadcast. -/
def exited (t : Terminal σ) (seq : ℕ) : Terminal σ :=
  { t with
    ended := true
    endedSeq := seq }

end Terminal

end Pherry.Host
