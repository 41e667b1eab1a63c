import Pherry.Protocol.PtyFrame

/-!
# The controller's event stream

`PtyEventStream`: PTY frames in, terminal events out. The listeners are foreign code, so a frame is
ingested in two halves: `ingest` up to the listeners, `deliver` behind them.
-/

namespace Pherry.Sdk

open Protocol

/-- `MAX_SNAPSHOT_BYTES`. -/
def maxSnapshotBytes : ℕ := 8 * 1024 * 1024

/-- `MAX_SNAPSHOT_CHUNKS`. -/
def maxSnapshotChunks : ℕ := 4096

/-- A decoded terminal event. -/
inductive PtyEvent
  | snapshot (seq : ℕ) (size : Size) (data : Bytes)
  | output (seq : ℕ) (data : Bytes)
  | resize (seq : ℕ) (size : Size)
  | ended (seq : ℕ) (code : Option ℤ)
  | gap (seq : ℕ)
deriving DecidableEq

/-- An event behind which a stream ends. -/
def PtyEvent.isEnded : PtyEvent → Bool
  | ended _ _ => true
  | _ => false

/-- A snapshot under reassembly. -/
structure PendingSnapshot where
  seq : ℕ
  size : Size
  chunks : List Bytes
  bytes : ℕ

/-- How a read settles. -/
inductive ReadResult
  | value (event : PtyEvent)
  | done
  | rejected

/-- The state of a stream. A puller is the number of a read that waits; `failed` is whether there is
an `#error`. -/
structure PtyEventStream where
  queue : List PtyEvent
  pullers : List ℕ
  snapshot : Option PendingSnapshot
  ended : Bool
  failed : Bool

/-- The reads an operation settles. -/
abbrev Settled := List (ℕ × ReadResult)

namespace PtyEventStream

/-- A new stream. -/
def new : PtyEventStream :=
  { queue := []
    pullers := []
    snapshot := none
    ended := false
    failed := false }

/-- `end`. -/
def finish (s : PtyEventStream) : PtyEventStream × Settled :=
  if s.ended then (s, [])
  else ({ s with ended := true, pullers := [] }, s.pullers.map fun read => (read, .done))

/-- `#fail`. -/
def fail (s : PtyEventStream) : PtyEventStream × Settled :=
  if s.ended then (s, [])
  else
    ({ s with ended := true, failed := true, snapshot := none, pullers := [] },
      s.pullers.map fun read => (read, .rejected))

/-- `next`, for the read of this number. -/
def next (s : PtyEventStream) (read : ℕ) : PtyEventStream × Settled :=
  match s.queue with
  | event :: queue => ({ s with queue }, [(read, .value event)])
  | [] =>
    if s.failed then (s, [(read, .rejected)])
    else if s.ended then (s, [(read, .done)])
    else ({ s with pullers := s.pullers ++ [read] }, [])

/-- One chunk of a snapshot. A stream that holds no snapshot ignores it. -/
def pushChunk (s : PtyEventStream) (payload : Bytes) : PtyEventStream × Settled :=
  match s.snapshot with
  | none => (s, [])
  | some snap =>
    let snap := { snap with
      chunks := snap.chunks ++ [payload]
      bytes := snap.bytes + payload.length }
    let s := { s with snapshot := some snap }
    if snap.bytes > maxSnapshotBytes ∨ snap.chunks.length > maxSnapshotChunks then s.fail
    else (s, [])

/-- `ingest` up to the call of `#push`: the stream, the reads it settles, and the event to push.
`none` is an exception, which leaves the stream as it was. -/
def ingest (s : PtyEventStream) (frame : PtyFrame) :
    Option (PtyEventStream × Settled × Option PtyEvent) :=
  if frame.opcode = PtyOpcode.snapshotStart then do
    let size ← decodeSizePayload frame.payload
    return ({ s with snapshot := some ⟨frame.seq, size, [], 0⟩ }, [], none)
  else if frame.opcode = PtyOpcode.snapshotChunk then
    let r := s.pushChunk frame.payload
    return (r.1, r.2, none)
  else if frame.opcode = PtyOpcode.snapshotEnd then
    return ({ s with snapshot := none }, [],
      s.snapshot.map fun snap => .snapshot snap.seq snap.size snap.chunks.flatten)
  else if frame.opcode = PtyOpcode.output then return (s, [], some (.output frame.seq frame.payload))
  else if frame.opcode = PtyOpcode.resized then do
    let size ← decodeSizePayload frame.payload
    return (s, [], some (.resize frame.seq size))
  else if frame.opcode = PtyOpcode.ended then do
    let code ← decodeExitPayload frame.payload
    return (s, [], some (.ended frame.seq code))
  else if frame.opcode = PtyOpcode.gap then return (s, [], some (.gap frame.seq))
  else return (s, [], none)

/-- `#push` behind the listeners, and the `end` that follows an `ended` event. -/
def deliver (s : PtyEventStream) (event : PtyEvent) : PtyEventStream × Settled :=
  let r := match s.pullers with
    | read :: pullers => ({ s with pullers }, [(read, .value event)])
    | [] => ({ s with queue := s.queue ++ [event] }, [])
  match event with
  | .ended _ _ => (r.1.finish.1, r.2 ++ r.1.finish.2)
  | _ => r

/-! ## Ended streams -/

/-- A stream that has ended leaves no read waiting. -/
def Quiet (s : PtyEventStream) : Prop := s.ended = true → s.pullers = []

lemma quiet_new : new.Quiet := fun _ => rfl

lemma Quiet.finish {s : PtyEventStream} (h : s.Quiet) : s.finish.1.Quiet := by
  unfold PtyEventStream.finish
  split
  · exact h
  · exact fun _ => rfl

lemma Quiet.fail {s : PtyEventStream} (h : s.Quiet) : s.fail.1.Quiet := by
  unfold PtyEventStream.fail
  split
  · exact h
  · exact fun _ => rfl

lemma Quiet.next {s : PtyEventStream} (h : s.Quiet) (read : ℕ) : (s.next read).1.Quiet := by
  unfold PtyEventStream.next
  split
  · exact h
  split
  · exact h
  split
  · exact h
  · next hended => exact fun hs => absurd hs hended

lemma Quiet.pushChunk {s : PtyEventStream} (h : s.Quiet) (payload : Bytes) :
    (s.pushChunk payload).1.Quiet := by
  unfold PtyEventStream.pushChunk
  split
  · exact h
  dsimp only
  split
  · exact Quiet.fail h
  · exact h

lemma Quiet.ingest {s : PtyEventStream} (h : s.Quiet) {frame : PtyFrame}
    {r : PtyEventStream × Settled × Option PtyEvent} (hr : s.ingest frame = some r) : r.1.Quiet := by
  unfold PtyEventStream.ingest at hr
  split at hr
  · obtain ⟨size, -, hr⟩ := Option.bind_eq_some_iff.1 hr
    cases hr
    exact h
  split at hr
  · cases hr
    exact h.pushChunk _
  split at hr
  · cases hr
    exact h
  split at hr
  · cases hr
    exact h
  split at hr
  · obtain ⟨size, -, hr⟩ := Option.bind_eq_some_iff.1 hr
    cases hr
    exact h
  split at hr
  · obtain ⟨code, -, hr⟩ := Option.bind_eq_some_iff.1 hr
    cases hr
    exact h
  split at hr <;> cases hr <;> exact h

lemma Quiet.deliver {s : PtyEventStream} (h : s.Quiet) (event : PtyEvent) :
    (s.deliver event).1.Quiet := by
  have hpush : (match s.pullers with
      | read :: pullers => ({ s with pullers }, [(read, ReadResult.value event)])
      | [] => ({ s with queue := s.queue ++ [event] }, [])).1.Quiet := by
    split
    · next hp => exact fun hs => absurd (h hs) (by rw [hp]; exact List.cons_ne_nil _ _)
    · exact h
  unfold PtyEventStream.deliver
  cases event with
  | ended seq code => exact hpush.finish
  | snapshot seq size data => exact hpush
  | output seq data => exact hpush
  | resize seq size => exact hpush
  | gap seq => exact hpush

end PtyEventStream

end Pherry.Sdk
