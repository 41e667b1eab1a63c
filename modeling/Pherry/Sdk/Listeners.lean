import Pherry.Lib.Machine
import Pherry.Sdk.Events

/-!
# The listeners of an event stream

A `PtyEventStream` with the listeners that its `#push` calls in turn. A listener is foreign code:
before it returns it may register another, read, end the stream or bring it a frame.
-/

namespace Pherry.Sdk

open Lib Protocol

/-- A `#push` that is under way: its event, and how many listeners were called with it. -/
structure Push where
  event : PtyEvent
  called : ℕ

/-- A stream with its listeners, and the calls of `#push` under way, the innermost first. -/
structure ListenedStream where
  stream : PtyEventStream
  listeners : List ℕ
  pushes : List Push

/-- What happens to a stream. The listener called last returns, or throws. -/
inductive StreamEvent
  | ingest (frame : PtyFrame)
  | onEvent (listener : ℕ)
  | next (read : ℕ)
  | finish
  | returned
  | threw

/-- What a stream does: it calls a listener, or settles a read. -/
inductive StreamEffect
  | listener (listener : ℕ) (event : PtyEvent)
  | read (read : ℕ) (result : ReadResult)

/-- Reads that are settled, as effects. -/
def readEffects (settled : Settled) : List StreamEffect :=
  settled.map fun read => .read read.1 read.2

namespace ListenedStream

/-- A new stream. -/
def new : ListenedStream := ⟨.new, [], []⟩

/-- The innermost `#push` goes on: to its next listener, or behind the last one to the iterator. A
listener that is registered meanwhile is called as well. -/
def proceed (s : ListenedStream) : ListenedStream × List StreamEffect :=
  match s.pushes with
  | [] => (s, [])
  | push :: pushes =>
    match s.listeners[push.called]? with
    | some listener =>
      ({ s with pushes := ⟨push.event, push.called + 1⟩ :: pushes }, [.listener listener push.event])
    | none =>
      let r := s.stream.deliver push.event
      ({ s with stream := r.1, pushes }, readEffects r.2)

/-- The event that a frame is decoded to, with the stream before its listeners. A stream that has
ended drops it. -/
def decodes (s : ListenedStream) (frame : PtyFrame) : Option PtyEvent :=
  match s.stream.ingest frame with
  | none => none
  | some (stream, _, event) => if stream.ended then none else event

/-- `ingest`. -/
def ingest (s : ListenedStream) (frame : PtyFrame) : ListenedStream × List StreamEffect :=
  match s.stream.ingest frame with
  | none => (s, [])
  | some (stream, settled, event) =>
    match event with
    | none => ({ s with stream }, readEffects settled)
    | some event =>
      if stream.ended then ({ s with stream }, readEffects settled)
      else
        let r := ({ s with stream, pushes := ⟨event, 0⟩ :: s.pushes } : ListenedStream).proceed
        (r.1, readEffects settled ++ r.2)

/-- One event and its effects. An exception of a listener leaves `#push`, and `ingest` with it. -/
def react (s : ListenedStream) : StreamEvent → ListenedStream × List StreamEffect
  | .ingest frame => s.ingest frame
  | .onEvent listener =>
    (if listener ∈ s.listeners then s else { s with listeners := s.listeners ++ [listener] }, [])
  | .next read =>
    let r := s.stream.next read
    ({ s with stream := r.1 }, readEffects r.2)
  | .finish =>
    let r := s.stream.finish
    ({ s with stream := r.1 }, readEffects r.2)
  | .returned => s.proceed
  | .threw => ({ s with pushes := s.pushes.tail }, [])

/-- The event that is decoded by a step. -/
def decoded (s : ListenedStream) : StreamEvent → List PtyEvent
  | .ingest frame => (s.decodes frame).toList
  | _ => []

end ListenedStream

/-- A stream with its listeners as a machine. -/
def listenedMachine : Machine ListenedStream StreamEvent where
  init := .new
  step s e := (s.react e).1

/-- The effects of a run. -/
def streamEffects (es : List StreamEvent) : List StreamEffect :=
  listenedMachine.outputs (fun s e => (s.react e).2) es

/-- The events that a run decodes. -/
def decodedEvents (es : List StreamEvent) : List PtyEvent :=
  listenedMachine.outputs ListenedStream.decoded es

/-! ## What `ingest` leaves alone -/

namespace PtyEventStream

variable {s : PtyEventStream}

/-- Behind a frame a stream is as before, but for its snapshot, or it has failed. -/
inductive Ingested (s : PtyEventStream) (snapshot : Option PendingSnapshot) : PtyEventStream → Settled → Prop
  | live : Ingested s snapshot { s with snapshot } []
  | failed (hended : s.ended = false) : Ingested s snapshot
      { s with ended := true, failed := true, snapshot := none, pullers := [] }
      (s.pullers.map fun read => (read, .rejected))

lemma ingested_pushChunk (payload : Bytes) :
    ∃ snapshot, Ingested s snapshot (s.pushChunk payload).1 (s.pushChunk payload).2 := by
  unfold pushChunk
  split
  · exact ⟨s.snapshot, .live⟩
  dsimp only
  split
  · unfold fail
    dsimp only
    split
    · exact ⟨_, .live⟩
    · next hended => exact ⟨none, .failed (Bool.eq_false_iff.2 hended)⟩
  · exact ⟨_, .live⟩

lemma ingested_of_ingest {frame : PtyFrame} {r : PtyEventStream × Settled × Option PtyEvent}
    (h : s.ingest frame = some r) : ∃ snapshot, Ingested s snapshot r.1 r.2.1 := by
  unfold PtyEventStream.ingest at h
  split at h
  · obtain ⟨size, -, h⟩ := Option.bind_eq_some_iff.1 h
    cases h
    exact ⟨_, .live⟩
  split at h
  · cases h
    exact ingested_pushChunk frame.payload
  split at h
  · cases h
    exact ⟨_, .live⟩
  split at h
  · cases h
    exact ⟨s.snapshot, .live⟩
  split at h
  · obtain ⟨size, -, h⟩ := Option.bind_eq_some_iff.1 h
    cases h
    exact ⟨s.snapshot, .live⟩
  split at h
  · obtain ⟨code, -, h⟩ := Option.bind_eq_some_iff.1 h
    cases h
    exact ⟨s.snapshot, .live⟩
  split at h <;> cases h <;> exact ⟨s.snapshot, .live⟩

end PtyEventStream

end Pherry.Sdk
