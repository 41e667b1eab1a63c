import Pherry.Host.Session
import Pherry.Sdk.SnapshotReassembly
import Pherry.Sdk.StreamContract

/-!
# A snapshot crosses the wire

The frames a session sends for a snapshot, what a controller puts together from them, and the bound
up to which this is the snapshot.
-/

namespace Pherry

open Lib Protocol Host Sdk

/-! ## The frames of a snapshot -/

namespace Host

variable {σ : Type} (em : Emulator σ)

/-- The text of a snapshot. -/
def snapshotText (t : Terminal σ) : Bytes := utf8 (em.serialize t.mirror)

/-- The frames between the first and the last. -/
def snapshotChunks (t : Terminal σ) : List PtyFrame :=
  (chunksOf snapshotChunkBytes (snapshotText em t)).map (t.frameAt t.seq PtyOpcode.snapshotChunk)

lemma snapshot_eq (t : Terminal σ) :
    t.snapshot em = t.snapshotStart ::
      (snapshotChunks em t ++ [t.frameAt t.seq PtyOpcode.snapshotEnd []]) := rfl

namespace Session

variable {em} (streamId : ℕ) (size : Size)

/-- The frames that go to a sink over some events. -/
def sinks (em : Emulator σ) (number : ℕ) (s : Session σ) (es : List SessionEvent) : List PtyFrame :=
  sunk number ((sessionMachine em s.terminal.streamId s.terminal.size).outputsFrom
    (fun s e => (s.react em e).2) s es)

lemma outputsFrom_congr (streamId' : ℕ) (size' : Size) (s : Session σ) (es : List SessionEvent) :
    (sessionMachine em streamId size).outputsFrom (fun s e => (s.react em e).2) s es =
      (sessionMachine em streamId' size').outputsFrom (fun s e => (s.react em e).2) s es := by
  induction es generalizing s with
  | nil => rfl
  | cons e es ih =>
    rw [Machine.outputsFrom, Machine.outputsFrom]
    exact congrArg _ (ih (s.react em e).1)

lemma sinks_cons (number : ℕ) (s : Session σ) (e : SessionEvent) (es : List SessionEvent) :
    sinks em number s (e :: es) =
      sunk number (s.react em e).2 ++ sinks em number (s.react em e).1 es := by
  rw [sinks, Machine.outputsFrom, sunk, List.filterMap_append]
  exact congrArg _ (congrArg _ (outputsFrom_congr _ _ _ _ _ _))

lemma sinks_returned (s : Session σ) (number : ℕ) (frames : List PtyFrame) (left : List Emit)
    (calls : List SinkCall) (hcalls : s.calls = .emission number (frames.map .frame ++ left) :: calls) :
    sinks em number s (List.replicate frames.length .returned) = frames := by
  induction frames generalizing s with
  | nil => rfl
  | cons frame frames ih =>
    have hreact : s.react em .returned =
        ({ s with calls := .emission number (frames.map .frame ++ left) :: calls },
          [.sink number frame]) := by
      show s.onReturned em = _
      rw [onReturned, hcalls]
      rfl
    rw [List.length_cons, List.replicate_succ, sinks_cons, hreact, ih _ rfl]
    simp [sunk]

lemma sinks_subscribe (s : Session σ) (hlive : s.terminal.disposed = false) (flow : Bool) :
    sinks em s.made s (.subscribe flow ::
      List.replicate (s.terminal.snapshotBody em s.terminal.seq).length .returned) =
        s.terminal.snapshot em := by
  have hsubscribe : s.react em (.subscribe flow) =
      ({ s with
          made := s.made + 1
          calls := .emission s.made [.body s.terminal.seq, .ended, .register flow] :: s.calls },
        [.sink s.made s.terminal.snapshotStart]) := by
    show s.subscribe em flow = _
    rw [subscribe, if_neg (by rw [hlive]; exact Bool.false_ne_true)]
    rfl
  rw [sinks_cons, hsubscribe, Terminal.snapshot]
  cases hbody : s.terminal.snapshotBody em s.terminal.seq with
  | nil => simp [sunk, sinks, Machine.outputsFrom]
  | cons frame frames =>
    have hreturned : ({ s with
          made := s.made + 1
          calls := .emission s.made [.body s.terminal.seq, .ended, .register flow] :: s.calls } :
        Session σ).react em .returned =
        ({ s with
            made := s.made + 1
            calls := .emission s.made (frames.map .frame ++ [.ended, .register flow]) :: s.calls },
          [.sink s.made frame]) := by
      show Session.emit em { s with made := s.made + 1 } s.made [.body s.terminal.seq, .ended, .register flow] = _
      rw [emit, advance]
      simp only [hbody]
    rw [List.length_cons, List.replicate_succ, sinks_cons, hreturned,
      sinks_returned _ s.made frames [.ended, .register flow] s.calls rfl]
    simp [sunk]

lemma sinks_resume (s : Session σ) {number : ℕ} {sub : Subscriber}
    (hsub : s.subscriber number = some sub) (hpaused : sub.paused = true) (hmissed : sub.missed = true) :
    sinks em number s (.drain number ::
      List.replicate (s.terminal.snapshotBody em s.terminal.seq).length.succ .returned) =
        s.terminal.gap :: s.terminal.snapshot em := by
  let s₁ := s.onSubscriber number fun sub =>
    { sub with
      paused := false
      missed := false }
  have hdrain : s.react em (.drain number) =
      ({ s₁ with calls := .emission number [.snapshot, .settle] :: s.calls },
        [.sink number s.terminal.gap]) := by
    show s.resume em number = _
    rw [resume, hsub]
    dsimp only
    rw [if_neg (by rw [hpaused]; decide), if_neg (by rw [hmissed]; decide)]
    rfl
  have hstart : ({ s₁ with calls := .emission number [.snapshot, .settle] :: s.calls } :
      Session σ).react em .returned =
      ({ s₁ with calls := .emission number [.body s.terminal.seq, .settle] :: s.calls },
        [.sink number s.terminal.snapshotStart]) := rfl
  rw [sinks_cons, hdrain, List.replicate_succ, sinks_cons, hstart, Terminal.snapshot]
  cases hbody : s.terminal.snapshotBody em s.terminal.seq with
  | nil => simp [sunk, sinks, Machine.outputsFrom]
  | cons frame frames =>
    have hreturned : ({ s₁ with calls := .emission number [.body s.terminal.seq, .settle] :: s.calls } :
        Session σ).react em .returned =
        ({ s₁ with calls := .emission number (frames.map .frame ++ [.settle]) :: s.calls },
          [.sink number frame]) := by
      show Session.emit em s₁ number [.body s.terminal.seq, .settle] = _
      rw [emit, advance]
      have hsame : s₁.terminal.snapshotBody em s.terminal.seq = frame :: frames := hbody
      simp only [hsame]
      rfl
    rw [List.length_cons, List.replicate_succ, sinks_cons, hreturned,
      sinks_returned _ number frames [.settle] s.calls rfl]
    simp [sunk]

/-- The frames of a snapshot that a session sends: to a new subscriber, or behind a gap. -/
inductive Sends (em : Emulator σ) (s : Session σ) : List PtyFrame → Prop
  | subscribed (flow : Bool) (live : s.terminal.disposed = false) :
    Sends em s (sinks em s.made s (.subscribe flow ::
      List.replicate (s.terminal.snapshotBody em s.terminal.seq).length .returned))
  | resumed (number : ℕ) (sub : Subscriber) (member : s.subscriber number = some sub)
      (paused : sub.paused = true) (missed : sub.missed = true) :
    Sends em s (sinks em number s (.drain number ::
      List.replicate (s.terminal.snapshotBody em s.terminal.seq).length.succ .returned)).tail

lemma Sends.eq_snapshot {s : Session σ} {sent : List PtyFrame} (h : Sends em s sent) :
    sent = s.terminal.snapshot em := by
  cases h with
  | subscribed flow live => exact sinks_subscribe s live flow
  | resumed number sub member paused missed => rw [sinks_resume s member paused missed]; rfl

end Session

end Host

/-! ## The crossing -/

section Crossing

variable {σ : Type} {em : Emulator σ} {o : ControllerOptions} {ids : InsertionMap ℕ ℕ} {k : ℕ}

/-- The events of a stream are these frames, with other traffic in between. -/
structure Crosses (ids : InsertionMap ℕ ℕ) (k : ℕ) (sent : List PtyFrame) (es : List ControllerEvent) :
    Prop where
  traffic : es.all isTraffic = true
  frames : es.filter (fun e => (frameFor ids k e).isSome) =
    sent.map fun frame => .binary (encodePtyFrame frame)

lemma frameFor_encode {frame : PtyFrame}
    (h : (frameFor ids k (.binary (encodePtyFrame frame))).isSome = true) :
    frameFor ids k (.binary (encodePtyFrame frame)) = some frame.received := by
  obtain ⟨received, hreceived⟩ := Option.isSome_iff_exists.1 h
  have hdecode := hreceived
  rw [frameFor, decode_encodePtyFrame_received, Option.filter_eq_some_iff] at hdecode
  cases hdecode.1
  exact hreceived

lemma Crosses.received {sent : List PtyFrame} {es : List ControllerEvent}
    (h : Crosses ids k sent es) : es.filterMap (frameFor ids k) = sent.map PtyFrame.received := by
  have hsome : ∀ frame ∈ sent, (frameFor ids k (.binary (encodePtyFrame frame))).isSome = true := by
    intro frame hframe
    have hmem : ControllerEvent.binary (encodePtyFrame frame) ∈
        es.filter fun e => (frameFor ids k e).isSome := by
      rw [h.frames]
      exact List.mem_map_of_mem hframe
    exact (List.mem_filter.1 hmem).2
  have hfilter : es.filterMap (frameFor ids k) =
      (es.filter fun e => (frameFor ids k e).isSome).filterMap (frameFor ids k) := by
    rw [List.filterMap_filter]
    refine List.filterMap_congr fun e _ => ?_
    cases he : frameFor ids k e with
    | none => rfl
    | some frame => rfl
  rw [hfilter, h.frames, List.filterMap_map, ← List.filterMap_eq_map]
  exact List.filterMap_congr fun frame hframe => frameFor_encode (hsome frame hframe)

lemma payloads_snapshotChunks (t : Terminal σ) :
    ((snapshotChunks em t).map PtyFrame.received).map PtyFrame.payload =
      chunksOf snapshotChunkBytes (snapshotText em t) := by
  rw [snapshotChunks, List.map_map, List.map_map]
  exact List.map_id _

lemma chunkBytes_snapshotChunks (t : Terminal σ) :
    Controller.chunkBytes ((snapshotChunks em t).map PtyFrame.received) = (snapshotText em t).length := by
  have hbytes : Controller.chunkBytes ((snapshotChunks em t).map PtyFrame.received) =
      (((snapshotChunks em t).map PtyFrame.received).map PtyFrame.payload).flatten.length := by
    rw [Controller.chunkBytes, List.length_flatten]
    simp only [List.map_map]
    rfl
  rw [hbytes, payloads_snapshotChunks, flatten_chunksOf (by decide)]

lemma brings_snapshot {c : Controller} {snapshot : Option PendingSnapshot}
    (h : c.Reassembles ids k snapshot false) {t : Terminal σ} (hsize : t.size.Valid) :
    Controller.Brings o ids k c ((t.snapshot em).map PtyFrame.received)
      (if (snapshotText em t).length ≤ maxSnapshotBytes then
        [.snapshot (t.seq % 2 ^ 64) t.size (snapshotText em t)] else [])
      (!decide ((snapshotText em t).length ≤ maxSnapshotBytes)) := by
  have hdecode : decodeSizePayload t.snapshotStart.received.payload = some t.size :=
    decode_encodeSizePayload (by have := hsize.2.1; omega) (by have := hsize.2.2.2; omega)
  have hchunks : ∀ chunk ∈ (snapshotChunks em t).map PtyFrame.received,
      chunk.opcode = PtyOpcode.snapshotChunk := by
    intro chunk hchunk
    obtain ⟨frame, hframe, rfl⟩ := List.mem_map.1 hchunk
    obtain ⟨payload, -, rfl⟩ := List.mem_map.1 hframe
    rfl
  have hcount : Controller.chunkBytes ((snapshotChunks em t).map PtyFrame.received) ≤ maxSnapshotBytes →
      ((snapshotChunks em t).map PtyFrame.received).length ≤ maxSnapshotChunks := by
    rw [chunkBytes_snapshotChunks, snapshotChunks, List.length_map, List.length_map]
    intro hbytes
    have hlength := length_chunksOf_le (n := snapshotChunkBytes) (by decide) (snapshotText em t)
    rw [snapshotChunkBytes] at hlength
    rw [maxSnapshotBytes] at hbytes
    rw [snapshotChunkBytes, maxSnapshotChunks]
    omega
  have hfirst : t.snapshotStart.received.opcode = PtyOpcode.snapshotStart := rfl
  have hlast : (t.frameAt t.seq PtyOpcode.snapshotEnd []).received.opcode = PtyOpcode.snapshotEnd := rfl
  have hbrings := h.brings (o := o) hfirst hdecode hchunks hcount hlast
  rw [chunkBytes_snapshotChunks, payloads_snapshotChunks, flatten_chunksOf (by decide)] at hbrings
  rw [snapshot_eq, List.map_cons, List.map_append]
  exact hbrings

/-- The stream yields the snapshot, and goes on. -/
def SnapshotArrives (em : Emulator σ) (o : ControllerOptions) (ids : InsertionMap ℕ ℕ) (k : ℕ)
    (t : Terminal σ) (c : Controller) (es : List ControllerEvent) : Prop :=
  Controller.pushedFrom o k c es = [.snapshot (t.seq % 2 ^ 64) t.size (snapshotText em t)] ∧
    ((controllerMachine o).runFrom c es).Reassembles ids k none false

lemma snapshotArrives_iff {c : Controller} {snapshot : Option PendingSnapshot}
    (h : c.Reassembles ids k snapshot false) {t : Terminal σ} (hsize : t.size.Valid)
    {es : List ControllerEvent} (hes : Crosses ids k (t.snapshot em) es) :
    SnapshotArrives em o ids k t c es ↔ (snapshotText em t).length ≤ maxSnapshotBytes := by
  obtain ⟨hpushed, hdone⟩ := brings_snapshot h hsize es hes.traffic hes.received
  rw [SnapshotArrives, hpushed]
  by_cases hbytes : (snapshotText em t).length ≤ maxSnapshotBytes
  · rw [decide_eq_true hbytes] at hdone
    rw [if_pos hbytes]
    exact ⟨fun _ => hbytes, fun _ => ⟨rfl, hdone⟩⟩
  · rw [if_neg hbytes]
    exact ⟨fun harrives => absurd harrives.1 (List.cons_ne_nil _ _).symm, fun hle => absurd hle hbytes⟩

/-- A snapshot arrives exactly when its bytes are within the bound of the stream. -/
theorem snapshotCrosses {s : Session σ} (hsize : s.terminal.size.Valid) {sent : List PtyFrame}
    (hsent : s.Sends em sent) {c : Controller} {snapshot : Option PendingSnapshot}
    (hc : c.Reassembles ids k snapshot false) {es : List ControllerEvent}
    (hes : Crosses ids k sent es) :
    SnapshotArrives em o ids k s.terminal c es ↔
      (snapshotText em s.terminal).length ≤ maxSnapshotBytes := by
  rw [hsent.eq_snapshot] at hes
  exact snapshotArrives_iff hc hsize hes

end Crossing

/-! ## Two screens -/

/-- An emulator of screens that are full of printed cells, one behind the other: what is written is
what repaints them. -/
def printing : Emulator Bytes where
  blank _ := []
  write screen bytes := screen ++ bytes
  resize screen _ := screen
  serialize screen := screen.map fun b => UInt16.ofNat b.toNat

/-- A controller with a stream. -/
def subscribed : Controller := (controllerMachine streamingOptions).run subscribedOnce

lemma reassembles_subscribed : subscribed.Reassembles (.set .empty 0 0) 0 none false := by
  have hcalls : subscribed.calls = [] := rfl
  refine ⟨rfl, rfl, ⟨_, rfl, rfl, rfl, rfl⟩, fun event hevent => ?_⟩
  rw [hcalls] at hevent
  cases hevent

/-- A session of that size behind that output. -/
def printed (size : Size) (output : Bytes) : Session Bytes :=
  (sessionMachine printing 0 size).run [.terminal (.output output)]

/-- A snapshot of a session, frame by frame. -/
def sentFrames (s : Session Bytes) : List ControllerEvent :=
  (s.terminal.snapshot printing).map fun frame => .binary (encodePtyFrame frame)

lemma crosses_sentFrames (size : Size) (output : Bytes) :
    Crosses (.set .empty 0 0) 0 ((printed size output).terminal.snapshot printing)
      (sentFrames (printed size output)) := by
  have hstream : ∀ frame ∈ (printed size output).terminal.snapshot printing, frame.streamId = 0 := by
    intro frame hframe
    rw [snapshot_eq] at hframe
    rcases List.mem_cons.1 hframe with rfl | hframe
    · rfl
    rcases List.mem_append.1 hframe with hchunk | hlast
    · obtain ⟨payload, -, rfl⟩ := List.mem_map.1 hchunk
      rfl
    · rw [List.mem_singleton.1 hlast]
      rfl
  refine ⟨?_, ?_⟩
  · rw [sentFrames, List.all_map, List.all_eq_true]
    exact fun _ _ => rfl
  · rw [sentFrames, List.filter_eq_self]
    intro e he
    obtain ⟨frame, hframe, rfl⟩ := List.mem_map.1 he
    rw [frameFor, decode_encodePtyFrame_received, Option.isSome_filter]
    simp [PtyFrame.received, hstream frame hframe]

/-- The snapshot of a screen with two cells arrives. -/
theorem snapshotCrosses_hi :
    SnapshotArrives printing streamingOptions (.set .empty 0 0) 0
      (printed ⟨80, 24⟩ (ascii "hi")).terminal subscribed (sentFrames (printed ⟨80, 24⟩ (ascii "hi"))) :=
  (snapshotCrosses (by unfold Size.Valid; decide) (.subscribed true rfl) reassembles_subscribed
    (by rw [Session.sinks_subscribe _ rfl]; exact crosses_sentFrames _ _)).2 (by decide)

lemma length_le_snapshotText (size : Size) (output : Bytes) :
    output.length ≤ (snapshotText printing (printed size output).terminal).length := by
  have hlength : output.length = (printing.serialize output).length :=
    (List.length_map _).symm
  rw [hlength]
  exact length_le_utf8 _

/-- Cells of two colours, as often. -/
def colouredCells (n : ℕ) : Bytes :=
  (List.replicate n (ascii "\x1b[38;5;196mA\x1b[38;5;160mB")).flatten

lemma length_colouredCells (n : ℕ) : (colouredCells n).length = n * 24 := by
  rw [colouredCells, List.length_flatten, List.map_replicate, List.sum_replicate_nat]
  rfl

lemma not_snapshotArrives_coloured {n : ℕ} (hn : maxSnapshotBytes < n * 24) (size : Size)
    (hsize : size.Valid) :
    ¬ SnapshotArrives printing streamingOptions (.set .empty 0 0) 0
      (printed size (colouredCells n)).terminal subscribed
      (sentFrames (printed size (colouredCells n))) := by
  intro harrives
  have hbytes := (snapshotArrives_iff reassembles_subscribed (t := (printed size (colouredCells n)).terminal)
    hsize (crosses_sentFrames size (colouredCells n))).1 harrives
  have hlength := length_le_snapshotText size (colouredCells n)
  rw [length_colouredCells] at hlength
  omega

/-- A screen of a million coloured cells does not arrive. -/
theorem not_snapshotArrives_million :
    ¬ SnapshotArrives printing streamingOptions (.set .empty 0 0) 0
      (printed ⟨1000, 1000⟩ (colouredCells 500000)).terminal subscribed
      (sentFrames (printed ⟨1000, 1000⟩ (colouredCells 500000))) :=
  not_snapshotArrives_coloured (by decide) _ (by unfold Size.Valid; decide)

end Pherry
