import Pherry.Ios.StreamSink
import Pherry.Sdk.HostileFrames
import Pherry.Sdk.SnapshotReassembly

/-!
# One session on two screens

The event stream of the SDK and the sink of the phone on the same payloads. They gather snapshots in the
same way; they differ in what they make of a payload that is too short.
-/

namespace Pherry.Sdk

open Lib Protocol

/-- `ingest`, with what it pushes behind its listeners. -/
def PtyEventStream.handleFrame (s : PtyEventStream) (frame : PtyFrame) : PtyEventStream × List PtyEvent :=
  match s.ingest frame with
  | none => (s, [])
  | some (stream, _, none) => (stream, [])
  | some (stream, _, some event) =>
    if stream.ended then (stream, []) else ((stream.deliver event).1, [event])

/-- `#onBinary` for the payloads of one stream. -/
def PtyEventStream.handleBinary (s : PtyEventStream) (payload : Bytes) : PtyEventStream × List PtyEvent :=
  match decodePtyFrame payload with
  | none => (s, [])
  | some frame => s.handleFrame frame

/-- A stream as a machine. -/
def streamMachine : Machine PtyEventStream Bytes := ⟨.new, fun s payload => (s.handleBinary payload).1⟩

/-- The events a stream pushes over payloads. -/
def streamEvents (payloads : List Bytes) : List PtyEvent :=
  streamMachine.outputs (fun s payload => (s.handleBinary payload).2) payloads

/-- A chunk that comes to a snapshot leaves it within the caps. -/
def PtyEventStream.isCapped (s : PtyEventStream) (payload : Bytes) : Bool :=
  (decodePtyFrame payload).all fun frame =>
    frame.opcode ≠ PtyOpcode.snapshotChunk || s.ended || s.snapshot.all fun snap =>
      snap.bytes + frame.payload.length ≤ maxSnapshotBytes ∧ snap.chunks.length + 1 ≤ maxSnapshotChunks

end Pherry.Sdk

namespace Pherry.Ios

open Lib Protocol Sdk

/-! ## The decoders -/

lemma ofRawValue_rawValue (opcode : PtyOpcode) : PtyOpcode.ofRawValue opcode.rawValue = some opcode := by
  cases opcode <;> rfl

lemma ofRawValue_eq_some {byte : UInt8} {opcode : PtyOpcode}
    (h : PtyOpcode.ofRawValue byte = some opcode) : byte = opcode.rawValue :=
  (of_decide_eq_true (List.find?_some h :)).symm

/-- The phone reads the frames the SDK reads, but for those whose opcode it does not know. -/
lemma decode_eq (bytes : Bytes) : PtyFrame.decode bytes =
    (decodePtyFrame bytes).bind fun frame => (PtyOpcode.ofRawValue frame.opcode).map fun opcode =>
      { opcode
        streamId := frame.streamId
        seq := frame.seq
        payload := frame.payload } := by
  unfold PtyFrame.decode
  split
  · next kind version opcode r i0 i1 i2 i3 l0 l1 l2 l3 h0 h1 h2 h3 payload =>
    rw [decodePtyFrame]
    by_cases hkind : kind = ptyFrameKind
    · by_cases hversion : version = ptyFrameVersion
      · rw [if_pos ⟨hkind, hversion⟩, if_neg (not_not_intro hkind), if_neg (not_not_intro hversion)]
        exact Option.map_eq_bind.symm
      · rw [if_neg fun h => hversion h.2, if_neg (not_not_intro hkind), if_pos hversion]
        rfl
    · rw [if_neg fun h => hkind h.1, if_pos hkind]
      rfl
  · next hshort =>
    have hnone : decodePtyFrame bytes = none := by
      unfold decodePtyFrame
      split
      · next kind version opcode r i0 i1 i2 i3 l0 l1 l2 l3 h0 h1 h2 h3 payload =>
        exact absurd rfl (hshort kind version opcode r i0 i1 i2 i3 l0 l1 l2 l3 h0 h1 h2 h3 payload)
      · rfl
    rw [hnone]
    rfl

lemma decodeSize_eq (bytes : Bytes) : PtyPayload.decodeSize bytes =
    ((decodeSizePayload bytes).map fun size => (size.cols, size.rows)).getD (0, 0) := by
  match bytes with
  | [] => rfl
  | [_] => rfl
  | [_, _] => rfl
  | [_, _, _] => rfl
  | c0 :: c1 :: r0 :: r1 :: rest => rfl

lemma decodeExit_eq (bytes : Bytes) :
    PtyPayload.decodeExit bytes = (decodeExitPayload bytes).getD none := by
  match bytes with
  | [] => rfl
  | [_] => rfl
  | [_, _] => rfl
  | [_, _, _] => rfl
  | b0 :: b1 :: b2 :: b3 :: rest => rfl

/-! ## What they have gathered -/

/-- An event of the SDK without its number, and a snapshot without its size. -/
def forget : Sdk.PtyEvent → PtyEvent
  | .snapshot _ _ data => .snapshot data
  | .output _ data => .output data
  | .resize _ size => .resized size.cols size.rows
  | .ended _ code => .ended code
  | .gap _ => .gap

/-- What is gathered of a snapshot: nothing yet, an empty one, one with bytes, or on the two sides not
the same; or the stream is over. -/
inductive Gathering
  | idle
  | empty
  | filled
  | apart
  | finished
deriving DecidableEq, Repr

/-- What a frame does to it. The two sides differ behind a start that is too short and stay so up to the
next start; they show it at the end of that snapshot, or at once where another payload is too short. -/
def Gathering.next (g : Gathering) (opcode : PtyOpcode) (payload : Bytes) : Option Gathering :=
  if g = .finished then some .finished
  else
    match opcode with
    | .snapshotStart => some (if 4 ≤ payload.length ∨ g = .empty then .empty else .apart)
    | .snapshotChunk => some (if g = .empty ∧ payload ≠ [] then .filled else g)
    | .snapshotEnd => if g = .apart then none else some .idle
    | .resized => if 4 ≤ payload.length then some g else none
    | .ended => if payload = [] ∨ 4 ≤ payload.length then some .finished else none
    | .output => some g
    | .gap => some g

/-- What a payload does to it. -/
def Gathering.nextPayload (g : Gathering) (payload : Bytes) : Option Gathering :=
  match PtyFrame.decode payload with
  | none => some g
  | some frame => g.next frame.opcode frame.payload

/-- What payloads bring it to, as long as the two sides show the same. -/
def gather (payloads : List Bytes) : Option Gathering := payloads.foldlM Gathering.nextPayload .idle

/-- At every payload the two sides have had the same events, and both are over or neither is. -/
def SameSession (payloads : List Bytes) : Prop :=
  ∀ pre, pre <+: payloads → (streamEvents pre).map forget = sinkEvents pre ∧
    (streamMachine.run pre).ended = (sinkMachine.run pre).finished

/-- What the two sides hold of a snapshot. -/
def Gathering.Shows (g : Gathering) (snapshot : Option PendingSnapshot) (sink : StreamSink) : Prop :=
  match g with
  | .idle => snapshot = none ∧ sink.inSnapshot = false
  | .empty => ∃ snap, snapshot = some snap ∧ sink.inSnapshot = true ∧ snap.chunks.flatten = [] ∧
      sink.snapshotChunks.flatten = []
  | .filled => ∃ snap, snapshot = some snap ∧ sink.inSnapshot = true ∧
      snap.chunks.flatten = sink.snapshotChunks.flatten ∧ snap.chunks.flatten ≠ []
  | .apart => sink.inSnapshot = true ∧ ∀ snap, snapshot = some snap →
      ∃ more, more ≠ [] ∧ snap.chunks.flatten = more ++ sink.snapshotChunks.flatten
  | .finished => True

/-- The two sides as far as they show the same. -/
structure Matches (g : Gathering) (stream : PtyEventStream) (sink : StreamSink) : Prop where
  ended : stream.ended = sink.finished
  finished : g = .finished ↔ stream.ended = true
  shows : g.Shows stream.snapshot sink

/-! ## One frame -/

lemma ingest_eq (s : PtyEventStream) {frame : Protocol.PtyFrame} {opcode : PtyOpcode}
    (h : frame.opcode = opcode.rawValue) : s.ingest frame =
      match opcode with
      | .snapshotStart => (decodeSizePayload frame.payload).map fun size =>
          ({ s with snapshot := some ⟨frame.seq, size, [], 0⟩ }, [], none)
      | .snapshotChunk => some ((s.pushChunk frame.payload).1, (s.pushChunk frame.payload).2, none)
      | .snapshotEnd => some ({ s with snapshot := none }, [],
          s.snapshot.map fun snap => .snapshot snap.seq snap.size snap.chunks.flatten)
      | .resized => (decodeSizePayload frame.payload).map fun size =>
          (s, [], some (.resize frame.seq size))
      | .ended => (decodeExitPayload frame.payload).map fun code => (s, [], some (.ended frame.seq code))
      | .output => some (s, [], some (.output frame.seq frame.payload))
      | .gap => some (s, [], some (.gap frame.seq)) := by
  obtain ⟨byte, streamId, seq, payload⟩ := frame
  dsimp only at h
  subst h
  cases opcode with
  | snapshotStart => exact Option.map_eq_bind.symm
  | resized => exact Option.map_eq_bind.symm
  | ended => exact Option.map_eq_bind.symm
  | _ => rfl

lemma ingest_unknown (s : PtyEventStream) {frame : Protocol.PtyFrame}
    (h : PtyOpcode.ofRawValue frame.opcode = none) : s.ingest frame = some (s, [], none) := by
  have hnot : ∀ opcode : PtyOpcode, frame.opcode ≠ opcode.rawValue := by
    intro opcode heq
    rw [heq, ofRawValue_rawValue] at h
    cases h
  obtain ⟨byte, streamId, seq, payload⟩ := frame
  have hother : ∀ opcode : PtyOpcode, ¬ byte = opcode.rawValue := hnot
  show PtyEventStream.ingest s ⟨byte, streamId, seq, payload⟩ = _
  unfold PtyEventStream.ingest
  rw [if_neg (show ¬ byte = Protocol.PtyOpcode.snapshotStart from hother .snapshotStart),
    if_neg (show ¬ byte = Protocol.PtyOpcode.snapshotChunk from hother .snapshotChunk),
    if_neg (show ¬ byte = Protocol.PtyOpcode.snapshotEnd from hother .snapshotEnd),
    if_neg (show ¬ byte = Protocol.PtyOpcode.output from hother .output),
    if_neg (show ¬ byte = Protocol.PtyOpcode.resized from hother .resized),
    if_neg (show ¬ byte = Protocol.PtyOpcode.ended from hother .ended),
    if_neg (show ¬ byte = Protocol.PtyOpcode.gap from hother .gap)]
  rfl

lemma deliver_keeps (s : PtyEventStream) (event : Sdk.PtyEvent) :
    (s.deliver event).1.snapshot = s.snapshot ∧
      (s.deliver event).1.ended = (s.ended || event.isEnded) := by
  have hpush : ∀ t : PtyEventStream, t.finish.1.snapshot = t.snapshot ∧ t.finish.1.ended = true := by
    intro t
    unfold PtyEventStream.finish
    split
    · next hended => exact ⟨rfl, hended⟩
    · exact ⟨rfl, rfl⟩
  unfold PtyEventStream.deliver
  cases event with
  | ended seq code =>
    cases s.pullers with
    | nil => exact ⟨(hpush _).1, (hpush _).2.trans (Bool.or_true _).symm⟩
    | cons read pullers => exact ⟨(hpush _).1, (hpush _).2.trans (Bool.or_true _).symm⟩
  | snapshot seq size data => cases s.pullers <;> exact ⟨rfl, (Bool.or_false _).symm⟩
  | output seq data => cases s.pullers <;> exact ⟨rfl, (Bool.or_false _).symm⟩
  | resize seq size => cases s.pullers <;> exact ⟨rfl, (Bool.or_false _).symm⟩
  | gap seq => cases s.pullers <;> exact ⟨rfl, (Bool.or_false _).symm⟩

variable {g : Gathering} {stream : PtyEventStream} {sink : StreamSink}

lemma Matches.pushed (h : Matches g stream sink) (event : Sdk.PtyEvent) (hg : g ≠ .finished)
    {g' : Gathering} {stream' : PtyEventStream} {sink' : StreamSink} (hstream : stream'.ended = stream.ended)
    (hover : g' = .finished ↔ event.isEnded = true) (hfinished : sink'.finished = event.isEnded)
    (hshows : g'.Shows stream'.snapshot sink') :
    Matches g' (if stream'.ended then (stream', []) else ((stream'.deliver event).1, [event])).1 sink' ∧
      (if stream'.ended then (stream', []) else ((stream'.deliver event).1, [event])).2.map forget =
        sink.yield (forget event) := by
  have hopen : stream.ended = false := Bool.eq_false_iff.2 (h.finished.not.1 hg)
  have hfalse : ¬ stream'.ended = true := by
    rw [hstream, hopen]
    exact Bool.false_ne_true
  obtain ⟨hsnapshot, hended⟩ := deliver_keeps stream' event
  rw [if_neg hfalse, StreamSink.yield, ← h.ended, hopen]
  refine ⟨⟨?_, ?_, ?_⟩, rfl⟩
  · rw [hended, hstream, hopen, hfinished]
    rfl
  · rw [hended, hstream, hopen]
    exact hover
  · rw [hsnapshot]
    exact hshows

lemma Matches.behind (h : Matches .finished stream sink) (payload : Bytes) :
    Matches .finished (stream.handleBinary payload).1 (sink.handleBinary payload).1 ∧
      (stream.handleBinary payload).2 = [] ∧ (sink.handleBinary payload).2 = [] := by
  have hended : stream.ended = true := h.finished.1 rfl
  have hfinished : sink.finished = true := h.ended.symm.trans hended
  have hstream : (stream.handleBinary payload).1.ended = true ∧ (stream.handleBinary payload).2 = [] := by
    unfold PtyEventStream.handleBinary
    split
    · exact ⟨hended, rfl⟩
    unfold PtyEventStream.handleFrame
    split
    · exact ⟨hended, rfl⟩
    · next hingest => exact ⟨PtyEventStream.ended_ingest hended hingest, rfl⟩
    · next hingest =>
      have hstill := PtyEventStream.ended_ingest hended hingest
      rw [if_pos hstill]
      exact ⟨hstill, rfl⟩
  have hyield : ∀ event, sink.yield event = [] := fun event => if_pos hfinished
  have hsink : (sink.handleBinary payload).1.finished = true ∧ (sink.handleBinary payload).2 = [] := by
    unfold StreamSink.handleBinary
    split
    · exact ⟨hfinished, rfl⟩
    unfold StreamSink.ingest
    split
    · exact ⟨hfinished, rfl⟩
    · split <;> exact ⟨hfinished, rfl⟩
    · split
      · exact ⟨hfinished, hyield _⟩
      · exact ⟨hfinished, rfl⟩
    · exact ⟨hfinished, hyield _⟩
    · exact ⟨hfinished, hyield _⟩
    · exact ⟨rfl, hyield _⟩
    · exact ⟨hfinished, hyield _⟩
  refine ⟨⟨hstream.1.trans hsink.1.symm, ?_, trivial⟩, hstream.2, hsink.2⟩
  rw [hstream.1]
  exact ⟨fun _ => rfl, fun _ => rfl⟩

lemma pushChunk_of_capped {s : PtyEventStream} {snap : PendingSnapshot} {payload : Bytes}
    (hsnap : s.snapshot = some snap) (hbytes : snap.bytes + payload.length ≤ maxSnapshotBytes)
    (hcount : snap.chunks.length + 1 ≤ maxSnapshotChunks) :
    s.pushChunk payload =
      ({ s with snapshot := some { snap with
          chunks := snap.chunks ++ [payload]
          bytes := snap.bytes + payload.length } }, []) := by
  rw [PtyEventStream.pushChunk, hsnap]
  dsimp only
  rw [if_neg]
  rw [List.length_append, List.length_singleton]
  omega

lemma Matches.chunk (h : Matches g stream sink) (hg : g ≠ .finished) {payload : Bytes}
    (hcapped : ∀ snap, stream.snapshot = some snap → snap.bytes + payload.length ≤ maxSnapshotBytes ∧
      snap.chunks.length + 1 ≤ maxSnapshotChunks) :
    Matches (if g = .empty ∧ payload ≠ [] then .filled else g) (stream.pushChunk payload).1
      (if sink.inSnapshot then { sink with snapshotChunks := sink.snapshotChunks ++ [payload] } else sink) := by
  have hshows := h.shows
  cases hsnap : stream.snapshot with
  | none =>
    have hpush : stream.pushChunk payload = (stream, []) := by rw [PtyEventStream.pushChunk, hsnap]
    rw [hpush]
    cases g with
    | idle =>
      rw [if_neg (by simp), if_neg (by rw [hshows.2]; exact Bool.false_ne_true)]
      exact h
    | apart =>
      rw [if_neg (by simp), if_pos hshows.1]
      refine ⟨h.ended, h.finished, hshows.1, fun snap heq => ?_⟩
      rw [hsnap] at heq
      cases heq
    | empty =>
      obtain ⟨snap, heq, -⟩ := hshows
      rw [hsnap] at heq
      cases heq
    | filled =>
      obtain ⟨snap, heq, -⟩ := hshows
      rw [hsnap] at heq
      cases heq
    | finished => exact absurd rfl hg
  | some snap =>
    obtain ⟨hbytes, hcount⟩ := hcapped snap hsnap
    rw [pushChunk_of_capped hsnap hbytes hcount]
    cases g with
    | idle =>
      rw [hsnap] at hshows
      cases hshows.1
    | apart =>
      obtain ⟨hin, hmore⟩ := hshows
      obtain ⟨more, hne, heq⟩ := hmore snap hsnap
      rw [if_neg (by simp), if_pos hin]
      refine ⟨h.ended, h.finished, hin, fun snap' hsnap' => ⟨more, hne, ?_⟩⟩
      cases hsnap'
      rw [List.flatten_append, List.flatten_append, heq, List.append_assoc]
    | empty =>
      obtain ⟨snap', heq, hin, hstream, hsink⟩ := hshows
      rw [hsnap] at heq
      cases heq
      rw [if_pos hin]
      by_cases hpayload : payload = []
      · rw [if_neg (by simp [hpayload])]
        exact ⟨h.ended, h.finished, _, rfl, hin, by simp [hstream, hpayload], by simp [hsink, hpayload]⟩
      · rw [if_pos ⟨rfl, hpayload⟩]
        refine ⟨h.ended, ?_, _, rfl, hin, by simp [hstream, hsink], by simp [hpayload]⟩
        exact (iff_of_false (by simp) (h.finished.not.1 hg))
    | filled =>
      obtain ⟨snap', heq, hin, hsame, hne⟩ := hshows
      rw [hsnap] at heq
      cases heq
      rw [if_neg (by simp), if_pos hin]
      exact ⟨h.ended, h.finished, _, rfl, hin, by simp [hsame], by simp [List.append_eq_nil_iff, hne]⟩
    | finished => exact absurd rfl hg

/-- **One frame.** The two sides show the same and go on showing the same, or they show what differs. -/
theorem Matches.handleFrame (h : Matches g stream sink) (hg : g ≠ .finished) {frame : Protocol.PtyFrame}
    {opcode : PtyOpcode} (hopcode : frame.opcode = opcode.rawValue)
    (hcapped : opcode = .snapshotChunk → ∀ snap, stream.snapshot = some snap →
      snap.bytes + frame.payload.length ≤ maxSnapshotBytes ∧ snap.chunks.length + 1 ≤ maxSnapshotChunks)
    (streamId seq : ℕ) :
    (∀ g', g.next opcode frame.payload = some g' →
      Matches g' (stream.handleFrame frame).1 (sink.ingest ⟨opcode, streamId, seq, frame.payload⟩).1 ∧
        (stream.handleFrame frame).2.map forget =
          (sink.ingest ⟨opcode, streamId, seq, frame.payload⟩).2) ∧
    (g.next opcode frame.payload = none →
      (stream.handleFrame frame).2.map forget ≠
        (sink.ingest ⟨opcode, streamId, seq, frame.payload⟩).2) := by
  have hopen : stream.ended = false := Bool.eq_false_iff.2 (h.finished.not.1 hg)
  have hunfinished : sink.finished = false := h.ended.symm.trans hopen
  have hyield : ∀ event, sink.yield event = [event] := fun event => if_neg (by rw [hunfinished]; exact Bool.false_ne_true)
  have hstill : ∀ {g' : Gathering}, g' ≠ .finished → (g' = .finished ↔ stream.ended = true) :=
    fun hg' => iff_of_false hg' (h.finished.not.1 hg)
  have hingest := ingest_eq stream hopcode
  unfold Gathering.next PtyEventStream.handleFrame StreamSink.ingest
  rw [if_neg hg, hingest]
  cases opcode with
  | output =>
    refine ⟨fun g' hg' => ?_, fun hnone => by cases hnone⟩
    cases hg'
    exact h.pushed (.output frame.seq frame.payload) hg rfl (iff_of_false hg Bool.false_ne_true)
      hunfinished h.shows
  | gap =>
    refine ⟨fun g' hg' => ?_, fun hnone => by cases hnone⟩
    cases hg'
    exact h.pushed (.gap frame.seq) hg rfl (iff_of_false hg Bool.false_ne_true) hunfinished h.shows
  | resized =>
    have hsize := decodeSize_eq frame.payload
    have hnone := isNone_decodeSizePayload frame.payload
    dsimp only
    cases hdecode : decodeSizePayload frame.payload with
    | none =>
      rw [hdecode] at hnone
      have hshort : ¬ 4 ≤ frame.payload.length := by simpa using hnone
      rw [if_neg hshort]
      refine ⟨fun g' hg' => (by cases hg'), fun _ => ?_⟩
      rw [hyield]
      simp
    | some size =>
      rw [hdecode] at hnone hsize
      have hlong : 4 ≤ frame.payload.length := by simpa using hnone
      rw [if_pos hlong, hsize]
      refine ⟨fun g' hg' => ?_, fun hnone => by cases hnone⟩
      cases hg'
      exact h.pushed (.resize frame.seq size) hg rfl (iff_of_false hg Bool.false_ne_true) hunfinished
        h.shows
  | ended =>
    have hcode := decodeExit_eq frame.payload
    have hnone := isNone_decodeExitPayload frame.payload
    dsimp only
    cases hdecode : decodeExitPayload frame.payload with
    | none =>
      rw [hdecode] at hnone
      have hshort : ¬ (frame.payload = [] ∨ 4 ≤ frame.payload.length) := by simpa using hnone
      rw [if_neg hshort]
      refine ⟨fun g' hg' => (by cases hg'), fun _ => ?_⟩
      rw [hyield]
      simp
    | some code =>
      rw [hdecode] at hnone hcode
      have hlong : frame.payload = [] ∨ 4 ≤ frame.payload.length := by
        simpa [or_iff_not_imp_left] using hnone
      rw [if_pos hlong, hcode]
      refine ⟨fun g' hg' => ?_, fun hnone => by cases hnone⟩
      cases hg'
      exact h.pushed (.ended frame.seq code) hg rfl
        (iff_of_true rfl rfl) rfl trivial
  | snapshotStart =>
    have hnone := isNone_decodeSizePayload frame.payload
    refine ⟨fun g' hg' => ?_, fun hnone => by cases hnone⟩
    dsimp only
    cases hdecode : decodeSizePayload frame.payload with
    | some size =>
      rw [hdecode] at hnone
      have hlong : 4 ≤ frame.payload.length := by simpa using hnone
      rw [if_pos (Or.inl hlong)] at hg'
      cases hg'
      exact ⟨⟨h.ended, hstill (by simp), _, rfl, rfl, rfl, rfl⟩, rfl⟩
    | none =>
      rw [hdecode] at hnone
      have hshort : ¬ 4 ≤ frame.payload.length := by simpa using hnone
      have hshows := h.shows
      cases g with
      | empty =>
        rw [if_pos (Or.inr rfl)] at hg'
        cases hg'
        obtain ⟨snap, hsnap, -, hempty, -⟩ := hshows
        exact ⟨⟨h.ended, h.finished, snap, hsnap, rfl, hempty, rfl⟩, rfl⟩
      | idle =>
        rw [if_neg (by simp [hshort])] at hg'
        cases hg'
        refine ⟨⟨h.ended, hstill (by simp), rfl, fun snap hsnap => ?_⟩, rfl⟩
        have hsome : stream.snapshot = some snap := hsnap
        rw [hshows.1] at hsome
        cases hsome
      | filled =>
        rw [if_neg (by simp [hshort])] at hg'
        cases hg'
        obtain ⟨snap, hsnap, -, -, hfilled⟩ := hshows
        refine ⟨⟨h.ended, hstill (by simp), rfl, fun snap' hsnap' => ⟨_, hfilled, ?_⟩⟩, rfl⟩
        rw [show stream.snapshot = some snap' from hsnap'] at hsnap
        cases hsnap
        exact (List.append_nil _).symm
      | apart =>
        rw [if_neg (by simp [hshort])] at hg'
        cases hg'
        refine ⟨⟨h.ended, h.finished, rfl, fun snap hsnap => ?_⟩, rfl⟩
        obtain ⟨more, hmore, heq⟩ := hshows.2 snap hsnap
        refine ⟨more ++ sink.snapshotChunks.flatten, by simp [hmore], ?_⟩
        rw [heq]
        exact (List.append_nil _).symm
      | finished => exact absurd rfl hg
  | snapshotChunk =>
    refine ⟨fun g' hg' => ?_, fun hnone => by cases hnone⟩
    cases hg'
    exact ⟨h.chunk hg (hcapped rfl), rfl⟩
  | snapshotEnd =>
    have hshows := h.shows
    dsimp only
    cases hsnap : stream.snapshot with
    | none =>
      cases g with
      | idle =>
        rw [if_neg (by simp), if_neg (by rw [hshows.2]; exact Bool.false_ne_true)]
        refine ⟨fun g' hg' => ?_, fun hnone => by cases hnone⟩
        cases hg'
        exact ⟨⟨h.ended, hstill (by simp), rfl, rfl⟩, rfl⟩
      | apart =>
        rw [if_pos rfl, if_pos hshows.1, hyield]
        exact ⟨fun g' hg' => (by cases hg'), fun _ => by simp⟩
      | empty =>
        obtain ⟨snap, heq, -⟩ := hshows
        rw [hsnap] at heq
        cases heq
      | filled =>
        obtain ⟨snap, heq, -⟩ := hshows
        rw [hsnap] at heq
        cases heq
      | finished => exact absurd rfl hg
    | some snap =>
      cases g with
      | idle =>
        rw [hsnap] at hshows
        cases hshows.1
      | apart =>
        obtain ⟨more, hmore, heq⟩ := hshows.2 snap hsnap
        rw [if_pos rfl, if_pos hshows.1, hyield]
        refine ⟨fun g' hg' => (by cases hg'), fun _ hevents => hmore ?_⟩
        have hfalse : ¬ stream.ended = true := by rw [hopen]; exact Bool.false_ne_true
        rw [Option.map_some] at hevents
        dsimp only at hevents
        rw [if_neg hfalse, List.map_singleton, forget, heq] at hevents
        simpa using hevents
      | empty =>
        obtain ⟨snap', heq, hin, hstream, hsink⟩ := hshows
        rw [hsnap] at heq
        cases heq
        rw [if_neg (by simp), if_pos hin]
        refine ⟨fun g' hg' => ?_, fun hnone => by cases hnone⟩
        cases hg'
        rw [hsink, ← hstream]
        exact h.pushed (.snapshot snap.seq snap.size snap.chunks.flatten) hg rfl
          (iff_of_false (by simp) Bool.false_ne_true) hunfinished ⟨rfl, rfl⟩
      | filled =>
        obtain ⟨snap', heq, hin, hsame, -⟩ := hshows
        rw [hsnap] at heq
        cases heq
        rw [if_neg (by simp), if_pos hin]
        refine ⟨fun g' hg' => ?_, fun hnone => by cases hnone⟩
        cases hg'
        rw [← hsame]
        exact h.pushed (.snapshot snap.seq snap.size snap.chunks.flatten) hg rfl
          (iff_of_false (by simp) Bool.false_ne_true) hunfinished ⟨rfl, rfl⟩
      | finished => exact absurd rfl hg

lemma Matches.handleBinary (h : Matches g stream sink) {payload : Bytes}
    (hcapped : stream.isCapped payload = true) :
    (∀ g', g.nextPayload payload = some g' →
      Matches g' (stream.handleBinary payload).1 (sink.handleBinary payload).1 ∧
        (stream.handleBinary payload).2.map forget = (sink.handleBinary payload).2) ∧
    (g.nextPayload payload = none →
      (stream.handleBinary payload).2.map forget ≠ (sink.handleBinary payload).2) := by
  by_cases hg : g = .finished
  · subst hg
    obtain ⟨hmatches, hstream, hsink⟩ := h.behind payload
    have hnext : Gathering.finished.nextPayload payload = some .finished := by
      unfold Gathering.nextPayload
      split
      · rfl
      · unfold Gathering.next
        exact if_pos rfl
    rw [hnext, hstream, hsink]
    refine ⟨fun g' hg' => ?_, fun hnone => by cases hnone⟩
    cases hg'
    exact ⟨hmatches, rfl⟩
  have hdecode := decode_eq payload
  cases hframe : decodePtyFrame payload with
  | none =>
    rw [hframe, Option.bind_none] at hdecode
    rw [Gathering.nextPayload, hdecode, PtyEventStream.handleBinary, hframe, StreamSink.handleBinary, hdecode]
    refine ⟨fun g' hg' => ?_, fun hnone => by cases hnone⟩
    cases hg'
    exact ⟨h, rfl⟩
  | some frame =>
    rw [hframe, Option.bind_some] at hdecode
    cases hopcode : PtyOpcode.ofRawValue frame.opcode with
    | none =>
      -- an opcode that the phone does not know is one that the SDK ignores
      rw [hopcode, Option.map_none] at hdecode
      rw [Gathering.nextPayload, hdecode, PtyEventStream.handleBinary, hframe, StreamSink.handleBinary, hdecode]
      dsimp only
      rw [PtyEventStream.handleFrame, ingest_unknown stream hopcode]
      refine ⟨fun g' hg' => ?_, fun hnone => by cases hnone⟩
      cases hg'
      exact ⟨h, rfl⟩
    | some opcode =>
      have hbyte := ofRawValue_eq_some hopcode
      rw [hopcode, Option.map_some] at hdecode
      rw [Gathering.nextPayload, hdecode, PtyEventStream.handleBinary, hframe, StreamSink.handleBinary, hdecode]
      refine h.handleFrame hg hbyte (fun hchunk snap hsnap => ?_) frame.streamId frame.seq
      have hopen : stream.ended = false := Bool.eq_false_iff.2 (h.finished.not.1 hg)
      rw [PtyEventStream.isCapped, hframe, Option.all_some, hbyte, hchunk, hopen, hsnap] at hcapped
      simpa [PtyOpcode.rawValue, Protocol.PtyOpcode.snapshotChunk] using hcapped

/-! ## Runs -/

lemma matches_new : Matches .idle .new .new :=
  ⟨rfl, iff_of_false (by simp) Bool.false_ne_true, rfl, rfl⟩

lemma streamEvents_snoc (payloads : List Bytes) (payload : Bytes) :
    streamEvents (payloads ++ [payload]) =
      streamEvents payloads ++ ((streamMachine.run payloads).handleBinary payload).2 :=
  Machine.outputs_snoc _ _ payloads payload

lemma sinkEvents_snoc (payloads : List Bytes) (payload : Bytes) :
    sinkEvents (payloads ++ [payload]) =
      sinkEvents payloads ++ ((sinkMachine.run payloads).handleBinary payload).2 :=
  Machine.outputs_snoc _ _ payloads payload

lemma gather_snoc (payloads : List Bytes) (payload : Bytes) :
    gather (payloads ++ [payload]) = (gather payloads).bind fun g => g.nextPayload payload := by
  rw [gather, List.foldlM_append]
  show (gather payloads).bind (fun g => (g.nextPayload payload).bind some) = _
  cases gather payloads with
  | none => rfl
  | some g =>
    rw [Option.bind_some, Option.bind_some]
    exact Option.bind_fun_some _

lemma matches_run {payloads : List Bytes}
    (hcapped : streamMachine.Meets (fun s payload => s.isCapped payload = true) payloads) {g : Gathering}
    (hg : gather payloads = some g) :
    Matches g (streamMachine.run payloads) (sinkMachine.run payloads) ∧
      (streamEvents payloads).map forget = sinkEvents payloads := by
  induction payloads using List.reverseRecOn generalizing g with
  | nil =>
    cases hg
    exact ⟨matches_new, rfl⟩
  | append_singleton payloads payload ih =>
    obtain ⟨hpre, hcap⟩ := (Machine.meets_snoc _).1 hcapped
    rw [gather_snoc] at hg
    obtain ⟨before, hbefore, hnext⟩ := Option.bind_eq_some_iff.1 hg
    obtain ⟨hmatches, hevents⟩ := ih hpre hbefore
    obtain ⟨hstep, hsame⟩ := (hmatches.handleBinary hcap).1 g hnext
    rw [Machine.run_snoc, Machine.run_snoc, streamEvents_snoc, sinkEvents_snoc, List.map_append, hevents, hsame]
    exact ⟨hstep, rfl⟩

/-- **The SDK and the phone see the same session**, within the caps, exactly as long as no size and no
exit code is too short before the end, and no snapshot whose start was too short is shown. -/
theorem sameSession_iff (payloads : List Bytes)
    (hcapped : streamMachine.Meets (fun s payload => s.isCapped payload = true) payloads) :
    SameSession payloads ↔ (gather payloads).isSome = true := by
  constructor
  · intro hsame
    induction payloads using List.reverseRecOn with
    | nil => rfl
    | append_singleton payloads payload ih =>
      obtain ⟨hpre, hcap⟩ := (Machine.meets_snoc _).1 hcapped
      have hbefore := ih hpre fun pre hle => hsame pre (hle.trans (List.prefix_append _ _))
      obtain ⟨g, hg⟩ := Option.isSome_iff_exists.1 hbefore
      obtain ⟨hmatches, hevents⟩ := matches_run hpre hg
      rw [gather_snoc, hg, Option.bind_some]
      cases hnext : g.nextPayload payload with
      | some g' => rfl
      | none =>
        -- what the payload shows on the two sides is not the same
        have hall := (hsame _ (List.prefix_refl _)).1
        rw [streamEvents_snoc, sinkEvents_snoc, List.map_append, hevents] at hall
        exact absurd (List.append_cancel_left hall) ((hmatches.handleBinary hcap).2 hnext)
  · rintro hgathers pre ⟨post, rfl⟩
    have hsome : ∃ g, gather pre = some g := by
      rw [gather, List.foldlM_append] at hgathers
      cases hfold : pre.foldlM Gathering.nextPayload .idle with
      | none =>
        rw [hfold] at hgathers
        cases hgathers
      | some g => exact ⟨g, hfold⟩
    obtain ⟨g, hg⟩ := hsome
    have hpre : streamMachine.Meets (fun s payload => s.isCapped payload = true) pre :=
      Machine.Meets.prefix _ hcapped
    obtain ⟨hmatches, hevents⟩ := matches_run hpre hg
    exact ⟨hevents, hmatches.ended⟩

/-- A frame of a stream. -/
def frameOf (opcode : UInt8) (payload : Bytes) : Bytes :=
  encodePtyFrame
    { opcode
      streamId := 7
      seq := 1
      payload }

/-- A snapshot whose start is too short, behind one that has begun and holds no bytes, is the same. -/
theorem sameSession_restarted : SameSession
    [frameOf 2 [80, 0, 24, 0], frameOf 3 [], frameOf 2 [80], frameOf 3 [104, 105], frameOf 4 [], frameOf 9 [],
      frameOf 5 [100, 0, 30, 0], frameOf 1 [33], frameOf 6 [], frameOf 5 []] :=
  (sameSession_iff _ (Machine.meets_of_checks _ (by decide))).2 (by decide)

/-- A resize without a size: the SDK's codec throws, and the phone shows no columns and no rows. -/
theorem not_sameSession_shortResize :
    ¬ ∀ payloads, streamMachine.Meets (fun s payload => s.isCapped payload = true) payloads →
      SameSession payloads := by
  intro h
  have hsame := (h [frameOf 5 []] (Machine.meets_of_checks _ (by decide)) _ (List.prefix_refl _)).1
  have hdiffers : (streamEvents [frameOf 5 []]).map forget ≠ sinkEvents [frameOf 5 []] := by decide
  exact hdiffers hsame

end Pherry.Ios
