import Pherry.Sdk.StreamSteps

/-!
# The reassembly of a snapshot

What a stream makes of the frames of a snapshot, with frames of other streams and reads in between.
-/

namespace Pherry.Sdk

open Lib Protocol

/-- The events a stream's listeners are called with. -/
def eventsOf (k : ℕ) (effects : List ControllerEffect) : List PtyEvent :=
  effects.filterMap fun
    | .listeners j event => if j = k then some event else none
    | _ => none

lemma eventsOf_append (k : ℕ) (effects more : List ControllerEffect) :
    eventsOf k (effects ++ more) = eventsOf k effects ++ eventsOf k more := List.filterMap_append

lemma eventsOf_reads (k j : ℕ) (settled : Settled) :
    eventsOf k (settled.map fun read => .read j read.1 read.2) = [] := by
  rw [eventsOf, List.filterMap_eq_nil_iff]
  intro effect heffect
  obtain ⟨read, -, rfl⟩ := List.mem_map.1 heffect
  rfl

/-- The frame an event brings to a stream. -/
def frameFor (streamsById : InsertionMap ℕ ℕ) (k : ℕ) : ControllerEvent → Option PtyFrame
  | .binary payload =>
    (decodePtyFrame payload).filter fun frame => streamsById.get frame.streamId = some k
  | _ => none

/-- A frame of some stream, the return of foreign code, or a read. -/
def isTraffic : ControllerEvent → Bool
  | .binary _ => true
  | .callReturned _ => true
  | .next _ _ => true
  | _ => false

namespace Controller

/-- An open controller that routes frames so, and whose stream is that far with a snapshot. -/
structure Reassembles (streamsById : InsertionMap ℕ ℕ) (k : ℕ) (snapshot : Option PendingSnapshot)
    (failed : Bool) (s : Controller) : Prop where
  sessionId : s.sessionId.isSome = true
  routes : s.streamsById = streamsById
  stream : ∃ stream, s.streams[k]? = some stream ∧ stream.snapshot = snapshot ∧
    stream.ended = failed ∧ stream.failed = failed
  calls : ∀ event, Call.listeners k event ∈ s.calls → event.isEnded = false

variable {o : ControllerOptions} {ids : InsertionMap ℕ ℕ} {k : ℕ} {snapshot : Option PendingSnapshot}
  {failed : Bool}

lemma Reassembles.onStream {s : Controller} (h : Reassembles ids k snapshot failed s) (j : ℕ)
    {f : PtyEventStream → PtyEventStream × Settled}
    (hf : j = k → ∀ stream, (f stream).1.snapshot = stream.snapshot ∧
      (f stream).1.ended = stream.ended ∧ (f stream).1.failed = stream.failed) :
    Reassembles ids k snapshot failed (s.onStream j f).1 ∧ eventsOf k (s.onStream j f).2 = [] := by
  unfold Controller.onStream
  split
  · exact ⟨h, rfl⟩
  next other hother =>
  refine ⟨⟨h.sessionId, h.routes, ?_, h.calls⟩, eventsOf_reads k j _⟩
  obtain ⟨stream, hget, hsnapshot, hended, hfailed⟩ := h.stream
  by_cases hjk : j = k
  · subst hjk
    rw [hother] at hget
    cases hget
    obtain ⟨hs, he, hfl⟩ := hf rfl other
    refine ⟨_, List.getElem?_set_self (List.getElem?_eq_some_iff.1 hother).1, ?_, ?_, ?_⟩
    · exact hs.trans hsnapshot
    · exact he.trans hended
    · exact hfl.trans hfailed
  · exact ⟨stream, (List.getElem?_set_ne hjk).trans hget, hsnapshot, hended, hfailed⟩

lemma Reassembles.other {s : Controller} (h : Reassembles ids k snapshot failed s)
    {e : ControllerEvent} (htraffic : isTraffic e = true) (hframe : frameFor ids k e = none) :
    Reassembles ids k snapshot failed (s.react o e).1 ∧ eventsOf k (s.react o e).2 = [] := by
  cases e with
  | binary payload =>
    have hsession := h.sessionId
    show Reassembles ids k snapshot failed
        (if s.sessionId.isSome then s.onBinary payload else (s, [])).1 ∧
      eventsOf k (if s.sessionId.isSome then s.onBinary payload else (s, [])).2 = []
    rw [if_pos hsession]
    unfold Controller.onBinary
    split
    · exact ⟨h, rfl⟩
    next frame hdecode =>
    split
    · exact ⟨h, rfl⟩
    next j hget =>
    have hjk : j ≠ k := by
      intro heq
      rw [frameFor, hdecode, ← h.routes] at hframe
      rw [heq] at hget
      simp [Option.filter, hget] at hframe
    unfold ingest
    split
    · exact ⟨h, rfl⟩
    next other hother =>
    split
    · exact ⟨h, rfl⟩
    next stream settled event _ =>
    obtain ⟨mine, hmine, hcore⟩ := h.stream
    have hset : ({ s with streams := s.streams.set j stream } : Controller).streams[k]? = some mine :=
      (List.getElem?_set_ne hjk).trans hmine
    have hquiet : Reassembles ids k snapshot failed { s with streams := s.streams.set j stream } :=
      ⟨h.sessionId, h.routes, ⟨mine, hset, hcore⟩, h.calls⟩
    dsimp only
    split
    · exact ⟨hquiet, eventsOf_reads k j settled⟩
    split
    · exact ⟨hquiet, eventsOf_reads k j settled⟩
    · next pushed _ =>
      refine ⟨⟨h.sessionId, h.routes, ⟨mine, hset, hcore⟩, fun event hevent => ?_⟩, ?_⟩
      · rcases List.mem_cons.1 hevent with heq | hold
        · cases heq
          exact absurd rfl hjk
        · exact h.calls event hold
      · rw [eventsOf_append, eventsOf_reads]
        simp [eventsOf, hjk]
  | callReturned outcome =>
    show Reassembles ids k snapshot failed (s.callReturned o outcome).1 ∧
      eventsOf k (s.callReturned o outcome).2 = []
    unfold Controller.callReturned
    split
    · exact ⟨h, rfl⟩
    next call calls hcalls =>
    have hrest : ∀ event, Call.listeners k event ∈ calls → event.isEnded = false :=
      fun event hevent => h.calls event (by rw [hcalls]; exact List.mem_cons_of_mem _ hevent)
    have hpop : Reassembles ids k snapshot failed { s with calls } :=
      ⟨h.sessionId, h.routes, h.stream, hrest⟩
    have hsame : ∀ t : Controller, t.sessionId = s.sessionId → t.streamsById = s.streamsById →
        t.streams = s.streams → t.calls = calls → Reassembles ids k snapshot failed t := by
      intro t hsession hroutes hstreams htcalls
      refine ⟨?_, hroutes.trans h.routes, ?_, ?_⟩
      · rw [hsession]
        exact h.sessionId
      · rw [hstreams]
        exact h.stream
      · rw [htcalls]
        exact hrest
    dsimp only
    split
    · exact ⟨hsame _ rfl rfl rfl rfl, rfl⟩
    · split
      · exact ⟨hsame _ rfl rfl rfl rfl, rfl⟩
      · exact ⟨hpop, rfl⟩
    · exact ⟨hpop, rfl⟩
    · exact ⟨hsame _ rfl rfl rfl rfl, rfl⟩
    · exact ⟨hsame _ rfl rfl rfl rfl, rfl⟩
    · exact ⟨hsame _ rfl rfl rfl rfl, rfl⟩
    · exact ⟨hpop, rfl⟩
    · exact ⟨hpop, rfl⟩
    · next j event _ =>
      refine hpop.onStream j fun hjk stream => ?_
      subst hjk
      have hevent := h.calls event (by rw [hcalls]; exact List.mem_cons_self)
      unfold PtyEventStream.deliver
      cases event with
      | ended seq code => cases hevent
      | snapshot seq size data => cases stream.pullers <;> exact ⟨rfl, rfl, rfl⟩
      | output seq data => cases stream.pullers <;> exact ⟨rfl, rfl, rfl⟩
      | resize seq size => cases stream.pullers <;> exact ⟨rfl, rfl, rfl⟩
      | gap seq => cases stream.pullers <;> exact ⟨rfl, rfl, rfl⟩
  | next j read =>
    refine h.onStream j fun _ stream => ?_
    unfold PtyEventStream.next
    split
    · exact ⟨rfl, rfl, rfl⟩
    split
    · exact ⟨rfl, rfl, rfl⟩
    split <;> exact ⟨rfl, rfl, rfl⟩
  | opened sessionId => cases htraffic
  | control payload => cases htraffic
  | close => cases htraffic
  | request method params => cases htraffic
  | subscribe ref viewport => cases htraffic
  | unsubscribe ref => cases htraffic
  | signed signature => cases htraffic
  | timer => cases htraffic
  | negotiate => cases htraffic
  | resume r => cases htraffic

/-! ## Frames of the snapshot -/

lemma Reassembles.react_frame {s : Controller} (h : Reassembles ids k snapshot failed s)
    {e : ControllerEvent} {frame : PtyFrame} (hframe : frameFor ids k e = some frame) :
    s.react o e = s.ingest k frame := by
  cases e with
  | binary payload =>
    rw [frameFor] at hframe
    obtain ⟨hdecode, hroute⟩ := Option.filter_eq_some_iff.1 hframe
    have hget : s.streamsById.get frame.streamId = some k := by
      rw [h.routes]
      exact of_decide_eq_true hroute
    show (if s.sessionId.isSome then s.onBinary payload else (s, [])) = s.ingest k frame
    rw [if_pos h.sessionId, Controller.onBinary, hdecode]
    dsimp only
    rw [hget]
  | _ => cases hframe

lemma Reassembles.start {s : Controller} (h : Reassembles ids k snapshot failed s) {frame : PtyFrame}
    (hopcode : frame.opcode = PtyOpcode.snapshotStart) {size : Size}
    (hsize : decodeSizePayload frame.payload = some size) :
    Reassembles ids k (some ⟨frame.seq, size, [], 0⟩) failed (s.ingest k frame).1 ∧
      eventsOf k (s.ingest k frame).2 = [] := by
  obtain ⟨stream, hget, -, hended, hfailed⟩ := h.stream
  have hingest : stream.ingest frame =
      some ({ stream with snapshot := some ⟨frame.seq, size, [], 0⟩ }, [], none) := by
    rw [PtyEventStream.ingest, if_pos hopcode, hsize]
    rfl
  unfold ingest
  rw [hget]
  dsimp only
  rw [hingest]
  refine ⟨⟨h.sessionId, h.routes, ?_, h.calls⟩, rfl⟩
  exact ⟨_, List.getElem?_set_self (List.getElem?_eq_some_iff.1 hget).1, rfl, hended, hfailed⟩

lemma Reassembles.chunk {s : Controller} {snap : PendingSnapshot}
    (h : Reassembles ids k (some snap) false s) {frame : PtyFrame}
    (hopcode : frame.opcode = PtyOpcode.snapshotChunk) :
    eventsOf k (s.ingest k frame).2 = [] ∧
      if snap.bytes + frame.payload.length ≤ maxSnapshotBytes ∧
          snap.chunks.length + 1 ≤ maxSnapshotChunks then
        Reassembles ids k (some ⟨snap.seq, snap.size, snap.chunks ++ [frame.payload],
          snap.bytes + frame.payload.length⟩) false (s.ingest k frame).1
      else Reassembles ids k none true (s.ingest k frame).1 := by
  obtain ⟨stream, hget, hsnapshot, hended, hfailed⟩ := h.stream
  have hlt := (List.getElem?_eq_some_iff.1 hget).1
  have hingest : stream.ingest frame =
      some ((stream.pushChunk frame.payload).1, (stream.pushChunk frame.payload).2, none) := by
    rw [PtyEventStream.ingest, if_neg (by rw [hopcode]; decide), if_pos hopcode]
    rfl
  have hs : s.ingest k frame =
      ({ s with streams := s.streams.set k (stream.pushChunk frame.payload).1 },
        (stream.pushChunk frame.payload).2.map fun read => .read k read.1 read.2) := by
    unfold ingest
    rw [hget]
    dsimp only
    rw [hingest]
  rw [hs]
  refine ⟨eventsOf_reads k k _, ?_⟩
  unfold PtyEventStream.pushChunk
  rw [hsnapshot]
  dsimp only
  rw [List.length_append, List.length_singleton]
  split
  · next hfits =>
    rw [if_neg (by omega)]
    exact ⟨h.sessionId, h.routes, ⟨_, List.getElem?_set_self hlt, rfl, hended, hfailed⟩, h.calls⟩
  · next hlong =>
    rw [if_pos (by omega), PtyEventStream.fail, if_neg (by rw [hended]; exact Bool.false_ne_true)]
    exact ⟨h.sessionId, h.routes, ⟨_, List.getElem?_set_self hlt, rfl, rfl, rfl⟩, h.calls⟩

lemma Reassembles.chunk_failed {s : Controller} (h : Reassembles ids k none true s)
    {frame : PtyFrame} (hopcode : frame.opcode = PtyOpcode.snapshotChunk) :
    Reassembles ids k none true (s.ingest k frame).1 ∧ eventsOf k (s.ingest k frame).2 = [] := by
  obtain ⟨stream, hget, hsnapshot, hended, hfailed⟩ := h.stream
  have hingest : stream.ingest frame = some (stream, [], none) := by
    rw [PtyEventStream.ingest, if_neg (by rw [hopcode]; decide), if_pos hopcode,
      PtyEventStream.pushChunk, hsnapshot]
    rfl
  unfold ingest
  rw [hget]
  dsimp only
  rw [hingest]
  refine ⟨⟨h.sessionId, h.routes, ?_, h.calls⟩, rfl⟩
  exact ⟨_, List.getElem?_set_self (List.getElem?_eq_some_iff.1 hget).1, hsnapshot, hended, hfailed⟩

lemma Reassembles.finish {s : Controller} {snap : PendingSnapshot}
    (h : Reassembles ids k (some snap) false s) {frame : PtyFrame}
    (hopcode : frame.opcode = PtyOpcode.snapshotEnd) :
    Reassembles ids k none false (s.ingest k frame).1 ∧
      eventsOf k (s.ingest k frame).2 = [.snapshot snap.seq snap.size snap.chunks.flatten] := by
  obtain ⟨stream, hget, hsnapshot, hended, hfailed⟩ := h.stream
  have hingest : stream.ingest frame = some ({ stream with snapshot := none }, [],
      some (.snapshot snap.seq snap.size snap.chunks.flatten)) := by
    rw [PtyEventStream.ingest, if_neg (by rw [hopcode]; decide), if_neg (by rw [hopcode]; decide),
      if_pos hopcode, hsnapshot]
    rfl
  unfold ingest
  rw [hget]
  dsimp only
  rw [hingest]
  dsimp only
  rw [if_neg (by rw [hended]; exact Bool.false_ne_true)]
  refine ⟨⟨h.sessionId, h.routes, ?_, fun event hevent => ?_⟩, ?_⟩
  · exact ⟨_, List.getElem?_set_self (List.getElem?_eq_some_iff.1 hget).1, rfl, hended, hfailed⟩
  · rcases List.mem_cons.1 hevent with heq | hold
    · cases heq
      rfl
    · exact h.calls event hold
  · simp [eventsOf]

lemma Reassembles.finish_failed {s : Controller} (h : Reassembles ids k none true s)
    {frame : PtyFrame} (hopcode : frame.opcode = PtyOpcode.snapshotEnd) :
    Reassembles ids k none true (s.ingest k frame).1 ∧ eventsOf k (s.ingest k frame).2 = [] := by
  obtain ⟨stream, hget, hsnapshot, hended, hfailed⟩ := h.stream
  have hingest : stream.ingest frame = some ({ stream with snapshot := none }, [], none) := by
    rw [PtyEventStream.ingest, if_neg (by rw [hopcode]; decide), if_neg (by rw [hopcode]; decide),
      if_pos hopcode, hsnapshot]
    rfl
  unfold ingest
  rw [hget]
  dsimp only
  rw [hingest]
  refine ⟨⟨h.sessionId, h.routes, ?_, h.calls⟩, rfl⟩
  exact ⟨_, List.getElem?_set_self (List.getElem?_eq_some_iff.1 hget).1, rfl, hended, hfailed⟩

/-! ## Runs -/

/-- The events of a run from a state. -/
def pushedFrom (o : ControllerOptions) (k : ℕ) (s : Controller) (es : List ControllerEvent) :
    List PtyEvent :=
  eventsOf k ((controllerMachine o).outputsFrom (fun s e => (s.react o e).2) s es)

lemma pushedFrom_cons (s : Controller) (e : ControllerEvent) (es : List ControllerEvent) :
    pushedFrom o k s (e :: es) = eventsOf k (s.react o e).2 ++ pushedFrom o k (s.react o e).1 es := by
  rw [pushedFrom, Machine.outputsFrom, eventsOf_append]
  rfl

/-- What a rule says of a stream that is that far with the frames a run still brings it. -/
def Brings (o : ControllerOptions) (ids : InsertionMap ℕ ℕ) (k : ℕ) (s : Controller)
    (frames : List PtyFrame) (events : List PtyEvent) (failed : Bool) : Prop :=
  ∀ es : List ControllerEvent, es.all isTraffic = true → es.filterMap (frameFor ids k) = frames →
    pushedFrom o k s es = events ∧
      Reassembles ids k none failed ((controllerMachine o).runFrom s es)

/-- Other traffic in between changes nothing: it is enough to look at the next frame. -/
lemma Reassembles.brings_cons {s : Controller} (h : Reassembles ids k snapshot failed s)
    {frame : PtyFrame} {frames : List PtyFrame} {events : List PtyEvent} {failed' : Bool}
    (hnext : ∀ t : Controller, Reassembles ids k snapshot failed t →
      ∃ events', events = eventsOf k (t.ingest k frame).2 ++ events' ∧
        Brings o ids k (t.ingest k frame).1 frames events' failed') :
    Brings o ids k s (frame :: frames) events failed' := by
  intro es
  induction es generalizing s with
  | nil =>
    intro _ hnil
    cases hnil
  | cons e es ih =>
    intro htraffic hes
    rw [List.all_cons, Bool.and_eq_true] at htraffic
    rw [pushedFrom_cons, Machine.runFrom_cons]
    rw [List.filterMap_cons] at hes
    cases he : frameFor ids k e with
    | none =>
      rw [he] at hes
      obtain ⟨hother, hsilent⟩ := h.other (o := o) htraffic.1 he
      rw [hsilent]
      exact ih hother htraffic.2 hes
    | some first =>
      rw [he] at hes
      obtain ⟨rfl, hrest⟩ := List.cons.inj hes
      obtain ⟨events', hevents, hbrings⟩ := hnext s h
      obtain ⟨hpushed, hdone⟩ := hbrings es htraffic.2 hrest
      have hreact := h.react_frame (o := o) he
      rw [hreact, hpushed, hevents]
      refine ⟨rfl, ?_⟩
      show Reassembles ids k none failed' ((controllerMachine o).runFrom (s.react o e).1 es)
      rw [hreact]
      exact hdone

lemma Reassembles.brings_nil {s : Controller} (h : Reassembles ids k none failed s) :
    Brings o ids k s [] [] failed := by
  intro es
  induction es generalizing s with
  | nil => exact fun _ _ => ⟨rfl, h⟩
  | cons e es ih =>
    intro htraffic hes
    rw [List.all_cons, Bool.and_eq_true] at htraffic
    rw [List.filterMap_cons] at hes
    cases he : frameFor ids k e with
    | none =>
      rw [he] at hes
      obtain ⟨hother, hsilent⟩ := h.other (o := o) htraffic.1 he
      rw [pushedFrom_cons, Machine.runFrom_cons, hsilent]
      exact ih hother htraffic.2 hes
    | some first =>
      rw [he] at hes
      cases hes

lemma Reassembles.brings_failed {s : Controller} (h : Reassembles ids k none true s)
    {chunks : List PtyFrame} (hchunks : ∀ chunk ∈ chunks, chunk.opcode = PtyOpcode.snapshotChunk)
    {last : PtyFrame} (hlast : last.opcode = PtyOpcode.snapshotEnd) :
    Brings o ids k s (chunks ++ [last]) [] true := by
  induction chunks generalizing s with
  | nil =>
    refine h.brings_cons fun t ht => ?_
    obtain ⟨hdone, hsilent⟩ := ht.finish_failed hlast
    exact ⟨[], by rw [hsilent]; rfl, hdone.brings_nil⟩
  | cons chunk chunks ih =>
    refine h.brings_cons fun t ht => ?_
    obtain ⟨hnext, hsilent⟩ := ht.chunk_failed (hchunks chunk List.mem_cons_self)
    exact ⟨[], by rw [hsilent]; rfl,
      ih hnext fun other hother => hchunks other (List.mem_cons_of_mem _ hother)⟩

/-- The bytes of some chunks. -/
def chunkBytes (chunks : List PtyFrame) : ℕ := (chunks.map fun chunk => chunk.payload.length).sum

lemma Reassembles.brings_snapshot {s : Controller} {snap : PendingSnapshot}
    (h : Reassembles ids k (some snap) false s) {chunks : List PtyFrame}
    (hchunks : ∀ chunk ∈ chunks, chunk.opcode = PtyOpcode.snapshotChunk) {last : PtyFrame}
    (hlast : last.opcode = PtyOpcode.snapshotEnd)
    (hbytes : snap.bytes + chunkBytes chunks ≤ maxSnapshotBytes)
    (hcount : snap.chunks.length + chunks.length ≤ maxSnapshotChunks) :
    Brings o ids k s (chunks ++ [last])
      [.snapshot snap.seq snap.size (snap.chunks ++ chunks.map PtyFrame.payload).flatten] false := by
  induction chunks generalizing s snap with
  | nil =>
    refine h.brings_cons fun t ht => ?_
    obtain ⟨hdone, hevents⟩ := ht.finish hlast
    exact ⟨[], by rw [hevents, List.map_nil, List.append_nil]; rfl, hdone.brings_nil⟩
  | cons chunk chunks ih =>
    rw [chunkBytes, List.map_cons, List.sum_cons] at hbytes
    rw [List.length_cons] at hcount
    refine h.brings_cons fun t ht => ?_
    obtain ⟨hsilent, hnext⟩ := ht.chunk (hchunks chunk List.mem_cons_self)
    rw [if_pos ⟨by omega, by omega⟩] at hnext
    have hrest := ih hnext (fun other hother => hchunks other (List.mem_cons_of_mem _ hother))
      (by rw [chunkBytes]; dsimp only; omega) (by
        rw [List.length_append, List.length_singleton]
        omega)
    refine ⟨_, by rw [hsilent]; rfl, ?_⟩
    rw [List.map_cons, List.append_cons]
    exact hrest

lemma Reassembles.brings_overflow {s : Controller} {snap : PendingSnapshot}
    (h : Reassembles ids k (some snap) false s) {chunks : List PtyFrame}
    (hchunks : ∀ chunk ∈ chunks, chunk.opcode = PtyOpcode.snapshotChunk) {last : PtyFrame}
    (hlast : last.opcode = PtyOpcode.snapshotEnd) (hsnap : snap.bytes ≤ maxSnapshotBytes)
    (hbytes : maxSnapshotBytes < snap.bytes + chunkBytes chunks) :
    Brings o ids k s (chunks ++ [last]) [] true := by
  induction chunks generalizing s snap with
  | nil =>
    rw [chunkBytes, List.map_nil, List.sum_nil] at hbytes
    omega
  | cons chunk chunks ih =>
    rw [chunkBytes, List.map_cons, List.sum_cons] at hbytes
    have hothers : ∀ other ∈ chunks, other.opcode = PtyOpcode.snapshotChunk :=
      fun other hother => hchunks other (List.mem_cons_of_mem _ hother)
    refine h.brings_cons fun t ht => ?_
    obtain ⟨hsilent, hnext⟩ := ht.chunk (hchunks chunk List.mem_cons_self)
    refine ⟨[], by rw [hsilent]; rfl, ?_⟩
    split at hnext
    · next hfits =>
      refine ih hnext hothers hfits.1 ?_
      rw [chunkBytes]
      dsimp only
      omega
    · exact hnext.brings_failed hothers hlast

/-- A snapshot whose chunks are within the bound for their number is put together exactly when it is
within the bound for its bytes. -/
lemma Reassembles.brings {s : Controller} (h : Reassembles ids k snapshot false s)
    {first : PtyFrame} (hfirst : first.opcode = PtyOpcode.snapshotStart) {size : Size}
    (hsize : decodeSizePayload first.payload = some size) {chunks : List PtyFrame}
    (hchunks : ∀ chunk ∈ chunks, chunk.opcode = PtyOpcode.snapshotChunk)
    (hcount : chunkBytes chunks ≤ maxSnapshotBytes → chunks.length ≤ maxSnapshotChunks)
    {last : PtyFrame} (hlast : last.opcode = PtyOpcode.snapshotEnd) :
    Brings o ids k s (first :: (chunks ++ [last]))
      (if chunkBytes chunks ≤ maxSnapshotBytes then
        [.snapshot first.seq size (chunks.map PtyFrame.payload).flatten] else [])
      (!decide (chunkBytes chunks ≤ maxSnapshotBytes)) := by
  by_cases hbytes : chunkBytes chunks ≤ maxSnapshotBytes
  · have hcount := hcount hbytes
    rw [if_pos hbytes, decide_eq_true hbytes]
    refine h.brings_cons fun t ht => ?_
    obtain ⟨hstarted, hsilent⟩ := ht.start hfirst hsize
    exact ⟨_, by rw [hsilent]; rfl, hstarted.brings_snapshot hchunks hlast (by dsimp only; omega)
      (by rw [List.length_nil]; omega)⟩
  · rw [if_neg hbytes, decide_eq_false hbytes]
    refine h.brings_cons fun t ht => ?_
    obtain ⟨hstarted, hsilent⟩ := ht.start hfirst hsize
    exact ⟨[], by rw [hsilent]; rfl,
      hstarted.brings_overflow hchunks hlast (Nat.zero_le _) (by dsimp only; omega)⟩

end Controller

end Pherry.Sdk
