import Pherry.Host.Session

/-!
# One viewer of a session

What a subscriber would get if it were the only one: a machine that knows nothing of the others. Its
stream is a snapshot, the live frames behind it without a hole, and now and then a gap with a snapshot.
-/

namespace Pherry.Host

open Lib Protocol

/-! ## The stream -/

/-- What a stream has come to: nothing, a snapshot that is not complete, all up to a number, a gap, or
its end. `first` is whether nothing but the first snapshot has come. -/
inductive Seen
  | nothing
  | snapshotting (seq : ℕ) (first : Bool)
  | upTo (seq : ℕ) (first : Bool)
  | gapped (seq : ℕ)
  | finished
deriving Repr

/-- The frames that may come next. A viewer that is slow may get a gap, or the end behind frames that it
has missed; the end of a session that has ended follows the snapshot. -/
def Seen.next (slow : Bool) (seen : Seen) (frame : PtyFrame) : Option Seen :=
  match seen with
  | .nothing => if frame.opcode = PtyOpcode.snapshotStart then some (.snapshotting frame.seq true) else none
  | .snapshotting seq first =>
    if frame.seq ≠ seq then none
    else if frame.opcode = PtyOpcode.snapshotChunk then some (.snapshotting seq first)
    else if frame.opcode = PtyOpcode.snapshotEnd then some (.upTo seq first)
    else none
  | .upTo seq first =>
    if frame.opcode = PtyOpcode.output ∨ frame.opcode = PtyOpcode.resized then
      if frame.seq = seq + 1 then some (.upTo (seq + 1) false) else none
    else if frame.opcode = PtyOpcode.gap then
      if slow ∧ seq < frame.seq then some (.gapped frame.seq) else none
    else if frame.opcode = PtyOpcode.ended then
      if frame.seq = seq + 1 ∨ slow ∧ seq < frame.seq ∨ first ∧ frame.seq = seq then some .finished else none
    else none
  | .gapped seq =>
    if frame.opcode = PtyOpcode.snapshotStart ∧ frame.seq = seq then some (.snapshotting seq false)
    else none
  | .finished => none

/-- What frames bring a stream to, if they may come. -/
def follow (slow : Bool) (seen : Seen) (frames : List PtyFrame) : Option Seen :=
  frames.foldlM (Seen.next slow) seen

variable {slow : Bool} {seen : Seen}

@[simp] lemma follow_nil : follow slow seen [] = some seen := rfl

lemma follow_cons (frame : PtyFrame) (frames : List PtyFrame) :
    follow slow seen (frame :: frames) = (seen.next slow frame).bind fun seen => follow slow seen frames :=
  rfl

lemma follow_append (frames frames' : List PtyFrame) :
    follow slow seen (frames ++ frames') =
      (follow slow seen frames).bind fun seen => follow slow seen frames' := List.foldlM_append

lemma follow_prefix {frames frames' : List PtyFrame} {last : Seen}
    (h : follow slow seen (frames ++ frames') = some last) :
    ∃ between, follow slow seen frames = some between := by
  rw [follow_append] at h
  obtain ⟨between, hbetween, -⟩ := Option.bind_eq_some_iff.1 h
  exact ⟨between, hbetween⟩

variable {σ : Type} {em : Emulator σ}

lemma follow_snapshotBody (t : Terminal σ) (seq : ℕ) (first : Bool) :
    follow slow (.snapshotting seq first) (t.snapshotBody em seq) = some (.upTo seq first) := by
  have hchunks : ∀ chunks : List Bytes, follow slow (.snapshotting seq first)
      (chunks.map (t.frameAt seq PtyOpcode.snapshotChunk)) = some (.snapshotting seq first) := by
    intro chunks
    induction chunks with
    | nil => rfl
    | cons chunk chunks ih =>
      rw [List.map_cons, follow_cons]
      have hnext : Seen.next slow (.snapshotting seq first) (t.frameAt seq PtyOpcode.snapshotChunk chunk) =
          some (.snapshotting seq first) := by simp [Seen.next, Terminal.frameAt]
      rw [hnext]
      exact ih
  rw [Terminal.snapshotBody, follow_append, hchunks]
  simp [follow_cons, Seen.next, Terminal.frameAt, PtyOpcode.snapshotEnd, PtyOpcode.snapshotChunk]

lemma follow_snapshot_nothing (t : Terminal σ) :
    follow slow .nothing (t.snapshot em) = some (.upTo t.seq true) := by
  have hnext : Seen.next slow .nothing t.snapshotStart = some (.snapshotting t.seq true) := by
    simp [Seen.next, Terminal.snapshotStart, Terminal.frameAt]
  rw [Terminal.snapshot, follow_cons, hnext]
  exact follow_snapshotBody t t.seq true

lemma follow_gap (t : Terminal σ) {seq : ℕ} {first : Bool} (h : seq < t.seq) :
    follow true (.upTo seq first) (t.gap :: t.snapshot em) = some (.upTo t.seq false) := by
  have hgap : Seen.next true (.upTo seq first) t.gap = some (.gapped t.seq) := by
    simp [Seen.next, Terminal.gap, Terminal.frameAt, PtyOpcode.gap, PtyOpcode.output, PtyOpcode.resized, h]
  have hstart : Seen.next true (.gapped t.seq) t.snapshotStart = some (.snapshotting t.seq false) := by
    simp [Seen.next, Terminal.snapshotStart, Terminal.frameAt]
  rw [follow_cons, hgap]
  show follow true (.gapped t.seq) (t.snapshot em) = _
  rw [Terminal.snapshot, follow_cons, hstart]
  exact follow_snapshotBody t t.seq false

/-! ## What a terminal does for the stream -/

namespace Terminal

variable {t : Terminal σ} {e : TerminalEvent} {frame : PtyFrame}

/-- A terminal that shows what it showed. -/
structure Still (t t' : Terminal σ) : Prop where
  streamId : t'.streamId = t.streamId
  mirror : t'.mirror = t.mirror
  size : t'.size = t.size
  seq : t'.seq = t.seq
  ended : t'.ended = t.ended
  endedSeq : t'.endedSeq = t.endedSeq

lemma Still.refl (t : Terminal σ) : Still t t := ⟨rfl, rfl, rfl, rfl, rfl, rfl⟩

lemma Still.frameAt {t t' : Terminal σ} (h : Still t t') (seq : ℕ) (opcode : UInt8) (payload : Bytes) :
    t'.frameAt seq opcode payload = t.frameAt seq opcode payload := by
  rw [Terminal.frameAt, Terminal.frameAt, h.streamId]

lemma Still.snapshotStart {t t' : Terminal σ} (h : Still t t') : t'.snapshotStart = t.snapshotStart := by
  rw [Terminal.snapshotStart, Terminal.snapshotStart, h.frameAt, h.seq, h.size]

lemma Still.snapshotBody {t t' : Terminal σ} (h : Still t t') (seq : ℕ) :
    t'.snapshotBody em seq = t.snapshotBody em seq := by
  rw [Terminal.snapshotBody, Terminal.snapshotBody, h.mirror, funext (h.frameAt seq PtyOpcode.snapshotChunk),
    h.frameAt]

lemma Still.snapshot {t t' : Terminal σ} (h : Still t t') : t'.snapshot em = t.snapshot em := by
  rw [Terminal.snapshot, Terminal.snapshot, h.snapshotStart, h.snapshotBody, h.seq]

lemma Still.endedFrame {t t' : Terminal σ} (h : Still t t') : t'.endedFrame = t.endedFrame := by
  rw [Terminal.endedFrame, Terminal.endedFrame, h.frameAt, h.endedSeq]

/-- Nothing is told to the subscribers. -/
def IsQuiet (em : Emulator σ) (t : Terminal σ) (e : TerminalEvent) : Prop :=
  (t.react em e).2.2 = none ∧ e ≠ .dispose

lemma resize_eq (em : Emulator σ) (t : Terminal σ) (size : Size) :
    (t.isOver = true ∧ t.resize em size = (t, [], none)) ∨
      t.isOver = false ∧ ∃ frame, (t.resize em size).2.2 = some frame ∧ frame.seq = t.seq + 1 ∧
        (t.resize em size).1.seq = t.seq + 1 ∧ (t.resize em size).1.ended = t.ended ∧
        (t.resize em size).1.disposed = t.disposed ∧ frame.opcode = PtyOpcode.resized := by
  rw [resize]
  by_cases hover : t.isOver = true
  · rw [if_pos hover]
    exact Or.inl ⟨hover, rfl⟩
  · rw [if_neg hover]
    exact Or.inr ⟨Bool.eq_false_iff.2 hover, _, rfl, rfl, rfl, rfl, rfl, rfl⟩

/-- `releaseViewer` changes the viewports and whom the size belongs to, and may resize; what it does is
the same at a terminal that is marked as ended. -/
lemma releaseViewer_eq (em : Emulator σ) (t : Terminal σ) (viewer : ℕ) : ∃ viewports authority,
    let t' := { t with viewports, authority }
    (t.releaseViewer em viewer = (t', [], none) ∧
        ∀ seq, (t.exited seq).releaseViewer em viewer = (t'.exited seq, [], none)) ∨
      ∃ size, t.releaseViewer em viewer = t'.resize em size ∧
        ∀ seq, (t.exited seq).releaseViewer em viewer = (t'.exited seq).resize em size := by
  by_cases hauthority : t.authority = some viewer
  · by_cases hrecord : (t.viewports.get viewer).isSome = true
    · cases hheir : ({ t with
          viewports := t.viewports.erase viewer
          authority := none } : Terminal σ).heir with
      | none =>
        rw [heir] at hheir
        refine ⟨t.viewports.erase viewer, none, Or.inl ?_⟩
        simp [releaseViewer, exited, heir, hauthority, hrecord, hheir]
      | some best =>
        rw [heir] at hheir
        refine ⟨t.viewports.erase viewer, some best.1, ?_⟩
        by_cases hsize : best.2.size = t.size
        · left
          simp [releaseViewer, exited, heir, hauthority, hrecord, hheir, hsize]
        · right
          refine ⟨best.2.size, ?_⟩
          simp [releaseViewer, exited, heir, hauthority, hrecord, hheir, hsize]
    · refine ⟨t.viewports.erase viewer, none, Or.inl ?_⟩
      simp [releaseViewer, exited, hauthority, hrecord]
  · refine ⟨t.viewports.erase viewer, t.authority, Or.inl ?_⟩
    simp [releaseViewer, exited, hauthority]

lemma still_react (h : (t.react em e).2.2 = none) : Still t (t.react em e).1 := by
  cases e with
  | output bytes =>
    by_cases hover : t.isOver = true
    · rw [react, if_pos hover]
      exact .refl t
    · rw [react, if_neg hover] at h
      cases h
  | exit code =>
    by_cases hover : t.isOver = true
    · rw [react, if_pos hover]
      exact .refl t
    · rw [react, if_neg hover] at h
      cases h
  | resize size =>
    rcases resize_eq em t size with ⟨-, heq⟩ | ⟨-, frame, hframe, -⟩
    · show Still t (t.resize em size).1
      rw [heq]
      exact .refl t
    · rw [react, hframe] at h
      cases h
  | write bytes => exact .refl t
  | observeViewer viewer size => exact ⟨rfl, rfl, rfl, rfl, rfl, rfl⟩
  | resizeViewer viewer size =>
    rcases resize_eq em { t.record viewer size with authority := some viewer } size with
      ⟨-, heq⟩ | ⟨-, frame, hframe, -⟩
    · rw [react, heq]
      exact ⟨rfl, rfl, rfl, rfl, rfl, rfl⟩
    · rw [react, hframe] at h
      cases h
  | releaseViewer viewer =>
    obtain ⟨viewports, authority, ⟨heq, -⟩ | ⟨size, heq, -⟩⟩ := releaseViewer_eq em t viewer
    · rw [react, heq]
      exact ⟨rfl, rfl, rfl, rfl, rfl, rfl⟩
    · rw [react, heq] at h ⊢
      rcases resize_eq em { t with viewports, authority } size with
        ⟨-, heq⟩ | ⟨-, frame, hframe, -⟩
      · rw [heq]
        exact ⟨rfl, rfl, rfl, rfl, rfl, rfl⟩
      · rw [hframe] at h
        cases h
  | dispose =>
    rw [react]
    split
    · exact .refl t
    · exact ⟨rfl, rfl, rfl, rfl, rfl, rfl⟩

/-- What an event leaves alone: that a session has ended, and, but for a dispose, that it is disposed. -/
lemma flags_react (t : Terminal σ) (e : TerminalEvent) :
    (t.react em e).1.ended = t.ended ∧ (t.react em e).1.endedSeq = t.endedSeq ∧
      (e ≠ .dispose → (t.react em e).1.disposed = t.disposed) := by
  have hresize : ∀ (t : Terminal σ) (size : Size), (t.resize em size).1.ended = t.ended ∧
      (t.resize em size).1.endedSeq = t.endedSeq ∧ (e ≠ .dispose → (t.resize em size).1.disposed = t.disposed) := by
    intro t size
    rw [resize]
    split <;> exact ⟨rfl, rfl, fun _ => rfl⟩
  cases e with
  | output bytes =>
    rw [react]
    split <;> exact ⟨rfl, rfl, fun _ => rfl⟩
  | exit code =>
    rw [react]
    split <;> exact ⟨rfl, rfl, fun _ => rfl⟩
  | resize size => exact hresize t size
  | write bytes => exact ⟨rfl, rfl, fun _ => rfl⟩
  | observeViewer viewer size => exact ⟨rfl, rfl, fun _ => rfl⟩
  | resizeViewer viewer size => exact hresize _ size
  | releaseViewer viewer =>
    rw [react]
    obtain ⟨viewports, authority, ⟨heq, -⟩ | ⟨size, heq, -⟩⟩ := releaseViewer_eq em t viewer
    · rw [heq]
      exact ⟨rfl, rfl, fun _ => rfl⟩
    · rw [heq]
      exact hresize _ size
  | dispose =>
    rw [react]
    split <;> exact ⟨rfl, rfl, fun hne => absurd rfl hne⟩

lemma disposed_react (h : e ≠ .dispose) : (t.react em e).1.disposed = t.disposed := (flags_react t e).2.2 h

lemma stamped_frameAt (t : Terminal σ) (seq : ℕ) (payload : Bytes) {opcode : UInt8}
    (houtput : opcode ≠ PtyOpcode.output) (hresized : opcode ≠ PtyOpcode.resized) :
    (t.frameAt seq opcode payload).seq = seq ∧ (t.frameAt seq opcode payload).opcode ≠ PtyOpcode.output ∧
      (t.frameAt seq opcode payload).opcode ≠ PtyOpcode.resized := ⟨rfl, houtput, hresized⟩

/-- The frames of a snapshot have the number the terminal is at, and none is a live one. -/
lemma stamped_snapshot (t : Terminal σ) : ∀ frame ∈ t.snapshot em,
    frame.seq = t.seq ∧ frame.opcode ≠ PtyOpcode.output ∧ frame.opcode ≠ PtyOpcode.resized := by
  intro frame hframe
  rw [snapshot, snapshotBody] at hframe
  rcases List.mem_cons.1 hframe with rfl | hframe
  · exact t.stamped_frameAt _ _ (by decide) (by decide)
  · rcases List.mem_append.1 hframe with hframe | hframe
    · obtain ⟨chunk, -, rfl⟩ := List.mem_map.1 hframe
      exact t.stamped_frameAt _ _ (by decide) (by decide)
    · rw [List.mem_singleton.1 hframe]
      exact t.stamped_frameAt _ _ (by decide) (by decide)

lemma react_live (h : (t.react em e).2.2 = some frame) :
    frame.seq = t.seq + 1 ∧ (t.react em e).1.seq = t.seq + 1 ∧ t.ended = false ∧ t.disposed = false ∧
      (t.react em e).1.ended = false ∧ (t.react em e).1.disposed = false ∧
      (frame.opcode = PtyOpcode.output ∨ frame.opcode = PtyOpcode.resized ∨
        frame.opcode = PtyOpcode.ended) := by
  have hresize : ∀ (t' : Terminal σ) (size : Size), t'.seq = t.seq → t'.ended = t.ended →
      t'.disposed = t.disposed → (t'.resize em size).2.2 = some frame →
      frame.seq = t.seq + 1 ∧ (t'.resize em size).1.seq = t.seq + 1 ∧ t.ended = false ∧
        t.disposed = false ∧ (t'.resize em size).1.ended = false ∧
        (t'.resize em size).1.disposed = false ∧
        (frame.opcode = PtyOpcode.output ∨ frame.opcode = PtyOpcode.resized ∨
          frame.opcode = PtyOpcode.ended) := by
    intro t' size hseq hended hdisposed hframe
    rcases resize_eq em t' size with ⟨-, heq⟩ | ⟨hover, frame', hframe', hs, hs', he, hd, hop⟩
    · rw [heq] at hframe
      cases hframe
    · rw [hframe'] at hframe
      cases hframe
      rw [isOver, Bool.or_eq_false_iff] at hover
      rw [← hseq, ← hended, ← hdisposed]
      exact ⟨hs, hs', hover.1, hover.2, he.trans hover.1, hd.trans hover.2, Or.inr (Or.inl hop)⟩
  cases e with
  | output bytes =>
    by_cases hover : t.isOver = true
    · rw [react, if_pos hover] at h
      cases h
    · rw [react, if_neg hover] at h ⊢
      cases h
      rw [Bool.not_eq_true, isOver, Bool.or_eq_false_iff] at hover
      exact ⟨rfl, rfl, hover.1, hover.2, hover.1, hover.2, Or.inl rfl⟩
  | exit code =>
    by_cases hover : t.isOver = true
    · rw [react, if_pos hover] at h
      cases h
    · rw [react, if_neg hover] at h ⊢
      cases h
      rw [Bool.not_eq_true, isOver, Bool.or_eq_false_iff] at hover
      exact ⟨rfl, rfl, hover.1, hover.2, hover.1, hover.2, Or.inr (Or.inr rfl)⟩
  | resize size => exact hresize t size rfl rfl rfl h
  | write bytes => cases h
  | observeViewer viewer size => cases h
  | resizeViewer viewer size => exact hresize _ size rfl rfl rfl h
  | releaseViewer viewer =>
    obtain ⟨viewports, authority, ⟨heq, -⟩ | ⟨size, heq, -⟩⟩ := releaseViewer_eq em t viewer
    · rw [react, heq] at h
      cases h
    · rw [react, heq] at h ⊢
      exact hresize _ size rfl rfl rfl h
  | dispose =>
    rw [react] at h
    split at h
    · cases h
    · cases h

lemma react_exited (h : IsQuiet em t e) (seq : ℕ) :
    ((t.exited seq).react em e).1 = (t.react em e).1.exited seq ∧
      ((t.exited seq).react em e).2.2 = none := by
  have hover : ∀ t : Terminal σ, (t.exited seq).isOver = true := fun t => rfl
  have hresize : ∀ (t : Terminal σ) (size : Size), (t.resize em size).2.2 = none →
      (t.exited seq).resize em size = (t.exited seq, [], none) ∧ (t.resize em size).1 = t := by
    intro t size hnone
    rcases resize_eq em t size with ⟨-, heq⟩ | ⟨-, frame, hframe, -⟩
    · exact ⟨if_pos rfl, by rw [heq]⟩
    · rw [hframe] at hnone
      cases hnone
  cases e with
  | output bytes =>
    by_cases hover : t.isOver = true
    · rw [react, react, if_pos hover]
      exact ⟨rfl, rfl⟩
    · have hnone := h.1
      rw [react, if_neg hover] at hnone
      cases hnone
  | exit code =>
    by_cases hover : t.isOver = true
    · rw [react, react, if_pos hover]
      exact ⟨rfl, rfl⟩
    · have hnone := h.1
      rw [react, if_neg hover] at hnone
      cases hnone
  | resize size =>
    obtain ⟨hexited, hsame⟩ := hresize t size h.1
    rw [react, react, hexited, hsame]
    exact ⟨rfl, rfl⟩
  | write bytes => exact ⟨rfl, rfl⟩
  | observeViewer viewer size => exact ⟨rfl, rfl⟩
  | resizeViewer viewer size =>
    obtain ⟨hexited, hsame⟩ := hresize { t.record viewer size with authority := some viewer } size h.1
    rw [react, react, hsame]
    exact ⟨congrArg Prod.fst hexited, congrArg (fun r => r.2.2) hexited⟩
  | releaseViewer viewer =>
    have hnone : (t.releaseViewer em viewer).2.2 = none := h.1
    show ((t.exited seq).releaseViewer em viewer).1 = (t.releaseViewer em viewer).1.exited seq ∧
      ((t.exited seq).releaseViewer em viewer).2.2 = none
    obtain ⟨viewports, authority, ⟨heq, hexited⟩ | ⟨size, heq, hexited⟩⟩ :=
      releaseViewer_eq em t viewer
    · rw [heq, hexited]
      exact ⟨rfl, rfl⟩
    · rw [heq] at hnone
      obtain ⟨hover, hsame⟩ := hresize _ size hnone
      rw [heq, hexited, hover, hsame]
      exact ⟨rfl, rfl⟩
  | dispose => exact absurd rfl h.2

end Terminal

/-! ## The machine of a viewer -/

/-- Whether a viewer's subscription has flow control, and what has become of it. -/
structure ViewerFlow where
  flow : Bool
  paused : Bool
  missed : Bool

/-- The call of a viewer's sink: with a live frame, or with frames that are to come and what is done
behind them. -/
inductive ViewerCall
  | live
  | sending (left : List PtyFrame) (closing : Option Emit)

/-- A viewer, with the terminal it looks at and what its transport reports. `made` is whether it has
subscribed, `subscription` what it has of a subscription. -/
structure Viewer (σ : Type) where
  terminal : Terminal σ
  writable : Bool
  made : Bool
  subscription : Option ViewerFlow
  call : Option ViewerCall

namespace Viewer

variable (em)

/-- Nobody has subscribed. -/
def new (streamId : ℕ) (size : Size) : Viewer σ :=
  { terminal := .new em streamId size
    writable := true
    made := false
    subscription := none
    call := none }

/-- It is paused if its transport is not writable. -/
def pauseFull (v : Viewer σ) : Viewer σ :=
  { v with subscription := v.subscription.map fun f =>
      if f.flow && !v.writable then { f with paused := true } else f }

/-- What is done behind the frames. -/
def close (v : Viewer σ) : Option Emit → Viewer σ
  | some (.register flow) =>
    let f : ViewerFlow :=
      { flow
        paused := flow && !v.terminal.ended && !v.writable
        missed := false }
    { v with subscription := some f }
  | some .settle => v.pauseFull
  | _ => v

/-- It is sent frames, one after the other. -/
def send (v : Viewer σ) (closing : Option Emit) : List PtyFrame → Viewer σ × List PtyFrame
  | [] => (v.close closing, [])
  | frame :: left => ({ v with call := some (.sending left closing) }, [frame])

/-- It is told a live frame. -/
def told (v : Viewer σ) (frame : PtyFrame) : Viewer σ × List PtyFrame :=
  if isTerminal frame then
    let gone := { v with
      terminal := v.terminal.exited frame.seq
      subscription := none }
    if v.subscription.isSome then ({ gone with call := some .live }, [frame]) else (gone, [])
  else
    match v.subscription with
    | none => (v, [])
    | some f =>
      if f.paused then ({ v with subscription := some { f with missed := true } }, [])
      else ({ v with call := some .live }, [frame])

/-- One event of its session, and the frames it gets. -/
def react (v : Viewer σ) : SessionEvent → Viewer σ × List PtyFrame
  | .terminal e =>
    let r := v.terminal.react em e
    let v := { v with
      terminal := r.1
      subscription := if r.1.disposed && !v.terminal.disposed then none else v.subscription }
    match r.2.2 with
    | none => (v, [])
    | some frame => v.told frame
  | .subscribe flow =>
    if v.made || v.terminal.disposed then (v, [])
    else
      { v with made := true }.send (some (.register flow))
        (v.terminal.snapshot em ++ if v.terminal.ended then [v.terminal.endedFrame] else [])
  | .unsubscribe _ => ({ v with subscription := none }, [])
  | .drain _ =>
    match v.subscription with
    | none => (v, [])
    | some f =>
      if !f.paused then (v, [])
      else
        let healed := { f with
          paused := false
          missed := false }
        let v := { v with subscription := some healed }
        if !f.missed then (v, []) else v.send (some .settle) (v.terminal.gap :: v.terminal.snapshot em)
  | .returned =>
    match v.call with
    | none => (v, [])
    | some .live => ({ v with call := none }.pauseFull, [])
    | some (.sending left closing) => { v with call := none }.send closing left
  | .threw => (v, [])
  | .turn _ writable => ({ v with writable }, [])

/-- An event that may not concern it. -/
def reactTo (v : Viewer σ) : Option SessionEvent → Viewer σ × List PtyFrame
  | none => (v, [])
  | some e => v.react em e

end Viewer

/-- A viewer as a machine. -/
def viewerMachine (em : Emulator σ) (streamId : ℕ) (size : Size) : Machine (Viewer σ) SessionEvent :=
  ⟨.new em streamId size, fun v e => (v.react em e).1⟩

/-! ## What its stream has come to -/

namespace Viewer

/-- The frames that are to come. -/
def left (v : Viewer σ) : List PtyFrame :=
  match v.call with
  | some (.sending left _) => left
  | _ => []

/-- What the stream of a viewer will have come to. -/
structure At (v : Viewer σ) (seen : Seen) : Prop where
  live : v.terminal.ended = false → ∀ f, v.subscription = some f → f.missed = false →
    ∃ first, seen = .upTo v.terminal.seq first
  missed : ∀ f, v.subscription = some f → f.missed = true →
    f.paused = true ∧ v.call.isNone = true ∧ ∃ seq first, seq < v.terminal.seq ∧ seen = .upTo seq first
  finished : v.terminal.ended = true → ∀ f, v.subscription = some f →
    f.paused = false ∧ f.missed = false ∧ v.call.isNone = true ∧ seen = .finished
  opening : ∀ left flow, v.call = some (.sending left (some (.register flow))) →
    v.subscription = none ∧ seen = if v.terminal.ended then .finished else .upTo v.terminal.seq true

/-- A viewer follows its stream: a fast one is never paused, and gets no gap. -/
structure Follows (slow : Bool) (v : Viewer σ) (frames : List PtyFrame) : Prop where
  fresh : v.made = false → frames = [] ∧ v.subscription = none ∧ v.call.isNone = true
  fast : slow = false → v.writable = true ∧ ∀ f, v.subscription = some f → f.paused = false
  stamped : v.terminal.ended = true → v.terminal.endedSeq = v.terminal.seq
  closing : ∀ left closing, v.call = some (.sending left closing) →
    closing = some .settle ∨ ∃ flow, closing = some (.register flow)
  stream : ∃ seen, follow slow .nothing (frames ++ v.left) = some seen ∧ v.At seen

variable {v : Viewer σ} {frames : List PtyFrame}

lemma follows_new (streamId : ℕ) (size : Size) :
    Follows slow (Viewer.new em streamId size) [] := by
  refine ⟨fun _ => ⟨rfl, rfl, rfl⟩, fun _ => ⟨rfl, fun f hf => ?_⟩, fun hended => ?_,
    fun left closing hcall => ?_, .nothing, rfl, fun _ f hf => ?_, fun f hf => ?_, fun hended => ?_,
    fun left flow hcall => ?_⟩
  · cases hf
  · cases hended
  · cases hcall
  · cases hf
  · cases hf
  · cases hended
  · cases hcall

lemma subscription_pauseFull {f : ViewerFlow} (h : v.pauseFull.subscription = some f) :
    ∃ f', v.subscription = some f' ∧ f.missed = f'.missed ∧
      (f.paused = f'.paused ∨ v.writable = false) := by
  rw [pauseFull] at h
  obtain ⟨f', hf', rfl⟩ := Option.map_eq_some_iff.1 h
  refine ⟨f', hf', ?_⟩
  split
  · next hfull =>
    rw [Bool.and_eq_true, Bool.not_eq_true'] at hfull
    exact ⟨rfl, Or.inr hfull.2⟩
  · exact ⟨rfl, Or.inl rfl⟩

lemma follows_register (hmade : v.made = true) (hcall : v.call = none) (hnone : v.subscription = none)
    (hfast : slow = false → v.writable = true)
    (hstamped : v.terminal.ended = true → v.terminal.endedSeq = v.terminal.seq) (flow : Bool)
    {left : List PtyFrame} (hfollow : follow slow .nothing (frames ++ left) =
      some (if v.terminal.ended then .finished else .upTo v.terminal.seq true)) :
    Follows slow (v.send (some (.register flow)) left).1
      (frames ++ (v.send (some (.register flow)) left).2) := by
  cases left with
  | cons frame left =>
    refine ⟨fun hfresh => ?_, fun hslow => ⟨hfast hslow, fun f hf => ?_⟩, hstamped,
      fun left' closing hsending => ?_, _, ?_, fun _ f hf => ?_, fun f hf => ?_, fun _ f hf => ?_,
      fun left' flow' _ => ⟨hnone, rfl⟩⟩
    · rw [show v.made = false from hfresh] at hmade
      cases hmade
    · rw [show v.subscription = some f from hf] at hnone
      cases hnone
    · cases hsending
      exact Or.inr ⟨flow, rfl⟩
    · rw [List.append_assoc]
      exact hfollow
    · rw [show v.subscription = some f from hf] at hnone
      cases hnone
    · rw [show v.subscription = some f from hf] at hnone
      cases hnone
    · rw [show v.subscription = some f from hf] at hnone
      cases hnone
  | nil =>
    have hleft : (v.send (some (.register flow)) []).1.left = [] := by
      show Viewer.left { v with subscription := _ } = []
      rw [Viewer.left, hcall]
    have hnocall : v.call.isNone = true := by rw [hcall]; rfl
    refine ⟨fun hfresh => ?_, fun hslow => ⟨hfast hslow, fun f hf => ?_⟩, hstamped,
      fun left' closing hsending => ?_, if v.terminal.ended then .finished else .upTo v.terminal.seq true, ?_,
      fun hlive f hf hmissed => ?_, fun f hf hmissed => ?_, fun hended f hf => ?_,
      fun left' flow' hsending => ?_⟩
    · rw [show v.made = false from hfresh] at hmade
      cases hmade
    · cases hf
      simp [hfast hslow]
    · rw [show v.call = some _ from hsending] at hcall
      cases hcall
    · rw [hleft]
      show follow slow .nothing ((frames ++ []) ++ []) = _
      rw [List.append_nil]
      exact hfollow
    · rw [if_neg (by rw [show v.terminal.ended = false from hlive]; simp)]
      exact ⟨true, rfl⟩
    · cases hf
      cases hmissed
    · have hended' : v.terminal.ended = true := hended
      cases hf
      refine ⟨by simp [hended'], rfl, hnocall, ?_⟩
      rw [if_pos hended']
    · rw [show v.call = some _ from hsending] at hcall
      cases hcall

lemma follows_settle (hmade : v.made = true) (hcall : v.call = none)
    (hsubscribed : ∀ f, v.subscription = some f → f.missed = false ∧ v.terminal.ended = false)
    (hfast : slow = false → v.writable = true ∧ ∀ f, v.subscription = some f → f.paused = false)
    (hstamped : v.terminal.ended = true → v.terminal.endedSeq = v.terminal.seq)
    {left : List PtyFrame} {seen : Seen} (hfollow : follow slow .nothing (frames ++ left) = some seen)
    (hseen : ∀ f, v.subscription = some f → ∃ first, seen = .upTo v.terminal.seq first) :
    Follows slow (v.send (some .settle) left).1 (frames ++ (v.send (some .settle) left).2) := by
  cases left with
  | cons frame left =>
    refine ⟨fun hfresh => ?_, hfast, hstamped, fun left' closing hsending => ?_, seen, ?_,
      fun _ f hf _ => hseen f hf, fun f hf hmissed => ?_, fun hended f hf => ?_,
      fun left' flow' hsending => ?_⟩
    · rw [show v.made = false from hfresh] at hmade
      cases hmade
    · cases hsending
      exact Or.inl rfl
    · rw [List.append_assoc]
      exact hfollow
    · rw [(hsubscribed f hf).1] at hmissed
      cases hmissed
    · rw [show v.terminal.ended = true from hended] at hsubscribed
      cases (hsubscribed f hf).2
    · cases hsending
  | nil =>
    have hleft : (v.send (some .settle) []).1.left = [] := by
      show v.pauseFull.left = []
      rw [Viewer.left, show v.pauseFull.call = none from hcall]
    refine ⟨fun hfresh => ?_, fun hslow => ⟨(hfast hslow).1, fun f hf => ?_⟩, hstamped,
      fun left' closing hsending => ?_, seen, ?_, fun hlive f hf hmissed => ?_, fun f hf hmissed => ?_,
      fun hended f hf => ?_, fun left' flow' hsending => ?_⟩
    · rw [show v.made = false from hfresh] at hmade
      cases hmade
    · obtain ⟨f', hf', -, hpaused | hfull⟩ := subscription_pauseFull hf
      · exact hpaused.trans ((hfast hslow).2 f' hf')
      · rw [(hfast hslow).1] at hfull
        cases hfull
    · rw [show v.call = some _ from hsending] at hcall
      cases hcall
    · rw [hleft]
      show follow slow .nothing ((frames ++ []) ++ []) = _
      rw [List.append_nil]
      exact hfollow
    · obtain ⟨f', hf', -⟩ := subscription_pauseFull hf
      exact hseen f' hf'
    · obtain ⟨f', hf', hsame, -⟩ := subscription_pauseFull hf
      rw [hsame, (hsubscribed f' hf').1] at hmissed
      cases hmissed
    · obtain ⟨f', hf', -⟩ := subscription_pauseFull hf
      have hlive := (hsubscribed f' hf').2
      rw [show v.terminal.ended = true from hended] at hlive
      cases hlive
    · rw [show v.call = some _ from hsending] at hcall
      cases hcall

/-- The terminal shows what it showed, and the subscription is what it was or is over. -/
lemma Follows.still (h : Follows slow v frames) {t : Terminal σ} (ht : Terminal.Still v.terminal t)
    {subscription : Option ViewerFlow}
    (hsub : ∀ f, subscription = some f → v.subscription = some f) :
    Follows slow { v with terminal := t, subscription } frames := by
  obtain ⟨seen, hfollow, hat⟩ := h.stream
  refine ⟨fun hfresh => ?_, fun hslow => ⟨(h.fast hslow).1, fun f hf => (h.fast hslow).2 f (hsub f hf)⟩,
    fun hended => ?_, h.closing, seen, hfollow, fun hlive f hf hmissed => ?_, fun f hf hmissed => ?_,
    fun hended f hf => hat.finished (ht.ended ▸ hended) f (hsub f hf), fun left flow hcall => ?_⟩
  · obtain ⟨hframes, hnone, hcall⟩ := h.fresh hfresh
    refine ⟨hframes, ?_, hcall⟩
    cases subscription with
    | none => rfl
    | some f => exact absurd (hsub f rfl) (by rw [hnone]; simp)
  · rw [ht.endedSeq, ht.seq]
    exact h.stamped (ht.ended ▸ hended)
  · rw [ht.seq]
    exact hat.live (ht.ended ▸ hlive) f (hsub f hf) hmissed
  · rw [ht.seq]
    exact hat.missed f (hsub f hf) hmissed
  · obtain ⟨hnone, hseen⟩ := hat.opening left flow hcall
    rw [ht.ended, ht.seq]
    refine ⟨?_, hseen⟩
    cases subscription with
    | none => rfl
    | some f => exact absurd (hsub f rfl) (by rw [hnone]; simp)

lemma Follows.told (h : Follows slow v frames) (hcall : v.call = none) {t : Terminal σ}
    {frame : PtyFrame} (hseq : frame.seq = v.terminal.seq + 1) (hnext : t.seq = v.terminal.seq + 1)
    (hlive : v.terminal.ended = false) (ht : t.ended = false)
    (hopcode : frame.opcode = PtyOpcode.output ∨ frame.opcode = PtyOpcode.resized ∨
      frame.opcode = PtyOpcode.ended) :
    Follows slow (Viewer.told { v with terminal := t } frame).1
      (frames ++ (Viewer.told { v with terminal := t } frame).2) := by
  obtain ⟨seen, hfollow, hat⟩ := h.stream
  rw [Viewer.left, hcall, List.append_nil] at hfollow
  have hmade : ∀ f, v.subscription = some f → v.made ≠ false := fun f hf hfresh => by
    rw [(h.fresh hfresh).2.1] at hf
    cases hf
  rw [Viewer.told]
  dsimp only
  by_cases hterminal : isTerminal frame = true
  · have hended : frame.opcode = PtyOpcode.ended := of_decide_eq_true hterminal
    rw [if_pos hterminal]
    cases hsub : v.subscription with
    | none =>
      rw [if_neg (by simp)]
      refine ⟨fun hfresh => ?_, fun hslow => ⟨(h.fast hslow).1, fun f hf => ?_⟩, fun _ => ?_, h.closing,
        seen, ?_, fun hlive => ?_, fun f hf => ?_, fun _ f hf => ?_, fun left flow hsending => ?_⟩
      · obtain ⟨hframes, -, hnocall⟩ := h.fresh hfresh
        exact ⟨by rw [hframes]; rfl, rfl, hnocall⟩
      · cases hf
      · exact hseq.trans hnext.symm
      · rw [Viewer.left, hcall, List.append_nil, List.append_nil]
        exact hfollow
      · cases hlive
      · cases hf
      · cases hf
      · rw [show v.call = some _ from hsending] at hcall
        cases hcall
    | some f =>
      rw [if_pos (by simp)]
      have hcomes : follow slow seen [frame] = some .finished := by
        cases hmissed : f.missed with
        | false =>
          obtain ⟨first, rfl⟩ := hat.live hlive f hsub hmissed
          simp [follow_cons, Seen.next, hended, PtyOpcode.ended, PtyOpcode.output, PtyOpcode.resized,
            PtyOpcode.gap, hseq]
        | true =>
          obtain ⟨hpaused, -, seq, first, hlt, rfl⟩ := hat.missed f hsub hmissed
          have hslow : slow = true := by
            by_contra hfast
            rw [Bool.not_eq_true] at hfast
            rw [(h.fast hfast).2 f hsub] at hpaused
            cases hpaused
          have hskips : seq < frame.seq := by omega
          simp [follow_cons, Seen.next, hended, PtyOpcode.ended, PtyOpcode.output, PtyOpcode.resized,
            PtyOpcode.gap, hslow, hskips]
      refine ⟨fun hfresh => absurd hfresh (hmade f hsub), fun hslow => ⟨(h.fast hslow).1, fun f hf => ?_⟩,
        fun _ => ?_, fun left closing hsending => ?_, .finished, ?_, fun hlive => ?_, fun f hf => ?_,
        fun _ f hf => ?_, fun left flow hsending => ?_⟩
      · cases hf
      · exact hseq.trans hnext.symm
      · cases hsending
      · show follow slow .nothing ((frames ++ [frame]) ++ []) = _
        rw [List.append_nil, follow_append, hfollow]
        exact hcomes
      · cases hlive
      · cases hf
      · cases hf
      · cases hsending
  · rw [if_neg hterminal]
    have hlives : frame.opcode = PtyOpcode.output ∨ frame.opcode = PtyOpcode.resized := by
      rcases hopcode with hop | hop | hop
      · exact Or.inl hop
      · exact Or.inr hop
      · exact absurd (decide_eq_true hop) hterminal
    cases hsub : v.subscription with
    | none =>
      refine ⟨fun hfresh => ?_, fun hslow => ⟨(h.fast hslow).1, fun f hf => ?_⟩, fun hended => ?_,
        h.closing, seen, ?_, fun _ f hf => ?_, fun f hf => ?_, fun _ f hf => ?_,
        fun left flow hsending => ?_⟩
      · obtain ⟨hframes, -, hnocall⟩ := h.fresh hfresh
        exact ⟨by rw [hframes]; rfl, rfl, hnocall⟩
      · cases hf
      · rw [show t.ended = true from hended] at ht
        cases ht
      · rw [Viewer.left, hcall, List.append_nil, List.append_nil]
        exact hfollow
      · cases hf
      · cases hf
      · cases hf
      · rw [show v.call = some _ from hsending] at hcall
        cases hcall
    | some f =>
      dsimp only
      by_cases hpaused : f.paused = true
      · have hslow : slow = true := by
          by_contra hfast
          rw [Bool.not_eq_true] at hfast
          rw [(h.fast hfast).2 f hsub] at hpaused
          cases hpaused
        have hbehind : ∃ seq first, seq < t.seq ∧ seen = .upTo seq first := by
          cases hmissed : f.missed with
          | false =>
            obtain ⟨first, rfl⟩ := hat.live hlive f hsub hmissed
            exact ⟨_, first, by omega, rfl⟩
          | true =>
            obtain ⟨-, -, seq, first, hlt, rfl⟩ := hat.missed f hsub hmissed
            exact ⟨seq, first, by omega, rfl⟩
        have hnocall : v.call.isNone = true := by rw [hcall]; rfl
        rw [if_pos hpaused]
        refine ⟨fun hfresh => absurd hfresh (hmade f hsub), fun hfast => ?_, fun hended => ?_, h.closing,
          seen, ?_, fun _ f' hf' hmissed => ?_, fun f' hf' _ => ?_, fun hended => ?_,
          fun left flow hsending => ?_⟩
        · rw [hslow] at hfast
          cases hfast
        · rw [show t.ended = true from hended] at ht
          cases ht
        · rw [Viewer.left, hcall, List.append_nil, List.append_nil]
          exact hfollow
        · cases hf'
          cases hmissed
        · cases hf'
          exact ⟨hpaused, hnocall, hbehind⟩
        · rw [show t.ended = true from hended] at ht
          cases ht
        · rw [show v.call = some _ from hsending] at hcall
          cases hcall
      · rw [if_neg hpaused]
        have hmissed : f.missed = false := by
          by_contra hmissed
          rw [Bool.not_eq_false] at hmissed
          exact hpaused (hat.missed f hsub hmissed).1
        obtain ⟨first, rfl⟩ := hat.live hlive f hsub hmissed
        have hcomes : follow slow (.upTo v.terminal.seq first) [frame] = some (.upTo t.seq false) := by
          rw [follow_cons, Seen.next, if_pos hlives, if_pos hseq, hnext]
          rfl
        refine ⟨fun hfresh => absurd hfresh (hmade f hsub), fun hfast => ⟨(h.fast hfast).1, fun f' hf' => ?_⟩,
          fun hended => ?_, fun left closing hsending => ?_, .upTo t.seq false, ?_,
          fun _ f' hf' _ => ⟨false, rfl⟩, fun f' hf' hmissed' => ?_, fun hended => ?_,
          fun left flow hsending => ?_⟩
        · exact (h.fast hfast).2 f' (hsub.trans hf')
        · rw [show t.ended = true from hended] at ht
          cases ht
        · cases hsending
        · show follow slow .nothing ((frames ++ [frame]) ++ []) = _
          rw [List.append_nil, follow_append, hfollow]
          exact hcomes
        · cases hf'
          rw [hmissed] at hmissed'
          cases hmissed'
        · rw [show t.ended = true from hended] at ht
          cases ht
        · cases hsending

/-- What an event brings keeps the stream of a viewer in order, as long as nothing is told to everyone
while its sink runs. -/
lemma Follows.react (h : Follows slow v frames) {e : SessionEvent}
    (hquiet : v.call ≠ none → ∀ t, e = .terminal t → v.terminal.IsQuiet em t)
    (hfast : slow = false → ∀ number, e ≠ .turn number false) :
    Follows slow (v.react em e).1 (frames ++ (v.react em e).2) := by
  cases e with
  | terminal e =>
    rw [Viewer.react]
    cases hframe : (v.terminal.react em e).2.2 with
    | none =>
      rw [List.append_nil]
      refine h.still (Terminal.still_react hframe) fun f hf => ?_
      split at hf
      · cases hf
      · exact hf
    | some frame =>
      have hcall : v.call = none := by
        by_contra hcall
        have hnone := (hquiet hcall e rfl).1
        rw [hframe] at hnone
        cases hnone
      obtain ⟨hseq, hnext, hlive, -, hended, hdisposed, hopcode⟩ := Terminal.react_live hframe
      have htold := h.told hcall hseq hnext hlive hended hopcode
      rw [hdisposed]
      exact htold
  | subscribe flow =>
    rw [Viewer.react]
    by_cases hrefused : (v.made || v.terminal.disposed) = true
    · rw [if_pos hrefused, List.append_nil]
      exact h
    · rw [if_neg hrefused]
      rw [Bool.or_eq_true, not_or, Bool.not_eq_true] at hrefused
      obtain ⟨rfl, hnone, hcall⟩ := h.fresh hrefused.1
      refine follows_register (v := { v with made := true }) rfl (Option.isNone_iff_eq_none.1 hcall) hnone
        (fun hslow => (h.fast hslow).1) h.stamped flow ?_
      rw [List.nil_append, follow_append, follow_snapshot_nothing]
      show follow slow (.upTo v.terminal.seq true) (if v.terminal.ended then [v.terminal.endedFrame] else []) = _
      by_cases hended : v.terminal.ended = true
      · rw [if_pos hended, if_pos hended]
        simp [follow_cons, Seen.next, Terminal.endedFrame, Terminal.frameAt, PtyOpcode.ended,
          PtyOpcode.output, PtyOpcode.resized, PtyOpcode.gap, h.stamped hended]
      · rw [if_neg hended, if_neg hended]
        rfl
  | unsubscribe number =>
    rw [Viewer.react, List.append_nil]
    exact h.still (.refl _) fun f hf => by cases hf
  | drain number =>
    rw [Viewer.react]
    obtain ⟨seen, hfollow, hat⟩ := h.stream
    cases hsub : v.subscription with
    | none =>
      dsimp only
      rw [List.append_nil]
      exact h
    | some f =>
      dsimp only
      by_cases hpaused : f.paused = true
      · rw [if_neg (by rw [hpaused]; simp)]
        have hlive : v.terminal.ended = false := by
          by_contra hended
          rw [Bool.not_eq_false] at hended
          rw [(hat.finished hended f hsub).1] at hpaused
          cases hpaused
        have hmade : v.made = true := by
          by_contra hfresh
          rw [Bool.not_eq_true] at hfresh
          rw [(h.fresh hfresh).2.1] at hsub
          cases hsub
        have hslow : slow = true := by
          by_contra hslow
          rw [Bool.not_eq_true] at hslow
          rw [(h.fast hslow).2 f hsub] at hpaused
          cases hpaused
        subst hslow
        cases hmissed : f.missed with
        | false =>
          have hseen := hat.live hlive f hsub hmissed
          rw [if_pos (by simp), List.append_nil]
          refine ⟨fun hfresh => ?_, fun hslow => ?_, h.stamped, h.closing, seen, hfollow, fun _ _ _ _ => hseen,
            fun f' hf' hmissed' => ?_, fun hended => ?_, fun left flow hsending => ?_⟩
          · rw [show v.made = false from hfresh] at hmade
            cases hmade
          · cases hslow
          · cases hf'
            cases hmissed'
          · rw [show v.terminal.ended = true from hended] at hlive
            cases hlive
          · rw [(hat.opening left flow hsending).1] at hsub
            cases hsub
        | true =>
          obtain ⟨-, hcall, seq, first, hbehind, rfl⟩ := hat.missed f hsub hmissed
          rw [Option.isNone_iff_eq_none] at hcall
          rw [Viewer.left, hcall, List.append_nil] at hfollow
          have hheals : follow true .nothing (frames ++ v.terminal.gap :: v.terminal.snapshot em) =
              some (.upTo v.terminal.seq false) := by
            rw [follow_append, hfollow]
            exact follow_gap v.terminal hbehind
          rw [if_neg (by simp)]
          refine follows_settle
            (v := { v with subscription := some { f with paused := false, missed := false } })
            hmade hcall (fun f' hf' => ?_) (fun hslow => ?_) h.stamped hheals fun _ _ => ⟨false, rfl⟩
          · cases hf'
            exact ⟨rfl, hlive⟩
          · cases hslow
      · rw [if_pos (by simpa using hpaused), List.append_nil]
        exact h
  | returned =>
    rw [Viewer.react]
    obtain ⟨seen, hfollow, hat⟩ := h.stream
    cases hcall : v.call with
    | none =>
      dsimp only
      rw [List.append_nil]
      exact h
    | some call =>
      have hmade : v.made = true := by
        by_contra hfresh
        rw [Bool.not_eq_true] at hfresh
        have hnocall := (h.fresh hfresh).2.2
        rw [hcall] at hnocall
        cases hnocall
      have hsubscribed : ∀ f, v.subscription = some f → f.missed = false ∧ v.terminal.ended = false := by
        intro f hf
        constructor
        · by_contra hmissed
          rw [Bool.not_eq_false] at hmissed
          have hnocall := (hat.missed f hf hmissed).2.1
          rw [hcall] at hnocall
          cases hnocall
        · by_contra hended
          rw [Bool.not_eq_false] at hended
          have hnocall := (hat.finished hended f hf).2.2.1
          rw [hcall] at hnocall
          cases hnocall
      have hseen : ∀ f, v.subscription = some f → ∃ first, seen = .upTo v.terminal.seq first :=
        fun f hf => hat.live (hsubscribed f hf).2 f hf (hsubscribed f hf).1
      cases call with
      | live =>
        rw [Viewer.left, hcall] at hfollow
        exact follows_settle (v := { v with call := none }) hmade rfl hsubscribed h.fast h.stamped hfollow
          hseen
      | sending left closing =>
        rw [Viewer.left, hcall] at hfollow
        rcases h.closing left closing hcall with rfl | ⟨flow, rfl⟩
        · exact follows_settle (v := { v with call := none }) hmade rfl hsubscribed h.fast h.stamped
            hfollow hseen
        · obtain ⟨hnone, rfl⟩ := hat.opening left flow hcall
          exact follows_register (v := { v with call := none }) hmade rfl hnone
            (fun hslow => (h.fast hslow).1) h.stamped flow hfollow
  | threw =>
    rw [Viewer.react, List.append_nil]
    exact h
  | turn number writable =>
    rw [Viewer.react, List.append_nil]
    obtain ⟨seen, hfollow, hat⟩ := h.stream
    refine ⟨h.fresh, fun hslow => ⟨?_, (h.fast hslow).2⟩, h.stamped, h.closing, seen, hfollow, hat.live,
      hat.missed, hat.finished, hat.opening⟩
    cases writable with
    | true => rfl
    | false => exact absurd rfl (hfast hslow number)

end Viewer

end Pherry.Host
