import Pherry.Sdk.StreamContract

/-!
# What a host can do to a controller

The frame handler of a controller parses whatever the host sends. Its exceptions go back to the channel,
which has them thrown again where nobody catches them.
-/

namespace Pherry.Protocol

/-- The payload is as long as what its opcode has it read. -/
def PtyFrame.fits (frame : PtyFrame) : Bool :=
  if frame.opcode = PtyOpcode.snapshotStart ∨ frame.opcode = PtyOpcode.resized then
    4 ≤ frame.payload.length
  else if frame.opcode = PtyOpcode.ended then frame.payload = [] ∨ 4 ≤ frame.payload.length
  else true

lemma isNone_decodeSizePayload (bytes : Bytes) :
    (decodeSizePayload bytes).isNone = !decide (4 ≤ bytes.length) := by
  match bytes with
  | [] => rfl
  | [_] => rfl
  | [_, _] => rfl
  | [_, _, _] => rfl
  | c0 :: c1 :: r0 :: r1 :: rest => simp [decodeSizePayload]

lemma isNone_decodeExitPayload (bytes : Bytes) :
    (decodeExitPayload bytes).isNone = !decide (bytes = [] ∨ 4 ≤ bytes.length) := by
  match bytes with
  | [] => rfl
  | [_] => rfl
  | [_, _] => rfl
  | [_, _, _] => rfl
  | b0 :: b1 :: b2 :: b3 :: rest => simp [decodeExitPayload]

end Pherry.Protocol

namespace Pherry.Sdk

open Lib Protocol

lemma PtyEventStream.isNone_ingest (s : PtyEventStream) (frame : PtyFrame) :
    (s.ingest frame).isNone = !frame.fits := by
  have hbind : ∀ {α β : Type} (x : Option α) (f : α → β), (x.bind fun a => some (f a)).isNone = x.isNone := by
    intro α β x f
    cases x <;> rfl
  unfold PtyEventStream.ingest PtyFrame.fits
  by_cases hstart : frame.opcode = PtyOpcode.snapshotStart
  · rw [if_pos hstart, if_pos (Or.inl hstart)]
    exact (hbind _ _).trans (isNone_decodeSizePayload frame.payload)
  rw [if_neg hstart]
  by_cases hresized : frame.opcode = PtyOpcode.resized
  · rw [if_pos (Or.inr hresized), if_neg (by simp [hresized, PtyOpcode.resized, PtyOpcode.snapshotChunk]),
      if_neg (by simp [hresized, PtyOpcode.resized, PtyOpcode.snapshotEnd]),
      if_neg (by simp [hresized, PtyOpcode.resized, PtyOpcode.output]), if_pos hresized]
    exact (hbind _ _).trans (isNone_decodeSizePayload frame.payload)
  rw [if_neg (not_or.2 ⟨hstart, hresized⟩)]
  by_cases hended : frame.opcode = PtyOpcode.ended
  · rw [if_pos hended, if_neg (by simp [hended, PtyOpcode.ended, PtyOpcode.snapshotChunk]),
      if_neg (by simp [hended, PtyOpcode.ended, PtyOpcode.snapshotEnd]),
      if_neg (by simp [hended, PtyOpcode.ended, PtyOpcode.output]), if_neg hresized, if_pos hended]
    exact (hbind _ _).trans (isNone_decodeExitPayload frame.payload)
  rw [if_neg hended, if_neg hresized, if_neg hended]
  split
  · rfl
  split
  · rfl
  split
  · rfl
  split <;> rfl

namespace Controller

variable (o : ControllerOptions)

/-- The frame handler leaves with an exception: of a codec, or of a listener that throws. -/
def throws (s : Controller) : ControllerEvent → Bool
  | .binary payload =>
    s.sessionId.isSome && (decodePtyFrame payload).any fun frame =>
      (s.streamsById.get frame.streamId).any fun k =>
        s.streams[k]?.any fun stream => (stream.ingest frame).isNone
  | .callReturned .threw =>
    match s.calls with
    | .listeners _ _ :: _ => true
    | _ => false
  | _ => false

/-- A frame whose payload is too short goes to no stream, and a listener does not throw. -/
def isSound (s : Controller) : ControllerEvent → Bool
  | .binary payload =>
    s.sessionId.isNone || (decodePtyFrame payload).all fun frame =>
      frame.fits || (s.streamsById.get frame.streamId).all fun k => s.streams[k]?.isNone
  | .callReturned .threw =>
    match s.calls with
    | .listeners _ _ :: _ => false
    | _ => true
  | _ => true

/-- A frame that is none: not a HelloAck where one is awaited, not a response behind it, not a PTY
frame, or one whose payload is too short. -/
def isMalformed (s : Controller) : ControllerEvent → Bool
  | .control payload =>
    if s.awaitingHelloAck then (o.parseHelloAck payload).isNone else (o.parseResponse payload).isNone
  | .binary payload => (decodePtyFrame payload).all fun frame => !frame.fits
  | _ => false

/-- A malformed frame that is dropped: any but a malformed HelloAck. -/
def drops (s : Controller) (e : ControllerEvent) : Bool :=
  s.isMalformed o e && match e with
    | .control _ => !s.awaitingHelloAck
    | _ => true

variable {o} {s : Controller} {e : ControllerEvent}

lemma throws_eq (s : Controller) (e : ControllerEvent) : s.throws e = !s.isSound e := by
  cases e with
  | binary payload =>
    rw [throws, isSound]
    cases s.sessionId with
    | none => rfl
    | some id =>
      cases decodePtyFrame payload with
      | none => rfl
      | some frame =>
        rw [Option.any_some, Option.all_some]
        cases s.streamsById.get frame.streamId with
        | none => simp
        | some k =>
          rw [Option.any_some, Option.all_some]
          cases s.streams[k]? with
          | none => simp
          | some stream => simp [stream.isNone_ingest frame]
  | callReturned outcome =>
    cases outcome with
    | threw =>
      rw [throws, isSound]
      split <;> rfl
    | _ => rfl
  | _ => rfl

lemma react_of_drops (h : s.drops o e = true) : s.react o e = (s, []) := by
  unfold drops at h
  obtain ⟨hmalformed, hdropped⟩ := Bool.and_eq_true_iff.1 h
  cases e with
  | control payload =>
    rw [Bool.not_eq_true'] at hdropped
    rw [isMalformed, hdropped] at hmalformed
    have hparse : o.parseResponse payload = none := Option.isNone_iff_eq_none.1 hmalformed
    rw [react, onControl, hdropped, hparse]
    exact ite_self _
  | binary payload =>
    have hquiet : s.onBinary payload = (s, []) := by
      unfold onBinary
      rw [isMalformed] at hmalformed
      split
      · rfl
      next frame hdecode =>
      rw [hdecode, Option.all_some, Bool.not_eq_true'] at hmalformed
      split
      · rfl
      next k _ =>
      unfold ingest
      split
      · rfl
      next stream _ =>
      have hnone := stream.isNone_ingest frame
      rw [hmalformed] at hnone
      rw [Option.isNone_iff_eq_none.1 hnone]
    rw [react, hquiet]
    exact ite_self _
  | _ => cases hmalformed

lemma react_of_malformed (h : s.isMalformed o e = true) : (s.react o e).1.streams = s.streams ∧
    (s.react o e).1.streamsById = s.streamsById ∧ (s.react o e).1.requests = s.requests ∧
    (s.react o e).1.pending = s.pending ∧ (s.react o e).2 = [] := by
  by_cases hdrops : s.drops o e = true
  · rw [react_of_drops hdrops]
    exact ⟨rfl, rfl, rfl, rfl, rfl⟩
  · cases e with
    | control payload =>
      -- what is not dropped is read as a HelloAck, which concerns the negotiation alone
      have hawaiting : s.awaitingHelloAck = true := by
        unfold drops at hdrops
        rw [h] at hdrops
        simpa using hdrops
      rw [react, onControl, if_pos hawaiting, handleHelloAck]
      split
      · split <;> exact ⟨rfl, rfl, rfl, rfl, rfl⟩
      · exact ⟨rfl, rfl, rfl, rfl, rfl⟩
    | binary payload =>
      unfold drops at hdrops
      rw [h] at hdrops
      exact absurd rfl hdrops
    | _ => cases h

lemma listeners_of_ingest {k : ℕ} {stream stream' : PtyEventStream} {settled : Settled}
    {event : PtyEvent} {payload : Bytes} {frame : PtyFrame} (hopen : s.sessionId.isSome = true)
    (hdecode : decodePtyFrame payload = some frame) (hroute : s.streamsById.get frame.streamId = some k)
    (hstream : s.streams[k]? = some stream)
    (hingest : stream.ingest frame = some (stream', settled, some event))
    (hended : stream'.ended = false) :
    .listeners k event ∈ (s.react o (.binary payload)).2 := by
  rw [react, if_pos hopen, onBinary, hdecode]
  dsimp only
  rw [hroute]
  dsimp only
  rw [ingest, hstream]
  dsimp only
  rw [hingest]
  dsimp only
  rw [hended]
  exact List.mem_append_right _ List.mem_cons_self

end Controller

/-! ## Runs -/

variable (o : ControllerOptions)

/-- A run without the frames that are dropped. -/
def heeded (es : List ControllerEvent) : List ControllerEvent :=
  (controllerMachine o).outputs (fun s e => if s.drops o e then [] else [e]) es

/-- What a controller does to the outside over a run. -/
def effectsOf (es : List ControllerEvent) : List ControllerEffect :=
  (controllerMachine o).outputs (fun s e => (s.react o e).2) es

variable {o}

/-- **Noninterference.** Without the frames that are dropped a run comes to the same state and does the
same. -/
theorem run_heeded (es : List ControllerEvent) :
    (controllerMachine o).run (heeded o es) = (controllerMachine o).run es ∧
      effectsOf o (heeded o es) = effectsOf o es := by
  induction es using List.reverseRecOn with
  | nil => exact ⟨rfl, rfl⟩
  | append_singleton es e ih =>
    have hheeded : heeded o (es ++ [e]) = heeded o es ++
        if ((controllerMachine o).run es).drops o e then [] else [e] := Machine.outputs_snoc _ _ es e
    have heffects : effectsOf o (es ++ [e]) = effectsOf o es ++
        (((controllerMachine o).run es).react o e).2 := Machine.outputs_snoc _ _ es e
    rw [hheeded, heffects, Machine.run_snoc]
    by_cases hdrops : ((controllerMachine o).run es).drops o e = true
    · have hreact := Controller.react_of_drops hdrops
      rw [if_pos hdrops, List.append_nil, hreact, List.append_nil]
      refine ⟨ih.1.trans ?_, ih.2⟩
      exact (congrArg Prod.fst hreact).symm
    · rw [if_neg hdrops, Machine.run_snoc, ih.1, ← ih.2, effectsOf, Machine.outputs_snoc, ih.1]
      exact ⟨rfl, rfl⟩

variable (o)

/-- The handler returns from every frame; malformed ones change no stream and no pending request; and
the others come to their streams as if there were no malformed ones. -/
structure Withstands (es : List ControllerEvent) : Prop where
  returns : ∀ pre e post, es = pre ++ e :: post → ((controllerMachine o).run pre).throws e = false
  malformed : ∀ pre e post, es = pre ++ e :: post →
    ((controllerMachine o).run pre).isMalformed o e = true →
      ((controllerMachine o).run (pre ++ [e])).streams = ((controllerMachine o).run pre).streams ∧
      ((controllerMachine o).run (pre ++ [e])).requests = ((controllerMachine o).run pre).requests ∧
      ((controllerMachine o).run (pre ++ [e])).pending = ((controllerMachine o).run pre).pending
  delivered : ∀ pre payload post, es = pre ++ .binary payload :: post →
    ((controllerMachine o).run pre).sessionId.isSome = true →
    ∀ frame, decodePtyFrame payload = some frame →
    ∀ k, ((controllerMachine o).run pre).streamsById.get frame.streamId = some k →
    ∀ stream, ((controllerMachine o).run pre).streams[k]? = some stream →
    ∀ stream' settled event, stream.ingest frame = some (stream', settled, some event) →
      stream'.ended = false → .listeners k event ∈ effectsOf o (pre ++ [.binary payload])
  undisturbed : (controllerMachine o).run (heeded o es) = (controllerMachine o).run es ∧
    effectsOf o (heeded o es) = effectsOf o es

/-- **A controller withstands its host** exactly as long as no frame for one of its streams has a
payload that is too short for its opcode, and no listener throws. -/
theorem withstands_iff (es : List ControllerEvent) :
    Withstands o es ↔ (controllerMachine o).Meets (fun s e => s.isSound e = true) es := by
  constructor
  · intro h pre e post hes
    have hreturns := h.returns pre e post hes
    rw [Controller.throws_eq, Bool.not_eq_false'] at hreturns
    exact hreturns
  · intro h
    refine ⟨fun pre e post hes => ?_, fun pre e post _ hmalformed => ?_,
      fun pre payload post _ hopen frame hdecode k hroute stream hstream stream' settled event hingest
        hended => ?_, run_heeded es⟩
    · rw [Controller.throws_eq, h pre e post hes]
      rfl
    · obtain ⟨hstreams, -, hrequests, hpending, -⟩ := Controller.react_of_malformed hmalformed
      rw [Machine.run_snoc]
      exact ⟨hstreams, hrequests, hpending⟩
    · rw [effectsOf, Machine.outputs_snoc]
      exact List.mem_append_right _
        (Controller.listeners_of_ingest hopen hdecode hroute hstream hingest hended)

/-- A host that acks a subscription and then sends the start of a snapshot without a size. -/
def shortSnapshot : List ControllerEvent :=
  subscribedOnce ++ [.binary (encodePtyFrame
    { opcode := PtyOpcode.snapshotStart
      streamId := 0
      seq := 0
      payload := [] })]

/-- The codec throws, and nothing catches it. -/
theorem not_withstands_shortSnapshot : ¬ ∀ o es, Withstands o es := by
  intro h
  have hreturns := (h streamingOptions shortSnapshot).returns subscribedOnce _ [] rfl
  have hthrows : ((controllerMachine streamingOptions).run subscribedOnce).throws
      (.binary (encodePtyFrame
        { opcode := PtyOpcode.snapshotStart
          streamId := 0
          seq := 0
          payload := [] })) = true := by decide
  rw [hthrows] at hreturns
  cases hreturns

end Pherry.Sdk
