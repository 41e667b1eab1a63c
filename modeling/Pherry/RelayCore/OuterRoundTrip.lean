import Pherry.RelayCore.DataConnection
import Pherry.RelayCore.OuterCodec

/-!
# The outer stream is read back

A stream is the frames of some messages and, for a data connection, the frame of `data-ready` and
the raw bytes behind it. `Sound` is the invariant of a connection that has received a part of one;
it is stated about the bytes still to come, so that a chunk may end anywhere.
-/

namespace Pherry.RelayCore

open Lib

variable {η ε : Type*}

/-! ## Streams and consumers -/

/-- The bytes of a stream: messages and, if there is one, the raw part behind its `data-ready`. -/
def encodeStream : List OuterMessage → Option Bytes → Option Bytes
  | [], none => some []
  | [], some data => (encodeOuterMessage .dataReady).map fun frame => frame ++ data
  | m :: messages, tail =>
    match encodeOuterMessage m, encodeStream messages tail with
    | some frame, some rest => some (frame ++ rest)
    | _, _ => none

/-- A consumer that reads a stream of `messages` to its end: its handlers return and leave the
connection open, and it switches to the raw phase in the handler of `data-ready` and nowhere else.
`reading` are its states before that. -/
structure Consumer.Orderly (consumer : Consumer η ε) (reading : η → Prop)
    (messages : List OuterMessage) : Prop where
  reads : ∀ state, reading state → ∀ m ∈ messages,
    reading (consumer.onMessage state m).consumer ∧ (consumer.onMessage state m).threw = false ∧
      Call.close ∉ (consumer.onMessage state m).calls ∧
      Call.toRaw ∉ (consumer.onMessage state m).calls
  switches : ∀ state, reading state →
    (consumer.onMessage state .dataReady).threw = false ∧
      Call.close ∉ (consumer.onMessage state .dataReady).calls ∧
      Call.toRaw ∈ (consumer.onMessage state .dataReady).calls

/-- What the consumer may do of its own accord meanwhile: anything but close or switch. -/
def Consumer.Passive (consumer : Consumer η ε) (reading : η → Prop) (e : ε) : Prop :=
  ∀ state, (reading state → reading (consumer.onEvent state e).1) ∧
    Call.close ∉ (consumer.onEvent state e).2 ∧ Call.toRaw ∉ (consumer.onEvent state e).2

/-- The bytes an event brings. -/
def Endpoint.Event.bytes : Endpoint.Event ε → Bytes
  | .receive chunk => chunk
  | .own _ => []

/-- What was received in a run. -/
def received (es : List (Endpoint.Event ε)) : Bytes := es.flatMap Endpoint.Event.bytes

/-- The bytes that some messages and a raw part are encoded as, frame by frame. -/
inductive Stream (decode : Bytes → Option OuterMessage) : List OuterMessage → Option Bytes → Bytes → Prop
  | nil : Stream decode [] none []
  | ready {payload : Bytes} (hcap : payload.length ≤ maxOuterMessageBytes)
      (hdecode : decode payload = some .dataReady) (data : Bytes) :
      Stream decode [] (some data) (outerFrame payload ++ data)
  | cons {payload : Bytes} {m : OuterMessage} {messages : List OuterMessage} {tail : Option Bytes}
      {rest : Bytes} (hcap : payload.length ≤ maxOuterMessageBytes)
      (hdecode : decode payload = some m) (hrest : Stream decode messages tail rest) :
      Stream decode (m :: messages) tail (outerFrame payload ++ rest)

lemma stream_of_encodeStream {numberText : JsString → JsString}
    (hone : numberText (js "1") = js "1") {messages : List OuterMessage} {tail : Option Bytes}
    {stream : Bytes} (h : encodeStream messages tail = some stream) :
    Stream (decodeOuterMessage numberText) messages tail stream := by
  induction messages generalizing stream with
  | nil =>
    cases tail with
    | none =>
      rw [encodeStream, Option.some.injEq] at h
      rw [← h]
      exact .nil
    | some data =>
      rw [encodeStream, Option.map_eq_some_iff] at h
      obtain ⟨frame, hframe, rfl⟩ := h
      obtain ⟨payload, rfl, hcap, hdecode⟩ := decodeOuterMessage_encode hone hframe
      exact .ready hcap hdecode data
  | cons m messages ih =>
    rw [encodeStream] at h
    split at h
    · next frame rest hframe hrest =>
      obtain ⟨payload, rfl, hcap, hdecode⟩ := decodeOuterMessage_encode hone hframe
      rw [← Option.some.inj h]
      exact .cons hcap hdecode (ih hrest)
    · cases h

namespace OuterFrameReader

lemma next_cases {r : OuterFrameReader} {payload future rest : Bytes}
    (hcap : payload.length ≤ maxOuterMessageBytes)
    (hbytes : r.bytes ++ future = outerFrame payload ++ rest) :
    r.next = .ok none ∨ ∃ r', r.next = .ok (some (payload, r')) ∧ r'.bytes ++ future = rest := by
  by_cases hshort : r.bytes.length < (outerFrame payload).length
  · exact .inl (next_of_incomplete hcap hbytes hshort)
  · rw [Nat.not_lt] at hshort
    obtain ⟨behind, hbehind⟩ : ∃ behind, r.bytes = outerFrame payload ++ behind := by
      refine ⟨r.bytes.drop (outerFrame payload).length, ?_⟩
      have htake := congrArg (List.take (outerFrame payload).length) hbytes
      rw [List.take_append_of_le_length hshort, List.take_left] at htake
      exact (List.take_append_drop _ _).symm.trans (by rw [htake])
    obtain ⟨r', hnext, hr'⟩ := next_outerFrame hcap hbehind
    refine .inr ⟨r', hnext, ?_⟩
    rw [hbehind, List.append_assoc] at hbytes
    rw [hr', List.append_cancel_left hbytes]

end OuterFrameReader

namespace Endpoint

/-! ## What is early stays counted -/

variable (consumer : Consumer η ε)

lemma early_deliverRaw (s : Endpoint η) (bytes : Bytes) :
    s.early ≤ (s.deliverRaw consumer bytes).early := by
  unfold deliverRaw
  split
  · exact Nat.le_refl _
  · simp only
    split
    · exact Nat.le_add_right _ _
    · exact Nat.le_add_right _ _

lemma early_call (s : Endpoint η) (c : Call) : s.early ≤ (s.call consumer c).early := by
  cases c with
  | send m =>
    rw [call, send]
    split <;> exact Nat.le_refl _
  | sendRaw bytes =>
    rw [call, sendRaw]
    split <;> exact Nat.le_refl _
  | toRaw =>
    rw [call, toRaw]
    split
    · exact Nat.le_refl _
    · simp only
      split
      · exact early_deliverRaw consumer
          { s with raw := true, reader := s.reader.drainRemaining.2 } _
      · exact Nat.le_refl _
  | onRaw => exact Nat.le_refl _
  | close => exact Nat.le_refl _

lemma early_callAll (s : Endpoint η) (calls : List Call) :
    s.early ≤ (s.callAll consumer calls).early := by
  induction calls generalizing s with
  | nil => exact Nat.le_refl _
  | cons c calls ih => exact Nat.le_trans (early_call consumer s c) (ih _)

lemma early_dispatch (s : Endpoint η) (reader : OuterFrameReader) (m : OuterMessage) :
    s.early ≤ (s.dispatch consumer reader m).early :=
  early_callAll consumer
    { s with reader, consumer := (consumer.onMessage s.consumer m).consumer,
             delivered := s.delivered ++ [.message m] } _

variable (decode : Bytes → Option OuterMessage)

lemma early_receiveLoop (fuel : ℕ) (s : Endpoint η) :
    s.early ≤ (receiveLoop consumer decode fuel s).early := by
  induction fuel generalizing s with
  | zero => exact Nat.le_refl _
  | succ fuel ih =>
    rw [receiveLoop]
    split
    · exact Nat.le_refl _
    · split
      · exact Nat.le_refl _
      · exact Nat.le_refl _
      · next payload reader _ =>
        split
        · exact Nat.le_refl _
        · next m _ =>
          split
          · exact early_dispatch consumer s reader m
          · exact Nat.le_trans (early_dispatch consumer s reader m) (ih _)

lemma early_step (s : Endpoint η) (e : Event ε) : s.early ≤ (s.step consumer decode e).early := by
  cases e with
  | receive chunk =>
    rw [step, receive]
    split
    · exact Nat.le_refl _
    · split
      · exact early_deliverRaw consumer s chunk
      · exact early_receiveLoop consumer decode _ { s with reader := s.reader.push chunk }
  | own e =>
    exact early_callAll consumer { s with consumer := (consumer.onEvent s.consumer e).1 } _

/-! ## The invariant -/

/-- The connection reads frames: it delivered the messages `told` and nothing else, and behind what
it holds and what is to come stand `unread` and the raw part. -/
structure Framed (told unread : List OuterMessage) (tail : Option Bytes) (future : Bytes)
    (s : Endpoint η) : Prop where
  raw : s.raw = false
  closed : s.closed = false
  buffer : s.rawBuffer = [] ∧ s.rawBufferBytes = 0
  delivered : s.delivered = told.map .message
  stream : Stream decode unread tail (s.reader.bytes ++ future)

/-- The connection has `data-ready` in hand, and its handler has not switched yet. -/
structure Ready (told : List OuterMessage) (data future : Bytes) (s : Endpoint η) : Prop where
  raw : s.raw = false
  closed : s.closed = false
  buffer : s.rawBuffer = [] ∧ s.rawBufferBytes = 0
  delivered : s.delivered = told.map .message
  bytes : s.reader.bytes ++ future = data

/-- The raw phase: behind the messages came raw bytes, which with those queued and those to come
are the raw part. -/
structure Flowing (told : List OuterMessage) (data future : Bytes) (s : Endpoint η) : Prop where
  raw : s.raw = true
  closed : s.closed = false
  counted : s.rawBufferBytes = s.rawBuffer.flatten.length ∧ s.rawBufferBytes ≤ s.early
  flushed : s.attached = true → s.rawBuffer = []
  delivered : ∃ chunks : List Bytes, s.delivered = told.map .message ++ chunks.map .raw ∧
    chunks.flatten ++ s.rawBuffer.flatten ++ future = data

/-- The invariant between events, with `future` still to come of a stream. -/
def Sound (reading : η → Prop) (messages : List OuterMessage) (tail : Option Bytes)
    (future : Bytes) (s : Endpoint η) : Prop :=
  (s.reader.next = .ok none ∧ reading s.consumer ∧
    ∃ told unread, messages = told ++ unread ∧ s.Framed decode told unread tail future) ∨
  ∃ data, tail = some data ∧ s.Flowing (messages ++ [.dataReady]) data future

variable {consumer decode}

/-! ## Calls -/

lemma send_of_open {s : Endpoint η} (h : s.closed = false) (m : OuterMessage) :
    s.send m = { s with written := s.written ++ [.message m] } := by
  rw [send, if_neg (by rw [h]; decide)]

lemma sendRaw_of_open {s : Endpoint η} (h : s.closed = false) (bytes : Bytes) :
    s.sendRaw bytes = { s with written := s.written ++ [.raw bytes] } := by
  rw [sendRaw, if_neg (by rw [h]; decide)]

lemma Flowing.deliverRaw {told : List OuterMessage} {data future bytes : Bytes} {s : Endpoint η}
    (h : s.Flowing told data (bytes ++ future))
    (hearly : (s.deliverRaw consumer bytes).early ≤ maxPrehandlerRawBytes) :
    (s.deliverRaw consumer bytes).Flowing told data future := by
  obtain ⟨chunks, hdelivered, hdata⟩ := h.delivered
  unfold Endpoint.deliverRaw at hearly ⊢
  by_cases hattached : s.attached = true
  · have hbuffer := h.flushed hattached
    rw [if_pos hattached]
    refine ⟨h.raw, h.closed, h.counted, h.flushed, chunks ++ [bytes], ?_, ?_⟩
    · simp [hdelivered]
    · rw [← hdata, hbuffer]
      simp
  · rw [if_neg hattached] at hearly ⊢
    -- what overflows the queue came before a handler was registered
    have hfits : ¬ s.rawBufferBytes + bytes.length > maxPrehandlerRawBytes := by
      intro hover
      rw [if_pos hover] at hearly
      have hcounted := h.counted.2
      have hsum : s.early + bytes.length ≤ maxPrehandlerRawBytes := hearly
      omega
    rw [if_neg hfits]
    refine ⟨h.raw, h.closed, ⟨?_, ?_⟩, fun habs => absurd habs hattached, chunks, hdelivered, ?_⟩
    · simp [h.counted.1]
    · have hcounted := h.counted.2
      simp only
      omega
    · rw [← hdata]
      simp

lemma Flowing.call {told : List OuterMessage} {data future : Bytes} {s : Endpoint η}
    (h : s.Flowing told data future) {c : Call} (hc : c ≠ .close) :
    (s.call consumer c).Flowing told data future := by
  cases c with
  | send m =>
    rw [Endpoint.call, send_of_open h.closed]
    exact ⟨h.raw, h.closed, h.counted, h.flushed, h.delivered⟩
  | sendRaw bytes =>
    rw [Endpoint.call, sendRaw_of_open h.closed]
    exact ⟨h.raw, h.closed, h.counted, h.flushed, h.delivered⟩
  | toRaw =>
    rw [Endpoint.call, toRaw, if_pos h.raw]
    exact h
  | onRaw =>
    obtain ⟨chunks, hdelivered, hdata⟩ := h.delivered
    refine ⟨h.raw, h.closed, ⟨rfl, Nat.zero_le _⟩, fun _ => rfl, chunks ++ s.rawBuffer, ?_, ?_⟩
    · simp [Endpoint.call, onRaw, hdelivered]
    · rw [← hdata]
      simp [Endpoint.call, onRaw]
  | close => exact absurd rfl hc

lemma Flowing.callAll {told : List OuterMessage} {data future : Bytes} {calls : List Call}
    (hcalls : Call.close ∉ calls) {s : Endpoint η} (h : s.Flowing told data future) :
    (s.callAll consumer calls).Flowing told data future := by
  induction calls generalizing s with
  | nil => exact h
  | cons c calls ih =>
    rw [List.mem_cons, not_or] at hcalls
    exact ih hcalls.2 (h.call (Ne.symm hcalls.1))

lemma Ready.toRaw {told : List OuterMessage} {data future : Bytes} {s : Endpoint η}
    (h : s.Ready told data future)
    (hearly : (s.toRaw consumer).early ≤ maxPrehandlerRawBytes) :
    (s.toRaw consumer).Flowing told data future := by
  unfold Endpoint.toRaw at hearly ⊢
  rw [if_neg (by rw [h.raw]; decide)] at hearly ⊢
  have hflowing : Flowing told data (s.reader.drainRemaining.1 ++ future)
      { s with raw := true, reader := s.reader.drainRemaining.2 } := by
    refine ⟨rfl, h.closed, ?_, fun _ => h.buffer.1, [], ?_, ?_⟩
    · simp [h.buffer]
    · simp [h.delivered]
    · simp [h.buffer.1, OuterFrameReader.drainRemaining_fst, h.bytes]
  simp only at hearly ⊢
  split
  · next hpos =>
    rw [if_pos hpos] at hearly
    exact hflowing.deliverRaw hearly
  · next hempty =>
    have hnil : s.reader.drainRemaining.1 = [] := List.length_eq_zero_iff.1 (by omega)
    rw [hnil] at hflowing
    exact hflowing

lemma Ready.call {told : List OuterMessage} {data future : Bytes} {s : Endpoint η}
    (h : s.Ready told data future) {c : Call} (hclose : c ≠ .close) (hraw : c ≠ .toRaw) :
    (s.call consumer c).Ready told data future := by
  cases c with
  | send m =>
    rw [Endpoint.call, send_of_open h.closed]
    exact ⟨h.raw, h.closed, h.buffer, h.delivered, h.bytes⟩
  | sendRaw bytes =>
    rw [Endpoint.call, sendRaw_of_open h.closed]
    exact ⟨h.raw, h.closed, h.buffer, h.delivered, h.bytes⟩
  | toRaw => exact absurd rfl hraw
  | onRaw =>
    refine ⟨h.raw, h.closed, ⟨rfl, rfl⟩, ?_, h.bytes⟩
    simp [Endpoint.call, onRaw, h.buffer.1, h.delivered]
  | close => exact absurd rfl hclose

lemma Ready.callAll {told : List OuterMessage} {data future : Bytes} {calls : List Call}
    (hclose : Call.close ∉ calls) (hraw : Call.toRaw ∈ calls) {s : Endpoint η}
    (h : s.Ready told data future)
    (hearly : (s.callAll consumer calls).early ≤ maxPrehandlerRawBytes) :
    (s.callAll consumer calls).Flowing told data future := by
  induction calls generalizing s with
  | nil => cases hraw
  | cons c calls ih =>
    rw [List.mem_cons, not_or] at hclose
    by_cases hswitch : c = .toRaw
    · rw [hswitch] at hearly ⊢
      have hswitched : (s.toRaw consumer).early ≤ maxPrehandlerRawBytes :=
        Nat.le_trans (early_callAll consumer _ calls) hearly
      exact (h.toRaw hswitched).callAll hclose.2
    · have hlater : Call.toRaw ∈ calls := (List.mem_cons.1 hraw).resolve_left (Ne.symm hswitch)
      exact ih hclose.2 hlater (h.call (Ne.symm hclose.1) hswitch) hearly

lemma Framed.call {told unread : List OuterMessage} {tail : Option Bytes} {future : Bytes}
    {s : Endpoint η} (h : s.Framed decode told unread tail future) {c : Call} (hclose : c ≠ .close)
    (hraw : c ≠ .toRaw) : (s.call consumer c).Framed decode told unread tail future ∧
      (s.call consumer c).reader = s.reader ∧ (s.call consumer c).consumer = s.consumer := by
  cases c with
  | send m =>
    rw [Endpoint.call, send_of_open h.closed]
    exact ⟨⟨h.raw, h.closed, h.buffer, h.delivered, h.stream⟩, rfl, rfl⟩
  | sendRaw bytes =>
    rw [Endpoint.call, sendRaw_of_open h.closed]
    exact ⟨⟨h.raw, h.closed, h.buffer, h.delivered, h.stream⟩, rfl, rfl⟩
  | toRaw => exact absurd rfl hraw
  | onRaw =>
    refine ⟨⟨h.raw, h.closed, ⟨rfl, rfl⟩, ?_, h.stream⟩, rfl, rfl⟩
    simp [Endpoint.call, onRaw, h.buffer.1, h.delivered]
  | close => exact absurd rfl hclose

lemma Framed.callAll {told unread : List OuterMessage} {tail : Option Bytes} {future : Bytes}
    {calls : List Call} (hclose : Call.close ∉ calls) (hraw : Call.toRaw ∉ calls) {s : Endpoint η}
    (h : s.Framed decode told unread tail future) :
    (s.callAll consumer calls).Framed decode told unread tail future ∧
      (s.callAll consumer calls).reader = s.reader ∧
      (s.callAll consumer calls).consumer = s.consumer := by
  induction calls generalizing s with
  | nil => exact ⟨h, rfl, rfl⟩
  | cons c calls ih =>
    rw [List.mem_cons, not_or] at hclose hraw
    have hcall : (s.call consumer c).Framed decode told unread tail future ∧
        (s.call consumer c).reader = s.reader ∧ (s.call consumer c).consumer = s.consumer :=
      h.call (Ne.symm hclose.1) (Ne.symm hraw.1)
    obtain ⟨hall, hreader, hstate⟩ := ih hclose.2 hraw.2 hcall.1
    exact ⟨hall, hreader.trans hcall.2.1, hstate.trans hcall.2.2⟩

/-! ## Frames -/

/-- The frame loop, by induction on its fuel: it reads every frame that is all there. -/
lemma sound_receiveLoop {reading : η → Prop} {messages : List OuterMessage}
    (hconsumer : consumer.Orderly reading messages) {tail : Option Bytes} {future : Bytes} {fuel : ℕ}
    {s : Endpoint η} (hfuel : s.reader.length < fuel) (hreading : reading s.consumer)
    {told unread : List OuterMessage} (hsplit : messages = told ++ unread)
    (h : s.Framed decode told unread tail future)
    (hearly : (receiveLoop consumer decode fuel s).early ≤ maxPrehandlerRawBytes) :
    (receiveLoop consumer decode fuel s).Sound decode reading messages tail future := by
  induction fuel generalizing s told unread with
  | zero => omega
  | succ fuel ih =>
    rw [receiveLoop, if_neg (by rw [h.raw]; decide)] at hearly ⊢
    have hstream := h.stream
    generalize hbytes : s.reader.bytes ++ future = bytes at hstream
    cases hstream with
    | nil =>
      -- nothing is left to come
      have hnext : s.reader.next = .ok none :=
        OuterFrameReader.next_of_bytes_nil (List.append_eq_nil_iff.1 hbytes).1
      rw [hnext]
      exact .inl ⟨hnext, hreading, told, [], hsplit, h⟩
    | @ready payload hcap hdecode data =>
      rcases OuterFrameReader.next_cases hcap hbytes with hnext | ⟨reader, hnext, hrest⟩
      · rw [hnext]
        exact .inl ⟨hnext, hreading, told, [], hsplit, h⟩
      · obtain ⟨hreturns, hstays, hswitches⟩ := hconsumer.switches _ hreading
        simp only [hnext, hdecode, hreturns, Bool.false_eq_true, if_false] at hearly ⊢
        rw [List.append_nil] at hsplit
        have hready : Ready (messages ++ [OuterMessage.dataReady]) data future
            { s with reader, consumer := (consumer.onMessage s.consumer .dataReady).consumer,
                     delivered := s.delivered ++ [.message .dataReady] } := by
          refine ⟨h.raw, h.closed, h.buffer, ?_, hrest⟩
          simp [h.delivered, hsplit]
        have hdispatched := Nat.le_trans
          (early_receiveLoop consumer decode fuel (s.dispatch consumer reader .dataReady)) hearly
        have hflowing : (s.dispatch consumer reader .dataReady).Flowing
            (messages ++ [OuterMessage.dataReady]) data future :=
          hready.callAll hstays hswitches hdispatched
        -- in the raw phase the loop stops
        have hstop : receiveLoop consumer decode fuel (s.dispatch consumer reader .dataReady) =
            s.dispatch consumer reader .dataReady := by
          cases fuel with
          | zero => rfl
          | succ fuel => rw [receiveLoop, if_pos hflowing.raw]
        rw [hstop]
        exact .inr ⟨data, rfl, hflowing⟩
    | @cons payload m messages' _ rest hcap hdecode hrest =>
      rcases OuterFrameReader.next_cases hcap hbytes with hnext | ⟨reader, hnext, hbehind⟩
      · rw [hnext]
        exact .inl ⟨hnext, hreading, told, m :: messages', hsplit, h⟩
      · have hm : m ∈ messages := hsplit ▸ List.mem_append_right _ List.mem_cons_self
        obtain ⟨hstate, hreturns, hstays, hswitches⟩ := hconsumer.reads _ hreading m hm
        simp only [hnext, hdecode, hreturns, Bool.false_eq_true, if_false] at hearly ⊢
        have hframed : Framed decode (told ++ [m]) messages' tail future
            { s with reader, consumer := (consumer.onMessage s.consumer m).consumer,
                     delivered := s.delivered ++ [.message m] } := by
          refine ⟨h.raw, h.closed, h.buffer, ?_, hbehind ▸ hrest⟩
          simp [h.delivered]
        have hcalled : (s.dispatch consumer reader m).Framed decode (told ++ [m]) messages' tail
            future ∧ (s.dispatch consumer reader m).reader = reader ∧
            (s.dispatch consumer reader m).consumer =
              (consumer.onMessage s.consumer m).consumer := hframed.callAll hstays hswitches
        have hshorter : reader.length + 4 ≤ s.reader.length := OuterFrameReader.length_of_next hnext
        refine ih ?_ ?_ ?_ hcalled.1 hearly
        · rw [hcalled.2.1]
          omega
        · rw [hcalled.2.2]
          exact hstate
        · rw [hsplit, List.append_assoc, List.singleton_append]

/-- Every event keeps the invariant, unless too much came before a handler was registered. -/
lemma Sound.step {reading : η → Prop} {messages : List OuterMessage}
    (hconsumer : consumer.Orderly reading messages) {tail : Option Bytes} {future : Bytes}
    {s : Endpoint η} {e : Event ε} (hpassive : ∀ own, e = .own own → consumer.Passive reading own)
    (h : s.Sound decode reading messages tail (e.bytes ++ future))
    (hearly : (s.step consumer decode e).early ≤ maxPrehandlerRawBytes) :
    (s.step consumer decode e).Sound decode reading messages tail future := by
  cases e with
  | receive chunk =>
    rw [Endpoint.step, receive] at hearly ⊢
    rcases h with ⟨-, hreading, told, unread, hsplit, hframed⟩ | ⟨data, htail, hflowing⟩
    · rw [if_neg (by rw [hframed.closed]; decide), if_neg (by rw [hframed.raw]; decide)] at hearly ⊢
      refine sound_receiveLoop hconsumer (Nat.lt_succ_self _) hreading hsplit ?_ hearly
      refine ⟨hframed.raw, hframed.closed, hframed.buffer, hframed.delivered, ?_⟩
      rw [OuterFrameReader.bytes_push, List.append_assoc]
      exact hframed.stream
    · rw [if_neg (by rw [hflowing.closed]; decide), if_pos hflowing.raw] at hearly ⊢
      exact .inr ⟨data, htail, hflowing.deliverRaw hearly⟩
  | own e =>
    obtain ⟨hstate, hclose, hraw⟩ := hpassive e rfl s.consumer
    rw [Event.bytes, List.nil_append] at h
    rcases h with ⟨hnext, hreading, told, unread, hsplit, hframed⟩ | ⟨data, htail, hflowing⟩
    · have hacted : Framed decode told unread tail future
          { s with consumer := (consumer.onEvent s.consumer e).1 } :=
        ⟨hframed.raw, hframed.closed, hframed.buffer, hframed.delivered, hframed.stream⟩
      have hcalled : (s.step consumer decode (.own e)).Framed decode told unread tail future ∧
          (s.step consumer decode (.own e)).reader = s.reader ∧
          (s.step consumer decode (.own e)).consumer = (consumer.onEvent s.consumer e).1 :=
        hacted.callAll hclose hraw
      exact .inl ⟨hcalled.2.1 ▸ hnext, hcalled.2.2 ▸ hstate hreading, told, unread, hsplit, hcalled.1⟩
    · have hacted : Flowing (messages ++ [.dataReady]) data future
          { s with consumer := (consumer.onEvent s.consumer e).1 } :=
        ⟨hflowing.raw, hflowing.closed, hflowing.counted, hflowing.flushed, hflowing.delivered⟩
      exact .inr ⟨data, htail, hacted.callAll hclose⟩

lemma Framed.eq_nil {told unread : List OuterMessage} {tail : Option Bytes} {s : Endpoint η}
    (h : s.Framed decode told unread tail []) (hnext : s.reader.next = .ok none) :
    unread = [] ∧ tail = none := by
  have hstream := h.stream
  rw [List.append_nil] at hstream
  generalize hbytes : s.reader.bytes = bytes at hstream
  cases hstream with
  | nil => exact ⟨rfl, rfl⟩
  | ready hcap _ data =>
    obtain ⟨r', hread, -⟩ := OuterFrameReader.next_outerFrame hcap hbytes
    rw [hnext] at hread
    cases hread
  | cons hcap _ _ =>
    obtain ⟨r', hread, -⟩ := OuterFrameReader.next_outerFrame hcap hbytes
    rw [hnext] at hread
    cases hread

/-- The handlers were given the messages and then the raw part, but for the bytes that are queued
for a raw handler. -/
def ReadBack (messages : List OuterMessage) : Option Bytes → Endpoint η → Prop
  | none, s => s.delivered = messages.map .message
  | some data, s => ∃ chunks : List Bytes,
    s.delivered = (messages ++ [OuterMessage.dataReady]).map .message ++ chunks.map .raw ∧
      chunks.flatten ++ s.rawBuffer.flatten = data ∧ (s.attached = true → chunks.flatten = data)

end Endpoint

/-! ## Runs -/

variable {numberText : JsString → JsString} {consumer : Consumer η ε} {start : η}
  {reading : η → Prop}

lemma sound_run {decode : Bytes → Option OuterMessage} {messages : List OuterMessage}
    (hconsumer : consumer.Orderly reading messages) (hstart : reading start) {tail : Option Bytes}
    {stream : Bytes} (hstream : Stream decode messages tail stream)
    (es : List (Endpoint.Event ε)) :
    (∀ own, Endpoint.Event.own own ∈ es → consumer.Passive reading own) →
      ((endpointMachine decode consumer start).run es).early ≤ maxPrehandlerRawBytes →
      ∀ future, received es ++ future = stream →
        ((endpointMachine decode consumer start).run es).Sound decode reading messages tail future := by
  refine (endpointMachine decode consumer start).history_invariant
    (p := fun es s => (∀ own, Endpoint.Event.own own ∈ es → consumer.Passive reading own) →
      s.early ≤ maxPrehandlerRawBytes → ∀ future, received es ++ future = stream →
        s.Sound decode reading messages tail future) ?_ ?_ es
  · intro _ _ future hfuture
    rw [received, List.flatMap_nil, List.nil_append] at hfuture
    refine .inl ⟨OuterFrameReader.next_of_bytes_nil rfl, hstart, [], messages, rfl, rfl, rfl,
      ⟨rfl, rfl⟩, rfl, ?_⟩
    rw [hfuture]
    exact hstream
  · intro es e ih hpassive hearly future hfuture
    have hbefore := Nat.le_trans
      (Endpoint.early_step consumer decode ((endpointMachine decode consumer start).run es) e) hearly
    rw [received, List.flatMap_append, List.flatMap_cons, List.flatMap_nil, List.append_nil,
      List.append_assoc] at hfuture
    refine (ih ?_ hbefore (e.bytes ++ future) hfuture).step hconsumer ?_ hearly
    · exact fun own hown => hpassive own (List.mem_append_left _ hown)
    · rintro own rfl
      exact hpassive own (List.mem_append_right _ List.mem_cons_self)

/-- **The outer stream is read back.** However a stream is cut into chunks, and whenever the raw
handler is registered, as long as no more raw bytes come before it than are queued: what is
delivered is the messages and then the raw bytes. -/
theorem outerStream_readBack (hone : numberText (js "1") = js "1") {messages : List OuterMessage}
    (hconsumer : consumer.Orderly reading messages) (hstart : reading start) {tail : Option Bytes}
    {stream : Bytes} (hstream : encodeStream messages tail = some stream)
    {es : List (Endpoint.Event ε)} (hes : received es = stream)
    (hpassive : ∀ own, Endpoint.Event.own own ∈ es → consumer.Passive reading own)
    (hearly : ((endpointMachine (decodeOuterMessage numberText) consumer start).run es).early ≤
      maxPrehandlerRawBytes) :
    ((endpointMachine (decodeOuterMessage numberText) consumer start).run es).ReadBack messages
      tail := by
  have hsound := sound_run hconsumer hstart (stream_of_encodeStream hone hstream) es hpassive hearly []
    (by rw [List.append_nil, hes])
  rcases hsound with ⟨hnext, -, told, unread, rfl, hframed⟩ | ⟨data, rfl, hflowing⟩
  · -- a frame that is all there would have been read
    obtain ⟨rfl, rfl⟩ := hframed.eq_nil hnext
    rw [List.append_nil]
    exact hframed.delivered
  · obtain ⟨chunks, hdelivered, hdata⟩ := hflowing.delivered
    rw [List.append_nil] at hdata
    refine ⟨chunks, hdelivered, hdata, fun hattached => ?_⟩
    rw [hflowing.flushed hattached, List.flatten_nil, List.append_nil] at hdata
    exact hdata

/-! ## A data connection -/

lemma orderly_awaitDataReady : awaitDataReady.Orderly (· = .pending) [] where
  reads := by
    intro state _ m hm
    cases hm
  switches := by
    rintro state rfl
    exact ⟨rfl, by decide, by decide⟩

lemma passive_onMessage : awaitDataReady.Passive (· = .pending) .onMessage := by
  intro state
  refine ⟨id, ?_, ?_⟩
  · cases state <;> decide
  · cases state <;> decide

/-- The raw handler is registered behind two raw bytes, one of which came with `data-ready`. -/
theorem outerStream_readBack_dataReady :
    let frame := outerFrame (ascii "\x7b\x22t\x22:\x22data-ready\x22\x7d")
    ((endpointMachine (decodeOuterMessage id) awaitDataReady .pending).run
      [.receive (frame ++ [1]), .receive [2], .own .onMessage, .receive [3]]).ReadBack []
        (some [1, 2, 3]) := by
  intro frame
  have hstream : encodeStream [] (some [1, 2, 3]) = some (frame ++ [1, 2, 3]) := by decide
  refine outerStream_readBack rfl orderly_awaitDataReady rfl hstream rfl ?_ ?_
  · intro own hown
    obtain rfl : own = .onMessage := by simpa using hown
    exact passive_onMessage
  · decide +kernel

end Pherry.RelayCore
