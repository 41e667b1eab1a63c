import Mathlib.Data.List.TakeWhile
import Pherry.RelayCore.HostAdapter
import Pherry.RelayCore.OuterRoundTrip

/-!
# What a registered host is told

The cell may send behind `host-registered` at once. What the host has read whole when the code behind
its `await` runs, in the same chunk or in a chunk before, was given to the handler of the settled
promise, which drops it: `registration_delivers_iff`.
-/

namespace Pherry.RelayCore

open Lib
open Protocol

/-! ## What was heard -/

/-- The action a registered host owes a message of the cell. -/
def HostAction.of : OuterMessage → Option HostAction
  | .connOpen ticket nonce => some (.openData ticket nonce)
  | .drain => some .onDrain
  | .close code reason => some (.onClose (some (.relay code reason)))
  | _ => none

/-- Whether a message acknowledges the registration. -/
def OuterMessage.isHostRegistered : OuterMessage → Bool
  | .hostRegistered _ => true
  | _ => false

/-- The messages behind the first `host-registered`. -/
def behindRegistered (messages : List OuterMessage) : List OuterMessage :=
  (messages.dropWhile fun m => !m.isHostRegistered).tail

/-- The messages that some bytes hold whole. -/
def completeMessages (decode : Bytes → Option OuterMessage) (bytes : Bytes) : List OuterMessage :=
  (OuterFrameReader.empty.push bytes).messages decode (bytes.length + 1)

lemma behindRegistered_append {messages : List OuterMessage}
    (h : messages.any OuterMessage.isHostRegistered = true) (more : List OuterMessage) :
    behindRegistered (messages ++ more) = behindRegistered messages ++ more := by
  obtain ⟨m, hm, hregistered⟩ := List.any_eq_true.1 h
  have hne : messages.dropWhile (fun m => !m.isHostRegistered) ≠ [] := by
    intro hnil
    have hall := List.dropWhile_eq_nil_iff.1 hnil m hm
    rw [hregistered] at hall
    cases hall
  have hdrop : (messages ++ more).dropWhile (fun m => !m.isHostRegistered) =
      messages.dropWhile (fun m => !m.isHostRegistered) ++ more := by
    rw [List.dropWhile_append, if_neg (by rwa [List.isEmpty_iff])]
  rw [behindRegistered, hdrop, List.tail_append_of_ne_nil hne]
  rfl

lemma behindRegistered_of_none {messages : List OuterMessage}
    (h : messages.any OuterMessage.isHostRegistered = false) : behindRegistered messages = [] := by
  have hnil : messages.dropWhile (fun m => !m.isHostRegistered) = [] := by
    rw [List.dropWhile_eq_nil_iff]
    intro m hm
    rw [List.any_eq_false] at h
    simpa using h m hm
  rw [behindRegistered, hnil]
  rfl

namespace OuterFrameReader

lemma next_eq_none_congr {r r' : OuterFrameReader} (hbytes : r.bytes = r'.bytes)
    (h : r.next = .ok none) : r'.next = .ok none := by
  have hlength : r.length = r'.length := by
    rw [r.length_eq_length_bytes, r'.length_eq_length_bytes, hbytes]
  have hpeek : r.peekUint32BE = r'.peekUint32BE := by
    have hchunks : r.chunks.flatten = r'.chunks.flatten := hbytes
    rw [peekUint32BE, peekUint32BE, hchunks]
  unfold next at h ⊢
  rw [← hlength, ← hpeek]
  split at h
  · next hprefix => rw [if_pos hprefix]
  · next hprefix =>
    rw [if_neg hprefix]
    split at h
    · cases h
    · next hcap =>
      rw [if_neg hcap]
      split at h
      · next hshort => rw [if_pos hshort]
      · cases h

/-- The frames in front are the messages that are read, when no frame is whole behind them. -/
lemma messages_of_stream {decode : Bytes → Option OuterMessage} {told : List OuterMessage}
    {front : Bytes} (hfront : Stream decode told none front) {r rest : OuterFrameReader}
    (hbytes : r.bytes = front ++ rest.bytes) (hrest : rest.next = .ok none) {fuel : ℕ}
    (hfuel : r.length < fuel) : r.messages decode fuel = told := by
  induction told generalizing r front fuel with
  | nil =>
    cases hfront
    obtain ⟨fuel, rfl⟩ : ∃ n, fuel = n + 1 := ⟨fuel - 1, by omega⟩
    rw [messages, next_eq_none_congr (by rw [hbytes]; rfl) hrest]
  | cons m told ih =>
    obtain ⟨fuel, rfl⟩ : ∃ n, fuel = n + 1 := ⟨fuel - 1, by omega⟩
    cases hfront with
    | @cons payload _ _ _ front' hcap hdecode hfront' =>
      rw [List.append_assoc] at hbytes
      obtain ⟨r', hnext, hr'⟩ := next_outerFrame hcap hbytes
      have hshorter := length_of_next hnext
      rw [messages, hnext]
      simp only [hdecode]
      rw [ih hfront' hr' (by omega)]

end OuterFrameReader

lemma completeMessages_of_stream {decode : Bytes → Option OuterMessage} {told : List OuterMessage}
    {front : Bytes} (hfront : Stream decode told none front) {rest : OuterFrameReader}
    (hrest : rest.next = .ok none) : completeMessages decode (front ++ rest.bytes) = told := by
  have hbytes : (OuterFrameReader.empty.push (front ++ rest.bytes)).bytes = front ++ rest.bytes := by
    rw [OuterFrameReader.bytes_push, OuterFrameReader.bytes_empty, List.nil_append]
  refine OuterFrameReader.messages_of_stream hfront hbytes hrest ?_
  rw [OuterFrameReader.length_eq_length_bytes, hbytes]
  exact Nat.lt_succ_self _

lemma Stream.append {decode : Bytes → Option OuterMessage} {told : List OuterMessage} {front : Bytes}
    (hfront : Stream decode told none front) {payload : Bytes}
    (hcap : payload.length ≤ maxOuterMessageBytes) {m : OuterMessage}
    (hdecode : decode payload = some m) :
    Stream decode (told ++ [m]) none (front ++ outerFrame payload) := by
  induction told generalizing front with
  | nil =>
    cases hfront
    have hone : Stream decode [m] none (outerFrame payload ++ []) := .cons hcap hdecode .nil
    rw [List.append_nil] at hone
    exact hone
  | cons _ told ih =>
    cases hfront with
    | cons hcap' hdecode' hrest =>
      rw [List.append_assoc]
      exact .cons hcap' hdecode' (ih hrest)

/-! ## Consumers that never switch -/

namespace Endpoint

variable {η ε : Type*} {consumer : Consumer η ε} {decode : Bytes → Option OuterMessage}

lemma consumer_deliverRaw {q : η → Prop} (herror : ∀ c, q c → q (consumer.onError c).1)
    {s : Endpoint η} (h : q s.consumer) (bytes : Bytes) :
    q (s.deliverRaw consumer bytes).consumer := by
  unfold deliverRaw
  split
  · exact h
  · simp only
    split
    · exact herror _ h
    · exact h

lemma consumer_callAll {q : η → Prop} (herror : ∀ c, q c → q (consumer.onError c).1)
    {s : Endpoint η} (h : q s.consumer) (calls : List Call) :
    q (s.callAll consumer calls).consumer := by
  induction calls generalizing s with
  | nil => exact h
  | cons c calls ih =>
    refine ih ?_
    cases c with
    | send m =>
      change q (s.send m).consumer
      rw [send]
      split <;> exact h
    | sendRaw bytes =>
      change q (s.sendRaw bytes).consumer
      rw [sendRaw]
      split <;> exact h
    | toRaw =>
      change q (s.toRaw consumer).consumer
      rw [toRaw]
      split
      · exact h
      · simp only
        split
        · exact consumer_deliverRaw (s := { s with raw := true, reader := s.reader.drainRemaining.2 })
            herror h _
        · exact h
    | onRaw => exact h
    | close => exact h

lemma consumer_dispatch {q : η → Prop} (herror : ∀ c, q c → q (consumer.onError c).1)
    (hmessage : ∀ c m, q c → q (consumer.onMessage c m).consumer) {s : Endpoint η}
    (h : q s.consumer) (reader : OuterFrameReader) (m : OuterMessage) :
    q (s.dispatch consumer reader m).consumer :=
  consumer_callAll (s := { s with
    reader, consumer := (consumer.onMessage s.consumer m).consumer,
    delivered := s.delivered ++ [.message m] }) herror (hmessage _ m h) _

lemma consumer_receiveLoop {q : η → Prop} (herror : ∀ c, q c → q (consumer.onError c).1)
    (hmessage : ∀ c m, q c → q (consumer.onMessage c m).consumer) (fuel : ℕ) {s : Endpoint η}
    (h : q s.consumer) : q (receiveLoop consumer decode fuel s).consumer := by
  induction fuel generalizing s with
  | zero => exact h
  | succ fuel ih =>
    rw [receiveLoop]
    split
    · exact h
    · split
      · exact herror _ h
      · exact h
      · next payload reader _ =>
        split
        · exact herror _ h
        · next m _ =>
          have hdispatched := consumer_dispatch herror hmessage h reader m
          split
          · exact herror _ hdispatched
          · exact ih hdispatched

lemma consumer_step {q : η → Prop} (herror : ∀ c, q c → q (consumer.onError c).1)
    (hmessage : ∀ c m, q c → q (consumer.onMessage c m).consumer)
    (hevent : ∀ c e, q c → q (consumer.onEvent c e).1) {s : Endpoint η} (h : q s.consumer)
    (e : Event ε) : q (s.step consumer decode e).consumer := by
  cases e with
  | receive chunk =>
    rw [step, receive]
    split
    · exact h
    · split
      · exact consumer_deliverRaw herror h chunk
      · exact consumer_receiveLoop (s := { s with reader := s.reader.push chunk }) herror hmessage _ h
  | own e =>
    exact consumer_callAll (s := { s with consumer := (consumer.onEvent s.consumer e).1 }) herror
      (hevent _ e h) _

/-- Calls that do not switch leave all but what was written and whether the connection is closed. -/
lemma callAll_framed {s : Endpoint η} {calls : List Call} (hraw : Call.toRaw ∉ calls) :
    (s.callAll consumer calls).raw = s.raw ∧ (s.callAll consumer calls).reader = s.reader ∧
      (s.callAll consumer calls).consumer = s.consumer ∧
      ((s.callAll consumer calls).closed = true ↔ s.closed = true ∨ Call.close ∈ calls) := by
  induction calls generalizing s with
  | nil => simp [callAll]
  | cons c calls ih =>
    rw [List.mem_cons, not_or] at hraw
    have hcall : (s.call consumer c).raw = s.raw ∧ (s.call consumer c).reader = s.reader ∧
        (s.call consumer c).consumer = s.consumer ∧
        ((s.call consumer c).closed = true ↔ s.closed = true ∨ Call.close = c) := by
      cases c with
      | send m =>
        rw [call, send]
        split <;> simp
      | sendRaw bytes =>
        rw [call, sendRaw]
        split <;> simp
      | toRaw => exact absurd rfl hraw.1
      | onRaw => simp [call, onRaw]
      | close => simp [call, close]
    have hrest : (s.callAll consumer (c :: calls)) = (s.call consumer c).callAll consumer calls := rfl
    obtain ⟨hraw', hreader, hstate, hclosed⟩ := ih (s := s.call consumer c) hraw.2
    rw [hrest]
    refine ⟨hraw'.trans hcall.1, hreader.trans hcall.2.1, hstate.trans hcall.2.2.1, ?_⟩
    rw [hclosed, hcall.2.2.2, List.mem_cons, or_assoc]

lemma dispatch_framed {s : Endpoint η} {m : OuterMessage}
    (hraw : Call.toRaw ∉ (consumer.onMessage s.consumer m).calls) (reader : OuterFrameReader) :
    (s.dispatch consumer reader m).raw = s.raw ∧ (s.dispatch consumer reader m).reader = reader ∧
      (s.dispatch consumer reader m).consumer = (consumer.onMessage s.consumer m).consumer ∧
      ((s.dispatch consumer reader m).closed = true ↔
        s.closed = true ∨ Call.close ∈ (consumer.onMessage s.consumer m).calls) :=
  callAll_framed (s := { s with
    reader, consumer := (consumer.onMessage s.consumer m).consumer,
    delivered := s.delivered ++ [.message m] }) hraw

variable (decode) in
lemma own_framed {s : Endpoint η} {e : ε} (hraw : Call.toRaw ∉ (consumer.onEvent s.consumer e).2) :
    (s.step consumer decode (.own e)).raw = s.raw ∧
      (s.step consumer decode (.own e)).reader = s.reader ∧
      (s.step consumer decode (.own e)).consumer = (consumer.onEvent s.consumer e).1 ∧
      ((s.step consumer decode (.own e)).closed = true ↔
        s.closed = true ∨ Call.close ∈ (consumer.onEvent s.consumer e).2) :=
  callAll_framed (s := { s with consumer := (consumer.onEvent s.consumer e).1 }) hraw

end Endpoint

/-! ## The host's variables -/

variable {o : RegisterHostOptions} {decode : Bytes → Option OuterMessage}

/-- Messages that a registered host owes nothing. -/
def Quiet (messages : List OuterMessage) : Prop := ∀ m ∈ messages, HostAction.of m = none

namespace HostControl

/-- The registration failed. -/
def Rejected (c : HostControl) : Prop := c.serving = false ∧ c.promise = .rejected

/-- The code behind the `await` has not run, and the handler of the promise heard `told`. -/
structure Waiting (told : List OuterMessage) (c : HostControl) : Prop where
  serving : c.serving = false
  actions : c.actions = []
  closed : c.closed = false
  promise : (c.promise = .pending ∧ told.any OuterMessage.isHostRegistered = false) ∨
    ((∃ keys, c.promise = .resolved keys) ∧ told.any OuterMessage.isHostRegistered = true)

/-- The host serves: of what it heard behind its registration it dropped `missed` and acted on the
rest. -/
structure Serving (missed told : List OuterMessage) (c : HostControl) : Prop where
  serving : c.serving = true
  registered : told.any OuterMessage.isHostRegistered = true
  actions : ∃ late, behindRegistered told = missed ++ late ∧
    c.actions = late.filterMap HostAction.of
  closed : c.closed = true → ∃ code reason, OuterMessage.close code reason ∈ told

lemma rejected_onMessage (c : HostControl) (m : OuterMessage) (h : c.Rejected) :
    ((registerHostWithCell o).onMessage c m).consumer.Rejected := by
  obtain ⟨hserving, hpromise⟩ := h
  simp only [registerHostWithCell, hserving, Bool.false_eq_true, if_false, onRegistering, hpromise]
  exact ⟨hserving, hpromise⟩

lemma rejected_onError (c : HostControl) (h : c.Rejected) :
    ((registerHostWithCell o).onError c).1.Rejected := by
  obtain ⟨hserving, hpromise⟩ := h
  simp only [registerHostWithCell, onError, hserving, Bool.false_eq_true, if_false, hpromise]
  exact ⟨hserving, hpromise⟩

lemma rejected_onEvent (c : HostControl) (e : HostEvent) (h : c.Rejected) :
    ((registerHostWithCell o).onEvent c e).1.Rejected := by
  obtain ⟨hserving, hpromise⟩ := h
  cases e with
  | connected => exact ⟨hserving, hpromise⟩
  | resume =>
    simp only [registerHostWithCell, onEvent, hpromise]
    exact ⟨hserving, hpromise⟩
  | close =>
    simp only [registerHostWithCell, onEvent, hserving, Bool.false_eq_true, if_false]
    exact ⟨hserving, hpromise⟩

lemma onMessage_of_waiting {c : HostControl} (h : c.serving = false) (m : OuterMessage) :
    (registerHostWithCell o).onMessage c m = c.onRegistering o m := by
  simp [registerHostWithCell, h]

lemma onMessage_of_serving {c : HostControl} (h : c.serving = true) (m : OuterMessage) :
    (registerHostWithCell o).onMessage c m = c.onServing m := by
  simp [registerHostWithCell, h]

lemma onChallenge_cases (c : HostControl) (cellId : JsString) (nonce cellEphemeralPub : Bytes32) :
    (c.onChallenge o cellId nonce cellEphemeralPub).consumer.serving = c.serving ∧
      (c.onChallenge o cellId nonce cellEphemeralPub).consumer.promise = c.promise ∧
      (c.onChallenge o cellId nonce cellEphemeralPub).consumer.actions = c.actions ∧
      (c.onChallenge o cellId nonce cellEphemeralPub).consumer.closed = c.closed ∧
      Call.close ∉ (c.onChallenge o cellId nonce cellEphemeralPub).calls ∧
      Call.toRaw ∉ (c.onChallenge o cellId nonce cellEphemeralPub).calls := by
  unfold onChallenge
  split
  · simp
  · simp only
    split <;> simp

lemma toRaw_not_mem (c : HostControl) (m : OuterMessage) :
    Call.toRaw ∉ ((registerHostWithCell o).onMessage c m).calls := by
  by_cases hserving : c.serving = true
  · rw [onMessage_of_serving hserving]
    unfold onServing
    split
    · simp
    · simp
    · rw [teardown]
      split <;> simp
    · simp
  · rw [onMessage_of_waiting (by simpa using hserving)]
    unfold onRegistering
    split
    · split
      · exact (onChallenge_cases c _ _ _).2.2.2.2.2
      · split <;> simp [HostControl.fail]
      · simp [HostControl.fail]
    · simp

/-- While the promise is pending a message may settle it; behind that every message is dropped. -/
lemma Waiting.onMessage {told : List OuterMessage} {c : HostControl} (h : c.Waiting told)
    (m : OuterMessage) :
    let r := (registerHostWithCell o).onMessage c m
    (r.threw = true ∧ ((registerHostWithCell o).onError r.consumer).1.Rejected) ∨
      (r.threw = false ∧ r.consumer.Rejected) ∨
      r.threw = false ∧ Call.close ∉ r.calls ∧ r.consumer.Waiting (told ++ [m]) := by
  intro r
  have hr : r = c.onRegistering o m := onMessage_of_waiting h.serving m
  rw [hr]
  rcases h.promise with ⟨hpending, htold⟩ | ⟨⟨keys, hresolved⟩, htold⟩
  · have hnot : m.isHostRegistered = false →
        (told ++ [m]).any OuterMessage.isHostRegistered = false := by
      intro hm
      simp [List.any_append, htold, hm]
    cases m with
    | hostChallenge cellId nonce cellEphemeralPub =>
      have hcalled : c.onRegistering o (.hostChallenge cellId nonce cellEphemeralPub) =
          c.onChallenge o cellId nonce cellEphemeralPub := by rw [onRegistering, hpending]
      obtain ⟨hserving, hpromise, hactions, hclosed, hclose, -⟩ :=
        onChallenge_cases (o := o) c cellId nonce cellEphemeralPub
      rw [hcalled]
      by_cases hthrew : (c.onChallenge o cellId nonce cellEphemeralPub).threw = true
      · refine .inl ⟨hthrew, ?_⟩
        simp only [registerHostWithCell, onError, hserving, h.serving, Bool.false_eq_true, if_false,
          hpromise, hpending]
        exact ⟨rfl, rfl⟩
      · refine .inr (.inr ⟨by simpa using hthrew, hclose, ?_⟩)
        exact ⟨hserving.trans h.serving, hactions.trans h.actions, hclosed.trans h.closed,
          .inl ⟨hpromise.trans hpending, hnot rfl⟩⟩
    | hostRegistered hostId =>
      rw [onRegistering, hpending]
      simp only
      split
      · exact .inr (.inl ⟨rfl, h.serving, rfl⟩)
      · next keys _ =>
        refine .inr (.inr ⟨rfl, by simp, h.serving, h.actions, h.closed, .inr ⟨⟨keys, rfl⟩, ?_⟩⟩)
        simp [OuterMessage.isHostRegistered]
    | _ =>
      simp only [onRegistering, hpending]
      exact .inr (.inl ⟨rfl, h.serving, rfl⟩)
  · have hdropped : c.onRegistering o m = ⟨c, [], false⟩ := by simp only [onRegistering, hresolved]
    rw [hdropped]
    refine .inr (.inr ⟨rfl, by simp, h.serving, h.actions, h.closed, .inr ⟨⟨keys, hresolved⟩, ?_⟩⟩)
    simp [List.any_append, htold]

lemma Serving.onMessage {missed told : List OuterMessage} {c : HostControl}
    (h : c.Serving missed told) (hopen : c.closed = false) (m : OuterMessage) :
    let r := (registerHostWithCell o).onMessage c m
    r.threw = false ∧ r.consumer.Serving missed (told ++ [m]) ∧
      (r.consumer.closed = true ↔ Call.close ∈ r.calls) := by
  intro r
  have hr : r = c.onServing m := onMessage_of_serving h.serving m
  obtain ⟨late, hbehind, hactions⟩ := h.actions
  have hregistered : (told ++ [m]).any OuterMessage.isHostRegistered = true := by
    simp [List.any_append, h.registered]
  have hbehind' : behindRegistered (told ++ [m]) = missed ++ (late ++ [m]) := by
    rw [behindRegistered_append h.registered, hbehind, List.append_assoc]
  have hstill : c.closed = true → ∃ code reason, OuterMessage.close code reason ∈ told ++ [m] := by
    intro hclosed
    rw [hopen] at hclosed
    cases hclosed
  -- what the host does for `m` is the action it owes
  have hserve : ∀ (action : Option HostAction) (c' : HostControl), HostAction.of m = action → c'.serving = true →
      c'.actions = c.actions ++ action.toList →
      (c'.closed = true → ∃ code reason, OuterMessage.close code reason ∈ told ++ [m]) →
      c'.Serving missed (told ++ [m]) := by
    intro action c' haction hserving hactions' hclosed
    refine ⟨hserving, hregistered, ⟨late ++ [m], hbehind', ?_⟩, hclosed⟩
    rw [hactions', hactions, List.filterMap_append]
    cases action with
    | none => simp [haction]
    | some action => simp [haction]
  rw [hr]
  cases m with
  | connOpen ticket nonce =>
    refine ⟨rfl, hserve (some (.openData ticket nonce)) _ rfl h.serving rfl hstill, ?_⟩
    simp [onServing, hopen]
  | drain =>
    refine ⟨rfl, hserve (some .onDrain) _ rfl h.serving rfl hstill, ?_⟩
    simp [onServing, hopen]
  | close code reason =>
    have hcalled : c.onServing (.close code reason) =
        ⟨{ c with closed := true, actions := c.actions ++ [.onClose (some (.relay code reason))] },
          [.close], false⟩ := by simp [onServing, teardown, hopen]
    rw [hcalled]
    refine ⟨rfl, hserve (some (.onClose (some (.relay code reason)))) _ rfl h.serving rfl ?_, ?_⟩
    · exact fun _ => ⟨code, reason, List.mem_append_right _ List.mem_cons_self⟩
    · simp
  | _ =>
    refine ⟨rfl, hserve none _ rfl h.serving (by simp [onServing]) hstill, ?_⟩
    simp [onServing, hopen]

end HostControl

/-! ## The frame loop -/

/-- A cell closes the connection behind its `close`, so that nothing follows it. -/
def ClosesLast (messages : List OuterMessage) : Prop :=
  ∀ front code reason rest, messages = front ++ .close code reason :: rest → rest = []

/-- Of the messages of the cell, whose bytes are `bytes` and, to come, `future`, the connection has
handed over `told`. -/
structure Heard (decode : Bytes → Option OuterMessage) (messages : List OuterMessage)
    (bytes future : Bytes) (told : List OuterMessage) (s : Endpoint HostControl) : Prop where
  raw : s.raw = false
  front : ∃ front, Stream decode told none front ∧ bytes = front ++ s.reader.bytes
  unread : ∃ unread, messages = told ++ unread ∧
    Stream decode unread none (s.reader.bytes ++ future)

lemma Heard.complete {messages told : List OuterMessage} {bytes future : Bytes}
    {s : Endpoint HostControl} (h : Heard decode messages bytes future told s)
    (hnext : s.reader.next = .ok none) : completeMessages decode bytes = told := by
  obtain ⟨front, hfront, rfl⟩ := h.front
  exact completeMessages_of_stream hfront hnext

/-- What a handler keeps, message by message, of the host's variables while it fails nothing. -/
structure Kept (o : RegisterHostOptions) (k : List OuterMessage → HostControl → Prop) : Prop where
  closed : ∀ told c, k told c → c.closed = true → ∃ code reason, OuterMessage.close code reason ∈ told
  onMessage : ∀ told c m, k told c → c.closed = false →
    (((registerHostWithCell o).onMessage c m).threw = true ∧
      ((registerHostWithCell o).onError
        ((registerHostWithCell o).onMessage c m).consumer).1.Rejected) ∨
    (((registerHostWithCell o).onMessage c m).threw = false ∧
      ((registerHostWithCell o).onMessage c m).consumer.Rejected) ∨
    (((registerHostWithCell o).onMessage c m).threw = false ∧
      k (told ++ [m]) ((registerHostWithCell o).onMessage c m).consumer ∧
      (((registerHostWithCell o).onMessage c m).consumer.closed = true ↔
        Call.close ∈ ((registerHostWithCell o).onMessage c m).calls))

lemma kept_waiting : Kept o HostControl.Waiting where
  closed := by
    intro told c h hclosed
    rw [h.closed] at hclosed
    cases hclosed
  onMessage := by
    intro told c m h _
    rcases h.onMessage (o := o) m with hthrew | hrejected | ⟨hreturned, hclose, hwaiting⟩
    · exact .inl hthrew
    · exact .inr (.inl hrejected)
    · refine .inr (.inr ⟨hreturned, hwaiting, ?_⟩)
      rw [hwaiting.closed]
      simp [hclose]

lemma kept_serving (missed : List OuterMessage) : Kept o (HostControl.Serving missed) where
  closed := fun _ _ h => h.closed
  onMessage := fun _ _ m h hopen => .inr (.inr (h.onMessage hopen m))

/-- The connection is in step with the cell, and the host's variables with the connection. -/
def InStep (decode : Bytes → Option OuterMessage) (k : List OuterMessage → HostControl → Prop)
    (messages : List OuterMessage) (bytes future : Bytes) (s : Endpoint HostControl) : Prop :=
  ∃ told, Heard decode messages bytes future told s ∧ k told s.consumer ∧
    (s.closed = true ↔ s.consumer.closed = true)

/-- The frame loop, by induction on its fuel: the registration fails or stays in step. -/
lemma inStep_receiveLoop {k : List OuterMessage → HostControl → Prop} (hk : Kept o k)
    {messages : List OuterMessage} (hlast : ClosesLast messages) {bytes future : Bytes} {fuel : ℕ}
    {s : Endpoint HostControl} (hfuel : s.reader.length < fuel)
    (h : InStep decode k messages bytes future s) :
    (Endpoint.receiveLoop (registerHostWithCell o) decode fuel s).consumer.Rejected ∨
      (InStep decode k messages bytes future
        (Endpoint.receiveLoop (registerHostWithCell o) decode fuel s) ∧
        (Endpoint.receiveLoop (registerHostWithCell o) decode fuel s).reader.next = .ok none) := by
  induction fuel generalizing s with
  | zero => omega
  | succ fuel ih =>
    obtain ⟨told, hheard, htold, hclosed⟩ := h
    obtain ⟨front, hfront, hbytes⟩ := hheard.front
    obtain ⟨unread, hsplit, hunread⟩ := hheard.unread
    rw [Endpoint.receiveLoop, if_neg (by rw [hheard.raw]; decide)]
    generalize hcoming : s.reader.bytes ++ future = coming at hunread
    cases hunread with
    | nil =>
      have hnext : s.reader.next = .ok none :=
        OuterFrameReader.next_of_bytes_nil (List.append_eq_nil_iff.1 hcoming).1
      rw [hnext]
      exact .inr ⟨⟨told, hheard, htold, hclosed⟩, hnext⟩
    | @cons payload m unread' _ rest hcap hdecode hrest =>
      rcases OuterFrameReader.next_cases hcap hcoming with hnext | ⟨reader, hnext, hbehind⟩
      · rw [hnext]
        exact .inr ⟨⟨told, hheard, htold, hclosed⟩, hnext⟩
      · simp only [hnext, hdecode]
        -- behind a `close` nothing would be left to read
        have hopen : s.consumer.closed = false := by
          by_contra hshut
          obtain ⟨code, reason, hmem⟩ := hk.closed told _ htold (by simpa using hshut)
          obtain ⟨a, b, rfl⟩ := List.append_of_mem hmem
          have hrest := hlast a code reason (b ++ m :: unread') (by rw [hsplit]; simp)
          simp at hrest
        obtain ⟨hraw, hreader, hstate, hshut⟩ :=
          Endpoint.dispatch_framed (HostControl.toRaw_not_mem (o := o) s.consumer m) reader
        rcases hk.onMessage told _ m htold hopen with ⟨hthrew, hrejected⟩ | ⟨hreturned, hrejected⟩ |
          ⟨hreturned, hkept, hclose⟩
        · rw [if_pos hthrew]
          refine .inl ?_
          rw [← hstate] at hrejected
          exact hrejected
        · rw [if_neg (by rw [hreturned]; decide)]
          rw [← hstate] at hrejected
          exact .inl (Endpoint.consumer_receiveLoop HostControl.rejected_onError
            HostControl.rejected_onMessage fuel hrejected)
        · rw [if_neg (by rw [hreturned]; decide)]
          have hshorter := OuterFrameReader.length_of_next hnext
          have hread : s.reader.bytes = outerFrame payload ++ reader.bytes := by
            have hcancel : s.reader.bytes ++ future = (outerFrame payload ++ reader.bytes) ++ future := by
              rw [hcoming, List.append_assoc, hbehind]
            exact List.append_cancel_right hcancel
          refine ih (by rw [hreader]; exact (by omega : reader.length < fuel)) ⟨told ++ [m], ?_, ?_, ?_⟩
          · refine ⟨hraw.trans hheard.raw, ⟨front ++ outerFrame payload,
              hfront.append hcap hdecode, ?_⟩, unread', ?_, ?_⟩
            · rw [hreader, hbytes, hread, List.append_assoc]
            · rw [hsplit, List.append_assoc, List.singleton_append]
            · rw [hreader]
              exact hbehind ▸ hrest
          · rw [hstate]
            exact hkept
          · have hbefore : ¬ s.closed = true := by
              rw [hclosed, hopen]
              decide
            rw [hshut, hstate, hclose]
            exact or_iff_right hbefore

/-! ## One event -/

lemma received_snoc {ε : Type*} (es : List (Endpoint.Event ε)) (e : Endpoint.Event ε) :
    received (es ++ [e]) = received es ++ e.bytes := by
  simp [received]

lemma inStep_receive {k : List OuterMessage → HostControl → Prop} (hk : Kept o k)
    {messages : List OuterMessage} (hlast : ClosesLast messages) {bytes chunk future : Bytes}
    {s : Endpoint HostControl} (h : InStep decode k messages bytes (chunk ++ future) s)
    (hnext : s.reader.next = .ok none) :
    (s.step (registerHostWithCell o) decode (.receive chunk)).consumer.Rejected ∨
      (InStep decode k messages (bytes ++ chunk) future
        (s.step (registerHostWithCell o) decode (.receive chunk)) ∧
        (s.step (registerHostWithCell o) decode (.receive chunk)).reader.next = .ok none) := by
  obtain ⟨told, hheard, htold, hclosed⟩ := h
  obtain ⟨front, hfront, hbytes⟩ := hheard.front
  obtain ⟨unread, hsplit, hunread⟩ := hheard.unread
  rw [Endpoint.step, Endpoint.receive]
  by_cases hshut : s.closed = true
  · -- the cell closed the connection, and nothing is left to come
    have hnone : unread = [] := by
      obtain ⟨code, reason, hmem⟩ := hk.closed told _ htold (hclosed.1 hshut)
      obtain ⟨a, b, rfl⟩ := List.append_of_mem hmem
      have hrest := hlast a code reason (b ++ unread) (by rw [hsplit]; simp)
      exact (List.append_eq_nil_iff.1 hrest).2
    rw [hnone] at hunread
    generalize hcoming : s.reader.bytes ++ (chunk ++ future) = coming at hunread
    cases hunread
    obtain ⟨hreader, hlater⟩ := List.append_eq_nil_iff.1 hcoming
    obtain ⟨rfl, rfl⟩ := List.append_eq_nil_iff.1 hlater
    rw [if_pos hshut, List.append_nil]
    refine .inr ⟨⟨told, hheard, htold, hclosed⟩, hnext⟩
  · rw [if_neg hshut, if_neg (by rw [hheard.raw]; decide)]
    refine inStep_receiveLoop hk hlast (Nat.lt_succ_self _) ⟨told, ⟨hheard.raw, ⟨front, hfront, ?_⟩,
      unread, hsplit, ?_⟩, htold, hclosed⟩
    · rw [OuterFrameReader.bytes_push, hbytes, List.append_assoc]
    · rw [OuterFrameReader.bytes_push, List.append_assoc]
      exact hunread

lemma step_own {s : Endpoint HostControl} {e : HostEvent} (he : e ≠ .close) :
    (s.step (registerHostWithCell o) decode (.own e)).raw = s.raw ∧
      (s.step (registerHostWithCell o) decode (.own e)).reader = s.reader ∧
      (s.step (registerHostWithCell o) decode (.own e)).consumer = (s.consumer.onEvent o e).1 ∧
      ((s.step (registerHostWithCell o) decode (.own e)).closed = true ↔ s.closed = true) := by
  have hcalls : Call.toRaw ∉ (s.consumer.onEvent o e).2 ∧ Call.close ∉ (s.consumer.onEvent o e).2 := by
    cases e with
    | connected => simp [HostControl.onEvent]
    | resume =>
      rw [HostControl.onEvent]
      split <;> simp
    | close => exact absurd rfl he
  have hswitch : Call.toRaw ∉ ((registerHostWithCell o).onEvent s.consumer e).2 := hcalls.1
  obtain ⟨hraw, hreader, hstate, hclosed⟩ := Endpoint.own_framed decode hswitch
  exact ⟨hraw, hreader, hstate, hclosed.trans (or_iff_left hcalls.2)⟩

lemma kept_behind {k : List OuterMessage → HostControl → Prop} (hk : Kept o k)
    (before : List OuterMessage) : Kept o fun told c => before <+: told ∧ k told c where
  closed := fun told c h => hk.closed told c h.2
  onMessage := by
    intro told c m h hopen
    rcases hk.onMessage told c m h.2 hopen with hthrew | hrejected | ⟨hreturned, hkept, hclose⟩
    · exact .inl hthrew
    · exact .inr (.inl hrejected)
    · exact .inr (.inr ⟨hreturned, ⟨h.1.trans (List.prefix_append _ _), hkept⟩, hclose⟩)

/-! ## Runs -/

variable (o decode)

/-- The host's control connection. -/
def hostMachine : Machine (Endpoint HostControl) (Endpoint.Event HostEvent) :=
  endpointMachine decode (registerHostWithCell o) HostControl.init

/-- Whenever the code behind the `await` has not run, no `conn-open`, `drain` or `close` behind
`host-registered` has arrived whole. -/
def Prompt (es : List (Endpoint.Event HostEvent)) : Prop :=
  ∀ pre post, es = pre ++ post → ((hostMachine o decode).run pre).consumer.serving = false →
    Quiet (behindRegistered (completeMessages decode (received pre)))

/-- The host did what it owes the messages behind `host-registered` that arrived whole. -/
def Delivers (es : List (Endpoint.Event HostEvent)) : Prop :=
  ((hostMachine o decode).run es).consumer.actions =
    (behindRegistered (completeMessages decode (received es))).filterMap HostAction.of

variable {o decode}

lemma prompt_snoc {es : List (Endpoint.Event HostEvent)} {e : Endpoint.Event HostEvent} :
    Prompt o decode (es ++ [e]) ↔ Prompt o decode es ∧
      (((hostMachine o decode).run (es ++ [e])).consumer.serving = false →
        Quiet (behindRegistered (completeMessages decode (received (es ++ [e]))))) := by
  constructor
  · intro h
    refine ⟨fun pre post hes => ?_, h (es ++ [e]) [] (List.append_nil _).symm⟩
    exact h pre (post ++ [e]) (by rw [hes, List.append_assoc])
  · rintro ⟨hbefore, hnow⟩ pre post hes
    rcases List.eq_nil_or_concat post with rfl | ⟨post', e', rfl⟩
    · rw [List.append_nil] at hes
      rw [← hes]
      exact hnow
    · rw [List.concat_eq_append, ← List.append_assoc] at hes
      exact hbefore pre post' (List.append_inj' hes rfl).1

lemma quiet_behindRegistered {told told' : List OuterMessage} (h : told <+: told')
    (hquiet : Quiet (behindRegistered told')) : Quiet (behindRegistered told) := by
  obtain ⟨more, rfl⟩ := h
  by_cases hregistered : told.any OuterMessage.isHostRegistered = true
  · rw [behindRegistered_append hregistered] at hquiet
    exact fun m hm => hquiet m (List.mem_append_left _ hm)
  · rw [behindRegistered_of_none (by simpa using hregistered)]
    intro m hm
    cases hm

/-- The invariant of a run: what the host dropped is what came before it served. -/
def Told (o : RegisterHostOptions) (decode : Bytes → Option OuterMessage)
    (messages : List OuterMessage) (future : Bytes) (es : List (Endpoint.Event HostEvent))
    (s : Endpoint HostControl) : Prop :=
  s.consumer.Rejected ∨
    s.reader.next = .ok none ∧
      (InStep decode (fun told c => c.Waiting told ∧
          (Prompt o decode es ↔ Quiet (behindRegistered told))) messages (received es) future s ∨
        ∃ missed, (Prompt o decode es ↔ Quiet missed) ∧
          InStep decode (HostControl.Serving missed) messages (received es) future s)

lemma prompt_of_waiting {messages : List OuterMessage} {future : Bytes}
    {es : List (Endpoint.Event HostEvent)} {e : Endpoint.Event HostEvent}
    {told told' : List OuterMessage} (hprompt : Prompt o decode es ↔ Quiet (behindRegistered told))
    (hmore : told <+: told')
    (hserving : ((hostMachine o decode).run (es ++ [e])).consumer.serving = false)
    (hheard : Heard decode messages (received (es ++ [e])) future told'
      ((hostMachine o decode).run (es ++ [e])))
    (hnext : ((hostMachine o decode).run (es ++ [e])).reader.next = .ok none) :
    Prompt o decode (es ++ [e]) ↔ Quiet (behindRegistered told') := by
  rw [prompt_snoc, hprompt, hheard.complete hnext]
  constructor
  · exact fun h => h.2 hserving
  · exact fun h => ⟨quiet_behindRegistered hmore h, fun _ => h⟩

lemma prompt_of_serving {es : List (Endpoint.Event HostEvent)} {e : Endpoint.Event HostEvent}
    (hserving : ((hostMachine o decode).run (es ++ [e])).consumer.serving = true) :
    Prompt o decode (es ++ [e]) ↔ Prompt o decode es := by
  rw [prompt_snoc]
  refine and_iff_left fun hwaiting => ?_
  rw [hserving] at hwaiting
  cases hwaiting

lemma told_receive {messages : List OuterMessage} (hlast : ClosesLast messages) {future : Bytes}
    {es : List (Endpoint.Event HostEvent)} {chunk : Bytes}
    (h : Told o decode messages (chunk ++ future) es ((hostMachine o decode).run es)) :
    Told o decode messages future (es ++ [.receive chunk])
      ((hostMachine o decode).run (es ++ [.receive chunk])) := by
  have hstep : (hostMachine o decode).run (es ++ [.receive chunk]) =
      ((hostMachine o decode).run es).step (registerHostWithCell o) decode (.receive chunk) :=
    Machine.run_snoc _ es _
  have hbytes : received (es ++ [Endpoint.Event.receive chunk]) = received es ++ chunk :=
    received_snoc es _
  rcases h with hrejected | ⟨hnext, hphase⟩
  · rw [hstep]
    exact .inl (Endpoint.consumer_step HostControl.rejected_onError HostControl.rejected_onMessage
      HostControl.rejected_onEvent hrejected _)
  · rcases hphase with ⟨told, hheard, ⟨hwaiting, hprompt⟩, hclosed⟩ | ⟨missed, hprompt, hserving⟩
    · have hreceived := inStep_receive (kept_behind (kept_waiting (o := o)) told) hlast
        ⟨told, hheard, ⟨List.prefix_rfl, hwaiting⟩, hclosed⟩ hnext
      rw [← hstep, ← hbytes] at hreceived
      rcases hreceived with hrejected | ⟨⟨told', hheard', ⟨hmore, hwaiting'⟩, hclosed'⟩, hnext'⟩
      · exact .inl hrejected
      · exact .inr ⟨hnext', .inl ⟨told', hheard', ⟨hwaiting',
          prompt_of_waiting hprompt hmore hwaiting'.serving hheard' hnext'⟩, hclosed'⟩⟩
    · have hreceived := inStep_receive (kept_serving (o := o) missed) hlast hserving hnext
      rw [← hstep, ← hbytes] at hreceived
      rcases hreceived with hrejected | ⟨⟨told', hheard', hserving', hclosed'⟩, hnext'⟩
      · exact .inl hrejected
      · exact .inr ⟨hnext', .inr ⟨missed, (prompt_of_serving hserving'.serving).trans hprompt,
          told', hheard', hserving', hclosed'⟩⟩

lemma told_own {messages : List OuterMessage} {future : Bytes}
    {es : List (Endpoint.Event HostEvent)} {e : HostEvent} (he : e ≠ .close)
    (h : Told o decode messages future es ((hostMachine o decode).run es)) :
    Told o decode messages future (es ++ [.own e]) ((hostMachine o decode).run (es ++ [.own e])) := by
  have hstep : (hostMachine o decode).run (es ++ [.own e]) =
      ((hostMachine o decode).run es).step (registerHostWithCell o) decode (.own e) :=
    Machine.run_snoc _ es _
  have hbytes : received (es ++ [Endpoint.Event.own e]) = received es := by
    rw [received_snoc, Endpoint.Event.bytes, List.append_nil]
  rcases h with hrejected | ⟨hnext, hphase⟩
  · rw [hstep]
    exact .inl (Endpoint.consumer_step HostControl.rejected_onError HostControl.rejected_onMessage
      HostControl.rejected_onEvent hrejected _)
  · obtain ⟨hraw, hreader, hstate, hshut⟩ :=
      step_own (o := o) (s := (hostMachine o decode).run es) he
    rw [← hstep] at hraw hreader hstate hshut
    have hheard' : ∀ told, Heard decode messages (received es) future told ((hostMachine o decode).run es) →
        Heard decode messages (received (es ++ [.own e])) future told
          ((hostMachine o decode).run (es ++ [.own e])) := by
      intro told hheard
      rw [hbytes]
      exact ⟨hraw.trans hheard.raw, hreader ▸ hheard.front, hreader ▸ hheard.unread⟩
    have hnext' : ((hostMachine o decode).run (es ++ [.own e])).reader.next = .ok none := by
      rw [hreader]
      exact hnext
    refine .inr ⟨hnext', ?_⟩
    rcases hphase with ⟨told, hheard, ⟨hwaiting, hprompt⟩, hclosed⟩ |
      ⟨missed, hprompt, told, hheard, hserving, hclosed⟩
    · by_cases hresume : e = .resume ∧ ∃ keys,
          ((hostMachine o decode).run es).consumer.promise = .resolved keys
      · -- the host begins to serve, and what it heard so far it missed
        obtain ⟨rfl, keys, hkeys⟩ := hresume
        have hstate' : ((hostMachine o decode).run (es ++ [.own .resume])).consumer =
            { ((hostMachine o decode).run es).consumer with serving := true } := by
          rw [hstate]
          simp only [HostControl.onEvent, hkeys]
        have hregistered : told.any OuterMessage.isHostRegistered = true := by
          rcases hwaiting.promise with ⟨hpending, -⟩ | ⟨-, hregistered⟩
          · rw [hkeys] at hpending
            cases hpending
          · exact hregistered
        have hserving : HostControl.Serving (behindRegistered told) told
            ((hostMachine o decode).run (es ++ [.own .resume])).consumer := by
          rw [hstate']
          refine ⟨rfl, hregistered, ⟨[], by rw [List.append_nil], hwaiting.actions⟩, fun hclosed => ?_⟩
          rw [hwaiting.closed] at hclosed
          cases hclosed
        refine .inr ⟨behindRegistered told, (prompt_of_serving hserving.serving).trans hprompt, told,
          hheard' told hheard, hserving, ?_⟩
        rw [hshut, hclosed, hstate']
      · have hsame : ((hostMachine o decode).run (es ++ [.own e])).consumer =
            ((hostMachine o decode).run es).consumer := by
          rw [hstate]
          cases e with
          | connected => rfl
          | resume =>
            rw [HostControl.onEvent]
            split
            · next keys hkeys => exact absurd ⟨rfl, keys, hkeys⟩ hresume
            · rfl
          | close => exact absurd rfl he
        refine .inl ⟨told, hheard' told hheard, ⟨hsame ▸ hwaiting, ?_⟩, by rw [hshut, hclosed, hsame]⟩
        exact prompt_of_waiting hprompt List.prefix_rfl (hsame ▸ hwaiting.serving)
          (hheard' told hheard) hnext'
    · have hsame : ((hostMachine o decode).run (es ++ [.own e])).consumer =
          ((hostMachine o decode).run es).consumer := by
        rw [hstate]
        have hset : { ((hostMachine o decode).run es).consumer with serving := true } =
            ((hostMachine o decode).run es).consumer := by
          have hserving' := hserving.serving
          rw [← hserving']
        cases e with
        | connected => rfl
        | resume =>
          rw [HostControl.onEvent]
          split
          · exact hset
          · rfl
        | close => exact absurd rfl he
      have hserving' : HostControl.Serving missed told
          ((hostMachine o decode).run (es ++ [.own e])).consumer := hsame ▸ hserving
      exact .inr ⟨missed, (prompt_of_serving hserving'.serving).trans hprompt, told,
        hheard' told hheard, hserving', by rw [hshut, hclosed, hsame]⟩

lemma told_run {messages : List OuterMessage} (hlast : ClosesLast messages) {stream : Bytes}
    (hstream : Stream decode messages none stream) (es : List (Endpoint.Event HostEvent)) :
    Endpoint.Event.own .close ∉ es → ∀ future, received es ++ future = stream →
      Told o decode messages future es ((hostMachine o decode).run es) := by
  refine (hostMachine o decode).history_invariant
    (p := fun es s => Endpoint.Event.own .close ∉ es → ∀ future, received es ++ future = stream →
      Told o decode messages future es s) ?_ ?_ es
  · intro _ future hfuture
    have hnext : (Endpoint.init HostControl.init).reader.next = .ok none :=
      OuterFrameReader.next_of_bytes_nil rfl
    have hwaiting : HostControl.init.Waiting [] := ⟨rfl, rfl, rfl, .inl ⟨rfl, rfl⟩⟩
    have hquiet : Quiet (behindRegistered []) := by
      intro m hm
      cases hm
    have hheard : Heard decode messages [] future [] (Endpoint.init HostControl.init) :=
      ⟨rfl, ⟨[], .nil, rfl⟩, messages, rfl, hfuture ▸ hstream⟩
    have hprompt : Prompt o decode [] := by
      intro pre post hes _
      obtain ⟨rfl, -⟩ := List.append_eq_nil_iff.1 hes.symm
      have hcomplete : completeMessages decode (received ([] : List (Endpoint.Event HostEvent))) = [] :=
        hheard.complete hnext
      rw [hcomplete]
      exact hquiet
    refine .inr ⟨hnext, .inl ⟨[], hheard, ⟨hwaiting, iff_of_true hprompt hquiet⟩, ?_⟩⟩
    exact Iff.rfl
  · intro es e ih hclose future hfuture
    rw [List.mem_append, not_or] at hclose
    rw [received_snoc, List.append_assoc] at hfuture
    have hbefore := ih hclose.1 (e.bytes ++ future) hfuture
    rw [← Machine.run_snoc]
    cases e with
    | receive chunk =>
      rw [Endpoint.Event.bytes] at hbefore
      exact told_receive hlast hbefore
    | own e =>
      rw [Endpoint.Event.bytes, List.nil_append] at hbefore
      refine told_own ?_ hbefore
      rintro rfl
      exact hclose.2 List.mem_cons_self

lemma filterMap_eq_nil_iff_quiet {messages : List OuterMessage} :
    messages.filterMap HostAction.of = [] ↔ Quiet messages := by
  rw [List.filterMap_eq_nil_iff]
  rfl

/-- A host whose primitives answer with zeros. -/
def zeroHost : RegisterHostOptions where
  crypto :=
    { getPublicKey := fun _ => Bytes32.repeat 0
      getSharedSecret := fun _ _ => some []
      hkdf := fun _ _ _ _ => []
      hmac := fun _ _ => List.replicate 32 0
      sha256 := fun _ => [] }
  hostId := js "h"
  hostStaticSecret := []

/-- The frame of a message. -/
def frameOf (m : OuterMessage) : Bytes := outerFrame (utf8 (stringify m.toJson))

/-- What a cell sends a host that registers while a controller waits. -/
def earlyConnOpen : List OuterMessage :=
  [.hostChallenge (js "c") (Bytes32.repeat 1) (Bytes32.repeat 2), .hostRegistered (js "h"),
    .connOpen (Ticket.repeat 0x61 (by decide)) (Bytes32.repeat 3)]

variable {numberText : JsString → JsString}

/-- **What a registered host is told.** In a run on a stream of the cell in which the registration
succeeded, the host acted on every `conn-open`, `drain` and `close` behind `host-registered` exactly
when none of them had arrived whole before the code behind its `await` ran. -/
theorem registration_delivers_iff (hone : numberText (js "1") = js "1") {messages : List OuterMessage}
    (hlast : ClosesLast messages) {stream : Bytes} (hstream : encodeStream messages none = some stream)
    {es : List (Endpoint.Event HostEvent)} (hes : received es <+: stream)
    (hclose : Endpoint.Event.own .close ∉ es) {keys : RegisteredKeys}
    (hkeys : ((hostMachine o (decodeOuterMessage numberText)).run es).consumer.promise =
      .resolved keys) :
    Delivers o (decodeOuterMessage numberText) es ↔ Prompt o (decodeOuterMessage numberText) es := by
  obtain ⟨future, hfuture⟩ := hes
  rcases told_run (o := o) hlast (stream_of_encodeStream hone hstream) es hclose future hfuture with
    ⟨-, hrejected⟩ | ⟨hnext, hphase⟩
  · rw [hkeys] at hrejected
    cases hrejected
  · rcases hphase with ⟨told, hheard, ⟨hwaiting, hprompt⟩, -⟩ |
      ⟨missed, hprompt, told, hheard, hserving, -⟩
    · rw [hprompt, Delivers, hheard.complete hnext, hwaiting.actions, eq_comm, filterMap_eq_nil_iff_quiet]
    · obtain ⟨late, hbehind, hactions⟩ := hserving.actions
      rw [hprompt, Delivers, hheard.complete hnext, hbehind, hactions, List.filterMap_append,
        eq_comm, List.append_left_eq_self, filterMap_eq_nil_iff_quiet]

/-- With the `conn-open` in a chunk of its own behind the `await`, both sides hold. -/
theorem registration_delivers_iff_separate :
    let es : List (Endpoint.Event HostEvent) :=
      [.own .connected, .receive (frameOf (.hostChallenge (js "c") (Bytes32.repeat 1) (Bytes32.repeat 2))),
        .receive (frameOf (.hostRegistered (js "h"))), .own .resume,
        .receive (frameOf (.connOpen (Ticket.repeat 0x61 (by decide)) (Bytes32.repeat 3)))]
    Delivers zeroHost (decodeOuterMessage id) es ↔ Prompt zeroHost (decodeOuterMessage id) es := by
  intro es
  have hlast : ClosesLast earlyConnOpen := by
    intro front code reason rest h
    have hmem : OuterMessage.close code reason ∈ earlyConnOpen := h ▸ by simp
    simp [earlyConnOpen] at hmem
  obtain ⟨hstream, hkeys⟩ : encodeStream earlyConnOpen none = some (received es) ∧
      ((hostMachine zeroHost (decodeOuterMessage id)).run es).consumer.promise =
        .resolved ⟨[], js "c"⟩ := by
    decide +kernel
  exact registration_delivers_iff rfl hlast hstream List.prefix_rfl (by simp [es]) hkeys

/-- A `conn-open` in the chunk of `host-registered` is lost. -/
theorem connOpen_lost :
    let es : List (Endpoint.Event HostEvent) :=
      [.own .connected, .receive (frameOf (.hostChallenge (js "c") (Bytes32.repeat 1) (Bytes32.repeat 2))),
        .receive (frameOf (.hostRegistered (js "h")) ++
          frameOf (.connOpen (Ticket.repeat 0x61 (by decide)) (Bytes32.repeat 3))), .own .resume]
    encodeStream earlyConnOpen none = some (received es) ∧
      ((hostMachine zeroHost (decodeOuterMessage id)).run es).consumer.promise =
        .resolved ⟨[], js "c"⟩ ∧
      ¬ Delivers zeroHost (decodeOuterMessage id) es := by
  intro es
  rw [Delivers]
  decide +kernel

end Pherry.RelayCore
