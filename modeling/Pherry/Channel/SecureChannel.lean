import Pherry.Channel.ByteQueue
import Pherry.Channel.Handshake
import Pherry.Lib.Machine

/-!
# The secure channel

`SecureChannel` as a state machine. Its methods call out in three places and then go on: the
responder's reply is written to the duplex, `onOpen` runs, and `onFrame` runs. While a call out is
running anything may happen to the channel, so what is left to do behind it is kept on a stack,
and `resume` is the return of the innermost one. The other calls out are the last thing a method
does; they are effects.
-/

namespace Pherry.Channel

open Lib

/-- `HANDSHAKE_MSG_BYTES`. -/
def handshakeMsgBytes : ℕ := 32

/-- `LENGTH_PREFIX_BYTES`. -/
def lengthPrefixBytes : ℕ := 4

/-- `MAX_RECORD_BYTES`. -/
def maxRecordBytes : ℕ := 4 * 1024 * 1024

/-- `RECORD_OVERHEAD_BYTES`: the frame's tag and the authentication tag. -/
def recordOverheadBytes : ℕ := 1 + tagBytes

/-- The two ends of a channel. -/
inductive Role
  | initiator
  | responder
deriving DecidableEq, Repr

/-- A call out of `#drain` that has not returned. -/
inductive Callback
  | reply (keys : SessionKeys)
  | opened
  | frame

/-- How a call out ends. `reportThrew` is a frame handler that threw and whose error made
`onHandlerError` throw in turn. -/
inductive Outcome
  | returned
  | threw
  | reportThrew
deriving DecidableEq

/-- The state of a channel, with its calls out, the innermost first. `scheduled` is whether the
microtask of the constructor is still to run. -/
structure SecureChannel where
  role : Role
  scheduled : Bool
  handshake : Option Handshake
  inbound : ByteQueue
  keys : Option SessionKeys
  sealer : Option Sealer
  opener : Option Opener
  isOpen : Bool
  closed : Bool
  authenticated : Bool
  calls : List Callback

/-- What a channel does to the outside, and what it does with the bytes it received. -/
inductive Effect
  | sent (bytes : Bytes)
  | consumed (peerMessage : Bytes)
  | taken (bytes : Bytes)
  | sealed (key nonce : Bytes) (frame : ChannelFrame) (record : Bytes)
  | opened (key nonce record frameBytes : Bytes)
  | delivered (frame : ChannelFrame)
  | closed (error : Option ChannelError)

/-- What happens to a channel. -/
inductive Event
  | microtask
  | receive (bytes : Bytes)
  | send (frame : ChannelFrame)
  | close
  | resume (outcome : Outcome)

/-- The end that brings this static key. -/
def StaticKey.role : StaticKey → Role
  | pinned _ => .initiator
  | own _ => .responder

/-- The record key a role seals with. -/
def SessionKeys.sendKey (keys : SessionKeys) : Role → Bytes
  | .initiator => keys.keyI2R
  | .responder => keys.keyR2I

/-- The record key a role opens with. -/
def SessionKeys.recvKey (keys : SessionKeys) : Role → Bytes
  | .initiator => keys.keyR2I
  | .responder => keys.keyI2R

/-- The direction a role seals in. -/
def Role.sendDirection : Role → Direction
  | initiator => .initiatorToResponder
  | responder => .responderToInitiator

/-- The direction a role opens in. -/
def Role.recvDirection : Role → Direction
  | initiator => .responderToInitiator
  | responder => .initiatorToResponder

namespace SecureChannel

/-- A new channel over this handshake. -/
def new (handshake : Handshake) : SecureChannel :=
  { role := handshake.static.role
    scheduled := handshake.static.role = .initiator
    handshake := some handshake
    inbound := .empty
    keys := none
    sealer := none
    opener := none
    isOpen := false
    closed := false
    authenticated := false
    calls := [] }

/-- `#shutdown`. -/
def shutdown (s : SecureChannel) (error : Option ChannelError) : SecureChannel × List Effect :=
  if s.closed then (s, [])
  else
    ({ s with closed := true, isOpen := false, keys := none, sealer := none, opener := none },
      [.closed error])

/-- The effects of a step that goes on with `r`. -/
def emit (effects : List Effect) (r : SecureChannel × List Effect) : SecureChannel × List Effect :=
  (r.1, effects ++ r.2)

variable (crypto : Crypto) (aead : Aead)

/-- The record loop of `#drain`, up to its next call out. An exception ends in `#shutdown`. -/
def pump (s : SecureChannel) : SecureChannel × List Effect :=
  match s.opener with
  | none => (s, [])
  | some opener =>
    if s.inbound.length < lengthPrefixBytes then (s, [])
    else
      let length := s.inbound.peekUint32BE
      if length > maxRecordBytes then s.shutdown (some (.recordTooLong length))
      else if s.inbound.length < lengthPrefixBytes + length then (s, [])
      else
        let header := s.inbound.take lengthPrefixBytes
        let record := header.2.take length
        let s := { s with inbound := record.2 }
        let taken := Effect.taken (header.1 ++ record.1)
        match opener.open aead record.1 with
        | .error e => emit [taken] (s.shutdown (some e))
        | .ok (frameBytes, opener') =>
          let opened := Effect.opened opener.key opener.nonce record.1 frameBytes
          let s := { s with opener := some opener' }
          match decodeFrame frameBytes with
          | .error e => emit [taken, opened] (s.shutdown (some e))
          | .ok frame =>
            ({ s with authenticated := true, calls := .frame :: s.calls },
              [taken, opened, .delivered frame])

/-- The end of `#completeHandshake`: install the keys and call `onOpen`. -/
def establish (s : SecureChannel) (keys : SessionKeys) : SecureChannel :=
  { s with
    keys := some keys
    sealer := some (.new crypto (keys.sendKey s.role) keys.sessionId s.role.sendDirection)
    opener := some (.new crypto (keys.recvKey s.role) keys.sessionId s.role.recvDirection)
    isOpen := true
    handshake := none
    calls := .opened :: s.calls }

/-- `#completeHandshake` up to its first call out: the responder's reply, or `onOpen`. -/
def completeHandshake (s : SecureChannel) (peerMessage : Bytes) : SecureChannel × List Effect :=
  match s.handshake with
  | none => s.pump aead
  | some handshake =>
    match handshake.consume crypto peerMessage with
    | .error e => emit [.consumed peerMessage] (s.shutdown (some e))
    | .ok (keys, wiped) =>
      let s := { s with handshake := some wiped }
      match s.role with
      | .responder =>
        ({ s with calls := .reply keys :: s.calls },
          [.consumed peerMessage, .sent handshake.message])
      | .initiator => (s.establish crypto keys, [.consumed peerMessage])

/-- `#drain`. -/
def drain (s : SecureChannel) : SecureChannel × List Effect :=
  if s.isOpen then s.pump aead
  else if s.inbound.length < handshakeMsgBytes then (s, [])
  else
    let message := s.inbound.take handshakeMsgBytes
    { s with inbound := message.2 }.completeHandshake crypto aead message.1

/-- `#receive`. -/
def receive (s : SecureChannel) (bytes : Bytes) : SecureChannel × List Effect :=
  if s.closed then (s, []) else { s with inbound := s.inbound.push bytes }.drain crypto aead

/-- `send`. A send that throws does nothing. -/
def send (s : SecureChannel) (frame : ChannelFrame) : SecureChannel × List Effect :=
  if s.closed || !s.isOpen then (s, [])
  else
    match s.sealer with
    | none => (s, [])
    | some sealer =>
      if s.role = .initiator ∧ s.authenticated = false ∧ sealer.counter ≥ 1 then (s, [])
      else if recordOverheadBytes + frame.payload.length > maxRecordBytes then (s, [])
      else
        match sealer.seal aead (encodeFrame frame) with
        | none => (s, [])
        | some (record, sealer') =>
          ({ s with sealer := some sealer' },
            [.sealed sealer.key sealer.nonce frame record,
              .sent (uint32BE record.length ++ record)])

/-- The return of the innermost call out, and what `#drain` does behind it. A frame handler's
exception is caught; any other goes to `#shutdown`. -/
def resume (s : SecureChannel) (outcome : Outcome) : SecureChannel × List Effect :=
  match s.calls with
  | [] => (s, [])
  | .reply keys :: calls =>
    let s := { s with calls }
    if outcome = .returned then (s.establish crypto keys, [])
    else s.shutdown (some .callbackThrew)
  | .opened :: calls =>
    let s := { s with calls }
    if outcome = .returned then s.pump aead else s.shutdown (some .callbackThrew)
  | .frame :: calls =>
    let s := { s with calls }
    if outcome = .reportThrew then s.shutdown (some .callbackThrew) else s.pump aead

/-- The microtask an initiator's constructor queues: open the conversation. -/
def start (s : SecureChannel) : SecureChannel × List Effect :=
  if s.scheduled then
    ({ s with scheduled := false },
      match s.handshake with
      | some handshake => if s.closed then [] else [.sent handshake.message]
      | none => [])
  else (s, [])

/-- One event and its effects. -/
def react (s : SecureChannel) : Event → SecureChannel × List Effect
  | .microtask => s.start
  | .receive bytes => s.receive crypto aead bytes
  | .send frame => s.send aead frame
  | .close => s.shutdown none
  | .resume outcome => s.resume crypto aead outcome

/-! ## What a step can do -/

variable {crypto aead}

lemma shutdown_of_closed {s : SecureChannel} (h : s.closed = true) (error : Option ChannelError) :
    s.shutdown error = (s, []) := if_pos h

/-- The states and effects the record loop can stop with. -/
inductive Pumped (aead : Aead) (s : SecureChannel) : SecureChannel × List Effect → Prop
  /-- No record is complete, or there is no opener. -/
  | waiting : Pumped aead s (s, [])
  | tooLong (length : ℕ) (hopener : s.opener.isSome) :
      Pumped aead s (s.shutdown (some (.recordTooLong length)))
  /-- A record was taken that does not open or holds no frame. -/
  | failed (taken : Bytes) (inbound : ByteQueue) (opener : Option Opener)
      (opened : List Effect) (e : ChannelError)
      (htaken : taken ++ inbound.contents = s.inbound.contents)
      (hopened : opened = [] ∨ ∃ o record frameBytes, s.opener = some o ∧
        aead.decrypt o.key o.nonce record = some frameBytes ∧
          opened = [.opened o.key o.nonce record frameBytes]) :
      Pumped aead s (emit (.taken taken :: opened) ({ s with inbound, opener }.shutdown (some e)))
  | delivered (taken : Bytes) (inbound : ByteQueue) (opener opener' : Opener)
      (record frameBytes : Bytes) (frame : ChannelFrame)
      (htaken : taken ++ inbound.contents = s.inbound.contents)
      (hopener : s.opener = some opener)
      (hopen : opener.open aead record = .ok (frameBytes, opener'))
      (hframe : decodeFrame frameBytes = .ok frame) :
      Pumped aead s
        ({ s with
            inbound
            opener := some opener'
            authenticated := true
            calls := .frame :: s.calls },
          [.taken taken, .opened opener.key opener.nonce record frameBytes, .delivered frame])

lemma take_take {q : ByteQueue} {m n : ℕ} (h : m + n ≤ q.length) :
    (q.take m).1 ++ ((q.take m).2.take n).1 ++ ((q.take m).2.take n).2.contents = q.contents := by
  have hlength := q.length_eq
  have hrest : (q.take m).2.length = q.length - m := by
    rw [ByteQueue.length_eq, ByteQueue.contents_take, List.length_drop, hlength]
  rw [ByteQueue.take_fst (by omega), ByteQueue.take_fst (by omega)]
  simp only [ByteQueue.contents_take, List.append_assoc, List.take_append_drop]

lemma pumped (s : SecureChannel) : Pumped aead s (s.pump aead) := by
  unfold pump
  split
  · exact .waiting
  · next opener hopener =>
    split
    · exact .waiting
    · simp only
      split
      · exact .tooLong _ (by rw [hopener]; rfl)
      · split
        · exact .waiting
        · next hlong =>
          have htaken := take_take (q := s.inbound) (Nat.le_of_not_lt hlong)
          split
          · next e _ => exact .failed _ _ s.opener [] e htaken (.inl rfl)
          · next frameBytes opener' hopen =>
            split
            · next e _ =>
              exact .failed _ _ (some opener') _ e htaken
                (.inr ⟨opener, _, frameBytes, hopener, (Opener.open_eq_ok hopen).1, rfl⟩)
            · next frame hframe => exact .delivered _ _ opener opener' _ _ frame htaken hopener hopen hframe

variable (crypto aead) in
lemma completeHandshake_eq {s : SecureChannel} {handshake : Handshake}
    (h : s.handshake = some handshake) (message : Bytes) :
    (∃ e, s.completeHandshake crypto aead message
      = emit [.consumed message] (s.shutdown (some e))) ∨
    (∃ keys wiped, s.completeHandshake crypto aead message
      = ({ s with handshake := some wiped, calls := .reply keys :: s.calls },
          [.consumed message, .sent handshake.message])) ∨
    ∃ keys wiped, s.completeHandshake crypto aead message
      = ({ s with handshake := some wiped }.establish crypto keys, [.consumed message]) := by
  unfold completeHandshake
  rw [h]
  simp only
  split
  · next e _ => exact .inl ⟨e, rfl⟩
  · next keys wiped _ =>
    split
    · exact .inr (.inl ⟨keys, wiped, rfl⟩)
    · exact .inr (.inr ⟨keys, wiped, rfl⟩)

/-! ## Sending -/

variable (aead) in
lemma send_eq (s : SecureChannel) (frame : ChannelFrame) :
    s.send aead frame = (s, []) ∨ ∃ sealer sealer' record,
      (s.closed = false ∧ s.sealer = some sealer ∧
        sealer.seal aead (encodeFrame frame) = some (record, sealer')) ∧
      s.send aead frame = ({ s with sealer := some sealer' },
        [.sealed sealer.key sealer.nonce frame record, .sent (uint32BE record.length ++ record)]) := by
  unfold send
  split
  · exact .inl rfl
  · next hlive =>
    simp only [Bool.or_eq_true, not_or, Bool.not_eq_true] at hlive
    split
    · exact .inl rfl
    · next sealer hsealer =>
      split
      · exact .inl rfl
      · split
        · exact .inl rfl
        · split
          · exact .inl rfl
          · next record sealer' hseal =>
            exact .inr ⟨sealer, sealer', record, ⟨hlive.1, hsealer, hseal⟩, rfl⟩

lemma start_eq (s : SecureChannel) : s.start = (s, []) ∨
    ∃ effects, s.start = ({ s with scheduled := false }, effects) ∧
      (effects = [] ∨ ∃ bytes, effects = [.sent bytes]) := by
  unfold start
  split
  · right
    refine ⟨_, rfl, ?_⟩
    split
    · split
      · exact .inl rfl
      · exact .inr ⟨_, rfl⟩
    · exact .inl rfl
  · exact .inl rfl

/-! ## Closing -/

@[simp] lemma closed_shutdown (s : SecureChannel) (error : Option ChannelError) :
    (s.shutdown error).1.closed = true := by
  unfold shutdown
  split
  · assumption
  · rfl

@[simp] lemma calls_shutdown (s : SecureChannel) (error : Option ChannelError) :
    (s.shutdown error).1.calls = s.calls := by
  unfold shutdown
  split <;> rfl

@[simp] lemma inbound_shutdown (s : SecureChannel) (error : Option ChannelError) :
    (s.shutdown error).1.inbound = s.inbound := by
  unfold shutdown
  split <;> rfl

lemma effects_shutdown (s : SecureChannel) (error : Option ChannelError) :
    (s.shutdown error).2 = [] ∨ (s.shutdown error).2 = [.closed error] := by
  unfold shutdown
  split
  · exact .inl rfl
  · exact .inr rfl

end SecureChannel

/-- A channel over this handshake as a machine. -/
def channelMachine (crypto : Crypto) (aead : Aead) (handshake : Handshake) :
    Machine SecureChannel Event :=
  ⟨.new handshake, fun s e => (s.react crypto aead e).1⟩

end Pherry.Channel
