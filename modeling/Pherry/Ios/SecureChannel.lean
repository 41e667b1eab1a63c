import Pherry.Channel.Handshake
import Pherry.Ios.Record
import Pherry.Lib.Machine

/-!
# The phone's secure channel

`SecureChannel` of the phone. A method of the actor that awaits the transport is cut in two there: what it
does before, and what behind. Here the transport takes what it is sent at once.
-/

namespace Pherry.Ios

open Lib Channel

/-! ## The handshake -/

/-- `ChannelKDF.deriveSessionKeys`. -/
def deriveSessionKeys (crypto : Crypto)
    (dhEE dhES initiatorEphemeralPub responderEphemeralPub : Bytes) (context : Option Bytes) : SessionKeys :=
  let ikm := dhEE ++ dhES
  let saltInput := ascii "pherry/channel/v1/salt" ++ initiatorEphemeralPub ++ responderEphemeralPub
  let salt := crypto.sha256 (match context with
    | some context => saltInput ++ context
    | none => saltInput)
  let bytes := crypto.hkdf ikm salt (ascii "pherry/channel/v1") 96
  { keyI2R := bytes.take 32
    keyR2I := (bytes.drop 32).take 32
    sessionId := (bytes.drop 64).take 32 }

/-- How a channel is constructed. -/
inductive ChannelRole
  | initiator (pinnedHostStatic : Bytes)
  | responder (staticSecretKey : Bytes)
deriving DecidableEq

/-- A handshake in progress. -/
structure ChannelHandshake where
  ephemeralSecret : Bytes
  message : Bytes
  kind : ChannelRole

/-- `X25519.dh`. A public key of another length throws. -/
def sharedSecret (crypto : Crypto) (secret peerPublic : Bytes) : Option Bytes :=
  if peerPublic.length ≠ 32 then none else crypto.getSharedSecret secret peerPublic

/-- `consume`. -/
def ChannelHandshake.consume (crypto : Crypto) (h : ChannelHandshake) (peerEphemeralPub : Bytes)
    (context : Option Bytes) : Except ChannelError SessionKeys :=
  if peerEphemeralPub.length ≠ 32 then
    .error (.handshakeFailed "peer handshake message must be 32 bytes")
  else
    let keys := do
      let dhEE ← sharedSecret crypto h.ephemeralSecret peerEphemeralPub
      match h.kind with
      | .initiator pinnedStatic =>
        let dhES ← sharedSecret crypto h.ephemeralSecret pinnedStatic
        return deriveSessionKeys crypto dhEE dhES h.message peerEphemeralPub context
      | .responder staticSecret =>
        let dhES ← sharedSecret crypto staticSecret peerEphemeralPub
        return deriveSessionKeys crypto dhEE dhES peerEphemeralPub h.message context
    match keys with
    | some keys => .ok keys
    | none => .error (.handshakeFailed "invalid handshake key material")

/-! ## The channel -/

/-- The state of a channel. -/
structure SecureChannel where
  role : ChannelRole
  context : Option Bytes
  handshake : Option ChannelHandshake
  inboundBuffer : Bytes
  sealer : Option RecordSealer
  opener : Option RecordOpener
  isOpen : Bool
  closed : Bool
  started : Bool
  isAuthenticated : Bool

/-- What a channel does to the outside. -/
inductive ChannelEffect
  | sent (bytes : Bytes)
  | yielded (frame : ChannelFrame)
  | finished (error : Option ChannelError)

namespace SecureChannel

/-- A new channel, with this ephemeral secret. -/
def new (crypto : Crypto) (role : ChannelRole) (ephemeralSecret : Bytes) (context : Option Bytes) :
    SecureChannel :=
  { role
    context
    handshake := some
      { ephemeralSecret
        message := (crypto.getPublicKey ephemeralSecret).1
        kind := role }
    inboundBuffer := []
    sealer := none
    opener := none
    isOpen := false
    closed := false
    started := false
    isAuthenticated := false }

/-- `shutdown`. -/
def shutdown (s : SecureChannel) (error : Option ChannelError) : SecureChannel × List ChannelEffect :=
  if s.closed then (s, []) else ({ s with closed := true, isOpen := false }, [.finished error])

/-- `start`: the initiator's message is what goes to the transport. -/
def start (s : SecureChannel) : SecureChannel × List ChannelEffect :=
  if s.started || s.closed then (s, [])
  else
    ({ s with started := true },
      match s.role, s.handshake with
      | .initiator _, some handshake => [.sent handshake.message]
      | _, _ => [])

variable (crypto : Crypto) (aead : Aead)

/-- `send` up to its await: the channel that has sealed the frame, and what goes to the transport. -/
def sealFrame (s : SecureChannel) (frame : ChannelFrame) : Except ChannelError (SecureChannel × Bytes) :=
  if s.closed then .error .closed
  else
    match s.isOpen, s.sealer with
    | true, some sealer =>
      if 1 + frame.payload.length + recordTagBytes > 4 * 1024 * 1024 then .error .recordTooLarge
      else
        let r := sealer.seal aead (FrameCodec.encode frame)
        .ok ({ s with sealer := some r.2 }, uint32BE r.1.length ++ r.1)
    | _, _ => .error .notOpen

/-- `send`. -/
def send (s : SecureChannel) (frame : ChannelFrame) : SecureChannel × List ChannelEffect :=
  match s.sealFrame aead frame with
  | .error _ => (s, [])
  | .ok (s, wire) => (s, [.sent wire])

/-- `completeHandshake`, and what the responder has still to send. -/
def completeHandshake (s : SecureChannel) (peerMessage : Bytes) :
    Except ChannelError (SecureChannel × Option Bytes) :=
  match s.handshake with
  | none => .ok (s, none)
  | some handshake => do
    let keys ← handshake.consume crypto peerMessage s.context
    match s.role with
    | .initiator _ =>
      return ({ s with
        sealer := some (.new crypto keys.keyI2R keys.sessionId .initiatorToResponder)
        opener := some (.new crypto keys.keyR2I keys.sessionId .responderToInitiator)
        handshake := none
        isOpen := true }, none)
    | .responder _ =>
      return ({ s with
        sealer := some (.new crypto keys.keyR2I keys.sessionId .responderToInitiator)
        opener := some (.new crypto keys.keyI2R keys.sessionId .initiatorToResponder)
        handshake := none
        isOpen := true }, some handshake.message)

/-- `drainRecords`: the frames it yields, and what it throws. The loop goes round at most as often as
there are bytes. -/
def drainLoop : ℕ → SecureChannel → SecureChannel × List ChannelFrame × Option ChannelError
  | 0, s => (s, [], none)
  | n + 1, s =>
    if s.inboundBuffer.length < 4 then (s, [], none)
    else
      let length := bigEndian (s.inboundBuffer.take 4)
      if length > 4 * 1024 * 1024 then (s, [], some .recordTooLarge)
      else if s.inboundBuffer.length < 4 + length then (s, [], none)
      else
        let record := (s.inboundBuffer.drop 4).take length
        let s := { s with inboundBuffer := s.inboundBuffer.drop (4 + length) }
        match s.opener with
        | none => (s, [], some .notOpen)
        | some opener =>
          match opener.open aead record with
          | .error e => (s, [], some e)
          | .ok (plaintext, opener) =>
            let s := { s with opener := some opener }
            match FrameCodec.decode plaintext with
            | .error e => (s, [], some e)
            | .ok frame =>
              let r := drainLoop n { s with isAuthenticated := true }
              (r.1, frame :: r.2.1, r.2.2)

/-- `ingest` up to its await: the handshake, if it is complete now. -/
def beginIngest (s : SecureChannel) (chunk : Bytes) :
    SecureChannel × List ChannelEffect × Option Bytes :=
  let s := { s with inboundBuffer := s.inboundBuffer ++ chunk }
  if s.isOpen || s.inboundBuffer.length < 32 then (s, [], none)
  else
    let peerMessage := s.inboundBuffer.take 32
    let s := { s with inboundBuffer := s.inboundBuffer.drop 32 }
    match s.completeHandshake crypto peerMessage with
    | .error e =>
      let r := s.shutdown (some e)
      (r.1, r.2, none)
    | .ok (s, outgoing) => (s, [], outgoing)

/-- `ingest` behind its await. -/
def endIngest (s : SecureChannel) : SecureChannel × List ChannelEffect :=
  if !s.isOpen then (s, [])
  else
    let r := drainLoop aead s.inboundBuffer.length s
    match r.2.2 with
    | none => (r.1, r.2.1.map .yielded)
    | some e =>
      let closed := r.1.shutdown (some e)
      (closed.1, r.2.1.map .yielded ++ closed.2)

/-- `ingest`. -/
def ingest (s : SecureChannel) (chunk : Bytes) : SecureChannel × List ChannelEffect :=
  if s.closed then (s, [])
  else
    let r := s.beginIngest crypto chunk
    let r' := r.1.endIngest aead
    (r'.1, r.2.1 ++ (r.2.2.map ChannelEffect.sent).toList ++ r'.2)

end SecureChannel

/-- What happens to a channel. -/
inductive ChannelInput
  | send (frame : ChannelFrame)
  | receive (chunk : Bytes)
  | close

/-- One input and its effects. -/
def SecureChannel.react (crypto : Crypto) (aead : Aead) (s : SecureChannel) :
    ChannelInput → SecureChannel × List ChannelEffect
  | .send frame => s.send aead frame
  | .receive chunk => s.ingest crypto aead chunk
  | .close => s.shutdown none

end Pherry.Ios
