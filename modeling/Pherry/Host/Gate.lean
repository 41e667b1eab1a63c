import Pherry.Channel.Record
import Pherry.Lib.Machine
import Pherry.Protocol.Handshake

/-!
# The device gate

The part of `serveConnection` that decides whether a control frame reaches an RPC handler: the
phases, the negotiation timer, the `Hello`, the device verdict and the frames held while it is
pending. `sendControl`, `verifyDevice` and the handlers run foreign code that may do anything to
the connection before it returns, so what is left to do behind them is kept on a stack.
-/

namespace Pherry.Host

open Lib Channel Protocol

/-- `MAX_FRAMES_WHILE_VERIFYING`. -/
def maxFramesWhileVerifying : ℕ := 64

/-- The phase of a connection. -/
inductive Phase
  | awaitingHello
  | verifying
  | serving
  | dead
deriving DecidableEq

/-- A controller's device-auth claim. -/
structure DeviceAuthClaim where
  deviceKeyId : JsString
  deviceAuth : JsString
  sessionId : Bytes

/-- What `onError` is told when a connection fails closed. -/
inductive GateError
  | handshakeTimeout
  | handshakeViolation
  | versionIncompatible (protocol : ℤ) (reason : Incompatible)
  | notAuthorized

/-- The texts of the errors. -/
def GateError.message : GateError → String
  | handshakeTimeout => "handshake timeout: controller sent no Hello"
  | handshakeViolation => "handshake violation: first control frame was not a Hello"
  | versionIncompatible protocol .peerTooOld =>
    s!"version incompatible: controller protocol {protocol} (peer-too-old)"
  | versionIncompatible protocol .selfTooOld =>
    s!"version incompatible: controller protocol {protocol} (self-too-old)"
  | notAuthorized => "device not authorized"

/-- What a connection is configured with: the decoder of a `Hello` frame, the capabilities it
serves and whether there is a `verifyDevice`. -/
structure GateOptions where
  parseHello : Bytes → Option Hello
  capabilities : List JsString
  verifyDevice : Bool

/-- Foreign code that is running: the send of the ack, `verifyDevice`, or the handler of a frame
with the frames the replay has left. -/
inductive Call
  | ack (hello : Hello)
  | verify (hello : Hello)
  | handle (left : List Bytes)
deriving DecidableEq

/-- The frames a call leaves to be replayed. -/
def Call.left : Call → List Bytes
  | handle left => left
  | ack _ => []
  | verify _ => []

/-- The state of the gate. `sessionId` is the channel's, which it has until it closes; `pending`
are the verdicts that were promised; `calls` has the innermost call first. -/
structure Gate where
  phase : Phase
  closed : Bool
  timer : Bool
  negotiated : List JsString
  buffered : List Bytes
  sessionId : Option Bytes
  pending : List Hello
  calls : List Call

/-- What the gate does. -/
inductive GateEffect
  | ack (ack : HelloAck)
  | verifyDevice (claim : DeviceAuthClaim)
  | handleRpcPayload (payload : Bytes)
  | onError (error : GateError)
  | tornDown

/-- How `verifyDevice` returns. -/
inductive Answer
  | verdict (allowed : Bool)
  | promise
  | threw
deriving DecidableEq

/-- What happens to the gate. The three returns are those of the innermost call; a `false` is an
exception that leaves it. -/
inductive GateEvent
  | frame (frame : ChannelFrame)
  | timer
  | ackReturned (ok : Bool)
  | verifyReturned (answer : Answer)
  | handlerReturned (ok : Bool)
  | verdict (i : ℕ) (reply : Except Unit Bool)
  | channelClosed
  | close

namespace Gate

/-- The gate of a connection over a channel with this session id. -/
def init (sessionId : Bytes) : Gate :=
  { phase := .awaitingHello
    closed := false
    timer := true
    negotiated := []
    buffered := []
    sessionId := some sessionId
    pending := []
    calls := [] }

/-- `close`, and the phase part of `teardownAll`. -/
def close (s : Gate) : Gate × List GateEffect :=
  ({ s with phase := .dead, closed := true, timer := false }, [.tornDown])

/-- `channel.close()`, and the `onClose` it calls the first time. -/
def closeChannel (s : Gate) : Gate × List GateEffect :=
  if s.sessionId.isSome then { s with sessionId := none }.close else (s, [])

/-- `failClosed`. -/
def failClosed (s : Gate) (error : GateError) : Gate × List GateEffect :=
  let r := { s with phase := .dead, timer := false }.closeChannel
  (r.1, .onError error :: r.2)

/-- Hand a frame to `handleRpcPayload`, with `left` to follow it. -/
def handle (s : Gate) (payload : Bytes) (left : List Bytes) : Gate × List GateEffect :=
  ({ s with calls := .handle left :: s.calls }, [.handleRpcPayload payload])

/-- The loop that replays buffered frames, up to its next call. -/
def replay (s : Gate) : List Bytes → Gate × List GateEffect
  | [] => (s, [])
  | payload :: left => s.handle payload left

variable (o : GateOptions)

/-- `admitHello`. -/
def admitHello (s : Gate) (hello : Hello) : Gate × List GateEffect :=
  { s with
    negotiated := negotiate o.capabilities hello.capabilities
    phase := .serving
    buffered := [] }.replay s.buffered

/-- `runDeviceGate` up to the call of `verifyDevice`. -/
def runDeviceGate (s : Gate) (hello : Hello) : Gate × List GateEffect :=
  match s.sessionId with
  | none => s.failClosed .notAuthorized
  | some sessionId =>
    ({ s with calls := .verify hello :: s.calls },
      [.verifyDevice ⟨hello.deviceKeyId, hello.deviceAuth, sessionId⟩])

/-- `handleHello` behind the ack. -/
def acked (s : Gate) (hello : Hello) : Gate × List GateEffect :=
  match evaluateCompat hello.protocol with
  | .error reason => s.failClosed (.versionIncompatible hello.protocol reason)
  | .ok () =>
    if o.verifyDevice then s.runDeviceGate hello
    else
      ({ s with
          negotiated := negotiate o.capabilities hello.capabilities
          phase := .serving }, [])

/-- `handleHello` up to the send of the ack, which a closed connection omits. -/
def handleHello (s : Gate) (payload : Bytes) : Gate × List GateEffect :=
  let s := { s with timer := false }
  match o.parseHello payload with
  | none => s.failClosed .handshakeViolation
  | some hello =>
    if s.closed then s.acked o hello
    else
      ({ s with calls := .ack hello :: s.calls },
        [.ack ⟨protocolVersion, o.capabilities, s.sessionId.getD []⟩])

/-- `onControl`. -/
def onControl (s : Gate) (payload : Bytes) : Gate × List GateEffect :=
  match s.phase with
  | .dead => (s, [])
  | .awaitingHello => s.handleHello o payload
  | .verifying =>
    if s.buffered.length ≥ maxFramesWhileVerifying then s.failClosed .notAuthorized
    else ({ s with buffered := s.buffered ++ [payload] }, [])
  | .serving => s.handle payload []

/-- The frame handler. A closed channel delivers nothing. -/
def onFrame (s : Gate) (frame : ChannelFrame) : Gate × List GateEffect :=
  if s.sessionId.isNone then (s, [])
  else
    match frame.tag with
    | .control => s.onControl o frame.payload
    | .binary => (s, [])

/-- The negotiation timer, once no code is running. -/
def onTimer (s : Gate) : Gate × List GateEffect :=
  if s.timer = true ∧ s.calls = [] then
    let s := { s with timer := false }
    if s.phase = .awaitingHello then s.failClosed .handshakeTimeout else (s, [])
  else (s, [])

/-- The send of the ack returns. -/
def ackReturned (s : Gate) (ok : Bool) : Gate × List GateEffect :=
  match s.calls with
  | .ack hello :: calls =>
    if ok then { s with calls }.acked o hello else ({ s with calls }, [])
  | _ => (s, [])

/-- `verifyDevice` returns: `runDeviceGate` behind the call. -/
def verifyReturned (s : Gate) (answer : Answer) : Gate × List GateEffect :=
  match s.calls with
  | .verify hello :: calls =>
    let s := { s with calls }
    match answer with
    | .verdict true => s.admitHello o hello
    | .verdict false => s.failClosed .notAuthorized
    | .threw => s.failClosed .notAuthorized
    | .promise => ({ s with phase := .verifying, pending := s.pending ++ [hello] }, [])
  | _ => (s, [])

/-- A handler returns, and the replay goes on. -/
def handlerReturned (s : Gate) (ok : Bool) : Gate × List GateEffect :=
  match s.calls with
  | .handle left :: calls =>
    if ok then { s with calls }.replay left else ({ s with calls }, [])
  | _ => (s, [])

/-- A promised verdict settles, once no code is running. -/
def onVerdict (s : Gate) (i : ℕ) (reply : Except Unit Bool) : Gate × List GateEffect :=
  if s.calls = [] then
    match s.pending[i]? with
    | none => (s, [])
    | some hello =>
      let s := { s with pending := s.pending.eraseIdx i }
      if s.phase = .verifying then
        match reply with
        | .ok true => s.admitHello o hello
        | .ok false => s.failClosed .notAuthorized
        | .error () => s.failClosed .notAuthorized
      else (s, [])
  else (s, [])

/-- One event and its effects. -/
def react (s : Gate) : GateEvent → Gate × List GateEffect
  | .frame frame => s.onFrame o frame
  | .timer => s.onTimer
  | .ackReturned ok => s.ackReturned o ok
  | .verifyReturned answer => s.verifyReturned o answer
  | .handlerReturned ok => s.handlerReturned ok
  | .verdict i reply => s.onVerdict o i reply
  | .channelClosed => s.closeChannel
  | .close => s.close

end Gate

/-- A gate as a machine. -/
def gateMachine (o : GateOptions) (sessionId : Bytes) : Machine Gate GateEvent :=
  ⟨.init sessionId, fun s e => (s.react o e).1⟩

end Pherry.Host
