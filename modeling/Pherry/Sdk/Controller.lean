import Pherry.Lib.InsertionMap
import Pherry.Protocol.DeviceAuth
import Pherry.Protocol.Envelope
import Pherry.Protocol.Methods
import Pherry.Sdk.Events

/-!
# The controller

`Controller` as a state machine. What the source awaits is a state of the negotiation or of a
request, and `negotiate` and `resume` are the microtasks that go on behind an await; they run when
no code is on the stack. Foreign code that runs inside the controller (the signer, the channel's
send, the listeners of a stream) may call back before it returns, so it is kept on a stack.
-/

namespace Pherry.Sdk

open Lib Protocol

/-- Why a promise of the controller is rejected. -/
inductive ClientError
  | controllerClosed
  | channelClosed
  | noSessionId
  | signer
  | send
  | params
  | result
  | rpc (error : ErrorBody)

/-- A control message the controller sends. -/
inductive Message
  | hello (hello : Hello)
  | request (request : RpcRequest)

/-- What a request was made for: a call of `request`, of `subscribe` with its new stream, or of
`unsubscribe` with the stream it ends. -/
inductive Purpose
  | request (method : Method)
  | subscribe (ref : SessionRef) (stream : ℕ)
  | unsubscribe (ref : SessionRef) (stream : ℕ)

/-- The method of a request. -/
def Purpose.method : Purpose → Method
  | request method => method
  | subscribe _ _ => .subscribe
  | unsubscribe _ _ => .unsubscribe

/-- How far a request is: behind `await #negotiated`, in the pending map, or settled. -/
inductive Progress
  | waiting
  | sent (id : JsString)
  | settled (outcome : Except ClientError Json)

/-- One call of `#send`. `cleanup` is whether a `finally` is still to run behind it. -/
structure Request where
  purpose : Purpose
  params : Json
  progress : Progress
  cleanup : Bool

/-- How far `#negotiate` is: at one of its awaits, in the send of the Hello, or settled. -/
inductive Negotiation
  | ready
  | signing (sessionId : Bytes32) (signature : Option (Except Unit Bytes))
  | sending
  | waiting
  | settled (outcome : Except ClientError (List JsString))

/-- A device identity and the host it is for. -/
structure DeviceSigner where
  deviceKeyId : JsString
  hostId : JsString

/-- What a controller is built with, and the parsers it applies: `JSON.parse` and the schemas.
`mirrorAck` reads the stream id off a result the subscribe schema accepted. -/
structure ControllerOptions where
  capabilities : List JsString
  deviceSigner : Option DeviceSigner
  parseHelloAck : Bytes → Option HelloAck
  parseResponse : Bytes → Option Response
  parseParams : Method → Json → Option Json
  parseResult : Method → Json → Option Json
  mirrorAck : Json → StreamId
  newRequestId : ℕ → JsString

/-- Foreign code that is running. -/
inductive Call
  | sign
  | hello
  | request (r : ℕ)
  | listeners (stream : ℕ) (event : PtyEvent)
deriving DecidableEq

/-- A tracked subscription. -/
structure TrackedSub where
  streamId : ℕ
  stream : ℕ

/-- The state of a controller and of its channel. `sessionId` is the channel's, from its handshake
to its close; `wasReady` is whether there was one; `streams` and `requests` are all that were ever
made, and the maps name them by number. -/
structure Controller where
  sessionId : Option Bytes32
  wasReady : Bool
  closed : Bool
  negotiation : Negotiation
  awaitingHelloAck : Bool
  ack : Option (Except ClientError HelloAck)
  timer : Bool
  requests : List Request
  pending : InsertionMap JsString ℕ
  streams : List PtyEventStream
  streamsById : InsertionMap ℕ ℕ
  subsByRef : InsertionMap SessionRef TrackedSub
  calls : List Call

/-- What a controller does to the outside. -/
inductive ControllerEffect
  | sign (message : Bytes)
  | sent (message : Message)
  | listeners (stream : ℕ) (event : PtyEvent)
  | read (stream read : ℕ) (result : ReadResult)

/-- How foreign code returns. What `sign` returns is a signature or a promise of one. -/
inductive Outcome
  | returned
  | signature (bytes : Bytes)
  | threw

/-- What happens to a controller. -/
inductive ControllerEvent
  | opened (sessionId : Bytes32)
  | control (payload : Bytes)
  | binary (payload : Bytes)
  | close
  | request (method : Method) (params : Json)
  | subscribe (ref : SessionRef) (viewport : Option Json)
  | unsubscribe (ref : SessionRef)
  | next (stream read : ℕ)
  | callReturned (outcome : Outcome)
  | signed (signature : Except Unit Bytes)
  | timer
  | negotiate
  | resume (r : ℕ)

namespace Controller

/-- A new controller. -/
def init : Controller :=
  { sessionId := none
    wasReady := false
    closed := false
    negotiation := .ready
    awaitingHelloAck := false
    ack := none
    timer := false
    requests := []
    pending := .empty
    streams := []
    streamsById := .empty
    subsByRef := .empty
    calls := [] }

/-! ## Promises and streams -/

/-- Settle a request, the first time. -/
def settle (s : Controller) (r : ℕ) (outcome : Except ClientError Json) : Controller :=
  { s with
    requests := s.requests.modify r fun request =>
      match request.progress with
      | .settled _ => request
      | _ => { request with progress := .settled outcome } }

/-- Settle the ack, the first time. -/
def settleAck (s : Controller) (outcome : Except ClientError HelloAck) : Controller :=
  { s with ack := s.ack.or (some outcome) }

/-- Do something to a stream. -/
def onStream (s : Controller) (k : ℕ) (f : PtyEventStream → PtyEventStream × Settled) :
    Controller × List ControllerEffect :=
  match s.streams[k]? with
  | none => (s, [])
  | some stream =>
    ({ s with streams := s.streams.set k (f stream).1 },
      (f stream).2.map fun read => .read k read.1 read.2)

/-- End each of these streams. -/
def endAll (s : Controller) (ks : List ℕ) : Controller × List ControllerEffect :=
  ks.foldl (fun r k =>
    let next := r.1.onStream k PtyEventStream.finish
    (next.1, r.2 ++ next.2)) (s, [])

/-! ## Close -/

/-- The rejection of a HelloAck that is awaited. -/
def rejectHelloAck (s : Controller) : Controller :=
  if s.awaitingHelloAck then
    { s with awaitingHelloAck := false }.settleAck (.error .channelClosed)
  else s

/-- The rejection of every pending request. -/
def rejectPending (s : Controller) : Controller :=
  { s.pending.values.foldl (fun s r => s.settle r (.error .channelClosed)) s with pending := .empty }

/-- `#onClose`, and the channel's own close. -/
def onClose (s : Controller) : Controller × List ControllerEffect :=
  if s.closed then (s, [])
  else
    let s := { s with closed := true, sessionId := none, timer := false }.rejectHelloAck.rejectPending
    let r := s.endAll s.streamsById.values
    ({ r.1 with streamsById := .empty, subsByRef := .empty }, r.2)

variable (o : ControllerOptions)

/-! ## Negotiation -/

/-- The send of the Hello throws. -/
def helloFailed (s : Controller) : Controller :=
  { s with awaitingHelloAck := false, timer := false, negotiation := .settled (.error .send) }

/-- `#negotiate` from the Hello to the await of the ack. A closed channel throws. -/
def sayHello (s : Controller) (sessionId : Option Bytes32) (deviceKeyId deviceAuth : JsString) :
    Controller × List ControllerEffect :=
  let s := { s with timer := true, awaitingHelloAck := true, ack := none, negotiation := .sending }
  if s.closed then (s.helloFailed, [])
  else
    ({ s with calls := .hello :: s.calls },
      [.sent (.hello
        { role := .controller
          protocol := protocolVersion
          capabilities := o.capabilities
          publicKey := (sessionId.map fun id => base64 id.1).getD []
          deviceKeyId
          deviceAuth })])

/-- `#negotiate` behind `ready`, up to the call of the signer if there is one. -/
def begin (s : Controller) : Controller × List ControllerEffect :=
  match o.deviceSigner with
  | none => s.sayHello o s.sessionId nullDeviceKeyId nullDeviceAuth
  | some signer =>
    match s.sessionId with
    | none => ({ s with negotiation := .settled (.error .noSessionId) }, [])
    | some sessionId =>
      ({ s with negotiation := .signing sessionId none, calls := .sign :: s.calls },
        [.sign (deviceAuthMessage sessionId signer.hostId signer.deviceKeyId)])

/-- The rejection of a version the controller cannot talk to. -/
def versionError (protocol : ℤ) (reason : Incompatible) : ErrorBody :=
  let reason := match reason with
    | .peerTooOld => js "peer-too-old"
    | .selfTooOld => js "self-too-old"
  { code := .versionIncompatible
    message := js s!"host protocol {protocol} incompatible: " ++ reason
    data := some (.obj [(js "ok", .bool false), (js "reason", .str reason)]) }

/-- `#negotiate` behind the ack. -/
def concluded (ack : HelloAck) : Except ClientError (List JsString) :=
  let outcome := negotiateHello o.capabilities ack
  match outcome.compat with
  | .ok () => .ok outcome.active
  | .error reason => .error (.rpc (versionError ack.protocol reason))

/-- The microtask of `#negotiate`. -/
def negotiate (s : Controller) : Controller × List ControllerEffect :=
  match s.negotiation with
  | .ready =>
    if s.wasReady then s.begin o
    else if s.closed then ({ s with negotiation := .settled (.error .channelClosed) }, [])
    else (s, [])
  | .signing sessionId (some (.ok signature)) =>
    s.sayHello o (some sessionId) ((o.deviceSigner.map DeviceSigner.deviceKeyId).getD nullDeviceKeyId)
      (base64 signature)
  | .signing _ (some (.error ())) => ({ s with negotiation := .settled (.error .signer) }, [])
  | .signing _ none => (s, [])
  | .sending => (s, [])
  | .waiting =>
    match s.ack with
    | none => (s, [])
    | some (.error error) => ({ s with negotiation := .settled (.error error) }, [])
    | some (.ok ack) => ({ s with negotiation := .settled (concluded o ack) }, [])
  | .settled _ => (s, [])

/-- The rejection of a negotiation that found no HelloAck in time, or something else. -/
def unavailable (message : String) : ClientError := .rpc ⟨.unavailable, js message, none⟩

/-- `#handleHelloAck`. -/
def handleHelloAck (s : Controller) (payload : Bytes) : Controller :=
  let s := { s with awaitingHelloAck := false, timer := false }
  match o.parseHelloAck payload with
  | none => s.settleAck (.error
      (unavailable "handshake violation: first control frame was not a HelloAck"))
  | some ack => s.settleAck (.ok ack)

/-- The negotiation timer, once no code is running. -/
def onTimer (s : Controller) : Controller × List ControllerEffect :=
  if s.timer = true ∧ s.calls = [] then
    ({ s with timer := false, awaitingHelloAck := false }.settleAck
      (.error (unavailable "handshake timeout: host sent no HelloAck"))).onClose
  else (s, [])

/-! ## Requests -/

/-- The rejection of a method whose capability was not negotiated. -/
def capabilityError (capability : JsString) : ErrorBody :=
  { code := .forbidden
    message := js "capability not negotiated: " ++ capability
    data := some (.obj [(js "capability", .str capability)]) }

/-- `#send` up to `await #negotiated`. -/
def issue (s : Controller) (purpose : Purpose) (params : Json) (cleanup : Bool) : Controller :=
  { s with
    requests := s.requests ++ [
      { purpose
        params
        progress := if s.closed then .settled (.error .controllerClosed) else .waiting
        cleanup }] }

/-- `#send` behind `await #negotiated`, where the negotiation succeeded: what the request is
rejected with, or what it sends. -/
def prepare (closed : Bool) (active : List JsString) (method : Method) (params : Json) :
    Except ClientError Json :=
  if (requiredCapability method).any (fun cap => cap ∉ active) then
    .error (.rpc (capabilityError ((requiredCapability method).getD [])))
  else if closed then .error .controllerClosed
  else
    match o.parseParams method params with
    | none => .error .params
    | some parsed => .ok parsed

/-- `#send` behind `await #negotiated`, up to the channel's send. -/
def resumeSend (s : Controller) (r : ℕ) (request : Request)
    (outcome : Except ClientError (List JsString)) : Controller × List ControllerEffect :=
  match outcome with
  | .error error => (s.settle r (.error error), [])
  | .ok active =>
    match prepare o s.closed active request.purpose.method request.params with
    | .error error => (s.settle r (.error error), [])
    | .ok params =>
      let id := o.newRequestId r
      ({ s with
          requests := s.requests.modify r fun request => { request with progress := .sent id }
          pending := s.pending.set id r
          calls := .request r :: s.calls },
        [.sent (.request ⟨id, request.purpose.method.name, some params⟩)])

/-- The `finally` of `unsubscribe`. -/
def runCleanup (s : Controller) (r : ℕ) (purpose : Purpose) : Controller × List ControllerEffect :=
  let s := { s with requests := s.requests.modify r fun request => { request with cleanup := false } }
  match purpose with
  | .unsubscribe _ stream => s.onStream stream PtyEventStream.finish
  | .subscribe _ _ => (s, [])
  | .request _ => (s, [])

/-- The microtask of a request. -/
def resume (s : Controller) (r : ℕ) : Controller × List ControllerEffect :=
  match s.requests[r]? with
  | none => (s, [])
  | some request =>
    match request.progress, s.negotiation with
    | .waiting, .settled outcome => s.resumeSend o r request outcome
    | .settled _, _ => if request.cleanup then s.runCleanup r request.purpose else (s, [])
    | _, _ => (s, [])

/-- `subscribe`. -/
def subscribe (s : Controller) (ref : SessionRef) (viewport : Option Json) : Controller :=
  { s with streams := s.streams ++ [PtyEventStream.new] }.issue (.subscribe ref s.streams.length)
    (.obj ((js "sessionRef", .str ref.1) ::
      (viewport.map fun size => (js "viewport", size)).toList)) false

/-- `unsubscribe`. -/
def unsubscribe (s : Controller) (ref : SessionRef) : Controller :=
  match s.subsByRef.get ref with
  | none => s
  | some sub =>
    { s with
      subsByRef := s.subsByRef.erase ref
      streamsById := s.streamsById.erase sub.streamId }.issue (.unsubscribe ref sub.stream)
        (.obj [(js "sessionRef", .str ref.1), (js "streamId", .int sub.streamId)]) true

/-! ## Frames -/

/-- The `onSuccess` of a request. -/
def register (s : Controller) (purpose : Purpose) (result : Json) : Controller :=
  match purpose with
  | .subscribe ref stream =>
    { s with
      streamsById := s.streamsById.set (o.mirrorAck result) stream
      subsByRef := s.subsByRef.set ref ⟨o.mirrorAck result, stream⟩ }
  | .unsubscribe _ _ => s
  | .request _ => s

/-- `#onControl` with a response that a pending request waits for. -/
def answer (s : Controller) (r : ℕ) (purpose : Purpose) (response : Response) : Controller :=
  match response with
  | .failure _ error => s.settle r (.error (.rpc error))
  | .success _ result _ =>
    match o.parseResult purpose.method result with
    | none => s.settle r (.error .result)
    | some result => (s.register o purpose result).settle r (.ok result)

/-- `#onControl`. -/
def onControl (s : Controller) (payload : Bytes) : Controller :=
  if s.awaitingHelloAck then s.handleHelloAck o payload
  else
    match o.parseResponse payload with
    | none => s
    | some response =>
      match s.pending.get response.id with
      | none => s
      | some r =>
        let s := { s with pending := s.pending.erase response.id }
        match s.requests[r]? with
        | none => s
        | some request => s.answer o r request.purpose response

/-- `ingest` on a stream, up to its listeners. A stream that has ended pushes nothing. -/
def ingest (s : Controller) (k : ℕ) (frame : PtyFrame) : Controller × List ControllerEffect :=
  match s.streams[k]? with
  | none => (s, [])
  | some stream =>
    match stream.ingest frame with
    | none => (s, [])
    | some (stream, settled, event) =>
      let s := { s with streams := s.streams.set k stream }
      let effects := settled.map fun read => ControllerEffect.read k read.1 read.2
      match event with
      | none => (s, effects)
      | some event =>
        if stream.ended then (s, effects)
        else ({ s with calls := .listeners k event :: s.calls }, effects ++ [.listeners k event])

/-- `#onBinary`. -/
def onBinary (s : Controller) (payload : Bytes) : Controller × List ControllerEffect :=
  match decodePtyFrame payload with
  | none => (s, [])
  | some frame =>
    match s.streamsById.get frame.streamId with
    | none => (s, [])
    | some k => s.ingest k frame

/-! ## Steps -/

/-- The innermost foreign code returns. -/
def callReturned (s : Controller) (outcome : Outcome) : Controller × List ControllerEffect :=
  match s.calls with
  | [] => (s, [])
  | call :: calls =>
    let s := { s with calls }
    match call, outcome with
    | .sign, .threw => ({ s with negotiation := .settled (.error .signer) }, [])
    | .sign, .signature bytes =>
      match s.negotiation with
      | .signing sessionId none =>
        ({ s with negotiation := .signing sessionId (some (.ok bytes)) }, [])
      | _ => (s, [])
    | .sign, .returned => (s, [])
    | .hello, .threw => (s.helloFailed, [])
    | .hello, _ => ({ s with negotiation := .waiting }, [])
    | .request r, .threw =>
      ({ s with pending := s.pending.erase (o.newRequestId r) }.settle r (.error .send), [])
    | .request _, _ => (s, [])
    | .listeners _ _, .threw => (s, [])
    | .listeners k event, _ => s.onStream k fun stream => stream.deliver event

/-- The promise of a signature settles. -/
def signed (s : Controller) (signature : Except Unit Bytes) : Controller :=
  match s.negotiation with
  | .signing sessionId none =>
    if Call.sign ∈ s.calls then s
    else { s with negotiation := .signing sessionId (some signature) }
  | _ => s

/-- The handshake of the channel completes. -/
def opened (s : Controller) (sessionId : Bytes32) : Controller :=
  if s.wasReady ∨ s.closed then s
  else { s with sessionId := some sessionId, wasReady := true }

/-- One event and its effects. A channel that is not open delivers nothing, and microtasks run when
no code does. -/
def react (s : Controller) : ControllerEvent → Controller × List ControllerEffect
  | .opened sessionId => (s.opened sessionId, [])
  | .control payload => if s.sessionId.isSome then (s.onControl o payload, []) else (s, [])
  | .binary payload => if s.sessionId.isSome then s.onBinary payload else (s, [])
  | .close => s.onClose
  | .request method params => (s.issue (.request method) params false, [])
  | .subscribe ref viewport => (s.subscribe ref viewport, [])
  | .unsubscribe ref => (s.unsubscribe ref, [])
  | .next k read => s.onStream k fun stream => stream.next read
  | .callReturned outcome => s.callReturned o outcome
  | .signed signature => (s.signed signature, [])
  | .timer => s.onTimer
  | .negotiate => if s.calls = [] then s.negotiate o else (s, [])
  | .resume r => if s.calls = [] then s.resume o r else (s, [])

end Controller

/-- A controller as a machine. -/
def controllerMachine (o : ControllerOptions) : Machine Controller ControllerEvent :=
  ⟨.init, fun s e => (s.react o e).1⟩

end Pherry.Sdk
