import Pherry.Host.Serve
import Pherry.Sdk.Controller

/-!
# A host and a controller

A served connection and a controller with the control frames on their way between them. A frame in
flight may be lost or be overtaken, which is more than the channel lets happen.
-/

namespace Pherry.Link

open Lib Channel Protocol Host Sdk

/-! ## Payloads -/

/-- The role on the wire. -/
def roleName : PeerRole → JsString
  | .host => js "host"
  | .controller => js "controller"

/-- The payload of a `Hello`. -/
def helloPayload (hello : Hello) : Bytes :=
  utf8 (stringify (.obj
    [(js "role", .str (roleName hello.role)), (js "protocol", .int hello.protocol),
      (js "capabilities", .arr (hello.capabilities.map .str)), (js "publicKey", .str hello.publicKey),
      (js "deviceKeyId", .str hello.deviceKeyId), (js "deviceAuth", .str hello.deviceAuth)]))

/-- The payload of a `HelloAck`. -/
def ackPayload (ack : HelloAck) : Bytes :=
  utf8 (stringify (.obj
    [(js "protocol", .int ack.protocol), (js "capabilities", .arr (ack.capabilities.map .str)),
      (js "publicKey", .str (base64 ack.publicKey))]))

/-- The payload of a request. -/
def requestPayload (request : RpcRequest) : Bytes :=
  utf8 (stringify (.obj ([(js "id", .str request.id), (js "method", .str request.method)] ++
    (request.params.map fun params => (js "params", params)).toList)))

/-- The control frames among the effects of a host. -/
def hostFrames (effects : List ServeEffect) : List Bytes :=
  effects.filterMap fun
    | .gate (.ack ack) => some (ackPayload ack)
    | .respond _ response => some response.payload
    | _ => none

/-- The control frames among the effects of a controller. -/
def controllerFrames (effects : List ControllerEffect) : List Bytes :=
  effects.filterMap fun
    | .sent (.hello hello) => some (helloPayload hello)
    | .sent (.request request) => some (requestPayload request)
    | _ => none

end Pherry.Link

namespace Pherry

open Lib Channel Protocol Host Sdk Link

/-- A host, a controller, and the control frames that are on their way. -/
structure Link where
  host : Serve
  controller : Controller
  toHost : List Bytes
  toController : List Bytes

/-- Something happens at one end, or a control frame in flight arrives. -/
inductive LinkEvent
  | host (e : ServeEvent)
  | controller (e : ControllerEvent)
  | toHost (i : ℕ)
  | toController (i : ℕ)

namespace Link

/-- A control frame comes from the other end only. -/
def isHostFrame : ServeEvent → Bool
  | .gate (.frame ⟨.control, _⟩) => true
  | _ => false

/-- A control frame comes from the other end only. -/
def isControllerFrame : ControllerEvent → Bool
  | .control _ => true
  | _ => false

/-- A new host and a new controller. -/
def init (sessionId : Bytes) : Link :=
  { host := .init sessionId
    controller := .init
    toHost := []
    toController := [] }

variable (ho : ServeOptions) (co : ControllerOptions)

/-- The host reacts, and its frames are on their way. -/
def atHost (s : Link) (e : ServeEvent) : Link × List ServeEffect :=
  let r := s.host.react ho e
  ({ s with
      host := r.1
      toController := s.toController ++ hostFrames r.2 }, r.2)

/-- The controller reacts, and its frames are on their way. -/
def atController (s : Link) (e : ControllerEvent) : Link :=
  let r := s.controller.react co e
  { s with
    controller := r.1
    toHost := s.toHost ++ controllerFrames r.2 }

/-- One event, and the effects of the host. -/
def react (s : Link) : LinkEvent → Link × List ServeEffect
  | .host e => if isHostFrame e then (s, []) else s.atHost ho e
  | .controller e => (if isControllerFrame e then s else s.atController co e, [])
  | .toHost i =>
    match s.toHost[i]? with
    | none => (s, [])
    | some payload =>
      { s with toHost := s.toHost.eraseIdx i }.atHost ho (.gate (.frame ⟨.control, payload⟩))
  | .toController i =>
    match s.toController[i]? with
    | none => (s, [])
    | some payload =>
      ({ s with toController := s.toController.eraseIdx i }.atController co (.control payload), [])

end Link

/-- A host and a controller as a machine. -/
def linkMachine (ho : ServeOptions) (co : ControllerOptions) (sessionId : Bytes) :
    Machine Link LinkEvent :=
  ⟨.init sessionId, fun s e => (s.react ho co e).1⟩

/-- What the host did over a run. -/
def linkEffects (ho : ServeOptions) (co : ControllerOptions) (sessionId : Bytes)
    (es : List LinkEvent) : List ServeEffect :=
  (linkMachine ho co sessionId).outputs (fun s e => (s.react ho co e).2) es

end Pherry
