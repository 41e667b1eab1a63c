import Pherry.Protocol.Envelope
import Pherry.Protocol.Methods
import Pherry.Protocol.PtyFrame

/-!
# The RPC dispatcher

What `serveConnection` does for one request, as the list of what its handler has to do in order: the
responses it sends, the calls it makes into sessions and hooks, and its bookkeeping in between.
-/

namespace Pherry.Host

open Protocol

/-- A call into a session. The bytes of a write are those its text is the base64 of. -/
inductive SessionOp
  | subscribe
  | unsubscribe
  | observeViewer (size : Size)
  | resizeViewer (size : Size)
  | releaseViewer
  | write (dataB64 : JsString)
deriving DecidableEq

/-- A call of an injected hook. -/
inductive Hook
  | reserve (spec : Json)
  | claim (ref : SessionRef)
  | listSessions
  | options
  | start (params : Json)

/-- What a handler has to do: a send, an entry of `subscriptions` deleted or set, an entry of
`touched` added, a call into a session or a hook, a call of `onError`. -/
inductive Todo
  | send (response : Response)
  | delete (ref : SessionRef)
  | touch (ref : SessionRef)
  | set (ref : SessionRef)
  | session (ref : SessionRef) (op : SessionOp)
  | hook (hook : Hook)
  | onError

/-- `CustodyErrorCode`. -/
inductive CustodyErrorCode
  | notFound
  | expired
  | alreadyClaimed
deriving DecidableEq

/-- What foreign code throws: a `CustodyError`, a `LaunchRefusedError`, or something else. -/
inductive Thrown
  | custody (code : CustodyErrorCode) (message : JsString)
  | refused
  | other

/-- The try statement that is around a handler. -/
inductive Guard
  | dispatch
  | claim
  | launch
deriving DecidableEq

/-- The params of a subscribe. -/
structure SubscribeParams where
  sessionRef : SessionRef
  viewport : Option Size
  capabilities : Option (List JsString)

/-- `ParamsOf`, as far as a handler reads it. -/
def ParamsOf : Method → Type
  | .subscribe => SubscribeParams
  | .unsubscribe => SessionRef
  | .input => SessionRef × JsString
  | .resize => SessionRef × Size
  | .claim => SessionRef
  | .reserve => Json
  | .start => Json
  | .list => Unit
  | .options => Unit
  | .approve => Unit
  | .spawn => Unit
  | .raise => Unit

/-- What a handler reads of a session. -/
structure LiveSession where
  streamId : ℕ
  seq : ℕ

/-- What a handler reads of its connection: the negotiated capabilities, the sessions it is
subscribed to, the registry, and the hooks there are. -/
structure Connection where
  negotiated : List JsString
  subscriptions : List SessionRef
  registry : SessionRef → Option LiveSession
  custody : Bool
  listSessions : Bool
  launch : Bool

/-! ## Responses -/

/-- The result of `Ack`. -/
def ackResult : Json := .obj [(js "ok", .bool true)]

/-- The refusal of a capability that was not negotiated. -/
def capabilityRefused (id capability : JsString) : Response :=
  .failure id
    { code := .forbidden
      message := js "capability not negotiated: " ++ capability
      data := some (.obj [(js "capability", .str capability)]) }

/-- The refusal of a method that is not served. -/
def unsupported (id : JsString) (method : Method) : Response :=
  .failed id .methodNotFound (js "unsupported method: " ++ method.name)

/-- The refusal of a session there is not. -/
def noSuchSession (id : JsString) (ref : SessionRef) : Response :=
  .failed id .notFound (js "no such session: " ++ ref.1)

/-- The failure of a handler that threw. -/
def internalError (id : JsString) : Response :=
  .failed id .internal (js "internal error handling request")

/-- `LAUNCH_REFUSED_MESSAGE`. -/
def launchRefusedMessage : JsString := js "launch: unknown selection"

/-- `custodyFailure`. -/
def custodyFailure (id : JsString) (code : CustodyErrorCode) (message : JsString) : Response :=
  .failed id (if code = .alreadyClaimed then .forbidden else .notFound) message

namespace Connection

variable (c : Connection)

/-! ## Handlers -/

/-- `capabilityAllows`, and what follows where it does. -/
def gated (id : JsString) (method : Method) (todo : List Todo) : List Todo :=
  match requiredCapability method with
  | none => todo
  | some cap => if cap ∈ c.negotiated then todo else [.send (capabilityRefused id cap)]

/-- `teardown`. -/
def teardown (ref : SessionRef) (departed : Bool) : List Todo :=
  if ref ∈ c.subscriptions then
    [.delete ref, .session ref .unsubscribe] ++
      if departed then [.session ref .releaseViewer] else []
  else []

/-- `handleSubscribe`. -/
def handleSubscribe (id : JsString) (params : SubscribeParams) : List Todo :=
  match (params.capabilities.getD []).find? fun cap => cap ∉ c.negotiated with
  | some escalated => [.send (capabilityRefused id escalated)]
  | none =>
    match c.registry params.sessionRef with
    | none => [.send (noSuchSession id params.sessionRef)]
    | some session =>
      let observe := params.viewport.map fun size => Todo.session params.sessionRef (.observeViewer size)
      c.teardown params.sessionRef false ++ observe.toList ++
        [.touch params.sessionRef,
          .send (.success id
            (.obj [(js "streamId", .int session.streamId), (js "snapshotSeq", .int session.seq)]) true),
          .session params.sessionRef .subscribe, .set params.sessionRef]

/-- `handleInput`. -/
def handleInput (id : JsString) (ref : SessionRef) (dataB64 : JsString) : List Todo :=
  match c.registry ref with
  | none => [.send (noSuchSession id ref)]
  | some _ => [.session ref (.write dataB64), .send (.success id ackResult false)]

/-- `handleResize`. -/
def handleResize (id : JsString) (ref : SessionRef) (size : Size) : List Todo :=
  match c.registry ref with
  | none => [.send (noSuchSession id ref)]
  | some _ =>
    [.session ref (.resizeViewer size), .touch ref, .send (.success id ackResult false)]

/-- `handleUnsubscribe`. -/
def handleUnsubscribe (id : JsString) (ref : SessionRef) : List Todo :=
  c.teardown ref true ++ [.send (.success id ackResult false)]

/-- A method behind a hook. -/
def hooked (present : Bool) (id : JsString) (method : Method) (hook : Hook) : List Todo :=
  if present then [.hook hook] else [.send (unsupported id method)]

/-- The switch of `dispatch`. -/
def serve (id : JsString) : (method : Method) → ParamsOf method → List Todo
  | .subscribe, params => c.gated id .subscribe (c.handleSubscribe id params)
  | .input, params => c.gated id .input (c.handleInput id params.1 params.2)
  | .resize, params => c.gated id .resize (c.handleResize id params.1 params.2)
  | .unsubscribe, ref => c.handleUnsubscribe id ref
  | .reserve, spec => hooked c.custody id .reserve (.reserve spec)
  | .claim, ref => hooked c.custody id .claim (.claim ref)
  | .list, _ => hooked c.listSessions id .list .listSessions
  | .options, _ => c.gated id .options (hooked c.launch id .options .options)
  | .start, params => c.gated id .start (hooked c.launch id .start (.start params))
  | .approve, _ => [.send (unsupported id .approve)]
  | .spawn, _ => [.send (unsupported id .spawn)]
  | .raise, _ => [.send (unsupported id .raise)]

/-- `dispatch`. Params the schema refuses come with what zod's `format` makes of the issues. -/
def dispatch (parseParams : (method : Method) → Option Json → Except Json (ParamsOf method))
    (request : RpcRequest) : List Todo :=
  match methodOf request.method with
  | none =>
    [.send (.failed request.id .methodNotFound (js "unknown method: " ++ request.method))]
  | some method =>
    match parseParams method request.params with
    | .error issues =>
      [.send (.failure request.id
        { code := .invalidArgument
          message := js "invalid params"
          data := some issues })]
    | .ok params => c.serve request.id method params

end Connection

/-! ## Hooks and exceptions -/

/-- The try statement a hook is called in. -/
def Hook.guard : Hook → Guard
  | reserve _ => .dispatch
  | claim _ => .claim
  | listSessions => .dispatch
  | options => .launch
  | start _ => .launch

/-- What follows the result of a hook. -/
def Hook.resulted (id : JsString) (result : Json) : Hook → Response
  | reserve _ => .success id result false
  | claim _ => .success id ackResult false
  | listSessions => .success id (.obj [(js "sessions", result)]) false
  | options => .success id result false
  | start _ => .success id result false

/-- The catch clause of a try statement. -/
def Guard.catching (id : JsString) : Guard → Thrown → List Todo
  | claim, .custody code message => [.send (custodyFailure id code message)]
  | launch, .refused => [.send (.failed id .invalidArgument launchRefusedMessage)]
  | _, _ => [.onError, .send (internalError id)]

end Pherry.Host
