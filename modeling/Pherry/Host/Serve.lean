import Pherry.Host.Dispatch
import Pherry.Host.Gate

/-!
# A served connection

`serveConnection` as a state machine: the gate, the handlers of the frames it hands over, and the
requests that await a hook. A handler runs up to its next call of foreign code, which may do anything
to the connection before it returns; handlers that are running are kept on a stack.
-/

namespace Pherry.Host

open Lib Channel Protocol

/-- What a connection is configured with, and the parsers it applies to a request. -/
structure ServeOptions where
  gate : GateOptions
  parseRequest : Bytes → Option RpcRequest
  parseParams : (method : Method) → Option Json → Except Json (ParamsOf method)
  custody : Bool
  listSessions : Bool
  launch : Bool

/-- How far a handler is: in foreign code, with what is left behind it, or about to return. A `false`
is an exception that leaves it. -/
inductive Stage
  | calling (call : Todo) (left : List Todo)
  | returning (ok : Bool)

/-- A handler for the request of this number. `caught` is whether it runs a catch clause, `framed`
whether the frame handler called it. -/
structure Handler where
  request : ℕ
  id : JsString
  guard : Guard
  caught : Bool
  framed : Bool

/-- A request that awaits the promise of a hook. -/
structure Waiting where
  request : ℕ
  id : JsString
  hook : Hook

/-- The state of a served connection. `log` has what was parsed of every frame that was handled;
`stack` has the innermost handler first. -/
structure Serve where
  gate : Gate
  registry : SessionRef → Option LiveSession
  subscriptions : List SessionRef
  touched : List SessionRef
  log : List (Option RpcRequest)
  stack : List (Handler × Stage)
  waiting : List Waiting

/-- What a served connection does. `uncaught` is an exception that leaves it. -/
inductive ServeEffect
  | gate (effect : GateEffect)
  | respond (request : ℕ) (response : Response)
  | session (ref : SessionRef) (op : SessionOp)
  | hook (hook : Hook)
  | onError
  | uncaught

/-- What happens to a served connection: something at its gate, the return of the call that the
innermost handler made, a promise that settles, a change of the registry. -/
inductive ServeEvent
  | gate (e : GateEvent)
  | returned (reply : Except Thrown Json)
  | settled (i : ℕ) (outcome : Except Thrown Json)
  | registry (registry : SessionRef → Option LiveSession)

/-- What stops a handler. -/
inductive Stop
  | ended
  | called (call : Todo) (left : List Todo)
  | threw

/-- Add to a set in insertion order. -/
def addRef (refs : List SessionRef) (ref : SessionRef) : List SessionRef :=
  if ref ∈ refs then refs else refs ++ [ref]

namespace Serve

/-- A new connection over a channel with this session id. -/
def init (sessionId : Bytes) : Serve :=
  { gate := .init sessionId
    registry := fun _ => none
    subscriptions := []
    touched := []
    log := []
    stack := []
    waiting := [] }

/-! ## Handlers -/

/-- A handler up to its next call. A closed connection sends nothing, and a channel refuses what is
too long for a record. -/
def advance (s : Serve) (request : ℕ) : List Todo → Serve × List ServeEffect × Stop
  | [] => (s, [], .ended)
  | .send response :: left =>
    if s.gate.closed then s.advance request left
    else if fitsRecord response.payload then
      (s, [.respond request response], .called (.send response) left)
    else (s, [], .threw)
  | .delete ref :: left =>
    { s with subscriptions := s.subscriptions.filter (· ≠ ref) }.advance request left
  | .touch ref :: left => { s with touched := addRef s.touched ref }.advance request left
  | .set ref :: left => { s with subscriptions := addRef s.subscriptions ref }.advance request left
  | .session ref op :: left => (s, [.session ref op], .called (.session ref op) left)
  | .hook hook :: left => (s, [.hook hook], .called (.hook hook) left)
  | .onError :: left => (s, [.onError], .called .onError left)

/-- A handler has nothing left to do. An exception that leaves `dispatch` leaves the frame handler
too, and one that leaves an async handler is an unhandled rejection. -/
def leave (s : Serve) (h : Handler) (ok : Bool) : Serve × List ServeEffect :=
  let effects := if ok then [] else [ServeEffect.uncaught]
  if h.framed then
    ({ s with stack := (h, .returning (ok || h.guard ≠ .dispatch)) :: s.stack }, effects)
  else (s, effects)

/-- Where a handler stopped. -/
def stopped (h : Handler) (r : Serve × List ServeEffect × Stop)
    (threw : Serve → Serve × List ServeEffect) : Serve × List ServeEffect :=
  match r.2.2 with
  | .ended =>
    let next := r.1.leave h true
    (next.1, r.2.1 ++ next.2)
  | .called call left => ({ r.1 with stack := (h, .calling call left) :: r.1.stack }, r.2.1)
  | .threw =>
    let next := threw r.1
    (next.1, r.2.1 ++ next.2)

/-- Go on in a catch clause. -/
def clause (s : Serve) (h : Handler) (todo : List Todo) : Serve × List ServeEffect :=
  stopped h (s.advance h.request todo) fun s => s.leave h false

/-- An exception in a handler. -/
def raise (s : Serve) (h : Handler) (error : Thrown) : Serve × List ServeEffect :=
  if h.caught then s.leave h false
  else s.clause { h with caught := true } (h.guard.catching h.id error)

/-- Go on with a handler. -/
def run (s : Serve) (h : Handler) (todo : List Todo) : Serve × List ServeEffect :=
  stopped h (s.advance h.request todo) fun s => s.raise h .other

/-- A hook returns: the result of a synchronous one, or a promise. -/
def replied (s : Serve) (h : Handler) : Hook → Except Thrown Json → Serve × List ServeEffect
  | .reserve _, .error (.custody code message) => s.run h [.send (custodyFailure h.id code message)]
  | .reserve spec, .ok result => s.run h [.send ((Hook.reserve spec).resulted h.id result)]
  | .listSessions, .ok result => s.run h [.send (Hook.listSessions.resulted h.id result)]
  | _, .error error => s.raise h error
  | hook, .ok _ =>
    let w : Waiting :=
      { request := h.request
        id := h.id
        hook }
    { s with waiting := s.waiting ++ [w] }.leave h true

/-- A hook returns, to the try statement it was called in. -/
def hookReturned (s : Serve) (h : Handler) (hook : Hook) (reply : Except Thrown Json) :
    Serve × List ServeEffect :=
  s.replied
    { h with
      guard := hook.guard
      caught := false } hook reply

/-- Whether the innermost code that runs is a handler, where one runs. -/
def handles (s : Serve) : Bool :=
  match s.gate.calls with
  | [] => true
  | .handle _ :: _ => true
  | .ack _ :: _ => false
  | .verify _ :: _ => false

/-- The call that the innermost handler made returns. -/
def onReturned (s : Serve) (reply : Except Thrown Json) : Serve × List ServeEffect :=
  match s.handles, s.stack with
  | true, (h, .calling call left) :: stack =>
    let s := { s with stack }
    match call, reply with
    | .hook hook, reply => s.hookReturned h hook reply
    | _, .error error => s.raise h error
    | _, .ok _ => s.run h left
  | _, _ => (s, [])

/-- The promise of a hook settles, once no code is running. -/
def onSettled (s : Serve) (i : ℕ) (outcome : Except Thrown Json) : Serve × List ServeEffect :=
  if s.gate.calls = [] ∧ s.stack.isEmpty = true then
    match s.waiting[i]? with
    | none => (s, [])
    | some w =>
      let s := { s with waiting := s.waiting.eraseIdx i }
      let h : Handler :=
        { request := w.request
          id := w.id
          guard := w.hook.guard
          caught := false
          framed := false }
      match outcome with
      | .ok result => s.run h [.send (w.hook.resulted w.id result)]
      | .error error => s.raise h error
  else (s, [])

/-! ## Frames -/

variable (o : ServeOptions)

/-- What a handler reads. -/
def connection (s : Serve) : Connection :=
  { negotiated := s.gate.negotiated
    subscriptions := s.subscriptions
    registry := s.registry
    custody := o.custody
    listSessions := o.listSessions
    launch := o.launch }

/-- `handleRpcPayload`. -/
def handleRpcPayload (s : Serve) (payload : Bytes) : Serve × List ServeEffect :=
  let parsed := o.parseRequest payload
  let h : Handler :=
    { request := s.log.length
      id := (parsed.map RpcRequest.id).getD []
      guard := .dispatch
      caught := parsed.isNone
      framed := true }
  let s := { s with log := s.log ++ [parsed] }
  match parsed with
  | none => s.clause h [.onError]
  | some request => s.run h ((s.connection o).dispatch o.parseParams request)

/-- `teardownAll`. -/
def teardownAll (s : Serve) : Serve × List ServeEffect :=
  ({ s with
      subscriptions := []
      touched := [] },
    s.subscriptions.map (fun ref => .session ref .unsubscribe) ++
      s.touched.map fun ref => .session ref .releaseViewer)

/-- What the gate does. -/
def perform (s : Serve) (effect : GateEffect) : Serve × List ServeEffect :=
  match effect with
  | .handleRpcPayload payload => s.handleRpcPayload o payload
  | .tornDown => s.teardownAll
  | _ => (s, [.gate effect])

/-- A step of the gate. -/
def stepGate (s : Serve) (e : GateEvent) : Serve × List ServeEffect :=
  let r := s.gate.react o.gate e
  r.2.foldl (fun r effect =>
    let next := r.1.perform o effect
    (next.1, r.2 ++ next.2)) ({ s with gate := r.1 }, [])

/-- An event at the gate. A handler returns as it stopped, and tasks run once no code does. -/
def onGate (s : Serve) (e : GateEvent) : Serve × List ServeEffect :=
  match e with
  | .handlerReturned ok =>
    match s.handles, s.stack with
    | true, (_, .returning result) :: stack =>
      if ok = result then { s with stack }.stepGate o e else (s, [])
    | _, _ => (s, [])
  | .ackReturned false =>
    match s.gate.calls with
    | .ack _ :: _ =>
      let r := s.stepGate o e
      (r.1, r.2 ++ [.uncaught])
    | _ => (s, [])
  | .timer => if s.stack.isEmpty then s.stepGate o e else (s, [])
  | .verdict _ _ => if s.stack.isEmpty then s.stepGate o e else (s, [])
  | _ => s.stepGate o e

/-- One event and its effects. -/
def react (s : Serve) : ServeEvent → Serve × List ServeEffect
  | .gate e => s.onGate o e
  | .returned reply => s.onReturned reply
  | .settled i outcome => s.onSettled i outcome
  | .registry registry => ({ s with registry }, [])

end Serve

/-- A served connection as a machine. -/
def serveMachine (o : ServeOptions) (sessionId : Bytes) : Machine Serve ServeEvent :=
  ⟨.init sessionId, fun s e => (s.react o e).1⟩

end Pherry.Host
