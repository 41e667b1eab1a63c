import Pherry.Cli.Daemon

/-!
# Taking custody of a launch

`runOpen` against a daemon: a reservation, a claim, and the fallback to the real binary when one of
them throws. What it asks and what it is answered crosses a connection that may drop at any time at
either end, and the spawn goes on at the daemon.
-/

namespace Pherry.Cli

open Lib Host Protocol

/-! ## The spec -/

/-- What `buildSpec` reads: the real path, the launcher's environment and the shim directory, the size
of the terminal, and a fresh id. -/
structure Surroundings where
  world : LaunchWorld
  cwd : JsString
  cols : ℤ
  rows : ℤ

/-- `buildSpec`. -/
def buildSpec (execFallback : JsString) (args : List JsString) (w : Surroundings) : SessionSpec where
  argv := execFallback :: args
  cwd := w.cwd
  env := w.world.shimFreeEnv.set (js "PHERRY_LOCAL_ID") w.world.randomUUID
  cols := w.cols
  rows := w.rows

/-! ## The connection -/

/-- What the client asks of the daemon. -/
inductive CustodyRequest
  | reserve (spec : CustodySpec)
  | claim (ref : SessionRef)

/-- What the daemon answers: a receipt, `ok`, or a failure. -/
inductive CustodyReply
  | reserved (ref : SessionRef)
  | claimed
  | failed (code : ErrorCode)

/-- How far `runOpen` is. -/
inductive OpenStage
  | connecting
  | reserving
  | claiming (ref : SessionRef)
  | attached (ref : SessionRef)
  | failedOpen
deriving DecidableEq

/-- A run of `runOpen`, the connection and the daemon. `awaited` are the claims that `handleClaim`
awaits, by their place at the desk; `reserved` are the references drawn for it; `fallbacks` is what was
run instead. -/
structure Opening (σ : Type) where
  daemon : Daemon σ
  stage : OpenStage
  requests : List CustodyRequest
  replies : List CustodyReply
  hostOpen : Bool
  awaited : List ℕ
  reserved : List SessionRef
  fallbacks : List (JsString × List JsString)

/-- What happens: the client has connected with a spec or failed to; a message arrives, the client
being able to send its next request or not; a claim is answered; an end of the connection closes; or
something else happens at the daemon. -/
inductive OpeningEvent (execFallback : JsString) (args : List JsString)
  | connect (surroundings : Option { w : Surroundings // (buildSpec execFallback args w).Valid })
  | toHost
  | answer
  | toClient (sends : Bool)
  | clientClosed
  | hostClosed
  | daemon (e : DaemonEvent)

namespace Opening

variable {σ : Type} (em : Emulator σ) (newSessionRef : ℕ → SessionRef)
  (execFallback : JsString) (args : List JsString)

/-! ## The client -/

/-- The `catch` of `runOpen`. -/
def failOpen (s : Opening σ) : Opening σ :=
  { s with
    stage := .failedOpen
    fallbacks := s.fallbacks ++ [(execFallback, args)] }

/-- The spec is built and the daemon connected, or one of the two threw. -/
def connect (s : Opening σ)
    (surroundings : Option { w : Surroundings // (buildSpec execFallback args w).Valid }) : Opening σ :=
  if s.stage = .connecting then
    match surroundings with
    | none => s.failOpen execFallback args
    | some w =>
      { s with
        stage := .reserving
        requests := s.requests ++ [.reserve ⟨_, w.2⟩] }
  else s

/-- A reply arrives. A request that cannot be sent throws, and so does a reply of another shape. -/
def onReply (s : Opening σ) (sends : Bool) (reply : CustodyReply) : Opening σ :=
  match s.stage, reply with
  | .reserving, .reserved ref =>
    if sends then
      { s with
        stage := .claiming ref
        requests := s.requests ++ [.claim ref] }
    else s.failOpen execFallback args
  | .reserving, _ => s.failOpen execFallback args
  | .claiming ref, .claimed => { s with stage := .attached ref }
  | .claiming _, _ => s.failOpen execFallback args
  | _, _ => s

/-- The client's end closes, which rejects the request that is pending. -/
def clientClosed (s : Opening σ) : Opening σ :=
  match s.stage with
  | .reserving => s.failOpen execFallback args
  | .claiming _ => s.failOpen execFallback args
  | _ => s

/-! ## The host -/

/-- Send a reply. A connection that is closed sends nothing. -/
def send (s : Opening σ) (reply : CustodyReply) : Opening σ :=
  if s.hostOpen then { s with replies := s.replies ++ [reply] } else s

/-- `handleReserve`. -/
def handleReserve (s : Opening σ) (spec : CustodySpec) : Opening σ :=
  let ref := newSessionRef s.daemon.custody.shared.drawn
  { s with
    daemon := s.daemon.reserve newSessionRef spec
    reserved := s.reserved ++ [ref] }.send (.reserved ref)

/-- `handleClaim` up to its `await`. -/
def handleClaim (s : Opening σ) (ref : SessionRef) : Opening σ :=
  { s with
    daemon := s.daemon.claim newSessionRef ref
    awaited := s.awaited ++ [s.daemon.custody.calls.length] }

/-- What a claim is answered with, once it is settled. -/
def replyOf : OpenCall CustodySpec → Option CustodyReply
  | .opened _ _ => some .claimed
  | .failed _ => some (.failed .internal)
  | .refused error => some (.failed (if error.code = .alreadyClaimed then .forbidden else .notFound))
  | .spawning _ _ _ => none
  | .failing _ => none

/-- `handleClaim` behind its `await`. -/
def answer (s : Opening σ) : Opening σ :=
  match s.awaited with
  | [] => s
  | call :: awaited =>
    match s.daemon.custody.calls[call]?.bind replyOf with
    | none => s
    | some reply => { s with awaited }.send reply

/-- A request arrives. -/
def onRequest (s : Opening σ) : CustodyRequest → Opening σ
  | .reserve spec => s.handleReserve newSessionRef spec
  | .claim ref => s.handleClaim newSessionRef ref

/-! ## The run -/

/-- One event. -/
def step (s : Opening σ) : OpeningEvent execFallback args → Opening σ
  | .connect surroundings => s.connect execFallback args surroundings
  | .toHost =>
    match s.requests with
    | [] => s
    | request :: requests =>
      if s.hostOpen then { s with requests }.onRequest newSessionRef request
      else { s with requests }
  | .answer => s.answer
  | .toClient sends =>
    match s.replies with
    | [] => s
    | reply :: replies => { s with replies }.onReply execFallback args sends reply
  | .clientClosed => s.clientClosed execFallback args
  | .hostClosed =>
    { s with
      hostOpen := false
      requests := [] }
  | .daemon e => { s with daemon := s.daemon.react em newSessionRef e }

end Opening

/-- A run of `runOpen` against a daemon that has come to some state. -/
def openingMachine {σ : Type} (em : Emulator σ) (newSessionRef : ℕ → SessionRef)
    (execFallback : JsString) (args : List JsString) (daemon : Daemon σ) :
    Machine (Opening σ) (OpeningEvent execFallback args) where
  init :=
    { daemon
      stage := .connecting
      requests := []
      replies := []
      hostOpen := true
      awaited := []
      reserved := []
      fallbacks := [] }
  step := Opening.step em newSessionRef execFallback args

end Pherry.Cli
