import Pherry.Host.Serve
import Pherry.Ios.WireOrder
import Pherry.Protocol.DeviceAuth

/-!
# What is typed and what is written

A live session of the phone: each chunk of terminal input has a task of its own, which asks the channel,
returns to the controller and starts a second task before the chunk is sealed. The scheduler runs any task
next. The host reads the records in the order the transport took them.
-/

namespace Pherry.Ios

open Lib Channel Protocol Host

/-! ## Requests -/

/-- A `UUID` as a string. -/
abbrev Uuid := { s : JsString // s.length = 36 ∧ ∀ u ∈ s, u < 0x80 }

/-- What the terminal sends the host. -/
inductive TerminalRequest
  | input (data : Bytes)
  | resize (cols rows : ℕ)

/-- The chunk of an input. -/
def TerminalRequest.chunk : TerminalRequest → Option Bytes
  | input data => some data
  | resize _ _ => none

/-- The params of `session.input`. -/
def inputParams (ref : SessionRef) (data : Bytes) : Json :=
  .obj [(js "sessionRef", .str ref.1), (js "dataB64", .str (base64 data))]

/-- The request of `ControllerClient.input` or `resize`. -/
def TerminalRequest.rpc (ref : SessionRef) (id : Uuid) : TerminalRequest → RpcRequest
  | input data => { id := id.1, method := js "session.input", params := some (inputParams ref data) }
  | resize cols rows =>
    { id := id.1
      method := js "session.resize"
      params := some (.obj [(js "sessionRef", .str ref.1), (js "cols", .int cols), (js "rows", .int rows)]) }

/-- A session the phone has open: the host's parsers and its connection, the session's name, and
`Rpc.encodeRequest`. -/
structure OpenSession where
  options : ServeOptions
  connection : Connection
  ref : SessionRef
  encodeRequest : RpcRequest → Bytes

/-- What the host writes to the PTY for a frame. -/
def OpenSession.ptyWrites (l : OpenSession) (frame : ChannelFrame) : List Bytes :=
  match frame.tag with
  | .binary => []
  | .control =>
    match l.options.parseRequest frame.payload with
    | none => []
    | some request =>
      (l.connection.dispatch l.options.parseParams request).filterMap fun
        | .session ref (.write dataB64) => if ref = l.ref then some (bufferFromBase64 dataB64) else none
        | _ => none

/-! ## The tasks -/

/-- How far the task of a request is: not begun, in `waitUntilOpen`, back on the controller, or the second
task with the encoded request. -/
inductive TaskStage
  | started
  | waiting
  | opened
  | spawned (payload : Bytes)

/-- A request on its way to the channel. -/
structure Carrier where
  request : TerminalRequest
  stage : TaskStage

/-- A live session at both ends. `typed` are the chunks of the keyboard, `reads` the writes the host has
taken, `written` what it has written to the PTY. -/
structure Typing where
  typed : List Bytes
  carriers : List Carrier
  controllerClosed : Bool
  link : Outgoing
  reads : ℕ
  opener : Opener
  hostUp : Bool
  written : List Bytes

/-- What can happen: the keyboard, the view, a task that runs on (the identifier is the one it draws if it
makes the request), the controller's teardown, the phone's channel and its transport, or the host. -/
inductive TypingEvent
  | input (data : Bytes)
  | resize (cols rows : ℕ)
  | run (i : ℕ) (id : Uuid)
  | teardown
  | receive (chunk : Bytes)
  | close
  | accept (i : ℕ)
  | refuse (i : ℕ)
  | read
  | hangUp

namespace Typing

variable (crypto : Crypto) (aead : Aead) (l : OpenSession)

/-- A task starts. -/
def start (s : Typing) (request : TerminalRequest) : Typing :=
  { s with carriers := s.carriers ++ [⟨request, .started⟩] }

/-- A task runs up to its next suspension. One that throws is gone, and its request with it. -/
def run (s : Typing) (i : ℕ) (id : Uuid) : Typing :=
  match s.carriers[i]? with
  | none => s
  | some ⟨request, .started⟩ => { s with carriers := s.carriers.set i ⟨request, .waiting⟩ }
  | some ⟨request, .waiting⟩ =>
    if s.link.channel.isOpen then { s with carriers := s.carriers.set i ⟨request, .opened⟩ }
    else if s.link.channel.closed then { s with carriers := s.carriers.eraseIdx i }
    else s
  | some ⟨request, .opened⟩ =>
    if s.controllerClosed then { s with carriers := s.carriers.eraseIdx i }
    else
      { s with
        carriers := s.carriers.set i ⟨request, .spawned (l.encodeRequest (request.rpc l.ref id))⟩ }
  | some ⟨_, .spawned payload⟩ =>
    { s with
      carriers := s.carriers.eraseIdx i
      link := s.link.send aead ⟨.control, payload⟩ }

/-- The bytes of a write. -/
def bytesOf : Write → Bytes
  | .hello message => message
  | .reply message => message
  | .record _ bytes => bytes

/-- The host takes the next record, behind its length. What does not open closes the channel. -/
def read (s : Typing) : Typing :=
  match s.link.wire[s.reads]? with
  | none => s
  | some w =>
    if s.hostUp then
      let s := { s with reads := s.reads + 1 }
      match s.opener.open aead ((bytesOf w).drop 4) with
      | .error _ => { s with hostUp := false }
      | .ok (frameBytes, opener) =>
        let s := { s with opener }
        match decodeFrame frameBytes with
        | .error _ => { s with hostUp := false }
        | .ok frame => { s with written := s.written ++ l.ptyWrites frame }
    else s

/-- One event. -/
def step (s : Typing) : TypingEvent → Typing
  | .input data => { s with typed := s.typed ++ [data] }.start (.input data)
  | .resize cols rows => s.start (.resize cols rows)
  | .run i id => s.run aead l i id
  | .teardown => if s.link.channel.closed then { s with controllerClosed := true } else s
  | .receive chunk => { s with link := s.link.receive crypto aead chunk }
  | .close => { s with link := s.link.step crypto aead .close }
  | .accept i => { s with link := s.link.accept aead i }
  | .refuse i => { s with link := s.link.refuse i }
  | .read => s.read aead l
  | .hangUp => { s with hostUp := false }

end Typing

/-- A session that has just gone live: the phone's channel is open, nothing is on its way, and the host is
about to open what the phone seals next. -/
structure GoneLive (l : OpenSession) (channel : SecureChannel) (sealer : RecordSealer) (opener : Opener) : Prop where
  isOpen : channel.isOpen = true
  closed : channel.closed = false
  sealer_eq : channel.sealer = some sealer
  key : opener.key = sealer.key
  noncePrefix : opener.noncePrefix = sealer.noncePrefix
  prefixLength : sealer.noncePrefix.length = noncePrefixBytes
  counter : opener.counter = sealer.counter
  capability : sessionInput ∈ l.connection.negotiated
  registered : (l.connection.registry l.ref).isSome = true

/-- A session from where it goes live. -/
def typingMachine (crypto : Crypto) (aead : Aead) (l : OpenSession) (channel : SecureChannel) (opener : Opener) :
    Machine Typing TypingEvent where
  init :=
    { typed := []
      carriers := []
      controllerClosed := false
      link := { channel, pumping := false, pending := [], wire := [], broken := false }
      reads := 0
      opener
      hostUp := true
      written := [] }
  step := Typing.step crypto aead l

/-! ## Typing order -/

/-- The chunks among requests on their way. -/
def chunks (carriers : List Carrier) : List Bytes := carriers.filterMap fun k => k.request.chunk

/-- The connection is up: no end has closed its channel, and the transport works. -/
def Up (s : Typing) : Prop := s.link.channel.closed = false ∧ s.link.broken = false ∧ s.hostUp = true

/-- Nothing that was typed is on its way. -/
def Settled (s : Typing) : Prop := chunks s.carriers = [] ∧ s.link.pending = [] ∧ s.reads = s.link.wire.length

/-- The host has written a beginning of what was typed, and while the connection is up all of it once nothing
is on its way. -/
structure InTypingOrder (s : Typing) : Prop where
  order : s.written <+: s.typed
  complete : Up s → Settled s → s.written = s.typed

/-- A chunk is typed when no other waits to be sealed, and fits a record; and no record is sealed past what
the host's counter can hold. -/
def oneAtATime (l : OpenSession) (s : Typing) : TypingEvent → Prop
  | .input data => chunks s.carriers = [] ∧ ∀ id,
      1 + (l.encodeRequest ((TerminalRequest.input data).rpc l.ref id)).length + recordTagBytes ≤ 4 * 1024 * 1024
  | .run _ _ => ∀ sealer, s.link.channel.sealer = some sealer → sealer.counter ≤ maxSafeInteger
  | _ => True

/-- What the host's parsers make of the phone's requests: an input is read as it was written, and a resize, if
it is read at all, too. -/
structure RequestCodec (l : OpenSession) : Prop where
  input : ∀ id data, l.options.parseRequest (l.encodeRequest ((TerminalRequest.input data).rpc l.ref id)) =
    some ((TerminalRequest.input data).rpc l.ref id)
  resize : ∀ id cols rows request,
    l.options.parseRequest (l.encodeRequest ((TerminalRequest.resize cols rows).rpc l.ref id)) = some request →
      request = (TerminalRequest.resize cols rows).rpc l.ref id
  params : ∀ data, l.options.parseParams .input (some (inputParams l.ref data)) = .ok (l.ref, base64 data)

/-- A record opens under the nonce it was sealed with and under no other of its direction, and to what was
sealed. -/
def Authentic (aead : Aead) : Prop :=
  ∀ key noncePrefix m n plaintext opened, noncePrefix.length = noncePrefixBytes → m < 2 ^ 64 → n < 2 ^ 64 →
    aead.decrypt key (nonceFor noncePrefix n) (aead.encrypt key (nonceFor noncePrefix m) plaintext) = some opened →
      n = m ∧ opened = plaintext

end Pherry.Ios
