import Pherry.Lib.InsertionMap
import Pherry.Lib.Machine
import Pherry.RelayCore.HostProof
import Pherry.RelayCore.OuterFrame

/-!
# The cell

The blind relay as a state machine. Its events are what the outside does to it: a connection is
accepted, a chunk arrives, an authorizer call returns or fails, a timer fires, a peer closes, and
`drain()` or `close()` is called. An asynchronous handler is cut at its one `await`: the part
before it leaves the call in `Conn.awaiting`, the reply event runs the part behind it. Connections
are numbered in the order they were accepted; a `Duplex` is what was sent on it.
-/

namespace Pherry.RelayCore

open Lib

/-- A connection, by the order it was accepted in. -/
abbrev ConnId := ℕ

/-- A handle `setTimeout` returned. -/
abbrev TimerHandle := ℕ

/-- `MAX_USED_TICKETS`. Irreducible: unification must not count down from it. -/
@[irreducible] def maxUsedTickets : ℕ := 1024

/-- The direction a bridged byte flows in. -/
inductive BridgeDirection
  | controllerToHost
  | hostToController

/-- The lifecycle phase of a connection. -/
inductive ConnRole
  | unclassified
  | controlPending
  | control
  | controllerData
  | hostData
deriving DecidableEq, Repr

/-- The raw handler `splice` installs: tap the bytes, then write them to `target`. -/
structure RawRoute where
  ticket : Ticket
  direction : BridgeDirection
  target : ConnId

/-- What was handed to a duplex. -/
inductive Outbound
  | message (m : OuterMessage)
  | raw (bytes : Bytes)

/-- The state of an `OuterConnection`, with what it has written to its duplex. -/
structure OuterConnection where
  reader : OuterFrameReader
  raw : Bool
  rawHandler : Option RawRoute
  rawBuffer : List Bytes
  rawBufferBytes : ℕ
  closed : Bool
  sent : List Outbound

/-- A live, spliced bridge. -/
structure Bridge where
  ticket : Ticket
  controller : ConnId
  host : ConnId
deriving DecidableEq

/-- The authorizer call a handler of the connection is suspended at. -/
inductive Awaiting
  | hostStaticPublicKey (hostId : JsString)
  | resolveTicket (ticket : Ticket)

/-- Per-connection state. `monitored` is whether its duplex has an `onPeerClose`. -/
structure Conn where
  outer : OuterConnection
  role : ConnRole
  hostId : Option JsString
  hostStaticPub : Option Bytes
  challenge : Option HostChallengeSecret
  dataKey : Option Bytes
  ticket : Option Ticket
  bridge : Option Bridge
  monitored : Bool
  awaiting : Option Awaiting

/-- A controller awaiting its host's data connection. -/
structure PendingBridge where
  ticket : Ticket
  hostId : JsString
  controller : ConnId
  timer : TimerHandle
  nonce : Bytes32
deriving DecidableEq

/-- What a ticket routes to. -/
structure TicketRecord where
  hostId : JsString
  expiresAt : ℤ

/-- How a cell is constructed: its id, the imported primitives, and the JSON codec of the outer
messages. `encodes` is whether `encodeOuterMessage` returns rather than throws. -/
structure CellOptions where
  cellId : JsString
  crypto : Crypto
  decodeOuterMessage : Bytes → Option OuterMessage
  encodes : OuterMessage → Bool

/-- The state of a cell. `timers` are the armed timers with the ticket each was set for. -/
structure Cell where
  hosts : InsertionMap JsString ConnId
  pending : InsertionMap Ticket PendingBridge
  bridges : List Bridge
  usedTickets : List Ticket
  draining : Bool
  closed : Bool
  conn : ConnId → Conn
  accepted : ℕ
  timers : List (TimerHandle × Ticket)
  nextTimer : TimerHandle
  bridgedBytes : List (Ticket × BridgeDirection × Bytes)

/-- What happens to a cell. A reply carries what its continuation reads or draws: the clock, the
fresh nonce, the fresh ephemeral secret. -/
inductive Event
  | accept (monitored : Bool)
  | receive (c : ConnId) (chunk : Bytes)
  | hostKeyReply (c : ConnId) (reply : Except Unit (Option Bytes)) (ephemeralSecret : Bytes)
      (nonce : Bytes32)
  | ticketReply (c : ConnId) (reply : Except Unit (Option TicketRecord)) (now : ℤ)
      (nonce : Bytes32)
  | timer (handle : TimerHandle)
  | peerClose (c : ConnId)
  | drain
  | close

/-- A connection nothing was received on. -/
def Conn.fresh (monitored : Bool) : Conn :=
  { outer :=
      { reader := OuterFrameReader.empty, raw := false, rawHandler := none, rawBuffer := [],
        rawBufferBytes := 0, closed := false, sent := [] }
    role := .unclassified, hostId := none, hostStaticPub := none, challenge := none,
    dataKey := none, ticket := none, bridge := none, monitored, awaiting := none }

/-- The end of a bridge that is not `c`. -/
def Bridge.peer (b : Bridge) (c : ConnId) : ConnId := if b.controller = c then b.host else b.controller

namespace Cell

/-- The cell before any connection. -/
def init : Cell :=
  { hosts := .empty, pending := .empty, bridges := [], usedTickets := [], draining := false,
    closed := false, conn := fun _ => Conn.fresh false, accepted := 0, timers := [],
    nextTimer := 0, bridgedBytes := [] }

/-! ## Writing to connections -/

/-- Change the record of connection `c`. -/
def modify (s : Cell) (c : ConnId) (f : Conn → Conn) : Cell :=
  { s with conn := Function.update s.conn c (f (s.conn c)) }

/-- `OuterConnection.send` of a message that encodes: a no-op once closed. -/
def send (s : Cell) (c : ConnId) (m : OuterMessage) : Cell :=
  s.modify c fun k =>
    if k.outer.closed then k
    else { k with outer := { k.outer with sent := k.outer.sent ++ [.message m] } }

/-- `OuterConnection.sendRaw`: a no-op once closed. -/
def sendRaw (s : Cell) (c : ConnId) (bytes : Bytes) : Cell :=
  s.modify c fun k =>
    if k.outer.closed then k
    else { k with outer := { k.outer with sent := k.outer.sent ++ [.raw bytes] } }

/-- `OuterConnection.close`. -/
def closeOuter (s : Cell) (c : ConnId) : Cell :=
  s.modify c fun k => { k with outer := { k.outer with closed := true } }

/-- `clearTimeout`. -/
def clearTimeout (s : Cell) (handle : TimerHandle) : Cell :=
  { s with timers := s.timers.filter fun t => t.1 ≠ handle }

/-! ## Teardown -/

/-- Drop the registration `c` holds. -/
def cleanupHost (s : Cell) (c : ConnId) : Cell :=
  match (s.conn c).hostId with
  | none => s
  | some hostId =>
    if s.hosts.get hostId = some c then { s with hosts := s.hosts.erase hostId } else s

/-- Drop the pending bridge `c` waits in, and its timer. -/
def cleanupPending (s : Cell) (c : ConnId) : Cell :=
  match (s.conn c).ticket with
  | none => s
  | some ticket =>
    match s.pending.get ticket with
    | none => s
    | some pending =>
      if pending.controller = c then
        { s.clearTimeout pending.timer with pending := s.pending.erase ticket }
      else s

/-- Drop the live bridge `c` is in, closing its other end. -/
def cleanupBridge (s : Cell) (c : ConnId) : Cell :=
  match (s.conn c).bridge with
  | none => s
  | some bridge =>
    if bridge ∈ s.bridges then
      ({ s with bridges := s.bridges.filter (· ≠ bridge) }.modify (bridge.peer c)
        fun k => { k with bridge := none }).closeOuter (bridge.peer c)
    else s

/-- Remove `c` from every structure it participates in, closing its bridge peer. -/
def cleanup (s : Cell) (c : ConnId) : Cell :=
  (((s.cleanupHost c).cleanupPending c).cleanupBridge c).modify c
    fun k => { k with bridge := none, dataKey := none }

/-- Send a coded `close` and tear the connection down. -/
def refuse (s : Cell) (c : ConnId) (code : RelayCloseCode) : Cell :=
  ((s.send c (.close code none)).cleanup c).closeOuter c

/-- A framing or protocol error on a connection. -/
def fail (s : Cell) (c : ConnId) : Cell := s.refuse c .protocolError

/-- Clean up and close without a `close` message. -/
def detach (s : Cell) (c : ConnId) : Cell := (s.cleanup c).closeOuter c

/-! ## Raw bytes -/

/-- `onBridgedBytes`, the blindness tap. -/
def tap (s : Cell) (route : RawRoute) (bytes : Bytes) : Cell :=
  { s with bridgedBytes := s.bridgedBytes ++ [(route.ticket, route.direction, bytes)] }

/-- The handler `splice` installed: tap the bytes and write them to the other end. -/
def forward (s : Cell) (route : RawRoute) (bytes : Bytes) : Cell :=
  (s.tap route bytes).sendRaw route.target bytes

/-- `OuterConnection.#deliverRaw`: without a handler the bytes are queued, up to the cap. -/
def deliverRaw (s : Cell) (c : ConnId) (bytes : Bytes) : Cell :=
  match (s.conn c).outer.rawHandler with
  | some route => s.forward route bytes
  | none =>
    if (s.conn c).outer.rawBufferBytes + bytes.length > maxPrehandlerRawBytes then
      ((s.modify c fun k =>
        { k with outer := { k.outer with rawBuffer := [], rawBufferBytes := 0 } }).fail c).closeOuter c
    else
      s.modify c fun k =>
        { k with outer := { k.outer with
            rawBuffer := k.outer.rawBuffer ++ [bytes]
            rawBufferBytes := k.outer.rawBufferBytes + bytes.length } }

/-- `OuterConnection.onRaw`: install the handler and flush what was queued. -/
def onRaw (s : Cell) (c : ConnId) (route : RawRoute) : Cell :=
  (s.conn c).outer.rawBuffer.foldl (fun s bytes => s.forward route bytes)
    (s.modify c fun k =>
      { k with outer := { k.outer with
          rawHandler := some route, rawBuffer := [], rawBufferBytes := 0 } })

/-- `OuterConnection.toRaw`: what the reader still holds are the first raw bytes. -/
def toRaw (s : Cell) (c : ConnId) : Cell :=
  if (s.conn c).outer.raw then s
  else
    let leftover := (s.conn c).outer.reader.drainRemaining
    let s := s.modify c fun k =>
      { k with outer := { k.outer with raw := true, reader := leftover.2 } }
    if leftover.1.length > 0 then s.deliverRaw c leftover.1 else s

/-! ## Registration -/

/-- `#dropChallenge`. -/
def dropChallenge (s : Cell) (c : ConnId) : Cell := s.modify c fun k => { k with challenge := none }

variable (o : CellOptions)

/-- `#beginRegistration` behind its `await`: challenge a known host. -/
def hostKeyReply (s : Cell) (c : ConnId) (hostId : JsString)
    (reply : Except Unit (Option Bytes)) (ephemeralSecret : Bytes) (nonce : Bytes32) : Cell :=
  match reply with
  | .error _ => s.fail c
  | .ok staticPub =>
    if s.closed || (s.conn c).outer.closed then s
    else
      match staticPub with
      | none => s.refuse c .unknownHost
      | some staticPub =>
        let challenge := makeChallenge o.crypto o.cellId ephemeralSecret nonce
        let s := s.modify c fun k =>
          { k with
            hostId := some hostId
            hostStaticPub := some staticPub
            challenge := some challenge }
        let m := OuterMessage.hostChallenge challenge.cellId challenge.nonce
          challenge.cellEphemeralPub
        -- an unencodable challenge throws, and the handler's `catch` fails the connection
        if o.encodes m then s.send c m else s.fail c

/-- Close the connection `hostId` is registered on, unless it is `c`. -/
def supersede (s : Cell) (c : ConnId) (hostId : JsString) : Cell :=
  match s.hosts.get hostId with
  | none => s
  | some previous => if previous ≠ c then s.closeOuter previous else s

/-- Replace any registration of `hostId` by `c`. -/
def register (s : Cell) (c : ConnId) (hostId : JsString) (dataKey : Bytes) : Cell :=
  { (s.supersede c hostId).modify c fun k => { k with dataKey := some dataKey, role := .control } with
    hosts := s.hosts.set hostId c }

/-- `#onProof`: verify a returned proof and register; `error` is the state at a throw. -/
def onProof (s : Cell) (c : ConnId) (message : OuterMessage) : Except Cell Cell :=
  match message with
  | .hostProof mac =>
    match (s.conn c).challenge, (s.conn c).hostId, (s.conn c).hostStaticPub with
    | some challenge, some hostId, some hostStaticPub =>
      let verified := verifyProof o.crypto challenge hostId hostStaticPub mac.1
      let dataKey := if verified then cellDataAuthKey o.crypto challenge hostStaticPub else none
      let s := s.dropChallenge c
      match dataKey with
      | none => .ok (s.refuse c .proofFailed)
      | some dataKey =>
        let s := s.register c hostId dataKey
        if (s.conn c).outer.closed || o.encodes (.hostRegistered hostId) then
          .ok (s.send c (.hostRegistered hostId))
        else .error s
    | _, _, _ => .ok (s.refuse c .protocolError)
  | _ => .ok ((s.dropChallenge c).refuse c .protocolError)

/-! ## Bridging -/

/-- `#beginControllerBridge` up to its `await`. -/
def beginControllerBridge (s : Cell) (c : ConnId) (ticket : Ticket) : Cell :=
  if s.draining then s.refuse c .drained
  else s.modify c fun k => { k with awaiting := some (.resolveTicket ticket) }

/-- Add a ticket to the used ones, forgetting the oldest over the cap. -/
def rememberTicket (usedTickets : List Ticket) (ticket : Ticket) : List Ticket :=
  let used := if ticket ∈ usedTickets then usedTickets else usedTickets ++ [ticket]
  used.drop (used.length - maxUsedTickets)

/-- `#markTicketUsed`. -/
def markTicketUsed (s : Cell) (ticket : Ticket) : Cell :=
  { s with usedTickets := rememberTicket s.usedTickets ticket }

/-- Use up `ticket`, arm its timer, and let `c` wait. -/
def addPending (s : Cell) (c : ConnId) (ticket : Ticket) (hostId : JsString) (nonce : Bytes32) :
    Cell :=
  { (s.markTicketUsed ticket).modify c
      fun k => { k with ticket := some ticket, hostId := some hostId } with
    timers := s.timers ++ [(s.nextTimer, ticket)]
    nextTimer := s.nextTimer + 1
    pending := s.pending.set ticket { ticket, hostId, controller := c, timer := s.nextTimer, nonce } }

/-- Let `c` wait, and signal `control`'s host to dial for it. -/
def openPending (s : Cell) (c control : ConnId) (ticket : Ticket) (hostId : JsString)
    (nonce : Bytes32) : Cell :=
  (s.addPending c ticket hostId nonce).send control (.connOpen ticket nonce)

/-- `#beginControllerBridge` behind its `await`: validate the ticket, then signal the host. -/
def ticketReply (s : Cell) (c : ConnId) (ticket : Ticket)
    (reply : Except Unit (Option TicketRecord)) (now : ℤ) (nonce : Bytes32) : Cell :=
  match reply with
  | .error _ => s.fail c
  | .ok record =>
    if s.closed || (s.conn c).outer.closed then s
    else
      match record with
      | none => s.refuse c .badTicket
      | some record =>
        if now ≥ record.expiresAt then s.refuse c .ticketExpired
        else if ticket ∈ s.usedTickets then s.refuse c .ticketReused
        else
          match s.hosts.get record.hostId with
          | none => s.refuse c .unknownHost
          | some control => s.openPending c control ticket record.hostId nonce

/-- `#onBridgeTimeout`: the host never dialed in time. -/
def onBridgeTimeout (s : Cell) (ticket : Ticket) : Cell :=
  match s.pending.get ticket with
  | none => s
  | some pending =>
    { s with pending := s.pending.erase ticket }.refuse pending.controller .bridgeTimeout

/-- Record a bridge on both of its ends. -/
def link (s : Cell) (b : Bridge) : Cell :=
  ({ s with bridges := s.bridges ++ [b] }.modify b.controller
    fun k => { k with bridge := some b }).modify b.host fun k => { k with bridge := some b }

/-- Forward either end's bytes to the other, and signal both. -/
def pipe (s : Cell) (b : Bridge) : Cell :=
  let s := s.onRaw b.controller ⟨b.ticket, .controllerToHost, b.host⟩
  let s := s.onRaw b.host ⟨b.ticket, .hostToController, b.controller⟩
  let s := s.send b.controller .dataReady
  let s := s.send b.host .dataReady
  let s := s.toRaw b.controller
  s.toRaw b.host

/-- `#splice`: wire two data connections into an opaque byte pipe. -/
def splice (s : Cell) (controller host : ConnId) (ticket : Ticket) : Cell :=
  (s.link ⟨ticket, controller, host⟩).pipe ⟨ticket, controller, host⟩

/-- Whether a dial for `pending` carries the MAC its registered host computes. -/
def dialVerifies (s : Cell) (pending : PendingBridge) (ticket : Ticket) (mac : Option Bytes32) :
    Bool :=
  match s.hosts.get pending.hostId with
  | none => false
  | some control =>
    match (s.conn control).dataKey, mac with
    | some dataKey, some mac =>
      verifyDataAuthMac o.crypto dataKey o.cellId ticket.1 pending.nonce.1 mac.1
    | _, _ => false

/-- `#completeHostDial`: authenticate a host's data connection and splice it. -/
def completeHostDial (s : Cell) (c : ConnId) (ticket : Ticket) (mac : Option Bytes32) : Cell :=
  match s.pending.get ticket with
  | none => s.refuse c .badTicket
  | some pending =>
    if s.dialVerifies o pending ticket mac then
      let s := { s.clearTimeout pending.timer with pending := s.pending.erase ticket }
      let s := s.modify c fun k => { k with ticket := some ticket, hostId := some pending.hostId }
      s.splice pending.controller c ticket
    else s.refuse c .dataAuthFailed

/-! ## Dispatch -/

/-- `#classify`: a connection's first message. -/
def classify (s : Cell) (c : ConnId) (message : OuterMessage) : Cell :=
  match message with
  | .hostHello hostId =>
    s.modify c fun k =>
      { k with role := .controlPending, awaiting := some (.hostStaticPublicKey hostId) }
  | .dataAuth .controller ticket _ =>
    (s.modify c fun k => { k with role := .controllerData }).beginControllerBridge c ticket
  | .dataAuth .host ticket mac =>
    (s.modify c fun k => { k with role := .hostData }).completeHostDial o c ticket mac
  | _ => s.refuse c .protocolError

/-- `#dispatch`: route a message by the connection's role. -/
def dispatch (s : Cell) (c : ConnId) (message : OuterMessage) : Except Cell Cell :=
  match (s.conn c).role with
  | .unclassified => .ok (s.classify o c message)
  | .controlPending => s.onProof o c message
  | .control =>
    match message with
    | .close _ _ => .ok (s.detach c)
    | _ => .ok (s.refuse c .protocolError)
  | .controllerData => .ok (s.refuse c .protocolError)
  | .hostData => .ok (s.refuse c .protocolError)

/-- The frame loop of `OuterConnection.#receive`, for at most `fuel` frames. A framing error, an
undecodable payload and a throw of the handler all end it in the error handler, `fail`. -/
def receiveLoop : ℕ → Cell → ConnId → Cell
  | 0, s, _ => s
  | fuel + 1, s, c =>
    if (s.conn c).outer.raw then s
    else
      match (s.conn c).outer.reader.next with
      | .error _ => s.fail c
      | .ok none => s
      | .ok (some (payload, reader)) =>
        let s := s.modify c fun k => { k with outer := { k.outer with reader } }
        match o.decodeOuterMessage payload with
        | none => s.fail c
        | some message =>
          match s.dispatch o c message with
          | .error s => s.fail c
          | .ok s => receiveLoop fuel s c

/-- The state in which the frame loop starts on a chunk: the chunk is buffered. -/
def buffer (s : Cell) (c : ConnId) (chunk : Bytes) : Cell :=
  s.modify c fun k => { k with outer := { k.outer with reader := k.outer.reader.push chunk } }

/-- `OuterConnection.#receive`. Every frame takes bytes off the reader, so its length bounds the
number of frames. -/
def receive (s : Cell) (c : ConnId) (chunk : Bytes) : Cell :=
  if (s.conn c).outer.closed then s
  else if (s.conn c).outer.raw then s.deliverRaw c chunk
  else
    let s := s.buffer c chunk
    receiveLoop o ((s.conn c).outer.reader.length + 1) s c

/-! ## Lifecycle -/

/-- `#accept`: bind a fresh connection; a closed cell closes its duplex at once. -/
def accept (s : Cell) (monitored : Bool) : Cell :=
  if s.closed then s
  else { s.modify s.accepted fun _ => Conn.fresh monitored with accepted := s.accepted + 1 }

/-- `drain()`: stop accepting new controller work and notify the hosts. -/
def drain (s : Cell) : Cell :=
  if s.closed || s.draining then s
  else s.hosts.values.foldl (fun s c => s.send c .drain) { s with draining := true }

/-- Close every waiting controller and drop the pending bridges. -/
def closePendings (s : Cell) : Cell :=
  { s.pending.values.foldl
      (fun s pending => (s.clearTimeout pending.timer).closeOuter pending.controller) s with
    pending := .empty }

/-- Close both ends of every bridge and drop the bridges. -/
def closeBridges (s : Cell) : Cell :=
  { s.bridges.foldl (fun s b => (s.closeOuter b.controller).closeOuter b.host) s with
    bridges := [] }

/-- Close every control connection and drop the registrations. -/
def closeHosts (s : Cell) : Cell :=
  { s.hosts.values.foldl (fun s c => s.closeOuter c) s with hosts := .empty }

/-- `close()`: tear the whole cell down. -/
def close (s : Cell) : Cell :=
  if s.closed then s
  else { s with closed := true }.closePendings.closeBridges.closeHosts

/-! ## Events -/

/-- A chunk arrives on `c`, if there is such a connection. -/
def onReceive (s : Cell) (c : ConnId) (chunk : Bytes) : Cell :=
  if c < s.accepted then s.receive o c chunk else s

/-- The authorizer answers the key lookup `c` awaits, if it awaits one. -/
def onHostKeyReply (s : Cell) (c : ConnId) (reply : Except Unit (Option Bytes))
    (ephemeralSecret : Bytes) (nonce : Bytes32) : Cell :=
  match (s.conn c).awaiting with
  | some (.hostStaticPublicKey hostId) =>
    (s.modify c fun k => { k with awaiting := none }).hostKeyReply o c hostId reply
      ephemeralSecret nonce
  | _ => s

/-- The authorizer answers the ticket lookup `c` awaits, if it awaits one. -/
def onTicketReply (s : Cell) (c : ConnId) (reply : Except Unit (Option TicketRecord)) (now : ℤ)
    (nonce : Bytes32) : Cell :=
  match (s.conn c).awaiting with
  | some (.resolveTicket ticket) =>
    (s.modify c fun k => { k with awaiting := none }).ticketReply c ticket reply now nonce
  | _ => s

/-- A timer fires, if it is armed. -/
def onTimer (s : Cell) (handle : TimerHandle) : Cell :=
  match s.timers.find? fun t => t.1 = handle with
  | some (_, ticket) => (s.clearTimeout handle).onBridgeTimeout ticket
  | none => s

/-- `#onPeerClose`, which only a monitored duplex calls. -/
def onPeerClose (s : Cell) (c : ConnId) : Cell :=
  if c < s.accepted ∧ (s.conn c).monitored then s.detach c else s

/-- One event. An event of a connection that was never accepted, a reply nobody awaits and a timer
that is not armed do not happen: the state stays. -/
def step (s : Cell) : Event → Cell
  | .accept monitored => s.accept monitored
  | .receive c chunk => s.onReceive o c chunk
  | .hostKeyReply c reply ephemeralSecret nonce => s.onHostKeyReply o c reply ephemeralSecret nonce
  | .ticketReply c reply now nonce => s.onTicketReply c reply now nonce
  | .timer handle => s.onTimer handle
  | .peerClose c => s.onPeerClose c
  | .drain => s.drain
  | .close => s.close

end Cell

/-- A cell under `o` as a machine. -/
def cellMachine (o : CellOptions) : Machine Cell Event := ⟨Cell.init, Cell.step o⟩

end Pherry.RelayCore
