import Pherry.RelayCore.CellBridges
import Pherry.TransportNode.NodeSocket

/-!
# The relay process

A cell behind a `node:net` server: every accepted socket is wrapped by `nodeSocketDuplex` and
handed to the cell, and a signal drains the cell, then closes it once the server has closed. The
events are the socket events, the replies and timers of the cell, and the signals.
-/

namespace Pherry.Relay

open Lib RelayCore TransportNode

/-- The state of the process. A connection of the cell and its socket have one number. -/
structure App where
  cell : Cell
  socket : ConnId → Socket
  shuttingDown : Bool

/-- What happens to the process. -/
inductive Event
  | connection
  | socket (c : ConnId) (e : SocketEvent)
  | hostKeyReply (c : ConnId) (reply : Except Unit (Option Bytes)) (ephemeralSecret : Bytes)
      (nonce : Bytes32)
  | ticketReply (c : ConnId) (reply : Except Unit (Option TicketRecord)) (now : ℤ)
      (nonce : Bytes32)
  | timer (handle : TimerHandle)
  | shutdown
  | serverClosed

namespace App

/-- The process before any connection. -/
def init : App :=
  { cell := .init, socket := fun _ => .connected, shuttingDown := false }

/-- Whether the socket of connection `c` can emit `e`. -/
def emits (a : App) (c : ConnId) (e : SocketEvent) : Bool :=
  decide (c < a.cell.accepted) && (a.socket c).emits e

/-- Whether every accepted socket has closed. -/
def allClosed (a : App) : Bool := (List.range a.cell.accepted).all fun c => (a.socket c).closed

/-- The event of the cell an event of the process amounts to, if it reaches the cell. -/
def cellEvent (a : App) : Event → Option RelayCore.Event
  -- a server that was closed accepts no connection
  | .connection => if a.shuttingDown then none else some (.accept nodeSocketDuplex.hasOnPeerClose)
  | .socket c e =>
    if a.emits c e then
      match nodeSocketDuplex e with
      | some (.message bytes) => some (.receive c bytes)
      -- `OuterConnection` registers no drain handler
      | some .drained => none
      | none => none
    else none
  | .hostKeyReply c reply ephemeralSecret nonce =>
    some (.hostKeyReply c reply ephemeralSecret nonce)
  | .ticketReply c reply now nonce => some (.ticketReply c reply now nonce)
  | .timer handle => some (.timer handle)
  | .shutdown => if a.shuttingDown then none else some .drain
  -- `server.close` calls back when every connection has ended
  | .serverClosed => if a.shuttingDown && a.allClosed then some .close else none

/-- The sockets after an event. -/
def nextSocket (a : App) : Event → ConnId → Socket
  | .socket c e => if a.emits c e then Function.update a.socket c ((a.socket c).after e) else a.socket
  | _ => a.socket

variable (o : CellOptions)

/-- One event. -/
def step (a : App) (e : Event) : App :=
  { cell := (a.cellEvent e).toList.foldl (Cell.step o) a.cell
    socket := a.nextSocket e
    shuttingDown := a.shuttingDown || e matches .shutdown }

end App

/-- The process as a machine. -/
def appMachine (o : CellOptions) : Machine App Event := ⟨App.init, App.step o⟩

/-- The events of the cell in a run of the process. -/
def cellEvents (o : CellOptions) (es : List Event) : List RelayCore.Event :=
  (appMachine o).outputs (fun a e => (a.cellEvent e).toList) es

lemma cell_run (o : CellOptions) (es : List Event) :
    ((appMachine o).run es).cell = (cellMachine o).run (cellEvents o es) := by
  refine (appMachine o).history_invariant
    (p := fun es a => a.cell = (cellMachine o).run (cellEvents o es)) rfl (fun es e ih => ?_) es
  rw [cellEvents, Machine.outputs_snoc, Machine.run_append]
  show (((appMachine o).run es).cellEvent e).toList.foldl (Cell.step o) _ = _
  rw [ih]
  rfl

end Pherry.Relay
