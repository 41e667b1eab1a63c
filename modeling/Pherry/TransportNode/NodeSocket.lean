import Pherry.Js

/-!
# The socket adapter

`nodeSocketDuplex` moves bytes between a `node:net` socket and the `Duplex` the channel and the
cell drive. What matters above it is which socket events it listens to.
-/

namespace Pherry.TransportNode

/-- What a socket emits. -/
inductive SocketEvent
  | data (chunk : Bytes)
  | ended
  | error
  | close
  | drain
deriving Repr

/-- Which of its last events a socket has emitted. -/
structure Socket where
  ended : Bool
  closed : Bool

/-- A socket that was just connected. -/
def Socket.connected : Socket := { ended := false, closed := false }

/-- Whether a socket can emit an event: nothing follows `close`, and no data follows `end`. -/
def Socket.emits (socket : Socket) : SocketEvent → Bool
  | .data _ => !socket.ended && !socket.closed
  | .ended => !socket.ended && !socket.closed
  | .error => !socket.closed
  | .close => !socket.closed
  | .drain => !socket.closed

/-- The socket after an event. -/
def Socket.after (socket : Socket) : SocketEvent → Socket
  | .ended => { socket with ended := true }
  | .close => { socket with closed := true }
  | _ => socket

/-- What a listener of the adapter does: call the inbound handler, or the drain handlers. -/
inductive DuplexCall
  | message (bytes : Bytes)
  | drained

/-- The listeners `nodeSocketDuplex` attaches: one for `data` and one for `drain`. -/
def nodeSocketDuplex : SocketEvent → Option DuplexCall
  | .data chunk => some (.message chunk)
  | .drain => some .drained
  | .ended => none
  | .error => none
  | .close => none

/-- Whether the adapter has the optional `onPeerClose` member a cell looks for. It has not. -/
def nodeSocketDuplex.hasOnPeerClose : Bool := false

lemma Socket.closed_after {socket : Socket} {e : SocketEvent}
    (h : (socket.after e).closed = true) : socket.closed = true ∨ e = .close := by
  cases e with
  | close => exact .inr rfl
  | data chunk => exact .inl h
  | ended => exact .inl h
  | error => exact .inl h
  | drain => exact .inl h

lemma Socket.emits_of_closed {socket : Socket} (h : socket.closed = true) (e : SocketEvent) :
    socket.emits e = false := by
  cases e <;> simp [emits, h]

end Pherry.TransportNode
