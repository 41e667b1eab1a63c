import Pherry.Lib.Machine
import Pherry.RelayCore.OuterFrame

/-!
# An outer connection and its consumer

`OuterConnection` as both adapters use it: the code above it registers handlers, and these call back
into the connection. A handler is a function of the consumer's state, so that one that is replaced
is one that does something else in the new state. `delivered` records what the handlers were given.
-/

namespace Pherry.RelayCore

open Lib

/-- A call the consumer makes on its connection. `onRaw` registers the raw handler. -/
inductive Call
  | send (m : OuterMessage)
  | sendRaw (bytes : Bytes)
  | toRaw
  | onRaw
  | close
deriving DecidableEq

/-- What a handler did: the consumer's state behind it, its calls in order, and whether it threw at
the end of them. -/
structure Handled (η : Type*) where
  consumer : η
  calls : List Call
  threw : Bool

/-- The code above a connection: its message handler, its error handler, which may close the
connection, and what it does of its own accord. -/
structure Consumer (η ε : Type*) where
  onMessage : η → OuterMessage → Handled η
  onError : η → η × Bool
  onEvent : η → ε → η × List Call

/-- What a handler was given. -/
inductive Delivery
  | message (m : OuterMessage)
  | raw (bytes : Bytes)
  | error

/-- What was written to the duplex. -/
inductive Written
  | message (m : OuterMessage)
  | raw (bytes : Bytes)

/-- The state of a connection, with what it wrote and delivered. `attached` is whether a raw handler
is registered; `early` counts the raw bytes that came before one was, and nothing reads it. -/
structure Endpoint (η : Type*) where
  reader : OuterFrameReader
  raw : Bool
  attached : Bool
  rawBuffer : List Bytes
  rawBufferBytes : ℕ
  closed : Bool
  written : List Written
  delivered : List Delivery
  early : ℕ
  consumer : η

namespace Endpoint

variable {η ε : Type*}

/-- The connection as it is constructed. -/
def init (consumer : η) : Endpoint η :=
  { reader := OuterFrameReader.empty, raw := false, attached := false, rawBuffer := [],
    rawBufferBytes := 0, closed := false, written := [], delivered := [], early := 0, consumer }

/-- `send`: a no-op once closed. -/
def send (s : Endpoint η) (m : OuterMessage) : Endpoint η :=
  if s.closed then s else { s with written := s.written ++ [.message m] }

/-- `sendRaw`: a no-op once closed. -/
def sendRaw (s : Endpoint η) (bytes : Bytes) : Endpoint η :=
  if s.closed then s else { s with written := s.written ++ [.raw bytes] }

/-- `close`. -/
def close (s : Endpoint η) : Endpoint η := { s with closed := true }

/-- `onRaw`: register the raw handler and flush what was queued for it. -/
def onRaw (s : Endpoint η) : Endpoint η :=
  { s with attached := true, rawBuffer := [], rawBufferBytes := 0,
           delivered := s.delivered ++ s.rawBuffer.map .raw }

variable (consumer : Consumer η ε)

/-- Report an error to the error handler. -/
def fail (s : Endpoint η) : Endpoint η :=
  { s with
    consumer := (consumer.onError s.consumer).1
    delivered := s.delivered ++ [.error]
    closed := s.closed || (consumer.onError s.consumer).2 }

/-- `#deliverRaw`: without a handler the bytes are queued, up to the cap. -/
def deliverRaw (s : Endpoint η) (bytes : Bytes) : Endpoint η :=
  if s.attached then { s with delivered := s.delivered ++ [.raw bytes] }
  else
    let s := { s with early := s.early + bytes.length }
    if s.rawBufferBytes + bytes.length > maxPrehandlerRawBytes then
      (fail consumer { s with rawBuffer := [], rawBufferBytes := 0 }).close
    else
      { s with rawBuffer := s.rawBuffer ++ [bytes]
               rawBufferBytes := s.rawBufferBytes + bytes.length }

/-- `toRaw`: what the reader still holds are the first raw bytes. -/
def toRaw (s : Endpoint η) : Endpoint η :=
  if s.raw then s
  else
    let leftover := s.reader.drainRemaining
    let s := { s with raw := true, reader := leftover.2 }
    if leftover.1.length > 0 then s.deliverRaw consumer leftover.1 else s

/-- One call. -/
def call (s : Endpoint η) : Call → Endpoint η
  | .send m => s.send m
  | .sendRaw bytes => s.sendRaw bytes
  | .toRaw => s.toRaw consumer
  | .onRaw => s.onRaw
  | .close => s.close

/-- The calls of a handler, in order. -/
def callAll (s : Endpoint η) (calls : List Call) : Endpoint η :=
  calls.foldl (fun s c => s.call consumer c) s

/-- Hand a message to the message handler, behind which the connection has the new reader. -/
def dispatch (s : Endpoint η) (reader : OuterFrameReader) (m : OuterMessage) : Endpoint η :=
  callAll consumer
    { s with reader, consumer := (consumer.onMessage s.consumer m).consumer,
             delivered := s.delivered ++ [.message m] }
    (consumer.onMessage s.consumer m).calls

variable (decode : Bytes → Option OuterMessage)

/-- The frame loop of `#receive`, for at most `fuel` frames. A framing error, an undecodable payload
and a throw of the handler all end it in the error handler. -/
def receiveLoop : ℕ → Endpoint η → Endpoint η
  | 0, s => s
  | fuel + 1, s =>
    if s.raw then s
    else
      match s.reader.next with
      | .error _ => s.fail consumer
      | .ok none => s
      | .ok (some (payload, reader)) =>
        match decode payload with
        | none => { s with reader }.fail consumer
        | some m =>
          if (consumer.onMessage s.consumer m).threw then (s.dispatch consumer reader m).fail consumer
          else receiveLoop fuel (s.dispatch consumer reader m)

/-- `#receive`. Every frame takes bytes off the reader, so its length bounds the number of frames. -/
def receive (s : Endpoint η) (chunk : Bytes) : Endpoint η :=
  if s.closed then s
  else if s.raw then s.deliverRaw consumer chunk
  else
    let s := { s with reader := s.reader.push chunk }
    receiveLoop consumer decode (s.reader.length + 1) s

/-- What happens to a connection: a chunk arrives, or the consumer acts. -/
inductive Event (ε : Type*)
  | receive (chunk : Bytes)
  | own (e : ε)

/-- One event. -/
def step (s : Endpoint η) : Event ε → Endpoint η
  | .receive chunk => s.receive consumer decode chunk
  | .own e =>
    callAll consumer { s with consumer := (consumer.onEvent s.consumer e).1 }
      (consumer.onEvent s.consumer e).2

end Endpoint

/-- A connection under a consumer, as a machine. -/
def endpointMachine {η ε : Type*} (decode : Bytes → Option OuterMessage) (consumer : Consumer η ε)
    (start : η) : Machine (Endpoint η) (Endpoint.Event ε) :=
  ⟨Endpoint.init start, Endpoint.step consumer decode⟩

end Pherry.RelayCore
