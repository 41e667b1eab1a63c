import Pherry.Host.Session
import Pherry.Protocol.Methods

/-!
# The subscriptions of a connection

What `serveConnection` keeps of its subscriptions: the subscriptions themselves, the resume callbacks
that the one drain of the channel goes round, and the sinks that it has at the sessions. A handler runs
to its end, but any `send` of the channel may refuse, throw, or close the channel before it returns.
-/

namespace Pherry.Host

open Lib Protocol

/-- What a call of the channel's `send` comes to: whether the record goes out, whether the channel is
closed before it returns, what `writable` is behind it, and whether it returns or throws. A `send` that
returns has handed its record to the duplex, which drops none. -/
structure SendAnswer where
  takes : Bool
  closes : Bool
  writable : Bool
  returns : Bool
  accepted : returns = true → takes = true

/-- A session of the host, with its terminal. -/
structure HostedSession (σ : Type) where
  ref : SessionRef
  terminal : Terminal σ

/-- A sink of this connection that is attached to a session, for the subscription of a number. -/
structure AttachedSink where
  session : ℕ
  number : ℕ
  paused : Bool
  missed : Bool

/-- An entry of `subscriptions`: its session, and the number its `unsubscribe` drops the sink of. -/
structure SubscriptionEntry where
  session : ℕ
  number : ℕ

/-- What goes out on the connection, and its close: the acknowledgement of a subscription, a PTY frame
for it, the acknowledgement of an unsubscribe, any other response. -/
inductive Outgoing
  | subscribed (number : ℕ) (ref : SessionRef)
  | frame (number : ℕ) (frame : PtyFrame)
  | unsubscribed (ref : SessionRef)
  | response
  | closed

/-- The subscriptions of a connection, and the sessions of its host, which are kept for good: what is
not in the registry any more may still have a sink. `made` counts the subscriptions, `calls` the calls
of the channel's `send`, `sent` is what went out; a resume callback is that of a number's sink. -/
structure Subscriptions (σ : Type) where
  closed : Bool
  writable : Bool
  sessions : List (HostedSession σ)
  registry : InsertionMap SessionRef ℕ
  sinks : List AttachedSink
  subscriptions : InsertionMap SessionRef SubscriptionEntry
  resumers : InsertionMap SessionRef ℕ
  made : ℕ
  calls : ℕ
  sent : List Outgoing

/-- What happens to the subscriptions. A subscribe may ask for capabilities that were not negotiated. A
broadcast of a session may end at a sink of another connection that throws, behind some of the sinks
of this one; so may the one that releases the viewer of an unsubscribe. -/
inductive SubscriptionEvent
  | opened (ref : SessionRef) (streamId : ℕ) (size : Size)
  | removed (ref : SessionRef)
  | subscribe (ref : SessionRef) (escalated : Bool)
  | unsubscribe (ref : SessionRef) (threw : Bool)
  | session (i : ℕ) (e : TerminalEvent) (stopped : Option ℕ)
  | responded
  | turn (writable : Bool)
  | drain
  | close

namespace Subscriptions

variable {σ : Type} (em : Emulator σ) (channel : ℕ → SendAnswer)

/-- A new connection. -/
def new : Subscriptions σ :=
  { closed := false
    writable := true
    sessions := []
    registry := .empty
    sinks := []
    subscriptions := .empty
    resumers := .empty
    made := 0
    calls := 0
    sent := [] }

/-! ## The channel -/

/-- `closed = true` and `teardownAll`. The viewports of the viewer are let go at the sessions, by events
of their own: no sink of this connection is left to hear of it. -/
def close (s : Subscriptions σ) : Subscriptions σ :=
  { s with
    closed := true
    sinks := s.sinks.filter fun a => a.number ∉ s.subscriptions.values.map SubscriptionEntry.number
    subscriptions := .empty
    resumers := .empty
    sent := s.sent ++ [.closed] }

/-- Send on the channel unless the connection is closed. `false` is an exception. -/
def send (s : Subscriptions σ) (record : Outgoing) : Subscriptions σ × Bool :=
  if s.closed then (s, true)
  else
    let answer := channel s.calls
    let s := { s with
      calls := s.calls + 1
      writable := answer.writable
      sent := if answer.takes then s.sent ++ [record] else s.sent }
    (if answer.closes then s.close else s, answer.returns)

/-- A response to a request. What it throws leaves the frame handler. -/
def respond (s : Subscriptions σ) : Subscriptions σ := (s.send channel .response).1

/-- A sink is called with some frames. -/
def emit (s : Subscriptions σ) (number : ℕ) : List PtyFrame → Subscriptions σ × Bool
  | [] => (s, true)
  | frame :: frames =>
    let next := s.send channel (.frame number frame)
    if next.2 then next.1.emit number frames else next

/-! ## The sinks of a session -/

/-- The sink of a subscription. -/
def sink (s : Subscriptions σ) (number : ℕ) : Option AttachedSink :=
  s.sinks.find? fun a => a.number = number

/-- Change the sink of a subscription. -/
def onSink (s : Subscriptions σ) (number : ℕ) (f : AttachedSink → AttachedSink) : Subscriptions σ :=
  { s with sinks := s.sinks.map fun a => if a.number = number then f a else a }

/-- Pause a sink whose transport is not writable. -/
def pauseFull (s : Subscriptions σ) (number : ℕ) : Subscriptions σ :=
  s.onSink number fun a => if s.writable then a else { a with paused := true }

/-- `#broadcast`, over the sinks that this connection had at the session; the ones that went meanwhile
are passed. -/
def broadcast (s : Subscriptions σ) (frame : PtyFrame) : List ℕ → Subscriptions σ × Bool
  | [] => (s, true)
  | number :: numbers =>
    match s.sink number with
    | none => s.broadcast frame numbers
    | some a =>
      if a.paused && !isTerminal frame then
        (s.onSink number fun a => { a with missed := true }).broadcast frame numbers
      else
        let next := s.send channel (.frame number frame)
        if next.2 then
          (if isTerminal frame then next.1 else next.1.pauseFull number).broadcast frame numbers
        else next

/-- The numbers of the sinks that a broadcast of a session comes to. -/
def reached (s : Subscriptions σ) (i : ℕ) (stopped : Option ℕ) : List ℕ :=
  let numbers := (s.sinks.filter fun a => a.session = i).map AttachedSink.number
  match stopped with
  | none => numbers
  | some n => numbers.take n

/-- The terminal of a session is another. -/
def setTerminal (s : Subscriptions σ) (i : ℕ) (t : Terminal σ) : Subscriptions σ :=
  { s with sessions := s.sessions.modify i fun hosted => { hosted with terminal := t } }

/-- A session drops its subscribers. -/
def clear (s : Subscriptions σ) (i : ℕ) : Subscriptions σ :=
  { s with sinks := s.sinks.filter fun a => a.session ≠ i }

/-- A live frame goes to the sinks of a session; behind the last one the session is marked as ended, if
no sink threw. -/
def tell (s : Subscriptions σ) (i : ℕ) (t : Terminal σ) (frame : PtyFrame) (stopped : Option ℕ) :
    Subscriptions σ :=
  let next := s.broadcast channel frame (s.reached i stopped)
  if isTerminal frame && next.2 && stopped.isNone then
    (next.1.setTerminal i (t.exited frame.seq)).clear i
  else next.1

/-- An event at the terminal of a session. -/
def onSession (s : Subscriptions σ) (i : ℕ) (e : TerminalEvent) (stopped : Option ℕ) :
    Subscriptions σ :=
  match s.sessions[i]? with
  | none => s
  | some hosted =>
    let r := hosted.terminal.react em e
    let s := s.setTerminal i r.1
    let s := if r.1.disposed && !hosted.terminal.disposed then s.clear i else s
    match r.2.2 with
    | none => s
    | some frame => s.tell channel i r.1 frame stopped

/-! ## Requests -/

/-- `teardown`. -/
def teardown (s : Subscriptions σ) (ref : SessionRef) : Subscriptions σ :=
  match s.subscriptions.get ref with
  | none => s
  | some entry =>
    { s with
      subscriptions := s.subscriptions.erase ref
      resumers := s.resumers.erase ref
      sinks := s.sinks.filter fun a => a.number ≠ entry.number }

/-- The sink is attached behind its snapshot, with its resume callback if the session is live, and the
subscription is entered. -/
def enter (s : Subscriptions σ) (ref : SessionRef) (number i : ℕ) (live : Bool) : Subscriptions σ :=
  let a : AttachedSink :=
    { session := i
      number
      paused := live && !s.writable
      missed := false }
  { s with
    resumers := if live then s.resumers.set ref number else s.resumers
    sinks := s.sinks ++ [a]
    subscriptions := s.subscriptions.set ref ⟨i, number⟩ }

/-- `Session.subscribe`, and the entry behind it. A disposed session throws. -/
def attach (s : Subscriptions σ) (ref : SessionRef) (number i : ℕ) (t : Terminal σ) :
    Subscriptions σ × Bool :=
  if t.disposed then (s, false)
  else
    let next := s.emit channel number (t.snapshot em ++ if t.ended then [t.endedFrame] else [])
    if next.2 then (next.1.enter ref number i !t.ended, true) else next

/-- A subscribe to a session that is there: what it replaces goes first, the acknowledgement stands
before the snapshot, and an exception is answered with a failure. -/
def subscribeTo (s : Subscriptions σ) (ref : SessionRef) (i : ℕ) (t : Terminal σ) : Subscriptions σ :=
  let number := s.made
  let s := { s.teardown ref with made := number + 1 }
  let acked := s.send channel (.subscribed number ref)
  if acked.2 then
    let next := acked.1.attach em channel ref number i t
    if next.2 then next.1 else next.1.respond channel
  else acked.1.respond channel

/-- `handleSubscribe`. -/
def handleSubscribe (s : Subscriptions σ) (ref : SessionRef) (escalated : Bool) : Subscriptions σ :=
  if escalated then s.respond channel
  else
    match s.registry.get ref with
    | none => s.respond channel
    | some i =>
      match s.sessions[i]? with
      | none => s.respond channel
      | some hosted => s.subscribeTo em channel ref i hosted.terminal

/-- `handleUnsubscribe`. Only a subscription that is there has a viewer to release. -/
def handleUnsubscribe (s : Subscriptions σ) (ref : SessionRef) (threw : Bool) : Subscriptions σ :=
  let departed := s.teardown ref
  if threw && (s.subscriptions.get ref).isSome then departed.respond channel
  else
    let next := departed.send channel (.unsubscribed ref)
    if next.2 then next.1 else next.1.respond channel

/-! ## The drain of the channel -/

/-- `#resumeSubscriber`. -/
def resume (s : Subscriptions σ) (number : ℕ) : Subscriptions σ × Bool :=
  match s.sink number with
  | none => (s, true)
  | some a =>
    if !a.paused then (s, true)
    else
      let s := s.onSink number fun a =>
        { a with
          paused := false
          missed := false }
      if !a.missed then (s, true)
      else
        match s.sessions[a.session]? with
        | none => (s, true)
        | some hosted =>
          let next := s.emit channel number (hosted.terminal.gap :: hosted.terminal.snapshot em)
          if next.2 then (next.1.pauseFull number, true) else next

/-- The callbacks that are left when their turn comes, up to one that throws. -/
def pump (s : Subscriptions σ) : List SessionRef → Subscriptions σ
  | [] => s
  | ref :: refs =>
    match s.resumers.get ref with
    | none => s.pump refs
    | some number =>
      let next := s.resume em channel number
      if next.2 then next.1.pump refs else next.1

/-! ## Runs -/

/-- `register`, of a new session. -/
def opened (s : Subscriptions σ) (ref : SessionRef) (streamId : ℕ) (size : Size) : Subscriptions σ :=
  if (s.registry.get ref).isSome then s
  else
    { s with
      sessions := s.sessions ++ [⟨ref, .new em streamId size⟩]
      registry := s.registry.set ref s.sessions.length }

/-- One event. -/
def react (s : Subscriptions σ) : SubscriptionEvent → Subscriptions σ
  | .opened ref streamId size => s.opened em ref streamId size
  | .removed ref => { s with registry := s.registry.erase ref }
  | .subscribe ref escalated => s.handleSubscribe em channel ref escalated
  | .unsubscribe ref threw => s.handleUnsubscribe channel ref threw
  | .session i e stopped => s.onSession em channel i e stopped
  | .responded => s.respond channel
  | .turn writable => { s with writable }
  | .drain => s.pump em channel s.resumers.keys
  | .close => s.close

end Subscriptions

/-- The subscriptions of a connection as a machine, over a channel whose every call is given. -/
def subscriptionsMachine {σ : Type} (em : Emulator σ) (channel : ℕ → SendAnswer) :
    Machine (Subscriptions σ) SubscriptionEvent :=
  ⟨.new, fun s e => s.react em channel e⟩

end Pherry.Host
