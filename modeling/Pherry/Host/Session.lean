import Pherry.Host.Terminal
import Pherry.Lib.Machine

/-!
# The fan-out of a session

`Session`: its terminal and the subscribers every live frame goes to. A sink is foreign code that may
call the session before it returns, so what is left to do behind a sink's call is kept on a stack; a
broadcast goes over the live set of subscribers, whoever is in it when it comes to them.
-/

namespace Pherry.Host

open Lib Protocol

/-- A subscriber: the number of its subscription, its place in the set, and its flow control. -/
structure Subscriber where
  number : ℕ
  place : ℕ
  flow : Bool
  paused : Bool
  missed : Bool

/-- What a session has to do for one subscriber. -/
inductive Emit
  | frame (frame : PtyFrame)
  | snapshot
  | body (seq : ℕ)
  | ended
  | register (flow : Bool)
  | settle

/-- The call of a sink, and what is left behind it: a snapshot, or a broadcast that goes on with the
subscribers from a place on. -/
inductive SinkCall
  | emission (number : ℕ) (left : List Emit)
  | broadcast (frame : PtyFrame) (number place : ℕ)

/-- The state of a session. `made` and `places` count the subscriptions and the additions to the set;
`writable` is what the transport of each subscription reports; `calls` has the innermost call first. -/
structure Session (σ : Type) where
  terminal : Terminal σ
  subscribers : List Subscriber
  made : ℕ
  places : ℕ
  writable : ℕ → Bool
  calls : List SinkCall

/-- What a session does to the outside. -/
inductive SessionEffect
  | sink (number : ℕ) (frame : PtyFrame)
  | backend (effect : BackendEffect)
deriving Repr

/-- The frames that go to a sink. -/
def sunk (number : ℕ) (effects : List SessionEffect) : List PtyFrame :=
  effects.filterMap fun
    | .sink n frame => if n = number then some frame else none
    | .backend _ => none

/-- What happens to a session. The innermost sink returns or throws; a transport turns. -/
inductive SessionEvent
  | terminal (e : TerminalEvent)
  | subscribe (flow : Bool)
  | unsubscribe (number : ℕ)
  | drain (number : ℕ)
  | returned
  | threw
  | turn (number : ℕ) (writable : Bool)

/-- The terminal frame, which goes to paused subscribers too. -/
def isTerminal (frame : PtyFrame) : Bool := frame.opcode = PtyOpcode.ended

namespace Session

variable {σ : Type} (em : Emulator σ)

/-- A new session. -/
def new (streamId : ℕ) (size : Size) : Session σ :=
  { terminal := .new em streamId size
    subscribers := []
    made := 0
    places := 0
    writable := fun _ => true
    calls := [] }

/-- The subscriber of a subscription. -/
def subscriber (s : Session σ) (number : ℕ) : Option Subscriber :=
  s.subscribers.find? fun sub => sub.number = number

/-- Change the subscriber of a subscription. -/
def onSubscriber (s : Session σ) (number : ℕ) (f : Subscriber → Subscriber) : Session σ :=
  { s with subscribers := s.subscribers.map fun sub => if sub.number = number then f sub else sub }

/-- Pause a subscriber whose transport is not writable. -/
def pauseFull (s : Session σ) (number : ℕ) : Session σ :=
  s.onSubscriber number fun sub =>
    if sub.flow && !s.writable number then { sub with paused := true } else sub

/-- The rest of `subscribe`, behind the snapshot. -/
def register (s : Session σ) (number : ℕ) (flow : Bool) : Session σ :=
  let sub : Subscriber :=
    { number
      place := s.places
      flow
      paused := flow && !s.terminal.ended && !s.writable number
      missed := false }
  { s with
    subscribers := s.subscribers ++ [sub]
    places := s.places + 1 }

/-- What is to do for a subscriber up to the next call of its sink. -/
def advance (s : Session σ) (number : ℕ) : List Emit → Session σ × Option (PtyFrame × List Emit)
  | [] => (s, none)
  | .frame frame :: left => (s, some (frame, left))
  | .snapshot :: left => (s, some (s.terminal.snapshotStart, .body s.terminal.seq :: left))
  | .body seq :: left =>
    match s.terminal.snapshotBody em seq with
    | [] => s.advance number left
    | frame :: frames => (s, some (frame, frames.map .frame ++ left))
  | .ended :: left =>
    if s.terminal.ended then (s, some (s.terminal.endedFrame, left)) else s.advance number left
  | .register flow :: left => (s.register number flow).advance number left
  | .settle :: left => (s.pauseFull number).advance number left

/-- Go on with what is to do for a subscriber. -/
def emit (s : Session σ) (number : ℕ) (left : List Emit) : Session σ × List SessionEffect :=
  match s.advance em number left with
  | (s, none) => (s, [])
  | (s, some (frame, left)) =>
    ({ s with calls := .emission number left :: s.calls }, [.sink number frame])

/-- A broadcast passes the paused subscribers between two places. -/
def pass (s : Session σ) (place bound : ℕ) : Session σ :=
  { s with subscribers := s.subscribers.map fun sub =>
      if place ≤ sub.place ∧ sub.place < bound then { sub with missed := true } else sub }

/-- Go on with a broadcast at a place. -/
def visit (s : Session σ) (frame : PtyFrame) (place : ℕ) : Session σ × List SessionEffect :=
  match s.subscribers.find? fun sub => place ≤ sub.place && (isTerminal frame || !sub.paused) with
  | some sub =>
    let s := s.pass place sub.place
    ({ s with calls := .broadcast frame sub.number (sub.place + 1) :: s.calls },
      [.sink sub.number frame])
  | none =>
    let s := s.pass place s.places
    if isTerminal frame then
      ({ s with
          terminal := s.terminal.exited frame.seq
          subscribers := [] }, [])
    else (s, [])

/-- `subscribe`. A disposed session throws. -/
def subscribe (s : Session σ) (flow : Bool) : Session σ × List SessionEffect :=
  if s.terminal.disposed then (s, [])
  else { s with made := s.made + 1 }.emit em s.made [.snapshot, .ended, .register flow]

/-- `#resumeSubscriber`. -/
def resume (s : Session σ) (number : ℕ) : Session σ × List SessionEffect :=
  match s.subscriber number with
  | none => (s, [])
  | some sub =>
    if !sub.paused then (s, [])
    else
      let s := s.onSubscriber number fun sub =>
        { sub with
          paused := false
          missed := false }
      if !sub.missed then (s, [])
      else s.emit em number [.frame s.terminal.gap, .snapshot, .settle]

/-- An event at the terminal, and the broadcast of its live frame. -/
def onTerminal (s : Session σ) (e : TerminalEvent) : Session σ × List SessionEffect :=
  let r := s.terminal.react em e
  let effects := r.2.1.map SessionEffect.backend
  let s := { s with
    terminal := r.1
    subscribers := if r.1.disposed && !s.terminal.disposed then [] else s.subscribers }
  match r.2.2 with
  | none => (s, effects)
  | some frame =>
    let next := s.visit frame 0
    (next.1, effects ++ next.2)

/-- The innermost sink returns. -/
def onReturned (s : Session σ) : Session σ × List SessionEffect :=
  match s.calls with
  | [] => (s, [])
  | .emission number left :: calls => { s with calls }.emit em number left
  | .broadcast frame number place :: calls =>
    let s := { s with calls }
    (if isTerminal frame then s else s.pauseFull number).visit frame place

/-- One event and its effects. An exception of a sink leaves what called it. -/
def react (s : Session σ) : SessionEvent → Session σ × List SessionEffect
  | .terminal e => s.onTerminal em e
  | .subscribe flow => s.subscribe em flow
  | .unsubscribe number => ({ s with subscribers := s.subscribers.filter (·.number ≠ number) }, [])
  | .drain number => s.resume em number
  | .returned => s.onReturned em
  | .threw => ({ s with calls := s.calls.tail }, [])
  | .turn number writable => ({ s with writable := Function.update s.writable number writable }, [])

end Session

/-- A session as a machine. -/
def sessionMachine {σ : Type} (em : Emulator σ) (streamId : ℕ) (size : Size) :
    Machine (Session σ) SessionEvent :=
  ⟨.new em streamId size, fun s e => (s.react em e).1⟩

end Pherry.Host
