import Pherry.ControlPlane.Attention
import Pherry.Lib.Concurrent
import Pherry.Lib.KeyStore

/-!
# Raising attention

`raiseAttention` on the store and the database it shares, one command or statement at a time, each of
which may fail before or behind its effect. The value of a lock, which no command reads, names the
raise that took it.
-/

namespace Pherry.ControlPlane

open Lib

/-! ## The raise -/

/-- The host that raises, and `AttentionEvent`. -/
structure RaiseArgs where
  hostId : JsString
  orgId : JsString
  sessionRef : JsString
  kind : JsString
  summary : JsString
  question : Option JsString
  options : Option (List JsString)
  urgency : JsString

/-- `suppressionKey`. -/
def suppressionKey (hostId sessionRef kind : JsString) : JsString :=
  js "attn:sup:" ++ hostId ++ js ":" ++ sessionRef ++ js ":" ++ kind

/-- The key that a raise locks. -/
def RaiseArgs.key (args : RaiseArgs) : JsString := suppressionKey args.hostId args.sessionRef args.kind

/-- The key that an event was raised under. -/
def AttentionEventRow.key (row : AttentionEventRow) : JsString :=
  suppressionKey row.hostId row.sessionRef row.kind

/-- The configuration. -/
structure AttentionConfig where
  attentionDebounceMs : ℕ

/-- Where a command or a statement fails: without its effect, or with it. -/
inductive Fault
  | before
  | after
deriving DecidableEq

/-- What a step reads and draws: the clock, a row id, whether the session is the host's, and whether
the step fails. -/
structure RaiseDraw where
  now : ℕ
  id : JsString
  bound : Bool
  fault : Option Fault

/-- Where a raise has got to. -/
inductive RaiseStage
  | bind
  | claim
  | insert
  | load (row : AttentionEventRow)
  | route (row : AttentionEventRow)
  | unknown
  | suppressed
  | failed
  | raised (id : JsString)
deriving DecidableEq

/-- The locks and the events. -/
structure AttentionStore where
  redis : KeyStore JsString ℕ
  events : AttentionEvents

/-- The row of a raise. -/
def raisedRow (draw : RaiseDraw) (args : RaiseArgs) : AttentionEventRow where
  id := draw.id
  orgId := args.orgId
  hostId := args.hostId
  sessionRef := args.sessionRef
  kind := args.kind
  summary := args.summary
  question := args.question
  options := args.options
  urgency := args.urgency
  ackedAt := none
  createdAt := draw.now

/-- The next command or statement of `raiseAttention`, where this is the raise of that number. A
channel that throws is caught. -/
def raiseAttention (config : AttentionConfig) (number : ℕ) (draw : RaiseDraw) (args : RaiseArgs)
    (s : AttentionStore) : RaiseStage → AttentionStore × RaiseStage
  | .bind =>
    if draw.fault.isSome then (s, .failed)
    else (s, if draw.bound then .claim else .unknown)
  | .claim =>
    let claimed := s.redis.setNx args.key number (some config.attentionDebounceMs)
    match draw.fault with
    | some .before => (s, .failed)
    | some .after => ({ s with redis := claimed.1 }, .failed)
    | none => ({ s with redis := claimed.1 }, if claimed.2 then .insert else .suppressed)
  | .insert =>
    match draw.fault, s.events.insert (raisedRow draw args) with
    | some .before, _ => (s, .failed)
    | _, none => (s, .failed)
    | some .after, some events => ({ s with events }, .failed)
    | none, some events => ({ s with events }, .load (raisedRow draw args))
  | .load row => (s, if draw.fault.isSome then .failed else .route row)
  | .route row => (s, .raised row.id)
  | stage => (s, stage)

/-- A raise with its arguments. -/
abbrev RaiseCall := RaiseArgs × RaiseStage

/-- The next step of a raise. -/
def RaiseCall.step (config : AttentionConfig) (number : ℕ) (draw : RaiseDraw) (s : AttentionStore)
    (call : RaiseCall) : AttentionStore × RaiseCall :=
  let r := raiseAttention config number draw call.1 s call.2
  (r.1, call.1, r.2)

/-- The store and the raises on it. -/
abbrev Raises := Concurrent AttentionStore RaiseCall

/-- What happens: time passes, a raise begins, or a raise gets a step done. -/
inductive RaiseEvent
  | advance (ms : ℕ)
  | raise (args : RaiseArgs)
  | step (number : ℕ) (draw : RaiseDraw)

namespace Raises

/-- One event. -/
def react (config : AttentionConfig) (s : Raises) : RaiseEvent → Raises
  | .advance ms => { s with shared := { s.shared with redis := s.shared.redis.advance ms } }
  | .raise args => s.start (args, .bind)
  | .step number draw => s.advance number (RaiseCall.step config number draw)

end Raises

/-- No raise has been made yet. -/
def raiseMachine (config : AttentionConfig) (now : ℕ) : Machine Raises RaiseEvent where
  init := ⟨⟨.empty now, .empty⟩, []⟩
  step s e := s.react config e

end Pherry.ControlPlane
