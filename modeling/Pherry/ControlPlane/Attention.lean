import Pherry.Js
import Pherry.Lib.Machine
import Pherry.Lib.NewestFirst
import Pherry.Lib.Table

/-!
# The attention queue and its watcher

The events of the control plane's queue, and `runAttentionWatch`, which long-polls it with a cursor.
An event is inserted with any `createdAt`; a listing is one query of the database, in which the order
of events of one time is a rank's choice.
-/

namespace Pherry.ControlPlane

open Lib

/-! ## The queue -/

/-- A row of `attention_events`. -/
structure AttentionEventRow where
  id : JsString
  orgId : JsString
  hostId : JsString
  sessionRef : JsString
  kind : JsString
  summary : JsString
  question : Option JsString
  options : Option (List JsString)
  urgency : JsString
  ackedAt : Option ℕ
  createdAt : ℕ
deriving DecidableEq

/-- `AttentionView`. -/
structure AttentionView where
  id : JsString
  hostId : JsString
  sessionRef : JsString
  kind : JsString
  summary : JsString
  question : Option JsString
  options : Option (List JsString)
  urgency : JsString
  createdAt : ℕ
deriving DecidableEq

/-- `toView`. -/
def toView (row : AttentionEventRow) : AttentionView where
  id := row.id
  hostId := row.hostId
  sessionRef := row.sessionRef
  kind := row.kind
  summary := row.summary
  question := row.question
  options := row.options
  urgency := row.urgency
  createdAt := row.createdAt

/-- The unique column of `attention_events`. -/
def attentionColumns : List (AttentionEventRow → JsString) := [AttentionEventRow.id]

/-- The table of events. -/
abbrev AttentionEvents := Table attentionColumns

/-- `LIST_CAP`. -/
def listCap : ℕ := 100

/-- Behind a cursor. -/
def isBeyond (since : Option ℕ) (createdAt : ℕ) : Bool := since.all fun t => t < createdAt

/-- An event that nobody has acknowledged. -/
def isPending (orgId : JsString) (row : AttentionEventRow) : Bool :=
  row.orgId = orgId && row.ackedAt.isNone

/-- The events that a listing selects. -/
def pendingSince (orgId : JsString) (since : Option ℕ) (events : AttentionEvents) :
    List AttentionEventRow :=
  events.rows.filter fun row => isPending orgId row && isBeyond since row.createdAt

/-- `listAttention`. -/
def listAttention (rank : JsString → ℕ) (orgId : JsString) (since : Option ℕ)
    (events : AttentionEvents) : List AttentionEventRow :=
  newest AttentionEventRow.createdAt (fun row => rank row.id) listCap
    (pendingSince orgId since events)

/-- An event that is acknowledged. -/
def AttentionEventRow.ack (now : ℕ) (row : AttentionEventRow) : AttentionEventRow :=
  { row with ackedAt := some now }

/-- An event as it is inserted. -/
def AttentionEventRow.raised (row : AttentionEventRow) : AttentionEventRow :=
  { row with ackedAt := none }

lemma attentionColumns_ack (now : ℕ) :
    ∀ c ∈ attentionColumns, ∀ row : AttentionEventRow, c (row.ack now) = c row := by
  simp [attentionColumns, AttentionEventRow.ack]

/-- `ackAttention`. -/
def ackAttention (now : ℕ) (orgId id : JsString) (events : AttentionEvents) : AttentionEvents :=
  events.update (fun row => row.id = id && isPending orgId row) (AttentionEventRow.ack now)
    (attentionColumns_ack now)

/-! ## The watcher -/

/-- Where the loop of `runAttentionWatch` has got to; `listed` is whether the request has been listed
for already. -/
inductive WatchStage
  | idle
  | polling (listed : Bool)
  | answered (events : List AttentionView)

/-- The queue and its watcher: the cursor, and the events that `onEvent` was called with. -/
structure AttentionWatch where
  events : AttentionEvents
  since : Option ℕ
  delivered : List AttentionView
  stage : WatchStage

/-- What happens: an event is inserted or acknowledged, the watcher polls, the queue is listed for it,
a poll that found nothing runs out, and the watcher gets its answer. -/
inductive AttentionStep
  | raise (row : AttentionEventRow)
  | ack (now : ℕ) (orgId id : JsString)
  | poll
  | list (rank : JsString → ℕ)
  | timeout
  | receive

/-- The cursor behind the events of an answer, oldest first. -/
def advanceCursor (since : Option ℕ) (events : List AttentionView) : Option ℕ :=
  events.reverse.foldl (fun _ event => some event.createdAt) since

variable (orgId : JsString)

/-- `pollAttention`, up to its next sleep. -/
def pollAttention (rank : JsString → ℕ) (s : AttentionWatch) : WatchStage :=
  let rows := listAttention rank orgId s.since s.events
  if rows.length > 0 then .answered (rows.map toView) else .polling true

/-- One step. -/
def AttentionWatch.react (s : AttentionWatch) : AttentionStep → AttentionWatch
  | .raise row =>
    match s.events.insert row.raised with
    | none => s
    | some events => { s with events }
  | .ack now orgId id => { s with events := ackAttention now orgId id s.events }
  | .poll =>
    match s.stage with
    | .idle => { s with stage := .polling false }
    | _ => s
  | .list rank =>
    match s.stage with
    | .polling _ => { s with stage := pollAttention orgId rank s }
    | _ => s
  | .timeout =>
    match s.stage with
    | .polling true => { s with stage := .answered [] }
    | _ => s
  | .receive =>
    match s.stage with
    | .answered events =>
      { s with
        since := advanceCursor s.since events
        delivered := s.delivered ++ events.reverse
        stage := .idle }
    | _ => s

/-- A watcher that starts with a cursor, or with none. -/
def attentionMachine (since : Option ℕ) : Machine AttentionWatch AttentionStep where
  init := ⟨.empty, since, [], .idle⟩
  step s e := s.react orgId e

namespace AttentionWatch

/-- The events of an answer that is on its way. -/
def page (s : AttentionWatch) : List AttentionView :=
  match s.stage with
  | .answered events => events
  | _ => []

/-- The events that the watcher has been given, those on their way included. -/
def seen (s : AttentionWatch) : List AttentionView := s.delivered ++ s.page.reverse

/-- The cursor behind what is on its way. -/
def cursor (s : AttentionWatch) : Option ℕ := advanceCursor s.since s.page

/-- A poll of the watcher is being answered. -/
def isPolling (s : AttentionWatch) : Bool :=
  match s.stage with
  | .polling _ => true
  | _ => false

end AttentionWatch

end Pherry.ControlPlane
