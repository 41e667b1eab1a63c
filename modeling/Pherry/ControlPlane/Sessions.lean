import Pherry.Lib.Concurrent
import Pherry.Lib.InsertionMap
import Pherry.Lib.Machine
import Pherry.Protocol.Methods

/-!
# The sessions of a host

`POST /v1/host/heartbeat`: the schema of its body and the rows it writes, one statement for each
report. A row has the status that was reported last.
-/

namespace Pherry.ControlPlane

open Lib Protocol

/-! ## The body -/

/-- The status of a session. -/
inductive SessionStatus
  | live
  | ended
deriving DecidableEq

/-- A report as it comes in: its times are the integers among the numbers of JSON. -/
structure SessionReport where
  sessionRef : SessionRef
  status : SessionStatus
  startedAt : Option ℤ
  endedAt : Option ℤ

/-- `MAX_HEARTBEAT_SESSIONS`. -/
def maxHeartbeatSessions : ℕ := 100

/-- `z.number().int().nonnegative().optional()`. -/
def timeValid (time : Option ℤ) : Bool := time.all fun ms => 0 ≤ ms

/-- `SessionReport.safeParse`. -/
def SessionReport.valid (report : SessionReport) : Bool :=
  timeValid report.startedAt && timeValid report.endedAt

/-- `HeartbeatBody.safeParse`. -/
def heartbeatValid (sessions : Option (List SessionReport)) : Bool :=
  sessions.all fun reports =>
    decide (reports.length ≤ maxHeartbeatSessions) && reports.all SessionReport.valid

/-! ## The rows -/

/-- The host a credential belongs to. -/
structure HostRow where
  id : JsString
  orgId : JsString

/-- A row of `sessions`, under its host and reference. -/
structure SessionRow where
  id : JsString
  orgId : JsString
  status : SessionStatus
  startedAt : ℤ
  endedAt : Option ℤ
  updatedAt : ℤ

/-- The key of a row: `sessions_host_id_session_ref_uq`. -/
abbrev SessionKey := JsString × SessionRef

/-- What heartbeats write. -/
structure SessionTables where
  lastSeenAt : JsString → Option ℤ
  sessions : InsertionMap SessionKey SessionRow

/-- A heartbeat in its handler: what is left to write. -/
structure Heartbeat where
  host : HostRow
  now : ℤ
  seen : Bool
  left : List SessionReport

/-- The control plane and its heartbeats. -/
abbrev Sessions := Concurrent SessionTables Heartbeat

/-- What happens: a heartbeat arrives, or the handler of one gets a statement done. The id of a new row
is drawn with the statement. -/
inductive SessionsEvent
  | arrive (host : HostRow) (now : ℤ) (sessions : Option (List SessionReport))
  | step (call : ℕ) (rowId : JsString)

/-- The row a report inserts. -/
def SessionReport.insert (report : SessionReport) (host : HostRow) (now : ℤ) (rowId : JsString) :
    SessionRow where
  id := rowId
  orgId := host.orgId
  status := report.status
  startedAt := report.startedAt.getD now
  endedAt := report.endedAt
  updatedAt := now

/-- `onConflictDoUpdate`. -/
def SessionReport.update (report : SessionReport) (now : ℤ) (row : SessionRow) : SessionRow :=
  { row with
    status := report.status
    endedAt := report.endedAt
    updatedAt := now }

/-- The upsert of one report. -/
def SessionTables.upsert (t : SessionTables) (host : HostRow) (now : ℤ) (rowId : JsString)
    (report : SessionReport) : SessionTables :=
  let key := (host.id, report.sessionRef)
  let row :=
    match t.sessions.get key with
    | none => report.insert host now rowId
    | some row => report.update now row
  { t with sessions := t.sessions.set key row }

/-- The next statement of a heartbeat. -/
def Heartbeat.step (rowId : JsString) (t : SessionTables) (h : Heartbeat) :
    SessionTables × Heartbeat :=
  if !h.seen then
    ({ t with lastSeenAt := Function.update t.lastSeenAt h.host.id (some h.now) },
      { h with seen := true })
  else
    match h.left with
    | [] => (t, h)
    | report :: left => (t.upsert h.host h.now rowId report, { h with left })

/-- One event. A body that does not pass the schema is answered 400. -/
def Sessions.react (s : Sessions) : SessionsEvent → Sessions
  | .arrive host now sessions =>
    if heartbeatValid sessions then s.start ⟨host, now, false, sessions.getD []⟩ else s
  | .step call rowId => s.advance call (Heartbeat.step rowId)

/-- The control plane as a machine, with no row yet. -/
def sessionsMachine : Machine Sessions SessionsEvent := ⟨⟨⟨fun _ => none, .empty⟩, []⟩, Sessions.react⟩

/-- The status a row reports: `GET /v1/sessions`. -/
def Sessions.status (s : Sessions) (key : SessionKey) : Option SessionStatus :=
  (s.shared.sessions.get key).map SessionRow.status

/-! ## The status of a row -/

/-- The report an event writes, with its row. -/
def Sessions.writes (s : Sessions) : SessionsEvent → Option (SessionKey × SessionStatus)
  | .arrive _ _ _ => none
  | .step call _ =>
    match s.calls[call]? with
    | none => none
    | some h =>
      if !h.seen then none else h.left.head?.map fun r => ((h.host.id, r.sessionRef), r.status)

lemma SessionTables.get_upsert (t : SessionTables) (host : HostRow) (now : ℤ) (rowId : JsString)
    (report : SessionReport) (key : SessionKey) :
    ((t.upsert host now rowId report).sessions.get key).map SessionRow.status =
      if key = (host.id, report.sessionRef) then some report.status
      else (t.sessions.get key).map SessionRow.status := by
  rw [upsert, InsertionMap.get_set]
  split
  · cases t.sessions.get (host.id, report.sessionRef) <;> rfl
  · rfl

lemma Sessions.status_react (s : Sessions) (e : SessionsEvent) (key : SessionKey) :
    (s.react e).status key =
      match s.writes e with
      | none => s.status key
      | some (row, status) => if key = row then some status else s.status key := by
  cases e with
  | arrive host now sessions =>
    rw [react]
    split <;> rfl
  | step call rowId =>
    rw [react, writes]
    cases hcall : s.calls[call]? with
    | none => rw [Concurrent.advance_of_none hcall]
    | some h =>
      rw [Concurrent.advance_of_some hcall, Heartbeat.step]
      dsimp only
      cases hseen : h.seen with
      | false => rfl
      | true =>
        cases hleft : h.left with
        | nil => rfl
        | cons report left => exact SessionTables.get_upsert _ _ _ _ _ _

/-- A row that has ended is not written live. -/
def Sessions.Settled (s : Sessions) (e : SessionsEvent) : Prop :=
  ∀ key, s.status key = some .ended → s.writes e ≠ some (key, .live)

/-- What is recorded as ended is never again reported live. -/
def StatusMonotone (es : List SessionsEvent) : Prop :=
  ∀ pre mid post key, es = pre ++ mid ++ post →
    (sessionsMachine.run pre).status key = some .ended →
    (sessionsMachine.run (pre ++ mid)).status key = some .ended

lemma Sessions.ended_react_iff {s : Sessions} {key : SessionKey} (h : s.status key = some .ended)
    (e : SessionsEvent) :
    (s.react e).status key = some .ended ↔ s.writes e ≠ some (key, .live) := by
  rw [status_react]
  cases hwrites : s.writes e with
  | none => simp [h]
  | some write =>
    obtain ⟨row, status⟩ := write
    dsimp only
    by_cases hkey : key = row
    · subst hkey
      rw [if_pos rfl]
      cases status <;> simp
    · rw [if_neg hkey, h]
      simp [Ne.symm hkey]

lemma ended_of_meets {pre mid : List SessionsEvent} {key : SessionKey}
    (hmeets : sessionsMachine.Meets (fun s e => s.Settled e) (pre ++ mid))
    (hended : (sessionsMachine.run pre).status key = some .ended) :
    (sessionsMachine.run (pre ++ mid)).status key = some .ended := by
  induction mid using List.reverseRecOn with
  | nil =>
    rw [List.append_nil]
    exact hended
  | append_singleton mid e ih =>
    rw [← List.append_assoc] at hmeets ⊢
    obtain ⟨hbefore, hlast⟩ := (Machine.meets_snoc _).1 hmeets
    have hmid := ih hbefore
    rw [Machine.run_snoc]
    exact (Sessions.ended_react_iff hmid e).2 (hlast key hmid)

/-- A host. -/
def laptop : HostRow := ⟨js "host_1", js "org_1"⟩

/-- Its session. -/
def laptopSession : SessionRef := ⟨js "sref_" ++ List.replicate 32 0x30, matchesId_zeros⟩

/-- A heartbeat that calls a session live is overtaken by the one that reports its end. -/
def overtaken : List SessionsEvent :=
  [.arrive laptop 1000 (some [⟨laptopSession, .live, some 500, none⟩]),
    .arrive laptop 2000 (some [⟨laptopSession, .ended, some 500, some 1900⟩]),
    .step 1 [], .step 1 (js "ses_1"), .step 0 [], .step 0 (js "ses_2")]

end Pherry.ControlPlane
