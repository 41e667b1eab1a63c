import Pherry.Cli.Launch
import Pherry.ControlPlane.Sessions

/-!
# The heartbeats of a daemon

The reports of ended sessions a daemon keeps until a heartbeat has brought them, the heartbeats it
sends, which may overlap, and whether the control plane takes what they say.
-/

namespace Pherry.Cli

open Lib Protocol ControlPlane

/-- `MAX_ENDED_REPORTS`. -/
def maxEndedReports : ℕ := 256

/-- What a daemon keeps for its heartbeats: the clock, the registered sessions, when the launches
started, and the buffered reports. -/
structure Reports where
  now : ℤ
  registry : InsertionMap SessionRef Unit
  launches : InsertionMap SessionRef ℤ
  endedReports : List SessionReport
  collectEnded : Bool

/-- A heartbeat: the reports in its body, and whether it was acknowledged. -/
structure Beat where
  live : List SessionReport
  ended : List SessionReport
  outcome : Option Bool

/-- A daemon and its heartbeats. -/
abbrev Beating := Concurrent Reports Beat

/-- What happens to a daemon. `settle` is the end of the request of a heartbeat. -/
inductive BeatingEvent
  | clock (now : ℤ)
  | dock
  | reserve (ref : SessionRef)
  | register (ref : SessionRef)
  | sessionEnded (ref : SessionRef)
  | beat
  | settle (call : ℕ) (acknowledged : Bool)

namespace Reports

/-- The reports of the live sessions. -/
def live (r : Reports) : List SessionReport :=
  r.registry.keys.map fun ref =>
    { sessionRef := ref
      status := .live
      startedAt := some ((r.launches.get ref).getD r.now)
      endedAt := none }

/-- A heartbeat that is built. -/
def beat (r : Reports) : Beat := ⟨r.live, r.endedReports, none⟩

/-- The report of an ended session, added to the buffer. -/
def push (r : Reports) (report : SessionReport) : Reports :=
  let reports := r.endedReports ++ [report]
  { r with endedReports := if reports.length > maxEndedReports then reports.tail else reports }

/-- What a daemon does when a session has ended. -/
def sessionEnded (r : Reports) (ref : SessionRef) : Reports :=
  let reported :=
    match r.launches.get ref with
    | some startedAt =>
      if r.collectEnded then r.push ⟨ref, .ended, some startedAt, some r.now⟩ else r
    | none => r
  { reported with
    registry := r.registry.erase ref
    launches := r.launches.erase ref }

/-- The request of a heartbeat is over. -/
def settle (acknowledged : Bool) (r : Reports) (b : Beat) : Reports × Beat :=
  match b.outcome with
  | some _ => (r, b)
  | none =>
    (if acknowledged then { r with endedReports := r.endedReports.drop b.ended.length } else r,
      { b with outcome := some acknowledged })

end Reports

namespace Beating

/-- One event. -/
def react (s : Beating) : BeatingEvent → Beating
  | .clock now => { s with shared := { s.shared with now } }
  | .dock => { s with shared := { s.shared with collectEnded := true } }
  | .reserve ref =>
    { s with shared := { s.shared with launches := s.shared.launches.set ref s.shared.now } }
  | .register ref => { s with shared := { s.shared with registry := s.shared.registry.set ref () } }
  | .sessionEnded ref => { s with shared := s.shared.sessionEnded ref }
  | .beat => s.start s.shared.beat
  | .settle call acknowledged => s.advance call (Reports.settle acknowledged)

end Beating

/-- A daemon that starts at some time. -/
def beatingMachine (now : ℤ) : Machine Beating BeatingEvent :=
  ⟨⟨⟨now, .empty, .empty, [], false⟩, []⟩, Beating.react⟩

/-! ## The body -/

/-- The body of a heartbeat. -/
def Beat.body (b : Beat) : List SessionReport := b.live ++ b.ended

/-- The times a body reports are not before the epoch. -/
def Beat.SinceEpoch (b : Beat) : Prop :=
  ∀ report ∈ b.body, (∀ ms ∈ report.startedAt, 0 ≤ ms) ∧ ∀ ms ∈ report.endedAt, 0 ≤ ms

lemma timeValid_iff (time : Option ℤ) : timeValid time = true ↔ ∀ ms ∈ time, 0 ≤ ms := by
  cases time <;> simp [timeValid]

lemma heartbeatValid_body_iff (b : Beat) :
    heartbeatValid (some b.body) = true ↔
      b.live.length + b.ended.length ≤ maxHeartbeatSessions ∧ b.SinceEpoch := by
  rw [heartbeatValid, Option.all_some, Bool.and_eq_true, decide_eq_true_eq, Beat.body,
    List.length_append, List.all_eq_true, Beat.SinceEpoch]
  refine and_congr Iff.rfl (forall₂_congr fun report _ => ?_)
  rw [SessionReport.valid, Bool.and_eq_true, timeValid_iff, timeValid_iff]

/-! ## Times -/

/-- No time that is kept is before the epoch. -/
structure Reports.Timely (r : Reports) : Prop where
  now : 0 ≤ r.now
  launches : ∀ ref ms, r.launches.get ref = some ms → 0 ≤ ms
  ended : ∀ report ∈ r.endedReports,
    (∀ ms ∈ report.startedAt, 0 ≤ ms) ∧ ∀ ms ∈ report.endedAt, 0 ≤ ms

namespace Reports.Timely

variable {r : Reports}

lemma erase (h : r.Timely) (ref : SessionRef) (registry : InsertionMap SessionRef Unit) :
    Timely { r with
      registry
      launches := r.launches.erase ref } :=
  ⟨h.now, fun other ms hget => h.launches other ms (InsertionMap.get_erase_eq_some.1 hget).2, h.ended⟩

lemma push (h : r.Timely) {report : SessionReport}
    (hreport : (∀ ms ∈ report.startedAt, 0 ≤ ms) ∧ ∀ ms ∈ report.endedAt, 0 ≤ ms) :
    (r.push report).Timely := by
  have hall : ∀ other ∈ r.endedReports ++ [report],
      (∀ ms ∈ other.startedAt, 0 ≤ ms) ∧ ∀ ms ∈ other.endedAt, 0 ≤ ms := by
    intro other hother
    rcases List.mem_append.1 hother with hold | hnew
    · exact h.ended other hold
    · rw [List.mem_singleton.1 hnew]
      exact hreport
  rw [Reports.push]
  refine ⟨h.now, h.launches, fun other hother => ?_⟩
  dsimp only at hother
  split at hother
  · exact hall other (List.mem_of_mem_tail hother)
  · exact hall other hother

lemma sessionEnded (h : r.Timely) (ref : SessionRef) : (r.sessionEnded ref).Timely := by
  rw [Reports.sessionEnded]
  cases hlaunch : r.launches.get ref with
  | none => exact h.erase ref _
  | some startedAt =>
    cases r.collectEnded with
    | false => exact h.erase ref _
    | true =>
      have hpushed : (r.push ⟨ref, .ended, some startedAt, some r.now⟩).Timely := by
        refine h.push ⟨fun ms hms => ?_, fun ms hms => ?_⟩
        · cases hms
          exact h.launches ref _ hlaunch
        · cases hms
          exact h.now
      exact hpushed.erase ref _

lemma sinceEpoch (h : r.Timely) : r.beat.SinceEpoch := by
  intro report hreport
  rcases List.mem_append.1 hreport with hlive | hended
  · obtain ⟨ref, -, rfl⟩ := List.mem_map.1 hlive
    refine ⟨fun ms hms => ?_, nofun⟩
    cases hms
    cases hget : r.launches.get ref with
    | none => exact h.now
    | some ms => exact h.launches ref ms hget
  · exact h.ended report hended

end Reports.Timely

lemma Beating.timely_react {s : Beating} (h : s.shared.Timely) {e : BeatingEvent}
    (hclock : ∀ now, e = .clock now → 0 ≤ now) : (s.react e).shared.Timely := by
  cases e with
  | clock now => exact ⟨hclock now rfl, h.launches, h.ended⟩
  | dock => exact ⟨h.now, h.launches, h.ended⟩
  | reserve ref =>
    refine ⟨h.now, fun other ms hget => ?_, h.ended⟩
    rw [react, InsertionMap.get_set] at hget
    split at hget
    · cases hget
      exact h.now
    · exact h.launches other ms hget
  | register ref => exact ⟨h.now, h.launches, h.ended⟩
  | sessionEnded ref => exact h.sessionEnded ref
  | beat => exact h
  | settle call acknowledged =>
    refine Concurrent.advance_induction (p := fun t : Beating => t.shared.Timely) h fun b _ => ?_
    rw [Reports.settle]
    split
    · exact h
    cases acknowledged with
    | false => exact h
    | true => exact ⟨h.now, h.launches, fun report hreport => h.ended report (List.mem_of_mem_drop hreport)⟩

lemma timely_run {now : ℤ} (hnow : 0 ≤ now) {es : List BeatingEvent}
    (hclock : ∀ ms, .clock ms ∈ es → 0 ≤ ms) : ((beatingMachine now).run es).shared.Timely := by
  refine (beatingMachine now).invariant_of_meets (p := fun s : Beating => s.shared.Timely)
    (c := fun _ e => ∀ ms, e = .clock ms → 0 ≤ ms) ⟨hnow, nofun, nofun⟩
    (fun s e he hs => Beating.timely_react hs he) ?_
  intro pre e post hes ms heq
  exact hclock ms (by rw [hes, heq]; simp)

/-- The control plane takes a heartbeat exactly when it is about a hundred sessions at most and no time
in it is before the epoch, which none is as long as the clock is not. -/
theorem heartbeat_acceptable_iff (now : ℤ) (es : List BeatingEvent) :
    let r := ((beatingMachine now).run es).shared
    (heartbeatValid (some r.beat.body) = true ↔
      r.registry.keys.length + r.endedReports.length ≤ maxHeartbeatSessions ∧ r.beat.SinceEpoch) ∧
    (0 ≤ now → (∀ ms, .clock ms ∈ es → 0 ≤ ms) → r.beat.SinceEpoch) := by
  intro r
  refine ⟨?_, fun hnow hclock => (timely_run hnow hclock).sinceEpoch⟩
  have hlive : r.beat.live.length = r.registry.keys.length := List.length_map _
  rw [heartbeatValid_body_iff, hlive]
  rfl

/-- A session of a number. -/
def numbered (n : Fin 128) : SessionRef :=
  ⟨js "sref_" ++ List.replicate 30 0x30 ++ [hexDigit (n / 16), hexDigit (n % 16)], by
    revert n; decide +kernel⟩

/-- A docked daemon without its control plane, behind the end of some sessions. -/
def endedSessions (n : ℕ) : List BeatingEvent :=
  .dock :: ((List.finRange 128).take n).flatMap fun k =>
    [.reserve (numbered k), .register (numbered k), .sessionEnded (numbered k)]

theorem not_heartbeatValid_endedSessions :
    heartbeatValid (some ((beatingMachine 0).run (endedSessions 101)).shared.beat.body) = false := by
  decide +kernel

end Pherry.Cli
