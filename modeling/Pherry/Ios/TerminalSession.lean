import Pherry.Js
import Pherry.Lib.Concurrent
import Pherry.Lib.Machine

/-!
# The connections of a terminal screen

A terminal screen opens a connection when it appears and when its user reconnects, and closes the one it holds
when it goes. Opening awaits the dial and the subscription, closing awaits the channel; whatever else the screen
does runs in between.
-/

namespace Pherry.Ios

open Lib

/-! ## Errors -/

/-- `HostConnectionError`. -/
inductive HostConnectionError
  | noApiUrl
  | noRelay
  | authDeadline
  | offline (message : String)
  | revoked
  | keyMismatch
deriving DecidableEq

/-- `errorDescription`. -/
def HostConnectionError.errorDescription : HostConnectionError → String
  | noApiUrl => "No control plane is configured. Pair again from the dashboard."
  | noRelay => "This workspace has no relay configured, so the host can't be reached."
  | authDeadline =>
    "Couldn't reach the host through the relay — it may be offline, or the ticket mis-routed."
  | offline message => message
  | revoked => "This device was unpaired. Pair again to reconnect."
  | keyMismatch => "This host's identity key doesn't match the one you paired with. " ++
    "Refusing to connect — re-dock the host if it really was re-keyed."

/-- `mapTicketError`. -/
def mapTicketError (status : ℕ) : HostConnectionError :=
  if status = 401 ∨ status = 403 then .revoked
  else if status = 404 then .offline "That host is no longer registered."
  else .offline "The control plane refused the ticket."

/-- `mapRelayError`. -/
def mapRelayError (code : Option String) : HostConnectionError :=
  if code = some "bad-ticket" then .offline "The relay ticket expired — try again."
  else if code = some "drained" then .offline "The relay is draining — try again shortly."
  else .offline "The relay couldn't bridge to the host."

/-! ## The session -/

/-- `Phase`. -/
inductive TerminalPhase
  | connecting
  | live
  | ended
  | dropped (message : String)
deriving DecidableEq

/-- A session: its phase, the connection it holds, how many subscriptions it has consumed; and of every
connection it has opened, whether it is open. A connection is named by its place. -/
structure TerminalState where
  phase : TerminalPhase
  connection : Option ℕ
  consumers : ℕ
  connections : List Bool

/-- A connection is open. -/
def TerminalState.IsOpen (s : TerminalState) (conn : ℕ) : Prop := s.connections[conn]? = some true

/-- A connection is closed, by the session or from outside. -/
def TerminalState.shut (s : TerminalState) (conn : ℕ) : TerminalState :=
  { s with connections := s.connections.set conn false }

/-- What `start` awaits. The first four are the steps of `HostConnection.connect`, which closes a channel whose
first request fails before it throws. -/
inductive StartStage
  | ticket (pinnedHostStatic : Bytes)
  | tcp
  | relay
  | list (conn : ℕ)
  | failing (conn : ℕ) (error : HostConnectionError)
  | subscribing (conn : ℕ)
  | finished
deriving DecidableEq

/-- What an awaited call comes to: a ticket with the cell's URL and the address that it parses to, an error of one
of the parts, or the deadline of the first answer. -/
inductive ReachAnswer
  | done
  | ticket (cellUrl : Option (Option (String × ℕ))) (hostPublicKey : Bytes)
  | apiError (status : ℕ)
  | relayError (code : Option String)
  | rpcError (message : String)
  | deadline
  | failed

/-- The handlers at the end of `start`. -/
def TerminalState.drop (s : TerminalState) (error : Option HostConnectionError) : TerminalState × StartStage :=
  ({ s with
      phase := .dropped (match error with
        | some error => error.errorDescription
        | none => "The connection dropped.") },
    .finished)

/-- `start` up to its first await. `paired` says that the control plane and the token are known. -/
def TerminalState.start (s : TerminalState) (paired : Bool) (pin : Option Bytes) : TerminalState × StartStage :=
  let s := { s with phase := .connecting }
  if paired = false then ({ s with phase := .dropped "This device isn't paired." }, .finished)
  else
    match pin with
    | none =>
      ({ s with phase :=
          .dropped "This host isn't docked on this phone yet. Pair it to open its sessions." }, .finished)
    | some pin => (s, .ticket pin)

/-- `start` from one await to the next. -/
def StartStage.settle (answer : ReachAnswer) (s : TerminalState) : StartStage → TerminalState × StartStage
  | .ticket pin =>
    match answer with
    | .ticket none _ => s.drop (some .noRelay)
    | .ticket (some cell) hostPublicKey =>
      if hostPublicKey ≠ pin then s.drop (some .keyMismatch)
      else if cell.isNone then s.drop (some .noRelay)
      else (s, .tcp)
    | .apiError status => s.drop (some (mapTicketError status))
    | _ => s.drop none
  | .tcp =>
    match answer with
    | .done => (s, .relay)
    | _ => s.drop (some (.offline "Couldn't reach the relay cell."))
  | .relay =>
    match answer with
    | .done => ({ s with connections := s.connections ++ [true] }, .list s.connections.length)
    | .relayError code => s.drop (some (mapRelayError code))
    | _ => s.drop none
  | .list conn =>
    match answer with
    | .done => ({ s with connection := some conn }, .subscribing conn)
    | .deadline => (s, .failing conn .authDeadline)
    | .rpcError message => (s, .failing conn (.offline message))
    | _ => (s, .failing conn (.offline "The host didn't answer."))
  | .failing conn error => (s.shut conn).drop (some error)
  | .subscribing _ =>
    match answer with
    | .done => ({ s with phase := .live, consumers := s.consumers + 1 }, .finished)
    | _ => s.drop none
  | .finished => (s, .finished)

/-- What `close` awaits: the channel of the connection it found. -/
inductive CloseStage
  | closing (conn : ℕ)
  | closed
deriving DecidableEq

/-- `close` up to its await. -/
def TerminalState.beginClose (s : TerminalState) : CloseStage :=
  match s.connection with
  | some conn => .closing conn
  | none => .closed

/-- `close` behind its await: whatever connection is held by then is let go. -/
def CloseStage.settle (s : TerminalState) : CloseStage → TerminalState × CloseStage
  | .closing conn => ({ s.shut conn with connection := none }, .closed)
  | .closed => (s, .closed)

/-- What a subscription that is consumed yields, as far as the phase goes by it. -/
inductive StreamItem
  | ended
  | finished
  | failed

/-- `consume`. -/
def TerminalState.consume (s : TerminalState) (item : StreamItem) : TerminalState :=
  if s.consumers = 0 then s
  else
    match item with
    | .ended => { s with phase := .ended }
    | .finished => if s.phase = .live then { s with phase := .ended } else s
    | .failed => { s with phase := .dropped "The connection dropped." }

/-! ## Runs -/

/-- A call on the session. -/
inductive SessionCall
  | start (stage : StartStage)
  | close (stage : CloseStage)
deriving DecidableEq

/-- A call goes on behind an await. -/
def SessionCall.settle (answer : ReachAnswer) (s : TerminalState) : SessionCall → TerminalState × SessionCall
  | .start stage => ((stage.settle answer s).1, .start (stage.settle answer s).2)
  | .close stage => ((stage.settle s).1, .close (stage.settle s).2)

/-- A session and the calls on it. -/
abbrev TerminalCalls := Concurrent TerminalState SessionCall

/-- What happens: a call begins or goes on, a connection drops, or a subscription yields something. -/
inductive TerminalEvent
  | start (paired : Bool) (pin : Option Bytes)
  | close
  | settle (call : ℕ) (answer : ReachAnswer)
  | dropped (conn : ℕ)
  | stream (item : StreamItem)

def TerminalCalls.react (s : TerminalCalls) : TerminalEvent → TerminalCalls
  | .start paired pin =>
    { shared := (s.shared.start paired pin).1
      calls := s.calls ++ [.start (s.shared.start paired pin).2] }
  | .close => Concurrent.start s (.close s.shared.beginClose)
  | .settle call answer => s.advance call (SessionCall.settle answer)
  | .dropped conn => { s with shared := s.shared.shut conn }
  | .stream item => { s with shared := s.shared.consume item }

/-- A session that is new. -/
def terminalMachine : Machine TerminalCalls TerminalEvent where
  init := ⟨{ phase := .connecting, connection := none, consumers := 0, connections := [] }, []⟩
  step := TerminalCalls.react

/-- A start that is in flight. -/
def SessionCall.isStarting : SessionCall → Bool
  | .start .finished => false
  | .start _ => true
  | .close _ => false

/-- A call of `close`. -/
def SessionCall.isClose : SessionCall → Bool
  | .start _ => false
  | .close _ => true

/-- At most one connection is open; and when a close has returned and no start is in flight, none is. -/
structure HoldsOne (s : TerminalCalls) : Prop where
  one : ∀ conn conn', s.shared.IsOpen conn → s.shared.IsOpen conn' → conn = conn'
  closed : .close .closed ∈ s.calls → (∀ call ∈ s.calls, call.isStarting = false) →
    ∀ conn, ¬ s.shared.IsOpen conn

/-- No start begins while another is in flight, while the session holds a connection that is open, or once it was
closed; and it is not closed while a start is in flight. -/
def opensAlone (s : TerminalCalls) : TerminalEvent → Prop
  | .start _ _ => (∀ call ∈ s.calls, call.isStarting = false ∧ call.isClose = false) ∧
      ∀ conn ∈ s.shared.connection, ¬ s.shared.IsOpen conn
  | .close => ∀ call ∈ s.calls, call.isStarting = false
  | _ => True

instance (s : TerminalState) (conn : ℕ) : Decidable (s.IsOpen conn) := inferInstanceAs (Decidable (_ = _))

instance (s : TerminalCalls) : (e : TerminalEvent) → Decidable (opensAlone s e)
  | .start _ _ => inferInstanceAs (Decidable (_ ∧ _))
  | .close => inferInstanceAs (Decidable (∀ _ ∈ _, _))
  | .settle _ _ => inferInstanceAs (Decidable True)
  | .dropped _ => inferInstanceAs (Decidable True)
  | .stream _ => inferInstanceAs (Decidable True)

/-! ## Open connections -/

variable {s : TerminalCalls}

lemma isOpen_shut {s : TerminalState} {conn conn' : ℕ} (h : (s.shut conn).IsOpen conn') :
    s.IsOpen conn' ∧ conn ≠ conn' := by
  unfold TerminalState.IsOpen TerminalState.shut at h
  by_cases heq : conn = conn'
  · subst heq
    rw [List.getElem?_set_self'] at h
    obtain ⟨old, -, hfalse⟩ := Option.map_eq_some_iff.1 h
    simp at hfalse
  · rw [List.getElem?_set_ne heq] at h
    exact ⟨h, heq⟩

lemma isOpen_append {s : TerminalState} (hnone : ∀ conn, ¬ s.IsOpen conn) {conn : ℕ}
    (h : TerminalState.IsOpen { s with connections := s.connections ++ [true] } conn) :
    conn = s.connections.length := by
  unfold TerminalState.IsOpen at h
  simp only [List.getElem?_append] at h
  split at h
  · exact absurd h (hnone conn)
  · have hlt := (List.getElem?_eq_some_iff.1 h).1
    rw [List.length_singleton] at hlt
    omega

/-! ## The invariant -/

/-- The connection that a start has opened. -/
def StartStage.conn : StartStage → Option ℕ
  | .list conn => some conn
  | .failing conn _ => some conn
  | .subscribing conn => some conn
  | _ => none

/-- No start is in flight: what is open is what the session holds and what its closes are closing. -/
structure AtRest (s : TerminalCalls) : Prop where
  idle : ∀ call ∈ s.calls, call.isStarting = false
  held : ∀ conn, s.shared.IsOpen conn → s.shared.connection = some conn
  closing : ∀ conn conn', .close (.closing conn) ∈ s.calls → s.shared.IsOpen conn' → conn = conn'
  closed : .close .closed ∈ s.calls → ∀ conn, ¬ s.shared.IsOpen conn

/-- One start is in flight, nobody has closed: what is open is what it has opened. -/
structure Opening (s : TerminalCalls) (i : ℕ) (stage : StartStage) : Prop where
  call : s.calls[i]? = some (.start stage)
  others : ∀ j call, j ≠ i → s.calls[j]? = some call → call.isStarting = false
  starts : ∀ call ∈ s.calls, call.isClose = false
  opened : ∀ conn, s.shared.IsOpen conn → stage.conn = some conn
  held : ∀ conn, stage = .subscribing conn → s.shared.connection = some conn

/-- At rest, or opening. -/
def OneAtATime (s : TerminalCalls) : Prop :=
  AtRest s ∨ ∃ i stage, SessionCall.isStarting (.start stage) = true ∧ Opening s i stage

lemma OneAtATime.holdsOne (h : OneAtATime s) : HoldsOne s := by
  rcases h with hrest | ⟨i, stage, hstarting, hopening⟩
  · refine ⟨?_, fun hclosed _ => hrest.closed hclosed⟩
    intro conn conn' hopen hopen'
    have hsame := (hrest.held conn hopen).symm.trans (hrest.held conn' hopen')
    exact Option.some_inj.1 hsame
  · refine ⟨?_, ?_⟩
    · intro conn conn' hopen hopen'
      have hsame := (hopening.opened conn hopen).symm.trans (hopening.opened conn' hopen')
      exact Option.some_inj.1 hsame
    · intro hclosed
      have hclose := hopening.starts _ hclosed
      simp [SessionCall.isClose] at hclose

/-! ## Steps -/

/-- What a start does at its begin: it is over, or it awaits its ticket; no connection changes. -/
lemma start_spec (s : TerminalState) (paired : Bool) (pin : Option Bytes) :
    (s.start paired pin).1.connections = s.connections ∧
      (s.start paired pin).1.connection = s.connection ∧
      ((s.start paired pin).2 = .finished ∨ ∃ pinned, (s.start paired pin).2 = .ticket pinned) := by
  unfold TerminalState.start
  cases paired with
  | false => exact ⟨rfl, rfl, .inl rfl⟩
  | true =>
    cases pin with
    | none => exact ⟨rfl, rfl, .inl rfl⟩
    | some pin => exact ⟨rfl, rfl, .inr ⟨pin, rfl⟩⟩

lemma AtRest.start (h : AtRest s) {paired : Bool} {pin : Option Bytes}
    (halone : opensAlone s (.start paired pin)) : OneAtATime (TerminalCalls.react s (.start paired pin)) := by
  obtain ⟨hcalls, hheld⟩ := halone
  have hnone : ∀ conn, ¬ s.shared.IsOpen conn := fun conn hopen => hheld conn (h.held conn hopen) hopen
  obtain ⟨hconnections, hconnection, hstage⟩ := start_spec s.shared paired pin
  have hnone' : ∀ conn, ¬ (s.shared.start paired pin).1.IsOpen conn := by
    intro conn
    unfold TerminalState.IsOpen
    rw [hconnections]
    exact hnone conn
  rcases hstage with hfinished | ⟨pin', hticket⟩
  · left
    have hcall : ∀ call ∈ s.calls ++ [.start (s.shared.start paired pin).2],
        call.isStarting = false ∧ call.isClose = false := by
      intro call hmem
      rcases List.mem_append.1 hmem with hold | hnew
      · exact hcalls call hold
      · rw [List.mem_singleton.1 hnew, hfinished]
        exact ⟨rfl, rfl⟩
    refine ⟨fun call hmem => (hcall call hmem).1, ?_, ?_, ?_⟩
    · intro conn hopen
      exact absurd hopen (hnone' conn)
    · intro conn conn' _ hopen
      exact absurd hopen (hnone' conn')
    · exact fun _ => hnone'
  · right
    refine ⟨s.calls.length, (s.shared.start paired pin).2, by rw [hticket]; rfl, ?_, ?_, ?_, ?_, ?_⟩
    · exact List.getElem?_concat_length
    · intro j call hne hcall
      have hold : call ∈ s.calls := by
        have hmem : j < (s.calls ++ [SessionCall.start (s.shared.start paired pin).2]).length :=
          (List.getElem?_eq_some_iff.1 hcall).1
        rw [List.length_append, List.length_singleton] at hmem
        have hcall' : (s.calls ++ [SessionCall.start (s.shared.start paired pin).2])[j]? = some call := hcall
        rw [List.getElem?_append_left (by omega)] at hcall'
        exact List.mem_of_getElem? hcall'
      exact (hcalls call hold).1
    · intro call hmem
      rcases List.mem_append.1 hmem with hold | hnew
      · exact (hcalls call hold).2
      · rw [List.mem_singleton.1 hnew]
        rfl
    · intro conn hopen
      exact absurd hopen (hnone' conn)
    · intro conn hsubscribing
      rw [hticket] at hsubscribing
      simp at hsubscribing

lemma Opening.not_alone {i : ℕ} {stage : StartStage} (h : Opening s i stage)
    (hstarting : SessionCall.isStarting (.start stage) = true)
    (halone : ∀ call ∈ s.calls, call.isStarting = false) : False := by
  have hidle := halone _ (List.mem_of_getElem? h.call)
  rw [hstarting] at hidle
  simp at hidle

lemma AtRest.close (h : AtRest s) : AtRest (TerminalCalls.react s .close) := by
  have hmem : ∀ call ∈ s.calls ++ [.close s.shared.beginClose], call ∈ s.calls ∨
      call = .close s.shared.beginClose := by
    intro call hcall
    rcases List.mem_append.1 hcall with hold | hnew
    · exact .inl hold
    · exact .inr (List.mem_singleton.1 hnew)
  refine ⟨?_, h.held, ?_, ?_⟩
  · intro call hcall
    rcases hmem call hcall with hold | rfl
    · exact h.idle call hold
    · rfl
  · intro conn conn' hcall hopen
    rcases hmem _ hcall with hold | hnew
    · exact h.closing conn conn' hold hopen
    · rw [TerminalState.beginClose, h.held conn' hopen] at hnew
      simpa using hnew
  · intro hcall conn hopen
    rcases hmem _ hcall with hold | hnew
    · exact h.closed hold conn hopen
    · rw [TerminalState.beginClose, h.held conn hopen] at hnew
      simp at hnew

/-- Whatever happens to the session, its calls at rest stay so if no connection is opened or let go. -/
lemma AtRest.of_fewer (h : AtRest s) {shared : TerminalState}
    (hopen : ∀ conn, shared.IsOpen conn → s.shared.IsOpen conn)
    (hconnection : shared.connection = s.shared.connection) : AtRest { s with shared } := by
  refine ⟨h.idle, ?_, ?_, ?_⟩
  · intro conn hconn
    exact hconnection.trans (h.held conn (hopen conn hconn))
  · exact fun conn conn' hcall hconn => h.closing conn conn' hcall (hopen conn' hconn)
  · exact fun hcall conn hconn => h.closed hcall conn (hopen conn hconn)

lemma Opening.of_fewer {i : ℕ} {stage : StartStage} (h : Opening s i stage) {shared : TerminalState}
    (hopen : ∀ conn, shared.IsOpen conn → s.shared.IsOpen conn)
    (hconnection : shared.connection = s.shared.connection) : Opening { s with shared } i stage := by
  refine ⟨h.call, h.others, h.starts, ?_, ?_⟩
  · exact fun conn hconn => h.opened conn (hopen conn hconn)
  · exact fun conn hstage => hconnection.trans (h.held conn hstage)

lemma OneAtATime.of_fewer (h : OneAtATime s) {shared : TerminalState}
    (hopen : ∀ conn, shared.IsOpen conn → s.shared.IsOpen conn)
    (hconnection : shared.connection = s.shared.connection) : OneAtATime { s with shared } := by
  rcases h with hrest | ⟨i, stage, hstarting, hopening⟩
  · exact .inl (hrest.of_fewer hopen hconnection)
  · exact .inr ⟨i, stage, hstarting, hopening.of_fewer hopen hconnection⟩

lemma AtRest.settle (h : AtRest s) {i : ℕ} {call : SessionCall} (hcall : s.calls[i]? = some call)
    (answer : ReachAnswer) :
    AtRest ⟨(call.settle answer s.shared).1, s.calls.set i (call.settle answer s.shared).2⟩ := by
  have hmem := List.mem_of_getElem? hcall
  have hset : ∀ c, s.calls[i]? = some c → s.calls.set i c = s.calls := by
    intro c hc
    obtain ⟨hlt, rfl⟩ := List.getElem?_eq_some_iff.1 hc
    exact List.set_getElem_self hlt
  cases call with
  | start stage =>
    have hidle := h.idle _ hmem
    cases stage with
    | finished =>
      show AtRest ⟨s.shared, s.calls.set i (.start .finished)⟩
      rw [hset _ hcall]
      exact h
    | _ => simp [SessionCall.isStarting] at hidle
  | close stage =>
    cases stage with
    | closed =>
      show AtRest ⟨s.shared, s.calls.set i (.close .closed)⟩
      rw [hset _ hcall]
      exact h
    | closing conn =>
      have hnone : ∀ conn', ¬ (s.shared.shut conn).IsOpen conn' := by
        intro conn' hopen
        obtain ⟨hold, hne⟩ := isOpen_shut hopen
        exact hne (h.closing conn conn' hmem hold)
      refine ⟨Concurrent.forall_set h.idle rfl, ?_, ?_, ?_⟩
      · exact fun conn' hopen => absurd hopen (hnone conn')
      · exact fun _ conn' _ hopen => absurd hopen (hnone conn')
      · exact fun _ => hnone

/-- What a start does behind an await. It drops, closing the channel whose first request failed; it is live; the
relay opens a connection; the session takes the connection; or it goes on with what it has. -/
lemma settle_cases (answer : ReachAnswer) (s : TerminalState) (stage : StartStage)
    (hstarting : SessionCall.isStarting (.start stage) = true) :
    (∃ error, stage.settle answer s = s.drop error ∧ (stage.conn = none ∨ ∃ conn, stage = .subscribing conn)) ∨
      (∃ conn error, stage = .failing conn error ∧ stage.settle answer s = (s.shut conn).drop (some error)) ∨
      (∃ conn, stage = .subscribing conn ∧
        stage.settle answer s = ({ s with phase := .live, consumers := s.consumers + 1 }, .finished)) ∨
      (stage = .relay ∧ stage.settle answer s =
        ({ s with connections := s.connections ++ [true] }, .list s.connections.length)) ∨
      (∃ conn, stage = .list conn ∧
        stage.settle answer s = ({ s with connection := some conn }, .subscribing conn)) ∨
      ∃ next, stage.settle answer s = (s, next) ∧ next.conn = stage.conn ∧
        SessionCall.isStarting (.start next) = true ∧ ∀ conn, next ≠ .subscribing conn := by
  cases stage with
  | finished => simp [SessionCall.isStarting] at hstarting
  | failing conn error => exact .inr (.inl ⟨conn, error, rfl, rfl⟩)
  | tcp =>
    cases answer with
    | done => exact .inr (.inr (.inr (.inr (.inr ⟨.relay, rfl, rfl, rfl, by simp⟩))))
    | _ => exact .inl ⟨some (.offline "Couldn't reach the relay cell."), rfl, .inl rfl⟩
  | relay =>
    cases answer with
    | done => exact .inr (.inr (.inr (.inl ⟨rfl, rfl⟩)))
    | relayError code => exact .inl ⟨some (mapRelayError code), rfl, .inl rfl⟩
    | _ => exact .inl ⟨none, rfl, .inl rfl⟩
  | subscribing conn =>
    cases answer with
    | done => exact .inr (.inr (.inl ⟨conn, rfl, rfl⟩))
    | _ => exact .inl ⟨none, rfl, .inr ⟨conn, rfl⟩⟩
  | list conn =>
    cases answer with
    | done => exact .inr (.inr (.inr (.inr (.inl ⟨conn, rfl, rfl⟩))))
    | deadline => exact .inr (.inr (.inr (.inr (.inr ⟨.failing conn .authDeadline, rfl, rfl, rfl, by simp⟩))))
    | rpcError message =>
      exact .inr (.inr (.inr (.inr (.inr ⟨.failing conn (.offline message), rfl, rfl, rfl, by simp⟩))))
    | _ =>
      exact .inr (.inr (.inr (.inr (.inr ⟨.failing conn (.offline "The host didn't answer."), rfl, rfl, rfl,
        by simp⟩))))
  | ticket pin =>
    cases answer with
    | ticket cellUrl hostPublicKey =>
      cases cellUrl with
      | none => exact .inl ⟨some .noRelay, rfl, .inl rfl⟩
      | some cell =>
        simp only [StartStage.settle]
        split
        · exact .inl ⟨some .keyMismatch, rfl, .inl rfl⟩
        · split
          · exact .inl ⟨some .noRelay, rfl, .inl rfl⟩
          · exact .inr (.inr (.inr (.inr (.inr ⟨.tcp, rfl, rfl, rfl, by simp⟩))))
    | apiError status => exact .inl ⟨some (mapTicketError status), rfl, .inl rfl⟩
    | _ => exact .inl ⟨none, rfl, .inl rfl⟩

lemma Opening.finish {i : ℕ} {stage : StartStage} (h : Opening s i stage) {shared : TerminalState}
    (hheld : ∀ conn, shared.IsOpen conn → shared.connection = some conn) :
    AtRest ⟨shared, s.calls.set i (.start .finished)⟩ := by
  have hstarts : ∀ call ∈ s.calls.set i (.start .finished), call.isClose = false :=
    Concurrent.forall_set h.starts rfl
  refine ⟨?_, hheld, ?_, ?_⟩
  · intro call hmem
    obtain ⟨j, hj⟩ := List.mem_iff_getElem?.1 hmem
    by_cases hij : i = j
    · rw [hij, List.getElem?_set_self'] at hj
      obtain ⟨old, -, rfl⟩ := Option.map_eq_some_iff.1 hj
      rfl
    · rw [List.getElem?_set_ne hij] at hj
      exact h.others j call (Ne.symm hij) hj
  · intro conn conn' hclose
    have hclose := hstarts _ hclose
    simp [SessionCall.isClose] at hclose
  · intro hclose
    have hclose := hstarts _ hclose
    simp [SessionCall.isClose] at hclose

lemma Opening.goOn {i : ℕ} {stage next : StartStage} (h : Opening s i stage) {shared : TerminalState}
    (hopened : ∀ conn, shared.IsOpen conn → next.conn = some conn)
    (hheld : ∀ conn, next = .subscribing conn → shared.connection = some conn) :
    Opening ⟨shared, s.calls.set i (.start next)⟩ i next := by
  refine ⟨?_, ?_, Concurrent.forall_set h.starts rfl, hopened, hheld⟩
  · exact List.getElem?_set_self (List.getElem?_eq_some_iff.1 h.call).1
  · intro j call hne hcall
    have hcall' : (s.calls.set i (.start next))[j]? = some call := hcall
    rw [List.getElem?_set_ne (Ne.symm hne)] at hcall'
    exact h.others j call hne hcall'

lemma Opening.settle {i : ℕ} {stage : StartStage} (h : Opening s i stage)
    (hstarting : SessionCall.isStarting (.start stage) = true) (answer : ReachAnswer) :
    OneAtATime ⟨(stage.settle answer s.shared).1, s.calls.set i (.start (stage.settle answer s.shared).2)⟩ := by
  have hnone : stage.conn = none → ∀ conn, ¬ s.shared.IsOpen conn := by
    intro hconn conn hopen
    rw [h.opened conn hopen] at hconn
    simp at hconn
  have hsubscribing : ∀ conn, stage = .subscribing conn →
      ∀ conn', s.shared.IsOpen conn' → s.shared.connection = some conn' := by
    intro conn hstage conn' hopen
    have hsame := h.opened conn' hopen
    rw [hstage] at hsame
    rw [h.held conn hstage]
    exact hsame
  rcases settle_cases answer s.shared stage hstarting with ⟨error, heq, hconn | ⟨conn, hstage⟩⟩ |
    ⟨conn, error, hstage, heq⟩ | ⟨conn, hstage, heq⟩ | ⟨hstage, heq⟩ | ⟨conn, hstage, heq⟩ |
    ⟨next, heq, hconn, hnext, hne⟩
  · rw [heq]
    exact .inl (h.finish fun conn hopen => absurd hopen (hnone hconn conn))
  · rw [heq]
    exact .inl (h.finish (hsubscribing conn hstage))
  · rw [heq]
    refine .inl (h.finish fun conn' hopen => ?_)
    obtain ⟨hold, hne⟩ := isOpen_shut hopen
    have hsame := h.opened conn' hold
    rw [hstage] at hsame
    exact absurd (Option.some_inj.1 hsame) hne
  · rw [heq]
    exact .inl (h.finish (hsubscribing conn hstage))
  · rw [heq]
    refine .inr ⟨i, _, rfl, h.goOn ?_ (by simp)⟩
    intro conn hopen
    rw [isOpen_append (hnone (by rw [hstage]; rfl)) hopen]
    rfl
  · rw [heq]
    refine .inr ⟨i, _, rfl, h.goOn ?_ ?_⟩
    · intro conn' hopen
      rw [← h.opened conn' hopen, hstage]
      rfl
    · intro conn' hsame
      simpa using hsame
  · rw [heq]
    refine .inr ⟨i, next, hnext, h.goOn ?_ ?_⟩
    · intro conn hopen
      rw [hconn]
      exact h.opened conn hopen
    · exact fun conn hsame => absurd hsame (hne conn)

lemma OneAtATime.react (h : OneAtATime s) {e : TerminalEvent} (halone : opensAlone s e) :
    OneAtATime (TerminalCalls.react s e) := by
  cases e with
  | start paired pin =>
    rcases h with hrest | ⟨i, stage, hstarting, hopening⟩
    · exact hrest.start halone
    · exact (hopening.not_alone hstarting fun call hcall => (halone.1 call hcall).1).elim
  | close =>
    rcases h with hrest | ⟨i, stage, hstarting, hopening⟩
    · exact .inl hrest.close
    · exact (hopening.not_alone hstarting halone).elim
  | settle j answer =>
    apply Concurrent.advance_induction h
    intro call hcall
    rcases h with hrest | ⟨i, stage, hstarting, hopening⟩
    · exact .inl (hrest.settle hcall answer)
    · by_cases hij : j = i
      · subst hij
        obtain rfl : call = .start stage := Option.some_inj.1 (hcall.symm.trans hopening.call)
        exact hopening.settle hstarting answer
      · -- a start that is over goes on as it is
        have hidle := hopening.others j call hij hcall
        have hclose := hopening.starts call (List.mem_of_getElem? hcall)
        obtain rfl : call = .start .finished := by
          cases call with
          | close stage => simp [SessionCall.isClose] at hclose
          | start stage => cases stage <;> simp_all [SessionCall.isStarting]
        have hset : s.calls.set j (.start .finished) = s.calls := by
          obtain ⟨hlt, heq⟩ := List.getElem?_eq_some_iff.1 hcall
          rw [← heq]
          exact List.set_getElem_self hlt
        show OneAtATime ⟨s.shared, s.calls.set j (.start .finished)⟩
        rw [hset]
        exact .inr ⟨i, stage, hstarting, hopening⟩
  | dropped conn => exact h.of_fewer (fun conn hopen => (isOpen_shut hopen).1) rfl
  | stream item =>
    have hsame : (s.shared.consume item).connections = s.shared.connections ∧
        (s.shared.consume item).connection = s.shared.connection := by
      unfold TerminalState.consume
      split
      · exact ⟨rfl, rfl⟩
      · cases item with
        | finished => by_cases hlive : s.shared.phase = .live <;> simp [hlive]
        | _ => exact ⟨rfl, rfl⟩
    apply h.of_fewer _ hsame.2
    intro conn hopen
    unfold TerminalState.IsOpen at hopen ⊢
    rwa [hsame.1] at hopen

/-- As long as nothing else is started or held when a start begins, and no start is in flight when the session is
closed, at most one connection is open at a time, and none behind the close. -/
theorem one_connection {es : List TerminalEvent} (h : terminalMachine.Meets opensAlone es) :
    HoldsOne (terminalMachine.run es) := by
  apply OneAtATime.holdsOne
  apply terminalMachine.invariant_of_meets _ _ h
  · left
    refine ⟨by simp [terminalMachine], ?_, by simp [terminalMachine], by simp [terminalMachine]⟩
    intro conn hopen
    simp [terminalMachine, TerminalState.IsOpen] at hopen
  · intro s e halone hs
    exact hs.react halone

/-- The answers of a dial that reaches the host. -/
def sampleDial (call : ℕ) : List TerminalEvent :=
  [.settle call (.ticket (some (some ("", 1))) []), .settle call .done, .settle call .done, .settle call .done]

/-- A session that was opened, dropped with its connection, opened again, and closed. -/
theorem one_connection_reopened :
    HoldsOne (terminalMachine.run (.start true (some []) :: sampleDial 0 ++ [.settle 0 .done, .dropped 0] ++
      .start true (some []) :: sampleDial 1 ++ [.settle 1 .done, .close, .settle 2 .done])) := by
  apply one_connection
  have hchecks : terminalMachine.checks (fun s e => decide (opensAlone s e)) terminalMachine.init
      (.start true (some []) :: sampleDial 0 ++ [.settle 0 .done, .dropped 0] ++
        .start true (some []) :: sampleDial 1 ++ [.settle 1 .done, .close, .settle 2 .done]) = true := by
    rfl
  exact (Machine.meets_of_checks _ hchecks).mono _ fun _ _ h => of_decide_eq_true h

/-- A session that is closed while it is dialing opens its connection behind that, for good. -/
theorem not_one_connection : ¬ ∀ es : List TerminalEvent, HoldsOne (terminalMachine.run es) := by
  intro h
  have hclosed := (h (.start true (some []) :: .close :: sampleDial 0 ++ [.settle 0 .done])).closed
    (by decide) (by decide) 0
  exact hclosed rfl

end Pherry.Ios
