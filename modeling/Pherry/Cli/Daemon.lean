import Pherry.Cli.LaunchArgv
import Pherry.Host.Custody
import Pherry.Host.Serve
import Pherry.Host.SessionTerminal
import Pherry.Protocol.Results

/-!
# The custody daemon

`startServe`: the desk, the registry and the launches of a daemon, its custody and launch hooks, and
a connection that is served over them. What other connections do, and the sessions, happens between
two steps of this one.
-/

namespace Pherry.Cli

open Lib Host Protocol

/-! ## What the daemon reads -/

/-- What the schema of `custody.reserve` asks of a spec. -/
structure SessionSpec.Valid (spec : SessionSpec) : Prop where
  argv : ∀ arg ∈ spec.argv, arg ≠ []
  command : spec.argv ≠ []
  cwd : spec.cwd ≠ []
  cols : 1 ≤ spec.cols ∧ spec.cols ≤ 1000
  rows : 1 ≤ spec.rows ∧ spec.rows ≤ 1000

/-- A spec that the schema accepts. -/
abbrev CustodySpec := { spec : SessionSpec // spec.Valid }

/-- The size a session is opened with. -/
def SessionSpec.size (spec : SessionSpec) : Size := ⟨spec.cols.toNat, spec.rows.toNat⟩

lemma SessionSpec.Valid.size {spec : SessionSpec} (h : spec.Valid) : spec.size.Valid := by
  obtain ⟨hcols, hcols'⟩ := h.cols
  obtain ⟨hrows, hrows'⟩ := h.rows
  refine ⟨?_, ?_, ?_, ?_⟩
  all_goals
    rw [SessionSpec.size]
    dsimp only
    omega

/-- What the launch hooks find outside, as the file system and node answer: the boarded paths are
absolute, a joined path is never empty, and a sha256 has 32 bytes. -/
structure HostWorld extends LaunchWorld where
  absolute : ∀ path ∈ boarded, path.head? = some 0x2F
  join_ne : ∀ dir name, join dir name ≠ []
  length_sha256 : ∀ bytes, (sha256 bytes).length = 32

/-- Params that the schema of `launch.start` accepts. -/
abbrev ValidStart := { params : LaunchStartParams // params.Valid }

/-! ## Launches -/

lemma ne_nil_of_isOption {arg : JsString} (h : isOption arg = true) : arg ≠ [] := by
  rintro rfl
  cases h

lemma ne_nil_of_mem_buildLaunchArgv {adapter : AgentAdapter} (h : Plain adapter) {bin : JsString}
    (hbin : bin ≠ []) (modelId prompt : Option JsString) :
    ∀ arg ∈ buildLaunchArgv adapter (some bin) modelId prompt, arg ≠ [] := by
  intro arg harg
  rw [buildLaunchArgv_eq h.launch, List.mem_cons, List.mem_append] at harg
  rcases harg with rfl | harg | harg
  · exact hbin
  · unfold modelPair at harg
    split at harg
    · next id flag hflag =>
      split at harg
      · next hselected =>
        rw [modelArgs, List.mem_pair] at harg
        rcases harg with rfl | rfl
        · exact ne_nil_of_isOption (h.flag _ hflag).1
        · exact hselected.1
      · cases harg
    · cases harg
  · unfold promptPair at harg
    split at harg
    · next text how hhow =>
      split at harg
      · next hprompt =>
        cases how with
        | positional =>
          rw [promptArgs, List.mem_singleton] at harg
          rw [harg]
          exact hprompt
        | flag name =>
          rw [promptArgs, List.mem_pair] at harg
          rcases harg with rfl | rfl
          · exact ne_nil_of_isOption (h.prompt _ hhow _ rfl).1
          · exact hprompt
      · cases harg
    · cases harg

lemma optionally_getD {bound : Option ℤ} (h : optionally (fun n : ℤ => 2 ≤ n ∧ n ≤ 500) bound)
    {default : ℤ} (hdefault : 1 ≤ default ∧ default ≤ 1000) :
    1 ≤ bound.getD default ∧ bound.getD default ≤ 1000 := by
  cases bound with
  | none => exact hdefault
  | some n =>
    obtain ⟨hleast, hmost⟩ := h n rfl
    rw [Option.getD_some]
    omega

lemma launchStart_valid {w : HostWorld} {params : ValidStart} {spec : SessionSpec}
    {detail : JsString} (h : launchStart w.toLaunchWorld params.1 = some (spec, detail)) :
    spec.Valid := by
  obtain ⟨project, hproject, adapter, hadapter, bin, -, -, -, -, hbin, hargv, hcwd, hcols, hrows⟩ :=
    launchStart_eq_some h
  have hplain := plain_of_mem hadapter
  have hbin : bin ≠ [] := by
    obtain ⟨-, dir, -, -, rfl⟩ := detect_eq_some hadapter hbin
    exact w.join_ne dir adapter.bin
  obtain ⟨-, -, -, -, hvalidCols, hvalidRows⟩ := params.2
  refine ⟨?_, ?_, ?_, ?_, ?_⟩
  · rw [hargv]
    exact ne_nil_of_mem_buildLaunchArgv hplain hbin _ _
  · rw [hargv, buildLaunchArgv_eq hplain.launch]
    exact List.cons_ne_nil _ _
  · obtain ⟨path, hpath, rfl⟩ := List.mem_map.1 hproject
    have habsolute := w.absolute path hpath
    rw [hcwd]
    rintro rfl
    cases habsolute
  · rw [hcols]
    exact optionally_getD hvalidCols (by decide)
  · rw [hrows]
    exact optionally_getD hvalidRows (by decide)

/-! ## The daemon -/

/-- `DEFAULT_RESERVE_TTL_MS`. -/
def defaultReserveTtlMs : ℕ := 30000

/-- `DEFAULT_STREAM_ID`. -/
def defaultStreamId : ℕ := 1

/-- What a session is listed with, from its launch. -/
structure LaunchRecord where
  argv : List JsString
  cwd : JsString

/-- The state of a daemon, with its sessions beside the registry of its desk. -/
structure Daemon (σ : Type) where
  now : ℕ
  custody : Custody CustodySpec
  sessions : InsertionMap SessionRef (Session σ)
  launches : InsertionMap SessionRef LaunchRecord
  nextStreamId : ℕ

/-- What happens to a session, with a size that the schema accepts. -/
abbrev SizedEvent :=
  { e : SessionEvent // ∀ t size, e = .terminal t → namedSize t = some size → size.Valid }

/-- What happens to a daemon. A launch is the hook's `start` up to the reservation; `settle` and
`caught` are those of a desk; a session has ended when its last frame was seen. -/
inductive DaemonEvent
  | clock (now : ℕ)
  | reserve (spec : CustodySpec)
  | launch (w : HostWorld) (params : ValidStart)
  | claim (ref : SessionRef)
  | settle (call : ℕ) (handle : Bool)
  | caught (call : ℕ)
  | session (ref : SessionRef) (e : SizedEvent)
  | ended (ref : SessionRef)

namespace Daemon

variable {σ : Type} (em : Emulator σ) (newSessionRef : ℕ → SessionRef)

/-- A daemon that starts. -/
def init (now : ℕ) : Daemon σ where
  now
  custody := (custodyMachine newSessionRef (now : ℚ) ⟨none, none, none⟩).init
  sessions := .empty
  launches := .empty
  nextStreamId := 1

/-- The desk, which reads the clock. -/
def desk (d : Daemon σ) : Custody CustodySpec :=
  { d.custody with shared := { d.custody.shared with now := d.now } }

/-- `spawner.reserve`. -/
def reserve (d : Daemon σ) (spec : CustodySpec) : Daemon σ :=
  let swept := (d.desk.react newSessionRef .sweepExpired).1
  let ref := newSessionRef swept.shared.drawn
  { d with
    custody := (swept.react newSessionRef (.reserve spec defaultReserveTtlMs)).1
    launches := d.launches.set ref ⟨spec.1.argv, spec.1.cwd⟩ }

/-- The receipt of a reservation. -/
def receipt (d : Daemon σ) : Json :=
  reservationResult (newSessionRef d.custody.shared.drawn) (d.now + defaultReserveTtlMs)

/-- `spawner.claim`, up to the spawn. -/
def claim (d : Daemon σ) (ref : SessionRef) : Daemon σ :=
  { d with
    custody := (d.desk.react newSessionRef (.claim ref ⟨none, none, some d.nextStreamId⟩)).1
    nextStreamId := d.nextStreamId + 1 }

/-- A session that a call opened. -/
def opened (d : Daemon σ) (call : ℕ) : Option (SessionRef × Opened CustodySpec) :=
  match d.custody.calls[call]? with
  | some (.spawning _ ref session) =>
    if (d.custody.shared.registry.get ref).isNone then some (ref, session) else none
  | _ => none

/-- The end of a spawn. -/
def settle (d : Daemon σ) (call : ℕ) (handle : Bool) : Daemon σ :=
  let settled := { d with custody := (d.desk.react newSessionRef (.settle call handle)).1 }
  match handle, d.opened call with
  | true, some (ref, session) =>
    let started : Session σ :=
      .new em (session.options.streamId.getD defaultStreamId) session.spec.1.size
    { settled with sessions := d.sessions.set ref started }
  | _, _ => settled

/-- Something happens to a session. -/
def onSession (d : Daemon σ) (ref : SessionRef) (e : SessionEvent) : Daemon σ :=
  match d.sessions.get ref with
  | none => d
  | some session => { d with sessions := d.sessions.set ref (session.react em e).1 }

/-- What `watchSessionEnd` leads to. -/
def ended (d : Daemon σ) (ref : SessionRef) : Daemon σ :=
  { d with
    custody := (d.custody.react newSessionRef (.remove ref)).1
    sessions := d.sessions.erase ref
    launches := d.launches.erase ref }

/-- One event. -/
def react (d : Daemon σ) : DaemonEvent → Daemon σ
  | .clock now => { d with now }
  | .reserve spec => d.reserve newSessionRef spec
  | .launch w params =>
    match h : launchStart w.toLaunchWorld params.1 with
    | none => d
    | some (spec, _) => d.reserve newSessionRef ⟨spec, launchStart_valid h⟩
  | .claim ref => d.claim newSessionRef ref
  | .settle call handle => d.settle em newSessionRef call handle
  | .caught call => { d with custody := (d.desk.react newSessionRef (.caught call)).1 }
  | .session ref e => d.onSession em ref e.1
  | .ended ref => d.ended newSessionRef ref

/-- What a connection reads of the sessions. -/
def registry (d : Daemon σ) (ref : SessionRef) : Option LiveSession :=
  (d.sessions.get ref).map fun session => ⟨session.terminal.streamId, session.terminal.seq⟩

/-- `listSessions`. The daemon's own subscriber is no viewer. -/
def listSessions (d : Daemon σ) : List SessionInfo :=
  d.sessions.entries.map fun entry =>
    let launch := d.launches.get entry.1
    { sessionRef := entry.1
      argv := (launch.map LaunchRecord.argv).getD [js "?"]
      cwd := (launch.map LaunchRecord.cwd).getD (js ".")
      cols := entry.2.terminal.size.cols
      rows := entry.2.terminal.size.rows
      subscribers := entry.2.subscribers.length - 1 }

/-! ## The hooks -/

/-- What a hook does up to its return, and what it returns, where that is no promise. -/
def returns (d : Daemon σ) (spec : CustodySpec) : Hook → Daemon σ × Json
  | .reserve _ => (d.reserve newSessionRef spec, d.receipt newSessionRef)
  | .claim ref => (d.claim newSessionRef ref, .null)
  | .listSessions => (d, .arr (d.listSessions.map SessionInfo.toJson))
  | .options => (d, .null)
  | .start _ => (d, .null)

end Daemon

/-- What the promise of a hook is fulfilled with: `options` reads the world, and `start` returns the
session it has launched. -/
def fulfils (w : HostWorld) (ref : SessionRef) : Hook → Json
  | .options => (launchOptions w.toLaunchWorld).toJson
  | .start _ => launchStartResult ref
  | _ => .null

/-! ## A connection -/

/-- A daemon and one connection that it serves. -/
structure Serving (σ : Type) where
  daemon : Daemon σ
  serve : Serve

/-- What happens to them. A hook that was called returns, a reservation being for the spec that it
was called with; the promise of a hook is settled. -/
inductive ServingEvent
  | daemon (e : DaemonEvent)
  | gate (e : GateEvent)
  | returned (reply : Except Thrown CustodySpec)
  | settled (i : ℕ) (outcome : Except Thrown (HostWorld × SessionRef))

namespace Serving

variable {σ : Type} (em : Emulator σ) (newSessionRef : ℕ → SessionRef) (o : ServeOptions)

/-- A connection finds the sessions of its daemon. -/
def sees (s : Serve) (d : Daemon σ) : Serve := { s with registry := d.registry }

/-- The hook that the innermost handler has called. -/
def calledHook (s : Serve) : Option Hook :=
  match s.handles, s.stack with
  | true, (_, .calling (.hook hook) _) :: _ => some hook
  | _, _ => none

/-- A call of the innermost handler returns. -/
def returned (s : Serving σ) (spec : CustodySpec) : Serving σ × List ServeEffect :=
  match calledHook s.serve with
  | none =>
    let r := s.serve.react o (.returned (.ok .null))
    ({ s with serve := r.1 }, r.2)
  | some hook =>
    let reply := s.daemon.returns newSessionRef spec hook
    let r := (sees s.serve reply.1).react o (.returned (.ok reply.2))
    (⟨reply.1, r.1⟩, r.2)

/-- A promise is fulfilled. -/
def fulfilled (s : Serving σ) (i : ℕ) (w : HostWorld) (ref : SessionRef) :
    Serving σ × List ServeEffect :=
  let result := ((s.serve.waiting[i]?).map fun waiting => fulfils w ref waiting.hook).getD .null
  let r := s.serve.react o (.settled i (.ok result))
  ({ s with serve := r.1 }, r.2)

/-- One event and its effects. -/
def react (s : Serving σ) : ServingEvent → Serving σ × List ServeEffect
  | .daemon e =>
    let daemon := s.daemon.react em newSessionRef e
    (⟨daemon, sees s.serve daemon⟩, [])
  | .gate e =>
    let r := s.serve.react o (.gate e)
    ({ s with serve := r.1 }, r.2)
  | .returned (.ok spec) => s.returned newSessionRef o spec
  | .returned (.error error) =>
    let r := s.serve.react o (.returned (.error error))
    ({ s with serve := r.1 }, r.2)
  | .settled i (.ok (w, ref)) => s.fulfilled o i w ref
  | .settled i (.error error) =>
    let r := s.serve.react o (.settled i (.error error))
    ({ s with serve := r.1 }, r.2)

end Serving

/-- A daemon that starts at some time, and a connection to it. -/
def servingMachine {σ : Type} (em : Emulator σ) (newSessionRef : ℕ → SessionRef) (o : ServeOptions)
    (now : ℕ) (sessionId : Bytes) : Machine (Serving σ) ServingEvent where
  init := ⟨.init newSessionRef now, .init sessionId⟩
  step s e := (s.react em newSessionRef o e).1

end Pherry.Cli
