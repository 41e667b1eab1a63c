import Mathlib.Algebra.Order.Field.Rat
import Pherry.Cli.Daemon
import Pherry.Host.ServeResults

/-!
# The results of a daemon

Every success that a daemon's connection sends has a result that the controller takes, in every run
in which the boarded repositories keep the bounds of the launch schema and a subscribe names a session
whose stream id is a u32. The daemon keeps neither: it boards any number of any paths, and it counts
stream ids on.
-/

namespace Pherry.Cli

open Lib Host Protocol

/-! ## Launch options -/

/-- The boarded repositories keep the bounds of the launch schema. -/
structure LaunchWorld.Bounded (w : LaunchWorld) : Prop where
  count : w.boarded.length ≤ 256
  path : ∀ path ∈ w.boarded, path.length ≤ 1024
  name : ∀ path ∈ w.boarded, 1 ≤ (basename path).length ∧ (basename path).length ≤ 128

lemma length_hex (bytes : Bytes) : (hex bytes).length = 2 * bytes.length := by
  induction bytes with
  | nil => rfl
  | cons b bytes ih =>
    rw [hex, List.flatMap_cons, List.length_append]
    rw [hex] at ih
    rw [ih, List.length_cons]
    simp only [List.length_cons, List.length_nil]
    omega

lemma HostWorld.length_projectId (w : HostWorld) (path : JsString) :
    (w.projectId path).length = 16 := by
  rw [LaunchWorld.projectId, List.length_take, length_hex, w.length_sha256]
  rfl

lemma listAgents_valid : ∀ a ∈ listAgents, lengthWithin 1 32 a.id ∧ lengthWithin 1 64 a.name ∧
    (∀ m ∈ a.models, lengthWithin 1 64 m.id ∧ lengthWithin 1 128 m.name) ∧ a.models.length ≤ 32 := by
  decide

/-- The options that a host offers are valid exactly when its boarded repositories keep the bounds. -/
lemma launchOptions_valid_iff (w : HostWorld) :
    (launchOptions w.toLaunchWorld).Valid ↔ w.toLaunchWorld.Bounded := by
  have hagents : ∀ a ∈ (launchOptions w.toLaunchWorld).agents, a.Valid := by
    intro a ha
    obtain ⟨adapter, hadapter, rfl⟩ := List.mem_map.1 ha
    obtain ⟨hid, hname, hmodels, hlength⟩ := listAgents_valid adapter (List.mem_filter.1 hadapter).1
    refine ⟨hid, hname, fun m hm => ?_, by rwa [List.length_map]⟩
    obtain ⟨model, hmodel, rfl⟩ := List.mem_map.1 hm
    exact hmodels model hmodel
  have hcount : (launchOptions w.toLaunchWorld).agents.length ≤ 32 := by
    rw [launchOptions, List.length_map, LaunchWorld.availableAdapters]
    exact le_trans (List.length_filter_le _ _) (by decide)
  constructor
  · rintro ⟨hprojects, hlength, -, -⟩
    have hproject : ∀ path ∈ w.boarded,
        lengthWithin 1 128 (basename path) ∧ lengthWithin 1 1024 path :=
      fun path hpath => (hprojects _ (List.mem_map_of_mem hpath)).2
    rw [launchOptions, LaunchWorld.listProjects, List.length_map] at hlength
    exact ⟨hlength, fun path hpath => (hproject path hpath).2.2,
      fun path hpath => (hproject path hpath).1⟩
  · intro h
    refine ⟨fun p hp => ?_, ?_, hagents, hcount⟩
    · obtain ⟨path, hpath, rfl⟩ := List.mem_map.1 hp
      have hid := w.length_projectId path
      have hne : 1 ≤ path.length := by
        have habsolute := w.absolute path hpath
        cases path with
        | nil => cases habsolute
        | cons u rest => exact Nat.le_add_left 1 _
      refine ⟨⟨?_, ?_⟩, h.name path hpath, hne, h.path path hpath⟩
      · exact le_of_le_of_eq (by decide) hid.symm
      · exact le_of_eq_of_le hid (by decide)
    · rw [launchOptions, LaunchWorld.listProjects, List.length_map]
      exact h.count

/-- The controller takes the options of a host exactly when its boarded repositories keep the bounds. -/
lemma takes_options_iff (w : HostWorld) :
    Hook.options.Takes (launchOptions w.toLaunchWorld).toJson ↔ w.toLaunchWorld.Bounded :=
  (Schema.launchOptions_toJson _).trans (launchOptions_valid_iff w)

/-! ## Listings -/

/-- The launch of a session has a command and a directory. -/
structure LaunchRecord.Valid (launch : LaunchRecord) : Prop where
  argv : ∀ arg ∈ launch.argv, arg ≠ []
  command : launch.argv ≠ []
  cwd : launch.cwd ≠ []

namespace Daemon

variable {σ : Type} {em : Emulator σ} {newSessionRef : ℕ → SessionRef}

/-- The sessions and the launches of a daemon can be listed. -/
structure Listable (d : Daemon σ) : Prop where
  sessions : ∀ ref session, d.sessions.get ref = some session → session.terminal.Sized
  launches : ∀ ref launch, d.launches.get ref = some launch → launch.Valid

variable {d : Daemon σ}

lemma Listable.valid (h : d.Listable) : ∀ i ∈ d.listSessions, i.Valid := by
  intro i hi
  obtain ⟨⟨ref, session⟩, hmem, rfl⟩ := List.mem_map.1 hi
  have hsized := (h.sessions ref session (InsertionMap.mem_entries_iff.1 hmem)).size
  obtain ⟨hcols, hcols', hrows, hrows'⟩ := hsized
  cases hget : d.launches.get ref with
  | none =>
    refine ⟨fun arg harg => ?_, List.cons_ne_nil _ _, List.cons_ne_nil _ _, ⟨hcols, hcols'⟩,
      ⟨hrows, hrows'⟩⟩
    have harg : arg ∈ [js "?"] := harg
    rw [List.mem_singleton.1 harg]
    decide
  | some launch =>
    have hvalid := h.launches ref launch hget
    exact ⟨hvalid.argv, hvalid.command, hvalid.cwd, ⟨hcols, hcols'⟩, ⟨hrows, hrows'⟩⟩

lemma listable_init (now : ℕ) : Listable (Daemon.init (σ := σ) newSessionRef now) := ⟨nofun, nofun⟩

lemma Listable.reserve (h : d.Listable) (spec : CustodySpec) :
    Listable (d.reserve newSessionRef spec) := by
  refine ⟨h.sessions, fun ref launch hget => ?_⟩
  rw [Daemon.reserve, InsertionMap.get_set] at hget
  split at hget
  · cases hget
    exact ⟨spec.2.argv, spec.2.command, spec.2.cwd⟩
  · exact h.launches ref launch hget

lemma Listable.claim (h : d.Listable) (ref : SessionRef) : Listable (d.claim newSessionRef ref) :=
  ⟨h.sessions, h.launches⟩

lemma Listable.settle (h : d.Listable) (call : ℕ) (handle : Bool) :
    Listable (d.settle em newSessionRef call handle) := by
  unfold Daemon.settle
  dsimp only
  split
  · next ref session _ =>
    refine ⟨fun other started hget => ?_, h.launches⟩
    dsimp only at hget
    rw [InsertionMap.get_set] at hget
    split at hget
    · cases hget
      exact Terminal.sized_new _ session.spec.2.size
    · exact h.sessions other started hget
  · exact ⟨h.sessions, h.launches⟩

lemma Listable.onSession (h : d.Listable) (ref : SessionRef) (e : SizedEvent) :
    Listable (d.onSession em ref e.1) := by
  unfold Daemon.onSession
  split
  · exact h
  · next session hsession =>
    refine ⟨fun other stepped hget => ?_, h.launches⟩
    dsimp only at hget
    rw [InsertionMap.get_set] at hget
    split at hget
    · cases hget
      exact Session.sized_react (h.sessions ref session hsession) e.2
    · exact h.sessions other stepped hget

lemma Listable.ended (h : d.Listable) (ref : SessionRef) : Listable (d.ended newSessionRef ref) :=
  ⟨fun other session hget => h.sessions other session (InsertionMap.get_erase_eq_some.1 hget).2,
    fun other launch hget => h.launches other launch (InsertionMap.get_erase_eq_some.1 hget).2⟩

lemma Listable.react (h : d.Listable) (e : DaemonEvent) :
    Listable (d.react em newSessionRef e) := by
  cases e with
  | clock now => exact ⟨h.sessions, h.launches⟩
  | reserve spec => exact h.reserve spec
  | launch w params =>
    unfold Daemon.react
    dsimp only
    split
    · exact h
    · exact h.reserve _
  | claim ref => exact h.claim ref
  | settle call handle => exact h.settle call handle
  | caught call => exact ⟨h.sessions, h.launches⟩
  | session ref e => exact h.onSession ref e
  | ended ref => exact h.ended ref

lemma Listable.returns (h : d.Listable) (newSessionRef : ℕ → SessionRef) (spec : CustodySpec)
    (hook : Hook) :
    Listable (d.returns newSessionRef spec hook).1 ∧
      (hook.isSync = true → hook.Takes (d.returns newSessionRef spec hook).2) := by
  cases hook with
  | reserve json =>
    exact ⟨h.reserve spec, fun _ => Schema.custodyReservation_toJson _ _⟩
  | claim ref => exact ⟨h.claim ref, nofun⟩
  | listSessions => exact ⟨h, fun _ => Schema.sessionList_toJson h.valid⟩
  | options => exact ⟨h, nofun⟩
  | start params => exact ⟨h, nofun⟩

end Daemon

/-! ## A connection -/

namespace Serving

variable {σ : Type} {em : Emulator σ} {newSessionRef : ℕ → SessionRef} {o : ServeOptions}

/-- A subscribe names a session whose stream id is a u32, and the options of a launch are read when
the boarded repositories keep the bounds. -/
def Keeps (o : ServeOptions) (s : Serving σ) : ServingEvent → Prop
  | .gate e => Serve.AllAddress o s.daemon.registry (s.serve.gate.react o.gate e).2
  | .settled i (.ok (w, _)) =>
    (s.serve.waiting[i]?).map Waiting.hook = some .options → w.toLaunchWorld.Bounded
  | _ => True

/-- A daemon whose sessions can be listed, and a connection that finds them. -/
structure Sound (s : Serving σ) : Prop where
  daemon : s.daemon.Listable
  serve : s.serve.Fits
  registry : s.serve.registry = s.daemon.registry

/-- A step that keeps a daemon sound, and sends what the controller takes. -/
structure SoundStep (r : Serving σ × List ServeEffect) : Prop where
  sound : Sound r.1
  accepted : Serve.AllAccepted r.1.serve.log r.2

variable {s : Serving σ}

lemma Sound.serveStep (h : s.Sound) {e : ServeEvent} (hheeds : s.serve.Heedful o e)
    (hregistry : ∀ registry, e ≠ .registry registry) :
    SoundStep (({ s with serve := (s.serve.react o e).1 } : Serving σ), (s.serve.react o e).2) := by
  have hstep := Serve.fits_react h.serve hheeds hregistry
  exact ⟨⟨h.daemon, hstep.fits, hstep.registry.trans h.registry⟩, hstep.accepted⟩

lemma Sound.sees (h : s.Sound) {d : Daemon σ} (hd : d.Listable) :
    Sound ⟨d, sees s.serve d⟩ := ⟨hd, ⟨h.serve.stack, h.serve.waiting⟩, rfl⟩

lemma calledHook_eq {serve : Serve} {h : Handler} {hook : Hook} {left : List Todo}
    {stack : List (Handler × Stage)} (hhandles : serve.handles = true)
    (hstack : serve.stack = (h, .calling (.hook hook) left) :: stack) :
    calledHook serve = some hook := by
  rw [calledHook, hhandles, hstack]

lemma Sound.returned (h : s.Sound) (newSessionRef : ℕ → SessionRef) (spec : CustodySpec) :
    SoundStep (s.returned newSessionRef o spec) := by
  unfold Serving.returned
  split
  · next hnone =>
    refine h.serveStep (fun result handler hook left stack _ hhandles hstack _ => ?_) nofun
    rw [calledHook_eq hhandles hstack] at hnone
    cases hnone
  · next hook hcalled =>
    obtain ⟨hlistable, htakes⟩ := h.daemon.returns newSessionRef spec hook
    refine (h.sees hlistable).serveStep ?_ nofun
    intro result handler other left stack heq hhandles hstack hsync
    have hsame : calledHook s.serve = some other := calledHook_eq hhandles hstack
    rw [hsame] at hcalled
    cases hcalled
    cases heq
    exact htakes hsync

lemma Sound.fulfilled (h : s.Sound) (i : ℕ) (w : HostWorld) (ref : SessionRef)
    (hbounded : (s.serve.waiting[i]?).map Waiting.hook = some .options →
      w.toLaunchWorld.Bounded) : SoundStep (s.fulfilled o i w ref) := by
  refine h.serveStep (fun result waiting heq hwaiting hasync => ?_) nofun
  rw [hwaiting, Option.map_some, Option.getD_some] at heq
  cases heq
  rw [hwaiting, Option.map_some] at hbounded
  cases hhook : waiting.hook with
  | reserve spec =>
    rw [hhook] at hasync
    cases hasync
  | claim ref => trivial
  | listSessions =>
    rw [hhook] at hasync
    cases hasync
  | options =>
    rw [hhook] at hbounded
    exact (takes_options_iff w).2 (hbounded rfl)
  | start params => exact Schema.launchStartResult_toJson ref

lemma Sound.react (h : s.Sound) {e : ServingEvent} (hkeeps : s.Keeps o e) :
    SoundStep (s.react em newSessionRef o e) := by
  cases e with
  | daemon e => exact ⟨h.sees (h.daemon.react e), Serve.allAccepted_nil _⟩
  | gate e =>
    refine h.serveStep (e := .gate e) ?_ nofun
    show Serve.AllAddress o s.serve.registry _
    rw [h.registry]
    exact hkeeps
  | returned reply =>
    cases reply with
    | ok spec => exact h.returned newSessionRef spec
    | error error => exact h.serveStep (e := .returned (.error error)) nofun nofun
  | settled i outcome =>
    cases outcome with
    | ok fulfilment => exact h.fulfilled i fulfilment.1 fulfilment.2 hkeeps
    | error error => exact h.serveStep (e := .settled i (.error error)) nofun nofun

lemma sound_init (newSessionRef : ℕ → SessionRef) (now : ℕ) (sessionId : Bytes) :
    Sound (σ := σ) ⟨.init newSessionRef now, .init sessionId⟩ :=
  ⟨Daemon.listable_init now, Serve.fits_init sessionId, rfl⟩

end Serving

/-- Every success that is sent in a run has a result that the schema of its method accepts. -/
def ResultsTaken {σ : Type} (em : Emulator σ) (newSessionRef : ℕ → SessionRef) (o : ServeOptions)
    (now : ℕ) (sessionId : Bytes) (es : List ServingEvent) : Prop :=
  ∀ pre e, pre ++ [e] <+: es →
    Serve.AllAccepted ((servingMachine em newSessionRef o now sessionId).run (pre ++ [e])).serve.log
      (((servingMachine em newSessionRef o now sessionId).run pre).react em newSessionRef o e).2

/-- **What the host sends, the controller takes.** In every run of a daemon and a connection in which
each subscribe names a session with a u32 stream id, and the boarded repositories keep the bounds of
the launch schema whenever the options are read, every success has a result that its schema accepts. -/
theorem resultsTaken_of_keeps {σ : Type} (em : Emulator σ) (newSessionRef : ℕ → SessionRef)
    (o : ServeOptions) (now : ℕ) (sessionId : Bytes) {es : List ServingEvent}
    (h : (servingMachine em newSessionRef o now sessionId).Meets (Serving.Keeps o) es) :
    ResultsTaken em newSessionRef o now sessionId es := by
  rintro pre e ⟨post, rfl⟩
  have hsnoc : (servingMachine em newSessionRef o now sessionId).Meets (Serving.Keeps o)
      (pre ++ [e]) := h.prefix
  obtain ⟨hpre, hlast⟩ := (Machine.meets_snoc _).1 hsnoc
  have hsound : ((servingMachine em newSessionRef o now sessionId).run pre).Sound :=
    Machine.invariant_of_meets _ (p := Serving.Sound) (Serving.sound_init newSessionRef now sessionId)
      (fun _ _ hkeeps hs => (hs.react hkeeps).sound) hpre
  rw [Machine.run_snoc]
  exact (hsound.react hlast).accepted

namespace Demo

/-- A host with these boarded repositories. -/
def hostWorld (boarded : List JsString) (h : ∀ path ∈ boarded, path.head? = some 0x2F) : HostWorld :=
  { world with
    boarded
    absolute := h
    join_ne := fun dir name => by simp [world, js]
    length_sha256 := fun _ => rfl }

/-- A terminal that shows nothing. -/
def blindEmulator : Emulator Unit := ⟨fun _ => (), fun _ _ => (), fun _ _ => (), fun _ => []⟩

/-- A session. -/
def someRef : SessionRef := ⟨js "sref_00000000000000000000000000000000", by decide⟩

/-- A controller that can launch. -/
def launcher : Hello where
  role := .controller
  protocol := protocolVersion
  capabilities := [launch]
  publicKey := []
  deviceKeyId := js "0000000000000000"
  deviceAuth := []

/-- The request for the launch options. -/
def optionsRequest : RpcRequest := ⟨js "1", js "launch.options", none⟩

/-- A local socket of a daemon: a payload is a Hello, or the request for the launch options. -/
def localOptions : ServeOptions where
  gate :=
    { parseHello := fun payload => if payload = [1] then some launcher else none
      capabilities := [launch]
      verifyDevice := false }
  parseRequest payload := if payload = [2] then some optionsRequest else none
  parseParams
    | .options, _ => .ok ()
    | _, _ => .error .null
  custody := true
  listSessions := true
  launch := true

/-- A spec. -/
def someSpec : CustodySpec :=
  ⟨spec "help", by decide, by decide, by decide, by decide, by decide⟩

/-- A controller asks for the launch options, which are read in this world. -/
def askOptions (w : HostWorld) : List ServingEvent :=
  [.gate (.frame ⟨.control, [1]⟩), .gate (.ackReturned true), .gate (.frame ⟨.control, [2]⟩),
    .returned (.ok someSpec), .gate (.handlerReturned true), .settled 0 (.ok (w, someRef))]

end Demo

lemma Demo.addresses (registry : SessionRef → Option LiveSession) (effects : List GateEffect) :
    Serve.AllAddress localOptions registry effects := by
  intro payload request _ hparsed method params hmethod _
  have hrequest : request = optionsRequest := by
    simp only [localOptions] at hparsed
    split at hparsed
    · exact (Option.some.inj hparsed).symm
    · cases hparsed
  rw [hrequest] at hmethod
  have hoptions : methodOf optionsRequest.method = some .options := by decide
  rw [hoptions] at hmethod
  cases hmethod
  trivial

lemma Demo.bounded :
    (hostWorld [js "/repo"] (by decide)).toLaunchWorld.Bounded :=
  ⟨by decide, by decide, by decide⟩

/-- The options of a host with one repository are taken. -/
theorem resultsTaken_repo :
    ResultsTaken Demo.blindEmulator (fun _ => Demo.someRef) Demo.localOptions 0 []
      (Demo.askOptions (Demo.hostWorld [js "/repo"] (by decide))) := by
  refine resultsTaken_of_keeps Demo.blindEmulator (fun _ => Demo.someRef) Demo.localOptions 0 []
    fun before e after hes => ?_
  have hmem : e ∈ Demo.askOptions (Demo.hostWorld [js "/repo"] (by decide)) := by
    rw [hes]
    exact List.mem_append_right _ List.mem_cons_self
  simp only [Demo.askOptions, List.mem_cons, List.not_mem_nil, or_false] at hmem
  rcases hmem with rfl | rfl | rfl | rfl | rfl | rfl
  · exact Demo.addresses _ _
  · exact Demo.addresses _ _
  · exact Demo.addresses _ _
  · trivial
  · exact Demo.addresses _ _
  · exact fun _ => Demo.bounded

/-- A success that the schema of its method refuses. -/
def refused (log : List (Option RpcRequest)) : ServeEffect → Bool
  | .respond n (.success _ result _) => !(log[n]?).any fun parsed =>
      parsed.any fun request => (methodOf request.method).any fun method => method.result result
  | _ => false

lemma not_refused {log : List (Option RpcRequest)} {effects : List ServeEffect}
    (h : Serve.AllAccepted log effects) : effects.any (refused log) = false := by
  rw [List.any_eq_false]
  intro effect heffect
  unfold refused
  split
  · next n id result stream =>
    obtain ⟨parsed, hn, request, method, rfl, hmethod, hresult⟩ := h n _ heffect
    simp [hn, hmethod, hresult]
  · exact Bool.false_ne_true

/-- A repository boarded at the root has no name, and the controller takes no options. -/
theorem not_resultsTaken_root :
    ¬ ResultsTaken Demo.blindEmulator (fun _ => Demo.someRef) Demo.localOptions 0 []
      (Demo.askOptions (Demo.hostWorld [js "/"] (by decide))) := by
  intro h
  have hlast := not_refused (h (Demo.askOptions (Demo.hostWorld [js "/"] (by decide))).dropLast
    (.settled 0 (.ok (Demo.hostWorld [js "/"] (by decide), Demo.someRef))) (List.prefix_refl _))
  exact absurd hlast (by decide +kernel)

end Pherry.Cli
