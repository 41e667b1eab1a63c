import Pherry.Host.Adapters
import Pherry.Protocol.Launch

/-!
# The launch hooks

What a daemon answers to `launch.options`, and what it spawns for `launch.start`: identifiers are
joined against the lists the host composes, and the spec is the host's own.
-/

namespace Pherry.Cli

open Host Protocol

/-! ## Strings -/

/-- `path.basename`. -/
def basename (path : JsString) : JsString :=
  ((path.reverse.dropWhile (· = 0x2F)).takeWhile (· ≠ 0x2F)).reverse

/-- A hexadecimal digit. -/
def hexDigit (n : ℕ) : UInt16 := UInt16.ofNat (if n < 10 then 0x30 + n else 0x57 + n)

/-- `digest('hex')`. -/
def hex (bytes : Bytes) : JsString :=
  bytes.flatMap fun b => [hexDigit (b.toNat / 16), hexDigit (b.toNat % 16)]

example : basename (js "/home/me/repo/") = js "repo" ∧ basename (js "/") = [] := by decide

/-! ## What the hooks read -/

/-- A string-valued environment, in the order of its keys. -/
abbrev Env := List (JsString × JsString)

/-- `env[key]`. -/
def Env.get (env : Env) (key : JsString) : Option JsString :=
  (env.find? fun entry => entry.1 = key).map Prod.snd

/-- `env[key] = value`. -/
def Env.set (env : Env) (key value : JsString) : Env :=
  if env.any fun entry => entry.1 = key then
    env.map fun entry => if entry.1 = key then (key, value) else entry
  else env ++ [(key, value)]

lemma Env.get_set_self (env : Env) (key value : JsString) : (env.set key value).get key = some value := by
  rw [Env.set]
  split
  · next hany =>
    obtain ⟨entry, hfound⟩ := Option.isSome_iff_exists.1 (List.find?_isSome.2 (List.any_eq_true.1 hany))
    have hkey : entry.1 = key := by simpa using List.find?_some hfound
    have htest : ((fun entry : JsString × JsString => decide (entry.1 = key)) ∘
        fun entry : JsString × JsString => if entry.1 = key then (key, value) else entry) =
        fun entry : JsString × JsString => decide (entry.1 = key) := by
      funext entry
      by_cases h : entry.1 = key <;> simp [h]
    rw [Env.get, List.find?_map, htest, hfound]
    simp [hkey]
  · next hany =>
    have hnone : (env.find? fun entry => entry.1 = key) = none := by
      rw [List.find?_eq_none]
      exact fun entry hentry hkey => hany (List.any_eq_true.2 ⟨entry, hentry, hkey⟩)
    rw [Env.get, List.find?_append, hnone]
    simp

lemma Env.get_set_ne (env : Env) {key other : JsString} (h : other ≠ key) (value : JsString) :
    (env.set key value).get other = env.get other := by
  rw [Env.set]
  split
  · have htest : ((fun entry : JsString × JsString => decide (entry.1 = other)) ∘
        fun entry : JsString × JsString => if entry.1 = key then (key, value) else entry) =
        fun entry : JsString × JsString => decide (entry.1 = other) := by
      funext entry
      by_cases hkey : entry.1 = key
      · simp [hkey]
      · simp [hkey]
    rw [Env.get, List.find?_map, htest, Env.get]
    cases hfound : env.find? fun entry => entry.1 = other with
    | none => rfl
    | some entry =>
      have hother : entry.1 = other := by simpa using List.find?_some hfound
      have hne : entry.1 ≠ key := hother ▸ h
      simp [hne]
  · have hlast : ([(key, value)].find? fun entry => entry.1 = other) = none := by simpa using h.symm
    rw [Env.get, List.find?_append, hlast, Option.or_none, Env.get]

/-- What the hooks find outside at the time of a call: the boarded list, the daemon's environment
and shim directory, which agents the cached probe calls available, and the node API. -/
structure LaunchWorld where
  boarded : List JsString
  env : Env
  shims : JsString
  available : AgentAdapter → Bool
  join : JsString → JsString → JsString
  isExecutable : JsString → Bool
  sha256 : Bytes → Bytes
  randomUUID : JsString

/-- `envForSpawn`. -/
def envForSpawn (base : Env) : Env :=
  base.filter fun entry => entry.1 ≠ js "CLAUDECODE" ∧ ¬ (js "CLAUDE_CODE_" <+: entry.1)

lemma get_envForSpawn (env : Env) {key : JsString}
    (h : key ≠ js "CLAUDECODE" ∧ ¬ js "CLAUDE_CODE_" <+: key) : (envForSpawn env).get key = env.get key := by
  rw [Env.get, envForSpawn, List.find?_filter, Env.get]
  congr 2
  funext entry
  by_cases hkey : entry.1 = key
  · simp [hkey, h]
  · simp [hkey]

/-- `projectId`. -/
def LaunchWorld.projectId (w : LaunchWorld) (path : JsString) : JsString :=
  (hex (w.sha256 (utf8 path))).take 16

/-- `shimFreeEnv`. -/
def LaunchWorld.shimFreeEnv (w : LaunchWorld) : Env :=
  let env := envForSpawn w.env
  match env.get (js "PATH") with
  | none => env
  | some path => env.set (js "PATH")
      ([pathDelimiter].intercalate ((path.splitOn pathDelimiter).filter (· ≠ w.shims)))

/-- `listProjects`. -/
def LaunchWorld.listProjects (w : LaunchWorld) : List LaunchProject :=
  w.boarded.map fun path => ⟨w.projectId path, basename path, path⟩

/-- `availableAdapters`. -/
def LaunchWorld.availableAdapters (w : LaunchWorld) : List AgentAdapter :=
  listAgents.filter w.available

/-! ## The hooks -/

/-- `options`. -/
def launchOptions (w : LaunchWorld) : LaunchOptions :=
  { projects := w.listProjects
    agents := w.availableAdapters.map fun adapter =>
      { id := adapter.id
        name := adapter.name
        models := adapter.models.map fun model => ⟨model.id, model.name⟩
        promptSupported := some adapter.promptArg.isSome } }

/-- What a session is spawned from. -/
structure SessionSpec where
  argv : List JsString
  cwd : JsString
  env : Env
  cols : ℤ
  rows : ℤ
deriving DecidableEq

/-- `DEFAULT_COLS`. -/
def defaultCols : ℤ := 80

/-- `DEFAULT_ROWS`. -/
def defaultRows : ℤ := 24

/-- `launchDetail`. -/
def launchDetail (params : LaunchStartParams) (projectName : JsString) : JsString :=
  (match params.modelId with
    | some modelId => params.agentId ++ js ":" ++ modelId
    | none => params.agentId) ++ js " in " ++ projectName

/-- `start` up to the reservation: the spec to reserve and claim and the detail to audit, or `none`
where it throws `LaunchRefusedError`. -/
def launchStart (w : LaunchWorld) (params : LaunchStartParams) : Option (SessionSpec × JsString) := do
  let project ← w.listProjects.find? fun entry => entry.id = params.projectId
  let adapter ← w.availableAdapters.find? fun entry => entry.id = params.agentId
  if ∃ modelId ∈ params.modelId, ∀ model ∈ adapter.models, model.id ≠ modelId then none
  else if params.prompt.getD [] ≠ [] ∧ adapter.promptArg = none then none
  else
    let env := w.shimFreeEnv
    let bin ← detect w.join w.isExecutable adapter.id ((env.get (js "PATH")).getD [])
    return ({ argv := buildLaunchArgv adapter (some bin) params.modelId params.prompt
              cwd := project.path
              env := env.set (js "PHERRY_LOCAL_ID") w.randomUUID
              cols := params.cols.getD defaultCols
              rows := params.rows.getD defaultRows },
      launchDetail params project.name)

/-- The launches a host starts: of a project and an agent it offers, with a model the agent has,
and the agent's own binary. -/
lemma launchStart_eq_some {w : LaunchWorld} {params : LaunchStartParams} {spec : SessionSpec}
    {detail : JsString} (h : launchStart w params = some (spec, detail)) :
    ∃ project ∈ w.listProjects, ∃ adapter ∈ listAgents, ∃ bin,
      project.id = params.projectId ∧ adapter.id = params.agentId ∧
      (∀ modelId, params.modelId = some modelId → ∃ model ∈ adapter.models, model.id = modelId) ∧
      (params.prompt.getD [] ≠ [] → adapter.promptArg ≠ none) ∧
      detect w.join w.isExecutable adapter.id ((w.shimFreeEnv.get (js "PATH")).getD []) = some bin ∧
      spec.argv = buildLaunchArgv adapter (some bin) params.modelId params.prompt ∧
      spec.cwd = project.path ∧ spec.cols = params.cols.getD defaultCols ∧
      spec.rows = params.rows.getD defaultRows := by
  unfold launchStart at h
  obtain ⟨project, hproject, h⟩ := Option.bind_eq_some_iff.1 h
  obtain ⟨adapter, hadapter, h⟩ := Option.bind_eq_some_iff.1 h
  have hoffered := List.mem_of_find?_eq_some hadapter
  refine ⟨project, List.mem_of_find?_eq_some hproject, adapter, (List.mem_filter.1 hoffered).1, ?_⟩
  split at h
  · cases h
  split at h
  · cases h
  next hmodel hprompt =>
  obtain ⟨bin, hbin, h⟩ := Option.bind_eq_some_iff.1 h
  obtain ⟨rfl, -⟩ := Prod.mk.inj (Option.some.inj h)
  refine ⟨bin, ?_, ?_, fun modelId hsome => ?_, fun hne hnone => ?_, hbin, rfl, rfl, rfl, rfl⟩
  · simpa using List.find?_some hproject
  · simpa using List.find?_some hadapter
  · by_contra hnot
    apply hmodel
    refine ⟨modelId, hsome, fun model hmem heq => ?_⟩
    exact hnot ⟨model, hmem, heq⟩
  · exact hprompt ⟨hne, hnone⟩

end Pherry.Cli
