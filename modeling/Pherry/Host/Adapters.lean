import Pherry.Js

/-!
# The agent adapters

The table of the coding agents a host knows how to launch, and the resolvers over it.
-/

namespace Pherry.Host

/-- How a launch prompt rides in an agent's argv; the source's `null` is `none` of these. -/
inductive PromptArg
  | positional
  | flag (name : JsString)
deriving DecidableEq

/-- One model choice. -/
structure ModelChoice where
  id : JsString
  name : JsString
deriving DecidableEq

/-- Everything the host needs to detect and launch one agent. -/
structure AgentAdapter where
  id : JsString
  bin : JsString
  launchArgv : List JsString
  name : JsString
  models : List ModelChoice
  modelFlag : Option JsString
  promptArg : Option PromptArg
deriving DecidableEq

namespace Adapters

def defaultModel : ModelChoice := ⟨js "default", js "Default"⟩

def claude : AgentAdapter :=
  { id := js "claude"
    bin := js "claude"
    launchArgv := [js "claude"]
    name := js "Claude Code"
    models := [defaultModel, ⟨js "opus", js "Opus"⟩, ⟨js "sonnet", js "Sonnet"⟩,
      ⟨js "haiku", js "Haiku"⟩]
    modelFlag := some (js "--model")
    promptArg := some .positional }

def codex : AgentAdapter :=
  { id := js "codex"
    bin := js "codex"
    launchArgv := [js "codex"]
    name := js "Codex"
    models := [defaultModel, ⟨js "gpt-5-codex", js "GPT-5 Codex"⟩, ⟨js "gpt-5", js "GPT-5"⟩]
    modelFlag := some (js "--model")
    promptArg := some .positional }

def gemini : AgentAdapter :=
  { id := js "gemini"
    bin := js "gemini"
    launchArgv := [js "gemini"]
    name := js "Gemini CLI"
    models := [defaultModel, ⟨js "gemini-2.5-pro", js "Gemini 2.5 Pro"⟩,
      ⟨js "gemini-2.5-flash", js "Gemini 2.5 Flash"⟩]
    modelFlag := some (js "--model")
    promptArg := some (.flag (js "--prompt-interactive")) }

def opencode : AgentAdapter :=
  { id := js "opencode"
    bin := js "opencode"
    launchArgv := [js "opencode"]
    name := js "OpenCode"
    models := [defaultModel]
    modelFlag := none
    promptArg := some (.flag (js "--prompt")) }

def kimi : AgentAdapter :=
  { id := js "kimi"
    bin := js "kimi"
    launchArgv := [js "kimi"]
    name := js "Kimi CLI"
    models := [defaultModel, ⟨js "kimi-k2", js "Kimi K2"⟩,
      ⟨js "kimi-k2-thinking", js "Kimi K2 Thinking"⟩]
    modelFlag := some (js "--model")
    promptArg := none }

end Adapters

/-- `listAgents`: the values of `AGENT_ADAPTERS`. -/
def listAgents : List AgentAdapter :=
  [Adapters.claude, Adapters.codex, Adapters.gemini, Adapters.opencode, Adapters.kimi]

/-- `getAdapter`, for the keys of the table. -/
def getAdapter (id : JsString) : Option AgentAdapter := listAgents.find? fun a => a.id = id

lemma getAdapter_of_mem {a : AgentAdapter} (h : a ∈ listAgents) : getAdapter a.id = some a := by
  have hall : ∀ b ∈ listAgents, getAdapter b.id = some b := by decide
  exact hall a h

/-- The model flag pair of `buildLaunchArgv`. An empty model id is none. -/
def pushModel (adapter : AgentAdapter) (modelId : Option JsString) (argv : List JsString) :
    List JsString :=
  match modelId, adapter.modelFlag with
  | some modelId, some modelFlag =>
    if modelId ≠ [] ∧ modelId ≠ js "default" then argv ++ [modelFlag, modelId] else argv
  | _, _ => argv

/-- The prompt of `buildLaunchArgv`. An empty prompt is none. -/
def pushPrompt (adapter : AgentAdapter) (prompt : Option JsString) (argv : List JsString) :
    List JsString :=
  match prompt, adapter.promptArg with
  | some prompt, some .positional => if prompt ≠ [] then argv ++ [prompt] else argv
  | some prompt, some (.flag name) => if prompt ≠ [] then argv ++ [name, prompt] else argv
  | _, _ => argv

/-- `buildLaunchArgv`. -/
def buildLaunchArgv (adapter : AgentAdapter) (bin modelId prompt : Option JsString) :
    List JsString :=
  let argv := match adapter.launchArgv with
    | [] => [bin.getD adapter.bin]
    | base :: rest => bin.getD base :: rest
  pushPrompt adapter prompt (pushModel adapter modelId argv)

/-- `PATH_DELIMITER`. -/
def pathDelimiter : UInt16 := 0x3A

/-- `detect`, over what `path.join` and the executable check answer: the first candidate on the
path that is executable. An unknown id throws; the callers pass ids of the table. -/
def detect (join : JsString → JsString → JsString) (isExecutable : JsString → Bool)
    (id pathEnv : JsString) : Option JsString :=
  (getAdapter id).bind fun adapter =>
    ((pathEnv.splitOn pathDelimiter).filter (· ≠ [])).map (fun dir => join dir adapter.bin)
      |>.find? isExecutable

lemma detect_eq_some {join : JsString → JsString → JsString} {isExecutable : JsString → Bool}
    {a : AgentAdapter} (ha : a ∈ listAgents) {pathEnv bin : JsString}
    (h : detect join isExecutable a.id pathEnv = some bin) :
    isExecutable bin = true ∧ ∃ dir ∈ pathEnv.splitOn pathDelimiter, dir ≠ [] ∧
      bin = join dir a.bin := by
  rw [detect, getAdapter_of_mem ha, Option.bind_some] at h
  obtain ⟨dir, hdir, rfl⟩ := List.mem_map.1 (List.mem_of_find?_eq_some h)
  rw [List.mem_filter] at hdir
  exact ⟨List.find?_some h, dir, hdir.1, by simpa using hdir.2, rfl⟩

end Pherry.Host
