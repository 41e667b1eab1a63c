import Pherry.Cli.Launch
import Pherry.Lib.CommandLine

/-!
# What a launch can put on a command line

The argv of a remote launch, as the agent's own command line reads it: the binary, the options the
adapter's table has for the selection, and the model and the prompt as data. The prompt is one
element, but nothing marks it as an operand: `unsmuggled_iff` says for which prompts that is enough.
-/

namespace Pherry.Cli

open Host Protocol Lib

/-! ## The agents' command lines -/

/-- Whether an argument looks like an option: a hyphen and something behind it. -/
def isOption : JsString → Bool
  | 0x2D :: _ :: _ => true
  | _ => false

/-- The mark that ends the options. -/
def endOfOptions : JsString := js "--"

/-- The command line of an agent that takes these pairs for an option and its value. -/
def agentCommandLine (takes : JsString → JsString → Bool) : CommandLine JsString :=
  { isOption, isEnd := fun arg => arg = endOfOptions, takes }

lemma not_end_of_plain {arg : JsString} (h : isOption arg = false) : arg ≠ endOfOptions := by
  rintro rfl
  cases h

/-! ## The selection -/

/-- The model flag and id a launch selects; the default model has no flag. -/
def modelPair (adapter : AgentAdapter) (modelId : Option JsString) : Option (JsString × JsString) :=
  match modelId, adapter.modelFlag with
  | some id, some flag => if id ≠ [] ∧ id ≠ js "default" then some (flag, id) else none
  | _, _ => none

/-- The prompt of a launch and how it rides; an empty prompt is none. -/
def promptPair (adapter : AgentAdapter) (prompt : Option JsString) : Option (PromptArg × JsString) :=
  match prompt, adapter.promptArg with
  | some text, some arg => if text ≠ [] then some (arg, text) else none
  | _, _ => none

/-- The flag a prompt rides behind. -/
def PromptArg.name? : PromptArg → Option JsString
  | .positional => none
  | .flag name => some name

/-- The options of the adapter's table for a selection. -/
def selectedOptions (adapter : AgentAdapter) (params : LaunchStartParams) : List JsString :=
  ((modelPair adapter params.modelId).map Prod.fst).toList ++
    ((promptPair adapter params.prompt).bind fun pair => PromptArg.name? pair.1).toList

/-- The model and the prompt of a selection. -/
def selectedData (adapter : AgentAdapter) (params : LaunchStartParams) : List JsString :=
  ((modelPair adapter params.modelId).map Prod.snd).toList ++
    ((promptPair adapter params.prompt).map Prod.snd).toList

/-- What an argv of a launch promises. -/
structure Unsmuggled (c : CommandLine JsString) (w : LaunchWorld) (adapter : AgentAdapter)
    (params : LaunchStartParams) (spec : SessionSpec) : Prop where
  /-- It starts with the binary detected for the adapter. -/
  binary : spec.argv.head? = detect w.join w.isExecutable adapter.id
    ((w.shimFreeEnv.get (js "PATH")).getD [])
  /-- What the agent reads as options are the table's, for the selection. -/
  options : c.options spec.argv.tail = selectedOptions adapter params
  /-- What it reads as data are the model and the prompt. -/
  data : c.data spec.argv.tail = selectedData adapter params
  cwd : spec.cwd ∈ w.boarded

/-- A prompt that the agent reads as data: the flag it rides behind takes it, or it does not look
like an option. -/
def PromptIsData (takes : JsString → JsString → Bool) (adapter : AgentAdapter)
    (prompt : Option JsString) : Prop :=
  ∀ arg text, promptPair adapter prompt = some (arg, text) →
    (∃ name, arg = .flag name ∧ takes name text = true) ∨ isOption text = false

/-! ## The table -/

/-- What the adapters of the table have in common. -/
structure Plain (adapter : AgentAdapter) : Prop where
  launch : adapter.launchArgv = [adapter.bin]
  flag : ∀ flag ∈ adapter.modelFlag, isOption flag = true ∧ flag ≠ endOfOptions
  models : ∀ model ∈ adapter.models, isOption model.id = false
  prompt : ∀ arg ∈ adapter.promptArg, ∀ name ∈ PromptArg.name? arg,
    isOption name = true ∧ name ≠ endOfOptions

lemma plain_of_mem {adapter : AgentAdapter} (h : adapter ∈ listAgents) : Plain adapter := by
  have hlaunch : ∀ a ∈ listAgents, a.launchArgv = [a.bin] := by decide
  have hflag : ∀ a ∈ listAgents, ∀ flag ∈ a.modelFlag, isOption flag = true ∧ flag ≠ endOfOptions := by
    decide
  have hmodels : ∀ a ∈ listAgents, ∀ model ∈ a.models, isOption model.id = false := by decide
  have hprompt : ∀ a ∈ listAgents, ∀ arg ∈ a.promptArg, ∀ name ∈ PromptArg.name? arg,
      isOption name = true ∧ name ≠ endOfOptions := by decide
  exact ⟨hlaunch _ h, hflag _ h, hmodels _ h, hprompt _ h⟩

/-! ## The argv -/

/-- The arguments of a selected model. -/
def modelArgs (pair : Option (JsString × JsString)) : List JsString :=
  match pair with
  | some (flag, id) => [flag, id]
  | none => []

/-- The arguments of a prompt. -/
def promptArgs (pair : Option (PromptArg × JsString)) : List JsString :=
  match pair with
  | some (.positional, text) => [text]
  | some (.flag name, text) => [name, text]
  | none => []

lemma pushModel_eq (adapter : AgentAdapter) (modelId : Option JsString) (argv : List JsString) :
    pushModel adapter modelId argv = argv ++ modelArgs (modelPair adapter modelId) := by
  unfold pushModel modelPair
  cases modelId with
  | none => exact (List.append_nil argv).symm
  | some id =>
    cases adapter.modelFlag with
    | none => exact (List.append_nil argv).symm
    | some flag =>
      by_cases hselected : id ≠ [] ∧ id ≠ js "default"
      · simp only [if_pos hselected, modelArgs]
      · simp only [if_neg hselected, modelArgs, List.append_nil]

lemma pushPrompt_eq (adapter : AgentAdapter) (prompt : Option JsString) (argv : List JsString) :
    pushPrompt adapter prompt argv = argv ++ promptArgs (promptPair adapter prompt) := by
  unfold pushPrompt promptPair
  cases prompt with
  | none => exact (List.append_nil argv).symm
  | some text =>
    cases adapter.promptArg with
    | none => exact (List.append_nil argv).symm
    | some arg =>
      by_cases hempty : text ≠ []
      · cases arg with
        | positional => simp only [if_pos hempty, promptArgs]
        | flag name => simp only [if_pos hempty, promptArgs]
      · cases arg with
        | positional => simp only [if_neg hempty, promptArgs, List.append_nil]
        | flag name => simp only [if_neg hempty, promptArgs, List.append_nil]

lemma buildLaunchArgv_eq {adapter : AgentAdapter} (h : adapter.launchArgv = [adapter.bin])
    (bin : JsString) (modelId prompt : Option JsString) :
    buildLaunchArgv adapter (some bin) modelId prompt
      = bin :: (modelArgs (modelPair adapter modelId) ++ promptArgs (promptPair adapter prompt)) := by
  unfold buildLaunchArgv
  rw [h, pushPrompt_eq, pushModel_eq]
  rfl

section Reads

variable (takes : JsString → JsString → Bool) {adapter : AgentAdapter}

/-- The options and the data of the prompt's arguments are the selected ones exactly when the prompt
is data. -/
lemma promptArgs_iff (hplain : Plain adapter) (prompt : Option JsString) :
    ((agentCommandLine takes).options (promptArgs (promptPair adapter prompt))
        = ((promptPair adapter prompt).bind fun pair => PromptArg.name? pair.1).toList ∧
      (agentCommandLine takes).data (promptArgs (promptPair adapter prompt))
        = ((promptPair adapter prompt).map Prod.snd).toList) ↔
      PromptIsData takes adapter prompt := by
  -- what does not look like an option does not end them either
  have hdata : ∀ text : JsString, ((agentCommandLine takes).isEnd text = false ∧
      (agentCommandLine takes).isOption text = false) ↔ isOption text = false := by
    intro text
    constructor
    · intro h
      exact h.2
    · intro h
      exact ⟨decide_eq_false (not_end_of_plain h), h⟩
  unfold PromptIsData
  cases hpair : promptPair adapter prompt with
  | none =>
    constructor
    · intro _ arg text hsome
      cases hsome
    · intro _
      exact ⟨rfl, rfl⟩
  | some pair =>
    obtain ⟨arg, text⟩ := pair
    have harg : arg ∈ adapter.promptArg := by
      unfold promptPair at hpair
      split at hpair
      · next hsome =>
        split at hpair
        · obtain ⟨rfl, -⟩ := Prod.mk.inj (Option.some.inj hpair)
          exact hsome
        · cases hpair
      · cases hpair
    have hone : (∀ arg' text', some (arg, text) = some (arg', text') →
        (∃ name, arg' = .flag name ∧ takes name text' = true) ∨ isOption text' = false) ↔
        ((∃ name, arg = .flag name ∧ takes name text = true) ∨ isOption text = false) := by
      constructor
      · intro h
        exact h arg text rfl
      · intro h arg' text' hsame
        obtain ⟨rfl, rfl⟩ := Prod.mk.inj (Option.some.inj hsame)
        exact h
    rw [hone]
    cases arg with
    | positional =>
      have hread := CommandLine.data_singleton_iff (c := agentCommandLine takes) text
      refine hread.trans ((hdata text).trans ?_)
      simp
    | flag name =>
      obtain ⟨hoption, hend⟩ := hplain.prompt _ harg name rfl
      have hread := CommandLine.data_pair_iff (c := agentCommandLine takes)
        (decide_eq_false hend) hoption text
      refine hread.trans ?_
      rw [hdata]
      constructor
      · intro h
        exact h.imp (fun htakes => ⟨name, rfl, htakes⟩) fun hplain => hplain
      · intro h
        refine h.imp (fun htakes => ?_) fun hplain => hplain
        obtain ⟨name', hsame, htakes⟩ := htakes
        obtain rfl := PromptArg.flag.inj hsame
        exact htakes

lemma modelArgs_read (hplain : Plain adapter) {modelId : Option JsString}
    (hmodel : ∀ id, modelId = some id → ∃ model ∈ adapter.models, model.id = id)
    (rest : List JsString) :
    (agentCommandLine takes).options (modelArgs (modelPair adapter modelId) ++ rest)
        = ((modelPair adapter modelId).map Prod.fst).toList ++ (agentCommandLine takes).options rest ∧
      (agentCommandLine takes).data (modelArgs (modelPair adapter modelId) ++ rest)
        = ((modelPair adapter modelId).map Prod.snd).toList ++ (agentCommandLine takes).data rest := by
  unfold modelPair
  split
  · next id flag hflag =>
    split
    · obtain ⟨hoption, hend⟩ := hplain.flag flag hflag
      obtain ⟨model, hmem, hid⟩ := hmodel id rfl
      have htext : isOption id = false := by
        rw [← hid]
        exact hplain.models model hmem
      constructor
      · apply CommandLine.options_pair
        · exact decide_eq_false hend
        · exact hoption
        · exact decide_eq_false (not_end_of_plain htext)
        · exact htext
      · apply CommandLine.data_pair
        · exact decide_eq_false hend
        · exact hoption
        · exact decide_eq_false (not_end_of_plain htext)
        · exact htext
    · exact ⟨rfl, rfl⟩
  · exact ⟨rfl, rfl⟩

end Reads

/-- **What a launch can put on a command line.** Of every launch a host starts, the argv begins with
the detected binary of an adapter and the working directory is boarded; the options are the table's
and the prompt is data exactly when the flag it rides behind takes it or it does not look like an
option. -/
theorem unsmuggled_iff (takes : AgentAdapter → JsString → JsString → Bool) {w : LaunchWorld}
    {params : LaunchStartParams} {spec : SessionSpec} {detail : JsString}
    (h : launchStart w params = some (spec, detail)) :
    ∃ adapter ∈ listAgents, adapter.id = params.agentId ∧
      (Unsmuggled (agentCommandLine (takes adapter)) w adapter params spec ↔
        PromptIsData (takes adapter) adapter params.prompt) ∧
      (∃ bin, detect w.join w.isExecutable adapter.id ((w.shimFreeEnv.get (js "PATH")).getD [])
        = some bin ∧ spec.argv.head? = some bin) ∧ spec.cwd ∈ w.boarded := by
  obtain ⟨project, hproject, adapter, hadapter, bin, -, hid, hmodel, -, hbin, hargv, hcwd, -⟩ :=
    launchStart_eq_some h
  have hplain := plain_of_mem hadapter
  have hboarded : spec.cwd ∈ w.boarded := by
    obtain ⟨path, hpath, rfl⟩ := List.mem_map.1 hproject
    rw [hcwd]
    exact hpath
  rw [buildLaunchArgv_eq hplain.launch] at hargv
  obtain ⟨hoptions, hdata⟩ := modelArgs_read (takes adapter) hplain hmodel
    (promptArgs (promptPair adapter params.prompt))
  have hprompt := promptArgs_iff (takes adapter) hplain params.prompt
  have hhead : spec.argv.head? = some bin := by
    rw [hargv]
    rfl
  refine ⟨adapter, hadapter, hid, ?_, ⟨bin, hbin, hhead⟩, hboarded⟩
  constructor
  · intro hsafe
    apply hprompt.1
    have hopts := hsafe.options
    have htexts := hsafe.data
    rw [hargv, List.tail_cons, hoptions, selectedOptions] at hopts
    rw [hargv, List.tail_cons, hdata, selectedData] at htexts
    exact ⟨List.append_cancel_left hopts, List.append_cancel_left htexts⟩
  · intro hsafe
    obtain ⟨hopts, htexts⟩ := hprompt.2 hsafe
    refine ⟨hhead.trans hbin.symm, ?_, ?_, hboarded⟩
    · rw [hargv, List.tail_cons, hoptions, hopts]
      rfl
    · rw [hargv, List.tail_cons, hdata, htexts]
      rfl

/-! ## Two prompts -/

namespace Demo

/-- A host with one boarded repository, and every agent installed in `/bin`. -/
def world : LaunchWorld :=
  { boarded := [js "/repo"]
    env := [(js "PATH", js "/home/me/.pherry/shims:/bin")]
    shims := js "/home/me/.pherry/shims"
    available := fun _ => true
    join := fun dir bin => dir ++ js "/" ++ bin
    isExecutable := fun path => js "/bin/" <+: path
    sha256 := fun _ => [0x81, 0x6f, 0xc3, 0x49, 0xd3, 0xfa, 0xeb, 0xf8, 0x05, 0xd1, 0xbe, 0xd7,
      0x0f, 0xce, 0x7e, 0x14, 0x75, 0x4c, 0xad, 0x52, 0x51, 0xc7, 0x7d, 0xda,
      0x31, 0xc4, 0x14, 0xee, 0x96, 0x1a, 0x0b, 0xdd]
    randomUUID := js "00000000-0000-4000-8000-000000000000" }

/-- A launch of Claude Code in the repository with this prompt. -/
def params (prompt : String) : LaunchStartParams :=
  { projectId := world.projectId (js "/repo")
    agentId := js "claude"
    modelId := some (js "opus")
    prompt := some (js prompt)
    cols := none
    rows := none }

/-- What the host spawns for it. -/
def spec (prompt : String) : SessionSpec :=
  { argv := [js "/bin/claude", js "--model", js "opus", js prompt]
    cwd := js "/repo"
    env := [(js "PATH", js "/bin"),
      (js "PHERRY_LOCAL_ID", js "00000000-0000-4000-8000-000000000000")]
    cols := 80
    rows := 24 }

end Demo

/-- A prompt that is an option: the agent reads it as one. -/
theorem not_unsmuggled_skipPermissions :
    launchStart Demo.world (Demo.params "--dangerously-skip-permissions")
        = some (Demo.spec "--dangerously-skip-permissions", js "claude:opus in repo") ∧
      ¬ Unsmuggled (agentCommandLine fun _ _ => true) Demo.world Adapters.claude
        (Demo.params "--dangerously-skip-permissions")
        (Demo.spec "--dangerously-skip-permissions") := by
  constructor
  · decide +kernel
  · intro h
    have hoptions := h.options
    revert hoptions
    decide +kernel

/-- A prompt that is text: the agent reads it as an operand. -/
theorem unsmuggled_text :
    ∃ adapter ∈ listAgents, adapter.id = js "claude" ∧
      Unsmuggled (agentCommandLine fun _ _ => true) Demo.world adapter
        (Demo.params "fix the tests") (Demo.spec "fix the tests") := by
  have hstart : launchStart Demo.world (Demo.params "fix the tests")
      = some (Demo.spec "fix the tests", js "claude:opus in repo") := by decide +kernel
  obtain ⟨adapter, hmem, hid, hiff, -⟩ := unsmuggled_iff (fun _ _ _ => true) hstart
  refine ⟨adapter, hmem, hid, hiff.2 fun arg text hpair => .inr ?_⟩
  have hclaude : adapter = Adapters.claude := by
    have hall : ∀ a ∈ listAgents, a.id = js "claude" → a = Adapters.claude := by decide
    exact hall adapter hmem hid
  rw [hclaude] at hpair
  have hprompt : promptPair Adapters.claude (Demo.params "fix the tests").prompt
      = some (.positional, js "fix the tests") := by decide
  rw [hprompt] at hpair
  obtain ⟨-, rfl⟩ := Prod.mk.inj (Option.some.inj hpair)
  decide

end Pherry.Cli
