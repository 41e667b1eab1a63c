import Mathlib.Data.Int.Notation
import Pherry.Js

/-!
# The launch schemas

The wire shapes of `launch.options` and `launch.start`, and what their schemas admit. The length of
a string is the number of its code units.
-/

namespace Pherry.Protocol

/-- `z.string().min(least).max(most)`. -/
def lengthWithin (least most : ℕ) (s : JsString) : Prop := least ≤ s.length ∧ s.length ≤ most

instance (least most : ℕ) (s : JsString) : Decidable (lengthWithin least most s) :=
  inferInstanceAs (Decidable (_ ∧ _))

/-- `schema.optional()`. -/
def optionally {α : Type*} (schema : α → Prop) (value : Option α) : Prop :=
  ∀ x, value = some x → schema x

/-- One project a host offers to launch in. -/
structure LaunchProject where
  id : JsString
  name : JsString
  path : JsString

def LaunchProject.Valid (p : LaunchProject) : Prop :=
  lengthWithin 1 64 p.id ∧ lengthWithin 1 128 p.name ∧ lengthWithin 1 1024 p.path

/-- One model an agent offers. -/
structure LaunchModel where
  id : JsString
  name : JsString

def LaunchModel.Valid (m : LaunchModel) : Prop := lengthWithin 1 64 m.id ∧ lengthWithin 1 128 m.name

/-- One agent a host offers. -/
structure LaunchAgent where
  id : JsString
  name : JsString
  models : List LaunchModel
  promptSupported : Option Bool

def LaunchAgent.Valid (a : LaunchAgent) : Prop :=
  lengthWithin 1 32 a.id ∧ lengthWithin 1 64 a.name ∧ (∀ m ∈ a.models, m.Valid) ∧
    a.models.length ≤ 32

/-- The reply to `launch.options`. -/
structure LaunchOptions where
  projects : List LaunchProject
  agents : List LaunchAgent

def LaunchOptions.Valid (o : LaunchOptions) : Prop :=
  (∀ p ∈ o.projects, p.Valid) ∧ o.projects.length ≤ 256 ∧ (∀ a ∈ o.agents, a.Valid) ∧
    o.agents.length ≤ 32

/-- The params of `launch.start`. -/
structure LaunchStartParams where
  projectId : JsString
  agentId : JsString
  modelId : Option JsString
  prompt : Option JsString
  cols : Option ℤ
  rows : Option ℤ

def LaunchStartParams.Valid (p : LaunchStartParams) : Prop :=
  lengthWithin 1 64 p.projectId ∧ lengthWithin 1 32 p.agentId ∧
    optionally (lengthWithin 1 64) p.modelId ∧ optionally (lengthWithin 0 4096) p.prompt ∧
    optionally (fun n : ℤ => 2 ≤ n ∧ n ≤ 500) p.cols ∧
    optionally (fun n : ℤ => 2 ≤ n ∧ n ≤ 500) p.rows

end Pherry.Protocol
