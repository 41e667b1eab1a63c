import Pherry.Protocol.Launch
import Pherry.Protocol.Methods
import Pherry.Protocol.Schema

/-!
# Results

The result schema of each method, and the results that the host builds, as JSON.
-/

namespace Pherry.Protocol

/-! ## Result schemas -/

namespace Schema

/-- `z.string().min(least).max(most)`. -/
def text (least most : ℕ) : Schema := string fun s => decide (lengthWithin least most s)

/-- `z.string().min(1)`. -/
def nonempty : Schema := string fun s => s ≠ []

/-- `SessionRef`. -/
def sessionRef : Schema := string (matchesId (js "sref"))

/-- `StreamId`. -/
def streamId : Schema := int 0 (some 0xFFFFFFFF)

/-- `Ack`. -/
def ack : Schema := object [(js "ok", required literalTrue)]

/-- `MirrorStreamAck`. -/
def mirrorStreamAck : Schema :=
  object [(js "streamId", required streamId), (js "snapshotSeq", required (int 0 none))]

/-- `CustodyReservation`. -/
def custodyReservation : Schema :=
  object [(js "sessionRef", required sessionRef), (js "expiresAt", required (int 0 none))]

/-- `SessionInfo`. -/
def sessionInfo : Schema :=
  object [(js "cols", required (int 1 (some 1000))), (js "rows", required (int 1 (some 1000))),
    (js "sessionRef", required sessionRef), (js "argv", required (array nonempty 1 none)),
    (js "cwd", required nonempty), (js "subscribers", required (int 0 none))]

/-- `SessionList`. -/
def sessionList : Schema := object [(js "sessions", required (array sessionInfo 0 none))]

/-- `LaunchProject`. -/
def launchProject : Schema :=
  object [(js "id", required (text 1 64)), (js "name", required (text 1 128)),
    (js "path", required (text 1 1024))]

/-- `LaunchModel`. -/
def launchModel : Schema :=
  object [(js "id", required (text 1 64)), (js "name", required (text 1 128))]

/-- `LaunchAgent`. -/
def launchAgent : Schema :=
  object [(js "id", required (text 1 32)), (js "name", required (text 1 64)),
    (js "models", required (array launchModel 0 (some 32))),
    (js "promptSupported", optional boolean)]

/-- `LaunchOptions`. -/
def launchOptions : Schema :=
  object [(js "projects", required (array launchProject 0 (some 256))),
    (js "agents", required (array launchAgent 0 (some 32)))]

/-- `LaunchStartResult`, and `SpawnResult`. -/
def launchStartResult : Schema := object [(js "sessionRef", required sessionRef)]

end Schema

/-- `METHODS[method].result`. -/
def Method.result : Method → Schema
  | subscribe => .mirrorStreamAck
  | unsubscribe => .ack
  | input => .ack
  | resize => .ack
  | approve => .ack
  | spawn => .launchStartResult
  | raise => .ack
  | reserve => .custodyReservation
  | claim => .ack
  | list => .sessionList
  | options => .launchOptions
  | start => .launchStartResult

/-! ## Results as JSON -/

def LaunchProject.toJson (p : LaunchProject) : Json :=
  .obj [(js "id", .str p.id), (js "name", .str p.name), (js "path", .str p.path)]

def LaunchModel.toJson (m : LaunchModel) : Json :=
  .obj [(js "id", .str m.id), (js "name", .str m.name)]

def LaunchAgent.toJson (a : LaunchAgent) : Json :=
  .obj ([(js "id", .str a.id), (js "name", .str a.name),
      (js "models", .arr (a.models.map LaunchModel.toJson))] ++
    match a.promptSupported with
    | some supported => [(js "promptSupported", .bool supported)]
    | none => [])

def LaunchOptions.toJson (o : LaunchOptions) : Json :=
  .obj [(js "projects", .arr (o.projects.map LaunchProject.toJson)),
    (js "agents", .arr (o.agents.map LaunchAgent.toJson))]

/-- A session in a listing. -/
structure SessionInfo where
  sessionRef : SessionRef
  argv : List JsString
  cwd : JsString
  cols : ℕ
  rows : ℕ
  subscribers : ℕ

def SessionInfo.toJson (i : SessionInfo) : Json :=
  .obj [(js "sessionRef", .str i.sessionRef.1), (js "argv", .arr (i.argv.map .str)),
    (js "cwd", .str i.cwd), (js "cols", .int i.cols), (js "rows", .int i.rows),
    (js "subscribers", .int i.subscribers)]

/-- What the schema of a listed session asks of it. -/
structure SessionInfo.Valid (i : SessionInfo) : Prop where
  argv : ∀ arg ∈ i.argv, arg ≠ []
  command : i.argv ≠ []
  cwd : i.cwd ≠ []
  cols : 1 ≤ i.cols ∧ i.cols ≤ 1000
  rows : 1 ≤ i.rows ∧ i.rows ≤ 1000

/-- The result of `custody.reserve`. -/
def reservationResult (ref : SessionRef) (expiresAt : ℕ) : Json :=
  .obj [(js "sessionRef", .str ref.1), (js "expiresAt", .int expiresAt)]

/-- The result of `launch.start`. -/
def launchStartResult (ref : SessionRef) : Json := .obj [(js "sessionRef", .str ref.1)]

/-! ## What the schemas accept -/

namespace Schema

variable {least : ℕ} {most : Option ℕ}

lemma int_int (n : ℕ) :
    int least most (.int n) = (decide (least ≤ n) && most.all fun m => decide (n ≤ m)) := by
  rw [Json.int, int, natural_js, Option.any_some]

lemma text_str (most : ℕ) (s : JsString) :
    text least most (.str s) = true ↔ lengthWithin least most s := decide_eq_true_iff

lemma sessionRef_str (ref : SessionRef) : sessionRef (.str ref.1) = true := ref.2

lemma array_map {α : Type*} (item : Schema) (toJson : α → Json) (l : List α) :
    array item least most (.arr (l.map toJson)) = true ↔
      (∀ a ∈ l, item (toJson a) = true) ∧ least ≤ l.length ∧ ∀ m ∈ most, l.length ≤ m := by
  rw [array, Bool.and_eq_true, Bool.and_eq_true, List.all_map, List.all_eq_true, List.length_map,
    decide_eq_true_eq, and_assoc]
  cases most <;> simp

lemma launchProject_toJson (p : LaunchProject) :
    launchProject p.toJson = true ↔ p.Valid := by
  have hfields : launchProject p.toJson =
      (text 1 64 (.str p.id) && (text 1 128 (.str p.name) && (text 1 1024 (.str p.path) && true))) :=
    rfl
  rw [hfields, Bool.and_true, Bool.and_eq_true, Bool.and_eq_true, text_str, text_str, text_str]
  rfl

lemma launchModel_toJson (m : LaunchModel) : launchModel m.toJson = true ↔ m.Valid := by
  have hfields : launchModel m.toJson =
      (text 1 64 (.str m.id) && (text 1 128 (.str m.name) && true)) := rfl
  rw [hfields, Bool.and_true, Bool.and_eq_true, text_str, text_str]
  rfl

lemma launchAgent_toJson (a : LaunchAgent) : launchAgent a.toJson = true ↔ a.Valid := by
  have hfields : launchAgent a.toJson = (text 1 32 (.str a.id) && (text 1 64 (.str a.name) &&
      (array launchModel 0 (some 32) (.arr (a.models.map LaunchModel.toJson)) && true))) := by
    obtain ⟨id, name, models, supported⟩ := a
    cases supported <;> rfl
  rw [hfields, Bool.and_true, Bool.and_eq_true, Bool.and_eq_true, text_str, text_str, array_map]
  simp only [launchModel_toJson, Nat.zero_le, true_and, Option.mem_some_iff, forall_eq']
  rfl

/-- The controller takes the options of a host when they keep the bounds of the schema. -/
lemma launchOptions_toJson (o : LaunchOptions) : launchOptions o.toJson = true ↔ o.Valid := by
  have hfields : launchOptions o.toJson =
      (array launchProject 0 (some 256) (.arr (o.projects.map LaunchProject.toJson)) &&
        (array launchAgent 0 (some 32) (.arr (o.agents.map LaunchAgent.toJson)) && true)) := rfl
  rw [hfields, Bool.and_true, Bool.and_eq_true, array_map, array_map]
  simp only [launchProject_toJson, launchAgent_toJson, Nat.zero_le, true_and, Option.mem_some_iff, forall_eq']
  exact and_assoc

lemma sessionInfo_toJson {i : SessionInfo} (h : i.Valid) : sessionInfo i.toJson = true := by
  have hfields : sessionInfo i.toJson = (int 1 (some 1000) (.int i.cols) &&
      (int 1 (some 1000) (.int i.rows) && (sessionRef (.str i.sessionRef.1) &&
        (array nonempty 1 none (.arr (i.argv.map .str)) && (nonempty (.str i.cwd) &&
          (int 0 none (.int i.subscribers) && true)))))) := rfl
  have hargv : array nonempty 1 none (.arr (i.argv.map .str)) = true := by
    refine (array_map _ _ _).2 ⟨fun arg harg => decide_eq_true (h.argv arg harg), ?_, nofun⟩
    exact List.length_pos_iff.2 h.command
  have hcwd : nonempty (.str i.cwd) = true := decide_eq_true h.cwd
  rw [hfields, int_int, int_int, int_int, sessionRef_str, hargv, hcwd]
  simp [h.cols, h.rows]

lemma sessionList_toJson {infos : List SessionInfo} (h : ∀ i ∈ infos, i.Valid) :
    sessionList (.obj [(js "sessions", .arr (infos.map SessionInfo.toJson))]) = true := by
  have hinfos : array sessionInfo 0 none (.arr (infos.map SessionInfo.toJson)) = true :=
    (array_map _ _ _).2 ⟨fun i hi => sessionInfo_toJson (h i hi), Nat.zero_le _, nofun⟩
  have hfields : sessionList (.obj [(js "sessions", .arr (infos.map SessionInfo.toJson))]) =
      (array sessionInfo 0 none (.arr (infos.map SessionInfo.toJson)) && true) := rfl
  rw [hfields, hinfos]
  rfl

lemma custodyReservation_toJson (ref : SessionRef) (expiresAt : ℕ) :
    custodyReservation (reservationResult ref expiresAt) = true := by
  have hfields : custodyReservation (reservationResult ref expiresAt) =
      (sessionRef (.str ref.1) && (int 0 none (.int expiresAt) && true)) := rfl
  rw [hfields, sessionRef_str, int_int]
  rfl

lemma launchStartResult_toJson (ref : SessionRef) :
    launchStartResult (Protocol.launchStartResult ref) = true := by
  have hfields : launchStartResult (Protocol.launchStartResult ref) =
      (sessionRef (.str ref.1) && true) := rfl
  rw [hfields, sessionRef_str]
  rfl

lemma mirrorStreamAck_iff (streamId seq : ℕ) :
    mirrorStreamAck (.obj [(js "streamId", .int streamId), (js "snapshotSeq", .int seq)]) = true ↔
      streamId < 2 ^ 32 := by
  have hfields :
      mirrorStreamAck (.obj [(js "streamId", .int streamId), (js "snapshotSeq", .int seq)]) =
        (int 0 (some 0xFFFFFFFF) (.int streamId) && (int 0 none (.int seq) && true)) := rfl
  rw [hfields, int_int, int_int]
  simp
  omega

end Schema

end Pherry.Protocol
