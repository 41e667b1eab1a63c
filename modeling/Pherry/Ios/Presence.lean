import Mathlib.Data.List.Perm.Basic
import Pherry.Lib.Machine

/-!
# Presence at the door

The phone's presence session: one evaluation each time the app comes to the foreground, whose context signs
silently until the app leaves. What is held then must not outlive the foreground.
-/

namespace Pherry.Ios

open Lib

/-! ## The session -/

/-- An `LAContext`, by the order in which they are made: each evaluation makes its own. -/
abbrev LAContext := ℕ

/-- `PresenceSession`, with the contexts of the calls of `unlock` that await their evaluation, how many
contexts there are, and those that are invalidated. -/
structure PresenceSession where
  context : Option LAContext
  isUnlocked : Bool
  unlocking : Bool
  evaluating : List LAContext
  made : ℕ
  invalidated : List LAContext

namespace PresenceSession

/-- A new session. -/
def new : PresenceSession :=
  { context := none
    isUnlocked := false
    unlocking := false
    evaluating := []
    made := 0
    invalidated := [] }

/-- `unlock` up to its await. -/
def unlock (s : PresenceSession) (gated : Bool) : PresenceSession :=
  if gated && !s.isUnlocked && !s.unlocking then
    { s with
      unlocking := true
      evaluating := s.evaluating ++ [s.made]
      made := s.made + 1 }
  else s

/-- `unlock` behind its await. -/
def evaluated (s : PresenceSession) (i : ℕ) (granted : Bool) : PresenceSession :=
  match s.evaluating[i]? with
  | none => s
  | some made =>
    { s with
      evaluating := s.evaluating.eraseIdx i
      unlocking := false
      context := if granted then some made else none
      isUnlocked := granted }

/-- `lock`. -/
def lock (s : PresenceSession) : PresenceSession :=
  { s with
    invalidated := s.context.toList ++ s.invalidated
    context := none
    isUnlocked := false }

end PresenceSession

/-! ## The app -/

/-- A task that is to call `unlock`: that of a scene change or the launch, which reads the identity's mode,
or that of a rotation to a gated identity. -/
inductive UnlockTask
  | foreground
  | rotation

/-- `scenePhase`. -/
inductive ScenePhase
  | active
  | inactive
  | background
deriving DecidableEq

/-- The app, as far as presence goes: its session, whether its identity is presence-gated, the rotation that
waits for the user, the tasks that have not begun, and the signatures that are being made, each with what it
read from the context box. -/
structure PresenceApp where
  session : PresenceSession
  presenceGated : Bool
  pendingIdentityRotation : Option Bool
  tasks : List UnlockTask
  phase : ScenePhase
  signing : List (Option LAContext)

/-- What happens to the app. A rotation may be refused. -/
inductive PresenceEvent
  | launched
  | scene (phase : ScenePhase)
  | requestIdentityRotation (presenceGated : Bool)
  | cancelIdentityRotation
  | confirmIdentityRotation (rotated : Bool)
  | run (i : ℕ)
  | evaluated (i : ℕ) (granted : Bool)
  | beginSign
  | endSign (i : ℕ)

namespace PresenceApp

/-- `confirmIdentityRotation`. -/
def confirmIdentityRotation (s : PresenceApp) (rotated : Bool) : PresenceApp :=
  match s.pendingIdentityRotation with
  | none => s
  | some mode =>
    let s := { s with pendingIdentityRotation := none }
    if rotated then
      let s := { s with presenceGated := mode }
      if mode then { s with tasks := s.tasks ++ [.rotation] } else { s with session := s.session.lock }
    else s

/-- The handler of a scene change: a task for `presenceDidEnterForeground`, or `presenceDidLeaveForeground`. -/
def sceneChanged (s : PresenceApp) (phase : ScenePhase) : PresenceApp :=
  let s := { s with phase }
  match phase with
  | .active => { s with tasks := s.tasks ++ [.foreground] }
  | .background => { s with session := s.session.lock }
  | .inactive => s

/-- A task begins, and calls `unlock`. -/
def runTask (s : PresenceApp) (i : ℕ) : PresenceApp :=
  match s.tasks[i]? with
  | none => s
  | some task =>
    let gated := match task with
      | .foreground => s.presenceGated
      | .rotation => true
    { s with
      tasks := s.tasks.eraseIdx i
      session := s.session.unlock gated }

/-- One event. `beginSign` is `PresenceScopedSigner.sign` reading the box, `endSign` the enclave's answer. -/
def step (s : PresenceApp) : PresenceEvent → PresenceApp
  | .launched => { s with tasks := s.tasks ++ [.foreground] }
  | .scene phase => s.sceneChanged phase
  | .requestIdentityRotation mode => { s with pendingIdentityRotation := some mode }
  | .cancelIdentityRotation => { s with pendingIdentityRotation := none }
  | .confirmIdentityRotation rotated => s.confirmIdentityRotation rotated
  | .run i => s.runTask i
  | .evaluated i granted => { s with session := s.session.evaluated i granted }
  | .beginSign => { s with signing := s.signing ++ [s.session.context] }
  | .endSign i => { s with signing := s.signing.eraseIdx i }

/-- Whether the event calls `lock`. -/
def locks (s : PresenceApp) : PresenceEvent → Bool
  | .scene phase => phase = .background
  | .confirmIdentityRotation rotated => rotated && s.pendingIdentityRotation == some false
  | _ => false

/-- A signature that a held authorization would satisfy: its context is not invalidated. -/
def Satisfied (s : PresenceApp) (read : Option LAContext) : Prop :=
  ∃ held, read = some held ∧ held ∉ s.session.invalidated

end PresenceApp

/-- An app, and how many contexts there were when `lock` was last called. -/
structure Watched where
  app : PresenceApp
  lockedAt : ℕ

/-- An app that is launched in the foreground. -/
def presenceMachine (presenceGated : Bool) : Machine Watched PresenceEvent where
  init :=
    { app :=
        { session := .new
          presenceGated
          pendingIdentityRotation := none
          tasks := []
          phase := .active
          signing := [] }
      lockedAt := 0 }
  step w e :=
    { app := w.app.step e
      lockedAt := if w.app.locks e then w.app.session.made else w.lockedAt }

/-! ## What is held -/

/-- An authorization is held only by an evaluation begun since `lock` was last called, and none while the app is
in the background: neither would a signature begun now be satisfied, nor is one that is being made. -/
structure ForegroundOnly (w : Watched) : Prop where
  unlocked : w.app.session.isUnlocked = true → w.app.session.context.isSome = true
  since : ∀ held, w.app.session.context = some held → w.lockedAt ≤ held
  background : w.app.phase = .background →
    w.app.session.context = none ∧ ∀ read ∈ w.app.signing, ¬ w.app.Satisfied read

/-- An evaluation is granted in the foreground only, and without a `lock` since it began. -/
def grantedInTime (w : Watched) : PresenceEvent → Prop
  | .evaluated i true => ∀ made, w.app.session.evaluating[i]? = some made →
      w.app.phase ≠ .background ∧ w.lockedAt ≤ made
  | _ => True

/-- What holds in every run. -/
structure Coherent (w : Watched) : Prop where
  unlocked : w.app.session.isUnlocked = w.app.session.context.isSome
  alone : w.app.session.evaluating.length = if w.app.session.unlocking then 1 else 0
  waiting : w.app.session.unlocking = true → w.app.session.context = none
  signing : ∀ held, some held ∈ w.app.signing →
    w.app.session.context = some held ∨ held ∈ w.app.session.invalidated

section
variable {w w' : Watched}

lemma Coherent.of_same (hc : Coherent w) (hsession : w'.app.session = w.app.session)
    (hsigning : w'.app.signing = w.app.signing) : Coherent w' := by
  obtain ⟨hunlocked, halone, hwaiting, hreads⟩ := hc
  constructor <;> rw [hsession]
  · exact hunlocked
  · exact halone
  · exact hwaiting
  · rw [hsigning]
    exact hreads

/-- `lock` invalidates what it drops, so what a signature has read is invalidated with it. -/
lemma Coherent.lock (hc : Coherent w) (hsession : w'.app.session = w.app.session.lock)
    (hsigning : w'.app.signing = w.app.signing) : Coherent w' := by
  constructor <;> rw [hsession]
  · simp [PresenceSession.lock]
  · exact hc.alone
  · simp [PresenceSession.lock]
  · rw [hsigning]
    intro held hheld
    right
    simp only [PresenceSession.lock, List.mem_append, Option.mem_toList]
    exact hc.signing held hheld

lemma Coherent.unlock (hc : Coherent w) {gated : Bool}
    (hsession : w'.app.session = w.app.session.unlock gated)
    (hsigning : w'.app.signing = w.app.signing) : Coherent w' := by
  unfold PresenceSession.unlock at hsession
  split at hsession
  · rename_i hstarts
    simp only [Bool.and_eq_true, Bool.not_eq_true'] at hstarts
    obtain ⟨⟨-, hlocked⟩, hidle⟩ := hstarts
    have hnone : w.app.session.context = none := by
      have hunlocked := hc.unlocked
      rw [hlocked] at hunlocked
      simpa using hunlocked.symm
    have halone := hc.alone
    rw [hidle] at halone
    constructor <;> rw [hsession]
    · exact hc.unlocked
    · simpa using halone
    · intro _
      exact hnone
    · rw [hsigning]
      exact hc.signing
  · exact hc.of_same hsession hsigning

/-- A result is stored only where nothing is held: no context is dropped without being invalidated. -/
lemma Coherent.evaluated (hc : Coherent w) {i : ℕ} {granted : Bool}
    (hsession : w'.app.session = w.app.session.evaluated i granted)
    (hsigning : w'.app.signing = w.app.signing) : Coherent w' := by
  unfold PresenceSession.evaluated at hsession
  split at hsession
  · exact hc.of_same hsession hsigning
  · rename_i made hmade
    obtain ⟨hi, -⟩ := List.getElem?_eq_some_iff.1 hmade
    have halone := hc.alone
    have hunlocking : w.app.session.unlocking = true := by
      by_contra hidle
      rw [if_neg hidle] at halone
      omega
    rw [if_pos hunlocking] at halone
    have hnone := hc.waiting hunlocking
    constructor <;> rw [hsession]
    · cases granted <;> rfl
    · rw [List.length_eraseIdx_of_lt hi, halone]
      simp
    · simp
    · rw [hsigning]
      intro held hheld
      -- what was read before is invalidated already, since nothing was held
      rcases hc.signing held hheld with hcontext | hinvalid
      · rw [hnone] at hcontext
        simp at hcontext
      · exact Or.inr hinvalid

end

lemma coherent_init (gated : Bool) : Coherent (presenceMachine gated).init := by
  constructor <;> simp [presenceMachine, PresenceSession.new]

lemma Coherent.step (gated : Bool) {w : Watched} (hc : Coherent w) (e : PresenceEvent) :
    Coherent ((presenceMachine gated).step w e) := by
  cases e with
  | launched => exact hc.of_same rfl rfl
  | scene phase =>
    cases phase with
    | active => exact hc.of_same rfl rfl
    | inactive => exact hc.of_same rfl rfl
    | background => exact hc.lock rfl rfl
  | requestIdentityRotation mode => exact hc.of_same rfl rfl
  | cancelIdentityRotation => exact hc.of_same rfl rfl
  | confirmIdentityRotation rotated =>
    cases hpending : w.app.pendingIdentityRotation with
    | none =>
      apply hc.of_same <;> simp [presenceMachine, PresenceApp.step, PresenceApp.confirmIdentityRotation, hpending]
    | some mode =>
      cases rotated with
      | false =>
        apply hc.of_same <;> simp [presenceMachine, PresenceApp.step, PresenceApp.confirmIdentityRotation, hpending]
      | true =>
        cases mode with
        | true =>
          apply hc.of_same <;>
            simp [presenceMachine, PresenceApp.step, PresenceApp.confirmIdentityRotation, hpending]
        | false =>
          apply hc.lock <;> simp [presenceMachine, PresenceApp.step, PresenceApp.confirmIdentityRotation, hpending]
  | run i =>
    cases htask : w.app.tasks[i]? with
    | none => apply hc.of_same <;> simp [presenceMachine, PresenceApp.step, PresenceApp.runTask, htask]
    | some task =>
      obtain ⟨gated', hsession, hsigning⟩ : ∃ gated',
          (w.app.runTask i).session = w.app.session.unlock gated' ∧
            (w.app.runTask i).signing = w.app.signing := by
        rw [PresenceApp.runTask, htask]
        exact ⟨_, rfl, rfl⟩
      exact hc.unlock hsession hsigning
  | evaluated i granted => exact hc.evaluated rfl rfl
  | beginSign =>
    obtain ⟨hunlocked, halone, hwaiting, hreads⟩ := hc
    refine ⟨hunlocked, halone, hwaiting, ?_⟩
    intro held hheld
    rcases List.mem_append.1 hheld with hold | hnew
    · exact hreads held hold
    · exact Or.inl (List.mem_singleton.1 hnew).symm
  | endSign i =>
    obtain ⟨hunlocked, halone, hwaiting, hreads⟩ := hc
    exact ⟨hunlocked, halone, hwaiting, fun held hheld => hreads held (List.mem_of_mem_eraseIdx hheld)⟩

/-- In a coherent state nothing more is to be shown than where and since when the context is held. -/
lemma Coherent.foregroundOnly_iff {w : Watched} (hc : Coherent w) :
    ForegroundOnly w ↔ ∀ held, w.app.session.context = some held →
      w.lockedAt ≤ held ∧ w.app.phase ≠ .background := by
  constructor
  · intro hf held hheld
    refine ⟨hf.since held hheld, ?_⟩
    intro hbackground
    rw [(hf.background hbackground).1] at hheld
    simp at hheld
  · intro h
    refine ⟨?_, fun held hheld => (h held hheld).1, ?_⟩
    · intro hunlocked
      rw [← hc.unlocked, hunlocked]
    · intro hbackground
      have hnone : w.app.session.context = none := by
        cases hcontext : w.app.session.context with
        | none => rfl
        | some held => exact absurd hbackground (h held hcontext).2
      refine ⟨hnone, ?_⟩
      rintro read hread ⟨held, rfl, hvalid⟩
      rcases hc.signing held hread with hcontext | hinvalid
      · rw [hnone] at hcontext
        simp at hcontext
      · exact hvalid hinvalid

/-- What is held behind an event was held before, with no `lock` in between, or has just been granted. -/
lemma held_step (gated : Bool) {w : Watched} {e : PresenceEvent} {held : LAContext}
    (hheld : ((presenceMachine gated).step w e).app.session.context = some held) :
    ((presenceMachine gated).step w e).lockedAt = w.lockedAt ∧
    (w.app.session.context = some held ∧
        (((presenceMachine gated).step w e).app.phase = .background → w.app.phase = .background) ∨
      ∃ i, e = .evaluated i true ∧ w.app.session.evaluating[i]? = some held ∧
        ((presenceMachine gated).step w e).app.phase = w.app.phase) := by
  cases e with
  | launched => exact ⟨rfl, Or.inl ⟨hheld, id⟩⟩
  | scene phase =>
    cases phase with
    | active => exact ⟨rfl, Or.inl ⟨hheld, nofun⟩⟩
    | inactive => exact ⟨rfl, Or.inl ⟨hheld, nofun⟩⟩
    | background => simp [presenceMachine, PresenceApp.step, PresenceApp.sceneChanged, PresenceSession.lock] at hheld
  | requestIdentityRotation mode => exact ⟨rfl, Or.inl ⟨hheld, id⟩⟩
  | cancelIdentityRotation => exact ⟨rfl, Or.inl ⟨hheld, id⟩⟩
  | confirmIdentityRotation rotated =>
    cases hpending : w.app.pendingIdentityRotation with
    | none =>
      simp_all [presenceMachine, PresenceApp.step, PresenceApp.confirmIdentityRotation, PresenceApp.locks]
    | some mode =>
      cases rotated <;> cases mode <;>
      simp_all [presenceMachine, PresenceApp.step, PresenceApp.confirmIdentityRotation, PresenceApp.locks,
        PresenceSession.lock]
  | run i =>
    cases htask : w.app.tasks[i]? with
    | none => simp_all [presenceMachine, PresenceApp.step, PresenceApp.runTask, PresenceApp.locks]
    | some task =>
      simp only [presenceMachine, PresenceApp.step, PresenceApp.runTask, htask, PresenceApp.locks] at hheld ⊢
      unfold PresenceSession.unlock at hheld
      refine ⟨rfl, Or.inl ⟨?_, id⟩⟩
      cases task <;> dsimp only at hheld <;> split at hheld <;> exact hheld
  | evaluated i granted =>
    cases hmade : w.app.session.evaluating[i]? with
    | none => simp_all [presenceMachine, PresenceApp.step, PresenceSession.evaluated, PresenceApp.locks]
    | some made =>
      cases granted <;>
      simp_all [presenceMachine, PresenceApp.step, PresenceSession.evaluated, PresenceApp.locks]
  | beginSign => exact ⟨rfl, Or.inl ⟨hheld, id⟩⟩
  | endSign i => exact ⟨rfl, Or.inl ⟨hheld, id⟩⟩

/-- A grant is held behind it: it was in time if what is held there is as it should be. -/
lemma grantedInTime_of_foregroundOnly (gated : Bool) {w : Watched} {e : PresenceEvent}
    (hf : ForegroundOnly ((presenceMachine gated).step w e)) : grantedInTime w e := by
  unfold grantedInTime
  split
  · rename_i i
    intro made hmade
    have hheld : ((presenceMachine gated).step w (.evaluated i true)).app.session.context = some made := by
      simp [presenceMachine, PresenceApp.step, PresenceSession.evaluated, hmade]
    refine ⟨?_, hf.since made hheld⟩
    intro hbackground
    have hnone := (hf.background hbackground).1
    rw [hheld] at hnone
    simp at hnone
  · trivial

lemma ForegroundOnly.step (gated : Bool) {w : Watched} {e : PresenceEvent} (hc : Coherent w)
    (hf : ForegroundOnly w) (he : grantedInTime w e) : ForegroundOnly ((presenceMachine gated).step w e) := by
  rw [(hc.step gated e).foregroundOnly_iff]
  rw [hc.foregroundOnly_iff] at hf
  intro held hheld
  obtain ⟨hlock, ⟨hbefore, hphase⟩ | ⟨i, rfl, hmade, hphase⟩⟩ := held_step gated hheld
  · obtain ⟨hsince, hforeground⟩ := hf held hbefore
    exact ⟨hlock ▸ hsince, fun hbackground => hforeground (hphase hbackground)⟩
  · simp only [grantedInTime] at he
    obtain ⟨hforeground, hsince⟩ := he held hmade
    exact ⟨hlock ▸ hsince, hphase ▸ hforeground⟩

lemma foregroundOnly_run (gated : Bool) {es : List PresenceEvent}
    (hes : (presenceMachine gated).Meets grantedInTime es) : ForegroundOnly ((presenceMachine gated).run es) := by
  have hinv := (presenceMachine gated).invariant_of_meets (p := fun w => Coherent w ∧ ForegroundOnly w)
    ⟨coherent_init gated, (coherent_init gated).foregroundOnly_iff.2 (nofun)⟩
    (fun w e he ⟨hc, hf⟩ => ⟨hc.step gated e, hf.step gated hc he⟩) hes
  exact hinv.2

/-- What is held never outlives the foreground exactly when each evaluation that is granted is granted in the
foreground, and without a `lock` since it began. -/
theorem foregroundOnly_iff_grantedInTime (gated : Bool) (es : List PresenceEvent) :
    (∀ pre post, es = pre ++ post → ForegroundOnly ((presenceMachine gated).run pre)) ↔
      (presenceMachine gated).Meets grantedInTime es := by
  constructor
  · intro h pre e post hes
    have hbehind := h (pre ++ [e]) post (by simp [hes])
    rw [Machine.run_snoc] at hbehind
    exact grantedInTime_of_foregroundOnly gated hbehind
  · rintro h pre post rfl
    exact foregroundOnly_run gated ( Machine.Meets.prefix _ h)

/-- The app leaves while the user is being asked: the answer then unlocks the session in the background. -/
theorem not_foregroundOnly_answered :
    ¬ ForegroundOnly ((presenceMachine true).run
      [.launched, .run 0, .scene .background, .evaluated 0 true]) := by
  intro hf
  have hnone := (hf.background (by decide)).1
  revert hnone
  decide

end Pherry.Ios
