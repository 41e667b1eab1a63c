import Mathlib.Data.List.Infix

/-!
# Deterministic machines and their runs

A machine is an initial state and a step function; a run is the list of events fed to it. The
rules below reduce a property of every run to a property of one step: `Machine.invariant` for all
runs, `Machine.invariant_of_meets` for the runs whose every step meets a condition on the state
before it and the event.
-/

namespace Pherry.Lib

/-- What holds of every place in a list and its last element: of its places before, and of the
last. -/
lemma forall_place_snoc {ε : Type*} {p : List ε → ε → Prop} {es : List ε} {e : ε} :
    (∀ pre f post, es ++ [e] = pre ++ f :: post → p pre f) ↔
      (∀ pre f post, es = pre ++ f :: post → p pre f) ∧ p es e := by
  constructor
  · intro h
    refine ⟨fun pre f post hes => ?_, h es e [] rfl⟩
    exact h pre f (post ++ [e]) (by rw [hes]; simp)
  · rintro ⟨hes, he⟩ pre f post hsnoc
    rcases List.eq_nil_or_concat post with rfl | ⟨post', g, rfl⟩
    · obtain ⟨rfl, hef⟩ := List.append_inj' hsnoc rfl
      cases hef
      exact he
    · rw [List.concat_eq_append, ← List.cons_append, ← List.append_assoc] at hsnoc
      obtain ⟨rfl, -⟩ := List.append_inj' hsnoc rfl
      exact hes pre f post' rfl

/-- A deterministic machine over states `σ` driven by events `ε`. -/
structure Machine (σ ε : Type*) where
  init : σ
  step : σ → ε → σ

namespace Machine

variable {σ ε : Type*} (m : Machine σ ε)

/-- The state after feeding `es` to a machine in state `s`. -/
def runFrom (s : σ) (es : List ε) : σ := es.foldl m.step s

/-- The state after the run `es`. -/
def run (es : List ε) : σ := m.runFrom m.init es

@[simp] lemma runFrom_nil (s : σ) : m.runFrom s [] = s := rfl

@[simp] lemma runFrom_cons (s : σ) (e : ε) (es : List ε) :
    m.runFrom s (e :: es) = m.runFrom (m.step s e) es := rfl

lemma runFrom_append (s : σ) (es fs : List ε) :
    m.runFrom s (es ++ fs) = m.runFrom (m.runFrom s es) fs := List.foldl_append

@[simp] lemma run_nil : m.run [] = m.init := rfl

lemma run_append (es fs : List ε) : m.run (es ++ fs) = m.runFrom (m.run es) fs :=
  m.runFrom_append m.init es fs

@[simp] lemma run_snoc (es : List ε) (e : ε) : m.run (es ++ [e]) = m.step (m.run es) e :=
  m.run_append es [e]

/-- Every step of the run meets `c`, a condition on the state before the step and its event. -/
def Meets (c : σ → ε → Prop) (es : List ε) : Prop :=
  ∀ pre e post, es = pre ++ e :: post → c (m.run pre) e

lemma meets_nil (c : σ → ε → Prop) : m.Meets c [] := by
  intro pre e post h
  simp at h

/-- A run meets a condition when its steps before the last do and its last step does. -/
lemma meets_snoc {c : σ → ε → Prop} {es : List ε} {e : ε} :
    m.Meets c (es ++ [e]) ↔ m.Meets c es ∧ c (m.run es) e :=
  forall_place_snoc

lemma Meets.prefix {c : σ → ε → Prop} {es fs : List ε} (h : m.Meets c (es ++ fs)) :
    m.Meets c es := by
  intro pre e post hes
  exact h pre e (post ++ fs) (by rw [hes]; simp)

lemma Meets.mono {c d : σ → ε → Prop} (hcd : ∀ s e, c s e → d s e) {es : List ε}
    (h : m.Meets c es) : m.Meets d es :=
  fun pre e post hes => hcd _ _ (h pre e post hes)

/-- A stretch of a run with a condition that holds behind each of its events. -/
def Through (p : σ → Prop) (pre es : List ε) : Prop :=
  ∀ part e rest, es = part ++ e :: rest → p (m.run (pre ++ part ++ [e]))

lemma through_nil (p : σ → Prop) (pre : List ε) : m.Through p pre [] := by
  intro part e rest h
  simp at h

lemma through_snoc {p : σ → Prop} {pre es : List ε} {e : ε} :
    m.Through p pre (es ++ [e]) ↔ m.Through p pre es ∧ p (m.run (pre ++ es ++ [e])) :=
  forall_place_snoc

variable {α : Type*}

/-- What `f` reads off each step of `es` from state `s`, in order. -/
def outputsFrom (f : σ → ε → List α) : σ → List ε → List α
  | _, [] => []
  | s, e :: es => f s e ++ outputsFrom f (m.step s e) es

/-- What `f` reads off the steps of a run. -/
def outputs (f : σ → ε → List α) (es : List ε) : List α := m.outputsFrom f m.init es

lemma outputsFrom_append (f : σ → ε → List α) (s : σ) (es fs : List ε) :
    m.outputsFrom f s (es ++ fs) = m.outputsFrom f s es ++ m.outputsFrom f (m.runFrom s es) fs := by
  induction es generalizing s with
  | nil => rfl
  | cons e es ih => simp only [List.cons_append, outputsFrom, ih, runFrom_cons, List.append_assoc]

lemma outputs_append (f : σ → ε → List α) (es fs : List ε) :
    m.outputs f (es ++ fs) = m.outputs f es ++ m.outputsFrom f (m.run es) fs :=
  m.outputsFrom_append f m.init es fs

@[simp] lemma outputs_snoc (f : σ → ε → List α) (es : List ε) (e : ε) :
    m.outputs f (es ++ [e]) = m.outputs f es ++ f (m.run es) e := by
  rw [outputs, outputsFrom_append, outputsFrom, outputsFrom, List.append_nil]
  rfl

/-- Check a condition at every step of `es` from state `s`. -/
def checks (c : σ → ε → Bool) : σ → List ε → Bool
  | _, [] => true
  | s, e :: es => c s e && checks c (m.step s e) es

lemma checks_append (c : σ → ε → Bool) (s : σ) (es fs : List ε) :
    m.checks c s (es ++ fs) = (m.checks c s es && m.checks c (m.runFrom s es) fs) := by
  induction es generalizing s with
  | nil => rfl
  | cons e es ih => simp only [List.cons_append, checks, ih, runFrom_cons, Bool.and_assoc]

lemma meets_of_checks {c : σ → ε → Bool} {es : List ε} (h : m.checks c m.init es = true) :
    m.Meets (fun s e => c s e = true) es := by
  intro pre e post hes
  rw [hes, checks_append, checks, Bool.and_eq_true, Bool.and_eq_true] at h
  exact h.2.1

/-- **Invariant rule.** What holds initially and is kept by every step holds after every run. -/
theorem invariant {p : σ → Prop} (hinit : p m.init) (hstep : ∀ s e, p s → p (m.step s e))
    (es : List ε) : p (m.run es) := by
  induction es using List.reverseRecOn with
  | nil => exact hinit
  | append_singleton es e ih => rw [run_snoc]; exact hstep _ _ ih

/-- **Conditional invariant rule.** What holds initially and is kept by every step that meets `c`
holds after every run whose steps all meet `c`. -/
theorem invariant_of_meets {p : σ → Prop} {c : σ → ε → Prop} (hinit : p m.init)
    (hstep : ∀ s e, c s e → p s → p (m.step s e)) {es : List ε} (hes : m.Meets c es) :
    p (m.run es) := by
  induction es using List.reverseRecOn with
  | nil => exact hinit
  | append_singleton es e ih =>
    obtain ⟨hpre, he⟩ := m.meets_snoc.1 hes
    rw [run_snoc]
    exact hstep _ _ he (ih hpre)

lemma history_invariant {p : List ε → σ → Prop} (hinit : p [] m.init)
    (hstep : ∀ es e, p es (m.run es) → p (es ++ [e]) (m.step (m.run es) e)) (es : List ε) :
    p es (m.run es) := by
  induction es using List.reverseRecOn with
  | nil => exact hinit
  | append_singleton es e ih => rw [run_snoc]; exact hstep _ _ ih

/-- **Conditional history rule.** As `history_invariant`, over the runs whose steps meet `c`. -/
theorem history_invariant_of_meets {p : List ε → σ → Prop} {c : σ → ε → Prop}
    (hinit : p [] m.init)
    (hstep : ∀ es e, c (m.run es) e → p es (m.run es) → p (es ++ [e]) (m.step (m.run es) e))
    {es : List ε} (hes : m.Meets c es) : p es (m.run es) := by
  induction es using List.reverseRecOn with
  | nil => exact hinit
  | append_singleton es e ih =>
    obtain ⟨hpre, he⟩ := m.meets_snoc.1 hes
    rw [run_snoc]
    exact hstep es e he (ih hpre)

lemma runFrom_of_step {p : σ → Prop} (hstep : ∀ s e, p s → p (m.step s e)) {s : σ} (hs : p s)
    (es : List ε) : p (m.runFrom s es) := by
  induction es generalizing s with
  | nil => exact hs
  | cons e es ih => exact ih (hstep s e hs)

end Machine

end Pherry.Lib
