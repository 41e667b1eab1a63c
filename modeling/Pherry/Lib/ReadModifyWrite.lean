import Pherry.Lib.Concurrent
import Pherry.Lib.Machine

/-!
# Read, modify, write

Operations on one cell by any number of processes, each of which reads the cell in one step and
writes what it made of it in another. A write that finds the cell as its process read it acts like
the whole operation done at once: `ReadModifyWrite.invariant` is the invariant rule for runs of such
writes.
-/

namespace Pherry.Lib

/-- What an operation makes of the content it reads: nothing, as it fails or is done, or a new
content. -/
inductive Plan (σ : Type*)
  | fails
  | leaves
  | writes (next : σ)

namespace ReadModifyWrite

variable {σ ω : Type*}

/-- How far an operation has got; behind its read it holds what it read, and what it writes. -/
inductive Phase (σ : Type*)
  | begun
  | holding (seen next : σ)
  | ended

/-- An operation that has returned, and how many had when it began. -/
structure Done (ω : Type*) where
  op : ω
  began : ℕ

/-- An operation of a process. -/
structure Call (σ ω : Type*) where
  op : ω
  began : ℕ
  phase : Phase σ

/-- What a call is once it has returned. -/
def Call.done (c : Call σ ω) : Done ω := ⟨c.op, c.began⟩

/-- The cell, and the operations that have returned, in this order. -/
structure Cell (σ ω : Type*) where
  content : σ
  log : List (Done ω)

/-- The cell and the operations on it. -/
abbrev State (σ ω : Type*) := Concurrent (Cell σ ω) (Call σ ω)

/-- An operation begins, or takes its next step. -/
inductive Event (ω : Type*)
  | begin (op : ω)
  | read (i : ℕ)
  | write (i : ℕ)

/-- The read of a call. -/
def read (plan : ω → σ → Plan σ) (cell : Cell σ ω) (c : Call σ ω) : Cell σ ω × Call σ ω :=
  match c.phase with
  | .begun =>
    match plan c.op cell.content with
    | .fails => (cell, { c with phase := .ended })
    | .leaves => (⟨cell.content, cell.log ++ [c.done]⟩, { c with phase := .ended })
    | .writes next => (cell, { c with phase := .holding cell.content next })
  | _ => (cell, c)

/-- The write of a call. -/
def write (cell : Cell σ ω) (c : Call σ ω) : Cell σ ω × Call σ ω :=
  match c.phase with
  | .holding _ next => (⟨next, cell.log ++ [c.done]⟩, { c with phase := .ended })
  | _ => (cell, c)

/-- A step. -/
def react (plan : ω → σ → Plan σ) (s : State σ ω) : Event ω → State σ ω
  | .begin op => s.start ⟨op, s.shared.log.length, .begun⟩
  | .read i => s.advance i (read plan)
  | .write i => s.advance i write

/-- Any number of operations on a cell, in any order of their steps. -/
def machine (plan : ω → σ → Plan σ) (content : σ) : Machine (State σ ω) (Event ω) :=
  ⟨⟨⟨content, []⟩, []⟩, react plan⟩

/-- A write finds the cell as its process read it, and meets a condition. -/
def Fresh (cond : Cell σ ω → Done ω → Prop) (s : State σ ω) (e : Event ω) : Prop :=
  ∀ i c seen next, e = .write i → s.calls[i]? = some c → c.phase = .holding seen next →
    s.shared.content = seen ∧ cond s.shared c.done

/-! ## What a call holds -/

/-- A call that is to write has it from its operation. -/
def Planned (plan : ω → σ → Plan σ) (c : Call σ ω) : Prop :=
  ∀ seen next, c.phase = .holding seen next → plan c.op seen = .writes next

variable {plan : ω → σ → Plan σ} {cell : Cell σ ω} {c : Call σ ω}

lemma read_cases (plan : ω → σ → Plan σ) (cell : Cell σ ω) (c : Call σ ω) :
    (read plan cell c).1 = cell ∨
      plan c.op cell.content = .leaves ∧
        (read plan cell c).1 = ⟨cell.content, cell.log ++ [c.done]⟩ := by
  rw [read]
  split
  · split
    · exact Or.inl rfl
    · next hplan => exact Or.inr ⟨hplan, rfl⟩
    · exact Or.inl rfl
  · exact Or.inl rfl

lemma planned_read (h : Planned plan c) : Planned plan (read plan cell c).2 := by
  rw [read]
  split
  · split
    · intro seen next hphase
      cases hphase
    · intro seen next hphase
      cases hphase
    · next hplan =>
      intro seen next hphase
      cases hphase
      exact hplan
  · exact h

lemma planned_write (h : Planned plan c) : Planned plan (write cell c).2 := by
  rw [write]
  split
  · intro seen next hphase
    cases hphase
  · exact h

lemma write_cases (cell : Cell σ ω) (c : Call σ ω) :
    (write cell c).1 = cell ∨ ∃ seen next, c.phase = .holding seen next ∧
      (write cell c).1 = ⟨next, cell.log ++ [c.done]⟩ := by
  rw [write]
  split
  · next seen next hphase => exact Or.inr ⟨seen, next, hphase, rfl⟩
  · exact Or.inl rfl

lemma planned_run (plan : ω → σ → Plan σ) (content : σ) (es : List (Event ω)) :
    ∀ c ∈ ((machine plan content).run es).calls, Planned plan c := by
  refine (machine plan content).invariant
    (p := fun s : State σ ω => ∀ c ∈ s.calls, Planned plan c) ?_ ?_ es
  · intro c hc
    cases hc
  · intro s e h
    cases e with
    | begin op =>
      refine Concurrent.forall_start h ?_
      intro seen next hphase
      cases hphase
    | read i =>
      refine Concurrent.advance_induction (p := fun s => ∀ c ∈ s.calls, Planned plan c) h ?_
      intro c hc
      exact Concurrent.forall_set h (planned_read (h c (List.mem_of_getElem? hc)))
    | write i =>
      refine Concurrent.advance_induction (p := fun s => ∀ c ∈ s.calls, Planned plan c) h ?_
      intro c hc
      exact Concurrent.forall_set h (planned_write (h c (List.mem_of_getElem? hc)))

/-! ## Fresh writes -/

variable {cond : Cell σ ω → Done ω → Prop} {content : σ} {es : List (Event ω)} {e : Event ω}

/-- A step behind which the cell is another is one of an operation that is done at once. -/
lemma step_cases (h : Fresh cond ((machine plan content).run es) e) :
    ((machine plan content).run (es ++ [e])).shared = ((machine plan content).run es).shared ∨
      (∃ d : Done ω, plan d.op ((machine plan content).run es).shared.content = .leaves ∧
        ((machine plan content).run (es ++ [e])).shared =
          ⟨((machine plan content).run es).shared.content,
            ((machine plan content).run es).shared.log ++ [d]⟩) ∨
      ∃ i c next, e = .write i ∧ ((machine plan content).run es).calls[i]? = some c ∧
        cond ((machine plan content).run es).shared c.done ∧
        plan c.op ((machine plan content).run es).shared.content = .writes next ∧
        ((machine plan content).run (es ++ [e])).shared =
          ⟨next, ((machine plan content).run es).shared.log ++ [c.done]⟩ := by
  have hplanned := planned_run plan content es
  rw [Machine.run_snoc]
  generalize (machine plan content).run es = s at h hplanned ⊢
  have hreact : (machine plan content).step s e = react plan s e := rfl
  rw [hreact]
  cases e with
  | begin op => exact Or.inl rfl
  | read i =>
    cases hc : s.calls[i]? with
    | none =>
      have hsame : react plan s (.read i) = s := Concurrent.advance_of_none hc _
      exact Or.inl (by rw [hsame])
    | some c =>
      have hstep : (react plan s (.read i)).shared = (read plan s.shared c).1 :=
        congrArg Concurrent.shared (Concurrent.advance_of_some hc _)
      rw [hstep]
      rcases read_cases plan s.shared c with hsame | ⟨hleaves, hlogged⟩
      · exact Or.inl hsame
      · exact Or.inr (Or.inl ⟨c.done, hleaves, hlogged⟩)
  | write i =>
    cases hc : s.calls[i]? with
    | none =>
      have hsame : react plan s (.write i) = s := Concurrent.advance_of_none hc _
      exact Or.inl (by rw [hsame])
    | some c =>
      have hstep : (react plan s (.write i)).shared = (write s.shared c).1 :=
        congrArg Concurrent.shared (Concurrent.advance_of_some hc _)
      rw [hstep]
      rcases write_cases s.shared c with hsame | ⟨seen, next, hphase, hwritten⟩
      · exact Or.inl hsame
      · -- the cell is still what the call read
        obtain ⟨hseen, hcond⟩ := h i c seen next rfl hc hphase
        have hplan := hplanned c (List.mem_of_getElem? hc) seen next hphase
        refine Or.inr (Or.inr ⟨i, c, next, rfl, hc, hcond, ?_, hwritten⟩)
        rw [hseen]
        exact hplan

/-- **Invariant rule.** What holds of the cell at first, and is kept by every operation that is done
at once, holds after every run of fresh writes. -/
theorem invariant {p : Cell σ ω → Prop} (hinit : p ⟨content, []⟩)
    (hleaves : ∀ cell d, p cell → plan d.op cell.content = .leaves →
      p ⟨cell.content, cell.log ++ [d]⟩)
    (hwrites : ∀ cell d next, p cell → cond cell d → plan d.op cell.content = .writes next →
      p ⟨next, cell.log ++ [d]⟩)
    (hes : (machine plan content).Meets (Fresh cond) es) :
    p ((machine plan content).run es).shared := by
  induction es using List.reverseRecOn with
  | nil => exact hinit
  | append_singleton es e ih =>
    obtain ⟨hpre, he⟩ := (machine plan content).meets_snoc.1 hes
    have hbefore := ih hpre
    rcases step_cases he with hsame | ⟨d, hplan, hlogged⟩ | ⟨i, c, next, -, -, hcond, hplan, hwritten⟩
    · rw [hsame]
      exact hbefore
    · rw [hlogged]
      exact hleaves _ d hbefore hplan
    · rw [hwritten]
      exact hwrites _ c.done next hbefore hcond hplan

lemma run_alone (cond : Cell σ ω → Done ω → Prop) (es : List (Event ω)) (op : ω) {next : σ}
    (hplan : plan op ((machine plan content).run es).shared.content = .writes next) {n : ℕ}
    (hn : ((machine plan content).run es).calls.length = n) :
    ((machine plan content).run (es ++ [.begin op] ++ [.read n] ++ [.write n])).shared =
        ⟨next, ((machine plan content).run es).shared.log ++
          [⟨op, ((machine plan content).run es).shared.log.length⟩]⟩ ∧
      ((machine plan content).run (es ++ [.begin op] ++ [.read n] ++ [.write n])).calls =
        ((machine plan content).run es).calls ++
          [⟨op, ((machine plan content).run es).shared.log.length, .ended⟩] ∧
      ((machine plan content).Meets (Fresh cond) es →
        cond ((machine plan content).run es).shared
          ⟨op, ((machine plan content).run es).shared.log.length⟩ →
        (machine plan content).Meets (Fresh cond) (es ++ [.begin op] ++ [.read n] ++ [.write n])) := by
  subst hn
  set s := (machine plan content).run es with hs
  have hbegun : (machine plan content).run (es ++ [.begin op]) =
      s.start ⟨op, s.shared.log.length, .begun⟩ := by
    rw [Machine.run_snoc]
    rfl
  have hread : (machine plan content).run (es ++ [.begin op] ++ [.read s.calls.length]) =
      ⟨s.shared, s.calls ++ [⟨op, s.shared.log.length, .holding s.shared.content next⟩]⟩ := by
    rw [Machine.run_snoc, hbegun]
    show Concurrent.advance _ _ _ = _
    have hlast : (s.start ⟨op, s.shared.log.length, .begun⟩).calls[s.calls.length]? =
        some ⟨op, s.shared.log.length, .begun⟩ := by simp [Concurrent.start]
    rw [Concurrent.advance_of_some hlast]
    simp [Concurrent.start, read, hplan]
  have hcall : ((machine plan content).run (es ++ [.begin op] ++ [.read s.calls.length])).calls[
      s.calls.length]? = some ⟨op, s.shared.log.length, .holding s.shared.content next⟩ := by
    rw [hread]
    simp
  have hwritten : (machine plan content).run
      (es ++ [.begin op] ++ [.read s.calls.length] ++ [.write s.calls.length]) =
      ⟨⟨next, s.shared.log ++ [⟨op, s.shared.log.length⟩]⟩,
        s.calls ++ [⟨op, s.shared.log.length, .ended⟩]⟩ := by
    rw [Machine.run_snoc]
    show Concurrent.advance _ _ _ = _
    rw [Concurrent.advance_of_some hcall, hread]
    simp [write, Call.done]
  refine ⟨by rw [hwritten], by rw [hwritten], fun hes hcond => ?_⟩
  rw [Machine.meets_snoc, Machine.meets_snoc, Machine.meets_snoc]
  refine ⟨⟨⟨hes, ?_⟩, ?_⟩, ?_⟩
  · intro i c seen next' he
    cases he
  · intro i c seen next' he
    cases he
  · intro i c seen next' he hc hphase
    cases he
    rw [hcall] at hc
    cases hc
    cases hphase
    rw [hread]
    exact ⟨rfl, hcond⟩

end ReadModifyWrite

end Pherry.Lib
