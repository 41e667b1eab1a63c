import Pherry.Host.ViewerSteps

/-!
# Whether a viewer is attended

`Attended` is the invariant of a served connection towards one session: a viewer whose viewport is
recorded belongs to an open connection that has noted the session as touched, or is about to. Every
step keeps it where a connection does not close over a record.
-/

namespace Pherry.Host

open Lib Channel Protocol

/-- A running handler that records nothing for the session any more, but in a session that is noted
as touched. -/
def Stage.spent (ref : SessionRef) (touched : List SessionRef) : Stage → Bool
  | .calling call left =>
    !left.any (Todo.records ref) && (!call.records ref || decide (ref ∈ touched))
  | .returning _ => true

namespace Serve

variable {o : ServeOptions} {ref : SessionRef}

/-! ## Departures, and what they rely on -/

/-- The call that the innermost code is in, with what the handler has left behind it. -/
def called (s : Serve) : Option (Todo × List Todo) :=
  match s.handles, s.stack with
  | true, (_, .calling call left) :: _ => some (call, left)
  | _, _ => none

/-- The viewer unsubscribes from the session, and not to subscribe again. -/
def departs (ref : SessionRef) (s : Serve) : ServeEvent → Bool
  | .returned (.ok _) =>
    s.called.any fun c => c.1.isCall ref .unsubscribe && !c.2.any (Todo.isCall ref .subscribe)
  | _ => false

/-- The connection closes. -/
def closes (o : ServeOptions) (s : Serve) (e : ServeEvent) : Bool :=
  !s.gate.closed && (s.react o e).1.gate.closed

/-- A connection closes over handlers that record nothing any more, and a record that throws is of a
session that is noted as touched. -/
def heeds (o : ServeOptions) (ref : SessionRef) (s : Serve) : ServeEvent → Bool
  | .gate e =>
    !s.closes o (.gate e) ||
      ((Gate.behind e s.gate.calls).all (fun call => decide (call = .handle [])) &&
        s.stack.all fun frame => frame.2.spent ref s.touched)
  | .returned (.error _) =>
    s.called.all fun c => !c.1.records ref || s.gate.closed || decide (ref ∈ s.touched)
  | _ => true

/-! ## The invariant -/

/-- A call that a handler is in, with what it has left. -/
def Running (s : Serve) (call : Todo) (left : List Todo) : Prop :=
  ∃ h, (h, Stage.calling call left) ∈ s.stack

/-- A viewer that is recorded for the session belongs to an open connection, which has noted the
session as touched or is recording it. A closed connection records nothing any more. -/
structure Attended (ref : SessionRef) (recorded : Prop) (s : Serve) : Prop where
  entries : ∀ call left, s.Running call left → entry ref call left = true
  distinct : s.touched.Nodup
  live : recorded → s.gate.closed = false
  held : recorded → ref ∈ s.touched ∨ ∃ call left, s.Running call left ∧ call.records ref = true
  dead : s.gate.closed = true →
    s.gate.Spent ∧ ∀ call left, s.Running call left → left.any (Todo.records ref) = false

lemma attended_init (ref : SessionRef) (sessionId : Bytes) :
    Attended ref False (.init sessionId) where
  entries call left h := by
    obtain ⟨_, hmem⟩ := h
    cases hmem
  distinct := List.nodup_nil
  live h := h.elim
  held h := h.elim
  dead h := Bool.noConfusion h

lemma Attended.congr {recorded recorded' : Prop} {s : Serve} (h : Attended ref recorded s)
    (hiff : recorded ↔ recorded') : Attended ref recorded' s :=
  ⟨h.entries, h.distinct, fun hr => h.live (hiff.2 hr), fun hr => h.held (hiff.2 hr), h.dead⟩

lemma Attended.shrink {recorded recorded' : Prop} {s t : Serve} (h : Attended ref recorded s)
    (hgate : t.gate = s.gate) (hrunning : ∀ call left, t.Running call left → s.Running call left)
    (hdistinct : t.touched.Nodup) (hmono : recorded' → recorded)
    (hheld : recorded' → ref ∈ t.touched ∨ ∃ call left, t.Running call left ∧ call.records ref = true) :
    Attended ref recorded' t where
  entries call left hr := h.entries call left (hrunning call left hr)
  distinct := hdistinct
  live hrecorded := by
    rw [hgate]
    exact h.live (hmono hrecorded)
  held := hheld
  dead hclosed := by
    rw [hgate] at hclosed ⊢
    obtain ⟨hspent, hfree⟩ := h.dead hclosed
    exact ⟨hspent, fun call left hr => hfree call left (hrunning call left hr)⟩

/-- What a step does to the session, and whether the viewer is recorded behind it. -/
inductive SeenBy (o : ServeOptions) (ref : SessionRef) (recorded : Prop) (s : Serve) (e : ServeEvent) :
    Prop
  | still (hcalls : callsOf ref (s.react o e).2 = [])
      (hstays : s.departs ref e = false ∧ s.closes o e = false)
      (hattended : Attended ref recorded (s.react o e).1)
  | recorded (op : SessionOp) (hop : op.records = true)
      (hcalls : callsOf ref (s.react o e).2 = [op])
      (hstays : s.departs ref e = false ∧ s.closes o e = false)
      (hattended : Attended ref True (s.react o e).1)
  | departed (hcalls : callsOf ref (s.react o e).2 = [.releaseViewer])
      (hdeparts : s.departs ref e = true ∨ s.closes o e = true)
      (hattended : Attended ref False (s.react o e).1)
  | absent (hcalls : callsOf ref (s.react o e).2 = [] ∨ callsOf ref (s.react o e).2 = [.releaseViewer])
      (habsent : ¬ recorded) (hattended : Attended ref False (s.react o e).1)

/-! ## The steps keep the invariant -/

lemma viewing_of {call : Todo} (h : call.isCall ref .releaseViewer = false) :
    (call.viewing ref = [] ∧ call.records ref = false) ∨
      ∃ op : SessionOp, op.records = true ∧ call.viewing ref = [op] ∧ call.records ref = true := by
  cases call with
  | session r op =>
    by_cases hr : r = ref
    · cases op with
      | observeViewer size =>
        refine .inr ⟨.observeViewer size, rfl, ?_, ?_⟩
        · simp [Todo.viewing, hr, SessionOp.concerns, SessionOp.records]
        · simp [Todo.records, hr, SessionOp.records]
      | resizeViewer size =>
        refine .inr ⟨.resizeViewer size, rfl, ?_, ?_⟩
        · simp [Todo.viewing, hr, SessionOp.concerns, SessionOp.records]
        · simp [Todo.records, hr, SessionOp.records]
      | releaseViewer => simp [Todo.isCall, hr] at h
      | _ => exact .inl (by simp [Todo.viewing, Todo.records, SessionOp.concerns, SessionOp.records])
    · exact .inl (by simp [Todo.viewing, Todo.records, hr])
  | _ => exact .inl ⟨rfl, rfl⟩

lemma running_cons_returning {s t : Serve} {h : Handler} {ok : Bool}
    (hstack : t.stack = (h, .returning ok) :: s.stack) {call : Todo} {left : List Todo}
    (hr : t.Running call left) : s.Running call left := by
  obtain ⟨h', hmem⟩ := hr
  rw [hstack, List.mem_cons] at hmem
  rcases hmem with heq | hmem
  · cases heq
  · exact ⟨h', hmem⟩

lemma Running.of_stack {s t : Serve} (hstack : t.stack = s.stack) {call : Todo} {left : List Todo}
    (hr : t.Running call left) : s.Running call left := by
  obtain ⟨h, hmem⟩ := hr
  exact ⟨h, hstack ▸ hmem⟩

lemma Ran.attended {free recorded : Prop} {s : Serve} {r : Serve × List ServeEffect}
    (hran : Ran ref free s r) (h : Attended ref recorded s) (hfree : s.gate.closed = true → free) :
    (callsOf ref r.2 = [] ∧ Attended ref recorded r.1) ∨
      ∃ op : SessionOp, op.records = true ∧ callsOf ref r.2 = [op] ∧ Attended ref True r.1 := by
  have hdistinct := hran.distinct h.distinct
  cases hran.halted with
  | idle hstack hcalls =>
    have hrunning : ∀ call left, r.1.Running call left ↔ s.Running call left := by
      intro call left
      rcases hstack with hstack | ⟨handler, ok, hstack⟩
      · exact ⟨fun hr => hr.of_stack hstack, fun hr => hr.of_stack hstack.symm⟩
      · refine ⟨fun hr => running_cons_returning hstack hr, fun ⟨h', hmem⟩ => ⟨h', ?_⟩⟩
        rw [hstack]
        exact List.mem_cons_of_mem _ hmem
    refine .inl ⟨hcalls, h.shrink hran.gate (fun call left hr => (hrunning call left).1 hr)
      hdistinct id fun hrecorded => ?_⟩
    rcases h.held hrecorded with htouched | ⟨call, left, hr, hrecords⟩
    · exact .inl (hran.touched _ htouched)
    · exact .inr ⟨call, left, (hrunning call left).2 hr, hrecords⟩
  | called handler call left hstack hentry hcalls hrelease hnone =>
    have hrunning : ∀ call' left', r.1.Running call' left' ↔
        (call' = call ∧ left' = left) ∨ s.Running call' left' := by
      intro call' left'
      simp only [Running, hstack, List.mem_cons, Prod.mk.injEq, Stage.calling.injEq]
      constructor
      · rintro ⟨h', ⟨-, hcall, hleft⟩ | hmem⟩
        · exact .inl ⟨hcall, hleft⟩
        · exact .inr ⟨h', hmem⟩
      · rintro (⟨hcall, hleft⟩ | ⟨h', hmem⟩)
        · exact ⟨handler, .inl ⟨rfl, hcall, hleft⟩⟩
        · exact ⟨h', .inr hmem⟩
    have hentries : ∀ call' left', r.1.Running call' left' → entry ref call' left' = true := by
      intro call' left' hr
      rcases (hrunning call' left').1 hr with ⟨rfl, rfl⟩ | hold
      · exact hentry
      · exact h.entries call' left' hold
    have hdead : r.1.gate.closed = true →
        r.1.gate.Spent ∧ ∀ call' left', r.1.Running call' left' →
          left'.any (Todo.records ref) = false := by
      rw [hran.gate]
      intro hclosed
      obtain ⟨hspent, hlefts⟩ := h.dead hclosed
      refine ⟨hspent, fun call' left' hr => ?_⟩
      rcases (hrunning call' left').1 hr with ⟨-, rfl⟩ | hold
      · exact (hnone (hfree hclosed)).2
      · exact hlefts call' left' hold
    rcases viewing_of hrelease with ⟨hviewing, -⟩ | ⟨op, hop, hviewing, hrecords⟩
    · refine .inl ⟨hcalls.trans hviewing, hentries, hdistinct, fun hrecorded => ?_, fun hrecorded => ?_,
        hdead⟩
      · rw [hran.gate]
        exact h.live hrecorded
      · rcases h.held hrecorded with htouched | ⟨call', left', hr, hrecords⟩
        · exact .inl (hran.touched _ htouched)
        · exact .inr ⟨call', left', (hrunning call' left').2 (.inr hr), hrecords⟩
    · refine .inr ⟨op, hop, hcalls.trans hviewing, hentries, hdistinct, fun _ => ?_, fun _ => ?_, hdead⟩
      · -- a closed connection has nothing to record
        rw [hran.gate, Bool.eq_false_iff]
        intro hclosed
        have hnot := (hnone (hfree hclosed)).1
        rw [hrecords] at hnot
        cases hnot
      · exact .inr ⟨call, left, (hrunning call left).2 (.inl ⟨rfl, rfl⟩), hrecords⟩

lemma Ran.seen (free : Prop) {recorded : Prop} {s t : Serve} {e : ServeEvent}
    (hran : Ran ref free t (s.react o e)) (ht : Attended ref recorded t)
    (hgate : t.gate.closed = s.gate.closed) (hfree : t.gate.closed = true → free)
    (hdeparts : s.departs ref e = false) : SeenBy o ref recorded s e := by
  have hcloses : s.closes o e = false := by
    rw [closes, hran.gate, hgate, Bool.not_and_self]
  rcases hran.attended ht hfree with ⟨hcalls, hattended⟩ | ⟨op, hop, hcalls, hattended⟩
  · exact .still hcalls ⟨hdeparts, hcloses⟩ hattended
  · exact .recorded op hop hcalls ⟨hdeparts, hcloses⟩ hattended

lemma called_eq_some {s : Serve} {call : Todo} {left : List Todo}
    (h : s.called = some (call, left)) :
    s.handles = true ∧ ∃ handler stack, s.stack = (handler, .calling call left) :: stack := by
  unfold called at h
  split at h
  · next handler call' left' stack hhandles hstack =>
    cases h
    exact ⟨hhandles, handler, stack, hstack⟩
  · cases h

lemma onReturned_called {s : Serve} {handler : Handler} {call : Todo} {left : List Todo}
    {stack : List (Handler × Stage)} (hhandles : s.handles = true)
    (hstack : s.stack = (handler, .calling call left) :: stack) (reply : Except Thrown Json) :
    (∃ hook, call = .hook hook ∧
        s.onReturned reply = Serve.hookReturned { s with stack } handler hook reply) ∨
      (∃ error, reply = .error error ∧
        s.onReturned reply = Serve.raise { s with stack } handler error) ∨
      ∃ json, reply = .ok json ∧ s.onReturned reply = Serve.run { s with stack } handler left := by
  unfold onReturned
  rw [hhandles, hstack]
  cases call with
  | hook hook => exact .inl ⟨hook, rfl, rfl⟩
  | _ =>
    cases reply with
    | error error => exact .inr (.inl ⟨error, rfl, rfl⟩)
    | ok json => exact .inr (.inr ⟨json, rfl, rfl⟩)

lemma attended_onReturned {recorded : Prop} {s : Serve} (h : Attended ref recorded s)
    (reply : Except Thrown Json) (hheeds : s.heeds o ref (.returned reply) = true) :
    SeenBy o ref recorded s (.returned reply) := by
  cases hcalled : s.called with
  | none =>
    -- no handler is in a call
    have hreact : s.react o (.returned reply) = (s, []) := by
      show s.onReturned reply = _
      unfold onReturned
      unfold called at hcalled
      split
      · next handler call left stack hhandles hstack =>
        rw [hhandles, hstack] at hcalled
        cases hcalled
      · rfl
    have hdeparts : s.departs ref (.returned reply) = false := by
      cases reply with
      | error error => rfl
      | ok json => rw [departs, hcalled]; rfl
    refine Ran.seen True (t := s) ?_ h rfl (fun _ => trivial) hdeparts
    rw [hreact]
    exact .of_nothing True s
  | some top =>
    obtain ⟨call, left⟩ := top
    obtain ⟨hhandles, handler, stack, hstack⟩ := called_eq_some hcalled
    have hrunning : s.Running call left := ⟨handler, by rw [hstack]; exact List.mem_cons_self⟩
    have hentry := h.entries call left hrunning
    have hpop : ∀ touched call' left', Running { s with stack, touched } call' left' →
        s.Running call' left' := by
      rintro touched call' left' ⟨h', hmem⟩
      exact ⟨h', by rw [hstack]; exact List.mem_cons_of_mem _ hmem⟩
    -- what is held besides the call is held behind it
    have hheld : ∀ touched, (∀ x ∈ s.touched, x ∈ touched) →
        (recorded → call.records ref = true → ref ∈ touched) → recorded →
        ref ∈ touched ∨ ∃ call' left', Running { s with stack, touched } call' left' ∧
          call'.records ref = true := by
      intro touched hsub hcall hrecorded
      rcases h.held hrecorded with htouched | ⟨call', left', ⟨h', hmem⟩, hrecords⟩
      · exact .inl (hsub _ htouched)
      · rw [hstack, List.mem_cons] at hmem
        rcases hmem with heq | hmem
        · cases heq
          exact .inl (hcall hrecorded hrecords)
        · exact .inr ⟨call', left', ⟨h', hmem⟩, hrecords⟩
    have hfree : s.gate.closed = true → left.any (Todo.records ref) = false :=
      fun hclosed => (h.dead hclosed).2 call left hrunning
    have hshrunk : ∀ touched, touched.Nodup → (∀ x ∈ s.touched, x ∈ touched) →
        (recorded → call.records ref = true → ref ∈ touched) →
        Attended ref recorded { s with stack, touched } := fun touched hdistinct hsub hcall =>
      h.shrink rfl (hpop touched) hdistinct id (hheld touched hsub hcall)
    rcases onReturned_called hhandles hstack reply with
      ⟨hook, rfl, hreact⟩ | ⟨error, rfl, hreact⟩ | ⟨json, rfl, hreact⟩
    · -- a hook records nothing
      have hdeparts : s.departs ref (.returned reply) = false := by
        cases reply with
        | error error => rfl
        | ok json => rw [departs, hcalled]; rfl
      refine Ran.seen True (t := { s with stack }) ?_
        (hshrunk _ h.distinct (fun _ hx => hx) fun _ hrecords => Bool.noConfusion hrecords) rfl
        (fun _ => trivial) hdeparts
      show Ran ref True _ (s.onReturned reply)
      rw [hreact]
      exact ran_replied _ _ hook reply
    · refine Ran.seen True (t := { s with stack }) ?_
        (hshrunk _ h.distinct (fun _ hx => hx) fun hrecorded hrecords => ?_) rfl
        (fun _ => trivial) rfl
      · show Ran ref True _ (s.onReturned _)
        rw [hreact]
        exact ran_raise _ _ error
      · rw [heeds, hcalled] at hheeds
        have hlive := h.live hrecorded
        simpa [hrecords, hlive] using hheeds
    · rw [entry, Bool.and_eq_true] at hentry
      obtain ⟨hfollowed, hleft⟩ := hentry
      have hrun : ∀ touched, (touched = s.touched ∨ touched = addRef s.touched ref) →
          (recorded → call.records ref = true → ref ∈ touched) →
          s.departs ref (.returned (.ok json)) = false → ∀ left', orderly ref false left' = true →
          (left.any (Todo.records ref) = false → left'.any (Todo.records ref) = false) →
          s.onReturned (.ok json) = Serve.run { s with stack, touched } handler left' →
          SeenBy o ref recorded s (.returned (.ok json)) := by
        intro touched htouched hcall hdeparts left' horderly hsub hruns
        have hdistinct : touched.Nodup := by
          rcases htouched with rfl | rfl
          · exact h.distinct
          · exact nodup_addRef h.distinct ref
        have hmem : ∀ x ∈ s.touched, x ∈ touched := by
          rcases htouched with rfl | rfl
          · exact fun _ hx => hx
          · exact fun _ hx => mem_addRef hx
        refine Ran.seen _ (t := { s with stack, touched }) ?_ (hshrunk touched hdistinct hmem hcall) rfl
          (fun hclosed => hsub (hfree hclosed)) hdeparts
        show Ran ref _ _ (s.onReturned _)
        rw [hruns]
        exact ran_run _ handler horderly
      cases hrecords : call.records ref with
      | true =>
        -- the session is noted as touched right behind the record
        rw [Todo.followed, hrecords, if_pos rfl] at hfollowed
        obtain ⟨left', rfl⟩ := Todo.eq_touch hfollowed
        have hcall := Todo.isCall_of_records hrecords
        rw [hcall] at hleft
        have hdeparts : s.departs ref (.returned (.ok json)) = false := by
          rw [departs, hcalled, Option.any_some, hcall]
          rfl
        rw [orderly, Bool.and_eq_true] at hleft
        exact hrun _ (.inr rfl) (fun _ _ => mem_addRef_self _ _) hdeparts left' hleft.2
          (fun hany => by simpa [Todo.records] using hany) hreact
      | false =>
        by_cases hdeparts : s.departs ref (.returned (.ok json)) = true
        · -- the release comes right behind the `unsubscribe`
          have hboth : call.isCall ref .unsubscribe = true ∧
              left.any (Todo.isCall ref .subscribe) = false := by
            rw [departs, hcalled, Option.any_some, Bool.and_eq_true, Bool.not_eq_true'] at hdeparts
            exact hdeparts
          rw [Todo.followed, hrecords, hboth.1, hboth.2] at hfollowed
          obtain ⟨left', rfl⟩ := Todo.eq_call (by simpa using hfollowed)
          rw [orderly, Bool.and_eq_true, Bool.and_eq_true] at hleft
          have hnow : s.react o (.returned (.ok json)) =
              ({ s with stack := (handler, .calling (.session ref .releaseViewer) left') :: stack },
                [.session ref .releaseViewer]) := hreact
          have hrunning' : ∀ call' left'', Running { s with
              stack := (handler, .calling (.session ref .releaseViewer) left') :: stack } call' left'' →
              (call' = .session ref .releaseViewer ∧ left'' = left') ∨ s.Running call' left'' := by
            rintro call' left'' ⟨h', hmem⟩
            rcases List.mem_cons.1 hmem with heq | hmem
            · cases heq
              exact .inl ⟨rfl, rfl⟩
            · exact .inr (hpop s.touched call' left'' ⟨h', hmem⟩)
          refine .departed ?_ (.inl hdeparts) ?_
          · rw [hnow]
            simp [callsOf, Todo.viewing, SessionOp.concerns]
          · rw [hnow]
            refine ⟨fun call' left'' hr => ?_, h.distinct, fun hf => hf.elim, fun hf => hf.elim,
              fun hclosed => ⟨(h.dead hclosed).1, fun call' left'' hr => ?_⟩⟩
            · rcases hrunning' call' left'' hr with ⟨rfl, rfl⟩ | hold
              · rw [entry, hleft.1.1]
                exact hleft.2
              · exact h.entries call' left'' hold
            · rcases hrunning' call' left'' hr with ⟨-, rfl⟩ | hold
              · have hany := hfree hclosed
                rw [List.any_cons, Bool.or_eq_false_iff] at hany
                exact hany.2
              · exact (h.dead hclosed).2 call' left'' hold
        · rw [Bool.not_eq_true] at hdeparts
          refine hrun s.touched (.inl rfl) (fun _ hnot => ?_) hdeparts left
            (orderly_of_departing hleft fun hcall => ?_) id hreact
          · rw [hrecords] at hnot
            cases hnot
          · -- a `subscribe` follows, so no release does
            rw [departs, hcalled, Option.any_some, hcall, Bool.true_and, Bool.not_eq_false'] at hdeparts
            rw [Todo.followed, hrecords, hcall, hdeparts] at hfollowed
            simpa using hfollowed

/-! ## A step at the gate -/

lemma foldl_quiet (ref : SessionRef) {effects : List GateEffect} (h : effects.all GateEffect.isQuiet = true)
    (r : Serve × List ServeEffect) :
    (effects.foldl (fun r effect =>
        let next := r.1.perform o effect
        (next.1, r.2 ++ next.2)) r).1 = r.1 ∧
      callsOf ref (effects.foldl (fun r effect =>
        let next := r.1.perform o effect
        (next.1, r.2 ++ next.2)) r).2 = callsOf ref r.2 := by
  induction effects generalizing r with
  | nil => exact ⟨rfl, rfl⟩
  | cons effect effects ih =>
    rw [List.all_cons, Bool.and_eq_true] at h
    have hperform : r.1.perform o effect = (r.1, [.gate effect]) := by
      cases effect with
      | handleRpcPayload payload => exact absurd h.1 Bool.false_ne_true
      | tornDown => exact absurd h.1 Bool.false_ne_true
      | _ => rfl
    rw [List.foldl_cons]
    obtain ⟨hstate, hcalls⟩ := ih h.2 ((r.1.perform o effect).1, r.2 ++ (r.1.perform o effect).2)
    rw [hperform] at hstate hcalls ⊢
    refine ⟨hstate, hcalls.trans ?_⟩
    rw [callsOf_append]
    exact List.append_nil _

lemma callsOf_teardownAll {s : Serve} (h : s.touched.Nodup) :
    callsOf ref s.teardownAll.2 = if ref ∈ s.touched then [.releaseViewer] else [] := by
  have hunsubscribed : ∀ refs : List SessionRef,
      callsOf ref (refs.map fun r => .session r .unsubscribe) = [] := by
    intro refs
    induction refs with
    | nil => rfl
    | cons r refs ih =>
      rw [List.map_cons, ← List.singleton_append, callsOf_append, ih]
      simp [callsOf, Todo.viewing, SessionOp.concerns, SessionOp.records]
  have hreleased : ∀ refs : List SessionRef, refs.Nodup →
      callsOf ref (refs.map fun r => .session r .releaseViewer)
        = if ref ∈ refs then [.releaseViewer] else [] := by
    intro refs
    induction refs with
    | nil => intro _; rfl
    | cons r refs ih =>
      intro hdistinct
      rw [List.nodup_cons] at hdistinct
      rw [List.map_cons, ← List.singleton_append, callsOf_append, ih hdistinct.2]
      by_cases hr : r = ref
      · subst hr
        simp [callsOf, Todo.viewing, SessionOp.concerns, hdistinct.1]
      · simp [callsOf, Todo.viewing, hr, Ne.symm hr]
  rw [teardownAll, callsOf_append, hunsubscribed, hreleased _ h]
  rfl

/-- What a step at the gate does to the session. -/
inductive GateSeen (ref : SessionRef) (recorded : Prop) (s : Serve)
    (r : Serve × List ServeEffect) : Prop
  | still (hcalls : callsOf ref r.2 = []) (hclosed : r.1.gate.closed = s.gate.closed)
      (hattended : Attended ref recorded r.1)
  | recorded (op : SessionOp) (hop : op.records = true) (hcalls : callsOf ref r.2 = [op])
      (hclosed : r.1.gate.closed = s.gate.closed) (hattended : Attended ref True r.1)
  | torn (hclosed : r.1.gate.closed = true)
      (hcalls : callsOf ref r.2 = [.releaseViewer] ∨ (callsOf ref r.2 = [] ∧ ¬ recorded))
      (hattended : Attended ref False r.1)

lemma Gate.mem_of_behind {e : GateEvent} {calls : List Call} {call : Call}
    (h : call ∈ Gate.behind e calls) : call ∈ calls := by
  unfold Gate.behind at h
  split at h
  · exact List.mem_of_mem_tail h
  · exact List.mem_of_mem_tail h
  · exact h

lemma stepGate_torn {s : Serve} {e : GateEvent}
    (heffects : (s.gate.react o.gate e).2 = [.tornDown] ∨
      ∃ error, (s.gate.react o.gate e).2 = [.onError error, .tornDown]) :
    (s.stepGate o e).1 = { s with
        gate := (s.gate.react o.gate e).1
        subscriptions := []
        touched := [] } ∧
      ∀ ref, callsOf ref (s.stepGate o e).2 = callsOf ref s.teardownAll.2 := by
  unfold stepGate
  dsimp only
  rcases heffects with heffects | ⟨error, heffects⟩
  · rw [heffects]
    exact ⟨rfl, fun _ => rfl⟩
  · rw [heffects]
    exact ⟨rfl, fun _ => rfl⟩

lemma attended_stepGate {recorded : Prop} {s : Serve} (h : Attended ref recorded s) (e : GateEvent)
    (hheeds : s.gate.closed = false → (s.stepGate o e).1.gate.closed = true →
      (∀ call ∈ Gate.behind e s.gate.calls, call = .handle []) ∧
        s.stack.all (fun frame => frame.2.spent ref s.touched) = true) :
    GateSeen ref recorded s (s.stepGate o e) := by
  have hgate := (s.stepGate_frames (o := o) e).1
  -- the handlers that run are spent
  have hspent : s.gate.closed = false → (s.stepGate o e).1.gate.closed = true →
      ∀ call left, s.Running call left → left.any (Todo.records ref) = false ∧
        (call.records ref = true → ref ∈ s.touched) := by
    intro hlive hclosed call left hr
    obtain ⟨handler, hmem⟩ := hr
    have hframe := List.all_eq_true.1 (hheeds hlive hclosed).2 _ hmem
    simp only [Stage.spent, Bool.and_eq_true, Bool.not_eq_true', Bool.or_eq_true] at hframe
    refine ⟨hframe.1, fun hrecords => ?_⟩
    rcases hframe.2 with hnot | htouched
    · rw [hrecords] at hnot
      cases hnot
    · exact of_decide_eq_true htouched
  have hmove : ∀ g : Gate, g.closed = s.gate.closed → (s.gate.Spent → g.Spent) →
      Attended ref recorded { s with gate := g } := by
    intro g hclosed hkeeps
    refine ⟨fun call left hr => h.entries call left hr, h.distinct, fun hrecorded => ?_, h.held,
      fun hg => ?_⟩
    · exact hclosed.trans (h.live hrecorded)
    · obtain ⟨hs, hlefts⟩ := h.dead (hclosed.symm.trans hg)
      exact ⟨hkeeps hs, hlefts⟩
  cases Gate.reacts (o := o.gate) s.gate e with
  | quiet hclosed heffects hkeeps =>
    obtain ⟨hstate, hcalls⟩ := foldl_quiet (o := o) ref heffects
      ({ s with gate := (s.gate.react o.gate e).1 }, [])
    have hsame : (s.stepGate o e).1 = { s with gate := (s.gate.react o.gate e).1 } := hstate
    refine .still hcalls ?_ ?_
    · rw [hgate, hclosed]
    · rw [hsame]
      exact hmove _ hclosed hkeeps
  | handles payload hclosed heffects hunspent =>
    have hlive : s.gate.closed = true → False := fun hs => hunspent (h.dead hs).1
    have hstep : s.stepGate o e
        = Serve.handleRpcPayload o { s with gate := (s.gate.react o.gate e).1 } payload := by
      unfold stepGate
      dsimp only
      rw [heffects]
      rfl
    have hran : Ran ref False { s with gate := (s.gate.react o.gate e).1 } (s.stepGate o e) := by
      rw [hstep]
      exact ran_handleRpcPayload _ payload
    have hsame : (s.stepGate o e).1.gate.closed = s.gate.closed := by rw [hgate, hclosed]
    have hopen : ({ s with gate := (s.gate.react o.gate e).1 } : Serve).gate.closed = true → False :=
      fun hs => hlive (hclosed.symm.trans hs)
    rcases hran.attended (hmove _ hclosed fun hs => absurd hs hunspent) hopen with
      ⟨hcalls, hattended⟩ | ⟨op, hop, hcalls, hattended⟩
    · exact .still hcalls hsame hattended
    · exact .recorded op hop hcalls hsame hattended
  | torn hclosed hphase hcalls heffects =>
    have hstep := stepGate_torn heffects
    have hnow : (s.stepGate o e).1.gate.closed = true := by rw [hgate, hclosed]
    have hlefts : ∀ call left, s.Running call left → left.any (Todo.records ref) = false := by
      intro call left hr
      cases hs : s.gate.closed with
      | true => exact (h.dead hs).2 call left hr
      | false => exact (hspent hs hnow call left hr).1
    have hcalled : ∀ call ∈ (s.gate.react o.gate e).1.calls, call = .handle [] := by
      rw [hcalls]
      intro call hmem
      cases hs : s.gate.closed with
      | true => exact (h.dead hs).1.calls call (Gate.mem_of_behind hmem)
      | false => exact (hheeds hs hnow).1 call hmem
    refine .torn hnow ?_ ?_
    · rw [hstep.2 ref, callsOf_teardownAll h.distinct]
      by_cases htouched : ref ∈ s.touched
      · exact .inl (if_pos htouched)
      · refine .inr ⟨if_neg htouched, fun hrecorded => htouched ?_⟩
        rcases h.held hrecorded with hmem | ⟨call, left, hr, hrecords⟩
        · exact hmem
        · exact (hspent (h.live hrecorded) hnow call left hr).2 hrecords
    · rw [hstep.1]
      exact ⟨fun call left hr => h.entries call left hr, List.nodup_nil, fun hf => hf.elim,
        fun hf => hf.elim, fun _ => ⟨⟨hphase, hcalled⟩, hlefts⟩⟩

lemma GateSeen.seen {recorded : Prop} {s t : Serve} {e : GateEvent}
    (h : GateSeen ref recorded t (s.react o (.gate e))) (hrecorded : recorded → s.gate.closed = false)
    (hgate : t.gate = s.gate) : SeenBy o ref recorded s (.gate e) := by
  have hkept : (s.react o (.gate e)).1.gate.closed = t.gate.closed →
      s.departs ref (.gate e) = false ∧ s.closes o (.gate e) = false := by
    intro hclosed
    refine ⟨rfl, ?_⟩
    rw [closes, hclosed, hgate, Bool.not_and_self]
  cases h with
  | still hcalls hclosed hattended => exact .still hcalls (hkept hclosed) hattended
  | recorded op hop hcalls hclosed hattended =>
    exact .recorded op hop hcalls (hkept hclosed) hattended
  | torn hclosed hcalls hattended =>
    cases hs : s.gate.closed with
    | true =>
      refine .absent (hcalls.symm.imp And.left id) (fun hr => ?_) hattended
      rw [hrecorded hr] at hs
      cases hs
    | false =>
      rcases hcalls with hcalls | ⟨hcalls, habsent⟩
      · refine .departed hcalls (.inr ?_) hattended
        rw [closes, hs, hclosed]
        rfl
      · exact .absent (.inl hcalls) habsent hattended

lemma attended_onGate {recorded : Prop} {s : Serve} (h : Attended ref recorded s) (e : GateEvent)
    (hheeds : s.heeds o ref (.gate e) = true) : SeenBy o ref recorded s (.gate e) := by
  -- a step at the gate closes over spent handlers
  have hspent : ∀ t : Serve, t.gate = s.gate → t.touched = s.touched →
      (∀ frame ∈ t.stack, frame ∈ s.stack) →
      (s.react o (.gate e)).1.gate = (t.stepGate o e).1.gate →
      t.gate.closed = false → (t.stepGate o e).1.gate.closed = true →
      (∀ call ∈ Gate.behind e t.gate.calls, call = .handle []) ∧
        t.stack.all (fun frame => frame.2.spent ref t.touched) = true := by
    intro t hgate htouched hstack hreact hlive hclosed
    have hcloses : s.closes o (.gate e) = true := by
      rw [closes, hreact, hclosed, ← hgate, hlive]
      rfl
    rw [heeds, hcloses, Bool.not_true, Bool.false_or, Bool.and_eq_true] at hheeds
    rw [hgate, htouched]
    refine ⟨fun call hmem => of_decide_eq_true (List.all_eq_true.1 hheeds.1 call hmem), ?_⟩
    rw [List.all_eq_true]
    exact fun frame hmem => List.all_eq_true.1 hheeds.2 frame (hstack frame hmem)
  have hstep : s.react o (.gate e) = s.stepGate o e → SeenBy o ref recorded s (.gate e) := by
    intro hreact
    have hseen := attended_stepGate (o := o) h e (hspent s rfl rfl (fun _ hf => hf) (by rw [hreact]))
    rw [← hreact] at hseen
    exact hseen.seen h.live rfl
  have hnothing : s.react o (.gate e) = (s, []) → SeenBy o ref recorded s (.gate e) := by
    intro hreact
    have hran : Ran ref True s (s.react o (.gate e)) := by
      rw [hreact]
      exact .of_nothing True s
    exact hran.seen True h rfl (fun _ => trivial) rfl
  cases e with
  | handlerReturned ok =>
    have hreact : s.react o (.gate (.handlerReturned ok)) = s.onGate o (.handlerReturned ok) := rfl
    unfold onGate at hreact
    dsimp only at hreact
    split at hreact
    · next handler result stack _ hstack =>
      split at hreact
      · -- the frame that returns is in no call
        have hrunning : ∀ call left, Running { s with stack } call left ↔ s.Running call left := by
          intro call left
          refine ⟨fun ⟨h', hmem⟩ => ⟨h', ?_⟩, fun hr => running_cons_returning hstack hr⟩
          rw [hstack]
          exact List.mem_cons_of_mem _ hmem
        have hpopped : Attended ref recorded { s with stack } := by
          refine h.shrink rfl (fun call left hr => (hrunning call left).1 hr) h.distinct id fun hr => ?_
          rcases h.held hr with htouched | ⟨call, left, hcall, hrecords⟩
          · exact .inl htouched
          · exact .inr ⟨call, left, (hrunning call left).2 hcall, hrecords⟩
        have hsub : ∀ frame ∈ stack, frame ∈ s.stack := by
          intro frame hmem
          rw [hstack]
          exact List.mem_cons_of_mem _ hmem
        have hseen := attended_stepGate (o := o) hpopped (.handlerReturned ok)
          (hspent { s with stack } rfl rfl hsub (by rw [hreact]))
        rw [← hreact] at hseen
        exact hseen.seen h.live rfl
      · exact hnothing hreact
    · exact hnothing hreact
  | ackReturned ok =>
    cases ok with
    | true => exact hstep rfl
    | false =>
      have hreact : s.react o (.gate (.ackReturned false)) = s.onGate o (.ackReturned false) := rfl
      unfold onGate at hreact
      dsimp only at hreact
      split at hreact
      · have hseen := attended_stepGate (o := o) h (.ackReturned false)
          (hspent s rfl rfl (fun _ hf => hf) (by rw [hreact]))
        refine GateSeen.seen (t := s) ?_ h.live rfl
        rw [hreact]
        -- what is not caught concerns no session
        have hcalls : ∀ effects, callsOf ref (effects ++ [ServeEffect.uncaught]) = callsOf ref effects :=
          fun effects => (callsOf_append ref effects _).trans (List.append_nil _)
        cases hseen with
        | still hnone hclosed hattended => exact .still ((hcalls _).trans hnone) hclosed hattended
        | recorded op hop hone hclosed hattended =>
          exact .recorded op hop ((hcalls _).trans hone) hclosed hattended
        | torn hclosed hsome hattended =>
          refine .torn hclosed ?_ hattended
          rw [hcalls]
          exact hsome
      · exact hnothing hreact
  | timer =>
    have hreact : s.react o (.gate .timer) = s.onGate o .timer := rfl
    unfold onGate at hreact
    dsimp only at hreact
    split at hreact
    · exact hstep hreact
    · exact hnothing hreact
  | verdict i reply =>
    have hreact : s.react o (.gate (.verdict i reply)) = s.onGate o (.verdict i reply) := rfl
    unfold onGate at hreact
    dsimp only at hreact
    split at hreact
    · exact hstep hreact
    · exact hnothing hreact
  | frame frame => exact hstep rfl
  | verifyReturned answer => exact hstep rfl
  | channelClosed => exact hstep rfl
  | close => exact hstep rfl

lemma Attended.react {recorded : Prop} {s : Serve} (h : Attended ref recorded s) (e : ServeEvent)
    (hheeds : s.heeds o ref e = true) : SeenBy o ref recorded s e := by
  cases e with
  | gate e => exact attended_onGate h e hheeds
  | returned reply => exact attended_onReturned h reply hheeds
  | settled i outcome => exact (ran_onSettled s i outcome).seen True h rfl (fun _ => trivial) rfl
  | registry registry =>
    have hran : Ran ref True s (s.react o (.registry registry)) :=
      ⟨rfl, fun _ hx => hx, fun hd => hd, .idle (.inl rfl) rfl⟩
    exact hran.seen True h rfl (fun _ => trivial) rfl

end Serve

end Pherry.Host
