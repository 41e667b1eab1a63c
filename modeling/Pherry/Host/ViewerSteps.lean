import Pherry.Host.ViewerCalls

/-!
# What a handler calls of a session

What the gate does at an event, read as whether it hands over a frame; and how far a handler runs,
with the calls of one session that it makes.
-/

namespace Pherry.Host

open Lib Channel Protocol

/-! ## A step of the gate -/

/-- An effect that neither hands over a frame nor tears the connection down. -/
def GateEffect.isQuiet : GateEffect → Bool
  | ack _ => true
  | verifyDevice _ => true
  | onError _ => true
  | handleRpcPayload _ => false
  | tornDown => false

namespace Gate

/-- The gate hands over no frame any more. -/
structure Spent (s : Gate) : Prop where
  phase : s.phase = .dead
  calls : ∀ call ∈ s.calls, call = .handle []

/-- The calls that are still running behind an event: a return ends the innermost. -/
def behind (e : GateEvent) (calls : List Call) : List Call :=
  match e with
  | .ackReturned _ => calls.tail
  | .verifyReturned _ => calls.tail
  | _ => calls

/-- What the gate does at an event: it hands over no frame, it hands over one, or it tears the
connection down. -/
inductive Reacts (s : Gate) (e : GateEvent) (r : Gate × List GateEffect) : Prop
  | quiet (hclosed : r.1.closed = s.closed)
      (heffects : r.2.all GateEffect.isQuiet = true)
      (hspent : s.Spent → r.1.Spent)
  | handles (payload : Bytes) (hclosed : r.1.closed = s.closed)
      (heffects : r.2 = [.handleRpcPayload payload]) (hunspent : ¬ s.Spent)
  | torn (hclosed : r.1.closed = true) (hphase : r.1.phase = .dead)
      (hcalls : r.1.calls = behind e s.calls)
      (heffects : r.2 = [.tornDown] ∨ ∃ error, r.2 = [.onError error, .tornDown])

variable {o : GateOptions}

lemma reacts_nothing (s : Gate) (e : GateEvent) : Reacts s e (s, []) :=
  .quiet rfl rfl fun h => h

lemma reacts_failClosed {s t : Gate} {e : GateEvent} (hclosed : t.closed = s.closed)
    (hcalls : t.calls = behind e s.calls) (error : GateError) :
    Reacts s e (t.failClosed error) := by
  unfold failClosed closeChannel
  dsimp only
  split
  · exact .torn rfl rfl hcalls (.inr ⟨error, rfl⟩)
  · refine .quiet hclosed rfl fun hs => ⟨rfl, fun call hcall => ?_⟩
    have hmem : call ∈ behind e s.calls := hcalls ▸ hcall
    apply hs.calls
    unfold behind at hmem
    split at hmem
    · exact List.mem_of_mem_tail hmem
    · exact List.mem_of_mem_tail hmem
    · exact hmem

lemma reacts_admitHello {s t : Gate} {e : GateEvent} (hclosed : t.closed = s.closed)
    (hunspent : ¬ s.Spent) (hello : Hello) : Reacts s e (t.admitHello o hello) := by
  unfold admitHello
  cases t.buffered with
  | nil => exact .quiet hclosed rfl fun h => absurd h hunspent
  | cons payload left => exact .handles payload hclosed rfl hunspent

lemma reacts_acked {s t : Gate} {e : GateEvent} {hello : Hello} (hclosed : t.closed = s.closed)
    (hcalls : t.calls = behind e s.calls) (hunspent : ¬ s.Spent) :
    Reacts s e (t.acked o hello) := by
  unfold acked
  split
  · exact reacts_failClosed hclosed hcalls _
  · split
    · unfold runDeviceGate
      split
      · exact reacts_failClosed hclosed hcalls _
      · exact .quiet hclosed rfl fun h => absurd h hunspent
    · exact .quiet hclosed rfl fun h => absurd h hunspent

lemma reacts_onControl (s : Gate) (frame : ChannelFrame) :
    Reacts s (.frame frame) (s.onControl o frame.payload) := by
  have hunspent : s.phase ≠ .dead → ¬ s.Spent := fun h hs => h hs.phase
  unfold onControl
  split
  · exact reacts_nothing s _
  · next hphase =>
    have hlive := hunspent (by rw [hphase]; decide)
    unfold handleHello
    dsimp only
    split
    · exact reacts_failClosed rfl rfl _
    · split
      · exact reacts_acked rfl rfl hlive
      · exact .quiet rfl rfl fun h => absurd h hlive
  · next hphase =>
    have hlive := hunspent (by rw [hphase]; decide)
    split
    · exact reacts_failClosed rfl rfl _
    · exact .quiet rfl rfl fun h => absurd h hlive
  · next hphase =>
    exact .handles frame.payload rfl rfl (hunspent (by rw [hphase]; decide))

lemma reacts (s : Gate) (e : GateEvent) : Reacts s e (s.react o e) := by
  cases e with
  | frame frame =>
    show Reacts s _ (s.onFrame o frame)
    unfold onFrame
    split
    · exact reacts_nothing s _
    · split
      · exact reacts_onControl s frame
      · exact reacts_nothing s _
  | timer =>
    show Reacts s _ s.onTimer
    unfold onTimer
    split
    · dsimp only
      split
      · exact reacts_failClosed rfl rfl _
      · exact .quiet rfl rfl fun h => ⟨h.phase, h.calls⟩
    · exact reacts_nothing s _
  | ackReturned ok =>
    show Reacts s _ (s.ackReturned o ok)
    unfold ackReturned
    split
    · next hello calls hcalls =>
      have hunspent : ¬ s.Spent := by
        intro h
        have hack := h.calls (.ack hello) (by rw [hcalls]; exact List.mem_cons_self)
        cases hack
      split
      · exact reacts_acked rfl (by rw [hcalls]; rfl) hunspent
      · exact .quiet rfl rfl fun h => absurd h hunspent
    · exact reacts_nothing s _
  | verifyReturned answer =>
    show Reacts s _ (s.verifyReturned o answer)
    unfold verifyReturned
    split
    · next hello calls hcalls =>
      have hunspent : ¬ s.Spent := by
        intro h
        have hverify := h.calls (.verify hello) (by rw [hcalls]; exact List.mem_cons_self)
        cases hverify
      have hfail : ∀ answer, Reacts s (.verifyReturned answer)
          ({ s with calls }.failClosed .notAuthorized) := fun answer =>
        reacts_failClosed (s := s) (t := { s with calls }) (e := .verifyReturned answer) rfl
          (by rw [hcalls]; rfl) _
      dsimp only
      split
      · exact reacts_admitHello (s := s) (t := { s with calls }) rfl hunspent hello
      · exact hfail _
      · exact hfail _
      · exact .quiet rfl rfl fun h => absurd h hunspent
    · exact reacts_nothing s _
  | handlerReturned ok =>
    show Reacts s _ (s.handlerReturned ok)
    unfold handlerReturned
    split
    · next left calls hcalls =>
      have hpop : s.Spent → Spent { s with calls } := fun h =>
        ⟨h.phase, fun call hcall => h.calls call (by rw [hcalls]; exact List.mem_cons_of_mem _ hcall)⟩
      split
      · cases left with
        | nil => exact .quiet rfl rfl hpop
        | cons payload left =>
          refine .handles payload rfl rfl fun h => ?_
          have hhandle := h.calls _ (by rw [hcalls]; exact List.mem_cons_self)
          cases hhandle
      · exact .quiet rfl rfl hpop
    · exact reacts_nothing s _
  | verdict i reply =>
    show Reacts s _ (s.onVerdict o i reply)
    unfold onVerdict
    split
    · split
      · exact reacts_nothing s _
      · dsimp only
        split
        · next hphase =>
          have hunspent : ¬ s.Spent := fun h => by
            rw [h.phase] at hphase
            cases hphase
          have hfail : ∀ reply, Reacts s (.verdict i reply)
              ({ s with pending := s.pending.eraseIdx i }.failClosed .notAuthorized) := fun reply =>
            reacts_failClosed (s := s) (t := { s with pending := s.pending.eraseIdx i }) rfl rfl _
          split
          · exact reacts_admitHello (s := s) (t := { s with pending := s.pending.eraseIdx i }) rfl hunspent _
          · exact hfail _
          · exact hfail _
        · exact .quiet rfl rfl fun h => ⟨h.phase, h.calls⟩
    · exact reacts_nothing s _
  | channelClosed =>
    show Reacts s _ s.closeChannel
    unfold closeChannel
    split
    · exact .torn rfl rfl rfl (.inl rfl)
    · exact reacts_nothing s _
  | close => exact .torn rfl rfl rfl (.inl rfl)

end Gate

namespace Serve

variable {o : ServeOptions} (ref : SessionRef)

/-! ## A handler up to its next call -/

/-- Where a handler stopped, and what it called of the session. `free` is whether it had nothing to
record. -/
inductive Halted (free : Prop) (s : Serve) : Serve → List ServeEffect → Prop
  | idle {t : Serve} {effects : List ServeEffect}
      (hstack : t.stack = s.stack ∨ ∃ h ok, t.stack = (h, .returning ok) :: s.stack)
      (hcalls : callsOf ref effects = []) : Halted free s t effects
  | called {t : Serve} {effects : List ServeEffect} (h : Handler) (call : Todo) (left : List Todo)
      (hstack : t.stack = (h, .calling call left) :: s.stack) (hentry : entry ref call left = true)
      (hcalls : callsOf ref effects = call.viewing ref)
      (hrelease : call.isCall ref .releaseViewer = false)
      (hfree : free → call.records ref = false ∧ left.any (Todo.records ref) = false) :
      Halted free s t effects

/-- A handler ran: the gate is what it was, and sessions were only noted as touched. -/
structure Ran (free : Prop) (s : Serve) (r : Serve × List ServeEffect) : Prop where
  gate : r.1.gate = s.gate
  touched : ∀ x ∈ s.touched, x ∈ r.1.touched
  distinct : s.touched.Nodup → r.1.touched.Nodup
  halted : Halted ref free s r.1 r.2

variable {ref}

lemma mem_addRef {refs : List SessionRef} {r x : SessionRef} (h : x ∈ refs) : x ∈ addRef refs r := by
  unfold addRef
  split
  · exact h
  · exact List.mem_append_left _ h

lemma mem_addRef_self (refs : List SessionRef) (r : SessionRef) : r ∈ addRef refs r := by
  unfold addRef
  split
  · next h => exact h
  · simp

lemma nodup_addRef {refs : List SessionRef} (h : refs.Nodup) (r : SessionRef) :
    (addRef refs r).Nodup := by
  unfold addRef
  split
  · exact h
  · next hnot =>
    rw [List.nodup_append]
    refine ⟨h, by simp, fun x hx y hy => ?_⟩
    rintro rfl
    rw [List.mem_singleton] at hy
    exact hnot (hy ▸ hx)

/-- What a handler called before it stopped. -/
def Calls (ref : SessionRef) (free : Prop) (r : Serve × List ServeEffect × Stop) : Prop :=
  match r.2.2 with
  | .called call left => entry ref call left = true ∧ callsOf ref r.2.1 = call.viewing ref ∧
      call.isCall ref .releaseViewer = false ∧
        (free → call.records ref = false ∧ left.any (Todo.records ref) = false)
  | _ => callsOf ref r.2.1 = []

lemma advance_orderly (s : Serve) (n : ℕ) {todo : List Todo} (h : orderly ref false todo = true) :
    Calls ref (todo.any (Todo.records ref) = false) (s.advance n todo) ∧
      (∀ x ∈ s.touched, x ∈ (s.advance n todo).1.touched) ∧
        (s.touched.Nodup → (s.advance n todo).1.touched.Nodup) := by
  induction todo generalizing s with
  | nil => exact ⟨rfl, fun _ hx => hx, fun hd => hd⟩
  | cons t left ih =>
    rw [orderly, Bool.and_eq_true, Bool.and_eq_true] at h
    obtain ⟨⟨hfollowed, hrelease⟩, hleft⟩ := h
    have hentry : entry ref t left = true := by rw [entry, hfollowed, hleft]; rfl
    have hnot : t.isCall ref .releaseViewer = false := by simpa using hrelease
    have hfree : (t :: left).any (Todo.records ref) = false →
        t.records ref = false ∧ left.any (Todo.records ref) = false := by
      intro hany
      rw [List.any_cons, Bool.or_eq_false_iff] at hany
      exact hany
    -- bookkeeping goes on with the rest of the list
    have hskip : ∀ s' : Serve, t.isCall ref .unsubscribe = false →
        (∀ x ∈ s.touched, x ∈ s'.touched) → (s.touched.Nodup → s'.touched.Nodup) →
        Calls ref ((t :: left).any (Todo.records ref) = false) (s'.advance n left) ∧
          (∀ x ∈ s.touched, x ∈ (s'.advance n left).1.touched) ∧
            (s.touched.Nodup → (s'.advance n left).1.touched.Nodup) := by
      intro s' hunsubscribe hmem hdistinct
      rw [hunsubscribe] at hleft
      obtain ⟨hcalls, htouched, hnodup⟩ := ih s' hleft
      refine ⟨?_, fun x hx => htouched x (hmem x hx), fun hd => hnodup (hdistinct hd)⟩
      unfold Calls at hcalls ⊢
      split at hcalls
      · obtain ⟨hentry', heffects, hcall, hany⟩ := hcalls
        exact ⟨hentry', heffects, hcall, fun hall => hany (hfree hall).2⟩
      · exact hcalls
    cases t with
    | send response =>
      unfold advance
      split
      · exact hskip s rfl (fun _ hx => hx) fun hd => hd
      · split
        · exact ⟨⟨hentry, rfl, hnot, hfree⟩, fun _ hx => hx, fun hd => hd⟩
        · exact ⟨rfl, fun _ hx => hx, fun hd => hd⟩
    | delete r => exact hskip _ rfl (fun _ hx => hx) fun hd => hd
    | touch r => exact hskip _ rfl (fun _ hx => mem_addRef hx) fun hd => nodup_addRef hd r
    | set r => exact hskip _ rfl (fun _ hx => hx) fun hd => hd
    | session r op =>
      exact ⟨⟨hentry, by simp [callsOf, Serve.advance], hnot, hfree⟩, fun _ hx => hx, fun hd => hd⟩
    | hook hook => exact ⟨⟨hentry, rfl, hnot, hfree⟩, fun _ hx => hx, fun hd => hd⟩
    | onError => exact ⟨⟨hentry, rfl, hnot, hfree⟩, fun _ hx => hx, fun hd => hd⟩

lemma Ran.of_still {free : Prop} {s s' : Serve} {r : Serve × List ServeEffect}
    (h : Ran ref free s' r) (hgate : s'.gate = s.gate) (hstack : s'.stack = s.stack)
    (htouched : ∀ x ∈ s.touched, x ∈ s'.touched) (hdistinct : s.touched.Nodup → s'.touched.Nodup)
    {effects : List ServeEffect} (heffects : callsOf ref effects = []) :
    Ran ref free s (r.1, effects ++ r.2) where
  gate := h.gate.trans hgate
  touched x hx := h.touched x (htouched x hx)
  distinct hd := h.distinct (hdistinct hd)
  halted := by
    have hcalls : ∀ calls, callsOf ref r.2 = calls → callsOf ref (effects ++ r.2) = calls := by
      intro calls hcalls
      rw [callsOf_append, heffects, hcalls]
      rfl
    cases h.halted with
    | idle hidle hnone =>
      rw [hstack] at hidle
      exact .idle hidle (hcalls _ hnone)
    | called handler call left hpush hentry hviewing hrelease hfree =>
      rw [hstack] at hpush
      exact .called handler call left hpush hentry (hcalls _ hviewing) hrelease hfree

lemma ran_leave (free : Prop) (s : Serve) (h : Handler) (ok : Bool) :
    Ran ref free s (s.leave h ok) := by
  have hcalls : callsOf ref (if ok then [] else [ServeEffect.uncaught]) = [] := by
    cases ok <;> rfl
  unfold leave
  dsimp only
  split
  · exact ⟨rfl, fun _ hx => hx, fun hd => hd, .idle (.inr ⟨_, _, rfl⟩) hcalls⟩
  · exact ⟨rfl, fun _ hx => hx, fun hd => hd, .idle (.inl rfl) hcalls⟩

lemma ran_stopped (s : Serve) (h : Handler) {todo : List Todo}
    (htodo : orderly ref false todo = true) {threw : Serve → Serve × List ServeEffect}
    (hthrew : ∀ t, Ran ref (todo.any (Todo.records ref) = false) t (threw t)) :
    Ran ref (todo.any (Todo.records ref) = false) s
      (stopped h (s.advance h.request todo) threw) := by
  obtain ⟨hcalls, htouched, hdistinct⟩ := s.advance_orderly h.request htodo
  have hsame := s.advance_same h.request todo
  unfold Calls at hcalls
  unfold stopped
  split
  · next hstop =>
    rw [hstop] at hcalls
    exact (ran_leave _ _ h true).of_still hsame.gate hsame.stack htouched hdistinct hcalls
  · next call left hstop =>
    rw [hstop] at hcalls
    obtain ⟨hentry, hviewing, hrelease, hfree⟩ := hcalls
    refine ⟨hsame.gate, htouched, hdistinct, .called h call left ?_ hentry hviewing hrelease hfree⟩
    exact congrArg _ hsame.stack
  · next hstop =>
    rw [hstop] at hcalls
    exact (hthrew _).of_still hsame.gate hsame.stack htouched hdistinct hcalls

lemma Ran.mono {free free' : Prop} {s : Serve} {r : Serve × List ServeEffect}
    (h : Ran ref free s r) (hfree : free' → free) : Ran ref free' s r := by
  refine ⟨h.gate, h.touched, h.distinct, ?_⟩
  cases h.halted with
  | idle hstack hcalls => exact .idle hstack hcalls
  | called handler call left hstack hentry hcalls hrelease hnone =>
    exact .called handler call left hstack hentry hcalls hrelease fun hf => hnone (hfree hf)

lemma ran_clause (s : Serve) (h : Handler) {todo : List Todo}
    (htodo : todo.all (Todo.plain ref) = true) : Ran ref True s (s.clause h todo) :=
  (ran_stopped s h (orderly_of_plain ref htodo false) fun t => ran_leave _ t h false).mono
    fun _ => free_of_plain ref htodo

lemma ran_raise (s : Serve) (h : Handler) (error : Thrown) : Ran ref True s (s.raise h error) := by
  unfold raise
  split
  · exact ran_leave _ s h false
  · exact ran_clause s _ (plain_catching ref _ _ _)

lemma ran_run (s : Serve) (h : Handler) {todo : List Todo} (htodo : orderly ref false todo = true) :
    Ran ref (todo.any (Todo.records ref) = false) s (s.run h todo) :=
  ran_stopped s h htodo fun t => (ran_raise t h .other).mono fun _ => trivial

lemma ran_send (s : Serve) (h : Handler) (response : Response) :
    Ran ref True s (s.run h [.send response]) := (ran_run s h rfl).mono fun _ => rfl

lemma ran_replied (s : Serve) (h : Handler) (hook : Hook) (reply : Except Thrown Json) :
    Ran ref True s (s.replied h hook reply) := by
  unfold replied
  split
  · exact ran_send s h _
  · exact ran_send s h _
  · exact ran_send s h _
  · exact ran_raise s h _
  · have hleave : Ran ref True _ _ := ran_leave True
      { s with waiting := s.waiting ++ [⟨h.request, h.id, hook⟩] } h true
    have hsame := hleave.of_still (s := s) rfl rfl (fun _ hx => hx) (fun hd => hd)
      (callsOf_nil ref)
    simpa using hsame

lemma Ran.of_nothing (free : Prop) (s : Serve) : Ran ref free s (s, []) :=
  ⟨rfl, fun _ hx => hx, fun hd => hd, .idle (.inl rfl) rfl⟩

lemma ran_onSettled (s : Serve) (i : ℕ) (outcome : Except Thrown Json) :
    Ran ref True s (s.onSettled i outcome) := by
  unfold onSettled
  split
  · split
    · exact .of_nothing True s
    · have htake : ∀ {r}, Ran ref True { s with waiting := s.waiting.eraseIdx i } r →
          Ran ref True s r := by
        intro r hr
        have hsame := hr.of_still (s := s) rfl rfl (fun _ hx => hx) (fun hd => hd) (callsOf_nil ref)
        simpa using hsame
      dsimp only
      split
      · exact htake (ran_send _ _ _)
      · exact htake (ran_raise _ _ _)
  · exact .of_nothing True s

lemma ran_handleRpcPayload (s : Serve) (payload : Bytes) :
    Ran ref False s (s.handleRpcPayload o payload) := by
  have hlog : ∀ {r}, Ran ref False { s with log := s.log ++ [o.parseRequest payload] } r →
      Ran ref False s r := by
    intro r hr
    have hsame := hr.of_still (s := s) rfl rfl (fun _ hx => hx) (fun hd => hd) (callsOf_nil ref)
    simpa using hsame
  unfold handleRpcPayload
  dsimp only
  split
  · exact hlog ((ran_clause _ _ rfl).mono fun h => h.elim)
  · next request _ =>
    refine hlog ((ran_run _ _ ?_).mono fun h => h.elim)
    exact Connection.orderly_dispatch ref _ o.parseParams request

end Serve

end Pherry.Host
