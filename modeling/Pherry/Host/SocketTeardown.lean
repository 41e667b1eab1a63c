import Pherry.Host.SizingRuns
import Pherry.TransportNode.NodeSocket

/-!
# The socket under a served connection

Each viewer's connection is served over a channel on a socket behind `nodeSocketDuplex`. The adapter hands on what
arrives; that the socket ended or closed it does not, so only the close of the channel tears a connection down.
-/

namespace Pherry.Host

open Lib Channel Protocol TransportNode

/-! ## The system -/

/-- What is queued to the controller. -/
def ServeEffect.isSend : ServeEffect → Bool
  | respond _ _ => true
  | gate (.ack _) => true
  | _ => false

/-- Whether a handler of a closed connection enters a subscription before its next call. -/
def enters : List Todo → Bool
  | .set _ :: _ => true
  | .send _ :: left => enters left
  | .delete _ :: left => enters left
  | .touch _ :: left => enters left
  | _ => false

/-- No handler of a closed connection enters a subscription. -/
def Serve.retires (s : Serve) : ServeEvent → Bool
  | .returned (.ok _) => !s.gate.closed || s.called.all fun c => !enters c.2
  | _ => true

/-- The viewers of a session, and the socket under each one's connection. -/
structure SocketViewers (σ : Type) where
  viewers : Viewers σ
  socket : ℕ → Socket

/-- Something happens above the sockets; a socket emits an event, with what comes of it first at the connection if the
adapter hands it on; a session calls a sink of a connection with a frame. -/
inductive SocketViewersEvent
  | viewers (e : ViewersEvent)
  | socket (v : ℕ) (e : SocketEvent) (next : ServeEvent)
  | sink (v : ℕ)

namespace SocketViewers

variable {σ : Type} (em : Emulator σ) (o : ℕ → ServeOptions) (ref : SessionRef)

/-- What an event is to the viewers. -/
def told (s : SocketViewers σ) : SocketViewersEvent → List ViewersEvent
  | .viewers e => [e]
  | .socket v e next =>
    if (s.socket v).emits e then ((nodeSocketDuplex e).map fun _ => ViewersEvent.viewer v next).toList else []
  | .sink _ => []

/-- One event. -/
def step (s : SocketViewers σ) (e : SocketViewersEvent) : SocketViewers σ :=
  { viewers := (s.told e).foldl (Viewers.step em o ref) s.viewers
    socket :=
      match e with
      | .socket v e _ =>
        if (s.socket v).emits e then Function.update s.socket v ((s.socket v).after e) else s.socket
      | _ => s.socket }

/-- Whether an event queues something to a viewer's controller. A sink sends nothing on a closed connection. -/
def queues (s : SocketViewers σ) (v : ℕ) (e : SocketViewersEvent) : Bool :=
  match e with
  | .sink u => decide (u = v) && !(s.viewers.serve v).gate.closed
  | e => (s.told e).any fun
    | .viewer u e => decide (u = v) && ((s.viewers.serve u).react (o u) e).2.any ServeEffect.isSend
    | .output _ => false

/-- The socket has ended or closed. -/
def hungUp (s : SocketViewers σ) (v : ℕ) : Prop := (s.socket v).ended = true ∨ (s.socket v).closed = true

/-- The last events of a socket come to a connection that is closed; and none closes over a handler that still records
its viewer or enters a subscription. -/
def heeds (s : SocketViewers σ) (e : SocketViewersEvent) : Bool :=
  ((s.told e).all fun e => Viewers.heeds o ref s.viewers e &&
    match e with
    | .viewer v e => (s.viewers.serve v).retires e
    | .output _ => true) &&
  match e with
  | .socket v .ended _ => (s.viewers.serve v).gate.closed
  | .socket v .close _ => (s.viewers.serve v).gate.closed
  | _ => true

end SocketViewers

section Law

variable {σ : Type} (em : Emulator σ) (o : ℕ → ServeOptions) (ref : SessionRef)
  (sessionId : ℕ → Bytes) (streamId : ℕ) (size : Size)

/-- The viewers of `viewersMachine`, each on a socket that was just connected. -/
def socketViewersMachine : Machine (SocketViewers σ) SocketViewersEvent where
  init := ⟨(viewersMachine em o ref sessionId streamId size).init, fun _ => .connected⟩
  step := SocketViewers.step em o ref

/-- What the sizing policy sees of a run. -/
def socketHistory (es : List SocketViewersEvent) : List (Viewing ℕ Size) :=
  sizingHistory em o ref sessionId streamId size
    ((socketViewersMachine em o ref sessionId streamId size).outputs SocketViewers.told es)

/-- A connection holds no subscription, its viewer is out of the sizing, and nothing more is queued to it. -/
structure LetGo (s : SocketViewers σ) (v : ℕ) : Prop where
  subscriptions : (s.viewers.serve v).subscriptions = []
  sizing : s.viewers.terminal.Gone v
  queue : ∀ e, s.queues o v e = false

/-- A viewer whose socket ended or closed is let go, and the size is what the policy makes of the others. -/
structure HostTeardown (es : List SocketViewersEvent) : Prop where
  letGo : ∀ v, ((socketViewersMachine em o ref sessionId streamId size).run es).hungUp v →
    LetGo o ((socketViewersMachine em o ref sessionId streamId size).run es) v
  sized : SizedByPolicy ((socketViewersMachine em o ref sessionId streamId size).run es).viewers size
    (socketHistory em o ref sessionId streamId size es)

end Law

/-! ## A closed connection -/

lemma Gate.Spent.effects {s : Gate} (h : s.Spent) (o : GateOptions) (e : GateEvent) :
    (s.react o e).2 = [] ∨ (s.react o e).2 = [.tornDown] := by
  have hhead : ∀ {call calls}, s.calls = call :: calls → call = .handle [] := fun hcalls =>
    h.calls _ (hcalls ▸ List.mem_cons_self)
  cases e with
  | frame frame =>
    refine .inl ?_
    simp only [react, onFrame, onControl, h.phase]
    split
    · rfl
    · split <;> rfl
  | timer =>
    refine .inl ?_
    simp only [react, onTimer, h.phase, reduceCtorEq, if_false]
    split <;> rfl
  | ackReturned ok =>
    refine .inl ?_
    simp only [react, ackReturned]
    split
    · next hcalls => cases hhead hcalls
    · rfl
  | verifyReturned answer =>
    refine .inl ?_
    simp only [react, verifyReturned]
    split
    · next hcalls => cases hhead hcalls
    · rfl
  | handlerReturned ok =>
    refine .inl ?_
    simp only [react, handlerReturned]
    split
    · next hcalls =>
      cases hhead hcalls
      split <;> rfl
    · rfl
  | verdict i reply =>
    refine .inl ?_
    simp only [react, onVerdict, h.phase, reduceCtorEq, if_false]
    split
    · split <;> rfl
    · rfl
  | channelClosed =>
    rw [react, closeChannel]
    split
    · exact .inr rfl
    · exact .inl rfl
  | close => exact .inr rfl

namespace Serve

variable {o : ServeOptions} {free : Prop} {s : Serve}

/-- What runs in a closed connection sends nothing, and keeps it without subscriptions where `free`. -/
structure Hushed (free : Prop) (s : Serve) (r : Serve × List ServeEffect) : Prop where
  silent : r.2.any ServeEffect.isSend = false
  empty : free → s.subscriptions = [] → r.1.subscriptions = []

lemma Hushed.append {t : Serve} {effects : List ServeEffect} {r : Serve × List ServeEffect}
    (h : Hushed free s (t, effects)) (h' : Hushed True t r) : Hushed free s (r.1, effects ++ r.2) where
  silent := by rw [List.any_append, h.silent, h'.silent, Bool.or_false]
  empty hfree hs := h'.empty trivial (h.empty hfree hs)

lemma hushed_advance (h : s.gate.closed = true) (n : ℕ) (todo : List Todo) :
    Hushed (enters todo = false) s ((s.advance n todo).1, (s.advance n todo).2.1) := by
  induction todo generalizing s with
  | nil => exact ⟨rfl, fun _ hs => hs⟩
  | cons first left ih =>
    cases first with
    | send response =>
      rw [advance, if_pos h]
      exact ⟨(ih h).silent, (ih h).empty⟩
    | delete r =>
      have hleft := ih (s := { s with subscriptions := s.subscriptions.filter (· ≠ r) }) h
      exact ⟨hleft.silent, fun henters hs => hleft.empty henters (by simp [hs])⟩
    | touch r =>
      have hleft := ih (s := { s with touched := addRef s.touched r }) h
      exact ⟨hleft.silent, hleft.empty⟩
    | set r =>
      have hleft := ih (s := { s with subscriptions := addRef s.subscriptions r }) h
      exact ⟨hleft.silent, fun henters => by cases henters⟩
    | session r op => exact ⟨rfl, fun _ hs => hs⟩
    | hook hook => exact ⟨rfl, fun _ hs => hs⟩
    | onError => exact ⟨rfl, fun _ hs => hs⟩

lemma hushed_leave (s : Serve) (handler : Handler) (ok : Bool) : Hushed True s (s.leave handler ok) := by
  unfold leave
  dsimp only
  split <;> cases ok <;> exact ⟨rfl, fun _ hs => hs⟩

lemma hushed_stopped (h : s.gate.closed = true) (handler : Handler) (todo : List Todo)
    {threw : Serve → Serve × List ServeEffect} (hthrew : ∀ t, t.gate.closed = true → Hushed True t (threw t)) :
    Hushed (enters todo = false) s (stopped handler (s.advance handler.request todo) threw) := by
  have hadvance := hushed_advance h handler.request todo
  have hclosed : (s.advance handler.request todo).1.gate.closed = true := by
    rw [(s.advance_same handler.request todo).gate, h]
  unfold stopped
  split
  · exact hadvance.append (hushed_leave _ handler true)
  · exact ⟨hadvance.silent, hadvance.empty⟩
  · exact hadvance.append (hthrew _ hclosed)

lemma hushed_raise (h : s.gate.closed = true) (handler : Handler) (error : Thrown) :
    Hushed True s (s.raise handler error) := by
  have hcatching : ∀ guard : Guard, enters (guard.catching handler.id error) = false := by
    intro guard
    unfold Guard.catching
    split <;> rfl
  unfold raise
  split
  · exact hushed_leave s handler false
  · have hclause := hushed_stopped h { handler with caught := true } (handler.guard.catching handler.id error)
      fun t _ => hushed_leave t { handler with caught := true } false
    exact ⟨hclause.silent, fun _ => hclause.empty (hcatching _)⟩

lemma hushed_run (h : s.gate.closed = true) (handler : Handler) (todo : List Todo) :
    Hushed (enters todo = false) s (s.run handler todo) :=
  hushed_stopped h handler todo fun _ ht => hushed_raise ht handler .other

lemma hushed_send (h : s.gate.closed = true) (handler : Handler) (response : Response) :
    Hushed True s (s.run handler [.send response]) :=
  ⟨(hushed_run h handler _).silent, fun _ => (hushed_run h handler _).empty rfl⟩

lemma hushed_replied (h : s.gate.closed = true) (handler : Handler) (hook : Hook) (reply : Except Thrown Json) :
    Hushed True s (s.replied handler hook reply) := by
  unfold replied
  split
  · exact hushed_send h handler _
  · exact hushed_send h handler _
  · exact hushed_send h handler _
  · exact hushed_raise h handler _
  · have hleave := hushed_leave { s with waiting := s.waiting ++ [⟨handler.request, handler.id, hook⟩] } handler true
    exact ⟨hleave.silent, hleave.empty⟩

lemma hushed_onReturned (h : s.gate.closed = true) (reply : Except Thrown Json) :
    Hushed (s.retires (.returned reply) = true) s (s.onReturned reply) := by
  unfold onReturned
  split
  · next handler call left stack hhandles hstack =>
    have hcalled : s.called = some (call, left) := by rw [called, hhandles, hstack]
    dsimp only
    split
    · next hook =>
      have hreplied := hushed_replied (s := { s with stack }) h
        { handler with
          guard := hook.guard
          caught := false } hook reply
      exact ⟨hreplied.silent, fun _ => hreplied.empty trivial⟩
    · next error _ =>
      have hraise := hushed_raise (s := { s with stack }) h handler error
      exact ⟨hraise.silent, fun _ => hraise.empty trivial⟩
    · have hrun := hushed_run (s := { s with stack }) h handler left
      refine ⟨hrun.silent, fun hretires => hrun.empty ?_⟩
      rw [retires, h, hcalled] at hretires
      simpa using hretires
  · exact ⟨rfl, fun _ hs => hs⟩

lemma hushed_onSettled (h : s.gate.closed = true) (i : ℕ) (outcome : Except Thrown Json) :
    Hushed True s (s.onSettled i outcome) := by
  unfold onSettled
  split
  · split
    · exact ⟨rfl, fun _ hs => hs⟩
    · next w _ =>
      dsimp only
      split
      · next result =>
        have hsend := hushed_send (s := { s with waiting := s.waiting.eraseIdx i }) h
          ⟨w.request, w.id, w.hook.guard, false, false⟩ (w.hook.resulted w.id result)
        exact ⟨hsend.silent, hsend.empty⟩
      · next error =>
        have hraise := hushed_raise (s := { s with waiting := s.waiting.eraseIdx i }) h
          ⟨w.request, w.id, w.hook.guard, false, false⟩ error
        exact ⟨hraise.silent, hraise.empty⟩
  · exact ⟨rfl, fun _ hs => hs⟩

lemma onGate_cases (o : ServeOptions) (s : Serve) (e : GateEvent) : s.onGate o e = (s, []) ∨
    ∃ stack more, more.any ServeEffect.isSend = false ∧
      s.onGate o e = (({ s with stack }.stepGate o e).1, ({ s with stack }.stepGate o e).2 ++ more) := by
  have hstep : ∃ stack more, more.any ServeEffect.isSend = false ∧
      s.stepGate o e = (({ s with stack }.stepGate o e).1, ({ s with stack }.stepGate o e).2 ++ more) :=
    ⟨s.stack, [], rfl, by rw [List.append_nil]⟩
  unfold onGate
  split
  · split
    · next stack _ _ =>
      split
      · exact .inr ⟨stack, [], rfl, by rw [List.append_nil]⟩
      · exact .inl rfl
    · exact .inl rfl
  · split
    · exact .inr ⟨s.stack, [.uncaught], rfl, rfl⟩
    · exact .inl rfl
  · split
    · exact .inr hstep
    · exact .inl rfl
  · split
    · exact .inr hstep
    · exact .inl rfl
  · exact .inr hstep

lemma hushed_react (h : s.gate.closed = true) (hspent : s.gate.Spent) (e : ServeEvent) :
    Hushed (s.retires e = true) s (s.react o e) := by
  cases e with
  | gate e =>
    rw [react]
    rcases onGate_cases o s e with hnone | ⟨stack, more, hmore, hstep⟩
    · rw [hnone]
      exact ⟨rfl, fun _ hs => hs⟩
    · rw [hstep]
      unfold stepGate
      dsimp only
      rcases hspent.effects o.gate e with heffects | heffects
      · rw [heffects]
        exact ⟨by simpa using hmore, fun _ hs => hs⟩
      · rw [heffects]
        refine ⟨?_, fun _ _ => rfl⟩
        simp [perform, teardownAll, hmore, ServeEffect.isSend]
  | returned reply => exact hushed_onReturned h reply
  | settled i outcome => exact ⟨(hushed_onSettled h i outcome).silent, fun _ => (hushed_onSettled h i outcome).empty trivial⟩
  | registry registry => exact ⟨rfl, fun _ hs => hs⟩

lemma empty_of_closes {e : ServeEvent} (hopen : s.gate.closed = false) (hclosed : (s.react o e).1.gate.closed = true) :
    (s.react o e).1.subscriptions = [] := by
  rcases s.react_gate (o := o) e with hsame | ⟨e, rfl, -⟩
  · rw [hsame, hopen] at hclosed
    cases hclosed
  · rw [react] at hclosed ⊢
    rcases onGate_cases o s e with hnone | ⟨stack, more, -, hstep⟩
    · rw [hnone, hopen] at hclosed
      cases hclosed
    · rw [hstep] at hclosed ⊢
      rw [({ s with stack } : Serve).stepGate_frames e |>.1] at hclosed
      cases Gate.reacts (o := o.gate) s.gate e with
      | quiet hkept => rw [hkept, hopen] at hclosed; cases hclosed
      | handles _ hkept => rw [hkept, hopen] at hclosed; cases hclosed
      | torn _ _ _ heffects =>
        have htorn := (stepGate_torn (o := o) (s := { s with stack }) heffects).1
        exact congrArg Serve.subscriptions htorn

lemma closed_react (h : s.gate.closed = true) (e : ServeEvent) : (s.react o e).1.gate.closed = true := by
  rcases s.react_gate (o := o) e with hsame | ⟨e, -, hgate⟩
  · rw [hsame, h]
  · rw [hgate]
    cases Gate.reacts (o := o.gate) s.gate e with
    | quiet hkept => rw [hkept, h]
    | handles _ hkept => rw [hkept, h]
    | torn hclosed => exact hclosed

end Serve

/-! ## A run -/

namespace SocketViewers

variable {σ : Type} {em : Emulator σ} {o : ℕ → ServeOptions} {ref : SessionRef}

lemma told_cases (s : SocketViewers σ) (e : SocketViewersEvent) : s.told e = [] ∨ ∃ e', s.told e = [e'] := by
  cases e with
  | viewers e => exact .inr ⟨e, rfl⟩
  | sink v => exact .inl rfl
  | socket v e next =>
    rw [told]
    split
    · cases nodeSocketDuplex e with
      | none => exact .inl rfl
      | some call => exact .inr ⟨_, rfl⟩
    · exact .inl rfl

/-- A closed connection holds no subscription, and what hung up is closed. -/
structure Retired (s : SocketViewers σ) : Prop where
  empty : ∀ v, (s.viewers.serve v).gate.closed = true → (s.viewers.serve v).subscriptions = []
  closed : ∀ v, s.hungUp v → (s.viewers.serve v).gate.closed = true

lemma retired_viewers {s : Viewers σ} (hspent : ∀ v, (s.serve v).gate.closed = true → (s.serve v).gate.Spent)
    (e : ViewersEvent) (hretires : ∀ v e', e = .viewer v e' → (s.serve v).retires e' = true) (v : ℕ) :
    ((s.serve v).gate.closed = true → ((s.step em o ref e).serve v).gate.closed = true) ∧
      (((s.serve v).gate.closed = true → (s.serve v).subscriptions = []) →
        ((s.step em o ref e).serve v).gate.closed = true → ((s.step em o ref e).serve v).subscriptions = []) := by
  cases e with
  | output bytes => exact ⟨fun h => h, fun h => h⟩
  | viewer u e =>
    by_cases hv : v = u
    · subst hv
      have hserve : (s.step em o ref (.viewer v e)).serve v = ((s.serve v).react (o v) e).1 := by
        simp [Viewers.step]
      rw [hserve]
      refine ⟨fun h => Serve.closed_react h e, fun hempty hclosed => ?_⟩
      cases hs : (s.serve v).gate.closed with
      | false => exact Serve.empty_of_closes hs hclosed
      | true => exact (Serve.hushed_react hs (hspent v hs) e).empty (hretires v e rfl) (hempty hs)
    · have hserve : (s.step em o ref (.viewer u e)).serve v = s.serve v := by
        simp [Viewers.step, hv]
      rw [hserve]
      exact ⟨fun h => h, fun h => h⟩

lemma queues_eq_false {s : SocketViewers σ} {v : ℕ} (hclosed : (s.viewers.serve v).gate.closed = true)
    (hspent : (s.viewers.serve v).gate.Spent) (e : SocketViewersEvent) : s.queues o v e = false := by
  have htold : ∀ e, (s.told e).any (fun
      | .viewer u e => decide (u = v) && ((s.viewers.serve u).react (o u) e).2.any ServeEffect.isSend
      | .output _ => false) = false := by
    intro e
    rw [List.any_eq_false]
    intro e _
    cases e with
    | output bytes => simp
    | viewer u e =>
      by_cases hu : u = v
      · subst hu
        simp [(Serve.hushed_react (o := o u) hclosed hspent e).silent]
      · simp [hu]
  cases e with
  | sink u => simp [queues, hclosed]
  | viewers e => exact htold (.viewers e)
  | socket u e next => exact htold (.socket u e next)

lemma Retired.step {s : SocketViewers σ} (h : s.Retired)
    (hspent : ∀ v, (s.viewers.serve v).gate.closed = true → (s.viewers.serve v).gate.Spent) {e : SocketViewersEvent}
    (hheeds : s.heeds o ref e = true) : (s.step em o ref e).Retired := by
  unfold heeds at hheeds
  rw [Bool.and_eq_true, List.all_eq_true] at hheeds
  obtain ⟨hviewers, hlast⟩ := hheeds
  -- what the viewers are told
  have hkept : ∀ v, ((s.viewers.serve v).gate.closed = true → ((s.step em o ref e).viewers.serve v).gate.closed = true) ∧
      (((s.step em o ref e).viewers.serve v).gate.closed = true →
        ((s.step em o ref e).viewers.serve v).subscriptions = []) := by
    intro v
    rcases s.told_cases e with hnone | ⟨e', hone⟩
    · have hsame : (s.step em o ref e).viewers = s.viewers := by
        show (s.told e).foldl _ _ = _
        rw [hnone, List.foldl_nil]
      rw [hsame]
      exact ⟨fun hc => hc, h.empty v⟩
    · have hnext : (s.step em o ref e).viewers = s.viewers.step em o ref e' := by
        show (s.told e).foldl _ _ = _
        rw [hone, List.foldl_cons, List.foldl_nil]
      have hone' := (Bool.and_eq_true _ _).mp (hviewers e' (hone ▸ List.mem_singleton_self e'))
      have hretired := @retired_viewers _ em o ref _ hspent e' (fun u e he => by
        subst he
        exact hone'.2) v
      rw [hnext]
      exact ⟨hretired.1, hretired.2 (h.empty v)⟩
  refine ⟨fun v => (hkept v).2, fun v hhung => (hkept v).1 ?_⟩
  -- the socket hangs up at this event, or had hung up before
  by_cases hbefore : s.hungUp v
  · exact h.closed v hbefore
  · cases e with
    | viewers e => exact absurd hhung hbefore
    | sink u => exact absurd hhung hbefore
    | socket u e next =>
      by_cases hv : v = u
      · subst hv
        cases e with
        | ended => exact hlast
        | close => exact hlast
        | _ =>
          refine absurd ?_ hbefore
          simpa [hungUp, SocketViewers.step, Socket.after] using hhung
      · refine absurd ?_ hbefore
        rw [hungUp, SocketViewers.step] at hhung
        dsimp only at hhung
        split at hhung
        · simpa [hungUp, hv] using hhung
        · exact hhung

section Runs

variable {sessionId : ℕ → Bytes} {streamId : ℕ} {size : Size}

lemma viewers_run (es : List SocketViewersEvent) :
    ((socketViewersMachine em o ref sessionId streamId size).run es).viewers =
      (viewersMachine em o ref sessionId streamId size).run
        ((socketViewersMachine em o ref sessionId streamId size).outputs told es) := by
  induction es using List.reverseRecOn with
  | nil => rfl
  | append_singleton es e ih =>
    rw [Machine.run_snoc, Machine.outputs_snoc, Machine.run_append, ← ih]
    rfl

lemma meets_viewers {es : List SocketViewersEvent}
    (h : (socketViewersMachine em o ref sessionId streamId size).Meets (fun s e => s.heeds o ref e = true) es) :
    (viewersMachine em o ref sessionId streamId size).Meets (fun s e => Viewers.heeds o ref s e = true)
      ((socketViewersMachine em o ref sessionId streamId size).outputs told es) := by
  induction es using List.reverseRecOn with
  | nil => exact Machine.meets_nil _ _
  | append_singleton es e ih =>
    obtain ⟨hbefore, hheeds⟩ := (Machine.meets_snoc _).1 h
    rw [Machine.outputs_snoc]
    rcases told_cases ((socketViewersMachine em o ref sessionId streamId size).run es) e with hnone | ⟨e', hone⟩
    · rw [hnone, List.append_nil]
      exact ih hbefore
    · rw [hone, Machine.meets_snoc]
      refine ⟨ih hbefore, ?_⟩
      unfold heeds at hheeds
      rw [hone, List.all_cons, Bool.and_eq_true, Bool.and_eq_true, Bool.and_eq_true] at hheeds
      rw [← viewers_run]
      exact hheeds.1.1.1

lemma spent_run {es : List SocketViewersEvent}
    (h : (socketViewersMachine em o ref sessionId streamId size).Meets (fun s e => s.heeds o ref e = true) es) (v : ℕ)
    (hclosed : (((socketViewersMachine em o ref sessionId streamId size).run es).viewers.serve v).gate.closed = true) :
    (((socketViewersMachine em o ref sessionId streamId size).run es).viewers.serve v).gate.Spent := by
  rw [viewers_run] at hclosed ⊢
  exact (((sized_run (meets_viewers h)).attended v).dead hclosed).1

lemma retired_run {es : List SocketViewersEvent}
    (h : (socketViewersMachine em o ref sessionId streamId size).Meets (fun s e => s.heeds o ref e = true) es) :
    ((socketViewersMachine em o ref sessionId streamId size).run es).Retired := by
  induction es using List.reverseRecOn with
  | nil => exact ⟨fun _ _ => rfl, fun v hhung => by rcases hhung with hhung | hhung <;> cases hhung⟩
  | append_singleton es e ih =>
    obtain ⟨hbefore, hheeds⟩ := (Machine.meets_snoc _).1 h
    rw [Machine.run_snoc]
    exact (ih hbefore).step (spent_run hbefore) hheeds

end Runs

end SocketViewers

/-! ## A phone that hangs up -/

namespace TwoViewers

/-- The laptop and the phone resize, and what the phone does last. -/
def hangUp (last : List SocketViewersEvent) : List SocketViewersEvent :=
  (resizing 0 (.ok .null) ++ resizing 1 (.ok .null)).map .viewers ++ last

/-- The socket of the phone ends and closes. -/
def socketEnds : List SocketViewersEvent :=
  [.socket 1 .ended (.returned (.ok .null)), .socket 1 .close (.returned (.ok .null))]

end TwoViewers

end Pherry.Host
