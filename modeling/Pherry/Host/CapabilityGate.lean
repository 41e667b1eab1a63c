import Pherry.Host.ServeFrames

/-!
# The capability gate

What a served connection enforces: the capabilities of its Hello that it serves, and no call into a
session or a hook for a method whose capability is not among them.
-/

namespace Pherry.Host

open Lib Channel Protocol

/-! ## The negotiated capabilities -/

/-- The `Hello` a call was made for. -/
def Call.hello : Call → Option Hello
  | ack hello => some hello
  | verify hello => some hello
  | handle _ => none

namespace Gate

variable (o : GateOptions) (caps : List JsString)

/-- Every `Hello` in hand lists these capabilities, and what is enforced was negotiated with them. -/
structure Knows (s : Gate) : Prop where
  calls : ∀ call ∈ s.calls, ∀ hello, call.hello = some hello → hello.capabilities = caps
  pending : ∀ hello ∈ s.pending, hello.capabilities = caps
  negotiated : s.negotiated = [] ∨ s.negotiated = negotiate o.capabilities caps
  serving : s.phase = .serving → s.negotiated = negotiate o.capabilities caps

/-- A step that knows the capabilities, and advertises those that are served. -/
structure Tells (r : Gate × List GateEffect) : Prop where
  knows : Knows o caps r.1
  ack : ∀ ack, .ack ack ∈ r.2 → ack.capabilities = o.capabilities

variable {o caps}

lemma knows_init (sessionId : Bytes) : Knows o caps (.init sessionId) where
  calls _ hcall := by cases hcall
  pending _ hhello := by cases hhello
  negotiated := Or.inl rfl
  serving h := by cases h

lemma Knows.keep {s t : Gate} (h : Knows o caps s)
    (hcalls : ∀ call ∈ t.calls, call ∈ s.calls ∨ call.hello = none)
    (hpending : ∀ hello ∈ t.pending, hello ∈ s.pending) (hnegotiated : t.negotiated = s.negotiated)
    (hphase : t.phase = .serving → s.phase = .serving) : Knows o caps t where
  calls call hcall hello hhello := by
    rcases hcalls call hcall with hold | hnone
    · exact h.calls call hold hello hhello
    · rw [hnone] at hhello
      cases hhello
  pending hello hhello := h.pending hello (hpending hello hhello)
  negotiated := by
    rw [hnegotiated]
    exact h.negotiated
  serving hserving := by
    rw [hnegotiated]
    exact h.serving (hphase hserving)

lemma Knows.tells {s : Gate} (h : Knows o caps s) : Tells o caps (s, []) :=
  ⟨h, fun _ hack => by cases hack⟩

lemma Knows.closeChannel {s : Gate} (h : Knows o caps s) : Tells o caps s.closeChannel := by
  rcases s.closeChannel_eq with heq | heq
  · rw [heq]
    exact h.tells
  · rw [heq]
    refine ⟨h.keep (fun call hcall => Or.inl hcall) (fun hello hhello => hhello) rfl nofun, ?_⟩
    intro ack hack
    rcases List.mem_singleton.1 hack with heq
    cases heq

lemma Knows.failClosed {s : Gate} (h : Knows o caps s) (error : GateError) :
    Tells o caps (s.failClosed error) := by
  have hdead : Knows o caps { s with phase := .dead, timer := false } :=
    h.keep (fun call hcall => Or.inl hcall) (fun hello hhello => hhello) rfl nofun
  refine ⟨hdead.closeChannel.knows, fun ack hack => ?_⟩
  rcases List.mem_cons.1 hack with heq | hclosed
  · cases heq
  · exact hdead.closeChannel.ack ack hclosed

lemma Knows.replay {s : Gate} (h : Knows o caps s) (frames : List Bytes) :
    Tells o caps (s.replay frames) := by
  cases frames with
  | nil => exact h.tells
  | cons payload left =>
    refine ⟨h.keep (fun call hcall => ?_) (fun hello hhello => hhello) rfl id, fun ack hack => ?_⟩
    · rcases List.mem_cons.1 hcall with rfl | hold
      · exact Or.inr rfl
      · exact Or.inl hold
    · rcases List.mem_singleton.1 hack with heq
      cases heq

lemma Knows.negotiate {s t : Gate} (h : Knows o caps s) {hello : Hello}
    (hcaps : hello.capabilities = caps) (hcalls : t.calls = s.calls) (hpending : t.pending = s.pending)
    (hnegotiated : t.negotiated = Protocol.negotiate o.capabilities hello.capabilities) :
    Knows o caps t where
  calls := by
    rw [hcalls]
    exact h.calls
  pending := by
    rw [hpending]
    exact h.pending
  negotiated := Or.inr (by rw [hnegotiated, hcaps])
  serving _ := by rw [hnegotiated, hcaps]

lemma Knows.admitHello {s : Gate} (h : Knows o caps s) {hello : Hello}
    (hcaps : hello.capabilities = caps) : Tells o caps (s.admitHello o hello) := by
  have hnegotiated : Knows o caps
      { s with
        negotiated := Protocol.negotiate o.capabilities hello.capabilities
        phase := .serving
        buffered := [] } := h.negotiate hcaps rfl rfl rfl
  exact hnegotiated.replay s.buffered

lemma Knows.acked {s : Gate} (h : Knows o caps s) {hello : Hello}
    (hcaps : hello.capabilities = caps) : Tells o caps (s.acked o hello) := by
  unfold Gate.acked
  split
  · exact h.failClosed _
  split
  · unfold runDeviceGate
    split
    · exact h.failClosed _
    · refine ⟨⟨fun call hcall other hother => ?_, h.pending, h.negotiated, h.serving⟩, ?_⟩
      · rcases List.mem_cons.1 hcall with rfl | hold
        · cases hother
          exact hcaps
        · exact h.calls call hold other hother
      · intro ack hack
        rcases List.mem_singleton.1 hack with heq
        cases heq
  · have hnegotiated : Knows o caps
        { s with
          negotiated := Protocol.negotiate o.capabilities hello.capabilities
          phase := .serving } := h.negotiate hcaps rfl rfl rfl
    exact hnegotiated.tells

lemma Knows.handleHello {s : Gate} (h : Knows o caps s) {payload : Bytes}
    (hparse : ∀ hello, o.parseHello payload = some hello → hello.capabilities = caps) :
    Tells o caps (s.handleHello o payload) := by
  have htimer : Knows o caps { s with timer := false } :=
    h.keep (fun call hcall => Or.inl hcall) (fun hello hhello => hhello) rfl id
  unfold Gate.handleHello
  dsimp only
  split
  · exact htimer.failClosed _
  next hello hhello =>
  have hcaps := hparse hello hhello
  split
  · exact htimer.acked hcaps
  · refine ⟨⟨fun call hcall other hother => ?_, h.pending, h.negotiated, h.serving⟩, ?_⟩
    · rcases List.mem_cons.1 hcall with rfl | hold
      · cases hother
        exact hcaps
      · exact h.calls call hold other hother
    · intro ack hack
      rcases List.mem_singleton.1 hack with heq
      cases heq
      rfl

lemma Knows.onControl {s : Gate} (h : Knows o caps s) {payload : Bytes}
    (hparse : ∀ hello, o.parseHello payload = some hello → hello.capabilities = caps) :
    Tells o caps (s.onControl o payload) := by
  unfold Gate.onControl
  split
  · exact h.tells
  · exact h.handleHello hparse
  · split
    · exact h.failClosed _
    · have hbuffered : Knows o caps { s with buffered := s.buffered ++ [payload] } :=
        h.keep (fun call hcall => Or.inl hcall) (fun hello hhello => hhello) rfl id
      exact hbuffered.tells
  · exact h.replay [payload]

lemma Knows.verifyReturned {s : Gate} (h : Knows o caps s) (answer : Answer) :
    Tells o caps (s.verifyReturned o answer) := by
  unfold Gate.verifyReturned
  split
  · next hello calls hcalls =>
    have hcaps : hello.capabilities = caps :=
      h.calls (.verify hello) (by rw [hcalls]; exact List.mem_cons_self) hello rfl
    have hpop : Knows o caps { s with calls } :=
      h.keep (fun call hcall => Or.inl (by rw [hcalls]; exact List.mem_cons_of_mem _ hcall))
        (fun hello hhello => hhello) rfl id
    dsimp only
    split
    · exact hpop.admitHello hcaps
    · exact hpop.failClosed _
    · exact hpop.failClosed _
    · refine Knows.tells ⟨hpop.calls, fun other hother => ?_, h.negotiated, nofun⟩
      rcases List.mem_append.1 hother with hold | hnew
      · exact h.pending other hold
      · rw [List.mem_singleton.1 hnew]
        exact hcaps
  · exact h.tells

lemma Knows.onVerdict {s : Gate} (h : Knows o caps s) (i : ℕ) (reply : Except Unit Bool) :
    Tells o caps (s.onVerdict o i reply) := by
  unfold Gate.onVerdict
  split
  · split
    · exact h.tells
    next hello hhello =>
    have hcaps := h.pending hello (List.mem_of_getElem? hhello)
    have htake : Knows o caps { s with pending := s.pending.eraseIdx i } :=
      h.keep (fun call hcall => Or.inl hcall) (fun hello hhello => List.mem_of_mem_eraseIdx hhello) rfl
        id
    dsimp only
    split
    · split
      · exact htake.admitHello hcaps
      · exact htake.failClosed _
      · exact htake.failClosed _
    · exact htake.tells
  · exact h.tells

/-- A step keeps what the gate knows, if every `Hello` that arrives lists these capabilities. -/
lemma Knows.react {s : Gate} (h : Knows o caps s) {e : GateEvent}
    (hparse : ∀ payload hello, e = .frame ⟨.control, payload⟩ → o.parseHello payload = some hello →
      hello.capabilities = caps) : Tells o caps (s.react o e) := by
  have hpop : ∀ call calls, s.calls = call :: calls → Knows o caps { s with calls } := by
    intro call calls hcalls
    exact h.keep (fun call hcall => Or.inl (by rw [hcalls]; exact List.mem_cons_of_mem _ hcall))
      (fun hello hhello => hhello) rfl id
  cases e with
  | frame frame =>
    obtain ⟨tag, payload⟩ := frame
    show Tells o caps (s.onFrame o ⟨tag, payload⟩)
    unfold Gate.onFrame
    split
    · exact h.tells
    · cases tag with
      | control => exact h.onControl fun hello hhello => hparse payload hello rfl hhello
      | binary => exact h.tells
  | timer =>
    have htimer : Knows o caps { s with timer := false } :=
      h.keep (fun call hcall => Or.inl hcall) (fun hello hhello => hhello) rfl id
    show Tells o caps s.onTimer
    unfold Gate.onTimer
    split
    · dsimp only
      split
      · exact htimer.failClosed _
      · exact htimer.tells
    · exact h.tells
  | ackReturned ok =>
    show Tells o caps (s.ackReturned o ok)
    unfold Gate.ackReturned
    split
    · next hello calls hcalls =>
      split
      · exact (hpop _ _ hcalls).acked
          (h.calls (.ack hello) (by rw [hcalls]; exact List.mem_cons_self) hello rfl)
      · exact (hpop _ _ hcalls).tells
    · exact h.tells
  | verifyReturned answer => exact h.verifyReturned answer
  | handlerReturned ok =>
    show Tells o caps (s.handlerReturned ok)
    unfold Gate.handlerReturned
    split
    · next left calls hcalls =>
      split
      · exact (hpop _ _ hcalls).replay left
      · exact (hpop _ _ hcalls).tells
    · exact h.tells
  | verdict i reply => exact h.onVerdict i reply
  | channelClosed => exact h.closeChannel
  | close =>
    refine ⟨h.keep (fun call hcall => Or.inl hcall) (fun hello hhello => hhello) rfl nofun, ?_⟩
    intro ack hack
    rcases List.mem_singleton.1 hack with heq
    cases heq

end Gate

/-! ## What a method does -/

/-- The method that a call into a session is made for, where one method alone makes it. -/
def SessionOp.method : SessionOp → Option Method
  | subscribe => some .subscribe
  | observeViewer _ => some .subscribe
  | resizeViewer _ => some .resize
  | write _ => some .input
  | unsubscribe => none
  | releaseViewer => none

/-- The method that a hook is called for. -/
def Hook.method : Hook → Method
  | reserve _ => .reserve
  | claim _ => .claim
  | listSessions => .list
  | options => .options
  | start _ => .start

/-- The method that something is done for, of what reaches beyond the connection. -/
def Todo.method : Todo → Option Method
  | session _ op => op.method
  | hook h => some h.method
  | send _ => none
  | delete _ => none
  | touch _ => none
  | set _ => none
  | onError => none

/-- The method of an effect. -/
def ServeEffect.method : ServeEffect → Option Method
  | session _ op => op.method
  | hook h => some h.method
  | gate _ => none
  | respond _ _ => none
  | onError => none
  | uncaught => none

/-- The capability a method requires is among these. -/
def Permits (caps : List JsString) (method : Method) : Prop :=
  ∀ cap, requiredCapability method = some cap → cap ∈ caps

/-- What is to do is permitted. -/
def Allowed (caps : List JsString) (todo : List Todo) : Prop :=
  ∀ t ∈ todo, ∀ method, t.method = some method → Permits caps method

lemma allowed_nil (caps : List JsString) : Allowed caps [] := fun _ ht => by cases ht

lemma Allowed.append {caps : List JsString} {todo more : List Todo} (h : Allowed caps todo)
    (hmore : Allowed caps more) : Allowed caps (todo ++ more) := by
  intro t ht
  rcases List.mem_append.1 ht with ht | ht
  · exact h t ht
  · exact hmore t ht

lemma Allowed.tail {caps : List JsString} {t : Todo} {left : List Todo}
    (h : Allowed caps (t :: left)) : Allowed caps left :=
  fun other hother => h other (List.mem_cons_of_mem _ hother)

lemma Allowed.cons {caps : List JsString} {t : Todo} {left : List Todo}
    (ht : ∀ method, t.method = some method → Permits caps method) (h : Allowed caps left) :
    Allowed caps (t :: left) := by
  intro other hother
  rcases List.mem_cons.1 hother with rfl | hother
  · exact ht
  · exact h other hother

lemma allowed_send (caps : List JsString) (response : Response) : Allowed caps [.send response] :=
  .cons nofun (allowed_nil caps)

lemma permits_of_none {caps : List JsString} {method : Method}
    (h : requiredCapability method = none) : Permits caps method := by
  intro cap hcap
  rw [h] at hcap
  cases hcap

namespace Connection

variable (c : Connection) (id : JsString)

lemma allowed_gated (method : Method) {todo : List Todo}
    (h : Permits c.negotiated method → Allowed c.negotiated todo) :
    Allowed c.negotiated (c.gated id method todo) := by
  unfold gated
  split
  · next hnone => exact h (permits_of_none hnone)
  · next cap hcap =>
    split
    · next hmem =>
      refine h fun other hother => ?_
      rw [hcap] at hother
      cases hother
      exact hmem
    · exact allowed_send _ _

lemma allowed_teardown (ref : SessionRef) (departed : Bool) (caps : List JsString) :
    Allowed caps (c.teardown ref departed) := by
  unfold teardown
  split
  · cases departed with
    | true => exact .cons nofun (.cons nofun (.cons nofun (allowed_nil caps)))
    | false => exact .cons nofun (.cons nofun (allowed_nil caps))
  · exact allowed_nil caps

lemma allowed_handleSubscribe (params : SubscribeParams)
    (h : Permits c.negotiated .subscribe) : Allowed c.negotiated (c.handleSubscribe id params) := by
  have hmethod : ∀ method, some Method.subscribe = some method → Permits c.negotiated method := by
    intro method hmethod
    cases hmethod
    exact h
  unfold handleSubscribe
  split
  · exact allowed_send _ _
  split
  · exact allowed_send _ _
  · refine Allowed.append (Allowed.append (c.allowed_teardown _ _ _) ?_) ?_
    · cases params.viewport with
      | none => exact allowed_nil _
      | some size => exact .cons hmethod (allowed_nil _)
    · exact .cons nofun (.cons nofun (.cons hmethod (.cons nofun (allowed_nil _))))

lemma allowed_hooked (present : Bool) (method : Method) {hook : Hook}
    (h : Permits c.negotiated hook.method) :
    Allowed c.negotiated (hooked present id method hook) := by
  unfold hooked
  split
  · refine .cons (fun other hother => ?_) (allowed_nil _)
    cases hother
    exact h
  · exact allowed_send _ _

lemma allowed_serve (method : Method) (params : ParamsOf method) :
    Allowed c.negotiated (c.serve id method params) := by
  cases method with
  | subscribe => exact c.allowed_gated id .subscribe (c.allowed_handleSubscribe id params)
  | input =>
    refine c.allowed_gated id .input fun h => ?_
    unfold handleInput
    split
    · exact allowed_send _ _
    · refine .cons (fun method hmethod => ?_) (allowed_send _ _)
      cases hmethod
      exact h
  | resize =>
    refine c.allowed_gated id .resize fun h => ?_
    unfold handleResize
    split
    · exact allowed_send _ _
    · refine .cons (fun method hmethod => ?_) (.cons nofun (allowed_send _ _))
      cases hmethod
      exact h
  | unsubscribe => exact (c.allowed_teardown _ _ _).append (allowed_send _ _)
  | reserve => exact c.allowed_hooked id _ _ (permits_of_none rfl)
  | claim => exact c.allowed_hooked id _ _ (permits_of_none rfl)
  | list => exact c.allowed_hooked id _ _ (permits_of_none rfl)
  | options => exact c.allowed_gated id .options fun h => c.allowed_hooked id _ _ h
  | start => exact c.allowed_gated id .start fun h => c.allowed_hooked id _ _ h
  | approve => exact allowed_send _ _
  | spawn => exact allowed_send _ _
  | raise => exact allowed_send _ _

lemma allowed_dispatch
    (parseParams : (method : Method) → Option Json → Except Json (ParamsOf method))
    (request : RpcRequest) : Allowed c.negotiated (c.dispatch parseParams request) := by
  unfold dispatch
  split
  · exact allowed_send _ _
  split
  · exact allowed_send _ _
  · exact c.allowed_serve _ _ _

end Connection

/-! ## Refusals -/

/-- The methods that no host serves. -/
def isUnserved (method : Method) : Bool :=
  method = .approve || method = .spawn || method = .raise

/-- The capabilities a request asks for on its stream. -/
def streamCapabilities : (method : Method) → ParamsOf method → List JsString
  | .subscribe, params => params.capabilities.getD []
  | _, _ => []

lemma capabilityRefused_inj {id cap cap' : JsString} :
    Todo.send (capabilityRefused id cap) = .send (capabilityRefused id cap') ↔ cap = cap' := by
  constructor
  · intro h
    simp only [capabilityRefused, Todo.send.injEq, Response.failure.injEq, ErrorBody.mk.injEq,
      Option.some.injEq, Json.obj.injEq, List.cons.injEq, Prod.mk.injEq, Json.str.injEq] at h
    exact h.2.2.2.1.2
  · rintro rfl
    rfl

namespace Connection

/-- The refusal of a capability. -/
def Refuses (id cap : JsString) (todo : List Todo) : Prop := todo = [.send (capabilityRefused id cap)]

lemma not_refuses_failed (id cap : JsString) {code : ErrorCode} {message : JsString}
    (h : code ≠ .forbidden) : ¬ Refuses id cap [.send (.failed id code message)] := by
  intro hrefuses
  simp only [Refuses, Response.failed, capabilityRefused, List.cons.injEq, Todo.send.injEq,
    Response.failure.injEq, ErrorBody.mk.injEq, h, false_and, and_false] at hrefuses

lemma not_refuses_length {id cap : JsString} {todo : List Todo} (h : 2 ≤ todo.length) :
    ¬ Refuses id cap todo := by
  intro hrefuses
  rw [hrefuses] at h
  exact absurd h (Nat.not_succ_le_self 1)

variable (c : Connection) (id cap : JsString)

lemma refuses_gated_iff (method : Method) {todo : List Todo} (h : ¬ Refuses id cap todo) :
    Refuses id cap (c.gated id method todo) ↔
      requiredCapability method = some cap ∧ cap ∉ c.negotiated := by
  unfold gated
  split
  · next hnone =>
    rw [hnone]
    exact ⟨fun hrefuses => absurd hrefuses h, fun hsome => by cases hsome.1⟩
  · next other hother =>
    rw [hother]
    split
    · next hmem =>
      refine ⟨fun hrefuses => absurd hrefuses h, fun hnot => ?_⟩
      cases hnot.1
      exact absurd hmem hnot.2
    · next hnot =>
      constructor
      · intro hrefuses
        have heq := capabilityRefused_inj.1 (List.head_eq_of_cons_eq hrefuses)
        rw [← heq]
        exact ⟨rfl, hnot⟩
      · rintro ⟨heq, -⟩
        cases heq
        rfl

lemma not_refuses_handleSubscribe {params : SubscribeParams}
    (h : ∀ cap ∈ streamCapabilities .subscribe params, cap ∈ c.negotiated) :
    ¬ Refuses id cap (c.handleSubscribe id params) := by
  have hnone : (params.capabilities.getD []).find? (fun cap => cap ∉ c.negotiated) = none := by
    rw [List.find?_eq_none]
    intro cap hcap
    simpa using h cap hcap
  unfold handleSubscribe
  rw [hnone]
  dsimp only
  split
  · exact not_refuses_failed id cap nofun
  · apply not_refuses_length
    rw [List.length_append]
    exact Nat.le_add_left_of_le (Nat.le_add_left 2 2)

lemma not_refuses_hooked (present : Bool) (method : Method) (hook : Hook) :
    ¬ Refuses id cap (hooked present id method hook) := by
  unfold hooked
  split
  · intro hrefuses
    cases hrefuses
  · exact not_refuses_failed id cap nofun

/-- A host refuses a capability where its method requires one that was not negotiated. -/
lemma refuses_serve_iff {method : Method} (hserved : isUnserved method = false)
    (params : ParamsOf method)
    (hstream : ∀ cap ∈ streamCapabilities method params, cap ∈ c.negotiated) :
    Refuses id cap (c.serve id method params) ↔
      requiredCapability method = some cap ∧ cap ∉ c.negotiated := by
  have hfree : ∀ {todo : List Todo} {method : Method}, requiredCapability method = none →
      ¬ Refuses id cap todo →
      (Refuses id cap todo ↔ requiredCapability method = some cap ∧ cap ∉ c.negotiated) := by
    intro todo method hnone hnot
    rw [hnone]
    exact ⟨fun hrefuses => absurd hrefuses hnot, fun hsome => by cases hsome.1⟩
  cases method with
  | subscribe => exact c.refuses_gated_iff id cap .subscribe (c.not_refuses_handleSubscribe id cap hstream)
  | input =>
    refine c.refuses_gated_iff id cap .input ?_
    unfold handleInput
    split
    · exact not_refuses_failed id cap nofun
    · exact not_refuses_length (le_refl 2)
  | resize =>
    refine c.refuses_gated_iff id cap .resize ?_
    unfold handleResize
    split
    · exact not_refuses_failed id cap nofun
    · exact not_refuses_length (Nat.le_succ 2)
  | unsubscribe =>
    refine hfree rfl fun hrefuses => ?_
    have hlast := congrArg List.getLast? hrefuses
    simp [serve, handleUnsubscribe, capabilityRefused] at hlast
  | reserve => exact hfree rfl (not_refuses_hooked id cap _ _ _)
  | claim => exact hfree rfl (not_refuses_hooked id cap _ _ _)
  | list => exact hfree rfl (not_refuses_hooked id cap _ _ _)
  | options => exact c.refuses_gated_iff id cap .options (not_refuses_hooked id cap _ _ _)
  | start => exact c.refuses_gated_iff id cap .start (not_refuses_hooked id cap _ _ _)
  | approve => cases hserved
  | spawn => cases hserved
  | raise => cases hserved

variable (parseParams : (method : Method) → Option Json → Except Json (ParamsOf method))

lemma dispatch_ok {method : Method} {params : Option Json} {parsed : ParamsOf method}
    (h : parseParams method params = .ok parsed) :
    c.dispatch parseParams ⟨id, method.name, params⟩ = c.serve id method parsed := by
  simp only [dispatch, methodOf_name, h]

end Connection

/-! ## What a served connection does -/

/-- An effect that heeds the capabilities: it is permitted, and an ack advertises what is served. -/
structure ServeEffect.Heeds (caps served : List JsString) (effect : ServeEffect) : Prop where
  permits : ∀ method, effect.method = some method → Permits caps method
  ack : ∀ ack, effect = .gate (.ack ack) → ack.capabilities = served

lemma heeds_quiet {caps served : List JsString} {effect : ServeEffect}
    (hmethod : effect.method = none) (hack : ∀ ack, effect ≠ .gate (.ack ack)) :
    effect.Heeds caps served where
  permits method hsome := by
    rw [hmethod] at hsome
    cases hsome
  ack ack heq := absurd heq (hack ack)

/-- Effects that heed the capabilities. -/
def Heeded (caps served : List JsString) (effects : List ServeEffect) : Prop :=
  ∀ effect ∈ effects, effect.Heeds caps served

section Heeded

variable {caps served : List JsString}

lemma Heeded.append {effects more : List ServeEffect} (h : Heeded caps served effects)
    (hmore : Heeded caps served more) : Heeded caps served (effects ++ more) := by
  intro effect heffect
  rcases List.mem_append.1 heffect with heffect | heffect
  · exact h effect heffect
  · exact hmore effect heffect

lemma heeded_nil : Heeded caps served [] := fun _ heffect => by cases heffect

lemma heeded_singleton {effect : ServeEffect} (h : effect.Heeds caps served) :
    Heeded caps served [effect] := by
  intro other hother
  rw [List.mem_singleton.1 hother]
  exact h

end Heeded

namespace Serve

variable {o : ServeOptions} {caps served : List JsString}

/-- What the running handlers have left to do is permitted. -/
def Heeds (caps : List JsString) (s : Serve) : Prop :=
  ∀ h call left, (h, Stage.calling call left) ∈ s.stack → Allowed caps left

/-- A step that heeds the capabilities. -/
structure HeedsStep (caps served : List JsString) (r : Serve × List ServeEffect) : Prop where
  heeds : Heeds caps r.1
  heeded : Heeded caps served r.2

lemma Heeds.nothing {s : Serve} (h : Heeds caps s) : HeedsStep caps served (s, []) := ⟨h, heeded_nil⟩

lemma HeedsStep.prepend {effects : List ServeEffect} {r : Serve × List ServeEffect}
    (h : HeedsStep caps served r) (heffects : Heeded caps served effects) : HeedsStep caps served (r.1, effects ++ r.2) :=
  ⟨h.heeds, heffects.append h.heeded⟩

lemma Heeds.pop {s : Serve} {entry : Handler × Stage} {stack : List (Handler × Stage)}
    (h : Heeds caps s) (hstack : s.stack = entry :: stack) : Heeds caps { s with stack } :=
  fun handler call left hmem =>
    h handler call left (by rw [hstack]; exact List.mem_cons_of_mem _ hmem)

lemma advance_allowed (s : Serve) (request : ℕ) {todo : List Todo} (h : Allowed caps todo) :
    Heeded caps served (s.advance request todo).2.1 ∧
      ∀ call left, (s.advance request todo).2.2 = .called call left → Allowed caps left := by
  induction todo generalizing s with
  | nil => exact ⟨heeded_nil, fun _ _ heq => by cases heq⟩
  | cons t left ih =>
    have hcall : ∀ {s' : Serve} {effect : ServeEffect} {call : Todo}, effect.Heeds caps served →
        Heeded caps served (s', [effect], Stop.called call left).2.1 ∧
          ∀ call' left', (s', [effect], Stop.called call left).2.2 = .called call' left' →
            Allowed caps left' := by
      intro s' effect call heffect
      refine ⟨heeded_singleton heffect, fun call' left' heq => ?_⟩
      cases heq
      exact h.tail
    have hhead := h t List.mem_cons_self
    cases t with
    | send response =>
      unfold advance
      split
      · exact ih s h.tail
      split
      · exact hcall (heeds_quiet rfl fun _ heq => by cases heq)
      · exact ⟨heeded_nil, fun _ _ heq => by cases heq⟩
    | delete ref => exact ih _ h.tail
    | touch ref => exact ih _ h.tail
    | set ref => exact ih _ h.tail
    | session ref op => exact hcall ⟨hhead, fun _ heq => by cases heq⟩
    | hook hook => exact hcall ⟨hhead, fun _ heq => by cases heq⟩
    | onError => exact hcall (heeds_quiet rfl fun _ heq => by cases heq)

lemma heeds_leave {s : Serve} (hs : Heeds caps s) (h : Handler) (ok : Bool) :
    HeedsStep caps served (s.leave h ok) := by
  have heffects : Heeded caps served (if ok then [] else [ServeEffect.uncaught]) := by
    cases ok with
    | true => exact heeded_nil
    | false => exact heeded_singleton ⟨nofun, nofun⟩
  unfold leave
  dsimp only
  split
  · refine ⟨fun handler call left hmem => ?_, heffects⟩
    rcases List.mem_cons.1 hmem with heq | hmem
    · cases heq
    · exact hs handler call left hmem
  · exact ⟨hs, heffects⟩

lemma heeds_stopped {s : Serve} (hs : Heeds caps s) (h : Handler) {todo : List Todo}
    (htodo : Allowed caps todo) {threw : Serve → Serve × List ServeEffect}
    (hthrew : ∀ t, Heeds caps t → HeedsStep caps served (threw t)) :
    HeedsStep caps served (stopped h (s.advance h.request todo) threw) := by
  obtain ⟨heffects, hleft⟩ := s.advance_allowed h.request htodo
  have hsame : Heeds caps (s.advance h.request todo).1 := by
    intro handler call left hmem
    rw [(s.advance_same h.request todo).stack] at hmem
    exact hs handler call left hmem
  unfold stopped
  split
  · exact (heeds_leave hsame h true).prepend heffects
  · next call left hcalled =>
    refine ⟨fun handler call' left' hmem => ?_, heffects⟩
    rcases List.mem_cons.1 hmem with heq | hmem
    · cases heq
      exact hleft call left hcalled
    · exact hsame handler call' left' hmem
  · exact (hthrew _ hsame).prepend heffects

lemma heeds_clause {s : Serve} (hs : Heeds caps s) (h : Handler) {todo : List Todo}
    (htodo : Allowed caps todo) : HeedsStep caps served (s.clause h todo) :=
  heeds_stopped hs h htodo fun _ ht => heeds_leave ht h false

lemma allowed_catching (caps : List JsString) (id : JsString) (guard : Guard) (error : Thrown) :
    Allowed caps (guard.catching id error) := by
  unfold Guard.catching
  split
  · exact allowed_send _ _
  · exact allowed_send _ _
  · exact Allowed.cons nofun (allowed_send _ _)

lemma heeds_raise {s : Serve} (hs : Heeds caps s) (h : Handler) (error : Thrown) :
    HeedsStep caps served (s.raise h error) := by
  unfold raise
  split
  · exact heeds_leave hs h false
  · exact heeds_clause hs _ (allowed_catching caps _ _ _)

lemma heeds_run {s : Serve} (hs : Heeds caps s) (h : Handler) {todo : List Todo}
    (htodo : Allowed caps todo) : HeedsStep caps served (s.run h todo) :=
  heeds_stopped hs h htodo fun _ ht => heeds_raise ht h .other

lemma heeds_replied {s : Serve} (hs : Heeds caps s) (h : Handler) (hook : Hook)
    (reply : Except Thrown Json) : HeedsStep caps served (s.replied h hook reply) := by
  unfold replied
  split
  · exact heeds_run hs h (allowed_send _ _)
  · exact heeds_run hs h (allowed_send _ _)
  · exact heeds_run hs h (allowed_send _ _)
  · exact heeds_raise hs h _
  · have hwait : Heeds caps { s with waiting := s.waiting ++ [⟨h.request, h.id, hook⟩] } := hs
    exact heeds_leave hwait h true

lemma heeds_onReturned {s : Serve} (hs : Heeds caps s) (reply : Except Thrown Json) :
    HeedsStep caps served (s.onReturned reply) := by
  unfold onReturned
  split
  · next h call left stack _ hstack =>
    have hpop := hs.pop hstack
    have hleft := hs h call left (by rw [hstack]; exact List.mem_cons_self)
    dsimp only
    split
    · exact heeds_replied hpop _ _ _
    · exact heeds_raise hpop h _
    · exact heeds_run hpop h hleft
  · exact hs.nothing

lemma heeds_onSettled {s : Serve} (hs : Heeds caps s) (i : ℕ) (outcome : Except Thrown Json) :
    HeedsStep caps served (s.onSettled i outcome) := by
  unfold onSettled
  split
  · split
    · exact hs.nothing
    · have htake : Heeds caps { s with waiting := s.waiting.eraseIdx i } := hs
      dsimp only
      split
      · exact heeds_run htake _ (allowed_send _ _)
      · exact heeds_raise htake _ _
  · exact hs.nothing

lemma heeds_handleRpcPayload {s : Serve} (hs : Heeds caps s)
    (hgate : ∀ cap ∈ s.gate.negotiated, cap ∈ caps) (payload : Bytes) :
    HeedsStep caps served (s.handleRpcPayload o payload) := by
  have hlog : Heeds caps { s with log := s.log ++ [o.parseRequest payload] } := hs
  unfold handleRpcPayload
  dsimp only
  split
  · exact heeds_clause hlog _ (.cons nofun (allowed_nil caps))
  · next request _ =>
    refine heeds_run hlog _ fun t ht method hmethod cap hcap => hgate cap ?_
    exact Connection.allowed_dispatch _ o.parseParams request t ht method hmethod cap hcap

lemma heeds_perform {s : Serve} (hs : Heeds caps s)
    (hgate : ∀ cap ∈ s.gate.negotiated, cap ∈ caps) {effect : GateEffect}
    (hack : ∀ ack, effect = .ack ack → ack.capabilities = served) :
    HeedsStep caps served (s.perform o effect) := by
  cases effect with
  | handleRpcPayload payload => exact heeds_handleRpcPayload hs hgate payload
  | tornDown =>
    refine ⟨hs, Heeded.append (fun effect heffect => ?_) fun effect heffect => ?_⟩
    · obtain ⟨ref, -, rfl⟩ := List.mem_map.1 heffect
      exact ⟨nofun, nofun⟩
    · obtain ⟨ref, -, rfl⟩ := List.mem_map.1 heffect
      exact ⟨nofun, nofun⟩
  | ack ack =>
    refine ⟨hs, heeded_singleton ⟨nofun, fun other hother => ?_⟩⟩
    cases hother
    exact hack ack rfl
  | verifyDevice claim => exact ⟨hs, heeded_singleton ⟨nofun, nofun⟩⟩
  | onError error => exact ⟨hs, heeded_singleton ⟨nofun, nofun⟩⟩

lemma heeds_foldl {effects : List GateEffect} {r : Serve × List ServeEffect}
    (hr : HeedsStep caps served r) (hgate : ∀ cap ∈ r.1.gate.negotiated, cap ∈ caps)
    (hack : ∀ ack, .ack ack ∈ effects → ack.capabilities = served) :
    HeedsStep caps served (effects.foldl (fun r effect =>
      let next := r.1.perform o effect
      (next.1, r.2 ++ next.2)) r) := by
  induction effects generalizing r with
  | nil => exact hr
  | cons effect effects ih =>
    have hstep : HeedsStep caps served (r.1.perform o effect) :=
      heeds_perform hr.heeds hgate fun ack heq => hack ack (by rw [heq]; exact List.mem_cons_self)
    refine ih (hstep.prepend hr.heeded) ?_ fun ack hmem => hack ack (List.mem_cons_of_mem _ hmem)
    rw [(r.1.perform_frames effect).1]
    exact hgate

variable {hello : List JsString}

lemma heeds_stepGate {s : Serve} (hs : Heeds (negotiate o.gate.capabilities hello) s) {e : GateEvent}
    (hgate : Gate.Tells o.gate hello (s.gate.react o.gate e)) :
    HeedsStep (negotiate o.gate.capabilities hello) o.gate.capabilities (s.stepGate o e) := by
  refine heeds_foldl (Heeds.nothing (s := { s with gate := (s.gate.react o.gate e).1 }) hs)
    (fun cap hcap => ?_) hgate.ack
  have hnegotiated : cap ∈ (s.gate.react o.gate e).1.negotiated := hcap
  rcases hgate.knows.negotiated with hnil | heq
  · rw [hnil] at hnegotiated
    cases hnegotiated
  · rw [heq] at hnegotiated
    exact hnegotiated

lemma heeds_onGate {s : Serve} (hs : Heeds (negotiate o.gate.capabilities hello) s) {e : GateEvent}
    (hgate : Gate.Tells o.gate hello (s.gate.react o.gate e)) :
    HeedsStep (negotiate o.gate.capabilities hello) o.gate.capabilities (s.onGate o e) := by
  unfold onGate
  split
  · split
    · next hstack =>
      split
      · exact heeds_stepGate (hs.pop hstack) hgate
      · exact hs.nothing
    · exact hs.nothing
  · split
    · have hstep := heeds_stepGate hs hgate
      exact ⟨hstep.heeds, hstep.heeded.append (heeded_singleton ⟨nofun, nofun⟩)⟩
    · exact hs.nothing
  · split
    · exact heeds_stepGate hs hgate
    · exact hs.nothing
  · split
    · exact heeds_stepGate hs hgate
    · exact hs.nothing
  · exact heeds_stepGate hs hgate

lemma heeds_react {s : Serve} (hs : Heeds (negotiate o.gate.capabilities hello) s) {e : ServeEvent}
    (hgate : ∀ e', e = .gate e' → Gate.Tells o.gate hello (s.gate.react o.gate e')) :
    HeedsStep (negotiate o.gate.capabilities hello) o.gate.capabilities (s.react o e) := by
  cases e with
  | gate e => exact heeds_onGate hs (hgate e rfl)
  | returned reply => exact heeds_onReturned hs reply
  | settled i outcome => exact heeds_onSettled hs i outcome
  | registry registry => exact Heeds.nothing (s := { s with registry }) hs

end Serve

end Pherry.Host
