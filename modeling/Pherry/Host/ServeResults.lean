import Pherry.Host.CapabilityGate
import Pherry.Protocol.Results

/-!
# The results of a served connection

Every success that a connection sends has a result that the schema of its method accepts, over every
run in which its hooks answer so and a subscribe names a session with a u32 stream id.
-/

namespace Pherry.Host

open Lib Channel Protocol

/-! ## Accepted responses -/

/-- A response that the controller takes, to what was parsed of a request. -/
def Accepted (parsed : Option RpcRequest) : Response → Prop
  | .success _ result _ => ∃ request method, parsed = some request ∧
      methodOf request.method = some method ∧ method.result result = true
  | .failure _ _ => True

/-- What a handler may have to do for a request. -/
def Todo.Fits (parsed : Option RpcRequest) : Todo → Prop
  | send response => Accepted parsed response
  | hook h => ∃ request, parsed = some request ∧ methodOf request.method = some h.method
  | _ => True

/-- What a handler has to do, in order, fits its request. -/
def FitsAll (parsed : Option RpcRequest) (todo : List Todo) : Prop := ∀ t ∈ todo, t.Fits parsed

/-- The controller takes what follows the result of a hook. -/
def Hook.Takes (result : Json) : Hook → Prop
  | reserve _ => Schema.custodyReservation result = true
  | claim _ => True
  | listSessions => Schema.sessionList (.obj [(js "sessions", result)]) = true
  | options => Schema.launchOptions result = true
  | start _ => Schema.launchStartResult result = true

/-- A hook that returns its result, and no promise of it. -/
def Hook.isSync : Hook → Bool
  | reserve _ => true
  | listSessions => true
  | _ => false

/-- A subscribe names a session whose stream id is a u32. -/
def Addressable (registry : SessionRef → Option LiveSession) : (method : Method) → ParamsOf method → Prop
  | .subscribe, params => ∀ session, registry params.sessionRef = some session →
      session.streamId < 2 ^ 32
  | _, _ => True

section Fits

variable {parsed : Option RpcRequest}

lemma fitsAll_nil : FitsAll parsed [] := fun _ ht => by cases ht

lemma FitsAll.append {todo more : List Todo} (h : FitsAll parsed todo)
    (hmore : FitsAll parsed more) : FitsAll parsed (todo ++ more) := by
  intro t ht
  rcases List.mem_append.1 ht with ht | ht
  · exact h t ht
  · exact hmore t ht

lemma FitsAll.cons {t : Todo} {left : List Todo} (ht : t.Fits parsed) (h : FitsAll parsed left) :
    FitsAll parsed (t :: left) := by
  intro other hother
  rcases List.mem_cons.1 hother with rfl | hother
  · exact ht
  · exact h other hother

lemma FitsAll.tail {t : Todo} {left : List Todo} (h : FitsAll parsed (t :: left)) :
    FitsAll parsed left := fun other hother => h other (List.mem_cons_of_mem _ hother)

lemma fitsAll_failure (id : JsString) (error : ErrorBody) :
    FitsAll parsed [.send (.failure id error)] := .cons trivial fitsAll_nil

lemma fitsAll_success {request : RpcRequest} {method : Method}
    (hmethod : methodOf request.method = some method) {result : Json}
    (hresult : method.result result = true) (id : JsString) (stream : Bool) :
    FitsAll (some request) [.send (.success id result stream)] :=
  .cons ⟨request, method, rfl, hmethod, hresult⟩ fitsAll_nil

lemma fitsAll_catching (id : JsString) (guard : Guard) (error : Thrown) :
    FitsAll parsed (guard.catching id error) := by
  unfold Guard.catching
  split
  · exact fitsAll_failure _ _
  · exact fitsAll_failure _ _
  · exact .cons trivial (fitsAll_failure _ _)

lemma fitsAll_resulted {request : RpcRequest} {hook : Hook}
    (hmethod : methodOf request.method = some hook.method) {result : Json} (htakes : hook.Takes result)
    (id : JsString) : FitsAll (some request) [.send (hook.resulted id result)] := by
  cases hook with
  | reserve spec => exact fitsAll_success hmethod htakes id false
  | claim ref => exact fitsAll_success hmethod rfl id false
  | listSessions => exact fitsAll_success hmethod htakes id false
  | options => exact fitsAll_success hmethod htakes id false
  | start params => exact fitsAll_success hmethod htakes id false

end Fits

/-! ## Requests -/

namespace Connection

variable (c : Connection) (id : JsString) {request : RpcRequest}

lemma fitsAll_gated (method : Method) {parsed : Option RpcRequest} {todo : List Todo}
    (h : FitsAll parsed todo) : FitsAll parsed (c.gated id method todo) := by
  unfold gated
  split
  · exact h
  · split
    · exact h
    · exact fitsAll_failure _ _

lemma fitsAll_teardown (ref : SessionRef) (departed : Bool) (parsed : Option RpcRequest) :
    FitsAll parsed (c.teardown ref departed) := by
  unfold teardown
  split
  · cases departed with
    | true => exact .cons trivial (.cons trivial (.cons trivial fitsAll_nil))
    | false => exact .cons trivial (.cons trivial fitsAll_nil)
  · exact fitsAll_nil

lemma fitsAll_handleSubscribe (hmethod : methodOf request.method = some .subscribe)
    (params : SubscribeParams) (hids : Addressable c.registry .subscribe params) :
    FitsAll (some request) (c.handleSubscribe id params) := by
  unfold handleSubscribe
  split
  · exact fitsAll_failure _ _
  split
  · exact fitsAll_failure _ _
  next session hsession =>
  have hack : Method.subscribe.result (.obj [(js "streamId", .int session.streamId),
      (js "snapshotSeq", .int session.seq)]) = true :=
    (Schema.mirrorStreamAck_iff _ _).2 (hids session hsession)
  refine FitsAll.append (FitsAll.append (c.fitsAll_teardown _ _ _) ?_) ?_
  · cases params.viewport with
    | none => exact fitsAll_nil
    | some size => exact .cons trivial fitsAll_nil
  · refine .cons trivial (.cons ⟨request, .subscribe, rfl, hmethod, hack⟩ ?_)
    exact .cons trivial (.cons trivial fitsAll_nil)

lemma fitsAll_hooked (present : Bool) (hook : Hook)
    (hmethod : methodOf request.method = some hook.method) :
    FitsAll (some request) (hooked present id hook.method hook) := by
  unfold hooked
  split
  · exact .cons ⟨request, rfl, hmethod⟩ fitsAll_nil
  · exact fitsAll_failure _ _

lemma fitsAll_serve {method : Method} (hmethod : methodOf request.method = some method)
    (params : ParamsOf method) (hids : Addressable c.registry method params) :
    FitsAll (some request) (c.serve id method params) := by
  cases method with
  | subscribe => exact c.fitsAll_gated id .subscribe (c.fitsAll_handleSubscribe id hmethod params hids)
  | input =>
    refine c.fitsAll_gated id .input ?_
    unfold handleInput
    split
    · exact fitsAll_failure _ _
    · exact .cons trivial (fitsAll_success hmethod rfl id false)
  | resize =>
    refine c.fitsAll_gated id .resize ?_
    unfold handleResize
    split
    · exact fitsAll_failure _ _
    · exact .cons trivial (.cons trivial (fitsAll_success hmethod rfl id false))
  | unsubscribe =>
    exact (c.fitsAll_teardown _ _ _).append (fitsAll_success hmethod rfl id false)
  | reserve => exact fitsAll_hooked id c.custody (.reserve params) hmethod
  | claim => exact fitsAll_hooked id c.custody (.claim params) hmethod
  | list => exact fitsAll_hooked id c.listSessions .listSessions hmethod
  | options =>
    exact c.fitsAll_gated id .options (fitsAll_hooked id c.launch .options hmethod)
  | start =>
    exact c.fitsAll_gated id .start (fitsAll_hooked id c.launch (.start params) hmethod)
  | approve => exact fitsAll_failure _ _
  | spawn => exact fitsAll_failure _ _
  | raise => exact fitsAll_failure _ _

/-- The requests that subscribe to sessions with u32 stream ids. -/
def Addresses (registry : SessionRef → Option LiveSession)
    (parseParams : (method : Method) → Option Json → Except Json (ParamsOf method))
    (request : RpcRequest) : Prop :=
  ∀ method params, methodOf request.method = some method →
    parseParams method request.params = .ok params → Addressable registry method params

lemma fitsAll_dispatch
    (parseParams : (method : Method) → Option Json → Except Json (ParamsOf method))
    (hids : Addresses c.registry parseParams request) :
    FitsAll (some request) (c.dispatch parseParams request) := by
  unfold dispatch
  split
  · exact fitsAll_failure _ _
  next method hmethod =>
  split
  · exact fitsAll_failure _ _
  · next params hparams =>
    exact c.fitsAll_serve request.id hmethod params (hids method params hmethod hparams)

end Connection

/-! ## Steps -/

namespace Serve

variable {o : ServeOptions}

/-- What handlers have to do, and the hooks that requests await, fit their requests. -/
structure Fits (s : Serve) : Prop where
  stack : ∀ h call left, (h, Stage.calling call left) ∈ s.stack →
    ∃ parsed, s.log[h.request]? = some parsed ∧ FitsAll parsed (call :: left)
  waiting : ∀ w ∈ s.waiting, w.hook.isSync = false ∧
    ∃ request, s.log[w.request]? = some (some request) ∧ methodOf request.method = some w.hook.method

/-- Responses that the controller takes. -/
def AllAccepted (log : List (Option RpcRequest)) (effects : List ServeEffect) : Prop :=
  ∀ n response, ServeEffect.respond n response ∈ effects →
    ∃ parsed, log[n]? = some parsed ∧ Accepted parsed response

/-- A step keeps the handlers in order, and sends what the controller takes. -/
structure FitsStep (s : Serve) (r : Serve × List ServeEffect) : Prop where
  fits : Fits r.1
  registry : r.1.registry = s.registry
  log : s.log <+: r.1.log
  accepted : AllAccepted r.1.log r.2

variable {s : Serve}

lemma getElem?_of_prefix {log more : List (Option RpcRequest)} (h : log <+: more) {n : ℕ}
    {parsed : Option RpcRequest} (hn : log[n]? = some parsed) : more[n]? = some parsed := by
  obtain ⟨rest, rfl⟩ := h
  rw [List.getElem?_append_left (List.getElem?_eq_some_iff.1 hn).1]
  exact hn

lemma AllAccepted.mono {log more : List (Option RpcRequest)} {effects : List ServeEffect}
    (h : AllAccepted log effects) (hlog : log <+: more) : AllAccepted more effects := by
  intro n response hmem
  obtain ⟨parsed, hn, haccepted⟩ := h n response hmem
  exact ⟨parsed, getElem?_of_prefix hlog hn, haccepted⟩

lemma AllAccepted.append {log : List (Option RpcRequest)} {effects more : List ServeEffect}
    (h : AllAccepted log effects) (hmore : AllAccepted log more) :
    AllAccepted log (effects ++ more) := by
  intro n response hmem
  rcases List.mem_append.1 hmem with hmem | hmem
  · exact h n response hmem
  · exact hmore n response hmem

lemma allAccepted_of_not {log : List (Option RpcRequest)} {effects : List ServeEffect}
    (h : ∀ n response, ServeEffect.respond n response ∉ effects) : AllAccepted log effects :=
  fun n response hmem => absurd hmem (h n response)

lemma allAccepted_nil (log : List (Option RpcRequest)) : AllAccepted log [] :=
  allAccepted_of_not fun _ _ hmem => by cases hmem

lemma Fits.nothing (h : Fits s) : FitsStep s (s, []) :=
  ⟨h, rfl, List.prefix_refl _, allAccepted_nil _⟩

lemma FitsStep.prepend {t : Serve} {effects : List ServeEffect} {r : Serve × List ServeEffect}
    (h : FitsStep t r) (hregistry : t.registry = s.registry) (hlog : s.log <+: t.log)
    (heffects : AllAccepted t.log effects) : FitsStep s (r.1, effects ++ r.2) :=
  ⟨h.fits, h.registry.trans hregistry, hlog.trans h.log,
    (heffects.mono h.log).append h.accepted⟩

lemma FitsStep.from {t : Serve} {r : Serve × List ServeEffect} (h : FitsStep t r)
    (hregistry : t.registry = s.registry) (hlog : s.log <+: t.log) : FitsStep s r :=
  ⟨h.fits, h.registry.trans hregistry, hlog.trans h.log, h.accepted⟩

lemma Fits.pop {entry : Handler × Stage} {stack : List (Handler × Stage)} (h : Fits s)
    (hstack : s.stack = entry :: stack) : Fits { s with stack } :=
  ⟨fun handler call left hmem =>
    h.stack handler call left (by rw [hstack]; exact List.mem_cons_of_mem _ hmem), h.waiting⟩

/-- A handler up to its next call sends what the controller takes, and what is left fits. -/
lemma advance_fits (n : ℕ) {parsed : Option RpcRequest} {todo : List Todo}
    (hlog : s.log[n]? = some parsed) (h : FitsAll parsed todo) :
    (s.advance n todo).1.registry = s.registry ∧ AllAccepted s.log (s.advance n todo).2.1 ∧
      ∀ call left, (s.advance n todo).2.2 = .called call left → FitsAll parsed (call :: left) := by
  induction todo generalizing s with
  | nil => exact ⟨rfl, allAccepted_nil _, fun _ _ heq => by cases heq⟩
  | cons t left ih =>
    have hcall : ∀ {s' : Serve} {effect : ServeEffect}, s'.registry = s.registry →
        AllAccepted s.log [effect] → (s', [effect], Stop.called t left).1.registry = s.registry ∧
        AllAccepted s.log (s', [effect], Stop.called t left).2.1 ∧
        ∀ call' left', (s', [effect], Stop.called t left).2.2 = .called call' left' →
          FitsAll parsed (call' :: left') := by
      intro s' effect hregistry haccepted
      refine ⟨hregistry, haccepted, fun call' left' heq => ?_⟩
      cases heq
      exact h
    cases t with
    | send response =>
      unfold advance
      split
      · exact ih hlog h.tail
      split
      · refine hcall rfl fun m other hmem => ?_
        rw [List.mem_singleton, ServeEffect.respond.injEq] at hmem
        obtain ⟨rfl, rfl⟩ := hmem
        exact ⟨parsed, hlog, h _ List.mem_cons_self⟩
      · exact ⟨rfl, allAccepted_nil _, fun _ _ heq => by cases heq⟩
    | delete ref =>
      exact ih (s := { s with subscriptions := s.subscriptions.filter (· ≠ ref) }) hlog h.tail
    | touch ref => exact ih (s := { s with touched := addRef s.touched ref }) hlog h.tail
    | set ref => exact ih (s := { s with subscriptions := addRef s.subscriptions ref }) hlog h.tail
    | session ref op =>
      exact hcall rfl (allAccepted_of_not fun m other hmem => by simp at hmem)
    | hook hook => exact hcall rfl (allAccepted_of_not fun m other hmem => by simp at hmem)
    | onError => exact hcall rfl (allAccepted_of_not fun m other hmem => by simp at hmem)

lemma fits_leave (hs : Fits s) (h : Handler) (ok : Bool) : FitsStep s (s.leave h ok) := by
  have heffects : ∀ log, AllAccepted log (if ok then [] else [ServeEffect.uncaught]) := by
    intro log
    cases ok with
    | true => exact allAccepted_nil _
    | false => exact allAccepted_of_not fun m other hmem => by simp at hmem
  unfold leave
  dsimp only
  split
  · refine ⟨⟨fun handler call left hmem => ?_, hs.waiting⟩, rfl, List.prefix_refl _, heffects _⟩
    rcases List.mem_cons.1 hmem with heq | hmem
    · cases heq
    · exact hs.stack handler call left hmem
  · exact ⟨hs, rfl, List.prefix_refl _, heffects _⟩

lemma fits_stopped (hs : Fits s) (h : Handler) {parsed : Option RpcRequest} {todo : List Todo}
    (hlog : s.log[h.request]? = some parsed) (htodo : FitsAll parsed todo)
    {threw : Serve → Serve × List ServeEffect}
    (hthrew : ∀ t, Fits t → t.log = s.log → FitsStep t (threw t)) :
    FitsStep s (stopped h (s.advance h.request todo) threw) := by
  obtain ⟨hregistry, heffects, hleft⟩ := advance_fits h.request hlog htodo
  have hadvance := s.advance_same h.request todo
  have hsame : Fits (s.advance h.request todo).1 := by
    refine ⟨?_, ?_⟩
    · rw [hadvance.stack, hadvance.log]
      exact hs.stack
    · rw [hadvance.waiting, hadvance.log]
      exact hs.waiting
  have hprefix : s.log <+: (s.advance h.request todo).1.log := by
    rw [hadvance.log]
  have heffects' : AllAccepted (s.advance h.request todo).1.log (s.advance h.request todo).2.1 := by
    rw [hadvance.log]
    exact heffects
  unfold stopped
  split
  · exact (fits_leave hsame h true).prepend hregistry hprefix heffects'
  · next call left hcalled =>
    refine ⟨⟨fun handler call' left' hmem => ?_, hsame.waiting⟩, hregistry, hprefix, heffects'⟩
    rcases List.mem_cons.1 hmem with heq | hmem
    · cases heq
      exact ⟨parsed, getElem?_of_prefix hprefix hlog, hleft call left hcalled⟩
    · exact hsame.stack handler call' left' hmem
  · exact (hthrew _ hsame hadvance.log).prepend hregistry hprefix heffects'

lemma fits_clause (hs : Fits s) (h : Handler) {parsed : Option RpcRequest} {todo : List Todo}
    (hlog : s.log[h.request]? = some parsed) (htodo : FitsAll parsed todo) :
    FitsStep s (s.clause h todo) :=
  fits_stopped hs h hlog htodo fun _ ht _ => fits_leave ht h false

lemma fits_raise (hs : Fits s) (h : Handler) {parsed : Option RpcRequest}
    (hlog : s.log[h.request]? = some parsed) (error : Thrown) : FitsStep s (s.raise h error) := by
  unfold raise
  split
  · exact fits_leave hs h false
  · exact fits_clause hs { h with caught := true } hlog (fitsAll_catching _ _ _)

lemma fits_run (hs : Fits s) (h : Handler) {parsed : Option RpcRequest} {todo : List Todo}
    (hlog : s.log[h.request]? = some parsed) (htodo : FitsAll parsed todo) :
    FitsStep s (s.run h todo) :=
  fits_stopped hs h hlog htodo fun _ ht hsame => fits_raise ht h (by rw [hsame]; exact hlog) .other

lemma fits_wait (hs : Fits s) (h : Handler) {hook : Hook} {request : RpcRequest}
    (hlog : s.log[h.request]? = some (some request))
    (hmethod : methodOf request.method = some hook.method) (hasync : hook.isSync = false) :
    FitsStep s (({ s with waiting := s.waiting ++ [⟨h.request, h.id, hook⟩] } : Serve).leave h
      true) := by
  have hwait : Fits { s with waiting := s.waiting ++ [⟨h.request, h.id, hook⟩] } := by
    refine ⟨hs.stack, fun w hw => ?_⟩
    rcases List.mem_append.1 hw with hw | hw
    · exact hs.waiting w hw
    · rw [List.mem_singleton.1 hw]
      exact ⟨hasync, request, hlog, hmethod⟩
  exact (fits_leave hwait h true).from rfl (List.prefix_refl _)

lemma fits_replied (hs : Fits s) (h : Handler) {hook : Hook} {request : RpcRequest}
    (hlog : s.log[h.request]? = some (some request))
    (hmethod : methodOf request.method = some hook.method) {reply : Except Thrown Json}
    (htakes : ∀ result, reply = .ok result → hook.isSync = true → hook.Takes result) :
    FitsStep s (s.replied h hook reply) := by
  cases reply with
  | error error =>
    unfold replied
    split
    · exact fits_run hs h hlog (fitsAll_failure _ _)
    · next heq => cases heq
    · next heq => cases heq
    · exact fits_raise hs h hlog _
    · next heq => cases heq
  | ok result =>
    cases hook with
    | reserve spec =>
      exact fits_run hs h hlog (fitsAll_resulted hmethod (htakes result rfl rfl) h.id)
    | listSessions =>
      exact fits_run hs h hlog (fitsAll_resulted hmethod (htakes result rfl rfl) h.id)
    | claim ref => exact fits_wait hs h hlog hmethod rfl
    | options => exact fits_wait hs h hlog hmethod rfl
    | start params => exact fits_wait hs h hlog hmethod rfl

lemma fits_onReturned (hs : Fits s) {reply : Except Thrown Json}
    (htakes : ∀ result h hook left stack, reply = .ok result → s.handles = true →
      s.stack = (h, .calling (.hook hook) left) :: stack → hook.isSync = true → hook.Takes result) :
    FitsStep s (s.onReturned reply) := by
  unfold onReturned
  split
  · next h call left stack hhandles hstack =>
    have hpop := hs.pop hstack
    obtain ⟨parsed, hlog, htodo⟩ := hs.stack h call left (by rw [hstack]; exact List.mem_cons_self)
    dsimp only
    split
    · next hook =>
      obtain ⟨request, rfl, hmethod⟩ := htodo _ List.mem_cons_self
      unfold hookReturned
      refine (fits_replied hpop { h with guard := hook.guard, caught := false } hlog hmethod ?_).from
        rfl (List.prefix_refl _)
      exact fun result hreply hsync => htakes result h hook left stack hreply hhandles hstack hsync
    · exact (fits_raise (s := { s with stack }) hpop h hlog _).from rfl (List.prefix_refl _)
    · exact (fits_run (s := { s with stack }) hpop h hlog htodo.tail).from rfl (List.prefix_refl _)
  · exact hs.nothing

lemma fits_onSettled (hs : Fits s) (i : ℕ) {outcome : Except Thrown Json}
    (htakes : ∀ result w, outcome = .ok result → s.waiting[i]? = some w → w.hook.isSync = false →
      w.hook.Takes result) :
    FitsStep s (s.onSettled i outcome) := by
  unfold onSettled
  split
  · split
    · exact hs.nothing
    next w hw =>
    obtain ⟨hasync, request, hlog, hmethod⟩ := hs.waiting w (List.mem_of_getElem? hw)
    have htake : Fits { s with waiting := s.waiting.eraseIdx i } :=
      ⟨hs.stack, fun other hother => hs.waiting other (List.mem_of_mem_eraseIdx hother)⟩
    dsimp only
    split
    · next result =>
      have htodo := fitsAll_resulted hmethod (htakes result w rfl hw hasync) w.id
      exact (fits_run htake ⟨w.request, w.id, w.hook.guard, false, false⟩ hlog htodo).from rfl
        (List.prefix_refl _)
    · next error =>
      exact (fits_raise htake ⟨w.request, w.id, w.hook.guard, false, false⟩ hlog error).from rfl
        (List.prefix_refl _)
  · exact hs.nothing

lemma Fits.log (hs : Fits s) (parsed : Option RpcRequest) :
    Fits { s with log := s.log ++ [parsed] } := by
  refine ⟨fun h call left hmem => ?_, fun w hw => ?_⟩
  · obtain ⟨other, hlog, htodo⟩ := hs.stack h call left hmem
    exact ⟨other, getElem?_of_prefix (List.prefix_append _ _) hlog, htodo⟩
  · obtain ⟨hasync, request, hlog, hmethod⟩ := hs.waiting w hw
    exact ⟨hasync, request, getElem?_of_prefix (List.prefix_append _ _) hlog, hmethod⟩

lemma fits_handleRpcPayload (hs : Fits s) (payload : Bytes)
    (hids : ∀ request, o.parseRequest payload = some request →
      Connection.Addresses s.registry o.parseParams request) :
    FitsStep s (s.handleRpcPayload o payload) := by
  have hlogged := hs.log (o.parseRequest payload)
  have hlast : (s.log ++ [o.parseRequest payload])[s.log.length]? = some (o.parseRequest payload) :=
    List.getElem?_concat_length
  unfold handleRpcPayload
  dsimp only
  split
  · next hparsed =>
    rw [hparsed] at hlogged hlast ⊢
    have htodo : FitsAll none [.onError] := .cons trivial fitsAll_nil
    exact (fits_clause hlogged ⟨s.log.length, [], .dispatch, true, true⟩ hlast htodo).from rfl
      (List.prefix_append _ _)
  · next request hparsed =>
    rw [hparsed] at hlogged hlast ⊢
    exact (fits_run hlogged _ hlast (Connection.fitsAll_dispatch _ _ (hids request hparsed))).from rfl
      (List.prefix_append _ _)

/-- The requests among these frames subscribe to sessions with u32 stream ids. -/
def AllAddress (o : ServeOptions) (registry : SessionRef → Option LiveSession)
    (effects : List GateEffect) : Prop :=
  ∀ payload request, GateEffect.handleRpcPayload payload ∈ effects →
    o.parseRequest payload = some request → Connection.Addresses registry o.parseParams request

lemma fits_perform (hs : Fits s) {effect : GateEffect}
    (hids : ∀ payload request, effect = .handleRpcPayload payload →
      o.parseRequest payload = some request →
      Connection.Addresses s.registry o.parseParams request) :
    FitsStep s (s.perform o effect) := by
  have hgate : FitsStep s (s, [.gate effect]) :=
    ⟨hs, rfl, List.prefix_refl _, allAccepted_of_not fun n response hmem => by simp at hmem⟩
  cases effect with
  | handleRpcPayload payload =>
    exact fits_handleRpcPayload hs payload fun request hrequest => hids payload request rfl hrequest
  | tornDown =>
    refine ⟨⟨hs.stack, hs.waiting⟩, rfl, List.prefix_refl _, allAccepted_of_not ?_⟩
    intro n response hmem
    rcases List.mem_append.1 hmem with hmem | hmem
    · obtain ⟨ref, -, heq⟩ := List.mem_map.1 hmem
      cases heq
    · obtain ⟨ref, -, heq⟩ := List.mem_map.1 hmem
      cases heq
  | ack ack => exact hgate
  | verifyDevice claim => exact hgate
  | onError error => exact hgate

lemma fits_foldl {effects : List GateEffect} {r : Serve × List ServeEffect} (hr : FitsStep s r)
    (hids : AllAddress o s.registry effects) :
    FitsStep s (effects.foldl (fun r effect =>
      let next := r.1.perform o effect
      (next.1, r.2 ++ next.2)) r) := by
  induction effects generalizing r with
  | nil => exact hr
  | cons effect effects ih =>
    have hstep : FitsStep r.1 (r.1.perform o effect) := by
      refine fits_perform hr.fits fun payload request heq hrequest => ?_
      rw [hr.registry]
      exact hids payload request (by rw [heq]; exact List.mem_cons_self) hrequest
    refine ih (hstep.prepend hr.registry hr.log hr.accepted) fun payload request hmem hrequest => ?_
    exact hids payload request (List.mem_cons_of_mem _ hmem) hrequest

lemma fits_stepGate (hs : Fits s) {e : GateEvent}
    (hids : AllAddress o s.registry (s.gate.react o.gate e).2) : FitsStep s (s.stepGate o e) := by
  have hstart : Fits { s with gate := (s.gate.react o.gate e).1 } := ⟨hs.stack, hs.waiting⟩
  exact (fits_foldl hstart.nothing hids).from rfl (List.prefix_refl _)

lemma fits_onGate (hs : Fits s) {e : GateEvent}
    (hids : AllAddress o s.registry (s.gate.react o.gate e).2) : FitsStep s (s.onGate o e) := by
  unfold onGate
  split
  · split
    · next hstack =>
      split
      · exact (fits_stepGate (hs.pop hstack) hids).from rfl (List.prefix_refl _)
      · exact hs.nothing
    · exact hs.nothing
  · split
    · have hstep := fits_stepGate hs hids
      refine ⟨hstep.fits, hstep.registry, hstep.log, hstep.accepted.append ?_⟩
      exact allAccepted_of_not fun n response hmem => by simp at hmem
    · exact hs.nothing
  · split
    · exact fits_stepGate hs hids
    · exact hs.nothing
  · split
    · exact fits_stepGate hs hids
    · exact hs.nothing
  · exact fits_stepGate hs hids

/-- The hooks answer what the controller takes, and subscribes name u32 stream ids. -/
def Heedful (o : ServeOptions) (s : Serve) : ServeEvent → Prop
  | .gate e => AllAddress o s.registry (s.gate.react o.gate e).2
  | .returned reply => ∀ result h hook left stack, reply = .ok result → s.handles = true →
      s.stack = (h, .calling (.hook hook) left) :: stack → hook.isSync = true → hook.Takes result
  | .settled i outcome => ∀ result w, outcome = .ok result → s.waiting[i]? = some w →
      w.hook.isSync = false → w.hook.Takes result
  | .registry _ => True

lemma fits_react (hs : Fits s) {e : ServeEvent} (h : s.Heedful o e)
    (hregistry : ∀ registry, e ≠ .registry registry) : FitsStep s (s.react o e) := by
  cases e with
  | gate e => exact fits_onGate hs h
  | returned reply => exact fits_onReturned hs h
  | settled i outcome => exact fits_onSettled hs i h
  | registry registry => exact absurd rfl (hregistry registry)

lemma fits_init (sessionId : Bytes) : Fits (.init sessionId) :=
  ⟨fun _ _ _ hmem => (by cases hmem), fun _ hw => by cases hw⟩

end Serve

end Pherry.Host
