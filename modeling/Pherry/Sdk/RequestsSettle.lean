import Pherry.Sdk.Negotiation

/-!
# The contract of a request

Every promise a request returns has settled once the channel has closed and no microtask is left,
exactly when no request is left waiting for a signature the signer has not given: `#onClose` rejects
the HelloAck it awaits and the pending requests, and has no hold on the signer.
-/

namespace Pherry.Sdk

open Lib Protocol

/-- A request that still waits for the negotiation. -/
def Progress.isWaiting : Progress → Bool
  | waiting => true
  | sent _ => false
  | settled _ => false

namespace Controller

/-! ## Microtasks -/

/-- Whether a microtask of `#negotiate` waits to run. -/
def negotiateReady (s : Controller) : Bool :=
  match s.negotiation with
  | .ready => s.wasReady || s.closed
  | .signing _ signature => signature.isSome
  | .sending => false
  | .waiting => s.ack.isSome
  | .settled _ => false

/-- Whether a microtask of a request waits to run. -/
def resumeReady (s : Controller) (q : Request) : Bool :=
  match q.progress, s.negotiation with
  | .waiting, .settled _ => true
  | .settled _, _ => q.cleanup
  | _, _ => false

/-- No code runs and no microtask waits. -/
def isIdle (s : Controller) : Bool :=
  s.calls.isEmpty && !s.negotiateReady && s.requests.all fun q => !s.resumeReady q

/-- The signer has not given the signature it was asked for. -/
def awaitsSignature (s : Controller) : Bool :=
  match s.negotiation with
  | .signing _ none => true
  | _ => false

/-- The channel has closed, nothing is left to run, and a request waits for the signer. -/
def isStranded (s : Controller) : Bool :=
  s.closed && s.isIdle && s.awaitsSignature && s.requests.any fun q => q.progress.isWaiting

lemma isIdle_calls {s : Controller} (h : s.isIdle = true) : s.calls = [] := by
  simp only [isIdle, Bool.and_eq_true] at h
  exact List.isEmpty_iff.1 h.1.1

lemma isIdle_negotiate {s : Controller} (h : s.isIdle = true) : s.negotiateReady = false := by
  simp only [isIdle, Bool.and_eq_true] at h
  simpa using h.1.2

lemma isIdle_resume {s : Controller} (h : s.isIdle = true) {q : Request} (hq : q ∈ s.requests) :
    s.resumeReady q = false := by
  simp only [isIdle, Bool.and_eq_true] at h
  simpa using List.all_eq_true.1 h.2 q hq

/-! ## What is left after a close -/

variable {o : ControllerOptions}

/-- After the close a negotiation with nothing to run has settled, or waits for the signer. -/
lemma negotiation_of_closed {messages : List Message} {s : Controller}
    (h : Negotiates messages s) (hclosed : s.closed = true) (hidle : s.isIdle = true) :
    s.awaitsSignature = true ∨ ∃ outcome, s.negotiation = .settled outcome := by
  have hready := isIdle_negotiate hidle
  unfold negotiateReady at hready
  unfold awaitsSignature
  cases hnegotiation : s.negotiation with
  | ready =>
    rw [hnegotiation, hclosed] at hready
    simp at hready
  | signing sessionId signature =>
    cases signature with
    | none => exact Or.inl rfl
    | some signature =>
      rw [hnegotiation] at hready
      cases hready
  | sending =>
    have hhello := h.sending.1 (by rw [hnegotiation]; rfl)
    rw [isIdle_calls hidle] at hhello
    cases hhello
  | waiting =>
    rw [hnegotiation] at hready
    rcases h.ack (Or.inl (by rw [hnegotiation]; rfl)) with hawaiting | hack
    · rw [(h.closed hclosed).1] at hawaiting
      cases hawaiting
    · rw [hack] at hready
      cases hready
  | settled outcome => exact Or.inr ⟨outcome, rfl⟩

lemma mem_requests_progressOf {s : Controller} {q : Request} (hq : q ∈ s.requests) :
    ∃ r, s.progressOf r = some q.progress := by
  obtain ⟨r, hr⟩ := List.mem_iff_getElem?.1 hq
  exact ⟨r, by rw [progressOf, hr]; rfl⟩

/-- After the close a request with nothing to run has settled, or waits for the negotiation. -/
lemma settled_or_waiting {s : Controller} (h : Tracks o s) (hclosed : s.closed = true)
    {q : Request} (hq : q ∈ s.requests) : q.progress.isSettled = true ∨ q.progress = .waiting := by
  obtain ⟨r, hr⟩ := mem_requests_progressOf hq
  cases hp : q.progress with
  | waiting => exact Or.inr rfl
  | sent id =>
    rw [hp] at hr
    have hget := (h.sent r id hr).2
    rw [h.closed hclosed id] at hget
    cases hget
  | settled outcome => exact Or.inl rfl

lemma settled_of_not_stranded {messages : List Message} {s : Controller} (h : Tracks o s)
    (hn : Negotiates messages s) (hclosed : s.closed = true) (hidle : s.isIdle = true)
    (hnot : s.isStranded = false) {q : Request} (hq : q ∈ s.requests) :
    q.progress.isSettled = true := by
  rcases settled_or_waiting h hclosed hq with hsettled | hwaiting
  · exact hsettled
  rcases negotiation_of_closed hn hclosed hidle with hsigner | ⟨outcome, hsettled⟩
  · have hstranded : s.isStranded = true := by
      simp only [isStranded, Bool.and_eq_true]
      refine ⟨⟨⟨hclosed, hidle⟩, hsigner⟩, List.any_eq_true.2 ⟨q, hq, ?_⟩⟩
      rw [hwaiting]
      rfl
    rw [hnot] at hstranded
    cases hstranded
  · have hresume := isIdle_resume hidle hq
    rw [resumeReady, hwaiting, hsettled] at hresume
    cases hresume

/-! ## Promises settle once -/

lemma settled_settle {s : Controller} {r j : ℕ} {first outcome : Except ClientError Json}
    (h : s.progressOf j = some (.settled first)) :
    (s.settle r outcome).progressOf j = some (.settled first) := by
  rw [progressOf_settle, h]
  split <;> rfl

lemma settled_same {s t : Controller} (hst : SameRequests s t) {r : ℕ}
    {outcome : Except ClientError Json} (h : s.progressOf r = some (.settled outcome)) :
    t.progressOf r = some (.settled outcome) := by
  rw [hst.progressOf]
  exact h

lemma settled_onClose {s : Controller} {r : ℕ} {outcome : Except ClientError Json}
    (h : s.progressOf r = some (.settled outcome)) :
    s.onClose.1.progressOf r = some (.settled outcome) := by
  cases hclosed : s.closed with
  | true =>
    rw [onClose_closed hclosed]
    exact h
  | false =>
    rw [(closing_onClose hclosed).progressOf, h]
    split <;> rfl

lemma settled_answer {s : Controller} {r j : ℕ} {first : Except ClientError Json}
    (h : s.progressOf j = some (.settled first)) (purpose : Purpose) (response : Response) :
    (s.answer o r purpose response).progressOf j = some (.settled first) := by
  unfold answer
  split
  · exact settled_settle h
  split
  · exact settled_settle h
  · exact settled_settle (settled_same (same_register o s purpose _) h)

lemma settled_onControl {s : Controller} {r : ℕ} {outcome : Except ClientError Json}
    (h : s.progressOf r = some (.settled outcome)) (payload : Bytes) :
    (s.onControl o payload).progressOf r = some (.settled outcome) := by
  unfold onControl
  split
  · exact settled_same (same_handleHelloAck o s payload) h
  split
  · exact h
  next response _ =>
  split
  · exact h
  dsimp only
  split
  · exact h
  · have herased : ({ s with pending := s.pending.erase response.id }).progressOf r =
        some (.settled outcome) := h
    exact settled_answer herased _ _

lemma settled_resume {s : Controller} {r j : ℕ} {outcome : Except ClientError Json}
    (h : s.progressOf j = some (.settled outcome)) :
    (s.resume o r).1.progressOf j = some (.settled outcome) := by
  unfold resume
  split
  · exact h
  next request hr =>
  split
  · next result hwaiting _ =>
    rcases s.resumeSend_cases r request result with ⟨error, heq⟩ | ⟨active, params, -, -, heq⟩
    · rw [heq]
      exact settled_settle h
    · have hprogress : s.progressOf r = some .waiting := by rw [progressOf, hr, ← hwaiting]; rfl
      have hjr : j ≠ r := by
        rintro rfl
        rw [h] at hprogress
        cases hprogress
      rw [heq, progressOf, progressOf_sent _ hprogress, if_neg hjr]
      exact h
  · split
    · exact settled_same (same_runCleanup s r _) h
    · exact h
  · exact h

lemma settled_callReturned {s : Controller} {r : ℕ} {first : Except ClientError Json}
    (h : s.progressOf r = some (.settled first)) (outcome : Outcome) :
    (s.callReturned o outcome).1.progressOf r = some (.settled first) := by
  unfold callReturned
  split
  · exact h
  next call calls _ =>
  dsimp only
  split
  · exact h
  · split <;> exact h
  · exact h
  · exact h
  · exact h
  · next r _ =>
    exact settled_settle
      (s := { s with calls, pending := s.pending.erase (o.newRequestId r) }) h
  · exact h
  · exact h
  · exact settled_same (same_onStream { s with calls } _ _) h

lemma settled_react {s : Controller} {r : ℕ} {outcome : Except ClientError Json}
    (h : s.progressOf r = some (.settled outcome)) (e : ControllerEvent) :
    (s.react o e).1.progressOf r = some (.settled outcome) := by
  cases e with
  | opened sessionId => exact settled_same (same_opened s sessionId) h
  | control payload =>
    simp only [react]
    split
    · exact settled_onControl h payload
    · exact h
  | binary payload =>
    simp only [react]
    split
    · exact settled_same (same_onBinary s payload) h
    · exact h
  | close => exact settled_onClose h
  | request method params => exact progressOf_issue_of_some h
  | subscribe ref viewport =>
    exact progressOf_issue_of_some
      (s := { s with streams := s.streams ++ [PtyEventStream.new] }) h
  | unsubscribe ref =>
    simp only [react, unsubscribe]
    split
    · exact h
    · next sub _ =>
      exact progressOf_issue_of_some (s := { s with
        subsByRef := s.subsByRef.erase ref
        streamsById := s.streamsById.erase sub.streamId }) h
  | next k read => exact settled_same (same_onStream s k _) h
  | callReturned result => exact settled_callReturned h result
  | signed signature => exact settled_same (same_signed s signature) h
  | timer =>
    simp only [react, onTimer]
    split
    · exact settled_onClose (s := { s with timer := false, awaitingHelloAck := false }.settleAck _) h
    · exact h
  | negotiate =>
    simp only [react]
    split
    · exact settled_same (same_negotiate o s) h
    · exact h
  | resume j =>
    simp only [react]
    split
    · exact settled_resume h
    · exact h

/-! ## Responses -/

/-- A control frame changes a request only when it is a response that carries its id. -/
lemma onControl_answers {s : Controller} (h : Tracks o s) {payload : Bytes} {r : ℕ}
    (hr : (s.onControl o payload).progressOf r ≠ s.progressOf r) :
    ∃ response, o.parseResponse payload = some response ∧
      s.progressOf r = some (.sent response.id) := by
  unfold onControl at hr
  split at hr
  · rw [(same_handleHelloAck o s payload).progressOf] at hr
    exact absurd rfl hr
  split at hr
  · exact absurd rfl hr
  next response hresponse =>
  split at hr
  · exact absurd rfl hr
  next k hget =>
  refine ⟨response, hresponse, ?_⟩
  dsimp only at hr
  split at hr
  · exact absurd rfl hr
  next request _ =>
  have hk := h.pending response.id k hget
  by_cases hrk : r = k
  · rw [hrk]
    exact hk
  -- a request that is not the one answered keeps its progress
  have hother : ∀ (t : Controller) outcome, t.progressOf = s.progressOf →
      (t.settle k outcome).progressOf r = s.progressOf r := by
    intro t outcome ht
    rw [progressOf_settle, if_neg hrk, ht]
  have hregister : ∀ result, (({ s with pending := s.pending.erase response.id }).register o
      request.purpose result).progressOf = s.progressOf :=
    fun result => (same_register o _ request.purpose result).progressOf
  exfalso
  apply hr
  unfold answer
  split
  · exact hother _ _ rfl
  split
  · exact hother _ _ rfl
  · exact hother _ _ (hregister _)

lemma react_control_answers {s : Controller} (h : Tracks o s) {payload : Bytes} {r : ℕ}
    (hr : (s.react o (.control payload)).1.progressOf r ≠ s.progressOf r) :
    ∃ response, o.parseResponse payload = some response ∧
      s.progressOf r = some (.sent response.id) := by
  simp only [react] at hr
  split at hr
  · exact onControl_answers h hr
  · exact absurd rfl hr

lemma Tracks.unique {s : Controller} (h : Tracks o s) {r q : ℕ} {id : JsString}
    (hr : s.progressOf r = some (.sent id)) (hq : s.progressOf q = some (.sent id)) : r = q := by
  have hget := (h.sent r id hr).2
  rw [(h.sent q id hq).2] at hget
  exact (Option.some.inj hget).symm

/-! ## Requests behind the negotiation -/

lemma mem_sentBy {effects : List ControllerEffect} {message : Message}
    (h : .sent message ∈ effects) : message ∈ sentBy effects := List.mem_filterMap.2 ⟨_, h, rfl⟩

lemma sayHello_sent {s : Controller} {sessionId : Option Bytes32}
    {deviceKeyId deviceAuth : JsString} {request : RpcRequest} :
    .sent (.request request) ∉ (s.sayHello o sessionId deviceKeyId deviceAuth).2 := by
  unfold sayHello
  dsimp only
  split <;> simp

lemma negotiate_sent {s : Controller} {request : RpcRequest} :
    .sent (.request request) ∉ (s.negotiate o).2 := by
  unfold negotiate
  split
  · split
    · unfold begin
      split
      · exact sayHello_sent
      split <;> simp
    split <;> simp
  · exact sayHello_sent
  · simp
  · simp
  · simp
  · split <;> simp
  · simp

lemma sentBy_callReturned (s : Controller) (outcome : Outcome) :
    sentBy (s.callReturned o outcome).2 = [] := by
  unfold callReturned
  split
  · rfl
  dsimp only
  split
  · rfl
  · split <;> rfl
  · rfl
  · rfl
  · rfl
  · rfl
  · rfl
  · rfl
  · exact sentBy_onStream _ _ _

lemma sentBy_onTimer (s : Controller) : sentBy s.onTimer.2 = [] := by
  unfold onTimer
  split
  · exact sentBy_onClose _
  · rfl

lemma resume_sent {s : Controller} {r : ℕ} {request : RpcRequest}
    (h : .sent (.request request) ∈ (s.resume o r).2) :
    ∃ active, s.negotiation = .settled (.ok active) := by
  unfold resume at h
  split at h
  · cases h
  next q _ =>
  split at h
  · next outcome _ hnegotiation =>
    rcases s.resumeSend_cases r q outcome with ⟨error, heq⟩ | ⟨active, params, rfl, -, -⟩
    · rw [heq] at h
      cases h
    · exact ⟨active, hnegotiation⟩
  · split at h
    · have hmem := mem_sentBy h
      rw [sentBy_runCleanup] at hmem
      cases hmem
    · cases h
  · cases h

lemma react_sent {s : Controller} {e : ControllerEvent} {request : RpcRequest}
    (h : .sent (.request request) ∈ (s.react o e).2) :
    ∃ active, s.negotiation = .settled (.ok active) := by
  have hnone : sentBy (s.react o e).2 = [] → ∃ active, s.negotiation = .settled (.ok active) := by
    intro hnil
    have hmem := mem_sentBy h
    rw [hnil] at hmem
    cases hmem
  cases e with
  | opened sessionId => exact hnone rfl
  | control payload =>
    apply hnone
    simp only [react]
    split <;> rfl
  | binary payload =>
    apply hnone
    simp only [react]
    split
    · exact sentBy_onBinary s payload
    · rfl
  | close => exact hnone (sentBy_onClose s)
  | request method params => exact hnone rfl
  | subscribe ref viewport => exact hnone rfl
  | unsubscribe ref => exact hnone rfl
  | next k read => exact hnone (sentBy_onStream s k _)
  | callReturned outcome => exact hnone (sentBy_callReturned s outcome)
  | signed signature => exact hnone rfl
  | timer => exact hnone (sentBy_onTimer s)
  | negotiate =>
    simp only [react] at h
    split at h
    · exact absurd h negotiate_sent
    · cases h
  | resume r =>
    simp only [react] at h
    split at h
    · exact resume_sent h
    · cases h

/-! ## Runs -/

lemma negotiates_run (es : List ControllerEvent) :
    Negotiates ((controllerMachine o).outputs (fun s e => sentBy (s.react o e).2) es)
      ((controllerMachine o).run es) := by
  refine (controllerMachine o).history_invariant (p := fun es s =>
    Negotiates ((controllerMachine o).outputs (fun s e => sentBy (s.react o e).2) es) s)
    negotiates_init (fun es e h => ?_) es
  rw [Machine.outputs_snoc]
  exact h.react e

end Controller

/-! ## The contract -/

/-- What the callers of a controller rely on over a run. -/
structure RequestContract (o : ControllerOptions) (es : List ControllerEvent) : Prop where
  settles : ∀ pre, pre <+: es → ((controllerMachine o).run pre).closed = true →
    ((controllerMachine o).run pre).isIdle = true →
    ∀ q ∈ ((controllerMachine o).run pre).requests, q.progress.isSettled = true
  once : ∀ pre e, pre ++ [e] <+: es → ∀ r outcome,
    ((controllerMachine o).run pre).progressOf r = some (.settled outcome) →
    ((controllerMachine o).run (pre ++ [e])).progressOf r = some (.settled outcome)
  answers : ∀ pre payload, pre ++ [.control payload] <+: es → ∀ r,
    ((controllerMachine o).run (pre ++ [.control payload])).progressOf r ≠
      ((controllerMachine o).run pre).progressOf r →
    ∃ response, o.parseResponse payload = some response ∧
      ∀ q, ((controllerMachine o).run pre).progressOf q = some (.sent response.id) ↔ q = r
  helloFirst : (controllerMachine o).outputs (fun s e => sentBy (s.react o e).2) es = [] ∨
    Greeted ((controllerMachine o).outputs (fun s e => sentBy (s.react o e).2) es)
  negotiated : ∀ pre e request, pre ++ [e] <+: es →
    .sent (.request request) ∈ (((controllerMachine o).run pre).react o e).2 →
    ∃ active, ((controllerMachine o).run pre).negotiation = .settled (.ok active)

/-- **Controller requests settle.** Where request ids are distinct, a run keeps the contract exactly
when no prefix of it leaves a request stranded: the channel closed, nothing left to run, and the
negotiation behind a signature the device signer has not given. -/
theorem requestContract_iff {o : ControllerOptions} (hid : Function.Injective o.newRequestId)
    (es : List ControllerEvent) :
    RequestContract o es ↔
      ∀ pre, pre <+: es → ((controllerMachine o).run pre).isStranded = false := by
  constructor
  · intro h pre hpre
    rw [Bool.eq_false_iff]
    intro hstranded
    simp only [Controller.isStranded, Bool.and_eq_true, List.any_eq_true] at hstranded
    obtain ⟨⟨⟨hclosed, hidle⟩, -⟩, q, hq, hwaiting⟩ := hstranded
    have hsettled := h.settles pre hpre hclosed hidle q hq
    cases hp : q.progress with
    | waiting =>
      rw [hp] at hsettled
      cases hsettled
    | sent id =>
      rw [hp] at hwaiting
      cases hwaiting
    | settled outcome =>
      rw [hp] at hwaiting
      cases hwaiting
  · intro hnot
    refine ⟨fun pre hpre hclosed hidle q hq => ?_, fun pre e _ r outcome hr => ?_,
      fun pre payload _ r hr => ?_, (Controller.negotiates_run es).shape, fun pre e request _ h => ?_⟩
    · exact Controller.settled_of_not_stranded (Controller.tracks_run hid pre)
        (Controller.negotiates_run pre) hclosed hidle (hnot pre hpre) hq
    · rw [Machine.run_snoc]
      exact Controller.settled_react hr e
    · rw [Machine.run_snoc] at hr
      have htracks := Controller.tracks_run hid pre
      obtain ⟨response, hparse, hsent⟩ := Controller.react_control_answers htracks hr
      refine ⟨response, hparse, fun q => ⟨fun hq => htracks.unique hq hsent, ?_⟩⟩
      rintro rfl
      exact hsent
    · exact Controller.react_sent h

/-! ## A signer that does not answer -/

/-- A controller with a device identity, over a host whose frames do not parse. -/
def signingOptions : ControllerOptions where
  capabilities := []
  deviceSigner := some ⟨List.replicate 16 0x61, js "host"⟩
  parseHelloAck _ := none
  parseResponse _ := none
  parseParams _ params := some params
  parseResult _ _ := none
  mirrorAck _ := 0
  newRequestId r := List.replicate r 0x61

lemma newRequestId_signingOptions : Function.Injective signingOptions.newRequestId := by
  intro r q h
  have hlength := congrArg List.length h
  simpa [signingOptions] using hlength

/-- A request is made and the signer asked; the channel closes before the signer answers. -/
def closedWhileSigning : List ControllerEvent :=
  [.opened (.repeat 0), .request .list .null, .negotiate, .callReturned .returned, .close]

/-- The request never settles. -/
theorem not_requestContract_closedWhileSigning :
    ¬ RequestContract signingOptions closedWhileSigning := by
  intro h
  have hall := h.settles closedWhileSigning (List.prefix_refl _) (by decide) (by decide)
  have hfound : (((controllerMachine signingOptions).run closedWhileSigning).requests.all
      fun q => q.progress.isSettled) = false := by decide
  rw [List.all_eq_true.2 hall] at hfound
  cases hfound

/-- The signer answers before the close. -/
theorem requestContract_signed :
    RequestContract signingOptions
      [.opened (.repeat 0), .request .list .null, .negotiate, .callReturned (.signature []),
        .negotiate, .callReturned .returned, .close, .negotiate, .resume 0] := by
  refine (requestContract_iff newRequestId_signingOptions _).2 fun pre hpre => ?_
  have hall : (List.inits [.opened (.repeat 0), .request .list .null, .negotiate,
      .callReturned (.signature []), .negotiate, .callReturned .returned, .close, .negotiate,
      .resume 0]).all (fun pre => !((controllerMachine signingOptions).run pre).isStranded) = true := by
    decide
  simpa using List.all_eq_true.1 hall pre ((List.mem_inits _ _).2 hpre)

end Pherry.Sdk
