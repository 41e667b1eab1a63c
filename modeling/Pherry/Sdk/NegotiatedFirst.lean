import Pherry.Sdk.RequestsSettle

/-!
# Requests go out behind the negotiation

A negotiation settles once, and a request that was sent, or that succeeded, stands behind one that
has settled.
-/

namespace Pherry.Sdk

open Lib Protocol

/-- Whether a request went out and did not fail. -/
def Progress.isBehind : Progress → Bool
  | waiting => false
  | sent _ => true
  | settled (.ok _) => true
  | settled (.error _) => false

namespace Controller

variable {o : ControllerOptions} {messages : List Message}

/-! ## Requests behind the negotiation -/

/-- Requests that were sent, or that succeeded, were so before. -/
def SendsNothing (s t : Controller) : Prop :=
  ∀ r p, t.progressOf r = some p → p.isBehind = true → ∃ q, s.progressOf r = some q ∧ q.isBehind = true

lemma SendsNothing.same {s t : Controller} (h : SameRequests s t) : SendsNothing s t := by
  intro r p hp hbehind
  rw [h.progressOf] at hp
  exact ⟨p, hp, hbehind⟩

lemma SendsNothing.trans {s t u : Controller} (h : SendsNothing s t) (h' : SendsNothing t u) :
    SendsNothing s u := by
  intro r p hp hbehind
  obtain ⟨q, hq, hqb⟩ := h' r p hp hbehind
  exact h r q hq hqb

lemma SendsNothing.settle_error (s : Controller) (r : ℕ) (error : ClientError) :
    SendsNothing s (s.settle r (.error error)) := by
  intro j p hp hbehind
  rw [progressOf_settle] at hp
  split at hp
  · obtain ⟨q, hq, rfl⟩ := Option.map_eq_some_iff.1 hp
    cases q with
    | waiting => cases hbehind
    | sent id => cases hbehind
    | settled outcome => exact ⟨.settled outcome, hq, hbehind⟩
  · exact ⟨p, hp, hbehind⟩

lemma SendsNothing.settle_sent {s : Controller} {r : ℕ} {id : JsString}
    (hr : s.progressOf r = some (.sent id)) (outcome : Except ClientError Json) :
    SendsNothing s (s.settle r outcome) := by
  intro j p hp hbehind
  rw [progressOf_settle] at hp
  split at hp
  · next heq => exact ⟨.sent id, heq ▸ hr, rfl⟩
  · exact ⟨p, hp, hbehind⟩

lemma SendsNothing.issue (s : Controller) (purpose : Purpose) (params : Json) (cleanup : Bool) :
    SendsNothing s (s.issue purpose params cleanup) := by
  intro r p hp hbehind
  rcases progressOf_issue hp with hold | ⟨-, -, rfl⟩
  · exact ⟨p, hold, hbehind⟩
  · split at hbehind <;> cases hbehind

lemma SendsNothing.onClose (s : Controller) : SendsNothing s s.onClose.1 := by
  cases hclosed : s.closed with
  | true =>
    rw [onClose_closed hclosed]
    exact .same (.refl s)
  | false =>
    intro r p hp hbehind
    rw [(closing_onClose hclosed).progressOf] at hp
    split at hp
    · obtain ⟨q, hq, rfl⟩ := Option.map_eq_some_iff.1 hp
      cases q with
      | waiting => cases hbehind
      | sent id => cases hbehind
      | settled outcome => exact ⟨.settled outcome, hq, hbehind⟩
    · exact ⟨p, hp, hbehind⟩

lemma SendsNothing.answer {s : Controller} {r : ℕ} {id : JsString}
    (hr : s.progressOf r = some (.sent id)) (purpose : Purpose) (response : Response) :
    SendsNothing s (s.answer o r purpose response) := by
  unfold Controller.answer
  split
  · exact .settle_error s r _
  split
  · exact .settle_error s r _
  · next parsed _ =>
    have hregister := same_register o s purpose parsed
    have hsent := (congrFun hregister.progressOf r).trans hr
    exact (SendsNothing.same hregister).trans (.settle_sent hsent _)

lemma SendsNothing.onControl {s : Controller} (htracks : Tracks o s) (payload : Bytes) :
    SendsNothing s (s.onControl o payload) := by
  unfold Controller.onControl
  split
  · exact .same (same_handleHelloAck o s payload)
  split
  · exact .same (.refl s)
  next response _ =>
  split
  · exact .same (.refl s)
  next r hget =>
  have hsent := htracks.pending response.id r hget
  have herased : SendsNothing s { s with pending := s.pending.erase response.id } :=
    fun j p hp hbehind => ⟨p, hp, hbehind⟩
  dsimp only
  split
  · exact herased
  · exact herased.trans (SendsNothing.answer
      (s := { s with pending := s.pending.erase response.id }) hsent _ _)

lemma SendsNothing.callReturned (s : Controller) (outcome : Outcome) :
    SendsNothing s (s.callReturned o outcome).1 := by
  unfold Controller.callReturned
  split
  · exact .same (.refl s)
  next call calls _ =>
  have hpop : SameRequests s { s with calls } := ⟨rfl, rfl, rfl⟩
  dsimp only
  split
  · exact .same ⟨rfl, rfl, rfl⟩
  · split <;> exact .same ⟨rfl, rfl, rfl⟩
  · exact .same hpop
  · exact .same ⟨rfl, rfl, rfl⟩
  · exact .same ⟨rfl, rfl, rfl⟩
  · next r _ =>
    exact SendsNothing.settle_error
      { s with calls, pending := s.pending.erase (o.newRequestId r) } r .send
  · exact .same hpop
  · exact .same hpop
  · exact (SendsNothing.same hpop).trans (.same (same_onStream { s with calls } _ _))

lemma resume_sendsNothing (s : Controller) (r : ℕ) :
    SendsNothing s (s.resume o r).1 ∨ ∃ outcome, s.negotiation = .settled outcome := by
  unfold Controller.resume
  split
  · exact Or.inl (.same (.refl s))
  split
  · next outcome _ hs => exact Or.inr ⟨outcome, hs⟩
  · split
    · exact Or.inl (.same (same_runCleanup s r _))
    · exact Or.inl (.same (.refl s))
  · exact Or.inl (.same (.refl s))

/-- While the signer runs, the negotiation is where it called it. -/
def SignsFirst (s : Controller) : Prop :=
  Call.sign ∈ s.calls → ∃ sessionId signature, s.negotiation = .signing sessionId signature

lemma SignsFirst.same {s t : Controller} (h : SignsFirst s) (hst : SameNegotiation s t) :
    SignsFirst t := by
  intro hsign
  rw [hst.negotiation]
  apply h
  rcases hst.calls with heq | ⟨call, hcall, heq⟩
  · rw [← heq]
    exact hsign
  · rw [heq, List.mem_cons] at hsign
    exact hsign.resolve_left (Ne.symm hcall.2)

lemma SignsFirst.onClose {s : Controller} (h : SignsFirst s) : SignsFirst s.onClose.1 := by
  cases hclosed : s.closed with
  | true =>
    rw [onClose_closed hclosed]
    exact h
  | false =>
    have hc := closing_onClose hclosed
    intro hsign
    rw [hc.negotiation]
    rw [hc.calls] at hsign
    exact h hsign

lemma SignsFirst.of_not_mem {s : Controller} (h : Call.sign ∉ s.calls) : SignsFirst s :=
  fun hsign => absurd hsign h

lemma SignsFirst.negotiate {s : Controller} (hcalls : s.calls = []) :
    SignsFirst (s.negotiate o).1 := by
  have hhello : ∀ sessionId deviceKeyId deviceAuth,
      SignsFirst (s.sayHello o sessionId deviceKeyId deviceAuth).1 := by
    intro sessionId deviceKeyId deviceAuth
    unfold Controller.sayHello
    dsimp only
    apply SignsFirst.of_not_mem
    split <;> simp [helloFailed, hcalls]
  have hnone : Call.sign ∉ s.calls := by
    rw [hcalls]
    exact List.not_mem_nil
  unfold Controller.negotiate
  split
  · split
    · unfold Controller.begin
      split
      · exact hhello _ _ _
      split
      · exact .of_not_mem hnone
      · next sessionId _ => exact fun _ => ⟨sessionId, none, rfl⟩
    split <;> exact .of_not_mem hnone
  · exact hhello _ _ _
  · exact .of_not_mem hnone
  · exact .of_not_mem hnone
  · exact .of_not_mem hnone
  · split <;> exact .of_not_mem hnone
  · exact .of_not_mem hnone

lemma SignsFirst.callReturned {s : Controller} (h : SignsFirst s) (hn : Negotiates messages s)
    (outcome : Outcome) : SignsFirst (s.callReturned o outcome).1 := by
  unfold Controller.callReturned
  cases hcalls : s.calls with
  | nil => exact h
  | cons call calls =>
  have hpop : SignsFirst { s with calls } := by
    intro hsign
    exact h (by rw [hcalls]; exact List.mem_cons_of_mem _ hsign)
  have halone : call = .hello ∨ call = .sign → calls = [] :=
    fun hcall => Outermost.alone (hcalls ▸ hn.outermost) hcall
  dsimp only
  split
  · exact .of_not_mem (by rw [halone (Or.inr rfl)]; exact List.not_mem_nil)
  · split
    · exact .of_not_mem (by rw [halone (Or.inr rfl)]; exact List.not_mem_nil)
    · exact hpop
  · exact hpop
  · exact .of_not_mem (by rw [helloFailed, halone (Or.inl rfl)]; exact List.not_mem_nil)
  · exact .of_not_mem (by rw [halone (Or.inl rfl)]; exact List.not_mem_nil)
  · exact hpop
  · exact hpop
  · exact hpop
  · exact hpop.same (sameNegotiation_onStream { s with calls } _ _)

lemma SignsFirst.onControl {s : Controller} (h : SignsFirst s) (payload : Bytes) :
    SignsFirst (s.onControl o payload) := by
  unfold Controller.onControl
  split
  · unfold Controller.handleHelloAck
    dsimp only
    split <;> exact h
  split
  · exact h
  next response _ =>
  split
  · exact h
  dsimp only
  have herased : SignsFirst { s with pending := s.pending.erase response.id } := h
  split
  · exact herased
  · exact herased.same (sameNegotiation_answer _ _ _ _ _)

lemma SignsFirst.resume {s : Controller} (h : SignsFirst s) (r : ℕ) :
    SignsFirst (s.resume o r).1 := by
  unfold Controller.resume
  split
  · exact h
  next q _ =>
  split
  · next result _ _ =>
    rcases s.resumeSend_cases r q result with ⟨error, heq⟩ | ⟨active, params, -, -, heq⟩
    · rw [heq]
      exact h
    · rw [heq]
      intro hsign
      exact h (by simpa using hsign)
  · split
    · exact h.same (sameNegotiation_runCleanup s r _)
    · exact h
  · exact h

lemma SignsFirst.react {s : Controller} (h : SignsFirst s) (hn : Negotiates messages s)
    (e : ControllerEvent) : SignsFirst (s.react o e).1 := by
  cases e with
  | opened sessionId =>
    simp only [Controller.react, Controller.opened]
    split <;> exact h
  | control payload =>
    simp only [Controller.react]
    split
    · exact h.onControl payload
    · exact h
  | binary payload =>
    simp only [Controller.react]
    split
    · exact h.same (sameNegotiation_onBinary s payload)
    · exact h
  | close => exact h.onClose
  | request method params => exact h
  | subscribe ref viewport => exact h
  | unsubscribe ref => exact h.same (sameNegotiation_unsubscribe s ref)
  | next k read => exact h.same (sameNegotiation_onStream s k _)
  | callReturned outcome => exact h.callReturned hn outcome
  | signed signature =>
    simp only [Controller.react]
    unfold Controller.signed
    split
    · next sessionId _ =>
      split
      · exact h
      · exact fun _ => ⟨sessionId, some signature, rfl⟩
    · exact h
  | timer =>
    simp only [Controller.react, Controller.onTimer]
    split
    · exact SignsFirst.onClose
        (s := { s with timer := false, awaitingHelloAck := false }.settleAck _) h
    · exact h
  | negotiate =>
    simp only [Controller.react]
    split
    · next hcalls => exact .negotiate hcalls
    · exact h
  | resume r =>
    simp only [Controller.react]
    split
    · exact h.resume r
    · exact h

/-- A request that went out did so behind the negotiation. -/
def BehindNegotiation (s : Controller) : Prop :=
  ∀ r p, s.progressOf r = some p → p.isBehind = true → ∃ outcome, s.negotiation = .settled outcome

lemma negotiation_react {s : Controller} (h : Negotiates messages s) (hsigns : SignsFirst s)
    {outcome : Except ClientError (List JsString)} (hs : s.negotiation = .settled outcome)
    (e : ControllerEvent) : (s.react o e).1.negotiation = .settled outcome := by
  have hclose : ∀ t : Controller, t.onClose.1.negotiation = t.negotiation := by
    intro t
    cases hclosed : t.closed with
    | true => rw [onClose_closed hclosed]
    | false => exact (closing_onClose hclosed).negotiation
  have hsend : Call.hello ∉ s.calls := by
    rw [← h.sending, hs]
    exact Bool.false_ne_true
  have hsign : Call.sign ∉ s.calls := by
    intro hmem
    obtain ⟨sessionId, signature, heq⟩ := hsigns hmem
    rw [hs] at heq
    cases heq
  cases e with
  | opened sessionId =>
    simp only [react, Controller.opened]
    split <;> exact hs
  | control payload =>
    simp only [react]
    split
    · unfold Controller.onControl
      split
      · unfold Controller.handleHelloAck
        dsimp only
        split <;> exact hs
      split
      · exact hs
      split
      · exact hs
      dsimp only
      split
      · exact hs
      · exact (sameNegotiation_answer _ _ _ _ _).negotiation.trans hs
    · exact hs
  | binary payload =>
    simp only [react]
    split
    · exact (sameNegotiation_onBinary s payload).negotiation.trans hs
    · exact hs
  | close => exact (hclose s).trans hs
  | request method params => exact hs
  | subscribe ref viewport => exact hs
  | unsubscribe ref => exact (sameNegotiation_unsubscribe s ref).negotiation.trans hs
  | next k read => exact (sameNegotiation_onStream s k _).negotiation.trans hs
  | callReturned result =>
    simp only [react]
    unfold Controller.callReturned
    split
    · exact hs
    next call calls hcalls =>
    rw [hcalls] at hsend hsign
    dsimp only
    split
    · exact absurd List.mem_cons_self hsign
    · exact absurd List.mem_cons_self hsign
    · exact hs
    · exact absurd List.mem_cons_self hsend
    · exact absurd List.mem_cons_self hsend
    · exact hs
    · exact hs
    · exact hs
    · exact (sameNegotiation_onStream { s with calls } _ _).negotiation.trans hs
  | signed signature =>
    simp only [react, Controller.signed, hs]
  | timer =>
    simp only [react, Controller.onTimer]
    split
    · exact (hclose _).trans hs
    · exact hs
  | negotiate =>
    simp only [react]
    split
    · rw [Controller.negotiate, hs]
      exact hs
    · exact hs
  | resume r =>
    simp only [react]
    split
    · unfold Controller.resume
      split
      · exact hs
      next q _ =>
      split
      · next result _ _ =>
        rcases s.resumeSend_cases r q result with ⟨error, heq⟩ | ⟨active, params, -, -, heq⟩
        · rw [heq]
          exact hs
        · rw [heq]
          exact hs
      · split
        · exact (sameNegotiation_runCleanup s r _).negotiation.trans hs
        · exact hs
      · exact hs
    · exact hs

lemma BehindNegotiation.react {s : Controller} (h : BehindNegotiation s) (htracks : Tracks o s)
    (hnegotiates : Negotiates messages s) (hsigns : SignsFirst s) (e : ControllerEvent) :
    BehindNegotiation (s.react o e).1 := by
  have hstill : ∀ outcome, s.negotiation = .settled outcome →
      BehindNegotiation (s.react o e).1 := by
    intro outcome hs r p _ _
    exact ⟨outcome, negotiation_react hnegotiates hsigns hs e⟩
  have hnothing : SendsNothing s (s.react o e).1 → BehindNegotiation (s.react o e).1 := by
    intro hsends r p hp hbehind
    obtain ⟨q, hq, hqb⟩ := hsends r p hp hbehind
    obtain ⟨outcome, hs⟩ := h r q hq hqb
    exact ⟨outcome, negotiation_react hnegotiates hsigns hs e⟩
  cases e with
  | opened sessionId => exact hnothing (.same (same_opened s sessionId))
  | control payload =>
    apply hnothing
    simp only [Controller.react]
    split
    · exact .onControl htracks payload
    · exact .same (.refl s)
  | binary payload =>
    apply hnothing
    simp only [Controller.react]
    split
    · exact .same (same_onBinary s payload)
    · exact .same (.refl s)
  | close => exact hnothing (.onClose s)
  | request method params => exact hnothing (.issue s _ _ _)
  | subscribe ref viewport =>
    exact hnothing (SendsNothing.issue { s with streams := s.streams ++ [PtyEventStream.new] } _ _ _)
  | unsubscribe ref =>
    apply hnothing
    simp only [Controller.react, Controller.unsubscribe]
    split
    · exact .same (.refl s)
    · next sub _ =>
      exact SendsNothing.issue { s with
        subsByRef := s.subsByRef.erase ref
        streamsById := s.streamsById.erase sub.streamId } _ _ _
  | next k read => exact hnothing (.same (same_onStream s k _))
  | callReturned outcome => exact hnothing (.callReturned s outcome)
  | signed signature => exact hnothing (.same (same_signed s signature))
  | timer =>
    apply hnothing
    simp only [Controller.react, Controller.onTimer]
    split
    · exact SendsNothing.onClose
        ({ s with timer := false, awaitingHelloAck := false }.settleAck _)
    · exact .same (.refl s)
  | negotiate =>
    apply hnothing
    simp only [Controller.react]
    split
    · exact .same (same_negotiate o s)
    · exact .same (.refl s)
  | resume r =>
    have hresume : SendsNothing s (s.react o (.resume r)).1 ∨
        ∃ outcome, s.negotiation = .settled outcome := by
      simp only [Controller.react]
      split
      · exact s.resume_sendsNothing r
      · exact Or.inl (.same (.refl s))
    rcases hresume with hsends | ⟨outcome, hs⟩
    · exact hnothing hsends
    · exact hstill outcome hs

/-! ## Runs -/

lemma signsFirst_run (es : List ControllerEvent) : SignsFirst ((controllerMachine o).run es) := by
  refine (controllerMachine o).history_invariant (p := fun _ s => SignsFirst s) ?_
    (fun es e h => h.react (negotiates_run es) e) es
  exact .of_not_mem List.not_mem_nil

lemma behindNegotiation_run (hid : Function.Injective o.newRequestId)
    (es : List ControllerEvent) : BehindNegotiation ((controllerMachine o).run es) := by
  refine (controllerMachine o).history_invariant (p := fun _ s => BehindNegotiation s) ?_
    (fun es e h => h.react (tracks_run hid es) (negotiates_run es) (signsFirst_run es) e) es
  intro r p hp
  cases hp

end Controller

end Pherry.Sdk
