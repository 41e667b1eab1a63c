import Pherry.Sdk.Negotiation

/-!
# The capabilities a controller considers active

They are negotiated with the list of the HelloAck, and a method that requires another one is
refused before it is sent.
-/

namespace Pherry.Sdk

open Lib Protocol

namespace Controller

variable (o : ControllerOptions) (served : List JsString)

/-- The ack lists these capabilities, and what is active was negotiated with them. -/
structure Agreed (s : Controller) : Prop where
  ack : ∀ ack, s.ack = some (.ok ack) → ack.capabilities = served
  active : ∀ active, s.negotiation = .settled (.ok active) →
    active = Protocol.negotiate o.capabilities served

/-- A step that agrees, and says a Hello with the capabilities of the controller. -/
structure AgreedStep (r : Controller × List ControllerEffect) : Prop where
  agreed : Agreed o served r.1
  hello : ∀ hello, .hello hello ∈ sentBy r.2 → hello.capabilities = o.capabilities

variable {o served}

lemma agreed_init : Agreed o served .init where
  ack _ h := by cases h
  active _ h := by cases h

lemma Agreed.quiet {s : Controller} (h : Agreed o served s) {effects : List ControllerEffect}
    (heffects : sentBy effects = []) : AgreedStep o served (s, effects) := by
  refine ⟨h, fun hello hhello => ?_⟩
  rw [heffects] at hhello
  cases hhello

lemma Agreed.same {s t : Controller} (h : Agreed o served s) (hst : SameNegotiation s t) :
    Agreed o served t where
  ack := by
    rw [hst.ack]
    exact h.ack
  active := by
    rw [hst.negotiation]
    exact h.active

lemma Agreed.keep {s t : Controller} (h : Agreed o served s) {effects : List ControllerEffect}
    (hnegotiation : t.negotiation = s.negotiation) (hack : t.ack = s.ack)
    (heffects : sentBy effects = []) : AgreedStep o served (t, effects) := by
  refine Agreed.quiet ⟨?_, ?_⟩ heffects
  · rw [hack]
    exact h.ack
  · rw [hnegotiation]
    exact h.active

lemma Agreed.unsettled {s t : Controller} (h : Agreed o served s)
    (hack : ∀ ack, t.ack = some (.ok ack) → s.ack = some (.ok ack))
    (hnegotiation : ∀ active, t.negotiation ≠ .settled (.ok active)) : Agreed o served t where
  ack ack hok := h.ack ack (hack ack hok)
  active active hok := absurd hok (hnegotiation active)

lemma Agreed.sayHello {s : Controller} (h : Agreed o served s) (sessionId : Option Bytes32)
    (deviceKeyId deviceAuth : JsString) :
    AgreedStep o served (s.sayHello o sessionId deviceKeyId deviceAuth) := by
  unfold Controller.sayHello
  dsimp only
  split
  · have hfailed : Agreed o served
        ({ s with
          timer := true
          awaitingHelloAck := true
          ack := none
          negotiation := .sending } : Controller).helloFailed := h.unsettled nofun nofun
    exact hfailed.quiet rfl
  · refine ⟨h.unsettled nofun nofun, fun hello hhello => ?_⟩
    cases List.mem_singleton.1 hhello
    rfl

lemma Agreed.begin {s : Controller} (h : Agreed o served s) : AgreedStep o served (s.begin o) := by
  unfold Controller.begin
  split
  · exact h.sayHello _ _ _
  split
  · have hfailed : Agreed o served { s with negotiation := .settled (.error .noSessionId) } :=
      h.unsettled (fun _ => id) nofun
    exact hfailed.quiet rfl
  · next signer _ sessionId _ =>
    have hsigning : Agreed o served
        { s with negotiation := .signing sessionId none, calls := .sign :: s.calls } :=
      h.unsettled (fun _ => id) nofun
    exact hsigning.quiet rfl

lemma Agreed.negotiate {s : Controller} (h : Agreed o served s) :
    AgreedStep o served (s.negotiate o) := by
  have hfails : ∀ error, AgreedStep o served ({ s with negotiation := .settled (.error error) }, []) := by
    intro error
    have hfailed : Agreed o served { s with negotiation := .settled (.error error) } :=
      h.unsettled (fun _ => id) nofun
    exact hfailed.quiet rfl
  unfold Controller.negotiate
  split
  · split
    · exact h.begin
    split
    · exact hfails _
    · exact h.quiet rfl
  · exact h.sayHello _ _ _
  · exact hfails _
  · exact h.quiet rfl
  · exact h.quiet rfl
  · split
    · exact h.quiet rfl
    · exact hfails _
    · next ack hack =>
      have hconcluded : Agreed o served { s with negotiation := .settled (concluded o ack) } := by
        refine ⟨h.ack, fun active hactive => ?_⟩
        simp only [Negotiation.settled.injEq, concluded, negotiateHello] at hactive
        split at hactive
        · rw [h.ack ack hack] at hactive
          exact (Except.ok.inj hactive).symm
        · cases hactive
      exact hconcluded.quiet rfl
  · exact h.quiet rfl

lemma Agreed.settleAck {s t : Controller} (h : Agreed o served s) {outcome : Except ClientError HelloAck}
    (hack : t.ack = s.ack.or (some outcome)) (hnegotiation : t.negotiation = s.negotiation)
    (houtcome : ∀ ack, outcome = .ok ack → ack.capabilities = served) : Agreed o served t where
  ack ack hok := by
    rw [hack] at hok
    cases hs : s.ack with
    | none =>
      rw [hs] at hok
      exact houtcome ack (Option.some.inj hok)
    | some settled =>
      rw [hs] at hok
      exact h.ack ack (by rw [hs]; exact hok)
  active := by
    rw [hnegotiation]
    exact h.active

lemma Agreed.failAck {s t : Controller} (h : Agreed o served s) {error : ClientError}
    (hack : t.ack = s.ack.or (some (.error error))) (hnegotiation : t.negotiation = s.negotiation) :
    Agreed o served t :=
  h.settleAck hack hnegotiation fun _ heq => by cases heq

lemma Agreed.onClose {s : Controller} (h : Agreed o served s) : AgreedStep o served s.onClose := by
  have hagreed : Agreed o served s.onClose.1 := by
    cases hclosed : s.closed with
    | true =>
      rw [onClose_closed hclosed]
      exact h
    | false =>
      have hc := closing_onClose hclosed
      cases hawaiting : s.awaitingHelloAck with
      | true =>
        have hack : s.onClose.1.ack = s.ack.or (some (.error .channelClosed)) := by
          rw [hc.ack, hawaiting]
          rfl
        exact h.failAck hack hc.negotiation
      | false =>
        refine ⟨?_, ?_⟩
        · rw [hc.ack, hawaiting]
          exact h.ack
        · rw [hc.negotiation]
          exact h.active
  exact hagreed.quiet (sentBy_onClose s)

lemma Agreed.onTimer {s : Controller} (h : Agreed o served s) : AgreedStep o served s.onTimer := by
  unfold Controller.onTimer
  split
  · apply Agreed.onClose
    exact h.failAck rfl rfl
  · exact h.quiet rfl

lemma Agreed.onControl {s : Controller} (h : Agreed o served s) {payload : Bytes}
    (hparse : ∀ ack, o.parseHelloAck payload = some ack → ack.capabilities = served) :
    Agreed o served (s.onControl o payload) := by
  unfold Controller.onControl
  split
  · unfold handleHelloAck
    dsimp only
    split
    · exact h.failAck rfl rfl
    · next ack hack =>
      refine h.settleAck rfl rfl fun other hother => ?_
      cases hother
      exact hparse ack hack
  split
  · exact h
  split
  · exact h
  next response _ _ _ _ =>
  have herased : Agreed o served { s with pending := s.pending.erase response.id } := ⟨h.ack, h.active⟩
  dsimp only
  split
  · exact herased
  · exact herased.same (sameNegotiation_answer o _ _ _ _)

lemma Agreed.callReturned {s : Controller} (h : Agreed o served s) (outcome : Outcome) :
    AgreedStep o served (s.callReturned o outcome) := by
  unfold Controller.callReturned
  split
  · exact h.quiet rfl
  next call calls hcalls =>
  have hpop : Agreed o served { s with calls } := ⟨h.ack, h.active⟩
  dsimp only
  split
  · have hfailed : Agreed o served { s with calls, negotiation := .settled (.error .signer) } :=
      h.unsettled (fun _ => id) nofun
    exact hfailed.quiet rfl
  · next bytes =>
    split
    · next sessionId _ =>
      have hsigned : Agreed o served
          { s with calls, negotiation := .signing sessionId (some (.ok bytes)) } :=
        h.unsettled (fun _ => id) nofun
      exact hsigned.quiet rfl
    · exact hpop.quiet rfl
  · exact hpop.quiet rfl
  · have hfailed : Agreed o served ({ s with calls } : Controller).helloFailed :=
      h.unsettled (fun _ => id) nofun
    exact hfailed.quiet rfl
  · have hwaiting : Agreed o served { s with calls, negotiation := .waiting } :=
      h.unsettled (fun _ => id) nofun
    exact hwaiting.quiet rfl
  · exact hpop.keep rfl rfl rfl
  · exact hpop.quiet rfl
  · exact hpop.quiet rfl
  · exact (hpop.same (sameNegotiation_onStream _ _ _)).quiet (sentBy_onStream _ _ _)

lemma Agreed.resume {s : Controller} (h : Agreed o served s) (r : ℕ) :
    AgreedStep o served (s.resume o r) := by
  unfold Controller.resume
  split
  · exact h.quiet rfl
  next request _ =>
  split
  · next outcome _ _ =>
    rcases s.resumeSend_cases r request outcome with ⟨error, heq⟩ | ⟨active, params, -, -, heq⟩
    · rw [heq]
      exact h.keep rfl rfl rfl
    · rw [heq]
      refine ⟨⟨h.ack, h.active⟩, fun hello hhello => ?_⟩
      cases List.mem_singleton.1 hhello
  · split
    · exact (h.same (sameNegotiation_runCleanup s r _)).quiet (sentBy_runCleanup _ _ _)
    · exact h.quiet rfl
  · exact h.quiet rfl

/-- A step keeps what the controller agrees on, if every HelloAck that arrives lists these
capabilities. -/
lemma Agreed.react {s : Controller} (h : Agreed o served s) {e : ControllerEvent}
    (hparse : ∀ payload ack, e = .control payload → o.parseHelloAck payload = some ack →
      ack.capabilities = served) : AgreedStep o served (s.react o e) := by
  cases e with
  | opened sessionId =>
    have hopened : Agreed o served (s.opened sessionId) := by
      unfold Controller.opened
      split
      · exact h
      · exact ⟨h.ack, h.active⟩
    exact hopened.quiet rfl
  | control payload =>
    simp only [Controller.react]
    split
    · exact (h.onControl fun ack hack => hparse payload ack rfl hack).quiet rfl
    · exact h.quiet rfl
  | binary payload =>
    simp only [Controller.react]
    split
    · exact (h.same (sameNegotiation_onBinary s payload)).quiet (sentBy_onBinary s payload)
    · exact h.quiet rfl
  | close => exact h.onClose
  | request method params => exact h.keep rfl rfl rfl
  | subscribe ref viewport => exact h.keep rfl rfl rfl
  | unsubscribe ref => exact (h.same (sameNegotiation_unsubscribe s ref)).quiet rfl
  | next k read => exact (h.same (sameNegotiation_onStream s k _)).quiet (sentBy_onStream s k _)
  | callReturned outcome => exact h.callReturned outcome
  | signed signature =>
    have hsigned : Agreed o served (s.signed signature) := by
      unfold Controller.signed
      split
      · split
        · exact h
        · exact h.unsettled (fun _ => id) fun _ heq => by cases heq
      · exact h
    exact hsigned.quiet rfl
  | timer => exact h.onTimer
  | negotiate =>
    simp only [Controller.react]
    split
    · exact h.negotiate
    · exact h.quiet rfl
  | resume r =>
    simp only [Controller.react]
    split
    · exact h.resume r
    · exact h.quiet rfl

/-- A controller refuses a capability where the method requires one that is not active. -/
lemma prepare_refuses_iff (closed : Bool) (active : List JsString) (method : Method) (params : Json)
    (cap : JsString) :
    prepare o closed active method params = .error (.rpc (capabilityError cap)) ↔
      requiredCapability method = some cap ∧ cap ∉ active := by
  have hinj : ∀ other, capabilityError other = capabilityError cap → other = cap := by
    intro other h
    simp only [capabilityError, ErrorBody.mk.injEq, Option.some.injEq, Json.obj.injEq,
      List.cons.injEq, Prod.mk.injEq, Json.str.injEq] at h
    exact h.2.2.1.2
  unfold prepare
  cases hrequired : requiredCapability method with
  | none =>
    simp only [Option.any_none, Bool.false_eq_true, if_false, reduceCtorEq, false_and, iff_false]
    split
    · nofun
    · split <;> nofun
  | some other =>
    by_cases hactive : other ∈ active
    · simp only [Option.any_some, hactive, not_true_eq_false, decide_false, Bool.false_eq_true, if_false,
        Option.some.injEq]
      constructor
      · split
        · nofun
        · split <;> nofun
      · rintro ⟨rfl, hnot⟩
        exact absurd hactive hnot
    · simp only [Option.any_some, hactive, not_false_eq_true, decide_true, if_true, Option.getD_some,
        Except.error.injEq, ClientError.rpc.injEq, Option.some.injEq]
      constructor
      · intro heq
        have hother := hinj other heq
        exact ⟨hother, hother ▸ hactive⟩
      · rintro ⟨rfl, -⟩
        rfl

end Controller

end Pherry.Sdk
