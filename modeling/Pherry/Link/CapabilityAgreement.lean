import Pherry.Host.CapabilityGate
import Pherry.Link.Link
import Pherry.Sdk.CapabilityCheck

/-!
# Capability agreement

A host and a controller negotiate the same capabilities, refuse the same methods for want of one, and
nothing reaches a session or a hook without.
-/

namespace Pherry

open Lib Channel Protocol Host Sdk

/-- What the parsers of the handshake do with the payloads of the other end: a `Hello` and a
`HelloAck` are read with the list they were written with, and neither is read from a frame of another
kind, which lacks its fields. -/
structure HandshakeCodec (ho : ServeOptions) (co : ControllerOptions) : Prop where
  hello : ∀ hello parsed, hello.capabilities = co.capabilities →
    ho.gate.parseHello (Link.helloPayload hello) = some parsed →
      parsed.capabilities = hello.capabilities
  request : ∀ request, ho.gate.parseHello (Link.requestPayload request) = none
  ack : ∀ ack parsed, ack.capabilities = ho.gate.capabilities →
    co.parseHelloAck (Link.ackPayload ack) = some parsed → parsed.capabilities = ack.capabilities
  response : ∀ response : Response, co.parseHelloAck response.payload = none

namespace Link

variable (ho : ServeOptions) (co : ControllerOptions)

/-- The payloads a controller sends. -/
def FromController (payload : Bytes) : Prop :=
  (∃ hello, hello.capabilities = co.capabilities ∧ payload = helloPayload hello) ∨
    ∃ request, payload = requestPayload request

/-- The payloads a host sends. -/
def FromHost (payload : Bytes) : Prop :=
  (∃ ack, ack.capabilities = ho.gate.capabilities ∧ payload = ackPayload ack) ∨
    ∃ response : Response, payload = response.payload

/-- Both ends agree on the capabilities, and so does what is on its way. -/
structure Agrees (s : Link) : Prop where
  gate : Gate.Knows ho.gate co.capabilities s.host.gate
  heeds : Serve.Heeds (negotiate ho.gate.capabilities co.capabilities) s.host
  controller : Controller.Agreed co ho.gate.capabilities s.controller
  toHost : ∀ payload ∈ s.toHost, FromController co payload
  toController : ∀ payload ∈ s.toController, FromHost ho payload

variable {ho co}

lemma agrees_init (sessionId : Bytes) : Agrees ho co (.init sessionId) where
  gate := Gate.knows_init sessionId
  heeds _ _ _ hmem := by cases hmem
  controller := Controller.agreed_init
  toHost _ hmem := by cases hmem
  toController _ hmem := by cases hmem

lemma fromHost_of_heeded {caps : List JsString} {effects : List ServeEffect}
    (h : Heeded caps ho.gate.capabilities effects) :
    ∀ payload ∈ hostFrames effects, FromHost ho payload := by
  intro payload hpayload
  obtain ⟨effect, heffect, hframe⟩ := List.mem_filterMap.1 hpayload
  split at hframe
  · next ack =>
    cases hframe
    exact Or.inl ⟨ack, (h _ heffect).ack ack rfl, rfl⟩
  · next request response =>
    cases hframe
    exact Or.inr ⟨response, rfl⟩
  · cases hframe

lemma fromController_of_hello {effects : List ControllerEffect}
    (h : ∀ hello, .hello hello ∈ sentBy effects → hello.capabilities = co.capabilities) :
    ∀ payload ∈ controllerFrames effects, FromController co payload := by
  intro payload hpayload
  obtain ⟨effect, heffect, hframe⟩ := List.mem_filterMap.1 hpayload
  split at hframe
  · next hello =>
    cases hframe
    exact Or.inl ⟨hello, h hello (List.mem_filterMap.2 ⟨_, heffect, rfl⟩), rfl⟩
  · next request =>
    cases hframe
    exact Or.inr ⟨request, rfl⟩
  · cases hframe

lemma Agrees.atHost {s : Link} (h : Agrees ho co s) {e : ServeEvent}
    (hparse : ∀ payload hello, e = .gate (.frame ⟨.control, payload⟩) →
      ho.gate.parseHello payload = some hello → hello.capabilities = co.capabilities) :
    Agrees ho co (s.atHost ho e).1 ∧
      Heeded (negotiate ho.gate.capabilities co.capabilities) ho.gate.capabilities
        (s.atHost ho e).2 := by
  have htells : ∀ e', e = .gate e' →
      Gate.Tells ho.gate co.capabilities (s.host.gate.react ho.gate e') := by
    intro e' he'
    refine h.gate.react fun payload hello hframe hhello => ?_
    rw [hframe] at he'
    exact hparse payload hello he' hhello
  have hstep := Serve.heeds_react h.heeds htells
  refine ⟨⟨?_, hstep.heeds, h.controller, h.toHost, fun payload hpayload => ?_⟩, hstep.heeded⟩
  · show Gate.Knows ho.gate co.capabilities (s.host.react ho e).1.gate
    rcases s.host.react_gate (o := ho) e with heq | ⟨e', he', heq⟩
    · rw [heq]
      exact h.gate
    · rw [heq]
      exact (htells e' he').knows
  · rcases List.mem_append.1 hpayload with hold | hnew
    · exact h.toController payload hold
    · exact fromHost_of_heeded hstep.heeded payload hnew

lemma Agrees.atController {s : Link} (h : Agrees ho co s) {e : ControllerEvent}
    (hparse : ∀ payload ack, e = .control payload → co.parseHelloAck payload = some ack →
      ack.capabilities = ho.gate.capabilities) : Agrees ho co (s.atController co e) := by
  have hstep := h.controller.react hparse
  refine ⟨h.gate, h.heeds, hstep.agreed, fun payload hpayload => ?_, h.toController⟩
  rcases List.mem_append.1 hpayload with hold | hnew
  · exact h.toHost payload hold
  · exact fromController_of_hello hstep.hello payload hnew

lemma Agrees.react (hcodec : HandshakeCodec ho co) {s : Link} (h : Agrees ho co s)
    (e : LinkEvent) :
    Agrees ho co (s.react ho co e).1 ∧
      Heeded (negotiate ho.gate.capabilities co.capabilities) ho.gate.capabilities
        (s.react ho co e).2 := by
  have hstays : Agrees ho co s ∧
      Heeded (negotiate ho.gate.capabilities co.capabilities) ho.gate.capabilities [] :=
    ⟨h, heeded_nil⟩
  cases e with
  | host e =>
    simp only [Link.react]
    split
    · exact hstays
    · next hframe =>
      refine h.atHost fun payload hello heq _ => absurd ?_ hframe
      rw [heq]
      rfl
  | controller e =>
    simp only [Link.react]
    split
    · exact hstays
    · next hframe =>
      refine ⟨h.atController fun payload ack heq _ => absurd ?_ hframe, heeded_nil⟩
      rw [heq]
      rfl
  | toHost i =>
    simp only [Link.react]
    split
    · exact hstays
    · next payload hget =>
      have hfrom := h.toHost payload (List.mem_of_getElem? hget)
      have htaken : Agrees ho co { s with toHost := s.toHost.eraseIdx i } :=
        ⟨h.gate, h.heeds, h.controller, fun payload hmem => h.toHost payload (List.mem_of_mem_eraseIdx hmem),
          h.toController⟩
      refine htaken.atHost fun arrived hello heq hhello => ?_
      cases heq
      rcases hfrom with ⟨sent, hcaps, rfl⟩ | ⟨request, rfl⟩
      · rw [hcodec.hello sent hello hcaps hhello, hcaps]
      · rw [hcodec.request request] at hhello
        cases hhello
  | toController i =>
    simp only [Link.react]
    split
    · exact hstays
    · next payload hget =>
      have hfrom := h.toController payload (List.mem_of_getElem? hget)
      have htaken : Agrees ho co { s with toController := s.toController.eraseIdx i } :=
        ⟨h.gate, h.heeds, h.controller, h.toHost,
          fun payload hmem => h.toController payload (List.mem_of_mem_eraseIdx hmem)⟩
      refine ⟨htaken.atController fun arrived ack heq hack => ?_, heeded_nil⟩
      cases heq
      rcases hfrom with ⟨sent, hcaps, rfl⟩ | ⟨response, rfl⟩
      · rw [hcodec.ack sent ack hcaps hack, hcaps]
      · rw [hcodec.response response] at hack
        cases hack

end Link

/-! ## The agreement -/

/-- What a host and a controller agree on in a state, where the host has had these effects. -/
structure CapabilityAgreement (ho : ServeOptions) (co : ControllerOptions) (s : Link)
    (effects : List ServeEffect) : Prop where
  /-- What a controller considers active is what both ends listed. -/
  active : ∀ active, s.controller.negotiation = .settled (.ok active) →
    ∀ cap, cap ∈ active ↔ cap ∈ co.capabilities ∧ cap ∈ ho.gate.capabilities
  /-- And so is what a host that serves enforces. -/
  enforced : s.host.gate.phase = .serving →
    ∀ cap, cap ∈ s.host.gate.negotiated ↔ cap ∈ co.capabilities ∧ cap ∈ ho.gate.capabilities
  /-- A controller refuses a capability where a host would. -/
  refused : ∀ active, s.controller.negotiation = .settled (.ok active) →
    s.host.gate.phase = .serving → ∀ (method : Method) (closed : Bool) (params : Json) (id cap : JsString)
      (received : Option Json) (parsed : ParamsOf method), isUnserved method = false →
      ho.parseParams method received = .ok parsed →
      (∀ cap ∈ streamCapabilities method parsed, cap ∈ s.host.gate.negotiated) →
        (Controller.prepare co closed active method params =
            .error (.rpc (Controller.capabilityError cap)) ↔
          (s.host.connection ho).dispatch ho.parseParams ⟨id, method.name, received⟩ =
            [.send (capabilityRefused id cap)])
  /-- A method that no host serves is refused before a host would say so. -/
  unserved : ∀ (method : Method) (id : JsString) (received : Option Json) (parsed : ParamsOf method),
    isUnserved method = true → ho.parseParams method received = .ok parsed →
      (s.host.connection ho).dispatch ho.parseParams ⟨id, method.name, received⟩ =
        [.send (unsupported id method)]
  /-- Nothing is done for a method whose capability is not among them. -/
  effects : ∀ effect ∈ effects, ∀ method cap, effect.method = some method →
    requiredCapability method = some cap → cap ∈ co.capabilities ∧ cap ∈ ho.gate.capabilities

/-- **Capability agreement.** A host and a controller agree after every run. -/
theorem capabilityAgreement {ho : ServeOptions} {co : ControllerOptions}
    (hcodec : HandshakeCodec ho co) (sessionId : Bytes) (es : List LinkEvent) :
    CapabilityAgreement ho co ((linkMachine ho co sessionId).run es)
      (linkEffects ho co sessionId es) := by
  obtain ⟨hagrees, hheeded⟩ := (linkMachine ho co sessionId).history_invariant
    (p := fun es s => Link.Agrees ho co s ∧
      Heeded (negotiate ho.gate.capabilities co.capabilities) ho.gate.capabilities
        (linkEffects ho co sessionId es))
    ⟨Link.agrees_init sessionId, heeded_nil⟩ (fun es e h => by
      obtain ⟨hnext, heffects⟩ := h.1.react hcodec e
      refine ⟨hnext, ?_⟩
      rw [linkEffects, Machine.outputs_snoc]
      exact h.2.append heffects) es
  generalize (linkMachine ho co sessionId).run es = s at hagrees
  have hactive : ∀ active, s.controller.negotiation = .settled (.ok active) →
      ∀ cap, cap ∈ active ↔ cap ∈ co.capabilities ∧ cap ∈ ho.gate.capabilities := by
    intro active hsettled cap
    rw [hagrees.controller.active active hsettled]
    exact mem_negotiate
  have henforced : s.host.gate.phase = .serving →
      ∀ cap, cap ∈ s.host.gate.negotiated ↔ cap ∈ co.capabilities ∧ cap ∈ ho.gate.capabilities := by
    intro hserving cap
    rw [hagrees.gate.serving hserving, mem_negotiate]
    exact and_comm
  refine ⟨hactive, henforced, ?_, ?_, ?_⟩
  · intro active hsettled hserving method closed params id cap received parsed hserved hparsed hstream
    rw [Connection.dispatch_ok _ id ho.parseParams hparsed, Controller.prepare_refuses_iff,
      hactive active hsettled cap, ← henforced hserving cap]
    exact ((s.host.connection ho).refuses_serve_iff id cap hserved parsed hstream).symm
  · intro method id received parsed hunserved hparsed
    rw [Connection.dispatch_ok _ id ho.parseParams hparsed]
    cases method with
    | approve => rfl
    | spawn => rfl
    | raise => rfl
    | _ => cases hunserved
  · intro effect heffect method cap hmethod hcap
    have hmem := (hheeded effect heffect).permits method hmethod cap hcap
    exact (mem_negotiate.1 hmem).symm

/-! ## A host and a controller that have negotiated -/

namespace Link

lemma third_id (value : Json) (fields : List (JsString × Json)) :
    (utf8 (stringify (.obj ((js "id", value) :: fields))))[2]? = some 0x69 := by
  have hkey : quote (js "id") = 0x22 :: 0x69 :: [0x64, 0x22] := by decide
  have htext : ∃ rest, stringify (.obj ((js "id", value) :: fields)) = 0x7B :: 0x22 :: 0x69 :: rest := by
    cases fields with
    | nil =>
      simp only [stringify, stringifyFields, hkey]
      exact ⟨_, rfl⟩
    | cons field fields =>
      simp only [stringify, stringifyFields, hkey]
      exact ⟨_, rfl⟩
  obtain ⟨rest, htext⟩ := htext
  rw [htext, utf8_cons (by decide), utf8_cons (by decide), utf8_cons (by decide)]
  rfl

/-- The session of the example. -/
def sessionId : Bytes32 := ⟨List.replicate 32 7, by decide⟩

/-- The Hello of the example. -/
def hello : Hello where
  role := .controller
  protocol := protocolVersion
  capabilities := [js "x.v9", ptyStream, sessionInput, ptyStream]
  publicKey := base64 sessionId.1
  deviceKeyId := nullDeviceKeyId
  deviceAuth := nullDeviceAuth

/-- The HelloAck of the example. -/
def ack : HelloAck where
  protocol := protocolVersion
  capabilities := [ptyStream, js "x.v9", sessionApprove]
  publicKey := sessionId.1

/-- A host without hooks. -/
def hostOptions : ServeOptions where
  gate :=
    { parseHello := fun payload => if payload = helloPayload hello then some hello else none
      capabilities := ack.capabilities
      verifyDevice := false }
  parseRequest _ := none
  parseParams
    | .approve, _ => .ok ()
    | _, _ => .error .null
  custody := false
  listSessions := false
  launch := false

/-- A controller without a device. -/
def controllerOptions : ControllerOptions where
  capabilities := hello.capabilities
  deviceSigner := none
  parseHelloAck payload := if payload = ackPayload ack then some ack else none
  parseResponse _ := none
  parseParams _ params := some params
  parseResult _ result := some result
  mirrorAck _ := 0
  newRequestId r := js (toString r)

/-- They negotiate. -/
def negotiated : List LinkEvent :=
  [.controller (.opened sessionId), .controller .negotiate, .toHost 0, .host (.gate (.ackReturned true)),
    .controller (.callReturned .returned), .toController 0, .controller .negotiate]

lemma handshakeCodec : HandshakeCodec hostOptions controllerOptions where
  hello sent parsed hcaps hparsed := by
    simp only [hostOptions] at hparsed
    split at hparsed
    · cases hparsed
      exact hcaps.symm
    · cases hparsed
  request request := by
    have hthird : (helloPayload hello)[2]? = some 0x72 := by decide
    show (if requestPayload request = helloPayload hello then some hello else none) = none
    refine if_neg fun heq => ?_
    rw [← heq, requestPayload, List.cons_append, third_id] at hthird
    exact absurd hthird (by decide)
  ack sent parsed hcaps hparsed := by
    simp only [controllerOptions] at hparsed
    split at hparsed
    · cases hparsed
      exact hcaps.symm
    · cases hparsed
  response response := by
    have hthird : (ackPayload ack)[2]? = some 0x70 := by decide
    show (if response.payload = ackPayload ack then some ack else none) = none
    refine if_neg fun heq => ?_
    have hid : (response.payload)[2]? = some 0x69 := by
      cases response with
      | success id result stream => exact third_id _ _
      | failure id error => exact third_id _ _
    rw [← heq, hid] at hthird
    exact absurd hthird (by decide)

end Link

theorem capabilityAgreement_negotiated :
    CapabilityAgreement Link.hostOptions Link.controllerOptions
      ((linkMachine Link.hostOptions Link.controllerOptions Link.sessionId.1).run Link.negotiated)
      (linkEffects Link.hostOptions Link.controllerOptions Link.sessionId.1 Link.negotiated) :=
  capabilityAgreement Link.handshakeCodec Link.sessionId.1 Link.negotiated

/-- A controller refuses a method for want of a capability exactly when a host would. -/
def RefusesAlike (ho : ServeOptions) (co : ControllerOptions) (s : Link) : Prop :=
  ∀ active, s.controller.negotiation = .settled (.ok active) → s.host.gate.phase = .serving →
    ∀ (method : Method) (closed : Bool) (params : Json) (id : JsString) (received : Option Json)
      (parsed : ParamsOf method), ho.parseParams method received = .ok parsed →
        ((∃ cap, Controller.prepare co closed active method params =
            .error (.rpc (Controller.capabilityError cap))) ↔
          ∃ cap, (s.host.connection ho).dispatch ho.parseParams ⟨id, method.name, received⟩ =
            [.send (capabilityRefused id cap)])

set_option maxRecDepth 20000 in
lemma serving_negotiated :
    ((linkMachine Link.hostOptions Link.controllerOptions Link.sessionId.1).run
        Link.negotiated).host.gate.phase = .serving ∧
      ((linkMachine Link.hostOptions Link.controllerOptions Link.sessionId.1).run
        Link.negotiated).controller.negotiation = .settled (.ok [js "x.v9", ptyStream]) :=
  ⟨rfl, rfl⟩

/-- An approval whose capability is not active is refused by the controller for want of it, and by the
host because no host serves it. -/
theorem not_refusesAlike_approve :
    ¬ ∀ es, RefusesAlike Link.hostOptions Link.controllerOptions
      ((linkMachine Link.hostOptions Link.controllerOptions Link.sessionId.1).run es) := by
  intro h
  obtain ⟨hserving, hsettled⟩ := serving_negotiated
  have hrun := h Link.negotiated _ hsettled hserving .approve false .null (js "1") none () rfl
  have hcontroller : Controller.prepare Link.controllerOptions false [js "x.v9", ptyStream] .approve .null =
      .error (.rpc (Controller.capabilityError sessionApprove)) :=
    (Controller.prepare_refuses_iff _ _ _ _ _).2 ⟨rfl, by decide⟩
  obtain ⟨cap, hrefuses⟩ := hrun.1 ⟨_, hcontroller⟩
  have hunsupported : ¬ Connection.Refuses (js "1") cap [.send (unsupported (js "1") .approve)] :=
    Connection.not_refuses_failed _ _ nofun
  exact hunsupported hrefuses

end Pherry
