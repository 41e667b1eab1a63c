import Pherry.Relay.HttpAuthorizer

/-!
# Two authorizers

`makeHttpAuthorizer` against the internal routes, beside `makeControlPlaneAuthorizer`, over the runs of the registry:
where they agree, what a fault on the way can do, and that a ticket whose reply is lost stays spent.
-/

namespace Pherry.Relay

open Lib Protocol RelayCore ControlPlane

/-! ## What the routes answer -/

lemma answers_of_isRefusal {α : Type} {schema : Json → Option α} {reply : HttpReply} (h : reply.IsRefusal)
    (hschema : ∀ error, schema (.obj [(js "error", error)]) = none) : Answers schema reply := by
  obtain ⟨status, code, message, -, rfl⟩ := h
  refine ⟨⟨_, rfl⟩, ?_, fun _ => hschema _⟩
  simp only [sendError, Json.canonical, canonicalFields, List.map_cons, List.map_nil, and_true]
  decide

lemma validateTicketResponse_error (error : Json) : validateTicketResponse (.obj [(js "error", error)]) = none := by
  have hget : (Json.obj [(js "error", error)]).get (js "hostId") = none := rfl
  rw [validateTicketResponse, hget]

lemma parse_refusal {α : Type} {schema : Json → Option α} {reply : HttpReply} (h : reply.IsRefusal)
    (hschema : ∀ error, schema (.obj [(js "error", error)]) = none) :
    parseResponse (some (received reply)) schema = .ok none := by
  rw [(answers_of_isRefusal h hschema).parse]
  obtain ⟨status, code, message, -, rfl⟩ := h
  exact congrArg _ (hschema _)

lemma hostKeyResponse_error (error : Json) : hostKeyResponse (.obj [(js "error", error)]) = none := by
  have hget : (Json.obj [(js "error", error)]).get (js "hostPublicKeyB64") = none := rfl
  rw [hostKeyResponse, hget]

lemma answers_ticketReply (consumed : Option ConsumedTicket) : Answers validateTicketResponse (ticketReply consumed) := by
  cases consumed with
  | none => exact answers_of_isRefusal (isRefusal_sendError (by decide) _ _) validateTicketResponse_error
  | some consumed =>
    refine ⟨⟨_, rfl⟩, ?_, fun hstatus => absurd rfl hstatus⟩
    simp only [ticketReply, validateTicketReply, Json.canonical, canonicalFields, Json.int, List.map_cons,
      List.map_nil, isNaturalText_js, and_true, id]
    decide

lemma numberOf_js {n : ℕ} (h : isNumber n) : numberOf (js (toString (n : ℤ))) = some (.finite n) := by
  rw [numberOf, numericValue_natural (natural_js n), Option.map_some, h]

lemma validateTicketResponse_reply {consumed : ConsumedTicket} (hid : consumed.hostId ≠ [])
    (hnumber : isNumber consumed.expiresAt) :
    validateTicketResponse (validateTicketReply consumed) = some ⟨consumed.hostId, .finite consumed.expiresAt⟩ := by
  have hhost : (validateTicketReply consumed).get (js "hostId") = some (.str consumed.hostId) := rfl
  have hexpires : (validateTicketReply consumed).get (js "expiresAt") =
      some (.num (js (toString (consumed.expiresAt : ℤ)))) := rfl
  rw [validateTicketResponse, hhost, hexpires]
  dsimp only
  rw [if_neg hid, numberOf_js hnumber, Option.map_some]

/-! ## Requests that reach the control plane -/

section
variable {env : RegistryEnv} {listener : Listener} {options : HttpAuthorizerOptions} {ticket hostId : JsString}
  {r : Registry}

/-- The request that `resolveTicket` fetches. -/
def ticketRequest (options : HttpAuthorizerOptions) (ticket : JsString) : FetchRequest :=
  ⟨options.base ++ js "/internal/relay/validate-ticket", options.internalApiKey, stringify (ticketBody ticket)⟩

/-- The request that `hostStaticPublicKey` fetches. -/
def hostRequest (options : HttpAuthorizerOptions) (hostId : JsString) : FetchRequest :=
  ⟨options.base ++ js "/internal/relay/host-key", options.internalApiKey, stringify (hostBody hostId)⟩

/-- What `consumeTicket` does for a listener. -/
def Listener.consume (env : RegistryEnv) (listener : Listener) (ticket : JsString) (r : Registry) :
    Registry × Option ConsumedTicket :=
  consumeTicketWith env listener.meanwhile listener.draw ⟨listener.cell, listener.now, ticket⟩ r

lemma handle_hostKey (base : JsString) (request : HttpRequest) :
    listener.handle env base (base ++ js "/internal/relay/host-key") request r =
      (r, hostKey (some listener.internalApiKey) request r) := by
  have hne : base ++ js "/internal/relay/host-key" ≠ base ++ js "/internal/relay/validate-ticket" := by
    intro heq
    have hpath := List.append_cancel_left heq
    revert hpath
    decide
  rw [Listener.handle, if_neg hne, if_pos rfl]

/-- A request for a ticket is not sent, is refused, or is let through to `consumeTicket`. -/
lemma fetchFrom_ticket (env : RegistryEnv) (listener : Listener) (options : HttpAuthorizerOptions)
    (ticket : JsString) (r : Registry) :
    fetchFrom env listener options.base (ticketRequest options ticket) r = (r, .error ()) ∨
    (∃ reply, reply.IsRefusal ∧
      fetchFrom env listener options.base (ticketRequest options ticket) r = (r, .ok (received reply))) ∨
    (options.internalApiKey = listener.internalApiKey → isHeaderValue options.internalApiKey = true) ∧
      fetchFrom env listener options.base (ticketRequest options ticket) r =
        ((listener.consume env ticket r).1, .ok (received (ticketReply (listener.consume env ticket r).2))) := by
  unfold fetchFrom ticketRequest
  dsimp only
  cases hsend : sendHeader options.internalApiKey with
  | error e => exact .inl rfl
  | ok value =>
    dsimp only
    rw [Listener.handle, if_pos rfl]
    rcases validateTicket_cases listener.internalApiKey value ticket listener.meanwhile listener.draw listener.cell
      listener.now r with ⟨reply, hrefusal, heq⟩ | ⟨hvalue, heq⟩
    · rw [heq]
      exact .inr (.inl ⟨reply, hrefusal, rfl⟩)
    · rw [heq]
      exact .inr (.inr ⟨fun hkey => isHeaderValue_of_sendHeader hsend (by rw [hvalue, hkey]), rfl⟩)

lemma fetchFrom_of_isTicket (hkey : options.internalApiKey = listener.internalApiKey)
    (hheader : isHeaderValue options.internalApiKey = true) (hticket : isTicket ticket = true) :
    fetchFrom env listener options.base (ticketRequest options ticket) r =
      ((listener.consume env ticket r).1, .ok (received (ticketReply (listener.consume env ticket r).2))) := by
  unfold fetchFrom ticketRequest
  dsimp only
  rw [sendHeader_of_isHeaderValue hheader]
  dsimp only
  rw [Listener.handle, if_pos rfl, validateTicket_of_isTicket (by rw [hkey]) hticket]
  rfl

lemma fetchFrom_hostKey (env : RegistryEnv) (listener : Listener) (options : HttpAuthorizerOptions)
    (hostId : JsString) (r : Registry) :
    fetchFrom env listener options.base (hostRequest options hostId) r = (r, .error ()) ∨
    (∃ reply, reply.IsRefusal ∧
      fetchFrom env listener options.base (hostRequest options hostId) r = (r, .ok (received reply))) ∨
    (options.internalApiKey = listener.internalApiKey → isHeaderValue options.internalApiKey = true) ∧
      ∃ host, loadActiveHost r hostId = some host ∧
        fetchFrom env listener options.base (hostRequest options hostId) r =
          (r, .ok (received ⟨200, .obj [(js "hostPublicKeyB64", .str host.staticPublicKey)]⟩)) := by
  unfold fetchFrom hostRequest
  dsimp only
  cases hsend : sendHeader options.internalApiKey with
  | error e => exact .inl rfl
  | ok value =>
    dsimp only
    rw [handle_hostKey]
    rcases hostKey_cases listener.internalApiKey value hostId r with hrefusal | ⟨hvalue, host, hhost, heq⟩
    · exact .inr (.inl ⟨_, hrefusal, rfl⟩)
    · rw [heq]
      exact .inr (.inr ⟨fun hkey => isHeaderValue_of_sendHeader hsend (by rw [hvalue, hkey]), host, hhost, rfl⟩)

end

/-! ## One authorizer for another -/

lemma resolveTicket_eq {fetchImpl : Fetch Registry} {options : HttpAuthorizerOptions} {ticket : JsString}
    {r : Registry} : resolveTicket fetchImpl options ticket r =
      ((fetchImpl (ticketRequest options ticket) r).1,
        parseResponse (caught (fetchImpl (ticketRequest options ticket) r).2) validateTicketResponse) := rfl

lemma hostStaticPublicKey_eq {fetchImpl : Fetch Registry} {options : HttpAuthorizerOptions} {hostId : JsString}
    {r : Registry} : hostStaticPublicKey fetchImpl options hostId r =
      ((fetchImpl (hostRequest options hostId) r).1,
        (parseResponse (caught (fetchImpl (hostRequest options hostId) r).2) hostKeyResponse).bind keyBytes) := rfl

/-- `resolveTicket` of the two authorizers, of a relay that has the key of the control plane. -/
def ResolvesAlike (env : RegistryEnv) (key url ticket : JsString) (r : Registry) : Prop :=
  ∀ cell now draw meanwhile,
    resolveTicket (fetchFrom env ⟨key, cell, now, draw, meanwhile⟩ (HttpAuthorizerOptions.base ⟨url, key⟩)) ⟨url, key⟩
        ticket r =
      ((resolveTicketDirect env meanwhile draw ⟨cell, now, ticket⟩ r).1,
        .ok (resolveTicketDirect env meanwhile draw ⟨cell, now, ticket⟩ r).2)

/-- `hostStaticPublicKey` of the two authorizers. -/
def KeysAlike (env : RegistryEnv) (key url hostId : JsString) (r : Registry) : Prop :=
  ∀ cell now draw meanwhile,
    hostStaticPublicKey (fetchFrom env ⟨key, cell, now, draw, meanwhile⟩ (HttpAuthorizerOptions.base ⟨url, key⟩))
        ⟨url, key⟩ hostId r =
      (r, .ok (hostStaticPublicKeyDirect hostId r))

section
variable {env : RegistryEnv} {key url ticket hostId : JsString} {r : Registry}

lemma parse_ticketReply (hstored : ∀ e, r.redis.live (ticketKey env ticket) = some e →
      e.value.hostId ≠ [] ∧ isNumber e.value.expiresAt) (listener : Listener) :
    parseResponse (some (received (ticketReply (listener.consume env ticket r).2))) validateTicketResponse =
      .ok ((listener.consume env ticket r).2.map fun c => ⟨c.hostId, .finite c.expiresAt⟩) := by
  rw [(answers_ticketReply _).parse]
  cases hconsumed : (listener.consume env ticket r).2 with
  | none => exact congrArg _ (validateTicketResponse_error _)
  | some consumed =>
    obtain ⟨e, hlive, hid, hexpires⟩ := consumeTicketWith_live hconsumed
    obtain ⟨hne, hnumber⟩ := hstored e hlive
    rw [← hid] at hne
    rw [← hexpires] at hnumber
    exact congrArg _ (validateTicketResponse_reply hne hnumber)

lemma stored_of_absent (h : r.redis.live (ticketKey env ticket) = none) :
    ∀ e, r.redis.live (ticketKey env ticket) = some e → e.value.hostId ≠ [] ∧ isNumber e.value.expiresAt := by
  intro e he
  rw [h] at he
  cases he

lemma resolveTicket_absent (h : r.redis.live (ticketKey env ticket) = none) (listener : Listener)
    (options : HttpAuthorizerOptions) :
    resolveTicket (fetchFrom env listener options.base) options ticket r = (r, .ok none) := by
  rw [resolveTicket_eq]
  rcases fetchFrom_ticket env listener options ticket r with heq | ⟨reply, hrefusal, heq⟩ | ⟨-, heq⟩
  · rw [heq]
    rfl
  · rw [heq, caught, parse_refusal hrefusal validateTicketResponse_error]
  · have hconsume : listener.consume env ticket r = (r, none) := consumeTicketWith_absent h
    have hparse := parse_ticketReply (stored_of_absent h) listener
    rw [hconsume] at heq hparse
    rw [heq, caught, hparse]
    rfl

lemma resolvesAlike_of_absent (h : r.redis.live (ticketKey env ticket) = none) :
    ResolvesAlike env key url ticket r := by
  intro cell now draw meanwhile
  have hdirect : consumeTicketWith env meanwhile draw ⟨cell, now, ticket⟩ r = (r, none) :=
    consumeTicketWith_absent h
  rw [resolveTicket_absent h, resolveTicketDirect, hdirect]
  rfl

lemma resolvesAlike_of_isTicket (hkey : isHeaderValue key = true) (hticket : isTicket ticket = true)
    (hstored : ∀ e, r.redis.live (ticketKey env ticket) = some e →
      e.value.hostId ≠ [] ∧ isNumber e.value.expiresAt) : ResolvesAlike env key url ticket r := by
  intro cell now draw meanwhile
  rw [resolveTicket_eq, fetchFrom_of_isTicket rfl hkey hticket, caught, parse_ticketReply hstored]
  rfl

/-- A live ticket is consumed by the one authorizer, and not by the other, where the key does not get through. -/
lemma not_resolvesAlike (hkey : isHeaderValue key = false) {e : Entry TicketValue}
    (hlive : r.redis.live (ticketKey env ticket) = some e) : ¬ ResolvesAlike env key url ticket r := by
  intro halike
  have hstate := congrArg Prod.fst (halike 0 0 ⟨0, [], [], false⟩ fun t => t)
  have hspent : (consumeTicketWith env (fun t => t) ⟨0, [], [], false⟩ ⟨0, 0, ticket⟩ r).1.redis.live
      (ticketKey env ticket) = none := consumeTicketWith_spends fun t ht => ht
  have hkept : (fetchFrom env ⟨key, 0, 0, ⟨0, [], [], false⟩, fun t => t⟩ (HttpAuthorizerOptions.base ⟨url, key⟩)
      (ticketRequest ⟨url, key⟩ ticket) r).1 = r := by
    rcases fetchFrom_ticket env ⟨key, 0, 0, ⟨0, [], [], false⟩, fun t => t⟩ ⟨url, key⟩ ticket r with
      heq | ⟨reply, -, heq⟩ | ⟨hheader, -⟩
    · rw [heq]
    · rw [heq]
    · rw [hheader rfl] at hkey
      cases hkey
  have hsame : r = (consumeTicketWith env (fun t => t) ⟨0, [], [], false⟩ ⟨0, 0, ticket⟩ r).1 :=
    hkept.symm.trans hstate
  rw [← hsame, hlive] at hspent
  cases hspent

/-! ## Host keys -/

lemma answers_hostKey (text : JsString) :
    Answers hostKeyResponse ⟨200, .obj [(js "hostPublicKeyB64", .str text)]⟩ := by
  refine ⟨⟨_, rfl⟩, ?_, fun hstatus => absurd rfl hstatus⟩
  simp [Json.canonical, canonicalFields]

lemma hostKeyResponse_bind (text : JsString) :
    (hostKeyResponse (.obj [(js "hostPublicKeyB64", .str text)])).bind decodeKey = decodeKey text := by
  have hget : (Json.obj [(js "hostPublicKeyB64", .str text)]).get (js "hostPublicKeyB64") = some (.str text) := rfl
  rw [hostKeyResponse, hget]
  dsimp only
  split
  · next hempty =>
    rw [hempty]
    decide
  · rfl

lemma parse_hostKey (text : JsString) :
    (parseResponse (some (received ⟨200, .obj [(js "hostPublicKeyB64", .str text)]⟩)) hostKeyResponse).bind keyBytes =
      .ok (decodeKey text) := by
  rw [(answers_hostKey text).parse, ← hostKeyResponse_bind]
  exact keyBytes_eq _

lemma keysAlike_of_inactive (h : loadActiveHost r hostId = none) : KeysAlike env key url hostId r := by
  intro cell now draw meanwhile
  rw [hostStaticPublicKey_eq, hostStaticPublicKeyDirect, h]
  rcases fetchFrom_hostKey env ⟨key, cell, now, draw, meanwhile⟩ ⟨url, key⟩ hostId r with
    heq | ⟨reply, hrefusal, heq⟩ | ⟨-, host, hhost, -⟩
  · rw [heq]
    rfl
  · rw [heq, caught, parse_refusal hrefusal hostKeyResponse_error]
    rfl
  · rw [h] at hhost
    cases hhost

lemma keysAlike_of_matchesId (hkey : isHeaderValue key = true) {host : HostRecord}
    (hid : matchesId (js "host") hostId = true) (hhost : loadActiveHost r hostId = some host) :
    KeysAlike env key url hostId r := by
  intro cell now draw meanwhile
  have hfetched : fetchFrom env ⟨key, cell, now, draw, meanwhile⟩ (HttpAuthorizerOptions.base ⟨url, key⟩)
      (hostRequest ⟨url, key⟩ hostId) r =
        (r, .ok (received ⟨200, .obj [(js "hostPublicKeyB64", .str host.staticPublicKey)]⟩)) := by
    unfold fetchFrom hostRequest
    dsimp only
    rw [sendHeader_of_isHeaderValue hkey]
    dsimp only
    rw [handle_hostKey, hostKey_of_matchesId rfl hid hhost]
    rfl
  rw [hostStaticPublicKey_eq, hfetched, caught, parse_hostKey, hostStaticPublicKeyDirect, hhost, Option.bind_some]

lemma not_keysAlike (hkey : isHeaderValue key = false) {host : HostRecord}
    (hhost : loadActiveHost r hostId = some host) (hdecodes : (decodeKey host.staticPublicKey).isSome) :
    ¬ KeysAlike env key url hostId r := by
  intro halike
  have hresult := congrArg Prod.snd (halike 0 0 ⟨0, [], [], false⟩ fun t => t)
  rw [hostStaticPublicKey_eq, hostStaticPublicKeyDirect, hhost, Option.bind_some] at hresult
  obtain ⟨bytes, hbytes⟩ := Option.isSome_iff_exists.1 hdecodes
  rw [hbytes] at hresult
  rcases fetchFrom_hostKey env ⟨key, 0, 0, ⟨0, [], [], false⟩, fun t => t⟩ ⟨url, key⟩ hostId r with
    heq | ⟨reply, hrefusal, heq⟩ | ⟨hheader, -⟩
  · rw [heq] at hresult
    cases hresult
  · rw [heq, caught, parse_refusal hrefusal hostKeyResponse_error] at hresult
    cases hresult
  · rw [hheader rfl] at hkey
    cases hkey

end

/-! ## Faults on the way -/

section
variable {env : RegistryEnv} {r : Registry}

lemma parse_fault {α : Type} {schema : Json → Option α} {fetched : Except Unit Response}
    (h : fetched = .error () ∨ ∃ reply, Answers schema reply ∧ fetched = .ok (received reply))
    (fault : TransportFault) :
    parseResponse (caught (fetched.bind fault.response)) schema = .ok none ∨
      parseResponse (caught (fetched.bind fault.response)) schema = parseResponse (caught fetched) schema := by
  rcases h with rfl | ⟨reply, hanswers, rfl⟩
  · exact .inl rfl
  · rcases hanswers.fault fault with hnone | hsame
    · exact .inl hnone
    · exact .inr (hsame.trans hanswers.parse.symm)

lemma fetched_ticket (env : RegistryEnv) (listener : Listener) (options : HttpAuthorizerOptions)
    (ticket : JsString) (r : Registry) :
    (fetchFrom env listener options.base (ticketRequest options ticket) r).2 = .error () ∨
      ∃ reply, Answers validateTicketResponse reply ∧
        (fetchFrom env listener options.base (ticketRequest options ticket) r).2 = .ok (received reply) := by
  rcases fetchFrom_ticket env listener options ticket r with heq | ⟨reply, hrefusal, heq⟩ | ⟨-, heq⟩
  · exact .inl (by rw [heq])
  · exact .inr ⟨reply, answers_of_isRefusal hrefusal validateTicketResponse_error, by rw [heq]⟩
  · exact .inr ⟨_, answers_ticketReply _, by rw [heq]⟩

lemma fetched_hostKey (env : RegistryEnv) (listener : Listener) (options : HttpAuthorizerOptions)
    (hostId : JsString) (r : Registry) :
    (fetchFrom env listener options.base (hostRequest options hostId) r).2 = .error () ∨
      ∃ reply, Answers hostKeyResponse reply ∧
        (fetchFrom env listener options.base (hostRequest options hostId) r).2 = .ok (received reply) := by
  rcases fetchFrom_hostKey env listener options hostId r with heq | ⟨reply, hrefusal, heq⟩ | ⟨-, host, -, heq⟩
  · exact .inl (by rw [heq])
  · exact .inr ⟨reply, answers_of_isRefusal hrefusal hostKeyResponse_error, by rw [heq]⟩
  · exact .inr ⟨_, answers_hostKey host.staticPublicKey, by rw [heq]⟩

/-- A fault refuses, or changes nothing. -/
def FaultsRefuse (env : RegistryEnv) : Prop :=
  ∀ (listener : Listener) (options : HttpAuthorizerOptions) (fault : TransportFault) (r : Registry),
    (∀ ticket, (resolveTicket (fault.fetch (fetchFrom env listener options.base)) options ticket r).2 = .ok none ∨
      (resolveTicket (fault.fetch (fetchFrom env listener options.base)) options ticket r).2 =
        (resolveTicket (fetchFrom env listener options.base) options ticket r).2) ∧
    ∀ hostId,
      (hostStaticPublicKey (fault.fetch (fetchFrom env listener options.base)) options hostId r).2 = .ok none ∨
      (hostStaticPublicKey (fault.fetch (fetchFrom env listener options.base)) options hostId r).2 =
        (hostStaticPublicKey (fetchFrom env listener options.base) options hostId r).2

lemma faultsRefuse (env : RegistryEnv) : FaultsRefuse env := by
  intro listener options fault r
  by_cases hlost : fault = .requestLost
  · subst hlost
    exact ⟨fun _ => .inl rfl, fun _ => .inl rfl⟩
  · have hfetch : ∀ request, fault.fetch (fetchFrom env listener options.base) request r =
        ((fetchFrom env listener options.base request r).1,
          (fetchFrom env listener options.base request r).2.bind fault.response) := by
      intro request
      cases fault <;> first | exact absurd rfl hlost | rfl
    constructor
    · intro ticket
      rw [resolveTicket_eq, resolveTicket_eq, hfetch]
      exact parse_fault (fetched_ticket env listener options ticket r) fault
    · intro hostId
      rw [hostStaticPublicKey_eq, hostStaticPublicKey_eq, hfetch]
      rcases parse_fault (fetched_hostKey env listener options hostId r) fault with hnone | hsame
      · left
        dsimp only
        rw [hnone]
        rfl
      · right
        dsimp only
        rw [hsame]

/-- Whatever `fetch` does, nothing is thrown: a record names a host, and a key has its length. -/
def NeverThrows : Prop :=
  ∀ (σ : Type) (fetchImpl : Fetch σ) (options : HttpAuthorizerOptions) (s : σ),
    (∀ ticket, ∃ result, (resolveTicket fetchImpl options ticket s).2 = .ok result ∧
      ∀ record ∈ result, record.hostId ≠ []) ∧
    ∀ hostId, ∃ result, (hostStaticPublicKey fetchImpl options hostId s).2 = .ok result ∧
      ∀ key ∈ result, key.length = 32

/-- A ticket that was presented is spent, whatever becomes of the reply: until it is minted again neither authorizer
resolves it. -/
def StaysSpent (env : RegistryEnv) (key url : JsString) (s : Requests) : Prop :=
  ∀ (ticket : JsString) (fault : TransportFault) (cell now : ℕ) (draw : Draw) (meanwhile : Registry → Registry)
    (later : List RegistryEvent), isHeaderValue key = true → fault ≠ .requestLost →
    (∀ t : Registry, t.redis.live (ticketKey env ticket) = none →
      (meanwhile t).redis.live (ticketKey env ticket) = none) →
    let resolved := resolveTicket (fault.fetch (fetchFrom env ⟨key, cell, now, draw, meanwhile⟩
      (HttpAuthorizerOptions.base ⟨url, key⟩))) ⟨url, key⟩ ticket s.shared
    let behind : Machine Requests RegistryEvent := ⟨{ s with shared := resolved.1 }, Requests.react env⟩
    behind.Meets (Requests.mintsOther env ticket) later →
    ∀ (listener : Listener) (options : HttpAuthorizerOptions) (args : ResolveArgs), args.ticket = ticket →
      (resolveTicket (fetchFrom env listener options.base) options ticket (behind.run later).shared).2 = .ok none ∧
      (resolveTicketDirect env listener.meanwhile listener.draw args (behind.run later).shared).2 = none

lemma spent_fetchFrom (h : r.Formed env) (hhash : ∀ s t, env.sha256Hex s = env.sha256Hex t → utf8 s = utf8 t)
    {listener : Listener} {options : HttpAuthorizerOptions} {ticket : JsString}
    (hkey : options.internalApiKey = listener.internalApiKey) (hheader : isHeaderValue options.internalApiKey = true)
    (hmeanwhile : ∀ t : Registry, t.redis.live (ticketKey env ticket) = none →
      (listener.meanwhile t).redis.live (ticketKey env ticket) = none) :
    (fetchFrom env listener options.base (ticketRequest options ticket) r).1.redis.live (ticketKey env ticket) =
      none := by
  cases hlive : r.redis.live (ticketKey env ticket) with
  | none =>
    have habsent := congrArg Prod.fst (resolveTicket_absent hlive listener options)
    rw [resolveTicket_eq] at habsent
    rw [show (fetchFrom env listener options.base (ticketRequest options ticket) r).1 = r from habsent]
    exact hlive
  | some e =>
    rw [fetchFrom_of_isTicket hkey hheader (h.genuine hhash hlive).1]
    exact consumeTicketWith_spends hmeanwhile

lemma staysSpent {s : Requests} (h : s.shared.Formed env)
    (hhash : ∀ s t, env.sha256Hex s = env.sha256Hex t → utf8 s = utf8 t) (key url : JsString) :
    StaysSpent env key url s := by
  intro ticket fault cell now draw meanwhile later hheader harrived hmeanwhile resolved behind hlater listener options
    args hargs
  have hstate : resolved.1 = (fetchFrom env ⟨key, cell, now, draw, meanwhile⟩ (HttpAuthorizerOptions.base ⟨url, key⟩)
      (ticketRequest ⟨url, key⟩ ticket) s.shared).1 := by
    cases fault <;> first | exact absurd rfl harrived | rfl
  have hspent : resolved.1.redis.live (ticketKey env ticket) = none := by
    rw [hstate]
    exact spent_fetchFrom h hhash rfl hheader hmeanwhile
  have hrun : (behind.run later).shared.redis.live (ticketKey env ticket) = none :=
    behind.invariant_of_meets (p := fun t : Requests => t.shared.redis.live (ticketKey env ticket) = none) hspent
      (fun t e hmint ht => spent_react ht hmint) hlater
  refine ⟨congrArg Prod.snd (resolveTicket_absent hrun listener options), ?_⟩
  rw [← hargs] at hrun
  rw [resolveTicketDirect, consumeTicketWith_absent hrun]
  rfl

end

/-! ## The law -/

/-- In every reachable state the two authorizers agree on a ticket where the key gets through a header or the ticket
is not live, and on a host where the key gets through or the host is not active. Faults only refuse. -/
theorem authorizers_agree (env : RegistryEnv) (hhash : ∀ s t, env.sha256Hex s = env.sha256Hex t → utf8 s = utf8 t)
    (start : ℕ) (es : List RegistryEvent) (hes : (registryMachine env start).Meets (Requests.draws env) es)
    (key url : JsString) :
    (∀ ticket, ResolvesAlike env key url ticket ((registryMachine env start).run es).shared ↔
      isHeaderValue key = true ∨
        ((registryMachine env start).run es).shared.redis.live (ticketKey env ticket) = none) ∧
    (∀ hostId, KeysAlike env key url hostId ((registryMachine env start).run es).shared ↔
      isHeaderValue key = true ∨ loadActiveHost ((registryMachine env start).run es).shared hostId = none) ∧
    FaultsRefuse env ∧ NeverThrows ∧ StaysSpent env key url ((registryMachine env start).run es) := by
  obtain ⟨hformed, -⟩ := formed_run hes
  refine ⟨fun ticket => ?_, fun hostId => ?_, faultsRefuse env, ?_, staysSpent hformed hhash key url⟩
  · constructor
    · intro halike
      by_contra hneither
      rw [not_or, Bool.not_eq_true] at hneither
      obtain ⟨e, he⟩ := Option.ne_none_iff_exists'.1 hneither.2
      exact not_resolvesAlike hneither.1 he halike
    · intro h
      cases hlive : ((registryMachine env start).run es).shared.redis.live (ticketKey env ticket) with
      | none => exact resolvesAlike_of_absent hlive
      | some e =>
        rw [hlive] at h
        have hkey : isHeaderValue key = true := h.resolve_right (Option.some_ne_none e)
        exact resolvesAlike_of_isTicket hkey (hformed.genuine hhash hlive).1 (hformed.stored hhash)
  · constructor
    · intro halike
      by_contra hneither
      rw [not_or, Bool.not_eq_true] at hneither
      obtain ⟨host, hhost⟩ := Option.ne_none_iff_exists'.1 hneither.2
      exact not_keysAlike hneither.1 hhost (hformed.active hhost).2 halike
    · intro h
      cases hhost : loadActiveHost ((registryMachine env start).run es).shared hostId with
      | none => exact keysAlike_of_inactive hhost
      | some host =>
        rw [hhost] at h
        exact keysAlike_of_matchesId (h.resolve_right (Option.some_ne_none host)) (hformed.active hhost).1 hhost
  · intro σ fetchImpl options s
    exact ⟨fun ticket => resolveTicket_total fetchImpl options ticket s,
      fun hostId => hostStaticPublicKey_total fetchImpl options hostId s⟩

/-! ## A key that ends with a line break -/

/-- A host, and a live ticket to it. -/
def issuedTicket : List RegistryEvent :=
  [.request (.register ⟨js "org_1", js "usr_1", js "mac", js "AAAAAAAAAAAAAAAAAAAAAAAAAAAAAAAAAAAAAAAAAAA="⟩),
    .step 0 ⟨0, [], [], true⟩, .step 0 ⟨0, js "host_" ++ List.replicate 32 0x30, js "01", true⟩,
    .request (.issue ⟨js "host_" ++ List.replicate 32 0x30, js "org_1", .device, js "dev_1"⟩),
    .step 1 ⟨0, [], [], true⟩, .step 1 ⟨0, [], List.replicate 32 0x30, true⟩]

/-- The ticket of `issuedTicket`. -/
def zeroTicket : JsString := js "tkt_" ++ List.replicate 32 0x30

/-- A draw that can be checked by computing. -/
def drawsPlainly (env : RegistryEnv) (draw : Draw) : RegistryCall → Bool
  | .register _ .insert => matchesId (js "host") draw.id
  | .issue _ .check => decide (draw.now + env.relayTicketTtlMs ≤ 2 ^ 53)
  | .issue _ (.mint _ _ _) => isTicket (mintSecret (js "tkt") draw.secret)
  | _ => true

lemma draws_of_drawsPlainly {env : RegistryEnv} {draw : Draw} {c : RegistryCall}
    (h : drawsPlainly env draw c = true) : c.draws env draw := by
  have hnumber : draw.now + env.relayTicketTtlMs ≤ 2 ^ 53 → isNumber (draw.now + env.relayTicketTtlMs) := by
    intro hle
    have hexact := toDouble_intCast (n := (draw.now + env.relayTicketTtlMs : ℕ))
      (by rw [Nat.abs_cast]; exact_mod_cast hle)
    exact_mod_cast hexact
  cases c with
  | register args stage =>
    cases stage with
    | insert => exact h
    | _ => trivial
  | issue args stage =>
    cases stage with
    | check => exact hnumber (of_decide_eq_true h)
    | mint host expiresAt attempt => exact h
    | _ => trivial
  | _ => trivial

/-- What a step of a run draws, computed. -/
def stepDrawsPlainly (env : RegistryEnv) (s : Requests) : RegistryEvent → Bool
  | .step i draw => (s.calls[i]?).all (drawsPlainly env draw)
  | _ => true

lemma draws_issuedTicket :
    (registryMachine plainRegistryEnv 0).Meets (Requests.draws plainRegistryEnv) issuedTicket := by
  have hchecks : (registryMachine plainRegistryEnv 0).checks (stepDrawsPlainly plainRegistryEnv)
      (registryMachine plainRegistryEnv 0).init issuedTicket = true := by rfl
  refine (Machine.meets_of_checks _ hchecks).mono _ fun s e h => ?_
  cases e with
  | advance ms => trivial
  | request request => trivial
  | step i draw => exact fun c hc => draws_of_drawsPlainly ((Option.all_eq_true _ _).1 h c hc)

lemma live_issuedTicket :
    (((registryMachine plainRegistryEnv 0).run issuedTicket).shared.redis.live
      (ticketKey plainRegistryEnv zeroTicket)).isSome = true := by rfl

/-- The key is the same at both ends, and the relay sends it without its line break. -/
theorem not_resolvesAlike_lineBreak :
    (registryMachine plainRegistryEnv 0).Meets (Requests.draws plainRegistryEnv) issuedTicket ∧
      ¬ ResolvesAlike plainRegistryEnv (js "0123456789abcdef0123456789abcdef\n") (js "https://api.example") zeroTicket
        ((registryMachine plainRegistryEnv 0).run issuedTicket).shared := by
  obtain ⟨e, he⟩ := Option.isSome_iff_exists.1 live_issuedTicket
  exact ⟨draws_issuedTicket, not_resolvesAlike (by decide) he⟩

theorem authorizers_agree_issuedTicket :
    ResolvesAlike plainRegistryEnv (js "0123456789abcdef0123456789abcdef") (js "https://api.example") zeroTicket
      ((registryMachine plainRegistryEnv 0).run issuedTicket).shared :=
  ((authorizers_agree plainRegistryEnv (fun s t h => by rw [show s = t from h]) 0 issuedTicket draws_issuedTicket _
    (js "https://api.example")).1 zeroTicket).2 (.inl (by decide))

end Pherry.Relay
