import Pherry.ControlPlane.RelayTickets
import Pherry.Protocol.Methods
import Pherry.Protocol.Number

/-!
# The internal routes

What a relay asks the control plane for, over `/internal/relay/*` and by `makeControlPlaneAuthorizer` in the same
process. Both come down to `consumeTicket` and `loadActiveHost`; the routes check a key and a body first. Other
requests may run at the one `await` between the two statements of `consumeTicket`.
-/

namespace Pherry.ControlPlane

open Lib Protocol RelayCore

/-! ## Two statements of `consumeTicket` -/

/-- The numbers of JavaScript, without `NaN`. -/
inductive JsNumber
  | finite (value : ℚ)
  | infinity (negative : Bool)

/-- `TicketRecord`. -/
structure ResolvedTicket where
  hostId : JsString
  expiresAt : JsNumber

variable (env : RegistryEnv)

/-- `consumeTicket`, with what other requests do meanwhile. -/
def consumeTicketWith (meanwhile : Registry → Registry) (draw : Draw) (args : ResolveArgs) (r : Registry) :
    Registry × Option ConsumedTicket :=
  let taken := consumeTicket env draw args r .take
  match taken.2 with
  | .load record =>
    let loaded := consumeTicket env draw args (meanwhile taken.1) (.load record)
    match loaded.2 with
    | .resolved _ consumed => (loaded.1, some consumed)
    | _ => (loaded.1, none)
  | _ => (taken.1, none)

/-- `resolveTicket` of `makeControlPlaneAuthorizer`. -/
def resolveTicketDirect (meanwhile : Registry → Registry) (draw : Draw) (args : ResolveArgs) (r : Registry) :
    Registry × Option ResolvedTicket :=
  let consumed := consumeTicketWith env meanwhile draw args r
  (consumed.1, consumed.2.map fun c => ⟨c.hostId, .finite c.expiresAt⟩)

/-- `hostStaticPublicKey` of `makeControlPlaneAuthorizer`. -/
def hostStaticPublicKeyDirect (hostId : JsString) (r : Registry) : Option Bytes :=
  (loadActiveHost r hostId).bind fun activeHost => decodeKey activeHost.staticPublicKey

/-! ## Replies -/

/-- A reply, whose body is sent as JSON. -/
structure HttpReply where
  status : ℕ
  body : Json

/-- `sendError`. -/
def sendError (status : ℕ) (code message : String) : HttpReply :=
  ⟨status, .obj [(js "error", .obj [(js "code", .str (js code)), (js "message", .str (js message))])]⟩

/-- The `bodyLimit` of the server, which no route raises. -/
def bodyLimit : ℕ := 1048576

/-- The body of a request, which the server reads before the handler runs. -/
def readBody (body : Bytes) : Except HttpReply Json :=
  if bodyLimit < body.length then
    .error (sendError 413 "FST_ERR_CTP_BODY_TOO_LARGE" "Request body is too large")
  else
    match decodeJson id body with
    | none => .error (sendError 400 "FST_ERR_CTP_INVALID_JSON_BODY" "Body is not valid JSON")
    | some json => .ok json

/-- `authorizeInternal`: the refusal, if there is one. -/
def authorizeInternal (configured provided : Option JsString) : Option HttpReply :=
  match configured with
  | none => some (sendError 503 "not-configured" "the internal API is not configured")
  | some configured =>
    if provided.any fun value => constantTimeEqual (utf8 value) (utf8 configured) then none
    else some (sendError 401 "unauthenticated" "a valid internal key is required")

/-- What `parseBody` sends for a body that its schema refuses. -/
def invalidRequest : HttpReply := sendError 400 "invalid-request" "request body failed validation"

/-- `ValidateTicketBody`. -/
def validateTicketBody (json : Json) : Option JsString :=
  match json.get (js "ticket") with
  | some (.str ticket) => if ticket = [] then none else some ticket
  | _ => none

/-- `HostKeyBody`. -/
def hostKeyBody (json : Json) : Option JsString :=
  match json.get (js "hostId") with
  | some (.str hostId) => if matchesId (js "host") hostId then some hostId else none
  | _ => none

/-- The body of a success of `validate-ticket`. -/
def validateTicketReply (consumed : ConsumedTicket) : Json :=
  .obj [(js "hostId", .str consumed.hostId), (js "orgId", .str consumed.orgId),
    (js "expiresAt", .int consumed.expiresAt), (js "hostPublicKeyB64", .str consumed.hostPublicKeyB64)]

/-! ## The routes -/

/-- A request as the server receives it. -/
structure HttpRequest where
  internalKey : Option JsString
  body : Bytes

/-- `POST /internal/relay/validate-ticket`. -/
def validateTicket (configured : Option JsString) (meanwhile : Registry → Registry) (draw : Draw) (cell now : ℕ)
    (request : HttpRequest) (r : Registry) : Registry × HttpReply :=
  match readBody request.body with
  | .error reply => (r, reply)
  | .ok json =>
    match authorizeInternal configured request.internalKey with
    | some refusal => (r, refusal)
    | none =>
      match validateTicketBody json with
      | none => (r, invalidRequest)
      | some ticket =>
        let consumed := consumeTicketWith env meanwhile draw ⟨cell, now, ticket⟩ r
        (consumed.1, match consumed.2 with
          | none => sendError 404 "ticket-invalid" "the ticket is not valid"
          | some consumed => ⟨200, validateTicketReply consumed⟩)

/-- `POST /internal/relay/host-key`. -/
def hostKey (configured : Option JsString) (request : HttpRequest) (r : Registry) : HttpReply :=
  match readBody request.body with
  | .error reply => reply
  | .ok json =>
    match authorizeInternal configured request.internalKey with
    | some refusal => refusal
    | none =>
      match hostKeyBody json with
      | none => invalidRequest
      | some hostId =>
        match loadActiveHost r hostId with
        | none => sendError 404 "host-not-found" "no such host"
        | some host => ⟨200, .obj [(js "hostPublicKeyB64", .str host.staticPublicKey)]⟩

/-! ## What the registry holds -/

/-- A ticket as `newTicket` mints it. -/
def isTicket (ticket : JsString) : Bool := matchesId (js "tkt") ticket

/-- A time that is a number. -/
def isNumber (ms : ℕ) : Prop := toDouble ms = some (ms : ℚ)

/-- A record that an issue has stored. -/
structure TicketValue.Stored (record : TicketValue) : Prop where
  host : matchesId (js "host") record.hostId = true
  number : isNumber record.expiresAt

/-- A request that is about to write keeps to the form of what it writes. -/
def RegistryCall.formed : RegistryCall → Prop
  | .register args .insert => (decodeKey args.staticPublicKeyB64).isSome
  | .issue _ (.mint host expiresAt _) => matchesId (js "host") host.id = true ∧ isNumber expiresAt
  | _ => True

/-- A draw is an id of `newHostId` where a host is inserted, digits of `newTicket` where a ticket is minted, and
a clock with which the expiry is still a number where a ticket is issued. -/
def RegistryCall.draws (draw : Draw) : RegistryCall → Prop
  | .register _ .insert => matchesId (js "host") draw.id = true
  | .issue _ .check => isNumber (draw.now + env.relayTicketTtlMs)
  | .issue _ (.mint _ _ _) => isTicket (mintSecret (js "tkt") draw.secret) = true
  | _ => True

/-- The step of a request draws what it should. -/
def Requests.draws (s : Requests) : RegistryEvent → Prop
  | .step i draw => ∀ c ∈ s.calls[i]?, c.draws env draw
  | _ => True

/-- A registry whose ids and secrets were minted as they are. -/
structure Registry.Formed (r : Registry) : Prop where
  hosts : ∀ row ∈ r.hosts.rows, matchesId (js "host") row.id = true ∧ (decodeKey row.staticPublicKey).isSome
  tickets : ∀ key e, r.redis.entries key = some e →
    (∃ ticket, isTicket ticket = true ∧ key = ticketKey env ticket) ∧ e.value.Stored

variable {env} {draw : Draw} {r : Registry}

lemma Registry.Formed.of_same (h : r.Formed env) {r' : Registry} (hhosts : r'.hosts = r.hosts)
    (hredis : r'.redis = r.redis) : r'.Formed env := by
  constructor
  · rw [hhosts]
    exact h.hosts
  · rw [hredis]
    exact h.tickets

lemma Registry.Formed.register (h : r.Formed env) {args : RegisterArgs} {stage : RegisterStage}
    (hc : (RegistryCall.register args stage).formed) (hdraw : (RegistryCall.register args stage).draws env draw) :
    (registerHost env draw args r stage).1.Formed env ∧
      (RegistryCall.register args (registerHost env draw args r stage).2).formed := by
  cases stage with
  | check =>
    unfold registerHost
    dsimp only
    split
    · exact ⟨h, trivial⟩
    · next hvalid =>
      split
      · exact ⟨h, trivial⟩
      · refine ⟨h, ?_⟩
        rw [Bool.or_eq_true, not_or, Bool.not_eq_true, Bool.not_eq_true, Option.isNone_eq_false_iff] at hvalid
        exact hvalid.2
  | insert =>
    unfold registerHost
    dsimp only
    split
    · exact ⟨h, trivial⟩
    · next hosts hinsert =>
      refine ⟨⟨?_, h.tickets⟩, trivial⟩
      intro row hrow
      rw [Table.rows_insert hinsert] at hrow
      rcases List.mem_append.1 hrow with hold | hnew
      · exact h.hosts row hold
      · rw [List.mem_singleton.1 hnew]
        exact ⟨hdraw, hc⟩
  | refused => exact ⟨h, trivial⟩
  | failed => exact ⟨h, trivial⟩
  | registered host hostKey => exact ⟨h, trivial⟩

lemma Registry.Formed.revoke (h : r.Formed env) (args : RevokeArgs) (stage : RevokeStage) :
    (revokeHost draw args r stage).1.Formed env := by
  cases stage with
  | check =>
    rw [revokeHost]
    split <;> exact h
  | update host =>
    refine ⟨fun row hrow => ?_, h.tickets⟩
    obtain ⟨before, hbefore, rfl⟩ := List.mem_map.1 hrow
    have hkept := h.hosts before hbefore
    split
    · exact hkept
    · exact hkept
  | refused => exact h
  | ok => exact h

lemma Registry.Formed.issue (h : r.Formed env) {args : IssueArgs} {stage : IssueStage}
    (hc : (RegistryCall.issue args stage).formed) (hdraw : (RegistryCall.issue args stage).draws env draw) :
    (issueTicket env draw args r stage).1.Formed env ∧
      (RegistryCall.issue args (issueTicket env draw args r stage).2).formed := by
  cases stage with
  | check =>
    rw [issueTicket]
    split
    · exact ⟨h, trivial⟩
    · next host hget =>
      refine ⟨h, ?_⟩
      dsimp only
      split
      · trivial
      · exact ⟨(h.hosts host ((Table.get_eq_some id_mem_hostColumns).1 hget).1).1, hdraw⟩
  | mint host expiresAt attempt =>
    rw [issueTicket]
    refine ⟨⟨h.hosts, ?_⟩, ?_⟩
    · intro key e he
      rcases KeyStore.entries_setNx he with hold | ⟨hkey, hvalue, -⟩
      · exact h.tickets key e hold
      · rw [hvalue]
        exact ⟨⟨_, hdraw, hkey⟩, ⟨hc.1, hc.2⟩⟩
    · dsimp only
      split
      · trivial
      · split
        · exact hc
        · trivial
  | refused => exact ⟨h, trivial⟩
  | failed => exact ⟨h, trivial⟩
  | issued host result => exact ⟨h, trivial⟩

lemma Registry.Formed.resolve (h : r.Formed env) (args : ResolveArgs) (stage : ResolveStage) :
    (consumeTicket env draw args r stage).1.Formed env := by
  cases stage with
  | take => exact ⟨h.hosts, fun key e he => h.tickets key e (KeyStore.entries_getdel he)⟩
  | load record =>
    rw [consumeTicket]
    split <;> exact h
  | resolved record consumed =>
    rw [consumeTicket]
    split
    · exact h
    · exact h.of_same rfl rfl
  | refused => exact h
  | bridged record consumed => exact h
  | turnedAway record code => exact h

lemma Registry.Formed.step (h : r.Formed env) {c : RegistryCall} (hc : c.formed) (hdraw : c.draws env draw) :
    (c.step env draw r).1.Formed env ∧ (c.step env draw r).2.formed := by
  cases c with
  | register args stage => exact h.register hc hdraw
  | revoke args stage => exact ⟨h.revoke args stage, trivial⟩
  | authenticate header stage => exact ⟨h, trivial⟩
  | pair args stage =>
    exact ⟨h.of_same (hosts_mintPairToken args stage) (redis_mintPairToken args stage), trivial⟩
  | redeem args stage =>
    exact ⟨h.of_same (hosts_redeemPairToken args stage) (redis_redeemPairToken args stage), trivial⟩
  | status args stage => exact ⟨h, trivial⟩
  | enroll args stage => exact ⟨h, trivial⟩
  | issue args stage => exact h.issue hc hdraw
  | resolve args stage => exact ⟨h.resolve args stage, trivial⟩

lemma formed_call (request : RegistryRequest) : request.call.formed := by
  cases request <;> trivial

lemma formed_run {now : ℕ} {es : List RegistryEvent}
    (hes : (registryMachine env now).Meets (Requests.draws env) es) :
    ((registryMachine env now).run es).shared.Formed env ∧
      ∀ c ∈ ((registryMachine env now).run es).calls, c.formed := by
  refine (registryMachine env now).invariant_of_meets
    (p := fun s : Requests => s.shared.Formed env ∧ ∀ c ∈ s.calls, c.formed) ?_ ?_ hes
  · exact ⟨⟨fun row hrow => absurd hrow List.not_mem_nil, fun key e he => absurd he (Option.some_ne_none e).symm⟩,
      fun c hc => absurd hc List.not_mem_nil⟩
  · rintro s e hdraws ⟨hshared, hcalls⟩
    cases e with
    | advance ms => exact ⟨⟨hshared.hosts, hshared.tickets⟩, hcalls⟩
    | request request => exact ⟨hshared, Concurrent.forall_start hcalls (formed_call request)⟩
    | step i draw =>
      refine Concurrent.advance_induction
        (p := fun t : Requests => t.shared.Formed env ∧ ∀ c ∈ t.calls, c.formed) ⟨hshared, hcalls⟩ fun c hc => ?_
      obtain ⟨hstep, hform⟩ := hshared.step (hcalls c (List.mem_of_getElem? hc)) (hdraws c hc)
      exact ⟨hstep, Concurrent.forall_set hcalls hform⟩

/-! ## Genuine tickets -/

lemma isAscii_of_matchesId {tag s : JsString} (htag : isAscii tag = true) (h : matchesId tag s = true) :
    isAscii s = true ∧ s.length = tag.length + 33 := by
  rw [matchesId, Bool.and_eq_true, Bool.and_eq_true, beq_iff_eq, beq_iff_eq] at h
  obtain ⟨⟨hfront, hlength⟩, hhex⟩ := h
  have hsplit : s = tag ++ [0x5F] ++ s.drop (tag.length + 1) := by
    rw [← hfront, List.take_append_drop]
  have hdigit : ∀ u, isHexDigit u = true → u < 0x80 := by
    intro u hu
    simp only [isHexDigit, Bool.or_eq_true, Bool.and_eq_true, decide_eq_true_eq] at hu
    rcases hu with ⟨-, hu⟩ | ⟨-, hu⟩
    · exact UInt16.lt_of_le_of_lt hu (by decide)
    · exact UInt16.lt_of_le_of_lt hu (by decide)
  constructor
  · rw [hsplit]
    unfold isAscii at htag ⊢
    rw [List.all_append, List.all_append, htag, Bool.true_and, Bool.and_eq_true]
    refine ⟨by decide, List.all_eq_true.2 fun u hu => ?_⟩
    exact decide_eq_true (hdigit u (List.all_eq_true.1 hhex u hu))
  · rw [hsplit]
    simp only [List.length_append, List.length_singleton, hlength]

lemma isAscii_quoteUnit {u : UInt16} (h : u < 0x80) :
    isAscii (quoteUnit u) = true ∧ (quoteUnit u).length ≤ 6 := by
  unfold quoteUnit
  split_ifs
  all_goals first | exact ⟨by decide, by decide⟩ | skip
  · exact ⟨isAscii_unicodeEscape u, by simp [unicodeEscape, js]⟩
  · simpa [isAscii] using h

lemma isAscii_quoteUnits {s : JsString} (h : isAscii s = true) :
    isAscii (quoteUnits s) = true ∧ (quoteUnits s).length ≤ 6 * s.length := by
  unfold isAscii at h ⊢
  induction s using quoteUnits.induct with
  | case1 => exact ⟨rfl, Nat.le_refl 0⟩
  | case2 u =>
    rw [List.all_cons, Bool.and_eq_true, decide_eq_true_eq] at h
    exact isAscii_quoteUnit h.1
  | case3 u v rest hpair ih =>
    rw [List.all_cons, Bool.and_eq_true, decide_eq_true_eq] at h
    rw [(not_surrogate_of_ascii h.1).1] at hpair
    cases hpair
  | case4 u v rest hpair ih =>
    rw [List.all_cons, Bool.and_eq_true, decide_eq_true_eq] at h
    obtain ⟨hunit, hlength⟩ := isAscii_quoteUnit h.1
    obtain ⟨hrest, hle⟩ := ih h.2
    unfold isAscii at hunit
    rw [quoteUnits, if_neg hpair, List.all_append, hunit, hrest, List.length_append]
    refine ⟨rfl, ?_⟩
    simp only [List.length_cons] at hle ⊢
    omega

lemma readBody_id {tag key id' : JsString} (htag : isAscii tag = true) (hlength : tag.length ≤ 64)
    (hkey : isAscii key = true) (hkeyLength : key.length ≤ 64) (h : matchesId tag id' = true) :
    readBody (utf8 (stringify (.obj [(key, .str id')]))) = .ok (.obj [(key, .str id')]) := by
  obtain ⟨hascii, hid⟩ := isAscii_of_matchesId htag h
  obtain ⟨hquoted, hle⟩ := isAscii_quoteUnits hascii
  obtain ⟨hquotedKey, hleKey⟩ := isAscii_quoteUnits hkey
  have hcanonical : (Json.obj [(key, .str id')]).canonical id := by
    simp [Json.canonical, canonicalFields]
  have htext : stringify (.obj [(key, .str id')]) =
      [0x7B] ++ ([0x22] ++ quoteUnits key ++ [0x22] ++ [0x3A] ++ ([0x22] ++ quoteUnits id' ++ [0x22])) ++ [0x7D] := rfl
  have hall : isAscii (stringify (.obj [(key, .str id')])) = true := by
    unfold isAscii at hquoted hquotedKey ⊢
    rw [htext]
    simp [hquoted, hquotedKey]
  have hshort : ¬ bodyLimit < (utf8 (stringify (.obj [(key, .str id')]))).length := by
    rw [length_utf8_of_isAscii hall, htext]
    simp only [List.length_append, List.length_singleton, bodyLimit]
    omega
  rw [readBody, if_neg hshort, decodeJson_utf8 hcanonical]

lemma eq_of_utf8_ascii {s t : JsString} (hs : isAscii s = true) (h : utf8 t = utf8 s) : t = s := by
  apply (utf8_determines_iff s).2 _ t h
  refine ⟨(stands_of_isAscii hs).1, fun hmem => ?_⟩
  have hlt := List.all_eq_true.1 hs _ hmem
  revert hlt
  decide

lemma Registry.Formed.genuine (h : r.Formed env)
    (hhash : ∀ s t, env.sha256Hex s = env.sha256Hex t → utf8 s = utf8 t) {ticket : JsString}
    {e : Entry TicketValue} (hlive : r.redis.live (ticketKey env ticket) = some e) :
    isTicket ticket = true ∧ e.value.Stored := by
  obtain ⟨⟨minted, hminted, hkey⟩, hstored⟩ := h.tickets _ e (KeyStore.live_eq_some.1 hlive).1
  have hsame : ticket = minted :=
    eq_of_utf8_ascii (isAscii_of_matchesId (by decide) hminted).1 (hhash _ _ (List.append_cancel_left hkey))
  exact ⟨hsame ▸ hminted, hstored⟩

lemma Registry.Formed.stored (h : r.Formed env)
    (hhash : ∀ s t, env.sha256Hex s = env.sha256Hex t → utf8 s = utf8 t) {ticket : JsString} :
    ∀ e, r.redis.live (ticketKey env ticket) = some e → e.value.hostId ≠ [] ∧ isNumber e.value.expiresAt := by
  intro e he
  obtain ⟨-, hstored⟩ := h.genuine hhash he
  refine ⟨fun hempty => ?_, hstored.number⟩
  have hid := hstored.host
  rw [hempty] at hid
  cases hid

lemma Registry.Formed.active (h : r.Formed env) {hostId : JsString} {host : HostRecord}
    (hhost : loadActiveHost r hostId = some host) :
    matchesId (js "host") hostId = true ∧ (decodeKey host.staticPublicKey).isSome := by
  obtain ⟨hget, -⟩ := loadActiveHost_eq_some hhost
  obtain ⟨hmem, rfl⟩ := (Table.get_eq_some id_mem_hostColumns).1 hget
  exact h.hosts host hmem

/-! ## What the routes do -/

/-- A refusal. -/
def HttpReply.IsRefusal (reply : HttpReply) : Prop :=
  ∃ status code message, status ≠ 200 ∧ reply = sendError status code message

lemma isRefusal_sendError {status : ℕ} (h : status ≠ 200) (code message : String) :
    (sendError status code message).IsRefusal := ⟨status, code, message, h, rfl⟩

lemma isRefusal_readBody {body : Bytes} {reply : HttpReply} (h : readBody body = .error reply) :
    reply.IsRefusal := by
  unfold readBody at h
  split at h
  · cases h
    exact isRefusal_sendError (by decide) _ _
  · split at h
    · cases h
      exact isRefusal_sendError (by decide) _ _
    · cases h

lemma authorizeInternal_eq_some {configured : JsString} {provided : Option JsString} {reply : HttpReply}
    (h : authorizeInternal (some configured) provided = some reply) : reply.IsRefusal := by
  unfold authorizeInternal at h
  split at h
  · next heq => cases heq
  · split at h
    · cases h
    · cases h
      exact isRefusal_sendError (by decide) _ _

lemma authorizeInternal_eq_none {configured value : JsString} :
    authorizeInternal (some configured) (some value) = none ↔ utf8 value = utf8 configured := by
  simp [authorizeInternal, constantTimeEqual_iff]

lemma consumeTicketWith_absent {meanwhile : Registry → Registry} {args : ResolveArgs}
    (h : r.redis.live (ticketKey env args.ticket) = none) :
    consumeTicketWith env meanwhile draw args r = (r, none) := by
  rw [consumeTicketWith, consumeTicket, KeyStore.getdel_of_absent h]

lemma consumeTicketWith_live {meanwhile : Registry → Registry} {args : ResolveArgs} {consumed : ConsumedTicket}
    (h : (consumeTicketWith env meanwhile draw args r).2 = some consumed) :
    ∃ e, r.redis.live (ticketKey env args.ticket) = some e ∧ consumed.hostId = e.value.hostId ∧
      consumed.expiresAt = e.value.expiresAt := by
  cases hlive : r.redis.live (ticketKey env args.ticket) with
  | none =>
    rw [consumeTicketWith_absent hlive] at h
    cases h
  | some e =>
    refine ⟨e, rfl, ?_⟩
    rw [consumeTicketWith, consumeTicket, KeyStore.getdel_of_live hlive] at h
    dsimp only at h
    split at h
    · next record hload =>
      split at hload
      · cases hload
      · cases hload
        split at h
        · next resolved hresolved =>
          rw [consumeTicket] at hresolved
          split at hresolved
          · cases hresolved
          · next host hhost =>
            dsimp only at hresolved
            split at hresolved
            · cases hresolved
            · obtain ⟨hget, -⟩ := loadActiveHost_eq_some hhost
              cases hresolved
              cases h
              exact ⟨((Table.get_eq_some id_mem_hostColumns).1 hget).2, rfl⟩
        · cases h
    · cases h

lemma consumeTicketWith_spends {meanwhile : Registry → Registry} {args : ResolveArgs}
    (hmeanwhile : ∀ t, t.redis.live (ticketKey env args.ticket) = none →
      (meanwhile t).redis.live (ticketKey env args.ticket) = none) :
    (consumeTicketWith env meanwhile draw args r).1.redis.live (ticketKey env args.ticket) = none := by
  have htaken : (consumeTicket env draw args r .take).1.redis.live (ticketKey env args.ticket) = none := by
    rw [consumeTicket]
    cases hlive : r.redis.live (ticketKey env args.ticket) with
    | none =>
      rw [KeyStore.getdel_of_absent hlive]
      exact hlive
    | some e =>
      rw [KeyStore.getdel_of_live hlive]
      exact KeyStore.live_del_self
  have hload : ∀ t record, (consumeTicket env draw args t (.load record)).1 = t := by
    intro t record
    rw [consumeTicket]
    split <;> rfl
  rw [consumeTicketWith]
  dsimp only
  split
  · next record hrecord =>
    split
    · rw [hload]
      exact hmeanwhile _ htaken
    · rw [hload]
      exact hmeanwhile _ htaken
  · exact htaken

/-- The reply of `validate-ticket` behind the checks. -/
def ticketReply : Option ConsumedTicket → HttpReply
  | none => sendError 404 "ticket-invalid" "the ticket is not valid"
  | some consumed => ⟨200, validateTicketReply consumed⟩

/-- The body of a request for a ticket. -/
def ticketBody (ticket : JsString) : Json := .obj [(js "ticket", .str ticket)]

/-- The body of a request for the key of a host. -/
def hostBody (hostId : JsString) : Json := .obj [(js "hostId", .str hostId)]

section
variable {configured value ticket hostId : JsString} {meanwhile : Registry → Registry} {cell now : ℕ}

/-- A request for a ticket is refused before anything is done, or is let through to `consumeTicket`. -/
lemma validateTicket_cases (configured value ticket : JsString) (meanwhile : Registry → Registry) (draw : Draw)
    (cell now : ℕ) (r : Registry) :
    (∃ reply, reply.IsRefusal ∧
      validateTicket env (some configured) meanwhile draw cell now ⟨some value, utf8 (stringify (ticketBody ticket))⟩
        r = (r, reply)) ∨
    utf8 value = utf8 configured ∧
      validateTicket env (some configured) meanwhile draw cell now ⟨some value, utf8 (stringify (ticketBody ticket))⟩
        r = ((consumeTicketWith env meanwhile draw ⟨cell, now, ticket⟩ r).1,
          ticketReply (consumeTicketWith env meanwhile draw ⟨cell, now, ticket⟩ r).2) := by
  have hcanonical : (ticketBody ticket).canonical id := by simp [ticketBody, Json.canonical, canonicalFields]
  rw [validateTicket]
  cases hread : readBody (utf8 (stringify (ticketBody ticket))) with
  | error reply => exact .inl ⟨reply, isRefusal_readBody hread, rfl⟩
  | ok json =>
    dsimp only
    split
    · next refusal hrefusal => exact .inl ⟨refusal, authorizeInternal_eq_some hrefusal, rfl⟩
    · next hallowed =>
      split
      · exact .inl ⟨invalidRequest, isRefusal_sendError (by decide) _ _, rfl⟩
      · next read hbody =>
        -- what was read is what was sent
        unfold readBody at hread
        split at hread
        · cases hread
        · rw [decodeJson_utf8 hcanonical] at hread
          cases hread
          unfold validateTicketBody at hbody
          rw [show (ticketBody ticket).get (js "ticket") = some (.str ticket) by rfl] at hbody
          dsimp only at hbody
          split at hbody
          · cases hbody
          · cases hbody
            refine .inr ⟨authorizeInternal_eq_none.1 hallowed, ?_⟩
            cases (consumeTicketWith env meanwhile draw ⟨cell, now, ticket⟩ r).2 <;> rfl

lemma validateTicket_of_isTicket (hvalue : utf8 value = utf8 configured) (hticket : isTicket ticket = true) :
    validateTicket env (some configured) meanwhile draw cell now ⟨some value, utf8 (stringify (ticketBody ticket))⟩
      r = ((consumeTicketWith env meanwhile draw ⟨cell, now, ticket⟩ r).1,
        ticketReply (consumeTicketWith env meanwhile draw ⟨cell, now, ticket⟩ r).2) := by
  have hread : readBody (utf8 (stringify (ticketBody ticket))) = .ok (ticketBody ticket) :=
    readBody_id (by decide) (by decide) (by decide) (by decide) hticket
  have hne : ticket ≠ [] := by
    rintro rfl
    cases hticket
  have hbody : validateTicketBody (ticketBody ticket) = some ticket := by
    rw [validateTicketBody, show (ticketBody ticket).get (js "ticket") = some (.str ticket) by rfl]
    exact if_neg hne
  rw [validateTicket, hread]
  dsimp only
  rw [authorizeInternal_eq_none.2 hvalue]
  dsimp only
  rw [hbody]
  dsimp only
  cases (consumeTicketWith env meanwhile draw ⟨cell, now, ticket⟩ r).2 <;> rfl

lemma hostKey_cases (configured value hostId : JsString) (r : Registry) :
    (hostKey (some configured) ⟨some value, utf8 (stringify (hostBody hostId))⟩ r).IsRefusal ∨
    utf8 value = utf8 configured ∧ ∃ host, loadActiveHost r hostId = some host ∧
      hostKey (some configured) ⟨some value, utf8 (stringify (hostBody hostId))⟩ r =
        ⟨200, .obj [(js "hostPublicKeyB64", .str host.staticPublicKey)]⟩ := by
  have hcanonical : (hostBody hostId).canonical id := by simp [hostBody, Json.canonical, canonicalFields]
  rw [hostKey]
  cases hread : readBody (utf8 (stringify (hostBody hostId))) with
  | error reply => exact .inl (isRefusal_readBody hread)
  | ok json =>
    dsimp only
    split
    · next refusal hrefusal => exact .inl (authorizeInternal_eq_some hrefusal)
    · next hallowed =>
      split
      · exact .inl (isRefusal_sendError (by decide) _ _)
      · next read hbody =>
        unfold readBody at hread
        split at hread
        · cases hread
        · rw [decodeJson_utf8 hcanonical] at hread
          cases hread
          unfold hostKeyBody at hbody
          rw [show (hostBody hostId).get (js "hostId") = some (.str hostId) by rfl] at hbody
          dsimp only at hbody
          split at hbody
          · cases hbody
            split
            · exact .inl (isRefusal_sendError (by decide) _ _)
            · next host hhost => exact .inr ⟨authorizeInternal_eq_none.1 hallowed, host, hhost, rfl⟩
          · cases hbody

lemma hostKey_of_matchesId (hvalue : utf8 value = utf8 configured) (hid : matchesId (js "host") hostId = true)
    {host : HostRecord} (hhost : loadActiveHost r hostId = some host) :
    hostKey (some configured) ⟨some value, utf8 (stringify (hostBody hostId))⟩ r =
      ⟨200, .obj [(js "hostPublicKeyB64", .str host.staticPublicKey)]⟩ := by
  have hread : readBody (utf8 (stringify (hostBody hostId))) = .ok (hostBody hostId) :=
    readBody_id (by decide) (by decide) (by decide) (by decide) hid
  have hbody : hostKeyBody (hostBody hostId) = some hostId := by
    rw [hostKeyBody, show (hostBody hostId).get (js "hostId") = some (.str hostId) by rfl]
    exact if_pos hid
  rw [hostKey, hread]
  dsimp only
  rw [authorizeInternal_eq_none.2 hvalue]
  dsimp only
  rw [hbody]
  dsimp only
  rw [hhost]

end

/-! ## A spent ticket -/

/-- No step mints the ticket again. -/
def Requests.mintsOther (env : RegistryEnv) (ticket : JsString) (s : Requests) : RegistryEvent → Prop
  | .step i draw => ∀ args host expiresAt attempt, s.calls[i]? = some (.issue args (.mint host expiresAt attempt)) →
    ticketKey env (mintSecret (js "tkt") draw.secret) ≠ ticketKey env ticket
  | _ => True

lemma spent_step {key : JsString} (h : r.redis.live key = none) {c : RegistryCall}
    (hmint : ∀ args host expiresAt attempt, c = .issue args (.mint host expiresAt attempt) →
      ticketKey env (mintSecret (js "tkt") draw.secret) ≠ key) :
    (c.step env draw r).1.redis.live key = none := by
  have hsame : ∀ {t : Registry}, t.redis = r.redis → t.redis.live key = none := by
    intro t ht
    rw [ht]
    exact h
  cases c with
  | register args stage => exact hsame (redis_registerHost args stage)
  | revoke args stage => exact hsame (redis_revokeHost args stage)
  | authenticate header stage => exact h
  | pair args stage => exact hsame (redis_mintPairToken args stage)
  | redeem args stage => exact hsame (redis_redeemPairToken args stage)
  | status args stage => exact h
  | enroll args stage => exact h
  | issue args stage =>
    cases stage with
    | check =>
      rw [RegistryCall.step, issueTicket]
      split <;> exact h
    | mint host expiresAt attempt =>
      have hne := hmint args host expiresAt attempt rfl
      rw [RegistryCall.step, issueTicket]
      exact (KeyStore.live_setNx_ne (Ne.symm hne) _ _).trans h
    | refused => exact h
    | failed => exact h
    | issued host result => exact h
  | resolve args stage =>
    cases stage with
    | take =>
      rw [RegistryCall.step, consumeTicket]
      by_cases hkey : key = ticketKey env args.ticket
      · rw [hkey] at h ⊢
        dsimp only
        rw [KeyStore.getdel_of_absent h]
        exact h
      · exact (KeyStore.live_getdel_ne hkey).trans h
    | load record =>
      rw [RegistryCall.step, consumeTicket]
      split <;> exact h
    | resolved record consumed =>
      rw [RegistryCall.step, consumeTicket]
      split <;> exact h
    | refused => exact h
    | bridged record consumed => exact h
    | turnedAway record code => exact h

lemma spent_react {ticket : JsString} {s : Requests} (h : s.shared.redis.live (ticketKey env ticket) = none)
    {e : RegistryEvent} (hmint : s.mintsOther env ticket e) :
    (s.react env e).shared.redis.live (ticketKey env ticket) = none := by
  cases e with
  | advance ms =>
    cases hlive : (s.shared.redis.advance ms).live (ticketKey env ticket) with
    | none => exact hlive
    | some e =>
      rw [KeyStore.live_of_advance hlive] at h
      cases h
  | request request => exact h
  | step i draw =>
    exact Concurrent.advance_induction
      (p := fun t : Requests => t.shared.redis.live (ticketKey env ticket) = none) h fun c hc =>
        spent_step h fun args host expiresAt attempt heq => hmint args host expiresAt attempt (by rw [hc, heq])

end Pherry.ControlPlane
