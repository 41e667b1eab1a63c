import Pherry.ControlPlane.InternalRoutes
import Pherry.Protocol.JsonScan
import Pherry.TornText

/-!
# The authorizer of a deployed cell

`makeHttpAuthorizer` asks the control plane by `fetch`, and refuses wherever anything goes wrong. Against the
internal routes it is `makeControlPlaneAuthorizer`, as far as the configured key gets through a header.
-/

namespace Pherry.Relay

open Lib Protocol RelayCore ControlPlane

/-! ## `fetch` -/

/-- What `fetch` is given; the method and the content type are always the same. -/
structure FetchRequest where
  url : JsString
  internalKey : JsString
  body : JsString

/-- A response, whose body may still fail. -/
structure Response where
  status : ℕ
  body : Except Unit Bytes

/-- `fetch`, with the state of the world it acts on. It rejects with an error that nothing looks at. -/
abbrev Fetch (σ : Type) := FetchRequest → σ → σ × Except Unit Response

/-- `response.json()`. -/
def Response.json (response : Response) : Except Unit Json := do
  let bytes ← response.body
  match decodeJson id bytes with
  | none => throw ()
  | some json => pure json

/-! ## `makeHttpAuthorizer` -/

/-- `HttpAuthorizerOptions`. -/
structure HttpAuthorizerOptions where
  controlPlaneUrl : JsString
  internalApiKey : JsString

/-- The base URL, without slashes at its end. -/
def HttpAuthorizerOptions.base (options : HttpAuthorizerOptions) : JsString :=
  (options.controlPlaneUrl.reverse.dropWhile (· == 0x2F)).reverse

/-- The number of a JSON number; one that overflows is infinite. -/
def numberOf (text : JsString) : Option JsNumber :=
  (numericValue text).map fun q =>
    match toDouble q with
    | some value => .finite value
    | none => .infinity (decide (q < 0))

/-- `ValidateTicketResponse`. -/
def validateTicketResponse (json : Json) : Option ResolvedTicket :=
  match json.get (js "hostId"), json.get (js "expiresAt") with
  | some (.str hostId), some (.num text) =>
    if hostId = [] then none else (numberOf text).map fun expiresAt => ⟨hostId, expiresAt⟩
  | _, _ => none

/-- `HostKeyResponse`. -/
def hostKeyResponse (json : Json) : Option JsString :=
  match json.get (js "hostPublicKeyB64") with
  | some (.str text) => if text = [] then none else some text
  | _ => none

variable {σ : Type}

/-- What `post` makes of a rejection. -/
def caught : Except Unit Response → Option Response
  | .error _ => none
  | .ok response => some response

/-- `post`. -/
def post (fetchImpl : Fetch σ) (options : HttpAuthorizerOptions) (path : String) (body : Json) (s : σ) :
    σ × Option Response :=
  let fetched := fetchImpl ⟨options.base ++ js path, options.internalApiKey, stringify body⟩ s
  (fetched.1, caught fetched.2)

/-- `parseJson`. -/
def parseResponse {α : Type} (response : Option Response) (schema : Json → Option α) : Except Unit (Option α) :=
  match response with
  | none => pure none
  | some response =>
    if response.status ≠ 200 then pure none
    else tryCatch (response.json.map schema) fun _ => pure none

/-- `decodeKey`, which throws. -/
def decodeKeyOrThrow (text : JsString) : Except Unit Bytes :=
  match decodeKey text with
  | none => throw ()
  | some key => pure key

/-- `resolveTicket`. -/
def resolveTicket (fetchImpl : Fetch σ) (options : HttpAuthorizerOptions) (ticket : JsString) (s : σ) :
    σ × Except Unit (Option ResolvedTicket) :=
  let posted := post fetchImpl options "/internal/relay/validate-ticket" (.obj [(js "ticket", .str ticket)]) s
  (posted.1, parseResponse posted.2 validateTicketResponse)

/-- What `hostStaticPublicKey` makes of the text of a key. -/
def keyBytes : Option JsString → Except Unit (Option Bytes)
  | none => pure none
  | some text => tryCatch ((decodeKeyOrThrow text).map some) fun _ => pure none

/-- `hostStaticPublicKey`. -/
def hostStaticPublicKey (fetchImpl : Fetch σ) (options : HttpAuthorizerOptions) (hostId : JsString) (s : σ) :
    σ × Except Unit (Option Bytes) :=
  let posted := post fetchImpl options "/internal/relay/host-key" (.obj [(js "hostId", .str hostId)]) s
  (posted.1, (parseResponse posted.2 hostKeyResponse).bind keyBytes)

/-! ## The way to the control plane -/

/-- A blank that `Headers` takes away at the ends of a value. -/
def isHeaderBlank (u : UInt16) : Bool := u == 0x09 || u == 0x0A || u == 0x0D || u == 0x20

/-- A unit that a header value may hold: one byte, and no control character but the tab. -/
def isHeaderUnit (u : UInt16) : Bool := u == 0x09 || (0x20 ≤ u && u ≤ 0x7E) || (0x80 ≤ u && u ≤ 0xFF)

/-- A value without the blanks at its ends. -/
def stripBlanks (value : JsString) : JsString :=
  ((value.dropWhile isHeaderBlank).reverse.dropWhile isHeaderBlank).reverse

/-- The value that a header arrives with, where `fetch` sends it at all. -/
def sendHeader (value : JsString) : Except Unit JsString :=
  if (stripBlanks value).all isHeaderUnit then pure (stripBlanks value) else throw ()

/-- A value that a header carries as it is. -/
def isHeaderValue (value : JsString) : Bool := value.all isHeaderUnit && stripBlanks value == value

/-- The control plane that a request reaches: its own key, a clock, and what other requests do meanwhile. -/
structure Listener where
  internalApiKey : JsString
  cell : ℕ
  now : ℕ
  draw : Draw
  meanwhile : Registry → Registry

/-- The reply of the route that a request names. -/
def Listener.handle (env : RegistryEnv) (listener : Listener) (base url : JsString) (request : HttpRequest)
    (r : Registry) : Registry × HttpReply :=
  if url = base ++ js "/internal/relay/validate-ticket" then
    validateTicket env (some listener.internalApiKey) listener.meanwhile listener.draw listener.cell listener.now
      request r
  else if url = base ++ js "/internal/relay/host-key" then
    (r, hostKey (some listener.internalApiKey) request r)
  else (r, sendError 404 "not-found" "no such route")

/-- A reply as it arrives. -/
def received (reply : HttpReply) : Response := ⟨reply.status, pure (utf8 (stringify reply.body))⟩

/-- `fetch` over a network that loses nothing. -/
def fetchFrom (env : RegistryEnv) (listener : Listener) (base : JsString) : Fetch Registry := fun request r =>
  match sendHeader request.internalKey with
  | .error _ => (r, throw ())
  | .ok value =>
    let handled := listener.handle env base request.url ⟨some value, utf8 request.body⟩ r
    (handled.1, pure (received handled.2))

/-- What may go wrong on the way: the request or the reply is lost, the reply has another status, its body fails, or
it is cut off. -/
inductive TransportFault
  | requestLost
  | replyLost
  | status (code : ℕ)
  | bodyFails
  | cut (length : ℕ)

/-- What a response comes to. -/
def TransportFault.response (fault : TransportFault) (response : Response) : Except Unit Response :=
  match fault with
  | .requestLost => throw ()
  | .replyLost => throw ()
  | .status code => pure { response with status := code }
  | .bodyFails => pure { response with body := throw () }
  | .cut length => pure { response with body := response.body.map fun bytes => bytes.take length }

/-- `fetch` over a network with a fault. -/
def TransportFault.fetch (fault : TransportFault) (fetchImpl : Fetch σ) : Fetch σ := fun request s =>
  match fault with
  | .requestLost => (s, throw ())
  | _ =>
    let fetched := fetchImpl request s
    (fetched.1, fetched.2.bind fault.response)

/-! ## What `fetch` brings -/

/-- Whatever a response is, nothing is thrown, and what comes of it is what the schema accepts. -/
lemma parseResponse_total {α : Type} (response : Option Response) (schema : Json → Option α) :
    ∃ result, parseResponse response schema = .ok result ∧ ∀ a ∈ result, ∃ json, schema json = some a := by
  have hnone : ∀ a ∈ (none : Option α), ∃ json, schema json = some a := fun a ha => by cases ha
  unfold parseResponse
  split
  · exact ⟨none, rfl, hnone⟩
  · next response =>
    split
    · exact ⟨none, rfl, hnone⟩
    · cases response.json with
      | error e => exact ⟨none, rfl, hnone⟩
      | ok json => exact ⟨schema json, rfl, fun a ha => ⟨json, ha⟩⟩

lemma hostId_of_validateTicketResponse {json : Json} {record : ResolvedTicket}
    (h : validateTicketResponse json = some record) : record.hostId ≠ [] := by
  unfold validateTicketResponse at h
  split at h
  · split at h
    · cases h
    · next hne =>
      obtain ⟨expiresAt, -, rfl⟩ := Option.map_eq_some_iff.1 h
      exact hne
  · cases h

lemma resolveTicket_total (fetchImpl : Fetch σ) (options : HttpAuthorizerOptions) (ticket : JsString) (s : σ) :
    ∃ result, (resolveTicket fetchImpl options ticket s).2 = .ok result ∧ ∀ record ∈ result, record.hostId ≠ [] := by
  obtain ⟨result, hresult, hschema⟩ := parseResponse_total
    (post fetchImpl options "/internal/relay/validate-ticket" (.obj [(js "ticket", .str ticket)]) s).2
    validateTicketResponse
  refine ⟨result, hresult, fun record hrecord => ?_⟩
  obtain ⟨json, hjson⟩ := hschema record hrecord
  exact hostId_of_validateTicketResponse hjson

lemma length_of_decodeKey {text : JsString} {key : Bytes} (h : decodeKey text = some key) : key.length = 32 := by
  unfold decodeKey at h
  dsimp only at h
  split at h
  · cases h
  · next hkey =>
    cases h
    rw [Bool.or_eq_true, not_or, decide_eq_true_eq, not_not] at hkey
    exact hkey.1

lemma keyBytes_eq (text : Option JsString) : keyBytes text = .ok (text.bind decodeKey) := by
  cases text with
  | none => rfl
  | some text =>
    rw [keyBytes, decodeKeyOrThrow, Option.bind_some]
    cases decodeKey text <;> rfl

lemma hostStaticPublicKey_total (fetchImpl : Fetch σ) (options : HttpAuthorizerOptions) (hostId : JsString)
    (s : σ) : ∃ result, (hostStaticPublicKey fetchImpl options hostId s).2 = .ok result ∧
      ∀ key ∈ result, key.length = 32 := by
  obtain ⟨text, htext, -⟩ := parseResponse_total
    (post fetchImpl options "/internal/relay/host-key" (.obj [(js "hostId", .str hostId)]) s).2 hostKeyResponse
  refine ⟨text.bind decodeKey, ?_, fun key hkey => ?_⟩
  · rw [← keyBytes_eq, hostStaticPublicKey, htext]
    rfl
  · obtain ⟨t, -, hdecode⟩ := Option.bind_eq_some_iff.1 hkey
    exact length_of_decodeKey hdecode

/-! ## Header values -/

lemma sendHeader_of_isHeaderValue {value : JsString} (h : isHeaderValue value = true) :
    sendHeader value = .ok value := by
  rw [isHeaderValue, Bool.and_eq_true, beq_iff_eq] at h
  rw [sendHeader, h.2, if_pos h.1]
  rfl

lemma infix_stripBlanks (value : JsString) : ∃ front back, value = front ++ stripBlanks value ++ back ∧
    (∀ u ∈ front, isHeaderBlank u = true) ∧ ∀ u ∈ back, isHeaderBlank u = true := by
  refine ⟨value.takeWhile isHeaderBlank,
    ((value.dropWhile isHeaderBlank).reverse.takeWhile isHeaderBlank).reverse, ?_, ?_, ?_⟩
  · rw [stripBlanks, List.append_assoc, ← List.reverse_append, List.takeWhile_append_dropWhile,
      List.reverse_reverse, List.takeWhile_append_dropWhile]
  · exact fun u hu => List.mem_takeWhile_imp hu
  · exact fun u hu => List.mem_takeWhile_imp (List.mem_reverse.1 hu)

lemma isWellFormed_of_bytes {s : JsString} (h : ∀ u ∈ s, u ≤ 0xFF) : isWellFormed s = true := by
  induction s with
  | nil => rfl
  | cons u s ih =>
    have hu : u.toNat ≤ 0xFF := UInt16.le_iff_toNat_le.1 (h u List.mem_cons_self)
    have hhigh : isHighSurrogate u = false := by
      by_contra hhigh
      have hrange := toNat_of_high (by simpa using hhigh)
      omega
    have hlow : isLowSurrogate u = false := by
      by_contra hlow
      have hrange := toNat_of_low (by simpa using hlow)
      omega
    rw [isWellFormed_cons hhigh, hlow, ih fun v hv => h v (List.mem_cons_of_mem u hv)]
    rfl

lemma le_of_isHeaderUnit {u : UInt16} (h : isHeaderUnit u = true) : u ≤ 0xFF := by
  simp only [isHeaderUnit, Bool.or_eq_true, Bool.and_eq_true, decide_eq_true_eq, beq_iff_eq] at h
  rcases h with (rfl | ⟨-, h⟩) | ⟨-, h⟩
  · decide
  · exact UInt16.le_trans h (by decide)
  · exact h

lemma le_of_isHeaderBlank {u : UInt16} (h : isHeaderBlank u = true) : u ≤ 0xFF := by
  simp only [isHeaderBlank, Bool.or_eq_true, beq_iff_eq] at h
  rcases h with ((rfl | rfl) | rfl) | rfl <;> decide

lemma isHeaderValue_of_sendHeader {key value : JsString} (hsend : sendHeader key = .ok value)
    (hequal : utf8 value = utf8 key) : isHeaderValue key = true := by
  unfold sendHeader at hsend
  split at hsend
  · next hunits =>
    obtain rfl : stripBlanks key = value := Except.ok.inj hsend
    rw [List.all_eq_true] at hunits
    obtain ⟨front, back, hkey, hfront, hback⟩ := infix_stripBlanks key
    have hbytes : ∀ u ∈ key, u ≤ 0xFF := by
      intro u hu
      rw [hkey] at hu
      rcases List.mem_append.1 hu with hu | hu
      · rcases List.mem_append.1 hu with hu | hu
        · exact le_of_isHeaderBlank (hfront u hu)
        · exact le_of_isHeaderUnit (hunits u hu)
      · exact le_of_isHeaderBlank (hback u hu)
    have hsame : stripBlanks key = key :=
      utf8_inj (isWellFormed_of_bytes fun u hu => le_of_isHeaderUnit (hunits u hu)) (isWellFormed_of_bytes hbytes)
        hequal
    rw [hsame] at hunits
    rw [isHeaderValue, hsame, beq_self_eq_true, Bool.and_true, List.all_eq_true]
    exact hunits
  · cases hsend

/-! ## What a fault can do -/

/-- A reply whose status and body agree: what is no success has no body that the schema accepts. -/
structure Answers {α : Type} (schema : Json → Option α) (reply : HttpReply) : Prop where
  object : ∃ fields, reply.body = .obj fields
  canonical : reply.body.canonical id
  refusal : reply.status ≠ 200 → schema reply.body = none

lemma json_received {reply : HttpReply} (h : reply.body.canonical id) : (received reply).json = .ok reply.body := by
  have hdecoded : decodeJson id (utf8 (stringify reply.body)) = some reply.body := decodeJson_utf8 h
  show (match decodeJson id (utf8 (stringify reply.body)) with
    | none => throw ()
    | some json => pure json : Except Unit Json) = _
  rw [hdecoded]
  rfl

lemma parseResponse_of_json {α : Type} {response : Response} {json : Json} (schema : Json → Option α)
    (h : response.json = .ok json) :
    parseResponse (some response) schema = .ok (if response.status = 200 then schema json else none) := by
  rw [parseResponse, h]
  by_cases hstatus : response.status = 200
  · rw [if_neg (not_not.2 hstatus), if_pos hstatus]
    rfl
  · rw [if_pos hstatus, if_neg hstatus]
    rfl

lemma Answers.parse {α : Type} {schema : Json → Option α} {reply : HttpReply} (h : Answers schema reply) :
    parseResponse (some (received reply)) schema = .ok (schema reply.body) := by
  rw [parseResponse_of_json schema (json_received h.canonical)]
  by_cases hstatus : reply.status = 200
  · exact congrArg _ (if_pos hstatus)
  · rw [h.refusal hstatus]
    exact congrArg _ (if_neg hstatus)

lemma parseResponse_of_error {α : Type} {response : Response} (schema : Json → Option α)
    (h : response.json = .error ()) : parseResponse (some response) schema = .ok none := by
  rw [parseResponse, h]
  split <;> rfl

lemma decodeUtf8_eq_readText {bytes : Bytes} (h : (readText bytes).head? ≠ some 0xFEFF) :
    decodeUtf8 bytes = readText bytes := by
  unfold readText at h ⊢
  unfold decodeUtf8 dropByteOrderMark
  split
  · next rest hpoints =>
    rw [hpoints] at h
    exact absurd rfl h
  · rfl

lemma decodeJson_cut {fields : List (JsString × Json)} (h : (Json.obj fields).canonical id) {n : ℕ}
    (hn : n < (utf8 (stringify (.obj fields))).length) :
    decodeJson id ((utf8 (stringify (.obj fields))).take n) = none := by
  have hwell : isWellFormed (stringify (.obj fields)) = true := (stands_stringify _ h).1
  have htext : stringify (.obj fields) = 0x7B :: stringifyFields fields ++ [0x7D] := rfl
  have hbalanced : Balanced (stringifyFields fields) := by
    have hparse : parseJson id (stringify (.obj fields)) = some (.obj fields) := parseJson_stringify h
    rw [htext] at hparse
    exact balanced_inside hparse
  obtain ⟨front, rest, torn, hsplit, hrest, htorn, hforeign, hread⟩ := readText_torn (t := []) rfl hwell hn
  rw [show utf8 [] = [] from rfl, List.nil_append, List.nil_append] at hread
  rw [htext] at hsplit
  cases front with
  | nil =>
    -- a cut in front of the brace leaves nothing
    have hnone : torn = [] := by
      by_contra hne
      rw [List.nil_append] at hsplit
      have hbrace := hforeign hne 0x7B (by rw [← hsplit]; rfl)
      revert hbrace
      decide
    rw [hnone] at hread
    rw [decodeJson, decodeUtf8_eq_readText (by rw [hread]; exact Option.some_ne_none 0xFEFF |>.symm), hread]
    rfl
  | cons u front =>
    have hu : u = 0x7B := (List.cons.inj hsplit).1.symm
    have hhead : (readText ((utf8 (stringify (.obj fields))).take n)).head? ≠ some 0xFEFF := by
      rw [hread, hu, List.cons_append, List.head?_cons, Ne, Option.some_inj]
      decide
    rw [decodeJson, decodeUtf8_eq_readText hhead, hread]
    cases hparse : parseJson id (u :: front ++ torn) with
    | none => rfl
    | some j =>
      have hascii : ∀ v ∈ torn, 0x80 ≤ v := by
        intro v hv
        rw [htorn v hv]
        decide
      exact absurd (balanced_of_parseJson hparse)
        (not_balanced_of_cut hbalanced hsplit.symm (List.cons_ne_nil u front) hrest hascii)

lemma Answers.fault {α : Type} {schema : Json → Option α} {reply : HttpReply} (h : Answers schema reply)
    (fault : TransportFault) :
    parseResponse (caught (fault.response (received reply))) schema = .ok none ∨
      parseResponse (caught (fault.response (received reply))) schema = .ok (schema reply.body) := by
  obtain ⟨fields, hobject⟩ := h.object
  cases fault with
  | requestLost => exact .inl rfl
  | replyLost => exact .inl rfl
  | status code =>
    have hjson : ({ received reply with status := code } : Response).json = .ok reply.body :=
      json_received h.canonical
    show parseResponse (some { received reply with status := code }) schema = _ ∨
      parseResponse (some { received reply with status := code }) schema = _
    rw [parseResponse_of_json schema hjson]
    by_cases hcode : code = 200
    · exact .inr (congrArg _ (if_pos hcode))
    · exact .inl (congrArg _ (if_neg hcode))
  | bodyFails => exact .inl (parseResponse_of_error schema rfl)
  | cut length =>
    by_cases hcut : length < (utf8 (stringify reply.body)).length
    · left
      rw [hobject] at hcut
      have hcanonical := h.canonical
      rw [hobject] at hcanonical
      apply parseResponse_of_error
      show (match decodeJson id ((utf8 (stringify reply.body)).take length) with
        | none => throw ()
        | some json => pure json : Except Unit Json) = _
      rw [hobject, decodeJson_cut hcanonical hcut]
      rfl
    · right
      have hwhole : (TransportFault.cut length).response (received reply) = .ok (received reply) := by
        show (.ok ⟨reply.status, .ok ((utf8 (stringify reply.body)).take length)⟩ : Except Unit Response) = _
        rw [List.take_of_length_le (Nat.le_of_not_lt hcut)]
        rfl
      rw [hwhole]
      exact h.parse

end Pherry.Relay
