import Pherry.Protocol.DeviceAuth
import Pherry.Protocol.JsonText
import Pherry.RelayCore.OuterFrame

/-!
# The codec of the outer messages

The JSON object of a message, the schema that reads one, and the frame around it.
`decodeOuterMessage_encode` is the round trip of one message.
-/

namespace Pherry.RelayCore

open Lib
open Protocol

/-! ## Writing -/

/-- A code as `close` carries it. -/
def RelayCloseCode.name : RelayCloseCode → JsString
  | unknownHost => js "unknown-host"
  | proofFailed => js "proof-failed"
  | badTicket => js "bad-ticket"
  | ticketExpired => js "ticket-expired"
  | ticketReused => js "ticket-reused"
  | bridgeTimeout => js "bridge-timeout"
  | dataAuthFailed => js "data-auth-failed"
  | drained => js "drained"
  | protocolError => js "protocol-error"

/-- A role as `data-auth` carries it. -/
def DataRole.name : DataRole → JsString
  | host => js "host"
  | controller => js "controller"

/-- `MessageType`: the tags of the messages. -/
inductive MessageType
  | hostHello
  | hostChallenge
  | hostProof
  | hostRegistered
  | connOpen
  | dataAuth
  | dataReady
  | drain
  | close

/-- A tag as a message carries it. -/
def MessageType.name : MessageType → JsString
  | hostHello => js "host-hello"
  | hostChallenge => js "host-challenge"
  | hostProof => js "host-proof"
  | hostRegistered => js "host-registered"
  | connOpen => js "conn-open"
  | dataAuth => js "data-auth"
  | dataReady => js "data-ready"
  | drain => js "drain"
  | close => js "close"

/-- A base64 field. -/
def base64Json (bytes : Bytes32) : Json := .str (base64 bytes.1)

/-- A field that is left out when it is `undefined`. -/
def optionalField {α : Type*} (key : JsString) (write : α → Json) :
    Option α → List (JsString × Json)
  | some value => [(key, write value)]
  | none => []

namespace OuterMessage

/-- The tag of a message. -/
def t : OuterMessage → MessageType
  | hostHello _ => .hostHello
  | hostChallenge _ _ _ => .hostChallenge
  | hostProof _ => .hostProof
  | hostRegistered _ => .hostRegistered
  | connOpen _ _ => .connOpen
  | dataAuth _ _ _ => .dataAuth
  | dataReady => .dataReady
  | drain => .drain
  | close _ _ => .close

/-- The fields behind the tag, in the order of the schema. -/
def fields : OuterMessage → List (JsString × Json)
  | hostHello hostId => [(js "v", .num (js "1")), (js "hostId", .str hostId)]
  | hostChallenge cellId nonce cellEphemeralPub =>
    [(js "cellId", .str cellId), (js "nonceB64", base64Json nonce),
      (js "cellEphemeralPubB64", base64Json cellEphemeralPub)]
  | hostProof mac => [(js "macB64", base64Json mac)]
  | hostRegistered hostId => [(js "hostId", .str hostId)]
  | connOpen ticket nonce => [(js "ticket", .str ticket.1), (js "nonceB64", base64Json nonce)]
  | dataAuth role ticket mac =>
    [(js "role", .str role.name), (js "ticket", .str ticket.1)] ++
      optionalField (js "macB64") base64Json mac
  | dataReady => []
  | drain => []
  | close code reason =>
    (js "code", .str code.name) :: optionalField (js "reason") Json.str reason

/-- The object of a message. -/
def toJson (m : OuterMessage) : Json := .obj ((js "t", .str m.t.name) :: m.fields)

/-- What the schema asks of a message beyond its type: an id is not empty. -/
def valid : OuterMessage → Bool
  | hostHello hostId => !hostId.isEmpty
  | hostChallenge cellId _ _ => !cellId.isEmpty
  | hostRegistered hostId => !hostId.isEmpty
  | _ => true

end OuterMessage

/-- `encodeOuterMessageJson`; `none` where it throws. -/
def encodeOuterMessageJson (m : OuterMessage) : Option JsString :=
  if m.valid then some (stringify m.toJson) else none

/-- `encodeOuterMessage`; `none` where it throws. -/
def encodeOuterMessage (m : OuterMessage) : Option Bytes :=
  match encodeOuterMessageJson m with
  | none => none
  | some json => if (utf8 json).length > maxOuterMessageBytes then none else some (outerFrame (utf8 json))

/-! ## Reading -/

/-- A string that is not empty, `z.string().min(1)`. -/
def nonemptyString : Option Json → Option JsString
  | some (.str s) => if s.isEmpty then none else some s
  | _ => none

/-- `base64Bytes(RELAY_FIELD_BYTES)`: the canonical base64 of 32 bytes. -/
def base64Bytes : Option Json → Option Bytes32
  | some (.str text) =>
    if h : (bufferFromBase64 text).length = relayFieldBytes ∧
        base64 (bufferFromBase64 text) = text then
      some ⟨bufferFromBase64 text, h.1⟩
    else none
  | _ => none

/-- `Ticket`. -/
def ticketString : Option Json → Option Ticket
  | some (.str s) => if h : matchesTicket s = true then some ⟨s, h⟩ else none
  | _ => none

/-- `z.enum`, of the values with their names. -/
def enumeration {α : Type*} (values : List (JsString × α)) : Option Json → Option α
  | some (.str s) => (values.find? fun value => value.1 = s).map Prod.snd
  | _ => none

/-- `schema.optional()`. -/
def optionally {α : Type*} (schema : Option Json → Option α) : Option Json → Option (Option α)
  | none => some none
  | some value => (schema (some value)).map some

/-- Any string. -/
def anyString : Option Json → Option JsString
  | some (.str s) => some s
  | _ => none

/-- `z.literal(1)`. -/
def literalOne : Option Json → Option Unit
  | some (.num text) => if text = js "1" then some () else none
  | _ => none

/-- `RelayCloseCodeSchema`. -/
def relayCloseCodeSchema : Option Json → Option RelayCloseCode :=
  enumeration <| [RelayCloseCode.unknownHost, .proofFailed, .badTicket, .ticketExpired,
    .ticketReused, .bridgeTimeout, .dataAuthFailed, .drained, .protocolError].map
      fun code => (code.name, code)

/-- `z.enum(['host', 'controller'])`. -/
def dataRoleSchema : Option Json → Option DataRole :=
  enumeration <| [DataRole.host, .controller].map fun role => (role.name, role)

/-- The discriminator of the union. -/
def messageTypeSchema : Option Json → Option MessageType :=
  enumeration <| [MessageType.hostHello, .hostChallenge, .hostProof, .hostRegistered, .connOpen,
    .dataAuth, .dataReady, .drain, .close].map fun t => (t.name, t)

/-- `OuterMessage.parse`, discriminated on `t`. Keys that the schema does not name are let pass. -/
def OuterMessage.ofJson (json : Json) : Option OuterMessage := do
  match ← messageTypeSchema (json.get (js "t")) with
  | .hostHello =>
    literalOne (json.get (js "v"))
    return .hostHello (← nonemptyString (json.get (js "hostId")))
  | .hostChallenge =>
    return .hostChallenge (← nonemptyString (json.get (js "cellId")))
      (← base64Bytes (json.get (js "nonceB64")))
      (← base64Bytes (json.get (js "cellEphemeralPubB64")))
  | .hostProof => return .hostProof (← base64Bytes (json.get (js "macB64")))
  | .hostRegistered => return .hostRegistered (← nonemptyString (json.get (js "hostId")))
  | .connOpen =>
    return .connOpen (← ticketString (json.get (js "ticket")))
      (← base64Bytes (json.get (js "nonceB64")))
  | .dataAuth =>
    return .dataAuth (← dataRoleSchema (json.get (js "role")))
      (← ticketString (json.get (js "ticket")))
      (← optionally base64Bytes (json.get (js "macB64")))
  | .dataReady => return .dataReady
  | .drain => return .drain
  | .close =>
    return .close (← relayCloseCodeSchema (json.get (js "code")))
      (← optionally anyString (json.get (js "reason")))

variable (numberText : JsString → JsString)

/-- `decodeOuterMessage`; `none` where it throws. -/
def decodeOuterMessage (payload : Bytes) : Option OuterMessage :=
  (decodeJson numberText payload).bind OuterMessage.ofJson

/-! ## One message -/

lemma get_cons_self (key : JsString) (value : Json) (fields : List (JsString × Json)) :
    (Json.obj ((key, value) :: fields)).get key = some value := by
  simp [Json.get, Schema.field]

lemma get_cons_of_ne {key other : JsString} (h : other ≠ key) (value : Json)
    (fields : List (JsString × Json)) :
    (Json.obj ((other, value) :: fields)).get key = (Json.obj fields).get key := by
  simp [Json.get, Schema.field, h]

lemma nonemptyString_str {s : JsString} (h : (!s.isEmpty) = true) :
    nonemptyString (some (.str s)) = some s := by
  rw [Bool.not_eq_true'] at h
  rw [nonemptyString, if_neg (by rw [h]; decide)]

lemma base64Bytes_base64Json (bytes : Bytes32) :
    base64Bytes (some (base64Json bytes)) = some bytes := by
  have hback := bufferFromBase64_base64 bytes.1
  have hcanonical : (bufferFromBase64 (base64 bytes.1)).length = relayFieldBytes ∧
      base64 (bufferFromBase64 (base64 bytes.1)) = base64 bytes.1 := by
    rw [hback]
    exact ⟨bytes.2, rfl⟩
  rw [base64Json, base64Bytes, dif_pos hcanonical]
  exact congrArg some (Subtype.ext hback)

lemma ticketString_str (ticket : Ticket) : ticketString (some (.str ticket.1)) = some ticket := by
  rw [ticketString, dif_pos ticket.2]

lemma relayCloseCodeSchema_name (code : RelayCloseCode) :
    relayCloseCodeSchema (some (.str code.name)) = some code := by
  cases code <;> decide

lemma dataRoleSchema_name (role : DataRole) :
    dataRoleSchema (some (.str role.name)) = some role := by
  cases role <;> decide

lemma messageTypeSchema_name (t : MessageType) :
    messageTypeSchema (some (.str t.name)) = some t := by
  cases t <;> rfl

lemma get_optionalField {α : Type*} (key : JsString) (write : α → Json) (value : Option α) :
    (Json.obj (optionalField key write value)).get key = value.map write := by
  cases value with
  | none => rfl
  | some value => exact get_cons_self key (write value) []

lemma optionally_map {α : Type*} {schema : Option Json → Option α} {write : α → Json}
    (h : ∀ value, schema (some (write value)) = some value) (value : Option α) :
    optionally schema (value.map write) = some value := by
  cases value with
  | none => rfl
  | some value => rw [Option.map_some, optionally, h, Option.map_some]

lemma optionally_anyString (value : Option JsString) :
    optionally anyString (value.map Json.str) = some value :=
  optionally_map (fun _ => rfl) value

lemma ofJson_toJson {m : OuterMessage} (h : m.valid = true) :
    OuterMessage.ofJson m.toJson = some m := by
  have hone : literalOne (some (.num (js "1"))) = some () := by rw [literalOne, if_pos rfl]
  have htag : messageTypeSchema (m.toJson.get (js "t")) = some m.t := by
    rw [OuterMessage.toJson, get_cons_self, messageTypeSchema_name]
  have hkey : ∀ key, js "t" ≠ key → m.toJson.get key = (Json.obj m.fields).get key :=
    fun key hne => get_cons_of_ne hne _ _
  rw [OuterMessage.ofJson, htag]
  cases m with
  | hostHello hostId =>
    have hv := hkey (js "v") (by decide)
    have hid := hkey (js "hostId") (by decide)
    rw [OuterMessage.fields, get_cons_self] at hv
    rw [OuterMessage.fields, get_cons_of_ne (by decide), get_cons_self] at hid
    simp only [OuterMessage.t, Option.bind_eq_bind, Option.bind_some, hv, hid, hone, nonemptyString_str h]
    rfl
  | hostChallenge cellId nonce cellEphemeralPub =>
    have hid := hkey (js "cellId") (by decide)
    have hnonce := hkey (js "nonceB64") (by decide)
    have hpub := hkey (js "cellEphemeralPubB64") (by decide)
    rw [OuterMessage.fields, get_cons_self] at hid
    rw [OuterMessage.fields, get_cons_of_ne (by decide), get_cons_self] at hnonce
    rw [OuterMessage.fields, get_cons_of_ne (by decide), get_cons_of_ne (by decide),
      get_cons_self] at hpub
    simp only [OuterMessage.t, Option.bind_eq_bind, Option.bind_some, hid, hnonce, hpub,
      nonemptyString_str h, base64Bytes_base64Json]
    rfl
  | hostProof mac =>
    have hmac := hkey (js "macB64") (by decide)
    rw [OuterMessage.fields, get_cons_self] at hmac
    simp only [OuterMessage.t, Option.bind_eq_bind, Option.bind_some, hmac, base64Bytes_base64Json]
    rfl
  | hostRegistered hostId =>
    have hid := hkey (js "hostId") (by decide)
    rw [OuterMessage.fields, get_cons_self] at hid
    simp only [OuterMessage.t, Option.bind_eq_bind, Option.bind_some, hid, nonemptyString_str h]
    rfl
  | connOpen ticket nonce =>
    have hticket := hkey (js "ticket") (by decide)
    have hnonce := hkey (js "nonceB64") (by decide)
    rw [OuterMessage.fields, get_cons_self] at hticket
    rw [OuterMessage.fields, get_cons_of_ne (by decide), get_cons_self] at hnonce
    simp only [OuterMessage.t, Option.bind_eq_bind, Option.bind_some, hticket, hnonce,
      ticketString_str, base64Bytes_base64Json]
    rfl
  | dataAuth role ticket mac =>
    have hrole := hkey (js "role") (by decide)
    have hticket := hkey (js "ticket") (by decide)
    have hmac := hkey (js "macB64") (by decide)
    rw [OuterMessage.fields, List.cons_append, List.cons_append, List.nil_append] at hrole hticket hmac
    rw [get_cons_self] at hrole
    rw [get_cons_of_ne (by decide), get_cons_self] at hticket
    rw [get_cons_of_ne (by decide), get_cons_of_ne (by decide), get_optionalField] at hmac
    simp only [OuterMessage.t, Option.bind_eq_bind, Option.bind_some, hrole, hticket, hmac,
      dataRoleSchema_name, ticketString_str, optionally_map base64Bytes_base64Json]
    rfl
  | dataReady => rfl
  | drain => rfl
  | close code reason =>
    have hcode := hkey (js "code") (by decide)
    have hreason := hkey (js "reason") (by decide)
    rw [OuterMessage.fields, get_cons_self] at hcode
    rw [OuterMessage.fields, get_cons_of_ne (by decide), get_optionalField] at hreason
    simp only [OuterMessage.t, Option.bind_eq_bind, Option.bind_some, hcode, hreason,
      relayCloseCodeSchema_name, optionally_anyString]
    rfl

variable {numberText}

lemma canonicalFields_optionalField {α : Type*} (key : JsString) {write : α → Json}
    (h : ∀ value, (write value).canonical numberText) (value : Option α) :
    canonicalFields numberText (optionalField key write value) := by
  cases value with
  | none => trivial
  | some value => exact ⟨h value, trivial⟩

lemma nodup_keys (m : OuterMessage) :
    (((js "t", Json.str m.t.name) :: m.fields).map Prod.fst).Nodup := by
  cases m with
  | hostHello hostId => exact (by decide : [js "t", js "v", js "hostId"].Nodup)
  | hostChallenge cellId nonce cellEphemeralPub =>
    exact (by decide : [js "t", js "cellId", js "nonceB64", js "cellEphemeralPubB64"].Nodup)
  | hostProof mac => exact (by decide : [js "t", js "macB64"].Nodup)
  | hostRegistered hostId => exact (by decide : [js "t", js "hostId"].Nodup)
  | connOpen ticket nonce => exact (by decide : [js "t", js "ticket", js "nonceB64"].Nodup)
  | dataAuth role ticket mac =>
    cases mac with
    | none => exact (by decide : [js "t", js "role", js "ticket"].Nodup)
    | some mac => exact (by decide : [js "t", js "role", js "ticket", js "macB64"].Nodup)
  | dataReady => exact (by decide : [js "t"].Nodup)
  | drain => exact (by decide : [js "t"].Nodup)
  | close code reason =>
    cases reason with
    | none => exact (by decide : [js "t", js "code"].Nodup)
    | some reason => exact (by decide : [js "t", js "code", js "reason"].Nodup)

lemma canonical_toJson (hone : numberText (js "1") = js "1") (m : OuterMessage) :
    m.toJson.canonical numberText := by
  have hversion : isNaturalText (js "1") := ⟨by decide, by decide, by decide⟩
  have hstring : ∀ s, (Json.str s).canonical numberText := fun _ => trivial
  have hbytes : ∀ bytes, (base64Json bytes).canonical numberText := fun _ => trivial
  refine ⟨nodup_keys m, trivial, ?_⟩
  cases m with
  | hostHello hostId => exact ⟨⟨hversion, hone⟩, trivial, trivial⟩
  | hostChallenge cellId nonce cellEphemeralPub => exact ⟨trivial, trivial, trivial, trivial⟩
  | hostProof mac => exact ⟨trivial, trivial⟩
  | hostRegistered hostId => exact ⟨trivial, trivial⟩
  | connOpen ticket nonce => exact ⟨trivial, trivial, trivial⟩
  | dataAuth role ticket mac =>
    exact ⟨trivial, trivial, canonicalFields_optionalField (js "macB64") hbytes mac⟩
  | dataReady => trivial
  | drain => trivial
  | close code reason =>
    exact ⟨trivial, canonicalFields_optionalField (js "reason") hstring reason⟩

/-- **One message.** What is encoded is the frame of a payload under the cap, and the payload is
decoded to the message. -/
theorem decodeOuterMessage_encode (hone : numberText (js "1") = js "1") {m : OuterMessage}
    {frame : Bytes} (h : encodeOuterMessage m = some frame) :
    ∃ payload, frame = outerFrame payload ∧ payload.length ≤ maxOuterMessageBytes ∧
      decodeOuterMessage numberText payload = some m := by
  unfold encodeOuterMessage encodeOuterMessageJson at h
  by_cases hvalid : m.valid = true
  · rw [if_pos hvalid] at h
    simp only at h
    split at h
    · cases h
    · next hcap =>
      refine ⟨utf8 (stringify m.toJson), (Option.some.inj h).symm, by omega, ?_⟩
      rw [decodeOuterMessage, decodeJson_utf8 (canonical_toJson hone m), Option.bind_some, ofJson_toJson hvalid]
  · rw [if_neg hvalid] at h
    cases h

end Pherry.RelayCore
