import Pherry.Channel.SecureChannel
import Pherry.Utf8

/-!
# The RPC envelope

Requests, responses, and the JSON text a control frame carries.
-/

namespace Pherry.Protocol

/-! ## JSON -/

/-- A JSON value. A number is the text `String` makes of it; object keys keep their order. -/
inductive Json
  | null
  | bool (b : Bool)
  | num (text : JsString)
  | str (s : JsString)
  | arr (items : List Json)
  | obj (fields : List (JsString × Json))
deriving Repr

/-- An integer. -/
def Json.int (n : ℤ) : Json := .num (js (toString n))

/-- Four hexadecimal digits behind `\u`. -/
def unicodeEscape (u : UInt16) : JsString :=
  let digit (n : ℕ) : UInt16 := UInt16.ofNat (if n < 10 then 0x30 + n else 0x57 + n)
  js "\\u" ++ [digit (u.toNat / 0x1000), digit (u.toNat / 0x100 % 0x10),
    digit (u.toNat / 0x10 % 0x10), digit (u.toNat % 0x10)]

/-- One code unit that stands alone inside a JSON string. -/
def quoteUnit (u : UInt16) : JsString :=
  if u = 0x22 then js "\\\""
  else if u = 0x5C then js "\\\\"
  else if u = 0x08 then js "\\b"
  else if u = 0x09 then js "\\t"
  else if u = 0x0A then js "\\n"
  else if u = 0x0C then js "\\f"
  else if u = 0x0D then js "\\r"
  else if u < 0x20 ∨ isHighSurrogate u = true ∨ isLowSurrogate u = true then unicodeEscape u
  else [u]

/-- The inside of a JSON string. A surrogate pair is written as it is, a lone surrogate escaped. -/
def quoteUnits : JsString → JsString
  | [] => []
  | [u] => quoteUnit u
  | u :: v :: rest =>
    if isHighSurrogate u && isLowSurrogate v then u :: v :: quoteUnits rest
    else quoteUnit u ++ quoteUnits (v :: rest)

lemma quoteUnit_pos (u : UInt16) : 1 ≤ (quoteUnit u).length := by
  unfold quoteUnit
  repeat' split
  all_goals simp [js, unicodeEscape]

lemma length_le_quoteUnits (s : JsString) : s.length ≤ (quoteUnits s).length := by
  induction s using quoteUnits.induct with
  | case1 => exact le_refl 0
  | case2 u => exact quoteUnit_pos u
  | case3 u v rest hpair ih =>
    rw [quoteUnits, if_pos hpair, List.length_cons, List.length_cons, List.length_cons, List.length_cons]
    omega
  | case4 u v rest hpair ih =>
    have hunit := quoteUnit_pos u
    rw [quoteUnits, if_neg hpair, List.length_append, List.length_cons]
    omega

/-- A JSON string. -/
def quote (s : JsString) : JsString := [0x22] ++ quoteUnits s ++ [0x22]

mutual

/-- `JSON.stringify`. -/
def stringify : Json → JsString
  | .null => js "null"
  | .bool b => js (toString b)
  | .num text => text
  | .str s => quote s
  | .arr items => [0x5B] ++ stringifyItems items ++ [0x5D]
  | .obj fields => [0x7B] ++ stringifyFields fields ++ [0x7D]

/-- The items of an array, with commas between. -/
def stringifyItems : List Json → JsString
  | [] => []
  | [item] => stringify item
  | item :: next :: rest => stringify item ++ [0x2C] ++ stringifyItems (next :: rest)

/-- The fields of an object, with commas between. -/
def stringifyFields : List (JsString × Json) → JsString
  | [] => []
  | [(key, value)] => quote key ++ [0x3A] ++ stringify value
  | (key, value) :: next :: rest =>
    quote key ++ [0x3A] ++ stringify value ++ [0x2C] ++ stringifyFields (next :: rest)

end

example : stringify (.obj [(js "id", .str (js "a\"b")), (js "n", .arr [.int (-3), .null])]) =
    js "\x7b\"id\":\"a\\\"b\",\"n\":[-3,null]\x7d" := by decide

/-! ## Frames -/

/-- The error codes a failure may carry. -/
inductive ErrorCode
  | invalidRequest
  | unauthorized
  | forbidden
  | notFound
  | methodNotFound
  | invalidArgument
  | unavailable
  | versionIncompatible
  | internal
deriving Repr

/-- The code on the wire. -/
def ErrorCode.name : ErrorCode → JsString
  | invalidRequest => js "INVALID_REQUEST"
  | unauthorized => js "UNAUTHORIZED"
  | forbidden => js "FORBIDDEN"
  | notFound => js "NOT_FOUND"
  | methodNotFound => js "METHOD_NOT_FOUND"
  | invalidArgument => js "INVALID_ARGUMENT"
  | unavailable => js "UNAVAILABLE"
  | versionIncompatible => js "VERSION_INCOMPATIBLE"
  | internal => js "INTERNAL"

/-- A method call awaiting a response. An id or a method is not empty. -/
structure RpcRequest where
  id : JsString
  method : JsString
  params : Option Json

/-- The coded error of a failure. -/
structure ErrorBody where
  code : ErrorCode
  message : JsString
  data : Option Json

/-- A response. `stream` announces binary frames. -/
inductive Response
  | success (id : JsString) (result : Json) (stream : Bool)
  | failure (id : JsString) (error : ErrorBody)

namespace Response

/-- The request a response answers. -/
def id : Response → JsString
  | success id _ _ => id
  | failure id _ => id

/-- `failure` without data. -/
def failed (id : JsString) (code : ErrorCode) (message : JsString) : Response :=
  failure id ⟨code, message, none⟩

/-- The object of a response, its fields in the order the builders write them. -/
def toJson : Response → Json
  | success id result stream =>
    .obj ([(js "id", .str id), (js "ok", .bool true), (js "result", result)] ++
      if stream then [(js "stream", .bool true)] else [])
  | failure id error =>
    .obj [(js "id", .str id), (js "ok", .bool false),
      (js "error", .obj ([(js "code", .str error.code.name), (js "message", .str error.message)] ++
        match error.data with
        | some data => [(js "data", data)]
        | none => []))]

/-- The payload of the control frame. -/
def payload (r : Response) : Bytes := utf8 (stringify r.toJson)

lemma length_lt_failed (id : JsString) (code : ErrorCode) (message : JsString) :
    id.length + 30 ≤ (failed id code message).payload.length := by
  refine le_trans ?_ (length_le_utf8 _)
  have hid := length_le_quoteUnits id
  simp only [failed, toJson, stringify, stringifyFields, quote, List.length_append, List.length_singleton]
  have hkeys : (quoteUnits (js "id")).length + (quoteUnits (js "ok")).length +
      (quoteUnits (js "error")).length + (js (toString false)).length = 14 := by decide
  omega

end Response

/-- A control payload that `SecureChannel.send` does not refuse for its size. -/
def fitsRecord (payload : Bytes) : Prop :=
  Channel.recordOverheadBytes + payload.length ≤ Channel.maxRecordBytes

instance (payload : Bytes) : Decidable (fitsRecord payload) :=
  inferInstanceAs (Decidable (_ ≤ _))

end Pherry.Protocol
