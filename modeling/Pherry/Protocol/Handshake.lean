import Mathlib.Data.Int.Notation
import Pherry.Js

/-!
# The protocol handshake

The controller's `Hello`, the host's `HelloAck`, and the two decisions made from them: whether the
versions can talk, and which capabilities are active.
-/

namespace Pherry.Protocol

/-- `PROTOCOL_VERSION`. -/
def protocolVersion : ℤ := 2

/-- `MIN_COMPATIBLE_VERSION`. -/
def minCompatibleVersion : ℤ := 2

/-- Why two versions cannot talk. -/
inductive Incompatible
  | peerTooOld
  | selfTooOld

/-- `evaluateCompat`. -/
def evaluateCompat (peerVersion : ℤ) : Except Incompatible Unit :=
  if peerVersion < minCompatibleVersion then .error .peerTooOld
  else if peerVersion > protocolVersion then .error .selfTooOld
  else .ok ()

/-- The two peer roles. -/
inductive PeerRole
  | host
  | controller
deriving DecidableEq

/-- The opening frame of a controller. -/
structure Hello where
  role : PeerRole
  protocol : ℤ
  capabilities : List JsString
  publicKey : JsString
  deviceKeyId : JsString
  deviceAuth : JsString
deriving DecidableEq

/-- The host's answer. The bytes are those `publicKey` is the base64 of. -/
structure HelloAck where
  protocol : ℤ
  capabilities : List JsString
  publicKey : Bytes

/-- `negotiate`: the capabilities of `a` that `b` offers, each once, in the order of `a`. -/
def negotiate (a b : List JsString) : List JsString :=
  a.foldl (fun active cap => if cap ∈ b ∧ cap ∉ active then active ++ [cap] else active) []

end Pherry.Protocol
