import Pherry.Channel.Record

/-!
# The handshake

Each side sends an ephemeral public key and folds the peer's into two shared secrets, from which
one HKDF pass derives the record keys of both directions and the session id.
-/

namespace Pherry.Channel

/-- `KEY_BYTES`. -/
def keyBytes : ℕ := 32

/-- The symmetric secrets of a session. -/
structure SessionKeys where
  keyI2R : Bytes
  keyR2I : Bytes
  sessionId : Bytes

def saltLabel : Bytes := ascii "pherry/channel/v1/salt"

def hkdfInfo : Bytes := ascii "pherry/channel/v1"

/-- `deriveSessionKeys`. -/
def deriveSessionKeys (crypto : Crypto)
    (dhEE dhES initiatorEphemeralPub responderEphemeralPub context : Bytes) : SessionKeys :=
  let ikm := dhEE ++ dhES
  let salt := crypto.sha256 (saltLabel ++ initiatorEphemeralPub ++ responderEphemeralPub ++ context)
  let okm := crypto.hkdf ikm salt hkdfInfo (32 * 2 + 32)
  { keyI2R := okm.take 32
    keyR2I := (okm.drop 32).take 32
    sessionId := (okm.drop 64).take 32 }

/-- The static key a side brings: the initiator the responder's pinned public key, the responder
its own secret key. -/
inductive StaticKey
  | pinned (hostStatic : Bytes)
  | own (secretKey : Bytes)
deriving DecidableEq

/-- A handshake in progress. An absent context is an empty one. -/
structure Handshake where
  message : Bytes
  ephemeralSecret : Bytes
  static : StaticKey
  context : Bytes
deriving DecidableEq

/-- `initiatorHandshake` with this ephemeral secret; `none` where it throws. -/
def initiatorHandshake (crypto : Crypto) (ephemeralSecret pinnedHostStatic context : Bytes) :
    Option Handshake :=
  if pinnedHostStatic.length ≠ keyBytes then none
  else some
    { message := (crypto.getPublicKey ephemeralSecret).1
      ephemeralSecret, static := .pinned pinnedHostStatic, context }

/-- `responderHandshake` with this ephemeral secret. -/
def responderHandshake (crypto : Crypto) (ephemeralSecret ownStaticSecret context : Bytes) :
    Handshake :=
  { message := (crypto.getPublicKey ephemeralSecret).1
    ephemeralSecret, static := .own ownStaticSecret, context }

/-- `dh`. -/
def dh (crypto : Crypto) (ownSecret peerPublic : Bytes) (label : String) :
    Except ChannelError Bytes :=
  if peerPublic.length ≠ keyBytes then .error (.publicKeyLength label)
  else
    match crypto.getSharedSecret ownSecret peerPublic with
    | some secret => .ok secret
    | none => .error (.invalidPublicKey label)

/-- Zero-fill the ephemeral secret. -/
def Handshake.wipe (h : Handshake) : Handshake :=
  { h with ephemeralSecret := List.replicate h.ephemeralSecret.length 0 }

/-- `consume`: the session keys, and the handshake with its ephemeral secret wiped. -/
def Handshake.consume (crypto : Crypto) (h : Handshake) (peerMessage : Bytes) :
    Except ChannelError (SessionKeys × Handshake) := do
  let dhEE ← dh crypto h.ephemeralSecret peerMessage "dh_ee"
  match h.static with
  | .pinned hostStatic =>
    let dhES ← dh crypto h.ephemeralSecret hostStatic "dh_es"
    return (deriveSessionKeys crypto dhEE dhES h.message peerMessage h.context, h.wipe)
  | .own secretKey =>
    let dhES ← dh crypto secretKey peerMessage "dh_es"
    return (deriveSessionKeys crypto dhEE dhES peerMessage h.message h.context, h.wipe)

end Pherry.Channel
