import Pherry.Crypto

/-!
# The outer coordination messages

The messages a host, a controller and a cell exchange before a bridge is spliced. A field the
schema restricts has a type that carries the restriction: a ticket matches its regular expression,
a base64 field is the 32 bytes it is the canonical encoding of.
-/

namespace Pherry.RelayCore

/-- `RELAY_FIELD_BYTES`: bytes in a nonce, an ephemeral public key and a MAC. -/
def relayFieldBytes : ℕ := 32

/-- A lowercase hexadecimal digit. -/
def isLowerHex (u : UInt16) : Bool := (0x30 ≤ u && u ≤ 0x39) || (0x61 ≤ u && u ≤ 0x66)

/-- `TICKET_RE`: `tkt_` and 32 lowercase hexadecimal digits. -/
def matchesTicket (s : JsString) : Bool :=
  s.take 4 == [0x74, 0x6B, 0x74, 0x5F] && (s.drop 4).length == 32 && (s.drop 4).all isLowerHex

/-- A one-time connection ticket. -/
abbrev Ticket := { s : JsString // matchesTicket s = true }

/-- The ticket whose 32 digits are all `d`. -/
def Ticket.repeat (d : UInt16) (h : isLowerHex d = true) : Ticket :=
  ⟨[0x74, 0x6B, 0x74, 0x5F] ++ List.replicate 32 d, by
    simp [matchesTicket, h]⟩

/-- `RELAY_CLOSE_CODES`: why a `close` was sent. -/
inductive RelayCloseCode
  | unknownHost
  | proofFailed
  | badTicket
  | ticketExpired
  | ticketReused
  | bridgeTimeout
  | dataAuthFailed
  | drained
  | protocolError
deriving DecidableEq

/-- Which end of a bridge a data connection is. -/
inductive DataRole
  | host
  | controller
deriving DecidableEq

/-- A coordination message, discriminated on `t`. -/
inductive OuterMessage
  | hostHello (hostId : JsString)
  | hostChallenge (cellId : JsString) (nonce cellEphemeralPub : Bytes32)
  | hostProof (mac : Bytes32)
  | hostRegistered (hostId : JsString)
  | connOpen (ticket : Ticket) (nonce : Bytes32)
  | dataAuth (role : DataRole) (ticket : Ticket) (mac : Option Bytes32)
  | dataReady
  | drain
  | close (code : RelayCloseCode) (reason : Option JsString)
deriving DecidableEq

end Pherry.RelayCore
