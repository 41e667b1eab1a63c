import Pherry.RelayCore.Messages

/-!
# The host proof and the data-leg key

The challenge-response that registers a host, and the key the same Diffie-Hellman secret yields
for authenticating the host's data connections.
-/

namespace Pherry.RelayCore

/-- `PROOF_INFO`. -/
def proofInfo : Bytes := ascii "pherry/relay-core/v1/host-proof"

/-- `TRANSCRIPT_LABEL`. -/
def transcriptLabel : Bytes := ascii "pherry/relay-core/v1"

/-- `DATA_AUTH_LABEL`. -/
def dataAuthLabel : Bytes := ascii "pherry/relay-core/v1/host-data-auth"

/-- `SEPARATOR`. -/
def separator : Bytes := [0x00]

/-- A registration challenge with the cell's ephemeral secret. -/
structure HostChallengeSecret where
  cellId : JsString
  nonce : Bytes32
  cellEphemeralPub : Bytes32
  cellEphemeralSecret : Bytes

variable (crypto : Crypto)

/-- Mint a challenge from a fresh ephemeral secret and nonce. -/
def makeChallenge (cellId : JsString) (ephemeralSecret : Bytes) (nonce : Bytes32) :
    HostChallengeSecret :=
  { cellId, nonce, cellEphemeralPub := crypto.getPublicKey ephemeralSecret,
    cellEphemeralSecret := ephemeralSecret }

/-- The transcript a host proof authenticates. -/
def proofTranscript (hostId : JsString) (challenge : HostChallengeSecret) : Bytes :=
  transcriptLabel ++ utf8 hostId ++ separator ++ utf8 challenge.cellId ++ separator
    ++ challenge.nonce.1 ++ challenge.cellEphemeralPub.1

/-- The MAC of the transcript under the key the shared secret yields. -/
def computeMac (dh : Bytes) (hostId : JsString) (challenge : HostChallengeSecret) : Bytes :=
  crypto.hmac (crypto.hkdf dh challenge.nonce.1 proofInfo relayFieldBytes)
    (proofTranscript hostId challenge)

/-- Verify a returned proof; an unusable key yields `false`. -/
def verifyProof (challenge : HostChallengeSecret) (hostId : JsString) (hostStaticPub mac : Bytes) :
    Bool :=
  match crypto.getSharedSecret challenge.cellEphemeralSecret hostStaticPub with
  | none => false
  | some dh => constantTimeEqual (computeMac crypto dh hostId challenge) mac

/-- The data-leg key of a shared secret and the registration nonce. -/
def deriveDataAuthKey (dh nonce : Bytes) : Bytes :=
  crypto.hkdf dh nonce dataAuthLabel relayFieldBytes

/-- The cell's side of the data-leg key; `none` when the secret is unusable. -/
def cellDataAuthKey (challenge : HostChallengeSecret) (hostStaticPub : Bytes) : Option Bytes :=
  (crypto.getSharedSecret challenge.cellEphemeralSecret hostStaticPub).map fun dh =>
    deriveDataAuthKey crypto dh challenge.nonce.1

/-- The preimage of a data-leg MAC. -/
def dataAuthPreimage (cellId ticket : JsString) (bridgeNonce : Bytes) : Bytes :=
  dataAuthLabel ++ utf8 cellId ++ separator ++ utf8 ticket ++ separator ++ bridgeNonce

/-- The MAC binding a host data connection to its registration, cell, ticket and nonce. -/
def dataAuthMac (kData : Bytes) (cellId ticket : JsString) (bridgeNonce : Bytes) : Bytes :=
  crypto.hmac kData (dataAuthPreimage cellId ticket bridgeNonce)

/-- Whether `mac` is that MAC. -/
def verifyDataAuthMac (kData : Bytes) (cellId ticket : JsString) (bridgeNonce mac : Bytes) :
    Bool :=
  constantTimeEqual (dataAuthMac crypto kData cellId ticket bridgeNonce) mac

end Pherry.RelayCore
