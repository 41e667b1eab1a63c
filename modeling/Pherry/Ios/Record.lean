import Pherry.Channel.Record

/-!
# The phone's records

Frames, nonces, `RecordSealer` and `RecordOpener` as the phone has them: the counter is a machine word
that wraps, and a record is compared with the tag of the one before it.
-/

namespace Pherry.Ios

open Lib Channel

/-- Why a channel of the phone failed. -/
inductive ChannelError
  | handshakeFailed (reason : String)
  | decryptFailed
  | replayDetected
  | recordTooLarge
  | notOpen
  | closed

/-! ## Frames -/

/-- The byte of a tag. -/
def rawValue : FrameTag → UInt8
  | .control => 0x01
  | .binary => 0x02

/-- `FrameTag(rawValue:)`. -/
def frameTag (rawValue : UInt8) : Option FrameTag :=
  if rawValue = 0x01 then some .control
  else if rawValue = 0x02 then some .binary
  else none

namespace FrameCodec

/-- `encode`. -/
def encode (frame : ChannelFrame) : Bytes := [rawValue frame.tag] ++ frame.payload

/-- `decode`. -/
def decode : Bytes → Except ChannelError ChannelFrame
  | [] => .error (.handshakeFailed "channel frame is empty")
  | first :: payload =>
    match frameTag first with
    | none => .error (.handshakeFailed "unknown channel frame tag")
    | some tag => .ok ⟨tag, payload⟩

end FrameCodec

/-! ## Nonces -/

/-- `recordTagBytes`. -/
def recordTagBytes : ℕ := 16

namespace RecordNonce

/-- `prefixBytes`. -/
def prefixBytes : ℕ := 16

/-- The prefix of a direction. -/
def directionPrefix (crypto : Crypto) (sessionId : Bytes) (direction : Direction) : Bytes :=
  let rawValue : UInt8 := match direction with
    | .initiatorToResponder => 0x00
    | .responderToInitiator => 0x01
  (crypto.sha256 (sessionId ++ [rawValue])).take prefixBytes

/-- `nonce`: the prefix and the eight bytes of the counter. -/
def nonce (directionPrefix : Bytes) (counter : ℕ) : Bytes :=
  directionPrefix ++ [56, 48, 40, 32, 24, 16, 8, 0].map fun shift => UInt8.ofNat (counter / 2 ^ shift % 256)

end RecordNonce

/-! ## Sealing and opening -/

/-- Encrypts one direction's records. -/
structure RecordSealer where
  key : Bytes
  noncePrefix : Bytes
  counter : ℕ

/-- A sealer of one direction of a session. -/
def RecordSealer.new (crypto : Crypto) (key sessionId : Bytes) (direction : Direction) : RecordSealer :=
  { key, noncePrefix := RecordNonce.directionPrefix crypto sessionId direction, counter := 0 }

/-- `seal`. -/
def RecordSealer.seal (aead : Aead) (s : RecordSealer) (frameBytes : Bytes) : Bytes × RecordSealer :=
  (aead.encrypt s.key (RecordNonce.nonce s.noncePrefix s.counter) frameBytes,
    { s with counter := (s.counter + 1) % 2 ^ 64 })

/-- Decrypts one direction's records, in order. -/
structure RecordOpener where
  key : Bytes
  noncePrefix : Bytes
  counter : ℕ
  lastTag : Option Bytes

/-- An opener of one direction of a session. -/
def RecordOpener.new (crypto : Crypto) (key sessionId : Bytes) (direction : Direction) : RecordOpener :=
  { key, noncePrefix := RecordNonce.directionPrefix crypto sessionId direction, counter := 0,
    lastTag := none }

/-- The last bytes of a record. -/
def recordTag (record : Bytes) : Bytes := record.drop (record.length - recordTagBytes)

/-- `open`. -/
def RecordOpener.open (aead : Aead) (s : RecordOpener) (record : Bytes) :
    Except ChannelError (Bytes × RecordOpener) :=
  if s.lastTag.any fun lastTag => recordTagBytes ≤ record.length ∧ recordTag record = lastTag then
    .error .replayDetected
  else
    match aead.decrypt s.key (RecordNonce.nonce s.noncePrefix s.counter) record with
    | none => .error .decryptFailed
    | some plaintext =>
      .ok (plaintext,
        { s with
          counter := (s.counter + 1) % 2 ^ 64
          lastTag := some (recordTag record) })

/-! ## The records of the SDK -/

lemma encode_eq (frame : ChannelFrame) : FrameCodec.encode frame = encodeFrame frame := by
  obtain ⟨tag, payload⟩ := frame
  cases tag <;> rfl

lemma decode_toOption (bytes : Bytes) :
    (FrameCodec.decode bytes).toOption = (decodeFrame bytes).toOption := by
  cases bytes with
  | nil => rfl
  | cons first payload =>
    rw [FrameCodec.decode, decodeFrame, frameTag]
    by_cases hcontrol : first = 0x01
    · rw [if_pos hcontrol, if_pos (show first = FrameTag.control.toByte from hcontrol)]
      rfl
    · rw [if_neg hcontrol, if_neg (show ¬ first = FrameTag.control.toByte from hcontrol)]
      by_cases hbinary : first = 0x02
      · rw [if_pos hbinary, if_pos (show first = FrameTag.binary.toByte from hbinary)]
        rfl
      · rw [if_neg hbinary, if_neg (show ¬ first = FrameTag.binary.toByte from hbinary)]
        rfl

lemma directionPrefix_eq (crypto : Crypto) (sessionId : Bytes) (direction : Direction) :
    RecordNonce.directionPrefix crypto sessionId direction = noncePrefix crypto sessionId direction := by
  cases direction <;> rfl

lemma nonce_eq (directionPrefix : Bytes) (counter : ℕ) :
    RecordNonce.nonce directionPrefix counter = nonceFor directionPrefix counter := by
  have hbyte : ∀ n, UInt8.ofNat (n % 256) = UInt8.ofNat n := by
    intro n
    rw [← UInt8.toNat_inj, UInt8.toNat_ofNat', UInt8.toNat_ofNat']
    omega
  rw [RecordNonce.nonce, nonceFor, uint32BE, uint32BE, Nat.div_div_eq_div_mul, Nat.div_div_eq_div_mul,
    Nat.div_div_eq_div_mul]
  simp [hbyte]

end Pherry.Ios
