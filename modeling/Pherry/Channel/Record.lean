import Pherry.Crypto
import Pherry.Lib.Chunks

/-!
# Frames and records

A frame is a tag and a payload; a record is a sealed frame. `Sealer` and `Opener` number the
records of one direction, and the number is all that enters the nonce besides the direction's
prefix: `nonceFor_inj` is why no two records of a session share a nonce.
-/

namespace Pherry.Channel

open Lib

/-! ## Frames -/

/-- The lane of a frame. -/
inductive FrameTag
  | control
  | binary
deriving DecidableEq, Repr

/-- The byte a lane is encoded as. -/
def FrameTag.toByte : FrameTag → UInt8
  | control => 0x01
  | binary => 0x02

/-- A tagged, opaque message. -/
structure ChannelFrame where
  tag : FrameTag
  payload : Bytes
deriving DecidableEq

/-- `encodeFrame`. -/
def encodeFrame (frame : ChannelFrame) : Bytes := frame.tag.toByte :: frame.payload

/-- Why a channel failed. -/
inductive ChannelError
  | publicKeyLength (label : String)
  | invalidPublicKey (label : String)
  | recordTooLong (length : ℕ)
  | replay
  | decrypt
  | emptyFrame
  | unknownFrameTag (tag : UInt8)
  | callbackThrew

/-- `decodeFrame`. -/
def decodeFrame : Bytes → Except ChannelError ChannelFrame
  | [] => .error .emptyFrame
  | tag :: payload =>
    if tag = FrameTag.control.toByte then .ok ⟨.control, payload⟩
    else if tag = FrameTag.binary.toByte then .ok ⟨.binary, payload⟩
    else .error (.unknownFrameTag tag)

@[simp] lemma decodeFrame_encodeFrame (frame : ChannelFrame) :
    decodeFrame (encodeFrame frame) = .ok frame := by
  obtain ⟨tag, payload⟩ := frame
  cases tag <;> rfl

/-! ## Numbers -/

/-- `Number.MAX_SAFE_INTEGER`. -/
def maxSafeInteger : ℕ := 2 ^ 53 - 1

/-- Adding 1 to a number that counts: at `2 ^ 53` the sum rounds back. -/
def increment (n : ℕ) : ℕ := if n ≤ maxSafeInteger then n + 1 else n

/-! ## Nonces -/

/-- `TAG_BYTES`. -/
def tagBytes : ℕ := 16

/-- `NONCE_PREFIX_BYTES`. -/
def noncePrefixBytes : ℕ := 16

/-- The two record directions. -/
inductive Direction
  | initiatorToResponder
  | responderToInitiator
deriving Repr

def Direction.toByte : Direction → UInt8
  | initiatorToResponder => 0x00
  | responderToInitiator => 0x01

/-- XChaCha20-Poly1305: a record is as long as its plaintext and a tag, and what is shorter than a
tag does not open. -/
structure Aead where
  encrypt : Bytes → Bytes → Bytes → Bytes
  decrypt : Bytes → Bytes → Bytes → Option Bytes
  length_encrypt : ∀ key nonce plaintext,
    (encrypt key nonce plaintext).length = plaintext.length + tagBytes
  decrypt_short : ∀ key nonce record, record.length < tagBytes → decrypt key nonce record = none

/-- `noncePrefix`. -/
def noncePrefix (crypto : Crypto) (sessionId : Bytes) (direction : Direction) : Bytes :=
  (crypto.sha256 (sessionId ++ [direction.toByte])).take noncePrefixBytes

/-- `nonceFor`: the prefix and the counter as two big-endian halves. -/
def nonceFor (noncePrefix : Bytes) (counter : ℕ) : Bytes :=
  noncePrefix ++ (uint32BE (counter / 2 ^ 32) ++ uint32BE counter)

lemma uint32BE_inj {m n : ℕ} (h : uint32BE m = uint32BE n) : m % 2 ^ 32 = n % 2 ^ 32 := by
  rw [← bigEndian_uint32BE, ← bigEndian_uint32BE, h]

lemma nonceFor_inj {p q : Bytes} {m n : ℕ} (hm : m < 2 ^ 64) (hn : n < 2 ^ 64)
    (h : nonceFor p m = nonceFor q n) : p = q ∧ m = n := by
  obtain ⟨hlabel, hcounter⟩ := List.append_inj' h rfl
  obtain ⟨hhigh, hlow⟩ := List.append_inj' hcounter rfl
  have hhigh := uint32BE_inj hhigh
  have hlow := uint32BE_inj hlow
  refine ⟨hlabel, ?_⟩
  omega

/-! ## Sealing -/

/-- Encrypts one direction's records. -/
structure Sealer where
  key : Bytes
  noncePrefix : Bytes
  counter : ℕ

/-- A sealer of one direction of a session. -/
def Sealer.new (crypto : Crypto) (key sessionId : Bytes) (direction : Direction) : Sealer :=
  { key, noncePrefix := Channel.noncePrefix crypto sessionId direction, counter := 0 }

/-- The nonce of the next record. -/
def Sealer.nonce (s : Sealer) : Bytes := nonceFor s.noncePrefix s.counter

/-- `seal`: `none` where it throws, the counter being exhausted. -/
def Sealer.seal (aead : Aead) (s : Sealer) (frameBytes : Bytes) : Option (Bytes × Sealer) :=
  if s.counter ≤ maxSafeInteger then
    some (aead.encrypt s.key s.nonce frameBytes, { s with counter := increment s.counter })
  else none

lemma Sealer.seal_eq_some {aead : Aead} {s s' : Sealer} {record frameBytes : Bytes}
    (h : s.seal aead frameBytes = some (record, s')) :
    s.counter ≤ maxSafeInteger ∧ record = aead.encrypt s.key s.nonce frameBytes ∧
      s'.key = s.key ∧ s'.noncePrefix = s.noncePrefix ∧ s'.counter = s.counter + 1 := by
  unfold Sealer.seal at h
  split at h
  · next hcounter =>
    cases h
    exact ⟨hcounter, rfl, rfl, rfl, if_pos hcounter⟩
  · cases h

/-! ## Opening -/

/-- Decrypts one direction's records, in order. -/
structure Opener where
  key : Bytes
  noncePrefix : Bytes
  counter : ℕ
  lastTag : Option Bytes

/-- An opener of one direction of a session. -/
def Opener.new (crypto : Crypto) (key sessionId : Bytes) (direction : Direction) : Opener :=
  { key, noncePrefix := Channel.noncePrefix crypto sessionId direction, counter := 0,
    lastTag := none }

/-- The nonce of the next record. -/
def Opener.nonce (s : Opener) : Bytes := nonceFor s.noncePrefix s.counter

/-- `recordTagEquals`. -/
def recordTagEquals (record tag : Bytes) : Bool :=
  if record.length < tagBytes then false
  else constantTimeEqual (record.drop (record.length - tagBytes)) tag

/-- Whether the record ends in the tag of the previous one. -/
def Opener.isReplay (s : Opener) (record : Bytes) : Bool :=
  match s.lastTag with
  | none => false
  | some lastTag => recordTagEquals record lastTag

/-- `open`. -/
def Opener.open (aead : Aead) (s : Opener) (record : Bytes) :
    Except ChannelError (Bytes × Opener) :=
  if s.isReplay record then .error .replay
  else
    match aead.decrypt s.key s.nonce record with
    | none => .error .decrypt
    | some frameBytes =>
      .ok (frameBytes,
        { s with
          counter := increment s.counter
          lastTag := some (record.drop (record.length - tagBytes)) })

lemma Opener.open_eq_ok {aead : Aead} {s s' : Opener} {record frameBytes : Bytes}
    (h : s.open aead record = .ok (frameBytes, s')) :
    aead.decrypt s.key s.nonce record = some frameBytes ∧ s'.key = s.key ∧
      s'.noncePrefix = s.noncePrefix ∧ s'.counter = increment s.counter := by
  unfold Opener.open at h
  split at h
  · cases h
  · split at h
    · cases h
    · next hdecrypt =>
      cases h
      exact ⟨hdecrypt, rfl, rfl, rfl⟩

end Pherry.Channel
