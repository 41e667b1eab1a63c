import Pherry.Lib.Concurrent
import Pherry.Lib.Machine
import Pherry.Protocol.DeviceAuth

/-!
# The identity keys of a machine

`~/.pherry/host.key` and `~/.pherry/device.key`: a secret that is made on first use. Any number of
processes load or create it, each of which reads the file in one step, and opens and writes it in two
others; a crash cuts a write short.
-/

namespace Pherry.Cli

open Lib Protocol

/-! ## Keys -/

/-- `KeyPair`. -/
structure KeyPair where
  secretKey : Bytes
  publicKey : Bytes
deriving DecidableEq

/-- What the device key imports of the P-256 curve. -/
structure P256 where
  isValidSecretKey : Bytes → Bool
  getPublicKey : Bytes → Bytes

/-- A kind of identity key: which secrets there are, how a stored one is read, and whether the public
half is written beside it. What is read is the base64 of a secret. -/
structure KeyKind where
  isValid : Bytes → Bool
  decode : JsString → Except JsString Bytes
  publicKeyOf : Bytes → Bytes
  published : Bool
  decode_eq_ok : ∀ text key, decode text = .ok key ↔
    base64 key = text ∧ key.length = 32 ∧ isValid key = true
  length_publicKeyOf : published = true → ∀ key, (publicKeyOf key).length = 32

/-- What `decodeKey` throws. -/
def invalidChannelKey : JsString :=
  js "invalid channel key: expected canonical base64 of 32 bytes"

/-- `decodeKey`, where it throws. -/
def decodeChannelKey (text : JsString) : Except JsString Bytes :=
  match decodeKey text with
  | some key => .ok key
  | none => .error invalidChannelKey

/-- `decodeScalar`. -/
def decodeScalar (p256 : P256) (text path : JsString) : Except JsString Bytes :=
  let bytes := bufferFromBase64 text
  if bytes.length ≠ 32 ∨ base64 bytes ≠ text then
    .error (js "invalid device key at " ++ path ++ js ": expected canonical base64 of 32 bytes")
  else if !p256.isValidSecretKey bytes then
    .error (js "invalid device key at " ++ path ++ js ": not a valid P-256 secret scalar")
  else .ok bytes

lemma decodeChannelKey_eq_ok {text : JsString} {key : Bytes} :
    decodeChannelKey text = .ok key ↔ base64 key = text ∧ key.length = 32 := by
  have hread : bufferFromBase64 text = fromBase64 (text.filterMap base64Value) := rfl
  unfold decodeChannelKey decodeKey
  rw [← hread]
  dsimp only
  constructor
  · intro h
    split at h
    · next found hfound =>
      cases h
      split at hfound
      · cases hfound
      · next hkey =>
        cases hfound
        rw [Bool.or_eq_true, not_or, decide_eq_true_eq, decide_eq_true_eq, not_not, not_not] at hkey
        exact ⟨hkey.2, hkey.1⟩
    · cases h
  · rintro ⟨rfl, hlength⟩
    rw [bufferFromBase64_base64]
    simp [hlength]

lemma decodeScalar_eq_ok (p256 : P256) (path : JsString) {text : JsString} {key : Bytes} :
    decodeScalar p256 text path = .ok key ↔
      base64 key = text ∧ key.length = 32 ∧ p256.isValidSecretKey key = true := by
  unfold decodeScalar
  dsimp only
  constructor
  · intro h
    split at h
    · cases h
    · next hkey =>
      rw [not_or, not_not, not_not] at hkey
      split at h
      · cases h
      · next hvalid =>
        cases h
        exact ⟨hkey.2, hkey.1, by simpa using hvalid⟩
  · rintro ⟨rfl, hlength, hvalid⟩
    rw [bufferFromBase64_base64]
    simp [hlength, hvalid]

/-- `host.key`, an X25519 secret with its public half in `host.pub`. -/
def hostKey (crypto : Crypto) : KeyKind where
  isValid _ := true
  decode := decodeChannelKey
  publicKeyOf secretKey := (crypto.getPublicKey secretKey).1
  published := true
  decode_eq_ok _ _ := decodeChannelKey_eq_ok.trans (by simp)
  length_publicKeyOf _ key := (crypto.getPublicKey key).2

/-- `device.key`, a P-256 secret scalar. -/
def deviceKey (p256 : P256) (path : JsString) : KeyKind where
  isValid := p256.isValidSecretKey
  decode text := decodeScalar p256 text path
  publicKeyOf := p256.getPublicKey
  published := false
  decode_eq_ok _ _ := decodeScalar_eq_ok p256 path
  length_publicKeyOf h := Bool.noConfusion h

namespace KeyKind

variable (kind : KeyKind)

/-- A secret of the kind. -/
abbrev Secret := { key : Bytes // key.length = 32 ∧ kind.isValid key = true }

/-- The key pair of a secret. -/
def pairOf (secretKey : Bytes) : KeyPair := ⟨secretKey, kind.publicKeyOf secretKey⟩

end KeyKind

/-! ## The files -/

/-- `host.key` or `device.key`, and `host.pub`. -/
structure KeyFiles where
  secretFile : Option JsString
  publicFile : Option JsString

/-- What a file holds when a text is written from its start. -/
def overwrite (file : Option JsString) (text : JsString) : Option JsString :=
  some (text ++ (file.getD []).drop text.length)

/-- How far a call is: about to open a file for its key, or about to write it; returned with a key;
or ended, with what it threw. -/
inductive LoadStage
  | begun
  | creating (key : KeyPair)
  | storing (key : KeyPair)
  | publishing (key : KeyPair)
  | renewing (key : KeyPair)
  | returned (key : KeyPair)
  | ended (thrown : Option JsString)
deriving DecidableEq

namespace KeyKind

variable (kind : KeyKind)

/-- What a call that has its key does next. -/
def settled (key : KeyPair) : LoadStage :=
  if kind.published then .publishing key else .returned key

/-- The read of the secret. Where there is none, this secret is drawn. -/
def read (drawn : kind.Secret) (home : KeyFiles) : LoadStage → KeyFiles × LoadStage
  | .begun =>
    match home.secretFile with
    | none => (home, .creating (kind.pairOf drawn.1))
    | some existing =>
      match kind.decode (trim existing) with
      | .error message => (home, .ended (some message))
      | .ok secretKey => (home, kind.settled (kind.pairOf secretKey))
  | stage => (home, stage)

/-- A file is opened to be written, which truncates it. -/
def openFile (home : KeyFiles) : LoadStage → KeyFiles × LoadStage
  | .creating key => ({ home with secretFile := some [] }, .storing key)
  | .publishing key => ({ home with publicFile := some [] }, .renewing key)
  | stage => (home, stage)

/-- An open file is written. -/
def writeFile (home : KeyFiles) : LoadStage → KeyFiles × LoadStage
  | .storing key =>
    ({ home with secretFile := overwrite home.secretFile (base64 key.secretKey) }, kind.settled key)
  | .renewing key =>
    ({ home with publicFile := overwrite home.publicFile (base64 key.publicKey) }, .returned key)
  | stage => (home, stage)

/-- A crash, so far into the write of an open file. -/
def crash (n : ℕ) (home : KeyFiles) : LoadStage → KeyFiles × LoadStage
  | .storing key =>
    ({ home with secretFile := overwrite home.secretFile ((base64 key.secretKey).take n) }, .ended none)
  | .renewing key =>
    ({ home with publicFile := overwrite home.publicFile ((base64 key.publicKey).take n) }, .ended none)
  | .returned key => (home, .returned key)
  | .ended thrown => (home, .ended thrown)
  | _ => (home, .ended none)

/-- The key pair that a load gives. -/
def load (home : KeyFiles) : Option KeyPair :=
  match home.secretFile with
  | none => none
  | some existing =>
    match kind.decode (trim existing) with
    | .error _ => none
    | .ok secretKey => some (kind.pairOf secretKey)

end KeyKind

/-- `readHostPublicKey`. -/
def readHostPublicKey (path : JsString) (home : KeyFiles) : Except JsString Bytes :=
  match home.publicFile with
  | none => .error (js "no host public key at " ++ path ++ js " — run `pherry run` first")
  | some text => decodeChannelKey (trim text)

/-! ## Calls by any number of processes -/

/-- The files, and the calls on them. -/
abbrev KeyHome := Concurrent KeyFiles LoadStage

/-- A call begins or takes a step, its process crashes, or the public key is read. -/
inductive KeyHomeEvent (kind : KeyKind)
  | begin
  | read (i : ℕ) (drawn : kind.Secret)
  | openFile (i : ℕ)
  | writeFile (i : ℕ)
  | crash (i : ℕ) (n : ℕ)
  | pin

/-- One event. -/
def KeyKind.step (kind : KeyKind) (s : KeyHome) : KeyHomeEvent kind → KeyHome
  | .begin => s.start .begun
  | .read i drawn => s.advance i (kind.read drawn)
  | .openFile i => s.advance i KeyKind.openFile
  | .writeFile i => s.advance i kind.writeFile
  | .crash i n => s.advance i (KeyKind.crash n)
  | .pin => s

/-- Any number of calls on a new home directory. -/
def keyHomeMachine (kind : KeyKind) : Machine KeyHome (KeyHomeEvent kind) := ⟨⟨⟨none, none⟩, []⟩, kind.step⟩

/-- `loadOrCreateHostKey`, by any number of processes. -/
def loadOrCreateHostKey (crypto : Crypto) : Machine KeyHome (KeyHomeEvent (hostKey crypto)) :=
  keyHomeMachine (hostKey crypto)

/-- `loadOrCreateDeviceKey`, by any number of processes. -/
def loadOrCreateDeviceKey (p256 : P256) (path : JsString) :
    Machine KeyHome (KeyHomeEvent (deviceKey p256 path)) :=
  keyHomeMachine (deviceKey p256 path)

end Pherry.Cli
