import Pherry.Cli.JsonFile
import Pherry.Host.Gate
import Pherry.Lib.ReadModifyWrite
import Pherry.Protocol.DeviceAuth

/-!
# The keyring of authorized devices

`~/.pherry/devices.json`: which device keys may steer this machine. A device is enrolled and revoked
by processes that each read the file and write it whole, and the gate of a relay connection reads it
for every claim.
-/

namespace Pherry.Cli

open Lib Protocol
open Host (DeviceAuthClaim)

/-! ## The file -/

/-- An enrolled device. -/
structure AuthorizedDevice where
  deviceKeyId : JsString
  publicKeyB64 : JsString
  label : JsString
  enrolledAt : JsString
  revokedAt : Option JsString
deriving DecidableEq

/-- No text of a device is empty. -/
structure AuthorizedDevice.WellFormed (d : AuthorizedDevice) : Prop where
  deviceKeyId : d.deviceKeyId ≠ []
  publicKeyB64 : d.publicKeyB64 ≠ []
  label : d.label ≠ []
  enrolledAt : d.enrolledAt ≠ []
  revokedAt : ∀ at_, d.revokedAt = some at_ → at_ ≠ []

/-- `parseEntry`. -/
def parseDevice (value : Json) (index : ℕ) (place : JsString) : Except JsString AuthorizedDevice :=
  if isRecord value then do
    let string (field : String) :=
      requireString (value.get (js field)) (entryField (js "devices") index field) place
    let deviceKeyId ← string "deviceKeyId"
    let publicKeyB64 ← string "publicKeyB64"
    let label ← string "label"
    let enrolledAt ← string "enrolledAt"
    match value.get (js "revokedAt") with
    | none => return ⟨deviceKeyId, publicKeyB64, label, enrolledAt, none⟩
    | some _ =>
      let revokedAt ← string "revokedAt"
      return ⟨deviceKeyId, publicKeyB64, label, enrolledAt, some revokedAt⟩
  else .error (place ++ js ": devices[" ++ js (toString index) ++ js "] must be an object")

/-- What `JSON.stringify` writes of a device. -/
def AuthorizedDevice.toJson (d : AuthorizedDevice) : Json :=
  .obj ([(js "deviceKeyId", .str d.deviceKeyId), (js "publicKeyB64", .str d.publicKeyB64),
    (js "label", .str d.label), (js "enrolledAt", .str d.enrolledAt)] ++
    (d.revokedAt.map fun at_ => (js "revokedAt", Json.str at_)).toList)

/-- `devices.json`. -/
def devicesFile : RecordFile AuthorizedDevice :=
  { name := js "device keyring", key := js "devices", parseEntry := parseDevice
    toJson := AuthorizedDevice.toJson }

/-- `readAuthorizedDevices`. -/
def readAuthorizedDevices (path : JsString) (file : FileContent) :
    Except JsString (List AuthorizedDevice) :=
  devicesFile.read path file

/-- `lookupAuthorizedDevice`. -/
def lookupAuthorizedDevice (deviceKeyId path : JsString) (file : FileContent) :
    Except JsString (Option AuthorizedDevice) := do
  let devices ← readAuthorizedDevices path file
  return devices.find? fun device => device.deviceKeyId = deviceKeyId

/-! ## Enrollment and revocation -/

/-- `DEVICE_PUBLIC_KEY_BYTES`. -/
def devicePublicKeyBytes : ℕ := 65

/-- `DEVICE_AUTH_SIGNATURE_BYTES`. -/
def deviceAuthSignatureBytes : ℕ := 64

/-- What the keyring imports: the hash, and the curve, whose `verify` throws where this is an
error. -/
structure DeviceCrypto where
  sha256 : Bytes → Bytes
  isValidPublicKey : Bytes → Bool
  verify : Bytes → Bytes → Bytes → Except JsString Bool

/-- The check of a key before it lands on disk. -/
def isEnrollable (env : DeviceCrypto) (publicKeyB64 : JsString) : Bool :=
  let key := bufferFromBase64 publicKeyB64
  key.length == devicePublicKeyBytes && base64 key == publicKeyB64 && env.isValidPublicKey key

/-- `writeAuthorizedDevice`: the file behind it. -/
def writeAuthorizedDevice (env : DeviceCrypto) (c : Collation) (path : JsString)
    (entry : AuthorizedDevice) (file : FileContent) : Except JsString FileContent :=
  if isEnrollable env entry.publicKeyB64 then do
    let devices ← readAuthorizedDevices path file
    return devicesFile.written (replaceEntry c AuthorizedDevice.deviceKeyId entry devices)
  else .error (js "refusing to enroll device " ++ entry.deviceKeyId ++
    js ": not a canonical uncompressed P-256 public key")

/-- Mark the first entry of an id as revoked. -/
def revokeFirst (deviceKeyId now : JsString) : List AuthorizedDevice → Option (List AuthorizedDevice)
  | [] => none
  | device :: rest =>
    if device.deviceKeyId = deviceKeyId then some ({ device with revokedAt := some now } :: rest)
    else (revokeFirst deviceKeyId now rest).map (device :: ·)

/-- `revokeAuthorizedDevice`: the file behind it, where the id was enrolled. -/
def revokeAuthorizedDevice (path deviceKeyId now : JsString) (file : FileContent) :
    Except JsString (Option FileContent) := do
  let devices ← readAuthorizedDevices path file
  return (revokeFirst deviceKeyId now devices).map devicesFile.written

/-! ## Verification -/

/-- The part of the verification inside its `try`. -/
def verifyStatement (env : DeviceCrypto) (hostId : JsString) (claim : DeviceAuthClaim)
    (signature publicKey : Bytes) : Except JsString Bool :=
  if h : claim.sessionId.length = 32 then
    env.verify signature
      (env.sha256 (deviceAuthMessage ⟨claim.sessionId, h⟩ hostId claim.deviceKeyId)) publicKey
  else .error (js "device auth: expected a 32-byte session id, got " ++
    js (toString claim.sessionId.length))

/-- `buildVerifyDevice`: the answer to a claim. -/
def buildVerifyDevice (env : DeviceCrypto) (path hostId : JsString) (file : FileContent)
    (claim : DeviceAuthClaim) : Except JsString Bool :=
  match lookupAuthorizedDevice claim.deviceKeyId path file with
  | .error _ => .ok false
  | .ok none => .ok false
  | .ok (some device) =>
    if device.revokedAt ≠ none then .ok false
    else
      let publicKey := bufferFromBase64 device.publicKeyB64
      let signature := bufferFromBase64 claim.deviceAuth
      if publicKey.length ≠ devicePublicKeyBytes ∨ signature.length ≠ deviceAuthSignatureBytes then
        .ok false
      else
        match verifyStatement env hostId claim signature publicKey with
        | .error _ => .ok false
        | .ok answer => .ok answer

/-! ## What is read and written -/

lemma get_toJson (d : AuthorizedDevice) :
    d.toJson.get (js "deviceKeyId") = some (.str d.deviceKeyId) ∧
      d.toJson.get (js "publicKeyB64") = some (.str d.publicKeyB64) ∧
      d.toJson.get (js "label") = some (.str d.label) ∧
      d.toJson.get (js "enrolledAt") = some (.str d.enrolledAt) ∧
      d.toJson.get (js "revokedAt") = d.revokedAt.map Json.str := by
  obtain ⟨deviceKeyId, publicKeyB64, label, enrolledAt, revokedAt⟩ := d
  cases revokedAt with
  | none => exact ⟨rfl, rfl, rfl, rfl, rfl⟩
  | some at_ => exact ⟨rfl, rfl, rfl, rfl, rfl⟩

lemma parseDevice_toJson {d : AuthorizedDevice} (h : d.WellFormed) (index : ℕ) (place : JsString) :
    parseDevice d.toJson index place = .ok d := by
  obtain ⟨hid, hkey, hlabel, henrolled, hrevoked⟩ := get_toJson d
  have hrecord : isRecord d.toJson = true := rfl
  rw [parseDevice, if_pos hrecord]
  simp only [hid, hkey, hlabel, henrolled, hrevoked, requireString_str h.deviceKeyId,
    requireString_str h.publicKeyB64, requireString_str h.label, requireString_str h.enrolledAt]
  obtain ⟨deviceKeyId, publicKeyB64, label, enrolledAt, revokedAt⟩ := d
  cases revokedAt with
  | none => rfl
  | some at_ =>
    simp only [Option.map_some, requireString_str (h.revokedAt at_ rfl)]
    rfl

lemma wellFormed_of_parseDevice {value : Json} {index : ℕ} {place : JsString}
    {d : AuthorizedDevice} (h : parseDevice value index place = .ok d) : d.WellFormed := by
  unfold parseDevice at h
  split at h
  · simp only [bind, Except.bind] at h
    split at h
    · cases h
    next _ deviceKeyId hid =>
    split at h
    · cases h
    next _ publicKeyB64 hkey =>
    split at h
    · cases h
    next _ label hlabel =>
    split at h
    · cases h
    next _ enrolledAt henrolled =>
    split at h
    · cases h
      exact ⟨ne_nil_of_requireString hid, ne_nil_of_requireString hkey,
        ne_nil_of_requireString hlabel, ne_nil_of_requireString henrolled, by simp⟩
    · split at h
      · cases h
      next _ revokedAt hrevoked =>
      cases h
      refine ⟨ne_nil_of_requireString hid, ne_nil_of_requireString hkey,
        ne_nil_of_requireString hlabel, ne_nil_of_requireString henrolled, ?_⟩
      intro at_ hat
      cases hat
      exact ne_nil_of_requireString hrevoked
  · cases h

lemma devicesFile_lawful : devicesFile.Lawful AuthorizedDevice.WellFormed :=
  ⟨fun _ index place h => parseDevice_toJson h index place,
    fun _ _ _ _ h => wellFormed_of_parseDevice h⟩

/-- A revocation that finds its id marks the first entry of it and leaves all others. -/
lemma revokeFirst_spec {deviceKeyId now : JsString} {devices revoked : List AuthorizedDevice}
    (h : revokeFirst deviceKeyId now devices = some revoked) :
    revoked.map AuthorizedDevice.deviceKeyId = devices.map AuthorizedDevice.deviceKeyId ∧
      (∀ id, id ≠ deviceKeyId → entriesOf AuthorizedDevice.deviceKeyId id revoked =
        entriesOf AuthorizedDevice.deviceKeyId id devices) ∧
      (∃ d, (entriesOf AuthorizedDevice.deviceKeyId deviceKeyId revoked).head? = some d ∧
        d.revokedAt = some now) ∧
      (now ≠ [] → (∀ d ∈ devices, d.WellFormed) → ∀ d ∈ revoked, d.WellFormed) := by
  induction devices generalizing revoked with
  | nil => cases h
  | cons device rest ih =>
    rw [revokeFirst] at h
    split at h
    · next hid =>
      cases h
      refine ⟨rfl, fun id hne => ?_, ⟨{ device with revokedAt := some now }, ?_, rfl⟩, ?_⟩
      · have hother : ¬ device.deviceKeyId = id := fun heq => hne (heq ▸ hid)
        rw [entriesOf, entriesOf, List.filter_cons_of_neg (by simpa using hother),
          List.filter_cons_of_neg (by simpa using hother)]
      · rw [entriesOf, List.filter_cons_of_pos (by simpa using hid)]
        rfl
      · intro hnow hok d hd
        rcases List.mem_cons.1 hd with rfl | hd
        · obtain ⟨hkeyId, hkey, hlabel, henrolled, -⟩ := hok device List.mem_cons_self
          refine ⟨hkeyId, hkey, hlabel, henrolled, fun at_ hat => ?_⟩
          cases hat
          exact hnow
        · exact hok d (List.mem_cons_of_mem _ hd)
    · next hid =>
      obtain ⟨rest', hrest, rfl⟩ := Option.map_eq_some_iff.1 h
      obtain ⟨hkeys, hothers, ⟨d, hhead, hrevoked⟩, hok⟩ := ih hrest
      refine ⟨by rw [List.map_cons, List.map_cons, hkeys], fun id hne => ?_, ⟨d, ?_, hrevoked⟩, ?_⟩
      · have hsame := hothers id hne
        rw [entriesOf, entriesOf] at hsame ⊢
        rw [List.filter_cons, List.filter_cons, hsame]
      · rw [entriesOf, List.filter_cons_of_neg (by simpa using hid)]
        exact hhead
      · intro hnow hall other hother
        rcases List.mem_cons.1 hother with rfl | hother
        · exact hall _ List.mem_cons_self
        · exact hok hnow (fun d hd => hall d (List.mem_cons_of_mem _ hd)) other hother

lemma revokeFirst_eq_none {deviceKeyId now : JsString} {devices : List AuthorizedDevice}
    (h : revokeFirst deviceKeyId now devices = none) :
    entriesOf AuthorizedDevice.deviceKeyId deviceKeyId devices = [] := by
  induction devices with
  | nil => rfl
  | cons device rest ih =>
    rw [revokeFirst] at h
    split at h
    · cases h
    · next hid =>
      rw [entriesOf, List.filter_cons_of_neg (by simpa using hid)]
      exact ih (Option.map_eq_none_iff.1 h)

end Pherry.Cli
