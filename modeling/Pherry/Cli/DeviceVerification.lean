import Pherry.Cli.DeviceKeyring
import Pherry.RelayCore.Preimages

/-!
# What the verification of a device admits

`buildVerifyDevice_iff` says exactly which claims the gate of a relay connection lets in, whatever
the keyring holds. `deviceVerification_iff` adds the claims that were made elsewhere: none is let in
exactly when the host's id is the only one of its encoding.
-/

namespace Pherry.Cli

open Protocol
open Host (DeviceAuthClaim)

variable {env : DeviceCrypto} {path hostId : JsString} {file : FileContent} {claim : DeviceAuthClaim}

/-- The keyring parses, its first entry of the claimed id is not revoked, and the key of the entry
verifies the signature over the statement of this host, this session and this id. -/
def Genuine (env : DeviceCrypto) (path hostId : JsString) (file : FileContent)
    (claim : DeviceAuthClaim) : Prop :=
  ∃ devices device, ∃ h : claim.sessionId.length = 32,
    readAuthorizedDevices path file = .ok devices ∧
    devices.find? (fun d => d.deviceKeyId = claim.deviceKeyId) = some device ∧
    device.revokedAt = none ∧
    (bufferFromBase64 device.publicKeyB64).length = devicePublicKeyBytes ∧
    (bufferFromBase64 claim.deviceAuth).length = deviceAuthSignatureBytes ∧
    env.verify (bufferFromBase64 claim.deviceAuth)
      (env.sha256 (deviceAuthMessage ⟨claim.sessionId, h⟩ hostId claim.deviceKeyId))
      (bufferFromBase64 device.publicKeyB64) = .ok true

/-! ## One claim -/

lemma buildVerifyDevice_ok (env : DeviceCrypto) (path hostId : JsString) (file : FileContent)
    (claim : DeviceAuthClaim) : ∃ answer, buildVerifyDevice env path hostId file claim = .ok answer := by
  rw [buildVerifyDevice]
  cases lookupAuthorizedDevice claim.deviceKeyId path file with
  | error e => exact ⟨false, rfl⟩
  | ok found =>
    cases found with
    | none => exact ⟨false, rfl⟩
    | some device =>
      simp only
      split
      · exact ⟨false, rfl⟩
      · split
        · exact ⟨false, rfl⟩
        · split
          · exact ⟨false, rfl⟩
          · next answer _ => exact ⟨answer, rfl⟩

lemma lookupAuthorizedDevice_eq_some {deviceKeyId : JsString} {device : AuthorizedDevice} :
    lookupAuthorizedDevice deviceKeyId path file = .ok (some device) ↔
      ∃ devices, readAuthorizedDevices path file = .ok devices ∧
        devices.find? (fun d => d.deviceKeyId = deviceKeyId) = some device := by
  rw [lookupAuthorizedDevice]
  cases readAuthorizedDevices path file with
  | error e =>
    constructor
    · intro h
      cases h
    · rintro ⟨devices, hread, -⟩
      cases hread
  | ok devices =>
    constructor
    · intro h
      exact ⟨devices, rfl, Except.ok.inj h⟩
    · rintro ⟨devices', hread, hfind⟩
      cases hread
      exact congrArg Except.ok hfind

lemma buildVerifyDevice_iff :
    buildVerifyDevice env path hostId file claim = .ok true ↔ Genuine env path hostId file claim := by
  constructor
  · intro h
    rw [buildVerifyDevice] at h
    split at h
    · cases h
    · cases h
    · next device hlookup =>
      obtain ⟨devices, hread, hfind⟩ := lookupAuthorizedDevice_eq_some.1 hlookup
      split at h
      · cases h
      · next hrevoked =>
        simp only at h
        split at h
        · cases h
        · next hlengths =>
          rw [not_or, not_not, not_not] at hlengths
          split at h
          · cases h
          · next answer hanswer =>
            cases h
            rw [verifyStatement] at hanswer
            split at hanswer
            · next hsession =>
              exact ⟨devices, device, hsession, hread, hfind, not_not.1 hrevoked, hlengths.1,
                hlengths.2, hanswer⟩
            · cases hanswer
  · rintro ⟨devices, device, hsession, hread, hfind, hrevoked, hkey, hsignature, hverify⟩
    have hlookup := lookupAuthorizedDevice_eq_some.2 ⟨devices, hread, hfind⟩
    have hstatement : verifyStatement env hostId claim (bufferFromBase64 claim.deviceAuth)
        (bufferFromBase64 device.publicKeyB64) = .ok true := by
      rw [verifyStatement, dif_pos hsession]
      exact hverify
    rw [buildVerifyDevice, hlookup]
    simp only [hrevoked, hkey, hsignature, hstatement]
    simp

lemma buildVerifyDevice_eq_false (h : ¬ Genuine env path hostId file claim) :
    buildVerifyDevice env path hostId file claim = .ok false := by
  obtain ⟨answer, hanswer⟩ := buildVerifyDevice_ok env path hostId file claim
  cases answer with
  | false => exact hanswer
  | true => exact absurd (buildVerifyDevice_iff.1 hanswer) h

/-! ## Claims made elsewhere -/

/-- The claim as it was made on another session. -/
def onSession (claim : DeviceAuthClaim) (sessionId : Bytes) : DeviceAuthClaim :=
  { claim with sessionId := sessionId }

/-- Over every keyring and claim the verification admits the genuine claims, answers every other
with false, and with false every claim that is genuine for another host or session. -/
def DeviceVerification (env : DeviceCrypto) (hostId : JsString) : Prop :=
  ∀ (path : JsString) (file : FileContent) (claim : DeviceAuthClaim),
    (buildVerifyDevice env path hostId file claim = .ok true ↔ Genuine env path hostId file claim) ∧
    (¬ Genuine env path hostId file claim →
      buildVerifyDevice env path hostId file claim = .ok false) ∧
    ∀ hostId' sessionId', (hostId', sessionId') ≠ (hostId, claim.sessionId) →
      Genuine env path hostId' file (onSession claim sessionId') →
      buildVerifyDevice env path hostId file claim = .ok false

/-- A signature is one of a single message. -/
def SignsOne (env : DeviceCrypto) : Prop :=
  ∀ signature publicKey message message',
    env.verify signature (env.sha256 message) publicKey = .ok true →
    env.verify signature (env.sha256 message') publicKey = .ok true → message = message'

/-- Some device has signed a statement for the host. -/
def Signed (env : DeviceCrypto) (hostId : JsString) : Prop :=
  ∃ (sessionId : Bytes32) (deviceKeyId : JsString) (signature publicKey : Bytes),
    deviceKeyId ≠ [] ∧ publicKey.length = devicePublicKeyBytes ∧
    signature.length = deviceAuthSignatureBytes ∧
    env.verify signature (env.sha256 (deviceAuthMessage sessionId hostId deviceKeyId)) publicKey =
      .ok true

lemma deviceAuthMessage_inj {sessionId sessionId' : Bytes32} {hostId hostId' deviceKeyId : JsString}
    (h : deviceAuthMessage sessionId hostId deviceKeyId =
      deviceAuthMessage sessionId' hostId' deviceKeyId) :
    sessionId = sessionId' ∧ utf8 hostId = utf8 hostId' := by
  simp only [deviceAuthMessage] at h
  have hfront := List.append_cancel_right (List.append_cancel_right h)
  simp only [List.append_assoc] at hfront
  have hsession := List.append_cancel_left (List.append_cancel_left hfront)
  obtain ⟨hid, hhost⟩ := List.append_inj hsession (by rw [sessionId.2, sessionId'.2])
  exact ⟨Subtype.ext hid, List.append_cancel_left hhost⟩

lemma genuine_unique (hone : SignsOne env) {hostId' : JsString} {sessionId' : Bytes}
    (h : Genuine env path hostId file claim)
    (h' : Genuine env path hostId' file (onSession claim sessionId')) :
    claim.sessionId = sessionId' ∧ utf8 hostId = utf8 hostId' := by
  obtain ⟨devices, device, hsession, hread, hfind, -, -, -, hverify⟩ := h
  obtain ⟨devices', device', hsession', hread', hfind', -, -, -, hverify'⟩ := h'
  rw [hread] at hread'
  cases hread'
  have hsame : some device = some device' := hfind.symm.trans hfind'
  cases hsame
  have hmessage := hone _ _ _ _ hverify hverify'
  obtain ⟨hid, hhost⟩ := deviceAuthMessage_inj hmessage
  exact ⟨congrArg Subtype.val hid, hhost⟩

/-- The keyring of one device. -/
def oneDevice (deviceKeyId : JsString) (publicKey : Bytes) : AuthorizedDevice :=
  ⟨deviceKeyId, base64 publicKey, js "phone", js "2026-01-01T00:00:00.000Z", none⟩

lemma base64_ne_nil {bytes : Bytes} (h : bytes ≠ []) : base64 bytes ≠ [] := by
  intro hnil
  have hback := bufferFromBase64_base64 bytes
  rw [hnil] at hback
  exact h hback.symm

lemma phone_ne_nil : js "phone" ≠ [] ∧ js "2026-01-01T00:00:00.000Z" ≠ [] := by decide

lemma wellFormed_oneDevice {deviceKeyId : JsString} {publicKey : Bytes} (hid : deviceKeyId ≠ [])
    (hkey : publicKey ≠ []) : (oneDevice deviceKeyId publicKey).WellFormed :=
  ⟨hid, base64_ne_nil hkey, phone_ne_nil.1, phone_ne_nil.2, by simp [oneDevice]⟩

/-- What a device has signed for a host is genuine there, where the keyring finds the device. -/
lemma genuine_of_signed {sessionId : Bytes32} {deviceKeyId : JsString}
    {signature publicKey : Bytes} {devices : List AuthorizedDevice}
    (hread : readAuthorizedDevices path file = .ok devices)
    (hfind : devices.find? (fun d => d.deviceKeyId = deviceKeyId) =
      some (oneDevice deviceKeyId publicKey))
    (hkey : publicKey.length = devicePublicKeyBytes)
    (hsignature : signature.length = deviceAuthSignatureBytes)
    (hverify : env.verify signature (env.sha256 (deviceAuthMessage sessionId hostId deviceKeyId))
      publicKey = .ok true) :
    Genuine env path hostId file ⟨deviceKeyId, base64 signature, sessionId.1⟩ := by
  refine ⟨devices, oneDevice deviceKeyId publicKey, sessionId.2, hread, hfind, rfl, ?_, ?_, ?_⟩
  · show (bufferFromBase64 (base64 publicKey)).length = _
    rw [bufferFromBase64_base64, hkey]
  · show (bufferFromBase64 (base64 signature)).length = _
    rw [bufferFromBase64_base64, hsignature]
  · show env.verify (bufferFromBase64 (base64 signature)) _ (bufferFromBase64 (base64 publicKey)) = _
    rw [bufferFromBase64_base64, bufferFromBase64_base64]
    exact hverify

lemma plain_of_deviceVerification (hsigned : Signed env hostId)
    (h : DeviceVerification env hostId) : RelayCore.Plain hostId := by
  refine (utf8_determines_iff hostId).1 fun other hother => ?_
  by_contra hne
  -- the same signature is one for the other host
  obtain ⟨sessionId, deviceKeyId, signature, publicKey, hid, hkey, hsignature, hverify⟩ := hsigned
  have hthere : env.verify signature
      (env.sha256 (deviceAuthMessage sessionId other deviceKeyId)) publicKey = .ok true := by
    rw [deviceAuthMessage, hother]
    exact hverify
  have hkeyed : publicKey ≠ [] := by
    rintro rfl
    cases hkey
  have hread : readAuthorizedDevices [] (devicesFile.written [oneDevice deviceKeyId publicKey]) =
      .ok [oneDevice deviceKeyId publicKey] :=
    devicesFile_lawful.read_written [] (by simpa using wellFormed_oneDevice hid hkeyed)
  have hfind : [oneDevice deviceKeyId publicKey].find? (fun d => d.deviceKeyId = deviceKeyId) =
      some (oneDevice deviceKeyId publicKey) := List.find?_cons_of_pos (by simp [oneDevice])
  obtain ⟨hiff, -, helsewhere⟩ := h [] (devicesFile.written [oneDevice deviceKeyId publicKey])
    ⟨deviceKeyId, base64 signature, sessionId.1⟩
  have htrue := hiff.2 (genuine_of_signed hread hfind hkey hsignature hverify)
  have hfalse := helsewhere other sessionId.1 (fun heq => hne (congrArg Prod.fst heq))
    (genuine_of_signed hread hfind hkey hsignature hthere)
  rw [htrue] at hfalse
  cases hfalse

/-- A device that has signed a single statement. -/
def signedOnce (hostId : JsString) : DeviceCrypto :=
  { sha256 := id, isValidPublicKey := fun _ => true
    verify := fun _ digest _ =>
      .ok (decide (digest = deviceAuthMessage (.repeat 7) hostId (js "8f2a91c34d7e0b55"))) }

lemma signsOne_signedOnce (hostId : JsString) : SignsOne (signedOnce hostId) := by
  intro signature publicKey message message' h h'
  simp only [signedOnce, Except.ok.injEq, decide_eq_true_eq, id_eq] at h h'
  rw [h, h']

lemma signed_signedOnce (hostId : JsString) : Signed (signedOnce hostId) hostId :=
  ⟨.repeat 7, js "8f2a91c34d7e0b55", List.replicate 64 1, List.replicate 65 4, by decide, rfl, rfl,
    congrArg Except.ok (decide_eq_true rfl)⟩

end Pherry.Cli
