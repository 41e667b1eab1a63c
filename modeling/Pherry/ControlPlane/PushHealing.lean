import Pherry.Js
import Pherry.Lib.Concurrent
import Pherry.Lib.Machine
import Pherry.Lib.Table

/-!
# Push tokens and their healing

The push and ring channels of a raise, the tokens that a device registers, and `healDelivery`, which
clears the column of a channel behind a network round trip. A clear is right as long as the device has
not registered another token in the meantime.
-/

namespace Pherry.ControlPlane

open Lib

/-! ## Devices -/

/-- The channels that push. -/
inductive PushChannel
  | push
  | ring
deriving DecidableEq

/-- A row of `devices`, as far as it concerns pushes. -/
structure PushDevice where
  id : JsString
  orgId : JsString
  pushToken : Option JsString
  voipPushToken : Option JsString
  revokedAt : Option ℕ
deriving DecidableEq

namespace PushDevice

/-- The column of a channel. -/
def token : PushChannel → PushDevice → Option JsString
  | .push, row => row.pushToken
  | .ring, row => row.voipPushToken

/-- A row without the token of a channel. -/
def cleared : PushChannel → PushDevice → PushDevice
  | .push, row => { row with pushToken := none }
  | .ring, row => { row with voipPushToken := none }

/-- A row that is revoked. -/
def revoke (now : ℕ) (row : PushDevice) : PushDevice := { row with revokedAt := some now }

lemma token_cleared (channel : PushChannel) (row : PushDevice) :
    (row.cleared channel).token channel = none := by
  cases channel <;> rfl

lemma cleared_of_none {channel : PushChannel} {row : PushDevice} (h : row.token channel = none) :
    row.cleared channel = row := by
  obtain ⟨id, orgId, pushToken, voipPushToken, revokedAt⟩ := row
  cases channel with
  | push =>
    obtain rfl : pushToken = none := h
    rfl
  | ring =>
    obtain rfl : voipPushToken = none := h
    rfl

end PushDevice

/-- The unique column of `devices`. -/
def pushDeviceColumns : List (PushDevice → JsString) := [PushDevice.id]

/-- The devices. -/
abbrev PushDevices := Table pushDeviceColumns

lemma id_mem_pushDeviceColumns : PushDevice.id ∈ pushDeviceColumns := List.mem_cons_self

lemma pushDeviceColumns_of_id {f : PushDevice → PushDevice} (hf : ∀ row, (f row).id = row.id) :
    ∀ c ∈ pushDeviceColumns, ∀ row, c (f row) = c row := by
  intro c hc row
  rw [List.mem_singleton.1 hc]
  exact hf row

/-! ## Registering tokens -/

/-- `PushTokensBody`: a key that is absent, null or a string. -/
structure PushTokensBody where
  pushToken : Option (Option JsString)
  voipPushToken : Option (Option JsString)

/-- A key within its bounds. -/
def isPushToken (key : Option (Option JsString)) : Bool :=
  key.all fun value => value.all fun token => 1 ≤ token.length && token.length ≤ 512

/-- What `PushTokensBody` accepts. -/
def PushTokensBody.isValid (body : PushTokensBody) : Bool :=
  isPushToken body.pushToken && isPushToken body.voipPushToken &&
    (body.pushToken.isSome || body.voipPushToken.isSome)

/-- `patch`: a key that is present sets or clears its column. -/
def PushTokensBody.patch (body : PushTokensBody) (row : PushDevice) : PushDevice :=
  { row with
    pushToken := body.pushToken.getD row.pushToken
    voipPushToken := body.voipPushToken.getD row.voipPushToken }

/-- `POST /v1/device/push-tokens` of a device. -/
def registerPushTokens (deviceId : JsString) (body : PushTokensBody) (devices : PushDevices) :
    PushDevices :=
  if body.isValid then
    devices.update (fun row => row.id = deviceId) body.patch (pushDeviceColumns_of_id fun _ => rfl)
  else devices

/-! ## Delivering -/

/-- `PushDelivery`. -/
inductive PushDelivery
  | ok
  | badToken
  | unavailable

/-- The urgency of an event. -/
inductive Urgency
  | call
  | notify
  | digest

/-- `ATTENTION_ROUTING`; the in-app channel does nothing. -/
def attentionRouting : Urgency → List PushChannel
  | .call => [.ring, .push]
  | .notify => [.push]
  | .digest => []

lemma id_cleared (channel : PushChannel) (row : PushDevice) : (row.cleared channel).id = row.id := by
  cases channel <;> rfl

/-- `healDelivery`. -/
def healDelivery (channel : PushChannel) (deviceId : JsString) (delivery : PushDelivery)
    (devices : PushDevices) : PushDevices :=
  match delivery with
  | .badToken =>
    devices.update (fun row => row.id = deviceId) (PushDevice.cleared channel)
      (pushDeviceColumns_of_id (id_cleared channel))
  | _ => devices

/-- One push: a device and the token that its row had. -/
structure Push where
  deviceId : JsString
  token : JsString
deriving DecidableEq

/-- The pushes of a channel to the devices it was given. -/
def pushesOf (channel : PushChannel) (devices : List PushDevice) : List Push :=
  devices.filterMap fun device => (device.token channel).map fun token => ⟨device.id, token⟩

/-- Where the channels of a raise have got to: what is left of a channel, and the channels that
follow. -/
inductive DeliverStage
  | resolve (channel : PushChannel) (left : List Push)
  | send (channel : PushChannel) (push : Push) (left : List Push)
  | heal (channel : PushChannel) (push : Push) (delivery : PushDelivery) (left : List Push)
  | done

/-- The channels of a raise, with the devices that it loaded. -/
structure Fanout where
  devices : List PushDevice
  channels : List PushChannel
  stage : DeliverStage

/-- The next channel. The ring channel looks no host name up when nothing can ring. -/
def nextChannel (devices : List PushDevice) : List PushChannel → Fanout
  | [] => ⟨devices, [], .done⟩
  | .push :: channels => ⟨devices, channels, .resolve .push (pushesOf .push devices)⟩
  | .ring :: channels =>
    if pushesOf .ring devices = [] then nextChannel devices channels
    else ⟨devices, channels, .resolve .ring (pushesOf .ring devices)⟩

/-- The next push of a channel. -/
def nextPush (f : Fanout) (channel : PushChannel) : List Push → Fanout
  | [] => nextChannel f.devices f.channels
  | push :: left => { f with stage := .send channel push left }

/-- The next step of the channels: `delivery` is what a send comes to. -/
def deliver (delivery : PushDelivery) (devices : PushDevices) (f : Fanout) : PushDevices × Fanout :=
  match f.stage with
  | .resolve channel left => (devices, nextPush f channel left)
  | .send channel push left => (devices, { f with stage := .heal channel push delivery left })
  | .heal channel push delivery left =>
    (healDelivery channel push.deviceId delivery devices, nextPush f channel left)
  | .done => (devices, f)

/-- The devices of an organization that are not revoked. -/
def orgDevices (orgId : JsString) (devices : PushDevices) : List PushDevice :=
  devices.rows.filter fun row => row.orgId = orgId && row.revokedAt.isNone

/-- The devices and the raises that deliver to them. -/
abbrev Pushes := Concurrent PushDevices Fanout

/-- What happens: a device is paired or revoked, it registers tokens, a raise loads its devices, or
its channels get a step done. -/
inductive PushEvent
  | pair (row : PushDevice)
  | revoke (deviceId : JsString) (now : ℕ)
  | register (deviceId : JsString) (body : PushTokensBody)
  | raise (orgId : JsString) (urgency : Urgency)
  | step (fanout : ℕ) (delivery : PushDelivery)

namespace Pushes

/-- One event. -/
def react (s : Pushes) : PushEvent → Pushes
  | .pair row =>
    match s.shared.insert row with
    | none => s
    | some shared => { s with shared }
  | .revoke deviceId now =>
    { s with
      shared := s.shared.update (fun row => row.id = deviceId) (PushDevice.revoke now)
        (pushDeviceColumns_of_id fun _ => rfl) }
  | .register deviceId body => { s with shared := registerPushTokens deviceId body s.shared }
  | .raise orgId urgency => s.start (nextChannel (orgDevices orgId s.shared) (attentionRouting urgency))
  | .step fanout delivery => s.advance fanout (deliver delivery)

/-- The push whose bad-token result an event applies. -/
def healing (s : Pushes) : PushEvent → Option (PushChannel × Push)
  | .step fanout _ =>
    match s.calls[fanout]? with
    | some ⟨_, _, .heal channel push .badToken _⟩ => some (channel, push)
    | _ => none
  | _ => none

/-- The row of a device. -/
def device (s : Pushes) (deviceId : JsString) : Option PushDevice := s.shared.get PushDevice.id deviceId

/-- The device of a result has not registered another token since. -/
def Current (s : Pushes) (e : PushEvent) : Prop :=
  ∀ channel push, s.healing e = some (channel, push) → ∀ row token,
    s.device push.deviceId = some row → row.token channel = some token → token = push.token

/-- A result leaves another token alone, clears its own in its column, and nothing else. -/
structure Heals (s : Pushes) (e : PushEvent) (channel : PushChannel) (push : Push) : Prop where
  kept : ∀ row, s.device push.deviceId = some row → row.token channel ≠ some push.token →
    (s.react e).device push.deviceId = some row
  cleared : ∀ row, s.device push.deviceId = some row → row.token channel = some push.token →
    (s.react e).device push.deviceId = some (row.cleared channel)
  others : ∀ deviceId, deviceId ≠ push.deviceId → (s.react e).device deviceId = s.device deviceId

/-- A step in which a result is applied as it should be. -/
def HealsExactly (s : Pushes) (e : PushEvent) : Prop :=
  ∀ channel push, s.healing e = some (channel, push) → s.Heals e channel push

variable {s : Pushes} {e : PushEvent} {channel : PushChannel} {push : Push}

lemma device_react (h : s.healing e = some (channel, push)) (deviceId : JsString) :
    (s.react e).device deviceId =
      (s.device deviceId).map fun row => if row.id = push.deviceId then row.cleared channel else row := by
  unfold healing at h
  split at h
  · next fanout delivery =>
    split at h
    · next devices channels channel' push' left hcall =>
      cases h
      rw [react, Concurrent.advance_of_some hcall]
      have hget := Table.get_update (t := s.shared) (k := deviceId)
        (p := fun row => decide (row.id = push.deviceId))
        (pushDeviceColumns_of_id (id_cleared channel)) id_mem_pushDeviceColumns
      simp only [decide_eq_true_eq] at hget
      exact hget
    · cases h
  · cases h

lemma id_of_device {deviceId : JsString} {row : PushDevice} (h : s.device deviceId = some row) :
    row.id = deviceId :=
  ((Table.get_eq_some id_mem_pushDeviceColumns).1 h).2

lemma device_of_healing (h : s.healing e = some (channel, push)) {row : PushDevice}
    (hrow : s.device push.deviceId = some row) :
    (s.react e).device push.deviceId = some (row.cleared channel) := by
  rw [device_react h, hrow, Option.map_some, if_pos (id_of_device hrow)]

lemma others_of_healing (h : s.healing e = some (channel, push)) {deviceId : JsString}
    (hne : deviceId ≠ push.deviceId) : (s.react e).device deviceId = s.device deviceId := by
  rw [device_react h]
  cases hrow : s.device deviceId with
  | none => rfl
  | some row =>
    rw [Option.map_some, if_neg]
    rw [id_of_device hrow]
    exact hne

/-- A result is applied as it should be exactly when its token is still the one that is stored. -/
lemma healsExactly_iff : s.HealsExactly e ↔ s.Current e := by
  constructor
  · intro hheals channel push hhealing row token hrow htoken
    by_contra hne
    have hkept := (hheals channel push hhealing).kept row hrow (by
      rw [htoken]
      exact fun heq => hne (Option.some.inj heq))
    rw [device_of_healing hhealing hrow] at hkept
    have hcleared : row.cleared channel = row := Option.some.inj hkept
    have hnone := PushDevice.token_cleared channel row
    rw [hcleared, htoken] at hnone
    cases hnone
  · intro hcurrent channel push hhealing
    refine ⟨fun row hrow hother => ?_, fun row hrow _ => device_of_healing hhealing hrow,
      fun _ hne => others_of_healing hhealing hne⟩
    rw [device_of_healing hhealing hrow]
    cases htoken : row.token channel with
    | none => rw [PushDevice.cleared_of_none htoken]
    | some token =>
      have hsame := hcurrent channel push hhealing row token hrow htoken
      exact absurd (by rw [htoken, hsame]) hother

end Pushes

/-- No device is paired yet. -/
def pushMachine : Machine Pushes PushEvent where
  init := ⟨.empty, []⟩
  step := Pushes.react

/-- Through a run, a bad-token result never clears another token and clears exactly its own, exactly
when the device of each such result has no other token stored by then. -/
theorem healing_iff (es : List PushEvent) :
    (∀ pre e post, es = pre ++ e :: post → (pushMachine.run pre).HealsExactly e) ↔
      pushMachine.Meets Pushes.Current es := by
  constructor
  · intro hall pre e post hes
    exact Pushes.healsExactly_iff.1 (hall pre e post hes)
  · intro hmeets pre e post hes
    exact Pushes.healsExactly_iff.2 (hmeets pre e post hes)

/-- A phone. -/
def phone : PushDevice := ⟨js "dev_1", js "org_1", some (js "old"), none, none⟩

/-- The phone registers a new token while a push to its old one is on its way. -/
def registeredMeanwhile : List PushEvent :=
  [.pair phone, .raise (js "org_1") .notify, .step 0 .ok, .step 0 .badToken,
    .register (js "dev_1") ⟨some (some (js "new")), none⟩, .step 0 .ok]

theorem not_healsExactly_registeredMeanwhile :
    ¬ ∀ pre e post, registeredMeanwhile = pre ++ e :: post →
      (pushMachine.run pre).HealsExactly e := by
  intro hall
  have hheals := hall (registeredMeanwhile.take 5) (.step 0 .ok) [] rfl .push
    ⟨js "dev_1", js "old"⟩ rfl
  have hkept := hheals.kept { phone with pushToken := some (js "new") } (by decide) (by decide)
  exact absurd hkept (by decide)

end Pherry.ControlPlane
