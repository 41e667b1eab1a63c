import Pherry.Crypto

/-!
# The device-auth statement

What an enrolled device signs to prove itself on a channel: the label, the channel's session id, the
host it believes it dialed and its own key id, each behind a zero byte.
-/

namespace Pherry.Protocol

/-- `DEVICE_AUTH_LABEL`. -/
def deviceAuthLabel : Bytes := ascii "pherry/device-auth/v1"

/-- `DEVICE_KEY_ID_PATTERN`: sixteen lowercase hexadecimal digits. -/
def matchesDeviceKeyId (s : JsString) : Bool :=
  s.length == 16 && s.all fun u => (0x30 ≤ u && u ≤ 0x39) || (0x61 ≤ u && u ≤ 0x66)

/-- A device key id. -/
abbrev DeviceKeyId := { s : JsString // matchesDeviceKeyId s = true }

/-- `NULL_DEVICE_KEY_ID`. -/
def nullDeviceKeyId : JsString := List.replicate 16 0x30

/-- `NULL_DEVICE_AUTH`. -/
def nullDeviceAuth : JsString := List.replicate 86 0x41 ++ js "=="

/-- A character of the base64 alphabet. -/
def base64Digit (n : ℕ) : UInt16 :=
  UInt16.ofNat
    (if n < 26 then 0x41 + n
    else if n < 52 then 0x61 + (n - 26)
    else if n < 62 then 0x30 + (n - 52)
    else if n = 62 then 0x2B
    else 0x2F)

/-- `toString('base64')`. -/
def base64 : Bytes → JsString
  | [] => []
  | [a] =>
    [base64Digit (a.toNat / 4), base64Digit (a.toNat % 4 * 16), 0x3D, 0x3D]
  | [a, b] =>
    [base64Digit (a.toNat / 4), base64Digit (a.toNat % 4 * 16 + b.toNat / 16),
      base64Digit (b.toNat % 16 * 4), 0x3D]
  | a :: b :: c :: rest =>
    [base64Digit (a.toNat / 4), base64Digit (a.toNat % 4 * 16 + b.toNat / 16),
      base64Digit (b.toNat % 16 * 4 + c.toNat / 64), base64Digit (c.toNat % 64)] ++ base64 rest

example : base64 (ascii "pherry!") = js "cGhlcnJ5IQ==" := by decide

/-- The value of a base64 digit, of either alphabet. -/
def base64Value (u : UInt16) : Option ℕ :=
  let n := u.toNat
  if 0x41 ≤ n ∧ n ≤ 0x5A then some (n - 0x41)
  else if 0x61 ≤ n ∧ n ≤ 0x7A then some (n - 0x61 + 26)
  else if 0x30 ≤ n ∧ n ≤ 0x39 then some (n - 0x30 + 52)
  else if n = 0x2B ∨ n = 0x2D then some 62
  else if n = 0x2F ∨ n = 0x5F then some 63
  else none

/-- The bytes of base64 digits. -/
def fromBase64 : List ℕ → Bytes
  | a :: b :: c :: d :: rest =>
    [UInt8.ofNat (a * 4 + b / 16), UInt8.ofNat (b % 16 * 16 + c / 4), UInt8.ofNat (c % 4 * 64 + d)] ++
      fromBase64 rest
  | [a, b, c] => [UInt8.ofNat (a * 4 + b / 16), UInt8.ofNat (b % 16 * 16 + c / 4)]
  | [a, b] => [UInt8.ofNat (a * 4 + b / 16)]
  | _ => []

/-- `Buffer.from(text, 'base64')`: what is no digit is skipped. -/
def bufferFromBase64 (text : JsString) : Bytes := fromBase64 (text.filterMap base64Value)

lemma base64Value_base64Digit {n : ℕ} (h : n < 64) : base64Value (base64Digit n) = some n := by
  revert n
  decide

lemma bufferFromBase64_base64 (bytes : Bytes) : bufferFromBase64 (base64 bytes) = bytes := by
  rw [bufferFromBase64]
  fun_induction base64 bytes with
  | case1 => rfl
  | case2 a =>
    have ha := a.toNat_lt
    have hpad : base64Value 0x3D = none := by decide
    simp only [List.filterMap_cons, List.filterMap_nil, hpad,
      base64Value_base64Digit (n := a.toNat / 4) (by omega),
      base64Value_base64Digit (n := a.toNat % 4 * 16) (by omega), fromBase64]
    have hbyte : a.toNat / 4 * 4 + a.toNat % 4 * 16 / 16 = a.toNat := by omega
    rw [hbyte, UInt8.ofNat_toNat]
  | case3 a b =>
    have ha := a.toNat_lt
    have hb := b.toNat_lt
    have hpad : base64Value 0x3D = none := by decide
    simp only [List.filterMap_cons, List.filterMap_nil, hpad,
      base64Value_base64Digit (n := a.toNat / 4) (by omega),
      base64Value_base64Digit (n := a.toNat % 4 * 16 + b.toNat / 16) (by omega),
      base64Value_base64Digit (n := b.toNat % 16 * 4) (by omega), fromBase64]
    have hbyte : a.toNat / 4 * 4 + (a.toNat % 4 * 16 + b.toNat / 16) / 16 = a.toNat := by omega
    have hbyte' : (a.toNat % 4 * 16 + b.toNat / 16) % 16 * 16 + b.toNat % 16 * 4 / 4 = b.toNat := by
      omega
    rw [hbyte, hbyte', UInt8.ofNat_toNat, UInt8.ofNat_toNat]
  | case4 a b c rest ih =>
    have ha := a.toNat_lt
    have hb := b.toNat_lt
    have hc := c.toNat_lt
    simp only [List.cons_append, List.nil_append, List.filterMap_cons,
      base64Value_base64Digit (n := a.toNat / 4) (by omega),
      base64Value_base64Digit (n := a.toNat % 4 * 16 + b.toNat / 16) (by omega),
      base64Value_base64Digit (n := b.toNat % 16 * 4 + c.toNat / 64) (by omega),
      base64Value_base64Digit (n := c.toNat % 64) (by omega), fromBase64, ih]
    have hbyte : a.toNat / 4 * 4 + (a.toNat % 4 * 16 + b.toNat / 16) / 16 = a.toNat := by omega
    have hbyte' : (a.toNat % 4 * 16 + b.toNat / 16) % 16 * 16 + (b.toNat % 16 * 4 + c.toNat / 64) / 4 =
        b.toNat := by omega
    have hbyte'' : (b.toNat % 16 * 4 + c.toNat / 64) % 4 * 64 + c.toNat % 64 = c.toNat := by omega
    rw [hbyte, hbyte', hbyte'', UInt8.ofNat_toNat, UInt8.ofNat_toNat, UInt8.ofNat_toNat]

/-- `decodeKey`, with stray characters skipped and the result compared with the text. -/
def decodeKey (text : JsString) : Option Bytes :=
  let bytes := fromBase64 (text.filterMap base64Value)
  if bytes.length ≠ 32 || base64 bytes ≠ text then none else some bytes

lemma base64_of_decodeKey {text : JsString} {key : Bytes} (h : decodeKey text = some key) :
    base64 key = text := by
  rw [decodeKey] at h
  split at h
  · cases h
  · next hkey =>
    cases h
    rw [Bool.or_eq_true, not_or, decide_eq_true_eq, decide_eq_true_eq, not_not, not_not] at hkey
    exact hkey.2

/-- `deviceAuthMessage`. A session id of another length is refused, which its type excludes. -/
def deviceAuthMessage (sessionId : Bytes32) (hostId : JsString) (deviceKeyId : JsString) : Bytes :=
  deviceAuthLabel ++ [0x00] ++ sessionId.1 ++ [0x00] ++ utf8 hostId ++ [0x00] ++ utf8 deviceKeyId

end Pherry.Protocol
