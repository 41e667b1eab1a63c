import Pherry.Lib.Concurrent
import Pherry.Lib.KeyStore
import Pherry.Lib.Machine
import Pherry.Js

/-!
# CLI-auth

`approveCliAuth` and `exchangeCliAuth` on the store they share, one command of the store at a time.
What is random is drawn by the step that uses it.
-/

namespace Pherry.ControlPlane

open Lib

/-! ## The store -/

/-- `CliAuthRequest`. -/
structure CliAuthRequest where
  secretHash : JsString
  callback : Option JsString
  expiresAt : ℕ
  userCodeHash : Option JsString
deriving DecidableEq

/-- `CliAuthGrant`. -/
structure CliAuthGrant where
  userId : JsString
  codeHash : Option JsString
deriving DecidableEq

/-- `CliTokenRecord`. -/
structure CliTokenRecord where
  userId : JsString
  expiresAt : ℕ

/-- The values that are kept under the keys of CLI-auth. -/
inductive CliAuthValue
  | request (record : CliAuthRequest)
  | grant (grant : CliAuthGrant)
  | token (record : CliTokenRecord)
  | attempts (n : ℕ)

/-- The store. -/
abbrev CliAuthStore := KeyStore JsString CliAuthValue

/-- `requestKey`. -/
def requestKey (requestId : JsString) : JsString := js "cliauth:req:" ++ requestId

/-- `grantKey`. -/
def grantKey (requestId : JsString) : JsString := js "cliauth:grant:" ++ requestId

/-- `attemptsKey`. -/
def attemptsKey (requestId : JsString) : JsString := js "cliauth:approve-attempts:" ++ requestId

/-- `cliTokenKey`. -/
def cliTokenKey (tokenHash : JsString) : JsString := js "cliauth:tok:" ++ tokenHash

/-- `MAX_APPROVE_ATTEMPTS`. -/
def maxApproveAttempts : ℕ := 5

/-- The hash and the case mapping of the platform, and the configuration. -/
structure CliAuthEnv where
  sha256Hex : JsString → JsString
  toUpperCase : JsString → JsString
  cliTokenTtlMs : ℕ
  cliAuthRequestTtlMs : ℕ

/-- `normalizeUserCode`. -/
def normalizeUserCode (env : CliAuthEnv) (value : JsString) : JsString :=
  (env.toUpperCase value).filter fun u => (0x41 ≤ u && u ≤ 0x5A) || (0x30 ≤ u && u ≤ 0x39)

/-- `appendCode`. -/
def appendCode (callback code : JsString) : JsString :=
  callback ++ (if 0x3F ∈ callback then js "&" else js "?") ++ js "code=" ++ code

/-- `loadRequest`. -/
def loadRequest (redis : CliAuthStore) (now : ℕ) (requestId : JsString) : Option CliAuthRequest :=
  match redis.get (requestKey requestId) with
  | some (.request record) => if record.expiresAt ≤ now then none else some record
  | _ => none

/-- `startCliAuth`: the record of a request with a secret, and with a user code where there is no
callback. -/
def startCliAuth (env : CliAuthEnv) (now : ℕ) (callback : Option JsString)
    (cliSecret userCode : JsString) : CliAuthRequest where
  secretHash := env.sha256Hex cliSecret
  callback
  expiresAt := now + env.cliAuthRequestTtlMs
  userCodeHash :=
    match callback with
    | none => some (env.sha256Hex (normalizeUserCode env userCode))
    | some _ => none

/-! ## Approve -/

/-- The arguments of `approveCliAuth`. -/
structure ApproveArgs where
  requestId : JsString
  userId : JsString
  userCode : Option JsString
deriving DecidableEq

/-- Where a call of `approveCliAuth` has got to; `wrong` is the refusal behind a wrong user code. -/
inductive ApproveStage
  | load
  | count (record : CliAuthRequest)
  | incr
  | retire
  | wrong
  | store (record : CliAuthRequest) (grant : CliAuthGrant) (redirectUrl : Option JsString)
  | refused
  | approved (redirectUrl : Option JsString)
deriving DecidableEq

/-- A wrong or missing user code. -/
def wrongCode (env : CliAuthEnv) (record : CliAuthRequest) (userCode : Option JsString) : Bool :=
  match record.userCodeHash with
  | none => false
  | some hash =>
    let provided :=
      match userCode with
      | none => []
      | some code => normalizeUserCode env code
    provided.length = 0 || env.sha256Hex provided ≠ hash

/-- The grant and the redirect of a request, with the code minted for a callback. -/
def grantOf (env : CliAuthEnv) (record : CliAuthRequest) (userId code : JsString) :
    CliAuthGrant × Option JsString :=
  match record.callback with
  | none => (⟨userId, none⟩, none)
  | some callback => (⟨userId, some (env.sha256Hex code)⟩, some (appendCode callback code))

/-- The next command of `approveCliAuth`. -/
def approveCliAuth (env : CliAuthEnv) (code : JsString) (now : ℕ) (args : ApproveArgs)
    (redis : CliAuthStore) : ApproveStage → CliAuthStore × ApproveStage
  | .load =>
    match loadRequest redis now args.requestId with
    | none => (redis, .refused)
    | some record =>
      if wrongCode env record args.userCode then (redis, .count record)
      else
        let r := grantOf env record args.userId code
        (redis, .store record r.1 r.2)
  | .count record =>
    ((redis.setNx (attemptsKey args.requestId) (.attempts 0) (some (max 1 (record.expiresAt - now)))).1,
      .incr)
  | .incr =>
    let attempts :=
      match redis.get (attemptsKey args.requestId) with
      | some (.attempts n) => n + 1
      | _ => 1
    (redis.modify (attemptsKey args.requestId) fun _ => .attempts attempts,
      if attempts ≥ maxApproveAttempts then .retire else .wrong)
  | .retire => (redis.del (requestKey args.requestId), .wrong)
  | .store record grant redirectUrl =>
    let r := redis.setNx (grantKey args.requestId) (.grant grant) (some (record.expiresAt - now))
    (r.1, if r.2 then .approved redirectUrl else .refused)
  | stage => (redis, stage)

/-! ## Exchange -/

/-- The arguments of `exchangeCliAuth`. -/
structure ExchangeArgs where
  requestId : JsString
  cliSecret : JsString
  code : Option JsString
deriving DecidableEq

/-- Where a call of `exchangeCliAuth` has got to; `burned` is the refusal behind a grant that was
taken. -/
inductive ExchangeStage
  | load
  | take (record : CliAuthRequest)
  | mint (grant : CliAuthGrant)
  | retire (token : JsString) (expiresAt : ℕ)
  | refused
  | pending
  | burned
  | ok (token : JsString) (expiresAt : ℕ)
deriving DecidableEq

/-- A callback request is presented a wrong code. -/
def wrongGrant (env : CliAuthEnv) (record : CliAuthRequest) (grant : CliAuthGrant)
    (code : Option JsString) : Bool :=
  match record.callback, code, grant.codeHash with
  | none, _, _ => false
  | some _, some code, some hash => env.sha256Hex code ≠ hash
  | some _, _, _ => true

/-- The next command of `exchangeCliAuth`. -/
def exchangeCliAuth (env : CliAuthEnv) (token : JsString) (now : ℕ) (args : ExchangeArgs)
    (redis : CliAuthStore) : ExchangeStage → CliAuthStore × ExchangeStage
  | .load =>
    match loadRequest redis now args.requestId with
    | none => (redis, .refused)
    | some record =>
      (redis, if env.sha256Hex args.cliSecret ≠ record.secretHash then .refused else .take record)
  | .take record =>
    let r := redis.getdel (grantKey args.requestId)
    (r.1, match r.2 with
      | none => .pending
      | some (.grant grant) => if wrongGrant env record grant args.code then .burned else .mint grant
      | some _ => .burned)
  | .mint grant =>
    let expiresAt := now + env.cliTokenTtlMs
    (redis.set (cliTokenKey (env.sha256Hex token)) (.token ⟨grant.userId, expiresAt⟩)
      (some env.cliTokenTtlMs), .retire token expiresAt)
  | .retire token expiresAt => (redis.del (requestKey args.requestId), .ok token expiresAt)
  | stage => (redis, stage)

/-! ## Calls -/

/-- A call, with what its replica's clock read when it began. -/
inductive CliAuthCall
  | approve (now : ℕ) (args : ApproveArgs) (stage : ApproveStage)
  | exchange (now : ℕ) (args : ExchangeArgs) (stage : ExchangeStage)
deriving DecidableEq

/-- The store and the calls on it. -/
abbrev CliAuth := Concurrent CliAuthStore CliAuthCall

/-- What happens: time passes for the store, a call begins, or a call gets a command done. -/
inductive CliAuthEvent
  | advance (ms : ℕ)
  | approve (now : ℕ) (args : ApproveArgs)
  | exchange (now : ℕ) (args : ExchangeArgs)
  | step (call : ℕ) (draw : JsString)

variable (env : CliAuthEnv)

/-- The next command of a call. -/
def CliAuthCall.step (draw : JsString) (redis : CliAuthStore) : CliAuthCall → CliAuthStore × CliAuthCall
  | .approve now args stage =>
    let r := approveCliAuth env draw now args redis stage
    (r.1, .approve now args r.2)
  | .exchange now args stage =>
    let r := exchangeCliAuth env draw now args redis stage
    (r.1, .exchange now args r.2)

/-- One event. -/
def CliAuth.react (s : CliAuth) : CliAuthEvent → CliAuth
  | .advance ms => { s with shared := s.shared.advance ms }
  | .approve now args => s.start (.approve now args .load)
  | .exchange now args => s.start (.exchange now args .load)
  | .step call draw => s.advance call (CliAuthCall.step env draw)

/-- The store of a request, from when its record is set. -/
def cliAuthMachine (requestId : JsString) (record : CliAuthRequest) (now : ℕ) :
    Machine CliAuth CliAuthEvent where
  init := ⟨((KeyStore.empty now).setNx (requestKey requestId) (.request record)
    (some env.cliAuthRequestTtlMs)).1, []⟩
  step s e := s.react env e

/-! ## Keys -/

lemma requestKey_inj {a b : JsString} : requestKey a = requestKey b ↔ a = b :=
  List.append_right_inj _

lemma grantKey_inj {a b : JsString} : grantKey a = grantKey b ↔ a = b := List.append_right_inj _

lemma key_ne {a b : JsString} (h : a[8]? ≠ b[8]?) : a ≠ b := fun heq => h (by rw [heq])

lemma requestKey_ne_grantKey (a b : JsString) : requestKey a ≠ grantKey b :=
  key_ne (by show some _ ≠ some _; decide)

lemma requestKey_ne_attemptsKey (a b : JsString) : requestKey a ≠ attemptsKey b :=
  key_ne (by show some _ ≠ some _; decide)

lemma requestKey_ne_cliTokenKey (a b : JsString) : requestKey a ≠ cliTokenKey b :=
  key_ne (by show some _ ≠ some _; decide)

lemma grantKey_ne_attemptsKey (a b : JsString) : grantKey a ≠ attemptsKey b :=
  key_ne (by show some _ ≠ some _; decide)

lemma grantKey_ne_cliTokenKey (a b : JsString) : grantKey a ≠ cliTokenKey b :=
  key_ne (by show some _ ≠ some _; decide)

lemma attemptsKey_ne_cliTokenKey (a b : JsString) : attemptsKey a ≠ cliTokenKey b :=
  key_ne (by show some _ ≠ some _; decide)

end Pherry.ControlPlane
