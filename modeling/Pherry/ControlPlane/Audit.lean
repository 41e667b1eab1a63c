import Pherry.ControlPlane.Pairing

/-!
# The audit log and statements that fail

The registry with the tables of users and audit events, and the redemption of a pair token with all of its
statements. Any of them may fail: it then has no effect, and the request throws.
-/

namespace Pherry.ControlPlane

open Lib

/-! ## The log -/

/-- `AuditKind`. -/
inductive AuditKind
  | hostRegistered
  | hostRevoked
  | pairMinted
  | devicePaired
  | deviceRevoked
  | ticketMinted
deriving DecidableEq

/-- The `detail` of a `device-paired` event. -/
structure AuditDetail where
  name : JsString
  identityKey : Bool

/-- A row of `audit_events`. -/
structure AuditEventRow where
  id : JsString
  orgId : JsString
  kind : AuditKind
  hostId : Option JsString
  deviceId : Option JsString
  detail : Option AuditDetail
  createdAt : ℕ

/-- A row of `users`. -/
structure UserRow where
  id : JsString
  clerkUserId : JsString
deriving DecidableEq

/-- The unique columns of `audit_events`. -/
def auditColumns : List (AuditEventRow → JsString) := [AuditEventRow.id]

/-- The unique columns of `users`. -/
def userColumns : List (UserRow → JsString) := [UserRow.id, UserRow.clerkUserId]

/-- The registry, its users and its log. -/
structure AuditedRegistry where
  registry : Registry
  users : Table userColumns
  audit : Table auditColumns

/-- What a statement draws, whether it fails, and what the identity provider answers where it is asked. -/
structure Statement where
  draw : Draw
  fails : Bool
  signInToken : Option JsString

/-- A statement that does not fail, with what it draws. -/
def Statement.ok (id digits : String) : Statement := ⟨drawn 2000 id digits, false, none⟩

/-- `appendAuditEvent`; a row whose id is taken is not inserted. -/
def appendAuditEvent (row : AuditEventRow) (db : AuditedRegistry) : Option AuditedRegistry :=
  match db.audit.insert row with
  | none => none
  | some audit => some { db with audit }

/-! ## Redeeming a pair token -/

/-- The row of the device that a redemption mints. -/
def newDevice (env : RegistryEnv) (draw : Draw) (args : RedeemArgs) (token : PairTokenRow) : DeviceRow :=
  { id := draw.id
    orgId := token.orgId
    userId := token.userId
    name := args.deviceName.getD (js "device")
    deviceTokenHash := env.sha256Hex (mintSecret (js "dt") draw.secret)
    devicePublicKey := args.devicePublicKeyB64 }

/-- The `device-paired` event of a redemption. -/
def devicePaired (draw : Draw) (args : RedeemArgs) (token : PairTokenRow) (device : DeviceRow) : AuditEventRow :=
  { id := draw.id
    orgId := token.orgId
    kind := .devicePaired
    hostId := some token.hostId
    deviceId := some device.id
    detail := some ⟨device.name, args.devicePublicKeyB64.isSome⟩
    createdAt := args.now }

/-- Where a redemption has got to, statement by statement. -/
inductive AuditedRedeemStage
  | claim
  | insert (token : PairTokenRow)
  | stamp (token : PairTokenRow) (device : DeviceRow) (deviceToken : JsString)
  | audit (token : PairTokenRow) (device : DeviceRow) (deviceToken : JsString)
  | host (token : PairTokenRow) (device : DeviceRow) (deviceToken : JsString)
  | user (token : PairTokenRow) (device : DeviceRow) (deviceToken : JsString) (host : HostRecord)
  | signIn (token : PairTokenRow) (device : DeviceRow) (deviceToken : JsString) (host : HostRecord)
      (user : UserRow)
  | refused
  | thrown
  | returned (token : PairTokenRow) (device : DeviceRow) (signInToken : Option JsString)
      (result : RedeemPairTokenResult)
deriving DecidableEq

/-- What a statement does, if it does not fail. -/
def Statement.run (st : Statement) (db : AuditedRegistry) (effect : AuditedRegistry × AuditedRedeemStage) :
    AuditedRegistry × AuditedRedeemStage :=
  if st.fails then (db, .thrown) else effect

/-- `redeemPairToken`. -/
def AuditedRegistry.redeemPairToken (env : RegistryEnv) (st : Statement) (args : RedeemArgs)
    (db : AuditedRegistry) : AuditedRedeemStage → AuditedRegistry × AuditedRedeemStage
  | .claim =>
    st.run db <|
      match db.registry.pairTokens.rows.find? (claimable env args.now args.pairToken) with
      | none => (db, .refused)
      | some token =>
        ({ db with registry := db.registry.claim env args.now args.pairToken }, .insert (token.claim args.now))
  | .insert token =>
    st.run db <|
      match db.registry.devices.insert (newDevice env st.draw args token) with
      | none => (db, .thrown)
      | some devices =>
        ({ db with registry.devices := devices },
          .stamp token (newDevice env st.draw args token) (mintSecret (js "dt") st.draw.secret))
  | .stamp token device deviceToken =>
    st.run db ({ db with registry := db.registry.stamp token.id device.id }, .audit token device deviceToken)
  | .audit token device deviceToken =>
    st.run db <|
      match appendAuditEvent (devicePaired st.draw args token device) db with
      | none => (db, .thrown)
      | some db => (db, .host token device deviceToken)
  | .host token device deviceToken =>
    st.run db <|
      match db.registry.hosts.get HostRecord.id token.hostId with
      | none => (db, .thrown)
      | some host => (db, .user token device deviceToken host)
  | .user token device deviceToken host =>
    st.run db <|
      match db.users.get UserRow.id token.userId with
      | none => (db, .thrown)
      | some user => (db, .signIn token device deviceToken host user)
  | .signIn token device deviceToken host _ =>
    st.run db
      (db, .returned token device st.signInToken
        { deviceToken
          hostId := host.id
          staticPublicKeyB64 := host.staticPublicKey
          directorUrl := env.directorUrl })
  | stage => (db, stage)

lemma registry_appendAuditEvent {row : AuditEventRow} {db db' : AuditedRegistry}
    (h : appendAuditEvent row db = some db') : db'.registry = db.registry := by
  unfold appendAuditEvent at h
  split at h
  · simp at h
  · obtain rfl := Option.some.inj h
    rfl

/-- A redemption on a database: the database, and where it has got to. -/
structure Redemption where
  db : AuditedRegistry
  stage : AuditedRedeemStage

/-- A redemption that begins on a database; each event is a statement. -/
def redemptionMachine (env : RegistryEnv) (args : RedeemArgs) (db : AuditedRegistry) :
    Machine Redemption Statement where
  init := ⟨db, .claim⟩
  step s st :=
    let x := s.db.redeemPairToken env st args s.stage
    ⟨x.1, x.2⟩

/-- `pairTokenStatus` from its first statement to its last. -/
def pollStatus (env : RegistryEnv) (now : ℕ) (pairToken : JsString) (r : Registry) :
    Option PairTokenStatusResult :=
  match pairTokenStatus env now pairToken r (pairTokenStatus env now pairToken r .token) with
  | .done status => status
  | _ => none

end Pherry.ControlPlane
