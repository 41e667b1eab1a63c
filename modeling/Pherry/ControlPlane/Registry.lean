import Pherry.Lib.Concurrent
import Pherry.Lib.KeyStore
import Pherry.Lib.Table
import Pherry.Protocol.DeviceAuth
import Pherry.RelayCore.Cell

/-!
# Hosts, pairing and relay tickets

The requests of the control plane about hosts, one statement of the database or command of the store
at a time, any number of them at once, on any number of replicas. What is random is drawn, and a clock
read, by the step that uses it; a clock that a service is given as an argument is one of the request.
-/

namespace Pherry.ControlPlane

open Lib Protocol RelayCore

/-! ## Keys -/

/-- `parseBearer`. -/
def parseBearer : Option JsString → Option JsString
  | none => none
  | some header =>
    let token := header.drop 7
    if header.take 7 = js "Bearer " ∧ token ≠ [] ∧
        token.all fun u => u ≠ 0x0A && u ≠ 0x0D && u ≠ 0x2028 && u ≠ 0x2029 then some token
    else none

/-- `mintSecret`: the token of a kind with these random digits. -/
def mintSecret (kind digits : JsString) : JsString := kind ++ js "_" ++ digits

/-! ## The database and the store -/

/-- A row of `hosts`. -/
structure HostRecord where
  id : JsString
  orgId : JsString
  userId : JsString
  name : JsString
  staticPublicKey : JsString
  hostKeyHash : JsString
  revokedAt : Option ℕ
deriving DecidableEq

/-- A row of `pair_tokens`. -/
structure PairTokenRow where
  id : JsString
  orgId : JsString
  userId : JsString
  hostId : JsString
  tokenHash : JsString
  expiresAt : ℕ
  redeemedAt : Option ℕ
  redeemedDeviceId : Option JsString
deriving DecidableEq

/-- A row of `devices`. -/
structure DeviceRow where
  id : JsString
  orgId : JsString
  userId : JsString
  name : JsString
  deviceTokenHash : JsString
  devicePublicKey : Option JsString
deriving DecidableEq

/-- `TicketPrincipalKind`. -/
inductive TicketPrincipalKind
  | device
  | human
deriving DecidableEq

/-- `TicketValue`. -/
structure TicketValue where
  hostId : JsString
  orgId : JsString
  principalKind : TicketPrincipalKind
  principalId : JsString
  expiresAt : ℕ
deriving DecidableEq

/-- The unique columns of `hosts`. -/
def hostColumns : List (HostRecord → JsString) := [HostRecord.id, HostRecord.hostKeyHash]

/-- The unique columns of `pair_tokens`. -/
def pairTokenColumns : List (PairTokenRow → JsString) := [PairTokenRow.id, PairTokenRow.tokenHash]

/-- The unique columns of `devices`. -/
def deviceColumns : List (DeviceRow → JsString) := [DeviceRow.id, DeviceRow.deviceTokenHash]

/-- A host that is revoked. -/
def HostRecord.revoke (now : ℕ) (row : HostRecord) : HostRecord := { row with revokedAt := some now }

/-- A pair token that is claimed. -/
def PairTokenRow.claim (now : ℕ) (row : PairTokenRow) : PairTokenRow :=
  { row with redeemedAt := some now }

/-- A pair token with the device it has minted. -/
def PairTokenRow.stamp (deviceId : JsString) (row : PairTokenRow) : PairTokenRow :=
  { row with redeemedDeviceId := some deviceId }

lemma hostColumns_revoke (now : ℕ) :
    ∀ c ∈ hostColumns, ∀ row : HostRecord, c (row.revoke now) = c row := by
  simp [hostColumns, HostRecord.revoke]

lemma pairTokenColumns_claim (now : ℕ) :
    ∀ c ∈ pairTokenColumns, ∀ row : PairTokenRow, c (row.claim now) = c row := by
  simp [pairTokenColumns, PairTokenRow.claim]

lemma pairTokenColumns_stamp (deviceId : JsString) :
    ∀ c ∈ pairTokenColumns, ∀ row : PairTokenRow, c (row.stamp deviceId) = c row := by
  simp [pairTokenColumns, PairTokenRow.stamp]

/-- The tables, the tickets in the store, and the used tickets of each cell. -/
structure Registry where
  hosts : Table hostColumns
  pairTokens : Table pairTokenColumns
  devices : Table deviceColumns
  redis : KeyStore JsString TicketValue
  usedTickets : ℕ → List JsString

/-- The hash of the platform, and the configuration. -/
structure RegistryEnv where
  sha256Hex : JsString → JsString
  pairTokenTtlMs : ℕ
  relayTicketTtlMs : ℕ
  maxHostsPerOrg : ℕ
  directorUrl : Option JsString

/-- What a step reads and draws: the clock, a row id, the digits of a secret, and whether a cell has
the host of a ticket registered. -/
structure Draw where
  now : ℕ
  id : JsString
  secret : JsString
  registered : Bool

variable (env : RegistryEnv)

/-! ## Registering a host -/

/-- The body of `POST /v1/hosts`, and the human it is from. -/
structure RegisterArgs where
  orgId : JsString
  userId : JsString
  name : JsString
  staticPublicKeyB64 : JsString
deriving DecidableEq

/-- Where a registration has got to. -/
inductive RegisterStage
  | check
  | insert
  | refused
  | failed
  | registered (host : HostRecord) (hostKey : JsString)
deriving DecidableEq

/-- `POST /v1/hosts`. -/
def registerHost (draw : Draw) (args : RegisterArgs) (r : Registry) :
    RegisterStage → Registry × RegisterStage
  | .check =>
    let active := r.hosts.rows.filter fun row => row.orgId = args.orgId && row.revokedAt.isNone
    if args.name.length = 0 || (decodeKey args.staticPublicKeyB64).isNone then (r, .refused)
    else if active.length ≥ env.maxHostsPerOrg then (r, .refused)
    else (r, .insert)
  | .insert =>
    let hostKey := mintSecret (js "hk") draw.secret
    let host : HostRecord :=
      { id := draw.id
        orgId := args.orgId
        userId := args.userId
        name := args.name
        staticPublicKey := args.staticPublicKeyB64
        hostKeyHash := env.sha256Hex hostKey
        revokedAt := none }
    match r.hosts.insert host with
    | none => (r, .failed)
    | some hosts => ({ r with hosts }, .registered host hostKey)
  | stage => (r, stage)

/-! ## Revoking a host -/

/-- The host that `DELETE /v1/hosts/:id` names, and the org of the human it is from. -/
structure RevokeArgs where
  hostId : JsString
  orgId : JsString
deriving DecidableEq

/-- Where a revocation has got to. -/
inductive RevokeStage
  | check
  | update (host : HostRecord)
  | refused
  | ok
deriving DecidableEq

/-- `DELETE /v1/hosts/:id`. -/
def revokeHost (draw : Draw) (args : RevokeArgs) (r : Registry) : RevokeStage → Registry × RevokeStage
  | .check =>
    match r.hosts.get HostRecord.id args.hostId with
    | none => (r, .refused)
    | some host => (r, if host.orgId ≠ args.orgId then .refused else .update host)
  | .update host =>
    let hosts := r.hosts.update (fun row => row.id = host.id && row.revokedAt.isNone)
      (HostRecord.revoke draw.now) (hostColumns_revoke draw.now)
    ({ r with hosts }, .ok)
  | stage => (r, stage)

/-! ## Authenticating a host -/

/-- What comes of an `Authorization` header. -/
inductive AuthenticateStage
  | check
  | refused
  | principal (host : HostRecord)
deriving DecidableEq

/-- `authenticateHost`. -/
def authenticateHost (header : Option JsString) (r : Registry) : AuthenticateStage → AuthenticateStage
  | .check =>
    match parseBearer header with
    | none => .refused
    | some token =>
      if token.take 3 ≠ js "hk_" then .refused
      else
        match r.hosts.get HostRecord.hostKeyHash (env.sha256Hex token) with
        | none => .refused
        | some host => if host.revokedAt.isSome then .refused else .principal host
  | stage => stage

/-! ## Pair tokens -/

/-- The host that `POST /v1/hosts/:id/pair` names, and the human it is from. -/
structure PairArgs where
  hostId : JsString
  orgId : JsString
  userId : JsString
deriving DecidableEq

/-- Where the minting of a pair token has got to. -/
inductive PairStage
  | check
  | insert (host : HostRecord) (now : ℕ)
  | refused
  | failed
  | minted (host : HostRecord) (pairToken : JsString) (expiresAt : ℕ)
deriving DecidableEq

/-- `POST /v1/hosts/:id/pair` with its `mintPairToken`. -/
def mintPairToken (draw : Draw) (args : PairArgs) (r : Registry) : PairStage → Registry × PairStage
  | .check =>
    match r.hosts.get HostRecord.id args.hostId with
    | none => (r, .refused)
    | some host =>
      (r, if host.orgId ≠ args.orgId || host.revokedAt.isSome then .refused
        else .insert host draw.now)
  | .insert host now =>
    let pairToken := mintSecret (js "pt") draw.secret
    let expiresAt := now + env.pairTokenTtlMs
    let row : PairTokenRow :=
      { id := draw.id
        orgId := args.orgId
        userId := args.userId
        hostId := host.id
        tokenHash := env.sha256Hex pairToken
        expiresAt
        redeemedAt := none
        redeemedDeviceId := none }
    match r.pairTokens.insert row with
    | none => (r, .failed)
    | some pairTokens => ({ r with pairTokens }, .minted host pairToken expiresAt)
  | stage => (r, stage)

/-- The arguments of `redeemPairToken`. -/
structure RedeemArgs where
  now : ℕ
  pairToken : JsString
  deviceName : Option JsString
  devicePublicKeyB64 : Option JsString
deriving DecidableEq

/-- `RedeemPairTokenResult`. -/
structure RedeemPairTokenResult where
  deviceToken : JsString
  hostId : JsString
  staticPublicKeyB64 : JsString
  directorUrl : Option JsString
deriving DecidableEq

/-- Where a redemption has got to. -/
inductive RedeemStage
  | claim
  | insert (token : PairTokenRow)
  | stamp (token : PairTokenRow) (device : DeviceRow) (deviceToken : JsString)
  | load (token : PairTokenRow) (device : DeviceRow) (deviceToken : JsString)
  | refused
  | failed (token : PairTokenRow)
  | redeemed (token : PairTokenRow) (device : DeviceRow) (result : RedeemPairTokenResult)
deriving DecidableEq

/-- A token that can be claimed. -/
def claimable (now : ℕ) (pairToken : JsString) (row : PairTokenRow) : Bool :=
  row.tokenHash = env.sha256Hex pairToken && row.redeemedAt.isNone && now < row.expiresAt

/-- `redeemPairToken`. -/
def redeemPairToken (draw : Draw) (args : RedeemArgs) (r : Registry) :
    RedeemStage → Registry × RedeemStage
  | .claim =>
    match r.pairTokens.rows.find? (claimable env args.now args.pairToken) with
    | none => (r, .refused)
    | some token =>
      let pairTokens := r.pairTokens.update (claimable env args.now args.pairToken)
        (PairTokenRow.claim args.now) (pairTokenColumns_claim args.now)
      ({ r with pairTokens }, .insert (token.claim args.now))
  | .insert token =>
    let deviceToken := mintSecret (js "dt") draw.secret
    let device : DeviceRow :=
      { id := draw.id
        orgId := token.orgId
        userId := token.userId
        name := args.deviceName.getD (js "device")
        deviceTokenHash := env.sha256Hex deviceToken
        devicePublicKey := args.devicePublicKeyB64 }
    match r.devices.insert device with
    | none => (r, .failed token)
    | some devices => ({ r with devices }, .stamp token device deviceToken)
  | .stamp token device deviceToken =>
    let pairTokens := r.pairTokens.update (fun row => row.id = token.id)
      (PairTokenRow.stamp device.id) (pairTokenColumns_stamp device.id)
    ({ r with pairTokens }, .load token device deviceToken)
  | .load token device deviceToken =>
    match r.hosts.get HostRecord.id token.hostId with
    | none => (r, .failed token)
    | some host =>
      (r, .redeemed token device
        { deviceToken
          hostId := host.id
          staticPublicKeyB64 := host.staticPublicKey
          directorUrl := env.directorUrl })
  | stage => (r, stage)

/-! ## Polling a pair token -/

/-- The device of a redeemed token. -/
structure PairedDevice where
  name : JsString
  publicKeyB64 : Option JsString
deriving DecidableEq

/-- `PairTokenStatusResult`. -/
inductive PairTokenStatusResult
  | pending
  | redeemed (device : Option PairedDevice)
  | expired
deriving DecidableEq

/-- Where a poll has got to. -/
inductive StatusStage
  | token
  | device (id : JsString)
  | done (status : Option PairTokenStatusResult)
deriving DecidableEq

/-- `pairTokenStatus`. -/
def pairTokenStatus (now : ℕ) (pairToken : JsString) (r : Registry) : StatusStage → StatusStage
  | .token =>
    match r.pairTokens.get PairTokenRow.tokenHash (env.sha256Hex pairToken) with
    | none => .done none
    | some row =>
      if row.redeemedAt.isSome then
        match row.redeemedDeviceId with
        | none => .done (some (.redeemed none))
        | some id => .device id
      else .done (some (if row.expiresAt ≤ now then .expired else .pending))
  | .device id =>
    .done (some (.redeemed ((r.devices.get DeviceRow.id id).map fun row =>
      ⟨row.name, row.devicePublicKey⟩)))
  | stage => stage

/-- The arguments of `pairTokenStatus`. -/
structure StatusArgs where
  now : ℕ
  pairToken : JsString
deriving DecidableEq

/-- The arguments of `enrollDevice`. -/
structure EnrollArgs where
  pairToken : JsString
  expiresAt : ℕ
deriving DecidableEq

/-- Where an enrollment on the host has got to; `device` is the key the human is to compare. -/
inductive EnrollStage
  | wait
  | poll (stage : StatusStage)
  | expired
  | noKey
  | failed
  | device (name publicKeyB64 : JsString)
deriving DecidableEq

/-- What `enrollDevice` makes of a status. -/
def EnrollStage.ofStatus : Option PairTokenStatusResult → EnrollStage
  | none => .failed
  | some .pending => .wait
  | some .expired => .expired
  | some (.redeemed (some ⟨name, some publicKeyB64⟩)) =>
    if publicKeyB64.length = 0 then .noKey else .device name publicKeyB64
  | some (.redeemed _) => .noKey

/-- The polling loop of `enrollDevice`. -/
def enrollDevice (draw : Draw) (args : EnrollArgs) (r : Registry) : EnrollStage → EnrollStage
  | .wait => if draw.now ≥ args.expiresAt then .expired else .poll .token
  | .poll stage =>
    match pairTokenStatus env draw.now args.pairToken r stage with
    | .done status => .ofStatus status
    | stage => .poll stage
  | stage => stage

/-! ## Relay tickets -/

/-- `ticketKey`. -/
def ticketKey (ticket : JsString) : JsString := js "relay:tkt:" ++ env.sha256Hex ticket

/-- `TICKET_MINT_ATTEMPTS`. -/
def ticketMintAttempts : ℕ := 3

/-- The host that `POST /v1/relay/tickets` names, and the principal it is from. -/
structure IssueArgs where
  hostId : JsString
  orgId : JsString
  principalKind : TicketPrincipalKind
  principalId : JsString
deriving DecidableEq

/-- `IssueTicketResult`. -/
structure IssueTicketResult where
  ticket : JsString
  expiresAt : ℕ
  cellUrl : Option JsString
  hostPublicKeyB64 : JsString
deriving DecidableEq

/-- Where an issue has got to. -/
inductive IssueStage
  | check
  | mint (host : HostRecord) (expiresAt attempt : ℕ)
  | refused
  | failed
  | issued (host : HostRecord) (result : IssueTicketResult)
deriving DecidableEq

/-- The record that is stored under a ticket. -/
def IssueArgs.value (args : IssueArgs) (host : HostRecord) (expiresAt : ℕ) : TicketValue :=
  { hostId := host.id
    orgId := args.orgId
    principalKind := args.principalKind
    principalId := args.principalId
    expiresAt }

/-- `POST /v1/relay/tickets` with its `issueTicket`. -/
def issueTicket (draw : Draw) (args : IssueArgs) (r : Registry) : IssueStage → Registry × IssueStage
  | .check =>
    match r.hosts.get HostRecord.id args.hostId with
    | none => (r, .refused)
    | some host =>
      (r, if host.revokedAt.isSome || host.orgId ≠ args.orgId then .refused
        else .mint host (draw.now + env.relayTicketTtlMs) 0)
  | .mint host expiresAt attempt =>
    let ticket := mintSecret (js "tkt") draw.secret
    let stored := r.redis.setNx (ticketKey env ticket) (args.value host expiresAt)
      (some env.relayTicketTtlMs)
    ({ r with redis := stored.1 },
      if stored.2 then
        .issued host
          { ticket
            expiresAt
            cellUrl := env.directorUrl
            hostPublicKeyB64 := host.staticPublicKey }
      else if attempt + 1 < ticketMintAttempts then .mint host expiresAt (attempt + 1)
      else .failed)
  | stage => (r, stage)

/-- `loadActiveHost`. -/
def loadActiveHost (r : Registry) (hostId : JsString) : Option HostRecord :=
  match r.hosts.get HostRecord.id hostId with
  | none => none
  | some row => if row.revokedAt.isSome then none else some row

/-- `ConsumedTicket`. -/
structure ConsumedTicket where
  hostId : JsString
  orgId : JsString
  expiresAt : ℕ
  hostStaticPublicKey : Bytes
  hostPublicKeyB64 : JsString
deriving DecidableEq

/-- The arguments of `consumeTicket`, and the cell that asks. -/
structure ResolveArgs where
  cell : ℕ
  now : ℕ
  ticket : JsString
deriving DecidableEq

/-- Where the resolution of a ticket has got to; `bridged` and `turnedAway` are behind the cell's own
checks. -/
inductive ResolveStage
  | take
  | load (record : TicketValue)
  | refused
  | resolved (record : TicketValue) (consumed : ConsumedTicket)
  | bridged (record : TicketValue) (consumed : ConsumedTicket)
  | turnedAway (record : TicketValue) (code : RelayCloseCode)
deriving DecidableEq

/-- `#markTicketUsed`. -/
def markTicketUsed (usedTickets : List JsString) (ticket : JsString) : List JsString :=
  let used := if ticket ∈ usedTickets then usedTickets else usedTickets ++ [ticket]
  used.drop (used.length - maxUsedTickets)

/-- `#beginControllerBridge` behind its `await`: the refusal, or the used tickets from then on. -/
def beginControllerBridge (usedTickets : List JsString) (now : ℕ) (registered : Bool)
    (ticket : JsString) (expiresAt : ℕ) : Except RelayCloseCode (List JsString) :=
  if now ≥ expiresAt then .error .ticketExpired
  else if ticket ∈ usedTickets then .error .ticketReused
  else if registered then .ok (markTicketUsed usedTickets ticket)
  else .error .unknownHost

/-- `consumeTicket`, and behind it the cell that asked. -/
def consumeTicket (draw : Draw) (args : ResolveArgs) (r : Registry) :
    ResolveStage → Registry × ResolveStage
  | .take =>
    let taken := r.redis.getdel (ticketKey env args.ticket)
    ({ r with redis := taken.1 }, match taken.2 with
      | none => .refused
      | some record => if record.expiresAt ≤ args.now then .refused else .load record)
  | .load record =>
    match loadActiveHost r record.hostId with
    | none => (r, .refused)
    | some activeHost =>
      (r, match decodeKey activeHost.staticPublicKey with
        | none => .refused
        | some bytes => .resolved record
            { hostId := activeHost.id
              orgId := record.orgId
              expiresAt := record.expiresAt
              hostStaticPublicKey := bytes
              hostPublicKeyB64 := activeHost.staticPublicKey })
  | .resolved record consumed =>
    match beginControllerBridge (r.usedTickets args.cell) draw.now draw.registered args.ticket
        consumed.expiresAt with
    | .error code => (r, .turnedAway record code)
    | .ok used =>
      ({ r with usedTickets := Function.update r.usedTickets args.cell used },
        .bridged record consumed)
  | stage => (r, stage)

/-! ## Requests -/

/-- A request. -/
inductive RegistryRequest
  | register (args : RegisterArgs)
  | revoke (args : RevokeArgs)
  | authenticate (header : Option JsString)
  | pair (args : PairArgs)
  | redeem (args : RedeemArgs)
  | status (args : StatusArgs)
  | enroll (args : EnrollArgs)
  | issue (args : IssueArgs)
  | resolve (args : ResolveArgs)

/-- A request that has got so far. -/
inductive RegistryCall
  | register (args : RegisterArgs) (stage : RegisterStage)
  | revoke (args : RevokeArgs) (stage : RevokeStage)
  | authenticate (header : Option JsString) (stage : AuthenticateStage)
  | pair (args : PairArgs) (stage : PairStage)
  | redeem (args : RedeemArgs) (stage : RedeemStage)
  | status (args : StatusArgs) (stage : StatusStage)
  | enroll (args : EnrollArgs) (stage : EnrollStage)
  | issue (args : IssueArgs) (stage : IssueStage)
  | resolve (args : ResolveArgs) (stage : ResolveStage)
deriving DecidableEq

/-- A request that arrives. -/
def RegistryRequest.call : RegistryRequest → RegistryCall
  | .register args => .register args .check
  | .revoke args => .revoke args .check
  | .authenticate header => .authenticate header .check
  | .pair args => .pair args .check
  | .redeem args => .redeem args .claim
  | .status args => .status args .token
  | .enroll args => .enroll args .wait
  | .issue args => .issue args .check
  | .resolve args => .resolve args .take

/-- The next statement of a request. -/
def RegistryCall.step (draw : Draw) (r : Registry) : RegistryCall → Registry × RegistryCall
  | .register args stage =>
    let x := registerHost env draw args r stage
    (x.1, .register args x.2)
  | .revoke args stage =>
    let x := revokeHost draw args r stage
    (x.1, .revoke args x.2)
  | .authenticate header stage => (r, .authenticate header (authenticateHost env header r stage))
  | .pair args stage =>
    let x := mintPairToken env draw args r stage
    (x.1, .pair args x.2)
  | .redeem args stage =>
    let x := redeemPairToken env draw args r stage
    (x.1, .redeem args x.2)
  | .status args stage => (r, .status args (pairTokenStatus env args.now args.pairToken r stage))
  | .enroll args stage => (r, .enroll args (enrollDevice env draw args r stage))
  | .issue args stage =>
    let x := issueTicket env draw args r stage
    (x.1, .issue args x.2)
  | .resolve args stage =>
    let x := consumeTicket env draw args r stage
    (x.1, .resolve args x.2)

/-- The registry and the requests on it. -/
abbrev Requests := Concurrent Registry RegistryCall

/-- What happens: time passes for the store, a request arrives, or a request gets a step done. -/
inductive RegistryEvent
  | advance (ms : ℕ)
  | request (request : RegistryRequest)
  | step (call : ℕ) (draw : Draw)

/-- One event. -/
def Requests.react (s : Requests) : RegistryEvent → Requests
  | .advance ms => { s with shared := { s.shared with redis := s.shared.redis.advance ms } }
  | .request request => s.start request.call
  | .step call draw => s.advance call (RegistryCall.step env draw)

/-- A control plane where nothing is registered yet. -/
def registryMachine (now : ℕ) : Machine Requests RegistryEvent where
  init := ⟨⟨.empty, .empty, .empty, .empty now, fun _ => []⟩, []⟩
  step s e := s.react env e

/-! ## A host that is paired -/

/-- A platform where nothing is hashed. -/
def plainRegistryEnv : RegistryEnv := ⟨id, 600000, 30000, 5, none⟩

/-- A draw of a row id and digits. -/
def drawn (now : ℕ) (id digits : String) : Draw := ⟨now, js id, js digits, true⟩

/-- A host is registered, and a pair token is minted for it. -/
def pairedHost : List RegistryEvent :=
  [.request (.register ⟨js "org_1", js "usr_1", js "mac",
      js "AAAAAAAAAAAAAAAAAAAAAAAAAAAAAAAAAAAAAAAAAAA="⟩),
    .step 0 (drawn 0 "" ""), .step 0 (drawn 0 "host_1" "01"),
    .request (.pair ⟨js "host_1", js "org_1", js "usr_1"⟩), .step 1 (drawn 1000 "" ""),
    .step 1 (drawn 1000 "pair_1" "02")]

end Pherry.ControlPlane
