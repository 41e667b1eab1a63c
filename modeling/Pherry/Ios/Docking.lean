import Pherry.Ios.SecureChannel

/-!
# Docking a host on the phone

What the phone trusts: the credential and the hosts it has docked, each with the key it pins. A redeem reads
and writes them behind its await, `PairFlowView` stands before it with the confirm card, and every screen that
reaches a host reads the pin from there.
-/

namespace Pherry.Ios

open Lib

/-! ## URLs -/

/-- What the platform offers for URLs. -/
structure Foundation (URL : Type) where
  url : String → Option URL
  absoluteString : URL → String
  scheme : URL → Option String
  host : URL → Option String
  port : URL → Option ℕ
  lowercased : String → String
  url_absoluteString : ∀ u, url (absoluteString u) = some u

variable {URL : Type}

/-! ## The model -/

/-- `PairLink`. -/
structure PairLink (URL : Type) where
  pairToken : String
  hostId : String
  hostStaticPublicKey : Bytes
  directorUrl : Option String
  apiUrl : Option URL

/-- `PairRedeemResult`. -/
structure PairRedeemResult where
  deviceToken : String
  signInToken : Option String
  hostId : String
  hostStaticPublicKey : Bytes
  directorUrl : Option String

/-- `PairedHost`. -/
structure PairedHost where
  id : String
  name : String
  staticPublicKey : Bytes
  directorUrl : Option String

/-- `PairedHost.defaultName`. -/
def PairedHost.defaultName (hostId : String) : String :=
  let core := if "host_".toList <+: hostId.toList then hostId.toList.drop 5 else hostId.toList
  let short := core.take 6
  if short.isEmpty then hostId else "host " ++ String.ofList short

/-- `PersistedState`, what the keychain holds. -/
structure PersistedState where
  deviceToken : Option String
  apiUrl : Option String
  signInToken : Option String
  hosts : List PairedHost

/-- `AppModel`, as far as trust goes, and its entry in the keychain. -/
structure AppModel (URL : Type) where
  deviceToken : Option String
  apiUrl : Option URL
  signInToken : Option String
  hosts : List PairedHost
  keychain : Option PersistedState

namespace AppModel

/-- A phone without a credential. -/
def blank : AppModel URL :=
  { deviceToken := none
    apiUrl := none
    signInToken := none
    hosts := []
    keychain := none }

/-- `pinnedKey(for:)`. -/
def pinnedKey (m : AppModel URL) (hostId : String) : Option Bytes :=
  (m.hosts.find? (·.id == hostId)).map (·.staticPublicKey)

/-- The state that `persist` writes. -/
def persisted (foundation : Foundation URL) (m : AppModel URL) : PersistedState :=
  { deviceToken := m.deviceToken
    apiUrl := m.apiUrl.map foundation.absoluteString
    signInToken := m.signInToken
    hosts := m.hosts }

/-- `persist`. -/
def persist (foundation : Foundation URL) (m : AppModel URL) : AppModel URL :=
  { m with keychain := some (m.persisted foundation) }

/-- A new process: `load` on a blank model. -/
def load (foundation : Foundation URL) (keychain : Option PersistedState) : AppModel URL :=
  match keychain with
  | none => blank
  | some state =>
    { deviceToken := state.deviceToken
      apiUrl := state.apiUrl.bind foundation.url
      signInToken := state.signInToken
      hosts := state.hosts
      keychain := some state }

/-- `upsertHost`. -/
def upsertHost (hosts : List PairedHost) (host : PairedHost) : List PairedHost :=
  match hosts.findIdx? (·.id == host.id) with
  | some index => hosts.set index host
  | none => hosts ++ [host]

/-- `rename`, with the trimmed text. -/
def rename (foundation : Foundation URL) (m : AppModel URL) (hostId trimmed : String) : AppModel URL :=
  match m.hosts.findIdx? (·.id == hostId) with
  | none => m
  | some index =>
    let name := if trimmed.isEmpty then PairedHost.defaultName hostId else trimmed
    persist foundation { m with hosts := m.hosts.modify index fun host => { host with name } }

/-- `unpair`. -/
def unpair (foundation : Foundation URL) (m : AppModel URL) (hostId : String) : AppModel URL :=
  persist foundation { m with hosts := m.hosts.filter fun host => !(host.id == hostId) }

end AppModel

/-- `PairRefusal`. -/
inductive PairRefusal
  | insecureApiUrl
  | hostMismatch
  | repinRefused

/-- `redeem` behind its await: the new model, or a refusal. -/
def AppModel.redeemed (foundation : Foundation URL) (m : AppModel URL) (link : PairLink URL) (apiUrl : URL)
    (allowRepin : Bool) (result : PairRedeemResult) : Except PairRefusal (AppModel URL) :=
  if result.hostId ≠ link.hostId then .error .hostMismatch
  else if (m.hosts.find? (·.id == result.hostId)).any fun existing =>
      existing.staticPublicKey != link.hostStaticPublicKey && !allowRepin then
    .error .repinRefused
  else
    let m := if m.apiUrl.isNone then { m with apiUrl := some apiUrl } else m
    let m :=
      if m.deviceToken.isNone then
        { m with
          deviceToken := some result.deviceToken
          signInToken := result.signInToken }
      else m
    let host :=
      { id := result.hostId
        name := PairedHost.defaultName result.hostId
        staticPublicKey := link.hostStaticPublicKey
        directorUrl := link.directorUrl.orElse fun _ => result.directorUrl }
    .ok (persist foundation { m with hosts := upsertHost m.hosts host })

/-! ## The pair policy -/

namespace PairPolicy

/-- `PairPolicy.Warning`. -/
inductive Warning
  | newApiOrigin (origin : String)
  | repinsHostKey (hostId : String)

variable (foundation : Foundation URL)

/-- `allowsApiUrl`. -/
def allowsApiUrl (url : URL) : Bool :=
  match (foundation.scheme url).map foundation.lowercased, (foundation.host url).map foundation.lowercased with
  | some scheme, some host =>
    if host.isEmpty then false
    else if scheme = "https" then true
    else if scheme = "http" then host = "localhost" || host = "127.0.0.1" || host = "::1"
    else false
  | _, _ => false

/-- `origin`. -/
def origin (url : URL) : String :=
  let scheme := ((foundation.scheme url).map foundation.lowercased).getD ""
  let host := ((foundation.host url).map foundation.lowercased).getD ""
  let port := ((foundation.port url).map fun port => ":" ++ toString port).getD ""
  scheme ++ "://" ++ host ++ port

/-- `warnings`. -/
def warnings (link : PairLink URL) (apiUrl : URL) (storedApiUrl : Option URL) (hosts : List PairedHost) :
    List Warning :=
  (if (storedApiUrl.map fun stored => origin foundation stored != origin foundation apiUrl).getD true then
    [.newApiOrigin (origin foundation apiUrl)] else []) ++
  match hosts.find? (·.id == link.hostId) with
  | some existing =>
    if existing.staticPublicKey ≠ link.hostStaticPublicKey then [.repinsHostKey link.hostId] else []
  | none => []

end PairPolicy

/-! ## The screens -/

/-- Why a flow has failed. -/
inductive PairFailure
  | refusal (refusal : PairRefusal)
  | api (status : ℕ)
  | network
  | unexpected

/-- `PairFlowView.Step`. -/
inductive PairStep (URL : Type)
  | capture
  | needApi (link : PairLink URL)
  | confirm (link : PairLink URL) (apiUrl : URL) (warnings : List PairPolicy.Warning)
  | redeeming
  | success (name : String)
  | failed (failure : PairFailure)

/-- A `PairFlowView`: the link it is seeded with, if any, and its step. -/
structure PairFlow (URL : Type) where
  link : Option (PairLink URL)
  step : PairStep URL

/-- A `redeem` that awaits the control plane, and the flow that called it. -/
structure RedeemTask (URL : Type) where
  flow : ℕ
  link : PairLink URL
  apiUrl : URL
  allowRepin : Bool

/-- A `SessionsStore.refresh` that awaits the control plane, and when it read the hosts. -/
structure Listing (URL : Type) where
  hosts : List PairedHost
  apiUrl : URL
  deviceToken : String
  readAt : ℕ

/-- `RelayTicketResult`, with its cell address parsed: `none` if it is not there or not an address. -/
structure RelayTicketResult where
  ticket : String
  cell : Option (String × ℕ)
  hostPublicKey : Bytes

/-- What a call of `HostConnection.connect` awaits. -/
inductive ConnectStage
  | ticket
  | cell (ticket : String)
  | bridge (ticket : String)
deriving DecidableEq

/-- A call of `HostConnection.connect`, and when its caller read the pin. -/
structure Connecting (URL : Type) where
  apiUrl : URL
  deviceToken : String
  hostId : String
  pinnedHostStatic : Bytes
  stage : ConnectStage
  readAt : ℕ

/-- A channel that `connect` has opened, for a host with a ticket, when its pin was read and when it was
opened. -/
structure OpenedChannel where
  hostId : String
  ticket : String
  role : ChannelRole
  readAt : ℕ
  openedAt : ℕ
deriving DecidableEq

/-- What has happened on the phone; no step reads it. The links that were scanned, pasted or opened, the cards
that were confirmed, the redeems that succeeded, the channels that were opened, and how many events there
were. -/
structure DockHistory (URL : Type) where
  scanned : List (PairLink URL)
  confirmed : List (RedeemTask URL × List PairPolicy.Warning)
  redeemed : List (RedeemTask URL × PairRedeemResult)
  channels : List OpenedChannel
  now : ℕ

/-- The phone: its model, its pair flows, the redeems, listings and connects that are in flight, the host that
the create sheet has selected, and when that was. -/
structure Phone (URL : Type) where
  model : AppModel URL
  flows : List (PairFlow URL)
  redeems : List (RedeemTask URL)
  listings : List (Listing URL)
  selected : Option (PairedHost × ℕ)
  connects : List (Connecting URL)
  history : DockHistory URL

/-- What happens on the phone. The control plane replies anything; `live` are the hosts it says were seen. -/
inductive PhoneEvent (URL : Type)
  | openFlow (link : Option (PairLink URL))
  | appeared (flow : ℕ)
  | captured (flow : ℕ) (link : PairLink URL)
  | enterApi (flow : ℕ) (url : URL)
  | dock (flow : ℕ)
  | backToCapture (flow : ℕ)
  | redeemReply (i : ℕ) (reply : Except PairFailure PairRedeemResult)
  | rename (hostId trimmed : String)
  | unpair (hostId : String)
  | signOut
  | relaunch
  | startTerminal (hostId : String)
  | refresh
  | listHostsReply (i : ℕ) (live : List String)
  | openCreateSheet
  | selectHost (index : ℕ)
  | retryOptions
  | ticketReply (i : ℕ) (reply : Option RelayTicketResult)
  | cellDialed (i : ℕ) (connected : Bool)
  | bridged (i : ℕ) (accepted : Bool)

namespace Phone

/-- A phone on which nothing has happened. -/
def new : Phone URL :=
  { model := .blank
    flows := []
    redeems := []
    listings := []
    selected := none
    connects := []
    history :=
      { scanned := []
        confirmed := []
        redeemed := []
        channels := []
        now := 0 } }

/-! ### Pairing -/

/-- `step` of a flow is set. -/
def setStep (s : Phone URL) (flow : ℕ) (step : PairStep URL) : Phone URL :=
  { s with flows := s.flows.modify flow fun f => { f with step } }

/-- `redeem` up to its await. -/
def redeem (foundation : Foundation URL) (s : Phone URL) (task : RedeemTask URL) : Phone URL :=
  if PairPolicy.allowsApiUrl foundation task.apiUrl then
    let s := s.setStep task.flow .redeeming
    { s with redeems := s.redeems ++ [task] }
  else s.setStep task.flow (.failed (.refusal .insecureApiUrl))

/-- `confirmOrRedeem`. -/
def confirmOrRedeem (foundation : Foundation URL) (s : Phone URL) (flow : ℕ) (seeded : Bool)
    (link : PairLink URL) (apiUrl : URL) : Phone URL :=
  if !PairPolicy.allowsApiUrl foundation apiUrl then s.setStep flow (.failed (.refusal .insecureApiUrl))
  else
    let warnings := PairPolicy.warnings foundation link apiUrl s.model.apiUrl s.model.hosts
    if seeded || !warnings.isEmpty then s.setStep flow (.confirm link apiUrl warnings)
    else s.redeem foundation { flow, link, apiUrl, allowRepin := false }

/-- `begin`. -/
def begin (foundation : Foundation URL) (s : Phone URL) (flow : ℕ) (seeded : Bool) (link : PairLink URL) :
    Phone URL :=
  let s := { s with history.scanned := link :: s.history.scanned }
  match link.apiUrl.or s.model.apiUrl with
  | some api => s.confirmOrRedeem foundation flow seeded link api
  | none => s.setStep flow (.needApi link)

/-- A flow is presented. -/
def openFlow (s : Phone URL) (link : Option (PairLink URL)) : Phone URL :=
  { s with flows := s.flows ++ [{ link, step := .capture }] }

/-- `seedIfNeeded`. -/
def appeared (foundation : Foundation URL) (s : Phone URL) (flow : ℕ) : Phone URL :=
  match s.flows[flow]? with
  | some { link := some link, step := .capture } => s.begin foundation flow true link
  | _ => s

/-- `captured`, or `pasteContinue`. -/
def captured (foundation : Foundation URL) (s : Phone URL) (flow : ℕ) (link : PairLink URL) : Phone URL :=
  match s.flows[flow]? with
  | some { link := seed, step := .capture } => s.begin foundation flow seed.isSome link
  | _ => s

/-- The button of `apiStep`, which is disabled unless the URL is allowed. -/
def enterApi (foundation : Foundation URL) (s : Phone URL) (flow : ℕ) (url : URL) : Phone URL :=
  match s.flows[flow]? with
  | some { link := seed, step := .needApi link } =>
    if PairPolicy.allowsApiUrl foundation url then s.confirmOrRedeem foundation flow seed.isSome link url else s
  | _ => s

/-- The "Dock" button of the confirm card. -/
def dock (foundation : Foundation URL) (s : Phone URL) (flow : ℕ) : Phone URL :=
  match s.flows[flow]? with
  | some { step := .confirm link apiUrl warnings, .. } =>
    let allowRepin := warnings.any fun
      | .repinsHostKey _ => true
      | _ => false
    let task : RedeemTask URL := { flow, link, apiUrl, allowRepin }
    let s := { s with history.confirmed := (task, warnings) :: s.history.confirmed }
    s.redeem foundation task
  | _ => s

/-- "Cancel" on the confirm card, or "Try again". -/
def backToCapture (s : Phone URL) (flow : ℕ) : Phone URL :=
  match s.flows[flow]? with
  | some { step := .confirm .., .. } => s.setStep flow .capture
  | some { step := .failed _, .. } => s.setStep flow .capture
  | _ => s

/-- The control plane answers a redeem, or does not. -/
def redeemReply (foundation : Foundation URL) (s : Phone URL) (i : ℕ)
    (reply : Except PairFailure PairRedeemResult) : Phone URL :=
  match s.redeems[i]? with
  | none => s
  | some task =>
    let s := { s with redeems := s.redeems.eraseIdx i }
    match reply with
    | .error failure => s.setStep task.flow (.failed failure)
    | .ok result =>
      match s.model.redeemed foundation task.link task.apiUrl task.allowRepin result with
      | .error refusal => s.setStep task.flow (.failed (.refusal refusal))
      | .ok model =>
        let s :=
          { s with
            model
            history.redeemed := (task, result) :: s.history.redeemed }
        s.setStep task.flow (.success (PairedHost.defaultName task.link.hostId))

/-! ### Reaching a host -/

/-- `HostConnection.connect` is called. -/
def connect (s : Phone URL) (apiUrl : URL) (deviceToken hostId : String) (pinnedHostStatic : Bytes) (readAt : ℕ) :
    Phone URL :=
  let connecting := { apiUrl, deviceToken, hostId, pinnedHostStatic, stage := .ticket, readAt }
  { s with connects := s.connects ++ [connecting] }

/-- `start` of a terminal. -/
def startTerminal (s : Phone URL) (hostId : String) : Phone URL :=
  match s.model.apiUrl, s.model.deviceToken, s.model.pinnedKey hostId with
  | some apiUrl, some token, some pin => s.connect apiUrl token hostId pin s.history.now
  | _, _, _ => s

/-- `refresh` up to its first await. -/
def refresh (s : Phone URL) : Phone URL :=
  match s.model.apiUrl, s.model.deviceToken with
  | some apiUrl, some deviceToken =>
    if s.model.hosts.isEmpty then s
    else
      let listing := { hosts := s.model.hosts, apiUrl, deviceToken, readAt := s.history.now }
      { s with listings := s.listings ++ [listing] }
  | _, _ => s

/-- `refresh` behind it: one dial for each host that is online. -/
def listHostsReply (s : Phone URL) (i : ℕ) (live : List String) : Phone URL :=
  match s.listings[i]? with
  | none => s
  | some listing =>
    let online := listing.hosts.filter fun host => live.contains host.id
    let s := { s with listings := s.listings.eraseIdx i }
    online.foldl
      (fun s host =>
        s.connect listing.apiUrl listing.deviceToken host.id host.staticPublicKey listing.readAt) s

/-- `loadOptions` of the create sheet. -/
def loadOptions (s : Phone URL) (apiUrl : URL) (deviceToken : String) : Phone URL :=
  match s.selected with
  | none => s
  | some (host, readAt) => s.connect apiUrl deviceToken host.id host.staticPublicKey readAt

/-- `select` of the create sheet. -/
def selectHost (s : Phone URL) (index : ℕ) : Phone URL :=
  match s.model.apiUrl, s.model.deviceToken, s.model.hosts[index]? with
  | some apiUrl, some deviceToken, some host =>
    if s.selected.map (·.1.id) = some host.id then s
    else loadOptions { s with selected := some (host, s.history.now) } apiUrl deviceToken
  | _, _, _ => s

/-- `retryOptions`. -/
def retryOptions (s : Phone URL) : Phone URL :=
  match s.model.apiUrl, s.model.deviceToken with
  | some apiUrl, some deviceToken => s.loadOptions apiUrl deviceToken
  | _, _ => s

/-- `connect` goes on, or is over. -/
def advance (s : Phone URL) (i : ℕ) (connecting : Connecting URL) : Option ConnectStage → Phone URL
  | none => { s with connects := s.connects.eraseIdx i }
  | some stage => { s with connects := s.connects.set i { connecting with stage } }

/-- `connect` behind its ticket. -/
def ticketReply (s : Phone URL) (i : ℕ) (reply : Option RelayTicketResult) : Phone URL :=
  match s.connects[i]? with
  | none => s
  | some connecting =>
    if connecting.stage ≠ .ticket then s
    else
      match reply with
      | none => s.advance i connecting none
      | some ticket =>
        if ticket.cell.isNone then s.advance i connecting none
        else if ticket.hostPublicKey ≠ connecting.pinnedHostStatic then s.advance i connecting none
        else s.advance i connecting (some (.cell ticket.ticket))

/-- `connect` behind its dial. -/
def cellDialed (s : Phone URL) (i : ℕ) (connected : Bool) : Phone URL :=
  match s.connects[i]? with
  | none => s
  | some connecting =>
    match connecting.stage with
    | .cell ticket => s.advance i connecting (if connected then some (.bridge ticket) else none)
    | _ => s

/-- `connect` behind the relay's answer: the channel is opened on the pin. -/
def bridged (s : Phone URL) (i : ℕ) (accepted : Bool) : Phone URL :=
  match s.connects[i]? with
  | none => s
  | some connecting =>
    match connecting.stage with
    | .bridge ticket =>
      let s := s.advance i connecting none
      if accepted then
        let channel :=
          { hostId := connecting.hostId
            ticket
            role := .initiator connecting.pinnedHostStatic
            readAt := connecting.readAt
            openedAt := s.history.now }
        { s with history.channels := channel :: s.history.channels }
      else s
    | _ => s

/-! ### The phone's steps -/

/-- What an event does to the phone. -/
def handle (foundation : Foundation URL) (s : Phone URL) : PhoneEvent URL → Phone URL
  | .openFlow link => s.openFlow link
  | .appeared flow => s.appeared foundation flow
  | .captured flow link => s.captured foundation flow link
  | .enterApi flow url => s.enterApi foundation flow url
  | .dock flow => s.dock foundation flow
  | .backToCapture flow => s.backToCapture flow
  | .redeemReply i reply => s.redeemReply foundation i reply
  | .rename hostId trimmed => { s with model := s.model.rename foundation hostId trimmed }
  | .unpair hostId => { s with model := s.model.unpair foundation hostId }
  | .signOut => { s with model := .blank }
  | .relaunch => { new with model := .load foundation s.model.keychain, history := s.history }
  | .startTerminal hostId => s.startTerminal hostId
  | .refresh => s.refresh
  | .listHostsReply i live => s.listHostsReply i live
  | .openCreateSheet => { s with selected := none }
  | .selectHost index => s.selectHost index
  | .retryOptions => s.retryOptions
  | .ticketReply i reply => s.ticketReply i reply
  | .cellDialed i connected => s.cellDialed i connected
  | .bridged i accepted => s.bridged i accepted

/-- One event. -/
def step (foundation : Foundation URL) (s : Phone URL) (e : PhoneEvent URL) : Phone URL :=
  let s := s.handle foundation e
  { s with history.now := s.history.now + 1 }

end Phone

/-- A phone that is new. -/
def dockingMachine (foundation : Foundation URL) : Machine (Phone URL) (PhoneEvent URL) where
  init := .new
  step := Phone.step foundation

end Pherry.Ios
