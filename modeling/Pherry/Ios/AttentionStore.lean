import Pherry.Lib.Machine

/-!
# The phone's inbox

`AttentionStore`, whose fetches suspend between reading the cursor and merging what they got. Refreshes and the
poll loop may overlap, and the store may be pointed at another account meanwhile.
-/

namespace Pherry.Ios

open Lib

/-! ## The store -/

/-- `AttentionItem`. -/
structure AttentionItem where
  id : String
  hostId : String
  sessionRef : String
  kind : String
  summary : String
  question : Option String
  options : Option (List String)
  urgency : String
  createdAt : ℤ

/-- `AttentionStore`. The badge is what `setBadge` was last called with, a poll task its number. -/
structure AttentionStore (Api : Type) where
  items : List AttentionItem
  isLoading : Bool
  lastError : Option String
  since : Option ℤ
  api : Option Api
  pollTask : Option ℕ
  badge : Option ℕ

variable {Api : Type}

namespace AttentionStore

/-- A new store. -/
def new : AttentionStore Api :=
  { items := []
    isLoading := false
    lastError := none
    since := none
    api := none
    pollTask := none
    badge := none }

/-- `syncBadge`. -/
def syncBadge (s : AttentionStore Api) : AttentionStore Api :=
  { s with badge := some s.items.length }

/-- The loop of `apply` over a batch. -/
def insertUnseen (items : List AttentionItem) : List AttentionItem → List AttentionItem
  | [] => items
  | event :: events =>
    insertUnseen (if items.any (·.id == event.id) then items else items ++ [event]) events

/-- The cursor behind a batch. -/
def advance (since : Option ℤ) (events : List AttentionItem) : Option ℤ :=
  match (events.map (·.createdAt)).max? with
  | none => since
  | some newest =>
    match since with
    | none => some newest
    | some since => some (max since newest)

/-- `apply`. -/
def apply (s : AttentionStore Api) (events : List AttentionItem) : AttentionStore Api :=
  syncBadge
    { s with
      items := (insertUnseen s.items events).mergeSort fun a b => b.createdAt ≤ a.createdAt
      since := advance s.since events }

/-- `remove`. -/
def remove (s : AttentionStore Api) (id : String) : AttentionStore Api :=
  syncBadge { s with items := s.items.filter fun item => !(item.id == id) }

end AttentionStore

/-! ## What runs beside it -/

/-- A `fetch` that awaits the API, with the poll task that awaits it. -/
structure AttentionFetch (Api : Type) where
  api : Api
  since : Option ℤ
  waitMs : Option ℕ
  poll : Option ℕ
deriving DecidableEq

/-- Where `pollLoop` stands: before its first fetch, within a fetch, at the head of its loop, behind a long
poll, in its sleep, or at its end. -/
inductive PollStage
  | begun
  | fetching
  | looping
  | fetched
  | sleeping
  | finished

/-- A task of `pollLoop`. -/
structure PollTask where
  cancelled : Bool
  stage : PollStage

/-- What a call of the API throws. -/
inductive FetchError
  | cancellation
  | other

/-- What has happened since the store was last configured; no step reads it. The events that the configured API
has returned, and the ids that were acknowledged or removed here. -/
structure InboxHistory where
  returned : List AttentionItem
  gone : List String

/-- The inbox: its store, the fetches and the acks that are in flight, every poll task there was. -/
structure Inbox (Api : Type) where
  store : AttentionStore Api
  fetches : List (AttentionFetch Api)
  acks : List (Api × String)
  polls : List PollTask
  history : InboxHistory

/-- What happens to the inbox. `poll` lets a poll task run until it awaits, `reply` and `ackReply` answer a
fetch and an ack; an ack is over however it is answered. -/
inductive InboxEvent (Api : Type)
  | configure (api : Option Api)
  | refresh
  | startPolling
  | stopPolling
  | poll (task : ℕ)
  | reply (i : ℕ) (reply : Except FetchError (List AttentionItem))
  | ack (id : String)
  | ackReply (i : ℕ)
  | remove (id : String)

namespace Inbox

/-- A new inbox. -/
def new : Inbox Api :=
  { store := .new
    fetches := []
    acks := []
    polls := []
    history :=
      { returned := []
        gone := [] } }

/-! ### Fetching -/

/-- A poll task goes on at a stage. -/
def setStage (s : Inbox Api) (task : ℕ) (stage : PollStage) : Inbox Api :=
  { s with polls := s.polls.modify task fun poll => { poll with stage } }

/-- The stage behind a fetch of `pollLoop`. -/
def stageBehind (waitMs : Option ℕ) : PollStage :=
  if waitMs.isNone then .looping else .fetched

/-- `fetch` is over for the poll task that awaits it. -/
def resume (s : Inbox Api) (poll : Option ℕ) (waitMs : Option ℕ) : Inbox Api :=
  match poll with
  | none => s
  | some task => s.setStage task (stageBehind waitMs)

/-- `fetch` up to its await. -/
def fetch (s : Inbox Api) (waitMs : Option ℕ) (poll : Option ℕ) : Inbox Api :=
  match s.store.api with
  | none => s.resume poll waitMs
  | some api =>
    let s :=
      match poll with
      | none => s
      | some task => s.setStage task .fetching
    { s with
      store.isLoading := s.store.items.isEmpty
      fetches := s.fetches ++ [{ api, since := s.store.since, waitMs, poll }] }

variable [DecidableEq Api]

/-- `fetch` behind its await. -/
def reply (s : Inbox Api) (i : ℕ) (reply : Except FetchError (List AttentionItem)) : Inbox Api :=
  match s.fetches[i]? with
  | none => s
  | some fetch =>
    let store :=
      match reply with
      | .ok events => { s.store.apply events with lastError := none }
      | .error .cancellation => s.store
      | .error .other => { s.store with lastError := some "Couldn't refresh the inbox." }
    let returned :=
      match reply with
      | .ok events => if s.store.api = some fetch.api then events else []
      | .error _ => []
    let s :=
      { s with
        store := { store with isLoading := false }
        fetches := s.fetches.eraseIdx i
        history.returned := s.history.returned ++ returned }
    s.resume fetch.poll fetch.waitMs

/-! ### Acks -/

/-- `remove`. -/
def remove (s : Inbox Api) (id : String) : Inbox Api :=
  { s with
    store := s.store.remove id
    history.gone := id :: s.history.gone }

/-- `ack` up to its await. -/
def ack (s : Inbox Api) (id : String) : Inbox Api :=
  match s.store.api with
  | none => s
  | some api => { s with acks := s.acks ++ [(api, id)] }

/-- `ack` behind its await. -/
def ackReply (s : Inbox Api) (i : ℕ) : Inbox Api :=
  match s.acks[i]? with
  | none => s
  | some (_, id) => remove { s with acks := s.acks.eraseIdx i } id

/-! ### The polling lifecycle -/

/-- `startPolling`. -/
def startPolling (s : Inbox Api) : Inbox Api :=
  if s.store.pollTask.isSome || s.store.api.isNone then s
  else
    { s with
      store.pollTask := some s.polls.length
      polls := s.polls ++ [{ cancelled := false, stage := .begun }] }

/-- `stopPolling`. -/
def stopPolling (s : Inbox Api) : Inbox Api :=
  match s.store.pollTask with
  | none => s
  | some task =>
    { s with
      store.pollTask := none
      polls := s.polls.modify task fun poll => { poll with cancelled := true } }

/-- `pollLoop`, up to its next await. -/
def poll (s : Inbox Api) (task : ℕ) : Inbox Api :=
  match s.polls[task]? with
  | none => s
  | some { cancelled, stage } =>
    match stage with
    | .begun => s.fetch none (some task)
    | .looping => if cancelled then s.setStage task .finished else s.fetch (some 25000) (some task)
    | .fetched =>
      if cancelled then s.setStage task .finished
      else if s.store.lastError.isSome then s.setStage task .sleeping
      else s.fetch (some 25000) (some task)
    | .sleeping => s.setStage task .looping
    | .fetching => s
    | .finished => s

/-- `configure`. -/
def configure (s : Inbox Api) (api : Option Api) : Inbox Api :=
  let s := s.stopPolling
  { s with
    store := AttentionStore.syncBadge
      { s.store with
        api
        items := []
        since := none
        lastError := none }
    history :=
      { returned := []
        gone := [] } }

/-- One event. -/
def step (s : Inbox Api) : InboxEvent Api → Inbox Api
  | .configure api => s.configure api
  | .refresh => s.fetch none none
  | .startPolling => s.startPolling
  | .stopPolling => s.stopPolling
  | .poll task => s.poll task
  | .reply i reply => s.reply i reply
  | .ack id => s.ack id
  | .ackReply i => s.ackReply i
  | .remove id => s.remove id

end Inbox

/-- An inbox that is new. -/
def inboxMachine [DecidableEq Api] : Machine (Inbox Api) (InboxEvent Api) where
  init := .new
  step := Inbox.step

/-! ## Consistency -/

/-- The inbox shows each event once, newest first, and their number. Each was returned by the configured API and
is not acknowledged or removed, and the cursor is not ahead of what that API has returned. -/
structure InboxConsistent (s : Inbox Api) : Prop where
  distinct : (s.store.items.map (·.id)).Nodup
  newestFirst : s.store.items.Pairwise fun a b => b.createdAt ≤ a.createdAt
  badge : ∀ shown, s.store.badge = some shown → shown = s.store.items.length
  fetched : ∀ item ∈ s.store.items, item ∈ s.history.returned
  cleared : ∀ item ∈ s.store.items, item.id ∉ s.history.gone
  cursor : ∀ since, s.store.since = some since → ∃ item ∈ s.history.returned, since ≤ item.createdAt

/-- A response of the configured API holds nothing that was acknowledged or removed since it was configured. One
that was asked of another API holds nothing new: its events are in the inbox, and not newer than the cursor. -/
def timely (s : Inbox Api) : InboxEvent Api → Prop
  | .reply i (.ok events) => ∀ fetch, s.fetches[i]? = some fetch →
      (s.store.api = some fetch.api → ∀ event ∈ events, event.id ∉ s.history.gone) ∧
      (s.store.api ≠ some fetch.api → ∀ event ∈ events,
        (∃ item ∈ s.store.items, item.id = event.id) ∧
        ∃ since, s.store.since = some since ∧ event.createdAt ≤ since)
  | _ => True

end Pherry.Ios
