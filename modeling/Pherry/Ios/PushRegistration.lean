import Pherry.Lib.Concurrent
import Pherry.Lib.Machine

/-!
# Push registration

`PushRegistrar` and the tasks it and `signOut` leave behind: a task reads what it was handed or what it finds
when it begins, and its request comes back in any order with the others.
-/

namespace Pherry.Ios

open Lib

/-! ## Requests -/

/-- The client and the device token that a registration hands over. -/
structure PushCredential where
  apiUrl : String
  deviceToken : String
deriving DecidableEq

/-- `TokenChange`. -/
inductive TokenChange
  | leave
  | clear
  | set (token : String)
deriving DecidableEq

/-- The alert token, and the token of PushKit. -/
inductive TokenKind
  | apns
  | voip
deriving DecidableEq

/-- A call of `registerPushTokens`. -/
structure PushRequest where
  credential : PushCredential
  pushToken : TokenChange
  voipPushToken : TokenChange
deriving DecidableEq

def PushRequest.change (r : PushRequest) : TokenKind → TokenChange
  | .apns => r.pushToken
  | .voip => r.voipPushToken

/-- A request that sets a token. -/
def PushRequest.SetsToken (r : PushRequest) : Prop := ∃ kind token, r.change kind = .set token

/-- `hexEncodedString`. -/
def hexEncodedString (data : List UInt8) : String :=
  String.ofList (data.flatMap fun b => [Nat.digitChar (b.toNat / 16), Nat.digitChar (b.toNat % 16)])

/-! ## The registrar -/

/-- `PushStatus`. -/
inductive PushStatus
  | idle
  | requesting
  | denied
  | registered
  | failed
deriving DecidableEq

/-- `PushRegistrar`. -/
structure PushRegistrar where
  status : PushStatus
  credential : Option PushCredential
  apnsTokenHex : Option String
  voipTokenHex : Option String

namespace PushRegistrar

def held (p : PushRegistrar) : TokenKind → Option String
  | .apns => p.apnsTokenHex
  | .voip => p.voipTokenHex

/-- A token arrives. -/
def hold (p : PushRegistrar) (token : String) : TokenKind → PushRegistrar
  | .apns => { p with apnsTokenHex := some token }
  | .voip => { p with voipTokenHex := some token }

/-- The status behind something that went one way or the other; a denial stays. -/
def settled (p : PushRegistrar) (ok : Bool) : PushRegistrar :=
  if p.status = .denied then p else { p with status := if ok then .registered else .failed }

/-- What `flush` would send. -/
def flush (p : PushRegistrar) : Option PushRequest :=
  match p.credential with
  | none => none
  | some credential =>
    if p.apnsTokenHex.isSome || p.voipTokenHex.isSome then
      some ⟨credential, (p.apnsTokenHex.map .set).getD .leave, (p.voipTokenHex.map .set).getD .leave⟩
    else none

end PushRegistrar

/-! ## Its tasks -/

/-- How far a task has got. -/
inductive UploadStage
  | spawned
  | sent
  | ended

/-- A task that uploads, from the registration that `flush` was called under. -/
structure Upload where
  request : PushRequest
  registration : ℕ
  stage : UploadStage

/-- How far a `clear` has got, with the credential that it found. -/
inductive ClearStage
  | spawned
  | sent (credential : PushCredential)
  | ended
deriving DecidableEq

/-- A task that clears, from the registration that it was called under. -/
structure Clearing where
  registration : ℕ
  stage : ClearStage
deriving DecidableEq

/-- What has gone out: a request, and a `clear` that has returned. -/
inductive PushLog
  | sent (request : PushRequest)
  | cleared (credential : PushCredential)
deriving DecidableEq

/-- The registrar with its tasks, how often it was registered, and the last token of each kind that the phone
has received. -/
structure PushWorld where
  registrar : PushRegistrar
  uploads : List Upload
  clearings : List Clearing
  registrations : ℕ
  received : TokenKind → Option String
  log : List PushLog

/-- What the user answered, or that asking failed. -/
inductive Authorization
  | granted
  | denied
  | failed

inductive PushEvent
  | register (credential : PushCredential)
  | authorized (outcome : Authorization)
  | receive (kind : TokenKind) (data : List UInt8)
  | apnsRegistrationFailed
  | signOut
  | uploadBegins (i : ℕ)
  | uploadEnds (i : ℕ) (ok : Bool)
  | clearBegins (i : ℕ)
  | clearEnds (i : ℕ)

namespace PushWorld

/-- `flush`. -/
def flush (s : PushWorld) : PushWorld :=
  match s.registrar.flush with
  | none => s
  | some request => { s with uploads := s.uploads ++ [⟨request, s.registrations, .spawned⟩] }

/-- `register`, up to the authorization that it asks for. -/
def register (s : PushWorld) (credential : PushCredential) : PushWorld :=
  { s with
    registrar := { s.registrar with credential := some credential, status := .requesting }
    registrations := s.registrations + 1 }.flush

/-- `receiveAPNsToken` and `receiveVoipToken`. -/
def receive (s : PushWorld) (kind : TokenKind) (data : List UInt8) : PushWorld :=
  let token := hexEncodedString data
  { s with
    registrar := s.registrar.hold token kind
    received := fun k => if k = kind then some token else s.received k }.flush

/-- An upload sends its request. -/
def uploadBegins (s : PushWorld) (i : ℕ) : PushWorld :=
  match s.uploads[i]? with
  | some ⟨request, registration, .spawned⟩ =>
    { s with
      uploads := s.uploads.set i ⟨request, registration, .sent⟩
      log := s.log ++ [.sent request] }
  | _ => s

/-- Its request comes back. -/
def uploadEnds (s : PushWorld) (i : ℕ) (ok : Bool) : PushWorld :=
  match s.uploads[i]? with
  | some ⟨request, registration, .sent⟩ =>
    { s with
      uploads := s.uploads.set i ⟨request, registration, .ended⟩
      registrar := s.registrar.settled ok }
  | _ => s

/-- `clear` up to its request. -/
def clearBegins (s : PushWorld) (i : ℕ) : PushWorld :=
  match s.clearings[i]? with
  | some ⟨registration, .spawned⟩ =>
    match s.registrar.credential with
    | none => { s with clearings := s.clearings.set i ⟨registration, .ended⟩ }
    | some credential =>
      { s with
        clearings := s.clearings.set i ⟨registration, .sent credential⟩
        log := s.log ++ [.sent ⟨credential, .clear, .clear⟩] }
  | _ => s

/-- `clear` behind its request, whatever came of it. -/
def clearEnds (s : PushWorld) (i : ℕ) : PushWorld :=
  match s.clearings[i]? with
  | some ⟨registration, .sent credential⟩ =>
    { s with
      clearings := s.clearings.set i ⟨registration, .ended⟩
      registrar := { s.registrar with apnsTokenHex := none, voipTokenHex := none, status := .idle }
      log := s.log ++ [.cleared credential] }
  | _ => s

/-- `requestAuthorizationAndRegister`. -/
def authorized (s : PushWorld) : Authorization → PushWorld
  | .granted => s
  | .denied => { s with registrar := { s.registrar with status := .denied } }
  | .failed => { s with registrar := { s.registrar with status := .failed } }

/-- One event. -/
def react (s : PushWorld) : PushEvent → PushWorld
  | .register credential => s.register credential
  | .authorized outcome => s.authorized outcome
  | .receive kind data => s.receive kind data
  | .apnsRegistrationFailed => { s with registrar := s.registrar.settled false }
  | .signOut => { s with clearings := s.clearings ++ [⟨s.registrations, .spawned⟩] }
  | .uploadBegins i => s.uploadBegins i
  | .uploadEnds i ok => s.uploadEnds i ok
  | .clearBegins i => s.clearBegins i
  | .clearEnds i => s.clearEnds i

end PushWorld

/-- A phone that starts. -/
def pushMachine : Machine PushWorld PushEvent where
  init := ⟨⟨.idle, none, none, none⟩, [], [], 0, fun _ => none, []⟩
  step := PushWorld.react

/-! ## What the registrar promises -/

namespace PushWorld

/-- A `clear` for a credential has returned. -/
def Cleared (s : PushWorld) (credential : PushCredential) : Prop := .cleared credential ∈ s.log

/-- Behind the end of a `clear` nothing is set for its credential. -/
def Silent (log : List PushLog) : Prop :=
  ∀ before credential behind, log = before ++ .cleared credential :: behind →
    ∀ request, .sent request ∈ behind → request.credential = credential → ¬ request.SetsToken

/-- Push registration follows the credential. A newer token of a kind takes the place of an older one. -/
structure FollowsCredential (s : PushWorld) : Prop where
  silent : Silent s.log
  /-- A token that was received is in an upload of the last registration. -/
  carried : ∀ credential, s.registrar.credential = some credential → ∀ kind token, s.received kind = some token →
    ∃ upload ∈ s.uploads, upload.registration = s.registrations ∧ upload.request.credential = credential ∧
      upload.request.change kind = .set token
  /-- It is held until a `clear` that was called behind the last registration. -/
  kept : (∀ clearing ∈ s.clearings, clearing.registration < s.registrations) →
    ∀ kind token, s.received kind = some token → s.registrar.held kind = some token

/-- A token does not come in under a credential that has been cleared; a registration finds every token that
was received, and no token where its credential has been cleared; and a `clear` does not end before an upload
of its credential has begun, nor while tokens are held and it was called before the last registration. -/
def Orderly (s : PushWorld) : PushEvent → Prop
  | .register credential => (∀ kind token, s.received kind = some token → s.registrar.held kind = some token) ∧
    (s.Cleared credential → ∀ kind, s.registrar.held kind = none)
  | .receive _ _ => ∀ credential, s.registrar.credential = some credential → ¬ s.Cleared credential
  | .clearEnds i => ∀ registration credential, s.clearings[i]? = some ⟨registration, .sent credential⟩ →
    (∀ upload ∈ s.uploads, upload.stage = .spawned → upload.request.credential ≠ credential) ∧
      ((∀ clearing ∈ s.clearings, clearing.registration < s.registrations) → ∀ kind, s.registrar.held kind = none)
  | _ => True

/-! ## Steps -/

/-- What holds in orderly runs: no upload that has yet to begin is for a cleared credential. -/
structure Following (s : PushWorld) : Prop extends FollowsCredential s where
  unsent : ∀ upload ∈ s.uploads, upload.stage = .spawned → ¬ s.Cleared upload.request.credential

lemma Silent.append {log : List PushLog} (h : Silent log) {entry : PushLog}
    (hentry : ∀ request, entry = .sent request → request.SetsToken → .cleared request.credential ∉ log) :
    Silent (log ++ [entry]) := by
  intro before credential behind hlog r hr hcredential hsets
  rcases List.eq_nil_or_concat behind with rfl | ⟨earlier, last, rfl⟩
  · cases hr
  · rw [List.concat_eq_append, ← List.cons_append, ← List.append_assoc] at hlog
    obtain ⟨hlog, hlast⟩ := List.append_inj' hlog rfl
    rw [List.concat_eq_append] at hr
    rcases List.mem_append.1 hr with hr | hr
    · exact h before credential earlier hlog r hr hcredential hsets
    · -- the request that has just gone out
      rw [← hlast, List.mem_singleton] at hr
      refine hentry r hr.symm hsets ?_
      rw [hlog, hcredential]
      simp

lemma flush_eq_some {p : PushRegistrar} {credential : PushCredential} (hcredential : p.credential = some credential)
    {kind : TokenKind} {token : String} (htoken : p.held kind = some token) :
    ∃ request, p.flush = some request ∧ request.credential = credential ∧
      ∀ k t, p.held k = some t → request.change k = .set t := by
  have hsome : (p.apnsTokenHex.isSome || p.voipTokenHex.isSome) = true := by
    rw [Bool.or_eq_true]
    cases kind with
    | apns => exact .inl (by rw [show p.apnsTokenHex = some token from htoken]; rfl)
    | voip => exact .inr (by rw [show p.voipTokenHex = some token from htoken]; rfl)
  refine ⟨⟨credential, (p.apnsTokenHex.map .set).getD .leave, (p.voipTokenHex.map .set).getD .leave⟩, ?_, rfl,
    fun k t ht => ?_⟩
  · rw [PushRegistrar.flush, hcredential]
    exact if_pos hsome
  · cases k with
    | apns =>
      rw [PushRequest.change, show p.apnsTokenHex = some t from ht]
      rfl
    | voip =>
      rw [PushRequest.change, show p.voipTokenHex = some t from ht]
      rfl

lemma of_flush_eq_some {p : PushRegistrar} {request : PushRequest} (h : p.flush = some request) :
    p.credential = some request.credential ∧ ∃ kind, p.held kind ≠ none := by
  unfold PushRegistrar.flush at h
  split at h
  · cases h
  · next credential hcredential =>
    split at h
    · next hsome =>
      cases h
      refine ⟨hcredential, ?_⟩
      rw [Bool.or_eq_true, Option.isSome_iff_ne_none, Option.isSome_iff_ne_none] at hsome
      rcases hsome with hsome | hsome
      · exact ⟨.apns, hsome⟩
      · exact ⟨.voip, hsome⟩
    · cases h

lemma flush_frame (s : PushWorld) : s.flush.registrar = s.registrar ∧ s.flush.clearings = s.clearings ∧
    s.flush.registrations = s.registrations ∧ s.flush.received = s.received ∧ s.flush.log = s.log := by
  unfold PushWorld.flush
  split <;> exact ⟨rfl, rfl, rfl, rfl, rfl⟩

lemma mem_flush {s : PushWorld} {upload : Upload} (h : upload ∈ s.flush.uploads) :
    upload ∈ s.uploads ∨ ∃ request, s.registrar.flush = some request ∧
      upload = ⟨request, s.registrations, .spawned⟩ := by
  unfold PushWorld.flush at h
  split at h
  · exact .inl h
  · next request hrequest =>
    rcases List.mem_append.1 h with hold | hnew
    · exact .inl hold
    · exact .inr ⟨request, hrequest, List.mem_singleton.1 hnew⟩

lemma mem_flush_of_mem {s : PushWorld} {upload : Upload} (h : upload ∈ s.uploads) : upload ∈ s.flush.uploads := by
  unfold PushWorld.flush
  split
  · exact h
  · exact List.mem_append_left _ h

lemma carried_flush {s : PushWorld} {credential : PushCredential} (hcredential : s.registrar.credential = some credential)
    {kind : TokenKind} {token : String} (htoken : s.registrar.held kind = some token) :
    ∃ upload ∈ s.flush.uploads, upload.registration = s.registrations ∧ upload.request.credential = credential ∧
      upload.request.change kind = .set token := by
  obtain ⟨request, hflush, hfor, hcarries⟩ := flush_eq_some hcredential htoken
  refine ⟨⟨request, s.registrations, .spawned⟩, ?_, rfl, hfor, hcarries kind token htoken⟩
  rw [PushWorld.flush, hflush]
  exact List.mem_append_right _ (List.mem_singleton.2 rfl)

namespace Following

variable {s : PushWorld}

lemma atTask (h : s.Following) {t : PushWorld} (hlog : t.log = s.log) (hregistrations : t.registrations = s.registrations)
    (hreceived : t.received = s.received) (hcredential : t.registrar.credential = s.registrar.credential)
    (hheld : t.registrar.held = s.registrar.held)
    (hcarried : ∀ p : PushRequest → ℕ → Prop, (∃ upload ∈ s.uploads, p upload.request upload.registration) →
      ∃ upload ∈ t.uploads, p upload.request upload.registration)
    (hclearings : (∀ clearing ∈ t.clearings, clearing.registration < s.registrations) →
      ∀ clearing ∈ s.clearings, clearing.registration < s.registrations)
    (hunsent : ∀ upload ∈ t.uploads, upload.stage = .spawned → upload ∈ s.uploads) : t.Following := by
  refine ⟨⟨?_, fun credential hcred kind token htoken => ?_, fun hearlier => ?_⟩, fun upload hmem hspawned => ?_⟩
  · rw [hlog]
    exact h.silent
  · rw [hcredential] at hcred
    rw [hreceived] at htoken
    rw [hregistrations]
    exact hcarried (fun request registration => registration = s.registrations ∧ request.credential = credential ∧
      request.change kind = .set token) (h.carried credential hcred kind token htoken)
  · rw [hregistrations] at hearlier
    rw [hreceived, hheld]
    exact h.kept (hclearings hearlier)
  · rw [Cleared, hlog]
    exact h.unsent upload (hunsent upload hmem hspawned) hspawned

lemma register (h : s.Following) {credential : PushCredential} (horderly : s.Orderly (.register credential)) :
    (s.register credential).Following := by
  obtain ⟨hheld, hnone⟩ := horderly
  unfold PushWorld.register
  generalize hworld : ({ s with
    registrar := { s.registrar with credential := some credential, status := .requesting }
    registrations := s.registrations + 1 } : PushWorld) = t
  obtain ⟨hregistrar, hclearings, hregistrations, hreceived, hlog⟩ := flush_frame t
  have hcred : t.registrar.credential = some credential := by rw [← hworld]
  have htokens : t.registrar.held = s.registrar.held := by rw [← hworld]; rfl
  have hsame : t.received = s.received := by rw [← hworld]
  have hold : t.log = s.log := by rw [← hworld]
  have huploads : t.uploads = s.uploads := by rw [← hworld]
  refine ⟨⟨?_, fun c hc kind token htoken => ?_, fun _ kind token htoken => ?_⟩, fun upload hmem hspawned hcleared => ?_⟩
  · rw [hlog, hold]
    exact h.silent
  · rw [hreceived, hsame] at htoken
    rw [hregistrar] at hc
    rw [hregistrations]
    refine carried_flush hc ?_
    rw [htokens]
    exact hheld kind token htoken
  · rw [hreceived, hsame] at htoken
    rw [hregistrar, htokens]
    exact hheld kind token htoken
  · rw [Cleared, hlog, hold] at hcleared
    rcases mem_flush hmem with hmem | ⟨request, hrequest, rfl⟩
    · rw [huploads] at hmem
      exact h.unsent upload hmem hspawned hcleared
    · obtain ⟨hfor, kind, hkind⟩ := of_flush_eq_some hrequest
      rw [hcred, Option.some_inj] at hfor
      rw [htokens] at hkind
      exact hkind (hnone (hfor ▸ hcleared) kind)

lemma held_hold (p : PushRegistrar) (token : String) (kind k : TokenKind) :
    (p.hold token kind).held k = if k = kind then some token else p.held k := by
  cases kind <;> cases k <;> rfl

lemma receive (h : s.Following) {kind : TokenKind} {data : List UInt8} (horderly : s.Orderly (.receive kind data)) :
    (s.receive kind data).Following := by
  unfold PushWorld.receive
  generalize hexEncodedString data = token
  dsimp only
  generalize hworld : ({ s with
    registrar := s.registrar.hold token kind
    received := fun k => if k = kind then some token else s.received k } : PushWorld) = t
  obtain ⟨hregistrar, hclearings, hregistrations, hreceived, hlog⟩ := flush_frame t
  have hcred : t.registrar.credential = s.registrar.credential := by
    rw [← hworld]
    cases kind <;> rfl
  have htokens : ∀ k, t.registrar.held k = if k = kind then some token else s.registrar.held k := by
    rw [← hworld]
    exact held_hold s.registrar token kind
  have hnew : ∀ k, t.received k = if k = kind then some token else s.received k := by
    rw [← hworld]
    exact fun _ => rfl
  have hold : t.log = s.log := by rw [← hworld]
  have huploads : t.uploads = s.uploads := by rw [← hworld]
  have hcount : t.registrations = s.registrations := by rw [← hworld]
  refine ⟨⟨?_, fun c hc k u hu => ?_, fun hearlier k u hu => ?_⟩, fun upload hmem hspawned hcleared => ?_⟩
  · rw [hlog, hold]
    exact h.silent
  · rw [hreceived, hnew] at hu
    rw [hregistrar] at hc
    rw [hregistrations]
    by_cases hk : k = kind
    · rw [if_pos hk] at hu
      exact carried_flush hc (by rw [htokens, if_pos hk]; exact hu)
    · rw [if_neg hk] at hu
      rw [hcred] at hc
      obtain ⟨upload, hmem, hupload⟩ := h.carried c hc k u hu
      rw [hcount]
      exact ⟨upload, mem_flush_of_mem (huploads ▸ hmem), hupload⟩
  · rw [hreceived, hnew] at hu
    rw [hregistrar, htokens]
    by_cases hk : k = kind
    · rwa [if_pos hk] at hu ⊢
    · rw [if_neg hk] at hu ⊢
      refine h.kept (fun clearing hclearing => ?_) k u hu
      rw [hclearings, hregistrations, hcount] at hearlier
      exact hearlier clearing (by rw [← hworld]; exact hclearing)
  · rw [Cleared, hlog, hold] at hcleared
    rcases mem_flush hmem with hmem | ⟨request, hrequest, rfl⟩
    · rw [huploads] at hmem
      exact h.unsent upload hmem hspawned hcleared
    · obtain ⟨hfor, -⟩ := of_flush_eq_some hrequest
      rw [hcred] at hfor
      exact horderly _ hfor hcleared

lemma uploadBegins (h : s.Following) (i : ℕ) : (s.uploadBegins i).Following := by
  unfold PushWorld.uploadBegins
  split
  · next request registration hupload =>
    have hmem := List.mem_of_getElem? hupload
    refine ⟨⟨?_, fun c hc kind token htoken => ?_, h.kept⟩, fun upload hupload' hspawned hcleared => ?_⟩
    · refine h.silent.append fun request hrequest _ => ?_
      cases hrequest
      exact h.unsent _ hmem rfl
    · exact Concurrent.exists_set hupload (h.carried c hc kind token htoken) id
    · rcases List.mem_or_eq_of_mem_set hupload' with hold | rfl
      · refine h.unsent upload hold hspawned ?_
        rcases List.mem_append.1 hcleared with hcleared | hcleared
        · exact hcleared
        · exact absurd (List.mem_singleton.1 hcleared) (by simp)
      · cases hspawned
  · exact h

lemma uploadEnds (h : s.Following) (i : ℕ) (ok : Bool) : (s.uploadEnds i ok).Following := by
  unfold PushWorld.uploadEnds
  split
  · next request registration hupload =>
    have hsettled : (s.registrar.settled ok).credential = s.registrar.credential ∧
        (s.registrar.settled ok).held = s.registrar.held := by
      unfold PushRegistrar.settled
      split <;> exact ⟨rfl, rfl⟩
    refine h.atTask rfl rfl rfl hsettled.1 hsettled.2 (fun p hp => ?_) id fun upload hmem hspawned => ?_
    · exact Concurrent.exists_set hupload hp id
    · rcases List.mem_or_eq_of_mem_set hmem with hold | rfl
      · exact hold
      · cases hspawned
  · exact h

lemma earlier_of_set {l : List Clearing} {i n m : ℕ} {stage stage' : ClearStage} (hc : l[i]? = some ⟨n, stage⟩)
    (h : ∀ clearing ∈ l.set i ⟨n, stage'⟩, clearing.registration < m) : ∀ clearing ∈ l, clearing.registration < m := by
  intro clearing hmem
  by_cases heq : clearing = ⟨n, stage⟩
  · rw [heq]
    exact h ⟨n, stage'⟩ (Concurrent.mem_set_self hc)
  · exact h _ (Concurrent.mem_set_of_ne hc hmem heq)

lemma clearBegins (h : s.Following) (i : ℕ) : (s.clearBegins i).Following := by
  unfold PushWorld.clearBegins
  split
  · next registration hclearing =>
    split
    · exact h.atTask rfl rfl rfl rfl rfl (fun _ => id) (earlier_of_set hclearing) fun _ hmem _ => hmem
    · next credential hcredential =>
      refine ⟨⟨?_, h.carried, fun hearlier => h.kept (earlier_of_set hclearing hearlier)⟩,
        fun upload hmem hspawned hcleared => ?_⟩
      · refine h.silent.append fun request hrequest hsets => ?_
        cases hrequest
        obtain ⟨kind, token, hchange⟩ := hsets
        cases kind <;> cases hchange
      · refine h.unsent upload hmem hspawned ?_
        rcases List.mem_append.1 hcleared with hcleared | hcleared
        · exact hcleared
        · exact absurd (List.mem_singleton.1 hcleared) (by simp)
  · exact h

lemma clearEnds (h : s.Following) {i : ℕ} (horderly : s.Orderly (.clearEnds i)) : (s.clearEnds i).Following := by
  unfold PushWorld.clearEnds
  split
  · next registration credential hclearing =>
    obtain ⟨hbegun, hnone⟩ := horderly registration credential hclearing
    refine ⟨⟨h.silent.append (fun _ hrequest => by cases hrequest), h.carried, fun hearlier kind token htoken => ?_⟩,
      fun upload hmem hspawned hcleared => ?_⟩
    · -- nothing was held that the `clear` could drop
      have hearlier' := earlier_of_set hclearing hearlier
      have hheld := h.kept hearlier' kind token htoken
      rw [hnone hearlier' kind] at hheld
      cases hheld
    · rcases List.mem_append.1 hcleared with hcleared | hcleared
      · exact h.unsent upload hmem hspawned hcleared
      · rw [List.mem_singleton, PushLog.cleared.injEq] at hcleared
        exact hbegun upload hmem hspawned hcleared
  · exact h

lemma react (h : s.Following) {e : PushEvent} (horderly : s.Orderly e) : (s.react e).Following := by
  cases e with
  | register credential => exact h.register horderly
  | authorized outcome =>
    cases outcome with
    | granted => exact h
    | denied => exact h.atTask rfl rfl rfl rfl rfl (fun _ => id) id fun _ hmem _ => hmem
    | failed => exact h.atTask rfl rfl rfl rfl rfl (fun _ => id) id fun _ hmem _ => hmem
  | receive kind data => exact h.receive horderly
  | apnsRegistrationFailed =>
    have hsettled : (s.registrar.settled false).credential = s.registrar.credential ∧
        (s.registrar.settled false).held = s.registrar.held := by
      unfold PushRegistrar.settled
      split <;> exact ⟨rfl, rfl⟩
    exact h.atTask rfl rfl rfl hsettled.1 hsettled.2 (fun _ => id) id fun _ hmem _ => hmem
  | signOut =>
    exact h.atTask rfl rfl rfl rfl rfl (fun _ => id)
      (fun hearlier clearing hmem => hearlier clearing (List.mem_append_left _ hmem)) fun _ hmem _ => hmem
  | uploadBegins i => exact h.uploadBegins i
  | uploadEnds i ok => exact h.uploadEnds i ok
  | clearBegins i => exact h.clearBegins i
  | clearEnds i => exact h.clearEnds horderly

end Following

lemma following_init : pushMachine.init.Following := by
  refine ⟨⟨fun before credential behind hlog => ?_, fun _ _ _ _ htoken => ?_, fun _ _ _ htoken => ?_⟩,
    fun _ hmem => ?_⟩
  · exact absurd hlog (by simp [pushMachine])
  · cases htoken
  · cases htoken
  · cases hmem

/-- In every orderly run push registration follows the credential. -/
theorem followsCredential_of_orderly {es : List PushEvent} (h : pushMachine.Meets Orderly es) :
    (pushMachine.run es).FollowsCredential :=
  (pushMachine.invariant_of_meets following_init (fun _ _ horderly hs => hs.react horderly) h).toFollowsCredential

/-- Two credentials of one control plane. -/
def credential (n : ℕ) : PushCredential := ⟨"https://api", if n = 0 then "dt_a" else "dt_b"⟩

/-- A phone signs out before it has a token, and is paired again. -/
def pairedAgain : List PushEvent :=
  [.register (credential 0), .signOut, .clearBegins 0, .clearEnds 0, .register (credential 1),
    .receive .apns [0xab], .uploadBegins 0]

lemma orderly_pairedAgain : pushMachine.Meets Orderly pairedAgain := by
  have hregister : pushMachine.Meets Orderly ([] ++ [.register (credential 0)]) :=
    pushMachine.meets_snoc.2 ⟨Machine.meets_nil _ _, by rintro (_ | _) _ ⟨⟩, fun _ kind => by cases kind <;> rfl⟩
  have hclear : pushMachine.Meets Orderly ([.register (credential 0)] ++ [.signOut] ++ [.clearBegins 0]) :=
    pushMachine.meets_snoc.2 ⟨pushMachine.meets_snoc.2 ⟨hregister, trivial⟩, trivial⟩
  have hcleared : pushMachine.Meets Orderly
      ([.register (credential 0), .signOut, .clearBegins 0] ++ [.clearEnds 0]) := by
    refine pushMachine.meets_snoc.2 ⟨hclear, fun _ _ _ => ⟨?_, fun _ kind => ?_⟩⟩
    · rintro upload ⟨⟩
    · cases kind <;> rfl
  have hagain : pushMachine.Meets Orderly ([.register (credential 0), .signOut, .clearBegins 0, .clearEnds 0] ++
      [.register (credential 1)]) :=
    pushMachine.meets_snoc.2 ⟨hcleared, by rintro (_ | _) _ ⟨⟩, fun _ kind => by cases kind <;> rfl⟩
  have hreceive : pushMachine.Meets Orderly ([.register (credential 0), .signOut, .clearBegins 0, .clearEnds 0,
      .register (credential 1)] ++ [.receive .apns [0xab]]) := by
    refine pushMachine.meets_snoc.2 ⟨hagain, ?_⟩
    rintro _ ⟨⟩ hcleared
    have hlog : PushLog.cleared (credential 1) ∉
        [PushLog.sent ⟨credential 0, .clear, .clear⟩, .cleared (credential 0)] := by decide
    exact hlog hcleared
  have hbegins : pushMachine.Meets Orderly ([.register (credential 0), .signOut, .clearBegins 0, .clearEnds 0,
      .register (credential 1), .receive .apns [0xab]] ++ [.uploadBegins 0]) :=
    pushMachine.meets_snoc.2 ⟨hreceive, trivial⟩
  exact hbegins

theorem followsCredential_pairedAgain : (pushMachine.run pairedAgain).FollowsCredential :=
  followsCredential_of_orderly orderly_pairedAgain

/-- A phone signs out, and a token comes in behind the end of the `clear`. -/
def receivedLate : List PushEvent :=
  [.register (credential 0), .signOut, .clearBegins 0, .clearEnds 0, .receive .voip [0xcd], .uploadBegins 0]

/-- The token is uploaded for the credential that was signed out. -/
theorem not_followsCredential_receivedLate : ¬ (pushMachine.run receivedLate).FollowsCredential := by
  intro h
  refine h.silent [.sent ⟨credential 0, .clear, .clear⟩] (credential 0)
    [.sent ⟨credential 0, .leave, .set (hexEncodedString [0xcd])⟩] rfl _ (List.mem_singleton.2 rfl) rfl ?_
  exact ⟨.voip, _, rfl⟩

end PushWorld

end Pherry.Ios
