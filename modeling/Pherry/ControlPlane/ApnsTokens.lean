import Pherry.ControlPlane.PushHealing
import Pherry.Protocol.JsonText

/-!
# Provider tokens of the APNs sender

One sender signs its provider tokens and reuses each for a window. Sends run concurrently: a send looks at the
cached token when it begins, and fills the cache behind two awaits, the import of the key and the signature.
-/

namespace Pherry.ControlPlane

open Lib
open Protocol (Json)

/-! ## The sender -/

/-- `JWT_REUSE_MS`. -/
def jwtReuseMs : ℕ := 50 * 60 * 1000

/-- `ApnsConfig`, all four credentials present. -/
structure ApnsConfig where
  teamId : JsString
  keyId : JsString
  privateKey : JsString
  bundleId : JsString
  production : Bool

/-- A signed token with its claims, and the clock it was minted at. -/
structure ProviderToken where
  jwt : JsString
  kid : JsString
  iss : JsString
  iat : ℕ
  mintedAt : ℕ

/-- `OutboundPush`. -/
structure OutboundPush where
  voip : Bool
  token : JsString
  payload : Json

/-- What a sender keeps between sends, the clock, and every token it has minted. -/
structure ApnsSender where
  clock : ℕ
  signingKey : Bool
  cached : Option ProviderToken
  minted : List ProviderToken

/-- A token that is still reused. -/
def ProviderToken.isFresh (token : ProviderToken) (atMs : ℕ) : Prop := atMs - token.mintedAt < jwtReuseMs

instance (token : ProviderToken) (atMs : ℕ) : Decidable (token.isFresh atMs) :=
  inferInstanceAs (Decidable (_ < _))

/-! ## One send -/

/-- The request of a push. -/
structure ApnsRequest where
  authority : JsString
  path : JsString
  headers : List (JsString × JsString)
  body : JsString

/-- The request that `send` hands to the transport. -/
def apnsRequest (apns : ApnsConfig) (push : OutboundPush) (token : ProviderToken) : ApnsRequest where
  authority := if apns.production then js "https://api.push.apple.com" else js "https://api.sandbox.push.apple.com"
  path := js "/3/device/" ++ push.token
  headers :=
    [(js "authorization", js "bearer " ++ token.jwt),
      (js "apns-topic", if push.voip then apns.bundleId ++ js ".voip" else apns.bundleId),
      (js "apns-push-type", if push.voip then js "voip" else js "alert"),
      (js "apns-priority", js "10")] ++
    (if push.voip then [(js "apns-expiration", js "0")] else [])
  body := Protocol.stringify push.payload

/-- `isDeadTokenReason`; no number is looked at. -/
def isDeadTokenReason (body : JsString) : Bool :=
  match (Protocol.parseJson id body).bind fun parsed => parsed.get (js "reason") with
  | some (.str reason) => reason == js "BadDeviceToken" || reason == js "DeviceTokenNotForTopic"
  | _ => false

/-- The outcome of an answer. -/
def apnsDelivery (status : ℕ) (body : JsString) : PushDelivery :=
  if status = 200 then .ok
  else if status = 410 then .badToken
  else if status = 400 ∧ isDeadTokenReason body = true then .badToken
  else .unavailable

/-- Where a send is suspended, or what it came to. -/
inductive ApnsStage
  | importing
  | signing
  | minted (token : ProviderToken)
  | transporting (token : ProviderToken) (request : ApnsRequest)
  | done (carried : Option ProviderToken) (delivery : PushDelivery)

/-- A send: its push, and the clock it began at. -/
structure ApnsSend where
  push : OutboundPush
  startedAt : ℕ
  stage : ApnsStage

/-- The token that the push of a send was sent with. -/
def ApnsSend.carried (call : ApnsSend) : Option ProviderToken :=
  match call.stage with
  | .transporting token _ => some token
  | .done carried _ => carried
  | _ => none

/-- A send that makes a token of its own. -/
def ApnsSend.isMinting (call : ApnsSend) : Bool :=
  match call.stage with
  | .importing => true
  | .signing => true
  | _ => false

/-- The begin of `send`, up to its first await: a token that is cached and fresh is taken. -/
def beginSend (s : ApnsSender) (push : OutboundPush) : ApnsSend where
  push := push
  startedAt := s.clock
  stage :=
    match s.cached with
    | some token => if token.isFresh s.clock then .minted token else if s.signingKey then .signing else .importing
    | none => if s.signingKey then .signing else .importing

/-- How an awaited promise settles: what a signature or an answer holds, or nothing where it rejects. -/
structure ApnsAnswer where
  status : ℕ
  text : JsString

/-- The token that a send signs. -/
def ApnsSend.token (apns : ApnsConfig) (call : ApnsSend) (jwt : JsString) : ProviderToken where
  jwt := jwt
  kid := apns.keyId
  iss := apns.teamId
  iat := call.startedAt / 1000
  mintedAt := call.startedAt

/-- A send from one await to the next. Whatever rejects, the push is unavailable. -/
def ApnsSend.settle (apns : ApnsConfig) (answer : Option ApnsAnswer) (s : ApnsSender) (call : ApnsSend) :
    ApnsSender × ApnsSend :=
  match call.stage with
  | .importing =>
    match answer with
    | some _ => ({ s with signingKey := true }, { call with stage := .signing })
    | none => (s, { call with stage := .done none .unavailable })
  | .signing =>
    match answer with
    | some ⟨_, jwt⟩ =>
      ({ s with cached := some (call.token apns jwt), minted := s.minted ++ [call.token apns jwt] },
        { call with stage := .minted (call.token apns jwt) })
    | none => (s, { call with stage := .done none .unavailable })
  | .minted token => (s, { call with stage := .transporting token (apnsRequest apns call.push token) })
  | .transporting token _ =>
    match answer with
    | some ⟨status, body⟩ => (s, { call with stage := .done (some token) (apnsDelivery status body) })
    | none => (s, { call with stage := .done (some token) .unavailable })
  | .done _ _ => (s, call)

/-! ## Runs -/

/-- A sender and its sends. -/
abbrev ApnsSends := Concurrent ApnsSender ApnsSend

/-- What happens: time passes, a send begins, or what a send awaits settles. -/
inductive ApnsEvent
  | tick (ms : ℕ)
  | send (push : OutboundPush)
  | settle (call : ℕ) (answer : Option ApnsAnswer)

def ApnsSends.react (apns : ApnsConfig) (s : ApnsSends) : ApnsEvent → ApnsSends
  | .tick ms => { s with shared := { s.shared with clock := s.shared.clock + ms } }
  | .send push => s.start (beginSend s.shared push)
  | .settle call answer => s.advance call (ApnsSend.settle apns answer)

/-- A new sender at some time. -/
def apnsMachine (apns : ApnsConfig) (clock : ℕ) : Machine ApnsSends ApnsEvent where
  init := ⟨{ clock, signingKey := false, cached := none, minted := [] }, []⟩
  step := ApnsSends.react apns

/-! ## The discipline -/

/-- Every push carries a token that was minted less than the window before its send began. -/
def CarriesFresh (s : ApnsSends) : Prop :=
  ∀ call ∈ s.calls, ∀ token, call.carried = some token →
    token.mintedAt ≤ call.startedAt ∧ call.startedAt < token.mintedAt + jwtReuseMs

/-- Any two tokens were minted at least the window apart. -/
def RotatesSlowly (s : ApnsSends) : Prop :=
  s.shared.minted.Pairwise fun a b =>
    a.mintedAt + jwtReuseMs ≤ b.mintedAt ∨ b.mintedAt + jwtReuseMs ≤ a.mintedAt

/-- A send finds a fresh token, or no other send is minting one. -/
def mintsAlone (s : ApnsSends) : ApnsEvent → Prop
  | .send _ => (∃ token ∈ s.shared.cached, token.isFresh s.shared.clock) ∨
      ∀ call ∈ s.calls, call.isMinting = false
  | _ => True

instance (s : ApnsSends) : (e : ApnsEvent) → Decidable (mintsAlone s e)
  | .tick _ => inferInstanceAs (Decidable True)
  | .send _ => inferInstanceAs (Decidable (_ ∨ _))
  | .settle _ _ => inferInstanceAs (Decidable True)

/-! ## Freshness, in every run -/

variable {apns : ApnsConfig} {s : ApnsSends}

/-- The token a send holds. -/
def ApnsSend.held (call : ApnsSend) : Option ProviderToken :=
  match call.stage with
  | .minted token => some token
  | _ => call.carried

/-- A token that a send may hold. -/
def ApnsSend.Takes (call : ApnsSend) (token : ProviderToken) : Prop :=
  token.mintedAt ≤ call.startedAt ∧ call.startedAt < token.mintedAt + jwtReuseMs

/-- Nothing was minted later than now, and what a send holds was fresh when it began. -/
structure HoldsFresh (s : ApnsSends) : Prop where
  cached : ∀ token, s.shared.cached = some token → token.mintedAt ≤ s.shared.clock
  started : ∀ call ∈ s.calls, call.startedAt ≤ s.shared.clock
  held : ∀ call ∈ s.calls, ∀ token, call.held = some token → call.Takes token

lemma takes_token (call : ApnsSend) (jwt : JsString) : call.Takes (call.token apns jwt) := by
  have hpos : 0 < jwtReuseMs := by decide
  constructor
  · exact Nat.le_refl _
  · show call.startedAt < call.startedAt + jwtReuseMs
    omega

lemma held_beginSend {s : ApnsSender} {push : OutboundPush} {token : ProviderToken}
    (h : (beginSend s push).held = some token) : s.cached = some token ∧ token.isFresh s.clock := by
  unfold beginSend ApnsSend.held ApnsSend.carried at h
  cases hcached : s.cached with
  | none =>
    rw [hcached] at h
    cases hkey : s.signingKey <;> simp [hkey] at h
  | some cached =>
    rw [hcached] at h
    by_cases hfresh : cached.isFresh s.clock
    · simp only [if_pos hfresh, Option.some_inj] at h
      rw [← h]
      exact ⟨rfl, hfresh⟩
    · cases hkey : s.signingKey <;> simp [hkey, hfresh] at h

/-- What a step does to a send: it keeps its begin, and holds what it held or the token it signs. -/
lemma settle_spec (apns : ApnsConfig) (answer : Option ApnsAnswer) (s : ApnsSender) (call : ApnsSend) :
    let r := call.settle apns answer s
    r.2.startedAt = call.startedAt ∧ r.1.clock = s.clock ∧
      ((r.1.cached = s.cached ∧ r.1.minted = s.minted ∧
          (r.2.isMinting = true → call.isMinting = true) ∧
          (∀ token, r.2.held = some token → call.held = some token)) ∨
        ∃ jwt, call.isMinting = true ∧ r.1.cached = some (call.token apns jwt) ∧
          r.1.minted = s.minted ++ [call.token apns jwt] ∧ r.2.isMinting = false ∧
          r.2.held = some (call.token apns jwt)) := by
  obtain ⟨push, startedAt, stage⟩ := call
  cases stage with
  | importing => cases answer <;> simp [ApnsSend.settle, ApnsSend.isMinting, ApnsSend.held, ApnsSend.carried]
  | signing =>
    cases answer with
    | none => simp [ApnsSend.settle, ApnsSend.isMinting, ApnsSend.held, ApnsSend.carried]
    | some answer => exact ⟨rfl, rfl, .inr ⟨answer.text, rfl, rfl, rfl, rfl, rfl⟩⟩
  | minted token => simp [ApnsSend.settle, ApnsSend.isMinting, ApnsSend.held, ApnsSend.carried]
  | transporting token request =>
    cases answer <;> simp [ApnsSend.settle, ApnsSend.isMinting, ApnsSend.held, ApnsSend.carried]
  | done carried delivery => simp [ApnsSend.settle]

lemma HoldsFresh.react (h : HoldsFresh s) (e : ApnsEvent) : HoldsFresh (ApnsSends.react apns s e) := by
  cases e with
  | tick ms =>
    refine ⟨?_, ?_, h.held⟩
    · intro token hcached
      exact Nat.le_trans (h.cached token hcached) (Nat.le_add_right _ _)
    · intro call hcall
      exact Nat.le_trans (h.started call hcall) (Nat.le_add_right _ _)
  | send push =>
    refine ⟨h.cached, ?_, ?_⟩
    · exact Concurrent.forall_start h.started (Nat.le_refl _)
    · apply Concurrent.forall_start h.held
      intro token hheld
      obtain ⟨hcached, hfresh⟩ := held_beginSend hheld
      have hle := h.cached token hcached
      unfold ProviderToken.isFresh at hfresh
      refine ⟨hle, ?_⟩
      show s.shared.clock < token.mintedAt + jwtReuseMs
      omega
  | settle i answer =>
    apply Concurrent.advance_induction h
    intro call hcall
    have hmem := List.mem_of_getElem? hcall
    obtain ⟨hstarted, hclock, hstep⟩ := settle_spec apns answer s.shared call
    have hlater := h.started call hmem
    refine ⟨?_, ?_, ?_⟩
    · intro token hcached
      show token.mintedAt ≤ (call.settle apns answer s.shared).1.clock
      rw [hclock]
      rcases hstep with ⟨hsame, -, -, -⟩ | ⟨jwt, -, hnew, -, -, -⟩
      · exact h.cached token (hsame.symm.trans hcached)
      · obtain rfl : call.token apns jwt = token := Option.some_inj.1 (hnew.symm.trans hcached)
        exact hlater
    · show ∀ c ∈ s.calls.set i _, c.startedAt ≤ (call.settle apns answer s.shared).1.clock
      rw [hclock]
      exact Concurrent.forall_set h.started (by rw [hstarted]; exact hlater)
    · apply Concurrent.forall_set h.held
      intro token hheld
      rw [ApnsSend.Takes, hstarted]
      rcases hstep with ⟨-, -, -, hkept⟩ | ⟨jwt, -, -, -, -, hnew⟩
      · exact h.held call hmem token (hkept token hheld)
      · obtain rfl : call.token apns jwt = token := Option.some_inj.1 (hnew.symm.trans hheld)
        exact takes_token call jwt

lemma holdsFresh_run (apns : ApnsConfig) (clock : ℕ) (es : List ApnsEvent) :
    HoldsFresh ((apnsMachine apns clock).run es) := by
  apply (apnsMachine apns clock).invariant
  · exact ⟨by simp [apnsMachine], by simp [apnsMachine], by simp [apnsMachine]⟩
  · intro s e h
    exact h.react e

lemma HoldsFresh.carriesFresh (h : HoldsFresh s) : CarriesFresh s := by
  intro call hcall token hcarried
  apply h.held call hcall token
  unfold ApnsSend.held
  split
  · next heq =>
    rw [ApnsSend.carried, heq] at hcarried
    simp at hcarried
  · exact hcarried

/-! ## Rotation, where nobody else is minting -/

/-- At most one send is minting. The cached token is the last one, and a send that is minting began a window
behind every token. -/
structure Rotated (s : ApnsSends) : Prop where
  single : s.total (fun call => call.isMinting.toNat) ≤ 1
  newest : ∀ token ∈ s.shared.minted, ∃ cached, s.shared.cached = some cached ∧ token.mintedAt ≤ cached.mintedAt
  behind : ∀ call ∈ s.calls, call.isMinting = true →
    ∀ token ∈ s.shared.minted, token.mintedAt + jwtReuseMs ≤ call.startedAt
  apart : RotatesSlowly s

lemma isMinting_beginSend {s : ApnsSender} {push : OutboundPush} {token : ProviderToken}
    (hcached : s.cached = some token) (hfresh : token.isFresh s.clock) :
    (beginSend s push).isMinting = false := by
  simp only [beginSend, ApnsSend.isMinting, hcached, if_pos hfresh]

lemma not_isFresh_of_isMinting {s : ApnsSender} {push : OutboundPush} {token : ProviderToken}
    (h : (beginSend s push).isMinting = true) (hcached : s.cached = some token) : ¬ token.isFresh s.clock := by
  intro hfresh
  rw [isMinting_beginSend hcached hfresh] at h
  simp at h

lemma Rotated.send (h : Rotated s) {push : OutboundPush} (halone : mintsAlone s (.send push)) :
    Rotated (s.start (beginSend s.shared push)) := by
  refine ⟨?_, h.newest, ?_, h.apart⟩
  · rw [Concurrent.total_start]
    rcases halone with ⟨token, hcached, hfresh⟩ | hnone
    · rw [isMinting_beginSend hcached hfresh]
      exact h.single
    · have hzero : s.total (fun call => call.isMinting.toNat) = 0 := by
        apply Concurrent.total_eq_zero
        intro call hcall
        rw [hnone call hcall]
        rfl
      have hle := Bool.toNat_le (beginSend s.shared push).isMinting
      omega
  · apply Concurrent.forall_start h.behind
    intro hminting token htoken
    obtain ⟨cached, hcached, hle⟩ := h.newest token htoken
    have hstale := not_isFresh_of_isMinting hminting hcached
    unfold ProviderToken.isFresh at hstale
    show token.mintedAt + jwtReuseMs ≤ s.shared.clock
    have hpos : 0 < jwtReuseMs := by decide
    omega

lemma Rotated.settle (h : Rotated s) {i : ℕ} {call : ApnsSend} (hcall : s.calls[i]? = some call)
    (answer : Option ApnsAnswer) :
    Rotated ⟨(call.settle apns answer s.shared).1, s.calls.set i (call.settle apns answer s.shared).2⟩ := by
  have hmem := List.mem_of_getElem? hcall
  have htotal := Concurrent.total_set hcall (fun call => call.isMinting.toNat)
    (call.settle apns answer s.shared).1 (call.settle apns answer s.shared).2
  have hsingle := h.single
  obtain ⟨hstarted, -, ⟨hcached, hminted, hkept, -⟩ | ⟨jwt, hminting, hcached, hminted, hdone, -⟩⟩ :=
    settle_spec apns answer s.shared call
  · refine ⟨?_, ?_, ?_, ?_⟩
    · have hle : (call.settle apns answer s.shared).2.isMinting.toNat ≤ call.isMinting.toNat :=
        Bool.toNat_le_toNat hkept
      omega
    · show ∀ token ∈ (call.settle apns answer s.shared).1.minted, ∃ cached,
        (call.settle apns answer s.shared).1.cached = some cached ∧ _
      rw [hcached, hminted]
      exact h.newest
    · apply Concurrent.forall_set
      · show ∀ c ∈ s.calls, _ → ∀ token ∈ (call.settle apns answer s.shared).1.minted, _
        rw [hminted]
        exact h.behind
      · show _ → ∀ token ∈ (call.settle apns answer s.shared).1.minted, _
        rw [hminted, hstarted]
        exact fun hnow => h.behind call hmem (hkept hnow)
    · show (call.settle apns answer s.shared).1.minted.Pairwise _
      rw [hminted]
      exact h.apart
  · -- the only send that was minting has its token; it is the last one, and the new cached one
    have hbehind := h.behind call hmem hminting
    have hzero : (⟨(call.settle apns answer s.shared).1, s.calls.set i (call.settle apns answer s.shared).2⟩ :
        ApnsSends).total (fun call => call.isMinting.toNat) = 0 := by
      rw [hdone, hminting] at htotal
      simp only [Bool.toNat_true, Bool.toNat_false] at htotal
      omega
    refine ⟨by omega, ?_, ?_, ?_⟩
    · intro token htoken
      refine ⟨call.token apns jwt, hcached, ?_⟩
      have htoken : token ∈ s.shared.minted ++ [call.token apns jwt] := hminted ▸ htoken
      rcases List.mem_append.1 htoken with hold | hnew
      · have hle := hbehind token hold
        show token.mintedAt ≤ call.startedAt
        omega
      · rw [List.mem_singleton.1 hnew]
    · intro c hc hnow
      obtain ⟨j, hj⟩ := List.mem_iff_getElem?.1 hc
      have hle := Concurrent.weight_le_total (s := ⟨(call.settle apns answer s.shared).1,
        s.calls.set i (call.settle apns answer s.shared).2⟩) hj (fun call => call.isMinting.toNat)
      rw [hzero, hnow] at hle
      simp at hle
    · show (call.settle apns answer s.shared).1.minted.Pairwise _
      rw [hminted, List.pairwise_append]
      refine ⟨h.apart, List.pairwise_singleton _ _, ?_⟩
      intro token htoken new hnew
      rw [List.mem_singleton.1 hnew]
      exact .inl (hbehind token htoken)

lemma Rotated.react (h : Rotated s) {e : ApnsEvent} (halone : mintsAlone s e) :
    Rotated (ApnsSends.react apns s e) := by
  cases e with
  | tick ms => exact ⟨h.single, h.newest, h.behind, h.apart⟩
  | send push => exact h.send halone
  | settle i answer => exact Concurrent.advance_induction h fun call hcall => h.settle hcall answer

/-- As long as no send that finds no fresh token begins while another is minting, every push carries a fresh
token, and tokens are minted a window apart. -/
theorem token_discipline (apns : ApnsConfig) (clock : ℕ) {es : List ApnsEvent}
    (h : (apnsMachine apns clock).Meets mintsAlone es) :
    CarriesFresh ((apnsMachine apns clock).run es) ∧ RotatesSlowly ((apnsMachine apns clock).run es) := by
  have hrotated : Rotated ((apnsMachine apns clock).run es) := by
    apply (apnsMachine apns clock).invariant_of_meets _ _ h
    · exact ⟨by simp [apnsMachine, Concurrent.total], by simp [apnsMachine], by simp [apnsMachine],
        by simp [apnsMachine, RotatesSlowly]⟩
    · intro s e halone hs
      exact hs.react halone
  exact ⟨(holdsFresh_run apns clock es).carriesFresh, hrotated.apart⟩

/-- Some credentials. -/
def sampleApns : ApnsConfig := ⟨js "team", js "key", js "pem", js "app", false⟩

/-- A push without a payload. -/
def samplePush : OutboundPush := ⟨false, js "d", .null⟩

/-- A push that was sent, and one that reuses its token. -/
theorem token_discipline_reused :
    let es := [.send samplePush, .settle 0 (some ⟨0, []⟩), .settle 0 (some ⟨0, js "a"⟩), .settle 0 none,
      .tick 1, .send samplePush, .settle 1 none]
    CarriesFresh ((apnsMachine sampleApns 0).run es) ∧ RotatesSlowly ((apnsMachine sampleApns 0).run es) := by
  apply token_discipline
  have hchecks : (apnsMachine sampleApns 0).checks (fun s e => decide (mintsAlone s e))
      (apnsMachine sampleApns 0).init [.send samplePush, .settle 0 (some ⟨0, []⟩), .settle 0 (some ⟨0, js "a"⟩),
        .settle 0 none, .tick 1, .send samplePush, .settle 1 none] = true := by
    rfl
  exact (Machine.meets_of_checks _ hchecks).mono _ fun _ _ h => of_decide_eq_true h

/-- Two pushes that are sent at once mint a token each. -/
theorem not_token_discipline :
    ¬ ∀ (apns : ApnsConfig) (clock : ℕ) (es : List ApnsEvent),
      CarriesFresh ((apnsMachine apns clock).run es) ∧ RotatesSlowly ((apnsMachine apns clock).run es) := by
  intro h
  have hrotates := (h sampleApns 0 [.send samplePush, .send samplePush, .settle 0 (some ⟨0, []⟩),
    .settle 1 (some ⟨0, []⟩), .settle 0 (some ⟨0, js "a"⟩), .settle 1 (some ⟨0, js "b"⟩)]).2
  unfold RotatesSlowly at hrotates
  revert hrotates
  decide

end Pherry.ControlPlane
