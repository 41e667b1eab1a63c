import Pherry.ControlPlane.Pairing

/-!
# Pairing agreement

What polls and enrollments report of a redeemed token is the device of its one redemption, as long as
none of them looks the token up between the claim and the stamp.
-/

namespace Pherry.ControlPlane

open Lib Protocol RelayCore

/-- The identity key a phone supplies; the empty string is none. -/
def suppliedKey (devicePublicKeyB64 : Option JsString) : Option JsString :=
  devicePublicKeyB64.filter fun key => key.length ≠ 0

namespace Requests

variable {env : RegistryEnv} {s t : Requests}

/-! ## Tokens that are settled -/

/-- The token is redeemed, by no redemption whose key does not have the property. -/
def Settled (s : Requests) (hash : JsString) (q : Option JsString → Prop) : Prop :=
  (∃ row, s.shared.token hash = some row ∧ row.redeemedAt.isSome = true) ∧
    ∀ args stage, .redeem args stage ∈ s.calls → boundAs hash (.redeem args stage) = 1 →
      q args.devicePublicKeyB64

/-- The device under this id has the key of the redemption. -/
def Reported (s : Requests) (hash id : JsString) : Prop :=
  ∃ device, s.shared.devices.get DeviceRow.id id = some device ∧
    s.Settled hash fun key => key = device.devicePublicKey

/-- What is settled in one state is settled in a later one. -/
structure Later (s t : Requests) : Prop where
  settled : ∀ hash q, s.Settled hash q → t.Settled hash q
  device : ∀ id device, s.shared.devices.get DeviceRow.id id = some device →
    t.shared.devices.get DeviceRow.id id = some device

lemma Settled.mono {hash : JsString} {q q' : Option JsString → Prop} (h : s.Settled hash q)
    (hq : ∀ key, q key → q' key) : s.Settled hash q' :=
  ⟨h.1, fun args stage hmem hbound => hq _ (h.2 args stage hmem hbound)⟩

lemma Later.reported (h : Later s t) {hash id : JsString} (hreported : s.Reported hash id) :
    t.Reported hash id := by
  obtain ⟨device, hget, hsettled⟩ := hreported
  exact ⟨device, h.device id device hget, h.settled _ _ hsettled⟩

/-- What is known of the pair tokens. -/
structure Paired (s : Requests) : Prop where
  fresh : Fresh s.shared
  bound : ∀ hash, s.total (boundAs hash) ≤ boundRoom (s.shared.token hash)
  unstamped : ∀ hash, s.total (unstampedAs hash) ≤ stampRoom (s.shared.token hash)
  known : ∀ c ∈ s.calls, c.known s.shared
  owner : ∀ hash row id, s.shared.token hash = some row → row.redeemedDeviceId = some id →
    s.Reported hash id

/-- The state behind a step of a call. -/
def stepped (env : RegistryEnv) (s : Requests) (i : ℕ) (c : RegistryCall) (draw : Draw) : Requests :=
  ⟨(c.step env draw s.shared).1, s.calls.set i (c.step env draw s.shared).2⟩

lemma boundAs_redeem_le (hash : JsString) (args : RedeemArgs) (stage : RedeemStage) :
    boundAs hash (.redeem args stage) ≤ 1 := by
  rw [boundAs]
  split <;> omega

variable (env) in
lemma Paired.later (h : s.Paired) {i : ℕ} {c : RegistryCall} (hc : s.calls[i]? = some c)
    (draw : Draw) : Later s (s.stepped env i c draw) := by
  have hknown := h.known c (List.mem_of_getElem? hc)
  refine ⟨?_, fun id device hget => device_step c hget⟩
  rintro hash q ⟨⟨row, hrow, hredeemed⟩, hkeys⟩
  obtain ⟨row', hrow', hstays⟩ := stays_step env draw c
    tokenHash_mem_pairTokenColumns hrow
  refine ⟨⟨row', hrow', hstays.redeemed hredeemed⟩, fun args stage hmem hbound => ?_⟩
  rcases List.mem_or_eq_of_mem_set hmem with hold | hnew
  · exact hkeys args stage hold hbound
  · -- the call itself: it had claimed the token before
    have hfits := (fits_step env draw h.fresh hknown hash).bound
    rw [← hnew, hbound, hrow] at hfits
    have hroom : boundRoom (some row) = 1 := if_pos hredeemed
    have hle := boundRoom_le ((c.step env draw s.shared).1.token hash)
    cases c with
    | redeem args' stage' =>
      cases hnew
      refine hkeys args stage' (List.mem_of_getElem? hc) ?_
      have hone := boundAs_redeem_le hash args stage'
      omega
    | _ => cases hnew

variable (env) in
lemma total_stepped {i : ℕ} {c : RegistryCall} (hc : s.calls[i]? = some c) (draw : Draw)
    (weight : RegistryCall → ℕ) :
    (s.stepped env i c draw).total weight + weight c =
      s.total weight + weight (c.step env draw s.shared).2 :=
  Concurrent.total_set hc weight _ _

variable (env) in
lemma Paired.bound_stepped (h : s.Paired) {i : ℕ} {c : RegistryCall} (hc : s.calls[i]? = some c)
    (draw : Draw) (hash : JsString) :
    (s.stepped env i c draw).total (boundAs hash) ≤
      boundRoom ((s.stepped env i c draw).shared.token hash) := by
  have hfits := (fits_step env draw h.fresh
    (h.known c (List.mem_of_getElem? hc)) hash).bound
  have htotal := total_stepped env hc draw (boundAs hash)
  have hbefore := h.bound hash
  show _ ≤ boundRoom ((c.step env draw s.shared).1.token hash)
  omega

lemma Paired.owner_stepped (h : s.Paired) {i : ℕ} {c : RegistryCall} (hc : s.calls[i]? = some c)
    (draw : Draw) {hash : JsString} {row : PairTokenRow} {id : JsString}
    (hrow : (c.step env draw s.shared).1.token hash = some row)
    (hid : row.redeemedDeviceId = some id) : (s.stepped env i c draw).Reported hash id := by
  have hknown := h.known c (List.mem_of_getElem? hc)
  have hlater := h.later env hc draw
  cases token_step hknown hrow with
  | same hsame => exact hlater.reported (h.owner hash row id hsame hid)
  | minted _ _ hstamped =>
    rw [hstamped] at hid
    cases hid
  | claimed args old hclaim hold hredeemed hclaimed =>
    rw [hclaimed] at hid
    have hnone := h.fresh hash old hold hredeemed
    have hid : old.redeemedDeviceId = some id := hid
    rw [hnone] at hid
    cases hid
  | stamped args token device deviceToken old hstamp htoken hold hstamped =>
    subst hstamp htoken
    obtain ⟨-, hdevice, hkey⟩ := hknown
    rw [hstamped] at hid
    cases hid
    refine ⟨device, hdevice, ?_, ?_⟩
    · refine ⟨row, hrow, ?_⟩
      -- it was claimed before it was stamped
      have hbound := h.bound token.tokenHash
      have hone : boundAs token.tokenHash (.redeem args (.stamp token device deviceToken)) = 1 :=
        if_pos (by simp [RedeemStage.claimed])
      have hle := Concurrent.weight_le_total hc (boundAs token.tokenHash)
      rw [hold] at hbound
      rw [hstamped]
      by_contra hopen
      have hzero : boundRoom (some old) = 0 := if_neg hopen
      omega
    · intro args' stage' hmem hbound
      have hself : (RegistryCall.redeem args (.load token device deviceToken)) ∈
          (s.stepped env i (.redeem args (.stamp token device deviceToken)) draw).calls :=
        Concurrent.mem_set_self hc
      have hone : boundAs token.tokenHash (.redeem args (.load token device deviceToken)) = 1 :=
        if_pos (by simp [RedeemStage.claimed])
      have hle := le_trans (h.bound_stepped env hc draw token.tokenHash) (boundRoom_le _)
      have heq := Concurrent.eq_of_total_le_one hle hmem hself hbound hone
      cases heq
      exact hkey.symm

lemma Paired.step (h : s.Paired) {i : ℕ} {c : RegistryCall} (hc : s.calls[i]? = some c)
    (draw : Draw) : (s.stepped env i c draw).Paired := by
  have hknown := h.known c (List.mem_of_getElem? hc)
  have hroom : ∀ hash, unstampedAs hash c ≤ stampRoom (s.shared.token hash) := fun hash =>
    le_trans (Concurrent.weight_le_total hc (unstampedAs hash)) (h.unstamped hash)
  refine ⟨h.fresh.step hknown hroom, h.bound_stepped env hc draw, fun hash => ?_, ?_, ?_⟩
  · have hfits := (fits_step env draw h.fresh hknown hash).unstamped
    have htotal := total_stepped env hc draw (unstampedAs hash)
    have hbefore := h.unstamped hash
    show _ ≤ stampRoom ((c.step env draw s.shared).1.token hash)
    omega
  · exact Concurrent.forall_set (fun d hd => known_other (h.known d hd) c) (known_next hknown)
  · exact fun hash row id hrow hid => h.owner_stepped hc draw hrow hid

/-! ## What polls know -/

/-- The key that is supplied, if one is, is reported. -/
def Tells (reported : Option JsString) (key : Option JsString) : Prop :=
  ∀ k, suppliedKey key = some k → reported = some k

/-- The key of a device, where there is one. -/
def keyOf (device : Option PairedDevice) : Option JsString := device.bind PairedDevice.publicKeyB64

/-- A poll that has got so far is right about the token. -/
def StatusInformed (env : RegistryEnv) (s : Requests) (pairToken : JsString) : StatusStage → Prop
  | .device id => s.Reported (env.sha256Hex pairToken) id
  | .done (some (.redeemed device)) => s.Settled (env.sha256Hex pairToken) (Tells (keyOf device))
  | _ => True

/-- An enrollment that has got so far is right about the token. -/
def EnrollInformed (env : RegistryEnv) (s : Requests) (pairToken : JsString) : EnrollStage → Prop
  | .poll (.done _) => False
  | .poll stage => s.StatusInformed env pairToken stage
  | .noKey => s.Settled (env.sha256Hex pairToken) (Tells none)
  | .device _ publicKeyB64 => s.Settled (env.sha256Hex pairToken) (Tells (some publicKeyB64))
  | _ => True

/-- A call that reports on a token is right about it. -/
def Informed (env : RegistryEnv) (s : Requests) : RegistryCall → Prop
  | .status args stage => s.StatusInformed env args.pairToken stage
  | .enroll args stage => s.EnrollInformed env args.pairToken stage
  | _ => True

lemma Later.statusInformed (h : Later s t) {pairToken : JsString} {stage : StatusStage}
    (hinformed : s.StatusInformed env pairToken stage) : t.StatusInformed env pairToken stage := by
  cases stage with
  | token => trivial
  | device id => exact h.reported hinformed
  | done status =>
    cases status with
    | none => trivial
    | some status =>
      cases status with
      | redeemed device => exact h.settled _ (Tells (keyOf device)) hinformed
      | pending => trivial
      | expired => trivial

lemma Later.informed (h : Later s t) {c : RegistryCall} (hinformed : s.Informed env c) :
    t.Informed env c := by
  cases c with
  | status args stage => exact h.statusInformed hinformed
  | enroll args stage =>
    cases stage with
    | poll stage =>
      cases stage with
      | token => trivial
      | device id => exact h.reported hinformed
      | done status => exact hinformed
    | noKey => exact h.settled _ (Tells none) hinformed
    | device name publicKeyB64 => exact h.settled _ (Tells (some publicKeyB64)) hinformed
    | _ => trivial
  | _ => trivial

/-- Where the token is redeemed and not stamped, its redemption has no key. -/
def Keyless (s : Requests) (hash : JsString) : Prop :=
  ∀ row, s.shared.token hash = some row → row.redeemedAt.isSome = true →
    row.redeemedDeviceId = none → ∀ args stage, .redeem args stage ∈ s.calls →
      boundAs hash (.redeem args stage) = 1 → suppliedKey args.devicePublicKeyB64 = none

lemma Paired.statusInformed (h : s.Paired) {pairToken : JsString} {stage : StatusStage}
    (hinformed : s.StatusInformed env pairToken stage)
    (hkeyless : stage = .token → s.Keyless (env.sha256Hex pairToken)) (now : ℕ) :
    s.StatusInformed env pairToken (pairTokenStatus env now pairToken s.shared stage) := by
  cases stage with
  | token =>
    rw [pairTokenStatus]
    split
    · trivial
    · next row hrow =>
      split
      · next hredeemed =>
        split
        · next hstamped =>
          refine ⟨⟨row, hrow, hredeemed⟩, fun args stage hmem hbound k hk => ?_⟩
          rw [hkeyless rfl row hrow hredeemed hstamped args stage hmem hbound] at hk
          cases hk
        · next id hstamped => exact h.owner _ row id hrow hstamped
      · split <;> trivial
  | device id =>
    obtain ⟨device, hget, hsettled⟩ := hinformed
    rw [pairTokenStatus, hget]
    have htells : s.Settled (env.sha256Hex pairToken) (Tells device.devicePublicKey) := by
      refine hsettled.mono ?_
      rintro key rfl k hk
      exact (Option.filter_eq_some_iff.1 hk).1
    exact htells
  | done status => exact hinformed

lemma enrollInformed_ofStatus {pairToken : JsString} {status : Option PairTokenStatusResult}
    (hinformed : s.StatusInformed env pairToken (.done status)) :
    s.EnrollInformed env pairToken (.ofStatus status) := by
  cases status with
  | none => trivial
  | some status =>
    cases status with
    | pending => trivial
    | expired => trivial
    | redeemed device =>
      have hsettled : s.Settled (env.sha256Hex pairToken) (Tells (keyOf device)) := hinformed
      cases device with
      | none => exact hsettled
      | some device =>
        obtain ⟨name, publicKeyB64⟩ := device
        cases publicKeyB64 with
        | none => exact hsettled
        | some publicKeyB64 =>
          rw [EnrollStage.ofStatus]
          split
          · next hempty =>
            have hnone : s.Settled (env.sha256Hex pairToken) (Tells none) := by
              refine hsettled.mono fun key hkey k hk => ?_
              -- the key that is reported is not empty
              have hnonempty := of_decide_eq_true (Option.filter_eq_some_iff.1 hk).2
              cases hkey k hk
              exact absurd hempty hnonempty
            exact hnone
          · exact hsettled

lemma Paired.enrollInformed (h : s.Paired) {args : EnrollArgs} {stage : EnrollStage}
    (hinformed : s.EnrollInformed env args.pairToken stage)
    (hkeyless : stage = .poll .token → s.Keyless (env.sha256Hex args.pairToken)) (draw : Draw) :
    s.EnrollInformed env args.pairToken (enrollDevice env draw args s.shared stage) := by
  cases stage with
  | wait =>
    rw [enrollDevice]
    split <;> trivial
  | poll stage =>
    have hpolled : s.StatusInformed env args.pairToken stage := by
      cases stage with
      | token => trivial
      | device id => exact hinformed
      | done status => exact absurd hinformed id
    have hnext := h.statusInformed hpolled (fun hstage => hkeyless (by rw [hstage])) draw.now
    rw [enrollDevice]
    split
    · next status hstatus =>
      rw [hstatus] at hnext
      exact enrollInformed_ofStatus hnext
    · next stage' hnot =>
      cases hstage : pairTokenStatus env draw.now args.pairToken s.shared stage with
      | token => trivial
      | device id =>
        rw [hstage] at hnext
        exact hnext
      | done status => exact absurd hstage (hnot status)
  | expired => trivial
  | noKey => exact hinformed
  | failed => trivial
  | device name publicKeyB64 => exact hinformed

/-! ## Runs -/

/-- The pair token that the next step of a request looks up for a report. -/
def looksUp (s : Requests) (i : ℕ) : Option JsString :=
  match s.calls[i]? with
  | some (.status args .token) => some args.pairToken
  | some (.enroll args (.poll .token)) => some args.pairToken
  | _ => none

/-- No report looks up a token that is redeemed and not stamped, unless the phone supplied no key. -/
def StampedFirst (env : RegistryEnv) (s : Requests) (e : RegistryEvent) : Prop :=
  ∀ i draw pairToken, e = .step i draw → s.looksUp i = some pairToken →
    s.Keyless (env.sha256Hex pairToken)

/-- The pair tokens and what is reported of them. -/
structure Agreeing (env : RegistryEnv) (s : Requests) : Prop where
  paired : s.Paired
  informed : ∀ c ∈ s.calls, s.Informed env c

lemma later_start (s : Requests) (request : RegistryRequest) : Later s (s.start request.call) := by
  refine ⟨?_, fun _ _ hget => hget⟩
  rintro hash q ⟨hrow, hkeys⟩
  refine ⟨hrow, fun args stage hmem hbound => ?_⟩
  rcases List.mem_append.1 hmem with hold | hnew
  · exact hkeys args stage hold hbound
  · rw [List.mem_singleton] at hnew
    rw [hnew] at hbound
    cases request <;> cases hbound

lemma Paired.start (h : s.Paired) (request : RegistryRequest) :
    Paired (s.start request.call) := by
  have hbound : ∀ hash, boundAs hash request.call = 0 := by cases request <;> exact fun _ => rfl
  have hunstamped : ∀ hash, unstampedAs hash request.call = 0 := by
    cases request <;> exact fun _ => rfl
  refine ⟨h.fresh, fun hash => ?_, fun hash => ?_, ?_, fun hash row id hrow hid => ?_⟩
  · show (s.start _).total _ ≤ _
    rw [Concurrent.total_start, hbound]
    exact h.bound hash
  · show (s.start _).total _ ≤ _
    rw [Concurrent.total_start, hunstamped]
    exact h.unstamped hash
  · refine Concurrent.forall_start h.known ?_
    cases request <;> trivial
  · exact (later_start s request).reported (h.owner hash row id hrow hid)

lemma Agreeing.step (h : s.Agreeing env) {i : ℕ} {c : RegistryCall} (hc : s.calls[i]? = some c)
    (draw : Draw) (hfirst : s.StampedFirst env (.step i draw)) :
    (s.stepped env i c draw).Agreeing env := by
  have hlater := h.paired.later env hc draw
  have hinformed := h.informed c (List.mem_of_getElem? hc)
  refine ⟨h.paired.step hc draw, ?_⟩
  refine Concurrent.forall_set (fun d hd => hlater.informed (h.informed d hd)) ?_
  refine hlater.informed ?_
  cases c with
  | status args stage =>
    refine h.paired.statusInformed hinformed (fun hstage => ?_) args.now
    subst hstage
    exact hfirst i draw args.pairToken rfl (by rw [looksUp, hc])
  | enroll args stage =>
    refine h.paired.enrollInformed hinformed (fun hstage => ?_) draw
    subst hstage
    exact hfirst i draw args.pairToken rfl (by rw [looksUp, hc])
  | _ => trivial

lemma Agreeing.react (h : s.Agreeing env) {e : RegistryEvent} (hfirst : s.StampedFirst env e) :
    Agreeing env (s.react env e) := by
  cases e with
  | advance ms => exact ⟨⟨h.paired.fresh, h.paired.bound, h.paired.unstamped, h.paired.known,
      h.paired.owner⟩, h.informed⟩
  | request request =>
    refine ⟨h.paired.start request, ?_⟩
    refine Concurrent.forall_start (fun d hd => (later_start s request).informed (h.informed d hd)) ?_
    cases request <;> trivial
  | step i draw =>
    refine Concurrent.advance_induction (p := fun t : Requests => t.Agreeing env) h fun c hc => ?_
    exact h.step hc draw hfirst

lemma agreeing_init (now : ℕ) : Agreeing env (registryMachine env now).init := by
  refine ⟨⟨nofun, fun _ => Nat.zero_le _, fun _ => Nat.zero_le _, nofun, nofun⟩, nofun⟩

/-! ## The law of pairing -/

/-- What is kept of a pair token and of the reports on it at every moment. -/
structure PairingAgreement (env : RegistryEnv) (s : Requests) : Prop where
  one : ∀ hash, s.total (boundAs hash) ≤ 1
  kept : ∀ e hash row id, s.shared.token hash = some row → row.redeemedDeviceId = some id →
    ∃ row', (s.react env e).shared.token hash = some row' ∧ row'.redeemedDeviceId = some id
  polls : ∀ args device redeem stage key, .status args (.done (some (.redeemed device))) ∈ s.calls →
    .redeem redeem stage ∈ s.calls →
      boundAs (env.sha256Hex args.pairToken) (.redeem redeem stage) = 1 →
        suppliedKey redeem.devicePublicKeyB64 = some key → ∃ name, device = some ⟨name, some key⟩
  docks : ∀ args redeem stage, .enroll args .noKey ∈ s.calls → .redeem redeem stage ∈ s.calls →
    boundAs (env.sha256Hex args.pairToken) (.redeem redeem stage) = 1 →
      suppliedKey redeem.devicePublicKeyB64 = none
  enrolls : ∀ args name publicKeyB64 redeem stage key,
    .enroll args (.device name publicKeyB64) ∈ s.calls → .redeem redeem stage ∈ s.calls →
      boundAs (env.sha256Hex args.pairToken) (.redeem redeem stage) = 1 →
        suppliedKey redeem.devicePublicKeyB64 = some key → publicKeyB64 = key

lemma Paired.kept (h : s.Paired) (e : RegistryEvent) {hash id : JsString} {row : PairTokenRow}
    (hrow : s.shared.token hash = some row) (hid : row.redeemedDeviceId = some id) :
    ∃ row', (s.react env e).shared.token hash = some row' ∧ row'.redeemedDeviceId = some id := by
  cases e with
  | advance ms => exact ⟨row, hrow, hid⟩
  | request request => exact ⟨row, hrow, hid⟩
  | step i draw =>
    refine Concurrent.advance_induction (p := fun t : Requests =>
      ∃ row', t.shared.token hash = some row' ∧ row'.redeemedDeviceId = some id)
      ⟨row, hrow, hid⟩ fun c hc => ?_
    have hknown := h.known c (List.mem_of_getElem? hc)
    obtain ⟨row', hrow', -⟩ := stays_step env draw c tokenHash_mem_pairTokenColumns hrow
    refine ⟨row', hrow', ?_⟩
    cases token_step hknown hrow' with
    | same hsame =>
      rw [hrow, Option.some_inj] at hsame
      rw [← hsame]
      exact hid
    | minted hnone _ _ =>
      rw [hrow] at hnone
      cases hnone
    | claimed args old hclaim hold hredeemed hclaimed =>
      rw [hrow, Option.some_inj] at hold
      have hfresh := h.fresh hash row hrow (by rw [hold]; exact hredeemed)
      rw [hid] at hfresh
      cases hfresh
    | stamped args token device deviceToken old hstamp htoken hold hstamped =>
      -- the redemption that stamps had not stamped before
      subst hstamp htoken
      have hle := le_trans (Concurrent.weight_le_total hc (unstampedAs token.tokenHash))
        (h.unstamped token.tokenHash)
      have hone : unstampedAs token.tokenHash (.redeem args (.stamp token device deviceToken)) = 1 :=
        if_pos rfl
      rw [hone, hrow, stampRoom, hid, Option.isNone_some, Bool.and_false] at hle
      cases hle

lemma Agreeing.law (h : s.Agreeing env) : s.PairingAgreement env := by
  refine ⟨fun hash => le_trans (h.paired.bound hash) (boundRoom_le _),
    fun e hash row id hrow hid => h.paired.kept e hrow hid, ?_, ?_, ?_⟩
  · intro args device redeem stage key hmem hredeem hbound hkey
    have htold : keyOf device = some key := (h.informed _ hmem).2 redeem stage hredeem hbound key hkey
    cases device with
    | none => cases htold
    | some device =>
      obtain ⟨name, publicKeyB64⟩ := device
      have hsame : publicKeyB64 = some key := htold
      exact ⟨name, by rw [hsame]⟩
  · intro args redeem stage hmem hredeem hbound
    refine Option.eq_none_iff_forall_ne_some.2 fun key hkey => ?_
    have htold : none = some key := (h.informed _ hmem).2 redeem stage hredeem hbound key hkey
    cases htold
  · intro args name publicKeyB64 redeem stage key hmem hredeem hbound hkey
    have htold : some publicKeyB64 = some key :=
      (h.informed _ hmem).2 redeem stage hredeem hbound key hkey
    exact Option.some_inj.1 htold

lemma report_keyless {i : ℕ} {draw : Draw} {pairToken : JsString} {row : PairTokenRow}
    (hlooksUp : s.looksUp i = some pairToken)
    (hrow : s.shared.token (env.sha256Hex pairToken) = some row)
    (hredeemed : row.redeemedAt.isSome = true) (hstamped : row.redeemedDeviceId = none)
    {redeem : RedeemArgs} {stage : RedeemStage} (hmem : .redeem redeem stage ∈ s.calls)
    (hbound : boundAs (env.sha256Hex pairToken) (.redeem redeem stage) = 1)
    (hlaw : PairingAgreement env (s.react env (.step i draw))) :
    suppliedKey redeem.devicePublicKeyB64 = none := by
  have hstatus : ∀ now, pairTokenStatus env now pairToken s.shared .token =
      .done (some (.redeemed none)) := by
    intro now
    rw [pairTokenStatus, ← Registry.token, hrow]
    dsimp only
    rw [if_pos hredeemed, hstamped]
  rw [looksUp] at hlooksUp
  split at hlooksUp
  · next args hc =>
    cases hlooksUp
    refine Option.eq_none_iff_forall_ne_some.2 fun key hkey => ?_
    have hreact : s.react env (.step i draw) =
        ⟨s.shared, s.calls.set i (.status args (.done (some (.redeemed none))))⟩ := by
      rw [react, Concurrent.advance_of_some hc, RegistryCall.step, hstatus]
    rw [hreact] at hlaw
    obtain ⟨name, hnone⟩ := hlaw.polls args none redeem stage key (Concurrent.mem_set_self hc)
      (Concurrent.mem_set_of_ne hc hmem fun heq => by cases heq) hbound hkey
    cases hnone
  · next args hc =>
    cases hlooksUp
    have hreact : s.react env (.step i draw) = ⟨s.shared, s.calls.set i (.enroll args .noKey)⟩ := by
      rw [react, Concurrent.advance_of_some hc, RegistryCall.step, enrollDevice, hstatus]
      rfl
    rw [hreact] at hlaw
    exact hlaw.docks args redeem stage (Concurrent.mem_set_self hc)
      (Concurrent.mem_set_of_ne hc hmem fun heq => by cases heq) hbound
  · cases hlooksUp

end Requests

/-- One device is bound to a pair token and every report of its redemption has the device's key, at
every moment of a run, exactly when no report looks a token up between its claim and its stamp, unless
the phone supplied no key. -/
theorem pairingAgreement_iff (env : RegistryEnv) (now : ℕ) (es : List RegistryEvent) :
    (∀ pre, pre <+: es → ((registryMachine env now).run pre).PairingAgreement env) ↔
      (registryMachine env now).Meets (Requests.StampedFirst env) es := by
  constructor
  · rintro hall pre e post rfl i draw pairToken rfl hlooksUp row hrow hredeemed hstamped redeem stage
      hmem hbound
    have hlaw := hall (pre ++ [.step i draw]) ⟨post, by simp⟩
    rw [Machine.run_snoc] at hlaw
    exact Requests.report_keyless hlooksUp hrow hredeemed hstamped hmem hbound hlaw
  · rintro hmeets pre ⟨post, rfl⟩
    have hbefore := hmeets.prefix
    have hagreeing : ((registryMachine env now).run pre).Agreeing env :=
      Machine.invariant_of_meets _ (p := fun s : Requests => s.Agreeing env)
        (Requests.agreeing_init now) (fun _ _ hfirst h => h.react hfirst) hbefore
    exact hagreeing.law

/-- A phone that supplies a key. -/
def keyedPhone : RedeemArgs := ⟨3000, js "pt_02", some (js "phone"), some (js "BKey")⟩

/-- The dock looks the token up when the phone has claimed it and not stamped it. -/
def polledEarly : List RegistryEvent :=
  [.request (.enroll ⟨js "pt_02", 601000⟩), .step 2 (drawn 2000 "" ""), .request (.redeem keyedPhone),
    .step 3 (drawn 3000 "" ""), .step 2 (drawn 3000 "" "")]

/-- The dock finds that the phone has no key. -/
theorem not_pairingAgreement_polledEarly :
    ¬ ((registryMachine plainRegistryEnv 0).run (pairedHost ++ polledEarly)).PairingAgreement
      plainRegistryEnv := by
  intro h
  have hnoKey : .enroll ⟨js "pt_02", 601000⟩ .noKey ∈
      ((registryMachine plainRegistryEnv 0).run (pairedHost ++ polledEarly)).calls := by
    decide +kernel
  have hredeem : .redeem keyedPhone (.insert ⟨js "pair_1", js "org_1", js "usr_1", js "host_1",
        js "pt_02", 601000, some 3000, none⟩) ∈
      ((registryMachine plainRegistryEnv 0).run (pairedHost ++ polledEarly)).calls := by
    decide +kernel
  have hnone := h.docks _ _ _ hnoKey hredeem (by decide +kernel)
  exact absurd hnone (by decide)

end Pherry.ControlPlane
