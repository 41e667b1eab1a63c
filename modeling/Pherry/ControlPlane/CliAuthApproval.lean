import Pherry.ControlPlane.CliAuthTraces

/-!
# One approval, one token

A request is approved once and redeemed once as long as no approve comes to store its grant when an
earlier grant is gone.
-/

namespace Pherry.ControlPlane

open Lib

namespace CliAuth

/-! ## Weights -/

/-- Approves that succeeded. -/
def approvals : CliAuthCall → ℕ
  | .approve _ _ (.approved _) => 1
  | _ => 0

/-- Exchanges that have taken a grant. -/
def spendings : CliAuthCall → ℕ
  | .exchange _ _ (.mint _) => 1
  | .exchange _ _ (.retire _ _) => 1
  | .exchange _ _ (.ok _ _) => 1
  | .exchange _ _ .burned => 1
  | _ => 0

/-- Exchanges that have minted a token. -/
def mintings : CliAuthCall → ℕ
  | .exchange _ _ stage => if minted stage then 1 else 0
  | _ => 0

/-- Exchanges that have burned a grant. -/
def burnings : CliAuthCall → ℕ
  | .exchange _ _ .burned => 1
  | _ => 0

lemma mintings_add_burnings_le (c : CliAuthCall) : mintings c + burnings c ≤ spendings c := by
  cases c with
  | approve now args stage => exact Nat.zero_le _
  | exchange now args stage =>
    cases stage with
    | mint grant => exact Nat.zero_le _
    | _ => exact Nat.le_refl _

lemma total_mintings_add_burnings_le (s : CliAuth) :
    s.total mintings + s.total burnings ≤ s.total spendings := by
  have hsum : s.total mintings + s.total burnings = s.total fun c => mintings c + burnings c :=
    List.sum_map_add.symm
  rw [hsum]
  exact List.sum_le_sum fun c _ => mintings_add_burnings_le c

variable {env : CliAuthEnv} {requestId : JsString} {record : CliAuthRequest} {s : CliAuth}

/-- A grant in the store. -/
def heldGrants (requestId : JsString) (s : CliAuth) : ℕ :=
  if (s.shared.live (grantKey requestId)).isSome then 1 else 0

/-- The one grant is in the store, or was spent. -/
structure Balanced (requestId : JsString) (s : CliAuth) : Prop where
  spent : heldGrants requestId s + s.total spendings ≤ s.total approvals
  once : s.total approvals ≤ 1

/-- An approve stores its grant when none was stored before, or one is still there. -/
def Timely (s : CliAuth) (e : CliAuthEvent) : Prop :=
  ∀ i draw now args r grant redirectUrl, e = .step i draw →
    s.calls[i]? = some (.approve now args (.store r grant redirectUrl)) →
      s.total approvals = 0 ∨ (s.shared.live (grantKey args.requestId)).isSome = true

lemma heldGrants_congr {s t : CliAuth}
    (h : t.shared.live (grantKey requestId) = s.shared.live (grantKey requestId)) :
    heldGrants requestId t = heldGrants requestId s := by
  rw [heldGrants, heldGrants, h]

lemma Balanced.keep (h : s.Balanced requestId) {i : ℕ} {c c' : CliAuthCall}
    (hc : s.calls[i]? = some c) {redis : CliAuthStore}
    (hlive : redis.live (grantKey requestId) = s.shared.live (grantKey requestId))
    (hspendings : spendings c' = spendings c) (happrovals : approvals c' = approvals c) :
    Balanced requestId ⟨redis, s.calls.set i c'⟩ := by
  have hheld := heldGrants_congr (s := s) (t := ⟨redis, s.calls.set i c'⟩) hlive
  have hspent := Concurrent.total_set hc spendings redis c'
  have happroved := Concurrent.total_set hc approvals redis c'
  have hbalance := h.spent
  have honce := h.once
  refine ⟨?_, ?_⟩ <;> omega

lemma Balanced.store (h : s.Balanced requestId) {i now : ℕ} {args : ApproveArgs}
    {r : CliAuthRequest} {grant : CliAuthGrant} {redirectUrl : Option JsString}
    (hc : s.calls[i]? = some (.approve now args (.store r grant redirectUrl)))
    (draw : JsString) (htimely : s.Timely (.step i draw)) :
    Balanced requestId
      ⟨((CliAuthCall.approve now args (.store r grant redirectUrl)).step env draw s.shared).1,
        s.calls.set i
          ((CliAuthCall.approve now args (.store r grant redirectUrl)).step env draw s.shared).2⟩ := by
  rw [CliAuthCall.step, approveCliAuth]
  cases hlive : s.shared.live (grantKey args.requestId) with
  | some e =>
    rw [KeyStore.setNx_of_live hlive]
    exact h.keep hc rfl rfl rfl
  | none =>
    rw [KeyStore.setNx_of_absent hlive]
    dsimp only
    rw [if_pos rfl]
    have hzero : s.total approvals = 0 := by
      rcases htimely i draw now args r grant redirectUrl rfl hc with hzero | hthere
      · exact hzero
      · rw [hlive] at hthere
        cases hthere
    have hbalance := h.spent
    have hspent := Concurrent.total_set hc spendings
      (s.shared.set (grantKey args.requestId) (.grant grant) (some (r.expiresAt - now)))
      (.approve now args (.approved redirectUrl))
    have happroved := Concurrent.total_set hc approvals
      (s.shared.set (grantKey args.requestId) (.grant grant) (some (r.expiresAt - now)))
      (.approve now args (.approved redirectUrl))
    have hle : heldGrants requestId
        ⟨s.shared.set (grantKey args.requestId) (.grant grant) (some (r.expiresAt - now)),
          s.calls.set i (.approve now args (.approved redirectUrl))⟩ ≤ 1 := by
      rw [heldGrants]
      split <;> omega
    have hspendings : spendings (.approve now args (.store r grant redirectUrl)) = 0 ∧
        spendings (.approve now args (.approved redirectUrl)) = 0 := ⟨rfl, rfl⟩
    have happrovals : approvals (.approve now args (.store r grant redirectUrl)) = 0 ∧
        approvals (.approve now args (.approved redirectUrl)) = 1 := ⟨rfl, rfl⟩
    refine ⟨?_, ?_⟩ <;> omega

lemma Balanced.take (h : s.Balanced requestId) {i now : ℕ} {args : ExchangeArgs}
    {r : CliAuthRequest} (hc : s.calls[i]? = some (.exchange now args (.take r)))
    (hid : args.requestId = requestId) (draw : JsString) :
    Balanced requestId
      ⟨((CliAuthCall.exchange now args (.take r)).step env draw s.shared).1,
        s.calls.set i ((CliAuthCall.exchange now args (.take r)).step env draw s.shared).2⟩ := by
  rw [CliAuthCall.step, exchangeCliAuth]
  cases hlive : s.shared.live (grantKey args.requestId) with
  | none =>
    rw [KeyStore.getdel_of_absent hlive]
    exact h.keep hc rfl rfl rfl
  | some e =>
    rw [KeyStore.getdel_of_live hlive]
    have hheld : heldGrants requestId s = 1 := by
      rw [heldGrants, ← hid, hlive]
      rfl
    have hafter : ∀ calls, heldGrants requestId ⟨s.shared.del (grantKey args.requestId), calls⟩ = 0 := by
      intro calls
      rw [heldGrants, ← hid, KeyStore.live_del_self]
      rfl
    have hspend : ∀ c' : CliAuthCall, spendings c' = 1 → approvals c' = 0 →
        Balanced requestId ⟨s.shared.del (grantKey args.requestId), s.calls.set i c'⟩ := by
      intro c' hspendings happrovals
      have hbalance := h.spent
      have honce := h.once
      have hzero := hafter (s.calls.set i c')
      have hspent := Concurrent.total_set hc spendings (s.shared.del (grantKey args.requestId)) c'
      have happroved := Concurrent.total_set hc approvals (s.shared.del (grantKey args.requestId)) c'
      have hbefore : spendings (.exchange now args (.take r)) = 0 ∧
          approvals (.exchange now args (.take r)) = 0 := ⟨rfl, rfl⟩
      refine ⟨?_, ?_⟩ <;> omega
    dsimp only
    split
    · next hnone => cases hnone
    · split
      · exact hspend _ rfl rfl
      · exact hspend _ rfl rfl
    · exact hspend _ rfl rfl

lemma Balanced.step (h : s.Balanced requestId) (htraced : s.Traced env requestId record) {i : ℕ}
    {c : CliAuthCall} (hc : s.calls[i]? = some c) (draw : JsString)
    (htimely : s.Timely (.step i draw)) :
    Balanced requestId ⟨(c.step env draw s.shared).1, s.calls.set i (c.step env draw s.shared).2⟩ := by
  have htraces := htraced.calls c (List.mem_of_getElem? hc)
  cases c with
  | approve now args stage =>
    cases stage with
    | load =>
      rw [CliAuthCall.step, approveCliAuth]
      split
      · exact h.keep hc rfl rfl rfl
      · dsimp only
        split
        · exact h.keep hc rfl rfl rfl
        · exact h.keep hc rfl rfl rfl
    | count r => exact h.keep hc (KeyStore.live_setNx_ne (grantKey_ne_attemptsKey _ _) _ _) rfl rfl
    | incr =>
      rw [CliAuthCall.step, approveCliAuth]
      refine h.keep hc (KeyStore.live_modify_ne (grantKey_ne_attemptsKey _ _) _) ?_ ?_
      all_goals
        dsimp only
        split <;> split <;> rfl
    | retire => exact h.keep hc (KeyStore.live_del_ne (requestKey_ne_grantKey _ _).symm) rfl rfl
    | store r grant redirectUrl => exact h.store hc draw htimely
    | wrong => exact h.keep hc rfl rfl rfl
    | refused => exact h.keep hc rfl rfl rfl
    | approved redirectUrl => exact h.keep hc rfl rfl rfl
  | exchange now args stage =>
    cases stage with
    | load =>
      rw [CliAuthCall.step, exchangeCliAuth]
      split
      · exact h.keep hc rfl rfl rfl
      · refine h.keep hc rfl ?_ ?_
        all_goals
          dsimp only
          split <;> rfl
    | take r => exact h.take hc htraces.1 draw
    | mint grant => exact h.keep hc (KeyStore.live_put_ne (grantKey_ne_cliTokenKey _ _) _) rfl rfl
    | retire token expiresAt =>
      exact h.keep hc (KeyStore.live_del_ne (requestKey_ne_grantKey _ _).symm) rfl rfl
    | refused => exact h.keep hc rfl rfl rfl
    | pending => exact h.keep hc rfl rfl rfl
    | burned => exact h.keep hc rfl rfl rfl
    | ok token expiresAt => exact h.keep hc rfl rfl rfl

lemma Balanced.react (h : s.Balanced requestId) (htraced : s.Traced env requestId record)
    {e : CliAuthEvent} (htimely : s.Timely e) : Balanced requestId (s.react env e) := by
  cases e with
  | advance ms =>
    have hle : heldGrants requestId { s with shared := s.shared.advance ms } ≤ heldGrants requestId s := by
      rw [heldGrants, heldGrants]
      split
      · next hlive =>
        obtain ⟨e, he⟩ := Option.isSome_iff_exists.1 hlive
        rw [KeyStore.live_of_advance he]
        exact Nat.le_refl _
      · exact Nat.zero_le _
    exact ⟨le_trans (Nat.add_le_add_right hle _) h.spent, h.once⟩
  | approve now args =>
    refine ⟨?_, ?_⟩
    · show heldGrants requestId s + (s.start _).total spendings ≤ (s.start _).total approvals
      rw [Concurrent.total_start, Concurrent.total_start]
      exact h.spent
    · show (s.start _).total approvals ≤ 1
      rw [Concurrent.total_start]
      exact h.once
  | exchange now args =>
    refine ⟨?_, ?_⟩
    · show heldGrants requestId s + (s.start _).total spendings ≤ (s.start _).total approvals
      rw [Concurrent.total_start, Concurrent.total_start]
      exact h.spent
    · show (s.start _).total approvals ≤ 1
      rw [Concurrent.total_start]
      exact h.once
  | step i draw =>
    refine Concurrent.advance_induction (p := fun t : CliAuth => t.Balanced requestId) h fun c hc => ?_
    exact h.step htraced hc draw htimely

lemma Traced.wrongSecret (h : s.Traced env requestId record) {i now : ℕ} {args : ExchangeArgs}
    {stage : ExchangeStage} (hc : s.calls[i]? = some (.exchange now args stage))
    (hsecret : env.sha256Hex args.cliSecret ≠ record.secretHash) (draw : JsString) :
    (s.react env (.step i draw)).shared = s.shared := by
  have htraces := h.calls _ (List.mem_of_getElem? hc)
  rw [CliAuth.react, Concurrent.advance_of_some hc]
  cases stage with
  | load => exact shared_load_exchange draw now args s.shared
  | take r => exact absurd htraces.2.2 hsecret
  | mint grant => exact absurd htraces.2.2.1 hsecret
  | retire token expiresAt =>
    obtain ⟨grant, -, hpresents⟩ := htraces
    exact absurd hpresents.2.1 hsecret
  | ok token expiresAt =>
    obtain ⟨grant, -, hpresents⟩ := htraces
    exact absurd hpresents.2.1 hsecret
  | refused => rfl
  | pending => rfl
  | burned => rfl

/-! ## The law of a request -/

variable (env requestId record)

/-- One approval and one token: what is kept at every moment. -/
structure OneApproval (s : CliAuth) : Prop where
  approvals : s.total approvals ≤ 1
  tokens : s.total mintings ≤ 1
  burned : 1 ≤ s.total burnings → s.total mintings = 0
  stored : ∀ hash e, s.shared.entries (cliTokenKey hash) = some e →
    ∃ token, e.value = .token token ∧ s.Earned env requestId record token
  returned : ∀ now args token expiresAt, .exchange now args (.ok token expiresAt) ∈ s.calls →
    ∃ grant, s.Granted env record grant ∧ Presents env requestId record args grant
  wrongSecret : ∀ i now args stage draw, s.calls[i]? = some (.exchange now args stage) →
    env.sha256Hex args.cliSecret ≠ record.secretHash →
      (s.react env (.step i draw)).shared = s.shared

variable {env requestId record}

lemma Traced.oneApproval (h : s.Traced env requestId record) (hbalanced : s.Balanced requestId) :
    s.OneApproval env requestId record := by
  have hspent := hbalanced.spent
  have honce := hbalanced.once
  have hsum := total_mintings_add_burnings_le s
  refine ⟨honce, by omega, fun hburned => by omega, h.tokens, fun now args token expiresAt hmem => ?_,
    fun i now args stage draw hc hsecret => h.wrongSecret hc hsecret draw⟩
  exact h.calls _ hmem

lemma balanced_run {now : ℕ} {es : List CliAuthEvent}
    (hmeets : (cliAuthMachine env requestId record now).Meets Timely es) :
    Balanced requestId ((cliAuthMachine env requestId record now).run es) := by
  have hrun : ((cliAuthMachine env requestId record now).run es).Traced env requestId record ∧
      Balanced requestId ((cliAuthMachine env requestId record now).run es) := by
    refine Machine.invariant_of_meets _
      (p := fun s : CliAuth => s.Traced env requestId record ∧ s.Balanced requestId)
      ⟨traced_run now [], ?_, Nat.zero_le _⟩
      (fun s e htimely hs => ⟨hs.1.react e, hs.2.react hs.1 htimely⟩) hmeets
    have hother : (cliAuthMachine env requestId record now).init.shared.live (grantKey requestId) =
        none := KeyStore.live_setNx_ne (requestKey_ne_grantKey _ _).symm _ _
    rw [heldGrants, hother]
    exact Nat.le_refl _
  exact hrun.2

variable (env) in
/-- An approve that stores a grant behind another one that is gone is a second approval. -/
lemma approvals_of_late {i now : ℕ} {args : ApproveArgs} {r : CliAuthRequest} {grant : CliAuthGrant}
    {redirectUrl : Option JsString}
    (hc : s.calls[i]? = some (.approve now args (.store r grant redirectUrl)))
    (hgone : s.shared.live (grantKey args.requestId) = none) (draw : JsString) :
    (s.react env (.step i draw)).total approvals = s.total approvals + 1 := by
  have hstep : s.react env (.step i draw) =
      ⟨s.shared.set (grantKey args.requestId) (.grant grant) (some (r.expiresAt - now)),
        s.calls.set i (.approve now args (.approved redirectUrl))⟩ := by
    rw [react, Concurrent.advance_of_some hc, CliAuthCall.step, approveCliAuth, KeyStore.setNx_of_absent hgone]
    rfl
  rw [hstep]
  exact Concurrent.total_set hc approvals _ _

end CliAuth

/-- A request is approved once and redeemed once, at every moment of a run, exactly when no approve
stores its grant while an earlier one is gone. -/
theorem oneApproval_iff (env : CliAuthEnv) (requestId : JsString) (record : CliAuthRequest) (now : ℕ)
    (es : List CliAuthEvent) :
    (∀ pre, pre <+: es →
      ((cliAuthMachine env requestId record now).run pre).OneApproval env requestId record) ↔
        (cliAuthMachine env requestId record now).Meets CliAuth.Timely es := by
  constructor
  · rintro hall pre e post rfl i draw now' args r grant redirectUrl rfl hc
    by_contra hlate
    rw [not_or, Bool.not_eq_true, Option.isSome_eq_false_iff, Option.isNone_iff_eq_none] at hlate
    obtain ⟨hsome, hgone⟩ := hlate
    have hnext := (hall (pre ++ [.step i draw]) ⟨post, by simp⟩).approvals
    rw [Machine.run_snoc] at hnext
    have hsecond := CliAuth.approvals_of_late env hc hgone draw
    have hnext : ((((cliAuthMachine env requestId record now).run pre).react env
        (.step i draw)).total CliAuth.approvals) ≤ 1 := hnext
    omega
  · rintro hmeets pre ⟨post, rfl⟩
    have hbefore := hmeets.prefix
    exact (CliAuth.traced_run now pre).oneApproval (CliAuth.balanced_run hbefore)

/-- A platform where nothing is hashed. -/
def plainEnv : CliAuthEnv := ⟨id, id, 600000, 600000⟩

/-- A request with a callback. -/
def callbackRequest : CliAuthRequest :=
  startCliAuth plainEnv 0 (some (js "http://127.0.0.1:9")) (js "cas_1") []

/-- A wrong code burns the grant; the request is approved once more, and redeemed. -/
def burnedThenApproved : List CliAuthEvent :=
  [.approve 1000 ⟨js "car_1", js "usr_1", none⟩, .step 0 (js "cac_1"), .step 0 [],
    .exchange 2000 ⟨js "car_1", js "cas_1", some (js "cac_0")⟩, .step 1 [], .step 1 [],
    .approve 3000 ⟨js "car_1", js "usr_2", none⟩, .step 2 (js "cac_2"), .step 2 [],
    .exchange 4000 ⟨js "car_1", js "cas_1", some (js "cac_2")⟩, .step 3 [], .step 3 [],
    .step 3 (js "ct_1"), .step 3 []]

theorem not_oneApproval_burnedThenApproved :
    ¬ ((cliAuthMachine plainEnv (js "car_1") callbackRequest 0).run burnedThenApproved).OneApproval
      plainEnv (js "car_1") callbackRequest := by
  intro h
  exact absurd (h.burned (by decide)) (by decide)

end Pherry.ControlPlane
