import Pherry.ControlPlane.Registry

/-!
# Revocation is final

A request that begins behind a host's revocation is not let through for that host, as long as it does
not redeem a pair token of the host that was still open.
-/

namespace Pherry.ControlPlane

open Lib Protocol RelayCore

variable {env : RegistryEnv} {draw : Draw} {r : Registry} {hostId : JsString}

/-! ## What a step does to the hosts -/

lemma hosts_mintPairToken (args : PairArgs) (stage : PairStage) :
    (mintPairToken env draw args r stage).1.hosts = r.hosts := by
  cases stage with
  | check =>
    rw [mintPairToken]
    split <;> rfl
  | insert host now =>
    rw [mintPairToken]
    split <;> rfl
  | refused => rfl
  | failed => rfl
  | minted host pairToken expiresAt => rfl

lemma hosts_redeemPairToken (args : RedeemArgs) (stage : RedeemStage) :
    (redeemPairToken env draw args r stage).1.hosts = r.hosts := by
  cases stage with
  | claim =>
    rw [redeemPairToken]
    split <;> rfl
  | insert token =>
    rw [redeemPairToken]
    split <;> rfl
  | stamp token device deviceToken => rfl
  | load token device deviceToken =>
    rw [redeemPairToken]
    split <;> rfl
  | refused => rfl
  | failed token => rfl
  | redeemed token device result => rfl

lemma hosts_issueTicket (args : IssueArgs) (stage : IssueStage) :
    (issueTicket env draw args r stage).1.hosts = r.hosts := by
  cases stage with
  | check =>
    rw [issueTicket]
    split <;> rfl
  | mint host expiresAt attempt => rfl
  | refused => rfl
  | failed => rfl
  | issued host result => rfl

lemma hosts_consumeTicket (args : ResolveArgs) (stage : ResolveStage) :
    (consumeTicket env draw args r stage).1.hosts = r.hosts := by
  cases stage with
  | take => rfl
  | load record =>
    rw [consumeTicket]
    split <;> rfl
  | resolved record consumed =>
    rw [consumeTicket]
    split <;> rfl
  | refused => rfl
  | bridged record consumed => rfl
  | turnedAway record code => rfl

/-! ## A revoked host stays revoked -/

/-- The revocation of a host has committed. -/
def Revoked (hostId : JsString) (r : Registry) : Prop :=
  ∃ host, r.hosts.get HostRecord.id hostId = some host ∧ host.revokedAt.isSome = true

lemma id_mem_hostColumns : HostRecord.id ∈ hostColumns := List.mem_cons_self

lemma hostKeyHash_mem_hostColumns : HostRecord.hostKeyHash ∈ hostColumns :=
  List.mem_cons_of_mem _ List.mem_cons_self

lemma Revoked.register (h : Revoked hostId r) (args : RegisterArgs) (stage : RegisterStage) :
    Revoked hostId (registerHost env draw args r stage).1 := by
  cases stage with
  | check =>
    rw [registerHost]
    split
    · exact h
    · split <;> exact h
  | insert =>
    obtain ⟨host, hget, hrevoked⟩ := h
    rw [registerHost]
    split
    · exact ⟨host, hget, hrevoked⟩
    · next hosts hinsert =>
      refine ⟨host, ?_, hrevoked⟩
      rw [Table.get_insert hinsert, hget]
      rfl
  | refused => exact h
  | failed => exact h
  | registered host hostKey => exact h

lemma Revoked.revoke (h : Revoked hostId r) (args : RevokeArgs) (stage : RevokeStage) :
    Revoked hostId (revokeHost draw args r stage).1 := by
  cases stage with
  | check =>
    rw [revokeHost]
    split <;> exact h
  | update row =>
    obtain ⟨host, hget, hrevoked⟩ := h
    refine ⟨host, ?_, hrevoked⟩
    rw [revokeHost]
    dsimp only
    rw [Table.get_update _ id_mem_hostColumns, hget, Option.map_some]
    -- the update leaves a host that is revoked already
    have hguard : (decide (host.id = row.id) && host.revokedAt.isNone) = false := by
      rw [Option.isNone_eq_false_iff.2 hrevoked, Bool.and_false]
    rw [hguard]
    rfl
  | refused => exact h
  | ok => exact h

lemma Revoked.of_hosts (h : Revoked hostId r) {r' : Registry} (heq : r'.hosts = r.hosts) :
    Revoked hostId r' := by
  rw [Revoked, heq]
  exact h

lemma Revoked.step (h : Revoked hostId r) (c : RegistryCall) :
    Revoked hostId (c.step env draw r).1 := by
  cases c with
  | register args stage => exact h.register args stage
  | revoke args stage => exact h.revoke args stage
  | authenticate header stage => exact h
  | pair args stage => exact h.of_hosts (hosts_mintPairToken args stage)
  | redeem args stage => exact h.of_hosts (hosts_redeemPairToken args stage)
  | status args stage => exact h
  | enroll args stage => exact h
  | issue args stage => exact h.of_hosts (hosts_issueTicket args stage)
  | resolve args stage => exact h.of_hosts (hosts_consumeTicket args stage)

/-! ## Requests that are let through -/

/-- The host a request has been let through for, whatever is still to be done. -/
def RegistryCall.letThrough : RegistryCall → Option JsString
  | .register _ (.registered host _) => some host.id
  | .authenticate _ (.principal host) => some host.id
  | .pair _ (.insert host _) => some host.id
  | .pair _ (.minted host _ _) => some host.id
  | .redeem _ (.insert token) => some token.hostId
  | .redeem _ (.stamp token _ _) => some token.hostId
  | .redeem _ (.load token _ _) => some token.hostId
  | .redeem _ (.failed token) => some token.hostId
  | .redeem _ (.redeemed token _ _) => some token.hostId
  | .issue _ (.mint host _ _) => some host.id
  | .issue _ (.issued host _) => some host.id
  | .resolve _ (.resolved _ consumed) => some consumed.hostId
  | .resolve _ (.bridged _ consumed) => some consumed.hostId
  | _ => none

lemma letThrough_call (request : RegistryRequest) : request.call.letThrough = none := by
  cases request <;> rfl

lemma Revoked.isSome (h : Revoked hostId r) {host : HostRecord}
    (hget : r.hosts.get HostRecord.id host.id = some host) (hid : host.id = hostId) :
    host.revokedAt.isSome = true := by
  obtain ⟨host', hget', hrevoked⟩ := h
  rw [hid, hget', Option.some_inj] at hget
  rw [← hget]
  exact hrevoked

lemma get_id {hostId : JsString} {host : HostRecord}
    (hget : r.hosts.get HostRecord.id hostId = some host) :
    r.hosts.get HostRecord.id host.id = some host := by
  have hid := ((Table.get_eq_some id_mem_hostColumns).1 hget).2
  rw [hid]
  exact hget

lemma get_hostKeyHash {hash : JsString} {host : HostRecord}
    (hget : r.hosts.get HostRecord.hostKeyHash hash = some host) :
    r.hosts.get HostRecord.id host.id = some host := by
  have hmem := ((Table.get_eq_some hostKeyHash_mem_hostColumns).1 hget).1
  exact (Table.get_eq_some id_mem_hostColumns).2 ⟨hmem, rfl⟩

lemma Revoked.letThrough_register (h : Revoked hostId r) {args : RegisterArgs}
    {stage : RegisterStage} (hc : (RegistryCall.register args stage).letThrough ≠ some hostId) :
    (RegistryCall.register args (registerHost env draw args r stage).2).letThrough ≠ some hostId := by
  cases stage with
  | check =>
    rw [registerHost]
    split
    · nofun
    · split <;> nofun
  | insert =>
    rw [registerHost]
    split
    · nofun
    · next hosts hinsert =>
      -- the id of the revoked host is taken
      rintro hsome
      rw [RegistryCall.letThrough, Option.some_inj] at hsome
      have hnone := Table.get_of_insert id_mem_hostColumns hinsert
      obtain ⟨host, hget, -⟩ := h
      rw [hsome, hget] at hnone
      cases hnone
  | refused => exact hc
  | failed => exact hc
  | registered host hostKey => exact hc

lemma Revoked.letThrough_authenticate (h : Revoked hostId r) {header : Option JsString}
    {stage : AuthenticateStage}
    (hc : (RegistryCall.authenticate header stage).letThrough ≠ some hostId) :
    (RegistryCall.authenticate header (authenticateHost env header r stage)).letThrough ≠ some hostId := by
  cases stage with
  | check =>
    rw [authenticateHost]
    cases parseBearer header with
    | none => nofun
    | some token =>
      dsimp only
      split
      · nofun
      · split
        · nofun
        · next host hget =>
          split
          · nofun
          · next hactive =>
            show some host.id ≠ some hostId
            rw [ne_eq, Option.some_inj]
            intro hid
            exact hactive (h.isSome (get_hostKeyHash hget) hid)
  | refused => exact hc
  | principal host => exact hc

lemma Revoked.letThrough_pair (h : Revoked hostId r) {args : PairArgs} {stage : PairStage}
    (hc : (RegistryCall.pair args stage).letThrough ≠ some hostId) :
    (RegistryCall.pair args (mintPairToken env draw args r stage).2).letThrough ≠ some hostId := by
  cases stage with
  | check =>
    rw [mintPairToken]
    split
    · nofun
    · next host hget =>
      dsimp only
      split
      · nofun
      · next hactive =>
        show some host.id ≠ some hostId
        rw [ne_eq, Option.some_inj]
        intro hid
        rw [h.isSome (get_id hget) hid, Bool.or_true] at hactive
        exact hactive rfl
  | insert host now =>
    rw [mintPairToken]
    split
    · nofun
    · exact hc
  | refused => exact hc
  | failed => exact hc
  | minted host pairToken expiresAt => exact hc

lemma Revoked.letThrough_issue (h : Revoked hostId r) {args : IssueArgs} {stage : IssueStage}
    (hc : (RegistryCall.issue args stage).letThrough ≠ some hostId) :
    (RegistryCall.issue args (issueTicket env draw args r stage).2).letThrough ≠ some hostId := by
  cases stage with
  | check =>
    rw [issueTicket]
    split
    · nofun
    · next host hget =>
      dsimp only
      split
      · nofun
      · next hactive =>
        show some host.id ≠ some hostId
        rw [ne_eq, Option.some_inj]
        intro hid
        rw [h.isSome (get_id hget) hid, Bool.true_or] at hactive
        exact hactive rfl
  | mint host expiresAt attempt =>
    rw [issueTicket]
    dsimp only
    split
    · exact hc
    · split
      · exact hc
      · nofun
  | refused => exact hc
  | failed => exact hc
  | issued host result => exact hc

lemma loadActiveHost_eq_some {id : JsString} {host : HostRecord}
    (hload : loadActiveHost r id = some host) :
    r.hosts.get HostRecord.id id = some host ∧ host.revokedAt.isSome = false := by
  rw [loadActiveHost] at hload
  split at hload
  · cases hload
  · next row hget =>
    split at hload
    · cases hload
    · next hactive =>
      cases hload
      exact ⟨hget, Bool.eq_false_iff.2 hactive⟩

lemma Revoked.letThrough_resolve (h : Revoked hostId r) {args : ResolveArgs} {stage : ResolveStage}
    (hc : (RegistryCall.resolve args stage).letThrough ≠ some hostId) :
    (RegistryCall.resolve args (consumeTicket env draw args r stage).2).letThrough ≠ some hostId := by
  cases stage with
  | take =>
    rw [consumeTicket]
    dsimp only
    split
    · nofun
    · split <;> nofun
  | load record =>
    rw [consumeTicket]
    split
    · nofun
    · next host hload =>
      obtain ⟨hget, hactive⟩ := loadActiveHost_eq_some hload
      dsimp only
      split
      · nofun
      · show some host.id ≠ some hostId
        rw [ne_eq, Option.some_inj]
        intro hid
        rw [h.isSome (get_id hget) hid] at hactive
        cases hactive
  | resolved record consumed =>
    rw [consumeTicket]
    split
    · nofun
    · exact hc
  | refused => exact hc
  | bridged record consumed => exact hc
  | turnedAway record code => exact hc

lemma letThrough_redeem {args : RedeemArgs} {stage : RedeemStage}
    (hclaim : stage = .claim → ∀ token,
      r.pairTokens.rows.find? (claimable env args.now args.pairToken) = some token →
        token.hostId ≠ hostId)
    (hc : (RegistryCall.redeem args stage).letThrough ≠ some hostId) :
    (RegistryCall.redeem args (redeemPairToken env draw args r stage).2).letThrough ≠ some hostId := by
  cases stage with
  | claim =>
    rw [redeemPairToken]
    split
    · nofun
    · next token hfind =>
      show some token.hostId ≠ some hostId
      rw [ne_eq, Option.some_inj]
      exact hclaim rfl token hfind
  | insert token =>
    rw [redeemPairToken]
    split <;> exact hc
  | stamp token device deviceToken => exact hc
  | load token device deviceToken =>
    rw [redeemPairToken]
    split <;> exact hc
  | refused => exact hc
  | failed token => exact hc
  | redeemed token device result => exact hc

lemma Revoked.letThrough_step (h : Revoked hostId r) {c : RegistryCall}
    (hclaim : ∀ args, c = .redeem args .claim → ∀ token,
      r.pairTokens.rows.find? (claimable env args.now args.pairToken) = some token →
        token.hostId ≠ hostId)
    (hc : c.letThrough ≠ some hostId) : (c.step env draw r).2.letThrough ≠ some hostId := by
  cases c with
  | register args stage => exact h.letThrough_register hc
  | revoke args stage => nofun
  | authenticate header stage => exact h.letThrough_authenticate hc
  | pair args stage => exact h.letThrough_pair hc
  | redeem args stage =>
    refine letThrough_redeem (fun hstage => ?_) hc
    exact hclaim args (by rw [hstage])
  | status args stage => nofun
  | enroll args stage => nofun
  | issue args stage => exact h.letThrough_issue hc
  | resolve args stage => exact h.letThrough_resolve hc

/-! ## The law of revocation -/

lemma Revoked.react {s : Requests} (h : Revoked hostId s.shared) (e : RegistryEvent) :
    Revoked hostId (s.react env e).shared := by
  cases e with
  | advance ms => exact h
  | request request => exact h
  | step i draw =>
    exact Concurrent.advance_induction (p := fun t : Requests => Revoked hostId t.shared) h
      fun c _ => h.step c

variable (env)

/-- The pair token that the next step of a request claims. -/
def claimed (s : Requests) (i : ℕ) : Option PairTokenRow :=
  match s.calls[i]? with
  | some (.redeem args .claim) =>
    s.shared.pairTokens.rows.find? (claimable env args.now args.pairToken)
  | _ => none

/-- No request that begins behind a host's revocation is let through for the host. -/
def RevocationFinal (now : ℕ) (es : List RegistryEvent) : Prop :=
  ∀ pre mid post hostId, es = pre ++ mid ++ post →
    Revoked hostId ((registryMachine env now).run pre).shared →
      ∀ i c, ((registryMachine env now).run pre).calls.length ≤ i →
        ((registryMachine env now).run (pre ++ mid)).calls[i]? = some c →
          c.letThrough ≠ some hostId

/-- No redemption that begins behind a host's revocation finds a pair token of the host open. -/
def NoneOutstanding (now : ℕ) (es : List RegistryEvent) : Prop :=
  ∀ pre mid i draw post hostId, es = pre ++ mid ++ .step i draw :: post →
    Revoked hostId ((registryMachine env now).run pre).shared →
      ((registryMachine env now).run pre).calls.length ≤ i →
        ∀ token, claimed env ((registryMachine env now).run (pre ++ mid)) i = some token →
          token.hostId ≠ hostId

variable {env}

lemma Revoked.from_react {s : Requests} (h : Revoked hostId s.shared) {n : ℕ}
    (hfrom : ∀ i c, n ≤ i → s.calls[i]? = some c → c.letThrough ≠ some hostId) {e : RegistryEvent}
    (hclaim : ∀ i draw, e = .step i draw → n ≤ i → ∀ token, claimed env s i = some token →
      token.hostId ≠ hostId) :
    ∀ i c, n ≤ i → (s.react env e).calls[i]? = some c → c.letThrough ≠ some hostId := by
  cases e with
  | advance ms => exact hfrom
  | request request =>
    refine Concurrent.from_start hfrom ?_
    rw [letThrough_call]
    nofun
  | step j draw =>
    refine Concurrent.advance_induction (p := fun t : Requests =>
      ∀ i c, n ≤ i → t.calls[i]? = some c → c.letThrough ≠ some hostId) hfrom fun c hc => ?_
    refine Concurrent.from_set hfrom fun hj => ?_
    refine h.letThrough_step (fun args hstage token hfind => ?_) (hfrom j c hj hc)
    refine hclaim j draw rfl hj token ?_
    rw [claimed, hc, hstage]
    exact hfind

lemma letThrough_of_claimed {s : Requests} {i : ℕ} {token : PairTokenRow}
    (hclaimed : claimed env s i = some token) (draw : Draw) :
    ∃ c, (s.react env (.step i draw)).calls[i]? = some c ∧ c.letThrough = some token.hostId := by
  rw [claimed] at hclaimed
  split at hclaimed
  · next args hc =>
    refine ⟨.redeem args (.insert (token.claim args.now)), ?_, rfl⟩
    have hlt := (List.getElem?_eq_some_iff.1 hc).1
    rw [Requests.react, Concurrent.advance_of_some hc, RegistryCall.step, redeemPairToken, hclaimed]
    exact List.getElem?_set_self hlt
  · cases hclaimed

/-- A host's revocation is final exactly when no later redemption finds one of its pair tokens open. -/
theorem revocationFinal_iff (env : RegistryEnv) (now : ℕ) (es : List RegistryEvent) :
    RevocationFinal env now es ↔ NoneOutstanding env now es := by
  constructor
  · rintro hfinal pre mid i draw post hostId rfl hrevoked hi token hclaimed rfl
    obtain ⟨c, hc, hthrough⟩ := letThrough_of_claimed hclaimed draw
    refine hfinal pre (mid ++ [.step i draw]) post token.hostId (by simp) hrevoked i c hi ?_ hthrough
    rw [← List.append_assoc, Machine.run_snoc]
    exact hc
  · intro hnone pre mid post hostId hes hrevoked
    suffices hboth : Revoked hostId ((registryMachine env now).run (pre ++ mid)).shared ∧
        ∀ i c, ((registryMachine env now).run pre).calls.length ≤ i →
          ((registryMachine env now).run (pre ++ mid)).calls[i]? = some c →
            c.letThrough ≠ some hostId from hboth.2
    -- by induction on what happens behind the revocation
    induction mid using List.reverseRecOn generalizing post with
    | nil =>
      rw [List.append_nil]
      exact ⟨hrevoked, Concurrent.from_length _⟩
    | append_singleton mid e ih =>
      obtain ⟨hstill, hfrom⟩ := ih (e :: post) (by rw [hes]; simp)
      rw [← List.append_assoc, Machine.run_snoc]
      refine ⟨hstill.react e, hstill.from_react hfrom ?_⟩
      rintro i draw rfl hi token hclaimed
      exact hnone pre mid i draw post hostId (by rw [hes]; simp) hrevoked hi token hclaimed

/-- The host is revoked. -/
def hostRevoked : List RegistryEvent :=
  [.request (.revoke ⟨js "host_1", js "org_1"⟩), .step 2 (drawn 2000 "" ""), .step 2 (drawn 2000 "" "")]

/-- A phone redeems the pair token. -/
def tokenRedeemed : List RegistryEvent :=
  [.request (.redeem ⟨3000, js "pt_02", none, none⟩), .step 3 (drawn 3000 "" ""),
    .step 3 (drawn 3000 "dev_1" "03"), .step 3 (drawn 3000 "" ""), .step 3 (drawn 3000 "" "")]

/-- The phone of a revoked host is handed a device token. -/
theorem not_revocationFinal_tokenRedeemed :
    ¬ RevocationFinal plainRegistryEnv 0 (pairedHost ++ hostRevoked ++ tokenRedeemed) := by
  intro hfinal
  have hrevoked : (((registryMachine plainRegistryEnv 0).run
      (pairedHost ++ hostRevoked)).shared.hosts.get HostRecord.id (js "host_1")).any
        (fun host => host.revokedAt.isSome) = true := by decide +kernel
  have hthrough : (((registryMachine plainRegistryEnv 0).run
      (pairedHost ++ hostRevoked ++ tokenRedeemed)).calls[3]?).any
        (fun c => c.letThrough = some (js "host_1")) = true := by decide +kernel
  rw [Option.any_eq_true] at hrevoked hthrough
  obtain ⟨c, hc, hsome⟩ := hthrough
  exact hfinal (pairedHost ++ hostRevoked) tokenRedeemed [] (js "host_1") (by simp) hrevoked 3 c
    (by decide +kernel) hc (of_decide_eq_true hsome)

end Pherry.ControlPlane
