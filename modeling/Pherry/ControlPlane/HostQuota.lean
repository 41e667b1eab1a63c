import Pherry.ControlPlane.Revocation

/-!
# The host quota

`POST /v1/hosts` counts the unrevoked hosts of an organization in one statement and inserts the new one
in another. The quota holds as long as a registration that inserts still finds a slot.
-/

namespace Pherry.ControlPlane

open Lib

variable {env : RegistryEnv} {draw : Draw} {r : Registry} {orgId : JsString}

/-- A host of an organization that is not revoked. -/
def HostRecord.isActive (orgId : JsString) (row : HostRecord) : Bool :=
  row.orgId = orgId && row.revokedAt.isNone

/-- The unrevoked hosts of an organization. -/
def activeHosts (orgId : JsString) (r : Registry) : List HostRecord :=
  r.hosts.rows.filter (HostRecord.isActive orgId)

/-- The row that a registration inserts. -/
def newHost (env : RegistryEnv) (draw : Draw) (args : RegisterArgs) : HostRecord :=
  { id := draw.id
    orgId := args.orgId
    userId := args.userId
    name := args.name
    staticPublicKey := args.staticPublicKeyB64
    hostKeyHash := env.sha256Hex (mintSecret (js "hk") draw.secret)
    revokedAt := none }

/-- A registration that inserts a row, one that no unique column refuses, finds a slot. -/
def Requests.SlotLeft (env : RegistryEnv) (s : Requests) (e : RegistryEvent) : Prop :=
  ∀ i draw args, e = .step i draw → s.calls[i]? = some (.register args .insert) →
    s.shared.hosts.insert (newHost env draw args) ≠ none →
      (activeHosts args.orgId s.shared).length < env.maxHostsPerOrg

/-- No organization has more unrevoked hosts than it may have. -/
def HostQuota (env : RegistryEnv) (r : Registry) : Prop :=
  ∀ orgId, (activeHosts orgId r).length ≤ env.maxHostsPerOrg

/-! ## What a step does to the hosts of an organization -/

lemma registerHost_insert (args : RegisterArgs) :
    registerHost env draw args r .insert =
      match r.hosts.insert (newHost env draw args) with
      | none => (r, .failed)
      | some hosts =>
        ({ r with hosts }, .registered (newHost env draw args) (mintSecret (js "hk") draw.secret)) :=
  rfl

lemma activeHosts_of_hosts {r' : Registry} (h : r'.hosts = r.hosts) :
    activeHosts orgId r' = activeHosts orgId r := by
  rw [activeHosts, activeHosts, h]

lemma length_activeHosts_insert (orgId : JsString) {host : HostRecord} {hosts : Table hostColumns}
    (h : r.hosts.insert host = some hosts) (hactive : host.revokedAt = none) :
    (activeHosts orgId { r with hosts }).length =
      (activeHosts orgId r).length + if host.orgId = orgId then 1 else 0 := by
  rw [Table.insert] at h
  split at h
  · cases h
    rw [activeHosts, activeHosts, List.filter_append, List.length_append]
    congr 1
    by_cases horg : host.orgId = orgId
    · simp [HostRecord.isActive, horg, hactive]
    · simp [HostRecord.isActive, horg]
  · cases h

lemma length_activeHosts_revoke (p : HostRecord → Bool) (now : ℕ) :
    (activeHosts orgId { r with
      hosts := r.hosts.update p (HostRecord.revoke now) (hostColumns_revoke now) }).length ≤
      (activeHosts orgId r).length := by
  rw [activeHosts, activeHosts, Table.update]
  show ((r.hosts.rows.map _).filter _).length ≤ _
  rw [List.filter_map, List.length_map]
  apply List.Sublist.length_le
  apply List.monotone_filter_right
  intro row hrow
  rw [Function.comp_apply] at hrow
  split at hrow
  · simp [HostRecord.isActive, HostRecord.revoke] at hrow
  · exact hrow

lemma activeHosts_step (env : RegistryEnv) (draw : Draw) (r : Registry) (orgId : JsString)
    (c : RegistryCall) :
    (activeHosts orgId (c.step env draw r).1).length ≤ (activeHosts orgId r).length ∨
      ∃ args, c = .register args .insert ∧ args.orgId = orgId ∧
        r.hosts.insert (newHost env draw args) ≠ none ∧
        (activeHosts orgId (c.step env draw r).1).length = (activeHosts orgId r).length + 1 := by
  have hsame : ∀ {r' : Registry}, r'.hosts = r.hosts →
      (activeHosts orgId r').length ≤ (activeHosts orgId r).length := by
    intro r' hhosts
    rw [activeHosts_of_hosts hhosts]
  cases c with
  | register args stage =>
    cases stage with
    | check =>
      left
      apply hsame
      rw [RegistryCall.step, registerHost]
      split
      · rfl
      · split <;> rfl
    | insert =>
      rw [RegistryCall.step, registerHost_insert]
      cases hinsert : r.hosts.insert (newHost env draw args) with
      | none => exact Or.inl (hsame rfl)
      | some hosts =>
        have hlength := length_activeHosts_insert orgId hinsert rfl
        by_cases horg : args.orgId = orgId
        · right
          refine ⟨args, rfl, horg, by rw [hinsert]; exact Option.some_ne_none hosts, ?_⟩
          rw [hlength, if_pos (by exact horg)]
        · left
          dsimp only
          rw [hlength, if_neg (by exact horg), Nat.add_zero]
    | refused => exact Or.inl (hsame rfl)
    | failed => exact Or.inl (hsame rfl)
    | registered host hostKey => exact Or.inl (hsame rfl)
  | revoke args stage =>
    left
    cases stage with
    | check =>
      apply hsame
      rw [RegistryCall.step, revokeHost]
      split <;> rfl
    | update host => exact length_activeHosts_revoke _ draw.now
    | refused => exact hsame rfl
    | ok => exact hsame rfl
  | authenticate header stage => exact Or.inl (hsame rfl)
  | pair args stage => exact Or.inl (hsame (hosts_mintPairToken args stage))
  | redeem args stage => exact Or.inl (hsame (hosts_redeemPairToken args stage))
  | status args stage => exact Or.inl (hsame rfl)
  | enroll args stage => exact Or.inl (hsame rfl)
  | issue args stage => exact Or.inl (hsame (hosts_issueTicket args stage))
  | resolve args stage => exact Or.inl (hsame (hosts_consumeTicket args stage))

lemma HostQuota.react {s : Requests} {e : RegistryEvent} (hslot : s.SlotLeft env e)
    (h : HostQuota env s.shared) : HostQuota env (s.react env e).shared := by
  cases e with
  | advance ms => exact h
  | request request => exact h
  | step i draw =>
    refine Concurrent.advance_induction (p := fun t : Requests => HostQuota env t.shared) h
      fun c hc orgId => ?_
    have hbefore := h orgId
    rcases activeHosts_step env draw s.shared orgId c with hle | ⟨args, rfl, rfl, hinsert, hone⟩
    · exact hle.trans hbefore
    · have hlt := hslot i draw args rfl hc hinsert
      exact hone.trans_le hlt

/-- A control plane that lets an organization have one host. -/
def oneHostEnv : RegistryEnv := ⟨id, 600000, 30000, 1, none⟩

/-- A laptop that is registered. -/
def laptopArgs : RegisterArgs :=
  ⟨js "org_1", js "usr_1", js "mac", js "AAAAAAAAAAAAAAAAAAAAAAAAAAAAAAAAAAAAAAAAAAA="⟩

/-- Two registrations count before either inserts. -/
def countedTwice : List RegistryEvent :=
  [.request (.register laptopArgs), .request (.register laptopArgs), .step 0 (drawn 0 "" ""),
    .step 1 (drawn 0 "" ""), .step 0 (drawn 0 "host_1" "01"), .step 1 (drawn 0 "host_2" "02")]

end Pherry.ControlPlane
