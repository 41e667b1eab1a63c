import Pherry.ControlPlane.Audit
import Pherry.ControlPlane.HostQuota

/-!
# A log that is complete

A host is registered in one statement and logged in the next, and so is its revocation. The log is complete
exactly when no statement fails that is to write it.
-/

namespace Pherry.ControlPlane

open Lib Protocol

/-! ## Requests that log -/

/-- Where a registration has got to; `thrown` holds the host that it has inserted. -/
inductive AuditedRegisterStage
  | check
  | insert
  | audit (host : HostRecord) (hostKey : JsString)
  | refused
  | thrown (host : Option HostRecord)
  | registered (host : HostRecord) (hostKey : JsString)

/-- Where a revocation has got to; `thrown` holds the host that it has revoked. -/
inductive AuditedRevokeStage
  | check
  | update (host : HostRecord)
  | audit (host : HostRecord)
  | refused
  | thrown (host : Option HostRecord)
  | ok

/-- An event of a host. -/
def hostEvent (kind : AuditKind) (draw : Draw) (orgId hostId : JsString) : AuditEventRow :=
  { id := draw.id
    orgId
    kind
    hostId := some hostId
    deviceId := none
    detail := none
    createdAt := draw.now }

/-- A host that the update of a revocation changes. -/
def revocable (host row : HostRecord) : Bool :=
  row.id = host.id && row.revokedAt.isNone

/-- `POST /v1/hosts`. -/
def AuditedRegistry.registerHost (env : RegistryEnv) (st : Statement) (args : RegisterArgs)
    (db : AuditedRegistry) : AuditedRegisterStage → AuditedRegistry × AuditedRegisterStage
  | .check =>
    if args.name.length = 0 || (decodeKey args.staticPublicKeyB64).isNone then (db, .refused)
    else if st.fails then (db, .thrown none)
    else if (activeHosts args.orgId db.registry).length ≥ env.maxHostsPerOrg then (db, .refused)
    else (db, .insert)
  | .insert =>
    if st.fails then (db, .thrown none)
    else
      match db.registry.hosts.insert (newHost env st.draw args) with
      | none => (db, .thrown none)
      | some hosts =>
        ({ db with registry.hosts := hosts },
          .audit (newHost env st.draw args) (mintSecret (js "hk") st.draw.secret))
  | .audit host hostKey =>
    if st.fails then (db, .thrown (some host))
    else
      match appendAuditEvent (hostEvent .hostRegistered st.draw args.orgId host.id) db with
      | none => (db, .thrown (some host))
      | some db => (db, .registered host hostKey)
  | stage => (db, stage)

/-- `DELETE /v1/hosts/:id`. -/
def AuditedRegistry.revokeHost (st : Statement) (args : RevokeArgs) (db : AuditedRegistry) :
    AuditedRevokeStage → AuditedRegistry × AuditedRevokeStage
  | .check =>
    if st.fails then (db, .thrown none)
    else
      match db.registry.hosts.get HostRecord.id args.hostId with
      | none => (db, .refused)
      | some host => (db, if host.orgId ≠ args.orgId then .refused else .update host)
  | .update host =>
    if st.fails then (db, .thrown none)
    else
      let hosts := db.registry.hosts.update (revocable host) (HostRecord.revoke st.draw.now)
        (hostColumns_revoke st.draw.now)
      ({ db with registry.hosts := hosts },
        if db.registry.hosts.rows.any (revocable host) then .audit host else .ok)
  | .audit host =>
    if st.fails then (db, .thrown (some host))
    else
      match appendAuditEvent (hostEvent .hostRevoked st.draw args.orgId host.id) db with
      | none => (db, .thrown (some host))
      | some db => (db, .ok)
  | stage => (db, stage)

/-- A request about a host that has got so far. -/
inductive AuditedCall
  | register (args : RegisterArgs) (stage : AuditedRegisterStage)
  | revoke (args : RevokeArgs) (stage : AuditedRevokeStage)

/-- The next statement of a request. -/
def AuditedCall.step (env : RegistryEnv) (st : Statement) (db : AuditedRegistry) :
    AuditedCall → AuditedRegistry × AuditedCall
  | .register args stage =>
    let x := db.registerHost env st args stage
    (x.1, .register args x.2)
  | .revoke args stage =>
    let x := db.revokeHost st args stage
    (x.1, .revoke args x.2)

/-- What happens: a request arrives, or gets a statement done. -/
inductive AuditedEvent
  | register (args : RegisterArgs)
  | revoke (args : RevokeArgs)
  | step (call : ℕ) (st : Statement)

/-- The database and the requests on it. -/
abbrev AuditedRequests := Concurrent AuditedRegistry AuditedCall

/-- One event. -/
def AuditedRequests.react (env : RegistryEnv) (s : AuditedRequests) : AuditedEvent → AuditedRequests
  | .register args => s.start (.register args .check)
  | .revoke args => s.start (.revoke args .check)
  | .step call st => s.advance call (AuditedCall.step env st)

/-- A control plane where nothing is registered yet. -/
def auditedMachine (env : RegistryEnv) (now : ℕ) : Machine AuditedRequests AuditedEvent where
  init := ⟨⟨⟨.empty, .empty, .empty, .empty now, fun _ => []⟩, .empty, .empty⟩, []⟩
  step s e := s.react env e

/-! ## What the log is to hold -/

/-- How many rows of a kind the log has for a host. -/
def logged (kind : AuditKind) (hostId : JsString) (db : AuditedRegistry) : ℕ :=
  (db.audit.rows.filter fun row => row.kind = kind && row.hostId = some hostId).length

/-- Requests that are about to write a row of a kind for a host. -/
def AuditedCall.logging (kind : AuditKind) (hostId : JsString) : AuditedCall → ℕ
  | .register _ (.audit host _) => if kind = .hostRegistered ∧ host.id = hostId then 1 else 0
  | .revoke _ (.audit host) => if kind = .hostRevoked ∧ host.id = hostId then 1 else 0
  | _ => 0

/-- How many rows of a kind the log has for a host, with those that are about to be written. -/
def AuditedRequests.accounted (kind : AuditKind) (hostId : JsString) (s : AuditedRequests) : ℕ :=
  logged kind hostId s.shared + s.total (AuditedCall.logging kind hostId)

/-- The log is complete. A host has exactly one row for its registration, and one that is revoked has exactly
one for its revocation, where a row counts that a request is just about to write; there are no other rows of
these kinds. A request that has thrown has left neither a host nor a revocation. -/
structure AuditComplete (s : AuditedRequests) : Prop where
  registered : ∀ host ∈ s.shared.registry.hosts.rows, s.accounted .hostRegistered host.id = 1
  revoked : ∀ host ∈ s.shared.registry.hosts.rows, host.revokedAt.isSome = true →
    s.accounted .hostRevoked host.id = 1
  noOtherRegistered : ∀ hostId, (∀ host ∈ s.shared.registry.hosts.rows, host.id ≠ hostId) →
    logged .hostRegistered hostId s.shared = 0
  noOtherRevoked : ∀ hostId, (∀ host ∈ s.shared.registry.hosts.rows, host.id = hostId → host.revokedAt = none) →
    logged .hostRevoked hostId s.shared = 0
  notInserted : ∀ args host, .register args (.thrown (some host)) ∈ s.calls →
    ∀ row ∈ s.shared.registry.hosts.rows, row.id ≠ host.id
  notRevoked : ∀ args host, .revoke args (.thrown (some host)) ∈ s.calls →
    ∀ row ∈ s.shared.registry.hosts.rows, row.id = host.id → row.revokedAt = none

/-- The statement of a call does not fail if it is to write the log: neither by itself, nor because the id of the
row is taken. -/
def AuditedCall.Logs (st : Statement) (db : AuditedRegistry) : AuditedCall → Prop
  | .register args (.audit host _) =>
    st.fails = false ∧ db.audit.insert (hostEvent .hostRegistered st.draw args.orgId host.id) ≠ none
  | .revoke args (.audit host) =>
    st.fails = false ∧ db.audit.insert (hostEvent .hostRevoked st.draw args.orgId host.id) ≠ none
  | _ => True

/-- An event is no statement that is to write the log and fails. -/
def logs (s : AuditedRequests) : AuditedEvent → Prop
  | .step i st => ∀ call, s.calls[i]? = some call → call.Logs st s.shared
  | _ => True

/-! ## Effects and their rows -/

variable {env : RegistryEnv} {db db' : AuditedRegistry} {kind : AuditKind} {hostId : JsString}

/-- A host that has what a kind of event says. -/
def HostRecord.has (kind : AuditKind) (row : HostRecord) : Bool :=
  match kind with
  | .hostRegistered => true
  | .hostRevoked => row.revokedAt.isSome
  | _ => false

/-- How many hosts by an id have what a kind of event says. -/
def effects (kind : AuditKind) (hostId : JsString) (db : AuditedRegistry) : ℕ :=
  (db.registry.hosts.rows.filter fun row => row.id = hostId && row.has kind).length

/-- There are as many rows as effects, with the rows that are about to be written. -/
def Balanced (s : AuditedRequests) : Prop :=
  ∀ kind hostId, s.accounted kind hostId = effects kind hostId s.shared

lemma logged_append_hostEvent {draw : Draw} {orgId id : JsString} {kind' : AuditKind}
    (h : appendAuditEvent (hostEvent kind' draw orgId id) db = some db') :
    logged kind hostId db' = logged kind hostId db + if kind' = kind ∧ id = hostId then 1 else 0 := by
  unfold appendAuditEvent at h
  split at h
  · simp at h
  · rename_i audit hinsert
    obtain rfl := Option.some.inj h
    simp only [logged, Table.rows_insert hinsert, List.filter_append, List.length_append]
    by_cases hsame : kind' = kind ∧ id = hostId
    · simp [hostEvent, hsame]
    · rw [not_and_or] at hsame
      rcases hsame with hkind | hid
      · simp [hostEvent, hkind]
      · simp [hostEvent, hid]

variable (kind hostId) in
lemma effects_insert {draw : Draw} {args : RegisterArgs} {hosts : Table hostColumns}
    (hinsert : db.registry.hosts.insert (newHost env draw args) = some hosts) :
    effects kind hostId { db with registry.hosts := hosts } = effects kind hostId db +
      if kind = .hostRegistered ∧ (newHost env draw args).id = hostId then 1 else 0 := by
  have hnone : (newHost env draw args).revokedAt = none := rfl
  simp only [effects, Table.rows_insert hinsert, List.filter_append, List.length_append]
  generalize newHost env draw args = host at hnone
  by_cases hid : host.id = hostId
  · cases kind <;> simp [HostRecord.has, hid, hnone]
  · simp [hid]

variable (kind hostId) in
lemma length_filter_revoke (rows : List HostRecord) (host : HostRecord) (now : ℕ) :
    ((rows.map fun row => if revocable host row then row.revoke now else row).filter fun row =>
        row.id = hostId && row.has kind).length =
      (rows.filter fun row => row.id = hostId && row.has kind).length +
        if kind = .hostRevoked ∧ host.id = hostId then (rows.filter (revocable host)).length else 0 := by
  induction rows with
  | nil => simp
  | cons row rows ih =>
    rw [List.map_cons, List.filter_cons, List.filter_cons, List.filter_cons]
    by_cases hrow : revocable host row = true
    · have hfacts := hrow
      simp only [revocable, Bool.and_eq_true, decide_eq_true_eq, Option.isNone_iff_eq_none] at hfacts
      obtain ⟨hid, hnone⟩ := hfacts
      by_cases hsame : host.id = hostId
      · cases kind <;> simp [hrow, hid, hnone, hsame, HostRecord.revoke, HostRecord.has] at ih ⊢ <;> omega
      · simp [hrow, hid, hsame, HostRecord.revoke] at ih ⊢
        exact ih
    · rw [if_neg hrow, if_neg hrow]
      split
      · rw [List.length_cons, List.length_cons, ih]
        omega
      · exact ih

variable (kind hostId) in
lemma effects_revoke (db : AuditedRegistry) (host : HostRecord) (now : ℕ) :
    effects kind hostId { db with
      registry.hosts := db.registry.hosts.update (revocable host) (HostRecord.revoke now) (hostColumns_revoke now) } =
      effects kind hostId db +
        if db.registry.hosts.rows.any (revocable host) ∧ kind = .hostRevoked ∧ host.id = hostId then 1 else 0 := by
  have hlength := length_filter_revoke kind hostId db.registry.hosts.rows host now
  have hone : (db.registry.hosts.rows.filter (revocable host)).length =
      if db.registry.hosts.rows.any (revocable host) then 1 else 0 := by
    have hle : (db.registry.hosts.rows.filter (revocable host)).length ≤ 1 := by
      apply Table.length_filter_le_one (c := HostRecord.id) (k := host.id) List.mem_cons_self
      intro row hrow
      simp only [revocable, Bool.and_eq_true, decide_eq_true_eq] at hrow
      exact hrow.1
    split
    · rename_i hany
      obtain ⟨row, hrow, hrevocable⟩ := List.any_eq_true.1 hany
      have hpos := List.length_pos_of_mem (List.mem_filter.2 ⟨hrow, hrevocable⟩)
      omega
    · rename_i hany
      rw [List.length_eq_zero_iff, List.filter_eq_nil_iff]
      intro row hrow hrevocable
      exact hany (List.any_eq_true.2 ⟨row, hrow, hrevocable⟩)
  rw [hone] at hlength
  rw [effects, effects]
  refine hlength.trans ?_
  congr 1
  by_cases hany : db.registry.hosts.rows.any (revocable host) = true
  · simp [hany]
  · simp [hany]

/-! ## A statement -/

/-- A call that has thrown and left something. -/
def AuditedCall.Leaves : AuditedCall → Prop
  | .register _ (.thrown (some _)) => True
  | .revoke _ (.thrown (some _)) => True
  | _ => False

/-- A step of a call changes the rows, with those about to be written, by as much as the effects. -/
structure Balances (db db' : AuditedRegistry) (c c' : AuditedCall) : Prop where
  balance : ∀ kind hostId, logged kind hostId db' + c'.logging kind hostId + effects kind hostId db =
    logged kind hostId db + c.logging kind hostId + effects kind hostId db'
  leaves : c'.Leaves → c.Leaves

lemma Balances.of_same {c c' : AuditedCall} (hlogging : ∀ kind hostId, c'.logging kind hostId = c.logging kind hostId)
    (hleaves : c'.Leaves → c.Leaves) : Balances db db c c' := by
  refine ⟨?_, hleaves⟩
  intro kind hostId
  rw [hlogging]

lemma exists_appendAuditEvent {row : AuditEventRow} (h : db.audit.insert row ≠ none) :
    ∃ db', appendAuditEvent row db = some db' := by
  unfold appendAuditEvent
  cases hinsert : db.audit.insert row with
  | none => exact absurd hinsert h
  | some audit => exact ⟨_, rfl⟩

lemma effects_of_registry (h : db'.registry = db.registry) : effects kind hostId db' = effects kind hostId db := by
  rw [effects, effects, h]

lemma balances_register {st : Statement} {args : RegisterArgs} {stage : AuditedRegisterStage}
    (hlogs : (AuditedCall.register args stage).Logs st db) :
    Balances db (db.registerHost env st args stage).1 (.register args stage)
      (.register args (db.registerHost env st args stage).2) := by
  cases stage with
  | check =>
    simp only [AuditedRegistry.registerHost]
    split
    · exact .of_same (fun _ _ => rfl) id
    · split
      · exact .of_same (fun _ _ => rfl) id
      · split <;> exact .of_same (fun _ _ => rfl) id
  | insert =>
    simp only [AuditedRegistry.registerHost]
    split
    · exact .of_same (fun _ _ => rfl) id
    · cases hinsert : db.registry.hosts.insert (newHost env st.draw args) with
      | none => exact .of_same (fun _ _ => rfl) id
      | some hosts =>
        refine ⟨?_, id⟩
        intro kind hostId
        have heffects := effects_insert kind hostId hinsert
        simp only [AuditedCall.logging]
        rw [heffects]
        show logged kind hostId db + _ + _ = _
        omega
  | audit host hostKey =>
    obtain ⟨hst, hinsert⟩ := hlogs
    obtain ⟨db', happend⟩ := exists_appendAuditEvent hinsert
    simp only [AuditedRegistry.registerHost, hst, happend, Bool.false_eq_true, if_false]
    refine ⟨?_, id⟩
    intro kind hostId
    rw [logged_append_hostEvent happend, effects_of_registry (registry_appendAuditEvent happend)]
    simp only [AuditedCall.logging, eq_comm (a := kind)]
    omega
  | refused => exact .of_same (fun _ _ => rfl) id
  | thrown host => exact .of_same (fun _ _ => rfl) id
  | registered host hostKey => exact .of_same (fun _ _ => rfl) id

lemma balances_revoke {st : Statement} {args : RevokeArgs} {stage : AuditedRevokeStage}
    (hlogs : (AuditedCall.revoke args stage).Logs st db) :
    Balances db (db.revokeHost st args stage).1 (.revoke args stage)
      (.revoke args (db.revokeHost st args stage).2) := by
  cases stage with
  | check =>
    simp only [AuditedRegistry.revokeHost]
    split
    · exact .of_same (fun _ _ => rfl) id
    · split
      · exact .of_same (fun _ _ => rfl) id
      · split <;> exact .of_same (fun _ _ => rfl) id
  | update host =>
    simp only [AuditedRegistry.revokeHost]
    split
    · exact .of_same (fun _ _ => rfl) id
    · constructor
      · intro kind hostId
        have heffects := effects_revoke kind hostId db host st.draw.now
        rw [heffects]
        show logged kind hostId db + _ + _ = _
        by_cases hany : db.registry.hosts.rows.any (revocable host) = true
        · simp only [hany, if_true, true_and, AuditedCall.logging]
          omega
        · simp only [hany, if_false, false_and, AuditedCall.logging, Bool.false_eq_true]
          omega
      · split <;> exact id
  | audit host =>
    obtain ⟨hst, hinsert⟩ := hlogs
    obtain ⟨db', happend⟩ := exists_appendAuditEvent hinsert
    simp only [AuditedRegistry.revokeHost, hst, happend, Bool.false_eq_true, if_false]
    refine ⟨?_, id⟩
    intro kind hostId
    rw [logged_append_hostEvent happend, effects_of_registry (registry_appendAuditEvent happend)]
    simp only [AuditedCall.logging, eq_comm (a := kind)]
    omega
  | refused => exact .of_same (fun _ _ => rfl) id
  | thrown host => exact .of_same (fun _ _ => rfl) id
  | ok => exact .of_same (fun _ _ => rfl) id

variable (env) in
lemma balances_step {st : Statement} {c : AuditedCall} (hlogs : c.Logs st db) :
    Balances db (c.step env st db).1 c (c.step env st db).2 := by
  cases c with
  | register args stage => exact balances_register hlogs
  | revoke args stage => exact balances_revoke hlogs

lemma leaves_of_not_logs {st : Statement} {c : AuditedCall} (h : ¬ c.Logs st db) :
    (∃ args host hostKey, c = .register args (.audit host hostKey) ∧
      c.step env st db = (db, .register args (.thrown (some host)))) ∨
    ∃ args host, c = .revoke args (.audit host) ∧
      c.step env st db = (db, .revoke args (.thrown (some host))) := by
  unfold AuditedCall.Logs at h
  split at h
  · rename_i args host hostKey
    left
    refine ⟨args, host, hostKey, rfl, ?_⟩
    simp only [AuditedCall.step, AuditedRegistry.registerHost, appendAuditEvent]
    cases hst : st.fails with
    | true => rfl
    | false =>
      have hnone : db.audit.insert (hostEvent .hostRegistered st.draw args.orgId host.id) = none := by
        by_contra hsome
        exact h ⟨hst, hsome⟩
      simp [hnone]
  · rename_i args host
    right
    refine ⟨args, host, rfl, ?_⟩
    simp only [AuditedCall.step, AuditedRegistry.revokeHost, appendAuditEvent]
    cases hst : st.fails with
    | true => rfl
    | false =>
      have hnone : db.audit.insert (hostEvent .hostRevoked st.draw args.orgId host.id) = none := by
        by_contra hsome
        exact h ⟨hst, hsome⟩
      simp [hnone]
  · exact absurd trivial h

/-! ## Every run -/

/-- What holds in a run whose writes of the log do not fail. -/
structure AuditBalanced (s : AuditedRequests) : Prop where
  balanced : Balanced s
  nothingLeft : ∀ c ∈ s.calls, ¬ c.Leaves

lemma AuditBalanced.start {s : AuditedRequests} (h : AuditBalanced s) {c : AuditedCall}
    (hlogging : ∀ kind hostId, c.logging kind hostId = 0) (hleaves : ¬ c.Leaves) : AuditBalanced (s.start c) := by
  refine ⟨?_, Concurrent.forall_start h.nothingLeft hleaves⟩
  intro kind hostId
  rw [AuditedRequests.accounted, Concurrent.total_start, hlogging]
  exact h.balanced kind hostId

lemma AuditBalanced.react {s : AuditedRequests} (h : AuditBalanced s) {e : AuditedEvent} (he : logs s e) :
    AuditBalanced (s.react env e) := by
  cases e with
  | register args => exact h.start (fun _ _ => rfl) id
  | revoke args => exact h.start (fun _ _ => rfl) id
  | step i st =>
    apply Concurrent.advance_induction h
    intro call hcall
    obtain ⟨hbalance, hleaves⟩ := balances_step env (he call hcall)
    refine ⟨?_, Concurrent.forall_set h.nothingLeft ?_⟩
    · intro kind hostId
      have htotal := Concurrent.total_set hcall (AuditedCall.logging kind hostId)
        (call.step env st s.shared).1 (call.step env st s.shared).2
      have hbefore := h.balanced kind hostId
      have hstep := hbalance kind hostId
      rw [AuditedRequests.accounted] at hbefore ⊢
      dsimp only
      omega
    · intro hleft
      exact h.nothingLeft call (List.mem_of_getElem? hcall) (hleaves hleft)

lemma auditBalanced_run {now : ℕ} {es : List AuditedEvent} (hes : (auditedMachine env now).Meets logs es) :
    AuditBalanced ((auditedMachine env now).run es) := by
  refine (auditedMachine env now).invariant_of_meets ?_ (fun s e he hs => hs.react he) hes
  exact ⟨fun kind hostId => rfl, fun c hc => by simp [auditedMachine] at hc⟩

lemma effects_of_mem {host : HostRecord} (hmem : host ∈ db.registry.hosts.rows) (hhas : host.has kind = true) :
    effects kind host.id db = 1 := by
  have hle : effects kind host.id db ≤ 1 := by
    apply Table.length_filter_le_one (c := HostRecord.id) (k := host.id) List.mem_cons_self
    intro row hrow
    simp only [Bool.and_eq_true, decide_eq_true_eq] at hrow
    exact hrow.1
  have hpos : 0 < effects kind host.id db :=
    List.length_pos_of_mem (List.mem_filter.2 ⟨hmem, by simp [hhas]⟩)
  omega

lemma effects_eq_zero (h : ∀ host ∈ db.registry.hosts.rows, host.id = hostId → host.has kind = false) :
    effects kind hostId db = 0 := by
  rw [effects, List.length_eq_zero_iff, List.filter_eq_nil_iff]
  intro row hrow hsame
  simp only [Bool.and_eq_true, decide_eq_true_eq] at hsame
  rw [h row hrow hsame.1] at hsame
  simp at hsame

lemma AuditBalanced.complete {s : AuditedRequests} (h : AuditBalanced s) : AuditComplete s where
  registered host hmem := (h.balanced .hostRegistered host.id).trans (effects_of_mem hmem rfl)
  revoked host hmem hrevoked := (h.balanced .hostRevoked host.id).trans (effects_of_mem hmem hrevoked)
  noOtherRegistered hostId hnone := by
    have hbalanced := h.balanced .hostRegistered hostId
    have hzero : effects .hostRegistered hostId s.shared = 0 :=
      effects_eq_zero fun host hmem hid => absurd hid (hnone host hmem)
    rw [AuditedRequests.accounted] at hbalanced
    omega
  noOtherRevoked hostId hnone := by
    have hbalanced := h.balanced .hostRevoked hostId
    have hzero : effects .hostRevoked hostId s.shared = 0 :=
      effects_eq_zero fun host hmem hid => by simp [HostRecord.has, hnone host hmem hid]
    rw [AuditedRequests.accounted] at hbalanced
    omega
  notInserted args host hcall := absurd trivial (h.nothingLeft _ hcall)
  notRevoked args host hcall := absurd trivial (h.nothingLeft _ hcall)

variable (kind hostId) in
lemma AuditBalanced.exists_effect {s : AuditedRequests} (h : AuditBalanced s) {i : ℕ} {c : AuditedCall}
    (hc : s.calls[i]? = some c) (hlogging : c.logging kind hostId = 1) :
    ∃ host ∈ s.shared.registry.hosts.rows, host.id = hostId ∧ host.has kind = true := by
  have hle := Concurrent.weight_le_total hc (AuditedCall.logging kind hostId)
  have hbalanced := h.balanced kind hostId
  rw [AuditedRequests.accounted] at hbalanced
  have hpos : 0 < effects kind hostId s.shared := by omega
  obtain ⟨host, hhost⟩ := List.exists_mem_of_length_pos hpos
  obtain ⟨hmem, hsame⟩ := List.mem_filter.1 hhost
  simp only [Bool.and_eq_true, decide_eq_true_eq] at hsame
  exact ⟨host, hmem, hsame⟩

lemma logs_of_complete {s : AuditedRequests} (h : AuditBalanced s) {e : AuditedEvent}
    (hcomplete : AuditComplete (s.react env e)) : logs s e := by
  cases e with
  | register args => trivial
  | revoke args => trivial
  | step i st =>
    intro call hcall
    by_contra hfails
    have hreact : s.react env (.step i st) =
        ⟨(call.step env st s.shared).1, s.calls.set i (call.step env st s.shared).2⟩ :=
      Concurrent.advance_of_some hcall _
    rw [hreact] at hcomplete
    -- what the call has done is still there, and it has thrown
    rcases leaves_of_not_logs hfails with ⟨args, host, hostKey, rfl, hstep⟩ | ⟨args, host, rfl, hstep⟩
    · rw [hstep] at hcomplete
      obtain ⟨row, hrow, hid, -⟩ := h.exists_effect .hostRegistered host.id hcall
        (by simp [AuditedCall.logging])
      exact hcomplete.notInserted args host (Concurrent.mem_set_self hcall) row hrow hid
    · rw [hstep] at hcomplete
      obtain ⟨row, hrow, hid, hrevoked⟩ := h.exists_effect .hostRevoked host.id hcall
        (by simp [AuditedCall.logging])
      have hnone := hcomplete.notRevoked args host (Concurrent.mem_set_self hcall) row hrow hid
      rw [HostRecord.has, hnone] at hrevoked
      simp at hrevoked

/-- The log is complete throughout a run exactly when no write of the log fails in it. -/
theorem complete_iff_logs (env : RegistryEnv) (now : ℕ) (es : List AuditedEvent) :
    (∀ pre post, es = pre ++ post → AuditComplete ((auditedMachine env now).run pre)) ↔
      (auditedMachine env now).Meets logs es := by
  constructor
  · intro h
    induction es using List.reverseRecOn with
    | nil => exact Machine.meets_nil _ _
    | append_singleton es e ih =>
      have hes : (auditedMachine env now).Meets logs es :=
        ih fun pre post hsplit => h pre (post ++ [e]) (by rw [hsplit, List.append_assoc])
      have hbehind := h (es ++ [e]) [] (by simp)
      rw [Machine.run_snoc] at hbehind
      exact (Machine.meets_snoc _).2 ⟨hes, logs_of_complete (auditBalanced_run hes) hbehind⟩
  · rintro h pre post rfl
    exact (auditBalanced_run ( Machine.Meets.prefix _ h)).complete

/-- A registration whose audit row cannot be written. -/
def unloggedHost : List AuditedEvent :=
  [ .register ⟨js "org_1", js "usr_1", js "mac", js "AAAAAAAAAAAAAAAAAAAAAAAAAAAAAAAAAAAAAAAAAAA="⟩,
    .step 0 (.ok "" ""), .step 0 (.ok "host_1" "01"), .step 0 { Statement.ok "aud_1" "" with fails := true } ]

/-- The request throws, and the host stays without a row. -/
theorem not_complete_unloggedHost :
    ¬ AuditComplete ((auditedMachine plainRegistryEnv 0).run unloggedHost) := by
  intro h
  have hhost : newHost plainRegistryEnv (drawn 2000 "host_1" "01")
      ⟨js "org_1", js "usr_1", js "mac", js "AAAAAAAAAAAAAAAAAAAAAAAAAAAAAAAAAAAAAAAAAAA="⟩ ∈
      ((auditedMachine plainRegistryEnv 0).run unloggedHost).shared.registry.hosts.rows := by decide
  have hone := h.registered _ hhost
  revert hone
  decide

end Pherry.ControlPlane
