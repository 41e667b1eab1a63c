import Pherry.ControlPlane.Revocation

/-!
# A relay ticket is used once

Every resolution of a ticket is paid for by one issue of it, over all cells and replicas.
-/

namespace Pherry.ControlPlane

open Lib Protocol RelayCore

variable {env : RegistryEnv} {draw : Draw} {r : Registry}

/-! ## What leaves the tickets alone -/

lemma redis_registerHost (args : RegisterArgs) (stage : RegisterStage) :
    (registerHost env draw args r stage).1.redis = r.redis := by
  cases stage with
  | check =>
    rw [registerHost]
    split
    · rfl
    · split <;> rfl
  | insert =>
    rw [registerHost]
    split <;> rfl
  | refused => rfl
  | failed => rfl
  | registered host hostKey => rfl

lemma redis_revokeHost (args : RevokeArgs) (stage : RevokeStage) :
    (revokeHost draw args r stage).1.redis = r.redis := by
  cases stage with
  | check =>
    rw [revokeHost]
    split <;> rfl
  | update host => rfl
  | refused => rfl
  | ok => rfl

lemma redis_mintPairToken (args : PairArgs) (stage : PairStage) :
    (mintPairToken env draw args r stage).1.redis = r.redis := by
  cases stage with
  | check =>
    rw [mintPairToken]
    split <;> rfl
  | insert host now =>
    rw [mintPairToken]
    split <;> rfl
  | refused => rfl
  | failed => rfl
  | minted host pairToken expiresAt => rfl

lemma redis_redeemPairToken (args : RedeemArgs) (stage : RedeemStage) :
    (redeemPairToken env draw args r stage).1.redis = r.redis := by
  cases stage with
  | claim =>
    rw [redeemPairToken]
    split <;> rfl
  | insert token =>
    rw [redeemPairToken]
    split <;> rfl
  | stamp token device deviceToken => rfl
  | load token device deviceToken =>
    rw [redeemPairToken]
    split <;> rfl
  | refused => rfl
  | failed token => rfl
  | redeemed token device result => rfl

/-! ## Weights -/

section
variable (env) (key : JsString) (p : TicketValue → Bool)

/-- A ticket under the key, of a record with the property. -/
def weight (k : JsString) (record : TicketValue) : ℕ := if k = key ∧ p record = true then 1 else 0

/-- The ticket in the store. -/
def storedAs (r : Registry) : ℕ :=
  match r.redis.live key with
  | none => 0
  | some e => weight key p key e.value

/-- Issues that have returned the ticket. -/
def issuedAs : RegistryCall → ℕ
  | .issue args (.issued host result) =>
    weight key p (ticketKey env result.ticket) (args.value host result.expiresAt)
  | _ => 0

/-- Resolutions that have taken the ticket, and have not refused it. -/
def takenAs : RegistryCall → ℕ
  | .resolve args (.load record) => weight key p (ticketKey env args.ticket) record
  | .resolve args (.resolved record _) => weight key p (ticketKey env args.ticket) record
  | .resolve args (.bridged record _) => weight key p (ticketKey env args.ticket) record
  | .resolve args (.turnedAway record _) => weight key p (ticketKey env args.ticket) record
  | _ => 0

/-- Resolutions of the ticket that were successful, whatever the cell made of them. -/
def resolvedAs : RegistryCall → ℕ
  | .resolve args (.resolved record _) => weight key p (ticketKey env args.ticket) record
  | .resolve args (.bridged record _) => weight key p (ticketKey env args.ticket) record
  | .resolve args (.turnedAway record _) => weight key p (ticketKey env args.ticket) record
  | _ => 0

end

variable {key : JsString} {p : TicketValue → Bool}

lemma resolvedAs_le_takenAs (c : RegistryCall) : resolvedAs env key p c ≤ takenAs env key p c := by
  cases c with
  | resolve args stage => cases stage <;> first | exact Nat.le_refl _ | exact Nat.zero_le _
  | _ => exact Nat.le_refl _

lemma storedAs_congr {r' : Registry} (h : r'.redis.live key = r.redis.live key) :
    storedAs key p r' = storedAs key p r := by
  rw [storedAs, storedAs, h]

lemma weighs_mint (args : IssueArgs) (host : HostRecord) (expiresAt attempt : ℕ) :
    storedAs key p ((RegistryCall.issue args (.mint host expiresAt attempt)).step env draw r).1 ≤
      storedAs key p r +
        issuedAs env key p
          ((RegistryCall.issue args (.mint host expiresAt attempt)).step env draw r).2 := by
  rw [RegistryCall.step, issueTicket]
  cases hlive : r.redis.live (ticketKey env (mintSecret (js "tkt") draw.secret)) with
  | some e =>
    rw [KeyStore.setNx_of_live hlive]
    exact Nat.le_add_right _ _
  | none =>
    rw [KeyStore.setNx_of_absent hlive]
    dsimp only
    rw [if_pos rfl, issuedAs]
    by_cases hkey : ticketKey env (mintSecret (js "tkt") draw.secret) = key
    · subst hkey
      rw [storedAs, KeyStore.set, KeyStore.live_put_self]
      split
      · exact Nat.zero_le _
      · next e he =>
        split at he
        · cases he
          exact Nat.le_add_left _ _
        · cases he
    · refine Nat.le_add_right_of_le (Nat.le_of_eq (storedAs_congr ?_))
      exact KeyStore.live_put_ne (Ne.symm hkey) _

lemma weighs_take (args : ResolveArgs) :
    storedAs key p ((RegistryCall.resolve args .take).step env draw r).1 +
        takenAs env key p ((RegistryCall.resolve args .take).step env draw r).2 ≤
      storedAs key p r := by
  rw [RegistryCall.step, consumeTicket]
  cases hlive : r.redis.live (ticketKey env args.ticket) with
  | none =>
    rw [KeyStore.getdel_of_absent hlive]
    exact Nat.le_refl _
  | some e =>
    rw [KeyStore.getdel_of_live hlive]
    dsimp only
    have htaken : takenAs env key p (.resolve args
        (if e.value.expiresAt ≤ args.now then .refused else .load e.value)) ≤
          weight key p (ticketKey env args.ticket) e.value := by
      split
      · exact Nat.zero_le _
      · exact Nat.le_refl _
    by_cases hkey : ticketKey env args.ticket = key
    · subst hkey
      rw [storedAs, storedAs, KeyStore.live_del_self, hlive]
      dsimp only
      omega
    · have hzero : weight key p (ticketKey env args.ticket) e.value = 0 :=
        if_neg fun h => hkey h.1
      have hstored : storedAs key p { r with redis := r.redis.del (ticketKey env args.ticket) } =
          storedAs key p r := storedAs_congr (KeyStore.live_del_ne (Ne.symm hkey))
      omega

lemma weighs_step (c : RegistryCall) :
    storedAs key p (c.step env draw r).1 + takenAs env key p (c.step env draw r).2 +
        issuedAs env key p c ≤
      storedAs key p r + takenAs env key p c + issuedAs env key p (c.step env draw r).2 := by
  cases c with
  | register args stage =>
    exact Nat.le_of_eq (congrArg (fun redis => storedAs key p { r with redis })
      (redis_registerHost args stage))
  | revoke args stage =>
    exact Nat.le_of_eq (congrArg (fun redis => storedAs key p { r with redis })
      (redis_revokeHost args stage))
  | authenticate header stage => exact Nat.le_refl _
  | pair args stage =>
    exact Nat.le_of_eq (congrArg (fun redis => storedAs key p { r with redis })
      (redis_mintPairToken args stage))
  | redeem args stage =>
    exact Nat.le_of_eq (congrArg (fun redis => storedAs key p { r with redis })
      (redis_redeemPairToken args stage))
  | status args stage => exact Nat.le_refl _
  | enroll args stage => exact Nat.le_refl _
  | issue args stage =>
    cases stage with
    | check =>
      rw [RegistryCall.step, issueTicket]
      split
      · exact Nat.le_refl _
      · exact Nat.le_add_right _ _
    | mint host expiresAt attempt => exact weighs_mint args host expiresAt attempt
    | refused => exact Nat.le_refl _
    | failed => exact Nat.le_refl _
    | issued host result => exact Nat.le_refl _
  | resolve args stage =>
    cases stage with
    | take => exact weighs_take args
    | load record =>
      rw [RegistryCall.step, consumeTicket]
      split
      · exact Nat.le_add_right _ _
      · dsimp only
        split
        · exact Nat.le_add_right _ _
        · exact Nat.le_refl _
    | resolved record consumed =>
      rw [RegistryCall.step, consumeTicket]
      split <;> exact Nat.le_refl _
    | refused => exact Nat.le_refl _
    | bridged record consumed => exact Nat.le_refl _
    | turnedAway record code => exact Nat.le_refl _

/-! ## What a request says of its ticket -/

/-- An issue is for the host it names; a resolution answers with the host, the org and the expiry of
the record it has taken, and the record was not past its expiry when it began. -/
def RegistryCall.faithful : RegistryCall → Prop
  | .issue args (.mint host _ _) => host.id = args.hostId
  | .issue args (.issued host _) => host.id = args.hostId
  | .resolve args (.load record) => args.now < record.expiresAt
  | .resolve args (.resolved record consumed) =>
    args.now < record.expiresAt ∧ consumed.hostId = record.hostId ∧ consumed.orgId = record.orgId ∧
      consumed.expiresAt = record.expiresAt
  | .resolve args (.bridged record consumed) =>
    args.now < record.expiresAt ∧ consumed.hostId = record.hostId ∧ consumed.orgId = record.orgId ∧
      consumed.expiresAt = record.expiresAt
  | _ => True

lemma faithful_call (request : RegistryRequest) : request.call.faithful := by
  cases request <;> trivial

lemma faithful_issue {args : IssueArgs} {stage : IssueStage}
    (h : (RegistryCall.issue args stage).faithful) :
    ((RegistryCall.issue args stage).step env draw r).2.faithful := by
  cases stage with
  | check =>
    rw [RegistryCall.step, issueTicket]
    split
    · trivial
    · next host hget =>
      dsimp only
      split
      · trivial
      · exact ((Table.get_eq_some id_mem_hostColumns).1 hget).2
  | mint host expiresAt attempt =>
    rw [RegistryCall.step, issueTicket]
    dsimp only
    split
    · exact h
    · split
      · exact h
      · trivial
  | refused => trivial
  | failed => trivial
  | issued host result => exact h

lemma faithful_resolve {args : ResolveArgs} {stage : ResolveStage}
    (h : (RegistryCall.resolve args stage).faithful) :
    ((RegistryCall.resolve args stage).step env draw r).2.faithful := by
  cases stage with
  | take =>
    rw [RegistryCall.step, consumeTicket]
    dsimp only
    split
    · trivial
    · split
      · trivial
      · next hlive => exact Nat.lt_of_not_le hlive
  | load record =>
    rw [RegistryCall.step, consumeTicket]
    split
    · trivial
    · next host hload =>
      obtain ⟨hget, -⟩ := loadActiveHost_eq_some hload
      dsimp only
      split
      · trivial
      · exact ⟨h, ((Table.get_eq_some id_mem_hostColumns).1 hget).2, rfl, rfl⟩
  | resolved record consumed =>
    rw [RegistryCall.step, consumeTicket]
    split
    · trivial
    · exact h
  | refused => trivial
  | bridged record consumed => exact h
  | turnedAway record code => trivial

lemma faithful_step {c : RegistryCall} (h : c.faithful) : (c.step env draw r).2.faithful := by
  cases c with
  | issue args stage => exact faithful_issue h
  | resolve args stage => exact faithful_resolve h
  | _ => trivial

/-! ## Runs -/

namespace Requests

variable {s : Requests}

/-- All that is known of the tickets. -/
structure Ticketed (env : RegistryEnv) (s : Requests) : Prop where
  paid : ∀ key p, storedAs key p s.shared + s.total (takenAs env key p) ≤ s.total (issuedAs env key p)
  faithful : ∀ c ∈ s.calls, c.faithful

lemma Ticketed.react (h : s.Ticketed env) (e : RegistryEvent) : Ticketed env (s.react env e) := by
  cases e with
  | advance ms =>
    refine ⟨fun key p => ?_, h.faithful⟩
    refine le_trans (Nat.add_le_add_right ?_ _) (h.paid key p)
    rw [storedAs]
    split
    · exact Nat.zero_le _
    · next e hlive =>
      have hbefore : s.shared.redis.live key = some e := KeyStore.live_of_advance hlive
      rw [storedAs, hbefore]
  | request request =>
    refine ⟨fun key p => ?_, Concurrent.forall_start h.faithful (faithful_call request)⟩
    show storedAs key p s.shared + (s.start _).total _ ≤ (s.start _).total _
    have htaken : takenAs env key p request.call = 0 := by cases request <;> rfl
    rw [Concurrent.total_start, Concurrent.total_start, htaken]
    exact le_trans (h.paid key p) (Nat.le_add_right _ _)
  | step i draw =>
    refine Concurrent.advance_induction (p := fun t : Requests => t.Ticketed env) h fun c hc => ?_
    refine ⟨fun key p => ?_, ?_⟩
    · have hstep : storedAs key p (c.step env draw s.shared).1 +
          takenAs env key p (c.step env draw s.shared).2 + issuedAs env key p c ≤
            storedAs key p s.shared + takenAs env key p c +
              issuedAs env key p (c.step env draw s.shared).2 := weighs_step c
      have htaken := Concurrent.total_set hc (takenAs env key p) (c.step env draw s.shared).1
        (c.step env draw s.shared).2
      have hissued := Concurrent.total_set hc (issuedAs env key p) (c.step env draw s.shared).1
        (c.step env draw s.shared).2
      have hpaid := h.paid key p
      dsimp only
      omega
    · exact Concurrent.forall_set h.faithful (faithful_step (h.faithful c (List.mem_of_getElem? hc)))

lemma ticketed_run (now : ℕ) (es : List RegistryEvent) :
    Ticketed env ((registryMachine env now).run es) := by
  refine (registryMachine env now).invariant (p := fun s : Requests => s.Ticketed env)
    ⟨fun key p => Nat.le_refl _, nofun⟩ (fun _ e h => h.react e) es

/-! ## The law of the tickets -/

/-- What is kept of the tickets at every moment, and what the next step does to them. -/
structure TicketLaw (env : RegistryEnv) (s : Requests) : Prop where
  once : ∀ key p, s.total (resolvedAs env key p) ≤ s.total (issuedAs env key p)
  route : ∀ args record consumed,
    (.resolve args (.resolved record consumed) ∈ s.calls ∨
      .resolve args (.bridged record consumed) ∈ s.calls) →
    args.now < consumed.expiresAt ∧ ∃ issueArgs host result,
      .issue issueArgs (.issued host result) ∈ s.calls ∧
        ticketKey env result.ticket = ticketKey env args.ticket ∧
        result.expiresAt = consumed.expiresAt ∧ issueArgs.hostId = consumed.hostId ∧
        issueArgs.orgId = consumed.orgId
  bridged : ∀ i draw args record consumed,
    s.calls[i]? = some (.resolve args (.resolved record consumed)) →
      (s.react env (.step i draw)).calls[i]? = some (.resolve args (.bridged record consumed)) →
        draw.now < consumed.expiresAt ∧ args.ticket ∉ s.shared.usedTickets args.cell
  stored : ∀ i draw args stage host result, s.calls[i]? = some (.issue args stage) →
    stage ≠ .issued host result →
      (s.react env (.step i draw)).calls[i]? = some (.issue args (.issued host result)) →
        (s.react env (.step i draw)).shared.redis.entries (ticketKey env result.ticket) =
          some ⟨args.value host result.expiresAt, some (s.shared.redis.now + env.relayTicketTtlMs)⟩
  kept : ∀ i draw args stage key e, s.calls[i]? = some (.issue args stage) →
    s.shared.redis.live key = some e → (s.react env (.step i draw)).shared.redis.live key = some e

lemma Ticketed.once (h : s.Ticketed env) (key : JsString) (p : TicketValue → Bool) :
    s.total (resolvedAs env key p) ≤ s.total (issuedAs env key p) := by
  have hle : s.total (resolvedAs env key p) ≤ s.total (takenAs env key p) :=
    List.sum_le_sum fun c _ => resolvedAs_le_takenAs c
  have hpaid := h.paid key p
  omega

lemma Ticketed.issued (h : s.Ticketed env) {c : RegistryCall} (hc : c ∈ s.calls)
    {key : JsString} {record : TicketValue}
    (hresolved : resolvedAs env key (fun v => v = record) c = 1) :
    ∃ args host result, .issue args (.issued host result) ∈ s.calls ∧
      ticketKey env result.ticket = key ∧ args.value host result.expiresAt = record := by
  obtain ⟨i, hi⟩ := List.mem_iff_getElem?.1 hc
  have hone := Concurrent.weight_le_total hi (resolvedAs env key fun v => v = record)
  have honce := h.once key fun v => v = record
  have htotal : 0 < s.total (issuedAs env key fun v => v = record) := by omega
  obtain ⟨issue, hissue, hpos⟩ := Concurrent.exists_of_total_pos htotal
  cases issue with
  | issue args stage =>
    cases stage with
    | issued host result =>
      rw [issuedAs, weight] at hpos
      split at hpos
      · next hboth => exact ⟨args, host, result, hissue, hboth.1, of_decide_eq_true hboth.2⟩
      · cases hpos
    | _ => cases hpos
  | _ => cases hpos

lemma Ticketed.route (h : s.Ticketed env) {args : ResolveArgs} {record : TicketValue}
    {consumed : ConsumedTicket}
    (hmem : .resolve args (.resolved record consumed) ∈ s.calls ∨
      .resolve args (.bridged record consumed) ∈ s.calls) :
    args.now < consumed.expiresAt ∧ ∃ issueArgs host result,
      .issue issueArgs (.issued host result) ∈ s.calls ∧
        ticketKey env result.ticket = ticketKey env args.ticket ∧
        result.expiresAt = consumed.expiresAt ∧ issueArgs.hostId = consumed.hostId ∧
        issueArgs.orgId = consumed.orgId := by
  have hone : weight (ticketKey env args.ticket) (fun v => v = record) (ticketKey env args.ticket)
      record = 1 := if_pos ⟨rfl, decide_eq_true rfl⟩
  have hfaithful : args.now < record.expiresAt ∧ consumed.hostId = record.hostId ∧
      consumed.orgId = record.orgId ∧ consumed.expiresAt = record.expiresAt := by
    rcases hmem with hresolved | hbridged
    · exact h.faithful _ hresolved
    · exact h.faithful _ hbridged
  have hissued : ∃ issueArgs host result, .issue issueArgs (.issued host result) ∈ s.calls ∧
      ticketKey env result.ticket = ticketKey env args.ticket ∧
        issueArgs.value host result.expiresAt = record := by
    rcases hmem with hresolved | hbridged
    · exact h.issued hresolved hone
    · exact h.issued hbridged hone
  obtain ⟨hnow, hhost, horg, hexpiry⟩ := hfaithful
  obtain ⟨issueArgs, host, result, hissue, hkey, rfl⟩ := hissued
  have hid : host.id = issueArgs.hostId := h.faithful _ hissue
  rw [hexpiry, hhost, horg]
  exact ⟨hnow, issueArgs, host, result, hissue, hkey, rfl, hid.symm, rfl⟩

lemma react_bridged {i : ℕ} {args : ResolveArgs} {record : TicketValue} {consumed : ConsumedTicket}
    (hc : s.calls[i]? = some (.resolve args (.resolved record consumed))) (draw : Draw)
    (hnext : (s.react env (.step i draw)).calls[i]? =
      some (.resolve args (.bridged record consumed))) :
    draw.now < consumed.expiresAt ∧ args.ticket ∉ s.shared.usedTickets args.cell := by
  have hlt := (List.getElem?_eq_some_iff.1 hc).1
  rw [react, Concurrent.advance_of_some hc, RegistryCall.step, consumeTicket, beginControllerBridge] at hnext
  dsimp only at hnext
  rw [List.getElem?_set_self hlt] at hnext
  by_cases hexpired : draw.now ≥ consumed.expiresAt
  · rw [if_pos hexpired] at hnext
    cases hnext
  · rw [if_neg hexpired] at hnext
    by_cases hused : args.ticket ∈ s.shared.usedTickets args.cell
    · rw [if_pos hused] at hnext
      cases hnext
    · exact ⟨Nat.lt_of_not_le hexpired, hused⟩

lemma react_stored {i : ℕ} {args : IssueArgs} {stage : IssueStage} {host : HostRecord}
    {result : IssueTicketResult} (hc : s.calls[i]? = some (.issue args stage)) (draw : Draw)
    (hbefore : stage ≠ .issued host result)
    (hnext : (s.react env (.step i draw)).calls[i]? = some (.issue args (.issued host result))) :
    (s.react env (.step i draw)).shared.redis.entries (ticketKey env result.ticket) =
      some ⟨args.value host result.expiresAt, some (s.shared.redis.now + env.relayTicketTtlMs)⟩ := by
  have hlt := (List.getElem?_eq_some_iff.1 hc).1
  rw [react, Concurrent.advance_of_some hc] at hnext ⊢
  rw [List.getElem?_set_self hlt, Option.some_inj] at hnext
  cases stage with
  | check =>
    rw [RegistryCall.step, issueTicket] at hnext
    split at hnext
    · cases hnext
    · dsimp only at hnext
      split at hnext <;> cases hnext
  | mint host' expiresAt attempt =>
    rw [RegistryCall.step, issueTicket] at hnext ⊢
    cases hlive : s.shared.redis.live (ticketKey env (mintSecret (js "tkt") draw.secret)) with
    | some e =>
      rw [KeyStore.setNx_of_live hlive] at hnext
      dsimp only at hnext
      rw [if_neg Bool.false_ne_true] at hnext
      split at hnext <;> cases hnext
    | none =>
      rw [KeyStore.setNx_of_absent hlive] at hnext ⊢
      dsimp only at hnext
      rw [if_pos rfl] at hnext
      cases hnext
      exact KeyStore.entries_put_self _
  | refused => cases hnext
  | failed => cases hnext
  | issued host' result' =>
    cases hnext
    exact absurd rfl hbefore

lemma react_kept {i : ℕ} {args : IssueArgs} {stage : IssueStage} {key : JsString}
    {e : Entry TicketValue} (hc : s.calls[i]? = some (.issue args stage)) (draw : Draw)
    (hlive : s.shared.redis.live key = some e) :
    (s.react env (.step i draw)).shared.redis.live key = some e := by
  rw [react, Concurrent.advance_of_some hc]
  cases stage with
  | check =>
    rw [RegistryCall.step, issueTicket]
    split <;> exact hlive
  | mint host expiresAt attempt =>
    rw [RegistryCall.step, issueTicket]
    by_cases hkey : key = ticketKey env (mintSecret (js "tkt") draw.secret)
    · subst hkey
      rw [KeyStore.setNx_of_live hlive]
      exact hlive
    · exact (KeyStore.live_setNx_ne hkey _ _).trans hlive
  | refused => exact hlive
  | failed => exact hlive
  | issued host result => exact hlive

lemma Ticketed.law (h : s.Ticketed env) : s.TicketLaw env where
  once := h.once
  route _ _ _ hmem := h.route hmem
  bridged _ draw _ _ _ hc hnext := react_bridged hc draw hnext
  stored _ draw _ _ _ _ hc hbefore hnext := react_stored hc draw hbefore hnext
  kept _ draw _ _ _ _ hc hlive := react_kept hc draw hlive

end Requests

/-- A resolution that begins behind the revocation of a host does not lead to the host. -/
lemma resolve_of_revoked {now : ℕ} {pre mid : List RegistryEvent} {hostId : JsString}
    (hrevoked : Revoked hostId ((registryMachine env now).run pre).shared) :
    Revoked hostId ((registryMachine env now).run (pre ++ mid)).shared ∧
      ∀ i c, ((registryMachine env now).run pre).calls.length ≤ i →
        ((registryMachine env now).run (pre ++ mid)).calls[i]? = some c →
          ∀ args stage, c = .resolve args stage → c.letThrough ≠ some hostId := by
  induction mid using List.reverseRecOn with
  | nil =>
    rw [List.append_nil]
    exact ⟨hrevoked, Concurrent.from_length _⟩
  | append_singleton mid e ih =>
    obtain ⟨hstill, hfrom⟩ := ih
    rw [← List.append_assoc, Machine.run_snoc]
    refine ⟨hstill.react e, ?_⟩
    cases e with
    | advance ms => exact hfrom
    | request request =>
      refine Concurrent.from_start hfrom ?_
      intro args stage _
      rw [letThrough_call]
      nofun
    | step j draw =>
      refine Concurrent.advance_induction (p := fun t : Requests =>
        ∀ i c, ((registryMachine env now).run pre).calls.length ≤ i → t.calls[i]? = some c →
          ∀ args stage, c = .resolve args stage → c.letThrough ≠ some hostId) hfrom fun c hc => ?_
      refine Concurrent.from_set hfrom fun hj args stage hnext => ?_
      cases c with
      | resolve args' stage' =>
        exact hstill.letThrough_resolve (hfrom j _ hj hc args' stage' rfl)
      | _ => cases hnext

/-- A relay ticket is resolved once for each time it was issued, over all cells and replicas, before
its expiry and to the host it was issued for, unless the host was revoked before; an issue stores what
it returns and overwrites nothing. -/
theorem ticketLaw (env : RegistryEnv) (now : ℕ) (es : List RegistryEvent) :
    ((registryMachine env now).run es).TicketLaw env ∧
      ∀ pre mid hostId, es = pre ++ mid →
        Revoked hostId ((registryMachine env now).run pre).shared →
          ∀ i args stage, ((registryMachine env now).run pre).calls.length ≤ i →
            ((registryMachine env now).run es).calls[i]? = some (.resolve args stage) →
              (RegistryCall.resolve args stage).letThrough ≠ some hostId := by
  refine ⟨(Requests.ticketed_run now es).law, ?_⟩
  rintro pre mid hostId rfl hrevoked i args stage hi hc
  exact (resolve_of_revoked hrevoked).2 i _ hi hc args stage rfl

/-! ## The cell -/

end Pherry.ControlPlane
