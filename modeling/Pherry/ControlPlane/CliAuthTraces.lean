import Pherry.ControlPlane.CliAuth

/-!
# Where grants and tokens come from

What is stored under the keys of a request goes back to calls that were entitled to store it, in every
order of their commands.
-/

namespace Pherry.ControlPlane

open Lib

/-! ## What a command stores -/

variable (env : CliAuthEnv)

/-- The entry a command writes. -/
def CliAuthCall.writes (draw : JsString) (redis : CliAuthStore) :
    CliAuthCall → Option (JsString × CliAuthValue)
  | .approve _ args (.count _) => some (attemptsKey args.requestId, .attempts 0)
  | .approve _ args .incr =>
    some (attemptsKey args.requestId, .attempts (match redis.get (attemptsKey args.requestId) with
      | some (.attempts n) => n + 1
      | _ => 1))
  | .approve now args (.store record grant _) =>
    if (redis.setNx (grantKey args.requestId) (.grant grant) (some (record.expiresAt - now))).2 then
      some (grantKey args.requestId, .grant grant)
    else none
  | .exchange now _ (.mint grant) =>
    some (cliTokenKey (env.sha256Hex draw), .token ⟨grant.userId, now + env.cliTokenTtlMs⟩)
  | _ => none

variable {env}

lemma shared_load_approve (draw : JsString) (now : ℕ) (args : ApproveArgs) (redis : CliAuthStore) :
    (approveCliAuth env draw now args redis .load).1 = redis := by
  rw [approveCliAuth]
  split
  · rfl
  · split <;> rfl

lemma shared_load_exchange (draw : JsString) (now : ℕ) (args : ExchangeArgs)
    (redis : CliAuthStore) : (exchangeCliAuth env draw now args redis .load).1 = redis := by
  rw [exchangeCliAuth]
  split <;> rfl

lemma entries_step {draw : JsString} {redis : CliAuthStore} {c : CliAuthCall} {k : JsString}
    {e : Entry CliAuthValue} (h : (c.step env draw redis).1.entries k = some e) :
    redis.entries k = some e ∨ c.writes env draw redis = some (k, e.value) := by
  cases c with
  | approve now args stage =>
    cases stage with
    | load =>
      rw [CliAuthCall.step, shared_load_approve] at h
      exact Or.inl h
    | count record =>
      refine (KeyStore.entries_setNx h).imp_right ?_
      rintro ⟨rfl, hvalue, -⟩
      rw [hvalue]
      rfl
    | incr =>
      refine (KeyStore.entries_modify h).imp_right ?_
      rintro ⟨rfl, -, hvalue⟩
      rw [hvalue]
      rfl
    | retire => exact Or.inl (KeyStore.entries_del h)
    | store record grant redirectUrl =>
      refine (KeyStore.entries_setNx h).imp_right ?_
      rintro ⟨rfl, hvalue, hset⟩
      rw [hvalue]
      exact if_pos hset
    | wrong => exact Or.inl h
    | refused => exact Or.inl h
    | approved redirectUrl => exact Or.inl h
  | exchange now args stage =>
    cases stage with
    | load =>
      rw [CliAuthCall.step, shared_load_exchange] at h
      exact Or.inl h
    | take record => exact Or.inl (KeyStore.entries_getdel h)
    | mint grant =>
      refine (KeyStore.entries_put h).imp_right ?_
      rintro ⟨rfl, rfl⟩
      rfl
    | retire token expiresAt => exact Or.inl (KeyStore.entries_del h)
    | refused => exact Or.inl h
    | pending => exact Or.inl h
    | burned => exact Or.inl h
    | ok token expiresAt => exact Or.inl h

/-! ## Entitlement -/

variable (env) (requestId : JsString) (record : CliAuthRequest)

namespace CliAuth

/-- A stage behind the token. -/
def minted : ExchangeStage → Bool
  | .retire _ _ => true
  | .ok _ _ => true
  | _ => false

/-- A grant of an approve that succeeded, with a user code that was not wrong. -/
def Granted (s : CliAuth) (grant : CliAuthGrant) : Prop :=
  ∃ now args redirectUrl code, .approve now args (.approved redirectUrl) ∈ s.calls ∧
    wrongCode env record args.userCode = false ∧
    grantOf env record args.userId code = (grant, redirectUrl)

/-- An exchange is presented what it takes to redeem a grant: the secret of the request, and for a
callback the code of the grant. -/
def Presents (args : ExchangeArgs) (grant : CliAuthGrant) : Prop :=
  args.requestId = requestId ∧ env.sha256Hex args.cliSecret = record.secretHash ∧
    wrongGrant env record grant args.code = false

/-- A token for the user of a grant, minted by an exchange that redeemed it. -/
def Earned (s : CliAuth) (token : CliTokenRecord) : Prop :=
  ∃ grant, s.Granted env record grant ∧ token.userId = grant.userId ∧
    ∃ now args stage, .exchange now args stage ∈ s.calls ∧ minted stage = true ∧
      Presents env requestId record args grant

/-- What a call that has got so far relies on. -/
def Traces (s : CliAuth) : CliAuthCall → Prop
  | .approve now args (.count r) =>
    args.requestId = requestId ∧ r = record ∧ now < record.expiresAt ∧
      wrongCode env record args.userCode = true
  | .approve _ args .incr => args.requestId = requestId
  | .approve _ args .retire => args.requestId = requestId
  | .approve _ args (.store r grant redirectUrl) =>
    args.requestId = requestId ∧ r = record ∧ wrongCode env record args.userCode = false ∧
      ∃ code, grantOf env record args.userId code = (grant, redirectUrl)
  | .exchange _ args (.take r) =>
    args.requestId = requestId ∧ r = record ∧ env.sha256Hex args.cliSecret = record.secretHash
  | .exchange _ args (.mint grant) =>
    s.Granted env record grant ∧ Presents env requestId record args grant
  | .exchange _ args (.retire _ _) =>
    ∃ grant, s.Granted env record grant ∧ Presents env requestId record args grant
  | .exchange _ args (.ok _ _) =>
    ∃ grant, s.Granted env record grant ∧ Presents env requestId record args grant
  | _ => True

/-- Everything stored for the request, and every call, goes back to those entitled to it. -/
structure Traced (s : CliAuth) : Prop where
  requests : ∀ id e, s.shared.entries (requestKey id) = some e →
    id = requestId ∧ e.value = .request record
  grants : ∀ id e, s.shared.entries (grantKey id) = some e →
    id = requestId ∧ ∃ grant, e.value = .grant grant ∧ s.Granted env record grant
  tokens : ∀ hash e, s.shared.entries (cliTokenKey hash) = some e →
    ∃ token, e.value = .token token ∧ s.Earned env requestId record token
  calls : ∀ c ∈ s.calls, s.Traces env requestId record c

/-! ## Calls that are over -/

/-- What one state has of calls that are over, a later one has too. -/
structure Grows (s t : CliAuth) : Prop where
  approved : ∀ now args redirectUrl, .approve now args (.approved redirectUrl) ∈ s.calls →
    .approve now args (.approved redirectUrl) ∈ t.calls
  minted : ∀ now args stage, .exchange now args stage ∈ s.calls → minted stage = true →
    ∃ stage, .exchange now args stage ∈ t.calls ∧ CliAuth.minted stage = true

variable {env requestId record} {s t : CliAuth}

lemma Grows.granted (h : Grows s t) {grant : CliAuthGrant} (hg : s.Granted env record grant) :
    t.Granted env record grant := by
  obtain ⟨now, args, redirectUrl, code, hmem, hright, hgrant⟩ := hg
  exact ⟨now, args, redirectUrl, code, h.approved _ _ _ hmem, hright, hgrant⟩

lemma Grows.earned (h : Grows s t) {token : CliTokenRecord}
    (ht : s.Earned env requestId record token) : t.Earned env requestId record token := by
  obtain ⟨grant, hg, huser, now, args, stage, hmem, hminted, hpresents⟩ := ht
  obtain ⟨stage', hmem', hminted'⟩ := h.minted _ _ _ hmem hminted
  exact ⟨grant, h.granted hg, huser, now, args, stage', hmem', hminted', hpresents⟩

lemma Grows.traces (h : Grows s t) {c : CliAuthCall} (hc : s.Traces env requestId record c) :
    t.Traces env requestId record c := by
  cases c with
  | approve now args stage => cases stage <;> exact hc
  | exchange now args stage =>
    cases stage with
    | mint grant => exact ⟨h.granted hc.1, hc.2⟩
    | retire token expiresAt =>
      obtain ⟨grant, hg, hpresents⟩ := hc
      exact ⟨grant, h.granted hg, hpresents⟩
    | ok token expiresAt =>
      obtain ⟨grant, hg, hpresents⟩ := hc
      exact ⟨grant, h.granted hg, hpresents⟩
    | load => trivial
    | take r => exact hc
    | refused => trivial
    | pending => trivial
    | burned => trivial

lemma grows_start (s : CliAuth) (c : CliAuthCall) : Grows s (s.start c) :=
  ⟨fun _ _ _ h => List.mem_append_left _ h, fun _ _ stage h hm => ⟨stage, List.mem_append_left _ h, hm⟩⟩

variable (env) in
lemma grows_step {i : ℕ} {c : CliAuthCall} (hc : s.calls[i]? = some c) (draw : JsString) :
    Grows s ⟨(c.step env draw s.shared).1, s.calls.set i (c.step env draw s.shared).2⟩ := by
  refine ⟨fun now args redirectUrl hmem => ?_, fun now args stage hmem hminted => ?_⟩
  · by_cases heq : CliAuthCall.approve now args (.approved redirectUrl) = c
    · subst heq
      exact Concurrent.mem_set_self hc
    · exact Concurrent.mem_set_of_ne hc hmem heq
  · by_cases heq : CliAuthCall.exchange now args stage = c
    · subst heq
      refine ⟨_, Concurrent.mem_set_self hc, ?_⟩
      cases stage with
      | retire token expiresAt => rfl
      | ok token expiresAt => rfl
      | _ => cases hminted
    · exact ⟨stage, Concurrent.mem_set_of_ne hc hmem heq, hminted⟩

/-! ## Steps -/

lemma Traced.start (h : s.Traced env requestId record) {c : CliAuthCall}
    (hc : s.Traces env requestId record c) : Traced env requestId record (s.start c) := by
  have hgrows := grows_start s c
  refine ⟨h.requests, fun id e he => ?_, fun hash e he => ?_, Concurrent.forall_start ?_ ?_⟩
  · obtain ⟨hid, grant, hvalue, hg⟩ := h.grants id e he
    exact ⟨hid, grant, hvalue, hgrows.granted hg⟩
  · obtain ⟨token, hvalue, ht⟩ := h.tokens hash e he
    exact ⟨token, hvalue, hgrows.earned ht⟩
  · exact fun d hd => hgrows.traces (h.calls d hd)
  · exact hgrows.traces hc

lemma Traced.load (h : s.Traced env requestId record) {now : ℕ} {id : JsString} {r : CliAuthRequest}
    (hload : loadRequest s.shared now id = some r) :
    id = requestId ∧ r = record ∧ now < record.expiresAt := by
  rw [loadRequest] at hload
  split at hload
  · next r' hget =>
    obtain ⟨e, he, hvalue⟩ := KeyStore.entries_of_get hget
    obtain ⟨hid, hrequest⟩ := h.requests id e he
    rw [hrequest] at hvalue
    cases hvalue
    split at hload
    · cases hload
    · next hlive =>
      cases hload
      exact ⟨hid, rfl, Nat.lt_of_not_le hlive⟩
  · cases hload

lemma Traced.taken (h : s.Traced env requestId record) {id : JsString} {v : CliAuthValue}
    (htaken : (s.shared.getdel (grantKey id)).2 = some v) :
    ∃ grant, v = .grant grant ∧ s.Granted env record grant := by
  rw [KeyStore.getdel] at htaken
  split at htaken
  · cases htaken
  · next e hlive =>
    cases htaken
    obtain ⟨-, grant, hvalue, hg⟩ := h.grants id e (KeyStore.live_eq_some.1 hlive).1
    exact ⟨grant, hvalue, hg⟩

/-- What a call relies on behind its next command, with a grant of its own where it was approved. -/
lemma Traced.next (h : s.Traced env requestId record) {i : ℕ} {c : CliAuthCall}
    (hc : s.calls[i]? = some c) (draw : JsString) {t : CliAuth} (hgrows : Grows s t) :
    t.Traces env requestId record (c.step env draw s.shared).2 := by
  have htraces := h.calls c (List.mem_of_getElem? hc)
  cases c with
  | approve now args stage =>
    cases stage with
    | load =>
      rw [CliAuthCall.step, approveCliAuth]
      cases hload : loadRequest s.shared now args.requestId with
      | none => trivial
      | some r =>
        obtain ⟨hid, rfl, hlive⟩ := h.load hload
        dsimp only
        split
        · next hwrong => exact ⟨hid, rfl, hlive, hwrong⟩
        · next hright => exact ⟨hid, rfl, Bool.eq_false_iff.2 hright, draw, rfl⟩
    | count r => exact htraces.1
    | incr =>
      rw [CliAuthCall.step, approveCliAuth]
      dsimp only
      split
      all_goals
        split
        · exact htraces
        · trivial
    | retire => trivial
    | store r grant redirectUrl =>
      rw [CliAuthCall.step, approveCliAuth]
      dsimp only
      split <;> trivial
    | wrong => trivial
    | refused => trivial
    | approved redirectUrl => trivial
  | exchange now args stage =>
    cases stage with
    | load =>
      rw [CliAuthCall.step, exchangeCliAuth]
      cases hload : loadRequest s.shared now args.requestId with
      | none => trivial
      | some r =>
        obtain ⟨hid, rfl, -⟩ := h.load hload
        dsimp only
        split
        · trivial
        · next hsecret => exact ⟨hid, rfl, not_not.1 hsecret⟩
    | take r =>
      obtain ⟨hid, rfl, hsecret⟩ := htraces
      rw [CliAuthCall.step, exchangeCliAuth]
      cases htaken : (s.shared.getdel (grantKey args.requestId)).2 with
      | none => trivial
      | some v =>
        obtain ⟨grant, rfl, hg⟩ := h.taken htaken
        dsimp only
        split
        · trivial
        · next hright => exact ⟨hgrows.granted hg, hid, hsecret, Bool.eq_false_iff.2 hright⟩
    | mint grant => exact ⟨grant, hgrows.granted htraces.1, htraces.2⟩
    | retire token expiresAt =>
      obtain ⟨grant, hg, hpresents⟩ := htraces
      exact ⟨grant, hgrows.granted hg, hpresents⟩
    | ok token expiresAt =>
      obtain ⟨grant, hg, hpresents⟩ := htraces
      exact ⟨grant, hgrows.granted hg, hpresents⟩
    | refused => trivial
    | pending => trivial
    | burned => trivial

lemma Traced.writes_grant (h : s.Traced env requestId record) {i : ℕ} {c : CliAuthCall}
    (hc : s.calls[i]? = some c) {draw id : JsString} {v : CliAuthValue}
    (hwrites : c.writes env draw s.shared = some (grantKey id, v)) :
    id = requestId ∧ ∃ grant, v = .grant grant ∧
      Granted env record ⟨(c.step env draw s.shared).1, s.calls.set i (c.step env draw s.shared).2⟩
        grant := by
  have htraces := h.calls c (List.mem_of_getElem? hc)
  cases c with
  | approve now args stage =>
    cases stage with
    | count r =>
      rw [CliAuthCall.writes, Option.some_inj, Prod.mk.injEq] at hwrites
      exact absurd hwrites.1.symm (grantKey_ne_attemptsKey _ _)
    | incr =>
      rw [CliAuthCall.writes, Option.some_inj, Prod.mk.injEq] at hwrites
      exact absurd hwrites.1.symm (grantKey_ne_attemptsKey _ _)
    | store r grant redirectUrl =>
      obtain ⟨hid, rfl, hright, code, hgrant⟩ := htraces
      rw [CliAuthCall.writes] at hwrites
      split at hwrites
      · next hset =>
        rw [Option.some_inj, Prod.mk.injEq, grantKey_inj] at hwrites
        obtain ⟨rfl, rfl⟩ := hwrites
        refine ⟨hid, grant, rfl, now, args, redirectUrl, code, ?_, hright, hgrant⟩
        have hstep : ((CliAuthCall.approve now args (.store r grant redirectUrl)).step env draw
            s.shared).2 = .approve now args (.approved redirectUrl) :=
          congrArg (CliAuthCall.approve now args) (if_pos hset)
        rw [hstep]
        exact Concurrent.mem_set_self hc
      · cases hwrites
    | load => cases hwrites
    | retire => cases hwrites
    | wrong => cases hwrites
    | refused => cases hwrites
    | approved redirectUrl => cases hwrites
  | exchange now args stage =>
    cases stage with
    | mint grant =>
      rw [CliAuthCall.writes, Option.some_inj, Prod.mk.injEq] at hwrites
      exact absurd hwrites.1.symm (grantKey_ne_cliTokenKey _ _)
    | _ => cases hwrites

/-- A token that a command stores is for the user of the grant the call has redeemed. -/
lemma Traced.writes_token (h : s.Traced env requestId record) {i : ℕ} {c : CliAuthCall}
    (hc : s.calls[i]? = some c) {draw hash : JsString} {v : CliAuthValue}
    (hwrites : c.writes env draw s.shared = some (cliTokenKey hash, v)) :
    ∃ token, v = .token token ∧ Earned env requestId record
      ⟨(c.step env draw s.shared).1, s.calls.set i (c.step env draw s.shared).2⟩ token := by
  have htraces := h.calls c (List.mem_of_getElem? hc)
  have hgrows := grows_step env hc draw
  cases c with
  | approve now args stage =>
    cases stage with
    | count r =>
      rw [CliAuthCall.writes, Option.some_inj, Prod.mk.injEq] at hwrites
      exact absurd hwrites.1 (attemptsKey_ne_cliTokenKey _ _)
    | incr =>
      rw [CliAuthCall.writes, Option.some_inj, Prod.mk.injEq] at hwrites
      exact absurd hwrites.1 (attemptsKey_ne_cliTokenKey _ _)
    | store r grant redirectUrl =>
      rw [CliAuthCall.writes] at hwrites
      split at hwrites
      · rw [Option.some_inj, Prod.mk.injEq] at hwrites
        exact absurd hwrites.1 (grantKey_ne_cliTokenKey _ _)
      · cases hwrites
    | load => cases hwrites
    | retire => cases hwrites
    | wrong => cases hwrites
    | refused => cases hwrites
    | approved redirectUrl => cases hwrites
  | exchange now args stage =>
    cases stage with
    | mint grant =>
      rw [CliAuthCall.writes, Option.some_inj, Prod.mk.injEq] at hwrites
      obtain ⟨-, rfl⟩ := hwrites
      exact ⟨_, rfl, grant, hgrows.granted htraces.1, rfl, now, args, _, Concurrent.mem_set_self hc, rfl, htraces.2⟩
    | _ => cases hwrites

lemma writes_ne_requestKey (c : CliAuthCall) (draw id : JsString) (redis : CliAuthStore)
    (v : CliAuthValue) : c.writes env draw redis ≠ some (requestKey id, v) := by
  intro hwrites
  cases c with
  | approve now args stage =>
    cases stage with
    | count r =>
      rw [CliAuthCall.writes, Option.some_inj, Prod.mk.injEq] at hwrites
      exact requestKey_ne_attemptsKey _ _ hwrites.1.symm
    | incr =>
      rw [CliAuthCall.writes, Option.some_inj, Prod.mk.injEq] at hwrites
      exact requestKey_ne_attemptsKey _ _ hwrites.1.symm
    | store r grant redirectUrl =>
      rw [CliAuthCall.writes] at hwrites
      split at hwrites
      · rw [Option.some_inj, Prod.mk.injEq] at hwrites
        exact requestKey_ne_grantKey _ _ hwrites.1.symm
      · cases hwrites
    | load => cases hwrites
    | retire => cases hwrites
    | wrong => cases hwrites
    | refused => cases hwrites
    | approved redirectUrl => cases hwrites
  | exchange now args stage =>
    cases stage with
    | mint grant =>
      rw [CliAuthCall.writes, Option.some_inj, Prod.mk.injEq] at hwrites
      exact requestKey_ne_cliTokenKey _ _ hwrites.1.symm
    | _ => cases hwrites

lemma Traced.step (h : s.Traced env requestId record) {i : ℕ} {c : CliAuthCall}
    (hc : s.calls[i]? = some c) (draw : JsString) :
    Traced env requestId record
      ⟨(c.step env draw s.shared).1, s.calls.set i (c.step env draw s.shared).2⟩ := by
  have hgrows := grows_step env hc draw
  refine ⟨fun id e he => ?_, fun id e he => ?_, fun hash e he => ?_, ?_⟩
  · rcases entries_step he with hold | hnew
    · exact h.requests id e hold
    · exact absurd hnew (writes_ne_requestKey _ _ _ _ _)
  · rcases entries_step he with hold | hnew
    · obtain ⟨hid, grant, hvalue, hg⟩ := h.grants id e hold
      exact ⟨hid, grant, hvalue, hgrows.granted hg⟩
    · exact h.writes_grant hc hnew
  · rcases entries_step he with hold | hnew
    · obtain ⟨token, hvalue, ht⟩ := h.tokens hash e hold
      exact ⟨token, hvalue, hgrows.earned ht⟩
    · exact h.writes_token hc hnew
  · refine Concurrent.forall_set (fun d hd => hgrows.traces (h.calls d hd)) ?_
    exact h.next hc draw hgrows

lemma Traced.react (h : s.Traced env requestId record) (e : CliAuthEvent) :
    Traced env requestId record (s.react env e) := by
  cases e with
  | advance ms => exact ⟨h.requests, h.grants, h.tokens, h.calls⟩
  | approve now args => exact h.start trivial
  | exchange now args => exact h.start trivial
  | step i draw =>
    refine Concurrent.advance_induction (p := fun t => Traced env requestId record t) h fun c hc => ?_
    exact h.step hc draw

lemma traced_run (now : ℕ) (es : List CliAuthEvent) :
    Traced env requestId record ((cliAuthMachine env requestId record now).run es) := by
  refine (cliAuthMachine env requestId record now).invariant
    (p := fun s : CliAuth => s.Traced env requestId record) ?_ (fun _ e h => h.react e) es
  have hfirst : ∀ k e, (cliAuthMachine env requestId record now).init.shared.entries k = some e →
      k = requestKey requestId ∧ e.value = .request record := by
    intro k e he
    rcases KeyStore.entries_setNx he with hold | ⟨hk, hvalue, -⟩
    · cases hold
    · exact ⟨hk, hvalue⟩
  refine ⟨fun id e he => ?_, fun id e he => ?_, fun hash e he => ?_, nofun⟩
  · obtain ⟨hk, hvalue⟩ := hfirst _ e he
    exact ⟨requestKey_inj.1 hk, hvalue⟩
  · exact absurd (hfirst _ e he).1.symm (requestKey_ne_grantKey _ _)
  · exact absurd (hfirst _ e he).1.symm (requestKey_ne_cliTokenKey _ _)

end CliAuth

end Pherry.ControlPlane
