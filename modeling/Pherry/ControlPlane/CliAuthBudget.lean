import Pherry.ControlPlane.CliAuthApproval

/-!
# The budget of wrong codes

How many wrong user codes are compared with the code of a request when its approves leave room for
one another, and how long their counter lives.
-/

namespace Pherry.ControlPlane

open Lib

namespace CliAuth

/-! ## Weights -/

/-- Approves that have compared a wrong code. -/
def wrongs : CliAuthCall → ℕ
  | .approve _ _ (.count _) => 1
  | .approve _ _ .incr => 1
  | .approve _ _ .retire => 1
  | .approve _ _ .wrong => 1
  | _ => 0

/-- Approves whose wrong code has been counted. -/
def counted : CliAuthCall → ℕ
  | .approve _ _ .retire => 1
  | .approve _ _ .wrong => 1
  | _ => 0

/-- Approves that have read the request, and are neither over nor have counted a wrong code. -/
def pending : CliAuthCall → ℕ
  | .approve _ _ (.count _) => 1
  | .approve _ _ .incr => 1
  | .approve _ _ (.store _ _ _) => 1
  | _ => 0

/-- Approves that are to invalidate the request. -/
def retiring : CliAuthCall → ℕ
  | .approve _ _ .retire => 1
  | _ => 0

/-- Approves that are to store a grant. -/
def storing : CliAuthCall → ℕ
  | .approve _ _ (.store _ _ _) => 1
  | _ => 0

lemma wrongs_add_storing (c : CliAuthCall) : wrongs c + storing c = counted c + pending c := by
  cases c with
  | approve now args stage => cases stage <;> rfl
  | exchange now args stage => rfl

lemma total_wrongs_add_storing (s : CliAuth) :
    s.total wrongs + s.total storing = s.total counted + s.total pending := by
  have hsum : ∀ f g : CliAuthCall → ℕ, s.total f + s.total g = s.total fun c => f c + g c :=
    fun f g => List.sum_map_add.symm
  rw [hsum, hsum]
  exact congrArg s.total (funext wrongs_add_storing)

variable {env : CliAuthEnv} {requestId : JsString} {record : CliAuthRequest} {s : CliAuth}

/-! ## What commands leave -/

lemma entries_of_loadRequest {redis : CliAuthStore} {now : ℕ} {id : JsString} {r : CliAuthRequest}
    (hload : loadRequest redis now id = some r) : redis.entries (requestKey id) ≠ none := by
  rw [loadRequest] at hload
  split at hload
  · next hget =>
    obtain ⟨e, he, -⟩ := KeyStore.entries_of_get hget
    rw [he]
    exact Option.some_ne_none e
  · cases hload

lemma request_of_step {draw id : JsString} {redis : CliAuthStore} {c : CliAuthCall}
    (hthere : (c.step env draw redis).1.entries (requestKey id) ≠ none) :
    redis.entries (requestKey id) ≠ none := by
  obtain ⟨e, he⟩ := Option.ne_none_iff_exists'.1 hthere
  rcases entries_step he with hold | hnew
  · rw [hold]
    exact Option.some_ne_none e
  · exact absurd hnew (writes_ne_requestKey _ _ _ _ _)

lemma attempts_exchange (draw : JsString) (now : ℕ) (args : ExchangeArgs) (redis : CliAuthStore)
    (stage : ExchangeStage) (id : JsString) :
    (exchangeCliAuth env draw now args redis stage).1.entries (attemptsKey id) =
      redis.entries (attemptsKey id) := by
  cases stage with
  | load => rw [shared_load_exchange]
  | take r => exact KeyStore.entries_getdel_ne (grantKey_ne_attemptsKey _ _).symm
  | mint grant => exact KeyStore.entries_put_ne (attemptsKey_ne_cliTokenKey _ _) _
  | retire token expiresAt => exact KeyStore.entries_del_ne (requestKey_ne_attemptsKey _ _).symm
  | refused => rfl
  | pending => rfl
  | burned => rfl
  | ok token expiresAt => rfl

/-! ## Approves that leave room for one another -/

/-- An approve that reads the request is alone, or the budget is enough for all that have read it; it
sets the counter no later than it began and while no code is counted, and increments it while it is
there. -/
def roomy (s : CliAuth) : CliAuthEvent → Bool
  | .step i _ =>
    match s.calls[i]? with
    | some (.approve now args .load) =>
      (loadRequest s.shared now args.requestId).isNone || s.total pending + s.total retiring = 0 ||
        s.total counted + s.total pending < maxApproveAttempts
    | some (.approve now args (.count _)) =>
      (s.shared.live (attemptsKey args.requestId)).isSome ||
        (s.shared.now ≤ now && s.total counted = 0)
    | some (.approve _ args .incr) => (s.shared.live (attemptsKey args.requestId)).isSome
    | _ => true
  | _ => true

/-- What the budget, the request and the counter say of the approves. -/
structure Counts (requestId : JsString) (record : CliAuthRequest) (s : CliAuth) : Prop where
  budget : s.total counted + s.total pending ≤ maxApproveAttempts
  present : s.shared.entries (requestKey requestId) ≠ none →
    s.total counted < maxApproveAttempts ∨ 1 ≤ s.total retiring
  counter : ∀ e, s.shared.entries (attemptsKey requestId) = some e →
    e.value = .attempts (s.total counted) ∧ ∃ t, e.expiresAt = some t ∧ t ≤ record.expiresAt

/-- A command that leaves the weights, the counter, and the request unless it deletes it. -/
lemma Counts.keep (h : s.Counts requestId record) {i : ℕ} {c c' : CliAuthCall}
    (hc : s.calls[i]? = some c) {redis : CliAuthStore}
    (hattempts : redis.entries (attemptsKey requestId) = s.shared.entries (attemptsKey requestId))
    (hrequest : redis.entries (requestKey requestId) ≠ none →
      s.shared.entries (requestKey requestId) ≠ none)
    (hcounted : counted c' = counted c) (hretiring : retiring c' = retiring c)
    (hpending : pending c' ≤ pending c) :
    Counts requestId record ⟨redis, s.calls.set i c'⟩ := by
  have htotalCounted : (⟨redis, s.calls.set i c'⟩ : CliAuth).total counted = s.total counted := by
    have hset := Concurrent.total_set hc counted redis c'
    omega
  have htotalRetiring : (⟨redis, s.calls.set i c'⟩ : CliAuth).total retiring = s.total retiring := by
    have hset := Concurrent.total_set hc retiring redis c'
    omega
  have htotalPending := Concurrent.total_set hc pending redis c'
  have hbudget := h.budget
  refine ⟨by omega, fun hthere => ?_, fun e he => ?_⟩
  · rw [htotalCounted, htotalRetiring]
    exact h.present (hrequest hthere)
  · rw [htotalCounted]
    exact h.counter e (hattempts.symm.trans he)

lemma Counts.read (h : s.Counts requestId record) {i : ℕ} {c c' : CliAuthCall}
    (hc : s.calls[i]? = some c)
    (hroom : s.total pending + s.total retiring = 0 ∨
      s.total counted + s.total pending < maxApproveAttempts)
    (hthere : s.shared.entries (requestKey requestId) ≠ none)
    (hcounted : counted c' = counted c) (hretiring : retiring c' = retiring c)
    (hpending : pending c' = pending c + 1) :
    Counts requestId record ⟨s.shared, s.calls.set i c'⟩ := by
  have htotalCounted :
      (⟨s.shared, s.calls.set i c'⟩ : CliAuth).total counted = s.total counted := by
    have hset := Concurrent.total_set hc counted s.shared c'
    omega
  have htotalRetiring :
      (⟨s.shared, s.calls.set i c'⟩ : CliAuth).total retiring = s.total retiring := by
    have hset := Concurrent.total_set hc retiring s.shared c'
    omega
  have htotalPending := Concurrent.total_set hc pending s.shared c'
  have hpresent := h.present hthere
  refine ⟨?_, fun _ => ?_, fun e he => ?_⟩
  · -- alone, it finds the request only while the budget is not used up
    rcases hroom with halone | hroom
    · rcases hpresent with hleft | hretire <;> omega
    · omega
  · rw [htotalCounted, htotalRetiring]
    exact hpresent
  · rw [htotalCounted]
    exact h.counter e he

lemma Counts.count (h : s.Counts requestId record) {i now : ℕ} {args : ApproveArgs}
    {r : CliAuthRequest} (hc : s.calls[i]? = some (.approve now args (.count r))) (draw : JsString)
    (hid : args.requestId = requestId) (hr : r = record) (hnow : now < record.expiresAt)
    (hroomy : s.roomy (.step i draw) = true) :
    Counts requestId record
      ⟨((CliAuthCall.approve now args (.count r)).step env draw s.shared).1,
        s.calls.set i (.approve now args .incr)⟩ := by
  rw [roomy, hc] at hroomy
  subst hid hr
  have hrequest := requestKey_ne_attemptsKey args.requestId args.requestId
  rw [CliAuthCall.step, approveCliAuth]
  dsimp only at hroomy ⊢
  cases hlive : s.shared.live (attemptsKey args.requestId) with
  | some e =>
    rw [KeyStore.setNx_of_live hlive]
    exact h.keep hc rfl id rfl rfl (Nat.le_refl _)
  | none =>
    rw [hlive, Option.isSome_none, Bool.false_or, Bool.and_eq_true, decide_eq_true_eq, decide_eq_true_eq] at hroomy
    obtain ⟨hclock, hnone⟩ := hroomy
    rw [KeyStore.setNx_of_absent hlive]
    have hkept : Counts args.requestId r ⟨s.shared, s.calls.set i (.approve now args .incr)⟩ :=
      h.keep hc rfl id rfl rfl (Nat.le_refl _)
    have htotal : (⟨s.shared, s.calls.set i (.approve now args .incr)⟩ : CliAuth).total counted =
        s.total counted := Concurrent.total_set hc counted s.shared (.approve now args .incr)
    refine ⟨hkept.budget, fun hthere => ?_, fun e he => ?_⟩
    · rw [KeyStore.set, KeyStore.entries_put_ne hrequest] at hthere
      exact hkept.present hthere
    · rw [KeyStore.set, KeyStore.entries_put_self, Option.some_inj] at he
      subst he
      refine ⟨?_, s.shared.now + max 1 (r.expiresAt - now), rfl, by omega⟩
      show CliAuthValue.attempts 0 = .attempts ((⟨s.shared, _⟩ : CliAuth).total counted)
      rw [htotal, hnone]

lemma Counts.incr (h : s.Counts requestId record) {i now : ℕ} {args : ApproveArgs}
    (hc : s.calls[i]? = some (.approve now args .incr)) (draw : JsString)
    (hid : args.requestId = requestId) (hroomy : s.roomy (.step i draw) = true) :
    Counts requestId record
      ⟨((CliAuthCall.approve now args .incr).step env draw s.shared).1,
        s.calls.set i ((CliAuthCall.approve now args .incr).step env draw s.shared).2⟩ := by
  rw [roomy, hc] at hroomy
  subst hid
  obtain ⟨e, hlive⟩ := Option.isSome_iff_exists.1 hroomy
  obtain ⟨hvalue, t, ht, hle⟩ := h.counter e (KeyStore.live_eq_some.1 hlive).1
  have hget : s.shared.get (attemptsKey args.requestId) = some (.attempts (s.total counted)) :=
    KeyStore.get_eq_some.2 ⟨e, hlive, hvalue⟩
  rw [CliAuthCall.step, approveCliAuth, hget, KeyStore.modify_of_live hlive]
  dsimp only
  have hrequest := requestKey_ne_attemptsKey args.requestId args.requestId
  -- one more is counted, and one fewer is pending, wherever the call goes from here
  have hafter : ∀ c' : CliAuthCall, counted c' = 1 → pending c' = 0 →
      (s.total counted + 1 < maxApproveAttempts ∨ retiring c' = 1) →
      Counts args.requestId record
        ⟨s.shared.put (attemptsKey args.requestId)
          { e with value := .attempts (s.total counted + 1) }, s.calls.set i c'⟩ := by
    intro c' hcounted hpending hretire
    have hbudget := h.budget
    have htotalCounted := Concurrent.total_set hc counted
      (s.shared.put (attemptsKey args.requestId) { e with value := .attempts (s.total counted + 1) })
      c'
    have htotalPending := Concurrent.total_set hc pending
      (s.shared.put (attemptsKey args.requestId) { e with value := .attempts (s.total counted + 1) })
      c'
    have htotalRetiring := Concurrent.total_set hc retiring
      (s.shared.put (attemptsKey args.requestId) { e with value := .attempts (s.total counted + 1) })
      c'
    have hbefore : counted (.approve now args .incr) = 0 ∧ pending (.approve now args .incr) = 1 ∧
        retiring (.approve now args .incr) = 0 := ⟨rfl, rfl, rfl⟩
    refine ⟨by omega, fun _ => ?_, fun e' he' => ?_⟩
    · rcases hretire with hleft | hretire
      · exact Or.inl (by omega)
      · exact Or.inr (by omega)
    · rw [KeyStore.entries_put_self, Option.some_inj] at he'
      subst he'
      refine ⟨?_, t, ht, hle⟩
      have htotal : s.total counted + 1 = (⟨s.shared.put (attemptsKey args.requestId)
          { e with value := .attempts (s.total counted + 1) }, s.calls.set i c'⟩ :
            CliAuth).total counted := by omega
      exact congrArg CliAuthValue.attempts htotal
  split
  · exact hafter _ rfl rfl (Or.inr rfl)
  · next hleft => exact hafter _ rfl rfl (Or.inl (Nat.lt_of_not_le hleft))

lemma Counts.retire (h : s.Counts requestId record) {i now : ℕ} {args : ApproveArgs}
    (hc : s.calls[i]? = some (.approve now args .retire)) (hid : args.requestId = requestId) :
    Counts requestId record
      ⟨s.shared.del (requestKey args.requestId), s.calls.set i (.approve now args .wrong)⟩ := by
  subst hid
  have htotalCounted : (⟨s.shared.del (requestKey args.requestId),
      s.calls.set i (.approve now args .wrong)⟩ : CliAuth).total counted = s.total counted := by
    have hset := Concurrent.total_set hc counted (s.shared.del (requestKey args.requestId))
      (.approve now args .wrong)
    exact Nat.add_right_cancel hset
  have htotalPending : (⟨s.shared.del (requestKey args.requestId),
      s.calls.set i (.approve now args .wrong)⟩ : CliAuth).total pending = s.total pending :=
    Concurrent.total_set hc pending (s.shared.del (requestKey args.requestId))
      (.approve now args .wrong)
  have hbudget := h.budget
  refine ⟨by omega, fun hthere => ?_, fun e he => ?_⟩
  · exact absurd KeyStore.entries_del_self hthere
  · rw [htotalCounted]
    rw [KeyStore.entries_del_ne (requestKey_ne_attemptsKey _ _).symm] at he
    exact h.counter e he

lemma Counts.step (h : s.Counts requestId record) (htraced : s.Traced env requestId record)
    {i : ℕ} {c : CliAuthCall} (hc : s.calls[i]? = some c) (draw : JsString)
    (hroomy : s.roomy (.step i draw) = true) :
    Counts requestId record
      ⟨(c.step env draw s.shared).1, s.calls.set i (c.step env draw s.shared).2⟩ := by
  have htraces := htraced.calls c (List.mem_of_getElem? hc)
  cases c with
  | approve now args stage =>
    cases stage with
    | load =>
      rw [roomy, hc] at hroomy
      rw [CliAuthCall.step, approveCliAuth]
      dsimp only at hroomy ⊢
      cases hload : loadRequest s.shared now args.requestId with
      | none => exact h.keep hc rfl id rfl rfl (Nat.le_refl _)
      | some r =>
        rw [hload, Option.isNone_some, Bool.false_or, Bool.or_eq_true, decide_eq_true_eq, decide_eq_true_eq] at hroomy
        obtain ⟨hid, -, -⟩ := htraced.load hload
        have hthere := entries_of_loadRequest hload
        rw [hid] at hthere
        dsimp only
        split
        · exact h.read hc hroomy hthere rfl rfl rfl
        · exact h.read hc hroomy hthere rfl rfl rfl
    | count r =>
      obtain ⟨hid, hr, hnow, -⟩ := htraces
      exact h.count hc draw hid hr hnow hroomy
    | incr => exact h.incr hc draw htraces hroomy
    | retire => exact h.retire hc htraces
    | store r grant redirectUrl =>
      refine h.keep hc ?_ request_of_step ?_ ?_ ?_
      · exact KeyStore.entries_setNx_ne (grantKey_ne_attemptsKey _ _).symm _ _
      all_goals
        rw [CliAuthCall.step, approveCliAuth]
        dsimp only
        split
        · first | rfl | exact Nat.zero_le _
        · first | rfl | exact Nat.zero_le _
    | wrong => exact h.keep hc rfl id rfl rfl (Nat.le_refl _)
    | refused => exact h.keep hc rfl id rfl rfl (Nat.le_refl _)
    | approved redirectUrl => exact h.keep hc rfl id rfl rfl (Nat.le_refl _)
  | exchange now args stage =>
    refine h.keep hc ?_ request_of_step rfl rfl (Nat.le_refl _)
    exact attempts_exchange draw now args s.shared stage requestId

lemma Counts.start (h : s.Counts requestId record) {c : CliAuthCall} (hcounted : counted c = 0)
    (hpending : pending c = 0) (hretiring : retiring c = 0) :
    Counts requestId record (s.start c) := by
  have htotalCounted : (s.start c).total counted = s.total counted := by
    rw [Concurrent.total_start, hcounted, Nat.add_zero]
  have htotalPending : (s.start c).total pending = s.total pending := by
    rw [Concurrent.total_start, hpending, Nat.add_zero]
  have htotalRetiring : (s.start c).total retiring = s.total retiring := by
    rw [Concurrent.total_start, hretiring, Nat.add_zero]
  refine ⟨?_, fun hthere => ?_, fun e he => ?_⟩
  · rw [htotalCounted, htotalPending]
    exact h.budget
  · rw [htotalCounted, htotalRetiring]
    exact h.present hthere
  · rw [htotalCounted]
    exact h.counter e he

lemma Counts.react (h : s.Counts requestId record) (htraced : s.Traced env requestId record)
    {e : CliAuthEvent} (hroomy : s.roomy e = true) : Counts requestId record (s.react env e) := by
  cases e with
  | advance ms => exact ⟨h.budget, h.present, h.counter⟩
  | approve now args => exact h.start rfl rfl rfl
  | exchange now args => exact h.start rfl rfl rfl
  | step i draw =>
    refine Concurrent.advance_induction (p := fun t : CliAuth => t.Counts requestId record) h
      fun c hc => ?_
    exact h.step htraced hc draw hroomy

/-! ## The law of a request's budget -/

variable (env requestId record)

/-- The budget of wrong codes: what is kept at every moment. -/
structure GuessBudget (s : CliAuth) : Prop where
  compared : s.total wrongs ≤ maxApproveAttempts
  closed : maxApproveAttempts ≤ s.total wrongs →
    ∀ e, (s.react env e).total approvals = s.total approvals
  counter : ∀ e, s.shared.live (attemptsKey requestId) = some e → s.shared.now < record.expiresAt

variable {env requestId record}

lemma approvals_react (h : s.total storing = 0) (e : CliAuthEvent) :
    (s.react env e).total approvals = s.total approvals := by
  cases e with
  | advance ms => rfl
  | approve now args => exact Concurrent.total_start s _ approvals
  | exchange now args => exact Concurrent.total_start s _ approvals
  | step i draw =>
    refine Concurrent.advance_induction
      (p := fun t : CliAuth => t.total approvals = s.total approvals) rfl fun c hc => ?_
    have hweight := Concurrent.weight_le_total hc storing
    have hset := Concurrent.total_set hc approvals (c.step env draw s.shared).1
      (c.step env draw s.shared).2
    have hsame : approvals (c.step env draw s.shared).2 = approvals c := by
      cases c with
      | approve now args stage =>
        cases stage with
        | load =>
          rw [CliAuthCall.step, approveCliAuth]
          split
          · rfl
          · dsimp only
            split <;> rfl
        | incr =>
          rw [CliAuthCall.step, approveCliAuth]
          dsimp only
          split <;> split <;> rfl
        | store r grant redirectUrl =>
          rw [h] at hweight
          exact absurd hweight (Nat.not_succ_le_zero 0)
        | _ => rfl
      | exchange now args stage => rfl
    omega

lemma Counts.law (h : s.Counts requestId record) :
    s.GuessBudget env requestId record := by
  have hbudget := h.budget
  have hsum := total_wrongs_add_storing s
  refine ⟨by omega, fun hspent e => approvals_react (by omega) e, fun e hlive => ?_⟩
  obtain ⟨he, hexpiry⟩ := KeyStore.live_eq_some.1 hlive
  obtain ⟨-, t, ht, hle⟩ := h.counter e he
  rw [KeyStore.isLive, ht, Option.all_some, decide_eq_true_eq] at hexpiry
  omega

end CliAuth

/-- A headless request. -/
def headlessRequest : CliAuthRequest := startCliAuth plainEnv 0 none (js "cas_1") (js "AAAABBBB")

/-- Six approves read the request before a wrong code is counted. -/
def sixReaders : List CliAuthEvent :=
  List.replicate 6 (.approve 0 ⟨js "car_1", js "usr_1", some (js "AAAABBBC")⟩) ++
    (List.range 6).map fun i => .step i []

end Pherry.ControlPlane
