import Pherry.Host.ServeFrames

/-!
# The contract of a served connection

Every request that is handled gets one response and no exception leaves a handler, over every run
whose steps break nothing: a failure sent from a catch clause fits a record, and what runs behind a
response, or in a catch clause, does not throw.
-/

namespace Pherry.Host

open Lib Channel Protocol

/-- The try statement a call is made in. -/
def Todo.guard (guard : Guard) : Todo → Guard
  | hook h => h.guard
  | _ => guard

namespace Serve

/-- The steps that break the contract: the send of the ack throws; a call throws that is made in a
catch clause, or behind the response of an open connection; a failure is too long for a record that a
catch clause is about to send. -/
def breaks (s : Serve) : ServeEvent → Bool
  | .gate (.ackReturned false) => s.gate.calls.head?.any fun call => (call matches .ack _)
  | .gate _ => false
  | .returned (.ok _) =>
    s.handles && s.stack.head?.any fun
      | (h, .calling _ left) => h.caught && tooLong s.gate.closed left
      | (_, .returning _) => false
  | .returned (.error error) =>
    s.handles && s.stack.head?.any fun
      | (h, .calling call _) => h.caught || (call.isAnswer && !s.gate.closed) ||
          tooLong s.gate.closed ((call.guard h.guard).catching h.id error)
      | (_, .returning _) => false
  | .settled i (.error error) =>
    s.gate.calls.isEmpty && s.stack.isEmpty && (s.waiting[i]?).any fun w =>
      tooLong s.gate.closed (w.hook.guard.catching w.id error)
  | .settled _ (.ok _) => false
  | .registry _ => false

variable {sent : ℕ → List Response}

/-! ## Steps that take a request into the hand -/

lemma Answers.pop {s : Serve} {h : Handler} {call : Todo} {left : List Todo}
    {stack : List (Handler × Stage)} (ha : Answers none sent s)
    (hstack : s.stack = (h, .calling call left) :: stack) :
    Answers (some h.request) sent { s with stack } := by
  have hin : s.inHand = h.request :: ({ s with stack } : Serve).inHand := by
    rw [inHand, hstack]
    rfl
  have hnodup := ha.nodup
  rw [hin, List.nodup_cons] at hnodup
  refine ⟨ha.fresh, ha.once, ha.named, fun entry hentry => ?_, ha.waiting, hnodup.2,
    fun n hn => ?_, fun m request hm hnot hne => ?_⟩
  · exact ha.stack entry (by rw [hstack]; exact List.mem_cons_of_mem _ hentry)
  · cases hn
    exact hnodup.1
  · refine ha.done m request hm ?_ (Option.some_ne_none m).symm
    rw [hin, List.mem_cons, not_or]
    exact ⟨fun heq => hne (by rw [heq]), hnot⟩

lemma Answers.popReturning {s : Serve} {h : Handler} {ok : Bool}
    {stack : List (Handler × Stage)} (ha : Answers none sent s)
    (hstack : s.stack = (h, .returning ok) :: stack) : Answers none sent { s with stack } := by
  have hin : s.inHand = ({ s with stack } : Serve).inHand := by
    rw [inHand, hstack]
    rfl
  refine ⟨ha.fresh, ha.once, ha.named, fun entry hentry => ?_, ha.waiting, hin ▸ ha.nodup,
    fun n hn => ?_, fun m request hm hnot hne => ha.done m request hm (hin ▸ hnot) hne⟩
  · exact ha.stack entry (by rw [hstack]; exact List.mem_cons_of_mem _ hentry)
  · cases hn

lemma Answers.take {s : Serve} {i : ℕ} {w : Waiting} (ha : Answers none sent s)
    (hw : s.waiting[i]? = some w) :
    Answers (some w.request) sent { s with waiting := s.waiting.eraseIdx i } := by
  obtain ⟨hlt, hget⟩ := List.getElem?_eq_some_iff.1 hw
  have hperm : (w :: s.waiting.eraseIdx i).Perm s.waiting := by
    rw [← hget]
    exact List.getElem_cons_eraseIdx_perm hlt
  have hin : (w.request :: ({ s with waiting := s.waiting.eraseIdx i } : Serve).inHand).Perm
      s.inHand :=
    List.perm_middle.symm.trans ((hperm.map Waiting.request).append_left (s.stack.filterMap calling))
  have hnodup := hin.nodup_iff.2 ha.nodup
  rw [List.nodup_cons] at hnodup
  refine ⟨ha.fresh, ha.once, ha.named, ha.stack,
    fun other hother => ha.waiting other (List.mem_of_mem_eraseIdx hother), hnodup.2,
    fun n hn => ?_, fun m request hm hnot hne => ?_⟩
  · cases hn
    exact hnodup.1
  · refine ha.done m request hm (fun hmem => ?_) nofun
    rcases List.mem_cons.1 (hin.mem_iff.2 hmem) with heq | hmem
    · exact hne (by rw [heq])
    · exact hnot hmem

lemma Answers.wait {s : Serve} {w : Waiting} (ha : Answers (some w.request) sent s)
    (hsent : s.gate.closed = true ∨ sent w.request = [])
    (hlog : ∃ request, s.log[w.request]? = some (some request) ∧ request.id = w.id) :
    Answers none sent { s with waiting := s.waiting ++ [w] } := by
  have hin : ({ s with waiting := s.waiting ++ [w] } : Serve).inHand = s.inHand ++ [w.request] := by
    rw [inHand, inHand, List.map_append, List.append_assoc]
    rfl
  refine ⟨ha.fresh, ha.once, ha.named, ha.stack, fun other hother => ?_, ?_, fun n hn => ?_,
    fun m request hm hnot hne => ?_⟩
  · rcases List.mem_append.1 hother with hother | hother
    · exact ha.waiting other hother
    · rw [List.mem_singleton] at hother
      rw [hother]
      exact ⟨hsent, hlog⟩
  · rw [hin, List.nodup_append]
    refine ⟨ha.nodup, by simp, fun m hm n hn heq => ?_⟩
    rw [List.mem_singleton] at hn
    rw [heq, hn] at hm
    exact ha.apart _ rfl hm
  · cases hn
  · rw [hin, List.mem_append, List.mem_singleton, not_or] at hnot
    exact ha.done m request hm hnot.1 fun heq => hnot.2 (Option.some.inj heq).symm

lemma HandlerOk.append {log : List (Option RpcRequest)} {closed : Bool}
    {entry : Handler × Stage} (h : HandlerOk log sent closed entry) (more : List (Option RpcRequest)) :
    HandlerOk (log ++ more) sent closed entry := by
  have hget : ∀ (n : ℕ) parsed, log[n]? = some parsed → (log ++ more)[n]? = some parsed := by
    intro n parsed hn
    rw [List.getElem?_append_left (List.getElem?_eq_some_iff.1 hn).1]
    exact hn
  obtain ⟨handler, stage⟩ := entry
  cases stage with
  | returning ok => exact h
  | calling call left =>
    rcases h with ⟨hlog, hrest⟩ | ⟨request, hlog, hrest⟩
    · exact Or.inl ⟨hget _ _ hlog, hrest⟩
    · exact Or.inr ⟨request, hget _ _ hlog, hrest⟩

lemma Answers.arrive {s : Serve} (ha : Answers none sent s) (parsed : Option RpcRequest) :
    Answers (some s.log.length) sent { s with log := s.log ++ [parsed] } := by
  have hget : ∀ (n : ℕ) other, s.log[n]? = some other → (s.log ++ [parsed])[n]? = some other := by
    intro n other hn
    rw [List.getElem?_append_left (List.getElem?_eq_some_iff.1 hn).1]
    exact hn
  have hinHand : ∀ n ∈ s.inHand, n < s.log.length := by
    intro n hn
    rcases List.mem_append.1 hn with hn | hn
    · obtain ⟨⟨handler, stage⟩, hentry, hcalling⟩ := List.mem_filterMap.1 hn
      have hok := ha.stack _ hentry
      cases stage with
      | returning ok => cases hcalling
      | calling call left =>
        cases hcalling
        rcases hok with ⟨hlog, -⟩ | ⟨request, hlog, -⟩
        · exact (List.getElem?_eq_some_iff.1 hlog).1
        · exact (List.getElem?_eq_some_iff.1 hlog).1
    · obtain ⟨w, hw, rfl⟩ := List.mem_map.1 hn
      obtain ⟨-, request, hlog, -⟩ := ha.waiting w hw
      exact (List.getElem?_eq_some_iff.1 hlog).1
  refine ⟨fun n hn => ?_, ha.once, fun n response hresponse => ?_,
    fun entry hentry => (ha.stack entry hentry).append [parsed], fun w hw => ?_, ha.nodup,
    fun n hn hmem => ?_, fun n request hn hnot hne => ?_⟩
  · rw [List.length_append] at hn
    exact ha.fresh n (by omega)
  · obtain ⟨request, hlog, hid⟩ := ha.named n response hresponse
    exact ⟨request, hget n _ hlog, hid⟩
  · obtain ⟨hsent, request, hlog, hid⟩ := ha.waiting w hw
    exact ⟨hsent, request, hget _ _ hlog, hid⟩
  · cases hn
    exact lt_irrefl _ (hinHand _ hmem)
  · refine ha.done n request ?_ hnot nofun
    have hlt : n < s.log.length := by
      have hlength := (List.getElem?_eq_some_iff.1 hn).1
      rw [List.length_append, List.length_singleton] at hlength
      have hne' : n ≠ s.log.length := fun heq => hne (by rw [heq])
      omega
    rw [List.getElem?_append_left hlt] at hn
    exact hn

lemma Answers.gate {s : Serve} {gate : Gate} (ha : Answers none sent s)
    (hclosed : s.gate.closed = true → gate.closed = true) :
    Answers none sent { s with gate } := by
  refine ⟨ha.fresh, ha.once, ha.named, fun entry hentry => ?_, fun w hw => ?_, ha.nodup, nofun,
    fun m request hm hnot hne => (ha.done m request hm hnot hne).imp hclosed id⟩
  · have hok := ha.stack entry hentry
    obtain ⟨handler, stage⟩ := entry
    cases stage with
    | returning ok => exact hok
    | calling call left =>
      rcases hok with hmalformed | ⟨request, hlog, hid, hrest⟩
      · exact Or.inl hmalformed
      · refine Or.inr ⟨request, hlog, hid, ?_⟩
        split at hrest
        · next hanswer =>
          rw [if_pos hanswer]
          exact ⟨hrest.1, hrest.2.imp hclosed id⟩
        · next hanswer =>
          rw [if_neg hanswer]
          exact ⟨hrest.1, hrest.2.imp hclosed id⟩
  · obtain ⟨hsent, hlog⟩ := ha.waiting w hw
    exact ⟨hsent.imp hclosed id, hlog⟩

/-! ## Steps -/

lemma keeps_nothing {s : Serve} (ha : Answers none sent s) : Keeps sent (s, []) := by
  rw [Keeps, addSent_silent sent fun m => rfl]
  exact ⟨ha, List.not_mem_nil⟩

lemma keeps_replied {s : Serve} {h : Handler} {hook : Hook} {reply : Except Thrown Json}
    (hready : Ready sent s h) (hcaught : h.caught = false)
    (hsent : s.gate.closed = true ∨ sent h.request = [])
    (hfits : ∀ error, reply = .error error →
      tooLong s.gate.closed (h.guard.catching h.id error) = false) :
    Keeps sent (s.replied h hook reply) := by
  have hrun : ∀ response : Response, response.id = h.id → Keeps sent (s.run h [.send response]) := by
    intro response hid
    refine keeps_run hready hsent (unanswered_send hid) fun h' => ?_
    rw [hcaught] at h'
    cases h'
  have hraise : ∀ error, reply = .error error → Keeps sent (s.raise h error) :=
    fun error herror => keeps_raise hready hcaught hsent (hfits error herror)
  have hwait : Keeps sent (({ s with waiting := s.waiting ++ [⟨h.request, h.id, hook⟩] } : Serve).leave
      h true) :=
    keeps_leave (hready.answers.wait (w := ⟨h.request, h.id, hook⟩) hsent hready.request) h
  cases hook with
  | reserve spec =>
    cases reply with
    | ok result => exact hrun _ (Hook.resulted_id h.id result (.reserve spec))
    | error error =>
      cases error with
      | custody code message => exact hrun _ rfl
      | refused => exact hraise _ rfl
      | other => exact hraise _ rfl
  | claim ref =>
    cases reply with
    | ok result => exact hwait
    | error error => exact hraise _ rfl
  | listSessions =>
    cases reply with
    | ok result => exact hrun _ (Hook.resulted_id h.id result .listSessions)
    | error error => exact hraise _ rfl
  | options =>
    cases reply with
    | ok result => exact hwait
    | error error => exact hraise _ rfl
  | start params =>
    cases reply with
    | ok result => exact hwait
    | error error => exact hraise _ rfl

lemma keeps_onReturned {s : Serve} (ha : Answers none sent s) {reply : Except Thrown Json}
    (hbreaks : s.breaks (.returned reply) = false) : Keeps sent (s.onReturned reply) := by
  unfold onReturned
  split
  · next h call left stack hhandles hstack =>
    have hpop := ha.pop hstack
    have hok := ha.stack _ (by rw [hstack]; exact List.mem_cons_self)
    rcases hok with ⟨hlog, hcaught, rfl, rfl⟩ | ⟨request, hlog, hid, hrest⟩
    · -- a malformed frame is reported, and gets no response
      cases reply with
      | ok value =>
        refine keeps_leave (hpop.finish fun request hrequest => ?_) h
        rw [show ({ s with stack } : Serve).log = s.log from rfl, hlog] at hrequest
        cases hrequest
      | error error =>
        simp [breaks, hhandles, hstack, hcaught] at hbreaks
    have hready : Ready sent { s with stack } h := ⟨hpop, request, hlog, hid⟩
    cases reply with
    | ok value =>
      have hfits : h.caught = true → tooLong s.gate.closed left = false := by
        intro hcaught
        simpa [breaks, hhandles, hstack, hcaught] using hbreaks
      split at hrest
      · next hanswer =>
        have hrun := keeps_run_behind hready hrest.2 hrest.1
        cases call with
        | hook hook => cases hanswer
        | _ => exact hrun
      · obtain ⟨htodo, hsent⟩ := hrest
        cases call with
        | send response => next hanswer => exact absurd rfl hanswer
        | set ref => cases htodo
        | hook hook =>
          exact keeps_replied ⟨hpop, request, hlog, hid⟩ rfl hsent nofun
        | session ref op => exact keeps_run hready hsent htodo.2 hfits
        | delete ref => exact keeps_run hready hsent htodo hfits
        | touch ref => exact keeps_run hready hsent htodo hfits
        | onError => exact keeps_run hready hsent htodo hfits
    | error error =>
      have hcalm : (h.caught = false ∧ (call.isAnswer = true → s.gate.closed = true)) ∧
          tooLong s.gate.closed ((call.guard h.guard).catching h.id error) = false := by
        simpa [breaks, hhandles, hstack] using hbreaks
      obtain ⟨⟨hcaught, hbehind⟩, hfits⟩ := hcalm
      have hsent : s.gate.closed = true ∨ sent h.request = [] := by
        split at hrest
        · next hanswer => exact Or.inl (hbehind hanswer)
        · exact hrest.2
      have hraise : call.guard h.guard = h.guard → Keeps sent (({ s with stack } : Serve).raise h error) := by
        intro hguard
        rw [hguard] at hfits
        exact keeps_raise hready hcaught hsent hfits
      cases call with
      | hook hook =>
        refine keeps_replied ⟨hpop, request, hlog, hid⟩ rfl hsent fun thrown herror => ?_
        cases herror
        exact hfits
      | _ => exact hraise rfl
  · exact keeps_nothing ha

lemma keeps_onSettled {s : Serve} (ha : Answers none sent s) {i : ℕ}
    {outcome : Except Thrown Json} (hbreaks : s.breaks (.settled i outcome) = false) :
    Keeps sent (s.onSettled i outcome) := by
  unfold onSettled
  split
  · next hidle =>
    split
    · exact keeps_nothing ha
    next w hw =>
    obtain ⟨hsent, hlog⟩ := ha.waiting w (List.mem_of_getElem? hw)
    have hready : Ready sent { s with waiting := s.waiting.eraseIdx i }
        ⟨w.request, w.id, w.hook.guard, false, false⟩ := ⟨ha.take hw, hlog⟩
    cases outcome with
    | ok result =>
      exact keeps_run hready hsent (unanswered_send (w.hook.resulted_id w.id result)) nofun
    | error error =>
      have hfits : tooLong s.gate.closed (w.hook.guard.catching w.id error) = false := by
        simpa [breaks, hidle, hw] using hbreaks
      exact keeps_raise hready rfl hsent hfits
  · exact keeps_nothing ha

/-! ## Frames -/

variable {o : ServeOptions}

lemma keeps_handleRpcPayload {s : Serve} (ha : Answers none sent s) (payload : Bytes) :
    Keeps sent (s.handleRpcPayload o payload) := by
  unfold handleRpcPayload
  dsimp only
  have harrive := ha.arrive (o.parseRequest payload)
  have hget : (s.log ++ [o.parseRequest payload])[s.log.length]? = some (o.parseRequest payload) := by
    simp
  split
  · next hparsed =>
    rw [hparsed] at harrive hget ⊢
    have hcall := harrive.call (h := ⟨s.log.length, [], .dispatch, true, true⟩)
      (Or.inl ⟨hget, rfl, rfl, rfl⟩)
    refine ⟨?_, by simp [clause, stopped, advance]⟩
    rw [addSent_silent sent fun n => rfl]
    exact hcall
  · next request hparsed =>
    rw [hparsed] at harrive hget ⊢
    refine keeps_run ⟨harrive, request, hget, rfl⟩ (Or.inr (ha.fresh _ (le_refl _)))
      (Connection.unanswered_dispatch _ _ _) fun heq => ?_
    cases heq

lemma keeps_teardownAll {s : Serve} (ha : Answers none sent s) : Keeps sent s.teardownAll := by
  have hsilent : Silent s.teardownAll.2 := by
    intro n
    rw [answersIn, List.filterMap_eq_nil_iff]
    intro effect heffect
    rcases List.mem_append.1 heffect with heffect | heffect
    · obtain ⟨ref, -, rfl⟩ := List.mem_map.1 heffect
      rfl
    · obtain ⟨ref, -, rfl⟩ := List.mem_map.1 heffect
      rfl
  refine ⟨?_, by simp [teardownAll]⟩
  rw [addSent_silent sent hsilent]
  exact ha.same ⟨rfl, rfl, rfl, rfl⟩

lemma keeps_perform {s : Serve} (ha : Answers none sent s) (effect : GateEffect) :
    Keeps sent (s.perform o effect) := by
  have hgate : Keeps sent (s, [.gate effect]) := by
    refine ⟨?_, by simp⟩
    rw [addSent_silent sent fun n => rfl]
    exact ha
  cases effect with
  | handleRpcPayload payload => exact keeps_handleRpcPayload ha payload
  | tornDown => exact keeps_teardownAll ha
  | ack ack => exact hgate
  | verifyDevice claim => exact hgate
  | onError error => exact hgate

lemma keeps_foldl (effects : List GateEffect) {r : Serve × List ServeEffect}
    (h : Keeps sent r) :
    Keeps sent (effects.foldl (fun r effect =>
      let next := r.1.perform o effect
      (next.1, r.2 ++ next.2)) r) := by
  induction effects generalizing r with
  | nil => exact h
  | cons effect effects ih => exact ih ((keeps_perform h.1 effect).prepend h.2)

lemma keeps_stepGate {s : Serve} (ha : Answers none sent s) {e : GateEvent}
    (he : e ≠ .handlerReturned false) : Keeps sent (s.stepGate o e) := by
  have hgate := ha.gate (Gate.passes_react o.gate s.gate he).closed
  exact keeps_foldl _ (keeps_nothing hgate)

lemma keeps_onGate {s : Serve} (ha : Answers none sent s) {e : GateEvent}
    (hbreaks : s.breaks (.gate e) = false) : Keeps sent (s.onGate o e) := by
  unfold onGate
  split
  · next ok =>
    split
    · next h result stack _ hstack =>
      split
      · next heq =>
        have htrue : result = true :=
          ha.stack (h, .returning result) (by rw [hstack]; exact List.mem_cons_self)
        refine keeps_stepGate (ha.popReturning hstack) ?_
        rw [heq, htrue]
        exact nofun
      · exact keeps_nothing ha
    · exact keeps_nothing ha
  · split
    · next hello calls hcalls => simp [breaks, hcalls] at hbreaks
    · exact keeps_nothing ha
  · split
    · exact keeps_stepGate ha nofun
    · exact keeps_nothing ha
  · split
    · exact keeps_stepGate ha nofun
    · exact keeps_nothing ha
  · next hnot _ _ _ => exact keeps_stepGate ha fun heq => hnot false heq

/-- A step that breaks nothing keeps the responses right, and no exception leaves it. -/
lemma keeps_react {s : Serve} (ha : Answers none sent s) {e : ServeEvent}
    (hbreaks : s.breaks e = false) : Keeps sent (s.react o e) := by
  cases e with
  | gate e => exact keeps_onGate ha hbreaks
  | returned reply => exact keeps_onReturned ha hbreaks
  | settled i outcome => exact keeps_onSettled ha hbreaks
  | registry registry =>
    exact keeps_nothing (ha.same (t := { s with registry }) ⟨rfl, rfl, rfl, rfl⟩)

/-! ## The log -/

/-- The frames an event brings to a connection that takes them. -/
def received (s : Serve) : ServeEvent → List Bytes
  | .gate e => s.gate.received e
  | .returned _ => []
  | .settled _ _ => []
  | .registry _ => []

/-- Every frame that was received was handled, or is held. -/
def Holds (o : ServeOptions) (frames : List Bytes) (s : Serve) : Prop :=
  (frames.map o.parseRequest).Perm (s.log ++ s.gate.heldFrames.map o.parseRequest)

lemma Holds.same {s t : Serve} {frames : List Bytes} (h : Holds o frames s)
    (hst : SameFrames s t) : Holds o frames t := by
  unfold Holds
  rw [hst.gate, hst.log]
  exact h

lemma Holds.stepGate {s : Serve} {frames : List Bytes} (h : Holds o frames s) {e : GateEvent}
    (he : e ≠ .handlerReturned false) :
    Holds o (frames ++ s.gate.received e) (s.stepGate o e).1 := by
  obtain ⟨hgate, hlog⟩ := s.stepGate_frames (o := o) e
  have hpasses := (Gate.passes_react o.gate s.gate he).frames
  have hjoin : ∀ l m : List Bytes, s.log ++ l.map o.parseRequest ++ m.map o.parseRequest =
      s.log ++ (l ++ m).map o.parseRequest := by
    intro l m
    rw [List.append_assoc, List.map_append]
  unfold Holds
  rw [hgate, hlog, hjoin, List.map_append]
  refine (h.append_right _).trans ?_
  rw [hjoin]
  exact ((hpasses.map o.parseRequest).append_left s.log).symm

lemma Holds.react {s : Serve} {frames : List Bytes} (h : Holds o frames s)
    (ha : Answers none sent s) {e : ServeEvent} (hbreaks : s.breaks e = false) :
    Holds o (frames ++ s.received e) (s.react o e).1 := by
  have hnone : ∀ e : GateEvent, s.gate.received e = [] → Holds o (frames ++ s.gate.received e) s := by
    intro e he
    rw [he, List.append_nil]
    exact h
  cases e with
  | gate e =>
    show Holds o (frames ++ s.gate.received e) (s.onGate o e).1
    unfold onGate
    split
    · next ok =>
      split
      · next handler result stack _ hstack =>
        split
        · next heq =>
          have htrue : result = true :=
            ha.stack (handler, .returning result) (by rw [hstack]; exact List.mem_cons_self)
          have hpop : Holds o frames { s with stack } := h
          refine hpop.stepGate (e := .handlerReturned ok) ?_
          rw [heq, htrue]
          exact nofun
        · exact hnone _ rfl
      · exact hnone _ rfl
    · split
      · next hello calls hcalls => simp [breaks, hcalls] at hbreaks
      · exact hnone _ rfl
    · split
      · exact h.stepGate nofun
      · exact hnone _ rfl
    · split
      · exact h.stepGate nofun
      · exact hnone _ rfl
    · next hnot _ _ _ => exact h.stepGate fun heq => hnot false heq
  | returned reply =>
    rw [show s.received (.returned reply) = [] from rfl, List.append_nil]
    exact h.same (sameFrames_onReturned s reply)
  | settled i outcome =>
    rw [show s.received (.settled i outcome) = [] from rfl, List.append_nil]
    exact h.same (sameFrames_onSettled s i outcome)
  | registry registry =>
    rw [show s.received (.registry registry) = [] from rfl, List.append_nil]
    exact h

lemma drained_react {s : Serve} (h : Gate.Drained o.gate s.gate) (e : ServeEvent) :
    Gate.Drained o.gate (s.react o e).1.gate := by
  rcases s.react_gate (o := o) e with heq | ⟨e', -, heq⟩
  · rw [heq]
    exact h
  · rw [heq]
    exact h.react e'

lemma answers_init (sessionId : Bytes) : Answers none (fun _ => []) (.init sessionId) where
  fresh n hn := rfl
  once n := Nat.zero_le 1
  named n response h := by cases h
  stack entry h := by cases h
  waiting w h := by cases h
  nodup := List.nodup_nil
  apart n h := by cases h
  done n request h := by cases h

end Serve

/-! ## A peer that asks for a method there is not -/

/-- The text of a request without params. -/
def requestPayload (id method : JsString) : Bytes :=
  utf8 (stringify (.obj [(js "id", .str id), (js "method", .str method)]))

/-- A connection without hooks, whose peer asks for a method there is not. -/
def unknownOptions (id : JsString) : ServeOptions where
  gate :=
    { parseHello := fun _ => some ⟨.controller, protocolVersion, [], [], [], []⟩
      capabilities := []
      verifyDevice := false }
  parseRequest payload :=
    if payload = requestPayload id (js "x") then some ⟨id, js "x", none⟩ else none
  parseParams _ _ := .error .null
  custody := false
  listSessions := false
  launch := false

/-- The `Hello`, the request, and the return of `onError`. -/
def unknownRun (id : JsString) : List ServeEvent :=
  [.gate (.frame ⟨.control, []⟩), .gate (.ackReturned true),
    .gate (.frame ⟨.control, requestPayload id (js "x")⟩), .returned (.ok .null)]

/-! ## The contract -/

section Runs

variable (o : ServeOptions) (sessionId : Bytes)

/-- The effects of a run. -/
def serveEffects (es : List ServeEvent) : List ServeEffect :=
  (serveMachine o sessionId).outputs (fun s e => (s.react o e).2) es

/-- The control frames of a run that a connection took, behind its `Hello`. -/
def serveReceived (es : List ServeEvent) : List Bytes :=
  (serveMachine o sessionId).outputs Serve.received es

end Runs

/-- What the peers of a served connection, and the process it runs in, rely on over a run: no
exception leaves it; no request gets two responses, and each response has the id of its request; a
request that is in nobody's hand has its response while the connection is open; no frame is lost, and
every one has been handled where the connection serves and no code runs. -/
structure ServeContract (o : ServeOptions) (sessionId : Bytes) (es : List ServeEvent) : Prop where
  caught : ServeEffect.uncaught ∉ serveEffects o sessionId es
  once : ∀ n, (answersIn (serveEffects o sessionId es) n).length ≤ 1
  named : ∀ n response, response ∈ answersIn (serveEffects o sessionId es) n →
    ∃ request, ((serveMachine o sessionId).run es).log[n]? = some (some request) ∧
      response.id = request.id
  answered : ∀ n request, ((serveMachine o sessionId).run es).log[n]? = some (some request) →
    n ∉ ((serveMachine o sessionId).run es).inHand →
    ((serveMachine o sessionId).run es).gate.closed = false →
      (answersIn (serveEffects o sessionId es) n).length = 1
  frames : ((serveReceived o sessionId es).map o.parseRequest).Perm
    (((serveMachine o sessionId).run es).log ++
      ((serveMachine o sessionId).run es).gate.heldFrames.map o.parseRequest)
  handled : ((serveMachine o sessionId).run es).gate.phase = .serving →
    ((serveMachine o sessionId).run es).gate.calls = [] →
      ((serveMachine o sessionId).run es).gate.heldFrames = []

lemma quoteUnits_replicate (n : ℕ) : quoteUnits (List.replicate n 0x61) = List.replicate n 0x61 := by
  induction n with
  | zero => rfl
  | succ n ih =>
    cases n with
    | zero => rfl
    | succ n =>
      rw [List.replicate_succ, List.replicate_succ, quoteUnits, ← List.replicate_succ, ih]
      rfl

lemma length_requestPayload (n : ℕ) :
    (requestPayload (List.replicate n 0x61) (js "x")).length = n + 22 := by
  have htext : stringify (.obj [(js "id", .str (List.replicate n 0x61)), (js "method", .str (js "x"))]) =
      js "\x7b\"id\":\"" ++ List.replicate n 0x61 ++ js "\",\"method\":\"x\"\x7d" := by
    simp only [stringify, stringifyFields, quote, quoteUnits_replicate, List.append_assoc]
    rfl
  have hascii : isAscii (js "\x7b\"id\":\"" ++ List.replicate n 0x61 ++
      js "\",\"method\":\"x\"\x7d") = true := by
    have hhead : isAscii (js "\x7b\"id\":\"") = true := by decide
    have htail : isAscii (js "\",\"method\":\"x\"\x7d") = true := by decide
    have hid : isAscii (List.replicate n 0x61) = true := by
      rw [isAscii, List.all_replicate]
      simp
    rw [isAscii] at *
    rw [List.all_append, List.all_append, hhead, hid, htail]
    rfl
  rw [requestPayload, htext, length_utf8_of_isAscii hascii, List.length_append, List.length_append,
    List.length_replicate]
  have hhead : (js "\x7b\"id\":\"").length = 7 := by decide
  have htail : (js "\",\"method\":\"x\"\x7d").length = 15 := by decide
  omega

/-- The connection that serves, before the request. -/
def servingGate : Gate :=
  { phase := .serving
    closed := false
    timer := false
    negotiated := []
    buffered := []
    sessionId := some []
    pending := []
    calls := [] }

section Unknown

variable {id : JsString}

lemma handleRpcPayload_unknown (s : Serve) (hopen : s.gate.closed = false)
    (hlong : ∀ code message, ¬ fitsRecord (Response.failed id code message).payload) :
    s.handleRpcPayload (unknownOptions id) (requestPayload id (js "x")) =
      ({ s with
          log := s.log ++ [some ⟨id, js "x", none⟩]
          stack := (⟨s.log.length, id, .dispatch, true, true⟩,
            .calling .onError [.send (internalError id)]) :: s.stack }, [.onError]) := by
  have hparsed : (unknownOptions id).parseRequest (requestPayload id (js "x")) =
      some ⟨id, js "x", none⟩ := if_pos rfl
  have hunknown : methodOf (js "x") = none := by decide
  simp only [Serve.handleRpcPayload, hparsed, Connection.dispatch, hunknown, Serve.run, Serve.advance,
    hopen, Bool.false_eq_true, if_false, hlong, Serve.stopped, Serve.raise, Serve.clause,
    Guard.catching, Option.map_some, Option.getD_some, Option.isNone_some, List.nil_append]

lemma onReturned_unknown (s : Serve) {request : ℕ} {stack : List (Handler × Stage)}
    {left : List Bytes} {calls : List Call} (hopen : s.gate.closed = false)
    (hcalls : s.gate.calls = .handle left :: calls)
    (hstack : s.stack = (⟨request, id, .dispatch, true, true⟩,
      .calling .onError [.send (internalError id)]) :: stack)
    (hlong : ∀ code message, ¬ fitsRecord (Response.failed id code message).payload) :
    (s.onReturned (.ok .null)).2 = [.uncaught] := by
  have hhandles : s.handles = true := by rw [Serve.handles, hcalls]
  simp only [Serve.onReturned, hhandles, hstack, Serve.run, Serve.advance, hopen, internalError,
    Bool.false_eq_true, if_false, hlong, Serve.stopped, Serve.raise, if_true, Serve.leave,
    List.nil_append]

lemma uncaught_mem_unknown
    (hlong : ∀ code message, ¬ fitsRecord (Response.failed id code message).payload) :
    .uncaught ∈ serveEffects (unknownOptions id) [] (unknownRun id) := by
  have hserving : (serveMachine (unknownOptions id) []).run ((unknownRun id).take 2) =
      { Serve.init [] with gate := servingGate } := rfl
  have hframe : ({ Serve.init [] with gate := servingGate } : Serve).react (unknownOptions id)
      (.gate (.frame ⟨.control, requestPayload id (js "x")⟩)) =
        Serve.handleRpcPayload (unknownOptions id)
          { Serve.init [] with gate := { servingGate with calls := [.handle []] } }
          (requestPayload id (js "x")) := rfl
  have hrun : (serveMachine (unknownOptions id) []).run ((unknownRun id).take 3) =
      { Serve.init [] with
        gate := { servingGate with calls := [.handle []] }
        log := [some ⟨id, js "x", none⟩]
        stack := [(⟨0, id, .dispatch, true, true⟩, .calling .onError [.send (internalError id)])] } := by
    rw [show (unknownRun id).take 3 = (unknownRun id).take 2 ++
      [.gate (.frame ⟨.control, requestPayload id (js "x")⟩)] from rfl, Machine.run_snoc, hserving]
    show (Serve.react _ _ _).1 = _
    rw [hframe, handleRpcPayload_unknown _ rfl hlong]
    rfl
  rw [serveEffects, show unknownRun id = (unknownRun id).take 3 ++ [.returned (.ok .null)] from rfl,
    Machine.outputs_snoc, hrun, List.mem_append]
  refine Or.inr ?_
  show ServeEffect.uncaught ∈ (Serve.onReturned _ _).2
  rw [onReturned_unknown _ rfl rfl rfl hlong]
  exact List.mem_singleton_self _

end Unknown

/-- The longest id with which such a request fits a record. -/
def longId : JsString := List.replicate (maxRecordBytes - recordOverheadBytes - 22) 0x61

end Pherry.Host
