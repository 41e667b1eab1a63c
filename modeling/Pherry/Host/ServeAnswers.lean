import Pherry.Host.Serve

/-!
# One response for each request

What a handler still has to do says whether its request was answered: ahead of the answer stand calls
that may throw into the catch clause, which answers too; behind it stand only the session's
`subscribe` and the bookkeeping of it.
-/

namespace Pherry.Host

open Lib Protocol

/-! ## What is left to do -/

/-- What may follow the response of a request. -/
def Todo.isBehind : Todo → Bool
  | session _ .subscribe => true
  | set _ => true
  | _ => false

/-- A call that is made when the request has been answered, or is the answer. -/
def Todo.isAnswer : Todo → Bool
  | send _ => true
  | session _ .subscribe => true
  | _ => false

/-- A handler of this request has not answered it, and will. -/
def Unanswered (id : JsString) : List Todo → Prop
  | .send response :: left => response.id = id ∧ left.all Todo.isBehind = true
  | .hook _ :: left => left = []
  | .session _ op :: left => op ≠ .subscribe ∧ Unanswered id left
  | .delete _ :: left => Unanswered id left
  | .touch _ :: left => Unanswered id left
  | .onError :: left => Unanswered id left
  | .set _ :: _ => False
  | [] => False

lemma unanswered_send {id : JsString} {response : Response} (h : response.id = id) :
    Unanswered id [.send response] := ⟨h, rfl⟩

namespace Connection

variable (c : Connection) (id : JsString)

lemma unanswered_gated (method : Method) {todo : List Todo} (h : Unanswered id todo) :
    Unanswered id (c.gated id method todo) := by
  unfold gated
  split
  · exact h
  · split
    · exact h
    · exact unanswered_send rfl

lemma unanswered_teardown (ref : SessionRef) (departed : Bool) {left : List Todo}
    (h : Unanswered id left) : Unanswered id (c.teardown ref departed ++ left) := by
  unfold teardown
  split
  · cases departed with
    | true => exact ⟨nofun, nofun, h⟩
    | false => exact ⟨nofun, h⟩
  · exact h

lemma unanswered_subscribe (params : SubscribeParams) :
    Unanswered id (c.handleSubscribe id params) := by
  unfold handleSubscribe
  split
  · exact unanswered_send rfl
  split
  · exact unanswered_send rfl
  · dsimp only
    rw [List.append_assoc]
    apply unanswered_teardown
    cases params.viewport with
    | none => exact ⟨rfl, rfl⟩
    | some size => exact ⟨nofun, rfl, rfl⟩

lemma unanswered_hooked (present : Bool) (method : Method) (hook : Hook) :
    Unanswered id (hooked present id method hook) := by
  unfold hooked
  split
  · rfl
  · exact unanswered_send rfl

lemma unanswered_serve (method : Method) (params : ParamsOf method) :
    Unanswered id (c.serve id method params) := by
  cases method with
  | subscribe => exact c.unanswered_gated id .subscribe (c.unanswered_subscribe id params)
  | unsubscribe => exact c.unanswered_teardown id params true (unanswered_send rfl)
  | input =>
    apply c.unanswered_gated id .input
    unfold handleInput
    split
    · exact unanswered_send rfl
    · exact ⟨nofun, rfl, rfl⟩
  | resize =>
    apply c.unanswered_gated id .resize
    unfold handleResize
    split
    · exact unanswered_send rfl
    · exact ⟨nofun, rfl, rfl⟩
  | reserve => exact unanswered_hooked id _ _ _
  | claim => exact unanswered_hooked id _ _ _
  | list => exact unanswered_hooked id _ _ _
  | options => exact c.unanswered_gated id .options (unanswered_hooked id _ _ _)
  | start => exact c.unanswered_gated id .start (unanswered_hooked id _ _ _)
  | approve => exact unanswered_send rfl
  | spawn => exact unanswered_send rfl
  | raise => exact unanswered_send rfl

lemma unanswered_dispatch
    (parseParams : (method : Method) → Option Json → Except Json (ParamsOf method))
    (request : RpcRequest) : Unanswered request.id (c.dispatch parseParams request) := by
  unfold dispatch
  split
  · exact unanswered_send rfl
  split
  · exact unanswered_send rfl
  · exact c.unanswered_serve request.id _ _

end Connection

lemma Guard.unanswered_catching (id : JsString) (guard : Guard) (error : Thrown) :
    Unanswered id (guard.catching id error) := by
  unfold Guard.catching
  split
  · exact unanswered_send rfl
  · exact unanswered_send rfl
  · exact @unanswered_send id _ rfl

lemma Hook.resulted_id (id : JsString) (result : Json) (hook : Hook) :
    (hook.resulted id result).id = id := by cases hook <;> rfl

/-! ## Answers among effects -/

/-- The response an effect sends to a request. -/
def answerTo (n : ℕ) : ServeEffect → Option Response
  | .respond request response => if request = n then some response else none
  | _ => none

/-- The responses that effects send to a request. -/
def answersIn (effects : List ServeEffect) (n : ℕ) : List Response := effects.filterMap (answerTo n)

lemma answersIn_append (effects more : List ServeEffect) (n : ℕ) :
    answersIn (effects ++ more) n = answersIn effects n ++ answersIn more n :=
  List.filterMap_append

lemma answersIn_self (n : ℕ) (response : Response) :
    answersIn [.respond n response] n = [response] := by simp [answersIn, answerTo]

lemma answersIn_other {m n : ℕ} (h : m ≠ n) (response : Response) :
    answersIn [.respond m response] n = [] := by simp [answersIn, answerTo, h]

namespace Serve

/-! ## A handler up to its next call -/

/-- Only the bookkeeping of subscriptions changed. -/
structure SameServe (s t : Serve) : Prop where
  gate : t.gate = s.gate
  log : t.log = s.log
  stack : t.stack = s.stack
  waiting : t.waiting = s.waiting

lemma SameServe.refl (s : Serve) : SameServe s s := ⟨rfl, rfl, rfl, rfl⟩

lemma advance_same (s : Serve) (n : ℕ) (todo : List Todo) : SameServe s (s.advance n todo).1 := by
  induction todo generalizing s with
  | nil => exact .refl s
  | cons first left ih =>
    cases first with
    | send response =>
      unfold advance
      split
      · exact ih s
      · split <;> exact .refl s
    | delete ref =>
      obtain ⟨hgate, hlog, hstack, hwaiting⟩ := ih { s with subscriptions := s.subscriptions.filter (· ≠ ref) }
      exact ⟨hgate, hlog, hstack, hwaiting⟩
    | touch ref =>
      obtain ⟨hgate, hlog, hstack, hwaiting⟩ := ih { s with touched := addRef s.touched ref }
      exact ⟨hgate, hlog, hstack, hwaiting⟩
    | set ref =>
      obtain ⟨hgate, hlog, hstack, hwaiting⟩ := ih { s with subscriptions := addRef s.subscriptions ref }
      exact ⟨hgate, hlog, hstack, hwaiting⟩
    | session ref op => exact .refl s
    | hook hook => exact .refl s
    | onError => exact .refl s

/-- Effects without a response. -/
def Silent (effects : List ServeEffect) : Prop := ∀ n, answersIn effects n = []

/-- Effects with the response of a request, or none where the connection is closed. -/
structure Answering (closed : Bool) (n : ℕ) (id : JsString) (effects : List ServeEffect) : Prop where
  others : ∀ m ≠ n, answersIn effects m = []
  answer : (closed = true ∧ answersIn effects n = []) ∨
    (closed = false ∧ ∃ response, response.id = id ∧ answersIn effects n = [response])

/-- Where a handler stops that had yet to answer. -/
def StopsAt (closed : Bool) (n : ℕ) (id : JsString) (effects : List ServeEffect) : Stop → Prop
  | .ended => closed = true ∧ Silent effects
  | .threw => Silent effects
  | .called call left =>
    if call.isAnswer then left.all Todo.isBehind = true ∧ Answering closed n id effects
    else Unanswered id (call :: left) ∧ Silent effects

/-- Where a handler stops that has answered. -/
def StopsBehind (effects : List ServeEffect) : Stop → Prop
  | .ended => Silent effects
  | .threw => False
  | .called call left =>
    Todo.isAnswer call = true ∧ left.all Todo.isBehind = true ∧ Silent effects

lemma advance_behind (s : Serve) (n : ℕ) {todo : List Todo} (h : todo.all Todo.isBehind = true) :
    StopsBehind (s.advance n todo).2.1 (s.advance n todo).2.2 := by
  induction todo generalizing s with
  | nil => exact fun m => rfl
  | cons first left ih =>
    rw [List.all_cons, Bool.and_eq_true] at h
    cases first with
    | set ref => exact ih { s with subscriptions := addRef s.subscriptions ref } h.2
    | session ref op =>
      cases op with
      | subscribe => exact ⟨rfl, h.2, fun m => rfl⟩
      | unsubscribe => cases h.1
      | observeViewer size => cases h.1
      | resizeViewer size => cases h.1
      | releaseViewer => cases h.1
      | write dataB64 => cases h.1
    | send response => cases h.1
    | delete ref => cases h.1
    | touch ref => cases h.1
    | hook hook => cases h.1
    | onError => cases h.1

lemma advance_unanswered (s : Serve) (n : ℕ) {id : JsString} {todo : List Todo}
    (h : Unanswered id todo) :
    StopsAt s.gate.closed n id (s.advance n todo).2.1 (s.advance n todo).2.2 := by
  induction todo generalizing s with
  | nil => cases h
  | cons first left ih =>
    cases first with
    | send response =>
      obtain ⟨hid, hbehind⟩ := h
      unfold advance
      cases hclosed : s.gate.closed with
      | true =>
        rw [if_pos rfl]
        have hstops := s.advance_behind n hbehind
        cases hstop : (s.advance n left).2.2 with
        | ended =>
          rw [hstop] at hstops
          exact ⟨rfl, hstops⟩
        | threw =>
          rw [hstop] at hstops
          cases hstops
        | called call rest =>
          rw [hstop] at hstops
          obtain ⟨hanswer, hrest, hsilent⟩ := hstops
          rw [StopsAt, if_pos hanswer]
          exact ⟨hrest, fun m _ => hsilent m, Or.inl ⟨rfl, hsilent n⟩⟩
      | false =>
        rw [if_neg Bool.false_ne_true]
        split
        · exact ⟨hbehind, fun m hm => answersIn_other (Ne.symm hm) response,
            Or.inr ⟨rfl, response, hid, answersIn_self n response⟩⟩
        · exact fun m => rfl
    | delete ref => exact ih { s with subscriptions := s.subscriptions.filter (· ≠ ref) } h
    | touch ref => exact ih { s with touched := addRef s.touched ref } h
    | set ref => cases h
    | session ref op =>
      have hnot : (Todo.session ref op).isAnswer = false := by
        cases op with
        | subscribe => exact absurd rfl h.1
        | _ => rfl
      unfold advance
      rw [StopsAt, if_neg (by rw [hnot]; exact Bool.false_ne_true)]
      exact ⟨h, fun m => rfl⟩
    | hook hook => exact ⟨h, fun m => rfl⟩
    | onError => exact ⟨h, fun m => rfl⟩

/-- Whether a handler with this left to do throws before its next call: the response it sends is too
long for a record. -/
def tooLong (closed : Bool) : List Todo → Bool
  | .send response :: left => if closed then tooLong closed left else !decide (fitsRecord response.payload)
  | .delete _ :: left => tooLong closed left
  | .touch _ :: left => tooLong closed left
  | .set _ :: left => tooLong closed left
  | .session _ _ :: _ => false
  | .hook _ :: _ => false
  | .onError :: _ => false
  | [] => false

lemma advance_threw (s : Serve) (n : ℕ) {todo : List Todo}
    (h : tooLong s.gate.closed todo = false) : (s.advance n todo).2.2 ≠ .threw := by
  induction todo generalizing s with
  | nil => exact nofun
  | cons first left ih =>
    cases first with
    | send response =>
      unfold tooLong at h
      unfold advance
      split at h
      · next hclosed =>
        rw [if_pos hclosed]
        exact ih s h
      · next hopen =>
        rw [if_neg hopen, if_pos (by simpa using h)]
        exact nofun
    | delete ref => exact ih { s with subscriptions := s.subscriptions.filter (· ≠ ref) } h
    | touch ref => exact ih { s with touched := addRef s.touched ref } h
    | set ref => exact ih { s with subscriptions := addRef s.subscriptions ref } h
    | session ref op => exact nofun
    | hook hook => exact nofun
    | onError => exact nofun

/-! ## The invariant -/

/-- The request of a handler that waits for a call. -/
def calling : Handler × Stage → Option ℕ
  | (h, .calling _ _) => some h.request
  | (_, .returning _) => none

/-- The requests that are in hand. -/
def inHand (s : Serve) : List ℕ :=
  s.stack.filterMap calling ++ s.waiting.map Waiting.request

/-- What holds of a handler on the stack, given the responses that were sent. -/
def HandlerOk (log : List (Option RpcRequest)) (sent : ℕ → List Response) (closed : Bool) :
    Handler × Stage → Prop
  | (_, .returning ok) => ok = true
  | (h, .calling call left) =>
    (log[h.request]? = some none ∧ h.caught = true ∧ call = .onError ∧ left = []) ∨
      ∃ request, log[h.request]? = some (some request) ∧ request.id = h.id ∧
        if call.isAnswer then
          left.all Todo.isBehind = true ∧ (closed = true ∨ (sent h.request).length = 1)
        else Unanswered h.id (call :: left) ∧ (closed = true ∨ sent h.request = [])

/-- The responses that were sent fit the requests that were handled, where one of them may be between
two steps. -/
structure Answers (between : Option ℕ) (sent : ℕ → List Response) (s : Serve) : Prop where
  fresh : ∀ n, s.log.length ≤ n → sent n = []
  once : ∀ n, (sent n).length ≤ 1
  named : ∀ n response, response ∈ sent n →
    ∃ request, s.log[n]? = some (some request) ∧ response.id = request.id
  stack : ∀ entry ∈ s.stack, HandlerOk s.log sent s.gate.closed entry
  waiting : ∀ w ∈ s.waiting, (s.gate.closed = true ∨ sent w.request = []) ∧
    ∃ request, s.log[w.request]? = some (some request) ∧ request.id = w.id
  nodup : s.inHand.Nodup
  apart : ∀ n, between = some n → n ∉ s.inHand
  done : ∀ n request, s.log[n]? = some (some request) → n ∉ s.inHand → between ≠ some n →
    s.gate.closed = true ∨ (sent n).length = 1

/-- The responses after more effects. -/
def addSent (sent : ℕ → List Response) (effects : List ServeEffect) : ℕ → List Response :=
  fun n => sent n ++ answersIn effects n

lemma addSent_silent (sent : ℕ → List Response) {effects : List ServeEffect}
    (h : Silent effects) : addSent sent effects = sent := by
  funext n
  rw [addSent, h n, List.append_nil]

lemma addSent_append (sent : ℕ → List Response) (effects more : List ServeEffect) :
    addSent sent (effects ++ more) = addSent (addSent sent effects) more := by
  funext n
  rw [addSent, addSent, addSent, answersIn_append, List.append_assoc]

variable {sent : ℕ → List Response} {between : Option ℕ}

lemma Answers.same {s t : Serve} (h : Answers between sent s) (hst : SameServe s t) :
    Answers between sent t := by
  have hin : t.inHand = s.inHand := by rw [inHand, inHand, hst.stack, hst.waiting]
  refine ⟨?_, h.once, ?_, ?_, ?_, ?_, ?_, ?_⟩
  · rw [hst.log]
    exact h.fresh
  · rw [hst.log]
    exact h.named
  · rw [hst.stack, hst.log, hst.gate]
    exact h.stack
  · rw [hst.waiting, hst.log, hst.gate]
    exact h.waiting
  · rw [hin]
    exact h.nodup
  · rw [hin]
    exact h.apart
  · rw [hin, hst.log, hst.gate]
    exact h.done

lemma mem_inHand_stack {s : Serve} {h : Handler} {call : Todo} {left : List Todo}
    (hmem : (h, Stage.calling call left) ∈ s.stack) : h.request ∈ s.inHand :=
  List.mem_append_left _ (List.mem_filterMap.2 ⟨_, hmem, rfl⟩)

lemma mem_inHand_waiting {s : Serve} {w : Waiting} (hmem : w ∈ s.waiting) :
    w.request ∈ s.inHand :=
  List.mem_append_right _ (List.mem_map_of_mem hmem)

lemma Answers.answer {s : Serve} {n : ℕ} {id : JsString} {request : RpcRequest}
    {effects : List ServeEffect} (h : Answers (some n) sent s)
    (hlog : s.log[n]? = some (some request)) (hid : request.id = id)
    (hsent : s.gate.closed = true ∨ sent n = [])
    (heffects : Answering s.gate.closed n id effects) :
    Answers (some n) (addSent sent effects) s ∧
      (s.gate.closed = true ∨ (addSent sent effects n).length = 1) := by
  rcases heffects.answer with ⟨hclosed, hnone⟩ | ⟨hopen, response, hresponse, hsome⟩
  · have hsilent : Silent effects := by
      intro m
      by_cases hm : m = n
      · rw [hm]
        exact hnone
      · exact heffects.others m hm
    rw [addSent_silent sent hsilent]
    exact ⟨h, Or.inl hclosed⟩
  have hnone : sent n = [] := by
    rcases hsent with hclosed | hnone
    · rw [hopen] at hclosed
      cases hclosed
    · exact hnone
  have hself : addSent sent effects n = [response] := by rw [addSent, hnone, hsome, List.nil_append]
  have hother : ∀ m ≠ n, addSent sent effects m = sent m := by
    intro m hm
    rw [addSent, heffects.others m hm, List.append_nil]
  have hhand : ∀ m ∈ s.inHand, addSent sent effects m = sent m := by
    intro m hm
    apply hother
    rintro rfl
    exact h.apart m rfl hm
  have hlt : n < s.log.length := (List.getElem?_eq_some_iff.1 hlog).1
  refine ⟨⟨fun m hm => ?_, fun m => ?_, fun m other hother' => ?_, fun entry hentry => ?_,
    fun w hw => ?_, h.nodup, h.apart, fun m other hm hnot hne => ?_⟩, Or.inr (by rw [hself]; rfl)⟩
  · rw [hother m (by omega)]
    exact h.fresh m hm
  · by_cases hm : m = n
    · rw [hm, hself]
      exact le_refl 1
    · rw [hother m hm]
      exact h.once m
  · by_cases hm : m = n
    · rw [hm, hself, List.mem_singleton] at hother'
      exact ⟨request, hm ▸ hlog, by rw [hother', hresponse, hid]⟩
    · rw [hother m hm] at hother'
      exact h.named m other hother'
  · have hok := h.stack entry hentry
    obtain ⟨handler, stage⟩ := entry
    cases stage with
    | returning ok => exact hok
    | calling call left =>
      simp only [HandlerOk] at hok ⊢
      rw [hhand handler.request (mem_inHand_stack hentry)]
      exact hok
  · rw [hhand w.request (mem_inHand_waiting hw)]
    exact h.waiting w hw
  · rw [hother m fun heq => hne (by rw [heq])]
    exact h.done m other hm hnot hne

lemma Answers.call {s : Serve} {h : Handler} {call : Todo} {left : List Todo}
    (ha : Answers (some h.request) sent s)
    (hok : HandlerOk s.log sent s.gate.closed (h, .calling call left)) :
    Answers none sent { s with stack := (h, .calling call left) :: s.stack } := by
  have hin : ({ s with stack := (h, .calling call left) :: s.stack } : Serve).inHand =
      h.request :: s.inHand := rfl
  refine ⟨ha.fresh, ha.once, ha.named, fun entry hentry => ?_, ha.waiting, ?_, nofun,
    fun m other hm hnot _ => ?_⟩
  · rcases List.mem_cons.1 hentry with rfl | hentry
    · exact hok
    · exact ha.stack entry hentry
  · rw [hin, List.nodup_cons]
    exact ⟨ha.apart _ rfl, ha.nodup⟩
  · rw [hin, List.mem_cons, not_or] at hnot
    exact ha.done m other hm hnot.2 fun heq => hnot.1 (Option.some.inj heq).symm

lemma Answers.finish {s : Serve} {n : ℕ} (ha : Answers (some n) sent s)
    (hdone : ∀ request, s.log[n]? = some (some request) →
      s.gate.closed = true ∨ (sent n).length = 1) : Answers none sent s := by
  refine ⟨ha.fresh, ha.once, ha.named, ha.stack, ha.waiting, ha.nodup, nofun,
    fun m request hm hnot _ => ?_⟩
  by_cases heq : m = n
  · rw [heq] at hm ⊢
    exact hdone request hm
  · exact ha.done m request hm hnot fun h' => heq (Option.some.inj h').symm

lemma Answers.leave {s : Serve} (ha : Answers none sent s) (h : Handler) :
    Answers none sent (s.leave h true).1 := by
  unfold Serve.leave
  dsimp only
  split
  · refine ⟨ha.fresh, ha.once, ha.named, fun entry hentry => ?_, ha.waiting, ha.nodup, nofun,
      ha.done⟩
    rcases List.mem_cons.1 hentry with rfl | hentry
    · rfl
    · exact ha.stack entry hentry
  · exact ha

/-! ## Steps of a handler -/

lemma advance_caught (s : Serve) (n : ℕ) (todo : List Todo) :
    ServeEffect.uncaught ∉ (s.advance n todo).2.1 := by
  induction todo generalizing s with
  | nil => exact List.not_mem_nil
  | cons first left ih =>
    cases first with
    | send response =>
      unfold advance
      split
      · exact ih s
      · split <;> simp
    | delete ref => exact ih { s with subscriptions := s.subscriptions.filter (· ≠ ref) }
    | touch ref => exact ih { s with touched := addRef s.touched ref }
    | set ref => exact ih { s with subscriptions := addRef s.subscriptions ref }
    | session ref op => simp [advance]
    | hook hook => simp [advance]
    | onError => simp [advance]

/-- A step that keeps the invariant, and that no exception leaves. -/
def Keeps (sent : ℕ → List Response) (r : Serve × List ServeEffect) : Prop :=
  Answers none (addSent sent r.2) r.1 ∧ ServeEffect.uncaught ∉ r.2

lemma Keeps.prepend {effects : List ServeEffect} {r : Serve × List ServeEffect}
    (h : Keeps (addSent sent effects) r) (hcaught : ServeEffect.uncaught ∉ effects) :
    Keeps sent (r.1, effects ++ r.2) := by
  refine ⟨?_, ?_⟩
  · rw [addSent_append]
    exact h.1
  · rw [List.mem_append, not_or]
    exact ⟨hcaught, h.2⟩

/-- A handler that may go on: its request is in nobody's hand. -/
structure Ready (sent : ℕ → List Response) (s : Serve) (h : Handler) : Prop where
  answers : Answers (some h.request) sent s
  request : ∃ request, s.log[h.request]? = some (some request) ∧ request.id = h.id

lemma keeps_leave {s : Serve} (ha : Answers none sent s) (h : Handler) :
    Keeps sent (s.leave h true) := by
  have hnone : (s.leave h true).2 = [] := by
    unfold Serve.leave
    dsimp only
    split <;> rfl
  rw [Keeps, hnone, addSent_silent sent fun m => rfl]
  exact ⟨ha.leave h, List.not_mem_nil⟩

lemma keeps_stopped {s : Serve} {h : Handler} {todo : List Todo}
    {threw : Serve → Serve × List ServeEffect} (hready : Ready sent s h)
    (hsent : s.gate.closed = true ∨ sent h.request = []) (htodo : Unanswered h.id todo)
    (hthrew : (s.advance h.request todo).2.2 = .threw →
      Keeps sent (threw (s.advance h.request todo).1)) :
    Keeps sent (stopped h (s.advance h.request todo) threw) := by
  obtain ⟨request, hlog, hid⟩ := hready.request
  have hsame := s.advance_same h.request todo
  have hcaught := s.advance_caught h.request todo
  have hstops := s.advance_unanswered h.request htodo
  generalize s.advance h.request todo = r at *
  obtain ⟨t, effects, stop⟩ := r
  have ht := hready.answers.same hsame
  rw [← hsame.gate] at hstops hsent
  rw [← hsame.log] at hlog
  unfold stopped
  cases stop with
  | ended =>
    obtain ⟨hclosed, hsilent⟩ := hstops
    refine Keeps.prepend ?_ hcaught
    rw [addSent_silent sent hsilent]
    exact keeps_leave (ht.finish fun _ _ => Or.inl hclosed) h
  | threw =>
    have hsilent : Silent effects := hstops
    refine Keeps.prepend ?_ hcaught
    rw [addSent_silent sent hsilent]
    exact hthrew rfl
  | called call left =>
    simp only [StopsAt] at hstops
    cases hanswer : call.isAnswer with
    | true =>
      rw [if_pos hanswer] at hstops
      obtain ⟨hanswers, hone⟩ := ht.answer hlog hid hsent hstops.2
      refine ⟨hanswers.call (Or.inr ⟨request, hlog, hid, ?_⟩), hcaught⟩
      rw [if_pos hanswer]
      exact ⟨hstops.1, hone⟩
    | false =>
      rw [if_neg (by rw [hanswer]; exact Bool.false_ne_true)] at hstops
      obtain ⟨hleft, hsilent⟩ := hstops
      refine ⟨?_, hcaught⟩
      dsimp only
      rw [addSent_silent sent hsilent]
      refine ht.call (Or.inr ⟨request, hlog, hid, ?_⟩)
      rw [if_neg (by rw [hanswer]; exact Bool.false_ne_true)]
      exact ⟨hleft, hsent⟩

lemma keeps_clause {s : Serve} {h : Handler} {todo : List Todo} (hready : Ready sent s h)
    (hsent : s.gate.closed = true ∨ sent h.request = []) (htodo : Unanswered h.id todo)
    (hfits : tooLong s.gate.closed todo = false) : Keeps sent (s.clause h todo) :=
  keeps_stopped hready hsent htodo fun hthrew => absurd hthrew (s.advance_threw h.request hfits)

lemma keeps_raise {s : Serve} {h : Handler} {error : Thrown} (hready : Ready sent s h)
    (hcaught : h.caught = false) (hsent : s.gate.closed = true ∨ sent h.request = [])
    (hfits : tooLong s.gate.closed (h.guard.catching h.id error) = false) :
    Keeps sent (s.raise h error) := by
  unfold raise
  rw [if_neg (by rw [hcaught]; exact Bool.false_ne_true)]
  have hready' : Ready sent s { h with caught := true } := ⟨hready.answers, hready.request⟩
  exact keeps_clause hready' hsent (h.guard.unanswered_catching h.id error) hfits

lemma keeps_run {s : Serve} {h : Handler} {todo : List Todo} (hready : Ready sent s h)
    (hsent : s.gate.closed = true ∨ sent h.request = []) (htodo : Unanswered h.id todo)
    (hfits : h.caught = true → tooLong s.gate.closed todo = false) :
    Keeps sent (s.run h todo) := by
  refine keeps_stopped hready hsent htodo fun hthrew => ?_
  cases hcaught : h.caught with
  | true => exact absurd hthrew (s.advance_threw h.request (hfits hcaught))
  | false =>
    have hsame := s.advance_same h.request todo
    have hready' : Ready sent (s.advance h.request todo).1 h := by
      refine ⟨hready.answers.same hsame, ?_⟩
      rw [hsame.log]
      exact hready.request
    refine keeps_raise hready' hcaught (by rw [hsame.gate]; exact hsent) ?_
    cases h.guard <;> rfl

lemma keeps_run_behind {s : Serve} {h : Handler} {todo : List Todo} (hready : Ready sent s h)
    (hsent : s.gate.closed = true ∨ (sent h.request).length = 1)
    (htodo : todo.all Todo.isBehind = true) : Keeps sent (s.run h todo) := by
  obtain ⟨request, hlog, hid⟩ := hready.request
  have hsame := s.advance_same h.request todo
  have hcaught := s.advance_caught h.request todo
  have hstops := s.advance_behind h.request htodo
  unfold run
  generalize s.advance h.request todo = r at *
  obtain ⟨t, effects, stop⟩ := r
  have ht := hready.answers.same hsame
  rw [← hsame.gate] at hsent
  rw [← hsame.log] at hlog
  unfold stopped
  cases stop with
  | ended =>
    have hsilent : Silent effects := hstops
    refine Keeps.prepend ?_ hcaught
    rw [addSent_silent sent hsilent]
    exact keeps_leave (ht.finish fun _ _ => hsent) h
  | threw => cases hstops
  | called call left =>
    obtain ⟨hanswer, hleft, hsilent⟩ := hstops
    refine ⟨?_, hcaught⟩
    dsimp only
    rw [addSent_silent sent hsilent]
    refine ht.call (Or.inr ⟨request, hlog, hid, ?_⟩)
    rw [if_pos hanswer]
    exact ⟨hleft, hsent⟩

end Serve

end Pherry.Host
