import Pherry.Host.ServeFrames

/-!
# What a connection tells a session about its viewer

The lists of things a handler has to do, read for one session: a call that records a viewport comes
right before the session is noted as touched, and an `unsubscribe` comes right before the release of
the viewer unless the handler subscribes again. `entry` says so of a running handler.
-/

namespace Pherry.Host

open Lib Channel Protocol

/-- Whether the call records the viewer's viewport. -/
def SessionOp.records : SessionOp → Bool
  | observeViewer _ => true
  | resizeViewer _ => true
  | _ => false

/-- Whether the call concerns the viewer's viewport. -/
def SessionOp.concerns (op : SessionOp) : Bool := op.records || op = .releaseViewer

namespace Todo

variable (ref : SessionRef)

/-- Whether it is this call into the session. -/
def isCall (op : SessionOp) : Todo → Bool
  | session r other => decide (r = ref) && decide (other = op)
  | _ => false

/-- Whether it records the viewer's viewport in the session. -/
def records : Todo → Bool
  | session r op => decide (r = ref) && op.records
  | _ => false

/-- Whether it notes the session as touched. -/
def isTouch : Todo → Bool
  | touch r => decide (r = ref)
  | _ => false

/-- The call of it that concerns the viewer's viewport in the session. -/
def viewing : Todo → List SessionOp
  | session r op => if r = ref ∧ op.concerns = true then [op] else []
  | _ => []

/-- What comes behind it is what it needs: a record is noted, and an `unsubscribe` is a departure
unless a `subscribe` follows. -/
def followed (left : List Todo) (t : Todo) : Bool :=
  if t.records ref then left.head?.any (isTouch ref)
  else if t.isCall ref .unsubscribe then
    left.head?.any (isCall ref .releaseViewer) == !left.any (isCall ref .subscribe)
  else true

end Todo

/-- Every item is followed by what it needs, and a release comes behind an `unsubscribe` only.
`departing` is whether one was called just before. -/
def orderly (ref : SessionRef) : Bool → List Todo → Bool
  | _, [] => true
  | departing, t :: left =>
    t.followed ref left && (departing || !t.isCall ref .releaseViewer) &&
      orderly ref (t.isCall ref .unsubscribe) left

/-- A running handler that keeps the order. -/
def entry (ref : SessionRef) (call : Todo) (left : List Todo) : Bool :=
  call.followed ref left && orderly ref (call.isCall ref .unsubscribe) left

/-- The calls among effects that concern the viewer's viewport in a session. -/
def callsOf (ref : SessionRef) (effects : List ServeEffect) : List SessionOp :=
  effects.flatMap fun
    | .session r op => (Todo.session r op).viewing ref
    | _ => []

/-- A list in order behind an `unsubscribe` is in order without it, unless it starts with the
release. -/
lemma orderly_of_departing {ref : SessionRef} {departing : Bool} {todo : List Todo}
    (h : orderly ref departing todo = true)
    (hhead : departing = true → todo.head?.any (Todo.isCall ref .releaseViewer) = false) :
    orderly ref false todo = true := by
  cases todo with
  | nil => rfl
  | cons t left =>
    rw [orderly, Bool.and_eq_true, Bool.and_eq_true] at h ⊢
    refine ⟨⟨h.1.1, ?_⟩, h.2⟩
    cases departing with
    | false => exact h.1.2
    | true =>
      have hnot : t.isCall ref .releaseViewer = false := hhead rfl
      rw [hnot]
      rfl

lemma Todo.eq_touch {ref : SessionRef} {todo : List Todo}
    (h : todo.head?.any (isTouch ref) = true) : ∃ left, todo = .touch ref :: left := by
  cases todo with
  | nil => cases h
  | cons t left =>
    cases t with
    | touch r => exact ⟨left, by rw [← of_decide_eq_true h]⟩
    | _ => cases h

lemma Todo.eq_call {ref : SessionRef} {op : SessionOp} {todo : List Todo}
    (h : todo.head?.any (isCall ref op) = true) : ∃ left, todo = .session ref op :: left := by
  cases todo with
  | nil => cases h
  | cons t left =>
    cases t with
    | session r other =>
      have hboth : r = ref ∧ other = op := by simpa [isCall] using h
      exact ⟨left, by rw [hboth.1, hboth.2]⟩
    | _ => cases h

lemma Todo.isCall_of_records {ref : SessionRef} {t : Todo} (h : t.records ref = true) :
    t.isCall ref .unsubscribe = false := by
  cases t with
  | session r op => cases op <;> simp_all [Todo.records, Todo.isCall, SessionOp.records]
  | _ => rfl

@[simp] lemma callsOf_nil (ref : SessionRef) : callsOf ref [] = [] := rfl

@[simp] lemma callsOf_append (ref : SessionRef) (effects more : List ServeEffect) :
    callsOf ref (effects ++ more) = callsOf ref effects ++ callsOf ref more := by
  simp [callsOf]

/-! ## The lists of the handlers -/

section Orderly

variable (ref : SessionRef)

/-- Nothing in the list concerns the session. -/
def Todo.plain : Todo → Bool
  | send _ => true
  | delete _ => true
  | set _ => true
  | touch _ => true
  | hook _ => true
  | onError => true
  | session r op => decide (r ≠ ref) || !(op.concerns || decide (op = .unsubscribe))

lemma Todo.plain_spec {t : Todo} (h : t.plain ref = true) :
    t.records ref = false ∧ t.isCall ref .unsubscribe = false ∧
      t.isCall ref .releaseViewer = false := by
  cases t with
  | session r op =>
    by_cases hr : r = ref
    · cases op <;> simp_all [Todo.plain, Todo.records, Todo.isCall, SessionOp.concerns, SessionOp.records]
    · simp [Todo.records, Todo.isCall, hr]
  | _ => exact ⟨rfl, rfl, rfl⟩

lemma Todo.followed_plain {t : Todo} (h : t.plain ref = true) (left : List Todo) :
    t.followed ref left = true := by
  obtain ⟨hrecords, hunsubscribe, -⟩ := Todo.plain_spec ref h
  rw [Todo.followed, hrecords, hunsubscribe]
  rfl

lemma orderly_cons_plain {t : Todo} (h : t.plain ref = true) (departing : Bool)
    (left : List Todo) : orderly ref departing (t :: left) = orderly ref false left := by
  obtain ⟨-, hunsubscribe, hrelease⟩ := Todo.plain_spec ref h
  rw [orderly, Todo.followed_plain ref h, hunsubscribe, hrelease]
  simp

lemma orderly_of_plain {todo : List Todo} (h : todo.all (Todo.plain ref) = true)
    (departing : Bool) : orderly ref departing todo = true := by
  induction todo generalizing departing with
  | nil => rfl
  | cons t left ih =>
    rw [List.all_cons, Bool.and_eq_true] at h
    rw [orderly_cons_plain ref h.1]
    exact ih h.2 false

lemma free_of_plain {todo : List Todo} (h : todo.all (Todo.plain ref) = true) :
    todo.any (Todo.records ref) = false := by
  rw [List.any_eq_false]
  intro t ht
  rw [(Todo.plain_spec ref (List.all_eq_true.1 h t ht)).1]
  exact Bool.false_ne_true

variable (c : Connection)

namespace Connection

lemma orderly_gated (id : JsString) (method : Method) {todo : List Todo}
    (h : orderly ref false todo = true) : orderly ref false (c.gated id method todo) = true := by
  unfold gated
  split
  · exact h
  · split
    · exact h
    · exact orderly_of_plain ref rfl false

lemma plain_teardown {r : SessionRef} (h : r ≠ ref) (departed : Bool) :
    (c.teardown r departed).all (Todo.plain ref) = true := by
  unfold teardown
  split
  · cases departed <;> simp [Todo.plain, h]
  · rfl

lemma orderly_append_plain {todo more : List Todo} (htodo : todo.all (Todo.plain ref) = true)
    (hmore : orderly ref false more = true) : orderly ref false (todo ++ more) = true := by
  induction todo with
  | nil => exact hmore
  | cons t left ih =>
    rw [List.all_cons, Bool.and_eq_true] at htodo
    rw [List.cons_append, orderly_cons_plain ref htodo.1]
    exact ih htodo.2

lemma orderly_unsubscribe (id : JsString) (r : SessionRef) :
    orderly ref false (c.handleUnsubscribe id r) = true := by
  unfold handleUnsubscribe
  by_cases h : r = ref
  · subst h
    unfold teardown
    split
    · simp [orderly, Todo.followed, Todo.records, Todo.isCall, SessionOp.records]
    · rfl
  · exact orderly_append_plain ref (plain_teardown ref c h true) rfl

lemma orderly_subscribe (id : JsString) (params : SubscribeParams) :
    orderly ref false (c.handleSubscribe id params) = true := by
  unfold handleSubscribe
  split
  · rfl
  · split
    · rfl
    · next session _ =>
      by_cases h : params.sessionRef = ref
      · subst h
        unfold teardown
        cases params.viewport with
        | none =>
          split <;> simp [orderly, Todo.followed, Todo.records, Todo.isCall, SessionOp.records]
        | some size =>
          split <;>
            simp [orderly, Todo.followed, Todo.records, Todo.isCall, Todo.isTouch, SessionOp.records]
      · rw [List.append_assoc]
        refine orderly_append_plain ref (plain_teardown ref c h false) ?_
        cases params.viewport with
        | none => exact orderly_of_plain ref (by simp [Todo.plain, h]) false
        | some size => exact orderly_of_plain ref (by simp [Todo.plain, h]) false

lemma orderly_resize (id : JsString) (r : SessionRef) (size : Size) :
    orderly ref false (c.handleResize id r size) = true := by
  unfold handleResize
  split
  · rfl
  · by_cases h : r = ref
    · subst h
      simp [orderly, Todo.followed, Todo.records, Todo.isCall, Todo.isTouch, SessionOp.records]
    · exact orderly_of_plain ref (by simp [Todo.plain, h]) false

lemma orderly_input (id : JsString) (r : SessionRef) (dataB64 : JsString) :
    orderly ref false (c.handleInput id r dataB64) = true := by
  unfold handleInput
  split
  · rfl
  · exact orderly_of_plain ref (by simp [Todo.plain, SessionOp.concerns, SessionOp.records]) false

lemma orderly_hooked (present : Bool) (id : JsString) (method : Method) (hook : Hook) :
    orderly ref false (hooked present id method hook) = true := by
  unfold hooked
  split <;> rfl

lemma orderly_serve (id : JsString) (method : Method) (params : ParamsOf method) :
    orderly ref false (c.serve id method params) = true := by
  cases method with
  | subscribe => exact orderly_gated ref c id .subscribe (orderly_subscribe ref c id params)
  | unsubscribe => exact orderly_unsubscribe ref c id params
  | input => exact orderly_gated ref c id .input (orderly_input ref c id params.1 params.2)
  | resize => exact orderly_gated ref c id .resize (orderly_resize ref c id params.1 params.2)
  | claim => exact orderly_hooked ref _ _ _ _
  | reserve => exact orderly_hooked ref _ _ _ _
  | start => exact orderly_gated ref c id .start (orderly_hooked ref _ _ _ _)
  | list => exact orderly_hooked ref _ _ _ _
  | options => exact orderly_gated ref c id .options (orderly_hooked ref _ _ _ _)
  | approve => rfl
  | spawn => rfl
  | raise => rfl

lemma orderly_dispatch
    (parseParams : (method : Method) → Option Json → Except Json (ParamsOf method))
    (request : RpcRequest) : orderly ref false (c.dispatch parseParams request) = true := by
  unfold dispatch
  split
  · rfl
  · split
    · rfl
    · exact orderly_serve ref c _ _ _

end Connection

lemma plain_catching (id : JsString) (guard : Guard) (error : Thrown) :
    (guard.catching id error).all (Todo.plain ref) = true := by
  unfold Guard.catching
  split <;> rfl

end Orderly

end Pherry.Host
