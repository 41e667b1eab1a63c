import Pherry.Host.Gate

/-!
# The law of the device gate

What reaches an RPC handler over a run of a gated connection. The replay of the buffered frames
does not look at the phase again and a `Hello` in hand does not hold later frames back, so the law
has a condition: `deviceGate_of_meets`.
-/

namespace Pherry.Host

open Lib Channel Protocol

/-! ## What a run did -/

/-- The control frame an event brings, if the channel is open. -/
def arrived (s : Gate) : GateEvent → List Bytes
  | .frame ⟨.control, payload⟩ => if s.sessionId.isSome then [payload] else []
  | _ => []

/-- The frames among effects that were handed to `handleRpcPayload`. -/
def handledIn (effects : List GateEffect) : List Bytes :=
  effects.filterMap fun
    | .handleRpcPayload payload => some payload
    | _ => none

/-- The verdict an event brings, with the `Hello` it is about. -/
def answered (s : Gate) : GateEvent → List (Hello × Bool)
  | .verifyReturned (.verdict allowed) =>
    match s.calls with
    | .verify hello :: _ => [(hello, allowed)]
    | _ => []
  | .verdict i (.ok allowed) =>
    match s.pending[i]? with
    | some hello => [(hello, allowed)]
    | none => []
  | _ => []

@[simp] lemma handledIn_nil : handledIn [] = [] := rfl

@[simp] lemma handledIn_append (l m : List GateEffect) :
    handledIn (l ++ m) = handledIn l ++ handledIn m := List.filterMap_append

@[simp] lemma handledIn_cons_handle (payload : Bytes) (l : List GateEffect) :
    handledIn (.handleRpcPayload payload :: l) = payload :: handledIn l := rfl

@[simp] lemma handledIn_cons_onError (error : GateError) (l : List GateEffect) :
    handledIn (.onError error :: l) = handledIn l := rfl

@[simp] lemma handledIn_cons_tornDown (l : List GateEffect) :
    handledIn (.tornDown :: l) = handledIn l := rfl

@[simp] lemma handledIn_cons_ack (ack : HelloAck) (l : List GateEffect) :
    handledIn (.ack ack :: l) = handledIn l := rfl

@[simp] lemma handledIn_cons_verifyDevice (claim : DeviceAuthClaim) (l : List GateEffect) :
    handledIn (.verifyDevice claim :: l) = handledIn l := rfl

section Runs

variable (o : GateOptions) (sessionId : Bytes)

/-- The control frames of a run. -/
def arrivals (es : List GateEvent) : List Bytes := (gateMachine o sessionId).outputs arrived es

/-- The frames a run handed to `handleRpcPayload`. -/
def handled (es : List GateEvent) : List Bytes :=
  (gateMachine o sessionId).outputs (fun s e => handledIn (s.react o e).2) es

/-- The verdicts of a run. -/
def verdicts (es : List GateEvent) : List (Hello × Bool) :=
  (gateMachine o sessionId).outputs answered es

end Runs

/-- The first control frame was a version-compatible `Hello`, and its verdict was true. -/
def Admitted (o : GateOptions) (arrivals : List Bytes) (verdicts : List (Hello × Bool)) : Prop :=
  ∃ first hello rest, arrivals = first :: rest ∧ o.parseHello first = some hello ∧
    evaluateCompat hello.protocol = .ok () ∧ (hello, true) ∈ verdicts

/-- The law of the device gate over a run and all its beginnings. -/
structure DeviceGate (o : GateOptions) (sessionId : Bytes) (es : List GateEvent) : Prop where
  /-- Nothing is handled before the first frame was a good `Hello` and its verdict true. -/
  admitted : ∀ pre, pre <+: es → handled o sessionId pre ≠ [] →
    Admitted o (arrivals o sessionId pre) (verdicts o sessionId pre)
  /-- The frames behind the `Hello` are handled once, in the order they arrived. -/
  ordered : ∀ pre, pre <+: es → handled o sessionId pre <+: (arrivals o sessionId pre).tail
  /-- While the connection serves and no handler is running, every one of them was handled. -/
  replayed : ∀ pre, pre <+: es → ((gateMachine o sessionId).run pre).phase = .serving →
    ((gateMachine o sessionId).run pre).calls = [] →
      handled o sessionId pre = (arrivals o sessionId pre).tail
  /-- The buffer keeps its bound. -/
  bounded : ∀ pre, pre <+: es →
    ((gateMachine o sessionId).run pre).buffered.length ≤ maxFramesWhileVerifying
  /-- Nothing is handled once the connection has been dead. -/
  dead : ∀ pre post, pre ++ post = es → ((gateMachine o sessionId).run pre).phase = .dead →
    handled o sessionId es = handled o sessionId pre

/-- The steps that break the law: a control frame arrives while the first one is still in hand, or
while a replay has frames left; `verifyDevice` lets a dead connection in; a handler of the replay
with frames left returns on a dead connection, or throws on a live one. -/
def Gate.breaks (s : Gate) : GateEvent → Bool
  | .frame ⟨.control, _⟩ =>
    s.sessionId.isSome &&
      ((s.phase = .awaitingHello && !s.timer) ||
        (s.phase = .serving && s.calls.any fun c => !c.left.isEmpty))
  | .verifyReturned answer =>
    s.phase = .dead && (s.calls.head?.any fun c => c matches .verify _) &&
      (answer = .verdict true || answer = .promise)
  | .handlerReturned ok =>
    (s.calls.head?.any fun c => !c.left.isEmpty) && (ok == (s.phase = .dead))
  | _ => false

/-! ## Closing -/

namespace Gate

variable {o : GateOptions}

@[simp] lemma phase_close (s : Gate) : s.close.1.phase = .dead := rfl

@[simp] lemma handledIn_close (s : Gate) : handledIn s.close.2 = [] := rfl

lemma closeChannel_eq (s : Gate) :
    s.closeChannel = (s, []) ∨ s.closeChannel = { s with sessionId := none }.close := by
  unfold closeChannel
  split
  · exact .inr rfl
  · exact .inl rfl

@[simp] lemma handledIn_closeChannel (s : Gate) : handledIn s.closeChannel.2 = [] := by
  rcases s.closeChannel_eq with h | h
  · rw [h]; rfl
  · rw [h]; rfl

@[simp] lemma buffered_closeChannel (s : Gate) : s.closeChannel.1.buffered = s.buffered := by
  rcases s.closeChannel_eq with h | h
  · rw [h]
  · rw [h]; rfl

lemma phase_closeChannel {s : Gate} (h : s.phase = .dead) : s.closeChannel.1.phase = .dead := by
  rcases s.closeChannel_eq with heq | heq
  · rw [heq]; exact h
  · rw [heq]; rfl

@[simp] lemma phase_failClosed (s : Gate) (error : GateError) :
    (s.failClosed error).1.phase = .dead := phase_closeChannel rfl

@[simp] lemma handledIn_failClosed (s : Gate) (error : GateError) :
    handledIn (s.failClosed error).2 = [] := by
  simp [failClosed]

@[simp] lemma buffered_failClosed (s : Gate) (error : GateError) :
    (s.failClosed error).1.buffered = s.buffered := by
  simp [failClosed]

/-! ## A dead connection -/

/-- Behind the ack of a gated connection stands the call of `verifyDevice`, for a compatible
version, or the close. -/
lemma acked_eq (hgated : o.verifyDevice = true) (s : Gate) (hello : Hello) :
    (∃ error, s.acked o hello = s.failClosed error) ∨
      ∃ claim, evaluateCompat hello.protocol = .ok () ∧
        s.acked o hello = ({ s with calls := .verify hello :: s.calls }, [.verifyDevice claim]) := by
  unfold acked
  split
  · exact .inl ⟨_, rfl⟩
  · next hcompat =>
    rw [if_pos hgated]
    unfold runDeviceGate
    split
    · exact .inl ⟨_, rfl⟩
    · exact .inr ⟨_, hcompat, rfl⟩

/-- A dead connection stays dead and handles nothing, unless the step breaks the law. -/
lemma dead_react (hgated : o.verifyDevice = true) {s : Gate} (hdead : s.phase = .dead)
    {e : GateEvent} (he : s.breaks e = false) :
    (s.react o e).1.phase = .dead ∧ handledIn (s.react o e).2 = [] := by
  cases e with
  | frame frame =>
    show (s.onFrame o frame).1.phase = .dead ∧ handledIn (s.onFrame o frame).2 = []
    have hcontrol : s.onControl o frame.payload = (s, []) := by rw [onControl, hdead]
    rw [onFrame, hcontrol]
    split
    · exact ⟨hdead, rfl⟩
    · split <;> exact ⟨hdead, rfl⟩
  | timer =>
    show s.onTimer.1.phase = .dead ∧ handledIn s.onTimer.2 = []
    rw [onTimer]
    split
    · simp only [hdead, reduceCtorEq, if_false]
      exact ⟨trivial, rfl⟩
    · exact ⟨hdead, rfl⟩
  | ackReturned ok =>
    show (s.ackReturned o ok).1.phase = .dead ∧ handledIn (s.ackReturned o ok).2 = []
    rw [ackReturned]
    split
    · next hello calls hcalls =>
      split
      · rcases acked_eq hgated { s with calls } hello with ⟨error, heq⟩ | ⟨claim, -, heq⟩
        · rw [heq]
          exact ⟨phase_failClosed _ _, handledIn_failClosed _ _⟩
        · rw [heq]
          exact ⟨hdead, rfl⟩
      · exact ⟨hdead, rfl⟩
    · exact ⟨hdead, rfl⟩
  | verifyReturned answer =>
    show (s.verifyReturned o answer).1.phase = .dead ∧ handledIn (s.verifyReturned o answer).2 = []
    rw [verifyReturned]
    split
    · next hello calls hcalls =>
      -- the answers that let the connection in break the law here
      simp only [breaks, hdead, hcalls, decide_true, List.head?_cons, Option.any_some,
        Bool.true_and, Bool.or_eq_false_iff, decide_eq_false_iff_not] at he
      cases answer with
      | verdict allowed =>
        cases allowed with
        | true => exact absurd rfl he.1
        | false => exact ⟨phase_failClosed _ _, handledIn_failClosed _ _⟩
      | promise => exact absurd rfl he.2
      | threw => exact ⟨phase_failClosed _ _, handledIn_failClosed _ _⟩
    · exact ⟨hdead, rfl⟩
  | handlerReturned ok =>
    show (s.handlerReturned ok).1.phase = .dead ∧ handledIn (s.handlerReturned ok).2 = []
    rw [handlerReturned]
    split
    · next left calls hcalls =>
      cases ok with
      | false => exact ⟨hdead, rfl⟩
      | true =>
        have hleft : left = [] := by simpa [breaks, hdead, hcalls, Call.left] using he
        rw [hleft]
        exact ⟨hdead, rfl⟩
    · exact ⟨hdead, rfl⟩
  | verdict i reply =>
    show (s.onVerdict o i reply).1.phase = .dead ∧ handledIn (s.onVerdict o i reply).2 = []
    rw [onVerdict]
    split
    · split
      · exact ⟨hdead, rfl⟩
      · simp only [hdead, reduceCtorEq, if_false]
        exact ⟨trivial, rfl⟩
    · exact ⟨hdead, rfl⟩
  | channelClosed => exact ⟨phase_closeChannel hdead, handledIn_closeChannel s⟩
  | close => exact ⟨rfl, rfl⟩

/-! ## The buffer -/

lemma buffered_replay (s : Gate) (frames : List Bytes) :
    (s.replay frames).1.buffered = s.buffered := by
  cases frames <;> rfl

@[simp] lemma buffered_admitHello (s : Gate) (hello : Hello) :
    (s.admitHello o hello).1.buffered = [] := buffered_replay _ _

lemma buffered_acked (s : Gate) (hello : Hello) :
    (s.acked o hello).1.buffered = s.buffered := by
  unfold acked
  split
  · exact buffered_failClosed _ _
  · split
    · unfold runDeviceGate
      split
      · exact buffered_failClosed _ _
      · rfl
    · rfl

lemma bounded_onControl {s : Gate} (h : s.buffered.length ≤ maxFramesWhileVerifying)
    (payload : Bytes) :
    (s.onControl o payload).1.buffered.length ≤ maxFramesWhileVerifying := by
  unfold onControl
  split
  · exact h
  · unfold handleHello
    simp only
    split
    · simpa using h
    · split
      · simpa only [buffered_acked] using h
      · exact h
  · split
    · simpa using h
    · next hroom =>
      show (s.buffered ++ [payload]).length ≤ maxFramesWhileVerifying
      rw [List.length_append, List.length_singleton]
      omega
  · exact h

lemma bounded_react {s : Gate} (h : s.buffered.length ≤ maxFramesWhileVerifying)
    (e : GateEvent) : (s.react o e).1.buffered.length ≤ maxFramesWhileVerifying := by
  cases e with
  | frame frame =>
    show (s.onFrame o frame).1.buffered.length ≤ maxFramesWhileVerifying
    unfold onFrame
    split
    · exact h
    · split
      · exact bounded_onControl h _
      · exact h
  | timer =>
    show s.onTimer.1.buffered.length ≤ maxFramesWhileVerifying
    unfold onTimer
    split
    · simp only
      split
      · simpa using h
      · exact h
    · exact h
  | ackReturned ok =>
    show (s.ackReturned o ok).1.buffered.length ≤ maxFramesWhileVerifying
    unfold ackReturned
    split
    · split
      · simpa only [buffered_acked] using h
      · exact h
    · exact h
  | verifyReturned answer =>
    show (s.verifyReturned o answer).1.buffered.length ≤ maxFramesWhileVerifying
    unfold verifyReturned
    split
    · simp only
      split
      · simp
      · simpa using h
      · simpa using h
      · exact h
    · exact h
  | handlerReturned ok =>
    show (s.handlerReturned ok).1.buffered.length ≤ maxFramesWhileVerifying
    unfold handlerReturned
    split
    · split
      · simpa only [buffered_replay] using h
      · exact h
    · exact h
  | verdict i reply =>
    show (s.onVerdict o i reply).1.buffered.length ≤ maxFramesWhileVerifying
    unfold onVerdict
    split
    · split
      · exact h
      · simp only
        split
        · split
          · simp
          · simpa using h
          · simpa using h
        · exact h
    · exact h
  | channelClosed => simpa [react] using h
  | close => exact h

end Gate

/-! ## The stages of a gated connection -/

/-- Where a gated connection is, given what arrived, what was handled and what was answered. -/
inductive Admission (o : GateOptions) (arrivals handled : List Bytes)
    (verdicts : List (Hello × Bool)) (s : Gate) : Prop
  | fresh (hphase : s.phase = .awaitingHello) (htimer : s.timer = true) (harrivals : arrivals = [])
      (hhandled : handled = []) (hbuffered : s.buffered = []) (hpending : s.pending = [])
      (hcalls : s.calls = [])
  | hello (first : Bytes) (hello : Hello) (hphase : s.phase = .awaitingHello)
      (htimer : s.timer = false) (harrivals : arrivals = [first])
      (hparse : o.parseHello first = some hello) (hhandled : handled = [])
      (hbuffered : s.buffered = []) (hpending : s.pending = [])
      (hcalls : s.calls = [] ∨ s.calls = [.ack hello] ∨
        s.calls = [.verify hello] ∧ evaluateCompat hello.protocol = .ok ())
  | verifying (first : Bytes) (hello : Hello) (hphase : s.phase = .verifying)
      (harrivals : arrivals = first :: s.buffered) (hparse : o.parseHello first = some hello)
      (hcompat : evaluateCompat hello.protocol = .ok ()) (hhandled : handled = [])
      (hpending : s.pending = [hello]) (hcalls : s.calls = [])
  | replaying (left : List Bytes) (hphase : s.phase = .serving)
      (hadmitted : Admitted o arrivals verdicts) (hleft : left ≠ [])
      (harrivals : arrivals.tail = handled ++ left) (hpending : s.pending = [])
      (hcalls : s.calls = [.handle left])
  | serving (n : ℕ) (hphase : s.phase = .serving) (hadmitted : Admitted o arrivals verdicts)
      (harrivals : arrivals.tail = handled) (hpending : s.pending = [])
      (hcalls : s.calls = List.replicate n (.handle []))
  | dead (hphase : s.phase = .dead) (hordered : handled <+: arrivals.tail)
      (hadmitted : handled ≠ [] → Admitted o arrivals verdicts)

section Stages

variable {o : GateOptions} {as hs : List Bytes} {vs : List (Hello × Bool)} {s : Gate}

lemma Admitted.append (h : Admitted o as vs) (as' : List Bytes) (vs' : List (Hello × Bool)) :
    Admitted o (as ++ as') (vs ++ vs') := by
  obtain ⟨first, hello, rest, rfl, hparse, hcompat, hverdict⟩ := h
  exact ⟨first, hello, rest ++ as', rfl, hparse, hcompat, List.mem_append_left _ hverdict⟩

lemma Admitted.tail_append (h : Admitted o as vs) (as' : List Bytes) :
    (as ++ as').tail = as.tail ++ as' := by
  obtain ⟨first, hello, rest, rfl, -⟩ := h
  rfl

lemma Admission.kept (h : Admission o as hs vs s) :
    hs <+: as.tail ∧ (hs ≠ [] → Admitted o as vs) := by
  cases h with
  | fresh hphase htimer harrivals hhandled =>
    exact ⟨by rw [hhandled]; exact List.nil_prefix, fun hne => absurd hhandled hne⟩
  | hello first hello hphase htimer harrivals hparse hhandled =>
    exact ⟨by rw [hhandled]; exact List.nil_prefix, fun hne => absurd hhandled hne⟩
  | verifying first hello hphase harrivals hparse hcompat hhandled =>
    exact ⟨by rw [hhandled]; exact List.nil_prefix, fun hne => absurd hhandled hne⟩
  | replaying left hphase hadmitted hleft harrivals =>
    exact ⟨by rw [harrivals]; exact List.prefix_append _ _, fun _ => hadmitted⟩
  | serving n hphase hadmitted harrivals =>
    exact ⟨by rw [harrivals], fun _ => hadmitted⟩
  | dead hphase hordered hadmitted => exact ⟨hordered, hadmitted⟩

lemma Admission.dies (h : Admission o as hs vs s) (as' : List Bytes)
    (vs' : List (Hello × Bool)) {t : Gate} {effects : List GateEffect} (hdead : t.phase = .dead)
    (hnone : handledIn effects = []) :
    Admission o (as ++ as') (hs ++ handledIn effects) (vs ++ vs') t := by
  obtain ⟨hordered, hadmitted⟩ := h.kept
  rw [hnone, List.append_nil]
  refine .dead hdead ?_ fun hne => (hadmitted hne).append as' vs'
  cases as with
  | nil =>
    rw [List.tail_nil, List.prefix_nil] at hordered
    rw [hordered]
    exact List.nil_prefix
  | cons first rest => exact hordered.trans (List.prefix_append _ _)

lemma Admission.verdicts (h : Admission o as hs vs s) (vs' : List (Hello × Bool)) :
    Admission o (as ++ []) (hs ++ []) (vs ++ vs') s := by
  have hmono : Admitted o as vs → Admitted o as (vs ++ vs') := fun hadmitted => by
    simpa using hadmitted.append [] vs'
  rw [List.append_nil, List.append_nil]
  cases h with
  | fresh hphase htimer harrivals hhandled hbuffered hpending hcalls =>
    exact .fresh hphase htimer harrivals hhandled hbuffered hpending hcalls
  | hello first hello hphase htimer harrivals hparse hhandled hbuffered hpending hcalls =>
    exact .hello first hello hphase htimer harrivals hparse hhandled hbuffered hpending hcalls
  | verifying first hello hphase harrivals hparse hcompat hhandled hpending hcalls =>
    exact .verifying first hello hphase harrivals hparse hcompat hhandled hpending hcalls
  | replaying left hphase hadmitted hleft harrivals hpending hcalls =>
    exact .replaying left hphase (hmono hadmitted) hleft harrivals hpending hcalls
  | serving n hphase hadmitted harrivals hpending hcalls =>
    exact .serving n hphase (hmono hadmitted) harrivals hpending hcalls
  | dead hphase hordered hadmitted => exact .dead hphase hordered fun hne => hmono (hadmitted hne)

lemma Admission.idle (h : Admission o as hs vs s) :
    Admission o (as ++ []) (hs ++ handledIn []) (vs ++ []) s := h.verdicts []

lemma Admission.acked (hgated : o.verifyDevice = true) {first : Bytes} {hello : Hello}
    (hphase : s.phase = .awaitingHello) (htimer : s.timer = false)
    (hparse : o.parseHello first = some hello) (hbuffered : s.buffered = [])
    (hpending : s.pending = []) (hcalls : s.calls = []) :
    Admission o [first] (handledIn (s.acked o hello).2) vs (s.acked o hello).1 := by
  rcases Gate.acked_eq hgated s hello with ⟨error, heq⟩ | ⟨claim, hcompat, heq⟩
  · rw [heq, Gate.handledIn_failClosed]
    exact .dead (Gate.phase_failClosed _ _) List.nil_prefix fun hne => absurd rfl hne
  · rw [heq]
    exact .hello first hello hphase htimer rfl hparse rfl hbuffered hpending
      (.inr (.inr ⟨by rw [hcalls], hcompat⟩))

lemma Admission.admitHello {first : Bytes} {hello : Hello} {rest : List Bytes}
    (hparse : o.parseHello first = some hello) (hcompat : evaluateCompat hello.protocol = .ok ())
    (hverdict : (hello, true) ∈ vs) (hbuffered : s.buffered = rest) (hpending : s.pending = [])
    (hcalls : s.calls = []) :
    Admission o (first :: rest) (handledIn (s.admitHello o hello).2) vs
      (s.admitHello o hello).1 := by
  have hadmitted : Admitted o (first :: rest) vs :=
    ⟨first, hello, rest, rfl, hparse, hcompat, hverdict⟩
  rw [Gate.admitHello, hbuffered]
  cases rest with
  | nil => exact .serving 0 rfl hadmitted rfl hpending hcalls
  | cons payload left =>
    cases left with
    | nil => exact .serving 1 rfl hadmitted rfl hpending (by simp [Gate.replay, Gate.handle, hcalls])
    | cons next left =>
      exact .replaying (next :: left) rfl hadmitted (List.cons_ne_nil _ _) rfl hpending
        (by simp [Gate.replay, Gate.handle, hcalls])

lemma Admission.handleHello (hgated : o.verifyDevice = true) (hphase : s.phase = .awaitingHello)
    (hbuffered : s.buffered = []) (hpending : s.pending = []) (hcalls : s.calls = [])
    (payload : Bytes) :
    Admission o [payload] (handledIn (s.handleHello o payload).2) vs
      (s.handleHello o payload).1 := by
  unfold Gate.handleHello
  simp only
  split
  · rw [Gate.handledIn_failClosed]
    exact .dead (Gate.phase_failClosed _ _) List.nil_prefix fun hne => absurd rfl hne
  · next hello hparse =>
    split
    · exact Admission.acked hgated hphase rfl hparse hbuffered hpending hcalls
    · exact .hello payload hello hphase rfl rfl hparse rfl hbuffered hpending
        (.inr (.inl (by rw [hcalls])))

lemma Admission.onControl (hgated : o.verifyDevice = true) (h : Admission o as hs vs s)
    (payload : Bytes) (hopen : s.sessionId.isSome = true)
    (he : s.breaks (.frame ⟨.control, payload⟩) = false) :
    Admission o (as ++ [payload]) (hs ++ handledIn (s.onControl o payload).2) (vs ++ [])
      (s.onControl o payload).1 := by
  have hnot : ¬ (s.phase = .awaitingHello ∧ s.timer = false) ∧
      ¬ (s.phase = .serving ∧ ∃ c ∈ s.calls, c.left ≠ []) := by
    simp only [Gate.breaks, hopen, Bool.true_and, Bool.or_eq_false_iff, Bool.and_eq_false_iff,
      decide_eq_false_iff_not, Bool.not_eq_false', List.any_eq_false, Bool.not_eq_true',
      List.isEmpty_eq_false_iff, ne_eq, not_not] at he
    refine ⟨fun hfresh => ?_, fun ⟨hserving, c, hmem, hleft⟩ => ?_⟩
    · rcases he.1 with hne | hne
      · exact hne hfresh.1
      · rw [hfresh.2] at hne
        cases hne
    · rcases he.2 with hne | hne
      · exact hne hserving
      · exact hleft (hne c hmem)
  cases h with
  | fresh hphase htimer harrivals hhandled hbuffered hpending hcalls =>
    rw [Gate.onControl, hphase, harrivals, hhandled]
    exact Admission.handleHello hgated hphase hbuffered hpending hcalls payload
  | hello first hello hphase htimer => exact absurd ⟨hphase, htimer⟩ hnot.1
  | verifying first hello hphase harrivals hparse hcompat hhandled hpending hcalls =>
    have hstage : Admission o as hs vs s :=
      .verifying first hello hphase harrivals hparse hcompat hhandled hpending hcalls
    rw [Gate.onControl, hphase]
    simp only
    split
    · exact hstage.dies _ _ (Gate.phase_failClosed _ _) (Gate.handledIn_failClosed _ _)
    · rw [harrivals, hhandled, List.append_nil]
      exact .verifying first hello rfl rfl hparse hcompat rfl hpending hcalls
  | replaying left hphase hadmitted hleft harrivals hpending hcalls =>
    refine absurd ⟨hphase, .handle left, ?_, hleft⟩ hnot.2
    rw [hcalls]
    exact List.mem_singleton_self _
  | serving n hphase hadmitted harrivals hpending hcalls =>
    rw [Gate.onControl, hphase]
    refine .serving (n + 1) hphase (hadmitted.append _ _) ?_ hpending ?_
    · rw [hadmitted.tail_append, harrivals]
      rfl
    · rw [List.replicate_succ, ← hcalls]
      rfl
  | dead hphase hordered hadmitted =>
    have hstage : Admission o as hs vs s := .dead hphase hordered hadmitted
    rw [Gate.onControl, hphase]
    exact hstage.dies _ _ hphase rfl

lemma Admission.onTimer (h : Admission o as hs vs s) :
    Admission o (as ++ []) (hs ++ handledIn s.onTimer.2) (vs ++ []) s.onTimer.1 := by
  unfold Gate.onTimer
  split
  · next hfires =>
    simp only
    split
    · exact h.dies _ _ (Gate.phase_failClosed _ _) (Gate.handledIn_failClosed _ _)
    · next hphase =>
      have hidle := h.idle
      cases hidle with
      | fresh hawaiting => exact absurd hawaiting hphase
      | hello first hello hawaiting => exact absurd hawaiting hphase
      | verifying first hello hverifying harrivals hparse hcompat hhandled hpending hcalls =>
        exact .verifying first hello hverifying harrivals hparse hcompat hhandled hpending hcalls
      | replaying left hserving hadmitted hleft harrivals hpending hcalls =>
        exact .replaying left hserving hadmitted hleft harrivals hpending hcalls
      | serving n hserving hadmitted harrivals hpending hcalls =>
        exact .serving n hserving hadmitted harrivals hpending hcalls
      | dead hdead hordered hadmitted => exact .dead hdead hordered hadmitted
  · exact h.idle

lemma Admission.ackReturned (hgated : o.verifyDevice = true) (h : Admission o as hs vs s)
    (hlive : s.phase ≠ .dead) (ok : Bool) :
    Admission o (as ++ []) (hs ++ handledIn (s.ackReturned o ok).2) (vs ++ [])
      (s.ackReturned o ok).1 := by
  have hidle := h.idle
  cases h with
  | fresh hphase htimer harrivals hhandled hbuffered hpending hcalls =>
    rw [Gate.ackReturned, hcalls]
    exact hidle
  | hello first hello hphase htimer harrivals hparse hhandled hbuffered hpending hcalls =>
    rcases hcalls with hcalls | hcalls | ⟨hcalls, -⟩
    · rw [Gate.ackReturned, hcalls]
      exact hidle
    · rw [Gate.ackReturned, hcalls, harrivals, hhandled]
      cases ok with
      | true =>
        exact Admission.acked (s := { s with calls := [] }) hgated hphase htimer hparse hbuffered
          hpending rfl
      | false => exact .hello first hello hphase htimer rfl hparse rfl hbuffered hpending (.inl rfl)
    · rw [Gate.ackReturned, hcalls]
      exact hidle
  | verifying first hello hphase harrivals hparse hcompat hhandled hpending hcalls =>
    rw [Gate.ackReturned, hcalls]
    exact hidle
  | replaying left hphase hadmitted hleft harrivals hpending hcalls =>
    rw [Gate.ackReturned, hcalls]
    exact hidle
  | serving n hphase hadmitted harrivals hpending hcalls =>
    rw [Gate.ackReturned, hcalls]
    cases n with
    | zero => exact hidle
    | succ n => exact hidle
  | dead hphase => exact absurd hphase hlive

lemma Admission.verifyReturned (h : Admission o as hs vs s) (hlive : s.phase ≠ .dead)
    (answer : Answer) :
    Admission o (as ++ []) (hs ++ handledIn (s.verifyReturned o answer).2)
      (vs ++ answered s (.verifyReturned answer)) (s.verifyReturned o answer).1 := by
  have hidle := h.verdicts (answered s (.verifyReturned answer))
  cases h with
  | fresh hphase htimer harrivals hhandled hbuffered hpending hcalls =>
    rw [Gate.verifyReturned, hcalls]
    exact hidle
  | hello first hello hphase htimer harrivals hparse hhandled hbuffered hpending hcalls =>
    have hstage : Admission o as hs vs s :=
      .hello first hello hphase htimer harrivals hparse hhandled hbuffered hpending hcalls
    rcases hcalls with hcalls | hcalls | ⟨hcalls, hcompat⟩
    · rw [Gate.verifyReturned, hcalls]
      exact hidle
    · rw [Gate.verifyReturned, hcalls]
      exact hidle
    · rw [Gate.verifyReturned, hcalls]
      cases answer with
      | verdict allowed =>
        cases allowed with
        | true =>
          have hverdict : (hello, true) ∈ vs ++ answered s (.verifyReturned (.verdict true)) := by
            simp [answered, hcalls]
          rw [harrivals, hhandled]
          exact Admission.admitHello (s := { s with calls := [] }) hparse hcompat hverdict hbuffered
            hpending rfl
        | false => exact hstage.dies _ _ (Gate.phase_failClosed _ _) (Gate.handledIn_failClosed _ _)
      | promise =>
        rw [harrivals, hhandled]
        refine .verifying first hello rfl ?_ hparse hcompat rfl ?_ rfl
        · rw [hbuffered]
          rfl
        · rw [hpending]
          rfl
      | threw => exact hstage.dies _ _ (Gate.phase_failClosed _ _) (Gate.handledIn_failClosed _ _)
  | verifying first hello hphase harrivals hparse hcompat hhandled hpending hcalls =>
    rw [Gate.verifyReturned, hcalls]
    exact hidle
  | replaying left hphase hadmitted hleft harrivals hpending hcalls =>
    rw [Gate.verifyReturned, hcalls]
    exact hidle
  | serving n hphase hadmitted harrivals hpending hcalls =>
    rw [Gate.verifyReturned, hcalls]
    cases n with
    | zero => exact hidle
    | succ n => exact hidle
  | dead hphase => exact absurd hphase hlive

/-- The return of a handler that does not break the law: the replay hands on its next frame. -/
lemma Admission.handlerReturned (h : Admission o as hs vs s) (hlive : s.phase ≠ .dead)
    {ok : Bool} (he : s.breaks (.handlerReturned ok) = false) :
    Admission o (as ++ []) (hs ++ handledIn (s.handlerReturned ok).2) (vs ++ [])
      (s.handlerReturned ok).1 := by
  have hidle := h.idle
  cases h with
  | fresh hphase htimer harrivals hhandled hbuffered hpending hcalls =>
    rw [Gate.handlerReturned, hcalls]
    exact hidle
  | hello first hello hphase htimer harrivals hparse hhandled hbuffered hpending hcalls =>
    rcases hcalls with hcalls | hcalls | ⟨hcalls, -⟩
    · rw [Gate.handlerReturned, hcalls]
      exact hidle
    · rw [Gate.handlerReturned, hcalls]
      exact hidle
    · rw [Gate.handlerReturned, hcalls]
      exact hidle
  | verifying first hello hphase harrivals hparse hcompat hhandled hpending hcalls =>
    rw [Gate.handlerReturned, hcalls]
    exact hidle
  | replaying left hphase hadmitted hleft harrivals hpending hcalls =>
    rw [Gate.handlerReturned, hcalls]
    cases ok with
    | false => simp [Gate.breaks, hcalls, hphase, Call.left, hleft] at he
    | true =>
      cases left with
      | nil => exact absurd rfl hleft
      | cons payload left =>
        rw [List.append_nil, List.append_nil]
        have htail : as.tail = hs ++ [payload] ++ left := by
          rw [harrivals, List.append_assoc]
          rfl
        cases left with
        | nil => exact .serving 1 hphase hadmitted (by rw [htail, List.append_nil]; rfl) hpending rfl
        | cons next left =>
          exact .replaying (next :: left) hphase hadmitted (List.cons_ne_nil _ _) htail hpending rfl
  | serving n hphase hadmitted harrivals hpending hcalls =>
    rw [Gate.handlerReturned, hcalls]
    cases n with
    | zero => exact hidle
    | succ n =>
      have hnothing : as.tail = hs ++ [] := by
        rw [List.append_nil]
        exact harrivals
      rw [List.append_nil, List.append_nil]
      cases ok with
      | false => exact .serving n hphase hadmitted hnothing hpending rfl
      | true => exact .serving n hphase hadmitted hnothing hpending rfl
  | dead hphase => exact absurd hphase hlive

lemma Admission.onVerdict (h : Admission o as hs vs s) (hlive : s.phase ≠ .dead) (i : ℕ)
    (reply : Except Unit Bool) :
    Admission o (as ++ []) (hs ++ handledIn (s.onVerdict o i reply).2)
      (vs ++ answered s (.verdict i reply)) (s.onVerdict o i reply).1 := by
  have hidle := h.verdicts (answered s (.verdict i reply))
  -- only a verdict for the `Hello` in hand changes anything
  have hnone : s.pending = [] → s.onVerdict o i reply = (s, []) := by
    intro hpending
    unfold Gate.onVerdict
    rw [hpending]
    simp
  cases h with
  | fresh hphase htimer harrivals hhandled hbuffered hpending hcalls =>
    rw [hnone hpending]
    exact hidle
  | hello first hello hphase htimer harrivals hparse hhandled hbuffered hpending hcalls =>
    rw [hnone hpending]
    exact hidle
  | verifying first hello hphase harrivals hparse hcompat hhandled hpending hcalls =>
    have hstage : Admission o as hs vs s :=
      .verifying first hello hphase harrivals hparse hcompat hhandled hpending hcalls
    rw [Gate.onVerdict, if_pos hcalls, hpending]
    cases i with
    | succ i => exact hidle
    | zero =>
      simp only [List.getElem?_cons_zero, List.eraseIdx_cons_zero, hphase, if_true]
      cases reply with
      | error _ => exact hstage.dies _ _ (Gate.phase_failClosed _ _) (Gate.handledIn_failClosed _ _)
      | ok allowed =>
        cases allowed with
        | false => exact hstage.dies _ _ (Gate.phase_failClosed _ _) (Gate.handledIn_failClosed _ _)
        | true =>
          have hverdict : (hello, true) ∈ vs ++ answered s (.verdict 0 (.ok true)) := by
            simp [answered, hpending]
          rw [List.append_nil, hhandled, harrivals]
          exact Admission.admitHello hparse hcompat hverdict rfl rfl hcalls
  | replaying left hphase hadmitted hleft harrivals hpending hcalls =>
    rw [hnone hpending]
    exact hidle
  | serving n hphase hadmitted harrivals hpending hcalls =>
    rw [hnone hpending]
    exact hidle
  | dead hphase => exact absurd hphase hlive

lemma Admission.react (hgated : o.verifyDevice = true) (h : Admission o as hs vs s)
    {e : GateEvent} (he : s.breaks e = false) :
    Admission o (as ++ arrived s e) (hs ++ handledIn (s.react o e).2) (vs ++ answered s e)
      (s.react o e).1 := by
  by_cases hdead : s.phase = .dead
  · obtain ⟨hphase, hnone⟩ := Gate.dead_react hgated hdead he
    exact h.dies _ _ hphase hnone
  · cases e with
    | frame frame =>
      obtain ⟨tag, payload⟩ := frame
      show Admission o (as ++ arrived s (.frame ⟨tag, payload⟩))
        (hs ++ handledIn (s.onFrame o ⟨tag, payload⟩).2) (vs ++ []) (s.onFrame o ⟨tag, payload⟩).1
      cases tag with
      | binary =>
        have hsame : s.onFrame o ⟨.binary, payload⟩ = (s, []) := by simp [Gate.onFrame]
        rw [hsame]
        exact h.idle
      | control =>
        by_cases hopen : s.sessionId.isSome = true
        · have hcontrol : s.onFrame o ⟨.control, payload⟩ = s.onControl o payload := by
            rw [Gate.onFrame, if_neg (by simpa [Option.isSome_iff_ne_none] using hopen)]
          rw [hcontrol, arrived, if_pos hopen]
          exact h.onControl hgated payload hopen he
        · have hsame : s.onFrame o ⟨.control, payload⟩ = (s, []) := by
            rw [Gate.onFrame, if_pos (by simpa using hopen)]
          rw [hsame, arrived, if_neg hopen]
          exact h.idle
    | timer => exact h.onTimer
    | ackReturned ok => exact h.ackReturned hgated hdead ok
    | verifyReturned answer => exact h.verifyReturned hdead answer
    | handlerReturned ok => exact h.handlerReturned hdead he
    | verdict i reply => exact h.onVerdict hdead i reply
    | channelClosed =>
      show Admission o (as ++ []) (hs ++ handledIn s.closeChannel.2) (vs ++ []) s.closeChannel.1
      rcases s.closeChannel_eq with heq | heq
      · rw [heq]
        exact h.idle
      · rw [heq]
        exact h.dies _ _ rfl rfl
    | close => exact h.dies _ _ rfl rfl

end Stages

section Law

variable {o : GateOptions} {sessionId : Bytes}

lemma admission_run (hgated : o.verifyDevice = true) {es : List GateEvent}
    (hes : (gateMachine o sessionId).Meets (fun s e => s.breaks e = false) es) :
    Admission o (arrivals o sessionId es) (handled o sessionId es) (verdicts o sessionId es)
      ((gateMachine o sessionId).run es) := by
  refine (gateMachine o sessionId).history_invariant_of_meets
    (p := fun es s => Admission o (arrivals o sessionId es) (handled o sessionId es)
      (verdicts o sessionId es) s) ?_ (fun es e he h => ?_) hes
  · exact .fresh rfl rfl rfl rfl rfl rfl rfl
  · rw [arrivals, handled, verdicts, Machine.outputs_snoc, Machine.outputs_snoc, Machine.outputs_snoc]
    exact h.react hgated he

lemma dead_run (hgated : o.verifyDevice = true) {pre post : List GateEvent}
    (hes : (gateMachine o sessionId).Meets (fun s e => s.breaks e = false) (pre ++ post))
    (hdead : ((gateMachine o sessionId).run pre).phase = .dead) :
    ((gateMachine o sessionId).run (pre ++ post)).phase = .dead ∧
      handled o sessionId (pre ++ post) = handled o sessionId pre := by
  induction post using List.reverseRecOn with
  | nil => rw [List.append_nil]; exact ⟨hdead, rfl⟩
  | append_singleton post e ih =>
    rw [← List.append_assoc] at hes ⊢
    obtain ⟨hpre, he⟩ := (gateMachine o sessionId).meets_snoc.1 hes
    obtain ⟨hstill, hsame⟩ := ih hpre
    obtain ⟨hafter, hnone⟩ := Gate.dead_react hgated hstill he
    refine ⟨by rw [Machine.run_snoc]; exact hafter, ?_⟩
    rw [handled, Machine.outputs_snoc, hnone, List.append_nil]
    exact hsame

/-- **The device gate.** A run of a gated connection none of whose steps breaks the law keeps it
throughout. -/
theorem deviceGate_of_meets (hgated : o.verifyDevice = true) {es : List GateEvent}
    (hes : (gateMachine o sessionId).Meets (fun s e => s.breaks e = false) es) :
    DeviceGate o sessionId es := by
  have hstage : ∀ pre, pre <+: es → Admission o (arrivals o sessionId pre) (handled o sessionId pre)
      (verdicts o sessionId pre) ((gateMachine o sessionId).run pre) := by
    intro pre hpre
    obtain ⟨post, rfl⟩ := hpre
    exact admission_run hgated hes.prefix
  refine ⟨fun pre hpre => (hstage pre hpre).kept.2, fun pre hpre => (hstage pre hpre).kept.1,
    fun pre hpre hserving hidle => ?_, fun pre _ => ?_, fun pre post hes' hdead => ?_⟩
  · cases hstage pre hpre with
    | serving n hphase hadmitted harrivals => exact harrivals.symm
    | replaying left hphase hadmitted hleft harrivals hpending hcalls =>
      rw [hcalls] at hidle
      cases hidle
    | fresh hphase => rw [hphase] at hserving; cases hserving
    | hello first hello hphase => rw [hphase] at hserving; cases hserving
    | verifying first hello hphase => rw [hphase] at hserving; cases hserving
    | dead hphase => rw [hphase] at hserving; cases hserving
  · exact (gateMachine o sessionId).invariant
      (p := fun s => s.buffered.length ≤ maxFramesWhileVerifying) (Nat.zero_le _)
      (fun s e h => Gate.bounded_react h e) pre
  · subst hes'
    exact (dead_run hgated hes hdead).2

end Law

namespace Demo

/-- The `Hello` of an enrolled device. -/
def hello : Hello :=
  { role := .controller
    protocol := 2
    capabilities := [js "pty.stream.v1"]
    publicKey := js "AAAA"
    deviceKeyId := js "0123456789abcdef"
    deviceAuth := js "AAAA" }

/-- Its control frame. -/
def helloPayload : Bytes :=
  ascii "\x7b\"role\":\"controller\",\"protocol\":2,\"capabilities\":[\"pty.stream.v1\"],"
    ++ ascii "\"publicKey\":\"AAAA\",\"deviceKeyId\":\"0123456789abcdef\",\"deviceAuth\":\"AAAA\"\x7d"

/-- The control frame of a request with a one-letter id. -/
def request (id : String) : Bytes :=
  ascii "\x7b\"id\":\"" ++ ascii id ++ ascii "\",\"method\":\"sessions.list\",\"params\":\x7b\x7d\x7d"

/-- A gated connection. -/
def options : GateOptions :=
  { parseHello := fun payload => if payload = helloPayload then some hello else none
    capabilities := [js "pty.stream.v1"]
    verifyDevice := true }

/-- The id of the channel's session. -/
def sessionId : Bytes := List.replicate 32 7

/-- Two requests wait for the verdict; it is true and the first of them is handed on. -/
def verdictTrue : List GateEvent :=
  [.frame ⟨.control, helloPayload⟩, .ackReturned true, .verifyReturned .promise,
    .frame ⟨.control, request "a"⟩, .frame ⟨.control, request "b"⟩, .verdict 0 (.ok true)]

end Demo

/-- Both requests are replayed, and a third one follows them. -/
theorem deviceGate_replayed :
    handled Demo.options Demo.sessionId (Demo.verdictTrue ++ [.handlerReturned true,
      .handlerReturned true, .frame ⟨.control, Demo.request "c"⟩, .handlerReturned true])
        = [Demo.request "a", Demo.request "b", Demo.request "c"] ∧
    DeviceGate Demo.options Demo.sessionId (Demo.verdictTrue ++ [.handlerReturned true,
      .handlerReturned true, .frame ⟨.control, Demo.request "c"⟩, .handlerReturned true]) := by
  refine ⟨by decide +kernel, deviceGate_of_meets rfl ?_⟩
  exact Machine.Meets.mono _ (fun s e h => by simpa using h)
    ((gateMachine Demo.options Demo.sessionId).meets_of_checks
      (c := fun s e => !s.breaks e) (by decide +kernel))

/-- The first request closes the channel; the second one is handled all the same. -/
theorem not_deviceGate_closedMeanwhile :
    ¬ DeviceGate Demo.options Demo.sessionId
      (Demo.verdictTrue ++ [.channelClosed, .handlerReturned true]) := by
  intro h
  have hdead := h.dead (Demo.verdictTrue ++ [.channelClosed]) [.handlerReturned true]
    (by rw [List.append_assoc]; rfl) (by decide +kernel)
  revert hdead
  decide +kernel

end Pherry.Host
