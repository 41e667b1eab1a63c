import Pherry.Sdk.NegotiatedFirst
import Pherry.Sdk.StreamRouting

/-!
# The contract of a stream

A frame reaches the live subscription of its session and no other, and every stream its caller is
done with has ended, over every run whose acknowledged subscriptions are orderly: a subscription
that is acknowledged while the one before it has not ended, or after it was given up, leaves a stream
that nothing ends.
-/

namespace Pherry.Sdk

open Lib Protocol

namespace Controller

variable {o : ControllerOptions} {messages : List Message}

/-- Whether a subscription that is acknowledged finds things in order: the host gives every session a
stream id of its own, the stream of the subscription before it has ended, and the subscription was
not given up meanwhile. -/
def isOrderly (s : Controller) (l : Ledger) (ref : SessionRef) (sub : TrackedSub) : Bool :=
  s.subsByRef.entries.all (fun entry =>
    (decide (entry.1 = ref) == decide (entry.2.streamId = sub.streamId)) &&
      (decide (entry.1 ≠ ref) || s.hasEnded entry.2.stream)) &&
    decide (sub.stream ∉ l.finished)

lemma orderly_of_isOrderly {s : Controller} {l : Ledger} {ref : SessionRef} {sub : TrackedSub}
    (h : Consistent s l) (horderly : s.isOrderly l ref sub = true) : Orderly s l ref sub := by
  obtain ⟨hall, hwanted⟩ := Bool.and_eq_true_iff.1 horderly
  have hentry : ∀ other old, l.live other = some old →
      (other = ref ↔ old.streamId = sub.streamId) ∧ (other = ref → s.hasEnded old.stream = true) := by
    intro other old hlive
    rw [h.live] at hlive
    have hboth := List.all_eq_true.1 hall (other, old) (InsertionMap.mem_entries_iff.2 hlive)
    obtain ⟨hids, hends⟩ := Bool.and_eq_true_iff.1 hboth
    constructor
    · exact decide_eq_decide.1 (eq_of_beq hids)
    · intro heq
      simpa [heq] using hends
  exact ⟨fun other old hlive => (hentry other old hlive).1, of_decide_eq_true hwanted,
    fun old hlive => (hentry ref old hlive).2 rfl⟩

/-- Whether an event acknowledges no subscription, or one that finds things in order. -/
def keepsOrder (o : ControllerOptions) (s : Controller) (l : Ledger) : ControllerEvent → Bool
  | .control payload => (s.acknowledges o payload).all fun sub => s.isOrderly l sub.1 sub.2
  | _ => true

/-! ## Steps -/

lemma Consistent.closing {s : Controller} {l : Ledger} (h : Consistent s l) {t : Controller}
    (hsubs : t.subsByRef = s.subsByRef) (hids : t.streamsById = s.streamsById)
    (hviews : t.views = s.views) (hclosed : t.closed = s.closed) (hstreams : t.streams = s.streams) :
    Consistent t.onClose.1 (if s.closed then l else ⟨fun _ => none, List.range s.streams.length⟩) := by
  have hkeep := h.keep hsubs hids hviews hclosed (by rw [hstreams]; exact .refl _)
  cases hopen : s.closed with
  | true =>
    rw [if_pos rfl, onClose_closed (hclosed.trans hopen)]
    exact hkeep
  | false =>
    rw [if_neg Bool.false_ne_true, ← hstreams]
    exact hkeep.onClose (hclosed.trans hopen)

lemma Consistent.onStream {s : Controller} {l : Ledger} (h : Consistent s l) (k : ℕ)
    {f : PtyEventStream → PtyEventStream × Settled}
    (hended : ∀ stream, stream.ended = true → (f stream).1.ended = true)
    (hquiet : ∀ stream, stream.Quiet → (f stream).1.Quiet) : Consistent (s.onStream k f).1 l := by
  have hkeeps := keepsStreams_onStream s k hended hquiet
  obtain ⟨streams, heq⟩ := s.onStream_frame k f
  rw [heq] at hkeeps ⊢
  exact h.keep rfl rfl rfl rfl hkeeps

lemma Consistent.callReturned {s : Controller} {l : Ledger} (h : Consistent s l)
    (outcome : Outcome) : Consistent (s.callReturned o outcome).1 l := by
  unfold Controller.callReturned
  split
  · exact h
  next call calls _ =>
  have hpop : Consistent { s with calls } l := h.keep rfl rfl rfl rfl (.refl _)
  dsimp only
  split
  · exact hpop.keep rfl rfl rfl rfl (.refl _)
  · split
    · exact hpop.keep rfl rfl rfl rfl (.refl _)
    · exact hpop
  · exact hpop
  · exact hpop.keep rfl rfl rfl rfl (.refl _)
  · exact hpop.keep rfl rfl rfl rfl (.refl _)
  · next r _ =>
    exact hpop.keep rfl rfl (views_settle_error { s with
      calls
      pending := s.pending.erase (o.newRequestId r) } r .send) rfl (.refl _)
  · exact hpop
  · exact hpop
  · next k event _ _ =>
    exact hpop.onStream k (fun stream hended => PtyEventStream.ended_deliver hended event)
      fun stream hquiet => hquiet.deliver event

lemma Consistent.negotiate {s : Controller} {l : Ledger} (h : Consistent s l) :
    Consistent (s.negotiate o).1 l := by
  have hhello : ∀ sessionId deviceKeyId deviceAuth,
      Consistent (s.sayHello o sessionId deviceKeyId deviceAuth).1 l := by
    intro sessionId deviceKeyId deviceAuth
    unfold Controller.sayHello
    dsimp only
    split <;> exact h.keep rfl rfl rfl rfl (.refl _)
  unfold Controller.negotiate
  split
  · split
    · unfold Controller.begin
      split
      · exact hhello _ _ _
      split <;> exact h.keep rfl rfl rfl rfl (.refl _)
    split
    · exact h.keep rfl rfl rfl rfl (.refl _)
    · exact h
  · exact hhello _ _ _
  · exact h.keep rfl rfl rfl rfl (.refl _)
  · exact h
  · exact h
  · split
    · exact h
    · exact h.keep rfl rfl rfl rfl (.refl _)
    · exact h.keep rfl rfl rfl rfl (.refl _)
  · exact h

lemma Consistent.resume {s : Controller} {l : Ledger} (h : Consistent s l) (r : ℕ) :
    Consistent (s.resume o r).1 l := by
  unfold Controller.resume
  split
  · exact h
  next q hq =>
  split
  · next outcome hwaiting _ =>
    have hviews := views_resumeSend (o := o) (s := s) (r := r) (by rw [progressOf, hq, ← hwaiting]; rfl) q outcome
    rcases s.resumeSend_cases r q outcome with ⟨error, heq⟩ | ⟨active, params, -, -, heq⟩
    · rw [heq] at hviews ⊢
      exact h.keep rfl rfl hviews rfl (.refl _)
    · rw [heq] at hviews ⊢
      exact h.keep rfl rfl hviews rfl (.refl _)
  · split
    · exact h.runCleanup hq
    · exact h
  · exact h

lemma Consistent.onBinary {s : Controller} {l : Ledger} (h : Consistent s l) (payload : Bytes) :
    Consistent (s.onBinary payload).1 l := by
  have hkeeps := keepsStreams_onBinary s payload
  unfold Controller.onBinary at hkeeps ⊢
  split at hkeeps
  · exact h
  split at hkeeps
  · exact h
  next frame _ _ k _ =>
  obtain ⟨streams, calls, heq, -⟩ := s.ingest_frame k frame
  rw [heq] at hkeeps ⊢
  exact h.keep rfl rfl rfl rfl hkeeps

lemma Consistent.react {s : Controller} {l : Ledger} (h : Consistent s l) (htracks : Tracks o s)
    (hnegotiates : Negotiates messages s) {e : ControllerEvent} (he : s.keepsOrder o l e = true) :
    Consistent (s.react o e).1 (l.note o s e) := by
  cases e with
  | opened sessionId =>
    show Consistent (s.opened sessionId) l
    unfold Controller.opened
    split
    · exact h
    · exact h.keep rfl rfl rfl rfl (.refl _)
  | control payload =>
    refine h.control htracks hnegotiates payload fun ref sub hack => orderly_of_isOrderly h ?_
    have hall : (s.acknowledges o payload).all (fun sub => s.isOrderly l sub.1 sub.2) = true := he
    rw [hack] at hall
    exact hall
  | binary payload =>
    show Consistent (s.react o (.binary payload)).1 l
    simp only [Controller.react]
    split
    · exact h.onBinary payload
    · exact h
  | close =>
    have hclosing := h.closing (t := s) rfl rfl rfl rfl rfl
    show Consistent s.onClose.1 (if (!s.closed) = true then _ else l)
    cases hopen : s.closed <;> rw [hopen] at hclosing <;> exact hclosing
  | request method params =>
    exact h.append (fun ref k b => by simp) rfl rfl (views_issue s (.request method) params false)
      rfl rfl
  | subscribe ref viewport => exact h.subscribe ref viewport
  | unsubscribe ref => exact h.unsubscribe ref
  | next k read =>
    exact h.onStream k (fun stream hended => PtyEventStream.ended_next hended read)
      fun stream hquiet => hquiet.next read
  | callReturned outcome => exact h.callReturned outcome
  | signed signature =>
    show Consistent (s.signed signature) l
    unfold Controller.signed
    split
    · split
      · exact h
      · exact h.keep rfl rfl rfl rfl (.refl _)
    · exact h
  | timer =>
    show Consistent s.onTimer.1 (if (s.timer && s.calls.isEmpty && !s.closed) = true then _ else l)
    unfold Controller.onTimer
    split
    · next hruns =>
      have hclosing := h.closing (t := { s with timer := false, awaitingHelloAck := false }.settleAck
        (.error (unavailable "handshake timeout: host sent no HelloAck"))) rfl rfl rfl rfl rfl
      have hcloses : (s.timer && s.calls.isEmpty && !s.closed) = !s.closed := by simp [hruns]
      rw [hcloses]
      cases hopen : s.closed <;> rw [hopen] at hclosing <;> exact hclosing
    · next hruns =>
      have hnot : ¬ (s.timer && s.calls.isEmpty && !s.closed) = true := by
        intro htimer
        simp only [Bool.and_eq_true, List.isEmpty_iff] at htimer
        exact hruns htimer.1
      rw [if_neg hnot]
      exact h
  | negotiate =>
    show Consistent (s.react o .negotiate).1 l
    simp only [Controller.react]
    split
    · exact h.negotiate
    · exact h
  | resume r =>
    show Consistent (s.react o (.resume r)).1 l
    simp only [Controller.react]
    split
    · exact h.resume r
    · exact h

lemma consistent_run (hid : Function.Injective o.newRequestId) {es : List ControllerEvent}
    (hes : (watchedMachine o).Meets (fun s e => s.1.keepsOrder o s.2 e = true) es) :
    Consistent ((watchedMachine o).run es).1 ((watchedMachine o).run es).2 := by
  refine (watchedMachine o).history_invariant_of_meets
    (p := fun _ s => Consistent s.1 s.2) consistent_init (fun es e he h => ?_) hes
  have htracks := tracks_run hid es
  have hnegotiates := negotiates_run (o := o) es
  rw [← watched_fst] at htracks hnegotiates
  exact h.react htracks hnegotiates he

/-! ## Routes -/

lemma ingest_other (s : Controller) {k j : ℕ} (h : j ≠ k) (frame : PtyFrame) :
    (s.ingest k frame).1.streams[j]? = s.streams[j]? := by
  unfold Controller.ingest
  split
  · rfl
  split
  · rfl
  next stream _ _ _ =>
  have hset : (s.streams.set k stream)[j]? = s.streams[j]? := List.getElem?_set_ne (Ne.symm h)
  dsimp only
  split
  · exact hset
  split <;> exact hset

lemma onBinary_changes {s : Controller} {payload : Bytes} {k : ℕ}
    (h : (s.onBinary payload).1.streams[k]? ≠ s.streams[k]?) :
    ∃ frame, decodePtyFrame payload = some frame ∧ s.streamsById.get frame.streamId = some k := by
  unfold Controller.onBinary at h
  split at h
  · exact absurd rfl h
  next frame hdecode =>
  split at h
  · exact absurd rfl h
  next j hget =>
  by_cases hkj : k = j
  · exact ⟨frame, hdecode, hkj ▸ hget⟩
  · exact absurd (s.ingest_other hkj frame) h

/-! ## Ends -/

/-- A `finally` that is still to run keeps the controller busy, once its request has settled. -/
lemma cleanup_of_view {s : Controller} {ref : SessionRef} {k : ℕ}
    (h : RequestView.unsubscribe ref k true ∈ s.views) :
    ∃ q ∈ s.requests, q.purpose = .unsubscribe ref k ∧ q.cleanup = true := by
  obtain ⟨q, hq, hview⟩ := List.mem_map.1 h
  refine ⟨q, hq, ?_⟩
  unfold Request.view at hview
  split at hview
  · cases hview
  · cases hview
  · next hpurpose =>
    simp only [RequestView.unsubscribe.injEq] at hview
    rw [hview.1, hview.2.1] at hpurpose
    exact ⟨hpurpose, hview.2.2⟩

lemma cleanup_runs {s : Controller} (hidle : s.isIdle = true) {q : Request} (hq : q ∈ s.requests)
    (hsettled : q.progress.isSettled = true) (hcleanup : q.cleanup = true) : False := by
  have hresume := isIdle_resume hidle hq
  unfold resumeReady at hresume
  cases hp : q.progress with
  | waiting =>
    rw [hp] at hsettled
    cases hsettled
  | sent id =>
    rw [hp] at hsettled
    cases hsettled
  | settled outcome =>
    rw [hp, hcleanup] at hresume
    cases hresume

lemma negotiated_of_returned {s : Controller} (h : BehindNegotiation s) {ref : SessionRef} {k : ℕ}
    (hk : RequestView.subscribe ref k true ∈ s.views) :
    ∃ outcome, s.negotiation = .settled outcome := by
  obtain ⟨q, hq, hview⟩ := List.mem_map.1 hk
  obtain ⟨r, hr⟩ := mem_requests_progressOf hq
  apply h r q.progress hr
  unfold Request.view at hview
  split at hview
  · cases hview
  · simp only [RequestView.subscribe.injEq] at hview
    unfold Progress.succeeded at hview
    split at hview
    · next heq =>
      rw [heq]
      rfl
    · cases hview.2.2
    · cases hview.2.2
    · cases hview.2.2
  · cases hview

end Controller

/-! ## The contract -/

/-- What the callers of a controller rely on for their streams, in a state of a run. -/
structure StreamContract (o : ControllerOptions) (s : Controller) (l : Ledger) : Prop where
  routes : ∀ payload frame ref k, s.sessionId.isSome = true → decodePtyFrame payload = some frame →
    l.live ref = some ⟨frame.streamId, k⟩ → s.react o (.binary payload) = s.ingest k frame
  alone : ∀ payload k, (s.react o (.binary payload)).1.streams[k]? ≠ s.streams[k]? →
    ∃ frame ref, decodePtyFrame payload = some frame ∧ l.live ref = some ⟨frame.streamId, k⟩
  ends : ∀ ref k, RequestView.subscribe ref k true ∈ s.views → k ∈ l.finished → s.isIdle = true →
    (∀ q ∈ s.requests, q.purpose = .unsubscribe ref k → q.progress.isSettled = true) →
    s.hasEnded k = true
  closes : ∀ ref k, RequestView.subscribe ref k true ∈ s.views → s.closed = true →
    s.isIdle = true → s.hasEnded k = true
  reads : ∀ (k : ℕ) (stream : PtyEventStream), s.streams[k]? = some stream → stream.ended = true →
    stream.pullers = [] ∧ ∀ read, (stream.next read).2 ≠ []

lemma streamContract {o : ControllerOptions} {s : Controller} {l : Ledger}
    (h : Controller.Consistent s l) (htracks : Controller.Tracks o s)
    (hbehind : Controller.BehindNegotiation s) :
    StreamContract o s l where
  routes payload frame ref k hopen hdecode hlive := by
    simp only [Controller.react, Controller.onBinary]
    rw [if_pos hopen, hdecode]
    dsimp only
    rw [(h.byId frame.streamId k).2 ⟨ref, hlive⟩]
  alone payload k hk := by
    simp only [Controller.react] at hk
    split at hk
    · obtain ⟨frame, hdecode, hget⟩ := Controller.onBinary_changes hk
      obtain ⟨ref, hlive⟩ := (h.byId frame.streamId k).1 hget
      exact ⟨frame, ref, hdecode, hlive⟩
    · exact absurd rfl hk
  ends ref k hreturned hover hidle hunsubscribed := by
    rcases h.returned ref k hreturned with ⟨id, hlive⟩ | hended | hunsub
    · exact absurd hover (h.tracked ref _ hlive).1
    · exact hended
    · obtain ⟨q, hq, hpurpose, hcleanup⟩ := Controller.cleanup_of_view hunsub
      exact (Controller.cleanup_runs hidle hq (hunsubscribed q hq hpurpose) hcleanup).elim
  closes ref k hreturned hclosed hidle := by
    rcases h.returned ref k hreturned with ⟨id, hlive⟩ | hended | hunsub
    · rw [h.closed hclosed ref] at hlive
      cases hlive
    · exact hended
    · obtain ⟨q, hq, hpurpose, hcleanup⟩ := Controller.cleanup_of_view hunsub
      rcases Controller.settled_or_waiting htracks hclosed hq with hsettled | hwaiting
      · exact (Controller.cleanup_runs hidle hq hsettled hcleanup).elim
      · -- a waiting request would go on behind the negotiation
        obtain ⟨outcome, hs⟩ := Controller.negotiated_of_returned hbehind hreturned
        have hresume := Controller.isIdle_resume hidle hq
        rw [Controller.resumeReady, hwaiting, hs] at hresume
        cases hresume
  reads k stream hk hended :=
    ⟨h.quiet stream (List.mem_of_getElem? hk) hended, fun read => stream.next_settles hended read⟩

/-- **Controller streams route to their latest subscriber and end.** Where request ids are distinct,
the contract holds in every state of a run in which every subscription that is acknowledged finds
things in order. -/
theorem streamContract_run {o : ControllerOptions} (hid : Function.Injective o.newRequestId)
    {es : List ControllerEvent}
    (hes : (watchedMachine o).Meets (fun s e => s.1.keepsOrder o s.2 e = true) es)
    {pre : List ControllerEvent} (hpre : pre <+: es) :
    StreamContract o ((watchedMachine o).run pre).1 ((watchedMachine o).run pre).2 := by
  obtain ⟨post, rfl⟩ := hpre
  have hmeets : (watchedMachine o).Meets (fun s e => s.1.keepsOrder o s.2 e = true) pre := hes.prefix
  have hconsistent := Controller.consistent_run hid hmeets
  have htracks := Controller.tracks_run hid pre
  have hbehind := Controller.behindNegotiation_run hid pre
  rw [← watched_fst] at htracks hbehind
  exact streamContract hconsistent htracks hbehind

/-! ## A second subscription -/

/-- A controller over a host that streams; the length of a response is the number of its request. -/
def streamingOptions : ControllerOptions where
  capabilities := [ptyStream]
  deviceSigner := none
  parseHelloAck _ := some ⟨protocolVersion, [ptyStream], []⟩
  parseResponse payload := some (.success (List.replicate payload.length 0x61) .null false)
  parseParams _ params := some params
  parseResult _ result := some result
  mirrorAck _ := 0
  newRequestId r := List.replicate r 0x61

lemma newRequestId_streamingOptions : Function.Injective streamingOptions.newRequestId := by
  intro r q h
  have hlength := congrArg List.length h
  simpa [streamingOptions] using hlength

/-- A session. -/
def someSession : SessionRef := ⟨js "sref_" ++ List.replicate 32 0x30, matchesId_zeros⟩

/-- A session is subscribed to, and the subscription returned. -/
def subscribedOnce : List ControllerEvent :=
  [.opened (.repeat 0), .subscribe someSession none, .negotiate, .callReturned .returned,
    .control [], .negotiate, .resume 0, .callReturned .returned, .control []]

/-- The session is subscribed to once more, and the channel closes. -/
def subscribedTwice : List ControllerEvent :=
  subscribedOnce ++ [.subscribe someSession none, .resume 1, .callReturned .returned, .control [0], .close]

/-- Nothing ends the stream of the first subscription. -/
theorem not_streamContract_subscribedTwice :
    ¬ StreamContract streamingOptions ((watchedMachine streamingOptions).run subscribedTwice).1
        ((watchedMachine streamingOptions).run subscribedTwice).2 := by
  intro h
  have hended := h.closes someSession 0 (by decide) (by decide) (by decide)
  have hnot : ((watchedMachine streamingOptions).run subscribedTwice).1.hasEnded 0 = false := by
    decide
  rw [hended] at hnot
  cases hnot

/-- The first subscription is given up before the second. -/
theorem streamContract_unsubscribed :
    StreamContract streamingOptions
      ((watchedMachine streamingOptions).run (subscribedOnce ++ [.unsubscribe someSession, .resume 1,
        .callReturned .returned, .control [0], .resume 1, .subscribe someSession none, .resume 2,
        .callReturned .returned, .control [0, 0], .close])).1
      ((watchedMachine streamingOptions).run (subscribedOnce ++ [.unsubscribe someSession, .resume 1,
        .callReturned .returned, .control [0], .resume 1, .subscribe someSession none, .resume 2,
        .callReturned .returned, .control [0, 0], .close])).2 :=
  streamContract_run newRequestId_streamingOptions (Machine.meets_of_checks (watchedMachine _)
    (c := fun s e => s.1.keepsOrder streamingOptions s.2 e) (by decide)) (List.prefix_refl _)

end Pherry.Sdk
