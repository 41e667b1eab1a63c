import Pherry.Sdk.RequestsSettle

/-!
# Streams and requests over a step

An event stream is kept and stays ended, and of a request the streams depend on its purpose and on
whether it succeeded.
-/

namespace Pherry.Sdk

open Lib Protocol

namespace PtyEventStream

/-! ## Streams stay ended -/

lemma ended_finish (s : PtyEventStream) : s.finish.1.ended = true := by
  unfold finish
  split
  · next h => exact h
  · rfl

lemma ended_next {s : PtyEventStream} (h : s.ended = true) (read : ℕ) :
    (s.next read).1.ended = true := by
  unfold next
  split
  · exact h
  split
  · exact h
  · simp [h]

lemma ended_fail {s : PtyEventStream} (h : s.ended = true) : s.fail.1.ended = true := by
  rw [fail, if_pos h]
  exact h

lemma ended_pushChunk {s : PtyEventStream} (h : s.ended = true) (payload : Bytes) :
    (s.pushChunk payload).1.ended = true := by
  unfold pushChunk
  split
  · exact h
  dsimp only
  split
  · exact ended_fail h
  · exact h

lemma ended_ingest {s : PtyEventStream} (h : s.ended = true) {frame : PtyFrame}
    {r : PtyEventStream × Settled × Option PtyEvent} (hr : s.ingest frame = some r) :
    r.1.ended = true := by
  unfold ingest at hr
  split at hr
  · obtain ⟨size, -, hr⟩ := Option.bind_eq_some_iff.1 hr
    cases hr
    exact h
  split at hr
  · cases hr
    exact ended_pushChunk h _
  split at hr
  · cases hr
    exact h
  split at hr
  · cases hr
    exact h
  split at hr
  · obtain ⟨size, -, hr⟩ := Option.bind_eq_some_iff.1 hr
    cases hr
    exact h
  split at hr
  · obtain ⟨code, -, hr⟩ := Option.bind_eq_some_iff.1 hr
    cases hr
    exact h
  split at hr <;> cases hr <;> exact h

lemma ended_deliver {s : PtyEventStream} (h : s.ended = true) (event : PtyEvent) :
    (s.deliver event).1.ended = true := by
  unfold deliver
  cases event with
  | ended seq code => exact ended_finish _
  | snapshot seq size data =>
    dsimp only
    split <;> exact h
  | output seq data =>
    dsimp only
    split <;> exact h
  | resize seq size =>
    dsimp only
    split <;> exact h
  | gap seq =>
    dsimp only
    split <;> exact h

lemma next_settles {s : PtyEventStream} (h : s.ended = true) (read : ℕ) :
    (s.next read).2 ≠ [] := by
  unfold next
  split
  · simp
  split
  · simp
  · simp

end PtyEventStream

namespace Controller

/-! ## Streams over a step -/

/-- Whether a stream has ended. -/
def hasEnded (s : Controller) (k : ℕ) : Bool := s.streams[k]?.any PtyEventStream.ended

/-- Streams are kept, stay ended, and leave no read waiting once they have. -/
structure KeepsStreams (old new : List PtyEventStream) : Prop where
  length : old.length ≤ new.length
  ended : ∀ (k : ℕ) (stream : PtyEventStream), old[k]? = some stream → stream.ended = true →
    ∃ stream' : PtyEventStream, new[k]? = some stream' ∧ stream'.ended = true
  quiet : (∀ stream ∈ old, PtyEventStream.Quiet stream) →
    ∀ stream ∈ new, PtyEventStream.Quiet stream

lemma KeepsStreams.refl (streams : List PtyEventStream) : KeepsStreams streams streams :=
  ⟨le_refl _, fun _ stream h hended => ⟨stream, h, hended⟩, fun h => h⟩

lemma KeepsStreams.trans {old mid new : List PtyEventStream} (h : KeepsStreams old mid)
    (h' : KeepsStreams mid new) : KeepsStreams old new where
  length := h.length.trans h'.length
  ended k stream hk hended := by
    obtain ⟨stream', hk', hended'⟩ := h.ended k stream hk hended
    exact h'.ended k stream' hk' hended'
  quiet hold := h'.quiet (h.quiet hold)

lemma hasEnded_iff {s : Controller} {k : ℕ} :
    s.hasEnded k = true ↔ ∃ stream, s.streams[k]? = some stream ∧ stream.ended = true := by
  unfold hasEnded
  cases s.streams[k]? <;> simp

lemma KeepsStreams.hasEnded {s t : Controller} (h : KeepsStreams s.streams t.streams) {k : ℕ}
    (hk : s.hasEnded k = true) : t.hasEnded k = true := by
  obtain ⟨stream, hstream, hended⟩ := hasEnded_iff.1 hk
  exact hasEnded_iff.2 (h.ended k stream hstream hended)

lemma keepsStreams_set {streams : List PtyEventStream} {k : ℕ} {stream new : PtyEventStream}
    (hk : streams[k]? = some stream) (hended : stream.ended = true → new.ended = true)
    (hquiet : stream.Quiet → new.Quiet) : KeepsStreams streams (streams.set k new) where
  length := by rw [List.length_set]
  ended j other hj hother := by
    rw [List.getElem?_set]
    by_cases hjk : k = j
    · subst hjk
      rw [hk] at hj
      cases hj
      refine ⟨new, ?_, hended hother⟩
      rw [if_pos rfl, if_pos (List.getElem?_eq_some_iff.1 hk).1]
    · rw [if_neg hjk]
      exact ⟨other, hj, hother⟩
  quiet hall other hother := by
    rcases List.mem_or_eq_of_mem_set hother with hmem | rfl
    · exact hall other hmem
    · exact hquiet (hall stream (List.mem_of_getElem? hk))

lemma keepsStreams_onStream (s : Controller) (k : ℕ)
    {f : PtyEventStream → PtyEventStream × Settled}
    (hended : ∀ stream, stream.ended = true → (f stream).1.ended = true)
    (hquiet : ∀ stream, stream.Quiet → (f stream).1.Quiet) :
    KeepsStreams s.streams (s.onStream k f).1.streams := by
  unfold onStream
  split
  · exact .refl _
  · next stream hk => exact keepsStreams_set hk (hended stream) (hquiet stream)

lemma keepsStreams_finish (s : Controller) (k : ℕ) :
    KeepsStreams s.streams (s.onStream k PtyEventStream.finish).1.streams :=
  keepsStreams_onStream s k (fun stream _ => stream.ended_finish) fun _ h => h.finish

lemma keepsStreams_onBinary (s : Controller) (payload : Bytes) :
    KeepsStreams s.streams (s.onBinary payload).1.streams := by
  unfold onBinary
  split
  · exact .refl _
  split
  · exact .refl _
  unfold ingest
  split
  · exact .refl _
  next k _ stream hk =>
  split
  · exact .refl _
  next stream' settled event hingest =>
  have hset := keepsStreams_set hk (fun h => PtyEventStream.ended_ingest h hingest)
    fun h => h.ingest hingest
  dsimp only
  split
  · exact hset
  split <;> exact hset

lemma keepsStreams_new (streams : List PtyEventStream) :
    KeepsStreams streams (streams ++ [PtyEventStream.new]) where
  length := by simp
  ended k stream hk hended := by
    refine ⟨stream, ?_, hended⟩
    rw [List.getElem?_append_left (List.getElem?_eq_some_iff.1 hk).1]
    exact hk
  quiet hall stream hstream := by
    rcases List.mem_append.1 hstream with hmem | hnew
    · exact hall stream hmem
    · rw [List.mem_singleton.1 hnew]
      exact PtyEventStream.quiet_new

lemma hasEnded_onStream {s : Controller} {k : ℕ} (hk : k < s.streams.length) :
    (s.onStream k PtyEventStream.finish).1.hasEnded k = true := by
  unfold onStream
  rw [List.getElem?_eq_getElem hk]
  simp [hasEnded, hk, PtyEventStream.ended_finish]

lemma endAll_spec (s : Controller) (ks : List ℕ) :
    KeepsStreams s.streams (s.endAll ks).1.streams ∧
      ∀ k ∈ ks, k < s.streams.length → (s.endAll ks).1.hasEnded k = true := by
  have hall : ∀ (r : Controller × List ControllerEffect),
      KeepsStreams r.1.streams (ks.foldl (fun r k =>
          let next := r.1.onStream k PtyEventStream.finish
          (next.1, r.2 ++ next.2)) r).1.streams ∧
        ∀ k ∈ ks, k < r.1.streams.length → (ks.foldl (fun r k =>
          let next := r.1.onStream k PtyEventStream.finish
          (next.1, r.2 ++ next.2)) r).1.hasEnded k = true := by
    induction ks with
    | nil => exact fun r => ⟨.refl _, nofun⟩
    | cons j ks ih =>
      intro r
      rw [List.foldl_cons]
      have hfirst := keepsStreams_finish r.1 j
      obtain ⟨hkeeps, hends⟩ := ih ((r.1.onStream j PtyEventStream.finish).1,
        r.2 ++ (r.1.onStream j PtyEventStream.finish).2)
      refine ⟨hfirst.trans hkeeps, fun k hk hlt => ?_⟩
      rcases List.mem_cons.1 hk with rfl | hk
      · exact hkeeps.hasEnded (hasEnded_onStream hlt)
      · exact hends k hk (lt_of_lt_of_le hlt hfirst.length)
  exact hall (s, [])

end Controller

/-! ## Requests over a step -/

/-- A promise that was resolved. -/
def Progress.succeeded : Progress → Bool
  | settled (.ok _) => true
  | settled (.error _) => false
  | waiting => false
  | sent _ => false

/-- What the streams depend on of a request: whether a subscription succeeded, whether the `finally`
of an `unsubscribe` is still to run. -/
inductive RequestView
  | request
  | subscribe (ref : SessionRef) (stream : ℕ) (succeeded : Bool)
  | unsubscribe (ref : SessionRef) (stream : ℕ) (cleanup : Bool)
deriving DecidableEq

/-- What the streams depend on of a request. -/
def Request.view (q : Request) : RequestView :=
  match q.purpose with
  | .request _ => .request
  | .subscribe ref stream => .subscribe ref stream q.progress.succeeded
  | .unsubscribe ref stream => .unsubscribe ref stream q.cleanup

lemma Request.view_progress {q q' : Request} (hpurpose : q'.purpose = q.purpose)
    (hcleanup : q'.cleanup = q.cleanup) (hsucceeded : q'.progress.succeeded = q.progress.succeeded) :
    q'.view = q.view := by
  unfold Request.view
  rw [hpurpose, hcleanup, hsucceeded]

namespace Controller

/-- What the streams depend on of the requests. -/
def views (s : Controller) : List RequestView := s.requests.map Request.view

lemma views_modify {requests : List Request} {r : ℕ} {f : Request → Request}
    (hf : ∀ q, requests[r]? = some q → (f q).view = q.view) :
    (requests.modify r f).map Request.view = requests.map Request.view := by
  apply List.ext_getElem?
  intro j
  rw [List.getElem?_map, List.getElem?_map, List.getElem?_modify]
  by_cases hjr : r = j
  · subst hjr
    cases hq : requests[r]? with
    | none => rfl
    | some q => simp [hf q hq]
  · cases requests[j]? <;> simp [hjr]

lemma views_modify_set {requests : List Request} {r : ℕ} {q : Request}
    (hq : requests[r]? = some q) (f : Request → Request) :
    (requests.modify r f).map Request.view = (requests.map Request.view).set r (f q).view := by
  obtain ⟨hlt, hget⟩ := List.getElem?_eq_some_iff.1 hq
  apply List.ext_getElem?
  intro j
  rw [List.getElem?_map, List.getElem?_modify, List.getElem?_set, List.length_map, List.getElem?_map]
  by_cases hjr : r = j
  · subst hjr
    simp [hget, hlt]
  · cases requests[j]? <;> simp [hjr]

lemma views_settle_error (s : Controller) (r : ℕ) (error : ClientError) :
    (s.settle r (.error error)).views = s.views := by
  refine views_modify fun q _ => ?_
  cases hp : q.progress with
  | waiting => exact Request.view_progress rfl rfl (by rw [hp]; rfl)
  | sent id => exact Request.view_progress rfl rfl (by rw [hp]; rfl)
  | settled outcome => rfl

lemma views_foldl_settle (rs : List ℕ) (error : ClientError) (s : Controller) :
    (rs.foldl (fun s r => s.settle r (.error error)) s).views = s.views := by
  induction rs generalizing s with
  | nil => rfl
  | cons r rs ih => rw [List.foldl_cons, ih, views_settle_error]

/-- The success of another request than a subscription does not matter to the streams. -/
lemma views_settle_other {s : Controller} {r : ℕ} {q : Request} (hq : s.requests[r]? = some q)
    (hpurpose : ∀ ref stream, q.purpose ≠ .subscribe ref stream)
    (outcome : Except ClientError Json) : (s.settle r outcome).views = s.views := by
  refine views_modify fun q' hq' => ?_
  rw [hq] at hq'
  cases hq'
  have hview : ∀ progress, ({ q with progress } : Request).view = q.view := by
    intro progress
    unfold Request.view
    cases hp : q.purpose with
    | request method => rfl
    | subscribe ref stream => exact absurd hp (hpurpose ref stream)
    | unsubscribe ref stream => rfl
  split
  · rfl
  · exact hview _

lemma views_settle_ok {s : Controller} {r : ℕ} {q : Request} (hq : s.requests[r]? = some q)
    {ref : SessionRef} {stream : ℕ} (hpurpose : q.purpose = .subscribe ref stream) {id : JsString}
    (hprogress : q.progress = .sent id) (result : Json) :
    (s.settle r (.ok result)).views = s.views.set r (.subscribe ref stream true) := by
  have hview : ({ q with progress := .settled (.ok result) } : Request).view =
      .subscribe ref stream true := by
    rw [Request.view, hpurpose]
    rfl
  refine (views_modify_set hq _).trans ?_
  rw [hprogress]
  exact congrArg (s.views.set r) hview

lemma views_issue (s : Controller) (purpose : Purpose) (params : Json) (cleanup : Bool) :
    (s.issue purpose params cleanup).views = s.views ++ [match purpose with
      | .request _ => .request
      | .subscribe ref stream => .subscribe ref stream false
      | .unsubscribe ref stream => .unsubscribe ref stream cleanup] := by
  unfold issue views
  rw [List.map_append, List.map_singleton]
  congr 2
  cases purpose with
  | request method => rfl
  | subscribe ref stream =>
    unfold Request.view
    cases s.closed <;> rfl
  | unsubscribe ref stream => rfl

variable {o : ControllerOptions}

lemma views_resumeSend {s : Controller} {r : ℕ} (hr : s.progressOf r = some .waiting)
    (request : Request) (outcome : Except ClientError (List JsString)) :
    (s.resumeSend o r request outcome).1.views = s.views := by
  rcases s.resumeSend_cases r request outcome with ⟨error, heq⟩ | ⟨active, params, -, -, heq⟩
  · rw [heq]
    exact views_settle_error s r error
  · rw [heq]
    refine views_modify fun q hq => ?_
    have hwaiting : q.progress = .waiting := by
      rw [progressOf, hq] at hr
      exact Option.some.inj hr
    exact Request.view_progress rfl rfl (by rw [hwaiting]; rfl)

end Controller

end Pherry.Sdk
